/-!
Entries in the order in which their keys were first put.

Putting an entry whose key is already there replaces the value and keeps both
the place and the first spelling of the key. Which keys are the same is a
parameter, since wrapped keys are compared by a comparer.
-/

namespace KeyNaming

/-- Keys with values, in the order of first insertion. -/
abbrev Entries (K V : Type) := List (K × V)

namespace Entries

variable {K V : Type}

/-- The value of the entry whose key is the same as a given one. -/
def get? (same : K → K → Bool) (key : K) : Entries K V → Option V
  | [] => none
  | (k, v) :: rest => if same k key then some v else get? same key rest

/-- Replaces the value of the entry with the same key, or adds an entry at the
end. -/
def put (same : K → K → Bool) (key : K) (value : V) : Entries K V → Entries K V
  | [] => [(key, value)]
  | (k, v) :: rest => if same k key then (k, value) :: rest else (k, v) :: put same key value rest

def keys (entries : Entries K V) : List K := entries.map Prod.fst

def values (entries : Entries K V) : List V := entries.map Prod.snd

/-- For each key the index of the first one that is the same. -/
def firstIndices (same : K → K → Bool) (keys : List K) : List Nat :=
  keys.map fun key => keys.findIdx (same · key)

/-- How many keys there are, the same ones counted once. -/
def countDistinct (same : K → K → Bool) (keys : List K) : Nat :=
  (firstIndices same keys).eraseDups.length

end Entries

end KeyNaming
