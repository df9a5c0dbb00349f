import KeyNaming.Entries
import KeyNaming.Key.Decomposition
import KeyNaming.Text.Utf8

/-!
Equivalence of keys, and a hash that agrees with it.

Two keys name the same resource if their non-canonical parameters are the same
map and their canonical segments are the same sequence. Of several
non-canonical segments of one name the one closest to the tail counts; if its
value is empty the parameter counts as absent. Names are compared without
regard to case, values exactly.
-/

namespace KeyNaming

/-- What is left out when keys are compared. Comparers are told apart by their
labels, also where they leave out the same names. -/
structure Comparer where
  label : Nat := 0
  /-- The lower-cased names of the non-canonical parameters left out. -/
  ignored : List Text := []

/-- The basis and the prime of the hash. -/
def hashBasis : UInt32 := 0x811C9DC5

@[inherit_doc hashBasis]
def hashPrime : UInt32 := 0x01000193

/-- Takes bytes into a hash: each is added without carry after the hash was
multiplied by the prime. -/
def hashBytes (h : UInt32) (bytes : List UInt8) : UInt32 :=
  bytes.foldl (fun h byte => (h * hashPrime) ^^^ byte.toUInt32) h

/-- The hash of a name and a value. The byte between them is in no UTF-8 text;
a surrogate in either of them leaves no hash. -/
def pairHash? (name : Text) (value : Option Text) : Option UInt32 := do
  let nameBytes ← name.utf8?
  let valueBytes ← (value.getD []).utf8?
  pure (hashBytes (hashBytes (hashBytes hashBasis nameBytes) [0xFF]) valueBytes)

namespace Comparer

def ignoring (names : List Text) (label : Nat) : Comparer :=
  { label, ignored := names.map Text.lower }

def ignoringCulture (label : Nat) : Comparer :=
  ignoring ["culture"] label

/-- The names left out, in order and each once. -/
def ignoredNames (c : Comparer) : List Text :=
  c.ignored.eraseDups.mergeSort Text.le

/-- The name and value of a segment that counts as non-canonical parameter. -/
def nonCanonicalPair? (c : Comparer) (s : Segment) : Option (Text × Text) :=
  match s.classification, s.value with
  | .nonCanonical, some value =>
    if c.ignored.contains s.name.lower then none else some (s.name.lower, value)
  | _, _ => none

/-- Adds a pair unless an earlier one has its name. -/
def addFirst (found : Entries Text Text) (pair : Text × Text) : Entries Text Text :=
  if found.any fun entry => entry.1 == pair.1 then found else found ++ [pair]

/-- The non-canonical parameters that count, in the order of their segments
from the tail. -/
def nonCanonical (c : Comparer) (segments : List Segment) : Entries Text Text :=
  ((segments.filterMap c.nonCanonicalPair?).foldl addFirst []).filter fun pair =>
    !pair.2.isEmpty

/-- The canonical segments from the tail, names lower-cased. -/
def canonical (segments : List Segment) : List (Text × Option Text) :=
  (segments.filter fun s => s.classification == .canonical).map fun s => (s.name.lower, s.value)

def sameEntries (a b : Entries Text Text) : Bool :=
  a.length == b.length && a.all fun entry => b.lookup entry.1 == some entry.2

/-- Whether two lists of segments denote the same resource. -/
def segmentsEqual (c : Comparer) (a b : List Segment) : Bool :=
  sameEntries (c.nonCanonical a) (c.nonCanonical b) && canonical a == canonical b

/-- Whether two keys, or the lack of keys, are equivalent. -/
def equal {K : Type} (c : Comparer) (d : Decomposition K) : Option K → Option K → Bool
  | none, none => true
  | some x, some y => c.segmentsEqual (d.segments x) (d.segments y)
  | _, _ => false

/-- Takes non-canonical parameters into a hash, in any order to the same
effect. -/
def hashNonCanonical? (h : UInt32) (entries : Entries Text Text) : Option UInt32 :=
  entries.foldlM (fun h entry => (pairHash? entry.1 (some entry.2)).map (h ^^^ ·)) h

/-- Takes canonical segments into a hash, in order. -/
def hashCanonical? (h : UInt32) (segments : List (Text × Option Text)) : Option UInt32 :=
  segments.foldlM (fun h s => (pairHash? s.1 s.2).map fun pair => (h ^^^ pair) * hashPrime) h

def segmentsHash? (c : Comparer) (segments : List Segment) : Option UInt32 :=
  (hashNonCanonical? hashBasis (c.nonCanonical segments)).bind fun h =>
    hashCanonical? h (canonical segments)

def hash? {K : Type} (c : Comparer) (d : Decomposition K) : Option K → Option UInt32
  | none => some 0
  | some key => c.segmentsHash? (d.segments key)

end Comparer

/-- A key with the comparer that decides what it equals. -/
structure Wrapped (K : Type) where
  comparer : Comparer
  key : Option K
  hash : UInt32

def Comparer.wrap? {K : Type} (c : Comparer) (d : Decomposition K) (key : Option K) :
    Option (Wrapped K) :=
  (c.hash? d key).map fun hash => ⟨c, key, hash⟩

/-- Wrapped keys are the same if one comparer wrapped both and finds them
equivalent. Hashes are compared first. -/
def Wrapped.same {K : Type} (d : Decomposition K) (x y : Wrapped K) : Bool :=
  x.comparer.label == y.comparer.label && x.hash == y.hash && x.comparer.equal d x.key y.key

end KeyNaming
