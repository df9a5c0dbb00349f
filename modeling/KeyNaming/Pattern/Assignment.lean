import KeyNaming.Pattern.Template

/-!
Assignment of occurrences to the parts that pin none.

A parameter with one such part binds it to the last occurrence. If it has
several, they take the first numbers in order that no part of the parameter
has, and the number becomes part of the identifier unless it is zero.
-/

namespace KeyNaming

namespace Template

/-- The parameter of a part that pins no occurrence. -/
def bareParameter? : Draft → Option Text
  | .capture c => if c.occurrence.isNone then some c.parameter else none
  | .literal _ _ => none

/-- The parameter of a part that pins a number, and the number. -/
def pinnedIndex? : Draft → Option (Text × Nat)
  | .capture c =>
    match c.occurrence with
    | some (.pinned n) => some (c.parameter, n)
    | _ => none
  | .literal _ _ => none

/-- The numbers taken for a parameter. -/
def takenFor (taken : List (Text × Nat)) (parameter : Text) : List Nat :=
  (taken.filter fun entry => entry.1 == parameter).map Prod.snd

/-- The smallest number that is not taken. It is at most the count of the
taken ones. -/
def firstFree (taken : List Nat) : Nat :=
  ((List.range (taken.length + 1)).find? fun n => !taken.contains n).getD 0

/-- An identifier with a number, which is left out if it is zero. -/
def numbered (identifier : Text) (n : Nat) : Text :=
  if n = 0 then identifier else identifier ++ ('_' : CodePoint) :: Text.ofNat n

def place (c : Capture (Option Occurrence)) (identifier : Text) (occurrence : Occurrence) : Part :=
  .capture { c with identifier, occurrence }

/-- Assigns occurrences in order. `bare` lists the parameters of all parts
without one, `taken` the numbers in use. -/
def assignFrom (bare : List Text) (taken : List (Text × Nat)) : List Draft → List Part
  | [] => []
  | .literal written text :: rest => .literal written text :: assignFrom bare taken rest
  | .capture c :: rest =>
    match c.occurrence with
    | some occurrence => place c c.identifier occurrence :: assignFrom bare taken rest
    | none =>
      if bare.count c.parameter == 1 then
        place c c.identifier .last :: assignFrom bare taken rest
      else
        let n := firstFree (takenFor taken c.parameter)
        place c (numbered c.identifier n) (.ofIndex n) ::
          assignFrom bare ((c.parameter, n) :: taken) rest

def assign (drafts : List Draft) : List Part :=
  assignFrom (drafts.filterMap bareParameter?) (drafts.filterMap pinnedIndex?) drafts

/-- Looks for a part whose identifier an earlier part has, regardless of case.
`seen` lists the identifiers of the parts before an offset. -/
def checkIdentifiers (seen : List Text) (offset : Nat) : List Part → Except Fault Unit
  | [] => .ok ()
  | .literal written _ :: rest => checkIdentifiers seen (offset + written.length) rest
  | .capture c :: rest =>
    if seen.contains c.identifier.lower then
      .error (.duplicateIdentifier (.ofLength offset c.written.length) c.identifier)
    else
      checkIdentifiers (c.identifier.lower :: seen) (offset + c.written.length) rest

end Template

end KeyNaming
