import KeyNaming.Pattern.Match

/-!
Values by identifier, put in the order of a key.

The end of an identifier that says which occurrence it means is taken off, and
the values are sorted by the weight of their parameter and the occurrence.
Values of one weight keep their order.
-/

namespace KeyNaming

namespace Parameters

/-- What an identifier says about the occurrence. -/
inductive Mention where
  | none
  | last
  | index (digits : Text)

/-- The mention that a whole text is, if it is one. -/
def mention? : Text → Option Mention
  | u :: rest =>
    if u != '_' then .none
    else if rest == [CodePoint.ofChar 'n'] then some .last
    else if !rest.isEmpty && rest.all CodePoint.isAsciiDigit then some (.index rest)
    else .none
  | [] => .none

/-- Splits a text into a name and a mention. The name takes one character at
least and no more than is needed, and no line feed. -/
def splitName? : Text → Option (Text × Mention)
  | [] => .none
  | c :: rest =>
    if c == '\n' then .none
    else if rest.isEmpty then some ([c], .none)
    else
      match mention? rest with
      | some mention => some ([c], mention)
      | .none => (splitName? rest).map fun (name, mention) => (c :: name, mention)

/-- The number that a mention adds to the weight. -/
def Mention.weight : Mention → Except Nat Nat
  | .none | .last => .ok 0
  | .index digits =>
    if Text.decimalDigitLimit < digits.length then .error digits.length
    else .ok (Text.valueOf 10 digits)

structure Weighed where
  weight : Int
  name : Text
  value : Text

/-- The parameter that an identifier and a value stand for, if they do. An
occurrence with too many digits is an error that gives their number. -/
def weigh (r : Registry) (identifier : Text) (value : Option Text) :
    Except Nat (Option Weighed) :=
  match value with
  | none | some [] => .ok .none
  | some value =>
    match splitName? identifier with
    | .none => .ok .none
    | some (name, mention) => do
      let name := Match.reportedName name.lower
      let extra ← mention.weight
      pure (some ⟨r.sortOrder name + extra, name, value⟩)

/-- The parameters of values by identifier, in the order of a key. -/
def ofValues (r : Registry) (values : Entries Text (Option Text)) :
    Except Nat (List (Text × Text)) := do
  let weighed ← values.mapM fun (identifier, value) => weigh r identifier value
  let sorted := (weighed.filterMap id).mergeSort fun a b => a.weight ≤ b.weight
  pure (sorted.map fun w => (w.name, w.value))

end Parameters

end KeyNaming
