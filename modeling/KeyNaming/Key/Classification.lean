import KeyNaming.Text.Basic

/-!
How a segment takes part in key equivalence.
-/

namespace KeyNaming

/-- The part that a segment plays when keys are compared. -/
inductive Classification where
  /-- The position counts: type, section, key. -/
  | canonical
  /-- The position does not count: culture, assembly. -/
  | nonCanonical
  /-- The segment is not compared: formatting hints. -/
  | unclassified
deriving DecidableEq

def Classification.text : Classification → Text
  | .canonical => "canonical"
  | .nonCanonical => "non_canonical"
  | .unclassified => "unclassified"

def Classification.ofText? (t : Text) : Option Classification :=
  [canonical, nonCanonical, unclassified].find? fun c => c.text == t

end KeyNaming
