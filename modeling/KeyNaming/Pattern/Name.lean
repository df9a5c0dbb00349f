import KeyNaming.Pattern.Basic

/-!
Names built from values.

A part with a value writes it between its separators. A part without one, or
with an empty one, is left out with its separators if it is optional; if it is
required there is no name.
-/

namespace KeyNaming

/-- The name that parts write for values, one value for each capture. -/
def nameOf : List Part → List (Option Text) → Option Text
  | [], _ => some []
  | .literal _ text :: parts, values => (nameOf parts values).map (text ++ ·)
  | .capture _ :: _, [] => none
  | .capture c :: parts, value :: values =>
    match value with
    | none | some [] => if c.required then none else nameOf parts values
    | some v => (nameOf parts values).map fun rest => c.leading ++ v ++ c.trailing ++ rest

namespace Pattern

/-- The name for values in the order of the captures. Values beyond the
captures are ignored; with fewer values there is no name. -/
def build (p : Pattern) (values : List (Option Text)) : Option Text :=
  if values.length < p.captures.length then none else nameOf p.parts values

def buildFrom (p : Pattern) (values : Prefilled) : Option Text :=
  nameOf p.parts (p.identifiers.map values.value?)

end Pattern

end KeyNaming
