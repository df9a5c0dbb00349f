import KeyNaming.Regex.Syntax

/-!
How alternatives are joined into one sequence.

Alternatives that start with the same part share it, and alternatives that are
single characters or sets become one set. Both leave alone which texts match
and in which order the alternatives are tried, except that ignoring case
treats a member of a set more freely than a single character.
-/

namespace KeyNaming.Regex

/-- The first part of a sequence if it has no parts of its own. -/
def headAtom? : List Node → Option Atom
  | .atom a :: _ => some a
  | _ => none

/-- Splits off the parts that all alternatives start with. The first
alternative is given apart from the others. -/
def splitCommon : List Node → List (List Node) → List Node × List (List Node)
  | .atom a :: rest, others =>
    if others.all fun other => headAtom? other == some a then
      let (common, alternatives) := splitCommon rest (others.map List.tail)
      (.atom a :: common, alternatives)
    else ([], (.atom a :: rest) :: others)
  | first, others => ([], first :: others)

/-- The members of a set that an alternative is. -/
def members? : List Node → Option (List Member)
  | [.atom (.literal c)] => some [.single c]
  | [.atom (.set false members)] => some members
  | _ => none

/-- One sequence that stands for a choice of sequences. -/
def joinAlternatives : List (List Node) → List Node
  | [] => []
  | [only] => only
  | first :: others =>
    let (common, alternatives) := splitCommon first others
    match alternatives.mapM members? with
    | some members => common ++ [.atom (.set false members.flatten.eraseDups)]
    | none => common ++ [Node.choice (alternatives.map Node.seq)]

end KeyNaming.Regex
