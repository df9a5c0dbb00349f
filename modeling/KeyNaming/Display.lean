import KeyNaming.Key.Comparer
import KeyNaming.Key.Written
import KeyNaming.Pattern.Match

/-!
How values are shown to people who debug with them.
-/

namespace KeyNaming

/-- A word, and arguments between parentheses. -/
def shown (word : String) (arguments : List Text) : Text :=
  Text.ofString word ++ Text.bracketed '(' ')' arguments

/-- Texts between square brackets, each between quotes. -/
def shownTexts (texts : List Text) : Text :=
  Text.bracketed '[' ']' (texts.map Text.quoted)

def Registry.display (r : Registry) : Text :=
  shown "ParameterInfos" [shownTexts (r.names.mergeSort Text.le)]

def Chain.display (c : Chain) : Text := shown "KeyChain" [c.format.quoted]

def Pairs.display (pairs : Pairs) : Text :=
  Text.bracketed '[' ']' (pairs.map fun (name, value) =>
    Text.bracketed '(' ')' [name.quoted, Text.quotedOption value])

/-- The decomposition of chains has nothing to show but its name. -/
def displayOfChains : Text := shown "KeyChainProvider" []

def displayOfPairs (r : Registry) : Text := shown "SequenceKeyProvider" [r.display]

/-- A comparer shows its decomposition and what it leaves out. -/
def Comparer.display (c : Comparer) (decomposition : Text) : Text :=
  shown "KeyComparer" [decomposition, "ignore_parameters=" ++ shownTexts c.ignoredNames]

def Wrapped.display (key : Text) : Text := shown "ComparableKey" [key]

def Pattern.display (p : Pattern) : Text := shown "CompiledPattern" [p.template.quoted]

def Match.display (m : Match) : Text :=
  Text.ofString "MatchResult(" ++ m.pattern.template.quoted ++ ", " ++
    Text.join ", " (m.items.map fun (identifier, value) =>
      identifier ++ "=" ++ Text.quotedOption value) ++ ")"

end KeyNaming
