import KeyNaming.Diagnostic.Basic
import KeyNaming.Regex.Basic

/-!
The parts of a pattern: literal text, and parts that capture the value of a
parameter.

Where several segments of a key have the name of a parameter, the occurrence
of a part says which of them it captures.
-/

namespace KeyNaming

/-- Which of the segments of one name a part captures. -/
inductive Occurrence where
  /-- The one with a number, counted from zero at the root. -/
  | pinned (index : Nat)
  /-- The last one. -/
  | last
deriving DecidableEq

namespace Occurrence

/-- The number that stands for the last occurrence. -/
def lastIndex : Nat := 0x7FFFFFFF

/-- The occurrence with a number. One number stands for the last one, so that
occurrence cannot be pinned. -/
def ofIndex (n : Nat) : Occurrence :=
  if n = lastIndex then .last else .pinned n

/-- The number of an occurrence, which parts of one parameter are sorted by. -/
def index : Occurrence → Nat
  | pinned n => n
  | last => lastIndex

def isLast : Occurrence → Bool
  | pinned _ => false
  | last => true

end Occurrence

/-- A part that captures a value. Before occurrences are assigned a part may
have none. -/
structure Capture (O : Type) where
  /-- The part as the template writes it. -/
  written : Text
  /-- Tells the part from all others of its pattern. -/
  identifier : Text
  /-- The lower-cased name of the parameter. -/
  parameter : Text
  /-- The text before the value. -/
  leading : Text
  /-- The text after the value. -/
  trailing : Text
  required : Bool
  occurrence : O
  /-- The values that the part captures. -/
  regex : Regex
  /-- Where the template writes the regular expression, if it does. -/
  regexSpan : Option Span

inductive PartOf (O : Type) where
  | literal (written text : Text)
  | capture (c : Capture O)

/-- A part whose occurrence is known. -/
abbrev Part := PartOf Occurrence

/-- A part as it was read. It has an occurrence only if the template pins one. -/
abbrev Draft := PartOf (Option Occurrence)

namespace PartOf

variable {O : Type}

def written : PartOf O → Text
  | .literal written _ => written
  | .capture c => c.written

def capture? : PartOf O → Option (Capture O)
  | .literal _ _ => none
  | .capture c => some c

end PartOf

/-- The regular expression of parts whose values are not limited. -/
def anyValueSource : Text := ".*?"

@[inherit_doc anyValueSource]
def anyValue : Regex where
  source := anyValueSource
  node := .cat (.repeated .lazy 0 none (.cat (.atom .any) .empty)) .empty
  flags := {}
  groupCount := 0
  groupNames := []
  read_source := by rfl

/-- Whether a part captures a value. A part whose values are not limited
captures any text, also where its regular expression would not match. -/
def Capture.accepts {O : Type} (c : Capture O) (value : Text) : Bool :=
  c.regex.source == anyValueSource || c.regex.matches? value

/-- Whether a part allows a value. A literal has none, so it allows any. -/
def PartOf.accepts {O : Type} : PartOf O → Text → Bool
  | .literal _ _, _ => true
  | .capture c, value => c.accepts value

end KeyNaming
