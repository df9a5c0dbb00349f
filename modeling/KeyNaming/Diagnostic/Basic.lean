import KeyNaming.Text.Basic

/-!
Diagnostics: what is wrong with a template, a name, a key text or a culture,
and where.
-/

namespace KeyNaming

namespace Diagnostic

inductive Code where
  | unexpectedBracket
  | unterminatedPart
  | missingIdentifier
  | unknownEscape
  | trailingEscape
  | unterminatedRegex
  | invalidRegex
  | duplicateIdentifier
  | noMatch
  | malformedKey
  | invalidKeyEscape
  | unknownCulture
deriving DecidableEq

namespace Code

/-- All kinds, in the order of their numbers. -/
def all : List Code :=
  [unexpectedBracket, unterminatedPart, missingIdentifier, unknownEscape, trailingEscape,
    unterminatedRegex, invalidRegex, duplicateIdentifier, noMatch, malformedKey,
    invalidKeyEscape, unknownCulture]

def name : Code → Text
  | unexpectedBracket => "PATTERN_UNEXPECTED_BRACKET"
  | unterminatedPart => "PATTERN_UNTERMINATED_PART"
  | missingIdentifier => "PATTERN_MISSING_IDENTIFIER"
  | unknownEscape => "PATTERN_UNKNOWN_ESCAPE"
  | trailingEscape => "PATTERN_TRAILING_ESCAPE"
  | unterminatedRegex => "PATTERN_UNTERMINATED_REGEX"
  | invalidRegex => "PATTERN_INVALID_REGEX"
  | duplicateIdentifier => "PATTERN_DUPLICATE_IDENTIFIER"
  | noMatch => "PATTERN_NO_MATCH"
  | malformedKey => "KEY_MALFORMED"
  | invalidKeyEscape => "KEY_INVALID_ESCAPE"
  | unknownCulture => "CULTURE_UNKNOWN"

/-- The number of a kind. The thousands tell templates, matches and keys
apart. -/
def number : Code → Nat
  | unexpectedBracket => 1001
  | unterminatedPart => 1002
  | missingIdentifier => 1003
  | unknownEscape => 1004
  | trailingEscape => 1005
  | unterminatedRegex => 1006
  | invalidRegex => 1007
  | duplicateIdentifier => 1008
  | noMatch => 2001
  | malformedKey => 3001
  | invalidKeyEscape => 3002
  | unknownCulture => 3003

def ofName? (t : Text) : Option Code := all.find? fun c => c.name == t

end Code

/-- How much a problem weighs. -/
inductive Severity where
  | error
  | warning
deriving DecidableEq

def Severity.text : Severity → Text
  | .error => "error"
  | .warning => "warning"

end Diagnostic

/-- A part of a text, from one offset to another. -/
structure Span where
  start : Nat
  stop : Nat
  start_le_stop : start ≤ stop := by omega

/-- Why two numbers are no span. -/
inductive SpanError where
  | negativeStart (start : Int)
  | inverted (start stop : Int)

def SpanError.message : SpanError → Text
  | negativeStart start => "SourceSpan.start must be >= 0, got " ++ Text.ofInt start
  | inverted start stop =>
    "SourceSpan.end (" ++ Text.ofInt stop ++ ") must be >= start (" ++ Text.ofInt start ++ ")"

namespace Span

/-- The span between two offsets. A negative start is reported before an end
that precedes the start. -/
def ofInts (start stop : Int) : Except SpanError Span :=
  if start < 0 then .error (.negativeStart start)
  else if h : stop < start then .error (.inverted start stop)
  else .ok ⟨start.toNat, stop.toNat, by omega⟩

def ofLength (start length : Nat) : Span := ⟨start, start + length, by omega⟩

/-- The span from an offset to the end of a text of some length, empty where
the offset lies behind it. -/
def toEnd (start length : Nat) : Span := ⟨start, Nat.max start length, Nat.le_max_left ..⟩

/-- Columns count from one. -/
def column (s : Span) : Nat := s.start + 1

end Span

structure Diagnostic where
  code : Diagnostic.Code
  message : Text
  /-- Where in the source the problem is. -/
  span : Option Span := none
  /-- The text that has the problem. -/
  source : Option Text := none
  /-- How to mend it. -/
  hint : Option Text := none
  severity : Diagnostic.Severity := .error

/-- The part of the source that a span covers. -/
def Diagnostic.excerpt (d : Diagnostic) : Option Text :=
  match d.span, d.source with
  | some span, some source => some (source.slice span.start span.stop)
  | _, _ => none

end KeyNaming
