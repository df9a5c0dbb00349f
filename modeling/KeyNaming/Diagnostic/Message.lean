import KeyNaming.Diagnostic.Basic

/-!
The diagnostics of each kind of problem, worded in one place.

A problem with a place is given its span; what the message quotes is the text
under the span.
-/

namespace KeyNaming.Diagnostic

/-- A text between single quotes. -/
def named (t : Text) : Text := "'" ++ t ++ "'"

/-- The end of a message about a template. -/
def inPattern (template : Text) : Text := " in pattern " ++ named template

/-- What may be escaped in a template. -/
def escapableHint : Text :=
  "Escape only \\ * + ? | \x7b \x7d [ ] ( ) < > ^ $ . # and whitespace"

/-- The text under a span, between single quotes. -/
def namedPart (source : Text) (span : Span) : Text :=
  named (source.slice span.start span.stop)

def unexpectedBracket (template : Text) (span : Span) (bracket : Text) : Diagnostic where
  code := .unexpectedBracket
  message := "Unexpected " ++ named bracket ++ " at offset " ++ Text.ofNat span.start ++
    inPattern template
  span := some span
  source := some template
  hint := some "Parts cannot nest; escape literal brackets with '\\'"

def unterminatedPart (template : Text) (span : Span) (closer : Text) : Diagnostic where
  code := .unterminatedPart
  message := "Unterminated part " ++ namedPart template span ++ inPattern template
  span := some span
  source := some template
  hint := some ("Close the part with " ++ named closer)

def missingIdentifier (template : Text) (span : Span) : Diagnostic where
  code := .missingIdentifier
  message := "Part " ++ namedPart template span ++ " has no parameter identifier" ++
    inPattern template
  span := some span
  source := some template
  hint := some "A part is written as \x7bprefix Identifier<regex> postfix\x7d"

def unknownEscape (template : Text) (span : Span) : Diagnostic where
  code := .unknownEscape
  message := "Unknown escape " ++ namedPart template span ++ inPattern template
  span := some span
  source := some template
  hint := some escapableHint

def trailingEscape (template : Text) (span : Span) : Diagnostic where
  code := .trailingEscape
  message := "Pattern " ++ named template ++ " ends with an escape character"
  span := some span
  source := some template
  hint := some escapableHint

def unterminatedRegex (template : Text) (span : Span) : Diagnostic where
  code := .unterminatedRegex
  message := "Unterminated regex " ++ namedPart template span ++ inPattern template
  span := some span
  source := some template
  hint := some "Close the regex with '>'; write a literal '>' as '\\>'"

def invalidRegex (template : Text) (span : Span) (reason : Text) : Diagnostic where
  code := .invalidRegex
  message := "Invalid regex " ++ namedPart template span ++ inPattern template ++ ": " ++ reason
  span := some span
  source := some template
  hint := some "Inline regexes use Python 're' syntax"

def duplicateIdentifier (template : Text) (span : Span) (identifier : Text) : Diagnostic where
  code := .duplicateIdentifier
  message := "Identifier " ++ named identifier ++ " occurs more than once" ++
    inPattern template
  span := some span
  source := some template
  hint := some ("Pin repeated parts to occurrences with " ++ named (identifier ++ "_0") ++
    ", " ++ named (identifier ++ "_1") ++ ", ...")

def noMatch (name template : Text) : Diagnostic where
  code := .noMatch
  message := named name ++ " did not match the pattern " ++ named template
  source := some name

def malformedKey (key : Text) (span : Span) : Diagnostic where
  code := .malformedKey
  message := "Malformed key " ++ named key ++ " at offset " ++ Text.ofNat span.start
  span := some span
  source := some key
  hint := some "Keys are written as name:value:name:value; escape ':' as '\\:'"

def invalidKeyEscape (key : Text) (span : Span) : Diagnostic where
  code := .invalidKeyEscape
  message := "Invalid escape " ++ namedPart key span ++ " in key " ++ named key
  span := some span
  source := some key
  hint := some "Valid escapes: \\\\ \\: \\0 \\a \\b \\t \\f \\n \\r \\xNN \\uNNNN \\UNNNNNNNN"

def unknownCulture (culture reason : Text) : Diagnostic where
  code := .unknownCulture
  message := "Unknown culture " ++ named culture ++ ": " ++ reason
  source := some culture
  hint := some "Use a BCP-47 code such as 'en' or 'en-US', or '' for the invariant culture"

end KeyNaming.Diagnostic
