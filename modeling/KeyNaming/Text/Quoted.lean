import KeyNaming.Text.Class

/-!
Quoted forms of text: between quotes for people, and as a JSON string.

A quoted form for people uses single quotes unless the text has one and no
double quote, and escapes what would show nothing; a JSON string escapes the
control characters below the space and leaves all other text as it is.
-/

namespace KeyNaming.Text

/-- A code point by its number, in as few digits as its size allows. -/
def numberedPoint (c : CodePoint) : Text :=
  if c.value ≤ 0xFF then ofString "\\x" ++ ofHex id 2 c.value
  else if c.value ≤ 0xFFFF then ofString "\\u" ++ ofHex id 4 c.value
  else ofString "\\U" ++ ofHex id 8 c.value

/-- One code point between quotes of a given kind. -/
def quotedPoint (quote c : CodePoint) : Text :=
  if c == quote || c == '\\' then ['\\', c]
  else if c == '\t' then "\\t"
  else if c == '\n' then "\\n"
  else if c == '\r' then "\\r"
  else if c.isHidden then numberedPoint c
  else [c]

def quoted (t : Text) : Text :=
  let quote : CodePoint := if t.contains '\'' && !t.contains '"' then '"' else '\''
  quote :: t.flatMap (quotedPoint quote) ++ [quote]

/-- A text between quotes, or the word that stands for no text. -/
def quotedOption : Option Text → Text
  | some t => quoted t
  | none => "None"

/-- Items between brackets with commas. -/
def bracketed (opener closer : CodePoint) (items : List Text) : Text :=
  opener :: join ", " items ++ [closer]

/-- One code point inside a JSON string. -/
def jsonPoint (c : CodePoint) : Text :=
  if c == '"' then "\\\""
  else if c == '\\' then "\\\\"
  else if c == '\n' then "\\n"
  else if c == '\r' then "\\r"
  else if c == '\t' then "\\t"
  else if c == '\x08' then "\\b"
  else if c == '\x0c' then "\\f"
  else if c.value < 0x20 then ofString "\\u" ++ ofHex id 4 c.value
  else [c]

def json (t : Text) : Text :=
  let quote : CodePoint := '"'
  quote :: t.flatMap jsonPoint ++ [quote]

end KeyNaming.Text
