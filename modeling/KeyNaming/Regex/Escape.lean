import KeyNaming.Regex.Groups
import KeyNaming.Text.Character

/-!
Escapes of regular expressions: how a backslash and what follows it are read,
inside a set of characters and outside of one, and how a text is written so
that it stands for itself.
-/

namespace KeyNaming.Regex

/-- The characters that a letter after a backslash stands for. -/
def controlEscape? (c : CodePoint) : Option CodePoint :=
  if c == 'a' then some '\x07'
  else if c == 'b' then some '\x08'
  else if c == 'f' then some '\x0c'
  else if c == 'n' then some '\n'
  else if c == 'r' then some '\r'
  else if c == 't' then some '\t'
  else if c == 'v' then some '\x0b'
  else if c == '\\' then some '\\'
  else none

/-- The class that a letter after a backslash names. -/
def classEscape? (c : CodePoint) : Option Member :=
  if c == 'd' then some (.named .digit false)
  else if c == 'D' then some (.named .digit true)
  else if c == 's' then some (.named .blank false)
  else if c == 'S' then some (.named .blank true)
  else if c == 'w' then some (.named .word false)
  else if c == 'W' then some (.named .word true)
  else none

/-- The position that a letter after a backslash names. -/
def anchorEscape? (c : CodePoint) : Option Anchor :=
  if c == 'A' then some .textStart
  else if c == 'b' then some .boundary
  else if c == 'B' then some .nonBoundary
  else if c == 'Z' then some .textEnd
  else none

def isOctalDigit (c : CodePoint) : Bool :=
  0x30 ≤ c.value && c.value ≤ 0x37

def isHexDigit (c : CodePoint) : Bool :=
  c.isAsciiDigit || (0x41 ≤ c.value && c.value ≤ 0x46) || (0x61 ≤ c.value && c.value ≤ 0x66)

/-- The number of digits that the letter of a hexadecimal escape asks for. -/
def hexWidth? (c : CodePoint) : Option Nat :=
  if c == 'x' then some 2
  else if c == 'u' then some 4
  else if c == 'U' then some 8
  else none

/-- The code point of a hexadecimal escape. A number beyond the code points is
a fault, and one that fills a machine word does not even count as a number. -/
def readHex (letter : CodePoint) (width : Nat) (s : Source) :
    Except Error (CodePoint × Source) := do
  let (digits, rest) ← s.takeWhile isHexDigit width
  let escape := ('\\' : CodePoint) :: letter :: digits
  if digits.length != width then rest.fault (.incompleteEscape escape) escape.length
  else
    let n := Text.valueOf 16 digits
    match CodePoint.ofNat? n with
    | some c => pure (c, rest)
    | none =>
      if 0x80000000 ≤ n then .error .numberTooLarge
      else rest.fault (.badEscape escape) escape.length

/-- The code point of an octal escape, whose digits have to stay in a byte. -/
def octal (digits : Text) (s : Source) : Except Error CodePoint :=
  let n := Text.valueOf 8 digits
  match CodePoint.ofNat? n with
  | some c =>
    if n ≤ 0xFF then .ok c
    else s.fault (.octalEscapeTooLarge ('\\' :: digits)) (digits.length + 1)
  | none => s.fault (.octalEscapeTooLarge ('\\' :: digits)) (digits.length + 1)

/-- The code point of a character by its name. A name with a surrogate is not looked up
at all. -/
def readNamed (s : Source) : Except Error (CodePoint × Source) := do
  let (found, rest) ← s.accept '\x7b'
  if !found then rest.fault .missingOpeningBrace 0
  else
    let (name, rest) ← rest.name '\x7d' "character name"
    if name.any CodePoint.isSurrogate then rest.fault (.badEscape ['\\', 'N']) 2
    else
      match CodePoint.ofName? name with
      | some c => pure (c, rest)
      | none => rest.fault (.undefinedCharacterName name) (name.length + 4)

/-- Reads what follows a backslash and a character inside a set. -/
def readSetEscape (c : CodePoint) (s : Source) : Except Error (Member × Source) := do
  if let some d := controlEscape? c then return (.single d, s)
  if let some m := classEscape? c then return (m, s)
  if let some width := hexWidth? c then
    let (d, rest) ← readHex c width s
    return (.single d, rest)
  if c == 'N' then
    let (d, rest) ← readNamed s
    pure (.single d, rest)
  else if isOctalDigit c then
    let (digits, rest) ← s.takeWhile isOctalDigit 2
    let d ← octal (c :: digits) rest
    pure (.single d, rest)
  else if c.isAsciiDigit || c.isAsciiLetter then s.fault (.badEscape ['\\', c]) 2
  else pure (.single c, s)

/-- Reads a reference to a group by the digits of its number. -/
def readReference (digits : Text) (g : Groups) (s : Source) : Except Error (Atom × Source) := do
  let i := Text.valueOf 10 digits
  if i < g.next then
    if (g.width? i).isNone then s.fault .openGroupReference (digits.length + 1)
    else
      g.checkLookBehind i s
      pure (.reference i, s)
  else s.fault (.invalidGroupReference i) digits.length

/-- Reads an escape that starts with a digit: three octal digits, or a zero and
octal digits, are a character, any other number refers to a group. -/
def readDigits (c : CodePoint) (g : Groups) (s : Source) : Except Error (Atom × Source) := do
  if c == '0' then
    let (digits, rest) ← s.takeWhile isOctalDigit 2
    let d ← octal (c :: digits) rest
    return (.literal d, rest)
  let (second, rest) ← s.takeWhile CodePoint.isAsciiDigit 1
  if (c :: second).all isOctalDigit && second.length == 1 then
    let (third, rest') ← rest.takeWhile isOctalDigit 1
    if third.length == 1 then
      let d ← octal (c :: second ++ third) rest'
      return (.literal d, rest')
  readReference (c :: second) g rest

/-- Reads what follows a backslash and a character outside of a set. -/
def readEscape (c : CodePoint) (g : Groups) (s : Source) : Except Error (Atom × Source) := do
  if let some a := anchorEscape? c then return (.anchor a, s)
  if let some m := classEscape? c then return (.set false [m], s)
  if let some d := controlEscape? c then return (.literal d, s)
  if let some width := hexWidth? c then
    let (d, rest) ← readHex c width s
    return (.literal d, rest)
  if c == 'N' then
    let (d, rest) ← readNamed s
    pure (.literal d, rest)
  else if c.isAsciiDigit then readDigits c g s
  else if c.isAsciiLetter then s.fault (.badEscape ['\\', c]) 2
  else pure (.literal c, s)

/-- Characters that mean something outside of sets, and blanks of ASCII. -/
def isSpecial (c : CodePoint) : Bool :=
  Text.ofString "()[]\x7b\x7d?*+-|^$\\.&~# \t\n\r\x0b\x0c" |>.contains c

/-- The regular expression that matches a text and nothing else. -/
def escape (t : Text) : Text :=
  t.flatMap fun c => if isSpecial c then ['\\', c] else [c]

end KeyNaming.Regex
