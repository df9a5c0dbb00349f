import KeyNaming.Text.Basic
import KeyNaming.Text.HiddenTable
import KeyNaming.Text.LetterTable
import KeyNaming.Text.NameTable

/-!
Classes of code points: blanks, letters, digits, word characters, the
characters of identifiers, and those that show nothing.

Each class is decided without its table for ASCII, so that statements about
ASCII text do not depend on the tables.
-/

namespace KeyNaming.Text

/-- Whether a number lies in one of the ranges. -/
def inRanges (ranges : List (Nat × Nat)) (n : Nat) : Bool :=
  ranges.any fun range => range.1 ≤ n && n ≤ range.2

end KeyNaming.Text

namespace KeyNaming.CodePoint

/-- White space, with the four information separators and the spaces of all
widths, but without the zero-width ones. -/
def isBlank (c : CodePoint) : Bool :=
  let n := c.value
  (0x09 ≤ n && n ≤ 0x0D) || (0x1C ≤ n && n ≤ 0x20) || n == 0x85 || n == 0xA0 ||
    n == 0x1680 || (0x2000 ≤ n && n ≤ 0x200A) || n == 0x2028 || n == 0x2029 ||
    n == 0x202F || n == 0x205F || n == 0x3000

/-- A letter of any script. -/
def isAlphabetic (c : CodePoint) : Bool :=
  if c.isAscii then c.isAsciiLetter
  else Text.inRanges Text.alphabeticRanges c.value

/-- The value of a decimal digit of any script. -/
def decimal? (c : CodePoint) : Option Nat :=
  if c.isAscii then
    if c.isAsciiDigit then some (c.value - 0x30) else none
  else
    (Text.decimalZeros.find? fun first => first ≤ c.value && c.value < first + 10).map
      fun first => c.value - first

def isDecimal (c : CodePoint) : Bool :=
  c.decimal?.isSome

/-- A decimal digit or another digit, such as a superscript. -/
def isDigit (c : CodePoint) : Bool :=
  c.isDecimal || (!c.isAscii && Text.inRanges Text.digitRanges c.value)

/-- A letter, or a character with a numeric value. -/
def isAlphanumeric (c : CodePoint) : Bool :=
  if c.isAscii then c.isAsciiLetter || c.isAsciiDigit
  else c.isAlphabetic || Text.inRanges Text.numeralRanges c.value

/-- A letter, a character with a numeric value, or the underscore. -/
def isWord (c : CodePoint) : Bool :=
  c.isAlphanumeric || c.value == 0x5F

/-- A character that may start an identifier. -/
def isNameStart (c : CodePoint) : Bool :=
  if c.isAscii then c.isAsciiLetter || c.value == 0x5F
  else (c.isAlphabetic && !Text.inRanges Text.nameStartRemoved c.value) ||
    Text.inRanges Text.nameStartAdded c.value

/-- A character that may continue an identifier. -/
def isNameContinue (c : CodePoint) : Bool :=
  if c.isAscii then c.isAsciiWord
  else (c.isAlphanumeric && !Text.inRanges Text.nameContinueRemoved c.value) ||
    Text.inRanges Text.nameContinueAdded c.value

/-- A code point that shows nothing: a control, a format character, a space
other than the plain one, or a code point without a character. -/
def isHidden (c : CodePoint) : Bool :=
  if c.isAscii then c.isControl
  else Text.inRanges Text.hiddenRanges c.value

end KeyNaming.CodePoint

namespace KeyNaming.Text

def isIdentifier : Text → Bool
  | [] => false
  | c :: rest => c.isNameStart && rest.all CodePoint.isNameContinue

/-- Whether a text is a non-empty run of letters. -/
def isAlphabetic (t : Text) : Bool :=
  !t.isEmpty && t.all CodePoint.isAlphabetic

def isDigits (t : Text) : Bool :=
  !t.isEmpty && t.all CodePoint.isDigit

end KeyNaming.Text
