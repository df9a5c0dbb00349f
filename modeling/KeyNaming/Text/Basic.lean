/-!
Text as a list of Unicode code points.

Keys and names are compared, cut and counted by code point, and an escape in
key text may name a surrogate, so a text is a list of code points rather than
a `String`. This module holds the two types, the literals of both, and the
few list operations that every other module uses.
-/

namespace KeyNaming

/-- One Unicode code point, surrogates included. -/
structure CodePoint where
  value : Nat
  value_lt : value < 0x110000
deriving DecidableEq

abbrev Text := List CodePoint

namespace CodePoint

def ofChar (c : Char) : CodePoint where
  value := c.toNat
  value_lt := by
    have hvalid := c.valid
    simp only [UInt32.isValidChar, Nat.isValidChar] at hvalid
    simp only [Char.toNat]
    omega

instance : Coe Char CodePoint := ⟨ofChar⟩

/-- The code point with a given number, if there is one. -/
def ofNat? (n : Nat) : Option CodePoint :=
  if h : n < 0x110000 then some ⟨n, h⟩ else none

/-- Surrogates are the code points that have no UTF-8 form. -/
def isSurrogate (c : CodePoint) : Bool :=
  0xD800 ≤ c.value && c.value ≤ 0xDFFF

def isAscii (c : CodePoint) : Bool :=
  c.value < 0x80

def isAsciiDigit (c : CodePoint) : Bool :=
  0x30 ≤ c.value && c.value ≤ 0x39

def isAsciiLetter (c : CodePoint) : Bool :=
  (0x41 ≤ c.value && c.value ≤ 0x5A) || (0x61 ≤ c.value && c.value ≤ 0x7A)

/-- Letters, digits and the underscore of ASCII. -/
def isAsciiWord (c : CodePoint) : Bool :=
  c.isAsciiLetter || c.isAsciiDigit || c.value == 0x5F

/-- Control characters of ASCII. -/
def isControl (c : CodePoint) : Bool :=
  c.value < 0x20 || c.value == 0x7F

/-- The number that a digit stands for in bases up to thirty-six. -/
def digit? (c : CodePoint) : Option Nat :=
  if c.isAsciiDigit then some (c.value - 0x30)
  else if 0x61 ≤ c.value && c.value ≤ 0x7A then some (c.value - 0x61 + 10)
  else if 0x41 ≤ c.value && c.value ≤ 0x5A then some (c.value - 0x41 + 10)
  else none

end CodePoint

/-- The element at an offset, which counts from the end if it is negative. -/
def elementAt? {A : Type} (l : List A) (offset : Int) : Option A :=
  if 0 ≤ offset then l[offset.toNat]?
  else if 0 ≤ offset + l.length then l[(offset + l.length).toNat]?
  else none

namespace Text

def ofString (s : String) : Text :=
  s.toList.map CodePoint.ofChar

instance : Coe String Text := ⟨ofString⟩

def ofNat (n : Nat) : Text :=
  (Nat.toDigits 10 n).map CodePoint.ofChar

/-- An integer in decimal digits, with a minus sign where it is negative. -/
def ofInt : Int → Text
  | .ofNat n => ofNat n
  | .negSucc n => CodePoint.ofChar '-' :: ofNat (n + 1)

/-- A number in digits of base sixteen, filled with zeros to a given width. -/
def ofHex (alphabet : Char → Char) (width n : Nat) : Text :=
  let digits := (Nat.toDigits 16 n).map fun c => CodePoint.ofChar (alphabet c)
  List.replicate (width - digits.length) (CodePoint.ofChar '0') ++ digits

/-- The texts of a list with a separator between each two. -/
def join (separator : Text) (parts : List Text) : Text :=
  separator.intercalate parts

/-- The pieces of a text between the occurrences of a separator. -/
def splitOn (separator : CodePoint) : Text → List Text
  | [] => [[]]
  | c :: rest =>
    if c = separator then [] :: splitOn separator rest
    else
      match splitOn separator rest with
      | [] => [[c]]
      | piece :: pieces => (c :: piece) :: pieces

/-- The order of texts by code point. -/
def le : Text → Text → Bool
  | [], _ => true
  | _ :: _, [] => false
  | c :: s, d :: t => c.value < d.value || (c.value == d.value && le s t)

/-- Offsets count from the start, so this is the slice between two of them. -/
def slice (t : Text) (start stop : Nat) : Text :=
  (t.drop start).take (stop - start)

end Text

end KeyNaming
