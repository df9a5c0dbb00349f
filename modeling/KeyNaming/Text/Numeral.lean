import KeyNaming.Text.Class

/-!
Reading numbers that people write: blanks around, a sign, digits of any
script, and single underscores between digits.
-/

namespace KeyNaming.Text

/-- The most decimal digits that a number may be written with. -/
def decimalDigitLimit : Nat := 4300

/-- Reads digits with single underscores between them. `wantsDigit` holds
where an underscore or the end may not stand. -/
def digits? (base acc : Nat) (wantsDigit : Bool) : Text → Option Nat
  | [] => if wantsDigit then none else some acc
  | c :: rest =>
    match c.digit? with
    | some d => if d < base then digits? base (acc * base + d) false rest else none
    | none => if c == '_' && !wantsDigit then digits? base acc true rest else none

/-- Brings blanks and decimal digits of other scripts to their ASCII forms;
any other code point outside ASCII has no place in a number. -/
def toAsciiNumeral? (t : Text) : Option Text :=
  t.mapM fun c =>
    if c.isAscii then some c
    else if c.isBlank then some ' '
    else c.decimal?.bind fun d => CodePoint.ofNat? (0x30 + d)

/-- The blanks that may stand around a number once it is in ASCII. -/
def isNumeralBlank (c : CodePoint) : Bool :=
  (0x09 ≤ c.value && c.value ≤ 0x0D) || c.value == 0x20

/-- A text without the blanks at its ends. -/
def trimBlanks (t : Text) : Text :=
  ((t.dropWhile isNumeralBlank).reverse.dropWhile isNumeralBlank).reverse

/-- The digits after the mark `0x`, which base sixteen allows, and after the
one underscore that may follow it. -/
def afterBaseMark (base : Nat) (t : Text) : Text :=
  match t with
  | z :: x :: rest =>
    if base == 16 && z == '0' && (x == 'x' || x == 'X') then
      match rest with
      | u :: rest' => if u == '_' then rest' else rest
      | [] => []
    else t
  | _ => t

/-- The number that a text writes in a base, if it writes one. -/
def int? (base : Nat) (t : Text) : Option Int :=
  match (toAsciiNumeral? t).map trimBlanks with
  | none => none
  | some [] => none
  | some (c :: rest) =>
    if c == '-' then (digits? base 0 true (afterBaseMark base rest)).map fun n => -(n : Int)
    else if c == '+' then (digits? base 0 true (afterBaseMark base rest)).map Int.ofNat
    else (digits? base 0 true (afterBaseMark base (c :: rest))).map Int.ofNat

/-- The value of a run of digits in a base. -/
def valueOf (base : Nat) (digits : Text) : Nat :=
  digits.foldl (fun acc c => acc * base + c.digit?.getD 0) 0

end KeyNaming.Text
