import KeyNaming.Regex.Syntax
import KeyNaming.Text.Case

/-!
Which characters a part takes under given flags.

Where case is ignored, a character is lowered before it is compared, and a
lower-case character stands for its siblings of the same upper case as well. A
set lowers characters only if case matters to one of its members.
-/

namespace KeyNaming.Regex

/-- The lower case of an ASCII letter. -/
def asciiLower (c : CodePoint) : CodePoint :=
  if c.isAscii then c.toLower else c

namespace Flags

/-- The one-to-one lower case under the flags. -/
def lower (f : Flags) (c : CodePoint) : CodePoint :=
  if f.ascii then asciiLower c else c.toLower

/-- Whether case matters to a character under the flags. -/
def changesCase (f : Flags) (c : CodePoint) : Bool :=
  if f.ascii then c.isAsciiLetter else c.changesCase

/-- The siblings of a lower-case character under the flags. -/
def siblings (f : Flags) (c : CodePoint) : Text :=
  if f.ascii then [] else c.siblings

/-- The characters that the flags lower to a given one. -/
def lowerSources (f : Flags) (c : CodePoint) : Text :=
  if f.ascii then
    (if asciiLower c == c then [c] else []) ++
      (if 0x61 ≤ c.value && c.value ≤ 0x7A then Text.ofNumbers [c.value - 0x20] else [])
  else c.lowerSources

end Flags

/-- Whether a character is in a named class. -/
def ClassName.contains (ascii : Bool) (c : CodePoint) : ClassName → Bool
  | .digit => if ascii then c.isAsciiDigit else c.isDecimal
  | .blank =>
    if ascii then c.value == 0x20 || (0x09 ≤ c.value && c.value ≤ 0x0D) else c.isBlank
  | .word => if ascii then c.isAsciiWord else c.isWord

def isBetween (first last : Nat) (c : CodePoint) : Bool :=
  first ≤ c.value && c.value ≤ last

/-- Whether a row of a case table has a code point between two numbers. -/
def rowMeets (first last : Nat) (row : Text.CaseRow) : Bool :=
  let from' := Nat.max first row.first
  let steps := (from' - row.first + row.stride - 1) / row.stride
  row.first + steps * row.stride ≤ Nat.min last row.last

/-- Whether case matters to a character between two numbers. -/
def rangeChangesCase (ascii : Bool) (first last : Nat) : Bool :=
  if ascii then
    (first ≤ 0x5A && 0x41 ≤ last) || (first ≤ 0x7A && 0x61 ≤ last)
  else
    (first ≤ 0x130 && 0x130 ≤ last) ||
      Text.lowerRows.any (rowMeets first last) || Text.upperRows.any (rowMeets first last) ||
      Text.upperSequences.any fun entry => first ≤ entry.1 && entry.1 ≤ last

namespace Member

/-- Whether a character is a member, all characters taken as they are. -/
def contains (f : Flags) (c : CodePoint) : Member → Bool
  | .single d => c == d
  | .range first last => isBetween first.value last.value c
  | .named name negated => name.contains f.ascii c != negated

/-- Whether case matters to a member. A member beyond the basic plane always
counts as one to which it does. -/
def changesCase (f : Flags) : Member → Bool
  | .single d => f.changesCase d || 0xFFFF < (f.lower d).value
  | .range first last => 0xFFFF < last.value || rangeChangesCase f.ascii first.value last.value
  | .named _ _ => false

/-- Whether a lowered character is a member where case is ignored. Beyond the
basic plane a single member is taken as it is, and a range holds what has its
lower or its upper case in it. -/
def containsLowered (f : Flags) (c : CodePoint) : Member → Bool
  | .single d =>
    let low := f.lower d
    if 0xFFFF < low.value then c == d else c == low || (f.siblings low).contains c
  | .range first last =>
    ((c :: f.siblings c).any fun d =>
      (f.lowerSources d).any (isBetween first.value (Nat.min last.value 0xFFFF))) ||
      (0xFFFF < last.value &&
        (isBetween first.value last.value c || isBetween first.value last.value c.toUpper))
  | .named name negated => name.contains f.ascii c != negated

end Member

/-- Whether a character is in a set of members. -/
def setContains (f : Flags) (members : List Member) (c : CodePoint) : Bool :=
  if f.ignoreCase then
    if members.any (Member.changesCase f) then
      members.any (Member.containsLowered f (f.lower c))
    else members.any (Member.containsLowered f c)
  else members.any (Member.contains f c)

/-- Whether a character stands for a literal one. -/
def isLiteral (f : Flags) (d c : CodePoint) : Bool :=
  if f.ignoreCase && f.changesCase d then
    let low := f.lower d
    f.lower c == low || (f.siblings low).contains (f.lower c)
  else c == d

/-- Whether two characters are the same in a reference to a group. -/
def isSame (f : Flags) (c d : CodePoint) : Bool :=
  if f.ignoreCase then f.lower c == f.lower d else c == d

end KeyNaming.Regex
