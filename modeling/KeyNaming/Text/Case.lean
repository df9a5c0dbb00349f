import KeyNaming.Text.Basic
import KeyNaming.Text.CaseTable
import KeyNaming.Text.Class

/-!
Lower case, upper case and title case of texts, and the one-to-one case
mappings that a search ignoring case compares by.

The mappings of whole texts are the full ones of Unicode: a code point may
become several, and a capital sigma becomes the final form at the end of a
word. The one-to-one mapping of a code point is the first code point of its
full mapping.
-/

namespace KeyNaming

namespace Text

/-- The targets of a number in the rows of a case table. -/
def rowTarget? (rows : List CaseRow) (n : Nat) : Option Nat :=
  (rows.find? fun row =>
    row.first ≤ n && n ≤ row.last && (n - row.first) % row.stride == 0).map
    fun row => row.target + (n - row.first)

/-- The numbers that the rows of a case table map to a number. -/
def rowSources (rows : List CaseRow) (n : Nat) : List Nat :=
  rows.filterMap fun row =>
    if row.target ≤ n && n - row.target ≤ row.last - row.first &&
        (n - row.target) % row.stride == 0 then
      some (row.first + (n - row.target))
    else none

/-- The code points with the given numbers. -/
def ofNumbers (numbers : List Nat) : Text :=
  numbers.filterMap CodePoint.ofNat?

end Text

namespace CodePoint

/-- The lower case of a code point outside any context. -/
def toLower (c : CodePoint) : CodePoint :=
  if c.isAscii then
    if h : 0x41 ≤ c.value ∧ c.value ≤ 0x5A then ⟨c.value + 0x20, by omega⟩ else c
  else if c.value == 0x130 then ofChar 'i'
  else ((Text.rowTarget? Text.lowerRows c.value).bind ofNat?).getD c

def lower (c : CodePoint) : Text :=
  if c.value == 0x130 then [ofChar 'i', ofChar '\u0307'] else [c.toLower]

def upper (c : CodePoint) : Text :=
  if c.isAscii then
    if h : 0x61 ≤ c.value ∧ c.value ≤ 0x7A then [⟨c.value - 0x20, by omega⟩] else [c]
  else
    match Text.upperSequences.lookup c.value with
    | some sequence => Text.ofNumbers sequence
    | none => [((Text.rowTarget? Text.upperRows c.value).bind ofNat?).getD c]

/-- The first code point of the full upper case. -/
def toUpper (c : CodePoint) : CodePoint :=
  c.upper.headD c

def title (c : CodePoint) : Text :=
  if c.isAscii then c.upper
  else
    match Text.titleSequences.lookup c.value with
    | some sequence => Text.ofNumbers sequence
    | none =>
      match (Text.rowTarget? Text.titleRows c.value).bind ofNat? with
      | some target => [target]
      | none => c.upper

/-- Whether case matters to the one-to-one mappings of a code point. -/
def changesCase (c : CodePoint) : Bool :=
  c.toLower != c || c.toUpper != c

def isCased (c : CodePoint) : Bool :=
  if c.isAscii then c.isAsciiLetter
  else Text.inRanges Text.casedRanges c.value

/-- Whether the final sigma rule looks through a code point. -/
def isCaseIgnorable (c : CodePoint) : Bool :=
  Text.inRanges Text.caseIgnorableRanges c.value

/-- The other lower-case code points with the upper case of a lower-case one. -/
def siblings (c : CodePoint) : Text :=
  Text.ofNumbers ((Text.caseSiblings.lookup c.value).getD [])

/-- The code points whose one-to-one lower case is a given one. -/
def lowerSources (c : CodePoint) : Text :=
  (if c.toLower == c then [c] else []) ++
    (Text.ofNumbers (Text.rowSources Text.lowerRows c.value)) ++
    (if c == ofChar 'i' then Text.ofNumbers [0x130] else [])

end CodePoint

namespace Text

/-- A capital sigma ends a word if a cased code point stands before it and
none after it, looking through the ignorable ones on both sides. -/
def isFinalSigma (before after : Text) : Bool :=
  let closest (t : Text) := t.find? fun c => !c.isCaseIgnorable
  (closest before).any CodePoint.isCased && !(closest after).any CodePoint.isCased

/-- The lower case of a code point between its neighbours, the one before it
first. -/
def lowerBetween (before : Text) (c : CodePoint) (after : Text) : Text :=
  if c.value == 0x3A3 then
    [if isFinalSigma before after then CodePoint.ofChar 'ς' else CodePoint.ofChar 'σ']
  else c.lower

/-- The lower case of the rest of a text, of which the part before it is given
backwards. -/
def lowerAfter (before : Text) : Text → Text
  | [] => []
  | c :: rest => lowerBetween before c rest ++ lowerAfter (c :: before) rest

def lower (t : Text) : Text :=
  lowerAfter [] t

def upper (t : Text) : Text :=
  t.flatMap CodePoint.upper

/-- The title case of the rest of a text: a code point after a cased one is
lowered, any other one starts a word. -/
def titleAfter (before : Text) : Text → Text
  | [] => []
  | c :: rest =>
    (if before.head?.any CodePoint.isCased then lowerBetween before c rest else c.title) ++
      titleAfter (c :: before) rest

def title (t : Text) : Text :=
  titleAfter [] t

end Text

end KeyNaming
