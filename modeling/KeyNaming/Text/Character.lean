import KeyNaming.Text.CharacterTable
import KeyNaming.Text.Numeral

/-!
Characters by their names.

Most names stand in a table, where case makes no difference. The names of ideographs end
with the number of the character, those of syllables spell them, and only capital letters
and digits will do where they are looked up.
-/

namespace KeyNaming

namespace Text

/-- What follows a text that another one begins with. -/
def after? (first t : Text) : Option Text :=
  if first.isPrefixOf t then some (t.drop first.length) else none

/-- The small letters of ASCII as capital ones. -/
def asciiUpper (t : Text) : Text :=
  t.map fun c =>
    if 0x61 ≤ c.value && c.value ≤ 0x7A then (CodePoint.ofNat? (c.value - 0x20)).getD c else c

/-- Whether all digits of a number in base sixteen are decimal ones or capital letters. -/
def isHexNumber (t : Text) : Bool :=
  t.all fun c => c.isAsciiDigit || (0x41 ≤ c.value && c.value ≤ 0x46)

end Text

namespace CharacterName

/-! ## Names in the table -/

/-- The names of a run: with how many words of the name before it each begins, and what
comes after these. -/
def marked (run : Text) : List (Nat × Text) :=
  (run.foldr (fun c (own, names) =>
    if 0x61 ≤ c.value && c.value ≤ 0x7A then ([], (c.value - 0x61, own) :: names)
    else (c :: own, names)) ([], [])).2

/-- The code point of the name that consists of some words, among names that follow one
another. -/
def find? (name : List Text) : List (Nat × Text) → List Text → Nat → Option Nat
  | [], _, _ => none
  | (kept, own) :: rest, before, n =>
    let words := before.take kept ++ if own.isEmpty then [] else Text.splitOn ' ' own
    if words == name then some n else find? name rest words (n + 1)

def tabulated? (name : Text) : Option Nat :=
  (Text.characterNames ++ Text.characterAliases).findSome? fun (first, run) =>
    find? (Text.splitOn ' ' name) (marked (run.flatMap Text.ofString)) [] first

/-! ## Names with the number of the character -/

/-- Ideographs that have the same name up to their numbers. -/
def unifiedIdeographs : List (Nat × Nat) :=
  [(0x3400, 0x4DBF), (0x4E00, 0x9FFF), (0x20000, 0x2A6DF), (0x2A700, 0x2B738),
    (0x2B740, 0x2B81D), (0x2B820, 0x2CEA1), (0x2CEB0, 0x2EBE0), (0x30000, 0x3134A)]

/-- Further characters of which each is named by its number. -/
def numberedFamilies : List (String × List (Nat × Nat)) :=
  [("CJK COMPATIBILITY IDEOGRAPH-", [(0xF900, 0xFA6D), (0xFA70, 0xFAD9), (0x2F800, 0x2FA1D)]),
    ("KHITAN SMALL SCRIPT CHARACTER-", [(0x18B00, 0x18CD5)]),
    ("NUSHU CHARACTER-", [(0x1B170, 0x1B2FB)])]

/-- An ideograph by its number, which has four or five digits. -/
def unified? (digits : Text) : Option Nat :=
  let n := Text.valueOf 16 digits
  if (digits.length == 4 || digits.length == 5) && digits.isHexNumber &&
      Text.inRanges unifiedIdeographs n then some n
  else none

/-- A character of a family by its number, without zeros before it. -/
def numbered? (name : Text) : Option Nat :=
  numberedFamilies.findSome? fun (family, ranges) =>
    (Text.after? family name).bind fun digits =>
      let n := Text.valueOf 16 digits
      if digits.isHexNumber && digits.length == (if n < 0x10000 then 4 else 5) &&
          Text.inRanges ranges n then some n
      else none

/-! ## Names of syllables -/

def leadingSounds : List String :=
  ["G", "GG", "N", "D", "DD", "R", "M", "B", "BB", "S", "SS", "", "J", "JJ", "C", "K", "T", "P",
    "H"]

def vowels : List String :=
  ["A", "AE", "YA", "YAE", "EO", "E", "YEO", "YE", "O", "WA", "WAE", "OE", "YO", "U", "WEO",
    "WE", "WI", "YU", "EU", "YI", "I"]

def trailingSounds : List String :=
  ["", "G", "GG", "GS", "N", "NJ", "NH", "D", "L", "LG", "LM", "LB", "LS", "LT", "LP", "LH", "M",
    "B", "BS", "S", "SS", "NG", "J", "C", "K", "T", "P", "H"]

/-- The index of the longest sound that a text begins with, and what follows it. -/
def longest? (sounds : List String) (t : Text) : Option (Nat × Text) :=
  let found := sounds.zipIdx.filterMap fun (sound, i) => (Text.after? sound t).map (i, ·)
  found.find? fun (_, rest) => found.all fun (_, other) => rest.length ≤ other.length

/-- A syllable by its spelling. -/
def syllable? (spelling : Text) : Option Nat := do
  let (leading, rest) ← longest? leadingSounds spelling
  let (vowel, rest) ← longest? vowels rest
  let (trailing, rest) ← longest? trailingSounds rest
  if rest.isEmpty then some (0xAC00 + (leading * 21 + vowel) * 28 + trailing) else none

end CharacterName

open CharacterName in
/-- The character with a name. -/
def CodePoint.ofName? (name : Text) : Option CodePoint :=
  let number? :=
    match Text.after? "HANGUL SYLLABLE " name, Text.after? "CJK UNIFIED IDEOGRAPH-" name with
    | some spelling, _ => syllable? spelling
    | none, some digits => unified? digits
    | none, none => (tabulated? name.asciiUpper).or (numbered? name.asciiUpper)
  number?.bind CodePoint.ofNat?

end KeyNaming
