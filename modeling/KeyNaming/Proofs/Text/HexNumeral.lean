import Mathlib.Data.List.Forall2
import Mathlib.Data.List.TakeWhile
import KeyNaming.Proofs.Text.Numeral
import KeyNaming.Proofs.Text.Surrogate

/-!
What is read as a number of base sixteen.

The reader takes more than runs of digits: blanks around the number, a sign, the
mark of the base, underscores between digits, and digits of other scripts. What
it takes is given as a grammar here, from the digits outwards, and the reader is
shown to accept that grammar and nothing else. On a run of ASCII digits it gives
the value of the run.
-/

namespace KeyNaming

namespace CodePoint

/-- Whether a character is a digit of a base. -/
def IsDigitOf (base : Nat) (c : CodePoint) : Prop :=
  ∃ d, c.digit? = some d ∧ d < base

/-- The digits of base sixteen, all of them in ASCII. -/
def isHexDigit (c : CodePoint) : Bool :=
  c.isAsciiDigit || (0x41 ≤ c.value && c.value ≤ 0x46) || (0x61 ≤ c.value && c.value ≤ 0x66)

theorem isHexDigit_iff (c : CodePoint) : c.isHexDigit = true ↔ c.IsDigitOf 16 := by
  unfold isHexDigit IsDigitOf digit? isAsciiDigit
  simp only [Bool.or_eq_true, Bool.and_eq_true, decide_eq_true_eq]
  split_ifs with hdigit hlower hupper
  · simp only [Option.some.injEq, exists_eq_left']
    omega
  · simp only [Option.some.injEq, exists_eq_left']
    omega
  · simp only [Option.some.injEq, exists_eq_left']
    omega
  · simp only [false_and, exists_false, iff_false]
    omega

theorem IsDigitOf.value_range {base : Nat} {c : CodePoint} (h : c.IsDigitOf base) :
    0x30 ≤ c.value ∧ c.value ≤ 0x7A := by
  obtain ⟨d, hd, -⟩ := h
  unfold digit? isAsciiDigit at hd
  simp only [Bool.and_eq_true, decide_eq_true_eq] at hd
  split_ifs at hd <;> omega

theorem IsDigitOf.isAscii {base : Nat} {c : CodePoint} (h : c.IsDigitOf base) :
    c.isAscii = true := by
  have hrange := h.value_range
  unfold CodePoint.isAscii
  rw [decide_eq_true_eq]
  omega

theorem IsDigitOf.isNumeralBlank_eq_false {base : Nat} {c : CodePoint} (h : c.IsDigitOf base) :
    Text.isNumeralBlank c = false := by
  have hrange := h.value_range
  rw [← Bool.not_eq_true, Text.isNumeralBlank]
  simp only [Bool.or_eq_true, Bool.and_eq_true, decide_eq_true_eq, beq_iff_eq]
  omega

theorem not_isDigitOf_underscore (base : Nat) : ¬(CodePoint.ofChar '_').IsDigitOf base := by
  rintro ⟨d, hd, -⟩
  cases hd

end CodePoint

namespace Text

/-! ## Digits and underscores -/

/-- A run of digits of a base, which may have an underscore between each two, and
the digits alone. -/
inductive DigitRun (base : Nat) : Text → Text → Prop where
  | last {c : CodePoint} (hc : c.IsDigitOf base) : DigitRun base [c] [c]
  | next {c : CodePoint} {run digits : Text} (hc : c.IsDigitOf base)
      (hrun : DigitRun base run digits) : DigitRun base (c :: run) (c :: digits)
  | underscore {c : CodePoint} {run digits : Text} (hc : c.IsDigitOf base)
      (hrun : DigitRun base run digits) :
      DigitRun base (c :: ('_' : CodePoint) :: run) (c :: digits)

/-- What may follow a digit of a run. -/
inductive RunRest (base : Nat) : Text → Text → Prop where
  | none : RunRest base [] []
  | next {run digits : Text} (hrun : DigitRun base run digits) : RunRest base run digits
  | underscore {run digits : Text} (hrun : DigitRun base run digits) :
      RunRest base (('_' : CodePoint) :: run) digits

variable {base : Nat}

theorem digitRun_cons_iff {c : CodePoint} {t digits : Text} :
    DigitRun base (c :: t) digits ↔
      c.IsDigitOf base ∧ ∃ more, digits = c :: more ∧ RunRest base t more := by
  constructor
  · intro h
    cases h with
    | last hc => exact ⟨hc, [], rfl, .none⟩
    | next hc hrun => exact ⟨hc, _, rfl, .next hrun⟩
    | underscore hc hrun => exact ⟨hc, _, rfl, .underscore hrun⟩
  · rintro ⟨hc, more, rfl, hrest⟩
    cases hrest with
    | none => exact .last hc
    | next hrun => exact .next hc hrun
    | underscore hrun => exact .underscore hc hrun

theorem runRest_underscore_iff {t digits : Text} :
    RunRest base (('_' : CodePoint) :: t) digits ↔ DigitRun base t digits := by
  constructor
  · intro h
    cases h with
    | next hrun => exact absurd (digitRun_cons_iff.mp hrun).1 (CodePoint.not_isDigitOf_underscore base)
    | underscore hrun => exact hrun
  · exact .underscore

theorem runRest_cons_iff {c : CodePoint} (hc : c ≠ CodePoint.ofChar '_') {t digits : Text} :
    RunRest base (c :: t) digits ↔ DigitRun base (c :: t) digits := by
  constructor
  · intro h
    cases h with
    | next hrun => exact hrun
    | underscore hrun => exact absurd rfl hc
  · exact .next

theorem digits?_cons_of_digit {c : CodePoint} {d : Nat} (hd : c.digit? = some d) (hlt : d < base)
    (acc : Nat) (wantsDigit : Bool) (t : Text) :
    digits? base acc wantsDigit (c :: t) = digits? base (acc * base + d) false t := by
  rw [digits?, hd]
  exact if_pos hlt

theorem digits?_cons_of_not_digit {c : CodePoint} (hc : ¬c.IsDigitOf base) (acc : Nat) (t : Text) :
    digits? base acc true (c :: t) = none := by
  rw [digits?]
  cases hd : c.digit? with
  | none => simp
  | some d => exact if_neg fun hlt => hc ⟨d, hd, hlt⟩

/-- Digits are read exactly where they form a run, and after a digit exactly
where a run may go on. -/
theorem digits?_eq_some_iff (t : Text) (acc n : Nat) :
    (digits? base acc true t = some n ↔ ∃ digits, DigitRun base t digits ∧
        digits.foldl (fun acc c => acc * base + c.digit?.getD 0) acc = n) ∧
      (digits? base acc false t = some n ↔ ∃ digits, RunRest base t digits ∧
        digits.foldl (fun acc c => acc * base + c.digit?.getD 0) acc = n) := by
  induction t generalizing acc with
  | nil =>
      constructor
      · refine iff_of_false (by simp [digits?]) ?_
        rintro ⟨digits, hrun, -⟩
        cases hrun
      · constructor
        · intro h
          exact ⟨[], .none, Option.some.inj h⟩
        · rintro ⟨digits, hrest, hn⟩
          cases hrest with
          | none => exact congrArg some hn
          | next hrun => cases hrun
  | cons c t ih =>
      have hwants : digits? base acc true (c :: t) = some n ↔ ∃ digits,
          DigitRun base (c :: t) digits ∧
            digits.foldl (fun acc c => acc * base + c.digit?.getD 0) acc = n := by
        simp only [digitRun_cons_iff]
        by_cases hc : c.IsDigitOf base
        · obtain ⟨d, hd, hlt⟩ := hc
          rw [digits?_cons_of_digit hd hlt, (ih (acc * base + d)).2]
          constructor
          · rintro ⟨more, hrest, hn⟩
            refine ⟨c :: more, ⟨⟨d, hd, hlt⟩, more, rfl, hrest⟩, ?_⟩
            rw [List.foldl_cons, hd]
            exact hn
          · rintro ⟨_, ⟨-, more, rfl, hrest⟩, hn⟩
            rw [List.foldl_cons, hd] at hn
            exact ⟨more, hrest, hn⟩
        · rw [digits?_cons_of_not_digit hc]
          exact iff_of_false (by simp) fun ⟨_, ⟨hdigit, _⟩, _⟩ => hc hdigit
      refine ⟨hwants, ?_⟩
      by_cases hunderscore : c = CodePoint.ofChar '_'
      · subst hunderscore
        simp only [runRest_underscore_iff]
        exact (ih acc).1
      · simp only [runRest_cons_iff hunderscore]
        rw [← hwants]
        -- away from underscores it makes no difference whether a digit must come
        rw [digits?, digits?]
        cases c.digit? with
        | none => simp [hunderscore]
        | some d => rfl

theorem DigitRun.exists_last {run digits : Text} (h : DigitRun base run digits) :
    ∃ before c, run = before ++ [c] ∧ c.IsDigitOf base := by
  induction h with
  | last hc => exact ⟨[], _, rfl, hc⟩
  | next hc hrun ih =>
      obtain ⟨before, d, rfl, hd⟩ := ih
      exact ⟨_ :: before, d, rfl, hd⟩
  | underscore hc hrun ih =>
      obtain ⟨before, d, rfl, hd⟩ := ih
      exact ⟨_ :: _ :: before, d, rfl, hd⟩

theorem digitRun_self {t : Text} (hne : t ≠ []) (h : ∀ c ∈ t, c.IsDigitOf base) :
    DigitRun base t t := by
  induction t with
  | nil => exact absurd rfl hne
  | cons c t ih =>
      obtain ⟨hc, ht⟩ := List.forall_mem_cons.mp h
      cases t with
      | nil => exact .last hc
      | cons d t => exact .next hc (ih (List.cons_ne_nil d t) ht)

/-! ## The mark of the base and the sign -/

/-- What may stand before the digits of a number of base sixteen. -/
def hexMarks : List Text := ["", "0x", "0X", "0x_", "0X_"]

/-- Digits of base sixteen, with or without the mark of the base. -/
def IsHexMagnitude (t : Text) (n : Nat) : Prop :=
  ∃ mark ∈ hexMarks, ∃ run digits, t = mark ++ run ∧ DigitRun 16 run digits ∧ valueOf 16 digits = n

theorem IsHexMagnitude.exists_head {t : Text} {n : Nat} (h : IsHexMagnitude t n) :
    ∃ c rest, t = c :: rest ∧ c.IsDigitOf 16 := by
  obtain ⟨mark, hmark, run, digits, rfl, hrun, -⟩ := h
  have hzero : (CodePoint.ofChar '0').IsDigitOf 16 := ⟨0, rfl, by decide⟩
  cases mark with
  | nil =>
      cases run with
      | nil => cases hrun
      | cons c rest => exact ⟨c, rest, rfl, (digitRun_cons_iff.mp hrun).1⟩
  | cons c rest =>
      have hall : ∀ mark ∈ hexMarks, mark = [] ∨ mark.head? = some (CodePoint.ofChar '0') := by
        decide
      obtain rfl : c = CodePoint.ofChar '0' := by simpa using hall _ hmark
      exact ⟨_, rest ++ run, rfl, hzero⟩

theorem IsHexMagnitude.exists_last {t : Text} {n : Nat} (h : IsHexMagnitude t n) :
    ∃ before c, t = before ++ [c] ∧ c.IsDigitOf 16 := by
  obtain ⟨mark, -, run, digits, rfl, hrun, -⟩ := h
  obtain ⟨before, c, rfl, hc⟩ := hrun.exists_last
  exact ⟨mark ++ before, c, by rw [List.append_assoc], hc⟩

theorem afterBaseMark_of_not_mark {x : CodePoint} (hlower : x ≠ CodePoint.ofChar 'x')
    (hupper : x ≠ CodePoint.ofChar 'X') (z : CodePoint) (t : Text) :
    afterBaseMark base (z :: x :: t) = z :: x :: t := by
  unfold afterBaseMark
  simp [hlower, hupper]

/-- No run of digits starts as the mark of the base does. -/
theorem afterBaseMark_run {run digits : Text} (h : DigitRun 16 run digits) :
    afterBaseMark 16 run = run := by
  have hletter {c : CodePoint} (hc : c.IsDigitOf 16) :
      c ≠ CodePoint.ofChar 'x' ∧ c ≠ CodePoint.ofChar 'X' := by
    rw [← CodePoint.isHexDigit_iff] at hc
    constructor
    · rintro rfl
      cases hc
    · rintro rfl
      cases hc
  cases h with
  | last hc => rfl
  | next hc hrun =>
      cases hrun with
      | last hd => exact afterBaseMark_of_not_mark (hletter hd).1 (hletter hd).2 _ _
      | next hd hrun => exact afterBaseMark_of_not_mark (hletter hd).1 (hletter hd).2 _ _
      | underscore hd hrun => exact afterBaseMark_of_not_mark (hletter hd).1 (hletter hd).2 _ _
  | underscore hc hrun => exact afterBaseMark_of_not_mark (by decide) (by decide) _ _

/-- The mark of the base is taken away, and what is left of a number is a run of
digits. -/
theorem afterBaseMark_mark {mark run digits : Text} (hmark : mark ∈ hexMarks)
    (h : DigitRun 16 run digits) : afterBaseMark 16 (mark ++ run) = run := by
  cases run with
  | nil => cases h
  | cons c rest =>
      have hc : c ≠ CodePoint.ofChar '_' := by
        rintro rfl
        exact CodePoint.not_isDigitOf_underscore 16 (digitRun_cons_iff.mp h).1
      have hshort (x : CodePoint) (hx : x = CodePoint.ofChar 'x' ∨ x = CodePoint.ofChar 'X') :
          afterBaseMark 16 (CodePoint.ofChar '0' :: x :: c :: rest) = c :: rest := by
        rw [afterBaseMark]
        simp [hx, hc]
      simp only [hexMarks, List.mem_cons, List.not_mem_nil, or_false] at hmark
      rcases hmark with rfl | rfl | rfl | rfl | rfl
      · exact afterBaseMark_run h
      · exact hshort _ (.inl rfl)
      · exact hshort _ (.inr rfl)
      · rfl
      · rfl

theorem exists_mark (t : Text) : ∃ mark ∈ hexMarks, t = mark ++ afterBaseMark 16 t := by
  fun_cases afterBaseMark 16 t with
  | case1 z x hmark u rest hu =>
      simp only [Bool.and_eq_true, Bool.or_eq_true, beq_iff_eq] at hmark hu
      obtain ⟨⟨-, rfl⟩, rfl | rfl⟩ := hmark <;> subst hu
      · exact ⟨"0x_", by decide, rfl⟩
      · exact ⟨"0X_", by decide, rfl⟩
  | case2 z x hmark u rest hu =>
      simp only [Bool.and_eq_true, Bool.or_eq_true, beq_iff_eq] at hmark
      obtain ⟨⟨-, rfl⟩, rfl | rfl⟩ := hmark
      · exact ⟨"0x", by decide, rfl⟩
      · exact ⟨"0X", by decide, rfl⟩
  | case3 z x hmark =>
      simp only [Bool.and_eq_true, Bool.or_eq_true, beq_iff_eq] at hmark
      obtain ⟨⟨-, rfl⟩, rfl | rfl⟩ := hmark
      · exact ⟨"0x", by decide, rfl⟩
      · exact ⟨"0X", by decide, rfl⟩
  | case4 => exact ⟨"", by decide, rfl⟩
  | case5 => exact ⟨"", by decide, rfl⟩

theorem digits?_afterBaseMark_iff (t : Text) (n : Nat) :
    digits? 16 0 true (afterBaseMark 16 t) = some n ↔ IsHexMagnitude t n := by
  rw [(digits?_eq_some_iff (afterBaseMark 16 t) 0 n).1]
  constructor
  · rintro ⟨digits, hrun, hn⟩
    obtain ⟨mark, hmark, ht⟩ := exists_mark t
    exact ⟨mark, hmark, afterBaseMark 16 t, digits, ht, hrun, hn⟩
  · rintro ⟨mark, hmark, run, digits, rfl, hrun, hn⟩
    rw [afterBaseMark_mark hmark hrun]
    exact ⟨digits, hrun, hn⟩

/-- A number of base sixteen with or without a sign. -/
inductive IsHexSigned : Text → Int → Prop where
  | bare {t : Text} {n : Nat} (h : IsHexMagnitude t n) : IsHexSigned t n
  | plus {t : Text} {n : Nat} (h : IsHexMagnitude t n) : IsHexSigned (('+' : CodePoint) :: t) n
  | minus {t : Text} {n : Nat} (h : IsHexMagnitude t n) :
      IsHexSigned (('-' : CodePoint) :: t) (-n)

theorem IsHexSigned.exists_head {t : Text} {z : Int} (h : IsHexSigned t z) :
    ∃ c rest, t = c :: rest ∧ isNumeralBlank c = false := by
  cases h with
  | bare h =>
      obtain ⟨c, rest, rfl, hc⟩ := h.exists_head
      exact ⟨c, rest, rfl, hc.isNumeralBlank_eq_false⟩
  | plus h => exact ⟨_, _, rfl, by decide⟩
  | minus h => exact ⟨_, _, rfl, by decide⟩

theorem IsHexSigned.exists_last {t : Text} {z : Int} (h : IsHexSigned t z) :
    ∃ before c, t = before ++ [c] ∧ isNumeralBlank c = false := by
  cases h with
  | bare h =>
      obtain ⟨before, c, rfl, hc⟩ := h.exists_last
      exact ⟨before, c, rfl, hc.isNumeralBlank_eq_false⟩
  | plus h =>
      obtain ⟨before, c, rfl, hc⟩ := h.exists_last
      exact ⟨_ :: before, c, rfl, hc.isNumeralBlank_eq_false⟩
  | minus h =>
      obtain ⟨before, c, rfl, hc⟩ := h.exists_last
      exact ⟨_ :: before, c, rfl, hc.isNumeralBlank_eq_false⟩

/-! ## Blanks and other scripts -/

theorem exists_trimBlanks (t : Text) :
    ∃ before after, t = before ++ trimBlanks t ++ after ∧
      (∀ c ∈ before, isNumeralBlank c = true) ∧ ∀ c ∈ after, isNumeralBlank c = true := by
  have hsplit (u : Text) : u.takeWhile isNumeralBlank ++ u.dropWhile isNumeralBlank = u :=
    List.takeWhile_append_dropWhile
  have hreverse := congrArg List.reverse (hsplit (t.dropWhile isNumeralBlank).reverse)
  rw [List.reverse_append, List.reverse_reverse] at hreverse
  refine ⟨t.takeWhile isNumeralBlank,
    ((t.dropWhile isNumeralBlank).reverse.takeWhile isNumeralBlank).reverse, ?_, ?_, ?_⟩
  · rw [trimBlanks, List.append_assoc, hreverse, hsplit]
  · intro c hc
    exact List.mem_takeWhile_imp hc
  · intro c hc
    exact List.mem_takeWhile_imp (List.mem_reverse.mp hc)

theorem dropWhile_blanks {before : Text} (hbefore : ∀ c ∈ before, isNumeralBlank c = true)
    {c : CodePoint} (hc : isNumeralBlank c = false) (t : Text) :
    (before ++ c :: t).dropWhile isNumeralBlank = c :: t := by
  rw [List.dropWhile_append_of_pos hbefore, List.dropWhile_cons_of_neg (by simp [hc])]

/-- What stands between blanks and has none at its own ends is what is left. -/
theorem trimBlanks_blanks {before core after : Text}
    (hbefore : ∀ c ∈ before, isNumeralBlank c = true)
    (hafter : ∀ c ∈ after, isNumeralBlank c = true)
    (hhead : ∃ c rest, core = c :: rest ∧ isNumeralBlank c = false)
    (hlast : ∃ rest c, core = rest ++ [c] ∧ isNumeralBlank c = false) :
    trimBlanks (before ++ core ++ after) = core := by
  have hstart : (before ++ core ++ after).dropWhile isNumeralBlank = core ++ after := by
    obtain ⟨c, rest, rfl, hc⟩ := hhead
    rw [List.append_assoc]
    exact dropWhile_blanks hbefore hc (rest ++ after)
  obtain ⟨rest, c, rfl, hc⟩ := hlast
  have hend : (rest ++ [c] ++ after).reverse = after.reverse ++ c :: rest.reverse := by
    simp
  have hafter' : ∀ d ∈ after.reverse, isNumeralBlank d = true := fun d hd =>
    hafter d (List.mem_reverse.mp hd)
  rw [trimBlanks, hstart, hend, dropWhile_blanks hafter' hc, List.reverse_cons,
    List.reverse_reverse]

/-- The ASCII character that a character of a number is read as: itself, a space
for a blank, and the ASCII digit for a digit of another script. -/
inductive AsciiForm : CodePoint → CodePoint → Prop where
  | self {c : CodePoint} (hc : c.isAscii = true) : AsciiForm c c
  | blank {c : CodePoint} (hc : c.isAscii = false) (hblank : c.isBlank = true) :
      AsciiForm c (' ' : CodePoint)
  | digit {c d : CodePoint} {n : Nat} (hc : c.isAscii = false) (hblank : c.isBlank = false)
      (hn : c.decimal? = some n) (hd : d.value = 0x30 + n) : AsciiForm c d

theorem asciiForm_iff (c d : CodePoint) :
    ((if c.isAscii then some c
      else if c.isBlank then some (' ' : CodePoint)
      else c.decimal?.bind fun n => CodePoint.ofNat? (0x30 + n)) = some d) ↔ AsciiForm c d := by
  have hdecimal (n : Nat) : CodePoint.ofNat? (0x30 + n) = some d ↔ d.value = 0x30 + n := by
    constructor
    · exact CodePoint.value_of_ofNat?
    · intro hd
      rw [← hd, CodePoint.ofNat?, dif_pos d.value_lt]
  constructor
  · intro h
    split_ifs at h with hascii hblank
    · obtain rfl := Option.some.inj h
      exact .self hascii
    · obtain rfl := Option.some.inj h
      exact .blank (by simpa using hascii) hblank
    · obtain ⟨n, hn, hd⟩ := Option.bind_eq_some_iff.mp h
      exact .digit (by simpa using hascii) (by simpa using hblank) hn ((hdecimal n).mp hd)
  · intro h
    cases h with
    | self hascii => rw [if_pos hascii]
    | blank hascii hblank => rw [hascii, hblank]; rfl
    | digit hascii hblank hn hd =>
        rw [hascii, hblank, hn]
        exact (hdecimal _).mpr hd

theorem toAsciiNumeral?_eq_some_iff (t ascii : Text) :
    toAsciiNumeral? t = some ascii ↔ List.Forall₂ AsciiForm t ascii := by
  unfold toAsciiNumeral?
  induction t generalizing ascii with
  | nil =>
      rw [List.mapM_nil, List.forall₂_nil_left_iff]
      exact Option.some_inj.trans eq_comm
  | cons c t ih =>
      rw [List.mapM_cons, List.forall₂_cons_left_iff]
      constructor
      · intro h
        obtain ⟨d, hd, h⟩ := Option.bind_eq_some_iff.mp h
        obtain ⟨rest, hrest, h⟩ := Option.bind_eq_some_iff.mp h
        obtain rfl := Option.some.inj h
        exact ⟨d, rest, (asciiForm_iff c d).mp hd, (ih rest).mp hrest, rfl⟩
      · rintro ⟨d, rest, hd, hrest, rfl⟩
        refine Option.bind_eq_some_iff.mpr ⟨d, (asciiForm_iff c d).mpr hd, ?_⟩
        exact Option.bind_eq_some_iff.mpr ⟨rest, (ih rest).mpr hrest, rfl⟩

/-- A text is read as a number of base sixteen if it is, once its characters are brought
to ASCII, a sign or none, a mark or none and digits, with blanks around. -/
def IsHexNumeral (t : Text) (z : Int) : Prop :=
  ∃ before core after,
    List.Forall₂ AsciiForm t (before ++ core ++ after) ∧
      (∀ c ∈ before, isNumeralBlank c = true) ∧ (∀ c ∈ after, isNumeralBlank c = true) ∧
      IsHexSigned core z

/-- The number of a text that has neither blanks around nor other scripts. -/
def signed? : Text → Option Int
  | [] => none
  | c :: rest =>
    if c == '-' then (digits? 16 0 true (afterBaseMark 16 rest)).map fun (n : Nat) => -(n : Int)
    else if c == '+' then (digits? 16 0 true (afterBaseMark 16 rest)).map Int.ofNat
    else (digits? 16 0 true (afterBaseMark 16 (c :: rest))).map Int.ofNat

theorem int?_eq_signed? (t : Text) :
    int? 16 t = ((toAsciiNumeral? t).map trimBlanks).bind signed? := by
  rw [int?]
  cases (toAsciiNumeral? t).map trimBlanks with
  | none => rfl
  | some core =>
      cases core with
      | nil => rfl
      | cons c rest =>
          simp only [Option.bind_some, signed?]
          cases digits? 16 0 true (afterBaseMark 16 rest) <;> rfl

theorem signed?_eq_some_iff (t : Text) (z : Int) : signed? t = some z ↔ IsHexSigned t z := by
  cases t with
  | nil =>
      refine iff_of_false (by simp [signed?]) fun h => ?_
      obtain ⟨c, rest, h, -⟩ := h.exists_head
      cases h
  | cons c rest =>
      have hdigits (u : Text) {n : Nat} := digits?_afterBaseMark_iff u n
      have hsign {c : CodePoint} {n : Nat} (h : IsHexMagnitude (c :: rest) n) :
          c ≠ CodePoint.ofChar '-' ∧ c ≠ CodePoint.ofChar '+' := by
        obtain ⟨_, _, heq, hc⟩ := h.exists_head
        obtain ⟨rfl, rfl⟩ := List.cons.inj heq
        have hrange := hc.value_range
        constructor
        · rintro rfl
          exact absurd hrange.1 (by decide)
        · rintro rfl
          exact absurd hrange.1 (by decide)
      constructor
      · intro h
        rw [signed?] at h
        split at h
        · next hminus =>
          obtain ⟨n, hn, rfl⟩ := Option.map_eq_some_iff.mp h
          rw [eq_of_beq hminus]
          exact .minus ((hdigits rest).mp hn)
        · split at h
          · next hplus =>
            obtain ⟨n, hn, rfl⟩ := Option.map_eq_some_iff.mp h
            rw [eq_of_beq hplus]
            exact .plus ((hdigits rest).mp hn)
          · obtain ⟨n, hn, rfl⟩ := Option.map_eq_some_iff.mp h
            exact .bare ((hdigits (c :: rest)).mp hn)
      · intro h
        cases h with
        | bare h =>
            obtain ⟨hminus, hplus⟩ := hsign h
            rw [signed?, if_neg (by simpa using hminus), if_neg (by simpa using hplus),
              (hdigits (c :: rest)).mpr h]
            rfl
        | plus h =>
            rw [signed?, if_neg (by decide), if_pos (by decide), (hdigits rest).mpr h]
            rfl
        | minus h =>
            rw [signed?, if_pos (by decide), (hdigits rest).mpr h]
            rfl

theorem int?_eq_some_iff (t : Text) (z : Int) : int? 16 t = some z ↔ IsHexNumeral t z := by
  rw [int?_eq_signed?]
  simp only [Option.bind_eq_some_iff, Option.map_eq_some_iff, toAsciiNumeral?_eq_some_iff,
    signed?_eq_some_iff]
  constructor
  · rintro ⟨_, ⟨ascii, hforms, rfl⟩, hsigned⟩
    obtain ⟨before, after, hascii, hbefore, hafter⟩ := exists_trimBlanks ascii
    exact ⟨before, trimBlanks ascii, after, hascii ▸ hforms, hbefore, hafter, hsigned⟩
  · rintro ⟨before, core, after, hforms, hbefore, hafter, hsigned⟩
    refine ⟨core, ⟨_, hforms, ?_⟩, hsigned⟩
    exact trimBlanks_blanks hbefore hafter hsigned.exists_head hsigned.exists_last

/-- ASCII digits alone are a number, and no other one than their value. -/
theorem isHexNumeral_of_digits {t : Text} (hne : t ≠ []) (h : ∀ c ∈ t, c.isHexDigit = true)
    (z : Int) : IsHexNumeral t z ↔ z = valueOf 16 t := by
  have hdigits : ∀ c ∈ t, c.IsDigitOf 16 := fun c hc => c.isHexDigit_iff.mp (h c hc)
  have hself : IsHexNumeral t (valueOf 16 t) := by
    refine ⟨[], t, [], ?_, by simp, by simp, .bare ?_⟩
    · rw [List.nil_append, List.append_nil, List.forall₂_same]
      exact fun c hc => .self (hdigits c hc).isAscii
    · exact ⟨"", by decide, t, t, rfl, digitRun_self hne hdigits, rfl⟩
  constructor
  · intro hz
    rw [← int?_eq_some_iff] at hz hself
    exact Option.some.inj (hz.symm.trans hself)
  · rintro rfl
    exact hself

theorem DigitRun.forall_isDigitOf {run digits : Text} (h : DigitRun base run digits)
    (hrun : CodePoint.ofChar '_' ∉ run) : ∀ c ∈ run, c.IsDigitOf base := by
  induction h with
  | last hc => exact List.forall_mem_singleton.mpr hc
  | next hc _ ih =>
      exact List.forall_mem_cons.mpr ⟨hc, ih fun hmem => hrun (List.mem_cons_of_mem _ hmem)⟩
  | underscore => exact absurd (by simp) hrun

/-- ASCII letters and digits, without the letter of the mark. -/
def IsPlain (t : Text) : Prop :=
  ∀ c ∈ t, (c.isAsciiLetter || c.isAsciiDigit) = true ∧ c ≠ CodePoint.ofChar 'x' ∧
    c ≠ CodePoint.ofChar 'X'

instance (t : Text) : Decidable t.IsPlain :=
  inferInstanceAs (Decidable (∀ c ∈ t, (c.isAsciiLetter || c.isAsciiDigit) = true ∧
    c ≠ CodePoint.ofChar 'x' ∧ c ≠ CodePoint.ofChar 'X'))

theorem IsPlain.eq_of_asciiForm {t ascii : Text} (ht : t.IsPlain)
    (h : List.Forall₂ AsciiForm t ascii) : t = ascii := by
  induction h with
  | nil => rfl
  | @cons c d t ascii hform _ ih =>
      obtain ⟨⟨hletter, -⟩, ht⟩ := List.forall_mem_cons.mp ht
      have hascii : c.isAscii = true := by
        simp only [CodePoint.isAsciiLetter, CodePoint.isAsciiDigit, Bool.or_eq_true,
          Bool.and_eq_true, decide_eq_true_eq] at hletter
        unfold CodePoint.isAscii
        rw [decide_eq_true_eq]
        omega
      cases hform with
      | self => rw [ih ht]
      | blank hc => cases hascii.symm.trans hc
      | digit hc => cases hascii.symm.trans hc

theorem IsPlain.eq_nil_of_blank {t : Text} (ht : t.IsPlain)
    (hblank : ∀ c ∈ t, isNumeralBlank c = true) : t = [] := by
  apply List.eq_nil_iff_forall_not_mem.mpr
  intro c hc
  have hletter := (ht c hc).1
  have hc := hblank c hc
  simp only [CodePoint.isAsciiLetter, CodePoint.isAsciiDigit, isNumeralBlank, Bool.or_eq_true,
    Bool.and_eq_true, decide_eq_true_eq, beq_iff_eq] at hletter hc
  omega

theorem IsPlain.of_append {s t : Text} (h : (s ++ t).IsPlain) : s.IsPlain ∧ t.IsPlain :=
  List.forall_mem_append.mp h

/-- Letters and digits that are a number are digits of base sixteen: nothing but
blanks, a sign, a mark, an underscore or another script is read beyond them. -/
theorem IsHexNumeral.forall_isHexDigit {t : Text} {z : Int} (h : IsHexNumeral t z)
    (ht : t.IsPlain) : ∀ c ∈ t, c.isHexDigit = true := by
  obtain ⟨before, core, after, hforms, hbefore, hafter, hsigned⟩ := h
  obtain rfl := ht.eq_of_asciiForm hforms
  obtain ⟨hplain, hplainAfter⟩ := ht.of_append
  obtain ⟨hplainBefore, hplainCore⟩ := hplain.of_append
  rw [hplainBefore.eq_nil_of_blank hbefore, hplainAfter.eq_nil_of_blank hafter, List.nil_append,
    List.append_nil]
  cases hsigned with
  | plus => exact absurd (hplainCore _ List.mem_cons_self).1 (by decide)
  | minus => exact absurd (hplainCore _ List.mem_cons_self).1 (by decide)
  | bare h =>
      obtain ⟨mark, hmark, run, digits, rfl, hrun, -⟩ := h
      obtain ⟨hplainMark, hplainRun⟩ := hplainCore.of_append
      have hmarks : ∀ mark ∈ hexMarks, mark = [] ∨ CodePoint.ofChar 'x' ∈ mark ∨
          CodePoint.ofChar 'X' ∈ mark := by decide
      obtain rfl : mark = [] := by
        rcases hmarks mark hmark with hnil | hx | hx
        · exact hnil
        · exact absurd rfl (hplainMark _ hx).2.1
        · exact absurd rfl (hplainMark _ hx).2.2
      intro c hc
      rw [CodePoint.isHexDigit_iff]
      apply hrun.forall_isDigitOf (fun hmem => absurd (hplainRun _ hmem).1 (by decide))
      exact hc

end Text

end KeyNaming
