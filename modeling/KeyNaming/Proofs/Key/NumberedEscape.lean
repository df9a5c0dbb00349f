import KeyNaming.Proofs.Key.Hash
import KeyNaming.Proofs.Key.WrittenForm
import KeyNaming.Proofs.Text.HexNumeral

/-!
Which escapes with digits are accepted, and as what.

A written key is read in steps: a separator, a plain character or a whole escape
at a time. So a backslash starts an escape only where the steps before it end.
The characters after the letter of such an escape must be as many as it asks for
and be read as a number of base sixteen, which is more than being digits.
-/

namespace KeyNaming

namespace Written

/-! ## The number of an escape -/

/-- Whether as many characters as an escape asks for are there and are read as a
number. -/
def WritesNumber (count : Nat) (rest : Text) (n : Int) : Prop :=
  (rest.take count).length = count ∧ Text.IsHexNumeral (rest.take count) n

variable {letter : CodePoint} {count : Nat} {rest : Text}

theorem digitCount?_eq_some (h : digitCount? letter = some count) :
    letterEscapes.find? (fun entry => entry.2 == letter) = none ∧ 0 < count := by
  unfold digitCount? at h
  split_ifs at h with hx hu hU
  · obtain rfl := Option.some.inj h
    rw [eq_of_beq hx]
    exact ⟨by decide, by decide⟩
  · obtain rfl := Option.some.inj h
    rw [eq_of_beq hu]
    exact ⟨by decide, by decide⟩
  · obtain rfl := Option.some.inj h
    rw [eq_of_beq hU]
    exact ⟨by decide, by decide⟩

theorem decode_of_writesNumber (hletter : digitCount? letter = some count) {n : Int}
    (h : WritesNumber count rest n) :
    Escape.decode (letter :: rest) = .ofNumber n (count + 1) := by
  obtain ⟨hlength, hnumeral⟩ := h
  rw [Escape.decode, (digitCount?_eq_some hletter).1, hletter]
  simp only [hlength, bne_self_eq_false, Bool.false_eq_true, if_false,
    (Text.int?_eq_some_iff _ _).mpr hnumeral]

theorem decode_of_not_writesNumber (hletter : digitCount? letter = some count)
    (h : ∀ n, ¬WritesNumber count rest n) : Escape.decode (letter :: rest) = .invalid := by
  rw [Escape.decode, (digitCount?_eq_some hletter).1, hletter]
  simp only
  split
  · rfl
  · next hlength =>
    split
    · rfl
    · next n hnumber =>
      exact absurd ⟨by simpa using hlength, (Text.int?_eq_some_iff _ _).mp hnumber⟩ (h n)

theorem Escape.ofNumber_value (c : CodePoint) (length : Nat) :
    Escape.ofNumber c.value length = .point c length := by
  rw [Escape.ofNumber, if_neg (by omega), Int.toNat_natCast, CodePoint.ofNat?, dif_pos c.value_lt]

theorem Escape.ofNumber_large {n : Int} (h : 0x80000000 ≤ n) (length : Nat) :
    Escape.ofNumber n length = .numberTooLarge := by
  rw [Escape.ofNumber, if_neg (by omega), CodePoint.ofNat?, dif_neg (by omega)]
  exact if_pos h

theorem Escape.ofNumber_invalid {n : Int} (h : n < 0 ∨ 0x110000 ≤ n ∧ n < 0x80000000)
    (length : Nat) : Escape.ofNumber n length = .invalid := by
  rw [Escape.ofNumber]
  split
  · rfl
  · next hnonneg =>
    obtain ⟨hlarge, hlt⟩ := h.resolve_left hnonneg
    rw [CodePoint.ofNat?, dif_neg (by omega)]
    exact if_neg (by omega)

theorem Escape.length_of_ofNumber {n : Int} {length length' : Nat} {c : CodePoint}
    (h : Escape.ofNumber n length = .point c length') : length' = length := by
  obtain rfl := Escape.eq_of_ofNumber h
  rw [Escape.ofNumber_value] at h
  exact (Escape.point.inj h).2.symm

/-- An escape with digits stands for the character whose number they write. -/
theorem decode_eq_point_iff (hletter : digitCount? letter = some count) (c : CodePoint)
    (length : Nat) :
    Escape.decode (letter :: rest) = .point c length ↔
      length = count + 1 ∧ WritesNumber count rest c.value := by
  constructor
  · intro h
    by_cases hnumber : ∃ n, WritesNumber count rest n
    · obtain ⟨n, hn⟩ := hnumber
      rw [decode_of_writesNumber hletter hn] at h
      exact ⟨Escape.length_of_ofNumber h, Escape.eq_of_ofNumber h ▸ hn⟩
    · rw [decode_of_not_writesNumber hletter (not_exists.mp hnumber)] at h
      cases h
  · rintro ⟨rfl, hnumber⟩
    rw [decode_of_writesNumber hletter hnumber, Escape.ofNumber_value]

theorem length_le_of_decode {t : Text} {c : CodePoint} {length : Nat}
    (h : Escape.decode t = .point c length) : length ≤ t.length := by
  cases t with
  | nil => cases h
  | cons letter rest =>
      cases hletter : digitCount? letter with
      | some count =>
          obtain ⟨rfl, hlength, -⟩ := (decode_eq_point_iff hletter c length).mp h
          rw [List.length_take] at hlength
          rw [List.length_cons]
          omega
      | none =>
          rw [Escape.decode, hletter] at h
          split at h
          · obtain ⟨-, rfl⟩ := Escape.point.inj h
            simp
          · cases h

/-! ## Reading step by step -/

/-- A step of reading: what stands at the start of a text, its mark, and the text
after it. -/
inductive Step : Text → Mark → Text → Prop where
  | separator (rest : Text) : Step ((':' : CodePoint) :: rest) .separator rest
  | plain {c : CodePoint} (hcolon : c ≠ CodePoint.ofChar ':')
      (hbackslash : c ≠ CodePoint.ofChar '\\') (rest : Text) : Step (c :: rest) (.point c 1) rest
  | escape {c : CodePoint} {length : Nat} {follows : Text}
      (h : Escape.decode follows = .point c length) :
      Step (('\\' : CodePoint) :: follows) (.point c (length + 1)) (follows.drop length)

/-- A text read from its start on, the marks so far, and the text that is left. -/
inductive Reads : Text → List Mark → Text → Prop where
  | here (t : Text) : Reads t [] t
  | step {t middle rest : Text} {mark : Mark} {marks : List Mark} (hstep : Step t mark middle)
      (hreads : Reads middle marks rest) : Reads t (mark :: marks) rest

/-- How many characters marks were written with. -/
def width (marks : List Mark) : Nat := (marks.map Mark.length).sum

variable {t : Text} {mark : Mark} {marks : List Mark}

theorem Step.marksFrom (h : Step t mark rest) (offset : Nat) :
    marksFrom offset 0 t = (marksFrom (offset + mark.length) 0 rest).map (mark :: ·) := by
  cases h with
  | separator => exact marksFrom_separator offset rest
  | plain hcolon hbackslash =>
      rw [Written.marksFrom]
      simp [hcolon, hbackslash, Mark.length]
  | @escape c length follows h =>
      have htake : (follows.take length).length = length :=
        List.length_take_of_le (length_le_of_decode h)
      have hdecode : Escape.decode (follows.take length ++ follows.drop length) =
          .point c (follows.take length).length := by
        rw [List.take_append_drop, htake, h]
      have hmarks := marksFrom_of_decode hdecode offset
      rw [List.cons_append, List.take_append_drop, htake] at hmarks
      exact hmarks

theorem Step.drop (h : Step t mark rest) : t.drop mark.length = rest := by
  cases h with
  | separator => rfl
  | plain => rfl
  | escape => rfl

theorem Step.length_lt (h : Step t mark rest) : rest.length < t.length := by
  cases h with
  | separator => simp
  | plain => simp
  | escape =>
      rw [List.length_drop, List.length_cons]
      omega

theorem step_numbered_iff (hletter : digitCount? letter = some count) (mark : Mark)
    (after : Text) :
    Step (('\\' : CodePoint) :: letter :: rest) mark after ↔
      ∃ c, mark = .point c (count + 2) ∧ after = rest.drop count ∧
        WritesNumber count rest c.value := by
  constructor
  · intro h
    generalize hall : CodePoint.ofChar '\\' :: letter :: rest = all at h
    cases h with
    | separator => cases (List.cons.inj hall).1
    | plain _ hbackslash => exact absurd (List.cons.inj hall).1.symm hbackslash
    | escape h =>
        obtain rfl := (List.cons.inj hall).2
        obtain ⟨rfl, hnumber⟩ := (decode_eq_point_iff hletter _ _).mp h
        exact ⟨_, rfl, List.drop_succ_cons, hnumber⟩
  · rintro ⟨c, rfl, rfl, hnumber⟩
    exact .escape ((decode_eq_point_iff hletter c (count + 1)).mpr ⟨rfl, hnumber⟩)

/-- A step can be made wherever something is left, unless it is a backslash that
starts no escape. -/
theorem exists_step_or_stuck (c : CodePoint) (t : Text) :
    (∃ mark rest, Step (c :: t) mark rest) ∨
      c = CodePoint.ofChar '\\' ∧ ∀ d length, Escape.decode t ≠ .point d length := by
  by_cases hcolon : c = CodePoint.ofChar ':'
  · subst hcolon
    exact .inl ⟨_, _, .separator t⟩
  by_cases hbackslash : c = CodePoint.ofChar '\\'
  · subst hbackslash
    by_cases hdecode : ∃ d length, Escape.decode t = .point d length
    · obtain ⟨d, length, hd⟩ := hdecode
      exact .inl ⟨_, _, .escape hd⟩
    · exact .inr ⟨rfl, fun d length hd => hdecode ⟨d, length, hd⟩⟩
  · exact .inl ⟨_, _, .plain hcolon hbackslash t⟩

theorem Reads.marksFrom (h : Reads t marks rest) (offset : Nat) :
    marksFrom offset 0 t = (marksFrom (offset + width marks) 0 rest).map (marks ++ ·) := by
  induction h generalizing offset with
  | here t =>
      rw [width, List.map_nil, List.sum_nil, Nat.add_zero]
      cases Written.marksFrom offset 0 t <;> rfl
  | @step t middle rest mark marks hstep _ ih =>
      have hwidth : offset + mark.length + width marks = offset + width (mark :: marks) := by
        rw [width, width, List.map_cons, List.sum_cons, Nat.add_assoc]
      rw [hstep.marksFrom, ih, hwidth]
      cases Written.marksFrom (offset + width (mark :: marks)) 0 rest <;> rfl

/-- What is left starts behind what the marks were written with. -/
theorem Reads.drop (h : Reads t marks rest) : t.drop (width marks) = rest := by
  induction h with
  | here t => rfl
  | step hstep _ ih =>
      rw [width, List.map_cons, List.sum_cons, ← List.drop_drop, hstep.drop]
      exact ih

/-- Every text is read to its end, or to the first backslash that starts no escape. -/
theorem exists_reads (t : Text) :
    ∃ marks rest, Reads t marks rest ∧
      (rest = [] ∨ ∃ follows, rest = ('\\' : CodePoint) :: follows ∧
        ∀ c length, Escape.decode follows ≠ .point c length) := by
  -- a step leaves less, so the induction is on how much is left
  induction hlength : t.length using Nat.strong_induction_on generalizing t with
  | h n ih =>
      cases t with
      | nil => exact ⟨[], [], .here [], .inl rfl⟩
      | cons c t =>
          rcases exists_step_or_stuck c t with ⟨mark, middle, hstep⟩ | ⟨rfl, hstuck⟩
          · have hlt : middle.length < n := hlength ▸ hstep.length_lt
            obtain ⟨marks, rest, hreads, hend⟩ := ih middle.length hlt middle rfl
            exact ⟨mark :: marks, rest, .step hstep hreads, hend⟩
          · exact ⟨[], _, .here _, .inr ⟨t, rfl, hstuck⟩⟩

theorem tokens_of_reads (h : Reads t marks rest) :
    tokens t = (marksFrom (width marks) 0 rest).map fun later => tokensFrom 0 (marks ++ later) := by
  rw [tokens, h.marksFrom, Nat.zero_add]
  cases marksFrom (width marks) 0 rest <;> rfl

theorem tokens_of_invalid {follows : Text}
    (h : Reads t marks (('\\' : CodePoint) :: follows))
    (hinvalid : Escape.decode follows = .invalid) :
    tokens t = .error (.invalidEscape (width marks)) := by
  have hcolon : (CodePoint.ofChar '\\' == CodePoint.ofChar ':') = false := by decide
  rw [tokens_of_reads h, marksFrom, hcolon, hinvalid]
  rfl

theorem tokens_of_numberTooLarge {follows : Text}
    (h : Reads t marks (('\\' : CodePoint) :: follows))
    (hlarge : Escape.decode follows = .numberTooLarge) :
    tokens t = .error .numberTooLarge := by
  have hcolon : (CodePoint.ofChar '\\' == CodePoint.ofChar ':') = false := by decide
  rw [tokens_of_reads h, marksFrom, hcolon, hlarge]
  rfl

/-- A text has names and values exactly if it is read to its end. -/
theorem tokens_eq_ok_iff (t : Text) (result : Token × List Token) :
    tokens t = .ok result ↔ ∃ marks, Reads t marks [] ∧ tokensFrom 0 marks = result := by
  have hend {marks : List Mark} (h : Reads t marks []) : tokens t = .ok (tokensFrom 0 marks) := by
    rw [tokens_of_reads h, marksFrom, Except.map, List.append_nil]
  constructor
  · intro h
    obtain ⟨marks, rest, hreads, rfl | ⟨follows, rfl, hstuck⟩⟩ := exists_reads t
    · exact ⟨marks, hreads, Except.ok.inj ((hend hreads).symm.trans h)⟩
    · cases hdecode : Escape.decode follows with
      | point c length => exact absurd hdecode (hstuck c length)
      | invalid => cases (tokens_of_invalid hreads hdecode).symm.trans h
      | numberTooLarge => cases (tokens_of_numberTooLarge hreads hdecode).symm.trans h
  · rintro ⟨marks, hreads, rfl⟩
    exact hend hreads

/-- Where a text is read up to a backslash whose letter asks for digits, the escape is
accepted exactly if that many characters are left and are read as the number of a
character, which it then stands for, and reading goes on behind them. Digits of base
sixteen are read as their value, and letters and digits only if they are digits of
base sixteen. Where the number is too large for its field that is the error, and in
all other cases it is an invalid escape at the offset of the backslash. -/
theorem tokens_numberedEscape (h : Reads t marks (('\\' : CodePoint) :: letter :: rest))
    (hletter : digitCount? letter = some count) :
    t.drop (width marks) = ('\\' : CodePoint) :: letter :: rest ∧
      (∀ mark after, Step (('\\' : CodePoint) :: letter :: rest) mark after ↔
        ∃ c, mark = .point c (count + 2) ∧ after = rest.drop count ∧
          WritesNumber count rest c.value) ∧
      ((rest.take count).length = count → (∀ c ∈ rest.take count, c.isHexDigit = true) →
        ∀ n, WritesNumber count rest n ↔ n = Text.valueOf 16 (rest.take count)) ∧
      (Text.IsPlain (rest.take count) → ∀ n, WritesNumber count rest n →
        ∀ c ∈ rest.take count, c.isHexDigit = true) ∧
      (∀ c : CodePoint, WritesNumber count rest c.value →
        tokens t = (marksFrom (width marks + (count + 2)) 0 (rest.drop count)).map fun later =>
          tokensFrom 0 (marks ++ .point c (count + 2) :: later)) ∧
      (∀ n, WritesNumber count rest n → 0x80000000 ≤ n → tokens t = .error .numberTooLarge) ∧
      ((∀ n, WritesNumber count rest n → n < 0 ∨ 0x110000 ≤ n ∧ n < 0x80000000) →
        tokens t = .error (.invalidEscape (width marks))) := by
  refine ⟨h.drop, step_numbered_iff hletter, ?_, ?_, ?_, ?_, ?_⟩
  · intro hlength hdigits n
    have hne : rest.take count ≠ [] := by
      rw [← List.length_pos_iff, hlength]
      exact (digitCount?_eq_some hletter).2
    exact (and_iff_right hlength).trans (Text.isHexNumeral_of_digits hne hdigits n)
  · intro hplain n hnumber
    exact hnumber.2.forall_isHexDigit hplain
  · intro c hnumber
    have hstep := (step_numbered_iff hletter _ _).mpr ⟨c, rfl, rfl, hnumber⟩
    rw [tokens_of_reads h, hstep.marksFrom]
    simp only [Mark.length]
    cases marksFrom (width marks + (count + 2)) 0 (rest.drop count) <;> rfl
  · intro n hnumber hlarge
    apply tokens_of_numberTooLarge h
    rw [decode_of_writesNumber hletter hnumber, Escape.ofNumber_large hlarge]
  · intro hnone
    apply tokens_of_invalid h
    by_cases hnumber : ∃ n, WritesNumber count rest n
    · obtain ⟨n, hn⟩ := hnumber
      rw [decode_of_writesNumber hletter hn, Escape.ofNumber_invalid (hnone n hn)]
    · exact decode_of_not_writesNumber hletter (not_exists.mp hnumber)

/-- Behind a name, digits give their character, and letters that are no digits of
base sixteen give an error at the backslash. -/
theorem tokens_numberedEscape_value :
    tokens "k:\\u00e9." = .ok (⟨0, Text.ofString "k"⟩, [⟨2, Text.ofString "é."⟩]) ∧
      tokens "k:\\xZZ" = .error (.invalidEscape 2) := by
  have hreads (letter : CodePoint) (rest : Text) :
      Reads ('k' :: ':' :: ('\\' : CodePoint) :: letter :: rest) [.point 'k' 1, .separator]
        (('\\' : CodePoint) :: letter :: rest) :=
    .step (.plain (by decide) (by decide) _) (.step (.separator _) (.here _))
  have hlong : digitCount? 'u' = some 4 := rfl
  have hshort : digitCount? 'x' = some 2 := rfl
  constructor
  · obtain ⟨_, _, hhex, _, haccepted, _⟩ := tokens_numberedEscape (hreads 'u' "00e9.") hlong
    exact haccepted 'é' ((hhex rfl (by decide) _).mpr rfl)
  · obtain ⟨_, _, _, hplain, _, _, hrefused⟩ := tokens_numberedEscape (hreads 'x' "ZZ") hshort
    apply hrefused
    intro n hnumber
    exact absurd (hplain (by decide) n hnumber) (by decide)

/-- An escape need not be written with digits of base sixteen to be accepted: where
two are asked for, a sign and one digit will do. -/
theorem not_accepted_iff_hexDigits :
    ¬∀ (t rest : Text) (marks : List Mark) (letter : CodePoint) (count : Nat),
      Reads t marks (('\\' : CodePoint) :: letter :: rest) → digitCount? letter = some count →
        ((∃ mark after, Step (('\\' : CodePoint) :: letter :: rest) mark after) ↔
          (rest.take count).length = count ∧ (∀ c ∈ rest.take count, c.isHexDigit = true) ∧
            Text.valueOf 16 (rest.take count) < 0x110000) := by
  intro h
  have hplus := h "\\x+1" "+1" [] 'x' 2 (.here _) rfl
  have hdecode : Escape.decode "x+1" = .point '\x01' 3 := rfl
  obtain ⟨-, hdigits, -⟩ := hplus.mp ⟨_, _, .escape hdecode⟩
  exact absurd (hdigits '+' List.mem_cons_self) (by decide)

end Written

end KeyNaming
