import KeyNaming.Text.Case

/-!
Lower case of ASCII text.

Inside ASCII the lower case is taken one code point at a time, and what it
gives is its own lower case.
-/

namespace KeyNaming

namespace CodePoint

theorem isAscii_of_isAsciiWord (c : CodePoint) (h : c.isAsciiWord = true) : c.isAscii = true := by
  simp only [isAsciiWord, isAsciiLetter, isAsciiDigit, isAscii, Bool.or_eq_true,
    Bool.and_eq_true, decide_eq_true_eq, beq_iff_eq] at h ⊢
  omega

theorem isAscii_toLower (c : CodePoint) (h : c.isAscii = true) : c.toLower.isAscii = true := by
  rw [toLower, if_pos h]
  split
  · next hupper =>
    simp only [isAscii, decide_eq_true_eq]
    omega
  · exact h

theorem toLower_toLower (c : CodePoint) (h : c.isAscii = true) : c.toLower.toLower = c.toLower := by
  have hlow := isAscii_toLower c h
  rw [toLower, if_pos hlow]
  have hnot : ¬(0x41 ≤ c.toLower.value ∧ c.toLower.value ≤ 0x5A) := by
    rw [toLower, if_pos h]
    split
    · simp only
      omega
    · next hnot => exact hnot
  rw [dif_neg hnot]

theorem isAsciiLetter_toLower (c : CodePoint) (h : c.isAscii = true) :
    c.toLower.isAsciiLetter = c.isAsciiLetter := by
  rw [toLower, if_pos h]
  split
  · next hupper =>
    rw [Bool.eq_iff_iff]
    simp only [isAsciiLetter, Bool.or_eq_true, Bool.and_eq_true, decide_eq_true_eq]
    omega
  · rfl

/-- Letters alone have another lower case. -/
theorem toLower_of_not_isAsciiLetter (c : CodePoint) (h : c.isAscii = true)
    (hletter : c.isAsciiLetter = false) : c.toLower = c := by
  simp only [isAsciiLetter, Bool.or_eq_false_iff, Bool.and_eq_false_iff,
    decide_eq_false_iff_not] at hletter
  rw [toLower, if_pos h, dif_neg (by omega)]

theorem toLower_eq_iff_of_not_isAsciiLetter {c d : CodePoint} (hc : c.isAscii = true)
    (hd : d.isAscii = true) (hletter : d.isAsciiLetter = false) : c.toLower = d ↔ c = d := by
  constructor
  · intro h
    have hother : c.isAsciiLetter = false := by rw [← c.isAsciiLetter_toLower hc, h, hletter]
    rw [← h, c.toLower_of_not_isAsciiLetter hc hother]
  · rintro rfl
    exact c.toLower_of_not_isAsciiLetter hc hletter

theorem isAsciiLetter_of_isAsciiDigit {c : CodePoint} (h : c.isAsciiDigit = true) :
    c.isAsciiLetter = false := by
  simp only [isAsciiDigit, Bool.and_eq_true, decide_eq_true_eq] at h
  simp only [isAsciiLetter, Bool.or_eq_false_iff, Bool.and_eq_false_iff,
    decide_eq_false_iff_not]
  omega

theorem isAscii_of_isAsciiDigit {c : CodePoint} (h : c.isAsciiDigit = true) :
    c.isAscii = true := by
  simp only [isAsciiDigit, isAscii, Bool.and_eq_true, decide_eq_true_eq] at h ⊢
  omega

theorem lower_of_isAscii (c : CodePoint) (h : c.isAscii = true) : c.lower = [c.toLower] := by
  simp only [isAscii, decide_eq_true_eq] at h
  have hne : (c.value == 0x130) = false := by
    rw [beq_eq_false_iff_ne]
    omega
  simp [lower, hne]

end CodePoint

namespace Text

private theorem lowerAfter_of_ascii (before t : Text) (h : ∀ c ∈ t, c.isAscii = true) :
    lowerAfter before t = t.map CodePoint.toLower := by
  induction t generalizing before with
  | nil => rfl
  | cons c rest ih =>
      have hc := h c (List.mem_cons_self ..)
      have hsigma : (c.value == 0x3A3) = false := by
        simp only [CodePoint.isAscii, decide_eq_true_eq] at hc
        rw [beq_eq_false_iff_ne]
        omega
      have hrest := ih (c :: before) fun d hd => h d (List.mem_cons_of_mem c hd)
      simp [lowerAfter, lowerBetween, hsigma, c.lower_of_isAscii hc, hrest]

/-- ASCII text is lowered one code point at a time. -/
theorem lower_of_ascii (t : Text) (h : ∀ c ∈ t, c.isAscii = true) :
    t.lower = t.map CodePoint.toLower :=
  lowerAfter_of_ascii [] t h

theorem lower_append_of_ascii {s t : Text} (hs : ∀ c ∈ s, c.isAscii = true)
    (ht : ∀ c ∈ t, c.isAscii = true) : (s ++ t).lower = s.lower ++ t.lower := by
  rw [lower_of_ascii s hs, lower_of_ascii t ht, lower_of_ascii, List.map_append]
  intro c hc
  exact (List.mem_append.mp hc).elim (hs c) (ht c)

/-- Texts without letters that differ in case alone do not differ. -/
theorem eq_of_lower_eq_of_unlettered {s t : Text} (hs : ∀ c ∈ s, c.isAscii = true)
    (ht : ∀ c ∈ t, c.isAscii = true ∧ c.isAsciiLetter = false) (h : s.lower = t.lower) : s = t := by
  rw [lower_of_ascii s hs, lower_of_ascii t fun c hc => (ht c hc).1] at h
  induction s generalizing t with
  | nil =>
      cases t with
      | nil => rfl
      | cons d t => cases h
  | cons c s ih =>
      cases t with
      | nil => cases h
      | cons d t =>
          rw [List.map_cons, List.map_cons] at h
          obtain ⟨hhead, htail⟩ := List.cons.inj h
          obtain ⟨hd, hletter⟩ := ht d List.mem_cons_self
          rw [d.toLower_of_not_isAsciiLetter hd hletter,
            CodePoint.toLower_eq_iff_of_not_isAsciiLetter (hs c List.mem_cons_self) hd hletter]
            at hhead
          rw [hhead, ih (fun e he => hs e (List.mem_cons_of_mem c he))
            (fun e he => ht e (List.mem_cons_of_mem d he)) htail]

/-- The lower case of ASCII text is its own lower case. -/
theorem lower_lower_of_ascii (t : Text) (h : ∀ c ∈ t, c.isAscii = true) :
    t.lower.lower = t.lower := by
  rw [lower_of_ascii t h, lower_of_ascii]
  · rw [List.map_map]
    apply List.map_congr_left
    intro c hc
    exact c.toLower_toLower (h c hc)
  · intro c hc
    obtain ⟨d, hd, rfl⟩ := List.mem_map.mp hc
    exact d.isAscii_toLower (h d hd)

end Text

end KeyNaming
