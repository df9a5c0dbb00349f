import KeyNaming.Text.Case
import KeyNaming.Text.Utf8

/-!
Surrogates, which are what keeps a text from having a UTF-8 form.

No mapping of case gives a surrogate, so lowering a text neither adds one nor
takes one away.
-/

namespace KeyNaming

namespace CodePoint

theorem utf8?_eq_none_iff (c : CodePoint) : c.utf8? = none ↔ c.isSurrogate = true := by
  rw [utf8?]
  split
  · next hsurrogate => simp [hsurrogate]
  · next hscalar =>
    refine iff_of_false ?_ hscalar
    split
    · exact Option.some_ne_none _
    · split
      · exact Option.some_ne_none _
      · split <;> exact Option.some_ne_none _

theorem isSurrogate_iff (c : CodePoint) :
    c.isSurrogate = true ↔ 0xD800 ≤ c.value ∧ c.value ≤ 0xDFFF := by
  rw [isSurrogate, Bool.and_eq_true, decide_eq_true_eq, decide_eq_true_eq]

end CodePoint

namespace Text

/-- A text has a UTF-8 form unless there is a surrogate in it. -/
theorem isSome_utf8?_iff (t : Text) :
    t.utf8?.isSome = true ↔ ∀ c ∈ t, c.isSurrogate = false := by
  rw [utf8?, Option.isSome_map]
  induction t with
  | nil => simp
  | cons c rest ih =>
      rw [List.mapM_cons, List.forall_mem_cons, ← ih]
      cases hc : c.utf8? with
      | none => simp [(CodePoint.utf8?_eq_none_iff c).mp hc]
      | some bytes =>
          have hscalar : c.isSurrogate = false := by
            rw [← Bool.not_eq_true, ← CodePoint.utf8?_eq_none_iff, hc]
            exact Option.some_ne_none bytes
          cases rest.mapM CodePoint.utf8? <;> simp [hscalar]

theorem rowTarget?_lowerRows {n target : Nat} (h : rowTarget? lowerRows n = some target) :
    target < 0xD800 ∨ 0xDFFF < target := by
  have hrows : ∀ row ∈ lowerRows,
      row.target + (row.last - row.first) < 0xD800 ∨ 0xDFFF < row.target := by decide +kernel
  obtain ⟨row, hrow, rfl⟩ := Option.map_eq_some_iff.mp h
  have hin := List.find?_some hrow
  simp only [Bool.and_eq_true, decide_eq_true_eq] at hin
  have hrange := hrows row (List.mem_of_find?_eq_some hrow)
  omega

end Text

namespace CodePoint

theorem value_of_ofNat? {n : Nat} {c : CodePoint} (h : ofNat? n = some c) : c.value = n := by
  rw [ofNat?] at h
  split at h
  · rw [← Option.some.inj h]
  · cases h

theorem toLower_eq_or_isSurrogate_eq_false (c : CodePoint) :
    c.toLower = c ∨ c.toLower.isSurrogate = false := by
  rw [toLower, ← Bool.not_eq_true, isSurrogate_iff]
  split
  · split
    · right
      simp only
      omega
    · exact .inl rfl
  · split
    · exact .inr (by decide)
    · cases htarget : (Text.rowTarget? Text.lowerRows c.value).bind ofNat? with
      | none => exact .inl rfl
      | some d =>
          right
          obtain ⟨n, hn, hd⟩ := Option.bind_eq_some_iff.mp htarget
          have hrange := Text.rowTarget?_lowerRows hn
          rw [Option.getD_some, value_of_ofNat? hd]
          omega

/-- A surrogate is the lower case of itself only. -/
theorem eq_of_mem_lower {c d : CodePoint} (hd : d.isSurrogate = true) (h : d ∈ c.lower) :
    d = c := by
  rw [lower] at h
  split at h
  · rcases List.mem_cons.mp h with rfl | h
    · cases hd
    · obtain rfl := List.mem_singleton.mp h
      cases hd
  · obtain rfl := List.mem_singleton.mp h
    rcases c.toLower_eq_or_isSurrogate_eq_false with hsame | hscalar
    · exact hsame
    · cases hd.symm.trans hscalar

end CodePoint

namespace Text

theorem mem_of_mem_lowerAfter {d : CodePoint} (hd : d.isSurrogate = true) (before t : Text)
    (h : d ∈ lowerAfter before t) : d ∈ t := by
  induction t generalizing before with
  | nil => cases h
  | cons c rest ih =>
      rw [lowerAfter, List.mem_append] at h
      rcases h with hfirst | hrest
      · rw [lowerBetween] at hfirst
        split at hfirst
        · obtain rfl := List.mem_singleton.mp hfirst
          split at hd <;> cases hd
        · exact CodePoint.eq_of_mem_lower hd hfirst ▸ List.mem_cons_self
      · exact List.mem_cons_of_mem c (ih _ hrest)

/-- Lowering a text adds no surrogate. -/
theorem mem_of_mem_lower {d : CodePoint} (hd : d.isSurrogate = true) {t : Text}
    (h : d ∈ t.lower) : d ∈ t :=
  mem_of_mem_lowerAfter hd [] t h

end Text

end KeyNaming
