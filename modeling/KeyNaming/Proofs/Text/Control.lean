import KeyNaming.Proofs.Text.Numeral
import KeyNaming.Text.Quoted

/-!
Control characters in texts.

There are few control characters, so what holds of all of them can be checked one
by one. A JSON string lets one of them through as it is, the delete character,
and writes all others in escapes.
-/

namespace KeyNaming

namespace CodePoint

/-- The one control character that stands behind the space. -/
def delete : CodePoint := '\x7f'

theorem forall_isControl {P : CodePoint → Prop} (hlow : ∀ n : Fin 0x20, P ⟨n, by omega⟩)
    (hdelete : P delete) {c : CodePoint} (h : c.isControl = true) : P c := by
  simp only [isControl, Bool.or_eq_true, decide_eq_true_eq, beq_iff_eq] at h
  obtain ⟨value, hvalue⟩ := c
  rcases h with hlt | rfl
  · exact hlow ⟨value, hlt⟩
  · exact hdelete

end CodePoint

namespace Text

open CodePoint (delete)

/-- Whether no control character stands in a text. -/
def IsClear (t : Text) : Prop := ∀ c ∈ t, c.isControl = false

instance : DecidablePred IsClear := fun t =>
  inferInstanceAs (Decidable (∀ c ∈ t, c.isControl = false))

variable {s t : Text} {c : CodePoint}

theorem IsClear.append (hs : s.IsClear) (ht : t.IsClear) : (s ++ t).IsClear :=
  List.forall_mem_append.mpr ⟨hs, ht⟩

theorem IsClear.notMem (h : t.IsClear) (hc : c.isControl = true) : c ∉ t := fun hmem => by
  rw [h c hmem] at hc
  cases hc

theorem IsClear.notMem_append (ht : t.IsClear) (hc : c.isControl = true) (hs : c ∉ s) :
    c ∉ s ++ t :=
  List.mem_append.not.mpr (not_or.mpr ⟨hs, ht.notMem hc⟩)

theorem isClear_ofNat (n : Nat) : (ofNat n).IsClear := by
  intro c hc
  have hdigit := isAsciiDigit_of_mem_ofNat hc
  simp only [CodePoint.isAsciiDigit, Bool.and_eq_true, decide_eq_true_eq] at hdigit
  simp only [CodePoint.isControl, Bool.or_eq_false_iff, decide_eq_false_iff_not,
    beq_eq_false_iff_ne]
  omega

/-! ## JSON strings -/

theorem jsonPoint_of_clear (hc : c.isControl = false) (hquote : c ≠ CodePoint.ofChar '"')
    (hbackslash : c ≠ CodePoint.ofChar '\\') : jsonPoint c = [c] := by
  have hne {d : CodePoint} (hd : d.isControl = true) : c ≠ d := by
    rintro rfl
    rw [hc] at hd
    cases hd
  have hlow : ¬c.value < 0x20 := by
    rw [CodePoint.isControl, Bool.or_eq_false_iff] at hc
    exact of_decide_eq_false hc.1
  simp only [jsonPoint, beq_iff_eq, hquote, hbackslash, hlow, if_false,
    hne (d := CodePoint.ofChar '\n') (by decide), hne (d := CodePoint.ofChar '\r') (by decide),
    hne (d := CodePoint.ofChar '\t') (by decide), hne (d := CodePoint.ofChar '\x08') (by decide),
    hne (d := CodePoint.ofChar '\x0c') (by decide)]

theorem isClear_jsonPoint (h : c ≠ delete) : IsClear (jsonPoint c) := by
  by_cases hcontrol : c.isControl = true
  · exact CodePoint.forall_isControl (P := fun c => c ≠ delete → IsClear (jsonPoint c))
      (by decide +kernel) (absurd rfl) hcontrol h
  by_cases hquote : c = CodePoint.ofChar '"'
  · subst hquote
    decide
  by_cases hbackslash : c = CodePoint.ofChar '\\'
  · subst hbackslash
    decide
  · rw [Bool.not_eq_true] at hcontrol
    rw [jsonPoint_of_clear hcontrol hquote hbackslash]
    exact List.forall_mem_singleton.mpr hcontrol

/-- A control character stands in a JSON string only if it is the delete
character and stands in the text. -/
theorem mem_json_iff (hc : c.isControl = true) (t : Text) :
    c ∈ t.json ↔ c = delete ∧ delete ∈ t := by
  have hquote : c ≠ CodePoint.ofChar '"' := by
    rintro rfl
    cases hc
  rw [json, List.mem_append, List.mem_cons, List.mem_singleton, or_iff_left hquote,
    or_iff_right hquote, List.mem_flatMap]
  constructor
  · rintro ⟨d, hd, hmem⟩
    by_cases hdelete : d = delete
    · subst hdelete
      exact ⟨List.mem_singleton.mp hmem, hd⟩
    · exact absurd hmem ((isClear_jsonPoint hdelete).notMem hc)
  · rintro ⟨rfl, hmem⟩
    exact ⟨delete, hmem, List.mem_singleton.mpr rfl⟩

end Text

end KeyNaming
