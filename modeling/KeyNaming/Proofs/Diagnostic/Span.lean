import KeyNaming.Diagnostic.Finding

/-!
Spans that lie in their text.

Offsets that are in order and lie in a text make up a span, so a problem that
is told by such offsets has a diagnostic, and the diagnostic quotes what stands
there. A span covers a piece of a text if the piece is not empty and stands
between its offsets.
-/

namespace KeyNaming

theorem Text.slice_append (before t behind : Text) :
    Text.slice (before ++ (t ++ behind)) before.length (before.length + t.length) = t := by
  rw [slice, List.drop_left, Nat.add_sub_cancel_left, List.take_left]

namespace Span

variable {start stop : Nat}

theorem ofInts_natCast (h : start ≤ stop) :
    Span.ofInts (start : Int) (stop : Int) = .ok ⟨start, stop, h⟩ := by
  rw [ofInts, if_neg (by omega), dif_neg (by omega)]
  rfl

theorem toEnd_eq (h : start ≤ stop) : Span.toEnd start stop = ⟨start, stop, h⟩ := by
  simp only [toEnd, Nat.max_eq_right h]

/-- Only an offset before the end has a span to the end that is not empty. -/
theorem le_of_toEnd (h : (toEnd start stop).start < (toEnd start stop).stop) : start ≤ stop := by
  change start < max start stop at h
  omega

theorem ofInts_toEnd (h : start ≤ stop) :
    Span.ofInts (start : Int) (stop : Int) = .ok (.toEnd start stop) := by
  rw [ofInts_natCast h, toEnd_eq h]

theorem ofInts_ofLength (start length : Nat) :
    Span.ofInts (start : Int) ((start : Int) + (length : Int)) = .ok (.ofLength start length) :=
  ofInts_natCast (Nat.le_add_right start length)

/-- Whether a piece of a text that is not empty stands at a span. -/
structure Covers (span : Span) (t piece : Text) : Prop where
  nonempty : piece ≠ []
  stands : ∃ before behind : Text, t = before ++ (piece ++ behind) ∧
    span.start = before.length ∧ span.stop = before.length + piece.length

section

variable {span : Span} {t piece : Text}

theorem Covers.start_lt_stop (h : span.Covers t piece) : span.start < span.stop := by
  obtain ⟨before, behind, -, hstart, hstop⟩ := h.stands
  have hlength := List.length_pos_iff.mpr h.nonempty
  omega

theorem Covers.stop_le_length (h : span.Covers t piece) : span.stop ≤ t.length := by
  obtain ⟨before, behind, rfl, -, hstop⟩ := h.stands
  simp only [List.length_append]
  omega

theorem Covers.slice_eq (h : span.Covers t piece) : t.slice span.start span.stop = piece := by
  obtain ⟨before, behind, rfl, hstart, hstop⟩ := h.stands
  rw [hstart, hstop]
  exact Text.slice_append before piece behind

variable {before behind : Text}

theorem covers_ofLength (ht : t = before ++ (piece ++ behind)) (hpiece : piece ≠ []) :
    (Span.ofLength before.length piece.length).Covers t piece :=
  ⟨hpiece, before, behind, ht, rfl, rfl⟩

theorem covers_toEnd (ht : t = before ++ (piece ++ behind)) (hpiece : piece ≠ []) :
    (Span.toEnd before.length (before.length + piece.length)).Covers t piece :=
  ⟨hpiece, before, behind, ht, rfl, Nat.max_eq_right (Nat.le_add_right _ _)⟩

/-- What stands from an offset to the end of a text. -/
theorem covers_toEnd_length (ht : t = before ++ piece) (hpiece : piece ≠ []) :
    (Span.toEnd before.length t.length).Covers t piece ∧
      (Span.toEnd before.length t.length).stop = t.length := by
  subst ht
  rw [List.length_append]
  refine ⟨covers_toEnd (congrArg _ (List.append_nil piece).symm) hpiece, ?_⟩
  exact congrArg Span.stop (toEnd_eq (Nat.le_add_right _ _))

end

end Span

namespace Diagnostic

/-- Whether a diagnostic is about a text, and its span lies in the text. -/
structure PointsInto (d : Diagnostic) (t : Text) (span : Span) : Prop where
  source : d.source = some t
  spanned : d.span = some span
  inside : span.stop ≤ t.length

theorem PointsInto.excerpt_eq {d : Diagnostic} {t : Text} {span : Span}
    (h : d.PointsInto t span) : d.excerpt = some (t.slice span.start span.stop) := by
  rw [excerpt, h.spanned, h.source]

theorem PointsInto.excerpt_of_covers {d : Diagnostic} {t piece : Text} {span : Span}
    (h : d.PointsInto t span) (hcovers : span.Covers t piece) : d.excerpt = some piece := by
  rw [h.excerpt_eq, hcovers.slice_eq]

end Diagnostic

end KeyNaming
