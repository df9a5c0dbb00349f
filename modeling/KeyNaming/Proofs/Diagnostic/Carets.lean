import KeyNaming.Diagnostic.Message
import KeyNaming.Proofs.Diagnostic.Visible

/-!
Carets under a span.

The carets of a report stand under the offsets that the span has in the source,
but the line above them shows the source with its control characters escaped,
and an escape is longer than what it stands for. So the carets stand under just
the text of the span exactly if no control character comes before its end.
-/

namespace KeyNaming

open Text (IsClear)
open CodePoint (lineFeed)

namespace Text

variable {start stop : Nat}

theorem take_append_slice (h : start ≤ stop) (t : Text) :
    t.take start ++ t.slice start stop = t.take stop := by
  rw [slice, ← List.take_add, Nat.add_sub_cancel' h]

theorem take_slice_drop (h : start ≤ stop) (t : Text) :
    t.take start ++ (t.slice start stop ++ t.drop stop) = t := by
  rw [← List.append_assoc, take_append_slice h, List.take_append_drop]

theorem length_slice (start : Nat) {t : Text} (h : stop ≤ t.length) :
    (t.slice start stop).length = stop - start := by
  rw [slice, List.length_take_of_le]
  rw [List.length_drop]
  omega

theorem isClear_take_iff (h : start ≤ stop) (t : Text) :
    IsClear (t.take stop) ↔ IsClear (t.take start) ∧ IsClear (t.slice start stop) := by
  rw [← take_append_slice h]
  exact List.forall_mem_append

end Text

namespace Report

/-! ## A line and the carets under it -/

def caret : CodePoint := '^'

/-- What stands in a line directly above the carets of the next line. -/
def aboveCarets : Text → Text → Text
  | c :: shown, mark :: carets =>
    if mark = caret then c :: aboveCarets shown carets else aboveCarets shown carets
  | _, _ => []

/-- Whether a line has carets at so many places in a row from an offset on, and
nowhere else. -/
def CaretsAt (carets : Text) (start length : Nat) : Prop :=
  ∀ i, carets[i]? = some caret ↔ start ≤ i ∧ i < start + length

variable {blank : Text}

theorem aboveCarets_replicate (n : Nat) (t : Text) :
    aboveCarets t (List.replicate n caret) = t.take n := by
  induction n generalizing t with
  | zero => cases t <;> rfl
  | succ n ih =>
      cases t with
      | nil => rfl
      | cons c t => rw [List.replicate_succ, aboveCarets, if_pos rfl, ih, List.take_succ_cons]

/-- Carets behind something blank take a piece out of the line above them. -/
theorem aboveCarets_blank (h : caret ∉ blank) (n : Nat) (t : Text) :
    aboveCarets t (blank ++ List.replicate n caret) = (t.drop blank.length).take n := by
  induction blank generalizing t with
  | nil => exact aboveCarets_replicate n t
  | cons mark blank ih =>
      obtain ⟨hmark, hblank⟩ := not_or.mp (mt List.mem_cons.mpr h)
      cases t with
      | nil => rw [List.drop_nil, List.take_nil]; rfl
      | cons c t =>
          rw [List.cons_append, aboveCarets, if_neg (Ne.symm hmark), ih hblank, List.length_cons,
            List.drop_succ_cons]

theorem caretsAt_blank (h : caret ∉ blank) (n : Nat) :
    CaretsAt (blank ++ List.replicate n caret) blank.length n := by
  intro i
  by_cases hi : i < blank.length
  · rw [List.getElem?_append_left hi]
    have hne : blank[i]? ≠ some caret := fun hsome => h (List.mem_of_getElem? hsome)
    exact iff_of_false hne fun hle => by omega
  · rw [List.getElem?_append_right (by omega), List.getElem?_replicate]
    split
    · exact iff_of_true rfl (by omega)
    · exact iff_of_false nofun fun hle => by omega

/-- Carets stand in one place only. -/
theorem CaretsAt.unique {carets : Text} {start length start' length' : Nat}
    (h : CaretsAt carets start length) (h' : CaretsAt carets start' length')
    (hpos : 0 < length) : start = start' ∧ length = length' := by
  have hfirst := (h' start).mp ((h start).mpr (by omega))
  have hfirst' := (h start').mp ((h' start').mpr (by omega))
  have hlast := (h' (start + length - 1)).mp ((h _).mpr (by omega))
  have hlast' := (h (start' + length' - 1)).mp ((h' _).mpr (by omega))
  omega

/-! ## The source and its carets -/

/-- What stands before the source and before its carets. -/
def margin : Text := "    | "

def caretLine (span : Span) : Text :=
  margin ++ List.replicate span.start (CodePoint.ofChar ' ') ++
    List.replicate (span.stop - span.start) caret

theorem spanLines_eq {span : Span} (h : span.start < span.stop) (source : Text) :
    spanLines span (some source) =
      ["  --> column " ++ Text.ofNat span.column, margin ++ visible source, caretLine span] := by
  have hwidth : Nat.max (span.stop - span.start) 1 = span.stop - span.start :=
    Nat.max_eq_left (by omega)
  rw [spanLines, hwidth]
  rfl

theorem caret_notMem (n : Nat) :
    caret ∉ margin ++ List.replicate n (CodePoint.ofChar ' ') := by
  rw [List.mem_append, not_or]
  exact ⟨by decide, fun h => by cases List.eq_of_mem_replicate h⟩

theorem aboveCarets_caretLine (span : Span) (t : Text) :
    aboveCarets (margin ++ t) (caretLine span) = t.slice span.start span.stop := by
  rw [caretLine, aboveCarets_blank (caret_notMem _), List.length_append, List.length_replicate,
    List.drop_length_add_append, Text.slice]

theorem caretsAt_caretLine (span : Span) :
    CaretsAt (caretLine span) (margin.length + span.start) (span.stop - span.start) := by
  have h := caretsAt_blank (caret_notMem span.start) (span.stop - span.start)
  rwa [List.length_append, List.length_replicate] at h

theorem visible_append (s t : Text) : visible (s ++ t) = visible s ++ visible t :=
  List.flatMap_append

theorem length_visible_eq_iff (t : Text) : (visible t).length = t.length ↔ IsClear t := by
  have hcount : t.countP CodePoint.isControl = 0 ↔ IsClear t := by
    rw [List.countP_eq_zero]
    simp only [IsClear, Bool.not_eq_true]
  rw [← hcount, length_visible]
  omega

theorem visible_parts {start stop : Nat} (h : start ≤ stop) (t : Text) :
    visible t =
      visible (t.take start) ++ (visible (t.slice start stop) ++ visible (t.drop stop)) := by
  rw [← visible_append, ← visible_append, Text.take_slice_drop h]

section

variable {span : Span} {source : Text} (hstop : span.stop ≤ source.length)
include hstop

/-- The carets stand where the shown text of the span does, if nothing up to its
end takes more room than in the source. -/
theorem caretsAt_visible_iff (hstart : span.start < span.stop) :
    CaretsAt (caretLine span) (margin ++ visible (source.take span.start)).length
        (visible (source.slice span.start span.stop)).length ↔
      IsClear (source.take span.stop) := by
  have hbefore : (source.take span.start).length = span.start :=
    List.length_take_of_le (hstart.le.trans hstop)
  have hlength := Text.length_slice span.start hstop
  rw [Text.isClear_take_iff hstart.le, ← length_visible_eq_iff, ← length_visible_eq_iff, hbefore,
    hlength, List.length_append]
  constructor
  · intro h
    obtain ⟨hfirst, hwidth⟩ := (caretsAt_caretLine span).unique h (by omega)
    omega
  · rintro ⟨hfirst, hwidth⟩
    rw [hfirst, hwidth]
    exact caretsAt_caretLine span

theorem slice_visible_of_clear (h : IsClear (source.take span.stop)) :
    (visible source).slice span.start span.stop =
      visible (source.slice span.start span.stop) := by
  have hle : span.start ≤ span.stop := span.start_le_stop
  obtain ⟨hbefore, hexcerpt⟩ := (Text.isClear_take_iff hle source).mp h
  rw [visible_parts hle, visible_eq_self hbefore, visible_eq_self hexcerpt,
    Text.slice, List.drop_left' (List.length_take_of_le (hle.trans hstop)),
    List.take_left' (Text.length_slice span.start hstop)]

/-- There are as many carets as the span is long, and an escape is longer than
what it stands for. -/
theorem isClear_of_slice_visible_eq
    (h : (visible source).slice span.start span.stop =
      visible (source.slice span.start span.stop)) :
    IsClear (source.slice span.start span.stop) := by
  have hwidth := congrArg List.length h
  have hmost := List.length_take_le (span.stop - span.start) ((visible source).drop span.start)
  rw [Text.slice, length_visible, Text.length_slice span.start hstop] at hwidth
  rw [← length_visible_eq_iff, length_visible, Text.length_slice span.start hstop]
  omega

end

end Report

namespace Diagnostic

open Report

variable {d : Diagnostic} {source : Text} {span : Span}

theorem lines_of_span (hspan : d.span = some span) (hsource : d.source = some source)
    (hstart : span.start < span.stop) :
    (List.splitOn lineFeed (d.report .rust false))[2]? = some (margin ++ visible source) ∧
      (List.splitOn lineFeed (d.report .rust false))[3]? = some (caretLine span) := by
  have hlines : ∃ head, Report.lines false d =
      head :: (spanLines span (some source) ++ hintLines d.hint) := by
    rw [Report.lines, hspan, hsource]
    exact ⟨_, rfl⟩
  obtain ⟨head, hhead⟩ := hlines
  rw [splitOn_report, hhead, spanLines_eq hstart]
  exact ⟨rfl, rfl⟩

/-- The source is shown with its control characters escaped, and the shown form of
what the span covers is a piece of it. The carets stand under what the shown source
has at the offsets of the span in the source itself. That is just the piece exactly
if no control character comes before the end of the span, and then the piece is
what stands above the carets. -/
theorem aboveCarets_report (hspan : d.span = some span) (hsource : d.source = some source)
    (hstart : span.start < span.stop) (hstop : span.stop ≤ source.length) :
    ∃ excerpt before behind shown carets : Text, d.excerpt = some excerpt ∧
      (List.splitOn lineFeed (d.report .rust false))[2]? = some shown ∧
      (List.splitOn lineFeed (d.report .rust false))[3]? = some carets ∧
      shown = before ++ (visible excerpt ++ behind) ∧
      before = margin ++ visible (source.take span.start) ∧
      aboveCarets shown carets = (visible source).slice span.start span.stop ∧
      (CaretsAt carets before.length (visible excerpt).length ↔
        IsClear (source.take span.stop)) ∧
      (IsClear (source.take span.stop) → aboveCarets shown carets = visible excerpt) ∧
      (aboveCarets shown carets = visible excerpt → IsClear excerpt) := by
  obtain ⟨hshown, hcarets⟩ := lines_of_span hspan hsource hstart
  have hexcerpt : d.excerpt = some (source.slice span.start span.stop) := by
    rw [excerpt, hspan, hsource]
  have habove := aboveCarets_caretLine span (visible source)
  refine ⟨_, _, visible (source.drop span.stop), _, _, hexcerpt, hshown, hcarets, ?_, rfl,
    habove, caretsAt_visible_iff hstop hstart, fun h => ?_, fun h => ?_⟩
  · rw [visible_parts hstart.le, List.append_assoc]
  · rw [habove, slice_visible_of_clear hstop h]
  · rw [habove] at h
    exact isClear_of_slice_visible_eq hstop h

theorem aboveCarets_report_unknownEscape :
    let d := Diagnostic.unknownEscape "a\\q\t" ⟨1, 3, by omega⟩
    ∃ shown carets : Text, (List.splitOn lineFeed (d.report .rust false))[2]? = some shown ∧
      (List.splitOn lineFeed (d.report .rust false))[3]? = some carets ∧
      CaretsAt carets 7 2 ∧ aboveCarets shown carets = "\\q" := by
  intro d
  obtain ⟨excerpt, before, behind, shown, carets, hexcerpt, hshown, hcarets, -, rfl, -, hplace,
    habove, -⟩ := aboveCarets_report (d := d) rfl rfl (by decide) (by decide)
  obtain rfl := Option.some.inj hexcerpt
  exact ⟨shown, carets, hshown, hcarets, hplace.mpr (by decide), habove (by decide)⟩

/-- A tab before the span moves the text of the span to the right, and the
carets stay where they are: under the letter of the escape. -/
theorem not_aboveCarets_excerpt :
    ¬∀ (d : Diagnostic) (source : Text) (span : Span) (shown carets : Text),
      d.span = some span → d.source = some source → span.start < span.stop →
      span.stop ≤ source.length →
      (List.splitOn lineFeed (d.report .rust false))[2]? = some shown →
      (List.splitOn lineFeed (d.report .rust false))[3]? = some carets →
      d.excerpt.map visible = some (aboveCarets shown carets) := by
  intro h
  let span : Span := ⟨1, 2, by omega⟩
  have hstart : span.start < span.stop := by decide
  let d := Diagnostic.unexpectedBracket "\t\x7d" span "\x7d"
  obtain ⟨hshown, hcarets⟩ := lines_of_span (d := d) rfl rfl hstart
  have hwrong := h d _ span _ _ rfl rfl hstart (by decide) hshown hcarets
  rw [aboveCarets_caretLine] at hwrong
  exact absurd hwrong (by decide)

end Diagnostic

end KeyNaming
