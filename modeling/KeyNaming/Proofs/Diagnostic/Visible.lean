import KeyNaming.Diagnostic.Report
import KeyNaming.Proofs.Text.Control
import KeyNaming.Proofs.Text.Lines

/-!
Control characters in reports.

What a diagnostic quotes is written with its control characters escaped, so a
report with carets has no other control characters than the line feeds between
its lines, and a report of one line has none. A JSON report leaves the delete
character of a message, a source or a hint as it is.
-/

namespace KeyNaming

open Text (IsClear IsLine)
open CodePoint (lineFeed delete)

namespace Report

/-! ## Escaped text -/

variable {c : CodePoint} {t : Text}

theorem visiblePoint_of_isControl (h : c.isControl = true) :
    (visiblePoint c).length = 4 ∧ IsClear (visiblePoint c) :=
  CodePoint.forall_isControl
    (P := fun c => (visiblePoint c).length = 4 ∧ IsClear (visiblePoint c))
    (by decide +kernel) (by decide +kernel) h

theorem visiblePoint_of_clear (h : c.isControl = false) : visiblePoint c = [c] := by
  rw [visiblePoint, if_neg (by rw [h]; exact Bool.false_ne_true)]

theorem visible_cons (c : CodePoint) (t : Text) : visible (c :: t) = visiblePoint c ++ visible t :=
  rfl

theorem isClear_visible (t : Text) : IsClear (visible t) := by
  intro c hc
  obtain ⟨d, -, hd⟩ := List.mem_flatMap.mp hc
  cases hcontrol : d.isControl with
  | true => exact (visiblePoint_of_isControl hcontrol).2 c hd
  | false =>
      rw [visiblePoint_of_clear hcontrol, List.mem_singleton] at hd
      rwa [hd]

/-- An escape is three characters longer than what it stands for. -/
theorem length_visible (t : Text) :
    (visible t).length = t.length + 3 * t.countP CodePoint.isControl := by
  induction t with
  | nil => rfl
  | cons c t ih =>
      rw [visible_cons, List.length_append, ih, List.length_cons]
      cases hcontrol : c.isControl with
      | true =>
          rw [(visiblePoint_of_isControl hcontrol).1, List.countP_cons_of_pos hcontrol]
          omega
      | false =>
          rw [visiblePoint_of_clear hcontrol, List.length_singleton,
            List.countP_cons_of_neg (by rw [hcontrol]; exact Bool.false_ne_true)]
          omega

theorem visible_eq_self (h : t.IsClear) : visible t = t := by
  induction t with
  | nil => rfl
  | cons c t ih =>
      obtain ⟨hc, ht⟩ := List.forall_mem_cons.mp h
      rw [visible_cons, visiblePoint_of_clear hc, ih ht, List.singleton_append]

/-! ## Lines of a report -/

theorem isClear_name (code : Diagnostic.Code) : IsClear code.name := by
  cases code <;> decide

theorem isClear_severity (s : Diagnostic.Severity) : IsClear (severity false s) := by
  cases s <;> decide

theorem isClear_spanLines (span : Span) (source : Option Text) :
    ∀ line ∈ spanLines span source, line ≠ [] ∧ IsClear line := by
  intro line hline
  rcases List.mem_cons.mp hline with rfl | hline
  · exact ⟨by simp [Text.ofString], .append (by decide) (Text.isClear_ofNat _)⟩
  · cases source with
    | none => cases hline
    | some source =>
        simp only [List.mem_cons, List.not_mem_nil, or_false] at hline
        rcases hline with rfl | rfl
        · exact ⟨by simp [Text.ofString], .append (by decide) (isClear_visible source)⟩
        · refine ⟨by simp [Text.ofString], .append (.append (by decide) ?_) ?_⟩
          · exact fun c hc => by rw [List.eq_of_mem_replicate hc]; rfl
          · exact fun c hc => by rw [List.eq_of_mem_replicate hc]; rfl

theorem isClear_hintLines (hint : Option Text) :
    ∀ line ∈ hintLines hint, line ≠ [] ∧ IsClear line := by
  intro line hline
  match hint with
  | none | some [] => cases hline
  | some (c :: t) =>
      obtain rfl := List.mem_singleton.mp hline
      exact ⟨by simp [Text.ofString], .append (by decide) (isClear_visible _)⟩

/-- Color is in the first line alone. -/
theorem isClear_tail (color : Bool) (d : Diagnostic) :
    ∀ line ∈ (lines color d).tail, line ≠ [] ∧ IsClear line := by
  intro line h
  rw [lines, List.cons_append, List.tail_cons, List.mem_append] at h
  rcases h with h | h
  · cases hspan : d.span with
    | none =>
        rw [hspan] at h
        cases h
    | some span =>
        rw [hspan] at h
        exact isClear_spanLines span d.source line h
  · exact isClear_hintLines d.hint line h

theorem isClear_lines (d : Diagnostic) : ∀ line ∈ lines false d, IsClear line := by
  intro line hline
  rcases List.mem_cons.mp hline with rfl | hline
  · exact .append (.append (.append (.append (isClear_severity _) (by decide))
      (isClear_name _)) (by decide)) (isClear_visible _)
  · exact (isClear_tail false d line hline).2

theorem isClear_oneLine (d : Diagnostic) : IsClear (oneLine d) :=
  .append (.append (isClear_name _) (by decide)) (isClear_visible _)

theorem lineFeed_notMem_severity (color : Bool) (s : Diagnostic.Severity) :
    lineFeed ∉ severity color s := by
  cases color <;> cases s <;> decide

theorem isLine_lines (color : Bool) (d : Diagnostic) : ∀ line ∈ lines color d, IsLine line := by
  intro line hline
  rcases List.mem_cons.mp hline with rfl | hline
  · have hbracket : IsClear (Text.ofString "[") := by decide
    have hcolon : IsClear (Text.ofString "]: ") := by decide
    refine ⟨by simp [Text.ofString], ?_⟩
    exact (isClear_visible _).notMem_append rfl <| hcolon.notMem_append rfl <|
      (isClear_name _).notMem_append rfl <| hbracket.notMem_append rfl <|
        lineFeed_notMem_severity color d.severity
  · obtain ⟨hne, hclear⟩ := isClear_tail color d line hline
    exact ⟨hne, hclear.notMem rfl⟩

/-! ## JSON -/

section

variable (hc : c.isControl = true)
include hc

theorem mem_jsonMember {name : String} (hname : delete ∉ Text.ofString name) (value : Text) :
    c ∈ jsonMember name value ↔ c ∈ value := by
  have hliteral : IsClear (Text.ofString ": ") := by decide
  rw [jsonMember, List.mem_append, List.mem_append, Text.mem_json_iff hc,
    or_iff_right (not_or.mpr ⟨fun h => hname h.2, hliteral.notMem hc⟩)]

/-- The members that every report has quote the message. -/
theorem mem_fixedMembers_iff (d : Diagnostic) :
    (∃ m ∈ [jsonMember "code" d.code.name.json,
        jsonMember "code_value" (Text.ofNat d.code.number),
        jsonMember "message" d.message.json, jsonMember "severity" d.severity.text.json], c ∈ m) ↔
      c = delete ∧ delete ∈ d.message := by
  have hname : c ∉ d.code.name.json := by
    rw [Text.mem_json_iff hc]
    exact fun h => (isClear_name _).notMem rfl h.2
  have hseverity : c ∉ d.severity.text.json := by
    rw [Text.mem_json_iff hc]
    exact fun h => (isClear_severity _).notMem rfl h.2
  simp only [List.mem_cons, List.not_mem_nil, or_false, exists_eq_or_imp, exists_eq_left]
  rw [mem_jsonMember hc (by decide), mem_jsonMember hc (by decide), mem_jsonMember hc (by decide),
    mem_jsonMember hc (by decide), or_iff_right hname,
    or_iff_right ((Text.isClear_ofNat _).notMem hc), or_iff_left hseverity, Text.mem_json_iff hc]

theorem mem_jsonObject_iff (d : Diagnostic) :
    c ∈ jsonObject d ↔ c = delete ∧
      (delete ∈ d.message ∨ delete ∈ d.source.getD [] ∨ delete ∈ d.hint.getD []) := by
  have hnot (t : Text) (h : t.IsClear) : c ∉ t := h.notMem hc
  have hopener : c ≠ CodePoint.ofChar '\x7b' := by
    rintro rfl
    cases hc
  have hcloser : c ≠ CodePoint.ofChar '\x7d' := by
    rintro rfl
    cases hc
  rw [jsonObject, Text.bracketed, List.mem_append, List.mem_cons, List.mem_singleton,
    or_iff_left hcloser, or_iff_right hopener, Text.mem_join (hnot _ (by decide))]
  simp only [jsonMembers, List.mem_append, or_and_right, exists_or]
  refine Iff.trans (or_congr (or_congr (or_congr (mem_fixedMembers_iff hc d)
    (?span : _ ↔ False)) (?source : _ ↔ c = delete ∧ delete ∈ d.source.getD []))
    (?hint : _ ↔ c = delete ∧ delete ∈ d.hint.getD [])) ?_
  case span =>
    cases d.span with
    | none => simp
    | some span =>
        simp only [List.mem_cons, List.not_mem_nil, or_false, exists_eq_or_imp, exists_eq_left]
        rw [mem_jsonMember hc (by decide), mem_jsonMember hc (by decide), iff_false, not_or]
        exact ⟨hnot _ (Text.isClear_ofNat _), hnot _ (Text.isClear_ofNat _)⟩
  case source =>
    cases d.source with
    | none => simp
    | some source =>
        simp only [List.mem_singleton, exists_eq_left, Option.getD_some]
        rw [mem_jsonMember hc (by decide), Text.mem_json_iff hc]
  case hint =>
    match d.hint with
    | none | some [] => simp
    | some (first :: rest) =>
        simp only [List.mem_singleton, exists_eq_left, Option.getD_some]
        rw [mem_jsonMember hc (by decide), Text.mem_json_iff hc]
  rw [or_false, ← and_or_left, ← and_or_left, or_assoc]

end

end Report

namespace Diagnostic

theorem splitOn_report (color : Bool) (d : Diagnostic) :
    List.splitOn lineFeed (d.report .rust color) = Report.lines color d :=
  Text.splitOn_join (List.cons_ne_nil _ _) (Report.isLine_lines color d)

/-- A report without color and with carets has the line feeds that take it apart
into its own lines, and no other control characters; one of one line has none. A
JSON report has at most the delete character, and has none exactly if neither the
message nor the source nor the hint has it. -/
theorem isClear_report (d : Diagnostic) :
    (List.splitOn lineFeed (d.report .rust false) = Report.lines false d ∧
      ∀ line ∈ Report.lines false d, IsClear line) ∧
    IsClear (d.report .simple false) ∧
    (∀ c ∈ d.report .json false, c.isControl = true → c = delete) ∧
    (IsClear (d.report .json false) ↔
      delete ∉ d.message ∧ delete ∉ d.source.getD [] ∧ delete ∉ d.hint.getD []) := by
  have hjson {c : CodePoint} (hc : c.isControl = true) := Report.mem_jsonObject_iff hc d
  refine ⟨⟨splitOn_report false d, Report.isClear_lines d⟩, Report.isClear_oneLine d,
    fun c hmem hc => ((hjson hc).mp hmem).1, ?_⟩
  rw [← not_or, ← not_or]
  constructor
  · intro hclear hdelete
    exact hclear.notMem rfl ((hjson rfl).mpr ⟨rfl, hdelete⟩)
  · intro hnone c hmem
    cases hc : c.isControl with
    | false => rfl
    | true => exact absurd ((hjson hc).mp hmem).2 hnone

/-- A message of two lines, a source with a tab and an escape sequence, and a
hint with the delete character. -/
def unprintable : Diagnostic where
  code := .malformedKey
  message := "a\n\nb"
  span := some ⟨1, 2, by omega⟩
  source := some "\t\x1b[0m"
  hint := some "c\x7f"
  severity := .warning

theorem isClear_report_unprintable :
    (∀ line ∈ List.splitOn lineFeed (unprintable.report .rust false), IsClear line) ∧
      (List.splitOn lineFeed (unprintable.report .rust false)).length = 5 ∧
      IsClear (unprintable.report .simple false) ∧
      ¬IsClear (unprintable.report .json false) ∧
      IsClear (Diagnostic.report .json false { unprintable with hint := none }) := by
  obtain ⟨⟨hsplit, hlines⟩, hsimple, -, hjson⟩ := isClear_report unprintable
  refine ⟨?_, ?_, hsimple, ?_, ?_⟩
  · rw [hsplit]
    exact hlines
  · rw [hsplit]
    rfl
  · rw [hjson]
    decide
  · exact (isClear_report { unprintable with hint := none }).2.2.2.mpr (by decide)

/-- The delete character of a message stands in a JSON report. -/
theorem not_isClear_jsonReport :
    ¬∀ d : Diagnostic, IsClear (d.report .json false) := by
  intro h
  exact absurd (h { code := .malformedKey, message := "a\x7fb" }) (by decide)

end Diagnostic

end KeyNaming
