import KeyNaming.Proofs.Diagnostic.Visible

/-!
Reports of several diagnostics.

A report is made of lines that are not empty, in every style and with or without
color: no text of a diagnostic writes a line feed, and each line begins with a
mark of its own. So no report holds a blank line, and the reports of several
diagnostics are told apart by the blank lines between them.
-/

namespace KeyNaming

open Text (IsLine)
open CodePoint (lineFeed)

namespace Diagnostic

/-- The lines of a report in any style. -/
def reportLines (style : ReportStyle) (color : Bool) (d : Diagnostic) : List Text :=
  match style with
  | .rust => Report.lines color d
  | .simple => [Report.oneLine d]
  | .json => [Report.jsonObject d]

theorem join_reportLines (style : ReportStyle) (color : Bool) (d : Diagnostic) :
    Text.join "\n" (reportLines style color d) = d.report style color := by
  cases style with
  | rust => rfl
  | simple => exact List.intercalate_singleton
  | json => exact List.intercalate_singleton

theorem isLine_reportLines (style : ReportStyle) (color : Bool) (d : Diagnostic) :
    ∀ line ∈ reportLines style color d, IsLine line := by
  cases style with
  | rust => exact Report.isLine_lines color d
  | simple =>
      refine List.forall_mem_singleton.mpr ⟨?_, (Report.isClear_oneLine d).notMem rfl⟩
      simp [Report.oneLine, Text.ofString]
  | json =>
      refine List.forall_mem_singleton.mpr ⟨?_, fun hmem => ?_⟩
      · simp [Report.jsonObject, Text.bracketed]
      · have hdelete := ((Report.mem_jsonObject_iff rfl d).mp hmem).1
        cases hdelete

/-- A report with carets has a line for its head, one for the column of a span,
two for the source under a span, and one for a hint. -/
theorem length_lines (color : Bool) (d : Diagnostic) :
    (Report.lines color d).length =
      1 + (if d.span.isSome then 1 else 0) + (if d.span.isSome ∧ d.source.isSome then 2 else 0) +
        (if d.hint.getD [] ≠ [] then 1 else 0) := by
  have hhint : (Report.hintLines d.hint).length = if d.hint.getD [] ≠ [] then 1 else 0 := by
    match d.hint with
    | none | some [] => rfl
    | some (c :: t) => rfl
  rw [Report.lines, List.length_append, hhint]
  congr 1
  cases d.span with
  | none => rfl
  | some span =>
      cases d.source with
      | none => rfl
      | some source => rfl

/-- Reports of several diagnostics, joined by blank lines, are found again by
splitting at the blank lines, in every style and with or without color. A report
with carets has the lines that its parts ask for, and no more. -/
theorem paragraphs_reportAll (style : ReportStyle) (color : Bool) :
    (∀ ds : List Diagnostic, ds ≠ [] →
      Text.paragraphs (reportAll style color ds) = ds.map (report style color)) ∧
    ∀ d : Diagnostic, (List.splitOn lineFeed (d.report .rust color)).length =
      1 + (if d.span.isSome then 1 else 0) + (if d.span.isSome ∧ d.source.isSome then 2 else 0) +
        (if d.hint.getD [] ≠ [] then 1 else 0) := by
  constructor
  · intro ds hne
    have hreports : ds.map (report style color) =
        (ds.map (reportLines style color)).map (Text.join "\n") := by
      rw [List.map_map]
      exact List.map_congr_left fun d _ => (join_reportLines style color d).symm
    rw [reportAll, hreports]
    apply Text.paragraphs_join
    · simpa using hne
    · intro lines hlines
      obtain ⟨d, -, rfl⟩ := List.mem_map.mp hlines
      exact isLine_reportLines style color d
  · intro d
    rw [splitOn_report, length_lines]

/-- A message that writes a blank line, one that is empty, and a hint that
writes a report. -/
def forgers : List Diagnostic :=
  [unprintable, { code := .noMatch, message := [], hint := some [] },
    { code := .unknownCulture, message := "\n", source := some "\n\n",
      hint := some "a\n\nerror[KEY_MALFORMED]: b" }]

theorem paragraphs_reportAll_forgers :
    forgers ≠ [] ∧
      Text.paragraphs (reportAll .rust true forgers) = forgers.map (report .rust true) ∧
      Text.paragraphs (reportAll .json false forgers) = forgers.map (report .json false) ∧
      (List.splitOn lineFeed (unprintable.report .rust true)).length = 5 := by
  have hne : forgers ≠ [] := List.cons_ne_nil _ _
  exact ⟨hne, (paragraphs_reportAll .rust true).1 forgers hne,
    (paragraphs_reportAll .json false).1 forgers hne,
    (paragraphs_reportAll .rust true).2 unprintable⟩

end Diagnostic

end KeyNaming
