import KeyNaming.Text.Basic

/-!
Texts of several lines.

Lines are joined with a line feed between each two, and a blank line is two line
feeds in a row. If no line is empty and none holds a line feed, then lines are
found again at the line feeds, and texts of such lines, joined with blank lines,
are found again between the blank lines.
-/

namespace KeyNaming

def CodePoint.lineFeed : CodePoint := '\n'

namespace Text

open CodePoint (lineFeed)

theorem join_cons_cons (separator first second : Text) (rest : List Text) :
    join separator (first :: second :: rest) =
      first ++ (separator ++ join separator (second :: rest)) := by
  rw [join, join, List.intercalate_cons_cons, List.append_assoc]

theorem join_cons_point (separator : Text) (c : CodePoint) (first : Text) (rest : List Text) :
    join separator ((c :: first) :: rest) = c :: join separator (first :: rest) := by
  cases rest with
  | nil => rw [join, join, List.intercalate_singleton, List.intercalate_singleton]
  | cons second rest => rw [join_cons_cons, join_cons_cons, List.cons_append]

theorem mem_join {separator : Text} {c : CodePoint} (hc : c ∉ separator) (parts : List Text) :
    c ∈ join separator parts ↔ ∃ part ∈ parts, c ∈ part := by
  induction parts with
  | nil => simp [join]
  | cons first rest ih =>
      cases rest with
      | nil => simp [join]
      | cons second rest =>
          rw [join_cons_cons, List.mem_append, List.mem_append, or_iff_right hc, ih]
          simp only [List.mem_cons, exists_eq_or_imp]

/-- Whether a text is a single line and has something in it. -/
structure IsLine (t : Text) : Prop where
  nonempty : t ≠ []
  single : lineFeed ∉ t

theorem IsLine.exists_cons {t : Text} (h : t.IsLine) :
    ∃ c rest, c ≠ lineFeed ∧ t = c :: rest := by
  obtain ⟨c, rest, rfl⟩ := List.exists_cons_of_ne_nil h.nonempty
  exact ⟨c, rest, fun hc => h.single (hc ▸ List.mem_cons_self), rfl⟩

theorem splitOn_join {lines : List Text} (hne : lines ≠ []) (h : ∀ l ∈ lines, IsLine l) :
    List.splitOn lineFeed (join "\n" lines) = lines :=
  List.splitOn_intercalate lineFeed (fun l hl => (h l hl).single) hne

/-- The pieces of a text between blank lines. Of three line feeds in a row the
first two are the blank line. -/
def paragraphs : Text → List Text
  | [] => [[]]
  | [c] => [[c]]
  | c :: d :: rest =>
    if c = lineFeed ∧ d = lineFeed then [] :: paragraphs rest
    else (paragraphs (d :: rest)).modifyHead (c :: ·)

theorem paragraphs_blankLine (t : Text) :
    paragraphs (lineFeed :: lineFeed :: t) = [] :: paragraphs t := by
  rw [paragraphs, if_pos ⟨rfl, rfl⟩]

theorem paragraphs_cons {c : CodePoint} (hc : c ≠ lineFeed) (t : Text) :
    paragraphs (c :: t) = (paragraphs t).modifyHead (c :: ·) := by
  cases t with
  | nil => rfl
  | cons d rest => rw [paragraphs, if_neg fun h => hc h.1]

/-- A single line feed stays in a piece. -/
theorem paragraphs_lineFeed_cons {c : CodePoint} (hc : c ≠ lineFeed) (t : Text) :
    paragraphs (lineFeed :: c :: t) = (paragraphs (c :: t)).modifyHead (lineFeed :: ·) := by
  rw [paragraphs, if_neg fun h => hc h.2]

/-- A blank line begins behind a line or later. -/
theorem paragraphs_append_of_notMem {l : Text} (h : lineFeed ∉ l) (t : Text) :
    paragraphs (l ++ t) = (paragraphs t).modifyHead (l ++ ·) := by
  induction l with
  | nil => exact (congrFun List.modifyHead_id _).symm
  | cons c l ih =>
      obtain ⟨hc, hl⟩ := not_or.mp (mt List.mem_cons.mpr h)
      rw [List.cons_append, paragraphs_cons (Ne.symm hc), ih hl, List.modifyHead_modifyHead]
      rfl

/-- Lines that are not empty hold no blank line, and none begins at their end. -/
theorem paragraphs_join_append {lines : List Text} (h : ∀ l ∈ lines, IsLine l) (t : Text) :
    paragraphs (join "\n" lines ++ t) = (paragraphs t).modifyHead (join "\n" lines ++ ·) := by
  induction lines with
  | nil => exact (congrFun List.modifyHead_id _).symm
  | cons first rest ih =>
      obtain ⟨hfirst, hrest⟩ := List.forall_mem_cons.mp h
      cases rest with
      | nil =>
          rw [join, List.intercalate_singleton]
          exact paragraphs_append_of_notMem hfirst.single t
      | cons second rest =>
          -- the next line begins with something else, so a single line feed stands before it
          obtain ⟨c, line, hc, rfl⟩ := (hrest second List.mem_cons_self).exists_cons
          have hjoin : join "\n" (first :: (c :: line) :: rest) =
              first ++ lineFeed :: join "\n" ((c :: line) :: rest) :=
            join_cons_cons "\n" _ _ _
          have hstep : paragraphs (lineFeed :: (join "\n" ((c :: line) :: rest) ++ t)) =
              (paragraphs (join "\n" ((c :: line) :: rest) ++ t)).modifyHead (lineFeed :: ·) := by
            rw [join_cons_point]
            exact paragraphs_lineFeed_cons hc _
          rw [hjoin, List.append_assoc, paragraphs_append_of_notMem hfirst.single,
            List.cons_append, hstep, ih hrest, List.modifyHead_modifyHead,
            List.modifyHead_modifyHead]
          congr 1
          funext piece
          simp

/-- Texts that are joined with blank lines are found again, if they are made of lines
that are not empty. -/
theorem paragraphs_join {blocks : List (List Text)} (hne : blocks ≠ [])
    (h : ∀ lines ∈ blocks, ∀ l ∈ lines, IsLine l) :
    paragraphs (join "\n\n" (blocks.map (join "\n"))) = blocks.map (join "\n") := by
  induction blocks with
  | nil => exact absurd rfl hne
  | cons first rest ih =>
      obtain ⟨hfirst, hrest⟩ := List.forall_mem_cons.mp h
      cases rest with
      | nil =>
          have hend := paragraphs_join_append hfirst []
          rw [List.append_nil] at hend
          rw [List.map_singleton, join, List.intercalate_singleton, hend]
          exact congrArg (fun t => [t]) (List.append_nil _)
      | cons second rest =>
          have hjoin : join "\n\n" ((first :: second :: rest).map (join "\n")) =
              join "\n" first ++ lineFeed :: lineFeed ::
                join "\n\n" ((second :: rest).map (join "\n")) :=
            join_cons_cons "\n\n" _ _ _
          rw [hjoin, paragraphs_join_append hfirst, paragraphs_blankLine,
            ih (List.cons_ne_nil _ _) hrest, List.modifyHead_cons, List.append_nil]
          rfl

example : paragraphs "a\nb\n\nc" = ([("a\nb" : Text), "c"] : List Text) := by decide

end Text

end KeyNaming
