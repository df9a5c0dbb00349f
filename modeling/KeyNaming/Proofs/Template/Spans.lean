import KeyNaming.Proofs.Template.Reading

/-!
Where the parts of a template stand in it, and their regular expressions.

Reading takes each part off the front of what is left, so a part starts where
those before it end, and offsets told from what is left are offsets into the
template. Assigning occurrences touches neither what is written nor where.
-/

namespace KeyNaming

namespace Template

/-- A text with each escaped angle bracket standing for itself. Other escapes
are kept. -/
def unescapeAngles : Text → Text
  | [] => []
  | [c] => [c]
  | c :: d :: rest =>
    if c == '\\' then
      if isAngle d then d :: unescapeAngles rest else c :: d :: unescapeAngles rest
    else c :: unescapeAngles (d :: rest)

theorem unescapeAngles_cons {c : CodePoint} (hc : c ≠ '\\') (t : Text) :
    unescapeAngles (c :: t) = c :: unescapeAngles t := by
  cases t with
  | nil => rfl
  | cons d rest => rw [unescapeAngles, if_neg (by simpa using hc)]

theorem unescapeAngles_written (a : Run Glyph.isRegex) : unescapeAngles a.written = a.source := by
  obtain ⟨glyphs, hglyphs⟩ := a
  rw [Run.written, Run.source]
  induction glyphs with
  | nil => rfl
  | cons g rest ih =>
      have hrest := ih fun g hg => hglyphs g (List.mem_cons_of_mem _ hg)
      have hg := hglyphs g List.mem_cons_self
      obtain ⟨escaped, point⟩ := g
      rw [List.flatMap_cons, List.flatMap_cons, ← hrest, Glyph.source]
      cases escaped with
      | true =>
          have hwritten : Glyph.written ⟨true, point⟩ = [CodePoint.ofChar '\\', point] := rfl
          rw [hwritten, List.cons_append, List.singleton_append, unescapeAngles,
            if_pos (beq_self_eq_true _)]
          split <;> rfl
      | false =>
          obtain ⟨hangle, hne⟩ : isAngle point = false ∧ point ≠ '\\' := by
            simpa [Glyph.isRegex] using hg
          have hwritten : Glyph.written ⟨false, point⟩ = [point] := rfl
          rw [hwritten, List.singleton_append, unescapeAngles_cons hne]
          simp [hangle]

end Template

variable {O : Type}

/-- Whether a part that starts at an offset has the span of what it writes
between angle brackets, brackets included, if it has a span. Its regular
expression is then the text between the brackets. -/
def Capture.IsSpanned (offset : Nat) (c : Capture O) : Prop :=
  ∀ span, c.regexSpan = some span → ∃ before between behind : Text,
    c.written = before ++ (('<' : CodePoint) :: between ++ ('>' : CodePoint) :: behind) ∧
    c.regex.source = Template.unescapeAngles between ∧
    span = .ofLength (offset + before.length) (between.length + 2)

/-- The offset at which the part at an index starts. -/
def startOf (parts : List (PartOf O)) (i : Nat) : Nat :=
  ((parts.take i).flatMap PartOf.written).length

theorem startOf_cons_succ (part : PartOf O) (rest : List (PartOf O)) (i : Nat) :
    startOf (part :: rest) (i + 1) = part.written.length + startOf rest i := by
  rw [startOf, List.take_succ_cons, List.flatMap_cons, List.length_append]
  rfl

/-- Whether the spans of parts are theirs if the first one starts at an offset. -/
def AreSpanned (offset : Nat) (parts : List (PartOf O)) : Prop :=
  ∀ (i : Nat) (c : Capture O), parts[i]? = some (.capture c) →
    c.IsSpanned (offset + startOf parts i)

theorem AreSpanned.nil (offset : Nat) : AreSpanned offset ([] : List (PartOf O)) :=
  fun _ _ hc => nomatch hc

theorem AreSpanned.cons {offset : Nat} {part : PartOf O} {rest : List (PartOf O)}
    (hpart : ∀ c, part = .capture c → c.IsSpanned offset)
    (hrest : AreSpanned (offset + part.written.length) rest) : AreSpanned offset (part :: rest) := by
  intro i c hc
  cases i with
  | zero => exact hpart c (Option.some.inj hc)
  | succ i =>
      rw [startOf_cons_succ, ← Nat.add_assoc]
      exact hrest i c hc

namespace Template

variable (total : Nat)

/-! ## Reading -/

/-- The span of a regular expression goes from its opening bracket to behind its
closing one. -/
theorem exists_of_readRegex {t left : Text} {regex : Regex} {span : Span}
    (h : readRegex total t = .ok (some (regex, span), left)) :
    ∃ a : Run Glyph.isRegex, t = ('<' : CodePoint) :: a.written ++ ('>' : CodePoint) :: left ∧
      regex.source = a.source ∧ span = .ofLength (offsetOf total t) (a.written.length + 2) := by
  rcases (readRegex_outcome total t).ok h with ⟨hnone, -⟩ | ⟨a, _, _, hsome, hsource, ht⟩
  · cases hnone
  · obtain ⟨rfl, rfl⟩ := Prod.mk.inj (Option.some.inj hsome)
    refine ⟨a, ht, hsource, ?_⟩
    have hlength : t.length - left.length = a.written.length + 2 := by
      rw [ht]
      simp only [List.length_append, List.length_cons]
      omega
    unfold readRegex at h
    split at h
    · cases h
    · split at h
      · cases h
      · dsimp only at h
        split at h
        · cases h
        · split at h
          · obtain ⟨hresult, rfl⟩ := Prod.mk.inj (Except.ok.inj h)
            obtain ⟨-, rfl⟩ := Prod.mk.inj (Option.some.inj hresult)
            rw [hlength]
          · cases h
          · cases h

theorem exists_of_orFault_readSeparator {closer : CodePoint} {beforeName : Bool} {t : Text}
    {result : Text × Text} (h : orFault (readSeparator total closer beforeName t) = .ok result) :
    ∃ skipped, t = skipped ++ result.2 := by
  have houtcome := Outcome.orFault (E := fun e => e.isGrammar = true)
    (readSeparator_outcome total closer beforeName t)
  obtain ⟨a, ha, -⟩ := houtcome.ok h
  exact ⟨a.written, ha⟩

/-- What is left where a regular expression begins starts as far behind the
start of the part as the part has text before. -/
theorem offsetOf_append {before rest : Text} (h : (before ++ rest).length ≤ total) :
    offsetOf total rest = offsetOf total (before ++ rest) + before.length := by
  rw [List.length_append] at h
  rw [offsetOf, offsetOf, List.length_append]
  omega

theorem isSpanned_of_readPart (r : Registry) {c closer : CodePoint} {rest left : Text}
    {e : Capture (Option Occurrence)} (htotal : (c :: rest).length ≤ total)
    (h : readPart total r (c :: rest) closer = .ok (.capture e, left)) :
    e.IsSpanned (offsetOf total (c :: rest)) := by
  obtain ⟨leading, afterLeading, occurrence, inline, afterRegex, trailing, last, hleading, -, -,
    hinline, htrailing, he⟩ := exists_of_readPart total r h
  obtain rfl := PartOf.capture.inj he
  intro span hspan
  obtain ⟨⟨regex, _⟩, rfl, rfl⟩ := Option.map_eq_some_iff.mp hspan
  obtain ⟨skipped, hskipped⟩ := exists_of_orFault_readSeparator total hleading
  obtain ⟨a, hregex, hsource, rfl⟩ := exists_of_readRegex total hinline
  obtain ⟨separator, hseparator⟩ := exists_of_orFault_readSeparator total htrailing
  dsimp only [List.tail_cons] at hskipped hseparator
  -- the part, cut open where its regular expression begins
  let before := c :: (skipped ++ afterLeading.takeWhile CodePoint.isAsciiWord)
  let written := before ++ (('<' : CodePoint) :: a.written ++
    ('>' : CodePoint) :: (separator ++ [last]))
  have hbefore : c :: rest = before ++ afterLeading.dropWhile CodePoint.isAsciiWord := by
    simp [before, hskipped, List.takeWhile_append_dropWhile]
  have hwritten : c :: rest = written ++ left := by
    rw [hbefore, hregex, hseparator]
    simp [written]
  refine ⟨before, a.written, separator ++ [last], ?_, ?_, ?_⟩
  · change List.take _ _ = written
    rw [hwritten, take_length_sub]
  · exact hsource.trans (unescapeAngles_written a).symm
  · rw [hbefore] at htotal
    rw [offsetOf_append total htotal, ← hbefore]

/-- A step of reading puts its part at the offset where the text begins, and
leaves the text behind the part. -/
theorem areSpanned_of_readDrafts (r : Registry) (fuel : Nat) {t : Text} {drafts : List Draft}
    (htotal : t.length ≤ total) (h : readDrafts total r fuel t = .ok drafts) :
    AreSpanned (offsetOf total t) drafts := by
  induction fuel generalizing t drafts with
  | zero => exact Except.ok.inj h ▸ .nil _
  | succ fuel ih =>
      cases t with
      | nil => exact Except.ok.inj h ▸ .nil _
      | cons c rest =>
          obtain ⟨draft, left, others, hdraft, hothers, rfl⟩ := exists_of_readDrafts_cons total r h
          obtain ⟨a, hwritten, hshape, -⟩ := (readDraft_outcome total r c rest).ok hdraft
          have hsame : draft.written = a.written := by
            rw [← PartOf.written_shape, hshape, Tree.written_shape]
          dsimp only at hwritten
          refine .cons ?_ ?_
          · rintro e rfl
            obtain ⟨closer, hpart⟩ := exists_readPart_of_readDraft total r hdraft
            exact isSpanned_of_readPart total r htotal hpart
          · rw [hwritten] at htotal ⊢
            rw [hsame, ← offsetOf_append total htotal]
            rw [List.length_append] at htotal
            exact ih ((Nat.le_add_left _ _).trans htotal) hothers

end Template

/-! ## Assigned parts -/

/-- What assigning occurrences leaves of a part as it is. -/
def Capture.unassigned (c : Capture O) : Capture Unit :=
  { c with identifier := [], occurrence := () }

@[inherit_doc Capture.unassigned]
def PartOf.unassigned : PartOf O → PartOf Unit
  | .literal written text => .literal written text
  | .capture c => .capture c.unassigned

@[simp] theorem PartOf.written_unassigned (part : PartOf O) :
    part.unassigned.written = part.written := by
  cases part <;> rfl

@[simp] theorem PartOf.isSome_capture?_unassigned (part : PartOf O) :
    part.unassigned.capture?.isSome = part.capture?.isSome := by
  cases part <;> rfl

theorem startOf_map_unassigned (parts : List (PartOf O)) (i : Nat) :
    startOf (parts.map PartOf.unassigned) i = startOf parts i := by
  rw [startOf, startOf, ← List.map_take, List.flatMap_map]
  simp only [PartOf.written_unassigned]

theorem areSpanned_map_unassigned (offset : Nat) (parts : List (PartOf O)) :
    AreSpanned offset (parts.map PartOf.unassigned) ↔ AreSpanned offset parts := by
  constructor
  · intro h i c hc
    have hspanned := h i c.unassigned (by rw [List.getElem?_map, hc]; rfl)
    rwa [startOf_map_unassigned] at hspanned
  · intro h i c hc
    rw [List.getElem?_map] at hc
    obtain ⟨part, hpart, hunassigned⟩ := Option.map_eq_some_iff.mp hc
    cases part with
    | literal written text => cases hunassigned
    | capture d =>
        obtain rfl := PartOf.capture.inj hunassigned
        rw [startOf_map_unassigned]
        exact h i d hpart

namespace Template

theorem map_unassigned_assignFrom (bare : List Text) (taken : List (Text × Nat))
    (drafts : List Draft) :
    (assignFrom bare taken drafts).map PartOf.unassigned = drafts.map PartOf.unassigned := by
  induction drafts generalizing taken with
  | nil => rfl
  | cons draft rest ih =>
      cases draft with
      | literal written text => exact congrArg _ (ih taken)
      | capture c =>
          rw [assignFrom]
          split
          · exact congrArg _ (ih taken)
          · split
            · exact congrArg _ (ih taken)
            · exact congrArg _ (ih _)

end Template

end KeyNaming
