import KeyNaming.Proofs.Pattern.Prefilled
import KeyNaming.Proofs.Template.Reading

/-!
Fixed names.

Any text can be made a template by writing a backslash before each character
that a template would not take as it stands. Reading takes the backslashes off
again, and the expression of the pattern takes nothing but the text: what stands
for something else in a template, and what does in an expression, is escaped on
the way in and read as itself.
-/

namespace KeyNaming

namespace Template

/-- The characters that stand for something else in literal text. -/
def isMeta (c : CodePoint) : Bool := isBracket c || c == '\\'

/-- The template that stands for a fixed text. -/
def verbatim (s : Text) : Text := s.flatMap fun c => if isMeta c then ['\\', c] else [c]

theorem isEscapable_of_isMeta {c : CodePoint} (h : isMeta c = true) : isEscapable c = true := by
  simp only [isMeta, isBracket, Bool.or_eq_true, beq_iff_eq] at h
  rcases h with (((rfl | rfl) | rfl) | rfl) | rfl <;> decide

/-- A fixed text as a run of glyphs. -/
def verbatimRun (s : Text) : Run Glyph.isLiteral where
  val := s.map fun c => ⟨isMeta c, c⟩
  property := by
    intro g hg
    obtain ⟨c, _, rfl⟩ := List.mem_map.mp hg
    cases hmeta : isMeta c with
    | true => exact isEscapable_of_isMeta hmeta
    | false => simpa [Glyph.isLiteral, isMeta] using hmeta

theorem written_verbatimRun (s : Text) : (verbatimRun s).written = verbatim s := by
  simp [verbatimRun, Run.written, verbatim, List.flatMap_map, Glyph.written]

theorem text_verbatimRun (s : Text) : (verbatimRun s).text = s := by
  simp [verbatimRun, Run.text, Function.comp_def]

/-- A fixed text is read as one literal, or as nothing if it is empty. -/
theorem read_verbatim (r : Registry) (s : Text) :
    Template.read r (verbatim s) =
      .ok (if s = [] then [] else [.literal (verbatim s) s]) := by
  cases s with
  | nil => rfl
  | cons c rest =>
      have hends : EndsLiteral [] := fun d hd => nomatch hd
      have hdraft (total : Nat) : readDraft total r (verbatim (c :: rest)) =
          .ok (.literal (verbatim (c :: rest)) (c :: rest), []) := by
        have hliteral := readDraft_literal total r (verbatimRun (c :: rest))
          (List.cons_ne_nil _ _) [] hends
        rw [List.append_nil, written_verbatimRun, text_verbatimRun] at hliteral
        exact hliteral
      have hnil (total fuel : Nat) : readDrafts total r fuel [] = .ok [] := by
        cases fuel <;> rfl
      rw [Template.read]
      cases hverbatim : verbatim (c :: rest) with
      | nil =>
          rw [hverbatim] at hdraft
          cases hdraft 0
      | cons d left =>
          rw [hverbatim] at hdraft
          rw [List.length_cons, readDrafts_cons, hdraft]
          simp [bind, Except.bind, pure, Except.pure, hnil]

end Template

namespace Pattern

/-- A pattern that captures nothing builds one name, and its expression matches
that name and nothing else. -/
theorem exists_name_of_captures_eq_nil {r : Registry} {template : Text} {p : Pattern}
    (hp : Pattern.compile r template = .ok p) (hnone : p.captures = []) :
    ∃ name, nameOf p.parts [] = some name ∧ ∀ t, p.regex.matches? t = true ↔ t = name := by
  have hvacuous {P : Capture Occurrence → Prop} : ∀ c ∈ p.captures, P c := by simp [hnone]
  obtain ⟨regex, nodes, hregex, hbecomes, hflags, hnode⟩ := exists_expression hp [] hvacuous
  obtain rfl : p.regex = regex := Except.ok.inj hregex
  rw [flatten_of_known hbecomes hvacuous] at hnode
  refine ⟨_, ?_, Regex.matches?_literals hflags hnode⟩
  have hname := @nameOf_of_known [] p.parts hvacuous
  rw [show captureParts p.parts = [] from hnone] at hname
  exact hname

/-- A template that captures nothing always makes a pattern: no identifier is
there twice, and nothing but escaped text stands in the expression. -/
theorem exists_compile_of_captureParts_eq_nil {r : Registry} {template : Text}
    {drafts : List Draft} (hread : Template.read r template = .ok drafts)
    (hnone : captureParts (Template.assign drafts) = []) :
    ∃ p, Pattern.compile r template = .ok p ∧ p.parts = Template.assign drafts := by
  have hcheck : Template.checkIdentifiers [] 0 (Template.assign drafts) = .ok () :=
    Template.checkIdentifiers_eq_ok_iff.mpr (by simp [hnone])
  have hvacuous {P : Capture Occurrence → Prop} :
      ∀ c, PartOf.capture c ∈ Template.assign drafts → P c := by
    intro c hc
    rw [← mem_captureParts, hnone] at hc
    cases hc
  obtain ⟨form, _, hform, _⟩ :=
    @exists_read_regexSource [] (Template.assign drafts) hvacuous hvacuous (by simp [hnone])
  exact ⟨_, compile_of_read hread hcheck (Regex.compile_of_read hform), rfl⟩

/-- Any fixed name can be written as a template. The pattern has no part if the name is
empty and else is one literal. It builds the name from no values, and its expression
matches the name and nothing else. -/
theorem compile_verbatim (r : Registry) (s : Text) :
    ∃ p, Pattern.compile r (Template.verbatim s) = .ok p ∧
      p.parts = (if s = [] then [] else [.literal (Template.verbatim s) s]) ∧
      p.build [] = some s ∧ p.buildFrom [] = some s ∧
      ∀ t, p.regex.matches? t = true ↔ t = s := by
  have hassign : Template.assign (if s = [] then [] else [.literal (Template.verbatim s) s]) =
      if s = [] then [] else [.literal (Template.verbatim s) s] := by
    split <;> rfl
  obtain ⟨p, hp, hparts⟩ := exists_compile_of_captureParts_eq_nil (Template.read_verbatim r s)
    (by rw [hassign]; split <;> rfl)
  rw [hassign] at hparts
  have hnone : p.captures = [] := by
    rw [captures, hparts]
    split <;> rfl
  have hbuild : nameOf p.parts [] = some s := by
    rw [hparts]
    split
    · next hempty => rw [hempty, nameOf]
    · simp [nameOf]
  obtain ⟨name, hname, hmatches⟩ := exists_name_of_captures_eq_nil hp hnone
  obtain rfl := Option.some.inj (hbuild.symm.trans hname)
  refine ⟨p, hp, hparts, ?_, ?_, hmatches⟩
  · simpa [build, hnone] using hbuild
  · simpa [buildFrom, identifiers, hnone] using hbuild

end Pattern

end KeyNaming
