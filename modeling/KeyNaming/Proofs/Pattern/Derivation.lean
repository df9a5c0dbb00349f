import KeyNaming.Proofs.Template.Drafts
import KeyNaming.Proofs.Template.Reading

/-!
Compiling refuses exactly the templates that the grammar does not have, and
gives every other one the parts of its derivation.

Both hold where reading comes to the end of the template or refuses it. An
inline regular expression that does not compile stops it, and so does an
occurrence with more digits than a number may have. The latter is raised as
it is, also where the template is refused if it is read on.
-/

namespace KeyNaming

/-- A shape with a number for its occurrence in the identifier. -/
def Shape.numbered (n : Nat) : Shape → Shape
  | .literal written text => .literal written text
  | .part written leading identifier parameter regex trailing required =>
    .part written leading (Template.numbered identifier n) parameter regex trailing required

namespace Template

theorem read_outcome (r : Registry) (t : Text) :
    Outcome (Error.IsReading t)
      (fun drafts => ∃ d, IsDerivation d t ∧ drafts.map PartOf.shape = d.map (Tree.shape r))
      (Template.read r t) :=
  readDrafts_outcome t.length r t.length t (Nat.le_refl _)

theorem IsDerivation.read {d : List Tree} {t : Text} (r : Registry) (h : IsDerivation d t) :
    Outcome (fun e => e.isGrammar = false)
      (fun drafts => drafts.map PartOf.shape = d.map (Tree.shape r)) (Template.read r t) := by
  have hrun := readDrafts_run t.length r t.length h (Nat.le_refl _)
  cases hread : Template.read r t with
  | error e => exact hrun.error hread
  | ok drafts =>
      obtain ⟨d', hd', hshapes⟩ := (read_outcome r t).ok hread
      rw [h.unique hd']
      exact hshapes

/-- Whether reading a template ends with its end or with a fault of the grammar:
no inline regular expression stops it, and no occurrence has too many digits. -/
structure IsUnstopped (r : Registry) (t : Text) : Prop where
  regex : ∀ e, Template.read r t ≠ .error (.regex e)
  valid : ∀ span reason, Template.read r t ≠ .error (.fault (.invalidRegex span reason))
  number : ∀ digits, Template.read r t ≠ .error (.occurrenceTooLong digits)

theorem IsUnstopped.isGrammar {r : Registry} {t : Text} (h : IsUnstopped r t) {e : Error}
    (hread : Template.read r t = .error e) : e.isGrammar = true := by
  have hreading := (read_outcome r t).error hread
  cases e with
  | regex e => exact absurd hread (h.regex e)
  | occurrenceTooLong digits => exact absurd hread (h.number digits)
  | fault f =>
      cases f with
      | invalidRegex span reason => exact absurd hread (h.valid span reason)
      | duplicateIdentifier span identifier => cases hreading
      | _ => rfl

theorem isUnstopped_iff {r : Registry} {t : Text} :
    IsUnstopped r t ↔ ∀ e, Template.read r t = .error e → e.isGrammar = true := by
  refine ⟨fun h e => h.isGrammar, fun h => ⟨?_, ?_, ?_⟩⟩
  · exact fun e hread => nomatch h _ hread
  · exact fun span reason hread => nomatch h _ hread
  · exact fun digits hread => nomatch h _ hread

instance (r : Registry) (t : Text) : Decidable (IsUnstopped r t) :=
  match h : Template.read r t with
  | .ok _ => .isTrue (isUnstopped_iff.mpr fun e he => nomatch h.symm.trans he)
  | .error e =>
    decidable_of_iff (e.isGrammar = true) (by
      rw [isUnstopped_iff, h]
      exact ⟨fun he e' heq => Except.error.inj heq ▸ he, fun hall => hall e rfl⟩)

/-- Assigning occurrences changes no more than the numbers in identifiers. -/
theorem forall₂_assignFrom (bare : List Text) (taken : List (Text × Nat)) (drafts : List Draft) :
    List.Forall₂ (fun (part : Part) shape => ∃ n, part.shape = Shape.numbered n shape)
      (assignFrom bare taken drafts) (drafts.map PartOf.shape) := by
  induction drafts generalizing taken with
  | nil => exact .nil
  | cons draft rest ih =>
      cases draft with
      | literal written text => exact .cons ⟨0, rfl⟩ (ih taken)
      | capture c =>
          rw [assignFrom]
          split
          · exact .cons ⟨0, rfl⟩ (ih taken)
          · split
            · exact .cons ⟨0, rfl⟩ (ih taken)
            · exact .cons ⟨_, rfl⟩ (ih _)

end Template

namespace Pattern

open Template

/-- Whether compiling a template is refused with one of the faults that the
grammar has. -/
def IsRefused (r : Registry) (t : Text) : Prop :=
  ∃ f : Fault, Pattern.compile r t = .error (.fault f) ∧
    1001 ≤ (f.diagnostic t).code.number ∧ (f.diagnostic t).code.number ≤ 1006

theorem isRefused_iff_isGrammar {r : Registry} {t : Text} :
    IsRefused r t ↔ ∃ e, Pattern.compile r t = .error e ∧ e.isGrammar = true := by
  constructor
  · rintro ⟨f, hcompile, hcode⟩
    exact ⟨.fault f, hcompile, (f.isGrammar_iff t).mpr hcode⟩
  · rintro ⟨e, hcompile, hgrammar⟩
    cases e with
    | fault f => exact ⟨f, hcompile, (f.isGrammar_iff t).mp hgrammar⟩
    | regex e => cases hgrammar
    | occurrenceTooLong digits => cases hgrammar

instance (r : Registry) (t : Text) : Decidable (IsRefused r t) :=
  match h : Pattern.compile r t with
  | .ok _ => .isFalse fun ⟨_, hf, _⟩ => nomatch h.symm.trans hf
  | .error e =>
    decidable_of_iff (e.isGrammar = true) (by
      rw [isRefused_iff_isGrammar, h]
      exact ⟨fun he => ⟨e, rfl, he⟩, fun ⟨e', heq, he⟩ => Except.error.inj heq ▸ he⟩)

theorem compile_error_of_read {r : Registry} {t : Text} {exhausts : Text → Bool}
    {e : Template.Error} (h : Template.read r t exhausts = .error e) :
    Pattern.compile r t exhausts = .error e := by
  simp [Pattern.compile, h, bind, Except.bind]

theorem checkIdentifiers_fault (seen : List Text) (offset : Nat) (parts : List Part) :
    Outcome (fun f => f.isGrammar = false) (fun _ => True)
      (checkIdentifiers seen offset parts) := by
  induction parts generalizing seen offset with
  | nil => trivial
  | cons part rest ih =>
      cases part with
      | literal written text => exact ih _ _
      | capture c =>
          rw [checkIdentifiers]
          split
          · rfl
          · exact ih _ _

/-- After reading no fault of the grammar is left to be found. -/
theorem compile_outcome_of_read {r : Registry} {t : Text} {drafts : List Draft}
    (h : Template.read r t = .ok drafts) :
    Outcome (fun e => e.isGrammar = false) (fun p => p.parts = assign drafts)
      (Pattern.compile r t) := by
  rw [Pattern.compile, h]
  refine (Outcome.orFault (checkIdentifiers_fault [] 0 (assign drafts))).bind ?_
  rintro ⟨⟩ -
  dsimp only
  split
  · rfl
  · rfl
  · rfl

theorem isRefused_iff {r : Registry} {t : Text} (hread : IsUnstopped r t) :
    IsRefused r t ↔ ¬ IsDerivable t := by
  cases hdrafts : Template.read r t with
  | ok drafts =>
      obtain ⟨d, hd, _⟩ := (read_outcome r t).ok hdrafts
      refine iff_of_false ?_ fun hderivable => hderivable ⟨d, hd.written⟩
      rintro ⟨f, hcompile, hcode⟩
      have hnot : f.isGrammar = false := (compile_outcome_of_read hdrafts).error hcompile
      rw [(f.isGrammar_iff t).mpr hcode] at hnot
      cases hnot
  | error e =>
      have hgrammar := hread.isGrammar hdrafts
      refine iff_of_true ?_ ?_
      · cases e with
        | fault f =>
            exact ⟨f, compile_error_of_read hdrafts, (f.isGrammar_iff t).mp hgrammar⟩
        | regex e => cases hgrammar
        | occurrenceTooLong digits => cases hgrammar
      · intro hderivable
        obtain ⟨d, hd⟩ := hderivable.exists_derivation
        rw [(hd.read r).error hdrafts] at hgrammar
        cases hgrammar

/-- Where reading is not stopped by a regular expression or by the digits of an
occurrence, a template is refused if and only if the grammar does not derive it. If it
does, there is one derivation, the template is read, and what it is read as, and
compiled to, are the parts of the derivation. Only identifiers are given numbers. -/
theorem compile_grammar {r : Registry} {t : Text} (hread : IsUnstopped r t) :
    (IsRefused r t ↔ ¬ IsDerivable t) ∧
      (IsDerivable t → ∃ d, IsDerivation d t ∧ (∀ d', IsDerivation d' t → d' = d) ∧
        (∃ drafts, Template.read r t = .ok drafts ∧
          drafts.map PartOf.shape = d.map (Tree.shape r)) ∧
        ∀ p, Pattern.compile r t = .ok p →
          List.Forall₂ (fun part shape => ∃ n, PartOf.shape part = Shape.numbered n shape)
            p.parts (d.map (Tree.shape r))) := by
  refine ⟨isRefused_iff hread, fun hderivable => ?_⟩
  obtain ⟨d, hd⟩ := hderivable.exists_derivation
  refine ⟨d, hd, fun d' hd' => hd'.unique hd, ?_⟩
  cases hdrafts : Template.read r t with
  | error e =>
      have hnot := (hd.read r).error hdrafts
      rw [hread.isGrammar hdrafts] at hnot
      cases hnot
  | ok drafts =>
      have hshapes := (hd.read r).ok hdrafts
      refine ⟨⟨drafts, rfl, hshapes⟩, fun p hp => ?_⟩
      rw [(compile_outcome_of_read hdrafts).ok hp, ← hshapes]
      exact forall₂_assignFrom _ _ drafts

/-- A template with a literal, an escape, an occurrence and a regular
expression, and the same without its end. -/
def sampleTemplate : Text := "a\\\x7b[Type:]\x7b.Key_1<b\\>+>-\x7d"

theorem compile_grammar_sampleTemplate :
    (∃ d, IsDerivation d sampleTemplate ∧
      ∃ drafts, Template.read defaultRegistry sampleTemplate = .ok drafts ∧
        drafts.map PartOf.shape = d.map (Tree.shape defaultRegistry)) ∧
      ¬ IsDerivable sampleTemplate.dropLast := by
  have hwhole := compile_grammar (r := defaultRegistry) (t := sampleTemplate) (by decide +kernel)
  have hcut := compile_grammar (r := defaultRegistry) (t := sampleTemplate.dropLast)
    (by decide +kernel)
  have hderivable : IsDerivable sampleTemplate := by
    by_contra hnot
    exact absurd (hwhole.1.mpr hnot) (by decide +kernel)
  obtain ⟨d, hd, _, hdrafts, _⟩ := hwhole.2 hderivable
  exact ⟨⟨d, hd, hdrafts⟩, hcut.1.mp (by decide +kernel)⟩

/-! ## Occurrences with too many digits -/

/-- A template that is cut off in an occurrence. -/
def cutTemplate (digits : Text) : Text := "\x7bKey_" ++ digits

theorem not_isDerivable_of_unclosed {required : Bool} {rest : Text}
    (h : closingBracket required ∉ rest) : ¬ IsDerivable (openingBracket required :: rest) := by
  rintro ⟨d, hwritten⟩
  cases d with
  | nil => cases hwritten
  | cons a d =>
      rw [List.flatMap_cons] at hwritten
      cases a with
      | literal a ha =>
          have hends : EndsLiteral (openingBracket required :: rest) := by
            intro c hc
            rw [← Option.some.inj hc]
            cases required <;> rfl
          exact Run.not_stops ha _ (hwritten ▸ hends.stops)
      | part p =>
          rw [Tree.written, p.written_append] at hwritten
          obtain ⟨hopener, hrest⟩ := List.cons.inj hwritten
          have hrequired : p.required = required := openingBracket_inj hopener
          apply h
          rw [← hrest, p.behind_append, PartTree.closer, hrequired]
          simp

theorem read_cutTemplate (r : Registry) {digits : Text}
    (hdigits : ∀ c ∈ digits, c.isAsciiDigit = true)
    (hlong : Text.decimalDigitLimit < digits.length) :
    Template.read r (cutTemplate digits) = .error (.occurrenceTooLong digits.length) := by
  have hsome : digits ≠ [] := by
    rintro rfl
    cases hlong
  have hvalid : (Suffix.number digits).IsValid := ⟨hsome, hdigits⟩
  have hkey : ∀ c ∈ ("Key" : Text), c.isAsciiWord = true := by decide
  have hword : ∀ c ∈ ("Key" : Text) ++ (Suffix.number digits).written, c.isAsciiWord = true := by
    intro c hc
    rcases List.mem_append.mp hc with hname | hsuffix
    · exact hkey c hname
    · exact Suffix.word_of_isValid hvalid c hsuffix
  have htake : (("Key" : Text) ++ (Suffix.number digits).written).takeWhile
      CodePoint.isAsciiWord = "Key" ++ (Suffix.number digits).written := by
    simpa using takeWhile_word (s := []) hword fun c hc => absurd hc (Option.not_mem_none c)
  have hpart (total : Nat) : readPart total r (cutTemplate digits) '\x7d' =
      .error (.occurrenceTooLong digits.length) := by
    have hseparator : readSeparator total '\x7d' true (cutTemplate digits).tail =
        .ok ([], "Key" ++ (Suffix.number digits).written) := rfl
    have hempty : (("Key" : Text) ++ (Suffix.number digits).written).isEmpty = false := rfl
    have hletter : (("Key" : Text) ++ (Suffix.number digits).written).head?.any
        CodePoint.isAsciiLetter = true := rfl
    simp only [readPart, hseparator, orFault, bind, Except.bind, hempty, hletter, htake,
      splitIdentifier_number _ _ hsome hdigits, Suffix.occurrence?, hlong, if_true,
      Bool.false_eq_true, if_false, Bool.not_true]
  have hstep : Template.read r (cutTemplate digits) =
      (do
        let result ← readPart (cutTemplate digits).length r (cutTemplate digits) '\x7d'
        let parts ← readDrafts (cutTemplate digits).length r (digits.length + 4) result.2
        pure (result.1 :: parts)) := rfl
  rw [hstep, hpart]
  rfl

/-- Too many digits are not reported as what they are in a template that the
grammar does not have. -/
theorem not_isRefused_cutTemplate :
    (∀ e, Template.read defaultRegistry (cutTemplate (.replicate 4301 '0')) ≠ .error (.regex e)) ∧
      (∀ span reason, Template.read defaultRegistry (cutTemplate (.replicate 4301 '0')) ≠
        .error (.fault (.invalidRegex span reason))) ∧
      ¬ IsDerivable (cutTemplate (.replicate 4301 '0')) ∧
      ¬ IsRefused defaultRegistry (cutTemplate (.replicate 4301 '0')) := by
  have hdigits : ∀ c ∈ List.replicate 4301 (CodePoint.ofChar '0'), c.isAsciiDigit = true := by
    intro c hc
    rw [List.eq_of_mem_replicate hc]
    rfl
  have hread := read_cutTemplate defaultRegistry hdigits (by
    rw [List.length_replicate]
    decide)
  refine ⟨fun e he => ?_, fun span reason he => ?_, ?_, ?_⟩
  · cases hread.symm.trans he
  · cases hread.symm.trans he
  · refine not_isDerivable_of_unclosed (?_ : closingBracket false ∉ _)
    intro hmem
    rcases List.mem_append.mp hmem with hkey | hdigit
    · revert hkey
      decide
    · exact absurd (hdigits _ hdigit) (by decide)
  · rintro ⟨f, hcompile, _⟩
    cases hcompile.symm.trans (compile_error_of_read hread)

end Pattern

end KeyNaming
