import KeyNaming.Failure
import KeyNaming.Proofs.Pattern.Derivation
import KeyNaming.Proofs.Pattern.Rejection
import KeyNaming.Proofs.Template.Depth

/-!
What compiling a template ends with.

It ends with a pattern, or with a fault and its diagnostic, or else reading the template
was stuck. The expression of the whole pattern adds little to that: it is rejected, which
is a fault, unless it is nested too deep, or an expression of the registry is no expression
without the flags that were given beside it.
-/

namespace KeyNaming

namespace Template

theorem Fault.source_diagnostic (f : Fault) (t : Text) : (f.diagnostic t).source = some t := by
  cases f <;> rfl

theorem Fault.number_diagnostic (f : Fault) (t : Text) :
    1001 ≤ (f.diagnostic t).code.number ∧ (f.diagnostic t).code.number ≤ 1008 := by
  rw [code_diagnostic]
  cases f <;> simp [code, Diagnostic.Code.number]

theorem read_fault_or_stuck {r : Registry} {t : Text} {e : Error}
    (h : Template.read r t = .error e) : (∃ f, e = .fault f) ∨ Stuck t e := by
  have hreading := (read_outcome r t).error h
  cases e with
  | fault f => exact .inl ⟨f, rfl⟩
  | regex e => exact .inr hreading
  | occurrenceTooLong digits => exact .inr hreading

end Template

namespace Pattern

open Template

/-- What ends the compilation of a template without a diagnostic. An inline regular
expression may be stopped by something else than a fault, an occurrence may have too many
digits, an expression of the template or the whole one may be nested too deep. Also the
whole expression may be stopped by something else than a fault, where an expression of the
registry cannot be read without its flags. -/
inductive IsUndiagnosed (r : Registry) (t : Text) (exhausts : Text → Bool) : Error → Prop where
  | stuck {e : Error} (stuck : Stuck t e) : IsUndiagnosed r t exhausts e
  | tooDeep (deep : IsTooDeep exhausts t) : IsUndiagnosed r t exhausts (.regex .tooDeep)
  | wholeTooDeep {drafts : List Draft} (read : Template.read r t exhausts = .ok drafts)
      (deep : exhausts (regexSource (assign drafts) [] .all) = true) :
      IsUndiagnosed r t exhausts (.regex .tooDeep)
  | foreign {drafts : List Draft} (read : Template.read r t exhausts = .ok drafts)
      {c : Capture Occurrence} (mem : .capture c ∈ assign drafts)
      (pattern : r.pattern? (some c.parameter) = some c.regex)
      (foreign : c.regex.isEmbeddable = false) {e : Regex.Error}
      (compiles : Regex.compile (regexSource (assign drafts) [] .all) = .error e)
      (notRejected : e.isRejected = false) : IsUndiagnosed r t exhausts (.regex e)

variable {r : Registry} {t : Text} {exhausts : Text → Bool}

theorem isUndiagnosed_of_read {e : Error} (h : Template.read r t exhausts = .error e) :
    (∃ f, e = .fault f) ∨ IsUndiagnosed r t exhausts e := by
  rcases read_isCut exhausts r t with hsame | ⟨herror, hdeep⟩
  · exact (read_fault_or_stuck (hsame ▸ h)).imp_right .stuck
  · obtain rfl := Except.error.inj (h.symm.trans herror)
    exact .inr (.tooDeep hdeep)

/-- The whole expression is rejected, or some part takes an expression of the registry
that cannot be read without its flags. -/
theorem isRejected_or_exists_foreign {drafts : List Draft} (h : Template.read r t = .ok drafts)
    {e : Regex.Error} (he : Regex.compile (regexSource (assign drafts) [] .all) = .error e) :
    e.isRejected = true ∨ ∃ c, .capture c ∈ assign drafts ∧
      r.pattern? (some c.parameter) = some c.regex ∧ c.regex.isEmbeddable = false := by
  by_cases hparts : ∀ c, .capture c ∈ assign drafts → c.regex.isEmbeddable = true
  · have hmild := isMild_compile_regexSource [] fun c hc =>
      ⟨isNamed_of_read h c hc, fun _ => hparts c hc⟩
    exact .inl (hmild.error he)
  · push Not at hparts
    obtain ⟨c, hc, hforeign⟩ := hparts
    refine .inr ⟨c, hc, ?_, by simpa using hforeign⟩
    rcases given_or_pattern?_of_read h hc with hgiven | hpattern
    · exact absurd (Regex.isEmbeddable_of_isNone (Regex.Flags.isNone_iff.mpr hgiven)) hforeign
    · exact hpattern

/-- After reading there are faults, or the whole expression is nested too deep or holds
one of the registry that cannot be read without its flags. -/
theorem isUndiagnosed_of_compile {drafts : List Draft}
    (hread : Template.read r t exhausts = .ok drafts) {e : Error}
    (h : Pattern.compile r t exhausts = .error e) :
    (∃ f, e = .fault f) ∨ IsUndiagnosed r t exhausts e := by
  simp only [Pattern.compile, hread, bind, Except.bind, pure, Except.pure] at h
  split at h
  · next hcheck =>
    obtain rfl := Except.error.inj h
    cases hidentifiers : checkIdentifiers [] 0 (assign drafts) with
    | ok _ =>
        rw [hidentifiers] at hcheck
        cases hcheck
    | error f =>
        rw [hidentifiers] at hcheck
        exact .inl ⟨f, (Except.error.inj hcheck).symm⟩
  · rw [Regex.compile_eq] at h
    cases hdeep : exhausts (regexSource (assign drafts) [] .all) with
    | true =>
        rw [hdeep] at h
        obtain rfl := Except.error.inj h
        exact .inr (.wholeTooDeep hread hdeep)
    | false =>
        simp only [hdeep, Bool.false_eq_true, if_false] at h
        split at h
        · cases h
        · exact .inl ⟨_, (Except.error.inj h).symm⟩
        · next e hnot he =>
          obtain rfl := Except.error.inj h
          have hnotRejected : e.isRejected = false := by
            cases e with
            | rejected cause position => exact absurd rfl (hnot cause position)
            | _ => rfl
          rcases isRejected_or_exists_foreign (read_of_limited hread) he
            with hrejected | ⟨c, hc, hpattern, hforeign⟩
          · rw [hnotRejected] at hrejected
            cases hrejected
          · exact .inr (.foreign hread hc hpattern hforeign he hnotRejected)

/-- A pattern that was compiled with little of the stack is compiled with any. -/
theorem compile_of_limited {p : Pattern} (h : Pattern.compile r t exhausts = .ok p) :
    Pattern.compile r t = .ok p := by
  cases hread : Template.read r t exhausts with
  | error e => cases (compile_error_of_read hread).symm.trans h
  | ok drafts =>
      simp only [Pattern.compile, hread, bind, Except.bind] at h
      simp only [Pattern.compile, read_of_limited hread, bind, Except.bind]
      split at h
      · cases h
      · rw [Regex.compile_eq] at h
        cases hdeep : exhausts (regexSource (assign drafts) [] .all) with
        | true =>
            rw [hdeep] at h
            cases h
        | false => simpa only [hdeep, Bool.false_eq_true, if_false] using h

variable (r t exhausts)

/-- Compiling ends with a pattern, or with a diagnostic about the template whose number is
one of those that templates have. Where there is neither, what ended it is one of the
errors that no diagnostic reports. -/
theorem ofTemplate_diagnostic_or_stuck :
    (∃ p, Pattern.ofTemplate r t exhausts = .ok p) ∨
      (∃ f d, Pattern.ofTemplate r t exhausts = .error f ∧ f.diagnostic? = some d ∧
        d.source = some t ∧ 1001 ≤ d.code.number ∧ d.code.number ≤ 1008) ∨
      ∃ e, Pattern.ofTemplate r t exhausts = .error (.template t e) ∧
        IsUndiagnosed r t exhausts e := by
  cases hcompile : Pattern.compile r t exhausts with
  | ok p => exact .inl ⟨p, by rw [Pattern.ofTemplate, hcompile]; rfl⟩
  | error e =>
      have hofTemplate : Pattern.ofTemplate r t exhausts = .error (.template t e) := by
        rw [Pattern.ofTemplate, hcompile]
        rfl
      have hcause : (∃ f, e = .fault f) ∨ IsUndiagnosed r t exhausts e := by
        cases hread : Template.read r t exhausts with
        | error e' =>
            obtain rfl := Except.error.inj ((compile_error_of_read hread).symm.trans hcompile)
            exact isUndiagnosed_of_read hread
        | ok drafts => exact isUndiagnosed_of_compile hread hcompile
      rcases hcause with ⟨f, rfl⟩ | hundiagnosed
      · exact .inr (.inl ⟨_, f.diagnostic t, hofTemplate, rfl, f.source_diagnostic t,
          f.number_diagnostic t⟩)
      · exact .inr (.inr ⟨e, hofTemplate, hundiagnosed⟩)

/-- A template with a repetition count that is too large. -/
def largeCountTemplate : Text := "\x7bKey<a\x7b4294967295\x7d>\x7d"

/-- A repetition count that is too large is not reported by a diagnostic. -/
theorem not_diagnostic_largeCountTemplate :
    (∀ p, Pattern.ofTemplate defaultRegistry largeCountTemplate ≠ .ok p) ∧
      ∀ f, Pattern.ofTemplate defaultRegistry largeCountTemplate = .error f →
        f.diagnostic? = none := by
  have hread : (match Template.read defaultRegistry largeCountTemplate with
      | .error (.regex _) => true
      | _ => false) = true := by
    decide +kernel
  split at hread
  · next e he =>
    have hstuck : Pattern.ofTemplate defaultRegistry largeCountTemplate =
        .error (.template largeCountTemplate (.regex e)) := by
      rw [Pattern.ofTemplate, compile_error_of_read he]
      rfl
    constructor
    · intro p hp
      cases hstuck.symm.trans hp
    · intro f hf
      rw [← Except.error.inj (hstuck.symm.trans hf)]
      rfl
  · cases hread

end Pattern

end KeyNaming
