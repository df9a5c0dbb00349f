import KeyNaming.Proofs.Template.Reading

/-!
Templates whose regular expressions are nested too deep.

How much of the stack is left decides which expressions can be read. Reading a template
goes on as if there were enough of it, up to an expression in the template that is
nested too deep; there it ends.
-/

namespace KeyNaming

/-- Where the stack is enough for a source, nothing depends on it. -/
theorem Regex.compile_eq (source : Text) (given : Flags) (exhausts : Text → Bool) :
    Regex.compile source given exhausts =
      if exhausts source then .error .tooDeep else Regex.compile source given := by
  rw [compile, compile, if_neg Bool.false_ne_true]

namespace Template

/-- Whether a regular expression that a text writes exhausts the stack. -/
def IsTooDeep (exhausts : Text → Bool) (t : Text) : Prop :=
  ∃ a : Run Glyph.isRegex, ('<' : CodePoint) :: a.written ++ [('>' : CodePoint)] <:+: t ∧
    exhausts a.source = true

/-- Whether a reading of a text is the one with enough of the stack, or ends at an
expression that is nested too deep. -/
def IsCut (exhausts : Text → Bool) (t : Text) {α : Type} (limited full : Except Error α) : Prop :=
  limited = full ∨ limited = .error (.regex .tooDeep) ∧ IsTooDeep exhausts t

variable {exhausts : Text → Bool} {s t : Text} {α β : Type}

theorem IsCut.refl (x : Except Error α) : IsCut exhausts t x x := .inl rfl

theorem IsCut.mono {x y : Except Error α} (hst : s <:+: t) (h : IsCut exhausts s x y) :
    IsCut exhausts t x y := by
  rcases h with h | ⟨h, a, hwritten, hdeep⟩
  · exact .inl h
  · exact .inr ⟨h, a, hwritten.trans hst, hdeep⟩

theorem IsCut.bind {x y : Except Error α} (h : IsCut exhausts t x y) {f g : α → Except Error β}
    (hrest : ∀ a, y = .ok a → IsCut exhausts t (f a) (g a)) :
    IsCut exhausts t (x >>= f) (y >>= g) := by
  rcases h with rfl | ⟨rfl, hdeep⟩
  · cases x with
    | error e => exact .inl rfl
    | ok a => exact hrest a rfl
  · exact .inr ⟨rfl, hdeep⟩

variable (exhausts) (total : Nat)

theorem readRegex_isCut (t : Text) :
    IsCut exhausts t (readRegex total t exhausts) (readRegex total t) := by
  cases t with
  | nil => exact .refl _
  | cons c rest =>
      simp only [readRegex]
      split
      · exact .refl _
      · next hc =>
        obtain rfl : c = '<' := by simpa using hc
        cases hsource : readRegexSource total (offsetOf total ('<' :: rest)) rest with
        | error f => exact .refl _
        | ok result =>
            obtain ⟨a, hwritten, htext⟩ := (readRegexSource_outcome total _ rest).ok hsource
            dsimp only
            rw [Regex.compile_eq result.1 {} exhausts]
            cases hdeep : exhausts result.1 with
            | false => exact .refl _
            | true =>
                rw [htext] at hdeep
                refine .inr ⟨rfl, a, ⟨[], result.2, ?_⟩, hdeep⟩
                simp [hwritten]

theorem readPart_isCut (r : Registry) (t : Text) (closer : CodePoint) :
    IsCut exhausts t (readPart total r t closer exhausts) (readPart total r t closer) := by
  unfold readPart
  refine (IsCut.refl _).bind ?_
  rintro ⟨leading, rest⟩ hleading
  have hrest : rest <:+: t := by
    obtain ⟨a, hwritten, _⟩ := (Outcome.orFault (E := fun e => e.isGrammar = true)
      (readSeparator_outcome total closer true t.tail)).ok hleading
    exact (List.suffix_append a.written rest).isInfix.trans
      (hwritten ▸ (List.tail_suffix t).isInfix)
  dsimp only
  split
  · exact .refl _
  split
  · exact .refl _
  refine (IsCut.refl _).bind fun occurrence _ => ?_
  refine ((readRegex_isCut exhausts total _).mono
    ((List.dropWhile_suffix _).isInfix.trans hrest)).bind fun inline _ => ?_
  exact .refl _

theorem readDraft_isCut (r : Registry) (t : Text) :
    IsCut exhausts t (readDraft total r t exhausts) (readDraft total r t) := by
  rw [readDraft, readDraft]
  split
  · exact readPart_isCut exhausts total r t _
  · exact .refl _

theorem readDrafts_isCut (r : Registry) (fuel : Nat) (t : Text) :
    IsCut exhausts t (readDrafts total r fuel t exhausts) (readDrafts total r fuel t) := by
  induction fuel generalizing t with
  | zero => exact .refl _
  | succ fuel ih =>
      cases t with
      | nil => exact .refl _
      | cons c rest =>
          rw [readDrafts_cons total r fuel c rest exhausts, readDrafts_cons total r fuel c rest]
          refine (readDraft_isCut exhausts total r (c :: rest)).bind ?_
          rintro ⟨draft, left⟩ hdraft
          obtain ⟨a, hwritten, _⟩ := (readDraft_outcome total r c rest).ok hdraft
          have hleft : left <:+: c :: rest := by
            rw [hwritten]
            exact (List.suffix_append a.written left).isInfix
          exact ((ih left).mono hleft).bind fun _ _ => .refl _

/-- A template is read as with enough of the stack, up to an expression that is nested
too deep. -/
theorem read_isCut (r : Registry) (t : Text) :
    IsCut exhausts t (Template.read r t exhausts) (Template.read r t) :=
  readDrafts_isCut exhausts t.length r t.length t

/-- What was read with little of the stack is read with any. -/
theorem read_of_limited {exhausts : Text → Bool} {r : Registry} {t : Text} {drafts : List Draft}
    (h : Template.read r t exhausts = .ok drafts) : Template.read r t = .ok drafts := by
  rcases read_isCut exhausts r t with hsame | ⟨herror, _⟩
  · exact hsame ▸ h
  · cases herror.symm.trans h

end Template

end KeyNaming
