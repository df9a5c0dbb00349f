/-!
What a computation that may fail promises: something of its result, and
something of its error.
-/

namespace KeyNaming

def Outcome {ε α : Type} (E : ε → Prop) (P : α → Prop) : Except ε α → Prop
  | .ok a => P a
  | .error e => E e

namespace Outcome

variable {ε α β : Type} {E : ε → Prop} {P : α → Prop} {x : Except ε α}

theorem bind {Q : β → Prop} {f : α → Except ε β} (h : Outcome E P x)
    (hf : ∀ a, P a → Outcome E Q (f a)) : Outcome E Q (x >>= f) := by
  cases x with
  | ok a => exact hf a h
  | error e => exact h

theorem map {f : β → α} {y : Except ε β} (h : Outcome E (fun b => P (f b)) y) :
    Outcome E P (y.map f) := by
  cases y with
  | ok b => exact h
  | error e => exact h

theorem imp_ok {Q : α → Prop} (h : Outcome E P x) (hP : ∀ a, P a → Q a) : Outcome E Q x := by
  cases x with
  | ok a => exact hP a h
  | error e => exact h

theorem imp_error {E' : ε → Prop} (h : Outcome E P x) (hE : ∀ e, E e → E' e) :
    Outcome E' P x := by
  cases x with
  | ok a => exact h
  | error e => exact hE e h

/-- The result and the error of a computation may be told by different facts. -/
theorem of_ok_of_error {E' : ε → Prop} {Q : α → Prop} (hok : Outcome E' P x)
    (herror : Outcome E Q x) : Outcome E P x := by
  cases x with
  | ok a => exact hok
  | error e => exact herror

theorem of_eq {a : α} (hx : x = .ok a) : Outcome E (fun b => b = a) x := by
  subst hx
  rfl

theorem ok {a : α} (h : Outcome E P x) (hx : x = .ok a) : P a := by
  subst hx
  exact h

theorem error {e : ε} (h : Outcome E P x) (hx : x = .error e) : E e := by
  subst hx
  exact h

end Outcome

/-- A computation with a decidable property of its result comes to a result. -/
theorem exists_ok_of_any {ε α : Type} (x : Except ε α) (property : α → Bool)
    (h : x.toOption.any property = true) : ∃ a, x = .ok a ∧ property a = true := by
  cases x with
  | error e => simp [Except.toOption] at h
  | ok a => exact ⟨a, rfl, by simpa [Except.toOption] using h⟩

/-- A computation with a decidable property of its error comes to an error. -/
theorem exists_error_of_any {ε α : Type} (x : Except ε α) (property : ε → Bool)
    (h : (match x with
      | .ok _ => false
      | .error e => property e) = true) : ∃ e, x = .error e ∧ property e = true := by
  cases x with
  | ok a => cases h
  | error e => exact ⟨e, rfl, h⟩

end KeyNaming
