import KeyNaming.Pattern.Match
import KeyNaming.Proofs.Template.Drafts

/-!
What parts write into a name.

A capture without a value, or with an empty one, writes nothing, and there is no
name if it is required. So a name is told by the values that are not empty.
-/

namespace KeyNaming

namespace Pattern

theorem nonEmpty_ne (value : Option Text) : nonEmpty value ≠ some [] := by
  rcases value with _ | _ | ⟨first, rest⟩ <;> simp [nonEmpty]

theorem nonEmpty_of_ne {value : Option Text} (h : value ≠ some []) : nonEmpty value = value := by
  rcases value with _ | _ | ⟨first, others⟩
  · rfl
  · exact absurd rfl h
  · rfl

theorem nonEmpty_nonEmpty (value : Option Text) : nonEmpty (nonEmpty value) = nonEmpty value :=
  nonEmpty_of_ne (nonEmpty_ne value)

theorem eq_some_of_nonEmpty {value : Option Text} {v : Text} (h : nonEmpty value = some v) :
    value = some v := by
  rcases value with _ | _ | ⟨first, rest⟩
  · cases h
  · cases h
  · exact h

theorem isSome_nonEmpty (value : Option Text) :
    (nonEmpty value).isSome = true ↔ value.isSome = true ∧ value ≠ some [] := by
  rcases value with _ | _ | ⟨first, rest⟩ <;> simp [nonEmpty]

end Pattern

open Pattern (nonEmpty)

variable (c : Capture Occurrence) (rest : List Part) (value : Option Text)
  (values : List (Option Text))

/-- A capture adds its value between the separators. Without a value it adds
nothing, and there is no name if it is required. -/
theorem nameOf_capture :
    nameOf (.capture c :: rest) (value :: values) =
      if c.required && (nonEmpty value).isNone then none
      else (nameOf rest values).map fun name =>
        ((nonEmpty value).map fun v => c.leading ++ v ++ c.trailing).getD [] ++ name := by
  rcases value with _ | _ | ⟨first, others⟩
  · cases hrequired : c.required <;> simp [nameOf, nonEmpty, hrequired]
  · cases hrequired : c.required <;> simp [nameOf, nonEmpty, hrequired]
  · simp [nameOf, nonEmpty]

variable {c rest value values}

/-- What stands in a name that was written for a capture and further parts. -/
theorem exists_of_nameOf_capture {name : Text}
    (h : nameOf (.capture c :: rest) (value :: values) = some name) :
    ∃ others, nameOf rest values = some others ∧
      ((∃ v, nonEmpty value = some v ∧ name = c.leading ++ v ++ c.trailing ++ others) ∨
        (c.required = false ∧ name = others)) := by
  rw [nameOf_capture] at h
  split at h
  · cases h
  · next hthere =>
    obtain ⟨others, hothers, rfl⟩ := Option.map_eq_some_iff.mp h
    refine ⟨others, hothers, ?_⟩
    cases hvalue : nonEmpty value with
    | some v => exact .inl ⟨v, rfl, rfl⟩
    | none => exact .inr ⟨by simpa [hvalue] using hthere, rfl⟩

variable (parts : List Part)

/-- An empty value is left out of a name as an absent one is. -/
theorem nameOf_map_nonEmpty (values : List (Option Text)) :
    nameOf parts (values.map nonEmpty) = nameOf parts values := by
  induction parts generalizing values with
  | nil => rfl
  | cons part rest ih =>
      cases part with
      | literal written text => simp only [nameOf, ih]
      | capture c =>
          cases values with
          | nil => rfl
          | cons value values =>
              rw [List.map_cons, nameOf_capture, nameOf_capture, Pattern.nonEmpty_nonEmpty, ih]

/-- A name is built exactly if every required part has a text to write. -/
theorem isSome_nameOf_iff (values : List (Option Text))
    (hlength : (captureParts parts).length ≤ values.length) :
    (nameOf parts values).isSome = true ↔
      ∀ entry ∈ (captureParts parts).zip values, entry.1.required = true →
        entry.2.isSome = true ∧ entry.2 ≠ some [] := by
  induction parts generalizing values with
  | nil => simp [nameOf]
  | cons part rest ih =>
      cases part with
      | literal written text =>
          rw [nameOf, Option.isSome_map]
          exact ih values hlength
      | capture c =>
          cases values with
          | nil => cases hlength
          | cons value values =>
              rw [captureParts_capture, List.zip_cons_cons, List.forall_mem_cons,
                ← ih values (Nat.le_of_succ_le_succ hlength), nameOf_capture,
                ← Pattern.isSome_nonEmpty]
              cases hrequired : c.required with
              | false => simp
              | true => cases nonEmpty value <;> simp

end KeyNaming
