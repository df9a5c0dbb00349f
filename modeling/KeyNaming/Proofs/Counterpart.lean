import Mathlib.Data.List.Forall2

/-!
Two lists whose elements correspond to each other in order.
-/

namespace KeyNaming

variable {A B : Type} {R : A → B → Prop} {l : List A} {l' : List B}

theorem exists_mem_of_forall₂ (h : List.Forall₂ R l l') {a : A} (ha : a ∈ l) :
    ∃ b ∈ l', R a b := by
  induction h with
  | nil => cases ha
  | cons hab _ ih =>
      rcases List.mem_cons.mp ha with rfl | ha
      · exact ⟨_, List.mem_cons_self, hab⟩
      · obtain ⟨b, hb, hrelated⟩ := ih ha
        exact ⟨b, List.mem_cons_of_mem _ hb, hrelated⟩

theorem forall₂_trans {C : Type} {S : B → C → Prop} {l'' : List C} (h : List.Forall₂ R l l')
    (h' : List.Forall₂ S l' l'') : List.Forall₂ (fun a c => ∃ b, R a b ∧ S b c) l l'' := by
  induction h generalizing l'' with
  | nil =>
      cases h' with
      | nil => exact .nil
  | cons hab _ ih =>
      cases h' with
      | cons hbc hrest => exact .cons ⟨_, hab, hbc⟩ (ih hrest)

/-- What holds of each two elements in order holds of what they stand for. -/
theorem pairwise_of_forall₂ (h : List.Forall₂ R l l') {S : B → B → Prop} (hS : l'.Pairwise S) :
    l.Pairwise fun a a' => ∃ b b', R a b ∧ R a' b' ∧ S b b' := by
  induction h with
  | nil => exact .nil
  | cons hab hrest ih =>
      obtain ⟨hhead, htail⟩ := List.pairwise_cons.mp hS
      refine .cons ?_ (ih htail)
      intro a' ha'
      obtain ⟨b', hb', hrelated⟩ := exists_mem_of_forall₂ hrest ha'
      exact ⟨_, b', hab, hrelated, hhead b' hb'⟩

/-- What is found first in a list, its counterpart is found first in a related
one where nothing is found that the list does not have. -/
theorem exists_findSome?_of_forall₂ {C D : Type} (h : List.Forall₂ R l l') {f : A → Option C}
    {g : B → Option D} {Q : D → Prop} {found : C}
    (hnone : ∀ a b, R a b → f a = none → g b = none)
    (hsome : ∀ a ∈ l, ∀ b ∈ l', R a b → f a = some found → ∃ d, g b = some d ∧ Q d)
    (hfound : l.findSome? f = some found) : ∃ d, l'.findSome? g = some d ∧ Q d := by
  induction h with
  | nil => cases hfound
  | @cons a b _ _ hR _ ih =>
      rw [List.findSome?_cons] at hfound ⊢
      cases hfirst : f a with
      | none =>
          rw [hfirst] at hfound
          rw [hnone a b hR hfirst]
          exact ih (fun a ha b hb => hsome a (List.mem_cons_of_mem _ ha) b
            (List.mem_cons_of_mem _ hb)) hfound
      | some other =>
          rw [hfirst] at hfound
          obtain rfl := Option.some.inj hfound
          obtain ⟨d, hd, hQ⟩ := hsome a List.mem_cons_self b List.mem_cons_self hR hfirst
          exact ⟨d, by rw [hd], hQ⟩

end KeyNaming
