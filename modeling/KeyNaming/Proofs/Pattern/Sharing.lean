import Mathlib.Data.List.Basic
import KeyNaming.Pattern.Match

/-!
What sharing values makes of a match.

A part that is bound to the last occurrence and has no value gets a copy of
another one. What was not copied is what the part captured, and where no part
has a numbered occurrence nothing is copied at all.
-/

namespace KeyNaming

theorem Occurrence.mem_of_select {values : List Text} {occurrence : Occurrence} {v : Text}
    (h : occurrence.select values = some v) : v ∈ values := by
  cases occurrence with
  | pinned n => exact List.mem_of_getElem? h
  | last => exact List.mem_of_getLast? h

@[simp] theorem Occurrence.select_nil (occurrence : Occurrence) :
    occurrence.select [] = none := by
  cases occurrence <;> rfl

theorem Occurrence.eq_nil_of_select_last {values : List Text} {occurrence : Occurrence}
    (hlast : occurrence.isLast = true) (h : occurrence.select values = none) : values = [] := by
  cases occurrence with
  | pinned n => cases hlast
  | last => exact List.getLast?_eq_none_iff.mp h

/-- What a part takes from segments is a candidate that it accepts. -/
theorem Capture.mem_candidates_of_fromSegments {c : Capture Occurrence} {segments : List Segment}
    {v : Text} (h : c.fromSegments segments = some v) :
    v ∈ candidates segments c.parameter ∧ c.accepts v = true :=
  List.mem_filter.mp (Occurrence.mem_of_select h)

namespace Match

theorem entries_map (p : Pattern) (slot : Capture Occurrence → Slot) :
    entries ⟨p, p.captures.map slot⟩ = p.captures.map fun c => (c, slot c) :=
  (List.map_prod_left_eq_zip ..).symm

theorem zip_map_zip {A B : Type} (keys : List A) (values : List B) (f : A → B → B) :
    keys.zip ((keys.zip values).map fun (a, b) => f a b) =
      (keys.zip values).map fun (a, b) => (a, f a b) := by
  induction keys generalizing values with
  | nil => rfl
  | cons key keys ih =>
      cases values with
      | nil => rfl
      | cons value values => simp [ih]

theorem entries_of_share (m : Match) :
    m.share.entries = m.entries.map fun (c, slot) => (c, m.sharedSlot c slot) :=
  zip_map_zip m.pattern.captures m.slots m.sharedSlot

theorem entries_share (p : Pattern) (slot : Capture Occurrence → Slot) :
    (share ⟨p, p.captures.map slot⟩).entries =
      p.captures.map fun c => (c, sharedSlot ⟨p, p.captures.map slot⟩ c (slot c)) := by
  rw [entries_of_share, entries_map, List.map_map]
  rfl

/-- A slot is kept, or it had no value and gets a copy of the one value that
the numbered parts of its parameter have. -/
theorem sharedSlot_eq_or (m : Match) (c : Capture Occurrence) (slot : Slot) :
    m.sharedSlot c slot = slot ∨
      (c.occurrence.isLast = true ∧ slot.value = none ∧
        ∃ v, m.numberedValues c.parameter = [v] ∧ m.sharedSlot c slot = ⟨some v, true⟩) := by
  unfold sharedSlot
  split
  · next hempty =>
    obtain ⟨hlast, hnone⟩ := Bool.and_eq_true_iff.mp hempty
    split
    · next v hnumbered =>
      exact .inr ⟨hlast, Option.isNone_iff_eq_none.mp hnone, v, hnumbered, rfl⟩
    · exact .inl rfl
  · exact .inl rfl

theorem sharedSlot_of_value {m : Match} {c : Capture Occurrence} {slot : Slot}
    (h : slot.value ≠ none) : m.sharedSlot c slot = slot := by
  rcases m.sharedSlot_eq_or c slot with hkept | ⟨_, hnone, _⟩
  · exact hkept
  · exact absurd hnone h

/-- A value that was not copied is the one that the part captured. -/
theorem sharedSlot_eq_of_not_copied {m : Match} {c : Capture Occurrence} {slot : Slot}
    (h : (m.sharedSlot c slot).copied = false) : m.sharedSlot c slot = slot := by
  rcases m.sharedSlot_eq_or c slot with hkept | ⟨_, _, v, _, hcopy⟩
  · exact hkept
  · rw [hcopy] at h
    cases h

/-- Sharing leaves the numbered parts as they are. -/
theorem sharedSlot_of_numbered {m : Match} {c : Capture Occurrence}
    (h : c.occurrence.isLast = false) (slot : Slot) : m.sharedSlot c slot = slot := by
  rw [sharedSlot, h, Bool.false_and, if_neg Bool.false_ne_true]

/-- What was copied is the value of the only numbered part that has one, and the
part it was copied to had none. -/
theorem exists_of_copied {m : Match} {c : Capture Occurrence} {slot : Slot}
    (hslot : slot.copied = false) (h : (m.sharedSlot c slot).copied = true) :
    c.occurrence.isLast = true ∧ slot.value = none ∧
      ∃ v, m.numberedValues c.parameter = [v] ∧ m.sharedSlot c slot = ⟨some v, true⟩ := by
  rcases m.sharedSlot_eq_or c slot with hkept | hcopied
  · rw [hkept, hslot] at h
    cases h
  · exact hcopied

/-- Sharing leaves the values of numbered parts as they are. -/
theorem numberedValues_of_share (m : Match) (parameter : Text) :
    m.share.numberedValues parameter = m.numberedValues parameter := by
  simp only [numberedValues, entries_of_share, List.filterMap_map]
  apply List.filterMap_congr
  rintro ⟨c, slot⟩ _
  cases hlast : c.occurrence.isLast with
  | false => simp only [Function.comp_apply, sharedSlot_of_numbered hlast, hlast]
  | true => simp [hlast]

/-- Copies are not reported, so sharing does not change what is. -/
theorem parameters_of_share (m : Match) : m.share.parameters = m.parameters := by
  simp only [parameters, entries_of_share, List.filterMap_map]
  apply List.filterMap_congr
  rintro ⟨c, slot⟩ _
  rcases m.sharedSlot_eq_or c slot with hkept | ⟨_, hnone, v, _, hcopy⟩
  · simp only [Function.comp_apply, hkept]
  · simp [hcopy, hnone]

/-- A part without a value keeps none where the numbered parts of its parameter
have none. -/
theorem sharedSlot_eq_self (p : Pattern) (slot : Capture Occurrence → Slot)
    {c : Capture Occurrence}
    (hslot : c.occurrence.isLast = true → (slot c).value = none →
      ∀ other ∈ p.captures, other.parameter = c.parameter → other.occurrence.isLast = false →
        (slot other).value = none) :
    sharedSlot ⟨p, p.captures.map slot⟩ c (slot c) = slot c := by
  rcases sharedSlot_eq_or ⟨p, p.captures.map slot⟩ c (slot c) with
    hkept | ⟨hlast, hnone, v, hlone, _⟩
  · exact hkept
  · have hnumbered : numberedValues ⟨p, p.captures.map slot⟩ c.parameter = [] := by
      rw [numberedValues, entries_map, List.filterMap_map]
      apply List.filterMap_eq_nil_iff.mpr
      intro other hother
      simpa using hslot hlast hnone other hother
    cases hnumbered.symm.trans hlone

/-- Nothing is shared where the numbered parts of a parameter have no value as
soon as a part that is bound to its last occurrence has none. -/
theorem share_eq_self (p : Pattern) (slot : Capture Occurrence → Slot)
    (hslot : ∀ c ∈ p.captures, c.occurrence.isLast = true → (slot c).value = none →
      ∀ other ∈ p.captures, other.parameter = c.parameter → other.occurrence.isLast = false →
        (slot other).value = none) :
    share ⟨p, p.captures.map slot⟩ = ⟨p, p.captures.map slot⟩ := by
  simp only [share, entries_map, List.map_map]
  congr 1
  exact List.map_congr_left fun c hc => sharedSlot_eq_self p slot (hslot c hc)

/-- Values are shared only with parts of numbered occurrences. -/
theorem share_of_last (p : Pattern) (slot : Capture Occurrence → Slot)
    (hlast : ∀ c ∈ p.captures, c.occurrence = .last) :
    share ⟨p, p.captures.map slot⟩ = ⟨p, p.captures.map slot⟩ :=
  share_eq_self p slot fun _ _ _ _ other hother _ hnumbered => by
    rw [hlast other hother] at hnumbered
    cases hnumbered

end Match

end KeyNaming
