import KeyNaming.Proofs.Pattern.Success

/-!
What sharing values changes in a match, and what it leaves.

Sharing reads the numbered parts and writes to those that are bound to the last
occurrence, so it reads nothing that it wrote, and sharing once more finds
nothing left to write. What it writes is a copy, so a match reports the same
parameters before and after.
-/

namespace KeyNaming

namespace Match

/-! ## Sharing twice -/

theorem sharedSlot_of_lone {m : Match} {c : Capture Occurrence} {slot : Slot} {v : Text}
    (hlast : c.occurrence.isLast = true) (hnone : slot.value = none)
    (hlone : m.numberedValues c.parameter = [v]) : m.sharedSlot c slot = ⟨some v, true⟩ := by
  simp only [sharedSlot, hlast, hnone, hlone, Option.isNone_none, Bool.and_self, if_true]

/-- A slot that was shared already stays as it is. -/
theorem sharedSlot_sharedSlot (m : Match) (c : Capture Occurrence) (slot : Slot) :
    m.share.sharedSlot c (m.sharedSlot c slot) = m.sharedSlot c slot := by
  have hsame (taken : Slot) : m.share.sharedSlot c taken = m.sharedSlot c taken := by
    simp only [sharedSlot, numberedValues_of_share]
  rw [hsame]
  rcases m.sharedSlot_eq_or c slot with hkept | ⟨_, _, v, _, hcopy⟩
  · rw [hkept, hkept]
  · rw [hcopy]
    exact sharedSlot_of_value (Option.some_ne_none v)

theorem slots_share (m : Match) :
    m.share.slots = m.entries.map fun entry => m.sharedSlot entry.1 entry.2 := rfl

theorem share_share (m : Match) : m.share.share = m.share := by
  have hslots : m.share.share.slots = m.share.slots := by
    rw [m.share.slots_share, m.slots_share, entries_of_share, List.map_map]
    apply List.map_congr_left
    rintro ⟨c, slot⟩ _
    exact m.sharedSlot_sharedSlot c slot
  exact congrArg (fun slots => (⟨m.pattern, slots⟩ : Match)) hslots

theorem success_share {m : Match} (h : m.success = true) : m.share.success = true := by
  simp only [success, entries_of_share, List.all_map, List.all_eq_true] at h ⊢
  rintro ⟨c, slot⟩ hentry
  have hslot := h (c, slot) hentry
  rcases m.sharedSlot_eq_or c slot with hkept | ⟨_, _, v, _, hcopy⟩
  · simpa only [Function.comp_apply, hkept] using hslot
  · simp [hcopy]

/-! ## The value that is copied -/

/-- A numbered part of a parameter that has a value. -/
def Provides (parameter v : Text) (entry : Capture Occurrence × Slot) : Prop :=
  entry.1.parameter = parameter ∧ entry.1.occurrence.isLast = false ∧ entry.2.value = some v

/-- One numbered part of a parameter has a value, and no other one has any. -/
def HasLoneValue (m : Match) (parameter v : Text) : Prop :=
  ∃ before source after, m.entries = before ++ source :: after ∧ Provides parameter v source ∧
    ∀ other ∈ before ++ after, ∀ w, ¬Provides parameter w other

theorem provides_iff (parameter v : Text) (entry : Capture Occurrence × Slot) :
    (if entry.1.parameter == parameter && !entry.1.occurrence.isLast then entry.2.value
      else none) = some v ↔ Provides parameter v entry := by
  unfold Provides
  split
  · next h =>
    have hnumbered : entry.1.parameter = parameter ∧ entry.1.occurrence.isLast = false := by
      simpa using h
    simp [hnumbered]
  · next h =>
    constructor
    · intro hv
      cases hv
    · rintro ⟨hparameter, hnumbered, _⟩
      simp [hparameter, hnumbered] at h

theorem numberedValues_eq_singleton_iff (m : Match) (parameter v : Text) :
    m.numberedValues parameter = [v] ↔ m.HasLoneValue parameter v := by
  have hnone (entry : Capture Occurrence × Slot) :
      (if entry.1.parameter == parameter && !entry.1.occurrence.isLast then entry.2.value
        else none) = none ↔ ∀ w, ¬Provides parameter w entry := by
    rw [Option.eq_none_iff_forall_ne_some]
    exact forall_congr' fun w => not_congr (provides_iff parameter w entry)
  unfold numberedValues HasLoneValue
  rw [List.filterMap_eq_cons_iff]
  constructor
  · rintro ⟨before, source, after, hentries, hbefore, hsource, hafter⟩
    rw [List.filterMap_eq_nil_iff] at hafter
    refine ⟨before, source, after, hentries, (provides_iff parameter v source).mp hsource, ?_⟩
    intro other hother
    rcases List.mem_append.mp hother with hother | hother
    · exact (hnone other).mp (hbefore other hother)
    · exact (hnone other).mp (hafter other hother)
  · rintro ⟨before, source, after, hentries, hsource, hothers⟩
    refine ⟨before, source, after, hentries, ?_, (provides_iff parameter v source).mpr hsource, ?_⟩
    · intro other hother
      exact (hnone other).mpr (hothers other (List.mem_append_left after hother))
    · rw [List.filterMap_eq_nil_iff]
      intro other hother
      exact (hnone other).mpr (hothers other (List.mem_append_right before hother))

/-- Sharing is idempotent. It writes to the parts that are bound to the last occurrence
and have no value, and to such a part exactly if one numbered part of its parameter
alone has a value; then it writes a copy of that. A success stays one, and the reported
parameters and the key that is made of them stay the same. -/
theorem share_idempotent_and_frame (m : Match) :
    m.share.share = m.share ∧ (m.IsFull → m.share.IsFull) ∧
      (∀ (i : Nat) (c : Capture Occurrence) (slot : Slot), m.entries[i]? = some (c, slot) →
        ∃ slot', m.share.entries[i]? = some (c, slot') ∧
          (slot' = slot ∨ (c.occurrence.isLast = true ∧ slot.value = none ∧
            ∃ v, m.HasLoneValue c.parameter v ∧ slot' = ⟨some v, true⟩)) ∧
          (c.occurrence.isLast = true → slot.value = none →
            ∀ v, m.HasLoneValue c.parameter v → slot' = ⟨some v, true⟩)) ∧
      (m.success = true → m.share.success = true) ∧ m.share.parameters = m.parameters ∧
      ∀ (r : Registry) (root : Chain), m.share.toKey r root = m.toKey r root := by
  have hentries (i : Nat) (c : Capture Occurrence) (slot : Slot)
      (hentry : m.entries[i]? = some (c, slot)) :
      m.share.entries[i]? = some (c, m.sharedSlot c slot) := by
    simp [entries_of_share, hentry]
  have hkey (r : Registry) (root : Chain) : m.share.toKey r root = m.toKey r root := by
    rw [toKey, toKey, parameters_of_share]
  refine ⟨m.share_share, isFull_share, fun i c slot hentry => ?_, success_share,
    m.parameters_of_share, hkey⟩
  refine ⟨m.sharedSlot c slot, hentries i c slot hentry, ?_, fun hlast hnone v hlone => ?_⟩
  · rcases m.sharedSlot_eq_or c slot with hkept | ⟨hlast, hnone, v, hlone, hcopy⟩
    · exact .inl hkept
    · rw [numberedValues_eq_singleton_iff] at hlone
      exact .inr ⟨hlast, hnone, v, hlone, hcopy⟩
  · rw [← numberedValues_eq_singleton_iff] at hlone
    exact sharedSlot_of_lone hlast hnone hlone

/-- The template of three parts of one parameter, one of them numbered. -/
def sharingTemplate : Text := "\x7bSection_0.\x7d\x7bSection\x7d\x7bSection_n\x7d"

/-- A value of the numbered part is copied to both of the others, and reported
once. -/
theorem share_idempotent_and_frame_sections :
    ∃ p m, Pattern.compile defaultRegistry sharingTemplate = .ok p ∧
      ofValues? p [some "A"] = some m ∧ m.share.share = m.share ∧
      (∃ c, m.entries[1]? = some (c, ⟨none, false⟩) ∧
        m.share.entries[1]? = some (c, ⟨some "A", true⟩)) ∧
      m.share.success = true ∧
      m.share.parameters = ([("section", "A")] : List (Text × Text)) := by
  obtain ⟨p, hp, hproperty⟩ := Pattern.exists_of_compile_any defaultRegistry sharingTemplate
    (fun p => (ofValues? p [some "A"]).any fun m : Match => decide (m.success = true ∧
      m.parameters = ([("section", "A")] : List (Text × Text)) ∧
      m.numberedValues "section" = ([("A" : String)] : List Text) ∧
      (m.entries[1]?.any fun entry : Capture Occurrence × Slot =>
        decide (entry.1.occurrence.isLast = true ∧ entry.1.parameter = ("section" : Text) ∧
          entry.2 = ⟨none, false⟩)) = true))
    (by decide +kernel)
  obtain ⟨m, hm, hdecided⟩ := (Option.any_eq_true _ _).mp hproperty
  obtain ⟨hsuccess, hparameters, hlone, hentry⟩ := of_decide_eq_true hdecided
  obtain ⟨⟨c, slot⟩, hentry, hdecided⟩ := (Option.any_eq_true _ _).mp hentry
  obtain ⟨hlast, hparameter, rfl⟩ := of_decide_eq_true hdecided
  rw [← hparameter, numberedValues_eq_singleton_iff] at hlone
  obtain ⟨hagain, _, hentries, hkept, hreported, _⟩ := share_idempotent_and_frame m
  obtain ⟨slot', hentry', _, hcopy⟩ := hentries 1 c ⟨none, false⟩ hentry
  rw [hcopy hlast rfl "A" hlone] at hentry'
  exact ⟨p, m, hp, hm, hagain, ⟨c, hentry, hentry'⟩, hkept hsuccess, hreported.trans hparameters⟩

end Match

end KeyNaming
