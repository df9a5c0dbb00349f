import KeyNaming.Proofs.Pattern.Multiplicity

/-!
Which values of a key are accepted by the parts that hold them.

A part takes its value from the candidates that it accepts. Sharing values does
not ask the part that it copies to: that part has no value because it accepts no
candidate, and the copy is a candidate.
-/

namespace KeyNaming

namespace Capture

/-- What a part takes from segments, before values are shared. -/
def taken (c : Capture Occurrence) (segments : List Segment) : Slot :=
  { value := c.fromSegments segments }

/-- A part that is bound to the last occurrence and takes nothing accepts no
candidate. -/
theorem not_accepts_of_fromSegments_eq_none {c : Capture Occurrence} {segments : List Segment}
    (hlast : c.occurrence.isLast = true) (hnone : c.fromSegments segments = none) {v : Text}
    (hv : v ∈ candidates segments c.parameter) : c.accepts v = false := by
  have hnil := Occurrence.eq_nil_of_select_last hlast hnone
  simpa using List.filter_eq_nil_iff.mp hnil v hv

end Capture

namespace Match

/-- Sharing leaves the values of numbered parts as they are. -/
theorem numberedValues_share (p : Pattern) (slot : Capture Occurrence → Slot) (parameter : Text) :
    (share ⟨p, p.captures.map slot⟩).numberedValues parameter =
      numberedValues ⟨p, p.captures.map slot⟩ parameter :=
  numberedValues_of_share ⟨p, p.captures.map slot⟩ parameter

end Match

namespace Pattern

section

variable (p : Pattern) (segments : List Segment)

/-- What the parts take from segments, before values are shared. -/
def unshared : Match := ⟨p, p.captures.map fun c => c.taken segments⟩

theorem exists_of_mem_entries_matchSegments {entry : Capture Occurrence × Slot}
    (h : entry ∈ (p.matchSegments segments []).entries) :
    ∃ c, entry = (c, (p.unshared segments).sharedSlot c (c.taken segments)) := by
  have hentries : (p.matchSegments segments []).entries = _ :=
    Match.entries_share p fun c => c.taken segments
  rw [hentries] at h
  obtain ⟨c, _, rfl⟩ := List.mem_map.mp h
  exact ⟨c, rfl⟩

/-- The value of a numbered part is a candidate that the part accepts, and no
copy. -/
theorem exists_of_mem_numberedValues {parameter v : Text}
    (h : v ∈ (p.matchSegments segments []).numberedValues parameter) :
    v ∈ candidates segments parameter ∧
      ∃ source ∈ (p.matchSegments segments []).entries, source.1.parameter = parameter ∧
        source.1.occurrence.isLast = false ∧ source.2 = ⟨some v, false⟩ ∧
        source.1.accepts v = true := by
  obtain ⟨⟨c, slot⟩, hsource, hvalue⟩ := List.mem_filterMap.mp h
  dsimp only at hvalue
  split at hvalue
  · next hnumbered =>
    obtain ⟨hparameter, hlast⟩ : c.parameter = parameter ∧ c.occurrence.isLast = false := by
      simpa using hnumbered
    obtain ⟨_, hentry⟩ := p.exists_of_mem_entries_matchSegments segments hsource
    obtain ⟨rfl, rfl⟩ := Prod.mk.inj hentry
    rw [Match.sharedSlot_of_numbered hlast] at hvalue hsource
    obtain ⟨hv, haccepts⟩ := Capture.mem_candidates_of_fromSegments hvalue
    refine ⟨hparameter ▸ hv, _, hsource, hparameter, hlast, ?_, haccepts⟩
    exact congrArg (fun value => (⟨value, false⟩ : Slot)) hvalue
  · cases hvalue

end

/-- The value that a match of a key holds for a part is one that the part accepts,
unless it is a copy. A copy stands in a part that is bound to the last occurrence,
which does not accept it; it is the value of the only numbered part of the parameter
that has one, and that part accepts it. -/
theorem accepts_iff_not_copied {K : Type} (p : Pattern) (d : Decomposition K) (key : K)
    (entry : Capture Occurrence × Slot) (hentry : entry ∈ (p.matchKey d key []).entries) (v : Text)
    (hv : entry.2.value = some v) :
    (entry.1.accepts v = true ↔ entry.2.copied = false) ∧
      (entry.2.copied = true → entry.1.occurrence.isLast = true ∧
        (p.matchKey d key []).numberedValues entry.1.parameter = [v] ∧
        ∃ source ∈ (p.matchKey d key []).entries, source.1.parameter = entry.1.parameter ∧
          source.1.occurrence.isLast = false ∧ source.2 = ⟨some v, false⟩ ∧
          source.1.accepts v = true) := by
  obtain ⟨c, rfl⟩ := p.exists_of_mem_entries_matchSegments (d.segments key) hentry
  dsimp only at hv ⊢
  cases hcopied :
      ((p.unshared (d.segments key)).sharedSlot c (c.taken (d.segments key))).copied with
  | false =>
      refine ⟨iff_of_true ?_ rfl, nofun⟩
      rw [Match.sharedSlot_eq_of_not_copied hcopied] at hv
      exact (Capture.mem_candidates_of_fromSegments hv).2
  | true =>
      obtain ⟨hlast, hnone, w, hnumbered, hslot⟩ := Match.exists_of_copied rfl hcopied
      obtain rfl : w = v := by simpa [hslot] using hv
      have hshared : (p.matchKey d key []).numberedValues c.parameter = [w] :=
        (Match.numberedValues_share p _ c.parameter).trans hnumbered
      obtain ⟨hcandidate, hsource⟩ := p.exists_of_mem_numberedValues (d.segments key)
        (show w ∈ _ from hshared ▸ List.mem_singleton_self w)
      have hrejects := Capture.not_accepts_of_fromSegments_eq_none hlast hnone hcandidate
      exact ⟨iff_of_false (by simp [hrejects]) nofun, fun _ => ⟨hlast, hshared, hsource⟩⟩

/-- A part that accepts only one letter, and one that is bound to the last
occurrence and accepts only another. -/
def rejectedCopyTemplate : Text := "\x7bSection_0<A>\x7d\x7bSection_n<B>\x7d"

/-- The value of the first part is its own, and the copy of it is not accepted. -/
theorem accepts_iff_not_copied_sections :
    ∃ (p : Pattern) (first last : Capture Occurrence),
      Pattern.compile defaultRegistry rejectedCopyTemplate = .ok p ∧
      (first, ⟨some "A", false⟩) ∈ (p.matchKey .ofChains (sectionKey ["A"]) []).entries ∧
      (last, ⟨some "A", true⟩) ∈ (p.matchKey .ofChains (sectionKey ["A"]) []).entries ∧
      first.accepts "A" = true ∧ last.accepts "A" ≠ true := by
  obtain ⟨p, hp, hproperty⟩ := exists_of_compile_any defaultRegistry rejectedCopyTemplate
    (fun p => decide ((p.matchKey .ofChains (sectionKey ["A"]) []).slots =
      [⟨some "A", false⟩, ⟨some "A", true⟩] ∧ p.captures.length = 2))
    (by decide +kernel)
  obtain ⟨hslots, hlength⟩ := of_decide_eq_true hproperty
  obtain ⟨first, last, hcaptures⟩ := List.length_eq_two.mp hlength
  have hentries : (p.matchKey .ofChains (sectionKey ["A"]) []).entries =
      [(first, ⟨some "A", false⟩), (last, ⟨some "A", true⟩)] := by
    rw [Match.entries, hslots]
    change p.captures.zip _ = _
    rw [hcaptures]
    rfl
  refine ⟨p, first, last, hp, by simp [hentries], by simp [hentries], ?_, ?_⟩
  · exact (accepts_iff_not_copied p .ofChains (sectionKey ["A"]) (first, ⟨some "A", false⟩)
      (by simp [hentries]) "A" rfl).1.mpr rfl
  · exact fun h => nomatch (accepts_iff_not_copied p .ofChains (sectionKey ["A"])
      (last, ⟨some "A", true⟩) (by simp [hentries]) "A" rfl).1.mp h

/-- A value that was copied is held by a part that does not accept it. -/
theorem not_accepts_matchKey :
    ¬ ∀ (template : Text) (p : Pattern), Pattern.compile defaultRegistry template = .ok p →
      ∀ (key : Chain), ∀ entry ∈ (p.matchKey .ofChains key []).entries, ∀ v,
        entry.2.value = some v → entry.1.accepts v = true := by
  intro hclaim
  obtain ⟨p, hp, hproperty⟩ := exists_of_compile_any defaultRegistry rejectedCopyTemplate
    (fun p => (p.matchKey .ofChains (sectionKey ["A"]) []).entries.any fun entry =>
      entry.2.value.any fun v => !entry.1.accepts v)
    (by decide +kernel)
  obtain ⟨entry, hentry, hvalue⟩ := List.any_eq_true.mp hproperty
  obtain ⟨v, hv, hrejects⟩ := (Option.any_eq_true _ _).mp hvalue
  simp [hclaim _ p hp (sectionKey ["A"]) entry hentry v hv] at hrejects

end Pattern

end KeyNaming
