import KeyNaming.Proofs.Key.Representation
import KeyNaming.Proofs.Pattern.Multiplicity

/-!
What a match of a key keeps when the key gets longer.

A new segment stands at the tail, so its value comes last among the values of
every parameter that it serves. A numbered part counts from the root, and so it
finds again what it had found; a part that had found nothing takes the new value
if that is the next one in number. Sharing writes to no numbered part.
-/

namespace KeyNaming

theorem Occurrence.exists_pinned {occurrence : Occurrence} (h : occurrence.isLast = false) :
    ∃ n, occurrence = .pinned n := by
  cases occurrence with
  | pinned n => exact ⟨n, rfl⟩
  | last => cases h

theorem Match.captures_of_entries {m : Match} {i : Nat} {c : Capture Occurrence} {slot : Slot}
    (h : m.entries[i]? = some (c, slot)) : m.pattern.captures[i]? = some c := by
  unfold entries at h
  rw [List.getElem?_zip_eq_some] at h
  exact h.1

theorem candidates_append (more segments : List Segment) (parameter : Text) :
    candidates (more ++ segments) parameter =
      candidates segments parameter ++ candidates more parameter := by
  unfold candidates
  rw [List.reverse_append, List.filterMap_append]

namespace Capture

variable {c : Capture Occurrence} {n : Nat}

/-- A part with a number looks among new values only if it found none. -/
theorem fromSegments_append (hpinned : c.occurrence = .pinned n) (more segments : List Segment) :
    c.fromSegments (more ++ segments) = (c.fromSegments segments).or
      ((candidates more c.parameter).filter c.accepts)[n -
        ((candidates segments c.parameter).filter c.accepts).length]? := by
  unfold fromSegments
  rw [hpinned, candidates_append, List.filter_append]
  simp only [Occurrence.select]
  rw [List.getElem?_append]
  split
  · next hlt => rw [List.getElem?_eq_getElem hlt, Option.some_or]
  · next hle => rw [List.getElem?_eq_none (Nat.not_lt.mp hle), Option.none_or]

/-- A part with a number takes the value of a new segment, if it accepts it, where
that comes next in number among the values that it accepts. -/
theorem fromSegments_cons_of_none (hpinned : c.occurrence = .pinned n) {segments : List Segment}
    (hnone : c.fromSegments segments = none) (s : Segment) :
    c.fromSegments (s :: segments) =
      if servesParameter c.parameter s.name.lower = true ∧
          n = ((candidates segments c.parameter).filter c.accepts).length then
        s.value.filter c.accepts
      else none := by
  have hle : ((candidates segments c.parameter).filter c.accepts).length ≤ n := by
    unfold fromSegments at hnone
    rw [hpinned] at hnone
    exact List.getElem?_eq_none_iff.mp hnone
  have hnew : (candidates [s] c.parameter).filter c.accepts =
      if servesParameter c.parameter s.name.lower = true then (s.value.filter c.accepts).toList
      else [] := by
    unfold candidates
    split
    · next hserves => cases hvalue : s.value <;> simp [hserves, hvalue, Option.toList_filter]
    · next hserves => simp [hserves]
  have happend := fromSegments_append hpinned [s] segments
  rw [List.singleton_append, hnone, Option.none_or, hnew] at happend
  rw [happend]
  by_cases hserves : servesParameter c.parameter s.name.lower = true
  · by_cases heq : n = ((candidates segments c.parameter).filter c.accepts).length
    · rw [if_pos hserves, if_pos ⟨hserves, heq⟩, heq, Nat.sub_self]
      cases s.value.filter c.accepts <;> rfl
    · rw [if_pos hserves, if_neg fun h => heq h.2]
      apply List.getElem?_eq_none
      have hlength := Option.length_toList_le (o := s.value.filter c.accepts)
      omega
  · rw [if_neg hserves, if_neg fun h => hserves h.1]
    rfl

end Capture

namespace Pattern

variable (p : Pattern)

/-- A numbered part has the known value, or else the one that it takes from the
segments. -/
theorem entries_matchSegments_of_numbered (segments : List Segment) (known : Prefilled) {i : Nat}
    {c : Capture Occurrence} (hc : p.captures[i]? = some c)
    (hnumbered : c.occurrence.isLast = false) :
    (p.matchSegments segments known).entries[i]? =
      some (c, ⟨(known.value? c.identifier).or (c.fromSegments segments), false⟩) := by
  rw [matchSegments, Match.entries_share, List.getElem?_map, hc, Option.map_some,
    Match.sharedSlot_of_numbered hnumbered]

variable {p} {key : Chain} {known : Prefilled} {i : Nat} {c : Capture Occurrence} {slot : Slot}

/-- One more node leaves a numbered part the value that it has. -/
theorem entries_matchKey_push
    (hentry : (p.matchKey .ofChains key known).entries[i]? = some (c, slot))
    (hnumbered : c.occurrence.isLast = false) {v : Text} (hv : slot.value = some v)
    (n : ChainNode) :
    (p.matchKey .ofChains (key.push n) known).entries[i]? = some (c, slot) := by
  obtain ⟨index, hpinned⟩ := Occurrence.exists_pinned hnumbered
  have hc : p.captures[i]? = some c := Match.captures_of_entries hentry
  have hbefore := p.entries_matchSegments_of_numbered key.segments known hc hnumbered
  have hafter := p.entries_matchSegments_of_numbered (key.push n).segments known hc hnumbered
  obtain ⟨-, rfl⟩ := Prod.mk.inj (Option.some.inj (hentry.symm.trans hbefore))
  apply hafter.trans
  rw [Chain.segments_push, Capture.fromSegments_append hpinned, ← Option.or_assoc]
  dsimp only at hv
  rw [hv, Option.some_or]

/-- Any number of nodes more leave a numbered part the value that it has. -/
theorem entries_matchKey_foldl_push
    (hentry : (p.matchKey .ofChains key known).entries[i]? = some (c, slot))
    (hnumbered : c.occurrence.isLast = false) {v : Text} (hv : slot.value = some v)
    (nodes : List ChainNode) :
    (p.matchKey .ofChains (nodes.foldl Chain.push key) known).entries[i]? = some (c, slot) := by
  induction nodes generalizing key with
  | nil => exact hentry
  | cons n nodes ih => exact ih (entries_matchKey_push hentry hnumbered hv n)

/-- A numbered part that has a value has the same one when segments are added to the
key, whatever their names are. One that has no value takes that of an added segment
exactly if the segment serves its parameter, the part accepts the value, and as many
other values that it accepts come before as its number says. -/
theorem entries_matchKey_append
    (hentry : (p.matchKey .ofChains key known).entries[i]? = some (c, slot))
    (hnumbered : c.occurrence.isLast = false) :
    (∀ v, slot.value = some v →
      (∀ name value classification,
        (p.matchKey .ofChains (key.append name value classification) known).entries[i]? =
          some (c, slot)) ∧
      ∀ nodes : List ChainNode,
        (p.matchKey .ofChains (nodes.foldl Chain.push key) known).entries[i]? = some (c, slot)) ∧
    (slot.value = none → ∀ name value classification,
      (p.matchKey .ofChains (key.append name value classification) known).entries[i]? =
        some (c, ⟨if servesParameter c.parameter name.lower = true ∧ c.occurrence.index =
            ((candidates key.segments c.parameter).filter c.accepts).length then
          value.filter c.accepts else none, false⟩)) := by
  constructor
  · intro v hv
    constructor
    · intro name value classification
      exact entries_matchKey_push hentry hnumbered hv (.ofSegment ⟨name, value, classification⟩)
    · exact entries_matchKey_foldl_push hentry hnumbered hv
  · intro hnone name value classification
    obtain ⟨n, hpinned⟩ := Occurrence.exists_pinned hnumbered
    have hc : p.captures[i]? = some c := Match.captures_of_entries hentry
    have hbefore := p.entries_matchSegments_of_numbered key.segments known hc hnumbered
    have hafter := p.entries_matchSegments_of_numbered
      (⟨name, value, classification⟩ :: key.segments) known hc hnumbered
    obtain ⟨-, rfl⟩ := Prod.mk.inj (Option.some.inj (hentry.symm.trans hbefore))
    obtain ⟨hknown, hnone⟩ := Option.or_eq_none_iff.mp hnone
    rw [hknown, Option.none_or, Capture.fromSegments_cons_of_none hpinned hnone] at hafter
    rw [hpinned]
    exact hafter

/-- The template of a part that takes the second of all section-like values. -/
def secondSectionTemplate : Text := "\x7bAnySection_1.\x7d\x7bKey\x7d"

/-- The second section stays the second one when a type is added. -/
theorem entries_matchKey_append_type :
    ∃ p c, Pattern.compile defaultRegistry secondSectionTemplate = .ok p ∧
      (p.matchKey .ofChains (sectionKey ["A", "B"]) []).entries[0]? =
        some (c, ⟨some "B", false⟩) ∧
      (p.matchKey .ofChains ((sectionKey ["A", "B"]).append "Type" (some "C") .canonical)
        []).entries[0]? = some (c, ⟨some "B", false⟩) ∧
      (p.matchKey .ofChains (sectionKey ["A"]) []).entries[0]? = some (c, ⟨none, false⟩) ∧
      (p.matchKey .ofChains ((sectionKey ["A"]).append "Type" (some "C") .canonical)
        []).entries[0]? = some (c, ⟨some "C", false⟩) := by
  obtain ⟨p, hp, hproperty⟩ := exists_of_compile_any defaultRegistry secondSectionTemplate
    (fun p => p.captures[0]?.any fun c : Capture Occurrence => decide (c.occurrence = .pinned 1 ∧
      c.parameter = anySection ∧ c.accepts "C" = true ∧
      c.fromSegments (sectionKey ["A", "B"]).segments = some (Text.ofString "B") ∧
      c.fromSegments (sectionKey ["A"]).segments = none ∧
      ((candidates (sectionKey ["A"]).segments c.parameter).filter c.accepts).length = 1))
    (by decide +kernel)
  obtain ⟨c, hc, hdecided⟩ := (Option.any_eq_true _ _).mp hproperty
  obtain ⟨hpinned, hparameter, haccepts, htwo, hone, hcount⟩ := of_decide_eq_true hdecided
  have hnumbered : c.occurrence.isLast = false := by rw [hpinned]; rfl
  have hfound : (p.matchKey .ofChains (sectionKey ["A", "B"]) []).entries[0]? =
      some (c, ⟨some "B", false⟩) := by
    rw [← htwo]
    exact p.entries_matchSegments_of_numbered _ [] hc hnumbered
  have hmissing : (p.matchKey .ofChains (sectionKey ["A"]) []).entries[0]? =
      some (c, ⟨none, false⟩) := by
    rw [← hone]
    exact p.entries_matchSegments_of_numbered _ [] hc hnumbered
  have hkept := ((entries_matchKey_append hfound hnumbered).1 "B" rfl).1 "Type" (some "C") .canonical
  have htaken := (entries_matchKey_append hmissing hnumbered).2 rfl "Type" (some "C") .canonical
  have hserves : servesParameter c.parameter (Text.lower "Type") = true := by
    rw [hparameter]
    decide +kernel
  have hindex : c.occurrence.index = 1 := by rw [hpinned]; rfl
  rw [if_pos ⟨hserves, hindex.trans hcount.symm⟩, Option.filter_some, if_pos haccepts] at htaken
  exact ⟨p, c, hp, hfound, hkept, hmissing, htaken⟩

end Pattern

end KeyNaming
