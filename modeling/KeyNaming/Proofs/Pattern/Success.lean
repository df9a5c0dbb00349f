import KeyNaming.Failure
import KeyNaming.Proofs.Pattern.Sharing
import KeyNaming.Proofs.Pattern.Writing

/-!
When a match is a success, and what depends on it.

A match is a success if every required part has a value, be it an empty one. A
name is built only from values that are not empty, so a success of which no
required part holds the empty text is what a name is built from. Captured
texts are never empty; a segment of a key and a value known beforehand may be.

A name that does not match leaves every part without a value. That is a
failure only if some part is required.
-/

namespace KeyNaming

/-! ## Names that are built -/

namespace Match

/-- A match holds one slot for each capture. -/
def IsFull (m : Match) : Prop := m.slots.length = m.pattern.captures.length

theorem isFull_map (p : Pattern) (slot : Capture Occurrence → Slot) :
    IsFull ⟨p, p.captures.map slot⟩ := List.length_map _

theorem isFull_share {m : Match} (h : m.IsFull) : m.share.IsFull := by
  rw [IsFull, share, List.length_map, entries, List.length_zip, h, Nat.min_self]

theorem zip_values (m : Match) :
    m.pattern.captures.zip m.values = m.entries.map fun entry => (entry.1, entry.2.value) := by
  rw [values, List.zip_map_right]
  rfl

theorem isSome_build_iff {m : Match} (h : m.IsFull) :
    (m.pattern.build m.values).isSome = true ↔
      m.success = true ∧
        ∀ entry ∈ m.entries, entry.1.required = true → entry.2.value ≠ some [] := by
  have hlength : m.values.length = m.pattern.captures.length := by rw [values, List.length_map, h]
  have hbuild : m.pattern.build m.values = nameOf m.pattern.parts m.values := by
    rw [Pattern.build, if_neg (by omega)]
  have hsuccess : m.success = true ↔
      ∀ entry ∈ m.entries, entry.1.required = true → entry.2.value.isSome = true := by
    simp [success, Decidable.imp_iff_not_or]
  have hcaptures := isSome_nameOf_iff m.pattern.parts m.values (Nat.le_of_eq hlength.symm)
  rw [← Pattern.captures, zip_values, List.forall_mem_map] at hcaptures
  rw [hbuild, hcaptures, hsuccess]
  constructor
  · intro h
    exact ⟨fun entry he hr => (h entry he hr).1, fun entry he hr => (h entry he hr).2⟩
  · rintro ⟨hsome, hne⟩ entry he hr
    exact ⟨hsome entry he hr, hne entry he hr⟩

/-- Sharing makes no value that was not there. -/
theorem exists_of_value_sharedSlot {m : Match} {c : Capture Occurrence} {slot : Slot} {v : Text}
    (h : (m.sharedSlot c slot).value = some v) :
    slot.value = some v ∨ ∃ entry ∈ m.entries, entry.2.value = some v := by
  rw [sharedSlot] at h
  split at h
  · split at h
    · next value hnumbered =>
      have hmem : v ∈ m.numberedValues c.parameter := by
        rw [hnumbered, ← Option.some.inj h]
        exact List.mem_singleton_self _
      obtain ⟨⟨other, taken⟩, hentry, hv⟩ := List.mem_filterMap.mp hmem
      dsimp only at hv
      split at hv
      · exact .inr ⟨(other, taken), hentry, hv⟩
      · cases hv
    · exact .inl h
  · exact .inl h

end Match

namespace Pattern

/-- The matches that a pattern makes of keys and of names, with the values
that it was given to make them: those of the segments and those known
beforehand. -/
inductive Returns (p : Pattern) : List (Option Text) → Match → Prop
  | key {K : Type} (d : Decomposition K) (key : K) (known : Prefilled) :
    p.Returns ((d.segments key).map Segment.value ++ known.map Prod.snd) (p.matchKey d key known)
  | text {name : Text} {known : Prefilled} {m : Match} (h : p.matchText name known = .ok m) :
    p.Returns (known.map Prod.snd) m

theorem mem_of_value?_eq_some {known : Prefilled} {identifier v : Text}
    (h : known.value? identifier = some v) : (identifier, some v) ∈ known := by
  obtain ⟨before, after, heq, _⟩ := List.lookup_eq_some_iff.mp (Option.join_eq_some_iff.mp h)
  simp [heq]

theorem mem_of_fromSegments_eq_some {c : Capture Occurrence} {segments : List Segment} {v : Text}
    (h : c.fromSegments segments = some v) : some v ∈ segments.map Segment.value := by
  obtain ⟨hcandidate, _⟩ := Capture.mem_candidates_of_fromSegments h
  obtain ⟨s, hs, hv⟩ := List.mem_filterMap.mp hcandidate
  split at hv
  · exact List.mem_map.mpr ⟨s, List.mem_reverse.mp hs, hv⟩
  · cases hv

/-- A match is blank or shares what each capture took, which is empty only if
an empty value was given. -/
theorem Returns.blank_or_share {p : Pattern} {given : List (Option Text)} {m : Match}
    (h : p.Returns given m) :
    m = .blank p ∨ ∃ slot : Capture Occurrence → Slot, m = Match.share ⟨p, p.captures.map slot⟩ ∧
      ∀ c, (slot c).value = some [] → some [] ∈ given := by
  have hgroup (known : Prefilled) (regex : Regex) (name : Text) :
      p.matchWith known regex name = .blank p ∨ ∃ slot : Capture Occurrence → Slot,
        p.matchWith known regex name = Match.share ⟨p, p.captures.map slot⟩ ∧
          ∀ c, (slot c).value = some [] → some [] ∈ known.map Prod.snd := by
    rw [matchWith]
    cases regex.fullMatch? name with
    | none => exact .inl rfl
    | some found =>
        refine .inr ⟨_, rfl, fun c hc => ?_⟩
        rcases Option.or_eq_some_iff.mp hc with hknown | ⟨_, hcaptured⟩
        · exact List.mem_map_of_mem (mem_of_value?_eq_some hknown)
        · exact absurd hcaptured (nonEmpty_ne _)
  cases h with
  | key d key known =>
      refine .inr ⟨_, rfl, fun c hc => List.mem_append.mpr ?_⟩
      rcases Option.or_eq_some_iff.mp hc with hknown | ⟨_, hsegment⟩
      · exact .inr (List.mem_map_of_mem (mem_of_value?_eq_some hknown))
      · exact .inl (mem_of_fromSegments_eq_some hsegment)
  | @text name known _ htext =>
      rw [matchText] at htext
      split at htext
      · split at htext
        · obtain rfl := Except.ok.inj htext
          exact hgroup known _ name
        · exact .inl (Except.ok.inj htext).symm
        · cases htext
      · obtain rfl := Except.ok.inj htext
        exact hgroup known p.regex name

theorem Returns.isFull {p : Pattern} {given : List (Option Text)} {m : Match}
    (h : p.Returns given m) : m.pattern = p ∧ m.IsFull := by
  rcases h.blank_or_share with rfl | ⟨slot, rfl, _⟩
  · exact ⟨rfl, Match.isFull_map p _⟩
  · exact ⟨rfl, Match.isFull_share (Match.isFull_map p slot)⟩

/-- A value of a match is empty only if an empty one was given. -/
theorem Returns.mem_of_value_eq_nil {p : Pattern} {given : List (Option Text)} {m : Match}
    (h : p.Returns given m) {entry : Capture Occurrence × Slot} (hentry : entry ∈ m.entries)
    (hnil : entry.2.value = some []) : some [] ∈ given := by
  rcases h.blank_or_share with rfl | ⟨slot, rfl, hslot⟩
  · rw [Match.blank, Match.entries_map] at hentry
    obtain ⟨c, _, rfl⟩ := List.mem_map.mp hentry
    cases hnil
  · rw [Match.entries_share] at hentry
    obtain ⟨c, _, rfl⟩ := List.mem_map.mp hentry
    rcases Match.exists_of_value_sharedSlot hnil with hnil | ⟨other, hother, hnil⟩
    · exact hslot c hnil
    · rw [Match.entries_map] at hother
      obtain ⟨c', _, rfl⟩ := List.mem_map.mp hother
      exact hslot c' hnil

/-- A name is built from a match exactly if the match is a success and no required part
holds the empty text, which it can only if an empty value was given. -/
theorem isSome_build_iff_success (p : Pattern) (given : List (Option Text)) (m : Match)
    (h : p.Returns given m) :
    ((p.build m.values).isSome = true ↔ m.success = true ∧
        ∀ entry ∈ m.entries, entry.1.required = true → entry.2.value ≠ some []) ∧
      (some [] ∉ given → (m.success = true ↔ (p.build m.values).isSome = true)) := by
  obtain ⟨rfl, hfull⟩ := h.isFull
  have hbuild := Match.isSome_build_iff hfull
  refine ⟨hbuild, fun hgiven => ?_⟩
  rw [hbuild, iff_self_and]
  intro _ entry hentry _ hnil
  exact hgiven (h.mem_of_value_eq_nil hentry hnil)

/-- A key of two segments, and a pattern that requires both. -/
theorem isSome_build_iff_success_pair :
    ∃ p, Pattern.compile defaultRegistry "[Type.][Key]" = .ok p ∧
      (p.matchKey (.ofPairs defaultRegistry) [("type", some "Ui"), ("key", some "Ok")] []).success =
        true ∧
      (p.build (p.matchKey (.ofPairs defaultRegistry)
        [("type", some "Ui"), ("key", some "Ok")] []).values).isSome = true := by
  obtain ⟨p, hp, hsuccess⟩ := exists_of_compile_any defaultRegistry "[Type.][Key]"
    (fun p => (p.matchKey (.ofPairs defaultRegistry)
      [("type", some "Ui"), ("key", some "Ok")] []).success) (by decide +kernel)
  have hbuild := isSome_build_iff_success p _ _
    (.key (.ofPairs defaultRegistry) [("type", some "Ui"), ("key", some "Ok")] [])
  exact ⟨p, hp, hsuccess, (hbuild.2 (by decide +kernel)).mp hsuccess⟩

/-- Not every success builds a name: the value of a segment may be empty. -/
theorem not_isSome_build_of_empty_segment :
    ¬ ∀ (template : Text) (p : Pattern), Pattern.compile defaultRegistry template = .ok p →
      ∀ key : Pairs, (p.matchKey (.ofPairs defaultRegistry) key []).success = true ↔
        (p.build (p.matchKey (.ofPairs defaultRegistry) key []).values).isSome = true := by
  intro hclaim
  obtain ⟨p, hp, hproperty⟩ := exists_of_compile_any defaultRegistry "[Key]"
    (fun p => decide ((p.matchKey (.ofPairs defaultRegistry) [("key", some [])] []).success = true ∧
      p.build (p.matchKey (.ofPairs defaultRegistry) [("key", some [])] []).values = none))
    (by decide +kernel)
  obtain ⟨hsuccess, hnone⟩ := of_decide_eq_true hproperty
  have hbuild := (hclaim "[Key]" p hp [("key", some [])]).mp hsuccess
  rw [hnone] at hbuild
  cases hbuild

/-! ## Names that do not match -/

theorem success_blank (p : Pattern) :
    (Match.blank p).success = !p.captures.any Capture.required := by
  rw [Match.success, Match.blank, Match.entries_map, List.all_map, List.not_any_eq_all_not]
  simp [Function.comp_def]

theorem toKey_blank (p : Pattern) (r : Registry) (root : Chain) :
    (Match.blank p).toKey r root = root := by
  have hparameters : (Match.blank p).parameters = [] := by
    rw [Match.parameters, Match.blank, Match.entries_map, List.filterMap_map]
    exact List.filterMap_eq_nil_iff.mpr fun c _ => rfl
  rw [Match.toKey, hparameters]
  rfl

/-- A name that the expression does not match is refused, and read as no key, if some
part of the pattern is required. Otherwise it is read as the chain that its values
would have been added to. -/
theorem parse_of_fullMatch?_eq_none (p : Pattern) (name : Text) (root : Chain) (r : Registry)
    (h : p.regex.fullMatch? name = none) :
    (p.parse name root r =
        if p.captures.any Capture.required then .error (.noMatch name p.template) else .ok root) ∧
      p.parse? name root r = if p.captures.any Capture.required then none else some root := by
  have hblank : p.matchWith [] p.regex name = .blank p := by rw [matchWith, h]
  have hparse? : p.parse? name root r =
      if p.captures.any Capture.required then none else some root := by
    rw [parse?, hblank, success_blank, toKey_blank]
    cases p.captures.any Capture.required <;> rfl
  refine ⟨?_, hparse?⟩
  rw [parse, hparse?]
  cases p.captures.any Capture.required <;> rfl

theorem parse_of_fullMatch?_eq_none_required :
    ∃ p, Pattern.compile defaultRegistry "\x7bCulture.\x7d[Key].json" = .ok p ∧
      p.regex.fullMatch? "en.x.ini" = none ∧
      p.parse "en.x.ini" .root p.registry = .error (.noMatch "en.x.ini" p.template) ∧
      p.parse? "en.x.ini" .root p.registry = none := by
  obtain ⟨p, hp, hproperty⟩ := exists_of_compile_any defaultRegistry
    "\x7bCulture.\x7d[Key].json"
    (fun p => (p.regex.fullMatch? "en.x.ini").isNone && p.captures.any Capture.required)
    (by decide +kernel)
  obtain ⟨hnone, hrequired⟩ := Bool.and_eq_true_iff.mp hproperty
  have hnone := Option.isNone_iff_eq_none.mp hnone
  have hparse := parse_of_fullMatch?_eq_none p "en.x.ini" .root p.registry hnone
  rw [if_pos hrequired, if_pos hrequired] at hparse
  exact ⟨p, hp, hnone, hparse⟩

/-- Where no part is required, a name that does not match is read all the same. -/
theorem not_parse_refuses_unmatched :
    ¬ ∀ (template : Text) (p : Pattern), Pattern.compile defaultRegistry template = .ok p →
      ∀ name, p.regex.fullMatch? name = none →
        p.parse name .root p.registry = .error (.noMatch name p.template) ∧
          p.parse? name .root p.registry = none := by
  intro hclaim
  obtain ⟨p, hp, hproperty⟩ := exists_of_compile_any defaultRegistry "\x7bKey\x7d.json"
    (fun p => (p.regex.fullMatch? "x.ini").isNone && (p.parse? "x.ini" .root p.registry).isSome)
    (by decide +kernel)
  obtain ⟨hnone, hsome⟩ := Bool.and_eq_true_iff.mp hproperty
  have hrefused := (hclaim _ p hp "x.ini" (Option.isNone_iff_eq_none.mp hnone)).2
  rw [hrefused] at hsome
  cases hsome

end Pattern

end KeyNaming
