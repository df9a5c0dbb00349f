import KeyNaming.Proofs.Pattern.KeyIdentity
import KeyNaming.Proofs.Pattern.Layout
import KeyNaming.Proofs.Pattern.Rebinding
import KeyNaming.Proofs.Template.Assignment

/-!
Three ways to ask a key for the value of a parameter.

A chain gives the value of the segment of a name that is closest to its head. A
comparer goes through the segments from the head and keeps the first value of
each non-canonical name; a pattern lists the values of a parameter from the root
and takes the last one for a part that stands alone. In a chain all of whose
segments have values, the three find the same segment.
-/

namespace KeyNaming

/-! ## Chains and comparers -/

/-- Where all segments have values, the closest segment of a name has the first
of its values. -/
theorem Chain.get_eq_head?_valuesOf {key : Chain} (hvalues : ∀ s ∈ key.segments, s.value ≠ none)
    (name : Text) : key.get name none = (valuesOf key.segments name.lower).head? := by
  rw [get, valuesOf]
  generalize key.segments = segments at hvalues
  induction segments with
  | nil => rfl
  | cons s rest ih =>
      obtain ⟨hs, hrest⟩ := List.forall_mem_cons.mp hvalues
      obtain ⟨v, hv⟩ := Option.ne_none_iff_exists'.mp hs
      by_cases hname : s.name.lower = name.lower
      · have hvalue : Segment.valueFor? name.lower s = some v := by
          rw [Segment.valueFor?, if_pos (beq_iff_eq.mpr hname), hv]
        rw [List.find?_cons_of_pos (by simpa using hname), List.filterMap_cons_some hvalue]
        exact hv
      · have hvalue : Segment.valueFor? name.lower s = none := by
          rw [Segment.valueFor?, if_neg (by simpa using hname)]
        rw [List.find?_cons_of_neg (by simpa using hname), List.filterMap_cons_none hvalue]
        exact ih hrest

/-- The entry that a comparer makes for a non-canonical name is the value that
the chain gives, unless that is empty. -/
theorem Comparer.mem_nonCanonical_iff_get {r : Registry} {key : Chain}
    (hvalues : ∀ s ∈ key.segments, s.value ≠ none)
    (hclass : ∀ s ∈ key.segments, s.classification = r.classify (some s.name)) {name : Text}
    (hname : r.classify (some name) = .nonCanonical) (v : Text) :
    (name.lower, v) ∈ ({} : Comparer).nonCanonical key.segments ↔
      key.get name none = some v ∧ v ≠ [] := by
  have hclassified : ∀ s ∈ key.segments, s.name.lower = name.lower →
      s.classification = .nonCanonical := by
    intro s hs hsame
    rw [hclass s hs, r.classify_eq_of_lower _ _ hsame, hname]
  rw [← Entries.lookup_eq_some_iff_mem (nodup_keys_nonCanonical _ _),
    lookup_nonCanonical_of_classified _ _ hclassified, ← Chain.get_eq_head?_valuesOf hvalues,
    Option.filter_eq_some_iff]
  simp

/-! ## Parts that stand alone -/

/-- An element that alone has its image is the one with that image. -/
theorem eq_of_count_map_eq_one {A B : Type} [BEq B] [LawfulBEq B] {f : A → B} {l : List A}
    {a b : A} (h : (l.map f).count (f a) = 1) (ha : a ∈ l) (hb : b ∈ l) (hsame : f b = f a) :
    b = a := by
  obtain ⟨before, after, rfl⟩ := List.append_of_mem ha
  rw [List.map_append, List.map_cons, List.count_append, List.count_cons_self] at h
  have hbefore : f a ∉ before.map f := List.count_eq_zero.mp (by omega)
  have hafter : f a ∉ after.map f := List.count_eq_zero.mp (by omega)
  rcases List.mem_append.mp hb with hb | hb
  · exact absurd (hsame ▸ List.mem_map_of_mem hb) hbefore
  · rcases List.mem_cons.mp hb with rfl | hb
    · rfl
    · exact absurd (hsame ▸ List.mem_map_of_mem hb) hafter

namespace Template

/-- A part whose parameter no other part has is assigned as it was read, or to
the last occurrence. -/
theorem eq_of_sole {drafts : List Draft} {e : Capture (Option Occurrence) × Capture Occurrence}
    (he : e ∈ assignedPairs drafts)
    (hsole : ((captureParts drafts).map Capture.parameter).count e.1.parameter = 1) :
    e.2 = { e.1 with identifier := e.1.identifier, occurrence := e.1.occurrence.getD .last } := by
  refine eq_of_mem_pairsFrom he fun hnone => ?_
  have hle := (bareParameters_sublist drafts).count_le e.1.parameter
  have hmem : e.1.parameter ∈ drafts.filterMap bareParameter? := by
    have hdraft := (mem_captureParts drafts e.1).mp (List.of_mem_zip he).1
    exact List.mem_filterMap.mpr ⟨.capture e.1, hdraft, by simp [bareParameter?, hnone]⟩
  have hpos := List.count_pos_iff.mpr hmem
  omega

end Template

namespace Pattern

open Template

variable {r : Registry} {template : Text} {p : Pattern} {c : Capture Occurrence}

/-- A bare part whose parameter no other part has is bound to the last
occurrence. -/
theorem last_of_sole (hp : Pattern.compile r template = .ok p) (hc : c ∈ p.captures)
    (hbare : c.IsBare) (hsole : (p.captures.map Capture.parameter).count c.parameter = 1) :
    c.occurrence = .last := by
  obtain ⟨drafts, draft, hread, hcaptures, he⟩ := exists_assignedPair hp hc
  have hparameter := parameter_of_mem_assignedPairs he
  rw [hcaptures, assign, parameters_assignFrom, hparameter] at hsole
  have hkept := eq_of_sole he hsole
  have hdraft : draft.IsBare := by
    have hidentifier : c.identifier = draft.identifier := congrArg Capture.identifier hkept
    rwa [Capture.IsBare, hidentifier] at hbare
  have hnone := (isRead_of_mem_assignedPairs hread he).occurrence_eq_none_iff.mpr hdraft
  calc c.occurrence = draft.occurrence.getD .last := congrArg Capture.occurrence hkept
    _ = .last := congrArg (·.getD .last) hnone

/-- A part of any value that is bound to the last occurrence takes the value
that the chain gives. -/
theorem fromSegments_eq_get (hp : Pattern.compile r template = .ok p) (hc : c ∈ p.captures)
    (hlast : c.occurrence = .last) (hany : c.parameter ≠ anySection)
    (hunlimited : c.regex.source = anyValueSource) {key : Chain}
    (hvalues : ∀ s ∈ key.segments, s.value ≠ none) :
    c.fromSegments key.segments = key.get c.parameter none := by
  have haccepts : c.accepts = fun _ => true := by
    funext v
    rw [Capture.accepts, hunlimited, beq_self_eq_true, Bool.true_or]
  rw [fromSegments_of_last c _ hlast hany, haccepts, Chain.get_eq_head?_valuesOf hvalues,
    lower_parameter hp hc]
  cases valuesOf key.segments c.parameter <;> rfl

/-- A part all parts of whose parameter are bound to the last occurrence has in a
match what it takes from the key. -/
theorem get?_matchKey {K : Type} (hp : Pattern.compile r template = .ok p) (hc : c ∈ p.captures)
    (hlast : ∀ other ∈ p.captures, other.parameter = c.parameter → other.occurrence = .last)
    (d : Decomposition K) (key : K) :
    (p.matchKey d key []).get? c.identifier = some (c.fromSegments (d.segments key)) := by
  obtain ⟨i, hi⟩ := List.mem_iff_getElem?.mp hc
  have hindex : p.captureIndex? c.identifier = some i :=
    (captureIndex?_eq_some_iff (nodup_identifiers hp) _ _).mpr ⟨c, hi, rfl⟩
  have hslot := Match.sharedSlot_eq_self p
    (fun c => { value := c.fromSegments (d.segments key) }) (c := c)
    fun _ _ other hother hsame hnumbered => by
      rw [hlast other hother hsame] at hnumbered
      cases hnumbered
  have hvalue : (p.matchKey d key []).values[i]? = some (c.fromSegments (d.segments key)) := by
    rw [Match.values, matchKey, matchSegments, Match.share, Match.entries_map, List.map_map,
      List.map_map, List.getElem?_map, hi]
    exact congrArg (fun slot : Slot => some slot.value) hslot
  rw [Match.get?, show (p.matchKey d key []).pattern = p from rfl, hindex]
  exact hvalue

/-- In a chain all of whose segments have values and are classified by one registry, a
comparer that leaves out nothing has an entry for a non-canonical name just if the
chain gives it a value that is not empty, and it is this value. And a part without a
suffix, of a parameter that no other part has and without a limit to its values, has
in a match of the chain what the chain gives for the parameter. -/
theorem lookups_agree (r : Registry) (key : Chain) (hvalues : ∀ s ∈ key.segments, s.value ≠ none)
    (hclass : ∀ s ∈ key.segments, s.classification = r.classify (some s.name)) :
    (∀ name, r.classify (some name) = .nonCanonical →
      ∀ v, (name.lower, v) ∈ ({} : Comparer).nonCanonical key.segments ↔
        key.get name none = some v ∧ v ≠ []) ∧
    ∀ (registry : Registry) (template : Text) (p : Pattern),
      Pattern.compile registry template = .ok p →
      ∀ c ∈ p.captures, c.IsBare → c.parameter ≠ anySection →
        (p.captures.map Capture.parameter).count c.parameter = 1 →
        c.regex.source = anyValueSource →
        (p.matchKey .ofChains key []).get? c.identifier = some (key.get c.parameter none) := by
  refine ⟨fun name hname => Comparer.mem_nonCanonical_iff_get hvalues hclass hname, ?_⟩
  intro registry template p hp c hc hbare hany hsole hunlimited
  have hlast := last_of_sole hp hc hbare hsole
  have hsame : ∀ other ∈ p.captures, other.parameter = c.parameter → other.occurrence = .last :=
    fun other hother hparameter =>
      eq_of_count_map_eq_one hsole hc hother hparameter ▸ hlast
  rw [get?_matchKey hp hc hsame]
  exact congrArg some (fromSegments_eq_get hp hc hlast hany hunlimited hvalues)

/-- A chain with a culture and a section that stand twice, in different case, and
a structural node between them. -/
def repeatedKey : Chain :=
  Chain.root.appendPairs defaultRegistry [(some "culture", some "en"), (some "Section", some "A"),
    (none, none), (some "section", some "B"), (some "key", some []), (some "CULTURE", some "fi")]

theorem lookups_agree_repeatedKey :
    (∀ v, (Text.lower "Culture", v) ∈ ({} : Comparer).nonCanonical repeatedKey.segments ↔
        repeatedKey.get "Culture" none = some v ∧ v ≠ []) ∧
      repeatedKey.get "Culture" none = some "fi" ∧
      ∃ p, Pattern.compile defaultRegistry "\x7bSection/\x7d[Key]" = .ok p ∧
        (p.matchKey .ofChains repeatedKey []).get? "Section" =
          some (repeatedKey.get "section" none) := by
  obtain ⟨hentries, hparts⟩ :=
    lookups_agree defaultRegistry repeatedKey (by decide) (by decide +kernel)
  obtain ⟨p, hp, hproperty⟩ := exists_of_compile_any defaultRegistry "\x7bSection/\x7d[Key]"
    (fun p => p.captures[0]?.any fun c : Capture Occurrence => decide (c.IsBare ∧
      c.identifier = ("Section" : Text) ∧ c.parameter = ("section" : Text) ∧
      (p.captures.map Capture.parameter).count c.parameter = 1 ∧
      c.regex.source = anyValueSource)) (by decide +kernel)
  obtain ⟨c, hc, hdecided⟩ := (Option.any_eq_true _ _).mp hproperty
  obtain ⟨hbare, hidentifier, hparameter, hsole, hunlimited⟩ := of_decide_eq_true hdecided
  have hany : c.parameter ≠ anySection := hparameter ▸ by decide
  have hvalue := hparts _ _ p hp c (List.mem_of_getElem? hc) hbare hany hsole hunlimited
  rw [hidentifier, hparameter] at hvalue
  exact ⟨hentries "Culture" (by decide +kernel), by decide +kernel, p, hp, hvalue⟩

end Pattern

end KeyNaming
