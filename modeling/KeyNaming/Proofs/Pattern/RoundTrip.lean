import KeyNaming.Failure
import KeyNaming.Proofs.Entries
import KeyNaming.Proofs.Pattern.KeyIdentity
import KeyNaming.Proofs.Pattern.Separated

/-!
From a key to its name and back.

If the parts of a pattern are told apart by the separators after them, and the
segments of a key fill the parts in order, then the name that the pattern
builds for the key is read as that key again. The names of its segments come
back in lower case, which the comparer does not see.
-/

namespace KeyNaming

/-- Whether a pattern consists of literals and of separated parts of different
parameters, whose regular expressions are those of the registry. -/
structure Pattern.IsSeparated (p : Pattern) : Prop where
  parts : AreSeparated p.parts
  bare : ∀ c ∈ p.captures, c.IsBare
  uninlined : ∀ c ∈ p.captures, c.regexSpan = none
  distinct : (p.captures.map Capture.parameter).Nodup
  named : ∀ c ∈ p.captures, c.parameter ≠ anySection

instance (p : Pattern) : Decidable p.IsSeparated :=
  decidable_of_iff (AreSeparated p.parts ∧ (∀ c ∈ p.captures, c.IsBare) ∧
      (∀ c ∈ p.captures, c.regexSpan = none) ∧ (p.captures.map Capture.parameter).Nodup ∧
      ∀ c ∈ p.captures, c.parameter ≠ anySection)
    ⟨fun ⟨parts, bare, uninlined, distinct, named⟩ => ⟨parts, bare, uninlined, distinct, named⟩,
      fun h => ⟨h.parts, h.bare, h.uninlined, h.distinct, h.named⟩⟩

/-- Whether segments, which come from the tail, fill parts of a pattern in
their order, every required one among them, with values that the parts accept
and that hold no separator and no line feed. -/
structure Pattern.IsFilledBy (p : Pattern) (segments : List Segment) : Prop where
  classified : ∀ s ∈ segments, s.classification = defaultRegistry.classify (some s.name)
  ordered : List.Sublist (segments.reverse.map fun s => s.name.lower)
    (p.captures.map Capture.parameter)
  required : ∀ c ∈ p.captures, c.required = true → ∃ s ∈ segments, s.name.lower = c.parameter
  present : ∀ s ∈ segments, s.value.isSome = true
  nonempty : ∀ s ∈ segments, ∀ v ∈ s.value, v ≠ []
  unbroken : ∀ s ∈ segments, ∀ v ∈ s.value, CodePoint.ofChar '\n' ∉ v
  apart : ∀ s ∈ segments, ∀ v ∈ s.value, ∀ separator ∈ separators p.parts, separator ∉ v
  accepted : ∀ s ∈ segments, ∀ v ∈ s.value, ∀ c ∈ p.captures, c.parameter = s.name.lower →
    c.accepts v = true

instance (p : Pattern) (segments : List Segment) : Decidable (p.IsFilledBy segments) :=
  decidable_of_iff
    ((∀ s ∈ segments, s.classification = defaultRegistry.classify (some s.name)) ∧
      List.Sublist (segments.reverse.map fun s => s.name.lower)
        (p.captures.map Capture.parameter) ∧
      (∀ c ∈ p.captures, c.required = true → ∃ s ∈ segments, s.name.lower = c.parameter) ∧
      (∀ s ∈ segments, s.value.isSome = true) ∧ (∀ s ∈ segments, ∀ v ∈ s.value, v ≠ []) ∧
      (∀ s ∈ segments, ∀ v ∈ s.value, CodePoint.ofChar '\n' ∉ v) ∧
      (∀ s ∈ segments, ∀ v ∈ s.value, ∀ separator ∈ separators p.parts, separator ∉ v) ∧
      ∀ s ∈ segments, ∀ v ∈ s.value, ∀ c ∈ p.captures, c.parameter = s.name.lower →
        c.accepts v = true)
    ⟨fun ⟨classified, ordered, required, present, nonempty, unbroken, apart, accepted⟩ =>
        ⟨classified, ordered, required, present, nonempty, unbroken, apart, accepted⟩,
      fun h => ⟨h.classified, h.ordered, h.required, h.present, h.nonempty, h.unbroken, h.apart,
        h.accepted⟩⟩

/-! ## Expressions of the registry -/

/-- The expressions that are always known look at nothing but characters. -/
theorem isRegularStripped_defaultRegex (parameter : Text) :
    (Template.defaultRegex defaultRegistry parameter).isRegularStripped = true :=
  Template.meets_defaultRegex (by decide +kernel) (by decide +kernel) parameter

/-! ## Values of the parts -/

/-- The first of the values of a name is that of the segment closest to the
tail. -/
theorem head?_valuesOf (segments : List Segment) (name : Text) :
    (valuesOf segments name).head? = segments.findSome? (Segment.valueFor? name) :=
  List.head?_filterMap

theorem exists_of_mem_valuesOf {segments : List Segment} {name v : Text}
    (h : v ∈ valuesOf segments name) :
    ∃ s ∈ segments, s.name.lower = name ∧ s.value = some v := by
  obtain ⟨s, hs, hv⟩ := List.mem_filterMap.mp h
  rw [Segment.valueFor?] at hv
  split at hv
  · next hname => exact ⟨s, hs, eq_of_beq hname, hv⟩
  · cases hv

/-- Names in the order of segments of different names find the values of
these segments. -/
theorem filterMap_findSome?_of_sublist {names : List Text} {segments : List Segment}
    (h : List.Sublist (segments.map fun s => s.name.lower) names) (hnames : names.Nodup) :
    names.filterMap (fun name =>
        (segments.findSome? (Segment.valueFor? name)).map fun v => (name, v)) =
      segments.filterMap fun s => s.value.map fun v => (s.name.lower, v) := by
  have habsent {name : Text} {segments : List Segment}
      (hname : name ∉ segments.map fun s => s.name.lower) :
      segments.findSome? (Segment.valueFor? name) = none := by
    rw [List.findSome?_eq_none_iff]
    intro s hs
    have hne : s.name.lower ≠ name := fun heq => hname (List.mem_map.mpr ⟨s, hs, heq⟩)
    simp [Segment.valueFor?, hne]
  induction names generalizing segments with
  | nil =>
      have hnil : segments = [] := by simpa using h
      rw [hnil]
      rfl
  | cons name names ih =>
      obtain ⟨hname, hnodup⟩ := List.nodup_cons.mp hnames
      rcases List.sublist_cons_iff.mp h with hskip | ⟨others, hsegments, htake⟩
      · rw [List.filterMap_cons_none, ih hskip hnodup]
        rw [habsent fun hmem => hname (hskip.subset hmem)]
        rfl
      · obtain ⟨s, rest, rfl, rfl, rfl⟩ := List.map_eq_cons_iff.mp hsegments
        have hhead : (s :: rest).findSome? (Segment.valueFor? s.name.lower) = s.value := by
          rw [List.findSome?_cons, habsent fun hmem => hname (htake.subset hmem)]
          simp only [Segment.valueFor?, beq_self_eq_true, if_true]
          cases s.value <;> rfl
        have hothers : ∀ other ∈ names, (s :: rest).findSome? (Segment.valueFor? other) =
            rest.findSome? (Segment.valueFor? other) := by
          intro other hother
          have hne : s.name.lower ≠ other := fun heq => hname (heq ▸ hother)
          simp [Segment.valueFor?, hne]
        have htail := ih htake hnodup
        rw [List.filterMap_cons, List.filterMap_cons, hhead, ← htail]
        rw [List.filterMap_congr fun other hother => by rw [hothers other hother]]

namespace Pattern

section

variable {template : Text} {p : Pattern}

theorem registry_of_compile {r : Registry} (hp : Pattern.compile r template = .ok p) :
    p.registry = r := by
  obtain ⟨_, _, _, hregistry, _⟩ := compile_ok hp
  exact hregistry

variable (hp : Pattern.compile defaultRegistry template = .ok p) (hseparated : p.IsSeparated)
include hp hseparated

theorem IsSeparated.isRegularStripped {c : Capture Occurrence} (hc : c ∈ p.captures) :
    c.regex.isRegularStripped = true := by
  rw [regex_of_uninlined hp hc (hseparated.uninlined c hc)]
  exact isRegularStripped_defaultRegex c.parameter

theorem IsSeparated.last {c : Capture Occurrence} (hc : c ∈ p.captures) : c.occurrence = .last :=
  last_of_isBare hp hseparated.distinct c hc (hseparated.bare c hc)

/-- The match of the segments is read from the name that it builds. -/
theorem IsSeparated.matchText_eq_matchSegments {segments : List Segment} {name : Text}
    (hname : Separates (fun c => c.fromSegments segments) p.parts name) :
    p.matchText name [] = .ok (p.matchSegments segments []) := by
  have hexpression : p.expression [] = .ok p.regex := rfl
  obtain ⟨nodes, hmeans, hflags, hnode⟩ :=
    exists_nodes_of_expression hp (isEmbeddable_of_default hp []) hexpression
  obtain ⟨q, hq, hvalues⟩ := captures_of_separates hname hmeans
    (fun _ hc => hseparated.isRegularStripped hp hc)
    (Regex.nodup_groups_anchored hnode) (.start name) (fun _ _ => rfl) rfl
  rw [← Regex.fullMatch?_anchored hflags hnode] at hq
  have hcaptured : p.captured [] p.regex q = p.matchSegments segments [] := by
    rw [captured, matchSegments]
    congr 2
    exact List.map_congr_left fun c hc => congrArg (fun value => Slot.mk value false) (hvalues c hc)
  rw [matchText_eq, hexpression]
  simp only [matchWith, hq, hcaptured]

variable {segments : List Segment} (hfilled : p.IsFilledBy segments)
include hfilled

/-- A part takes the only value of its parameter. -/
theorem IsFilledBy.fromSegments_eq {c : Capture Occurrence} (hc : c ∈ p.captures) :
    c.fromSegments segments = segments.findSome? (Segment.valueFor? c.parameter) := by
  rw [fromSegments_of_last c _ (hseparated.last hp hc) (hseparated.named c hc), ← head?_valuesOf]
  cases hvalues : valuesOf segments c.parameter with
  | nil => rfl
  | cons v others =>
      obtain ⟨s, hs, hname, hv⟩ := exists_of_mem_valuesOf (hvalues ▸ List.mem_cons_self)
      rw [List.find?_cons_of_pos (hfilled.accepted s hs v hv c hc hname.symm), List.head?_cons]

/-- What a part takes can be written before its separator. -/
theorem IsFilledBy.value {c : Capture Occurrence} (hc : c ∈ p.captures) {v : Text}
    (hv : c.fromSegments segments = some v) :
    v ≠ [] ∧ c.regex.toForm.Matches v ∧ ∀ s ∈ separators p.parts, s ∉ v := by
  have haccepts := (Capture.mem_candidates_of_fromSegments hv).2
  have hgiven := (Bool.and_eq_true_iff.mp (hseparated.isRegularStripped hp hc)).1
  rw [hfilled.fromSegments_eq hp hseparated hc, ← head?_valuesOf] at hv
  obtain ⟨s, hs, _, hvalue⟩ := exists_of_mem_valuesOf (List.mem_of_head? hv)
  exact ⟨hfilled.nonempty s hs v hvalue,
    matches_of_accepts hgiven haccepts fun _ => hfilled.unbroken s hs v hvalue,
    hfilled.apart s hs v hvalue⟩

theorem IsFilledBy.isSome {c : Capture Occurrence} (hc : c ∈ p.captures)
    (hrequired : c.required = true) : (c.fromSegments segments).isSome = true := by
  obtain ⟨s, hs, hname⟩ := hfilled.required c hc hrequired
  rw [hfilled.fromSegments_eq hp hseparated hc, List.findSome?_isSome_iff]
  refine ⟨s, hs, ?_⟩
  rw [Segment.valueFor?, hname, beq_self_eq_true, if_pos rfl]
  exact hfilled.present s hs

theorem IsFilledBy.exists_separates :
    ∃ name, Separates (fun c => c.fromSegments segments) p.parts name :=
  hseparated.parts.exists_separates (fun _ hc => hfilled.isSome hp hseparated hc)
    fun _ hc _ hv => hfilled.value hp hseparated hc hv

/-- The values of the parts are those of the segments. -/
theorem IsFilledBy.filterMap_fromSegments :
    (p.captures.filterMap fun c => (c.fromSegments segments).map fun v => (c.parameter, v)) =
      (segments.filterMap fun s => s.value.map fun v => (s.name.lower, v)).reverse := by
  have hsublist := hfilled.ordered.reverse
  rw [← List.map_reverse, List.reverse_reverse] at hsublist
  rw [← filterMap_findSome?_of_sublist hsublist (List.nodup_reverse.mpr hseparated.distinct),
    List.filterMap_reverse, List.reverse_reverse, List.filterMap_map]
  apply List.filterMap_congr
  intro c hc
  rw [hfilled.fromSegments_eq hp hseparated hc]
  rfl

theorem IsFilledBy.lower_lower {s : Segment} (hs : s ∈ segments) :
    s.name.lower.lower = s.name.lower := by
  have hmem : s.name.lower ∈ segments.reverse.map fun s => s.name.lower :=
    List.mem_map_of_mem (List.mem_reverse.mpr hs)
  obtain ⟨c, hc, hparameter⟩ := List.mem_map.mp (hfilled.ordered.subset hmem)
  rw [← hparameter]
  exact lower_parameter_of_isBare hp hseparated.distinct c hc (hseparated.bare c hc)

/-- The key of the match has the segments that it was taken from. -/
theorem IsFilledBy.segments_toKey :
    ((p.matchSegments segments []).toKey p.registry .root).segments =
      segments.map Segment.lowered := by
  have hparameters : (p.matchSegments segments []).parameters =
      p.captures.filterMap fun c => (c.fromSegments segments).map fun v => (c.parameter, v) := by
    rw [matchSegments, Match.share_of_last p _ fun _ hc => hseparated.last hp hc,
      Match.parameters, Match.entries_map, List.filterMap_map]
    apply List.filterMap_congr
    intro c hc
    have hreported : Match.reportedName c.parameter = c.parameter := by
      rw [Match.reportedName, if_neg (by simpa using hseparated.named c hc)]
    simp only [Function.comp_apply, hreported]
    rfl
  rw [registry_of_compile hp, Match.toKey, Chain.segments_appendPairs, hparameters,
    hfilled.filterMap_fromSegments hp hseparated, List.map_reverse, List.reverse_reverse]
  have hroot : Chain.root.segments = [] := rfl
  rw [hroot, List.append_nil, List.map_filterMap]
  rw [← List.filterMap_eq_map]
  apply List.filterMap_congr
  intro s hs
  obtain ⟨v, hv⟩ := Option.isSome_iff_exists.mp (hfilled.present s hs)
  have hclass := defaultRegistry.classify_eq_of_lower _ _ (hfilled.lower_lower hp hseparated hs)
  simp [Segment.lowered, hv, hfilled.classified s hs, hclass]

end

/-- A key that fills a separated pattern is read back from its name, by the default
registry. -/
theorem parse_nameOfKey {template : Text} {p : Pattern}
    (hp : Pattern.compile defaultRegistry template = .ok p) (hseparated : p.IsSeparated)
    {key : Chain} (hfilled : p.IsFilledBy key.segments) :
    (p.matchKey .ofChains key []).success = true ∧
      ∃ name, p.nameOfKey .ofChains key = some name ∧
        p.matchText name [] = .ok (p.matchKey .ofChains key []) ∧
        ∃ parsed, p.parse name .root p.registry = .ok parsed ∧
          ({} : Comparer).equal .ofChains (some parsed) (some key) = true := by
  have hlast : ∀ c ∈ p.captures, c.occurrence = .last := fun c hc => hseparated.last hp hc
  have hsuccess : (p.matchKey .ofChains key []).success = true := by
    rw [matchKey_of_last _ _ hlast, Match.success, Match.entries_map, List.all_map,
      List.all_eq_true]
    intro c hc
    cases hrequired : c.required with
    | false => simp [hrequired]
    | true =>
        have hsome : (c.fromSegments (Decomposition.ofChains.segments key)).isSome = true :=
          hfilled.isSome hp hseparated hc hrequired
        simpa [hrequired] using hsome
  obtain ⟨name, hname⟩ := hfilled.exists_separates hp hseparated
  have hmatch := hseparated.matchText_eq_matchSegments hp hname
  refine ⟨hsuccess, name, ?_, hmatch, (p.matchKey .ofChains key []).toKey p.registry .root, ?_, ?_⟩
  · rw [nameOfKey, values_matchKey_of_last _ _ hlast, build, List.length_map,
      if_neg (Nat.lt_irrefl _)]
    exact hname.nameOf_eq
  · have hfound : p.matchWith [] p.regex name = p.matchKey .ofChains key [] := Except.ok.inj hmatch
    rw [parse, parse?, hfound, hsuccess, if_pos rfl]
  · rw [Comparer.equal]
    have hsegments : (Decomposition.ofChains.segments
        ((p.matchKey .ofChains key []).toKey p.registry .root)) =
          key.segments.map Segment.lowered := hfilled.segments_toKey hp hseparated
    rw [hsegments]
    exact Comparer.segmentsEqual_map_lowered _ _ fun s hs => hfilled.lower_lower hp hseparated hs

/-- A key with a structural node and without the optional section. -/
def sampleKey : Chain :=
  Chain.root.appendPairs defaultRegistry [(some "CULTURE", some "en"), (none, none),
    (some "type", some "Ui"), (some "Key", some "O k")]

theorem parse_nameOfKey_structural :
    ∃ p, Pattern.compile defaultRegistry
        "\x7bCulture.\x7d[Type:]-\x7bSection\\\x7d\x7d[Key]" = .ok p ∧
      (p.matchKey .ofChains sampleKey []).success = true ∧
      ∃ name, p.nameOfKey .ofChains sampleKey = some name ∧
        p.matchText name [] = .ok (p.matchKey .ofChains sampleKey []) ∧
        ∃ parsed, p.parse name .root p.registry = .ok parsed ∧
          ({} : Comparer).equal .ofChains (some parsed) (some sampleKey) = true := by
  obtain ⟨p, hp, hproperty⟩ := exists_of_compile_any defaultRegistry
    "\x7bCulture.\x7d[Type:]-\x7bSection\\\x7d\x7d[Key]"
    (fun p => decide (p.IsSeparated ∧ p.IsFilledBy sampleKey.segments)) (by decide +kernel)
  obtain ⟨hseparated, hfilled⟩ := of_decide_eq_true hproperty
  exact ⟨p, hp, parse_nameOfKey hp hseparated hfilled⟩

end Pattern

end KeyNaming
