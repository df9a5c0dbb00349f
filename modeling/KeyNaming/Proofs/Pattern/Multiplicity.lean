import KeyNaming.Proofs.Pattern.Sharing
import KeyNaming.Proofs.Template.Drafts

/-!
How often a match of a key reports a parameter.

A part takes its value from one of the candidates for its parameter, at a place
that its occurrence and its expression determine. Copies are not reported, so a
match reports one value for each place that is taken, and more values than there
are segments only if one place is taken twice.
-/

namespace KeyNaming

/-- The captured parameters of one name. -/
def Match.reported (m : Match) (name : Text) : List (Text × Text) :=
  m.parameters.filter fun pair => pair.1 == name

/-- The segments of one name, regardless of case, that have a value. -/
def valuedSegments (segments : List Segment) (name : Text) : List Segment :=
  segments.filter fun s => s.name.lower == name && s.value.isSome

/-! ## Places of values -/

/-- Where an occurrence stands among a number of values. -/
def Occurrence.position (count : Nat) : Occurrence → Nat
  | pinned n => n
  | last => count - 1

theorem Occurrence.select_eq_getElem? (occurrence : Occurrence) (values : List Text) :
    occurrence.select values = values[occurrence.position values.length]? := by
  cases occurrence with
  | pinned n => rfl
  | last => exact List.getLast?_eq_getElem?

namespace Capture

variable (c : Capture Occurrence) (segments : List Segment)

/-- The candidates that a part accepts, with their places among all of them. -/
def acceptedAt : List (Text × Nat) :=
  (candidates segments c.parameter).zipIdx.filter fun entry => c.accepts entry.1

/-- The place among the candidates of the value that a part takes. -/
def place? : Option Nat :=
  ((c.acceptedAt segments)[c.occurrence.position (c.acceptedAt segments).length]?).map Prod.snd

theorem map_fst_acceptedAt :
    (c.acceptedAt segments).map Prod.fst =
      (candidates segments c.parameter).filter c.accepts := by
  have hfilter := List.filter_map (f := Prod.fst) (p := c.accepts)
    (l := (candidates segments c.parameter).zipIdx)
  rw [List.zipIdx_map_fst] at hfilter
  exact hfilter.symm

theorem nodup_acceptedAt : ((c.acceptedAt segments).map Prod.snd).Nodup := by
  refine List.Nodup.sublist (List.filter_sublist.map Prod.snd) ?_
  rw [List.zipIdx_map_snd]
  exact List.nodup_range'

theorem getElem?_of_mem_acceptedAt {entry : Text × Nat} (h : entry ∈ c.acceptedAt segments) :
    (candidates segments c.parameter)[entry.2]? = some entry.1 :=
  List.mem_zipIdx_iff_getElem?.mp (List.mem_filter.mp h).1

/-- What a part takes is the candidate at its place. -/
theorem fromSegments_eq :
    c.fromSegments segments =
      (c.place? segments).bind fun i => (candidates segments c.parameter)[i]? := by
  rw [fromSegments, Occurrence.select_eq_getElem?, ← map_fst_acceptedAt, List.length_map,
    List.getElem?_map, place?]
  cases hentry : (c.acceptedAt segments)[c.occurrence.position (c.acceptedAt segments).length]? with
  | none => rfl
  | some entry => exact (c.getElem?_of_mem_acceptedAt segments (List.mem_of_getElem? hentry)).symm

variable {c segments}

theorem place?_lt {i : Nat} (h : c.place? segments = some i) :
    i < (candidates segments c.parameter).length := by
  obtain ⟨entry, hentry, rfl⟩ := Option.map_eq_some_iff.mp h
  have hvalue := c.getElem?_of_mem_acceptedAt segments (List.mem_of_getElem? hentry)
  exact (List.getElem?_eq_some_iff.mp hvalue).1

/-- Parts of one expression that take one place look for it at one position. -/
theorem position_eq_of_place? {other : Capture Occurrence}
    (hparameter : c.parameter = other.parameter) (hregex : c.regex = other.regex) {i : Nat}
    (h : c.place? segments = some i) (hother : other.place? segments = some i) :
    c.occurrence.position (c.acceptedAt segments).length =
      other.occurrence.position (other.acceptedAt segments).length := by
  have hsame : other.acceptedAt segments = c.acceptedAt segments := by
    rw [acceptedAt, acceptedAt, hparameter]
    congr 1
    funext entry
    rw [accepts, accepts, hregex]
  rw [place?, ← List.getElem?_map] at h hother
  rw [hsame] at hother ⊢
  obtain ⟨hlt, hvalue⟩ := List.getElem?_eq_some_iff.mp h
  obtain ⟨hlt', hvalue'⟩ := List.getElem?_eq_some_iff.mp hother
  exact (c.nodup_acceptedAt segments).getElem_inj_iff.mp (hvalue.trans hvalue'.symm)

end Capture

/-- The places that the parts of a parameter take, in the order of the parts. -/
def Pattern.takenPlaces (p : Pattern) (segments : List Segment) (parameter : Text) : List Nat :=
  (p.captures.filter fun c => c.parameter == parameter).filterMap fun c => c.place? segments

/-- The positions at which the parts of a parameter look for a value, each among
those that it accepts. -/
def Pattern.positions (p : Pattern) (segments : List Segment) (parameter : Text) : List Nat :=
  (p.captures.filter fun c => c.parameter == parameter).map fun c =>
    c.occurrence.position (c.acceptedAt segments).length

/-- There are as many candidates as segments with a value. -/
theorem length_candidates {parameter : Text} (h : parameter ≠ anySection)
    (segments : List Segment) :
    (candidates segments parameter).length = (valuedSegments segments parameter).length := by
  rw [candidates, valuedSegments, List.length_filterMap_eq_countP, List.countP_reverse,
    List.countP_eq_length_filter]
  congr 2
  funext s
  have hserves : servesParameter parameter s.name.lower = (s.name.lower == parameter) := by
    simp [servesParameter, h]
  rw [hserves]
  cases s.name.lower == parameter <;> rfl

namespace Match

/-- The parameters of a match are what its parts took, before values are
shared. -/
theorem parameters_share (p : Pattern) (value : Capture Occurrence → Option Text) :
    (share ⟨p, p.captures.map fun c => { value := value c }⟩).parameters =
      p.captures.filterMap fun c => (value c).map fun v => (reportedName c.parameter, v) := by
  rw [parameters_of_share, parameters, entries_map, List.filterMap_map]
  rfl

end Match

namespace Pattern

section

variable (p : Pattern) (segments : List Segment)

/-- Parts of one expression take different places where they look for values at
different positions. -/
theorem nodup_takenPlaces {parameter : Text}
    (hregex : ∀ c ∈ p.captures, c.parameter = parameter →
      ∀ other ∈ p.captures, other.parameter = parameter → c.regex = other.regex)
    (hpositions : (p.positions segments parameter).Nodup) :
    (p.takenPlaces segments parameter).Nodup := by
  rw [takenPlaces, List.Nodup, List.pairwise_filterMap]
  rw [positions, List.Nodup, List.pairwise_map] at hpositions
  apply hpositions.imp_of_mem
  intro c other hc hother hne i hi j hj heq
  obtain ⟨hc, hparameter⟩ := List.mem_filter.mp hc
  obtain ⟨hother, hparameter'⟩ := List.mem_filter.mp hother
  rw [beq_iff_eq] at hparameter hparameter'
  subst heq
  exact hne (Capture.position_eq_of_place? (hparameter.trans hparameter'.symm)
    (hregex c hc hparameter other hother hparameter') hi hj)

/-- A place that is taken is that of a segment with a value. -/
theorem lt_of_mem_takenPlaces (hnamed : ∀ c ∈ p.captures, c.parameter ≠ anySection)
    {parameter : Text} {i : Nat} (h : i ∈ p.takenPlaces segments parameter) :
    i < (valuedSegments segments parameter).length := by
  obtain ⟨c, hmem, hplace⟩ := List.mem_filterMap.mp h
  obtain ⟨hc, hparameter⟩ := List.mem_filter.mp hmem
  rw [← eq_of_beq hparameter, ← length_candidates (hnamed c hc)]
  exact Capture.place?_lt hplace

/-- What is reported of a parameter stands at the places that its parts take. -/
theorem reported_matchSegments (hnamed : ∀ c ∈ p.captures, c.parameter ≠ anySection)
    (name : Text) :
    (p.matchSegments segments []).reported name =
      (p.takenPlaces segments name).filterMap fun i =>
        ((candidates segments name)[i]?).map fun v => (name, v) := by
  have hknown (c : Capture Occurrence) :
      (Prefilled.value? [] c.identifier).or (c.fromSegments segments) =
        c.fromSegments segments := rfl
  simp only [matchSegments, hknown]
  rw [Match.reported, Match.parameters_share, List.filter_filterMap, takenPlaces,
    List.filterMap_filterMap, List.filterMap_filter]
  apply List.filterMap_congr
  intro c hc
  have hname : Match.reportedName c.parameter = c.parameter := by
    rw [Match.reportedName, if_neg (by simpa using hnamed c hc)]
  rw [hname, c.fromSegments_eq]
  by_cases hparameter : c.parameter = name
  · subst hparameter
    have hall (value : Option Text) :
        (value.map fun v => (c.parameter, v)).filter (fun pair => pair.1 == c.parameter) =
          value.map fun v => (c.parameter, v) := by
      cases value <;> simp
    rw [if_pos (beq_self_eq_true _), hall, Option.map_bind]
    rfl
  · rw [if_neg (by simpa using hparameter), Option.filter_eq_none_iff]
    intro pair hpair
    obtain ⟨v, _, rfl⟩ := Option.map_eq_some_iff.mp hpair
    simpa using hparameter

end

/-- A match of a key reports one value for each place that is taken, that of the
segment which stands there. So it reports no more values of a parameter than there are
segments of its name with a value if no place is taken twice, and parts of one
expression never take a place twice where they look at different positions among the
values that it accepts. -/
theorem parameters_matchKey {K : Type} (p : Pattern) (d : Decomposition K) (key : K)
    (hnamed : ∀ c ∈ p.captures, c.parameter ≠ anySection) (name : Text) :
    (p.matchKey d key []).reported name =
        (p.takenPlaces (d.segments key) name).filterMap (fun i =>
          ((candidates (d.segments key) name)[i]?).map fun v => (name, v)) ∧
      (∀ i ∈ p.takenPlaces (d.segments key) name,
        i < (valuedSegments (d.segments key) name).length) ∧
      ((p.takenPlaces (d.segments key) name).Nodup →
        ((p.matchKey d key []).reported name).length ≤
          (valuedSegments (d.segments key) name).length) ∧
      ((∀ c ∈ p.captures, c.parameter = name →
          ∀ other ∈ p.captures, other.parameter = name → c.regex = other.regex) →
        (p.positions (d.segments key) name).Nodup →
        (p.takenPlaces (d.segments key) name).Nodup) := by
  have hreported : (p.matchKey d key []).reported name = _ :=
    p.reported_matchSegments (d.segments key) hnamed name
  have hlt (i : Nat) (hi : i ∈ p.takenPlaces (d.segments key) name) :=
    p.lt_of_mem_takenPlaces (d.segments key) hnamed hi
  refine ⟨hreported, hlt, fun hnodup => ?_, p.nodup_takenPlaces (d.segments key)⟩
  have hsub : p.takenPlaces (d.segments key) name ⊆
      List.range (valuedSegments (d.segments key) name).length :=
    fun i hi => List.mem_range.mpr (hlt i hi)
  calc ((p.matchKey d key []).reported name).length
      ≤ (p.takenPlaces (d.segments key) name).length := by
        rw [hreported]
        exact List.length_filterMap_le _ _
    _ ≤ _ := hnodup.length_le_of_subset hsub
    _ = _ := List.length_range

/-- A key of sections. -/
def sectionKey (values : List Text) : Chain :=
  Chain.root.appendPairs defaultRegistry (values.map fun value => (some "section", some value))

/-- Three parts that take one of three sections each. -/
theorem parameters_matchKey_sections :
    ∃ p, Pattern.compile defaultRegistry "\x7bSection_0.\x7d\x7bSection_1.\x7d\x7bSection\x7d" =
        .ok p ∧
      p.takenPlaces (sectionKey ["A", "B", "C"]).segments "section" = [0, 1, 2] ∧
      ((p.matchKey .ofChains (sectionKey ["A", "B", "C"]) []).reported "section").length ≤
        (valuedSegments (sectionKey ["A", "B", "C"]).segments "section").length := by
  obtain ⟨p, hp, hproperty⟩ := exists_of_compile_any defaultRegistry
    "\x7bSection_0.\x7d\x7bSection_1.\x7d\x7bSection\x7d"
    (fun p => decide ((∀ c ∈ p.captures, c.regexSpan = none) ∧
      (∀ c ∈ p.captures, c.parameter ≠ anySection) ∧
      p.takenPlaces (sectionKey ["A", "B", "C"]).segments "section" = [0, 1, 2] ∧
      (p.positions (sectionKey ["A", "B", "C"]).segments "section").Nodup))
    (by decide +kernel)
  obtain ⟨huninlined, hnamed, hplaces, hpositions⟩ := of_decide_eq_true hproperty
  obtain ⟨_, _, hle, hnodup⟩ :=
    parameters_matchKey p .ofChains (sectionKey ["A", "B", "C"]) hnamed "section"
  refine ⟨p, hp, hplaces, hle (hnodup ?_ hpositions)⟩
  intro c hc hparameter other hother hparameter'
  rw [regex_of_uninlined hp hc (huninlined c hc),
    regex_of_uninlined hp hother (huninlined other hother), hparameter, hparameter']

/-- A section is reported twice: a part that is bound to the last one and one
with a number both take it, and neither value is a copy. -/
theorem not_parameters_matchKey_le :
    ¬ ∀ (template : Text) (p : Pattern), Pattern.compile defaultRegistry template = .ok p →
      (∀ c ∈ p.captures, c.parameter ≠ anySection) → ∀ (key : Chain) (name : Text),
        name.lower = name → ((p.matchKey .ofChains key []).reported name).length ≤
          (valuedSegments key.segments name).length := by
  intro hclaim
  obtain ⟨p, hp, hproperty⟩ := exists_of_compile_any defaultRegistry
    "\x7bSection_0.\x7d\x7bSection\x7d"
    (fun p => decide ((∀ c ∈ p.captures, c.parameter ≠ anySection) ∧
      (valuedSegments (sectionKey ["A"]).segments "section").length <
        ((p.matchKey .ofChains (sectionKey ["A"]) []).reported "section").length))
    (by decide +kernel)
  obtain ⟨hnamed, hlt⟩ := of_decide_eq_true hproperty
  exact Nat.not_le_of_lt hlt (hclaim _ p hp hnamed (sectionKey ["A"]) "section" (by decide +kernel))

end Pattern

end KeyNaming
