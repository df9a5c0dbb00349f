import KeyNaming.Proofs.Pattern.Captured
import KeyNaming.Proofs.Pattern.RoundTrip
import KeyNaming.Proofs.Pattern.Success

/-!
From a name to its key and back.

A name is read as the values that its parts took themselves, in the order of
the parts. In the key that they make, a part finds a value again by its
occurrence: its number, or the last one, among the values of its parameter.
What it finds is what it took from the name exactly if that value stands there,
which depends on the order of the parts and on which of them are absent.
-/

namespace KeyNaming

open Regex (Progress)

/-! ## Names of parameters -/

theorem Template.splitIdentifier_subset (identifier : Text) :
    (splitIdentifier identifier).1 ⊆ identifier := by
  intro c hc
  simp only [splitIdentifier] at hc
  split at hc
  · next n u name d others hbackwards hdropped =>
    have hname : ∀ a ∈ name, a ∈ identifier := by
      intro a ha
      rw [← List.mem_reverse, hbackwards]
      exact List.mem_cons_of_mem n (List.mem_cons_of_mem u ha)
    have hothers : ∀ a ∈ others, a ∈ identifier := by
      intro a ha
      rw [← List.mem_reverse]
      apply (List.dropWhile_suffix CodePoint.isAsciiDigit).subset
      rw [hdropped]
      exact List.mem_cons_of_mem d ha
    split at hc
    · exact hname c (List.mem_reverse.mp hc)
    · split at hc
      · exact hothers c (List.mem_reverse.mp hc)
      · exact hc
  · exact hc

/-- The name of the parameter of a part is in lower case. -/
theorem Pattern.lower_parameter {r : Registry} {template : Text} {p : Pattern}
    (hp : Pattern.compile r template = .ok p) {c : Capture Occurrence} (hc : c ∈ p.captures) :
    c.parameter.lower = c.parameter := by
  obtain ⟨draft, hread, hsame⟩ := exists_isRead hp hc
  have hparameter : c.parameter = draft.parameter := by rw [hsame]
  rw [hparameter, hread.parameter]
  apply Text.lower_lower_of_ascii
  intro d hd
  exact d.isAscii_of_isAsciiWord
    (List.all_eq_true.mp hread.word d (Template.splitIdentifier_subset _ hd))

/-! ## Where values stand -/

namespace Match

/-- The values that the parts of a parameter took themselves, in order. -/
def ownValues (m : Match) (parameter : Text) : List Text :=
  m.entries.filterMap fun (c, slot) =>
    if c.parameter == parameter && !slot.copied then slot.value else none

/-- Whether each part has the value at its occurrence among those that the
parts of its parameter took themselves. -/
def IsPlaced (m : Match) : Prop :=
  ∀ entry ∈ m.entries, entry.2.value = entry.1.occurrence.select (m.ownValues entry.1.parameter)

instance (m : Match) : Decidable m.IsPlaced :=
  inferInstanceAs (Decidable (∀ entry ∈ m.entries, _))

/-- The segments of the key of a match hold what its parts took themselves. -/
theorem candidates_toKey (m : Match) (r : Registry)
    (hlower : ∀ entry ∈ m.entries, entry.1.parameter.lower = entry.1.parameter)
    (hnamed : ∀ entry ∈ m.entries, entry.1.parameter ≠ anySection) {parameter : Text}
    (hparameter : parameter ≠ anySection) :
    candidates (m.toKey r .root).segments parameter = m.ownValues parameter := by
  have hroot : Chain.root.segments = [] := rfl
  rw [toKey, Chain.segments_appendPairs, hroot, List.append_nil, candidates, List.reverse_reverse,
    List.filterMap_map, parameters, List.filterMap_filterMap, ownValues]
  apply List.filterMap_congr
  rintro ⟨c, slot⟩ hentry
  have hreported : reportedName c.parameter = c.parameter := by
    rw [reportedName, if_neg (by simpa using hnamed _ hentry)]
  have hserves : servesParameter parameter c.parameter.lower = (c.parameter == parameter) := by
    simp [servesParameter, hparameter, hlower _ hentry]
  cases hcopied : slot.copied with
  | true => simp [hcopied]
  | false => cases hvalue : slot.value <;> simp [hcopied, hvalue, hreported, hserves]

/-- Of elements that a function tells apart, only one has the image of that
one. -/
theorem filterMap_of_nodup_map {A V : Type} (f : A → Text) (value : A → Option V) {l : List A}
    (hnodup : (l.map f).Nodup) {a : A} (ha : a ∈ l) :
    (l.filterMap fun b => if f b == f a then value b else none) = (value a).toList := by
  induction l with
  | nil => cases ha
  | cons first rest ih =>
      obtain ⟨hfirst, hrest⟩ := List.nodup_cons.mp hnodup
      rcases List.mem_cons.mp ha with rfl | ha
      · have hothers : (rest.filterMap fun b => if f b == f a then value b else none) = [] := by
          apply List.filterMap_eq_nil_iff.mpr
          intro b hb
          have hne : f b ≠ f a := fun heq => hfirst (List.mem_map.mpr ⟨b, hb, heq⟩)
          simp [hne]
        rw [List.filterMap_cons, hothers, beq_self_eq_true, if_pos rfl]
        cases value a <;> rfl
      · have hne : f first ≠ f a := fun heq => hfirst (List.mem_map.mpr ⟨a, ha, heq.symm⟩)
        rw [List.filterMap_cons_none (by simp [hne]), ih hrest ha]

/-- In a match of parts of different parameters, each bound to the first or the
last occurrence, every value is at its place. -/
theorem isPlaced_of_distinct {p : Pattern} (hdistinct : (p.captures.map Capture.parameter).Nodup)
    (hends : ∀ c ∈ p.captures, c.occurrence = .pinned 0 ∨ c.occurrence = .last)
    (value : Capture Occurrence → Option Text) :
    IsPlaced (share ⟨p, p.captures.map fun c => { value := value c }⟩) := by
  have hsame {c other : Capture Occurrence} (hc : c ∈ p.captures) (hother : other ∈ p.captures)
      (h : other.parameter = c.parameter) : other = c :=
    List.inj_on_of_nodup_map hdistinct hother hc h
  rw [share_eq_self]
  · intro entry hentry
    rw [entries_map] at hentry
    obtain ⟨c, hc, rfl⟩ := List.mem_map.mp hentry
    have hown : ownValues ⟨p, p.captures.map fun c => { value := value c }⟩ c.parameter =
        (value c).toList := by
      rw [ownValues, entries_map, List.filterMap_map,
        ← filterMap_of_nodup_map Capture.parameter value hdistinct hc]
      simp
    rw [hown]
    rcases hends c hc with hfirst | hlast
    · rw [hfirst]
      cases value c <;> rfl
    · rw [hlast]
      cases value c <;> rfl
  · intro c hc hlast _ other hother hparameter hnumbered
    rw [hsame hc hother hparameter, hlast] at hnumbered
    cases hnumbered

theorem values_eq_map_iff {m : Match} (h : m.IsFull) (f : Capture Occurrence → Option Text) :
    m.pattern.captures.map f = m.values ↔ ∀ entry ∈ m.entries, entry.2.value = f entry.1 := by
  have hcaptures : m.pattern.captures = m.entries.map Prod.fst :=
    (List.map_fst_zip (Nat.le_of_eq h.symm)).symm
  have hslots : m.values = m.entries.map fun entry => entry.2.value := by
    rw [values, ← List.map_snd_zip (Nat.le_of_eq h), List.map_map]
    rfl
  rw [hcaptures, hslots, List.map_map, List.map_inj_left]
  exact forall₂_congr fun entry _ => eq_comm

end Match

namespace Pattern

/-- Where every part accepts all values of its parameter, it takes the one at
its occurrence, and none is shared. -/
theorem values_matchSegments_of_accepts (p : Pattern) (segments : List Segment)
    (haccepts : ∀ c ∈ p.captures, ∀ v ∈ candidates segments c.parameter, c.accepts v = true) :
    (p.matchSegments segments []).values =
      p.captures.map fun c => c.occurrence.select (candidates segments c.parameter) := by
  have htaken (c : Capture Occurrence) (hc : c ∈ p.captures) :
      c.fromSegments segments = c.occurrence.select (candidates segments c.parameter) := by
    rw [Capture.fromSegments, List.filter_eq_self.mpr (haccepts c hc)]
  have hshare : Match.share
      ⟨p, p.captures.map fun c => ⟨c.fromSegments segments, false⟩⟩ =
        ⟨p, p.captures.map fun c => ⟨c.fromSegments segments, false⟩⟩ := by
    apply Match.share_eq_self
    intro c hc hlast hnone other hother hparameter _
    -- a last part without a value has no candidates, nor has any part of its parameter
    have hcandidates : candidates segments c.parameter = [] :=
      Occurrence.eq_nil_of_select_last hlast ((htaken c hc).symm.trans hnone)
    rw [htaken other hother, hparameter, hcandidates, Occurrence.select_nil]
  have hknown (c : Capture Occurrence) :
      (Prefilled.value? [] c.identifier).or (c.fromSegments segments) = c.fromSegments segments := rfl
  simp only [matchSegments, hknown, hshare, Match.values, List.map_map]
  exact List.map_congr_left htaken

theorem isInward_defaultRegex (parameter : Text) :
    (Template.defaultRegex defaultRegistry parameter).isInward = true :=
  Template.meets_defaultRegex (P := Regex.isInward) (by decide +kernel) (by decide +kernel)
    parameter

section

variable {template : Text} {p : Pattern} (hp : Pattern.compile defaultRegistry template = .ok p)
  (huninlined : ∀ c ∈ p.captures, c.regexSpan = none) {name : Text} {found : Progress}
  (hfound : p.regex.fullMatch? name = some found)

include hp huninlined hfound

/-- Parts of one parameter accept what any of them took from a name. -/
theorem accepts_ownValues {c : Capture Occurrence} (hc : c ∈ p.captures) {v : Text}
    (hv : v ∈ (p.captured [] p.regex found).ownValues c.parameter) : c.accepts v = true := by
  obtain ⟨⟨other, slot⟩, hentry, hown⟩ := List.mem_filterMap.mp hv
  dsimp only at hown
  split at hown
  · next hcondition =>
    obtain ⟨hparameter, hcopied⟩ := Bool.and_eq_true_iff.mp hcondition
    obtain ⟨hother, hvalue⟩ := value_of_mem_entries_captured hentry (by simpa using hcopied)
    have hregistry (c : Capture Occurrence) (hc : c ∈ p.captures) :=
      regex_of_uninlined hp hc (huninlined c hc)
    have hinward : other.regex.isInward = true := by
      rw [hregistry other hother]
      exact isInward_defaultRegex other.parameter
    have haccepts := accepts_of_namedGroup? hp (isEmbeddable_of_default hp []) hfound hother hinward
      (eq_some_of_nonEmpty (hvalue.symm.trans hown))
    have hregex : c.regex = other.regex := by
      rw [hregistry c hc, hregistry other hother, eq_of_beq hparameter]
    rw [Capture.accepts, hregex]
    exact haccepts
  · cases hown

variable (hnamed : ∀ c ∈ p.captures, c.parameter ≠ anySection)

include hnamed

/-- What the parts take from the key of a match stands at their occurrences
among the values that were taken from the name. -/
theorem values_matchKey_toKey (r : Registry) :
    (p.matchKey .ofChains ((p.captured [] p.regex found).toKey r .root) []).values =
      p.captures.map fun c =>
        c.occurrence.select ((p.captured [] p.regex found).ownValues c.parameter) := by
  have hentries : ∀ entry ∈ (p.captured [] p.regex found).entries, entry.1 ∈ p.captures :=
    fun entry hentry => (List.of_mem_zip hentry).1
  have hcandidates (c : Capture Occurrence) (hc : c ∈ p.captures) :
      candidates ((p.captured [] p.regex found).toKey r .root).segments c.parameter =
        (p.captured [] p.regex found).ownValues c.parameter :=
    Match.candidates_toKey _ r (fun entry hentry => lower_parameter hp (hentries entry hentry))
      (fun entry hentry => hnamed _ (hentries entry hentry)) (hnamed c hc)
  refine (values_matchSegments_of_accepts p _ ?_).trans (List.map_congr_left ?_)
  · intro c hc v hv
    exact accepts_ownValues hp huninlined hfound hc (hcandidates c hc ▸ hv)
  · intro c hc
    exact congrArg c.occurrence.select (hcandidates c hc)

end

/-- Parts write what they cover, where no group captured the empty text. -/
theorem nameOf_captured {parts : List Part} {captured : Text → Option Text}
    (hcaptured : ∀ part ∈ parts, part.IsCaptured [] captured)
    (hnonempty : ∀ c ∈ captureParts parts, captured c.identifier ≠ some []) :
    nameOf parts ((captureParts parts).map fun c => captured c.identifier) =
      some (parts.flatMap (Part.covered [] captured)) := by
  induction parts with
  | nil => rfl
  | cons part rest ih =>
      obtain ⟨hfirst, hothers⟩ := List.forall_mem_cons.mp hcaptured
      cases part with
      | literal written text =>
          rw [captureParts_literal, nameOf, ih hothers hnonempty]
          rfl
      | capture c =>
          rw [captureParts_capture] at hnonempty ⊢
          obtain ⟨hne, hnonempty⟩ := List.forall_mem_cons.mp hnonempty
          rw [List.map_cons, List.flatMap_cons, nameOf_capture, ih hothers hnonempty,
            nonEmpty_of_ne hne]
          have hthere : (c.required && (captured c.identifier).isNone) = false := by
            rw [Bool.and_eq_false_imp]
            intro hrequired
            rw [Option.isNone_eq_false_iff]
            exact hfirst hrequired rfl
          rw [if_neg (by rw [hthere]; exact Bool.false_ne_true), Part.covered]
          cases captured c.identifier <;> rfl

/-- A name is built again from what the groups captured from it. -/
theorem build_namedGroup? {r : Registry} {template : Text} {p : Pattern}
    (hp : Pattern.compile r template = .ok p) (hparts : p.IsEmbeddable []) {name : Text}
    {found : Progress} (hfound : p.regex.fullMatch? name = some found)
    (hnonempty : ∀ c ∈ p.captures, p.regex.namedGroup? found c.identifier ≠ some []) :
    p.build (p.captures.map fun c => p.regex.namedGroup? found c.identifier) = some name := by
  obtain ⟨nodes, hmeans, ⟨n, hsublist⟩, hmem, hend⟩ := exists_ways_of_fullMatch? hp hparts hfound
  obtain ⟨hcovered, hcaptured⟩ := covered_of_forall_means hmeans
    (hsublist.nodup List.nodup_range') (fun i _ => rfl) hmem
  rw [hend, List.append_nil] at hcovered
  rw [build, List.length_map, if_neg (Nat.lt_irrefl _)]
  exact (nameOf_captured hcaptured hnonempty).trans (congrArg some hcovered.symm)

/-- A name that was read as a key is found again by that key exactly if each part has the
value that stands at its occurrence among those that parts of its parameter took. The
key then has the name that the match builds, which is the name itself if no value was
copied and no group captured the empty text. Parts of different parameters, each the
first or the last of its own, are always found again. -/
theorem values_matchKey_parse {template : Text} {p : Pattern}
    (hp : Pattern.compile defaultRegistry template = .ok p)
    (huninlined : ∀ c ∈ p.captures, c.regexSpan = none)
    (hnamed : ∀ c ∈ p.captures, c.parameter ≠ anySection) {name : Text} {found : Progress}
    (hfound : p.regex.fullMatch? name = some found) {m : Match}
    (hm : p.matchText name [] = .ok m) (hsuccess : m.success = true) :
    ∃ key, p.parse name .root p.registry = .ok key ∧
      ((p.matchKey .ofChains key []).values = m.values ↔ m.IsPlaced) ∧
      (m.IsPlaced → p.nameOfKey .ofChains key = p.build m.values) ∧
      (m.IsPlaced → (∀ entry ∈ m.entries, entry.2.copied = false) →
        (∀ c ∈ p.captures, p.regex.namedGroup? found c.identifier ≠ some []) →
          p.nameOfKey .ofChains key = some name) ∧
      ((p.captures.map Capture.parameter).Nodup →
        (∀ c ∈ p.captures, c.occurrence = .pinned 0 ∨ c.occurrence = .last) → m.IsPlaced) := by
  have hmatch : p.matchWith [] p.regex name = p.captured [] p.regex found := by
    rw [matchWith, hfound]
  obtain rfl : p.captured [] p.regex found = m := hmatch.symm.trans (Except.ok.inj hm)
  have hfull : (p.captured [] p.regex found).IsFull := Match.isFull_share (Match.isFull_map p _)
  have hplaced : (p.matchKey .ofChains
      ((p.captured [] p.regex found).toKey p.registry .root) []).values =
        (p.captured [] p.regex found).values ↔ (p.captured [] p.regex found).IsPlaced := by
    rw [values_matchKey_toKey hp huninlined hfound hnamed]
    exact Match.values_eq_map_iff hfull _
  refine ⟨(p.captured [] p.regex found).toKey p.registry .root, ?_, hplaced, ?_, ?_,
    fun hdistinct hends => Match.isPlaced_of_distinct hdistinct hends _⟩
  · rw [parse, parse?, hmatch, hsuccess]
    rfl
  · intro h
    rw [nameOfKey, hplaced.mpr h]
  · intro h hcopied hnonempty
    have hgroups : p.captures.map (fun c => p.regex.namedGroup? found c.identifier) =
        (p.captured [] p.regex found).values := by
      refine (Match.values_eq_map_iff hfull _).mpr fun entry hentry => ?_
      obtain ⟨hc, hvalue⟩ := value_of_mem_entries_captured hentry (hcopied entry hentry)
      rw [hvalue, nonEmpty_of_ne (hnonempty _ hc)]
    rw [nameOfKey, hplaced.mpr h, ← hgroups]
    exact build_namedGroup? hp (isEmbeddable_of_default hp []) hfound hnonempty

/-- A name whose sections stand in the order of their occurrences. -/
theorem values_matchKey_parse_sections :
    ∃ p key, Pattern.compile defaultRegistry "\x7bSection_0.\x7d\x7bSection_1.\x7d\x7bSection\x7d" =
        .ok p ∧
      p.parse "A.B.C" .root p.registry = .ok key ∧
      (p.matchKey .ofChains key []).values = (p.matchWith [] p.regex "A.B.C").values ∧
      p.nameOfKey .ofChains key = some "A.B.C" := by
  obtain ⟨p, hp, hproperty⟩ := exists_of_compile_any defaultRegistry
    "\x7bSection_0.\x7d\x7bSection_1.\x7d\x7bSection\x7d"
    (fun p => decide ((∀ c ∈ p.captures, c.regexSpan = none) ∧
      (∀ c ∈ p.captures, c.parameter ≠ anySection) ∧
      (p.matchWith [] p.regex "A.B.C").success = true ∧
      (p.matchWith [] p.regex "A.B.C").IsPlaced ∧
      (∀ entry ∈ (p.matchWith [] p.regex "A.B.C").entries, entry.2.copied = false) ∧
      (p.regex.fullMatch? "A.B.C").isSome = true ∧
      ∀ found ∈ p.regex.fullMatch? "A.B.C", ∀ c ∈ p.captures,
        p.regex.namedGroup? found c.identifier ≠ some []))
    (by decide +kernel)
  obtain ⟨huninlined, hnamed, hsuccess, hplaced, hcopied, hsome, hnonempty⟩ :=
    of_decide_eq_true hproperty
  obtain ⟨found, hfound⟩ := Option.isSome_iff_exists.mp hsome
  obtain ⟨key, hkey, hvalues, _, hname, _⟩ :=
    values_matchKey_parse hp huninlined hnamed hfound rfl hsuccess
  exact ⟨p, key, hp, hkey, hvalues.mpr hplaced, hname hplaced hcopied (hnonempty found hfound)⟩

/-- Not every name is found again: a part that is bound to the last section and
absent from the name takes one that the name gave to another part. -/
theorem not_values_matchKey_parse :
    ¬ ∀ (template : Text) (p : Pattern), Pattern.compile defaultRegistry template = .ok p →
      (∀ c ∈ p.captures, c.regexSpan = none) → (∀ c ∈ p.captures, c.parameter ≠ anySection) →
      ∀ name, (p.regex.fullMatch? name).isSome = true →
        ∀ m, p.matchText name [] = .ok m → m.success = true →
          ∀ key, p.parse name .root p.registry = .ok key →
            (p.matchKey .ofChains key []).values = m.values := by
  intro hclaim
  obtain ⟨p, hp, hproperty⟩ := exists_of_compile_any defaultRegistry
    "\x7bSection_0.\x7d\x7bSection_1.\x7d\x7bSection\x7d"
    (fun p => decide ((∀ c ∈ p.captures, c.regexSpan = none) ∧
      (∀ c ∈ p.captures, c.parameter ≠ anySection) ∧
      (p.regex.fullMatch? "A.B.").isSome = true ∧
      (p.matchWith [] p.regex "A.B.").success = true ∧
      (p.matchKey .ofChains ((p.matchWith [] p.regex "A.B.").toKey p.registry .root) []).values ≠
        (p.matchWith [] p.regex "A.B.").values))
    (by decide +kernel)
  obtain ⟨huninlined, hnamed, hsome, hsuccess, hne⟩ := of_decide_eq_true hproperty
  have hkey : p.parse "A.B." .root p.registry =
      .ok ((p.matchWith [] p.regex "A.B.").toKey p.registry .root) := by
    rw [parse, parse?, hsuccess]
    rfl
  exact hne (hclaim _ p hp huninlined hnamed "A.B." hsome _ rfl hsuccess _ hkey)

end Pattern

end KeyNaming
