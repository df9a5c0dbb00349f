import KeyNaming.Proofs.Diagnostic.Span
import KeyNaming.Proofs.Entries
import KeyNaming.Proofs.Pattern.Assembly
import KeyNaming.Proofs.Pattern.Derivation
import KeyNaming.Proofs.Template.Spans

/-!
How the parts of a pattern lie in its template, and how they are found.

The parts cover the template one after the other without gaps. Counting them
off gives each its number, and each that captures a second one. The identifier
of a part leads to it and to no other, and the captures fall into groups by
their parameters. Where a part writes a regular expression, its span is what
the part has between angle brackets, the brackets included.
-/

namespace KeyNaming

/-! ## Numbers -/

theorem getElem?_numberFrom (index captureIndex : Nat) (parts : List Part) (i : Nat) :
    (numberFrom index captureIndex parts)[i]? = parts[i]?.map fun part =>
      ⟨part, index + i,
        part.capture?.map fun _ => captureIndex + (captureParts (parts.take i)).length⟩ := by
  induction parts generalizing index captureIndex i with
  | nil => rfl
  | cons part rest ih =>
      cases part with
      | literal written text =>
          cases i with
          | zero => rfl
          | succ i =>
              rw [numberFrom, List.getElem?_cons_succ, List.getElem?_cons_succ, ih,
                List.take_succ_cons, captureParts_literal, Nat.add_right_comm]
              rfl
      | capture c =>
          cases i with
          | zero => rfl
          | succ i =>
              rw [numberFrom, List.getElem?_cons_succ, List.getElem?_cons_succ, ih,
                List.take_succ_cons, captureParts_capture, List.length_cons, Nat.add_right_comm,
                Nat.add_assoc captureIndex, Nat.add_comm 1]
              rfl

/-- The captures have the numbers from the first one on, in order. -/
theorem filterMap_capture?_numberFrom (index captureIndex : Nat) (parts : List Part) :
    (numberFrom index captureIndex parts).filterMap NumberedPart.capture? =
      (captureParts parts).zipIdx captureIndex := by
  induction parts generalizing index captureIndex with
  | nil => rfl
  | cons part rest ih =>
      cases part with
      | literal written text => exact ih (index + 1) captureIndex
      | capture c => exact congrArg _ (ih (index + 1) (captureIndex + 1))

theorem map_capture_captureParts (parts : List Part) :
    (captureParts parts).map PartOf.capture = parts.filter fun part => part.capture?.isSome := by
  induction parts with
  | nil => rfl
  | cons part rest ih =>
      cases part with
      | literal written text => exact ih
      | capture c => exact congrArg _ ih

namespace Pattern

theorem getElem?_numbered (p : Pattern) (i : Nat) :
    p.numbered[i]? = p.parts[i]?.map fun part => ⟨part, i, p.capturePosition? i⟩ := by
  rw [numbered, getElem?_numberFrom, Nat.zero_add, capturePosition?]
  cases p.parts[i]? with
  | none => rfl
  | some part =>
      cases part with
      | literal written text => rfl
      | capture c => simp [PartOf.capture?]

end Pattern

/-! ## Maps -/

/-- What is sorted into groups by a key is still there, each of it once. -/
theorem perm_flatMap_filter {A K : Type} [BEq K] [LawfulBEq K] (key : A → K) {keys : List K}
    (hkeys : keys.Nodup) (l : List A) (hl : ∀ a ∈ l, key a ∈ keys) :
    (keys.flatMap fun k => l.filter fun a => key a == k).Perm l := by
  induction keys generalizing l with
  | nil =>
      obtain rfl : l = [] := List.eq_nil_iff_forall_not_mem.mpr fun a ha =>
        List.not_mem_nil (hl a ha)
      rfl
  | cons first rest ih =>
      obtain ⟨hfirst, hrest⟩ := List.nodup_cons.mp hkeys
      let others := l.filter fun a => !(key a == first)
      -- the groups of the other keys take nothing away from the first one
      have hothers : ∀ k ∈ rest, (l.filter fun a => key a == k) =
          others.filter fun a => key a == k := by
        intro k hk
        rw [List.filter_filter]
        refine List.filter_congr fun a _ => ?_
        cases hsame : key a == k with
        | false => rfl
        | true =>
            have hne : key a ≠ first := fun h => hfirst (h ▸ eq_of_beq hsame ▸ hk)
            simpa using hne
      have hmem : ∀ a ∈ others, key a ∈ rest := by
        intro a ha
        obtain ⟨hal, hne⟩ := List.mem_filter.mp ha
        exact (List.mem_cons.mp (hl a hal)).resolve_left (by simpa using hne)
      rw [List.flatMap_cons, List.flatMap_congr hothers]
      exact ((ih hrest others hmem).append_left _).trans (List.filter_append_perm _ l)

namespace Pattern

theorem map_fst_partIndices (p : Pattern) : p.partIndices.map Prod.fst = p.identifiers := by
  have hparts := List.zipIdx_map_fst 0 p.parts
  rw [identifiers, captures, captureParts, partIndices, List.map_filterMap, List.map_filterMap,
    ← hparts, List.filterMap_map, hparts]
  congr 1
  funext entry
  rw [Option.map_map]
  rfl

theorem mem_partIndices (p : Pattern) (identifier : Text) (i : Nat) :
    (identifier, i) ∈ p.partIndices ↔
      ∃ c, p.parts[i]? = some (.capture c) ∧ c.identifier = identifier := by
  rw [partIndices, List.mem_filterMap]
  constructor
  · rintro ⟨⟨part, j⟩, hmem, hpair⟩
    obtain ⟨c, hc, hpair⟩ := Option.map_eq_some_iff.mp hpair
    obtain ⟨rfl, rfl⟩ := Prod.mk.inj hpair
    cases part with
    | literal written text => cases hc
    | capture d =>
        obtain rfl := Option.some.inj hc
        exact ⟨d, List.mem_zipIdx_iff_getElem?.mp hmem, rfl⟩
  · rintro ⟨c, hc, rfl⟩
    exact ⟨(.capture c, i), List.mem_zipIdx_iff_getElem?.mpr hc, rfl⟩

/-- Where no identifier stands twice, it leads to its capture. -/
theorem captureIndex?_eq_some_iff {p : Pattern} (h : p.identifiers.Nodup) (identifier : Text)
    (k : Nat) : p.captureIndex? identifier = some k ↔
      ∃ c, p.captures[k]? = some c ∧ c.identifier = identifier := by
  have hget : (∃ c, p.captures[k]? = some c ∧ c.identifier = identifier) ↔
      p.identifiers[k]? = some identifier := by
    rw [identifiers, List.getElem?_map, Option.map_eq_some_iff]
  rw [hget, captureIndex?, List.findIdx?_eq_some_iff_getElem, List.getElem?_eq_some_iff]
  constructor
  · rintro ⟨hlt, hsame, -⟩
    exact ⟨hlt, eq_of_beq hsame⟩
  · rintro ⟨hlt, rfl⟩
    refine ⟨hlt, beq_self_eq_true _, fun j hj hsame => ?_⟩
    exact hj.ne (h.getElem_inj_iff.mp (eq_of_beq hsame))

/-- The groups of the parameters are the captures, each of them once. -/
theorem perm_flatMap_capturesOf (p : Pattern) :
    (p.parameterNames.flatMap p.capturesOf).Perm p.captures.zipIdx := by
  refine (List.Perm.flatMap_left _ fun parameter _ => List.mergeSort_perm _ _).trans
    (perm_flatMap_filter (fun entry : Capture Occurrence × Nat => entry.1.parameter)
      (Entries.nodup_eraseDups _) _ ?_)
  rintro ⟨c, i⟩ hmem
  have hc : c ∈ p.captures := List.mem_of_getElem? (List.mem_zipIdx_iff_getElem?.mp hmem)
  exact List.mem_eraseDups.mpr (List.mem_map_of_mem hc)

theorem mem_capturesOf {p : Pattern} {parameter : Text} {entry : Capture Occurrence × Nat} :
    entry ∈ p.capturesOf parameter ↔
      p.captures[entry.2]? = some entry.1 ∧ entry.1.parameter = parameter := by
  rw [capturesOf, (List.mergeSort_perm _ _).mem_iff, List.mem_filter,
    List.mem_zipIdx_iff_getElem?, beq_iff_eq]

theorem pairwise_capturesOf (p : Pattern) (parameter : Text) :
    (p.capturesOf parameter).Pairwise fun a b =>
      a.1.occurrence.index ≤ b.1.occurrence.index := by
  let le (a b : Capture Occurrence × Nat) : Bool := a.1.occurrence.index ≤ b.1.occurrence.index
  have htrans (a b c : Capture Occurrence × Nat) (hab : le a b = true) (hbc : le b c = true) :
      le a c = true :=
    decide_eq_true ((of_decide_eq_true hab).trans (of_decide_eq_true hbc))
  have htotal (a b : Capture Occurrence × Nat) : (le a b || le b a) = true := by
    rw [Bool.or_eq_true, decide_eq_true_eq, decide_eq_true_eq]
    exact Nat.le_total _ _
  have hsorted := List.pairwise_mergeSort htrans htotal
    (p.captures.zipIdx.filter fun entry => entry.1.parameter == parameter)
  exact hsorted.imp fun h => of_decide_eq_true h

end Pattern

/-! ## Offsets -/

/-- What parts write is what those before one of them write, that part, and
those behind it. -/
theorem flatMap_written_eq {O : Type} {parts : List (PartOf O)} {i : Nat} {part : PartOf O}
    (h : parts[i]? = some part) : parts.flatMap PartOf.written =
      (parts.take i).flatMap PartOf.written ++
        (part.written ++ (parts.drop (i + 1)).flatMap PartOf.written) := by
  obtain ⟨hlt, rfl⟩ := List.getElem?_eq_some_iff.mp h
  rw [← List.flatMap_cons, ← List.drop_eq_getElem_cons hlt, ← List.flatMap_append,
    List.take_append_drop]

theorem slice_startOf {O : Type} {parts : List (PartOf O)} {i : Nat} {part : PartOf O}
    (h : parts[i]? = some part) :
    Text.slice (parts.flatMap PartOf.written) (startOf parts i)
      (startOf parts i + part.written.length) = part.written := by
  rw [flatMap_written_eq h]
  exact Text.slice_append _ _ _

/-- The span of a regular expression covers what stands between angle brackets,
brackets included. -/
theorem exists_covers_of_areSpanned {O : Type} {parts : List (PartOf O)} (h : AreSpanned 0 parts)
    {i : Nat} {c : Capture O} (hc : parts[i]? = some (.capture c)) {span : Span}
    (hspan : c.regexSpan = some span) :
    startOf parts i ≤ span.start ∧ span.stop ≤ startOf parts i + c.written.length ∧
      ∃ between : Text, span.Covers (parts.flatMap PartOf.written)
          (('<' : CodePoint) :: between ++ [('>' : CodePoint)]) ∧
        c.regex.source = Template.unescapeAngles between := by
  obtain ⟨before, between, behind, hwritten, hsource, rfl⟩ := h i c hc span hspan
  rw [Nat.zero_add]
  let bracketed : Text := ('<' : CodePoint) :: between ++ [('>' : CodePoint)]
  let earlier : Text := (parts.take i).flatMap PartOf.written ++ before
  let later : Text := behind ++ (parts.drop (i + 1)).flatMap PartOf.written
  refine ⟨Nat.le_add_right _ _, ?_, between, ⟨List.cons_ne_nil _ _, earlier, later, ?_, ?_, ?_⟩,
    hsource⟩
  · rw [hwritten]
    simp only [Span.ofLength, List.length_append, List.length_cons]
    omega
  · have hpart : PartOf.written (.capture c) = c.written := rfl
    rw [flatMap_written_eq hc, hpart, hwritten]
    simp [earlier, later]
  · exact List.length_append.symm
  · simp [Span.ofLength, earlier, startOf]

/-- The slice at the span of a regular expression is what stands between angle
brackets, brackets included. -/
theorem exists_slice_of_areSpanned {O : Type} {parts : List (PartOf O)} (h : AreSpanned 0 parts)
    {i : Nat} {c : Capture O} (hc : parts[i]? = some (.capture c)) {span : Span}
    (hspan : c.regexSpan = some span) :
    startOf parts i ≤ span.start ∧ span.stop ≤ startOf parts i + c.written.length ∧
      ∃ between : Text, Text.slice (parts.flatMap PartOf.written) span.start span.stop =
          ('<' : CodePoint) :: between ++ [('>' : CodePoint)] ∧
        c.regex.source = Template.unescapeAngles between := by
  obtain ⟨hstart, hstop, between, hcovers, hsource⟩ := exists_covers_of_areSpanned h hc hspan
  exact ⟨hstart, hstop, between, hcovers.slice_eq, hsource⟩

namespace Pattern

/-! ## Patterns -/

/-- How the parts of a pattern lie in its template, and how they are numbered
and found. -/
structure IsLaidOut (p : Pattern) (template : Text) : Prop where
  /-- The parts cover the template, one after the other. -/
  tiles : p.parts.flatMap PartOf.written = template
  slices : ∀ i part, p.parts[i]? = some part → template.slice (startOf p.parts i)
    (startOf p.parts i + part.written.length) = part.written
  nonempty : ∀ part ∈ p.parts, part.written ≠ []
  /-- No literal stands beside another one. -/
  apart : p.parts.IsChain fun a b => a.capture?.isSome = true ∨ b.capture?.isSome = true
  /-- A part is counted off with its place, and with its place among the
  captures. -/
  numbered : ∀ i, p.numbered[i]? =
    p.parts[i]?.map fun part => NumberedPart.mk part i (p.capturePosition? i)
  captures : p.captures.map PartOf.capture = p.parts.filter fun part => part.capture?.isSome
  numberedCaptures : p.numbered.filterMap NumberedPart.capture? = p.captures.zipIdx
  /-- There is one entry for each capture, and no identifier stands twice. -/
  identifiers : p.partIndices.map Prod.fst = p.captures.map Capture.identifier ∧
    (p.captures.map Capture.identifier).Nodup
  partIndices : ∀ identifier i, p.partIndices.lookup identifier = some i ↔
    ∃ c, p.parts[i]? = some (.capture c) ∧ c.identifier = identifier
  captureIndices : ∀ identifier k, p.captureIndex? identifier = some k ↔
    ∃ c, p.captures[k]? = some c ∧ c.identifier = identifier
  /-- The groups of the parameters share out the captures. -/
  groups : p.parameterNames.Nodup ∧
    (p.parameterNames.flatMap p.capturesOf).Perm p.captures.zipIdx
  members : ∀ parameter entry, entry ∈ p.capturesOf parameter ↔
    p.captures[entry.2]? = some entry.1 ∧ entry.1.parameter = parameter
  sorted : ∀ parameter, (p.capturesOf parameter).Pairwise fun a b =>
    a.1.occurrence.index ≤ b.1.occurrence.index
  /-- A span lies inside of its part, from an opening angle bracket to behind a
  closing one, and the regular expression is what stands between them. -/
  spans : ∀ i c span, p.parts[i]? = some (.capture c) → c.regexSpan = some span →
    startOf p.parts i ≤ span.start ∧ span.stop ≤ startOf p.parts i + c.written.length ∧
      ∃ between : Text, template.slice span.start span.stop =
          ('<' : CodePoint) :: between ++ [('>' : CodePoint)] ∧
        c.regex.source = Template.unescapeAngles between

/-- The parts of a template that was read stand where its derivation has them. -/
theorem exists_derivation_of_read {r : Registry} {template : Text} {drafts : List Draft}
    (hread : Template.read r template = .ok drafts) :
    ∃ d, Template.IsDerivation d template ∧
      (Template.assign drafts).map PartOf.written = d.map Template.Tree.written ∧
      (Template.assign drafts).map (fun part => part.capture?.isSome) =
        d.map Template.Tree.isPart ∧
      AreSpanned 0 (Template.assign drafts) := by
  obtain ⟨d, hd, hshapes⟩ := (Template.read_outcome r template).ok hread
  have hunassigned : (Template.assign drafts).map PartOf.unassigned =
      drafts.map PartOf.unassigned :=
    Template.map_unassigned_assignFrom _ _ drafts
  refine ⟨d, hd, ?_, ?_, ?_⟩
  · calc (Template.assign drafts).map PartOf.written
        = ((Template.assign drafts).map PartOf.unassigned).map PartOf.written := by simp
      _ = (drafts.map PartOf.shape).map Shape.written := by rw [hunassigned]; simp
      _ = d.map Template.Tree.written := by rw [hshapes]; simp
  · calc (Template.assign drafts).map (fun part => part.capture?.isSome)
        = ((Template.assign drafts).map PartOf.unassigned).map
            fun part => part.capture?.isSome := by simp
      _ = (drafts.map PartOf.shape).map Shape.isPart := by rw [hunassigned]; simp
      _ = d.map Template.Tree.isPart := by rw [hshapes]; simp
  · rw [← areSpanned_map_unassigned, hunassigned, areSpanned_map_unassigned]
    have hspanned := Template.areSpanned_of_readDrafts template.length r template.length
      (Nat.le_refl _) hread
    rwa [Template.offsetOf, Nat.sub_self] at hspanned

/-- What compiling makes of a template stands where its derivation has it. -/
theorem exists_derivation_of_compile {r : Registry} {template : Text} {p : Pattern}
    (h : Pattern.compile r template = .ok p) :
    ∃ d, Template.IsDerivation d template ∧
      p.parts.map PartOf.written = d.map Template.Tree.written ∧
      p.parts.map (fun part => part.capture?.isSome) = d.map Template.Tree.isPart ∧
      AreSpanned 0 p.parts := by
  obtain ⟨drafts, hread, hparts, -, -, -⟩ := compile_ok h
  rw [hparts]
  exact exists_derivation_of_read hread

/-- The parts of a compiled pattern are slices of its template without gaps, none empty
and no two literals side by side. Numbers, identifiers and parameters lead to the
parts that have them, and the span of a regular expression is where the template
writes it. -/
theorem isLaidOut_of_compile {r : Registry} {template : Text} {p : Pattern}
    (h : Pattern.compile r template = .ok p) : p.IsLaidOut template := by
  obtain ⟨d, hd, hwritten, hcaptures, hspanned⟩ := exists_derivation_of_compile h
  have hnodup := nodup_identifiers h
  have htiles : p.parts.flatMap PartOf.written = template := by
    rw [List.flatMap_def, hwritten, ← List.flatMap_def, hd.written]
  refine
    { tiles := htiles
      slices := fun i part hpart => htiles ▸ slice_startOf hpart
      nonempty := ?_
      apart := ?_
      numbered := p.getElem?_numbered
      captures := map_capture_captureParts p.parts
      numberedCaptures := filterMap_capture?_numberFrom 0 0 p.parts
      identifiers := ⟨p.map_fst_partIndices, hnodup⟩
      partIndices := ?_
      captureIndices := captureIndex?_eq_some_iff hnodup
      groups := ⟨Entries.nodup_eraseDups _, p.perm_flatMap_capturesOf⟩
      members := fun _ _ => mem_capturesOf
      sorted := p.pairwise_capturesOf
      spans := ?_ }
  · intro part hpart
    obtain ⟨a, _, ha⟩ := List.mem_map.mp (hwritten ▸ List.mem_map_of_mem hpart)
    exact ha ▸ a.written_ne_nil
  · have hapart := hd.apart
    rw [← List.isChain_map (R := fun a b => a = true ∨ b = true) Template.Tree.isPart,
      ← hcaptures, List.isChain_map] at hapart
    exact hapart
  · intro identifier i
    rw [← p.mem_partIndices]
    exact Entries.lookup_eq_some_iff_mem (p.map_fst_partIndices.symm ▸ hnodup) (identifier, i)
  · intro i c span hc hspan
    rw [← htiles]
    exact exists_slice_of_areSpanned hspanned hc hspan

/-- A template with escapes inside and outside of a regular expression, and a
parameter that three parts share. -/
def escapedTemplate : Text :=
  "a\\>\\<b\x7bSection_1.\x7d\x7bSection<\\w\\>?>/\x7d[Key]\x7bSection\x7d"

theorem isLaidOut_of_compile_escapedTemplate :
    ∃ p, Pattern.compile defaultRegistry escapedTemplate = .ok p ∧ p.IsLaidOut escapedTemplate ∧
      p.captures.map Capture.identifier = ["Section_1", "Section", "Key", "Section_2"] ∧
      p.captures.map (fun c => c.occurrence.index) = [1, 0, Occurrence.lastIndex, 2] ∧
      p.captures.map (fun c => c.regexSpan.map fun span => (span.start, span.stop)) =
        [none, some (26, 33), none, none] := by
  obtain ⟨p, hp, hproperty⟩ := exists_of_compile_any defaultRegistry escapedTemplate
    (fun p => decide (p.captures.map Capture.identifier =
        ["Section_1", "Section", "Key", "Section_2"] ∧
      p.captures.map (fun c => c.occurrence.index) = [1, 0, Occurrence.lastIndex, 2] ∧
      p.captures.map (fun c => c.regexSpan.map fun span => (span.start, span.stop)) =
        [none, some (26, 33), none, none])) (by decide +kernel)
  exact ⟨p, hp, isLaidOut_of_compile hp, of_decide_eq_true hproperty⟩

end Pattern

end KeyNaming
