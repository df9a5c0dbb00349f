import KeyNaming.Proofs.Pattern.DefaultBodies
import KeyNaming.Proofs.Pattern.Prefilled
import KeyNaming.Proofs.Regex.Alignment

/-!
Matches narrowed by values of their own.

A value known beforehand takes the place of a group with its separators, so
fewer ways are tried at a name. None of those that are left is new, since the
group could have captured the value too, and the way that was the first one to
the end is still there if it captured that value. So the parts whose values are
not known capture what they captured before.
-/

namespace KeyNaming

open Regex (Item Node Progress literals)

/-- The values of some parts of a match, to be known beforehand. -/
def Match.prefill (taken : List (Capture Occurrence × Slot)) : Prefilled :=
  taken.map fun (c, slot) => (c.identifier, slot.value)

/-- Whether the expressions of parts can take the values that are known for
them. -/
def Prefilled.Fits (known : Prefilled) (parts : List Part) : Prop :=
  ∀ c, PartOf.capture c ∈ parts → ∀ v, known.value? c.identifier = some v →
    ∀ body, c.regex.IsReadAs body → body.Spells {} v

/-- The value in a text that a part took with its separators. -/
def Capture.within (c : Capture Occurrence) (t : Text) : Option Text :=
  Pattern.nonEmpty
    (some ((t.drop c.leading.length).take (t.length - c.leading.length - c.trailing.length)))

/-! ## One part -/

section

variable {known : Prefilled} {names names' : List (Text × Nat)}

theorem plain_item (c : Capture Occurrence) (i j : Nat) {node node' : Node}
    (h : node.plain = node'.plain) :
    (Node.seq (c.item (c.nodes i node)).nodes).plain =
      (Node.seq (c.item (c.nodes j node')).nodes).plain := by
  have hgroup : (Node.group i node).plain = (Node.group j node').plain := congrArg (Node.group 0) h
  have hnodes : (c.nodes i node).map Node.plain = (c.nodes j node').map Node.plain := by
    simp only [Capture.nodes, List.map_append, List.map_cons, hgroup]
  have hseq : (Node.seq (c.nodes i node)).plain = (Node.seq (c.nodes j node')).plain := by
    rw [Node.plain, Node.plain, Node.renumber_seq, Node.renumber_seq]
    exact congrArg Node.seq hnodes
  rw [Capture.item, Capture.item]
  split
  · exact hseq
  · exact congrArg (fun body => Node.seq [.repeated .greedy 0 (some 1) body]) hseq

/-- What a part captures can be told from the text that it takes. -/
theorem nonEmpty_group?_eq_within (c : Capture Occurrence) {i : Nat} {body : Node}
    (hnodup : ((c.item (c.nodes i body)).nodes.flatMap Node.groups).Nodup) {p q : Progress}
    (hnone : p.group? i = none) (hq : q ∈ (Node.seq (c.item (c.nodes i body)).nodes).ways {} p)
    {t : Text} (ht : p.position.after = t ++ q.position.after) :
    Pattern.nonEmpty (q.group? i) = c.within t := by
  rcases value_or_skipped_of_mem_ways c hnodup hq with ⟨value, hafter, hvalue, _⟩ | ⟨_, rfl⟩
  · obtain rfl := List.append_cancel_right (ht.symm.trans hafter)
    have hwithin : ((c.leading ++ value ++ c.trailing).drop c.leading.length).take
        ((c.leading ++ value ++ c.trailing).length - c.leading.length - c.trailing.length) =
          value := by
      simp [List.append_assoc]
    rw [Capture.within, hwithin, hvalue]
  · obtain rfl : t = [] := List.self_eq_append_left.mp ht
    rw [hnone]
    simp [Capture.within, Pattern.nonEmpty]

/-- Later parts leave alone what a part with no known value captured. -/
theorem Part.Becomes.named?_eq {c : Capture Occurrence} {nodes : List Node}
    (hpart : Part.Becomes known names (.capture c) nodes)
    (hunknown : known.value? c.identifier = none) {later : List Node}
    (hnodup : ((nodes ++ later).flatMap Node.groups).Nodup) {p q : Progress}
    (hq : q ∈ (Node.seq later).ways {} p) :
    q.named? names c.identifier = p.named? names c.identifier := by
  cases hpart with
  | given _ hvalue =>
      rw [hunknown] at hvalue
      cases hvalue
  | group _ _ hname _ _ => exact named?_eq_of_mem_ways hname (mem_groups_item c _ _) hnodup hq

namespace Part.Becomes

variable {part : Part} {nodes nodes' : List Node} (hpart : part.Becomes [] names nodes)
  (hpart' : part.Becomes known names' nodes')
include hpart hpart'

/-- A part with no known value has the ways that it has if nothing is known. -/
theorem aligned_ways (hunknown : ∀ c, part = .capture c → known.value? c.identifier = none)
    {p p' : Progress} (h : p.Aligned p') :
    List.Forall₂ Progress.Aligned ((Node.seq nodes).ways {} p) ((Node.seq nodes').ways {} p') := by
  have hregular : (Node.seq nodes).isRegular = true := by
    rw [Node.isRegular_seq]
    exact hpart.isRegular
  cases hpart with
  | literal written text =>
      cases hpart' with
      | literal _ _ => exact Node.aligned_ways _ _ hregular rfl {} p p' h
  | given c hvalue => cases hvalue
  | group c _ _ _ hbody =>
      cases hpart' with
      | given _ hvalue' =>
          rw [hunknown c rfl] at hvalue'
          cases hvalue'
      | group _ _ _ _ hbody' =>
          exact Node.aligned_ways _ _ hregular (plain_item c _ _ (hbody.unique hbody')) {} p p' h

/-- No way of a part with a known value is new. -/
theorem exists_mem_ways (hfits : known.Fits [part]) {p p' : Progress} (h : p.Aligned p')
    {q' : Progress} (hq' : q' ∈ (Node.seq nodes').ways {} p') :
    ∃ q ∈ (Node.seq nodes).ways {} p, q.Aligned q' := by
  by_cases hunknown : ∀ c, part = .capture c → known.value? c.identifier = none
  · exact exists_mem_of_forall₂ (hpart.aligned_ways hpart' hunknown h).flip hq'
  · push Not at hunknown
    obtain ⟨c, rfl, hsome⟩ := hunknown
    cases hpart' with
    | group _ hvalue _ _ _ => exact absurd hvalue hsome
    | given _ hvalue =>
        cases hpart with
        | given _ hnone => cases hnone
        | group _ _ _ _ hbody =>
            have hspells := hfits c List.mem_cons_self _ hvalue _ hbody
            rw [Node.spells_plain] at hspells
            obtain ⟨rest, hafter, rfl⟩ := (Regex.mem_ways_literals _ rfl _ _).mp hq'
            exact Node.exists_mem_ways_of_spells _ {} _ (spells_item c _ hspells) p rest
              (h.trans hafter)

/-- A part without a known value captures the same on ways that leave the same
text. -/
theorem nonEmpty_named?_eq {c : Capture Occurrence} (hc : part = .capture c)
    (hunknown : known.value? c.identifier = none)
    (hnodup : (nodes.flatMap Node.groups).Nodup) (hnodup' : (nodes'.flatMap Node.groups).Nodup)
    {p p' : Progress} (hp : ∀ i ∈ nodes.flatMap Node.groups, p.group? i = none)
    (hp' : ∀ i ∈ nodes'.flatMap Node.groups, p'.group? i = none) (h : p.Aligned p')
    {r r' : Progress} (hr : r ∈ (Node.seq nodes).ways {} p)
    (hr' : r' ∈ (Node.seq nodes').ways {} p') (hrest : r.Aligned r') :
    Pattern.nonEmpty (r'.named? names' c.identifier) =
      Pattern.nonEmpty (r.named? names c.identifier) := by
  subst hc
  obtain ⟨t, ht, _⟩ := Node.reaches_of_mem_ways hr
  have ht' : p'.position.after = t ++ r'.position.after := by
    rw [← show p.position.after = p'.position.after from h,
      ← show r.position.after = r'.position.after from hrest]
    exact ht
  cases hpart with
  | given _ hvalue => cases hvalue
  | group _ _ hname _ _ =>
      cases hpart' with
      | given _ hvalue' =>
          rw [hunknown] at hvalue'
          cases hvalue'
      | group _ _ hname' _ _ =>
          rw [Progress.named?, hname', Progress.named?, hname]
          exact (nonEmpty_group?_eq_within c hnodup' (hp' _ (mem_groups_item c _ _)) hr' ht').trans
            (nonEmpty_group?_eq_within c hnodup (hp _ (mem_groups_item c _ _)) hr ht).symm

/-- A part with a known value that it captured takes the one way that is left
of those it has. -/
theorem ways_of_named?_eq {c : Capture Occurrence} (hc : part = .capture c) {v : Text}
    (hvalue : known.value? c.identifier = some v) (hnodup : (nodes.flatMap Node.groups).Nodup)
    {p p' : Progress} (hp : ∀ i ∈ nodes.flatMap Node.groups, p.group? i = none) (h : p.Aligned p')
    {r : Progress} (hr : r ∈ (Node.seq nodes).ways {} p)
    (hv : r.named? names c.identifier = some v) :
    ∃ r', (Node.seq nodes').ways {} p' = [r'] ∧ r.Aligned r' := by
  subst hc
  cases hpart' with
  | group _ hunknown _ _ _ =>
      rw [hvalue] at hunknown
      cases hunknown
  | given _ hvalue' =>
      obtain rfl := Option.some.inj (hvalue'.symm.trans hvalue)
      cases hpart with
      | given _ hnone => cases hnone
      | group _ _ hname _ _ =>
          rw [Progress.named?, hname, Option.bind_some] at hv
          rcases value_or_skipped_of_mem_ways c hnodup hr with
            ⟨value, hafter, hcaptured, _⟩ | ⟨_, rfl⟩
          · obtain rfl := Option.some.inj (hcaptured.symm.trans hv)
            exact ⟨_, Regex.ways_literals rfl (h.symm.trans hafter), rfl⟩
          · rw [hp _ (mem_groups_item c _ _)] at hv
            cases hv

end Part.Becomes

/-! ## All parts -/

theorem Prefilled.Fits.mono {parts parts' : List Part} (h : known.Fits parts)
    (hsub : parts' ⊆ parts) : known.Fits parts' :=
  fun c hc => h c (hsub hc)

/-- No way through the parts is new where values are known that fit. -/
theorem exists_mem_ways_of_fits {parts : List Part} {nodes nodes' : List (List Node)}
    (hparts : List.Forall₂ (Part.Becomes [] names) parts nodes)
    (hparts' : List.Forall₂ (Part.Becomes known names') parts nodes') (hfits : known.Fits parts)
    {p p' : Progress} (h : p.Aligned p') {q' : Progress}
    (hq' : q' ∈ (Node.seq nodes'.flatten).ways {} p') :
    ∃ q ∈ (Node.seq nodes.flatten).ways {} p, q.Aligned q' := by
  induction hparts generalizing nodes' p p' with
  | nil =>
      cases hparts' with
      | nil =>
          obtain rfl := List.mem_singleton.mp hq'
          exact ⟨p, List.mem_singleton_self p, h⟩
  | @cons part first rest nodes hpart _ ih =>
      cases hparts' with
      | cons hpart' hrest' =>
          rw [List.flatten_cons] at hq' ⊢
          obtain ⟨r', hr', hlater'⟩ := (Node.mem_ways_seq_append _ _ _ _ _).mp hq'
          obtain ⟨r, hr, hr_aligned⟩ :=
            hpart.exists_mem_ways hpart' (hfits.mono (by simp)) h hr'
          obtain ⟨q, hq, hq_aligned⟩ := ih hrest' (hfits.mono (by simp)) hr_aligned hlater'
          exact ⟨q, (Node.mem_ways_seq_append _ _ _ _ _).mpr ⟨r, hr, hq⟩, hq_aligned⟩

/-- Whether a search that ends at some point without known values ends with
them where the parts whose values are not known captured the same. -/
def Narrows (known : Prefilled) (names names' : List (Text × Nat)) (parts : List Part)
    (nodes nodes' : List Node) (q : Progress) : Prop :=
  ∀ p p' : Progress, p.Aligned p' → (∀ i ∈ nodes.flatMap Node.groups, p.group? i = none) →
    (∀ i ∈ nodes'.flatMap Node.groups, p'.group? i = none) →
      ((Node.seq nodes).ways {} p).find? Progress.isAtEnd = some q →
        ∃ q', ((Node.seq nodes').ways {} p').find? Progress.isAtEnd = some q' ∧
          ∀ c, PartOf.capture c ∈ parts → known.value? c.identifier = none →
            Pattern.nonEmpty (q'.named? names' c.identifier) =
              Pattern.nonEmpty (q.named? names c.identifier)

theorem narrows_nil {q : Progress} : Narrows known names names' [] [] [] q := by
  intro p p' h _ _ hq
  obtain ⟨hmem, hend⟩ := Regex.after_eq_nil_of_find? hq
  obtain rfl := List.mem_singleton.mp hmem
  have hend' : p'.isAtEnd = true := List.isEmpty_iff.mpr (h.symm.trans hend)
  exact ⟨p', by simp [Node.ways, hend'], by simp⟩

section

variable {part : Part} {parts : List Part} {first first' later later' : List Node}
  (hpart : part.Becomes [] names first) (hpart' : part.Becomes known names' first')
  (hnodup : ((first ++ later).flatMap Node.groups).Nodup)
  (hnodup' : ((first' ++ later').flatMap Node.groups).Nodup) {q : Progress}
  (hlater : Narrows known names names' parts later later' q)
include hpart hpart' hnodup hnodup' hlater

/-- The first way to the end goes by the value that is known of a part. -/
theorem narrows_known {c : Capture Occurrence} (hc : part = .capture c) {v : Text}
    (hvalue : known.value? c.identifier = some v) (hv : q.named? names c.identifier = some v) :
    Narrows known names names' (part :: parts) (first ++ later) (first' ++ later') q := by
  intro p p' h hp hp' hq
  rw [Node.ways_seq_append, List.find?_flatMap] at hq
  obtain ⟨r, hr, hfound⟩ := List.exists_of_findSome?_eq_some hq
  obtain ⟨r', hways, haligned⟩ : ∃ r', (Node.seq first').ways {} p' = [r'] ∧ r.Aligned r' := by
    subst hc
    rw [hpart.named?_eq rfl hnodup (List.mem_of_find?_eq_some hfound)] at hv
    rw [List.flatMap_append] at hnodup hp
    exact hpart.ways_of_named?_eq hpart' rfl hvalue (List.nodup_append.mp hnodup).1
      (fun i hi => hp i (List.mem_append_left _ hi)) h hr hv
  obtain ⟨q', hq', hsame⟩ := hlater r r' haligned (group?_eq_none_of_mem_ways hnodup hp hr)
    (group?_eq_none_of_mem_ways hnodup' hp' (by rw [hways]; exact List.mem_singleton_self r'))
    hfound
  refine ⟨q', ?_, fun d hd hunknown => ?_⟩
  · rw [Node.ways_seq_append, hways, List.flatMap_singleton, hq']
  · rcases List.mem_cons.mp hd with hd | hd
    · obtain rfl := PartOf.capture.inj (hd.trans hc)
      rw [hunknown] at hvalue
      cases hvalue
    · exact hsame d hd hunknown

/-- The ways of a part with no known value are tried side by side. Where one
leads nowhere its counterpart does neither. -/
theorem narrows_unknown (hunknown : ∀ c, part = .capture c → known.value? c.identifier = none)
    (hnew : ∀ r r' : Progress, r.Aligned r' → ∀ q' ∈ (Node.seq later').ways {} r',
      ∃ q ∈ (Node.seq later).ways {} r, q.Aligned q') :
    Narrows known names names' (part :: parts) (first ++ later) (first' ++ later') q := by
  intro p p' h hp hp' hq
  have hfresh {r : Progress} (hr : r ∈ (Node.seq first).ways {} p) :=
    group?_eq_none_of_mem_ways hnodup hp hr
  have hfresh' {r' : Progress} (hr' : r' ∈ (Node.seq first').ways {} p') :=
    group?_eq_none_of_mem_ways hnodup' hp' hr'
  rw [Node.ways_seq_append, List.find?_flatMap] at hq ⊢
  apply exists_findSome?_of_forall₂ (hpart.aligned_ways hpart' hunknown h) _ _ hq
  · intro r r' haligned hnone
    rw [List.find?_eq_none] at hnone ⊢
    intro q' hq' hend
    obtain ⟨other, hother, hsame⟩ := hnew r r' haligned q' hq'
    exact hnone other hother (List.isEmpty_iff.mpr (hsame.trans (List.isEmpty_iff.mp hend)))
  · intro r hr r' hr' haligned hfound
    obtain ⟨q', hq', hsame⟩ := hlater r r' haligned (hfresh hr) (hfresh' hr') hfound
    refine ⟨q', hq', fun c hc hnone => ?_⟩
    rcases List.mem_cons.mp hc with rfl | hc
    · rw [hpart.named?_eq rfl hnodup (List.mem_of_find?_eq_some hfound),
        hpart'.named?_eq hnone hnodup' (List.mem_of_find?_eq_some hq')]
      rw [List.flatMap_append] at hnodup hnodup' hp hp'
      exact hpart.nonEmpty_named?_eq hpart' rfl hnone (List.nodup_append.mp hnodup).1
        (List.nodup_append.mp hnodup').1 (fun i hi => hp i (List.mem_append_left _ hi))
        (fun i hi => hp' i (List.mem_append_left _ hi)) h hr hr' haligned
    · exact hsame c hc hnone

end

/-- What the parts captured fits them. -/
theorem fits_of_named?_eq_some {parts : List Part} {nodes : List (List Node)}
    (hparts : List.Forall₂ (Part.Becomes [] names) parts nodes)
    (hnodup : (nodes.flatten.flatMap Node.groups).Nodup) {p q : Progress}
    (hp : ∀ i ∈ nodes.flatten.flatMap Node.groups, p.group? i = none)
    (hq : q ∈ (Node.seq nodes.flatten).ways {} p)
    (hknown : ∀ c, PartOf.capture c ∈ parts → ∀ v, known.value? c.identifier = some v →
      q.named? names c.identifier = some v) : known.Fits parts := by
  intro c hc v hvalue body hbody
  have hv := hknown c hc v hvalue
  obtain ⟨taken, earlier, before, after, hpart, hsublist, hkeeps, hafter, hsame⟩ :=
    exists_turn hparts hnodup hq hc
  obtain ⟨_, hnodup, hapart⟩ := List.nodup_append.mp (hsublist.nodup hnodup)
  cases hpart with
  | given _ hnone => cases hnone
  | @group _ i node _ hname hregular hread =>
      have hi := mem_groups_item c i node
      have hbefore : before.group? i = none :=
        (hkeeps i fun hmem => hapart i hmem i hi rfl).group?.trans
          (hp i (hsublist.subset (List.mem_append_right _ hi)))
      rw [Progress.named?, hname, Option.bind_some, hsame i hi] at hv
      rw [hbody.unique hread, Node.spells_plain]
      exact (takes_of_group?_eq_some c hnodup hbefore hafter hv).spells hregular

/-- The first way to the end, if it captures what is known, is still the first
one where that is known, and captures the same of the rest. -/
theorem narrows_of_fits {parts : List Part} {nodes nodes' : List (List Node)}
    (hparts : List.Forall₂ (Part.Becomes [] names) parts nodes)
    (hparts' : List.Forall₂ (Part.Becomes known names') parts nodes') (hfits : known.Fits parts)
    (hnodup : (nodes.flatten.flatMap Node.groups).Nodup)
    (hnodup' : (nodes'.flatten.flatMap Node.groups).Nodup) {q : Progress}
    (hknown : ∀ c, PartOf.capture c ∈ parts → ∀ v, known.value? c.identifier = some v →
      q.named? names c.identifier = some v) :
    Narrows known names names' parts nodes.flatten nodes'.flatten q := by
  induction hparts generalizing nodes' with
  | nil =>
      cases hparts' with
      | nil => exact narrows_nil
  | @cons part first rest nodes hpart hrest ih =>
      cases hparts' with
      | @cons _ first' _ nodes' hpart' hrest' =>
          rw [List.flatten_cons] at hnodup hnodup'
          have hsplit := hnodup
          have hsplit' := hnodup'
          rw [List.flatMap_append] at hsplit hsplit'
          have hfitsRest : known.Fits rest := hfits.mono (by simp)
          have hlater := ih hrest' hfitsRest (List.nodup_append.mp hsplit).2.1
            (List.nodup_append.mp hsplit').2.1 fun c hc => hknown c (List.mem_cons_of_mem _ hc)
          by_cases hunknown : ∀ c, part = .capture c → known.value? c.identifier = none
          · exact narrows_unknown hpart hpart' hnodup hnodup' hlater hunknown
              fun _ _ haligned _ hq' => exists_mem_ways_of_fits hrest hrest' hfitsRest haligned hq'
          · push Not at hunknown
            obtain ⟨c, hc, hsome⟩ := hunknown
            obtain ⟨v, hvalue⟩ := Option.ne_none_iff_exists'.mp hsome
            exact narrows_known hpart hpart' hnodup hnodup' hlater hc hvalue
              (hknown c (hc ▸ List.mem_cons_self) v hvalue)

end

/-! ## Matches -/

namespace Pattern

/-- For parts without an expression of their own, matching a name again with any values
that the match has and that were not copied gives the match again. -/
theorem matchText_prefill {template : Text} {p : Pattern}
    (hp : Pattern.compile defaultRegistry template = .ok p)
    (huninlined : ∀ c ∈ p.captures, c.regexSpan = none) {name : Text} {m : Match}
    (hm : p.matchText name [] = .ok m) {taken : List (Capture Occurrence × Slot)}
    (htaken : ∀ entry ∈ taken,
      entry ∈ m.entries ∧ entry.2.value.isSome = true ∧ entry.2.copied = false) :
    p.matchText name (Match.prefill taken) = .ok m := by
  have hbodies (c : Capture Occurrence) (hc : c ∈ p.captures) :
      ∃ body : Node, body.isRegular = true ∧ c.regex.IsReadAs body := by
    rw [regex_of_uninlined hp hc (huninlined c hc)]
    exact exists_isReadAs_defaultRegex c.parameter
  obtain ⟨whole, nodes, hwhole, hparts, hflags, hnode⟩ :=
    exists_expression hp [] fun c hc _ => hbodies c hc
  obtain rfl : p.regex = whole := Except.ok.inj hwhole
  have hmatch : p.matchWith [] p.regex name = m := Except.ok.inj hm
  rw [matchWith] at hmatch
  cases hfound : p.regex.fullMatch? name with
  | none =>
      -- nothing can be taken of a match without values
      rw [hfound] at hmatch
      obtain rfl : taken = [] := by
        apply List.eq_nil_iff_forall_not_mem.mpr
        intro entry hentry
        obtain ⟨hmem, hsome, _⟩ := htaken entry hentry
        rw [← hmatch, Match.blank, Match.entries_map] at hmem
        obtain ⟨_, _, rfl⟩ := List.mem_map.mp hmem
        cases hsome
      exact hm
  | some found =>
      rw [hfound] at hmatch
      obtain rfl : p.captured [] p.regex found = m := hmatch
      have hvalue {c : Capture Occurrence} (hc : c ∈ p.captures) {v : Text}
          (hv : (Match.prefill taken).value? c.identifier = some v) :
          nonEmpty (p.regex.namedGroup? found c.identifier) = some v := by
        obtain ⟨entry, hentry, heq⟩ := List.mem_map.mp (mem_of_value?_eq_some hv)
        obtain ⟨hidentifier, hslot⟩ := Prod.mk.inj heq
        obtain ⟨hmem, _, hcopied⟩ := htaken entry hentry
        obtain ⟨hcapture, hcaptured⟩ := value_of_mem_entries_captured hmem hcopied
        obtain rfl : entry.1 = c :=
          List.inj_on_of_nodup_map (nodup_identifiers hp) hcapture hc hidentifier
        exact hcaptured.symm.trans hslot
      have hknown (c : Capture Occurrence) (hc : PartOf.capture c ∈ p.parts) (v : Text)
          (hv : (Match.prefill taken).value? c.identifier = some v) :
          found.named? p.regex.groupNames c.identifier = some v :=
        eq_some_of_nonEmpty (hvalue ((mem_captureParts p.parts c).mpr hc) hv)
      obtain ⟨regex, nodes', hregex, hparts', hflags', hnode'⟩ :=
        exists_expression hp (Match.prefill taken) fun c hc _ => hbodies c hc
      rw [Regex.fullMatch?_anchored hflags hnode] at hfound
      have hnodup := Regex.nodup_groups_anchored hnode
      have hfits := fits_of_named?_eq_some hparts hnodup (fun _ _ => rfl)
        (List.mem_of_find?_eq_some hfound) hknown
      obtain ⟨found', hfound', hsame⟩ := narrows_of_fits hparts hparts' hfits hnodup
        (Regex.nodup_groups_anchored hnode') hknown (.start name) (.start name) rfl
        (fun _ _ => rfl) (fun _ _ => rfl) hfound
      rw [matchText_eq, hregex]
      dsimp only
      rw [matchWith, Regex.fullMatch?_anchored hflags' hnode', hfound']
      dsimp only
      rw [captured, captured]
      congr 3
      apply List.map_congr_left
      intro c hc
      cases hv : (Match.prefill taken).value? c.identifier with
      | none =>
          exact congrArg (fun value : Option Text => ({ value } : Slot))
            (hsame c ((mem_captureParts p.parts c).mp hc) hv)
      | some v => rw [hvalue hc hv]; rfl

/-- A name read once more with its culture and its type known. -/
theorem matchText_prefill_cultureAndType :
    ∃ p m, Pattern.compile defaultRegistry "\x7bCulture.\x7d[Type.]\x7bKey\x7d" = .ok p ∧
      p.matchText "en.App.Ok" [] = .ok m ∧
      m.values = [some "en", some "App", some "Ok"].map (Option.map Text.ofString) ∧
      Match.prefill (m.entries.take 2) =
        [(Text.ofString "Culture", some (Text.ofString "en")),
          (Text.ofString "Type", some (Text.ofString "App"))] ∧
      p.matchText "en.App.Ok" (Match.prefill (m.entries.take 2)) = .ok m := by
  obtain ⟨p, hp, hproperty⟩ := exists_of_compile_any defaultRegistry
    "\x7bCulture.\x7d[Type.]\x7bKey\x7d"
    (fun p => decide ((∀ c ∈ p.captures, c.regexSpan = none) ∧
      (p.matchWith [] p.regex "en.App.Ok").values =
        [some "en", some "App", some "Ok"].map (Option.map Text.ofString) ∧
      Match.prefill ((p.matchWith [] p.regex "en.App.Ok").entries.take 2) =
        [(Text.ofString "Culture", some (Text.ofString "en")),
          (Text.ofString "Type", some (Text.ofString "App"))] ∧
      ∀ entry ∈ (p.matchWith [] p.regex "en.App.Ok").entries.take 2,
        entry.2.value.isSome = true ∧ entry.2.copied = false))
    (by decide +kernel)
  obtain ⟨huninlined, hvalues, hprefill, hslots⟩ := of_decide_eq_true hproperty
  exact ⟨p, _, hp, rfl, hvalues, hprefill, matchText_prefill hp huninlined rfl
    fun entry hentry => ⟨List.mem_of_mem_take hentry, hslots entry hentry⟩⟩

end Pattern

end KeyNaming
