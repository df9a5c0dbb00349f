import KeyNaming.Pattern.Match
import KeyNaming.Proofs.Pattern.Pieces
import KeyNaming.Proofs.Regex.Capturing

/-!
How the parts of a pattern cover a name.

A name that the expression of a pattern matches is what its parts cover, one
after the other: a literal its text, a capture its separators and what its
group captured. Nothing of the name is left over, and a part that is not there
covers nothing.
-/

namespace KeyNaming

open Regex (Node Progress literals)

/-- The text of a name that a part covers, given what the groups captured. -/
def Part.covered (known : Prefilled) (captured : Text → Option Text) : Part → Text
  | .literal _ text => text
  | .capture c =>
    match known.value? c.identifier with
    | some value => c.leading ++ value ++ c.trailing
    | none =>
      match captured c.identifier with
      | some value => c.leading ++ value ++ c.trailing
      | none => []

/-- Whether a part is there if it has to be. -/
def Part.IsCaptured (known : Prefilled) (captured : Text → Option Text) : Part → Prop
  | .literal _ _ => True
  | .capture c =>
    c.required = true → known.value? c.identifier = none → (captured c.identifier).isSome = true

def Regex.Progress.named? (q : Progress) (names : List (Text × Nat)) (name : Text) : Option Text :=
  (names.lookup name).bind q.group?

section

variable {known : Prefilled} {names : List (Text × Nat)}

/-- The group of a capture covers its separators and its value. -/
theorem exists_value_of_mem_ways (c : Capture Occurrence) {i : Nat} {body : Node}
    (hnodup : ((c.nodes i body).flatMap Node.groups).Nodup) {p q : Progress}
    (hq : q ∈ (Node.seq (c.nodes i body)).ways {} p) :
    ∃ value, p.position.after = c.leading ++ value ++ c.trailing ++ q.position.after ∧
      q.group? i = some value ∧ body.Takes (fun j => j ≠ i ∧ p.IsFresh j) {} value := by
  have hi : i ∉ body.groups := by
    rw [Capture.nodes, List.flatMap_append, Regex.groups_literals, List.nil_append,
      List.flatMap_cons, Regex.groups_literals, List.append_nil, Node.groups] at hnodup
    exact (List.nodup_cons.mp hnodup).1
  obtain ⟨r, hr, hrest⟩ := (Node.mem_ways_seq_append _ _ _ _ _).mp hq
  obtain ⟨after, hafter, rfl⟩ := (Regex.mem_ways_literals _ rfl _ _).mp hr
  obtain ⟨s, hs, htrailing⟩ := List.mem_flatMap.mp hrest
  obtain ⟨value, hvalue, hcaptured, htakes⟩ := Regex.group?_of_mem_ways hi hs
  obtain ⟨after', hafter', rfl⟩ := (Regex.mem_ways_literals _ rfl _ _).mp htrailing
  refine ⟨value, ?_, ?_, htakes⟩
  · rw [Progress.after_past] at hvalue
    rw [hafter, hvalue, hafter', Progress.after_past]
    simp only [List.append_assoc]
  · rw [(s.keeps_past c.trailing after' i).group?]
    exact hcaptured

/-- A capture has the groups of its parts, whether it is optional or not. -/
theorem groups_item (c : Capture Occurrence) (nodes : List Node) :
    (c.item nodes).nodes.flatMap Node.groups = nodes.flatMap Node.groups := by
  rw [Capture.item]
  split
  · rfl
  · rw [Regex.Item.nodes, List.flatMap_singleton, Node.groups, Node.groups_seq]

theorem mem_groups_item (c : Capture Occurrence) (i : Nat) (body : Node) :
    i ∈ (c.item (c.nodes i body)).nodes.flatMap Node.groups := by
  rw [groups_item]
  simp [Capture.nodes, Node.groups]

/-- An optional part is tried before it is left out. -/
theorem ways_item_optional (c : Capture Occurrence) (hc : c.required = false) (nodes : List Node)
    (p : Progress) :
    (Node.seq (c.item nodes).nodes).ways {} p = (Node.seq nodes).ways {} p ++ [p] := by
  have hitem : (c.item nodes).nodes = [.repeated .greedy 0 (some 1) (Node.seq nodes)] := by
    rw [Capture.item, hc]
    rfl
  rw [hitem, Node.seq_cons, Node.ways, Regex.ways_optional]
  exact List.flatMap_singleton' _

/-- A capture is there, with its separators and its value, or it is optional
and left out. -/
theorem value_or_skipped_of_mem_ways (c : Capture Occurrence) {i : Nat} {body : Node}
    (hnodup : ((c.item (c.nodes i body)).nodes.flatMap Node.groups).Nodup) {p q : Progress}
    (hq : q ∈ (Node.seq (c.item (c.nodes i body)).nodes).ways {} p) :
    (∃ value, p.position.after = c.leading ++ value ++ c.trailing ++ q.position.after ∧
      q.group? i = some value ∧ body.Takes (fun j => j ≠ i ∧ p.IsFresh j) {} value) ∨
    (c.required = false ∧ q = p) := by
  rw [groups_item] at hnodup
  cases hrequired : c.required with
  | true =>
      rw [Capture.item, hrequired] at hq
      exact .inl (exists_value_of_mem_ways c hnodup hq)
  | false =>
      rw [ways_item_optional c hrequired] at hq
      rcases List.mem_append.mp hq with hthere | hskipped
      · exact .inl (exists_value_of_mem_ways c hnodup hthere)
      · exact .inr ⟨rfl, List.mem_singleton.mp hskipped⟩

/-- What the group of a capture captured, its body has taken, with no other marks than
there were before. -/
theorem takes_of_group?_eq_some (c : Capture Occurrence) {i : Nat} {body : Node}
    (hnodup : ((c.item (c.nodes i body)).nodes.flatMap Node.groups).Nodup) {p q : Progress}
    (hnone : p.group? i = none) (hq : q ∈ (Node.seq (c.item (c.nodes i body)).nodes).ways {} p)
    {v : Text} (hv : q.group? i = some v) :
    body.Takes (fun j => j ≠ i ∧ p.IsFresh j) {} v := by
  rcases value_or_skipped_of_mem_ways c hnodup hq with ⟨value, _, hvalue, htakes⟩ | ⟨_, rfl⟩
  · obtain rfl := Option.some.inj (hvalue.symm.trans hv)
    exact htakes
  · -- a part that is not there has captured nothing
    rw [hnone] at hv
    cases hv

/-- What a part takes of a name is what it covers. -/
theorem covered_of_means {part : Part} {nodes : List Node}
    (hmeans : Part.Means known names part nodes) (hnodup : (nodes.flatMap Node.groups).Nodup)
    {p q : Progress} (hp : ∀ i ∈ nodes.flatMap Node.groups, p.group? i = none)
    (hq : q ∈ (Node.seq nodes).ways {} p) :
    p.position.after = part.covered known (q.named? names) ++ q.position.after ∧
      part.IsCaptured known (q.named? names) := by
  cases hmeans with
  | literal written text =>
      obtain ⟨after, hafter, rfl⟩ := (Regex.mem_ways_literals _ rfl _ _).mp hq
      exact ⟨hafter, trivial⟩
  | given c hvalue =>
      obtain ⟨after, hafter, rfl⟩ := (Regex.mem_ways_literals _ rfl _ _).mp hq
      refine ⟨?_, ?_⟩
      · rw [Part.covered, hvalue]
        exact hafter
      · intro _ hnone
        rw [hvalue] at hnone
        cases hnone
  | @group c i body hvalue hname _ =>
      rcases value_or_skipped_of_mem_ways c hnodup hq with
        ⟨value, hafter, hcaptured, _⟩ | ⟨hoptional, rfl⟩
      · have hnamed : q.named? names c.identifier = some value := by
          rw [Progress.named?, hname]
          exact hcaptured
        refine ⟨?_, fun _ _ => by rw [hnamed]; rfl⟩
        rw [Part.covered, hvalue, hnamed]
        exact hafter
      · refine ⟨?_, fun hrequired => by rw [hoptional] at hrequired; cases hrequired⟩
        have hnone := hp i (mem_groups_item c i body)
        rw [Part.covered, hvalue, Progress.named?, hname, Option.bind_some, hnone]
        rfl

/-- A group that an earlier part has keeps what it captured. -/
theorem named?_eq_of_mem_ways {first later : List Node} {name : Text} {i : Nat}
    (hname : names.lookup name = some i) (hi : i ∈ first.flatMap Node.groups)
    (hnodup : ((first ++ later).flatMap Node.groups).Nodup) {p q : Progress}
    (hq : q ∈ (Node.seq later).ways {} p) : q.named? names name = p.named? names name := by
  have hlater : i ∉ (Node.seq later).groups := by
    rw [Node.groups_seq]
    rw [List.flatMap_append] at hnodup
    exact fun hmem => (List.nodup_append.mp hnodup).2.2 i hi i hmem rfl
  rw [Progress.named?, Progress.named?, hname, Option.bind_some, Option.bind_some]
  exact (Node.keeps_of_mem_ways hlater hq).group?

/-- A group that only a later part has is as empty as before. -/
theorem group?_eq_none_of_mem_ways {first later : List Node}
    (hnodup : ((first ++ later).flatMap Node.groups).Nodup) {p r : Progress}
    (hp : ∀ i ∈ (first ++ later).flatMap Node.groups, p.group? i = none)
    (hr : r ∈ (Node.seq first).ways {} p) : ∀ i ∈ later.flatMap Node.groups, r.group? i = none := by
  intro i hi
  rw [List.flatMap_append] at hnodup hp
  have hfirst : i ∉ (Node.seq first).groups := by
    rw [Node.groups_seq]
    exact fun hmem => (List.nodup_append.mp hnodup).2.2 i hmem i hi rfl
  rw [(Node.keeps_of_mem_ways hfirst hr).group?]
  exact hp i (List.mem_append_right _ hi)

/-- A later part leaves alone what an earlier one captured. -/
theorem Part.Means.named?_eq {part : Part} {nodes : List Node}
    (hmeans : Part.Means known names part nodes) {later : List Node}
    (hnodup : ((nodes ++ later).flatMap Node.groups).Nodup) {p q : Progress}
    (hq : q ∈ (Node.seq later).ways {} p) :
    part.covered known (q.named? names) = part.covered known (p.named? names) ∧
      (part.IsCaptured known (q.named? names) ↔ part.IsCaptured known (p.named? names)) := by
  cases hmeans with
  | literal written text => exact ⟨rfl, Iff.rfl⟩
  | given c hvalue =>
      refine ⟨?_, ?_⟩
      · rw [Part.covered, Part.covered, hvalue]
      · simp [Part.IsCaptured, hvalue]
  | @group c i body hvalue hname _ =>
      have hsame := named?_eq_of_mem_ways hname (mem_groups_item c i body) hnodup hq
      refine ⟨?_, ?_⟩
      · rw [Part.covered, Part.covered, hsame]
      · rw [Part.IsCaptured, Part.IsCaptured, hsame]

/-- What parts take of a name one after the other is what they cover. -/
theorem covered_of_forall_means {parts : List Part} {nodes : List (List Node)}
    (hmeans : List.Forall₂ (Part.Means known names) parts nodes)
    (hnodup : (nodes.flatten.flatMap Node.groups).Nodup) {p q : Progress}
    (hp : ∀ i ∈ nodes.flatten.flatMap Node.groups, p.group? i = none)
    (hq : q ∈ (Node.seq nodes.flatten).ways {} p) :
    p.position.after = parts.flatMap (Part.covered known (q.named? names)) ++ q.position.after ∧
      ∀ part ∈ parts, part.IsCaptured known (q.named? names) := by
  induction hmeans generalizing p with
  | nil =>
      obtain rfl := List.mem_singleton.mp hq
      exact ⟨rfl, by simp⟩
  | @cons part first parts nodes hmeans hrest ih =>
      rw [List.flatten_cons] at hnodup hp hq
      obtain ⟨r, hr, hlater⟩ := (Node.mem_ways_seq_append _ _ _ _ _).mp hq
      have hothers := group?_eq_none_of_mem_ways hnodup hp hr
      have hsplit := hnodup
      rw [List.flatMap_append] at hsplit hp
      obtain ⟨hnodupFirst, hnodupOthers, _⟩ := List.nodup_append.mp hsplit
      obtain ⟨hafter, hcaptured⟩ := covered_of_means hmeans hnodupFirst
        (fun i hi => hp i (List.mem_append_left _ hi)) hr
      obtain ⟨hcovered, hsame⟩ := hmeans.named?_eq hnodup hlater
      obtain ⟨hafter', hcapturedOthers⟩ := ih hnodupOthers hothers hlater
      refine ⟨?_, ?_⟩
      · rw [hafter, hafter', List.flatMap_cons, hcovered, List.append_assoc]
      · intro other hother
        rcases List.mem_cons.mp hother with rfl | hother
        · exact hsame.mpr hcaptured
        · exact hcapturedOthers other hother

end

theorem ways_lineEnd {q : Progress} (hq : q.position.after = []) :
    (Node.atom (.anchor .lineEnd)).ways {} q = [q] := by
  simp [Node.ways, Regex.Atom.step, Regex.Position.holds, hq]

/-- Between the anchors of an expression the whole of a text is matched as
without them. -/
theorem find?_ways_anchored (nodes : List Node) (t : Text) :
    ((Node.seq (.atom (.anchor .lineStart) :: (nodes ++ [.atom (.anchor .lineEnd)]))).ways {}
        (.start t)).find? Progress.isAtEnd =
      ((Node.seq nodes).ways {} (.start t)).find? Progress.isAtEnd := by
  have hstart : (Node.atom (.anchor .lineStart)).ways {} (.start t) = [.start t] := rfl
  have hend (q : Progress) : ((Node.seq [.atom (.anchor .lineEnd)]).ways {} q).find?
      Progress.isAtEnd = Option.guard Progress.isAtEnd q := by
    by_cases hq : q.position.after = []
    · have hatEnd : q.isAtEnd = true := List.isEmpty_iff.mpr hq
      rw [Node.seq_cons, Node.ways, ways_lineEnd hq, List.flatMap_singleton, Node.seq_nil,
        Node.ways, List.find?_singleton, Option.guard, hatEnd]
    · have hatEnd : q.isAtEnd = false := by simpa [Progress.isAtEnd] using hq
      rw [Option.guard, hatEnd, List.find?_eq_none.mpr]
      · rfl
      · intro r hr
        have hanchor : ∀ n ∈ [Node.atom (.anchor .lineEnd)], n.IsAnchor := by
          intro n hn
          exact ⟨.lineEnd, List.mem_singleton.mp hn⟩
        rw [Node.eq_of_mem_ways_anchors hanchor hr, hatEnd]
        exact Bool.false_ne_true
  rw [Node.seq_cons, Node.ways, hstart, List.flatMap_singleton, Node.ways_seq_append,
    List.find?_flatMap, funext hend, ← List.find?_eq_findSome?_guard]

/-- An expression between anchors matches a text if there is a way to its end
without them. -/
theorem Regex.fullMatch?_anchored {regex : Regex} {nodes : List Node} (hflags : regex.flags = {})
    (hnode : regex.node = Node.seq (.atom (.anchor .lineStart) ::
      (nodes ++ [.atom (.anchor .lineEnd)]))) (t : Text) :
    regex.fullMatch? t = ((Node.seq nodes).ways {} (.start t)).find? Progress.isAtEnd := by
  rw [Regex.fullMatch?, Regex.run_end_eq_find?, hflags, hnode, find?_ways_anchored]

/-- The groups between the anchors are numbered from one in their order. -/
theorem Regex.exists_sublist_groups_anchored {regex : Regex} {nodes : List Node}
    (hnode : regex.node = Node.seq (.atom (.anchor .lineStart) ::
      (nodes ++ [.atom (.anchor .lineEnd)]))) :
    ∃ n, (nodes.flatMap Node.groups).Sublist (List.range' 1 n) := by
  obtain ⟨n, hall⟩ := Regex.exists_sublist_groups_of_read regex.read_source
  rw [hnode, Node.groups_seq, List.flatMap_cons, List.flatMap_append] at hall
  exact ⟨n, by simpa [Node.groups] using hall⟩

theorem Regex.nodup_groups_anchored {regex : Regex} {nodes : List Node}
    (hnode : regex.node = Node.seq (.atom (.anchor .lineStart) ::
      (nodes ++ [.atom (.anchor .lineEnd)]))) : (nodes.flatMap Node.groups).Nodup := by
  obtain ⟨n, hsublist⟩ := Regex.exists_sublist_groups_anchored hnode
  exact hsublist.nodup List.nodup_range'

namespace Pattern

/-- The expression that names are matched with where some values are known
beforehand. -/
def expression (p : Pattern) (known : Prefilled) : Except Regex.Error Regex :=
  if known.any fun entry => entry.2.isSome then p.regexWith known else .ok p.regex

/-- Values are captured from a name with the expression for what is known. -/
theorem matchText_eq (p : Pattern) (name : Text) (known : Prefilled) :
    p.matchText name known =
      match p.expression known with
      | .ok regex => .ok (p.matchWith known regex name)
      | .error (.rejected _ _) => .ok (.blank p)
      | .error e => .error e := by
  rw [matchText, expression]
  split
  · rfl
  · rfl

theorem value?_eq_none {known : Prefilled} (h : (known.any fun entry => entry.2.isSome) = false)
    (identifier : Text) : known.value? identifier = none := by
  rw [List.any_eq_false] at h
  rw [Prefilled.value?, Option.join_eq_none_iff]
  cases hlookup : known.lookup identifier with
  | none => exact .inl rfl
  | some value =>
      obtain ⟨before, after, rfl, _⟩ := List.lookup_eq_some_iff.mp hlookup
      have hvalue := h (identifier, value) (List.mem_append_right _ List.mem_cons_self)
      exact .inr (by simpa using hvalue)

/-- The expression that names are matched with is always the one for what is
known, be it nothing. -/
theorem expression_eq_regexWith {r : Registry} {template : Text} {p : Pattern}
    (hp : Pattern.compile r template = .ok p) (known : Prefilled) :
    p.expression known = p.regexWith known := by
  rw [expression]
  split
  · rfl
  · next hnone =>
    -- without known values the pieces are those of the expression of the pattern
    obtain ⟨_, _, _, _, _, hcompile⟩ := compile_ok hp
    have hpiece : Part.piece known .all = Part.piece [] .all := by
      funext part
      cases part with
      | literal written text => rfl
      | capture c =>
          rw [Part.piece, Part.piece, value?_eq_none (by simpa using hnone)]
          rfl
    rw [regexWith, source, regexSource, hpiece]
    exact hcompile.symm

/-- Whether the regular expressions of the parts without a known value can be read
without the flags that are given beside them. -/
def IsEmbeddable (p : Pattern) (known : Prefilled) : Prop :=
  ∀ c ∈ p.captures, known.value? c.identifier = none → c.regex.isEmbeddable = true

instance (p : Pattern) (known : Prefilled) : Decidable (p.IsEmbeddable known) :=
  inferInstanceAs (Decidable (∀ c ∈ p.captures, _))

theorem isPlaced_of_compile {r : Registry} {template : Text} {p : Pattern}
    (hp : Pattern.compile r template = .ok p) {known : Prefilled} (hparts : p.IsEmbeddable known) :
    ∀ c, PartOf.capture c ∈ p.parts → c.IsPlaced known :=
  fun c hc => ⟨isNamed_of_compile hp c hc, hparts c ((mem_captureParts p.parts c).mpr hc)⟩

/-- Where each expression of a registry can be read without its flags, so can those of
the parts: no flags are given beside an expression that a template writes. -/
theorem isEmbeddable_of_registry {r : Registry} {template : Text} {p : Pattern}
    (hp : Pattern.compile r template = .ok p)
    (hentries : (Entries.values r.entries).all (fun info => info.pattern.all Regex.isEmbeddable) =
      true) (known : Prefilled) : p.IsEmbeddable known := by
  intro c hc _
  obtain ⟨drafts, hread, hparts, _⟩ := compile_ok hp
  rw [captures, mem_captureParts, hparts] at hc
  rcases given_or_pattern?_of_read hread hc with hgiven | hpattern
  · exact Regex.isEmbeddable_of_isNone (Regex.Flags.isNone_iff.mpr hgiven)
  · have hregex : Template.defaultRegex r c.parameter = c.regex := by
      rw [Template.defaultRegex, hpattern, Option.getD_some]
    rw [← hregex]
    exact Template.meets_defaultRegex hentries rfl c.parameter

theorem isEmbeddable_of_default {template : Text} {p : Pattern}
    (hp : Pattern.compile defaultRegistry template = .ok p) (known : Prefilled) :
    p.IsEmbeddable known :=
  isEmbeddable_of_registry hp (by decide +kernel) known

/-- What the expression for some known values is read as. -/
theorem exists_nodes_of_expression {r : Registry} {template : Text} {p : Pattern}
    (hp : Pattern.compile r template = .ok p) {known : Prefilled} (hparts : p.IsEmbeddable known)
    {regex : Regex} (hregex : p.expression known = .ok regex) :
    ∃ nodes : List (List Node),
      List.Forall₂ (Part.Means known regex.groupNames) p.parts nodes ∧ regex.flags = {} ∧
        regex.node = Node.seq (.atom (.anchor .lineStart) ::
          (nodes.flatten ++ [.atom (.anchor .lineEnd)])) := by
  rw [expression_eq_regexWith hp] at hregex
  exact exists_nodes_of_read (isPlaced_of_compile hp hparts) (Regex.compile_ok hregex).1

/-- What matches a name is a way through what the parts mean. -/
theorem exists_ways_of_fullMatch? {r : Registry} {template : Text} {p : Pattern}
    (hp : Pattern.compile r template = .ok p) (hparts : p.IsEmbeddable []) {name : Text}
    {found : Progress}
    (hfound : p.regex.fullMatch? name = some found) :
    ∃ nodes : List (List Node),
      List.Forall₂ (Part.Means [] p.regex.groupNames) p.parts nodes ∧
        (∃ n, (nodes.flatten.flatMap Node.groups).Sublist (List.range' 1 n)) ∧
        found ∈ (Node.seq nodes.flatten).ways {} (.start name) ∧ found.position.after = [] := by
  have hexpression : p.expression [] = .ok p.regex := rfl
  obtain ⟨nodes, hmeans, hflags, hnode⟩ := exists_nodes_of_expression hp hparts hexpression
  rw [Regex.fullMatch?_anchored hflags hnode] at hfound
  obtain ⟨hmem, hend⟩ := Regex.after_eq_nil_of_find? hfound
  exact ⟨nodes, hmeans, Regex.exists_sublist_groups_anchored hnode, hmem, hend⟩

/-- A text match accounts for every character of the name, if the regular expressions
of the parts can be read without the flags that are given beside them. -/
theorem name_eq_covered {r : Registry} {template : Text} {p : Pattern}
    (hp : Pattern.compile r template = .ok p) {known : Prefilled} (hparts : p.IsEmbeddable known)
    {regex : Regex} (hregex : p.expression known = .ok regex) {name : Text} {found : Progress}
    (hfound : regex.fullMatch? name = some found) :
    name = p.parts.flatMap (Part.covered known (regex.namedGroup? found)) ∧
      ∀ c ∈ p.captures, c.required = true → known.value? c.identifier = none →
        (regex.namedGroup? found c.identifier).isSome = true := by
  obtain ⟨nodes, hmeans, hflags, hnode⟩ := exists_nodes_of_expression hp hparts hregex
  rw [Regex.fullMatch?_anchored hflags hnode] at hfound
  obtain ⟨hmem, hend⟩ := Regex.after_eq_nil_of_find? hfound
  obtain ⟨hcovered, hcaptured⟩ := covered_of_forall_means hmeans
    (Regex.nodup_groups_anchored hnode) (fun i _ => rfl) hmem
  rw [hend, List.append_nil] at hcovered
  refine ⟨hcovered, ?_⟩
  intro c hc
  exact hcaptured (.capture c) ((mem_captureParts p.parts c).mp hc)

/-- A name with a value known beforehand, and with an optional part that is not
there. -/
theorem name_eq_covered_known :
    ∃ p regex found,
      Pattern.compile defaultRegistry "\x7bCulture.\x7d[Type:]\x7bSection/\x7d[Key]" = .ok p ∧
      p.IsEmbeddable [("Section", some "s")] ∧
      p.expression [("Section", some "s")] = .ok regex ∧
      regex.fullMatch? "t:s/k" = some found ∧
      Text.ofString "t:s/k" = p.parts.flatMap
        (Part.covered [("Section", some "s")] (regex.namedGroup? found)) ∧
      ∀ c ∈ p.captures, c.required = true →
        Prefilled.value? [("Section", some "s")] c.identifier = none →
          (regex.namedGroup? found c.identifier).isSome = true := by
  obtain ⟨p, hp, hproperty⟩ := exists_of_compile_any defaultRegistry
    "\x7bCulture.\x7d[Type:]\x7bSection/\x7d[Key]"
    (fun p => decide (p.IsEmbeddable [("Section", some "s")]) &&
      (p.expression [("Section", some "s")]).toOption.any
        fun regex => (regex.fullMatch? "t:s/k").isSome) (by decide +kernel)
  obtain ⟨hparts, hmatches⟩ := Bool.and_eq_true_iff.mp hproperty
  have hparts := of_decide_eq_true hparts
  cases hregex : p.expression [("Section", some "s")] with
  | error e =>
      rw [hregex] at hmatches
      cases hmatches
  | ok regex =>
      rw [hregex] at hmatches
      obtain ⟨found, hfound⟩ := Option.isSome_iff_exists.mp hmatches
      exact ⟨p, regex, found, hp, hparts, hregex, hfound,
        name_eq_covered hp hparts hregex hfound⟩

/-- A registry where keys have an expression that is read with comments skipped. Read
without that, it closes the group that it was put in and opens another one. -/
def commentRegistry : Registry :=
  ({} : Registry).withInfo
    { name := "key", classification := .canonical
      pattern := regexOf "a # )|(?:b" { verbose := true } }

/-- A required part need not be there if its expression cannot be read without its
flags. -/
theorem not_name_eq_covered_comment :
    ∃ p found, Pattern.compile commentRegistry "[Key]" = .ok p ∧
      p.expression [] = .ok p.regex ∧ p.regex.fullMatch? "b" = some found ∧
      ∃ c ∈ p.captures, c.required = true ∧ Prefilled.value? [] c.identifier = none ∧
        p.regex.namedGroup? found c.identifier = none := by
  obtain ⟨p, hp, hproperty⟩ := exists_of_compile_any commentRegistry "[Key]"
    (fun p => (p.regex.fullMatch? "b").any fun found => p.captures.any fun c =>
      c.required && (p.regex.namedGroup? found c.identifier).isNone) (by decide +kernel)
  obtain ⟨found, hfound, hany⟩ := (Option.any_eq_true _ _).mp hproperty
  obtain ⟨c, hc, hmissing⟩ := List.any_eq_true.mp hany
  obtain ⟨hrequired, hnone⟩ := Bool.and_eq_true_iff.mp hmissing
  exact ⟨p, found, hp, rfl, hfound, c, hc, hrequired, rfl, Option.isNone_iff_eq_none.mp hnone⟩

end Pattern

end KeyNaming
