import KeyNaming.Proofs.Pattern.Rejection
import KeyNaming.Proofs.Template.Collision

/-!
Putting the expression of a pattern together from pieces that can be read.

Where the expression of each capture is read in the same way whatever stands
around it, the whole can be read, with any values known beforehand: a value is
literal text, and a group that goes with it leaves the others as they are, but
for their numbers.
-/

namespace KeyNaming

open Regex (Item Node Reads Source State Token escapeToken literals openNamedTokens openTokens)

/-! ## Identifiers -/

/-- The identifier of a part tells it from all others of its pattern. -/
theorem Pattern.nodup_identifiers {r : Registry} {template : Text} {p : Pattern}
    (hp : Pattern.compile r template = .ok p) : (p.captures.map Capture.identifier).Nodup := by
  obtain ⟨_, _, _, _, hcheck, _⟩ := compile_ok hp
  have hnodup := (Template.checkIdentifiers_eq_ok_iff.mp hcheck).1
  rw [← Function.comp_def, ← List.map_map] at hnodup
  exact hnodup.of_map _

/-! ## Checks of the whole -/

namespace Regex

theorem check_of_isRegular {flags : Flags} (htemplate : flags.template = false) {n : Node}
    (hn : n.isRegular = true) : n.check flags = .ok () := by
  induction n with
  | empty => rfl
  | atom a => rfl
  | cat first second ihf ihs =>
      obtain ⟨hfirst, hsecond⟩ := Bool.and_eq_true_iff.mp hn
      rw [Node.check, ihf hfirst]
      exact ihs hsecond
  | alt first second ihf ihs =>
      obtain ⟨hfirst, hsecond⟩ := Bool.and_eq_true_iff.mp hn
      rw [Node.check, ihf hfirst]
      exact ihs hsecond
  | group i body ih => exact ih hn
  | «scoped» added removed body ih => exact ih hn
  | repeated greed min max body ih =>
      rw [Node.check, htemplate]
      exact ih (Bool.and_eq_true_iff.mp hn).2
  | look direction negated body ih => cases hn
  | atomic body ih => cases hn
  | conditional i present absent ihp iha => cases hn

theorem check_seq {flags : Flags} {nodes : List Node} (h : ∀ n ∈ nodes, n.check flags = .ok ()) :
    (Node.seq nodes).check flags = .ok () := by
  induction nodes with
  | nil => rfl
  | cons n rest ih =>
      rw [Node.seq_cons, Node.check, h n List.mem_cons_self]
      exact ih fun m hm => h m (List.mem_cons_of_mem n hm)

theorem isRegular_literals (t : Text) : (literals t).all Node.isRegular = true := by
  rw [literals, List.all_map, List.all_eq_true]
  intro c _
  rfl

end Regex

/-! ## Reading the pieces -/

/-- Whether the tokens read since a group was opened make up a given part of an
expression, but for the numbers of groups, and change nothing else. -/
structure Regex.State.Fills (st mid : State) (body : Node) : Prop where
  opener : mid.top.opener = st.top.opener
  outer : mid.outer = st.outer
  flags : mid.flags = st.flags
  names : mid.groups.names = st.groups.names
  mentioned : mid.groups.mentioned = st.groups.mentioned
  plain : (Node.seq mid.top.content).plain = body

/-- Whether an expression without the anchors around it is read as a given part
in every group. -/
def Regex.IsReadAs (r : Regex) (body : Node) : Prop :=
  ∀ (st : State) (index start position : Nat) (tokens : List Token),
    st.top = { opener := .capture index, start, verbose := false } →
      ∃ mid position',
        Reads st
          (.ahead position ((Token.ofText (stripAnchors r.source)).1 ++ .plain ')' :: tokens))
          mid (.ahead position' (.plain ')' :: tokens)) ∧
        st.Fills mid body

theorem Regex.IsReadAs.unique {r : Regex} {body other : Node} (h : r.IsReadAs body)
    (h' : r.IsReadAs other) : body = other := by
  let st : State := { top := { opener := .capture 0, start := 0, verbose := false } }
  obtain ⟨mid, _, hreads, hfills⟩ := h st 0 0 0 [] rfl
  obtain ⟨mid', _, hreads', hfills'⟩ := h' st 0 0 0 [] rfl
  obtain ⟨rfl, _⟩ := hreads.unique hreads' (Source.isChecked_ahead _ _) rfl
  rw [← hfills.plain, hfills'.plain]

/-- What a part of a pattern becomes in the expression for some known values:
literal text, or a group that holds what the regular expression of the capture
is read as everywhere. -/
inductive Part.Becomes (known : Prefilled) (names : List (Text × Nat)) :
    Part → List Node → Prop where
  | literal (written text : Text) : Becomes known names (.literal written text) (literals text)
  | given (c : Capture Occurrence) {value : Text}
      (hvalue : known.value? c.identifier = some value) :
      Becomes known names (.capture c) (literals (c.leading ++ value ++ c.trailing))
  | group (c : Capture Occurrence) {i : Nat} {node : Node}
      (hvalue : known.value? c.identifier = none) (hname : names.lookup c.identifier = some i)
      (hregular : node.isRegular = true) (hbody : c.regex.IsReadAs node.plain) :
      Becomes known names (.capture c) (c.item (c.nodes i node)).nodes

theorem isRegular_item (c : Capture Occurrence) (i : Nat) {node : Node}
    (h : node.isRegular = true) :
    (c.item (c.nodes i node)).nodes.all Node.isRegular = true := by
  have hnodes : (c.nodes i node).all Node.isRegular = true := by
    rw [Capture.nodes, List.all_append, List.all_cons, Regex.isRegular_literals,
      Regex.isRegular_literals, Node.isRegular, h]
    rfl
  rw [Capture.item]
  split
  · exact hnodes
  · simpa [Item.nodes, Node.isRegular, Node.isRegular_seq] using hnodes

theorem Part.Becomes.isRegular {known : Prefilled} {names : List (Text × Nat)} {part : Part}
    {nodes : List Node} (h : part.Becomes known names nodes) :
    nodes.all Node.isRegular = true := by
  cases h with
  | literal written text => exact Regex.isRegular_literals text
  | given c hvalue => exact Regex.isRegular_literals _
  | group c hvalue hname hregular hbody => exact isRegular_item c _ hregular

section

variable {known : Prefilled}

theorem isRegular_of_forall_becomes {names : List (Text × Nat)} {parts : List Part}
    {nodes : List (List Node)} (h : List.Forall₂ (Part.Becomes known names) parts nodes) :
    ∀ n ∈ nodes.flatten, n.isRegular = true := by
  induction h with
  | nil => simp
  | cons hbecomes _ ih =>
      intro n hn
      rw [List.flatten_cons] at hn
      rcases List.mem_append.mp hn with hn | hn
      · exact List.all_eq_true.mp hbecomes.isRegular n hn
      · exact ih n hn

/-- The piece of a capture without a known value is read as its group. -/
theorem exists_reads_group {c : Capture Occurrence} (hc : c.IsNamed)
    (hvalue : known.value? c.identifier = none) {body : Node} (hbody : c.regex.IsReadAs body)
    {st : State} (hverbose : st.top.verbose = false)
    (hfresh : st.groups.names.lookup c.identifier = none) {tokens : List Token}
    (hsettled : Regex.IsSettled tokens) (position : Nat) :
    ∃ node groups position',
      Reads st (.ahead position (Part.tokens known (.capture c) ++ tokens))
        { st.push (c.item (c.nodes st.groups.next node)) with groups } (.ahead position' tokens) ∧
      node.plain = body ∧ groups.names = st.groups.names ++ [(c.identifier, st.groups.next)] ∧
      groups.mentioned = st.groups.mentioned := by
  rw [tokens_capture_append known hvalue]
  obtain ⟨p₁, hleading⟩ := reads_leading c hverbose position _
  let outside : State :=
    { st with top := groupFrame position (literals c.leading), outer := st.top :: st.outer }
  obtain ⟨p₂, hopen⟩ := Regex.reads_openNamed (show outside.top.verbose = false from rfl) p₁ _
    hc.starts hc.word hfresh
  let inside := { outside with groups := st.groups.named c.identifier }.openFrame
    (.capture st.groups.next) p₁ false
  obtain ⟨mid, p₃, hinside, hfills⟩ := hbody inside st.groups.next p₁ p₂ _ rfl
  obtain ⟨p₄, htrailing⟩ := reads_trailing c hfills.opener hfills.outer p₃ _
  obtain ⟨p₅, hend⟩ := reads_groupEnd { mid with
    top := groupFrame position (c.nodes st.groups.next (Node.seq mid.top.content))
    outer := st.top :: st.outer
    groups := (State.close mid.top mid.groups).2 } c rfl rfl hverbose hsettled p₄
  have hreads := hleading.trans (hopen.trans (hinside.trans (htrailing.trans hend)))
  refine ⟨Node.seq mid.top.content, (State.close mid.top mid.groups).2, p₅, ?_, hfills.plain,
    ?_, ?_⟩
  · rw [hfills.flags] at hreads
    exact hreads
  · rw [State.names_close, hfills.names]
    rfl
  · have hmentioned : (State.close mid.top mid.groups).2.mentioned = mid.groups.mentioned := by
      rw [State.close, hfills.opener]
      rfl
    rw [hmentioned, hfills.mentioned]
    rfl

/-- The piece of a part is read as what the part becomes. -/
theorem exists_reads_part {part : Part} (hpart : ∀ c, part = .capture c → c.IsNamed)
    (hbodies : ∀ c, part = .capture c → known.value? c.identifier = none →
      ∃ body : Node, body.isRegular = true ∧ c.regex.IsReadAs body)
    {st : State} (hverbose : st.top.verbose = false)
    (hfresh : ∀ c, part = .capture c → st.groups.names.lookup c.identifier = none)
    {tokens : List Token} (hsettled : Regex.IsSettled tokens) (position : Nat) :
    ∃ items groups position',
      Reads st (.ahead position (part.tokens known ++ tokens)) { st.add items with groups }
        (.ahead position' tokens) ∧
      (∀ names, groups.names <+: names → part.Becomes known names (items.flatMap Item.nodes)) ∧
      groups.mentioned = st.groups.mentioned ∧
      ∀ name, (∀ c, part = .capture c → c.identifier ≠ name) →
        groups.names.lookup name = st.groups.names.lookup name := by
  have hliterals (text : Text) : ∃ position',
      Reads st (.ahead position (text.map escapeToken ++ tokens))
        { st.add ((literals text).map .node) with groups := st.groups }
        (.ahead position' tokens) :=
    Regex.reads_escaped text st hverbose position tokens
  cases part with
  | literal written text =>
      obtain ⟨p₁, hreads⟩ := hliterals text
      refine ⟨_, _, p₁, hreads, fun names _ => ?_, rfl, fun _ _ => rfl⟩
      rw [flatMap_nodes_map]
      exact .literal written text
  | capture c =>
      cases hvalue : known.value? c.identifier with
      | some value =>
          obtain ⟨p₁, hreads⟩ := hliterals (c.leading ++ value ++ c.trailing)
          refine ⟨(literals (c.leading ++ value ++ c.trailing)).map .node, st.groups, p₁, ?_,
            fun names _ => ?_, rfl, fun _ _ => rfl⟩
          · rw [Part.tokens, hvalue]
            exact hreads
          · rw [flatMap_nodes_map]
            exact .given c hvalue
      | none =>
          obtain ⟨body, hregular, hbody⟩ := hbodies c rfl hvalue
          obtain ⟨node, groups, p₁, hreads, hplain, hnames, hmentioned⟩ :=
            exists_reads_group (hpart c rfl) hvalue hbody hverbose (hfresh c rfl) hsettled position
          refine ⟨[c.item (c.nodes st.groups.next node)], groups, p₁, hreads, ?_, hmentioned, ?_⟩
          · rintro names ⟨later, rfl⟩
            rw [List.flatMap_singleton]
            refine .group c hvalue ?_ (by rw [← Node.isRegular_plain, hplain, hregular])
              (by rw [hplain]; exact hbody)
            simp [hnames, List.lookup_append, hfresh c rfl]
          · intro name hname
            have hne : (name == c.identifier) = false :=
              beq_eq_false_iff_ne.mpr (hname c rfl).symm
            simp [hnames, List.lookup_append, List.lookup_cons, hne]

/-- The pieces of parts are read one after the other. -/
theorem exists_reads_parts {parts : List Part} (hparts : ∀ c, PartOf.capture c ∈ parts → c.IsNamed)
    (hbodies : ∀ c, PartOf.capture c ∈ parts → known.value? c.identifier = none →
      ∃ body : Node, body.isRegular = true ∧ c.regex.IsReadAs body)
    (hnodup : ((captureParts parts).map Capture.identifier).Nodup) {st : State}
    (hverbose : st.top.verbose = false)
    (hfresh : ∀ c, PartOf.capture c ∈ parts → st.groups.names.lookup c.identifier = none)
    (position : Nat) :
    ∃ (items : List (List Item)) (groups : Regex.Groups) (position' : Nat),
      Reads st (.ahead position (parts.flatMap (Part.tokens known) ++ [.plain '$']))
        { st.add items.flatten with groups } (.ahead position' [.plain '$']) ∧
      (∀ names, groups.names <+: names → List.Forall₂
        (fun part items => Part.Becomes known names part (items.flatMap Item.nodes)) parts items) ∧
      groups.mentioned = st.groups.mentioned := by
  induction parts generalizing st position with
  | nil => exact ⟨[], st.groups, position, .done _ _, fun _ _ => .nil, rfl⟩
  | cons part rest ih =>
      have hsettled : Regex.IsSettled (rest.flatMap (Part.tokens known) ++ [.plain '$']) :=
        isSettled_tokens known rest ⟨by decide, by decide⟩
      obtain ⟨items, groups, p₁, hreads, hbecomes, hmentioned, hothers⟩ := exists_reads_part
        (fun c hc => hparts c (hc ▸ List.mem_cons_self))
        (fun c hc => hbodies c (hc ▸ List.mem_cons_self)) hverbose
        (fun c hc => hfresh c (hc ▸ List.mem_cons_self)) hsettled position
      -- the identifier of this part is none of those after it
      have hapart (c : Capture Occurrence) (hc : PartOf.capture c ∈ rest) :
          groups.names.lookup c.identifier = none := by
        rw [hothers c.identifier ?_]
        · exact hfresh c (List.mem_cons_of_mem part hc)
        · rintro first rfl heq
          rw [captureParts_capture, List.map_cons, List.nodup_cons] at hnodup
          exact hnodup.1 (List.mem_map.mpr ⟨c, (mem_captureParts rest c).mpr hc, heq.symm⟩)
      have hnodupRest : ((captureParts rest).map Capture.identifier).Nodup := by
        cases part with
        | literal written text => exact hnodup
        | capture c =>
            rw [captureParts_capture, List.map_cons, List.nodup_cons] at hnodup
            exact hnodup.2
      obtain ⟨others, groups', p₂, hrest, hforall, hmentioned'⟩ := ih
        (fun c hc => hparts c (List.mem_cons_of_mem part hc))
        (fun c hc => hbodies c (List.mem_cons_of_mem part hc)) hnodupRest
        (show ({ st.add items with groups } : State).top.verbose = false from hverbose) hapart p₁
      have hnames : groups.names <+: groups'.names := hrest.names (Source.isChecked_ahead _ _)
      refine ⟨items :: others, groups', p₂, ?_, ?_, hmentioned'.trans hmentioned⟩
      · rw [List.flatMap_cons, List.append_assoc]
        refine hreads.trans ?_
        simpa [State.add] using hrest
      · intro names hprefix
        exact .cons (hbecomes names (hnames.trans hprefix)) (hforall names hprefix)

/-- The expression of parts can be read, whichever values are known, if their
own expressions are read alike everywhere. -/
theorem exists_read_regexSource {parts : List Part}
    (hparts : ∀ c, PartOf.capture c ∈ parts → c.IsNamed)
    (hbodies : ∀ c, PartOf.capture c ∈ parts → known.value? c.identifier = none →
      ∃ body : Node, body.isRegular = true ∧ c.regex.IsReadAs body)
    (hnodup : ((captureParts parts).map Capture.identifier).Nodup) :
    ∃ (form : Regex.Form) (nodes : List (List Node)),
      Regex.read (regexSource parts known .all) = .ok form ∧
      List.Forall₂ (Part.Becomes known form.groupNames) parts nodes ∧ form.flags = {} ∧
      form.node = Node.seq (.atom (.anchor .lineStart) ::
        (nodes.flatten ++ [.atom (.anchor .lineEnd)])) := by
  have htokens := ofText_regexSource known hparts
  have hcaret := Regex.reads_caret (show State.initial.top.verbose = false from rfl) 0
    (parts.flatMap (Part.tokens known) ++ [.plain '$'])
  let begun : State := State.initial.push (.node (.atom (.anchor .lineStart)))
  obtain ⟨items, groups, p₁, hreads, hforall, hmentioned⟩ := exists_reads_parts hparts hbodies
    hnodup (show begun.top.verbose = false from rfl) (fun _ _ => rfl) 1
  let done : State := ({ begun.add items.flatten with groups } : State).push
    (.node (.atom (.anchor .lineEnd)))
  have hdollar := Regex.reads_dollar
    (show ({ begun.add items.flatten with groups } : State).top.verbose = false from rfl) p₁ []
  have hruns :
      Reads .initial (.whole (regexSource parts known .all)) done (.ahead (p₁ + 1) []) := by
    rw [Source.whole, htokens]
    exact hcaret.trans (hreads.trans hdollar)
  have hwhole : Regex.readText (regexSource parts known .all) = .ok done :=
    Regex.readText_of_reads (by rw [htokens]) hruns rfl rfl rfl hmentioned
  let nodes := items.map (List.flatMap Item.nodes)
  have hbecomes : List.Forall₂ (Part.Becomes known groups.names) parts nodes :=
    List.forall₂_map_right_iff.mpr (hforall groups.names (List.prefix_refl _))
  have hcontent : done.top.content = .atom (.anchor .lineStart) ::
      (nodes.flatten ++ [.atom (.anchor .lineEnd)]) := by
    have hflatten : items.flatten.flatMap Item.nodes = nodes.flatten := by
      rw [List.flatMap_def, List.map_flatten, List.flatten_flatten, List.map_map]
      rfl
    rw [← hflatten]
    simp [done, begun, Regex.Frame.content, Regex.Frame.current, Regex.joinAlternatives,
      State.push, State.add, State.initial, Regex.Frame.push, Item.nodes]
  have hchecked : (Node.seq done.top.content).check done.flags = .ok () := by
    rw [hcontent]
    apply Regex.check_seq
    intro n hn
    rcases List.mem_cons.mp hn with rfl | hn
    · rfl
    · rcases List.mem_append.mp hn with hn | hn
      · exact Regex.check_of_isRegular rfl (isRegular_of_forall_becomes hbecomes n hn)
      · rw [List.mem_singleton.mp hn]
        rfl
  refine ⟨⟨Node.seq done.top.content, {}, groups.widths.length, groups.names⟩, nodes, ?_,
    hbecomes, rfl, by rw [hcontent]⟩
  simp only [Regex.read, hwhole, bind, Except.bind, hchecked]
  rfl

end

end KeyNaming
