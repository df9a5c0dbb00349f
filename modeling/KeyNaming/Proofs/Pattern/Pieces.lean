import KeyNaming.Proofs.Pattern.Anchors
import KeyNaming.Proofs.Regex.Embedding
import KeyNaming.Proofs.Regex.Numbering
import KeyNaming.Proofs.Template.Drafts

/-!
What the expression of a pattern is read as.

The expression is text, so it is read again as a whole. Nevertheless each piece
of it is read as what its part stands for: the literals of a text, or a group
with the name of a capture between literals, whatever the regular expression of
the capture is.
-/

namespace KeyNaming

open Regex (Node Item State Reads Source Token literals escapeToken openTokens openNamedTokens)

/-! ## Tokens of the pieces -/

def Part.tokens (known : Prefilled) : Part → List Token
  | .literal _ text => text.map escapeToken
  | .capture c =>
    match known.value? c.identifier with
    | some value => (c.leading ++ value ++ c.trailing).map escapeToken
    | none =>
      openTokens ++ (c.leading.map escapeToken ++ (openNamedTokens c.identifier ++
        ((Token.ofText (stripAnchors c.regex.source)).1 ++ .plain ')' ::
          (c.trailing.map escapeToken ++ .plain ')' ::
            if c.required then [] else [.plain '?']))))

theorem tokens_capture_append (known : Prefilled) {c : Capture Occurrence}
    (hvalue : known.value? c.identifier = none) (tokens : List Token) :
    Part.tokens known (.capture c) ++ tokens =
      openTokens ++ (c.leading.map escapeToken ++ (openNamedTokens c.identifier ++
        ((Token.ofText (stripAnchors c.regex.source)).1 ++ .plain ')' ::
          (c.trailing.map escapeToken ++ .plain ')' ::
            ((if c.required then [] else [.plain '?']) ++ tokens))))) := by
  rw [Part.tokens, hvalue]
  simp only [List.append_assoc, List.cons_append]

theorem ofText_append_eq {s t : Text} {u v : List Token} {dangling : Bool}
    (hs : Token.ofText s = (u, false)) (ht : Token.ofText t = (v, dangling)) :
    Token.ofText (s ++ t) = (u ++ v, dangling) := by
  rw [Regex.ofText_append (by rw [hs]), hs, ht]

theorem not_dangling_source (r : Regex) : (Token.ofText r.source).2 = false := by
  obtain ⟨_, hread, _⟩ := Regex.exists_run_of_read r.read_source
  exact (Regex.reads_of_readText hread).1

theorem ofText_piece (known : Prefilled) {part : Part}
    (hpart : ∀ c, part = .capture c → c.IsNamed) :
    Token.ofText (part.piece known .all) = (part.tokens known, false) := by
  cases part with
  | literal written text => exact Regex.ofText_escape text
  | capture c =>
      have hword := (hpart c rfl).word
      have hleading := Regex.ofText_escape c.leading
      have htrailing := Regex.ofText_escape c.trailing
      rw [Part.piece, Part.tokens]
      simp only [Escaping.apply, Escaping.all, if_true]
      cases hvalue : known.value? c.identifier with
      | some value =>
          have hall := ofText_append_eq (ofText_append_eq hleading (Regex.ofText_escape value))
            htrailing
          simpa using hall
      | none =>
          obtain ⟨_, _, _, _, _, hstripped⟩ := tokens_stripAnchors (not_dangling_source c.regex)
          have hbody : Token.ofText (stripAnchors c.regex.source) =
              ((Token.ofText (stripAnchors c.regex.source)).1, false) := by
            rw [← hstripped]
          have hoptional : Token.ofText (if c.required then [] else Text.ofString "?") =
              (if c.required then [] else [.plain '?'], false) := by
            cases c.required <;> rfl
          have hclose : Token.ofText (Text.ofString ")") = ([.plain ')'], false) := rfl
          have hopen : Token.ofText (Text.ofString "(?:") = (openTokens, false) := rfl
          have hnamed : Token.ofText (Text.ofString "(?P<") =
              ([.plain '(', .plain '?', .plain 'P', .plain '<'], false) := rfl
          have hends : Token.ofText (Text.ofString ">") = ([.plain '>'], false) := rfl
          dsimp only
          rw [Regex.escape_of_word hword]
          have hall := ofText_append_eq (ofText_append_eq (ofText_append_eq (ofText_append_eq
            (ofText_append_eq (ofText_append_eq (ofText_append_eq (ofText_append_eq
              (ofText_append_eq hopen hleading) hnamed) (Regex.ofText_of_word hword)) hends)
                hbody) hclose) htrailing) hclose) hoptional
          rw [hall]
          simp [openNamedTokens]

/-! ## Reading the pieces -/

/-- The parts of the group of a capture, the value being in a group of its
own. -/
def Capture.nodes (c : Capture Occurrence) (i : Nat) (body : Node) : List Node :=
  literals c.leading ++ .group i body :: literals c.trailing

/-- What the piece of a capture is read as, given what its group is read as. -/
def Capture.item (c : Capture Occurrence) (nodes : List Node) : Item :=
  if c.required then .bare nodes else .node (.repeated .greedy 0 (some 1) (Node.seq nodes))

/-- Whether the source of an expression can be read without the flags that are given
beside it, as it is where it becomes a piece of a longer one. -/
def Regex.isEmbeddable (r : Regex) : Bool := (Regex.read r.source).isOk

/-- Whether an expression without flags beside it is regular without the anchors
around it. -/
def Regex.isRegularStripped (r : Regex) : Bool :=
  r.given.isNone &&
    (Regex.read (stripAnchors r.source)).toOption.any fun form => form.node.isRegular

/-- Whether what an expression takes from a text it takes from each excerpt as well,
wherever it stands: it has no flags beside it, refers to groups by their names, and is
inward. -/
def Regex.isInward (r : Regex) : Bool :=
  r.given.isNone && Regex.refersByName r && r.node.isInward

/-- Whether what an expression takes from an excerpt of a text it takes from the text
as well, wherever it stands: it has no flags beside it, refers to groups by their names,
and is outward without the anchors around it. -/
def Regex.isOutward (r : Regex) : Bool :=
  r.given.isNone && Regex.refersByName r &&
    (Regex.compile (stripAnchors r.source)).toOption.any fun stripped =>
      Regex.refersByName stripped && stripped.node.isOutward

theorem Regex.Flags.isNone_iff {f : Regex.Flags} : f.isNone = true ↔ f = {} := beq_iff_eq

/-- Without flags beside it an expression is what its source is read as. -/
theorem Regex.read_of_isNone {r : Regex} (h : r.given.isNone = true) :
    Regex.read r.source = .ok r.toForm := by
  have hread := r.read_source
  rw [Flags.isNone_iff.mp h] at hread
  exact hread

theorem Regex.isEmbeddable_of_isNone {r : Regex} (h : r.given.isNone = true) :
    r.isEmbeddable = true := by
  rw [isEmbeddable, read_of_isNone h]
  rfl

theorem Regex.isNone_of_isOutward {r : Regex} (h : r.isOutward = true) :
    r.given.isNone = true := by
  rw [isOutward, Bool.and_eq_true_iff, Bool.and_eq_true_iff] at h
  exact h.1.1

theorem Regex.exists_form {r : Regex} (h : r.isEmbeddable = true) :
    ∃ form, Regex.read r.source = .ok form := by
  rw [isEmbeddable] at h
  cases hread : Regex.read r.source with
  | ok form => exact ⟨form, rfl⟩
  | error e =>
      rw [hread] at h
      cases h

/-- What the group of a capture takes, told by what its regular expression matches
alone. The group can take that where the expression is outward, and nothing else where
it is inward, while nothing was captured inside of the group. -/
structure Capture.IsHeldBy (c : Capture Occurrence) (i : Nat) (body : Node) : Prop where
  spells : c.regex.isRegularStripped = true → ∀ t, c.regex.toForm.Matches t → body.Spells {} t
  takes : c.regex.isInward = true → ∀ t,
    body.Takes (fun j => ∃ k, j = Regex.shifted i k) {} t → c.regex.toForm.Matches t
  gives : c.regex.isOutward = true → ∀ t, c.regex.toForm.Matches t →
    body.Gives (fun j => ∃ k, j = Regex.shifted i k) {} t

/-- What parts of an expression stand for a part of a pattern. -/
inductive Part.Means (known : Prefilled) (names : List (Text × Nat)) : Part → List Node → Prop where
  | literal (written text : Text) : Means known names (.literal written text) (literals text)
  | given (c : Capture Occurrence) {value : Text}
      (hvalue : known.value? c.identifier = some value) :
      Means known names (.capture c) (literals (c.leading ++ value ++ c.trailing))
  | group (c : Capture Occurrence) {i : Nat} {body : Node}
      (hvalue : known.value? c.identifier = none) (hname : names.lookup c.identifier = some i)
      (hbody : c.IsHeldBy i body) :
      Means known names (.capture c) (c.item (c.nodes i body)).nodes

/-- What the expression of some parts asks of a capture: that it is named, and that its
own expression can be embedded, unless its value is known. -/
structure Capture.IsPlaced (known : Prefilled) (c : Capture Occurrence) : Prop
    extends c.IsNamed where
  embeddable : known.value? c.identifier = none → c.regex.isEmbeddable = true

def groupFrame (start : Nat) (nodes : List Node) : Regex.Frame where
  opener := .plain
  start := start
  verbose := false
  items := (nodes.map Item.node).reverse

theorem content_groupFrame (start : Nat) (nodes : List Node) :
    (groupFrame start nodes).content = nodes := by
  have hflat : (nodes.map Item.node).flatMap Item.nodes = nodes := by
    rw [List.flatMap_map]
    exact List.flatMap_singleton' nodes
  simp [groupFrame, Regex.Frame.content, Regex.Frame.current, Regex.joinAlternatives, hflat]

section

variable {st : State} (c : Capture Occurrence)

theorem reads_leading (hverbose : st.top.verbose = false) (position : Nat) (tokens : List Token) :
    ∃ position', Reads st (.ahead position (openTokens ++ (c.leading.map escapeToken ++ tokens)))
      { st with top := groupFrame position (literals c.leading), outer := st.top :: st.outer }
      (.ahead position' tokens) := by
  obtain ⟨p₁, hopen⟩ := Regex.reads_open hverbose position (c.leading.map escapeToken ++ tokens)
  obtain ⟨p₂, hleading⟩ := Regex.reads_escaped c.leading
    (st.openFrame .plain position false) rfl p₁ tokens
  refine ⟨p₂, hopen.trans ?_⟩
  simpa [State.add, State.openFrame, groupFrame] using hleading

/-- The piece of a capture after its value, up to the end of its group. -/
theorem reads_trailing {i start : Nat} (hopener : st.top.opener = .capture i)
    {outer : List Regex.Frame} (houter : st.outer = groupFrame start (literals c.leading) :: outer)
    (position : Nat) (tokens : List Token) :
    ∃ position', Reads st
      (.ahead position (.plain ')' :: (c.trailing.map escapeToken ++ tokens)))
      { st with
        top := groupFrame start (c.nodes i (Node.seq st.top.content)), outer,
        groups := (State.close st.top st.groups).2 } (.ahead position' tokens) := by
  have hvalue := Regex.reads_closing position (c.trailing.map escapeToken ++ tokens) houter
  have hitem : (State.close st.top st.groups).1 = .node (.group i (Node.seq st.top.content)) := by
    rw [State.close, hopener]
  have hframe : (groupFrame start (literals c.leading)).push
      (.node (.group i (Node.seq st.top.content))) =
        groupFrame start (literals c.leading ++ [.group i (Node.seq st.top.content)]) := by
    simp [Regex.Frame.push, groupFrame]
  rw [hitem, hframe] at hvalue
  obtain ⟨position', htrailing⟩ := Regex.reads_escaped c.trailing
    { st with
      top := groupFrame start (literals c.leading ++ [.group i (Node.seq st.top.content)]), outer,
      groups := (State.close st.top st.groups).2 } rfl (position + 1) tokens
  refine ⟨position', hvalue.trans ?_⟩
  simpa [State.add, groupFrame, Capture.nodes] using htrailing

variable (st) in
theorem reads_groupEnd {start : Nat} {nodes : List Node} {parent : Regex.Frame}
    {outer : List Regex.Frame} (htop : st.top = groupFrame start nodes)
    (houter : st.outer = parent :: outer) (hverbose : parent.verbose = false)
    {tokens : List Token} (hsettled : Regex.IsSettled tokens) (position : Nat) :
    ∃ position', Reads st
      (.ahead position (.plain ')' :: ((if c.required then [] else [.plain '?']) ++ tokens)))
      { st with top := parent.push (c.item nodes), outer } (.ahead position' tokens) := by
  have hclosing := Regex.reads_closing position
    ((if c.required then [] else [.plain '?']) ++ tokens) houter
  have hbare : State.close st.top st.groups = (.bare nodes, st.groups) := by
    rw [htop, State.close, content_groupFrame]
    rfl
  rw [hbare] at hclosing
  cases hrequired : c.required with
  | true =>
      refine ⟨position + 1, ?_⟩
      rw [hrequired] at hclosing
      rw [Capture.item, hrequired]
      exact hclosing
  | false =>
      have hoptional := @Regex.reads_optional { st with top := parent.push (.bare nodes), outer }
        hverbose (position + 1) tokens _ _ rfl hsettled
      refine ⟨position + 1 + 1, ?_⟩
      rw [hrequired] at hclosing
      rw [Capture.item, hrequired]
      exact hclosing.trans hoptional

end

theorem flatMap_nodes_map (nodes : List Node) :
    (nodes.map Item.node).flatMap Item.nodes = nodes := by
  rw [List.flatMap_map]
  exact List.flatMap_singleton' nodes

theorem toOption_eq_some {E A : Type} {x : Except E A} {a : A} (h : x.toOption = some a) :
    x = .ok a := by
  cases x with
  | error e => cases h
  | ok b => exact congrArg Except.ok (Option.some.inj h)

/-- What a group with a name is read as. Its value is read in the same way as
the regular expression of the capture alone, apart from anchors around it. -/
theorem exists_of_reads_group {st st' : State} {c : Capture Occurrence} (hc : c.IsNamed)
    (hembeddable : c.regex.isEmbeddable = true)
    (hverbose : st.top.verbose = false) {position : Nat} {tokens : List Token} {s' : Source}
    (h : Reads st (.ahead position (openNamedTokens c.identifier ++
      ((Token.ofText (stripAnchors c.regex.source)).1 ++ .plain ')' :: tokens))) st' s')
    (hnil : s'.tokens = []) :
    ∃ i mid position', mid.top.opener = .capture i ∧ mid.outer = st.top :: st.outer ∧
      mid.flags = st.flags ∧ st'.groups.names.lookup c.identifier = some i ∧
      c.IsHeldBy i (Node.seq mid.top.content) ∧
      Reads mid (.ahead position' (.plain ')' :: tokens)) st' s' := by
  have hname := Regex.lookup_eq_none_of_reads hverbose position _ hc.starts hc.word h hnil
  obtain ⟨p₁, hopen⟩ := Regex.reads_openNamed hverbose position
    ((Token.ofText (stripAnchors c.regex.source)).1 ++ .plain ')' :: tokens) hc.starts hc.word hname
  have hrest := hopen.rest h hnil
  obtain ⟨form, hform⟩ := Regex.exists_form hembeddable
  obtain ⟨first, last, hfirst, hlast, hsource, _⟩ :=
    tokens_stripAnchors (not_dangling_source c.regex)
  have hindex : (st.groups.named c.identifier).widths.length = st.groups.next :=
    List.length_append
  obtain ⟨mid, p₂, hbody, hembedded⟩ := Regex.exists_body hform hsource hfirst hlast
    rfl hindex (List.cons_ne_nil st.top st.outer) hrest hnil
  have hbegun : mid.HasBegun st.flags := hbody.preserves (fun _ _ _ => Regex.Effect.hasBegun)
    (Source.isChecked_ahead _ _) ⟨rfl, fun hempty => nomatch hempty⟩
  have hflags := hbegun.1
  have hsame (hgiven : c.regex.given.isNone = true) : form = c.regex.toForm :=
    Except.ok.inj (hform.symm.trans (Regex.read_of_isNone hgiven))
  have hstripped {stripped : Regex.Form}
      (h : Regex.read (stripAnchors c.regex.source) = .ok stripped) :
      stripped.IsEmbedded (Regex.ReadsByName .initial (.whole (stripAnchors c.regex.source)))
        st.groups.next (st.top :: st.outer) mid := by
    -- the same run, seen as the reading of what is left without the anchors
    have hwhole : (Token.ofText (stripAnchors c.regex.source)).1 =
        [] ++ ((Token.ofText (stripAnchors c.regex.source)).1 ++ []) := (List.append_nil _).symm
    obtain ⟨mid', p₃, hbody', hembedded'⟩ := Regex.exists_body h hwhole (.inl rfl) (.inl rfl) rfl
      hindex (List.cons_ne_nil st.top st.outer) hrest hnil
    obtain ⟨rfl, _⟩ := hbody.unique hbody' (Source.isChecked_ahead _ _) rfl
    exact hembedded'
  refine ⟨st.groups.next, mid, p₂, hembedded.opener, hembedded.outer, hflags, ?_,
    ⟨fun hregular => ?_, fun hinward => ?_, fun houtward => ?_⟩, hbody.rest hrest hnil⟩
  · apply hrest.lookup_name (Source.isChecked_ahead _ _)
    simp [State.openFrame, Regex.Groups.named, List.lookup_append, hname]
  · obtain ⟨hgiven, hany⟩ := Bool.and_eq_true_iff.mp hregular
    obtain ⟨stripped, hread, hnode⟩ := (Option.any_eq_true _ _).mp hany
    rw [← hsame hgiven]
    exact hembedded.spells ((hstripped (toOption_eq_some hread)).regular hnode)
  · obtain ⟨hbyname, hnode⟩ := Bool.and_eq_true_iff.mp hinward
    obtain ⟨hgiven, hbyname⟩ := Bool.and_eq_true_iff.mp hbyname
    rw [← hsame hgiven] at hnode ⊢
    exact hembedded.takes (Regex.readsByName_of_refersByName hbyname) hnode
  · obtain ⟨hbyname, hany⟩ := Bool.and_eq_true_iff.mp houtward
    obtain ⟨hgiven, hbyname⟩ := Bool.and_eq_true_iff.mp hbyname
    obtain ⟨stripped, hcompile, hmeets⟩ := (Option.any_eq_true _ _).mp hany
    obtain ⟨hbynameStripped, hnode⟩ := Bool.and_eq_true_iff.mp hmeets
    obtain ⟨hread, hsource, _⟩ := Regex.compile_ok (toOption_eq_some hcompile)
    have hnamed := Regex.readsByName_of_refersByName hbynameStripped
    rw [hsource] at hnamed
    rw [← hsame hgiven]
    exact hembedded.gives (Regex.readsByName_of_refersByName hbyname)
      ((hstripped hread).outward hnamed hnode)

/-- The piece of a part is read as what the part means. -/
theorem exists_of_reads_part (known : Prefilled) {part : Part}
    (hpart : ∀ c, part = .capture c → c.IsPlaced known) {st st' : State}
    (hverbose : st.top.verbose = false) {position : Nat} {tokens : List Token} {s' : Source}
    (hsettled : Regex.IsSettled tokens)
    (h : Reads st (.ahead position (part.tokens known ++ tokens)) st' s') (hnil : s'.tokens = []) :
    ∃ items groups position', Part.Means known st'.groups.names part (items.flatMap Item.nodes) ∧
      Reads { st.add items with groups } (.ahead position' tokens) st' s' := by
  have hliterals (text : Text)
      (h : Reads st (.ahead position (text.map escapeToken ++ tokens)) st' s') :
      ∃ position', Reads (st.add ((literals text).map .node)) (.ahead position' tokens) st' s' := by
    obtain ⟨p₁, hread⟩ := Regex.reads_escaped text st hverbose position tokens
    exact ⟨p₁, hread.rest h hnil⟩
  cases part with
  | literal written text =>
      obtain ⟨p₁, hrest⟩ := hliterals text h
      refine ⟨(literals text).map .node, st.groups, p₁, ?_, hrest⟩
      rw [flatMap_nodes_map]
      exact .literal written text
  | capture c =>
      cases hvalue : known.value? c.identifier with
      | some value =>
          have htokens : Part.tokens known (.capture c) =
              (c.leading ++ value ++ c.trailing).map escapeToken := by
            rw [Part.tokens, hvalue]
          rw [htokens] at h
          obtain ⟨p₁, hrest⟩ := hliterals _ h
          refine ⟨(literals (c.leading ++ value ++ c.trailing)).map .node, st.groups, p₁, ?_, hrest⟩
          rw [flatMap_nodes_map]
          exact .given c hvalue
      | none =>
          rw [tokens_capture_append known hvalue] at h
          obtain ⟨p₁, hleading⟩ := reads_leading c hverbose position _
          obtain ⟨i, mid, p₂, hopener, houter, hflags, hname, hheld, hrest⟩ :=
            exists_of_reads_group (hpart c rfl).toIsNamed ((hpart c rfl).embeddable hvalue) rfl
              (hleading.rest h hnil) hnil
          obtain ⟨p₃, htrailing⟩ := reads_trailing c hopener houter p₂ _
          have hrest := htrailing.rest hrest hnil
          obtain ⟨p₄, hend⟩ := reads_groupEnd { mid with
            top := groupFrame position (c.nodes i (Node.seq mid.top.content))
            outer := st.top :: st.outer
            groups := (State.close mid.top mid.groups).2 } c rfl rfl hverbose hsettled p₃
          have hrest := hend.rest hrest hnil
          rw [hflags] at hrest
          refine ⟨[c.item (c.nodes i (Node.seq mid.top.content))],
            (State.close mid.top mid.groups).2, p₄, ?_, hrest⟩
          rw [List.flatMap_singleton]
          exact .group c hvalue hname hheld

theorem isSettled_tokens (known : Prefilled) (parts : List Part) {tokens : List Token}
    (h : Regex.IsSettled tokens) :
    Regex.IsSettled (parts.flatMap (Part.tokens known) ++ tokens) := by
  induction parts with
  | nil => exact h
  | cons part rest ih =>
      rw [List.flatMap_cons, List.append_assoc]
      cases part with
      | literal written text => exact Regex.isSettled_escaped text ih
      | capture c =>
          rw [Part.tokens]
          split
          · exact Regex.isSettled_escaped _ ih
          · have hopens (d : Char) (hd : Token.plain '(' ≠ .plain d) (tokens : List Token) :
                (openTokens ++ tokens).head? ≠ some (.plain d) :=
              fun heq => hd (Option.some.inj heq)
            rw [List.append_assoc]
            exact ⟨hopens '?' (by decide) _, hopens '+' (by decide) _⟩

/-- The pieces of parts are read one after the other. -/
theorem exists_of_reads_parts (known : Prefilled) {parts : List Part}
    (hparts : ∀ c, PartOf.capture c ∈ parts → c.IsPlaced known) {st st' : State}
    (hverbose : st.top.verbose = false) {position : Nat} {s' : Source}
    (h : Reads st (.ahead position (parts.flatMap (Part.tokens known) ++ [.plain '$'])) st' s')
    (hnil : s'.tokens = []) :
    ∃ (items : List (List Item)) (groups : Regex.Groups) (position' : Nat),
      List.Forall₂ (fun part items => Part.Means known st'.groups.names part
        (items.flatMap Item.nodes)) parts items ∧
      Reads { st.add items.flatten with groups } (.ahead position' [.plain '$']) st' s' := by
  induction parts generalizing st position with
  | nil => exact ⟨[], st.groups, position, .nil, h⟩
  | cons part rest ih =>
      rw [List.flatMap_cons, List.append_assoc] at h
      have hsettled : Regex.IsSettled (rest.flatMap (Part.tokens known) ++ [.plain '$']) :=
        isSettled_tokens known rest ⟨by decide, by decide⟩
      obtain ⟨items, groups, p₁, hmeans, hrest⟩ := exists_of_reads_part known
        (fun c hc => hparts c (hc ▸ List.mem_cons_self)) hverbose hsettled h hnil
      obtain ⟨others, groups', p₂, hforall, hend⟩ := ih
        (fun c hc => hparts c (List.mem_cons_of_mem part hc)) (by exact hverbose) hrest
      refine ⟨items :: others, groups', p₂, .cons hmeans hforall, ?_⟩
      simpa [State.add] using hend

theorem ofText_regexSource (known : Prefilled) {parts : List Part}
    (hparts : ∀ c, PartOf.capture c ∈ parts → c.IsNamed) :
    Token.ofText (regexSource parts known .all) =
      (.plain '^' :: (parts.flatMap (Part.tokens known) ++ [.plain '$']), false) := by
  have hpieces : Token.ofText (parts.flatMap (Part.piece known .all)) =
      (parts.flatMap (Part.tokens known), false) := by
    induction parts with
    | nil => rfl
    | cons part rest ih =>
        rw [List.flatMap_cons, List.flatMap_cons]
        exact ofText_append_eq (ofText_piece known fun c hc => hparts c (hc ▸ List.mem_cons_self))
          (ih fun c hc => hparts c (List.mem_cons_of_mem part hc))
  have hstart : Token.ofText (Text.ofString "^") = ([.plain '^'], false) := rfl
  have hend : Token.ofText (Text.ofString "$") = ([.plain '$'], false) := rfl
  exact ofText_append_eq (ofText_append_eq hstart hpieces) hend

/-- What the expression of some parts is read as: what each of them means,
between the anchors of the whole. -/
theorem exists_nodes_of_read {parts : List Part} {known : Prefilled} {form : Regex.Form}
    (hparts : ∀ c, PartOf.capture c ∈ parts → c.IsPlaced known)
    (h : Regex.read (regexSource parts known .all) = .ok form) :
    ∃ nodes : List (List Node),
      List.Forall₂ (Part.Means known form.groupNames) parts nodes ∧ form.flags = {} ∧
        form.node = Node.seq (.atom (.anchor .lineStart) ::
          (nodes.flatten ++ [.atom (.anchor .lineEnd)])) := by
  have htokens := ofText_regexSource known fun c hc => (hparts c hc).toIsNamed
  obtain ⟨st, hread, hnode, hflags, hnames⟩ := Regex.exists_run_of_read h
  obtain ⟨_, s, hreads, hnil, _⟩ := Regex.reads_of_readText hread
  rw [Source.whole, htokens] at hreads
  have hrest := (Regex.reads_caret rfl 0 _).rest hreads hnil
  obtain ⟨items, groups, position, hmeans, hend⟩ :=
    exists_of_reads_parts known hparts rfl hrest hnil
  have hst := ((Regex.reads_dollar rfl position []).rest hend hnil).eq_of_nil rfl
  subst hst
  refine ⟨items.map (List.flatMap Item.nodes), ?_, hflags, ?_⟩
  · rw [hnames, List.forall₂_map_right_iff]
    exact hmeans
  · have hflatten : items.flatten.flatMap Item.nodes =
        (items.map (List.flatMap Item.nodes)).flatten := by
      rw [List.flatMap_def, List.map_flatten, List.flatten_flatten, List.map_map]
      rfl
    rw [hnode, ← hflatten]
    simp [Regex.Frame.content, Regex.Frame.current, Regex.joinAlternatives, State.push, State.add,
      State.initial, Regex.Frame.push, Item.nodes]

end KeyNaming
