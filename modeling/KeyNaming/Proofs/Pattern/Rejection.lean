import KeyNaming.Proofs.Pattern.Pieces

/-!
Why the expression of a pattern may be refused.

Where the regular expressions of the captures can be read one by one as they stand
in it, no number in them is too large and no flags clash. Put together they can be
rejected all the same, as for a group name that is used twice, but nothing
else can stop the reading.
-/

namespace KeyNaming

open Regex (IsMild Node Source State Stops Token escapeToken openNamedTokens)

namespace Regex

theorem isMild_check (flags : Flags) (n : Node) : IsMild (n.check flags) := by
  induction n with
  | empty => trivial
  | atom a => trivial
  | cat p q ihp ihq => exact ihp.bind fun _ => ihq
  | alt p q ihp ihq => exact ihp.bind fun _ => ihq
  | group i p ih => exact ih
  | «scoped» added removed p ih => exact ih
  | repeated greed min max p ih => exact IsMild.ite _ rfl ih
  | look direction negated p ih =>
      cases direction with
      | ahead => exact ih
      | behind width => exact IsMild.ite _ rfl (IsMild.ite _ ih rfl)
  | atomic p ih => exact ih
  | conditional i p q ihp ihq => exact ihp.bind fun _ => ihq

theorem isMild_checkMentioned (g : Groups) : IsMild g.checkMentioned := by
  rw [Groups.checkMentioned]
  split
  · rfl
  · trivial

theorem isMild_readText {t : Text} {s : Source} (hs : Source.ofText t = .ok s)
    (hall : Outcome (fun e => e.isRejected = true) (fun st => st.flags = {})
      (readAll s.tokens.length .initial s)) : IsMild (readText t) := by
  have hsource : Outcome (fun e => e.isRejected = true) (fun s' => s' = s) (Source.ofText t) :=
    Outcome.of_eq hs
  refine Outcome.bind hsource ?_
  rintro _ rfl
  refine Outcome.bind hall fun st hflags => ?_
  rw [hflags]
  split
  · rfl
  · exact (isMild_checkMentioned st.groups).bind fun _ => trivial

theorem isMild_compile {t : Text} (h : IsMild (readText t)) : IsMild (compile t) := by
  have hread : IsMild (read t) := h.bind fun st =>
    (isMild_check st.flags (Node.seq st.top.content)).bind fun _ => trivial
  rw [compile, if_neg Bool.false_ne_true]
  split
  · trivial
  · next e he =>
    unfold IsMild at hread
    exact hread.error he

end Regex

section

variable {st : State} {e : Regex.Error} {position : Nat} {tokens : List Token}

/-- What stops in the group of a capture is a rejection, or it stops where the
group is closed. -/
theorem rejected_or_stops_group {c : Capture Occurrence} (hc : c.IsNamed)
    (hembeddable : c.regex.isEmbeddable = true) (hverbose : st.top.verbose = false)
    (h : Stops st (.ahead position (openNamedTokens c.identifier ++
      ((Token.ofText (stripAnchors c.regex.source)).1 ++ .plain ')' :: tokens))) e) :
    e.isRejected = true ∨ ∃ i mid position', mid.top.opener = .capture i ∧
      mid.outer = st.top :: st.outer ∧ Stops mid (.ahead position' (.plain ')' :: tokens)) e := by
  cases hname : st.groups.names.lookup c.identifier with
  | some previous =>
      obtain ⟨p₁, hread⟩ := Regex.readToken_openNamed hverbose position
        ((Token.ofText (stripAnchors c.regex.source)).1 ++ .plain ')' :: tokens) hc.starts hc.word
      rw [Regex.Groups.openNamed, hname] at hread
      rw [h.unique (.here rfl hread)]
      exact .inl rfl
  | none =>
      obtain ⟨p₁, hopen⟩ := Regex.reads_openNamed hverbose position
        ((Token.ofText (stripAnchors c.regex.source)).1 ++ .plain ')' :: tokens) hc.starts hc.word
        hname
      have hrest := h.rest hopen
      let inner := { st with groups := st.groups.named c.identifier }.openFrame
        (.capture st.groups.next) position false
      have htop : inner.top =
          { opener := .capture st.groups.next, start := position, verbose := false } := rfl
      have hindex : inner.groups.widths.length = st.groups.next := List.length_append
      have houter : inner.outer ≠ [] := List.cons_ne_nil st.top st.outer
      obtain ⟨form, hform⟩ := Regex.exists_form hembeddable
      obtain ⟨first, last, hfirst, hlast, hsource, _⟩ :=
        tokens_stripAnchors (not_dangling_source c.regex)
      rcases Regex.stops_or_exists_body hform hsource hfirst hlast htop hindex houter
        p₁ tokens with ⟨e', hrejected, hstops⟩ | ⟨mid, p₂, hbody, hembedded⟩
      · rw [hrest.unique hstops]
        exact .inl hrejected
      · exact .inr ⟨_, mid, p₂, hembedded.opener, hembedded.outer, hrest.rest hbody⟩

/-- What stops in the piece of a part is a rejection, or it stops behind the
piece, in a state that the next piece can start from. -/
theorem rejected_or_stops_part (known : Prefilled) {part : Part}
    (hpart : ∀ c, part = .capture c → c.IsPlaced known) (hverbose : st.top.verbose = false)
    (hsettled : Regex.IsSettled tokens)
    (h : Stops st (.ahead position (part.tokens known ++ tokens)) e) :
    e.isRejected = true ∨ ∃ st' position', st'.top.verbose = false ∧
      Stops st' (.ahead position' tokens) e := by
  have hliterals (text : Text)
      (h : Stops st (.ahead position (text.map escapeToken ++ tokens)) e) :
      ∃ st' position', st'.top.verbose = false ∧ Stops st' (.ahead position' tokens) e := by
    obtain ⟨p₁, hread⟩ := Regex.reads_escaped text st hverbose position tokens
    refine ⟨_, p₁, ?_, h.rest hread⟩
    exact hverbose
  cases part with
  | literal written text => exact .inr (hliterals text h)
  | capture c =>
      cases hvalue : known.value? c.identifier with
      | some value =>
          rw [Part.tokens, hvalue] at h
          exact .inr (hliterals _ h)
      | none =>
          rw [tokens_capture_append known hvalue] at h
          obtain ⟨p₁, hleading⟩ := reads_leading c hverbose position _
          rcases rejected_or_stops_group (hpart c rfl).toIsNamed ((hpart c rfl).embeddable hvalue)
            rfl (h.rest hleading) with hrejected | ⟨i, mid, p₂, hopener, houter, hstops⟩
          · exact .inl hrejected
          · obtain ⟨p₃, htrailing⟩ := reads_trailing c hopener houter p₂ _
            obtain ⟨p₄, hend⟩ := reads_groupEnd { mid with
              top := groupFrame position (c.nodes i (Node.seq mid.top.content))
              outer := st.top :: st.outer
              groups := (State.close mid.top mid.groups).2 } c rfl rfl hverbose hsettled p₃
            refine .inr ⟨_, p₄, ?_, (hstops.rest htrailing).rest hend⟩
            exact hverbose

theorem rejected_of_stops_parts (known : Prefilled) {parts : List Part}
    (hparts : ∀ c, PartOf.capture c ∈ parts → c.IsPlaced known)
    (hverbose : st.top.verbose = false)
    (h : Stops st (.ahead position (parts.flatMap (Part.tokens known) ++ [.plain '$'])) e) :
    e.isRejected = true := by
  induction parts generalizing st position with
  -- behind the last part only the anchor is left, and it can be read
  | nil => exact absurd rfl (h.rest (Regex.reads_dollar hverbose position [])).ne_nil
  | cons part rest ih =>
      rw [List.flatMap_cons, List.append_assoc] at h
      have hsettled : Regex.IsSettled (rest.flatMap (Part.tokens known) ++ [.plain '$']) :=
        isSettled_tokens known rest ⟨by decide, by decide⟩
      rcases rejected_or_stops_part known (fun c hc => hparts c (hc ▸ List.mem_cons_self)) hverbose
        hsettled h with hrejected | ⟨st', p₁, hverbose', hstops⟩
      · exact hrejected
      · exact ih (fun c hc => hparts c (List.mem_cons_of_mem part hc)) hverbose' hstops

end

/-- The expression of parts whose own expressions can be embedded is read or
rejected. -/
theorem isMild_compile_regexSource (known : Prefilled) {parts : List Part}
    (hparts : ∀ c, PartOf.capture c ∈ parts → c.IsPlaced known) :
    IsMild (Regex.compile (regexSource parts known .all)) := by
  have htokens := ofText_regexSource known fun c hc => (hparts c hc).toIsNamed
  have hsource : Source.ofText (regexSource parts known .all) =
      .ok (.ahead 0 (.plain '^' :: (parts.flatMap (Part.tokens known) ++ [.plain '$']))) := by
    rw [Source.ofText, htokens]
    rfl
  have hcaret := Regex.reads_caret (show State.initial.top.verbose = false from rfl) 0
    (parts.flatMap (Part.tokens known) ++ [.plain '$'])
  apply Regex.isMild_compile
  apply Regex.isMild_readText hsource
  cases hall : Regex.readAll _ State.initial (Source.ahead 0
    (.plain '^' :: (parts.flatMap (Part.tokens known) ++ [.plain '$']))) with
  | error e =>
      exact rejected_of_stops_parts known hparts rfl ((Regex.stops_of_readAll _ hall).rest hcaret)
  | ok st =>
      -- the anchor at the start leaves no place for flags of the whole
      obtain ⟨s', hreads, hnil⟩ := Regex.reads_of_readAll _ (Nat.le_refl _)
        (Source.isChecked_ahead _ _) hall
      have hbegun : st.HasBegun {} := (hcaret.rest hreads hnil).preserves
        (fun _ _ _ => Regex.Effect.hasBegun) (Source.isChecked_ahead _ _)
        ⟨rfl, fun _ => rfl⟩
      exact hbegun.1

end KeyNaming
