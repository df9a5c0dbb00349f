import KeyNaming.Proofs.Regex.Inward
import KeyNaming.Proofs.Regex.Nesting

/-!
What a group takes that an expression was read in.

The texts that the expression alone matches as a whole are those that the group
can take, if the group is regular. If it is inward, the group takes no others, and
if it is outward, the group can take each of them.
-/

namespace KeyNaming.Regex

/-! ## What the expression alone matches -/

def Node.IsAnchor (n : Node) : Prop := ∃ a, n = .atom (.anchor a)

theorem Node.eq_of_mem_ways_anchors {anchors : List Node} (h : ∀ n ∈ anchors, n.IsAnchor)
    {f : Flags} {p q : Progress} (hq : q ∈ (Node.seq anchors).ways f p) : q = p := by
  induction anchors generalizing p with
  | nil => exact List.mem_singleton.mp hq
  | cons n rest ih =>
      obtain ⟨a, rfl⟩ := h n List.mem_cons_self
      obtain ⟨r, hr, hrest⟩ := List.mem_flatMap.mp hq
      have hstep := Option.mem_toList.mp hr
      rw [Atom.step] at hstep
      split at hstep
      · obtain rfl := Option.some.inj hstep
        exact ih (fun m hm => h m (List.mem_cons_of_mem _ hm)) hrest
      · cases hstep

/-- Whether an expression matches the whole of a text. -/
def Form.Matches (form : Form) (t : Text) : Prop :=
  ∃ q ∈ form.node.ways form.flags (Progress.start t), q.position.after = []

/-- What alternatives match between anchors, one of them matches. -/
theorem exists_alternative {before after : List Node} (hbefore : ∀ n ∈ before, n.IsAnchor)
    (hafter : ∀ n ∈ after, n.IsAnchor) (first : List Node) (rest last : List (List Node))
    (hlast : last = (before ++ first) :: rest ∨
      ∃ init final, (before ++ first) :: rest = init ++ [final] ∧ last = init ++ [final ++ after])
    {f : Flags} {p q : Progress} (alternative : List Node) (halternative : alternative ∈ last)
    (hq : q ∈ (Node.seq alternative).ways f p) :
    ∃ parts ∈ first :: rest, q ∈ (Node.seq parts).ways f p := by
  -- the anchors after an alternative, then those before the first one
  have htrim : ∃ parts ∈ (before ++ first) :: rest, q ∈ (Node.seq parts).ways f p := by
    rcases hlast with rfl | ⟨init, final, hsplit, rfl⟩
    · exact ⟨alternative, halternative, hq⟩
    · rw [hsplit]
      rcases List.mem_append.mp halternative with hinit | hfinal
      · exact ⟨alternative, List.mem_append_left _ hinit, hq⟩
      · rw [List.mem_singleton.mp hfinal] at hq
        obtain ⟨r, hr, hrest⟩ := (Node.mem_ways_seq_append _ _ _ _ _).mp hq
        obtain rfl := Node.eq_of_mem_ways_anchors hafter hrest
        exact ⟨final, List.mem_append_right _ (List.mem_singleton_self final), hr⟩
  obtain ⟨parts, hparts, hq⟩ := htrim
  rcases List.mem_cons.mp hparts with rfl | hparts
  · obtain ⟨r, hr, hrest⟩ := (Node.mem_ways_seq_append _ _ _ _ _).mp hq
    obtain rfl := Node.eq_of_mem_ways_anchors hbefore hr
    exact ⟨first, List.mem_cons_self, hrest⟩
  · exact ⟨parts, List.mem_cons_of_mem _ hparts, hq⟩

/-- The alternatives of the last frame, with the anchor at the end. -/
theorem Frame.alternatives_of_last {f last : Frame} {after : List Node} {first : List (List Node)}
    (hf : f.finished.reverse ++ [f.current] = first)
    (hlast : last = f ∨ ∃ n, after = [n] ∧ last = f.push (.node n)) :
    last.finished.reverse ++ [last.current] = first ∨
      ∃ init final, first = init ++ [final] ∧
        last.finished.reverse ++ [last.current] = init ++ [final ++ after] := by
  rcases hlast with rfl | ⟨n, rfl, rfl⟩
  · exact .inl hf
  · refine .inr ⟨f.finished.reverse, f.current, hf.symm, ?_⟩
    simp [Frame.push, Frame.current, Item.nodes]

/-- What one of some alternatives matches, they match between anchors as well,
the anchors being those of the whole text. -/
theorem exists_anchored_alternative {before after : List Node}
    (hbefore : ∀ n ∈ before, n = .atom (.anchor .lineStart))
    (hafter : ∀ n ∈ after, n = .atom (.anchor .lineEnd)) (first : List Node)
    (rest last : List (List Node))
    (hlast : last = (before ++ first) :: rest ∨
      ∃ init final, (before ++ first) :: rest = init ++ [final] ∧ last = init ++ [final ++ after])
    {t : Text} {parts : List Node} (hparts : parts ∈ first :: rest) {q : Progress}
    (hq : q ∈ (Node.seq parts).ways {} (.start t)) (hend : q.position.after = []) :
    ∃ alternative ∈ last, ∃ q ∈ (Node.seq alternative).ways {} (.start t),
      q.position.after = [] := by
  have hstart : Progress.start t ∈ (Node.seq before).ways {} (.start t) := by
    clear hlast
    induction before with
    | nil => exact List.mem_singleton_self _
    | cons n rest ih =>
        obtain rfl := hbefore n List.mem_cons_self
        exact List.mem_flatMap.mpr ⟨.start t, List.mem_singleton_self _,
          ih fun m hm => hbefore m (List.mem_cons_of_mem _ hm)⟩
  have hfinish : q ∈ (Node.seq after).ways {} q := by
    clear hlast
    induction after with
    | nil => exact List.mem_singleton_self _
    | cons n rest ih =>
        obtain rfl := hafter n List.mem_cons_self
        exact List.mem_flatMap.mpr ⟨q, by simp [Node.ways, Atom.step, Position.holds, hend],
          ih fun m hm => hafter m (List.mem_cons_of_mem _ hm)⟩
  -- past the anchors before the first alternative, then past those after the last one
  have hwhole : ∃ alternative ∈ (before ++ first) :: rest,
      q ∈ (Node.seq alternative).ways {} (.start t) := by
    rcases List.mem_cons.mp hparts with rfl | hparts
    · exact ⟨_, List.mem_cons_self, (Node.mem_ways_seq_append _ _ _ _ _).mpr ⟨_, hstart, hq⟩⟩
    · exact ⟨parts, List.mem_cons_of_mem _ hparts, hq⟩
  obtain ⟨alternative, halternative, hq⟩ := hwhole
  rcases hlast with rfl | ⟨init, final, hsplit, rfl⟩
  · exact ⟨alternative, halternative, q, hq, hend⟩
  · rw [hsplit] at halternative
    rcases List.mem_append.mp halternative with hinit | hfinal
    · exact ⟨alternative, List.mem_append_left _ hinit, q, hq, hend⟩
    · obtain rfl := List.mem_singleton.mp hfinal
      exact ⟨_, List.mem_append_right _ (List.mem_singleton_self _), q,
        (Node.mem_ways_seq_append _ _ _ _ _).mpr ⟨q, hq, hfinish⟩, hend⟩

/-- What an open group becomes meets a condition if all of its alternatives do. -/
theorem Node.IsPartwise.content {P : Node → Bool} (hP : IsPartwise P) (f : Frame) :
    P (Node.seq f.content) =
      (f.finished.reverse ++ [f.current]).all fun parts => parts.all P := by
  rw [hP.seq, Frame.content, hP.joinAlternatives]

/-- A condition that an open group meets, each of its alternatives meets. -/
theorem Node.IsPartwise.alternative {P : Node → Bool} (hP : IsPartwise P) {f : Frame}
    (hmeets : P (Node.seq f.content) = true) {parts : List Node}
    (hparts : parts ∈ f.finished.reverse ++ [f.current]) : P (Node.seq parts) = true := by
  rw [hP.content, List.all_eq_true] at hmeets
  rw [hP.seq, hmeets parts hparts]

/-- The alternatives without the anchors around them meet what the last frame
meets. -/
theorem Frame.all_of_last {P : Node → Bool} (hP : Node.IsPartwise P) {f last : Frame}
    {before first after : List Node} {rest : List (List Node)}
    (hf : f.finished.reverse ++ [f.current] = (before ++ first) :: rest)
    (hlast : last = f ∨ ∃ n, after = [n] ∧ last = f.push (.node n))
    (hmeets : P (Node.seq last.content) = true) : ∀ parts ∈ first :: rest, parts.all P = true := by
  rw [hP.content, List.all_eq_true] at hmeets
  have hwhole : ∀ nodes ∈ (before ++ first) :: rest, nodes.all P = true := by
    rcases Frame.alternatives_of_last hf hlast with hsplit | ⟨init, final, hinit, hsplit⟩
    · rw [← hsplit]
      exact hmeets
    · rw [hsplit] at hmeets
      intro nodes hnodes
      rw [hinit] at hnodes
      rcases List.mem_append.mp hnodes with hnodes | hnodes
      · exact hmeets nodes (List.mem_append_left _ hnodes)
      · have hfinal := hmeets _ (List.mem_append_right init (List.mem_singleton_self _))
        rw [List.all_append, Bool.and_eq_true_iff] at hfinal
        rw [List.mem_singleton.mp hnodes]
        exact hfinal.1
  intro parts hparts
  rcases List.mem_cons.mp hparts with rfl | hparts
  · have hfirst := hwhole _ List.mem_cons_self
    rw [List.all_append, Bool.and_eq_true_iff] at hfirst
    exact hfirst.2
  · exact hwhole parts (List.mem_cons_of_mem _ hparts)

/-- The same parts read inside of a group differ in the numbers of groups alone. -/
theorem SameParts.corresponds {k : Nat} {named : Prop} {parts parts' : List Node}
    (h : SameParts k named parts parts') (hexact : named ∨ (Node.seq parts').isUnreferring = true) :
    (Node.seq parts').Corresponds (fun i j => i = shifted k j) (Node.seq parts) := by
  rw [Node.isPartwise_isUnreferring.seq, h.unreferring] at hexact
  rw [h.seq_eq hexact]
  exact Node.corresponds_renumber _ (shifted_injective k)

namespace SameFrame

variable {k : Nat} {named : Prop} {before : List Node} {f g : Frame}
variable (h : SameFrame k named before f g)
include h

/-- A text that the expression alone matches is one that the group can take, while
what is inside of it captured nothing yet, if it is outward. -/
theorem gives (after : List Node) (hbefore : ∀ n ∈ before, n.IsAnchor)
    (hafter : ∀ n ∈ after, n.IsAnchor) {last : Frame}
    (hlast : last = f ∨ ∃ n, after = [n] ∧ last = f.push (.node n))
    (houtward : (Node.seq g.content).isOutward = true)
    (hexact : named ∨ (Node.seq g.content).isUnreferring = true) (t : Text) {q : Progress}
    (hq : q ∈ (Node.seq last.content).ways {} (Progress.start t)) (hend : q.position.after = []) :
    (Node.seq g.content).Gives (fun i => ∃ j, i = shifted k j) {} t := by
  obtain ⟨first, rest, hf, hsame⟩ := h.alternatives
  obtain ⟨alternative, halternative, hq⟩ :=
    (mem_ways_joinAlternatives _ (by simp) {} rfl _ q).mp hq
  obtain ⟨parts, hparts, hq⟩ := exists_alternative hbefore hafter first rest _
    (Frame.alternatives_of_last hf hlast) alternative halternative hq
  obtain ⟨parts', hparts', hsame'⟩ := exists_mem_of_forall₂ hsame hparts
  have hcorresponds := hsame'.corresponds
    (hexact.imp_right fun hcontent => Node.isPartwise_isUnreferring.alternative hcontent hparts')
  have hgives : (Node.seq parts').Gives (fun i => ∃ j, i = shifted k j) {} t :=
    Node.gives_of_mem_ways (Node.isPartwise_isOutward.alternative houtward hparts') hcorresponds
      (fun i j hij => ⟨j, hij⟩) hq hend
  intro p rest hpafter hp
  obtain ⟨r, hr, hrafter⟩ := hgives p rest hpafter hp
  exact ⟨r, (mem_ways_joinAlternatives _ (by simp) {} rfl _ r).mpr ⟨parts', hparts', hr⟩, hrafter⟩

/-- A condition that the expression alone meets is met inside of the group. -/
theorem meets {P : Node → Bool} (hP : Node.IsPartwise P) {after : List Node} {last : Frame}
    (hlast : last = f ∨ ∃ n, after = [n] ∧ last = f.push (.node n))
    (hexact : named ∨ (Node.seq last.content).isUnreferring = true)
    (hmeets : P (Node.seq last.content) = true) : P (Node.seq g.content) = true := by
  obtain ⟨first, rest, hf, hsame⟩ := h.alternatives
  rw [hP.content, List.all_eq_true]
  intro parts' hparts'
  obtain ⟨parts, hparts, hsame'⟩ := exists_mem_of_forall₂ hsame.flip hparts'
  have hunreferring := hexact.imp_right fun hlast' =>
    Frame.all_of_last Node.isPartwise_isUnreferring hf hlast hlast' parts hparts
  rw [hsame'.all_eq hP hunreferring]
  exact Frame.all_of_last hP hf hlast hmeets parts hparts

/-- A text that the group takes, while what is inside of it captured nothing yet, is
one that the expression alone matches, if it is inward. -/
theorem exists_mem_ways (after : List Node)
    (hbefore : ∀ n ∈ before, n = .atom (.anchor .lineStart))
    (hafter : ∀ n ∈ after, n = .atom (.anchor .lineEnd)) {last : Frame}
    (hlast : last = f ∨ ∃ n, after = [n] ∧ last = f.push (.node n))
    (hinward : (Node.seq g.content).isInward = true)
    (hexact : named ∨ (Node.seq g.content).isUnreferring = true) (t : Text)
    (htakes : (Node.seq g.content).Takes (fun i => ∃ j, i = shifted k j) {} t) :
    ∃ q ∈ (Node.seq last.content).ways {} (Progress.start t), q.position.after = [] := by
  obtain ⟨first, rest, hf, hsame⟩ := h.alternatives
  obtain ⟨p, hp, r, hr, hrafter⟩ := htakes
  obtain ⟨parts', hparts', hr⟩ := (mem_ways_joinAlternatives _ (by simp) {} rfl _ r).mp hr
  obtain ⟨parts, hparts, hsame'⟩ := exists_mem_of_forall₂ hsame.flip hparts'
  have hcorresponds := hsame'.corresponds
    (hexact.imp_right fun hcontent => Node.isPartwise_isUnreferring.alternative hcontent hparts')
  have htakes' : (Node.seq parts').Takes (fun i => ∃ j, i = shifted k j) {} t :=
    ⟨p, hp, r, hr, hrafter⟩
  obtain ⟨q, hq, hend⟩ := htakes'.exists_mem_ways
    (Node.isPartwise_isInward.alternative hinward hparts') hcorresponds fun i j hij => ⟨j, hij⟩
  obtain ⟨alternative, halternative, q, hq, hend⟩ := exists_anchored_alternative hbefore hafter
    first rest _ (Frame.alternatives_of_last hf hlast) hparts hq hend
  exact ⟨q, (mem_ways_joinAlternatives _ (by simp) {} rfl _ q).mpr ⟨alternative, halternative, hq⟩,
    hend⟩

end SameFrame

/-- What an open group is like that an expression was read in up to its end. A
condition that the expression alone meets the group meets. If it is regular, it
takes what the expression alone matches. While nothing inside of it was captured, it
takes nothing else if it is inward, and can take all of that if it is outward. -/
structure Form.IsEmbedded (form : Form) (named : Prop) (index : Nat) (outer : List Frame)
    (st : State) : Prop where
  outer : st.outer = outer
  opener : st.top.opener = .capture index
  regular : form.node.isRegular = true → (Node.seq st.top.content).isRegular = true
  spells : (Node.seq st.top.content).isRegular = true →
    ∀ t, form.Matches t → (Node.seq st.top.content).Spells {} t
  takes : named → form.node.isInward = true → ∀ t,
    (Node.seq st.top.content).Takes (fun i => ∃ j, i = shifted index j) {} t → form.Matches t
  outward : named → form.node.isOutward = true → (Node.seq st.top.content).isOutward = true
  gives : named → (Node.seq st.top.content).isOutward = true → ∀ t, form.Matches t →
    (Node.seq st.top.content).Gives (fun i => ∃ j, i = shifted index j) {} t

/-- Where an expression was read to its end in both places, it is embedded. -/
theorem SameState.isEmbedded {named : Prop} {before : List Node} {index : Nat}
    {around : List Frame} {alone mid done : State}
    (h : SameState named before index around alone mid)
    (hbefore : ∀ n ∈ before, n = .atom (.anchor .lineStart))
    (hdone : done = alone ∨ done = alone.push (.node (.atom (.anchor .lineEnd))))
    (houter : done.outer = []) {form : Form} (hnode : form.node = Node.seq done.top.content)
    (hflags : form.flags = done.flags) : form.IsEmbedded named index around mid := by
  obtain ⟨after, hafter, hlast⟩ : ∃ after : List Node,
      (∀ n ∈ after, n = .atom (.anchor .lineEnd)) ∧
        (done.top = alone.top ∨ ∃ n, after = [n] ∧ done.top = alone.top.push (.node n)) := by
    rcases hdone with rfl | rfl
    · exact ⟨[], by simp, .inl rfl⟩
    · exact ⟨_, fun n hn => List.mem_singleton.mp hn, .inr ⟨_, rfl, rfl⟩⟩
  have hkept : done.outer = alone.outer ∧ done.flags = alone.flags := by
    rcases hdone with rfl | rfl <;> exact ⟨rfl, rfl⟩
  have hmatches (t : Text) : form.Matches t ↔
      ∃ q ∈ (Node.seq done.top.content).ways {} (.start t), q.position.after = [] := by
    rw [Form.Matches, hnode, hflags, hkept.2, h.flags]
  have hframes := h.frames
  rw [← hkept.1, houter] at hframes
  generalize houterMid : mid.outer = outer at hframes
  cases hframes with
  | inner _ _ hrest => cases hrest
  | outermost hwhole hcapture hverbose hframe =>
      have hgives (houtward : (Node.seq mid.top.content).isOutward = true)
          (hexact : named ∨ (Node.seq mid.top.content).isUnreferring = true) (t : Text)
          (ht : form.Matches t) :
          (Node.seq mid.top.content).Gives (fun i => ∃ j, i = shifted index j) {} t := by
        obtain ⟨q, hq, hend⟩ := (hmatches t).mp ht
        exact hframe.gives after (fun n hn => ⟨.lineStart, hbefore n hn⟩)
          (fun n hn => ⟨.lineEnd, hafter n hn⟩) hlast houtward hexact t hq hend
      refine ⟨houterMid, hcapture, fun hregular => ?_, fun hregular t ht => ?_,
        fun hnamed hinward t htakes => ?_, fun hnamed houtward => ?_,
        fun hnamed houtward t ht => hgives houtward (.inl hnamed) t ht⟩
      · rw [hnode] at hregular
        exact hframe.meets Node.isPartwise_isRegular hlast
          (.inr (Node.isUnreferring_of_isRegular hregular)) hregular
      · have hgiven := hgives (Node.isMadeOf_of_isRegular _ _ hregular)
          (.inr (Node.isUnreferring_of_isRegular hregular)) t ht
        exact hgiven.takes.spells hregular
      · rw [hnode] at hinward
        rw [hmatches]
        exact hframe.exists_mem_ways after hbefore hafter hlast
          (hframe.meets Node.isPartwise_isInward hlast (.inl hnamed) hinward) (.inl hnamed) t htakes
      · rw [hnode] at houtward
        exact hframe.meets Node.isPartwise_isOutward hlast (.inl hnamed) houtward

section

variable {source : Text} {form : Form} (hform : read source = .ok form)
  {first u last : List Token} (hsource : (Token.ofText source).1 = first ++ (u ++ last))
  (hfirst : first = [] ∨ first = [.plain '^']) (hlast : last = [] ∨ last = [.plain '$'])
  {st : State} {index start : Nat}
  (htop : st.top = { opener := .capture index, start, verbose := false })
  (hindex : st.groups.widths.length = index) (houter : st.outer ≠ [])
include hform hsource hfirst hlast htop hindex houter

/-- An expression that can be read alone is read inside of a group up to the
parenthesis that closes it, or it is rejected there. -/
theorem stops_or_exists_body (position : Nat) (w : List Token) :
    (∃ e, e.isRejected = true ∧ Stops st (.ahead position (u ++ .plain ')' :: w)) e) ∨
      ∃ mid position', Reads st (.ahead position (u ++ .plain ')' :: w)) mid
          (.ahead position' (.plain ')' :: w)) ∧
        form.IsEmbedded (ReadsByName .initial (.whole source)) index st.outer mid := by
  obtain ⟨done, hread, hnode, hflags, _⟩ := exists_run_of_read hform
  obtain ⟨_, s, hreads, hnil, houterDone⟩ := reads_of_readText hread
  have hname (hnamed : ReadsByName .initial (.whole source)) :
      ReadsByName .initial (.ahead 0 (first ++ (u ++ last))) := by
    rw [← hsource]
    exact hnamed
  rw [Source.whole, hsource] at hreads
  obtain ⟨before, alone, positionAlone, hbefore, hsame, hnameAlone, hreads⟩ :=
    exists_sameState hfirst htop hindex hname hreads hnil
  obtain ⟨after, hover, hafter, hdangling⟩ :
      ∃ e : Setting, e.IsOver ∧ e.tokens = last ∧ e.dangling = false := by
    rcases hlast with rfl | rfl
    · exact ⟨.nothing false, .inl rfl, rfl, rfl⟩
    · exact ⟨.lineEnd, .inr rfl, rfl, rfl⟩
  have hendsAlone : (Source.ahead positionAlone (u ++ last)).Ends after u :=
    ⟨by rw [hafter]; rfl, hdangling.symm, Source.isChecked_ahead _ _⟩
  have hends : (Source.ahead position (u ++ .plain ')' :: w)).Ends (.closing w) u :=
    ⟨rfl, rfl, Source.isChecked_ahead _ _⟩
  rcases hsame.run hover houter hnameAlone hendsAlone hends hreads hnil houterDone with
    hstops | ⟨midAlone, rAlone, mid, r, hrest, hrAlone, hmid, hr, hstates⟩
  · exact .inl hstops
  · have heq : r = .ahead r.position (.plain ')' :: w) := by
      cases r with
      | mk position tokens dangling =>
          obtain rfl : tokens = .plain ')' :: w := hr.tokens
          obtain rfl : dangling = false := hr.dangling
          rfl
    rw [heq] at hmid
    exact .inr ⟨mid, r.position, hmid, hstates.isEmbedded hbefore
      (reads_over hover hrAlone hrest hnil) houterDone hnode hflags⟩

/-- Where the whole is read to its end, so is the expression in the group. -/
theorem exists_body {position : Nat} {w : List Token} {st' : State} {s' : Source}
    (h : Reads st (.ahead position (u ++ .plain ')' :: w)) st' s') (hnil : s'.tokens = []) :
    ∃ mid position', Reads st (.ahead position (u ++ .plain ')' :: w)) mid
        (.ahead position' (.plain ')' :: w)) ∧
      form.IsEmbedded (ReadsByName .initial (.whole source)) index st.outer mid := by
  rcases stops_or_exists_body hform hsource hfirst hlast htop hindex houter position w with
    ⟨e, _, hstops⟩ | hbody
  · exact absurd hnil (hstops.rest h).ne_nil
  · exact hbody

end

end KeyNaming.Regex
