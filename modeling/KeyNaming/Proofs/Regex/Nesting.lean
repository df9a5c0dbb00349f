import KeyNaming.Proofs.Regex.Joining
import KeyNaming.Proofs.Regex.Runs
import KeyNaming.Proofs.Regex.Steps

/-!
An expression read alone and read inside of a group of a longer one.

Apart from the anchors around it the same tokens are read in both places, and
the groups in the longer expression come after those in front of it. So what is
read is the same but for the numbers of groups, unless a group is referred to by
its number.
-/

namespace KeyNaming.Regex

/-! ## Groups behind others -/

/-- The number of a group that comes after some others. Zero, which is the number of
no group, stays. -/
def shifted (k i : Nat) : Nat := if i = 0 then 0 else k + i

theorem shifted_of_pos (k : Nat) {i : Nat} (hi : 0 < i) : shifted k i = k + i :=
  if_neg (Nat.ne_of_gt hi)

theorem shifted_injective (k : Nat) : (shifted k).Injective := by
  intro i j h
  simp only [shifted] at h
  split at h <;> split at h <;> omega

theorem Groups.width_opened (g : Groups) (name? : Option Text) (i : Nat) :
    (g.opened name?).width i = g.width i := by
  rw [width, width, width?, width?, widths_opened]
  split
  · rfl
  · by_cases hi : i - 1 < g.widths.length
    · rw [List.getElem?_append_left hi]
    · rw [List.getElem?_append_right (Nat.le_of_not_lt hi),
        List.getElem?_eq_none (Nat.le_of_not_lt hi)]
      cases hlast : ([none] : List (Option Width))[i - 1 - g.widths.length]? with
      | none => rfl
      | some w =>
          have hmem := List.mem_of_getElem? hlast
          rw [List.mem_singleton.mp hmem]
          rfl

theorem Groups.width_close (g : Groups) {i : Nat} (hi : 0 < i) (w : Width) (j : Nat) :
    (g.close i w).width j = if j = i ∧ i ≤ g.widths.length then w else g.width j := by
  rw [width, width, width?, width?, close]
  by_cases hj : j = 0
  · rw [if_pos hj, if_pos hj, if_neg (by omega)]
  · rw [if_neg hj, if_neg hj, List.getElem?_set]
    by_cases hij : i - 1 = j - 1
    · rw [if_pos hij]
      by_cases hlength : i ≤ g.widths.length
      · rw [if_pos (by omega), if_pos (by omega)]
        rfl
      · rw [if_neg (by omega), if_neg (by omega), List.getElem?_eq_none (by omega)]
    · rw [if_neg hij, if_neg (by omega)]

/-- Whether some groups are others that come after some more. -/
structure SameGroups (k : Nat) (named : Prop) (g g' : Groups) : Prop where
  length : g'.widths.length = k + g.widths.length
  names : ∀ name i, g.names.lookup name = some i → g'.names.lookup name = some (shifted k i)
  widths : named → ∀ i, g'.width (shifted k i) = g.width i

namespace SameGroups

variable {k : Nat} {named : Prop} {g g' : Groups}

theorem next (h : SameGroups k named g g') : g'.next = shifted k g.next := by
  have hpos : 0 < g.next := Nat.succ_pos _
  rw [shifted_of_pos k hpos, Groups.next, Groups.next, h.length, Nat.add_assoc]

theorem congr (h : SameGroups k named g g') {h₁ h₂ : Groups} (hwidths : h₁.widths = g.widths)
    (hnames : h₁.names = g.names) (hwidths' : h₂.widths = g'.widths)
    (hnames' : h₂.names = g'.names) : SameGroups k named h₁ h₂ := by
  refine ⟨by rw [hwidths, hwidths', h.length], by rw [hnames, hnames']; exact h.names, ?_⟩
  intro hnamed i
  have hsame := h.widths hnamed i
  rw [Groups.width, Groups.width?] at hsame ⊢
  rw [Groups.width, Groups.width?] at hsame ⊢
  rw [hwidths, hwidths']
  exact hsame

theorem opened (h : SameGroups k named g g') {name? : Option Text}
    (hnew : ∀ name ∈ name?, g'.names.lookup name = none) :
    SameGroups k named (g.opened name?) (g'.opened name?) := by
  refine ⟨?_, ?_, ?_⟩
  · rw [Groups.widths_opened, Groups.widths_opened, List.length_append, List.length_append,
      h.length, Nat.add_assoc]
  · intro other i hother
    cases name? with
    | none => exact h.names other i hother
    | some name =>
        have hlookup (g : Groups) : (g.opened (some name)).names.lookup other =
            (g.names.lookup other).or (if other = name then some g.next else none) := by
          rw [Groups.opened, Groups.named, List.lookup_append, List.lookup_cons]
          by_cases heq : other = name
          · rw [if_pos heq, heq, beq_self_eq_true]
          · rw [if_neg heq, beq_false_of_ne heq]
            rfl
        rw [hlookup] at hother ⊢
        cases hold : g.names.lookup other with
        | some j =>
            rw [hold] at hother
            rw [h.names other j hold]
            exact congrArg (fun i => some (shifted k i)) (Option.some.inj hother)
        | none =>
            rw [hold, Option.none_or] at hother
            split at hother
            · next heq =>
              rw [heq, hnew name rfl, Option.none_or, if_pos rfl, h.next]
              exact congrArg (fun i => some (shifted k i)) (Option.some.inj hother)
            · cases hother
  · intro hnamed i
    rw [Groups.width_opened, Groups.width_opened]
    exact h.widths hnamed i

theorem close (h : SameGroups k named g g') {i : Nat} (hi : 0 < i) {w w' : Width}
    (hw : named → w' = w) :
    SameGroups k named (g.close i w) (g'.close (shifted k i) w') := by
  refine ⟨?_, h.names, ?_⟩
  · rw [Groups.close, Groups.close, List.length_set, List.length_set, h.length]
  · intro hnamed j
    have hpos : 0 < shifted k i := by
      rw [shifted_of_pos k hi]
      omega
    have hlength : shifted k i ≤ g'.widths.length ↔ i ≤ g.widths.length := by
      rw [shifted_of_pos k hi, h.length]
      omega
    simp only [Groups.width_close g hi, Groups.width_close g' hpos, (shifted_injective k).eq_iff,
      hlength, hw hnamed, h.widths hnamed j]

end SameGroups

/-! ## Parts read in both places -/

/-- Whether one list of parts is another one behind some groups. Nothing is said of
parts that refer to groups, but that they do so in both lists, unless all groups
are referred to by their names. -/
structure SameParts (k : Nat) (named : Prop) (first second : List Node) : Prop where
  unreferring : second.all Node.isUnreferring = first.all Node.isUnreferring
  renumbered : named ∨ first.all Node.isUnreferring = true →
    second = first.map (Node.renumber (shifted k))

namespace SameParts

variable {k : Nat} {named : Prop} {first second first' second' : List Node}

theorem nil : SameParts k named [] [] := ⟨rfl, fun _ => rfl⟩

theorem atom {a : Atom} (ha : a.isReference = false) :
    SameParts k named [.atom a] [.atom a] :=
  ⟨rfl, fun _ => by rw [List.map_singleton, Node.renumber, Atom.renumber_eq_self ha]⟩

/-- Parts that refer to groups by their names refer to groups that stand for each
other. -/
theorem of_referring {m n : Node} (hm : m.isUnreferring = false) (hn : n.isUnreferring = false)
    (h : named → n = m.renumber (shifted k)) : SameParts k named [m] [n] := by
  refine ⟨?_, fun hexact => ?_⟩
  · rw [List.all_cons, List.all_cons, hm, hn]
  · rw [List.all_cons, hm] at hexact
    rw [List.map_singleton, h (hexact.resolve_right Bool.false_ne_true)]

theorem append (h : SameParts k named first second) (h' : SameParts k named first' second') :
    SameParts k named (first ++ first') (second ++ second') := by
  refine ⟨?_, fun hexact => ?_⟩
  · rw [List.all_append, List.all_append, h.unreferring, h'.unreferring]
  · rw [List.all_append, Bool.and_eq_true_iff] at hexact
    rw [List.map_append, h.renumbered (hexact.imp_right And.left),
      h'.renumbered (hexact.imp_right And.right)]

theorem seq_eq (h : SameParts k named first second)
    (hexact : named ∨ first.all Node.isUnreferring = true) :
    Node.seq second = (Node.seq first).renumber (shifted k) := by
  rw [Node.renumber_seq, h.renumbered hexact]

theorem wrap (h : SameParts k named first second) {wrap wrap' : Node → Node}
    (hwrap : ∀ n, (wrap n).isUnreferring = n.isUnreferring)
    (hwrap' : ∀ n, (wrap' n).isUnreferring = n.isUnreferring)
    (hrenumber : ∀ n, named ∨ n.isUnreferring = true →
      wrap' (n.renumber (shifted k)) = (wrap n).renumber (shifted k)) :
    SameParts k named [wrap (Node.seq first)] [wrap' (Node.seq second)] := by
  have hseq := Node.isPartwise_isUnreferring.seq
  refine ⟨?_, fun hexact => ?_⟩
  · simp only [List.all_cons, List.all_nil, hwrap, hwrap', hseq, h.unreferring]
  · simp only [List.all_cons, List.all_nil, Bool.and_true, hwrap] at hexact
    rw [List.map_singleton, ← hrenumber _ hexact, h.seq_eq (hexact.imp_right (hseq first ▸ ·))]

theorem joinAlternatives {first second : List (List Node)}
    (h : List.Forall₂ (SameParts k named) first second) :
    SameParts k named (joinAlternatives first) (joinAlternatives second) := by
  have hjoin := Node.isPartwise_isUnreferring.joinAlternatives
  refine ⟨?_, fun hexact => ?_⟩
  · rw [hjoin, hjoin]
    induction h with
    | nil => rfl
    | cons hsame _ ih => rw [List.all_cons, List.all_cons, hsame.unreferring, ih]
  · rw [hjoin, List.all_eq_true] at hexact
    have hmap : second = first.map (List.map (Node.renumber (shifted k))) := by
      induction h with
      | nil => rfl
      | @cons nodes _ _ _ hsame _ ih =>
          have hfirst := hexact.imp_right fun hall => hall nodes List.mem_cons_self
          have hothers := hexact.imp_right fun hall nodes hnodes =>
            hall nodes (List.mem_cons_of_mem _ hnodes)
          rw [List.map_cons, hsame.renumbered hfirst, ih hothers]
    rw [hmap, joinAlternatives_map_renumber (shifted_injective k)]

theorem all_eq {P : Node → Bool} (hP : Node.IsPartwise P) (h : SameParts k named first second)
    (hexact : named ∨ first.all Node.isUnreferring = true) : second.all P = first.all P := by
  have hrenumber : P ∘ Node.renumber (shifted k) = P :=
    funext (hP.renumber (shifted_injective k))
  rw [h.renumbered hexact, List.all_map, hrenumber]

end SameParts

def SameItem (k : Nat) (named : Prop) (first second : Item) : Prop :=
  SameParts k named first.nodes second.nodes

theorem sameParts_of_items {k : Nat} {named : Prop} {first second : List Item}
    (h : List.Forall₂ (SameItem k named) first second) :
    SameParts k named (first.reverse.flatMap Item.nodes) (second.reverse.flatMap Item.nodes) := by
  induction h with
  | nil => exact .nil
  | cons hitem _ ih =>
      simp only [List.reverse_cons, List.flatMap_append, List.flatMap_cons, List.flatMap_nil,
        List.append_nil]
      exact ih.append hitem

/-- Whether two frames have the same parts, but for some more in front of the
first alternative of the first one. -/
structure SameFrame (k : Nat) (named : Prop) (before : List Node) (f g : Frame) : Prop where
  verbose : f.verbose = g.verbose
  content :
    (f.finished = [] ∧ g.finished = [] ∧
      ∃ items, f.items = items ++ before.reverse.map Item.node ∧
        List.Forall₂ (SameItem k named) items g.items) ∨
    (∃ fs gs first second, f.finished = fs ++ [before ++ first] ∧ g.finished = gs ++ [second] ∧
      List.Forall₂ (SameParts k named) fs gs ∧ SameParts k named first second ∧
        List.Forall₂ (SameItem k named) f.items g.items)

namespace SameFrame

variable {k : Nat} {named : Prop} {before : List Node} {f g : Frame}

theorem push (h : SameFrame k named before f g) {item item' : Item}
    (hitem : SameItem k named item item') :
    SameFrame k named before (f.push item) (g.push item') := by
  refine ⟨h.verbose, ?_⟩
  rcases h.content with ⟨hf, hg, items, hitems, hsame⟩ | ⟨fs, gs, first, second, hf, hg, hrest,
    hfirst, hsame⟩
  · refine .inl ⟨hf, hg, item :: items, ?_, .cons hitem hsame⟩
    rw [Frame.push, hitems, List.cons_append]
  · exact .inr ⟨fs, gs, first, second, hf, hg, hrest, hfirst, .cons hitem hsame⟩

theorem replace (h : SameFrame k named before f g) {item item' new new' : Item}
    {items items' : List Item} (hf : f.items = item :: items) (hg : g.items = item' :: items')
    (hnew : SameItem k named item item' → SameItem k named new new') :
    SameFrame k named before { f with items := new :: items }
      { g with items := new' :: items' } := by
  refine ⟨h.verbose, ?_⟩
  rcases h.content with ⟨hffinished, hgfinished, others, hothers, hsame⟩ | ⟨fs, gs, first, second,
    hffinished, hgfinished, hrest, hfirst, hsame⟩
  · rw [hg] at hsame
    cases hsame with
    | cons hitem hsame =>
        rw [hf, List.cons_append] at hothers
        obtain ⟨rfl, rfl⟩ := List.cons.inj hothers
        exact .inl ⟨hffinished, hgfinished, _, rfl, .cons (hnew hitem) hsame⟩
  · rw [hf, hg] at hsame
    cases hsame with
    | cons hitem hsame =>
        exact .inr ⟨fs, gs, first, second, hffinished, hgfinished, hrest, hfirst,
          .cons (hnew hitem) hsame⟩

theorem current_eq {items : List Item} (h : f.items = items ++ before.reverse.map Item.node) :
    f.current = before ++ items.reverse.flatMap Item.nodes := by
  have hbefore : (before.map Item.node).flatMap Item.nodes = before := by
    rw [List.flatMap_map]
    exact List.flatMap_singleton' before
  rw [Frame.current, h, List.reverse_append, ← List.map_reverse, List.reverse_reverse,
    List.flatMap_append, hbefore]

theorem alternatives (h : SameFrame k named before f g) :
    ∃ first rest, f.finished.reverse ++ [f.current] = (before ++ first) :: rest ∧
      List.Forall₂ (SameParts k named) (first :: rest) (g.finished.reverse ++ [g.current]) := by
  rcases h.content with ⟨hf, hg, items, hitems, hsame⟩ | ⟨fs, gs, first, second, hf, hg, hrest,
    hfirst, hsame⟩
  · refine ⟨items.reverse.flatMap Item.nodes, [], ?_, ?_⟩
    · rw [hf, current_eq hitems]
      rfl
    · rw [hg, Frame.current]
      exact .cons (sameParts_of_items hsame) .nil
  · refine ⟨first, fs.reverse ++ [f.current], ?_, ?_⟩
    · rw [hf, List.reverse_append]
      rfl
    · rw [hg, List.reverse_append]
      have hcurrent : List.Forall₂ (SameParts k named) [f.current] [g.current] :=
        .cons (sameParts_of_items hsame) .nil
      exact .cons hfirst (List.rel_append (List.rel_reverse hrest) hcurrent)

theorem endAlternative (h : SameFrame k named before f g) :
    SameFrame k named before f.endAlternative g.endAlternative := by
  refine ⟨h.verbose, .inr ?_⟩
  rcases h.content with ⟨hf, hg, items, hitems, hsame⟩ | ⟨fs, gs, first, second, hf, hg, hrest,
    hfirst, hsame⟩
  · refine ⟨[], [], items.reverse.flatMap Item.nodes, g.current, ?_, ?_, .nil,
      sameParts_of_items hsame, .nil⟩
    · rw [Frame.endAlternative, hf, current_eq hitems]
      rfl
    · rw [Frame.endAlternative, hg]
      rfl
  · refine ⟨f.current :: fs, g.current :: gs, first, second, ?_, ?_,
      .cons (sameParts_of_items hsame) hrest, hfirst, .nil⟩
    · rw [Frame.endAlternative, hf]
      rfl
    · rw [Frame.endAlternative, hg]
      rfl

theorem content_nil (h : SameFrame k named [] f g) : SameParts k named f.content g.content := by
  obtain ⟨first, rest, hf, hsame⟩ := h.alternatives
  rw [Frame.content, hf, Frame.content]
  exact SameParts.joinAlternatives hsame

theorem finished_nil (h : SameFrame k named [] f g) :
    List.Forall₂ (SameParts k named) f.finished g.finished := by
  rcases h.content with ⟨hf, hg, _⟩ | ⟨fs, gs, first, second, hf, hg, hrest, hfirst, _⟩
  · rw [hf, hg]
    exact .nil
  · rw [hf, hg]
    exact List.rel_append hrest (.cons hfirst .nil)

theorem current_nil (h : SameFrame k named [] f g) : SameParts k named f.current g.current := by
  rcases h.content with ⟨_, _, items, hitems, hsame⟩ | ⟨_, _, _, _, _, _, _, _, hsame⟩
  · rw [current_eq hitems]
    exact sameParts_of_items hsame
  · exact sameParts_of_items hsame

end SameFrame

theorem sameFrame_fresh (k : Nat) (named : Prop) (opener opener' : Opener) (start start' : Nat)
    (verbose : Bool) :
    SameFrame k named [] { opener, start, verbose }
      { opener := opener', start := start', verbose } :=
  ⟨rfl, .inl ⟨rfl, rfl, [], rfl, .nil⟩⟩

/-- Whether two openers stand for the same kind of group. -/
inductive Opener.Same (k : Nat) (named : Prop) : Opener → Opener → Prop where
  | silent {opener : Opener} (h : opener.isSilent = true) : Same k named opener opener
  | capture {i : Nat} (hi : 0 < i) : Same k named (.capture i) (.capture (shifted k i))
  | behind (negated : Bool) (limit limit' : Option Nat) :
      Same k named (.behind negated limit) (.behind negated limit')
  | conditional {i j : Nat} (hj : named → j = shifted k i) :
      Same k named (.conditional i) (.conditional j)

/-- Closing a group makes the same part in both places, and the same groups are
complete then. -/
theorem SameFrame.close {k : Nat} {named : Prop} {f g : Frame} (h : SameFrame k named [] f g)
    (hopener : f.opener.Same k named g.opener) {groups groups' : Groups}
    (hgroups : SameGroups k named groups groups') :
    SameItem k named (State.close f groups).1 (State.close g groups').1 ∧
      SameGroups k named (State.close f groups).2 (State.close g groups').2 := by
  have hcontent := h.content_nil
  have hwidth (n : Node) (hexact : named ∨ n.isUnreferring = true) :
      (n.renumber (shifted k)).width groups'.width = n.width groups.width :=
    Node.width_renumber _ (hexact.imp_left hgroups.widths)
  generalize hf : f.opener = first at hopener
  generalize hg : g.opener = second at hopener
  cases hopener with
  | silent hsilent =>
      cases first with
      | plain =>
          simp only [State.close, hf, hg]
          exact ⟨hcontent, hgroups⟩
      | «scoped» added removed =>
          simp only [State.close, hf, hg]
          exact ⟨hcontent.wrap (fun _ => rfl) (fun _ => rfl) fun _ _ => rfl, hgroups⟩
      | atomic =>
          simp only [State.close, hf, hg]
          exact ⟨hcontent.wrap (fun _ => rfl) (fun _ => rfl) fun _ _ => rfl, hgroups⟩
      | ahead negated =>
          simp only [State.close, hf, hg]
          exact ⟨hcontent.wrap (fun _ => rfl) (fun _ => rfl) fun _ _ => rfl, hgroups⟩
      | _ => cases hsilent
  | capture hi =>
      simp only [State.close, hf, hg]
      refine ⟨hcontent.wrap (fun _ => rfl) (fun _ => rfl) fun _ _ => rfl,
        hgroups.close hi fun hnamed => ?_⟩
      rw [hcontent.seq_eq (.inl hnamed), hwidth _ (.inl hnamed)]
  | behind negated limit limit' =>
      simp only [State.close, hf, hg]
      refine ⟨?_, hgroups.congr rfl rfl rfl rfl⟩
      refine @SameParts.wrap k named _ _ hcontent
        (fun n => .look (.behind (n.width groups.width)) negated n)
        (fun n => .look (.behind (n.width groups'.width)) negated n) (fun _ => rfl)
        (fun _ => rfl) fun n hexact => ?_
      rw [hwidth n hexact]
      rfl
  | @conditional i j hj =>
      have hfinished := h.finished_nil
      have hcurrent := h.current_nil
      simp only [State.close, hf, hg]
      generalize f.finished = fs at hfinished
      generalize g.finished = gs at hfinished
      cases hfinished with
      | nil =>
          refine ⟨.of_referring rfl rfl fun hnamed => ?_, hgroups⟩
          rw [Node.renumber, hj hnamed, hcurrent.seq_eq (.inl hnamed)]
          rfl
      | cons hpresent _ =>
          refine ⟨.of_referring rfl rfl fun hnamed => ?_, hgroups⟩
          rw [Node.renumber, hj hnamed, hcurrent.seq_eq (.inl hnamed),
            hpresent.seq_eq (.inl hnamed)]

/-- The frames that are open while an expression is read alone, and while it is
read inside of a group: the whole of the first one is that group in the second
one, which stands inside of others. -/
inductive SameFrames (named : Prop) (before : List Node) (index : Nat) (around : List Frame) :
    List Frame → List Frame → Prop where
  | outermost {f g : Frame} (hf : f.opener = .whole) (hg : g.opener = .capture index)
      (hverbose : f.verbose = false) (h : SameFrame index named before f g) :
      SameFrames named before index around [f] (g :: around)
  | inner {f g : Frame} {fs gs : List Frame} (hopener : f.opener.Same index named g.opener)
      (h : SameFrame index named [] f g) (hrest : SameFrames named before index around fs gs) :
      SameFrames named before index around (f :: fs) (g :: gs)

namespace SameFrames

variable {named : Prop} {before : List Node} {index : Nat} {around fs gs : List Frame}
variable {f g f' g' : Frame}

theorem verbose (h : SameFrames named before index around (f :: fs) (g :: gs)) :
    f.verbose = g.verbose := by
  cases h with
  | outermost hf hg hverbose h => exact h.verbose
  | inner hopener h hrest => exact h.verbose

theorem outer_ne_nil (h : SameFrames named before index around (f :: fs) (g :: gs))
    (haround : around ≠ []) : gs ≠ [] := by
  cases h with
  | outermost => exact haround
  | inner hopener h hrest => cases hrest <;> exact List.cons_ne_nil _ _

theorem mapHead (h : SameFrames named before index around (f :: fs) (g :: gs))
    (hf : f'.opener = f.opener) (hg : g'.opener = g.opener) (hverbose : f'.verbose = f.verbose)
    (hsame : ∀ before, SameFrame index named before f g → SameFrame index named before f' g') :
    SameFrames named before index around (f' :: fs) (g' :: gs) := by
  cases h with
  | outermost hwhole hcapture hplain h =>
      exact .outermost (hf.trans hwhole) (hg.trans hcapture) (hverbose.trans hplain) (hsame _ h)
  | inner hopener h hrest =>
      exact .inner (by rw [hf, hg]; exact hopener) (hsame _ h) hrest

end SameFrames

/-- Whether two states of reading differ in what stands around the expression
alone. -/
structure SameState (named : Prop) (before : List Node) (index : Nat) (around : List Frame)
    (st st' : State) : Prop where
  frames : SameFrames named before index around (st.top :: st.outer) (st'.top :: st'.outer)
  groups : SameGroups index named st.groups st'.groups
  flags : st.flags = {}

namespace SameState

variable {named : Prop} {before : List Node} {index : Nat} {around : List Frame}
variable {st₁ st₂ st₁' st₂' : State}

theorem push (h : SameState named before index around st₁ st₂) {item item' : Item}
    (hitem : SameItem index named item item') :
    SameState named before index around (st₁.push item) (st₂.push item') :=
  ⟨h.frames.mapHead rfl rfl rfl fun _ hsame => hsame.push hitem, h.groups, h.flags⟩

theorem openFrame (h : SameState named before index around st₁ st₂) {opener opener' : Opener}
    (hopener : opener.Same index named opener') (start start' : Nat) {verbose verbose' : Bool}
    (hverbose : verbose = verbose') {groups groups' : Groups}
    (hgroups : SameGroups index named groups groups') :
    SameState named before index around
      ({ st₁ with groups }.openFrame opener start verbose)
      ({ st₂ with groups := groups' }.openFrame opener' start' verbose') := by
  subst hverbose
  exact ⟨.inner hopener (sameFrame_fresh _ _ opener opener' start start' verbose) h.frames, hgroups,
    h.flags⟩

/-- A group that is referred to by its name is the same one in both states. -/
theorem group?_target (h : SameState named before index around st₁ st₂) {target : Target}
    (hname : named → target.isNamed = true) {i j : Nat}
    (hi : target.group? st₁.groups = some i) (hj : target.group? st₂.groups = some j)
    (hnamed : named) : j = shifted index i := by
  cases target with
  | named name => exact Option.some.inj (hj.symm.trans (h.groups.names name i hi))
  | numbered => cases hname hnamed

/-- A token that does the same in both places keeps the states the same. -/
theorem effect (haround : around ≠ []) (h : SameState named before index around st₁ st₂)
    {ℓ : Label} (hname : named → ℓ.isByName = true) (h₁ : Effect ℓ st₁ st₁')
    (h₂ : Effect ℓ st₂ st₂') : SameState named before index around st₁' st₂' := by
  cases h₁ with
  | nothing =>
      cases h₂
      exact h
  | atom _ a ha =>
      cases h₂
      exact h.push (.atom ha)
  | reference _ target hi =>
      cases h₂ with
      | reference _ _ hj =>
        refine h.push (.of_referring rfl rfl fun hnamed => ?_)
        rw [h.group?_target hname hi hj hnamed]
        rfl
  | repetition _ greed min max hitems₁ =>
      cases h₂ with
      | repetition _ _ _ _ hitems₂ =>
        refine ⟨h.frames.mapHead rfl rfl rfl fun before hsame => ?_, h.groups, h.flags⟩
        refine hsame.replace hitems₁ hitems₂ fun hitem => ?_
        exact SameParts.wrap hitem (fun _ => rfl) (fun _ => rfl) fun _ _ => rfl
  | capture _ start name? hnew =>
      cases h₂ with
      | capture _ start' _ hnew' =>
        rw [h.groups.next]
        exact h.openFrame (.capture (Nat.succ_pos _)) _ _ h.frames.verbose (h.groups.opened hnew')
  | opening _ start opener verbose hsilent =>
      cases h₂
      exact h.openFrame (.silent hsilent) _ _ rfl h.groups
  | behind _ start negated =>
      cases h₂
      exact h.openFrame (.behind negated _ _) _ _ h.frames.verbose (h.groups.congr rfl rfl rfl rfl)
  | condition _ start target groups hi hwidths hnames =>
      cases h₂ with
      | condition _ start' _ groups' hj hwidths' hnames' =>
        exact h.openFrame (.conditional (h.group?_target hname hi hj)) _ _ h.frames.verbose
          (h.groups.congr hwidths hnames hwidths' hnames')
  | globalFlags =>
      cases h₂ with
      | globalFlags _ flags houter hfresh =>
        have hframes := h.frames
        rw [houter] at hframes
        generalize st₁.top :: st₁.outer = fs at hframes
        cases hframes with
        | outermost => exact absurd rfl haround
        | inner hopener hsame hrest => cases hrest
  | bar =>
      cases h₂
      exact ⟨h.frames.mapHead rfl rfl rfl fun before hsame => hsame.endAlternative, h.groups,
        h.flags⟩
  | closing _ houter₁ =>
      cases h₂ with
      | closing _ houter₂ =>
        have hframes := h.frames
        rw [houter₁, houter₂] at hframes
        cases hframes with
        | inner hopener hsame hrest =>
            obtain ⟨hitem, hgroups⟩ := hsame.close hopener h.groups
            exact ⟨hrest.mapHead rfl rfl rfl fun before hparent => hparent.push hitem, hgroups,
              h.flags⟩

/-- Both places are read to the end of the expression, unless it is rejected in
the second one. A comment cannot run over that end, since a group in which it
started would stay open. -/
theorem run {e₁ e₂ : Setting} {u : List Token} {s₁ s₂ s₁' : Source} (hover : e₁.IsOver)
    (haround : around ≠ []) (h : SameState named before index around st₁ st₂)
    (hname : named → ReadsByName st₁ s₁) (hs₁ : s₁.Ends e₁ u) (hs₂ : s₂.Ends e₂ u)
    (h₁ : Reads st₁ s₁ st₁' s₁') (hnil₁ : s₁'.tokens = []) (houter₁ : st₁'.outer = []) :
    (∃ e, e.isRejected = true ∧ Stops st₂ s₂ e) ∨
      ∃ mid₁ r₁ mid₂ r₂, Reads mid₁ r₁ st₁' s₁' ∧ r₁.Ends e₁ [] ∧ Reads st₂ s₂ mid₂ r₂ ∧
        r₂.Ends e₂ [] ∧ SameState named before index around mid₁ mid₂ := by
  induction h₁ generalizing u st₂ s₂ with
  | done st s =>
      have hu : u = [] := (List.append_eq_nil_iff.mp (hs₁.tokens.symm.trans hnil₁)).1
      rw [hu] at hs₁ hs₂
      exact .inr ⟨st, s, st₂, s₂, .done st s, hs₁, .done st₂ s₂, hs₂, h⟩
  | @token t st st' _ s s' _ hnext hread hrest ih =>
      cases u with
      | nil => exact .inr ⟨st, s, st₂, s₂, .token hnext hread hrest, hs₁, .done st₂ s₂, hs₂, h⟩
      | cons t' rest =>
          obtain rfl : t' = t := Option.some.inj (hs₁.next?.symm.trans hnext)
          have hstep := alike_readToken hover t' h.frames.verbose
            (fun houter => absurd houter (h.frames.outer_ne_nil haround)) hs₁ hs₂ _ hread
          cases hread₂ : readToken t' st₂ s₂ with
          | error e => exact .inl ⟨e, hstep.error hread₂, .here hs₂.next? hread₂⟩
          | ok r =>
              rcases hstep.ok hread₂ with
                ⟨ℓ, heffect₁, heffect₂, hnumber, v, _, hs₁', hs₂'⟩ | ⟨hst, hverbose, hempty, _⟩
              · have hlabel (hnamed : named) : ℓ.isByName = true := by
                  refine hnumber.resolve_right fun hnumber => ?_
                  have hnone := hname hnamed st st' s s' t' (.done st s) hnext hread
                  exact Bool.false_ne_true (hnone.symm.trans hnumber)
                rcases ih (h.effect haround hlabel heffect₁ heffect₂)
                  (fun hnamed => (hname hnamed).rest (.single hnext hread)) hs₁' hs₂' hnil₁
                  houter₁ with
                  ⟨e, hrejected, hstops⟩ | ⟨mid₁, r₁, mid₂, r₂, hend₁, hr₁, hreads₂, hr₂, hmid⟩
                · exact .inl ⟨e, hrejected, .token hs₂.next? hread₂ hstops⟩
                · exact .inr ⟨mid₁, r₁, mid₂, r₂, hend₁, hr₁, .token hs₂.next? hread₂ hreads₂,
                    hr₂, hmid⟩
              · obtain rfl : st' = st := hst
                have hsame : st'.outer = [] := by
                  cases hrest with
                  | done => exact houter₁
                  | token hnext' _ _ =>
                      rw [Source.next?, hempty] at hnext'
                      cases hnext'
                have hframes := h.frames
                rw [hsame] at hframes
                cases hframes with
                | outermost _ _ hplain _ =>
                    rw [hplain] at hverbose
                    cases hverbose
                | inner _ _ hrest => cases hrest

end SameState

theorem readToken_dollar {e : Setting} {st st' : State} {s s' : Source}
    (hs : s.Ends e [.plain '$']) (h : readToken (.plain '$') st s = .ok (st', s')) :
    st' = st.push (.node (.atom (.anchor .lineEnd))) ∧ s'.Ends e [] := by
  have hbar : (Token.plain '$').isPlain '|' = false := rfl
  have hclosing : (Token.plain '$').isPlain ')' = false := rfl
  have hcomment : (Token.plain '$').isPlain '#' = false := rfl
  have hblank : isSkippedBlank (.plain '$') = false := rfl
  simp only [readToken, hbar, hclosing, hcomment, hblank, Bool.and_false, Bool.false_eq_true,
    if_false, bind, Except.bind] at h
  split at h
  · cases h
  · next rest hrest =>
    have hcharacter : readCharacter s.position '$' st rest =
        .ok (st.push (.node (.atom (.anchor .lineEnd))), rest) := rfl
    rw [hcharacter] at h
    obtain ⟨rfl, rfl⟩ := Prod.mk.inj (Except.ok.inj h)
    exact ⟨rfl, hs.advance hrest⟩

theorem reads_over {e : Setting} (hover : e.IsOver) {st st' : State} {s s' : Source}
    (hs : s.Ends e []) (h : Reads st s st' s') (hnil : s'.tokens = []) :
    st' = st ∨ st' = st.push (.node (.atom (.anchor .lineEnd))) := by
  have htokens := hs.tokens
  rw [List.nil_append] at htokens
  rcases hover with hempty | hlast
  · exact .inl (h.eq_of_nil (htokens.trans hempty))
  · have hdollar : s.Ends (.nothing s.dangling) [.plain '$'] :=
      ⟨htokens.trans hlast, rfl, hs.checked⟩
    cases h with
    | done =>
        rw [htokens, hlast] at hnil
        cases hnil
    | token hnext hread hrest =>
        obtain rfl := Option.some.inj (hdollar.next?.symm.trans hnext)
        obtain ⟨rfl, hs'⟩ := readToken_dollar hdollar hread
        exact .inr (hrest.eq_of_nil hs'.tokens)

/-! ## From the start of the expression -/

/-- Where nothing was read yet, no group is open or complete. -/
theorem sameGroups_initial (named : Prop) (g : Groups) :
    SameGroups g.widths.length named {} g := by
  refine ⟨rfl, fun _ _ hnone => (nomatch hnone), fun _ i => ?_⟩
  have hnone : g.width? (shifted g.widths.length i) = none := by
    rw [Groups.width?, shifted]
    by_cases hi : i = 0
    · rw [if_pos hi, if_pos rfl]
    · rw [if_neg hi, if_neg (by omega), List.getElem?_eq_none (by omega)]
      rfl
  rw [Groups.width, hnone, Groups.width, Groups.width?]
  split <;> rfl

/-- Past the anchor at its start, the expression alone is read as inside of a group
that was opened just now. -/
theorem exists_sameState {named : Prop} {first tokens : List Token}
    (hfirst : first = [] ∨ first = [.plain '^']) {st : State} {index start : Nat}
    (htop : st.top = { opener := .capture index, start, verbose := false })
    (hindex : st.groups.widths.length = index)
    (hname : named → ReadsByName .initial (.ahead 0 (first ++ tokens))) {done : State} {s : Source}
    (hreads : Reads .initial (.ahead 0 (first ++ tokens)) done s) (hnil : s.tokens = []) :
    ∃ before alone position, (∀ n ∈ before, n = .atom (.anchor .lineStart)) ∧
      SameState named before index st.outer alone st ∧
      (named → ReadsByName alone (.ahead position tokens)) ∧
      Reads alone (.ahead position tokens) done s := by
  have hgroups : SameGroups index named {} st.groups := hindex ▸ sameGroups_initial named st.groups
  rcases hfirst with rfl | rfl
  · refine ⟨[], .initial, 0, by simp, ⟨.outermost rfl (by rw [htop]) rfl ?_, hgroups, rfl⟩, hname,
      hreads⟩
    rw [htop]
    exact sameFrame_fresh _ _ _ _ _ _ _
  · have hcaret := reads_caret (show State.initial.top.verbose = false from rfl) 0 tokens
    refine ⟨[.atom (.anchor .lineStart)], _, 1, ?_,
      ⟨.outermost rfl (by rw [htop]) rfl ?_, hgroups, rfl⟩,
      fun hnamed => (hname hnamed).rest hcaret, hcaret.rest hreads hnil⟩
    · exact fun n hn => List.mem_singleton.mp hn
    · rw [htop]
      exact ⟨rfl, .inl ⟨rfl, rfl, [], rfl, .nil⟩⟩

end KeyNaming.Regex
