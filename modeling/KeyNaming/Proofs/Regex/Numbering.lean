import Mathlib.Data.List.Nodup
import KeyNaming.Proofs.Regex.Joining
import KeyNaming.Proofs.Regex.Runs

/-!
What reading does with the numbers and the names of groups, and with the flags
of the whole.

Groups are numbered as they are opened, so no number is given twice, and what
was named before keeps its name. Flags for the whole are set only while nothing
was read yet.
-/

namespace KeyNaming.Regex

def Opener.numbers : Opener → List Nat
  | .capture i => [i]
  | _ => []

/-- The numbers of the groups inside an open group, its own included, in the order
of their opening parentheses. -/
def Frame.numbers (f : Frame) : List Nat :=
  f.opener.numbers ++ f.content.flatMap Node.groups

/-- The numbers of all groups read so far. -/
def State.numbers (st : State) : List Nat :=
  st.outer.reverse.flatMap Frame.numbers ++ st.top.numbers

theorem Frame.groups_content (f : Frame) :
    f.content.flatMap Node.groups =
      f.finished.reverse.flatten.flatMap Node.groups ++ f.current.flatMap Node.groups := by
  rw [Frame.content, groups_joinAlternatives, List.flatten_append, List.flatMap_append,
    List.flatten_singleton]

theorem Frame.current_push (f : Frame) (item : Item) :
    (f.push item).current = f.current ++ item.nodes := by
  simp [Frame.push, Frame.current]

theorem Frame.numbers_push (f : Frame) (item : Item) :
    (f.push item).numbers = f.numbers ++ item.nodes.flatMap Node.groups := by
  rw [Frame.numbers, Frame.groups_content, Frame.current_push, List.flatMap_append, Frame.numbers,
    Frame.groups_content, List.append_assoc, List.append_assoc]
  rfl

theorem Frame.numbers_endAlternative (f : Frame) : f.endAlternative.numbers = f.numbers := by
  rw [Frame.numbers, Frame.groups_content, Frame.numbers, Frame.groups_content]
  simp [Frame.endAlternative, Frame.current]

theorem Frame.numbers_replace (f : Frame) {item : Item} {items : List Item}
    (hitems : f.items = item :: items) (greed : Greed) (min : Nat) (max : Option Nat) :
    Frame.numbers
        { f with items := .node (.repeated greed min max (Node.seq item.nodes)) :: items } =
      f.numbers := by
  rw [Frame.numbers, Frame.groups_content, Frame.numbers, Frame.groups_content]
  simp [Frame.current, hitems, Item.nodes, Node.groups, Node.groups_seq]

theorem State.numbers_openFrame (st : State) (opener : Opener) (start : Nat) (verbose : Bool) :
    (st.openFrame opener start verbose).numbers = st.numbers ++ opener.numbers := by
  have hfresh : ({ opener, start, verbose : Frame }).numbers = opener.numbers :=
    List.append_nil opener.numbers
  rw [State.numbers, State.openFrame, hfresh, List.reverse_cons, List.flatMap_append,
    List.flatMap_singleton, State.numbers]

theorem Opener.numbers_of_isSilent {o : Opener} (h : o.isSilent = true) : o.numbers = [] := by
  cases o <;> first | rfl | cases h

/-- A closed group has no other numbers than the open one had. -/
theorem State.sublist_close (f : Frame) (g : Groups) :
    ((State.close f g).1.nodes.flatMap Node.groups).Sublist f.numbers := by
  have hcontent : (f.content.flatMap Node.groups).Sublist f.numbers :=
    List.sublist_append_right _ _
  have hbody {n : Node} (hn : n.groups = (Node.seq f.content).groups) :
      ([n].flatMap Node.groups).Sublist f.numbers := by
    rw [List.flatMap_singleton, hn, Node.groups_seq]
    exact hcontent
  cases hopener : f.opener with
  | whole => rw [State.close, hopener]; exact hcontent
  | plain => rw [State.close, hopener]; exact hcontent
  | capture j =>
      rw [State.close, hopener, Item.nodes, List.flatMap_singleton, Node.groups, Node.groups_seq,
        Frame.numbers, hopener]
      exact List.Sublist.refl _
  | «scoped» added removed => rw [State.close, hopener]; exact hbody rfl
  | atomic => rw [State.close, hopener]; exact hbody rfl
  | ahead negated => rw [State.close, hopener]; exact hbody rfl
  | behind negated limit => rw [State.close, hopener]; exact hbody rfl
  | conditional j =>
      refine List.Sublist.trans ?_ hcontent
      rw [Frame.groups_content]
      simp only [State.close, hopener]
      cases hfinished : f.finished with
      | nil =>
          rw [Item.nodes, List.flatMap_singleton, Node.groups, Node.groups_seq, Node.groups,
            List.append_nil]
          exact List.sublist_append_right _ _
      | cons present rest =>
          rw [Item.nodes, List.flatMap_singleton, Node.groups, Node.groups_seq, Node.groups_seq,
            List.reverse_cons, List.flatten_append, List.flatMap_append, List.flatten_singleton]
          exact (List.sublist_append_right _ _).append (List.Sublist.refl _)

theorem State.length_widths_close (f : Frame) (g : Groups) :
    (State.close f g).2.widths.length = g.widths.length := by
  cases hopener : f.opener <;> simp only [State.close, hopener, Groups.close, List.length_set]
  split <;> rfl

theorem State.names_close (f : Frame) (g : Groups) : (State.close f g).2.names = g.names := by
  cases hopener : f.opener <;> simp only [State.close, hopener, Groups.close]
  split <;> rfl

/-- Whether the numbers given so far are in order, each at most once. -/
def State.IsNumbered (st : State) : Prop :=
  st.numbers.Sublist (List.range' 1 st.groups.widths.length)

/-- A token opens the group with the next number or brings in no number. -/
theorem Effect.isNumbered {ℓ : Label} {st st' : State} (h : Effect ℓ st st')
    (hst : st.IsNumbered) : st'.IsNumbered := by
  have hopened {opener : Opener} (hopener : opener.numbers = []) (start : Nat) (verbose : Bool)
      {groups : Groups} (hwidths : groups.widths = st.groups.widths) :
      ({ st with groups }.openFrame opener start verbose).IsNumbered := by
    rw [State.IsNumbered, State.numbers_openFrame, hopener, List.append_nil]
    simp only [State.openFrame, hwidths]
    exact hst
  have hpushed (a : Atom) : (st.push (.node (.atom a))).IsNumbered := by
    rw [State.IsNumbered, State.numbers, State.push, Frame.numbers_push]
    exact (List.append_nil st.top.numbers).symm ▸ hst
  cases h with
  | nothing st => exact hst
  | atom st a ha => exact hpushed a
  | reference st target hi => exact hpushed _
  | repetition st greed min max hitems =>
      rw [State.IsNumbered, State.numbers, Frame.numbers_replace _ hitems]
      exact hst
  | capture st start name? hnew =>
      rw [State.IsNumbered, State.numbers_openFrame, State.openFrame, Groups.widths_opened,
        List.length_append, List.length_singleton, List.range'_1_concat]
      exact List.Sublist.append hst (by rw [Nat.add_comm 1]; exact List.Sublist.refl _)
  | opening st start opener verbose hsilent =>
      exact hopened (Opener.numbers_of_isSilent hsilent) start verbose rfl
  | behind st start negated => exact hopened rfl start _ rfl
  | condition st start target groups hi hwidths hnames => exact hopened rfl start _ hwidths
  | globalFlags st flags houter hfresh => exact hst
  | bar st =>
      rw [State.IsNumbered, State.numbers, Frame.numbers_endAlternative]
      exact hst
  | closing st houter =>
      rw [State.IsNumbered, State.numbers, houter, List.reverse_cons, List.flatMap_append,
        List.flatMap_singleton] at hst
      rw [State.IsNumbered, State.numbers, Frame.numbers_push, State.length_widths_close,
        ← List.append_assoc]
      exact ((List.Sublist.refl _).append (State.sublist_close _ _)).trans hst

/-- Groups are numbered from one in the order of their opening parentheses. -/
theorem exists_sublist_groups_of_read {source : Text} {given : Flags} {form : Form}
    (h : read source given = .ok form) :
    ∃ n, form.node.groups.Sublist (List.range' 1 n) := by
  obtain ⟨st, hst, hnode, _⟩ := exists_run_of_read h
  obtain ⟨_, s, hreads, _, _⟩ := reads_of_readText hst
  have hnumbered : st.IsNumbered := hreads.preserves (fun _ _ _ => Effect.isNumbered)
    (Source.isChecked_whole source) (List.Sublist.refl [])
  refine ⟨_, List.Sublist.trans ?_ hnumbered⟩
  rw [hnode, Node.groups_seq]
  exact (List.sublist_append_right _ _).trans (List.sublist_append_right _ _)

/-- What was named before keeps its name. -/
theorem Effect.names {ℓ : Label} {st st' : State} (h : Effect ℓ st st') :
    st.groups.names <+: st'.groups.names := by
  cases h with
  | capture st start name? hnew =>
      cases name? with
      | none => exact List.prefix_refl _
      | some name => exact List.prefix_append _ _
  | condition st start target groups hi hwidths hnames => rw [State.openFrame, hnames]
  | closing st houter => rw [State.names_close]
  | _ => exact List.prefix_refl _

theorem Reads.names {st st' : State} {s s' : Source} (h : Reads st s st' s') (hs : s.IsChecked) :
    st.groups.names <+: st'.groups.names :=
  h.preserves (P := fun other => st.groups.names <+: other.groups.names)
    (fun _ _ _ heffect hprefix => hprefix.trans heffect.names) hs (List.prefix_refl _)

theorem Reads.lookup_name {st st' : State} {s s' : Source} (h : Reads st s st' s')
    (hs : s.IsChecked) {name : Text} {i : Nat} (hname : st.groups.names.lookup name = some i) :
    st'.groups.names.lookup name = some i := by
  obtain ⟨later, hlater⟩ := h.names hs
  rw [← hlater, List.lookup_append, hname]
  rfl

/-- Whether something was read, and the flags of the whole are given ones. -/
def State.HasBegun (flags : Flags) (st : State) : Prop :=
  st.flags = flags ∧ (st.outer = [] → st.top.isFresh = false)

/-- Once something was read no flags are set for the whole. -/
theorem Effect.hasBegun {flags : Flags} {ℓ : Label} {st st' : State} (h : Effect ℓ st st')
    (hst : st.HasBegun flags) : st'.HasBegun flags := by
  obtain ⟨hflags, hbegun⟩ := hst
  cases h with
  | nothing st => exact ⟨hflags, hbegun⟩
  | atom st a ha => exact ⟨hflags, fun _ => by simp [State.push, Frame.push, Frame.isFresh]⟩
  | reference st target hi =>
      exact ⟨hflags, fun _ => by simp [State.push, Frame.push, Frame.isFresh]⟩
  | repetition st greed min max hitems => exact ⟨hflags, fun _ => by simp [Frame.isFresh]⟩
  | capture st start name? hnew => exact ⟨hflags, fun h => by cases h⟩
  | opening st start opener verbose hsilent => exact ⟨hflags, fun h => by cases h⟩
  | behind st start negated => exact ⟨hflags, fun h => by cases h⟩
  | condition st start target groups hi hwidths hnames => exact ⟨hflags, fun h => by cases h⟩
  | globalFlags st flags houter hfresh =>
      rw [hbegun houter] at hfresh
      cases hfresh
  | bar st => exact ⟨hflags, fun _ => by simp [Frame.endAlternative, Frame.isFresh]⟩
  | closing st houter => exact ⟨hflags, fun _ => by simp [Frame.push, Frame.isFresh]⟩

end KeyNaming.Regex
