import KeyNaming.Regex.Alternatives
import KeyNaming.Proofs.Counterpart
import KeyNaming.Proofs.Regex.Spelling

/-!
Joined alternatives match as the alternatives do.

Sharing what alternatives start with and merging single characters into a set
change neither the ways of matching nor the groups inside, as long as case is
not ignored. They look at atoms alone, so the numbers of groups make no
difference to them.
-/

namespace KeyNaming.Regex

/-- An atom that refers to a group by another number. -/
def Atom.renumber (ρ : Nat → Nat) : Atom → Atom
  | .reference i => .reference (ρ i)
  | a => a

theorem Atom.renumber_eq_self {ρ : Nat → Nat} {a : Atom} (ha : a.isReference = false) :
    a.renumber ρ = a := by
  cases a with
  | reference i => cases ha
  | _ => rfl

theorem Atom.isReference_renumber (ρ : Nat → Nat) (a : Atom) :
    (a.renumber ρ).isReference = a.isReference := by
  cases a <;> rfl

theorem Atom.isReference_of_isRegular {a : Atom} (h : a.isRegular = true) :
    a.isReference = false := by
  cases a with
  | reference i => cases h
  | _ => rfl

theorem Atom.renumber_injective {ρ : Nat → Nat} (hρ : ρ.Injective) :
    (Atom.renumber ρ).Injective := by
  intro a b h
  cases a with
  | reference i =>
      cases b with
      | reference j => rw [hρ (Atom.reference.inj h)]
      | _ => cases h
  | _ =>
      cases b with
      | reference j => cases h
      | _ => exact h

namespace Node

/-- A part with other numbers for its groups and for those it refers to. -/
def renumber (ρ : Nat → Nat) : Node → Node
  | .empty => .empty
  | .atom a => .atom (a.renumber ρ)
  | .cat first second => .cat (first.renumber ρ) (second.renumber ρ)
  | .alt first second => .alt (first.renumber ρ) (second.renumber ρ)
  | .group i body => .group (ρ i) (body.renumber ρ)
  | .scoped added removed body => .scoped added removed (body.renumber ρ)
  | .repeated greed min max body => .repeated greed min max (body.renumber ρ)
  | .look direction negated body => .look direction negated (body.renumber ρ)
  | .atomic body => .atomic (body.renumber ρ)
  | .conditional i present absent =>
    .conditional (ρ i) (present.renumber ρ) (absent.renumber ρ)

/-- A part with all its groups numbered alike. -/
def plain (n : Node) : Node := n.renumber fun _ => 0

variable (ρ : Nat → Nat)

/-- What a part spells does not depend on the numbers of its groups. -/
@[simp] theorem spells_renumber (n : Node) (f : Flags) (t : Text) :
    (n.renumber ρ).Spells f t ↔ n.Spells f t := by
  induction n generalizing f t with
  | empty => rfl
  | atom a => cases a <;> rfl
  | cat first second ihf ihs => simp only [renumber, Spells, ihf, ihs]
  | alt first second ihf ihs => simp only [renumber, Spells, ihf, ihs]
  | group i body ih => exact ih f t
  | «scoped» added removed body ih => exact ih _ t
  | repeated greed min max body ih => simp only [renumber, Spells, ih]
  | look direction negated body ih => rfl
  | atomic body ih => rfl
  | conditional i present absent ihp iha => rfl

@[simp] theorem isRegular_renumber (n : Node) : (n.renumber ρ).isRegular = n.isRegular := by
  induction n with
  | empty => rfl
  | atom a => cases a <;> rfl
  | cat first second ihf ihs => rw [renumber, isRegular, ihf, ihs, isRegular]
  | alt first second ihf ihs => rw [renumber, isRegular, ihf, ihs, isRegular]
  | group i body ih => exact ih
  | «scoped» added removed body ih => exact ih
  | repeated greed min max body ih => rw [renumber, isRegular, ih, isRegular]
  | look direction negated body ih => rfl
  | atomic body ih => rfl
  | conditional i present absent ihp iha => rfl

@[simp] theorem spells_plain (n : Node) (f : Flags) (t : Text) :
    n.plain.Spells f t ↔ n.Spells f t :=
  spells_renumber _ n f t

@[simp] theorem isRegular_plain (n : Node) : n.plain.isRegular = n.isRegular :=
  isRegular_renumber _ n

/-- Whether a part refers to no group. -/
def isUnreferring : Node → Bool
  | .empty => true
  | .atom a => !a.isReference
  | .cat first second | .alt first second => first.isUnreferring && second.isUnreferring
  | .group _ body | .scoped _ _ body | .repeated _ _ _ body | .look _ _ body | .atomic body =>
    body.isUnreferring
  | .conditional _ _ _ => false

theorem isUnreferring_of_isRegular {n : Node} (h : n.isRegular = true) :
    n.isUnreferring = true := by
  induction n with
  | empty => rfl
  | atom a => rw [isUnreferring, Atom.isReference_of_isRegular h]; rfl
  | cat first second ihf ihs =>
      obtain ⟨hfirst, hsecond⟩ := Bool.and_eq_true_iff.mp h
      exact Bool.and_eq_true_iff.mpr ⟨ihf hfirst, ihs hsecond⟩
  | alt first second ihf ihs =>
      obtain ⟨hfirst, hsecond⟩ := Bool.and_eq_true_iff.mp h
      exact Bool.and_eq_true_iff.mpr ⟨ihf hfirst, ihs hsecond⟩
  | group i body ih => exact ih h
  | «scoped» added removed body ih => exact ih h
  | repeated greed min max body ih => exact ih (Bool.and_eq_true_iff.mp h).2
  | look direction negated body ih => cases h
  | atomic body ih => cases h
  | conditional i present absent ihp iha => cases h

@[simp] theorem isUnreferring_renumber (n : Node) :
    (n.renumber ρ).isUnreferring = n.isUnreferring := by
  induction n with
  | empty => rfl
  | atom a => rw [renumber, isUnreferring, a.isReference_renumber, isUnreferring]
  | cat first second ihf ihs => rw [renumber, isUnreferring, ihf, ihs, isUnreferring]
  | alt first second ihf ihs => rw [renumber, isUnreferring, ihf, ihs, isUnreferring]
  | group i body ih => exact ih
  | «scoped» added removed body ih => exact ih
  | repeated greed min max body ih => exact ih
  | look direction negated body ih => exact ih
  | atomic body ih => exact ih
  | conditional i present absent ihp iha => rfl

/-- A part keeps its width if the groups that it refers to keep theirs. -/
theorem width_renumber {n : Node} {widths widths' : Nat → Width}
    (h : (∀ i, widths' (ρ i) = widths i) ∨ n.isUnreferring = true) :
    (n.renumber ρ).width widths' = n.width widths := by
  induction n with
  | empty => rfl
  | atom a =>
      cases a with
      | reference i =>
          rcases h with h | h
          · exact h i
          · cases h
      | _ => rfl
  | cat first second ihf ihs =>
      have hparts := h.imp_right Bool.and_eq_true_iff.mp
      rw [renumber, width, width, ihf (hparts.imp_right And.left),
        ihs (hparts.imp_right And.right)]
  | alt first second ihf ihs =>
      have hparts := h.imp_right Bool.and_eq_true_iff.mp
      rw [renumber, width, width, ihf (hparts.imp_right And.left),
        ihs (hparts.imp_right And.right)]
  | group i body ih => exact ih h
  | «scoped» added removed body ih => exact ih h
  | repeated greed min max body ih => rw [renumber, width, width, ih h]
  | look direction negated body ih => rfl
  | atomic body ih => exact ih h
  | conditional i present absent ihp iha =>
      rcases h with h | h
      · rw [renumber, width, width, ihp (.inl h), iha (.inl h)]
      · cases h

/-- A condition on parts that a sequence or a choice meets if all of its parts
do, and that characters meet. It does not ask for the numbers of groups. -/
structure IsPartwise (P : Node → Bool) : Prop where
  renumber : ∀ {ρ : Nat → Nat}, ρ.Injective → ∀ n : Node, P (n.renumber ρ) = P n
  empty : P .empty = true
  cat : ∀ first second, P (.cat first second) = (P first && P second)
  alt : ∀ first second, P (.alt first second) = (P first && P second)
  literal : ∀ c, P (.atom (.literal c)) = true
  set : ∀ members, P (.atom (.set false members)) = true

theorem isPartwise_isRegular : IsPartwise isRegular where
  renumber _ := isRegular_renumber _
  empty := rfl
  cat _ _ := rfl
  alt _ _ := rfl
  literal _ := rfl
  set _ := rfl

theorem isPartwise_isUnreferring : IsPartwise isUnreferring where
  renumber _ := isUnreferring_renumber _
  empty := rfl
  cat _ _ := rfl
  alt _ _ := rfl
  literal _ := rfl
  set _ := rfl

@[simp] theorem seq_nil : seq [] = .empty := rfl

@[simp] theorem seq_cons (n : Node) (nodes : List Node) : seq (n :: nodes) = .cat n (seq nodes) :=
  rfl

theorem choice_cons (n m : Node) (nodes : List Node) :
    choice (n :: m :: nodes) = .alt n (choice (m :: nodes)) :=
  rfl

theorem renumber_seq (nodes : List Node) :
    (seq nodes).renumber ρ = seq (nodes.map (renumber ρ)) := by
  induction nodes with
  | nil => rfl
  | cons n rest ih => rw [seq_cons, renumber, ih, List.map_cons, seq_cons]

theorem IsPartwise.seq {P : Node → Bool} (h : IsPartwise P) (nodes : List Node) :
    P (seq nodes) = nodes.all P := by
  induction nodes with
  | nil => exact h.empty
  | cons n rest ih => rw [seq_cons, h.cat, ih, List.all_cons]

theorem isRegular_seq (nodes : List Node) : (seq nodes).isRegular = nodes.all isRegular :=
  isPartwise_isRegular.seq nodes

theorem groups_seq (nodes : List Node) : (seq nodes).groups = nodes.flatMap groups := by
  induction nodes with
  | nil => rfl
  | cons n rest ih => rw [seq_cons, groups, ih, List.flatMap_cons]

theorem renumber_choice (nodes : List Node) :
    (choice nodes).renumber ρ = choice (nodes.map (renumber ρ)) := by
  induction nodes with
  | nil => rfl
  | cons n rest ih =>
      cases rest with
      | nil => rfl
      | cons m rest =>
          rw [choice_cons, renumber, ih]
          rfl

theorem IsPartwise.choice {P : Node → Bool} (h : IsPartwise P) (nodes : List Node) :
    P (choice nodes) = nodes.all P := by
  induction nodes with
  | nil => exact h.empty
  | cons n rest ih =>
      cases rest with
      | nil => simp [Node.choice]
      | cons m rest =>
          rw [choice_cons, h.alt, ih]
          rfl

theorem groups_choice (nodes : List Node) : (choice nodes).groups = nodes.flatMap groups := by
  induction nodes with
  | nil => rfl
  | cons n rest ih =>
      cases rest with
      | nil => simp [choice]
      | cons m rest =>
          rw [choice_cons, groups, ih]
          rfl

theorem ways_seq_append (first second : List Node) (f : Flags) (p : Progress) :
    (seq (first ++ second)).ways f p = ((seq first).ways f p).flatMap ((seq second).ways f) := by
  induction first generalizing p with
  | nil => exact (List.flatMap_singleton _ p).symm
  | cons n rest ih =>
      rw [List.cons_append, seq_cons, seq_cons, ways, ways, List.flatMap_assoc, funext ih]

theorem mem_ways_seq_append (first second : List Node) (f : Flags) (p q : Progress) :
    q ∈ (seq (first ++ second)).ways f p ↔
      ∃ r ∈ (seq first).ways f p, q ∈ (seq second).ways f r := by
  rw [ways_seq_append, List.mem_flatMap]

theorem spells_seq_append (first second : List Node) (f : Flags) (t : Text) :
    (seq (first ++ second)).Spells f t ↔
      ∃ u v, (seq first).Spells f u ∧ (seq second).Spells f v ∧ t = u ++ v := by
  induction first generalizing t with
  | nil =>
      constructor
      · intro h
        exact ⟨[], t, rfl, h, rfl⟩
      · rintro ⟨u, v, rfl, h, rfl⟩
        exact h
  | cons n rest ih =>
      rw [List.cons_append, seq_cons, seq_cons]
      constructor
      · rintro ⟨u, v, hu, hv, rfl⟩
        obtain ⟨w, x, hw, hx, rfl⟩ := (ih v).mp hv
        exact ⟨u ++ w, x, ⟨u, w, hu, hw, rfl⟩, hx, (List.append_assoc u w x).symm⟩
      · rintro ⟨_, x, ⟨u, w, hu, hw, rfl⟩, hx, rfl⟩
        exact ⟨u, w ++ x, hu, (ih _).mpr ⟨w, x, hw, hx, rfl⟩, List.append_assoc u w x⟩

theorem mem_ways_seq_singleton (n : Node) (f : Flags) (p q : Progress) :
    q ∈ (seq [n]).ways f p ↔ q ∈ n.ways f p := by
  simp [ways]

theorem mem_ways_choice (nodes : List Node) (hne : nodes ≠ []) (f : Flags) (p q : Progress) :
    q ∈ (choice nodes).ways f p ↔ ∃ n ∈ nodes, q ∈ n.ways f p := by
  induction nodes with
  | nil => exact absurd rfl hne
  | cons n rest ih =>
      cases rest with
      | nil => simp [choice]
      | cons m rest =>
          rw [choice_cons, ways, List.mem_append, ih (List.cons_ne_nil m rest)]
          simp only [List.mem_cons, exists_eq_or_imp]

end Node

/-! ## Sharing what alternatives start with -/

theorem headAtom?_eq_some {nodes : List Node} {a : Atom} (h : headAtom? nodes = some a) :
    nodes = .atom a :: nodes.tail := by
  unfold headAtom? at h
  split at h
  · obtain rfl := Option.some.inj h
    rfl
  · cases h

theorem headAtom?_map_renumber (ρ : Nat → Nat) (nodes : List Node) :
    headAtom? (nodes.map (Node.renumber ρ)) = (headAtom? nodes).map (Atom.renumber ρ) := by
  cases nodes with
  | nil => rfl
  | cons n rest => cases n <;> rfl

/-- The common parts before each remainder give back the alternatives. -/
theorem map_append_splitCommon (first : List Node) (others : List (List Node)) :
    (splitCommon first others).2.map ((splitCommon first others).1 ++ ·) = first :: others := by
  induction first generalizing others with
  | nil => simp [splitCommon]
  | cons n rest ih =>
      cases n with
      | atom a =>
          rw [splitCommon]
          split
          · next hall =>
            have hothers : others = (others.map List.tail).map (.atom a :: ·) := by
              rw [List.map_map]
              symm
              conv_rhs => rw [← List.map_id others]
              apply List.map_congr_left
              intro other hother
              have hhead := List.all_eq_true.mp hall other hother
              exact (headAtom?_eq_some (eq_of_beq hhead)).symm
            have hrest := ih (others.map List.tail)
            have hcons : (splitCommon rest (others.map List.tail)).2.map
                (.atom a :: (splitCommon rest (others.map List.tail)).1 ++ ·) =
                  ((splitCommon rest (others.map List.tail)).2.map
                    ((splitCommon rest (others.map List.tail)).1 ++ ·)).map (.atom a :: ·) := by
              rw [List.map_map]
              rfl
            rw [hcons, hrest, List.map_cons, ← hothers]
          · simp
      | _ => simp [splitCommon]

theorem exists_atom_of_mem_splitCommon (first : List Node) (others : List (List Node)) :
    ∀ n ∈ (splitCommon first others).1, ∃ a, n = .atom a := by
  induction first generalizing others with
  | nil => simp [splitCommon]
  | cons n rest ih =>
      cases n with
      | atom a =>
          rw [splitCommon]
          split
          · intro n hn
            rcases List.mem_cons.mp hn with hhead | htail
            · exact ⟨a, hhead⟩
            · exact ih _ n htail
          · simp
      | _ => simp [splitCommon]

theorem splitCommon_map_renumber {ρ : Nat → Nat} (hρ : ρ.Injective) (first : List Node)
    (others : List (List Node)) :
    splitCommon (first.map (Node.renumber ρ)) (others.map (List.map (Node.renumber ρ))) =
      ((splitCommon first others).1.map (Node.renumber ρ),
        (splitCommon first others).2.map (List.map (Node.renumber ρ))) := by
  induction first generalizing others with
  | nil => rfl
  | cons n rest ih =>
      cases n with
      | atom a =>
          have htails : (others.map (List.map (Node.renumber ρ))).map List.tail =
              (others.map List.tail).map (List.map (Node.renumber ρ)) := by
            rw [List.map_map, List.map_map]
            exact List.map_congr_left fun other _ => List.map_tail.symm
          have hhead (other : List Node) :
              (headAtom? (other.map (Node.renumber ρ)) == some (a.renumber ρ)) =
                (headAtom? other == some a) := by
            have hsame := (Option.map_injective (Atom.renumber_injective hρ)).eq_iff
              (a := headAtom? other) (b := some a)
            rw [headAtom?_map_renumber, Bool.eq_iff_iff, beq_iff_eq, beq_iff_eq]
            exact hsame
          simp only [List.map_cons, Node.renumber, splitCommon, List.all_map, Function.comp_def,
            hhead, htails, ih]
          split <;> rfl
      | _ => rfl

/-! ## Single characters as one set -/

theorem members?_map_renumber (ρ : Nat → Nat) (nodes : List Node) :
    members? (nodes.map (Node.renumber ρ)) = members? nodes := by
  rcases nodes with _ | ⟨n, _ | ⟨m, rest⟩⟩
  · rfl
  · cases n with
    | atom a =>
        cases a with
        | set negated members => cases negated <;> rfl
        | _ => rfl
    | _ => rfl
  · cases n with
    | atom a =>
        cases a with
        | set negated members => cases negated <;> rfl
        | _ => rfl
    | _ => rfl

theorem mem_ways_of_members? {nodes : List Node} {members : List Member}
    (h : members? nodes = some members) (f : Flags) (hcase : f.ignoreCase = false)
    (p q : Progress) :
    q ∈ (Node.seq nodes).ways f p ↔
      p.step (fun c => members.any (Member.contains f c)) = some q := by
  have hset (atom : Atom) (accepts : CodePoint → Bool) (ha : atom.step f p = p.step accepts) :
      q ∈ (Node.seq [.atom atom]).ways f p ↔ p.step accepts = some q := by
    rw [Node.mem_ways_seq_singleton, Node.ways, Option.mem_toList, ha]
  unfold members? at h
  split at h
  · next c =>
    obtain rfl := Option.some.inj h
    apply hset
    have haccepts : isLiteral f c = fun d => d == c := by
      funext d
      simp [isLiteral, hcase]
    simp [Atom.step, haccepts, Member.contains]
  · obtain rfl := Option.some.inj h
    apply hset
    simp [Atom.step, setContains, hcase]
  · cases h

theorem Node.IsPartwise.of_members? {P : Node → Bool} (h : IsPartwise P) {nodes : List Node}
    {members : List Member} (hmembers : members? nodes = some members) : nodes.all P = true := by
  unfold Regex.members? at hmembers
  split at hmembers
  · rw [List.all_cons, h.literal]
    rfl
  · rw [List.all_cons, h.set]
    rfl
  · cases hmembers

theorem groups_of_members? {nodes : List Node} {members : List Member}
    (h : members? nodes = some members) : nodes.flatMap Node.groups = [] := by
  unfold members? at h
  split at h
  · rfl
  · rfl
  · cases h

theorem forall_members_of_mapM {alternatives : List (List Node)} {sets : List (List Member)}
    (h : alternatives.mapM members? = some sets) :
    List.Forall₂ (fun nodes members => members? nodes = some members) alternatives sets := by
  induction alternatives generalizing sets with
  | nil =>
      obtain rfl := Option.some.inj h
      exact .nil
  | cons nodes rest ih =>
      rw [List.mapM_cons] at h
      obtain ⟨members, hmembers, h⟩ := Option.bind_eq_some_iff.mp h
      obtain ⟨sets', hsets, h⟩ := Option.bind_eq_some_iff.mp h
      obtain rfl := Option.some.inj h
      exact .cons hmembers (ih hsets)

theorem exists_members_of_mapM {alternatives : List (List Node)} {sets : List (List Member)}
    (h : alternatives.mapM members? = some sets) (nodes : List Node)
    (hnodes : nodes ∈ alternatives) : ∃ members, members? nodes = some members := by
  obtain ⟨members, _, hmembers⟩ := exists_mem_of_forall₂ (forall_members_of_mapM h) hnodes
  exact ⟨members, hmembers⟩

/-! ## Joining -/

/-- The parts of joined alternatives: what they share, and what stands for
their remainders. -/
theorem joinAlternatives_eq (alternatives : List (List Node)) (hne : alternatives ≠ []) :
    ∃ common rests, alternatives = rests.map (common ++ ·) ∧ (∀ n ∈ common, ∃ a, n = .atom a) ∧
      ((∃ rest, rests = [rest] ∧ joinAlternatives alternatives = common ++ rest) ∨
        (∃ sets, rests.mapM members? = some sets ∧ joinAlternatives alternatives =
          common ++ [.atom (.set false sets.flatten.eraseDups)]) ∨
        joinAlternatives alternatives = common ++ [Node.choice (rests.map Node.seq)]) := by
  cases alternatives with
  | nil => exact absurd rfl hne
  | cons first others =>
      cases others with
      | nil => exact ⟨[], [first], by simp, by simp, .inl ⟨first, rfl, rfl⟩⟩
      | cons second others =>
          refine ⟨_, _, (map_append_splitCommon first (second :: others)).symm,
            exists_atom_of_mem_splitCommon first (second :: others), .inr ?_⟩
          simp only [joinAlternatives]
          split
          · next sets hsets => exact .inl ⟨sets, hsets, rfl⟩
          · exact .inr rfl

/-- Joined alternatives match in the ways in which any of them does. -/
theorem mem_ways_joinAlternatives (alternatives : List (List Node)) (hne : alternatives ≠ [])
    (f : Flags) (hcase : f.ignoreCase = false) (p q : Progress) :
    q ∈ (Node.seq (joinAlternatives alternatives)).ways f p ↔
      ∃ nodes ∈ alternatives, q ∈ (Node.seq nodes).ways f p := by
  obtain ⟨common, rests, halternatives, _, hjoin⟩ := joinAlternatives_eq alternatives hne
  have hmap : (∃ nodes ∈ alternatives, q ∈ (Node.seq nodes).ways f p) ↔
      ∃ r ∈ (Node.seq common).ways f p, ∃ rest ∈ rests, q ∈ (Node.seq rest).ways f r := by
    rw [halternatives]
    simp only [List.mem_map, exists_exists_and_eq_and, Node.mem_ways_seq_append]
    constructor
    · rintro ⟨rest, hrest, r, hr, hq⟩
      exact ⟨r, hr, rest, hrest, hq⟩
    · rintro ⟨r, hr, rest, hrest, hq⟩
      exact ⟨rest, hrest, r, hr, hq⟩
  rw [hmap]
  rcases hjoin with ⟨rest, rfl, hjoin⟩ | ⟨sets, hsets, hjoin⟩ | hjoin
  · rw [hjoin, Node.mem_ways_seq_append]
    simp
  · rw [hjoin, Node.mem_ways_seq_append]
    have hforall := forall_members_of_mapM hsets
    have hset (r : Progress) : q ∈ (Node.seq [.atom (.set false sets.flatten.eraseDups)]).ways f r ↔
        ∃ rest ∈ rests, q ∈ (Node.seq rest).ways f r := by
      have hmerged : members? [.atom (.set false sets.flatten.eraseDups)] =
          some sets.flatten.eraseDups := rfl
      rw [mem_ways_of_members? hmerged f hcase]
      clear hsets hmerged hmap hjoin halternatives
      simp only [Progress.step_eq_some, List.any_eq_true, List.mem_eraseDups, List.mem_flatten]
      induction hforall with
      | nil => simp
      | cons hmembers _ ih =>
          simp only [List.mem_cons, exists_eq_or_imp, mem_ways_of_members? hmembers f hcase,
            Progress.step_eq_some, List.any_eq_true, ← ih]
          constructor
          · rintro ⟨c, rest, hafter, ⟨member, hmember | hmember, hc⟩, hq⟩
            · exact .inl ⟨c, rest, hafter, ⟨member, hmember, hc⟩, hq⟩
            · exact .inr ⟨c, rest, hafter, ⟨member, hmember, hc⟩, hq⟩
          · rintro (⟨c, rest, hafter, ⟨member, hmember, hc⟩, hq⟩ |
              ⟨c, rest, hafter, ⟨member, hmember, hc⟩, hq⟩)
            · exact ⟨c, rest, hafter, ⟨member, .inl hmember, hc⟩, hq⟩
            · exact ⟨c, rest, hafter, ⟨member, .inr hmember, hc⟩, hq⟩
    simp only [hset]
  · have hrests : rests.map Node.seq ≠ [] := by
      intro hnil
      obtain rfl := List.map_eq_nil_iff.mp hnil
      exact hne halternatives
    rw [hjoin, Node.mem_ways_seq_append]
    simp only [Node.mem_ways_seq_singleton, Node.mem_ways_choice _ hrests, List.mem_map,
      exists_exists_and_eq_and]

/-- Joining does not depend on the numbers of groups, as long as they are told
apart. -/
theorem joinAlternatives_map_renumber {ρ : Nat → Nat} (hρ : ρ.Injective)
    (alternatives : List (List Node)) :
    joinAlternatives (alternatives.map (List.map (Node.renumber ρ))) =
      (joinAlternatives alternatives).map (Node.renumber ρ) := by
  rcases alternatives with _ | ⟨first, _ | ⟨second, others⟩⟩
  · rfl
  · rfl
  · have hmembers : members? ∘ List.map (Node.renumber ρ) = members? :=
      funext (members?_map_renumber ρ)
    have hseq (rests : List (List Node)) :
        (rests.map (List.map (Node.renumber ρ))).map Node.seq =
          (rests.map Node.seq).map (Node.renumber ρ) := by
      rw [List.map_map, List.map_map]
      exact List.map_congr_left fun nodes _ => (Node.renumber_seq ρ nodes).symm
    have hsplit := splitCommon_map_renumber hρ first (second :: others)
    rw [List.map_cons] at hsplit
    simp only [List.map_cons, joinAlternatives, hsplit, List.mapM_map, hmembers, hseq]
    cases (splitCommon first (second :: others)).2.mapM members? with
    | some sets =>
        simp only [List.map_append]
        rfl
    | none => simp only [List.map_append, List.map_cons, List.map_nil, Node.renumber_choice]

/-- Joined alternatives meet a condition if all of them do, and only then. -/
theorem Node.IsPartwise.joinAlternatives {P : Node → Bool} (h : IsPartwise P)
    (alternatives : List (List Node)) :
    (joinAlternatives alternatives).all P = alternatives.all fun nodes => nodes.all P := by
  by_cases hne : alternatives = []
  · rw [hne]
    rfl
  · obtain ⟨common, rests, halternatives, _, hjoin⟩ := joinAlternatives_eq alternatives hne
    have hrests : rests ≠ [] := by
      rintro rfl
      exact hne halternatives
    have hall : (alternatives.all fun nodes => nodes.all P) =
        (common.all P && rests.all fun rest => rest.all P) := by
      rw [halternatives, List.all_map]
      cases hcommon : common.all P with
      | true =>
          rw [Bool.true_and]
          apply congrArg rests.all
          funext rest
          rw [Function.comp_apply, List.all_append, hcommon, Bool.true_and]
      | false =>
          obtain ⟨rest, others, rfl⟩ := List.exists_cons_of_ne_nil hrests
          rw [List.all_cons, Function.comp_apply, List.all_append, hcommon]
          rfl
    rw [hall]
    rcases hjoin with ⟨rest, rfl, hjoin⟩ | ⟨sets, hsets, hjoin⟩ | hjoin
    · rw [hjoin, List.all_append, List.all_cons, List.all_nil, Bool.and_true]
    · have hmembers : (rests.all fun rest => rest.all P) = true := by
        rw [List.all_eq_true]
        intro rest hrest
        obtain ⟨members, hmembers⟩ := exists_members_of_mapM hsets rest hrest
        exact h.of_members? hmembers
      rw [hjoin, List.all_append, hmembers, List.all_cons, h.set]
      rfl
    · have hseq : P ∘ Node.seq = fun nodes => nodes.all P := funext h.seq
      rw [hjoin, List.all_append, List.all_cons, List.all_nil, Bool.and_true, h.choice,
        List.all_map, hseq]

theorem groups_joinAlternatives (alternatives : List (List Node)) :
    (joinAlternatives alternatives).flatMap Node.groups =
      alternatives.flatten.flatMap Node.groups := by
  by_cases hne : alternatives = []
  · simp [hne, joinAlternatives]
  · obtain ⟨common, rests, halternatives, hatoms, hjoin⟩ := joinAlternatives_eq alternatives hne
    have hcommon : common.flatMap Node.groups = [] := by
      rw [List.flatMap_eq_nil_iff]
      intro n hn
      obtain ⟨a, rfl⟩ := hatoms n hn
      rfl
    have hall : alternatives.flatten.flatMap Node.groups = rests.flatten.flatMap Node.groups := by
      rw [halternatives]
      clear hjoin halternatives
      induction rests with
      | nil => rfl
      | cons rest rests ih =>
          simp only [List.map_cons, List.flatten_cons, List.flatMap_append, hcommon, ih,
            List.nil_append]
    rw [hall]
    rcases hjoin with ⟨rest, rfl, hjoin⟩ | ⟨sets, hsets, hjoin⟩ | hjoin
    · rw [hjoin, List.flatMap_append, hcommon]
      simp
    · rw [hjoin, List.flatMap_append, hcommon]
      symm
      rw [List.flatMap_eq_nil_iff.mpr]
      · rfl
      · intro n hn
        obtain ⟨rest, hrest, hnrest⟩ := List.mem_flatten.mp hn
        obtain ⟨members, hmembers⟩ := exists_members_of_mapM hsets rest hrest
        exact List.flatMap_eq_nil_iff.mp (groups_of_members? hmembers) n hnrest
    · rw [hjoin, List.flatMap_append, hcommon]
      simp only [List.flatMap_cons, List.flatMap_nil, List.nil_append, List.append_nil,
        Node.groups_choice]
      clear hjoin hall halternatives
      induction rests with
      | nil => rfl
      | cons rest rests ih =>
          simp only [List.map_cons, List.flatMap_cons, ih, List.flatten_cons, List.flatMap_append,
            Node.groups_seq]

end KeyNaming.Regex
