import KeyNaming.Proofs.Regex.Ways

/-!
What every way of matching leaves as it was.

A match only moves forward: what a part has taken and what is still ahead of
it make up what was ahead before. The marks of a group change only where the
part has that group inside.
-/

namespace KeyNaming.Regex

/-- The numbers of the groups inside a part, in the order of their opening
parentheses. -/
def Node.groups : Node → List Nat
  | .empty | .atom _ => []
  | .cat first second | .alt first second => first.groups ++ second.groups
  | .group i body => i :: body.groups
  | .scoped _ _ body | .repeated _ _ _ body | .look _ _ body | .atomic body => body.groups
  | .conditional _ present absent => present.groups ++ absent.groups

namespace Progress

/-- Whether some text lies between a progress and a later one. -/
def Reaches (p q : Progress) : Prop :=
  ∃ t, p.position.after = t ++ q.position.after ∧
    q.position.before = t.reverse ++ p.position.before

/-- Whether the marks of a group are the same. -/
def Keeps (i : Nat) (p q : Progress) : Prop :=
  q.opened.lookup i = p.opened.lookup i ∧ q.closed.lookup i = p.closed.lookup i

/-- Whether a group has no marks yet. -/
def IsFresh (p : Progress) (i : Nat) : Prop :=
  p.opened.lookup i = none ∧ p.closed.lookup i = none

theorem Reaches.refl (p : Progress) : p.Reaches p := ⟨[], rfl, rfl⟩

theorem Reaches.trans {p q r : Progress} (hpq : p.Reaches q) (hqr : q.Reaches r) :
    p.Reaches r := by
  obtain ⟨t, hafter, hbefore⟩ := hpq
  obtain ⟨u, hafter', hbefore'⟩ := hqr
  refine ⟨t ++ u, ?_, ?_⟩
  · rw [hafter, hafter', List.append_assoc]
  · rw [hbefore', hbefore, List.reverse_append, List.append_assoc]

theorem Keeps.refl (i : Nat) (p : Progress) : p.Keeps i p := ⟨rfl, rfl⟩

theorem Keeps.trans {i : Nat} {p q r : Progress} (hpq : p.Keeps i q) (hqr : q.Keeps i r) :
    p.Keeps i r :=
  ⟨hqr.1.trans hpq.1, hqr.2.trans hpq.2⟩

theorem Keeps.group? {i : Nat} {p q : Progress} (h : p.Keeps i q) : q.group? i = p.group? i := by
  rw [Progress.group?, Progress.group?, h.1, h.2]

theorem Keeps.isFresh {i : Nat} {p q : Progress} (h : p.Keeps i q) (hp : p.IsFresh i) :
    q.IsFresh i :=
  ⟨h.1.trans hp.1, h.2.trans hp.2⟩

theorem IsFresh.group? {i : Nat} {p : Progress} (h : p.IsFresh i) : p.group? i = none := by
  rw [Progress.group?, h.1, h.2]

theorem isFresh_start (t : Text) (i : Nat) : (start t).IsFresh i := ⟨rfl, rfl⟩

/-- A step takes one accepted character and marks nothing. -/
theorem step_eq_some {accepts : CodePoint → Bool} {p q : Progress} :
    p.step accepts = some q ↔
      ∃ c rest, p.position.after = c :: rest ∧ accepts c = true ∧
        q = { p with position := ⟨c :: p.position.before, rest⟩ } := by
  constructor
  · intro h
    rw [step] at h
    split at h
    · cases h
    · next c rest hafter =>
      split at h
      · next haccepts => exact ⟨c, rest, hafter, haccepts, (Option.some.inj h).symm⟩
      · cases h
  · rintro ⟨c, rest, hafter, haccepts, rfl⟩
    simp only [step, hafter, haccepts, if_true]

theorem lookup_cons_of_ne {A : Type} {i j : Nat} (h : i ≠ j) (a : A) (marks : List (Nat × A)) :
    List.lookup i ((j, a) :: marks) = marks.lookup i := by
  rw [List.lookup_cons, beq_false_of_ne h]

end Progress

/-- A relation between the progress before and after a part that all parts
respect whose groups satisfy a condition. -/
structure Tracked (R : Progress → Progress → Prop) (allowed : Nat → Prop) : Prop where
  refl : ∀ p, R p p
  trans : ∀ {p q r}, R p q → R q r → R p r
  step : ∀ {accepts p q}, Progress.step accepts p = some q → R p q
  openGroup : ∀ {i} p, allowed i → R p (p.openGroup i)
  closeGroup : ∀ {i} p, allowed i → R p (p.closeGroup i)
  look : ∀ {p position q}, R { p with position } q → R p { q with position := p.position }

namespace Tracked

variable {R : Progress → Progress → Prop} {allowed : Nat → Prop} (h : Tracked R allowed)
include h

theorem of_takeText {f : Flags} {t : Text} {p q : Progress} (hq : p.takeText f t = some q) :
    R p q := by
  induction t generalizing p with
  | nil =>
      obtain rfl := Option.some.inj hq
      exact h.refl p
  | cons c rest ih =>
      obtain ⟨r, hstep, hrest⟩ := Option.bind_eq_some_iff.mp hq
      exact h.trans (h.step hstep) (ih hrest)

theorem of_atom {f : Flags} {a : Atom} {p q : Progress} (hq : a.step f p = some q) : R p q := by
  cases a with
  | literal c => exact h.step hq
  | notLiteral c => exact h.step hq
  | any => exact h.step hq
  | set negated members => exact h.step hq
  | anchor a =>
      rw [Atom.step] at hq
      split at hq
      · obtain rfl := Option.some.inj hq
        exact h.refl p
      · cases hq
  | reference i =>
      obtain ⟨t, _, ht⟩ := Option.bind_eq_some_iff.mp hq
      exact h.of_takeText ht

section

variable {body : Progress → List Progress} (hbody : ∀ p, ∀ q ∈ body p, R p q)
include hbody

theorem of_greedyWays (min : Nat) (max : Option Nat) (fuel count : Nat) (last : Option Nat)
    (p : Progress) : ∀ q ∈ greedyWays body min max fuel count last p, R p q := by
  induction fuel generalizing count last p with
  | zero =>
      intro q hq
      obtain rfl := List.mem_singleton.mp hq
      exact h.refl q
  | succ fuel ih =>
      intro q hq
      rw [greedyWays] at hq
      split at hq
      · obtain ⟨r, hr, hrest⟩ := List.mem_flatMap.mp hq
        exact h.trans (hbody p r hr) (ih _ _ r q hrest)
      · split at hq
        · rcases List.mem_append.mp hq with hmore | hstop
          · obtain ⟨r, hr, hrest⟩ := List.mem_flatMap.mp hmore
            exact h.trans (hbody p r hr) (ih _ _ r q hrest)
          · obtain rfl := List.mem_singleton.mp hstop
            exact h.refl q
        · obtain rfl := List.mem_singleton.mp hq
          exact h.refl q

end

theorem of_repeatPossessively {once : Continuation} (honce : ∀ p q, once p = some q → R p q)
    (min : Nat) (max : Option Nat) (fuel count : Nat) (last : Option Nat) (p q : Progress)
    (hq : repeatPossessively once min max fuel count last p = some q) : R p q := by
  induction fuel generalizing count last p with
  | zero =>
      obtain rfl := Option.some.inj hq
      exact h.refl p
  | succ fuel ih =>
      rw [repeatPossessively] at hq
      split at hq
      · obtain ⟨r, hr, hrest⟩ := Option.bind_eq_some_iff.mp hq
        exact h.trans (honce p r hr) (ih _ _ r hrest)
      · split at hq
        · split at hq
          · next r hr => exact h.trans (honce p r hr) (ih _ _ r hq)
          · obtain rfl := Option.some.inj hq
            exact h.refl p
        · obtain rfl := Option.some.inj hq
          exact h.refl p

theorem of_mem_ways (n : Node) (hn : ∀ i ∈ n.groups, allowed i) (f : Flags) (p : Progress) :
    ∀ q ∈ n.ways f p, R p q := by
  induction n generalizing f p with
  | empty =>
      intro q hq
      obtain rfl := List.mem_singleton.mp hq
      exact h.refl q
  | atom a =>
      intro q hq
      exact h.of_atom (Option.mem_toList.mp hq)
  | cat first second ihf ihs =>
      intro q hq
      obtain ⟨r, hr, hrest⟩ := List.mem_flatMap.mp hq
      exact h.trans (ihf (fun i hi => hn i (List.mem_append_left _ hi)) f p r hr)
        (ihs (fun i hi => hn i (List.mem_append_right _ hi)) f r q hrest)
  | alt first second ihf ihs =>
      intro q hq
      rcases List.mem_append.mp hq with hfirst | hsecond
      · exact ihf (fun i hi => hn i (List.mem_append_left _ hi)) f p q hfirst
      · exact ihs (fun i hi => hn i (List.mem_append_right _ hi)) f p q hsecond
  | group i body ih =>
      intro q hq
      obtain ⟨r, hr, rfl⟩ := List.mem_map.mp hq
      have hi := hn i List.mem_cons_self
      have hbody := ih (fun j hj => hn j (List.mem_cons_of_mem i hj)) f _ r hr
      exact h.trans (h.openGroup p hi) (h.trans hbody (h.closeGroup r hi))
  | «scoped» added removed body ih => exact ih hn _ p
  | repeated greed min max body ih =>
      have hbody (p : Progress) : ∀ q ∈ body.ways f p, R p q := ih hn f p
      cases greed with
      | greedy => exact h.of_greedyWays hbody min max _ _ _ p
      | lazy =>
          intro q hq
          exact h.of_greedyWays hbody min max _ _ _ p q ((mem_lazyWays_iff ..).mp hq)
      | possessive =>
          intro q hq
          apply h.of_repeatPossessively _ min max _ _ _ p q (Option.mem_toList.mp hq)
          intro p q hhead
          exact hbody p q (List.mem_of_mem_head? hhead)
  | look direction negated body ih =>
      intro q hq
      simp only [Node.ways] at hq
      split at hq
      · next r hr =>
        obtain rfl := List.mem_singleton.mp hq
        obtain ⟨position, _, hhead⟩ := Option.bind_eq_some_iff.mp hr
        exact h.look (ih hn f _ r (List.mem_of_mem_head? hhead))
      · obtain rfl := List.mem_singleton.mp hq
        exact h.refl q
      · cases hq
  | atomic body ih =>
      intro q hq
      exact ih hn f p q (List.mem_of_mem_head? (Option.mem_toList.mp hq))
  | conditional i present absent ihp iha =>
      intro q hq
      rw [Node.ways] at hq
      split at hq
      · exact ihp (fun j hj => hn j (List.mem_append_left _ hj)) f p q hq
      · exact iha (fun j hj => hn j (List.mem_append_right _ hj)) f p q hq

end Tracked

theorem tracked_reaches : Tracked Progress.Reaches fun _ => True where
  refl := .refl
  trans := .trans
  step hstep := by
    obtain ⟨c, rest, hafter, _, rfl⟩ := Progress.step_eq_some.mp hstep
    exact ⟨[c], hafter, rfl⟩
  openGroup p _ := .refl p
  closeGroup p _ := .refl p
  look _ := .refl _

theorem tracked_keeps (i : Nat) : Tracked (Progress.Keeps i) (· ≠ i) where
  refl := .refl i
  trans := .trans
  step hstep := by
    obtain ⟨c, rest, _, _, rfl⟩ := Progress.step_eq_some.mp hstep
    exact .refl i _
  openGroup p hi := ⟨Progress.lookup_cons_of_ne hi.symm _ _, rfl⟩
  closeGroup p hi := ⟨rfl, Progress.lookup_cons_of_ne hi.symm _ _⟩
  look h := h

theorem Node.reaches_of_mem_ways {n : Node} {f : Flags} {p q : Progress} (hq : q ∈ n.ways f p) :
    p.Reaches q :=
  tracked_reaches.of_mem_ways n (fun _ _ => trivial) f p q hq

/-- A part leaves alone what groups outside of it have captured. -/
theorem Node.keeps_of_mem_ways {n : Node} {f : Flags} {p q : Progress} {i : Nat}
    (hi : i ∉ n.groups) (hq : q ∈ n.ways f p) : p.Keeps i q :=
  (tracked_keeps i).of_mem_ways n (fun _ hj heq => hi (heq ▸ hj)) f p q hq

end KeyNaming.Regex
