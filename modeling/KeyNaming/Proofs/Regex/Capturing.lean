import KeyNaming.Proofs.Regex.Joining
import KeyNaming.Proofs.Regex.Steps

/-!
What the parts of a pattern's expression take, and what its groups capture.

Literals take their text and nothing else. A group captures what its body has
taken, whatever that is. An optional part is tried before it is left out.
-/

namespace KeyNaming.Regex

/-- A progress further on by some text. -/
def Progress.past (p : Progress) (t rest : Text) : Progress :=
  { p with position := ⟨t.reverse ++ p.position.before, rest⟩ }

@[simp] theorem Progress.after_past (p : Progress) (t rest : Text) :
    (p.past t rest).position.after = rest := rfl

theorem Progress.keeps_past (p : Progress) (t rest : Text) (i : Nat) : p.Keeps i (p.past t rest) :=
  ⟨rfl, rfl⟩

theorem mem_ways_literals (t : Text) {f : Flags} (hcase : f.ignoreCase = false) (p q : Progress) :
    q ∈ (Node.seq (literals t)).ways f p ↔
      ∃ rest, p.position.after = t ++ rest ∧ q = p.past t rest := by
  induction t generalizing p with
  | nil =>
      constructor
      · intro hq
        obtain rfl := List.mem_singleton.mp hq
        exact ⟨q.position.after, rfl, rfl⟩
      · rintro ⟨rest, hafter, rfl⟩
        apply List.mem_singleton.mpr
        rw [Progress.past, ← List.nil_append rest, ← hafter]
        rfl
  | cons c t ih =>
      have hliteral (d : CodePoint) : isLiteral f c d = true ↔ d = c := by
        simp [isLiteral, hcase]
      constructor
      · intro hq
        obtain ⟨r, hr, hrest⟩ := List.mem_flatMap.mp hq
        obtain ⟨d, after, hafter, haccepts, rfl⟩ :=
          Progress.step_eq_some.mp (Option.mem_toList.mp hr)
        obtain rfl := (hliteral d).mp haccepts
        obtain ⟨rest, hsplit, rfl⟩ := (ih _).mp hrest
        refine ⟨rest, ?_, ?_⟩
        · rw [hafter, List.cons_append, ← hsplit]
        · simp [Progress.past]
      · rintro ⟨rest, hafter, rfl⟩
        refine List.mem_flatMap.mpr ⟨p.past [c] (t ++ rest), Option.mem_toList.mpr
          (Progress.step_eq_some.mpr ⟨c, t ++ rest, hafter, (hliteral c).mpr rfl, rfl⟩), ?_⟩
        refine (ih _).mpr ⟨rest, rfl, ?_⟩
        simp [Progress.past]

/-- A literal text is taken in one way where it stands. -/
theorem ways_literals {t rest : Text} {f : Flags} (hcase : f.ignoreCase = false) {p : Progress}
    (hafter : p.position.after = t ++ rest) :
    (Node.seq (literals t)).ways f p = [p.past t rest] := by
  induction t generalizing p with
  | nil =>
      have hend := (mem_ways_literals [] hcase p p).mp (List.mem_singleton_self p)
      obtain ⟨after, hsplit, hpast⟩ := hend
      obtain rfl : after = rest := hsplit.symm.trans hafter
      exact congrArg (fun q => [q]) hpast
  | cons c t ih =>
      have hstep : (Atom.literal c).step f p = some (p.past [c] (t ++ rest)) :=
        Progress.step_eq_some.mpr ⟨c, t ++ rest, hafter, by simp [isLiteral, hcase], rfl⟩
      have hrest : (p.past [c] (t ++ rest)).past t rest = p.past (c :: t) rest := by
        simp [Progress.past]
      rw [literals, List.map_cons, Node.seq_cons, Node.ways, Node.ways, hstep, Option.toList_some,
        List.flatMap_singleton, ← hrest]
      exact ih rfl

theorem spells_literals (t : Text) {f : Flags} (hcase : f.ignoreCase = false) :
    (Node.seq (literals t)).Spells f t := by
  induction t with
  | nil => rfl
  | cons c t ih =>
      refine ⟨[c], t, ⟨c, ?_, rfl⟩, ih, rfl⟩
      simp [Atom.takes, isLiteral, hcase]

theorem groups_literals (t : Text) : (literals t).flatMap Node.groups = [] := by
  rw [literals, List.flatMap_map, List.flatMap_eq_nil_iff]
  intro c _
  rfl

/-- An optional part is taken once if it can be, or left out. -/
theorem ways_optional (n : Node) (f : Flags) (p : Progress) :
    (Node.repeated .greedy 0 (some 1) n).ways f p = n.ways f p ++ [p] := by
  have hinner (fuel : Nat) (last : Option Nat) :
      greedyWays (n.ways f) 0 (some 1) fuel 1 last = fun q => [q] := by
    funext q
    cases fuel with
    | zero => rfl
    | succ fuel => simp [greedyWays, isBelow]
  rw [Node.ways, repetitionFuel, greedyWays, if_neg (Nat.lt_irrefl 0), if_pos (by simp [isBelow]),
    hinner, List.flatMap_singleton']

/-- A group captures what its body has taken, with no other marks than there were
before the group. -/
theorem group?_of_mem_ways {i : Nat} {body : Node} {f : Flags} {p q : Progress}
    (hi : i ∉ body.groups) (hq : q ∈ (Node.group i body).ways f p) :
    ∃ value, p.position.after = value ++ q.position.after ∧ q.group? i = some value ∧
      body.Takes (fun j => j ≠ i ∧ p.IsFresh j) f value := by
  obtain ⟨r, hr, rfl⟩ := List.mem_map.mp hq
  obtain ⟨value, hafter, _⟩ := Node.reaches_of_mem_ways hr
  have hkeeps := Node.keeps_of_mem_ways hi hr
  have hfresh (j : Nat) (hj : j ≠ i ∧ p.IsFresh j) : (p.openGroup i).IsFresh j :=
    ⟨(Progress.lookup_cons_of_ne hj.1 p.position p.opened).trans hj.2.1, hj.2.2⟩
  refine ⟨value, hafter, ?_, p.openGroup i, hfresh, r, hr, hafter⟩
  have hopened : (r.closeGroup i).opened.lookup i = some p.position := by
    rw [Progress.closeGroup, hkeeps.1, Progress.openGroup, List.lookup_cons, beq_self_eq_true]
  have hclosed : (r.closeGroup i).closed.lookup i = some r.position := by
    rw [Progress.closeGroup, List.lookup_cons, beq_self_eq_true]
  have hlength : p.position.after.length = value.length + r.position.after.length := by
    rw [← List.length_append]
    exact congrArg List.length hafter
  have htext : p.position.textUpTo r.position = value := by
    rw [Position.textUpTo, hlength, Nat.add_sub_cancel]
    rw [show p.position.after = value ++ r.position.after from hafter]
    exact List.take_left
  rw [Progress.group?, hopened, hclosed]
  simp only [hlength, htext]
  rw [if_neg (by omega)]

end KeyNaming.Regex
