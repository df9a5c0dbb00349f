import KeyNaming.Regex.Matcher

/-!
The ways in which a part of an expression can match, as a list in the order in
which backtracking tries them.

Running a part with a continuation is taking the first of its ways that the
continuation accepts, so whatever is asked of the matcher can be told from the
ways alone.
-/

namespace KeyNaming.Regex

/-- The ways to repeat a part as often as possible first. -/
def greedyWays (body : Progress → List Progress) (min : Nat) (max : Option Nat) :
    Nat → Nat → Option Nat → Progress → List Progress
  | 0, _, _, p => [p]
  | fuel + 1, count, last, p =>
    if count < min then (body p).flatMap (greedyWays body min max fuel (count + 1) last)
    else if isBelow count max && last != some p.position.after.length then
      (body p).flatMap
        (greedyWays body min max fuel (count + 1) (some p.position.after.length)) ++ [p]
    else [p]

/-- The ways to repeat a part as seldom as possible first. -/
def lazyWays (body : Progress → List Progress) (min : Nat) (max : Option Nat) :
    Nat → Nat → Option Nat → Progress → List Progress
  | 0, _, _, p => [p]
  | fuel + 1, count, last, p =>
    if count < min then (body p).flatMap (lazyWays body min max fuel (count + 1) last)
    else if isBelow count max && last != some p.position.after.length then
      p :: (body p).flatMap
        (lazyWays body min max fuel (count + 1) (some p.position.after.length))
    else [p]

/-- Where a lookaround starts. -/
def Direction.from? (p : Progress) : Direction → Option Position
  | .ahead => some p.position
  | .behind width => p.position.back? width.min

/-- The ways in which a part can match from a position on. -/
def Node.ways : Node → Flags → Progress → List Progress
  | .empty, _, p => [p]
  | .atom a, f, p => (a.step f p).toList
  | .cat first second, f, p => (first.ways f p).flatMap (second.ways f)
  | .alt first second, f, p => first.ways f p ++ second.ways f p
  | .group i body, f, p => (body.ways f (p.openGroup i)).map (Progress.closeGroup i)
  | .scoped added removed body, f, p => body.ways (f.within added removed) p
  | .repeated .greedy min max body, f, p =>
    greedyWays (body.ways f) min max (repetitionFuel min p) 0 none p
  | .repeated .lazy min max body, f, p =>
    lazyWays (body.ways f) min max (repetitionFuel min p) 0 none p
  | .repeated .possessive min max body, f, p =>
    (repeatPossessively (fun q => (body.ways f q).head?) min max (repetitionFuel min p) 0
      none p).toList
  | .look direction negated body, f, p =>
    let found := (direction.from? p).bind fun position =>
      (body.ways f { p with position }).head?
    match found, negated with
    | some q, false => [{ q with position := p.position }]
    | none, true => [p]
    | _, _ => []
  | .atomic body, f, p => (body.ways f p).head?.toList
  | .conditional i present absent, f, p =>
    if (p.group? i).isSome then present.ways f p else absent.ways f p

theorem findSome?_flatMap {A B C : Type} (l : List A) (f : A → List B) (g : B → Option C) :
    (l.flatMap f).findSome? g = l.findSome? fun a => (f a).findSome? g := by
  induction l with
  | nil => rfl
  | cons a rest ih =>
      rw [List.flatMap_cons, List.findSome?_append, List.findSome?_cons, ih]
      cases (f a).findSome? g <;> rfl

theorem findSome?_some {A : Type} (l : List A) : l.findSome? some = l.head? := by
  cases l <;> rfl

section

variable {body : Matching} {ways : Progress → List Progress}
variable (hbody : ∀ k p, body k p = (ways p).findSome? k)
include hbody

theorem repeatGreedily_eq_findSome? (min : Nat) (max : Option Nat) (k : Continuation)
    (fuel count : Nat) (last : Option Nat) (p : Progress) :
    repeatGreedily body min max k fuel count last p =
      (greedyWays ways min max fuel count last p).findSome? k := by
  induction fuel generalizing count last p with
  | zero => simp [repeatGreedily, greedyWays]
  | succ fuel ih =>
      have hrest (count : Nat) (last : Option Nat) :
          repeatGreedily body min max k fuel count last =
            fun q => (greedyWays ways min max fuel count last q).findSome? k :=
        funext (ih count last)
      rw [repeatGreedily, greedyWays, hrest, hrest]
      split
      · rw [hbody, findSome?_flatMap]
      · split
        · rw [hbody, List.findSome?_append, findSome?_flatMap]
          cases (ways p).findSome? _ <;> simp
        · simp

theorem repeatLazily_eq_findSome? (min : Nat) (max : Option Nat) (k : Continuation)
    (fuel count : Nat) (last : Option Nat) (p : Progress) :
    repeatLazily body min max k fuel count last p =
      (lazyWays ways min max fuel count last p).findSome? k := by
  induction fuel generalizing count last p with
  | zero => simp [repeatLazily, lazyWays]
  | succ fuel ih =>
      have hrest (count : Nat) (last : Option Nat) :
          repeatLazily body min max k fuel count last =
            fun q => (lazyWays ways min max fuel count last q).findSome? k :=
        funext (ih count last)
      rw [repeatLazily, lazyWays, hrest, hrest]
      by_cases hcount : count < min
      · rw [if_pos hcount, if_pos hcount, hbody, findSome?_flatMap]
      · rw [if_neg hcount, if_neg hcount]
        by_cases hmore : (isBelow count max && last != some p.position.after.length) = true
        · rw [if_pos hmore, if_pos hmore, hbody, List.findSome?_cons, findSome?_flatMap]
          cases k p <;> rfl
        · rw [if_neg hmore, if_neg hmore, List.findSome?_cons, List.findSome?_nil]
          cases k p <;> rfl

end

/-- Running a part is taking the first of its ways that the rest of the
expression accepts. -/
theorem Node.run_eq_findSome? (n : Node) (f : Flags) (k : Continuation) (p : Progress) :
    n.run f k p = (n.ways f p).findSome? k := by
  induction n generalizing f k p with
  | empty => simp [run, ways]
  | atom a => cases h : a.step f p <;> simp [run, ways, h]
  | cat first second ihf ihs =>
      rw [run, ways, ihf, findSome?_flatMap]
      simp only [funext fun q => ihs f k q]
  | alt first second ihf ihs =>
      rw [run, ways, ihf, ihs, List.findSome?_append]
      cases (first.ways f p).findSome? k <;> rfl
  | group i body ih => rw [run, ways, ih, List.findSome?_map]; rfl
  | «scoped» added removed body ih => rw [run, ways, ih]
  | repeated greed min max body ih =>
      cases greed with
      | greedy =>
          rw [run, ways]
          exact repeatGreedily_eq_findSome? (fun k p => ih f k p) min max k _ _ _ p
      | lazy =>
          rw [run, ways]
          exact repeatLazily_eq_findSome? (fun k p => ih f k p) min max k _ _ _ p
      | possessive =>
          have honce : body.run f some = fun q => (body.ways f q).head? := by
            funext q
            rw [ih, findSome?_some]
          rw [run, ways, honce]
          cases repeatPossessively _ min max _ 0 none p <;> simp
  | look direction negated body ih =>
      have hfound (q : Progress) : body.run f some q = (body.ways f q).head? := by
        rw [ih, findSome?_some]
      have hrun : (look direction negated body).run f k p =
          match (direction.from? p).bind fun position => body.run f some { p with position },
            negated with
          | some q, false => k { q with position := p.position }
          | none, true => k p
          | _, _ => none := by
        cases direction <;> rfl
      rw [hrun]
      simp only [ways, hfound]
      cases (direction.from? p).bind _ with
      | none => cases negated <;> simp
      | some q => cases negated <;> simp
  | atomic body ih =>
      have hfound : body.run f some p = (body.ways f p).head? := by
        rw [ih, findSome?_some]
      rw [run, ways, hfound]
      cases (body.ways f p).head? <;> simp
  | conditional i present absent ihp iha =>
      rw [run, ways]
      split
      · exact ihp f k p
      · exact iha f k p

/-- Repeating as seldom as possible first has the same ways as repeating as
often as possible first, in another order. -/
theorem mem_lazyWays_iff (body : Progress → List Progress) (min : Nat) (max : Option Nat)
    (fuel count : Nat) (last : Option Nat) (p q : Progress) :
    q ∈ lazyWays body min max fuel count last p ↔
      q ∈ greedyWays body min max fuel count last p := by
  induction fuel generalizing count last p with
  | zero => rfl
  | succ fuel ih =>
      rw [lazyWays, greedyWays]
      split
      · simp only [List.mem_flatMap, ih]
      · split
        · simp only [List.mem_cons, List.mem_append, List.mem_flatMap, ih, List.not_mem_nil,
            or_false]
          exact or_comm
        · rfl

/-- Whether a text is taken to its end. -/
def Progress.isAtEnd (p : Progress) : Bool := p.position.after.isEmpty

/-- Matching the whole of a text is finding the first way to its end. -/
theorem run_end_eq_find? (n : Node) (f : Flags) (p : Progress) :
    n.run f (fun p => if p.position.after.isEmpty then some p else none) p =
      (n.ways f p).find? Progress.isAtEnd := by
  rw [Node.run_eq_findSome?, List.find?_eq_findSome?_guard]
  rfl

theorem after_eq_nil_of_find? {ways : List Progress} {q : Progress}
    (h : ways.find? Progress.isAtEnd = some q) : q ∈ ways ∧ q.position.after = [] := by
  have hend : q.isAtEnd = true := List.find?_some h
  exact ⟨List.mem_of_find?_eq_some h, List.isEmpty_iff.mp hend⟩

end KeyNaming.Regex
