import KeyNaming.Proofs.Regex.Joining

/-!
A part that matches inside of a longer text, and in an excerpt of it.

What a part takes may depend on what stands around it. A pliant part looks at
nothing but the characters it takes and at what groups captured, so in an excerpt
it has the same ways in the same order, without those that end behind the excerpt,
whatever the numbers of its groups are. What is known of some special parts holds
of all parts that are made of them and of pliant ones.
-/

namespace KeyNaming.Regex

/-! ## Fuel to spare -/

/-- How many more repetitions there can be: those that are asked for, one for each
character left, and one that takes none. -/
def remaining (min count : Nat) (last : Option Nat) (p : Progress) : Nat :=
  (min - count) + if last = some p.position.after.length then 0 else p.position.after.length + 1

theorem Progress.Reaches.length_le {p q : Progress} (h : p.Reaches q) :
    q.position.after.length ≤ p.position.after.length := by
  obtain ⟨t, hafter, _⟩ := h
  rw [hafter, List.length_append]
  omega

theorem remaining_asked {min count : Nat} (hcount : count < min) {p q : Progress}
    (h : p.Reaches q) : remaining min (count + 1) none q < remaining min count none p := by
  have hle := h.length_le
  simp only [remaining, reduceCtorEq, if_false]
  omega

theorem remaining_more (min count : Nat) {last : Option Nat} {p q : Progress} (h : p.Reaches q)
    (hlast : last ≠ some p.position.after.length) :
    remaining min (count + 1) (some p.position.after.length) q < remaining min count last p := by
  have hle := h.length_le
  rw [remaining, remaining, if_neg hlast]
  split
  · omega
  · next hne =>
    have hother : p.position.after.length ≠ q.position.after.length := fun heq => hne (by rw [heq])
    omega

/-- The ways to repeat a part, as often or as seldom as possible first. -/
def repeatedWays (lazily : Bool) (body : Progress → List Progress) (min : Nat) (max : Option Nat) :
    Nat → Nat → Option Nat → Progress → List Progress
  | 0, _, _, p => [p]
  | fuel + 1, count, last, p =>
    if count < min then (body p).flatMap (repeatedWays lazily body min max fuel (count + 1) last)
    else if isBelow count max && last != some p.position.after.length then
      let more := (body p).flatMap
        (repeatedWays lazily body min max fuel (count + 1) (some p.position.after.length))
      if lazily then p :: more else more ++ [p]
    else [p]

section

variable {body : Progress → List Progress}

theorem repeatedWays_false (min : Nat) (max : Option Nat) (fuel count : Nat) (last : Option Nat)
    (p : Progress) :
    repeatedWays false body min max fuel count last p =
      greedyWays body min max fuel count last p := by
  induction fuel generalizing count last p with
  | zero => rfl
  | succ fuel ih =>
      have hrest (count : Nat) (last : Option Nat) := funext (ih count last)
      simp only [repeatedWays, greedyWays, hrest, Bool.false_eq_true, if_false]

theorem repeatedWays_true (min : Nat) (max : Option Nat) (fuel count : Nat) (last : Option Nat)
    (p : Progress) :
    repeatedWays true body min max fuel count last p =
      lazyWays body min max fuel count last p := by
  induction fuel generalizing count last p with
  | zero => rfl
  | succ fuel ih =>
      have hrest (count : Nat) (last : Option Nat) := funext (ih count last)
      simp only [repeatedWays, lazyWays, hrest, if_true]

variable (hbody : ∀ p, ∀ q ∈ body p, p.Reaches q)
include hbody

theorem reaches_of_mem_repeatedWays (lazily : Bool) (min : Nat) (max : Option Nat)
    (fuel count : Nat) (last : Option Nat) (p : Progress) :
    ∀ q ∈ repeatedWays lazily body min max fuel count last p, p.Reaches q := by
  intro q hq
  cases lazily with
  | false =>
      rw [repeatedWays_false] at hq
      exact tracked_reaches.of_greedyWays hbody min max fuel count last p q hq
  | true =>
      rw [repeatedWays_true, mem_lazyWays_iff] at hq
      exact tracked_reaches.of_greedyWays hbody min max fuel count last p q hq

/-- Fuel beyond what can be needed makes no difference. -/
theorem repeatedWays_add (lazily : Bool) (min : Nat) (max : Option Nat) (fuel count : Nat)
    (last : Option Nat) (p : Progress) (hasked : count < min → last = none)
    (h : remaining min count last p < fuel) (extra : Nat) :
    repeatedWays lazily body min max (fuel + extra) count last p =
      repeatedWays lazily body min max fuel count last p := by
  induction fuel generalizing count last p with
  | zero => omega
  | succ fuel ih =>
      rw [Nat.add_right_comm, repeatedWays, repeatedWays]
      split
      · next hcount =>
        obtain rfl := hasked hcount
        refine List.flatMap_congr fun q hq => ih (count + 1) none q (fun _ => rfl) ?_
        have hless := remaining_asked hcount (hbody p q hq)
        omega
      · next hcount =>
        split
        · next hmore =>
          have hlast := bne_iff_ne.mp (Bool.and_eq_true_iff.mp hmore).2
          have hsame : (body p).flatMap (repeatedWays lazily body min max (fuel + extra) (count + 1)
                (some p.position.after.length)) =
              (body p).flatMap (repeatedWays lazily body min max fuel (count + 1)
                (some p.position.after.length)) := by
            refine List.flatMap_congr fun q hq => ih (count + 1) _ q ?_ ?_
            · omega
            · have hless := remaining_more min count (hbody p q hq) hlast
              omega
          rw [hsame]
        · rfl

end

theorem repeatPossessively_add {once : Continuation} (honce : ∀ p q, once p = some q → p.Reaches q)
    (min : Nat) (max : Option Nat) (fuel count : Nat) (last : Option Nat)
    (p : Progress) (hasked : count < min → last = none) (h : remaining min count last p < fuel)
    (extra : Nat) :
    repeatPossessively once min max (fuel + extra) count last p =
      repeatPossessively once min max fuel count last p := by
  induction fuel generalizing count last p with
  | zero => omega
  | succ fuel ih =>
      rw [Nat.add_right_comm, repeatPossessively, repeatPossessively]
      split
      · next hcount =>
        obtain rfl := hasked hcount
        refine Option.bind_congr fun q hq => ih (count + 1) none q (fun _ => rfl) ?_
        have hless := remaining_asked hcount (honce p q hq)
        omega
      · next hcount =>
        split
        · next hmore =>
          have hlast := bne_iff_ne.mp (Bool.and_eq_true_iff.mp hmore).2
          cases hq : once p with
          | none => rfl
          | some q =>
              refine ih (count + 1) _ q ?_ ?_
              · omega
              · have hless := remaining_more min count (honce p q hq) hlast
                omega
        · rfl

theorem remaining_lt_repetitionFuel (min : Nat) (p : Progress) :
    remaining min 0 none p < repetitionFuel min p := by
  simp only [remaining, repetitionFuel, reduceCtorEq, if_false]
  omega

/-! ## Points inside and outside -/

/-- Whether a position in a text is another one in an excerpt, which stands between
what is before and what is behind it. -/
structure Position.IsWithin (u w : Text) (p p' : Position) : Prop where
  before : p.before = p'.before ++ u
  after : p.after = p'.after ++ w

namespace Progress

/-- Whether a point of a text is another one of an excerpt, and so are the marks of
the groups that stand for each other. -/
structure IsWithin (R : Nat → Nat → Prop) (u w : Text) (p p' : Progress) : Prop where
  position : p.position.IsWithin u w p'.position
  opened : ∀ i j, R i j →
    Option.Rel (Position.IsWithin u w) (p.opened.lookup i) (p'.opened.lookup j)
  closed : ∀ i j, R i j →
    Option.Rel (Position.IsWithin u w) (p.closed.lookup i) (p'.closed.lookup j)

/-- Whether so much of a text is left. -/
def leaves (w : Text) (p : Progress) : Bool := decide (w.length ≤ p.position.after.length)

variable {R : Nat → Nat → Prop} {u w : Text} {p p' q : Progress}

theorem IsWithin.before (h : p.IsWithin R u w p') :
    p.position.before = p'.position.before ++ u :=
  h.position.before

theorem IsWithin.after (h : p.IsWithin R u w p') : p.position.after = p'.position.after ++ w :=
  h.position.after

theorem IsWithin.move (h : p.IsWithin R u w p') {position position' : Position}
    (hposition : position.IsWithin u w position') :
    { p with position }.IsWithin R u w { p' with position := position' } :=
  ⟨hposition, h.opened, h.closed⟩

/-- A point of a text is one of what is left of it, where no group is marked. -/
theorem isWithin_start {t : Text} (hafter : p.position.after = t ++ w)
    (hfresh : ∀ i j, R i j → p.IsFresh i) : p.IsWithin R p.position.before w (.start t) where
  position := ⟨rfl, hafter⟩
  opened i j hij := by
    rw [(hfresh i j hij).1]
    exact .none
  closed i j hij := by
    rw [(hfresh i j hij).2]
    exact .none

theorem IsWithin.leaves (h : p.IsWithin R u w p') : p.leaves w = true := by
  rw [Progress.leaves, h.after, List.length_append]
  exact decide_eq_true (by omega)

theorem leaves_of_reaches (h : p.Reaches q) (hq : q.leaves w = true) : p.leaves w = true := by
  have hle := h.length_le
  have hleft := of_decide_eq_true hq
  exact decide_eq_true (by omega)

theorem IsWithin.length_after (h : p.IsWithin R u w p') :
    p.position.after.length = p'.position.after.length + w.length := by
  rw [h.after, List.length_append]

theorem IsWithin.repetitionFuel_eq (h : p.IsWithin R u w p') (min : Nat) :
    repetitionFuel min p = repetitionFuel min p' + w.length := by
  rw [repetitionFuel, repetitionFuel, h.length_after]
  omega

/-- Where the repetition before started is the same point in both. -/
theorem IsWithin.last_ne (h : p.IsWithin R u w p') (last : Option Nat) :
    (last.map (· + w.length) != some p.position.after.length) =
      (last != some p'.position.after.length) := by
  rw [h.length_after, Bool.eq_iff_iff, bne_iff_ne, bne_iff_ne]
  cases last <;> simp

/-- Marks at points that stand for each other. -/
theorem rel_lookup_cons {i j : Nat} (hij : ∀ a b, R a b → (a = i ↔ b = j)) {m m' : Position}
    (hm : m.IsWithin u w m') {marks marks' : List (Nat × Position)}
    (h : ∀ a b, R a b → Option.Rel (Position.IsWithin u w) (marks.lookup a) (marks'.lookup b))
    (a b : Nat) (hab : R a b) : Option.Rel (Position.IsWithin u w)
      (List.lookup a ((i, m) :: marks)) (List.lookup b ((j, m') :: marks')) := by
  by_cases ha : a = i
  · obtain rfl := (hij a b hab).mp ha
    obtain rfl := ha
    rw [List.lookup_cons, List.lookup_cons, beq_self_eq_true, beq_self_eq_true]
    exact .some hm
  · have hb : b ≠ j := fun hb => ha ((hij a b hab).mpr hb)
    rw [lookup_cons_of_ne ha, lookup_cons_of_ne hb]
    exact h a b hab

theorem IsWithin.openGroup (h : p.IsWithin R u w p') {i j : Nat}
    (hij : ∀ a b, R a b → (a = i ↔ b = j)) :
    (p.openGroup i).IsWithin R u w (p'.openGroup j) :=
  ⟨h.position, rel_lookup_cons hij h.position h.opened, h.closed⟩

theorem IsWithin.closeGroup (h : p.IsWithin R u w p') {i j : Nat}
    (hij : ∀ a b, R a b → (a = i ↔ b = j)) :
    (p.closeGroup i).IsWithin R u w (p'.closeGroup j) :=
  ⟨h.position, h.opened, rel_lookup_cons hij h.position h.closed⟩

/-- Groups that stand for each other captured the same. -/
theorem IsWithin.group?_eq (h : p.IsWithin R u w p') {i j : Nat} (hij : R i j) :
    p.group? i = p'.group? j := by
  have hopened := h.opened i j hij
  have hclosed := h.closed i j hij
  rw [group?, group?]
  generalize p.opened.lookup i = first at hopened
  generalize p'.opened.lookup j = first' at hopened
  generalize p.closed.lookup i = last at hclosed
  generalize p'.closed.lookup j = last' at hclosed
  cases hopened with
  | none => rfl
  | @some first first' hfirst =>
      cases hclosed with
      | none => rfl
      | @some last last' hlast =>
          have htext : first.textUpTo last = first'.textUpTo last' := by
            rw [Position.textUpTo, Position.textUpTo, hfirst.after, hlast.after,
              List.length_append, List.length_append, Nat.add_sub_add_right,
              List.take_append_of_le_length (Nat.sub_le _ _)]
          simp only [htext, hfirst.after, hlast.after, List.length_append, Nat.add_lt_add_iff_right]

end Progress

section

variable (R : Nat → Nat → Prop) (u w : Text)

/-- A relation between the ways from a point of a text and those from a point of
an excerpt that is respected by putting parts together. -/
structure Transfer (L : List Progress → List Progress → Prop) : Prop where
  single : ∀ {p p' : Progress}, p.IsWithin R u w p' → L [p] [p']
  beyond : ∀ {l : List Progress}, (∀ q ∈ l, q.leaves w = false) → L l []
  append : ∀ {l m l' m'}, L l l' → L m m' → L (l ++ m) (l' ++ m')
  flatMap : ∀ {l l' g g'}, L l l' → (∀ r ∈ l, ∀ q ∈ g r, r.Reaches q) →
    (∀ r r' : Progress, r.IsWithin R u w r' → L (g r) (g' r')) → L (l.flatMap g) (l'.flatMap g')
  map : ∀ {l l'} {g g' : Progress → Progress}, L l l' → (∀ r, (g r).position = r.position) →
    (∀ r r' : Progress, r.IsWithin R u w r' → (g r).IsWithin R u w (g' r')) →
    L (l.map g) (l'.map g')

/-- The ways from a point of an excerpt are those from the point of the text, in
the same order, that do not end behind the excerpt. -/
def SameWays (l l' : List Progress) : Prop :=
  List.Forall₂ (Progress.IsWithin R u w) (l.filter (Progress.leaves w)) l'

/-- Each way from a point of a text that does not end behind an excerpt is one
from the point of the excerpt. -/
def HasWays (l l' : List Progress) : Prop :=
  ∀ q ∈ l, q.leaves w = true → ∃ q' ∈ l', q.IsWithin R u w q'

variable {R u w}

theorem filter_leaves_flatMap {l : List Progress} {g : Progress → List Progress}
    (hg : ∀ r ∈ l, ∀ q ∈ g r, r.Reaches q) :
    (l.flatMap g).filter (Progress.leaves w) =
      (l.filter (Progress.leaves w)).flatMap fun r => (g r).filter (Progress.leaves w) := by
  induction l with
  | nil => rfl
  | cons r rest ih =>
      have hrest := ih fun s hs => hg s (List.mem_cons_of_mem r hs)
      rw [List.flatMap_cons, List.filter_append, hrest, List.filter_cons]
      cases hr : r.leaves w with
      | true => rfl
      | false =>
          -- no way leads back
          have hnil : (g r).filter (Progress.leaves w) = [] := by
            rw [List.filter_eq_nil_iff]
            intro q hq hleaves
            rw [Progress.leaves_of_reaches (hg r List.mem_cons_self q hq) hleaves] at hr
            cases hr
          rw [hnil]
          rfl

theorem transfer_sameWays : Transfer R u w (SameWays R u w) where
  single h := by
    rw [SameWays, List.filter_cons_of_pos h.leaves]
    exact .cons h .nil
  beyond hl := by
    rw [SameWays, List.filter_eq_nil_iff.mpr fun q hq => by simp [hl q hq]]
    exact .nil
  append hl hm := by
    rw [SameWays, List.filter_append]
    exact List.rel_append hl hm
  flatMap hl hreaches hg := by
    rw [SameWays, filter_leaves_flatMap hreaches]
    exact List.rel_flatMap hl hg
  map {l l' g g'} hl hg hg' := by
    have hleaves : Progress.leaves w ∘ g = Progress.leaves w :=
      funext fun r => by rw [Function.comp_apply, Progress.leaves, hg, Progress.leaves]
    rw [SameWays, List.filter_map, hleaves]
    exact List.rel_map hg' hl

theorem transfer_hasWays : Transfer R u w (HasWays R u w) where
  single h := fun q hq _ => by
    obtain rfl := List.mem_singleton.mp hq
    exact ⟨_, List.mem_singleton_self _, h⟩
  beyond hl := fun q hq hleaves => by
    rw [hl q hq] at hleaves
    cases hleaves
  append hl hm := fun q hq hleaves => by
    rcases List.mem_append.mp hq with hq | hq
    · obtain ⟨q', hq', h⟩ := hl q hq hleaves
      exact ⟨q', List.mem_append_left _ hq', h⟩
    · obtain ⟨q', hq', h⟩ := hm q hq hleaves
      exact ⟨q', List.mem_append_right _ hq', h⟩
  flatMap hl hreaches hg := fun q hq hleaves => by
    obtain ⟨r, hr, hq⟩ := List.mem_flatMap.mp hq
    obtain ⟨r', hr', hrwithin⟩ := hl r hr (Progress.leaves_of_reaches (hreaches r hr q hq) hleaves)
    obtain ⟨q', hq', h⟩ := hg r r' hrwithin q hq hleaves
    exact ⟨q', List.mem_flatMap.mpr ⟨r', hr', hq'⟩, h⟩
  map {l l' g g'} hl hg hg' := fun q hq hleaves => by
    obtain ⟨r, hr, rfl⟩ := List.mem_map.mp hq
    rw [Progress.leaves, hg] at hleaves
    obtain ⟨r', hr', h⟩ := hl r hr hleaves
    exact ⟨g' r', List.mem_map_of_mem hr', hg' r r' h⟩

namespace Transfer

variable {L : List Progress → List Progress → Prop} (ht : Transfer R u w L)
include ht

/-- A character of the excerpt is taken in both, one behind it leads out of it. -/
theorem step {p p' : Progress} (h : p.IsWithin R u w p') (accepts : CodePoint → Bool) :
    L (p.step accepts).toList (p'.step accepts).toList := by
  cases hafter : p'.position.after with
  | nil =>
      have hnone : p'.step accepts = none := by rw [Progress.step, hafter]
      rw [hnone]
      apply ht.beyond
      intro q hq
      obtain ⟨c, rest, hp, _, rfl⟩ := Progress.step_eq_some.mp (Option.mem_toList.mp hq)
      have hlength := h.length_after
      rw [hafter, hp] at hlength
      simp only [List.length_cons, List.length_nil] at hlength
      exact decide_eq_false (by simp only; omega)
  | cons c rest =>
      have hp : p.position.after = c :: (rest ++ w) := by rw [h.after, hafter, List.cons_append]
      rw [Progress.step, Progress.step, hp, hafter]
      dsimp only
      split
      · exact ht.single (h.move ⟨by rw [h.before, List.cons_append], rfl⟩)
      · exact ht.beyond fun q hq => absurd hq List.not_mem_nil

/-- A text is taken in both, or leads out of the excerpt. -/
theorem takeText {p p' : Progress} (h : p.IsWithin R u w p') (f : Flags) (t : Text) :
    L (p.takeText f t).toList (p'.takeText f t).toList := by
  induction t generalizing p p' with
  | nil => exact ht.single h
  | cons c rest ih =>
      have hsplit (p : Progress) : (p.takeText f (c :: rest)).toList =
          (p.step (isSame f c)).toList.flatMap fun q => (q.takeText f rest).toList := by
        rw [Progress.takeText]
        cases p.step (isSame f c) with
        | none => rfl
        | some q => exact (List.append_nil _).symm
      rw [hsplit, hsplit]
      exact ht.flatMap (ht.step h _)
        (fun r _ q hq => tracked_reaches.of_takeText (Option.mem_toList.mp hq)) fun r r' hr => ih hr

section

variable {body body' : Progress → List Progress}
variable (hreaches : ∀ p, ∀ q ∈ body p, p.Reaches q)
variable (hbody : ∀ p p' : Progress, p.IsWithin R u w p' → L (body p) (body' p'))
include hreaches hbody

theorem repeatedWays (lazily : Bool) (min : Nat) (max : Option Nat) (fuel count : Nat)
    (last' : Option Nat) {p p' : Progress} (h : p.IsWithin R u w p') :
    L (Regex.repeatedWays lazily body min max fuel count (last'.map (· + w.length)) p)
      (Regex.repeatedWays lazily body' min max fuel count last' p') := by
  induction fuel generalizing count last' p p' with
  | zero => exact ht.single h
  | succ fuel ih =>
      have hmore (last : Option Nat) :
          L ((body p).flatMap (Regex.repeatedWays lazily body min max fuel (count + 1)
              (last.map (· + w.length))))
            ((body' p').flatMap
              (Regex.repeatedWays lazily body' min max fuel (count + 1) last)) :=
        ht.flatMap (hbody p p' h)
          (fun r _ => reaches_of_mem_repeatedWays hreaches lazily min max fuel _ _ r)
          fun r r' hr => ih (count + 1) last hr
      rw [Regex.repeatedWays, Regex.repeatedWays, h.last_ne]
      split
      · exact hmore last'
      · split
        · have hagain := hmore (some p'.position.after.length)
          rw [Option.map_some, ← h.length_after] at hagain
          cases lazily with
          | false => exact ht.append hagain (ht.single h)
          | true => exact ht.append (ht.single h) hagain
        · exact ht.single h

/-- A repetition has fuel to spare in the longer text. -/
theorem repetition (lazily : Bool) (hreaches' : ∀ p, ∀ q ∈ body' p, p.Reaches q) (min : Nat)
    (max : Option Nat) {p p' : Progress} (h : p.IsWithin R u w p') :
    L (Regex.repeatedWays lazily body min max (repetitionFuel min p) 0 none p)
      (Regex.repeatedWays lazily body' min max (repetitionFuel min p') 0 none p') := by
  rw [← repeatedWays_add hreaches' lazily min max _ 0 none p' (fun _ => rfl)
    (remaining_lt_repetitionFuel min p') w.length, ← h.repetitionFuel_eq]
  exact ht.repeatedWays hreaches hbody lazily min max _ 0 none h

end

end Transfer

end

/-! ## Parts with other numbers -/

namespace Node

/-- Whether a part is another one but for the numbers of groups, where those that it
refers to are told to stand for each other. -/
inductive Corresponds (R : Nat → Nat → Prop) : Node → Node → Prop where
  | empty : Corresponds R .empty .empty
  | atom (a : Atom) (ha : a.isReference = false) : Corresponds R (.atom a) (.atom a)
  | reference {i j : Nat} (hij : R i j) :
      Corresponds R (.atom (.reference i)) (.atom (.reference j))
  | cat {first second first' second' : Node} (hfirst : Corresponds R first first')
      (hsecond : Corresponds R second second') :
      Corresponds R (.cat first second) (.cat first' second')
  | alt {first second first' second' : Node} (hfirst : Corresponds R first first')
      (hsecond : Corresponds R second second') :
      Corresponds R (.alt first second) (.alt first' second')
  | group {i j : Nat} {body body' : Node} (hij : ∀ a b, R a b → (a = i ↔ b = j))
      (hbody : Corresponds R body body') : Corresponds R (.group i body) (.group j body')
  | «scoped» {added removed : Flags} {body body' : Node} (hbody : Corresponds R body body') :
      Corresponds R (.scoped added removed body) (.scoped added removed body')
  | repeated {greed : Greed} {min : Nat} {max : Option Nat} {body body' : Node}
      (hbody : Corresponds R body body') :
      Corresponds R (.repeated greed min max body) (.repeated greed min max body')
  | look {direction : Direction} {negated : Bool} {body body' : Node}
      (hbody : Corresponds R body body') :
      Corresponds R (.look direction negated body) (.look direction negated body')
  | atomic {body body' : Node} (hbody : Corresponds R body body') :
      Corresponds R (.atomic body) (.atomic body')
  | conditional {i j : Nat} {present absent present' absent' : Node} (hij : R i j)
      (hpresent : Corresponds R present present') (habsent : Corresponds R absent absent') :
      Corresponds R (.conditional i present absent) (.conditional j present' absent')

theorem corresponds_renumber (n : Node) {ρ : Nat → Nat} (hρ : ρ.Injective) :
    (n.renumber ρ).Corresponds (fun i j => i = ρ j) n := by
  induction n with
  | empty => exact .empty
  | atom a =>
      cases a with
      | reference i => exact .reference rfl
      | _ => exact .atom _ rfl
  | cat first second ihf ihs => exact .cat ihf ihs
  | alt first second ihf ihs => exact .alt ihf ihs
  | group i body ih =>
      refine .group ?_ ih
      rintro _ b rfl
      exact hρ.eq_iff
  | «scoped» added removed body ih => exact .scoped ih
  | repeated greed min max body ih => exact .repeated ih
  | look direction negated body ih => exact .look ih
  | atomic body ih => exact .atomic ih
  | conditional i present absent ihp iha => exact .conditional rfl ihp iha

/-- Regular parts with the same plain form differ in the numbers of groups alone. -/
theorem corresponds_of_plain {n m : Node} (hn : n.isRegular = true) (h : n.plain = m.plain) :
    n.Corresponds (fun _ _ => False) m := by
  induction n generalizing m with
  | empty =>
      cases m with
      | empty => exact .empty
      | _ => cases h
  | atom a =>
      cases m with
      | atom b =>
          have hab := Node.atom.inj h
          have ha := Atom.isReference_of_isRegular hn
          have hb : b.isReference = false := by
            rw [← b.isReference_renumber, ← hab, a.isReference_renumber, ha]
          rw [Atom.renumber_eq_self ha, Atom.renumber_eq_self hb] at hab
          exact hab ▸ .atom a ha
      | _ => cases h
  | cat first second ihf ihs =>
      obtain ⟨hfirst, hsecond⟩ := Bool.and_eq_true_iff.mp hn
      cases m with
      | cat first' second' =>
          obtain ⟨hfirst', hsecond'⟩ := Node.cat.inj h
          exact .cat (ihf hfirst hfirst') (ihs hsecond hsecond')
      | _ => cases h
  | alt first second ihf ihs =>
      obtain ⟨hfirst, hsecond⟩ := Bool.and_eq_true_iff.mp hn
      cases m with
      | alt first' second' =>
          obtain ⟨hfirst', hsecond'⟩ := Node.alt.inj h
          exact .alt (ihf hfirst hfirst') (ihs hsecond hsecond')
      | _ => cases h
  | group i body ih =>
      cases m with
      | group j body' => exact .group (fun _ _ hab => hab.elim) (ih hn (Node.group.inj h).2)
      | _ => cases h
  | «scoped» added removed body ih =>
      cases m with
      | «scoped» added' removed' body' =>
          obtain ⟨rfl, rfl, hbody⟩ := Node.scoped.inj h
          exact .scoped (ih hn hbody)
      | _ => cases h
  | repeated greed min max body ih =>
      cases m with
      | repeated greed' min' max' body' =>
          obtain ⟨rfl, rfl, rfl, hbody⟩ := Node.repeated.inj h
          exact .repeated (ih (Bool.and_eq_true_iff.mp hn).2 hbody)
      | _ => cases h
  | look direction negated body ih => cases hn
  | atomic body ih => cases hn
  | conditional i present absent ihp iha => cases hn

/-! ## Parts made of other parts -/

/-- Whether a part is made of special parts, and of others that look at nothing but
the characters they take and at what groups captured. It may be allowed to look for such
a part as well, if nothing is captured there. -/
def isMadeOf (special : Node → Bool) (looking : Bool) : Node → Bool
  | .empty => true
  | .atom (.anchor a) => special (.atom (.anchor a))
  | .atom _ => true
  | .cat first second | .alt first second | .conditional _ first second =>
    first.isMadeOf special looking && second.isMadeOf special looking
  | .group _ body | .scoped _ _ body => body.isMadeOf special looking
  | .repeated .possessive min max body => special (.repeated .possessive min max body)
  | .repeated _ _ _ body => body.isMadeOf special looking
  | .look direction true body => special (.look direction true body)
  | .look _ false body => looking && body.groups.isEmpty && body.isMadeOf special looking
  | .atomic body => special (.atomic body)

/-- Whether a part looks at nothing but the characters it takes and at what groups
captured, and gives everything back. -/
def isPliant (n : Node) : Bool := n.isMadeOf (fun _ => false) false

theorem isMadeOf_of_isRegular (special : Node → Bool) (looking : Bool) {n : Node}
    (h : n.isRegular = true) : n.isMadeOf special looking = true := by
  induction n with
  | empty => rfl
  | atom a =>
      cases a with
      | anchor a => cases h
      | _ => rfl
  | cat first second ihf ihs =>
      obtain ⟨hfirst, hsecond⟩ := Bool.and_eq_true_iff.mp h
      exact Bool.and_eq_true_iff.mpr ⟨ihf hfirst, ihs hsecond⟩
  | alt first second ihf ihs =>
      obtain ⟨hfirst, hsecond⟩ := Bool.and_eq_true_iff.mp h
      exact Bool.and_eq_true_iff.mpr ⟨ihf hfirst, ihs hsecond⟩
  | group i body ih => exact ih h
  | «scoped» added removed body ih => exact ih h
  | repeated greed min max body ih =>
      obtain ⟨hgreed, hbody⟩ := Bool.and_eq_true_iff.mp h
      cases greed with
      | greedy => exact ih hbody
      | lazy => exact ih hbody
      | possessive => cases hgreed
  | look direction negated body ih => cases h
  | atomic body ih => cases h
  | conditional i present absent ihp iha => cases h

theorem Corresponds.length_groups {R : Nat → Nat → Prop} {n m : Node} (h : n.Corresponds R m) :
    n.groups.length = m.groups.length := by
  induction h with
  | empty => rfl
  | atom a ha => rfl
  | reference hij => rfl
  | cat _ _ ihf ihs => rw [groups, groups, List.length_append, List.length_append, ihf, ihs]
  | alt _ _ ihf ihs => rw [groups, groups, List.length_append, List.length_append, ihf, ihs]
  | group _ _ ih => rw [groups, groups, List.length_cons, List.length_cons, ih]
  | «scoped» _ ih => exact ih
  | repeated _ ih => exact ih
  | look _ ih => exact ih
  | atomic _ ih => exact ih
  | conditional _ _ _ ihp iha =>
      rw [groups, groups, List.length_append, List.length_append, ihp, iha]

theorem Corresponds.isMadeOf_eq {R : Nat → Nat → Prop} {special : Node → Bool}
    (hspecial : ∀ {n m : Node}, n.Corresponds R m → special n = special m) (looking : Bool)
    {n m : Node} (h : n.Corresponds R m) :
    n.isMadeOf special looking = m.isMadeOf special looking := by
  induction h with
  | empty => rfl
  | atom a ha => rfl
  | reference hij => rfl
  | cat _ _ ihf ihs => rw [isMadeOf, ihf, ihs, isMadeOf]
  | alt _ _ ihf ihs => rw [isMadeOf, ihf, ihs, isMadeOf]
  | group _ _ ih => exact ih
  | «scoped» _ ih => exact ih
  | @repeated greed _ _ _ _ hbody ih =>
      cases greed with
      | possessive => exact hspecial (.repeated hbody)
      | _ => exact ih
  | @look _ negated body body' hbody ih =>
      cases negated with
      | true => exact hspecial (.look hbody)
      | false =>
          have hgroups : body.groups.isEmpty = body'.groups.isEmpty := by
            rw [Bool.eq_iff_iff, List.isEmpty_iff_length_eq_zero, List.isEmpty_iff_length_eq_zero,
              hbody.length_groups]
          rw [isMadeOf, hgroups, ih, isMadeOf]
  | atomic hbody => exact hspecial (.atomic hbody)
  | conditional _ _ _ ihp iha => rw [isMadeOf, ihp, iha, isMadeOf]

theorem Corresponds.isPliant_eq {R : Nat → Nat → Prop} {n m : Node} (h : n.Corresponds R m) :
    n.isPliant = m.isPliant :=
  h.isMadeOf_eq (fun _ => rfl) false

/-- What the special parts and the characters respect, all parts made of them
do, if they may look for something only where that is respected. -/
theorem transfer_ways {special : Node → Bool} {looking : Bool} {R : Nat → Nat → Prop}
    {u w : Text} {L : List Progress → List Progress → Prop} (ht : Transfer R u w L)
    (hspecial : ∀ n, special n = true → ∀ (m : Node) (f : Flags) (p p' : Progress),
      n.Corresponds R m → p.IsWithin R u w p' → L (n.ways f p) (m.ways f p'))
    (hlooking : looking = true → ∀ direction (n m : Node), n.groups = [] → n.Corresponds R m →
      ∀ f : Flags, (∀ p p' : Progress, p.IsWithin R u w p' → L (n.ways f p) (m.ways f p')) →
        ∀ p p' : Progress, p.IsWithin R u w p' →
          L ((look direction false n).ways f p) ((look direction false m).ways f p'))
    {n m : Node} (hn : n.isMadeOf special looking = true) (hnm : n.Corresponds R m) (f : Flags)
    {p p' : Progress} (h : p.IsWithin R u w p') : L (n.ways f p) (m.ways f p') := by
  induction hnm generalizing f p p' with
  | empty => exact ht.single h
  | atom a ha =>
      cases a with
      | anchor a => exact hspecial _ hn _ f p p' (.atom _ ha) h
      | reference i => cases ha
      | _ => exact ht.step h _
  | @reference i j hij =>
      rw [ways, ways, Atom.step, Atom.step, h.group?_eq hij]
      cases p'.group? j with
      | none => exact ht.beyond fun q hq => absurd hq List.not_mem_nil
      | some t => exact ht.takeText h f t
  | cat hfirst hsecond ihf ihs =>
      obtain ⟨hnfirst, hnsecond⟩ := Bool.and_eq_true_iff.mp hn
      exact ht.flatMap (ihf hnfirst f h) (fun r _ q hq => reaches_of_mem_ways hq)
        fun r r' hr => ihs hnsecond f hr
  | alt hfirst hsecond ihf ihs =>
      obtain ⟨hnfirst, hnsecond⟩ := Bool.and_eq_true_iff.mp hn
      exact ht.append (ihf hnfirst f h) (ihs hnsecond f h)
  | group hij hbody ih =>
      exact ht.map (ih hn f (h.openGroup hij)) (fun _ => rfl) fun r r' hr => hr.closeGroup hij
  | «scoped» hbody ih => exact ih hn _ h
  | @repeated greed min max body body' hbody ih =>
      have hways (lazily : Bool) (hn : body.isMadeOf special looking = true) :=
        ht.repetition (fun _ _ => reaches_of_mem_ways) (fun p p' h => ih hn f h) lazily
          (fun _ _ => reaches_of_mem_ways) min max h
      cases greed with
      | greedy =>
          rw [ways, ways, ← repeatedWays_false, ← repeatedWays_false]
          exact hways false hn
      | lazy =>
          rw [ways, ways, ← repeatedWays_true, ← repeatedWays_true]
          exact hways true hn
      | possessive => exact hspecial _ hn _ f p p' (.repeated hbody) h
  | @look direction negated body body' hbody ih =>
      cases negated with
      | true => exact hspecial _ hn _ f p p' (.look hbody) h
      | false =>
          obtain ⟨hnlook, hnbody⟩ := Bool.and_eq_true_iff.mp hn
          obtain ⟨hallowed, hgroups⟩ := Bool.and_eq_true_iff.mp hnlook
          exact hlooking hallowed direction body body' (List.isEmpty_iff.mp hgroups) hbody f
            (fun p p' h => ih hnbody f h) p p' h
  | atomic hbody ih => exact hspecial _ hn _ f p p' (.atomic hbody) h
  | conditional hij hpresent habsent ihp iha =>
      obtain ⟨hnpresent, hnabsent⟩ := Bool.and_eq_true_iff.mp hn
      rw [ways, ways, h.group?_eq hij]
      split
      · exact ihp hnpresent f h
      · exact iha hnabsent f h

/-- A pliant part has the same ways in an excerpt, in the same order. -/
theorem sameWays_of_isPliant {R : Nat → Nat → Prop} {n m : Node} (hn : n.isPliant = true)
    (hnm : n.Corresponds R m) (f : Flags) {u w : Text} {p p' : Progress}
    (h : p.IsWithin R u w p') : SameWays R u w (n.ways f p) (m.ways f p') :=
  transfer_ways transfer_sameWays (fun _ hnone => absurd hnone Bool.false_ne_true)
    (fun hlooking => absurd hlooking Bool.false_ne_true) hn hnm f h

end Node

end KeyNaming.Regex
