import KeyNaming.Proofs.Regex.Reach

/-!
The texts that a regular part spells.

A part is regular if it looks at nothing but the characters it takes: it has no
anchors, no lookaround, no references and conditions, and never keeps what it
took from being taken otherwise. Whether a regular part can take a text does
not depend on what stands around the text, so it is a property of the text
alone.
-/

namespace KeyNaming.Regex

def Atom.takes (f : Flags) (c : CodePoint) : Atom → Bool
  | .literal d => isLiteral f d c
  | .notLiteral d => !isLiteral f d c
  | .any => f.dotAll || c != '\n'
  | .set negated members => setContains f members c != negated
  | .anchor _ | .reference _ => false

def Atom.isReference : Atom → Bool
  | .reference _ => true
  | _ => false

/-- Whether an atom takes a character whatever stands around it. -/
def Atom.isRegular : Atom → Bool
  | .anchor _ | .reference _ => false
  | _ => true

namespace Node

/-- Whether a part looks at nothing but the characters it takes. -/
def isRegular : Node → Bool
  | .empty => true
  | .atom a => a.isRegular
  | .cat first second | .alt first second => first.isRegular && second.isRegular
  | .group _ body | .scoped _ _ body => body.isRegular
  | .repeated greed _ _ body => greed != .possessive && body.isRegular
  | .look _ _ _ | .atomic _ | .conditional _ _ _ => false

/-- Whether a part takes a text whatever stands around it. -/
def Spells : Node → Flags → Text → Prop
  | .empty, _, t => t = []
  | .atom a, f, t => ∃ c, a.takes f c = true ∧ t = [c]
  | .cat first second, f, t => ∃ u v, first.Spells f u ∧ second.Spells f v ∧ t = u ++ v
  | .alt first second, f, t => first.Spells f t ∨ second.Spells f t
  | .group _ body, f, t => body.Spells f t
  | .scoped added removed body, f, t => body.Spells (f.within added removed) t
  | .repeated greed min max body, f, t =>
    greed ≠ .possessive ∧ ∃ pieces : List Text, min ≤ pieces.length ∧
      (∀ m ∈ max, pieces.length ≤ min ∨ pieces.length ≤ m) ∧
      (∀ piece ∈ pieces, body.Spells f piece) ∧ t = pieces.flatten
  | .look _ _ _, _, _ | .atomic _, _, _ | .conditional _ _ _, _, _ => False

/-- Whether a part takes a text somewhere, where it may look at what stands around
it and at what groups captured, other than some given ones. -/
def Takes (fresh : Nat → Prop) (n : Node) (f : Flags) (t : Text) : Prop :=
  ∃ p : Progress, (∀ i, fresh i → p.IsFresh i) ∧
    ∃ q ∈ n.ways f p, p.position.after = t ++ q.position.after

theorem Takes.mono {fresh fresh' : Nat → Prop} {n : Node} {f : Flags} {t : Text}
    (h : n.Takes fresh f t) (hfresh : ∀ i, fresh' i → fresh i) : n.Takes fresh' f t := by
  obtain ⟨p, hp, hways⟩ := h
  exact ⟨p, fun i hi => hp i (hfresh i hi), hways⟩

end Node

/-- An atom that looks at nothing around it takes a character. -/
theorem Atom.step_of_isRegular {a : Atom} (h : a.isRegular = true) (f : Flags) (p : Progress) :
    a.step f p = p.step fun c => a.takes f c := by
  cases a with
  | anchor a => cases h
  | reference i => cases h
  | literal c => rfl
  | notLiteral c => rfl
  | any => rfl
  | set negated members => rfl

theorem Atom.isRegular_of_takes {a : Atom} {f : Flags} {c : CodePoint} (h : a.takes f c = true) :
    a.isRegular = true := by
  cases a with
  | anchor a => cases h
  | reference i => cases h
  | literal c => rfl
  | notLiteral c => rfl
  | any => rfl
  | set negated members => rfl

theorem isBelow_iff (count : Nat) (max : Option Nat) :
    isBelow count max = true ↔ ∀ m ∈ max, count < m := by
  cases max <;> simp [isBelow]

section

variable {body : Progress → List Progress} {spells : Text → Prop}

/-- A way of repeating takes one piece after the other. -/
theorem exists_pieces_of_mem_greedyWays
    (hbody : ∀ p, ∀ q ∈ body p, ∃ t, p.position.after = t ++ q.position.after ∧ spells t)
    (min : Nat) (max : Option Nat) (fuel count : Nat) (last : Option Nat) (p q : Progress)
    (hfuel : min ≤ fuel + count) (hq : q ∈ greedyWays body min max fuel count last p) :
    ∃ pieces : List Text, p.position.after = pieces.flatten ++ q.position.after ∧
      min ≤ count + pieces.length ∧
      (∀ m ∈ max, pieces = [] ∨ count + pieces.length ≤ min ∨ count + pieces.length ≤ m) ∧
      ∀ piece ∈ pieces, spells piece := by
  induction fuel generalizing count last p with
  | zero =>
      obtain rfl := List.mem_singleton.mp hq
      exact ⟨[], rfl, by simpa using hfuel, fun m _ => .inl rfl, by simp⟩
  | succ fuel ih =>
      -- one more piece, and the pieces of the repetitions after it
      have hmore (last : Option Nat) (hcount : count < min ∨ isBelow count max = true)
          (hq : q ∈ (body p).flatMap (greedyWays body min max fuel (count + 1) last)) :
          ∃ pieces : List Text, p.position.after = pieces.flatten ++ q.position.after ∧
            min ≤ count + pieces.length ∧
            (∀ m ∈ max, pieces = [] ∨ count + pieces.length ≤ min ∨ count + pieces.length ≤ m) ∧
            ∀ piece ∈ pieces, spells piece := by
        obtain ⟨r, hr, hrest⟩ := List.mem_flatMap.mp hq
        obtain ⟨piece, hpiece, hspells⟩ := hbody p r hr
        obtain ⟨pieces, hafter, hmin, hmax, hall⟩ := ih (count + 1) last r (by omega) hrest
        refine ⟨piece :: pieces, ?_, ?_, ?_, ?_⟩
        · rw [hpiece, hafter, List.flatten_cons, List.append_assoc]
        · rw [List.length_cons]
          omega
        · intro m hm
          right
          rw [List.length_cons]
          rcases hmax m hm with hnil | hle
          · rw [hnil, List.length_nil]
            rcases hcount with hlow | hbelow
            · omega
            · have hbound := (isBelow_iff count max).mp hbelow m hm
              omega
          · omega
        · intro other hother
          rcases List.mem_cons.mp hother with hhead | htail
          · rw [hhead]
            exact hspells
          · exact hall other htail
      have hstop (hcount : ¬ count < min) (hq : q = p) :
          ∃ pieces : List Text, p.position.after = pieces.flatten ++ q.position.after ∧
            min ≤ count + pieces.length ∧
            (∀ m ∈ max, pieces = [] ∨ count + pieces.length ≤ min ∨ count + pieces.length ≤ m) ∧
            ∀ piece ∈ pieces, spells piece :=
        ⟨[], by rw [hq]; rfl, by simp only [List.length_nil]; omega, fun m _ => .inl rfl, by simp⟩
      rw [greedyWays] at hq
      split at hq
      · next hlow => exact hmore _ (.inl hlow) hq
      · next hlow =>
        split at hq
        · next hbelow =>
          rcases List.mem_append.mp hq with hagain | hend
          · exact hmore _ (.inr (Bool.and_eq_true_iff.mp hbelow).1) hagain
          · exact hstop hlow (List.mem_singleton.mp hend)
        · exact hstop hlow (List.mem_singleton.mp hq)

/-- A list of pieces without a character, or the pieces after those that have
none, the first of which has one. -/
theorem flatten_eq_nil_or_cons (pieces : List Text) :
    pieces.flatten = [] ∨ ∃ (piece : Text) (rest : List Text), piece ∈ pieces ∧ piece ≠ [] ∧
      pieces.flatten = piece ++ rest.flatten ∧ rest.length < pieces.length ∧
      ∀ other ∈ rest, other ∈ pieces := by
  induction pieces with
  | nil => exact .inl rfl
  | cons piece rest ih =>
      by_cases hpiece : piece = []
      · rcases ih with hnil | ⟨other, others, hmem, hne, hflatten, hlength, hsub⟩
        · exact .inl (by rw [List.flatten_cons, hpiece, hnil]; rfl)
        · refine .inr ⟨other, others, List.mem_cons_of_mem _ hmem, hne, ?_, ?_, ?_⟩
          · rw [List.flatten_cons, hpiece, hflatten]
            rfl
          · rw [List.length_cons]
            omega
          · intro t ht
            exact List.mem_cons_of_mem _ (hsub t ht)
      · exact .inr ⟨piece, rest, List.mem_cons_self, hpiece, rfl, by simp,
          fun t ht => List.mem_cons_of_mem _ ht⟩

/-- Pieces that the repeated part takes can be taken one after the other. What
the last repetition left is more than what is left now, so the rule against
repetitions that take no character never stops one that takes some. -/
theorem exists_mem_greedyWays_of_pieces
    (hbody : ∀ t, spells t → ∀ p rest, p.position.after = t ++ rest →
      ∃ q ∈ body p, q.position.after = rest)
    (min : Nat) (max : Option Nat) (fuel count : Nat) (last : Option Nat) (p : Progress)
    (pieces : List Text) (rest : Text)
    (hafter : p.position.after = pieces.flatten ++ rest)
    (hspells : ∀ piece ∈ pieces, spells piece)
    (hmin : min ≤ count + pieces.length)
    (hmax : ∀ m ∈ max, count + pieces.length ≤ min ∨ count + pieces.length ≤ m)
    (hlast : ∀ l ∈ last, p.position.after.length < l)
    (hfuel : (min - count) + p.position.after.length ≤ fuel) :
    ∃ q ∈ greedyWays body min max fuel count last p, q.position.after = rest := by
  induction fuel generalizing count last p pieces with
  | zero =>
      have hnil : p.position.after = [] := List.eq_nil_of_length_eq_zero (by omega)
      obtain ⟨-, hrest⟩ := List.append_eq_nil_iff.mp (hafter.symm.trans hnil)
      exact ⟨p, List.mem_singleton_self p, hnil.trans hrest.symm⟩
  | succ fuel ih =>
      rw [greedyWays]
      by_cases hlow : count < min
      · rw [if_pos hlow]
        cases pieces with
        | nil =>
            simp only [List.length_nil] at hmin
            omega
        | cons piece pieces =>
            have hpiece := hspells piece List.mem_cons_self
            rw [List.flatten_cons, List.append_assoc] at hafter
            obtain ⟨r, hr, hrafter⟩ := hbody piece hpiece p _ hafter
            have hle : r.position.after.length ≤ p.position.after.length := by
              rw [hafter, List.length_append, hrafter]
              omega
            obtain ⟨q, hq, hqafter⟩ := ih (count + 1) last r pieces hrafter
              (fun t ht => hspells t (List.mem_cons_of_mem _ ht))
              (by rw [List.length_cons] at hmin; omega)
              (fun m hm => by have h := hmax m hm; rw [List.length_cons] at h; omega)
              (fun l hl => by have h := hlast l hl; omega)
              (by omega)
            exact ⟨q, List.mem_flatMap.mpr ⟨r, hr, hq⟩, hqafter⟩
      · rw [if_neg hlow]
        rcases flatten_eq_nil_or_cons pieces with hnil | ⟨piece, others, hmem, hne, hflatten,
          hlength, hsub⟩
        · have hend : p.position.after = rest := by rw [hafter, hnil]; rfl
          split
          · exact ⟨p, List.mem_append_right _ (List.mem_singleton_self p), hend⟩
          · exact ⟨p, List.mem_singleton_self p, hend⟩
        · have hbelow : isBelow count max = true := by
            rw [isBelow_iff]
            intro m hm
            have h := hmax m hm
            omega
          have hother : (last != some p.position.after.length) = true := by
            cases last with
            | none => rfl
            | some l =>
                have h := hlast l rfl
                simp only [bne_iff_ne, ne_eq, Option.some.injEq]
                omega
          rw [hflatten, List.append_assoc] at hafter
          obtain ⟨r, hr, hrafter⟩ := hbody piece (hspells piece hmem) p _ hafter
          have hlt : r.position.after.length < p.position.after.length := by
            have hpos := List.length_pos_iff.mpr hne
            rw [hafter, List.length_append, hrafter]
            omega
          obtain ⟨q, hq, hqafter⟩ := ih (count + 1) (some p.position.after.length) r others
            hrafter (fun t ht => hspells t (hsub t ht)) (by omega)
            (fun m hm => by have h := hmax m hm; omega)
            (fun l hl => by obtain rfl := Option.some.inj hl; exact hlt)
            (by omega)
          rw [if_pos (by rw [hbelow, hother]; rfl)]
          exact ⟨q, List.mem_append_left _ (List.mem_flatMap.mpr ⟨r, hr, hq⟩), hqafter⟩

end

/-- What a regular part takes is a text that it spells. -/
theorem Node.spells_of_mem_ways (n : Node) (hn : n.isRegular = true) (f : Flags) (p : Progress) :
    ∀ q ∈ n.ways f p, ∃ t, p.position.after = t ++ q.position.after ∧ n.Spells f t := by
  induction n generalizing f p with
  | empty =>
      intro q hq
      obtain rfl := List.mem_singleton.mp hq
      exact ⟨[], rfl, rfl⟩
  | atom a =>
      intro q hq
      have hstep := Option.mem_toList.mp hq
      rw [Atom.step_of_isRegular hn] at hstep
      obtain ⟨c, rest, hafter, htakes, rfl⟩ := Progress.step_eq_some.mp hstep
      exact ⟨[c], hafter, c, htakes, rfl⟩
  | cat first second ihf ihs =>
      obtain ⟨hfirst, hsecond⟩ := Bool.and_eq_true_iff.mp hn
      intro q hq
      obtain ⟨r, hr, hrest⟩ := List.mem_flatMap.mp hq
      obtain ⟨u, hu, hspellsu⟩ := ihf hfirst f p r hr
      obtain ⟨v, hv, hspellsv⟩ := ihs hsecond f r q hrest
      exact ⟨u ++ v, by rw [hu, hv, List.append_assoc], u, v, hspellsu, hspellsv, rfl⟩
  | alt first second ihf ihs =>
      obtain ⟨hfirst, hsecond⟩ := Bool.and_eq_true_iff.mp hn
      intro q hq
      rcases List.mem_append.mp hq with hq | hq
      · obtain ⟨t, ht, hspells⟩ := ihf hfirst f p q hq
        exact ⟨t, ht, .inl hspells⟩
      · obtain ⟨t, ht, hspells⟩ := ihs hsecond f p q hq
        exact ⟨t, ht, .inr hspells⟩
  | group i body ih =>
      intro q hq
      obtain ⟨r, hr, rfl⟩ := List.mem_map.mp hq
      exact ih hn f (p.openGroup i) r hr
  | «scoped» added removed body ih => exact ih hn _ p
  | repeated greed min max body ih =>
      obtain ⟨hgreed, hbody⟩ := Bool.and_eq_true_iff.mp hn
      intro q hq
      have hmem : q ∈ greedyWays (body.ways f) min max (repetitionFuel min p) 0 none p := by
        cases greed with
        | greedy => exact hq
        | lazy => exact (mem_lazyWays_iff ..).mp hq
        | possessive => cases hgreed
      obtain ⟨pieces, hafter, hmin, hmax, hall⟩ := exists_pieces_of_mem_greedyWays
        (fun p => ih hbody f p) min max _ 0 none p q (by rw [repetitionFuel]; omega) hmem
      refine ⟨pieces.flatten, hafter, bne_iff_ne.mp hgreed, pieces, by omega, ?_, hall, rfl⟩
      intro m hm
      rcases hmax m hm with hnil | hle
      · rw [hnil]
        exact .inl (Nat.zero_le min)
      · omega
  | look direction negated body ih => cases hn
  | atomic body ih => cases hn
  | conditional i present absent ihp iha => cases hn

theorem Node.Takes.spells {fresh : Nat → Prop} {n : Node} {f : Flags} {t : Text}
    (h : n.Takes fresh f t) (hn : n.isRegular = true) : n.Spells f t := by
  obtain ⟨p, _, q, hq, hafter⟩ := h
  obtain ⟨u, hu, hspells⟩ := n.spells_of_mem_ways hn f p q hq
  rwa [List.append_cancel_right (hafter.symm.trans hu)]

/-- A text that a part spells can be taken whatever comes after it. -/
theorem Node.exists_mem_ways_of_spells (n : Node) (f : Flags) (t : Text) (h : n.Spells f t)
    (p : Progress) (rest : Text) (hafter : p.position.after = t ++ rest) :
    ∃ q ∈ n.ways f p, q.position.after = rest := by
  induction n generalizing f t p rest with
  | empty =>
      obtain rfl : t = [] := h
      exact ⟨p, List.mem_singleton_self p, hafter⟩
  | atom a =>
      obtain ⟨c, htakes, rfl⟩ := h
      have hstep := Atom.step_of_isRegular (Atom.isRegular_of_takes htakes) f p
      refine ⟨_, Option.mem_toList.mpr (hstep.trans (Progress.step_eq_some.mpr
        ⟨c, rest, hafter, htakes, rfl⟩)), rfl⟩
  | cat first second ihf ihs =>
      obtain ⟨u, v, hu, hv, rfl⟩ := h
      rw [List.append_assoc] at hafter
      obtain ⟨r, hr, hrafter⟩ := ihf f u hu p _ hafter
      obtain ⟨q, hq, hqafter⟩ := ihs f v hv r rest hrafter
      exact ⟨q, List.mem_flatMap.mpr ⟨r, hr, hq⟩, hqafter⟩
  | alt first second ihf ihs =>
      rcases h with h | h
      · obtain ⟨q, hq, hqafter⟩ := ihf f t h p rest hafter
        exact ⟨q, List.mem_append_left _ hq, hqafter⟩
      · obtain ⟨q, hq, hqafter⟩ := ihs f t h p rest hafter
        exact ⟨q, List.mem_append_right _ hq, hqafter⟩
  | group i body ih =>
      obtain ⟨q, hq, hqafter⟩ := ih f t h (p.openGroup i) rest hafter
      exact ⟨q.closeGroup i, List.mem_map_of_mem hq, hqafter⟩
  | «scoped» added removed body ih => exact ih _ t h p rest hafter
  | repeated greed min max body ih =>
      obtain ⟨hgreed, pieces, hmin, hmax, hspells, rfl⟩ := h
      obtain ⟨q, hq, hqafter⟩ := exists_mem_greedyWays_of_pieces
        (fun t ht p rest => ih f t ht p rest) min max (repetitionFuel min p) 0 none p pieces rest
        hafter hspells (by omega) (fun m hm => by have h := hmax m hm; omega)
        (fun l hl => by cases hl) (by rw [repetitionFuel]; omega)
      refine ⟨q, ?_, hqafter⟩
      cases greed with
      | greedy => exact hq
      | lazy => exact (mem_lazyWays_iff ..).mpr hq
      | possessive => exact absurd rfl hgreed
  | look direction negated body ih => exact h.elim
  | atomic body ih => exact h.elim
  | conditional i present absent ihp iha => exact h.elim

/-- What a part takes of a text to its end from the start. -/
theorem Node.takes_of_mem_ways {n : Node} {f : Flags} {t : Text} {q : Progress}
    (hq : q ∈ n.ways f (.start t)) (hend : q.position.after = []) (fresh : Nat → Prop) :
    n.Takes fresh f t :=
  ⟨.start t, fun i _ => Progress.isFresh_start t i, q, hq, by rw [hend, List.append_nil]; rfl⟩

end KeyNaming.Regex
