import KeyNaming.Proofs.Regex.Outward

/-!
Parts that take from an excerpt of a text what they take from the text.

An anchor of a line or of the text that holds inside of a longer text holds in an
excerpt as well. A part that decides for itself what a pliant part does, be it
that nothing is given back or that something is not there, decides the same in an
excerpt, unless it leads out of it. So does what is made of these.
-/

namespace KeyNaming.Regex

/-! ## Parts that settle what a pliant part can do -/

namespace Node

/-- Whether a part takes from each excerpt what it takes from the text around
it, since it is an anchor other than that of a word, or decides for itself what a
pliant part does. -/
def isEnclosed : Node → Bool
  | .atom (.anchor .boundary) | .atom (.anchor .nonBoundary) => false
  | .atom (.anchor _) => true
  | .repeated .possessive _ _ body | .atomic body => body.isPliant
  | .look _ true body => body.isOutward
  | _ => false

/-- Whether what a part takes from a text it takes from each excerpt as well. -/
def isInward (n : Node) : Bool := n.isMadeOf isEnclosed false

theorem Corresponds.isEnclosed_eq {R : Nat → Nat → Prop} {n m : Node} (h : n.Corresponds R m) :
    n.isEnclosed = m.isEnclosed := by
  cases h with
  | @repeated greed _ _ _ _ hbody =>
      cases greed with
      | possessive => exact hbody.isPliant_eq
      | _ => rfl
  | @look _ negated _ _ hbody =>
      cases negated with
      | true => exact hbody.isOutward_eq
      | false => rfl
  | atomic hbody => exact hbody.isPliant_eq
  | _ => rfl

theorem Corresponds.isInward_eq {R : Nat → Nat → Prop} {n m : Node} (h : n.Corresponds R m) :
    n.isInward = m.isInward :=
  h.isMadeOf_eq (fun h => h.isEnclosed_eq) false

theorem isPartwise_isInward : IsPartwise isInward where
  renumber hρ n := (n.corresponds_renumber hρ).isInward_eq
  empty := rfl
  cat _ _ := rfl
  alt _ _ := rfl
  literal _ := rfl
  set _ := rfl

end Node

/-! ## What such parts take -/

section

variable {R : Nat → Nat → Prop} {u w : Text} {p p' : Progress}

/-- An anchor of a line or of the text that holds in a text holds in an excerpt
that starts or ends there. -/
theorem Progress.IsWithin.holds (h : p.IsWithin R u w p') {a : Anchor}
    (ha : (Node.atom (.anchor a)).isEnclosed = true) {f : Flags}
    (hholds : p.position.holds f a = true) : p'.position.holds f a = true := by
  cases a with
  | textStart =>
      rw [Position.holds, h.before, List.isEmpty_iff, List.append_eq_nil_iff] at hholds
      exact List.isEmpty_iff.mpr hholds.1
  | textEnd =>
      rw [Position.holds, h.after, List.isEmpty_iff, List.append_eq_nil_iff] at hholds
      exact List.isEmpty_iff.mpr hholds.1
  | lineStart =>
      rw [Position.holds, h.before] at hholds
      rw [Position.holds]
      cases hbefore : p'.position.before with
      | nil => rfl
      | cons c rest =>
          rw [hbefore] at hholds
          exact hholds
  | lineEnd =>
      rw [Position.holds, h.after] at hholds
      rw [Position.holds]
      cases hafter : p'.position.after with
      | nil => rfl
      | cons c rest =>
          rw [hafter] at hholds
          simp only [List.cons_append, List.isEmpty_cons, Bool.false_or, Bool.or_eq_true,
            beq_iff_eq, List.cons.injEq, List.append_eq_nil_iff, List.head?_cons] at hholds ⊢
          exact hholds.imp_left fun hlast => ⟨hlast.1, hlast.2.1⟩
  | boundary => cases ha
  | nonBoundary => cases ha

/-- The first way of a pliant part stays the first one, unless it leads out of
the excerpt. -/
theorem SameWays.head? {l l' : List Progress} (h : SameWays R u w l l') {q : Progress}
    (hq : l.head? = some q) (hleaves : q.leaves w = true) :
    ∃ q', l'.head? = some q' ∧ q.IsWithin R u w q' := by
  obtain ⟨rest, rfl⟩ := List.head?_eq_some_iff.mp hq
  rw [SameWays, List.filter_cons_of_pos hleaves] at h
  cases h with
  | cons hhead _ => exact ⟨_, rfl, hhead⟩

theorem SameWays.keepsWays {l l' : List Progress} (h : SameWays R u w l l') :
    KeepsWays R u w l l' := by
  intro q' hq'
  obtain ⟨q, hq, hwithin⟩ := exists_mem_of_forall₂ h.flip hq'
  exact ⟨q, List.mem_of_mem_filter hq, hwithin⟩

theorem KeepsWays.head?_eq_none {l l' : List Progress} (h : KeepsWays R u w l l')
    (hnone : l.head? = none) : l'.head? = none := by
  rw [List.head?_eq_none_iff] at hnone ⊢
  rw [List.eq_nil_iff_forall_not_mem]
  intro q' hq'
  obtain ⟨q, hq, _⟩ := h q' hq'
  rw [hnone] at hq
  cases hq

/-- Repetitions of which none is given back are the same ones in an excerpt,
unless they lead out of it. -/
theorem repeatPossessively_within {body body' : Progress → List Progress}
    (hreaches : ∀ p, ∀ q ∈ body p, p.Reaches q)
    (hbody : ∀ p p' : Progress, p.IsWithin R u w p' → SameWays R u w (body p) (body' p'))
    (min : Nat) (max : Option Nat) (fuel count : Nat) (last' : Option Nat) (h : p.IsWithin R u w p')
    {q : Progress} (hleaves : q.leaves w = true)
    (hq : repeatPossessively (fun p => (body p).head?) min max fuel count
      (last'.map (· + w.length)) p = some q) :
    ∃ q', repeatPossessively (fun p => (body' p).head?) min max fuel count last' p' = some q' ∧
      q.IsWithin R u w q' := by
  have honce (p r : Progress) (hr : (body p).head? = some r) : p.Reaches r :=
    hreaches p r (List.mem_of_mem_head? hr)
  induction fuel generalizing count last' p p' with
  | zero =>
      obtain rfl := Option.some.inj hq
      exact ⟨p', rfl, h⟩
  | succ fuel ih =>
      -- one more repetition, after which there is enough left for those to come
      have hmore (last : Option Nat) {r : Progress} (hr : (body p).head? = some r)
          (hrest : repeatPossessively (fun p => (body p).head?) min max fuel (count + 1)
            (last.map (· + w.length)) r = some q) :
          ∃ r', (body' p').head? = some r' ∧ ∃ q', repeatPossessively
            (fun p => (body' p).head?) min max fuel (count + 1) last r' = some q' ∧
              q.IsWithin R u w q' := by
        have hreach := tracked_reaches.of_repeatPossessively honce min max _ _ _ r q hrest
        obtain ⟨r', hr', hwithin⟩ :=
          (hbody p p' h).head? hr (Progress.leaves_of_reaches hreach hleaves)
        exact ⟨r', hr', ih (count + 1) last hwithin hrest⟩
      rw [repeatPossessively] at hq ⊢
      rw [h.last_ne] at hq
      split
      · next hcount =>
        rw [if_pos hcount] at hq
        obtain ⟨r, hr, hrest⟩ := Option.bind_eq_some_iff.mp hq
        obtain ⟨r', hr', hq'⟩ := hmore last' hr hrest
        rw [hr', Option.bind_some]
        exact hq'
      · next hcount =>
        rw [if_neg hcount] at hq
        split
        · next hagain =>
          rw [if_pos hagain, h.length_after] at hq
          cases hr : (body p).head? with
          | none =>
              rw [hr] at hq
              obtain rfl := Option.some.inj hq
              rw [(hbody p p' h).keepsWays.head?_eq_none hr]
              exact ⟨p', rfl, h⟩
          | some r =>
              rw [hr] at hq
              obtain ⟨r', hr', hq'⟩ := hmore (some p'.position.after.length) hr hq
              rw [hr']
              exact hq'
        · next hstop =>
          rw [if_neg hstop] at hq
          obtain rfl := Option.some.inj hq
          exact ⟨p', rfl, h⟩

end

namespace Node

variable {R : Nat → Nat → Prop} {u w : Text}

theorem hasWays_of_isEnclosed {n : Node} (hn : n.isEnclosed = true) (m : Node) (f : Flags)
    (p p' : Progress) (hnm : n.Corresponds R m) (h : p.IsWithin R u w p') :
    HasWays R u w (n.ways f p) (m.ways f p') := by
  intro q hq hleaves
  cases hnm with
  | atom a ha =>
      cases a with
      | anchor a =>
          rw [ways, Option.mem_toList, Atom.step] at hq
          split at hq
          · next hholds =>
            obtain rfl := Option.some.inj hq
            refine ⟨p', ?_, h⟩
            rw [ways, Atom.step, if_pos (h.holds hn hholds)]
            exact List.mem_singleton_self p'
          · cases hq
      | _ => cases hn
  | @repeated greed min max body body' hsame =>
      cases greed with
      | possessive =>
          have hreaches (n : Node) (p q : Progress) (hq : q ∈ n.ways f p) : p.Reaches q :=
            reaches_of_mem_ways hq
          have honce (p q : Progress) (hq : (body'.ways f p).head? = some q) : p.Reaches q :=
            hreaches body' p q (List.mem_of_mem_head? hq)
          obtain ⟨q', hq', hwithin⟩ := repeatPossessively_within (hreaches body)
            (fun p p' h => sameWays_of_isPliant hn hsame f h) min max _ 0 none h hleaves
            (Option.mem_toList.mp hq)
          rw [h.repetitionFuel_eq, repeatPossessively_add honce min max _ 0 none p'
            (fun _ => rfl) (remaining_lt_repetitionFuel min p')] at hq'
          exact ⟨q', Option.mem_toList.mpr hq', hwithin⟩
      | _ => cases hn
  | @look direction negated body body' hsame =>
      cases negated with
      | true =>
          cases hfound : (direction.from? p).bind fun position =>
              (body.ways f { p with position }).head? with
          | some r =>
              simp only [ways, hfound] at hq
              cases hq
          | none =>
              simp only [ways, hfound] at hq
              obtain rfl := List.mem_singleton.mp hq
              refine ⟨p', ?_, h⟩
              have hfound' : ((direction.from? p').bind fun position =>
                  (body'.ways f { p' with position }).head?) = none := by
                rw [Option.bind_eq_none_iff]
                intro position' hfrom'
                obtain ⟨position, hfrom, hwithin⟩ := h.back? hfrom'
                exact (keepsWays_of_isOutward hn hsame f hwithin).head?_eq_none
                  (Option.bind_eq_none_iff.mp hfound position hfrom)
              simp only [ways, hfound']
              exact List.mem_singleton_self p'
      | false => cases hn
  | @atomic body body' hsame =>
      obtain ⟨q', hq', hwithin⟩ := (sameWays_of_isPliant hn hsame f h).head?
        (Option.mem_toList.mp hq) hleaves
      exact ⟨q', Option.mem_toList.mpr hq', hwithin⟩
  | _ => cases hn

/-- What an inward part takes from a text it takes from an excerpt as well. The
numbers of groups make no difference. -/
theorem hasWays_of_isInward {n m : Node} (hn : n.isInward = true) (hnm : n.Corresponds R m)
    (f : Flags) {p p' : Progress} (h : p.IsWithin R u w p') :
    HasWays R u w (n.ways f p) (m.ways f p') :=
  transfer_ways transfer_hasWays (fun _ => hasWays_of_isEnclosed)
    (fun hlooking => absurd hlooking Bool.false_ne_true) hn hnm f h

/-- What an inward part takes somewhere, where its groups captured nothing yet, it
takes by itself. -/
theorem Takes.exists_mem_ways {n m : Node} {fresh : Nat → Prop} {f : Flags} {t : Text}
    (h : n.Takes fresh f t) (hn : n.isInward = true) (hnm : n.Corresponds R m)
    (hfresh : ∀ i j, R i j → fresh i) : ∃ q ∈ m.ways f (.start t), q.position.after = [] := by
  obtain ⟨p, hp, q, hq, hafter⟩ := h
  obtain ⟨q', hq', hwithin⟩ := hasWays_of_isInward hn hnm f
    (Progress.isWithin_start hafter fun i j hij => hp i (hfresh i j hij)) q hq
    (decide_eq_true (Nat.le_refl _))
  exact ⟨q', hq', List.self_eq_append_left.mp hwithin.after⟩

end Node

end KeyNaming.Regex
