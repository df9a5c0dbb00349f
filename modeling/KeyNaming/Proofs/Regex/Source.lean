import Mathlib.Data.List.Infix
import KeyNaming.Regex.Source
import KeyNaming.Proofs.Outcome

/-!
Reading the same tokens with different ones after them.

A source of tokens may stand alone or be a piece of a longer source. What
follows the piece is then a closing parenthesis, or the final `$` that stands
at the end of a whole expression; none of the readers goes on past either. Two
sources with the same tokens ahead of what follows are read alike: where one
can be read, the other can be read too, or is rejected for what stands around
it. Nothing else than a rejection stops it.
-/

namespace KeyNaming.Regex

/-- Whether an error is a fault of the expression, as opposed to a number that
is too large and to flags that clash. -/
def Error.isRejected : Error → Bool
  | .rejected _ _ => true
  | _ => false

/-- Whether a computation ends with a result or with a rejection. -/
def IsMild {A : Type} (x : Except Error A) : Prop :=
  Outcome (fun e => e.isRejected = true) (fun _ => True) x

/-- Whether the second computation has a related result or is rejected, where
the first one has a result. -/
def Alike {A B : Type} (R : A → B → Prop) (x : Except Error A) (y : Except Error B) : Prop :=
  ∀ a, x = .ok a → Outcome (fun e => e.isRejected = true) (R a) y

def Fails {A : Type} (x : Except Error A) : Prop :=
  ∀ a, x ≠ .ok a

section

variable {A B C D : Type} {R : A → B → Prop} {Q : C → D → Prop}
variable {x x' : Except Error A} {y y' : Except Error B}

theorem IsMild.bind (h : IsMild x) {f : A → Except Error C} (hf : ∀ a, IsMild (f a)) :
    IsMild (x >>= f) :=
  Outcome.bind h fun a _ => hf a

theorem IsMild.ite (c : Prop) [Decidable c] (h : IsMild x) (h' : IsMild x') :
    IsMild (if c then x else x') := by
  split
  · exact h
  · exact h'

theorem Fails.alike (h : Fails x) (R : A → B → Prop) (y : Except Error B) : Alike R x y :=
  fun a ha => absurd ha (h a)

theorem fails_error (e : Error) : Fails (.error e : Except Error A) := fun _ h => nomatch h

theorem Fails.bind (h : Fails x) (f : A → Except Error C) : Fails (x >>= f) := by
  cases x with
  | error e => exact fails_error e
  | ok a => exact absurd rfl (h a)

theorem fails_bind {f : A → Except Error C} (h : ∀ a, x = .ok a → Fails (f a)) :
    Fails (x >>= f) := by
  cases x with
  | error e => exact fails_error e
  | ok a => exact h a rfl

theorem fails_ite (c : Prop) [Decidable c] (hx : c → Fails x) (hx' : ¬ c → Fails x') :
    Fails (if c then x else x') := by
  split
  · next hc => exact hx hc
  · next hc => exact hx' hc

namespace Alike

theorem ok {a : A} {b : B} (h : R a b) : Alike R (.ok a) (.ok b) := by
  rintro _ ⟨⟩
  exact h

theorem pure {a : A} {b : B} (h : R a b) :
    Alike R (Pure.pure a : Except Error A) (Pure.pure b) :=
  .ok h

/-- Results of two computations that are alike are related. -/
theorem related (h : Alike R x y) {a : A} {b : B} (ha : x = .ok a) (hb : y = .ok b) : R a b :=
  (h a ha).ok hb

theorem of_isMild (hy : IsMild y) (h : ∀ a b, x = .ok a → y = .ok b → R a b) : Alike R x y := by
  intro a ha
  cases y with
  | ok b => exact h a b ha rfl
  | error e => exact hy

theorem same : Alike Eq x x := by
  rintro a rfl
  rfl

theorem error_left (e : Error) : Alike R (.error e) y := fun _ h => nomatch h

theorem error_right (cause : Cause) (position : Option Nat) :
    Alike R x (.error (.rejected cause position)) :=
  fun _ _ => rfl

theorem bind {f : A → Except Error C} {g : B → Except Error D} (h : Alike R x y)
    (hfg : ∀ a b, R a b → Alike Q (f a) (g b)) : Alike Q (x >>= f) (y >>= g) := by
  cases x with
  | error e => exact error_left e
  | ok a =>
      intro c hc
      exact (h a rfl).bind fun b hab => hfg a b hab c hc

theorem ite (c : Prop) [Decidable c] (h : c → Alike R x y) (h' : ¬ c → Alike R x' y') :
    Alike R (if c then x else x') (if c then y else y') := by
  split
  · next hc => exact h hc
  · next hc => exact h' hc

theorem mono {R' : A → B → Prop} (h : Alike R x y) (hR : ∀ a b, R a b → R' a b) :
    Alike R' x y :=
  fun a ha => (h a ha).imp_ok (hR a)

theorem ite_left (c : Prop) [Decidable c] (h : c → Alike R x y) (h' : ¬ c → Alike R x' y) :
    Alike R (if c then x else x') y := by
  split
  · next hc => exact h hc
  · next hc => exact h' hc

theorem ite_right (c : Prop) [Decidable c] (h : c → Alike R x y) (h' : ¬ c → Alike R x y') :
    Alike R x (if c then y else y') := by
  split
  · next hc => exact h hc
  · next hc => exact h' hc

theorem bind_checks {check : Except Error C} {check' : Except Error D} {f : C → Except Error A}
    {g : D → Except Error B} (hmild : IsMild check') (h : ∀ c d, Alike R (f c) (g d)) :
    Alike R (check >>= f) (check' >>= g) :=
  bind (of_isMild hmild fun _ _ _ _ => trivial) fun c d (_ : True) => h c d

theorem ite_bind (c : Prop) [Decidable c] {f : A → Except Error C} {g : B → Except Error D}
    (h : Alike R (if c then x else x') (if c then y else y'))
    (hfg : ∀ a b, R a b → Alike Q (f a) (g b)) :
    Alike Q (if c then x >>= f else x' >>= f) (if c then y >>= g else y' >>= g) := by
  split
  · next hc =>
    rw [if_pos hc, if_pos hc] at h
    exact h.bind hfg
  · next hc =>
    rw [if_neg hc, if_neg hc] at h
    exact h.bind hfg

end Alike

end

/-- What may stand after a piece of a source. -/
structure Setting where
  tokens : List Token
  dangling : Bool
  closed : ∀ t ∈ tokens.head?, t = .plain ')' ∨ t = .plain '$'

/-- Whether a source ends where its piece does, up to a final `$`. -/
def Setting.IsOver (e : Setting) : Prop := e.tokens = [] ∨ e.tokens = [.plain '$']

namespace Setting

def nothing (dangling : Bool) : Setting := ⟨[], dangling, by simp⟩

def lineEnd : Setting := ⟨[.plain '$'], false, by simp⟩

def closing (rest : List Token) : Setting := ⟨.plain ')' :: rest, false, by simp⟩

end Setting

namespace Source

/-- Whether a source consists of some tokens and what stands after them. A
backslash that is left over at the end is no next token. -/
structure Ends (e : Setting) (u : List Token) (s : Source) : Prop where
  tokens : s.tokens = u ++ e.tokens
  dangling : s.dangling = e.dangling
  checked : s.dangling = true → s.tokens ≠ []

variable {e e₁ e₂ : Setting} {u : List Token} {s s₁ s₂ : Source}

theorem isMild_checked (s : Source) : IsMild s.checked := by
  rw [checked]
  split
  · rfl
  · trivial

theorem isMild_advance (s : Source) : IsMild s.advance := by
  rw [advance]
  split
  · trivial
  · exact isMild_checked _

theorem isMild_take (s : Source) : IsMild s.take :=
  s.isMild_advance.bind fun _ => trivial

theorem checked_eq_ok {s s' : Source} (h : s.checked = .ok s') :
    s' = s ∧ (s.dangling = true → s.tokens ≠ []) := by
  rw [checked] at h
  split at h
  · cases h
  · next hcheck =>
    refine ⟨(Except.ok.inj h).symm, fun hdangling hnil => ?_⟩
    rw [hnil, hdangling] at hcheck
    exact hcheck rfl

theorem Ends.advance {t : Token} {s' : Source} (hs : s.Ends e (t :: u))
    (h : s.advance = .ok s') : s'.Ends e u := by
  rw [Source.advance, hs.tokens] at h
  obtain ⟨rfl, hcheck⟩ := checked_eq_ok h
  exact ⟨rfl, hs.dangling, hcheck⟩

theorem Ends.next? {t : Token} (hs : s.Ends e (t :: u)) : s.next? = some t := by
  rw [Source.next?, hs.tokens]
  rfl

theorem Ends.take {t : Token} {t? : Option Token} {s' : Source} (hs : s.Ends e (t :: u))
    (h : s.take = .ok (t?, s')) : t? = some t ∧ s'.Ends e u := by
  simp only [Source.take, bind, Except.bind, pure, Except.pure] at h
  split at h
  · cases h
  · next rest hrest =>
    obtain ⟨rfl, rfl⟩ := Prod.mk.inj (Except.ok.inj h)
    exact ⟨hs.next?, hs.advance hrest⟩

theorem take_of_nil (hs : s.tokens = []) : s.take = .ok (none, s) := by
  simp [Source.take, advance, next?, hs, bind, Except.bind, pure, Except.pure]

/-- What is taken of a source that is over is nothing or the final `$`. -/
theorem Ends.take_over {t? : Option Token} {s' : Source} (hs : s.Ends e []) (hover : e.IsOver)
    (h : s.take = .ok (t?, s')) : t? = none ∨ t? = some (.plain '$') ∧ s'.tokens = [] := by
  have htokens := hs.tokens
  rw [List.nil_append] at htokens
  rcases hover with hnil | hlast
  · rw [take_of_nil (htokens.trans hnil)] at h
    exact .inl (Prod.mk.inj (Except.ok.inj h)).1.symm
  · have hs : s.Ends (.nothing e.dangling) [.plain '$'] :=
      ⟨htokens.trans hlast, hs.dangling, hs.checked⟩
    obtain ⟨rfl, hs'⟩ := hs.take h
    exact .inr ⟨rfl, hs'.tokens⟩

/-- Whether a character that never stands after a piece comes next. -/
theorem Ends.nextIs (hs : s.Ends e u) {c : Char} (hclosing : c ≠ ')') (hdollar : c ≠ '$') :
    s.nextIs c = u.head?.any (·.isPlain c) := by
  cases u with
  | cons t rest => rw [Source.nextIs, hs.next?]; rfl
  | nil =>
      rw [Source.nextIs, Source.next?, hs.tokens, List.nil_append]
      cases hhead : e.tokens.head? with
      | none => rfl
      | some t =>
          have hne (d : Char) (hd : c ≠ d) : (Token.plain d).isPlain c = false := by
            have hvalue : (d : CodePoint) ≠ c := by
              intro heq
              apply hd
              have hnat := congrArg CodePoint.value heq
              exact Char.ext (UInt32.toNat_inj.mp hnat.symm)
            simpa [Token.isPlain] using hvalue
          rcases e.closed t hhead with rfl | rfl
          · exact hne ')' hclosing
          · exact hne '$' hdollar

/-- Whether two sources have the same tokens, a part of some given ones, ahead
of what stands after them. -/
def Beneath (e₁ e₂ : Setting) (u : List Token) (s₁ s₂ : Source) : Prop :=
  ∃ v, v <:+ u ∧ s₁.Ends e₁ v ∧ s₂.Ends e₂ v

theorem Beneath.mono {v : List Token} (hv : v <:+ u) (h : Beneath e₁ e₂ v s₁ s₂) :
    Beneath e₁ e₂ u s₁ s₂ := by
  obtain ⟨w, hw, hs⟩ := h
  exact ⟨w, hw.trans hv, hs⟩

/-- Whether two readers have related results and leave the same tokens. -/
def Along {A B : Type} (e₁ e₂ : Setting) (u : List Token) (R : A → B → Prop)
    (a : A × Source) (b : B × Source) : Prop :=
  R a.1 b.1 ∧ Beneath e₁ e₂ u a.2 b.2

theorem Along.mono {A B : Type} {R : A → B → Prop} {a : A × Source} {b : B × Source}
    {v : List Token} (hv : v <:+ u) (h : Along e₁ e₂ v R a b) : Along e₁ e₂ u R a b :=
  ⟨h.1, h.2.mono hv⟩

section

variable (hs₁ : s₁.Ends e₁ u) (hs₂ : s₂.Ends e₂ u)
include hs₁ hs₂

theorem Ends.beneath : Beneath e₁ e₂ u s₁ s₂ := ⟨u, List.suffix_refl u, hs₁, hs₂⟩

theorem along_of_ends {A B : Type} {R : A → B → Prop} {a : A} {b : B} (h : R a b) :
    Along e₁ e₂ u R (a, s₁) (b, s₂) :=
  ⟨h, hs₁.beneath hs₂⟩

theorem alike_accept (c : Char) (hclosing : c ≠ ')') (hdollar : c ≠ '$') :
    Alike (Along e₁ e₂ u Eq) (s₁.accept c) (s₂.accept c) := by
  rw [accept, accept, hs₁.nextIs hclosing hdollar, hs₂.nextIs hclosing hdollar]
  apply Alike.ite
  · intro hnext
    cases u with
    | nil => simp at hnext
    | cons t rest =>
        have hadvance : Alike (Beneath e₁ e₂ (t :: rest)) s₁.advance s₂.advance :=
          .of_isMild s₂.isMild_advance fun a b ha hb =>
            ⟨rest, List.suffix_cons t rest, hs₁.advance ha, hs₂.advance hb⟩
        exact hadvance.bind fun a b hab => .pure ⟨rfl, hab⟩
  · intro _
    exact .ok (along_of_ends hs₁ hs₂ rfl)

theorem alike_takeWhile (accepts : CodePoint → Bool) (hclosing : accepts ')' = false)
    (hdollar : accepts '$' = false) (n₁ n₂ : Nat)
    (hn : n₁ = n₂ ∨ u.length ≤ n₁ ∧ u.length ≤ n₂) :
    Alike (Along e₁ e₂ u Eq) (s₁.takeWhile accepts n₁) (s₂.takeWhile accepts n₂) := by
  induction u generalizing s₁ s₂ n₁ n₂ with
  | nil =>
      have hstop {e : Setting} {s : Source} (hs : s.Ends e []) (n : Nat) :
          s.takeWhile accepts n = .ok ([], s) := by
        cases n with
        | zero => rfl
        | succ n =>
            rw [takeWhile, hs.tokens, List.nil_append]
            split
            · next c rest htokens =>
              rcases e.closed (.plain c) (by rw [htokens]; rfl) with hc | hc
              · obtain rfl := Token.plain.inj hc
                rw [hclosing]
                rfl
              · obtain rfl := Token.plain.inj hc
                rw [hdollar]
                rfl
            · rfl
      rw [hstop hs₁, hstop hs₂]
      exact .ok (along_of_ends hs₁ hs₂ rfl)
  | cons t rest ih =>
      cases n₁ with
      | zero =>
          cases n₂ with
          | zero => exact .ok (along_of_ends hs₁ hs₂ rfl)
          | succ n₂ => simp at hn
      | succ n₁ =>
          cases n₂ with
          | zero => simp at hn
          | succ n₂ =>
              rw [takeWhile, takeWhile, hs₁.tokens, hs₂.tokens, List.cons_append,
                List.cons_append]
              cases t with
              | escaped c => exact .ok (along_of_ends hs₁ hs₂ rfl)
              | plain c =>
                  apply Alike.ite
                  · intro _
                    have hadvance : Alike (fun a b => a.Ends e₁ rest ∧ b.Ends e₂ rest)
                        s₁.advance s₂.advance :=
                      .of_isMild s₂.isMild_advance
                        fun a b ha hb => ⟨hs₁.advance ha, hs₂.advance hb⟩
                    refine hadvance.bind fun a b ⟨ha, hb⟩ => ?_
                    refine (ih ha hb n₁ n₂ (by simpa using hn)).bind ?_
                    rintro ⟨text, a⟩ ⟨_, b⟩ ⟨rfl, hab⟩
                    exact .pure ⟨rfl, hab.mono (List.suffix_cons _ rest)⟩
                  · intro _
                    exact .ok (along_of_ends hs₁ hs₂ rfl)

end

/-- Two readers that take the same token and go on alike. -/
theorem alike_take_cons {A B : Type} {R : A → B → Prop} {t : Token}
    {f : Option Token × Source → Except Error A} {g : Option Token × Source → Except Error B}
    (hs₁ : s₁.Ends e₁ (t :: u)) (hs₂ : s₂.Ends e₂ (t :: u))
    (h : ∀ s₁ s₂, s₁.Ends e₁ u → s₂.Ends e₂ u → Alike R (f (some t, s₁)) (g (some t, s₂))) :
    Alike R (s₁.take >>= f) (s₂.take >>= g) := by
  have htake : Alike (fun a b => a.1 = some t ∧ b.1 = some t ∧ a.2.Ends e₁ u ∧ b.2.Ends e₂ u)
      s₁.take s₂.take := by
    apply Alike.of_isMild s₂.isMild_take
    rintro ⟨t₁, s₁'⟩ ⟨t₂, s₂'⟩ h₁ h₂
    obtain ⟨ht₁, hs₁'⟩ := hs₁.take h₁
    obtain ⟨ht₂, hs₂'⟩ := hs₂.take h₂
    exact ⟨ht₁, ht₂, hs₁', hs₂'⟩
  refine htake.bind ?_
  rintro ⟨_, s₁'⟩ ⟨_, s₂'⟩ ⟨rfl, rfl, hs₁', hs₂'⟩
  exact h s₁' s₂' hs₁' hs₂'

/-- Two readers that take a token and go on alike. What is left of a source
that is over is not enough for the first of them. -/
theorem alike_take {A B : Type} {R : A → B → Prop} (hs₁ : s₁.Ends e₁ u) (hs₂ : s₂.Ends e₂ u)
    (hover : e₁.IsOver)
    {f : Option Token × Source → Except Error A} {g : Option Token × Source → Except Error B}
    (h : ∀ t rest s₁ s₂, u = t :: rest → s₁.Ends e₁ rest → s₂.Ends e₂ rest →
      Alike R (f (some t, s₁)) (g (some t, s₂)))
    (hnone : ∀ s, Fails (f (none, s)))
    (hdollar : ∀ s, s.tokens = [] → Fails (f (some (.plain '$'), s))) :
    Alike R (s₁.take >>= f) (s₂.take >>= g) := by
  cases u with
  | cons t rest =>
      exact alike_take_cons hs₁ hs₂ fun s₁' s₂' hs₁' hs₂' => h t rest s₁' s₂' rfl hs₁' hs₂'
  | nil =>
      refine Fails.alike (fails_bind ?_) R _
      rintro ⟨t?, s⟩ htake
      rcases hs₁.take_over hover htake with rfl | ⟨rfl, hs⟩
      · exact hnone s
      · exact hdollar s hs

/-- Nothing but an error comes of taking tokens up to a character that is not
ahead. -/
theorem fails_takeUntil_of_nil (closer : Char) (kind taken : Text) (n : Nat)
    (hs : s.tokens = []) : Fails (s.takeUntil closer kind taken n) := by
  cases n with
  | zero => exact fails_error _
  | succ n =>
      rw [takeUntil]
      refine fails_bind fun a ha => ?_
      rw [take_of_nil hs] at ha
      obtain rfl := Except.ok.inj ha
      exact fails_ite _ (fun _ => fails_error _) fun _ => fails_error _

theorem alike_takeUntil (hover : e₁.IsOver) (closer : Char) (hcloser : closer ≠ '$')
    (kind taken : Text) (n₁ n₂ : Nat) (hs₁ : s₁.Ends e₁ u) (hs₂ : s₂.Ends e₂ u) :
    Alike (Along e₁ e₂ u Eq) (s₁.takeUntil closer kind taken n₁)
      (s₂.takeUntil closer kind taken n₂) := by
  induction n₁ generalizing s₁ s₂ u taken n₂ with
  | zero => exact Alike.error_left _
  | succ n₁ ih =>
      cases n₂ with
      | zero => exact Alike.error_right _ _
      | succ n₂ =>
          rw [takeUntil, takeUntil]
          refine alike_take hs₁ hs₂ hover ?_ ?_ ?_
          · rintro t rest s₁ s₂ rfl hs₁ hs₂
            apply Alike.ite
            · intro _
              apply Alike.ite
              · intro _
                exact Alike.error_left _
              · intro _
                exact .pure ⟨rfl, rest, List.suffix_cons t rest, hs₁, hs₂⟩
            · intro _
              exact (ih (taken ++ t.text) n₂ hs₁ hs₂).mono
                fun a b hab => hab.mono (List.suffix_cons t rest)
          · intro s
            exact fails_ite _ (fun _ => fails_error _) fun _ => fails_error _
          · intro s hs
            refine fails_ite _ (fun hclosed => ?_) fun _ =>
              fails_takeUntil_of_nil closer kind _ n₁ hs
            refine absurd ?_ hcloser
            have hvalue : ('$' : CodePoint) = (closer : CodePoint) := by
              simpa [Token.isPlain] using hclosed
            exact Char.ext (UInt32.toNat_inj.mp (congrArg CodePoint.value hvalue).symm)

theorem alike_name (hover : e₁.IsOver) (closer : Char) (hcloser : closer ≠ '$') (kind : Text)
    (hs₁ : s₁.Ends e₁ u) (hs₂ : s₂.Ends e₂ u) :
    Alike (Along e₁ e₂ u Eq) (s₁.name closer kind) (s₂.name closer kind) :=
  alike_takeUntil hover closer hcloser kind [] _ _ hs₁ hs₂

theorem alike_groupName (hover : e₁.IsOver) (closer : Char) (hcloser : closer ≠ '$')
    (hs₁ : s₁.Ends e₁ u) (hs₂ : s₂.Ends e₂ u) :
    Alike (Along e₁ e₂ u Eq) (s₁.groupName closer) (s₂.groupName closer) := by
  refine (alike_name hover closer hcloser "group name" hs₁ hs₂).bind ?_
  rintro ⟨name, s₁'⟩ ⟨_, s₂'⟩ ⟨rfl, hbeneath⟩
  apply Alike.ite
  · intro _
    exact .pure ⟨rfl, hbeneath⟩
  · intro _
    exact Alike.error_left _

end Source

end KeyNaming.Regex
