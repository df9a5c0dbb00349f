import KeyNaming.Regex.Reader
import KeyNaming.Proofs.Regex.Source
import KeyNaming.Proofs.Regex.Spelling

/-!
Escapes, sets, flags and counts are read alike whatever stands after them.

What is known of the groups decides only whether a reference is allowed and
which group it means.
-/

namespace KeyNaming.Regex

open Source (Along Beneath along_of_ends alike_accept alike_takeWhile alike_take)

variable {e₁ e₂ : Setting} {u : List Token} {s₁ s₂ : Source}

theorem fails_fault {A : Type} (s : Source) (cause : Cause) (back : Nat) :
    Fails (s.fault cause back : Except Error A) :=
  fails_error _

/-! ## Escapes -/

theorem alike_octal (digits : Text) (s₁ s₂ : Source) :
    Alike Eq (octal digits s₁) (octal digits s₂) := by
  rw [octal, octal]
  cases CodePoint.ofNat? (Text.valueOf 8 digits) with
  | none => exact Alike.error_left _
  | some c => exact Alike.ite _ (fun _ => .ok rfl) fun _ => Alike.error_left _

section

variable (hs₁ : s₁.Ends e₁ u) (hs₂ : s₂.Ends e₂ u)
include hs₁ hs₂

theorem alike_readHex (letter : CodePoint) (width : Nat) :
    Alike (Along e₁ e₂ u Eq) (readHex letter width s₁) (readHex letter width s₂) := by
  refine (alike_takeWhile hs₁ hs₂ isHexDigit rfl rfl width width (.inl rfl)).bind ?_
  rintro ⟨digits, s₁'⟩ ⟨_, s₂'⟩ ⟨rfl, hbeneath⟩
  apply Alike.ite
  · intro _
    exact Alike.error_left _
  · intro _
    dsimp only
    cases CodePoint.ofNat? (Text.valueOf 16 digits) with
    | some c => exact .pure ⟨rfl, hbeneath⟩
    | none => exact Alike.ite _ (fun _ => Alike.error_left _) fun _ => Alike.error_left _

theorem alike_readNamed (hover : e₁.IsOver) :
    Alike (Along e₁ e₂ u Eq) (readNamed s₁) (readNamed s₂) := by
  refine (alike_accept hs₁ hs₂ '\x7b' (by decide) (by decide)).bind ?_
  rintro ⟨opened, s₁'⟩ ⟨_, s₂'⟩ ⟨rfl, v, hv, hs₁', hs₂'⟩
  refine Alike.ite _ (fun _ => Alike.error_left _) fun _ => ?_
  refine (Source.alike_name hover '\x7d' (by decide) "character name" hs₁' hs₂').bind ?_
  rintro ⟨name, s₁''⟩ ⟨_, s₂''⟩ ⟨rfl, hbeneath⟩
  refine Alike.ite _ (fun _ => Alike.error_left _) fun _ => ?_
  dsimp only
  cases CodePoint.ofName? name with
  | some c => exact .pure ⟨rfl, hbeneath.mono hv⟩
  | none => exact Alike.error_left _

theorem alike_readSetEscape (hover : e₁.IsOver) (c : CodePoint) :
    Alike (Along e₁ e₂ u Eq) (readSetEscape c s₁) (readSetEscape c s₂) := by
  rw [readSetEscape, readSetEscape]
  cases controlEscape? c with
  | some d => exact .pure (along_of_ends hs₁ hs₂ rfl)
  | none =>
      cases classEscape? c with
      | some m => exact .pure (along_of_ends hs₁ hs₂ rfl)
      | none =>
          cases hexWidth? c with
          | some width =>
              refine (alike_readHex hs₁ hs₂ c width).bind ?_
              rintro ⟨d, s₁'⟩ ⟨_, s₂'⟩ ⟨rfl, hbeneath⟩
              exact .pure ⟨rfl, hbeneath⟩
          | none =>
              refine Alike.ite _ (fun _ => ?_) fun _ => Alike.ite _ (fun _ => ?_) fun _ => ?_
              · refine (alike_readNamed hs₁ hs₂ hover).bind ?_
                rintro ⟨d, s₁'⟩ ⟨_, s₂'⟩ ⟨rfl, hbeneath⟩
                exact .pure ⟨rfl, hbeneath⟩
              · refine (alike_takeWhile hs₁ hs₂ isOctalDigit rfl rfl 2 2 (.inl rfl)).bind ?_
                rintro ⟨digits, s₁'⟩ ⟨_, s₂'⟩ ⟨rfl, hbeneath⟩
                refine (alike_octal (c :: digits) s₁' s₂').bind ?_
                rintro d _ rfl
                exact .pure ⟨rfl, hbeneath⟩
              · exact Alike.ite _ (fun _ => Alike.error_left _)
                  fun _ => .pure (along_of_ends hs₁ hs₂ rfl)

omit hs₁ hs₂ in
theorem isMild_checkLookBehind (g : Groups) (i : Nat) (s : Source) :
    IsMild (g.checkLookBehind i s) := by
  rw [Groups.checkLookBehind]
  split
  · trivial
  · exact IsMild.ite _ rfl (IsMild.ite _ rfl trivial)

theorem alike_readReference (digits : Text) (g₁ g₂ : Groups) :
    Alike (Along e₁ e₂ u Eq) (readReference digits g₁ s₁)
      (readReference digits g₂ s₂) := by
  have hmild : IsMild (readReference digits g₂ s₂) :=
    IsMild.ite _ (IsMild.ite _ rfl ((isMild_checkLookBehind _ _ _).bind fun _ => trivial)) rfl
  apply Alike.of_isMild hmild
  intro a b ha hb
  have hreference {g : Groups} {s : Source} {a : Atom × Source}
      (h : readReference digits g s = .ok a) : a = (.reference (Text.valueOf 10 digits), s) := by
    simp only [readReference, bind, Except.bind, pure, Except.pure] at h
    split at h
    · split at h
      · cases h
      · split at h
        · cases h
        · exact (Except.ok.inj h).symm
    · cases h
  rw [hreference ha, hreference hb]
  exact along_of_ends hs₁ hs₂ rfl

theorem alike_readDigits (c : CodePoint) (g₁ g₂ : Groups) :
    Alike (Along e₁ e₂ u Eq) (readDigits c g₁ s₁) (readDigits c g₂ s₂) := by
  rw [readDigits, readDigits]
  refine Alike.ite _ (fun _ => ?_) fun _ => ?_
  · refine (alike_takeWhile hs₁ hs₂ isOctalDigit rfl rfl 2 2 (.inl rfl)).bind ?_
    rintro ⟨digits, s₁'⟩ ⟨_, s₂'⟩ ⟨rfl, hbeneath⟩
    refine (alike_octal (c :: digits) s₁' s₂').bind ?_
    rintro d _ rfl
    exact .pure ⟨rfl, hbeneath⟩
  · refine (alike_takeWhile hs₁ hs₂ CodePoint.isAsciiDigit rfl rfl 1 1 (.inl rfl)).bind ?_
    rintro ⟨second, s₁'⟩ ⟨_, s₂'⟩ ⟨rfl, v, hv, hs₁', hs₂'⟩
    have hreference : Alike (Along e₁ e₂ u Eq) (readReference (c :: second) g₁ s₁')
        (readReference (c :: second) g₂ s₂') :=
      (alike_readReference hs₁' hs₂' (c :: second) g₁ g₂).mono fun a b hab => hab.mono hv
    refine Alike.ite _ (fun _ => ?_) fun _ => hreference
    refine (alike_takeWhile hs₁' hs₂' isOctalDigit rfl rfl 1 1 (.inl rfl)).bind ?_
    rintro ⟨third, s₁''⟩ ⟨_, s₂''⟩ ⟨rfl, hbeneath⟩
    refine Alike.ite _ (fun _ => ?_) fun _ => hreference
    refine (alike_octal (c :: second ++ third) s₁'' s₂'').bind ?_
    rintro d _ rfl
    exact .pure ⟨rfl, hbeneath.mono hv⟩

theorem alike_readEscape (hover : e₁.IsOver) (c : CodePoint) (g₁ g₂ : Groups) :
    Alike (Along e₁ e₂ u Eq) (readEscape c g₁ s₁) (readEscape c g₂ s₂) := by
  have hsame (a : Atom) : Along e₁ e₂ u Eq (a, s₁) (a, s₂) :=
    along_of_ends hs₁ hs₂ rfl
  rw [readEscape, readEscape]
  cases anchorEscape? c with
  | some a => exact .pure (hsame _)
  | none =>
      cases classEscape? c with
      | some m => exact .pure (hsame _)
      | none =>
          cases controlEscape? c with
          | some d => exact .pure (hsame _)
          | none =>
              cases hexWidth? c with
              | some width =>
                  refine (alike_readHex hs₁ hs₂ c width).bind ?_
                  rintro ⟨d, s₁'⟩ ⟨_, s₂'⟩ ⟨rfl, hbeneath⟩
                  exact .pure ⟨rfl, hbeneath⟩
              | none =>
                  refine Alike.ite _ (fun _ => ?_) fun _ =>
                    Alike.ite _ (fun _ => alike_readDigits hs₁ hs₂ c g₁ g₂) fun _ => ?_
                  · refine (alike_readNamed hs₁ hs₂ hover).bind ?_
                    rintro ⟨d, s₁'⟩ ⟨_, s₂'⟩ ⟨rfl, hbeneath⟩
                    exact .pure ⟨rfl, hbeneath⟩
                  · exact Alike.ite _ (fun _ => Alike.error_left _) fun _ => .pure (hsame _)

end

/-! ## Sets -/

theorem alike_readMember (hover : e₁.IsOver) (t : Token) (hs₁ : s₁.Ends e₁ u)
    (hs₂ : s₂.Ends e₂ u) :
    Alike (Along e₁ e₂ u Eq) (readMember t s₁) (readMember t s₂) := by
  cases t with
  | plain c => exact .ok (along_of_ends hs₁ hs₂ rfl)
  | escaped c => exact alike_readSetEscape hs₁ hs₂ hover c

theorem fails_readMembers_of_nil (start : Nat) (members : List Member) (n : Nat) {s : Source}
    (hs : s.tokens = []) : Fails (readMembers start members n s) := by
  cases n with
  | zero => exact fails_error _
  | succ n =>
      rw [readMembers]
      refine fails_bind fun a ha => ?_
      rw [Source.take_of_nil hs] at ha
      obtain rfl := Except.ok.inj ha
      exact fails_error _

theorem alike_readMembers (hover : e₁.IsOver) (start₁ start₂ : Nat) (members : List Member)
    (n₁ n₂ : Nat) (hs₁ : s₁.Ends e₁ u) (hs₂ : s₂.Ends e₂ u) :
    Alike (Along e₁ e₂ u Eq) (readMembers start₁ members n₁ s₁)
      (readMembers start₂ members n₂ s₂) := by
  induction n₁ generalizing s₁ s₂ u members n₂ with
  | zero => exact Alike.error_left _
  | succ n₁ ih =>
      cases n₂ with
      | zero => exact Alike.error_right _ _
      | succ n₂ =>
          rw [readMembers, readMembers]
          refine alike_take hs₁ hs₂ hover ?_ (fun s => fails_error _) ?_
          · rintro t rest s₁ s₂ rfl hs₁ hs₂
            have hrest := List.suffix_cons t rest
            refine Alike.ite _ (fun _ => .pure ⟨rfl, rest, hrest, hs₁, hs₂⟩) fun _ => ?_
            refine (alike_readMember hover t hs₁ hs₂).bind ?_
            rintro ⟨member, s₁⟩ ⟨_, s₂⟩ ⟨rfl, v, hv, hs₁, hs₂⟩
            refine (alike_accept hs₁ hs₂ '-' (by decide) (by decide)).bind ?_
            rintro ⟨dash, s₁⟩ ⟨_, s₂⟩ ⟨rfl, w, hw, hs₁, hs₂⟩
            have hw := (hw.trans hv).trans hrest
            refine Alike.ite _ (fun _ => ?_) fun _ => ?_
            · exact (ih (members ++ [member]) n₂ hs₁ hs₂).mono fun a b hab => hab.mono hw
            · refine alike_take hs₁ hs₂ hover ?_ (fun s => fails_error _) ?_
              · rintro last rest' s₁ s₂ rfl hs₁ hs₂
                have hrest' := (List.suffix_cons last rest').trans hw
                refine Alike.ite _ (fun _ => .pure ⟨rfl, rest', hrest', hs₁, hs₂⟩) fun _ => ?_
                refine (alike_readMember hover last hs₁ hs₂).bind ?_
                rintro ⟨lastMember, s₁⟩ ⟨_, s₂⟩ ⟨rfl, x, hx, hs₁, hs₂⟩
                dsimp only
                cases rangeOf? member lastMember with
                | none => exact Alike.error_left _
                | some range =>
                    exact (ih (members ++ [range]) n₂ hs₁ hs₂).mono
                      fun a b hab => hab.mono (hx.trans hrest')
              · intro s hs
                dsimp only [readMember]
                refine fails_ite _ (fun h => nomatch h) fun _ => fails_bind fun a ha => ?_
                obtain rfl := Except.ok.inj ha
                dsimp only
                cases rangeOf? member (.single '$') with
                | none => exact fails_fault _ _ _
                | some range => exact fails_readMembers_of_nil _ _ n₁ hs
          · intro s hs
            dsimp only [readMember]
            refine fails_ite _ (fun h => nomatch h) fun _ => fails_bind fun a ha => ?_
            obtain rfl := Except.ok.inj ha
            refine fails_bind ?_
            rintro ⟨dash, s'⟩ haccept
            simp only [Source.accept, Source.nextIs, Source.next?, hs, List.head?_nil,
              Option.any_none, Bool.false_eq_true, if_false] at haccept
            obtain ⟨rfl, rfl⟩ := Prod.mk.inj (Except.ok.inj haccept)
            exact fails_readMembers_of_nil _ _ n₁ hs

theorem isReference_setOf (negated : Bool) (members : List Member) :
    (setOf negated members).isReference = false := by
  unfold setOf
  split <;> rfl

theorem alike_readSet (hover : e₁.IsOver) (start₁ start₂ : Nat) (hs₁ : s₁.Ends e₁ u)
    (hs₂ : s₂.Ends e₂ u) :
    Alike (Along e₁ e₂ u fun a b => a = b ∧ a.isReference = false) (readSet start₁ s₁)
      (readSet start₂ s₂) := by
  refine (alike_accept hs₁ hs₂ '^' (by decide) (by decide)).bind ?_
  rintro ⟨negated, s₁⟩ ⟨_, s₂⟩ ⟨rfl, v, hv, hs₁, hs₂⟩
  refine (alike_readMembers hover start₁ start₂ [] _ _ hs₁ hs₂).bind ?_
  rintro ⟨members, s₁⟩ ⟨_, s₂⟩ ⟨rfl, hbeneath⟩
  exact .pure ⟨⟨rfl, isReference_setOf negated members⟩, hbeneath.mono hv⟩

/-! ## Flags -/

/-- Whether two readers took the same flags and ended with the same token. -/
def SameFlags (e₁ e₂ : Setting) (u : List Token) (a b : Flags × Token × Source) : Prop :=
  a.1 = b.1 ∧ a.2.1 = b.2.1 ∧ Beneath e₁ e₂ u a.2.2 b.2.2

theorem alike_readAdded (hover : e₁.IsOver) (added : Flags) (letter : Token) (flag : Flags)
    (n₁ n₂ : Nat) (hs₁ : s₁.Ends e₁ u) (hs₂ : s₂.Ends e₂ u) :
    Alike (SameFlags e₁ e₂ u) (readAdded added letter flag n₁ s₁)
      (readAdded added letter flag n₂ s₂) := by
  induction n₁ generalizing s₁ s₂ u added letter flag n₂ with
  | zero => exact Alike.error_left _
  | succ n₁ ih =>
      cases n₂ with
      | zero => exact Alike.error_right _ _
      | succ n₂ =>
          rw [readAdded, readAdded]
          refine Alike.ite _ (fun _ => Alike.error_left _) fun _ => ?_
          refine Alike.ite _ (fun _ => Alike.error_left _) fun _ => ?_
          refine alike_take hs₁ hs₂ hover ?_ (fun s => fails_error _) fun s hs => ?_
          · rintro t rest s₁ s₂ rfl hs₁ hs₂
            have hrest := List.suffix_cons t rest
            refine Alike.ite _ (fun _ => .pure ⟨rfl, rfl, rest, hrest, hs₁, hs₂⟩) fun _ => ?_
            cases flag? t with
            | none => exact Alike.error_left _
            | some next =>
                exact (ih (added.union flag) t next n₂ hs₁ hs₂).mono
                  fun a b hab => ⟨hab.1, hab.2.1, hab.2.2.mono hrest⟩
          · exact fails_ite _ (fun h => nomatch h) fun _ => fails_fault _ _ _

theorem alike_readRemoved (hover : e₁.IsOver) (removed : Flags) (letter : Token) (flag : Flags)
    (n₁ n₂ : Nat) (hs₁ : s₁.Ends e₁ u) (hs₂ : s₂.Ends e₂ u) :
    Alike (Along e₁ e₂ u Eq) (readRemoved removed letter flag n₁ s₁)
      (readRemoved removed letter flag n₂ s₂) := by
  induction n₁ generalizing s₁ s₂ u removed letter flag n₂ with
  | zero => exact Alike.error_left _
  | succ n₁ ih =>
      cases n₂ with
      | zero => exact Alike.error_right _ _
      | succ n₂ =>
          rw [readRemoved, readRemoved]
          refine Alike.ite _ (fun _ => Alike.error_left _) fun _ => ?_
          refine alike_take hs₁ hs₂ hover ?_ (fun s => fails_error _) fun s hs => ?_
          · rintro t rest s₁ s₂ rfl hs₁ hs₂
            have hrest := List.suffix_cons t rest
            refine Alike.ite _ (fun _ => .pure ⟨rfl, rest, hrest, hs₁, hs₂⟩) fun _ => ?_
            cases flag? t with
            | none => exact Alike.error_left _
            | some next =>
                exact (ih (removed.union flag) t next n₂ hs₁ hs₂).mono
                  fun a b hab => hab.mono hrest
          · exact fails_ite _ (fun h => nomatch h) fun _ => fails_fault _ _ _

theorem alike_readRemovals (hover : e₁.IsOver) (hs₁ : s₁.Ends e₁ u) (hs₂ : s₂.Ends e₂ u) :
    Alike (Along e₁ e₂ u Eq) (readRemovals s₁) (readRemovals s₂) := by
  refine alike_take hs₁ hs₂ hover ?_ (fun s => fails_error _) fun s hs => fails_fault _ _ _
  rintro t rest s₁ s₂ rfl hs₁ hs₂
  dsimp only
  cases flag? t with
  | none => exact Alike.error_left _
  | some flag =>
      exact (alike_readRemoved hover {} t flag _ _ hs₁ hs₂).mono
        fun a b hab => hab.mono (List.suffix_cons t rest)

theorem alike_groupFlags (added removed : Flags) (hs : Beneath e₁ e₂ u s₁ s₂) :
    Alike (Along e₁ e₂ u Eq) (groupFlags added removed s₁) (groupFlags added removed s₂) := by
  refine Alike.ite _ (fun _ => Alike.error_left _) fun _ => ?_
  exact Alike.ite _ (fun _ => Alike.error_left _) fun _ => .pure ⟨rfl, hs⟩

theorem alike_readFlags (hover : e₁.IsOver) (first : Token) (hs₁ : s₁.Ends e₁ u)
    (hs₂ : s₂.Ends e₂ u) :
    Alike (Along e₁ e₂ u Eq) (readFlags first s₁) (readFlags first s₂) := by
  have hremovals (added : Flags) {v : List Token} {s₁ s₂ : Source} (hv : v <:+ u)
      (hs₁ : s₁.Ends e₁ v) (hs₂ : s₂.Ends e₂ v) :
      Alike (Along e₁ e₂ u Eq) (readRemovals s₁ >>= fun r => groupFlags added r.1 r.2)
        (readRemovals s₂ >>= fun r => groupFlags added r.1 r.2) := by
    refine (alike_readRemovals hover hs₁ hs₂).bind ?_
    rintro ⟨removed, s₁⟩ ⟨_, s₂⟩ ⟨rfl, hbeneath⟩
    exact alike_groupFlags added removed (hbeneath.mono hv)
  rw [readFlags, readFlags]
  cases flag? first with
  | none => exact hremovals {} (List.suffix_refl u) hs₁ hs₂
  | some flag =>
      refine (alike_readAdded hover {} first flag _ _ hs₁ hs₂).bind ?_
      rintro ⟨added, ender, s₁⟩ ⟨_, _, s₂⟩ ⟨rfl, rfl, v, hv, hs₁, hs₂⟩
      have hbeneath : Beneath e₁ e₂ u s₁ s₂ := ⟨v, hv, hs₁, hs₂⟩
      refine Alike.ite _ (fun _ => .pure ⟨rfl, hbeneath⟩) fun _ => ?_
      refine Alike.ite _ (fun _ => Alike.error_left _) fun _ => ?_
      refine Alike.ite _ (fun _ => alike_groupFlags added {} hbeneath) fun _ => ?_
      exact hremovals added hv hs₁ hs₂

/-! ## Counts and comments -/

/-- Whether two readers found the same counts or none. -/
def SameCounts (e₁ e₂ : Setting) (u : List Token) :
    Option (Nat × Option Nat × Source) → Option (Nat × Option Nat × Source) → Prop
  | none, none => True
  | some (min₁, max₁, s₁), some (min₂, max₂, s₂) =>
    min₁ = min₂ ∧ max₁ = max₂ ∧ Beneath e₁ e₂ u s₁ s₂
  | _, _ => False

theorem alike_readCounts? (hs₁ : s₁.Ends e₁ u) (hs₂ : s₂.Ends e₂ u) :
    Alike (SameCounts e₁ e₂ u) (readCounts? s₁) (readCounts? s₂) := by
  have hdigits {v : List Token} {s₁ s₂ : Source} (hs₁ : s₁.Ends e₁ v) (hs₂ : s₂.Ends e₂ v) :
      Alike (Along e₁ e₂ v Eq) (s₁.takeWhile CodePoint.isAsciiDigit s₁.tokens.length)
        (s₂.takeWhile CodePoint.isAsciiDigit s₂.tokens.length) := by
    apply alike_takeWhile hs₁ hs₂ CodePoint.isAsciiDigit rfl rfl
    right
    rw [hs₁.tokens, hs₂.tokens, List.length_append, List.length_append]
    exact ⟨Nat.le_add_right _ _, Nat.le_add_right _ _⟩
  rw [readCounts?, readCounts?, hs₁.nextIs (by decide) (by decide),
    hs₂.nextIs (by decide) (by decide)]
  refine Alike.ite _ (fun _ => .pure trivial) fun _ => ?_
  refine (hdigits hs₁ hs₂).bind ?_
  rintro ⟨low, s₁⟩ ⟨_, s₂⟩ ⟨rfl, v, hv, hs₁, hs₂⟩
  refine (alike_accept hs₁ hs₂ ',' (by decide) (by decide)).bind ?_
  rintro ⟨comma, s₁⟩ ⟨_, s₂⟩ ⟨rfl, w, hw, hs₁, hs₂⟩
  have hw := hw.trans hv
  dsimp only
  refine Alike.ite_bind (R := Along e₁ e₂ w Eq) _ ?_ ?_
  · exact Alike.ite _ (fun _ => hdigits hs₁ hs₂) fun _ => .pure (along_of_ends hs₁ hs₂ rfl)
  rintro ⟨high, s₁⟩ ⟨_, s₂⟩ ⟨rfl, x, hx, hs₁, hs₂⟩
  refine (alike_accept hs₁ hs₂ '\x7d' (by decide) (by decide)).bind ?_
  rintro ⟨found, s₁⟩ ⟨_, s₂⟩ ⟨rfl, hbeneath⟩
  have hbeneath := hbeneath.mono (hx.trans hw)
  refine Alike.ite _ (fun _ => .pure trivial) fun _ => ?_
  dsimp only
  refine Alike.ite_bind (R := Eq) _ ?_ ?_
  · exact Alike.ite _ (fun _ => .pure rfl) fun _ => .same
  rintro min _ rfl
  refine Alike.ite _ (fun _ => .pure ⟨rfl, rfl, hbeneath⟩) fun _ => ?_
  refine (Alike.same (x := countOf high)).bind ?_
  rintro max _ rfl
  exact Alike.ite _ (fun _ => Alike.error_left _) fun _ => .pure ⟨rfl, rfl, hbeneath⟩

/-- Whether two comments end at the same token, or the first does not end. -/
def SameComment (e₁ e₂ : Setting) (u : List Token) : Option Source → Option Source → Prop
  | none, _ => True
  | some s₁, some s₂ => Beneath e₁ e₂ u s₁ s₂
  | some _, none => False

theorem skipPast_of_nil (closer : Char) (n : Nat) {s : Source} (hs : s.tokens = []) :
    s.skipPast closer n = .ok none := by
  cases n with
  | zero => rfl
  | succ n =>
      rw [Source.skipPast, Source.take_of_nil hs]
      rfl

theorem isMild_skipPast (closer : Char) (n : Nat) (s : Source) : IsMild (s.skipPast closer n) := by
  induction n generalizing s with
  | zero => trivial
  | succ n ih =>
      rw [Source.skipPast]
      refine s.isMild_take.bind ?_
      rintro ⟨_ | t, rest⟩
      · trivial
      · exact IsMild.ite _ trivial (ih rest)

theorem eq_none_of_skipPast_over (hover : e₁.IsOver) (closer : Char) (hcloser : closer ≠ '$')
    (n : Nat) (hs : s₁.Ends e₁ []) {a : Option Source} (h : s₁.skipPast closer n = .ok a) :
    a = none := by
  cases n with
  | zero => exact (Except.ok.inj h).symm
  | succ n =>
      rw [Source.skipPast] at h
      cases htake : s₁.take with
      | error e =>
          rw [htake] at h
          cases h
      | ok r =>
          rw [htake] at h
          rcases hs.take_over hover htake with hnone | ⟨hdollar, hrest⟩
          · obtain ⟨t?, rest⟩ := r
            obtain rfl : t? = none := hnone
            exact (Except.ok.inj h).symm
          · obtain ⟨t?, rest⟩ := r
            obtain rfl : t? = some (.plain '$') := hdollar
            have hvalue : (Token.plain '$').isPlain closer = false := by
              have hne : ('$' : CodePoint) ≠ (closer : CodePoint) := fun heq => hcloser
                (Char.ext (UInt32.toNat_inj.mp (congrArg CodePoint.value heq).symm))
              simpa [Token.isPlain] using hne
            change (if (Token.plain '$').isPlain closer then _ else rest.skipPast closer n) = _ at h
            rw [hvalue, if_neg Bool.false_ne_true, skipPast_of_nil closer n hrest] at h
            exact (Except.ok.inj h).symm

theorem alike_skipPast (hover : e₁.IsOver) (closer : Char) (hcloser : closer ≠ '$') (n₁ n₂ : Nat)
    (hn : u.length < n₂) (hs₁ : s₁.Ends e₁ u) (hs₂ : s₂.Ends e₂ u) :
    Alike (SameComment e₁ e₂ u) (s₁.skipPast closer n₁) (s₂.skipPast closer n₂) := by
  induction u generalizing s₁ s₂ n₁ n₂ with
  | nil =>
      apply Alike.of_isMild (isMild_skipPast _ _ _)
      intro a b ha _
      rw [eq_none_of_skipPast_over hover closer hcloser n₁ hs₁ ha]
      trivial
  | cons t rest ih =>
      cases n₁ with
      | zero =>
          apply Alike.of_isMild (isMild_skipPast _ _ _)
          intro a b ha _
          obtain rfl := Except.ok.inj ha
          trivial
      | succ n₁ =>
          cases n₂ with
          | zero => simp at hn
          | succ n₂ =>
              rw [Source.skipPast, Source.skipPast]
              refine Source.alike_take_cons hs₁ hs₂ fun s₁ s₂ hs₁ hs₂ => ?_
              have hrest := List.suffix_cons t rest
              refine Alike.ite _ (fun _ => .pure ⟨rest, hrest, hs₁, hs₂⟩) fun _ => ?_
              refine (ih n₁ n₂ (by simpa using hn) hs₁ hs₂).mono ?_
              rintro (_ | a) (_ | b) hab
              · trivial
              · trivial
              · exact hab.elim
              · exact hab.mono hrest

/-- A comment that runs to the end leaves no backslash behind. -/
theorem dangling_of_skipPast_none (closer : Char) (n : Nat) (hn : s₁.tokens.length < n)
    (hchecked : s₁.dangling = true → s₁.tokens ≠ []) (h : s₁.skipPast closer n = .ok none) :
    s₁.dangling = false := by
  induction n generalizing s₁ with
  | zero => simp at hn
  | succ n ih =>
      cases htokens : s₁.tokens with
      | nil =>
          cases hdangling : s₁.dangling with
          | false => rfl
          | true => exact absurd htokens (hchecked hdangling)
      | cons t rest =>
          have hs : s₁.Ends (.nothing s₁.dangling) (t :: rest) :=
            ⟨by rw [htokens]; simp [Setting.nothing], rfl, hchecked⟩
          rw [Source.skipPast] at h
          cases htake : s₁.take with
          | error e =>
              rw [htake] at h
              cases h
          | ok r =>
              rw [htake] at h
              obtain ⟨t?, s'⟩ := r
              obtain ⟨rfl, hs'⟩ := hs.take htake
              change (if t.isPlain closer then _ else s'.skipPast closer n) = _ at h
              split at h
              · cases h
              · have hlength : s'.tokens.length < n := by
                  rw [hs'.tokens]
                  rw [htokens] at hn
                  simpa [Setting.nothing] using hn
                exact hs'.dangling.symm.trans (ih hlength hs'.checked h)

end KeyNaming.Regex
