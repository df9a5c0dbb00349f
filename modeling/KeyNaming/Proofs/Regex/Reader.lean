import KeyNaming.Proofs.Regex.Lexemes

/-!
What a token does to the state of reading.

A token and what belongs to it do one of a few things: add a part, repeat the
last one, open or close a group, end an alternative, or set flags for the
whole. Which of them depends on the tokens and on whether blanks are skipped,
not on what was read before. That decides only which group a name or a number
stands for.
-/

namespace KeyNaming.Regex

/-- Whether an opener is one of a group that neither captures nor looks at what
was captured or stands before it. -/
def Opener.isSilent : Opener → Bool
  | .plain | .scoped _ _ | .atomic | .ahead _ => true
  | _ => false

/-- How a group is referred to. -/
inductive Target where
  | named (name : Text)
  | numbered (i : Nat)

/-- The number of the group that is referred to, if there is one. -/
def Target.group? (g : Groups) : Target → Option Nat
  | .named name => g.names.lookup name
  | .numbered i => some i

def Groups.named (g : Groups) (name : Text) : Groups :=
  { g.openGroup with names := g.names ++ [(name, g.next)] }

/-- The groups after one more was opened, with or without a name. -/
def Groups.opened (g : Groups) : Option Text → Groups
  | none => g.openGroup
  | some name => g.named name

@[simp] theorem Groups.widths_opened (g : Groups) (name? : Option Text) :
    (g.opened name?).widths = g.widths ++ [none] := by
  cases name? <;> rfl

/-- What a token does. -/
inductive Label where
  | nothing
  | atom (a : Atom)
  | reference (target : Target)
  | repetition (greed : Greed) (min : Nat) (max : Option Nat)
  | capture (name? : Option Text)
  | opening (opener : Opener) (verbose : Bool)
  | behind (negated : Bool)
  | condition (target : Target)
  | globalFlags
  | bar
  | closing

def Target.isNamed : Target → Bool
  | .named _ => true
  | .numbered _ => false

/-- Whether no group is referred to by its number. -/
def Label.isByName : Label → Bool
  | .reference target | .condition target => target.isNamed
  | _ => true

/-- The states before and after a token, by what the token does. -/
inductive Effect : Label → State → State → Prop where
  | nothing (st : State) : Effect .nothing st st
  | atom (st : State) (a : Atom) (ha : a.isReference = false) :
      Effect (.atom a) st (st.push (.node (.atom a)))
  | reference (st : State) (target : Target) {i : Nat} (hi : target.group? st.groups = some i) :
      Effect (.reference target) st (st.push (.node (.atom (.reference i))))
  | repetition (st : State) (greed : Greed) (min : Nat) (max : Option Nat) {item : Item}
      {items : List Item} (hitems : st.top.items = item :: items) :
      Effect (.repetition greed min max) st { st with top := { st.top with
        items := .node (.repeated greed min max (Node.seq item.nodes)) :: items } }
  | capture (st : State) (start : Nat) (name? : Option Text)
      (hnew : ∀ name ∈ name?, st.groups.names.lookup name = none) :
      Effect (.capture name?) st ({ st with groups := st.groups.opened name? }.openFrame
        (.capture st.groups.next) start st.top.verbose)
  | opening (st : State) (start : Nat) (opener : Opener) (verbose : Bool)
      (hsilent : opener.isSilent = true) :
      Effect (.opening opener verbose) st (st.openFrame opener start verbose)
  | behind (st : State) (start : Nat) (negated : Bool) :
      Effect (.behind negated) st (openLookBehind start negated st)
  | condition (st : State) (start : Nat) (target : Target) {i : Nat} (groups : Groups)
      (hi : target.group? st.groups = some i) (hwidths : groups.widths = st.groups.widths)
      (hnames : groups.names = st.groups.names) :
      Effect (.condition target) st
        ({ st with groups }.openFrame (.conditional i) start st.top.verbose)
  | globalFlags (st : State) (flags : Flags) (houter : st.outer = [])
      (hfresh : st.top.isFresh = true) :
      Effect .globalFlags st { st with flags, top := { st.top with verbose := flags.verbose } }
  | bar (st : State) : Effect .bar st { st with top := st.top.endAlternative }
  | closing (st : State) {parent : Frame} {outer : List Frame}
      (houter : st.outer = parent :: outer) :
      Effect .closing st { st with
        top := parent.push (State.close st.top st.groups).1, outer,
        groups := (State.close st.top st.groups).2 }

def Token.isEscaped : Token → Bool
  | .escaped _ => true
  | .plain _ => false

/-- Whether the last part that was read is a reference. -/
def Frame.endsInReference (f : Frame) : Bool :=
  match f.items with
  | .node (.atom a) :: _ => a.isReference
  | _ => false

/-- Whether a group was referred to by its number, in a condition or by the token
that was read last. -/
def State.hasNumber (t : Token) (st : State) : Bool :=
  !st.groups.mentioned.isEmpty || (t.isEscaped && st.top.endsInReference)

open Source (Along Beneath along_of_ends alike_accept alike_take)

/-- Whether two steps of reading do the same and leave the same tokens. Where a
group is referred to by its number, that shows in the state. -/
def Stepped (t : Token) (e₁ e₂ : Setting) (u : List Token) (st₁ st₂ : State)
    (a b : State × Source) : Prop :=
  ∃ ℓ : Label, Effect ℓ st₁ a.1 ∧ Effect ℓ st₂ b.1 ∧
    (ℓ.isByName = true ∨ a.1.hasNumber t = true) ∧ Beneath e₁ e₂ u a.2 b.2

variable {t : Token} {e₁ e₂ : Setting} {u v : List Token} {s₁ s₂ : Source} {st₁ st₂ : State}

theorem Stepped.mono {a b : State × Source} (hv : v <:+ u) (h : Stepped t e₁ e₂ v st₁ st₂ a b) :
    Stepped t e₁ e₂ u st₁ st₂ a b := by
  obtain ⟨ℓ, heffect₁, heffect₂, hnumber, hbeneath⟩ := h
  exact ⟨ℓ, heffect₁, heffect₂, hnumber, hbeneath.mono hv⟩

theorem stepped_atom {a : Atom} (ha : a.isReference = false) (h : Beneath e₁ e₂ u s₁ s₂) :
    Stepped t e₁ e₂ u st₁ st₂ (st₁.push (.node (.atom a)), s₁) (st₂.push (.node (.atom a)), s₂) :=
  ⟨.atom a, .atom st₁ a ha, .atom st₂ a ha, .inl rfl, h⟩

theorem stepped_nothing (h : Beneath e₁ e₂ u s₁ s₂) :
    Stepped t e₁ e₂ u st₁ st₂ (st₁, s₁) (st₂, s₂) :=
  ⟨.nothing, .nothing st₁, .nothing st₂, .inl rfl, h⟩

theorem stepped_opening (start₁ start₂ : Nat) (opener : Opener) (hsilent : opener.isSilent = true)
    {verbose₁ verbose₂ : Bool} (hverbose : verbose₁ = verbose₂) (h : Beneath e₁ e₂ u s₁ s₂) :
    Stepped t e₁ e₂ u st₁ st₂ (st₁.openFrame opener start₁ verbose₁, s₁)
      (st₂.openFrame opener start₂ verbose₂, s₂) := by
  subst hverbose
  exact ⟨.opening opener verbose₁, .opening st₁ start₁ opener verbose₁ hsilent,
    .opening st₂ start₂ opener verbose₁ hsilent, .inl rfl, h⟩

/-- A token that refers to a group by its number refers to that number in both
states. -/
theorem stepped_escape {c : CodePoint} (a : Atom) (h : Beneath e₁ e₂ u s₁ s₂) :
    Stepped (.escaped c) e₁ e₂ u st₁ st₂ (st₁.push (.node (.atom a)), s₁)
      (st₂.push (.node (.atom a)), s₂) := by
  cases hreference : a.isReference with
  | false => exact stepped_atom hreference h
  | true =>
      cases a with
      | reference i =>
          refine ⟨.reference (.numbered i), .reference st₁ (.numbered i) rfl,
            .reference st₂ (.numbered i) rfl, .inr ?_, h⟩
          rw [State.hasNumber, Bool.or_eq_true_iff]
          exact .inr rfl
      | _ => cases hreference

section

variable (hs₁ : s₁.Ends e₁ u) (hs₂ : s₂.Ends e₂ u)
include hs₁ hs₂

theorem alike_readRepetition (start₁ start₂ min : Nat) (max : Option Nat) :
    Alike (Stepped t e₁ e₂ u st₁ st₂) (readRepetition start₁ min max st₁ s₁)
      (readRepetition start₂ min max st₂ s₂) := by
  rw [readRepetition, readRepetition]
  split
  · exact Alike.error_left _
  · exact Alike.error_left _
  · exact Alike.error_left _
  · next item₁ items₁ _ _ hitems₁ =>
    split
    · exact Alike.error_right _ _
    · exact Alike.error_right _ _
    · exact Alike.error_right _ _
    · next item₂ items₂ _ _ hitems₂ =>
      refine (alike_accept hs₁ hs₂ '?' (by decide) (by decide)).bind ?_
      rintro ⟨lazily, s₁⟩ ⟨_, s₂⟩ ⟨rfl, v, hv, hs₁, hs₂⟩
      dsimp only
      refine Alike.ite_bind (R := Along e₁ e₂ v Eq) _ ?_ ?_
      · exact Alike.ite _ (fun _ => .pure (along_of_ends hs₁ hs₂ rfl))
          fun _ => alike_accept hs₁ hs₂ '+' (by decide) (by decide)
      rintro ⟨possessively, s₁⟩ ⟨_, s₂⟩ ⟨rfl, hbeneath⟩
      exact .pure ⟨.repetition _ min max, .repetition st₁ _ min max hitems₁,
        .repetition st₂ _ min max hitems₂, .inl rfl, hbeneath.mono hv⟩

end

theorem isMild_openNamed (g : Groups) (name : Text) (s : Source) : IsMild (g.openNamed name s) := by
  rw [Groups.openNamed]
  split
  · rfl
  · trivial

theorem isMild_conditionGroup (name : Text) (g : Groups) (s : Source) :
    IsMild (conditionGroup name g s) := by
  rw [conditionGroup]
  split
  · split
    · trivial
    · rfl
  · split
    · exact IsMild.ite _ rfl (IsMild.ite _ rfl trivial)
    · rfl

theorem openNamed_eq_ok {g groups : Groups} {name : Text} {s : Source}
    (h : g.openNamed name s = .ok groups) :
    g.names.lookup name = none ∧ groups = g.named name := by
  rw [Groups.openNamed] at h
  split at h
  · cases h
  · next hnew => exact ⟨hnew, (Except.ok.inj h).symm⟩

/-- The group that a condition names, by a name or by a number, which is noted
then. -/
theorem exists_target_of_conditionGroup (name : Text) :
    ∃ target : Target, ∀ {g groups : Groups} {s : Source} {i : Nat},
      conditionGroup name g s = .ok (i, groups) →
        target.group? g = some i ∧ groups.widths = g.widths ∧ groups.names = g.names ∧
          ((Label.condition target).isByName = true ∨ groups.mentioned ≠ []) := by
  by_cases hname : name.isIdentifier = true
  · refine ⟨.named name, fun {g groups s i} h => ?_⟩
    rw [conditionGroup, if_pos hname] at h
    split at h
    · next hlookup =>
      obtain ⟨rfl, rfl⟩ := Prod.mk.inj (Except.ok.inj h)
      exact ⟨hlookup, rfl, rfl, .inl rfl⟩
    · cases h
  · refine ⟨.numbered ((Text.int? 10 name).getD 0).toNat, fun {g groups s i} h => ?_⟩
    rw [conditionGroup, if_neg hname] at h
    split at h
    · next number hnumber =>
      split at h
      · cases h
      · split at h
        · cases h
        · obtain ⟨rfl, rfl⟩ := Prod.mk.inj (Except.ok.inj h)
          refine ⟨by rw [hnumber]; rfl, ?_⟩
          rw [Groups.mention]
          split
          · next hmentioned =>
            refine ⟨rfl, rfl, .inr fun hnil => ?_⟩
            rw [hnil] at hmentioned
            cases hmentioned
          · exact ⟨rfl, rfl, .inr (by simp)⟩
    · cases h

section

variable (hover : e₁.IsOver)
include hover

theorem alike_readNamedGroup (start₁ start₂ : Nat)
    (hs₁ : s₁.Ends e₁ u) (hs₂ : s₂.Ends e₂ u) :
    Alike (Stepped t e₁ e₂ u st₁ st₂) (readNamedGroup start₁ st₁ s₁)
      (readNamedGroup start₂ st₂ s₂) := by
  refine (alike_accept hs₁ hs₂ '<' (by decide) (by decide)).bind ?_
  rintro ⟨opened, s₁⟩ ⟨_, s₂⟩ ⟨rfl, v, hv, hs₁, hs₂⟩
  refine Alike.ite _ (fun _ => ?_) fun _ => ?_
  · refine (Source.alike_groupName hover '>' (by decide) hs₁ hs₂).bind ?_
    rintro ⟨name, s₁⟩ ⟨_, s₂⟩ ⟨rfl, hbeneath⟩
    have hopen : Alike (fun g₁ g₂ => st₁.groups.openNamed name s₁ = .ok g₁ ∧
        st₂.groups.openNamed name s₂ = .ok g₂) (st₁.groups.openNamed name s₁)
          (st₂.groups.openNamed name s₂) :=
      .of_isMild (isMild_openNamed _ _ _) fun g₁ g₂ h₁ h₂ => ⟨h₁, h₂⟩
    refine hopen.bind fun g₁ g₂ ⟨h₁, h₂⟩ => .pure ?_
    obtain ⟨hnew₁, rfl⟩ := openNamed_eq_ok h₁
    obtain ⟨hnew₂, rfl⟩ := openNamed_eq_ok h₂
    exact ⟨.capture (some name), .capture st₁ start₁ (some name) (by simpa using hnew₁),
      .capture st₂ start₂ (some name) (by simpa using hnew₂), .inl rfl, hbeneath.mono hv⟩
  · refine (alike_accept hs₁ hs₂ '=' (by decide) (by decide)).bind ?_
    rintro ⟨refers, s₁⟩ ⟨_, s₂⟩ ⟨rfl, w, hw, hs₁, hs₂⟩
    refine Alike.ite _ (fun _ => ?_) fun _ => ?_
    · refine (Source.alike_groupName hover ')' (by decide) hs₁ hs₂).bind ?_
      rintro ⟨name, s₁⟩ ⟨_, s₂⟩ ⟨rfl, hbeneath⟩
      dsimp only
      cases hi : st₁.groups.names.lookup name with
      | none => exact ((fails_fault _ _ _).bind _).alike _ _
      | some i =>
          cases hj : st₂.groups.names.lookup name with
          | none => exact Alike.error_right _ _
          | some j =>
              refine Alike.ite_left _ (fun _ => Alike.error_left _) fun _ => ?_
              refine Alike.ite_right _ (fun _ => Alike.error_right _ _) fun _ => ?_
              refine Alike.bind_checks (isMild_checkLookBehind _ _ _) fun _ _ => .pure ?_
              exact ⟨.reference (.named name), .reference st₁ (.named name) hi,
                .reference st₂ (.named name) hj, .inl rfl, hbeneath.mono (hw.trans hv)⟩
    · refine Fails.alike (fails_bind ?_) _ _
      rintro ⟨t?, s⟩ -
      cases t? with
      | none => exact fails_fault _ _ _
      | some t => exact fails_fault _ _ _

theorem alike_readCondition (start₁ start₂ : Nat) (hs₁ : s₁.Ends e₁ u) (hs₂ : s₂.Ends e₂ u) :
    Alike (Stepped t e₁ e₂ u st₁ st₂) (readCondition start₁ st₁ s₁)
      (readCondition start₂ st₂ s₂) := by
  refine (Source.alike_name hover ')' (by decide) "group name" hs₁ hs₂).bind ?_
  rintro ⟨name, s₁⟩ ⟨_, s₂⟩ ⟨rfl, hbeneath⟩
  have hgroup : Alike (fun r₁ r₂ => conditionGroup name st₁.groups s₁ = .ok r₁ ∧
      conditionGroup name st₂.groups s₂ = .ok r₂) (conditionGroup name st₁.groups s₁)
        (conditionGroup name st₂.groups s₂) :=
    .of_isMild (isMild_conditionGroup _ _ _) fun r₁ r₂ h₁ h₂ => ⟨h₁, h₂⟩
  refine hgroup.bind ?_
  rintro ⟨i, g₁⟩ ⟨j, g₂⟩ ⟨h₁, h₂⟩
  obtain ⟨target, htarget⟩ := exists_target_of_conditionGroup name
  obtain ⟨hi, hwidths₁, hnames₁, hnumber⟩ := htarget h₁
  obtain ⟨hj, hwidths₂, hnames₂, _⟩ := htarget h₂
  refine Alike.bind_checks (isMild_checkLookBehind _ _ _) fun _ _ => .pure ?_
  refine ⟨.condition target, .condition st₁ start₁ target g₁ hi hwidths₁ hnames₁,
    .condition st₂ start₂ target g₂ hj hwidths₂ hnames₂, hnumber.imp_right fun hmentioned => ?_,
    hbeneath⟩
  rw [State.hasNumber, Bool.or_eq_true_iff, State.openFrame]
  exact .inl (by simpa using hmentioned)

theorem alike_readExtension (start₁ start₂ : Nat) (hverbose : st₁.top.verbose = st₂.top.verbose)
    (hs₁ : s₁.Ends e₁ u) (hs₂ : s₂.Ends e₂ u) :
    Alike (Stepped t e₁ e₂ u st₁ st₂) (readExtension start₁ st₁ s₁)
      (readExtension start₂ st₂ s₂) := by
  rw [readExtension, readExtension]
  refine alike_take hs₁ hs₂ hover ?_ (fun s => fails_fault _ _ _) fun s hs => ?_
  · rintro t rest s₁ s₂ rfl hs₁ hs₂
    have hrest := List.suffix_cons t rest
    have hbeneath : Beneath e₁ e₂ (t :: rest) s₁ s₂ := ⟨rest, hrest, hs₁, hs₂⟩
    dsimp only
    refine Alike.ite _ (fun _ => ?_) fun _ => ?_
    · exact (alike_readNamedGroup hover start₁ start₂ hs₁ hs₂).mono fun a b hab => hab.mono hrest
    refine Alike.ite _ (fun _ => .pure ?_) fun _ => ?_
    · exact stepped_opening start₁ start₂ .plain rfl hverbose hbeneath
    refine Alike.ite _ (fun _ => ?_) fun _ => ?_
    · have hcomment := alike_skipPast hover ')' (by decide) (s₁.tokens.length + 1)
        (s₂.tokens.length + 1) (by rw [hs₂.tokens, List.length_append]; omega) hs₁ hs₂
      refine hcomment.bind ?_
      rintro (_ | s₁) (_ | s₂) hsame
      · exact Alike.error_left _
      · exact Alike.error_left _
      · exact hsame.elim
      · exact .pure (stepped_nothing (Beneath.mono hrest hsame))
    refine Alike.ite _ (fun _ => .pure ?_) fun _ => ?_
    · exact stepped_opening start₁ start₂ (.ahead false) rfl hverbose hbeneath
    refine Alike.ite _ (fun _ => .pure ?_) fun _ => ?_
    · exact stepped_opening start₁ start₂ (.ahead true) rfl hverbose hbeneath
    refine Alike.ite _ (fun _ => ?_) fun _ => ?_
    · refine alike_take hs₁ hs₂ hover ?_ (fun s => fails_fault _ _ _) fun s hs => ?_
      · rintro kind rest' s₁ s₂ rfl hs₁ hs₂
        have hbeneath : Beneath e₁ e₂ (t :: kind :: rest') s₁ s₂ :=
          ⟨rest', (List.suffix_cons kind rest').trans hrest, hs₁, hs₂⟩
        refine Alike.ite _ (fun _ => .pure ?_) fun _ => ?_
        · exact ⟨.behind false, .behind st₁ start₁ false, .behind st₂ start₂ false, .inl rfl,
            hbeneath⟩
        refine Alike.ite _ (fun _ => .pure ?_) fun _ => Alike.error_left _
        exact ⟨.behind true, .behind st₁ start₁ true, .behind st₂ start₂ true, .inl rfl, hbeneath⟩
      · exact fails_ite _ (fun h => nomatch h) fun _ =>
          fails_ite _ (fun h => nomatch h) fun _ => fails_fault _ _ _
    refine Alike.ite _ (fun _ => ?_) fun _ => ?_
    · exact (alike_readCondition hover start₁ start₂ hs₁ hs₂).mono
        fun a b hab => hab.mono hrest
    refine Alike.ite _ (fun _ => .pure ?_) fun _ => ?_
    · exact stepped_opening start₁ start₂ .atomic rfl hverbose hbeneath
    refine Alike.ite _ (fun _ => ?_) fun _ => Alike.error_left _
    refine (alike_readFlags hover t hs₁ hs₂).bind ?_
    rintro ⟨change, s₁⟩ ⟨_, s₂⟩ ⟨rfl, hflags⟩
    have hflags := hflags.mono hrest
    cases change with
    | forGroup added removed =>
        refine .pure (stepped_opening start₁ start₂ (.scoped added removed) rfl ?_ hflags)
        rw [hverbose]
    | forWhole added =>
        have hmild (flags : State × Source) :
            IsMild (if (!st₂.outer.isEmpty || !st₂.top.isFresh) then
              Source.faultAt .lateGlobalFlags start₂ else pure flags) := by
          split
          · rfl
          · trivial
        apply Alike.of_isMild (hmild _)
        rintro ⟨a, t₁⟩ ⟨b, t₂⟩ ha hb
        dsimp only at ha hb
        split at ha
        · cases ha
        · next hstart₁ =>
          split at hb
          · cases hb
          · next hstart₂ =>
            obtain ⟨rfl, rfl⟩ := Prod.mk.inj (Except.ok.inj ha)
            obtain ⟨rfl, rfl⟩ := Prod.mk.inj (Except.ok.inj hb)
            have hfresh {st : State} (h : ¬ (!st.outer.isEmpty || !st.top.isFresh) = true) :
                st.outer = [] ∧ st.top.isFresh = true := by
              simpa using h
            obtain ⟨houter₁, hfresh₁⟩ := hfresh hstart₁
            obtain ⟨houter₂, hfresh₂⟩ := hfresh hstart₂
            exact ⟨.globalFlags, .globalFlags st₁ _ houter₁ hfresh₁,
              .globalFlags st₂ _ houter₂ hfresh₂, .inl rfl, hflags⟩
  · intro a ha
    dsimp only at ha
    simp [Token.isPlain, CodePoint.ofChar, flag?, Source.fault] at ha

theorem alike_readGroup (start₁ start₂ : Nat) (hverbose : st₁.top.verbose = st₂.top.verbose)
    (hs₁ : s₁.Ends e₁ u) (hs₂ : s₂.Ends e₂ u) :
    Alike (Stepped t e₁ e₂ u st₁ st₂) (readGroup start₁ st₁ s₁) (readGroup start₂ st₂ s₂) := by
  refine (alike_accept hs₁ hs₂ '?' (by decide) (by decide)).bind ?_
  rintro ⟨extended, s₁⟩ ⟨_, s₂⟩ ⟨rfl, v, hv, hs₁, hs₂⟩
  refine Alike.ite _ (fun _ => ?_) fun _ => .pure ?_
  · exact (alike_readExtension hover start₁ start₂ hverbose hs₁ hs₂).mono fun a b hab => hab.mono hv
  · exact ⟨.capture none, .capture st₁ start₁ none (by simp), .capture st₂ start₂ none (by simp),
      .inl rfl, v, hv, hs₁, hs₂⟩

theorem alike_readCharacter (start₁ start₂ : Nat) (c : CodePoint)
    (hverbose : st₁.top.verbose = st₂.top.verbose)
    (hs₁ : s₁.Ends e₁ u) (hs₂ : s₂.Ends e₂ u) :
    Alike (Stepped t e₁ e₂ u st₁ st₂) (readCharacter start₁ c st₁ s₁)
      (readCharacter start₂ c st₂ s₂) := by
  have hpush (a : Atom) (ha : a.isReference = false) : Alike (Stepped t e₁ e₂ u st₁ st₂)
      (.ok (st₁.push (.node (.atom a)), s₁)) (.ok (st₂.push (.node (.atom a)), s₂)) :=
    .ok (stepped_atom ha (hs₁.beneath hs₂))
  rw [readCharacter, readCharacter]
  refine Alike.ite _ (fun _ => ?_) fun _ => ?_
  · refine (alike_readSet hover start₁ start₂ hs₁ hs₂).bind ?_
    rintro ⟨a, s₁⟩ ⟨_, s₂⟩ ⟨⟨rfl, ha⟩, hbeneath⟩
    exact .ok (stepped_atom ha hbeneath)
  refine Alike.ite _ (fun _ => alike_readRepetition hs₁ hs₂ _ _ _ _) fun _ => ?_
  refine Alike.ite _ (fun _ => alike_readRepetition hs₁ hs₂ _ _ _ _) fun _ => ?_
  refine Alike.ite _ (fun _ => alike_readRepetition hs₁ hs₂ _ _ _ _) fun _ => ?_
  refine Alike.ite _ (fun _ => ?_) fun _ => ?_
  · refine (alike_readCounts? hs₁ hs₂).bind ?_
    rintro (_ | ⟨min, max, s₁⟩) (_ | ⟨_, _, s₂⟩) hsame
    · exact hpush _ rfl
    · exact hsame.elim
    · exact hsame.elim
    · obtain ⟨rfl, rfl, v, hv, hs₁, hs₂⟩ := hsame
      exact (alike_readRepetition hs₁ hs₂ start₁ start₂ min max).mono fun a b hab => hab.mono hv
  refine Alike.ite _ (fun _ => hpush _ rfl) fun _ => ?_
  refine Alike.ite _ (fun _ => alike_readGroup hover start₁ start₂ hverbose hs₁ hs₂) fun _ => ?_
  refine Alike.ite _ (fun _ => hpush _ rfl) fun _ => ?_
  exact Alike.ite _ (fun _ => hpush _ rfl) fun _ => hpush _ rfl

end

theorem alike_advance {t : Token} (hs₁ : s₁.Ends e₁ (t :: u)) (hs₂ : s₂.Ends e₂ (t :: u)) :
    Alike (fun a b => a.Ends e₁ u ∧ b.Ends e₂ u) s₁.advance s₂.advance :=
  .of_isMild s₂.isMild_advance fun _ _ ha hb => ⟨hs₁.advance ha, hs₂.advance hb⟩

theorem alike_readBar {t : Token} (hs₁ : s₁.Ends e₁ (t :: u)) (hs₂ : s₂.Ends e₂ (t :: u)) :
    Alike (Stepped t e₁ e₂ u st₁ st₂) (readBar st₁ s₁) (readBar st₂ s₂) := by
  rw [readBar, readBar]
  split
  · exact Alike.error_left _
  · split
    · exact Alike.error_right _ _
    · refine (alike_advance hs₁ hs₂).bind fun a b ⟨ha, hb⟩ => .pure ?_
      exact ⟨.bar, .bar st₁, .bar st₂, .inl rfl, ha.beneath hb⟩

theorem alike_readClosing {t : Token} (houter : st₂.outer = [] → st₁.outer = [])
    (hs₁ : s₁.Ends e₁ (t :: u)) (hs₂ : s₂.Ends e₂ (t :: u)) :
    Alike (Stepped t e₁ e₂ u st₁ st₂) (readClosing st₁ s₁) (readClosing st₂ s₂) := by
  rw [readClosing, readClosing]
  cases houter₁ : st₁.outer with
  | nil => exact Fails.alike (fails_bind fun _ _ => fails_fault _ _ _) _ _
  | cons parent₁ outer₁ =>
      cases houter₂ : st₂.outer with
      | nil =>
          rw [houter houter₂] at houter₁
          cases houter₁
      | cons parent₂ outer₂ =>
          refine (alike_advance hs₁ hs₂).bind fun a b ⟨ha, hb⟩ => .pure ?_
          exact ⟨.closing, .closing st₁ houter₁, .closing st₂ houter₂, .inl rfl, ha.beneath hb⟩

/-- Whether reading ended inside of a comment, which only a group in which
blanks are skipped has. -/
def EndedInComment (e : Setting) (st : State) (a : State × Source) : Prop :=
  a.1 = st ∧ st.top.verbose = true ∧ a.2.tokens = [] ∧ a.2.dangling = e.dangling ∧
    e.dangling = false

/-- A token does the same whatever was read before it and whatever stands
after the piece it is in, unless a comment runs to the end of the piece. -/
theorem alike_readToken (hover : e₁.IsOver) (t : Token)
    (hverbose : st₁.top.verbose = st₂.top.verbose) (houter : st₂.outer = [] → st₁.outer = [])
    (hs₁ : s₁.Ends e₁ (t :: u)) (hs₂ : s₂.Ends e₂ (t :: u)) :
    Alike (fun a b => Stepped t e₁ e₂ u st₁ st₂ a b ∨ EndedInComment e₁ st₁ a)
      (readToken t st₁ s₁) (readToken t st₂ s₂) := by
  rw [readToken, readToken, ← hverbose]
  refine Alike.ite _ (fun _ => (alike_readBar hs₁ hs₂).mono fun a b => .inl) fun _ => ?_
  refine Alike.ite _ (fun _ => (alike_readClosing houter hs₁ hs₂).mono fun a b => .inl) fun _ => ?_
  refine (alike_advance hs₁ hs₂).bind fun r₁ r₂ ⟨hr₁, hr₂⟩ => ?_
  refine Alike.ite _ (fun _ => .pure (.inl (stepped_nothing (hr₁.beneath hr₂)))) fun _ => ?_
  refine Alike.ite _ (fun hcomment => ?_) fun _ => ?_
  · have hskip : Alike (fun a b => SameComment e₁ e₂ u a b ∧ (a = none → r₁.dangling = false))
        (r₁.skipPast '\n' (r₁.tokens.length + 1)) (r₂.skipPast '\n' (r₂.tokens.length + 1)) := by
      apply Alike.of_isMild (isMild_skipPast _ _ _)
      intro a b ha hb
      have hlength : u.length < r₂.tokens.length + 1 := by
        rw [hr₂.tokens, List.length_append]
        omega
      refine ⟨(alike_skipPast hover '\n' (by decide) _ _ hlength hr₁ hr₂).related ha hb, ?_⟩
      rintro rfl
      exact dangling_of_skipPast_none '\n' _ (Nat.lt_succ_self _) hr₁.checked ha
    have hend (b : Except Error (State × Source)) (hb : IsMild b) (hnone : r₁.dangling = false) :
        Alike (fun a b => Stepped t e₁ e₂ u st₁ st₂ a b ∨ EndedInComment e₁ st₁ a)
          (pure (st₁, { r₁ with tokens := [] })) b := by
      apply Alike.of_isMild hb
      intro a b ha _
      obtain rfl := Except.ok.inj ha
      have hskipping := (Bool.and_eq_true_iff.mp hcomment).1
      exact .inr ⟨rfl, hskipping, rfl, hr₁.dangling, hr₁.dangling.symm.trans hnone⟩
    refine hskip.bind ?_
    rintro (_ | r₁') (_ | r₂') ⟨hsame, hnone⟩
    · exact hend _ trivial (hnone rfl)
    · exact hend _ trivial (hnone rfl)
    · exact hsame.elim
    · exact .pure (.inl (stepped_nothing hsame))
  · cases t with
    | escaped c =>
        refine (alike_readEscape hr₁ hr₂ hover c st₁.groups st₂.groups).bind ?_
        rintro ⟨a, r₁⟩ ⟨_, r₂⟩ ⟨rfl, hbeneath⟩
        exact .pure (.inl (stepped_escape a hbeneath))
    | plain c =>
        exact (alike_readCharacter hover s₁.position s₂.position c hverbose hr₁ hr₂).mono
          fun a b hab => .inl hab

/-- What a token does, and what is left of the source after it. -/
theorem exists_effect_of_readToken {t : Token} {rest : List Token} {st st' : State}
    {s s' : Source} (htokens : s.tokens = t :: rest)
    (hchecked : s.dangling = true → s.tokens ≠ []) (h : readToken t st s = .ok (st', s')) :
    (∃ ℓ, Effect ℓ st st') ∧ s'.tokens <:+ rest ∧ s'.dangling = s.dangling ∧
      (s'.dangling = true → s'.tokens ≠ []) := by
  have hs : s.Ends (.nothing s.dangling) (t :: rest) :=
    ⟨by rw [htokens]; simp [Setting.nothing], rfl, hchecked⟩
  rcases (alike_readToken (.inl rfl) t rfl id hs hs).related h h with
    ⟨ℓ, heffect, _, _, v, hv, hs', _⟩ | ⟨hst, _, hnil, hdangling, hnone⟩
  · refine ⟨⟨ℓ, heffect⟩, ?_, hs'.dangling, hs'.checked⟩
    rw [hs'.tokens]
    simpa [Setting.nothing] using hv
  · obtain rfl : st' = st := hst
    refine ⟨⟨.nothing, .nothing st'⟩, ?_, hdangling, ?_⟩
    · rw [hnil]
      exact List.nil_suffix
    · intro htrue
      rw [hdangling, hnone] at htrue
      cases htrue

end KeyNaming.Regex
