import KeyNaming.Regex.Basic
import KeyNaming.Proofs.Regex.Reader

/-!
Runs of the reader.

A run goes from one state and source to another in steps of a token each. It
is determined by where it starts, so the reading of an expression falls into
the runs over its pieces. Reading that does not come to the end stops at a
token, with an error that is determined as well.
-/

namespace KeyNaming.Regex

/-- Whether no lone backslash comes next. -/
def Source.IsChecked (s : Source) : Prop := s.dangling = true → s.tokens ≠ []

/-- Whether reading leads from one state and source to another. -/
inductive Reads : State → Source → State → Source → Prop where
  | done (st : State) (s : Source) : Reads st s st s
  | token {t : Token} {st st₁ st₂ : State} {s s₁ s₂ : Source} (hnext : s.next? = some t)
      (hread : readToken t st s = .ok (st₁, s₁)) (hrest : Reads st₁ s₁ st₂ s₂) :
      Reads st s st₂ s₂

theorem tokens_of_next? {s : Source} {t : Token} (h : s.next? = some t) :
    s.tokens = t :: s.tokens.tail := by
  obtain ⟨rest, hrest⟩ := List.head?_eq_some_iff.mp h
  rw [hrest]
  rfl

/-- A step of reading takes a token at least and keeps a source checked. -/
theorem length_lt_of_readToken {t : Token} {st st' : State} {s s' : Source}
    (hnext : s.next? = some t) (hs : s.IsChecked) (h : readToken t st s = .ok (st', s')) :
    s'.tokens.length < s.tokens.length ∧ s'.dangling = s.dangling ∧ s'.IsChecked := by
  have htokens := tokens_of_next? hnext
  obtain ⟨_, hsuffix, hdangling, hchecked⟩ := exists_effect_of_readToken htokens hs h
  have hle := hsuffix.length_le
  refine ⟨?_, hdangling, hchecked⟩
  rw [htokens, List.length_cons]
  omega

namespace Reads

variable {st st₁ st₂ : State} {s s₁ s₂ : Source}

theorem single {t : Token} (hnext : s.next? = some t) (h : readToken t st s = .ok (st₁, s₁)) :
    Reads st s st₁ s₁ :=
  .token hnext h (.done st₁ s₁)

theorem eq_of_nil (h : Reads st s st₁ s₁) (hnil : s.tokens = []) : st₁ = st := by
  cases h with
  | done => rfl
  | token hnext _ _ =>
      rw [Source.next?, hnil] at hnext
      cases hnext

theorem trans (h : Reads st s st₁ s₁) (h' : Reads st₁ s₁ st₂ s₂) : Reads st s st₂ s₂ := by
  induction h with
  | done st s => exact h'
  | token hnext hread _ ih => exact .token hnext hread (ih h')

theorem dangling_eq (h : Reads st s st₁ s₁) (hs : s.IsChecked) :
    s₁.dangling = s.dangling ∧ s₁.IsChecked := by
  induction h with
  | done st s => exact ⟨rfl, hs⟩
  | token hnext hread _ ih =>
      obtain ⟨_, hdangling, hchecked⟩ := length_lt_of_readToken hnext hs hread
      obtain ⟨hdangling', hchecked'⟩ := ih hchecked
      exact ⟨hdangling'.trans hdangling, hchecked'⟩

theorem length_le (h : Reads st s st₁ s₁) (hs : s.IsChecked) :
    s₁.tokens.length ≤ s.tokens.length := by
  induction h with
  | done st s => exact Nat.le_refl _
  | token hnext hread _ ih =>
      obtain ⟨hlt, _, hchecked⟩ := length_lt_of_readToken hnext hs hread
      exact Nat.le_trans (ih hchecked) (Nat.le_of_lt hlt)

/-- What every step preserves, a run preserves. -/
theorem preserves {P : State → Prop} (hP : ∀ ℓ st st', Effect ℓ st st' → P st → P st')
    (h : Reads st s st₁ s₁) (hs : s.IsChecked) (hst : P st) : P st₁ := by
  induction h with
  | done st s => exact hst
  | token hnext hread _ ih =>
      obtain ⟨_, _, hchecked⟩ := length_lt_of_readToken hnext hs hread
      obtain ⟨⟨ℓ, heffect⟩, _⟩ := exists_effect_of_readToken (tokens_of_next? hnext) hs hread
      exact ih hchecked (hP ℓ _ _ heffect hst)

/-- A run that goes to the end goes through every state that reading reaches. -/
theorem rest (h : Reads st s st₁ s₁) (hend : Reads st s st₂ s₂) (hnil : s₂.tokens = []) :
    Reads st₁ s₁ st₂ s₂ := by
  induction h with
  | done st s => exact hend
  | token hnext hread _ ih =>
      cases hend with
      | done =>
          rw [Source.next?, hnil] at hnext
          cases hnext
      | token hnext' hread' hrest' =>
          obtain rfl := Option.some.inj (hnext.symm.trans hnext')
          obtain ⟨rfl, rfl⟩ := Prod.mk.inj (Except.ok.inj (hread.symm.trans hread'))
          exact ih hrest'

/-- Runs from one place to where as much is left end in one place. -/
theorem unique (h : Reads st s st₁ s₁) (h' : Reads st s st₂ s₂) (hs : s.IsChecked)
    (hleft : s₁.tokens.length = s₂.tokens.length) : st₁ = st₂ ∧ s₁ = s₂ := by
  induction h with
  | done st s =>
      cases h' with
      | done => exact ⟨rfl, rfl⟩
      | token hnext hread hrest =>
          obtain ⟨hlt, _, hchecked⟩ := length_lt_of_readToken hnext hs hread
          have hle := hrest.length_le hchecked
          omega
  | token hnext hread hrest ih =>
      obtain ⟨hlt, _, hchecked⟩ := length_lt_of_readToken hnext hs hread
      cases h' with
      | done =>
          have hle := hrest.length_le hchecked
          omega
      | token hnext' hread' hrest' =>
          obtain rfl := Option.some.inj (hnext.symm.trans hnext')
          obtain ⟨rfl, rfl⟩ := Prod.mk.inj (Except.ok.inj (hread.symm.trans hread'))
          exact ih hrest' hchecked hleft

end Reads

/-- Whether no group is referred to by its number on the way from a state and
source. -/
def ReadsByName (st : State) (s : Source) : Prop :=
  ∀ (mid mid' : State) (r r' : Source) (t : Token), Reads st s mid r → r.next? = some t →
    readToken t mid r = .ok (mid', r') → mid'.hasNumber t = false

theorem ReadsByName.rest {st mid : State} {s r : Source} (h : ReadsByName st s)
    (hreads : Reads st s mid r) : ReadsByName mid r :=
  fun mid' st' r' s' t hrest => h mid' st' r' s' t (hreads.trans hrest)

/-- Reads what is left of a source and looks for groups that are referred to by
their numbers. -/
def readsByName : Nat → State → Source → Bool
  | 0, _, _ => true
  | fuel + 1, st, s =>
    match s.next? with
    | none => true
    | some t =>
      match readToken t st s with
      | .error _ => true
      | .ok (st', s') => !st'.hasNumber t && readsByName fuel st' s'

theorem readsByName_sound (n : Nat) {st : State} {s : Source} (hn : s.tokens.length ≤ n)
    (hs : s.IsChecked) (h : readsByName n st s = true) : ReadsByName st s := by
  induction n generalizing st s with
  | zero =>
      intro mid mid' r r' t hreads hnext _
      have hnil := List.eq_nil_of_length_eq_zero (Nat.le_zero.mp hn)
      cases hreads with
      | done =>
          rw [Source.next?, hnil] at hnext
          cases hnext
      | token hnext _ _ =>
          rw [Source.next?, hnil] at hnext
          cases hnext
  | succ n ih =>
      intro mid mid' r r' t hreads hnext hread
      rw [readsByName] at h
      cases hreads with
      | done =>
          rw [hnext] at h
          dsimp only at h
          rw [hread] at h
          simpa using (Bool.and_eq_true_iff.mp h).1
      | token hnext₁ hread₁ hrest =>
          rw [hnext₁] at h
          dsimp only at h
          rw [hread₁] at h
          obtain ⟨hlt, _, hchecked⟩ := length_lt_of_readToken hnext₁ hs hread₁
          exact ih (by omega) hchecked (Bool.and_eq_true_iff.mp h).2 _ _ _ _ _ hrest hnext hread

/-- Whether reading stops with an error. -/
inductive Stops : State → Source → Error → Prop where
  | here {t : Token} {st : State} {s : Source} {e : Error} (hnext : s.next? = some t)
      (hread : readToken t st s = .error e) : Stops st s e
  | token {t : Token} {st st₁ : State} {s s₁ : Source} {e : Error} (hnext : s.next? = some t)
      (hread : readToken t st s = .ok (st₁, s₁)) (hrest : Stops st₁ s₁ e) : Stops st s e

section

variable {st st₁ : State} {s s₁ : Source} {e : Error}

/-- Reading stops behind every state that it reaches. -/
theorem Stops.rest (h : Stops st s e) (hreads : Reads st s st₁ s₁) : Stops st₁ s₁ e := by
  induction hreads with
  | done st s => exact h
  | token hnext hread _ ih =>
      cases h with
      | here hnext' hread' =>
          obtain rfl := Option.some.inj (hnext.symm.trans hnext')
          cases hread.symm.trans hread'
      | token hnext' hread' hrest' =>
          obtain rfl := Option.some.inj (hnext.symm.trans hnext')
          obtain ⟨rfl, rfl⟩ := Prod.mk.inj (Except.ok.inj (hread.symm.trans hread'))
          exact ih hrest'

theorem Stops.ne_nil (h : Stops st s e) : s.tokens ≠ [] := by
  intro hnil
  cases h with
  | here hnext _ =>
      rw [Source.next?, hnil] at hnext
      cases hnext
  | token hnext _ _ =>
      rw [Source.next?, hnil] at hnext
      cases hnext

theorem Stops.unique {e' : Error} (h : Stops st s e) (h' : Stops st s e') : e = e' := by
  induction h with
  | here hnext hread =>
      cases h' with
      | here hnext' hread' =>
          obtain rfl := Option.some.inj (hnext.symm.trans hnext')
          exact Except.error.inj (hread.symm.trans hread')
      | token hnext' hread' _ =>
          obtain rfl := Option.some.inj (hnext.symm.trans hnext')
          cases hread.symm.trans hread'
  | token hnext hread _ ih => exact ih (h'.rest (.single hnext hread))

theorem stops_of_readAll (n : Nat) (h : readAll n st s = .error e) : Stops st s e := by
  induction n generalizing st s with
  | zero => cases h
  | succ n ih =>
      rw [readAll] at h
      split at h
      · cases h
      · next t hnext =>
        cases hread : readToken t st s with
        | error e' =>
            rw [hread] at h
            obtain rfl := Except.error.inj h
            exact .here hnext hread
        | ok r =>
            rw [hread] at h
            exact .token hnext hread (ih h)

end

theorem reads_of_readAll (n : Nat) {st st' : State} {s : Source} (hn : s.tokens.length ≤ n)
    (hs : s.IsChecked) (h : readAll n st s = .ok st') :
    ∃ s', Reads st s st' s' ∧ s'.tokens = [] := by
  induction n generalizing st s with
  | zero =>
      obtain rfl := Except.ok.inj h
      exact ⟨s, .done st s, List.eq_nil_of_length_eq_zero (Nat.le_zero.mp hn)⟩
  | succ n ih =>
      rw [readAll] at h
      split at h
      · next hnext =>
        obtain rfl := Except.ok.inj h
        exact ⟨s, .done st s, List.head?_eq_none_iff.mp hnext⟩
      · next t hnext =>
        simp only [bind, Except.bind] at h
        split at h
        · cases h
        · next r hread =>
          obtain ⟨hlt, _, hchecked⟩ := length_lt_of_readToken hnext hs hread
          obtain ⟨s', hreads, hnil⟩ := ih (by omega) hchecked h
          exact ⟨s', .token hnext hread hreads, hnil⟩

/-- Some tokens at an offset, without a lone backslash after them. -/
def Source.ahead (position : Nat) (tokens : List Token) : Source := ⟨position, tokens, false⟩

/-- The whole of a text without a lone backslash at its end. -/
def Source.whole (t : Text) : Source := .ahead 0 (Token.ofText t).1

theorem Source.isChecked_ahead (position : Nat) (tokens : List Token) :
    (Source.ahead position tokens).IsChecked := fun h => nomatch h

theorem Source.isChecked_whole (t : Text) : (Source.whole t).IsChecked := fun h => nomatch h

/-- Whether each group that the expression refers to is referred to by its name. -/
def refersByName (r : Regex) : Bool :=
  readsByName (Source.whole r.source).tokens.length .initial (.whole r.source)

theorem readsByName_of_refersByName {r : Regex} (h : refersByName r = true) :
    ReadsByName .initial (.whole r.source) :=
  readsByName_sound _ (Nat.le_refl _) (Source.isChecked_whole r.source) h

/-- What a text is read as, if it can be read. -/
theorem reads_of_readText {t : Text} {given : Flags} {st : State}
    (h : readText t given = .ok st) :
    (Token.ofText t).2 = false ∧
      ∃ s, Reads (.initial given) (.whole t) st s ∧ s.tokens = [] ∧ st.outer = [] := by
  simp only [readText, bind, Except.bind, pure, Except.pure] at h
  split at h
  · cases h
  · next s hsource =>
    split at h
    · cases h
    · next st' hall =>
      split at h
      · cases h
      · next houter =>
        split at h
        · cases h
        · split at h
          · cases h
          · obtain rfl := Except.ok.inj h
            obtain ⟨rfl, hchecked⟩ := Source.checked_eq_ok hsource
            obtain ⟨s', hreads, hnil⟩ := reads_of_readAll _ (Nat.le_refl _) hchecked hall
            obtain ⟨hdangling, hchecked'⟩ := hreads.dangling_eq hchecked
            have hfalse : (Token.ofText t).2 = false := by
              cases hlast : (Token.ofText t).2 with
              | false => rfl
              | true => exact absurd hnil (hchecked' (hdangling.trans hlast))
            refine ⟨hfalse, s', ?_, hnil, by simpa using houter⟩
            rw [hfalse] at hreads
            exact hreads

/-- A text that a run reads to its end is read as where the run ends, if no
group is left open and nothing else is left to be checked. -/
theorem readText_of_reads {t : Text} {st : State} {s : Source}
    (hdangling : (Token.ofText t).2 = false) (h : Reads .initial (.whole t) st s)
    (hnil : s.tokens = []) (houter : st.outer = []) (hflags : st.flags = {})
    (hmentioned : st.groups.mentioned = []) : readText t = .ok st := by
  have hsource : Source.ofText t = .ok (.whole t) := by
    change Source.checked ⟨0, (Token.ofText t).1, (Token.ofText t).2⟩ = _
    rw [hdangling, Source.checked, Bool.and_false]
    rfl
  have hall : readAll (Source.whole t).tokens.length .initial (.whole t) = .ok st := by
    cases hread : readAll (Source.whole t).tokens.length .initial (.whole t) with
    | error e => exact absurd hnil ((stops_of_readAll _ hread).rest h).ne_nil
    | ok st' =>
        obtain ⟨s', hreads, hnil'⟩ := reads_of_readAll _ (Nat.le_refl _)
          (Source.isChecked_whole t) hread
        rw [(h.rest hreads hnil').eq_of_nil hnil]
  have hchecked : st.groups.checkMentioned = .ok () := by
    rw [Groups.checkMentioned, hmentioned]
    rfl
  simp only [readText, hsource, bind, Except.bind, hall, houter, hflags, hchecked]
  rfl

theorem exists_run_of_read {source : Text} {given : Flags} {form : Form}
    (h : read source given = .ok form) :
    ∃ st, readText source given = .ok st ∧ form.node = Node.seq st.top.content ∧
      form.flags = st.flags ∧ form.groupNames = st.groups.names := by
  simp only [read, bind, Except.bind, pure, Except.pure] at h
  split at h
  · cases h
  · next st hst =>
    split at h
    · cases h
    · obtain rfl := Except.ok.inj h
      exact ⟨st, hst, rfl, rfl, rfl⟩

theorem compile_of_read {source : Text} {given : Flags} {form : Form}
    (h : read source given = .ok form) :
    compile source given = .ok { form with source, given, read_source := h } := by
  rw [compile, if_neg Bool.false_ne_true]
  split
  · next other hother =>
    obtain rfl := Except.ok.inj (h.symm.trans hother)
    rfl
  · next e he => cases h.symm.trans he

theorem compile_ok {source : Text} {given : Flags} {exhausts : Text → Bool} {r : Regex}
    (h : compile source given exhausts = .ok r) :
    read source given = .ok r.toForm ∧ r.source = source ∧ r.given = given := by
  rw [compile] at h
  split at h
  · cases h
  · split at h
    · next form hform =>
      obtain rfl := Except.ok.inj h
      exact ⟨hform, rfl, rfl⟩
    · cases h

end KeyNaming.Regex
