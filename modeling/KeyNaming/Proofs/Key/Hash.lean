import KeyNaming.Key.Comparer
import KeyNaming.Key.Written
import KeyNaming.Proofs.Text.Numeral
import KeyNaming.Proofs.Text.Surrogate

/-!
Which keys have a hash.

The hash of a key is made of the UTF-8 forms of its names and values, so a key
has one unless a surrogate stands in a name or a value that counts. A key that
was read has a surrogate only where its text has one, as itself or as the
number of an escape with four or eight digits; the short escape has no room for
one.
-/

namespace KeyNaming

/-! ## Surrogates in keys -/

theorem isSome_pairHash?_iff (name : Text) (value : Option Text) :
    (pairHash? name value).isSome = true ↔
      ∀ c ∈ name ++ value.getD [], c.isSurrogate = false := by
  rw [List.forall_mem_append, ← Text.isSome_utf8?_iff, ← Text.isSome_utf8?_iff, pairHash?]
  cases name.utf8? with
  | none => simp
  | some nameBytes => cases (value.getD []).utf8? <;> simp

/-- A fold comes to its end if each step does, where that depends on the
element alone. -/
theorem isSome_foldlM_iff {A B : Type} {step : B → A → Option B} {good : A → Prop}
    (hstep : ∀ b a, (step b a).isSome = true ↔ good a) (l : List A) (b : B) :
    (l.foldlM step b).isSome = true ↔ ∀ a ∈ l, good a := by
  induction l generalizing b with
  | nil => simp
  | cons a rest ih =>
      rw [List.foldlM_cons, List.forall_mem_cons, ← hstep b a]
      cases step b a with
      | none => simp
      | some next => simpa using ih next

namespace Comparer

variable (c : Comparer)

/-- The names and values that the hash of some segments is made of. -/
def hashedPairs (segments : List Segment) : List (Text × Option Text) :=
  (c.nonCanonical segments).map (fun entry => (entry.1, some entry.2)) ++ canonical segments

theorem isSome_hashNonCanonical?_iff (h : UInt32) (entries : Entries Text Text) :
    (hashNonCanonical? h entries).isSome = true ↔
      ∀ entry ∈ entries, ∀ d ∈ entry.1 ++ entry.2, d.isSurrogate = false := by
  refine isSome_foldlM_iff (fun h entry => ?_) entries h
  rw [Option.isSome_map]
  exact isSome_pairHash?_iff entry.1 (some entry.2)

theorem isSome_hashCanonical?_iff (h : UInt32) (pairs : List (Text × Option Text)) :
    (hashCanonical? h pairs).isSome = true ↔
      ∀ pair ∈ pairs, ∀ d ∈ pair.1 ++ pair.2.getD [], d.isSurrogate = false := by
  refine isSome_foldlM_iff (fun h pair => ?_) pairs h
  rw [Option.isSome_map]
  exact isSome_pairHash?_iff pair.1 pair.2

theorem isSome_segmentsHash?_iff (segments : List Segment) :
    (c.segmentsHash? segments).isSome = true ↔
      ∀ pair ∈ c.hashedPairs segments, ∀ d ∈ pair.1 ++ pair.2.getD [], d.isSurrogate = false := by
  have hnonCanonical := isSome_hashNonCanonical?_iff hashBasis (c.nonCanonical segments)
  rw [hashedPairs, List.forall_mem_append, List.forall_mem_map, segmentsHash?]
  cases h : hashNonCanonical? hashBasis (c.nonCanonical segments) with
  | none =>
      rw [h] at hnonCanonical
      exact iff_of_false (by simp) fun hall => by cases hnonCanonical.mpr hall.1
  | some next =>
      rw [h] at hnonCanonical
      rw [Option.bind_some, isSome_hashCanonical?_iff]
      exact (and_iff_right (hnonCanonical.mp rfl)).symm

theorem mem_of_mem_addFirst {pairs : List (Text × Text)} {found : Entries Text Text}
    {pair : Text × Text} (h : pair ∈ pairs.foldl addFirst found) : pair ∈ found ∨ pair ∈ pairs := by
  induction pairs generalizing found with
  | nil => exact .inl h
  | cons first rest ih =>
      rcases ih h with hfound | hrest
      · rw [addFirst] at hfound
        split at hfound
        · exact .inl hfound
        · rcases List.mem_append.mp hfound with hfound | hfirst
          · exact .inl hfound
          · exact .inr (List.mem_singleton.mp hfirst ▸ List.mem_cons_self)
      · exact .inr (List.mem_cons_of_mem first hrest)

/-- What is hashed is the name of a segment, lower-cased, and its value. -/
theorem exists_segment_of_mem_hashedPairs {segments : List Segment} {pair : Text × Option Text}
    (h : pair ∈ c.hashedPairs segments) : ∃ s ∈ segments, pair = (s.name.lower, s.value) := by
  rcases List.mem_append.mp h with h | h
  · obtain ⟨entry, hentry, rfl⟩ := List.mem_map.mp h
    have hpair := (mem_of_mem_addFirst (List.mem_filter.mp hentry).1).resolve_left
      List.not_mem_nil
    obtain ⟨s, hs, hpair⟩ := List.mem_filterMap.mp hpair
    refine ⟨s, hs, ?_⟩
    rw [nonCanonicalPair?] at hpair
    split at hpair
    · next value _ hvalue =>
      split at hpair
      · cases hpair
      · obtain rfl := Option.some.inj hpair
        rw [hvalue]
    · cases hpair
  · obtain ⟨s, hs, rfl⟩ := List.mem_map.mp h
    exact ⟨s, (List.mem_filter.mp hs).1, rfl⟩

end Comparer

/-! ## Surrogates in written keys -/

namespace Written

/-- Whether a text has an escape of more than two digits that gives a
character. -/
def HasLongEscape (t : Text) (c : CodePoint) : Prop :=
  ∃ (letter : CodePoint) (digits : Text), digitCount? letter = some digits.length ∧
    2 < digits.length ∧ ('\\' : CodePoint) :: letter :: digits <:+: t ∧
    Text.int? 16 digits = some (c.value : Int)

theorem HasLongEscape.cons {t : Text} {c : CodePoint} (h : HasLongEscape t c) (first : CodePoint) :
    HasLongEscape (first :: t) c := by
  obtain ⟨letter, digits, hcount, hlong, hinfix, hnumber⟩ := h
  exact ⟨letter, digits, hcount, hlong, List.infix_cons hinfix, hnumber⟩

/-- The number of an escape that gives a character is the number of the character. -/
theorem Escape.eq_of_ofNumber {n : Int} {length length' : Nat} {c : CodePoint}
    (h : Escape.ofNumber n length = .point c length') : n = c.value := by
  rw [Escape.ofNumber] at h
  split at h
  · cases h
  · next hnonneg =>
    split at h
    · next d hd =>
      obtain ⟨rfl, -⟩ := Escape.point.inj h
      rw [CodePoint.value_of_ofNat? hd, Int.toNat_of_nonneg (Int.not_lt.mp hnonneg)]
    · split at h <;> cases h

theorem isSurrogate_of_mem_letterEscapes :
    ∀ entry ∈ letterEscapes, entry.1.isSurrogate = false := by decide

/-- An escape that gives a surrogate has a letter that asks for four or eight
digits: two digits give at most 255. -/
theorem hasLongEscape_of_decode {t : Text} {c : CodePoint} {length : Nat}
    (h : Escape.decode t = .point c length) (hc : c.isSurrogate = true) :
    HasLongEscape (('\\' : CodePoint) :: t) c := by
  cases t with
  | nil => cases h
  | cons letter rest =>
      rw [Escape.decode] at h
      split at h
      · next d other hfind =>
        obtain ⟨rfl, -⟩ := Escape.point.inj h
        cases hc.symm.trans (isSurrogate_of_mem_letterEscapes _ (List.mem_of_find?_eq_some hfind))
      · split at h
        · cases h
        · next count hcount =>
          simp only at h
          split at h
          · cases h
          · next hlength =>
            have hlength : (rest.take count).length = count := by simpa using hlength
            split at h
            · cases h
            · next n hnumber =>
              rw [Escape.eq_of_ofNumber h] at hnumber
              refine ⟨letter, rest.take count, by rw [hlength, hcount], ?_, ?_, hnumber⟩
              · -- two digits write less than 16 ^ 2, which is below all surrogates
                have hlt := Text.int?_lt (by decide) hnumber
                have hrange := (c.isSurrogate_iff.mp hc).1
                by_contra hshort
                have hpower : 16 ^ (rest.take count).length ≤ 16 ^ 2 :=
                  Nat.pow_le_pow_right (by decide) (Nat.not_lt.mp hshort)
                have hlt : c.value < 16 ^ (rest.take count).length := Int.ofNat_lt.mp hlt
                omega
              · exact (List.prefix_append _ (rest.drop count)).isInfix.trans (by simp)

theorem exists_of_map_cons {x : Except Error (List Mark)} {first : Mark} {marks : List Mark}
    (h : x.map (first :: ·) = .ok marks) : ∃ rest, x = .ok rest ∧ marks = first :: rest := by
  cases x with
  | ok rest => exact ⟨rest, rfl, (Except.ok.inj h).symm⟩
  | error e => cases h

/-- A mark of a surrogate comes from the surrogate itself or from an escape that
is long enough for it. -/
theorem mem_or_hasLongEscape_of_marksFrom {offset skip : Nat} {t : Text} {marks : List Mark}
    (h : marksFrom offset skip t = .ok marks) {c : CodePoint} {length : Nat}
    (hmark : .point c length ∈ marks) (hc : c.isSurrogate = true) :
    c ∈ t ∨ HasLongEscape t c := by
  have hlater {first : CodePoint} {rest : Text} (h : c ∈ rest ∨ HasLongEscape rest c) :
      c ∈ first :: rest ∨ HasLongEscape (first :: rest) c :=
    h.imp (List.mem_cons_of_mem first) (·.cons first)
  fun_induction marksFrom offset skip t generalizing marks with
  | case1 =>
      obtain rfl := Except.ok.inj h
      cases hmark
  | case2 offset skip first rest ih => exact hlater (ih h hmark)
  | case3 offset first rest hcolon ih =>
      obtain ⟨marks', hrest, rfl⟩ := exists_of_map_cons h
      exact hlater (ih hrest ((List.mem_cons.mp hmark).resolve_left (by simp)))
  | case4 => cases h
  | case5 => cases h
  | case6 offset first rest hcolon hbackslash d escaped hdecode ih =>
      obtain ⟨marks', hrest, rfl⟩ := exists_of_map_cons h
      rcases List.mem_cons.mp hmark with hfirst | hmark
      · obtain ⟨rfl, -⟩ := Mark.point.inj hfirst
        rw [beq_iff_eq] at hbackslash
        exact .inr (hbackslash ▸ hasLongEscape_of_decode hdecode hc)
      · exact hlater (ih hrest hmark)
  | case7 offset first rest hcolon hbackslash ih =>
      obtain ⟨marks', hrest, rfl⟩ := exists_of_map_cons h
      rcases List.mem_cons.mp hmark with hfirst | hmark
      · obtain ⟨rfl, -⟩ := Mark.point.inj hfirst
        exact .inl List.mem_cons_self
      · exact hlater (ih hrest hmark)

/-- Every character of a token has its mark. -/
theorem exists_point_of_mem_tokensFrom {offset : Nat} {marks : List Mark} {token : Token}
    (h : token ∈ (tokensFrom offset marks).1 :: (tokensFrom offset marks).2) {c : CodePoint}
    (hc : c ∈ token.text) : ∃ length, .point c length ∈ marks := by
  fun_induction tokensFrom offset marks generalizing token with
  | case1 =>
      obtain rfl := List.mem_singleton.mp h
      cases hc
  | case2 offset rest first others hrest ih =>
      rw [hrest] at ih
      rcases List.mem_cons.mp h with rfl | h
      · cases hc
      · obtain ⟨length, hlength⟩ := ih h hc
        exact ⟨length, List.mem_cons_of_mem _ hlength⟩
  | case3 offset d length rest first others hrest ih =>
      rw [hrest] at ih
      have hlater : (∃ length, .point c length ∈ rest) →
          ∃ length', .point c length' ∈ Mark.point d length :: rest :=
        Exists.imp fun _ => List.mem_cons_of_mem _
      rcases List.mem_cons.mp h with rfl | h
      · rcases List.mem_cons.mp hc with rfl | hc
        · exact ⟨length, List.mem_cons_self⟩
        · exact hlater (ih List.mem_cons_self hc)
      · exact hlater (ih (List.mem_cons_of_mem _ h) hc)

/-- A pair is made of two tokens. -/
theorem exists_tokens_of_mem_pairUp {tokens : List Token} {pairs : List (Text × Text)}
    (h : pairUp tokens = .ok pairs) {pair : Text × Text} (hpair : pair ∈ pairs) :
    ∃ name ∈ tokens, ∃ value ∈ tokens, pair = (name.text, value.text) := by
  fun_induction pairUp tokens generalizing pairs with
  | case1 =>
      obtain rfl := Except.ok.inj h
      cases hpair
  | case2 => cases h
  | case3 => cases h
  | case4 name value rest others hrest ih =>
      obtain rfl := Except.ok.inj h
      rcases List.mem_cons.mp hpair with rfl | hpair
      · exact ⟨name, by simp, value, by simp, rfl⟩
      · obtain ⟨name', hname', value', hvalue', rfl⟩ := ih hrest hpair
        exact ⟨name', by simp [hname'], value', by simp [hvalue'], rfl⟩

/-- A surrogate in a name or a value that was read stands in the text, or is
the number of a long escape. -/
theorem mem_or_hasLongEscape_of_pairs {t : Text} {pairs : List (Text × Text)}
    (h : Written.pairs t = .ok pairs) {pair : Text × Text} (hpair : pair ∈ pairs) {c : CodePoint}
    (hmem : c ∈ pair.1 ++ pair.2) (hc : c.isSurrogate = true) : c ∈ t ∨ HasLongEscape t c := by
  rw [Written.pairs, tokens] at h
  cases hmarks : marksFrom 0 0 t with
  | error e =>
      rw [hmarks] at h
      cases h
  | ok marks =>
      rw [hmarks] at h
      simp only [Except.map, bind, Except.bind] at h
      split at h
      · cases h
      · next paired hpairs =>
        split at h
        · cases h
        · obtain rfl := Except.ok.inj h
          obtain ⟨name, hname, value, hvalue, rfl⟩ := exists_tokens_of_mem_pairUp hpairs hpair
          obtain ⟨length, hmark⟩ : ∃ length, .point c length ∈ marks := by
            rcases List.mem_append.mp hmem with hmem | hmem
            · exact exists_point_of_mem_tokensFrom hname hmem
            · exact exists_point_of_mem_tokensFrom hvalue hmem
          exact mem_or_hasLongEscape_of_marksFrom hmarks hmark hc

end Written

namespace Chain

theorem mem_or_hasLongEscape_of_read {r : Registry} {t : Text} {key : Chain}
    (h : read r .root t = .ok key) {s : Segment} (hs : s ∈ key.segments) {c : CodePoint}
    (hmem : c ∈ s.name ++ s.value.getD []) (hc : c.isSurrogate = true) :
    c ∈ t ∨ Written.HasLongEscape t c := by
  rw [read] at h
  split at h
  · obtain rfl := Except.ok.inj h
    cases hs
  · cases hpairs : Written.pairs t with
    | error e =>
        rw [hpairs] at h
        cases h
    | ok pairs =>
        rw [hpairs] at h
        obtain rfl := Except.ok.inj h
        rw [segments_appendPairs, List.mem_append, List.mem_reverse] at hs
        obtain ⟨pair, hpair, rfl⟩ := List.mem_map.mp (hs.resolve_right List.not_mem_nil)
        exact Written.mem_or_hasLongEscape_of_pairs hpairs hpair hmem hc

end Chain

namespace Comparer

variable (c : Comparer)

theorem isSome_wrap? {K : Type} (d : Decomposition K) (key : Option K) :
    (c.wrap? d key).isSome = (c.hash? d key).isSome :=
  Option.isSome_map

/-- A key that was read has a hash, and can be wrapped, unless its text writes a
surrogate. The surrogate then counts in some name or value, and it stands in the text
itself or is the number of an escape with more than two digits. -/
theorem isSome_hash?_of_read {r : Registry} {t : Text} {key : Chain}
    (h : Chain.read r .root t = .ok key) :
    ((c.hash? .ofChains (some key)).isSome = true ↔
      ∀ pair ∈ c.hashedPairs key.segments, ∀ d ∈ pair.1 ++ pair.2.getD [],
        d.isSurrogate = false) ∧
      (c.wrap? .ofChains (some key)).isSome = (c.hash? .ofChains (some key)).isSome ∧
      (∀ pair ∈ c.hashedPairs key.segments, ∀ d ∈ pair.1 ++ pair.2.getD [],
        d.isSurrogate = true → d ∈ t ∨ Written.HasLongEscape t d) ∧
      ((∀ d : CodePoint, d.isSurrogate = true → d ∉ t ∧ ¬Written.HasLongEscape t d) →
        (c.hash? .ofChains (some key)).isSome = true) := by
  have hhash : (c.hash? .ofChains (some key)).isSome = true ↔ _ :=
    c.isSome_segmentsHash?_iff key.segments
  have hwritten : ∀ pair ∈ c.hashedPairs key.segments, ∀ d ∈ pair.1 ++ pair.2.getD [],
      d.isSurrogate = true → d ∈ t ∨ Written.HasLongEscape t d := by
    intro pair hpair d hmem hd
    obtain ⟨s, hs, rfl⟩ := c.exists_segment_of_mem_hashedPairs hpair
    refine Chain.mem_or_hasLongEscape_of_read h hs ?_ hd
    rcases List.mem_append.mp hmem with hname | hvalue
    · exact List.mem_append_left _ (Text.mem_of_mem_lower hd hname)
    · exact List.mem_append_right _ hvalue
  refine ⟨hhash, c.isSome_wrap? .ofChains (some key), hwritten, fun hplain => ?_⟩
  rw [hhash]
  intro pair hpair d hmem
  rw [← Bool.not_eq_true]
  intro hd
  rcases hwritten pair hpair d hmem hd with ht | hescape
  · exact (hplain d hd).1 ht
  · exact (hplain d hd).2 hescape

/-- A written key with escapes of every length, a surrogate only in its hint. -/
def escapedText : Text := "root:\\uD800:Type:\\x41\\u00e9:key:\\U0001F600\\n"

theorem isSome_hash?_of_read_escaped :
    ∃ key, Chain.read defaultRegistry .root escapedText = .ok key ∧
      (({} : Comparer).hash? .ofChains (some key)).isSome = true ∧
      (({} : Comparer).wrap? .ofChains (some key)).isSome = true := by
  have hread : Chain.read defaultRegistry .root escapedText =
      .ok (Chain.root.appendPairs defaultRegistry [(some "root", some [⟨0xD800, by decide⟩]),
        (some "Type", some "Aé"), (some "key", some "😀\n")]) := rfl
  obtain ⟨hhash, hwrap, -⟩ := isSome_hash?_of_read {} hread
  have hdefined := hhash.mpr (by decide +kernel)
  exact ⟨_, hread, hdefined, hwrap.trans hdefined⟩

/-- Not every key that was read has a hash: an escape of four digits may give a
surrogate. -/
theorem not_isSome_hash?_of_read :
    ¬∀ (r : Registry) (t : Text) (key : Chain), Chain.read r .root t = .ok key →
      ∀ c : Comparer, (c.hash? .ofChains (some key)).isSome = true ∧
        (c.wrap? .ofChains (some key)).isSome = true := by
  intro h
  have hkey := h defaultRegistry "key:\\uD800"
    (Chain.root.appendPairs defaultRegistry [(some "key", some [⟨0xD800, by decide⟩])]) rfl {}
  cases hkey.1

end Comparer

end KeyNaming
