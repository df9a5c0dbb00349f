import KeyNaming.Proofs.Key.Equivalence
import KeyNaming.Proofs.Key.Hash

/-!
A changed byte changes the hash.

Every step of the hash can be undone: the prime has an inverse among the words
of 32 bits, and what was added without carry is taken away by adding it again.
So hashes that differ once still differ after any number of steps that are the
same on both sides, both within a value and from segment to segment.
-/

namespace KeyNaming

/-- Whether two lists of one length are the same but for one place, where their
elements are related. -/
structure DifferAt {A : Type} (R : A → A → Prop) (x y : List A) (i : Nat) : Prop where
  length : x.length = y.length
  here : ∃ a b, x[i]? = some a ∧ y[i]? = some b ∧ R a b
  elsewhere : ∀ j, j ≠ i → x[j]? = y[j]?

theorem DifferAt.exists_split {A : Type} {R : A → A → Prop} {x y : List A} {i : Nat}
    (h : DifferAt R x y i) : ∃ before a b after,
      x = before ++ a :: after ∧ y = before ++ b :: after ∧ R a b := by
  obtain ⟨a, b, ha, hb, hab⟩ := h.here
  obtain ⟨hx, rfl⟩ := List.getElem?_eq_some_iff.mp ha
  obtain ⟨hy, rfl⟩ := List.getElem?_eq_some_iff.mp hb
  have hbefore : x.take i = y.take i := by
    apply List.ext_getElem?
    intro j
    rw [List.getElem?_take, List.getElem?_take]
    split
    · next hlt => exact h.elsewhere j hlt.ne
    · rfl
  have hafter : x.drop (i + 1) = y.drop (i + 1) := by
    apply List.ext_getElem?
    intro j
    rw [List.getElem?_drop, List.getElem?_drop]
    exact h.elsewhere _ (by omega)
  refine ⟨x.take i, x[i], y[i], x.drop (i + 1), ?_, ?_, hab⟩
  · rw [← List.drop_eq_getElem_cons hx, List.take_append_drop]
  · rw [hbefore, hafter, ← List.drop_eq_getElem_cons hy, List.take_append_drop]

theorem differAt_append {A : Type} {R : A → A → Prop} {a b : A} (hab : R a b)
    (before after : List A) :
    DifferAt R (before ++ a :: after) (before ++ b :: after) before.length where
  length := by simp
  here := ⟨a, b, by simp, by simp, hab⟩
  elsewhere j hj := by
    rcases Nat.lt_or_gt_of_ne hj with hlt | hlt
    · rw [List.getElem?_append_left hlt, List.getElem?_append_left hlt]
    · obtain ⟨k, rfl⟩ := Nat.exists_eq_add_of_lt hlt
      rw [List.getElem?_append_right (by omega), List.getElem?_append_right (by omega),
        Nat.add_assoc, Nat.add_sub_cancel_left, List.getElem?_cons_succ, List.getElem?_cons_succ]

/-- Whether the UTF-8 forms of two texts are of one length and differ in one
byte. -/
def ByteChanged (s t : Text) : Prop :=
  ∃ a b k, s.utf8? = some a ∧ t.utf8? = some b ∧ DifferAt (· ≠ ·) a b k

/-- Whether two pairs have one name, and values that differ in one byte. -/
def ValueByteChanged (p q : Text × Option Text) : Prop :=
  p.1 = q.1 ∧ ∃ s t, p.2 = some s ∧ q.2 = some t ∧ ByteChanged s t

/-! ## Steps that can be undone -/

theorem mul_hashPrime_inj {h k : UInt32} (heq : h * hashPrime = k * hashPrime) : h = k := by
  have hinverse : hashPrime * 0x359C449B = 1 := by decide
  have hundone := congrArg (· * 0x359C449B) heq
  simpa only [UInt32.mul_assoc, hinverse, UInt32.mul_one] using hundone

theorem hashBytes_cons (h : UInt32) (byte : UInt8) (rest : List UInt8) :
    hashBytes h (byte :: rest) = hashBytes ((h * hashPrime) ^^^ byte.toUInt32) rest := rfl

theorem hashBytes_append (h : UInt32) (a b : List UInt8) :
    hashBytes h (a ++ b) = hashBytes (hashBytes h a) b :=
  List.foldl_append

/-- The same bytes keep different hashes apart. -/
theorem hashBytes_inj {h k : UInt32} (bytes : List UInt8)
    (heq : hashBytes h bytes = hashBytes k bytes) : h = k := by
  induction bytes generalizing h k with
  | nil => exact heq
  | cons byte rest ih =>
      rw [hashBytes_cons, hashBytes_cons] at heq
      exact mul_hashPrime_inj ((UInt32.xor_left_inj _).mp (ih heq))

theorem hashBytes_ne_of_differAt {a b : List UInt8} {k : Nat} (hab : DifferAt (· ≠ ·) a b k)
    (h : UInt32) : hashBytes h a ≠ hashBytes h b := by
  obtain ⟨before, byte, other, after, rfl, rfl, hne⟩ := hab.exists_split
  rw [hashBytes_append, hashBytes_append, hashBytes_cons, hashBytes_cons]
  intro heq
  have hbytes := (UInt32.xor_right_inj _).mp (hashBytes_inj after heq)
  exact hne (UInt8.toUInt32_inj.mp hbytes)

theorem pairHash?_some (name value : Text) :
    pairHash? name (some value) = name.utf8?.bind fun nameBytes => value.utf8?.bind fun bytes =>
      some (hashBytes (hashBytes (hashBytes hashBasis nameBytes) [0xFF]) bytes) := by
  unfold pairHash?
  rfl

/-- Pairs that differ in one byte of the value have hashes together, and these
differ. -/
theorem pairHash?_of_valueByteChanged {p q : Text × Option Text} (h : ValueByteChanged p q) :
    (pairHash? p.1 p.2 = none ∧ pairHash? q.1 q.2 = none) ∨
      ∃ m n, pairHash? p.1 p.2 = some m ∧ pairHash? q.1 q.2 = some n ∧ m ≠ n := by
  obtain ⟨name, value⟩ := p
  obtain ⟨name', value'⟩ := q
  obtain ⟨rfl, s, t, rfl, rfl, a, b, k, ha, hb, hab⟩ := h
  rw [pairHash?_some, pairHash?_some, ha, hb]
  cases name.utf8? with
  | none => exact .inl ⟨rfl, rfl⟩
  | some nameBytes => exact .inr ⟨_, _, rfl, rfl, hashBytes_ne_of_differAt hab _⟩

namespace Comparer

theorem hashCanonical?_cons (h : UInt32) (p : Text × Option Text)
    (rest : List (Text × Option Text)) :
    hashCanonical? h (p :: rest) =
      (pairHash? p.1 p.2).bind fun m => hashCanonical? ((h ^^^ m) * hashPrime) rest := by
  simp only [hashCanonical?, List.foldlM_cons, Option.bind_eq_bind, Option.bind_map,
    Function.comp_def]

/-- The same segments keep different hashes apart, or leave none on either
side. -/
theorem hashCanonical?_of_ne {h k : UInt32} (hne : h ≠ k) (pairs : List (Text × Option Text)) :
    (hashCanonical? h pairs = none ∧ hashCanonical? k pairs = none) ∨
      ∃ m n, hashCanonical? h pairs = some m ∧ hashCanonical? k pairs = some n ∧ m ≠ n := by
  induction pairs generalizing h k with
  | nil => exact .inr ⟨h, k, rfl, rfl, hne⟩
  | cons p rest ih =>
      rw [hashCanonical?_cons, hashCanonical?_cons]
      cases pairHash? p.1 p.2 with
      | none => exact .inl ⟨rfl, rfl⟩
      | some m =>
          refine ih fun heq => hne ?_
          exact (UInt32.xor_left_inj m).mp (mul_hashPrime_inj heq)

/-- A byte that is changed in one value leaves different hashes, or none on
either side. -/
theorem hashCanonical?_of_differAt {x y : List (Text × Option Text)} {i : Nat}
    (hxy : DifferAt ValueByteChanged x y i) (h : UInt32) :
    (hashCanonical? h x = none ∧ hashCanonical? h y = none) ∨
      ∃ m n, hashCanonical? h x = some m ∧ hashCanonical? h y = some n ∧ m ≠ n := by
  obtain ⟨before, p, q, after, rfl, rfl, hpq⟩ := hxy.exists_split
  clear hxy
  induction before generalizing h with
  | cons first before ih =>
      rw [List.cons_append, List.cons_append, hashCanonical?_cons, hashCanonical?_cons]
      cases pairHash? first.1 first.2 with
      | none => exact .inl ⟨rfl, rfl⟩
      | some m => exact ih _
  | nil =>
      rw [List.nil_append, List.nil_append, hashCanonical?_cons, hashCanonical?_cons]
      rcases pairHash?_of_valueByteChanged hpq with ⟨hp, hq⟩ | ⟨m, n, hp, hq, hne⟩
      · rw [hp, hq]
        exact .inl ⟨rfl, rfl⟩
      · rw [hp, hq]
        refine hashCanonical?_of_ne (fun heq => hne ?_) after
        exact (UInt32.xor_right_inj h).mp (mul_hashPrime_inj heq)

variable (c : Comparer)

/-- If two keys have the same non-canonical parameters, and their canonical segments
are the same but for one byte of one value, the hashes of the two keys differ; or else
neither of them has a hash, since a surrogate stands in some other name or value. -/
theorem hash?_ne_of_byteChanged {K : Type} (d : Decomposition K) {x y : K} {i : Nat}
    (hnonCanonical : sameEntries (c.nonCanonical (d.segments x))
      (c.nonCanonical (d.segments y)) = true)
    (hcanonical : DifferAt ValueByteChanged (canonical (d.segments x))
      (canonical (d.segments y)) i) :
    (∃ m n, c.hash? d (some x) = some m ∧ c.hash? d (some y) = some n ∧ m ≠ n) ∨
      c.hash? d (some x) = none ∧ c.hash? d (some y) = none ∧
        ∃ pair ∈ c.hashedPairs (d.segments x), ∃ e ∈ pair.1 ++ pair.2.getD [],
          e.isSurrogate = true := by
  have hsame (h : UInt32) : hashNonCanonical? h (c.nonCanonical (d.segments x)) =
      hashNonCanonical? h (c.nonCanonical (d.segments y)) := by
    refine hashNonCanonical?_perm (c.perm_nonCanonical ?_) h
    exact (sameEntries_iff _ _ (c.nodup_keys_nonCanonical _) (c.nodup_keys_nonCanonical _)).mp
      hnonCanonical
  have hhashes : (c.hash? d (some x) = none ∧ c.hash? d (some y) = none) ∨
      ∃ m n, c.hash? d (some x) = some m ∧ c.hash? d (some y) = some n ∧ m ≠ n := by
    simp only [hash?, segmentsHash?, hsame]
    cases hashNonCanonical? hashBasis (c.nonCanonical (d.segments y)) with
    | none => exact .inl ⟨rfl, rfl⟩
    | some h => exact hashCanonical?_of_differAt hcanonical h
  apply hhashes.symm.imp_right
  rintro ⟨hx, hy⟩
  refine ⟨hx, hy, ?_⟩
  by_contra hscalar
  push Not at hscalar
  have hsome := (c.isSome_segmentsHash?_iff (d.segments x)).mpr fun pair hpair e he =>
    Bool.not_eq_true _ ▸ hscalar pair hpair e he
  rw [hash?] at hx
  rw [hx] at hsome
  cases hsome

/-- Two keys with their parameters in another order, and with sections that
differ in the second byte of a character. -/
def accentedKeys : Chain × Chain :=
  (Chain.root.appendPairs defaultRegistry [(some "culture", some "fr"), (some "assembly", some "A"),
    (some "Section", some "café"), (some "key", some "Ok")],
   Chain.root.appendPairs defaultRegistry [(some "assembly", some "A"), (none, none),
    (some "section", some "cafè"), (some "culture", some "fr"), (some "KEY", some "Ok")])

theorem hash?_ne_of_byteChanged_accented :
    sameEntries (({} : Comparer).nonCanonical accentedKeys.1.segments)
        (({} : Comparer).nonCanonical accentedKeys.2.segments) = true ∧
      DifferAt ValueByteChanged (canonical accentedKeys.1.segments)
        (canonical accentedKeys.2.segments) 1 ∧
      ∃ m n, ({} : Comparer).hash? .ofChains (some accentedKeys.1) = some m ∧
        ({} : Comparer).hash? .ofChains (some accentedKeys.2) = some n ∧ m ≠ n := by
  have hnonCanonical : sameEntries (({} : Comparer).nonCanonical accentedKeys.1.segments)
      (({} : Comparer).nonCanonical accentedKeys.2.segments) = true := by
    decide +kernel
  have hcanonical : DifferAt ValueByteChanged (canonical accentedKeys.1.segments)
      (canonical accentedKeys.2.segments) 1 := by
    have hx : canonical accentedKeys.1.segments =
        ([("key", some "Ok"), ("section", some "café")] : Pairs) := by decide +kernel
    have hy : canonical accentedKeys.2.segments =
        ([("key", some "Ok"), ("section", some "cafè")] : Pairs) := by decide +kernel
    have hbyte : ByteChanged "café" "cafè" :=
      ⟨_, _, _, rfl, rfl, differAt_append (by decide) [0x63, 0x61, 0x66, 0xC3] []⟩
    have hvalue : ValueByteChanged ("section", some "café") ("section", some "cafè") :=
      ⟨rfl, _, _, rfl, rfl, hbyte⟩
    rw [hx, hy]
    exact differAt_append hvalue [("key", some "Ok")] []
  have hsome : (({} : Comparer).hash? .ofChains (some accentedKeys.1)).isSome = true := by
    decide +kernel
  refine ⟨hnonCanonical, hcanonical, ?_⟩
  rcases hash?_ne_of_byteChanged (x := accentedKeys.1) (y := accentedKeys.2) {} .ofChains
      hnonCanonical hcanonical with hdiffer | ⟨hnone, -⟩
  · exact hdiffer
  · rw [hnone] at hsome
    cases hsome

end Comparer

end KeyNaming
