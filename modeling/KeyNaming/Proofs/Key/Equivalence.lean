import Mathlib.Algebra.Group.Nat.Defs
import KeyNaming.Proofs.Key.Significant

/-!
Equivalence of keys is an equivalence relation, and equivalent keys have the
same hash.

Equivalent keys have the same non-canonical parameters, though perhaps in
another order. Their hashes are added without carry, so the order has no
effect. The hash is a word of 32 bits. Computed with numbers of any size, of
which only products are cut to 32 bits, it is the same number.
-/

namespace KeyNaming

namespace Comparer

variable (c : Comparer)

/-- Comparing the segments asks whether two pieces of data are the same. -/
theorem segmentsEqual_equivalence :
    Equivalence fun x y : List Segment => c.segmentsEqual x y = true := by
  simp only [segmentsEqual_iff]
  constructor
  · intro x
    exact ⟨fun _ => rfl, rfl⟩
  · rintro x y ⟨hvalues, hcanonical⟩
    exact ⟨fun name => (hvalues name).symm, hcanonical.symm⟩
  · rintro x y z ⟨hxy, hxy'⟩ ⟨hyz, hyz'⟩
    exact ⟨fun name => (hxy name).trans (hyz name), hxy'.trans hyz'⟩

theorem equal_equivalence {K : Type} (d : Decomposition K) :
    Equivalence fun x y : Option K => c.equal d x y = true := by
  have hsegments := c.segmentsEqual_equivalence
  constructor
  · rintro (_ | x)
    · rfl
    · exact hsegments.refl (d.segments x)
  · rintro (_ | x) (_ | y) h
    · rfl
    · cases h
    · cases h
    · exact hsegments.symm h
  · rintro (_ | x) (_ | y) z hxy hyz
    · exact hyz
    · cases hxy
    · cases hxy
    · cases z
      · cases hyz
      · exact hsegments.trans hxy hyz

/-! ## Hashes -/

theorem perm_nonCanonical {x y : List Segment}
    (h : ∀ name, (c.nonCanonical x).lookup name = (c.nonCanonical y).lookup name) :
    (c.nonCanonical x).Perm (c.nonCanonical y) := by
  have hx := c.nodup_keys_nonCanonical x
  have hy := c.nodup_keys_nonCanonical y
  rw [List.perm_ext_iff_of_nodup hx.of_map hy.of_map]
  intro entry
  rw [← Entries.lookup_eq_some_iff_mem hx, ← Entries.lookup_eq_some_iff_mem hy, h]

theorem hashNonCanonical?_perm {a b : Entries Text Text} (hperm : a.Perm b) (h : UInt32) :
    hashNonCanonical? h a = hashNonCanonical? h b := by
  rw [hashNonCanonical?, hashNonCanonical?, List.foldlM_eq_foldl, List.foldlM_eq_foldl]
  apply hperm.foldl_eq'
  intro first _ second _ h?
  cases h? with
  | none => rfl
  | some h =>
      cases hfirst : pairHash? first.1 (some first.2) with
      | none => cases pairHash? second.1 (some second.2) <;> rfl
      | some a =>
          cases hsecond : pairHash? second.1 (some second.2) with
          | none => rfl
          | some b =>
              have hcomm : h ^^^ a ^^^ b = h ^^^ b ^^^ a := by
                rw [UInt32.xor_assoc, UInt32.xor_comm a b, ← UInt32.xor_assoc]
              exact congrArg some hcomm

theorem segmentsHash?_eq {x y : List Segment} (h : c.segmentsEqual x y = true) :
    c.segmentsHash? x = c.segmentsHash? y := by
  obtain ⟨hvalues, hcanonical⟩ := (c.segmentsEqual_iff x y).mp h
  unfold segmentsHash?
  rw [hashNonCanonical?_perm (c.perm_nonCanonical hvalues), hcanonical]

theorem hash?_eq_of_equal {K : Type} (d : Decomposition K) {x y : Option K}
    (h : c.equal d x y = true) : c.hash? d x = c.hash? d y := by
  cases x <;> cases y
  · rfl
  · cases h
  · cases h
  · exact c.segmentsHash?_eq h

/-! ## The hash as a number -/

/-- A product that is cut to 32 bits. -/
def cutProduct (a b : Nat) : Nat := (a * b) &&& (2 ^ 32 - 1)

def wideBytes (h : Nat) (bytes : List UInt8) : Nat :=
  bytes.foldl (fun h byte => cutProduct h hashPrime.toNat ^^^ byte.toNat) h

/-- The hash of a name and a value as a number. A value that is missing adds
no bytes. -/
def widePairHash? (name : Text) (value : Option Text) : Option Nat := do
  let nameBytes ← name.utf8?
  let h := wideBytes (wideBytes hashBasis.toNat nameBytes) [0xFF]
  match value with
  | none => pure h
  | some value => value.utf8?.map (wideBytes h)

def wideNonCanonical? (h : Nat) (entries : Entries Text Text) : Option Nat :=
  entries.foldlM (fun h entry => (widePairHash? entry.1 (some entry.2)).map (h ^^^ ·)) h

def wideCanonical? (h : Nat) (segments : List (Text × Option Text)) : Option Nat :=
  segments.foldlM
    (fun h s => (widePairHash? s.1 s.2).map fun pair => cutProduct (h ^^^ pair) hashPrime.toNat) h

/-- The hash of a key as a number. -/
def wideHash? {K : Type} (d : Decomposition K) : Option K → Option Nat
  | none => some 0
  | some key =>
    (wideNonCanonical? hashBasis.toNat (c.nonCanonical (d.segments key))).bind fun h =>
      wideCanonical? h (canonical (d.segments key))

theorem toNat_mul_eq (a b : UInt32) : (a * b).toNat = cutProduct a.toNat b.toNat := by
  rw [cutProduct, Nat.and_two_pow_sub_one_eq_mod, UInt32.toNat_mul]

theorem wideBytes_toNat (h : UInt32) (bytes : List UInt8) :
    wideBytes h.toNat bytes = (hashBytes h bytes).toNat := by
  induction bytes generalizing h with
  | nil => rfl
  | cons byte rest ih =>
      have hstep : cutProduct h.toNat hashPrime.toNat ^^^ byte.toNat =
          ((h * hashPrime) ^^^ byte.toUInt32).toNat := by
        rw [UInt32.toNat_xor, toNat_mul_eq, UInt8.toNat_toUInt32]
      simp only [wideBytes, hashBytes, List.foldl_cons] at ih ⊢
      rw [hstep]
      exact ih _

theorem widePairHash?_eq (name : Text) (value : Option Text) :
    widePairHash? name value = (pairHash? name value).map UInt32.toNat := by
  unfold widePairHash? pairHash?
  cases name.utf8? with
  | none => rfl
  | some nameBytes =>
      cases value with
      | none => simp [wideBytes_toNat, Text.utf8?, hashBytes]
      | some value => cases h : value.utf8? <;> simp [wideBytes_toNat, h]

/-- Folds whose steps agree on numbers and words agree on the whole. -/
theorem foldlM_toNat {A : Type} (wide : Nat → A → Option Nat) (step : UInt32 → A → Option UInt32)
    (hstep : ∀ h a, wide h.toNat a = (step h a).map UInt32.toNat) (h : UInt32) (l : List A) :
    l.foldlM wide h.toNat = (l.foldlM step h).map UInt32.toNat := by
  induction l generalizing h with
  | nil => rfl
  | cons a rest ih =>
      rw [List.foldlM_cons, List.foldlM_cons, hstep]
      cases step h a with
      | none => rfl
      | some next => exact ih next

theorem wideNonCanonical?_eq (h : UInt32) (entries : Entries Text Text) :
    wideNonCanonical? h.toNat entries = (hashNonCanonical? h entries).map UInt32.toNat := by
  apply foldlM_toNat
  intro h entry
  rw [widePairHash?_eq]
  cases pairHash? entry.1 (some entry.2) <;> simp

theorem wideCanonical?_eq (h : UInt32) (segments : List (Text × Option Text)) :
    wideCanonical? h.toNat segments = (hashCanonical? h segments).map UInt32.toNat := by
  apply foldlM_toNat
  intro h s
  rw [widePairHash?_eq]
  cases pairHash? s.1 s.2 with
  | none => rfl
  | some pair => simp only [Option.map_some, toNat_mul_eq, UInt32.toNat_xor]

theorem wideHash?_eq {K : Type} (d : Decomposition K) (key : Option K) :
    c.wideHash? d key = (c.hash? d key).map UInt32.toNat := by
  cases key with
  | none => rfl
  | some key =>
      change (wideNonCanonical? _ _).bind _ = (c.segmentsHash? _).map _
      rw [wideNonCanonical?_eq, segmentsHash?]
      cases hashNonCanonical? hashBasis (c.nonCanonical (d.segments key)) with
      | none => rfl
      | some h => exact wideCanonical?_eq h (canonical (d.segments key))

/-- Keys are compared by an equivalence relation, for any decomposition and any
names that are left out. Equivalent keys have the same hash, a number of 32 bits. -/
theorem equal_equivalence_and_hash {K : Type} (d : Decomposition K) :
    Equivalence (fun x y : Option K => c.equal d x y = true) ∧
      (∀ x y, c.equal d x y = true → c.hash? d x = c.hash? d y) ∧
      (∀ x, c.wideHash? d x = (c.hash? d x).map UInt32.toNat) ∧
      ∀ x h, c.wideHash? d x = some h → h < 2 ^ 32 := by
  refine ⟨c.equal_equivalence d, fun x y => c.hash?_eq_of_equal d, c.wideHash?_eq d, ?_⟩
  intro x h hwide
  rw [wideHash?_eq] at hwide
  obtain ⟨word, _, rfl⟩ := Option.map_eq_some_iff.mp hwide
  exact word.toNat_lt

/-- Two keys that name one resource: parameters in another order and case, a
value that is overridden, an empty one and a formatting hint. -/
def sampleKeys : Chain × Chain :=
  (Chain.root.appendPairs defaultRegistry [(some "culture", some "en"), (some "assembly", some "A"),
    (some "Type", some "Ui"), (some "N", some []), (some "key", some "Ok")],
   Chain.root.appendPairs defaultRegistry [(some "assembly", some "B"), (some "type", some "Ui"),
    (none, none), (some "Assembly", some "A"), (some "root", some "r"), (some "KEY", some "Ok"),
    (some "Culture", some "en")])

theorem hash?_eq_sampleKeys :
    ({} : Comparer).equal .ofChains (some sampleKeys.1) (some sampleKeys.2) = true ∧
      ({} : Comparer).hash? .ofChains (some sampleKeys.1) =
        ({} : Comparer).hash? .ofChains (some sampleKeys.2) ∧
      ∃ h, ({} : Comparer).wideHash? .ofChains (some sampleKeys.1) = some h ∧ h < 2 ^ 32 := by
  obtain ⟨_, hhash, _, hbound⟩ := equal_equivalence_and_hash {} Decomposition.ofChains
  have hequal : ({} : Comparer).equal .ofChains (some sampleKeys.1) (some sampleKeys.2) = true := by
    decide +kernel
  have hwide : (({} : Comparer).wideHash? .ofChains (some sampleKeys.1)).isSome = true := by
    decide +kernel
  obtain ⟨h, hsome⟩ := Option.isSome_iff_exists.mp hwide
  exact ⟨hequal, hhash _ _ hequal, h, hsome, hbound _ _ hsome⟩

end Comparer

end KeyNaming
