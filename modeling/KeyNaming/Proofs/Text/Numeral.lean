import Mathlib.Algebra.Order.Ring.Nat
import Mathlib.Tactic.Ring
import KeyNaming.Text.Numeral

/-!
How large a number may be that is written with so many characters.

Blanks, a sign, underscores and the mark of the base take room and add nothing,
so a number is less than the power of the base that it has characters for. The
digits that a number is written with have it as their value.
-/

namespace KeyNaming.Text

theorem digits?_lt {base : Nat} (hbase : 0 < base) {acc n : Nat} {wantsDigit : Bool} {t : Text}
    (h : digits? base acc wantsDigit t = some n) : n < (acc + 1) * base ^ t.length := by
  fun_induction digits? base acc wantsDigit t with
  | case1 => cases h
  | case2 acc wantsDigit =>
      obtain rfl := Option.some.inj h
      simp
  | case3 acc wantsDigit c rest d hd hlt ih =>
      calc n < (acc * base + d + 1) * base ^ rest.length := ih h
        _ ≤ ((acc + 1) * base) * base ^ rest.length := by
          apply Nat.mul_le_mul_right
          rw [Nat.add_mul]
          omega
        _ = (acc + 1) * base ^ (c :: rest).length := by
          rw [List.length_cons, Nat.pow_succ]
          ring
  | case4 => cases h
  | case5 acc wantsDigit c rest hd hunderscore ih =>
      calc n < (acc + 1) * base ^ rest.length := ih h
        _ ≤ (acc + 1) * base ^ (c :: rest).length :=
          Nat.mul_le_mul_left _ (Nat.pow_le_pow_right hbase (Nat.le_succ _))
  | case6 => cases h

theorem length_toAsciiNumeral? {t u : Text} (h : toAsciiNumeral? t = some u) :
    u.length = t.length := by
  unfold toAsciiNumeral? at h
  induction t generalizing u with
  | nil =>
      obtain rfl : [] = u := by simpa using h
      rfl
  | cons c rest ih =>
      rw [List.mapM_cons] at h
      obtain ⟨d, _, h⟩ := Option.bind_eq_some_iff.mp h
      obtain ⟨ds, hds, h⟩ := Option.bind_eq_some_iff.mp h
      obtain rfl := Option.some.inj h
      rw [List.length_cons, ih hds, List.length_cons]

theorem length_trimBlanks_le (t : Text) : (trimBlanks t).length ≤ t.length := by
  have hdrop (u : Text) : (u.dropWhile isNumeralBlank).length ≤ u.length :=
    (List.dropWhile_sublist isNumeralBlank).length_le
  rw [trimBlanks, List.length_reverse]
  exact (hdrop _).trans (by rw [List.length_reverse]; exact hdrop t)

theorem length_afterBaseMark_le (base : Nat) (t : Text) :
    (afterBaseMark base t).length ≤ t.length := by
  fun_cases afterBaseMark base t with
  | case1 => simp; omega
  | case2 => simp
  | case3 => simp
  | case4 => exact Nat.le_refl _
  | case5 => exact Nat.le_refl _

/-- A number of so many characters is less than that power of the base. -/
theorem int?_lt {base : Nat} (hbase : 0 < base) {t : Text} {z : Int} (h : int? base t = some z) :
    z < (base ^ t.length : Nat) := by
  have hdigits {u : Text} (hu : u.length ≤ t.length) {n : Nat}
      (hn : digits? base 0 true (afterBaseMark base u) = some n) : n < base ^ t.length := by
    have hlt := digits?_lt hbase hn
    rw [Nat.zero_add, Nat.one_mul] at hlt
    exact hlt.trans_le (Nat.pow_le_pow_right hbase ((length_afterBaseMark_le base u).trans hu))
  rw [int?] at h
  split at h
  · cases h
  · cases h
  · next c rest htrimmed =>
    obtain ⟨ascii, hascii, htrimmed⟩ := Option.map_eq_some_iff.mp htrimmed
    have hlength : (c :: rest).length ≤ t.length := by
      rw [← htrimmed, ← length_toAsciiNumeral? hascii]
      exact length_trimBlanks_le ascii
    have hrest : rest.length ≤ t.length := (Nat.le_succ _).trans hlength
    split at h
    · obtain ⟨m, hm, rfl⟩ := Option.map_eq_some_iff.mp h
      obtain ⟨n, _, hm⟩ := Option.bind_eq_some_iff.mp hm
      obtain rfl := Option.some.inj hm
      calc -(n : Int) ≤ 0 := by omega
        _ < (base ^ t.length : Nat) := Int.natCast_pos.mpr (Nat.pow_pos hbase)
    · split at h
      · obtain ⟨n, hn, rfl⟩ := Option.map_eq_some_iff.mp h
        exact Int.ofNat_lt.mpr (hdigits hrest hn)
      · obtain ⟨n, hn, rfl⟩ := Option.map_eq_some_iff.mp h
        exact Int.ofNat_lt.mpr (hdigits hlength hn)

/-! ## Numbers in decimal digits -/

theorem isAsciiDigit_ofChar {c : Char} (h : c.isDigit = true) :
    (CodePoint.ofChar c).isAsciiDigit = true := by
  simp only [Char.isDigit, Bool.and_eq_true, decide_eq_true_eq] at h
  simp only [CodePoint.isAsciiDigit, CodePoint.ofChar, Bool.and_eq_true]
  exact ⟨decide_eq_true (UInt32.le_iff_toNat_le.mp h.1),
    decide_eq_true (UInt32.le_iff_toNat_le.mp h.2)⟩

theorem isAsciiDigit_of_mem_ofNat {n : Nat} {c : CodePoint} (h : c ∈ ofNat n) :
    c.isAsciiDigit = true := by
  obtain ⟨d, hd, rfl⟩ := List.mem_map.mp h
  exact isAsciiDigit_ofChar (Nat.isDigit_of_mem_toDigits (by decide) (by decide) hd)

theorem ofNat_ne_nil (n : Nat) : ofNat n ≠ [] := by
  simp [ofNat, Nat.toDigits_ne_nil]

/-- The digits of a number have the number as their value. -/
theorem valueOf_ofNat (n : Nat) : valueOf 10 (ofNat n) = n := by
  have hfold (digits : List Char) (hdigits : ∀ c ∈ digits, c.isDigit = true) (acc : Nat) :
      (digits.map CodePoint.ofChar).foldl (fun acc c => acc * 10 + c.digit?.getD 0) acc =
        Nat.ofDigitChars 10 digits acc := by
    induction digits generalizing acc with
    | nil => rfl
    | cons c rest ih =>
        have hdigit : (CodePoint.ofChar c).digit? = some (c.toNat - '0'.toNat) := by
          rw [CodePoint.digit?, isAsciiDigit_ofChar (hdigits c List.mem_cons_self), if_pos rfl]
          rfl
        rw [List.map_cons, List.foldl_cons, hdigit, Option.getD_some, Nat.ofDigitChars_cons,
          Nat.mul_comm acc 10]
        exact ih (fun d hd => hdigits d (List.mem_cons_of_mem c hd)) _
  rw [valueOf, ofNat, hfold _ fun c hc => Nat.isDigit_of_mem_toDigits (by decide) (by decide) hc]
  exact Nat.ofDigitChars_ten_toDigits

theorem ofNat_injective : Function.Injective ofNat := fun m n h => by
  rw [← valueOf_ofNat m, h, valueOf_ofNat]

end KeyNaming.Text
