import KeyNaming.Proofs.Diagnostic.Span
import KeyNaming.Proofs.Key.Composition

/-!
Where a text is at fault that is no written key.

Escapes come first: reading goes up to the first backslash that starts none.
If all escapes are good, names and values are at fault: the last one if it has
no partner, else the first name that is empty. The offset lies in the text in
each case, so there always is a span. Only an escape with a number too large for
its field is not reported.
-/

namespace KeyNaming

namespace Written

/-- The problem of an error, told by the numbers it was found at. -/
def Error.finding? (key : Text) : Error → Option Finding
  | .malformed offset => some (.malformedKey key offset)
  | .invalidEscape offset => some (.invalidKeyEscape key offset)
  | .numberTooLarge => none

/-! ## Escapes -/

/-- Whether what stands before an offset is read, and a backslash stands there
before some text. -/
structure ReadsUpTo (t : Text) (offset : Nat) (follows : Text) : Prop where
  before : ∃ found, tokens (t.take offset) = .ok found
  backslash : t.drop offset = ('\\' : CodePoint) :: follows

variable {t : Text}

theorem ReadsUpTo.lt_length {offset : Nat} {follows : Text} (h : ReadsUpTo t offset follows) :
    offset < t.length := by
  have hlength := congrArg List.length h.backslash
  rw [List.length_drop, List.length_cons] at hlength
  omega

theorem Reads.readsUpTo {marks : List Mark} {follows : Text}
    (h : Reads t marks (('\\' : CodePoint) :: follows)) : ReadsUpTo t (width marks) follows := by
  obtain ⟨taken, rfl, hlength, hreads⟩ := h.exists_taken
  refine ⟨⟨tokensFrom 0 marks, ?_⟩, ?_⟩
  · rw [← hlength, List.take_left, tokens_eq_ok_iff]
    have hend := hreads []
    rw [List.append_nil] at hend
    exact ⟨marks, hend, rfl⟩
  · rw [← hlength, List.drop_left]

theorem Escape.le_of_ofNumber {n : Int} {length : Nat}
    (h : Escape.ofNumber n length = .numberTooLarge) : 0x80000000 ≤ n := by
  rw [Escape.ofNumber] at h
  split at h
  · cases h
  · split at h
    · cases h
    · split at h
      · next hlarge => exact hlarge
      · cases h

/-- Only an escape of eight digits has room for a number that is too large. -/
theorem exists_of_decode_eq_numberTooLarge {follows : Text}
    (h : Escape.decode follows = .numberTooLarge) :
    ∃ rest n, follows = ('U' : CodePoint) :: rest ∧ WritesNumber 8 rest n ∧ 0x80000000 ≤ n := by
  cases follows with
  | nil => cases h
  | cons letter rest =>
      cases hletter : digitCount? letter with
      | none =>
          rw [Escape.decode, hletter] at h
          split at h <;> cases h
      | some count =>
          by_cases hnumber : ∃ n, WritesNumber count rest n
          · obtain ⟨n, hn⟩ := hnumber
            rw [decode_of_writesNumber hletter hn] at h
            have hlarge := Escape.le_of_ofNumber h
            -- two or four digits write less than that
            have hlt := Text.int?_lt (by decide) ((Text.int?_eq_some_iff _ _).mpr hn.2)
            rw [hn.1] at hlt
            unfold digitCount? at hletter
            split_ifs at hletter with hx hu hU
            · obtain rfl := Option.some.inj hletter
              omega
            · obtain rfl := Option.some.inj hletter
              omega
            · obtain rfl := Option.some.inj hletter
              obtain rfl := eq_of_beq hU
              exact ⟨rest, n, rfl, hn, hlarge⟩
          · rw [decode_of_not_writesNumber hletter (not_exists.mp hnumber)] at h
            cases h

/-- Whether an error is that of the first escape of a text that is none. -/
def IsEscapeFault (t : Text) : Error → Prop
  | .malformed _ => False
  | .invalidEscape offset =>
    ∃ follows, ReadsUpTo t offset follows ∧ Escape.decode follows = .invalid
  | .numberTooLarge =>
    ∃ offset rest n, ReadsUpTo t offset (('U' : CodePoint) :: rest) ∧ WritesNumber 8 rest n ∧
      0x80000000 ≤ n

theorem tokens_outcome (t : Text) : Outcome (IsEscapeFault t) (fun _ => True) (tokens t) := by
  obtain ⟨marks, rest, hreads, rfl | ⟨follows, rfl, hstuck⟩⟩ := exists_reads t
  · rw [(tokens_eq_ok_iff t _).mpr ⟨marks, hreads, rfl⟩]
    trivial
  · cases hdecode : Escape.decode follows with
    | point c length => exact absurd hdecode (hstuck c length)
    | invalid =>
        rw [tokens_of_invalid hreads hdecode]
        exact ⟨follows, hreads.readsUpTo, hdecode⟩
    | numberTooLarge =>
        rw [tokens_of_numberTooLarge hreads hdecode]
        obtain ⟨rest, n, rfl, hnumber, hlarge⟩ := exists_of_decode_eq_numberTooLarge hdecode
        exact ⟨width marks, rest, n, hreads.readsUpTo, hnumber, hlarge⟩

/-! ## Names and values -/

/-- Whether a token of a text is at fault for there being no pairs: the last one
of an odd number, or else the first empty one of those that are names. -/
inductive IsUnpaired (all : List Token) : Token → Prop where
  | last {token : Token} (odd : all.length % 2 = 1) (last : all.getLast? = some token) :
      IsUnpaired all token
  | emptyName {token : Token} {i : Nat} (even : all.length % 2 = 0) (name : i % 2 = 0)
      (here : all[i]? = some token) (empty : token.text = [])
      (first : ∀ j other, j < i → j % 2 = 0 → all[j]? = some other → other.text ≠ []) :
      IsUnpaired all token

theorem IsUnpaired.mem {all : List Token} {token : Token} (h : IsUnpaired all token) :
    token ∈ all := by
  cases h with
  | last _ hlast => exact List.mem_of_getLast? hlast
  | emptyName _ _ here => exact List.mem_of_getElem? here

theorem pairUp_outcome (all : List Token) :
    Outcome (fun e => ∃ token, e = .malformed token.start ∧ all.length % 2 = 1 ∧
      all.getLast? = some token) (fun _ => all.length % 2 = 0) (pairUp all) := by
  fun_induction pairUp all with
  | case1 => rfl
  | case2 last => exact ⟨last, rfl, rfl, rfl⟩
  | case3 name value rest e hrest ih =>
      rw [hrest] at ih
      obtain ⟨token, rfl, hodd, hlast⟩ := ih
      refine ⟨token, rfl, ?_, ?_⟩
      · rw [List.length_cons, List.length_cons]
        omega
      · rw [List.getLast?_cons, List.getLast?_cons, hlast]
        rfl
  | case4 name value rest pairs hrest ih =>
      rw [hrest] at ih
      change (rest.length + 1 + 1) % 2 = 0
      have heven : rest.length % 2 = 0 := ih
      omega

theorem pairsOf_outcome (all : List Token) :
    Outcome (fun e => ∃ token, e = .malformed token.start ∧ IsUnpaired all token)
      (fun _ => True) (pairsOf all) := by
  have hpairs := pairUp_outcome all
  rw [pairsOf]
  cases hpaired : pairUp all with
  | error e =>
      obtain ⟨token, rfl, hodd, hlast⟩ := hpairs.error hpaired
      exact ⟨token, rfl, .last hodd hlast⟩
  | ok pairs =>
      have heven := hpairs.ok hpaired
      cases hfind : all.zipIdx.find? isEmptyName with
      | none => trivial
      | some entry =>
          obtain ⟨token, i⟩ := entry
          refine ⟨token, rfl, ?_⟩
          obtain ⟨hempty, k, hk, hentry, hfirst⟩ := List.find?_eq_some_iff_getElem.mp hfind
          rw [List.getElem_zipIdx, Nat.zero_add] at hentry
          obtain ⟨rfl, rfl⟩ := Prod.mk.inj hentry
          rw [List.length_zipIdx] at hk
          simp only [isEmptyName, Bool.and_eq_true, beq_iff_eq, List.isEmpty_iff] at hempty
          refine .emptyName heven hempty.1 (List.getElem?_eq_getElem hk) hempty.2 ?_
          intro j other hj hname hother hnone
          obtain ⟨hlt, rfl⟩ := List.getElem?_eq_some_iff.mp hother
          have hnot := hfirst j hj
          rw [List.getElem_zipIdx, Nat.zero_add] at hnot
          simp [isEmptyName, hname, hnone] at hnot

/-- A token starts where its text has been read up to. -/
theorem start_le_of_mem_tokensFrom {offset : Nat} {marks : List Mark} {token : Token}
    (h : token ∈ (tokensFrom offset marks).1 :: (tokensFrom offset marks).2) :
    token.start ≤ offset + width marks := by
  induction marks generalizing offset with
  | nil =>
      obtain rfl := List.mem_singleton.mp h
      exact Nat.le_add_right _ _
  | cons mark rest ih =>
      have hwidth : offset + mark.length + width rest = offset + width (mark :: rest) := by
        rw [width, width, List.map_cons, List.sum_cons, Nat.add_assoc]
      rw [← hwidth]
      cases mark with
      | separator =>
          rcases List.mem_cons.mp h with rfl | h
          · exact (Nat.le_add_right _ _).trans (Nat.le_add_right _ _)
          · exact ih h
      | point c length =>
          rcases List.mem_cons.mp h with rfl | h
          · exact (Nat.le_add_right _ _).trans (Nat.le_add_right _ _)
          · exact ih (List.mem_cons_of_mem _ h)

theorem start_le_length {found : Token × List Token} (h : tokens t = .ok found) {token : Token}
    (htoken : token ∈ found.1 :: found.2) : token.start ≤ t.length := by
  obtain ⟨marks, hreads, rfl⟩ := (tokens_eq_ok_iff t found).mp h
  have hstart := start_le_of_mem_tokensFrom htoken
  rwa [Nat.zero_add, (hreads.append []).1] at hstart

/-! ## Diagnostics -/

/-- Names and values that do not pair up are reported from an offset in the text
to its end. -/
theorem malformed_reported {offset : Nat} (h : offset ≤ t.length) :
    ∃ d, (Error.malformed offset).diagnostic? t = some d ∧
      (Finding.malformedKey t offset).diagnostic = .ok d ∧ d.code = .malformedKey ∧
      d.PointsInto t ⟨offset, t.length, h⟩ := by
  refine ⟨.malformedKey t ⟨offset, t.length, h⟩, ?_, ?_, rfl, rfl, rfl, Nat.le_refl _⟩
  · rw [Error.diagnostic?, Span.toEnd_eq h]
  · rw [Finding.diagnostic, Span.ofInts_natCast h]
    rfl

/-- An escape is reported with the character behind its backslash, if there is
one. -/
theorem invalidEscape_reported {offset : Nat} (h : offset < t.length) :
    ∃ d, (Error.invalidEscape offset).diagnostic? t = some d ∧
      (Finding.invalidKeyEscape t offset).diagnostic = .ok d ∧ d.code = .invalidKeyEscape ∧
      d.PointsInto t ⟨offset, min (offset + 2) t.length, by omega⟩ := by
  have hle : offset ≤ min (offset + 2) t.length := by omega
  refine ⟨.invalidKeyEscape t ⟨offset, min (offset + 2) t.length, hle⟩, ?_, ?_, rfl, rfl, rfl,
    Nat.min_le_right _ _⟩
  · rw [Error.diagnostic?]
    exact congrArg _ (congrArg _ (Span.toEnd_eq hle))
  · have hstop : min ((offset : Int) + 2) (t.length : Int) =
        ((min (offset + 2) t.length : Nat) : Int) := by omega
    rw [Finding.diagnostic, hstop, Span.ofInts_natCast hle]
    rfl

end Written

namespace Chain

open Written

/-- Every text is read as a key or has a diagnostic, with a span in the text. The span
starts at the first backslash that starts no escape, everything before it being read;
or all escapes are good and it starts where a token does, which is the last one of an
odd number or else the first empty name. The one exception is an escape with a number
that is too large for its field. -/
theorem read_or_fault (r : Registry) (root : Chain) (t : Text) :
    (∃ key, read r root t = .ok key) ∨
    (∃ e f d span, read r root t = .error e ∧ e.finding? t = some f ∧ f.diagnostic = .ok d ∧
      e.diagnostic? t = some d ∧ d.PointsInto t span ∧
      ((d.code = .invalidKeyEscape ∧ ∃ follows, ReadsUpTo t span.start follows ∧
          Escape.decode follows = .invalid) ∨
        (d.code = .malformedKey ∧ ∃ first rest token, tokens t = .ok (first, rest) ∧
          IsUnpaired (first :: rest) token ∧ span.start = token.start))) ∨
    (read r root t = .error .numberTooLarge ∧ ∃ offset rest n,
      ReadsUpTo t offset (('U' : CodePoint) :: rest) ∧ WritesNumber 8 rest n ∧
        0x80000000 ≤ n) := by
  by_cases hempty : t = []
  · subst hempty
    exact .inl ⟨root, rfl⟩
  have hread := read_eq_map r root hempty
  cases htokens : tokens t with
  | error e =>
      have hfault := (tokens_outcome t).error htokens
      rw [pairs_eq, htokens] at hread
      cases e with
      | malformed offset => cases hfault
      | invalidEscape offset =>
          obtain ⟨follows, hupTo, hinvalid⟩ := hfault
          obtain ⟨d, hdiagnostic, hfinding, hcode, hinto⟩ :=
            invalidEscape_reported hupTo.lt_length
          exact .inr (.inl ⟨_, _, d, _, hread, rfl, hfinding, hdiagnostic, hinto,
            .inl ⟨hcode, follows, hupTo, hinvalid⟩⟩)
      | numberTooLarge => exact .inr (.inr ⟨hread, hfault⟩)
  | ok found =>
      rw [pairs_eq, htokens] at hread
      cases hpairs : pairsOf (found.1 :: found.2) with
      | ok pairs =>
          rw [Except.bind, hpairs] at hread
          exact .inl ⟨_, hread⟩
      | error e =>
          rw [Except.bind, hpairs] at hread
          obtain ⟨token, rfl, hunpaired⟩ := (pairsOf_outcome _).error hpairs
          have hinside := start_le_length htokens hunpaired.mem
          obtain ⟨d, hdiagnostic, hfinding, hcode, hinto⟩ := malformed_reported hinside
          exact .inr (.inl ⟨_, _, d, _, hread, rfl, hfinding, hdiagnostic, hinto,
            .inr ⟨hcode, found.1, found.2, token, rfl, hunpaired, rfl⟩⟩)

/-- Not every text that is no key has a diagnostic. -/
theorem not_diagnostic_largeNumber :
    ¬∀ (r : Registry) (root : Chain) (t : Text), (∃ key, read r root t = .ok key) ∨
      ∃ e d, read r root t = .error e ∧ e.diagnostic? t = some d := by
  intro h
  have hread : read defaultRegistry .root "k:\\UFFFFFFFF" = .error .numberTooLarge := by
    rfl
  obtain ⟨key, hkey⟩ | ⟨e, d, herror, hdiagnostic⟩ := h defaultRegistry .root "k:\\UFFFFFFFF"
  · cases hread.symm.trans hkey
  · obtain rfl := Except.error.inj (hread.symm.trans herror)
    cases hdiagnostic

end Chain

end KeyNaming
