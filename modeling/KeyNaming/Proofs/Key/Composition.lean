import KeyNaming.Proofs.Key.NumberedEscape
import KeyNaming.Proofs.Outcome

/-!
Written keys joined by a separator.

What a step of reading takes is decided by the characters it takes, so no escape
of the first text reaches over the separator and what follows is read as if
nothing stood before it. All that changes are offsets. The names and values of
the first text pair up, so they leave the pairs of the second one as they are.
-/

namespace KeyNaming

namespace Written

/-! ## What a step takes -/

/-- An escape is decoded from its own characters, whatever follows them. -/
theorem decode_take_append {follows : Text} {c : CodePoint} {length : Nat}
    (h : Escape.decode follows = .point c length) (later : Text) :
    Escape.decode (follows.take length ++ later) = .point c length := by
  cases follows with
  | nil => cases h
  | cons letter rest =>
      cases hletter : digitCount? letter with
      | some count =>
          obtain ⟨rfl, hlength, hnumeral⟩ := (decode_eq_point_iff hletter c length).mp h
          rw [List.take_succ_cons, List.cons_append, decode_eq_point_iff hletter]
          refine ⟨rfl, ?_⟩
          rw [WritesNumber, List.take_left' hlength]
          exact ⟨hlength, hnumeral⟩
      | none =>
          rw [Escape.decode, hletter] at h
          split at h
          · next d other hfind =>
            obtain ⟨rfl, rfl⟩ := Escape.point.inj h
            rw [List.take_succ_cons, List.take_zero, List.singleton_append, Escape.decode, hfind]
          · cases h

theorem Step.exists_taken {t rest : Text} {mark : Mark} (h : Step t mark rest) :
    ∃ taken, t = taken ++ rest ∧ taken.length = mark.length ∧
      ∀ later, Step (taken ++ later) mark later := by
  cases h with
  | separator => exact ⟨[':'], rfl, rfl, .separator⟩
  | plain hcolon hbackslash => exact ⟨[_], rfl, rfl, .plain hcolon hbackslash⟩
  | @escape c length follows h =>
      have htake : (follows.take length).length = length :=
        List.length_take_of_le (length_le_of_decode h)
      refine ⟨('\\' : CodePoint) :: follows.take length, ?_, ?_, fun later => ?_⟩
      · rw [List.cons_append, List.take_append_drop]
      · rw [List.length_cons, htake, Mark.length]
      · have hstep := Step.escape (decode_take_append h later)
        rwa [List.drop_left' htake] at hstep

/-- What was read is read again with anything behind it. -/
theorem Reads.exists_taken {t rest : Text} {marks : List Mark} (h : Reads t marks rest) :
    ∃ taken, t = taken ++ rest ∧ taken.length = width marks ∧
      ∀ later, Reads (taken ++ later) marks later := by
  induction h with
  | here t => exact ⟨[], rfl, rfl, .here⟩
  | @step t middle rest mark marks hstep _ ih =>
      obtain ⟨first, rfl, hfirst, hlocal⟩ := hstep.exists_taken
      obtain ⟨others, rfl, hothers, hreads⟩ := ih
      refine ⟨first ++ others, (List.append_assoc _ _ _).symm, ?_, fun later => ?_⟩
      · rw [List.length_append, hfirst, hothers, width, width, List.map_cons, List.sum_cons]
      · rw [List.append_assoc]
        exact .step (hlocal _) (hreads later)

/-- A text that is read to its end is read so with anything behind it. -/
theorem Reads.append {t : Text} {marks : List Mark} (h : Reads t marks []) (later : Text) :
    width marks = t.length ∧ Reads (t ++ later) marks later := by
  obtain ⟨taken, rfl, hlength, hreads⟩ := h.exists_taken
  rw [List.append_nil]
  exact ⟨hlength.symm, hreads later⟩

/-! ## Offsets -/

/-- An error found so much further on. -/
def Error.shift (distance : Nat) : Error → Error
  | .malformed offset => .malformed (distance + offset)
  | .invalidEscape offset => .invalidEscape (distance + offset)
  | .numberTooLarge => .numberTooLarge

/-- A token that starts so much further on. -/
def Token.shift (distance : Nat) (token : Token) : Token :=
  ⟨distance + token.start, token.text⟩

variable (distance : Nat)

theorem mapError_map {α β : Type} (x : Except Error α) (f : α → β) :
    (x.map f).mapError (Error.shift distance) = (x.mapError (Error.shift distance)).map f := by
  cases x <;> rfl

theorem marksFrom_shift (offset skip : Nat) (t : Text) :
    marksFrom (distance + offset) skip t =
      (marksFrom offset skip t).mapError (Error.shift distance) := by
  fun_induction marksFrom offset skip t with
  | case1 => rfl
  | case2 offset skip c rest ih => exact ih
  | case3 offset c rest hcolon ih =>
      rw [marksFrom, if_pos hcolon, mapError_map, ← ih, Nat.add_assoc]
  | case4 offset c rest hcolon hbackslash hdecode =>
      rw [marksFrom, if_neg hcolon, if_pos hbackslash, hdecode]
      rfl
  | case5 offset c rest hcolon hbackslash hdecode =>
      rw [marksFrom, if_neg hcolon, if_pos hbackslash, hdecode]
      rfl
  | case6 offset c rest hcolon hbackslash d length hdecode ih =>
      rw [marksFrom, if_neg hcolon, if_pos hbackslash, hdecode]
      dsimp only
      rw [mapError_map, ← ih, Nat.add_assoc]
  | case7 offset c rest hcolon hbackslash ih =>
      rw [marksFrom, if_neg hcolon, if_neg hbackslash, mapError_map, ← ih, Nat.add_assoc]

theorem tokensFrom_shift (offset : Nat) (marks : List Mark) :
    tokensFrom (distance + offset) marks =
      ((tokensFrom offset marks).1.shift distance,
        (tokensFrom offset marks).2.map (Token.shift distance)) := by
  induction marks generalizing offset with
  | nil => rfl
  | cons mark rest ih =>
      cases mark with
      | separator =>
          rw [tokensFrom, tokensFrom, Nat.add_assoc, ih]
          rfl
      | point c length =>
          rw [tokensFrom, tokensFrom, Nat.add_assoc, ih]
          rfl

/-- A separator ends the tokens before it and begins new ones. -/
theorem tokensFrom_append (offset : Nat) (before after : List Mark) :
    tokensFrom offset (before ++ .separator :: after) =
      ((tokensFrom offset before).1, (tokensFrom offset before).2 ++
        (tokensFrom (offset + width before + 1) after).1 ::
          (tokensFrom (offset + width before + 1) after).2) := by
  induction before generalizing offset with
  | nil => rfl
  | cons mark before ih =>
      have hwidth (n : Nat) : offset + n + width before = offset + (n + width before) :=
        Nat.add_assoc _ _ _
      cases mark with
      | separator =>
          rw [List.cons_append, tokensFrom, ih, tokensFrom, hwidth]
          rfl
      | point c length =>
          rw [List.cons_append, tokensFrom, ih, tokensFrom, hwidth]
          rfl

/-! ## Names and values -/

/-- The tokens of two texts, those of the second one behind those of the first. -/
theorem tokens_append_separator {first : Text} {tokens₁ : Token × List Token}
    (h : tokens first = .ok tokens₁) (second : Text) :
    tokens (first ++ (':' : CodePoint) :: second) =
      ((tokens second).mapError (Error.shift (first.length + 1))).map fun tokens₂ =>
        (tokens₁.1, tokens₁.2 ++ tokens₂.1.shift (first.length + 1) ::
          tokens₂.2.map (Token.shift (first.length + 1))) := by
  obtain ⟨marks, hreads, rfl⟩ := (tokens_eq_ok_iff first tokens₁).mp h
  obtain ⟨hwidth, hjoined⟩ := hreads.append ((':' : CodePoint) :: second)
  rw [tokens_of_reads hjoined, marksFrom_separator, hwidth, tokens, ← mapError_map,
    marksFrom_shift (first.length + 1) 0]
  cases marksFrom 0 0 second with
  | error e => rfl
  | ok later =>
      simp only [Except.map, Except.mapError]
      rw [tokensFrom_append, Nat.zero_add, hwidth, tokensFrom_shift (first.length + 1) 0]

/-- Whether a token stands where a name stands, and is empty. -/
def isEmptyName (entry : Token × Nat) : Bool :=
  entry.2 % 2 == 0 && entry.1.text.isEmpty

/-- The names and values that tokens pair up to, if no name is empty. -/
def pairsOf (all : List Token) : Except Error (List (Text × Text)) := do
  let pairs ← pairUp all
  match all.zipIdx.find? isEmptyName with
  | some (token, _) => .error (.malformed token.start)
  | none => pure pairs

theorem pairs_eq (t : Text) :
    pairs t = (tokens t).bind fun tokens => pairsOf (tokens.1 :: tokens.2) := rfl

theorem pairUp_append {a : List Token} {pairs : List (Text × Text)} (h : pairUp a = .ok pairs)
    (b : List Token) : pairUp (a ++ b) = (pairUp b).map (pairs ++ ·) := by
  fun_induction pairUp a generalizing pairs with
  | case1 =>
      obtain rfl := Except.ok.inj h
      cases hb : pairUp b <;> simp [hb, Except.map]
  | case2 => cases h
  | case3 => cases h
  | case4 name value rest others hrest ih =>
      obtain rfl := Except.ok.inj h
      rw [List.cons_append, List.cons_append, pairUp, ih hrest]
      cases pairUp b <;> rfl

theorem length_of_pairUp {a : List Token} {pairs : List (Text × Text)} (h : pairUp a = .ok pairs) :
    a.length = 2 * pairs.length := by
  fun_induction pairUp a generalizing pairs with
  | case1 =>
      obtain rfl := Except.ok.inj h
      rfl
  | case2 => cases h
  | case3 => cases h
  | case4 name value rest others hrest ih =>
      obtain rfl := Except.ok.inj h
      rw [List.length_cons, List.length_cons, List.length_cons, ih hrest]
      omega

theorem pairUp_shift (tokens : List Token) :
    pairUp (tokens.map (Token.shift distance)) =
      (pairUp tokens).mapError (Error.shift distance) := by
  fun_induction pairUp tokens with
  | case1 => rfl
  | case2 => rfl
  | case3 name value rest e hrest ih =>
      rw [List.map_cons, List.map_cons, pairUp, ih, hrest]
      rfl
  | case4 name value rest others hrest ih =>
      rw [List.map_cons, List.map_cons, pairUp, ih, hrest]
      rfl

/-- Behind pairs, names stand at the same places as before. -/
theorem find?_zipIdx_even {n : Nat} (hn : n % 2 = 0) (tokens : List Token) :
    ((tokens.zipIdx n).find? isEmptyName).map Prod.fst =
      (tokens.zipIdx.find? isEmptyName).map Prod.fst := by
  have hsame : isEmptyName ∘ (fun entry : Token × Nat => (entry.1, n + entry.2)) =
      isEmptyName := by
    funext entry
    have hparity : (n + entry.2) % 2 = entry.2 % 2 := by omega
    simp only [Function.comp_apply, isEmptyName, hparity]
  rw [List.zipIdx_eq_map_add, List.find?_map, hsame, Option.map_map]
  rfl

theorem find?_zipIdx_shift (tokens : List Token) :
    ((tokens.map (Token.shift distance)).zipIdx.find? isEmptyName).map Prod.fst =
      ((tokens.zipIdx.find? isEmptyName).map Prod.fst).map (Token.shift distance) := by
  rw [List.zipIdx_map, List.find?_map, Option.map_map, Option.map_map]
  rfl

/-- What tokens pair up to, by the first empty name alone. -/
theorem pairsOf_eq (all : List Token) :
    pairsOf all = (pairUp all).bind fun pairs =>
      match (all.zipIdx.find? isEmptyName).map Prod.fst with
      | some token => .error (.malformed token.start)
      | none => .ok pairs := by
  rw [pairsOf]
  cases all.zipIdx.find? isEmptyName <;> rfl

theorem pairsOf_append {a : List Token} {pairs : List (Text × Text)} (h : pairsOf a = .ok pairs)
    (b : List Token) : pairsOf (a ++ b) = (pairsOf b).map (pairs ++ ·) := by
  rw [pairsOf_eq] at h
  cases hpaired : pairUp a with
  | error e =>
      rw [hpaired] at h
      cases h
  | ok paired =>
      rw [hpaired, Except.bind] at h
      have hnone : a.zipIdx.find? isEmptyName = none := by
        cases hfind : a.zipIdx.find? isEmptyName with
        | none => rfl
        | some entry =>
            rw [hfind] at h
            cases h
      rw [hnone] at h
      obtain rfl := Except.ok.inj h
      have heven : (0 + a.length) % 2 = 0 := by
        rw [length_of_pairUp hpaired]
        omega
      rw [pairsOf_eq, pairsOf_eq, pairUp_append hpaired, List.zipIdx_append, List.find?_append,
        hnone, Option.none_or, find?_zipIdx_even heven]
      cases pairUp b with
      | error e => rfl
      | ok others => cases (b.zipIdx.find? isEmptyName).map Prod.fst <;> rfl

theorem pairsOf_shift (tokens : List Token) :
    pairsOf (tokens.map (Token.shift distance)) =
      (pairsOf tokens).mapError (Error.shift distance) := by
  rw [pairsOf_eq, pairsOf_eq, pairUp_shift, find?_zipIdx_shift]
  cases pairUp tokens with
  | error e => rfl
  | ok pairs => cases (tokens.zipIdx.find? isEmptyName).map Prod.fst <;> rfl

/-- The names and values of two texts. An error of the second one is found so
much further on. -/
theorem pairs_append_separator {first : Text} {before : List (Text × Text)}
    (h : pairs first = .ok before) (second : Text) :
    pairs (first ++ (':' : CodePoint) :: second) =
      ((pairs second).mapError (Error.shift (first.length + 1))).map (before ++ ·) := by
  rw [pairs_eq] at h
  cases htokens : tokens first with
  | error e =>
      rw [htokens] at h
      cases h
  | ok tokens₁ =>
      rw [htokens, Except.bind] at h
      rw [pairs_eq, pairs_eq, tokens_append_separator htokens]
      cases tokens second with
      | error e => rfl
      | ok tokens₂ =>
          simp only [Except.map, Except.mapError, Except.bind]
          rw [← List.cons_append, pairsOf_append h, ← List.map_cons, pairsOf_shift]
          rfl

end Written

namespace Chain

theorem appendPairs_append (r : Registry) (root : Chain)
    (first second : List (Option Text × Option Text)) :
    root.appendPairs r (first ++ second) = (root.appendPairs r first).appendPairs r second :=
  List.foldl_append

theorem read_eq_map (r : Registry) (root : Chain) {t : Text} (ht : t ≠ []) :
    read r root t = (Written.pairs t).map fun pairs =>
      root.appendPairs r (pairs.map fun (name, value) => (some name, some value)) := by
  rw [read, if_neg (by simpa using ht)]
  cases Written.pairs t <;> rfl

variable {r : Registry} {root key : Chain} {first second : Text}

/-- Reading goes on behind a key that was read, with the key as the root. -/
theorem read_append_separator (hfirst : first ≠ []) (hsecond : second ≠ [])
    (h : read r root first = .ok key) :
    read r root (first ++ (':' : CodePoint) :: second) =
      (read r key second).mapError (Written.Error.shift (first.length + 1)) := by
  rw [read_eq_map r root hfirst] at h
  cases hpairs : Written.pairs first with
  | error e =>
      rw [hpairs] at h
      cases h
  | ok before =>
      rw [hpairs] at h
      obtain rfl := Except.ok.inj h
      rw [read_eq_map r root (by simp), read_eq_map r _ hsecond,
        Written.pairs_append_separator hpairs]
      cases Written.pairs second with
      | error e => rfl
      | ok after =>
          simp only [Except.map, Except.mapError, List.map_append, appendPairs_append]

/-- Whether a text is a written key depends on the text alone. -/
theorem exists_read_iff (r r' : Registry) (root root' : Chain) (t : Text) :
    (∃ key, read r root t = .ok key) ↔ ∃ key, read r' root' t = .ok key := by
  rw [read, read]
  split
  · exact iff_of_true ⟨root, rfl⟩ ⟨root', rfl⟩
  · cases Written.pairs t with
    | ok pairs => exact iff_of_true ⟨_, rfl⟩ ⟨_, rfl⟩
    | error e =>
        apply iff_of_false
        · rintro ⟨key, h⟩
          cases h
        · rintro ⟨key, h⟩
          cases h

/-- Behind a text that is read as a key, a separator and a second text are read
exactly if the second text is, whatever registry and root that one is read with.
What is read is then the very key that the second text is read as with the first
key as its root, so names, values and classifications are the same. -/
theorem read_joined (hfirst : first ≠ []) (hsecond : second ≠ [])
    (h : read r root first = .ok key) :
    (∀ (r' : Registry) (root' : Chain),
      (∃ joined, read r root (first ++ (':' : CodePoint) :: second) = .ok joined) ↔
        ∃ parsed, read r' root' second = .ok parsed) ∧
      ∀ joined, read r root (first ++ (':' : CodePoint) :: second) = .ok joined →
        read r key second = .ok joined := by
  have hjoined := read_append_separator hfirst hsecond h
  have hok (parsed : Chain) : read r root (first ++ (':' : CodePoint) :: second) = .ok parsed ↔
      read r key second = .ok parsed := by
    rw [hjoined]
    cases read r key second with
    | error e => exact iff_of_false nofun nofun
    | ok parsed' => exact Iff.rfl
  refine ⟨fun r' root' => ?_, fun joined hread => (hok joined).mp hread⟩
  rw [exists_congr hok]
  exact exists_read_iff r r' key root' second

/-- A first text that ends with an escape and a second one that begins with
one, behind a root that has a structural node at its head. -/
theorem read_joined_escapes :
    ∃ root key joined parsed : Chain,
      read defaultRegistry root "\\u0063ulture:e\\x3a" = .ok key ∧
      read defaultRegistry root "\\u0063ulture:e\\x3a:\\U0000006b\\::" = .ok joined ∧
      read defaultRegistry Chain.root "\\U0000006b\\::" = .ok parsed ∧
      read defaultRegistry key "\\U0000006b\\::" = .ok joined ∧
      joined.parameters =
        ([("type", some "Ui"), ("culture", some "e:"), ("k:", some [])] : Pairs) := by
  let root := Chain.root.appendPairs defaultRegistry [(some "type", some "Ui"), (none, none)]
  obtain ⟨key, hkey, -⟩ := exists_ok_of_any
    (read defaultRegistry root "\\u0063ulture:e\\x3a") (fun _ => true) (by decide +kernel)
  obtain ⟨joined, hjoined, hparameters⟩ := exists_ok_of_any
    (read defaultRegistry root "\\u0063ulture:e\\x3a:\\U0000006b\\::")
    (fun joined => decide (joined.parameters =
      ([("type", some "Ui"), ("culture", some "e:"), ("k:", some [])] : Pairs)))
    (by decide +kernel)
  have hne : Text.ofString "\\U0000006b\\::" ≠ [] := by decide
  obtain ⟨hiff, hsame⟩ := read_joined (by decide) hne hkey
  obtain ⟨parsed, hparsed⟩ := (hiff defaultRegistry Chain.root).mp ⟨joined, hjoined⟩
  exact ⟨root, key, joined, parsed, hkey, hjoined, hparsed, hsame joined hjoined,
    of_decide_eq_true hparameters⟩

end Chain

end KeyNaming
