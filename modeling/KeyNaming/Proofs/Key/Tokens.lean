import KeyNaming.Proofs.Key.WrittenForm

/-!
Texts that are escaped and joined.

Whatever texts are escaped and joined with colons, they are the tokens of what
was joined, the empty ones at its ends included, and each token starts where the
escaped form of its text does. So a single text is read back from its escaped
form.
-/

namespace KeyNaming.Written

/-- What the texts in front of a place are written as, each with a colon behind
it. -/
def writtenBefore (texts : List Text) (i : Nat) : Text :=
  (texts.take i).flatMap fun t => escape t ++ [(':' : CodePoint)]

theorem writtenBefore_succ (first : Text) (rest : List Text) (i : Nat) :
    writtenBefore (first :: rest) (i + 1) =
      escape first ++ (':' : CodePoint) :: writtenBefore rest i := by
  rw [writtenBefore, List.take_succ_cons, List.flatMap_cons, List.append_assoc]
  rfl

theorem getElem?_placedFrom (offset : Nat) (texts : List Text) (i : Nat) :
    (placedFrom offset texts)[i]? =
      texts[i]?.map fun t => ⟨offset + (writtenBefore texts i).length, t⟩ := by
  induction texts generalizing offset i with
  | nil => rfl
  | cons first rest ih =>
      cases i with
      | zero => rfl
      | succ i =>
          rw [placedFrom, List.getElem?_cons_succ, ih, List.getElem?_cons_succ, writtenBefore_succ]
          congr 1
          funext t
          simp only [List.length_append, List.length_cons, Token.mk.injEq, and_true]
          omega

/-- The escaped form of each text stands behind what is written before it. -/
theorem exists_join_eq {texts : List Text} {i : Nat} {t : Text} (h : texts[i]? = some t) :
    ∃ behind, Text.join ":" (texts.map escape) =
      writtenBefore texts i ++ (escape t ++ behind) := by
  induction texts generalizing i with
  | nil => cases h
  | cons first rest ih =>
      cases rest with
      | nil =>
          obtain rfl : i = 0 := by
            have hi := (List.getElem?_eq_some_iff.mp h).1
            rw [List.length_singleton] at hi
            omega
          obtain rfl := Option.some.inj h
          refine ⟨[], ?_⟩
          rw [join_escape_singleton, List.append_nil]
          rfl
      | cons second rest =>
          cases i with
          | zero =>
              obtain rfl := Option.some.inj h
              exact ⟨_, join_escape_cons _ second rest⟩
          | succ i =>
              obtain ⟨behind, hbehind⟩ := ih h
              refine ⟨behind, ?_⟩
              rw [join_escape_cons, hbehind, writtenBefore_succ, List.append_assoc]
              rfl

/-- The tokens of texts that were escaped and joined with colons are the texts, each
with the offset where its escaped form starts; and a text is read back from its
escaped form. -/
theorem tokens_joined :
    (∀ (first : Text) (rest : List Text), ∃ token others,
      tokens (Text.join ":" ((first :: rest).map escape)) = .ok (token, others) ∧
      (token :: others).map Token.text = first :: rest ∧
      ∀ i found, (token :: others)[i]? = some found → ∃ before behind : Text,
        before = writtenBefore (first :: rest) i ∧ found.start = before.length ∧
        Text.join ":" ((first :: rest).map escape) = before ++ (escape found.text ++ behind)) ∧
    ∀ t : Text, unescape (escape t) = .ok t := by
  refine ⟨fun first rest => ?_, fun t => ?_⟩
  · have hplaced : (⟨0, first⟩ : Token) :: placedFrom ((escape first).length + 1) rest =
        placedFrom 0 (first :: rest) := by
      rw [placedFrom, Nat.zero_add]
    refine ⟨_, _, tokens_join_escape first rest, ?_, fun i found hfound => ?_⟩
    · rw [hplaced]
      apply List.ext_getElem?
      intro i
      rw [List.getElem?_map, getElem?_placedFrom, Option.map_map]
      exact congrFun Option.map_id_fun' _
    · rw [hplaced, getElem?_placedFrom] at hfound
      obtain ⟨t, ht, rfl⟩ := Option.map_eq_some_iff.mp hfound
      obtain ⟨behind, hbehind⟩ := exists_join_eq ht
      exact ⟨_, behind, rfl, Nat.zero_add _, hbehind⟩
  · have htokens := tokens_join_escape t []
    rw [join_escape_singleton] at htokens
    rw [unescape, htokens]
    rfl

/-- Empty texts at both ends, a colon and a backslash at the edge of one, and a
control character without a letter. -/
theorem tokens_joined_edges :
    ∃ token others, tokens ":\\:a\\\\:\\x7F:" = .ok (token, others) ∧
      (token :: others).map Token.text = ([[], (":a\\" : Text), "\x7f", []] : List Text) ∧
      (∀ found, (token :: others)[2]? = some found → found.start = 7) ∧
      unescape "\\:a\\\\" = .ok ":a\\" := by
  obtain ⟨hjoined, hsingle⟩ := tokens_joined
  obtain ⟨token, others, htokens, htexts, hplaces⟩ := hjoined [] [":a\\", "\x7f", []]
  refine ⟨token, others, htokens, htexts, fun found hfound => ?_, hsingle ":a\\"⟩
  obtain ⟨before, behind, rfl, hstart, -⟩ := hplaces 2 found hfound
  exact hstart

end KeyNaming.Written
