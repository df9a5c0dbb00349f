import Mathlib.Algebra.Group.Nat.Even
import Mathlib.Data.List.DropRight
import KeyNaming.Pattern.Basic
import KeyNaming.Proofs.Regex.Steps

/-!
The anchors that are taken off an expression before it becomes a piece.

Backslashes pair up from the left, so it depends on the number of backslashes
right before it whether the `$` at the end of a source is an anchor or a
character. Stripping looks at the last of them only. It takes an anchor for a
character where it stands behind whole pairs, and leaves it in the piece.
-/

namespace KeyNaming

namespace Regex

/-! ## Backslashes at the end of a text -/

/-- How many backslashes a text ends with. -/
def backslashRun (t : Text) : Nat := (t.rtakeWhile (· == CodePoint.ofChar '\\')).length

theorem backslashRun_backslash (t : Text) :
    backslashRun (t ++ [CodePoint.ofChar '\\']) = backslashRun t + 1 := by
  have hrun := List.rtakeWhile_concat_pos (· == CodePoint.ofChar '\\') t (CodePoint.ofChar '\\')
    (beq_self_eq_true _)
  rw [backslashRun, hrun, List.length_append]
  rfl

theorem backslashRun_concat (t : Text) {c : CodePoint} (hc : c ≠ CodePoint.ofChar '\\') :
    backslashRun (t ++ [c]) = 0 := by
  rw [backslashRun, List.rtakeWhile_concat_neg _ _ _ (by simpa using hc)]
  rfl

/-- A backslash that is left over escapes the next character. -/
theorem ofText_concat_of_dangling {t : Text} (h : (Token.ofText t).2 = true) (c : CodePoint) :
    Token.ofText (t ++ [c]) = ((Token.ofText t).1 ++ [.escaped c], false) := by
  induction t using Token.ofText.induct with
  | case1 => cases h
  | case2 d hd =>
      obtain rfl : d = CodePoint.ofChar '\\' := by simpa using hd
      rfl
  | case3 d hd e rest _ _ _ ih =>
      obtain rfl : d = CodePoint.ofChar '\\' := by simpa using hd
      rw [ofText_backslash] at h ⊢
      rw [List.cons_append, List.cons_append, ofText_backslash, ih h]
      rfl
  | case4 d rest hd _ _ _ ih =>
      have hne : d ≠ CodePoint.ofChar '\\' := by simpa using hd
      rw [ofText_cons hne] at h ⊢
      rw [List.cons_append, ofText_cons hne, ih h]
      rfl

/-- One more backslash is left over if none was, and else ends a pair. -/
theorem dangling_backslash (t : Text) :
    (Token.ofText (t ++ [CodePoint.ofChar '\\'])).2 = !(Token.ofText t).2 := by
  cases hdangling : (Token.ofText t).2 with
  | true => rw [ofText_concat_of_dangling hdangling]; rfl
  | false => rw [ofText_append hdangling]; rfl

theorem not_dangling_iff (t : Text) : (Token.ofText t).2 = false ↔ Even (backslashRun t) := by
  -- each backslash at the end turns both sides, any other character starts over
  induction t using List.reverseRecOn with
  | nil => exact iff_of_true rfl Even.zero
  | append_singleton t c ih =>
      by_cases hc : c = CodePoint.ofChar '\\'
      · rw [hc, dangling_backslash, backslashRun_backslash, Nat.even_add_one, ← ih,
          Bool.not_eq_false', Bool.not_eq_false]
      · rw [backslashRun_concat t hc]
        exact iff_of_true (not_dangling_concat t hc) Even.zero

/-! ## Anchors of a source -/

/-- What stands behind the `^` at the start of a source, or all of it. -/
def behindStart (source : Text) : Text :=
  match source with
  | [] => []
  | c :: rest => if c = '^' then rest else source

/-- Whether a text ends with a `$` that no backslash escapes: those before it
are even in number. -/
def EndsInAnchor (t : Text) : Prop :=
  t.getLast? = some (CodePoint.ofChar '$') ∧ Even (backslashRun t.dropLast)

instance (t : Text) : Decidable (EndsInAnchor t) := inferInstanceAs (Decidable (_ ∧ _))

/-- A source without a leading `^`, and then without its final `$` exactly if
that is not escaped. -/
def withoutAnchors (source : Text) : Text :=
  if EndsInAnchor (behindStart source) then (behindStart source).dropLast else behindStart source

/-- A last token without a backslash is the last character, and no backslash
before that one is left over. -/
theorem eq_of_ofText_concat {before : Text} {c d : CodePoint} {tokens : List Token}
    (h : Token.ofText (before ++ [c]) = (tokens ++ [.plain d], false)) :
    c = d ∧ (Token.ofText before).2 = false := by
  cases hdangling : (Token.ofText before).2 with
  | true =>
      rw [ofText_concat_of_dangling hdangling] at h
      simp at h
  | false =>
      have hne : c ≠ CodePoint.ofChar '\\' := by
        rintro rfl
        have hlone := dangling_backslash before
        rw [h, hdangling] at hlone
        cases hlone
      rw [ofText_append hdangling, ofText_cons hne] at h
      exact ⟨by simpa [Token.ofText] using congrArg (·.1.getLast?) h, rfl⟩

/-- Reading takes a final `$` alone exactly if the backslashes before it are
even in number, and else as one token with the last of them. -/
theorem endsInAnchor_iff (t : Text) :
    EndsInAnchor t ↔ ∃ tokens, Token.ofText t = (tokens ++ [.plain '$'], false) := by
  constructor
  · rintro ⟨hlast, heven⟩
    obtain ⟨before, rfl⟩ := List.getLast?_eq_some_iff.mp hlast
    rw [List.dropLast_concat] at heven
    exact ⟨_, ofText_append ((not_dangling_iff before).mpr heven) _⟩
  · rintro ⟨tokens, htokens⟩
    obtain rfl | ⟨before, c, rfl⟩ := t.eq_nil_or_concat'
    · simp [Token.ofText] at htokens
    · obtain ⟨rfl, hdangling⟩ := eq_of_ofText_concat htokens
      refine ⟨List.getLast?_concat, ?_⟩
      rw [List.dropLast_concat]
      exact (not_dangling_iff before).mp hdangling

end Regex

/-! ## Stripping -/

open Regex

theorem tokens_behindStart {source : Text} (h : (Token.ofText source).2 = false) :
    ∃ first, (first = [] ∨ first = [.plain '^']) ∧
      (Token.ofText source).1 = first ++ (Token.ofText (behindStart source)).1 ∧
      (Token.ofText (behindStart source)).2 = false := by
  cases source with
  | nil => exact ⟨[], .inl rfl, rfl, rfl⟩
  | cons c rest =>
      rw [behindStart]
      split
      · next hc =>
        have hne : c ≠ CodePoint.ofChar '\\' := by
          rw [hc]
          decide
        rw [ofText_cons hne] at h ⊢
        exact ⟨[.plain '^'], .inr rfl, by rw [hc]; rfl, h⟩
      · exact ⟨[], .inl rfl, rfl, h⟩

/-- Stripping takes a final `$` off if no backslash at all stands before it. -/
theorem stripAnchors_eq (source : Text) :
    stripAnchors source =
      if (behindStart source).getLast? = some (CodePoint.ofChar '$') ∧
          backslashRun (behindStart source).dropLast = 0 then
        (behindStart source).dropLast
      else behindStart source := by
  have hstart : (if source.head? == some (CodePoint.ofChar '^') then source.tail else source) =
      behindStart source := by
    cases source with
    | nil => rfl
    | cons c rest => simp [behindStart]
  rw [stripAnchors, hstart]
  -- no more than the last two characters are looked at
  obtain hnil | ⟨before, c, hbody⟩ := (behindStart source).eq_nil_or_concat'
  · rw [hnil]
    rfl
  · rw [hbody, List.reverse_concat', List.getLast?_concat, List.dropLast_concat]
    obtain rfl | ⟨inner, d, rfl⟩ := before.eq_nil_or_concat'
    · simp [backslashRun]
    · rw [List.reverse_concat']
      by_cases hd : d = CodePoint.ofChar '\\'
      · simp [hd, backslashRun_backslash]
      · simp [hd, backslashRun_concat]

/-- What is stripped of a source is an anchor at its start and one at its end. -/
theorem tokens_stripAnchors {source : Text} (h : (Token.ofText source).2 = false) :
    ∃ first last, (first = [] ∨ first = [.plain '^']) ∧ (last = [] ∨ last = [.plain '$']) ∧
      (Token.ofText source).1 = first ++ ((Token.ofText (stripAnchors source)).1 ++ last) ∧
      (Token.ofText (stripAnchors source)).2 = false := by
  obtain ⟨first, hfirst, htokens, hdangling⟩ := tokens_behindStart h
  rw [stripAnchors_eq, htokens]
  split
  · next hends =>
    obtain ⟨hlast, hrun⟩ := hends
    obtain ⟨before, hbefore⟩ := List.getLast?_eq_some_iff.mp hlast
    rw [hbefore, List.dropLast_concat] at hrun ⊢
    have hinner : (Token.ofText before).2 = false := by
      rw [not_dangling_iff, hrun]
      exact Even.zero
    refine ⟨first, [.plain '$'], hfirst, .inr rfl, ?_, hinner⟩
    rw [ofText_append hinner]
    rfl
  · exact ⟨first, [], hfirst, .inl rfl, by rw [List.append_nil], hdangling⟩

/-- A final `$` is a token without a backslash exactly if the backslashes before it are
even in number. Stripping keeps it if there are any of them, and this is the only case
where the outcome is not the source without the anchors at its ends. -/
theorem stripAnchors_eq_withoutAnchors_iff (source : Text) :
    (EndsInAnchor (behindStart source) ↔
      ∃ tokens, Token.ofText (behindStart source) = (tokens ++ [.plain '$'], false)) ∧
    (stripAnchors source = withoutAnchors source ↔
      ¬(EndsInAnchor (behindStart source) ∧ 0 < backslashRun (behindStart source).dropLast)) ∧
    (stripAnchors source = withoutAnchors source ∨
      stripAnchors source = behindStart source ∧
        behindStart source = withoutAnchors source ++ [CodePoint.ofChar '$']) := by
  refine ⟨endsInAnchor_iff _, ?_⟩
  rw [stripAnchors_eq, withoutAnchors]
  by_cases hanchor : EndsInAnchor (behindStart source)
  · obtain ⟨before, hbefore⟩ := List.getLast?_eq_some_iff.mp hanchor.1
    rw [if_pos hanchor]
    rw [hbefore] at hanchor ⊢
    rw [List.getLast?_concat, List.dropLast_concat]
    rcases Nat.eq_zero_or_pos (backslashRun before) with hnone | hpairs
    · rw [if_pos ⟨rfl, hnone⟩]
      exact ⟨iff_of_true rfl fun h => h.2.ne' hnone, .inl rfl⟩
    · rw [if_neg fun h => hpairs.ne' h.2]
      exact ⟨iff_of_false (by simp) (not_not_intro ⟨hanchor, hpairs⟩), .inr ⟨rfl, rfl⟩⟩
  · have hkept : ¬((behindStart source).getLast? = some (CodePoint.ofChar '$') ∧
        backslashRun (behindStart source).dropLast = 0) := by
      rintro ⟨hlast, hnone⟩
      exact hanchor ⟨hlast, hnone ▸ Even.zero⟩
    rw [if_neg hanchor, if_neg hkept]
    exact ⟨iff_of_true rfl fun h => hanchor h.1, .inl rfl⟩

/-- An escaped backslash before the final `$` keeps that from being stripped. -/
theorem not_stripAnchors_eq_withoutAnchors :
    ¬∀ source, stripAnchors source = withoutAnchors source := by
  intro h
  exact absurd (h "a\\\\$") (by decide)

end KeyNaming
