import KeyNaming.Proofs.Diagnostic.Span
import KeyNaming.Proofs.Template.Spans

/-!
What in a template is at fault.

Each reader works on what is left of a template, so where it stops is told by
what stands before. A fault of reading thus has a span that covers a piece of
the template, and the piece is of the kind that the fault is about: a bracket,
an escape, a part or a regular expression as far as it goes.
-/

namespace KeyNaming

namespace Template

/-- Whether a template is read, but the expression of its parts is rejected: in
the piece of the part with an index, or in no piece. -/
structure IsRejected (r : Registry) (t : Text) (parts : List Part) (index : Option Nat) :
    Prop where
  read : ∃ drafts, Template.read r t = .ok drafts ∧ assign drafts = parts
  rejected : ∃ cause position,
    Regex.compile (regexSource parts [] .all) = .error (.rejected cause position) ∧
      (position.bind fun p => partAt parts [] (p : Int)) = index

/-- What of a template a diagnostic of each kind is about: a piece of the
template that a span covers. -/
inductive Offends (r : Registry) (t : Text) (span : Span) : Diagnostic.Code → Text → Prop where
  | bracket (c : CodePoint) (hc : (isBracket c || isAngle c) = true) :
      Offends r t span .unexpectedBracket [c]
  | unclosedPart (required : Bool) (rest : Text) (hstop : span.stop = t.length) :
      Offends r t span .unterminatedPart (openingBracket required :: rest)
  /-- A part with separator text only. -/
  | namelessPart (required : Bool) (a : Run (Glyph.isSeparator true)) :
      Offends r t span .missingIdentifier
        (openingBracket required :: a.written ++ [closingBracket required])
  | unknownEscape (c : CodePoint) (hc : isEscapable c = false) :
      Offends r t span .unknownEscape ['\\', c]
  | trailingEscape (hstop : span.stop = t.length) : Offends r t span .trailingEscape ['\\']
  /-- A regular expression that goes on to the end of the template, where half
  an escape may stand. -/
  | unclosedRegex (a : Run Glyph.isRegex) (last : Text) (hlast : last = [] ∨ last = ['\\'])
      (hstop : span.stop = t.length) :
      Offends r t span .unterminatedRegex (('<' : CodePoint) :: a.written ++ last)
  /-- A regular expression that is rejected by itself. -/
  | inlineRegex (a : Run Glyph.isRegex) (cause : Regex.Cause) (position : Option Nat)
      (hrejected : Regex.compile a.source = .error (.rejected cause position)) :
      Offends r t span .invalidRegex (('<' : CodePoint) :: a.written ++ [('>' : CodePoint)])
  /-- A regular expression of a part, in whose piece the whole is rejected. -/
  | regexOfPart (parts : List Part) (i : Nat) (c : Capture Occurrence) (between : Text)
      (hrejected : IsRejected r t parts (some i)) (hpart : parts[i]? = some (.capture c))
      (hspan : c.regexSpan = some span) (hsource : c.regex.source = unescapeAngles between) :
      Offends r t span .invalidRegex (('<' : CodePoint) :: between ++ [('>' : CodePoint)])
  /-- A part that writes no regular expression, in whose piece the whole is
  rejected. -/
  | part (parts : List Part) (i : Nat) (part : Part) (hrejected : IsRejected r t parts (some i))
      (hpart : parts[i]? = some part) (hplain : ∀ c, part = .capture c → c.regexSpan = none)
      (hstart : span.start = startOf parts i) : Offends r t span .invalidRegex part.written
  /-- The whole template, if it is rejected in no piece. -/
  | whole (parts : List Part) (hrejected : IsRejected r t parts none) :
      Offends r t span .invalidRegex t
  /-- A part with the identifier of an earlier one, regardless of case. -/
  | repeatedPart (drafts : List Draft) (i j : Nat) (c d : Capture Occurrence)
      (hread : Template.read r t = .ok drafts) (hlt : i < j)
      (hfirst : (assign drafts)[i]? = some (.capture c))
      (hsecond : (assign drafts)[j]? = some (.capture d))
      (hsame : c.identifier.lower = d.identifier.lower)
      (hstart : span.start = startOf (assign drafts) j) :
      Offends r t span .duplicateIdentifier d.written

/-- Whether the span of a fault covers what is at fault in a template. -/
def Fault.IsFound (r : Registry) (t : Text) (f : Fault) : Prop :=
  ∃ span piece, (f.diagnostic t).span = some span ∧ span.Covers t piece ∧
    Offends r t span (f.diagnostic t).code piece

def Error.IsFound (r : Registry) (t : Text) : Error → Prop
  | .fault f => f.IsFound r t
  | _ => True

variable {r : Registry} {template : Text}

theorem isSuffix_of_cons {c : CodePoint} {t : Text} (h : c :: t <:+ template) : t <:+ template :=
  (List.suffix_cons c t).trans h

theorem isSuffix_of_append {before t : Text} (h : before ++ t <:+ template) : t <:+ template :=
  (List.suffix_append before t).trans h

/-! ## Single characters and escapes -/

theorem offsetOf_length_append (before rest : Text) :
    offsetOf (before ++ rest).length rest = before.length := by
  rw [offsetOf, List.length_append, Nat.add_sub_cancel]

theorem isFound_unexpectedBracket {c : CodePoint} {rest : Text}
    (hc : (isBracket c || isAngle c) = true) (h : c :: rest <:+ template) :
    (Fault.unexpectedBracket (offsetOf template.length (c :: rest)) c).IsFound r template := by
  obtain ⟨before, rfl⟩ := h
  rw [offsetOf_length_append]
  exact ⟨_, [c], rfl, Span.covers_ofLength rfl (List.cons_ne_nil c []), .bracket c hc⟩

theorem isFound_unknownEscape {c : CodePoint} {rest : Text} (hc : isEscapable c = false)
    (h : ('\\' : CodePoint) :: c :: rest <:+ template) :
    (Fault.unknownEscape (offsetOf template.length (('\\' : CodePoint) :: c :: rest))).IsFound r
      template := by
  obtain ⟨before, rfl⟩ := h
  rw [offsetOf_length_append]
  exact ⟨_, ['\\', c], rfl, Span.covers_ofLength rfl (List.cons_ne_nil _ [c]),
    .unknownEscape c hc⟩

theorem isFound_trailingEscape (h : [('\\' : CodePoint)] <:+ template) :
    Fault.trailingEscape.IsFound r template := by
  obtain ⟨before, rfl⟩ := h
  have hlength : (before ++ [('\\' : CodePoint)]).length - 1 = before.length := by simp
  refine ⟨_, ['\\'], rfl, ?_, .trailingEscape ?_⟩
  · rw [hlength]
    exact Span.covers_ofLength rfl (List.cons_ne_nil _ [])
  · simp [Span.ofLength]

theorem readLiteral_found {t : Text} (ht : t <:+ template) :
    Outcome (Fault.IsFound r template) (fun _ => True) (readLiteral template.length t) := by
  fun_induction readLiteral template.length t with
  | case1 => trivial
  | case2 => trivial
  | case3 c rest hopen hbracket => exact isFound_unexpectedBracket (by simp [hbracket]) ht
  | case4 c hopen hbracket hescape =>
      obtain rfl : c = '\\' := by simpa using hescape
      exact isFound_trailingEscape ht
  | case5 c hopen hbracket hescape d rest hd ih =>
      exact (ih (isSuffix_of_cons (isSuffix_of_cons ht))).map
  | case6 c hopen hbracket hescape d rest hd =>
      obtain rfl : c = '\\' := by simpa using hescape
      exact isFound_unknownEscape (by simpa using hd) ht
  | case7 c rest hopen hbracket hescape ih => exact (ih (isSuffix_of_cons ht)).map

theorem readSeparator_found {closer : CodePoint} {beforeName : Bool} {t : Text}
    (ht : t <:+ template) :
    Outcome (Fault.IsFound r template) (fun _ => True)
      (readSeparator template.length closer beforeName t) := by
  fun_induction readSeparator template.length closer beforeName t with
  | case1 => trivial
  | case2 => trivial
  | case3 c rest hend hbracket => exact isFound_unexpectedBracket hbracket ht
  | case4 c hend hbracket hescape =>
      obtain rfl : c = '\\' := by simpa using hescape
      exact isFound_trailingEscape ht
  | case5 c hend hbracket hescape d rest hd ih =>
      exact (ih (isSuffix_of_cons (isSuffix_of_cons ht))).map
  | case6 c hend hbracket hescape d rest hd =>
      obtain rfl : c = '\\' := by simpa using hescape
      exact isFound_unknownEscape (by simpa using hd) ht
  | case7 c rest hend hbracket hescape ih => exact (ih (isSuffix_of_cons ht)).map

/-! ## Regular expressions -/

theorem isFound_unterminatedRegex {before : Text} (a : Run Glyph.isRegex) {last : Text}
    (hlast : last = [] ∨ last = [('\\' : CodePoint)])
    (h : template = before ++ ('<' : CodePoint) :: (a.written ++ last)) :
    (Fault.unterminatedRegex before.length).IsFound r template := by
  obtain ⟨hcovers, hstop⟩ := Span.covers_toEnd_length h (List.cons_ne_nil _ _)
  exact ⟨_, _, rfl, hcovers, .unclosedRegex a last hlast hstop⟩

/-- What was read of a regular expression stands between its opening bracket and
what is left. -/
theorem readRegexSource_found {before t : Text} (a : Run Glyph.isRegex)
    (h : template = before ++ ('<' : CodePoint) :: (a.written ++ t)) :
    Outcome (Fault.IsFound r template) (fun _ => True)
      (readRegexSource template.length before.length t) := by
  have hsuffix : t <:+ template := by
    have hregex : ('<' : CodePoint) :: (a.written ++ t) <:+ template := ⟨before, h.symm⟩
    exact isSuffix_of_append (isSuffix_of_cons hregex)
  -- what was read grows by a glyph with each step, what is left shrinks by it
  fun_induction readRegexSource template.length before.length t generalizing a with
  | case1 => exact isFound_unterminatedRegex a (.inl rfl) h
  | case2 => trivial
  | case3 c rest hend hangle =>
      obtain rfl : c = '<' := by simpa using hangle
      exact isFound_unexpectedBracket rfl hsuffix
  | case4 c hend hangle hescape =>
      obtain rfl : c = '\\' := by simpa using hescape
      exact isFound_unterminatedRegex a (.inr rfl) h
  | case5 c hend hangle hescape d rest ih =>
      obtain rfl : c = '\\' := by simpa using hescape
      apply Outcome.map
      refine ih (a.append ⟨[⟨true, d⟩], by simp [Glyph.isRegex]⟩) ?_ ?_
      · rw [h, Run.written_append]
        simp [Run.written, Glyph.written]
      · exact isSuffix_of_cons (isSuffix_of_cons hsuffix)
  | case6 c rest hend hangle hescape ih =>
      have hc : Glyph.isRegex ⟨false, c⟩ = true := by
        simp only [beq_iff_eq] at hend hangle hescape
        simp [Glyph.isRegex, isAngle, hend, hangle, hescape]
      apply Outcome.map
      refine ih (a.append ⟨[⟨false, c⟩], by simpa using hc⟩) ?_ ?_
      · rw [h, Run.written_append]
        simp [Run.written, Glyph.written]
      · exact isSuffix_of_cons hsuffix

theorem readRegex_found {t : Text} (ht : t <:+ template) :
    Outcome (Error.IsFound r template) (fun _ => True) (readRegex template.length t) := by
  unfold readRegex
  split
  · trivial
  · next c rest =>
    split
    · trivial
    · next hc =>
      obtain rfl : c = '<' := by simpa using hc
      obtain ⟨before, rfl⟩ := ht
      dsimp only
      rw [offsetOf_length_append]
      split
      · next f hf =>
        exact (readRegexSource_found (r := r) ⟨[], by simp⟩ rfl).error hf
      · next source left hok =>
        obtain ⟨a, rfl, rfl⟩ := (readRegexSource_outcome _ _ rest).ok hok
        split
        · trivial
        · next cause position hrejected =>
          refine ⟨_, ('<' : CodePoint) :: (a.written ++ [('>' : CodePoint)]), rfl, ?_,
            .inlineRegex a cause position hrejected⟩
          have hcut : ('<' : CodePoint) :: (a.written ++ ('>' : CodePoint) :: left) =
              ('<' : CodePoint) :: (a.written ++ [('>' : CodePoint)]) ++ left := by simp
          rw [hcut, List.length_append, Nat.add_sub_cancel]
          exact Span.covers_ofLength rfl (List.cons_ne_nil _ _)
        · trivial

/-! ## Parts -/

theorem occurrence?_found (s : Suffix) :
    Outcome (Error.IsFound r template) (fun _ => True) s.occurrence? := by
  cases s with
  | none => trivial
  | last => trivial
  | number digits =>
      rw [Suffix.occurrence?]
      split <;> trivial

theorem isFound_unterminatedPart {required : Bool} {rest : Text}
    (h : openingBracket required :: rest <:+ template) :
    (Fault.unterminatedPart (offsetOf template.length (openingBracket required :: rest))
      (closingBracket required)).IsFound r template := by
  obtain ⟨before, rfl⟩ := h
  rw [offsetOf_length_append]
  obtain ⟨hcovers, hstop⟩ := Span.covers_toEnd_length rfl
    (List.cons_ne_nil (openingBracket required) rest)
  exact ⟨_, _, rfl, hcovers, .unclosedPart required rest hstop⟩

theorem isFound_missingIdentifier {required : Bool} (a : Run (Glyph.isSeparator true))
    {left : Text}
    (h : openingBracket required :: (a.written ++ closingBracket required :: left) <:+ template) :
    (Fault.missingIdentifier
      (offsetOf template.length
        (openingBracket required :: (a.written ++ closingBracket required :: left)))
      (offsetOf template.length (closingBracket required :: left))).IsFound r template := by
  let piece := openingBracket required :: (a.written ++ [closingBracket required])
  obtain ⟨before, rfl⟩ := h
  have hcut : before ++ openingBracket required :: (a.written ++ closingBracket required :: left) =
      before ++ (piece ++ left) := by simp [piece]
  have hstop : Nat.min (offsetOf (before ++ (piece ++ left)).length
      (closingBracket required :: left) + 1) (before ++ (piece ++ left)).length =
        before.length + piece.length := by
    simp only [offsetOf, piece, Nat.min_def, List.length_append, List.length_cons,
      List.length_nil]
    split <;> omega
  refine ⟨_, piece, rfl, ?_, .namelessPart required a⟩
  rw [offsetOf_length_append, hcut, hstop]
  exact Span.covers_toEnd rfl (List.cons_ne_nil _ _)

theorem readPart_found {c closer : CodePoint} {rest : Text} (hc : closerOf? c = some closer)
    (ht : c :: rest <:+ template) :
    Outcome (Error.IsFound r template) (fun _ => True)
      (readPart template.length r (c :: rest) closer) := by
  obtain ⟨required, rfl, rfl⟩ := (closerOf?_eq_some_iff c closer).mp hc
  have hseparator (beforeName : Bool) {t : Text} (hsuffix : t <:+ template) :=
    Outcome.orFault (Outcome.of_ok_of_error (E := fun f => Error.IsFound r template (.fault f))
      (readSeparator_outcome template.length (closingBracket required) beforeName t)
      (readSeparator_found hsuffix))
  have hrest : rest <:+ template := isSuffix_of_cons ht
  unfold readPart
  refine (hseparator true hrest).bind ?_
  rintro ⟨leadingText, afterLeading⟩ ⟨leading, hleading, -, hends⟩
  dsimp only at *
  split
  · exact isFound_unterminatedPart ht
  split
  · next hempty hletter =>
    cases afterLeading with
    | nil => exact absurd rfl hempty
    | cons d left =>
        -- a separator before a name ends at a letter or at the closer
        have hnoLetter : d.isAsciiLetter = false := by simpa using hletter
        obtain rfl : d = closingBracket required := by simpa [hnoLetter] using hends d rfl
        subst hleading
        exact isFound_missingIdentifier leading ht
  refine (occurrence?_found _).bind ?_
  rintro occurrence -
  have hbehind : afterLeading.dropWhile CodePoint.isAsciiWord <:+ template :=
    (List.dropWhile_suffix _).trans (isSuffix_of_append (hleading ▸ hrest))
  refine (Outcome.of_ok_of_error (readRegex_outcome _ _) (readRegex_found hbehind)).bind ?_
  rintro ⟨inline, afterRegex⟩ hinline
  dsimp only at *
  have hafter : afterRegex <:+ template := by
    rcases hinline with ⟨-, rfl, -⟩ | ⟨a, regex, span, -, -, hregex⟩
    · exact hbehind
    · rw [hregex] at hbehind
      exact isSuffix_of_cons (isSuffix_of_append hbehind)
  refine (hseparator false hafter).bind ?_
  rintro ⟨trailingText, afterTrailing⟩ -
  dsimp only
  split
  · exact isFound_unterminatedPart ht
  · trivial

/-! ## Templates -/

theorem readDraft_found {c : CodePoint} {rest : Text} (ht : c :: rest <:+ template) :
    Outcome (Error.IsFound r template) (fun _ => True)
      (readDraft template.length r (c :: rest)) := by
  rw [readDraft, List.head?_cons, Option.bind_some]
  cases hcloser : closerOf? c with
  | some closer => exact readPart_found hcloser ht
  | none => exact (Outcome.orFault (readLiteral_found ht)).map

theorem readDrafts_found (fuel : Nat) {t : Text} (ht : t <:+ template) :
    Outcome (Error.IsFound r template) (fun _ => True)
      (readDrafts template.length r fuel t) := by
  induction fuel generalizing t with
  | zero => trivial
  | succ fuel ih =>
      cases t with
      | nil => trivial
      | cons c rest =>
          rw [readDrafts_cons]
          have hdraft := Outcome.of_ok_of_error (readDraft_outcome _ r c rest) (readDraft_found ht)
          refine hdraft.bind ?_
          rintro ⟨draft, left⟩ ⟨a, hwritten, -⟩
          dsimp only at hwritten ⊢
          rw [hwritten] at ht
          exact (ih (isSuffix_of_append ht)).bind fun _ _ => trivial

/-- What stops the reading of a template stands in it. -/
theorem read_found (r : Registry) (template : Text) :
    Outcome (Error.IsFound r template) (fun _ => True) (Template.read r template) :=
  readDrafts_found template.length List.suffix_rfl

end Template

end KeyNaming
