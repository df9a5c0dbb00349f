import KeyNaming.Proofs.Outcome
import KeyNaming.Proofs.Regex.Runs
import KeyNaming.Proofs.Template.Drafts
import KeyNaming.Proofs.Template.Grammar

/-!
Templates are read as their grammar says.

Each reader takes from a text exactly the run of glyphs, or the part, that a
tree of the grammar is written with, and refuses a text that no tree begins.
-/

namespace KeyNaming

/-- What of a part the trees of a template tell. -/
inductive Shape where
  | literal (written text : Text)
  | part (written leading identifier parameter regex trailing : Text) (required : Bool)

def PartOf.shape {O : Type} : PartOf O → Shape
  | .literal written text => .literal written text
  | .capture c =>
    .part c.written c.leading c.identifier c.parameter c.regex.source c.trailing c.required

namespace Shape

def written : Shape → Text
  | .literal written _ => written
  | .part written _ _ _ _ _ _ => written

def isPart : Shape → Bool
  | .literal _ _ => false
  | .part _ _ _ _ _ _ _ => true

end Shape

@[simp] theorem PartOf.written_shape {O : Type} (part : PartOf O) :
    part.shape.written = part.written := by
  cases part <;> rfl

@[simp] theorem PartOf.isPart_shape {O : Type} (part : PartOf O) :
    part.shape.isPart = part.capture?.isSome := by
  cases part <;> rfl

namespace Template

/-- The parameter that an identifier names. -/
def Identifier.parameter (i : Identifier) : Text := i.name.lower

/-- The source of the regular expression of a part. -/
def PartTree.source (r : Registry) (p : PartTree) : Text :=
  match p.regex with
  | none => (defaultRegex r p.identifier.parameter).source
  | some a => a.source

def Tree.shape (r : Registry) : Tree → Shape
  | .literal a _ => .literal a.written a.text
  | .part p =>
    .part p.written p.leading.text p.identifier.written p.identifier.parameter (p.source r)
      p.trailing.text p.required

@[simp] theorem Tree.written_shape (r : Registry) (a : Tree) : (a.shape r).written = a.written := by
  cases a <;> rfl

@[simp] theorem Tree.isPart_shape (r : Registry) (a : Tree) : (a.shape r).isPart = a.isPart := by
  cases a <;> rfl

/-- Whether a fault is one that the grammar has. -/
def Fault.isGrammar : Fault → Bool
  | .invalidRegex _ _ | .duplicateIdentifier _ _ => false
  | _ => true

def Fault.code : Fault → Diagnostic.Code
  | .unexpectedBracket _ _ => .unexpectedBracket
  | .unterminatedPart _ _ => .unterminatedPart
  | .missingIdentifier _ _ => .missingIdentifier
  | .unknownEscape _ => .unknownEscape
  | .trailingEscape => .trailingEscape
  | .unterminatedRegex _ => .unterminatedRegex
  | .invalidRegex _ _ => .invalidRegex
  | .duplicateIdentifier _ _ => .duplicateIdentifier

theorem Fault.code_diagnostic (f : Fault) (t : Text) : (f.diagnostic t).code = f.code := by
  cases f <;> rfl

theorem Fault.isGrammar_iff (f : Fault) (t : Text) :
    f.isGrammar = true ↔
      1001 ≤ (f.diagnostic t).code.number ∧ (f.diagnostic t).code.number ≤ 1006 := by
  rw [code_diagnostic]
  cases f <;> simp [isGrammar, code, Diagnostic.Code.number]

/-- Whether an error is a fault that the grammar has. -/
def Error.isGrammar : Error → Bool
  | .fault f => f.isGrammar
  | _ => false

/-- What of a text stops its reading without being a fault: a regular
expression that something else than a fault stops, or an occurrence with more
digits than a number may have. -/
inductive Stuck (t : Text) : Error → Prop where
  | regex (a : Run Glyph.isRegex) (e : Regex.Error)
      (written : ('<' : CodePoint) :: a.written ++ [('>' : CodePoint)] <:+: t)
      (compiles : Regex.compile a.source = .error e)
      (notRejected : ∀ cause position, e ≠ .rejected cause position) : Stuck t (.regex e)
  | number (digits : Text) (written : ('_' : CodePoint) :: digits <:+: t)
      (digit : ∀ c ∈ digits, c.isAsciiDigit = true)
      (long : Text.decimalDigitLimit < digits.length) :
      Stuck t (.occurrenceTooLong digits.length)

/-- Whether the reading of a text may end with an error: with a fault, but not
of an identifier, or stuck. -/
def Error.IsReading (t : Text) : Error → Prop
  | .fault (.duplicateIdentifier _ _) => False
  | .fault _ => True
  | e => Stuck t e

theorem Stuck.mono {s t : Text} {e : Error} (hst : s <:+: t) (h : Stuck s e) : Stuck t e := by
  cases h with
  | regex a e written compiles notRejected =>
      exact .regex a e (written.trans hst) compiles notRejected
  | number digits written digit long => exact .number digits (written.trans hst) digit long

theorem Stuck.isReading {t : Text} {e : Error} (h : Stuck t e) : e.IsReading t := by
  cases e with
  | fault f => cases h
  | regex e => exact h
  | occurrenceTooLong digits => exact h

theorem Stuck.isGrammar {t : Text} {e : Error} (h : Stuck t e) : e.isGrammar = false := by
  cases h <;> rfl

theorem Error.IsReading.mono {s t : Text} {e : Error} (hst : s <:+: t) (h : e.IsReading s) :
    e.IsReading t := by
  cases e with
  | fault f => cases f <;> exact h
  | regex e => exact Stuck.mono hst h
  | occurrenceTooLong digits => exact Stuck.mono hst h

theorem Outcome.orFault {α : Type} {E : Error → Prop} {P : α → Prop} {x : Except Fault α}
    (h : Outcome (fun f => E (.fault f)) P x) : Outcome E P (orFault x) := by
  cases x with
  | ok a => exact h
  | error f => exact h

/-! ## Runs -/

variable (total : Nat)

theorem closerOf?_none {c : CodePoint} (h : isBracket c = false) : closerOf? c = none := by
  simp only [isBracket, Bool.or_eq_false_iff] at h
  simp [closerOf?, h.1.1.1, h.1.2]

theorem bracket_backslash : isBracket '\\' = false := rfl

def Run.cons {kind : Glyph → Bool} (g : Glyph) (hg : kind g = true) (a : Run kind) : Run kind :=
  ⟨g :: a.val, fun g' hg' => (List.mem_cons.mp hg').elim (fun h => h ▸ hg) (a.property g')⟩

/-- What reads a run goes on to read it with one more glyph before it. -/
theorem Run.outcome_cons {kind : Glyph → Bool} {E : Fault → Prop} {ends : Text → Prop} {t : Text}
    {x : Except Fault (Text × Text)} (g : Glyph) (hg : kind g = true)
    (h : Outcome E (fun result => ∃ a : Run kind,
      t = a.written ++ result.2 ∧ result.1 = a.text ∧ ends result.2) x) :
    Outcome E (fun result => ∃ a : Run kind,
        g.written ++ t = a.written ++ result.2 ∧ result.1 = a.text ∧ ends result.2)
      (x.map fun result => (g.point :: result.1, result.2)) := by
  apply Outcome.map
  apply h.imp_ok
  rintro result ⟨a, rfl, htext, hends⟩
  refine ⟨a.cons g hg, ?_, ?_, hends⟩
  · simp [Run.written, Run.cons]
  · simp [htext, Run.text, Run.cons]

theorem readLiteral_outcome (t : Text) :
    Outcome (fun f => f.isGrammar = true)
      (fun result => ∃ a : Run Glyph.isLiteral,
        t = a.written ++ result.2 ∧ result.1 = a.text ∧ EndsLiteral result.2)
      (readLiteral total t) := by
  fun_induction readLiteral total t with
  | case1 => exact ⟨⟨[], by simp⟩, rfl, rfl, by simp [EndsLiteral]⟩
  | case2 c rest hopen => exact ⟨⟨[], by simp⟩, rfl, rfl, by simpa [EndsLiteral] using hopen⟩
  | case3 => rfl
  | case4 => rfl
  | case5 c hopen hbracket hescape d rest hd ih =>
      obtain rfl : c = '\\' := by simpa using hescape
      exact Run.outcome_cons ⟨true, d⟩ hd ih
  | case6 => rfl
  | case7 c rest hopen hbracket hescape ih =>
      have hc : Glyph.isLiteral ⟨false, c⟩ = true := by
        simp [Glyph.isLiteral, hbracket, hescape]
      exact Run.outcome_cons ⟨false, c⟩ hc ih

theorem readLiteral_run (a : Run Glyph.isLiteral) (left : Text) (hleft : EndsLiteral left) :
    readLiteral total (a.written ++ left) = .ok (a.text, left) := by
  obtain ⟨glyphs, hglyphs⟩ := a
  induction glyphs with
  | nil =>
      cases left with
      | nil => rfl
      | cons c rest =>
          change readLiteral total (c :: rest) = .ok ([], c :: rest)
          unfold readLiteral
          simp [hleft c rfl]
  | cons g rest ih =>
      have hg := hglyphs g List.mem_cons_self
      have hrest := ih fun g hg => hglyphs g (List.mem_cons_of_mem _ hg)
      obtain ⟨escaped, point⟩ := g
      simp only [Run.written, Run.text, List.flatMap_cons, List.append_assoc, List.map_cons] at *
      cases escaped with
      | true =>
          have hd : isEscapable point = true := hg
          have hopen : closerOf? '\\' = none := rfl
          simp [Glyph.written, readLiteral, hopen, bracket_backslash, hd, hrest, Except.map]
      | false =>
          have hc : isBracket point = false ∧ point ≠ '\\' := by simpa [Glyph.isLiteral] using hg
          simp only [Glyph.written, Bool.false_eq_true, if_false, List.cons_append,
            List.nil_append]
          unfold readLiteral
          simp [closerOf?_none hc.1, hc.1, hc.2, hrest, Except.map]

/-- Where a separator ends: at the closer, at a letter if a name follows, or at
the end. -/
def EndsSeparator (closer : CodePoint) (beforeName : Bool) (t : Text) : Prop :=
  ∀ c, t.head? = some c → c = closer ∨ (beforeName = true ∧ c.isAsciiLetter = true)

theorem readSeparator_outcome (closer : CodePoint) (beforeName : Bool) (t : Text) :
    Outcome (fun f => f.isGrammar = true)
      (fun result => ∃ a : Run (Glyph.isSeparator beforeName),
        t = a.written ++ result.2 ∧ result.1 = a.text ∧ EndsSeparator closer beforeName result.2)
      (readSeparator total closer beforeName t) := by
  fun_induction readSeparator total closer beforeName t with
  | case1 => exact ⟨⟨[], by simp⟩, rfl, rfl, by simp [EndsSeparator]⟩
  | case2 c rest hend =>
      exact ⟨⟨[], by simp⟩, rfl, rfl, by simpa [EndsSeparator] using hend⟩
  | case3 => rfl
  | case4 => rfl
  | case5 c hend hbracket hescape d rest hd ih =>
      obtain rfl : c = '\\' := by simpa using hescape
      have hg : Glyph.isSeparator beforeName ⟨true, d⟩ = true := by
        simp [Glyph.isSeparator, Glyph.isLiteral, hd]
      exact Run.outcome_cons ⟨true, d⟩ hg ih
  | case6 => rfl
  | case7 c rest hend hbracket hescape ih =>
      have hc : Glyph.isSeparator beforeName ⟨false, c⟩ = true := by
        simp only [Bool.or_eq_true, not_or, Bool.not_eq_true] at hend hbracket
        simp [Glyph.isSeparator, Glyph.isLiteral, hescape, hbracket, hend.2]
      exact Run.outcome_cons ⟨false, c⟩ hc ih

theorem readSeparator_run {closer : CodePoint} (hcloser : isBracket closer = true)
    (beforeName : Bool) (a : Run (Glyph.isSeparator beforeName)) (left : Text)
    (hleft : EndsSeparator closer beforeName left) :
    readSeparator total closer beforeName (a.written ++ left) = .ok (a.text, left) := by
  obtain ⟨glyphs, hglyphs⟩ := a
  induction glyphs with
  | nil =>
      cases left with
      | nil => rfl
      | cons c rest =>
          change readSeparator total closer beforeName (c :: rest) = .ok ([], c :: rest)
          unfold readSeparator
          have hend : (c == closer || beforeName && c.isAsciiLetter) = true := by
            simpa using hleft c rfl
          simp [hend]
  | cons g rest ih =>
      have hg := hglyphs g List.mem_cons_self
      have hrest := ih fun g hg => hglyphs g (List.mem_cons_of_mem _ hg)
      obtain ⟨escaped, point⟩ := g
      simp only [Run.written, Run.text, List.flatMap_cons, List.append_assoc, List.map_cons] at *
      cases escaped with
      | true =>
          have hd : isEscapable point = true := by
            simpa [Glyph.isSeparator, Glyph.isLiteral] using hg
          have hangle : isAngle '\\' = false := rfl
          have hletter : CodePoint.isAsciiLetter '\\' = false := rfl
          have hne : CodePoint.ofChar '\\' ≠ closer := by
            rintro rfl
            cases hcloser
          simp [Glyph.written, readSeparator, hne, bracket_backslash, hangle, hletter, hd, hrest,
            Except.map]
      | false =>
          obtain ⟨⟨hbracket, hne⟩, hangle, hletter⟩ : (isBracket point = false ∧ point ≠ '\\') ∧
              isAngle point = false ∧ (beforeName = false ∨ point.isAsciiLetter = false) := by
            simpa [Glyph.isSeparator, Glyph.isLiteral] using hg
          have hend : (point == closer || beforeName && point.isAsciiLetter) = false := by
            have hcloser : point ≠ closer := by
              rintro rfl
              simp [hbracket] at hcloser
            rw [Bool.or_eq_false_iff, Bool.and_eq_false_iff, beq_eq_false_iff_ne]
            exact ⟨hcloser, hletter⟩
          simp only [Glyph.written, Bool.false_eq_true, if_false, List.cons_append,
            List.nil_append]
          unfold readSeparator
          simp [hend, hbracket, hangle, hne, hrest, Except.map]

theorem readRegexSource_outcome (start : Nat) (t : Text) :
    Outcome (fun f => f.isGrammar = true)
      (fun result => ∃ a : Run Glyph.isRegex,
        t = a.written ++ ('>' : CodePoint) :: result.2 ∧ result.1 = a.source)
      (readRegexSource total start t) := by
  fun_induction readRegexSource total start t with
  | case1 => rfl
  | case2 c rest hend =>
      obtain rfl : c = '>' := by simpa using hend
      exact ⟨⟨[], by simp⟩, rfl, rfl⟩
  | case3 => rfl
  | case4 => rfl
  | case5 c hend hbracket hescape d rest ih =>
      obtain rfl : c = '\\' := by simpa using hescape
      apply Outcome.map
      apply ih.imp_ok
      rintro result ⟨a, rfl, htext⟩
      refine ⟨a.cons ⟨true, d⟩ rfl, rfl, ?_⟩
      simp only [htext, Run.source, Run.cons, List.flatMap_cons, Glyph.source, Glyph.written]
      split <;> rfl
  | case6 c rest hend hbracket hescape ih =>
      apply Outcome.map
      apply ih.imp_ok
      rintro result ⟨a, rfl, htext⟩
      have hangle : isAngle c = false := by
        simp only [isAngle, Bool.or_eq_false_iff]
        exact ⟨by simpa using hbracket, by simpa using hend⟩
      have hc : Glyph.isRegex ⟨false, c⟩ = true := by simp [Glyph.isRegex, hangle, hescape]
      refine ⟨a.cons ⟨false, c⟩ hc, rfl, ?_⟩
      simp [htext, Run.source, Run.cons, Glyph.source, Glyph.written]

theorem readRegexSource_run (start : Nat) (a : Run Glyph.isRegex) (left : Text) :
    readRegexSource total start (a.written ++ ('>' : CodePoint) :: left) =
      .ok (a.source, left) := by
  obtain ⟨glyphs, hglyphs⟩ := a
  induction glyphs with
  | nil =>
      change readRegexSource total start (('>' : CodePoint) :: left) = .ok ([], left)
      unfold readRegexSource
      rfl
  | cons g rest ih =>
      have hg := hglyphs g List.mem_cons_self
      have hrest := ih fun g hg => hglyphs g (List.mem_cons_of_mem _ hg)
      obtain ⟨escaped, point⟩ := g
      simp only [Run.written, Run.source, List.flatMap_cons, List.append_assoc] at *
      cases escaped with
      | true =>
          have hne : CodePoint.ofChar '\\' ≠ '>' ∧ CodePoint.ofChar '\\' ≠ '<' := by decide
          simp only [Glyph.written, if_true, List.cons_append, List.nil_append, Glyph.source]
          unfold readRegexSource
          cases hangle : isAngle point <;> simp [hne, hangle, hrest, Except.map]
      | false =>
          obtain ⟨hangle, hne⟩ : isAngle point = false ∧ point ≠ '\\' := by
            simpa [Glyph.isRegex] using hg
          obtain ⟨hopen, hclose⟩ : point ≠ '<' ∧ point ≠ '>' := by
            simpa [isAngle] using hangle
          simp only [Glyph.written, Bool.false_eq_true, if_false, List.cons_append,
            List.nil_append, Glyph.source, hangle]
          unfold readRegexSource
          simp [hopen, hclose, hne, hrest, Except.map]

/-! ## Parts -/

theorem Error.isReading_of_isGrammar {f : Fault} (t : Text) (h : f.isGrammar = true) :
    (Error.fault f).IsReading t := by
  cases f <;> trivial

theorem readRegex_outcome (t : Text) :
    Outcome (Error.IsReading t)
      (fun result =>
        (result.1 = none ∧ result.2 = t ∧ t.head? ≠ some ('<' : CodePoint)) ∨
          ∃ (a : Run Glyph.isRegex) (regex : Regex) (span : Span),
            result.1 = some (regex, span) ∧ regex.source = a.source ∧
              t = ('<' : CodePoint) :: a.written ++ ('>' : CodePoint) :: result.2)
      (readRegex total t) := by
  unfold readRegex
  split
  · exact .inl ⟨rfl, rfl, by simp⟩
  · next c rest =>
    split
    · next hc => exact .inl ⟨rfl, rfl, by simpa using hc⟩
    · next hc =>
      obtain rfl : c = '<' := by simpa using hc
      dsimp only
      split
      · next f hf =>
        exact Error.isReading_of_isGrammar _ ((readRegexSource_outcome total _ rest).error hf)
      · next source left hok =>
        obtain ⟨a, rfl, rfl⟩ := (readRegexSource_outcome total _ rest).ok hok
        split
        · next regex hregex => exact .inr ⟨a, regex, _, rfl, (Regex.compile_ok hregex).2.1, rfl⟩
        · trivial
        · next e hnot he => exact .regex a e ⟨[], left, by simp⟩ he hnot

theorem readRegex_none {t : Text} (ht : t.head? ≠ some ('<' : CodePoint)) :
    readRegex total t = .ok (none, t) := by
  unfold readRegex
  split
  · rfl
  · next c rest =>
    have hc : c ≠ '<' := by simpa using ht
    simp [hc]

theorem readRegex_run (a : Run Glyph.isRegex) (left : Text) :
    Outcome (fun e => e.isGrammar = false) (fun result => result.2 = left)
      (readRegex total (('<' : CodePoint) :: a.written ++ ('>' : CodePoint) :: left)) := by
  rw [List.cons_append, readRegex]
  simp only [bne_self_eq_false, Bool.false_eq_true, if_false, readRegexSource_run]
  split <;> rfl

theorem Identifier.occurrence?_outcome (i : Identifier) :
    Outcome (Stuck i.written) (fun _ => True) i.suffix.occurrence? := by
  obtain ⟨name, suffix, starts, word, valid, unsplit⟩ := i
  cases suffix with
  | none => trivial
  | last => trivial
  | number digits =>
      change Outcome _ _ (if Text.decimalDigitLimit < digits.length then
        .error (Error.occurrenceTooLong digits.length) else .ok _)
      split
      · next hlong => exact .number digits (List.suffix_append name _).isInfix valid.2 hlong
      · trivial

theorem head?_takeWhile_word {t : Text} (h : t.head?.any CodePoint.isAsciiLetter = true) :
    (t.takeWhile CodePoint.isAsciiWord).head?.any CodePoint.isAsciiLetter = true := by
  cases t with
  | nil => cases h
  | cons c rest =>
      have hletter : c.isAsciiLetter = true := h
      have hword : c.isAsciiWord = true := by simp [CodePoint.isAsciiWord, hletter]
      simp [hword, hletter]

theorem take_length_sub (s t : Text) : (s ++ t).take ((s ++ t).length - t.length) = s := by
  simp

theorem endsWord_dropWhile (t : Text) : EndsWord (t.dropWhile CodePoint.isAsciiWord) := by
  intro c hc
  simpa [hc] using List.head?_dropWhile_not CodePoint.isAsciiWord t

theorem Run.head?_written {kind : Glyph → Bool} {a : Run kind} {g : Glyph}
    (h : a.val.head? = some g) (hg : g.escaped = false) (t : Text) :
    (a.written ++ t).head? = some g.point := by
  rcases a.written_append_cases t with ⟨hnil, _⟩ | ⟨g', rest, _, hhead, hwritten⟩
  · simp [hnil] at h
  · obtain rfl : g' = g := Option.some.inj (hhead.symm.trans h)
    simp [hwritten, Glyph.written, hg]

/-- What follows an identifier is written by the rest of a part, if a regular
expression was read there, or none, and then a separator up to the closer. -/
theorem exists_behind (r : Registry) (required : Bool) (leading : Run (Glyph.isSeparator true))
    (i : Identifier) (inline : Option (Regex × Span)) (trailing : Run (Glyph.isSeparator false))
    {t afterRegex left : Text} (ht : EndsWord t)
    (hinline : (inline = none ∧ afterRegex = t ∧ t.head? ≠ some ('<' : CodePoint)) ∨
      ∃ (a : Run Glyph.isRegex) (regex : Regex) (span : Span),
        inline = some (regex, span) ∧ regex.source = a.source ∧
          t = ('<' : CodePoint) :: a.written ++ ('>' : CodePoint) :: afterRegex)
    (htrailing : afterRegex = trailing.written ++ closingBracket required :: left) :
    ∃ p : PartTree, p.required = required ∧ p.leading = leading ∧ p.identifier = i ∧
      p.trailing = trailing ∧ t = p.behind ++ left ∧
      p.source r = ((inline.map Prod.fst).getD (defaultRegex r i.parameter)).source := by
  rcases hinline with ⟨rfl, rfl, _⟩ | ⟨a, regex, span, rfl, hsource, rfl⟩
  · have hlongest : ∀ g, trailing.val.head? = some g → g.escaped = false →
        g.point.isAsciiWord = false := by
      intro g hg hplain
      apply ht
      rw [htrailing]
      exact Run.head?_written hg hplain _
    refine ⟨⟨required, leading, i, none, trailing, fun _ => hlongest⟩, rfl, rfl, rfl, rfl, ?_, rfl⟩
    simp [htrailing, PartTree.behind, PartTree.regexWritten, PartTree.closer]
  · refine ⟨⟨required, leading, i, some a, trailing, fun h => absurd h (Option.some_ne_none a)⟩,
      rfl, rfl, rfl, rfl, ?_, hsource.symm⟩
    simp [htrailing, PartTree.behind, PartTree.regexWritten, PartTree.closer]

/-- What is read as a part is written by a tree of the grammar. -/
theorem readPart_outcome (r : Registry) {c closer : CodePoint} (rest : Text)
    (hc : closerOf? c = some closer) :
    Outcome (Error.IsReading (c :: rest))
      (fun result => ∃ p : PartTree, c :: rest = p.written ++ result.2 ∧
        result.1.shape = Tree.shape r (.part p))
      (readPart total r (c :: rest) closer) := by
  have hseparator (beforeName : Bool) (t : Text) :=
    (readSeparator_outcome total closer beforeName t).imp_error
      fun f => Error.isReading_of_isGrammar (c :: rest)
  obtain ⟨required, rfl, rfl⟩ := (closerOf?_eq_some_iff c closer).mp hc
  unfold readPart
  refine (Outcome.orFault (hseparator true rest)).bind ?_
  rintro ⟨leadingText, afterLeading⟩ ⟨leading, hleading, hleadingText, -⟩
  dsimp only at *
  have hrest : afterLeading <:+ openingBracket required :: rest := by
    rw [hleading]
    exact (List.suffix_append _ _).trans (List.suffix_cons _ _)
  split
  · trivial
  split
  · trivial
  next hletter =>
  obtain ⟨i, hi⟩ := Identifier.exists_written (afterLeading.takeWhile CodePoint.isAsciiWord)
    (head?_takeWhile_word (by simpa using hletter)) (List.all_eq_true.mp List.all_takeWhile)
  have hidentifier : i.written <:+: openingBracket required :: rest := by
    rw [hi]
    exact (List.takeWhile_prefix _).isInfix.trans hrest.isInfix
  have hbehind : afterLeading.dropWhile CodePoint.isAsciiWord <:+:
      openingBracket required :: rest :=
    ((List.dropWhile_suffix _).trans hrest).isInfix
  rw [← hi, i.splitIdentifier_written]
  dsimp only
  refine (i.occurrence?_outcome.imp_error
    fun _ he => (Stuck.mono hidentifier he).isReading).bind ?_
  rintro occurrence -
  refine ((readRegex_outcome total _).imp_error fun _ => .mono hbehind).bind ?_
  rintro ⟨inline, afterRegex⟩ hinline
  refine (Outcome.orFault (hseparator false _)).bind ?_
  rintro ⟨trailingText, afterTrailing⟩ ⟨trailing, htrailing, htrailingText, hends⟩
  dsimp only at *
  split
  · trivial
  next d left =>
  obtain rfl : d = closingBracket required := by simpa [EndsSeparator] using hends
  obtain ⟨p, hrequired, rfl, rfl, rfl, hbehind, hsource⟩ := exists_behind r required leading i inline
    trailing (endsWord_dropWhile afterLeading) hinline htrailing
  have hwritten : openingBracket required :: rest = p.written ++ left := by
    rw [p.written_append, ← hbehind, hi, List.takeWhile_append_dropWhile, ← hleading,
      PartTree.opener, hrequired]
  refine ⟨p, hwritten, ?_⟩
  rw [hwritten]
  simp only [PartOf.shape, Tree.shape, hsource, Identifier.parameter, hleadingText, htrailingText,
    take_length_sub, hrequired]
  cases required <;> rfl

/-- A part that a tree of the grammar writes is read to its end, unless its
regular expression or its occurrence stops the reading. -/
theorem readPart_run (r : Registry) (p : PartTree) (left : Text) :
    Outcome (fun e => e.isGrammar = false) (fun result => result.2 = left)
      (readPart total r (p.written ++ left) p.closer) := by
  obtain ⟨c, rest, hletter, hcons⟩ := p.identifier.exists_letter
  have hbracket := isBracket_closingBracket p.required
  have hleading : EndsSeparator p.closer true
      (p.identifier.written ++ (p.behind ++ left)) := by
    rw [hcons]
    intro d hd
    obtain rfl : c = d := Option.some.inj hd
    exact .inr ⟨rfl, hletter⟩
  have htrailing : EndsSeparator p.closer false (p.closer :: left) := by
    intro d hd
    exact .inl (Option.some.inj hd).symm
  have hword := p.identifier.word_written
  have hends := p.endsWord_behind left
  have hletter? : (p.identifier.written ++ (p.behind ++ left)).head?.any
      CodePoint.isAsciiLetter = true := by simp [hcons, hletter]
  have hempty : (p.identifier.written ++ (p.behind ++ left)).isEmpty = false := by simp [hcons]
  have hregex : Outcome (fun e => e.isGrammar = false)
      (fun result => result.2 = p.trailing.written ++ p.closer :: left)
      (readRegex total (p.behind ++ left)) := by
    rw [p.behind_append, PartTree.regexWritten]
    cases p.regex with
    | none =>
        change Outcome _ _ (readRegex total (p.trailing.written ++ p.closer :: left))
        rw [readRegex_none total (p.trailing_ne_angle left)]
        rfl
    | some a => simpa using readRegex_run total a (p.trailing.written ++ p.closer :: left)
  rw [p.written_append, readPart]
  refine (Outcome.orFault (.of_eq
    (readSeparator_run total hbracket true p.leading _ hleading))).bind ?_
  rintro _ rfl
  simp only [hempty, hletter?, takeWhile_word hword hends, dropWhile_word hword hends,
    p.identifier.splitIdentifier_written, Bool.false_eq_true, if_false, Bool.not_true]
  refine (p.identifier.occurrence?_outcome.imp_error fun _ => Stuck.isGrammar).bind ?_
  rintro occurrence -
  refine hregex.bind ?_
  rintro ⟨inline, afterRegex⟩ rfl
  refine (Outcome.orFault (.of_eq
    (readSeparator_run total hbracket false p.trailing _ htrailing))).bind ?_
  rintro _ rfl
  rfl

/-! ## Templates -/

theorem readDraft_outcome (r : Registry) (c : CodePoint) (rest : Text) :
    Outcome (Error.IsReading (c :: rest))
      (fun result => ∃ a : Tree, c :: rest = a.written ++ result.2 ∧
        result.1.shape = a.shape r ∧ (a.isPart = false → EndsLiteral result.2))
      (readDraft total r (c :: rest)) := by
  rw [readDraft, List.head?_cons, Option.bind_some]
  cases hcloser : closerOf? c with
  | some closer =>
      apply (readPart_outcome total r rest hcloser).imp_ok
      rintro result ⟨p, hwritten, hshape⟩
      exact ⟨.part p, hwritten, hshape, fun h => by cases h⟩
  | none =>
      have hliteral := (readLiteral_outcome total (c :: rest)).imp_error
        fun f => Error.isReading_of_isGrammar (c :: rest)
      apply Outcome.map
      apply (Outcome.orFault hliteral).imp_ok
      rintro ⟨text, left⟩ ⟨a, hwritten, rfl, hends⟩
      dsimp only at hwritten hends ⊢
      have hsome : a.val ≠ [] := by
        intro hnil
        rw [Run.written, hnil, List.flatMap_nil, List.nil_append] at hwritten
        have hopen := hends c (by rw [← hwritten]; rfl)
        simp [hcloser] at hopen
      refine ⟨.literal a hsome, hwritten, ?_, fun _ => hends⟩
      rw [hwritten, take_length_sub]
      rfl

/-- A run of literal text is read as one literal. -/
theorem readDraft_literal (r : Registry) (a : Run Glyph.isLiteral) (hsome : a.val ≠ [])
    (left : Text) (hleft : EndsLiteral left) :
    readDraft total r (a.written ++ left) = .ok (.literal a.written a.text, left) := by
  have hnone : (a.written ++ left).head?.bind closerOf? = none := by
    rcases a.written_append_cases left with ⟨hnil, _⟩ | ⟨⟨escaped, c⟩, rest, hg, _, hwritten⟩
    · exact absurd hnil hsome
    · rw [hwritten]
      cases escaped with
      | true => rfl
      | false =>
          have hc : isBracket c = false ∧ c ≠ '\\' := by simpa [Glyph.isLiteral] using hg
          exact closerOf?_none hc.1
  rw [readDraft, hnone, readLiteral_run total a left hleft]
  simp [orFault, Except.map]

theorem readDraft_run (r : Registry) (a : Tree) (left : Text)
    (ha : a.isPart = false → EndsLiteral left) :
    Outcome (fun e => e.isGrammar = false) (fun result => result.2 = left)
      (readDraft total r (a.written ++ left)) := by
  cases a with
  | part p =>
      have hcloser : (p.written ++ left).head?.bind closerOf? = some p.closer := p.closerOf?_opener
      rw [readDraft, Tree.written, hcloser]
      exact readPart_run total r p left
  | literal a hsome =>
      rw [Tree.written, readDraft_literal total r a hsome left (ha rfl)]
      rfl

theorem readDrafts_outcome (r : Registry) (fuel : Nat) (t : Text) (hfuel : t.length ≤ fuel) :
    Outcome (Error.IsReading t)
      (fun drafts => ∃ d, IsDerivation d t ∧ drafts.map PartOf.shape = d.map (Tree.shape r))
      (readDrafts total r fuel t) := by
  induction fuel generalizing t with
  | zero =>
      obtain rfl : t = [] := by simpa using hfuel
      exact ⟨[], ⟨rfl, .nil⟩, rfl⟩
  | succ fuel ih =>
      cases t with
      | nil => exact ⟨[], ⟨rfl, .nil⟩, rfl⟩
      | cons c rest =>
          rw [readDrafts_cons]
          refine (readDraft_outcome total r c rest).bind ?_
          rintro ⟨draft, left⟩ ⟨a, hwritten, hshape, hends⟩
          dsimp only at hwritten hshape hends ⊢
          rw [hwritten] at hfuel ⊢
          refine ((ih left (a.length_le_of_append hfuel)).imp_error
            fun _ => .mono (List.suffix_append _ _).isInfix).bind ?_
          rintro drafts ⟨d, hd, hshapes⟩
          refine ⟨a :: d, hd.cons hends, ?_⟩
          rw [List.map_cons, List.map_cons, hshape, hshapes]

theorem readDrafts_run (r : Registry) (fuel : Nat) {d : List Tree} {t : Text}
    (hd : IsDerivation d t) (hfuel : t.length ≤ fuel) :
    Outcome (fun e => e.isGrammar = false) (fun _ => True) (readDrafts total r fuel t) := by
  induction fuel generalizing d t with
  | zero =>
      obtain rfl : t = [] := by simpa using hfuel
      trivial
  | succ fuel ih =>
      cases d with
      | nil =>
          obtain rfl := hd.written
          trivial
      | cons a d =>
          have hwritten : a.written ++ d.flatMap Tree.written = t := hd.written
          have hdraft := readDraft_run total r a _ hd.endsLiteral
          rw [hwritten] at hdraft
          rw [← hwritten] at hfuel
          cases t with
          | nil => exact absurd (List.append_eq_nil_iff.mp hwritten).1 a.written_ne_nil
          | cons c rest =>
              rw [readDrafts_cons]
              refine hdraft.bind ?_
              rintro ⟨draft, left⟩ rfl
              exact (ih hd.tail (a.length_le_of_append hfuel)).bind fun _ _ => trivial

end Template

end KeyNaming
