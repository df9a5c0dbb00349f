import Mathlib.Data.List.Chain
import KeyNaming.Pattern.Template

/-!
The grammar of templates, as syntax trees.

A tree is well-formed by construction: each run of characters and escapes is
of the class that its place allows, a suffix is split off an identifier
wherever that is possible, and an identifier takes all the word characters
that follow. A template is derivable if trees can be written one after the
other to give it. Of such trees there is one list without two literals side by
side.
-/

namespace KeyNaming

namespace Template

/-- A character of a template, alone or behind a backslash. -/
structure Glyph where
  escaped : Bool
  point : CodePoint
deriving DecidableEq

namespace Glyph

def written (g : Glyph) : Text :=
  if g.escaped then ['\\', g.point] else [g.point]

/-- What a regular expression has of a glyph. An escape is left to it, but an
escaped angle bracket stands for itself. -/
def source (g : Glyph) : Text :=
  if isAngle g.point then [g.point] else g.written

def isLiteral (g : Glyph) : Bool :=
  if g.escaped then isEscapable g.point else !(isBracket g.point || g.point == '\\')

/-- Whether a glyph may stand in a separator. Before a name no letter may stand
there, since the name would begin with it. -/
def isSeparator (beforeName : Bool) (g : Glyph) : Bool :=
  g.isLiteral &&
    (g.escaped || !(isAngle g.point || (beforeName && g.point.isAsciiLetter)))

def isRegex (g : Glyph) : Bool :=
  g.escaped || !(isAngle g.point || g.point == '\\')

end Glyph

/-- A run of glyphs of a class. -/
abbrev Run (kind : Glyph → Bool) := { glyphs : List Glyph // ∀ g ∈ glyphs, kind g = true }

namespace Run

variable {kind : Glyph → Bool}

def written (a : Run kind) : Text := a.val.flatMap Glyph.written

def append (a b : Run kind) : Run kind :=
  ⟨a.val ++ b.val, fun g hg => (List.mem_append.mp hg).elim (a.property g) (b.property g)⟩

theorem written_append (a b : Run kind) : (a.append b).written = a.written ++ b.written :=
  List.flatMap_append

/-- The text that a run stands for. -/
def text (a : Run kind) : Text := a.val.map Glyph.point

/-- The regular expression that a run stands for. -/
def source (a : Run kind) : Text := a.val.flatMap Glyph.source

end Run

namespace Suffix

def written : Suffix → Text
  | .none => []
  | .last => ['_', 'n']
  | .number digits => ('_' : CodePoint) :: digits

def IsValid : Suffix → Prop
  | .number digits => digits ≠ [] ∧ ∀ c ∈ digits, c.isAsciiDigit = true
  | _ => True

end Suffix

structure Identifier where
  name : Text
  suffix : Suffix
  starts : name.head?.any CodePoint.isAsciiLetter = true
  word : ∀ c ∈ name, c.isAsciiWord = true
  valid : suffix.IsValid
  /-- What can be a suffix is one. -/
  split : suffix = .none → ∀ (stem : Text) (s : Suffix),
    s.IsValid → s ≠ .none → name ≠ stem ++ s.written

def Identifier.written (i : Identifier) : Text := i.name ++ i.suffix.written

structure PartTree where
  required : Bool
  leading : Run (Glyph.isSeparator true)
  identifier : Identifier
  regex : Option (Run Glyph.isRegex)
  trailing : Run (Glyph.isSeparator false)
  /-- No character that the identifier could take is left behind it. -/
  longest : regex = none → ∀ g, trailing.val.head? = some g → g.escaped = false →
    g.point.isAsciiWord = false

def openingBracket (required : Bool) : CodePoint := if required then '[' else '\x7b'

def closingBracket (required : Bool) : CodePoint := if required then ']' else '\x7d'

namespace PartTree

def opener (p : PartTree) : CodePoint := openingBracket p.required

def closer (p : PartTree) : CodePoint := closingBracket p.required

def regexWritten (p : PartTree) : Text :=
  match p.regex with
  | none => []
  | some a => ('<' : CodePoint) :: a.written ++ [('>' : CodePoint)]

/-- What follows the identifier. -/
def behind (p : PartTree) : Text := p.regexWritten ++ p.trailing.written ++ [p.closer]

def written (p : PartTree) : Text :=
  p.opener :: p.leading.written ++ p.identifier.written ++ p.behind

end PartTree

inductive Tree where
  | literal (a : Run Glyph.isLiteral) (nonempty : a.val ≠ [])
  | part (p : PartTree)

namespace Tree

def written : Tree → Text
  | .literal a _ => a.written
  | .part p => p.written

def isPart : Tree → Bool
  | .literal _ _ => false
  | .part _ => true

end Tree

/-- Whether a template can be derived from the grammar. -/
def IsDerivable (t : Text) : Prop := ∃ d : List Tree, d.flatMap Tree.written = t

/-- Trees that a template is written with, each literal as long as possible. -/
structure IsDerivation (d : List Tree) (t : Text) : Prop where
  written : d.flatMap Tree.written = t
  apart : d.IsChain fun a b => a.isPart = true ∨ b.isPart = true

/-! ## Classes of characters -/

theorem closerOf?_eq_some_iff (c closer : CodePoint) :
    closerOf? c = some closer ↔
      ∃ required, c = openingBracket required ∧ closer = closingBracket required := by
  constructor
  · unfold closerOf?
    intro h
    split at h
    · next hc => exact ⟨false, eq_of_beq hc, (Option.some.inj h).symm⟩
    · split at h
      · next hc => exact ⟨true, eq_of_beq hc, (Option.some.inj h).symm⟩
      · cases h
  · rintro ⟨required, rfl, rfl⟩
    cases required <;> rfl

theorem openingBracket_inj {a b : Bool} (h : openingBracket a = openingBracket b) : a = b := by
  cases a <;> cases b
  · rfl
  · exact absurd h (by decide)
  · exact absurd h (by decide)
  · rfl

theorem isBracket_closingBracket (required : Bool) : isBracket (closingBracket required) = true := by
  cases required <;> rfl

theorem closingBracket_ne_angle (required : Bool) : closingBracket required ≠ '<' := by
  cases required <;> decide

theorem isAsciiWord_closingBracket (required : Bool) :
    (closingBracket required).isAsciiWord = false := by
  cases required <;> rfl

theorem ne_backslash_of_isAsciiLetter {c : CodePoint} (h : c.isAsciiLetter = true) :
    c ≠ '\\' := by
  rintro rfl
  cases h

/-! ## Runs -/

/-- Whether no glyph of a class begins a text. -/
def Stops (kind : Glyph → Bool) : Text → Prop
  | [] => True
  | c :: _ => c ≠ '\\' ∧ kind ⟨false, c⟩ = false

section

variable {kind : Glyph → Bool}

theorem Glyph.not_stops (g : Glyph) (hg : kind g = true) (t : Text) :
    ¬ Stops kind (g.written ++ t) := by
  obtain ⟨escaped, point⟩ := g
  cases escaped with
  | true => exact fun h => h.1 rfl
  | false =>
      intro h
      have hkind : kind ⟨false, point⟩ = false := h.2
      simp [hg] at hkind

theorem Glyph.written_append_inj (hkind : kind ⟨false, '\\'⟩ = false) {g g' : Glyph}
    (hg : kind g = true) (hg' : kind g' = true) {s t : Text}
    (h : g.written ++ s = g'.written ++ t) : g = g' ∧ s = t := by
  obtain ⟨escaped, point⟩ := g
  obtain ⟨escaped', point'⟩ := g'
  cases escaped <;> cases escaped' <;> simp only [written, Bool.false_eq_true, if_true, if_false,
    List.cons_append, List.nil_append, List.cons.injEq] at h
  · exact ⟨by rw [h.1], h.2⟩
  · rw [h.1, hkind] at hg
    cases hg
  · rw [← h.1, hkind] at hg'
    cases hg'
  · exact ⟨by rw [h.2.1], h.2.2⟩

/-- A run writes nothing, or begins with its first glyph. -/
theorem Run.written_append_cases (a : Run kind) (t : Text) :
    (a.val = [] ∧ a.written ++ t = t) ∨
      ∃ g rest, kind g = true ∧ a.val.head? = some g ∧ a.written ++ t = g.written ++ rest := by
  obtain ⟨glyphs, hglyphs⟩ := a
  cases glyphs with
  | nil => exact .inl ⟨rfl, rfl⟩
  | cons g rest =>
      refine .inr ⟨g, rest.flatMap Glyph.written ++ t, hglyphs g List.mem_cons_self, rfl, ?_⟩
      rw [Run.written, List.flatMap_cons, List.append_assoc]

theorem Run.not_stops {a : Run kind} (ha : a.val ≠ []) (t : Text) :
    ¬ Stops kind (a.written ++ t) := by
  rcases a.written_append_cases t with ⟨hnil, _⟩ | ⟨g, rest, hg, _, hwritten⟩
  · exact absurd hnil ha
  · rw [hwritten]
    exact g.not_stops hg rest

/-- Where a run of a class ends is told by the text. -/
theorem Run.written_append_inj (hkind : kind ⟨false, '\\'⟩ = false) (a b : Run kind) {s t : Text}
    (hs : Stops kind s) (ht : Stops kind t) (h : a.written ++ s = b.written ++ t) :
    a = b ∧ s = t := by
  obtain ⟨a, ha⟩ := a
  obtain ⟨b, hb⟩ := b
  simp only [Run.written, Subtype.mk.injEq] at h ⊢
  induction a generalizing b with
  | nil =>
      cases b with
      | nil => exact ⟨rfl, h⟩
      | cons g b =>
          rw [List.flatMap_nil, List.nil_append, List.flatMap_cons, List.append_assoc] at h
          rw [h] at hs
          exact absurd hs (g.not_stops (hb g List.mem_cons_self) _)
  | cons g a ih =>
      cases b with
      | nil =>
          rw [List.flatMap_nil, List.nil_append, List.flatMap_cons, List.append_assoc] at h
          rw [← h] at ht
          exact absurd ht (g.not_stops (ha g List.mem_cons_self) _)
      | cons g' b =>
          rw [List.flatMap_cons, List.flatMap_cons, List.append_assoc, List.append_assoc] at h
          obtain ⟨rfl, hrest⟩ := Glyph.written_append_inj hkind (ha g List.mem_cons_self)
            (hb g' List.mem_cons_self) h
          obtain ⟨rfl, heq⟩ := ih (fun g hg => ha g (List.mem_cons_of_mem _ hg)) b
            (fun g hg => hb g (List.mem_cons_of_mem _ hg)) hrest
          exact ⟨rfl, heq⟩

end

/-! ## Identifiers -/

theorem Suffix.word_of_isValid {s : Suffix} (h : s.IsValid) :
    ∀ c ∈ s.written, c.isAsciiWord = true := by
  cases s with
  | none => intro c hc; cases hc
  | last => decide
  | number digits =>
      intro c hc
      rcases List.mem_cons.mp hc with rfl | hdigit
      · rfl
      · simp [CodePoint.isAsciiWord, h.2 c hdigit]

theorem splitIdentifier_last (name : Text) :
    splitIdentifier (name ++ Suffix.last.written) = (name, .last) := by
  have hbackwards : (name ++ Suffix.last.written).reverse =
      ('n' : CodePoint) :: ('_' : CodePoint) :: name.reverse := by
    simp [Suffix.written]
  have hdrop : (('n' : CodePoint) :: ('_' : CodePoint) :: name.reverse).dropWhile
      CodePoint.isAsciiDigit = ('n' : CodePoint) :: ('_' : CodePoint) :: name.reverse := rfl
  simp [splitIdentifier, hbackwards, hdrop]

theorem splitIdentifier_number (name digits : Text) (hsome : digits ≠ [])
    (hdigits : ∀ c ∈ digits, c.isAsciiDigit = true) :
    splitIdentifier (name ++ (Suffix.number digits).written) = (name, .number digits) := by
  have hbackwards : (name ++ (Suffix.number digits).written).reverse =
      digits.reverse ++ ('_' : CodePoint) :: name.reverse := by
    simp [Suffix.written]
  have hreverse : ∀ c ∈ digits.reverse, c.isAsciiDigit = true := fun c hc =>
    hdigits c (List.mem_reverse.mp hc)
  have htake : (digits.reverse ++ ('_' : CodePoint) :: name.reverse).takeWhile
      CodePoint.isAsciiDigit = digits.reverse := by
    rw [List.takeWhile_append_of_pos hreverse]
    exact List.append_nil _
  have hdrop : (digits.reverse ++ ('_' : CodePoint) :: name.reverse).dropWhile
      CodePoint.isAsciiDigit = ('_' : CodePoint) :: name.reverse := by
    rw [List.dropWhile_append_of_pos hreverse]
    rfl
  rw [splitIdentifier, hbackwards, hdrop, htake]
  obtain ⟨n, rest, hcons⟩ := List.exists_cons_of_ne_nil (List.reverse_ne_nil_iff.mpr hsome)
  have hn : n ≠ 'n' := by
    rintro rfl
    have hdigit := hreverse 'n' (by rw [hcons]; exact List.mem_cons_self)
    cases hdigit
  have hlong : ∃ u more, rest ++ ('_' : CodePoint) :: name.reverse = u :: more := by
    cases rest <;> simp
  obtain ⟨u, more, hmore⟩ := hlong
  simp only [hcons, List.cons_append, hmore]
  rw [← hcons]
  simp [hn, hsome]

theorem splitIdentifier_none (name : Text)
    (hsplit : ∀ (stem : Text) (s : Suffix), s.IsValid → s ≠ .none → name ≠ stem ++ s.written) :
    splitIdentifier name = (name, .none) := by
  have hname : name = (name.reverse.dropWhile CodePoint.isAsciiDigit).reverse ++
      (name.reverse.takeWhile CodePoint.isAsciiDigit).reverse := by
    rw [← List.reverse_append, List.takeWhile_append_dropWhile, List.reverse_reverse]
  rw [splitIdentifier]
  split
  · next n u stem d stem' hbackwards hdrop =>
    split
    · next hlast =>
      obtain ⟨rfl, rfl⟩ : n = 'n' ∧ u = '_' := by simpa using hlast
      refine absurd ?_ (hsplit stem.reverse .last trivial Suffix.noConfusion)
      rw [← List.reverse_reverse name, hbackwards]
      simp [Suffix.written]
    · split
      · next hnumber =>
        obtain ⟨rfl, hsome⟩ : d = '_' ∧ _ := by simpa using hnumber
        rw [hdrop, List.reverse_cons, List.append_assoc] at hname
        refine absurd hname (hsplit stem'.reverse (.number _) ⟨by simpa using hsome, ?_⟩
          Suffix.noConfusion)
        intro c hc
        exact List.all_eq_true.mp List.all_takeWhile c (List.mem_reverse.mp hc)
      · rfl
  · rfl

namespace Identifier

variable (i : Identifier)

theorem word_written : ∀ c ∈ i.written, c.isAsciiWord = true := by
  intro c hc
  rcases List.mem_append.mp hc with hname | hsuffix
  · exact i.word c hname
  · exact Suffix.word_of_isValid i.valid c hsuffix

theorem exists_letter : ∃ c rest, c.isAsciiLetter = true ∧ i.written = c :: rest := by
  have hstarts := i.starts
  rw [written]
  cases hname : i.name with
  | nil => simp [hname] at hstarts
  | cons c rest => exact ⟨c, rest ++ i.suffix.written, by simpa [hname] using hstarts, rfl⟩

/-- Reading splits an identifier as it was written. -/
theorem splitIdentifier_written : splitIdentifier i.written = (i.name, i.suffix) := by
  obtain ⟨name, suffix, _, _, hvalid, hsplit⟩ := i
  change splitIdentifier (name ++ suffix.written) = (name, suffix)
  cases suffix with
  | last => exact splitIdentifier_last name
  | number digits => exact splitIdentifier_number name digits hvalid.1 hvalid.2
  | none =>
      rw [Suffix.written, List.append_nil]
      exact splitIdentifier_none name (hsplit rfl)

theorem written_inj {i j : Identifier} (h : i.written = j.written) : i = j := by
  have hi := i.splitIdentifier_written
  rw [h, j.splitIdentifier_written] at hi
  cases i
  cases j
  simp_all

/-- A word that begins with a letter is an identifier. -/
theorem exists_written (t : Text) (hstarts : t.head?.any CodePoint.isAsciiLetter = true)
    (hword : ∀ c ∈ t, c.isAsciiWord = true) : ∃ i : Identifier, i.written = t := by
  by_cases hsplit : ∃ (stem : Text) (s : Suffix), s.IsValid ∧ s ≠ .none ∧ t = stem ++ s.written
  · obtain ⟨stem, s, hvalid, hsome, rfl⟩ := hsplit
    have hstem : stem.head?.any CodePoint.isAsciiLetter = true := by
      cases stem with
      | nil => cases s <;> simp_all [Suffix.written] <;> cases hstarts
      | cons c rest => exact hstarts
    exact ⟨⟨stem, s, hstem, fun c hc => hword c (List.mem_append_left _ hc), hvalid,
      fun h => absurd h hsome⟩, rfl⟩
  · have hnone : ∀ (stem : Text) (s : Suffix), s.IsValid → s ≠ .none → t ≠ stem ++ s.written :=
      fun stem s hvalid hsome heq => hsplit ⟨stem, s, hvalid, hsome, heq⟩
    exact ⟨⟨t, .none, hstarts, hword, trivial, fun _ => hnone⟩, List.append_nil t⟩

end Identifier

/-! ## Parts -/

/-- Whether a text does not go on with a word. -/
def EndsWord (t : Text) : Prop := ∀ c, t.head? = some c → c.isAsciiWord = false

theorem takeWhile_word {a s : Text} (ha : ∀ c ∈ a, c.isAsciiWord = true) (hs : EndsWord s) :
    (a ++ s).takeWhile CodePoint.isAsciiWord = a := by
  rw [List.takeWhile_append_of_pos ha]
  cases s with
  | nil => exact List.append_nil a
  | cons c rest => simp [hs c rfl]

theorem dropWhile_word {a s : Text} (ha : ∀ c ∈ a, c.isAsciiWord = true) (hs : EndsWord s) :
    (a ++ s).dropWhile CodePoint.isAsciiWord = s := by
  rw [List.dropWhile_append_of_pos ha]
  cases s with
  | nil => rfl
  | cons c rest => simp [hs c rfl]

theorem stops_letter {c : CodePoint} (hc : c.isAsciiLetter = true) (t : Text) :
    Stops (Glyph.isSeparator true) (c :: t) :=
  ⟨ne_backslash_of_isAsciiLetter hc, by simp [Glyph.isSeparator, hc]⟩

theorem stops_bracket {c : CodePoint} (hc : isBracket c = true) (beforeName : Bool) (t : Text) :
    Stops (Glyph.isSeparator beforeName) (c :: t) := by
  refine ⟨?_, by simp [Glyph.isSeparator, Glyph.isLiteral, hc]⟩
  rintro rfl
  cases hc

namespace PartTree

variable (p : PartTree)

theorem closerOf?_opener : closerOf? p.opener = some p.closer :=
  (closerOf?_eq_some_iff _ _).mpr ⟨p.required, rfl, rfl⟩

theorem behind_append (s : Text) :
    p.behind ++ s = p.regexWritten ++ (p.trailing.written ++ p.closer :: s) := by
  simp [behind]

/-- What follows the regular expression, or the identifier if there is none,
begins no regular expression. -/
theorem trailing_ne_angle (s : Text) :
    (p.trailing.written ++ p.closer :: s).head? ≠ some ('<' : CodePoint) := by
  rcases p.trailing.written_append_cases (p.closer :: s) with
    ⟨_, hwritten⟩ | ⟨⟨escaped, point⟩, rest, hg, _, hwritten⟩ <;> rw [hwritten]
  · exact fun h => closingBracket_ne_angle p.required (Option.some.inj h)
  · cases escaped with
    | true => exact fun h => absurd (Option.some.inj h) (by decide)
    | false =>
        intro h
        obtain rfl : point = '<' := Option.some.inj h
        cases hg

theorem endsWord_behind (s : Text) : EndsWord (p.behind ++ s) := by
  intro c hc
  rw [behind_append, regexWritten] at hc
  cases hregex : p.regex with
  | some a =>
      obtain rfl : CodePoint.ofChar '<' = c := by simpa [hregex] using hc
      rfl
  | none =>
      simp only [hregex, List.nil_append] at hc
      rcases p.trailing.written_append_cases (p.closer :: s) with
        ⟨_, hwritten⟩ | ⟨⟨escaped, point⟩, rest, _, hhead, hwritten⟩ <;> rw [hwritten] at hc
      · obtain rfl : p.closer = c := Option.some.inj hc
        exact isAsciiWord_closingBracket p.required
      · cases escaped with
        | true =>
            obtain rfl : CodePoint.ofChar '\\' = c := Option.some.inj hc
            rfl
        | false =>
            obtain rfl : point = c := Option.some.inj hc
            exact p.longest hregex _ hhead rfl

theorem written_append (s : Text) :
    p.written ++ s =
      p.opener :: (p.leading.written ++ (p.identifier.written ++ (p.behind ++ s))) := by
  simp [written]

/-- A regular expression and where it ends are told by the text. -/
theorem regex_inj {p q : PartTree} {s t : Text}
    (h : p.behind ++ s = q.behind ++ t) :
    p.regex = q.regex ∧
      p.trailing.written ++ p.closer :: s = q.trailing.written ++ q.closer :: t := by
  rw [p.behind_append, q.behind_append, regexWritten, regexWritten] at h
  have hstops (u : Text) : Stops Glyph.isRegex (('>' : CodePoint) :: u) := ⟨by decide, rfl⟩
  cases hp : p.regex with
  | none =>
      cases hq : q.regex with
      | none => exact ⟨rfl, by simpa only [hp, hq, List.nil_append] using h⟩
      | some b =>
          simp only [hp, hq, List.nil_append] at h
          exact absurd (congrArg List.head? h) (p.trailing_ne_angle s)
  | some a =>
      cases hq : q.regex with
      | none =>
          simp only [hp, hq, List.nil_append] at h
          exact absurd (congrArg List.head? h.symm) (q.trailing_ne_angle t)
      | some b =>
          simp only [hp, hq, List.cons_append, List.append_assoc, List.nil_append,
            List.cons.injEq, true_and] at h
          obtain ⟨rfl, hrest⟩ := Run.written_append_inj rfl a b (hstops _) (hstops _) h
          exact ⟨rfl, (List.cons.inj hrest).2⟩

/-- A part and where it ends are told by the text. -/
theorem written_append_inj {p q : PartTree} {s t : Text}
    (h : p.written ++ s = q.written ++ t) : p = q ∧ s = t := by
  rw [p.written_append, q.written_append] at h
  obtain ⟨hopener, hleading⟩ := List.cons.inj h
  have hrequired : p.required = q.required := openingBracket_inj hopener
  have hstops (r : PartTree) (u : Text) :
      Stops (Glyph.isSeparator true) (r.identifier.written ++ (r.behind ++ u)) := by
    obtain ⟨c, rest, hletter, hwritten⟩ := r.identifier.exists_letter
    rw [hwritten]
    exact stops_letter hletter _
  obtain ⟨hleading, hidentifier⟩ :=
    Run.written_append_inj rfl p.leading q.leading (hstops p s) (hstops q t) hleading
  have htake := congrArg (List.takeWhile CodePoint.isAsciiWord) hidentifier
  have hdrop := congrArg (List.dropWhile CodePoint.isAsciiWord) hidentifier
  rw [takeWhile_word p.identifier.word_written (p.endsWord_behind s),
    takeWhile_word q.identifier.word_written (q.endsWord_behind t)] at htake
  rw [dropWhile_word p.identifier.word_written (p.endsWord_behind s),
    dropWhile_word q.identifier.word_written (q.endsWord_behind t)] at hdrop
  obtain ⟨hregex, htrailing⟩ := regex_inj hdrop
  obtain ⟨htrailing, hrest⟩ := Run.written_append_inj rfl p.trailing q.trailing
    (stops_bracket (isBracket_closingBracket p.required) false s)
    (stops_bracket (isBracket_closingBracket q.required) false t) htrailing
  have hsame := Identifier.written_inj htake
  cases p
  cases q
  simp_all

end PartTree

/-! ## Templates -/

/-- Where a literal ends: before a part or at the end. -/
def EndsLiteral (t : Text) : Prop := ∀ c, t.head? = some c → (closerOf? c).isSome = true

theorem EndsLiteral.stops {t : Text} (h : EndsLiteral t) : Stops Glyph.isLiteral t := by
  cases t with
  | nil => trivial
  | cons c rest =>
      obtain ⟨closer, hcloser⟩ := Option.isSome_iff_exists.mp (h c rfl)
      obtain ⟨required, rfl, _⟩ := (closerOf?_eq_some_iff c closer).mp hcloser
      cases required
      · exact ⟨by decide, rfl⟩
      · exact ⟨by decide, rfl⟩

theorem PartTree.endsLiteral (p : PartTree) (t : Text) : EndsLiteral (p.written ++ t) := by
  intro c hc
  obtain rfl : p.opener = c := Option.some.inj hc
  rw [p.closerOf?_opener]
  rfl

theorem IsDerivation.tail {a : Tree} {d : List Tree} {t : Text}
    (h : IsDerivation (a :: d) t) : IsDerivation d (d.flatMap Tree.written) :=
  ⟨rfl, h.apart.tail⟩

/-- Behind a literal the template ends or a part begins. -/
theorem IsDerivation.endsLiteral {a : Tree} {d : List Tree} {t : Text}
    (h : IsDerivation (a :: d) t) (ha : a.isPart = false) :
    EndsLiteral (d.flatMap Tree.written) := by
  cases d with
  | nil => exact fun c hc => nomatch hc
  | cons b rest =>
      cases b with
      | literal b hb =>
          rcases h.apart.rel with hpart | hpart
          · rw [ha] at hpart
            cases hpart
          · cases hpart
      | part p => exact p.endsLiteral _

theorem IsDerivation.cons {a : Tree} {d : List Tree} {t : Text} (h : IsDerivation d t)
    (ha : a.isPart = false → EndsLiteral t) : IsDerivation (a :: d) (a.written ++ t) := by
  obtain ⟨rfl, hapart⟩ := h
  refine ⟨rfl, ?_⟩
  cases d with
  | nil => exact .singleton a
  | cons b rest =>
      refine .cons_cons ?_ hapart
      cases a with
      | part p => exact .inl rfl
      | literal a _ =>
          cases b with
          | part q => exact .inr rfl
          | literal b hb => exact absurd (ha rfl).stops (Run.not_stops hb _)

theorem Tree.written_append_inj {a b : Tree} {s t : Text}
    (hs : a.isPart = false → EndsLiteral s) (ht : b.isPart = false → EndsLiteral t)
    (h : a.written ++ s = b.written ++ t) : a = b ∧ s = t := by
  have hpart (p : PartTree) (u : Text) := (p.endsLiteral u).stops
  cases a with
  | literal a ha =>
      cases b with
      | literal b hb =>
          obtain ⟨rfl, hrest⟩ := Run.written_append_inj rfl a b (hs rfl).stops (ht rfl).stops h
          exact ⟨rfl, hrest⟩
      | part q => exact absurd (h ▸ hpart q t) (Run.not_stops ha s)
  | part p =>
      cases b with
      | literal b hb => exact absurd (h ▸ hpart p s) (Run.not_stops hb t)
      | part q =>
          obtain ⟨rfl, hrest⟩ := PartTree.written_append_inj h
          exact ⟨rfl, hrest⟩

theorem Tree.written_ne_nil (a : Tree) : a.written ≠ [] := by
  cases a with
  | literal a ha =>
      intro hnil
      have hstops : Stops Glyph.isLiteral (a.written ++ []) := by
        rw [written] at hnil
        rw [hnil]
        trivial
      exact Run.not_stops ha [] hstops
  | part p => exact List.cons_ne_nil _ _

theorem Tree.length_le_of_append (a : Tree) {t : Text} {fuel : Nat}
    (h : (a.written ++ t).length ≤ fuel + 1) : t.length ≤ fuel := by
  have hpos := List.length_pos_of_ne_nil a.written_ne_nil
  rw [List.length_append] at h
  omega

/-- A template has one derivation at most. -/
theorem IsDerivation.unique {d d' : List Tree} {t : Text}
    (h : IsDerivation d t) (h' : IsDerivation d' t) : d = d' := by
  induction d generalizing d' t with
  | nil =>
      cases d' with
      | nil => rfl
      | cons b rest =>
          have hempty : b.written ++ rest.flatMap Tree.written = [] :=
            h'.written.trans h.written.symm
          exact absurd (List.append_eq_nil_iff.mp hempty).1 b.written_ne_nil
  | cons a d ih =>
      cases d' with
      | nil =>
          have hempty : a.written ++ d.flatMap Tree.written = [] :=
            h.written.trans h'.written.symm
          exact absurd (List.append_eq_nil_iff.mp hempty).1 a.written_ne_nil
      | cons b rest =>
          have hwritten : a.written ++ d.flatMap Tree.written =
              b.written ++ rest.flatMap Tree.written := h.written.trans h'.written.symm
          obtain ⟨rfl, hrest⟩ := Tree.written_append_inj h.endsLiteral h'.endsLiteral hwritten
          rw [ih h.tail (hrest ▸ h'.tail)]

/-- A template that can be derived has a derivation: literals side by side are
put together. -/
theorem IsDerivable.exists_derivation {t : Text} (h : IsDerivable t) :
    ∃ d, IsDerivation d t := by
  obtain ⟨d, rfl⟩ := h
  induction d with
  | nil => exact ⟨[], rfl, .nil⟩
  | cons a d ih =>
      obtain ⟨d', hwritten, hapart⟩ := ih
      rw [List.flatMap_cons, ← hwritten]
      cases d' with
      | nil => exact ⟨[a], rfl, .singleton a⟩
      | cons b rest =>
          by_cases hpart : a.isPart = true ∨ b.isPart = true
          · exact ⟨a :: b :: rest, rfl, .cons_cons hpart hapart⟩
          · cases a with
            | part p => exact absurd (.inl rfl) hpart
            | literal a ha =>
                cases b with
                | part q => exact absurd (.inr rfl) hpart
                | literal b hb =>
                    refine ⟨.literal (a.append b) (List.append_ne_nil_of_left_ne_nil ha _) :: rest,
                      ?_, ?_⟩
                    · simp [Tree.written, Run.written_append]
                    · cases rest with
                      | nil => exact .singleton _
                      | cons c rest => exact .cons_cons hapart.rel hapart.tail

end Template

end KeyNaming
