import Mathlib.Data.List.Nodup
import KeyNaming.Pattern.Basic
import KeyNaming.Proofs.Entries
import KeyNaming.Proofs.Outcome
import KeyNaming.Proofs.Regex.Runs
import KeyNaming.Proofs.Text.Numeral

/-!
What reading promises of the parts of a template, and what assigning
occurrences makes of them.

Every part that captures is named by an identifier of ASCII letters, digits
and underscores; its parameter and its occurrence are told from that
identifier. Assigning occurrences keeps everything else. Where the parts that
pin no occurrence have different parameters, each is bound to the last one.
-/

namespace KeyNaming

section

variable {O : Type} (parts : List (PartOf O))

@[simp] theorem captureParts_nil : captureParts ([] : List (PartOf O)) = [] := rfl

@[simp] theorem captureParts_literal (written text : Text) :
    captureParts (.literal written text :: parts) = captureParts parts := rfl

@[simp] theorem captureParts_capture (c : Capture O) :
    captureParts (.capture c :: parts) = c :: captureParts parts := rfl

theorem mem_captureParts (c : Capture O) : c ∈ captureParts parts ↔ .capture c ∈ parts := by
  induction parts with
  | nil => simp
  | cons part rest ih =>
      cases part with
      | literal written text => simpa using ih
      | capture d => simp [ih]

end

namespace Template

/-- The values of a part that writes no expression are not limited, or as an
entry of the registry says. -/
theorem defaultRegex_cases (r : Registry) (parameter : Text) :
    defaultRegex r parameter = anyValue ∨
      ∃ info ∈ Entries.values r.entries, info.pattern = some (defaultRegex r parameter) := by
  rw [defaultRegex]
  cases hpattern : r.pattern? (some parameter) with
  | none => exact .inl rfl
  | some regex =>
      cases parameter with
      | nil => cases hpattern
      | cons first rest =>
          obtain ⟨info, hinfo, hregex⟩ := Option.bind_eq_some_iff.mp hpattern
          exact .inr ⟨info, Entries.mem_of_get? hinfo, hregex⟩

theorem meets_defaultRegex {r : Registry} {P : Regex → Bool}
    (hentries : (Entries.values r.entries).all (fun info => info.pattern.all P) = true)
    (hany : P anyValue = true) (parameter : Text) : P (defaultRegex r parameter) = true := by
  rcases defaultRegex_cases r parameter with hdefault | ⟨info, hinfo, hregex⟩
  · rw [hdefault, hany]
  · have hall := List.all_eq_true.mp hentries info hinfo
    rw [hregex] at hall
    exact hall

/-- What reading promises of a part that captures. -/
structure IsRead (r : Registry) (c : Capture (Option Occurrence)) : Prop where
  starts : c.identifier.head?.any CodePoint.isAsciiLetter = true
  word : c.identifier.all CodePoint.isAsciiWord = true
  parameter : c.parameter = (splitIdentifier c.identifier).1.lower
  occurrence : (splitIdentifier c.identifier).2.occurrence? = .ok c.occurrence
  regex : c.regexSpan = none → c.regex = defaultRegex r c.parameter
  given : c.regexSpan ≠ none → c.regex.given = {}

/-- A part has an expression without flags beside it, or that of the registry. -/
theorem IsRead.given_or_pattern? {r : Registry} {c : Capture (Option Occurrence)}
    (h : IsRead r c) : c.regex.given = {} ∨ r.pattern? (some c.parameter) = some c.regex := by
  cases hspan : c.regexSpan with
  | some span => exact .inl (h.given (hspan ▸ Option.some_ne_none span))
  | none =>
      rw [h.regex hspan, defaultRegex]
      cases r.pattern? (some c.parameter) with
      | none => exact .inl rfl
      | some regex => exact .inr rfl

variable (total : Nat) (r : Registry)

/-- What reading a part goes through where it comes to the end of the part. -/
theorem exists_of_readPart {t : Text} {closer : CodePoint} {d : Draft} {left : Text}
    (h : readPart total r t closer = .ok (d, left)) :
    ∃ leading rest occurrence inline behind trailing last,
      orFault (readSeparator total closer true t.tail) = .ok (leading, rest) ∧
      rest.head?.any CodePoint.isAsciiLetter = true ∧
      (splitIdentifier (rest.takeWhile CodePoint.isAsciiWord)).2.occurrence? = .ok occurrence ∧
      readRegex total (rest.dropWhile CodePoint.isAsciiWord) = .ok (inline, behind) ∧
      orFault (readSeparator total closer false behind) = .ok (trailing, last :: left) ∧
      d = .capture {
        written := t.take (t.length - left.length)
        identifier := rest.takeWhile CodePoint.isAsciiWord
        parameter := (splitIdentifier (rest.takeWhile CodePoint.isAsciiWord)).1.lower
        leading, trailing, occurrence
        required := closer == ']'
        regex := (inline.map Prod.fst).getD
          (defaultRegex r (splitIdentifier (rest.takeWhile CodePoint.isAsciiWord)).1.lower)
        regexSpan := inline.map Prod.snd } := by
  simp only [readPart, bind, Except.bind, pure, Except.pure] at h
  split at h
  · cases h
  · next hleading =>
    split at h
    · cases h
    · split at h
      · cases h
      · next hletter =>
        split at h
        · cases h
        · next hoccurrence =>
          split at h
          · cases h
          · next hinline =>
            split at h
            · cases h
            · next trailing htrailing =>
              split at h
              · cases h
              · next hlast =>
                obtain ⟨hd, rfl⟩ := Prod.mk.inj (Except.ok.inj h)
                have hpair : trailing = (trailing.1, _ :: _) := Prod.ext rfl hlast
                exact ⟨_, _, _, _, _, trailing.1, _, hleading, by simpa using hletter, hoccurrence,
                  hinline, htrailing.trans (congrArg Except.ok hpair), hd.symm⟩

/-- No flags are given beside an expression that a part writes. -/
theorem given_of_readRegex {t left : Text} {regex : Regex} {span : Span}
    (h : readRegex total t = .ok (some (regex, span), left)) : regex.given = {} := by
  unfold readRegex at h
  split at h
  · cases h
  · split at h
    · cases h
    · dsimp only at h
      split at h
      · cases h
      · split at h
        · next hcompile =>
          obtain ⟨rfl, _⟩ := Prod.mk.inj (Option.some.inj (Prod.mk.inj (Except.ok.inj h)).1)
          exact (Regex.compile_ok hcompile).2.2
        · cases h
        · cases h

theorem isRead_of_readPart {t left : Text} {closer : CodePoint} {c : Capture (Option Occurrence)}
    (h : readPart total r t closer = .ok (.capture c, left)) : IsRead r c := by
  obtain ⟨leading, rest, occurrence, inline, behind, trailing, last, -, hletter, hoccurrence,
    hinline, -, hc⟩ := exists_of_readPart total r h
  obtain rfl := PartOf.capture.inj hc
  refine ⟨?_, List.all_takeWhile, rfl, hoccurrence, ?_, ?_⟩
  · rcases rest with _ | ⟨first, rest⟩
    · cases hletter
    · have hfirst : first.isAsciiLetter = true := hletter
      have hword : first.isAsciiWord = true := by simp [CodePoint.isAsciiWord, hfirst]
      simp [hword, hfirst]
  · intro hspan
    rw [Option.map_eq_none_iff] at hspan
    rw [hspan]
    rfl
  · intro hspan
    cases inline with
    | none => exact absurd rfl hspan
    | some result => exact given_of_readRegex total hinline

/-- Reads the part or the literal that a text begins with. -/
def readDraft (t : Text) (exhausts : Text → Bool := fun _ => false) :
    Except Error (Draft × Text) :=
  match t.head?.bind closerOf? with
  | some closer => readPart total r t closer exhausts
  | none => (orFault (readLiteral total t)).map fun result =>
      (.literal (t.take (t.length - result.2.length)) result.1, result.2)

theorem readDrafts_cons (fuel : Nat) (c : CodePoint) (rest : Text)
    (exhausts : Text → Bool := fun _ => false) :
    readDrafts total r (fuel + 1) (c :: rest) exhausts =
      (do
        let (draft, left) ← readDraft total r (c :: rest) exhausts
        let drafts ← readDrafts total r fuel left exhausts
        pure (draft :: drafts)) := by
  rw [readDrafts, readDraft, List.head?_cons, Option.bind_some]
  cases closerOf? c with
  | some closer => rfl
  | none => cases orFault (readLiteral total (c :: rest)) <;> rfl

/-- Reading that comes to the end of a text has read what the text begins with,
and then what was left. -/
theorem exists_of_readDrafts_cons {fuel : Nat} {c : CodePoint} {rest : Text}
    {drafts : List Draft} (h : readDrafts total r (fuel + 1) (c :: rest) = .ok drafts) :
    ∃ draft left others, readDraft total r (c :: rest) = .ok (draft, left) ∧
      readDrafts total r fuel left = .ok others ∧ drafts = draft :: others := by
  rw [readDrafts_cons] at h
  simp only [bind, Except.bind, pure, Except.pure] at h
  split at h
  · cases h
  · next result hdraft =>
    split at h
    · cases h
    · next others hothers =>
      exact ⟨result.1, result.2, others, hdraft, hothers, (Except.ok.inj h).symm⟩

/-- A capture is read as a part. -/
theorem exists_readPart_of_readDraft {t left : Text} {c : Capture (Option Occurrence)}
    (h : readDraft total r t = .ok (.capture c, left)) :
    ∃ closer, readPart total r t closer = .ok (.capture c, left) := by
  rw [readDraft] at h
  split at h
  · exact ⟨_, h⟩
  · cases hliteral : orFault (readLiteral total t) with
    | error e => simp [hliteral, Except.map] at h
    | ok result => simp [hliteral, Except.map] at h

theorem isRead_of_readDrafts (fuel : Nat) (t : Text) (drafts : List Draft)
    (h : readDrafts total r fuel t = .ok drafts) :
    ∀ c, PartOf.capture c ∈ drafts → IsRead r c := by
  induction fuel generalizing t drafts with
  | zero =>
      obtain rfl := Except.ok.inj h
      simp
  | succ fuel ih =>
      cases t with
      | nil =>
          obtain rfl := Except.ok.inj h
          simp
      | cons c rest =>
          obtain ⟨draft, left, others, hdraft, hothers, rfl⟩ := exists_of_readDrafts_cons total r h
          intro e he
          rcases List.mem_cons.mp he with rfl | htail
          · obtain ⟨closer, hpart⟩ := exists_readPart_of_readDraft total r hdraft
            exact isRead_of_readPart total r hpart
          · exact ih left others hothers e htail

theorem isRead_of_read (template : Text) (drafts : List Draft)
    (h : Template.read r template = .ok drafts) :
    ∀ c, PartOf.capture c ∈ drafts → IsRead r c :=
  isRead_of_readDrafts _ r _ _ _ h

/-- A part bound to the last occurrence unless it pins another one. -/
def settle : Draft → Part
  | .literal written text => .literal written text
  | .capture c => place c c.identifier (c.occurrence.getD .last)

theorem parameters_assignFrom (bare : List Text) (taken : List (Text × Nat))
    (drafts : List Draft) :
    (captureParts (assignFrom bare taken drafts)).map Capture.parameter =
      (captureParts drafts).map Capture.parameter := by
  induction drafts generalizing taken with
  | nil => rfl
  | cons draft rest ih =>
      cases draft with
      | literal written text => simpa [assignFrom] using ih taken
      | capture c =>
          rw [assignFrom]
          split
          · simpa [place] using ih taken
          · split
            · simpa [place] using ih taken
            · simpa [place] using ih _

theorem assignFrom_eq_settle (bare : List Text) (taken : List (Text × Nat))
    (drafts : List Draft) (hbare : bare.Nodup)
    (hdrafts : ∀ name ∈ drafts.filterMap bareParameter?, name ∈ bare) :
    assignFrom bare taken drafts = drafts.map settle := by
  induction drafts with
  | nil => rfl
  | cons draft rest ih =>
      cases draft with
      | literal written text =>
          have hrest := ih (by simpa [bareParameter?] using hdrafts)
          rw [assignFrom, hrest, List.map_cons, settle]
      | capture c =>
          cases hoccurrence : c.occurrence with
          | some occurrence =>
              have hrest := ih (by simpa [bareParameter?, hoccurrence] using hdrafts)
              simp [assignFrom, hoccurrence, hrest, settle]
          | none =>
              have hmem : c.parameter ∈ bare ∧
                  ∀ name ∈ rest.filterMap bareParameter?, name ∈ bare := by
                simpa [bareParameter?, hoccurrence] using hdrafts
              have hcount : bare.count c.parameter = 1 :=
                List.count_eq_one_of_mem hbare hmem.1
              simp [assignFrom, hoccurrence, hcount, ih hmem.2, settle]

theorem bareParameters_sublist (drafts : List Draft) :
    List.Sublist (drafts.filterMap bareParameter?)
      ((captureParts drafts).map Capture.parameter) := by
  induction drafts with
  | nil => simp
  | cons draft rest ih =>
      cases draft with
      | literal written text =>
          rw [List.filterMap_cons_none rfl]
          exact ih
      | capture c =>
          cases hoccurrence : c.occurrence with
          | some occurrence =>
              rw [List.filterMap_cons_none (by simp [bareParameter?, hoccurrence])]
              exact ih.cons _
          | none =>
              have hparameter : bareParameter? (.capture c) = some c.parameter := by
                simp [bareParameter?, hoccurrence]
              rw [List.filterMap_cons_some hparameter]
              exact ih.cons_cons _

/-- Parts of different parameters are bound to the last occurrence unless they
pin another one, and none is renamed. -/
theorem assign_eq_settle (drafts : List Draft)
    (hdistinct : ((captureParts drafts).map Capture.parameter).Nodup) :
    assign drafts = drafts.map settle :=
  assignFrom_eq_settle _ _ drafts (hdistinct.sublist (bareParameters_sublist drafts))
    fun _ h => h

end Template

/-- Whether the identifier of a part is a word of ASCII that starts with a
letter. -/
structure Capture.IsNamed {O : Type} (c : Capture O) : Prop where
  starts : c.identifier.head?.any CodePoint.isAsciiLetter = true
  word : c.identifier.all CodePoint.isAsciiWord = true

namespace Template

theorem numbered_word {identifier : Text}
    (hstarts : identifier.head?.any CodePoint.isAsciiLetter = true)
    (hword : identifier.all CodePoint.isAsciiWord = true) (n : Nat) :
    (numbered identifier n).head?.any CodePoint.isAsciiLetter = true ∧
      (numbered identifier n).all CodePoint.isAsciiWord = true := by
  rw [numbered]
  split
  · exact ⟨hstarts, hword⟩
  · have hdigits : (Text.ofNat n).all CodePoint.isAsciiWord = true := by
      rw [List.all_eq_true]
      intro c hc
      simp [CodePoint.isAsciiWord, Text.isAsciiDigit_of_mem_ofNat hc]
    have hunderscore : (CodePoint.ofChar '_').isAsciiWord = true := rfl
    constructor
    · cases identifier with
      | nil => cases hstarts
      | cons c rest => exact hstarts
    · rw [List.all_append, hword, List.all_cons, hunderscore, hdigits]
      rfl

/-- An assigned part is one that was read, apart from its occurrence and a
number that its identifier may have been given. -/
theorem exists_of_mem_assignFrom (bare : List Text) (taken : List (Text × Nat))
    (drafts : List Draft) {c : Capture Occurrence}
    (hc : PartOf.capture c ∈ assignFrom bare taken drafts) :
    ∃ draft : Capture (Option Occurrence), PartOf.capture draft ∈ drafts ∧
      c = { draft with identifier := c.identifier, occurrence := c.occurrence } ∧
      (c.identifier = draft.identifier ∨ ∃ n, c.identifier = numbered draft.identifier n) := by
  induction drafts generalizing taken with
  | nil => cases hc
  | cons first rest ih =>
      have hrest (taken : List (Text × Nat)) (h : PartOf.capture c ∈ assignFrom bare taken rest) :
          ∃ draft : Capture (Option Occurrence), PartOf.capture draft ∈ first :: rest ∧
            c = { draft with identifier := c.identifier, occurrence := c.occurrence } ∧
            (c.identifier = draft.identifier ∨
              ∃ n, c.identifier = numbered draft.identifier n) := by
        obtain ⟨draft, hdraft, hsame⟩ := ih taken h
        exact ⟨draft, List.mem_cons_of_mem first hdraft, hsame⟩
      cases first with
      | literal written text =>
          rw [assignFrom] at hc
          rcases List.mem_cons.mp hc with hhead | htail
          · cases hhead
          · exact hrest taken htail
      | capture d =>
          rw [assignFrom] at hc
          split at hc
          · rcases List.mem_cons.mp hc with hhead | htail
            · obtain rfl := PartOf.capture.inj hhead
              exact ⟨d, List.mem_cons_self, rfl, .inl rfl⟩
            · exact hrest taken htail
          · split at hc
            · rcases List.mem_cons.mp hc with hhead | htail
              · obtain rfl := PartOf.capture.inj hhead
                exact ⟨d, List.mem_cons_self, rfl, .inl rfl⟩
              · exact hrest taken htail
            · rcases List.mem_cons.mp hc with hhead | htail
              · obtain rfl := PartOf.capture.inj hhead
                exact ⟨d, List.mem_cons_self, rfl, .inr ⟨_, rfl⟩⟩
              · exact hrest _ htail

theorem isNamed_of_assignFrom (bare : List Text) (taken : List (Text × Nat)) (drafts : List Draft)
    (hdrafts : ∀ c, PartOf.capture c ∈ drafts → c.IsNamed) :
    ∀ c, PartOf.capture c ∈ assignFrom bare taken drafts → c.IsNamed := by
  intro c hc
  obtain ⟨draft, hdraft, _, hidentifier⟩ := exists_of_mem_assignFrom bare taken drafts hc
  obtain ⟨hstarts, hword⟩ := hdrafts draft hdraft
  rcases hidentifier with hsame | ⟨n, hnumbered⟩
  · exact ⟨hsame ▸ hstarts, hsame ▸ hword⟩
  · obtain ⟨hstarts, hword⟩ := numbered_word hstarts hword n
    exact ⟨hnumbered ▸ hstarts, hnumbered ▸ hword⟩

end Template

/-- Whether the identifier of a part is the name of its parameter alone. -/
def Capture.IsBare {O : Type} (c : Capture O) : Prop :=
  Template.splitIdentifier c.identifier = (c.identifier, .none)

instance {O : Type} (c : Capture O) : Decidable c.IsBare :=
  inferInstanceAs (Decidable (_ = _))

namespace Pattern

/-- What a compiled pattern was made of. -/
theorem compile_ok {r : Registry} {template : Text} {p : Pattern}
    (h : Pattern.compile r template = .ok p) :
    ∃ drafts, Template.read r template = .ok drafts ∧
      p.parts = Template.assign drafts ∧ p.registry = r ∧
      Template.checkIdentifiers [] 0 p.parts = .ok () ∧
      Regex.compile (regexSource p.parts [] .all) = .ok p.regex := by
  simp only [Pattern.compile, bind, Except.bind, pure, Except.pure] at h
  split at h
  · cases h
  · next drafts hdrafts =>
    split at h
    · cases h
    · next hcheck =>
      split at h
      · next regex hregex =>
        obtain rfl := Except.ok.inj h
        refine ⟨drafts, hdrafts, rfl, rfl, ?_, hregex⟩
        rw [Template.orFault.eq_def] at hcheck
        split at hcheck
        · next heq => exact heq
        · cases hcheck
      · cases h
      · cases h

/-- A template makes a pattern if it is read, no identifier is there twice, and
the expression of its parts compiles. -/
theorem compile_of_read {r : Registry} {template : Text} {drafts : List Draft} {regex : Regex}
    (hread : Template.read r template = .ok drafts)
    (hcheck : Template.checkIdentifiers [] 0 (Template.assign drafts) = .ok ())
    (hregex : Regex.compile (regexSource (Template.assign drafts) [] .all) = .ok regex) :
    Pattern.compile r template = .ok ⟨template, Template.assign drafts, r, regex⟩ := by
  simp [Pattern.compile, hread, hcheck, hregex, Template.orFault, bind, Except.bind, pure,
    Except.pure]

theorem isNamed_of_read {r : Registry} {template : Text} {drafts : List Draft}
    (h : Template.read r template = .ok drafts) :
    ∀ c, PartOf.capture c ∈ Template.assign drafts → c.IsNamed := by
  apply Template.isNamed_of_assignFrom
  intro c hc
  have hisRead := Template.isRead_of_read r template drafts h c hc
  exact ⟨hisRead.starts, hisRead.word⟩

theorem isNamed_of_compile {r : Registry} {template : Text} {p : Pattern}
    (h : Pattern.compile r template = .ok p) :
    ∀ c, PartOf.capture c ∈ p.parts → c.IsNamed := by
  obtain ⟨drafts, hread, hparts, _⟩ := compile_ok h
  rw [hparts]
  exact isNamed_of_read hread

/-- A part of a template has an expression without flags beside it, or that of the
registry. -/
theorem given_or_pattern?_of_read {r : Registry} {template : Text} {drafts : List Draft}
    (h : Template.read r template = .ok drafts) {c : Capture Occurrence}
    (hc : PartOf.capture c ∈ Template.assign drafts) :
    c.regex.given = {} ∨ r.pattern? (some c.parameter) = some c.regex := by
  obtain ⟨draft, hdraft, hsame, _⟩ := Template.exists_of_mem_assignFrom _ _ drafts hc
  rw [hsame]
  exact (Template.isRead_of_read r template drafts h draft hdraft).given_or_pattern?

/-- A template that compiles to a pattern with a decidable property. -/
theorem exists_of_compile_any (r : Registry) (template : Text) (property : Pattern → Bool)
    (h : (Pattern.compile r template).toOption.any property = true) :
    ∃ p, Pattern.compile r template = .ok p ∧ property p = true :=
  exists_ok_of_any _ property h

/-- Each part of a pattern is one that was read, apart from its occurrence and
a number that its identifier may have been given. -/
theorem exists_isRead {r : Registry} {template : Text} {p : Pattern}
    (h : Pattern.compile r template = .ok p) {c : Capture Occurrence} (hc : c ∈ p.captures) :
    ∃ draft : Capture (Option Occurrence), Template.IsRead r draft ∧
      c = { draft with identifier := c.identifier, occurrence := c.occurrence } := by
  obtain ⟨drafts, hread, hparts, _⟩ := compile_ok h
  rw [captures, mem_captureParts, hparts] at hc
  obtain ⟨draft, hdraft, hsame, _⟩ := Template.exists_of_mem_assignFrom _ _ drafts hc
  exact ⟨draft, Template.isRead_of_read r template drafts hread draft hdraft, hsame⟩

/-- A part that writes no expression has that of the registry. -/
theorem regex_of_uninlined {r : Registry} {template : Text} {p : Pattern}
    (h : Pattern.compile r template = .ok p) {c : Capture Occurrence} (hc : c ∈ p.captures)
    (huninlined : c.regexSpan = none) : c.regex = Template.defaultRegex r c.parameter := by
  obtain ⟨draft, hread, hsame⟩ := exists_isRead h hc
  rw [hsame] at huninlined ⊢
  exact hread.regex huninlined

/-- In a pattern of parts of different parameters, each part is one that was
read, bound to the last occurrence unless it pins another one. -/
theorem exists_draft {r : Registry} {template : Text} {p : Pattern}
    (h : Pattern.compile r template = .ok p)
    (hdistinct : (p.captures.map Capture.parameter).Nodup)
    (c : Capture Occurrence) (hc : c ∈ p.captures) :
    ∃ draft : Capture (Option Occurrence), Template.IsRead r draft ∧
      c = { draft with occurrence := draft.occurrence.getD .last } := by
  obtain ⟨drafts, hread, hparts, _⟩ := compile_ok h
  have hsettle : p.parts = drafts.map Template.settle := by
    rw [hparts]
    apply Template.assign_eq_settle
    rw [← Template.parameters_assignFrom]
    rw [captures, hparts] at hdistinct
    exact hdistinct
  rw [captures, mem_captureParts, hsettle] at hc
  obtain ⟨draft, hdraft, heq⟩ := List.mem_map.mp hc
  cases draft with
  | literal written text => cases heq
  | capture d =>
      exact ⟨d, Template.isRead_of_read r template drafts hread d hdraft,
        (PartOf.capture.inj heq).symm⟩

/-- In a pattern of parts of different parameters, a part without a suffix is
bound to the last occurrence. -/
theorem last_of_isBare {r : Registry} {template : Text} {p : Pattern}
    (h : Pattern.compile r template = .ok p)
    (hdistinct : (p.captures.map Capture.parameter).Nodup)
    (c : Capture Occurrence) (hc : c ∈ p.captures) (hbare : c.IsBare) :
    c.occurrence = .last := by
  obtain ⟨draft, hread, rfl⟩ := exists_draft h hdistinct c hc
  have hoccurrence := hread.occurrence
  have hsplit : Template.splitIdentifier draft.identifier = (draft.identifier, .none) := hbare
  rw [hsplit] at hoccurrence
  have hnone : draft.occurrence = none := (Except.ok.inj hoccurrence).symm
  simp [hnone]

end Pattern

end KeyNaming
