import KeyNaming.Pattern.Parameters
import KeyNaming.Proofs.Pattern.Pinned
import KeyNaming.Proofs.Template.Collision

/-!
What the end of an identifier says, to a template and to values by identifier.

A template takes the suffix off the end of an identifier, behind its last
underscore. Values by identifier look for the shortest name that leaves nothing
else than a suffix. A suffix has one underscore, at its start, so no shorter name
can leave one that begins earlier: both find the same. An identifier that was
given a number says what it was given.
-/

namespace KeyNaming

open Template (Suffix Identifier)

/-- What a suffix mentions. -/
def Template.Suffix.mention : Suffix → Parameters.Mention
  | .none => .none
  | .last => .last
  | .number digits => .index digits

namespace Parameters

/-! ## The shortest name -/

/-- What may stand behind a name: a mention, or nothing. -/
def ending? (t : Text) : Option Mention := if t.isEmpty then some .none else mention? t

/-- A text split into a name and what is mentioned behind it, where no shorter
name can be split off. -/
structure IsSplit (t name : Text) (m : Mention) : Prop where
  nonempty : name ≠ []
  line : ('\n' : CodePoint) ∉ name
  ending : ∃ rest, t = name ++ rest ∧ ending? rest = some m
  shortest : ∀ stem rest, t = stem ++ rest → stem ≠ [] → stem.length < name.length →
    ending? rest = none

theorem splitName?_cons (c : CodePoint) (rest : Text) :
    splitName? (c :: rest) =
      if c = '\n' then none
      else match ending? rest with
        | some m => some ([c], m)
        | none => (splitName? rest).map fun split => (c :: split.1, split.2) := by
  cases rest with
  | nil => simp [splitName?, ending?]
  | cons d rest =>
      have hending : ending? (d :: rest) = mention? (d :: rest) := rfl
      rw [splitName?, hending]
      cases mention? (d :: rest) <;> simp

/-- The first character is a name, or it is the first one of a longer name. -/
theorem isSplit_cons_iff {c : CodePoint} {rest name : Text} {m : Mention} :
    IsSplit (c :: rest) name m ↔ c ≠ '\n' ∧
      (name = [c] ∧ ending? rest = some m ∨
        ending? rest = none ∧ ∃ name', name = c :: name' ∧ IsSplit rest name' m) := by
  constructor
  · rintro ⟨hnonempty, hline, ⟨behind, htext, hending⟩, hshortest⟩
    obtain ⟨d, name', rfl⟩ := List.exists_cons_of_ne_nil hnonempty
    obtain ⟨rfl, rfl⟩ := List.cons.inj htext
    obtain ⟨hhead, htail⟩ := not_or.mp (List.mem_cons.not.mp hline)
    refine ⟨Ne.symm hhead, ?_⟩
    by_cases hname : name' = []
    · subst hname
      exact .inl ⟨rfl, hending⟩
    · have hlonger : 1 < (c :: name').length :=
        Nat.succ_lt_succ (List.length_pos_iff.mpr hname)
      refine .inr ⟨hshortest [c] _ rfl (by simp) hlonger, name', rfl, hname, htail,
        ⟨behind, rfl, hending⟩, ?_⟩
      intro stem left hsplit hstem hlt
      exact hshortest (c :: stem) left (congrArg (c :: ·) hsplit) (by simp)
        (Nat.succ_lt_succ hlt)
  · rintro ⟨hline, ⟨rfl, hending⟩ | ⟨hnone, name', rfl, hsplit⟩⟩
    · refine ⟨by simp, by simpa using Ne.symm hline, ⟨rest, rfl, hending⟩, ?_⟩
      intro stem left _ hstem hlt
      exact absurd (List.eq_nil_of_length_eq_zero (Nat.lt_one_iff.mp hlt)) hstem
    · obtain ⟨behind, rfl, hending⟩ := hsplit.ending
      refine ⟨by simp, ?_, ⟨behind, rfl, hending⟩, ?_⟩
      · exact List.mem_cons.not.mpr (not_or.mpr ⟨Ne.symm hline, hsplit.line⟩)
      · intro stem left htext hstem hlt
        obtain ⟨d, stem', rfl⟩ := List.exists_cons_of_ne_nil hstem
        obtain ⟨rfl, hrest⟩ := List.cons.inj htext
        by_cases hstem' : stem' = []
        · subst hstem'
          obtain rfl : name' ++ behind = left := hrest
          exact hnone
        · exact hsplit.shortest stem' left hrest hstem' (Nat.lt_of_succ_lt_succ hlt)

/-- The name that is split off is the shortest one that can be. -/
theorem splitName?_eq_some_iff {t name : Text} {m : Mention} :
    splitName? t = some (name, m) ↔ IsSplit t name m := by
  induction t generalizing name with
  | nil =>
      refine iff_of_false nofun fun h => ?_
      obtain ⟨rest, htext, _⟩ := h.ending
      exact h.nonempty (List.append_eq_nil_iff.mp htext.symm).1
  | cons c rest ih =>
      rw [splitName?_cons, isSplit_cons_iff]
      by_cases hline : c = '\n'
      · simp [hline]
      · cases hending : ending? rest with
        | some m' => simp [hline, eq_comm]
        | none => simp [hline, ← ih, and_comm, eq_comm (a := name)]

/-! ## One suffix, read in two ways -/

theorem mention?_written {s : Suffix} (hvalid : s.IsValid) (hsome : s ≠ .none) :
    mention? s.written = some s.mention := by
  cases s with
  | none => exact absurd rfl hsome
  | last => rfl
  | number digits =>
      obtain ⟨hne, hdigits⟩ := hvalid
      have hn : digits ≠ [CodePoint.ofChar 'n'] := by
        rintro rfl
        exact absurd (hdigits _ List.mem_cons_self) (by decide)
      have hall : digits.all CodePoint.isAsciiDigit = true := List.all_eq_true.mpr hdigits
      simp [Suffix.written, mention?, hn, hne, hall, Suffix.mention]

theorem ending?_written {s : Suffix} (hvalid : s.IsValid) :
    ending? s.written = some s.mention := by
  cases s with
  | none => rfl
  | last => exact mention?_written hvalid nofun
  | number digits => exact mention?_written hvalid nofun

/-- What mentions an occurrence is a suffix, whose only underscore comes first. -/
theorem exists_of_mention? {t : Text} {m : Mention} (h : mention? t = some m) :
    ∃ (s : Suffix) (body : Text), s.IsValid ∧ s ≠ .none ∧ t = s.written ∧
      t = ('_' : CodePoint) :: body ∧ ('_' : CodePoint) ∉ body := by
  cases t with
  | nil => cases h
  | cons u rest =>
      rw [mention?] at h
      split at h
      · cases h
      · next hu =>
        obtain rfl : u = '_' := by simpa using hu
        split at h
        · next hn =>
          obtain rfl := eq_of_beq hn
          exact ⟨.last, _, trivial, nofun, rfl, rfl, by decide⟩
        · split at h
          · next hdigits =>
            obtain ⟨hsome, hall⟩ := Bool.and_eq_true_iff.mp hdigits
            have hdigits := List.all_eq_true.mp hall
            refine ⟨.number rest, rest, ⟨by simpa using hsome, hdigits⟩, nofun, rfl, rfl, ?_⟩
            intro hmem
            exact absurd (hdigits _ hmem) (by decide)
          · cases h

/-- Behind a name there is a suffix, be it empty. -/
theorem exists_of_ending? {t : Text} {m : Mention} (h : ending? t = some m) :
    ∃ s : Suffix, s.IsValid ∧ t = s.written ∧ m = s.mention := by
  obtain ⟨s, hvalid, rfl⟩ : ∃ s : Suffix, s.IsValid ∧ t = s.written := by
    rw [ending?] at h
    split at h
    · next hempty => exact ⟨.none, trivial, List.isEmpty_iff.mp hempty⟩
    · obtain ⟨s, _, hvalid, _, hwritten, _⟩ := exists_of_mention? h
      exact ⟨s, hvalid, hwritten⟩
  exact ⟨s, hvalid, rfl, Option.some.inj (h.symm.trans (ending?_written hvalid))⟩

/-- A text that is a name with a suffix behind it. It is a name alone only if it
ends in no suffix. -/
structure IsSuffixed (t name : Text) (s : Suffix) : Prop where
  written : t = name ++ s.written
  nonempty : name ≠ []
  valid : s.IsValid
  whole : s = .none → ∀ (stem : Text) (s' : Suffix),
    stem ≠ [] → s'.IsValid → s' ≠ .none → name ≠ stem ++ s'.written

theorem lineFeed_notMem_written {s : Suffix} (hvalid : s.IsValid) :
    ('\n' : CodePoint) ∉ s.written :=
  fun hmem => absurd (Suffix.word_of_isValid hvalid _ hmem) (by decide)

/-- Behind a shorter name than the one of a suffixed text there is no ending. -/
theorem IsSuffixed.ending?_eq_none {t name : Text} {s : Suffix} (h : IsSuffixed t name s)
    {stem rest : Text} (htext : t = stem ++ rest) (hstem : stem ≠ [])
    (hlt : stem.length < name.length) : ending? rest = none := by
  -- a shorter name leaves more than the suffix
  obtain ⟨left, hname, rfl⟩ : ∃ left, name = stem ++ left ∧ rest = left ++ s.written := by
    rcases List.append_eq_append_iff.mp (h.written.symm.trans htext) with ⟨more, rfl, _⟩ | hleft
    · rw [List.length_append] at hlt
      omega
    · exact hleft
  have hleft : left ≠ [] := by
    rintro rfl
    simp [hname] at hlt
  rw [ending?, if_neg (by simp [hleft])]
  refine Option.eq_none_iff_forall_ne_some.mpr fun m hmention => ?_
  obtain ⟨s', body, hvalid, hsome, hwritten, hbody, honce⟩ := exists_of_mention? hmention
  -- the underscore of a suffix would be a second one
  have hmore {digits : Text} (hsuffix : s.written = ('_' : CodePoint) :: digits) : False := by
    obtain ⟨u, left', rfl⟩ := List.exists_cons_of_ne_nil hleft
    obtain ⟨_, rfl⟩ := List.cons.inj hbody
    exact honce (by simp [hsuffix])
  cases hsuffix : s with
  | none =>
      rw [hsuffix, Suffix.written, List.append_nil] at hwritten
      exact h.whole hsuffix stem s' hstem hvalid hsome (hwritten ▸ hname)
  | last => exact hmore (by rw [hsuffix]; rfl)
  | number digits => exact hmore (by rw [hsuffix]; rfl)

/-- The shortest name is the one in front of the suffix. -/
theorem isSplit_iff {t name : Text} {m : Mention} :
    IsSplit t name m ↔
      ('\n' : CodePoint) ∉ t ∧ ∃ s : Suffix, IsSuffixed t name s ∧ m = s.mention := by
  constructor
  · rintro ⟨hnonempty, hline, ⟨rest, rfl, hending⟩, hshortest⟩
    obtain ⟨s, hvalid, rfl, hmention⟩ := exists_of_ending? hending
    refine ⟨?_, s, ⟨rfl, hnonempty, hvalid, ?_⟩, hmention⟩
    · exact List.mem_append.not.mpr (not_or.mpr ⟨hline, lineFeed_notMem_written hvalid⟩)
    · rintro rfl stem s' hstem hvalid' hsome rfl
      have hlonger : stem.length < (stem ++ s'.written).length := by
        cases s' with
        | none => exact absurd rfl hsome
        | last => simp [Suffix.written]
        | number digits => simp [Suffix.written]
      have hnone := hshortest stem s'.written (by simp [Suffix.written]) hstem hlonger
      cases hnone.symm.trans (ending?_written hvalid')
  · rintro ⟨hline, s, h, rfl⟩
    obtain rfl := h.written
    refine ⟨h.nonempty, ?_, ⟨s.written, rfl, ending?_written h.valid⟩, ?_⟩
    · exact fun hmem => hline (List.mem_append_left _ hmem)
    · exact fun stem rest htext hstem hlt => h.ending?_eq_none htext hstem hlt

/-- A text has one suffix at most. -/
theorem IsSuffixed.unique {t name name' : Text} {s s' : Suffix}
    (hline : ('\n' : CodePoint) ∉ t) (h : IsSuffixed t name s) (h' : IsSuffixed t name' s') :
    name = name' ∧ s.mention = s'.mention := by
  have hsplit := splitName?_eq_some_iff.mpr (isSplit_iff.mpr ⟨hline, s, h, rfl⟩)
  have hsplit' := splitName?_eq_some_iff.mpr (isSplit_iff.mpr ⟨hline, s', h', rfl⟩)
  exact Prod.mk.inj (Option.some.inj (hsplit.symm.trans hsplit'))

/-- Every text has a name but for the empty one and those with a line feed. -/
theorem splitName?_eq_none_iff {t : Text} :
    splitName? t = none ↔ t = [] ∨ ('\n' : CodePoint) ∈ t := by
  induction t with
  | nil => simp [splitName?]
  | cons c rest ih =>
      rw [splitName?_cons]
      by_cases hline : c = '\n'
      · simp [hline]
      · cases hending : ending? rest with
        | some m =>
            obtain ⟨s, hvalid, rfl, _⟩ := exists_of_ending? hending
            simp [hline, Ne.symm hline, lineFeed_notMem_written hvalid]
        | none =>
            have hrest : rest ≠ [] := by
              rintro rfl
              cases hending
            simp [hline, Ne.symm hline, ih, hrest]

/-- The name that a template takes out of an identifier is the shortest one. -/
theorem splitName?_written (i : Identifier) :
    splitName? i.written = some (i.name, i.suffix.mention) := by
  rw [splitName?_eq_some_iff, isSplit_iff]
  refine ⟨?_, i.suffix, ⟨rfl, ?_, i.valid, fun hnone stem s' _ => i.split hnone stem s'⟩, rfl⟩
  · intro hline
    rcases List.mem_append.mp hline with hname | hsuffix
    · exact absurd (i.word _ hname) (by decide)
    · exact lineFeed_notMem_written i.valid hsuffix
  · intro hnil
    have hstarts := i.starts
    rw [hnil] at hstarts
    cases hstarts

/-- A name and a suffix are split the same way for values as for a template. -/
theorem splitName?_of_word {identifier : Text}
    (hstarts : identifier.head?.any CodePoint.isAsciiLetter = true)
    (hword : identifier.all CodePoint.isAsciiWord = true) :
    splitName? identifier = some ((Template.splitIdentifier identifier).1,
      (Template.splitIdentifier identifier).2.mention) := by
  obtain ⟨i, rfl⟩ := Identifier.exists_written identifier hstarts (List.all_eq_true.mp hword)
  rw [splitName?_written, i.splitIdentifier_written]

/-! ## What a mention says of a part -/

/-- Whether what an identifier mentions holds of an occurrence. -/
def Mention.Describes : Mention → Occurrence → Prop
  | .none, occurrence => occurrence.isLast = true ∨ occurrence.index = 0
  | .last, occurrence => occurrence.isLast = true
  | .index digits, occurrence => occurrence.index = Text.valueOf 10 digits

end Parameters

namespace Template

section

variable {r : Registry} {c : Capture (Option Occurrence)}

/-- The occurrence of a part as it was read is what its suffix mentions, or the
last one by default. -/
theorem IsRead.describes (h : IsRead r c) :
    (splitIdentifier c.identifier).2.mention.Describes (c.occurrence.getD .last) := by
  have hoccurrence := h.occurrence
  cases hsuffix : (splitIdentifier c.identifier).2 with
  | none =>
      rw [hsuffix] at hoccurrence
      rw [← Except.ok.inj hoccurrence]
      exact .inl rfl
  | last =>
      rw [hsuffix] at hoccurrence
      rw [← Except.ok.inj hoccurrence]
      rfl
  | number digits =>
      rw [h.occurrence_eq_ofIndex hsuffix]
      exact Occurrence.index_ofIndex _

/-- A number that a bare part is given is what its identifier mentions then. -/
theorem IsRead.splitIdentifier_numbered_describes (h : IsRead r c) (hbare : c.IsBare) (n : Nat) :
    (splitIdentifier (numbered c.identifier n)).1.lower = c.parameter ∧
      (splitIdentifier (numbered c.identifier n)).2.mention.Describes (.ofIndex n) := by
  by_cases hn : n = 0
  · subst hn
    rw [numbered, if_pos rfl, hbare]
    exact ⟨(h.parameter_of_isBare hbare).symm, .inr (Occurrence.index_ofIndex 0)⟩
  · rw [splitIdentifier_numbered c.identifier hn]
    refine ⟨(h.parameter_of_isBare hbare).symm, ?_⟩
    exact (Occurrence.index_ofIndex n).trans (Text.valueOf_ofNat n).symm

end

/-- What is assigned to a part is what its identifier says in the end. -/
theorem describes_of_mem_assignedPairs {r : Registry} {template : Text} {drafts : List Draft}
    (hread : Template.read r template = .ok drafts)
    {e : Capture (Option Occurrence) × Capture Occurrence} (he : e ∈ assignedPairs drafts) :
    (splitIdentifier e.2.identifier).1.lower = e.2.parameter ∧
      (splitIdentifier e.2.identifier).2.mention.Describes e.2.occurrence := by
  have hisRead := isRead_of_mem_assignedPairs hread he
  rcases kept_or_given hread he with hkept | ⟨hbare, n, hidentifier, hoccurrence⟩
  · rw [hkept]
    exact ⟨hisRead.parameter.symm, hisRead.describes⟩
  · rw [hidentifier, hoccurrence, parameter_of_mem_assignedPairs he]
    exact hisRead.splitIdentifier_numbered_describes hbare n

end Template

namespace Pattern

/-- An identifier names its parameter, regardless of case, and what it mentions is the
occurrence of the part, also where values are given by identifier. Without a mention a
part has the last occurrence or the first one. -/
theorem identifier_describes {r : Registry} {template : Text} {p : Pattern}
    (hp : Pattern.compile r template = .ok p) {c : Capture Occurrence} (hc : c ∈ p.captures) :
    ∃ name mention, Parameters.splitName? c.identifier = some (name, mention) ∧
      name.lower = c.parameter ∧ mention.Describes c.occurrence := by
  obtain ⟨drafts, draft, hread, _, he⟩ := exists_assignedPair hp hc
  have hnamed := Template.named_of_mem_assignedPairs hread he
  exact ⟨_, _, Parameters.splitName?_of_word hnamed.starts hnamed.word,
    Template.describes_of_mem_assignedPairs hread he⟩

def mentionTemplate : Text :=
  "\x7bLocation_007/\x7d\x7bA_1_2/\x7d\x7bB_1_/\x7d\x7blocation/\x7d\x7bLocation/\x7d\x7bKey_n\x7d"

/-- Names keep their underscores, and the number that was free is told apart from
one that was written with zeros in front. -/
theorem identifier_describes_location :
    ∃ p, Pattern.compile defaultRegistry mentionTemplate = .ok p ∧
      p.captures.map (fun c => c.identifier) =
        ["Location_007", "A_1_2", "B_1_", "location", "Location_1", "Key_n"] ∧
      ∀ c ∈ p.captures, ∃ name mention,
        Parameters.splitName? c.identifier = some (name, mention) ∧
          name.lower = c.parameter ∧ mention.Describes c.occurrence := by
  obtain ⟨p, hp, hproperty⟩ := exists_of_compile_any defaultRegistry mentionTemplate
    (fun p => decide (p.captures.map (fun c => c.identifier) =
      ["Location_007", "A_1_2", "B_1_", "location", "Location_1", "Key_n"]))
    (by decide +kernel)
  exact ⟨p, hp, of_decide_eq_true hproperty, fun c hc => identifier_describes hp hc⟩

end Pattern

end KeyNaming
