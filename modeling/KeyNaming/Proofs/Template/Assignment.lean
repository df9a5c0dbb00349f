import KeyNaming.Proofs.Counterpart
import KeyNaming.Proofs.Template.Drafts
import KeyNaming.Proofs.Template.Grammar

/-!
Which numbers assigning occurrences gives to the parts that pin none.

The numbers of one parameter are searched one after the other, each search
passing over the numbers found before it. So they are the first ones, in order,
that the template does not pin. There are fewer taken numbers than parts, so
the number that stands for the last occurrence is not reached.
-/

namespace KeyNaming

namespace Template

/-! ## Free numbers -/

/-- The smallest number that is not taken is found. -/
theorem find?_firstFree (taken : List Nat) :
    (List.range (taken.length + 1)).find? (fun n => !taken.contains n) =
      some (firstFree taken) := by
  cases hfind : (List.range (taken.length + 1)).find? fun n => !taken.contains n with
  | some n => rw [firstFree, hfind, Option.getD_some]
  | none =>
      -- more numbers than were taken cannot all be taken
      have hsubset : List.range (taken.length + 1) ⊆ taken := by
        intro n hn
        simpa using List.find?_range_eq_none.mp hfind n (List.mem_range.mp hn)
      have hlength := (List.nodup_range (n := taken.length + 1)).length_le_of_subset hsubset
      rw [List.length_range] at hlength
      omega

section

variable (taken : List Nat)

theorem firstFree_not_mem : firstFree taken ∉ taken := by
  simpa using List.find?_some (find?_firstFree taken)

theorem firstFree_le_length : firstFree taken ≤ taken.length :=
  Nat.lt_succ_iff.mp (List.mem_range.mp (List.mem_of_find?_eq_some (find?_firstFree taken)))

variable {taken}

theorem mem_of_lt_firstFree {n : Nat} (h : n < firstFree taken) : n ∈ taken := by
  simpa using (List.find?_range_eq_some.mp (find?_firstFree taken)).2.2 n h

end

/-- The numbers that as many searches in a row find, each of them taking what
it finds. -/
def freeNumbers (taken : List Nat) : Nat → List Nat
  | 0 => []
  | count + 1 => firstFree taken :: freeNumbers (firstFree taken :: taken) count

/-- Whether numbers are the smallest ones that are not taken, in order. -/
structure AreFirstFree (taken ns : List Nat) : Prop where
  increasing : ns.Pairwise (· < ·)
  free : ∀ n ∈ ns, n ∉ taken
  first : ∀ n ∈ ns, ∀ m < n, m ∉ taken → m ∈ ns

theorem areFirstFree_freeNumbers (taken : List Nat) (count : Nat) :
    AreFirstFree taken (freeNumbers taken count) := by
  induction count generalizing taken with
  | zero => exact ⟨.nil, nofun, nofun⟩
  | succ count ih =>
      obtain ⟨hincreasing, hfree, hfirst⟩ := ih (firstFree taken :: taken)
      refine ⟨.cons ?_ hincreasing, ?_, ?_⟩
      · intro n hn
        -- what the later searches find is not taken, so it is no smaller, and not the same
        obtain ⟨hne, hnot⟩ := not_or.mp (List.mem_cons.not.mp (hfree n hn))
        have hle : firstFree taken ≤ n := Nat.le_of_not_lt fun hlt => hnot (mem_of_lt_firstFree hlt)
        omega
      · intro n hn
        rcases List.mem_cons.mp hn with rfl | hn
        · exact firstFree_not_mem taken
        · exact (not_or.mp (List.mem_cons.not.mp (hfree n hn))).2
      · intro n hn m hm hnot
        rcases List.mem_cons.mp hn with rfl | hn
        · exact absurd (mem_of_lt_firstFree hm) hnot
        · by_cases hhead : m = firstFree taken
          · exact hhead ▸ List.mem_cons_self
          · refine List.mem_cons_of_mem _ (hfirst n hn m hm ?_)
            exact List.mem_cons.not.mpr (not_or.mpr ⟨hhead, hnot⟩)

theorem lt_of_mem_freeNumbers {taken : List Nat} {count n : Nat}
    (h : n ∈ freeNumbers taken count) : n < taken.length + count := by
  induction count generalizing taken with
  | zero => cases h
  | succ count ih =>
      rcases List.mem_cons.mp h with rfl | h
      · have hle := firstFree_le_length taken
        omega
      · have hlt := ih h
        rw [List.length_cons] at hlt
        omega

/-- Taken numbers matter up to a bound alone if the free ones stay below it. -/
theorem AreFirstFree.congr {taken taken' ns : List Nat} {bound : Nat}
    (h : AreFirstFree taken ns) (hbound : ∀ n ∈ ns, n < bound)
    (hsame : ∀ n < bound, n ∈ taken ↔ n ∈ taken') : AreFirstFree taken' ns where
  increasing := h.increasing
  free n hn := (hsame n (hbound n hn)).not.mp (h.free n hn)
  first n hn m hm hnot :=
    h.first n hn m hm ((hsame m (hm.trans (hbound n hn))).not.mpr hnot)

/-! ## Captures before and after -/

/-- What assigning makes of a capture, and the numbers that are taken then. -/
inductive Assigns (bare : List Text) (taken : List (Text × Nat))
    (c : Capture (Option Occurrence)) : Capture Occurrence → List (Text × Nat) → Prop where
  | pinned (occurrence : Occurrence) (hoccurrence : c.occurrence = some occurrence) :
      Assigns bare taken c { c with identifier := c.identifier, occurrence } taken
  | single (hoccurrence : c.occurrence = none) (hcount : bare.count c.parameter = 1) :
      Assigns bare taken c { c with identifier := c.identifier, occurrence := .last } taken
  | several (n : Nat) (hoccurrence : c.occurrence = none) (hcount : bare.count c.parameter ≠ 1)
      (hn : n = firstFree (takenFor taken c.parameter)) :
      Assigns bare taken c { c with identifier := numbered c.identifier n, occurrence := .ofIndex n }
        ((c.parameter, n) :: taken)

theorem exists_assigns (bare : List Text) (taken : List (Text × Nat))
    (c : Capture (Option Occurrence)) (rest : List Draft) :
    ∃ d taken', Assigns bare taken c d taken' ∧
      assignFrom bare taken (.capture c :: rest) = .capture d :: assignFrom bare taken' rest := by
  rw [assignFrom]
  cases hoccurrence : c.occurrence with
  | some occurrence => exact ⟨_, _, .pinned occurrence hoccurrence, rfl⟩
  | none =>
      by_cases hcount : bare.count c.parameter = 1
      · exact ⟨_, _, .single hoccurrence hcount, if_pos (beq_iff_eq.mpr hcount)⟩
      · exact ⟨_, _, .several _ hoccurrence hcount rfl, if_neg (by simpa using hcount)⟩

/-- The captures among parts that were read, each with what is assigned for
it. -/
def pairsFrom (bare : List Text) (taken : List (Text × Nat)) (drafts : List Draft) :
    List (Capture (Option Occurrence) × Capture Occurrence) :=
  (captureParts drafts).zip (captureParts (assignFrom bare taken drafts))

@[inherit_doc pairsFrom]
def assignedPairs (drafts : List Draft) : List (Capture (Option Occurrence) × Capture Occurrence) :=
  (captureParts drafts).zip (captureParts (assign drafts))

theorem length_captureParts_assign (drafts : List Draft) :
    (captureParts (assign drafts)).length = (captureParts drafts).length := by
  rw [assign]
  simpa using congrArg List.length (parameters_assignFrom _ _ drafts)

theorem map_fst_assignedPairs (drafts : List Draft) :
    (assignedPairs drafts).map Prod.fst = captureParts drafts :=
  List.map_fst_zip (length_captureParts_assign drafts).ge

theorem map_snd_assignedPairs (drafts : List Draft) :
    (assignedPairs drafts).map Prod.snd = captureParts (assign drafts) :=
  List.map_snd_zip (length_captureParts_assign drafts).le

theorem parameter_of_mem_assignedPairs {drafts : List Draft}
    {e : Capture (Option Occurrence) × Capture Occurrence} (he : e ∈ assignedPairs drafts) :
    e.2.parameter = e.1.parameter := by
  have hparameters : (assignedPairs drafts).map (fun e => e.2.parameter) =
      (assignedPairs drafts).map fun e => e.1.parameter := by
    have hsame := parameters_assignFrom (drafts.filterMap bareParameter?)
      (drafts.filterMap pinnedIndex?) drafts
    rw [← assign, ← map_snd_assignedPairs, ← map_fst_assignedPairs, List.map_map, List.map_map]
      at hsame
    exact hsame
  exact List.map_inj_left.mp hparameters e he

/-- A capture is kept as it was read unless its parameter has several parts
that pin no occurrence. -/
theorem eq_of_mem_pairsFrom {bare : List Text} {taken : List (Text × Nat)} {drafts : List Draft}
    {e : Capture (Option Occurrence) × Capture Occurrence} (he : e ∈ pairsFrom bare taken drafts)
    (hkept : e.1.occurrence = none → bare.count e.1.parameter = 1) :
    e.2 = { e.1 with identifier := e.1.identifier, occurrence := e.1.occurrence.getD .last } := by
  induction drafts generalizing taken with
  | nil => cases he
  | cons draft rest ih =>
      cases draft with
      | literal written text => exact ih he
      | capture c =>
          obtain ⟨d, taken', hassigns, hrest⟩ := exists_assigns bare taken c rest
          rw [pairsFrom, hrest, captureParts_capture, captureParts_capture,
            List.zip_cons_cons] at he
          rcases List.mem_cons.mp he with rfl | he
          · cases hassigns with
            | pinned occurrence hoccurrence => simp [hoccurrence]
            | single hoccurrence hcount => simp [hoccurrence]
            | several n hoccurrence hcount hn => exact absurd (hkept hoccurrence) hcount
          · exact ih he

/-- Whether a capture of a parameter pins no occurrence. -/
def isUnpinned (parameter : Text) (c : Capture (Option Occurrence)) : Bool :=
  c.occurrence.isNone && c.parameter == parameter

theorem takenFor_cons (parameter name : Text) (n : Nat) (taken : List (Text × Nat)) :
    takenFor ((name, n) :: taken) parameter =
      if name = parameter then n :: takenFor taken parameter else takenFor taken parameter := by
  rw [takenFor, List.filter_cons]
  split
  · next h => rw [if_pos (eq_of_beq h)]; rfl
  · next h => rw [if_neg (by simpa using h)]; rfl

/-- The captures of a parameter that has several without an occurrence take the
free numbers in order. -/
theorem forall₂_freeNumbers {bare : List Text} {parameter : Text}
    (hseveral : bare.count parameter ≠ 1) (taken : List (Text × Nat)) (drafts : List Draft) :
    List.Forall₂ (fun e n => e.2.identifier = numbered e.1.identifier n ∧
        e.2.occurrence = Occurrence.ofIndex n)
      ((pairsFrom bare taken drafts).filter fun e => isUnpinned parameter e.1)
      (freeNumbers (takenFor taken parameter)
        ((pairsFrom bare taken drafts).filter fun e => isUnpinned parameter e.1).length) := by
  induction drafts generalizing taken with
  | nil => exact .nil
  | cons draft rest ih =>
      cases draft with
      | literal written text => exact ih taken
      | capture c =>
          obtain ⟨d, taken', hassigns, hrest⟩ := exists_assigns bare taken c rest
          have hpairs : pairsFrom bare taken (.capture c :: rest) =
              (c, d) :: pairsFrom bare taken' rest := by
            rw [pairsFrom, hrest]
            rfl
          rw [hpairs]
          cases hassigns with
          | pinned occurrence hoccurrence =>
              rw [List.filter_cons_of_neg (by simp [isUnpinned, hoccurrence])]
              exact ih taken
          | single hoccurrence hcount =>
              have hother : c.parameter ≠ parameter := fun h => hseveral (h ▸ hcount)
              rw [List.filter_cons_of_neg (by simp [isUnpinned, hother])]
              exact ih taken
          | several n hoccurrence hcount hn =>
              have htail := ih ((c.parameter, n) :: taken)
              rw [takenFor_cons] at htail
              by_cases hparameter : c.parameter = parameter
              · subst hparameter
                rw [if_pos rfl] at htail
                rw [List.filter_cons_of_pos (by simp [isUnpinned, hoccurrence]), List.length_cons,
                  freeNumbers, ← hn]
                exact .cons ⟨rfl, rfl⟩ htail
              · rw [if_neg hparameter] at htail
                rw [List.filter_cons_of_neg (by simp [isUnpinned, hparameter])]
                exact htail

/-! ## Captures counted -/

theorem length_filter_assignedPairs (p : Capture (Option Occurrence) → Bool) (drafts : List Draft) :
    ((assignedPairs drafts).filter fun e => p e.1).length = (captureParts drafts).countP p := by
  rw [← map_fst_assignedPairs drafts, List.countP_map, List.countP_eq_length_filter]
  rfl

theorem count_bareParameters (drafts : List Draft) (parameter : Text) :
    (drafts.filterMap bareParameter?).count parameter =
      (captureParts drafts).countP (isUnpinned parameter) := by
  induction drafts with
  | nil => rfl
  | cons draft rest ih =>
      cases draft with
      | literal written text => exact ih
      | capture c =>
          rw [captureParts_capture, List.countP_cons, ← ih]
          cases hoccurrence : c.occurrence with
          | some occurrence => simp [bareParameter?, isUnpinned, hoccurrence]
          | none => simp [bareParameter?, isUnpinned, hoccurrence, List.count_cons]

theorem length_takenFor_le (taken : List (Text × Nat)) (parameter : Text) :
    (takenFor taken parameter).length ≤ taken.length := by
  rw [takenFor, List.length_map]
  exact List.length_filter_le _ _

theorem length_pinnedIndices_le (drafts : List Draft) :
    (drafts.filterMap pinnedIndex?).length ≤
      (captureParts drafts).countP fun c => c.occurrence.isSome := by
  induction drafts with
  | nil => exact Nat.le_refl 0
  | cons draft rest ih =>
      cases draft with
      | literal written text => exact ih
      | capture c =>
          rw [captureParts_capture, List.countP_cons]
          cases hoccurrence : c.occurrence with
          | none => simpa [pinnedIndex?, hoccurrence] using ih
          | some occurrence =>
              cases occurrence with
              | last => simpa [pinnedIndex?, hoccurrence] using ih.trans (Nat.le_succ _)
              | pinned n => simpa [pinnedIndex?, hoccurrence] using ih

/-- What is taken and what is to be numbered come from different captures. -/
theorem taken_add_unpinned_le (drafts : List Draft) (parameter : Text) :
    (takenFor (drafts.filterMap pinnedIndex?) parameter).length +
      (captureParts drafts).countP (isUnpinned parameter) ≤ (captureParts drafts).length := by
  have hunpinned : (captureParts drafts).countP (isUnpinned parameter) ≤
      (captureParts drafts).countP fun c => decide ¬ c.occurrence.isSome = true := by
    apply List.countP_mono_left
    intro c _ hc
    simpa using (Bool.and_eq_true_iff.mp hc).1
  have hsplit := List.length_eq_countP_add_countP
    (fun c : Capture (Option Occurrence) => c.occurrence.isSome) (l := captureParts drafts)
  have htaken := (length_takenFor_le _ parameter).trans (length_pinnedIndices_le drafts)
  omega

/-! ## Suffixes -/

/-- What an identifier that begins with a letter and is made of word characters
is split into is what it is written with. -/
theorem written_splitIdentifier {identifier : Text}
    (hstarts : identifier.head?.any CodePoint.isAsciiLetter = true)
    (hword : identifier.all CodePoint.isAsciiWord = true) :
    identifier = (splitIdentifier identifier).1 ++ (splitIdentifier identifier).2.written ∧
      (splitIdentifier identifier).2.IsValid := by
  obtain ⟨i, rfl⟩ := Identifier.exists_written identifier hstarts (List.all_eq_true.mp hword)
  rw [i.splitIdentifier_written]
  exact ⟨rfl, i.valid⟩

section

variable {r : Registry} {c : Capture (Option Occurrence)}

/-- A number after the last underscore is the occurrence that a part pins. -/
theorem IsRead.occurrence_eq_ofIndex (h : IsRead r c) {digits : Text}
    (hsuffix : (splitIdentifier c.identifier).2 = .number digits) :
    c.occurrence = some (.ofIndex (Text.valueOf 10 digits)) := by
  have hoccurrence := h.occurrence
  rw [hsuffix, Suffix.occurrence?] at hoccurrence
  split at hoccurrence
  · cases hoccurrence
  · exact (Except.ok.inj hoccurrence).symm

/-- A part pins an occurrence just if its identifier has a suffix. -/
theorem IsRead.occurrence_eq_none_iff (h : IsRead r c) : c.occurrence = none ↔ c.IsBare := by
  constructor
  · intro hnone
    obtain ⟨hwritten, _⟩ := written_splitIdentifier h.starts h.word
    have hoccurrence := h.occurrence
    rw [hnone] at hoccurrence
    cases hsuffix : (splitIdentifier c.identifier).2 with
    | none =>
        rw [hsuffix, Suffix.written, List.append_nil] at hwritten
        exact Prod.ext hwritten.symm hsuffix
    | last =>
        rw [hsuffix] at hoccurrence
        cases hoccurrence
    | number digits =>
        cases hnone.symm.trans (h.occurrence_eq_ofIndex hsuffix)
  · intro hbare
    have hoccurrence := h.occurrence
    rw [hbare] at hoccurrence
    exact (Except.ok.inj hoccurrence).symm

theorem IsRead.parameter_of_isBare (h : IsRead r c) (hbare : c.IsBare) :
    c.parameter = c.identifier.lower := by
  rw [h.parameter, hbare]

end

/-- The numbers that the identifiers of a parameter are written with. -/
def pinnedNumbers (drafts : List Draft) (parameter : Text) : List Nat :=
  (captureParts drafts).filterMap fun c =>
    match splitIdentifier c.identifier with
    | (name, .number digits) =>
      if name.lower = parameter then some (Text.valueOf 10 digits) else none
    | _ => none

theorem mem_pinnedNumbers {drafts : List Draft} {parameter : Text} {n : Nat} :
    n ∈ pinnedNumbers drafts parameter ↔ ∃ c ∈ captureParts drafts, ∃ name digits,
      splitIdentifier c.identifier = (name, .number digits) ∧ name.lower = parameter ∧
        Text.valueOf 10 digits = n := by
  rw [pinnedNumbers, List.mem_filterMap]
  refine exists_congr fun c => and_congr_right fun _ => ?_
  constructor
  · intro h
    split at h
    · next name digits hsplit =>
      split at h
      · next hname => exact ⟨name, digits, hsplit, hname, Option.some.inj h⟩
      · cases h
    · cases h
  · rintro ⟨name, digits, hsplit, hname, hvalue⟩
    simp only [hsplit, hname, hvalue, if_true]

theorem mem_takenFor_pinned {drafts : List Draft} {parameter : Text} {n : Nat} :
    n ∈ takenFor (drafts.filterMap pinnedIndex?) parameter ↔
      ∃ c ∈ captureParts drafts, c.occurrence = some (.pinned n) ∧ c.parameter = parameter := by
  have hpinned (draft : Draft) (entry : Text × Nat) : pinnedIndex? draft = some entry ↔
      ∃ c, draft = .capture c ∧ c.occurrence = some (.pinned entry.2) ∧ c.parameter = entry.1 := by
    cases draft with
    | literal written text => simp [pinnedIndex?]
    | capture c =>
        cases hoccurrence : c.occurrence with
        | none => simp [pinnedIndex?, hoccurrence]
        | some occurrence =>
            cases occurrence with
            | last => simp [pinnedIndex?, hoccurrence]
            | pinned m => simp [pinnedIndex?, hoccurrence, Prod.ext_iff, and_comm]
  rw [takenFor]
  simp only [List.mem_map, List.mem_filter, List.mem_filterMap, hpinned, beq_iff_eq]
  constructor
  · rintro ⟨entry, ⟨⟨_, hdraft, c, rfl, hoccurrence, hparameter⟩, rfl⟩, rfl⟩
    exact ⟨c, (mem_captureParts drafts c).mpr hdraft, hoccurrence, hparameter⟩
  · rintro ⟨c, hc, hoccurrence, rfl⟩
    exact ⟨(c.parameter, n), ⟨⟨_, (mem_captureParts drafts c).mp hc, c, rfl, hoccurrence, rfl⟩,
      rfl⟩, rfl⟩

section

variable {r : Registry} {template : Text} {drafts : List Draft}

/-- Below the number that stands for the last occurrence, what is taken is what
is written. -/
theorem mem_takenFor_iff (hread : Template.read r template = .ok drafts) (parameter : Text)
    {n : Nat} (hn : n < Occurrence.lastIndex) :
    n ∈ takenFor (drafts.filterMap pinnedIndex?) parameter ↔
      n ∈ pinnedNumbers drafts parameter := by
  rw [mem_takenFor_pinned, mem_pinnedNumbers]
  refine exists_congr fun c => and_congr_right fun hc => ?_
  have hisRead := isRead_of_read r template drafts hread c ((mem_captureParts drafts c).mp hc)
  constructor
  · rintro ⟨hoccurrence, hparameter⟩
    have hsplit := hisRead.occurrence
    rw [hoccurrence] at hsplit
    cases hsuffix : (splitIdentifier c.identifier).2 with
    | none => rw [hsuffix] at hsplit; cases hsplit
    | last => rw [hsuffix] at hsplit; cases hsplit
    | number digits =>
        have hindex := hisRead.occurrence_eq_ofIndex hsuffix
        rw [hoccurrence, Occurrence.ofIndex] at hindex
        split at hindex
        · cases hindex
        · exact ⟨_, digits, Prod.ext rfl hsuffix, hisRead.parameter ▸ hparameter,
            (Occurrence.pinned.inj (Option.some.inj hindex)).symm⟩
  · rintro ⟨name, digits, hsplit, hname, rfl⟩
    refine ⟨?_, ?_⟩
    · rw [hisRead.occurrence_eq_ofIndex (congrArg Prod.snd hsplit), Occurrence.ofIndex,
        if_neg hn.ne]
    · rw [hisRead.parameter, hsplit, hname]

/-- The parts of a parameter whose identifiers have no suffix, as they were
read and as they are assigned. -/
def bareParts (drafts : List Draft) (parameter : Text) :
    List (Capture (Option Occurrence) × Capture Occurrence) :=
  (assignedPairs drafts).filter fun e => decide (e.1.IsBare ∧ e.1.parameter = parameter)

theorem isRead_of_mem_assignedPairs (hread : Template.read r template = .ok drafts)
    {e : Capture (Option Occurrence) × Capture Occurrence} (he : e ∈ assignedPairs drafts) :
    IsRead r e.1 :=
  isRead_of_read r template drafts hread e.1
    ((mem_captureParts drafts e.1).mp (List.of_mem_zip he).1)

theorem filter_isUnpinned (hread : Template.read r template = .ok drafts) (parameter : Text) :
    (assignedPairs drafts).filter (fun e => isUnpinned parameter e.1) =
      bareParts drafts parameter := by
  apply List.filter_congr
  intro e he
  have hbare := (isRead_of_mem_assignedPairs hread he).occurrence_eq_none_iff
  rw [isUnpinned, Bool.eq_iff_iff, Bool.and_eq_true, Option.isNone_iff_eq_none, hbare, beq_iff_eq,
    decide_eq_true_iff]

theorem count_bareParameters_eq (hread : Template.read r template = .ok drafts)
    (parameter : Text) :
    (drafts.filterMap bareParameter?).count parameter = (bareParts drafts parameter).length := by
  rw [count_bareParameters, ← length_filter_assignedPairs, filter_isUnpinned hread]

/-- Several bare parts of a parameter are numbered by the smallest numbers that
it does not pin. -/
theorem exists_areFirstFree (hread : Template.read r template = .ok drafts)
    (hfew : (captureParts drafts).length < Occurrence.lastIndex) {parameter : Text}
    (hseveral : 2 ≤ (bareParts drafts parameter).length) :
    ∃ ns, AreFirstFree (pinnedNumbers drafts parameter) ns ∧
      List.Forall₂ (fun e n => e.2.identifier = numbered e.1.identifier n ∧
        e.2.occurrence = .pinned n) (bareParts drafts parameter) ns := by
  have hcount : (drafts.filterMap bareParameter?).count parameter ≠ 1 := by
    rw [count_bareParameters_eq hread]
    omega
  have hnumbers := forall₂_freeNumbers hcount (drafts.filterMap pinnedIndex?) drafts
  rw [show pairsFrom _ _ drafts = assignedPairs drafts from rfl, filter_isUnpinned hread]
    at hnumbers
  have hbound : ∀ n ∈ freeNumbers (takenFor (drafts.filterMap pinnedIndex?) parameter)
      (bareParts drafts parameter).length, n < Occurrence.lastIndex := by
    intro n hn
    have hlt := lt_of_mem_freeNumbers hn
    have hle := taken_add_unpinned_le drafts parameter
    rw [← length_filter_assignedPairs, filter_isUnpinned hread] at hle
    omega
  refine ⟨_, (areFirstFree_freeNumbers _ _).congr hbound
    fun n hn => mem_takenFor_iff hread parameter hn, ?_⟩
  rw [List.forall₂_iff_zip] at hnumbers ⊢
  refine ⟨hnumbers.1, fun {e n} hmem => ?_⟩
  obtain ⟨hidentifier, hoccurrence⟩ := hnumbers.2 hmem
  have hn := hbound n (List.of_mem_zip hmem).2
  exact ⟨hidentifier, by rw [hoccurrence, Occurrence.ofIndex, if_neg hn.ne]⟩

/-- A part whose identifier has a suffix keeps it. -/
theorem identifier_eq_of_not_isBare (hread : Template.read r template = .ok drafts)
    {e : Capture (Option Occurrence) × Capture Occurrence} (he : e ∈ assignedPairs drafts)
    (hsuffix : ¬ e.1.IsBare) : e.2.identifier = e.1.identifier := by
  rw [eq_of_mem_pairsFrom he]
  intro hnone
  exact absurd ((isRead_of_mem_assignedPairs hread he).occurrence_eq_none_iff.mp hnone) hsuffix

/-- A part is kept as it was read, or it is a bare one that is given a number. -/
theorem kept_or_given (hread : Template.read r template = .ok drafts)
    {e : Capture (Option Occurrence) × Capture Occurrence} (he : e ∈ assignedPairs drafts) :
    e.2 = { e.1 with identifier := e.1.identifier, occurrence := e.1.occurrence.getD .last } ∨
      (e.1.IsBare ∧ ∃ n, e.2.identifier = numbered e.1.identifier n ∧
        e.2.occurrence = .ofIndex n) := by
  by_cases hkept : e.1.occurrence = none → (drafts.filterMap bareParameter?).count e.1.parameter = 1
  · exact .inl (eq_of_mem_pairsFrom he hkept)
  · obtain ⟨hnone, hcount⟩ := Classical.not_imp.mp hkept
    have hmem : e ∈ (pairsFrom _ _ drafts).filter fun e' => isUnpinned e.1.parameter e'.1 :=
      List.mem_filter.mpr ⟨he, by simp [isUnpinned, hnone]⟩
    obtain ⟨n, _, hgiven⟩ := exists_mem_of_forall₂ (forall₂_freeNumbers hcount _ drafts) hmem
    exact .inr ⟨(isRead_of_mem_assignedPairs hread he).occurrence_eq_none_iff.mp hnone, n, hgiven⟩

/-- A capture keeps its identifier, or it is a bare one that is given a positive
number that its parameter does not pin. -/
theorem kept_or_numbered (hread : Template.read r template = .ok drafts)
    (hfew : (captureParts drafts).length < Occurrence.lastIndex)
    {e : Capture (Option Occurrence) × Capture Occurrence} (he : e ∈ assignedPairs drafts) :
    e.2.identifier = e.1.identifier ∨
      (e.1.IsBare ∧ ∃ n, n ≠ 0 ∧ n ∉ pinnedNumbers drafts e.1.parameter ∧
        e.2.identifier = numbered e.1.identifier n) := by
  by_cases hkept : e.1.occurrence = none → (drafts.filterMap bareParameter?).count e.1.parameter = 1
  · left
    rw [eq_of_mem_pairsFrom he hkept]
  · obtain ⟨hnone, hcount⟩ := Classical.not_imp.mp hkept
    have hbare := (isRead_of_mem_assignedPairs hread he).occurrence_eq_none_iff.mp hnone
    have hmem : e ∈ bareParts drafts e.1.parameter :=
      List.mem_filter.mpr ⟨he, decide_eq_true ⟨hbare, rfl⟩⟩
    have hseveral : 2 ≤ (bareParts drafts e.1.parameter).length := by
      rw [count_bareParameters_eq hread] at hcount
      have hpos := List.length_pos_of_mem hmem
      omega
    obtain ⟨ns, hfree, hnumbers⟩ := exists_areFirstFree hread hfew hseveral
    obtain ⟨n, hn, hidentifier, _⟩ := exists_mem_of_forall₂ hnumbers hmem
    by_cases hzero : n = 0
    · left
      rw [hidentifier, numbered, if_pos hzero]
    · exact .inr ⟨hbare, n, hzero, hfree.free n hn, hidentifier⟩

end

end Template

/-- Each part of a pattern is paired with the one that was read. -/
theorem Pattern.exists_assignedPair {r : Registry} {template : Text} {p : Pattern}
    (hp : Pattern.compile r template = .ok p) {c : Capture Occurrence} (hc : c ∈ p.captures) :
    ∃ drafts draft, Template.read r template = .ok drafts ∧
      p.captures = captureParts (Template.assign drafts) ∧
      (draft, c) ∈ Template.assignedPairs drafts := by
  obtain ⟨drafts, hread, hparts, _⟩ := compile_ok hp
  have hcaptures : p.captures = captureParts (Template.assign drafts) := by rw [captures, hparts]
  rw [hcaptures, ← Template.map_snd_assignedPairs] at hc
  obtain ⟨⟨draft, _⟩, he, rfl⟩ := List.mem_map.mp hc
  exact ⟨drafts, draft, hread, hcaptures, he⟩

end KeyNaming
