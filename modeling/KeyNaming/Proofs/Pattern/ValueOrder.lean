import KeyNaming.Proofs.Pattern.Mention

/-!
The order of values by identifier.

Each entry that counts stands for one parameter: its name without the suffix,
and a weight that the suffix adds its number to. The parameters are sorted by
weight, and those of one weight keep the order of their entries. An entry is
not taken if its identifier has a line feed, and none is returned if one has
more digits than a number may have.
-/

namespace KeyNaming

open Template (Suffix)

/-- The number that a suffix adds to a weight. -/
def Template.Suffix.addend : Suffix → Nat
  | .none | .last => 0
  | .number digits => Text.valueOf 10 digits

namespace Parameters

/-- Whether an entry has an identifier and a value. -/
def isCounted (entry : Text × Option Text) : Bool :=
  !entry.1.isEmpty && entry.2.any fun value => !value.isEmpty

/-- Whether an entry counts and has no line feed in its identifier. -/
def isTaken (entry : Text × Option Text) : Bool :=
  isCounted entry && !entry.1.contains '\n'

/-- Whether an identifier ends in a number of so many digits, which are more than
a number may have. -/
def IsTooLong (entry : Text × Option Text) (count : Nat) : Prop :=
  ∃ stem digits, IsSuffixed entry.1 stem (.number digits) ∧ count = digits.length ∧
    Text.decimalDigitLimit < count

/-- Whether the first of some entries to end in too many digits has so many. -/
def StopAt (entries : List (Text × Option Text)) (count : Nat) : Prop :=
  ∃ before entry after, entries = before ++ entry :: after ∧
    (∀ e ∈ before, ∀ n, ¬ IsTooLong e n) ∧ IsTooLong entry count

/-- The parameter that an entry stands for, with its weight. -/
def StandsFor (r : Registry) (entry : Text × Option Text) (w : Weighed) : Prop :=
  ∃ (stem : Text) (s : Suffix), IsSuffixed entry.1 stem s ∧ entry.2 = some w.value ∧
    w.name = Match.reportedName stem.lower ∧ w.weight = r.sortOrder w.name + s.addend

/-- A list sorted by weight, in which what has one weight keeps its order. -/
structure IsSorting (weighed sorted : List Weighed) : Prop where
  perm : sorted.Perm weighed
  ordered : sorted.Pairwise fun a b => a.weight ≤ b.weight
  stable : ∀ weight : Int,
    sorted.filter (fun w => w.weight = weight) = weighed.filter fun w => w.weight = weight

/-- Whether pairs are the names and values of entries, one pair for each, in the
order of a key. -/
def AreOrdered (r : Registry) (entries : List (Text × Option Text))
    (pairs : List (Text × Text)) : Prop :=
  ∃ weighed sorted, List.Forall₂ (StandsFor r) entries weighed ∧ IsSorting weighed sorted ∧
    pairs = sorted.map fun w => (w.name, w.value)

/-! ## Sorting -/

theorem isSorting_mergeSort (weighed : List Weighed) :
    IsSorting weighed (weighed.mergeSort fun a b => a.weight ≤ b.weight) := by
  have htrans (a b c : Weighed) (hab : decide (a.weight ≤ b.weight) = true)
      (hbc : decide (b.weight ≤ c.weight) = true) : decide (a.weight ≤ c.weight) = true := by
    simp only [decide_eq_true_eq] at *
    omega
  have htotal (a b : Weighed) :
      (decide (a.weight ≤ b.weight) || decide (b.weight ≤ a.weight)) = true := by
    simp only [Bool.or_eq_true, decide_eq_true_eq]
    omega
  have hperm := List.mergeSort_perm weighed fun a b => a.weight ≤ b.weight
  refine ⟨hperm, ?_, fun weight => ?_⟩
  · exact (List.pairwise_mergeSort htrans htotal weighed).imp fun h => of_decide_eq_true h
  · -- what has one weight is sorted already, so it is left as it stands
    have hkept : (weighed.filter fun w => w.weight = weight).Sublist
        (weighed.mergeSort fun a b => a.weight ≤ b.weight) := by
      apply List.sublist_mergeSort htrans htotal _ List.filter_sublist
      apply List.Pairwise.imp_of_mem _ (List.pairwise_of_forall fun _ _ => trivial)
      intro a b ha hb _
      have ha := (List.mem_filter.mp ha).2
      have hb := (List.mem_filter.mp hb).2
      simp only [decide_eq_true_eq] at *
      omega
    have hfilter := hkept.filter fun w => decide (w.weight = weight)
    rw [List.filter_filter] at hfilter
    simp only [Bool.and_self] at hfilter
    exact (hfilter.eq_of_length (hperm.filter _).length_eq.symm).symm

/-! ## Weighing -/

variable (r : Registry)

/-- What is taken has a value, and an identifier with a name. -/
theorem exists_of_isTaken {entry : Text × Option Text} (h : isTaken entry = true) :
    ∃ value stem s, entry.2 = some value ∧ value ≠ [] ∧ ('\n' : CodePoint) ∉ entry.1 ∧
      IsSuffixed entry.1 stem s ∧ splitName? entry.1 = some (stem, s.mention) := by
  obtain ⟨identifier, value⟩ := entry
  cases value with
  | none => simp [isTaken, isCounted] at h
  | some value =>
      obtain ⟨⟨hidentifier, hvalue⟩, hline⟩ :
          (identifier ≠ [] ∧ value ≠ []) ∧ ('\n' : CodePoint) ∉ identifier := by
        simpa [isTaken, isCounted] using h
      cases hsplit : splitName? identifier with
      | none =>
          rcases splitName?_eq_none_iff.mp hsplit with hempty | hmem
          · exact absurd hempty hidentifier
          · exact absurd hmem hline
      | some split =>
          obtain ⟨stem, m⟩ := split
          obtain ⟨_, s, hsuffixed, rfl⟩ := isSplit_iff.mp (splitName?_eq_some_iff.mp hsplit)
          exact ⟨value, stem, s, rfl, hvalue, hline, hsuffixed, rfl⟩

/-- An entry that is not taken is left out. -/
theorem weigh_eq_none {entry : Text × Option Text} (h : isTaken entry = false) :
    weigh r entry.1 entry.2 = .ok none := by
  obtain ⟨identifier, value⟩ := entry
  cases value with
  | none => rfl
  | some value =>
      cases value with
      | nil => rfl
      | cons c rest =>
          have hnone : splitName? identifier = none := by
            rw [splitName?_eq_none_iff]
            simpa [isTaken, isCounted, or_iff_not_imp_left] using h
          simp [weigh, hnone]

/-- A value is weighed by what its identifier mentions. -/
theorem weigh_eq_map {identifier value stem : Text} {m : Mention}
    (hsplit : splitName? identifier = some (stem, m)) (hsome : value ≠ []) :
    weigh r identifier (some value) = m.weight.map fun extra =>
      some ⟨r.sortOrder (Match.reportedName stem.lower) + extra,
        Match.reportedName stem.lower, value⟩ := by
  obtain ⟨c, rest, rfl⟩ := List.exists_cons_of_ne_nil hsome
  simp only [weigh, hsplit]
  cases m.weight <;> rfl

/-- An entry that is taken is weighed, unless it has too many digits. -/
theorem weigh_of_isTaken {entry : Text × Option Text} (h : isTaken entry = true) :
    (∃ count, IsTooLong entry count ∧ weigh r entry.1 entry.2 = .error count) ∨
      (∀ count, ¬ IsTooLong entry count) ∧
        ∃ w, weigh r entry.1 entry.2 = .ok (some w) ∧ StandsFor r entry w := by
  obtain ⟨value, stem, s, hvalue, hsome, hline, hsuffixed, hsplit⟩ := exists_of_isTaken h
  have hweigh := weigh_eq_map r hsplit hsome
  rw [← hvalue] at hweigh
  by_cases hlong : ∃ count, IsTooLong entry count
  · obtain ⟨count, stem', digits, hdigits, rfl, hlimit⟩ := hlong
    obtain ⟨_, hmention⟩ := hsuffixed.unique hline hdigits
    refine .inl ⟨digits.length, ⟨stem', digits, hdigits, rfl, hlimit⟩, ?_⟩
    rw [hweigh, hmention, Suffix.mention, Mention.weight, if_pos hlimit]
    rfl
  · rw [not_exists] at hlong
    have hweight : s.mention.weight = .ok s.addend := by
      cases s with
      | none => rfl
      | last => rfl
      | number digits =>
          have hlimit : ¬ Text.decimalDigitLimit < digits.length :=
            fun hlimit => hlong _ ⟨stem, digits, hsuffixed, rfl, hlimit⟩
          rw [Suffix.mention, Mention.weight, if_neg hlimit]
          rfl
    rw [hweight] at hweigh
    exact .inr ⟨hlong, _, hweigh, stem, s, hsuffixed, hvalue, rfl, rfl⟩

theorem StopAt.cons {entry : Text × Option Text} {entries : List (Text × Option Text)}
    {count : Nat} (h : StopAt entries count) (hentry : ∀ n, ¬ IsTooLong entry n) :
    StopAt (entry :: entries) count := by
  obtain ⟨before, first, after, rfl, hbefore, hfirst⟩ := h
  exact ⟨entry :: before, first, after, rfl, List.forall_mem_cons.mpr ⟨hentry, hbefore⟩, hfirst⟩

/-- Entries are weighed up to the first one with too many digits. -/
theorem mapM_weigh (values : List (Text × Option Text)) :
    (∃ count, StopAt (values.filter isTaken) count ∧
        values.mapM (fun entry => weigh r entry.1 entry.2) = .error count) ∨
      (∀ e ∈ values.filter isTaken, ∀ n, ¬ IsTooLong e n) ∧
        ∃ found, values.mapM (fun entry => weigh r entry.1 entry.2) = .ok found ∧
          List.Forall₂ (StandsFor r) (values.filter isTaken) (found.filterMap id) := by
  induction values with
  | nil => exact .inr ⟨by simp, [], rfl, .nil⟩
  | cons entry rest ih =>
      rw [List.mapM_cons]
      cases htaken : isTaken entry with
      | false =>
          rw [List.filter_cons_of_neg (by simp [htaken]), weigh_eq_none r htaken]
          rcases ih with ⟨count, hstop, herror⟩ | ⟨hshort, found, hfound, hall⟩
          · refine .inl ⟨count, hstop, ?_⟩
            simp [herror, bind, Except.bind]
          · refine .inr ⟨hshort, none :: found, ?_, hall⟩
            simp [hfound, bind, Except.bind, pure, Except.pure]
      | true =>
          rw [List.filter_cons_of_pos htaken]
          rcases weigh_of_isTaken r htaken with ⟨count, hlong, herror⟩ | ⟨hnot, w, hw, hstands⟩
          · refine .inl ⟨count, ⟨[], entry, _, rfl, by simp, hlong⟩, ?_⟩
            simp [herror, bind, Except.bind]
          · rw [hw]
            rcases ih with ⟨count, hstop, herror⟩ | ⟨hshort, found, hfound, hall⟩
            · refine .inl ⟨count, hstop.cons hnot, ?_⟩
              simp [herror, bind, Except.bind]
            · refine .inr ⟨List.forall_mem_cons.mpr ⟨hnot, hshort⟩, some w :: found, ?_, ?_⟩
              · simp [hfound, bind, Except.bind, pure, Except.pure]
              · exact .cons hstands hall

/-- Ordering values by identifier makes one pair of each entry that has a value and an
identifier without a line feed: its parameter without suffix and its value. The pairs
are sorted by the weight of the parameter and the number of the suffix, and those of
one weight keep the order of the entries. Only a number with too many digits stops it,
the first one there is. -/
theorem ofValues_areOrdered (values : Entries Text (Option Text)) :
    (∃ count, StopAt (values.filter isTaken) count ∧ ofValues r values = .error count) ∨
      (∀ e ∈ values.filter isTaken, ∀ n, ¬ IsTooLong e n) ∧
        ∃ pairs, ofValues r values = .ok pairs ∧
          AreOrdered r (values.filter isTaken) pairs := by
  rcases mapM_weigh r values with ⟨count, hstop, herror⟩ | ⟨hshort, found, hfound, hall⟩
  · refine .inl ⟨count, hstop, ?_⟩
    rw [ofValues, herror]
    rfl
  · refine .inr ⟨hshort, _, ?_, _, _, hall, isSorting_mergeSort _, rfl⟩
    rw [ofValues, hfound]
    rfl

/-- An entry whose identifier has a line feed. -/
def lineFeedValues : Entries Text (Option Text) := [("a\nb", some "x")]

/-- An entry that counts is lost to the line feed in its identifier. -/
theorem not_areOrdered_lineFeedValues :
    ¬ ∃ pairs, ofValues defaultRegistry lineFeedValues = .ok pairs ∧
      AreOrdered defaultRegistry (lineFeedValues.filter isCounted) pairs := by
  rintro ⟨pairs, hpairs, weighed, sorted, hall, hsorting, rfl⟩
  have htaken : isTaken ("a\nb", some "x") = false := by decide
  have hleft : weigh defaultRegistry "a\nb" (some "x") = .ok none :=
    weigh_eq_none defaultRegistry htaken
  have hnone : ofValues defaultRegistry lineFeedValues = .ok [] := by
    simp [ofValues, lineFeedValues, hleft, bind, Except.bind, pure, Except.pure]
  have hsorted := Except.ok.inj (hnone.symm.trans hpairs)
  have hlength : weighed.length = 1 := hall.length_eq.symm
  rw [← hsorting.perm.length_eq, List.map_eq_nil_iff.mp hsorted.symm] at hlength
  cases hlength

end Parameters

end KeyNaming
