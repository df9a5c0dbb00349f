import KeyNaming.Proofs.Template.Assignment
import KeyNaming.Proofs.Template.Spans
import KeyNaming.Proofs.Text.Lower
import KeyNaming.Proofs.Text.Numeral

/-!
Which identifiers come out of assigning occurrences.

An identifier is given a number by the suffix that would pin it, and that
number is free. So two identifiers that are the same in the end, regardless of
case, were written so, and one of the two has a suffix. Identifiers without
suffixes cannot collide, whatever digits and underscores their names have.
-/

namespace KeyNaming

namespace Template

/-! ## Identifiers regardless of case -/

theorem isAscii_of_word {t : Text} (hword : t.all CodePoint.isAsciiWord = true) :
    ∀ c ∈ t, c.isAscii = true :=
  fun c hc => c.isAscii_of_isAsciiWord (List.all_eq_true.mp hword c hc)

theorem lower_numbered {identifier : Text} (hword : identifier.all CodePoint.isAsciiWord = true)
    (n : Nat) : (numbered identifier n).lower = numbered identifier.lower n := by
  rw [numbered, numbered]
  split
  · rfl
  · have hsuffix : ∀ c ∈ ('_' : CodePoint) :: Text.ofNat n,
        c.isAscii = true ∧ c.toLower = c := by
      intro c hc
      rcases List.mem_cons.mp hc with rfl | hdigit
      · exact ⟨rfl, rfl⟩
      · have hdigit := Text.isAsciiDigit_of_mem_ofNat hdigit
        have hascii := CodePoint.isAscii_of_isAsciiDigit hdigit
        exact ⟨hascii, c.toLower_of_not_isAsciiLetter hascii
          (CodePoint.isAsciiLetter_of_isAsciiDigit hdigit)⟩
    rw [Text.lower_append_of_ascii (isAscii_of_word hword) fun c hc => (hsuffix c hc).1]
    rw [Text.lower_of_ascii _ fun c hc => (hsuffix c hc).1,
      List.map_congr_left fun c hc => (hsuffix c hc).2, List.map_id']

theorem splitIdentifier_numbered (identifier : Text) {n : Nat} (hn : n ≠ 0) :
    splitIdentifier (numbered identifier n) = (identifier, .number (Text.ofNat n)) := by
  rw [numbered, if_neg hn]
  exact splitIdentifier_number identifier _ (Text.ofNat_ne_nil n)
    fun c hc => Text.isAsciiDigit_of_mem_ofNat hc

theorem numbered_inj {identifier : Text} {m n : Nat}
    (h : numbered identifier m = numbered identifier n) : m = n := by
  rw [numbered, numbered] at h
  split at h
  · split at h
    · omega
    · exact absurd (congrArg List.length h) (by simp)
  · split at h
    · exact absurd (congrArg List.length h) (by simp)
    · exact Text.ofNat_injective (List.cons.inj (List.append_cancel_left h)).2

/-- Identifiers that differ in case alone have the same number, if one has a
number, for the same parameter. -/
theorem exists_split_of_lower_eq {t u name digits : Text}
    (ht : t.all CodePoint.isAsciiWord = true)
    (hstarts : u.head?.any CodePoint.isAsciiLetter = true)
    (hu : u.all CodePoint.isAsciiWord = true) (h : t.lower = u.lower)
    (hsplit : splitIdentifier u = (name, .number digits)) :
    ∃ name', splitIdentifier t = (name', .number digits) ∧ name'.lower = name.lower := by
  obtain ⟨hwritten, hvalid⟩ := written_splitIdentifier hstarts hu
  rw [hsplit] at hwritten hvalid
  obtain ⟨hsome, hdigits⟩ := hvalid
  have hascii := isAscii_of_word ht
  have hlower : t.map CodePoint.toLower =
      name.map CodePoint.toLower ++ (Suffix.number digits).written.map CodePoint.toLower := by
    rw [← Text.lower_of_ascii t hascii, h, Text.lower_of_ascii u (isAscii_of_word hu), hwritten,
      List.map_append]
  obtain ⟨name', suffix, rfl, hname, hsuffix⟩ := List.map_eq_append_iff.mp hlower
  -- a suffix has no letters, so it is the same on both sides
  have hmarks : ∀ c ∈ (Suffix.number digits).written,
      c.isAscii = true ∧ c.isAsciiLetter = false := by
    intro c hc
    rcases List.mem_cons.mp hc with rfl | hdigit
    · exact ⟨rfl, rfl⟩
    · exact ⟨CodePoint.isAscii_of_isAsciiDigit (hdigits c hdigit),
        CodePoint.isAsciiLetter_of_isAsciiDigit (hdigits c hdigit)⟩
  have hsame : suffix = (Suffix.number digits).written := by
    apply Text.eq_of_lower_eq_of_unlettered (fun c hc => hascii c (List.mem_append_right _ hc))
      hmarks
    rw [Text.lower_of_ascii _ fun c hc => hascii c (List.mem_append_right _ hc),
      Text.lower_of_ascii _ fun c hc => (hmarks c hc).1, hsuffix]
  refine ⟨name', by rw [hsame, splitIdentifier_number name' digits hsome hdigits], ?_⟩
  rw [Text.lower_of_ascii _ fun c hc => hascii c (List.mem_append_left _ hc), hname,
    Text.lower_of_ascii]
  intro c hc
  exact isAscii_of_word hu c (hwritten ▸ List.mem_append_left _ hc)

section

variable {r : Registry} {template : Text} {drafts : List Draft}
  {e e' : Capture (Option Occurrence) × Capture Occurrence}

theorem named_of_mem_assignedPairs (hread : Template.read r template = .ok drafts)
    (he : e ∈ assignedPairs drafts) : e.2.IsNamed := by
  refine Pattern.isNamed_of_read hread e.2 ((mem_captureParts _ _).mp ?_)
  rw [← map_snd_assignedPairs]
  exact List.mem_map_of_mem he

/-- An identifier that is kept is none that is given a number. -/
theorem kept_ne_numbered (hread : Template.read r template = .ok drafts)
    (he : e ∈ assignedPairs drafts) (he' : e' ∈ assignedPairs drafts)
    (hkept : e.2.identifier = e.1.identifier) (hbare : e'.1.IsBare) {n : Nat} (hn : n ≠ 0)
    (hfree : n ∉ pinnedNumbers drafts e'.1.parameter)
    (hnumbered : e'.2.identifier = numbered e'.1.identifier n) :
    e.2.identifier.lower ≠ e'.2.identifier.lower := by
  intro h
  have hisRead := isRead_of_mem_assignedPairs hread he'
  have hnamed := named_of_mem_assignedPairs hread he'
  obtain ⟨name, hsplit, hname⟩ := exists_split_of_lower_eq
    (named_of_mem_assignedPairs hread he).word hnamed.starts hnamed.word h
    (hnumbered ▸ splitIdentifier_numbered e'.1.identifier hn)
  -- so this part pins the number
  refine hfree (mem_pinnedNumbers.mpr ⟨e.1, (List.of_mem_zip he).1, name, _, hkept ▸ hsplit, ?_,
    Text.valueOf_ofNat n⟩)
  rw [hname, hisRead.parameter_of_isBare hbare]

/-- Bare parts of one parameter are given different identifiers. -/
theorem bare_ne_bare (hread : Template.read r template = .ok drafts)
    (hfew : (captureParts drafts).length < Occurrence.lastIndex)
    (hpair : [e, e'].Sublist (assignedPairs drafts)) (hbare : e.1.IsBare) (hbare' : e'.1.IsBare)
    (hparameter : e.1.parameter = e'.1.parameter) :
    e.2.identifier.lower ≠ e'.2.identifier.lower := by
  have hsub : [e, e'].Sublist (bareParts drafts e.1.parameter) := by
    have hfilter := hpair.filter fun e' => decide (e'.1.IsBare ∧ e'.1.parameter = e.1.parameter)
    rwa [List.filter_cons_of_pos (by simp [hbare]),
      List.filter_cons_of_pos (by simp [hbare', hparameter]), List.filter_nil] at hfilter
  obtain ⟨ns, hfree, hnumbers⟩ := exists_areFirstFree hread hfew hsub.length_le
  obtain ⟨m, n, ⟨hm, _⟩, ⟨hn, _⟩, hlt⟩ := List.pairwise_iff_forall_sublist.mp
    (pairwise_of_forall₂ hnumbers hfree.increasing) hsub
  have he := isRead_of_mem_assignedPairs hread (hpair.subset List.mem_cons_self)
  have he' := isRead_of_mem_assignedPairs hread (hpair.subset (by simp : e' ∈ [e, e']))
  rw [hm, hn, lower_numbered he.word, lower_numbered he'.word, ← he.parameter_of_isBare hbare,
    ← he'.parameter_of_isBare hbare', hparameter]
  exact fun h => hlt.ne (numbered_inj h)

/-- Identifiers that are the same in the end were written so, regardless of
case, and one of the two has a suffix. -/
theorem written_eq_of_lower_eq (hread : Template.read r template = .ok drafts)
    (hfew : (captureParts drafts).length < Occurrence.lastIndex)
    (hpair : [e, e'].Sublist (assignedPairs drafts))
    (h : e.2.identifier.lower = e'.2.identifier.lower) :
    e.1.identifier.lower = e'.1.identifier.lower ∧ ¬ (e.1.IsBare ∧ e'.1.IsBare) := by
  have he : e ∈ assignedPairs drafts := hpair.subset List.mem_cons_self
  have he' : e' ∈ assignedPairs drafts := hpair.subset (by simp)
  have hisRead := isRead_of_mem_assignedPairs hread he
  have hisRead' := isRead_of_mem_assignedPairs hread he'
  have hapart (hbare : e.1.IsBare) (hbare' : e'.1.IsBare)
      (hidentifier : e.1.identifier.lower = e'.1.identifier.lower) : False := by
    refine bare_ne_bare hread hfew hpair hbare hbare' ?_ h
    rw [hisRead.parameter_of_isBare hbare, hisRead'.parameter_of_isBare hbare', hidentifier]
  rcases kept_or_numbered hread hfew he with hkept | ⟨hbare, m, hm, hmfree, hnumbered⟩
  · rcases kept_or_numbered hread hfew he' with hkept' | ⟨hbare', n, hn, hnfree, hnumbered'⟩
    · rw [hkept, hkept'] at h
      exact ⟨h, fun ⟨hbare, hbare'⟩ => hapart hbare hbare' h⟩
    · exact absurd h (kept_ne_numbered hread he he' hkept hbare' hn hnfree hnumbered')
  · rcases kept_or_numbered hread hfew he' with hkept' | ⟨hbare', n, hn, hnfree, hnumbered'⟩
    · exact absurd h.symm (kept_ne_numbered hread he' he hkept' hbare hm hmfree hnumbered)
    · have hnamed := named_of_mem_assignedPairs hread he
      have hnamed' := named_of_mem_assignedPairs hread he'
      obtain ⟨name, hsplit, hname⟩ := exists_split_of_lower_eq hnamed.word hnamed'.starts
        hnamed'.word h (hnumbered' ▸ splitIdentifier_numbered e'.1.identifier hn)
      rw [hnumbered, splitIdentifier_numbered _ hm] at hsplit
      obtain rfl := (Prod.mk.inj hsplit).1
      exact (hapart hbare hbare' hname).elim

end

/-! ## The check -/

/-- The check passes just if no identifier stands twice among the parts, or
among them and those before, regardless of case. -/
theorem checkIdentifiers_eq_ok_iff {seen : List Text} {offset : Nat} {parts : List Part} :
    checkIdentifiers seen offset parts = .ok () ↔
      ((captureParts parts).map fun c => c.identifier.lower).Nodup ∧
        ∀ c ∈ captureParts parts, c.identifier.lower ∉ seen := by
  induction parts generalizing seen offset with
  | nil => simp [checkIdentifiers]
  | cons part rest ih =>
      cases part with
      | literal written text => exact ih
      | capture c =>
          rw [checkIdentifiers, captureParts_capture, List.map_cons, List.nodup_cons,
            List.forall_mem_cons]
          split
          · next hseen =>
            simp only [List.contains_iff_mem] at hseen
            simp [hseen]
          · next hnew =>
            simp only [List.contains_iff_mem] at hnew
            rw [ih]
            simp only [List.mem_map, not_exists, not_and, List.mem_cons, not_or]
            constructor
            · rintro ⟨hnodup, hothers⟩
              exact ⟨⟨fun d hd => (hothers d hd).1, hnodup⟩, hnew, fun d hd => (hothers d hd).2⟩
            · rintro ⟨⟨hapart, hnodup⟩, _, hothers⟩
              exact ⟨hnodup, fun d hd => ⟨hapart d hd, hothers d hd⟩⟩

/-- A part that the check refuses has the identifier of an earlier one, and is
told by where it starts. -/
theorem exists_repeated_of_error {seen : List Text} {offset : Nat} {parts : List Part} {f : Fault}
    (h : checkIdentifiers seen offset parts = .error f) :
    ∃ j d, parts[j]? = some (.capture d) ∧
      f = .duplicateIdentifier (.ofLength (offset + startOf parts j) d.written.length)
        d.identifier ∧
      (d.identifier.lower ∈ seen ∨ ∃ i c, i < j ∧ parts[i]? = some (.capture c) ∧
        c.identifier.lower = d.identifier.lower) := by
  induction parts generalizing seen offset with
  | nil => cases h
  | cons part rest ih =>
      cases part with
      | literal written text =>
          obtain ⟨j, d, hd, rfl, hseen⟩ := ih h
          refine ⟨j + 1, d, hd, ?_, ?_⟩
          · rw [startOf_cons_succ, ← Nat.add_assoc]
            rfl
          · apply hseen.imp_right
            rintro ⟨i, c, hlt, hc, hsame⟩
            exact ⟨i + 1, c, Nat.succ_lt_succ hlt, hc, hsame⟩
      | capture e =>
          rw [checkIdentifiers] at h
          split at h
          · next hseen =>
            refine ⟨0, e, rfl, (Except.error.inj h).symm, .inl ?_⟩
            simpa using hseen
          · obtain ⟨j, d, hd, rfl, hseen⟩ := ih h
            refine ⟨j + 1, d, hd, ?_, ?_⟩
            · rw [startOf_cons_succ, ← Nat.add_assoc]
              rfl
            · rcases hseen with hseen | ⟨i, c, hlt, hc, hsame⟩
              · rcases List.mem_cons.mp hseen with hsame | hseen
                · exact .inr ⟨0, e, Nat.succ_pos j, rfl, hsame.symm⟩
                · exact .inl hseen
              · exact .inr ⟨i + 1, c, Nat.succ_lt_succ hlt, hc, hsame⟩

/-- Two identifiers that are the same, in order, are a failure of the check. -/
theorem checkIdentifiers_eq_ok_iff_sublist {drafts : List Draft} :
    checkIdentifiers [] 0 (assign drafts) = .ok () ↔
      ∀ e e', [e, e'].Sublist (assignedPairs drafts) →
        e.2.identifier.lower ≠ e'.2.identifier.lower := by
  rw [checkIdentifiers_eq_ok_iff, ← map_snd_assignedPairs, List.map_map, List.nodup_iff_pairwise_ne,
    List.pairwise_map, List.pairwise_iff_forall_sublist]
  simp

end Template

namespace Pattern

open Template

section

variable {r : Registry} {template : Text} {drafts : List Draft}

theorem compile_duplicate_iff (hread : Template.read r template = .ok drafts) :
    (∃ span identifier, Pattern.compile r template =
        .error (.fault (.duplicateIdentifier span identifier))) ↔
      checkIdentifiers [] 0 (assign drafts) ≠ .ok () := by
  cases hcheck : checkIdentifiers [] 0 (assign drafts) with
  | error f =>
      obtain ⟨j, d, -, rfl, -⟩ := exists_repeated_of_error hcheck
      refine iff_of_true ⟨.ofLength (0 + startOf (assign drafts) j) d.written.length,
        d.identifier, ?_⟩ nofun
      simp only [Pattern.compile, hread, hcheck, bind, Except.bind, orFault]
  | ok done =>
      refine iff_of_false ?_ fun hne => hne rfl
      rintro ⟨span, identifier, hcompile⟩
      simp only [Pattern.compile, hread, hcheck, bind, Except.bind, orFault] at hcompile
      split at hcompile <;> cases hcompile

/-- The bare parts of a parameter take the first numbers that no pinned part has, in the
order of the template. Compiling ends with a duplicate identifier only if two parts
have the same one, regardless of case, and are not both bare, and always if neither is
bare. The identifiers of a compiled pattern are different. -/
theorem firstFree_and_collisionFree (hread : Template.read r template = .ok drafts)
    (hfew : (captureParts drafts).length < Occurrence.lastIndex) :
    (∀ parameter, 2 ≤ (bareParts drafts parameter).length →
      ∃ ns, AreFirstFree (pinnedNumbers drafts parameter) ns ∧
        List.Forall₂ (fun e n => e.2.identifier = Template.numbered e.1.identifier n ∧
          e.2.occurrence = .pinned n) (bareParts drafts parameter) ns) ∧
    (∀ span identifier, Pattern.compile r template =
        .error (.fault (.duplicateIdentifier span identifier)) →
      ∃ c d, [c, d].Sublist (captureParts drafts) ∧
        c.identifier.lower = d.identifier.lower ∧ (¬ c.IsBare ∨ ¬ d.IsBare)) ∧
    (∀ c d, [c, d].Sublist (captureParts drafts) → c.identifier.lower = d.identifier.lower →
      ¬ c.IsBare → ¬ d.IsBare → ∃ span identifier, Pattern.compile r template =
        .error (.fault (.duplicateIdentifier span identifier))) ∧
    (∀ p, Pattern.compile r template = .ok p →
      p.parts = assign drafts ∧ (p.captures.map fun c => c.identifier.lower).Nodup) := by
  refine ⟨fun parameter hseveral => exists_areFirstFree hread hfew hseveral, ?_, ?_, ?_⟩
  · intro span identifier hcompile
    have hcheck := (compile_duplicate_iff hread).mp ⟨span, identifier, hcompile⟩
    rw [Ne, checkIdentifiers_eq_ok_iff_sublist] at hcheck
    push Not at hcheck
    obtain ⟨e, e', hpair, h⟩ := hcheck
    obtain ⟨hwritten, hbare⟩ := written_eq_of_lower_eq hread hfew hpair h
    refine ⟨e.1, e'.1, ?_, hwritten, not_and_or.mp hbare⟩
    rw [← map_fst_assignedPairs]
    exact hpair.map Prod.fst
  · intro c d hpair hlower hc hd
    rw [← map_fst_assignedPairs] at hpair
    obtain ⟨pairs, hsub, hpairs⟩ := List.sublist_map_iff.mp hpair
    obtain ⟨e, e', rfl⟩ := List.length_eq_two.mp (by simpa using (congrArg List.length hpairs).symm)
    obtain ⟨rfl, rfl⟩ : c = e.1 ∧ d = e'.1 := by simpa using hpairs
    rw [compile_duplicate_iff hread, Ne, checkIdentifiers_eq_ok_iff_sublist]
    intro hapart
    refine hapart e e' hsub ?_
    rw [identifier_eq_of_not_isBare hread (hsub.subset List.mem_cons_self) hc,
      identifier_eq_of_not_isBare hread (hsub.subset (by simp)) hd, hlower]
  · intro p hp
    obtain ⟨drafts', hread', hparts, _, hcheck, _⟩ := compile_ok hp
    obtain rfl := Except.ok.inj (hread.symm.trans hread')
    exact ⟨hparts, (checkIdentifiers_eq_ok_iff.mp hcheck).1⟩

def locationTemplate : Text := "\x7bLocation_1/\x7d\x7blocation/\x7d\x7bLocation/\x7d"

/-- Two bare parts, spelled in different case, take the numbers beside the one
that is pinned, and the identifiers are apart. -/
theorem firstFree_and_collisionFree_location :
    ∃ drafts ns, Template.read defaultRegistry locationTemplate = .ok drafts ∧
      (captureParts drafts).length < Occurrence.lastIndex ∧ AreFirstFree [1] ns ∧
      List.Forall₂ (fun e n => e.2.identifier = Template.numbered e.1.identifier n ∧
        e.2.occurrence = .pinned n) (bareParts drafts "location") ns ∧
      ∀ p, Pattern.compile defaultRegistry locationTemplate = .ok p →
        (p.captures.map fun c => c.identifier.lower).Nodup := by
  obtain ⟨drafts, hread, hproperty⟩ := exists_ok_of_any
    (Template.read defaultRegistry locationTemplate)
    (fun drafts => decide ((captureParts drafts).length < Occurrence.lastIndex ∧
      2 ≤ (bareParts drafts "location").length ∧ pinnedNumbers drafts "location" = [1]))
    (by decide +kernel)
  obtain ⟨hfew, hseveral, hpinned⟩ := of_decide_eq_true hproperty
  have hall := firstFree_and_collisionFree hread hfew
  obtain ⟨ns, hfree, hnumbers⟩ := hall.1 "location" hseveral
  exact ⟨drafts, ns, hread, hfew, hpinned ▸ hfree, hnumbers, fun p hp => (hall.2.2.2 p hp).2⟩

end

end Pattern

end KeyNaming
