import Mathlib.Data.List.Perm.Subperm
import Mathlib.Data.List.Nodup
import KeyNaming.Key.Comparer
import KeyNaming.Proofs.Entries

/-!
The values that decide whether two keys are equivalent.

The values of a name are listed from the tail. For a non-canonical name the
comparer keeps the first of them, unless it is empty; for a canonical name all
of them can be read off the canonical segments. So equivalent keys agree on
the first value of a non-canonical name and on all values of a canonical one.
-/

namespace KeyNaming

/-- The value that a segment gives to a lower-cased name. -/
def Segment.valueFor? (name : Text) (s : Segment) : Option Text :=
  if s.name.lower == name then s.value else none

/-- The values that segments give to a lower-cased name, from the tail. -/
def valuesOf (segments : List Segment) (name : Text) : List Text :=
  segments.filterMap (Segment.valueFor? name)

def Segment.lowered (s : Segment) : Segment := { s with name := s.name.lower }

namespace Comparer

variable (c : Comparer)

/-- Adding a pair unless its name is taken keeps what was found first. -/
theorem lookup_foldl_addFirst (name : Text) (pairs : Entries Text Text)
    (found : Entries Text Text) :
    (pairs.foldl addFirst found).lookup name = (found ++ pairs).lookup name := by
  induction pairs generalizing found with
  | nil => simp
  | cons pair rest ih =>
      obtain ⟨key, value⟩ := pair
      rw [List.foldl_cons, ih, addFirst]
      split
      · next htaken =>
        obtain ⟨entry, hentry, hkey⟩ := List.any_eq_true.mp htaken
        have hfound : (found.lookup key).isSome := by
          rw [List.lookup_isSome_iff]
          exact ⟨entry, hentry, by simpa using (eq_of_beq hkey).symm⟩
        simp only [List.lookup_append, List.lookup_cons]
        by_cases hname : name == key
        · obtain rfl := eq_of_beq hname
          obtain ⟨v, hv⟩ := Option.isSome_iff_exists.mp hfound
          simp [hv]
        · simp [hname]
      · simp [List.lookup_append]

theorem nodup_keys_foldl_addFirst (pairs found : Entries Text Text)
    (hfound : (found.map Prod.fst).Nodup) :
    ((pairs.foldl addFirst found).map Prod.fst).Nodup := by
  induction pairs generalizing found with
  | nil => simpa using hfound
  | cons pair rest ih =>
      rw [List.foldl_cons]
      apply ih
      rw [addFirst]
      split
      · exact hfound
      · next hfree =>
        rw [List.map_append, List.nodup_append]
        refine ⟨hfound, by simp, ?_⟩
        intro key hkey other hother
        obtain ⟨entry, hentry, rfl⟩ := List.mem_map.mp hkey
        simp only [List.map_cons, List.map_nil, List.mem_singleton] at hother
        subst hother
        intro hsame
        exact hfree (List.any_eq_true.mpr ⟨entry, hentry, by simp [hsame]⟩)

theorem nodup_keys_nonCanonical (segments : List Segment) :
    ((c.nonCanonical segments).map Prod.fst).Nodup :=
  (nodup_keys_foldl_addFirst _ [] (by simp)).sublist
    (List.Sublist.map Prod.fst List.filter_sublist)

private theorem lookup_filter_value (keep : Text → Bool) (name : Text)
    (entries : Entries Text Text) (hentries : (entries.map Prod.fst).Nodup) :
    (entries.filter fun pair => keep pair.2).lookup name =
      (entries.lookup name).filter keep := by
  induction entries with
  | nil => simp
  | cons entry rest ih =>
      obtain ⟨key, value⟩ := entry
      simp only [List.map_cons, List.nodup_cons] at hentries
      have hrest := ih hentries.2
      rw [List.lookup_cons]
      by_cases hname : name == key
      · obtain rfl := eq_of_beq hname
        have habsent : rest.lookup name = none := by
          rw [List.lookup_eq_none_iff]
          intro pair hpair
          have hne : name ≠ pair.1 := fun h =>
            hentries.1 (h ▸ List.mem_map_of_mem hpair)
          simpa using hne
        rw [habsent] at hrest
        cases hkeep : keep value <;> simp [hkeep, hrest, Option.filter]
      · cases hkeep : keep value <;> simp [hkeep, hrest, hname, List.lookup_cons]

/-- The comparer gives a name its first value, unless that is empty. -/
theorem lookup_nonCanonical (segments : List Segment) (name : Text) :
    (c.nonCanonical segments).lookup name =
      ((segments.filterMap c.nonCanonicalPair?).lookup name).filter fun v => !v.isEmpty := by
  rw [nonCanonical, lookup_filter_value (fun v => !v.isEmpty) _ _
    (nodup_keys_foldl_addFirst _ [] (by simp)), lookup_foldl_addFirst, List.nil_append]

private theorem keys_subset_of_lookup (a b : Entries Text Text)
    (h : ∀ entry ∈ a, (b.lookup entry.1).isSome) : a.map Prod.fst ⊆ b.map Prod.fst := by
  intro key hkey
  obtain ⟨entry, hentry, rfl⟩ := List.mem_map.mp hkey
  obtain ⟨pair, hpair, hsame⟩ := List.lookup_isSome_iff.mp (h entry hentry)
  exact List.mem_map.mpr ⟨pair, hpair, (eq_of_beq hsame).symm⟩

/-- Two lists of entries with distinct keys are the same map if they agree on
every key. -/
theorem sameEntries_iff (a b : Entries Text Text)
    (ha : (a.map Prod.fst).Nodup) (hb : (b.map Prod.fst).Nodup) :
    sameEntries a b = true ↔ ∀ key, a.lookup key = b.lookup key := by
  simp only [sameEntries, Bool.and_eq_true, beq_iff_eq, List.all_eq_true]
  constructor
  · rintro ⟨hlength, hall⟩ key
    have hkeys := keys_subset_of_lookup a b fun entry hentry => by rw [hall entry hentry]; rfl
    -- as many keys on both sides, so a key that is only on the right has no room
    have hperm : (a.map Prod.fst).Perm (b.map Prod.fst) :=
      (ha.subperm hkeys).perm_of_length_le (by simp [hlength])
    cases hkey : a.lookup key with
    | some value =>
        obtain ⟨before, after, rfl, _⟩ := List.lookup_eq_some_iff.mp hkey
        exact (hall (key, value) (by simp)).symm
    | none =>
        symm
        rw [List.lookup_eq_none_iff]
        intro pair hpair
        have hin : pair.1 ∈ a.map Prod.fst := hperm.mem_iff.mpr (List.mem_map_of_mem hpair)
        obtain ⟨entry, hentry, heq⟩ := List.mem_map.mp hin
        rw [← heq]
        exact List.lookup_eq_none_iff.mp hkey entry hentry
  · intro hagree
    have hab := keys_subset_of_lookup a b fun entry hentry => by
      rw [← hagree, (Entries.lookup_eq_some_iff_mem ha entry).mpr hentry]; rfl
    have hba := keys_subset_of_lookup b a fun entry hentry => by
      rw [hagree, (Entries.lookup_eq_some_iff_mem hb entry).mpr hentry]; rfl
    have hlength := Nat.le_antisymm (ha.subperm hab).length_le (hb.subperm hba).length_le
    refine ⟨by simpa using hlength, ?_⟩
    intro entry hentry
    exact (hagree entry.1).symm.trans ((Entries.lookup_eq_some_iff_mem ha entry).mpr hentry)

/-- The equivalence of segments, read as two agreements. -/
theorem segmentsEqual_iff (x y : List Segment) :
    c.segmentsEqual x y = true ↔
      (∀ name, (c.nonCanonical x).lookup name = (c.nonCanonical y).lookup name) ∧
        canonical x = canonical y := by
  rw [segmentsEqual, Bool.and_eq_true, beq_iff_eq,
    sameEntries_iff _ _ (c.nodup_keys_nonCanonical x) (c.nodup_keys_nonCanonical y)]

private theorem nonCanonicalPair?_key (s : Segment) (pair : Text × Text)
    (hpair : c.nonCanonicalPair? s = some pair) : pair.1 = s.name.lower := by
  rw [nonCanonicalPair?] at hpair
  split at hpair
  · split at hpair
    · cases hpair
    · rw [← Option.some.inj hpair]
  · cases hpair

/-- A comparer that leaves nothing out finds the first value of a name all
whose segments are non-canonical. -/
theorem lookup_nonCanonical_of_classified (segments : List Segment) (name : Text)
    (hclass : ∀ s ∈ segments, s.name.lower = name → s.classification = .nonCanonical) :
    (({} : Comparer).nonCanonical segments).lookup name =
      (valuesOf segments name).head?.filter fun v => !v.isEmpty := by
  rw [lookup_nonCanonical]
  congr 1
  induction segments with
  | nil => simp [valuesOf]
  | cons s rest ih =>
      have hrest := ih fun t ht => hclass t (List.mem_cons_of_mem s ht)
      rw [valuesOf] at hrest ⊢
      by_cases hname : s.name.lower = name
      · have hnon := hclass s (List.mem_cons_self ..) hname
        cases hvalue : s.value with
        | none =>
            have hpair : ({} : Comparer).nonCanonicalPair? s = none := by
              simp [nonCanonicalPair?, hnon, hvalue]
            simp [hpair, Segment.valueFor?, hname, hvalue, hrest]
        | some value =>
            have hpair : ({} : Comparer).nonCanonicalPair? s = some (s.name.lower, value) := by
              simp [nonCanonicalPair?, hnon, hvalue]
            simp [hpair, Segment.valueFor?, hname, hvalue]
      · have hvalue : Segment.valueFor? name s = none := by simp [Segment.valueFor?, hname]
        rw [List.filterMap_cons_none hvalue]
        cases hpair : ({} : Comparer).nonCanonicalPair? s with
        | none => rw [List.filterMap_cons_none hpair, hrest]
        | some pair =>
            have hkey := nonCanonicalPair?_key _ s pair hpair
            have hne : (name == pair.1) = false := by
              rw [hkey]
              exact beq_eq_false_iff_ne.mpr fun h => hname h.symm
            rw [List.filterMap_cons_some hpair, List.lookup_cons, hne, hrest]

/-- The values of a name all whose segments are canonical are those of the
canonical segments. -/
theorem valuesOf_eq_of_canonical (segments : List Segment) (name : Text)
    (hclass : ∀ s ∈ segments, s.name.lower = name → s.classification = .canonical) :
    valuesOf segments name =
      (canonical segments).filterMap fun pair => if pair.1 == name then pair.2 else none := by
  induction segments with
  | nil => rfl
  | cons s rest ih =>
      have hrest := ih fun t ht => hclass t (List.mem_cons_of_mem s ht)
      have hs := hclass s (List.mem_cons_self ..)
      rw [valuesOf, canonical] at hrest ⊢
      by_cases hcanon : s.classification = .canonical
      · simp [List.filterMap_cons, hcanon, Segment.valueFor?, hrest]
      · have hname : s.name.lower ≠ name := fun h => hcanon (hs h)
        simp [hcanon, Segment.valueFor?, hname, hrest]

private theorem nonCanonicalPair?_lowered (s : Segment) (h : s.name.lower.lower = s.name.lower) :
    c.nonCanonicalPair? s.lowered = c.nonCanonicalPair? s := by
  rw [nonCanonicalPair?, nonCanonicalPair?, Segment.lowered]
  simp only [h]

/-- Segments are equivalent to themselves with their names in lower case. -/
theorem segmentsEqual_map_lowered (segments : List Segment)
    (h : ∀ s ∈ segments, s.name.lower.lower = s.name.lower) :
    c.segmentsEqual (segments.map Segment.lowered) segments = true := by
  rw [segmentsEqual_iff]
  have hpairs : (segments.map Segment.lowered).filterMap c.nonCanonicalPair? =
      segments.filterMap c.nonCanonicalPair? := by
    rw [List.filterMap_map]
    exact List.filterMap_congr fun s hs => c.nonCanonicalPair?_lowered s (h s hs)
  refine ⟨fun name => by rw [lookup_nonCanonical, lookup_nonCanonical, hpairs], ?_⟩
  rw [canonical, canonical, List.filter_map, List.map_map]
  apply List.map_congr_left
  intro s hs
  exact congrArg (·, s.value) (h s (List.mem_filter.mp hs).1)

end Comparer

end KeyNaming
