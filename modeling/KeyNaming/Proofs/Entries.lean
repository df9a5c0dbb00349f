import KeyNaming.Entries
import Mathlib.Data.Finset.Card
import Mathlib.Data.List.Induction

/-!
Entries under a notion of sameness that is an equivalence relation: what is
found after an entry is put, which keys there are, and that a sequence of puts
gives the latest value of each key, in the order in which the keys came first.
-/

namespace KeyNaming

namespace Entries

variable {K L V : Type}

@[simp] theorem keys_cons (entry : K × V) (entries : Entries K V) :
    keys (entry :: entries) = entry.1 :: keys entries := rfl

theorem mem_of_get? {same : K → K → Bool} {key : K} {entries : Entries K V} {value : V}
    (h : entries.get? same key = some value) : value ∈ entries.values := by
  induction entries with
  | nil => cases h
  | cons entry rest ih =>
      obtain ⟨k, v⟩ := entry
      rw [get?] at h
      split at h
      · obtain rfl := Option.some.inj h
        exact List.mem_cons_self
      · exact List.mem_cons_of_mem v (ih h)

theorem equivalence_beq (A : Type) [BEq A] [LawfulBEq A] :
    Equivalence fun x y : A => (x == y) = true := by
  simpa using eq_equivalence

section Put

variable {same : K → K → Bool}

theorem get?_put (hsame : Equivalence fun x y => same x y = true) (entries : Entries K V)
    (key other : K) (value : V) :
    (entries.put same key value).get? same other =
      if same key other then some value else entries.get? same other := by
  induction entries with
  | nil => rfl
  | cons entry rest ih =>
      obtain ⟨k, v⟩ := entry
      rw [put]
      by_cases hkey : same k key = true
      · have hother : same k other = same key other :=
          Bool.eq_iff_iff.mpr ⟨hsame.trans (hsame.symm hkey), hsame.trans hkey⟩
        rw [if_pos hkey, get?, get?, hother]
        split <;> rfl
      · rw [if_neg hkey, get?, get?, ih]
        by_cases hother : same k other = true
        · have hapart : ¬ same key other = true := fun h =>
            hkey (hsame.trans hother (hsame.symm h))
          rw [if_pos hother, if_neg hapart, if_pos hother]
        · rw [if_neg hother, if_neg hother]

/-- A key that is there keeps its place and its spelling, another one comes
last. -/
theorem keys_put (entries : Entries K V) (key : K) (value : V) :
    (entries.put same key value).keys =
      if entries.keys.any (same · key) then entries.keys else entries.keys ++ [key] := by
  induction entries with
  | nil => rfl
  | cons entry rest ih =>
      obtain ⟨k, v⟩ := entry
      rw [put]
      by_cases hkey : same k key = true
      · simp [hkey]
      · rw [if_neg hkey, keys_cons, ih, keys_cons]
        by_cases hany : (keys rest).any (same · key) = true <;> simp [hkey, hany]

/-- Keys that are seen through a function may be replaced by what is seen of
them. -/
theorem map_put {other : L → L → Bool} (seen : K → L) (entries : Entries K V) (key : K) (value : V)
    (h : ∀ entry ∈ entries, same entry.1 key = other (seen entry.1) (seen key)) :
    (entries.put same key value).map (Prod.map seen id) =
      put other (seen key) value (entries.map (Prod.map seen id)) := by
  induction entries with
  | nil => rfl
  | cons entry rest ih =>
      obtain ⟨hfirst, hrest⟩ := List.forall_mem_cons.mp h
      rw [put, hfirst, List.map_cons, Prod.map, put]
      split
      · rfl
      · rw [List.map_cons, ih hrest]
        rfl

@[inherit_doc map_put]
theorem get?_map {other : L → L → Bool} (seen : K → L) (entries : Entries K V) (key : K)
    (h : ∀ entry ∈ entries, same entry.1 key = other (seen entry.1) (seen key)) :
    get? other (seen key) (entries.map (Prod.map seen id)) = entries.get? same key := by
  induction entries with
  | nil => rfl
  | cons entry rest ih =>
      obtain ⟨hfirst, hrest⟩ := List.forall_mem_cons.mp h
      rw [List.map_cons, Prod.map, get?, get?, hfirst, ih hrest]
      rfl

theorem mem_keys_put {entries : Entries K V} {key k : K} {value : V}
    (h : k ∈ (entries.put same key value).keys) : k ∈ entries.keys ∨ k = key := by
  rw [keys_put] at h
  split at h
  · exact .inl h
  · exact (List.mem_append.mp h).imp id List.mem_singleton.mp

/-- An entry with a key that is not there comes last. -/
theorem put_eq_append {entries : Entries K V} {key : K}
    (h : ∀ k ∈ entries.keys, ¬ same k key = true) (value : V) :
    entries.put same key value = entries ++ [(key, value)] := by
  induction entries with
  | nil => rfl
  | cons entry rest ih =>
      obtain ⟨hfirst, hrest⟩ := List.forall_mem_cons.mp h
      simp [put, hfirst, ih hrest]

end Put

theorem mem_of_mem_put [BEq K] [LawfulBEq K] {entries : Entries K V} {key : K} {value : V}
    {entry : K × V} (h : entry ∈ entries.put (· == ·) key value) :
    entry ∈ entries ∨ entry = (key, value) := by
  induction entries with
  | nil => exact .inr (List.mem_singleton.mp h)
  | cons first rest ih =>
      rw [put] at h
      split at h
      · next hkey =>
        obtain rfl := eq_of_beq hkey
        rcases List.mem_cons.mp h with hput | hrest
        · exact .inr hput
        · exact .inl (List.mem_cons_of_mem first hrest)
      · rcases List.mem_cons.mp h with rfl | hrest
        · exact .inl List.mem_cons_self
        · exact (ih hrest).imp (List.mem_cons_of_mem first) id

/-- Where no key stands twice, a key leads to the entry that has it. -/
theorem lookup_eq_some_iff_mem [BEq K] [LawfulBEq K] {entries : Entries K V}
    (h : (entries.map Prod.fst).Nodup) (entry : K × V) :
    entries.lookup entry.1 = some entry.2 ↔ entry ∈ entries := by
  rw [List.lookup_eq_some_iff]
  constructor
  · rintro ⟨before, after, rfl, -⟩
    simp
  · intro hentry
    obtain ⟨before, after, rfl⟩ := List.append_of_mem hentry
    refine ⟨before, after, rfl, fun other hother => ?_⟩
    rw [List.map_append, List.nodup_append] at h
    have hne := h.2.2 other.1 (List.mem_map_of_mem hother) entry.1 (by simp)
    simpa using hne.symm

/-! ## Sequences of puts -/

/-- The value that was put last under a key that is the same as a given one. -/
def latest? (same : K → K → Bool) (puts : List (K × V)) (key : K) : Option V :=
  (puts.reverse.find? fun entry => same entry.1 key).map Prod.snd

/-- The entries after a sequence of puts. -/
def ofPuts (same : K → K → Bool) (puts : List (K × V)) : Entries K V :=
  puts.foldl (fun entries entry => entries.put same entry.1 entry.2) []

theorem ofPuts_concat (same : K → K → Bool) (puts : List (K × V)) (entry : K × V) :
    ofPuts same (puts ++ [entry]) = (ofPuts same puts).put same entry.1 entry.2 := by
  rw [ofPuts, List.foldl_append]
  rfl

theorem latest?_concat (same : K → K → Bool) (puts : List (K × V)) (entry : K × V) (key : K) :
    latest? same (puts ++ [entry]) key =
      if same entry.1 key then some entry.2 else latest? same puts key := by
  rw [latest?, List.reverse_append, List.reverse_singleton, List.singleton_append, List.find?_cons]
  cases same entry.1 key <;> rfl

theorem eraseDupsBy_concat (same : K → K → Bool) (l : List K) (key : K) :
    (l ++ [key]).eraseDupsBy same =
      if (l.eraseDupsBy same).any (same key ·) then l.eraseDupsBy same
      else l.eraseDupsBy same ++ [key] := by
  have hloop (seen : List K) : List.eraseDupsBy.loop same (l ++ [key]) seen =
      if (List.eraseDupsBy.loop same l seen).any (same key ·) then
        List.eraseDupsBy.loop same l seen
      else List.eraseDupsBy.loop same l seen ++ [key] := by
    induction l generalizing seen with
    | nil =>
        simp only [List.nil_append, List.eraseDupsBy.loop, List.any_reverse]
        cases seen.any (same key ·) <;> simp
    | cons first rest ih =>
        rw [List.cons_append, List.eraseDupsBy.loop, List.eraseDupsBy.loop]
        split <;> exact ih _
  exact hloop []

theorem nodup_eraseDups [BEq K] [LawfulBEq K] (l : List K) : l.eraseDups.Nodup := by
  induction l using List.reverseRecOn with
  | nil => exact List.nodup_nil
  | append_singleton l key ih =>
      have hconcat := eraseDupsBy_concat (· == ·) l key
      change (l ++ [key]).eraseDups = _ at hconcat
      rw [hconcat]
      split
      · exact ih
      · next hany =>
        refine List.nodup_append.mpr ⟨ih, List.nodup_singleton key, ?_⟩
        rintro first hfirst _ hkey rfl
        obtain rfl := List.mem_singleton.mp hkey
        exact hany (List.any_eq_true.mpr ⟨first, hfirst, beq_self_eq_true first⟩)

theorem mem_of_mem_keys_ofPuts {same : K → K → Bool} (puts : List (K × V)) {key : K}
    (h : key ∈ (ofPuts same puts).keys) : key ∈ puts.map Prod.fst := by
  induction puts using List.reverseRecOn with
  | nil => cases h
  | append_singleton puts entry ih =>
      rw [ofPuts_concat] at h
      rw [List.map_append, List.mem_append]
      exact (mem_keys_put h).imp ih List.mem_singleton.mpr

/-- No two entries have the same key. -/
theorem pairwise_keys_ofPuts (same : K → K → Bool) (puts : List (K × V)) :
    (ofPuts same puts).keys.Pairwise fun x y => ¬ same x y = true := by
  induction puts using List.reverseRecOn with
  | nil => exact List.Pairwise.nil
  | append_singleton puts entry ih =>
      rw [ofPuts_concat, keys_put]
      split
      · exact ih
      · next hany =>
          refine List.pairwise_append.mpr ⟨ih, List.pairwise_singleton _ _, ?_⟩
          intro x hx y hy
          obtain rfl := List.mem_singleton.mp hy
          exact fun h => hany (List.any_eq_true.mpr ⟨x, hx, h⟩)

/-- Entries of different keys that are put in their order are those entries. -/
theorem ofPuts_eq_self {same : K → K → Bool} {entries : Entries K V}
    (h : entries.keys.Pairwise fun x y => ¬ same x y = true) : ofPuts same entries = entries := by
  induction entries using List.reverseRecOn with
  | nil => rfl
  | append_singleton entries entry ih =>
      rw [keys, List.map_append, List.pairwise_append] at h
      obtain ⟨hentries, -, hapart⟩ := h
      rw [ofPuts_concat, ih hentries]
      apply put_eq_append
      intro k hk
      exact hapart k hk entry.1 (by simp)

theorem mem_of_mem_ofPuts [BEq K] [LawfulBEq K] (puts : List (K × V)) {entry : K × V}
    (h : entry ∈ ofPuts (· == ·) puts) : entry ∈ puts := by
  induction puts using List.reverseRecOn with
  | nil => cases h
  | append_singleton puts last ih =>
      rw [ofPuts_concat] at h
      apply List.mem_append.mpr
      exact (mem_of_mem_put h).imp ih List.mem_singleton.mpr

section OfPuts

variable {same : K → K → Bool} (hsame : Equivalence fun x y => same x y = true)

include hsame

theorem get?_ofPuts (puts : List (K × V)) (key : K) :
    (ofPuts same puts).get? same key = latest? same puts key := by
  induction puts using List.reverseRecOn with
  | nil => rfl
  | append_singleton puts entry ih => rw [ofPuts_concat, get?_put hsame, latest?_concat, ih]

theorem keys_ofPuts (puts : List (K × V)) :
    (ofPuts same puts).keys = (puts.map Prod.fst).eraseDupsBy same := by
  have hcomm (x y : K) : same x y = same y x := Bool.eq_iff_iff.mpr ⟨hsame.symm, hsame.symm⟩
  induction puts using List.reverseRecOn with
  | nil => rfl
  | append_singleton puts entry ih =>
      rw [ofPuts_concat, keys_put, ih, List.map_append, List.map_singleton, eraseDupsBy_concat]
      simp only [hcomm _ entry.1]

theorem exists_key_ofPuts (puts : List (K × V)) {key : K} (h : key ∈ puts.map Prod.fst) :
    ∃ k ∈ (ofPuts same puts).keys, same k key = true := by
  induction puts using List.reverseRecOn with
  | nil => cases h
  | append_singleton puts entry ih =>
      rw [ofPuts_concat, keys_put]
      rw [List.map_append, List.mem_append] at h
      rcases h with hold | hnew
      · obtain ⟨k, hk, hsame⟩ := ih hold
        refine ⟨k, ?_, hsame⟩
        split
        · exact hk
        · exact List.mem_append_left _ hk
      · obtain rfl : key = entry.1 := List.mem_singleton.mp hnew
        split
        · next hany => exact List.any_eq_true.mp hany
        · exact ⟨entry.1, List.mem_append_right _ (List.mem_singleton_self _), hsame.refl _⟩

/-- There are as many entries as classes of keys that were put. -/
theorem length_ofPuts [DecidableEq (Quotient ⟨_, hsame⟩)] (puts : List (K × V)) :
    (ofPuts same puts).length =
      (puts.map fun entry => Quotient.mk ⟨_, hsame⟩ entry.1).toFinset.card := by
  let s : Setoid K := ⟨_, hsame⟩
  have hnodup : ((ofPuts same puts).keys.map (Quotient.mk s)).Nodup := by
    refine List.pairwise_map.mpr ((pairwise_keys_ofPuts same puts).imp ?_)
    intro x y hapart heq
    exact hapart (Quotient.exact heq)
  have hclasses : (puts.map fun entry => Quotient.mk s entry.1).toFinset =
      ((ofPuts same puts).keys.map (Quotient.mk s)).toFinset := by
    ext q
    rw [List.mem_toFinset, List.mem_toFinset]
    constructor
    · intro hq
      obtain ⟨entry, hentry, rfl⟩ := List.mem_map.mp hq
      obtain ⟨k, hk, hsame⟩ := exists_key_ofPuts hsame puts (List.mem_map_of_mem hentry)
      exact List.mem_map.mpr ⟨k, hk, Quotient.sound hsame⟩
    · intro hq
      obtain ⟨k, hk, rfl⟩ := List.mem_map.mp hq
      obtain ⟨entry, hentry, rfl⟩ := List.mem_map.mp (mem_of_mem_keys_ofPuts puts hk)
      exact List.mem_map_of_mem hentry
  rw [hclasses, List.toFinset_card_of_nodup hnodup, List.length_map, keys, List.length_map]

theorem ofPuts_eq_map (puts : List (K × V)) :
    (ofPuts same puts).map (fun entry => (entry.1, some entry.2)) =
      ((puts.map Prod.fst).eraseDupsBy same).map fun key => (key, latest? same puts key) := by
  have hsome (entries : Entries K V) (h : entries.keys.Pairwise fun x y => ¬ same x y = true) :
      entries.map (fun entry => (entry.1, some entry.2)) =
        entries.keys.map fun key => (key, entries.get? same key) := by
    induction entries with
    | nil => rfl
    | cons entry rest ih =>
        obtain ⟨k, v⟩ := entry
        obtain ⟨hfirst, hrest⟩ := List.pairwise_cons.mp h
        have hskip : (keys rest).map (fun key => (key, get? same key ((k, v) :: rest))) =
            (keys rest).map fun key => (key, get? same key rest) := by
          refine List.map_congr_left fun key hkey => ?_
          rw [get?, if_neg (hfirst key hkey)]
        rw [keys_cons, List.map_cons, List.map_cons, hskip, ← ih hrest, get?, if_pos (hsame.refl k)]
  rw [hsome _ (pairwise_keys_ofPuts same puts), keys_ofPuts hsame]
  simp only [get?_ofPuts hsame]

end OfPuts

end Entries

end KeyNaming
