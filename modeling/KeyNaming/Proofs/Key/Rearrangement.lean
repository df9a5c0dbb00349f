import KeyNaming.Proofs.Key.Equivalence

/-!
The order of non-canonical segments does not count.

A comparer keeps of each non-canonical name the value closest to the tail. So
only the values that one name has, in their order, say what it keeps, and
segments of other names may stand anywhere between them. Unclassified segments
and structural nodes may come and go, and names may be written in any case.
-/

namespace KeyNaming

/-- The values, also missing ones, of the non-canonical segments of a
lower-cased name, from the tail. -/
def nonCanonicalValues (segments : List Segment) (name : Text) : List (Option Text) :=
  (segments.filter fun s => s.classification == .nonCanonical && s.name.lower == name).map
    Segment.value

/-- The value that a segment gives to a lower-cased name if it is non-canonical. -/
def Segment.nonCanonicalValue? (name : Text) (s : Segment) : Option Text :=
  if s.classification = .nonCanonical ∧ s.name.lower = name then s.value else none

theorem findSome?_filterMap {A B C : Type} (f : A → Option B) (g : B → Option C) (l : List A) :
    (l.filterMap f).findSome? g = l.findSome? fun a => (f a).bind g := by
  rw [← List.head?_filterMap, List.filterMap_filterMap, List.head?_filterMap]

theorem findSome?_nonCanonicalValues (segments : List Segment) (name : Text) :
    (nonCanonicalValues segments name).findSome? id =
      segments.findSome? (Segment.nonCanonicalValue? name) := by
  rw [nonCanonicalValues, List.findSome?_map, ← List.filterMap_eq_filter, findSome?_filterMap]
  congr 1
  funext s
  by_cases hs : s.classification = .nonCanonical ∧ s.name.lower = name <;>
    simp [Segment.nonCanonicalValue?, Option.guard, hs]

/-- Whether two lists of segments have the same canonical ones, names
lower-cased, and the same values of each non-canonical name. -/
structure Rearranged (x y : List Segment) : Prop where
  canonical : Comparer.canonical x = Comparer.canonical y
  nonCanonical : ∀ name, nonCanonicalValues x name = nonCanonicalValues y name

theorem nonCanonicalValues_of_not_mem {segments : List Segment} {name : Text}
    (h : name ∉ segments.map fun s => s.name.lower) : nonCanonicalValues segments name = [] := by
  rw [nonCanonicalValues, List.map_eq_nil_iff, List.filter_eq_nil_iff]
  intro s hs hname
  obtain ⟨_, hname⟩ := Bool.and_eq_true_iff.mp hname
  exact h (List.mem_map.mpr ⟨s, hs, eq_of_beq hname⟩)

/-- Only the names of the segments have to be looked at. -/
theorem rearranged_iff {x y : List Segment} :
    Rearranged x y ↔ Comparer.canonical x = Comparer.canonical y ∧
      ∀ name ∈ (x ++ y).map fun s => s.name.lower,
        nonCanonicalValues x name = nonCanonicalValues y name := by
  refine ⟨fun h => ⟨h.canonical, fun name _ => h.nonCanonical name⟩, ?_⟩
  rintro ⟨hcanonical, hnames⟩
  refine ⟨hcanonical, fun name => ?_⟩
  by_cases hname : name ∈ (x ++ y).map fun s => s.name.lower
  · exact hnames name hname
  · rw [List.map_append, List.mem_append, not_or] at hname
    rw [nonCanonicalValues_of_not_mem hname.1, nonCanonicalValues_of_not_mem hname.2]

instance (x y : List Segment) : Decidable (Rearranged x y) :=
  decidable_of_iff _ rearranged_iff.symm

namespace Comparer

variable (c : Comparer)

/-- What a segment gives to a name among the pairs that count. -/
theorem nonCanonicalPair?_bind (s : Segment) (name : Text) :
    ((c.nonCanonicalPair? s).bind fun pair => if name == pair.1 then some pair.2 else none) =
      if c.ignored.contains name then none else s.nonCanonicalValue? name := by
  obtain ⟨written, value, classification⟩ := s
  cases classification with
  | canonical => simp [nonCanonicalPair?, Segment.nonCanonicalValue?]
  | unclassified => simp [nonCanonicalPair?, Segment.nonCanonicalValue?]
  | nonCanonical =>
      cases value with
      | none => simp [nonCanonicalPair?, Segment.nonCanonicalValue?]
      | some value =>
          by_cases hname : written.lower = name
          · subst hname
            by_cases hignored : written.lower ∈ c.ignored <;>
              simp [nonCanonicalPair?, Segment.nonCanonicalValue?, hignored]
          · have hne : name ≠ written.lower := Ne.symm hname
            by_cases hignored : written.lower ∈ c.ignored <;>
              simp [nonCanonicalPair?, Segment.nonCanonicalValue?, hignored, hname, hne]

/-- A name that is not left out is found with its first value that is there. -/
theorem lookup_nonCanonicalPairs (segments : List Segment) (name : Text) :
    (segments.filterMap c.nonCanonicalPair?).lookup name =
      if c.ignored.contains name then none else (nonCanonicalValues segments name).findSome? id := by
  rw [List.lookup_eq_findSome?, findSome?_filterMap]
  simp only [nonCanonicalPair?_bind]
  split
  · exact List.findSome?_eq_none_iff.mpr fun _ _ => rfl
  · rw [findSome?_nonCanonicalValues]

theorem segmentsEqual_of_rearranged {x y : List Segment} (h : Rearranged x y) :
    c.segmentsEqual x y = true := by
  rw [segmentsEqual_iff]
  refine ⟨fun name => ?_, h.canonical⟩
  rw [lookup_nonCanonical, lookup_nonCanonical, lookup_nonCanonicalPairs, lookup_nonCanonicalPairs,
    h.nonCanonical]

/-- Keys are equivalent and have the same hash if their canonical segments are the
same sequence and each name has the same sequence of non-canonical values, whatever
the unclassified segments are and wherever the segments of different names stand. -/
theorem equal_and_hash?_of_rearranged {K : Type} (d : Decomposition K) {x y : K}
    (h : Rearranged (d.segments x) (d.segments y)) :
    c.equal d (some x) (some y) = true ∧ c.hash? d (some x) = c.hash? d (some y) := by
  have hequal : c.equal d (some x) (some y) = true := c.segmentsEqual_of_rearranged h
  exact ⟨hequal, c.hash?_eq_of_equal d hequal⟩

/-- Two keys with values of cultures and assemblies, overridden, empty and
missing ones, in two orders between the same canonical segments, the second one
with a formatting hint and a structural node. -/
def rearrangedKeys : Chain × Chain :=
  (Chain.root.appendPairs defaultRegistry [(some "culture", some "en"), (some "assembly", none),
    (some "Culture", some []), (some "type", some "Ui"), (some "assembly", some "A"),
    (some "key", some "Ok")],
   Chain.root.appendPairs defaultRegistry [(some "Assembly", none), (some "TYPE", some "Ui"),
    (none, none), (some "assembly", some "A"), (some "root", some "r"), (some "Key", some "Ok"),
    (some "CULTURE", some "en"), (some "culture", some [])])

theorem equal_and_hash?_of_rearrangedKeys :
    Rearranged rearrangedKeys.1.segments rearrangedKeys.2.segments ∧
      (Comparer.ignoring ["Assembly"] 0).equal .ofChains (some rearrangedKeys.1)
        (some rearrangedKeys.2) = true ∧
      ({} : Comparer).hash? .ofChains (some rearrangedKeys.1) =
        ({} : Comparer).hash? .ofChains (some rearrangedKeys.2) ∧
      (({} : Comparer).hash? .ofChains (some rearrangedKeys.1)).isSome = true := by
  have hrearranged : Rearranged rearrangedKeys.1.segments rearrangedKeys.2.segments := by
    decide +kernel
  exact ⟨hrearranged,
    (equal_and_hash?_of_rearranged (Comparer.ignoring ["Assembly"] 0) .ofChains
      (x := rearrangedKeys.1) (y := rearrangedKeys.2) hrearranged).1,
    (equal_and_hash?_of_rearranged {} .ofChains
      (x := rearrangedKeys.1) (y := rearrangedKeys.2) hrearranged).2, by decide +kernel⟩

end Comparer

end KeyNaming
