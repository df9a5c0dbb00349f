import Mathlib.Data.List.Basic
import KeyNaming.Proofs.Key.Equivalence
import KeyNaming.Proofs.Key.Representation

/-!
Leaving out parameters when keys are compared, and deleting their segments.

A comparer that leaves out names passes over their non-canonical segments before
it looks for the segment of each name that counts. So it finds in a key what a
comparer that leaves out nothing finds in the key without these segments. A
canonical segment is compared whatever its name is.
-/

namespace KeyNaming

/-- Whether a segment is non-canonical and has one of some names, regardless of
case. -/
def Segment.isLeftOut (names : List Text) (s : Segment) : Bool :=
  s.classification == .nonCanonical && names.any fun name => name.lower == s.name.lower

/-- Segments without the non-canonical ones that have one of some names. -/
def segmentsWithout (names : List Text) (segments : List Segment) : List Segment :=
  segments.filter fun s => !s.isLeftOut names

/-- Whether the second of two keys is the first one without the non-canonical
segments that have one of some names, or both are missing. -/
inductive Decomposition.IsDeletion {K : Type} (d : Decomposition K) (names : List Text) :
    Option K → Option K → Prop where
  | none : d.IsDeletion names none none
  | some {key key' : K} (segments : d.segments key' = segmentsWithout names (d.segments key)) :
    d.IsDeletion names (some key) (some key')

namespace Comparer

variable (names : List Text) (label other : Nat)

/-! ## Segments -/

/-- A comparer that leaves out names looks at the other segments as one does
that leaves out nothing. -/
theorem nonCanonicalPair?_ignoring (s : Segment) :
    (ignoring names label).nonCanonicalPair? s =
      if s.isLeftOut names then none else (ignoring [] other).nonCanonicalPair? s := by
  have hnames : (names.map Text.lower).contains s.name.lower =
      names.any fun name => name.lower == s.name.lower := by
    rw [List.contains_eq_any_beq, List.any_map]
    congr 1
    funext name
    exact BEq.comm
  obtain ⟨name, value, classification⟩ := s
  cases classification with
  | canonical => simp [nonCanonicalPair?, Segment.isLeftOut]
  | unclassified => simp [nonCanonicalPair?, Segment.isLeftOut]
  | nonCanonical =>
      cases value with
      | none => simp [nonCanonicalPair?]
      | some value =>
          simp only [nonCanonicalPair?, ignoring, hnames, Segment.isLeftOut, beq_self_eq_true,
            Bool.true_and, List.map_nil, List.contains_nil, Bool.false_eq_true, if_false]

/-- The segments that are left out are gone before the first one of each name is
looked for. -/
theorem nonCanonical_segmentsWithout (segments : List Segment) :
    (ignoring [] other).nonCanonical (segmentsWithout names segments) =
      (ignoring names label).nonCanonical segments := by
  have hpairs : (segmentsWithout names segments).filterMap (ignoring [] other).nonCanonicalPair? =
      segments.filterMap (ignoring names label).nonCanonicalPair? := by
    rw [segmentsWithout, List.filterMap_filter]
    refine List.filterMap_congr fun s _ => ?_
    rw [nonCanonicalPair?_ignoring names label other]
    cases s.isLeftOut names <;> rfl
  rw [nonCanonical, nonCanonical, hpairs]

/-- Canonical segments are kept, also those that have one of the names. -/
theorem canonical_segmentsWithout (segments : List Segment) :
    canonical (segmentsWithout names segments) = canonical segments := by
  have hkept (s : Segment) : (s.classification == .canonical && !s.isLeftOut names) =
      (s.classification == .canonical) := by
    cases hclass : s.classification <;> simp [Segment.isLeftOut, hclass]
  rw [canonical, canonical, segmentsWithout, List.filter_filter]
  simp only [hkept]

theorem segmentsEqual_segmentsWithout (x y : List Segment) :
    (ignoring [] other).segmentsEqual (segmentsWithout names x) (segmentsWithout names y) =
      (ignoring names label).segmentsEqual x y := by
  rw [segmentsEqual, segmentsEqual, nonCanonical_segmentsWithout names label,
    nonCanonical_segmentsWithout names label, canonical_segmentsWithout, canonical_segmentsWithout]

theorem segmentsHash?_segmentsWithout (segments : List Segment) :
    (ignoring [] other).segmentsHash? (segmentsWithout names segments) =
      (ignoring names label).segmentsHash? segments := by
  rw [segmentsHash?, segmentsHash?, nonCanonical_segmentsWithout names label,
    canonical_segmentsWithout]

end Comparer

/-! ## Keys -/

namespace Chain

/-- A chain without the non-canonical segments that have one of some names. The
structural nodes are kept. -/
def without (names : List Text) (c : Chain) : Chain :=
  (c.nodes.filter fun n => !n.segment?.any (Segment.isLeftOut names)).foldr
    (fun n rest => rest.push n) root

theorem segments_foldr_push (nodes : List ChainNode) :
    (nodes.foldr (fun n rest => rest.push n) root).segments =
      nodes.filterMap ChainNode.segment? := by
  induction nodes with
  | nil => rfl
  | cons n rest ih =>
      rw [List.foldr_cons, segments_push, ih, List.filterMap_cons]
      cases n.segment? <;> rfl

theorem segments_without (names : List Text) (c : Chain) :
    (c.without names).segments = segmentsWithout names c.segments := by
  rw [without, segments_foldr_push, segments, segmentsWithout, List.filterMap_filter,
    List.filter_filterMap]
  refine List.filterMap_congr fun n _ => ?_
  cases n.segment? with
  | none => rfl
  | some s => cases hs : s.isLeftOut names <;> simp [hs, Option.filter]

end Chain

/-- Pairs without those that are non-canonical segments with one of some names. -/
def Pairs.without (r : Registry) (names : List Text) (pairs : Pairs) : Pairs :=
  pairs.filter fun (name, value) =>
    !Segment.isLeftOut names ⟨name, value, r.classify (some name)⟩

namespace Decomposition

theorem isDeletion_chain (names : List Text) (key : Chain) :
    ofChains.IsDeletion names (some key) (some (key.without names)) :=
  .some (key.segments_without names)

theorem isDeletion_pairs (names : List Text) (r : Registry) (pairs : Pairs) :
    (ofPairs r).IsDeletion names (some pairs) (some (pairs.without r names)) := by
  refine .some ?_
  change List.map _ (List.reverse _) = List.filter _ (List.map _ _)
  rw [List.filter_map, Pairs.without, List.filter_reverse]
  rfl

end Decomposition

namespace Comparer

variable {K : Type} {d : Decomposition K} {names : List Text} {x y x' y' : Option K}

theorem equal_of_isDeletion (hx : d.IsDeletion names x x') (hy : d.IsDeletion names y y')
    (label other : Nat) :
    (ignoring names label).equal d x y = (ignoring [] other).equal d x' y' := by
  cases hx with
  | none => cases hy <;> rfl
  | some hx =>
      cases hy with
      | none => rfl
      | some hy => rw [equal, equal, hx, hy, segmentsEqual_segmentsWithout names label]

theorem hash?_of_isDeletion (hx : d.IsDeletion names x x') (label other : Nat) :
    (ignoring names label).hash? d x = (ignoring [] other).hash? d x' := by
  cases hx with
  | none => rfl
  | some hx => rw [hash?, hash?, hx, segmentsHash?_segmentsWithout names label]

theorem map_canonical_of_isDeletion (hx : d.IsDeletion names x x') :
    (x'.map fun key => canonical (d.segments key)) =
      x.map fun key => canonical (d.segments key) := by
  cases hx with
  | none => rfl
  | some hx => rw [Option.map_some, Option.map_some, hx, canonical_segmentsWithout]

theorem map_canonical_of_equal {c : Comparer} (h : c.equal d x y = true) :
    (x.map fun key => canonical (d.segments key)) =
      y.map fun key => canonical (d.segments key) := by
  cases x <;> cases y
  · rfl
  · cases h
  · cases h
  · exact congrArg some ((c.segmentsEqual_iff _ _).mp h).2

/-- Two keys are equivalent to a comparer that leaves out names just if they are so,
without the non-canonical segments of these names, to a comparer that leaves out
nothing; and the hash of a key is that of the key without these segments. Deleting
them leaves the canonical segments as they are, and equivalent keys have the same
ones, of whatever names. -/
theorem equal_iff_and_hash?_of_isDeletion (d : Decomposition K) (names : List Text)
    (label other : Nat) {x y x' y' : Option K} (hx : d.IsDeletion names x x')
    (hy : d.IsDeletion names y y') :
    ((ignoring names label).equal d x y = true ↔ (ignoring [] other).equal d x' y' = true) ∧
      (ignoring names label).hash? d x = (ignoring [] other).hash? d x' ∧
      (x'.map fun key => canonical (d.segments key)) =
        (x.map fun key => canonical (d.segments key)) ∧
      ((ignoring names label).equal d x y = true →
        (x.map fun key => canonical (d.segments key)) =
          y.map fun key => canonical (d.segments key)) :=
  ⟨by rw [equal_of_isDeletion hx hy label other], hash?_of_isDeletion hx label other,
    map_canonical_of_isDeletion hx, map_canonical_of_equal⟩

/-- Two keys that differ in their cultures alone: one has a culture between two
values of an assembly and an empty culture behind them, the other has none. -/
def culturedPairs : Pairs × Pairs :=
  ([("assembly", some "A"), ("Culture", some "en"), ("Key", some "Ok"), ("ASSEMBLY", some "B"),
    ("culture", some [])], [("assembly", some "B"), ("key", some "Ok")])

/-- Among the names that are left out is that of a canonical segment, which is
kept. -/
theorem equal_iff_and_hash?_culturedPairs :
    (ignoring ["CULTURE", "key"] 0).equal (.ofPairs defaultRegistry) (some culturedPairs.1)
        (some culturedPairs.2) = true ∧
      (culturedPairs.1.without defaultRegistry ["CULTURE", "key"]).map Prod.fst =
        ["assembly", "Key", "ASSEMBLY"] ∧
      (ignoring ["CULTURE", "key"] 0).hash? .ofChains
          (some (Chain.ofPairs defaultRegistry culturedPairs.1)) =
        (ignoring [] 1).hash? .ofChains
          (some ((Chain.ofPairs defaultRegistry culturedPairs.1).without ["CULTURE", "key"])) := by
  obtain ⟨hequal, _⟩ := equal_iff_and_hash?_of_isDeletion (.ofPairs defaultRegistry)
    ["CULTURE", "key"] 0 1 (Decomposition.isDeletion_pairs _ _ culturedPairs.1)
    (Decomposition.isDeletion_pairs _ _ culturedPairs.2)
  obtain ⟨_, hhash, _⟩ := equal_iff_and_hash?_of_isDeletion .ofChains ["CULTURE", "key"] 0 1
    (Decomposition.isDeletion_chain _ (Chain.ofPairs defaultRegistry culturedPairs.1)) .none
  exact ⟨hequal.mpr (by decide +kernel), by decide, hhash⟩

end Comparer

end KeyNaming
