import KeyNaming.Key.Chain

/-!
Keys of any representation, seen through their segments.

Patterns and comparers know a key only by its decomposition, so one and the
same definition serves chains and plain lists of pairs.
-/

namespace KeyNaming

/-- How keys of a type fall into segments. -/
structure Decomposition (K : Type) where
  /-- The segments from the tail to the root, structural nodes left out. -/
  segments : K → List Segment
  /-- The key one step closer to the root. -/
  previous? : K → Option K
  /-- A bound on the steps to the root. -/
  depth : K → Nat
  depth_previous : ∀ key previous, previous? key = some previous → depth previous < depth key

/-- Keys written as names and values, the one closest to the root first. -/
abbrev Pairs := List (Text × Option Text)

namespace Decomposition

/-- Chains fall into their own segments. -/
def ofChains : Decomposition Chain where
  segments := Chain.segments
  previous? := Chain.previous?
  depth c := c.behind.length
  depth_previous c previous h := by
    obtain ⟨_, behind⟩ := c
    cases behind <;> simp_all [Chain.previous?]
    simp [← h]

/-- Pairs fall into segments as a registry classifies them. -/
def ofPairs (r : Registry) : Decomposition Pairs where
  segments pairs := pairs.reverse.map fun (name, value) => ⟨name, value, r.classify (some name)⟩
  previous? pairs := if pairs.isEmpty then none else some pairs.dropLast
  depth := List.length
  depth_previous pairs previous h := by
    cases pairs <;> simp_all
    simp [← h]

/-- Keys of either of two types fall into segments as those of their type. -/
def either {K L : Type} (d : Decomposition K) (e : Decomposition L) : Decomposition (K ⊕ L) where
  segments := Sum.elim d.segments e.segments
  previous? := Sum.elim (fun key => (d.previous? key).map .inl) fun key =>
    (e.previous? key).map .inr
  depth := Sum.elim d.depth e.depth
  depth_previous key previous h := by
    rcases key with key | key
    · obtain ⟨p, hp, rfl⟩ := Option.map_eq_some_iff.1 h
      exact d.depth_previous key p hp
    · obtain ⟨p, hp, rfl⟩ := Option.map_eq_some_iff.1 h
      exact e.depth_previous key p hp

/-- The keys from one back to the root, that one left out. -/
def previousKeys {K : Type} (d : Decomposition K) (key : K) : List K :=
  match h : d.previous? key with
  | none => []
  | some previous =>
    have := d.depth_previous key previous h
    previous :: previousKeys d previous
termination_by d.depth key

end Decomposition

end KeyNaming
