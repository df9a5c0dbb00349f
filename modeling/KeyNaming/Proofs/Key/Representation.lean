import KeyNaming.Key.Comparer
import KeyNaming.Pattern.Match
import Mathlib.Data.List.Induction

/-!
A key may be written as names and values or kept as a chain, to the same effect.

Comparers and patterns see a key through its decomposition alone. So where keys
of one type stand for keys of another, segment by segment and step by step, all
that they compute of a key is computed of the key that stands for it. The chain
of some names and values stands for them in this way: its head is the segment
of the last pair, and one step closer to the root it is the chain of the pairs
before.
-/

namespace KeyNaming

namespace Decomposition

variable {K L : Type}

/-- The key that is some steps closer to the root, if there is one. -/
def back? (d : Decomposition K) : Nat → K → Option K
  | 0, key => some key
  | steps + 1, key => (d.previous? key).bind (d.back? steps)

/-- Whether the keys that a function gives stand for its arguments. -/
structure Simulates (d : Decomposition K) (e : Decomposition L) (f : L → K) : Prop where
  segments : ∀ key, d.segments (f key) = e.segments key
  previous? : ∀ key, d.previous? (f key) = (e.previous? key).map f

namespace Simulates

variable {d : Decomposition K} {e : Decomposition L} {f : L → K} (h : d.Simulates e f)

include h

/-- What holds of one step holds of any number of them. -/
theorem back? (steps : Nat) (key : L) :
    d.back? steps (f key) = (e.back? steps key).map f := by
  induction steps generalizing key with
  | zero => rfl
  | succ steps ih =>
      rw [Decomposition.back?, Decomposition.back?, h.previous? key]
      cases e.previous? key with
      | none => rfl
      | some previous => exact ih previous

theorem map_segments_back? (steps : Nat) (key : L) :
    (d.back? steps (f key)).map d.segments = (e.back? steps key).map e.segments := by
  rw [h.back?, Option.map_map]
  exact Option.map_congr fun previous _ => h.segments previous

theorem hash? (c : Comparer) (key : Option L) : c.hash? d (key.map f) = c.hash? e key := by
  cases key with
  | none => rfl
  | some key => exact congrArg c.segmentsHash? (h.segments key)

theorem equal (c : Comparer) (x y : Option L) :
    c.equal d (x.map f) (y.map f) = c.equal e x y := by
  cases x <;> cases y
  · rfl
  · rfl
  · rfl
  · next x y => exact congrArg₂ c.segmentsEqual (h.segments x) (h.segments y)

theorem matchKey (p : Pattern) (key : L) (known : Prefilled) :
    p.matchKey d (f key) known = p.matchKey e key known :=
  congrArg (p.matchSegments · known) (h.segments key)

theorem nameOfKey (p : Pattern) (key : L) : p.nameOfKey d (f key) = p.nameOfKey e key := by
  rw [Pattern.nameOfKey, Pattern.nameOfKey, h.matchKey]

end Simulates

/-- A sequence of pairs has as many steps as pairs, and one more from the empty
sequence to no key. -/
theorem back?_ofPairs_eq_none_iff (r : Registry) (steps : Nat) (pairs : Pairs) :
    (ofPairs r).back? steps pairs = none ↔ pairs.length < steps := by
  induction steps generalizing pairs with
  | zero => simp [back?]
  | succ steps ih =>
      cases pairs with
      | nil => simp [back?, ofPairs]
      | cons pair rest =>
          have hprevious : (ofPairs r).previous? (pair :: rest) =
              some (pair :: rest).dropLast := rfl
          rw [back?, hprevious, Option.bind_some, ih]
          simp

end Decomposition

namespace Chain

theorem previous?_push (c : Chain) (n : ChainNode) : (c.push n).previous? = some c := rfl

theorem segments_push (c : Chain) (n : ChainNode) :
    (c.push n).segments = n.segment?.toList ++ c.segments := by
  rw [segments, push, nodes, List.filterMap_cons]
  cases n.segment? <;> rfl

/-- A new chain with a segment for each pair, as a registry classifies them. -/
def ofPairs (r : Registry) (pairs : Pairs) : Chain :=
  root.appendPairs r (pairs.map fun (name, value) => (some name, value))

theorem ofPairs_concat (r : Registry) (pairs : Pairs) (name : Text) (value : Option Text) :
    ofPairs r (pairs ++ [(name, value)]) =
      (ofPairs r pairs).push (.ofSegment ⟨name, value, r.classify (some name)⟩) := by
  rw [ofPairs, List.map_append, appendPairs, List.foldl_append]
  rfl

/-- The chain of some pairs stands for the pairs. -/
theorem simulates_ofPairs (r : Registry) :
    Decomposition.ofChains.Simulates (.ofPairs r) (ofPairs r) := by
  constructor
  · intro pairs
    induction pairs using List.reverseRecOn with
    | nil => rfl
    | append_singleton pairs pair ih =>
        have hrest : (ofPairs r pairs).segments = (Decomposition.ofPairs r).segments pairs := ih
        change (ofPairs r _).segments = List.map _ (pairs ++ [pair]).reverse
        rw [ofPairs_concat, segments_push, hrest, List.reverse_append]
        rfl
  · intro pairs
    induction pairs using List.reverseRecOn with
    | nil => rfl
    | append_singleton pairs pair _ =>
        change (ofPairs r _).previous? = Option.map (ofPairs r) (if _ then none else some _)
        rw [ofPairs_concat, previous?_push, if_neg (by simp), List.dropLast_concat]
        rfl

/-- A sequence of pairs and the chain made of it have the same segments, also after
any number of steps towards the root, and both come to their end after the same
number of steps. So comparers give them the same hash and find the same keys equal,
and a pattern captures the same values from them and gives them the same name. -/
theorem ofPairs_interchangeable (r : Registry) (pairs : Pairs) :
    Decomposition.ofChains.segments (ofPairs r pairs) = (Decomposition.ofPairs r).segments pairs ∧
      (∀ steps, (Decomposition.ofChains.back? steps (ofPairs r pairs)).map
          Decomposition.ofChains.segments =
        ((Decomposition.ofPairs r).back? steps pairs).map (Decomposition.ofPairs r).segments) ∧
      (∀ steps, Decomposition.ofChains.back? steps (ofPairs r pairs) =
        ((Decomposition.ofPairs r).back? steps pairs).map (ofPairs r)) ∧
      (∀ steps, (Decomposition.ofChains.back? steps (ofPairs r pairs) = none ↔
          pairs.length < steps) ∧
        ((Decomposition.ofPairs r).back? steps pairs = none ↔ pairs.length < steps)) ∧
      (∀ c : Comparer, c.hash? .ofChains (some (ofPairs r pairs)) =
          c.hash? (.ofPairs r) (some pairs) ∧
        ∀ other : Option Pairs,
          c.equal .ofChains (some (ofPairs r pairs)) (other.map (ofPairs r)) =
              c.equal (.ofPairs r) (some pairs) other ∧
            c.equal .ofChains (other.map (ofPairs r)) (some (ofPairs r pairs)) =
              c.equal (.ofPairs r) other (some pairs)) ∧
      ∀ p : Pattern, (∀ known, p.matchKey .ofChains (ofPairs r pairs) known =
          p.matchKey (.ofPairs r) pairs known) ∧
        p.nameOfKey .ofChains (ofPairs r pairs) = p.nameOfKey (.ofPairs r) pairs := by
  have hsimulates := simulates_ofPairs r
  have hback (steps : Nat) := hsimulates.back? steps pairs
  have hend (steps : Nat) := Decomposition.back?_ofPairs_eq_none_iff r steps pairs
  refine ⟨hsimulates.segments pairs, (hsimulates.map_segments_back? · pairs), hback, ?_, ?_, ?_⟩
  · intro steps
    refine ⟨?_, hend steps⟩
    rw [hback, Option.map_eq_none_iff, hend]
  · intro c
    refine ⟨hsimulates.hash? c (some pairs), fun other => ⟨?_, ?_⟩⟩
    · exact hsimulates.equal c (some pairs) other
    · exact hsimulates.equal c other (some pairs)
  · exact fun p => ⟨hsimulates.matchKey p pairs, hsimulates.nameOfKey p pairs⟩

end Chain

end KeyNaming
