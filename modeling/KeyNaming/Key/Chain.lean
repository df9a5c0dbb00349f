import KeyNaming.Key.Registry

/-!
Keys as chains of segments.

A key is a chain of nodes from its head back to a root. A node with a name is a
segment; a node without one is structural, and a root is such a node. Adding a
segment leaves the chain it is added to as it is.
-/

namespace KeyNaming

structure Segment where
  name : Text
  value : Option Text
  classification : Classification
deriving DecidableEq

/-- A node of a chain. A node without a name takes no part in comparisons. -/
structure ChainNode where
  name : Option Text
  value : Option Text
  classification : Classification
  structural : name = none → classification = .unclassified

/-- A key: its head, and the nodes behind it, the closest first. -/
structure Chain where
  head : ChainNode
  behind : List ChainNode

namespace ChainNode

/-- The node that starts a chain. -/
def root : ChainNode :=
  ⟨none, none, .unclassified, fun _ => rfl⟩

def ofSegment (s : Segment) : ChainNode :=
  ⟨some s.name, s.value, s.classification, fun h => by cases h⟩

/-- The node with the given fields, unless it is classified without a name. -/
def make? (name value : Option Text) (classification : Classification) : Option ChainNode :=
  if h : name = none → classification = .unclassified then
    some ⟨name, value, classification, h⟩
  else none

def segment? (n : ChainNode) : Option Segment :=
  n.name.map fun name => ⟨name, n.value, n.classification⟩

/-- The node of a name and a value as a registry classifies it. -/
def ofPair (r : Registry) : Option Text × Option Text → ChainNode
  | (some name, value) => ofSegment ⟨name, value, r.classify (some name)⟩
  | (none, value) => ⟨none, value, .unclassified, fun _ => rfl⟩

end ChainNode

namespace Chain

/-- A new chain without segments. -/
def root : Chain := ⟨ChainNode.root, []⟩

/-- The nodes from the head to the root. -/
def nodes (c : Chain) : List ChainNode := c.head :: c.behind

def previous? (c : Chain) : Option Chain :=
  match c.behind with
  | [] => none
  | n :: rest => some ⟨n, rest⟩

def push (c : Chain) (n : ChainNode) : Chain := ⟨n, c.nodes⟩

def append (c : Chain) (name : Text) (value : Option Text) (classification : Classification) :
    Chain :=
  c.push (.ofSegment ⟨name, value, classification⟩)

/-- A chain with a node for each pair, the first pair closest to the root. -/
def appendPairs (r : Registry) (c : Chain) (pairs : List (Option Text × Option Text)) : Chain :=
  pairs.foldl (fun c pair => c.push (.ofPair r pair)) c

/-- The segments from the head to the root. -/
def segments (c : Chain) : List Segment := c.nodes.filterMap ChainNode.segment?

theorem segments_appendPairs (r : Registry) (root : Chain) (pairs : List (Text × Text)) :
    (root.appendPairs r (pairs.map fun (name, value) => (some name, some value))).segments =
      (pairs.map fun (name, value) => ⟨name, some value, r.classify (some name)⟩).reverse ++
        root.segments := by
  induction pairs generalizing root with
  | nil => rfl
  | cons pair rest ih =>
      rw [List.map_cons, List.map_cons, List.reverse_cons, List.append_assoc]
      exact ih _

/-- The segments from the root to the head. -/
def segmentsFromRoot (c : Chain) : List Segment := c.segments.reverse

/-- The names and values from the root to the head. -/
def parameters (c : Chain) : List (Text × Option Text) :=
  c.segmentsFromRoot.map fun s => (s.name, s.value)

def isRoot (c : Chain) : Bool := c.head.name.isNone

/-- The value of the segment with a name that is closest to the head, or a
default where there is no such segment. -/
def get (c : Chain) (name : Text) (default : Option Text) : Option Text :=
  match c.segments.find? fun s => s.name.lower == name.lower with
  | some s => s.value
  | none => default

end Chain

end KeyNaming
