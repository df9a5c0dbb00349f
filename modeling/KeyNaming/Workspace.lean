import KeyNaming.Failure

/-!
Named keys, patterns and comparers that are worked on step by step.

Keys grow from other keys and share the nodes behind their heads. Every node
has a serial number, so it can be told whether two names stand for one and the
same node. A comparer comes with a table of values of some type by wrapped key.
A step that fails changes nothing.
-/

namespace KeyNaming

/-- A key with the serial numbers of its nodes, head first. -/
structure NumberedChain where
  chain : Chain
  serials : List Nat

/-- A comparer with its table. -/
structure ComparerTable (V : Type) where
  comparer : Comparer
  table : Entries (Wrapped Chain) V := []

/-- Everything that has a name. -/
structure Workspace (V : Type) where
  registry : Registry
  parseLocale : LocaleParser
  keys : Entries Text NumberedChain := []
  patterns : Entries Text Pattern := []
  comparers : Entries Text (ComparerTable V) := []
  /-- The next serial number of a node or a comparer. -/
  next : Nat := 0

/-- What a node is put on: the key of a name, no key, or a value of some kind
that is no key. -/
inductive NodeBase where
  | key (name : Option Text)
  | value (kind : Text)

/-- How a new key is made. A base of `none` is no key at all; classifications
are given by their written forms. -/
inductive KeyMaking where
  | root
  | append (base : Option Text) (name value : Option Text) (classification : Option Text)
  | node (base : NodeBase) (name value : Option Text) (classification : Text)
  | culture (base : Option Text) (code : Text)
  | pairs (base : Option Text) (pairs : List (Option Text × Option Text))
  | readKey (base : Option Text) (text : Text)
  | readName (base : Option Text) (pattern name : Text)
  | matchName (base : Option Text) (pattern name : Text) (known : Prefilled)

/-- One step of work. -/
inductive Step (V : Type) where
  | make (target : Text) (making : KeyMaking)
  | previous (target : Text) (key : Option Text)
  | compile (target template : Text)
  | comparer (target : Text) (ignored : List Text)
  | name (pattern : Text) (key : Option Text)
  | matchKey (pattern : Text) (key : Option Text) (known : Prefilled)
  | matchText (pattern name : Text) (known : Prefilled)
  | regex (pattern : Text) (known : Prefilled)
  | get (key : Option Text) (name : Text) (default : Option Text)
  | format (key : Option Text)
  | parameters (key : Option Text)
  | same (x y : Option Text)
  | equal (comparer : Text) (x y : Option Text)
  | hash (comparer : Text) (key : Option Text)
  | put (comparer : Text) (key : Option Text) (value : V)
  | lookup (comparer : Text) (key : Option Text)

/-- What a step answers. -/
inductive StepAnswer (V : Type) where
  | key (c : Chain)
  | nothing
  | captures (identifiers : List Text)
  | ignored (names : List Text)
  | values (values : List V)
  | value (v : Option V)
  | text (t : Option Text)
  | found (m : Match)
  | source (t : Text)
  | parameters (pairs : List (Text × Option Text))
  | truth (b : Bool)
  | hash (h : UInt32)

namespace Workspace

variable {V : Type}

/-- What has a name. -/
def named {A : Type} (entries : Entries Text A) (name : Text) : Except Failure A :=
  match Entries.get? (· == ·) name entries with
  | some v => .ok v
  | none => .error .unknownName

def key? (w : Workspace V) : Option Text → Except Failure (Option NumberedChain)
  | none => .ok none
  | some name => (named w.keys name).map some

def key (w : Workspace V) (name : Option Text) : Except Failure NumberedChain := do
  match ← w.key? name with
  | some k => pure k
  | none => .error .missingKey

/-- The chain of a key, or a new chain. -/
def chainOr (base : Option NumberedChain) : Chain :=
  (base.map NumberedChain.chain).getD Chain.root

/-- Numbers the nodes that a chain has beyond those of its base. -/
def numbered (w : Workspace V) (base : Option NumberedChain) (c : Chain) : NumberedChain :=
  let known := (base.map NumberedChain.serials).getD []
  ⟨c, (List.range' w.next (c.nodes.length - known.length)).reverse ++ known⟩

def storeKey (w : Workspace V) (target : Text) (k : NumberedChain) : Workspace V :=
  { w with
    keys := Entries.put (· == ·) target k w.keys
    next := w.next + k.serials.length }

/-- A node on top of a base, or a chain of its own where there is none. -/
def nodeOn (base : Option NumberedChain) (name value : Option Text)
    (classification : Classification) : Except Failure Chain :=
  match ChainNode.make? name value classification with
  | none => .error .classifiedWithoutName
  | some n =>
    match base with
    | some k => .ok (k.chain.push n)
    | none => .ok ⟨n, []⟩

/-- The base of a new key, and its chain. -/
def make (w : Workspace V) : KeyMaking → Except Failure (Option NumberedChain × Chain)
  | .root => .ok (none, Chain.root)
  | .append base name value classification => do
    let k ← w.key base
    let classification ← classification.mapM Classification.ofWord
    let c ← k.chain.appendNode w.registry name value classification
    pure (some k, c)
  | .node (.value kind) _ _ classification => do
    let _ ← Classification.ofWord classification
    .error (.notAChain kind)
  | .node (.key base) name value classification => do
    let k? ← w.key? base
    let classification ← Classification.ofWord classification
    let c ← nodeOn k? name value classification
    pure (k?, c)
  | .culture base code => do
    let k ← w.key base
    match k.chain.appendCulture w.registry w.parseLocale code with
    | .ok c => pure (some k, c)
    | .error d => .error (.culture d)
  | .pairs base pairs => do
    let k? ← w.key? base
    pure (k?, (chainOr k?).appendPairs w.registry pairs)
  | .readKey base text => do
    let k? ← w.key? base
    let c ← ((chainOr k?).read w.registry text).mapError (.key text)
    pure (k?, c)
  | .readName base pattern name => do
    let p ← named w.patterns pattern
    let k? ← w.key? base
    let c ← p.parse name (chainOr k?) p.registry
    pure (k?, c)
  | .matchName base pattern name known => do
    let p ← named w.patterns pattern
    let k? ← w.key? base
    let m ← (p.matchText name known).mapError (.regex (p.source known .all))
    pure (k?, m.toKey w.registry (chainOr k?))

/-- Whether two names stand for one and the same node, or both for none. -/
def isSame : Option NumberedChain → Option NumberedChain → Bool
  | none, none => true
  | some x, some y => x.serials.head? == y.serials.head?
  | _, _ => false

def wrapped (w : Workspace V) (c : Comparer) (key : Option Text) :
    Except Failure (Wrapped Chain) := do
  let k? ← w.key? key
  match c.wrap? .ofChains (k?.map NumberedChain.chain) with
  | some x => pure x
  | none => .error .noHash

def step (w : Workspace V) : Step V → Except Failure (StepAnswer V × Workspace V)
  | .make target making => do
    let (base, c) ← w.make making
    pure (.key c, w.storeKey target (w.numbered base c))
  | .previous target key => do
    let k ← w.key key
    match k.chain.previous? with
    | none => pure (.nothing, w)
    | some c => pure (.key c, w.storeKey target ⟨c, k.serials.tail⟩)
  | .compile target template => do
    let p ← Pattern.ofTemplate w.registry template
    pure (.captures p.identifiers,
      { w with patterns := Entries.put (· == ·) target p w.patterns })
  | .comparer target ignored =>
    let c := Comparer.ignoring ignored w.next
    .ok (.ignored c.ignoredNames,
      { w with
        comparers := Entries.put (· == ·) target { comparer := c } w.comparers
        next := w.next + 1 })
  | .name pattern key => do
    let p ← named w.patterns pattern
    let k ← w.key key
    pure (.text (p.nameOfKey .ofChains k.chain), w)
  | .matchKey pattern key known => do
    let p ← named w.patterns pattern
    let k ← w.key key
    pure (.found (p.matchKey .ofChains k.chain known), w)
  | .matchText pattern name known => do
    let p ← named w.patterns pattern
    let m ← (p.matchText name known).mapError (.regex (p.source known .all))
    pure (.found m, w)
  | .regex pattern known => do
    let p ← named w.patterns pattern
    let r ← (p.regexWith known).mapError (.regex (p.source known .all))
    pure (.source r.source, w)
  | .get key name default => do
    let k ← w.key key
    pure (.text (k.chain.get name default), w)
  | .format key => do
    let k ← w.key key
    pure (.text (some k.chain.format), w)
  | .parameters key => do
    let k ← w.key key
    pure (.parameters k.chain.parameters, w)
  | .same x y => do
    let x ← w.key? x
    let y ← w.key? y
    pure (.truth (isSame x y), w)
  | .equal comparer x y => do
    let c ← named w.comparers comparer
    let x ← w.key? x
    let y ← w.key? y
    pure (.truth (c.comparer.equal .ofChains (x.map NumberedChain.chain)
      (y.map NumberedChain.chain)), w)
  | .hash comparer key => do
    let c ← named w.comparers comparer
    let k ← w.wrapped c.comparer key
    pure (.hash k.hash, w)
  | .put comparer key value => do
    let c ← named w.comparers comparer
    let k ← w.wrapped c.comparer key
    let table := Entries.put (Wrapped.same .ofChains) k value c.table
    pure (.values (Entries.values table),
      { w with comparers := Entries.put (· == ·) comparer { c with table } w.comparers })
  | .lookup comparer key => do
    let c ← named w.comparers comparer
    let k ← w.wrapped c.comparer key
    pure (.value (Entries.get? (Wrapped.same .ofChains) k c.table), w)

end Workspace

end KeyNaming
