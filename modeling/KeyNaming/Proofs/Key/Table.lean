import KeyNaming.Proofs.Entries
import KeyNaming.Proofs.Key.Equivalence
import KeyNaming.Workspace

/-!
Tables keyed by wrapped keys are maps modulo equivalence of keys.

A table finds entries by the hash first and by equivalence second. Since
equivalent keys have the same hash, it finds what equivalence alone would find,
and a sequence of uses can be followed on entries that are keyed by the bare
keys. The steps of a workspace use the tables of its comparers in this way.
-/

namespace KeyNaming

/-- A use of a table by a key, or by the lack of one. -/
inductive TableUse (K V : Type) where
  | put (key : Option K) (value : V)
  | lookup (key : Option K)

namespace TableUse

variable {K V : Type}

def key : TableUse K V → Option K
  | put key _ => key
  | lookup key => key

def isLookup : TableUse K V → Bool
  | put _ _ => false
  | lookup _ => true

def put? : TableUse K V → Option (Option K × V)
  | put key value => some (key, value)
  | lookup _ => none

/-- The keys and values that some uses put, in order. -/
def puts (uses : List (TableUse K V)) : List (Option K × V) := uses.filterMap put?

end TableUse

/-- A table, and the answers to the lookups so far. -/
structure TableRun (K V : Type) where
  table : Entries (Wrapped K) V := []
  answers : List (Option V) := []

namespace Comparer

variable {K V : Type} (c : Comparer) (d : Decomposition K)

/-- One use of a table. A key without a hash cannot be wrapped. -/
def useTable? (run : TableRun K V) (use : TableUse K V) : Option (TableRun K V) :=
  (c.wrap? d use.key).map fun key =>
    match use with
    | .put _ value => { run with table := run.table.put (Wrapped.same d) key value }
    | .lookup _ => { run with answers := run.answers ++ [run.table.get? (Wrapped.same d) key] }

/-- The uses of a table that is empty at first. -/
def runTable? (uses : List (TableUse K V)) : Option (TableRun K V) :=
  uses.foldlM (c.useTable? d) {}

/-- Keys that a comparer wrapped are the same if it finds them equivalent. -/
theorem same_eq_equal {x y : Wrapped K} (hx : c.wrap? d x.key = some x)
    (hy : c.wrap? d y.key = some y) : Wrapped.same d x y = c.equal d x.key y.key := by
  obtain ⟨hash, hhash, hx⟩ := Option.map_eq_some_iff.mp hx
  obtain ⟨hash', hhash', hy⟩ := Option.map_eq_some_iff.mp hy
  rw [← hx, ← hy]
  simp only [Wrapped.same, beq_self_eq_true, Bool.true_and]
  cases hequal : c.equal d x.key y.key with
  | false => rw [Bool.and_false]
  | true =>
      -- comparing the hashes first keeps no equivalent keys apart
      have hsame := c.hash?_eq_of_equal d hequal
      rw [hhash, hhash'] at hsame
      rw [Option.some.inj hsame, beq_self_eq_true, Bool.true_and]

/-- What a run of some uses has come to: the comparer wrapped every key, the
entries without the wrapping are those that the puts give, and each lookup
answered with what was put last before it. -/
structure Follows (uses : List (TableUse K V)) (run : TableRun K V) : Prop where
  wrapped : ∀ entry ∈ run.table, c.wrap? d entry.1.key = some entry.1
  table : run.table.map (Prod.map Wrapped.key id) =
    Entries.ofPuts (c.equal d) (TableUse.puts uses)
  answers : run.answers.length = uses.countP TableUse.isLookup
  found : ∀ before key after, uses = before ++ .lookup key :: after →
    run.answers[before.countP TableUse.isLookup]? =
      some (Entries.latest? (c.equal d) (TableUse.puts before) key)

/-- A place before the end of a list that is one longer is at its end or
already in the list. -/
theorem concat_eq_split {A : Type} {l before after : List A} {a b : A}
    (h : l ++ [a] = before ++ b :: after) :
    (l = before ∧ a = b ∧ after = []) ∨ ∃ rest, l = before ++ b :: rest := by
  rcases List.eq_nil_or_concat after with rfl | ⟨rest, last, rfl⟩
  · obtain ⟨hl, ha⟩ := List.append_inj' h rfl
    exact .inl ⟨hl, (List.cons.inj ha).1, rfl⟩
  · rw [List.concat_eq_append, ← List.cons_append, ← List.append_assoc] at h
    exact .inr ⟨rest, (List.append_inj' h rfl).1⟩

variable {c d}

theorem Follows.put {uses : List (TableUse K V)} {run : TableRun K V} (h : c.Follows d uses run)
    {w : Wrapped K} (hw : c.wrap? d w.key = some w) (value : V) :
    c.Follows d (uses ++ [.put w.key value])
      { run with table := run.table.put (Wrapped.same d) w value } := by
  have hputs : TableUse.puts (uses ++ [.put w.key value]) =
      TableUse.puts uses ++ [(w.key, value)] := List.filterMap_append
  constructor
  · intro entry hentry
    rcases Entries.mem_keys_put (List.mem_map_of_mem hentry) with hold | hnew
    · obtain ⟨old, hold, heq⟩ := List.mem_map.mp hold
      rw [← heq]
      exact h.wrapped old hold
    · rw [hnew]
      exact hw
  · rw [Entries.map_put Wrapped.key run.table w value
      fun entry hentry => c.same_eq_equal d (h.wrapped entry hentry) hw]
    rw [h.table, hputs, Entries.ofPuts_concat]
  · simp [h.answers, TableUse.isLookup]
  · intro before key after hsplit
    rcases concat_eq_split hsplit with ⟨_, hput, _⟩ | ⟨rest, hrest⟩
    · cases hput
    · exact h.found before key rest hrest

theorem Follows.lookup {uses : List (TableUse K V)} {run : TableRun K V} (h : c.Follows d uses run)
    {w : Wrapped K} (hw : c.wrap? d w.key = some w) :
    c.Follows d (uses ++ [.lookup w.key])
      { run with answers := run.answers ++ [run.table.get? (Wrapped.same d) w] } := by
  have hputs : TableUse.puts (uses ++ [.lookup w.key]) = TableUse.puts uses := by
    simp [TableUse.puts, TableUse.put?]
  have hfound : run.table.get? (Wrapped.same d) w =
      Entries.latest? (c.equal d) (TableUse.puts uses) w.key := by
    rw [← Entries.get?_ofPuts (c.equal_equivalence d), ← h.table]
    exact (Entries.get?_map Wrapped.key run.table w
      fun entry hentry => c.same_eq_equal d (h.wrapped entry hentry) hw).symm
  constructor
  · exact h.wrapped
  · rw [h.table, hputs]
  · simp [h.answers, TableUse.isLookup]
  · intro before key after hsplit
    rcases concat_eq_split hsplit with ⟨rfl, hkey, _⟩ | ⟨rest, hrest⟩
    · obtain rfl := TableUse.lookup.inj hkey
      rw [← h.answers, List.getElem?_concat_length, hfound]
    · have hold := h.found before key rest hrest
      obtain ⟨hlt, _⟩ := List.getElem?_eq_some_iff.mp hold
      rw [List.getElem?_append_left hlt]
      exact hold

/-- One use by a key with a hash takes the run on. -/
theorem Follows.use {uses : List (TableUse K V)} {run : TableRun K V} (h : c.Follows d uses run)
    (use : TableUse K V) (hhash : (c.hash? d use.key).isSome) :
    ∃ next, c.useTable? d run use = some next ∧ c.Follows d (uses ++ [use]) next := by
  obtain ⟨hash, hhash⟩ := Option.isSome_iff_exists.mp hhash
  have hwrap : c.wrap? d use.key = some ⟨c, use.key, hash⟩ := by rw [wrap?, hhash]; rfl
  rw [useTable?, hwrap]
  cases use with
  | put key value => exact ⟨_, rfl, h.put (w := ⟨c, key, hash⟩) hwrap value⟩
  | lookup key => exact ⟨_, rfl, h.lookup (w := ⟨c, key, hash⟩) hwrap⟩

theorem exists_runTable? {uses : List (TableUse K V)}
    (hhash : ∀ use ∈ uses, (c.hash? d use.key).isSome) :
    ∃ run, c.runTable? d uses = some run ∧ c.Follows d uses run := by
  -- what a use finds depends on all uses before it, so the last one is taken off
  induction uses using List.reverseRecOn with
  | nil =>
      refine ⟨{}, rfl, by simp, rfl, rfl, ?_⟩
      intro before key after hsplit
      cases before <;> cases hsplit
  | append_singleton uses use ih =>
      obtain ⟨run, hrun, hfollows⟩ := ih fun use huse => hhash use (List.mem_append_left _ huse)
      have huse : (c.hash? d use.key).isSome :=
        hhash use (List.mem_append_right uses (List.mem_singleton_self use))
      obtain ⟨next, hnext, hfollows⟩ := hfollows.use use huse
      refine ⟨next, ?_, hfollows⟩
      rw [runTable?, List.foldlM_append, ← runTable?, hrun]
      simp [hnext]

variable (c d)

/-- Keys, or the lack of them, up to equivalence. -/
def keySetoid : Setoid (Option K) := ⟨_, c.equal_equivalence d⟩

instance : DecidableEq (Quotient (c.keySetoid d)) :=
  @Quotient.decidableEq _ _ fun x y => inferInstanceAs (Decidable (c.equal d x y = true))

/-- A table keyed by wrapped keys answers each lookup with the value of the latest put
under an equivalent key, if there is one. It has as many entries as there are classes
of keys that were put, in the order in which the classes came first, each with its
latest value. -/
theorem runTable?_eq_map (uses : List (TableUse K V))
    (hhash : ∀ use ∈ uses, (c.hash? d use.key).isSome) :
    ∃ run, c.runTable? d uses = some run ∧
      run.answers.length = uses.countP TableUse.isLookup ∧
      (∀ before key after, uses = before ++ .lookup key :: after →
        run.answers[before.countP TableUse.isLookup]? =
          some (Entries.latest? (c.equal d) (TableUse.puts before) key)) ∧
      run.table.length = ((TableUse.puts uses).map fun entry =>
        Quotient.mk (c.keySetoid d) entry.1).toFinset.card ∧
      run.table.map (fun entry => (entry.1.key, some entry.2)) =
        (((TableUse.puts uses).map Prod.fst).eraseDupsBy (c.equal d)).map fun key =>
          (key, Entries.latest? (c.equal d) (TableUse.puts uses) key) := by
  obtain ⟨run, hrun, hfollows⟩ := exists_runTable? hhash
  have hequal := c.equal_equivalence d
  have hlength : run.table.length =
      (Entries.ofPuts (c.equal d) (TableUse.puts uses)).length := by
    rw [← hfollows.table, List.length_map]
  refine ⟨run, hrun, hfollows.answers, hfollows.found, ?_, ?_⟩
  · let _ : DecidableEq (Quotient ⟨_, hequal⟩) :=
      inferInstanceAs (DecidableEq (Quotient (c.keySetoid d)))
    exact hlength.trans (Entries.length_ofPuts hequal _)
  · rw [← Entries.ofPuts_eq_map hequal, ← hfollows.table, List.map_map]
    rfl

/-- Puts under two keys that name one resource and under none, with lookups
between and after them. -/
def sampleUses : List (TableUse Chain Nat) :=
  [.put (some sampleKeys.1) 1, .lookup none, .put none 2, .put (some sampleKeys.2) 3,
   .lookup (some sampleKeys.1)]

theorem runTable?_eq_map_sampleUses :
    (∀ use ∈ sampleUses, (({} : Comparer).hash? .ofChains use.key).isSome) ∧
      ∃ run, ({} : Comparer).runTable? .ofChains sampleUses = some run ∧
        run.answers[0]? = some none ∧ run.answers[1]? = some (some 3) ∧
        run.table.map (fun entry => some entry.2) = [some 3, some 2] := by
  have hhash : ∀ use ∈ sampleUses, (({} : Comparer).hash? .ofChains use.key).isSome := by
    decide +kernel
  obtain ⟨run, hrun, _, hfound, _, htable⟩ := runTable?_eq_map {} .ofChains sampleUses hhash
  refine ⟨hhash, run, hrun, ?_, ?_, ?_⟩
  · have hfirst := hfound [.put (some sampleKeys.1) 1] none _ rfl
    have hnone : Entries.latest? (({} : Comparer).equal Decomposition.ofChains)
        (TableUse.puts [TableUse.put (some sampleKeys.1) 1]) none = none := by
      decide +kernel
    rwa [hnone] at hfirst
  · have hlast := hfound [.put (some sampleKeys.1) 1, .lookup none, .put none 2,
      .put (some sampleKeys.2) 3] (some sampleKeys.1) [] rfl
    have hthree : Entries.latest? (({} : Comparer).equal Decomposition.ofChains)
        (TableUse.puts [.put (some sampleKeys.1) 1, .lookup none, .put none 2,
          .put (some sampleKeys.2) 3]) (some sampleKeys.1) = some 3 := by
      decide +kernel
    rwa [hthree] at hlast
  · have hvalues := congrArg (List.map Prod.snd) htable
    rw [List.map_map, List.map_map] at hvalues
    exact hvalues.trans (by decide +kernel)

end Comparer

/-! ## Tables of comparers with names -/

namespace Workspace

variable {V : Type} {w : Workspace V} {name : Text} {c : ComparerTable V}
  {key : Option Text} {k : Option NumberedChain} {answers : List (Option V)}
  {run : TableRun Chain V}

theorem wrapped_eq_ok {comparer : Comparer} {x : Wrapped Chain} (hkey : w.key? key = .ok k)
    (hx : comparer.wrap? .ofChains (k.map NumberedChain.chain) = some x) :
    w.wrapped comparer key = .ok x := by
  simp only [wrapped, hkey, bind, Except.bind]
  rw [hx]
  rfl

/-- A step that puts a value is a use of the table of its comparer. -/
theorem step_put {value : V} (hc : named w.comparers name = .ok c) (hkey : w.key? key = .ok k)
    (hrun : c.comparer.useTable? .ofChains ⟨c.table, answers⟩
      (.put (k.map NumberedChain.chain) value) = some run) :
    w.step (.put name key value) = .ok (.values run.table.values, { w with
      comparers := Entries.put (· == ·) name { c with table := run.table } w.comparers }) := by
  obtain ⟨x, hx, rfl⟩ := Option.map_eq_some_iff.mp hrun
  simp only [step, hc, wrapped_eq_ok hkey hx, bind, Except.bind]
  rfl

/-- A step that looks a value up answers as the table of its comparer. -/
theorem step_lookup (hc : named w.comparers name = .ok c) (hkey : w.key? key = .ok k)
    (hrun : c.comparer.useTable? .ofChains ⟨c.table, answers⟩
      (.lookup (k.map NumberedChain.chain)) = some run) :
    ∃ found, run = ⟨c.table, answers ++ [found]⟩ ∧
      w.step (.lookup name key) = .ok (.value found, w) := by
  obtain ⟨x, hx, rfl⟩ := Option.map_eq_some_iff.mp hrun
  refine ⟨_, rfl, ?_⟩
  simp only [step, hc, wrapped_eq_ok hkey hx, bind, Except.bind]
  rfl

end Workspace

end KeyNaming
