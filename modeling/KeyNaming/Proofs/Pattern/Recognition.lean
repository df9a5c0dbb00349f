import KeyNaming.Proofs.Pattern.Sharing
import KeyNaming.Proofs.Pattern.Tiling
import KeyNaming.Proofs.Pattern.Writing

/-!
Patterns recognise the names that they build.

A value gets into a name if the regular expression of its part matches it
alone, and the name is read with that expression inside of a longer one. If the
expression takes inside of each text what it takes alone, each value can be taken
where it stands, so the name is matched. Other things may stand against it: a line
feed in a value that was accepted without a look at it, flags that an expression was
given beside its source, and a value that was copied to a part that does not accept it.
-/

namespace KeyNaming

open Regex (Node Progress literals)

theorem Regex.matches_of_matches? {r : Regex} {t : Text} (h : r.matches? t = true) :
    r.toForm.Matches t := by
  obtain ⟨found, hfound⟩ := Option.isSome_iff_exists.mp h
  rw [fullMatch?, run_end_eq_find?] at hfound
  exact ⟨found, after_eq_nil_of_find? hfound⟩

/-- Any text without a line feed is matched by the expression for any value, if no flags
are given beside it. -/
theorem Regex.matches_of_anyValue {r : Regex} (hgiven : r.given.isNone = true)
    (hr : r.source = anyValueSource) {t : Text} (ht : CodePoint.ofChar '\n' ∉ t) :
    r.toForm.Matches t := by
  have hform : r.toForm = anyValue.toForm := by
    have hread := read_of_isNone hgiven
    rw [hr] at hread
    exact Except.ok.inj (hread.symm.trans anyValue.read_source)
  have hspells : anyValue.node.Spells {} t := by
    refine ⟨t, [], ⟨by decide, t.map fun c => [c], Nat.zero_le _, by simp, ?_, ?_⟩, rfl, ?_⟩
    · intro piece hpiece
      obtain ⟨c, hc, rfl⟩ := List.mem_map.mp hpiece
      refine ⟨[c], [], ⟨c, ?_, rfl⟩, rfl, rfl⟩
      have hne : c ≠ CodePoint.ofChar '\n' := fun h => ht (h ▸ hc)
      simpa [Atom.takes] using hne
    · rw [← List.flatMap_def, List.flatMap_singleton']
    · rw [List.append_nil]
  rw [hform]
  exact Node.exists_mem_ways_of_spells _ {} t hspells (.start t) [] (List.append_nil t).symm

/-- What a part accepts its expression matches, apart from a line feed in any
value. -/
theorem matches_of_accepts {c : Capture Occurrence} (hgiven : c.regex.given.isNone = true)
    {value : Text} (haccepts : c.accepts value = true)
    (hlines : c.regex.source = anyValueSource → CodePoint.ofChar '\n' ∉ value) :
    c.regex.toForm.Matches value := by
  rw [Capture.accepts, Bool.or_eq_true_iff, beq_iff_eq] at haccepts
  rcases haccepts with hsource | hmatches
  · exact Regex.matches_of_anyValue hgiven hsource (hlines hsource)
  · exact Regex.matches_of_matches? hmatches

section

variable {known : Prefilled} {names : List (Text × Nat)}

/-- The group of a capture spells a value between its separators. -/
theorem spells_nodes (c : Capture Occurrence) (i : Nat) {body : Node} {value : Text}
    (hbody : body.Spells {} value) :
    (Node.seq (c.nodes i body)).Spells {} (c.leading ++ value ++ c.trailing) := by
  rw [Capture.nodes, Node.spells_seq_append]
  refine ⟨c.leading, value ++ c.trailing, Regex.spells_literals _ rfl, ?_, List.append_assoc ..⟩
  exact ⟨value, c.trailing, hbody, Regex.spells_literals _ rfl, rfl⟩

/-- What a capture writes into a name, its part of the expression spells. -/
theorem spells_item (c : Capture Occurrence) (i : Nat) {body : Node} {value : Text}
    (hbody : body.Spells {} value) :
    (Node.seq (c.item (c.nodes i body)).nodes).Spells {} (c.leading ++ value ++ c.trailing) := by
  have hnodes := spells_nodes c i hbody
  rw [Capture.item]
  split
  · exact hnodes
  · refine ⟨c.leading ++ value ++ c.trailing, [], ⟨by decide, [c.leading ++ value ++ c.trailing],
      Nat.zero_le _, ?_, ?_, ?_⟩, rfl, (List.append_nil _).symm⟩
    · intro m hm
      obtain rfl := Option.some.inj hm
      exact .inr (Nat.le_refl 1)
    · intro piece hpiece
      rw [List.mem_singleton.mp hpiece]
      exact hnodes
    · rw [List.flatten_singleton]

/-- Groups of a part are not marked before the part takes its turn, if only groups of
parts in front of it can be: their numbers are above those. -/
theorem isFresh_shifted {earlier own : List Nat} {n i : Nat}
    (hnumbers : (earlier ++ own).Sublist (List.range' 1 n)) (hi : i ∈ own) {p : Progress}
    (hp : ∀ j ∉ earlier, p.IsFresh j) (k : Nat) :
    Regex.shifted i k ≠ i ∧ p.IsFresh (Regex.shifted i k) := by
  obtain ⟨_, _, hapart⟩ :=
    List.pairwise_append.mp (List.Pairwise.sublist hnumbers List.pairwise_lt_range')
  have hbelow (j : Nat) (hj : j ∈ earlier) : 0 < j ∧ j < i :=
    ⟨(List.mem_range'_1.mp (hnumbers.subset (List.mem_append_left _ hj))).1, hapart j hj i hi⟩
  have hpositive : 0 < i := (List.mem_range'_1.mp (hnumbers.subset (List.mem_append_right _ hi))).1
  have hshifted : Regex.shifted i k = 0 ∨ i < Regex.shifted i k := by
    rw [Regex.shifted]
    split <;> omega
  refine ⟨by omega, hp _ fun hj => ?_⟩
  have := hbelow _ hj
  omega

/-- What the group of a capture can take, it can take between its separators. -/
theorem exists_way_nodes (c : Capture Occurrence) {i : Nat} {body : Node} {fresh : Nat → Prop}
    {value : Text} (hbody : body.Gives fresh {} value) {p : Progress} {rest : Text}
    (hafter : p.position.after = c.leading ++ value ++ c.trailing ++ rest)
    (hp : ∀ j, fresh j → j ≠ i ∧ p.IsFresh j) :
    ∃ q ∈ (Node.seq (c.nodes i body)).ways {} p, q.position.after = rest := by
  simp only [List.append_assoc] at hafter
  let opened := (p.past c.leading (value ++ (c.trailing ++ rest))).openGroup i
  have hfresh (j : Nat) (hj : fresh j) : opened.IsFresh j :=
    ⟨(Progress.lookup_cons_of_ne (hp j hj).1 _ _).trans (hp j hj).2.1, (hp j hj).2.2⟩
  obtain ⟨r, hr, hrafter⟩ := hbody opened (c.trailing ++ rest) rfl hfresh
  refine ⟨(r.closeGroup i).past c.trailing rest, ?_, rfl⟩
  rw [Capture.nodes, Node.mem_ways_seq_append]
  refine ⟨_, (Regex.mem_ways_literals _ rfl _ _).mpr ⟨_, hafter, rfl⟩, ?_⟩
  rw [Node.seq_cons]
  exact List.mem_flatMap.mpr ⟨r.closeGroup i, List.mem_map_of_mem hr,
    (Regex.mem_ways_literals _ rfl _ _).mpr ⟨rest, hrafter, rfl⟩⟩

theorem mem_ways_item (c : Capture Occurrence) {nodes : List Node} {p q : Progress}
    (hq : q ∈ (Node.seq nodes).ways {} p) : q ∈ (Node.seq (c.item nodes).nodes).ways {} p := by
  cases hrequired : c.required with
  | true =>
      rw [Capture.item, hrequired]
      exact hq
  | false =>
      rw [ways_item_optional c hrequired]
      exact List.mem_append_left _ hq

/-- Whether a capture can take a value wherever the value stands. -/
def Capture.CanTake (c : Capture Occurrence) (value : Text) : Prop :=
  c.regex.isOutward = true ∧ c.regex.toForm.Matches value

/-- What a capture writes in front of other parts, its part of the expression can take, if
no group inside was marked. -/
theorem exists_way_item {c : Capture Occurrence} {i : Nat} {body : Node} (hheld : c.IsHeldBy i body)
    {value : Option Text} (hvalue : ∀ v ∈ Pattern.nonEmpty value, c.CanTake v) {parts : List Part}
    {values : List (Option Text)} {name : Text}
    (hname : nameOf (.capture c :: parts) (value :: values) = some name) {p : Progress}
    {rest : Text} (hafter : p.position.after = name ++ rest)
    (hp : ∀ k, Regex.shifted i k ≠ i ∧ p.IsFresh (Regex.shifted i k)) :
    ∃ others, nameOf parts values = some others ∧
      ∃ r ∈ (Node.seq (c.item (c.nodes i body)).nodes).ways {} p,
        r.position.after = others ++ rest := by
  obtain ⟨others, hothers, ⟨v, hv, rfl⟩ | ⟨hoptional, rfl⟩⟩ := exists_of_nameOf_capture hname
  · obtain ⟨houtward, hmatches⟩ := hvalue v hv
    rw [List.append_assoc] at hafter
    obtain ⟨r, hr, hrafter⟩ := exists_way_nodes c (hheld.gives houtward v hmatches) hafter (by
      rintro _ ⟨k, rfl⟩
      exact hp k)
    exact ⟨others, hothers, r, mem_ways_item c hr, hrafter⟩
  · refine ⟨name, hothers, p, ?_, hafter⟩
    rw [ways_item_optional c hoptional]
    exact List.mem_append_right _ (List.mem_singleton_self p)

/-- The name that parts write, their part of the expression can take wherever it stands,
if only groups of parts in front of them were marked. -/
theorem exists_way_nameOf {parts : List Part} {nodes : List (List Node)}
    (hmeans : List.Forall₂ (Part.Means [] names) parts nodes) {earlier : List Nat} {n : Nat}
    (hnumbers : (earlier ++ nodes.flatten.flatMap Node.groups).Sublist (List.range' 1 n))
    {values : List (Option Text)}
    (hvalues : ∀ entry ∈ (captureParts parts).zip values, ∀ value ∈ Pattern.nonEmpty entry.2,
      entry.1.CanTake value)
    {name : Text} (hname : nameOf parts values = some name) {p : Progress} {rest : Text}
    (hafter : p.position.after = name ++ rest) (hp : ∀ j ∉ earlier, p.IsFresh j) :
    ∃ q ∈ (Node.seq nodes.flatten).ways {} p, q.position.after = rest := by
  induction hmeans generalizing earlier values name p with
  | nil =>
      obtain rfl := Option.some.inj hname
      exact ⟨p, List.mem_singleton_self p, hafter⟩
  | @cons part first parts nodes hmeans _ ih =>
      simp only [List.flatten_cons, Node.mem_ways_seq_append]
      rw [List.flatten_cons, List.flatMap_append, ← List.append_assoc] at hnumbers
      -- what is written first is taken first, and marks no group of the others
      have hfresh {r : Progress} (hr : r ∈ (Node.seq first).ways {} p) :
          ∀ j ∉ earlier ++ first.flatMap Node.groups, r.IsFresh j := by
        intro j hj
        rw [List.mem_append, not_or, ← Node.groups_seq] at hj
        exact (Node.keeps_of_mem_ways hj.2 hr).isFresh (hp j hj.1)
      cases hmeans with
      | literal written text =>
          rw [nameOf] at hname
          obtain ⟨others, hothers, rfl⟩ := Option.map_eq_some_iff.mp hname
          rw [List.append_assoc] at hafter
          have hr : p.past text (others ++ rest) ∈ (Node.seq (literals text)).ways {} p :=
            (Regex.mem_ways_literals _ rfl _ _).mpr ⟨_, hafter, rfl⟩
          obtain ⟨q, hq, hqafter⟩ := ih hnumbers hvalues hothers rfl (hfresh hr)
          exact ⟨q, ⟨_, hr, hq⟩, hqafter⟩
      | given c hvalue => cases hvalue
      | @group c i body _ _ hheld =>
          cases values with
          | nil => cases hname
          | cons value values =>
              rw [captureParts_capture, List.zip_cons_cons, List.forall_mem_cons] at hvalues
              obtain ⟨others, hothers, r, hr, hrafter⟩ := exists_way_item hheld hvalues.1 hname
                hafter (isFresh_shifted ((List.sublist_append_left _ _).trans hnumbers)
                  (mem_groups_item c i body) hp)
              obtain ⟨q, hq, hqafter⟩ := ih hnumbers hvalues.2 hothers hrafter (hfresh hr)
              exact ⟨q, ⟨r, hr, hq⟩, hqafter⟩

end

namespace Pattern

variable {K : Type} (d : Decomposition K) (key : K)

/-- What is captured from a key is accepted, unless it was copied. -/
theorem accepts_of_matchKey {p : Pattern} {entry : Capture Occurrence × Slot}
    (hentry : entry ∈ (p.matchKey d key []).entries) (hcopied : entry.2.copied = false)
    {value : Text} (hvalue : value ∈ entry.2.value) : entry.1.accepts value = true := by
  rw [matchKey, matchSegments, Match.entries_share] at hentry
  obtain ⟨c, _, rfl⟩ := List.mem_map.mp hentry
  rw [Match.sharedSlot_eq_of_not_copied hcopied] at hvalue
  exact (Capture.mem_candidates_of_fromSegments hvalue).2

/-- Whether a part takes a value again that it wrote into a name: its expression takes
inside of each text what it takes alone, and matches the value, whether the value was
copied or accepted as any value. -/
structure IsRetaken (entry : Capture Occurrence × Slot) (value : Text) : Prop where
  outward : entry.1.regex.isOutward = true
  accepted : entry.2.copied = true → entry.1.accepts value = true
  unbroken : entry.1.regex.source = anyValueSource → CodePoint.ofChar '\n' ∉ value

instance (entry : Capture Occurrence × Slot) (value : Text) : Decidable (IsRetaken entry value) :=
  decidable_of_iff (entry.1.regex.isOutward = true ∧
      (entry.2.copied = true → entry.1.accepts value = true) ∧
      (entry.1.regex.source = anyValueSource → CodePoint.ofChar '\n' ∉ value))
    ⟨fun ⟨houtward, haccepted, hunbroken⟩ => ⟨houtward, haccepted, hunbroken⟩,
      fun ⟨houtward, haccepted, hunbroken⟩ => ⟨houtward, haccepted, hunbroken⟩⟩

/-- A pattern recognises the names that it builds, if its parts take the values again
that they write, and the other ones have expressions that can be read without the flags
that are given beside them. -/
theorem recognises_nameOfKey {r : Registry} {template : Text} {p : Pattern}
    (hp : Pattern.compile r template = .ok p) (hparts : p.IsEmbeddable [])
    (hretaken : ∀ entry ∈ (p.matchKey d key []).entries, ∀ value ∈ nonEmpty entry.2.value,
      IsRetaken entry value)
    {name : Text} (hname : p.nameOfKey d key = some name) :
    (p.regex.fullMatch? name).isSome = true := by
  have hexpression : p.expression [] = .ok p.regex := rfl
  obtain ⟨nodes, hmeans, hflags, hnode⟩ := exists_nodes_of_expression hp hparts hexpression
  obtain ⟨n, hnumbers⟩ : ∃ n,
      ([] ++ nodes.flatten.flatMap Node.groups).Sublist (List.range' 1 n) :=
    Regex.exists_sublist_groups_anchored hnode
  have hvalues : ∀ entry ∈ p.captures.zip (p.matchKey d key []).values,
      ∀ value ∈ nonEmpty entry.2, entry.1.CanTake value := by
    intro entry hentry value hvalue
    obtain ⟨slot, hslot, hslotValue⟩ : ∃ slot, (entry.1, slot) ∈ (p.matchKey d key []).entries ∧
        slot.value = entry.2 := by
      rw [Match.values, List.zip_map_right] at hentry
      obtain ⟨⟨c, slot⟩, hmem, rfl⟩ := List.mem_map.mp hentry
      exact ⟨slot, hmem, rfl⟩
    rw [← hslotValue] at hvalue
    have hentry := hretaken _ hslot value hvalue
    have haccepts : entry.1.accepts value = true := by
      cases hcase : slot.copied with
      | true => exact hentry.accepted hcase
      | false => exact accepts_of_matchKey d key hslot hcase (eq_some_of_nonEmpty hvalue)
    exact ⟨hentry.outward, matches_of_accepts (Regex.isNone_of_isOutward hentry.outward) haccepts
      hentry.unbroken⟩
  have hwritten : nameOf p.parts (p.matchKey d key []).values = some name := by
    rw [nameOfKey, build] at hname
    split at hname
    · cases hname
    · exact hname
  obtain ⟨q, hq, hend⟩ := exists_way_nameOf hmeans hnumbers hvalues hwritten
    (p := .start name) (List.append_nil name).symm fun j _ => Progress.isFresh_start name j
  rw [Regex.fullMatch?_anchored hflags hnode, List.find?_isSome]
  exact ⟨q, hq, List.isEmpty_iff.mpr hend⟩

/-- An expression that has to backtrack inside of a value, looks ahead and takes once
more by its name what it took. -/
theorem recognises_nameOfKey_backtracking :
    ∃ p, Pattern.compile defaultRegistry
        "\x7bCulture.\x7d[Type:]\x7bKey<(?P\\<stem\\>a|ab)(?=b(?=a|b))b*(?P=stem)?>\x7db" =
          .ok p ∧
      p.nameOfKey (.ofPairs defaultRegistry) [("type", some "Ui"), ("key", some "abba")] =
        some "Ui:abbab" ∧
      (p.regex.fullMatch? "Ui:abbab").isSome = true := by
  obtain ⟨p, hp, hproperty⟩ := exists_of_compile_any defaultRegistry
    "\x7bCulture.\x7d[Type:]\x7bKey<(?P\\<stem\\>a|ab)(?=b(?=a|b))b*(?P=stem)?>\x7db"
    (fun p => decide (p.IsEmbeddable [] ∧
      (∀ entry ∈ (p.matchKey (.ofPairs defaultRegistry)
        [("type", some "Ui"), ("key", some "abba")] []).entries,
          ∀ value ∈ nonEmpty entry.2.value, IsRetaken entry value) ∧
      p.nameOfKey (.ofPairs defaultRegistry) [("type", some "Ui"), ("key", some "abba")] =
        some "Ui:abbab"))
    (by decide +kernel)
  obtain ⟨hparts, hretaken, hname⟩ := of_decide_eq_true hproperty
  exact ⟨p, hp, hname, recognises_nameOfKey _ _ hp hparts hretaken hname⟩

/-- Whether a pattern does not recognise the name that it builds for a key. -/
def IsUnrecognised (template : Text) (key : Pairs) (r : Registry := defaultRegistry) : Prop :=
  ∃ p name, Pattern.compile r template = .ok p ∧
    p.nameOfKey (.ofPairs r) key = some name ∧ p.regex.fullMatch? name = none

theorem isUnrecognised_of_any {template : Text} {key : Pairs} {r : Registry}
    (h : (Pattern.compile r template).toOption.any (fun p =>
      (p.nameOfKey (.ofPairs r) key).any fun name => (p.regex.fullMatch? name).isNone) = true) :
    IsUnrecognised template key r := by
  obtain ⟨p, hp, hproperty⟩ := exists_of_compile_any r template _ h
  obtain ⟨name, hname, hnone⟩ := (Option.any_eq_true _ _).mp hproperty
  exact ⟨p, name, hp, hname, Option.isNone_iff_eq_none.mp hnone⟩

/-- A registry where keys are words of letters, be they capital or not. -/
def caselessRegistry : Registry :=
  ({} : Registry).withInfo
    { name := "key", classification := .canonical
      pattern := regexOf "[a-z]+" { ignoreCase := true } }

/-- What stands against recognising a name: a line feed, a value copied to a
part that rejects it, flags beside an expression, an anchor inside, a look at what is not
there, a look for what is captured or for an anchor, a reference or a condition by a number
that is another one in the longer expression, and parts that keep what they took. -/
theorem not_recognises_nameOfKey :
    IsUnrecognised "\x7bKey\x7d" [("key", some "a\nb")] ∧
      IsUnrecognised "\x7bKey_0<a>\x7d\x7bKey_n<b>\x7d" [("key", some "a")] ∧
      IsUnrecognised "\x7bKey\x7d" [("key", some "ABC")] caselessRegistry ∧
      IsUnrecognised "x\x7bKey<(?:^a)>\x7d" [("key", some "a")] ∧
      IsUnrecognised "\x7bKey<(?:a$)>\x7db" [("key", some "a")] ∧
      IsUnrecognised "x\x7bKey<\\Aa>\x7d" [("key", some "a")] ∧
      IsUnrecognised "\x7bKey<a\\Z>\x7db" [("key", some "a")] ∧
      IsUnrecognised "\x7bKey<a\\b>\x7db" [("key", some "a")] ∧
      IsUnrecognised "\x7bKey<-\\B>\x7db" [("key", some "-")] ∧
      IsUnrecognised "\x7bKey<a(?!b)>\x7db" [("key", some "a")] ∧
      IsUnrecognised "x\x7bKey<(?\\<!x)a>\x7d" [("key", some "a")] ∧
      IsUnrecognised "\x7bKey<(?=(?P\\<n\\>a*))(?P=n)>\x7da" [("key", some "a")] ∧
      IsUnrecognised "\x7bKey<(?=a$)a>\x7db" [("key", some "a")] ∧
      IsUnrecognised "\x7bKey<(?=a(?!b))a>\x7db" [("key", some "a")] ∧
      IsUnrecognised "[Type:]\x7bKey<(a)\\1>\x7d" [("type", some "t"), ("key", some "aa")] ∧
      IsUnrecognised "[Type:]\x7bKey<(a)?(?(1)b|c)>\x7d"
        [("type", some "t"), ("key", some "c")] ∧
      IsUnrecognised "\x7bKey<(?\\>a*)>\x7da" [("key", some "a")] ∧
      IsUnrecognised "\x7bKey<a*+>\x7da" [("key", some "a")] := by
  and_intros <;> exact isUnrecognised_of_any (by decide +kernel)

end Pattern

end KeyNaming
