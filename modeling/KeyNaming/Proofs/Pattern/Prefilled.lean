import KeyNaming.Proofs.Pattern.Assembly
import KeyNaming.Proofs.Pattern.Compilation
import KeyNaming.Proofs.Pattern.Rebinding

/-!
Matching names where values are known beforehand.

The expression for known values is read again from its pieces. It can be
rejected, as for a reference by number to a group that went with a known value,
and then no part has a value. Little else can stop the matching: an expression
that is nested too deep, or one of the registry that is no expression without
its flags. Where all values are known nothing but literal text is left, and the one name that it
matches is the name that is built from the values.
-/

namespace KeyNaming

open Regex (Node Progress literals)

/-! ## Where all values are known -/

section

variable {known : Prefilled}

/-- The name for known values is what the parts cover with them. -/
theorem nameOf_of_known {parts : List Part}
    (hknown : ∀ c ∈ captureParts parts, ∃ v ∈ known.value? c.identifier, v ≠ []) :
    nameOf parts ((captureParts parts).map fun c => known.value? c.identifier) =
      some (parts.flatMap (Part.covered known fun _ => none)) := by
  induction parts with
  | nil => rfl
  | cons part rest ih =>
      cases part with
      | literal written text =>
          rw [captureParts_literal, nameOf, ih hknown]
          rfl
      | capture c =>
          rw [captureParts_capture, List.forall_mem_cons] at hknown
          obtain ⟨⟨v, hv, hne⟩, hrest⟩ := hknown
          have hvalue : known.value? c.identifier = some v := hv
          have hsome : Pattern.nonEmpty (known.value? c.identifier) = some v := by
            rw [hvalue]
            exact Pattern.nonEmpty_of_ne fun h => hne (Option.some.inj h)
          rw [captureParts_capture, List.map_cons, List.flatMap_cons, nameOf_capture, hsome,
            ih hrest, Part.covered, hvalue, Option.isNone_some, Bool.and_false]
          rfl

/-- Parts with known values become literal text. -/
theorem flatten_of_known {names : List (Text × Nat)} {parts : List Part} {nodes : List (List Node)}
    (hbecomes : List.Forall₂ (Part.Becomes known names) parts nodes)
    (hknown : ∀ c ∈ captureParts parts, known.value? c.identifier ≠ none) :
    nodes.flatten = literals (parts.flatMap (Part.covered known fun _ => none)) := by
  induction hbecomes with
  | nil => rfl
  | cons hpart _ ih =>
      have happend (s t : Text) : literals (s ++ t) = literals s ++ literals t := List.map_append
      rw [List.flatten_cons, List.flatMap_cons, happend]
      cases hpart with
      | literal written text => rw [ih hknown, Part.covered]
      | given c hvalue =>
          rw [ih fun c hc => hknown c (List.mem_cons_of_mem _ hc), Part.covered, hvalue]
      | group c hvalue _ _ => exact absurd hvalue (hknown c List.mem_cons_self)

/-- An expression of literal text between anchors matches that text alone. -/
theorem Regex.matches?_literals {regex : Regex} {text : Text} (hflags : regex.flags = {})
    (hnode : regex.node = Node.seq (.atom (.anchor .lineStart) ::
      (literals text ++ [.atom (.anchor .lineEnd)]))) (t : Text) :
    regex.matches? t = true ↔ t = text := by
  rw [Regex.matches?, Regex.fullMatch?_anchored hflags hnode]
  constructor
  · intro h
    obtain ⟨q, hq⟩ := Option.isSome_iff_exists.mp h
    obtain ⟨hmem, hend⟩ := Regex.after_eq_nil_of_find? hq
    obtain ⟨rest, hafter, rfl⟩ := (Regex.mem_ways_literals text rfl _ _).mp hmem
    obtain rfl : rest = [] := hend
    rw [List.append_nil] at hafter
    exact hafter
  · rintro rfl
    rw [Regex.ways_literals rfl (List.append_nil t).symm]
    rfl

/-- Known values are captured as they are, and none is shared. -/
theorem Pattern.captured_of_known {p : Pattern}
    (hknown : ∀ c ∈ p.captures, known.value? c.identifier ≠ none) (regex : Regex)
    (found : Progress) :
    p.captured known regex found =
      ⟨p, p.captures.map fun c => { value := known.value? c.identifier }⟩ := by
  have hvalue (c : Capture Occurrence) (hc : c ∈ p.captures) (other : Option Text) :
      (known.value? c.identifier).or other = known.value? c.identifier := by
    obtain ⟨v, hv⟩ := Option.ne_none_iff_exists'.mp (hknown c hc)
    rw [hv, Option.some_or]
  rw [captured, List.map_congr_left fun c hc => by rw [hvalue c hc], Match.share_eq_self]
  intro c hc _ hnone
  exact absurd hnone (hknown c hc)

end

namespace Pattern

section

variable {r : Registry} {template : Text} {p : Pattern} (hp : Pattern.compile r template = .ok p)
include hp

/-- Where the expressions of the parts that are not known are read alike
everywhere, the expression for what is known can be read. -/
theorem exists_expression (known : Prefilled)
    (hbodies : ∀ c ∈ p.captures, known.value? c.identifier = none →
      ∃ body : Node, body.isRegular = true ∧ c.regex.IsReadAs body) :
    ∃ regex nodes, p.expression known = .ok regex ∧
      List.Forall₂ (Part.Becomes known regex.groupNames) p.parts nodes ∧ regex.flags = {} ∧
      regex.node = Node.seq (.atom (.anchor .lineStart) ::
        (nodes.flatten ++ [.atom (.anchor .lineEnd)])) := by
  obtain ⟨form, nodes, hread, hform⟩ := exists_read_regexSource (isNamed_of_compile hp)
    (fun c hc => hbodies c ((mem_captureParts p.parts c).mpr hc)) (nodup_identifiers hp)
  refine ⟨{ form with source := _, read_source := hread }, nodes, ?_, hform⟩
  rw [expression_eq_regexWith hp, regexWith, source, Regex.compile_of_read hread]

/-- With the whole stack, the expression for known values is read or rejected, if the
expressions of the parts that are not known can be read without the flags that are given
beside them. -/
theorem isRejected_of_regexWith {known : Prefilled} (hparts : p.IsEmbeddable known)
    {e : Regex.Error} (he : p.regexWith known = .error e) : e.isRejected = true :=
  (isMild_compile_regexSource known (isPlaced_of_compile hp hparts)).error he

end

theorem regexWith_eq (p : Pattern) (known : Prefilled) (exhausts : Text → Bool) :
    p.regexWith known exhausts =
      if exhausts (p.source known .all) then .error .tooDeep else p.regexWith known :=
  Regex.compile_eq _ _ _

theorem isFull_matchWith (p : Pattern) (known : Prefilled) (regex : Regex) (name : Text) :
    (p.matchWith known regex name).pattern = p ∧ (p.matchWith known regex name).IsFull := by
  rw [matchWith]
  cases regex.fullMatch? name with
  | none => exact ⟨rfl, Match.isFull_map p _⟩
  | some found => exact ⟨rfl, Match.isFull_share (Match.isFull_map p _)⟩

/-- Whatever the name and the values known beforehand, there is a match of the pattern
with one slot for each capture. No part has a value if the expression for the known values
is rejected. There is no match only where this expression is stopped by something else:
where it is nested too deep, or some part that is not known has an expression that cannot
be read without the flags that are given beside it. -/
theorem exists_matchText_or_stuck {r : Registry} {template : Text} {before : Text → Bool}
    {p : Pattern} (hp : Pattern.compile r template before = .ok p) (name : Text)
    (known : Prefilled) (exhausts : Text → Bool) :
    (∃ m, p.matchText name known exhausts = .ok m ∧ m.pattern = p ∧ m.IsFull ∧
      ∀ cause position, p.regexWith known exhausts = .error (.rejected cause position) →
        ∀ v ∈ m.values, v = none) ∨
    ∃ e, p.matchText name known exhausts = .error e ∧ e.isRejected = false ∧
      p.regexWith known exhausts = .error e ∧
      (exhausts (p.source known .all) = true ∨ ¬ p.IsEmbeddable known) := by
  have hlimited := p.regexWith_eq known exhausts
  rw [matchText]
  split
  · cases hregex : p.regexWith known exhausts with
    | ok regex =>
        obtain ⟨hpattern, hfull⟩ := p.isFull_matchWith known regex name
        refine .inl ⟨_, rfl, hpattern, hfull, fun cause position hrejected => ?_⟩
        cases hrejected
    | error e =>
        cases hcase : e.isRejected with
        | true =>
            cases e with
            | rejected cause position =>
                refine .inl ⟨.blank p, rfl, rfl, Match.isFull_map p _, fun _ _ _ => ?_⟩
                simp [Match.values, Match.blank]
            | _ => cases hcase
        | false =>
            refine .inr ⟨e, ?_, hcase, rfl, ?_⟩
            · cases e with
              | rejected cause position => cases hcase
              | _ => rfl
            · -- with stack enough, the error is that of an expression of the registry
              rw [hregex] at hlimited
              split at hlimited
              · next hdeep => exact .inl hdeep
              · refine .inr fun hparts => ?_
                have hrejected := isRejected_of_regexWith (compile_of_limited hp) hparts
                  hlimited.symm
                rw [hcase] at hrejected
                cases hrejected
  · next hnone =>
    obtain ⟨hpattern, hfull⟩ := p.isFull_matchWith known p.regex name
    refine .inl ⟨_, rfl, hpattern, hfull, fun cause position hrejected => ?_⟩
    -- nothing is known, so the expression is the one that compiling the pattern made
    have hregex := expression_eq_regexWith (compile_of_limited hp) known
    rw [expression, if_neg hnone] at hregex
    rw [hlimited, ← hregex] at hrejected
    split at hrejected <;> cases hrejected

/-- A group that goes with a known value takes its number along, so a reference
by number to what was the next group is to an open one. -/
theorem exists_matchText_or_stuck_rejected :
    ∃ p m, Pattern.compile defaultRegistry "[A][B<(x)\\1>]" = .ok p ∧
      p.matchText "qxq" [("A", some "q")] = .ok m ∧ m.values = [none, none] := by
  obtain ⟨p, hp, hproperty⟩ := exists_of_compile_any defaultRegistry "[A][B<(x)\\1>]"
    (fun p => p.captures.length == 2 && (p.regexWith [("A", some "q")]).toOption.isNone)
    (by decide +kernel)
  obtain ⟨hlength, hnone⟩ := Bool.and_eq_true_iff.mp hproperty
  have hparts := isEmbeddable_of_default hp [("A", some "q")]
  rcases exists_matchText_or_stuck hp "qxq" [("A", some "q")] fun _ => false with
    ⟨m, hm, hpattern, hfull, hblank⟩ | ⟨e, _, _, _, hstuck⟩
  · refine ⟨p, m, hp, hm, ?_⟩
    have htwo : m.values.length = 2 := by
      rw [Match.values, List.length_map, hfull, hpattern, eq_of_beq hlength]
    cases hregex : p.regexWith [("A", some "q")] with
    | ok regex =>
        rw [hregex] at hnone
        cases hnone
    | error e =>
        have hrejected := isRejected_of_regexWith hp hparts hregex
        cases e with
        | rejected cause position =>
            exact List.eq_replicate_iff.mpr ⟨htwo, hblank cause position hregex⟩
        | _ => cases hrejected
  · exact absurd hparts (hstuck.resolve_left Bool.false_ne_true)

/-- A registry with expressions that are read with comments skipped. Read without that,
the first one opens a set that the second one closes. -/
def verboseRegistry : Registry :=
  Registry.withInfo
    (({} : Registry).withInfo
      { name := "a", classification := .canonical, pattern := regexOf "x#[" { verbose := true } })
    { name := "b", classification := .canonical
      pattern := regexOf "y#\x7b4294967295\x7d]" { verbose := true } }

/-- Without the set a repetition count comes to light that is too large. -/
theorem not_exists_matchText_verbose :
    ∃ p, Pattern.compile verboseRegistry "\x7bA\x7d\x7bB\x7d" = .ok p ∧
      p.matchText "v" [("A", some "v")] = .error .countTooLarge := by
  obtain ⟨p, hp, hproperty⟩ := exists_of_compile_any verboseRegistry "\x7bA\x7d\x7bB\x7d"
    (fun p => match p.matchText "v" [("A", some "v")] with
      | .error .countTooLarge => true
      | _ => false) (by decide +kernel)
  refine ⟨p, hp, ?_⟩
  split at hproperty
  · assumption
  · cases hproperty

/-- If every part has a known value that is not empty, there is a name for the values,
the expression matches it and no other text, and the match of it is a success with the
known values, while that of any other text has no value at all. -/
theorem matchText_of_known {r : Registry} {template : Text} {p : Pattern}
    (hp : Pattern.compile r template = .ok p) {known : Prefilled}
    (hknown : ∀ identifier ∈ p.identifiers, ∃ v ∈ known.value? identifier, v ≠ []) :
    ∃ name regex, p.buildFrom known = some name ∧ p.expression known = .ok regex ∧
      ∀ t, (regex.matches? t = true ↔ t = name) ∧ ∃ m, p.matchText t known = .ok m ∧
        (t = name → m.success = true ∧ m.values = p.identifiers.map known.value?) ∧
        (t ≠ name → ∀ v ∈ m.values, v = none) := by
  rw [identifiers, List.forall_mem_map] at hknown
  have hsome : ∀ c ∈ p.captures, known.value? c.identifier ≠ none := by
    intro c hc hnone
    obtain ⟨v, hv, _⟩ := hknown c hc
    cases hnone.symm.trans hv
  obtain ⟨regex, nodes, hregex, hbecomes, hflags, hnode⟩ := exists_expression hp known
    fun c hc hnone => absurd hnone (hsome c hc)
  rw [flatten_of_known hbecomes hsome] at hnode
  refine ⟨p.parts.flatMap (Part.covered known fun _ => none), regex, ?_, hregex, fun t => ?_⟩
  · rw [buildFrom, identifiers, List.map_map]
    exact nameOf_of_known hknown
  · have hmatches := Regex.matches?_literals hflags hnode t
    refine ⟨hmatches, p.matchWith known regex t, by rw [matchText_eq, hregex], ?_, ?_⟩
    · intro heq
      obtain ⟨found, hfound⟩ := Option.isSome_iff_exists.mp (hmatches.mpr heq)
      rw [matchWith, hfound]
      dsimp only
      rw [captured_of_known hsome, Match.success, Match.entries_map, Match.values, identifiers]
      refine ⟨?_, by simp⟩
      simp only [List.all_map, List.all_eq_true, Function.comp_apply, Bool.or_eq_true]
      exact fun c hc => .inr (Option.isSome_iff_ne_none.mpr (hsome c hc))
    · intro hne
      have hnone : regex.fullMatch? t = none := by
        rw [← Option.not_isSome_iff_eq_none]
        exact fun h => hne (hmatches.mp h)
      rw [matchWith, hnone]
      simp [Match.values, Match.blank]

/-- Values of characters that stand for something in expressions. -/
def specialValues : Prefilled :=
  [("Culture", some (Text.ofString "a*")), ("Type", some (Text.ofString "b c")),
    ("Key", some (Text.ofString "$"))]

/-- Such characters are matched as they are, in literals, in separators and in
values. -/
theorem matchText_of_known_specialValues :
    ∃ p m other, Pattern.compile defaultRegistry "{Culture.}[Type|][Key].(i+)" = .ok p ∧
      p.matchText "a*.b c|$.(i+)" specialValues = .ok m ∧ m.success = true ∧
      m.values = specialValues.map Prod.snd ∧
      p.matchText "aa.b c|$.(i+)" specialValues = .ok other ∧ ∀ v ∈ other.values, v = none := by
  obtain ⟨p, hp, hproperty⟩ := exists_of_compile_any defaultRegistry
    "{Culture.}[Type|][Key].(i+)"
    (fun p => decide (p.identifiers = specialValues.map Prod.fst ∧
      p.buildFrom specialValues = some (Text.ofString "a*.b c|$.(i+)")))
    (by decide +kernel)
  obtain ⟨hidentifiers, hbuild⟩ := of_decide_eq_true hproperty
  have hknown : ∀ identifier ∈ p.identifiers, ∃ v ∈ specialValues.value? identifier, v ≠ [] := by
    rw [hidentifiers]
    decide
  obtain ⟨name, _, hname, _, hall⟩ := matchText_of_known hp hknown
  have hwritten : Text.ofString "a*.b c|$.(i+)" = name := Option.some.inj (hbuild.symm.trans hname)
  obtain ⟨_, m, hm, hvalues, _⟩ := hall "a*.b c|$.(i+)"
  obtain ⟨_, other, hother, _, hnone⟩ := hall "aa.b c|$.(i+)"
  obtain ⟨hsuccess, hvalues⟩ := hvalues hwritten
  rw [hidentifiers] at hvalues
  exact ⟨p, m, other, hp, hm, hsuccess, hvalues, hother, hnone (by rw [← hwritten]; decide)⟩

end Pattern

end KeyNaming
