import KeyNaming.Proofs.Entries
import KeyNaming.Proofs.Pattern.Success
import KeyNaming.Proofs.Pattern.Tiling

/-!
Which of the values known beforehand matter to a pattern.

A pattern looks values up by the identifiers of its parts and takes an entry
without a value for no entry at all. So it cannot tell mappings apart in which it
finds the same values: they make the same expression, and with it the same
matches. This also holds where some mapping has a value for another identifier,
so that an expression is made for it, and the other mapping has none, so that
names are matched with the expression that the pattern has already.
-/

namespace KeyNaming

namespace Pattern

variable {p : Pattern} {known other : Prefilled}

/-- Whether a pattern finds the same values in two mappings. -/
def FindsSame (p : Pattern) (known other : Prefilled) : Prop :=
  ∀ c ∈ p.captures, known.value? c.identifier = other.value? c.identifier

/-! ## What a pattern computes depends on what it finds -/

theorem piece_congr (h : p.FindsSame known other) (escaping : Escaping) {part : Part}
    (hpart : part ∈ p.parts) : part.piece known escaping = part.piece other escaping := by
  cases part with
  | literal written text => rfl
  | capture c =>
      have hc : c ∈ p.captures := (mem_captureParts p.parts c).mpr hpart
      simp only [Part.piece, h c hc]

theorem source_congr (h : p.FindsSame known other) (escaping : Escaping) :
    p.source known escaping = p.source other escaping := by
  unfold source regexSource
  rw [List.flatMap_congr fun part hpart => piece_congr h escaping hpart]

theorem partAt_congr (h : p.FindsSame known other) (position : Int) :
    partAt p.parts known position = partAt p.parts other position := by
  unfold partAt
  rw [List.map_congr_left fun part hpart => piece_congr h .all hpart]

theorem matchSegments_congr (h : p.FindsSame known other) (segments : List Segment) :
    p.matchSegments segments known = p.matchSegments segments other := by
  unfold matchSegments
  rw [List.map_congr_left fun c hc => by rw [h c hc]]

theorem matchWith_congr (h : p.FindsSame known other) (regex : Regex) (name : Text) :
    p.matchWith known regex name = p.matchWith other regex name := by
  have hcaptured (found) : p.captured known regex found = p.captured other regex found := by
    unfold captured
    rw [List.map_congr_left fun c hc => by rw [h c hc]]
  unfold matchWith
  cases regex.fullMatch? name with
  | none => rfl
  | some found => exact hcaptured found

/-- Names are matched alike, with the expression that the pattern has or with one
that is made for the known values. -/
theorem matchText_congr {r : Registry} {template : Text} (hp : Pattern.compile r template = .ok p)
    (h : p.FindsSame known other) (name : Text) :
    p.matchText name known = p.matchText name other := by
  have hregex : p.regexWith known = p.regexWith other := by
    unfold regexWith
    rw [source_congr h]
  rw [matchText_eq, matchText_eq, expression_eq_regexWith hp, expression_eq_regexWith hp, hregex]
  cases p.regexWith other with
  | ok regex => exact congrArg Except.ok (matchWith_congr h regex name)
  | error e => cases e <;> rfl

/-! ## The entries that are found -/

/-- The entries of a mapping that have an identifier of a pattern and a value. -/
def relevant (p : Pattern) (known : Prefilled) : Prefilled :=
  known.filter fun entry => p.identifiers.contains entry.1 && entry.2.isSome

theorem value?_eq_some_iff (hkeys : (known.map Prod.fst).Nodup) (identifier v : Text) :
    known.value? identifier = some v ↔ (identifier, some v) ∈ known := by
  unfold Prefilled.value?
  rw [Option.join_eq_some_iff, Entries.lookup_eq_some_iff_mem hkeys (identifier, some v)]

theorem findsSame_relevant (p : Pattern) (hkeys : (known.map Prod.fst).Nodup) :
    p.FindsSame known (p.relevant known) := by
  intro c hc
  have hkept : ((p.relevant known).map Prod.fst).Nodup :=
    hkeys.sublist (List.filter_sublist.map Prod.fst)
  have hidentifier : c.identifier ∈ p.identifiers := List.mem_map_of_mem hc
  ext v
  rw [value?_eq_some_iff hkeys, value?_eq_some_iff hkept, relevant, List.mem_filter]
  simp [hidentifier]

/-- Known values can be cut down to those that have an identifier of the pattern and are
there. Keys and names are matched as before, and the expression of names has the same
source and the same parts at each offset. Where no such value is left, names are
matched with the expression that the pattern has. -/
theorem relevant_suffices {r : Registry} {template : Text} (hp : Pattern.compile r template = .ok p)
    (hkeys : (known.map Prod.fst).Nodup) :
    (∀ (K : Type) (d : Decomposition K) (key : K),
        p.matchKey d key known = p.matchKey d key (p.relevant known)) ∧
      (∀ name, p.matchText name known = p.matchText name (p.relevant known)) ∧
      (∀ escaping, p.source known escaping = p.source (p.relevant known) escaping) ∧
      (∀ position, partAt p.parts known position = partAt p.parts (p.relevant known) position) ∧
      (p.relevant known = [] →
        (∀ (K : Type) (d : Decomposition K) (key : K),
          p.matchKey d key known = p.matchKey d key []) ∧
        (∀ name, p.matchText name known = p.matchText name [] ∧
          p.matchText name known = .ok (p.matchWith [] p.regex name)) ∧
        (∀ escaping, p.source known escaping = p.source [] escaping) ∧
        ∀ position, partAt p.parts known position = partAt p.parts [] position) := by
  have hsame := p.findsSame_relevant hkeys
  have hkey (K : Type) (d : Decomposition K) (key : K) :
      p.matchKey d key known = p.matchKey d key (p.relevant known) :=
    matchSegments_congr hsame (d.segments key)
  have hname := matchText_congr hp hsame
  have hsource := source_congr hsame
  have hpart := partAt_congr hsame
  refine ⟨hkey, hname, hsource, hpart, fun hnone => ?_⟩
  rw [hnone] at hkey hname hsource hpart
  exact ⟨hkey, fun name => ⟨hname name, hname name⟩, hsource, hpart⟩

/-- A value for another spelling of an identifier, none for one of the pattern, and
one for another of the pattern. -/
def mixedValues : Prefilled :=
  [("key", some (Text.ofString "x")), ("Key", none), ("Type", some (Text.ofString "Ui"))]

/-- Of these values only the last one counts, and without it none does. -/
theorem relevant_suffices_mixed :
    ∃ p, Pattern.compile defaultRegistry "[Type.][Key]" = .ok p ∧
      p.relevant mixedValues = mixedValues.drop 2 ∧
      p.matchText "Ui.Ok" mixedValues = p.matchText "Ui.Ok" (mixedValues.drop 2) ∧
      p.relevant (mixedValues.take 2) = [] ∧
      p.matchText "Ui.Ok" (mixedValues.take 2) = .ok (p.matchWith [] p.regex "Ui.Ok") := by
  obtain ⟨p, hp, hproperty⟩ := exists_of_compile_any defaultRegistry "[Type.][Key]"
    (fun p => decide (p.relevant mixedValues = mixedValues.drop 2 ∧
      p.relevant (mixedValues.take 2) = []))
    (by decide +kernel)
  obtain ⟨hone, hnone⟩ := of_decide_eq_true hproperty
  have hkeys : (mixedValues.map Prod.fst).Nodup := by decide
  have hfewer : ((mixedValues.take 2).map Prod.fst).Nodup := by decide
  obtain ⟨_, hname, _⟩ := relevant_suffices hp hkeys
  obtain ⟨_, _, _, _, hempty⟩ := relevant_suffices hp hfewer
  rw [hone] at hname
  exact ⟨p, hp, hone, hname "Ui.Ok", hnone, ((hempty hnone).2.1 "Ui.Ok").2⟩

end Pattern

end KeyNaming
