import KeyNaming.Pattern.Match
import KeyNaming.Proofs.Pattern.Layout
import KeyNaming.Proofs.Pattern.Writing

/-!
What a name is built from.

Values come in the order of the captures, or under the identifiers of the parts.
The number of a capture leads to its value in the first case and its identifier
in the second. Since no identifier stands twice in a pattern, both lead to the
same value, and the same name is built.
-/

namespace KeyNaming

/-! ## Values by the numbers of captures -/

namespace NumberedPart

/-- The value that a part takes out of a sequence, unless it is empty. -/
def valueIn (values : List (Option Text)) (n : NumberedPart) : Option Text :=
  Pattern.nonEmpty (n.captureIndex.bind fun k => values[k]?.join)

/-- What a part adds to a name: a literal its text, and a capture its value, if
it has one, between the separators. -/
def textIn (values : List (Option Text)) (n : NumberedPart) : Text :=
  match n.part with
  | .literal _ text => text
  | .capture c => ((n.valueIn values).map fun v => c.leading ++ v ++ c.trailing).getD []

/-- Whether a part is required and has no value. -/
def isMissingIn (values : List (Option Text)) (n : NumberedPart) : Bool :=
  n.capture?.any fun (c, k) => c.required && (Pattern.nonEmpty values[k]?.join).isNone

end NumberedPart

/-- A name is what its parts add, one after the other, if no required part is
missing, wherever that one stands. -/
theorem nameOf_drop {parts : List Part} {values : List (Option Text)} {k : Nat}
    (hlength : k + (captureParts parts).length ≤ values.length) (index : Nat) :
    nameOf parts (values.drop k) =
      if (numberFrom index k parts).any (NumberedPart.isMissingIn values) then none
      else some ((numberFrom index k parts).flatMap (NumberedPart.textIn values)) := by
  -- the first part, and those behind it
  have hjoin (missing others : Bool) (text name : Text) :
      (if missing then none else (if others then none else some name).map (text ++ ·)) =
        if missing || others then none else some (text ++ name) := by
    cases missing <;> cases others <;> rfl
  induction parts generalizing index k with
  | nil => rfl
  | cons part rest ih =>
      cases part with
      | literal written text =>
          have hrest := ih hlength (index + 1)
          simp only [nameOf, numberFrom, List.any_cons, List.flatMap_cons, hrest]
          exact hjoin false _ text _
      | capture c =>
          simp only [captureParts_capture, List.length_cons] at hlength
          have hk : k < values.length := by omega
          have hrest := ih (k := k + 1) (by omega) (index + 1)
          have hvalue : NumberedPart.valueIn values ⟨.capture c, index, some k⟩ =
              Pattern.nonEmpty values[k] := by
            simp [NumberedPart.valueIn, hk]
          simp only [List.drop_eq_getElem_cons hk, nameOf_capture, numberFrom, List.any_cons,
            List.flatMap_cons, hrest, ← hvalue]
          exact hjoin _ _ _ _

/-- Values beyond the captures add nothing. -/
theorem nameOf_take (parts : List Part) (values : List (Option Text)) :
    nameOf parts (values.take (captureParts parts).length) = nameOf parts values := by
  induction parts generalizing values with
  | nil => rfl
  | cons part rest ih =>
      cases part with
      | literal written text => simp [nameOf, ih]
      | capture c =>
          cases values with
          | nil => rfl
          | cons value values => simp [nameOf_capture, ih]

/-! ## Values by identifier -/

/-- Where no identifier stands twice, each finds the value at its place. -/
theorem Prefilled.map_value?_zip {identifiers : List Text} (hnodup : identifiers.Nodup)
    {values : List (Option Text)} (hlength : identifiers.length ≤ values.length) :
    identifiers.map (Prefilled.value? (identifiers.zip values)) =
      values.take identifiers.length := by
  apply List.ext_getElem
  · simp [hlength]
  · intro i hi _
    simp only [List.length_map] at hi
    have hvalue : i < values.length := by omega
    have hentry : (identifiers[i], values[i]) ∈ identifiers.zip values := by
      apply List.mem_of_getElem? (i := i)
      simp [hi, hvalue]
    have hkeys : ((identifiers.zip values).map Prod.fst).Nodup := by
      rwa [List.map_fst_zip hlength]
    have hlookup := (Entries.lookup_eq_some_iff_mem hkeys _).mpr hentry
    simp [Prefilled.value?, hlookup]

namespace Pattern

theorem build_eq_nameOf {p : Pattern} {values : List (Option Text)}
    (hlength : p.captures.length ≤ values.length) : p.build values = nameOf p.parts values := by
  rw [build, if_neg (by omega)]

/-- There is no name exactly if the value of a required part is missing or
empty. -/
theorem any_isMissingIn_iff {p : Pattern} {values : List (Option Text)}
    (hlength : p.captures.length ≤ values.length) :
    p.numbered.any (NumberedPart.isMissingIn values) = true ↔
      ∃ (c : Capture Occurrence) (k : Nat), p.captures[k]? = some c ∧ c.required = true ∧
        (values[k]? = some none ∨ values[k]? = some (some [])) := by
  have hcaptures : p.numbered.any (NumberedPart.isMissingIn values) =
      p.captures.zipIdx.any fun (c, k) => c.required && (nonEmpty values[k]?.join).isNone := by
    rw [captures, ← filterMap_capture?_numberFrom 0 0 p.parts, List.any_filterMap]
    rfl
  have hempty (k : Nat) (hk : k < values.length) : (nonEmpty values[k]?.join).isNone = true ↔
      values[k]? = some none ∨ values[k]? = some (some []) := by
    simp only [List.getElem?_eq_getElem hk]
    rcases values[k] with _ | _ | ⟨first, others⟩ <;> simp [nonEmpty]
  simp only [hcaptures, List.any_eq_true, Bool.and_eq_true, Prod.exists,
    List.mem_zipIdx_iff_getElem?]
  constructor
  · rintro ⟨c, k, hc, hrequired, hnone⟩
    have hk := (List.getElem?_eq_some_iff.mp hc).1
    exact ⟨c, k, hc, hrequired, (hempty k (by omega)).mp hnone⟩
  · rintro ⟨c, k, hc, hrequired, hvalue⟩
    have hk := (List.getElem?_eq_some_iff.mp hc).1
    exact ⟨c, k, hc, hrequired, (hempty k (by omega)).mpr hvalue⟩

/-- A name is the same from values in order and from values by identifier. There is
none exactly if some required part has no value or an empty one. A name is what the
parts add one after the other: a literal its text, and a capture whose value is not
empty the value between its separators. -/
theorem build_eq_buildFrom_zip {r : Registry} {template : Text} {p : Pattern}
    (hp : Pattern.compile r template = .ok p) (values : List (Option Text))
    (hlength : p.captures.length ≤ values.length) :
    p.build values = p.buildFrom (p.identifiers.zip values) ∧
      (p.build values = none ↔
        ∃ (c : Capture Occurrence) (k : Nat), p.captures[k]? = some c ∧ c.required = true ∧
          (values[k]? = some none ∨ values[k]? = some (some []))) ∧
      ∀ name, p.build values = some name →
        name = p.numbered.flatMap (NumberedPart.textIn values) := by
  have hidentifiers : p.identifiers.length = p.captures.length := by simp [identifiers]
  have hbuild : p.build values =
      if p.numbered.any (NumberedPart.isMissingIn values) then none
      else some (p.numbered.flatMap (NumberedPart.textIn values)) := by
    rw [build_eq_nameOf hlength]
    exact nameOf_drop (k := 0) (by simpa [captures] using hlength) 0
  refine ⟨?_, ?_, ?_⟩
  · have hnodup : p.identifiers.Nodup := nodup_identifiers hp
    have hvalues := Prefilled.map_value?_zip hnodup (by omega : _ ≤ values.length)
    rw [build_eq_nameOf hlength, buildFrom, hvalues, hidentifiers]
    exact (nameOf_take p.parts values).symm
  · simp [hbuild, ← any_isMissingIn_iff hlength]
  · intro name hname
    rw [hbuild] at hname
    split at hname
    · cases hname
    · exact (Option.some.inj hname).symm

/-- Three values and one too many, the second one empty. -/
def cultureValues : List (Option Text) := [some "Ui", some [], some "Ok", none]

/-- An optional part with an empty value goes with its separators, and a value
beyond the captures is left alone. -/
theorem build_eq_buildFrom_zip_culture :
    ∃ p, Pattern.compile defaultRegistry "[Type.]\x7bCulture.\x7d[Key]" = .ok p ∧
      p.captures.length ≤ cultureValues.length ∧
      p.build cultureValues = p.buildFrom (p.identifiers.zip cultureValues) ∧
      p.build cultureValues = some "Ui.Ok" := by
  obtain ⟨p, hp, hproperty⟩ := exists_of_compile_any defaultRegistry
    "[Type.]\x7bCulture.\x7d[Key]"
    (fun p => decide (p.captures.length ≤ cultureValues.length ∧
      p.build cultureValues = some (Text.ofString "Ui.Ok")))
    (by decide +kernel)
  obtain ⟨hlength, hname⟩ := of_decide_eq_true hproperty
  exact ⟨p, hp, hlength, (build_eq_buildFrom_zip hp cultureValues hlength).1, hname⟩

end Pattern

end KeyNaming
