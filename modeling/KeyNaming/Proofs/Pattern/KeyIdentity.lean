import KeyNaming.Proofs.Key.Significant
import KeyNaming.Proofs.Pattern.Sharing
import KeyNaming.Proofs.Pattern.Writing
import KeyNaming.Proofs.Text.Lower

/-!
Equivalent keys and the names that a pattern builds for them.

The comparer keeps the value of a non-canonical parameter that stands closest
to the tail. A part bound to the last occurrence takes the closest value that
its regular expression accepts. Both choose alike unless the closest value is
one that the part rejects while it accepts one further away. Apart from that,
equivalent keys have one name, or both have none.
-/

namespace KeyNaming

namespace Registry

theorem classify_eq_of_lower (r : Registry) (name other : Text) (h : name.lower = other.lower) :
    r.classify (some name) = r.classify (some other) := by
  simp [classify, info?, h]

end Registry

/-- Whether a value that a part rejects stands closer to the tail than all
others of its parameter, and among those is one, not empty, that it accepts. -/
def Capture.Hides {O : Type} (c : Capture O) (segments : List Segment) : Prop :=
  (∃ closest ∈ (valuesOf segments c.parameter).head?, c.accepts closest = false) ∧
    ∃ value ∈ valuesOf segments c.parameter, value ≠ [] ∧ c.accepts value = true

instance {O : Type} (c : Capture O) (segments : List Segment) : Decidable (c.Hides segments) :=
  inferInstanceAs (Decidable (_ ∧ _))

/-- The values of a parameter are the candidates for its parts, read from the
other end. -/
theorem candidates_eq_reverse (segments : List Segment) (parameter : Text)
    (hany : parameter ≠ anySection) :
    candidates segments parameter = (valuesOf segments parameter).reverse := by
  have hserves (name : Text) : servesParameter parameter name = (name == parameter) := by
    simp [servesParameter, hany]
  simp only [candidates, valuesOf, hserves, ← List.filterMap_reverse]
  rfl

/-- A part bound to the last occurrence takes the value closest to the tail
that it accepts. -/
theorem fromSegments_of_last (c : Capture Occurrence) (segments : List Segment)
    (hlast : c.occurrence = .last) (hany : c.parameter ≠ anySection) :
    c.fromSegments segments = (valuesOf segments c.parameter).find? c.accepts := by
  rw [Capture.fromSegments, hlast, Occurrence.select, candidates_eq_reverse _ _ hany,
    List.filter_reverse, List.getLast?_reverse, List.head?_filter]

/-- Where nothing is hidden, a part takes the closest value of all if it
accepts that, and nothing else that is not empty. -/
theorem nonEmpty_find?_of_not_hides (c : Capture Occurrence) (segments : List Segment)
    (hhides : ¬ c.Hides segments) :
    Pattern.nonEmpty ((valuesOf segments c.parameter).find? c.accepts) =
      ((valuesOf segments c.parameter).head?.filter fun v => !v.isEmpty).filter c.accepts := by
  rw [Capture.Hides] at hhides
  cases hvalues : valuesOf segments c.parameter with
  | nil => rfl
  | cons closest rest =>
      rw [hvalues] at hhides
      cases haccepts : c.accepts closest with
      | true =>
          cases closest with
          | nil => simp [haccepts, Pattern.nonEmpty, Option.filter]
          | cons first others => simp [haccepts, Pattern.nonEmpty, Option.filter]
      | false =>
          have hnone : Pattern.nonEmpty (rest.find? c.accepts) = none := by
            cases hfind : rest.find? c.accepts with
            | none => rfl
            | some value =>
                have hempty : value = [] := by
                  by_contra hne
                  exact hhides ⟨⟨closest, rfl, haccepts⟩, value,
                    List.mem_cons_of_mem _ (List.mem_of_find?_eq_some hfind), hne,
                    List.find?_some hfind⟩
                rw [hempty, Pattern.nonEmpty]
          rw [List.find?_cons_of_neg (by simp [haccepts]), hnone]
          cases closest with
          | nil => simp [Option.filter]
          | cons first others => simp [haccepts, Option.filter]

namespace Pattern

variable {K : Type} (d : Decomposition K) (p : Pattern)

/-- Where no value is shared, a match holds what each part takes from the key. -/
theorem matchKey_of_last (hlast : ∀ c ∈ p.captures, c.occurrence = .last) (key : K) :
    p.matchKey d key [] =
      ⟨p, p.captures.map fun c => { value := c.fromSegments (d.segments key) }⟩ :=
  Match.share_of_last p _ hlast

theorem values_matchKey_of_last (hlast : ∀ c ∈ p.captures, c.occurrence = .last) (key : K) :
    (p.matchKey d key []).values = p.captures.map fun c => c.fromSegments (d.segments key) := by
  rw [matchKey_of_last d p hlast, Match.values, List.map_map]
  exact List.map_congr_left fun c _ => rfl

/-- Keys have one name if each part takes the same from both, an empty value
counting as none. -/
theorem nameOfKey_congr (hlast : ∀ c ∈ p.captures, c.occurrence = .last) (x y : K)
    (hvalues : ∀ c ∈ p.captures, nonEmpty (c.fromSegments (d.segments x)) =
      nonEmpty (c.fromSegments (d.segments y))) :
    p.nameOfKey d x = p.nameOfKey d y := by
  have hmap : ((p.matchKey d x []).values).map nonEmpty =
      ((p.matchKey d y []).values).map nonEmpty := by
    rw [values_matchKey_of_last d p hlast, values_matchKey_of_last d p hlast,
      List.map_map, List.map_map]
    exact List.map_congr_left hvalues
  have hlength : ((p.matchKey d x []).values).length = ((p.matchKey d y []).values).length := by
    simpa using congrArg List.length hmap
  rw [nameOfKey, nameOfKey, build, build, hlength, ← nameOf_map_nonEmpty, hmap,
    nameOf_map_nonEmpty]

theorem lower_parameter_of_isBare {r : Registry} {template : Text} {p : Pattern}
    (h : Pattern.compile r template = .ok p) (hdistinct : (p.captures.map Capture.parameter).Nodup)
    (c : Capture Occurrence) (hc : c ∈ p.captures) (hbare : c.IsBare) :
    c.parameter.lower = c.parameter := by
  obtain ⟨draft, hread, rfl⟩ := exists_draft h hdistinct c hc
  have hparameter := hread.parameter
  have hsplit : Template.splitIdentifier draft.identifier = (draft.identifier, .none) := hbare
  rw [hsplit] at hparameter
  change draft.parameter.lower = draft.parameter
  rw [hparameter]
  apply Text.lower_lower_of_ascii
  intro d hd
  exact d.isAscii_of_isAsciiWord (List.all_eq_true.mp hread.word d hd)

/-- Equivalent keys have one name, or both have none, where no part rejects a
value that hides one it accepts. -/
theorem nameOfKey_eq_of_equal {r : Registry} {template : Text} {p : Pattern}
    (hp : Pattern.compile r template = .ok p)
    (hbare : ∀ c ∈ p.captures, c.IsBare)
    (hdistinct : (p.captures.map Capture.parameter).Nodup)
    (hany : ∀ c ∈ p.captures, c.parameter ≠ anySection)
    (hcompared : ∀ c ∈ p.captures, r.classify (some c.parameter) ≠ .unclassified)
    (x y : K)
    (hx : ∀ s ∈ d.segments x, s.classification = r.classify (some s.name))
    (hy : ∀ s ∈ d.segments y, s.classification = r.classify (some s.name))
    (hequal : ({} : Comparer).equal d (some x) (some y) = true)
    (hhides : ∀ c ∈ p.captures, r.classify (some c.parameter) = .nonCanonical →
      ¬ c.Hides (d.segments x) ∧ ¬ c.Hides (d.segments y)) :
    p.nameOfKey d x = p.nameOfKey d y := by
  have hlast : ∀ c ∈ p.captures, c.occurrence = .last :=
    fun c hc => last_of_isBare hp hdistinct c hc (hbare c hc)
  obtain ⟨hnon, hcanon⟩ := (Comparer.segmentsEqual_iff {} _ _).mp hequal
  apply nameOfKey_congr d p hlast
  intro c hc
  rw [fromSegments_of_last c _ (hlast c hc) (hany c hc),
    fromSegments_of_last c _ (hlast c hc) (hany c hc)]
  have hlower := lower_parameter_of_isBare hp hdistinct c hc (hbare c hc)
  have hclassified (key : K)
      (hkey : ∀ s ∈ d.segments key, s.classification = r.classify (some s.name)) :
      ∀ s ∈ d.segments key, s.name.lower = c.parameter →
        s.classification = r.classify (some c.parameter) := by
    intro s hs hname
    rw [hkey s hs]
    exact r.classify_eq_of_lower _ _ (hname.trans hlower.symm)
  cases hclass : r.classify (some c.parameter) with
  | unclassified => exact absurd hclass (hcompared c hc)
  | canonical =>
      rw [hclass] at hclassified
      rw [Comparer.valuesOf_eq_of_canonical _ _ (hclassified x hx),
        Comparer.valuesOf_eq_of_canonical _ _ (hclassified y hy), hcanon]
  | nonCanonical =>
      rw [hclass] at hclassified
      obtain ⟨hidesx, hidesy⟩ := hhides c hc hclass
      rw [nonEmpty_find?_of_not_hides c _ hidesx, nonEmpty_find?_of_not_hides c _ hidesy,
        ← Comparer.lookup_nonCanonical_of_classified _ _ (hclassified x hx),
        ← Comparer.lookup_nonCanonical_of_classified _ _ (hclassified y hy), hnon]

/-- Two spellings of a key, the non-canonical culture in different places and
its name in different cases, have one name. -/
theorem nameOfKey_eq_of_moved_culture :
    ∃ p, Pattern.compile defaultRegistry "\x7bCulture.\x7d[Key]" = .ok p ∧
      p.nameOfKey (.ofPairs defaultRegistry) [("culture", some "en"), ("key", some "Ok")] =
        p.nameOfKey (.ofPairs defaultRegistry) [("Key", some "Ok"), ("CULTURE", some "en")] := by
  obtain ⟨p, hp, hproperty⟩ := exists_of_compile_any defaultRegistry
    "\x7bCulture.\x7d[Key]"
    (fun p => decide ((∀ c ∈ p.captures, c.IsBare) ∧
      (p.captures.map Capture.parameter).Nodup ∧
      (∀ c ∈ p.captures, c.parameter ≠ anySection) ∧
      (∀ c ∈ p.captures, defaultRegistry.classify (some c.parameter) ≠ .unclassified) ∧
      (∀ c ∈ p.captures, defaultRegistry.classify (some c.parameter) = .nonCanonical →
        ¬ c.Hides ((Decomposition.ofPairs defaultRegistry).segments
            [("culture", some "en"), ("key", some "Ok")]) ∧
          ¬ c.Hides ((Decomposition.ofPairs defaultRegistry).segments
            [("Key", some "Ok"), ("CULTURE", some "en")]))))
    (by decide +kernel)
  obtain ⟨hbare, hdistinct, hany, hcompared, hhides⟩ := of_decide_eq_true hproperty
  exact ⟨p, hp, nameOfKey_eq_of_equal _ hp hbare hdistinct hany hcompared _ _
    (by decide +kernel) (by decide +kernel) (by decide +kernel) hhides⟩

/-- Without regard to what parts reject, equivalent keys may have different
names: of two cultures the one closest to the tail makes the keys equivalent,
and a part that rejects it takes the other one. -/
theorem not_nameOfKey_eq_of_hidden_culture :
    ¬ ∀ (r : Registry) (template : Text) (p : Pattern), Pattern.compile r template = .ok p →
      (∀ c ∈ p.captures, c.IsBare) →
      (p.captures.map Capture.parameter).Nodup →
      (∀ c ∈ p.captures, c.parameter ≠ anySection) →
      (∀ c ∈ p.captures, r.classify (some c.parameter) ≠ .unclassified) →
      ∀ x y : Pairs, ({} : Comparer).equal (.ofPairs r) (some x) (some y) = true →
        p.nameOfKey (.ofPairs r) x = p.nameOfKey (.ofPairs r) y := by
  intro h
  obtain ⟨p, hp, hproperty⟩ := exists_of_compile_any defaultRegistry
    "\x7bCulture.\x7d[Key]"
    (fun p => decide ((∀ c ∈ p.captures, c.IsBare) ∧
      (p.captures.map Capture.parameter).Nodup ∧
      (∀ c ∈ p.captures, c.parameter ≠ anySection) ∧
      (∀ c ∈ p.captures, defaultRegistry.classify (some c.parameter) ≠ .unclassified) ∧
      p.nameOfKey (.ofPairs defaultRegistry)
          [("culture", some "en"), ("culture", some "??"), ("key", some "Ok")] ≠
        p.nameOfKey (.ofPairs defaultRegistry) [("culture", some "??"), ("key", some "Ok")]))
    (by decide +kernel)
  obtain ⟨hbare, hdistinct, hany, hcompared, hnames⟩ := of_decide_eq_true hproperty
  exact hnames (h _ _ p hp hbare hdistinct hany hcompared _ _ (by decide +kernel))

end Pattern

end KeyNaming
