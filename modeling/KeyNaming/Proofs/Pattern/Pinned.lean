import KeyNaming.Proofs.Pattern.Layout
import KeyNaming.Proofs.Pattern.Multiplicity
import KeyNaming.Proofs.Template.Assignment

/-!
What becomes of a part that its identifier pins to an occurrence by number.

The number is kept by the assignment, sorts the part among those of its
parameter, and picks its value among those that it accepts. One number means
something else: it stands for the last occurrence, and a part written with it
is bound to that one. Parts with larger numbers are pinned, but stand behind
the parts that are bound to the last occurrence.
-/

namespace KeyNaming

theorem Occurrence.isLast_ofIndex (n : Nat) :
    (Occurrence.ofIndex n).isLast = true ↔ n = Occurrence.lastIndex := by
  rw [ofIndex]
  split
  · next h => exact iff_of_true rfl h
  · next h => exact iff_of_false Bool.false_ne_true h

theorem Occurrence.index_ofIndex (n : Nat) : (Occurrence.ofIndex n).index = n := by
  rw [ofIndex]
  split
  · next h => exact h.symm
  · rfl

theorem Occurrence.index_of_isLast {occurrence : Occurrence} (h : occurrence.isLast = true) :
    occurrence.index = Occurrence.lastIndex := by
  cases occurrence with
  | pinned n => cases h
  | last => rfl

/-- In a list sorted by a weight, an element stands before those that weigh
more. -/
theorem sublist_of_pairwise_le {A : Type} (weight : A → Nat) {l : List A}
    (h : l.Pairwise fun a b => weight a ≤ weight b) {a b : A} (ha : a ∈ l) (hb : b ∈ l)
    (hlt : weight a < weight b) : [a, b].Sublist l := by
  induction l with
  | nil => cases ha
  | cons first rest ih =>
      obtain ⟨hfirst, hrest⟩ := List.pairwise_cons.mp h
      rcases List.mem_cons.mp ha with rfl | ha
      · rcases List.mem_cons.mp hb with rfl | hb
        · omega
        · exact (List.singleton_sublist.mpr hb).cons_cons a
      · rcases List.mem_cons.mp hb with hhead | hb
        · have hle := hfirst a ha
          rw [hhead] at hlt
          omega
        · exact (ih hrest ha hb).cons first

namespace Pattern

open Template

variable {r : Registry} {template : Text} {p : Pattern} {drafts : List Draft}

/-- Of two parts of a parameter the one with the smaller number stands first. -/
theorem sublist_capturesOf {c d : Capture Occurrence} {i j : Nat} {parameter : Text}
    (hc : (c, i) ∈ p.capturesOf parameter) (hd : (d, j) ∈ p.capturesOf parameter)
    (hlt : c.occurrence.index < d.occurrence.index) :
    [(c, i), (d, j)].Sublist (p.capturesOf parameter) :=
  sublist_of_pairwise_le (fun entry => entry.1.occurrence.index)
    (p.pairwise_capturesOf parameter) hc hd hlt

/-- A part that is not bound to the last occurrence has the value that its
number picks among those that it accepts, and no copy. -/
theorem entries_matchKey_of_pinned {K : Type} (decomposition : Decomposition K) (key : K) {i : Nat}
    {c : Capture Occurrence} (hc : p.captures[i]? = some c) {n : Nat}
    (hpinned : c.occurrence = .pinned n) :
    (p.matchKey decomposition key []).entries[i]? =
      some (c, ⟨((candidates (decomposition.segments key) c.parameter).filter c.accepts)[n]?,
        false⟩) := by
  have hnumbered : c.occurrence.isLast = false := by rw [hpinned]; rfl
  rw [matchKey, matchSegments, Match.entries_share, List.getElem?_map, hc, Option.map_some,
    Match.sharedSlot_of_numbered hnumbered]
  have hvalue : (Prefilled.value? [] c.identifier).or
      (c.fromSegments (decomposition.segments key)) =
        c.fromSegments (decomposition.segments key) := rfl
  rw [hvalue, Capture.fromSegments, hpinned]
  rfl

/-- A part that is written with a number is pinned to it, unless the number is the one
that stands for the last occurrence. A part with a smaller number stands before the
parts that are bound to the last occurrence, one with a larger number behind them, and
both take the value that the number picks, counted from the root, among those of the
parameter that they accept. -/
theorem pinned_of_number (hp : Pattern.compile r template = .ok p)
    (hread : Template.read r template = .ok drafts) {i : Nat} {d : Capture (Option Occurrence)}
    (hd : (captureParts drafts)[i]? = some d) {digits : Text}
    (hsuffix : (splitIdentifier d.identifier).2 = .number digits) :
    ∃ c, p.captures[i]? = some c ∧ c.identifier = d.identifier ∧ c.parameter = d.parameter ∧
      (c.occurrence.isLast = true ↔ Text.valueOf 10 digits = Occurrence.lastIndex) ∧
      (∀ last ∈ p.capturesOf c.parameter, last.1.occurrence.isLast = true →
        (Text.valueOf 10 digits < Occurrence.lastIndex →
          [(c, i), last].Sublist (p.capturesOf c.parameter)) ∧
        (Occurrence.lastIndex < Text.valueOf 10 digits →
          [last, (c, i)].Sublist (p.capturesOf c.parameter))) ∧
      (Text.valueOf 10 digits ≠ Occurrence.lastIndex →
        ∀ (K : Type) (decomposition : Decomposition K) (key : K),
          (p.matchKey decomposition key []).entries[i]? =
            some (c, ⟨((candidates (decomposition.segments key) c.parameter).filter
              c.accepts)[Text.valueOf 10 digits]?, false⟩)) := by
  obtain ⟨drafts', hread', hparts, _⟩ := compile_ok hp
  obtain rfl := Except.ok.inj (hread.symm.trans hread')
  have hcaptures : p.captures = captureParts (assign drafts) := by rw [captures, hparts]
  have hlength : i < p.captures.length := by
    rw [hcaptures, length_captureParts_assign]
    exact (List.getElem?_eq_some_iff.mp hd).1
  have hc : p.captures[i]? = some p.captures[i] := List.getElem?_eq_getElem hlength
  generalize p.captures[i] = c at hc
  have hpair : (d, c) ∈ assignedPairs drafts := by
    refine List.mem_of_getElem? (i := i) ?_
    rw [assignedPairs, List.getElem?_zip_eq_some]
    exact ⟨hd, hcaptures ▸ hc⟩
  have hoccurrence := (isRead_of_mem_assignedPairs hread hpair).occurrence_eq_ofIndex hsuffix
  have heq : c = { d with
      identifier := d.identifier, occurrence := .ofIndex (Text.valueOf 10 digits) } := by
    have hkept := eq_of_mem_pairsFrom hpair fun hnone =>
      absurd (hoccurrence.symm.trans hnone) (Option.some_ne_none _)
    rw [hoccurrence] at hkept
    exact hkept
  have hindex : c.occurrence.index = Text.valueOf 10 digits := by
    rw [heq, Occurrence.index_ofIndex]
  have hmem : (c, i) ∈ p.capturesOf c.parameter := mem_capturesOf.mpr ⟨hc, rfl⟩
  refine ⟨c, hc, by rw [heq], by rw [heq], ?_,
    fun last hlast hisLast => ⟨fun hlt => ?_, fun hlt => ?_⟩,
    fun hne K decomposition key => ?_⟩
  · rw [heq]
    exact Occurrence.isLast_ofIndex _
  · exact sublist_capturesOf hmem hlast (by rwa [hindex, Occurrence.index_of_isLast hisLast])
  · exact sublist_capturesOf hlast hmem (by rwa [hindex, Occurrence.index_of_isLast hisLast])
  · refine entries_matchKey_of_pinned decomposition key hc ?_
    rw [heq, Occurrence.ofIndex, if_neg hne]

def pinnedTemplate : Text := "\x7bSection_1.\x7d\x7bSection\x7d"

/-- A part that is pinned to the second section takes the second one of those
that it accepts, and stands before the part that takes the last one. -/
theorem pinned_of_number_section :
    ∃ p c, Pattern.compile defaultRegistry pinnedTemplate = .ok p ∧ p.captures[0]? = some c ∧
      c.occurrence.isLast = false ∧
      (p.matchKey .ofChains (sectionKey ["A", "B", "C"]) []).entries[0]? = some (c,
        ⟨((candidates (sectionKey ["A", "B", "C"]).segments "section").filter c.accepts)[1]?,
          false⟩) := by
  obtain ⟨drafts, hread, hproperty⟩ := exists_ok_of_any
    (Template.read defaultRegistry pinnedTemplate)
    (fun drafts => (captureParts drafts)[0]?.any fun d : Capture (Option Occurrence) =>
      decide ((splitIdentifier d.identifier).2 = .number "1" ∧ d.parameter = ("section" : Text)))
    (by decide +kernel)
  obtain ⟨d, hd, hdecided⟩ := (Option.any_eq_true _ _).mp hproperty
  obtain ⟨hsuffix, hparameter⟩ := of_decide_eq_true hdecided
  obtain ⟨p, hp, _⟩ := exists_of_compile_any defaultRegistry pinnedTemplate (fun _ => true)
    (by decide +kernel)
  have hone : Text.valueOf 10 "1" = 1 := by decide
  have hne : Text.valueOf 10 "1" ≠ Occurrence.lastIndex := by decide
  obtain ⟨c, hc, _, hsame, hlast, _, hvalue⟩ := pinned_of_number hp hread hd hsuffix
  refine ⟨p, c, hp, hc, Bool.eq_false_iff.mpr fun h => hne (hlast.mp h), ?_⟩
  rw [hvalue hne, hone, hsame, hparameter]
  rfl

/-- A part that is written with the number that stands for the last occurrence
is bound to the last one, and takes the only value of a key. A part with the
next number stands behind a bare one. -/
theorem not_pinned_lastIndex :
    ¬ ∀ (template : Text) (p : Pattern) (drafts : List Draft),
      Pattern.compile defaultRegistry template = .ok p →
      Template.read defaultRegistry template = .ok drafts →
      ∀ (i : Nat) (d : Capture (Option Occurrence)) (digits : Text),
        (captureParts drafts)[i]? = some d →
        (splitIdentifier d.identifier).2 = .number digits →
        ∀ c, p.captures[i]? = some c →
          c.occurrence.isLast = false ∧
          (∀ last ∈ p.capturesOf c.parameter, last.1.occurrence.isLast = true →
            [(c, i), last].Sublist (p.capturesOf c.parameter)) ∧
          ∀ key : Chain, (p.matchKey .ofChains key []).entries[i]? =
            some (c, ⟨((candidates key.segments c.parameter).filter
              c.accepts)[Text.valueOf 10 digits]?, false⟩) := by
  intro hclaim
  obtain ⟨drafts, hread, hproperty⟩ := exists_ok_of_any
    (Template.read defaultRegistry "\x7bKey_2147483647\x7d")
    (fun drafts => (captureParts drafts)[0]?.any fun d : Capture (Option Occurrence) =>
      decide ((splitIdentifier d.identifier).2 = .number "2147483647"))
    (by decide +kernel)
  obtain ⟨d, hd, hdecided⟩ := (Option.any_eq_true _ _).mp hproperty
  obtain ⟨p, hp, hproperty⟩ := exists_of_compile_any defaultRegistry "\x7bKey_2147483647\x7d"
    (fun p => p.captures[0]?.any fun c => c.occurrence.isLast) (by decide +kernel)
  obtain ⟨c, hc, hlast⟩ := (Option.any_eq_true _ _).mp hproperty
  obtain ⟨hnot, _⟩ := hclaim _ p drafts hp hread 0 d _ hd (of_decide_eq_true hdecided) c hc
  cases hnot.symm.trans hlast

end Pattern

end KeyNaming
