import KeyNaming.Proofs.Pattern.Recognition

/-!
Reading a name whose values are separated.

A name can be taken apart in more than one way, since a value may run over the
separator of another part, and an optional part may be left out. Backtracking
tries the parts in order and each of them before it is left out, so the first
way to the end is the one by which the name was written, as long as each
separator stands in the rest of the name only where its part wrote it.
-/

namespace KeyNaming

open Regex (Node Progress literals)

/-- Whether a part writes nothing before its value, and after it one character
that is not in the text that follows, or nothing if it is the last part. -/
def Capture.IsDelimited (c : Capture Occurrence) (parts : List Part) (name : Text) : Prop :=
  c.leading = [] ∧ ((∃ s, c.trailing = [s] ∧ s ∉ name) ∨ (c.trailing = [] ∧ parts = []))

/-- Texts that parts write for values, each value up to its separator. -/
inductive Separates (value : Capture Occurrence → Option Text) : List Part → Text → Prop where
  | nil : Separates value [] []
  | literal (written text : Text) {parts : List Part} {name : Text}
      (hrest : Separates value parts name) :
      Separates value (.literal written text :: parts) (text ++ name)
  | absent (c : Capture Occurrence) {parts : List Part} {name : Text} (hvalue : value c = none)
      (hoptional : c.required = false) (hends : c.IsDelimited parts name)
      (hrest : Separates value parts name) : Separates value (.capture c :: parts) name
  | present (c : Capture Occurrence) {v : Text} {parts : List Part} {name : Text}
      (hvalue : value c = some v) (hne : v ≠ []) (hmatches : c.regex.toForm.Matches v)
      (hapart : ∀ s ∈ c.trailing, s ∉ v) (hends : c.IsDelimited parts name)
      (hrest : Separates value parts name) :
      Separates value (.capture c :: parts) (v ++ c.trailing ++ name)

namespace Separates

variable {value : Capture Occurrence → Option Text} {parts : List Part} {name : Text}

/-- What is written for values is the name that they build. -/
theorem nameOf_eq (h : Separates value parts name) :
    nameOf parts ((captureParts parts).map value) = some name := by
  induction h with
  | nil => rfl
  | literal written text _ ih => rw [captureParts_literal, nameOf, ih, Option.map_some]
  | absent c hvalue hoptional _ _ ih =>
      rw [captureParts_capture, List.map_cons, hvalue, nameOf, hoptional]
      exact ih
  | @present c v parts name hvalue hne _ _ hends _ ih =>
      obtain ⟨first, others, rfl⟩ := List.exists_cons_of_ne_nil hne
      rw [captureParts_capture, List.map_cons, hvalue]
      simp only [nameOf, ih, Option.map_some, hends.1, List.nil_append]

theorem eq_nil (h : Separates value [] name) : name = [] := by
  cases h
  rfl

end Separates

/-- The characters that end the values of parts. -/
def separators (parts : List Part) : List CodePoint :=
  (captureParts parts).flatMap Capture.trailing

def Part.Avoids (characters : List CodePoint) : Part → Prop
  | .literal _ text => ∀ s ∈ characters, s ∉ text
  | .capture _ => True

instance (characters : List CodePoint) : (part : Part) → Decidable (part.Avoids characters)
  | .literal _ text => inferInstanceAs (Decidable (∀ s ∈ characters, s ∉ text))
  | .capture _ => inferInstanceAs (Decidable True)

/-- Whether each part ends its value with a character of its own, which no
literal holds. The last part may do without one. -/
structure AreSeparated (parts : List Part) : Prop where
  leading : ∀ c ∈ captureParts parts, c.leading = []
  single : ∀ c ∈ captureParts parts, c.trailing.length ≤ 1
  ended : ∀ c ∈ captureParts parts.dropLast, c.trailing ≠ []
  distinct : (separators parts).Nodup
  literals : ∀ part ∈ parts, part.Avoids (separators parts)

instance (parts : List Part) : Decidable (AreSeparated parts) :=
  decidable_of_iff ((∀ c ∈ captureParts parts, c.leading = []) ∧
      (∀ c ∈ captureParts parts, c.trailing.length ≤ 1) ∧
      (∀ c ∈ captureParts parts.dropLast, c.trailing ≠ []) ∧ (separators parts).Nodup ∧
      ∀ part ∈ parts, part.Avoids (separators parts))
    ⟨fun ⟨leading, single, ended, distinct, literals⟩ =>
        ⟨leading, single, ended, distinct, literals⟩,
      fun h => ⟨h.leading, h.single, h.ended, h.distinct, h.literals⟩⟩

theorem Part.Avoids.mono {part : Part} {characters others : List CodePoint}
    (h : part.Avoids others) (hsubset : characters ⊆ others) : part.Avoids characters := by
  cases part with
  | literal written text => exact fun s hs => h s (hsubset hs)
  | capture c => trivial

theorem separators_cons (part : Part) (rest : List Part) :
    separators (part :: rest) =
      part.capture?.toList.flatMap Capture.trailing ++ separators rest := by
  cases part with
  | literal written text => rfl
  | capture c =>
      rw [separators, captureParts_capture, List.flatMap_cons]
      exact congrArg (· ++ separators rest) (List.append_nil c.trailing).symm

theorem separators_subset_cons (part : Part) (rest : List Part) :
    separators rest ⊆ separators (part :: rest) := by
  rw [separators_cons]
  exact List.subset_append_right _ _

namespace AreSeparated

theorem tail {part : Part} {rest : List Part} (h : AreSeparated (part :: rest)) :
    AreSeparated rest := by
  have hcaptures : captureParts rest ⊆ captureParts (part :: rest) := by
    intro c hc
    rw [mem_captureParts] at hc ⊢
    exact List.mem_cons_of_mem part hc
  refine ⟨fun c hc => h.leading c (hcaptures hc), fun c hc => h.single c (hcaptures hc), ?_, ?_,
    fun other hother => (h.literals other (List.mem_cons_of_mem part hother)).mono
      (separators_subset_cons part rest)⟩
  · intro c hc
    apply h.ended c
    rw [mem_captureParts] at hc ⊢
    rw [List.dropLast_cons_of_ne_nil]
    · exact List.mem_cons_of_mem part hc
    · rintro rfl
      cases hc
  · have hdistinct := h.distinct
    rw [separators_cons] at hdistinct
    exact hdistinct.of_append_right

variable {c : Capture Occurrence} {rest : List Part}

theorem not_mem_separators (h : AreSeparated (.capture c :: rest)) {s : CodePoint}
    (hs : s ∈ c.trailing) : s ∉ separators rest := by
  have hdistinct := h.distinct
  rw [separators, captureParts_capture, List.flatMap_cons] at hdistinct
  exact fun hmem => (List.nodup_append.mp hdistinct).2.2 s hs s hmem rfl

theorem isDelimited (h : AreSeparated (.capture c :: rest)) {name : Text}
    (hname : ∀ s ∈ c.trailing, s ∉ name) : c.IsDelimited rest name := by
  refine ⟨h.leading c List.mem_cons_self, ?_⟩
  have hsingle := h.single c List.mem_cons_self
  cases htrailing : c.trailing with
  | nil =>
      refine .inr ⟨rfl, ?_⟩
      by_contra hrest
      refine h.ended c ?_ htrailing
      rw [mem_captureParts, List.dropLast_cons_of_ne_nil hrest]
      exact List.mem_cons_self
  | cons s others =>
      rw [htrailing] at hsingle hname
      have hothers : others = [] := by simpa using hsingle
      exact .inl ⟨s, by rw [hothers], hname s List.mem_cons_self⟩

end AreSeparated

/-- A character that ends no value and is in no literal and no value is not in
the name. -/
theorem Separates.not_mem {value : Capture Occurrence → Option Text} {parts : List Part}
    {name : Text} (h : Separates value parts name) {s : CodePoint}
    (hliterals : ∀ part ∈ parts, part.Avoids [s])
    (hvalues : ∀ c ∈ captureParts parts, ∀ v ∈ value c, s ∉ v) (hs : s ∉ separators parts) :
    s ∉ name := by
  induction h with
  | nil => exact List.not_mem_nil
  | literal written text _ ih =>
      have htext := hliterals _ List.mem_cons_self s (List.mem_singleton_self s)
      have hrest := ih (fun part hpart => hliterals part (List.mem_cons_of_mem _ hpart)) hvalues hs
      exact fun hmem => (List.mem_append.mp hmem).elim htext hrest
  | absent c hvalue _ _ _ ih =>
      rw [separators_cons, List.mem_append, not_or] at hs
      exact ih (fun part hpart => hliterals part (List.mem_cons_of_mem _ hpart))
        (fun d hd => hvalues d (List.mem_cons_of_mem c hd)) hs.2
  | @present c v _ _ hvalue _ _ _ _ _ ih =>
      rw [separators_cons, List.mem_append, not_or] at hs
      have hrest := ih (fun part hpart => hliterals part (List.mem_cons_of_mem _ hpart))
        (fun d hd => hvalues d (List.mem_cons_of_mem c hd)) hs.2
      have hv := hvalues c List.mem_cons_self v hvalue
      have htrailing : s ∉ c.trailing := by simpa [PartOf.capture?] using hs.1
      simp [hv, htrailing, hrest]

/-- Separated parts write a name for values in which no separator stands. -/
theorem AreSeparated.exists_separates {parts : List Part} (h : AreSeparated parts)
    {value : Capture Occurrence → Option Text}
    (hrequired : ∀ c ∈ captureParts parts, c.required = true → (value c).isSome = true)
    (hvalues : ∀ c ∈ captureParts parts, ∀ v ∈ value c,
      v ≠ [] ∧ c.regex.toForm.Matches v ∧ ∀ s ∈ separators parts, s ∉ v) :
    ∃ name, Separates value parts name := by
  induction parts with
  | nil => exact ⟨[], .nil⟩
  | cons part rest ih =>
      cases part with
      | literal written text =>
          obtain ⟨name, hname⟩ := ih h.tail hrequired hvalues
          exact ⟨text ++ name, .literal written text hname⟩
      | capture c =>
          have hsubset := separators_subset_cons (.capture c) rest
          have hc := List.mem_cons_self (a := c) (l := captureParts rest)
          obtain ⟨name, hname⟩ := ih h.tail
            (fun d hd => hrequired d (List.mem_cons_of_mem c hd))
            (fun d hd v hv => by
              obtain ⟨hne, hmatches, hapart⟩ := hvalues d (List.mem_cons_of_mem c hd) v hv
              exact ⟨hne, hmatches, fun s hs => hapart s (hsubset hs)⟩)
          have htrailing : c.trailing ⊆ separators (.capture c :: rest) :=
            List.subset_append_left _ _
          have hends : c.IsDelimited rest name := by
            refine h.isDelimited fun s hs => hname.not_mem ?_ ?_ (h.not_mem_separators hs)
            · intro other hother
              exact (h.literals other (List.mem_cons_of_mem _ hother)).mono
                (by simpa using htrailing hs)
            · intro d hd v hv
              exact (hvalues d (List.mem_cons_of_mem c hd) v hv).2.2 s (htrailing hs)
          cases hvalue : value c with
          | none =>
              have hoptional : c.required = false := by
                by_contra hrequired'
                have hsome := hrequired c hc (by simpa using hrequired')
                rw [hvalue] at hsome
                cases hsome
              exact ⟨name, .absent c hvalue hoptional hends hname⟩
          | some v =>
              obtain ⟨hne, hmatches, hapart⟩ := hvalues c hc v hvalue
              exact ⟨_, .present c hvalue hne hmatches
                (fun s hs => hapart s (htrailing hs)) hends hname⟩

/-- What is taken after the first way that leads on is found, whatever comes
after ways of which each leads on as it should or to nothing. -/
theorem exists_find?_seq_append {first later : List Node} {p : Progress}
    {ways others : List Progress} (hsplit : (Node.seq first).ways {} p = ways ++ others)
    {Q R : Progress → Prop} (hsome : ∃ r ∈ ways, Q r)
    (hways : ∀ r ∈ ways, Q r ∨ ((Node.seq later).ways {} r).find? Progress.isAtEnd = none)
    (hlater : ∀ r ∈ ways, Q r →
      ∃ q, ((Node.seq later).ways {} r).find? Progress.isAtEnd = some q ∧ R q) :
    ∃ r ∈ ways, Q r ∧ ∃ q ∈ (Node.seq later).ways {} r,
      ((Node.seq (first ++ later)).ways {} p).find? Progress.isAtEnd = some q ∧ R q := by
  rw [Node.ways_seq_append, hsplit]
  clear hsplit
  induction ways with
  | nil => simp at hsome
  | cons r rest ih =>
      rcases hways r List.mem_cons_self with hQ | hnone
      · obtain ⟨q, hq, hR⟩ := hlater r List.mem_cons_self hQ
        refine ⟨r, List.mem_cons_self, hQ, q, List.mem_of_find?_eq_some hq, ?_, hR⟩
        rw [List.cons_append, List.flatMap_cons, List.find?_append, hq, Option.some_or]
      · have hrest : ∃ s ∈ rest, Q s := by
          obtain ⟨s, hs, hQ⟩ := hsome
          rcases List.mem_cons.mp hs with rfl | hs
          · obtain ⟨_, hlead, _⟩ := hlater s List.mem_cons_self hQ
            rw [hnone] at hlead
            cases hlead
          · exact ⟨s, hs, hQ⟩
        obtain ⟨s, hs, hQ, q, hq, hfind, hR⟩ := ih hrest
          (fun s hs => hways s (List.mem_cons_of_mem r hs))
          (fun s hs => hlater s (List.mem_cons_of_mem r hs))
        refine ⟨s, List.mem_cons_of_mem r hs, hQ, q, hq, ?_, hR⟩
        rw [List.cons_append, List.flatMap_cons, List.find?_append, hnone, Option.none_or, hfind]

theorem exists_ways_item (c : Capture Occurrence) (nodes : List Node) (p : Progress) :
    ∃ others, (Node.seq (c.item nodes).nodes).ways {} p =
      (Node.seq nodes).ways {} p ++ others := by
  cases hrequired : c.required with
  | true =>
      refine ⟨[], ?_⟩
      rw [Capture.item, hrequired, List.append_nil]
      rfl
  | false => exact ⟨[p], ways_item_optional c hrequired nodes p⟩

section

variable {value : Capture Occurrence → Option Text} {names : List (Text × Nat)}
variable {c : Capture Occurrence} {parts : List Part} {name : Text}
variable {i : Nat} {body : Node} {p r : Progress}

/-- A value ends at its separator, unless the rest of the name cannot be taken
after it. -/
theorem after_of_present (hends : c.IsDelimited parts name) {v : Text}
    (hapart : ∀ s ∈ c.trailing, s ∉ v) (hrest : Separates value parts name)
    {later : List (List Node)} (hmeans : List.Forall₂ (Part.Means [] names) parts later)
    (hnodup : ((c.nodes i body).flatMap Node.groups).Nodup)
    (hafter : p.position.after = v ++ c.trailing ++ name)
    (hr : r ∈ (Node.seq (c.nodes i body)).ways {} p) :
    r.position.after = name ∨
      ((Node.seq later.flatten).ways {} r).find? Progress.isAtEnd = none := by
  obtain ⟨w, hw, _⟩ := exists_value_of_mem_ways c hnodup hr
  obtain ⟨hleading, hseparator⟩ := hends
  rw [hafter, hleading, List.nil_append] at hw
  rcases hseparator with ⟨s, htrailing, hs⟩ | ⟨_, rfl⟩
  · rw [htrailing] at hw hapart
    have hv : s ∉ v := hapart s (List.mem_singleton_self s)
    -- the separator stands only once after the start of the value
    have hsplit : v ++ s :: name = w ++ s :: r.position.after := by simpa using hw
    obtain ⟨_, _, hname⟩ := (List.append_cons_inj_of_notMem hv hs).mp hsplit
    exact .inl hname.symm
  · obtain rfl := hrest.eq_nil
    cases hmeans
    by_cases hend : r.position.after = []
    · exact .inl hend
    · refine .inr ?_
      simpa [Node.ways, Progress.isAtEnd] using hend

/-- A part that ends where its separator ends has captured its value. -/
theorem group?_of_present (hleading : c.leading = []) {v : Text}
    (hnodup : ((c.nodes i body).flatMap Node.groups).Nodup)
    (hafter : p.position.after = v ++ c.trailing ++ name)
    (hr : r ∈ (Node.seq (c.nodes i body)).ways {} p) (hrest : r.position.after = name) :
    r.group? i = some v := by
  obtain ⟨w, hw, hcaptured, _⟩ := exists_value_of_mem_ways c hnodup hr
  rw [hafter, hleading, List.nil_append, hrest] at hw
  have hvalue : v = w := List.append_cancel_right (List.append_cancel_right hw)
  rw [hcaptured, hvalue]

/-- A part without a value can take nothing but an empty one. -/
theorem group?_of_absent (hends : c.IsDelimited parts name) (hrest : Separates value parts name)
    (hnodup : ((c.nodes i body).flatMap Node.groups).Nodup) (hafter : p.position.after = name)
    (hr : r ∈ (Node.seq (c.nodes i body)).ways {} p) :
    r.position.after = name ∧ Pattern.nonEmpty (r.group? i) = none := by
  obtain ⟨w, hw, hcaptured, _⟩ := exists_value_of_mem_ways c hnodup hr
  obtain ⟨_, hseparator⟩ := hends
  rw [hafter] at hw
  rcases hseparator with ⟨s, htrailing, hs⟩ | ⟨_, rfl⟩
  · exact absurd (by simp [hw, htrailing]) hs
  · obtain rfl := hrest.eq_nil
    obtain ⟨hfront, hend⟩ := List.append_eq_nil_iff.mp hw.symm
    have hempty : w = [] := (List.append_eq_nil_iff.mp (List.append_eq_nil_iff.mp hfront).1).2
    rw [hcaptured, hempty]
    exact ⟨hend, rfl⟩

/-- Whether the first way to the end of a name captures the values of parts,
wherever it starts with their groups empty. -/
def Captures (value : Capture Occurrence → Option Text) (names : List (Text × Nat))
    (parts : List Part) (nodes : List Node) (name : Text) : Prop :=
  ∀ p : Progress, (∀ j ∈ nodes.flatMap Node.groups, p.group? j = none) →
    p.position.after = name →
      ∃ q, ((Node.seq nodes).ways {} p).find? Progress.isAtEnd = some q ∧
        ∀ c ∈ captureParts parts, Pattern.nonEmpty (q.named? names c.identifier) = value c

theorem captures_literal {text : Text} {later : List Node}
    (hlater : Captures value names parts later name) (written : Text)
    (hnodup : ((literals text ++ later).flatMap Node.groups).Nodup) :
    Captures value names (.literal written text :: parts) (literals text ++ later)
      (text ++ name) := by
  intro p hp hafter
  have hway (r : Progress) (hr : r ∈ (Node.seq (literals text)).ways {} p) :
      r.position.after = name := by
    obtain ⟨rest, hsplit, rfl⟩ := (Regex.mem_ways_literals text rfl p r).mp hr
    exact List.append_cancel_left (hsplit.symm.trans hafter)
  obtain ⟨_, _, _, q, _, hfind, hvalues⟩ := exists_find?_seq_append
    (Q := fun r => r.position.after = name) (List.append_nil _).symm
    ⟨_, (Regex.mem_ways_literals text rfl p _).mpr ⟨name, hafter, rfl⟩, rfl⟩
    (fun r hr => .inl (hway r hr))
    (fun r hr _ => hlater r (group?_eq_none_of_mem_ways hnodup hp hr) (hway r hr))
  exact ⟨q, hfind, hvalues⟩

section

variable {later : List Node} (hlater : Captures value names parts later name)
variable (hname : names.lookup c.identifier = some i)
variable (hnodup : (((c.item (c.nodes i body)).nodes ++ later).flatMap Node.groups).Nodup)
variable (hp : ∀ j ∈ ((c.item (c.nodes i body)).nodes ++ later).flatMap Node.groups,
  p.group? j = none)
include hlater hname hnodup hp

/-- A part that captures as it should is followed by what is found after it. -/
theorem exists_find?_capture {ways others : List Progress}
    (hsplit : (Node.seq (c.item (c.nodes i body)).nodes).ways {} p = ways ++ others)
    (hsome : ∃ r ∈ ways, r.position.after = name)
    (hways : ∀ r ∈ ways, r.position.after = name ∨
      ((Node.seq later).ways {} r).find? Progress.isAtEnd = none)
    (hcaptured : ∀ r ∈ ways, r.position.after = name →
      Pattern.nonEmpty (r.group? i) = value c) :
    ∃ q, ((Node.seq ((c.item (c.nodes i body)).nodes ++ later)).ways {} p).find?
        Progress.isAtEnd = some q ∧
      ∀ d ∈ captureParts (.capture c :: parts),
        Pattern.nonEmpty (q.named? names d.identifier) = value d := by
  have hfresh (r : Progress) (hr : r ∈ ways) : ∀ j ∈ later.flatMap Node.groups,
      r.group? j = none := by
    apply group?_eq_none_of_mem_ways hnodup hp
    rw [hsplit]
    exact List.mem_append_left others hr
  obtain ⟨r, hr, hafter, q, hq, hfind, hvalues⟩ := exists_find?_seq_append hsplit hsome hways
    (fun r hr hafter => hlater r (hfresh r hr) hafter)
  refine ⟨q, hfind, ?_⟩
  intro d hd
  rcases List.mem_cons.mp hd with rfl | hd
  · rw [named?_eq_of_mem_ways hname (mem_groups_item d i body) hnodup hq, Progress.named?, hname]
    exact hcaptured r hr hafter
  · exact hvalues d hd

end

theorem captures_absent {later : List Node} (hlater : Captures value names parts later name)
    (hname : names.lookup c.identifier = some i)
    (hnodup : (((c.item (c.nodes i body)).nodes ++ later).flatMap Node.groups).Nodup)
    (hvalue : value c = none) (hoptional : c.required = false)
    (hends : c.IsDelimited parts name) (hrest : Separates value parts name) :
    Captures value names (.capture c :: parts) ((c.item (c.nodes i body)).nodes ++ later)
      name := by
  intro p hp hafter
  have hnodupFirst := hnodup
  rw [List.flatMap_append, groups_item] at hnodupFirst
  have hway (r : Progress) (hr : r ∈ (Node.seq (c.nodes i body)).ways {} p ++ [p]) :
      r.position.after = name ∧ Pattern.nonEmpty (r.group? i) = none := by
    rcases List.mem_append.mp hr with hr | hr
    · exact group?_of_absent hends hrest hnodupFirst.of_append_left hafter hr
    · obtain rfl := List.mem_singleton.mp hr
      have hi : i ∈ ((c.item (c.nodes i body)).nodes ++ later).flatMap Node.groups := by
        rw [List.flatMap_append]
        exact List.mem_append_left _ (mem_groups_item c i body)
      rw [hp i hi]
      exact ⟨hafter, rfl⟩
  refine exists_find?_capture hlater hname hnodup hp
    ((ways_item_optional c hoptional _ p).trans (List.append_nil _).symm)
    ⟨p, List.mem_append_right _ (List.mem_singleton_self p), hafter⟩
    (fun r hr => .inl (hway r hr).1) ?_
  intro r hr _
  rw [hvalue]
  exact (hway r hr).2

theorem captures_present {v : Text} {nodes : List (List Node)}
    (hlater : Captures value names parts nodes.flatten name)
    (hname : names.lookup c.identifier = some i)
    (hnodup : (((c.item (c.nodes i body)).nodes ++ nodes.flatten).flatMap Node.groups).Nodup)
    (hvalue : value c = some v) (hne : v ≠ []) (hbody : body.Spells {} v)
    (hapart : ∀ s ∈ c.trailing, s ∉ v) (hends : c.IsDelimited parts name)
    (hrest : Separates value parts name)
    (hmeans : List.Forall₂ (Part.Means [] names) parts nodes) :
    Captures value names (.capture c :: parts) ((c.item (c.nodes i body)).nodes ++ nodes.flatten)
      (v ++ c.trailing ++ name) := by
  intro p hp hafter
  have hnodupFirst := hnodup
  rw [List.flatMap_append, groups_item] at hnodupFirst
  obtain ⟨others, hsplit⟩ := exists_ways_item c (c.nodes i body) p
  have hspells := spells_nodes c i hbody
  rw [hends.1, List.nil_append] at hspells
  refine exists_find?_capture hlater hname hnodup hp hsplit
    (Node.exists_mem_ways_of_spells _ {} _ hspells p name hafter)
    (fun r hr => after_of_present hends hapart hrest hmeans hnodupFirst.of_append_left hafter hr) ?_
  intro r hr hend
  rw [group?_of_present hends.1 hnodupFirst.of_append_left hafter hr hend, hvalue]
  obtain ⟨first, others, rfl⟩ := List.exists_cons_of_ne_nil hne
  rfl

/-- The first way to the end of a separated name captures the values that it
was written for. -/
theorem captures_of_separates (h : Separates value parts name) {nodes : List (List Node)}
    (hmeans : List.Forall₂ (Part.Means [] names) parts nodes)
    (hregular : ∀ c ∈ captureParts parts, c.regex.isRegularStripped = true)
    (hnodup : (nodes.flatten.flatMap Node.groups).Nodup) :
    Captures value names parts nodes.flatten name := by
  induction h generalizing nodes with
  | nil =>
      cases hmeans
      intro p _ hafter
      refine ⟨p, ?_, by simp⟩
      simp [Node.ways, Progress.isAtEnd, hafter]
  | literal written text _ ih =>
      obtain ⟨first, later, hfirst, hothers, rfl⟩ := List.forall₂_cons_left_iff.mp hmeans
      cases hfirst
      rw [List.flatten_cons] at hnodup ⊢
      have hnodups := hnodup
      rw [List.flatMap_append] at hnodups
      exact captures_literal (ih hothers hregular hnodups.of_append_right) written hnodup
  | absent c hvalue hoptional hends hrest ih =>
      obtain ⟨first, later, hfirst, hothers, rfl⟩ := List.forall₂_cons_left_iff.mp hmeans
      rw [List.flatten_cons] at hnodup ⊢
      have hnodups := hnodup
      rw [List.flatMap_append] at hnodups
      have hlater := ih hothers (fun d hd => hregular d (List.mem_cons_of_mem c hd))
        hnodups.of_append_right
      cases hfirst with
      | given c hknown => cases hknown
      | group c _ hname _ =>
          exact captures_absent hlater hname hnodup hvalue hoptional hends hrest
  | present c hvalue hne hmatches hapart hends hrest ih =>
      obtain ⟨first, later, hfirst, hothers, rfl⟩ := List.forall₂_cons_left_iff.mp hmeans
      rw [List.flatten_cons] at hnodup ⊢
      have hnodups := hnodup
      rw [List.flatMap_append] at hnodups
      have hlater := ih hothers (fun d hd => hregular d (List.mem_cons_of_mem c hd))
        hnodups.of_append_right
      cases hfirst with
      | given c hknown => cases hknown
      | group c _ hname hheld =>
          have hspells := hheld.spells (hregular c List.mem_cons_self) _ hmatches
          exact captures_present hlater hname hnodup hvalue hne hspells hapart hends hrest hothers

end

end KeyNaming
