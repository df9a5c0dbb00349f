import KeyNaming.Proofs.Regex.Excerpt

/-!
Parts that take inside of a longer text what they take from an excerpt alone.

A pliant part has all of its ways in the longer text, whatever comes behind the
excerpt. So has a part that looks for something without capturing it: where that is
found in the excerpt, it is found in the text. An anchor may not hold there, and a part
that decides once and for all may decide differently, so nothing is said of those.
-/

namespace KeyNaming.Regex

namespace Node

/-- Whether what a part takes from an excerpt it takes from each text around it. -/
def isOutward (n : Node) : Bool := n.isMadeOf (fun _ => false) true

theorem Corresponds.isOutward_eq {R : Nat → Nat → Prop} {n m : Node} (h : n.Corresponds R m) :
    n.isOutward = m.isOutward :=
  h.isMadeOf_eq (fun _ => rfl) true

theorem isPartwise_isOutward : IsPartwise isOutward where
  renumber hρ n := (n.corresponds_renumber hρ).isOutward_eq
  empty := rfl
  cat _ _ := rfl
  alt _ _ := rfl
  literal _ := rfl
  set _ := rfl

end Node

section

variable {R : Nat → Nat → Prop} {u w : Text}

/-- Each way from a point of an excerpt is one from the point of the text. -/
def KeepsWays (R : Nat → Nat → Prop) (u w : Text) (l l' : List Progress) : Prop :=
  ∀ q' ∈ l', ∃ q ∈ l, q.IsWithin R u w q'

theorem transfer_keepsWays : Transfer R u w (KeepsWays R u w) where
  single h := fun q' hq' => by
    obtain rfl := List.mem_singleton.mp hq'
    exact ⟨_, List.mem_singleton_self _, h⟩
  beyond _ := fun q' hq' => absurd hq' List.not_mem_nil
  append hl hm := fun q' hq' => by
    rcases List.mem_append.mp hq' with hq' | hq'
    · obtain ⟨q, hq, h⟩ := hl q' hq'
      exact ⟨q, List.mem_append_left _ hq, h⟩
    · obtain ⟨q, hq, h⟩ := hm q' hq'
      exact ⟨q, List.mem_append_right _ hq, h⟩
  flatMap hl _ hg := fun q' hq' => by
    obtain ⟨r', hr', hq'⟩ := List.mem_flatMap.mp hq'
    obtain ⟨r, hr, hwithin⟩ := hl r' hr'
    obtain ⟨q, hq, h⟩ := hg r r' hwithin q' hq'
    exact ⟨q, List.mem_flatMap.mpr ⟨r, hr, hq⟩, h⟩
  map hl _ hg' := fun q' hq' => by
    obtain ⟨r', hr', rfl⟩ := List.mem_map.mp hq'
    obtain ⟨r, hr, h⟩ := hl r' hr'
    exact ⟨_, List.mem_map_of_mem hr, hg' r r' h⟩

/-- So many characters before a point of an excerpt are those before the point of
the text. -/
theorem Progress.IsWithin.back? {p p' : Progress} (h : p.IsWithin R u w p') {direction : Direction}
    {position' : Position} (hfrom : direction.from? p' = some position') :
    ∃ position, direction.from? p = some position ∧
      IsWithin R u w { p with position } { p' with position := position' } := by
  cases direction with
  | ahead =>
      obtain rfl := Option.some.inj hfrom
      exact ⟨p.position, rfl, h⟩
  | behind width =>
      rw [Direction.from?, Position.back?] at hfrom
      split at hfrom
      · cases hfrom
      · next hwidth =>
        obtain rfl := Option.some.inj hfrom
        have hle : width.min ≤ p'.position.before.length := by omega
        have hback : p.position.back? width.min = some ⟨p.position.before.drop width.min,
            (p.position.before.take width.min).reverse ++ p.position.after⟩ := by
          rw [Position.back?, if_neg]
          rw [h.before, List.length_append]
          omega
        refine ⟨_, hback, h.move ⟨?_, ?_⟩⟩
        · rw [h.before, List.drop_append_of_le_length hle]
        · rw [h.before, h.after, List.take_append_of_le_length hle, List.append_assoc]

/-- Two looks from points that stand for each other, during which nothing was
marked. -/
theorem Progress.IsWithin.returned {p p' q q' : Progress} (h : p.IsWithin R u w p')
    (hq : ∀ i, Progress.Keeps i p q) (hq' : ∀ i, Progress.Keeps i p' q') :
    { q with position := p.position }.IsWithin R u w { q' with position := p'.position } where
  position := h.position
  opened i j hij := by
    rw [(hq i).1, (hq' j).1]
    exact h.opened i j hij
  closed i j hij := by
    rw [(hq i).2, (hq' j).2]
    exact h.closed i j hij

namespace Node

theorem mem_ways_look {direction : Direction} {body : Node} {f : Flags} {p q : Progress} :
    q ∈ (look direction false body).ways f p ↔
      ∃ position, direction.from? p = some position ∧
        ∃ r, (body.ways f { p with position }).head? = some r ∧
          { r with position := p.position } = q := by
  cases hfound : (direction.from? p).bind fun position =>
      (body.ways f { p with position }).head? with
  | none =>
      simp only [ways, hfound, List.not_mem_nil, false_iff]
      rintro ⟨position, hfrom, r, hr, _⟩
      rw [hfrom, Option.bind_some, hr] at hfound
      cases hfound
  | some found =>
      obtain ⟨position, hfrom, hhead⟩ := Option.bind_eq_some_iff.mp hfound
      simp only [ways, hfound, List.mem_singleton]
      constructor
      · rintro rfl
        exact ⟨position, hfrom, found, hhead, rfl⟩
      · rintro ⟨other, hother, r, hr, rfl⟩
        obtain rfl := Option.some.inj (hfrom.symm.trans hother)
        obtain rfl := Option.some.inj (hhead.symm.trans hr)
        rfl

theorem keeps_of_groups_eq_nil {n : Node} (hn : n.groups = []) {f : Flags} {p q : Progress}
    {position : Position} (hq : q ∈ n.ways f { p with position }) (i : Nat) : p.Keeps i q := by
  have hi : i ∉ n.groups := by
    rw [hn]
    exact List.not_mem_nil
  exact keeps_of_mem_ways (p := { p with position }) hi hq

/-- Where something is found from a point of an excerpt, it is found from the point of
the text, and nothing is marked there. -/
theorem keepsWays_look (direction : Direction) {n m : Node} (hn : n.groups = [])
    (hnm : n.Corresponds R m) (f : Flags)
    (hways : ∀ p p' : Progress, p.IsWithin R u w p' → KeepsWays R u w (n.ways f p) (m.ways f p'))
    (p p' : Progress) (h : p.IsWithin R u w p') :
    KeepsWays R u w ((look direction false n).ways f p) ((look direction false m).ways f p') := by
  have hm : m.groups = [] := by
    rw [← List.length_eq_zero_iff, ← hnm.length_groups, hn, List.length_nil]
  intro q' hq'
  obtain ⟨position', hfrom', r', hhead', rfl⟩ := mem_ways_look.mp hq'
  obtain ⟨position, hfrom, hwithin⟩ := h.back? hfrom'
  have hr' := List.mem_of_mem_head? hhead'
  obtain ⟨q, hq, _⟩ := hways _ _ hwithin r' hr'
  -- something is found first, if not the same
  obtain ⟨r, rest, hcons⟩ := List.exists_cons_of_ne_nil (List.ne_nil_of_mem hq)
  have hr : r ∈ n.ways f { p with position } := hcons ▸ List.mem_cons_self
  refine ⟨{ r with position := p.position }, ?_, ?_⟩
  · exact mem_ways_look.mpr ⟨position, hfrom, r, by rw [hcons, List.head?_cons], rfl⟩
  · exact h.returned (keeps_of_groups_eq_nil hn hr) (keeps_of_groups_eq_nil hm hr')

/-- What an outward part takes from an excerpt it takes from the text as well. The
numbers of groups make no difference. -/
theorem keepsWays_of_isOutward {n m : Node} (hn : n.isOutward = true) (hnm : n.Corresponds R m)
    (f : Flags) {p p' : Progress} (h : p.IsWithin R u w p') :
    KeepsWays R u w (n.ways f p) (m.ways f p') :=
  transfer_ways transfer_keepsWays (fun _ hnone => absurd hnone Bool.false_ne_true)
    (fun _ direction _ _ => keepsWays_look direction) hn hnm f h

/-- Whether a part can take a text wherever it comes next, while some groups are not
marked. -/
def Gives (fresh : Nat → Prop) (n : Node) (f : Flags) (t : Text) : Prop :=
  ∀ (p : Progress) (rest : Text), p.position.after = t ++ rest → (∀ i, fresh i → p.IsFresh i) →
    ∃ q ∈ n.ways f p, q.position.after = rest

/-- What a part can take everywhere it takes by itself. -/
theorem Gives.takes {fresh : Nat → Prop} {n : Node} {f : Flags} {t : Text}
    (h : n.Gives fresh f t) : n.Takes fresh f t := by
  obtain ⟨q, hq, hend⟩ := h (.start t) [] (List.append_nil t).symm fun i _ =>
    Progress.isFresh_start t i
  exact takes_of_mem_ways hq hend fresh

/-- What an outward part takes by itself it can take everywhere, where its groups
captured nothing yet. -/
theorem gives_of_mem_ways {n m : Node} {fresh : Nat → Prop} {f : Flags} {t : Text}
    (hn : n.isOutward = true) (hnm : n.Corresponds R m) (hfresh : ∀ i j, R i j → fresh i)
    {q' : Progress} (hq' : q' ∈ m.ways f (.start t)) (hend : q'.position.after = []) :
    n.Gives fresh f t := by
  intro p rest hafter hp
  obtain ⟨q, hq, hwithin⟩ := keepsWays_of_isOutward hn hnm f
    (Progress.isWithin_start hafter fun i j hij => hp i (hfresh i j hij)) q' hq'
  exact ⟨q, hq, by rw [hwithin.after, hend, List.nil_append]⟩

end Node

end

end KeyNaming.Regex
