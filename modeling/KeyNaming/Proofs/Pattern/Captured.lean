import KeyNaming.Proofs.Pattern.Recognition

/-!
What the groups of a pattern's expression capture.

Each part of a pattern takes its turn at a name, and what its group has captured
then stays. Where the expression of a part takes from each excerpt of a text what
it takes from the text, it matches by itself what its group captured, so the part
accepts it.
-/

namespace KeyNaming

open Regex (Node Progress literals)

variable {known : Prefilled} {names : List (Text × Nat)}

/-- Each part takes its turn, whatever it is known to stand for. Before it only the
groups of parts in front of it were marked, and later parts leave its own groups
alone. -/
theorem exists_turn {standsFor : Part → List Node → Prop} {parts : List Part}
    {nodes : List (List Node)} (hparts : List.Forall₂ standsFor parts nodes)
    (hnodup : (nodes.flatten.flatMap Node.groups).Nodup) {p q : Progress}
    (hq : q ∈ (Node.seq nodes.flatten).ways {} p) {part : Part} (hpart : part ∈ parts) :
    ∃ taken earlier before after, standsFor part taken ∧
      (earlier ++ taken.flatMap Node.groups).Sublist (nodes.flatten.flatMap Node.groups) ∧
      (∀ i ∉ earlier, p.Keeps i before) ∧
      after ∈ (Node.seq taken).ways {} before ∧
      ∀ i ∈ taken.flatMap Node.groups, q.group? i = after.group? i := by
  induction hparts generalizing p with
  | nil => cases hpart
  | @cons first taken parts nodes hfirst _ ih =>
      rw [List.flatten_cons] at hq
      rw [List.flatten_cons, List.flatMap_append] at hnodup ⊢
      obtain ⟨r, hr, hlater⟩ := (Node.mem_ways_seq_append _ _ _ _ _).mp hq
      obtain ⟨_, hnodupOthers, hapart⟩ := List.nodup_append.mp hnodup
      rcases List.mem_cons.mp hpart with rfl | hpart
      · refine ⟨taken, [], p, r, hfirst, List.sublist_append_left _ _, fun i _ => .refl i p, hr,
          ?_⟩
        intro i hi
        have hfresh : i ∉ (Node.seq nodes.flatten).groups := by
          rw [Node.groups_seq]
          exact fun hmem => hapart i hi i hmem rfl
        exact (Node.keeps_of_mem_ways hfresh hlater).group?
      · obtain ⟨own, earlier, before, after, hstands, hsublist, hkeeps, hafter, hsame⟩ :=
          ih hnodupOthers hlater hpart
        refine ⟨own, taken.flatMap Node.groups ++ earlier, before, after, hstands, ?_, ?_, hafter,
          hsame⟩
        · rw [List.append_assoc]
          exact (List.Sublist.refl _).append hsublist
        · intro i hi
          rw [List.mem_append, not_or, ← Node.groups_seq] at hi
          exact (Node.keeps_of_mem_ways hi.1 hr).trans (hkeeps i hi.2)

/-- What the group of a part captured, its expression matches by itself. The groups
inside were not marked before, since their numbers are above those in front. -/
theorem matches_of_named?_eq_some {parts : List Part} {nodes : List (List Node)}
    (hmeans : List.Forall₂ (Part.Means known names) parts nodes) {n : Nat}
    (hnumbers : (nodes.flatten.flatMap Node.groups).Sublist (List.range' 1 n)) {p q : Progress}
    (hp : ∀ i, p.IsFresh i) (hq : q ∈ (Node.seq nodes.flatten).ways {} p)
    {c : Capture Occurrence} (hc : PartOf.capture c ∈ parts)
    (hknown : known.value? c.identifier = none) (hinward : c.regex.isInward = true) {v : Text}
    (hv : q.named? names c.identifier = some v) : c.regex.toForm.Matches v := by
  obtain ⟨taken, earlier, before, after, hmeans, hsublist, hkeeps, hafter, hsame⟩ :=
    exists_turn hmeans (hnumbers.nodup List.nodup_range') hq hc
  have hnumbers := hsublist.trans hnumbers
  have hnodup := (List.nodup_append.mp (hnumbers.nodup List.nodup_range')).2.1
  cases hmeans with
  | given c hvalue => rw [hknown] at hvalue; cases hvalue
  | @group _ i body _ hname hheld =>
      have hi := mem_groups_item c i body
      have hfresh (j : Nat) (hj : j ∉ earlier) : before.IsFresh j := (hkeeps j hj).isFresh (hp j)
      have hown : i ∉ earlier := fun hj =>
        (List.nodup_append.mp (hnumbers.nodup List.nodup_range')).2.2 i hj i hi rfl
      rw [Progress.named?, hname, Option.bind_some, hsame i hi] at hv
      refine hheld.takes hinward v
        ((takes_of_group?_eq_some c hnodup (hfresh i hown).group? hafter hv).mono ?_)
      rintro _ ⟨k, rfl⟩
      exact isFresh_shifted hnumbers hi hfresh k

theorem Capture.accepts_of_matches {O : Type} {c : Capture O} {v : Text}
    (h : c.regex.toForm.Matches v) : c.accepts v = true := by
  obtain ⟨q, hq, hend⟩ := h
  rw [accepts, Bool.or_eq_true_iff]
  refine .inr ?_
  rw [Regex.matches?, Regex.fullMatch?, Regex.run_end_eq_find?, List.find?_isSome]
  exact ⟨q, hq, List.isEmpty_iff.mpr hend⟩

namespace Pattern

/-- A part accepts what its group captures, if its expression takes from each
excerpt of a text what it takes from the text. -/
theorem accepts_of_namedGroup? {r : Registry} {template : Text} {p : Pattern}
    (hp : Pattern.compile r template = .ok p) (hparts : p.IsEmbeddable []) {name : Text}
    {found : Progress}
    (hfound : p.regex.fullMatch? name = some found) {c : Capture Occurrence} (hc : c ∈ p.captures)
    (hinward : c.regex.isInward = true) {v : Text}
    (hv : p.regex.namedGroup? found c.identifier = some v) : c.accepts v = true := by
  obtain ⟨nodes, hmeans, ⟨n, hnumbers⟩, hmem, _⟩ := exists_ways_of_fullMatch? hp hparts hfound
  exact Capture.accepts_of_matches (matches_of_named?_eq_some hmeans hnumbers
    (Progress.isFresh_start name) hmem ((mem_captureParts p.parts c).mp hc) rfl hinward hv)

/-- A value that was not copied is what the group of the part captured. -/
theorem value_of_mem_entries_captured {p : Pattern} {regex : Regex} {found : Progress}
    {entry : Capture Occurrence × Slot} (hentry : entry ∈ (p.captured [] regex found).entries)
    (hcopied : entry.2.copied = false) :
    entry.1 ∈ p.captures ∧
      entry.2.value = nonEmpty (regex.namedGroup? found entry.1.identifier) := by
  rw [captured, Match.entries_share] at hentry
  obtain ⟨c, hc, rfl⟩ := List.mem_map.mp hentry
  refine ⟨hc, ?_⟩
  rw [Match.sharedSlot_eq_of_not_copied hcopied]
  rfl

/-- A part accepts what it took from a name, if its expression takes from each excerpt
of a text what it takes from the text, and those of all parts can be read without the
flags that are given beside them. -/
theorem accepts_of_matchText {r : Registry} {template : Text} {p : Pattern}
    (hp : Pattern.compile r template = .ok p) (hparts : p.IsEmbeddable []) (name : Text) :
    ∃ m, p.matchText name [] = .ok m ∧ ∀ entry ∈ m.entries, entry.2.copied = false →
      entry.1.regex.isInward = true → ∀ v ∈ entry.2.value, entry.1.accepts v = true := by
  refine ⟨p.matchWith [] p.regex name, rfl, fun entry hentry hcopied hinward v hv => ?_⟩
  rw [matchWith] at hentry
  split at hentry
  · -- no part has a value where the name does not match
    rw [Match.blank, Match.entries_map] at hentry
    obtain ⟨c, _, rfl⟩ := List.mem_map.mp hentry
    cases hv
  · next found hfound =>
    obtain ⟨hc, hvalue⟩ := value_of_mem_entries_captured hentry hcopied
    exact accepts_of_namedGroup? hp hparts hfound hc hinward
      (eq_some_of_nonEmpty (hvalue.symm.trans hv))

/-- An expression that decides for itself what it takes, and takes it once more by
its name, in front of a type. -/
theorem accepts_of_matchText_enclosed :
    ∃ p m, Pattern.compile defaultRegistry
        "\x7bKey<^(?!x|a(?=x))(?P\\<stem\\>(?\\>ab?))c++(?P=stem)>\x7d[:Type]" = .ok p ∧
      p.matchText "abccab:Ui" [] = .ok m ∧
      m.values = ([some "abccab", some "Ui"] : List (Option Text)) ∧
      ∀ entry ∈ m.entries, ∀ v ∈ entry.2.value, entry.1.accepts v = true := by
  obtain ⟨p, hp, hproperty⟩ := exists_of_compile_any defaultRegistry
    "\x7bKey<^(?!x|a(?=x))(?P\\<stem\\>(?\\>ab?))c++(?P=stem)>\x7d[:Type]"
    (fun p => decide (p.IsEmbeddable []) &&
      (p.matchText "abccab:Ui" []).toOption.any fun m : Match =>
        decide (m.values = ([some "abccab", some "Ui"] : List (Option Text))) &&
          m.entries.all fun entry : Capture Occurrence × Slot =>
            !entry.2.copied && entry.1.regex.isInward)
    (by decide +kernel)
  obtain ⟨hparts, hproperty⟩ := Bool.and_eq_true_iff.mp hproperty
  obtain ⟨m, hm, haccepts⟩ := accepts_of_matchText hp (of_decide_eq_true hparts) "abccab:Ui"
  rw [hm] at hproperty
  obtain ⟨hvalues, hall⟩ := Bool.and_eq_true_iff.mp hproperty
  refine ⟨p, m, hp, hm, of_decide_eq_true hvalues, fun entry hentry => ?_⟩
  obtain ⟨hcopied, hinward⟩ := Bool.and_eq_true_iff.mp (List.all_eq_true.mp hall entry hentry)
  exact haccepts entry hentry (by simpa using hcopied) hinward

/-- Whether a part takes something from a name that it does not accept. -/
def IsMisfit (template name : Text) (r : Registry := defaultRegistry) : Prop :=
  ∃ p m, Pattern.compile r template = .ok p ∧ p.matchText name [] = .ok m ∧
    ∃ entry ∈ m.entries, entry.2.copied = false ∧ ∃ v ∈ entry.2.value, entry.1.accepts v = false

theorem isMisfit_of_any {template name : Text} {r : Registry}
    (h : (Pattern.compile r template).toOption.any (fun p =>
      (p.matchText name []).toOption.any fun m => m.entries.any fun entry =>
        !entry.2.copied && entry.2.value.any fun v => !entry.1.accepts v) = true) :
    IsMisfit template name r := by
  obtain ⟨p, hp, hproperty⟩ := exists_of_compile_any r template _ h
  obtain ⟨m, hm, hany⟩ := exists_ok_of_any _ _ hproperty
  obtain ⟨entry, hentry, htaken⟩ := List.any_eq_true.mp hany
  obtain ⟨hcopied, hvalue⟩ := Bool.and_eq_true_iff.mp htaken
  obtain ⟨v, hv, hrejected⟩ := (Option.any_eq_true _ _).mp hvalue
  exact ⟨p, m, hp, hm, entry, hentry, by simpa using hcopied, v, hv, by simpa using hrejected⟩

/-- A registry where keys are words of plain letters and digits. -/
def asciiRegistry : Registry :=
  ({} : Registry).withInfo
    { name := "key", classification := .canonical
      pattern := regexOf "\\w+" { ascii := true } }

/-- What stands against accepting what was taken: flags beside an expression,
lookaround, a word boundary, a reference or a condition by a number that is another one in
the longer expression, and a part that decides what another part does that looks at an end,
captures what it looks for or decides for itself. -/
theorem not_accepts_matchText :
    IsMisfit "[Key]" "é" asciiRegistry ∧
      IsMisfit "\x7bKey<a(?=b)>\x7db" "ab" ∧
      IsMisfit "x\x7bKey<(?\\<=x)a>\x7d" "xa" ∧
      IsMisfit "\x7bKey<-\\b>\x7db" "-b" ∧
      IsMisfit "\x7bKey<a\\B>\x7db" "ab" ∧
      IsMisfit "[Type:]\x7bKey<(a)\\1>\x7d" "t:at" ∧
      IsMisfit "[Type:]\x7bKey<(a)?(?(1)b|c)>\x7d" "t:b" ∧
      IsMisfit "\x7bKey<a(?!b$)b>\x7dc" "abc" ∧
      IsMisfit "\x7bKey<a(?!(?!b))>\x7db" "ab" ∧
      IsMisfit "\x7bKey<(?!(?=(?P\\<n\\>abc|a))(?P=n)b)ab>\x7dc" "abc" ∧
      IsMisfit "\x7bKey<(?!(?\\>abc|a)b)ab>\x7dc" "abc" ∧
      IsMisfit "\x7bKey<(?!(?:abc|a)++b)ab>\x7dc" "abc" ∧
      IsMisfit "\x7bKey<(?\\>ab$|a)b>\x7dc" "abc" ∧
      IsMisfit "\x7bKey<(?\\>(?!xyb)x|xy)>\x7db" "xyb" ∧
      IsMisfit "\x7bKey<(?\\>(?\\>abbc|a)b|abb)>\x7dc" "abbc" ∧
      IsMisfit "\x7bKey<(?\\>(?:abbc|a)++b|abb)>\x7dc" "abbc" ∧
      IsMisfit "\x7bKey<(?:ab$|a)++b>\x7dc" "abc" ∧
      IsMisfit "\x7bKey<(?:(?!xyb)x|xy)++>\x7db" "xyb" ∧
      IsMisfit "\x7bKey<(?:(?\\>abbc|a)b|abb)++>\x7dc" "abbc" ∧
      IsMisfit "\x7bKey<(?:(?:abbc|a)++b|abb)++>\x7dc" "abbc" := by
  and_intros <;> exact isMisfit_of_any (by decide +kernel)

end Pattern

end KeyNaming
