import KeyNaming.Proofs.Regex.Excerpt

/-!
Parts that differ in the numbers of groups alone.

A regular part looks at nothing but the text that is left. So the numbers of its
groups show neither in the order in which its ways are tried nor in what each
way leaves, and one such part can stand in for another in a search for the
first way to the end.
-/

namespace KeyNaming.Regex

/-- Whether the same text is left at two points. -/
def Progress.Aligned (p q : Progress) : Prop := p.position.after = q.position.after

/-- Regular parts that differ in the numbers of groups alone have the same ways
where the same text is left. -/
theorem Node.aligned_ways (n m : Node) (hn : n.isRegular = true) (hplain : n.plain = m.plain)
    (f : Flags) (p q : Progress) (h : p.Aligned q) :
    List.Forall₂ Progress.Aligned (n.ways f p) (m.ways f q) := by
  have hm : m.isRegular = true := by rw [← isRegular_plain, ← hplain, isRegular_plain, hn]
  -- the text that is left is an excerpt of both
  have hfirst := Progress.isWithin_start (R := fun _ _ => False)
    (h.trans (List.append_nil q.position.after).symm) fun _ _ hnone => hnone.elim
  have hsecond := Progress.isWithin_start (R := fun _ _ => False)
    (List.append_nil q.position.after).symm fun _ _ hnone => hnone.elim
  have hways := sameWays_of_isPliant (isMadeOf_of_isRegular _ _ hn)
    (corresponds_of_plain hn hplain) f hfirst
  have hways' := sameWays_of_isPliant (isMadeOf_of_isRegular _ _ hm)
    (corresponds_of_plain hm rfl) f hsecond
  have hall (l : List Progress) : l.filter (Progress.leaves []) = l :=
    List.filter_eq_self.mpr fun _ _ => decide_eq_true (Nat.zero_le _)
  rw [SameWays, hall] at hways hways'
  refine (forall₂_trans hways hways'.flip).imp ?_
  rintro r s ⟨r', hr, hs⟩
  exact hr.after.trans hs.after.symm

end KeyNaming.Regex
