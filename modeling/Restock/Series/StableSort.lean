import Mathlib.Data.List.Sort

/-!
# Stable sorting

Insertion sort keeps elements that tie in the order in which they came. So a list sorted by one
order after another depends on the first one only where the second one ties.

* `filter_insertionSort` — sorting and filtering commute;
* `eq_of_ties_eq` — a sorted list is told by the order of the elements that tie;
* `insertionSort_insertionSort_eq_iff` — a sort leaves no trace of an earlier one exactly when
  elements that tie were in the earlier order already.
-/

namespace Series

variable {α : Type} (r s : α → α → Prop) [DecidableRel r] [DecidableRel s]

/-- An element that is not after any other is put first. -/
theorem orderedInsert_eq_cons {a : α} {l : List α} (h : ∀ x ∈ l, r a x) :
    l.orderedInsert r a = a :: l := by
  cases l with
  | nil => rfl
  | cons b l => exact List.orderedInsert_cons_of_le r l (h b List.mem_cons_self)

section Filter

variable [IsTrans α r]

/-- An element that is filtered away may as well be left out; one that is kept finds its place among
those that are kept. -/
theorem filter_orderedInsert (keep : α → Bool) (a : α) {l : List α} (h : l.Pairwise r) :
    (l.orderedInsert r a).filter keep =
      if keep a = true then (l.filter keep).orderedInsert r a else l.filter keep := by
  induction l with
  | nil =>
      rw [List.orderedInsert_nil, List.filter_cons]
      rfl
  | cons b l ih =>
      obtain ⟨hb, hl⟩ := List.pairwise_cons.mp h
      by_cases hab : r a b
      · rw [List.orderedInsert_cons_of_le r l hab, List.filter_cons]
        -- everything from here on comes after the element, kept or not
        have hall : ∀ x ∈ (b :: l).filter keep, r a x := by
          intro x hx
          rcases List.mem_cons.mp (List.mem_filter.mp hx).1 with rfl | hx
          · exact hab
          · exact trans_of r hab (hb x hx)
        rw [orderedInsert_eq_cons r hall]
      · rw [List.orderedInsert_of_not_le r l hab, List.filter_cons, List.filter_cons, ih hl]
        by_cases hkeep : keep b = true
        · rw [if_pos hkeep, if_pos hkeep, List.orderedInsert_of_not_le r _ hab]
          split <;> rfl
        · rw [if_neg hkeep, if_neg hkeep]

variable [Std.Total r]

/-- Sorting and filtering commute. -/
theorem filter_insertionSort (keep : α → Bool) (l : List α) :
    (l.insertionSort r).filter keep = (l.filter keep).insertionSort r := by
  induction l with
  | nil => rfl
  | cons a l ih =>
      rw [List.insertionSort_cons, filter_orderedInsert r keep a (List.pairwise_insertionSort r l),
        ih, List.filter_cons]
      split <;> rfl

end Filter

/-- A list of elements that tie is sorted. -/
theorem insertionSort_of_ties {l : List α} (h : ∀ a ∈ l, ∀ b ∈ l, r a b) :
    l.insertionSort r = l :=
  List.Pairwise.insertionSort_eq (List.pairwise_of_forall_mem_list h)

section Ties

variable {r} [Std.Total r]

/-- Two elements tie. -/
abbrev Ties (r : α → α → Prop) (a b : α) : Prop :=
  r a b ∧ r b a

/-- Sorting keeps the order of the elements that tie with one. -/
theorem filter_ties_insertionSort [IsTrans α r] (a : α) (l : List α) :
    (l.insertionSort r).filter (fun b => Ties r a b) = l.filter fun b => Ties r a b := by
  rw [filter_insertionSort r]
  apply insertionSort_of_ties
  intro b hb c hc
  exact trans_of r (of_decide_eq_true (List.mem_filter.mp hb).2).2
    (of_decide_eq_true (List.mem_filter.mp hc).2).1

/-- Sorted lists whose elements that tie are in one order are one list. -/
theorem eq_of_ties_eq {l m : List α} (hl : l.Pairwise r) (hm : m.Pairwise r)
    (hties : ∀ a, l.filter (fun b => Ties r a b) = m.filter fun b => Ties r a b) : l = m := by
  have hself : ∀ a, Ties r a a := fun a => ⟨refl_of r a, refl_of r a⟩
  have hmem : ∀ {l m : List α}, (∀ a, l.filter (fun b => Ties r a b) =
      m.filter fun b => Ties r a b) → ∀ a ∈ l, a ∈ m := by
    intro l m hties a ha
    have hin : a ∈ l.filter fun b => Ties r a b := by
      rw [List.mem_filter, decide_eq_true_iff]
      exact ⟨ha, hself a⟩
    rw [hties a] at hin
    exact (List.mem_filter.mp hin).1
  induction l generalizing m with
  | nil =>
      cases m with
      | nil => rfl
      | cons b m =>
          exact absurd (hmem (fun a => (hties a).symm) b List.mem_cons_self) List.not_mem_nil
  | cons a l ih =>
      cases m with
      | nil => exact absurd (hmem hties a List.mem_cons_self) List.not_mem_nil
      | cons b m =>
          obtain ⟨ha, hl'⟩ := List.pairwise_cons.mp hl
          obtain ⟨hb, hm'⟩ := List.pairwise_cons.mp hm
          -- each head comes before the other, so they tie, and are the first elements that do
          have hab : r a b := by
            rcases List.mem_cons.mp (hmem (fun a => (hties a).symm) b List.mem_cons_self) with h | h
            · exact h ▸ refl_of r b
            · exact ha b h
          have hba : r b a := by
            rcases List.mem_cons.mp (hmem hties a List.mem_cons_self) with h | h
            · exact h ▸ refl_of r a
            · exact hb a h
          have hheads := hties a
          rw [List.filter_cons_of_pos (p := fun b => Ties r a b) (decide_eq_true (hself a)),
            List.filter_cons_of_pos (p := fun c => Ties r a c) (decide_eq_true ⟨hab, hba⟩)]
            at hheads
          obtain rfl := (List.cons.inj hheads).1
          refine congrArg (a :: ·) (ih hl' hm' fun c => ?_)
          have hc := hties c
          rw [List.filter_cons, List.filter_cons] at hc
          split at hc
          · exact (List.cons.inj hc).2
          · exact hc

/-- Sorting by an order leaves no trace of an earlier sort by another exactly when elements that tie
came in the other order already. -/
theorem insertionSort_insertionSort_eq_iff [IsTrans α r] [Std.Total s] [IsTrans α s] (l : List α) :
    (l.insertionSort s).insertionSort r = l.insertionSort r ↔
      l.Pairwise fun a b => Ties r a b → s a b := by
  have hclass : (l.insertionSort s).insertionSort r = l.insertionSort r ↔
      ∀ a, (l.filter fun b => Ties r a b).insertionSort s = l.filter fun b => Ties r a b := by
    constructor
    · intro heq a
      rw [← filter_insertionSort s, ← filter_ties_insertionSort a (l.insertionSort s), heq,
        filter_ties_insertionSort]
    · intro hsame
      refine eq_of_ties_eq (List.pairwise_insertionSort r _) (List.pairwise_insertionSort r _) ?_
      intro a
      rw [filter_ties_insertionSort, filter_ties_insertionSort, filter_insertionSort s, hsame]
  rw [hclass]
  constructor
  · intro hsame
    rw [List.pairwise_iff_forall_sublist]
    intro a b hsub hab
    -- the two are in the class of the first one, which is sorted
    have hpair : [a, b].filter (fun c => Ties r a c) = [a, b] :=
      List.filter_eq_self.mpr fun c hc => decide_eq_true <| by
        rcases List.mem_pair.mp hc with rfl | rfl
        · exact ⟨refl_of r c, refl_of r c⟩
        · exact hab
    have hclass := hsub.filter fun c => decide (Ties r a c)
    rw [hpair, ← hsame a] at hclass
    exact List.pairwise_iff_forall_sublist.mp (List.pairwise_insertionSort s _) hclass
  · intro hpairs a
    refine List.Pairwise.insertionSort_eq (List.pairwise_iff_forall_sublist.mpr ?_)
    intro b c hsub
    have hb := of_decide_eq_true (List.mem_filter.mp (hsub.subset List.mem_cons_self)).2
    have hc := of_decide_eq_true
      (List.mem_filter.mp (hsub.subset (List.mem_cons_of_mem _ List.mem_cons_self))).2
    refine List.pairwise_iff_forall_sublist.mp hpairs (hsub.trans List.filter_sublist) ?_
    exact ⟨trans_of r hb.2 hc.1, trans_of r hc.2 hb.1⟩

end Ties

end Series
