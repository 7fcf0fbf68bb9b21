import Mathlib.Algebra.Order.BigOperators.Group.List
import Mathlib.Tactic.Linarith

/-!
# The budget allocator

`packages/forecast/src/allocate.ts`: lines that are sorted by priority are taken as long as they
fit. Without `strict` the critical lines are taken first, whether they fit or not.

* `fill` — one turn of the greedy loop, and `allocateByBudget`;
* `perm_fill`, `total_fill` — nothing is lost, and what is used is what the lines taken cost;
* `fill_le`, `lt_fill_of_deferred` — the cap, and that what is left out does not fit in the end;
* `Fills`, `fills_strict`, `lenient_le` — the two modes.
-/

namespace Restock.Plan

/-- `Allocation`. -/
structure Allocation (T : Type) where
  selected : List T := []
  deferred : List T := []
  usedKes : ℚ := 0
  deriving DecidableEq, Repr

section Allocatable

variable {T : Type} (cost : T → ℚ) (urgency : T → String)

/-- What lines cost together. -/
def totalCost (lines : List T) : ℚ :=
  (lines.map cost).sum

/-- Take a line. -/
def Allocation.take (a : Allocation T) (s : T) : Allocation T :=
  { a with selected := a.selected ++ [s], usedKes := a.usedKes + cost s }

/-- One turn of the greedy loop: a line that fits is taken, any other is deferred. -/
def fill (budgetKes : ℚ) (a : Allocation T) (s : T) : Allocation T :=
  if a.usedKes + cost s ≤ budgetKes then a.take cost s
  else { a with deferred := a.deferred ++ [s] }

/-- `allocateByBudget`. -/
def allocateByBudget (scored : List T) (budgetKes : Option ℚ) (strict : Bool := false) :
    Allocation T :=
  match budgetKes with
  | none => { selected := scored, usedKes := totalCost cost scored }
  | some budgetKes =>
      if strict then scored.foldl (fill cost budgetKes) {}
      else
        -- pass 1: criticals are always included
        let criticals : Allocation T :=
          scored.foldl (fun a s => if urgency s = "critical" then a.take cost s else a) {}
        -- pass 2: the rest fill what remains
        scored.foldl
          (fun a s => if urgency s = "critical" then a else fill cost budgetKes a s) criticals

/-! ## The greedy loop -/

variable {cost} {budgetKes : ℚ}

@[simp] theorem totalCost_nil : totalCost cost [] = 0 := rfl

@[simp] theorem totalCost_append (lines more : List T) :
    totalCost cost (lines ++ more) = totalCost cost lines + totalCost cost more := by
  rw [totalCost, List.map_append, List.sum_append]
  rfl

@[simp] theorem totalCost_singleton (s : T) : totalCost cost [s] = cost s := by
  simp [totalCost]

/-- What is used is what the lines taken cost. -/
def Allocation.Accounted (cost : T → ℚ) (a : Allocation T) : Prop :=
  a.usedKes = totalCost cost a.selected

/-- Taking a line keeps the account. -/
theorem Allocation.Accounted.take {a : Allocation T} (h : a.Accounted cost) (s : T) :
    (a.take cost s).Accounted cost := by
  rw [Allocation.Accounted] at h ⊢
  simp only [Allocation.take, totalCost_append, totalCost_singleton, h]

/-- A turn keeps the account. -/
theorem Allocation.Accounted.fill {a : Allocation T} (h : a.Accounted cost) (s : T) :
    (fill cost budgetKes a s).Accounted cost := by
  rw [Plan.fill]
  split
  · exact h.take s
  · exact h

/-- The loop keeps the account. -/
theorem Allocation.Accounted.foldl_fill {a : Allocation T} (h : a.Accounted cost) (l : List T) :
    (l.foldl (Plan.fill cost budgetKes) a).Accounted cost := by
  induction l generalizing a with
  | nil => exact h
  | cons s l ih => exact ih (h.fill s)

variable (cost budgetKes) in
/-- Every line ends up taken or deferred, once. -/
theorem perm_fill (l : List T) (a : Allocation T) :
    ((l.foldl (fill cost budgetKes) a).selected ++
      (l.foldl (fill cost budgetKes) a).deferred).Perm (a.selected ++ a.deferred ++ l) := by
  induction l generalizing a with
  | nil => simp
  | cons s l ih =>
      rw [List.foldl_cons]
      refine (ih _).trans ?_
      rw [fill]
      split
      · -- the line moves from the head of the list to the end of those taken
        simp only [Allocation.take, List.append_assoc, List.singleton_append]
        exact (List.perm_append_left_iff _).mpr List.perm_middle.symm
      · simp

/-- Only lines of the list are deferred. -/
theorem deferred_subset_fill (l : List T) (a : Allocation T) :
    (l.foldl (fill cost budgetKes) a).deferred ⊆ a.deferred ++ l := by
  induction l generalizing a with
  | nil => simp
  | cons s l ih =>
      refine List.Subset.trans (ih _) ?_
      rw [fill]
      split
      · exact List.append_subset.mpr
          ⟨List.subset_append_left _ _, fun t ht => List.mem_append_right _ (.tail s ht)⟩
      · rw [List.append_assoc, List.singleton_append]
        exact List.Subset.refl _

/-- The loop stays within the budget, or within what was used before. -/
theorem fill_le (l : List T) (a : Allocation T) :
    (l.foldl (fill cost budgetKes) a).usedKes ≤ max a.usedKes budgetKes := by
  induction l generalizing a with
  | nil => exact le_max_left _ _
  | cons s l ih =>
      refine (ih _).trans ?_
      rw [fill]
      split
      case isTrue hfits => exact max_le (hfits.trans (le_max_right _ _)) (le_max_right _ _)
      case isFalse => exact le_rfl

/-- Nothing is given back. -/
theorem le_fill {l : List T} (hcost : ∀ s ∈ l, 0 ≤ cost s) (a : Allocation T) :
    a.usedKes ≤ (l.foldl (fill cost budgetKes) a).usedKes := by
  induction l generalizing a with
  | nil => exact le_rfl
  | cons s l ih =>
      obtain ⟨hs, hl⟩ := List.forall_mem_cons.mp hcost
      refine le_trans ?_ (ih hl _)
      rw [fill]
      split
      · exact le_add_of_nonneg_right hs
      · exact le_rfl

/-- A line that the loop leaves out does not fit into what is left in the end either. -/
theorem lt_fill_of_deferred {l : List T} (hcost : ∀ s ∈ l, 0 ≤ cost s) (a : Allocation T) {s : T}
    (hs : s ∈ (l.foldl (fill cost budgetKes) a).deferred) :
    s ∈ a.deferred ∨ budgetKes < (l.foldl (fill cost budgetKes) a).usedKes + cost s := by
  induction l generalizing a with
  | nil => exact Or.inl hs
  | cons t l ih =>
      obtain ⟨-, hl⟩ := List.forall_mem_cons.mp hcost
      rw [List.foldl_cons] at hs ⊢
      rcases ih hl _ hs with hdef | hlt
      · rw [fill] at hdef ⊢
        split at hdef
        case isTrue hfits => exact Or.inl hdef
        case isFalse htight =>
          rw [if_neg htight]
          rcases List.mem_append.mp hdef with hdef | hmem
          · exact Or.inl hdef
          · -- it did not fit when its turn came, and only more was used since
            obtain rfl := List.mem_singleton.mp hmem
            have hmono : a.usedKes ≤ (l.foldl (fill cost budgetKes)
                { a with deferred := a.deferred ++ [s] }).usedKes := le_fill hl _
            have hover := not_le.mp htight
            refine Or.inr (hover.trans_le ?_)
            exact add_le_add_left hmono (cost s)
      · exact Or.inr hlt

/-! ## The two modes -/

/-- An allocation of lines: each is taken or deferred, and the account is right. -/
structure Fills (cost : T → ℚ) (l : List T) (a : Allocation T) : Prop where
  perm : (a.selected ++ a.deferred).Perm l
  used : a.usedKes = totalCost cost a.selected

/-- The greedy loop from the start. -/
theorem fills_fill (l : List T) : Fills cost l (l.foldl (fill cost budgetKes) {}) where
  perm := by simpa using perm_fill cost budgetKes l {}
  used := by
    apply Allocation.Accounted.foldl_fill
    rfl

/-- The strict mode takes or defers every line. -/
theorem fills_strict (l : List T) :
    Fills cost l (allocateByBudget cost urgency l (some budgetKes) true) :=
  fills_fill l

/-- The strict mode never exceeds the budget. -/
theorem strict_le (hbudget : 0 ≤ budgetKes) (l : List T) :
    (allocateByBudget cost urgency l (some budgetKes) true).usedKes ≤ budgetKes :=
  (fill_le l {}).trans (max_le hbudget le_rfl)

/-- A line that the strict mode defers costs more than what is left. -/
theorem lt_of_deferred_strict {l : List T} (hcost : ∀ s ∈ l, 0 ≤ cost s) {s : T}
    (hs : s ∈ (allocateByBudget cost urgency l (some budgetKes) true).deferred) :
    budgetKes - (allocateByBudget cost urgency l (some budgetKes) true).usedKes < cost s := by
  rw [sub_lt_iff_lt_add']
  exact (lt_fill_of_deferred hcost {} hs).resolve_left List.not_mem_nil

/-- The critical lines. -/
def criticals (l : List T) : List T :=
  l.filter fun s => urgency s = "critical"

variable (cost) in
/-- Taking lines one after another. -/
theorem foldl_take (l : List T) (a : Allocation T) :
    l.foldl (Allocation.take cost) a =
      { a with selected := a.selected ++ l, usedKes := a.usedKes + totalCost cost l } := by
  induction l generalizing a with
  | nil => simp
  | cons s l ih =>
      rw [List.foldl_cons, ih, show s :: l = [s] ++ l from rfl, totalCost_append,
        totalCost_singleton, ← List.append_assoc, ← add_assoc]
      rfl

/-- The lenient mode takes the critical lines, then fills the rest in order. -/
theorem allocateByBudget_lenient (l : List T) :
    allocateByBudget cost urgency l (some budgetKes) false =
      (l.filter fun s => ¬ urgency s = "critical").foldl (fill cost budgetKes)
        { selected := criticals urgency l, usedKes := totalCost cost (criticals urgency l) } := by
  have hfirst := foldl_take cost (criticals urgency l) {}
  rw [criticals, List.foldl_filter, ← criticals] at hfirst
  rw [List.foldl_filter]
  simp only [allocateByBudget, Bool.false_eq_true, if_false, decide_eq_true_eq] at hfirst ⊢
  rw [hfirst]
  simp only [List.nil_append, zero_add]
  congr 1
  funext a s
  by_cases hs : urgency s = "critical" <;> simp [hs]

/-- The lenient mode takes or defers every line. -/
theorem fills_lenient (l : List T) :
    Fills cost l (allocateByBudget cost urgency l (some budgetKes) false) where
  perm := by
    rw [allocateByBudget_lenient]
    refine (perm_fill _ _ _ _).trans ?_
    rw [List.append_nil, criticals]
    simpa using List.filter_append_perm (fun s => decide (urgency s = "critical")) l
  used := by
    rw [allocateByBudget_lenient]
    apply Allocation.Accounted.foldl_fill
    rfl

/-- The lenient mode defers no critical line. -/
theorem not_critical_of_deferred {l : List T} {s : T}
    (hs : s ∈ (allocateByBudget cost urgency l (some budgetKes) false).deferred) :
    urgency s ≠ "critical" := by
  rw [allocateByBudget_lenient] at hs
  have hmem := deferred_subset_fill _ _ hs
  rw [List.nil_append, List.mem_filter, decide_eq_true_iff] at hmem
  exact hmem.2

/-- The lenient mode exceeds the budget only when the critical lines alone do. -/
theorem lenient_le (l : List T) :
    (allocateByBudget cost urgency l (some budgetKes) false).usedKes ≤
      max (totalCost cost (criticals urgency l)) budgetKes := by
  rw [allocateByBudget_lenient]
  exact fill_le _ _

end Allocatable

end Restock.Plan
