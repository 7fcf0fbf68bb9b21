import Restock.Audit.Reconcile

/-!
# What the removal of duplicates costs

A frame of sales without the columns of customers and line types: the transaction steps take nothing
from it but its exact duplicates, the lines after the first of each key.

* `netted_of_sales` — what is left of such a frame;
* `exists_kept` — every line has one of its key that is kept;
* `units_kept_eq_iff` — when what is kept has the units of the frame;
* `duplicates_worthless_iff` — nothing is lost with the duplicates exactly when no two lines of a
  key have units.
-/

namespace Restock.Audit

/-! ## Keys -/

/-- The columns of a duplicate's key. -/
abbrev DupKey : Type :=
  ℤ × String × String × Option String × ℚ × Option ℚ

/-- Lines of one key are counted in one cell. -/
theorem cell_eq_of_dupKey_eq {a b : TxLine} (h : dupKey a = dupKey b) : a.cell = b.cell := by
  simp only [dupKey, Prod.mk.injEq] at h
  obtain ⟨hdate, hsku, hlocation, -⟩ := h
  rw [TxLine.cell, TxLine.cell, TxLine.series, TxLine.series, TxLine.week, TxLine.week, hdate, hsku,
    hlocation]

/-! ## Totals of what is not negative -/

section Totals

variable {α : Type} {f : α → ℚ} {xs : List α}

/-- A total of values that are not negative is not negative. -/
theorem sum_map_nonneg (h : ∀ x ∈ xs, 0 ≤ f x) : 0 ≤ (xs.map f).sum :=
  List.sum_nonneg fun q hq => by
    obtain ⟨x, hx, rfl⟩ := List.mem_map.mp hq
    exact h x hx

/-- Values that are not negative come to nothing exactly when each of them is nothing. -/
theorem sum_map_eq_zero_iff (h : ∀ x ∈ xs, 0 ≤ f x) :
    (xs.map f).sum = 0 ↔ ∀ x ∈ xs, f x = 0 := by
  induction xs with
  | nil => simp
  | cons x xs ih =>
      obtain ⟨hx, hxs⟩ := List.forall_mem_cons.mp h
      rw [List.map_cons, List.sum_cons, add_eq_zero_iff_of_nonneg hx (sum_map_nonneg hxs), ih hxs,
        List.forall_mem_cons]

end Totals

/-! ## Duplicates -/

/-- A line that is not of a key seen before has a line of its key that is kept. -/
theorem exists_unmarked {lines : List TxLine} (seen : List DupKey) {l : TxLine} (hl : l ∈ lines)
    (hnew : dupKey l ∉ seen) :
    ∃ k, (k, none) ∈ markDuplicates seen lines ∧ dupKey k = dupKey l := by
  induction lines generalizing seen with
  | nil => cases hl
  | cons first lines ih =>
      rw [markDuplicates]
      by_cases hfirst : dupKey l = dupKey first
      · -- the first line of the key is kept
        refine ⟨first, List.mem_cons.mpr (Or.inl ?_), hfirst.symm⟩
        rw [if_neg (hfirst ▸ hnew)]
      · rcases List.mem_cons.mp hl with rfl | hl
        · exact absurd rfl hfirst
        · obtain ⟨k, hk, hkey⟩ := ih (dupKey first :: seen) hl fun hmem => by
            rcases List.mem_cons.mp hmem with heq | hmem
            · exact hfirst heq
            · exact hnew hmem
          exact ⟨k, List.mem_cons_of_mem _ hk, hkey⟩

/-- The marked lines have no units exactly when neither a line of a key seen before nor the later of
two lines of one key has. -/
theorem forall_marked_iff (lines : List TxLine) (seen : List DupKey) :
    (∀ m ∈ markDuplicates seen lines, m.2 ≠ none → m.1.qty = 0) ↔
      (∀ l ∈ lines, dupKey l ∈ seen → l.qty = 0) ∧
        lines.Pairwise fun a b => dupKey a = dupKey b → b.qty = 0 := by
  induction lines generalizing seen with
  | nil => simp [markDuplicates]
  | cons l lines ih =>
      rw [markDuplicates, List.forall_mem_cons, ih, List.forall_mem_cons, List.pairwise_cons]
      have hmark : ((if dupKey l ∈ seen then some ExcludeReason.duplicate else none) ≠ none →
          l.qty = 0) ↔ (dupKey l ∈ seen → l.qty = 0) := by
        by_cases hseen : dupKey l ∈ seen <;> simp [hseen]
      dsimp only
      rw [hmark]
      constructor
      · rintro ⟨hl, hseen, hpairs⟩
        refine ⟨⟨hl, fun b hb hkey => hseen b hb (List.mem_cons_of_mem _ hkey)⟩,
          fun b hb hkey => hseen b hb ?_, hpairs⟩
        rw [hkey]
        exact List.mem_cons_self
      · rintro ⟨⟨hl, hseen⟩, hfirst, hpairs⟩
        refine ⟨hl, fun b hb hkey => ?_, hpairs⟩
        rcases List.mem_cons.mp hkey with heq | hkey
        · exact hfirst b hb heq.symm
        · exact hseen b hb hkey

/-! ## Frames of sales -/

section Frame

variable {frame : TxFrame}

/-- Every line has one of its key that is kept. -/
theorem exists_kept {l : TxLine} (hl : l ∈ frame.lines) :
    ∃ k ∈ (splitDuplicates frame).1, dupKey k = dupKey l := by
  obtain ⟨k, hk, hkey⟩ := exists_unmarked [] hl List.not_mem_nil
  exact ⟨k, mem_splitExcluded_fst.mpr hk, hkey⟩

/-- The lines are those that are kept and the duplicates. -/
theorem splitDuplicates_perm (frame : TxFrame) :
    ((splitDuplicates frame).1 ++ (splitDuplicates frame).2.map ExcludedLine.line).Perm
      frame.lines := by
  have hperm := splitExcluded_lines_perm (markDuplicates [] frame.lines)
  rwa [map_fst_markDuplicates] at hperm

/-- Nothing is lost with the duplicates exactly when the later of two lines of one key has no
units. -/
theorem duplicates_worthless_iff :
    (∀ l ∈ (splitDuplicates frame).2.map ExcludedLine.line, l.qty = 0) ↔
      frame.lines.Pairwise fun a b => dupKey a = dupKey b → b.qty = 0 := by
  have hmarks := forall_marked_iff frame.lines []
  rw [and_iff_right fun l _ h => absurd h List.not_mem_nil] at hmarks
  rw [← hmarks]
  constructor
  · rintro h ⟨l, reason⟩ hm hreason
    obtain ⟨reason, rfl⟩ := Option.ne_none_iff_exists'.mp hreason
    exact h l (List.mem_map.mpr ⟨⟨l, reason⟩, mem_splitExcluded_snd.mpr hm, rfl⟩)
  · intro h l hl
    obtain ⟨e, he, rfl⟩ := List.mem_map.mp hl
    exact h _ (mem_splitExcluded_snd.mp he) (Option.some_ne_none _)

/-- Some of the lines that are kept have the units of those of the frame, and more, exactly when
those of the duplicates have none and more is nothing. -/
theorem units_kept_eq_iff (hsales : ∀ l ∈ frame.lines, 0 ≤ l.qty) (p : TxLine → Bool) {more : ℚ}
    (hmore : 0 ≤ more) :
    (((splitDuplicates frame).1.filter p).map TxLine.qty).sum =
        ((frame.lines.filter p).map TxLine.qty).sum + more ↔
      (∀ l ∈ (splitDuplicates frame).2.map ExcludedLine.line, p l → l.qty = 0) ∧ more = 0 := by
  have htotal := (((splitDuplicates_perm frame).filter p).map TxLine.qty).sum_eq
  rw [List.filter_append, List.map_append, List.sum_append] at htotal
  have hdups : ∀ l ∈ ((splitDuplicates frame).2.map ExcludedLine.line).filter p, 0 ≤ l.qty :=
    fun l hl => hsales l ((splitDuplicates_perm frame).mem_iff.mp
      (List.mem_append_right _ (List.mem_of_mem_filter hl)))
  have hlost := sum_map_nonneg hdups
  have hnone := sum_map_eq_zero_iff hdups
  simp only [List.mem_filter, and_imp] at hnone
  rw [← hnone, ← htotal]
  constructor
  · intro heq
    constructor <;> linarith
  · rintro ⟨hzero, rfl⟩
    linarith

/-- What is left of a frame of sales is what is kept of it: no line is renamed, none is marked for
its type, and none is moved. -/
theorem netted_of_sales {py : Py} {config : Config} {tx : TxSteps}
    (h : runTxSteps py config frame [] [] = some tx) (hcustomer : frame.hasCustomerType = false)
    (hline : frame.hasLineType = false) (hsales : ∀ l ∈ frame.lines, 0 ≤ l.qty) :
    tx.netted = (splitDuplicates frame).1 := by
  obtain ⟨netted, hnetted, rfl⟩ := runTxSteps_eq_some py h
  have hdemand : (splitNonDemand py config frame []).1 = (splitDuplicates frame).1 := by
    have hrename : ∀ l, renameSku [] l = l := fun _ => rfl
    have hmark : ∀ l, markNonDemand py config false false l = (l, none) := fun _ => rfl
    rw [splitNonDemand, hcustomer, hline, List.map_map]
    simp only [Function.comp_def, hrename, hmark, splitExcluded, List.filterMap_map, if_true]
    exact List.filterMap_some
  have hkept : ∀ l ∈ (splitDuplicates frame).1, ¬ l.qty < 0 := by
    intro l hl
    exact not_lt.mpr (hsales l (mem_of_mem_splitDuplicates frame (mem_splitExcluded_fst.mp hl)))
  have hmoved : movedReturns config (splitDuplicates frame).1 = [] := by
    rw [movedReturns, List.filterMap_eq_nil_iff]
    exact fun l hl => if_neg (hkept l hl)
  rw [hdemand, netReturns, hmoved] at hnetted
  split at hnetted
  · cases hnetted
  · rw [← Option.some.inj hnetted]
    exact List.map_id' _

end Frame

end Restock.Audit
