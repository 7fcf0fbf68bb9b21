import Restock.Plan.Allocate
import Restock.Plan.BuyList

/-!
# The budget split

`splitByBudget` of the plan screen: the rows that can be planned are put in the order in which
money goes out, and the allocator takes them. Under a hard cap the rows that have to be ordered now
are filled first, and the rest only when every one of those is funded.

* `byFundingPriority` — the order in which money goes out;
* `firstFill`, `strictFill` — the two stages under a hard cap;
* `splitByBudget`, `splitByBudget_partition` — the split, and that it is a partition;
* `splitByBudget_strict`, `splitByBudget_lenient` — the two modes;
* `splitByBudget_spec` — all of it.
-/

namespace Restock.Plan

open List (Perm)

/-- `BudgetSplit`. -/
structure BudgetSplit where
  budgetKes : ℚ
  funded : List BuyListRow
  deferred : List BuyListRow
  checkCost : List BuyListRow
  fundedCostKes : Option ℚ
  deferredCostKes : Option ℚ
  deferredAtRiskKes : Option ℚ
  leftoverKes : Option ℚ
  overBudgetKes : Option ℚ
  deferredCriticalCount : ℕ
  deferredCriticalKes : Option ℚ
  incomingCount : ℕ
  heldBackCount : ℕ
  withheld : Bool := false
  deriving DecidableEq, Repr

/-- The cost of a line. -/
def lineCost (row : BuyListRow) : ℚ :=
  row.lineTotalKes.getD 0

/-- The order in which money goes out: the soonest last safe order day first, everything that is
due today tying, then urgency, then the revenue at risk, then the stockout. -/
def byFundingPriority : BuyListRow → BuyListRow → Ordering :=
  compareLex (compareOn fun row => max 0 row.daysLeftToOrder)
    (compareLex (compareOn urgencyRank)
      (compareLex (compareOn fun row => OrderDual.toDual (row.atRiskKes.getD 0)) byStockoutRank))

/-- `scored`. -/
def scored (rows : List BuyListRow) : List BuyListRow :=
  sortBy byFundingPriority (rows.filter fun row => row.plannable = .ok ∧ 0 < lineCost row)

/-- `mustOrder`. -/
def mustOrder (rows : List BuyListRow) : List BuyListRow :=
  (scored rows).filter fun row => row.tier ≠ .canWait

/-- `canWait`. -/
def canWait (rows : List BuyListRow) : List BuyListRow :=
  (scored rows).filter fun row => row.tier = .canWait

/-- `allocateByBudget` of rows. -/
def allocateRows (rows : List BuyListRow) (budgetKes : ℚ) (strict : Bool) : Allocation BuyListRow :=
  allocateByBudget lineCost BuyListRow.urgency rows (some budgetKes) strict

/-- `first`: the fill of the rows that have to be ordered now. -/
def firstFill (rows : List BuyListRow) (budgetKes : ℚ) : Allocation BuyListRow :=
  allocateRows (mustOrder rows) budgetKes true

/-- The two stages under a hard cap. -/
def strictFill (rows : List BuyListRow) (budgetKes : ℚ) : Allocation BuyListRow :=
  let first := firstFill rows budgetKes
  if 0 < first.deferred.length then
    { first with deferred := first.deferred ++ canWait rows }
  else
    let rest := allocateRows (canWait rows) (budgetKes - first.usedKes) true
    { selected := first.selected ++ rest.selected
      deferred := rest.deferred
      usedKes := first.usedKes + rest.usedKes }

/-- The fill behind a split. -/
def fillFor (rows : List BuyListRow) (budgetKes : ℚ) (strict : Bool) : Allocation BuyListRow :=
  if strict then strictFill rows budgetKes else allocateRows (scored rows) budgetKes false

/-- `splitByBudget`. -/
def splitByBudget (rows : List BuyListRow) (budgetKes : ℚ) (strict : Bool := true)
    (heldBackCount : ℕ := 0) : BudgetSplit :=
  let fill := fillFor rows budgetKes strict
  let deferredCriticals := fill.deferred.filter fun row => row.urgency = "critical"
  { budgetKes
    funded := fill.selected
    deferred := fill.deferred
    checkCost := rows.filter fun row => row.plannable ≠ .ok
    fundedCostKes := some fill.usedKes
    deferredCostKes := some (totalCost lineCost fill.deferred)
    deferredAtRiskKes := some (fill.deferred.map fun row => ((row.atRiskKes.getD 0 : ℤ) : ℚ)).sum
    leftoverKes := some (max 0 (budgetKes - fill.usedKes))
    overBudgetKes := some (max 0 (fill.usedKes - budgetKes))
    deferredCriticalCount := deferredCriticals.length
    deferredCriticalKes := some (totalCost lineCost deferredCriticals)
    incomingCount := rows.length
    heldBackCount }

/-! ## The rows to fill -/

variable {rows : List BuyListRow} {budgetKes : ℚ} {heldBackCount : ℕ}

/-- The rows that can be planned have a cost. -/
def Costed (rows : List BuyListRow) : Prop :=
  ∀ row ∈ rows, row.plannable = .ok → 0 < lineCost row

instance : Decidable (Costed rows) :=
  inferInstanceAs (Decidable (∀ row ∈ rows, row.plannable = .ok → 0 < lineCost row))

/-- The rows to fill are the rows that can be planned. -/
theorem perm_scored (hcosted : Costed rows) :
    (scored rows).Perm (rows.filter fun row => row.plannable = .ok) := by
  refine (List.perm_insertionSort _ _).trans (Perm.of_eq (List.filter_congr fun row hrow => ?_))
  rw [decide_eq_decide]
  exact and_iff_left_of_imp (hcosted row hrow)

/-- The rows to fill have a cost. -/
theorem scored_nonneg : ∀ row ∈ scored rows, 0 ≤ lineCost row := by
  intro row hrow
  have hmem := (List.perm_insertionSort _ _).mem_iff.mp hrow
  rw [List.mem_filter, decide_eq_true_iff] at hmem
  exact hmem.2.2.le

/-- The two stages share out the rows to fill. -/
theorem perm_stages : (mustOrder rows ++ canWait rows).Perm (scored rows) := by
  have hperm := List.filter_append_perm (fun row => decide (row.tier = .canWait)) (scored rows)
  refine List.perm_append_comm.trans ?_
  simpa [mustOrder, canWait] using hperm

/-! ## The hard cap -/

/-- The first stage fills the rows that have to be ordered now. -/
theorem fills_first : Fills lineCost (mustOrder rows) (firstFill rows budgetKes) :=
  fills_strict BuyListRow.urgency _

/-- What the first stage defers has to be ordered now. -/
theorem tier_of_first_deferred {row : BuyListRow}
    (hrow : row ∈ (firstFill rows budgetKes).deferred) : row.tier ≠ .canWait := by
  have hmem := fills_first.perm.subset (List.mem_append_right _ hrow)
  exact of_decide_eq_true (List.mem_filter.mp hmem).2

/-- What the first stage takes has to be ordered now. -/
theorem tier_of_first_selected {row : BuyListRow}
    (hrow : row ∈ (firstFill rows budgetKes).selected) : row.tier ≠ .canWait := by
  have hmem := fills_first.perm.subset (List.mem_append_left _ hrow)
  exact of_decide_eq_true (List.mem_filter.mp hmem).2

/-- The fill when a row that has to be ordered now does not fit. -/
theorem strictFill_of_deferred (h : (firstFill rows budgetKes).deferred ≠ []) :
    strictFill rows budgetKes =
      { firstFill rows budgetKes with
        deferred := (firstFill rows budgetKes).deferred ++ canWait rows } :=
  if_pos (List.length_pos_iff.mpr h)

/-- `rest`: the fill of the rows that can wait. -/
def restFill (rows : List BuyListRow) (budgetKes : ℚ) : Allocation BuyListRow :=
  allocateRows (canWait rows) (budgetKes - (firstFill rows budgetKes).usedKes) true

/-- The second stage fills the rows that can wait. -/
theorem fills_rest : Fills lineCost (canWait rows) (restFill rows budgetKes) :=
  fills_strict BuyListRow.urgency _

/-- The fill when all rows that have to be ordered now fit. -/
theorem strictFill_of_funded (h : (firstFill rows budgetKes).deferred = []) :
    strictFill rows budgetKes =
      { selected := (firstFill rows budgetKes).selected ++ (restFill rows budgetKes).selected
        deferred := (restFill rows budgetKes).deferred
        usedKes := (firstFill rows budgetKes).usedKes + (restFill rows budgetKes).usedKes } :=
  if_neg (by rw [h]; exact Nat.lt_irrefl 0)

/-- What the first stage uses is within the budget. -/
theorem first_le (hbudget : 0 ≤ budgetKes) : (firstFill rows budgetKes).usedKes ≤ budgetKes :=
  strict_le BuyListRow.urgency hbudget _

/-- The two stages fill the rows. -/
theorem fills_strictFill : Fills lineCost (scored rows) (strictFill rows budgetKes) := by
  by_cases h : (firstFill rows budgetKes).deferred = []
  · rw [strictFill_of_funded h]
    have hfirst : ((firstFill rows budgetKes).selected ++
        (firstFill rows budgetKes).deferred).Perm (mustOrder rows) := fills_first.perm
    rw [h, List.append_nil] at hfirst
    constructor
    · rw [List.append_assoc]
      exact (hfirst.append fills_rest.perm).trans perm_stages
    · rw [totalCost_append, ← fills_first.used, ← fills_rest.used]
  · rw [strictFill_of_deferred h]
    constructor
    · rw [← List.append_assoc]
      exact (fills_first.perm.append_right _).trans perm_stages
    · exact fills_first.used

/-- The cap holds. -/
theorem strictFill_le (hbudget : 0 ≤ budgetKes) :
    (strictFill rows budgetKes).usedKes ≤ budgetKes := by
  by_cases h : (firstFill rows budgetKes).deferred = []
  · rw [strictFill_of_funded h]
    have hrest : (restFill rows budgetKes).usedKes ≤ _ :=
      strict_le BuyListRow.urgency (sub_nonneg.mpr (first_le hbudget)) _
    exact add_le_of_le_sub_left hrest
  · rw [strictFill_of_deferred h]
    exact first_le hbudget

/-! ## The split -/

variable (rows budgetKes) in
/-- Both modes fill the rows. -/
theorem fills_fillFor (strict : Bool) :
    Fills lineCost (scored rows) (fillFor rows budgetKes strict) := by
  cases strict with
  | false => exact fills_lenient BuyListRow.urgency _
  | true => exact fills_strictFill

/-- The split puts each row in exactly one of its three lists; the rows that cannot be planned are
those whose cost is to be checked. -/
theorem splitByBudget_partition (hcosted : Costed rows) (strict : Bool) :
    let split := splitByBudget rows budgetKes strict heldBackCount
    (split.funded ++ split.deferred ++ split.checkCost).Perm rows := by
  have hperm := ((fills_fillFor rows budgetKes strict).perm.trans
    (perm_scored hcosted)).append_right (rows.filter fun row => row.plannable ≠ .ok)
  refine hperm.trans ?_
  simpa using List.filter_append_perm (fun row => decide (row.plannable = .ok)) rows

/-- The funded total is what the funded rows cost. -/
theorem fundedCostKes_eq (strict : Bool) :
    let split := splitByBudget rows budgetKes strict heldBackCount
    split.fundedCostKes = some (totalCost lineCost split.funded) :=
  congrArg some (fills_fillFor rows budgetKes strict).used

/-- Every row that can be planned and has to be ordered now is funded. -/
def MustOrdersFunded (rows : List BuyListRow) (split : BudgetSplit) : Prop :=
  ∀ row ∈ rows, row.plannable = .ok → row.tier ≠ .canWait →
    row ∈ split.funded ∧ row ∉ split.deferred

/-- A row that can be planned is funded or deferred. -/
theorem mem_fill (hcosted : Costed rows) {row : BuyListRow} (hrow : row ∈ rows)
    (hok : row.plannable = .ok) (strict : Bool) :
    row ∈ (fillFor rows budgetKes strict).selected ∨
      row ∈ (fillFor rows budgetKes strict).deferred := by
  rw [← List.mem_append, (fills_fillFor rows budgetKes strict).perm.mem_iff,
    (perm_scored hcosted).mem_iff,
    List.mem_filter, decide_eq_true_iff]
  exact ⟨hrow, hok⟩

/-- What a split says under a hard cap. -/
structure StrictSplit (rows : List BuyListRow) (budgetKes : ℚ) (split : BudgetSplit) : Prop where
  /-- The budget is never exceeded. -/
  cap : totalCost lineCost split.funded ≤ budgetKes
  /-- A row that can wait is funded only when every row that cannot wait is. -/
  canWait_last : (∃ row ∈ split.funded, row.tier = .canWait) → MustOrdersFunded rows split
  /-- A row that cannot wait and is deferred costs more than what the others leave. -/
  mustOrder_tight : ∀ row ∈ split.deferred, row.tier ≠ .canWait →
    budgetKes - totalCost lineCost (split.funded.filter fun row => row.tier ≠ .canWait) <
      lineCost row
  /-- When no row that cannot wait is deferred, a deferred row costs more than the leftover. -/
  canWait_tight : MustOrdersFunded rows split →
    ∀ row ∈ split.deferred, row.tier = .canWait →
      ∃ left, split.leftoverKes = some left ∧ left < lineCost row

/-- What a split says when criticals may exceed the budget. -/
structure LenientSplit (rows : List BuyListRow) (budgetKes : ℚ) (split : BudgetSplit) : Prop where
  /-- Every critical row that can be planned is funded. -/
  criticals_funded : ∀ row ∈ rows, row.plannable = .ok → row.urgency = "critical" →
    row ∈ split.funded ∧ row ∉ split.deferred
  /-- The budget is exceeded only when the criticals alone exceed it. -/
  over_by_criticals : budgetKes < totalCost lineCost split.funded →
    budgetKes < totalCost lineCost
      (rows.filter fun row => row.plannable = .ok ∧ row.urgency = "critical")

/-- What is deferred can be planned. -/
theorem mem_of_deferred (strict : Bool) (hcosted : Costed rows) {row : BuyListRow}
    (hrow : row ∈ (fillFor rows budgetKes strict).deferred) :
    row ∈ rows ∧ row.plannable = .ok := by
  have hmem := (fills_fillFor rows budgetKes strict).perm.subset (List.mem_append_right _ hrow)
  rw [(perm_scored hcosted).mem_iff, List.mem_filter, decide_eq_true_iff] at hmem
  exact hmem

/-- Under a hard cap the rows that cannot wait are funded exactly when the first stage funds them
all. -/
theorem mustOrdersFunded_iff (hcosted : Costed rows) :
    MustOrdersFunded rows (splitByBudget rows budgetKes true heldBackCount) ↔
      (firstFill rows budgetKes).deferred = [] := by
  constructor
  · intro hfunded
    by_contra h
    obtain ⟨row, hrow⟩ := List.exists_mem_of_ne_nil _ h
    have hdeferred : row ∈ (strictFill rows budgetKes).deferred := by
      rw [strictFill_of_deferred h]
      exact List.mem_append_left _ hrow
    obtain ⟨hmem, hok⟩ := mem_of_deferred true hcosted hdeferred
    exact (hfunded row hmem hok (tier_of_first_deferred hrow)).2 hdeferred
  · intro h row hrow hok htier
    have hnot : row ∉ (strictFill rows budgetKes).deferred := by
      rw [strictFill_of_funded h]
      intro hdeferred
      have hmem := fills_rest.perm.subset (List.mem_append_right _ hdeferred)
      exact htier (of_decide_eq_true (List.mem_filter.mp hmem).2)
    exact ⟨(mem_fill hcosted hrow hok true).resolve_right hnot, hnot⟩

/-- Under a hard cap a row that can wait is funded only when every row that cannot wait is. -/
theorem mustOrdersFunded_of_canWait (hcosted : Costed rows) {row : BuyListRow}
    (hrow : row ∈ (strictFill rows budgetKes).selected) (htier : row.tier = .canWait) :
    MustOrdersFunded rows (splitByBudget rows budgetKes true heldBackCount) := by
  rw [mustOrdersFunded_iff hcosted]
  by_contra h
  rw [strictFill_of_deferred h] at hrow
  exact tier_of_first_selected hrow htier

/-- A row that cannot wait and is deferred costs more than what the rows that cannot wait leave. -/
theorem lt_of_mustOrder_deferred {row : BuyListRow}
    (hrow : row ∈ (strictFill rows budgetKes).deferred) (htier : row.tier ≠ .canWait) :
    budgetKes - totalCost lineCost
      ((strictFill rows budgetKes).selected.filter fun row => row.tier ≠ .canWait) <
        lineCost row := by
  by_cases h : (firstFill rows budgetKes).deferred = []
  · -- the second stage has only rows that can wait
    rw [strictFill_of_funded h] at hrow
    have hmem := fills_rest.perm.subset (List.mem_append_right _ hrow)
    exact absurd (of_decide_eq_true (List.mem_filter.mp hmem).2) htier
  · rw [strictFill_of_deferred h] at hrow ⊢
    have hall : (firstFill rows budgetKes).selected.filter (fun row => row.tier ≠ .canWait) =
        (firstFill rows budgetKes).selected :=
      List.filter_eq_self.mpr fun row hrow => decide_eq_true (tier_of_first_selected hrow)
    simp only [hall]
    rw [← fills_first.used]
    refine lt_of_deferred_strict BuyListRow.urgency
      (fun row hrow => scored_nonneg row (List.mem_of_mem_filter hrow)) ?_
    refine (List.mem_append.mp hrow).resolve_right fun hwait => ?_
    exact htier (of_decide_eq_true (List.mem_filter.mp hwait).2)

/-- When all rows that cannot wait are funded, a deferred row costs more than what is left. -/
theorem lt_of_canWait_deferred (h : (firstFill rows budgetKes).deferred = []) {row : BuyListRow}
    (hrow : row ∈ (strictFill rows budgetKes).deferred) :
    budgetKes - (strictFill rows budgetKes).usedKes < lineCost row := by
  rw [strictFill_of_funded h] at hrow ⊢
  rw [← sub_sub]
  exact lt_of_deferred_strict BuyListRow.urgency
    (fun row hrow => scored_nonneg row (List.mem_of_mem_filter hrow)) hrow

/-- The split under a hard cap. -/
theorem splitByBudget_strict (hcosted : Costed rows) (hbudget : 0 ≤ budgetKes) :
    StrictSplit rows budgetKes (splitByBudget rows budgetKes true heldBackCount) where
  cap := fills_strictFill.used ▸ strictFill_le hbudget
  canWait_last := by
    rintro ⟨row, hrow, htier⟩
    exact mustOrdersFunded_of_canWait hcosted hrow htier
  mustOrder_tight row hrow htier := lt_of_mustOrder_deferred hrow htier
  canWait_tight hfunded row hrow _ := by
    rw [mustOrdersFunded_iff hcosted] at hfunded
    have hleft : 0 ≤ budgetKes - (strictFill rows budgetKes).usedKes :=
      sub_nonneg.mpr (strictFill_le hbudget)
    refine ⟨_, congrArg some (max_eq_right hleft), ?_⟩
    exact lt_of_canWait_deferred hfunded hrow

/-- The split when criticals may exceed the budget. -/
theorem splitByBudget_lenient (hcosted : Costed rows) :
    LenientSplit rows budgetKes (splitByBudget rows budgetKes false heldBackCount) where
  criticals_funded row hrow hok hcritical := by
    have hnot : row ∉ (fillFor rows budgetKes false).deferred := fun hdeferred =>
      not_critical_of_deferred BuyListRow.urgency hdeferred hcritical
    exact ⟨(mem_fill hcosted hrow hok false).resolve_right hnot, hnot⟩
  over_by_criticals hover := by
    have hle : (allocateByBudget lineCost BuyListRow.urgency (scored rows) (some budgetKes)
        false).usedKes ≤ _ := lenient_le BuyListRow.urgency (scored rows)
    rw [(fills_lenient BuyListRow.urgency (scored rows)).used] at hle
    have hcriticals := hover.trans_le hle
    rw [lt_max_iff] at hcriticals
    refine (hcriticals.resolve_right (lt_irrefl _)).trans_eq ?_
    -- the criticals of the rows to fill are the critical rows that can be planned
    have hperm := (perm_scored hcosted).filter fun row => decide (row.urgency = "critical")
    rw [List.filter_filter] at hperm
    refine (hperm.map lineCost).sum_eq.trans (congrArg (totalCost lineCost) ?_)
    exact List.filter_congr fun row _ => by simp [and_comm]

/-- The split, in both modes. -/
theorem splitByBudget_spec (rows : List BuyListRow) (budgetKes : ℚ) (strict : Bool)
    (heldBackCount : ℕ) (hcosted : Costed rows) (hbudget : 0 ≤ budgetKes) :
    let split := splitByBudget rows budgetKes strict heldBackCount
    (split.funded ++ split.deferred ++ split.checkCost).Perm rows ∧
      (∀ row, row ∈ split.checkCost ↔ row ∈ rows ∧ row.plannable ≠ .ok) ∧
      split.fundedCostKes = some (totalCost lineCost split.funded) ∧
      (strict = true → StrictSplit rows budgetKes split) ∧
      (strict = false → LenientSplit rows budgetKes split) := by
  refine ⟨splitByBudget_partition hcosted strict, fun row => ?_, fundedCostKes_eq strict, ?_, ?_⟩
  · exact List.mem_filter.trans (and_congr_right fun _ => decide_eq_true_iff)
  · rintro rfl
    exact splitByBudget_strict hcosted hbudget
  · rintro rfl
    exact splitByBudget_lenient hcosted

/-! ## A row whose cost is missing -/

/-- A row of the list. -/
def sampleRow (id : ℕ) (urgency : String) (tier : BuyTier) (total : ℚ)
    (plannable : PlannableReason) : BuyListRow :=
  { predictionId := id, productId := id, sku := "", title := "", vendor := none
    supplierName := none, onHandUnits := 0, onOrderUnits := 0, daysUntilStockout := some 3
    daysLeftToOrder := 0, leadDays := 3, orderByDate := 0, urgency, tier, recommendedQty := 1
    overriddenQty := none, runRatePerDay := 1, moq := 1, leadFloored := false, orderQty := 1
    abc := none, category := none, unitCostKes := some total, lineTotalKes := some total
    priceKes := 2 * total, reasoning := "", explain := none, qtySummary := ""
    confidence := none, coldStart := none, borrowedFromTitle := none, plannable
    atRiskKes := some 1, revenue30dKes := 0, doubleOrderWarn := false }

/-- Three rows against a cap of ten: the dear one that cannot wait is deferred, and so is the cheap
one that can. -/
theorem splitByBudget_three :
    let rows := [sampleRow 1 "critical" .orderToday 7 .ok, sampleRow 2 "high" .orderToday 6 .ok,
      sampleRow 3 "low" .canWait 1 .ok]
    StrictSplit rows 10 (splitByBudget rows 10 true 0) :=
  (splitByBudget_spec _ 10 true 0 (by decide +kernel) (by decide +kernel)).2.2.2.1 rfl

/-- A row without a cost is put aside, whatever the budget: a critical one is not funded, and one
that cannot wait is not waited for. -/
theorem not_every_urgent_funded :
    (¬ ∀ (rows : List BuyListRow) (budgetKes : ℚ), Costed rows → 0 ≤ budgetKes →
      ∀ row ∈ rows, row.urgency = "critical" →
        row ∈ (splitByBudget rows budgetKes false 0).funded) ∧
    ¬ ∀ (rows : List BuyListRow) (budgetKes : ℚ), Costed rows → 0 ≤ budgetKes →
      (∃ row ∈ (splitByBudget rows budgetKes true 0).funded, row.tier = .canWait) →
        ∀ row ∈ rows, row.tier ≠ .canWait → row ∈ (splitByBudget rows budgetKes true 0).funded := by
  constructor
  · intro h
    have hfunded := h [sampleRow 1 "critical" .orderToday 0 .missingCost] 10 (by decide +kernel)
      (by decide +kernel) _ List.mem_cons_self rfl
    revert hfunded
    decide +kernel
  · intro h
    have hfunded := h
      [sampleRow 1 "critical" .orderToday 0 .missingCost, sampleRow 2 "low" .canWait 1 .ok] 10
      (by decide +kernel) (by decide +kernel) (by decide +kernel) _ List.mem_cons_self
      (by decide +kernel)
    revert hfunded
    decide +kernel

end Restock.Plan
