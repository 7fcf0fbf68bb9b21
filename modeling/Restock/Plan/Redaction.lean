import Mathlib.Data.String.Basic
import Restock.Plan.BuyList
import Restock.Series.StableSort

/-!
# What a member without costs learns

For a member who may not see costs the list says the same whatever the costs are, as long as the
same products can be planned. A list that is redacted later is that list only up to rows that tie on
every key without a cost: these stay in the order of their line totals.

* `getBuyList_blind`, `redactBuyList_getBuyList` — the redacted list, and the list that is redacted
  later;
* `SameButCosts`, `getBuyList_congr` — two states that differ in costs alone, and that their
  redacted lists are equal;
* `resort_eq_iff` — that a sort by line totals leaves no trace when rows that tie came in their
  order;
* `TiesDescend`, `costsHidden_iff` — that costs are hidden exactly then.
-/

namespace Restock.Plan

open Forecast (Js)
open Series (Ties filter_insertionSort insertionSort_insertionSort_eq_iff)

/-! ## The orders -/

section Orders

variable {K : Type} [LinearOrder K] {collate : String → K}
  {order : BuyListRow → BuyListRow → Ordering}

instance : Std.TransCmp byStockoutRank :=
  inferInstanceAs (Std.TransCmp (compareLex _ _))

instance : Std.TransCmp byBuyListPriority :=
  inferInstanceAs (Std.TransCmp (compareLex _ (compareLex _ _)))

instance : Std.TransCmp byUrgencyCostAware :=
  inferInstanceAs (Std.TransCmp (compareLex _ _))

instance : Std.TransCmp (byUrgencyCostFree collate) :=
  inferInstanceAs (Std.TransCmp (compareLex _ (compareLex _ _)))

instance [Std.TransCmp order] : IsTrans BuyListRow (NotAfter order) :=
  ⟨fun _ _ _ => Std.TransCmp.isLE_trans⟩

instance [Std.OrientedCmp order] : Std.Total (NotAfter order) where
  total a b := by
    rw [NotAfter, NotAfter, show order a b = (order b a).swap from Std.OrientedCmp.eq_swap]
    cases order b a <;> simp

instance {α : Type} [Std.TransCmp order] (row : α → BuyListRow) :
    IsTrans α fun a b => NotAfter order (row a) (row b) :=
  ⟨fun _ _ _ => Std.TransCmp.isLE_trans⟩

instance {α : Type} [Std.OrientedCmp order] (row : α → BuyListRow) :
    Std.Total fun a b : α => NotAfter order (row a) (row b) where
  total a b := total_of (NotAfter order) (row a) (row b)

/-- Neither of two rows comes after the other when they compare as equal. -/
theorem ties_iff_eq [Std.OrientedCmp order] (a b : BuyListRow) :
    Ties (NotAfter order) a b ↔ order a b = .eq := by
  rw [Ties, NotAfter, NotAfter, show order a b = (order b a).swap from Std.OrientedCmp.eq_swap]
  cases order b a <;> simp

/-- Rows compare as equal by a key when they have the same one. -/
theorem compareOn_eq_iff {β : Type} [LinearOrder β] (key : BuyListRow → β) (a b : BuyListRow) :
    compareOn key a b = .eq ↔ key a = key b :=
  compare_eq_iff_eq

/-- Two rows tie on every key without a cost. -/
structure SameKeys (collate : String → K) (a b : BuyListRow) : Prop where
  abc : abcRank a = abcRank b
  urgency : urgencyRank a = urgencyRank b
  stockout : a.daysUntilStockout = b.daysUntilStockout
  qty : a.recommendedQty = b.recommendedQty
  sku : collate a.sku = collate b.sku

theorem byStockoutRank_eq_iff (a b : BuyListRow) :
    byStockoutRank a b = .eq ↔ a.daysUntilStockout = b.daysUntilStockout := by
  rw [byStockoutRank, compareLex_eq_eq, compareOn_eq_iff, compareOn_eq_iff]
  cases a.daysUntilStockout <;> cases b.daysUntilStockout <;> simp

theorem byBuyListPriority_eq_iff (a b : BuyListRow) :
    byBuyListPriority a b = .eq ↔ abcRank a = abcRank b ∧ urgencyRank a = urgencyRank b ∧
      a.daysUntilStockout = b.daysUntilStockout := by
  rw [byBuyListPriority, compareLex_eq_eq, compareLex_eq_eq, compareOn_eq_iff, compareOn_eq_iff,
    byStockoutRank_eq_iff]

/-- Rows tie for a member without costs when they have the same keys. -/
theorem ties_costFree_iff (a b : BuyListRow) :
    Ties (NotAfter (byUrgencyCostFree collate)) a b ↔ SameKeys collate a b := by
  rw [ties_iff_eq, byUrgencyCostFree, compareLex_eq_eq, compareLex_eq_eq, compareOn_eq_iff,
    compareOn_eq_iff, byBuyListPriority_eq_iff, OrderDual.toDual_inj]
  constructor
  · rintro ⟨⟨habc, hurgency, hstockout⟩, hqty, hsku⟩
    exact ⟨habc, hurgency, hstockout, hqty, hsku⟩
  · rintro ⟨habc, hurgency, hstockout, hqty, hsku⟩
    exact ⟨⟨habc, hurgency, hstockout⟩, hqty, hsku⟩

omit [LinearOrder K] in
/-- Rows with the same keys are told apart by their line totals when costs are seen. -/
theorem notAfter_costAware_iff {a b : BuyListRow} (h : SameKeys collate a b) :
    NotAfter byUrgencyCostAware a b ↔ b.lineTotalKes.getD 0 ≤ a.lineTotalKes.getD 0 := by
  have hpriority : byBuyListPriority a b = .eq :=
    (byBuyListPriority_eq_iff a b).mpr ⟨h.abc, h.urgency, h.stockout⟩
  rw [NotAfter, byUrgencyCostAware, compareLex, hpriority, Ordering.eq_then, compareOn,
    ← Ordering.ne_gt_iff_isLE]
  exact compare_le_iff_le

end Orders

/-! ## The two lists -/

section Lists

variable (js : Js) (now : Time) (o : WhatIf) {K : Type} [LinearOrder K] (collate : String → K)
  (facts : PlanFacts)

/-- The rows that are shown: with a what-if, those that it leaves to be bought. -/
def shownRows : List BuyListRow :=
  if o.active then (activeRows js now facts o).filter fun row => 0 < row.recommendedQty
  else activeRows js now facts o

/-- The excluded rows that a member without costs is shown. -/
def shownExcluded : List ExcludedRow :=
  (excludedRows js now facts o).filter fun e => e.reason ≠ .unplannable

variable {order : BuyListRow → BuyListRow → Ordering} [Std.TransCmp order] in
/-- The rows may be dropped before they are sorted. -/
theorem sortBy_shownRows :
    sortBy order (shownRows js now o facts) =
      if o.active then
        (sortBy order (activeRows js now facts o)).filter fun row => 0 < row.recommendedQty
      else sortBy order (activeRows js now facts o) := by
  unfold shownRows
  split
  · exact (filter_insertionSort (NotAfter order) _ _).symm
  · rfl

variable {order : BuyListRow → BuyListRow → Ordering} [Std.TransCmp order] in
/-- So may the excluded rows. -/
theorem redactExcludedList_sortExcludedBy (rows : List ExcludedRow) :
    redactExcludedList (sortExcludedBy order rows) =
      (sortExcludedBy order (rows.filter fun e => e.reason ≠ .unplannable)).map
        redactExcluded := by
  rw [redactExcludedList, sortExcludedBy, sortExcludedBy, filter_insertionSort]

/-- The keys without a cost survive redaction, so rows may be redacted before they are sorted. -/
theorem map_redactRow_sortBy (rows : List BuyListRow) :
    (sortBy (byUrgencyCostFree collate) rows).map redactRow =
      sortBy (byUrgencyCostFree collate) (rows.map redactRow) :=
  List.map_insertionSort _ _ _ _ fun _ _ _ _ => Iff.rfl

/-- So may the excluded ones. -/
theorem map_redactExcluded_sortExcludedBy (rows : List ExcludedRow) :
    (sortExcludedBy (byUrgencyCostFree collate) rows).map redactExcluded =
      sortExcludedBy (byUrgencyCostFree collate) (rows.map redactExcluded) :=
  List.map_insertionSort _ _ _ _ fun _ _ _ _ => Iff.rfl

/-- The redacted list is made of redacted rows. -/
theorem getBuyList_blind :
    getBuyList js now o collate (some facts) false = some {
      forecastRunId := facts.forecastRunId
      runDate := facts.runDate
      rows := sortBy (byUrgencyCostFree collate) ((shownRows js now o facts).map redactRow)
      excluded := sortExcludedBy (byUrgencyCostFree collate)
        ((shownExcluded js now o facts).map redactExcluded)
      totalPredicted := facts.predictions.length
      totalCostKes := none } := by
  rw [← map_redactRow_sortBy, ← map_redactExcluded_sortExcludedBy, sortBy_shownRows, shownExcluded,
    ← redactExcludedList_sortExcludedBy]
  rfl

/-- A list that is redacted later was sorted by line totals first. -/
theorem redactBuyList_getBuyList :
    (getBuyList js now o collate (some facts) true).map
      (fun buyList => redactBuyList collate buyList false) = some {
      forecastRunId := facts.forecastRunId
      runDate := facts.runDate
      rows := (sortBy (byUrgencyCostFree collate)
        (sortBy byUrgencyCostAware (shownRows js now o facts))).map redactRow
      excluded := (sortExcludedBy (byUrgencyCostFree collate)
        (sortExcludedBy byUrgencyCostAware (shownExcluded js now o facts))).map redactExcluded
      totalPredicted := facts.predictions.length
      totalCostKes := none } := by
  rw [map_redactRow_sortBy, map_redactExcluded_sortExcludedBy, sortBy_shownRows, shownExcluded,
    ← redactExcludedList_sortExcludedBy]
  rfl

end Lists

/-! ## States that differ in costs alone -/

/-- A prediction whose product's cost is set. -/
def PlanPrediction.withCost (p : PlanPrediction) (costKes : ℚ) : PlanPrediction :=
  { p with product := { p.product with costKes } }

/-- A product can be planned. -/
def Plannable (p : PlanPrediction) : Prop :=
  plannableReason p.product.costKes p.product.priceKes = .ok

/-- Two predictions differ in their products' costs alone, and both or neither can be planned. -/
structure SameButCost (p p' : PlanPrediction) : Prop where
  same : p' = p.withCost p'.product.costKes
  plannable : Plannable p ↔ Plannable p'

/-- Two states differ in costs alone, and the same products can be planned. -/
structure SameButCosts (facts facts' : PlanFacts) : Prop where
  forecastRunId : facts.forecastRunId = facts'.forecastRunId
  runDate : facts.runDate = facts'.runDate
  overrides : facts.overrides = facts'.overrides
  sales : facts.sales = facts'.sales
  orders : facts.orders = facts'.orders
  poLines : facts.poLines = facts'.poLines
  titles : facts.titles = facts'.titles
  predictions : List.Forall₂ SameButCost facts.predictions facts'.predictions

section Related

variable {α β : Type} {r : α → α → Prop} {l l' : List α}

/-- Lists that are related stay so when what is kept of one is what is kept of the other. -/
theorem forall₂_filter {keep keep' : α → Prop} [DecidablePred keep] [DecidablePred keep']
    (hkeep : ∀ a a', r a a' → (keep a ↔ keep' a')) (h : List.Forall₂ r l l') :
    List.Forall₂ r (l.filter keep) (l'.filter keep') :=
  List.rel_filter (fun a a' haa' => by
    show decide (keep a) = true ↔ decide (keep' a') = true
    rw [decide_eq_true_iff, decide_eq_true_iff, hkeep a a' haa']) h

/-- Lists that differ in what a map takes off become one under it. -/
theorem map_eq_of_forall₂ {f : α → β} (h : List.Forall₂ (fun a a' => f a = f a') l l') :
    l.map f = l'.map f := by
  rw [← List.forall₂_eq_eq_eq, List.forall₂_map_left_iff, List.forall₂_map_right_iff]
  exact h

end Related

section Congr

variable (js : Js) (now : Time) (o : WhatIf) {facts facts' : PlanFacts} {p p' : PlanPrediction}

/-- Redaction takes everything off a row that tells its cost. -/
theorem redactRow_buildRow_congr (h : SameButCosts facts facts') (hp : SameButCost p p') :
    redactRow (buildRow js now facts o p) = redactRow (buildRow js now facts' o p') := by
  obtain ⟨costKes, rfl⟩ : ∃ costKes, p' = p.withCost costKes := ⟨_, hp.same⟩
  cases facts
  cases facts'
  obtain ⟨rfl, rfl, rfl, rfl, rfl, rfl, rfl, -⟩ := h
  rfl

/-- A row is held back for its cost only when its product cannot be planned. -/
theorem heldBack_congr (h : SameButCosts facts facts') (hp : SameButCost p p') :
    heldBack js now facts o p = heldBack js now facts' o p' := by
  have hplannable : (buildRow js now facts o p).plannable ≠ .ok ↔
      (buildRow js now facts' o p').plannable ≠ .ok := not_congr hp.plannable
  unfold heldBack excludedReasonFor
  simp only [hplannable]
  obtain ⟨costKes, rfl⟩ : ∃ costKes, p' = p.withCost costKes := ⟨_, hp.same⟩
  cases facts
  cases facts'
  obtain ⟨rfl, rfl, rfl, rfl, rfl, rfl, rfl, -⟩ := h
  rfl

theorem decidedQty_congr (h : SameButCosts facts facts') (hp : SameButCost p p') :
    decidedQty facts p = decidedQty facts' p' := by
  rw [hp.same, decidedQty, decidedQty, overrideFor, overrideFor, h.overrides]
  rfl

/-- What is to be bought is found from what was decided. -/
theorem kept_congr (h : SameButCosts facts facts') :
    List.Forall₂ SameButCost (kept facts) (kept facts') :=
  forall₂_filter (fun _ _ hp => by rw [decidedQty_congr h hp]) h.predictions

/-- The rows of the active list differ in what redaction takes off. -/
theorem activeRows_congr (h : SameButCosts facts facts') :
    List.Forall₂ (fun row row' => redactRow row = redactRow row')
      (activeRows js now facts o) (activeRows js now facts' o) := by
  rw [activeRows, activeRows, List.forall₂_map_left_iff, List.forall₂_map_right_iff]
  refine List.Forall₂.imp (fun _ _ hp => redactRow_buildRow_congr js now o h hp)
    (forall₂_filter (fun _ _ hp => ?_) (kept_congr h))
  rw [heldBack_congr js now o h hp]

/-- So do those of the excluded one. -/
theorem excludedRows_congr (h : SameButCosts facts facts') :
    List.Forall₂ (fun e e' => redactExcluded e = redactExcluded e')
      (excludedRows js now facts o) (excludedRows js now facts' o) := by
  refine List.rel_append (List.rel_filterMap (fun p p' hp => ?_) (kept_congr h)) ?_
  · rw [heldBack_congr js now o h hp]
    cases heldBack js now facts' o p' with
    | none => exact .none
    | some reason =>
        exact .some (congrArg (ExcludedRow.mk · reason) (redactRow_buildRow_congr js now o h hp))
  · rw [List.forall₂_map_left_iff, List.forall₂_map_right_iff]
    refine List.Forall₂.imp (fun p p' hp => ?_)
      (forall₂_filter (fun p p' hp => by rw [decidedQty_congr h hp]) h.predictions)
    have hrow := redactRow_buildRow_congr js now o h hp
    have hreason : notPlannedReasonFor (buildRow js now facts o p) (onTheWay facts p.productId) =
        notPlannedReasonFor (buildRow js now facts' o p') (onTheWay facts' p'.productId) := by
      rw [notPlannedReasonFor, notPlannedReasonFor, onTheWay, onTheWay, h.orders, hp.same,
        show (buildRow js now facts o p).coldStart = asColdStart p.coldStart from rfl]
      rfl
    exact congrArg₂ ExcludedRow.mk hrow hreason

theorem map_redactRow_shownRows_congr (h : SameButCosts facts facts') :
    (shownRows js now o facts).map redactRow = (shownRows js now o facts').map redactRow := by
  apply map_eq_of_forall₂
  unfold shownRows
  split
  · refine forall₂_filter (fun row row' hrow => ?_) (activeRows_congr js now o h)
    have hqty : (redactRow row).recommendedQty = (redactRow row').recommendedQty := by rw [hrow]
    rw [show row.recommendedQty = row'.recommendedQty from hqty]
  · exact activeRows_congr js now o h

theorem map_redactExcluded_shownExcluded_congr (h : SameButCosts facts facts') :
    (shownExcluded js now o facts).map redactExcluded =
      (shownExcluded js now o facts').map redactExcluded := by
  apply map_eq_of_forall₂
  refine forall₂_filter (fun e e' he => ?_) (excludedRows_congr js now o h)
  have hreason : (redactExcluded e).reason = (redactExcluded e').reason := by rw [he]
  rw [show e.reason = e'.reason from hreason]

variable {K : Type} [LinearOrder K] (collate : String → K)

/-- The redacted lists of two states that differ in costs alone are one list. -/
theorem getBuyList_congr (h : SameButCosts facts facts') :
    getBuyList js now o collate (some facts) false =
      getBuyList js now o collate (some facts') false := by
  rw [getBuyList_blind, getBuyList_blind, map_redactRow_shownRows_congr js now o h,
    map_redactExcluded_shownExcluded_congr js now o h, h.forecastRunId, h.runDate,
    h.predictions.length_eq]

end Congr

/-! ## A list that is redacted later -/

section Resort

variable {K : Type} [LinearOrder K] {collate : String → K}

/-- Lists that a map makes equal are equal when it tells their elements apart. -/
theorem eq_of_map_eq {α β : Type} {f : α → β} {l l' : List α}
    (hf : ∀ a ∈ l, ∀ b ∈ l', f a = f b → a = b) (h : l.map f = l'.map f) : l = l' := by
  induction l generalizing l' with
  | nil => exact (List.map_eq_nil_iff.mp h.symm).symm
  | cons a l ih =>
      cases l' with
      | nil => exact absurd h (List.cons_ne_nil _ _)
      | cons b l' =>
          obtain ⟨hhead, htail⟩ := List.cons.inj h
          rw [hf a List.mem_cons_self b List.mem_cons_self hhead, ih (fun c hc d hd =>
            hf c (List.mem_cons_of_mem _ hc) d (List.mem_cons_of_mem _ hd)) htail]

variable (collate) in
/-- Rows that are sorted by line totals, and redacted and sorted later, end up as the redacted rows
do exactly when those that tie came in the order of their line totals. -/
theorem resort_eq_iff {α : Type} (row : α → BuyListRow) {redact : α → α}
    (hid : ∀ a, (row (redact a)).predictionId = (row a).predictionId) {l : List α}
    (hl : (l.map fun a => (row a).predictionId).Nodup) :
    ((l.insertionSort fun a b => NotAfter byUrgencyCostAware (row a) (row b)).insertionSort
      fun a b => NotAfter (byUrgencyCostFree collate) (row a) (row b)).map redact =
      (l.insertionSort fun a b => NotAfter (byUrgencyCostFree collate) (row a) (row b)).map redact ↔
    l.Pairwise fun a b => SameKeys collate (row a) (row b) →
      (row b).lineTotalKes.getD 0 ≤ (row a).lineTotalKes.getD 0 := by
  have hties : ∀ a b, (Ties (fun a b => NotAfter (byUrgencyCostFree collate) (row a) (row b)) a b →
      NotAfter byUrgencyCostAware (row a) (row b)) ↔ (SameKeys collate (row a) (row b) →
      (row b).lineTotalKes.getD 0 ≤ (row a).lineTotalKes.getD 0) := by
    intro a b
    refine Iff.trans ?_ (forall_congr' notAfter_costAware_iff)
    exact imp_congr (ties_costFree_iff (row a) (row b)) Iff.rfl
  rw [← List.Pairwise.iff hties, ← insertionSort_insertionSort_eq_iff]
  constructor
  · apply eq_of_map_eq
    intro a ha b hb hab
    -- a row keeps its id when it is redacted, and ids are told apart
    simp only [List.mem_insertionSort] at ha hb
    refine List.inj_on_of_nodup_map hl ha hb ?_
    rw [← hid a, ← hid b, hab]
  · exact congrArg (List.map redact)

end Resort

section Hidden

variable (js : Js) (now : Time) (o : WhatIf) {K : Type} [LinearOrder K] (collate : String → K)
  (facts : PlanFacts)

/-- Rows that tie on every key without a cost were read in the order of their line totals. -/
structure TiesDescend : Prop where
  rows : (shownRows js now o facts).Pairwise fun a b => SameKeys collate a b →
    b.lineTotalKes.getD 0 ≤ a.lineTotalKes.getD 0
  excluded : (shownExcluded js now o facts).Pairwise fun a b => SameKeys collate a.row b.row →
    b.row.lineTotalKes.getD 0 ≤ a.row.lineTotalKes.getD 0

/-- Every shown row has a prediction of its own. -/
theorem nodup_shownRows : ((shownRows js now o facts).map BuyListRow.predictionId).Nodup := by
  have hactive : ((activeRows js now facts o).map BuyListRow.predictionId).Nodup := by
    rw [activeRows, List.map_map]
    exact facts.ids.sublist ((List.filter_sublist.trans List.filter_sublist).map _)
  unfold shownRows
  split
  · exact hactive.sublist (List.filter_sublist.map _)
  · exact hactive

/-- Elements that are kept are among all of them. -/
theorem filterMap_map_sublist {α β γ : Type} (held : α → Option γ) (g : α → β) (l : List α) :
    (l.filterMap fun a => (held a).map fun _ => g a).Sublist (l.map g) := by
  induction l with
  | nil => exact List.Sublist.slnil
  | cons a l ih =>
      rw [List.filterMap_cons, List.map_cons]
      cases held a with
      | none => exact ih.cons _
      | some c => exact ih.cons_cons _

/-- So has every excluded row. -/
theorem nodup_shownExcluded :
    ((shownExcluded js now o facts).map fun e => e.row.predictionId).Nodup := by
  -- a prediction is either to be bought or not
  have hperm : (kept facts ++ facts.predictions.filter fun p => decidedQty facts p ≤ 0).Perm
      facts.predictions := by
    refine List.Perm.trans (List.Perm.of_eq ?_)
      (List.filter_append_perm (fun p => decide (0 < decidedQty facts p)) facts.predictions)
    rw [kept]
    congr 2
    ext p
    rw [← decide_not]
    exact decide_eq_decide.mpr not_lt.symm
  have hall : ((excludedRows js now facts o).map fun e => e.row.predictionId).Nodup := by
    rw [excludedRows, List.map_append, List.map_filterMap, List.map_map]
    refine List.Nodup.sublist (List.Sublist.append ?_ (List.Sublist.refl _))
      (List.map_append ▸ (hperm.map PlanPrediction.id).nodup_iff.mpr facts.ids)
    simp only [Option.map_map]
    exact filterMap_map_sublist (heldBack js now facts o) PlanPrediction.id (kept facts)
  exact hall.sublist (List.filter_sublist.map _)

/-- For a member without costs the list hides them: it says the same whatever they are, and a list
that is redacted later is that list. -/
def CostsHidden (latest : Option PlanFacts) : Prop :=
  (∀ latest', Option.Rel SameButCosts latest latest' →
    getBuyList js now o collate latest false = getBuyList js now o collate latest' false) ∧
  (getBuyList js now o collate latest true).map
    (fun buyList => redactBuyList collate buyList false) =
      getBuyList js now o collate latest false

/-- A list that is redacted later is the redacted list when rows that tie were read in the order of
their line totals. -/
theorem redactBuyList_getBuyList_iff :
    (getBuyList js now o collate (some facts) true).map
      (fun buyList => redactBuyList collate buyList false) =
        getBuyList js now o collate (some facts) false ↔ TiesDescend js now o collate facts := by
  rw [redactBuyList_getBuyList, getBuyList_blind, ← map_redactRow_sortBy,
    ← map_redactExcluded_sortExcludedBy, Option.some_inj, BuyList.mk.injEq]
  have hrows := resort_eq_iff collate (fun row => row)
    (fun row => show (redactRow row).predictionId = row.predictionId from rfl)
    (nodup_shownRows js now o facts)
  have hexcluded := resort_eq_iff collate ExcludedRow.row
    (fun e => show (redactExcluded e).row.predictionId = e.row.predictionId from rfl)
    (nodup_shownExcluded js now o facts)
  constructor
  · rintro ⟨-, -, hr, he, -, -⟩
    exact ⟨hrows.mp hr, hexcluded.mp he⟩
  · intro h
    exact ⟨rfl, rfl, hrows.mpr h.rows, hexcluded.mpr h.excluded, rfl, rfl⟩

/-- Costs are hidden exactly when rows that tie were read in the order of their line totals: the
redacted list never tells them, and it is the list that is redacted later in this case alone. -/
theorem costsHidden_iff (latest : Option PlanFacts) :
    CostsHidden js now o collate latest ↔
      ∀ facts ∈ latest, TiesDescend js now o collate facts := by
  cases latest with
  | none =>
      refine iff_of_true ⟨fun latest' h => ?_, rfl⟩ (fun _ h => nomatch h)
      cases h
      rfl
  | some facts =>
      have hblind : ∀ latest', Option.Rel SameButCosts (some facts) latest' →
          getBuyList js now o collate (some facts) false =
            getBuyList js now o collate latest' false := by
        rintro _ (h | _)
        exact getBuyList_congr js now o collate h
      rw [CostsHidden, redactBuyList_getBuyList_iff, and_iff_right hblind]
      exact ⟨fun h _ hfacts => Option.some_inj.mp hfacts ▸ h, fun h => h facts rfl⟩

end Hidden

/-- Two products share a SKU, and the cheaper one was read first. -/
def sharedSku : PlanFacts where
  forecastRunId := "run"
  runDate := 0
  predictions :=
    [{ id := 1, productId := 1, daysUntilStockout := 3, urgency := "critical",
       recommendedQty := 5, product := { sku := "TEE", priceKes := 900, costKes := 100 } },
     { id := 2, productId := 2, daysUntilStockout := 3, urgency := "critical",
       recommendedQty := 5, product := { sku := "TEE", priceKes := 900, costKes := 400 } }]
  ids := by decide

/-- The list that is redacted later still has the dearer product first. -/
theorem not_costsHidden_sharedSku :
    ¬ CostsHidden Js.rational 0 {} (fun sku : String => sku) (some sharedSku) := by
  intro h
  have hrows := congrArg
    (Option.map fun buyList : BuyList => buyList.rows.map BuyListRow.predictionId) h.2
  revert hrows
  decide +kernel

end Restock.Plan
