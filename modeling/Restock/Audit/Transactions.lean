import Restock.Audit.Config
import Restock.Series.Sorted

/-!
# The transaction steps of the cleaning chain

The first seven of the steps of `clean/steps.py`, which work on the lines of a validated
transaction frame: exact duplicates and lines that are no demand are split off with a reason, SKUs
are renamed, a return is moved to the sale it goes back to, lines of bulk orders are flagged and
bundles are taken apart.

* `TxFrame` — a validated frame, whose rows have distinct labels;
* `markDuplicates`, `markNonDemand`, `splitExcluded` — what is split off;
* `renameSku`, `netReturns`, `flagBulk`, `explodeBundles` — the other steps.
-/

namespace Restock.Audit

open Series (median)

/-- A line of a transaction frame. -/
structure TxLine where
  /-- The label of the row. -/
  label : ℕ
  /-- Nanoseconds since 1970-01-01. -/
  date : ℤ
  sku : String
  location : String
  qty : ℚ
  unitPrice : Option ℚ := none
  orderId : Option String := none
  customerType : Option String := none
  lineType : Option String := none
  deriving DecidableEq, Repr

/-- A frame that `step_01_validate` let through. -/
structure TxFrame where
  lines : List TxLine
  /-- The frame has a column `customer_type`. -/
  hasCustomerType : Bool
  /-- The frame has a column `line_type`. -/
  hasLineType : Bool
  labels : (lines.map TxLine.label).Nodup

/-- The nanoseconds of a day. -/
def nsPerDay : ℤ := 24 * 60 * 60 * 1000000000

/-- The day of an instant. -/
def dayOf (date : ℤ) : ℤ :=
  date / nsPerDay

/-- The Monday of a day's week. -/
def mondayOf (day : ℤ) : ℤ :=
  day - (day + 3) % 7

namespace TxLine

variable (l : TxLine)

/-- The series of a line. -/
def series : SeriesKey :=
  ⟨l.sku, l.location⟩

/-- `_monday(df["date"])`. -/
def week : ℤ :=
  mondayOf (dayOf l.date)

end TxLine

/-! ## Lines that are split off -/

/-- `_exclude_reason`, or the reason of a copy in the excluded frame. -/
inductive ExcludeReason
  | duplicate
  | nonDemandCustomerType
  | nonDemandLineType
  | bulkOrder
  deriving DecidableEq, Repr

/-- A row of the excluded frame. -/
structure ExcludedLine where
  line : TxLine
  reason : ExcludeReason
  deriving DecidableEq, Repr

/-- `_split_excluded`: the rows without a reason, and those with one. -/
def splitExcluded (marked : List (TxLine × Option ExcludeReason)) :
    List TxLine × List ExcludedLine :=
  (marked.filterMap fun m => if m.2 = none then some m.1 else none,
    marked.filterMap fun m => m.2.map fun reason => ⟨m.1, reason⟩)

/-- The columns that make a line an exact duplicate. -/
def dupKey (l : TxLine) : ℤ × String × String × Option String × ℚ × Option ℚ :=
  (l.date, l.sku, l.location, l.orderId, l.qty, l.unitPrice)

/-- `step_02_dedupe`: every line after the first one of its key is a duplicate. -/
def markDuplicates :
    List (ℤ × String × String × Option String × ℚ × Option ℚ) → List TxLine →
      List (TxLine × Option ExcludeReason)
  | _, [] => []
  | seen, l :: lines =>
      (l, if dupKey l ∈ seen then some .duplicate else none)
        :: markDuplicates (dupKey l :: seen) lines

/-- `step_03_apply_sku_mapping`. -/
def renameSku (skuMapping : List (String × String)) (l : TxLine) : TxLine :=
  { l with sku := (skuMapping.lookup l.sku).getD l.sku }

section Code

variable (py : Py) (config : Config)

/-- The text of a cell is one of some types, in lower case. -/
def cellIn (types : List String) (cell : Option String) : Bool :=
  py.lower (cell.getD py.missing) ∈ types

/-- `step_04_exclude_non_demand`, of a frame with or without the two columns. -/
def markNonDemand (hasCustomerType hasLineType : Bool) (l : TxLine) :
    TxLine × Option ExcludeReason :=
  let excl := config.demand.excludeTypes.map py.lower
  (l,
    if hasCustomerType && cellIn py excl l.customerType then some .nonDemandCustomerType
    else if hasLineType && cellIn py (excl ++ ["cancelled"]) l.lineType then
      some .nonDemandLineType
    else none)

/-! ## Returns -/

/-- The tolerance of `merge_asof`: the netting window. -/
def returnsWindow : ℤ :=
  7 * config.demand.returnsWindowWeeks * nsPerDay

/-- `merge_asof` backward: the date of the latest sale of the series up to a return, unless it
lies further back than the window. -/
def priorSale (lines : List TxLine) (ret : TxLine) : Option ℤ :=
  let dates := (lines.filter fun s => 0 < s.qty ∧ s.series = ret.series ∧ s.date ≤ ret.date).map
    TxLine.date
  dates.max?.filter fun sale => ret.date - sale ≤ returnsWindow config

/-- The returns that are moved, with the dates they are moved to. -/
def movedReturns (lines : List TxLine) : List (ℕ × ℤ) :=
  lines.filterMap fun ret =>
    if ret.qty < 0 then
      match priorSale config lines ret with
      | some sale => if sale ≠ ret.date then some (ret.label, sale) else none
      | none => none
    else none

/-- `step_05_net_returns`: nothing for a negative window, which throws when it is needed. -/
def netReturns (lines : List TxLine) : Option (List TxLine) :=
  if config.demand.returnsWindowWeeks < 0 ∧ (∃ l ∈ lines, l.qty < 0) ∧ (∃ l ∈ lines, 0 < l.qty) then
    none
  else
    let moved := movedReturns config lines
    some <| lines.map fun l =>
      match moved.lookup l.label with
      | some sale => { l with date := sale }
      | none => l

/-! ## Bulk orders and bundles -/

/-- A line with `bulk_line_flag`. -/
structure FlaggedLine where
  line : TxLine
  bulk : Bool
  deriving DecidableEq, Repr

/-- `step_06_flag_bulk`: a sale above a multiple of its SKU's median sale. -/
def flagBulk (lines : List TxLine) : List FlaggedLine :=
  lines.map fun l =>
    let sales := (lines.filter fun s => 0 < s.qty ∧ s.sku = l.sku).map TxLine.qty
    { line := l
      bulk := 0 < l.qty ∧ config.demand.bulkOrderThresholdMultiple * median sales < l.qty }

/-- `step_07_explode_bundles`: the lines of a bundle are replaced by those of its components, at
the end of the frame. -/
def explodeBundles (bundleMap : List (String × List (String × ℚ))) (lines : List FlaggedLine) :
    List FlaggedLine :=
  (lines.filter fun l => l.line.sku ∉ bundleMap.map Prod.fst) ++
    bundleMap.flatMap fun bundle =>
      let sub := lines.filter fun l => l.line.sku = bundle.1
      bundle.2.flatMap fun component =>
        sub.map fun l =>
          { l with
            line := { l.line with
              sku := component.1
              qty := l.line.qty * component.2
              unitPrice := none } }

/-- The working frame after the transaction steps, with the rows that were split off or copied. -/
structure TxSteps where
  /-- The frame after `step_05_net_returns`. -/
  netted : List TxLine
  lines : List FlaggedLine
  excluded : List ExcludedLine
  deriving DecidableEq, Repr

/-- The steps 2 to 7 of `run_chain`. -/
def runTxSteps (frame : TxFrame) (skuMapping : List (String × String))
    (bundleMap : List (String × List (String × ℚ))) : Option TxSteps := do
  let (unique, duplicates) := splitExcluded (markDuplicates [] frame.lines)
  let (demand, nonDemand) := splitExcluded <| (unique.map (renameSku skuMapping)).map
    (markNonDemand py config frame.hasCustomerType frame.hasLineType)
  let netted ← netReturns config demand
  let flagged := flagBulk config netted
  let bulkLines := (flagged.filter FlaggedLine.bulk).map fun l => ⟨l.line, .bulkOrder⟩
  return {
    netted
    lines := explodeBundles bundleMap flagged
    excluded := duplicates ++ nonDemand ++ bulkLines }

end Code

end Restock.Audit
