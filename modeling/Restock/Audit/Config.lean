import Mathlib.Algebra.Order.BigOperators.Group.List
import Mathlib.Data.Rat.Floor
import Restock.Shop.Schema

/-!
# The audit's configuration and scores

The sections of the configuration tree of `services/audit-engine` that the modelled steps read,
with the defaults of `config.py`; and the rows a backtest leaves, one for each origin, model, series
and horizon, with the error figures taken of them. Floats of the configuration are exact rationals. A
figure is a float: beside numbers it is infinite when something not zero is divided by zero, and
undefined (NaN) when zero is.

* `Py` — what the audit uses of the language;
* `ScoreRow` — a row, which is only scored when it has both figures;
* `wapeOf` — the weighted absolute percentage error of some rows, `scoring._wape_by`;
* `Figure`, `ratio` — floats of quotients of sums;
* `roundTo` — `round(x, n)`.
-/

namespace Restock.Audit

/-! ## Configuration -/

/-- What the audit uses of Python that exact rationals do not carry. -/
structure Py where
  /-- `int` of a text; nothing when it is not a whole number. -/
  int : String → Option ℤ
  /-- `math.exp`. -/
  exp : ℚ → ℚ
  /-- The text of a number without decimals. -/
  fixed0 : ℚ → String
  /-- `str.lower`. -/
  lower : String → String
  /-- The text that `astype(str)` gives a missing cell. -/
  missing : String

/-- `int` of a text of decimal digits, with the texts of whole numbers. -/
def Py.decimal : Py where
  int s :=
    if s.toList ≠ [] ∧ s.toList.all Char.isDigit then
      some (s.toList.foldl (fun n c => 10 * n + (c.toNat - '0'.toNat : ℕ)) 0)
    else none
  exp _ := 1
  fixed0 q := toString ⌊q⌋
  lower := String.toLower
  missing := "nan"

/-- `TimeCfg`. -/
structure TimeCfg where
  weekStart : String := "monday"
  deriving DecidableEq, Repr

/-- `DemandCfg`. -/
structure DemandCfg where
  bulkOrderThresholdMultiple : ℚ := 5
  returnsWindowWeeks : ℤ := 8
  excludeTypes : List String := ["staff", "test", "cancelled", "fraud"]
  deriving DecidableEq, Repr

/-- `AvailabilityCfg`. -/
structure AvailabilityCfg where
  zeroRunPvalue : ℚ := 1 / 100
  minVelocityPerDay : ℚ := 1
  crossSectionalClosureThreshold : ℚ := 3 / 5
  crossSectionalAmbiguousThreshold : ℚ := 1 / 5
  correctionCapMultiple : ℚ := 3 / 2
  minInstockDaysPerWeek : ℤ := 3
  deriving DecidableEq, Repr

/-- `BaselineCfg`. -/
structure BaselineCfg where
  statistic : String := "median"
  windowWeeks : ℤ := 13
  minUsableWeeks : ℤ := 6
  winsorizeMultiple : ℚ := 2
  levelShiftConsecutiveWeeks : ℤ := 4
  deriving DecidableEq, Repr

/-- `EventsCfg`. -/
structure EventsCfg where
  priceDropThresholdPct : ℚ := 15
  deriving DecidableEq, Repr

/-- `ModelsCfg`. -/
structure ModelsCfg where
  roster : List String :=
    ["M1", "M2", "M3", "M4_4", "M4_8", "M4_13", "M5", "M6", "M7", "M8", "M9", "M10"]
  defaultChampion : String := "M5"
  intermittentDefault : String := "M9"
  sesAlphaBounds : List ℚ := [1 / 20, 2 / 5]
  etsMinWeeks : ℤ := 104
  seasonalNaiveMinWeeks : ℤ := 52
  /-- The models picked for one run; empty for the roster. -/
  selectedModels : List String := []
  /-- The combinations picked for one run; empty for those enabled. -/
  selectedCombos : List String := []
  deriving DecidableEq, Repr

/-- `CombinationsCfg`. -/
structure CombinationsCfg where
  enabled : List String := ["C1", "C5", "C6"]
  membersC1 : List String := ["M5", "M7", "M10"]
  deriving DecidableEq, Repr

/-- `PerSkuOverrideCfg`. -/
structure PerSkuOverrideCfg where
  minOrigins : ℤ := 12
  minMarginPct : ℚ := 5
  requireStabilityWindows : ℤ := 2
  deriving DecidableEq, Repr

/-- `SelectionCfg`. -/
structure SelectionCfg where
  selectionOriginsTarget : ℤ := 10
  selectionOriginsMinimum : ℤ := 6
  validationOriginsTarget : ℤ := 6
  validationOriginsMinimum : ℤ := 3
  stepWeeks : ℤ := 4
  horizonWeeks : ℤ := 4
  minWeeksNested : ℤ := 65
  minWeeksInnerOnly : ℤ := 49
  floorModel : String := "M2"
  excludeCensoredScoreWeeks : Bool := true
  perSkuOverride : PerSkuOverrideCfg := {}
  status : String := "provisional"
  deriving DecidableEq, Repr

/-- `Config`. -/
structure Config where
  time : TimeCfg := {}
  demand : DemandCfg := {}
  availability : AvailabilityCfg := {}
  baseline : BaselineCfg := {}
  events : EventsCfg := {}
  models : ModelsCfg := {}
  combinations : CombinationsCfg := {}
  selection : SelectionCfg := {}
  deriving DecidableEq, Repr

/-! ## Scores of a backtest -/

/-- The block of a backtest. -/
inductive Block
  | selection
  | validation
  deriving DecidableEq, Repr

/-- A series of the panel. -/
structure SeriesKey where
  sku : String
  location : String
  deriving DecidableEq, Repr

/-- A row of the scores. -/
structure ScoreRow where
  block : Block
  /-- The first day of the origin's week. -/
  originDate : Time
  modelId : String
  series : SeriesKey
  horizon : ℕ
  yTrue : Option ℚ
  yPred : Option ℚ
  scored : Bool
  /-- A row without a truth or a prediction is not scored. -/
  figures : scored → yTrue.isSome ∧ yPred.isSome
  deriving DecidableEq, Repr

namespace ScoreRow

/-- `_ae`: how far the prediction is off. -/
def ae (r : ScoreRow) : ℚ :=
  |r.yTrue.getD 0 - r.yPred.getD 0|

/-- `_ay`: the size of the truth. -/
def ay (r : ScoreRow) : ℚ :=
  |r.yTrue.getD 0|

theorem ae_nonneg (r : ScoreRow) : 0 ≤ r.ae :=
  abs_nonneg _

/-- The predictions of some rows are off by something not negative. -/
theorem sum_ae_nonneg (rows : List ScoreRow) : 0 ≤ (rows.map ae).sum :=
  List.sum_nonneg fun _ h => by
    obtain ⟨r, _, rfl⟩ := List.mem_map.mp h
    exact r.ae_nonneg

end ScoreRow

/-- `scoring._with_terms`: the rows scored that have both figures. -/
def withTerms (scores : List ScoreRow) : List ScoreRow :=
  scores.filter fun r => r.scored ∧ r.yTrue.isSome ∧ r.yPred.isSome

/-- Only rows with both figures are scored. -/
theorem withTerms_eq_filter (scores : List ScoreRow) :
    withTerms scores = scores.filter ScoreRow.scored := by
  refine List.filter_congr fun r _ => ?_
  rw [Bool.eq_iff_iff, decide_eq_true_iff]
  exact and_iff_left_of_imp r.figures

/-- The weighted absolute percentage error of some rows; nothing when the truths are all
zero. -/
def wapeOf (rows : List ScoreRow) : Option ℚ :=
  if 0 < (rows.map ScoreRow.ay).sum then
    some ((rows.map ScoreRow.ae).sum / (rows.map ScoreRow.ay).sum)
  else none

/-! ## Floats of quotients -/

/-- A float that a quotient of sums comes to. -/
inductive Figure
  | number (q : ℚ)
  | infinite
  | undefined
  deriving DecidableEq, Repr

/-- The absolute quotient of two sums, the lower one of which is not negative. -/
def ratio (above below : ℚ) : Figure :=
  if 0 < below then .number |above / below|
  else if above ≠ 0 then .infinite
  else .undefined

/-- `round` of a float to the nearest whole number, ties to the even one. -/
def pyRound (q : ℚ) : ℤ :=
  if q - ⌊q⌋ < 1 / 2 then ⌊q⌋
  else if 1 / 2 < q - ⌊q⌋ then ⌊q⌋ + 1
  else if ⌊q⌋ % 2 = 0 then ⌊q⌋
  else ⌊q⌋ + 1

/-- `round(x, n)`. -/
def roundTo (digits : ℕ) (q : ℚ) : ℚ :=
  pyRound (q * 10 ^ digits) / 10 ^ digits

/-- `round(x, n)` of a figure. -/
def Figure.roundTo (digits : ℕ) : Figure → Figure
  | number q => number (Audit.roundTo digits q)
  | infinite => infinite
  | undefined => undefined

end Restock.Audit
