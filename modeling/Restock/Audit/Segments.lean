import Restock.Audit.Matrices
import Restock.Series.Entries

/-!
# The segments of a catalogue

`baseline/segments.py` puts every series of a panel into a routing segment, by figures of the 52
weeks up to the panel's last one: its share of the value of its location, how its weekly units vary,
how often it sells, and when it last sold.

* `SegmentsCfg` — the thresholds;
* `SeriesFigures`, `seriesFigures` — what the loop over the series finds;
* `repPrices`, `abcClasses` — the value of the series, and their classes;
* `computeSegments` — the code.

A figure that is undefined (NaN) is absent.
-/

namespace Restock.Audit

open Series (median setEntries steps)

/-- `SegmentsCfg`. -/
structure SegmentsCfg where
  abcThresholds : List ℚ := [4 / 5, 19 / 20]
  xyzCvThresholds : List ℚ := [1 / 2, 1]
  intermittentAdi : ℚ := 33 / 25
  intermittentCv2 : ℚ := 49 / 100
  dormancyWeeks : ℤ := 8
  deriving DecidableEq, Repr

/-- A class of the ABC analysis. -/
inductive AbcClass
  | A
  | B
  | C
  deriving DecidableEq, Repr

/-- A class of variability. -/
inductive XyzClass
  | X
  | Y
  | Z
  deriving DecidableEq, Repr

/-- The quadrant of a series' demand. -/
inductive DemandClass
  | smooth
  | intermittent
  | erratic
  | lumpy
  deriving DecidableEq, Repr

/-- Where a series is in its life. -/
inductive Lifecycle
  | active
  | new
  | dormant
  deriving DecidableEq, Repr

def AbcClass.text : AbcClass → String
  | A => "A"
  | B => "B"
  | C => "C"

def XyzClass.text : XyzClass → String
  | X => "X"
  | Y => "Y"
  | Z => "Z"

/-- A row of `SegmentSchema`. -/
structure SegmentRow where
  series : SeriesKey
  abc : AbcClass
  xyz : XyzClass
  adi : Option ℚ
  cv2 : Option ℚ
  demandClass : DemandClass
  intermittentFlag : Bool
  lifecycle : Lifecycle
  /-- The routing segment. -/
  segment : String
  deriving DecidableEq, Repr

/-- `TRAILING_VALUE_WEEKS`. -/
def trailingValueWeeks : ℤ := 52

/-- `NEW_WEEKS`. -/
def newWeeks : ℤ := 8

/-- `_EPS`. -/
def epsShare : ℚ := 1 / 10 ^ 9

/-- The mean of some values; zero for none. -/
def meanOf (values : List ℚ) : ℚ :=
  values.sum / values.length

section Code

variable (sqrt : ℚ → ℚ) (scfg : SegmentsCfg)

/-- `std(ddof=0)`. -/
def stdOf (values : List ℚ) : ℚ :=
  sqrt (meanOf (values.map fun v => (v - meanOf values) ^ 2))

/-! ## The figures of a series -/

/-- The class of a series by the variation of its weekly units; nothing sold is `Z`. -/
def xyzOf (low high : ℚ) (weekly : List ℚ) : XyzClass :=
  let mean := meanOf weekly
  if weekly ≠ [] ∧ 0 < mean then
    let cv := stdOf sqrt weekly / mean
    if cv < low then .X else if cv < high then .Y else .Z
  else .Z

/-- The mean interval between weeks with units; nothing with fewer than two of them. -/
def adiOf (positions : List ℤ) : Option ℚ :=
  if 2 ≤ positions.length then
    some (meanOf ((steps positions).map fun step => ((step.2 - step.1 : ℤ) : ℚ)))
  else none

/-- The squared variation of the units of the weeks with units. -/
def cv2Of (sizes : List ℚ) : Option ℚ :=
  if sizes = [] then none else some ((stdOf sqrt sizes / meanOf sizes) ^ 2)

/-- `demand_class`. -/
def demandClassOf : Option ℚ → Option ℚ → DemandClass
  | some adi, some cv2 =>
      if scfg.intermittentAdi ≤ adi ∧ scfg.intermittentCv2 ≤ cv2 then .intermittent
      else if adi < scfg.intermittentAdi ∧ cv2 < scfg.intermittentCv2 then .smooth
      else if scfg.intermittentCv2 ≤ cv2 then .erratic
      else .lumpy
  | _, _ => .intermittent

/-- The place of a series in its life, of its rows up to the panel's last week. -/
def lifecycleOf (asOf : ℤ) (own : List PanelRow) : Lifecycle :=
  let lastSale := ((own.filter fun r => 0 < r.unitsRaw).map PanelRow.weekStart).max?
  let firstWeek := (own.map PanelRow.weekStart).min?
  if !lastSale.any fun last => asOf - last < 7 * scfg.dormancyWeeks then .dormant
  else if firstWeek.any fun first => (asOf - first) / 7 + 1 < newWeeks then .new
  else .active

/-- What the loop over the series finds. -/
structure SeriesFigures where
  series : SeriesKey
  xyz : XyzClass
  adi : Option ℚ
  cv2 : Option ℚ
  demandClass : DemandClass
  intermittentFlag : Bool
  lifecycle : Lifecycle
  units52 : ℚ
  repPrice : Option ℚ
  deriving DecidableEq, Repr

/-- One turn of the loop over the series. -/
def seriesFigures (low high : ℚ) (asOf : ℤ) (panel : List PanelRow) (series : SeriesKey) :
    SeriesFigures :=
  let own := panel.filter fun r => r.series = series
  let window := (own.filter fun r => asOf - 7 * trailingValueWeeks < r.weekStart).insertionSort
    fun a b => a.weekStart ≤ b.weekStart
  let nonzero := window.filter fun r => 0 < r.unitsCorrected
  let first := ((window.map PanelRow.weekStart).min?).getD asOf
  let adi := adiOf (nonzero.map fun r => (r.weekStart - first) / 7)
  let cv2 := cv2Of sqrt (nonzero.map PanelRow.unitsCorrected)
  let prices := window.filterMap PanelRow.priceMedian
  { series
    xyz := xyzOf sqrt low high (window.map PanelRow.unitsCorrected)
    adi
    cv2
    demandClass := demandClassOf scfg adi cv2
    intermittentFlag := adi.any fun adi => scfg.intermittentAdi ≤ adi
    lifecycle := lifecycleOf scfg asOf own
    units52 := (window.map PanelRow.unitsRaw).sum
    repPrice := if prices = [] then none else some (median prices) }

/-! ## The classes of a location -/

/-- `_value`: the units of every series at its price, that of the lookup, or the middle one; units
alone when nothing has a price. -/
def valuesOf (priceLookup : List (String × ℚ)) (figures : List SeriesFigures) :
    List (SeriesKey × ℚ) :=
  let lookup := setEntries [] priceLookup
  let priced := figures.map fun f => (f, f.repPrice.or (lookup.lookup f.series.sku))
  let known := priced.filterMap Prod.snd
  if known = [] then figures.map fun f => (f.series, f.units52)
  else priced.map fun f => (f.1.series, f.1.units52 * f.2.getD (median known))

/-- The class of every series of a location, by its cumulative share of the value. -/
def abcClasses (abcA abcB : ℚ) (part : List (SeriesKey × ℚ)) : List (SeriesKey × AbcClass) :=
  let order := part.insertionSort fun a b => b.2 < a.2 ∨ (a.2 = b.2 ∧ a.1.sku ≤ b.1.sku)
  let values := order.map fun e => max 0 e.2
  order.mapIdx fun i e =>
    (e.1,
      if 0 < values.sum then
        let cum := (values.take (i + 1)).sum / values.sum
        if cum ≤ abcA + epsShare then .A else if cum ≤ abcB + epsShare then .B else .C
      else .C)

/-- `_route`. -/
def routeOf (figures : SeriesFigures) (abc : AbcClass) : String :=
  if figures.intermittentFlag then "intermittent"
  else
    match figures.lifecycle with
    | .new => "new"
    | .dormant => "dormant"
    | .active => abc.text ++ figures.xyz.text

/-- `compute_segments`: nothing when it throws, for an empty panel or thresholds that are not
two. -/
def computeSegments (priceLookup : List (String × ℚ)) (panel : List PanelRow) :
    Option (List SegmentRow) :=
  match scfg.xyzCvThresholds, scfg.abcThresholds, (panel.map PanelRow.weekStart).max? with
  | [low, high], [abcA, abcB], some asOf =>
      let figures := (panelSeries panel).map (seriesFigures sqrt scfg low high asOf panel)
      let values := valuesOf priceLookup figures
      some <| figures.map fun f =>
        let part := values.filter fun e => e.1.location = f.series.location
        let abc := ((abcClasses abcA abcB part).lookup f.series).getD .C
        { series := f.series
          abc
          xyz := f.xyz
          adi := f.adi
          cv2 := f.cv2
          demandClass := f.demandClass
          intermittentFlag := f.intermittentFlag
          lifecycle := f.lifecycle
          segment := routeOf f abc }
  | _, _, _ => none

/-- There is a row for each series of the panel. -/
theorem map_series_computeSegments {priceLookup : List (String × ℚ)} {panel : List PanelRow}
    {segments : List SegmentRow}
    (h : computeSegments sqrt scfg priceLookup panel = some segments) :
    segments.map SegmentRow.series = panelSeries panel := by
  rw [computeSegments] at h
  split at h
  · cases h
    rw [List.map_map, List.map_map]
    exact List.map_id _
  · cases h

end Code

end Restock.Audit
