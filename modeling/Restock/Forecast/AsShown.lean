import Restock.Forecast.Backtest
import Restock.Forecast.Run
import Restock.Series.Collect

/-!
# Advice as it was shown

`packages/forecast-run/src/as-shown-accuracy.ts`. Every recommendation is kept under the day it
was made on, and once its horizon has passed it is scored against what was sold: one row for the
whole shop and one for each class of the day. Several days are scored from one read of the sales
and in one loop.

* `pendingAdvice` — the recommendations whose horizon has passed on days not scored yet;
* `scoreByDay` — the loop, by day and bucket;
* `recordAsShownAccuracy` — a call, which appends the rows of the days it scores;
* `DayScored` — the rows of a day, as sums over its recommendations;
* `dayScored_asShownRows` — what a call writes for a day it scores.
-/

namespace Restock.Forecast

open Series

/-! ## Rows -/

/-- Tag distinguishing these rows from the re-derived `walkforward` trail. -/
def AS_SHOWN_TAG : String := "as_shown"

/-- The horizon the stored number described. -/
def AS_SHOWN_HORIZON_DAYS : ℤ := 30

/-- The columns of a `ForecastRecommendation` that are scored. -/
structure ForecastRecommendation where
  productId : ProductId
  runDate : Time
  finalForecast30d : ℚ
  abcClass : Option String := none
  deriving DecidableEq, Repr

/-- A row of `BacktestRun`. -/
structure BacktestRun where
  runDate : Time
  mae : ℚ
  bias : ℚ
  mape : Option ℚ
  sampleSize : ℕ
  tag : Option String
  abcClass : Option String
  method : Option String
  saidUnits : Option ℚ
  happenedUnits : Option ℚ
  leans : Option Leaning
  deriving DecidableEq, Repr

/-- The tables of a tenant that the scoring reads and writes. -/
structure AccuracyTables where
  recommendations : List ForecastRecommendation := []
  sales : List SaleRow := []
  backtestRuns : List BacktestRun := []

/-- `AsShownAccuracyOutcome`. -/
structure AsShownAccuracyOutcome where
  runsScored : ℕ
  rowsWritten : ℕ
  deriving DecidableEq, Repr

/-- `Scored`. -/
structure Scored where
  abcClass : String
  said : ℚ
  happened : ℚ
  sampleSize : ℕ
  absError : ℚ
  pctErrorSum : ℚ
  pctErrorCount : ℕ
  deriving DecidableEq, Repr

/-- Plain lean word, on a dead band of five percent. -/
def leansOf (said happened : ℚ) : Leaning :=
  if happened ≤ 0 then if 0 < said then .over else .even
  else
    let delta := (said - happened) / happened
    if 5 / 100 < delta then .over
    else if delta < -(5 / 100) then .under
    else .even

/-- `blank`. -/
def Scored.blank (abcClass : String) : Scored where
  abcClass
  said := 0
  happened := 0
  sampleSize := 0
  absError := 0
  pctErrorSum := 0
  pctErrorCount := 0

/-- A bucket with one more product. A product that sold nothing counts in units, but cannot carry
a percentage. -/
def Scored.add (bucket : Scored) (said happened : ℚ) : Scored :=
  { bucket with
    said := bucket.said + said
    happened := bucket.happened + happened
    sampleSize := bucket.sampleSize + 1
    absError := bucket.absError + |said - happened|
    pctErrorSum :=
      if 0 < happened then bucket.pctErrorSum + |said - happened| / happened
      else bucket.pctErrorSum
    pctErrorCount := if 0 < happened then bucket.pctErrorCount + 1 else bucket.pctErrorCount }

/-! ## A call -/

/-- The end of the horizon of a run. -/
def horizonEnd (start : Time) : Time :=
  start + AS_SHOWN_HORIZON_DAYS * DAY_MS

/-- The days that carry `as_shown` rows. -/
def scoredDays (db : AccuracyTables) : List Time :=
  (db.backtestRuns.filter fun r => r.tag = some AS_SHOWN_TAG).map BacktestRun.runDate

/-- The recommendations whose whole horizon has elapsed, without those of days that carry
`as_shown` rows, in the order of their days. -/
def pendingAdvice (db : AccuracyTables) (now : Time) : List ForecastRecommendation :=
  let scorableBefore := now - AS_SHOWN_HORIZON_DAYS * DAY_MS
  let recommendations := (db.recommendations.filter fun r =>
    r.runDate ≤ scorableBefore).insertionSort fun a b => a.runDate ≤ b.runDate
  recommendations.filter fun r => r.runDate ∉ scoredDays db

/-- One read of the sales that spans every pending window, by product. -/
def salesByProduct (sales : List SaleRow) :
    List ForecastRecommendation → List (ProductId × List (Time × ℚ))
  | [] => []
  | first :: rest =>
      let earliest := (first :: rest).foldl
        (fun earliest r => if r.runDate < earliest then r.runDate else earliest) first.runDate
      let latestEnd := horizonEnd
        ((rest.map ForecastRecommendation.runDate).foldl max first.runDate)
      groups ((sales.filter fun s => earliest ≤ s.date ∧ s.date < latestEnd).map fun s =>
        (s.productId, (s.date, s.quantity)))

/-- What a product sold within the horizon of a recommendation. -/
def happenedFor (byProduct : List (ProductId × List (Time × ℚ))) (rec : ForecastRecommendation) :
    ℚ :=
  ((((getEntry byProduct rec.productId).getD []).filter fun s =>
    rec.runDate ≤ s.1 ∧ s.1 < horizonEnd rec.runDate).map Prod.snd).sum

/-- Every product lands in the rollup of the shop and, when it held a class that day, in that
class too. -/
def bucketsOf (rec : ForecastRecommendation) : List String :=
  if rec.abcClass = some "A" ∨ rec.abcClass = some "B" ∨ rec.abcClass = some "C" then
    "ALL" :: rec.abcClass.toList
  else ["ALL"]

/-- The buckets of a day with one more recommendation. -/
def scoreInto (byProduct : List (ProductId × List (Time × ℚ))) (classes : List (String × Scored))
    (rec : ForecastRecommendation) : List (String × Scored) :=
  (bucketsOf rec).foldl
    (fun classes key =>
      setEntry classes key (((getEntry classes key).getD (Scored.blank key)).add
        rec.finalForecast30d (happenedFor byProduct rec)))
    classes

/-- The recommendations grouped by run day, then by class within it. -/
def scoreByDay (byProduct : List (ProductId × List (Time × ℚ)))
    (pending : List ForecastRecommendation) : List (Time × List (String × Scored)) :=
  pending.foldl
    (fun byDay rec => setEntry byDay rec.runDate
      (scoreInto byProduct ((getEntry byDay rec.runDate).getD []) rec))
    []

/-- The row of a bucket. -/
def rowOf (day : Time) (bucket : Scored) : BacktestRun where
  runDate := day
  mae := bucket.absError / bucket.sampleSize
  bias := if 0 < bucket.happened then (bucket.said - bucket.happened) / bucket.happened else 0
  mape :=
    if 0 < bucket.pctErrorCount then some (bucket.pctErrorSum / bucket.pctErrorCount) else none
  sampleSize := bucket.sampleSize
  tag := some AS_SHOWN_TAG
  abcClass := some bucket.abcClass
  method := some "run_rate"
  saidUnits := some bucket.said
  happenedUnits := some bucket.happened
  leans := some (leansOf bucket.said bucket.happened)

/-- The rows of a day. -/
def rowsOfDay (day : Time) (classes : List (String × Scored)) : List BacktestRun :=
  ((classes.map Prod.snd).filter fun bucket => bucket.sampleSize ≠ 0).map (rowOf day)

/-- The rows a call writes. -/
def asShownRows (db : AccuracyTables) (now : Time) : List BacktestRun :=
  let pending := pendingAdvice db now
  (scoreByDay (salesByProduct db.sales pending) pending).flatMap fun e => rowsOfDay e.1 e.2

/-- `recordAsShownAccuracy`. -/
def recordAsShownAccuracy (db : AccuracyTables) (now : Time) :
    AsShownAccuracyOutcome × AccuracyTables :=
  let pending := pendingAdvice db now
  let byDay := scoreByDay (salesByProduct db.sales pending) pending
  let rows := asShownRows db now
  -- without a recommendation that is scorable there is none that is pending
  if pending = [] ∨ rows = [] then ({ runsScored := 0, rowsWritten := 0 }, db)
  else ({ runsScored := byDay.length, rowsWritten := rows.length },
    { db with backtestRuns := db.backtestRuns ++ rows })

/-- A call appends its rows. -/
theorem recordAsShownAccuracy_tables (db : AccuracyTables) (now : Time) :
    (recordAsShownAccuracy db now).2
      = { db with backtestRuns := db.backtestRuns ++ asShownRows db now } := by
  rw [recordAsShownAccuracy]
  split
  case isTrue hnone =>
    have hrows : asShownRows db now = [] := by
      rcases hnone with hnone | hrows
      · rw [asShownRows, hnone]
        rfl
      · exact hrows
    rw [hrows, List.append_nil]
  case isFalse => rfl

/-- The rows a call writes carry the tag. -/
theorem tag_of_mem_asShownRows {db : AccuracyTables} {now : Time} {row : BacktestRun}
    (h : row ∈ asShownRows db now) : row.tag = some AS_SHOWN_TAG := by
  obtain ⟨e, -, hrow⟩ := List.mem_flatMap.mp h
  obtain ⟨bucket, -, rfl⟩ := List.mem_map.mp hrow
  rfl

/-! ## The rows of a day -/

/-- The buckets there are. -/
def BUCKETS : List String := ["ALL", "A", "B", "C"]

/-- The recommendations of a day that are in a bucket. -/
def adviceOf (recommendations : List ForecastRecommendation) (day : Time) (key : String) :
    List ForecastRecommendation :=
  recommendations.filter fun r => r.runDate = day ∧ (key = "ALL" ∨ r.abcClass = some key)

/-- The units of a product that were sold in the thirty days from a day on. -/
def unitsSoldFrom (sales : List SaleRow) (day : Time) (productId : ProductId) : ℚ :=
  ((sales.filter fun s =>
    s.productId = productId ∧ day ≤ s.date ∧ s.date < horizonEnd day).map fun s => s.quantity).sum

/-- The rows are those of a day: one for each bucket that holds recommendations of the day, with
what they said, what their products sold, and how many they are. -/
structure DayScored (recommendations : List ForecastRecommendation) (sales : List SaleRow)
    (day : Time) (rows : List BacktestRun) : Prop where
  bucket : ∀ row ∈ rows, row.runDate = day ∧ row.tag = some AS_SHOWN_TAG ∧
    ∃ key ∈ BUCKETS, row.abcClass = some key
  row : ∀ key ∈ BUCKETS, adviceOf recommendations day key ≠ [] →
    ∃ row, rows.filter (fun row => row.abcClass = some key) = [row]
      ∧ row.saidUnits = some ((adviceOf recommendations day key).map
          ForecastRecommendation.finalForecast30d).sum
      ∧ row.happenedUnits = some (((adviceOf recommendations day key).map
          ForecastRecommendation.productId).map (unitsSoldFrom sales day)).sum
      ∧ row.sampleSize = ((adviceOf recommendations day key).map
          ForecastRecommendation.productId).length
  noRow : ∀ key ∈ BUCKETS, adviceOf recommendations day key = [] →
    rows.filter (fun row => row.abcClass = some key) = []

section Windows

variable {sales : List SaleRow} {pending : List ForecastRecommendation}
  {rec : ForecastRecommendation}

/-- The loop for the earliest day takes the least of them. -/
theorem foldl_earliest_eq (pending : List ForecastRecommendation) (init : Time) :
    pending.foldl (fun earliest r => if r.runDate < earliest then r.runDate else earliest) init
      = (pending.map ForecastRecommendation.runDate).foldl min init := by
  have hmin : ∀ (earliest : Time) (r : ForecastRecommendation),
      (if r.runDate < earliest then r.runDate else earliest) = min earliest r.runDate := by
    intro earliest r
    rw [min_comm, min_def_lt]
  rw [List.foldl_map]
  simp only [hmin]

/-- The one read of the sales spans the window of each pending recommendation: what is counted for
it is all that its product sold in its horizon. -/
theorem happenedFor_eq (hrec : rec ∈ pending) :
    happenedFor (salesByProduct sales pending) rec
      = unitsSoldFrom sales rec.runDate rec.productId := by
  cases pending with
  | nil => exact absurd hrec List.not_mem_nil
  | cons first rest =>
      have hearliest : ((first :: rest).map ForecastRecommendation.runDate).foldl min first.runDate
          ≤ rec.runDate :=
        (le_foldl_min.mp (le_refl _)).2 _ (List.mem_map_of_mem hrec)
      have hlatest : rec.runDate
          ≤ (rest.map ForecastRecommendation.runDate).foldl max first.runDate := by
        have hmax := foldl_max_le.mp
          (le_refl ((rest.map ForecastRecommendation.runDate).foldl max first.runDate))
        rcases List.mem_cons.mp hrec with rfl | hrec
        · exact hmax.1
        · exact hmax.2 _ (List.mem_map_of_mem hrec)
      rw [happenedFor, salesByProduct, getEntry_groups, valuesAt, unitsSoldFrom,
        foldl_earliest_eq]
      simp only [List.filter_map, List.map_map, List.filter_filter]
      refine congrArg List.sum (congrArg (List.map _) (List.filter_congr fun s _ => ?_))
      -- a sale in the horizon of the recommendation is in the window that was read
      rw [Bool.eq_iff_iff]
      simp only [Function.comp_apply, Bool.and_eq_true, decide_eq_true_eq]
      constructor
      · rintro ⟨hwindow, hproduct, -⟩
        exact ⟨hproduct, hwindow⟩
      · rintro ⟨hproduct, hstart, hend⟩
        refine ⟨⟨hstart, hend⟩, hproduct, hearliest.trans hstart, hend.trans_le ?_⟩
        exact Int.add_le_add_right hlatest _

end Windows

section Buckets

/-- The buckets of a recommendation are buckets, each once. -/
theorem nodup_bucketsOf (rec : ForecastRecommendation) :
    (bucketsOf rec).Nodup ∧ ∀ key ∈ bucketsOf rec, key ∈ BUCKETS := by
  unfold bucketsOf
  split
  case isTrue hclass =>
    rcases hclass with h | h | h <;>
      (rw [h]; decide)
  case isFalse => decide

/-- A recommendation is in the rollup of the shop, and in the bucket of its class. -/
theorem mem_bucketsOf {rec : ForecastRecommendation} {key : String} (hkey : key ∈ BUCKETS) :
    key ∈ bucketsOf rec ↔ key = "ALL" ∨ rec.abcClass = some key := by
  unfold bucketsOf
  split
  case isTrue hclass =>
    rw [List.mem_cons, Option.mem_toList]
  case isFalse hclass =>
    rw [List.mem_singleton]
    refine ⟨Or.inl, fun h => ?_⟩
    rcases h with hall | hrec
    · exact hall
    -- a recommendation without one of the three classes is in none of their buckets
    simp only [BUCKETS, List.mem_cons, List.not_mem_nil, or_false] at hkey
    rcases hkey with rfl | rfl | rfl | rfl
    · rfl
    · exact absurd (Or.inl hrec) hclass
    · exact absurd (Or.inr (Or.inl hrec)) hclass
    · exact absurd (Or.inr (Or.inr hrec)) hclass

/-- What the values brought into a bucket make of its sums. -/
theorem foldl_add (values : List (ℚ × ℚ)) (bucket : Scored) :
    let scored := values.foldl (fun bucket v => bucket.add v.1 v.2) bucket
    scored.abcClass = bucket.abcClass ∧ scored.said = bucket.said + (values.map Prod.fst).sum
      ∧ scored.happened = bucket.happened + (values.map Prod.snd).sum
      ∧ scored.sampleSize = bucket.sampleSize + values.length := by
  induction values generalizing bucket with
  | nil => simp
  | cons v values ih =>
      obtain ⟨hclass, hsaid, hhappened, hsize⟩ := ih (bucket.add v.1 v.2)
      refine ⟨hclass, ?_, ?_, ?_⟩
      · rw [List.foldl_cons, hsaid, List.map_cons, List.sum_cons, ← add_assoc]
        rfl
      · rw [List.foldl_cons, hhappened, List.map_cons, List.sum_cons, ← add_assoc]
        rfl
      · rw [List.foldl_cons, hsize, List.length_cons]
        show bucket.sampleSize + 1 + values.length = bucket.sampleSize + (values.length + 1)
        omega

end Buckets

section Days

variable (byProduct : List (ProductId × List (Time × ℚ)))

/-- What a recommendation brings into its buckets. -/
def turnsOf (rec : ForecastRecommendation) : List (String × (ℚ × ℚ)) :=
  (bucketsOf rec).map fun key => (key, (rec.finalForecast30d, happenedFor byProduct rec))

/-- The buckets of some recommendations. -/
def classesOf (recs : List ForecastRecommendation) : List (String × Scored) :=
  collect Scored.blank (fun bucket v => bucket.add v.1 v.2) (recs.flatMap (turnsOf byProduct))

/-- The buckets that recommendations are brought into one after the other. -/
theorem foldl_scoreInto (recs : List ForecastRecommendation) :
    recs.foldl (scoreInto byProduct) [] = classesOf byProduct recs := by
  have hturns : scoreInto byProduct = fun classes rec => (turnsOf byProduct rec).foldl
      (bring Scored.blank fun bucket v => bucket.add v.1 v.2) classes := by
    funext classes rec
    rw [turnsOf, List.foldl_map]
    rfl
  rw [hturns, foldl_collect]
  rfl

/-- The loop makes each day of its recommendations alone. -/
theorem scoreByDay_eq (pending : List ForecastRecommendation) :
    scoreByDay byProduct pending
      = (pending.map ForecastRecommendation.runDate).eraseDups.map fun day =>
          (day, classesOf byProduct (pending.filter fun r => r.runDate = day)) := by
  have hloop : scoreByDay byProduct pending
      = collect (fun _ => []) (scoreInto byProduct) (pending.map fun r => (r.runDate, r)) := by
    rw [collect, List.foldl_map]
    rfl
  rw [hloop, collect_eq, groups, List.map_map, List.map_map]
  refine List.map_congr_left fun day _ => Prod.ext rfl ?_
  have hvalues : valuesAt (pending.map fun r => (r.runDate, r)) day
      = pending.filter fun r => r.runDate = day := by
    rw [valuesAt, List.filter_map, List.map_map]
    exact List.map_id _
  show (valuesAt (pending.map fun r => (r.runDate, r)) day).foldl (scoreInto byProduct) [] = _
  rw [hvalues, foldl_scoreInto]

/-- What some recommendations bring into a bucket: those that are in it, in their order. -/
theorem valuesAt_turns (recs : List ForecastRecommendation) (key : String) :
    valuesAt (recs.flatMap (turnsOf byProduct)) key
      = (recs.filter fun r => key ∈ bucketsOf r).map fun r =>
          (r.finalForecast30d, happenedFor byProduct r) := by
  induction recs with
  | nil => rfl
  | cons r recs ih =>
      have hturns : valuesAt (turnsOf byProduct r) key
          = if key ∈ bucketsOf r then [(r.finalForecast30d, happenedFor byProduct r)] else [] := by
        rw [valuesAt, turnsOf, List.filter_map, List.map_map]
        show ((bucketsOf r).filter fun k => k = key).map _ = _
        rw [filter_eq_of_nodup (nodup_bucketsOf r).1]
        split <;> rfl
      rw [List.flatMap_cons, valuesAt, List.filter_append, List.map_append]
      show valuesAt _ key ++ valuesAt _ key = _
      rw [hturns, ih]
      by_cases hkey : key ∈ bucketsOf r <;> simp [hkey]

/-- The row of a bucket with some recommendations. -/
def rowOfAdvice (day : Time) (key : String) (recs : List ForecastRecommendation) : BacktestRun :=
  rowOf day ((recs.map fun r => (r.finalForecast30d, happenedFor byProduct r)).foldl
    (fun bucket v => bucket.add v.1 v.2) (Scored.blank key))

/-- The rows of a day are those of the buckets with recommendations. -/
theorem rowsOfDay_eq (day : Time) (recs : List ForecastRecommendation) :
    rowsOfDay day (classesOf byProduct recs)
      = ((recs.flatMap (turnsOf byProduct)).map Prod.fst).eraseDups.map fun key =>
          rowOfAdvice byProduct day key (recs.filter fun r => key ∈ bucketsOf r) := by
  rw [rowsOfDay, classesOf, collect_eq, groups, List.map_map, List.map_map, List.filter_eq_self.mpr,
    List.map_map]
  · refine List.map_congr_left fun key _ => ?_
    show rowOf day ((valuesAt _ key).foldl _ _) = _
    rw [valuesAt_turns]
    rfl
  · -- a bucket is made for a recommendation, so it is not empty
    intro bucket hbucket
    obtain ⟨key, hkey, rfl⟩ := List.mem_map.mp hbucket
    have hsize := (foldl_add (valuesAt (recs.flatMap (turnsOf byProduct)) key)
      (Scored.blank key)).2.2.2
    have hsome := List.length_pos_iff.mpr (valuesAt_ne_nil.mpr (List.mem_eraseDups.mp hkey))
    refine decide_eq_true fun hzero => ?_
    have hlength : 0 + (valuesAt (recs.flatMap (turnsOf byProduct)) key).length = 0 :=
      hsize.symm.trans hzero
    omega

/-- The sums of the row of a bucket. -/
theorem rowOfAdvice_sums (day : Time) (key : String) (recs : List ForecastRecommendation) :
    let row := rowOfAdvice byProduct day key recs
    row.abcClass = some key
      ∧ row.saidUnits = some (recs.map ForecastRecommendation.finalForecast30d).sum
      ∧ row.happenedUnits = some (recs.map (happenedFor byProduct)).sum
      ∧ row.sampleSize = recs.length := by
  obtain ⟨hclass, hsaid, hhappened, hsize⟩ := foldl_add
    (recs.map fun r => (r.finalForecast30d, happenedFor byProduct r)) (Scored.blank key)
  refine ⟨congrArg some hclass, congrArg some (hsaid.trans ?_), congrArg some (hhappened.trans ?_),
    hsize.trans ?_⟩
  · rw [List.map_map]
    exact zero_add _
  · rw [List.map_map]
    exact zero_add _
  · rw [List.length_map]
    exact zero_add _

/-- A row of a day is of one of the buckets. -/
theorem bucket_of_mem_rowsOfDay {day : Time} {recs : List ForecastRecommendation}
    {row : BacktestRun} (h : row ∈ rowsOfDay day (classesOf byProduct recs)) :
    row.runDate = day ∧ row.tag = some AS_SHOWN_TAG ∧
      ∃ key ∈ BUCKETS, row.abcClass = some key := by
  rw [rowsOfDay_eq] at h
  obtain ⟨key, hkey, rfl⟩ := List.mem_map.mp h
  refine ⟨rfl, rfl, key, ?_, (rowOfAdvice_sums byProduct day key _).1⟩
  obtain ⟨turn, hturn, rfl⟩ := List.mem_map.mp (List.mem_eraseDups.mp hkey)
  obtain ⟨rec, -, hturn⟩ := List.mem_flatMap.mp hturn
  obtain ⟨key, hbucket, rfl⟩ := List.mem_map.mp hturn
  exact (nodup_bucketsOf rec).2 key hbucket

/-- The row of one bucket of a day. -/
theorem filter_rowsOfDay (day : Time) (recs : List ForecastRecommendation) (key : String) :
    (rowsOfDay day (classesOf byProduct recs)).filter (fun row => row.abcClass = some key)
      = if (recs.filter fun r => key ∈ bucketsOf r) = [] then []
        else [rowOfAdvice byProduct day key (recs.filter fun r => key ∈ bucketsOf r)] := by
  have hclass : ∀ k recs, (rowOfAdvice byProduct day k recs).abcClass = some k :=
    fun k recs => (rowOfAdvice_sums byProduct day k recs).1
  have hmem : key ∈ ((recs.flatMap (turnsOf byProduct)).map Prod.fst).eraseDups ↔
      (recs.filter fun r => key ∈ bucketsOf r) ≠ [] := by
    rw [List.mem_eraseDups, ← valuesAt_ne_nil, valuesAt_turns, Ne, List.map_eq_nil_iff]
  rw [rowsOfDay_eq, List.filter_map]
  have hkey : ((fun row : BacktestRun => decide (row.abcClass = some key)) ∘ fun k =>
      rowOfAdvice byProduct day k (recs.filter fun r => k ∈ bucketsOf r))
      = fun k => decide (k = key) := by
    funext k
    simp only [Function.comp_apply, hclass, Option.some.injEq]
  rw [hkey, filter_eq_of_nodup (nodup_eraseDups _)]
  by_cases hnone : (recs.filter fun r => key ∈ bucketsOf r) = []
  · rw [if_neg fun h => hmem.mp h hnone, if_pos hnone]
    rfl
  · rw [if_pos (hmem.mpr hnone), if_neg hnone]
    rfl

/-- A day with recommendations has rows. -/
theorem rowsOfDay_ne_nil (day : Time) {recs : List ForecastRecommendation} (h : recs ≠ []) :
    rowsOfDay day (classesOf byProduct recs) ≠ [] := by
  intro hnil
  have hall : (recs.filter fun r => "ALL" ∈ bucketsOf r) = recs := by
    refine List.filter_eq_self.mpr fun r _ => decide_eq_true ?_
    exact (mem_bucketsOf (by decide)).mpr (Or.inl rfl)
  have hrow := filter_rowsOfDay byProduct day recs "ALL"
  rw [hnil, hall, if_neg h] at hrow
  cases hrow

end Days

section Call

variable (db : AccuracyTables) (now day : Time)

/-- The pending recommendations of a day. -/
def pendingOn : List ForecastRecommendation :=
  (pendingAdvice db now).filter fun r => r.runDate = day

/-- What a call writes for a day: the rows of its pending recommendations. -/
def writtenFor : List BacktestRun :=
  (asShownRows db now).filter fun row => row.runDate = day

theorem writtenFor_eq : writtenFor db now day
    = if pendingOn db now day = [] then []
      else rowsOfDay day
        (classesOf (salesByProduct db.sales (pendingAdvice db now)) (pendingOn db now day)) := by
  have hmem : day ∈ ((pendingAdvice db now).map ForecastRecommendation.runDate).eraseDups ↔
      pendingOn db now day ≠ [] := by
    rw [List.mem_eraseDups, List.mem_map, pendingOn, Ne, List.filter_eq_nil_iff]
    push Not
    simp only [decide_eq_true_eq]
  rw [writtenFor, asShownRows, scoreByDay_eq, List.flatMap_map,
    filter_flatMap_parts (nodup_eraseDups _)]
  · by_cases hnone : pendingOn db now day = []
    · rw [if_neg fun h => hmem.mp h hnone, if_pos hnone]
    · rw [if_pos (hmem.mpr hnone), if_neg hnone]
      rfl
  · -- the rows of a day carry it
    intro day _ row hrow
    rw [rowsOfDay] at hrow
    obtain ⟨bucket, -, rfl⟩ := List.mem_map.mp hrow
    rfl

/-- Once the horizon of a day has passed, all its recommendations are pending until it is scored,
and none before and after. -/
theorem pendingOn_perm : (pendingOn db now day).Perm
    (if horizonEnd day ≤ now ∧ day ∉ scoredDays db then
      db.recommendations.filter fun r => r.runDate = day
    else []) := by
  have hsort := List.perm_insertionSort (fun a b : ForecastRecommendation => a.runDate ≤ b.runDate)
    (db.recommendations.filter fun r => r.runDate ≤ now - AS_SHOWN_HORIZON_DAYS * DAY_MS)
  have helapsed : day ≤ now - AS_SHOWN_HORIZON_DAYS * DAY_MS ↔ horizonEnd day ≤ now :=
    le_sub_iff_add_le
  rw [pendingOn, pendingAdvice]
  refine ((hsort.filter _).filter _).trans (List.Perm.of_eq ?_)
  rw [List.filter_filter, List.filter_filter]
  by_cases hdue : horizonEnd day ≤ now ∧ day ∉ scoredDays db
  · rw [if_pos hdue]
    refine List.filter_congr fun rec _ => ?_
    by_cases hday : rec.runDate = day
    · -- a recommendation of the day passes the other two tests
      simp [hday, helapsed.mpr hdue.1, hdue.2]
    · simp [hday]
  · rw [if_neg hdue, List.filter_eq_nil_iff]
    intro rec _ hpasses
    simp only [Bool.and_eq_true, decide_eq_true_eq] at hpasses
    obtain ⟨⟨rfl, hnew⟩, hle⟩ := hpasses
    exact hdue ⟨helapsed.mp hle, hnew⟩

variable {db now day}

/-- A day has pending recommendations when it is due. -/
theorem pendingOn_ne_nil : pendingOn db now day ≠ [] ↔
    (horizonEnd day ≤ now ∧ day ∉ scoredDays db) ∧ ∃ r ∈ db.recommendations, r.runDate = day := by
  have hperm := pendingOn_perm db now day
  by_cases hdue : horizonEnd day ≤ now ∧ day ∉ scoredDays db
  · rw [if_pos hdue] at hperm
    have hnil : pendingOn db now day = [] ↔
        (db.recommendations.filter fun r => r.runDate = day) = [] := by
      rw [← List.length_eq_zero_iff, hperm.length_eq, List.length_eq_zero_iff]
    rw [and_iff_right hdue, Ne, hnil, List.filter_eq_nil_iff]
    push Not
    simp only [decide_eq_true_eq]
  · rw [if_neg hdue, List.perm_nil] at hperm
    exact iff_of_false (not_not.mpr hperm) fun h => hdue h.1

/-- A call writes for the days that are due: those with recommendations whose horizon has passed
and that are not scored already. -/
theorem writtenFor_ne_nil : writtenFor db now day ≠ [] ↔
    (horizonEnd day ≤ now ∧ day ∉ scoredDays db) ∧ ∃ r ∈ db.recommendations, r.runDate = day := by
  rw [← pendingOn_ne_nil, writtenFor_eq]
  by_cases hnone : pendingOn db now day = []
  · rw [if_pos hnone]
    exact iff_of_false (not_not.mpr rfl) (not_not.mpr hnone)
  · rw [if_neg hnone]
    exact iff_of_true (rowsOfDay_ne_nil _ day hnone) hnone

/-- A call writes nothing for a day that is scored already. -/
theorem writtenFor_eq_nil (h : day ∈ scoredDays db) : writtenFor db now day = [] :=
  not_not.mp fun hwritten => (writtenFor_ne_nil.mp hwritten).1.2 h

/-- The pending recommendations of a bucket of a day that is due are all there are. -/
theorem pendingOn_bucket_perm (hdue : horizonEnd day ≤ now ∧ day ∉ scoredDays db) {key : String}
    (hkey : key ∈ BUCKETS) : ((pendingOn db now day).filter fun r => key ∈ bucketsOf r).Perm
      (adviceOf db.recommendations day key) := by
  have hall := pendingOn_perm db now day
  rw [if_pos hdue] at hall
  refine (hall.filter _).trans (List.Perm.of_eq ?_)
  rw [List.filter_filter, adviceOf]
  refine List.filter_congr fun rec _ => ?_
  rw [Bool.eq_iff_iff]
  simp [mem_bucketsOf hkey, and_comm]

/-- A call scores a day that is due by its recommendations and the sales of their horizon. -/
theorem dayScored_writtenFor (hdue : horizonEnd day ≤ now ∧ day ∉ scoredDays db)
    (hsome : ∃ r ∈ db.recommendations, r.runDate = day) :
    DayScored db.recommendations db.sales day (writtenFor db now day) := by
  have hpending := pendingOn_ne_nil.mpr ⟨hdue, hsome⟩
  rw [writtenFor_eq, if_neg hpending]
  refine ⟨fun row hrow => ?_, fun key hkey hadvice => ?_, fun key hkey hadvice => ?_⟩
  · exact bucket_of_mem_rowsOfDay _ hrow
  · have hperm := pendingOn_bucket_perm hdue hkey
    have hne : ((pendingOn db now day).filter fun r => key ∈ bucketsOf r) ≠ [] := by
      intro hnil
      rw [hnil] at hperm
      exact hadvice hperm.nil_eq.symm
    obtain ⟨-, hsaid, hhappened, hsize⟩ := rowOfAdvice_sums
      (salesByProduct db.sales (pendingAdvice db now)) day key
      ((pendingOn db now day).filter fun r => key ∈ bucketsOf r)
    refine ⟨_, (filter_rowsOfDay _ day _ key).trans (if_neg hne), hsaid.trans ?_,
      hhappened.trans ?_, hsize.trans ?_⟩
    · rw [(hperm.map _).sum_eq]
    · -- what each of them is counted with is what its product sold
      have hsold : ((pendingOn db now day).filter fun r => key ∈ bucketsOf r).map
          (happenedFor (salesByProduct db.sales (pendingAdvice db now)))
          = ((pendingOn db now day).filter fun r => key ∈ bucketsOf r).map fun r =>
            unitsSoldFrom db.sales day r.productId := by
        refine List.map_congr_left fun r hr => ?_
        obtain ⟨hr, hday⟩ := List.mem_filter.mp (List.mem_filter.mp hr).1
        rw [happenedFor_eq hr, of_decide_eq_true hday]
      rw [hsold, List.map_map, (hperm.map _).sum_eq]
      rfl
    · rw [List.length_map, hperm.length_eq]
  · have hperm := pendingOn_bucket_perm hdue hkey
    rw [hadvice, List.perm_nil] at hperm
    rw [filter_rowsOfDay, if_pos hperm]

/-- The rows of a day are told by the recommendations of the day alone. -/
theorem DayScored.congr {recs recs' : List ForecastRecommendation} {sales : List SaleRow}
    {rows : List BacktestRun} (h : DayScored recs sales day rows)
    (heq : recs.filter (fun r => r.runDate = day) = recs'.filter fun r => r.runDate = day) :
    DayScored recs' sales day rows := by
  have hadvice : ∀ key, adviceOf recs day key = adviceOf recs' day key := by
    intro key
    have hsplit : ∀ recs : List ForecastRecommendation, adviceOf recs day key
        = (recs.filter fun r => r.runDate = day).filter fun r =>
          key = "ALL" ∨ r.abcClass = some key := by
      intro recs
      simp [adviceOf, List.filter_filter, Bool.and_comm]
    rw [hsplit, hsplit, heq]
  exact ⟨h.bucket, by simpa only [hadvice] using h.row, by simpa only [hadvice] using h.noRow⟩

end Call

end Restock.Forecast
