import Restock.Forecast.SteadyDays

/-!
# The health of the sales feed

`packages/forecast/src/ingest-health.ts` and `assessTenantIngest` of
`packages/forecast-run/src/run.ts`: is the newest sale recent, and did the last days come in
far below the shop's own norm?

* `assessIngestHealth` — the verdict on a series of day totals;
* `assessTenantIngest` — the series built from stored rows, and its verdict;
* `gapDayKeys_iff` — when the gap days are the days that came in low.
-/

namespace Restock.Forecast

open Series

/-- `DailyPoint`: a day and its units. -/
structure DailyPoint where
  dayKey : ℤ
  units : ℚ
  deriving DecidableEq, Repr

/-- `IngestHealthConfig`. No `minNorm` is one that no norm reaches. -/
structure IngestHealthConfig where
  maxStaleHours : ℚ
  lowFrac : ℚ
  minNorm : Option ℚ
  imputeLookback : ℕ
  maxImputeDays : ℕ
  deriving DecidableEq, Repr

/-- The defaults. -/
def DEFAULT_INGEST_HEALTH : IngestHealthConfig where
  maxStaleHours := 60
  lowFrac := 1 / 5
  minNorm := some 10
  imputeLookback := 7
  maxImputeDays := 2

/-- `IngestVerdict`. -/
structure IngestVerdict where
  ok : Bool
  stop : Bool
  impute : Bool
  gapDayKeys : List ℤ
  reasons : List String
  stale : Bool
  trailingNorm : ℚ
  latestSaleAt : Option Time
  deriving DecidableEq, Repr

/-- Hours in the unit a person would use. -/
def describeAge (hours : ℚ) : String :=
  let days := jsRound (hours / 24)
  let weeks := jsRound ((days : ℚ) / 7)
  if hours < 48 then toString (jsRound hours) ++ " hours"
  else if days < 14 then toString days ++ " days"
  else if weeks < 9 then toString weeks ++ " weeks"
  else toString (jsRound ((days : ℚ) / 30)) ++ " months"

/-- The value at a quantile of the list, zero when it is empty. -/
def quantile (xs : List ℚ) (f : ℚ) : ℚ :=
  let sorted := xs.insertionSort (· ≤ ·)
  if xs = [] then 0 else sorted.getD (min (sorted.length - 1) ⌊sorted.length * f⌋.toNat) 0

/-- The units of a normal day: the upper quartile of all days but the newest. -/
def normOf (daily : List DailyPoint) : ℚ :=
  let prior := daily.dropLast.map DailyPoint.units
  quantile (if prior = [] then daily.map DailyPoint.units else prior) (3 / 4)

/-- The entries of the series the gap check looks at. -/
def lookback (daily : List DailyPoint) (cfg : IngestHealthConfig) : List DailyPoint :=
  daily.drop (daily.length - cfg.imputeLookback)

/-- The looked-at days far below the norm, where there is a norm. -/
def gapDays (daily : List DailyPoint) (cfg : IngestHealthConfig) : List ℤ :=
  if cfg.minNorm.any fun minNorm => minNorm ≤ normOf daily then
    ((lookback daily cfg).filter fun d => d.units < cfg.lowFrac * normOf daily).map
      DailyPoint.dayKey
  else []

/-- The verdict on a series of completed days, in the order of the days. -/
def assessIngestHealth (daily : List DailyPoint) (latestSaleAt : Option Time) (now : Time)
    (cfg : IngestHealthConfig) : IngestVerdict :=
  let staleHours : Option ℚ := latestSaleAt.map fun at' => ((now - at' : ℤ) : ℚ) / 3600000
  let stale := staleHours.all fun hours => cfg.maxStaleHours < hours
  let norm := normOf daily
  let gapDayKeys := gapDays daily cfg
  let tooMany := ¬ stale ∧ cfg.maxImputeDays < gapDayKeys.length
  let impute := ¬ stale ∧ ¬ tooMany ∧ 0 < gapDayKeys.length
  let staleReason : List String :=
    if stale then
      [match staleHours with
        | none => "No sales have ever come through for this shop."
        | some hours => "The newest sale on record is about " ++ describeAge hours ++ " old."]
    else []
  let gapReason : List String :=
    if tooMany then
      [toString gapDayKeys.length ++ " of the last " ++ toString cfg.imputeLookback
        ++ " days came in far below normal (under " ++ toString (jsRound (cfg.lowFrac * norm))
        ++ " vs the usual ~" ++ toString (jsRound norm)
        ++ "/day) — too many to safely patch. Forecast paused; the feed likely broke."]
    else if impute then
      ["Ignored " ++ toString gapDayKeys.length ++ " feed-gap day(s) that came in under "
        ++ toString (jsRound (cfg.lowFrac * 100)) ++ "% of the usual ~" ++ toString (jsRound norm)
        ++ "/day — excluded from the rate, not counted as zero demand."]
    else []
  { ok := ¬ (stale ∨ tooMany)
    stop := stale ∨ tooMany
    impute
    gapDayKeys
    reasons := staleReason ++ gapReason
    stale
    trailingNorm := norm
    latestSaleAt }

/-- Selling days a shop needs before its days can be called low. -/
def MIN_DAYS_TO_JUDGE_GAPS : ℕ := 14

/-- The units of each completed day with rows, in the order of the days. -/
def dailySeries (sales : List SalesPoint) (now : Time) : List DailyPoint :=
  let completed := sales.filter fun p => dayKeyOf p.date < dayKeyOf now
  let byDay := tally (completed.map fun p => (dayKeyOf p.date, p.quantity))
  (byDay.insertionSort fun a b => a.1 ≤ b.1).map fun e => { dayKey := e.1, units := e.2 }

/-- The completed days that sold something: `sellingDays` of `assessTenantIngest`. -/
def sellingDayCount (sales : List SalesPoint) (now : Time) : ℕ :=
  ((dailySeries sales now).filter fun d => 0 < d.units).length

/-- The verdict on a shop's sales rows. -/
def assessTenantIngest (sales : List SalesPoint) (now : Time) : IngestVerdict :=
  match (sales.map SalesPoint.date).max? with
  | none =>
      { ok := true
        stop := false
        impute := false
        gapDayKeys := []
        reasons := ["No sales have ever come through for this shop."]
        stale := false
        trailingNorm := 0
        latestSaleAt := none }
  | some latestSaleAt =>
      let daily := dailySeries sales now
      let cfg :=
        if sellingDayCount sales now < MIN_DAYS_TO_JUDGE_GAPS then
          { DEFAULT_INGEST_HEALTH with minNorm := none }
        else DEFAULT_INGEST_HEALTH
      assessIngestHealth daily (some latestSaleAt) now cfg

/-! ## The series -/

section Series

variable (sales : List SalesPoint) (now : ℤ)

/-- The last seven completed days. -/
def lastSevenDays : List ℤ :=
  dayKeys (daysBefore (dayKeyOf now) 7) (dayKeyOf now)

variable {sales now}

theorem mem_lastSevenDays {k : ℤ} : k ∈ lastSevenDays now ↔
    DAY_MS ∣ k ∧ daysBefore (dayKeyOf now) 7 ≤ k ∧ k < dayKeyOf now :=
  mem_dayKeys (dvd_daysBefore (dvd_dayKeyOf now) 7) (dvd_dayKeyOf now)

/-- An entry of the series is a completed day with rows, and its units. -/
theorem mem_dailySeries {d : DailyPoint} : d ∈ dailySeries sales now ↔
    (∃ p ∈ sales, dayKeyOf p.date = d.dayKey) ∧ d.dayKey < dayKeyOf now
      ∧ d.units = unitsOn sales d.dayKey := by
  let completed := sales.filter fun p => dayKeyOf p.date < dayKeyOf now
  let entries := completed.map fun p => (dayKeyOf p.date, p.quantity)
  have hunits : ∀ k < dayKeyOf now, total entries k = unitsOn sales k := by
    intro k hk
    refine total_filter_rows fun p _ hkey => ?_
    rw [decide_eq_true_eq, hkey]
    exact hk
  have hmem : d ∈ dailySeries sales now ↔ (d.dayKey, d.units) ∈ tally entries := by
    rw [dailySeries, List.mem_map]
    constructor
    · rintro ⟨e, he, rfl⟩
      exact (List.mem_insertionSort _).mp he
    · intro he
      exact ⟨(d.dayKey, d.units), (List.mem_insertionSort _).mpr he, rfl⟩
  have hkeys : ∀ k, k ∈ entries.map Prod.fst ↔ (∃ p ∈ sales, dayKeyOf p.date = k)
      ∧ k < dayKeyOf now := by
    intro k
    rw [List.map_map, List.mem_map]
    constructor
    · rintro ⟨p, hp, rfl⟩
      obtain ⟨hsale, hlt⟩ := List.mem_filter.mp hp
      exact ⟨⟨p, hsale, rfl⟩, of_decide_eq_true hlt⟩
    · rintro ⟨⟨p, hp, rfl⟩, hlt⟩
      exact ⟨p, List.mem_filter.mpr ⟨hp, decide_eq_true hlt⟩, rfl⟩
  rw [hmem, (tally_perm entries).mem_iff, List.mem_map]
  constructor
  · rintro ⟨k, hk, heq⟩
    rw [List.mem_dedup, hkeys] at hk
    obtain ⟨rfl, hunit⟩ := Prod.mk.inj heq
    exact ⟨hk.1, hk.2, hunit.symm.trans (hunits _ hk.2)⟩
  · rintro ⟨hrow, hlt, hunit⟩
    refine ⟨d.dayKey, ?_, ?_⟩
    · rw [List.mem_dedup, hkeys]
      exact ⟨hrow, hlt⟩
    · rw [hunits _ hlt, hunit]

variable (sales now) in
/-- The days of the series increase. -/
theorem pairwise_dailySeries :
    (dailySeries sales now).Pairwise fun a b => a.dayKey < b.dayKey := by
  let entries := (sales.filter fun p => dayKeyOf p.date < dayKeyOf now).map fun p =>
    (dayKeyOf p.date, p.quantity)
  have hsort : ((tally entries).insertionSort fun a b => a.1 ≤ b.1).map Prod.fst
      = ((tally entries).map Prod.fst).insertionSort (· ≤ ·) :=
    List.map_insertionSort _ _ _ _ fun _ _ _ _ => Iff.rfl
  have hle : (((tally entries).insertionSort fun a b => a.1 ≤ b.1).map Prod.fst).Pairwise
      (· ≤ ·) := by
    rw [hsort]
    exact List.pairwise_insertionSort _ _
  have hne : (((tally entries).insertionSort fun a b => a.1 ≤ b.1).map Prod.fst).Nodup :=
    ((List.perm_insertionSort _ _).map _).nodup_iff.mpr (nodup_keys_tally entries)
  have hlt := hle.and hne
  rw [List.pairwise_map] at hlt
  rw [dailySeries, List.pairwise_map]
  exact hlt.imp fun h => lt_of_le_of_ne h.1 h.2

/-- A series of a shop with rows on each of the last seven days ends in those days. -/
theorem lookback_eq (hrows : ∀ k ∈ lastSevenDays now, ∃ p ∈ sales, dayKeyOf p.date = k) :
    lookback (dailySeries sales now) DEFAULT_INGEST_HEALTH
      = (dailySeries sales now).filter fun d => daysBefore (dayKeyOf now) 7 ≤ d.dayKey := by
  -- the days of the series in the last seven are the last seven
  have hkeys : (((dailySeries sales now).filter fun d =>
      daysBefore (dayKeyOf now) 7 ≤ d.dayKey).map DailyPoint.dayKey).Perm (lastSevenDays now) := by
    refine (List.perm_ext_iff_of_nodup ?_ (nodup_dayKeys _ _)).mpr fun k => ?_
    · have hlt := (pairwise_dailySeries sales now).filter fun d =>
        daysBefore (dayKeyOf now) 7 ≤ d.dayKey
      rw [List.Nodup, List.pairwise_map]
      exact hlt.imp fun h => h.ne
    · show _ ↔ k ∈ lastSevenDays now
      rw [List.mem_map, mem_lastSevenDays]
      constructor
      · rintro ⟨d, hd, rfl⟩
        obtain ⟨hmem, hsince⟩ := List.mem_filter.mp hd
        obtain ⟨⟨p, _, hkey⟩, hlt, _⟩ := mem_dailySeries.mp hmem
        exact ⟨hkey ▸ dvd_dayKeyOf p.date, of_decide_eq_true hsince, hlt⟩
      · intro hk
        have hrow := hrows k (mem_lastSevenDays.mpr hk)
        refine ⟨{ dayKey := k, units := unitsOn sales k }, List.mem_filter.mpr ⟨?_, ?_⟩, rfl⟩
        · exact mem_dailySeries.mpr ⟨hrow, hk.2.2, rfl⟩
        · exact decide_eq_true hk.2.1
  have hseven : ((dailySeries sales now).filter fun d =>
      daysBefore (dayKeyOf now) 7 ≤ d.dayKey).length = 7 := by
    have hlength := hkeys.length_eq
    rw [List.length_map] at hlength
    rw [hlength, lastSevenDays, dayKeys, List.length_map, List.length_range]
    unfold daysBefore DAY_MS
    omega
  have hlater : ∀ a b : DailyPoint, a.dayKey < b.dayKey →
      decide (daysBefore (dayKeyOf now) 7 ≤ a.dayKey) = true →
      decide (daysBefore (dayKeyOf now) 7 ≤ b.dayKey) = true := by
    intro a b hlt ha
    exact decide_eq_true ((of_decide_eq_true ha).trans hlt.le)
  have hdrop := drop_eq_filter (pairwise_dailySeries sales now) hlater
  rw [hseven] at hdrop
  exact hdrop

end Series

/-! ## The gap days -/

section GapDays

variable {sales : List SalesPoint} {now : ℤ}

/-- The verdict on a shop with enough selling days. -/
theorem assessTenantIngest_eq (hselling : MIN_DAYS_TO_JUDGE_GAPS ≤ sellingDayCount sales now) :
    (assessTenantIngest sales now).gapDayKeys
        = gapDays (dailySeries sales now) DEFAULT_INGEST_HEALTH
      ∧ (assessTenantIngest sales now).trailingNorm = normOf (dailySeries sales now) := by
  have hsome : ∃ latestSaleAt, (sales.map SalesPoint.date).max? = some latestSaleAt := by
    -- a shop with selling days has a row
    rcases hmax : (sales.map SalesPoint.date).max? with _ | latestSaleAt
    · rw [List.max?_eq_none_iff, List.map_eq_nil_iff] at hmax
      subst hmax
      exact absurd hselling (show ¬ 14 ≤ 0 by omega)
    · exact ⟨latestSaleAt, rfl⟩
  obtain ⟨latestSaleAt, hmax⟩ := hsome
  have hverdict : assessTenantIngest sales now = assessIngestHealth (dailySeries sales now)
      (some latestSaleAt) now DEFAULT_INGEST_HEALTH := by
    rw [assessTenantIngest, hmax]
    dsimp only
    rw [if_neg (not_lt.mpr hselling)]
  rw [hverdict]
  exact ⟨rfl, rfl⟩

/-- The days that came in low, by what they sold: completed days of the last seven with less
than the low fraction of a norm that is large enough to judge by. -/
def CameInLow (sales : List SalesPoint) (now : ℤ) (norm : ℚ) (k : ℤ) : Prop :=
  k ∈ lastSevenDays now ∧ unitsOn sales k < 1 / 5 * norm ∧ 10 ≤ norm

/-- For a shop with enough selling days the gap days are the days that came in low exactly when
its norm is too small to judge by or each of the last seven days has a row. -/
theorem gapDayKeys_iff (hselling : MIN_DAYS_TO_JUDGE_GAPS ≤ sellingDayCount sales now) :
    (∀ k, k ∈ (assessTenantIngest sales now).gapDayKeys
        ↔ CameInLow sales now (assessTenantIngest sales now).trailingNorm k)
      ↔ normOf (dailySeries sales now) < 10
        ∨ ∀ k ∈ lastSevenDays now, ∃ p ∈ sales, dayKeyOf p.date = k := by
  obtain ⟨hgaps, hnorm⟩ := assessTenantIngest_eq hselling
  rw [hgaps, hnorm]
  set norm := normOf (dailySeries sales now) with hnormOf
  by_cases hsmall : norm < 10
  · have hnone : gapDays (dailySeries sales now) DEFAULT_INGEST_HEALTH = [] := by
      refine if_neg ?_
      show ¬ decide ((10 : ℚ) ≤ norm) = true
      rw [decide_eq_true_eq]
      exact not_le.mpr hsmall
    rw [hnone]
    refine ⟨fun _ => Or.inl hsmall, fun _ k => ?_⟩
    exact ⟨fun hk => absurd hk List.not_mem_nil, fun hk => absurd hk.2.2 (not_le.mpr hsmall)⟩
  · rw [not_lt] at hsmall
    have hjudged : gapDays (dailySeries sales now) DEFAULT_INGEST_HEALTH
        = ((lookback (dailySeries sales now) DEFAULT_INGEST_HEALTH).filter fun d =>
            d.units < 1 / 5 * norm).map DailyPoint.dayKey :=
      if_pos (decide_eq_true hsmall)
    rw [hjudged, or_iff_right (not_lt.mpr hsmall)]
    constructor
    · -- a dark day came in low, and no entry of the series speaks of it
      intro hiff k hk
      by_contra hdark
      have hzero : unitsOn sales k = 0 := by
        by_contra hne
        exact hdark (exists_row_of_unitsOn_ne hne)
      have hlow : CameInLow sales now norm k := ⟨hk, by rw [hzero]; linarith, hsmall⟩
      obtain ⟨d, hd, rfl⟩ := List.mem_map.mp ((hiff k).mpr hlow)
      have hmem := List.mem_of_mem_drop (List.mem_filter.mp hd).1
      exact hdark (mem_dailySeries.mp hmem).1
    · intro hrows k
      rw [lookback_eq hrows, List.mem_map]
      constructor
      · rintro ⟨d, hd, rfl⟩
        obtain ⟨hlast, hlow⟩ := List.mem_filter.mp hd
        obtain ⟨hmem, hsince⟩ := List.mem_filter.mp hlast
        obtain ⟨⟨p, _, hkey⟩, hlt, hunits⟩ := mem_dailySeries.mp hmem
        refine ⟨?_, ?_, hsmall⟩
        · exact mem_lastSevenDays.mpr
            ⟨hkey ▸ dvd_dayKeyOf p.date, of_decide_eq_true hsince, hlt⟩
        · rw [← hunits]
          exact of_decide_eq_true hlow
      · rintro ⟨hk, hlow, _⟩
        have hday := mem_lastSevenDays.mp hk
        refine ⟨{ dayKey := k, units := unitsOn sales k }, ?_, rfl⟩
        rw [List.mem_filter, List.mem_filter]
        exact ⟨⟨mem_dailySeries.mpr ⟨hrows k hk, hday.2.2, rfl⟩, decide_eq_true hday.2.1⟩,
          decide_eq_true hlow⟩

/-- A shop that sold twenty a day on each of twenty days, with a row on every day. -/
theorem gapDayKeys_of_twenty_days :
    (∀ k, k ∈ (assessTenantIngest (dailyHistory 20 ∅ (daysBefore 0 20) 0) 0).gapDayKeys
        ↔ CameInLow (dailyHistory 20 ∅ (daysBefore 0 20) 0) 0
          (assessTenantIngest (dailyHistory 20 ∅ (daysBefore 0 20) 0) 0).trailingNorm k)
      ↔ normOf (dailySeries (dailyHistory 20 ∅ (daysBefore 0 20) 0) 0) < 10
        ∨ ∀ k ∈ lastSevenDays 0,
          ∃ p ∈ dailyHistory 20 ∅ (daysBefore 0 20) 0, dayKeyOf p.date = k :=
  gapDayKeys_iff (by decide +kernel)

/-- With its last day dark, that day is no gap day, though it sold nothing against a norm of
twenty. -/
theorem gapDayKeys_of_dark_day :
    MIN_DAYS_TO_JUDGE_GAPS
        ≤ sellingDayCount (dailyHistory 20 {-86400000} (daysBefore 0 20) 0) 0
      ∧ (assessTenantIngest (dailyHistory 20 {-86400000} (daysBefore 0 20) 0) 0).stale = false
      ∧ CameInLow (dailyHistory 20 {-86400000} (daysBefore 0 20) 0) 0
          (assessTenantIngest (dailyHistory 20 {-86400000} (daysBefore 0 20) 0) 0).trailingNorm
          (-86400000)
      ∧ -86400000
        ∉ (assessTenantIngest (dailyHistory 20 {-86400000} (daysBefore 0 20) 0) 0).gapDayKeys := by
  refine ⟨by decide +kernel, by decide +kernel, ?_, by decide +kernel⟩
  unfold CameInLow
  decide +kernel

end GapDays

end Restock.Forecast
