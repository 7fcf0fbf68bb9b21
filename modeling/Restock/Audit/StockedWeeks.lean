import Restock.Audit.Cells
import Restock.Audit.Closures

/-!
# Stocked days and episodes

The days inside an episode are told week by week in one module, whose weeks start where the
configuration says, and joined to the panel in another, whose weeks start on Mondays. The two agree
where the weeks do, or where there is no episode to agree on.

* `filter_dailySpine`, `Daily` — the days of a series follow each other;
* `span_of_episodeOf`, `isSome_stockoutTier` — an episode spans the days of its run, and these are
  the days that get a tier;
* `outDays`, `length_out` — the days of a week inside an episode, and what a week counts;
* `StockedWeeks`, `stockedWeeks_iff` — what the stocked days and the flags of the panel should say,
  and when they do.
-/

namespace Restock.Audit

open Series (IsRun mem_runs)

/-! ## The days of a series -/

section Spine

variable (lines : List FlaggedLine) (series : SeriesKey)

/-- The rows of the days of a series bear its name. -/
theorem series_of_mem_spineOf {r : DailyRow} (h : r ∈ spineOf lines series) :
    r.series = series := by
  rw [spineOf] at h
  split at h
  · obtain ⟨_, _, rfl⟩ := List.mem_map.mp h
    rfl
  · cases h

/-- A series without a line has no days. -/
theorem spineOf_eq_nil (h : ∀ l ∈ lines, l.line.series ≠ series) : spineOf lines series = [] := by
  have hnone : (lines.filter fun l => l.line.series = series) = [] :=
    List.filter_eq_nil_iff.mpr fun l hl hs => h l hl (of_decide_eq_true hs)
  rw [spineOf, hnone]
  rfl

/-- The rows of a series in the daily frame are its days. -/
theorem filter_dailySpine :
    (dailySpine lines).filter (fun r => r.series = series) = spineOf lines series := by
  rw [dailySpine, Series.filter_flatMap_parts (Series.nodup_eraseDups _)
    fun key _ r hr => series_of_mem_spineOf lines key hr]
  split
  case isTrue => rfl
  case isFalse hnone =>
      refine (spineOf_eq_nil lines series fun l hl hs => hnone ?_).symm
      rw [List.mem_eraseDups, List.mem_map]
      exact ⟨l.line.cell, (mem_cellsOf lines _).mpr ⟨l, hl, rfl⟩, hs⟩

/-- The days of a series are those from its first line to its last, one after the other. -/
theorem exists_spineOf {l : FlaggedLine} (hl : l ∈ lines) (hseries : l.line.series = series) :
    ∃ first last,
      (∀ l ∈ lines, l.line.series = series →
        first ≤ dayOf l.line.date ∧ dayOf l.line.date ≤ last) ∧
      (∃ l ∈ lines, l.line.series = series ∧ dayOf l.line.date = first) ∧
      (∃ l ∈ lines, l.line.series = series ∧ dayOf l.line.date = last) ∧
      (spineOf lines series).map DailyRow.date = daysBetween first last := by
  have hday : ∀ l ∈ lines, l.line.series = series →
      dayOf l.line.date ∈ (lines.filter fun l => l.line.series = series).map
        fun l => dayOf l.line.date := fun l hl hs =>
    List.mem_map_of_mem (List.mem_filter.mpr ⟨hl, decide_eq_true hs⟩)
  have hline : ∀ day ∈ (lines.filter fun l => l.line.series = series).map
      (fun l => dayOf l.line.date),
        ∃ l ∈ lines, l.line.series = series ∧ dayOf l.line.date = day := by
    intro day hmem
    obtain ⟨l, hl, heq⟩ := List.mem_map.mp hmem
    obtain ⟨hl, hs⟩ := List.mem_filter.mp hl
    exact ⟨l, hl, of_decide_eq_true hs, heq⟩
  rw [spineOf]
  split
  case h_1 first last hmin hmax =>
      rw [List.min?_eq_some_iff] at hmin
      rw [List.max?_eq_some_iff] at hmax
      refine ⟨first, last, fun l hl hs => ⟨hmin.2 _ (hday l hl hs), hmax.2 _ (hday l hl hs)⟩,
        hline first hmin.1, hline last hmax.1, ?_⟩
      rw [List.map_map]
      exact List.map_id _
  case h_2 hnone =>
      -- the day of the line is there, so there is a first and a last one
      exfalso
      have hne := List.ne_nil_of_mem (hday l hl hseries)
      obtain ⟨first, hfirst⟩ := Option.isSome_iff_exists.mp (List.isSome_min?_of_ne_nil hne)
      obtain ⟨last, hlast⟩ := Option.isSome_iff_exists.mp (List.isSome_max?_of_ne_nil hne)
      exact hnone first last hfirst hlast

end Spine

/-- The rows of a series are those of days that follow each other. -/
def Daily (first : ℤ) (rows : List RatedRow) : Prop :=
  ∀ (t : ℕ) (r : RatedRow), rows[t]? = some r → r.date = first + t

/-- The rows of a series are in the order of their days. -/
theorem map_date_ratedRows (daily : List DailyRow) (series : SeriesKey) :
    (ratedRows daily series).map RatedRow.date =
      ((daily.filter fun r => r.series = series).insertionSort fun a b => a.date ≤ b.date).map
        DailyRow.date := by
  apply List.ext_getElem
  · simp [ratedRows]
  · intro t _ _
    simp [ratedRows]

/-- The days from one to another are in order. -/
theorem pairwise_daysBetween (first last : ℤ) : (daysBetween first last).Pairwise (· ≤ ·) := by
  rw [daysBetween, List.pairwise_map]
  exact List.pairwise_lt_range.imp fun h => by omega

/-- The rows of a series of the daily frame follow each other, from the first day of its lines to
the last. -/
theorem exists_daily {lines : List FlaggedLine} {series : SeriesKey} {l : FlaggedLine}
    (hl : l ∈ lines) (hseries : l.line.series = series) :
    ∃ first last,
      (∀ l ∈ lines, l.line.series = series →
        first ≤ dayOf l.line.date ∧ dayOf l.line.date ≤ last) ∧
      (∃ l ∈ lines, l.line.series = series ∧ dayOf l.line.date = first) ∧
      (∃ l ∈ lines, l.line.series = series ∧ dayOf l.line.date = last) ∧
      Daily first (ratedRows (dailySpine lines) series) ∧
      (ratedRows (dailySpine lines) series).length = (last - first + 1).toNat := by
  obtain ⟨first, last, hbounds, hfirst, hlast, hdays⟩ := exists_spineOf lines series hl hseries
  have hsorted : (spineOf lines series).Pairwise fun a b => a.date ≤ b.date := by
    rw [← List.pairwise_map (R := (· ≤ ·)), hdays]
    exact pairwise_daysBetween first last
  have hdates : (ratedRows (dailySpine lines) series).map RatedRow.date =
      daysBetween first last := by
    rw [map_date_ratedRows, filter_dailySpine, hsorted.insertionSort_eq, hdays]
  refine ⟨first, last, hbounds, hfirst, hlast, fun t r hr => ?_, ?_⟩
  · have hget : (daysBetween first last)[t]? = some r.date := by
      rw [← hdates, List.getElem?_map, hr, Option.map_some]
    rw [daysBetween, List.getElem?_map, Option.map_eq_some_iff] at hget
    obtain ⟨k, hk, heq⟩ := hget
    obtain ⟨_, hk⟩ := List.getElem?_eq_some_iff.mp hk
    rw [List.getElem_range] at hk
    rw [← heq, hk]
  · have hlength := congrArg List.length hdates
    rwa [List.length_map, daysBetween, List.length_map, List.length_range] at hlength

/-- A series with a day has a line. -/
theorem exists_line_of_mem_ratedRows {lines : List FlaggedLine} {series : SeriesKey} {r : RatedRow}
    (h : r ∈ ratedRows (dailySpine lines) series) : ∃ l ∈ lines, l.line.series = series := by
  by_contra hnone
  have hnil : spineOf lines series = [] :=
    spineOf_eq_nil lines series fun l hl hs => hnone ⟨l, hl, hs⟩
  rw [ratedRows, filter_dailySpine, hnil] at h
  cases h

/-! ## Episodes -/

section Episodes

variable {py : Py} {config : Config} {active rows : List RatedRow}

/-- An episode has the days of its run. -/
theorem days_of_episodeOf {i j : ℕ} {e : Episode}
    (h : episodeOf py config active rows (i, j) = some e) : e.days = j - i := by
  simp only [episodeOf, Option.bind_eq_bind, Option.bind_eq_some_iff] at h
  obtain ⟨first, _, last, _, lam0, _, hrest⟩ := h
  split at hrest
  case isFalse => cases hrest
  case isTrue =>
      simp only [Option.bind_eq_some_iff, Option.pure_def, Option.some.injEq] at hrest
      obtain ⟨tier, _, rfl⟩ := hrest
      rfl

/-- An episode spans the days of its run. -/
theorem span_of_episodeOf {first : ℤ} (hdaily : Daily first rows) {i j : ℕ} {e : Episode}
    (hrun : (i, j) ∈ zeroRuns rows) (h : episodeOf py config active rows (i, j) = some e) :
    i < j ∧ j ≤ rows.length ∧ e.startDate = first + i ∧ e.endDate = first + j - 1 := by
  have hrun := (mem_runs i j).mp hrun
  obtain ⟨a, b, _, hsuspected, -, -, hstart, hend⟩ := episodeOf_eq_some py config hrun h
  have hlt := hrun.lt
  refine ⟨hlt, hrun.le_length, ?_, ?_⟩
  · rw [hstart, hdaily i a hsuspected.first_eq]
  · rw [hend, hdaily (j - 1) b hsuspected.last_eq]
    omega

variable (py config active rows) in
/-- What the loop over the zero-runs does to the tiers at a run. -/
def tierTurn (tiers : List (Option Tier)) (run : ℕ × ℕ) : List (Option Tier) :=
  match episodeOf py config active rows run with
  | some episode => setTier tiers run episode.confidence
  | none => tiers

theorem stockoutTier_eq_foldl : stockoutTier py config active rows =
    (zeroRuns rows).foldl (tierTurn py config active rows) (rows.map fun _ => none) := rfl

theorem length_foldl_tierTurn (zs : List (ℕ × ℕ)) (tiers : List (Option Tier)) :
    (zs.foldl (tierTurn py config active rows) tiers).length = tiers.length := by
  induction zs generalizing tiers with
  | nil => rfl
  | cons run zs ih =>
      rw [List.foldl_cons, ih, tierTurn]
      split
      · exact List.length_mapIdx
      · rfl

/-- A day that has a tier keeps one. -/
theorem isSome_foldl_tierTurn {zs : List (ℕ × ℕ)} {tiers : List (Option Tier)} {t : ℕ}
    (h : ∃ tier, tiers[t]? = some (some tier)) :
    ∃ tier, (zs.foldl (tierTurn py config active rows) tiers)[t]? = some (some tier) := by
  induction zs generalizing tiers with
  | nil => exact h
  | cons run zs ih =>
      rw [List.foldl_cons, tierTurn]
      refine ih ?_
      obtain ⟨tier, htier⟩ := h
      cases episodeOf py config active rows run with
      | none => exact ⟨tier, htier⟩
      | some episode =>
          by_cases hin : run.1 ≤ t ∧ t < run.2
          · exact ⟨episode.confidence, by simp [setTier, htier, hin]⟩
          · refine ⟨tier, ?_⟩
            simp only [setTier, List.getElem?_mapIdx, htier, Option.map_some, if_neg hin]

/-- The days that get a tier are those of the runs that are episodes. -/
theorem isSome_stockoutTier (t : ℕ) :
    (∃ tier, (stockoutTier py config active rows)[t]? = some (some tier)) ↔
      ∃ i j e, (i, j) ∈ zeroRuns rows ∧ episodeOf py config active rows (i, j) = some e ∧ i ≤ t ∧
        t < j := by
  constructor
  · rintro ⟨tier, htier⟩
    rcases mem_foldl_setTier py config htier with hnone | ⟨i, j, hmem, hit, htj, e, he⟩
    · rw [List.getElem?_map, Option.map_eq_some_iff] at hnone
      obtain ⟨_, _, hnone⟩ := hnone
      cases hnone
    · exact ⟨i, j, e, hmem, he, hit, htj⟩
  · rintro ⟨i, j, e, hmem, he, hit, htj⟩
    have hlt : t < rows.length := htj.trans_le ((mem_runs i j).mp hmem).le_length
    -- the turn of its run gives the day a tier, and later turns leave it one
    obtain ⟨before, after, hsplit⟩ := List.append_of_mem hmem
    rw [stockoutTier_eq_foldl, hsplit, List.foldl_append, List.foldl_cons]
    apply isSome_foldl_tierTurn
    refine ⟨e.confidence, ?_⟩
    have hbefore : t < (before.foldl (tierTurn py config active rows)
        (rows.map fun _ => none)).length := by
      rwa [length_foldl_tierTurn, List.length_map]
    rw [tierTurn, he]
    dsimp only
    rw [setTier, List.getElem?_mapIdx, List.getElem?_eq_getElem hbefore, Option.map_some,
      if_pos ⟨hit, htj⟩]

/-- The days of a series with a tier are the days inside its episodes. -/
theorem mem_flaggedRows_iff {first : ℤ} (hdaily : Daily first rows) (day : ℤ) :
    (∃ r tier, (r, some tier) ∈ flaggedRows py config active rows ∧ r.date = day) ↔
      ∃ e ∈ episodesOf py config active rows, e.startDate ≤ day ∧ day ≤ e.endDate := by
  constructor
  · rintro ⟨r, tier, hmem, rfl⟩
    obtain ⟨t, hget⟩ := List.mem_iff_getElem?.mp hmem
    rw [flaggedRows, List.getElem?_zip_eq_some] at hget
    obtain ⟨i, j, e, hrun, he, hit, htj⟩ := (isSome_stockoutTier t).mp ⟨tier, hget.2⟩
    obtain ⟨hij, -, hstart, hend⟩ := span_of_episodeOf hdaily hrun he
    have hdate := hdaily t r hget.1
    exact ⟨e, List.mem_filterMap.mpr ⟨(i, j), hrun, he⟩, by omega, by omega⟩
  · rintro ⟨e, hmem, hstart', hend'⟩
    obtain ⟨⟨i, j⟩, hrun, he⟩ := List.mem_filterMap.mp hmem
    obtain ⟨hij, hlength, hstart, hend⟩ := span_of_episodeOf hdaily hrun he
    -- the place of the day in the series
    obtain ⟨t, ht⟩ : ∃ t : ℕ, day = first + t := ⟨(day - first).toNat, by omega⟩
    obtain ⟨tier, htier⟩ := (isSome_stockoutTier t).mpr ⟨i, j, e, hrun, he, by omega, by omega⟩
    have hlt : t < rows.length := by omega
    refine ⟨rows[t], tier, List.mem_iff_getElem?.mpr ⟨t, ?_⟩, ?_⟩
    · rw [flaggedRows, List.getElem?_zip_eq_some]
      exact ⟨List.getElem?_eq_getElem hlt, htier⟩
    · rw [hdaily t _ (List.getElem?_eq_getElem hlt), ht]

/-- Days that follow each other are distinct. -/
theorem nodup_date_flaggedRows {first : ℤ} (hdaily : Daily first rows) :
    ((flaggedRows py config active rows).map fun r => r.1.date).Nodup := by
  rw [List.nodup_iff_getElem?_ne_getElem?]
  intro t t' htt' ht' heq
  rw [List.length_map] at ht'
  have hat : ∀ k < (flaggedRows py config active rows).length,
      ((flaggedRows py config active rows).map fun r => r.1.date)[k]? = some (first + k) := by
    intro k hk
    obtain ⟨r, hr⟩ : ∃ r, (flaggedRows py config active rows)[k]? = some r :=
      ⟨_, List.getElem?_eq_getElem hk⟩
    rw [List.getElem?_map, hr, Option.map_some]
    rw [flaggedRows, List.getElem?_zip_eq_some] at hr
    rw [hdaily k r.1 hr.1]
  rw [hat t (htt'.trans ht'), hat t' ht', Option.some.injEq] at heq
  omega

end Episodes

/-! ## The days of a week -/

/-- The days of a week. -/
def weekDays (weekStart : ℤ) : List ℤ :=
  (List.range 7).map fun k : ℕ => weekStart + k

/-- The days of a week that lie inside an episode of a series. -/
def outDays (episodes : List Episode) (series : SeriesKey) (weekStart : ℤ) : List ℤ :=
  (weekDays weekStart).filter fun day =>
    episodes.any fun e => e.series = series ∧ e.startDate ≤ day ∧ day ≤ e.endDate

theorem mem_weekDays {weekStart day : ℤ} :
    day ∈ weekDays weekStart ↔ weekStart ≤ day ∧ day < weekStart + 7 := by
  rw [weekDays, List.mem_map]
  constructor
  · rintro ⟨k, hk, rfl⟩
    rw [List.mem_range] at hk
    omega
  · rintro ⟨hle, hlt⟩
    exact ⟨(day - weekStart).toNat, by rw [List.mem_range]; omega, by omega⟩

theorem nodup_weekDays (weekStart : ℤ) : (weekDays weekStart).Nodup :=
  List.nodup_range.map fun a b (h : weekStart + (a : ℤ) = weekStart + b) => by omega

theorem mem_outDays {episodes : List Episode} {series : SeriesKey} {weekStart day : ℤ} :
    day ∈ outDays episodes series weekStart ↔ weekStart ≤ day ∧ day < weekStart + 7 ∧
      ∃ e ∈ episodes, e.series = series ∧ e.startDate ≤ day ∧ day ≤ e.endDate := by
  rw [outDays, List.mem_filter, mem_weekDays, List.any_eq_true, and_assoc]
  simp only [decide_eq_true_eq]

section Weeks

variable (py : Py) (config : Config)

/-- A week starts on one of seven days. -/
theorem weekdayOf_mem (name : String) : 0 ≤ weekdayOf py name ∧ weekdayOf py name < 7 := by
  rw [weekdayOf]
  split <;> decide

/-- The day on which the weeks start. -/
theorem weekStartOf_mod (date : ℤ) :
    (weekStartOf py config date + 3) % 7 = weekdayOf py config.time.weekStart := by
  have := weekdayOf_mem py config.time.weekStart
  rw [weekStartOf]
  omega

/-- A week that starts on Monday has the seven days from it on. -/
theorem weekStartOf_eq_iff (hmonday : weekdayOf py config.time.weekStart = 0) {weekStart day : ℤ}
    (hweek : (weekStart + 3) % 7 = 0) :
    weekStartOf py config day = weekStart ↔ weekStart ≤ day ∧ day < weekStart + 7 := by
  rw [weekStartOf, hmonday]
  omega

/-- The episodes of a frame are those of the series. -/
theorem mem_episodes {daily : List DailyRow} {e : Episode} :
    e ∈ (inStockDays py config daily).2 ↔
      e ∈ episodesOf py config (activeRows daily) (ratedRows daily e.series) := by
  constructor
  · intro h
    obtain ⟨series, _, hmem⟩ := List.mem_flatMap.mp h
    rwa [series_of_mem_episodesOf py config hmem]
  · intro h
    refine List.mem_flatMap.mpr ⟨e.series, ?_, h⟩
    obtain ⟨⟨i, j⟩, hrun, he⟩ := List.mem_filterMap.mp h
    obtain ⟨first, _, _, hsuspected, _⟩ := episodeOf_eq_some py config ((mem_runs i j).mp hrun) he
    obtain ⟨r, hr, hseries, -⟩ := (exists_ratedRow daily e.series first.date).mp
      ⟨first, List.mem_of_getElem? hsuspected.first_eq, rfl⟩
    exact (mem_seriesOf daily e.series).mpr ⟨r, hr, hseries⟩

/-- With weeks from Monday on, a week of a series counts its days inside the episodes. -/
theorem length_out {daily : List DailyRow} {series : SeriesKey} {first : ℤ}
    (hdaily : Daily first (ratedRows daily series))
    (hmonday : weekdayOf py config.time.weekStart = 0) {weekStart : ℤ}
    (hweek : (weekStart + 3) % 7 = 0) :
    (((flaggedRows py config (activeRows daily) (ratedRows daily series)).filter fun r =>
        weekStartOf py config r.1.date = weekStart).filterMap Prod.snd).length =
      (outDays (inStockDays py config daily).2 series weekStart).length := by
  set rows := flaggedRows py config (activeRows daily) (ratedRows daily series) with hrows
  rw [List.length_filterMap_eq_countP, List.countP_eq_length_filter, List.filter_filter,
    ← List.length_map fun r : RatedRow × Option Tier => r.1.date]
  -- Neither list has a day twice, so it is enough that they have the same days.
  refine List.Perm.length_eq ?_
  rw [List.perm_ext_iff_of_nodup]
  · intro day
    rw [mem_outDays, List.mem_map]
    have hflagged : (∃ r tier, (r, some tier) ∈ rows ∧ r.date = day) ↔ _ :=
      mem_flaggedRows_iff hdaily day
    have hepisodes : (∃ e ∈ (inStockDays py config daily).2,
        e.series = series ∧ e.startDate ≤ day ∧ day ≤ e.endDate) ↔
          ∃ r tier, (r, some tier) ∈ rows ∧ r.date = day := by
      rw [hflagged]
      constructor
      · rintro ⟨e, he, rfl, hspan⟩
        exact ⟨e, (mem_episodes py config).mp he, hspan⟩
      · rintro ⟨e, he, hspan⟩
        have hseries := series_of_mem_episodesOf py config he
        exact ⟨e, (mem_episodes py config).mpr (hseries ▸ he), hseries, hspan⟩
    rw [hepisodes]
    constructor
    · rintro ⟨⟨r, tier⟩, hmem, rfl⟩
      obtain ⟨hmem, htest⟩ := List.mem_filter.mp hmem
      rw [Bool.and_eq_true, decide_eq_true_iff, weekStartOf_eq_iff py config hmonday hweek] at htest
      obtain ⟨tier, rfl⟩ := Option.isSome_iff_exists.mp htest.1
      exact ⟨htest.2.1, htest.2.2, r, tier, hmem, rfl⟩
    · rintro ⟨hle, hlt, r, tier, hmem, rfl⟩
      refine ⟨(r, some tier), List.mem_filter.mpr ⟨hmem, ?_⟩, rfl⟩
      rw [Bool.and_eq_true, decide_eq_true_iff, weekStartOf_eq_iff py config hmonday hweek]
      exact ⟨rfl, hle, hlt⟩
  · exact (nodup_date_flaggedRows hdaily).sublist (List.filter_sublist.map _)
  · exact (nodup_weekDays weekStart).filter _

/-! ## What should hold -/

/-- A day of a series is one without sales. -/
def ZeroSaleDay (daily : List DailyRow) (series : SeriesKey) (day : ℤ) : Prop :=
  ∃ r ∈ daily, r.series = series ∧ r.date = day ∧ r.units.getD 0 = 0

/-- An episode is a maximal run of days without sales, with all its days. -/
structure IsZeroRun (daily : List DailyRow) (e : Episode) : Prop where
  start_le_end : e.startDate ≤ e.endDate
  days : (e.days : ℤ) = e.endDate - e.startDate + 1
  zero : ∀ day, e.startDate ≤ day → day ≤ e.endDate → ZeroSaleDay daily e.series day
  before : ¬ ZeroSaleDay daily e.series (e.startDate - 1)
  after : ¬ ZeroSaleDay daily e.series (e.endDate + 1)

/-- The weekly frame of some lines after `step_11_12_availability`. -/
def availabilityFrame (lines : List FlaggedLine) : List PanelRow :=
  let daily := dailySpine lines
  let weekly := perSeries (promoRetro config) (sortRows (fillZeroWeeks (aggregateWeekly lines)))
  let (weeks, episodes) := inStockDays py config daily
  weekly.map (withAvailability weeks episodes)

/-- The episodes of a series are disjoint maximal runs of days without sales, the stocked days of a
week are those outside them, and a week is flagged when one is inside. -/
structure StockedWeeks (lines : List FlaggedLine) : Prop where
  apart : ∀ series, ((inStockDays py config (dailySpine lines)).2.filter fun e =>
    e.series = series).Pairwise fun e e' => e.endDate < e'.startDate
  runs : ∀ e ∈ (inStockDays py config (dailySpine lines)).2, IsZeroRun (dailySpine lines) e
  stocked : ∀ r ∈ availabilityFrame py config lines, r.inStockDays =
    7 - (outDays (inStockDays py config (dailySpine lines)).2 r.series r.weekStart).length
  flagged : ∀ r ∈ availabilityFrame py config lines, r.stockoutFlag = true ↔ r.inStockDays < 7

/-! ## Episodes are runs -/

/-- The days without sales of a series are the places of its rows at zero. -/
theorem zeroSaleDay_iff {daily : List DailyRow} {series : SeriesKey} {first : ℤ}
    (hdaily : Daily first (ratedRows daily series)) (day : ℤ) :
    ZeroSaleDay daily series day ↔ ∃ t : ℕ, day = first + t ∧
      Series.Passes (fun r : RatedRow => r.units = 0) (ratedRows daily series) t := by
  have hrow : ZeroSaleDay daily series day ↔
      ∃ r ∈ ratedRows daily series, r.date = day ∧ r.units = 0 :=
    (exists_ratedRow_iff daily series fun date units => date = day ∧ units = 0).symm
  rw [hrow]
  constructor
  · rintro ⟨r, hr, hdate, hunits⟩
    obtain ⟨t, hget⟩ := List.mem_iff_getElem?.mp hr
    refine ⟨t, hdate.symm.trans (hdaily t r hget), ?_⟩
    rw [Series.Passes, hget, Option.any_some, decide_eq_true_iff]
    exact hunits
  · rintro ⟨t, hday, hpasses⟩
    rw [Series.Passes, Option.any_eq_true] at hpasses
    obtain ⟨r, hget, hunits⟩ := hpasses
    exact ⟨r, List.mem_of_getElem? hget, (hdaily t r hget).trans hday.symm,
      of_decide_eq_true hunits⟩

/-- The episodes of the daily frame are maximal runs of days without sales. -/
theorem isZeroRun_of_mem {lines : List FlaggedLine} {e : Episode}
    (h : e ∈ (inStockDays py config (dailySpine lines)).2) : IsZeroRun (dailySpine lines) e := by
  obtain ⟨⟨i, j⟩, hrun, he⟩ := List.mem_filterMap.mp ((mem_episodes py config).mp h)
  have hmax := (mem_runs i j).mp hrun
  obtain ⟨a, _, _, hsuspected, -⟩ := episodeOf_eq_some py config hmax he
  obtain ⟨l, hl, hseries⟩ :=
    exists_line_of_mem_ratedRows (List.mem_of_getElem? hsuspected.first_eq)
  obtain ⟨first, _, _, _, _, hdaily, -⟩ := exists_daily hl hseries
  obtain ⟨hij, hlength, hstart, hend⟩ := span_of_episodeOf hdaily hrun he
  have hzero := zeroSaleDay_iff hdaily
  constructor
  case start_le_end => omega
  case days =>
    rw [days_of_episodeOf he]
    omega
  case zero =>
    intro day hle hge
    refine (hzero day).mpr ⟨(day - first).toNat, by omega, hmax.passes _ (by omega) (by omega)⟩
  case before =>
    intro h
    obtain ⟨t, hday, hpasses⟩ := (hzero _).mp h
    exact hmax.before t (by omega) hpasses
  case after =>
    intro h
    obtain ⟨t, hday, hpasses⟩ := (hzero _).mp h
    obtain rfl : t = j := by omega
    exact hmax.after hpasses

/-- The episodes of a series of the daily frame are disjoint. -/
theorem pairwise_episodes (lines : List FlaggedLine) (series : SeriesKey) :
    ((inStockDays py config (dailySpine lines)).2.filter fun e => e.series = series).Pairwise
      fun e e' => e.endDate < e'.startDate := by
  rw [inStockDays, Series.filter_flatMap_parts (nodup_seriesOf (dailySpine lines))
    fun key _ e he => series_of_mem_episodesOf py config he]
  split
  case isFalse => exact List.Pairwise.nil
  case isTrue =>
      by_cases hline : ∃ l ∈ lines, l.line.series = series
      case neg =>
        have hnil : ratedRows (dailySpine lines) series = [] := by
          refine List.eq_nil_iff_forall_not_mem.mpr fun r hr => hline ?_
          exact exists_line_of_mem_ratedRows hr
        rw [hnil]
        exact List.Pairwise.nil
      obtain ⟨l, hl, hseries⟩ := hline
      obtain ⟨first, _, _, _, _, hdaily, -⟩ := exists_daily hl hseries
      rw [episodesOf, List.pairwise_filterMap]
      refine (List.Pairwise.and_mem.mp Series.pairwise_runs).imp ?_
      rintro ⟨i, j⟩ ⟨i', j'⟩ ⟨hrun, hrun', hlt⟩ e he e' he'
      obtain ⟨_, _, _, hend⟩ := span_of_episodeOf hdaily hrun he
      obtain ⟨_, _, hstart, _⟩ := span_of_episodeOf hdaily hrun' he'
      omega

/-! ## The join to the panel -/

/-- There is a highest tier among some tiers exactly when there is one. -/
theorem isSome_bestTier (tiers : List Tier) : (bestTier tiers).isSome = true ↔ tiers ≠ [] := by
  rw [bestTier, List.find?_isSome]
  constructor
  · rintro ⟨tier, hmem, -⟩ rfl
    cases hmem
  · intro hne
    obtain ⟨tier, hmem, hmax⟩ := tiers.toFinset.exists_max_image Tier.rank
      (List.toFinset_nonempty_iff tiers |>.mpr hne)
    simp only [List.mem_toFinset] at hmem hmax
    exact ⟨tier, hmem, List.all_eq_true.mpr fun other h => decide_eq_true (hmax other h)⟩

/-- A week of the inference is what the rows of its series make of it. -/
theorem eq_of_mem_weeks {daily : List DailyRow} {week : AvailabilityWeek}
    (h : week ∈ (inStockDays py config daily).1) :
    (∃ r ∈ ratedRows daily week.series, weekStartOf py config r.date = week.weekStart) ∧
      week = availabilityWeek config week.series week.weekStart
        ((flaggedRows py config (activeRows daily) (ratedRows daily week.series)).filter fun r =>
          weekStartOf py config r.1.date = week.weekStart) := by
  obtain ⟨series, _, hweek⟩ := List.mem_flatMap.mp h
  obtain ⟨weekStart, hstart, rfl⟩ := List.mem_map.mp hweek
  rw [List.mem_eraseDups, List.mem_map] at hstart
  obtain ⟨⟨r, tier⟩, hr, heq⟩ := hstart
  exact ⟨⟨r, (List.of_mem_zip hr).1, heq⟩, rfl⟩

/-- Every week of a row of a series is there. -/
theorem exists_week {daily : List DailyRow} {series : SeriesKey} {r : RatedRow}
    (h : r ∈ ratedRows daily series) :
    ∃ week ∈ (inStockDays py config daily).1, week.series = series ∧
      week.weekStart = weekStartOf py config r.date := by
  obtain ⟨r', hr', hseries, -⟩ := (exists_ratedRow daily series r.date).mp ⟨r, h, rfl⟩
  obtain ⟨t, hget⟩ := List.mem_iff_getElem?.mp h
  have hlt := (List.getElem?_eq_some_iff.mp hget).1
  have htiers : (stockoutTier py config (activeRows daily) (ratedRows daily series)).length =
      (ratedRows daily series).length := by
    rw [stockoutTier_eq_foldl, length_foldl_tierTurn, List.length_map]
  -- a row keeps its place when the tiers are put beside the rows
  have hflagged : (r, (stockoutTier py config (activeRows daily) (ratedRows daily series))[t]) ∈
      flaggedRows py config (activeRows daily) (ratedRows daily series) := by
    rw [flaggedRows]
    refine List.mem_iff_getElem?.mpr ⟨t, List.getElem?_zip_eq_some.mpr ⟨hget, ?_⟩⟩
    exact List.getElem?_eq_getElem (by rwa [htiers])
  refine ⟨_, List.mem_flatMap.mpr ⟨series, (mem_seriesOf daily series).mpr ⟨r', hr', hseries⟩,
    List.mem_map.mpr ⟨weekStartOf py config r.date, ?_, rfl⟩⟩, rfl, rfl⟩
  rw [List.mem_eraseDups, List.mem_map]
  exact ⟨_, hflagged, rfl⟩

/-- The cells of the frame are those of the filled one. -/
theorem exists_mem_availabilityFrame {lines : List FlaggedLine} (cell : SeriesKey × ℤ) :
    (∃ r ∈ availabilityFrame py config lines, r.cell = cell) ↔
      ∃ r ∈ fillZeroWeeks (aggregateWeekly lines), r.cell = cell := by
  have hperm := (perSeries_core_perm (core_promoRetro config)
    (sortRows (fillZeroWeeks (aggregateWeekly lines)))).trans ((sortRows_perm _).map _)
  have hcells := (hperm.map Prod.fst).mem_iff (a := cell)
  rw [List.map_map, List.map_map, List.mem_map, List.mem_map] at hcells
  refine Iff.trans ?_ hcells
  rw [availabilityFrame]
  dsimp only
  constructor
  · rintro ⟨r, hr, rfl⟩
    obtain ⟨weekly, hweekly, rfl⟩ := List.mem_map.mp hr
    exact ⟨weekly, hweekly, rfl⟩
  · rintro ⟨weekly, hweekly, rfl⟩
    exact ⟨_, List.mem_map_of_mem hweekly, rfl⟩

/-- The stocked days of a row: those of its week in the inference, or seven. -/
theorem inStockDays_of_mem {lines : List FlaggedLine} {r : PanelRow}
    (h : r ∈ availabilityFrame py config lines) :
    r.inStockDays = max 0 (min 7 ((((inStockDays py config (dailySpine lines)).1.find? fun w =>
      w.series = r.series ∧ w.weekStart = r.weekStart).map
        AvailabilityWeek.inStockDays).getD 7)) := by
  obtain ⟨weekly, _, rfl⟩ := List.mem_map.mp h
  rfl

/-- A row is flagged when an episode of its series reaches into its week. -/
theorem stockoutFlag_of_mem {lines : List FlaggedLine} {r : PanelRow}
    (h : r ∈ availabilityFrame py config lines) :
    r.stockoutFlag = true ↔ ∃ e ∈ (inStockDays py config (dailySpine lines)).2,
      e.series = r.series ∧ mondayOf e.startDate ≤ r.weekStart ∧
        r.weekStart ≤ mondayOf e.endDate := by
  obtain ⟨weekly, _, rfl⟩ := List.mem_map.mp h
  rw [withAvailability]
  dsimp only
  rw [isSome_bestTier]
  constructor
  · intro hne
    obtain ⟨tier, htier⟩ := List.exists_mem_of_ne_nil _ hne
    obtain ⟨e, he, hspan⟩ := List.mem_filterMap.mp htier
    rw [Option.ite_none_right_eq_some] at hspan
    exact ⟨e, he, hspan.1⟩
  · rintro ⟨e, he, hspan⟩
    exact List.ne_nil_of_mem (List.mem_filterMap.mpr ⟨e, he, if_pos hspan⟩)

/-- With weeks from Monday on, the stocked days of a row are those outside the episodes. -/
theorem stocked_of_monday (hmonday : weekdayOf py config.time.weekStart = 0)
    {lines : List FlaggedLine} {r : PanelRow} (h : r ∈ availabilityFrame py config lines) :
    r.inStockDays =
      7 - (outDays (inStockDays py config (dailySpine lines)).2 r.series r.weekStart).length := by
  obtain ⟨hweek, l, hl, l', hl', hs, hs', hle, hge⟩ := (exists_mem_fillZeroWeeks lines r.cell).mp
    ((exists_mem_availabilityFrame py config r.cell).mp ⟨r, h, rfl⟩)
  dsimp only [PanelRow.cell] at hweek hs hs' hle hge
  obtain ⟨first, last, hbounds, -, -, hdaily, hlength⟩ := exists_daily hl hs
  have hfirst := hbounds l hl hs
  have hlast := hbounds l' hl' hs'
  rw [TxLine.week, mondayOf] at hle hge
  -- a day of the week that the series has
  obtain ⟨t, ht⟩ : ∃ t : ℕ, max r.weekStart first = first + t :=
    ⟨(max r.weekStart first - first).toNat, by omega⟩
  have hlt : t < (ratedRows (dailySpine lines) r.series).length := by omega
  have hget := List.getElem?_eq_getElem hlt
  obtain ⟨week, hmem, hseries, hstart⟩ := exists_week py config (List.getElem_mem hlt)
  have hweekStart : weekStartOf py config (ratedRows (dailySpine lines) r.series)[t].date =
      r.weekStart := by
    rw [weekStartOf_eq_iff py config hmonday hweek, hdaily t _ hget]
    omega
  rw [inStockDays_of_mem py config h]
  cases hfind : (inStockDays py config (dailySpine lines)).1.find? fun w =>
      w.series = r.series ∧ w.weekStart = r.weekStart with
  | none =>
      refine absurd (decide_eq_true ?_) (List.find?_eq_none.mp hfind week hmem)
      exact ⟨hseries, hstart.trans hweekStart⟩
  | some found =>
      have hkey := List.find?_some hfind
      rw [decide_eq_true_iff] at hkey
      have hout := (eq_of_mem_weeks py config (List.mem_of_find?_eq_some hfind)).2
      rw [hkey.1, hkey.2] at hout
      have hdays : found.inStockDays = stockedDays
          (outDays (inStockDays py config (dailySpine lines)).2 r.series r.weekStart).length := by
        rw [hout, ← length_out py config hdaily hmonday hweek]
        rfl
      have hseven : (outDays (inStockDays py config (dailySpine lines)).2 r.series
          r.weekStart).length ≤ 7 := by
        refine (List.length_filter_le _ _).trans ?_
        rw [weekDays, List.length_map, List.length_range]
      have hseven' : ((outDays (inStockDays py config (dailySpine lines)).2 r.series
          r.weekStart).length : ℚ) ≤ 7 := by exact_mod_cast hseven
      rw [Option.map_some, Option.getD_some, hdays, stockedDays]
      have hsub : (7 : ℚ) - (outDays (inStockDays py config (dailySpine lines)).2 r.series
          r.weekStart).length ≤ 7 := sub_le_self 7 (Nat.cast_nonneg _)
      rw [min_eq_right hsub, max_eq_right (sub_nonneg.mpr hseven'), min_eq_right hsub,
        max_eq_right (sub_nonneg.mpr hseven')]

/-- With weeks from Monday on, the weeks that are flagged are those with a day inside an episode. -/
theorem flagged_of_monday (hmonday : weekdayOf py config.time.weekStart = 0)
    {lines : List FlaggedLine} {r : PanelRow} (h : r ∈ availabilityFrame py config lines) :
    r.stockoutFlag = true ↔ r.inStockDays < 7 := by
  have hweek := ((exists_mem_fillZeroWeeks lines r.cell).mp
    ((exists_mem_availabilityFrame py config r.cell).mp ⟨r, h, rfl⟩)).1
  dsimp only [PanelRow.cell] at hweek
  have hout : r.inStockDays < 7 ↔
      outDays (inStockDays py config (dailySpine lines)).2 r.series r.weekStart ≠ [] := by
    rw [stocked_of_monday py config hmonday h, sub_lt_self_iff, Nat.cast_pos,
      List.length_pos_iff]
  rw [hout, stockoutFlag_of_mem py config h]
  constructor
  · rintro ⟨e, he, hseries, hle, hge⟩
    -- the first day of the episode in the week
    have hspan := (isZeroRun_of_mem py config he).start_le_end
    refine List.ne_nil_of_mem (mem_outDays.mpr ?_ : max r.weekStart e.startDate ∈ _)
    rw [mondayOf] at hle hge
    exact ⟨by omega, by omega, e, he, hseries, by omega, by omega⟩
  · intro hne
    obtain ⟨day, hday⟩ := List.exists_mem_of_ne_nil _ hne
    obtain ⟨hle, hlt, e, he, hseries, hstart, hend⟩ := mem_outDays.mp hday
    refine ⟨e, he, hseries, ?_, ?_⟩
    · rw [mondayOf]
      omega
    · rw [mondayOf]
      omega

/-- A zero-run of a series counts as a stockout: chance would hardly make it, and the share of the
active catalogue at zero is not that of a closure. -/
def StockoutRun (daily : List DailyRow) (series : SeriesKey) (i j : ℕ) : Prop :=
  ∃ first last lam0,
    Suspected py config (ratedRows daily series) i j first last lam0 ∧
      runShare (activeRows daily) (ratedRows daily series) i j
        ≤ config.availability.crossSectionalClosureThreshold

/-- Without a run that counts as a stockout there is no episode. -/
theorem exists_stockoutRun_of_mem {daily : List DailyRow} {e : Episode}
    (h : e ∈ (inStockDays py config daily).2) :
    ∃ i j, StockoutRun py config daily e.series i j := by
  obtain ⟨⟨i, j⟩, hrun, he⟩ := List.mem_filterMap.mp ((mem_episodes py config).mp h)
  obtain ⟨first, last, lam0, hsuspected, hshare, -⟩ :=
    episodeOf_eq_some py config ((mem_runs i j).mp hrun) he
  exact ⟨i, j, first, last, lam0, hsuspected, hshare⟩

/-- A run that counts as a stockout is an episode of its series. -/
theorem exists_mem_of_stockoutRun {daily : List DailyRow} {series : SeriesKey} {i j : ℕ}
    (h : StockoutRun py config daily series i j) :
    ∃ e ∈ (inStockDays py config daily).2, e.series = series := by
  obtain ⟨first, last, lam0, hsuspected, hshare⟩ := h
  obtain ⟨e, he, hseries, -⟩ := exists_episodeOf py config hsuspected hshare
  have hfirst : first.series = series :=
    series_of_mem_ratedRows daily series (List.mem_of_getElem? hsuspected.first_eq)
  have hname := hseries.trans hfirst
  refine ⟨e, (mem_episodes py config).mpr ?_, hname⟩
  rw [hname]
  exact List.mem_filterMap.mpr ⟨(i, j), (mem_runs i j).mpr hsuspected.run, he⟩

/-- With weeks from another day on, no week of the inference is one of the panel, and the stocked
days of the panel are seven throughout. -/
theorem stocked_of_not_monday (hmonday : weekdayOf py config.time.weekStart ≠ 0)
    {lines : List FlaggedLine} {r : PanelRow} (h : r ∈ availabilityFrame py config lines) :
    r.inStockDays = 7 := by
  have hweek := ((exists_mem_fillZeroWeeks lines r.cell).mp
    ((exists_mem_availabilityFrame py config r.cell).mp ⟨r, h, rfl⟩)).1
  dsimp only [PanelRow.cell] at hweek
  have hnone : ((inStockDays py config (dailySpine lines)).1.find? fun w =>
      w.series = r.series ∧ w.weekStart = r.weekStart) = none := by
    refine List.find?_eq_none.mpr fun week hmem hkey => hmonday ?_
    obtain ⟨⟨row, -, hstart⟩, -⟩ := eq_of_mem_weeks py config hmem
    rw [decide_eq_true_iff] at hkey
    rw [← weekStartOf_mod py config row.date, hstart, hkey.2, hweek]
  rw [inStockDays_of_mem py config h, hnone, Option.map_none, Option.getD_none, min_self]
  exact max_eq_right (by norm_num)

/-- The panel has the week in which an episode starts. -/
theorem exists_mem_of_episode {lines : List FlaggedLine} {e : Episode}
    (h : e ∈ (inStockDays py config (dailySpine lines)).2) :
    ∃ r ∈ availabilityFrame py config lines, r.series = e.series ∧
      r.weekStart = mondayOf e.startDate := by
  obtain ⟨⟨i, j⟩, hrun, he⟩ := List.mem_filterMap.mp ((mem_episodes py config).mp h)
  obtain ⟨a, _, _, hsuspected, -⟩ := episodeOf_eq_some py config ((mem_runs i j).mp hrun) he
  obtain ⟨l, hl, hseries⟩ :=
    exists_line_of_mem_ratedRows (List.mem_of_getElem? hsuspected.first_eq)
  obtain ⟨first, last, _, ⟨l₁, hl₁, hs₁, h₁⟩, ⟨l₂, hl₂, hs₂, h₂⟩, hdaily, hrows⟩ :=
    exists_daily hl hseries
  obtain ⟨hij, hlength, hstart, -⟩ := span_of_episodeOf hdaily hrun he
  obtain ⟨r, hr, hcell⟩ := (exists_mem_availabilityFrame py config (e.series,
    mondayOf e.startDate)).mpr ((exists_mem_fillZeroWeeks lines _).mpr
      ⟨by rw [mondayOf]; omega, l₁, hl₁, l₂, hl₂, hs₁, hs₂, by
        rw [TxLine.week, mondayOf, mondayOf]
        omega, by
        rw [TxLine.week, mondayOf, mondayOf]
        omega⟩)
  exact ⟨r, hr, congrArg Prod.fst hcell, congrArg Prod.snd hcell⟩

/-- **Stocked days and episodes agree exactly where the weeks do.** For every daily frame and every
configuration, the panel's stocked days and flags are those of the episodes exactly when the
configured weeks start on Monday, or no zero-run counts as a stockout. -/
theorem stockedWeeks_iff (lines : List FlaggedLine) :
    StockedWeeks py config lines ↔
      weekdayOf py config.time.weekStart = 0 ∨
        ∀ series i j, ¬ StockoutRun py config (dailySpine lines) series i j := by
  have hruns := fun e (he : e ∈ (inStockDays py config (dailySpine lines)).2) =>
    isZeroRun_of_mem py config he
  constructor
  · intro hstocked
    refine or_iff_not_imp_left.mpr fun hmonday series i j hrun => ?_
    -- the week in which an episode starts has a day inside it, and seven stocked days
    obtain ⟨e, he, -⟩ := exists_mem_of_stockoutRun py config hrun
    obtain ⟨r, hr, hseries, hweek⟩ := exists_mem_of_episode py config he
    have hseven := stocked_of_not_monday py config hmonday hr
    have hspan := (hruns e he).start_le_end
    have hout : e.startDate ∈
        outDays (inStockDays py config (dailySpine lines)).2 r.series r.weekStart := by
      rw [mondayOf] at hweek
      exact mem_outDays.mpr ⟨by omega, by omega, e, he, hseries.symm, le_refl _, hspan⟩
    have hpos : (0 : ℚ) < (outDays (inStockDays py config (dailySpine lines)).2 r.series
        r.weekStart).length := Nat.cast_pos.mpr (List.length_pos_of_mem hout)
    have hless := hstocked.stocked r hr
    rw [hseven] at hless
    linarith
  · intro hcondition
    by_cases hmonday : weekdayOf py config.time.weekStart = 0
    · exact ⟨pairwise_episodes py config lines, hruns,
        fun r hr => stocked_of_monday py config hmonday hr,
        fun r hr => flagged_of_monday py config hmonday hr⟩
    · have hnone := hcondition.resolve_left hmonday
      have hnil : (inStockDays py config (dailySpine lines)).2 = [] := by
        refine List.eq_nil_iff_forall_not_mem.mpr fun e he => ?_
        obtain ⟨i, j, hrun⟩ := exists_stockoutRun_of_mem py config he
        exact hnone _ i j hrun
      refine ⟨pairwise_episodes py config lines, hruns, fun r hr => ?_, fun r hr => ?_⟩
      · have hout : outDays [] r.series r.weekStart = [] := by
          refine List.eq_nil_iff_forall_not_mem.mpr fun day hday => ?_
          obtain ⟨-, -, e, he, -⟩ := mem_outDays.mp hday
          cases he
        rw [stocked_of_not_monday py config hmonday hr, hnil, hout]
        norm_num
      · rw [stockoutFlag_of_mem py config hr, stocked_of_not_monday py config hmonday hr, hnil]
        refine iff_of_false ?_ (lt_irrefl 7)
        rintro ⟨e, he, -⟩
        cases he

end Weeks

/-! ## A week that starts on Sunday -/

/-- The sales of a series of one location from 2024-01-01 on, a line for every day that has some. -/
def dailyLines (label : ℕ) (sku : String) (units : List ℚ) : List FlaggedLine :=
  (units.zipIdx.filter fun day => day.1 ≠ 0).map fun day =>
    { line :=
        { label := label + day.2
          date := (19723 + day.2) * nsPerDay
          sku
          location := "MAIN"
          qty := day.1 }
      bulk := false }

/-- After four weeks the tee is at zero for five days, while the mug sells on. -/
def teeRunsOut : List FlaggedLine :=
  dailyLines 0 "TEE" (List.replicate 28 3 ++ [0, 0, 0, 0, 0, 3]) ++
    dailyLines 34 "MUG" (List.replicate 34 3)

/-- With weeks from Sunday on the five days are an episode, and the panel's week of it is stocked on
all seven. -/
theorem stockedWeeks_teeRunsOut :
    ¬ StockedWeeks { Py.nineDigits with lower := id } { time := { weekStart := "sunday" } }
      teeRunsOut := by
  intro hstocked
  have hweek : ((availabilityFrame { Py.nineDigits with lower := id }
      { time := { weekStart := "sunday" } } teeRunsOut).any fun r =>
        r.inStockDays ≠ 7 - (outDays (inStockDays { Py.nineDigits with lower := id }
          { time := { weekStart := "sunday" } } (dailySpine teeRunsOut)).2 r.series
            r.weekStart).length) = true := by
    decide +kernel
  obtain ⟨r, hr, hne⟩ := List.any_eq_true.mp hweek
  exact of_decide_eq_true hne (hstocked.stocked r hr)

end Restock.Audit
