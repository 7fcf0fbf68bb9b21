import Restock.Audit.Availability
import Restock.Series.Groups

/-!
# Closures and stockouts

A day of closure is no day of lost sales, yet it is told by its own share, while a zero-run becomes
a stockout by the mean of its days' shares. A run that has both kinds of days may come under the
threshold as a whole.

* `Suspected`, `episodeOf_eq_some` — the runs that chance would hardly make, and which of them are
  episodes;
* `exists_episode_of_flagged` — every day flagged lies in an episode;
* `ClosuresKept` — no day of closure is in an episode or lowers the stocked days of a week;
* `MixedRun`, `closuresKept_iff` — that this holds exactly when no episode mixes both kinds of days.
-/

namespace Restock.Audit

open Series (IsRun mem_runs)

/-! ## Rows of a series -/

section Rows

variable (daily : List DailyRow) (series : SeriesKey)

/-- The series of a frame are those of its rows. -/
theorem mem_seriesOf : series ∈ seriesOf daily ↔ ∃ r ∈ daily, r.series = series := by
  rw [seriesOf, List.mem_insertionSort, List.mem_eraseDups, List.mem_map]

/-- The rated rows of a series have the days and the units of its rows. -/
theorem exists_ratedRow_iff (p : ℤ → ℚ → Prop) :
    (∃ r ∈ ratedRows daily series, p r.date r.units) ↔
      ∃ r ∈ daily, r.series = series ∧ p r.date (r.units.getD 0) := by
  simp only [ratedRows, List.mem_mapIdx]
  constructor
  · rintro ⟨_, ⟨t, ht, rfl⟩, hrow⟩
    have hmem := List.getElem_mem ht
    rw [List.mem_insertionSort, List.mem_filter, decide_eq_true_iff] at hmem
    exact ⟨_, hmem.1, hmem.2, hrow⟩
  · rintro ⟨r, hr, hseries, hrow⟩
    have hmem : r ∈ (daily.filter fun r => r.series = series).insertionSort
        fun a b => a.date ≤ b.date := by
      rw [List.mem_insertionSort, List.mem_filter, decide_eq_true_iff]
      exact ⟨hr, hseries⟩
    obtain ⟨t, ht, hget⟩ := List.getElem_of_mem hmem
    refine ⟨_, ⟨t, ht, rfl⟩, ?_⟩
    rw [hget]
    exact hrow

/-- The days of a series are those of its rows. -/
theorem exists_ratedRow (date : ℤ) :
    (∃ r ∈ ratedRows daily series, r.date = date) ↔
      ∃ r ∈ daily, r.series = series ∧ r.date = date :=
  exists_ratedRow_iff daily series fun d _ => d = date

/-- The rows of a series bear its name. -/
theorem series_of_mem_ratedRows {r : RatedRow} (h : r ∈ ratedRows daily series) :
    r.series = series := by
  obtain ⟨_, _, rfl⟩ := List.mem_mapIdx.mp h
  rfl

/-- The rows of a series are in the order of their days. -/
theorem pairwise_ratedRows : (ratedRows daily series).Pairwise fun a b => a.date ≤ b.date := by
  have hsorted := List.pairwise_insertionSort (fun a b : DailyRow => a.date ≤ b.date)
    (daily.filter fun r => r.series = series)
  rw [List.pairwise_iff_getElem] at hsorted ⊢
  intro i j hi hj hij
  simp only [ratedRows, List.getElem_mapIdx, List.length_mapIdx] at hi hj ⊢
  exact hsorted i j hi hj hij

/-- Of two rows of a sorted series, the later one is not of an earlier day. -/
theorem date_le_date {rows : List RatedRow} (hsorted : rows.Pairwise fun a b => a.date ≤ b.date)
    {i t : ℕ} (hit : i ≤ t) {a b : RatedRow} (ha : rows[i]? = some a) (hb : rows[t]? = some b) :
    a.date ≤ b.date := by
  obtain ⟨hi, rfl⟩ := List.getElem?_eq_some_iff.mp ha
  obtain ⟨ht, rfl⟩ := List.getElem?_eq_some_iff.mp hb
  rcases Nat.eq_or_lt_of_le hit with rfl | hlt
  · exact le_refl _
  · exact List.pairwise_iff_getElem.mp hsorted i t hi ht hlt

end Rows

section Code

variable (py : Py) (config : Config)

/-- The days tagged are the days of the frame whose share is above the closure threshold. -/
theorem mem_closureDays (daily : List DailyRow) (location : String) (date : ℤ) :
    (location, date) ∈ closureDays config daily ↔
      (∃ r ∈ daily, r.series.location = location ∧ r.date = date) ∧
        isClosure config (activeRows daily) location date = true := by
  rw [closureDays, List.mem_eraseDups, List.mem_map]
  constructor
  · rintro ⟨r, hr, heq⟩
    obtain ⟨rfl, rfl⟩ := Prod.mk.inj heq
    obtain ⟨hframe, hclosure⟩ := List.mem_filter.mp hr
    obtain ⟨series, _, hrow⟩ := List.mem_flatMap.mp hframe
    obtain ⟨r', hr', hseries, hdate⟩ :=
      (exists_ratedRow daily series r.date).mp ⟨r, hrow, rfl⟩
    rw [series_of_mem_ratedRows daily series hrow] at hclosure ⊢
    exact ⟨⟨r', hr', by rw [hseries], hdate⟩, hclosure⟩
  · rintro ⟨⟨r, hr, rfl, rfl⟩, hclosure⟩
    obtain ⟨r', hr', hdate⟩ := (exists_ratedRow daily r.series r.date).mpr ⟨r, hr, rfl, rfl⟩
    have hseries := series_of_mem_ratedRows daily r.series hr'
    refine ⟨r', List.mem_filter.mpr ⟨List.mem_flatMap.mpr ⟨r.series, ?_, hr'⟩, ?_⟩, ?_⟩
    · exact (mem_seriesOf daily r.series).mpr ⟨r, hr, rfl⟩
    · rw [hseries, hdate]
      exact hclosure
    · rw [hseries, hdate]

/-! ## Runs and episodes -/

/-- A zero-run of a series that chance would hardly make: it starts after enough history, with a
rate that is defined and not too low. -/
structure Suspected (rows : List RatedRow) (i j : ℕ) (first last : RatedRow) (lam0 : ℚ) :
    Prop where
  run : IsRun (fun r : RatedRow => r.units = 0) rows i j
  first_eq : rows[i]? = some first
  last_eq : rows[j - 1]? = some last
  lam_eq : first.lam = some lam0
  history : minHistoryDays ≤ i
  velocity : config.availability.minVelocityPerDay ≤ lam0
  chance : expectedRuns py lam0 rows.length (j - i) < config.availability.zeroRunPvalue

variable {active rows : List RatedRow}

/-- A tier is found exactly when the share is not above the closure threshold. -/
theorem exists_tierOf (lam0 expected share : ℚ) :
    (∃ tier, tierOf config lam0 expected share = some tier) ↔
      share ≤ config.availability.crossSectionalClosureThreshold := by
  rw [tierOf]
  split
  case isTrue h => exact iff_of_false (by simp) (not_le.mpr h)
  case isFalse h =>
      refine iff_of_true ?_ (not_lt.mp h)
      split
      · split <;> exact ⟨_, rfl⟩
      · exact ⟨_, rfl⟩

/-- The episode of a zero-run: the run is suspected, and its days' mean share is not above the
closure threshold; it lasts from its first to its last day. -/
theorem episodeOf_eq_some {i j : ℕ} {episode : Episode}
    (hrun : IsRun (fun r : RatedRow => r.units = 0) rows i j)
    (h : episodeOf py config active rows (i, j) = some episode) :
    ∃ first last lam0, Suspected py config rows i j first last lam0 ∧
      runShare active rows i j ≤ config.availability.crossSectionalClosureThreshold ∧
      episode.series = first.series ∧ episode.startDate = first.date ∧
      episode.endDate = last.date := by
  simp only [episodeOf, Option.bind_eq_bind, Option.bind_eq_some_iff] at h
  obtain ⟨first, hfirst, last, hlast, lam0, hlam, hrest⟩ := h
  split at hrest
  case isFalse => cases hrest
  case isTrue hgates =>
      obtain ⟨hhistory, hvelocity, hchance⟩ := hgates
      simp only [Option.bind_eq_some_iff, Option.pure_def, Option.some.injEq] at hrest
      obtain ⟨tier, htier, rfl⟩ := hrest
      exact ⟨first, last, lam0, ⟨hrun, hfirst, hlast, hlam, hhistory, hvelocity, hchance⟩,
        (exists_tierOf config _ _ _).mp ⟨tier, htier⟩, rfl, rfl, rfl⟩

/-- A suspected run whose mean share is not above the threshold is an episode. -/
theorem exists_episodeOf {i j : ℕ} {first last : RatedRow} {lam0 : ℚ}
    (h : Suspected py config rows i j first last lam0)
    (hshare : runShare active rows i j ≤ config.availability.crossSectionalClosureThreshold) :
    ∃ episode, episodeOf py config active rows (i, j) = some episode ∧
      episode.series = first.series ∧ episode.startDate = first.date ∧
      episode.endDate = last.date := by
  obtain ⟨tier, htier⟩ := (exists_tierOf config lam0
    (expectedRuns py lam0 rows.length (j - i)) (runShare active rows i j)).mpr hshare
  have hepisode : episodeOf py config active rows (i, j) =
      some {
        series := first.series
        startDate := first.date
        endDate := last.date
        days := j - i
        confidence := tier
        pValue := expectedRuns py lam0 rows.length (j - i)
        singleRunP := py.exp (-lam0 * (j - i : ℕ))
        crossSectionalShare := runShare active rows i j } := by
    simp only [episodeOf, h.first_eq, h.last_eq, h.lam_eq, Option.bind_eq_bind, Option.bind_some,
      if_pos (And.intro h.history (And.intro h.velocity h.chance)), htier, Option.pure_def]
  exact ⟨_, hepisode, rfl, rfl, rfl⟩

/-! ## Days that are flagged -/

/-- The loop over the runs flags nothing but days of episodes. -/
theorem mem_foldl_setTier {zs : List (ℕ × ℕ)} {tiers : List (Option Tier)} {t : ℕ} {tier : Tier}
    (h : (zs.foldl (fun tiers run =>
        match episodeOf py config active rows run with
        | some episode => setTier tiers run episode.confidence
        | none => tiers) tiers)[t]? = some (some tier)) :
    tiers[t]? = some (some tier) ∨
      ∃ i j, (i, j) ∈ zs ∧ i ≤ t ∧ t < j ∧ ∃ episode,
        episodeOf py config active rows (i, j) = some episode := by
  induction zs generalizing tiers with
  | nil => exact Or.inl h
  | cons run zs ih =>
      rw [List.foldl_cons] at h
      rcases ih h with hstep | ⟨i, j, hmem, hin⟩
      · cases hepisode : episodeOf py config active rows run with
        | none =>
            rw [hepisode] at hstep
            exact Or.inl hstep
        | some episode =>
            rw [hepisode] at hstep
            simp only [setTier, List.getElem?_mapIdx, Option.map_eq_some_iff] at hstep
            obtain ⟨old, hold, hnew⟩ := hstep
            split at hnew
            case isTrue hin =>
                exact Or.inr ⟨run.1, run.2, List.mem_cons_self, hin.1, hin.2, episode, hepisode⟩
            case isFalse => exact Or.inl (hnew ▸ hold)
      · exact Or.inr ⟨i, j, List.mem_cons_of_mem _ hmem, hin⟩

/-- Every day that is flagged lies between the first and the last day of an episode. -/
theorem exists_episode_of_flagged (hsorted : rows.Pairwise fun a b => a.date ≤ b.date)
    {r : RatedRow} {tier : Tier} (h : (r, some tier) ∈ flaggedRows py config active rows) :
    r ∈ rows ∧ ∃ episode ∈ episodesOf py config active rows,
      episode.startDate ≤ r.date ∧ r.date ≤ episode.endDate := by
  rw [flaggedRows] at h
  obtain ⟨t, ht, hget⟩ := List.getElem_of_mem h
  rw [List.getElem_zip, Prod.mk.injEq] at hget
  have hlen : t < rows.length := by
    rw [List.length_zip] at ht
    omega
  have hr : rows[t] = r := hget.1
  refine ⟨hr ▸ List.getElem_mem hlen, ?_⟩
  have htier : (stockoutTier py config active rows)[t]? = some (some tier) := by
    rw [List.getElem?_eq_some_iff]
    exact ⟨_, hget.2⟩
  rw [stockoutTier] at htier
  rcases mem_foldl_setTier py config htier with hnone | ⟨i, j, hmem, hit, htj, episode, hepisode⟩
  · rw [List.getElem?_map, Option.map_eq_some_iff] at hnone
    obtain ⟨_, _, hnone⟩ := hnone
    cases hnone
  · have hrun := (mem_runs i j).mp hmem
    obtain ⟨first, last, lam0, hsuspected, _, _, hstart, hend⟩ :=
      episodeOf_eq_some py config hrun hepisode
    refine ⟨episode, List.mem_filterMap.mpr ⟨(i, j), hmem, hepisode⟩, ?_, ?_⟩
    · rw [hstart]
      exact date_le_date hsorted hit hsuspected.first_eq (hr ▸ List.getElem?_eq_getElem hlen)
    · rw [hend]
      exact date_le_date hsorted (by omega) (hr ▸ List.getElem?_eq_getElem hlen)
        hsuspected.last_eq

/-! ## Closures -/

/-- The tiers of the rows of a week on days that are not tagged as closures. -/
def openOutDays (daily : List DailyRow) (series : SeriesKey) (weekStart : ℤ) : List Tier :=
  ((flaggedRows py config (activeRows daily) (ratedRows daily series)).filter fun r =>
    weekStartOf py config r.1.date = weekStart ∧
      (series.location, r.1.date) ∉ closureDays config daily).filterMap Prod.snd

/-- No day tagged as a closure of a location lies in an episode of a series there, and the stocked
days of every week are those that the other days alone leave. -/
structure ClosuresKept (daily : List DailyRow) : Prop where
  episodes : ∀ episode ∈ (inStockDays py config daily).2, ∀ day ∈ closureDays config daily,
    day.1 = episode.series.location →
      ¬ (episode.startDate ≤ day.2 ∧ day.2 ≤ episode.endDate)
  weeks : ∀ week ∈ (inStockDays py config daily).1,
    week.inStockDays =
      stockedDays (openOutDays py config daily week.series week.weekStart).length

/-- A run of a series that counts as a stockout as a whole, and spans a day of the location whose
share is above the closure threshold. -/
def MixedRun (daily : List DailyRow) (series : SeriesKey) (i j : ℕ) : Prop :=
  let active := activeRows daily
  let rows := ratedRows daily series
  ∃ first last lam0, Suspected py config rows i j first last lam0 ∧
    runShare active rows i j ≤ config.availability.crossSectionalClosureThreshold ∧
    ∃ r ∈ daily, r.series.location = series.location ∧ first.date ≤ r.date ∧ r.date ≤ last.date ∧
      isClosure config active series.location r.date = true

/-- An episode of a series bears its name. -/
theorem series_of_mem_episodesOf {daily : List DailyRow} {series : SeriesKey} {episode : Episode}
    (h : episode ∈ episodesOf py config active (ratedRows daily series)) :
    episode.series = series := by
  obtain ⟨⟨i, j⟩, hrun, hepisode⟩ := List.mem_filterMap.mp h
  obtain ⟨first, _, _, hsuspected, _, heseries, _⟩ :=
    episodeOf_eq_some py config ((mem_runs i j).mp hrun) hepisode
  rw [heseries]
  exact series_of_mem_ratedRows daily series (List.mem_of_getElem? hsuspected.first_eq)

/-- Without mixed runs no episode spans a day that is tagged. -/
theorem not_mem_episode_of_unmixed {daily : List DailyRow}
    (hunmixed : ∀ series ∈ seriesOf daily, ∀ i j, ¬ MixedRun py config daily series i j) :
    ∀ episode ∈ (inStockDays py config daily).2, ∀ day ∈ closureDays config daily,
      day.1 = episode.series.location →
        ¬ (episode.startDate ≤ day.2 ∧ day.2 ≤ episode.endDate) := by
  rintro episode hepisode ⟨location, date⟩ hday hloc ⟨hle, hge⟩
  obtain ⟨series, hseries, hmem⟩ := List.mem_flatMap.mp hepisode
  have hname := series_of_mem_episodesOf py config hmem
  obtain ⟨⟨i, j⟩, hrun, hof⟩ := List.mem_filterMap.mp hmem
  obtain ⟨first, last, lam0, hsuspected, hshare, _, hstart, hend⟩ :=
    episodeOf_eq_some py config ((mem_runs i j).mp hrun) hof
  obtain ⟨⟨r, hr, hrloc, hrdate⟩, hclosure⟩ := (mem_closureDays config daily location date).mp hday
  rw [hname] at hloc
  dsimp only at hloc hle hge
  subst hloc hrdate
  refine hunmixed series hseries i j ⟨first, last, lam0, hsuspected, hshare, r, hr, hrloc, ?_, ?_,
    hclosure⟩
  · rw [← hstart]
    exact hle
  · rw [← hend]
    exact hge

/-- For every frame and configuration, no day of closure is billed as a stockout exactly when no
run mixes both kinds of days. -/
theorem closuresKept_iff (daily : List DailyRow) :
    ClosuresKept py config daily ↔
      ∀ series ∈ seriesOf daily, ∀ i j, ¬ MixedRun py config daily series i j := by
  constructor
  · rintro hkept series hseries i j ⟨first, last, lam0, hsuspected, hshare, r, hr, hloc, hle, hge,
      hclosure⟩
    obtain ⟨episode, hepisode, heseries, hstart, hend⟩ :=
      exists_episodeOf py config hsuspected hshare
    have hmem : episode ∈ (inStockDays py config daily).2 := by
      refine List.mem_flatMap.mpr ⟨series, hseries, ?_⟩
      exact List.mem_filterMap.mpr ⟨(i, j), (mem_runs i j).mpr hsuspected.run, hepisode⟩
    have hday : (series.location, r.date) ∈ closureDays config daily :=
      (mem_closureDays config daily series.location r.date).mpr ⟨⟨r, hr, hloc, rfl⟩, hclosure⟩
    have hfirst : first.series = series :=
      series_of_mem_ratedRows daily series (List.mem_of_getElem? hsuspected.first_eq)
    refine hkept.episodes episode hmem _ hday ?_ ⟨?_, ?_⟩
    · rw [heseries, hfirst]
    · rw [hstart]
      exact hle
    · rw [hend]
      exact hge
  · intro hunmixed
    have hepisodes := not_mem_episode_of_unmixed py config hunmixed
    refine ⟨hepisodes, fun week hweek => ?_⟩
    obtain ⟨series, hseries, hweek⟩ := List.mem_flatMap.mp hweek
    obtain ⟨weekStart, _, rfl⟩ := List.mem_map.mp hweek
    show stockedDays _ = stockedDays _
    rw [openOutDays, List.filterMap_filter, List.filterMap_filter]
    refine congrArg (fun out => stockedDays (List.length out)) (List.filterMap_congr ?_)
    rintro ⟨r, tier⟩ hr
    cases tier with
    | none => simp
    | some tier =>
        -- a day that is flagged lies in an episode, so it is not tagged
        obtain ⟨hrow, episode, hepisode, hstart, hend⟩ := exists_episode_of_flagged py config
          (pairwise_ratedRows daily series) hr
        have hmem : episode ∈ (inStockDays py config daily).2 :=
          List.mem_flatMap.mpr ⟨series, hseries, hepisode⟩
        have hopen : (series.location, r.date) ∉ closureDays config daily := by
          intro hday
          refine hepisodes episode hmem _ hday ?_ ⟨hstart, hend⟩
          rw [series_of_mem_episodesOf py config hepisode]
        simp [hopen, availabilityWeek]

end Code

/-! ## A run with one day of closure -/

/-- `exp` to nine digits, where the frame below needs it. -/
def Py.nineDigits : Py :=
  { Py.decimal with
    exp := fun q =>
      if q = -3 then 49787068 / 10 ^ 9
      else if q = -15 then 306 / 10 ^ 9
      else 1 }

/-- The rows of a series of one location from 2024-01-01 on. -/
def dailySales (sku : String) (units : List ℚ) : List DailyRow :=
  units.mapIdx fun t n => ⟨⟨sku, "MAIN"⟩, 19723 + t, some n⟩

/-- After four weeks the tee is at zero for five days; on the third of these the mug is too. -/
def teeAndMug : List DailyRow :=
  dailySales "TEE" (List.replicate 28 3 ++ [0, 0, 0, 0, 0, 3]) ++
    dailySales "MUG" (List.replicate 28 3 ++ [3, 3, 0, 3, 3, 3])

/-- The five days are one stockout, with a day on which the whole catalogue is at zero. -/
theorem closuresKept_teeAndMug : ¬ ClosuresKept .nineDigits {} teeAndMug := by
  intro hkept
  have hbilled : ((inStockDays .nineDigits {} teeAndMug).2.any fun episode =>
      (closureDays {} teeAndMug).any fun day =>
        day.1 = episode.series.location ∧ episode.startDate ≤ day.2 ∧ day.2 ≤ episode.endDate) =
      true := by
    decide +kernel
  obtain ⟨episode, hepisode, hany⟩ := List.any_eq_true.mp hbilled
  obtain ⟨day, hday, hin⟩ := List.any_eq_true.mp hany
  obtain ⟨hloc, hspan⟩ := of_decide_eq_true hin
  exact hkept.episodes episode hepisode day hday hloc hspan

end Restock.Audit
