import Restock.Forecast.SteadyDays

/-!
# The run rate of a steady seller

A product that sold the same on each of its last days, and nothing before. Its median
baseline is what it sells. Its mean baseline is so only when its history is short enough for
the window of a new product or long enough for the longest window of the blend: in between,
the longer windows divide by days on which the product did not exist.

* `SteadySeller` — such a history;
* `gapDays_of_steady`, `debulk_of_steady` — nothing is inferred from it and nothing capped;
* `adjustedRate_of_steady`, `medianRate_of_steady`, `newProductRate_of_steady` — the rates;
* `runRateDaily_steady_iff` — when the run rate is what the product sells.
-/

namespace Restock.Forecast

open Series

/-- The days of a history begin `n` days before `today` and each sold `q`. -/
structure Steady (history : List SalesPoint) (q : ℚ) (n : ℕ) (today : ℤ) : Prop where
  midnight : DAY_MS ∣ today
  midnights : ∀ p ∈ history, DAY_MS ∣ p.date
  within : ∀ p ∈ history, daysBefore today n ≤ p.date ∧ p.date < today
  sells : SellsDaily history q ∅ (daysBefore today n) today

/-- A product that sold `q` on each of its last `n` completed days and has no sales before;
what it sold since the midnight of the run is not on a completed day. -/
structure SteadySeller (history : List SalesPoint) (q : ℚ) (n : ℕ) (now : ℤ) : Prop where
  midnights : ∀ p ∈ history, DAY_MS ∣ p.date
  since : ∀ p ∈ history, p.date < dayKeyOf now → daysBefore (dayKeyOf now) n ≤ p.date
  sells : SellsDaily history q ∅ (daysBefore (dayKeyOf now) n) (dayKeyOf now)

/-- The completed days of a steady seller. -/
theorem SteadySeller.completed {history : List SalesPoint} {q : ℚ} {n : ℕ} {now : ℤ}
    (h : SteadySeller history q n now) :
    Steady (history.filter fun p => p.date < dayKeyOf now) q n (dayKeyOf now) where
  midnight := dvd_dayKeyOf now
  midnights p hp := h.midnights p (List.mem_filter.mp hp).1
  within p hp := by
    obtain ⟨hmem, hlt⟩ := List.mem_filter.mp hp
    rw [decide_eq_true_eq] at hlt
    exact ⟨h.since p hmem hlt, hlt⟩
  sells := by
    have hunits : ∀ k < dayKeyOf now,
        unitsOn (history.filter fun p => p.date < dayKeyOf now) k = unitsOn history k := by
      intro k hk
      refine total_filter_rows fun p hp hkey => ?_
      rw [dayKeyOf_eq_self.mpr (h.midnights p hp)] at hkey
      rw [decide_eq_true_eq, hkey]
      exact hk
    refine ⟨fun k hk => ?_, fun k hk => absurd hk (Finset.notMem_empty k)⟩
    rw [hunits k (mem_sellingDays.mp hk).1.2]
    exact h.sells.selling k hk

namespace Steady

variable {history : List SalesPoint} {q : ℚ} {n : ℕ} {today : ℤ}

/-- The dates of the history, as numbers. -/
theorem bounds (h : Steady history q n today) {p : SalesPoint} (hp : p ∈ history) {d : ℤ}
    (hd : p.date = d) : daysBefore today n ≤ d ∧ d < today :=
  hd ▸ h.within p hp

/-- Every day of the history has a row. -/
theorem exists_row (h : Steady history q n today) (hq : 0 < q) {k : ℤ} (hk : DAY_MS ∣ k)
    (hsince : daysBefore today n ≤ k) (hlt : k < today) : ∃ p ∈ history, p.date = k := by
  have hunits : unitsOn history k ≠ 0 := by
    rw [h.sells.selling k (mem_sellingDays.mpr ⟨⟨hsince, hlt⟩, hk, Finset.notMem_empty k⟩)]
    exact hq.ne'
  obtain ⟨p, hp, hkey⟩ := exists_row_of_unitsOn_ne hunits
  rw [dayKeyOf_eq_self.mpr (h.midnights p hp)] at hkey
  exact ⟨p, hp, hkey⟩

/-- The first day has a row. -/
theorem exists_first (h : Steady history q n today) (hq : 0 < q) (hn : 0 < n) :
    ∃ p ∈ history, p.date = daysBefore today n := by
  refine h.exists_row hq (dvd_daysBefore h.midnight n) (le_refl _) ?_
  unfold daysBefore DAY_MS
  omega

theorem ne_nil (h : Steady history q n today) (hq : 0 < q) (hn : 0 < n) : history ≠ [] := by
  obtain ⟨p, hp, _⟩ := h.exists_first hq hn
  exact List.ne_nil_of_mem hp

/-- The earliest date of the history. -/
theorem earliest_eq (h : Steady history q n today) (hq : 0 < q) (hn : 0 < n) :
    (history.map SalesPoint.date).min? = some (daysBefore today n) := by
  rw [List.min?_eq_some_iff]
  obtain ⟨p, hp, hdate⟩ := h.exists_first hq hn
  refine ⟨List.mem_map.mpr ⟨p, hp, hdate⟩, fun d hd => ?_⟩
  obtain ⟨p', hp', rfl⟩ := List.mem_map.mp hd
  exact (h.within p' hp').1

/-- The history spans its days. -/
theorem historySpanDays_eq (h : Steady history q n today) (hq : 0 < q) (hn : 0 < n) :
    historySpanDays history today = n := by
  rw [historySpanDays, h.earliest_eq hq hn]
  exact daysBetween_daysBefore today n

/-- A window takes the days of the history that it reaches, each in full. -/
theorem dampedWindow_eq (h : Steady history q n today) (hq : 0 < q) {days : ℤ} (hdays : 0 ≤ days) :
    (dampedWindow history (daysBefore today days) today ∅).units = (min days n : ℤ) * q := by
  -- no row is before the first day, so the window may begin there
  have hsame : dampedWindow history (daysBefore today days) today ∅
      = dampedWindow history (daysBefore today (min days n)) today ∅ := by
    have hfilter : ∀ p ∈ history, inWindow (daysBefore today days) today p.date
        = inWindow (daysBefore today (min days n)) today p.date := by
      intro p hp
      have hwithin := (h.bounds hp rfl).1
      rw [Bool.eq_iff_iff, inWindow_eq_true, inWindow_eq_true]
      unfold daysBefore DAY_MS at *
      omega
    rw [dampedWindow, dampedWindow, dayTotals, dayTotals,
      List.filter_congr fun p hp => by rw [hfilter p hp]]
  have hle : daysBefore today n ≤ daysBefore today (min days n) := by
    unfold daysBefore DAY_MS
    omega
  have hwindow := dampedWindow_of_sellsDaily hq (h.sells.mono hle)
    (wholeDays_of_midnights h.midnights) (Finset.empty_subset _)
  have hcard := sellingDays_add_blocked today
    (fun d hd => absurd hd (Finset.notMem_empty d)) (show 0 ≤ min days (n : ℤ) by omega)
  rw [Finset.filter_empty, Finset.card_empty, Nat.cast_zero, add_zero] at hcard
  have hcast : ((sellingDays ∅ (daysBefore today (min days n)) today).card : ℚ)
      = (min days n : ℤ) := by
    exact_mod_cast congrArg (Int.cast : ℤ → ℚ) hcard
  rw [hsame, hwindow, ← hcast]

/-! ## Nothing is inferred, nothing is capped -/

/-- Neighbours in date order are at most a day apart. -/
theorem steps_le (h : Steady history q n today) (hq : 0 < q) {rows : List SalesPoint}
    (since : ℤ) (hrows : ∀ p, p ∈ rows ↔ p ∈ history ∧ since ≤ p.date) {a b : ℤ}
    (hab : (a, b) ∈ steps ((sortByDate rows).map SalesPoint.date)) : a ≤ b ∧ b ≤ a + DAY_MS := by
  have hsort : (sortByDate rows).map SalesPoint.date
      = (rows.map SalesPoint.date).insertionSort (· ≤ ·) :=
    List.map_insertionSort _ _ _ _ fun _ _ _ _ => Iff.rfl
  rw [hsort] at hab
  obtain ⟨ha, hb, hle, hbetween⟩ := between_steps (α := ℤ) (List.pairwise_insertionSort _ _) hab
  refine ⟨hle, ?_⟩
  rw [List.mem_insertionSort, List.mem_map] at ha hb
  obtain ⟨pa, hpa, rfl⟩ := ha
  obtain ⟨pb, hpb, rfl⟩ := hb
  rw [hrows] at hpa hpb
  -- otherwise the day after the first of them has a row, which would lie between them
  by_contra hfar
  have hday : DAY_MS ∣ pa.date + DAY_MS :=
    Int.dvd_add (h.midnights pa hpa.1) (Int.dvd_refl DAY_MS)
  have hwa := h.bounds hpa.1 rfl
  have hwb := h.bounds hpb.1 rfl
  have hpos := dayMs_pos
  obtain ⟨p, hp, hdate⟩ := h.exists_row hq hday (by omega) (by omega)
  have hmem : p.date ∈ (rows.map SalesPoint.date).insertionSort (· ≤ ·) := by
    rw [List.mem_insertionSort]
    refine List.mem_map_of_mem ((hrows p).mpr ⟨hp, ?_⟩)
    rw [hdate]
    omega
  rw [hdate] at hmem
  have hcases := hbetween _ hmem
  omega

/-- No gap is inferred from a steady history. -/
theorem gapDaysInWindow_eq (h : Steady history q n today) (hq : 0 < q) {days : ℤ}
    (hdays : 1 ≤ days) :
    gapDaysInWindow history (daysBefore today days) today 7 [] = 0 := by
  have hgaps : ∀ step ∈ steps ((sortByDate (history.filter fun p =>
      inWindow (daysBefore today days) today p.date)).map SalesPoint.date),
      gapBetween 7 (dayKeySet []) step = 0 := by
    rintro ⟨(a : ℤ), (b : ℤ)⟩ hab
    obtain ⟨hle, hnear⟩ := h.steps_le hq (daysBefore today days) (fun p => by
      rw [List.mem_filter, inWindow_eq_true]
      exact ⟨fun ⟨hp, hin⟩ => ⟨hp, hin.1⟩, fun ⟨hp, hin⟩ => ⟨hp, hin, (h.bounds hp rfl).2⟩⟩) hab
    rw [gapBetween, if_neg]
    have hone : daysBetween a b ≤ ((1 : ℤ) : ℚ) := by
      refine (daysBetween_le a hnear).trans_eq (daysBetween_eq ?_)
      rw [add_sub_cancel_left, one_mul]
    have hround : jsRound (daysBetween a b) < 2 := by
      rw [jsRound_lt]
      push_cast at hone ⊢
      linarith
    show ¬ 7 < jsRound (daysBetween a b)
    omega
  have hlength : jsRound (daysBetween (daysBefore today days) today) = days := by
    rw [daysBetween_daysBefore, jsRound_intCast]
  dsimp only [gapDaysInWindow]
  split
  · rfl
  · split
    · rfl
    · rw [List.map_congr_left hgaps, hlength]
      simp
      omega

/-- The totals of the days of a steady history from some day on. -/
theorem totals_eq (h : Steady history q n today) {rows : List SalesPoint} {since : ℤ}
    (hrows : rows = history.filter fun p => since ≤ dayKeyOf p.date) {k : ℤ}
    (hk : k ∈ sellingDays ∅ (daysBefore today n) today) (hsince : since ≤ k) :
    total (rows.map fun p => (dayKeyOf p.date, p.quantity)) k = q := by
  rw [hrows, total_filter_rows fun p _ hkey => by
    rw [decide_eq_true_eq, hkey]
    exact hsince]
  exact h.sells.selling k hk

/-- The day of a row is a day of the history. -/
theorem dayKey_mem (h : Steady history q n today) {p : SalesPoint} (hp : p ∈ history) :
    dayKeyOf p.date ∈ sellingDays ∅ (daysBefore today n) today := by
  have hkey := dayKeyOf_eq_self.mpr (h.midnights p hp)
  exact mem_sellingDays.mpr ⟨h.bounds hp hkey.symm, dvd_dayKeyOf _, Finset.notMem_empty _⟩

/-- No day of a steady history stands out as a bulk day. -/
theorem debulkSeries_eq (h : Steady history q n today) (hq : 0 < q) :
    (debulkSeries history (some today) []).series = history := by
  have hrows : bulkEvidence history (some today) (dayKeySet []) = history := by
    rw [bulkEvidence, List.filter_eq_self]
    intro p hp
    have hlt := (mem_sellingDays.mp (h.dayKey_mem hp)).1.2
    have hkey := dayKeyOf_eq_self.mpr h.midnight
    simp [dayKeySet, hkey, hlt]
  -- every day totals `q`, which is the baseline and under the threshold
  have hdays : ∀ day ∈ bulkTotals history id, day.2 = q := by
    intro day hday
    have hmem : day.1 ∈ (history.map fun p => (dayKeyOf p.date, p.quantity)).map Prod.fst :=
      (mem_keys_tally _ _).mp (List.mem_map_of_mem hday)
    rw [List.map_map, List.mem_map] at hmem
    obtain ⟨p, hp, hkey⟩ := hmem
    replace hkey : dayKeyOf p.date = day.1 := hkey
    rw [← totalIn_of_mem (nodup_keys_tally _) hday, totalIn_tally]
    exact h.sells.selling day.1 (hkey ▸ h.dayKey_mem hp)
  have hcaps : bulkCaps history = [] := by
    dsimp only [bulkCaps]
    split
    · rename_i hpos
      have hsold : ((bulkTotals history id).map Prod.snd).filter (0 < ·) ≠ [] := by
        intro hnil
        rw [hnil] at hpos
        exact absurd hpos (by simp [median])
      have hmedian : median (((bulkTotals history id).map Prod.snd).filter (0 < ·)) = q := by
        refine median_const hsold fun x hx => ?_
        obtain ⟨day, hday, rfl⟩ := List.mem_map.mp (List.mem_filter.mp hx).1
        exact hdays day hday
      rw [hmedian, List.map_eq_nil_iff, List.filter_eq_nil_iff]
      intro day hday
      rw [decide_eq_true_eq, hdays day hday, not_lt]
      refine le_trans ?_ (le_max_right _ _)
      rw [BULK_MULT]
      linarith
    · rfl
  simp only [debulkSeries, hrows, hcaps, List.find?_nil, List.map_id']

/-! ## The rates -/

/-- The rate of a new product. -/
theorem rateOverWindow_eq (h : Steady history q n today) (hq : 0 < q) {days : ℤ}
    (hdays : 0 < days) (hle : days ≤ n) : rateOverWindow history today days [] [] = q := by
  have hunits := h.dampedWindow_eq hq hdays.le
  rw [min_eq_left hle] at hunits
  have heffective : effectiveWindowDays days 0 none = days := by
    simp only [effectiveWindowDays, Option.any_none, Bool.false_eq_true, if_false]
    omega
  have hne : (days : ℚ) ≠ 0 := by exact_mod_cast hdays.ne'
  dsimp only [rateOverWindow]
  rw [if_neg (by simp), heffective]
  show (dampedWindow history (daysBefore today days) today ∅).units / _ = q
  rw [hunits]
  field_simp

/-- The mean blend: each window sells in full on the days it reaches and divides by all its
days. -/
theorem weightedDailyRateAdjusted_eq (h : Steady history q n today) (hq : 0 < q) (hn : 0 < n) :
    weightedDailyRateAdjusted history today []
      = weigh RATE_WINDOWS fun days => (min days n : ℤ) * q / days := by
  rw [weightedDailyRateAdjusted, if_neg (h.ne_nil hq hn)]
  refine congrArg List.sum (List.map_congr_left fun w hw => ?_)
  have hone : 1 ≤ w.1 := by
    revert w
    decide
  have hcount : countDayKeysInWindow (dayKeySet []) (daysBefore today w.1) today = 0 := rfl
  have hdays : max 1 (w.1 - 0 - 0) = w.1 := by omega
  show (dampedWindow history (daysBefore today w.1) today ∅).units / _ * _ = _
  rw [h.gapDaysInWindow_eq hq hone, hcount, hdays, h.dampedWindow_eq hq (by omega)]

/-- The mean blend of a product that is not new is what it sells exactly when the history fills
the longest window. -/
theorem weightedDailyRateAdjusted_eq_iff (h : Steady history q n today) (hq : 0 < q)
    (hn : 60 ≤ n) : weightedDailyRateAdjusted history today [] = q ↔ 365 ≤ n := by
  have hthirty : min 30 (n : ℤ) = 30 := by omega
  rw [h.weightedDailyRateAdjusted_eq hq (by omega)]
  simp only [weigh, RATE_WINDOWS, List.map_cons, List.map_nil, List.sum_cons, List.sum_nil,
    hthirty]
  constructor
  · intro heq
    by_contra hshort
    have hyear : ((min 365 (n : ℤ) : ℤ) : ℚ) ≤ 364 := by
      exact_mod_cast show min 365 (n : ℤ) ≤ 364 by omega
    have hquarter : ((min 90 (n : ℤ) : ℤ) : ℚ) ≤ 90 := by
      exact_mod_cast show min 90 (n : ℤ) ≤ 90 by omega
    push_cast at heq hyear hquarter
    nlinarith
  · intro hlong
    have hyear : min 365 (n : ℤ) = 365 := by omega
    have hquarter : min 90 (n : ℤ) = 90 := by omega
    rw [hyear, hquarter]
    push_cast
    ring

/-! ## The median baseline -/

/-- No gap key is inferred from a steady history. -/
theorem inferredGapKeys_eq (h : Steady history q n today) (hq : 0 < q) {start : ℤ} :
    inferredGapKeys (history.filter fun p => start ≤ dayKeyOf p.date) start today = [] := by
  dsimp only [inferredGapKeys]
  split
  · refine List.flatMap_eq_nil_iff.mpr ?_
    rintro ⟨(a : ℤ), (b : ℤ)⟩ hab
    obtain ⟨_, hnear⟩ := h.steps_le hq start (fun p => by
      rw [List.mem_filter, List.mem_filter, decide_eq_true_eq, decide_eq_true_eq]
      constructor
      · rintro ⟨⟨hp, hle⟩, _⟩
        exact ⟨hp, dayKeyOf_eq_self.mpr (h.midnights p hp) ▸ hle⟩
      · rintro ⟨hp, hle⟩
        rw [dayKeyOf_eq_self.mpr (h.midnights p hp)]
        exact ⟨⟨hp, hle⟩, (h.within p hp).2⟩) hab
    refine if_pos ?_
    show dayKeyOf b - dayKeyOf a ≤ 7 * DAY_MS
    unfold dayKeyOf DAY_MS at *
    omega
  · rfl

/-- A bucket between two midnights of the history sold `q` on each of its days. -/
theorem weekOf_eq {byDay : List (ℤ × ℚ)} {start bucketStart bucketEnd : ℤ}
    (hday : ∀ k, DAY_MS ∣ k → start ≤ k → k < today → totalIn byDay k = q)
    (hstart : DAY_MS ∣ bucketStart) (hend : DAY_MS ∣ bucketEnd) (hle : start ≤ bucketStart)
    (hto : bucketEnd ≤ today) :
    weekOf byDay ∅ bucketStart bucketEnd
      = ((dayKeys bucketStart bucketEnd).length, (dayKeys bucketStart bucketEnd).length * q) := by
  have heligible : ((dayKeys bucketStart bucketEnd).filter fun k => k ∉ (∅ : Finset ℤ))
      = dayKeys bucketStart bucketEnd := by
    simp
  have htotals : ∀ k ∈ dayKeys bucketStart bucketEnd, totalIn byDay k = q := by
    intro k hk
    rw [mem_dayKeys hstart hend] at hk
    exact hday k hk.1 (hle.trans hk.2.1) (hk.2.2.trans_le hto)
  rw [weekOf, heligible, List.map_congr_left htotals, List.map_const', List.sum_replicate,
    nsmul_eq_mul]

/-- The buckets of a window of the history sold `q` on each of their days. -/
theorem weeksOf_eq {byDay : List (ℤ × ℚ)} {start : ℤ} (htoday : DAY_MS ∣ today)
    (hstart : DAY_MS ∣ start)
    (hday : ∀ k, DAY_MS ∣ k → start ≤ k → k < today → totalIn byDay k = q) :
    ∀ b ∈ weeksOf byDay ∅ start today, b.2 = b.1 * q := by
  intro b hb
  obtain ⟨i, _, rfl⟩ := List.mem_map.mp hb
  have hi : (0 : ℤ) ≤ i := Int.natCast_nonneg i
  have hend : DAY_MS ∣ today - (i : ℤ) * (MEDIAN_BUCKET_DAYS * DAY_MS) :=
    Int.dvd_sub htoday ⟨i * MEDIAN_BUCKET_DAYS, by ring⟩
  have hbegin : DAY_MS ∣ today - (i : ℤ) * (MEDIAN_BUCKET_DAYS * DAY_MS)
      - MEDIAN_BUCKET_DAYS * DAY_MS := Int.dvd_sub hend (Dvd.intro_left _ rfl)
  have hmax : DAY_MS ∣ max start
      (today - (i : ℤ) * (MEDIAN_BUCKET_DAYS * DAY_MS) - MEDIAN_BUCKET_DAYS * DAY_MS) := by
    rcases max_choice start
      (today - (i : ℤ) * (MEDIAN_BUCKET_DAYS * DAY_MS) - MEDIAN_BUCKET_DAYS * DAY_MS) with h | h
    · rwa [h]
    · rwa [h]
  have hto : today - (i : ℤ) * (MEDIAN_BUCKET_DAYS * DAY_MS) ≤ today := by
    unfold MEDIAN_BUCKET_DAYS DAY_MS
    omega
  rw [weekOf_eq hday hmax hend (le_max_left _ _) hto]

/-- A window that reaches back four weeks has four full weeks. -/
theorem four_le_fullWeeks {byDay : List (ℤ × ℚ)} {start : ℤ}
    (hlong : start ≤ daysBefore today 28) :
    4 ≤ ((weeksOf byDay ∅ start today).filter fun b => 3 ≤ b.1).length := by
  have hcount : 4 ≤ ((today - start + (MEDIAN_BUCKET_DAYS * DAY_MS - 1))
      / (MEDIAN_BUCKET_DAYS * DAY_MS)).toNat := by
    unfold daysBefore MEDIAN_BUCKET_DAYS DAY_MS at *
    omega
  let week : ℕ → ℕ × ℚ := fun i => weekOf byDay ∅
    (max start (today - (i : ℤ) * (MEDIAN_BUCKET_DAYS * DAY_MS) - MEDIAN_BUCKET_DAYS * DAY_MS))
    (today - (i : ℤ) * (MEDIAN_BUCKET_DAYS * DAY_MS))
  -- the latest bucket and the three before it have seven days each
  have hfull : ∀ i ∈ List.range 4, decide (3 ≤ (week i).1) = true := by
    intro i hi
    rw [List.mem_range] at hi
    have hmax : max start (today - (i : ℤ) * (MEDIAN_BUCKET_DAYS * DAY_MS)
          - MEDIAN_BUCKET_DAYS * DAY_MS)
        = today - (i : ℤ) * (MEDIAN_BUCKET_DAYS * DAY_MS) - MEDIAN_BUCKET_DAYS * DAY_MS := by
      refine max_eq_right ?_
      unfold daysBefore MEDIAN_BUCKET_DAYS DAY_MS at *
      omega
    have hseven : ∀ e : ℤ, (dayKeys (e - MEDIAN_BUCKET_DAYS * DAY_MS) e).length = 7 := by
      intro e
      rw [dayKeys, List.length_map, List.length_range]
      unfold MEDIAN_BUCKET_DAYS DAY_MS
      omega
    simp only [week, hmax, weekOf, Finset.notMem_empty, not_false_eq_true, decide_true,
      List.filter_true, hseven]
    decide
  have hsub := (List.range_sublist.mpr hcount).filter fun i => decide (3 ≤ (week i).1)
  rw [List.filter_eq_self.mpr hfull] at hsub
  dsimp only [weeksOf]
  rw [List.filter_map, List.length_map]
  exact hsub.length_le

/-- The median of the weeks of a window that reaches back four weeks. -/
theorem medianRate_eq (h : Steady history q n today) (hq : 0 < q) {start : ℤ}
    (hstart : DAY_MS ∣ start) (hfirst : daysBefore today n ≤ start)
    (hlong : start ≤ daysBefore today 28) : medianRate history start today today ∅ ∅ = q := by
  let rows := history.filter fun p => start ≤ dayKeyOf p.date
  let byDay := tally (rows.map fun p => (dayKeyOf p.date, p.quantity))
  let weeks := ((weeksOf byDay ∅ start today).filter fun b => 3 ≤ b.1).map fun b =>
    max 0 (b.2 / (b.1 : ℚ))
  have hday : ∀ k, DAY_MS ∣ k → start ≤ k → k < today → totalIn byDay k = q := by
    intro k hk hle hlt
    have hmem : k ∈ sellingDays ∅ (daysBefore today n) today :=
      mem_sellingDays.mpr ⟨⟨hfirst.trans hle, hlt⟩, hk, Finset.notMem_empty k⟩
    rw [totalIn_tally, h.totals_eq rfl hmem hle]
  have hblocked : medianBlocked rows byDay start today ∅ ∅ = ∅ := by
    rw [medianBlocked, h.inferredGapKeys_eq hq]
    rfl
  have hconst : ∀ x ∈ weeks, x = q := by
    intro x hx
    obtain ⟨b, hb, rfl⟩ := List.mem_map.mp hx
    obtain ⟨hmem, hthree⟩ := List.mem_filter.mp hb
    rw [decide_eq_true_eq] at hthree
    have hne : (b.1 : ℚ) ≠ 0 := by
      have : b.1 ≠ 0 := by omega
      exact_mod_cast this
    rw [weeksOf_eq h.midnight hstart hday b hmem, mul_div_cancel_left₀ q hne]
    exact max_eq_right hq.le
  have hfour : 4 ≤ weeks.length := by
    rw [List.length_map]
    exact four_le_fullWeeks hlong
  have hmedian : median weeks = q :=
    median_const (fun hnil => by rw [hnil] at hfour; exact absurd hfour (by decide)) hconst
  -- so neither test of the median sends it back to the mean
  have hsure : 4 ≤ weeks.length ∧
      (0 < median weeks ∨ (dampedWindow history start today ∅).units ≤ 0) := by
    rw [hmedian]
    exact ⟨hfour, Or.inl hq⟩
  dsimp only [medianRate]
  rw [hblocked]
  exact (if_pos hsure).trans hmedian

/-- The median baseline of a product that is not new is what it sells. -/
theorem weightedDailyRateMedianCensored_eq (h : Steady history q n today) (hq : 0 < q)
    (hn : 60 ≤ n) : weightedDailyRateMedianCensored history [] today [] none = q := by
  have hlast : dayKeyOf today = today := dayKeyOf_eq_self.mpr h.midnight
  have hvalid : history.filter (fun p => p.date < today ∧ dayKeyOf p.date < today) = history := by
    rw [List.filter_eq_self]
    intro p hp
    rw [decide_eq_true_eq, dayKeyOf_eq_self.mpr (h.midnights p hp)]
    exact ⟨(h.within p hp).2, (h.within p hp).2⟩
  have hfirst : (history.map fun p => dayKeyOf p.date).foldl min today = daysBefore today n := by
    rw [List.map_congr_left fun p hp => dayKeyOf_eq_self.mpr (h.midnights p hp)]
    show (history.map SalesPoint.date).foldl min today = _
    rw [List.foldl_min, h.earliest_eq hq (by omega), Option.getD_some]
    refine min_eq_right ?_
    unfold daysBefore DAY_MS
    omega
  dsimp only [weightedDailyRateMedianCensored]
  rw [hlast, hvalid, if_neg (h.ne_nil hq (by omega)), hfirst]
  refine weigh_const (by norm_num [MEDIAN_WINDOWS]) fun w hw => ?_
  have hwindow : 28 ≤ w.1 := by
    revert w
    decide
  have hstart : DAY_MS ∣ max (daysBefore today n) (daysBefore today w.1) := by
    rcases max_choice (daysBefore today n) (daysBefore today w.1) with hmax | hmax
    · rw [hmax]
      exact dvd_daysBefore h.midnight n
    · rw [hmax]
      exact dvd_daysBefore h.midnight w.1
  refine h.medianRate_eq hq hstart (le_max_left _ _) ?_
  unfold daysBefore DAY_MS
  omega

end Steady

/-! ## The run rate -/

section RunRate

variable {history : List SalesPoint} {q : ℚ} {n : ℕ} {now : ℤ} (damping : Bool)

/-- The run rate of a product whose history is shorter than that of an established one. -/
theorem runRateDaily_of_new (hq : 0 < q) (hn : 7 ≤ n) (hnew : n < 60)
    (h : SteadySeller history q n now) (method : BaselineMethod) :
    runRateDaily history now [] [] none method damping = q := by
  have hcompleted := h.completed
  have hspan : ((n : ℕ) : ℚ) < NEW_PRODUCT_DAYS := by
    rw [NEW_PRODUCT_DAYS]
    exact_mod_cast hnew
  have hwindow : newProductWindow n = min 30 n := by
    rw [newProductWindow, Int.ceil_natCast]
    omega
  dsimp only [runRateDaily]
  rw [hcompleted.debulkSeries_eq hq, ite_self, hcompleted.historySpanDays_eq hq (by omega),
    if_pos hspan, hwindow]
  exact hcompleted.rateOverWindow_eq hq (by omega) (by omega)

/-- The run rate of a product with the history of an established one. -/
theorem runRateDaily_of_established (hq : 0 < q) (hold : 60 ≤ n)
    (h : SteadySeller history q n now) (method : BaselineMethod) :
    runRateDaily history now [] [] none method damping
      = if method = .median then q
        else weightedDailyRateAdjusted (history.filter fun p => p.date < dayKeyOf now)
          (dayKeyOf now) [] := by
  have hcompleted := h.completed
  have hspan : ¬ ((n : ℕ) : ℚ) < NEW_PRODUCT_DAYS := by
    rw [NEW_PRODUCT_DAYS, not_lt]
    exact_mod_cast hold
  dsimp only [runRateDaily]
  rw [hcompleted.debulkSeries_eq hq, ite_self, hcompleted.historySpanDays_eq hq (by omega),
    if_neg hspan, hcompleted.weightedDailyRateMedianCensored_eq hq hold,
    if_neg (show ¬ (([] : List Time) ≠ [] ∨ (none : Option Time).isSome = true) by simp)]

/-- The run rate of a steady seller is what it sells, on both baselines, exactly when it is new
or has a full year of history. -/
theorem runRateDaily_steady_iff (hq : 0 < q) (hn : 7 ≤ n) (h : SteadySeller history q n now) :
    runRateDaily history now [] [] none .mean damping = q
        ∧ runRateDaily history now [] [] none .median damping = q
      ↔ n < 60 ∨ 365 ≤ n := by
  by_cases hnew : n < 60
  · simp only [runRateDaily_of_new damping hq hn hnew h, hnew, true_or, and_self]
  · have hold : 60 ≤ n := by omega
    rw [runRateDaily_of_established damping hq hold h,
      runRateDaily_of_established damping hq hold h, if_neg (by decide), if_pos rfl,
      h.completed.weightedDailyRateAdjusted_eq_iff hq hold]
    simp only [and_true, hnew, false_or]

end RunRate

/-- One row a day since some days before midnight is the history of a steady seller. -/
theorem steadySeller_dailyHistory (q : ℚ) (n : ℕ) {now : ℤ} (hnow : DAY_MS ∣ now) :
    SteadySeller (dailyHistory q ∅ (daysBefore now n) now) q n now where
  midnights p hp :=
    (mem_sellingDays.mp (dates_dailyHistory (dvd_daysBefore hnow n) hnow hp).1).2.1
  since p hp _ := by
    rw [dayKeyOf_eq_self.mpr hnow]
    exact (mem_sellingDays.mp (dates_dailyHistory (dvd_daysBefore hnow n) hnow hp).1).1.1
  sells := by
    rw [dayKeyOf_eq_self.mpr hnow]
    exact sellsDaily_dailyHistory q ∅ (dvd_daysBefore hnow n) hnow

/-- Ten days of two a day. -/
theorem runRateDaily_of_ten_days :
    runRateDaily (dailyHistory 2 ∅ (daysBefore 0 10) 0) 0 [] [] none .mean true = 2
      ∧ runRateDaily (dailyHistory 2 ∅ (daysBefore 0 10) 0) 0 [] [] none .median true = 2
      ↔ 10 < 60 ∨ 365 ≤ 10 :=
  runRateDaily_steady_iff true (by norm_num) (by decide)
    (steadySeller_dailyHistory 2 10 (by decide))

/-- A product that sold one a day for sixty days: the mean blend spreads its sales over
ninety days and over three hundred and sixty-five. -/
theorem runRateDaily_of_sixty_days :
    SteadySeller (dailyHistory 1 ∅ (daysBefore 0 60) 0) 1 60 0
      ∧ runRateDaily (dailyHistory 1 ∅ (daysBefore 0 60) 0) 0 [] [] none .mean false = 107 / 146
      ∧ ¬ (runRateDaily (dailyHistory 1 ∅ (daysBefore 0 60) 0) 0 [] [] none .mean false = 1
        ∧ runRateDaily (dailyHistory 1 ∅ (daysBefore 0 60) 0) 0 [] [] none .median false = 1) := by
  have hrate : runRateDaily (dailyHistory 1 ∅ (daysBefore 0 60) 0) 0 [] [] none .mean false
      = 107 / 146 := by
    decide +kernel
  refine ⟨steadySeller_dailyHistory 1 60 (by decide), hrate, ?_⟩
  rintro ⟨hmean, _⟩
  rw [hrate] at hmean
  norm_num at hmean

end Restock.Forecast
