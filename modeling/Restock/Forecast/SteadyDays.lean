import Mathlib.Algebra.BigOperators.Ring.List
import Restock.Forecast.Layered

/-!
# Days that sell the same

A history over a window in which every day outside a set of days sells the same, and the days
of the set nothing: what the windows of the engine make of it.

* `SellsDaily` — such a history;
* `dampedWindow_of_sellsDaily` — the units and sale days of a window;
* `weightedDailyRateCensored_of_sellsDaily` — the censored rate is what a selling day sells.
-/

namespace Restock.Forecast

open Series

/-- The units of a day. -/
def unitsOn (history : List SalesPoint) (k : ℤ) : ℚ :=
  total (history.map fun p => (dayKeyOf p.date, p.quantity)) k

/-- The days of a window outside the days of `off`. -/
noncomputable def sellingDays (off : Finset ℤ) (since upTo : ℤ) : Finset ℤ :=
  (Finset.Ico since upTo).filter fun k => DAY_MS ∣ k ∧ k ∉ off

/-- Over a window, each day outside `off` sold `q` and each day of `off` nothing. -/
structure SellsDaily (history : List SalesPoint) (q : ℚ) (off : Finset ℤ) (since upTo : ℤ) :
    Prop where
  selling : ∀ k ∈ sellingDays off since upTo, unitsOn history k = q
  resting : ∀ k ∈ off, since ≤ k → k < upTo → unitsOn history k = 0

/-- Every row is in the window exactly when the midnight of its day is. -/
def WholeDays (history : List SalesPoint) (since upTo : ℤ) : Prop :=
  ∀ p ∈ history, inWindow since upTo (dayKeyOf p.date) = inWindow since upTo p.date

section Windows

variable {history : List SalesPoint} {q : ℚ} {off excluded : Finset ℤ} {since upTo : ℤ}

theorem mem_sellingDays {k : ℤ} :
    k ∈ sellingDays off since upTo ↔ (since ≤ k ∧ k < upTo) ∧ DAY_MS ∣ k ∧ k ∉ off := by
  rw [sellingDays, Finset.mem_filter, Finset.mem_Ico]

@[simp] theorem inWindow_eq_true {d : ℤ} : inWindow since upTo d = true ↔ since ≤ d ∧ d < upTo := by
  rw [inWindow, decide_eq_true_eq]

/-- A window between two midnights takes every day whole. -/
theorem wholeDays_of_dvd (hsince : DAY_MS ∣ since) (hupTo : DAY_MS ∣ upTo) :
    WholeDays history since upTo := by
  intro p _
  rw [Bool.eq_iff_iff, inWindow_eq_true, inWindow_eq_true, le_dayKeyOf hsince, dayKeyOf_lt hupTo]

/-- Rows at midnights are in a window exactly when their days are. -/
theorem wholeDays_of_midnights (h : ∀ p ∈ history, DAY_MS ∣ p.date) :
    WholeDays history since upTo := by
  intro p hp
  rw [dayKeyOf_eq_self.mpr (h p hp)]

/-- A shorter window of a history that sells daily sells daily. -/
theorem SellsDaily.mono {since' : ℤ} (h : SellsDaily history q off since upTo)
    (hle : since ≤ since') : SellsDaily history q off since' upTo where
  selling k hk := by
    rw [mem_sellingDays] at hk
    exact h.selling k (mem_sellingDays.mpr ⟨⟨hle.trans hk.1.1, hk.1.2⟩, hk.2⟩)
  resting k hk hsince hupTo := h.resting k hk (hle.trans hsince) hupTo

/-- A day that sold has a row. -/
theorem exists_row_of_unitsOn_ne {k : ℤ} (h : unitsOn history k ≠ 0) :
    ∃ p ∈ history, dayKeyOf p.date = k := by
  by_contra hnone
  refine h (total_eq_zero fun hmem => hnone ?_)
  simpa using hmem

/-- The total of a day in some of the rows, when all rows of the day are among them. -/
theorem total_filter_rows {keep : SalesPoint → Bool} {k : ℤ}
    (h : ∀ p ∈ history, dayKeyOf p.date = k → keep p = true) :
    total ((history.filter keep).map fun p => (dayKeyOf p.date, p.quantity)) k
      = unitsOn history k := by
  induction history with
  | nil => rfl
  | cons p history ih =>
      have hrest := ih fun p' hp' => h p' (List.mem_cons_of_mem _ hp')
      have hday : unitsOn (p :: history) k
          = (if dayKeyOf p.date = k then p.quantity else 0) + unitsOn history k := by
        rw [unitsOn, List.map_cons, total_cons]
        rfl
      rw [hday, ← hrest]
      by_cases hkeep : keep p = true
      · rw [List.filter_cons_of_pos hkeep, List.map_cons, total_cons]
      · -- a row that is left out is of another day
        have hne : dayKeyOf p.date ≠ k := fun heq => hkeep (h p List.mem_cons_self heq)
        rw [List.filter_cons_of_neg hkeep, if_neg hne, zero_add]

/-! ## Spike damping -/

/-- Damping forgets the order of the days. -/
theorem damp_perm {xs ys : List ℚ} (h : xs.Perm ys) : damp xs = damp ys := by
  have hsold := h.filter (0 < ·)
  simp only [damp, median_perm hsold, hsold.length_eq]
  rw [(h.map _).sum_eq]

/-- Days that sold nothing or the same are not damped. -/
theorem damp_of_forall (hq : 0 < q) {xs : List ℚ} (h : ∀ x ∈ xs, x = 0 ∨ x = q) :
    damp xs = { units := (xs.filter (0 < ·)).length * q
                saleDays := (xs.filter (0 < ·)).length } := by
  have hsold : ∀ x ∈ xs.filter (0 < ·), x = q := by
    intro x hx
    rw [List.mem_filter, decide_eq_true_eq] at hx
    exact (h x hx.1).resolve_left hx.2.ne'
  -- the cap, where there is one, is twice what a day sells
  have hcap : ∀ x ∈ xs, (if MIN_SALE_DAYS_FOR_CAP ≤ (xs.filter (0 < ·)).length then
      min x (SPIKE_CAP_MULTIPLE * median (xs.filter (0 < ·))) else x) = x := by
    intro x hx
    by_cases hlen : MIN_SALE_DAYS_FOR_CAP ≤ (xs.filter (0 < ·)).length
    · have hne : xs.filter (0 < ·) ≠ [] := by
        intro hnil
        rw [hnil] at hlen
        exact absurd hlen (by decide)
      rw [if_pos hlen, median_const hne hsold, SPIKE_CAP_MULTIPLE]
      rcases h x hx with rfl | rfl <;> exact min_eq_left (by linarith)
    · rw [if_neg hlen]
  have hsum : xs.sum = (xs.filter (0 < ·)).length * q := by
    clear hcap hsold
    induction xs with
    | nil => simp
    | cons x xs ih =>
        have hrest := ih fun y hy => h y (List.mem_cons_of_mem _ hy)
        rcases h x List.mem_cons_self with rfl | rfl
        · simpa using hrest
        · rw [List.filter_cons_of_pos (by simpa using hq), List.sum_cons, hrest, List.length_cons]
          push_cast
          ring
  rw [damp, List.map_congr_left hcap, List.map_id', hsum]

/-- A window of a history that sells daily: what was sold on its selling days, undamped. -/
theorem dampedWindow_of_sellsDaily (hq : 0 < q) (hsales : SellsDaily history q off since upTo)
    (hwhole : WholeDays history since upTo) (hexcluded : excluded ⊆ off) :
    dampedWindow history since upTo excluded
      = { units := (sellingDays off since upTo).card * q
          saleDays := (sellingDays off since upTo).card } := by
  let keep : SalesPoint → Bool := fun p =>
    inWindow since upTo p.date ∧ dayKeyOf p.date ∉ excluded
  let entries := (history.filter keep).map fun p => (dayKeyOf p.date, p.quantity)
  -- a day of the window that is not excluded has all its rows among the entries
  have htotal : ∀ k, since ≤ k → k < upTo → k ∉ excluded → total entries k = unitsOn history k := by
    intro k hsince hupTo hk
    refine total_filter_rows fun p hp hkey => ?_
    rw [decide_eq_true_eq, ← hwhole p hp, hkey]
    exact ⟨inWindow_eq_true.mpr ⟨hsince, hupTo⟩, hk⟩
  have hkeys : ∀ k ∈ (entries.map Prod.fst).dedup,
      (since ≤ k ∧ k < upTo) ∧ DAY_MS ∣ k ∧ k ∉ excluded := by
    intro k hk
    rw [List.mem_dedup, List.map_map, List.mem_map] at hk
    obtain ⟨p, hp, rfl⟩ := hk
    obtain ⟨hmem, hkeep⟩ := List.mem_filter.mp hp
    rw [decide_eq_true_eq, ← hwhole p hmem, inWindow_eq_true] at hkeep
    exact ⟨hkeep.1, dvd_dayKeyOf p.date, hkeep.2⟩
  have hvalues : ∀ x ∈ (entries.map Prod.fst).dedup.map (total entries), x = 0 ∨ x = q := by
    intro x hx
    obtain ⟨k, hk, rfl⟩ := List.mem_map.mp hx
    obtain ⟨⟨hsince, hupTo⟩, hday, hnot⟩ := hkeys k hk
    rw [htotal k hsince hupTo hnot]
    by_cases hoff : k ∈ off
    · exact Or.inl (hsales.resting k hoff hsince hupTo)
    · exact Or.inr (hsales.selling k (mem_sellingDays.mpr ⟨⟨hsince, hupTo⟩, hday, hoff⟩))
  -- the days with a positive total are the selling days
  have hsold : ((entries.map Prod.fst).dedup.filter fun k => 0 < total entries k).toFinset
      = sellingDays off since upTo := by
    ext k
    rw [List.mem_toFinset, List.mem_filter, decide_eq_true_eq, mem_sellingDays]
    constructor
    · rintro ⟨hk, hpos⟩
      obtain ⟨⟨hsince, hupTo⟩, hday, hnot⟩ := hkeys k hk
      rw [htotal k hsince hupTo hnot] at hpos
      exact ⟨⟨hsince, hupTo⟩, hday, fun hoff => hpos.ne' (hsales.resting k hoff hsince hupTo)⟩
    · rintro ⟨⟨hsince, hupTo⟩, hday, hoff⟩
      have hunits := hsales.selling k (mem_sellingDays.mpr ⟨⟨hsince, hupTo⟩, hday, hoff⟩)
      have hnot : k ∉ excluded := fun hk => hoff (hexcluded hk)
      have hpos : 0 < total entries k := by
        rw [htotal k hsince hupTo hnot, hunits]
        exact hq
      refine ⟨?_, hpos⟩
      by_contra hmem
      rw [List.mem_dedup] at hmem
      exact hpos.ne' (total_eq_zero hmem)
  have hcard : (((entries.map Prod.fst).dedup.map (total entries)).filter (0 < ·)).length
      = (sellingDays off since upTo).card := by
    rw [List.filter_map, List.length_map, ← hsold, List.toFinset_card_of_nodup]
    · rfl
    · exact (List.nodup_dedup _).filter _
  show damp ((tally entries).map Prod.snd) = _
  rw [damp_perm (values_tally_perm entries), damp_of_forall hq hvalues, hcard]

end Windows

/-! ## Blocked days -/

section Blocked

variable {stockoutDates excludedDates : List Time} {since : ℤ} (upTo : ℤ)

/-- The day keys of midnights are the midnights. -/
theorem dayKeySet_of_midnights {dates : List Time} (h : ∀ d ∈ dates, DAY_MS ∣ d) :
    dayKeySet dates = dates.toFinset := by
  rw [dayKeySet, List.map_congr_left fun d hd => dayKeyOf_eq_self.mpr (h d hd)]
  simp

/-- The blocked days of a window are its midnights among the stockout and excluded dates, each
counted once. -/
theorem blockedDaysInWindow_eq (hstockouts : stockoutDates.Nodup)
    (hday : ∀ d ∈ stockoutDates ++ excludedDates, DAY_MS ∣ d) :
    blockedDaysInWindow stockoutDates excludedDates since upTo
      = ((stockoutDates ++ excludedDates).toFinset.filter fun k =>
          inWindow since upTo k).card := by
  rw [blockedDaysInWindow]
  by_cases hnone : excludedDates = []
  · subst hnone
    rw [if_pos rfl, List.append_nil, censoredDaysInWindow, ← List.toFinset_filter,
      List.toFinset_card_of_nodup (hstockouts.filter _)]
  · rw [if_neg hnone, countDayKeysInWindow, List.toFinset_append,
      dayKeySet_of_midnights fun d hd => hday d (List.mem_append_left _ hd),
      dayKeySet_of_midnights fun d hd => hday d (List.mem_append_right _ hd)]

/-- A window of some days is made of its selling days and its blocked ones. -/
theorem sellingDays_add_blocked {off : Finset ℤ} (hday : ∀ d ∈ off, DAY_MS ∣ d) {days : ℤ}
    (hdays : 0 ≤ days) :
    ((sellingDays off (daysBefore upTo days) upTo).card : ℤ)
      + (off.filter fun k => inWindow (daysBefore upTo days) upTo k).card = days := by
  have hsplit : (Finset.Ico (daysBefore upTo days) upTo).filter (DAY_MS ∣ ·)
      = sellingDays off (daysBefore upTo days) upTo
        ∪ off.filter fun k => inWindow (daysBefore upTo days) upTo k := by
    ext k
    rw [Finset.mem_union, mem_sellingDays, Finset.mem_filter, Finset.mem_filter, Finset.mem_Ico,
      inWindow_eq_true]
    constructor
    · rintro ⟨hwindow, hk⟩
      by_cases hoff : k ∈ off
      · exact Or.inr ⟨hoff, hwindow⟩
      · exact Or.inl ⟨hwindow, hk, hoff⟩
    · rintro (⟨hwindow, hk, _⟩ | ⟨hoff, hwindow⟩)
      · exact ⟨hwindow, hk⟩
      · exact ⟨hwindow, hday k hoff⟩
  have hdisjoint : Disjoint (sellingDays off (daysBefore upTo days) upTo)
      (off.filter fun k => inWindow (daysBefore upTo days) upTo k) := by
    refine Finset.disjoint_left.mpr fun k hk hoff => ?_
    exact (mem_sellingDays.mp hk).2.2 (Finset.mem_filter.mp hoff).1
  have hcard := card_dayKeys upTo hdays
  rw [hsplit, Finset.card_union_of_disjoint hdisjoint] at hcard
  exact_mod_cast hcard

/-- A window of some days has at least as many selling days as days that are not of `off`. -/
theorem le_sellingDays {off : Finset ℤ} (hday : ∀ d ∈ off, DAY_MS ∣ d) {days : ℤ}
    (hdays : 0 ≤ days) :
    days - off.card ≤ (sellingDays off (daysBefore upTo days) upTo).card := by
  have hsplit := sellingDays_add_blocked upTo hday hdays
  have hfew : (off.filter fun k => inWindow (daysBefore upTo days) upTo k).card ≤ off.card :=
    Finset.card_filter_le _ _
  omega

end Blocked

/-! ## The censored rate -/

/-- The denominator of a window of some days is at least one, whatever is taken out of it. -/
theorem one_le_effectiveWindowDays {days : ℤ} (hdays : 1 ≤ days) (blocked : ℤ)
    (signal : Option WindowSignal) : 1 ≤ effectiveWindowDays days blocked signal := by
  rw [effectiveWindowDays]
  refine le_max_of_le_right ?_
  split <;> omega

/-- The denominator of a window with at least three selling days and no other exposure is the
number of its selling days. -/
theorem effectiveWindowDays_of_selling {days : ℤ} {m : ℕ} (hm : 3 ≤ m) :
    effectiveWindowDays days (days - m) (some { inStockDays := m, saleDays := m }) = m := by
  have hpos : (0 : ℚ) < m := by
    have : 0 < m := by omega
    exact_mod_cast this
  have hconsistent : ((some { inStockDays := (m : ℤ), saleDays := m } : Option WindowSignal).any
      fun s => 0 < s.inStockDays ∧ 2 ≤ s.saleDays ∧ 3 / 5 ≤ (s.saleDays : ℚ) / s.inStockDays)
      = true := by
    rw [Option.any_some, decide_eq_true_eq]
    refine ⟨?_, ?_, ?_⟩
    · show (0 : ℤ) < m
      omega
    · show 2 ≤ m
      omega
    · show (3 / 5 : ℚ) ≤ (m : ℚ) / ((m : ℤ) : ℚ)
      rw [Int.cast_natCast, div_self hpos.ne']
      norm_num
  simp only [effectiveWindowDays, hconsistent, if_true]
  omega

/-- Where the weights add up to one and every window gives the same, so does their blend. -/
theorem weigh_const {windows : List (ℤ × ℚ)} {rate : ℤ → ℚ} {q : ℚ}
    (hone : (windows.map Prod.snd).sum = 1) (h : ∀ w ∈ windows, rate w.1 = q) :
    weigh windows rate = q := by
  rw [weigh, List.map_congr_left fun w hw => by rw [h w hw]]
  show (windows.map fun w => q * Prod.snd w).sum = q
  rw [List.sum_map_mul_left]
  show q * (windows.map Prod.snd).sum = q
  rw [hone, mul_one]

/-- The weights of the rate windows add up to one. -/
theorem sum_rateWeights : (RATE_WINDOWS.map Prod.snd).sum = 1 := by
  norm_num [RATE_WINDOWS]

/-- One row for each midnight of a window outside `off`. -/
def dailyHistory (q : ℚ) (off : Finset ℤ) (since upTo : ℤ) : List SalesPoint :=
  ((dayKeys since upTo).filter fun k => k ∉ off).map fun k => { date := k, quantity := q }

/-- The day keys of the rows. -/
theorem dates_dailyHistory {q : ℚ} {off : Finset ℤ} {since upTo : ℤ} (hsince : DAY_MS ∣ since)
    (hupTo : DAY_MS ∣ upTo) {p : SalesPoint} (hp : p ∈ dailyHistory q off since upTo) :
    p.date ∈ sellingDays off since upTo ∧ p.quantity = q := by
  obtain ⟨k, hk, rfl⟩ := List.mem_map.mp hp
  rw [List.mem_filter, decide_eq_true_eq, mem_dayKeys hsince hupTo] at hk
  exact ⟨mem_sellingDays.mpr ⟨hk.1.2, hk.1.1, hk.2⟩, rfl⟩

/-- It sells daily. -/
theorem sellsDaily_dailyHistory (q : ℚ) (off : Finset ℤ) {since upTo : ℤ}
    (hsince : DAY_MS ∣ since) (hupTo : DAY_MS ∣ upTo) :
    SellsDaily (dailyHistory q off since upTo) q off since upTo where
  selling k hk := by
    have hnodup : ((dayKeys since upTo).filter fun k => k ∉ off).Nodup :=
      (nodup_dayKeys since upTo).filter _
    have hmem : k ∈ (dayKeys since upTo).filter fun k => k ∉ off := by
      rw [mem_sellingDays] at hk
      rw [List.mem_filter, decide_eq_true_eq, mem_dayKeys hsince hupTo]
      exact ⟨⟨hk.2.1, hk.1⟩, hk.2.2⟩
    have hkeys : ∀ k ∈ (dayKeys since upTo).filter fun k => k ∉ off, dayKeyOf k = k := by
      intro k hk
      rw [List.mem_filter, mem_dayKeys hsince hupTo] at hk
      exact dayKeyOf_eq_self.mpr hk.1.1
    rw [unitsOn, dailyHistory, List.map_map, List.map_congr_left fun k hk => by
      show (dayKeyOf k, q) = (k, q)
      rw [hkeys k hk]]
    -- the days are distinct, so one entry is of this day
    rw [total, List.filter_map, List.map_map]
    show ((((dayKeys since upTo).filter fun k => k ∉ off).filter (· = k)).map fun _ => q).sum = q
    rw [List.filter_eq, List.count_eq_one_of_mem hnodup hmem]
    simp
  resting k hk _ _ := by
    refine total_eq_zero fun hmem => ?_
    rw [List.map_map, List.mem_map] at hmem
    obtain ⟨p, hp, hkey⟩ := hmem
    have hdate := (dates_dailyHistory hsince hupTo hp).1
    rw [mem_sellingDays] at hdate
    replace hkey : dayKeyOf p.date = k := hkey
    rw [dayKeyOf_eq_self.mpr hdate.2.1] at hkey
    exact hdate.2.2 (hkey ▸ hk)

end Restock.Forecast
