import Restock.Forecast.SameSales

/-!
# Blocked days

The denominators of the censored rate of `packages/forecast/src/baseline.ts`. What is taken out
of a window comes from three counts: the days the snapshots prove empty and the days that are
excluded are counted as one set, and the gaps between sales before the snapshots begin are added
to it, less the closures inside them.

* `inferredGapDays` — the days between two sales more than a week apart, of a product that sells;
* `blockedDays` — the days of a window that are out of stock, excluded or inferred;
* `gapDaysInWindow_eq_card` — the gap days are counted without the excluded ones;
* `blocked_counted_once` — the counts add up to the number of blocked days.
-/

namespace Restock.Forecast

open Series

/-- The days of a window that are inferred to be out of stock: where the window sold half a unit
a day, the days between two sale dates more than a week apart with no sale in between. -/
noncomputable def inferredGapDays (history : List SalesPoint) (since upTo : ℤ) : Finset ℤ :=
  let rows := history.filter fun p => inWindow since upTo p.date
  (Finset.Ico since upTo).filter fun k => DAY_MS ∣ k ∧
    (jsRound (daysBetween since upTo) : ℚ) / 2 ≤ sumQty rows ∧
    ∃ a ∈ rows.map SalesPoint.date, ∃ b ∈ rows.map SalesPoint.date,
      (a < k ∧ k < b) ∧ 7 * DAY_MS < b - a ∧ ∀ c ∈ rows.map SalesPoint.date, c ≤ a ∨ b ≤ c

/-- The days inferred in the part of a window that the snapshots do not reach. -/
noncomputable def uncoveredDays (history : List SalesPoint) (since asOf : ℤ) :
    Option ℤ → Finset ℤ
  | none => ∅
  | some snapshotsSince => inferredGapDays history since (min snapshotsSince asOf)

/-- The days of a window that are out of stock, excluded or inferred. -/
noncomputable def blockedDays (history : List SalesPoint) (stockoutDates excludedDates : List Time)
    (since asOf : ℤ) (snapshotsSince : Option ℤ) : Finset ℤ :=
  (dayKeySet stockoutDates ∪ dayKeySet excludedDates
    ∪ uncoveredDays history since asOf snapshotsSince).filter fun k => inWindow since asOf k

/-- A history, distinct stockout days and a first day of snapshots, which is before them. -/
structure DayDated (history : List SalesPoint) (stockoutDates : List Time)
    (snapshotsSince : Option ℤ) : Prop where
  history : ∀ p ∈ history, DAY_MS ∣ p.date
  stockouts : ∀ d ∈ stockoutDates, DAY_MS ∣ d
  distinct : stockoutDates.Nodup
  snapshots : ∀ s ∈ snapshotsSince, DAY_MS ∣ s
  covered : ∀ s ∈ snapshotsSince, ∀ d ∈ stockoutDates, s ≤ d

/-! ## Days between two days -/

section Between

variable {a b : ℤ}

/-- The days strictly between two days. -/
theorem card_between (ha : DAY_MS ∣ a) (hb : DAY_MS ∣ b) (hab : a < b) :
    (((Finset.Ioo a b).filter (DAY_MS ∣ ·)).card : ℤ) = (b - a) / DAY_MS - 1 := by
  have hspan : daysBefore b ((b - a) / DAY_MS) = a := by
    rw [daysBefore, Int.ediv_mul_cancel (Int.dvd_sub hb ha), sub_sub_cancel]
  have hdays : 0 ≤ (b - a) / DAY_MS :=
    Int.ediv_nonneg (by omega) dayMs_pos.le
  have hsplit : (Finset.Ico a b).filter (DAY_MS ∣ ·)
      = insert a ((Finset.Ioo a b).filter (DAY_MS ∣ ·)) := by
    rw [← Finset.Ioo_insert_left hab, Finset.filter_insert, if_pos ha]
  have hcard := card_dayKeys b hdays
  rw [hspan, hsplit, Finset.card_insert_of_notMem (by simp)] at hcard
  push_cast at hcard
  omega

/-- The days that two neighbouring sale dates give to the gap. -/
noncomputable def gapOf (excluded : Finset ℤ) (step : ℤ × ℤ) : Finset ℤ :=
  if 7 * DAY_MS < step.2 - step.1 then
    (Finset.Ioo step.1 step.2).filter (DAY_MS ∣ ·) \ excluded
  else ∅

theorem mem_gapOf {excluded : Finset ℤ} {step : ℤ × ℤ} {k : ℤ} :
    k ∈ gapOf excluded step ↔ (DAY_MS ∣ k ∧ (step.1 < k ∧ k < step.2) ∧
      7 * DAY_MS < step.2 - step.1) ∧ k ∉ excluded := by
  rw [gapOf]
  split
  case isTrue hfar =>
    rw [Finset.mem_sdiff, Finset.mem_filter, Finset.mem_Ioo]
    tauto
  case isFalse hnear => simp [hnear]

/-- What is taken off the span of a gap is the closures inside it, each once. -/
theorem gapBetween_eq_card {excluded : Finset ℤ} (hexcluded : ∀ k ∈ excluded, DAY_MS ∣ k)
    (ha : DAY_MS ∣ a) (hb : DAY_MS ∣ b) :
    gapBetween 7 excluded (a, b) = ((gapOf excluded (a, b)).card : ℤ) := by
  have hbetween : jsRound (daysBetween a b) = (b - a) / DAY_MS := by
    rw [daysBetween_eq (Int.ediv_mul_cancel (Int.dvd_sub hb ha)).symm, jsRound_intCast]
  have hweek : 7 < (b - a) / DAY_MS ↔ 7 * DAY_MS < b - a := by
    obtain ⟨n, hn⟩ := Int.dvd_sub hb ha
    rw [hn]
    unfold DAY_MS
    omega
  rw [gapBetween, gapOf, hbetween]
  by_cases hfar : 7 * DAY_MS < b - a
  · have hinside : excluded.filter (fun k => a < k ∧ k < b)
        = (Finset.Ioo a b).filter (DAY_MS ∣ ·) ∩ excluded := by
      ext k
      rw [Finset.mem_filter, Finset.mem_inter, Finset.mem_filter, Finset.mem_Ioo]
      constructor
      · rintro ⟨hk, hin⟩
        exact ⟨⟨hin, hexcluded k hk⟩, hk⟩
      · rintro ⟨⟨hin, -⟩, hk⟩
        exact ⟨hk, hin⟩
    have hcard := card_between ha hb (by unfold DAY_MS at hfar; omega)
    have hsplit := Finset.card_inter_add_card_sdiff ((Finset.Ioo a b).filter (DAY_MS ∣ ·)) excluded
    rw [if_pos (hweek.mpr hfar), if_pos hfar, hinside]
    show (b - a) / DAY_MS - 1 - (_ : ℤ)
      = (((Finset.Ioo a b).filter (DAY_MS ∣ ·) \ excluded).card : ℤ)
    omega
  · rw [if_neg (hweek.not.mpr hfar), if_neg hfar]
    rfl

end Between

/-! ## The gaps of a window -/

section Gaps

variable {history : List SalesPoint} {since upTo : ℤ}

/-- No row of the window is on a day inferred to be out of stock. -/
theorem notMem_inferredGapDays {p : SalesPoint} (hp : p ∈ history)
    (hwindow : inWindow since upTo p.date) : p.date ∉ inferredGapDays history since upTo := by
  intro hmem
  obtain ⟨-, -, -, a, -, b, -, hin, -, hnone⟩ := Finset.mem_filter.mp hmem
  have hrow : p.date ∈ (history.filter fun p => inWindow since upTo p.date).map SalesPoint.date :=
    List.mem_map_of_mem (List.mem_filter.mpr ⟨hp, hwindow⟩)
  rcases hnone _ hrow with hle | hle
  · exact absurd hin.1 (not_lt.mpr hle)
  · exact absurd hin.2 (not_lt.mpr hle)

/-- Where the window sells, the gaps between its rows in date order are its inferred days without
the excluded ones. -/
theorem biUnion_gapOf (excluded : Finset ℤ)
    (hsells : (jsRound (daysBetween since upTo) : ℚ) / 2
      ≤ sumQty (history.filter fun p => inWindow since upTo p.date)) :
    (steps ((sortByDate (history.filter fun p => inWindow since upTo p.date)).map
        SalesPoint.date)).toFinset.biUnion (gapOf excluded)
      = inferredGapDays history since upTo \ excluded := by
  set rows := history.filter fun p => inWindow since upTo p.date with hrows
  have hmem : ∀ c, c ∈ (sortByDate rows).map SalesPoint.date ↔ c ∈ rows.map SalesPoint.date :=
    fun c => ((perm_sortByDate rows).map _).mem_iff
  have hwindow : ∀ c ∈ rows.map SalesPoint.date, since ≤ c ∧ c < upTo := by
    intro c hc
    obtain ⟨p, hp, rfl⟩ := List.mem_map.mp hc
    exact inWindow_eq_true.mp (List.mem_filter.mp hp).2
  ext k
  rw [Finset.mem_biUnion, Finset.mem_sdiff, inferredGapDays, Finset.mem_filter, Finset.mem_Ico,
    ← hrows]
  constructor
  · rintro ⟨⟨a, b⟩, hstep, hk⟩
    obtain ⟨⟨hday, hin, hfar⟩, hnot⟩ := mem_gapOf.mp hk
    obtain ⟨ha, hb, hnone⟩ := (mem_steps_iff (sorted_dates rows) (hin.1.trans hin.2)).mp
      (List.mem_toFinset.mp hstep)
    rw [hmem] at ha hb
    refine ⟨⟨⟨(hwindow a ha).1.trans hin.1.le, hin.2.trans (hwindow b hb).2⟩, hday, hsells, a, ha,
      b, hb, hin, hfar, fun c hc => hnone c ((hmem c).mpr hc)⟩, hnot⟩
  · rintro ⟨⟨-, hday, -, a, ha, b, hb, hin, hfar, hnone⟩, hnot⟩
    refine ⟨(a, b), ?_, mem_gapOf.mpr ⟨⟨hday, hin, hfar⟩, hnot⟩⟩
    rw [List.mem_toFinset, mem_steps_iff (sorted_dates rows) (hin.1.trans hin.2)]
    exact ⟨(hmem a).mpr ha, (hmem b).mpr hb, fun c hc => hnone c ((hmem c).mp hc)⟩

/-- A day key of a date is a day. -/
theorem dvd_of_mem_dayKeySet {dates : List Time} {k : ℤ} (hk : k ∈ dayKeySet dates) :
    DAY_MS ∣ k := by
  obtain ⟨d, -, rfl⟩ := List.mem_map.mp (List.mem_toFinset.mp hk)
  exact dvd_dayKeyOf d

/-- The gaps between neighbours add up to the inferred days without the excluded ones. -/
theorem sum_gapBetween (hhistory : ∀ p ∈ history, DAY_MS ∣ p.date) (excludedDates : List Time)
    (hsells : (jsRound (daysBetween since upTo) : ℚ) / 2
      ≤ sumQty (history.filter fun p => inWindow since upTo p.date)) :
    ((steps ((sortByDate (history.filter fun p => inWindow since upTo p.date)).map
        SalesPoint.date)).map (gapBetween 7 (dayKeySet excludedDates))).sum
      = ((inferredGapDays history since upTo \ dayKeySet excludedDates).card : ℤ) := by
  have hexcluded : ∀ k ∈ dayKeySet excludedDates, DAY_MS ∣ k := fun _ => dvd_of_mem_dayKeySet
  have hdates : ∀ c ∈ (sortByDate (history.filter fun p => inWindow since upTo p.date)).map
      SalesPoint.date, DAY_MS ∣ c := by
    intro c hc
    obtain ⟨p, hp, rfl⟩ := List.mem_map.mp hc
    exact hhistory p (List.mem_filter.mp ((perm_sortByDate _).mem_iff.mp hp)).1
  rw [← biUnion_gapOf _ hsells, ← sum_card_steps (gapOf _) (sorted_dates _)]
  · refine Eq.trans ?_ (map_list_sum (Nat.castAddMonoidHom ℤ) _).symm
    rw [List.map_map]
    refine congrArg List.sum (List.map_congr_left fun step hstep => ?_)
    obtain ⟨ha, hb, -⟩ := between_steps (sorted_dates _) hstep
    exact gapBetween_eq_card hexcluded (hdates _ ha) (hdates _ hb)
  · intro step k hk
    exact (mem_gapOf.mp hk).1.2.1

/-- A window that sells too little has no inferred days. -/
theorem inferredGapDays_of_slow (hslow : ¬ (jsRound (daysBetween since upTo) : ℚ) / 2
    ≤ sumQty (history.filter fun p => inWindow since upTo p.date)) :
    inferredGapDays history since upTo = ∅ := by
  refine Finset.filter_false_of_mem fun k _ hk => ?_
  exact hslow hk.2.1

/-- In a window with no more days than its length rounds to, the gap days are the inferred days
that are not excluded: the cap that keeps a day of the window is not reached. -/
theorem gapDaysInWindow_eq_card (hhistory : ∀ p ∈ history, DAY_MS ∣ p.date)
    (excludedDates : List Time)
    (hlength : (((Finset.Ico since upTo).filter (DAY_MS ∣ ·)).card : ℤ)
      ≤ jsRound (daysBetween since upTo)) :
    gapDaysInWindow history since upTo 7 excludedDates
      = ((inferredGapDays history since upTo \ dayKeySet excludedDates).card : ℤ) := by
  by_cases hsells : (jsRound (daysBetween since upTo) : ℚ) / 2
      ≤ sumQty (history.filter fun p => inWindow since upTo p.date)
  swap
  · rw [inferredGapDays_of_slow hsells, Finset.empty_sdiff, Finset.card_empty, gapDaysInWindow]
    dsimp only
    rw [sumQty_sortByDate, if_pos (not_le.mp hsells), ite_self, Nat.cast_zero]
  rcases eq_or_ne (history.filter fun p => inWindow since upTo p.date) [] with hnone | hsome
  · -- without a row there is no gap
    have hempty : inferredGapDays history since upTo = ∅ := by
      simp [inferredGapDays, hnone]
    rw [hempty, Finset.empty_sdiff, Finset.card_empty, gapDaysInWindow, hnone]
    rfl
  -- the day of a row is of the window and not inferred
  obtain ⟨p, hp⟩ := List.exists_mem_of_ne_nil _ hsome
  have hrow := List.mem_filter.mp hp
  have hfewer : (inferredGapDays history since upTo).card
      < ((Finset.Ico since upTo).filter (DAY_MS ∣ ·)).card := by
    refine Finset.card_lt_card ((Finset.ssubset_iff_of_subset ?_).mpr ⟨p.date, ?_, ?_⟩)
    · intro k hk
      obtain ⟨hk, hday, -⟩ := Finset.mem_filter.mp hk
      exact Finset.mem_filter.mpr ⟨hk, hday⟩
    · rw [Finset.mem_filter, Finset.mem_Ico]
      exact ⟨inWindow_eq_true.mp hrow.2, hhistory p hrow.1⟩
    · exact notMem_inferredGapDays hrow.1 hrow.2
  have hle := Finset.card_le_card
    (Finset.sdiff_subset (s := inferredGapDays history since upTo) (t := dayKeySet excludedDates))
  rw [gapDaysInWindow_eq history 7 excludedDates (by omega), if_neg (not_lt.mpr hsells),
    sum_gapBetween hhistory _ hsells]
  exact min_eq_left (by omega)

end Gaps

/-! ## The length of the slice -/

section Length

variable {since upTo : ℤ}

/-- Up to a midnight, a window has no more days than its length rounds to. -/
theorem card_le_jsRound_of_dvd (hupTo : DAY_MS ∣ upTo) (hle : since ≤ upTo) :
    (((Finset.Ico since upTo).filter (DAY_MS ∣ ·)).card : ℤ)
      ≤ jsRound (daysBetween since upTo) := by
  have hpos := dayMs_pos_rat
  obtain ⟨n, rfl⟩ := hupTo
  have hspan : daysBetween since (DAY_MS * n) = n - (since : ℚ) / (DAY_MS : ℚ) := by
    rw [daysBetween]
    push_cast
    field_simp
  have hend : ((DAY_MS * n : ℤ) : ℚ) / (DAY_MS : ℚ) = (n : ℤ) := by
    push_cast
    field_simp
  rw [Int.Ico_filter_dvd_card _ _ dayMs_pos, hend, Int.ceil_intCast, hspan, max_le_iff, le_jsRound,
    le_jsRound]
  have hceil : (since : ℚ) / (DAY_MS : ℚ) ≤ ⌈(since : ℚ) / (DAY_MS : ℚ)⌉ := Int.le_ceil _
  have hafter : (since : ℚ) / (DAY_MS : ℚ) ≤ n := by
    rw [div_le_iff₀ hpos]
    exact_mod_cast (mul_comm DAY_MS n) ▸ hle
  push_cast
  constructor <;> linarith

/-- The part of a window that the snapshots do not reach has no more days than its length rounds
to. -/
theorem card_slice_le {asOf snapshotsSince days : ℤ} (hdays : 0 ≤ days)
    (hsnapshots : DAY_MS ∣ snapshotsSince) (hafter : daysBefore asOf days ≤ snapshotsSince) :
    (((Finset.Ico (daysBefore asOf days) (min snapshotsSince asOf)).filter (DAY_MS ∣ ·)).card : ℤ)
      ≤ jsRound (daysBetween (daysBefore asOf days) (min snapshotsSince asOf)) := by
  rcases le_total snapshotsSince asOf with hle | hle
  · rw [min_eq_left hle]
    exact card_le_jsRound_of_dvd hsnapshots hafter
  · rw [min_eq_right hle, card_dayKeys asOf hdays, daysBetween_daysBefore, jsRound_intCast]

end Length

/-! ## The three counts -/

section Counts

variable {history : List SalesPoint} {stockoutDates : List Time} {snapshotsSince : Option ℤ}

/-- The days that are out of stock or excluded are counted as one set. -/
theorem blockedDaysInWindow_eq_card (hdated : DayDated history stockoutDates snapshotsSince)
    (excludedDates : List Time) (since asOf : ℤ) :
    blockedDaysInWindow stockoutDates excludedDates since asOf
      = (((dayKeySet stockoutDates ∪ dayKeySet excludedDates).filter fun k =>
          inWindow since asOf k).card : ℤ) := by
  rw [blockedDaysInWindow]
  split
  case isTrue hnone =>
    -- without excluded dates the stockout dates are counted as they are listed
    subst hnone
    have hempty : dayKeySet [] = ∅ := rfl
    rw [hempty, Finset.union_empty, dayKeySet_of_midnights hdated.stockouts, censoredDaysInWindow,
      ← List.toFinset_filter, List.toFinset_card_of_nodup (hdated.distinct.filter _)]
  case isFalse => rw [countDayKeysInWindow]

variable (history) in
/-- Days are inferred inside the window, before the snapshots begin. -/
theorem mem_uncoveredDays {since asOf k : ℤ}
    (hk : k ∈ uncoveredDays history since asOf snapshotsSince) :
    (since ≤ k ∧ k < asOf) ∧ DAY_MS ∣ k ∧ ∀ d, (∀ s ∈ snapshotsSince, s ≤ d) → k < d := by
  cases snapshotsSince with
  | none => exact absurd hk (Finset.notMem_empty k)
  | some snapshotsSince =>
      obtain ⟨hwindow, hday, -⟩ := Finset.mem_filter.mp hk
      rw [Finset.mem_Ico, lt_min_iff] at hwindow
      exact ⟨⟨hwindow.1, hwindow.2.2⟩, hday, fun d hd => hwindow.2.1.trans_le (hd _ rfl)⟩

/-- The gap days that the snapshots do not reach are counted without the excluded ones. -/
theorem uncoveredGapDays_eq_card (hdated : DayDated history stockoutDates snapshotsSince)
    (excludedDates : List Time) (asOf : ℤ) {days : ℤ} (hdays : 0 ≤ days) :
    uncoveredGapDays history (daysBefore asOf days) asOf snapshotsSince excludedDates
      = ((uncoveredDays history (daysBefore asOf days) asOf snapshotsSince
          \ dayKeySet excludedDates).card : ℤ) := by
  cases snapshotsSince with
  | none =>
      rw [uncoveredDays, Finset.empty_sdiff]
      rfl
  | some snapshotsSince =>
      rw [uncoveredGapDays, uncoveredDays]
      by_cases hreach : snapshotsSince ≤ daysBefore asOf days
      · -- the snapshots reach back past the window
        have hempty : inferredGapDays history (daysBefore asOf days) (min snapshotsSince asOf)
            = ∅ := by
          rw [inferredGapDays, Finset.Ico_eq_empty (not_lt.mpr (min_le_of_left_le hreach)),
            Finset.filter_empty]
        rw [if_pos hreach, hempty, Finset.empty_sdiff, Finset.card_empty, Nat.cast_zero]
      · rw [if_neg hreach]
        exact gapDaysInWindow_eq_card hdated.history excludedDates
          (card_slice_le hdays (hdated.snapshots _ rfl) (not_le.mp hreach).le)

/-- What the censored rate takes out of a window is the number of its blocked days: a gap is
before the snapshots, so no proven day is inferred as well, and the excluded days are not counted
in a gap. -/
theorem blocked_eq_card (hdated : DayDated history stockoutDates snapshotsSince)
    (excludedDates : List Time) (asOf : ℤ) {days : ℤ} (hdays : 0 ≤ days) :
    blockedDaysInWindow stockoutDates excludedDates (daysBefore asOf days) asOf
        + uncoveredGapDays history (daysBefore asOf days) asOf snapshotsSince excludedDates
      = ((blockedDays history stockoutDates excludedDates (daysBefore asOf days) asOf
          snapshotsSince).card : ℤ) := by
  set since := daysBefore asOf days with hsince
  set known := (dayKeySet stockoutDates ∪ dayKeySet excludedDates).filter fun k =>
    inWindow since asOf k with hknown
  set gaps := uncoveredDays history since asOf snapshotsSince with hgaps
  have hdisjoint : Disjoint known (gaps \ dayKeySet excludedDates) := by
    refine Finset.disjoint_left.mpr fun k hk hgap => ?_
    obtain ⟨hk', hnot⟩ := Finset.mem_sdiff.mp hgap
    rcases Finset.mem_union.mp (Finset.mem_filter.mp hk).1 with hstockout | hexcluded
    · rw [dayKeySet_of_midnights hdated.stockouts, List.mem_toFinset] at hstockout
      exact lt_irrefl k ((mem_uncoveredDays history hk').2.2 k fun s hs =>
        hdated.covered s hs k hstockout)
    · exact hnot hexcluded
  have hunion : blockedDays history stockoutDates excludedDates since asOf snapshotsSince
      = known ∪ gaps \ dayKeySet excludedDates := by
    ext k
    rw [blockedDays, ← hgaps, Finset.filter_union, Finset.mem_union, Finset.mem_union,
      Finset.mem_filter (s := gaps), Finset.mem_sdiff, inWindow_eq_true]
    constructor
    · rintro (hk | ⟨hk, hwindow⟩)
      · exact Or.inl hk
      · by_cases hexcluded : k ∈ dayKeySet excludedDates
        · refine Or.inl (Finset.mem_filter.mpr ⟨Finset.mem_union_right _ hexcluded, ?_⟩)
          exact inWindow_eq_true.mpr hwindow
        · exact Or.inr ⟨hk, hexcluded⟩
    · rintro (hk | ⟨hk, -⟩)
      · exact Or.inl hk
      · exact Or.inr ⟨hk, (mem_uncoveredDays history hk).1⟩
  rw [hunion, Finset.card_union_of_disjoint hdisjoint, Nat.cast_add,
    ← uncoveredGapDays_eq_card hdated excludedDates asOf hdays,
    ← blockedDaysInWindow_eq_card hdated excludedDates since asOf]

/-- A window has no more blocked days than days. -/
theorem card_blockedDays_le (history : List SalesPoint) (stockoutDates excludedDates : List Time)
    (snapshotsSince : Option ℤ) (asOf : ℤ) {days : ℤ} (hdays : 0 ≤ days) :
    ((blockedDays history stockoutDates excludedDates (daysBefore asOf days) asOf
      snapshotsSince).card : ℤ) ≤ days := by
  have hsubset : blockedDays history stockoutDates excludedDates (daysBefore asOf days) asOf
      snapshotsSince ⊆ (Finset.Ico (daysBefore asOf days) asOf).filter (DAY_MS ∣ ·) := by
    intro k hk
    obtain ⟨hk, hwindow⟩ := Finset.mem_filter.mp hk
    rw [inWindow_eq_true] at hwindow
    refine Finset.mem_filter.mpr ⟨Finset.mem_Ico.mpr hwindow, ?_⟩
    rcases Finset.mem_union.mp hk with hkey | hgap
    · rw [Finset.mem_union] at hkey
      rcases hkey with hkey | hkey <;>
        exact dvd_of_mem_dayKeySet hkey
    · exact (mem_uncoveredDays history hgap).2.1
  calc ((blockedDays history stockoutDates excludedDates (daysBefore asOf days) asOf
        snapshotsSince).card : ℤ)
      ≤ ((Finset.Ico (daysBefore asOf days) asOf).filter (DAY_MS ∣ ·)).card := by
        exact_mod_cast Finset.card_le_card hsubset
    _ = days := card_dayKeys asOf hdays

/-- What the censored rate takes out of a window of some days: its days that are out of stock,
excluded or inferred, each once, which are no more than it has. A day is left to divide by. -/
theorem blocked_counted_once (hdated : DayDated history stockoutDates snapshotsSince)
    (excludedDates : List Time) (asOf : ℤ) {days : ℤ} (hdays : 1 ≤ days) :
    let since := daysBefore asOf days
    let blocked := blockedDaysInWindow stockoutDates excludedDates since asOf
      + uncoveredGapDays history since asOf snapshotsSince excludedDates
    blocked = ((blockedDays history stockoutDates excludedDates since asOf snapshotsSince).card : ℤ)
      ∧ blocked ≤ days
      ∧ ∀ saleDays, 1 ≤ effectiveWindowDays days blocked
          (some { inStockDays := days - blocked, saleDays }) := by
  intro since blocked
  have hcard := blocked_eq_card hdated excludedDates asOf (zero_le_one.trans hdays)
  refine ⟨hcard, ?_, fun saleDays => one_le_effectiveWindowDays hdays _ _⟩
  exact hcard.trans_le (card_blockedDays_le history stockoutDates excludedDates snapshotsSince asOf
    (by omega))

/-- A month of which twenty days are before the snapshots: two sales twelve days apart with a
closure between them, a proven day, and one that is both proven and closed. -/
theorem card_blockedDays_month :
    ((blockedDays
      [{ date := 82 * DAY_MS, quantity := 5 }, { date := 70 * DAY_MS, quantity := 10 }]
      [92 * DAY_MS, 95 * DAY_MS] [75 * DAY_MS, 95 * DAY_MS + 1]
      (daysBefore (100 * DAY_MS) 30) (100 * DAY_MS) (some (90 * DAY_MS))).card : ℤ) = 13 :=
  (blocked_counted_once ⟨by decide, by decide, by decide, by decide, by decide⟩
    [75 * DAY_MS, 95 * DAY_MS + 1] (100 * DAY_MS) (by decide)).1.symm.trans (by decide +kernel)

end Counts

end Restock.Forecast
