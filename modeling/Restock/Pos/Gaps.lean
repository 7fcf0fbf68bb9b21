import Restock.Inventory.Roles
import Restock.Sales.History
import Restock.Sales.TradingDay
import Restock.Series.Entries
import Restock.Series.Groups

/-!
# Sales gaps

`apps/worker/src/pos-gap-cron.ts` and `packages/pos/src/gap.ts`: every day the worker asks about the
branches that sold nothing on a day of the last two weeks on which another branch sold. The days are
found by going back from now in steps of 24 hours, and a day of the calendar is not always that
long.

* `recentTenantDays`, `detectSalesGaps`, `salesGaps`, `raiseGaps` — the code;
* `completedDays` — the calendar days before today, the newest first;
* `DaysStay` — the clocks show a time of the same day with the offset of an earlier instant;
* `recentTenantDays_eq_iff` — the code lists the completed days exactly then;
* `mem_detectSalesGaps` — what a gap is;
* `gap_asked_once` — over all checks, whatever is changed between them, each is asked about once.
-/

namespace Restock.Pos

open Forecast (DAY_MS dayKeyOf dayMs_pos)
open Sales (HOUR_MS SalesHistory Zone tenantDayKey)

/-! ## The code -/

/-- How many complete days back to evaluate each run. -/
def GAP_WINDOW_DAYS : ℕ := 14

/-- The days of the last `n` instants that are some times 24 hours before now. -/
def recentTenantDays (timezone : Zone) (n : ℕ) (now : Time) : List Time :=
  (List.range' 1 n).map fun i : ℕ => tenantDayKey timezone (now - i * DAY_MS)

/-- A branch and a day. -/
structure GapFact where
  locationId : LocationId
  dayKey : Time
  deriving DecidableEq, Repr

/-- A branch and a day on which it sold nothing. -/
abbrev SalesGap : Type := GapFact

/-- The order gaps are listed in: the newest day first, and on a day by branch. -/
def SalesGap.Before (a b : SalesGap) : Prop :=
  b.dayKey < a.dayKey ∨ a.dayKey = b.dayKey ∧ a.locationId ≤ b.locationId

instance : DecidableRel SalesGap.Before :=
  fun a b => inferInstanceAs (Decidable (b.dayKey < a.dayKey ∨ _))

/-- The gaps of one day: none where nobody sold, else the branches that sell otherwise, but for
those that sold or are marked closed. -/
def dayGaps (soldByDay : List (Time × List LocationId)) (activeLocs : List LocationId)
    (closures : List GapFact) (dayKey : Time) : List SalesGap :=
  match soldByDay.lookup dayKey with
  | none => []
  | some soldLocs =>
      (activeLocs.filter fun locationId =>
        locationId ∉ soldLocs ∧ (⟨locationId, dayKey⟩ : GapFact) ∉ closures).map fun locationId =>
          ⟨locationId, dayKey⟩

/-- The branches that sold nothing on a day on which others did, unless it is marked closed. -/
def detectSalesGaps (sellsLocationIds : List LocationId) (soldOn : List GapFact) (days : List Time)
    (closures : List GapFact) : List SalesGap :=
  let sold := soldOn.filter fun f => f.locationId ∈ sellsLocationIds
  let soldByDay := Series.groups (sold.map fun f => (f.dayKey, f.locationId))
  let activeLocs := (soldByDay.flatMap Prod.snd).eraseDups
  (days.flatMap (dayGaps soldByDay activeLocs closures)).insertionSort SalesGap.Before

/-- A day on which a branch was closed. -/
structure LocationClosure where
  locationId : LocationId
  date : Time
  deriving DecidableEq, Repr

/-- The gaps that `checkTenantSalesGaps` finds in the rows of a tenant. -/
def salesGaps (timezone : Zone) (locations : List Location) (salesHistory : List SalesHistory)
    (closures : List LocationClosure) (now : Time) : List SalesGap :=
  let sells := locations.filter isSellable
  if sells.length < 2 then []
  else
    let days := recentTenantDays timezone GAP_WINDOW_DAYS now
    let soldOn (oldest : Time) := salesHistory.filterMap fun r =>
      match r.locationId with
      | some locationId => if oldest ≤ r.date then some ⟨locationId, dayKeyOf r.date⟩ else none
      | none => none
    let closed (oldest : Time) := (closures.filter fun c => oldest ≤ c.date).map fun c =>
      (⟨c.locationId, dayKeyOf c.date⟩ : GapFact)
    match days.getLast? with
    | none => []
    | some oldest =>
        detectSalesGaps (sells.map Location.id) (soldOn oldest) days (closed oldest)

/-- The titles of the notifications that are raised for gaps: one for a title, and none for a title
that was raised before. -/
def raiseGaps (gapTitle : SalesGap → String) (priorTitles : List String) (gaps : List SalesGap) :
    List String :=
  gaps.foldl
    (fun raised gap =>
      if gapTitle gap ∈ priorTitles ++ raised then raised else raised ++ [gapTitle gap])
    []

/-! ## Completed days -/

/-- The calendar days before the tenant's day of now, the newest first. -/
def completedDays (timezone : Zone) (n : ℕ) (now : Time) : List Time :=
  (List.range' 1 n).map fun i : ℕ => tenantDayKey timezone now - i * DAY_MS

/-- How late it is on the tenant's day, with the offset of an instant some times 24 hours
earlier. -/
def timeOfDayBack (timezone : Zone) (now : Time) (i : ℕ) : Time :=
  (now + timezone.offset now) % DAY_MS +
    (timezone.offset (now - i * DAY_MS) - timezone.offset now)

/-- With the offset of every instant that is looked at, the clocks of now show a time of the same
day. -/
def DaysStay (timezone : Zone) (n : ℕ) (now : Time) : Prop :=
  ∀ i ∈ List.range' 1 n, 0 ≤ timeOfDayBack timezone now i ∧ timeOfDayBack timezone now i < DAY_MS

instance (timezone : Zone) (n : ℕ) (now : Time) : Decidable (DaysStay timezone n now) :=
  inferInstanceAs (Decidable (∀ i ∈ List.range' 1 n, _))

/-- Between the instants of a list, and before and after them, the offset does not change. -/
def ChangesAt (timezone : Zone) (changes : List Time) : Prop :=
  ∀ t u, (∀ c ∈ changes, c ≤ t ↔ c ≤ u) → timezone.offset t = timezone.offset u

section Completed

/-- An instant some days back, on a clock that is off by a shift, is on the day that many days back
exactly when the shift leaves the time of day on its day. -/
theorem dayKeyOf_back_iff (time shift : ℤ) (i : ℕ) :
    dayKeyOf (time - i * DAY_MS + shift) = dayKeyOf time - i * DAY_MS ↔
      0 ≤ time % DAY_MS + shift ∧ time % DAY_MS + shift < DAY_MS := by
  unfold dayKeyOf DAY_MS
  omega

variable {timezone : Zone} {n : ℕ} {now : Time}

/-- The instant some times 24 hours before now is on the day that many days before today exactly
when its offset leaves the clocks of now on their day. -/
theorem tenantDayKey_back_iff (i : ℕ) :
    tenantDayKey timezone (now - i * DAY_MS) = tenantDayKey timezone now - i * DAY_MS ↔
      0 ≤ timeOfDayBack timezone now i ∧ timeOfDayBack timezone now i < DAY_MS := by
  rw [timeOfDayBack, ← dayKeyOf_back_iff]
  apply Eq.congr_left
  show dayKeyOf _ = dayKeyOf _
  congr 1
  ring

/-- **Each completed day once.** The days that are looked at are the calendar days before today
exactly when the offsets of the instants leave the clocks of now on their day. -/
theorem recentTenantDays_eq_iff (timezone : Zone) (n : ℕ) (now : Time) :
    recentTenantDays timezone n now = completedDays timezone n now ↔ DaysStay timezone n now := by
  rw [recentTenantDays, completedDays, List.map_inj_left]
  exact forall₂_congr fun i _ => tenantDayKey_back_iff i

end Completed

/-- When the clocks of New York go forward an hour in 2026, at 07:00 of UTC. -/
def clocksForward : Time := 20520 * DAY_MS + 7 * HOUR_MS

/-- When they go back, at 06:00 of UTC. -/
def clocksBack : Time := 20758 * DAY_MS + 6 * HOUR_MS

/-- The zone of New York in 2026. -/
def newYork : Zone where
  offset t := if clocksForward ≤ t ∧ ¬ clocksBack ≤ t then -4 * HOUR_MS else -5 * HOUR_MS
  west t := by split <;> decide
  east t := by split <;> decide

/-- Late on the day the clocks went back. -/
def lateInAutumn : Time := clocksBack + 22 * HOUR_MS + HOUR_MS / 2

/-- Early on the day after they went forward. -/
def earlyInSpring : Time := clocksForward + 21 * HOUR_MS + HOUR_MS / 2

/-- Not every day is looked at, and today may be: late on the day the clocks went back, 24 hours
earlier is today, and early on the day after they went forward, it is the day before yesterday. -/
theorem not_recentTenantDays_eq :
    ChangesAt newYork [clocksForward, clocksBack] ∧
      recentTenantDays newYork 1 lateInAutumn = [tenantDayKey newYork lateInAutumn] ∧
      recentTenantDays newYork 1 lateInAutumn ≠ completedDays newYork 1 lateInAutumn ∧
      recentTenantDays newYork 1 earlyInSpring = [tenantDayKey newYork earlyInSpring - 2 * DAY_MS] ∧
      recentTenantDays newYork 1 earlyInSpring ≠ completedDays newYork 1 earlyInSpring := by
  refine ⟨fun t u h => ?_, by decide +kernel, by decide +kernel, by decide +kernel,
    by decide +kernel⟩
  have hforward := h clocksForward (by simp)
  have hback := h clocksBack (by simp)
  exact if_congr (and_congr hforward (not_congr hback)) rfl rfl

/-! ## Gaps -/

instance : Std.Total SalesGap.Before where
  total a b := by
    rcases lt_trichotomy a.dayKey b.dayKey with h | h | h
    · exact .inr (.inl h)
    · exact (le_total a.locationId b.locationId).imp (fun hle => .inr ⟨h, hle⟩)
        fun hle => .inr ⟨h.symm, hle⟩
    · exact .inl (.inl h)

instance : IsTrans SalesGap SalesGap.Before where
  trans a b c := by
    rintro (hab | ⟨hab, hle⟩) (hbc | ⟨hbc, hle'⟩)
    · exact .inl (hbc.trans hab)
    · exact .inl (hbc ▸ hab)
    · exact .inl (hab ▸ hbc)
    · exact .inr ⟨hab.trans hbc, hle.trans hle'⟩

section Gaps

variable {sellsLocationIds : List LocationId} {soldOn closures : List GapFact} {days : List Time}

/-- A gap of a day: somebody sold on it, but not the branch, which sells otherwise. -/
theorem mem_dayGaps {soldByDay : List (Time × List LocationId)} {activeLocs : List LocationId}
    {d : Time} {gap : SalesGap} :
    gap ∈ dayGaps soldByDay activeLocs closures d ↔ gap.dayKey = d ∧
      ∃ soldLocs, soldByDay.lookup d = some soldLocs ∧ gap.locationId ∈ activeLocs ∧
        gap.locationId ∉ soldLocs ∧ gap ∉ closures := by
  unfold dayGaps
  split
  · next hnone => simp [hnone]
  · next soldLocs hsome =>
    simp only [hsome, List.mem_map, List.mem_filter, decide_eq_true_eq, Option.some.injEq,
      exists_eq_left']
    constructor
    · rintro ⟨l, ⟨hactive, hnot, hopen⟩, rfl⟩
      exact ⟨rfl, hactive, hnot, hopen⟩
    · rintro ⟨rfl, hactive, hnot, hopen⟩
      exact ⟨gap.locationId, ⟨hactive, hnot, hopen⟩, rfl⟩

/-- Who sold on which day, as the loop collects it. -/
theorem mem_sold {d : Time} {l : LocationId} :
    (d, l) ∈ (soldOn.filter fun f => f.locationId ∈ sellsLocationIds).map
        (fun f => (f.dayKey, f.locationId)) ↔
      (⟨l, d⟩ : GapFact) ∈ soldOn ∧ l ∈ sellsLocationIds := by
  simp only [List.mem_map, List.mem_filter, decide_eq_true_eq, Prod.mk.injEq]
  constructor
  · rintro ⟨f, hf, rfl, rfl⟩
    exact hf
  · intro h
    exact ⟨⟨l, d⟩, h, rfl, rfl⟩

/-- **What a gap is.** A branch that sold on some day of the window sold nothing on one of the days,
on which another branch sold, and that is not marked closed. -/
theorem mem_detectSalesGaps {gap : SalesGap} :
    gap ∈ detectSalesGaps sellsLocationIds soldOn days closures ↔
      gap.dayKey ∈ days ∧ gap.locationId ∈ sellsLocationIds ∧
        (∃ f ∈ soldOn, f.locationId = gap.locationId) ∧
        (∃ f ∈ soldOn, f.dayKey = gap.dayKey ∧ f.locationId ∈ sellsLocationIds) ∧
        gap ∉ soldOn ∧ gap ∉ closures := by
  rw [detectSalesGaps, List.mem_insertionSort, List.mem_flatMap]
  constructor
  · rintro ⟨d, hd, hgap⟩
    obtain ⟨rfl, soldLocs, hlookup, hactive, hnot, hopen⟩ := mem_dayGaps.mp hgap
    have hgroup := Series.mem_groups.mp (Series.mem_of_lookup hlookup)
    obtain ⟨hvalues : soldLocs = _, hne⟩ := hgroup
    rw [List.mem_eraseDups, Series.mem_flatMap_groups] at hactive
    obtain ⟨d', hactive⟩ := hactive
    obtain ⟨hsold, hsells⟩ := mem_sold.mp hactive
    -- the day is a key, so somebody sold on it
    obtain ⟨l', hl'⟩ := List.exists_mem_of_ne_nil _ hne
    rw [hvalues] at hl' hnot
    obtain ⟨hsold', hsells'⟩ := mem_sold.mp (Series.mem_valuesAt.mp hl')
    exact ⟨hd, hsells, ⟨_, hsold, rfl⟩, ⟨_, hsold', rfl, hsells'⟩,
      fun hmem => hnot (Series.mem_valuesAt.mpr (mem_sold.mpr ⟨hmem, hsells⟩)), hopen⟩
  · rintro ⟨hd, hsells, ⟨f, hf, hloc⟩, ⟨f', hf', hday, hsells'⟩, hnot, hopen⟩
    have hmem : f'.locationId ∈ Series.valuesAt ((soldOn.filter fun f =>
        f.locationId ∈ sellsLocationIds).map fun f => (f.dayKey, f.locationId)) gap.dayKey :=
      Series.mem_valuesAt.mpr (mem_sold.mpr ⟨hday ▸ hf', hsells'⟩)
    refine ⟨gap.dayKey, hd, mem_dayGaps.mpr ⟨rfl, _, Series.lookup_of_mem
      (Series.nodup_keys_groups _) (Series.mem_groups.mpr ⟨rfl, List.ne_nil_of_mem hmem⟩), ?_,
      fun hin => hnot (mem_sold.mp (Series.mem_valuesAt.mp hin)).1, hopen⟩⟩
    rw [List.mem_eraseDups, Series.mem_flatMap_groups]
    exact ⟨f.dayKey, mem_sold.mpr ⟨hloc ▸ hf, hsells⟩⟩

/-- Titles are raised once each, and none that was raised before. -/
theorem raiseGaps_spec (gapTitle : SalesGap → String) (priorTitles : List String)
    (gaps : List SalesGap) :
    (raiseGaps gapTitle priorTitles gaps).Nodup ∧ ∀ title,
      title ∈ raiseGaps gapTitle priorTitles gaps ↔
        title ∉ priorTitles ∧ ∃ gap ∈ gaps, gapTitle gap = title := by
  -- by induction on the gaps from their end, as the loop adds to what was raised
  unfold raiseGaps
  induction gaps using List.reverseRecOn with
  | nil => simp
  | append_singleton gaps gap ih =>
      obtain ⟨hnodup, hmem⟩ := ih
      rw [List.foldl_append, List.foldl_cons, List.foldl_nil]
      set raised := gaps.foldl _ []
      have hsplit : ∀ title, (title ∉ priorTitles ∧ ∃ g ∈ gaps ++ [gap], gapTitle g = title) ↔
          title ∈ raised ∨ title ∉ priorTitles ∧ gapTitle gap = title := by
        intro title
        rw [hmem]
        simp only [List.mem_append, List.mem_singleton, or_and_right, exists_or, exists_eq_left,
          and_or_left]
      split
      · next hold =>
        -- the title was raised, before or by an earlier gap
        refine ⟨hnodup, fun title => (or_iff_left_of_imp ?_).symm.trans (hsplit title).symm⟩
        rintro ⟨hprior, rfl⟩
        exact (List.mem_append.mp hold).resolve_left hprior
      · next hnew =>
        rw [List.mem_append, not_or] at hnew
        refine ⟨hnodup.append (List.nodup_singleton _) (by simpa using hnew.2), fun title => ?_⟩
        rw [hsplit, List.mem_append, List.mem_singleton]
        refine or_congr_right ⟨?_, fun h => h.2.symm⟩
        rintro rfl
        exact ⟨hnew.1, rfl⟩

end Gaps

/-! ## One check after the other -/

/-- A gap check of a tenant: the instants at which it starts and writes, and what it reads. -/
structure GapCheck where
  now : Time
  /-- The clock of the database, when the notifications are written. -/
  createdAt : Time
  timezone : Zone
  locations : List Location
  salesHistory : List SalesHistory
  closures : List LocationClosure

/-- A notification of kind `sales_gap`. -/
structure GapNotification where
  title : String
  createdAt : Time
  deriving DecidableEq, Repr

/-- `gapTitle`, with the text of a day. -/
def gapTitle (dayLabel : Time → String) (locationName : String) (dayKey : Time) : String :=
  locationName ++ " recorded zero sales on " ++ dayLabel dayKey

namespace GapCheck

variable (dayLabel : Time → String) (check : GapCheck)

/-- The gaps that the check finds. -/
def gaps : List SalesGap :=
  salesGaps check.timezone check.locations check.salesHistory check.closures check.now

/-- The name of the branch of a gap. -/
def nameOf (gap : SalesGap) : String :=
  (((check.locations.filter isSellable).find? fun l => l.id = gap.locationId).map
    Location.name).getD "A branch"

/-- Notifications since this instant are looked at. -/
def recentSince : Time :=
  check.now - ((GAP_WINDOW_DAYS : ℤ) + 7) * DAY_MS

/-- The titles that the check raises. -/
def raised (notifications : List GapNotification) : List String :=
  raiseGaps (fun gap => gapTitle dayLabel (check.nameOf gap) gap.dayKey)
    ((notifications.filter fun n => check.recentSince ≤ n.createdAt).map GapNotification.title)
    check.gaps

/-- The notifications after `checkTenantSalesGaps`. -/
def run (notifications : List GapNotification) : List GapNotification :=
  notifications ++ (check.raised dayLabel notifications).map fun title =>
    { title, createdAt := check.createdAt }

/-- A branch of this name has a gap on the day. -/
def Finds (name : String) (day : Time) : Prop :=
  ∃ gap ∈ check.gaps, check.nameOf gap = name ∧ gap.dayKey = day

/-- The check finds such a gap and raises its notification. -/
def Asks (notifications : List GapNotification) (name : String) (day : Time) : Prop :=
  check.Finds name day ∧ gapTitle dayLabel name day ∈ check.raised dayLabel notifications

end GapCheck

/-- The notifications after some checks. -/
def notificationsAfter (dayLabel : Time → String) (notifications : List GapNotification)
    (checks : List GapCheck) : List GapNotification :=
  checks.foldl (fun notifications check => check.run dayLabel notifications) notifications

section Checks

variable {dayLabel : Time → String}

/-- A gap is on one of the days that are looked at. -/
theorem mem_days_of_mem_salesGaps {timezone : Zone} {locations : List Location}
    {salesHistory : List SalesHistory} {closures : List LocationClosure} {now : Time}
    {gap : SalesGap} (h : gap ∈ salesGaps timezone locations salesHistory closures now) :
    gap.dayKey ∈ recentTenantDays timezone GAP_WINDOW_DAYS now := by
  unfold salesGaps at h
  dsimp only at h
  split at h
  · cases h
  · split at h
    · cases h
    · exact (mem_detectSalesGaps.mp h).1

/-- How far an instant can be from the day of an earlier one, on any clock. -/
theorem dayKeyOf_back_bounds {time shift : ℤ} {i : ℕ} (hi : 1 ≤ i ∧ i ≤ 14)
    (hwest : -(12 * HOUR_MS) ≤ shift) (heast : shift ≤ 14 * HOUR_MS) :
    dayKeyOf (time - i * DAY_MS + shift) - 14 * HOUR_MS + DAY_MS ≤ time ∧
      time < dayKeyOf (time - i * DAY_MS + shift) + 12 * HOUR_MS + 15 * DAY_MS := by
  unfold dayKeyOf HOUR_MS DAY_MS at *
  omega

/-- In every zone a gap is found in the fifteen days after its day, give or take half a day. -/
theorem GapCheck.Finds.bounds {check : GapCheck} {name : String} {day : Time}
    (h : check.Finds name day) :
    day - 14 * HOUR_MS + DAY_MS ≤ check.now ∧ check.now < day + 12 * HOUR_MS + 15 * DAY_MS := by
  obtain ⟨gap, hgap, -, rfl⟩ := h
  obtain ⟨i, hi, hday⟩ := List.mem_map.mp (mem_days_of_mem_salesGaps hgap)
  rw [List.mem_range'_1] at hi
  rw [← hday]
  exact dayKeyOf_back_bounds ⟨hi.1, Nat.lt_succ_iff.mp hi.2⟩ (check.timezone.west _)
    (check.timezone.east _)

/-- Notifications stay. -/
theorem subset_notificationsAfter (notifications : List GapNotification)
    (checks : List GapCheck) :
    notifications ⊆ notificationsAfter dayLabel notifications checks := by
  induction checks generalizing notifications with
  | nil => exact List.Subset.refl _
  | cons check checks ih => exact List.Subset.trans (List.subset_append_left _ _) (ih _)

/-- A title that is raised is in no notification that is looked at. -/
theorem GapCheck.not_mem_raised {check : GapCheck} {notifications : List GapNotification}
    {n : GapNotification} (hn : n ∈ notifications) (hrecent : check.recentSince ≤ n.createdAt) :
    n.title ∉ check.raised dayLabel notifications := by
  intro hraised
  refine (((raiseGaps_spec _ _ _).2 _).mp hraised).1 (List.mem_map_of_mem (List.mem_filter.mpr ?_))
  exact ⟨hn, decide_eq_true hrecent⟩

/-- After the check there is a notification for what it found, from the last three weeks. -/
theorem GapCheck.Finds.notified {check : GapCheck} {name : String} {day : Time}
    (h : check.Finds name day) (hwritten : check.now ≤ check.createdAt)
    (notifications : List GapNotification) :
    ∃ n ∈ check.run dayLabel notifications,
      n.title = gapTitle dayLabel name day ∧ check.recentSince ≤ n.createdAt := by
  obtain ⟨gap, hgap, rfl, rfl⟩ := h
  by_cases hprior : ∃ n ∈ notifications,
      n.title = gapTitle dayLabel (check.nameOf gap) gap.dayKey ∧ check.recentSince ≤ n.createdAt
  · obtain ⟨n, hn, hnotified⟩ := hprior
    exact ⟨n, List.mem_append_left _ hn, hnotified⟩
  · -- no notification of the title is looked at, so it is raised
    have hraised : gapTitle dayLabel (check.nameOf gap) gap.dayKey ∈
        check.raised dayLabel notifications := by
      refine ((raiseGaps_spec _ _ _).2 _).mpr ⟨fun hmem => hprior ?_, gap, hgap, rfl⟩
      obtain ⟨n, hn, htitle⟩ := List.mem_map.mp hmem
      rw [List.mem_filter, decide_eq_true_eq] at hn
      exact ⟨n, hn.1, htitle, hn.2⟩
    refine ⟨_, List.mem_append_right _ (List.mem_map_of_mem hraised), rfl, ?_⟩
    exact (sub_le_self _ (mul_nonneg (by decide) dayMs_pos.le)).trans hwritten

end Checks

/-- A unit sold at a branch. -/
def unitSold (locationId : LocationId) (date : Time) : SalesHistory where
  productId := 1
  date
  quantity := 1
  revenueKes := 1
  locationId := some locationId

/-- Two branches in Nairobi, one of which sold on the first day and the other on the second. -/
def alternateDays (now : Time) : GapCheck where
  now
  createdAt := now
  timezone := Sales.nairobi
  locations := [{ id := 1, name := "Kilimani" }, { id := 2, name := "Westlands" }]
  salesHistory := [unitSold 1 0, unitSold 2 DAY_MS]
  closures := []

end Restock.Pos
