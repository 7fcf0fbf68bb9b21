import Restock.Forecast.AsShown

/-!
# Every day is scored once

The accuracy trail over time. A run recommends for the current day, sales of any day come in, and
now and then `recordAsShownAccuracy` is called. By the time a day can be scored nothing more is
recommended for it.

* `AccuracyEvent`, `AccuracyTables.run` — what happens, one after the other;
* `asShownOf_step`, `recommendations_step` — what one event does to the rows and to the
  recommendations of a day;
* `ScoredOnce` — a day is scored by one call, by all its recommendations, and its rows stay;
* `scored_once` — so is every day whose horizon has passed at a call.
-/

namespace Restock.Forecast

/-! ## Events -/

/-- What happens to the tables. -/
inductive AccuracyEvent
  /-- A run recommends a product. -/
  | recommend (productId : ProductId) (finalForecast30d : ℚ) (abcClass : Option String)
  /-- A sale is stored. -/
  | sell (row : SaleRow)
  /-- `recordAsShownAccuracy`. -/
  | score
  deriving DecidableEq, Repr

/-- History only ever grows forward: a product that was recommended that day is skipped. -/
def AccuracyTables.recommend (db : AccuracyTables) (rec : ForecastRecommendation) :
    AccuracyTables :=
  if ∃ r ∈ db.recommendations, r.productId = rec.productId ∧ r.runDate = rec.runDate then db
  else { db with recommendations := db.recommendations ++ [rec] }

/-- The tables after an event at an instant; a recommendation is dated the current day. -/
def AccuracyTables.step (db : AccuracyTables) (e : Time × AccuracyEvent) : AccuracyTables :=
  match e.2 with
  | .recommend productId finalForecast30d abcClass =>
      db.recommend { productId, runDate := dayKeyOf e.1, finalForecast30d, abcClass }
  | .sell row => { db with sales := db.sales ++ [row] }
  | .score => (recordAsShownAccuracy db e.1).2

/-- The tables after some events. -/
def AccuracyTables.run (db : AccuracyTables) (events : List (Time × AccuracyEvent)) :
    AccuracyTables :=
  events.foldl AccuracyTables.step db

/-- The `as_shown` rows of a day. -/
def AccuracyTables.asShownOf (db : AccuracyTables) (day : Time) : List BacktestRun :=
  db.backtestRuns.filter fun row => row.tag = some AS_SHOWN_TAG ∧ row.runDate = day

/-- Nothing has been recommended or scored yet. -/
structure AccuracyTables.Fresh (db : AccuracyTables) : Prop where
  recommendations : db.recommendations = []
  scored : scoredDays db = []

/-- No product is recommended twice on a day. -/
def AccuracyTables.Distinct (db : AccuracyTables) : Prop :=
  db.recommendations.Pairwise fun r r' => ¬ (r.productId = r'.productId ∧ r.runDate = r'.runDate)

namespace AccuracyTables

variable {db : AccuracyTables} {events : List (Time × AccuracyEvent)} {day now : Time}

theorem run_append (db : AccuracyTables) (before later : List (Time × AccuracyEvent)) :
    db.run (before ++ later) = (db.run before).run later :=
  List.foldl_append

theorem run_concat (db : AccuracyTables) (before : List (Time × AccuracyEvent))
    (e : Time × AccuracyEvent) : db.run (before ++ [e]) = (db.run before).step e :=
  run_append db before [e]

/-! ## One event -/

/-- A day carries rows when it is scored. -/
theorem asShownOf_ne_nil : db.asShownOf day ≠ [] ↔ day ∈ scoredDays db := by
  rw [asShownOf, Ne, List.filter_eq_nil_iff, scoredDays, List.mem_map]
  push Not
  simp [and_assoc]

/-- What an event writes for a day: only a call writes. -/
def writtenBy (db : AccuracyTables) (e : Time × AccuracyEvent) (day : Time) : List BacktestRun :=
  match e.2 with
  | .score => writtenFor db e.1 day
  | _ => []

/-- An event appends what it writes to the rows of a day. -/
theorem asShownOf_step (e : Time × AccuracyEvent) :
    (db.step e).asShownOf day = db.asShownOf day ++ db.writtenBy e day := by
  obtain ⟨now, e⟩ := e
  cases e with
  | recommend productId finalForecast30d abcClass =>
      show (db.recommend _).asShownOf day = db.asShownOf day ++ []
      rw [recommend, List.append_nil]
      split <;> rfl
  | sell row => exact (List.append_nil _).symm
  | score =>
      show (recordAsShownAccuracy db now).2.asShownOf day
        = db.asShownOf day ++ writtenFor db now day
      rw [recordAsShownAccuracy_tables, asShownOf, asShownOf, List.filter_append, writtenFor]
      refine congrArg _ (List.filter_congr fun row hrow => ?_)
      -- every row a call writes carries the tag
      simp [tag_of_mem_asShownRows hrow]

/-- A scored day stays so. -/
theorem mem_scoredDays_step (e : Time × AccuracyEvent) (h : day ∈ scoredDays db) :
    day ∈ scoredDays (db.step e) := by
  rw [← asShownOf_ne_nil] at h ⊢
  rw [asShownOf_step]
  exact List.append_ne_nil_of_left_ne_nil h _

/-- Nothing more is written for a scored day. -/
theorem writtenBy_eq_nil (e : Time × AccuracyEvent) (h : day ∈ scoredDays db) :
    db.writtenBy e day = [] := by
  obtain ⟨now, e⟩ := e
  cases e with
  | recommend => rfl
  | sell => rfl
  | score => exact writtenFor_eq_nil h

/-- Once the horizon of a day has passed it is not the current day. -/
theorem ne_dayKeyOf_of_elapsed (helapsed : horizonEnd day ≤ now) : dayKeyOf now ≠ day := by
  rintro rfl
  have hlt := (dayKeyOf_le now).2
  rw [horizonEnd] at helapsed
  have hhorizon : (0 : ℤ) ≤ (AS_SHOWN_HORIZON_DAYS - 1) * DAY_MS := by decide
  linarith

/-- Once the horizon of a day has passed nothing is recommended for it. -/
theorem recommendations_step (e : Time × AccuracyEvent) (helapsed : horizonEnd day ≤ e.1) :
    ((db.step e).recommendations.filter fun r => r.runDate = day)
      = db.recommendations.filter fun r => r.runDate = day := by
  obtain ⟨now, e⟩ := e
  cases e with
  | recommend productId finalForecast30d abcClass =>
      have hlater : dayKeyOf now ≠ day := ne_dayKeyOf_of_elapsed helapsed
      show ((db.recommend _).recommendations.filter fun r => r.runDate = day) = _
      rw [recommend]
      split
      case isTrue => rfl
      case isFalse => simp [List.filter_append, hlater]
  | sell row => rfl
  | score =>
      show ((recordAsShownAccuracy db now).2.recommendations.filter fun r => r.runDate = day) = _
      rw [recordAsShownAccuracy_tables]

/-- An event keeps the recommendations of a day distinct. -/
theorem Distinct.step (h : db.Distinct) (e : Time × AccuracyEvent) : (db.step e).Distinct := by
  obtain ⟨now, e⟩ := e
  cases e with
  | recommend productId finalForecast30d abcClass =>
      show (db.recommend _).Distinct
      rw [recommend]
      split
      case isTrue => exact h
      case isFalse hnew =>
        refine List.pairwise_append.mpr ⟨h, List.pairwise_singleton _ _, ?_⟩
        intro r hr r' hr' hsame
        obtain rfl := List.mem_singleton.mp hr'
        exact hnew ⟨r, hr, hsame⟩
  | sell row => exact h
  | score =>
      show (recordAsShownAccuracy db now).2.Distinct
      rw [recordAsShownAccuracy_tables]
      exact h

/-! ## Several events -/

/-- A scored day stays so, with the rows that it has. -/
theorem asShownOf_run (h : day ∈ scoredDays db) (events : List (Time × AccuracyEvent)) :
    day ∈ scoredDays (db.run events) ∧ (db.run events).asShownOf day = db.asShownOf day := by
  induction events generalizing db with
  | nil => exact ⟨h, rfl⟩
  | cons e events ih =>
      obtain ⟨hscored, hrows⟩ := ih (mem_scoredDays_step e h)
      refine ⟨hscored, hrows.trans ?_⟩
      rw [asShownOf_step, writtenBy_eq_nil e h, List.append_nil]

/-- The recommendations of a day whose horizon has passed are the same from then on. -/
theorem recommendations_run (helapsed : ∀ e ∈ events, horizonEnd day ≤ e.1)
    (db : AccuracyTables) : ((db.run events).recommendations.filter fun r => r.runDate = day)
      = db.recommendations.filter fun r => r.runDate = day := by
  induction events generalizing db with
  | nil => rfl
  | cons e events ih =>
      have hrest := ih (fun e' he' => helapsed e' (List.mem_cons_of_mem _ he')) (db.step e)
      exact hrest.trans (recommendations_step e (helapsed e List.mem_cons_self))

/-- The recommendations of a day stay distinct. -/
theorem Distinct.run (h : db.Distinct) (events : List (Time × AccuracyEvent)) :
    (db.run events).Distinct := by
  induction events generalizing db with
  | nil => exact h
  | cons e events ih => exact ih (h.step e)

/-- Among distinct recommendations, those of a day are of distinct products. -/
theorem Distinct.nodup_products (h : db.Distinct) (day : Time) (key : String) :
    ((adviceOf db.recommendations day key).map ForecastRecommendation.productId).Nodup := by
  refine List.pairwise_map.mpr ((h.filter _).imp_of_mem fun {r r'} hr hr' hdistinct hsame => ?_)
  have hday := of_decide_eq_true (List.mem_filter.mp hr).2
  have hday' := of_decide_eq_true (List.mem_filter.mp hr').2
  exact hdistinct ⟨hsame, hday.1.trans hday'.1.symm⟩

/-- A day that is scored in the end was scored by a call, before which it was not. -/
theorem exists_call (hnew : day ∉ scoredDays db) (h : day ∈ scoredDays (db.run events)) :
    ∃ before now later, events = before ++ (now, .score) :: later
      ∧ day ∉ scoredDays (db.run before) ∧ writtenFor (db.run before) now day ≠ [] := by
  induction events using List.reverseRecOn with
  | nil => exact absurd h hnew
  | append_singleton events e ih =>
      by_cases hbefore : day ∈ scoredDays (db.run events)
      · obtain ⟨before, now, later, rfl, hcall⟩ := ih hbefore
        exact ⟨before, now, later ++ [e], by simp, hcall⟩
      · -- the last event scored it
        have hnone := not_not.mp (mt asShownOf_ne_nil.mp hbefore)
        rw [run_concat, ← asShownOf_ne_nil, asShownOf_step, hnone, List.nil_append] at h
        obtain ⟨now, e⟩ := e
        cases e with
        | recommend => exact absurd rfl h
        | sell => exact absurd rfl h
        | score => exact ⟨events, now, [], rfl, hbefore, h⟩

/-! ## Runs -/

/-- In a run, a day is scored by this call and by no other: once its horizon has passed, by all
that is ever recommended for it, each product once, and by the sales that are stored at the call.
Its rows are never altered, and none is added. -/
structure ScoredOnce (db : AccuracyTables) (events : List (Time × AccuracyEvent)) (day : Time)
    (before : List (Time × AccuracyEvent)) (now : Time) (later : List (Time × AccuracyEvent)) :
    Prop where
  call : events = before ++ (now, .score) :: later
  elapsed : horizonEnd day ≤ now
  rows : DayScored (db.run events).recommendations (db.run before).sales day
    (writtenFor (db.run before) now day)
  shop : adviceOf (db.run events).recommendations day "ALL" ≠ []
  products : ∀ key, ((adviceOf (db.run events).recommendations day key).map
    ForecastRecommendation.productId).Nodup
  only : ∀ before' now' later', events = before' ++ (now', .score) :: later' →
    writtenFor (db.run before') now' day ≠ [] → before' = before
  kept : ∀ more, more <+: later →
    (db.run (before ++ (now, .score) :: more)).asShownOf day = writtenFor (db.run before) now day

/-- A call that writes rows for a day scores it. -/
theorem mem_scoredDays_of_written (h : writtenFor db now day ≠ []) :
    day ∈ scoredDays (db.step (now, .score)) := by
  rw [← asShownOf_ne_nil, asShownOf_step]
  exact List.append_ne_nil_of_right_ne_nil _ h

/-- After a call that writes rows for a day no other call does. -/
theorem writtenFor_after (before mid : List (Time × AccuracyEvent)) (now' : Time)
    (h : writtenFor (db.run before) now day ≠ []) :
    writtenFor (db.run (before ++ (now, .score) :: mid)) now' day = [] := by
  refine writtenFor_eq_nil ?_
  rw [run_append]
  exact (asShownOf_run (mem_scoredDays_of_written h) mid).1

/-- Calls that both write rows for a day are the same call. -/
theorem eq_of_written {before before' later later' : List (Time × AccuracyEvent)} {now now' : Time}
    (hsplit : before ++ (now, .score) :: later = before' ++ (now', .score) :: later')
    (h : writtenFor (db.run before) now day ≠ []) (h' : writtenFor (db.run before') now' day ≠ []) :
    before' = before := by
  rcases List.append_eq_append_iff.mp hsplit with ⟨mid, rfl, hmid⟩ | ⟨mid, rfl, hmid⟩
  · cases mid with
    | nil => exact List.append_nil before
    | cons e mid =>
        -- the other call would come after this one
        obtain ⟨rfl, -⟩ := List.cons.inj hmid
        exact absurd (writtenFor_after before mid now' h) h'
  · cases mid with
    | nil => exact (List.append_nil before').symm
    | cons e mid =>
        obtain ⟨rfl, -⟩ := List.cons.inj hmid
        exact absurd (writtenFor_after before' mid now h') h

/-- From a call on nothing is recommended any more for a day whose horizon has passed by then. -/
theorem recommendations_at_call (htimes : events.Pairwise fun e e' => e.1 ≤ e'.1)
    {before later : List (Time × AccuracyEvent)}
    (hcall : events = before ++ (now, .score) :: later) (helapsed : horizonEnd day ≤ now)
    (db : AccuracyTables) :
    ((db.run events).recommendations.filter fun r => r.runDate = day)
      = (db.run before).recommendations.filter fun r => r.runDate = day := by
  subst hcall
  obtain ⟨-, hlater, -⟩ := List.pairwise_append.mp htimes
  rw [run_append]
  refine recommendations_run (fun e he => ?_) _
  rcases List.mem_cons.mp he with rfl | he
  · exact helapsed
  · exact helapsed.trans ((List.pairwise_cons.mp hlater).1 e he)

/-- After a call at which the horizon of a day has passed the day is scored. -/
theorem scored_after_call (htimes : events.Pairwise fun e e' => e.1 ≤ e'.1)
    (hday : ∃ r ∈ (db.run events).recommendations, r.runDate = day)
    {before later : List (Time × AccuracyEvent)}
    (hcall : events = before ++ (now, .score) :: later) (helapsed : horizonEnd day ≤ now) :
    day ∈ scoredDays (db.run (before ++ [(now, .score)])) := by
  rw [run_concat]
  by_cases hscored : day ∈ scoredDays (db.run before)
  · exact mem_scoredDays_step _ hscored
  · obtain ⟨r, hr, hrday⟩ := hday
    have hmem : r ∈ (db.run before).recommendations.filter fun r => r.runDate = day := by
      rw [← recommendations_at_call htimes hcall helapsed db]
      exact List.mem_filter.mpr ⟨hr, decide_eq_true hrday⟩
    refine mem_scoredDays_of_written (writtenFor_ne_nil.mpr ⟨⟨helapsed, hscored⟩, r, ?_, hrday⟩)
    exact (List.mem_filter.mp hmem).1

end AccuracyTables

open AccuracyTables

/-- Every day with recommendations whose horizon has passed at some call is scored once. -/
theorem scored_once {db : AccuracyTables} (hfresh : db.Fresh)
    {events : List (Time × AccuracyEvent)} (htimes : events.Pairwise fun e e' => e.1 ≤ e'.1)
    {day : Time} (hday : ∃ r ∈ (db.run events).recommendations, r.runDate = day)
    (now : Time) (hcall : (now, .score) ∈ events) (helapsed : horizonEnd day ≤ now) :
    ∃ before now later, ScoredOnce db events day before now later := by
  obtain ⟨before, later, hcall⟩ := List.append_of_mem hcall
  obtain ⟨pre, now₁, mid, hprefix, hnew, hwritten⟩ :=
    exists_call (hfresh.scored ▸ List.not_mem_nil) (scored_after_call htimes hday hcall helapsed)
  have hsplit : events = pre ++ (now₁, .score) :: (mid ++ later) := by
    rw [hcall, List.append_cons, hprefix]
    simp
  have hdue := writtenFor_ne_nil.mp hwritten
  have hrecs := recommendations_at_call htimes hsplit hdue.1.1 db
  have hshop : adviceOf (db.run events).recommendations day "ALL" ≠ [] := by
    obtain ⟨r, hr, hrday⟩ := hday
    exact List.ne_nil_of_mem (List.mem_filter.mpr ⟨hr, by simp [hrday]⟩)
  refine ⟨pre, now₁, mid ++ later, hsplit, hdue.1.1,
    (dayScored_writtenFor hdue.1 hdue.2).congr hrecs.symm, hshop, ?_, ?_, ?_⟩
  · have hstart : db.Distinct := by
      rw [Distinct, hfresh.recommendations]
      exact List.Pairwise.nil
    exact (hstart.run events).nodup_products day
  · intro before' now' later' hsplit' h'
    exact eq_of_written (hsplit.symm.trans hsplit') hwritten h'
  · intro more _
    rw [run_append]
    refine (asShownOf_run (mem_scoredDays_of_written hwritten) more).2.trans ?_
    -- before the call the day had no rows
    rw [asShownOf_step, not_not.mp (mt asShownOf_ne_nil.mp hnew), List.nil_append]
    rfl

/-- A day with two recommendations, a sale on the last day of its horizon and one after it, and
two calls with a sale that comes in between them. -/
theorem scored_once_of_two :
    ∃ before now later, ScoredOnce {}
      [(0, .recommend 1 100 (some "A")), (3, .recommend 2 20 none),
        (5 * DAY_MS, .sell { date := 29 * DAY_MS, quantity := 80, productId := 1 }),
        (6 * DAY_MS, .sell { date := 30 * DAY_MS, quantity := 5, productId := 1 }),
        (30 * DAY_MS, .score),
        (31 * DAY_MS, .sell { date := DAY_MS, quantity := 7, productId := 2 }),
        (31 * DAY_MS, .score)]
      0 before now later :=
  scored_once ⟨rfl, rfl⟩ (by decide) ⟨_, List.mem_cons_self, rfl⟩ (31 * DAY_MS) (by simp)
    (by decide)

end Restock.Forecast
