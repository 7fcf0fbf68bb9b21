import Restock.Sales.OrderSync

/-!
# The history follows the shop

`apps/worker/src/shopify-sync.ts`, its orders over time. A sync pulls what was updated since a
while before the last one that went through; the first sync, and now and then a later one, goes
further back. The shop goes on meanwhile, and a sync can be lost anywhere. The pulls of a sync are
of one instant here, and the catalogue stays.

* `Source.step` — the syncs of a shop, one at a time;
* `Source.Follows` — a day that was read shows what its orders come to;
* `Feed.covered` — a sync that goes through reaches back to the last one, and those lost since;
* `follows_of_covered` — such syncs follow the shop; `not_follows` — others need not.
-/

namespace Restock.Sales

open Forecast (DAY_MS)
open Store (Session Program)

/-! ## Syncs -/

/-- The rows of a day from the shop. -/
def SalesDb.historyOn (db : SalesDb) (day : Time) : List SalesHistory :=
  db.salesHistory.rows.filter (shopifyOn [day])

/-- Hours that a window starts before the last sync. -/
def OVERLAP_HOURS : ℤ := 6

/-- How far back the first sync goes. -/
def FIRST_RUN_ORDER_LOOKBACK_DAYS : ℤ := 365

/-- How often recent sales are reconciled. -/
def RECONCILE_EVERY_MS : ℤ := 24 * 3600000

/-- How far back they are. -/
def RECONCILE_DAYS : ℤ := 35

/-- Day-aligned start of a sync window. -/
def computeWindowStart (cursor : Option Time) (now : Time)
    (overlapHours firstRunLookbackDays : ℤ) : Time :=
  Forecast.dayKeyOf <| match cursor with
    | some cursor => cursor - overlapHours * 3600000
    | none => now - firstRunLookbackDays * DAY_MS

/-- A sync under way. -/
structure SyncRun where
  runStart : Time
  rebuild : Bool
  reconcile : Bool
  ordersSince : Time
  pulledAt : Option Time := none

/-- The history of a shop, and what its syncs have left. -/
structure Feed where
  db : SalesDb
  now : Time
  ordersCursor : Option Time := none
  /-- `RECONCILE_MARKER`. -/
  lastReconcile : Option Time := none
  /-- The marker of the sync logic is set. -/
  rebuilt : Bool := false
  run : Option SyncRun := none
  /-- The window of the first sync that went through. -/
  since : Time := 0
  /-- The windows of the syncs that were lost since one went through. -/
  lost : List Time := []

/-- What happens to a feed. -/
inductive FeedStep
  | wait (ms : ℕ)
  /-- A new `SYNC_LOGIC_VERSION`. -/
  | release
  | start
  | pull
  /-- The sync is lost after some of its steps. -/
  | lose (steps : ℕ)
  /-- The sync goes through, and sets so many of its markers. -/
  | complete (marks : ℕ)

namespace Feed

variable (s : Feed)

/-- A sync that starts now. -/
def begun : SyncRun :=
  let rebuild := !s.rebuilt
  let reconcile := !rebuild && s.lastReconcile.all fun last => RECONCILE_EVERY_MS ≤ s.now - last
  let ordersSince := computeWindowStart (if rebuild then none else s.ordersCursor) s.now
    OVERLAP_HOURS FIRST_RUN_ORDER_LOOKBACK_DAYS
  let reconcileFrom := computeWindowStart (some (s.now - RECONCILE_DAYS * DAY_MS)) s.now 0
    RECONCILE_DAYS
  { runStart := s.now, rebuild, reconcile
    ordersSince := if reconcile then min reconcileFrom ordersSince else ordersSince }

/-- A sync is lost, with what it left of the days of its window. -/
def losing (run : SyncRun) (db : SalesDb) : Feed :=
  { s with db, run := none, lost := run.ordersSince :: s.lost }

/-- A sync went through. -/
def synced (run : SyncRun) (marks : ℕ) (db : SalesDb) : Feed :=
  { s with
    db, run := none, lost := []
    ordersCursor := some run.runStart
    since := if s.ordersCursor.isNone then run.ordersSince else s.since
    lastReconcile :=
      if 0 < marks ∧ (run.rebuild || run.reconcile) then some run.runStart else s.lastReconcile
    rebuilt := s.rebuilt || run.rebuild && 1 < marks }

/-- What goes through reaches back to the last sync that did, and as far as those lost since. -/
def covered : FeedStep → Bool
  | .complete _ => s.run.all fun run =>
      (s.ordersCursor.toList ++ s.lost).all fun t => run.ordersSince ≤ t
  | _ => true

/-- Unless it is a rebuild, a sync does reach back to the last one. -/
theorem ordersSince_begun_le {s : Feed} (h : s.rebuilt) {cursor : Time}
    (hcursor : s.ordersCursor = some cursor) : s.begun.ordersSince ≤ cursor := by
  have hle := (Forecast.dayKeyOf_le (cursor - OVERLAP_HOURS * 3600000)).1.trans
    (sub_le_self _ (by decide))
  simp only [begun, h, hcursor, Bool.not_true, Bool.false_eq_true, if_false]
  split
  · exact (min_le_right _ _).trans hle
  · exact hle

end Feed

/-! ## A shop over time -/

/-- A shop over time, and what a sync uses to read it. -/
structure Source where
  shop : Time → Shop
  newDate : String → Option Time
  parseFloat : String → Option ℚ
  catalogue : Catalogue
  timezone : Zone

namespace Source

section Days

variable (S : Source) (t day since : Time)

/-- The trading day of an order. -/
def saleDay (order : ShopifyOrderNode) : Option Time :=
  order.saleDay S.newDate (tenantDayKey S.timezone)

/-- The orders of a trading day, as they are at an instant. -/
def ordersOn : List ShopifyOrderNode :=
  (S.shop t).orders.filter fun order => S.saleDay order = some day

/-- The rows that orders come to. -/
def rows (orders : List ShopifyOrderNode) : List SalesHistory :=
  (bucketSalesByProductDay S.newDate S.parseFloat (tenantDayKey S.timezone) S.catalogue orders).map
    bucketRow

/-- No order of the day was updated since. -/
def Quiet : Prop :=
  ∀ order ∈ S.ordersOn t day, (S.shop t).updatedAt order.id < since

variable {S t day since} in
theorem Quiet.mono (h : S.Quiet t day since) {later : Time} (hle : since ≤ later) :
    S.Quiet t day later :=
  fun order horder => (h order horder).trans_le hle

/-- The pulls of an instant. -/
def api : ShopifySyncApi :=
  ⟨(S.shop t).changedSince, (S.shop t).soldBetween S.newDate⟩

end Days

/-- An order that was not updated since is what it was then, and orders stay, as does the date of a
sale. -/
structure Evolves (S : Source) : Prop where
  updatedSinceSale : ∀ t, (S.shop t).UpdatedSinceSale S.newDate
  settled : ∀ {t t'}, t ≤ t' → ∀ order ∈ (S.shop t').orders, (S.shop t').updatedAt order.id < t →
    order ∈ (S.shop t).orders ∧ (S.shop t).updatedAt order.id = (S.shop t').updatedAt order.id
  stays : ∀ {t t'}, t ≤ t' → ∀ order ∈ (S.shop t).orders, ∃ later ∈ (S.shop t').orders,
    later.id = order.id ∧ later.saleAt = order.saleAt ∧
      (S.shop t).updatedAt order.id ≤ (S.shop t').updatedAt order.id

section Evolution

variable {S : Source} {t t' day since : Time}

theorem mem_ordersOn {order : ShopifyOrderNode} :
    order ∈ S.ordersOn t day ↔ order ∈ (S.shop t).orders ∧ S.saleDay order = some day := by
  rw [ordersOn, List.mem_filter, decide_eq_true_eq]

theorem nodup_ordersOn : (S.ordersOn t day).Nodup :=
  (S.shop t).nodup_ids.of_map.filter _

/-- An order of a day is on it later. -/
theorem Evolves.exists_later (h : S.Evolves) (ht : t ≤ t') {order : ShopifyOrderNode}
    (horder : order ∈ S.ordersOn t day) : ∃ later ∈ S.ordersOn t' day, later.id = order.id ∧
      (S.shop t).updatedAt order.id ≤ (S.shop t').updatedAt order.id := by
  obtain ⟨hmem, hday⟩ := mem_ordersOn.mp horder
  obtain ⟨later, hlater, hid, hsale, hle⟩ := h.stays ht order hmem
  refine ⟨later, mem_ordersOn.mpr ⟨hlater, ?_⟩, hid, hle⟩
  rw [← hday, saleDay, ShopifyOrderNode.saleDay, ShopifyOrderNode.saleInstant, hsale]
  rfl

/-- A day that is quiet was quiet before. -/
theorem Evolves.quiet (h : S.Evolves) (ht : t ≤ t') (hq : S.Quiet t' day since) :
    S.Quiet t day since := by
  intro order horder
  obtain ⟨later, hlater, hid, hle⟩ := h.exists_later ht horder
  exact hle.trans_lt (hid ▸ hq later hlater)

/-- An order of a day that is quiet since is what it was then. -/
theorem Evolves.settledOn (h : S.Evolves) (ht : t ≤ t') (hq : S.Quiet t' day t)
    {order : ShopifyOrderNode} (horder : order ∈ S.ordersOn t' day) :
    order ∈ S.ordersOn t day ∧
      (S.shop t).updatedAt order.id = (S.shop t').updatedAt order.id := by
  obtain ⟨hmem, hday⟩ := mem_ordersOn.mp horder
  obtain ⟨hthen, hupdated⟩ := h.settled ht order hmem (hq order horder)
  exact ⟨mem_ordersOn.mpr ⟨hthen, hday⟩, hupdated⟩

/-- Such a day was as quiet then. -/
theorem Evolves.quiet_iff (h : S.Evolves) (ht : t ≤ t') (hq : S.Quiet t' day t) :
    S.Quiet t day since ↔ S.Quiet t' day since := by
  refine ⟨fun hthen order horder => ?_, h.quiet ht⟩
  obtain ⟨hmem, hupdated⟩ := h.settledOn ht hq horder
  exact hupdated ▸ hthen order hmem

/-- And the day has no other orders. -/
theorem Evolves.ordersOn_perm (h : S.Evolves) (ht : t ≤ t') (hq : S.Quiet t' day t) :
    (S.ordersOn t day).Perm (S.ordersOn t' day) := by
  refine (List.perm_ext_iff_of_nodup nodup_ordersOn nodup_ordersOn).mpr fun order =>
    ⟨fun horder => ?_, fun horder => (h.settledOn ht hq horder).1⟩
  obtain ⟨later, hlater, hid, -⟩ := h.exists_later ht horder
  have hthen := (mem_ordersOn.mp (h.settledOn ht hq hlater).1).1
  exact Shop.eq_of_id_eq hthen (mem_ordersOn.mp horder).1 hid ▸ hlater

/-- The order of the orders does not matter. -/
theorem rows_perm {orders more : List ShopifyOrderNode} (h : orders.Perm more) :
    (S.rows orders).Perm (S.rows more) :=
  (Series.tally_of_perm (h.flatMap_right _)).map _

end Evolution

/-! ## What a sync leaves -/

section Synced

variable {S : Source} {t day windowStart now : Time} {db u : SalesDb}

/-- A sync rebuilds the days that are not quiet since its window. -/
theorem mem_affectedDays :
    day ∈ affectedDays S.newDate (S.api t) windowStart (some S.timezone) ↔
      ¬ S.Quiet t day windowStart := by
  rw [affectedDays, mem_affectedDayKeys]
  simp only [api, Shop.changedSince, List.mem_filter, decide_eq_true_eq, Quiet, mem_ordersOn,
    not_forall, not_lt, exists_prop]
  exact exists_congr fun order => by rw [and_assoc, and_assoc, and_comm (a := _ ≤ _)]; rfl

/-- It leaves the other days. -/
theorem historyOn_of_quiet (h : SameElsewhere S.newDate (S.api t) windowStart db u)
    (htenant : db.tenant = some S.timezone) (hq : S.Quiet t day windowStart) :
    u.historyOn day = db.historyOn day := by
  have hrows := congrArg (List.filter (shopifyOn [day])) h.rows
  rw [htenant, List.filter_filter, List.filter_filter] at hrows
  have hoff : ∀ r, (shopifyOn [day] r && !shopifyOn (affectedDays S.newDate (S.api t)
      windowStart (some S.timezone)) r) = shopifyOn [day] r := by
    intro r
    by_cases hr : r.date = day
    · simp [shopifyOn, hr, mem_affectedDays.not.mpr (not_not.mpr hq)]
    · simp [shopifyOn, hr]
  simp only [hoff] at hrows
  exact hrows

/-- The rows of one day are those of its orders. -/
theorem filter_rows (orders : List ShopifyOrderNode) :
    ((S.rows orders).filter (shopifyOn [day])).Perm
      (S.rows (orders.filter fun order => S.saleDay order = some day)) := by
  have hbucket : shopifyOn [day] ∘ bucketRow = fun e => decide (e.1.dateKey = day) := by
    funext e
    simp [shopifyOn, bucketRow]
  rw [rows, List.filter_map, hbucket]
  refine (Series.filter_tally fun key : BucketKey => decide (key.dateKey = day)).map _ |>.trans
    (List.Perm.of_eq ?_)
  rw [rows, bucketSalesByProductDay]
  congr 2
  induction orders with
  | nil => rfl
  | cons order orders ih =>
      rw [List.flatMap_cons, List.filter_append, ih]
      by_cases hday : S.saleDay order = some day
      · rw [List.filter_cons_of_pos (by simpa using hday), List.flatMap_cons]
        congr 1
        refine List.filter_eq_self.mpr fun e he => ?_
        simpa using Option.some.inj ((dateKey_of_mem_orderEntries he).symm.trans hday)
      · rw [List.filter_cons_of_neg (by simpa using hday), List.filter_eq_nil_iff.mpr,
          List.nil_append]
        intro e he heq
        exact hday ((dateKey_of_mem_orderEntries he).trans (congrArg some (of_decide_eq_true heq)))

/-- A sync that is not lost goes through, and writes the days it rebuilds. -/
theorem exists_synced (hE : S.Evolves) (htenant : db.tenant = some S.timezone) :
    ∃ result u, (Session.program (syncOrders S.newDate S.parseFloat now (S.api t) windowStart
        S.catalogue)).run Empty.elim db = (some result, u) ∧
      SameElsewhere S.newDate (S.api t) windowStart db u ∧
      ∀ day, ¬ S.Quiet t day windowStart → (u.historyOn day).Perm (S.rows (S.ordersOn t day)) := by
  obtain ⟨days, orders, hcollect, hnodup, hmem⟩ := collectDayOrders_complete S.timezone
    (hE.updatedSinceSale t) ((S.shop t).pulls_filter S.newDate windowStart)
  have hplan : plannedDays S.newDate S.parseFloat (S.api t) windowStart S.catalogue S.timezone =
      some (days, S.rows orders) := by
    rw [plannedDays]
    exact congrArg _ hcollect
  obtain ⟨result, u, hrun, -, hrows⟩ :=
    @run_syncOrders _ _ now _ _ _ Empty.elim _ _ _ _ htenant hplan
  refine ⟨result, u, hrun, syncOrders_rebuilds.rel_run (i := now) hrun, fun day hday => ?_⟩
  have hon : day ∈ days := by
    rw [(collectDayOrders_eq_some hcollect).1]
    exact mem_affectedDays.mpr hday
  have hcleared : ∀ r, (shopifyOn [day] r && !shopifyOn days r) = false := by
    intro r
    by_cases hr : r.date = day <;> simp [shopifyOn, hr, hon]
  simp only [SalesDb.historyOn, hrows, List.filter_append, List.filter_filter, hcleared,
    List.filter_false, List.nil_append]
  -- the orders that were collected are, on this day, those of the shop
  refine (filter_rows orders).trans (rows_perm ?_)
  refine (List.perm_ext_iff_of_nodup (hnodup.of_map.filter _) nodup_ordersOn).mpr fun order => ?_
  rw [List.mem_filter, mem_ordersOn, hmem, decide_eq_true_eq]
  refine ⟨fun h => ⟨h.1.1, h.2⟩, fun h => ⟨⟨h.1, day, h.2, ?_⟩, h.2⟩⟩
  simp only [Quiet, mem_ordersOn, not_forall, not_lt, exists_prop] at hday
  obtain ⟨other, ⟨hother, hsame⟩, hle⟩ := hday
  exact ⟨other, hother, hle, hsame⟩

end Synced

/-! ## Runs -/

section Runs

variable (S : Source) (s : Feed)

/-- The sync of what was pulled at an instant. -/
def program (run : SyncRun) (t : Time) : SyncProgram SyncOrdersResult :=
  Session.program (syncOrders S.newDate S.parseFloat s.now (S.api t) run.ordersSince S.catalogue)

/-- One step. -/
def step : FeedStep → Feed
  | .wait ms => { s with now := s.now + ms }
  | .release => { s with rebuilt := false }
  | .start => { s with run := s.run.or (some s.begun) }
  | .pull => { s with run := s.run.map fun run => { run with pulledAt := some s.now } }
  | .lose steps =>
      match s.run, s.run.bind SyncRun.pulledAt with
      | some run, some t =>
          s.losing run ((S.program s run t).crash Empty.elim steps s.db s.db)
      | _, _ => { s with run := none }
  | .complete marks =>
      match s.run, s.run.bind SyncRun.pulledAt with
      | some run, some t =>
          match (S.program s run t).run Empty.elim s.db with
          | (some _, db) => s.synced run marks db
          | (none, db) => s.losing run db
      | _, _ => s

/-- A run. -/
def after (steps : List FeedStep) : Feed :=
  steps.foldl S.step s

/-- A run of covered steps. -/
def CoveredRun : Feed → List FeedStep → Prop
  | _, [] => True
  | s, e :: steps => s.covered e ∧ CoveredRun (S.step s e) steps

/-- A day with an order that was updated since the first window shows what its orders come to,
when none of them was updated since the last sync began, or since the window of a lost one. -/
def Follows : Prop :=
  ∀ cursor ∈ s.ordersCursor, ∀ day, ¬ S.Quiet s.now day s.since →
    (∀ t ∈ cursor :: s.lost, S.Quiet s.now day t) →
      (s.db.historyOn day).Perm (S.rows (S.ordersOn s.now day))

/-- What every covered step keeps. -/
structure Sound : Prop where
  tenant : s.db.tenant = some S.timezone
  follows : S.Follows s
  cursor_le : ∀ cursor ∈ s.ordersCursor, cursor ≤ s.now
  run_le : ∀ run ∈ s.run, run.runStart ≤ s.now ∧
    ∀ t ∈ run.pulledAt, run.runStart ≤ t ∧ t ≤ s.now

variable {S s}

theorem Sound.wait (h : S.Sound s) (hE : S.Evolves) {later : Time} (hle : s.now ≤ later) :
    S.Sound { s with now := later } where
  tenant := h.tenant
  follows cursor hcursor day hread hq := by
    have hnow : S.Quiet later day s.now :=
      (hq cursor List.mem_cons_self).mono (h.cursor_le cursor hcursor)
    exact (h.follows cursor hcursor day (mt (hE.quiet_iff hle hnow).mp hread)
      fun t ht => hE.quiet hle (hq t ht)).trans (rows_perm (hE.ordersOn_perm hle hnow))
  cursor_le cursor hcursor := (h.cursor_le cursor hcursor).trans hle
  run_le run hrun := by
    obtain ⟨hstart, hpulled⟩ := h.run_le run hrun
    exact ⟨hstart.trans hle, fun t ht => ⟨(hpulled t ht).1, (hpulled t ht).2.trans hle⟩⟩

/-- A sync that is lost leaves the days that are quiet since its window. -/
theorem Sound.losing (h : S.Sound s) (hE : S.Evolves) {run : SyncRun} {t : Time} {db : SalesDb}
    (ht : t ≤ s.now) (hdb : SameElsewhere S.newDate (S.api t) run.ordersSince s.db db) :
    S.Sound (s.losing run db) where
  tenant := hdb.tenant.trans h.tenant
  follows cursor hcursor day hread hq := by
    have hthen := hE.quiet ht (hq run.ordersSince (by simp [Feed.losing]))
    rw [Feed.losing, historyOn_of_quiet hdb h.tenant hthen]
    refine h.follows cursor hcursor day hread fun t ht => hq t ?_
    rcases List.mem_cons.mp ht with rfl | ht
    · exact List.mem_cons_self
    · exact List.mem_cons_of_mem _ (List.mem_cons_of_mem _ ht)
  cursor_le := h.cursor_le
  run_le _ hrun := nomatch hrun

/-- A sync that goes through shows its days, and those that are quiet since its window are as the
last one left them. -/
theorem Sound.synced (h : S.Sound s) (hE : S.Evolves) {run : SyncRun} {t : Time} {db : SalesDb}
    (ht : run.runStart ≤ t ∧ t ≤ s.now) (marks : ℕ)
    (hcov : ∀ t ∈ s.ordersCursor.toList ++ s.lost, run.ordersSince ≤ t)
    (hdb : SameElsewhere S.newDate (S.api t) run.ordersSince s.db db)
    (hrows : ∀ day, ¬ S.Quiet t day run.ordersSince →
      (db.historyOn day).Perm (S.rows (S.ordersOn t day))) :
    S.Sound (s.synced run marks db) where
  tenant := hdb.tenant.trans h.tenant
  follows cursor hcursor day hread hq := by
    obtain rfl := Option.some.inj hcursor
    have hpulled : S.Quiet s.now day t := (hq _ List.mem_cons_self).mono ht.1
    by_cases hquiet : S.Quiet t day run.ordersSince
    · have hnow := (hE.quiet_iff ht.2 hpulled).mp hquiet
      cases hlast : s.ordersCursor with
      | none => exact absurd (by simpa [Feed.synced, hlast] using hnow) hread
      | some last =>
          rw [Feed.synced, historyOn_of_quiet hdb h.tenant hquiet]
          refine h.follows last hlast day (by simpa [Feed.synced, hlast] using hread)
            fun t' ht' => hnow.mono (hcov t' ?_)
          simpa [hlast] using ht'
    · exact (hrows day hquiet).trans (rows_perm (hE.ordersOn_perm ht.2 hpulled))
  cursor_le cursor hcursor := by
    obtain rfl := Option.some.inj hcursor
    exact ht.1.trans ht.2
  run_le _ hrun := nomatch hrun

theorem Sound.step (h : S.Sound s) (hE : S.Evolves) {e : FeedStep} (hcov : s.covered e) :
    S.Sound (S.step s e) := by
  cases e with
  | wait ms => exact h.wait hE (Int.le_add_of_nonneg_right ms.cast_nonneg)
  | release => exact ⟨h.tenant, h.follows, h.cursor_le, h.run_le⟩
  | start =>
      refine ⟨h.tenant, h.follows, h.cursor_le, fun run hrun => ?_⟩
      cases hs : s.run with
      | some old => exact h.run_le run (by simpa [Source.step, hs] using hrun)
      | none =>
          obtain rfl : s.begun = run := by simpa [Source.step, hs] using hrun
          exact ⟨le_rfl, fun _ ht => nomatch ht⟩
  | pull =>
      refine ⟨h.tenant, h.follows, h.cursor_le, fun run hrun => ?_⟩
      obtain ⟨old, hold, rfl⟩ := Option.map_eq_some_iff.mp hrun
      have hle := (h.run_le old hold).1
      exact ⟨hle, fun t ht => Option.some.inj ht ▸ ⟨hle, le_rfl⟩⟩
  | lose steps =>
      rw [Source.step]
      split
      · next run t hrun hpulled =>
          have ht := (h.run_le run hrun).2 t (by simpa [hrun] using hpulled)
          exact h.losing hE ht.2 (Program.rel_crash Empty.elim (keeps_syncOrders s.db).program _
            (refl_of _ _) (refl_of _ _))
      · exact ⟨h.tenant, h.follows, h.cursor_le, fun _ hrun => nomatch hrun⟩
  | complete marks =>
      rw [Source.step]
      split
      · next run t hrun hpulled =>
          have ht := (h.run_le run hrun).2 t (by simpa [hrun] using hpulled)
          obtain ⟨result, u, hsync, hdb, hrows⟩ := exists_synced hE h.tenant
          rw [program, hsync]
          refine h.synced hE ht marks ?_ hdb hrows
          simpa [Feed.covered, hrun, or_imp, forall_and] using hcov
      · exact h

/-- In a run whose syncs reach back far enough when they go through, the history follows the shop:
whatever is edited meanwhile and wherever other syncs are lost, a day that was read shows what its
orders come to, until one of them is edited again or a sync that would rebuild it is lost. -/
theorem follows_of_covered (hE : S.Evolves) {db : SalesDb} (htenant : db.tenant = some S.timezone)
    (now : Time) {steps : List FeedStep} (hcov : S.CoveredRun { db, now } steps) :
    S.Follows (S.after { db, now } steps) := by
  suffices hrun : ∀ s, S.Sound s → S.CoveredRun s steps → S.Sound (S.after s steps) from
    (hrun _ ⟨htenant, fun _ hcursor => absurd hcursor (by simp), by simp, by simp⟩ hcov).follows
  clear hcov
  induction steps with
  | nil => exact fun _ h _ => h
  | cons e steps ih => exact fun s h hcov => ih _ (h.step hE hcov.1) hcov.2

end Runs

/-! ### The shop in Nairobi -/

/-- The shop, after its two sales. -/
def nairobi : Source where
  shop _ := nairobiShop
  newDate := nairobiDate
  parseFloat _ := some 10
  catalogue :=
    { productIdByCore := fun core => if core = "7" then some 1 else none
      locationIdByCore := fun _ => none
      productIdByVariantCore := fun _ => none }
  timezone := Sales.nairobi

theorem evolves_nairobi : nairobi.Evolves where
  updatedSinceSale _ := nairobiShop_updatedSinceSale
  settled _ _ horder _ := ⟨horder, rfl⟩
  stays _ order horder := ⟨order, horder, rfl, rfl, le_rfl⟩

/-- A sync is lost, and the next one goes through. -/
theorem follows_of_covered_nairobi :
    nairobi.Follows (nairobi.after { db := nairobiDb, now := 1772528400000 }
      [.start, .pull, .lose 4, .start, .pull, .complete 2]) :=
  follows_of_covered evolves_nairobi rfl _ ⟨rfl, rfl, rfl, rfl, rfl, rfl, trivial⟩

/-- A reconcile is lost after it cleared a day, and the next one, a day later, no longer reads it. -/
theorem not_follows : ¬ nairobi.Follows (nairobi.after { db := nairobiDb, now := 1772528400000 }
    [.start, .pull, .complete 2, .wait 2937600000, .start, .pull, .lose 4, .wait 86400000,
      .start, .pull, .complete 2]) := by
  intro h
  have hrows := h 1775552400000 (by decide +kernel) 1772409600000 (by unfold Quiet; decide +kernel)
    (by unfold Quiet; decide +kernel)
  exact absurd hrows.length_eq (by decide +kernel)

end Source

end Restock.Sales
