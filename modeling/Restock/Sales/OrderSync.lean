import Restock.Sales.Buckets
import Restock.Store.Crash

/-!
# The sync of the sales history

A sync rebuilds whole trading days: it deletes what the sales history holds of them, in
chunks of days, and then writes what their orders come to, in chunks of rows. Every statement
commits on its own. The progress reports between the chunks are left out.

* `syncOrders` — the code;
* `run_syncOrders` — what a whole run leaves: the days it rebuilds hold its rows, the rest is
  as it was;
* `syncOrders_rebuilds` — it rebuilds the days it affects and keeps everything else;
* `syncOrders_crash_safe` — cut-off runs make no difference to the whole run that follows.
-/

namespace Restock.Sales

open Forecast (DAY_MS)
open Store (Session Program)

/-! ## Drift -/

/-- How far a rebuild moved the settled days. -/
structure SalesDrift where
  days : ℕ := 0
  unitsBefore : ℚ := 0
  unitsAfter : ℚ := 0
  deriving DecidableEq, Repr

/-- The drift of the days before `settledBefore`. -/
def salesDrift (before after : List (Time × ℚ)) (settledBefore : Time) : SalesDrift :=
  (before.map Prod.fst ++ after.map Prod.fst).eraseDups.foldl
    (fun drift day =>
      if settledBefore ≤ day then drift
      else
        let was := Series.totalIn before day
        let now := Series.totalIn after day
        if was = now then drift
        else
          { days := drift.days + 1
            unitsBefore := drift.unitsBefore + was
            unitsAfter := drift.unitsAfter + now })
    {}

/-! ## The database -/

/-- What the sync reads and writes: the zone of the tenant, and its sales history. -/
@[ext]
structure SalesDb where
  /-- `tenant.timezone`; nothing when there is no such tenant. -/
  tenant : Option Zone
  salesHistory : SalesTable

-- Statements on the sales history lock all of it: nothing runs beside a sync here.
instance : Store.RowModel SalesDb Unit where
  same _ s t := s = t
  refl _ _ := rfl
  trans _ _ _ _ h h' := h.trans h'

/-- What a sync throws. -/
inductive SyncFailure
  /-- `P2002`: the unique key of the sales history. -/
  | uniqueViolation
  /-- `RangeError`: the trading day of an invalid date was asked for. -/
  | rangeError
  deriving DecidableEq

/-- A session of the sync. -/
abbrev Sync (R α : Type) : Type := Session SalesDb Unit Empty Empty SyncFailure R α

/-- The program of a sync. -/
abbrev SyncProgram (R : Type) : Type := Program SalesDb Unit Empty Empty R

section Statements

variable {R : Type}

/-- A write of the sales history. -/
def writingHistory (f : SalesTable → SalesTable) : Store.Write SalesDb Unit where
  keys := [()]
  act db := { db with salesHistory := f db.salesHistory }
  frame _ h _ := absurd (List.mem_singleton_self ()) h

/-- `salesHistory.deleteMany`. -/
def deleteMany (p : SalesHistory → Bool) : Sync R Unit :=
  Session.statement (fun _ => [writingHistory fun t => t.deleteMany p]) fun _ => ()

/-- `salesHistory.createMany`. -/
def createMany (data : List SalesHistory) : Sync R Unit := do
  let clash ← Session.statement
    (fun db =>
      match db.salesHistory.createMany data with
      | some t => [writingHistory fun _ => t]
      | none => [])
    fun db => (db.salesHistory.createMany data).isNone
  if clash then throw .uniqueViolation

/-- `salesHistory.groupBy({ by: ["date"], _sum: { quantity } })`. -/
def groupBy (p : SalesHistory → Bool) : Sync R (List (Time × ℚ)) :=
  Session.query fun db =>
    Series.tally ((db.salesHistory.rows.filter p).map fun r => (r.date, r.quantity))

end Statements

/-! ## The code -/

/-- The two order pulls of the API. -/
structure ShopifySyncApi where
  /-- The orders updated since an instant. -/
  orders : Time → List ShopifyOrderNode
  /-- The orders sold between two instants. -/
  ordersProcessedBetween : Time → Time → List ShopifyOrderNode

/-- What a sync returns. -/
structure SyncOrdersResult where
  salesDays : ℕ := 0
  drift : SalesDrift := {}
  deriving DecidableEq, Repr

/-- How many days or rows a statement takes. -/
def SALES_CHUNK : ℕ := 500

/-- `{ channel: "shopify", date: { in: dates } }`. -/
def shopifyOn (dates : List Time) (r : SalesHistory) : Bool :=
  r.channel = .shopify ∧ r.date ∈ dates

section Code

variable (newDate : String → Option Time) (parseFloat : String → Option ℚ) (now : Time)
  (api : ShopifySyncApi) (windowStart : Time) (catalogue : Catalogue) {R : Type}

/-- The days a sync rebuilds, and their rows. -/
def plannedDays (timezone : Zone) : Option (List Time × List SalesHistory) :=
  let dayKeyOf := tenantDayKey timezone
  (collectDayOrders newDate dayKeyOf (api.orders windowStart) windowStart
    api.ordersProcessedBetween).map fun (days, dayOrders) =>
      (days, (bucketSalesByProductDay newDate parseFloat dayKeyOf catalogue dayOrders).map
        bucketRow)

/-- Rebuild every trading day a changed order lands on. -/
def syncOrders : Sync R SyncOrdersResult := do
  let tenant ← Session.query SalesDb.tenant
  match tenant with
  | none => return {}
  | some timezone =>
      match plannedDays newDate parseFloat api windowStart catalogue timezone with
      | none => throw .rangeError
      | some (days, rows) =>
          if days.length = 0 then return {}
          let unitsBefore ← (Series.slices SALES_CHUNK days).foldlM
            (fun units dates => do
              let groups ← groupBy (shopifyOn dates)
              return Series.setEntries units (groups.map fun g => (Forecast.dayKeyOf g.1, g.2)))
            []
          let unitsAfter := Series.tally (rows.map fun r => (Forecast.dayKeyOf r.date, r.quantity))
          let yesterday := tenantDayKey timezone (now - DAY_MS)
          let drift := salesDrift unitsBefore unitsAfter yesterday
          forM (Series.slices SALES_CHUNK days) fun dates =>
            Session.transaction (deleteMany (shopifyOn dates))
          forM (Series.slices SALES_CHUNK rows) fun chunk =>
            Session.transaction (createMany chunk)
          return { salesDays := rows.length, drift }

/-- The days a sync rebuilds: those of the orders that changed, in the zone of the tenant. -/
def affectedDays (tenant : Option Zone) : List Time :=
  match tenant with
  | none => []
  | some timezone => affectedDayKeys newDate (tenantDayKey timezone) (api.orders windowStart)

/-- The databases agree outside the days a sync rebuilds. -/
structure SameElsewhere (s t : SalesDb) : Prop where
  tenant : t.tenant = s.tenant
  rows : t.salesHistory.rows.filter
      (fun r => !shopifyOn (affectedDays newDate api windowStart s.tenant) r)
    = s.salesHistory.rows.filter
      fun r => !shopifyOn (affectedDays newDate api windowStart s.tenant) r

instance : IsPreorder SalesDb (SameElsewhere newDate api windowStart) where
  refl _ := ⟨rfl, rfl⟩
  trans _ _ _ h h' := ⟨h'.tenant.trans h.tenant, by
    have hrows := h'.rows
    rw [h.tenant] at hrows
    exact hrows.trans h.rows⟩

variable {newDate parseFloat now api windowStart catalogue}

/-- The days of a plan are the affected ones; its rows are theirs, and do not clash. -/
theorem plannedDays_eq_some {timezone : Zone} {days : List Time} {rows : List SalesHistory}
    (h : plannedDays newDate parseFloat api windowStart catalogue timezone = some (days, rows)) :
    days = affectedDays newDate api windowStart (some timezone) ∧
      rows.Pairwise (fun r r' => ¬ r.Clash r') ∧ ∀ r ∈ rows, shopifyOn days r := by
  obtain ⟨⟨days', orders⟩, hcollect, h⟩ := Option.map_eq_some_iff.mp h
  obtain ⟨rfl, rfl⟩ := Prod.mk.inj h
  obtain ⟨hdays, hsold⟩ := collectDayOrders_eq_some hcollect
  refine ⟨hdays, pairwise_bucketRows orders, fun r hr => ?_⟩
  obtain ⟨bucket, hbucket, rfl⟩ := List.mem_map.mp hr
  obtain ⟨order, horder, hday⟩ := dateKey_of_mem_bucketSales hbucket
  obtain ⟨day, hmem, hday'⟩ := hsold order horder
  have heq : bucket.1.dateKey = day := Option.some.inj (hday.symm.trans hday')
  exact decide_eq_true ⟨rfl, show bucket.1.dateKey ∈ days' from heq ▸ hmem⟩

end Code

/-! ## What the statements do -/

section Effects

variable {R : Type} {answer : Empty → Bool}

/-- The database with some rows deleted from the sales history. -/
def SalesDb.without (db : SalesDb) (p : SalesHistory → Bool) : SalesDb :=
  { db with salesHistory := db.salesHistory.deleteMany p }

/-- The database with rows added to the sales history, when they go in. -/
def SalesDb.adding (db : SalesDb) (data : List SalesHistory) : SalesDb :=
  { db with salesHistory := (db.salesHistory.createMany data).getD db.salesHistory }

/-- A delete as a transaction of its own. -/
theorem exec_deleteMany (p : SalesHistory → Bool) (err : SyncFailure → SyncProgram R)
    (ok : Unit → SyncProgram R) (db : SalesDb) :
    (Session.transaction (deleteMany p) ok err).exec answer db db
      = (ok ()).exec answer (db.without p) (db.without p) :=
  rfl

/-- An insert that goes through, as a transaction of its own. -/
theorem exec_createMany {data : List SalesHistory} (err : SyncFailure → SyncProgram R)
    (ok : Unit → SyncProgram R) {db : SalesDb} {t : SalesTable}
    (h : db.salesHistory.createMany data = some t) :
    (Session.transaction (createMany data) ok err).exec answer db db
      = (ok ()).exec answer (db.adding data) (db.adding data) := by
  have hadd : db.adding data = { db with salesHistory := t } := by
    rw [SalesDb.adding, h, Option.getD_some]
  rw [hadd]
  simp only [createMany, Session.transaction_apply, Session.bind_apply, Session.statement_apply,
    Program.exec_stmt, h, Option.isNone_some, Bool.false_eq_true, if_false, Session.pure_apply,
    Program.exec_commit, Store.sees_cons, Store.sees_nil]
  rfl

/-- Deletes by chunks of days are one delete. -/
theorem foldl_without (chunks : List (List Time)) (db : SalesDb) :
    chunks.foldl (fun db dates => db.without (shopifyOn dates)) db
      = db.without (shopifyOn chunks.flatten) := by
  induction chunks generalizing db with
  | nil =>
      have hnone : ∀ r, shopifyOn [] r = false := by simp [shopifyOn]
      ext1
      · rfl
      · ext1
        simp [SalesDb.without, hnone]
  | cons dates chunks ih =>
      rw [List.foldl_cons, ih]
      ext1
      · rfl
      · show (db.salesHistory.deleteMany _).deleteMany _ = db.salesHistory.deleteMany _
        rw [SalesTable.deleteMany_deleteMany]
        congr 1
        funext r
        rw [Bool.eq_iff_iff]
        simp [shopifyOn, and_or_left]

/-- What a round of inserts may rely on: the rows to come do not clash, with each other or
with what is there. -/
def Insertable (chunks : List (List SalesHistory)) (db : SalesDb) : Prop :=
  (db.salesHistory.rows ++ chunks.flatten).Pairwise fun r r' => ¬ r.Clash r'

/-- A round of inserts goes through, and leaves the next one to go through. -/
theorem Insertable.step {chunk : List SalesHistory} {chunks : List (List SalesHistory)}
    {db : SalesDb} (h : Insertable (chunk :: chunks) db) :
    ∃ t, db.salesHistory.createMany chunk = some t ∧
      (db.adding chunk).salesHistory.rows = db.salesHistory.rows ++ chunk ∧
      Insertable chunks (db.adding chunk) := by
  rw [Insertable, List.flatten_cons, ← List.append_assoc] at h
  obtain ⟨hfirst, _, _⟩ := List.pairwise_append.mp h
  obtain ⟨_, hchunk, hnew⟩ := List.pairwise_append.mp hfirst
  obtain ⟨t, ht, hrows⟩ := SalesTable.createMany_eq_some hchunk hnew
  have hadd : (db.adding chunk).salesHistory.rows = db.salesHistory.rows ++ chunk := by
    rw [SalesDb.adding, ht]
    exact hrows
  refine ⟨t, ht, hadd, ?_⟩
  rw [Insertable, hadd]
  exact h

/-- Inserts by chunks add all their rows. -/
theorem foldl_adding {chunks : List (List SalesHistory)} {db : SalesDb}
    (h : Insertable chunks db) :
    (chunks.foldl SalesDb.adding db).tenant = db.tenant ∧
      (chunks.foldl SalesDb.adding db).salesHistory.rows
        = db.salesHistory.rows ++ chunks.flatten := by
  induction chunks generalizing db with
  | nil => simp
  | cons chunk chunks ih =>
      obtain ⟨_, _, hrows, hnext⟩ := h.step
      obtain ⟨htenant, hall⟩ := ih hnext
      rw [List.foldl_cons]
      refine ⟨htenant, ?_⟩
      rw [hall, hrows, List.flatten_cons, List.append_assoc]

/-- The loop that clears days has cleared them all. -/
theorem exec_clearDays (days : List Time) (err : SyncFailure → SyncProgram R)
    (ok : Unit → SyncProgram R) (db : SalesDb) :
    (forM (Series.slices SALES_CHUNK days)
        (fun dates => Session.transaction (deleteMany (shopifyOn dates))) ok err).exec answer db db
      = (ok ()).exec answer (db.without (shopifyOn days)) (db.without (shopifyOn days)) := by
  have hflat : (Series.slices SALES_CHUNK days).flatten = days :=
    Series.flatten_slices (by decide) days
  rw [Session.exec_forM (P := fun _ _ => True) err
    (fun dates _ db ok _ => ⟨exec_deleteMany (shopifyOn dates) err ok db, trivial⟩) _ ok db trivial,
    foldl_without, hflat]

/-- The loop that inserts rows has inserted them all. -/
theorem exec_insertRows {rows : List SalesHistory} (err : SyncFailure → SyncProgram R)
    (ok : Unit → SyncProgram R) {db : SalesDb}
    (h : Insertable (Series.slices SALES_CHUNK rows) db) :
    (forM (Series.slices SALES_CHUNK rows)
        (fun chunk => Session.transaction (createMany chunk)) ok err).exec answer db db
      = (ok ()).exec answer ((Series.slices SALES_CHUNK rows).foldl SalesDb.adding db)
          ((Series.slices SALES_CHUNK rows).foldl SalesDb.adding db) := by
  refine Session.exec_forM (g := fun chunk db => db.adding chunk) (P := Insertable) err
    (fun chunk chunks db ok hround => ?_) _ ok db h
  obtain ⟨t, ht, _, hnext⟩ := hround.step
  exact ⟨exec_createMany err ok ht, hnext⟩

end Effects

/-! ## A whole run -/

section Run

variable {newDate : String → Option Time} {parseFloat : String → Option ℚ} {now : Time}
  {api : ShopifySyncApi} {windowStart : Time} {catalogue : Catalogue} {answer : Empty → Bool}

/-- What a whole run leaves: the rows of its plan on the days of its plan, and everything else
as it was. -/
theorem run_syncOrders {db : SalesDb} {timezone : Zone} {days : List Time}
    {rows : List SalesHistory} (htenant : db.tenant = some timezone)
    (hplan : plannedDays newDate parseFloat api windowStart catalogue timezone
      = some (days, rows)) :
    ∃ result u, (Session.program (syncOrders newDate parseFloat now api windowStart
        catalogue)).run answer db = (some result, u) ∧ u.tenant = db.tenant ∧
      u.salesHistory.rows
        = (db.salesHistory.rows.filter fun r => !shopifyOn days r) ++ rows := by
  obtain ⟨_, hpair, hon⟩ := plannedDays_eq_some hplan
  by_cases hdays : days.length = 0
  · -- nothing changed: no day, and so no row
    obtain rfl : days = [] := List.eq_nil_of_length_eq_zero hdays
    have hnone : ∀ r, shopifyOn [] r = false := by simp [shopifyOn]
    have hrows : rows = [] := by
      refine List.eq_nil_iff_forall_not_mem.mpr fun r hr => ?_
      simpa [hnone] using hon r hr
    refine ⟨{}, db, ?_, rfl, by simp [hnone, hrows]⟩
    simp [Program.run, syncOrders, htenant, hplan]
  · have hchunk : 0 < SALES_CHUNK := by decide
    have hclear : ∀ r ∈ (db.without (shopifyOn days)).salesHistory.rows,
        shopifyOn days r = false := by
      intro r hr
      simpa using (List.mem_filter.mp hr).2
    have hinsert : Insertable (Series.slices SALES_CHUNK rows) (db.without (shopifyOn days)) := by
      rw [Insertable, Series.flatten_slices hchunk]
      refine List.pairwise_append.mpr ⟨SalesTable.unique _, hpair, fun r hr r' hr' hclash => ?_⟩
      -- a row that clashes with a row of the plan would be on one of the cleared days
      have hoff := hclear r hr
      have hon' := of_decide_eq_true (hon r' hr')
      rw [shopifyOn, hclash.2.2.1, hclash.2.1] at hoff
      exact of_decide_eq_false hoff hon'
    obtain ⟨hutenant, hurows⟩ := foldl_adding hinsert
    rw [Series.flatten_slices hchunk] at hurows
    have hexec : ∃ result, (Session.program (syncOrders newDate parseFloat now api windowStart
        catalogue)).run answer db = (some result,
          (Series.slices SALES_CHUNK rows).foldl SalesDb.adding (db.without (shopifyOn days))) := by
      simp only [Program.run, Session.program_def, syncOrders, Session.bind_apply,
        Session.exec_query, htenant, hplan, if_neg hdays]
      -- the loop that reads what the days held, the one that clears them, the one that inserts
      rw [Session.exec_foldlM (g := fun db units dates => Series.setEntries units
          ((Series.tally ((db.salesHistory.rows.filter (shopifyOn dates)).map
            fun r => (r.date, r.quantity))).map fun g => (Forecast.dayKeyOf g.1, g.2)))
          _ (fun _ _ _ => rfl), exec_clearDays, exec_insertRows _ _ hinsert]
      exact ⟨_, rfl⟩
    obtain ⟨result, hexec⟩ := hexec
    exact ⟨result, _, hexec, hutenant, hurows⟩

/-- A run for a tenant that is not there changes nothing. -/
theorem run_syncOrders_none {db : SalesDb} (htenant : db.tenant = none) :
    (Session.program (syncOrders newDate parseFloat now api windowStart catalogue)).run answer db
      = (some {}, db) := by
  simp [Program.run, syncOrders, htenant]

/-- A run that meets an invalid date throws. -/
theorem run_syncOrders_throw {db : SalesDb} {timezone : Zone} (htenant : db.tenant = some timezone)
    (hplan : plannedDays newDate parseFloat api windowStart catalogue timezone = none) :
    (Session.program (syncOrders newDate parseFloat now api windowStart catalogue)).run answer db
      = (none, db) := by
  simp [Program.run, syncOrders, htenant, hplan]

end Run

/-! ## Runs that are cut off -/

section CrashSafe

variable {newDate : String → Option Time} {parseFloat : String → Option ℚ} {now : Time}
  {api : ShopifySyncApi} {windowStart : Time} {catalogue : Catalogue} {answer : Empty → Bool}

/-- Deleting rows of affected days keeps the rest. -/
theorem SameElsewhere.without {db : SalesDb} {dates : List Time}
    (h : ∀ day ∈ dates, day ∈ affectedDays newDate api windowStart db.tenant) :
    SameElsewhere newDate api windowStart db (db.without (shopifyOn dates)) where
  tenant := rfl
  rows := by
    rw [SalesDb.without, SalesTable.rows_deleteMany, List.filter_filter]
    refine List.filter_congr fun r _ => ?_
    by_cases hr : shopifyOn dates r
    · have hon : shopifyOn (affectedDays newDate api windowStart db.tenant) r = true :=
        decide_eq_true ⟨(of_decide_eq_true hr).1, h _ (of_decide_eq_true hr).2⟩
      simp [hon]
    · simp [hr]

/-- Inserting rows of affected days keeps the rest. -/
theorem SameElsewhere.adding {db : SalesDb} {data : List SalesHistory} {t : SalesTable}
    (hinsert : db.salesHistory.createMany data = some t)
    (h : ∀ r ∈ data, shopifyOn (affectedDays newDate api windowStart db.tenant) r) :
    SameElsewhere newDate api windowStart db { db with salesHistory := t } where
  tenant := rfl
  rows := by
    have hnone : data.filter
        (fun r => !shopifyOn (affectedDays newDate api windowStart db.tenant) r) = [] :=
      List.filter_eq_nil_iff.mpr fun r hr => by simp [h r hr]
    show t.rows.filter _ = _
    rw [SalesTable.rows_of_createMany hinsert, List.filter_append, hnone, List.append_nil]

/-- What a sync deletes or inserts is on the days it affects. -/
theorem keeps_syncOrders (start : SalesDb) : Session.Keeps (SameElsewhere newDate api windowStart)
    start (syncOrders newDate parseFloat now api windowStart catalogue :
      Sync SyncOrdersResult SyncOrdersResult) := by
  refine Session.keeps_query_bind fun db hdb => ?_
  cases htenant : db.tenant with
  | none => exact Session.keeps_pure _
  | some timezone =>
      dsimp only
      cases hplan : plannedDays newDate parseFloat api windowStart catalogue timezone with
      | none => exact Session.keeps_throw _
      | some plan =>
          obtain ⟨days, rows⟩ := plan
          obtain ⟨hdays, _, hon⟩ := plannedDays_eq_some hplan
          have haffected : ∀ s, SameElsewhere newDate api windowStart start s →
              affectedDays newDate api windowStart s.tenant = days := by
            intro s hs
            rw [hs.tenant, ← hdb.tenant, htenant, hdays]
          have hchunk : 0 < SALES_CHUNK := by decide
          refine Session.keeps_ite (Session.keeps_pure _) ?_
          refine Session.keeps_bind (Session.keeps_foldlM _ fun units dates _ =>
            Session.keeps_bind (Session.keeps_query _) fun _ => Session.keeps_pure _)
            fun units => ?_
          refine Session.keeps_bind (Session.keeps_forM fun dates hdates => ?_) fun _ =>
            Session.keeps_bind (Session.keeps_forM fun chunk hrows => ?_) fun _ =>
              Session.keeps_pure _
          · -- a chunk of days is cleared
            refine Session.keeps_transaction (Session.keeps_statement fun s hs => ?_)
            refine SameElsewhere.without fun day hday => ?_
            rw [haffected s hs]
            exact (Series.mem_slices hchunk).mp ⟨dates, hdates, hday⟩
          · -- a chunk of rows is inserted, or clashes and is not
            refine Session.keeps_transaction (Session.keeps_bind
              (Session.keeps_statement fun s hs => ?_) fun clash =>
                Session.keeps_ite (Session.keeps_throw _) (Session.keeps_pure _))
            cases hinsert : s.salesHistory.createMany chunk with
            | none => exact refl_of _ s
            | some t =>
                refine SameElsewhere.adding hinsert fun r hr => ?_
                rw [haffected s hs]
                exact hon r ((Series.mem_slices hchunk).mp ⟨chunk, hrows, hr⟩)

/-- Whenever it starts, a sync rebuilds the days it affects from its orders alone and keeps
everything else. -/
theorem syncOrders_rebuilds : Program.Rebuilds answer
    (fun now => Session.program (syncOrders newDate parseFloat now api windowStart catalogue))
    (SameElsewhere newDate api windowStart) where
  keeps _ start := (keeps_syncOrders start).program
  same := by
    intro now now' s t r u hst hrun
    cases htenant : s.tenant with
    | none =>
        -- no tenant, no affected day: the two databases are one, and no run changes it
        have heq : t = s := by
          have hrows := hst.rows
          rw [htenant] at hrows
          ext1
          · exact hst.tenant
          · ext1
            simpa [affectedDays, shopifyOn] using hrows
        subst heq
        have hu : t = u := congrArg Prod.snd ((run_syncOrders_none htenant).symm.trans hrun)
        exact ⟨{}, hu ▸ run_syncOrders_none htenant⟩
    | some timezone =>
        cases hplan : plannedDays newDate parseFloat api windowStart catalogue timezone with
        | none => cases (run_syncOrders_throw htenant hplan).symm.trans hrun
        | some plan =>
            obtain ⟨days, rows⟩ := plan
            obtain ⟨hdays, _, _⟩ := plannedDays_eq_some hplan
            obtain ⟨rs, us, hs, hstenant, hsrows⟩ := run_syncOrders htenant hplan
            obtain ⟨rt, ut, ht, httenant, htrows⟩ :=
              run_syncOrders (hst.tenant.trans htenant) hplan
            have hsame : ut = us := by
              have hrows := hst.rows
              rw [htenant, ← hdays] at hrows
              ext1
              · rw [httenant, hstenant, hst.tenant]
              · ext1
                rw [htrows, hsrows, hrows]
            have hu : us = u := congrArg Prod.snd (hs.symm.trans hrun)
            exact ⟨rt, hu ▸ hsame ▸ ht⟩

/-- The sync is crash-safe and idempotent. Any number of runs, each started at some instant and
cut off after some steps, and then a whole run, leave what one whole run from the original
database leaves; outside the days the sync affects that is what was there before; and a further
whole run changes nothing. -/
theorem syncOrders_crash_safe {s u : SalesDb} {result : SyncOrdersResult}
    (hrun : (Session.program (syncOrders newDate parseFloat now api windowStart
      catalogue)).run answer s = (some result, u)) :
    let sync : Time → SyncProgram SyncOrdersResult := fun now =>
      Session.program (syncOrders newDate parseFloat now api windowStart catalogue)
    let affected := shopifyOn (affectedDays newDate api windowStart s.tenant)
    (∀ (runs : List (Time × ℕ)) (later : Time), ∃ result',
      (sync later).run answer (Program.crashes answer sync runs s) = (some result', u)) ∧
    (u.tenant = s.tenant ∧ u.salesHistory.rows.filter (fun r => !affected r)
      = s.salesHistory.rows.filter fun r => !affected r) ∧
    ∀ later : Time, ∃ result', (sync later).run answer u = (some result', u) := by
  intro sync affected
  have hrebuilds : Program.Rebuilds answer sync (SameElsewhere newDate api windowStart) :=
    syncOrders_rebuilds
  have helsewhere := hrebuilds.rel_run (i := now) hrun
  exact ⟨fun runs later => hrebuilds.run_crashes (i := now) runs later hrun,
    ⟨helsewhere.tenant, helsewhere.rows⟩,
    fun later => hrebuilds.run_again (i := now) later hrun⟩

end CrashSafe

/-! ### The shop in Nairobi -/

/-- A sync of the shop, from midnight UTC between its two sales, at an instant. -/
def nairobiSync (now : Time) : SyncProgram SyncOrdersResult :=
  Session.program (syncOrders nairobiDate (fun _ => some 10) now
    ⟨nairobiShop.changedSince, nairobiShop.soldBetween nairobiDate⟩ 1772409600000
    { productIdByCore := fun core => if core = "7" then some 1 else none
      locationIdByCore := fun _ => none
      productIdByVariantCore := fun _ => none })

/-- A history that holds a unit too few of the day, and the day's sales at the till. -/
def nairobiDb : SalesDb where
  tenant := some nairobi
  salesHistory :=
    { rows :=
        [{ productId := 1, date := 1772409600000, quantity := 3, revenueKes := 30 },
          { productId := 1, date := 1772409600000, quantity := 5, revenueKes := 50,
            channel := .pos }]
      unique := by decide }

/-- What a sync of the shop leaves. -/
def nairobiSynced : SalesDb :=
  ((nairobiSync 1772442000000).run Empty.elim nairobiDb).2

/-- A sync of the shop goes through. -/
theorem run_nairobiSync : (nairobiSync 1772442000000).run Empty.elim nairobiDb
    = (some { salesDays := 1 }, nairobiSynced) := by
  have hresult : ((nairobiSync 1772442000000).run Empty.elim nairobiDb).1
      = some { salesDays := 1 } := by decide +kernel
  rw [nairobiSynced, ← hresult]

/-- Syncs that die after the days are cleared do no harm. -/
theorem syncOrders_crash_safe_of_nairobi :
    let affected := shopifyOn (affectedDays nairobiDate
      ⟨nairobiShop.changedSince, nairobiShop.soldBetween nairobiDate⟩ 1772409600000
      nairobiDb.tenant)
    (∀ (runs : List (Time × ℕ)) (later : Time), ∃ result',
      (nairobiSync later).run Empty.elim (Program.crashes Empty.elim nairobiSync runs nairobiDb)
        = (some result', nairobiSynced)) ∧
    (nairobiSynced.tenant = nairobiDb.tenant ∧
      nairobiSynced.salesHistory.rows.filter (fun r => !affected r)
        = nairobiDb.salesHistory.rows.filter fun r => !affected r) ∧
    ∀ later : Time, ∃ result',
      (nairobiSync later).run Empty.elim nairobiSynced = (some result', nairobiSynced) :=
  syncOrders_crash_safe run_nairobiSync

example : nairobiSynced.salesHistory.rows =
    [{ productId := 1, date := 1772409600000, quantity := 5, revenueKes := 50, channel := .pos },
      { productId := 1, date := 1772409600000, quantity := 4, revenueKes := 40 }] := by
  decide +kernel

end Restock.Sales
