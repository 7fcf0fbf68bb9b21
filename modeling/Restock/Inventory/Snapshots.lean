import Restock.Forecast.Clock
import Restock.Sales.History
import Restock.Store.Crash

/-!
# Nightly snapshots

`apps/worker/src/snapshot-cron.ts`: a job clears the day, writes the units of every active product
in chunks, and drops what is past the retention, of the snapshots and of the sales history. Every
statement commits on its own, and a job that is lost is tried again.

* `snapshotTenantInventory` — the code, `run_snapshot` — what a whole run leaves;
* `Attempt` — a run that is lost, with the products there were;
* `snapshot_converges` — whatever attempts of the day were lost before, a whole run leaves the units
  there are when it runs, and every other day as it was.
-/

namespace Restock.Inventory

open Forecast (DAY_MS dayKeyOf dayMs_pos)
open Sales (SalesHistory SalesTable)
open Store (Keyed Program Session Table)

/-! ## The code -/

/-- The columns of `Product` that the job reads. -/
structure StockedProduct where
  id : ProductId
  active : Bool := true
  currentStock : ℚ := 0
  deriving DecidableEq, Repr

/-- `InventorySnapshot`. -/
structure InventorySnapshot where
  productId : ProductId
  date : Time
  onHand : ℚ
  deriving DecidableEq, Repr

instance : Keyed StockedProduct ProductId := ⟨StockedProduct.id⟩
-- `@@unique([productId, date])`
instance : Keyed InventorySnapshot (ProductId × Time) := ⟨fun r => (r.productId, r.date)⟩

/-- What the job reads and writes. -/
structure SnapshotDb where
  products : Table StockedProduct := .empty
  snapshots : Table InventorySnapshot := .empty
  salesHistory : SalesTable := .empty

-- Statements lock all of it: no two jobs of a tenant and a day run at once.
instance : Store.RowModel SnapshotDb Unit where
  same _ s t := s = t
  refl _ _ := rfl
  trans _ _ _ _ h h' := h.trans h'

/-- A session of the job; what it throws is a row whose key is taken. -/
abbrev SnapshotOp (R α : Type) : Type := Session SnapshotDb Unit Empty Empty Unit R α

/-- `SNAPSHOT_RETENTION_DAYS`. -/
def SNAPSHOT_RETENTION_DAYS : ℤ := 400

/-- `SALES_HISTORY_RETENTION_DAYS`. -/
def SALES_HISTORY_RETENTION_DAYS : ℤ := 450

/-- `SNAPSHOT_CHUNK`. -/
def SNAPSHOT_CHUNK : ℕ := 500

section Code

variable {R : Type}

/-- A write of the job. -/
def writing (f : SnapshotDb → SnapshotDb) : Store.Write SnapshotDb Unit where
  keys := [()]
  act := f
  frame _ h _ := absurd (List.mem_singleton_self ()) h

/-- The database without some snapshots. -/
def SnapshotDb.erase (db : SnapshotDb) (p : InventorySnapshot → Bool) : SnapshotDb :=
  { db with snapshots := db.snapshots.erase p }

/-- `inventorySnapshot.deleteMany`, with its count. -/
def deleteSnapshots (p : InventorySnapshot → Bool) : SnapshotOp R ℕ :=
  Session.transaction (Session.statement (fun _ => [writing (·.erase p)]) fun db =>
    (db.snapshots.matching p).length)

/-- `salesHistory.deleteMany`, with its count. -/
def deleteSales (p : SalesHistory → Bool) : SnapshotOp R ℕ :=
  Session.transaction (Session.statement
    (fun _ => [writing fun db => { db with salesHistory := db.salesHistory.deleteMany p }])
    fun db => (db.salesHistory.rows.filter p).length)

/-- The database with some snapshots more, unless a key is taken. -/
def SnapshotDb.insert (db : SnapshotDb) (data : List InventorySnapshot) : Option SnapshotDb :=
  if h : ((db.snapshots.rows ++ data).map Keyed.key).Nodup then
    some { db with snapshots := ⟨db.snapshots.rows ++ data, h⟩ }
  else none

/-- `inventorySnapshot.createMany`. -/
def createSnapshots (data : List InventorySnapshot) : SnapshotOp R Unit :=
  Session.transaction do
    let taken ← Session.statement
      (fun db => (db.insert data).toList.map fun db' => writing fun _ => db')
      fun db => (db.insert data).isNone
    if taken then throw ()

/-- The rows of a day. -/
def snapshotRows (products : Table StockedProduct) (date : Time) : List InventorySnapshot :=
  (products.rows.filter StockedProduct.active).map fun p => ⟨p.id, date, p.currentStock⟩

/-- `SnapshotResult`. -/
structure SnapshotResult where
  written : ℕ
  pruned : ℕ
  salesPruned : ℕ
  deriving DecidableEq, Repr

/-- Snapshot a tenant's units for the UTC day of now, and drop what is past the retention. -/
def snapshotTenantInventory (now : Time) : SnapshotOp R SnapshotResult := do
  let date := dayKeyOf now
  let rows ← Session.query fun db : SnapshotDb => snapshotRows db.products date
  let _ ← deleteSnapshots fun r => r.date = date
  forM (Series.slices SNAPSHOT_CHUNK rows) createSnapshots
  let pruned ← deleteSnapshots fun r => r.date < date - SNAPSHOT_RETENTION_DAYS * DAY_MS
  let salesPruned ← deleteSales fun r => r.date < date - SALES_HISTORY_RETENTION_DAYS * DAY_MS
  return { written := rows.length, pruned, salesPruned }

/-- The job. -/
def snapshotJob (now : Time) : Program SnapshotDb Unit Empty Empty SnapshotResult :=
  Session.program (snapshotTenantInventory now)

end Code

/-! ## A whole run -/

/-- A snapshot of another day, within the retention. -/
def keptSnapshot (date : Time) (r : InventorySnapshot) : Bool :=
  r.date ≠ date ∧ date - SNAPSHOT_RETENTION_DAYS * DAY_MS ≤ r.date

/-- A sale within the retention. -/
def keptSale (date : Time) (r : SalesHistory) : Bool :=
  date - SALES_HISTORY_RETENTION_DAYS * DAY_MS ≤ r.date

section Run

variable (answer : Empty → Bool) {R : Type}

/-- Chunks whose keys are distinct and free go in. -/
theorem exec_createSnapshots (chunks : List (List InventorySnapshot)) (db : SnapshotDb)
    (h : ((db.snapshots.rows ++ chunks.flatten).map Keyed.key).Nodup)
    (ok err : Unit → Program SnapshotDb Unit Empty Empty R) :
    ∃ u : SnapshotDb, (forM chunks createSnapshots ok err).exec answer db db
        = (ok ()).exec answer u u ∧ u.salesHistory = db.salesHistory ∧
      u.snapshots.rows = db.snapshots.rows ++ chunks.flatten := by
  induction chunks generalizing db with
  | nil => exact ⟨db, rfl, rfl, (List.append_nil _).symm⟩
  | cons chunk chunks ih =>
      rw [List.flatten_cons, ← List.append_assoc] at h ⊢
      have hchunk : ((db.snapshots.rows ++ chunk).map Keyed.key).Nodup := by
        rw [List.map_append] at h
        exact h.sublist (List.sublist_append_left _ _)
      have hinsert : db.insert chunk =
          some { db with snapshots := ⟨db.snapshots.rows ++ chunk, hchunk⟩ } := dif_pos hchunk
      obtain ⟨u, hexec, hsales, hrows⟩ :=
        ih { db with snapshots := ⟨db.snapshots.rows ++ chunk, hchunk⟩ } h
      refine ⟨u, ?_, hsales, hrows⟩
      rw [List.forM_cons, Session.bind_apply, ← hexec]
      simp only [createSnapshots, Session.transaction_apply, Session.bind_apply,
        Session.statement_apply, Program.exec_stmt, hinsert, Option.toList_some, List.map_cons,
        List.map_nil, Option.isNone_some, Bool.false_eq_true, if_false, Session.pure_apply,
        Program.exec_commit, Store.sees_cons, Store.sees_nil]
      rfl

/-- The day's rows have keys of their own, none of another day. -/
theorem nodup_snapshotRows (db : SnapshotDb) (date : Time) :
    (((db.snapshots.erase fun r => r.date = date).rows ++
      snapshotRows db.products date).map Keyed.key).Nodup := by
  rw [List.map_append, List.nodup_append]
  refine ⟨(db.snapshots.erase _).nodup, ?_, fun k hk k' hk' heq => ?_⟩
  · rw [snapshotRows, List.map_map]
    have hids : ((db.products.rows.filter StockedProduct.active).map StockedProduct.id).Nodup :=
      db.products.nodup.sublist (List.filter_sublist.map _)
    rw [List.nodup_map_iff_inj_on (List.Nodup.of_map _ hids)]
    exact fun p hp q hq hpq => List.inj_on_of_nodup_map hids hp hq (Prod.mk.inj hpq).1
  · obtain ⟨r, hr, rfl⟩ := List.mem_map.mp hk
    obtain ⟨r', hr', rfl⟩ := List.mem_map.mp hk'
    obtain ⟨p, -, rfl⟩ := List.mem_map.mp hr'
    have hdate : r.date = date := (Prod.mk.inj heq).2
    simpa [hdate] using (List.mem_filter.mp hr).2

/-- What a whole run leaves: the units of the day, and of the rest what is within the retention. -/
theorem run_snapshot (now : Time) (db : SnapshotDb) :
    ∃ result u, (snapshotJob now).run answer db = (some result, u) ∧
      u.snapshots.rows = db.snapshots.rows.filter (keptSnapshot (dayKeyOf now)) ++
        snapshotRows db.products (dayKeyOf now) ∧
      u.salesHistory.rows = db.salesHistory.rows.filter (keptSale (dayKeyOf now)) := by
  have hchunk : 0 < SNAPSHOT_CHUNK := by decide
  obtain ⟨u, hexec, hsales, hrows⟩ := exec_createSnapshots answer
    (Series.slices SNAPSHOT_CHUNK (snapshotRows db.products (dayKeyOf now)))
    (db.erase fun r => r.date = dayKeyOf now)
    (by rw [Series.flatten_slices hchunk]; exact nodup_snapshotRows db (dayKeyOf now)) _ _
  refine ⟨_, _, hexec, ?_, ?_⟩
  · show (u.snapshots.rows.filter _) = _
    rw [hrows, Series.flatten_slices hchunk, List.filter_append]
    congr 1
    · show (db.snapshots.rows.filter _).filter _ = _
      rw [List.filter_filter]
      refine List.filter_congr fun r _ => ?_
      rw [Bool.eq_iff_iff]
      simp [keptSnapshot, and_comm]
    · refine List.filter_eq_self.mpr fun r hr => ?_
      obtain ⟨p, -, rfl⟩ := List.mem_map.mp hr
      exact congrArg not (decide_eq_false
        (not_lt.mpr (sub_le_self _ (mul_nonneg (by decide) dayMs_pos.le))))
  · show u.salesHistory.rows.filter _ = _
    rw [hsales]
    refine List.filter_congr fun r _ => ?_
    rw [Bool.eq_iff_iff]
    simp [keptSale]

end Run

/-! ## Attempts -/

/-- The databases agree on what a job of the day leaves alone. -/
structure SameButDay (date : Time) (s t : SnapshotDb) : Prop where
  snapshots : t.snapshots.rows.filter (keptSnapshot date) =
    s.snapshots.rows.filter (keptSnapshot date)
  salesHistory : t.salesHistory.rows.filter (keptSale date) =
    s.salesHistory.rows.filter (keptSale date)

instance (date : Time) : IsPreorder SnapshotDb (SameButDay date) where
  refl _ := ⟨rfl, rfl⟩
  trans _ _ _ h h' := ⟨h'.snapshots.trans h.snapshots, h'.salesHistory.trans h.salesHistory⟩

/-- Deleting what a job does not keep. -/
theorem keeps_deleteSnapshots {R : Type} {date : Time} {start : SnapshotDb}
    {p : InventorySnapshot → Bool} (hp : ∀ r, keptSnapshot date r → p r = false) :
    Session.Keeps (SameButDay date) start (deleteSnapshots p : SnapshotOp R ℕ) := by
  refine Session.keeps_transaction (Session.keeps_statement fun s _ => ⟨?_, rfl⟩)
  show (s.snapshots.rows.filter _).filter _ = _
  rw [List.filter_filter]
  refine List.filter_congr fun r _ => ?_
  cases hr : keptSnapshot date r with
  | true => simp [hp r hr]
  | false => rfl

/-- A job only touches its day, and what is past the retention. -/
theorem keeps_snapshotJob (now : Time) (start : SnapshotDb) :
    (snapshotJob now).Keeps (SameButDay (dayKeyOf now)) start := by
  refine Session.Keeps.program (Session.keeps_query_bind fun db _ => ?_)
  refine Session.keeps_bind (keeps_deleteSnapshots fun r hr => ?_) fun _ =>
    Session.keeps_bind (Session.keeps_forM fun chunk hrows => ?_) fun _ =>
      Session.keeps_bind (keeps_deleteSnapshots fun r hr => ?_) fun _ =>
        Session.keeps_bind ?_ fun _ => Session.keeps_pure _
  · exact decide_eq_false (of_decide_eq_true hr).1
  · -- the rows of a chunk are of the day
    refine Session.keeps_transaction (Session.keeps_bind (Session.keeps_statement fun s _ => ?_)
      fun taken => Session.keeps_ite (Session.keeps_throw _) (Session.keeps_pure _))
    unfold SnapshotDb.insert
    split
    · refine ⟨?_, rfl⟩
      show (s.snapshots.rows ++ chunk).filter _ = _
      rw [List.filter_append]
      refine (congrArg _ (List.filter_eq_nil_iff.mpr fun r hr => ?_)).trans (List.append_nil _)
      obtain ⟨p, -, rfl⟩ :=
        List.mem_map.mp ((Series.mem_slices (by decide)).mp ⟨chunk, hrows, hr⟩)
      simp [keptSnapshot]
    · exact refl_of _ s
  · exact decide_eq_false (not_lt.mpr (of_decide_eq_true hr).2)
  · refine Session.keeps_transaction (Session.keeps_statement fun s _ => ⟨rfl, ?_⟩)
    show (s.salesHistory.rows.filter _).filter _ = _
    rw [List.filter_filter]
    refine List.filter_congr fun r _ => ?_
    simp [keptSale]

/-- A run that is lost after some steps, with the products there were. -/
structure Attempt where
  products : Table StockedProduct
  now : Time
  steps : ℕ

/-- What an attempt leaves. -/
def Attempt.leaves (answer : Empty → Bool) (db : SnapshotDb) (a : Attempt) : SnapshotDb :=
  (snapshotJob a.now).crash answer a.steps { db with products := a.products }
    { db with products := a.products }

/-- **Converges.** Whatever attempts of the day were lost before, and whatever the products were
then, a whole run leaves the units of the products there are; snapshots of other days and sales are
those there were before the first attempt, within the retention. -/
theorem snapshot_converges (answer : Empty → Bool) (now : Time) (attempts : List Attempt)
    (hday : ∀ a ∈ attempts, dayKeyOf a.now = dayKeyOf now) (products : Table StockedProduct)
    (db : SnapshotDb) :
    ∃ result u, (snapshotJob now).run answer
        { attempts.foldl (Attempt.leaves answer) db with products } = (some result, u) ∧
      u.snapshots.rows = db.snapshots.rows.filter (keptSnapshot (dayKeyOf now)) ++
        snapshotRows products (dayKeyOf now) ∧
      u.salesHistory.rows = db.salesHistory.rows.filter (keptSale (dayKeyOf now)) := by
  have hsame : SameButDay (dayKeyOf now) db (attempts.foldl (Attempt.leaves answer) db) := by
    induction attempts generalizing db with
    | nil => exact refl_of _ db
    | cons a attempts ih =>
        have hlost := Program.rel_crash answer
          (keeps_snapshotJob a.now { db with products := a.products }) a.steps (refl_of _ _)
          (refl_of _ _)
        rw [hday a List.mem_cons_self] at hlost
        exact IsTrans.trans _ _ _ ⟨hlost.snapshots, hlost.salesHistory⟩
          (ih (fun b hb => hday b (List.mem_cons_of_mem a hb)) _)
  obtain ⟨result, u, hrun, hrows, hsales⟩ := run_snapshot answer now
    { attempts.foldl (Attempt.leaves answer) db with products }
  exact ⟨result, u, hrun, hrows.trans (congrArg (· ++ _) hsame.snapshots),
    hsales.trans hsame.salesHistory⟩

/-- A product whose units were sold between two attempts. -/
def stocked (units : ℚ) : Table StockedProduct :=
  .single { id := 1, currentStock := units }

/-- The day shows the units of the last one. -/
theorem snapshot_converges_stocked :
    ∃ result u, (snapshotJob 0).run Empty.elim
        { [(⟨stocked 5, 0, 4⟩ : Attempt)].foldl (Attempt.leaves Empty.elim) {} with
          products := stocked 3 } = (some result, u) ∧
      u.snapshots.rows = [{ productId := 1, date := 0, onHand := 3 }] := by
  obtain ⟨result, u, hrun, hrows, -⟩ := snapshot_converges Empty.elim 0 [⟨stocked 5, 0, 4⟩]
    (by simp) (stocked 3) {}
  exact ⟨result, u, hrun, hrows⟩

end Restock.Inventory
