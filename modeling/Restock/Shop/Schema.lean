import Mathlib.Algebra.Order.Ring.Rat
import Restock.Store.Statement

/-!
# The shop's database

The rows of `packages/db/prisma/schema.prisma` that purchasing and the inventory rollup
read and write, one table per model, for one tenant: row-level security scopes every query
to the tenant, so the other tenants' rows are not part of the state. Columns no modelled
operation reads are left out.

Float columns are rationals, since every sum and product the code takes of them is
compared exactly. Integer columns are unbounded integers. Identifiers are opaque, so they
are natural numbers; an instant is its epoch in milliseconds.
-/

namespace Restock

/-- A `Product` id. -/
abbrev ProductId : Type := ℕ
/-- A `PurchaseOrder` id. -/
abbrev PoId : Type := ℕ
/-- A `PurchaseOrderLine` id. -/
abbrev LineId : Type := ℕ
/-- An `Order` (queue row) id. -/
abbrev OrderId : Type := ℕ
/-- A `Location` id. -/
abbrev LocationId : Type := ℕ
/-- A `Supplier` id. -/
abbrev SupplierId : Type := ℕ
/-- An instant, in milliseconds since the epoch. -/
abbrev Time : Type := ℤ

/-- `Tenant`: the workspace columns purchase orders are numbered and labelled with. -/
structure Tenant where
  name : String
  currency : String
  poNumberFloor : ℤ
  deriving DecidableEq, Repr

/-- `Supplier`. -/
structure Supplier where
  id : SupplierId
  name : String
  email : Option String := none
  country : Option String := none
  leadTimeAvgDays : Option ℤ := none
  moq : ℤ := 1
  deriving DecidableEq, Repr

/-- `Product`: one row per variant. -/
structure Product where
  id : ProductId
  sku : String := ""
  title : String := ""
  costKes : ℚ := 0
  currentStock : ℚ := 0
  onOrder : ℤ := 0
  supplierId : Option SupplierId := none
  deriving DecidableEq, Repr

/-- `PurchaseOrder.status`. -/
inductive PoStatus
  | draft
  | sent
  | partiallyReceived
  | received
  | cancelled
  deriving DecidableEq, Repr

/-- `PurchaseOrder`, without its lines. -/
structure PurchaseOrder where
  id : PoId
  poNumber : String := ""
  supplierId : Option SupplierId := none
  status : PoStatus := .draft
  currency : String := "KES"
  subtotalKes : ℚ := 0
  createdAt : Time := 0
  createdByName : Option String := none
  sentAt : Option Time := none
  expectedAt : Option Time := none
  receivedAt : Option Time := none
  cancelledAt : Option Time := none
  cancelledByName : Option String := none
  deletedAt : Option Time := none
  deriving DecidableEq, Repr

/-- `PurchaseOrderLine`. -/
structure PurchaseOrderLine where
  id : LineId
  purchaseOrderId : PoId
  productId : ProductId
  sku : String := ""
  title : String := ""
  quantity : ℤ
  unitCostKes : ℚ := 0
  lineTotalKes : ℚ := 0
  recommendedQty : Option ℤ := none
  receivedQty : ℤ := 0
  receivedAt : Option Time := none
  deriving DecidableEq, Repr

/-- `Order.status`. -/
inductive OrderStatus
  | pending
  | ordered
  | completed
  | cancelled
  deriving DecidableEq, Repr

/-- `Order`: a row of the order queue. -/
structure Order where
  id : OrderId
  status : OrderStatus := .pending
  productId : Option ProductId := none
  orderedQty : Option ℤ := none
  purchaseOrderId : Option PoId := none
  orderedAt : Option Time := none
  expectedArrivalAt : Option Time := none
  receivedAt : Option Time := none
  stockAtOrder : Option ℚ := none
  deriving DecidableEq, Repr

/-- `Location`. -/
structure Location where
  id : LocationId
  shopifyLocationId : Option String := none
  name : String := ""
  locationType : Option String := none
  roleStatus : Option String := none
  deriving DecidableEq, Repr

/-- `InventoryLevel`: the units of one product at one location. -/
structure InventoryLevel where
  locationId : LocationId
  productId : ProductId
  onHand : ℤ := 0
  available : Option ℤ := none
  incoming : ℤ := 0
  deriving DecidableEq, Repr

instance : Store.Keyed Supplier SupplierId := ⟨Supplier.id⟩
instance : Store.Keyed Product ProductId := ⟨Product.id⟩
instance : Store.Keyed PurchaseOrder PoId := ⟨PurchaseOrder.id⟩
instance : Store.Keyed PurchaseOrderLine LineId := ⟨PurchaseOrderLine.id⟩
instance : Store.Keyed Order OrderId := ⟨Order.id⟩
instance : Store.Keyed Location LocationId := ⟨Location.id⟩
-- `@@unique([locationId, productId])` is the key every statement on a level goes by.
instance : Store.Keyed InventoryLevel (LocationId × ProductId) :=
  ⟨fun level => (level.locationId, level.productId)⟩

section Keys

@[simp] theorem key_supplier (r : Supplier) : Store.Keyed.key r = r.id := rfl
@[simp] theorem key_product (r : Product) : Store.Keyed.key r = r.id := rfl
@[simp] theorem key_purchaseOrder (r : PurchaseOrder) : Store.Keyed.key r = r.id := rfl
@[simp] theorem key_line (r : PurchaseOrderLine) : Store.Keyed.key r = r.id := rfl
@[simp] theorem key_order (r : Order) : Store.Keyed.key r = r.id := rfl
@[simp] theorem key_location (r : Location) : Store.Keyed.key r = r.id := rfl
@[simp] theorem key_level (r : InventoryLevel) :
    Store.Keyed.key r = (r.locationId, r.productId) := rfl

end Keys

/-- One tenant's database. -/
structure Db where
  tenant : Option Tenant := none
  suppliers : Store.Table Supplier := .empty
  products : Store.Table Product := .empty
  purchaseOrders : Store.Table PurchaseOrder := .empty
  lines : Store.Table PurchaseOrderLine := .empty
  orders : Store.Table Order := .empty
  locations : Store.Table Location := .empty
  inventoryLevels : Store.Table InventoryLevel := .empty
  deriving DecidableEq

/-- What a row lock is taken on. -/
inductive RowKey
  | product (id : ProductId)
  | purchaseOrder (id : PoId)
  | line (id : LineId)
  | order (id : OrderId)
  | location (id : LocationId)
  | inventoryLevel (key : LocationId × ProductId)
  deriving DecidableEq

/-- The two states hold the same row under a key. -/
def RowKey.same : RowKey → Db → Db → Prop
  | .product id, s, t => s.products.find id = t.products.find id
  | .purchaseOrder id, s, t => s.purchaseOrders.find id = t.purchaseOrders.find id
  | .line id, s, t => s.lines.find id = t.lines.find id
  | .order id, s, t => s.orders.find id = t.orders.find id
  | .location id, s, t => s.locations.find id = t.locations.find id
  | .inventoryLevel key, s, t => s.inventoryLevels.find key = t.inventoryLevels.find key

instance : Store.RowModel Db RowKey where
  same := RowKey.same
  refl k s := by cases k <;> rfl
  trans k _ _ _ h h' := by cases k <;> exact Eq.trans h h'

section Tables

instance : Store.Stored Db Product where
  get := Db.products
  set db products := { db with products }
  name := .product
  get_set _ _ := rfl
  set_get _ := rfl
  frame _ _ row h := by cases row <;> first | exact h _ rfl | rfl
  find_of_same h := h

instance : Store.Stored Db PurchaseOrder where
  get := Db.purchaseOrders
  set db purchaseOrders := { db with purchaseOrders }
  name := .purchaseOrder
  get_set _ _ := rfl
  set_get _ := rfl
  frame _ _ row h := by cases row <;> first | exact h _ rfl | rfl
  find_of_same h := h

instance : Store.Stored Db PurchaseOrderLine where
  get := Db.lines
  set db lines := { db with lines }
  name := .line
  get_set _ _ := rfl
  set_get _ := rfl
  frame _ _ row h := by cases row <;> first | exact h _ rfl | rfl
  find_of_same h := h

instance : Store.Stored Db Order where
  get := Db.orders
  set db orders := { db with orders }
  name := .order
  get_set _ _ := rfl
  set_get _ := rfl
  frame _ _ row h := by cases row <;> first | exact h _ rfl | rfl
  find_of_same h := h

instance : Store.Stored Db Location where
  get := Db.locations
  set db locations := { db with locations }
  name := .location
  get_set _ _ := rfl
  set_get _ := rfl
  frame _ _ row h := by cases row <;> first | exact h _ rfl | rfl
  find_of_same h := h

instance : Store.Stored Db InventoryLevel where
  get := Db.inventoryLevels
  set db inventoryLevels := { db with inventoryLevels }
  name := .inventoryLevel
  get_set _ _ := rfl
  set_get _ := rfl
  frame _ _ row h := by cases row <;> first | exact h _ rfl | rfl
  find_of_same h := h

variable (db : Db)

@[simp] theorem get_products : (Store.Stored.get db : Store.Table Product) = db.products := rfl
@[simp] theorem get_purchaseOrders :
    (Store.Stored.get db : Store.Table PurchaseOrder) = db.purchaseOrders := rfl
@[simp] theorem get_lines :
    (Store.Stored.get db : Store.Table PurchaseOrderLine) = db.lines := rfl
@[simp] theorem get_orders : (Store.Stored.get db : Store.Table Order) = db.orders := rfl
@[simp] theorem get_locations :
    (Store.Stored.get db : Store.Table Location) = db.locations := rfl
@[simp] theorem get_inventoryLevels :
    (Store.Stored.get db : Store.Table InventoryLevel) = db.inventoryLevels := rfl

@[simp] theorem set_products (t : Store.Table Product) :
    Store.Stored.set db t = { db with products := t } := rfl
@[simp] theorem set_purchaseOrders (t : Store.Table PurchaseOrder) :
    Store.Stored.set db t = { db with purchaseOrders := t } := rfl
@[simp] theorem set_lines (t : Store.Table PurchaseOrderLine) :
    Store.Stored.set db t = { db with lines := t } := rfl
@[simp] theorem set_orders (t : Store.Table Order) :
    Store.Stored.set db t = { db with orders := t } := rfl
@[simp] theorem set_locations (t : Store.Table Location) :
    Store.Stored.set db t = { db with locations := t } := rfl
@[simp] theorem set_inventoryLevels (t : Store.Table InventoryLevel) :
    Store.Stored.set db t = { db with inventoryLevels := t } := rfl

end Tables

/-- The names of the advisory locks purchasing takes. -/
inductive LockName
  /-- `po-receive:<poId>`. -/
  | poReceive (poId : PoId)
  /-- `po-number:<tenantId>`. -/
  | poNumber
  deriving DecidableEq

/-- What a purchasing operation throws. -/
inductive Failure
  /-- `P2025`: the row an update or delete names is gone. -/
  | recordNotFound
  /-- `P2002`: the primary key of an insert is taken. -/
  | uniqueViolation
  /-- `NO_LONGER_DRAFT`: the draft was sent underneath an edit. -/
  | noLongerDraft
  /-- `QueueClaimed`: another create took some of the queue rows. -/
  | queueClaimed
  /-- The email could not be sent. -/
  | emailFailed
  /-- `TypeError`: a property of something undefined was read. -/
  | typeError
  deriving DecidableEq

/-- A purchasing operation: a session of statements on the shop's database, emailing
messages of type `M` inside a program that ends in an `R`. -/
abbrev Op (M R α : Type) : Type := Store.Session Db RowKey LockName M Failure R α

/-- The whole program of a client that performs a purchasing operation. -/
abbrev OpProgram (M R : Type) : Type := Store.Program Db RowKey LockName M R

namespace Db

/-- The lines of a purchase order. -/
def linesOf (db : Db) (poId : PoId) : List PurchaseOrderLine :=
  db.lines.rows.filter fun l => l.purchaseOrderId = poId

/-- The lines of an order have distinct ids. -/
theorem nodup_linesOf (db : Db) (poId : PoId) :
    ((db.linesOf poId).map PurchaseOrderLine.id).Nodup :=
  db.lines.nodup.sublist (List.filter_sublist.map _)

/-- The stored order has a status that satisfies a predicate. -/
def OrderIs (db : Db) (poId : PoId) (P : PoStatus → Prop) : Prop :=
  ∃ po, db.purchaseOrders.find poId = some po ∧ P po.status

/-- The database with the row of an order rewritten. -/
def mapOrder (db : Db) (poId : PoId) (f : PurchaseOrder → PurchaseOrder) : Db :=
  { db with purchaseOrders := db.purchaseOrders.update (fun po => po.id = poId) f }

section MapOrder

variable (db : Db) (poId : PoId) {f : PurchaseOrder → PurchaseOrder}

@[simp] theorem mapOrder_lines : (db.mapOrder poId f).lines = db.lines := rfl
@[simp] theorem mapOrder_orders : (db.mapOrder poId f).orders = db.orders := rfl
@[simp] theorem linesOf_mapOrder (id : PoId) : (db.mapOrder poId f).linesOf id = db.linesOf id :=
  rfl

variable {db poId}

/-- Looking an order up after its row was rewritten. -/
theorem find_mapOrder {po : PurchaseOrder} (h : db.purchaseOrders.find poId = some po)
    (hf : ∀ p, (f p).id = p.id) : (db.mapOrder poId f).purchaseOrders.find poId = some (f po) := by
  have hkey : ∀ p : PurchaseOrder, decide (p.id = poId) ↔ Store.Keyed.key p = poId := by simp
  rw [mapOrder, Store.Table.find_update_key _ hf hkey, if_pos rfl, h]
  rfl

/-- Looking up an order whose row was not rewritten. -/
theorem find_mapOrder_of_ne {id : PoId} (h : id ≠ poId) (hf : ∀ p, (f p).id = p.id) :
    (db.mapOrder poId f).purchaseOrders.find id = db.purchaseOrders.find id := by
  have hkey : ∀ p : PurchaseOrder, decide (p.id = poId) ↔ Store.Keyed.key p = poId := by simp
  rw [mapOrder, Store.Table.find_update_key _ hf hkey, if_neg h]

end MapOrder

/-- The order under an id that is not deleted, with its lines. -/
def findPurchaseOrder (db : Db) (poId : PoId) :
    Option (PurchaseOrder × List PurchaseOrderLine) :=
  (db.purchaseOrders.rows.find? fun po => po.id = poId ∧ po.deletedAt = none).map
    fun po => (po, db.linesOf poId)

/-- The query for an order finds it when it is stored and not deleted. -/
theorem find?_order_eq_some {db : Db} {poId : PoId} {po : PurchaseOrder} :
    (db.purchaseOrders.rows.find? fun p => p.id = poId ∧ p.deletedAt = none) = some po ↔
      db.purchaseOrders.find poId = some po ∧ po.deletedAt = none := by
  constructor
  · intro h
    have hp : po.id = poId ∧ po.deletedAt = none := by simpa using List.find?_some h
    exact ⟨Store.Table.find_eq_some.mpr ⟨List.mem_of_find?_eq_some h, hp.1⟩, hp.2⟩
  · rintro ⟨h, hdeleted⟩
    obtain ⟨hmem, hid⟩ := Store.Table.find_eq_some.mp h
    cases hf : db.purchaseOrders.rows.find? fun p => p.id = poId ∧ p.deletedAt = none with
    | none =>
        have hno : po.id = poId → ¬ po.deletedAt = none := by
          simpa using List.find?_eq_none.mp hf po hmem
        exact absurd hdeleted (hno hid)
    | some p =>
        have hp : p.id = poId ∧ p.deletedAt = none := by simpa using List.find?_some hf
        rw [Store.Table.eq_of_key_eq (List.mem_of_find?_eq_some hf) hmem (hp.1.trans hid.symm)]

/-- An order is found when it is stored and not deleted, with its lines. -/
theorem findPurchaseOrder_eq_some {db : Db} {poId : PoId} {po : PurchaseOrder}
    {lines : List PurchaseOrderLine} :
    db.findPurchaseOrder poId = some (po, lines) ↔
      db.purchaseOrders.find poId = some po ∧ po.deletedAt = none ∧ lines = db.linesOf poId := by
  rw [findPurchaseOrder, Option.map_eq_some_iff]
  constructor
  · rintro ⟨p, hp, heq⟩
    obtain ⟨h, hdeleted⟩ := find?_order_eq_some.mp hp
    cases heq
    exact ⟨h, hdeleted, rfl⟩
  · rintro ⟨h, hdeleted, rfl⟩
    exact ⟨po, find?_order_eq_some.mpr ⟨h, hdeleted⟩, rfl⟩

end Db

section FindPurchaseOrder

variable {M R : Type}

/-- `purchaseOrder.findFirst({ where: { id, deletedAt: null }, select: { …, lines } })`: one
statement for the order and, when there is one, another for its lines. -/
def findPurchaseOrder (poId : PoId) :
    Op M R (Option (PurchaseOrder × List PurchaseOrderLine)) := do
  let some po ← Store.Session.findFirst PurchaseOrder fun po => po.id = poId ∧ po.deletedAt = none
    | return none
  let lines ← Store.Session.findMany PurchaseOrderLine fun l => l.purchaseOrderId = poId
  return some (po, lines)

/-- With the database to itself, the two statements find the order and its lines. -/
@[simp]
theorem exec_findPurchaseOrder (answer : M → Bool) (committed working : Db) (poId : PoId)
    (ok : Option (PurchaseOrder × List PurchaseOrderLine) → OpProgram M R)
    (err : Failure → OpProgram M R) :
    (findPurchaseOrder poId ok err).exec answer committed working
      = (ok (working.findPurchaseOrder poId)).exec answer committed working := by
  unfold findPurchaseOrder
  rw [Store.Session.bind_apply, Store.Session.exec_findFirst, Db.findPurchaseOrder,
    get_purchaseOrders]
  cases working.purchaseOrders.rows.find? fun po => po.id = poId ∧ po.deletedAt = none <;> rfl

end FindPurchaseOrder

end Restock
