import Restock.Purchasing.Movement

/-!
# Receiving a purchase order

`apps/web/lib/po/receive-po.ts`: line-by-line receiving with partial quantities, as one
transaction under an advisory lock on the order. The audit event written after the commit
is left out, and the clock is read once.

* `receivePoLines` — the code;
* `Db.AcceptsReceipt` — when a call goes through;
* `run_receivePoLines`, `run_receivePoLines_rejected` — what a call does to the database
  when it goes through and when it does not.
-/

namespace Restock

open Store

variable {M R : Type}

/-- Why a receipt was refused. -/
inductive ReceiveRefusal
  | notFound
  | notReceivable
  | badLocation
  | badLine
  | badQty
  | empty
  deriving DecidableEq, Repr

/-- `ReceivePoResult`. -/
inductive ReceivePoResult
  | ok (status : PoStatus) (receivedUnits : ℤ) (stockFollowsStore : Bool)
  | refused (reason : ReceiveRefusal)
  deriving DecidableEq, Repr

/-- Whether a receipt went through. -/
def ReceivePoResult.isOk : ReceivePoResult → Bool
  | .ok .. => true
  | .refused _ => false

/-- What is wrong with a receipt entry, given the lines as loaded. -/
def receiveProblem (lines : List LoadedLine) (entry : ReceiveEntry) : Option ReceiveRefusal :=
  match lines.find? fun l => l.id = entry.lineId with
  | none => some .badLine
  | some line =>
      if ¬ entry.qty.isInt then some .badQty
      else if entry.qty > line.quantity - line.receivedQty then some .badQty
      else none

/-- What the receipt loop keeps in memory. -/
structure ReceiveProgress where
  lines : List LoadedLine
  receivedUnits : ℤ := 0
  fullyReceivedProducts : List ProductId := []
  deriving DecidableEq, Repr

/-- The loop's memory after an entry of `qty` units on `line`. -/
def ReceiveProgress.book (progress : ReceiveProgress) (line : LoadedLine) (qty : ℤ) :
    ReceiveProgress where
  lines := LoadedLine.setReceived progress.lines line.id (line.receivedQty + qty)
  receivedUnits := progress.receivedUnits + qty
  fullyReceivedProducts :=
    if line.quantity ≤ line.receivedQty + qty then
      progress.fullyReceivedProducts ++ [line.productId]
    else progress.fullyReceivedProducts

/-- The body of the receipt loop. -/
def receiveEntry (locationId : LocationId) (stockFollowsStore : Bool) (now : Time)
    (progress : ReceiveProgress) (entry : ReceiveEntry) : Op M R ReceiveProgress := do
  let some line := progress.lines.find? fun l => l.id = entry.lineId
    | throw .typeError
  let qty := entry.qty.num
  Session.update PurchaseOrderLine line.id
    (·.setReceived (line.receivedQty + qty) (some now)) .recordNotFound
  -- Where the store reports the shelf, the receipt stops here.
  unless stockFollowsStore do
    Session.upsert (newLevel locationId line.productId qty) (·.increment qty)
    let _ ← Session.updateMany InventoryLevel (isLevel locationId line.productId)
      (·.coalesceIn qty)
  return progress.book line qty

/-- A queue row completed by a receipt. -/
def Order.complete (now : Time) (o : Order) : Order :=
  { o with status := .completed, receivedAt := some now }

/-- Whether a queue row waits for one of the products on an order. -/
def isAwaiting (poId : PoId) (productIds : List ProductId) (o : Order) : Bool :=
  o.purchaseOrderId = some poId ∧ o.status = .ordered ∧
    o.productId.any fun productId => productId ∈ productIds

/-- A queue row waits for a product: it is linked to the order and still outstanding. -/
theorem isAwaiting_iff {poId : PoId} {productIds : List ProductId} {o : Order} :
    isAwaiting poId productIds o ↔ o.purchaseOrderId = some poId ∧ o.status = .ordered ∧
      ∃ productId ∈ productIds, o.productId = some productId := by
  cases hproduct : o.productId <;> simp [isAwaiting, hproduct]

/-- The row update of an order at the end of a receipt. -/
def PurchaseOrder.setReceipt (allFull : Bool) (now : Time) (po : PurchaseOrder) :
    PurchaseOrder :=
  if allFull then { po with status := .received, receivedAt := some now }
  else { po with status := .partiallyReceived }

/-- Complete the queue rows of an order that wait for one of the products. -/
def completeAwaiting (poId : PoId) (productIds : List ProductId) (now : Time) :
    Op M R Unit := do
  if productIds ≠ [] then
    let _ ← Session.updateMany Order (isAwaiting poId productIds) (·.complete now)

/-- The end of a receipt: the queue rows, the status of the order and the answer. -/
def settleReceipt (poId : PoId) (progress : ReceiveProgress) (stockFollowsStore : Bool)
    (now : Time) : Op M R ReceivePoResult := do
  completeAwaiting poId progress.fullyReceivedProducts now
  let allFull := progress.lines.all fun l => l.quantity ≤ l.receivedQty
  Session.update PurchaseOrder poId (·.setReceipt allFull now) .recordNotFound
  return .ok (if allFull then .received else .partiallyReceived) progress.receivedUnits
    stockFollowsStore

/-- Receive some units of some lines of an order at a location. -/
def receivePoLines (poId : PoId) (entries : List ReceiveEntry) (locationId : LocationId)
    (now : Time) : Op M R ReceivePoResult := do
  let receipts := positiveEntries entries
  if receipts = [] then return .refused .empty
  Session.transaction do
    Session.advisoryLock (.poReceive poId)
    let some (po, poLines) ← findPurchaseOrder poId
      | return .refused .notFound
    if po.status ≠ .sent ∧ po.status ≠ .partiallyReceived then
      return .refused .notReceivable
    let some location ← Session.findFirst Location (·.id = locationId)
      | return .refused .badLocation
    let stockFollowsStore := location.shopifyLocationId.isSome
    let lines := poLines.map PurchaseOrderLine.load
    if let some reason := receipts.findSome? (receiveProblem lines) then
      return .refused reason
    let progress ← receipts.foldlM (receiveEntry locationId stockFollowsStore now) { lines }
    recomputeSellableStock
      (if stockFollowsStore then [] else touchedProducts lines receipts)
    settleReceipt po.id progress stockFollowsStore now

/-! ## The receipt loop -/

/-- The receipt loop at a location. -/
def receiveLoop (location : Location) (now : Time) : EntryLoop ReceiveProgress where
  lines := ReceiveProgress.lines
  book := ReceiveProgress.book
  signed := id
  stamp _ := some now
  stock t m := if location.shopifyLocationId.isSome then t else stockIn location.id t m
  lines_book _ _ _ := rfl

section Exec

variable (answer : M → Bool) (committed : Db)

/-- One entry whose line is loaded as it is stored. -/
theorem exec_receiveEntry {location : Location} {now : Time} {progress : ReceiveProgress}
    {entry : ReceiveEntry} {line : LoadedLine} {poId : PoId}
    {working : Db} (hlines : progress.lines = loadLines working.lines poId)
    (hfind : (progress.lines.find? fun l => l.id = entry.lineId) = some line)
    (ok : ReceiveProgress → OpProgram M R) (err : Failure → OpProgram M R) :
    (receiveEntry location.id location.shopifyLocationId.isSome now progress entry ok err).exec
        answer committed working
      = (ok (progress.book line entry.qty.num)).exec answer committed
          (working.restocked
            ((receiveLoop location now).linesAfter
              [⟨line.id, line.productId, entry.qty.num⟩] working.lines)
            ((receiveLoop location now).stock working.inventoryLevels
              ⟨line.id, line.productId, entry.qty.num⟩)) := by
  have hmem : line ∈ loadLines working.lines poId := hlines ▸ List.mem_of_find?_eq_some hfind
  obtain ⟨row, hrow⟩ := find_of_mem_loadLines hmem
  have hbook := update_setReceived (fun _ => some now) hmem entry.qty.num
  unfold receiveEntry
  rw [hfind]
  simp only [Session.bind_apply, Session.exec_update _ _ _ _ hrow, key_line, set_lines,
    get_lines, hbook]
  cases hfollows : location.shopifyLocationId.isSome with
  | true => simp [receiveLoop, EntryLoop.linesAfter, hfollows, Db.restocked]
  | false => simp [receiveLoop, EntryLoop.linesAfter, hfollows, stockIn, newLevel, Db.restocked]

end Exec

/-! ## A whole call -/

/-- An entry passes the check of a receipt when it fits what is outstanding on its line. -/
theorem receiveProblem_eq_none {lines : List LoadedLine} {entry : ReceiveEntry} :
    receiveProblem lines entry = none ↔
      EntryFits (fun l => l.quantity - l.receivedQty) lines entry := by
  unfold receiveProblem EntryFits
  cases lines.find? fun l => l.id = entry.lineId with
  | none => simp
  | some line =>
      by_cases hint : entry.qty.isInt
      · by_cases hfits : entry.qty ≤ line.quantity - line.receivedQty
        · simp [hint, hfits]
        · simp [hint, lt_of_not_ge hfits, hfits]
      · simp [hint]

/-- When `receivePoLines` goes through. -/
abbrev ReceiptAccepted (db : Db) (poId : PoId) (entries : List ReceiveEntry)
    (locationId : LocationId) (po : PurchaseOrder) (location : Location) : Prop :=
  CallAccepted (fun status => status = .sent ∨ status = .partiallyReceived)
    (fun l => l.quantity - l.receivedQty) db poId entries locationId po location

/-- The memory of the receipt loop at its end. -/
def Db.receiptProgress (db : Db) (poId : PoId) (entries : List ReceiveEntry)
    (location : Location) (now : Time) : ReceiveProgress :=
  (positiveEntries entries).foldl (receiveLoop location now).next
    { lines := loadLines db.lines poId }

/-- The database after the loop of a receipt at a location. -/
def Db.afterReceipts (db : Db) (poId : PoId) (entries : List ReceiveEntry)
    (location : Location) (now : Time) : Db :=
  db.restocked ((receiveLoop location now).linesAfter (db.movesOf poId entries) db.lines)
    ((db.movesOf poId entries).foldl (receiveLoop location now).stock db.inventoryLevels)

/-- The database after the end of a receipt. -/
def Db.settled (db : Db) (poId : PoId) (progress : ReceiveProgress) (now : Time) : Db :=
  { db with
    orders := db.orders.update (isAwaiting poId progress.fullyReceivedProducts) (·.complete now)
    purchaseOrders := db.purchaseOrders.update (fun p => p.id = poId)
      (·.setReceipt (progress.lines.all fun l => l.quantity ≤ l.receivedQty) now) }

/-- The database after a receipt that goes through. -/
def Db.received (db : Db) (poId : PoId) (entries : List ReceiveEntry) (location : Location)
    (now : Time) : Db :=
  ((db.afterReceipts poId entries location now).rolledUp
    (db.touchedBy poId entries location)).settled poId
      (db.receiptProgress poId entries location now) now

/-- What a receipt that goes through answers. -/
def Db.receiptAnswer (db : Db) (poId : PoId) (entries : List ReceiveEntry)
    (location : Location) (now : Time) : ReceivePoResult :=
  let progress := db.receiptProgress poId entries location now
  .ok
    (if progress.lines.all fun l => l.quantity ≤ l.receivedQty then .received
      else .partiallyReceived)
    progress.receivedUnits location.shopifyLocationId.isSome

section Received

variable (db : Db) (poId : PoId) (entries : List ReceiveEntry) (location : Location) (now : Time)

/-- The lines after a receipt. -/
theorem Db.received_lines : (db.received poId entries location now).lines
    = bookLines (fun _ => some now) (db.movesOf poId entries) db.lines := by
  change bookLines _ ((db.movesOf poId entries).map (Move.mapQty id)) db.lines = _
  rw [Move.mapQty_id, List.map_id]
  rfl

/-- The levels after a receipt. -/
theorem Db.received_levels : (db.received poId entries location now).inventoryLevels
    = if location.shopifyLocationId.isSome then db.inventoryLevels
      else (db.movesOf poId entries).foldl (stockIn location.id) db.inventoryLevels := by
  change (db.movesOf poId entries).foldl (receiveLoop location now).stock db.inventoryLevels = _
  cases h : location.shopifyLocationId.isSome with
  | true => simp [receiveLoop, h]
  | false => simp [receiveLoop, h]

/-- The products after a receipt. -/
theorem Db.received_products : (db.received poId entries location now).products
    = db.products.update (fun p => p.id ∈ db.touchedBy poId entries location)
        fun p => p.withStock ((db.received poId entries location now).sellableStock p.id) := rfl

/-- The queue rows after a receipt. -/
theorem Db.received_orders : (db.received poId entries location now).orders
    = db.orders.update
        (isAwaiting poId (db.receiptProgress poId entries location now).fullyReceivedProducts)
        (·.complete now) := rfl

/-- The orders after a receipt. -/
theorem Db.received_purchaseOrders : (db.received poId entries location now).purchaseOrders
    = db.purchaseOrders.update (fun p => p.id = poId)
        (·.setReceipt ((db.receiptProgress poId entries location now).lines.all fun l =>
          l.quantity ≤ l.receivedQty) now) := rfl

/-- The order after a receipt. -/
theorem Db.find_received {po : PurchaseOrder} (h : db.purchaseOrders.find poId = some po) :
    (db.received poId entries location now).purchaseOrders.find poId
      = some (po.setReceipt ((db.receiptProgress poId entries location now).lines.all fun l =>
          l.quantity ≤ l.receivedQty) now) := by
  have hid : po.id = poId := (Table.find_eq_some.mp h).2
  rw [Db.received_purchaseOrders, Table.find_update, h]
  · simp [hid]
  · intro p
    unfold PurchaseOrder.setReceipt
    split <;> rfl

end Received

section Call

variable (answer : M → Bool) {db : Db} {poId : PoId} {entries : List ReceiveEntry}
  {locationId : LocationId} {po : PurchaseOrder} {location : Location} {now : Time}

/-- The queue rows completed by a receipt. -/
@[simp]
theorem exec_completeAwaiting (poId : PoId) (productIds : List ProductId) (now : Time)
    (committed working : Db) (ok : Unit → OpProgram M R) (err : Failure → OpProgram M R) :
    (completeAwaiting poId productIds now ok err).exec answer committed working
      = (ok ()).exec answer committed
          { working with
            orders := working.orders.update (isAwaiting poId productIds) (·.complete now) } := by
  unfold completeAwaiting
  by_cases h : productIds = []
  · have hnone : working.orders.update (isAwaiting poId []) (·.complete now) = working.orders :=
      Table.update_of_forall_not _ fun o _ => by simp [isAwaiting]
    simp [h, hnone]
  · simp [h]

/-- A receipt whose checks pass books its moves and goes on to the rollup. -/
private theorem exec_receivePoLines_checked
    (h : CallChecked (fun status => status = .sent ∨ status = .partiallyReceived)
      (fun l => l.quantity - l.receivedQty) db poId entries locationId po location)
    (ok : ReceivePoResult → OpProgram M R) (err : Failure → OpProgram M R) :
    (receivePoLines poId entries locationId now ok err).exec answer db db
      = (recomputeSellableStock (db.touchedBy poId entries location)
          (fun _ => settleReceipt poId (db.receiptProgress poId entries location now)
            location.shopifyLocationId.isSome now (fun r => .commit (ok r))
            fun e => .rollback (err e))
          fun e => .rollback (err e)).exec answer db
        (db.afterReceipts poId entries location now) := by
  have hgate : ¬ (po.status ≠ .sent ∧ po.status ≠ .partiallyReceived) := by
    have := h.allowed; tauto
  have hvalid : (positiveEntries entries).findSome? (receiveProblem (loadLines db.lines poId))
      = none :=
    List.findSome?_eq_none_iff.mpr fun e he => receiveProblem_eq_none.mpr (h.fits e he)
  have hload : (db.linesOf poId).map PurchaseOrderLine.load = loadLines db.lines poId := rfl
  obtain rfl := h.order_id
  obtain rfl := h.place_id
  unfold receivePoLines
  simp only [if_neg h.nonempty, Session.bind_apply, Session.transaction_apply,
    Session.advisoryLock_apply, Program.exec_lock, exec_findPurchaseOrder, h.order,
    if_neg hgate, Session.exec_findFirst, get_locations, h.place, hload, hvalid]
  exact EntryLoop.exec_foldlM (receiveLoop location now)
    (fun hlines hfind => exec_receiveEntry answer db hlines hfind) rfl h.named _ _

/-- A receipt that is accepted goes through. -/
theorem exec_receivePoLines (h : ReceiptAccepted db poId entries locationId po location)
    (ok : ReceivePoResult → OpProgram M R) (err : Failure → OpProgram M R) :
    (receivePoLines poId entries locationId now ok err).exec answer db db
      = (ok (db.receiptAnswer poId entries location now)).exec answer
          (db.received poId entries location now) (db.received poId entries location now) := by
  rw [exec_receivePoLines_checked answer h.toCallChecked,
    exec_recomputeSellableStock _ _ _ _ (by simpa [Db.afterReceipts] using h.products)]
  unfold settleReceipt
  rw [Session.bind_apply, exec_completeAwaiting, Session.bind_apply,
    Session.exec_update (r := po)]
  · rfl
  · exact h.find_order

/-- A receipt that is not accepted is refused or throws, and leaves the database alone. -/
theorem exec_receivePoLines_rejected (now : Time)
    (h : ∀ po location, ¬ ReceiptAccepted db poId entries locationId po location)
    (ok : ReceivePoResult → OpProgram M R) (err : Failure → OpProgram M R) :
    (∃ reason, (receivePoLines poId entries locationId now ok err).exec answer db db
        = (ok (.refused reason)).exec answer db db) ∨
      ∃ e, (receivePoLines poId entries locationId now ok err).exec answer db db
        = (err e).exec answer db db := by
  by_cases hchecked : ∃ po location,
      CallChecked (fun status => status = .sent ∨ status = .partiallyReceived)
        (fun l => l.quantity - l.receivedQty) db poId entries locationId po location
  · obtain ⟨po, location, hchecked⟩ := hchecked
    have hmissing : ∃ id ∈ db.touchedBy poId entries location,
        (db.afterReceipts poId entries location now).products.find id = none :=
      hchecked.missing_of_not_accepted (h po location)
    obtain ⟨working, hrolled⟩ := exec_recomputeSellableStock_missing (M := M) (R := R) answer db
      (fun _ => settleReceipt poId (db.receiptProgress poId entries location now)
        location.shopifyLocationId.isSome now (fun r => .commit (ok r))
        fun e => .rollback (err e))
      (fun e => .rollback (err e)) hmissing
    exact .inr ⟨.recordNotFound, by rw [exec_receivePoLines_checked answer hchecked, hrolled]; rfl⟩
  refine .inl ?_
  unfold receivePoLines
  by_cases hempty : positiveEntries entries = []
  · exact ⟨.empty, by simp [hempty]⟩
  simp only [if_neg hempty, Session.bind_apply, Session.transaction_apply,
    Session.advisoryLock_apply, Program.exec_lock, exec_findPurchaseOrder]
  cases hpo : db.findPurchaseOrder poId with
  | none => exact ⟨.notFound, rfl⟩
  | some found =>
  obtain ⟨po, lines⟩ := found
  obtain ⟨hfind, -, rfl⟩ := Db.findPurchaseOrder_eq_some.mp hpo
  by_cases hgate : po.status ≠ .sent ∧ po.status ≠ .partiallyReceived
  · exact ⟨.notReceivable, by simp [hgate]⟩
  simp only [if_neg hgate, Session.bind_apply, Session.exec_findFirst, get_locations]
  cases hplace : db.locations.rows.find? fun l => l.id = locationId with
  | none => exact ⟨.badLocation, rfl⟩
  | some location =>
  have hload : (db.linesOf poId).map PurchaseOrderLine.load = loadLines db.lines poId := rfl
  simp only [hload]
  cases hvalid : (positiveEntries entries).findSome?
      (receiveProblem (loadLines db.lines poId)) with
  | some reason => exact ⟨reason, rfl⟩
  | none =>
    -- all the checks passed, which was excluded
    refine absurd ⟨po, location, hpo, ?_, hplace, hempty, fun e he => ?_⟩ hchecked
    · tauto
    · exact receiveProblem_eq_none.mp (List.findSome?_eq_none_iff.mp hvalid e he)

end Call

end Restock
