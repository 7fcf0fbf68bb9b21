import Restock.Purchasing.Receive

/-!
# Reversing a receipt

`apps/web/lib/po/unreceive-po.ts`: the inverse of receiving, line by line, as one
transaction under the same advisory lock. The audit event written after the commit is left
out, and the clock is read once. The lock makes calls on one order run one after the other.

* `unreceivePoLines` — the code;
* `ReversalAccepted` — when a call goes through;
* `exec_unreceivePoLines`, `exec_unreceivePoLines_rejected` — what a call does to the
  database when it goes through and when it does not;
* `ReceiptCall`, `ReceiptCall.perform`, `ReceiptCall.run` — a receipt or a reversal, and what one
  and many of them do;
* `ReceiptCall.Accepted` — when a call goes through, read off the database before it;
* `perform_accepted`, `perform_rejected` — and what it does then.
-/

namespace Restock

open Store

variable {M R : Type}

/-- Why a reversal was refused. -/
inductive UnreceiveRefusal
  | notFound
  | notReversible
  | badLocation
  | badLine
  | badQty
  | empty
  deriving DecidableEq, Repr

/-- `UnreceivePoResult`. -/
inductive UnreceivePoResult
  | ok (status : PoStatus) (reversedUnits : ℤ) (stockFollowsStore : Bool)
  | refused (reason : UnreceiveRefusal)
  deriving DecidableEq, Repr

/-- Whether a reversal went through. -/
def UnreceivePoResult.isOk : UnreceivePoResult → Bool
  | .ok .. => true
  | .refused _ => false

/-- What is wrong with a reversal entry, given the lines as loaded. -/
def unreceiveProblem (lines : List LoadedLine) (entry : ReceiveEntry) :
    Option UnreceiveRefusal :=
  match lines.find? fun l => l.id = entry.lineId with
  | none => some .badLine
  | some line =>
      if ¬ entry.qty.isInt then some .badQty
      else if entry.qty > line.receivedQty then some .badQty
      else none

/-- What the reversal loop keeps in memory. -/
structure UnreceiveProgress where
  lines : List LoadedLine
  reversedUnits : ℤ := 0
  droppedBelowFull : List ProductId := []
  deriving DecidableEq, Repr

/-- The loop's memory after an entry of `qty` units on `line`. -/
def UnreceiveProgress.book (progress : UnreceiveProgress) (line : LoadedLine) (qty : ℤ) :
    UnreceiveProgress where
  lines := LoadedLine.setReceived progress.lines line.id (line.receivedQty - qty)
  reversedUnits := progress.reversedUnits + qty
  droppedBelowFull :=
    if line.quantity ≤ line.receivedQty ∧ line.receivedQty - qty < line.quantity then
      progress.droppedBelowFull ++ [line.productId]
    else progress.droppedBelowFull

/-- The receipt time of a line after a reversal: a line with nothing booked in goes back to
never received. -/
def reversalStamp (now : Time) (receivedQty : ℤ) : Option Time :=
  if receivedQty = 0 then none else some now

/-- The body of the reversal loop. -/
def unreceiveEntry (locationId : LocationId) (stockFollowsStore : Bool) (now : Time)
    (progress : UnreceiveProgress) (entry : ReceiveEntry) : Op M R UnreceiveProgress := do
  let some line := progress.lines.find? fun l => l.id = entry.lineId
    | throw .typeError
  let qty := entry.qty.num
  Session.update PurchaseOrderLine line.id
    (·.setReceived (line.receivedQty - qty) (reversalStamp now (line.receivedQty - qty)))
    .recordNotFound
  unless stockFollowsStore do
    let _ ← Session.updateMany InventoryLevel (isLevel locationId line.productId)
      (·.decrement qty)
    let _ ← Session.updateMany InventoryLevel (isLevel locationId line.productId)
      (·.coalesceOut qty)
  return progress.book line qty

/-- A queue row put back to outstanding by a reversal. -/
def Order.reopen (o : Order) : Order :=
  { o with status := .ordered, receivedAt := none }

/-- Whether a queue row was completed for one of the products on an order. -/
def isCompleted (poId : PoId) (productIds : List ProductId) (o : Order) : Bool :=
  o.purchaseOrderId = some poId ∧ o.status = .completed ∧
    o.productId.any fun productId => productId ∈ productIds

/-- A queue row was completed for a product: it is linked to the order and complete. -/
theorem isCompleted_iff {poId : PoId} {productIds : List ProductId} {o : Order} :
    isCompleted poId productIds o ↔ o.purchaseOrderId = some poId ∧ o.status = .completed ∧
      ∃ productId ∈ productIds, o.productId = some productId := by
  cases hproduct : o.productId <;> simp [isCompleted, hproduct]

/-- The row update of an order at the end of a reversal. -/
def PurchaseOrder.setReversal (status : PoStatus) (allFull : Bool) (now : Time)
    (po : PurchaseOrder) : PurchaseOrder :=
  { po with status, receivedAt := if allFull then some now else none }

/-- Reopen the queue rows of an order completed for one of the products. -/
def reopenCompleted (poId : PoId) (productIds : List ProductId) : Op M R Unit := do
  if productIds ≠ [] then
    let _ ← Session.updateMany Order (isCompleted poId productIds) Order.reopen

/-- The status of an order, derived from what is booked in. -/
def reversalStatus (lines : List LoadedLine) : PoStatus :=
  if lines.all fun l => l.receivedQty = 0 then .sent
  else if lines.all fun l => l.quantity ≤ l.receivedQty then .received
  else .partiallyReceived

/-- The end of a reversal: the queue rows, the status of the order and the answer. -/
def settleReversal (poId : PoId) (progress : UnreceiveProgress) (stockFollowsStore : Bool)
    (now : Time) : Op M R UnreceivePoResult := do
  reopenCompleted poId progress.droppedBelowFull
  let allFull := progress.lines.all fun l => l.quantity ≤ l.receivedQty
  let status := reversalStatus progress.lines
  Session.update PurchaseOrder poId (·.setReversal status allFull now) .recordNotFound
  return .ok status progress.reversedUnits stockFollowsStore

/-- Take some units of some lines of an order back out of a location. -/
def unreceivePoLines (poId : PoId) (entries : List ReceiveEntry) (locationId : LocationId)
    (now : Time) : Op M R UnreceivePoResult := do
  let reversals := positiveEntries entries
  if reversals = [] then return .refused .empty
  Session.transaction do
    Session.advisoryLock (.poReceive poId)
    let some (po, poLines) ← findPurchaseOrder poId
      | return .refused .notFound
    if po.status ≠ .received ∧ po.status ≠ .partiallyReceived then
      return .refused .notReversible
    let some location ← Session.findFirst Location (·.id = locationId)
      | return .refused .badLocation
    let stockFollowsStore := location.shopifyLocationId.isSome
    let lines := poLines.map PurchaseOrderLine.load
    if let some reason := reversals.findSome? (unreceiveProblem lines) then
      return .refused reason
    let progress ← reversals.foldlM (unreceiveEntry locationId stockFollowsStore now) { lines }
    recomputeSellableStock
      (if stockFollowsStore then [] else touchedProducts lines reversals)
    settleReversal po.id progress stockFollowsStore now

/-! ## The reversal loop -/

/-- The reversal loop at a location. -/
def unreceiveLoop (location : Location) (now : Time) : EntryLoop UnreceiveProgress where
  lines := UnreceiveProgress.lines
  book := UnreceiveProgress.book
  signed := Neg.neg
  stamp := reversalStamp now
  stock t m := if location.shopifyLocationId.isSome then t else stockOut location.id t m
  lines_book _ _ _ := rfl

section Exec

variable (answer : M → Bool) (committed : Db)

/-- One entry whose line is loaded as it is stored. -/
theorem exec_unreceiveEntry {location : Location} {now : Time} {progress : UnreceiveProgress}
    {entry : ReceiveEntry} {line : LoadedLine} {poId : PoId} {working : Db}
    (hlines : progress.lines = loadLines working.lines poId)
    (hfind : (progress.lines.find? fun l => l.id = entry.lineId) = some line)
    (ok : UnreceiveProgress → OpProgram M R) (err : Failure → OpProgram M R) :
    (unreceiveEntry location.id location.shopifyLocationId.isSome now progress entry ok err).exec
        answer committed working
      = (ok (progress.book line entry.qty.num)).exec answer committed
          (working.restocked
            ((unreceiveLoop location now).linesAfter
              [⟨line.id, line.productId, entry.qty.num⟩] working.lines)
            ((unreceiveLoop location now).stock working.inventoryLevels
              ⟨line.id, line.productId, entry.qty.num⟩)) := by
  have hmem : line ∈ loadLines working.lines poId := hlines ▸ List.mem_of_find?_eq_some hfind
  obtain ⟨row, hrow⟩ := find_of_mem_loadLines hmem
  have hbook := update_setReceived (reversalStamp now) hmem (-entry.qty.num)
  rw [← sub_eq_add_neg] at hbook
  unfold unreceiveEntry
  rw [hfind]
  simp only [Session.bind_apply, Session.exec_update _ _ _ _ hrow, key_line, set_lines,
    get_lines, hbook]
  cases hfollows : location.shopifyLocationId.isSome with
  | true => simp [unreceiveLoop, EntryLoop.linesAfter, Move.mapQty, hfollows, Db.restocked]
  | false =>
      simp [unreceiveLoop, EntryLoop.linesAfter, Move.mapQty, hfollows, stockOut, Db.restocked]

end Exec

/-! ## A whole call -/

/-- An entry passes the check of a reversal when it fits what is booked in on its line. -/
theorem unreceiveProblem_eq_none {lines : List LoadedLine} {entry : ReceiveEntry} :
    unreceiveProblem lines entry = none ↔ EntryFits LoadedLine.receivedQty lines entry := by
  unfold unreceiveProblem EntryFits
  cases lines.find? fun l => l.id = entry.lineId with
  | none => simp
  | some line =>
      by_cases hint : entry.qty.isInt
      · by_cases hfits : entry.qty ≤ line.receivedQty
        · simp [hint, hfits]
        · simp [hint, lt_of_not_ge hfits, hfits]
      · simp [hint]

/-- When `unreceivePoLines` goes through. -/
abbrev ReversalAccepted (db : Db) (poId : PoId) (entries : List ReceiveEntry)
    (locationId : LocationId) (po : PurchaseOrder) (location : Location) : Prop :=
  CallAccepted (fun status => status = .received ∨ status = .partiallyReceived)
    LoadedLine.receivedQty db poId entries locationId po location

/-- The memory of the reversal loop at its end. -/
def Db.reversalProgress (db : Db) (poId : PoId) (entries : List ReceiveEntry)
    (location : Location) (now : Time) : UnreceiveProgress :=
  (positiveEntries entries).foldl (unreceiveLoop location now).next
    { lines := loadLines db.lines poId }

/-- The database after the loop of a reversal at a location. -/
def Db.afterReversals (db : Db) (poId : PoId) (entries : List ReceiveEntry)
    (location : Location) (now : Time) : Db :=
  db.restocked ((unreceiveLoop location now).linesAfter (db.movesOf poId entries) db.lines)
    ((db.movesOf poId entries).foldl (unreceiveLoop location now).stock db.inventoryLevels)

/-- The database after the end of a reversal. -/
def Db.unsettled (db : Db) (poId : PoId) (progress : UnreceiveProgress) (now : Time) : Db :=
  { db with
    orders := db.orders.update (isCompleted poId progress.droppedBelowFull) Order.reopen
    purchaseOrders := db.purchaseOrders.update (fun p => p.id = poId)
      (·.setReversal (reversalStatus progress.lines)
        (progress.lines.all fun l => l.quantity ≤ l.receivedQty) now) }

/-- The database after a reversal that goes through. -/
def Db.unreceived (db : Db) (poId : PoId) (entries : List ReceiveEntry) (location : Location)
    (now : Time) : Db :=
  ((db.afterReversals poId entries location now).rolledUp
    (db.touchedBy poId entries location)).unsettled poId
      (db.reversalProgress poId entries location now) now

/-- What a reversal that goes through answers. -/
def Db.reversalAnswer (db : Db) (poId : PoId) (entries : List ReceiveEntry)
    (location : Location) (now : Time) : UnreceivePoResult :=
  let progress := db.reversalProgress poId entries location now
  .ok (reversalStatus progress.lines) progress.reversedUnits location.shopifyLocationId.isSome

section Unreceived

variable (db : Db) (poId : PoId) (entries : List ReceiveEntry) (location : Location) (now : Time)

/-- The lines after a reversal. -/
theorem Db.unreceived_lines : (db.unreceived poId entries location now).lines
    = bookLines (reversalStamp now) (Move.reversed (db.movesOf poId entries)) db.lines := rfl

/-- The levels after a reversal. -/
theorem Db.unreceived_levels : (db.unreceived poId entries location now).inventoryLevels
    = if location.shopifyLocationId.isSome then db.inventoryLevels
      else (db.movesOf poId entries).foldl (stockOut location.id) db.inventoryLevels := by
  change (db.movesOf poId entries).foldl (unreceiveLoop location now).stock db.inventoryLevels = _
  cases h : location.shopifyLocationId.isSome with
  | true => simp [unreceiveLoop, h]
  | false => simp [unreceiveLoop, h]

/-- The products after a reversal. -/
theorem Db.unreceived_products : (db.unreceived poId entries location now).products
    = db.products.update (fun p => p.id ∈ db.touchedBy poId entries location)
        fun p => p.withStock ((db.unreceived poId entries location now).sellableStock p.id) :=
  rfl

/-- The queue rows after a reversal. -/
theorem Db.unreceived_orders : (db.unreceived poId entries location now).orders
    = db.orders.update
        (isCompleted poId (db.reversalProgress poId entries location now).droppedBelowFull)
        Order.reopen := rfl

/-- The orders after a reversal. -/
theorem Db.unreceived_purchaseOrders : (db.unreceived poId entries location now).purchaseOrders
    = db.purchaseOrders.update (fun p => p.id = poId)
        (·.setReversal (reversalStatus (db.reversalProgress poId entries location now).lines)
          ((db.reversalProgress poId entries location now).lines.all fun l =>
            l.quantity ≤ l.receivedQty) now) := rfl

/-- The order after a reversal. -/
theorem Db.find_unreceived {po : PurchaseOrder} (h : db.purchaseOrders.find poId = some po) :
    (db.unreceived poId entries location now).purchaseOrders.find poId
      = some (po.setReversal
          (reversalStatus (db.reversalProgress poId entries location now).lines)
          ((db.reversalProgress poId entries location now).lines.all fun l =>
            l.quantity ≤ l.receivedQty) now) := by
  have hid : po.id = poId := (Table.find_eq_some.mp h).2
  rw [Db.unreceived_purchaseOrders, Table.find_update _ _ fun p => by rfl, h]
  simp [hid]

end Unreceived

section Call

variable (answer : M → Bool) {db : Db} {poId : PoId} {entries : List ReceiveEntry}
  {locationId : LocationId} {po : PurchaseOrder} {location : Location} {now : Time}

/-- The queue rows reopened by a reversal. -/
@[simp]
theorem exec_reopenCompleted (poId : PoId) (productIds : List ProductId)
    (committed working : Db) (ok : Unit → OpProgram M R) (err : Failure → OpProgram M R) :
    (reopenCompleted poId productIds ok err).exec answer committed working
      = (ok ()).exec answer committed
          { working with
            orders := working.orders.update (isCompleted poId productIds) Order.reopen } := by
  unfold reopenCompleted
  by_cases h : productIds = []
  · have hnone : working.orders.update (isCompleted poId []) Order.reopen = working.orders :=
      Table.update_of_forall_not _ fun o _ => by simp [isCompleted]
    simp [h, hnone]
  · simp [h]

/-- A reversal whose checks pass books its moves and goes on to the rollup. -/
private theorem exec_unreceivePoLines_checked
    (h : CallChecked (fun status => status = .received ∨ status = .partiallyReceived)
      LoadedLine.receivedQty db poId entries locationId po location)
    (ok : UnreceivePoResult → OpProgram M R) (err : Failure → OpProgram M R) :
    (unreceivePoLines poId entries locationId now ok err).exec answer db db
      = (recomputeSellableStock (db.touchedBy poId entries location)
          (fun _ => settleReversal poId (db.reversalProgress poId entries location now)
            location.shopifyLocationId.isSome now (fun r => .commit (ok r))
            fun e => .rollback (err e))
          fun e => .rollback (err e)).exec answer db
        (db.afterReversals poId entries location now) := by
  have hgate : ¬ (po.status ≠ .received ∧ po.status ≠ .partiallyReceived) := by
    have := h.allowed; tauto
  have hvalid : (positiveEntries entries).findSome? (unreceiveProblem (loadLines db.lines poId))
      = none :=
    List.findSome?_eq_none_iff.mpr fun e he => unreceiveProblem_eq_none.mpr (h.fits e he)
  have hload : (db.linesOf poId).map PurchaseOrderLine.load = loadLines db.lines poId := rfl
  obtain rfl := h.order_id
  obtain rfl := h.place_id
  unfold unreceivePoLines
  simp only [if_neg h.nonempty, Session.bind_apply, Session.transaction_apply,
    Session.advisoryLock_apply, Program.exec_lock, exec_findPurchaseOrder, h.order,
    if_neg hgate, Session.exec_findFirst, get_locations, h.place, hload, hvalid]
  exact EntryLoop.exec_foldlM (unreceiveLoop location now)
    (fun hlines hfind => exec_unreceiveEntry answer db hlines hfind) rfl h.named _ _

/-- A reversal that is accepted goes through. -/
theorem exec_unreceivePoLines (h : ReversalAccepted db poId entries locationId po location)
    (ok : UnreceivePoResult → OpProgram M R) (err : Failure → OpProgram M R) :
    (unreceivePoLines poId entries locationId now ok err).exec answer db db
      = (ok (db.reversalAnswer poId entries location now)).exec answer
          (db.unreceived poId entries location now)
          (db.unreceived poId entries location now) := by
  rw [exec_unreceivePoLines_checked answer h.toCallChecked,
    exec_recomputeSellableStock _ _ _ _ (by simpa [Db.afterReversals] using h.products)]
  unfold settleReversal
  rw [Session.bind_apply, exec_reopenCompleted, Session.bind_apply,
    Session.exec_update (r := po)]
  · rfl
  · exact h.find_order

/-- A reversal that is not accepted is refused or throws, and leaves the database alone. -/
theorem exec_unreceivePoLines_rejected (now : Time)
    (h : ∀ po location, ¬ ReversalAccepted db poId entries locationId po location)
    (ok : UnreceivePoResult → OpProgram M R) (err : Failure → OpProgram M R) :
    (∃ reason, (unreceivePoLines poId entries locationId now ok err).exec answer db db
        = (ok (.refused reason)).exec answer db db) ∨
      ∃ e, (unreceivePoLines poId entries locationId now ok err).exec answer db db
        = (err e).exec answer db db := by
  by_cases hchecked : ∃ po location,
      CallChecked (fun status => status = .received ∨ status = .partiallyReceived)
        LoadedLine.receivedQty db poId entries locationId po location
  · obtain ⟨po, location, hchecked⟩ := hchecked
    have hmissing : ∃ id ∈ db.touchedBy poId entries location,
        (db.afterReversals poId entries location now).products.find id = none :=
      hchecked.missing_of_not_accepted (h po location)
    obtain ⟨working, hrolled⟩ := exec_recomputeSellableStock_missing (M := M) (R := R) answer db
      (fun _ => settleReversal poId (db.reversalProgress poId entries location now)
        location.shopifyLocationId.isSome now (fun r => .commit (ok r))
        fun e => .rollback (err e))
      (fun e => .rollback (err e)) hmissing
    exact .inr
      ⟨.recordNotFound, by rw [exec_unreceivePoLines_checked answer hchecked, hrolled]; rfl⟩
  refine .inl ?_
  unfold unreceivePoLines
  by_cases hempty : positiveEntries entries = []
  · exact ⟨.empty, by simp [hempty]⟩
  simp only [if_neg hempty, Session.bind_apply, Session.transaction_apply,
    Session.advisoryLock_apply, Program.exec_lock, exec_findPurchaseOrder]
  cases hpo : db.findPurchaseOrder poId with
  | none => exact ⟨.notFound, rfl⟩
  | some found =>
  obtain ⟨po, lines⟩ := found
  obtain ⟨hfind, -, rfl⟩ := Db.findPurchaseOrder_eq_some.mp hpo
  by_cases hgate : po.status ≠ .received ∧ po.status ≠ .partiallyReceived
  · exact ⟨.notReversible, by simp [hgate]⟩
  simp only [if_neg hgate, Session.bind_apply, Session.exec_findFirst, get_locations]
  cases hplace : db.locations.rows.find? fun l => l.id = locationId with
  | none => exact ⟨.badLocation, rfl⟩
  | some location =>
  have hload : (db.linesOf poId).map PurchaseOrderLine.load = loadLines db.lines poId := rfl
  simp only [hload]
  cases hvalid : (positiveEntries entries).findSome?
      (unreceiveProblem (loadLines db.lines poId)) with
  | some reason => exact ⟨reason, rfl⟩
  | none =>
    -- all the checks passed, which was excluded
    refine absurd ⟨po, location, hpo, ?_, hplace, hempty, fun e he => ?_⟩ hchecked
    · tauto
    · exact unreceiveProblem_eq_none.mp (List.findSome?_eq_none_iff.mp hvalid e he)

end Call

/-! ## Sequences of receipts and reversals -/

/-- Perform an operation that sends no messages with the database to itself. -/
def perform {α : Type} (op : Op Empty α α) (db : Db) : Option α × Db :=
  (Session.program op).run Empty.elim db

/-- Receive, or take back. -/
inductive Direction
  | receive
  | unreceive
  deriving DecidableEq, Repr

/-- The sign of what a call books. -/
def Direction.sign : Direction → ℤ
  | .receive => 1
  | .unreceive => -1

/-- A call of `receivePoLines` or of `unreceivePoLines`. -/
structure ReceiptCall where
  direction : Direction
  poId : PoId
  entries : List ReceiveEntry
  locationId : LocationId
  now : Time := 0
  deriving DecidableEq, Repr

namespace ReceiptCall

/-- The call as an operation that returns whether it answered `ok: true`. -/
def op (call : ReceiptCall) : Op Empty Bool Bool :=
  match call.direction with
  | .receive => do
      return (← receivePoLines call.poId call.entries call.locationId call.now).isOk
  | .unreceive => do
      return (← unreceivePoLines call.poId call.entries call.locationId call.now).isOk

/-- The database after a call. -/
def after (call : ReceiptCall) (db : Db) : Db :=
  (perform call.op db).2

/-- The call answers `ok: true`. -/
def Succeeds (call : ReceiptCall) (db : Db) : Prop :=
  (perform call.op db).1 = some true

instance (call : ReceiptCall) (db : Db) : Decidable (call.Succeeds db) :=
  inferInstanceAs (Decidable (_ = _))

/-- The database after some calls. -/
def run (db : Db) (calls : List ReceiptCall) : Db :=
  calls.foldl (fun db call => call.after db) db

@[simp] theorem run_nil (db : Db) : run db [] = db := rfl

@[simp] theorem run_cons (db : Db) (call : ReceiptCall) (calls : List ReceiptCall) :
    run db (call :: calls) = run (call.after db) calls := rfl

/-- The last of some calls is performed after the others. -/
@[simp] theorem run_concat (db : Db) (calls : List ReceiptCall) (call : ReceiptCall) :
    run db (calls ++ [call]) = call.after (run db calls) :=
  List.foldl_append ..

/-- The call is accepted for this order at this location. -/
def AcceptedFor (call : ReceiptCall) (db : Db) (po : PurchaseOrder) (location : Location) :
    Prop :=
  match call.direction with
  | .receive => ReceiptAccepted db call.poId call.entries call.locationId po location
  | .unreceive => ReversalAccepted db call.poId call.entries call.locationId po location

/-- The call is accepted: its order and location are there and every check passes. -/
def Accepted (call : ReceiptCall) (db : Db) : Prop :=
  ∃ po location, call.AcceptedFor db po location

/-- The database after a call that is accepted. -/
def outcome (call : ReceiptCall) (db : Db) (location : Location) : Db :=
  match call.direction with
  | .receive => db.received call.poId call.entries location call.now
  | .unreceive => db.unreceived call.poId call.entries location call.now

variable {call : ReceiptCall} {db : Db} {po : PurchaseOrder} {location : Location}

/-- A call that is accepted succeeds. -/
theorem perform_accepted (h : call.AcceptedFor db po location) :
    perform call.op db = (some true, call.outcome db location) := by
  unfold AcceptedFor at h
  unfold perform op outcome
  cases hdir : call.direction with
  | receive =>
      rw [hdir] at h
      exact exec_receivePoLines _ h _ _
  | unreceive =>
      rw [hdir] at h
      exact exec_unreceivePoLines _ h _ _

/-- A call that is not accepted does not succeed and leaves the database alone. -/
theorem perform_rejected (h : ¬ call.Accepted db) :
    (perform call.op db).1 ≠ some true ∧ (perform call.op db).2 = db := by
  unfold Accepted AcceptedFor at h
  unfold perform op
  cases hdir : call.direction with
  | receive =>
      rw [hdir] at h
      rcases exec_receivePoLines_rejected (R := Bool) Empty.elim call.now
        (fun po location hacc => h ⟨po, location, hacc⟩)
        (fun r => .done r.isOk) (fun _ => .failed) with ⟨reason, heq⟩ | ⟨e, heq⟩
      all_goals exact ⟨fun hok => by
        simpa [ReceivePoResult.isOk] using (congrArg Prod.fst heq).symm.trans hok,
        congrArg Prod.snd heq⟩
  | unreceive =>
      rw [hdir] at h
      rcases exec_unreceivePoLines_rejected (R := Bool) Empty.elim call.now
        (fun po location hacc => h ⟨po, location, hacc⟩)
        (fun r => .done r.isOk) (fun _ => .failed) with ⟨reason, heq⟩ | ⟨e, heq⟩
      all_goals exact ⟨fun hok => by
        simpa [UnreceivePoResult.isOk] using (congrArg Prod.fst heq).symm.trans hok,
        congrArg Prod.snd heq⟩

/-- The database after a call that is accepted. -/
theorem after_accepted (h : call.AcceptedFor db po location) :
    call.after db = call.outcome db location :=
  congrArg Prod.snd (perform_accepted h)

/-- The database after a call that is not accepted. -/
theorem after_rejected (h : ¬ call.Accepted db) : call.after db = db :=
  (perform_rejected h).2

/-- A call succeeds exactly when it is accepted. -/
theorem succeeds_iff : call.Succeeds db ↔ call.Accepted db := by
  constructor
  · intro hok
    by_contra h
    exact (perform_rejected h).1 hok
  · rintro ⟨po, location, h⟩
    exact congrArg Prod.fst (perform_accepted h)

end ReceiptCall

end Restock
