import Restock.Purchasing.PoNumbers
import Restock.Purchasing.Queue
import Restock.Store.Locks

/-!
# Numbers of orders that are created at once

`apps/web/lib/po/create-manual-po.ts` beside `create-po.ts`: orders are built by hand or from the
queue, and both number the new order under the workspace's advisory lock, from the numbers stored
when they hold it. Everything else that is done to orders leaves their numbers alone.

* `createManualPo` — the code of an order that is built by hand;
* `OrderCall` — a call that creates, edits, receives or cancels, and its program;
* `numberContract` — who does not hold the lock leaves the numbers as they are;
* `poNumbers_distinct` — in every run no number is ever changed, and they stay distinct as long as
  the last number that is recognised has not been reached.
-/

namespace Restock

open Store

variable {M R : Type}

/-! ## Orders built by hand -/

/-- `ManualPoItem`. -/
structure ManualPoItem where
  productId : ProductId
  qty : ℚ
  deriving DecidableEq, Repr

/-- Why an order was not built. -/
inductive ManualRefusal
  | noItems
  | badQty
  | noSupplier
  | wrongSupplier
  | noProduct
  | noCost
  deriving DecidableEq, Repr

/-- `CreateManualPoResult`. -/
inductive CreateManualPoResult
  | ok (poId : PoId) (poNumber : String) (lineCount : ℕ) (subtotalKes : ℚ)
  | refused (reason : ManualRefusal)
  deriving DecidableEq, Repr

/-- The ids generated for a new order, for its lines, and for the queue rows it counts as. -/
structure ManualIds extends NewIds where
  order : ProductId → OrderId

/-- What an item asks for, of the products that were found. -/
def manualInput (products : List Product) (item : ManualPoItem) : Option LineInput :=
  (products.find? fun p => p.id = item.productId).map fun p =>
    { productId := p.id, sku := p.sku, title := p.title, qty := item.qty, unitCostKes := p.costKes }

/-- The queue row that a line counts as. -/
def manualOrder (products : List Product) (ids : ManualIds) (now : Time) (plan : PoLinePlan) :
    Order where
  id := ids.order plan.productId
  status := .ordered
  productId := some plan.productId
  orderedQty := some plan.quantity
  purchaseOrderId := some ids.poId
  orderedAt := some now
  stockAtOrder := (products.find? fun p => p.id = plan.productId).map Product.currentStock

/-- The transaction of an order that is built by hand: number it, insert it with its lines, and
write the queue rows. -/
def createByHand (products : List Product) (supplierId : SupplierId) (lines : List PoLinePlan)
    (actorName : Option String) (ids : ManualIds) (now : Time) : Op M R (PoId × String) := do
  -- The same lock the queued path takes.
  Session.advisoryLock .poNumber
  let existing ← Session.findMany PurchaseOrder fun _ => true
  let tenant ← Session.query Db.tenant
  let poNumber := nextPoNumber (existing.map PurchaseOrder.poNumber)
    ((tenant.map Tenant.poNumberFloor).getD 0)
  let po : PurchaseOrder :=
    { id := ids.poId
      poNumber
      supplierId := some supplierId
      status := .draft
      currency := (tenant.map Tenant.currency).getD "KES"
      subtotalKes := subtotal (lines.map PoLinePlan.lineTotalKes)
      createdAt := now
      createdByName := actorName }
  Session.create po .uniqueViolation
  forM lines fun plan => Session.create (plan.row ids.toNewIds) .uniqueViolation
  forM lines fun plan => Session.create (manualOrder products ids now plan) .uniqueViolation
  return (ids.poId, poNumber)

/-- Order something that the forecast never asked for. -/
def createManualPo (supplierId : SupplierId) (items : List ManualPoItem)
    (actorName : Option String) (ids : ManualIds) (now : Time) : Op M R CreateManualPoResult := do
  let wanted := items.filter fun i => 0 < i.qty
  if wanted = [] then
    return .refused .noItems
  if wanted.any fun i => !i.qty.isInt then
    return .refused .badQty
  let some supplier ← Session.query fun db : Db =>
      db.suppliers.rows.find? fun s => s.id = supplierId
    | return .refused .noSupplier
  let products ← Session.findMany Product fun p => p.id ∈ wanted.map ManualPoItem.productId
  if products.length ≠ (wanted.map ManualPoItem.productId).eraseDups.length then
    return .refused .noProduct
  if products.any fun p => p.supplierId ≠ some supplierId then
    return .refused .wrongSupplier
  if products.any fun p => !decide (0 < p.costKes) then
    return .refused .noCost
  let lines := buildPoLines (wanted.filterMap (manualInput products)) supplier.moq
  let (poId, poNumber) ← Session.transaction
    (createByHand products supplier.id lines actorName ids now)
  return .ok poId poNumber lines.length (subtotal (lines.map PoLinePlan.lineTotalKes))

/-! ## Calls -/

/-- A call on orders. -/
inductive OrderCall
  | create (orderIds : List OrderId) (actorName : Option String) (ids : NewIds) (now : Time)
  | createManual (supplierId : SupplierId) (items : List ManualPoItem)
      (actorName : Option String) (ids : ManualIds) (now : Time)
  | removeQueued (orderId : OrderId)
  | setQuantity (poId : PoId) (lineId : LineId) (quantity : ℚ)
  | removeLine (poId : PoId) (lineId : LineId)
  | receive (poId : PoId) (entries : List ReceiveEntry) (locationId : LocationId) (now : Time)
  | cancel (poId : PoId) (actorName : Option String) (now : Time)

/-- The program of a call; what it answers is left out. -/
def OrderCall.program : OrderCall → OpProgram Empty Unit
  | .create orderIds actorName ids now => Session.program do
      let _ ← createPoFromOrders orderIds actorName ids now
  | .createManual supplierId items actorName ids now => Session.program do
      let _ ← createManualPo supplierId items actorName ids now
  | .removeQueued orderId => Session.program do
      let _ ← removeQueuedOrder orderId
  | .setQuantity poId lineId quantity => Session.program do
      let _ ← setPoLineQuantity poId lineId quantity
  | .removeLine poId lineId => Session.program do
      let _ ← removePoLine poId lineId
  | .receive poId entries locationId now => Session.program do
      let _ ← receivePoLines poId entries locationId now
  | .cancel poId actorName now => Session.program do
      let _ ← cancelPo poId actorName now

/-! ## The contract -/

/-- The numbers of the orders. -/
def Db.poNumbers (db : Db) : List String :=
  db.purchaseOrders.rows.map PurchaseOrder.poNumber

/-- The workspace's floor. -/
def Db.poNumberFloor (db : Db) : ℤ :=
  (db.tenant.map Tenant.poNumberFloor).getD 0

/-- The last number that is recognised has been reached. -/
def Db.numbersUsedUp (db : Db) : Prop :=
  LAST_PLAIN ≤ highestPlain db.poNumbers 0

/-- The write leaves numbers and the workspace alone. -/
def KeepsNumbers (w : Write Db RowKey) : Prop :=
  ∀ s, (w.act s).poNumbers = s.poNumbers ∧ (w.act s).tenant = s.tenant

/-- Numbers stay, and are distinct until they are used up; only who holds the lock of the numbers
adds one. -/
def numberContract (db : Db) : LockContract Db LockName where
  Inv t := db.poNumbers <+: t.poNumbers ∧ t.tenant = db.tenant ∧
    (t.poNumbers.Nodup ∨ t.numbersUsedUp)
  Guar held s t := .poNumber ∈ held ∨ t.poNumbers = s.poNumbers

section Contract

variable {db : Db}

/-- Every number so far is a number still. -/
theorem highestPlain_mono {existing more : List String} {floor : ℤ} (h : existing <+: more) :
    highestPlain existing floor ≤ highestPlain more floor := by
  obtain ⟨new, rfl⟩ := h
  induction new using List.reverseRecOn with
  | nil => rw [List.append_nil]
  | append_singleton new last ih =>
      refine ih.trans ?_
      rw [← List.append_assoc]
      generalize existing ++ new = numbers
      rw [highestPlain, highestPlain, List.foldl_append, List.foldl_cons, List.foldl_nil]
      exact le_max_left _ _

/-- The floor only counts where it is the highest. -/
theorem highestPlain_eq_max (existing : List String) (floor : ℤ) :
    highestPlain existing floor = max (max 0 floor).toNat (highestPlain existing 0) := by
  induction existing using List.reverseRecOn with
  | nil => simp [highestPlain]
  | append_singleton existing last ih =>
      rw [highestPlain, highestPlain, List.foldl_append, List.foldl_append, List.foldl_cons,
        List.foldl_cons, List.foldl_nil, List.foldl_nil, ← highestPlain, ← highestPlain, ih,
        max_assoc]

/-- A new number is distinct from those that it is counted from, unless they are used up. -/
theorem nodup_concat_nextPoNumber {numbers : List String} {floor : ℤ} (hfloor : floor < LAST_PLAIN)
    (h : numbers.Nodup ∨ LAST_PLAIN ≤ highestPlain numbers 0) :
    (numbers ++ [nextPoNumber numbers floor]).Nodup ∨
      LAST_PLAIN ≤ highestPlain (numbers ++ [nextPoNumber numbers floor]) 0 := by
  by_cases hused : LAST_PLAIN ≤ highestPlain numbers 0
  · exact .inr (hused.trans (highestPlain_mono (List.prefix_append _ _)))
  · refine .inl ((h.resolve_right hused).append (List.nodup_singleton _) ?_)
    rw [List.disjoint_singleton]
    refine nextPoNumber_not_mem ?_
    rw [highestPlain_eq_max, max_lt_iff]
    refine ⟨?_, not_le.mp hused⟩
    rw [LAST_PLAIN] at hfloor ⊢
    omega

/-- Writes that leave numbers and the workspace alone do so together. -/
theorem keepsNumbers_sees {ws : List (Write Db RowKey)} (h : ∀ w ∈ ws, KeepsNumbers w) (s : Db) :
    (sees ws s).poNumbers = s.poNumbers ∧ (sees ws s).tenant = s.tenant := by
  induction ws generalizing s with
  | nil => exact ⟨rfl, rfl⟩
  | cons w ws ih =>
      obtain ⟨hnumbers, htenant⟩ := ih (fun v hv => h v (List.mem_cons_of_mem w hv)) (w.act s)
      obtain ⟨hnumbers', htenant'⟩ := h w List.mem_cons_self s
      exact ⟨hnumbers.trans hnumbers', htenant.trans htenant'⟩

/-- Such writes are allowed at any time. -/
theorem numberContract_allows : (numberContract db).Allows KeepsNumbers where
  more h := h.imp_left (List.mem_cons_of_mem _)
  quiet {ws held s} hws hinv := by
    obtain ⟨hnumbers, htenant⟩ := keepsNumbers_sees hws s
    refine ⟨⟨hnumbers ▸ hinv.1, htenant.trans hinv.2.1, ?_⟩, .inr hnumbers⟩
    rw [Db.numbersUsedUp, hnumbers]
    exact hinv.2.2

/-- An update of orders that leaves their numbers alone. -/
theorem keepsNumbers_updating (f : PurchaseOrder → PurchaseOrder)
    (hf : ∀ po, (f po).poNumber = po.poNumber) (p : PurchaseOrder → Bool) (s : Db) :
    KeepsNumbers (updating PurchaseOrder p f s) := by
  refine fun t => ⟨?_, rfl⟩
  show (List.map _ (List.map _ t.purchaseOrders.rows)) = _
  rw [List.map_map]
  refine List.map_congr_left fun po _ => ?_
  rw [Function.comp_apply]
  split
  · exact hf po
  · rfl

/-- While the lock is held nobody else changes the numbers. -/
theorem poNumbers_eq_of_rely {held : List LockName} {keys : List RowKey} {s t : Db}
    (h : (numberContract db).Rely held keys s t) (hheld : .poNumber ∈ held) :
    t.poNumbers = s.poNumbers := by
  refine h.lift (P := fun s t => t.poNumbers = s.poNumbers) rfl fun a b theirs hab hdisj hguar => ?_
  rcases hguar with hlock | hsame
  · exact absurd hheld (hdisj hlock)
  · exact hsame.trans hab

/-- The numbers after an insert: one more, or the same when the id was taken. -/
theorem poNumbers_inserting (po : PurchaseOrder) (s : Db) :
    ((inserting po : Write Db RowKey).act s).poNumbers = s.poNumbers ++ [po.poNumber] ∨
      ((inserting po : Write Db RowKey).act s).poNumbers = s.poNumbers := by
  cases hfind : s.purchaseOrders.find (Keyed.key po) with
  | none =>
      refine .inl ?_
      show (s.purchaseOrders.insert po).rows.map PurchaseOrder.poNumber = _
      rw [Table.rows_insert hfind, List.map_append]
      rfl
  | some row =>
      refine .inr ?_
      show (s.purchaseOrders.insert po).rows.map PurchaseOrder.poNumber = _
      rw [Table.insert, dif_pos]
      · rfl
      · obtain ⟨hrow, hkey⟩ := Table.find_eq_some.mp hfind
        exact hkey ▸ List.mem_map_of_mem hrow

end Contract

/-! ## The calls keep to it -/

/-- What both creates do under the lock: read the numbers, and insert the order with the next. -/
def insertNumbered {α : Type} (po : String → Option Tenant → PurchaseOrder)
    (rest : String → Op M R α) : Op M R α := do
  let existing ← Session.findMany PurchaseOrder fun _ => true
  let tenant ← Session.query Db.tenant
  let poNumber := nextPoNumber (existing.map PurchaseOrder.poNumber)
    ((tenant.map Tenant.poNumberFloor).getD 0)
  Session.create (po poNumber tenant) .uniqueViolation
  rest poNumber

/-- The row of a new order. -/
def draftPo (poId : PoId) (supplierId : SupplierId) (lines : List PoLinePlan)
    (actorName : Option String) (now : Time) (poNumber : String) (tenant : Option Tenant) :
    PurchaseOrder where
  id := poId
  poNumber
  supplierId := some supplierId
  status := .draft
  currency := (tenant.map Tenant.currency).getD "KES"
  subtotalKes := subtotal (lines.map PoLinePlan.lineTotalKes)
  createdAt := now
  createdByName := actorName

theorem createClaimed_eq (orders : List (Order × Product)) (supplierId : SupplierId)
    (lines : List PoLinePlan) (actorName : Option String) (ids : NewIds) (now : Time) :
    (createClaimed orders supplierId lines actorName ids now : Op M R _) = (do
      Session.advisoryLock .poNumber
      let claimed ← Session.updateMany Order (isStillPending (orders.map fun o => o.1.id))
        (·.claim now)
      if claimed ≠ orders.length then throw .queueClaimed
      insertNumbered (draftPo ids.poId supplierId lines actorName now) fun poNumber => do
        forM lines fun plan => Session.create (plan.row ids) .uniqueViolation
        forM orders fun o =>
          Session.update Order o.1.id (·.link ids.poId o.2.currentStock) .recordNotFound
        return (ids.poId, poNumber)) := rfl

theorem createByHand_eq (products : List Product) (supplierId : SupplierId)
    (lines : List PoLinePlan) (actorName : Option String) (ids : ManualIds) (now : Time) :
    (createByHand products supplierId lines actorName ids now : Op M R _) = (do
      Session.advisoryLock .poNumber
      insertNumbered (draftPo ids.poId supplierId lines actorName now) fun poNumber => do
        forM lines fun plan => Session.create (plan.row ids.toNewIds) .uniqueViolation
        forM lines fun plan => Session.create (manualOrder products ids now plan) .uniqueViolation
        return (ids.poId, poNumber)) := rfl

section Safe

variable {db : Db} {held : List LockName} {ws : List (Write Db RowKey)} {s : Db}

/-- An order is numbered from numbers that are still those there are at its commit. -/
theorem safe_insertNumbered {α : Type} {po : String → Option Tenant → PurchaseOrder}
    {rest : String → Op M R α} {ok : α → OpProgram M R} {err : Failure → OpProgram M R}
    (hfloor : db.poNumberFloor < LAST_PLAIN) (hpo : ∀ n tenant, (po n tenant).poNumber = n)
    (hrest : ∀ n, Session.Only KeepsNumbers (rest n)) (hok : ∀ a, (ok a).Only KeepsNumbers)
    (herr : ∀ e, (err e).Only KeepsNumbers) (hheld : .poNumber ∈ held)
    (hws : ∀ w ∈ ws, KeepsNumbers w) :
    (numberContract db).Safe (insertNumbered po rest ok err) held ws s := by
  intro s₁ hinv₁ _ s₂ hinv₂ hrely₂ s₃ _ hrely₃
  simp only [List.append_nil] at hrely₂ hrely₃ ⊢
  set number := nextPoNumber _ _ with hnumber
  have hnext : number = nextPoNumber s₁.poNumbers db.poNumberFloor := by
    have hread : (sees ws s₁).poNumbers = s₁.poNumbers := (keepsNumbers_sees hws s₁).1
    have htenant : (sees ws s₂).tenant = db.tenant :=
      (keepsNumbers_sees hws s₂).2.trans hinv₂.2.1
    rw [hnumber, htenant, List.filter_true, ← hread]
    rfl
  split
  · rw [List.append_nil]
    exact numberContract_allows.safe (herr _) hws
  · refine LockContract.safe_of_only numberContract_allows (hrest _ ok err hok herr)
      fun ws' t hws' hinv hrely => ?_
    have hsame : t.poNumbers = s₁.poNumbers := by
      rw [poNumbers_eq_of_rely hrely hheld, poNumbers_eq_of_rely hrely₃ hheld,
        poNumbers_eq_of_rely hrely₂ hheld]
    rw [sees_append, sees_append, sees_cons, sees_nil]
    obtain ⟨hbefore, htenant⟩ := keepsNumbers_sees hws t
    obtain ⟨hafter, htenant'⟩ := keepsNumbers_sees hws'
      ((inserting (po number (sees ws s₂).tenant)).act (sees ws t))
    refine ⟨⟨?_, htenant'.trans (htenant.trans hinv.2.1), ?_⟩, .inl hheld⟩
    · rw [hafter]
      rcases poNumbers_inserting (po number (sees ws s₂).tenant) (sees ws t) with hins | hins
      · rw [hins, hbefore]
        exact hinv.1.trans (List.prefix_append _ _)
      · rw [hins, hbefore]
        exact hinv.1
    · rw [Db.numbersUsedUp, hafter]
      rcases poNumbers_inserting (po number (sees ws s₂).tenant) (sees ws t) with hins | hins
      · rw [hins, hbefore, hsame, hpo, hnext]
        exact nodup_concat_nextPoNumber hfloor hinv₁.2.2
      · rw [hins, hbefore]
        exact hinv.2.2

/-- The transaction of a create from the queue. -/
theorem safe_createClaimed_numbers (hfloor : db.poNumberFloor < LAST_PLAIN)
    (orders : List (Order × Product)) (supplierId : SupplierId) (lines : List PoLinePlan)
    (actorName : Option String) (ids : NewIds) (now : Time)
    {ok : PoId × String → OpProgram M R} (hok : ∀ a, (ok a).Only KeepsNumbers)
    (herr : ∀ e, (err e).Only KeepsNumbers) :
    (numberContract db).Safe (createClaimed orders supplierId lines actorName ids now ok err) []
      [] s := by
  rw [createClaimed_eq]
  intro s₀ _ _ s₁ _ _
  have hclaim : ∀ w ∈ [updating Order (isStillPending (orders.map fun o => o.1.id))
      (·.claim now) (sees [] s₁)], KeepsNumbers w := by
    intro w hw
    rw [List.mem_singleton.mp hw]
    exact fun _ => ⟨rfl, rfl⟩
  dsimp only
  split
  · exact numberContract_allows.safe (herr _) hclaim
  · refine safe_insertNumbered hfloor (fun _ _ => rfl) (fun n => ?_) hok herr
      List.mem_cons_self hclaim
    refine Session.only_bind (Session.only_forM fun plan => ?_) fun _ =>
      Session.only_bind (Session.only_forM fun o => ?_) fun _ => Session.only_pure _
    · exact Session.only_create fun _ => ⟨rfl, rfl⟩
    · exact Session.only_update fun _ _ => ⟨rfl, rfl⟩

/-- The transaction of an order that is built by hand. -/
theorem safe_createByHand (hfloor : db.poNumberFloor < LAST_PLAIN) (products : List Product)
    (supplierId : SupplierId) (lines : List PoLinePlan) (actorName : Option String)
    (ids : ManualIds) (now : Time) {ok : PoId × String → OpProgram M R}
    (hok : ∀ a, (ok a).Only KeepsNumbers) (herr : ∀ e, (err e).Only KeepsNumbers) :
    (numberContract db).Safe (createByHand products supplierId lines actorName ids now ok err) []
      [] s := by
  rw [createByHand_eq]
  intro s₀ _ _
  refine safe_insertNumbered hfloor (fun _ _ => rfl) (fun n => ?_) hok herr List.mem_cons_self
    fun _ hw => (List.not_mem_nil hw).elim
  refine Session.only_bind (Session.only_forM fun plan => ?_) fun _ =>
    Session.only_bind (Session.only_forM fun plan => ?_) fun _ => Session.only_pure _
  · exact Session.only_create fun _ => ⟨rfl, rfl⟩
  · exact Session.only_create fun _ => ⟨rfl, rfl⟩

/-- A create from the queue, whose rows have been read. -/
theorem safe_createPoFromOrders_numbers (hfloor : db.poNumberFloor < LAST_PLAIN)
    (orderIds : List OrderId) (actorName : Option String) (ids : NewIds) (now : Time) :
    (numberContract db).Safe (OrderCall.create orderIds actorName ids now).program [] [] s := by
  intro s₀ _ _
  dsimp only
  split
  · trivial
  intro s₁ _ _ s₂ _ _
  dsimp only
  generalize resolveProducts _ _ = orders
  cases orders.head? with
  | none => split <;> trivial
  | some first =>
      dsimp only
      split
      · trivial
      generalize List.find? _ _ = found
      cases found with
      | none => trivial
      | some supplier =>
          refine safe_createClaimed_numbers hfloor _ _ _ _ _ _ (fun _ => trivial) fun e => ?_
          cases e <;> trivial

/-- An order that is built by hand, whose supplier and products have been read. -/
theorem safe_createManualPo_numbers (hfloor : db.poNumberFloor < LAST_PLAIN)
    (supplierId : SupplierId) (items : List ManualPoItem) (actorName : Option String)
    (ids : ManualIds) (now : Time) :
    (numberContract db).Safe
      (OrderCall.createManual supplierId items actorName ids now).program [] [] s := by
  show (numberContract db).Safe (createManualPo supplierId items actorName ids now _ _) [] [] s
  unfold createManualPo
  dsimp only
  split
  · trivial
  split
  · trivial
  intro s₀ _ _
  dsimp only
  generalize List.find? _ _ = found
  cases found with
  | none => trivial
  | some supplier =>
      intro s₁ _ _
      dsimp only
      split
      · trivial
      split
      · trivial
      split
      · trivial
      exact safe_createByHand hfloor _ _ _ _ _ _ (fun _ => trivial) fun _ => trivial

/-! ### Calls that create nothing -/

/-- Taking a row off the queue. -/
theorem only_removeQueuedOrder (orderId : OrderId) :
    Session.Only KeepsNumbers (removeQueuedOrder orderId : Op M R _) := by
  refine Session.only_bind (Session.only_transaction ?_) fun _ => Session.only_pure _
  refine Session.only_bind (Session.only_query _) fun order => ?_
  cases order with
  | none => exact Session.only_pure _
  | some order =>
      exact Session.only_bind (Session.only_deleteMany fun _ _ => ⟨rfl, rfl⟩) fun _ =>
        Session.only_pure _

/-- A cancellation. -/
theorem only_cancelPo (poId : PoId) (actorName : Option String) (now : Time) :
    Session.Only KeepsNumbers (cancelPo poId actorName now : Op M R _) := by
  refine Session.only_transaction (Session.only_bind (Session.only_query _) fun po => ?_)
  cases po with
  | none => exact Session.only_pure _
  | some po =>
      refine Session.only_ite (Session.only_pure _) ?_
      refine Session.only_bind (Session.only_updateMany fun _ _ => ⟨rfl, rfl⟩) fun _ => ?_
      refine Session.only_bind (Session.only_update fun s => ?_) fun _ => Session.only_pure _
      exact keepsNumbers_updating (·.cancel now actorName) (fun _ => rfl) _ s

/-- Reading an order writes nothing. -/
theorem only_findPurchaseOrder (poId : PoId) :
    Session.Only KeepsNumbers (findPurchaseOrder poId : Op M R _) := by
  refine Session.only_bind (Session.only_query _) fun po => ?_
  cases po with
  | none => exact Session.only_pure _
  | some po => exact Session.only_bind (Session.only_query _) fun _ => Session.only_pure _

/-- An edit of a line, when its write is one. -/
theorem only_editPoLine {poId : PoId} {lineId : LineId}
    {check : List PurchaseOrderLine → Option EditRefusal}
    {write : PurchaseOrderLine → Op M R Unit}
    {next : List PurchaseOrderLine → List PurchaseOrderLine}
    (hwrite : ∀ line, Session.Only KeepsNumbers (write line)) :
    Session.Only KeepsNumbers (editPoLine poId lineId check write next) := by
  refine Session.only_tryCatch (Session.only_transaction ?_) fun e => ?_
  · refine Session.only_bind (only_findPurchaseOrder poId) fun found => ?_
    cases found with
    | none => exact Session.only_pure _
    | some found =>
        obtain ⟨po, lines⟩ := found
        refine Session.only_ite (Session.only_pure _) ?_
        cases lines.find? fun l => l.id = lineId with
        | none => exact Session.only_pure _
        | some line =>
            dsimp only
            cases check lines with
            | some reason => exact Session.only_pure _
            | none =>
                refine Session.only_bind (hwrite line) fun _ => Session.only_bind ?_ fun _ =>
                  Session.only_pure _
                refine Session.only_bind (Session.only_updateMany fun s => ?_) fun _ =>
                  Session.only_ite (Session.only_throw _) (Session.only_pure _)
                exact keepsNumbers_updating (·.setSubtotal (linesSubtotal (next lines)))
                  (fun _ => rfl) _ s
  · cases e <;> first | exact Session.only_pure _ | exact Session.only_throw _

/-- Another quantity. -/
theorem only_setPoLineQuantity (poId : PoId) (lineId : LineId) (quantity : ℚ) :
    Session.Only KeepsNumbers (setPoLineQuantity poId lineId quantity : Op M R _) :=
  Session.only_ite (Session.only_pure _)
    (only_editPoLine fun _ => Session.only_update fun _ _ => ⟨rfl, rfl⟩)

/-- One line less. -/
theorem only_removePoLine (poId : PoId) (lineId : LineId) :
    Session.Only KeepsNumbers (removePoLine poId lineId : Op M R _) := by
  refine only_editPoLine fun line => Session.only_bind ?_ fun _ =>
    Session.only_bind (Session.only_updateMany fun _ _ => ⟨rfl, rfl⟩) fun _ => Session.only_pure _
  exact Session.only_bind (Session.only_deleteMany fun _ _ => ⟨rfl, rfl⟩) fun _ =>
    Session.only_ite (Session.only_throw _) (Session.only_pure _)

/-- An entry of a receipt. -/
theorem only_receiveEntry (locationId : LocationId) (stockFollowsStore : Bool) (now : Time)
    (progress : ReceiveProgress) (entry : ReceiveEntry) :
    Session.Only KeepsNumbers
      (receiveEntry locationId stockFollowsStore now progress entry : Op M R _) := by
  unfold receiveEntry
  cases progress.lines.find? fun l => l.id = entry.lineId with
  | none => exact Session.only_throw _
  | some line =>
      refine Session.only_bind (Session.only_update fun _ _ => ⟨rfl, rfl⟩) fun _ => ?_
      refine Session.only_ite (Session.only_pure _) (Session.only_bind ?_ fun _ => ?_)
      · refine Session.only_statement fun s w hw => ?_
        split at hw
        · rw [List.mem_singleton.mp hw]
          exact fun _ => ⟨rfl, rfl⟩
        · rw [List.mem_singleton.mp hw]
          exact fun _ => ⟨rfl, rfl⟩
      · exact Session.only_bind (Session.only_updateMany fun _ _ => ⟨rfl, rfl⟩) fun _ =>
          Session.only_pure _

/-- The end of a receipt. -/
theorem only_settleReceipt (poId : PoId) (progress : ReceiveProgress) (stockFollowsStore : Bool)
    (now : Time) :
    Session.Only KeepsNumbers (settleReceipt poId progress stockFollowsStore now : Op M R _) := by
  refine Session.only_bind (Session.only_ite (Session.only_bind ?_ fun _ => Session.only_pure _)
    (Session.only_pure _)) fun _ => Session.only_bind (Session.only_update fun s => ?_) fun _ =>
      Session.only_pure _
  · exact Session.only_updateMany fun _ _ => ⟨rfl, rfl⟩
  · refine keepsNumbers_updating _ (fun po => ?_) _ s
    unfold PurchaseOrder.setReceipt
    split <;> rfl

/-- A receipt. -/
theorem only_receivePoLines (poId : PoId) (entries : List ReceiveEntry) (locationId : LocationId)
    (now : Time) :
    Session.Only KeepsNumbers (receivePoLines poId entries locationId now : Op M R _) := by
  refine Session.only_ite (Session.only_pure _) (Session.only_transaction ?_)
  refine Session.only_bind (fun _ _ hok _ => hok ()) fun _ =>
    Session.only_bind (only_findPurchaseOrder poId) fun found => ?_
  cases found with
  | none => exact Session.only_pure _
  | some found =>
      obtain ⟨po, lines⟩ := found
      refine Session.only_ite (Session.only_pure _) ?_
      refine Session.only_bind (Session.only_query _) fun location => ?_
      cases location with
      | none => exact Session.only_pure _
      | some location =>
          dsimp only
          split
          · exact Session.only_pure _
          refine Session.only_bind (Session.only_foldlM _ (only_receiveEntry _ _ _)) fun _ =>
            Session.only_bind (Session.only_ite (Session.only_pure _) ?_) fun _ =>
              only_settleReceipt _ _ _ _
          refine Session.only_bind (Session.only_bind (Session.only_query _) fun _ =>
            Session.only_bind (Session.only_query _) fun _ => Session.only_pure _) fun _ => ?_
          exact Session.only_forM fun _ => Session.only_update fun _ _ => ⟨rfl, rfl⟩

/-- Every call keeps to the contract. -/
theorem safe_orderCall (hfloor : db.poNumberFloor < LAST_PLAIN) (call : OrderCall) :
    (numberContract db).Safe call.program [] [] s := by
  have hquiet : ∀ {α : Type} {x : Op Empty Unit α}, Session.Only KeepsNumbers x →
      (numberContract db).Safe (Session.program do let _ ← x) [] [] s := fun hx =>
    numberContract_allows.safe (Session.only_bind hx fun _ => Session.only_pure _).program
      fun _ hw => (List.not_mem_nil hw).elim
  cases call with
  | create orderIds actorName ids now => exact safe_createPoFromOrders_numbers hfloor _ _ _ _
  | createManual supplierId items actorName ids now =>
      exact safe_createManualPo_numbers hfloor _ _ _ _ _
  | removeQueued orderId => exact hquiet (only_removeQueuedOrder orderId)
  | setQuantity poId lineId quantity => exact hquiet (only_setPoLineQuantity poId lineId quantity)
  | removeLine poId lineId => exact hquiet (only_removePoLine poId lineId)
  | receive poId entries locationId now =>
      exact hquiet (only_receivePoLines poId entries locationId now)
  | cancel poId actorName now => exact hquiet (only_cancelPo poId actorName now)

end Safe

/-! ## Every run -/

/-- Whatever is done to orders at once, no number is taken back or changed, and two orders never
have the same one while there are numbers left. -/
theorem poNumbers_distinct {ι : Type} [DecidableEq ι] (calls : ι → OrderCall) {db : Db}
    (hfloor : db.poNumberFloor < LAST_PLAIN) (hdistinct : db.poNumbers.Nodup)
    {σ : Config Db RowKey LockName Empty Unit ι}
    (hrun : Run (Config.initial db fun i => (calls i).program) σ) :
    db.poNumbers <+: σ.db.poNumbers ∧ (σ.db.poNumbers.Nodup ∨ σ.db.numbersUsedUp) := by
  have hgood : (numberContract db).Good σ :=
    LockContract.good_run (LockContract.good_initial ⟨List.prefix_rfl, rfl, .inl hdistinct⟩
      fun i => safe_orderCall hfloor (calls i)) hrun
  exact ⟨hgood.inv.1, hgood.inv.2.2⟩

/-- One client orders what is in the queue while another builds an order by hand. -/
def queuedAndManual : Bool → OrderCall
  | false => .create [1] none { poId := 1, line := fun p => 2 * p } 0
  | true => .createManual 1 [{ productId := 1, qty := 3 }] none
      { poId := 2, line := fun p => 2 * p + 1, order := fun p => p + 1 } 0

/-- Both are through with their reads before either has the lock: their numbers differ. -/
theorem queuedAndManual_distinct :
    ∃ σ, Run (Config.initial queuedProduct fun i => (queuedAndManual i).program) σ ∧
      σ.db.poNumbers.length = 2 ∧ (σ.db.poNumbers.Nodup ∨ σ.db.numbersUsedUp) := by
  obtain ⟨σ, hrun, htwo⟩ := exists_run_of_schedule [false, true] (fun _ _ _ _ => True)
    (List.replicate 2 (true, true) ++ List.replicate 11 (false, true) ++
      List.replicate 7 (true, true))
    (Config.initial queuedProduct fun i => (queuedAndManual i).program)
    (fun σ => decide (σ.db.poNumbers.length = 2) = true)
    (by decide) (by decide +kernel)
  exact ⟨σ, hrun, of_decide_eq_true htwo,
    (poNumbers_distinct queuedAndManual (by decide) (by decide) hrun).2⟩

end Restock
