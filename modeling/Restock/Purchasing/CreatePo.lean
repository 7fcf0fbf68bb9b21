import Restock.Purchasing.PoMath
import Restock.Store.Confined

/-!
# Creating a purchase order from the queue

`apps/web/lib/po/create-po.ts`, the numbering of `apps/web/lib/po/po-number.ts` and
`removeQueuedOrder` of `apps/web/lib/data/orders.ts`. A create reads some pending queue rows
and their products, sizes the lines, and then claims the rows in a transaction that goes on
only when it still finds every row pending. The audit events written after the commits are
left out, the clock is read once, and the ids the database generates are parameters.

* `nextPoNumber` — the number after the highest plain one;
* `createPoFromOrders`, `removeQueuedOrder` — the code;
* `safe_createPoFromOrders`, `safe_removeQueuedOrder` — what has to be checked of them
  under a contract: their commits, given the rows that were claimed.
-/

namespace Restock

open Store

variable {M R : Type}

/-! ## Numbers -/

/-- The characters `String.prototype.trim` strips. -/
def isTrimmed (c : Char) : Bool :=
  c.toNat ∈ [0x9, 0xA, 0xB, 0xC, 0xD, 0x20, 0xA0, 0x1680, 0x2028, 0x2029, 0x202F, 0x205F, 0x3000,
    0xFEFF] ∨ (0x2000 ≤ c.toNat ∧ c.toNat ≤ 0x200A)

/-- `String.prototype.trim`. -/
def trimChars (cs : List Char) : List Char :=
  ((cs.dropWhile isTrimmed).reverse.dropWhile isTrimmed).reverse

/-- A digit is not stripped. -/
theorem isTrimmed_of_isDigit {c : Char} (h : c.isDigit = true) : isTrimmed c = false := by
  rw [Char.isDigit_iff_toNat] at h
  have hlower : 48 ≤ c.toNat := h.1
  have hupper : c.toNat ≤ 57 := h.2
  rw [isTrimmed, decide_eq_false_iff_not]
  simp only [List.mem_cons, List.not_mem_nil, or_false, not_or, not_and, not_le]
  omega

/-- Nothing is dropped in front of a character that is kept. -/
private theorem dropWhile_of_head {cs : List Char} (h : ∀ c ∈ cs.head?, isTrimmed c = false) :
    cs.dropWhile isTrimmed = cs := by
  cases cs with
  | nil => rfl
  | cons c cs => exact List.dropWhile_cons_of_neg (Bool.not_eq_true _ ▸ h c rfl)

/-- A text that neither begins nor ends with a blank is not stripped. -/
theorem trimChars_eq_self {cs : List Char} (hhead : ∀ c ∈ cs.head?, isTrimmed c = false)
    (hlast : ∀ c ∈ cs.getLast?, isTrimmed c = false) : trimChars cs = cs := by
  rw [← List.head?_reverse] at hlast
  -- the text is stripped from the front, reversed, and stripped from the front again
  rw [trimChars, dropWhile_of_head hhead, dropWhile_of_head hlast, List.reverse_reverse]

/-- The number of `/^PO-(\d{1,9})(?:[A-Z]{1,5})?$/i`, where it matches. -/
def plainPo : List Char → Option ℕ
  | p :: o :: '-' :: rest =>
      let digits := rest.takeWhile Char.isDigit
      let suffix := rest.dropWhile Char.isDigit
      if p.toUpper = 'P' ∧ o.toUpper = 'O' ∧ digits ≠ [] ∧ digits.length ≤ 9 ∧
          suffix.length ≤ 5 ∧ suffix.all Char.isAlpha then
        some (digits.foldl (fun n d => 10 * n + (d.toNat - '0'.toNat)) 0)
      else none
  | _ => none

/-- The next number: one more than the highest plain number, and than the floor. -/
def nextPoNumber (existing : List String) (floor : ℤ) : String :=
  let highest := existing.foldl
    (fun highest n => max highest ((plainPo (trimChars n.toList)).getD 0)) (max 0 floor).toNat
  let digits := Nat.toDigits 10 (highest + 1)
  String.ofList ("PO-".toList ++ List.replicate (4 - digits.length) '0' ++ digits)

example : nextPoNumber ["PO-0109WEZ", "PO-20260605-0068", " po-7"] 12 = "PO-0110" := by
  decide +kernel

/-! ## Creating -/

/-- Why an order was not created. -/
inductive CreateRefusal
  | noOrders
  | mixedSuppliers
  | noSupplier
  deriving DecidableEq, Repr

/-- `CreatePoResult`. -/
inductive CreatePoResult
  | ok (poId : PoId) (poNumber : String)
  | refused (reason : CreateRefusal)
  deriving DecidableEq, Repr

/-- The ids generated for a new order and for its line of each product. -/
structure NewIds where
  poId : PoId
  line : ProductId → LineId

/-- A queue row a create may take. -/
def isQueued (orderIds : List OrderId) (o : Order) : Bool :=
  o.id ∈ orderIds ∧ o.status = .pending ∧ o.productId.isSome

/-- Queue rows with their products, leaving out rows whose product is gone. -/
def resolveProducts (rows : List Order) (products : List Product) : List (Order × Product) :=
  rows.filterMap fun r => do
    let productId ← r.productId
    let product ← products.find? fun p => p.id = productId
    return (r, product)

/-- What a queue row asks for. -/
def lineInput (o : Order × Product) : LineInput where
  productId := o.2.id
  sku := o.2.sku
  title := o.2.title
  qty := (o.1.orderedQty.getD 1 : ℤ)
  unitCostKes := o.2.costKes

/-- The row of a new line. -/
def PoLinePlan.row (plan : PoLinePlan) (ids : NewIds) : PurchaseOrderLine where
  id := ids.line plan.productId
  purchaseOrderId := ids.poId
  productId := plan.productId
  sku := plan.sku
  title := plan.title
  quantity := plan.quantity
  unitCostKes := plan.unitCostKes
  lineTotalKes := plan.lineTotalKes
  recommendedQty := some plan.recommendedQty

/-- A queue row claimed by a create. -/
def Order.claim (now : Time) (o : Order) : Order :=
  { o with status := .ordered, orderedAt := some now }

/-- A claimed queue row put on its order. -/
def Order.link (poId : PoId) (stock : ℚ) (o : Order) : Order :=
  { o with purchaseOrderId := some poId, stockAtOrder := some stock }

/-- The queue rows with these ids that are still pending. -/
def isStillPending (orderIds : List OrderId) (o : Order) : Bool :=
  o.id ∈ orderIds ∧ o.status = .pending

/-- The transaction of a create, with what it read before: claim the rows, number the order,
insert it with its lines and put the rows on it. -/
def createClaimed (orders : List (Order × Product)) (supplierId : SupplierId)
    (lines : List PoLinePlan) (actorName : Option String) (ids : NewIds) (now : Time) :
    Op M R (PoId × String) := do
  Session.advisoryLock .poNumber
  -- Only the create that still finds every row pending may proceed.
  let claimed ← Session.updateMany Order (isStillPending (orders.map fun o => o.1.id))
    (·.claim now)
  if claimed ≠ orders.length then throw .queueClaimed
  let existing ← Session.findMany PurchaseOrder fun _ => true
  let tenant ← Session.query Db.tenant
  let poNumber := nextPoNumber (existing.map PurchaseOrder.poNumber)
    ((tenant.map Tenant.poNumberFloor).getD 0)
  let po : PurchaseOrder :=
    { id := ids.poId
      poNumber
      supplierId := some supplierId
      status := .draft
      currency := (tenant.map Tenant.currency).getD "KES"
      subtotalKes := subtotal (lines.map PoLinePlan.lineTotalKes)
      createdAt := now
      createdByName := actorName }
  Session.create po .uniqueViolation
  forM lines fun plan => Session.create (plan.row ids) .uniqueViolation
  forM orders fun o =>
    Session.update Order o.1.id (·.link ids.poId o.2.currentStock) .recordNotFound
  return (ids.poId, poNumber)

/-- Create one order from a set of queued rows, all belonging to one supplier. -/
def createPoFromOrders (orderIds : List OrderId) (actorName : Option String) (ids : NewIds)
    (now : Time) : Op M R CreatePoResult := do
  let rows ← Session.findMany Order (isQueued orderIds)
  if rows = [] then
    return .refused .noOrders
  let products ← Session.findMany Product fun p => some p.id ∈ rows.map Order.productId
  let suppliers ← Session.query fun db : Db =>
    db.suppliers.rows.filter fun s => some s.id ∈ products.map Product.supplierId
  let orders := resolveProducts rows products
  let some first := orders.head?
    | return .refused .noOrders
  let supplierIds := (orders.map fun o => o.2.supplierId).eraseDups
  if supplierIds.length > 1 then
    return .refused .mixedSuppliers
  let some supplier := suppliers.find? fun s => some s.id = first.2.supplierId
    | return .refused .noSupplier
  let lines := buildPoLines (orders.map lineInput) supplier.moq
  let created ← tryCatch
    (some <$> Session.transaction (createClaimed orders supplier.id lines actorName ids now))
    fun
      | .queueClaimed => return none
      | e => throw e
  let some (poId, poNumber) := created
    | return .refused .noOrders
  return .ok poId poNumber

/-! ## Taking a row off the queue -/

/-- `RemoveQueuedResult`. -/
inductive RemoveQueuedResult
  | ok
  | notFound
  deriving DecidableEq, Repr

/-- Take one line back off the order queue. -/
def removeQueuedOrder (orderId : OrderId) : Op M R RemoveQueuedResult := do
  let removed ← Session.transaction do
    let some order ← Session.findFirst Order fun o => o.id = orderId ∧ o.status = .pending
      | return none
    let count ← Session.deleteMany Order fun o => o.id = order.id ∧ o.status = .pending
    return if count = 1 then some order else none
  return if removed.isSome then .ok else .notFound

/-! ## Under a contract -/

/-- The database after the commit of a create. -/
def Db.created (db : Db) (orders : List (Order × Product)) (po : PurchaseOrder)
    (plans : List PoLinePlan) (ids : NewIds) (now : Time) : Db :=
  { db with
    orders := orders.foldl
      (fun t o => t.update (fun x => x.id = o.1.id) (·.link ids.poId o.2.currentStock))
      (db.orders.update (fun x => x.id ∈ orders.map fun o => o.1.id) (·.claim now))
    purchaseOrders := db.purchaseOrders.insert po
    lines := plans.foldl (fun t plan => t.insert (plan.row ids)) db.lines }

/-- The rows and products a create works with, read in the states `s₀` and `s₁`. -/
def chosenOrders (orderIds : List OrderId) (s₀ s₁ : Db) : List (Order × Product) :=
  let rows := s₀.orders.rows.filter (isQueued orderIds)
  resolveProducts rows (s₁.products.rows.filter fun p => some p.id ∈ rows.map Order.productId)

/-- A chosen row was queued under one of the ids, for the product it is paired with. -/
theorem mem_chosenOrders {orderIds : List OrderId} {s₀ s₁ : Db} {o : Order × Product}
    (h : o ∈ chosenOrders orderIds s₀ s₁) : o.1 ∈ s₀.orders.rows ∧ o.1.productId = some o.2.id := by
  obtain ⟨r, hr, hresolved⟩ := List.mem_filterMap.mp h
  cases hproduct : r.productId with
  | none => simp [hproduct] at hresolved
  | some productId =>
      simp only [hproduct, Option.bind_eq_bind, Option.bind_some,
        Option.bind_eq_some_iff] at hresolved
      obtain ⟨product, hfind, heq⟩ := hresolved
      cases heq
      refine ⟨(List.mem_filter.mp hr).1, ?_⟩
      have hid : product.id = productId := by simpa using List.find?_some hfind
      rw [hproduct, hid]

section Safe

variable {ι : Type} {Γ : Contract Db RowKey LockName M R ι} {i : ι}

/-- The loop that inserts lines, on the whole database. -/
theorem foldl_insert_lines (plans : List PoLinePlan) (ids : NewIds) (db : Db) :
    plans.foldl (fun s plan => { s with lines := s.lines.insert (plan.row ids) }) db
      = { db with lines := plans.foldl (fun t plan => t.insert (plan.row ids)) db.lines } := by
  induction plans generalizing db with
  | nil => rfl
  | cons plan plans ih => rw [List.foldl_cons, ih]; rfl

/-- The loop that puts rows on an order, on the whole database. -/
theorem foldl_link_orders (orders : List (Order × Product)) (poId : PoId) (db : Db) :
    orders.foldl (fun s o => { s with
        orders := s.orders.update (fun x => x.id = o.1.id) (·.link poId o.2.currentStock) }) db
      = { db with
          orders := orders.foldl
            (fun t o => t.update (fun x => x.id = o.1.id) (·.link poId o.2.currentStock))
            db.orders } := by
  induction orders generalizing db with
  | nil => rfl
  | cons o orders ih => rw [List.foldl_cons, ih]; rfl

/-- A claim that counted as many rows as there are ids claimed the rows under all of them. -/
theorem claimed_all {t : Table Order} {orderIds : List OrderId}
    (h : (t.matching (isStillPending orderIds)).length = orderIds.length) (id : OrderId) :
    id ∈ t.matching (isStillPending orderIds) ↔ id ∈ orderIds := by
  have hsubset : t.matching (isStillPending orderIds) ⊆ orderIds := by
    intro id hid
    obtain ⟨o, ho, hpending⟩ := Table.mem_matching.mp hid
    rw [← (Table.find_eq_some.mp ho).2]
    exact (of_decide_eq_true hpending).1
  have hnodup : (t.matching (isStillPending orderIds)).Nodup :=
    t.nodup.sublist (List.filter_sublist.map _)
  exact ((List.subperm_of_subset hnodup hsubset).perm_of_length_le (Nat.le_of_eq h.symm)).mem_iff

/-- The effect of a claim that claimed the rows under all of its ids, over any state. -/
theorem claim_act {s : Db} {orderIds : List OrderId} {now : Time}
    (h : (s.orders.matching (isStillPending orderIds)).length = orderIds.length) (db : Db) :
    (updating Order (isStillPending orderIds) (·.claim now) s).act db
      = { db with orders := db.orders.update (fun x => x.id ∈ orderIds) (·.claim now) } := by
  simp only [updating, get_orders, set_orders, key_order, claimed_all h]

/-- The writes of a create, over any state: the claim, the insert of the order, the loop over
its lines and the loop over the claimed rows. -/
theorem sees_created {s : Db} {orders : List (Order × Product)} {po : PurchaseOrder}
    {plans : List PoLinePlan} {ids : NewIds} {now : Time} {ws ws' : List (Write Db RowKey)}
    (h : (s.orders.matching (isStillPending (orders.map fun o => o.1.id))).length
      = (orders.map fun o => o.1.id).length) (u : Db)
    (hlines : ∀ u, sees (([updating Order (isStillPending (orders.map fun o => o.1.id))
        (·.claim now) s] ++ [inserting po]) ++ ws) u
      = plans.foldl (fun s plan => { s with lines := s.lines.insert (plan.row ids) })
          (sees ([updating Order (isStillPending (orders.map fun o => o.1.id))
            (·.claim now) s] ++ [inserting po]) u))
    (hlinks : ∀ u, sees (([updating Order (isStillPending (orders.map fun o => o.1.id))
        (·.claim now) s] ++ [inserting po]) ++ ws ++ ws') u
      = orders.foldl (fun s o => { s with
            orders := s.orders.update (fun x => x.id = o.1.id) (·.link ids.poId o.2.currentStock) })
          (sees (([updating Order (isStillPending (orders.map fun o => o.1.id))
            (·.claim now) s] ++ [inserting po]) ++ ws) u)) :
    sees (([updating Order (isStillPending (orders.map fun o => o.1.id)) (·.claim now) s]
      ++ [inserting po]) ++ ws ++ ws') u = u.created orders po plans ids now := by
  rw [hlinks, hlines, foldl_link_orders, foldl_insert_lines, sees_append, sees_cons, sees_nil,
    sees_cons, sees_nil, claim_act h, inserting_act]
  rfl

/-- The transaction of a create is safe when its commit is: at the commit every row it took
is still pending and the id of the new order still free, both being locked. -/
theorem safe_createClaimed {orders : List (Order × Product)} {supplierId : SupplierId}
    {plans : List PoLinePlan} {actorName : Option String} {ids : NewIds} {now : Time}
    {k : PoId × String → OpProgram M R} {err : Failure → OpProgram M R} {seen : List Db} {db : Db}
    (herr : ∀ e seen ws db, Γ.Safe i (err e) seen ws db)
    (hcommit : ∀ more po number t, po.id = ids.poId → po.status = .draft → Γ.Rely [] db t →
      Γ.Inv t → t.purchaseOrders.find ids.poId = none →
      (∀ o ∈ orders, ∃ row, t.orders.find o.1.id = some row ∧ row.status = .pending) →
      let t' := t.created orders po plans ids now
      Γ.Inv t' ∧ Γ.Guar t t' ∧ Γ.AtCommit i (seen ++ more) t t' (k (ids.poId, number)) ∧
        Γ.Safe i (k (ids.poId, number)) (seen ++ more) [] t') :
    Γ.Safe i (createClaimed orders supplierId plans actorName ids now (fun a => .commit (k a)) err)
      seen [] db := by
  unfold createClaimed
  simp only [Session.bind_apply, Session.advisoryLock_apply]
  refine Contract.safe_lock (Contract.safe_updateMany fun s _ hrely => ?_)
  by_cases hcount : ((Stored.get (sees [] s) : Table Order).matching
      (isStillPending (orders.map fun o => o.1.id))).length ≠ orders.length
  · rw [if_pos hcount]
    exact herr _ _ _ _
  have hlength : (s.orders.matching (isStillPending (orders.map fun o => o.1.id))).length
      = (orders.map fun o => o.1.id).length := by rw [List.length_map]; exact not_not.mp hcount
  simp only [if_neg hcount, Session.bind_apply, List.nil_append]
  refine Contract.safe_query fun s₂ _ hrely₂ => ?_
  refine Contract.safe_query fun s₃ _ hrely₃ => ?_
  refine Contract.safe_create (fun _ => herr _ _ _ _) fun s₄ _ hrely₄ hfree => ?_
  refine Contract.does_forM (fun plan => Contract.does_create (plan.row ids) _) plans _ _ _ _ _
    herr fun more ws db' hrely₅ hlines => ?_
  refine Contract.does_forM (fun o : Order × Product => Contract.does_update o.1.id
    (fun x : Order => x.link ids.poId o.2.currentStock) _) orders _ _ _ _ _ herr
    fun more' ws' db'' hrely₆ hlinks => ?_
  simp only [Session.pure_apply]
  intro t hinv hrely₇ _
  -- what the locks of the claim and of the insert keep until the commit
  have hinserted := hrely₅.trans (hrely₆.left.trans hrely₇.left.left)
  have hclaimed := hrely₂.trans (hrely₃.trans (hrely₄.trans hinserted.left))
  have hpending : ∀ o ∈ orders, ∃ row, t.orders.find o.1.id = some row ∧ row.status = .pending := by
    intro o ho
    have hmem := (claimed_all hlength o.1.id).mpr (List.mem_map_of_mem ho)
    obtain ⟨row, hrow, hpending⟩ := Table.mem_matching.mp hmem
    have hsame : s.orders.find o.1.id = t.orders.find o.1.id :=
      hclaimed.same (k := .order o.1.id) (by
        rw [locked_cons, List.mem_append]
        exact Or.inl (List.mem_map_of_mem hmem))
    exact ⟨row, by rw [← hsame, hrow], (of_decide_eq_true hpending).2⟩
  have hnew : t.purchaseOrders.find ids.poId = none := by
    have hsame : s₄.purchaseOrders.find ids.poId = t.purchaseOrders.find ids.poId :=
      hinserted.same (k := .purchaseOrder ids.poId) (by
        rw [locked_append, List.mem_append]
        refine Or.inr ?_
        rw [locked_cons, List.mem_append]
        exact Or.inl (List.mem_singleton_self _))
    rw [← hsame]
    exact hfree
  rw [sees_created (s := sees [] s) hlength t hlines hlinks]
  have hseen : seen ++ [s] ++ [s₂] ++ [s₃] ++ [s₄] ++ more ++ more'
      = seen ++ ([s] ++ [s₂] ++ [s₃] ++ [s₄] ++ more ++ more') := by simp
  rw [hseen]
  exact hcommit _ _ _ t rfl rfl (hrely.trans hclaimed.unlocked) hinv hnew hpending

/-- The products of chosen rows have a line each. -/
theorem planned_of_chosen {orders : List (Order × Product)} {moq : ℚ} {o : Order × Product}
    (h : o ∈ orders) :
    ∃ plan ∈ buildPoLines (orders.map lineInput) moq, plan.productId = o.2.id := by
  have hproduct : o.2.id ∈ (buildPoLines (orders.map lineInput) moq).map PoLinePlan.productId := by
    rw [mem_products_buildPoLines, List.map_map]
    exact List.mem_map.mpr ⟨o, h, rfl⟩
  exact List.mem_map.mp hproduct

/-- A create is safe when its commit is. It read the queue rows in the state `s₀` and their
products in the state `s₁`; at the commit every row it chose is still pending, and the id of
the new order is free. -/
theorem safe_createPoFromOrders {orderIds : List OrderId} {actorName : Option String}
    {ids : NewIds} {now : Time} {ok : CreatePoResult → OpProgram M R}
    {err : Failure → OpProgram M R} {seen : List Db} {db : Db}
    (hok : ∀ r, Γ.SafeAnyway i (ok r)) (herr : ∀ e, Γ.SafeAnyway i (err e))
    (hcommit : ∀ s₀ s₁ more po plans number t, po.id = ids.poId → po.status = .draft →
      (∀ o ∈ chosenOrders orderIds s₀ s₁, ∃ plan ∈ plans, plan.productId = o.2.id) →
      Γ.Rely [] s₀ t → Γ.Inv t → t.purchaseOrders.find ids.poId = none →
      (∀ o ∈ chosenOrders orderIds s₀ s₁,
        ∃ row, t.orders.find o.1.id = some row ∧ row.status = .pending) →
      let t' := t.created (chosenOrders orderIds s₀ s₁) po plans ids now
      Γ.Inv t' ∧ Γ.Guar t t' ∧
        Γ.AtCommit i (seen ++ [s₀] ++ [s₁] ++ more) t t' (ok (.ok ids.poId number))) :
    Γ.Safe i (createPoFromOrders orderIds actorName ids now ok err) seen [] db := by
  unfold createPoFromOrders
  simp only [Session.bind_apply]
  refine Contract.safe_read fun s₀ _ hrely₀ => ?_
  by_cases hrows : (Stored.get s₀ : Table Order).rows.filter (isQueued orderIds) = []
  · rw [if_pos hrows]
    exact hok _ _ _
  rw [if_neg hrows]
  simp only [Session.bind_apply]
  refine Contract.safe_read fun s₁ _ hrely₁ => ?_
  refine Contract.safe_read fun s₂ _ hrely₂ => ?_
  have hchosen : resolveProducts ((Stored.get s₀ : Table Order).rows.filter (isQueued orderIds))
      ((Stored.get s₁ : Table Product).rows.filter fun p =>
        some p.id ∈ ((Stored.get s₀ : Table Order).rows.filter (isQueued orderIds)).map
          Order.productId)
      = chosenOrders orderIds s₀ s₁ := rfl
  rw [hchosen]
  cases (chosenOrders orderIds s₀ s₁).head? with
  | none => exact hok _ _ _
  | some first =>
  dsimp only
  by_cases hmixed : ((chosenOrders orderIds s₀ s₁).map fun o => o.2.supplierId).eraseDups.length > 1
  · rw [if_pos hmixed]
    exact hok _ _ _
  rw [if_neg hmixed]
  cases (s₂.suppliers.rows.filter fun s => some s.id ∈ ((Stored.get s₁ : Table Product).rows.filter
      fun p => some p.id ∈ ((Stored.get s₀ : Table Order).rows.filter (isQueued orderIds)).map
        Order.productId).map Product.supplierId).find? fun s => some s.id = first.2.supplierId with
  | none => exact hok _ _ _
  | some supplier =>
  dsimp only
  rw [Session.bind_apply, Session.tryCatch_apply]
  refine safe_createClaimed (fun e => ?_)
    fun more po number t hid hdraft hrely hinv hnew hpending =>
    ?_
  · -- a create that lost a row to another rolls back, and answers that nothing is queued
    cases e <;> first | exact fun _ _ _ => hok _ _ _ | exact fun _ _ _ => herr _ _ _
  · obtain ⟨hinv', hguar, hat⟩ := hcommit s₀ s₁ ([s₂] ++ more) po _ number t hid hdraft
      (fun o ho => planned_of_chosen ho) (hrely₁.trans (hrely₂.trans hrely)) hinv hnew hpending
    refine ⟨hinv', hguar, ?_, hok _ _ _⟩
    rw [List.append_assoc _ [s₂] more]
    exact hat

/-- Taking a row off the queue is safe when its commit is: the row it deletes is still
pending then, being locked. -/
theorem safe_removeQueuedOrder {orderId : OrderId} {ok : RemoveQueuedResult → OpProgram M R}
    {err : Failure → OpProgram M R} {seen : List Db} {db : Db} (hΓ : Γ.Reflexive)
    (hok : ∀ r, Γ.SafeAnyway i (ok r))
    (hcommit : ∀ more t row r, Γ.Inv t → t.orders.find orderId = some row →
      row.status = .pending →
      let t' : Db := { t with orders := t.orders.erase fun o => o.id = orderId }
      Γ.Inv t' ∧ Γ.Guar t t' ∧ Γ.AtCommit i (seen ++ more) t t' (ok r)) :
    Γ.Safe i (removeQueuedOrder orderId ok err) seen [] db := by
  unfold removeQueuedOrder
  simp only [Session.bind_apply, Session.transaction_apply]
  refine Contract.safe_read fun s₀ _ _ => ?_
  cases hfind : (Stored.get s₀ : Table Order).rows.find? fun o =>
      o.id = orderId ∧ o.status = .pending with
  | none => exact Contract.safe_commit_of_same hΓ (fun _ => rfl) (hok _)
  | some order =>
  have hid : order.id = orderId := by
    have hfound := List.find?_some hfind
    exact (of_decide_eq_true hfound).1
  dsimp only
  rw [hid]
  refine Contract.safe_deleteMany fun s _ _ => ?_
  rw [sees_nil, List.nil_append]
  by_cases hnone : (Stored.get s : Table Order).matching
      (fun o => o.id = orderId ∧ o.status = .pending) = []
  · refine Contract.safe_commit_of_same hΓ (fun t => ?_) (hok _)
    rw [sees_cons, sees_nil, deleting_act_of_no_match hnone]
  · obtain ⟨id, hmem⟩ := List.exists_mem_of_ne_nil _ hnone
    obtain ⟨row, hrow, hpending⟩ := Table.mem_matching.mp hmem
    have hp : ∀ o : Order, decide (o.id = orderId ∧ o.status = .pending) = true →
        Keyed.key o = orderId := fun o h => (of_decide_eq_true h).1
    obtain rfl : id = orderId := by rw [← hp row hpending, (Table.find_eq_some.mp hrow).2]
    -- the deleted row is locked until the commit, so it is as it was read
    intro t hinv hrely _
    have hlocked := mem_keys_deleting hp hrow hpending
    have hrow' : t.orders.find id = some row := by
      rw [← hrow]
      exact (Stored.find_of_same (hrely.same (by simpa using hlocked))).symm
    rw [sees_cons, sees_nil, deleting_act_of_match hp hrow hpending]
    obtain ⟨hinv', hguar, hat⟩ := hcommit [s₀, s] t row _ hinv hrow' (of_decide_eq_true hpending).2
    exact ⟨hinv', hguar, by simpa using hat, hok _ _ _⟩

end Safe

end Restock
