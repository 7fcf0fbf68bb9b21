import Restock.Purchasing.CreatePo
import Restock.Purchasing.EditLines
import Restock.Purchasing.ReceiveConfined

/-!
# The order queue

The calls that move queue rows on and off purchase orders, in any number and interleaved in
any way at READ COMMITTED: a row is queued, is put on an order by a create, and goes back to
the queue when the order is cancelled or its line removed.

* `QueueCall` — a call, and its program;
* `Db.QueueSound` — an ordered row is on an order that is not cancelled and has a line for
  it, a pending row is on none;
* `queueSound_of_run` — this holds in every committed state, and a create that changes
  anything has claimed every row it chose.
-/

namespace Restock

open Store

/-- A call that moves queue rows. -/
inductive QueueCall
  | create (orderIds : List OrderId) (actorName : Option String) (ids : NewIds) (now : Time)
  | removeQueued (orderId : OrderId)
  | cancel (poId : PoId) (actorName : Option String) (now : Time)
  | removeLine (poId : PoId) (lineId : LineId)
  | receive (poId : PoId) (entries : List ReceiveEntry) (locationId : LocationId) (now : Time)

/-- What a call answers. -/
inductive QueueAnswer
  | created (result : CreatePoResult)
  | removed (result : RemoveQueuedResult)
  | cancelled (result : CancelPoResult)
  | edited (result : EditPoLinesResult)
  | received (result : ReceivePoResult)
  deriving DecidableEq

/-- The program of a call. -/
def QueueCall.program : QueueCall → OpProgram Empty QueueAnswer
  | .create orderIds actorName ids now => Session.program do
      return .created (← createPoFromOrders orderIds actorName ids now)
  | .removeQueued orderId => Session.program do
      return .removed (← removeQueuedOrder orderId)
  | .cancel poId actorName now => Session.program do
      return .cancelled (← cancelPo poId actorName now)
  | .removeLine poId lineId => Session.program do
      return .edited (← removePoLine poId lineId)
  | .receive poId entries locationId now => Session.program do
      return .received (← receivePoLines poId entries locationId now)

/-! ## What holds of the queue -/

/-- The queue row is on an order that is not cancelled and has a line for its product. -/
def Db.Carries (db : Db) (o : Order) : Prop :=
  ∃ poId po, o.purchaseOrderId = some poId ∧ db.purchaseOrders.find poId = some po ∧
    po.status ≠ .cancelled ∧ ∃ l ∈ db.linesOf poId, o.productId = some l.productId

/-- An ordered row is on an order that is not cancelled and has a line for the row's
product; a pending row is on no order. -/
structure Db.QueueSound (db : Db) : Prop where
  ordered : ∀ o ∈ db.orders.rows, o.status = .ordered → db.Carries o
  pending : ∀ o ∈ db.orders.rows, o.status = .pending → o.purchaseOrderId = none

/-- A queue on which nothing is ordered yet is sound. -/
theorem Db.queueSound_of_pending {db : Db}
    (h : ∀ o ∈ db.orders.rows, o.status = .pending ∧ o.purchaseOrderId = none) :
    db.QueueSound where
  ordered o ho hordered := by
    rw [(h o ho).1] at hordered
    cases hordered
  pending o ho _ := (h o ho).2

/-- Line ids are not used twice: `owner` says which order and product an id was generated
for, of the lines stored and of those the creates may insert. Lines are on stored orders. -/
structure LinesOwned (owner : LineId → PoId × ProductId) (db : Db) : Prop where
  owned : ∀ l ∈ db.lines.rows, owner l.id = (l.purchaseOrderId, l.productId)
  placed : ∀ l ∈ db.lines.rows, (db.purchaseOrders.find l.purchaseOrderId).isSome

/-- A create generates line ids for its own order. -/
def QueueCall.Owned (owner : LineId → PoId × ProductId) : QueueCall → Prop
  | .create _ _ ids _ => ∀ productId, owner (ids.line productId) = (ids.poId, productId)
  | _ => True

/-- What one commit may do to the queue: orders stay stored, rows are neither added nor
given another product, and no row is put on an order that was there before. -/
structure QueueKept (s t : Db) : Prop where
  stored : ∀ poId, (s.purchaseOrders.find poId).isSome → (t.purchaseOrders.find poId).isSome
  rows : ∀ o' ∈ t.orders.rows, ∃ o ∈ s.orders.rows, o.id = o'.id ∧ o.productId = o'.productId ∧
    ∀ poId, (s.purchaseOrders.find poId).isSome → isOutstanding poId o' → isOutstanding poId o

theorem QueueKept.refl (s : Db) : QueueKept s s :=
  ⟨fun _ h => h, fun o ho => ⟨o, ho, rfl, rfl, fun _ _ h => h⟩⟩

theorem QueueKept.trans {s t u : Db} (h : QueueKept s t) (h' : QueueKept t u) :
    QueueKept s u where
  stored poId hpo := h'.stored poId (h.stored poId hpo)
  rows o'' ho'' := by
    obtain ⟨o', ho', hid', hproduct', hback'⟩ := h'.rows o'' ho''
    obtain ⟨o, ho, hid, hproduct, hback⟩ := h.rows o' ho'
    exact ⟨o, ho, hid.trans hid', hproduct.trans hproduct',
      fun poId hpo hout => hback poId hpo (hback' poId (h.stored poId hpo) hout)⟩

/-- The rows a create chose were all pending, and are all on its order. -/
def ClaimedAll (orders : List (Order × Product)) (poId : PoId) (s t : Db) : Prop :=
  ∀ o ∈ orders, (∃ row, s.orders.find o.1.id = some row ∧ row.status = .pending) ∧
    ∃ row, t.orders.find o.1.id = some row ∧ isOutstanding poId row

/-- The states a create read its rows and products in chose rows that it claimed all of. -/
def ClaimsChosen (orderIds : List OrderId) (poId : PoId) (seen : List Db) (s t : Db) : Prop :=
  ∃ s₀ s₁, seen[0]? = some s₀ ∧ seen[1]? = some s₁ ∧
    ClaimedAll (chosenOrders orderIds s₀ s₁) poId s t

section Runs

variable {ι : Type} (owner : LineId → PoId × ProductId) (calls : ι → QueueCall)

/-- What the calls keep to as far as the queue goes. -/
def queueContract : Contract Db RowKey LockName Empty QueueAnswer ι where
  Inv db := db.QueueSound ∧ LinesOwned owner db
  Guar := QueueKept
  ok _ _ _ _ := True
  AtCommit i seen s t _ := t ≠ s → ∀ orderIds actorName ids now,
    calls i = .create orderIds actorName ids now → ClaimsChosen orderIds ids.poId seen s t
  AtCall _ _ _ := True

theorem queueContract_reflexive : (queueContract owner calls).Reflexive where
  guar := QueueKept.refl
  atCommit _ _ _ _ h := absurd rfl h

variable {owner calls}

/-- Interference keeps the queue. -/
theorem queueKept_of_rely {keys : List RowKey} {s t : Db}
    (h : (queueContract owner calls).Rely keys s t) : QueueKept s t :=
  h.lift (QueueKept.refl s) fun _ _ hab hguar _ => hab.trans hguar

end Runs

/-! ## Rows that leave their orders -/

/-- Every row of the second state is a row of the first, or one of them that is no longer
ordered. -/
def RowsSettled (s t : Db) : Prop :=
  ∀ o' ∈ t.orders.rows, o' ∈ s.orders.rows ∨
    (o'.status ≠ .ordered ∧ (o'.status = .pending → o'.purchaseOrderId = none) ∧
      ∃ o ∈ s.orders.rows, o.id = o'.id ∧ o.productId = o'.productId)

theorem RowsSettled.refl (s : Db) : RowsSettled s s :=
  fun _ ho => Or.inl ho

theorem RowsSettled.trans {s t u : Db} (h : RowsSettled s t) (h' : RowsSettled t u) :
    RowsSettled s u := by
  intro o'' ho''
  rcases h' o'' ho'' with ho' | ⟨hordered, hpending, o', ho', hid', hproduct'⟩
  · exact h o'' ho'
  · rcases h o' ho' with ho | ⟨-, -, o, ho, hid, hproduct⟩
    · exact Or.inr ⟨hordered, hpending, o', ho, hid', hproduct'⟩
    · exact Or.inr ⟨hordered, hpending, o, ho, hid.trans hid', hproduct.trans hproduct'⟩

/-- A commit by which rows only leave their orders keeps the queue. -/
theorem RowsSettled.kept {s t : Db} (h : RowsSettled s t)
    (hstored : ∀ poId, (s.purchaseOrders.find poId).isSome → (t.purchaseOrders.find poId).isSome) :
    QueueKept s t where
  stored := hstored
  rows o' ho' := by
    rcases h o' ho' with ho | ⟨hordered, -, o, ho, hid, hproduct⟩
    · exact ⟨o', ho, rfl, rfl, fun _ _ hout => hout⟩
    · exact ⟨o, ho, hid, hproduct, fun _ _ hout => absurd (of_decide_eq_true hout).2 hordered⟩

/-- After a commit by which rows only leave their orders the queue is sound when the orders
still carry the rows that stay. -/
theorem RowsSettled.sound {s t : Db} (h : RowsSettled s t) (hs : s.QueueSound)
    (hcarries : ∀ o ∈ t.orders.rows, o.status = .ordered → s.Carries o → t.Carries o) :
    t.QueueSound where
  ordered o' ho' hordered := by
    rcases h o' ho' with ho | ⟨hnot, -⟩
    · exact hcarries o' ho' hordered (hs.ordered o' ho hordered)
    · exact absurd hordered hnot
  pending o' ho' hpending := by
    rcases h o' ho' with ho | ⟨-, hnone, -⟩
    · exact hs.pending o' ho hpending
    · exact hnone hpending

/-- The rows after a release: those that were not selected, and the released ones. -/
theorem mem_released {p : Order → Bool} {s t : Db} {o' : Order}
    (h : o' ∈ ((updating Order p Order.release s).act t).orders.rows) :
    (o' ∈ t.orders.rows ∧ o'.id ∉ s.orders.matching p) ∨ ∃ o ∈ t.orders.rows, o' = o.release := by
  replace h : o' ∈ (t.orders.update (fun o => o.id ∈ s.orders.matching p) Order.release).rows := h
  rw [Table.rows_update _ _ fun _ => by rfl] at h
  obtain ⟨o, ho, rfl⟩ := List.mem_map.mp h
  by_cases hmatch : o.id ∈ s.orders.matching p
  · rw [if_pos (decide_eq_true hmatch)]
    exact Or.inr ⟨o, ho, rfl⟩
  · rw [if_neg (by simpa using hmatch)]
    exact Or.inl ⟨ho, hmatch⟩

/-- A release settles rows. -/
theorem rowsSettled_release (p : Order → Bool) (s t : Db) :
    RowsSettled t ((updating Order p Order.release s).act t) := by
  intro o' ho'
  rcases mem_released ho' with ⟨ho, -⟩ | ⟨o, ho, rfl⟩
  · exact Or.inl ho
  · refine Or.inr ⟨?_, fun _ => rfl, o, ho, rfl, rfl⟩
    show OrderStatus.pending ≠ .ordered
    decide

/-- A row that is still ordered after a release was not selected by it. -/
theorem not_selected_of_ordered {p : Order → Bool} {s t : Db} {o' : Order}
    (h : o' ∈ ((updating Order p Order.release s).act t).orders.rows)
    (hordered : o'.status = .ordered) : o' ∈ t.orders.rows ∧ o'.id ∉ s.orders.matching p := by
  rcases mem_released h with hkeep | ⟨o, -, rfl⟩
  · exact hkeep
  · have hpending : OrderStatus.pending = .ordered := hordered
    cases hpending

/-! ## The calls keep to the contract -/

section Safe

variable {ι : Type} {owner : LineId → PoId × ProductId} {calls : ι → QueueCall} {i : ι}

/-- A cancellation keeps the queue: whatever is on the order at the commit was on it when
its rows were released. -/
theorem safe_queue_cancel {poId : PoId} {actorName : Option String} {now : Time}
    (hcall : calls i = .cancel poId actorName now) (db : Db) :
    (queueContract owner calls).Safe i (calls i).program [] [] db := by
  rw [hcall]
  refine safe_cancelPo (queueContract_reflexive owner calls) (fun _ _ _ => trivial)
    (fun _ _ _ => trivial) fun seen s₀ s t po hstored hfind hinv hrely₀ hrely _ => ?_
  obtain ⟨hsound, howned⟩ := hinv
  have hsettled : RowsSettled t (t.cancelledFrom s poId actorName now) :=
    rowsSettled_release (isOutstanding poId) s t
  have horders : ∀ id, ((t.cancelledFrom s poId actorName now).purchaseOrders.find id).isSome
      = (t.purchaseOrders.find id).isSome := fun id =>
    Table.isSome_find_update ..
  refine ⟨⟨hsettled.sound hsound ?_, howned.owned, fun l hl => ?_⟩,
    hsettled.kept fun id hid => by rw [horders]; exact hid, fun _ _ _ _ _ h => ?_⟩
  · rintro o ho hordered ⟨id, p, hid, hp, hlive, l, hl, hproduct⟩
    obtain ⟨hmem, hnot⟩ := not_selected_of_ordered ho hordered
    have hne : id ≠ poId := by
      rintro rfl
      -- the row was on the order when the cancellation released its rows
      obtain ⟨r, hr, hrid, -, hback⟩ := (queueKept_of_rely hrely).rows o hmem
      have hout := hback id ((queueKept_of_rely hrely₀).stored id hstored)
        (by simp [isOutstanding, hid, hordered])
      refine hnot (Table.mem_matching.mpr ⟨r, Table.find_eq_some.mpr ⟨hr, hrid⟩, hout⟩)
    refine ⟨id, p, hid, ?_, hlive, l, hl, hproduct⟩
    rw [Db.cancelledFrom, Db.find_mapOrder_of_ne hne fun _ => by rfl]
    exact hp
  · rw [horders]
    exact howned.placed l hl
  · rw [hcall] at h
    cases h

/-- Taking a row off the queue keeps the queue. -/
theorem safe_queue_removeQueued {orderId : OrderId} (hcall : calls i = .removeQueued orderId)
    (db : Db) : (queueContract owner calls).Safe i (calls i).program [] [] db := by
  rw [hcall]
  refine safe_removeQueuedOrder (queueContract_reflexive owner calls) (fun _ _ _ => trivial)
    fun more t row r hinv _ _ => ?_
  obtain ⟨hsound, howned⟩ := hinv
  have hsettled : RowsSettled t { t with orders := t.orders.erase fun o => o.id = orderId } :=
    fun o ho => Or.inl (List.mem_filter.mp ho).1
  refine ⟨⟨hsettled.sound hsound fun _ _ _ h => h, howned.owned, howned.placed⟩,
    hsettled.kept fun _ h => h, fun _ _ _ _ _ h => ?_⟩
  rw [hcall] at h
  cases h

/-- Removing a line keeps the queue: a row that stays on the order waits for another
product, and the line of that product stays too. -/
theorem safe_queue_removeLine {poId : PoId} {lineId : LineId}
    (hcall : calls i = .removeLine poId lineId) (db : Db) :
    (queueContract owner calls).Safe i (calls i).program [] [] db := by
  rw [hcall]
  refine safe_removePoLine (queueContract_reflexive owner calls) (fun _ _ _ => trivial)
    (fun _ _ _ => trivial) ?_
  rintro s₀ s₁ more s t line po r hline - ⟨-, howned₁⟩ ⟨hsound, howned⟩ hrely₁ hrely hfind - - -
  obtain ⟨hlineMem, hlinePo⟩ := List.mem_filter.mp (List.mem_of_find?_eq_some hline)
  have hlineOn : line.purchaseOrderId = poId := of_decide_eq_true hlinePo
  have hsettled : RowsSettled t ((Db.withoutLine poId line s t).mapOrder poId
      (·.setSubtotal (linesSubtotal (linesWithout lineId (s₁.linesOf poId))))) :=
    rowsSettled_release (isQueuedFor poId line.productId) s t
  have horders : ∀ id, (((Db.withoutLine poId line s t).mapOrder poId (·.setSubtotal
      (linesSubtotal (linesWithout lineId (s₁.linesOf poId))))).purchaseOrders.find id).isSome
        = (t.purchaseOrders.find id).isSome := fun id => Table.isSome_find_update ..
  refine ⟨⟨hsettled.sound hsound ?_, fun l hl => howned.owned l (List.mem_filter.mp hl).1,
    fun l hl => ?_⟩, hsettled.kept fun id hid => by rw [horders]; exact hid,
    fun _ _ _ _ _ h => ?_⟩
  · rintro o ho hordered ⟨id, p, hid, hp, hlive, l, hl, hproduct⟩
    obtain ⟨hmem, hnot⟩ := not_selected_of_ordered ho hordered
    obtain ⟨hlMem, hlPo⟩ := List.mem_filter.mp hl
    have hlOn : l.purchaseOrderId = id := of_decide_eq_true hlPo
    have hne : l.id ≠ line.id := by
      intro hsame
      -- one id, one line: the row waited for the removed line and was released with it
      have howner := (howned.owned l hlMem).symm.trans
        ((congrArg owner hsame).trans (howned₁.owned line hlineMem))
      obtain ⟨hpo, hprod⟩ := Prod.mk.inj howner
      obtain rfl : id = poId := by rw [← hlOn, hpo, hlineOn]
      obtain ⟨x, hx, hxid, hxproduct, hback⟩ := (queueKept_of_rely hrely).rows o hmem
      have hstored : (s.purchaseOrders.find id).isSome := by
        refine (queueKept_of_rely hrely₁).stored id ?_
        rw [← hlineOn]
        exact howned₁.placed line hlineMem
      have hout := of_decide_eq_true (hback id hstored (by simp [isOutstanding, hid, hordered]))
      refine hnot (Table.mem_matching.mpr ⟨x, Table.find_eq_some.mpr ⟨hx, hxid⟩, ?_⟩)
      exact decide_eq_true ⟨hout.1, by rw [hxproduct, hproduct, hprod], hout.2⟩
    have hkeep : l ∈ (Db.withoutLine poId line s t).linesOf id := by
      refine List.mem_filter.mpr ⟨List.mem_filter.mpr ⟨hlMem, ?_⟩, hlPo⟩
      simpa using hne
    by_cases hid' : id = poId
    · subst hid'
      have hfind : ((Db.withoutLine id line s t).mapOrder id (·.setSubtotal (linesSubtotal
          (linesWithout lineId (s₁.linesOf id))))).purchaseOrders.find id = some _ :=
        Db.find_mapOrder hp fun _ => by rfl
      exact ⟨id, _, hid, hfind, hlive, l, hkeep, hproduct⟩
    · refine ⟨id, p, hid, ?_, hlive, l, hkeep, hproduct⟩
      rw [Db.find_mapOrder_of_ne hid' fun _ => by rfl]
      exact hp
  · rw [horders]
    exact howned.placed l (List.mem_filter.mp hl).1
  · rw [hcall] at h
    cases h

end Safe

/-! ### Receipts -/

/-- Which line is on which order for which product. -/
def Db.linePlaces (db : Db) : List (LineId × PoId × ProductId) :=
  db.lines.rows.map fun l => (l.id, l.purchaseOrderId, l.productId)

/-- What a write of a receipt leaves alone, as far as the queue goes. -/
structure ReceiptKeeps (s t : Db) : Prop where
  orders : t.purchaseOrders = s.purchaseOrders
  places : t.linePlaces = s.linePlaces
  settled : RowsSettled s t

theorem ReceiptKeeps.refl (s : Db) : ReceiptKeeps s s :=
  ⟨rfl, rfl, .refl s⟩

theorem ReceiptKeeps.trans {s t u : Db} (h : ReceiptKeeps s t) (h' : ReceiptKeeps t u) :
    ReceiptKeeps s u :=
  ⟨h'.orders.trans h.orders, h'.places.trans h.places, h.settled.trans h'.settled⟩

/-- A line of one of two states with the same line places is, with its id, order and
product, in the other. -/
theorem exists_line_of_places {s t : Db} (h : t.linePlaces = s.linePlaces)
    {l : PurchaseOrderLine} (hl : l ∈ s.lines.rows) :
    ∃ l' ∈ t.lines.rows, l'.id = l.id ∧ l'.purchaseOrderId = l.purchaseOrderId ∧
      l'.productId = l.productId := by
  have hplace : (l.id, l.purchaseOrderId, l.productId) ∈ t.linePlaces := by
    rw [h]
    exact List.mem_map_of_mem hl
  obtain ⟨l', hl', heq⟩ := List.mem_map.mp hplace
  simp only [Prod.mk.injEq] at heq
  exact ⟨l', hl', heq⟩

/-- The writes of a receipt leave orders and line places alone and settle rows. -/
theorem receiptWrites_keep :
    ReceiptWrites fun w : Write Db RowKey => ∀ s, ReceiptKeeps s (w.act s) where
  line id qty receivedAt s u := by
    refine ⟨rfl, ?_, .refl _⟩
    show (u.lines.update _ _).rows.map _ = u.lines.rows.map _
    rw [Table.rows_update _ _ fun _ => by rfl, List.map_map]
    refine List.map_congr_left fun l _ => ?_
    rw [Function.comp_apply]
    split <;> rfl
  levels _ _ _ u := ⟨rfl, rfl, .refl _⟩
  newLevel _ u := ⟨rfl, rfl, .refl _⟩
  products _ _ _ u := ⟨rfl, rfl, .refl _⟩
  awaiting poId productIds now s u := by
    refine ⟨rfl, rfl, fun o' ho' => ?_⟩
    replace ho' : o' ∈ (u.orders.update
        (fun o => o.id ∈ s.orders.matching (isAwaiting poId productIds))
        (·.complete now)).rows := ho'
    rw [Table.rows_update _ _ fun _ => by rfl] at ho'
    obtain ⟨o, ho, rfl⟩ := List.mem_map.mp ho'
    split
    · -- a completed row is neither ordered nor pending
      refine Or.inr ⟨?_, fun hpending => ?_, o, ho, rfl, rfl⟩
      · show OrderStatus.completed ≠ .ordered
        decide
      · have hcompleted : OrderStatus.completed = .pending := hpending
        cases hcompleted
    · exact Or.inl ho
  keepsOrders w hw s := (hw s).orders

theorem setReceipt_id (allFull : Bool) (now : Time) (po : PurchaseOrder) :
    (po.setReceipt allFull now).id = po.id := by
  unfold PurchaseOrder.setReceipt
  split <;> rfl

section Safe

variable {ι : Type} {owner : LineId → PoId × ProductId} {calls : ι → QueueCall} {i : ι}

/-- A receipt keeps the queue: it completes rows, and its order is not a cancelled one
afterwards. -/
theorem safe_queue_receive {poId : PoId} {entries : List ReceiveEntry} {locationId : LocationId}
    {now : Time} (hcall : calls i = .receive poId entries locationId now) (db : Db) :
    (queueContract owner calls).Safe i (calls i).program [] [] db := by
  rw [hcall]
  refine safe_receivePoLines (queueContract_reflexive owner calls) receiptWrites_keep
    (fun _ _ _ => trivial) (fun _ _ _ => trivial)
    fun seen ws t po allFull r hws hinv hfind hsame _ => ?_
  obtain ⟨hsound, howned⟩ := hinv
  have hkeeps : ReceiptKeeps t (sees ws t) :=
    rel_sees ReceiptKeeps.refl ReceiptKeeps.trans hws t
  have horders : ∀ id, (((sees ws t).mapOrder poId (·.setReceipt allFull now)).purchaseOrders.find
      id).isSome = (t.purchaseOrders.find id).isSome := by
    intro id
    rw [← hsame]
    exact Table.isSome_find_update ..
  have hsettled : RowsSettled t ((sees ws t).mapOrder poId (·.setReceipt allFull now)) :=
    hkeeps.settled
  refine ⟨⟨hsettled.sound hsound ?_, fun l hl => ?_, fun l hl => ?_⟩,
    hsettled.kept fun id hid => by rw [horders]; exact hid, fun _ _ _ _ _ h => ?_⟩
  · rintro o - - ⟨id, p, hid, hp, hlive, l, hl, hproduct⟩
    obtain ⟨hlMem, hlPo⟩ := List.mem_filter.mp hl
    obtain ⟨l', hl', -, hpo', hproduct'⟩ := exists_line_of_places hkeeps.places hlMem
    have hline : l' ∈ (sees ws t).linesOf id := by
      refine List.mem_filter.mpr ⟨hl', ?_⟩
      rw [hpo']
      exact hlPo
    rw [← hsame] at hp
    rw [← hproduct'] at hproduct
    -- the order that is received is not cancelled by it
    by_cases hid' : id = poId
    · subst hid'
      refine ⟨id, _, hid, Db.find_mapOrder hp (setReceipt_id allFull now), ?_, l', hline, hproduct⟩
      cases allFull <;> simp [PurchaseOrder.setReceipt]
    · refine ⟨id, p, hid, ?_, hlive, l', hline, hproduct⟩
      rw [Db.find_mapOrder_of_ne hid' (setReceipt_id allFull now)]
      exact hp
  · obtain ⟨l', hl', hid', hpo', hproduct'⟩ := exists_line_of_places hkeeps.places.symm hl
    rw [← hid', ← hpo', ← hproduct']
    exact howned.owned l' hl'
  · obtain ⟨l', hl', -, hpo', -⟩ := exists_line_of_places hkeeps.places.symm hl
    rw [horders, ← hpo']
    exact howned.placed l' hl'
  · rw [hcall] at h
    cases h

end Safe

/-! ### Creates -/

/-- What the loop over the claimed rows does to a row: those under one of the ids are put on
the order. -/
theorem rows_linked (orders : List (Order × Product)) (poId : PoId) (t : Table Order) :
    ∃ g : Order → Order,
      (orders.foldl (fun t o => t.update (fun x => x.id = o.1.id) (·.link poId o.2.currentStock))
        t).rows = t.rows.map g ∧
      ∀ r, (g r).id = r.id ∧ (g r).productId = r.productId ∧ (g r).status = r.status ∧
        (r.id ∈ orders.map (fun o => o.1.id) → (g r).purchaseOrderId = some poId) ∧
        (r.id ∉ orders.map (fun o => o.1.id) → g r = r) := by
  induction orders generalizing t with
  | nil => exact ⟨id, (List.map_id _).symm, fun r => ⟨rfl, rfl, rfl, by simp, fun _ => rfl⟩⟩
  | cons o orders ih =>
      obtain ⟨g, hrows, hg⟩ := ih (t.update (fun x => x.id = o.1.id) (·.link poId o.2.currentStock))
      refine ⟨fun r => g (if r.id = o.1.id then r.link poId o.2.currentStock else r), ?_,
        fun r => ?_⟩
      · rw [List.foldl_cons, hrows, Table.rows_update _ _ fun _ => by rfl, List.map_map]
        refine List.map_congr_left fun r _ => ?_
        simp only [Function.comp_apply, decide_eq_true_eq]
      · obtain ⟨hid, hproduct, hstatus, hlinked, hother⟩ :=
          hg (if r.id = o.1.id then r.link poId o.2.currentStock else r)
        by_cases hr : r.id = o.1.id
        · simp only [if_pos hr] at hid hproduct hstatus hlinked hother ⊢
          refine ⟨hid, hproduct, hstatus, fun _ => ?_, fun hnot => absurd hr (by simp_all)⟩
          by_cases hmore : r.id ∈ orders.map fun o => o.1.id
          · exact hlinked hmore
          · rw [hother hmore]
            rfl
        · simp only [if_neg hr] at hid hproduct hstatus hlinked hother ⊢
          refine ⟨hid, hproduct, hstatus, fun hmem => hlinked ?_, fun hnot => hother ?_⟩
          · simpa [hr] using hmem
          · intro hmem
            exact hnot (by simp [hr, hmem])

/-- What a create does to a queue row: those it chose are ordered, on its order. -/
theorem rows_created (t : Db) (orders : List (Order × Product)) (po : PurchaseOrder)
    (plans : List PoLinePlan) (ids : NewIds) (now : Time) :
    ∃ g : Order → Order, (t.created orders po plans ids now).orders.rows = t.orders.rows.map g ∧
      ∀ r, (g r).id = r.id ∧ (g r).productId = r.productId ∧
        (r.id ∈ orders.map (fun o => o.1.id) → isOutstanding ids.poId (g r)) ∧
        (r.id ∉ orders.map (fun o => o.1.id) → g r = r) := by
  obtain ⟨g, hrows, hg⟩ := rows_linked orders ids.poId
    (t.orders.update (fun x => x.id ∈ orders.map fun o => o.1.id) (·.claim now))
  refine ⟨fun r => g (if r.id ∈ orders.map (fun o => o.1.id) then r.claim now else r), ?_,
    fun r => ?_⟩
  · rw [Db.created, hrows, Table.rows_update _ _ fun _ => by rfl, List.map_map]
    refine List.map_congr_left fun r _ => ?_
    simp only [Function.comp_apply, decide_eq_true_eq]
  · obtain ⟨hid, hproduct, hstatus, hlinked, hother⟩ :=
      hg (if r.id ∈ orders.map (fun o => o.1.id) then r.claim now else r)
    by_cases hr : r.id ∈ orders.map fun o => o.1.id
    · simp only [if_pos hr] at hid hproduct hstatus hlinked ⊢
      refine ⟨hid, hproduct, fun _ => decide_eq_true ⟨hlinked hr, hstatus⟩, fun hnot => ?_⟩
      exact absurd hr hnot
    · simp only [if_neg hr] at hid hproduct hother ⊢
      exact ⟨hid, hproduct, fun hmem => absurd hmem hr, fun _ => hother hr⟩

/-- A line of a created order's database was there before or is that of a plan. -/
theorem mem_lines_created {t : Db} {orders : List (Order × Product)} {po : PurchaseOrder}
    {plans : List PoLinePlan} {ids : NewIds} {now : Time} {l : PurchaseOrderLine}
    (h : l ∈ (t.created orders po plans ids now).lines.rows) :
    l ∈ t.lines.rows ∨ ∃ plan ∈ plans, l = plan.row ids := by
  replace h : l ∈ (plans.foldl (fun t plan => t.insert (plan.row ids)) t.lines).rows := h
  generalize t.lines = lines at h
  induction plans generalizing lines with
  | nil => exact Or.inl h
  | cons plan plans ih =>
      rcases ih _ h with hmem | ⟨p, hp, rfl⟩
      · rcases Table.mem_insert hmem with hmem | rfl
        · exact Or.inl hmem
        · exact Or.inr ⟨plan, List.mem_cons_self, rfl⟩
      · exact Or.inr ⟨p, List.mem_cons_of_mem _ hp, rfl⟩

/-- Inserting the lines of plans keeps the lines there are. -/
theorem mem_foldl_insert {plans : List PoLinePlan} {ids : NewIds} {lines : Table PurchaseOrderLine}
    {l : PurchaseOrderLine} (h : l ∈ lines.rows) :
    l ∈ (plans.foldl (fun t plan => t.insert (plan.row ids)) lines).rows := by
  induction plans generalizing lines with
  | nil => exact h
  | cons plan plans ih => exact ih (Table.mem_insert_of_mem h)

/-- After the inserts there is a line under the id of every plan. -/
theorem exists_line_created {plans : List PoLinePlan} (ids : NewIds) {plan : PoLinePlan}
    (h : plan ∈ plans) (lines : Table PurchaseOrderLine) :
    ∃ l ∈ (plans.foldl (fun t plan => t.insert (plan.row ids)) lines).rows,
      l.id = ids.line plan.productId := by
  induction plans generalizing lines with
  | nil => cases h
  | cons p plans ih =>
      rw [List.foldl_cons]
      rcases List.mem_cons.mp h with rfl | hmem
      · cases hfind : lines.find (Keyed.key (plan.row ids)) with
        | none =>
            refine ⟨plan.row ids, mem_foldl_insert ?_, rfl⟩
            rw [Table.rows_insert hfind]
            exact List.mem_append_right _ (List.mem_singleton_self _)
        | some l =>
            obtain ⟨hl, hid⟩ := Table.find_eq_some.mp hfind
            exact ⟨l, mem_foldl_insert (Table.mem_insert_of_mem hl), hid⟩
      · exact ih hmem _

section Safe

variable {ι : Type} {owner : LineId → PoId × ProductId} {calls : ι → QueueCall} {i : ι}

/-- The commit of a create puts the rows it chose on an order with a line for each. -/
theorem queueSound_created {orderIds : List OrderId} {ids : NewIds} (now : Time) {s₀ s₁ t : Db}
    {po : PurchaseOrder} {plans : List PoLinePlan} (hsound : t.QueueSound)
    (howned : LinesOwned owner t)
    (hids : ∀ productId, owner (ids.line productId) = (ids.poId, productId))
    (hpo : po.id = ids.poId) (hdraft : po.status = .draft)
    (hplans : ∀ o ∈ chosenOrders orderIds s₀ s₁, ∃ plan ∈ plans, plan.productId = o.2.id)
    (hkept : QueueKept s₀ t) (hnew : t.purchaseOrders.find ids.poId = none) :
    let t' := t.created (chosenOrders orderIds s₀ s₁) po plans ids now
    t'.QueueSound ∧ LinesOwned owner t' ∧ QueueKept t t' := by
  intro t'
  obtain ⟨g, hrows, hg⟩ := rows_created t (chosenOrders orderIds s₀ s₁) po plans ids now
  have hinserted : t'.purchaseOrders.find ids.poId = some po := by
    show (t.purchaseOrders.insert po).find ids.poId = some po
    rw [← hpo, Table.find_insert (by rw [key_purchaseOrder, hpo, hnew]), key_purchaseOrder,
      if_pos rfl]
  have hothers : ∀ id p, t.purchaseOrders.find id = some p →
      t'.purchaseOrders.find id = some p := by
    intro id p hp
    have hne : Keyed.key po ≠ id := by
      rintro rfl
      rw [key_purchaseOrder, hpo, hnew] at hp
      cases hp
    exact (Table.find_insert_of_ne hne).trans hp
  have hstored : ∀ id, (t.purchaseOrders.find id).isSome → (t'.purchaseOrders.find id).isSome := by
    intro id hid
    obtain ⟨p, hp⟩ := Option.isSome_iff_exists.mp hid
    rw [hothers id p hp]
    rfl
  have howned' : LinesOwned owner t' := by
    refine ⟨fun l hl => ?_, fun l hl => ?_⟩
    · rcases mem_lines_created hl with hmem | ⟨plan, -, rfl⟩
      · exact howned.owned l hmem
      · exact hids plan.productId
    · rcases mem_lines_created hl with hmem | ⟨plan, -, rfl⟩
      · exact hstored _ (howned.placed l hmem)
      · exact Option.isSome_iff_exists.mpr ⟨po, hinserted⟩
  refine ⟨⟨fun o' ho' hordered => ?_, fun o' ho' hpending => ?_⟩, howned', hstored,
    fun o' ho' => ?_⟩
  · rw [hrows] at ho'
    obtain ⟨r, hr, rfl⟩ := List.mem_map.mp ho'
    obtain ⟨-, hproduct, hlinked, hother⟩ := hg r
    by_cases hmem : r.id ∈ (chosenOrders orderIds s₀ s₁).map fun o => o.1.id
    · -- a chosen row: its product is still the one it was planned for
      obtain ⟨o, ho, hoid⟩ := List.mem_map.mp hmem
      obtain ⟨hread, hoproduct⟩ := mem_chosenOrders ho
      obtain ⟨o₀, ho₀, ho₀id, ho₀product, -⟩ := hkept.rows r hr
      obtain rfl : o₀ = o.1 := Table.eq_of_key_eq ho₀ hread (ho₀id.trans hoid.symm)
      obtain ⟨plan, hplan, hplanProduct⟩ := hplans o ho
      obtain ⟨l, hl, hlid⟩ := exists_line_created ids hplan t.lines
      have hplace := (howned'.owned l hl).symm.trans
        ((congrArg owner hlid).trans (hids plan.productId))
      obtain ⟨hlpo, hlproduct⟩ := Prod.mk.inj hplace
      refine ⟨ids.poId, po, (of_decide_eq_true (hlinked hmem)).1, hinserted, ?_, l,
        List.mem_filter.mpr ⟨hl, decide_eq_true hlpo⟩, ?_⟩
      · rw [hdraft]
        decide
      · rw [hproduct, ← ho₀product, hoproduct, hlproduct, hplanProduct]
    · rw [hother hmem] at hordered ⊢
      obtain ⟨id, p, hpoId, hp, hlive, l, hl, hlproduct⟩ := hsound.ordered r hr hordered
      obtain ⟨hlMem, hlPo⟩ := List.mem_filter.mp hl
      exact ⟨id, p, hpoId, hothers id p hp, hlive, l,
        List.mem_filter.mpr ⟨mem_foldl_insert hlMem, hlPo⟩, hlproduct⟩
  · rw [hrows] at ho'
    obtain ⟨r, hr, rfl⟩ := List.mem_map.mp ho'
    obtain ⟨-, -, hlinked, hother⟩ := hg r
    by_cases hmem : r.id ∈ (chosenOrders orderIds s₀ s₁).map fun o => o.1.id
    · -- a chosen row is ordered, not pending
      have hordered := (of_decide_eq_true (hlinked hmem)).2
      rw [hordered] at hpending
      cases hpending
    · rw [hother hmem] at hpending ⊢
      exact hsound.pending r hr hpending
  · rw [hrows] at ho'
    obtain ⟨r, hr, rfl⟩ := List.mem_map.mp ho'
    obtain ⟨hid, hproduct, hlinked, hother⟩ := hg r
    by_cases hmem : r.id ∈ (chosenOrders orderIds s₀ s₁).map fun o => o.1.id
    · refine ⟨r, hr, hid.symm, hproduct.symm, fun id hidStored hout => ?_⟩
      -- the order of a chosen row was not there before
      have hpoId := (of_decide_eq_true (hlinked hmem)).1
      rw [(of_decide_eq_true hout).1] at hpoId
      obtain rfl := Option.some.inj hpoId
      rw [hnew] at hidStored
      cases hidStored
    · refine ⟨r, hr, hid.symm, hproduct.symm, fun id _ hout => ?_⟩
      rwa [hother hmem] at hout

/-- A create keeps the queue, and claims every row it chose. -/
theorem safe_queue_create {orderIds : List OrderId} {actorName : Option String} {ids : NewIds}
    {now : Time} (hcall : calls i = .create orderIds actorName ids now)
    (hids : ∀ productId, owner (ids.line productId) = (ids.poId, productId)) (db : Db) :
    (queueContract owner calls).Safe i (calls i).program [] [] db := by
  rw [hcall]
  refine safe_createPoFromOrders (fun _ _ _ => trivial) (fun _ _ _ => trivial)
    fun s₀ s₁ more po plans number t hpo hdraft hplans hrely hinv hnew hpending => ?_
  obtain ⟨hsound, howned⟩ := hinv
  obtain ⟨hsound', howned', hkept'⟩ := queueSound_created now hsound howned hids hpo hdraft
    hplans (queueKept_of_rely hrely) hnew
  refine ⟨⟨hsound', howned'⟩, hkept', fun _ orderIds' _ ids' _ h => ?_⟩
  obtain ⟨rfl, -, rfl, -⟩ := QueueCall.create.inj (hcall.symm.trans h)
  refine ⟨s₀, s₁, rfl, rfl, fun o ho => ⟨hpending o ho, ?_⟩⟩
  obtain ⟨row, hrow, -⟩ := hpending o ho
  obtain ⟨hmem, hid⟩ := Table.find_eq_some.mp hrow
  obtain ⟨g, hrows, hg⟩ := rows_created t (chosenOrders orderIds s₀ s₁) po plans ids now
  obtain ⟨hgid, -, hlinked, -⟩ := hg row
  refine ⟨g row, Table.find_eq_some.mpr ⟨?_, hgid.trans hid⟩, hlinked ?_⟩
  · rw [hrows]
    exact List.mem_map_of_mem hmem
  · exact List.mem_map.mpr ⟨o, ho, hid.symm⟩

/-- Every call keeps to the contract. -/
theorem safe_queueCall (hcalls : ∀ i, (calls i).Owned owner) (i : ι) (db : Db) :
    (queueContract owner calls).Safe i (calls i).program [] [] db := by
  have howned := hcalls i
  cases hcall : calls i with
  | create orderIds actorName ids now =>
      rw [hcall] at howned
      exact hcall ▸ safe_queue_create hcall howned db
  | removeQueued orderId => exact hcall ▸ safe_queue_removeQueued hcall db
  | cancel poId actorName now => exact hcall ▸ safe_queue_cancel hcall db
  | removeLine poId lineId => exact hcall ▸ safe_queue_removeLine hcall db
  | receive poId entries locationId now => exact hcall ▸ safe_queue_receive hcall db

variable [DecidableEq ι]

/-- No queued buy is ordered twice or lost: in every committed state of every run an ordered
row is on an order that carries it and a pending row is on none, and a create that changes
anything claims every row it chose. -/
theorem queueSound_of_run (owner : LineId → PoId × ProductId) (calls : ι → QueueCall) {db : Db}
    (hdb : db.QueueSound) (hlines : LinesOwned owner db) (hcalls : ∀ i, (calls i).Owned owner)
    {σ : Config Db RowKey LockName Empty QueueAnswer ι}
    (hrun : Run (Config.initial db fun i => (calls i).program) σ) :
    σ.db.QueueSound ∧ ∀ i orderIds actorName ids now,
      calls i = .create orderIds actorName ids now → ∀ τ, Step i σ τ → τ.db ≠ σ.db →
        ClaimsChosen orderIds ids.poId (σ.clients i).seen σ.db τ.db := by
  have hgood : (queueContract owner calls).Good σ :=
    Contract.good_run
      (Contract.good_initial ⟨hdb, hlines⟩ fun i => safe_queueCall hcalls i db) hrun
  refine ⟨hgood.inv.1, fun i orderIds actorName ids now hcall τ hstep hne => ?_⟩
  rcases hgood.step_db hstep fun _ _ => trivial with hsame | ⟨-, hat⟩
  · exact absurd hsame hne
  · exact hat hne orderIds actorName ids now hcall

end Safe

/-! ## Two creates over the same row -/

/-- One product waits in the queue. -/
def queuedProduct : Db where
  suppliers := ⟨[{ id := 1, name := "Supplier" }], by decide⟩
  products := ⟨[{ id := 1, costKes := 2, supplierId := some 1 }], by decide⟩
  orders := ⟨[{ id := 1, productId := some 1, orderedQty := some 5 }], by decide⟩

/-- Two clients order it, with ids of their own. -/
def orderTwice : Bool → QueueCall
  | false => .create [1] none { poId := 1, line := fun p => 2 * p } 0
  | true => .create [1] none { poId := 2, line := fun p => 2 * p + 1 } 0

/-- The owners of the ids the two clients generate. -/
def oddAndEven (id : LineId) : PoId × ProductId :=
  (id % 2 + 1, id / 2)

/-- Both clients have read the queue when the first one commits: it claims the row. -/
theorem orderTwice_claimed_once :
    ∃ σ τ, Run (Config.initial queuedProduct fun i => (orderTwice i).program) σ ∧
      σ.db.QueueSound ∧ Step false σ τ ∧
      ClaimsChosen [1] 1 (σ.clients false).seen σ.db τ.db := by
  have hcalls : ∀ i, (orderTwice i).Owned oddAndEven := by
    have heven : ∀ n : ℕ, 2 * n % 2 + 1 = 1 ∧ 2 * n / 2 = n := by omega
    have hodd : ∀ n : ℕ, (2 * n + 1) % 2 + 1 = 2 ∧ (2 * n + 1) / 2 = n := by omega
    rintro (_ | _) productId
    · exact Prod.ext (heven productId).1 (heven productId).2
    · exact Prod.ext (hodd productId).1 (hodd productId).2
  have hlines : LinesOwned oddAndEven queuedProduct := ⟨by decide, by decide⟩
  have hpending : queuedProduct.QueueSound := Db.queueSound_of_pending (by decide)
  obtain ⟨σ, hrun, hfire⟩ := exists_run_of_schedule [false, true] (fun _ _ _ _ => True)
    (List.replicate 3 (true, true) ++ List.replicate 10 (false, true))
    (Config.initial queuedProduct fun i => (orderTwice i).program)
    (fun σ => (fire [false, true] false true σ).any (fun τ => τ.db ≠ σ.db) = true)
    (by decide) (by decide +kernel)
  obtain ⟨τ, hτ, hne⟩ := (Option.any_eq_true ..).mp hfire
  obtain ⟨hsound, hclaims⟩ := queueSound_of_run oddAndEven orderTwice hpending hlines hcalls hrun
  have hstep : Step false σ τ := step_of_fire (by decide) hτ
  exact ⟨σ, τ, hrun, hsound, hstep,
    hclaims false [1] none _ 0 rfl τ hstep (of_decide_eq_true hne)⟩

end Restock
