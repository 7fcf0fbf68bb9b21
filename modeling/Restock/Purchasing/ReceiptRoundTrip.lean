import Restock.Purchasing.ReceiptBounds
import Restock.Purchasing.StockLedger

/-!
# Taking a receipt back

A reversal of the entries of a receipt, at the same location, should restore what the
receipt changed. It does so exactly when the order was in a state that receipts and
reversals within bounds lead to: a line that was over-reversed, an order marked partly
received with nothing booked in, or a queue row completed ahead of its line does not come
back.

* `Receivable` — an order that can be received, and entries its receipt accepts;
* `Restored` — what the reversal should bring back;
* `Reversible` — when it does;
* `restored_iff` — the equivalence.
-/

namespace Restock

open Store

/-- An order that is sent with nothing received, or partly received, entries on distinct
lines that a receipt accepts, and products whose stock agrees with the rollup. -/
structure Receivable (db : Db) (poId : PoId) (entries : List ReceiveEntry)
    (locationId : LocationId) (po : PurchaseOrder) (location : Location) : Prop where
  accepted : ReceiptAccepted db poId entries locationId po location
  sent : po.status = .sent → ∀ l ∈ db.linesOf poId, l.receivedQty = 0
  distinct : (entries.map ReceiveEntry.lineId).Nodup
  stock : ∀ l ∈ db.linesOf poId, ∀ p, db.products.find l.productId = some p →
    p.currentStock = db.sellableStock p.id

/-- The second database has back what a receipt on the order at the location changed of the
first. -/
structure Restored (db db' : Db) (poId : PoId) (locationId : LocationId) : Prop where
  received : ∀ id, (db'.lines.find id).map PurchaseOrderLine.receivedQty
    = (db.lines.find id).map PurchaseOrderLine.receivedQty
  order : (db'.purchaseOrders.find poId).map (fun po => (po.status, po.receivedAt.isNone))
    = (db.purchaseOrders.find poId).map fun po => (po.status, po.receivedAt.isNone)
  onHand : ∀ productId, db'.onHand locationId productId = db.onHand locationId productId
  sellable : ∀ productId,
    db'.sellableUnitsAt locationId productId = db.sellableUnitsAt locationId productId
  stock : ∀ id, (db'.products.find id).map Product.currentStock
    = (db.products.find id).map Product.currentStock
  queue : ∀ id o, db.orders.find id = some o → o.purchaseOrderId = some poId →
    (db'.orders.find id).map Order.status = some o.status

/-- When a receipt can be taken back: nothing on the lines it names was over-reversed, a
partly received order has something booked in and no receipt time, and no queue row of the
order is completed for a product whose line the receipt fills. -/
structure Reversible (db : Db) (poId : PoId) (entries : List ReceiveEntry)
    (po : PurchaseOrder) : Prop where
  booked : ∀ e ∈ positiveEntries entries, ∀ l ∈ db.linesOf poId, l.id = e.lineId →
    0 ≤ l.receivedQty
  partly : po.status = .partiallyReceived → ∃ l ∈ db.linesOf poId, l.receivedQty ≠ 0
  unfinished : po.receivedAt = none
  waiting : ∀ o ∈ db.orders.rows, o.purchaseOrderId = some poId → o.status = .completed →
    ∀ e ∈ positiveEntries entries, ∀ l ∈ db.linesOf poId, l.id = e.lineId →
      l.receivedQty + e.qty.num = l.quantity → o.productId ≠ some l.productId

/-! ## The two calls -/

section RoundTrip

variable {db : Db} {poId : PoId} {entries : List ReceiveEntry} {locationId : LocationId}
  {po : PurchaseOrder} {location : Location} {now now' : Time}

/-- Entries on distinct lines ask for their own quantity of each line. -/
theorem askedFor_of_distinct (hdistinct : (entries.map ReceiveEntry.lineId).Nodup)
    {e : ReceiveEntry} (he : e ∈ positiveEntries entries) :
    askedFor entries e.lineId = e.qty.num := by
  have hnodup : ((positiveEntries entries).map ReceiveEntry.lineId).Nodup :=
    hdistinct.sublist (List.filter_sublist.map _)
  rw [askedFor]
  revert he hnodup
  induction positiveEntries entries with
  | nil => intro he; cases he
  | cons x xs ih =>
      intro he hnodup
      obtain ⟨hnew, hrest⟩ := List.nodup_cons.mp hnodup
      rcases List.mem_cons.mp he with rfl | he
      · have hnone : xs.filter (fun y => y.lineId = e.lineId) = [] :=
          List.filter_eq_nil_iff.mpr fun y hy hid =>
            hnew (List.mem_map.mpr ⟨y, hy, by simpa using hid⟩)
        simp [hnone]
      · have hne : ¬ x.lineId = e.lineId := fun h =>
          hnew (h ▸ List.mem_map_of_mem he)
        simpa [hne] using ih he hrest

/-- The loaded lines after a receipt. -/
theorem loadLines_received (db : Db) (poId : PoId) (entries : List ReceiveEntry)
    (location : Location) (now : Time) :
    loadLines (db.received poId entries location now).lines poId
      = (loadLines db.lines poId).map fun l =>
          { l with receivedQty := l.receivedQty + Move.onLine (db.movesOf poId entries) l.id } := by
  rw [Db.received_lines, loadLines_bookLines]

/-- A receipt does not change what entries on its order stand for. -/
@[simp]
theorem movesOf_received (entries' : List ReceiveEntry) :
    (db.received poId entries location now).movesOf poId entries' = db.movesOf poId entries' := by
  rw [Db.movesOf, loadLines_received, Db.movesOf]
  exact moves_map (fun _ => rfl) fun _ => rfl

/-- A receipt does not change which products a call on its order touches. -/
@[simp]
theorem touchedBy_received (entries' : List ReceiveEntry) (location' : Location) :
    (db.received poId entries location now).touchedBy poId entries' location'
      = db.touchedBy poId entries' location' := by
  have hmoves : LoadedLine.moves (loadLines (db.received poId entries location now).lines poId)
      (positiveEntries entries') = db.movesOf poId entries' := movesOf_received entries'
  unfold Db.movesOf at hmoves
  rw [Db.touchedBy, Db.touchedBy, touchedProducts, touchedProducts, hmoves]

/-- The loaded lines after the receipt and its reversal are those before. -/
theorem loadLines_unreceived :
    loadLines ((db.received poId entries location now).unreceived poId entries location
      now').lines poId = loadLines db.lines poId := by
  rw [Db.unreceived_lines, movesOf_received, loadLines_bookLines, loadLines_received,
    List.map_map]
  refine (List.map_congr_left fun l _ => ?_).trans (List.map_id _)
  simp

/-- The lines a reversal has in memory at its end are the lines before the receipt. -/
theorem reversalProgress_lines :
    ((db.received poId entries location now).reversalProgress poId entries location now').lines
      = loadLines db.lines poId :=
  (EntryLoop.lines_foldl_next (unreceiveLoop location now') rfl).trans
    loadLines_unreceived

/-- A line a receipt names, as the reversal loads it. -/
theorem find?_received (hdistinct : (entries.map ReceiveEntry.lineId).Nodup)
    {e : ReceiveEntry} (he : e ∈ positiveEntries entries) {line : LoadedLine}
    (hfind : ((loadLines db.lines poId).find? fun l => l.id = e.lineId) = some line) :
    ((loadLines (db.received poId entries location now).lines poId).find? fun l =>
        l.id = e.lineId)
      = some { line with receivedQty := line.receivedQty + e.qty.num } := by
  have hid : line.id = e.lineId := by simpa using List.find?_some hfind
  have hunits : Move.onLine (db.movesOf poId entries) line.id = e.qty.num := by
    rw [onLine_movesOf (List.mem_of_find?_eq_some hfind), hid, askedFor_of_distinct hdistinct he]
  rw [loadLines_received, List.find?_map]
  change Option.map _ ((loadLines db.lines poId).find? fun l => l.id = e.lineId) = _
  rw [hfind, Option.map_some, hunits]

/-- An entry of a receipt fits the reversal exactly when its line was not over-reversed. -/
theorem entryFits_received_iff (hdistinct : (entries.map ReceiveEntry.lineId).Nodup)
    {e : ReceiveEntry} (he : e ∈ positiveEntries entries) {line : LoadedLine}
    (hfind : ((loadLines db.lines poId).find? fun l => l.id = e.lineId) = some line)
    (hint : e.qty.isInt) :
    EntryFits LoadedLine.receivedQty
        (loadLines (db.received poId entries location now).lines poId) e ↔
      0 ≤ line.receivedQty := by
  have hqty : e.qty = (e.qty.num : ℚ) := Rat.eq_num_of_isInt hint
  unfold EntryFits
  rw [find?_received hdistinct he hfind]
  constructor
  · rintro ⟨line', hline', -, hle⟩
    cases hline'
    rw [hqty] at hle
    have hle' : e.qty.num ≤ line.receivedQty + e.qty.num := by exact_mod_cast hle
    omega
  · intro hnonneg
    refine ⟨_, rfl, hint, ?_⟩
    rw [hqty]
    have hle : e.qty.num ≤ line.receivedQty + e.qty.num := by omega
    exact_mod_cast hle

variable (now) in
/-- The reversal of an accepted receipt is accepted exactly when no line the receipt names
was over-reversed. -/
theorem reversal_accepted_iff (h : Receivable db poId entries locationId po location) :
    (∃ po' location', ReversalAccepted (db.received poId entries location now) poId entries
        locationId po' location') ↔
      ∀ e ∈ positiveEntries entries, ∀ l ∈ db.linesOf poId, l.id = e.lineId →
        0 ≤ l.receivedQty := by
  constructor
  · rintro ⟨po', location', hrev⟩ e he l hl hid
    obtain ⟨line, hfind, hint, -⟩ := h.accepted.fits e he
    have hline := (entryFits_received_iff h.distinct he hfind hint).mp (hrev.fits e he)
    obtain ⟨l', hl', -, hid', rfl⟩ := exists_row_of_find? hfind
    rwa [Table.eq_of_key_eq (List.mem_of_mem_filter hl) hl' (hid.trans hid'.symm)]
  · intro hbooked
    have hfound := Db.find_received db poId entries location now h.accepted.find_order
    obtain ⟨hfind, hdeleted, -⟩ := Db.findPurchaseOrder_eq_some.mp h.accepted.order
    refine ⟨_, location, ⟨Db.findPurchaseOrder_eq_some.mpr ⟨hfound, ?_, rfl⟩, ?_,
      h.accepted.place, h.accepted.nonempty, fun e he => ?_⟩, fun id hid => ?_⟩
    · unfold PurchaseOrder.setReceipt
      split <;> exact hdeleted
    · unfold PurchaseOrder.setReceipt
      split
      · exact Or.inl rfl
      · exact Or.inr rfl
    · obtain ⟨line, hfind, hint, -⟩ := h.accepted.fits e he
      refine (entryFits_received_iff h.distinct he hfind hint).mpr ?_
      obtain ⟨l, hl, hpo, hid, rfl⟩ := exists_row_of_find? hfind
      exact hbooked e he l (List.mem_filter.mpr ⟨hl, by simpa using hpo⟩) hid
    · rw [touchedBy_received] at hid
      rw [Db.received_products, Table.isSome_find_update]
      exact h.accepted.products id hid

/-! ### What comes back -/

/-- The received quantities come back. -/
theorem receivedQty_roundTrip (id : LineId) :
    ((((db.received poId entries location now).unreceived poId entries location
        now').lines.find id).map PurchaseOrderLine.receivedQty)
      = (db.lines.find id).map PurchaseOrderLine.receivedQty := by
  rw [Db.unreceived_lines, movesOf_received, find_bookLines, Db.received_lines, find_bookLines,
    Option.map_map, Option.map_map]
  congr 1
  funext l
  by_cases h : l.id ∈ (db.movesOf poId entries).map Move.lineId
  · simp [-List.mem_map, h, PurchaseOrderLine.booked]
  · simp [-List.mem_map, h]

/-- A figure of the levels that moves with the units of a receipt and starts at zero comes
back. -/
theorem level_roundTrip (figure : InventoryLevel → ℤ)
    (hmoved : ∀ level units, figure (level.moved units) = figure level + units)
    (hnew : ∀ productId, figure (newLevel location.id productId 0) = 0)
    (key : LocationId × ProductId) :
    ((((db.received poId entries location now).unreceived poId entries location
        now').inventoryLevels.find key).map figure).getD 0
      = ((db.inventoryLevels.find key).map figure).getD 0 := by
  rw [Db.unreceived_levels, movesOf_received, Db.received_levels]
  by_cases hfollows : location.shopifyLocationId.isSome
  · simp [hfollows]
  · rw [if_neg hfollows, if_neg hfollows, find_foldl_stockOut, find_foldl_stockIn]
    by_cases hkey : key.1 = location.id ∧
        key.2 ∈ (db.movesOf poId entries).map Move.productId
    · rw [if_pos hkey, if_pos hkey]
      cases db.inventoryLevels.find key <;> simp [hmoved, hnew]
    · rw [if_neg hkey, if_neg hkey]

/-- The sellable stock of every product comes back. -/
theorem sellableStock_roundTrip (productId : ProductId) :
    ((db.received poId entries location now).unreceived poId entries location
        now').sellableStock productId = db.sellableStock productId := by
  have hlocations : ((db.received poId entries location now).unreceived poId entries location
      now').locations = db.locations := rfl
  exact sellableStock_congr hlocations fun _ =>
    level_roundTrip sellableUnits (fun _ _ => rfl) (fun _ => rfl) _

/-- A product whose stock a call rewrites is a product of the order. -/
theorem exists_line_of_mem_touchedBy {id : ProductId}
    (h : id ∈ db.touchedBy poId entries location) :
    ∃ l ∈ db.linesOf poId, l.productId = id := by
  rw [Db.touchedBy] at h
  split at h
  · cases h
  · obtain ⟨m, hm, rfl⟩ := List.mem_map.mp (List.mem_eraseDups.mp h)
    obtain ⟨e, -, hmove⟩ := List.mem_filterMap.mp hm
    obtain ⟨line, hfind, rfl⟩ := Option.map_eq_some_iff.mp hmove
    obtain ⟨l, hl, hpo, rfl⟩ := mem_loadLines.mp (List.mem_of_find?_eq_some hfind)
    exact ⟨l, List.mem_filter.mpr ⟨hl, by simpa using hpo⟩, rfl⟩

/-- The stock of every product comes back. -/
theorem currentStock_roundTrip (h : Receivable db poId entries locationId po location)
    (id : ProductId) :
    ((((db.received poId entries location now).unreceived poId entries location
        now').products.find id).map Product.currentStock)
      = (db.products.find id).map Product.currentStock := by
  rw [Db.unreceived_products, touchedBy_received, Table.find_update _ _ fun p => by rfl,
    Db.received_products, Table.find_update _ _ fun p => by rfl]
  cases hp : db.products.find id with
  | none => rfl
  | some p =>
      obtain ⟨-, hid⟩ := Table.find_eq_some.mp hp
      by_cases htouched : p.id ∈ db.touchedBy poId entries location
      · obtain ⟨l, hl, hproduct⟩ := exists_line_of_mem_touchedBy htouched
        have hstock := h.stock l hl p (by rw [hproduct, show p.id = id from hid, hp])
        simp [htouched, sellableStock_roundTrip, hstock]
      · simp [htouched]

/-- An entry of an accepted receipt asks for some units, and for no more than is
outstanding on its line. -/
theorem Receivable.outstanding (h : Receivable db poId entries locationId po location)
    {e : ReceiveEntry} (he : e ∈ positiveEntries entries) :
    ∃ line, ((loadLines db.lines poId).find? fun l => l.id = e.lineId) = some line ∧
      0 < e.qty.num ∧ e.qty.num ≤ line.quantity - line.receivedQty := by
  obtain ⟨line, hfind, hint, hle⟩ := h.accepted.fits e he
  have hpos : 0 < e.qty := by simpa using (List.mem_filter.mp he).2
  refine ⟨line, hfind, Rat.num_pos.mpr hpos, ?_⟩
  rw [Rat.eq_num_of_isInt hint] at hle
  exact_mod_cast hle

/-- An order that takes a receipt has something outstanding. -/
theorem Receivable.not_allFull (h : Receivable db poId entries locationId po location) :
    ((loadLines db.lines poId).all fun l => l.quantity ≤ l.receivedQty) = false := by
  obtain ⟨e, he⟩ := List.exists_mem_of_ne_nil _ h.accepted.nonempty
  obtain ⟨line, hfind, hpos, hle⟩ := h.outstanding he
  rw [List.all_eq_false]
  refine ⟨line, List.mem_of_find?_eq_some hfind, ?_⟩
  have hlt : ¬ line.quantity ≤ line.receivedQty := by omega
  simpa using hlt

variable (now now') in
/-- The status and the receipt time of the order come back when a partly received order has
something booked in and no receipt time. -/
theorem order_roundTrip_iff (h : Receivable db poId entries locationId po location) :
    ((((db.received poId entries location now).unreceived poId entries location
        now').purchaseOrders.find poId).map fun po => (po.status, po.receivedAt.isNone))
        = (db.purchaseOrders.find poId).map (fun po => (po.status, po.receivedAt.isNone)) ↔
      (po.status = .partiallyReceived → ∃ l ∈ db.linesOf poId, l.receivedQty ≠ 0) ∧
        po.receivedAt = none := by
  rw [Db.find_unreceived _ _ _ _ _ (Db.find_received db poId entries location now
    h.accepted.find_order), h.accepted.find_order, reversalProgress_lines]
  have hzero : ((loadLines db.lines poId).all fun l => l.receivedQty = 0) ↔
      ∀ l ∈ db.linesOf poId, l.receivedQty = 0 := by
    rw [List.all_eq_true, loadLines, List.forall_mem_map]
    exact forall₂_congr fun l _ => decide_eq_true_iff
  have hstatus : reversalStatus (loadLines db.lines poId)
      = if ∀ l ∈ db.linesOf poId, l.receivedQty = 0 then .sent else .partiallyReceived := by
    rw [reversalStatus, h.not_allFull]
    simp [hzero]
  rw [h.not_allFull, hstatus]
  simp only [PurchaseOrder.setReversal, Option.map_some, Option.some.injEq, Prod.mk.injEq]
  refine and_congr ?_ (by cases po.receivedAt <;> simp)
  have hall_iff : (∃ l ∈ db.linesOf poId, l.receivedQty ≠ 0) ↔
      ¬ ∀ l ∈ db.linesOf poId, l.receivedQty = 0 := by push Not; rfl
  rcases h.accepted.allowed with hsent | hpartly
  · rw [if_pos (h.sent hsent), hsent]
    simp
  · rw [hpartly, hall_iff]
    by_cases hall : ∀ l ∈ db.linesOf poId, l.receivedQty = 0
    · rw [if_pos hall]
      simpa using hall
    · simp [hall]

/-- The products whose lines a receipt fills. -/
def Fills (db : Db) (poId : PoId) (entries : List ReceiveEntry) (productId : ProductId) : Prop :=
  ∃ e ∈ positiveEntries entries, ∃ line,
    ((loadLines db.lines poId).find? fun l => l.id = e.lineId) = some line ∧
      line.quantity ≤ line.receivedQty + e.qty.num ∧ line.productId = productId

/-- A receipt completes the queue rows of the products whose lines it fills. -/
theorem mem_fullyReceivedProducts (hdistinct : (entries.map ReceiveEntry.lineId).Nodup)
    {productId : ProductId} :
    productId ∈ (db.receiptProgress poId entries location now).fullyReceivedProducts ↔
      Fills db poId entries productId := by
  refine (EntryLoop.mem_collected_foldl_next (fun _ _ _ => rfl)
    (hdistinct.sublist (List.filter_sublist.map _))).trans ?_
  simp only [receiveLoop, List.not_mem_nil, false_or, Fills, positiveEntries]

variable (now now') in
/-- The reversal reopens the queue rows of the products whose lines the receipt filled. -/
theorem mem_droppedBelowFull (h : Receivable db poId entries locationId po location)
    {productId : ProductId} :
    productId ∈ ((db.received poId entries location now).reversalProgress poId entries location
        now').droppedBelowFull ↔ Fills db poId entries productId := by
  refine (EntryLoop.mem_collected_foldl_next (fun _ _ _ => rfl)
    (h.distinct.sublist (List.filter_sublist.map _))).trans ?_
  simp only [unreceiveLoop, List.not_mem_nil, false_or, Fills]
  refine exists_congr fun e => and_congr_right fun he => ?_
  obtain ⟨line, hfind, hpos, hle⟩ := h.outstanding he
  rw [find?_received h.distinct he hfind, hfind]
  constructor
  · rintro ⟨_, hline, ⟨hfull, -⟩, hproduct⟩
    cases hline
    exact ⟨line, rfl, hfull, hproduct⟩
  · rintro ⟨_, hline, hfull, hproduct⟩
    cases hline
    refine ⟨_, rfl, ⟨hfull, ?_⟩, hproduct⟩
    simp only [add_sub_cancel_right]
    omega

variable (now now') in
/-- The queue rows of the order come back when none was completed ahead of its line. -/
theorem queue_roundTrip_iff (h : Receivable db poId entries locationId po location) :
    (∀ id o, db.orders.find id = some o → o.purchaseOrderId = some poId →
        (((db.received poId entries location now).unreceived poId entries location
          now').orders.find id).map Order.status = some o.status) ↔
      ∀ o ∈ db.orders.rows, o.purchaseOrderId = some poId → o.status = .completed →
        ∀ productId, o.productId = some productId → ¬ Fills db poId entries productId := by
  have hcomplete : ∀ o : Order, Keyed.key (o.complete now) = Keyed.key o := fun _ => rfl
  have hreopen : ∀ o : Order, Keyed.key o.reopen = Keyed.key o := fun _ => rfl
  rw [Db.unreceived_orders, Db.received_orders]
  constructor
  · intro hback o ho hlinked hdone productId hproduct hfills
    have hrow := hback o.id o (Table.find_key ho) hlinked
    rw [Table.find_update _ _ hreopen, Table.find_update _ _ hcomplete,
      show db.orders.find o.id = some o from Table.find_key ho] at hrow
    -- the receipt leaves a completed row alone, and the reversal reopens it
    have hskip : isAwaiting poId
        (db.receiptProgress poId entries location now).fullyReceivedProducts o = false := by
      simp [isAwaiting, hdone]
    have hreopened : isCompleted poId ((db.received poId entries location now).reversalProgress
        poId entries location now').droppedBelowFull o :=
      isCompleted_iff.mpr ⟨hlinked, hdone, productId,
        (mem_droppedBelowFull now now' h).mpr hfills, hproduct⟩
    simp [hskip, hreopened, hdone, Order.reopen] at hrow
  · intro hwaiting id o ho hlinked
    have hmem := (Table.find_eq_some.mp ho).1
    rw [Table.find_update _ _ hreopen, Table.find_update _ _ hcomplete, ho]
    simp only [Option.map_some, Option.some.injEq]
    by_cases hawait : isAwaiting poId
        (db.receiptProgress poId entries location now).fullyReceivedProducts o
    · -- the receipt completes the row and the reversal reopens it
      obtain ⟨-, hordered, productId, hfull, hproduct⟩ := isAwaiting_iff.mp hawait
      have hreopened : isCompleted poId ((db.received poId entries location now).reversalProgress
          poId entries location now').droppedBelowFull (o.complete now) :=
        isCompleted_iff.mpr ⟨hlinked, rfl, productId, (mem_droppedBelowFull now now' h).mpr
          ((mem_fullyReceivedProducts h.distinct).mp hfull), hproduct⟩
      rw [if_pos hawait, if_pos hreopened, hordered]
      rfl
    · -- neither call touches the row
      have hskip : ¬ isCompleted poId ((db.received poId entries location now).reversalProgress
          poId entries location now').droppedBelowFull o := by
        intro hcompleted
        obtain ⟨-, hdone, productId, hdropped, hproduct⟩ := isCompleted_iff.mp hcompleted
        exact hwaiting o hmem hlinked hdone productId hproduct
          ((mem_droppedBelowFull now now' h).mp hdropped)
      rw [if_neg hawait, if_neg hskip]

/-- The products whose lines a receipt fills are those of the lines its entries bring up to
what was ordered. -/
theorem fills_iff (h : Receivable db poId entries locationId po location)
    {productId : ProductId} :
    Fills db poId entries productId ↔ ∃ e ∈ positiveEntries entries, ∃ l ∈ db.linesOf poId,
      l.id = e.lineId ∧ l.receivedQty + e.qty.num = l.quantity ∧ l.productId = productId := by
  refine exists_congr fun e => and_congr_right fun he => ?_
  obtain ⟨line, hfind, -, hle⟩ := h.outstanding he
  obtain ⟨row, hrow, hpo, hid, rfl⟩ := exists_row_of_find? hfind
  have hmem : row ∈ db.linesOf poId := List.mem_filter.mpr ⟨hrow, by simpa using hpo⟩
  simp only [PurchaseOrderLine.load_quantity, PurchaseOrderLine.load_receivedQty] at hle
  constructor
  · rintro ⟨_, hline, hfull, hproduct⟩
    rw [hfind] at hline
    cases hline
    simp only [PurchaseOrderLine.load_quantity, PurchaseOrderLine.load_receivedQty] at hfull
    exact ⟨row, hmem, hid, by omega, hproduct⟩
  · rintro ⟨l, hl, hlid, hfull, hproduct⟩
    obtain rfl : l = row :=
      Table.eq_of_key_eq (List.mem_of_mem_filter hl) hrow (hlid.trans hid.symm)
    exact ⟨l.load, hfind, by simp; omega, hproduct⟩

/-! ### The round trip -/

/-- A call of `receivePoLines`. -/
def receiptCall (poId : PoId) (entries : List ReceiveEntry) (locationId : LocationId)
    (now : Time) : ReceiptCall :=
  { direction := .receive, poId, entries, locationId, now }

/-- A call of `unreceivePoLines`. -/
def reversalCall (poId : PoId) (entries : List ReceiveEntry) (locationId : LocationId)
    (now : Time) : ReceiptCall :=
  { direction := .unreceive, poId, entries, locationId, now }

/-- A receipt and then its reversal. -/
def receiveAndReverse (poId : PoId) (entries : List ReceiveEntry) (locationId : LocationId)
    (now now' : Time) : List ReceiptCall :=
  [receiptCall poId entries locationId now, reversalCall poId entries locationId now']

/-- The database after the receipt. -/
theorem after_receiptCall (h : Receivable db poId entries locationId po location) :
    (receiptCall poId entries locationId now).after db
      = db.received poId entries location now := by
  have hacc : (receiptCall poId entries locationId now).AcceptedFor db po location := h.accepted
  exact ReceiptCall.after_accepted hacc

/-- The database after a receipt and a reversal that is accepted. -/
theorem run_receiveAndReverse (h : Receivable db poId entries locationId po location)
    (hbooked : ∀ e ∈ positiveEntries entries, ∀ l ∈ db.linesOf poId, l.id = e.lineId →
      0 ≤ l.receivedQty) :
    ReceiptCall.run db (receiveAndReverse poId entries locationId now now')
      = (db.received poId entries location now).unreceived poId entries location now' := by
  obtain ⟨po', location', hrev⟩ := (reversal_accepted_iff now h).mpr hbooked
  obtain rfl : location' = location :=
    Option.some.inj (hrev.place.symm.trans h.accepted.place)
  have hacc : (reversalCall poId entries locationId now').AcceptedFor
      (db.received poId entries location' now) po' location' := hrev
  rw [receiveAndReverse, ReceiptCall.run_cons, after_receiptCall h, ReceiptCall.run_cons,
    ReceiptCall.after_accepted hacc]
  rfl

/-- A receipt whose reversal is not accepted stays. -/
theorem run_receiveAndReverse_rejected
    (h : Receivable db poId entries locationId po location)
    (hover : ¬ ∀ e ∈ positiveEntries entries, ∀ l ∈ db.linesOf poId, l.id = e.lineId →
      0 ≤ l.receivedQty) :
    ReceiptCall.run db (receiveAndReverse poId entries locationId now now')
      = db.received poId entries location now := by
  have hrej : ¬ (reversalCall poId entries locationId now').Accepted
      (db.received poId entries location now) :=
    fun hacc => hover ((reversal_accepted_iff now h).mp hacc)
  rw [receiveAndReverse, ReceiptCall.run_cons, after_receiptCall h, ReceiptCall.run_cons,
    ReceiptCall.after_rejected hrej]
  rfl

/-- Receiving entries and taking the same entries back restores the database exactly when
the receipt is reversible. -/
theorem restored_iff (h : Receivable db poId entries locationId po location) (now now' : Time) :
    Restored db (ReceiptCall.run db (receiveAndReverse poId entries locationId now now')) poId
        locationId ↔
      Reversible db poId entries po := by
  obtain rfl : location.id = locationId := h.accepted.place_id
  by_cases hbooked : ∀ e ∈ positiveEntries entries, ∀ l ∈ db.linesOf poId, l.id = e.lineId →
      0 ≤ l.receivedQty
  · rw [run_receiveAndReverse h hbooked]
    have hqueue := queue_roundTrip_iff now now' h
    have horder := order_roundTrip_iff now now' h
    constructor
    · intro hback
      obtain ⟨hpartly, hunfinished⟩ := horder.mp hback.order
      refine ⟨hbooked, hpartly, hunfinished, ?_⟩
      intro o ho hlinked hdone e he l hl hid hfull hproduct
      exact hqueue.mp hback.queue o ho hlinked hdone l.productId hproduct
        ((fills_iff h).mpr ⟨e, he, l, hl, hid, hfull, rfl⟩)
    · intro hrev
      refine ⟨receivedQty_roundTrip, horder.mpr ⟨hrev.partly, hrev.unfinished⟩,
        fun productId => ?_, fun productId => ?_, currentStock_roundTrip h, hqueue.mpr ?_⟩
      · exact level_roundTrip InventoryLevel.onHand (fun _ _ => rfl) (fun _ => rfl) _
      · exact level_roundTrip sellableUnits (fun _ _ => rfl) (fun _ => rfl) _
      · intro o ho hlinked hdone productId hproduct hfills
        obtain ⟨e, he, l, hl, hid, hfull, rfl⟩ := (fills_iff h).mp hfills
        exact hrev.waiting o ho hlinked hdone e he l hl hid hfull hproduct
  · rw [run_receiveAndReverse_rejected h hbooked]
    refine iff_of_false (fun hback => ?_) fun hrev => hbooked hrev.booked
    -- the receipt stays, so the lines it names do not come back
    obtain ⟨e, he⟩ := List.exists_mem_of_ne_nil _ h.accepted.nonempty
    obtain ⟨line, hfind, hpos, -⟩ := h.outstanding he
    obtain ⟨row, hrow, hpo, hid, rfl⟩ := exists_row_of_find? hfind
    have hrowFind : db.lines.find row.id = some row := Table.find_key hrow
    have hunits : Move.onLine (db.movesOf poId entries) row.id = e.qty.num :=
      (onLine_movesOf (List.mem_of_find?_eq_some hfind)).trans
        (by rw [PurchaseOrderLine.load_id, hid, askedFor_of_distinct h.distinct he])
    have hback' := hback.received row.id
    rw [Db.received_lines, find_bookLines, hrowFind] at hback'
    by_cases hmem : row.id ∈ (db.movesOf poId entries).map Move.lineId
    · simp only [Option.map_some, if_pos hmem, hunits, PurchaseOrderLine.booked,
        Option.some.injEq] at hback'
      omega
    · rw [Move.onLine_of_notMem hmem] at hunits
      omega

end RoundTrip

/-! ## A line that was over-reversed -/

/-- The sent order of ten units after a receipt of six of them and a reversal of four and
three in one call: both fit the six, together they leave minus one received. -/
def overReversed : Db :=
  ReceiptCall.run sentOrder [receiptCall 1 [⟨1, 6⟩] 1 0, reversalCall 1 [⟨1, 4⟩, ⟨1, 3⟩] 1 0]

/-- The order as the over-reversal leaves it. -/
def overReversedOrder : PurchaseOrder :=
  { id := 1, status := .partiallyReceived }

/-- The over-reversed order takes a receipt of one unit. -/
theorem overReversed_receivable :
    Receivable overReversed 1 [⟨1, 1⟩] 1 overReversedOrder { id := 1 } where
  accepted :=
    { order := by decide +kernel
      allowed := .inr rfl
      place := by decide +kernel
      nonempty := by decide +kernel
      fits := by decide +kernel
      products := by decide +kernel }
  sent := fun h => by cases h
  distinct := by decide
  stock := by decide +kernel

/-- The unit received on the over-reversed line cannot be taken back: nothing is left
received on it. -/
theorem overReversed_not_restored :
    ¬ ∀ (db : Db) (poId : PoId) (entries : List ReceiveEntry) (locationId : LocationId)
      (po : PurchaseOrder) (location : Location) (now now' : Time),
      Receivable db poId entries locationId po location →
        ((db.linesOf poId).map PurchaseOrderLine.productId).Nodup →
        Restored db (ReceiptCall.run db (receiveAndReverse poId entries locationId now now'))
          poId locationId := by
  intro hall
  have h := (hall _ _ _ _ _ _ 0 0 overReversed_receivable (by decide +kernel)).received 1
  revert h
  decide +kernel

/-- A fresh order takes a receipt of six units. -/
theorem sentOrder_receivable :
    Receivable sentOrder 1 [⟨1, 6⟩] 1 { id := 1, status := .sent } { id := 1 } where
  accepted :=
    { order := by decide +kernel
      allowed := .inl rfl
      place := by decide +kernel
      nonempty := by decide +kernel
      fits := by decide +kernel
      products := by decide +kernel }
  sent := fun _ => by decide +kernel
  distinct := by decide
  stock := by decide +kernel

/-- The equivalence at six units of a fresh order. -/
theorem sentOrder_restored :
    Restored sentOrder (ReceiptCall.run sentOrder (receiveAndReverse 1 [⟨1, 6⟩] 1 0 0)) 1 1 ↔
      Reversible sentOrder 1 [⟨1, 6⟩] { id := 1, status := .sent } :=
  restored_iff sentOrder_receivable 0 0

end Restock
