import Restock.Inventory.Rollup

/-!
# Movements of a receipt

What `receivePoLines` and `unreceivePoLines` do to the lines and the levels, entry by
entry. Both work through a list of entries: each names a line and a quantity, the line's
`receivedQty` moves by it, and so does the level of the line's product at the location. A
reversal is a movement of negative quantity.

* `ReceiveEntry`, `LoadedLine` — what a caller asks for, and a line as a transaction has
  it in memory;
* `Move` — an entry resolved against its line;
* `bookLines` — the lines after a list of moves: every line moves by the sum of its moves;
* `stockIn`, `stockOut` — the levels after one move, in each direction, and
  `find_foldl_stockIn`, `find_foldl_stockOut` after a list of them;
* `EntryLoop` — the loop both have in common, and `EntryLoop.exec_foldlM`, what it does.
-/

namespace Restock

open Store

/-- `ReceiveEntry`: a line and how many units of it. -/
structure ReceiveEntry where
  lineId : LineId
  qty : ℚ
  deriving DecidableEq, Repr

/-- The entries that ask for something. -/
def positiveEntries (entries : List ReceiveEntry) : List ReceiveEntry :=
  entries.filter fun e => 0 < e.qty

/-- A purchase-order line as a receipt or a reversal selects it. -/
structure LoadedLine where
  id : LineId
  productId : ProductId
  quantity : ℤ
  receivedQty : ℤ
  deriving DecidableEq, Repr

/-- The columns a receipt or a reversal selects of a line. -/
def PurchaseOrderLine.load (l : PurchaseOrderLine) : LoadedLine :=
  { id := l.id, productId := l.productId, quantity := l.quantity, receivedQty := l.receivedQty }

section Load

variable (l : PurchaseOrderLine)

@[simp] theorem PurchaseOrderLine.load_id : l.load.id = l.id := rfl
@[simp] theorem PurchaseOrderLine.load_productId : l.load.productId = l.productId := rfl
@[simp] theorem PurchaseOrderLine.load_quantity : l.load.quantity = l.quantity := rfl
@[simp] theorem PurchaseOrderLine.load_receivedQty : l.load.receivedQty = l.receivedQty := rfl

end Load

/-- The lines of an order as a receipt or a reversal loads them. -/
def loadLines (t : Table PurchaseOrderLine) (poId : PoId) : List LoadedLine :=
  (t.rows.filter fun l => l.purchaseOrderId = poId).map PurchaseOrderLine.load

/-- The lines in memory after one of them got another received quantity. -/
def LoadedLine.setReceived (lines : List LoadedLine) (id : LineId) (receivedQty : ℤ) :
    List LoadedLine :=
  lines.map fun l => if l.id = id then { l with receivedQty } else l

/-- The row update of a line: its received quantity and when it was last received. -/
def PurchaseOrderLine.setReceived (receivedQty : ℤ) (receivedAt : Option Time)
    (l : PurchaseOrderLine) : PurchaseOrderLine :=
  { l with receivedQty, receivedAt }

/-- An entry resolved against its line: so many units of a product, booked on a line. -/
structure Move where
  lineId : LineId
  productId : ProductId
  qty : ℤ
  deriving DecidableEq, Repr

/-- The move an entry stands for, given the loaded lines. -/
def LoadedLine.move (lines : List LoadedLine) (entry : ReceiveEntry) : Option Move :=
  (lines.find? fun l => l.id = entry.lineId).map fun l =>
    { lineId := l.id, productId := l.productId, qty := entry.qty.num }

/-- The moves a list of entries stands for. -/
def LoadedLine.moves (lines : List LoadedLine) (entries : List ReceiveEntry) : List Move :=
  entries.filterMap (LoadedLine.move lines)

namespace Move

/-- A move with its quantity rewritten. -/
def mapQty (f : ℤ → ℤ) (m : Move) : Move :=
  { m with qty := f m.qty }

/-- A list of moves taken back. -/
def reversed (moves : List Move) : List Move :=
  moves.map (mapQty Neg.neg)

/-- The units a list of moves books on a line. -/
def onLine (moves : List Move) (lineId : LineId) : ℤ :=
  ((moves.filter fun m => m.lineId = lineId).map Move.qty).sum

/-- The units of a product a list of moves brings. -/
def ofProduct (moves : List Move) (productId : ProductId) : ℤ :=
  ((moves.filter fun m => m.productId = productId).map Move.qty).sum

@[simp] theorem onLine_nil (lineId : LineId) : onLine [] lineId = 0 := rfl

@[simp] theorem onLine_cons (m : Move) (moves : List Move) (lineId : LineId) :
    onLine (m :: moves) lineId
      = (if m.lineId = lineId then m.qty else 0) + onLine moves lineId := by
  by_cases h : m.lineId = lineId <;> simp [onLine, h]

@[simp] theorem ofProduct_nil (productId : ProductId) : ofProduct [] productId = 0 := rfl

@[simp] theorem ofProduct_cons (m : Move) (moves : List Move) (productId : ProductId) :
    ofProduct (m :: moves) productId
      = (if m.productId = productId then m.qty else 0) + ofProduct moves productId := by
  by_cases h : m.productId = productId <;> simp [ofProduct, h]

@[simp] theorem mapQty_id : mapQty id = id := rfl

/-- Moves that are taken back are on the same lines. -/
@[simp]
theorem map_lineId_reversed (moves : List Move) :
    (reversed moves).map lineId = moves.map lineId := by
  rw [reversed, List.map_map]
  rfl

/-- Taking moves back takes back what they book on a line. -/
@[simp]
theorem onLine_reversed (moves : List Move) (id : LineId) :
    onLine (reversed moves) id = -onLine moves id := by
  induction moves with
  | nil => rfl
  | cons m moves ih =>
      rw [reversed, List.map_cons, onLine_cons, onLine_cons, ← reversed, ih]
      by_cases h : m.lineId = id
      · simp [mapQty, h, add_comm]
      · simp [mapQty, h]

/-- Moves off a line leave nothing on it. -/
theorem onLine_of_notMem {moves : List Move} {lineId : LineId}
    (h : lineId ∉ moves.map Move.lineId) : onLine moves lineId = 0 := by
  have hnil : moves.filter (fun m => m.lineId = lineId) = [] :=
    List.filter_eq_nil_iff.mpr fun m hm hid =>
      h (List.mem_map.mpr ⟨m, hm, by simpa using hid⟩)
  simp [onLine, hnil]

/-- Moves of other products bring nothing of a product. -/
theorem ofProduct_of_notMem {moves : List Move} {productId : ProductId}
    (h : productId ∉ moves.map Move.productId) : ofProduct moves productId = 0 := by
  have hnil : moves.filter (fun m => m.productId = productId) = [] :=
    List.filter_eq_nil_iff.mpr fun m hm hid =>
      h (List.mem_map.mpr ⟨m, hm, by simpa using hid⟩)
  simp [ofProduct, hnil]

end Move

/-- The database with other lines and levels. -/
def Db.restocked (db : Db) (lines : Table PurchaseOrderLine) (levels : Table InventoryLevel) :
    Db :=
  { db with lines, inventoryLevels := levels }

section Restocked

variable (db : Db) (lines lines' : Table PurchaseOrderLine)
  (levels levels' : Table InventoryLevel)

@[simp] theorem Db.restocked_lines : (db.restocked lines levels).lines = lines := rfl
@[simp] theorem Db.restocked_levels :
    (db.restocked lines levels).inventoryLevels = levels := rfl
@[simp] theorem Db.restocked_products :
    (db.restocked lines levels).products = db.products := rfl
@[simp] theorem Db.restocked_locations :
    (db.restocked lines levels).locations = db.locations := rfl
@[simp] theorem Db.restocked_orders : (db.restocked lines levels).orders = db.orders := rfl
@[simp] theorem Db.restocked_purchaseOrders :
    (db.restocked lines levels).purchaseOrders = db.purchaseOrders := rfl
@[simp] theorem Db.restocked_restocked :
    (db.restocked lines levels).restocked lines' levels' = db.restocked lines' levels' := rfl
@[simp] theorem Db.restocked_self : db.restocked db.lines db.inventoryLevels = db := rfl

end Restocked

/-! ## Lines -/

/-- A line with its received quantity moved and its receipt time rewritten to match. -/
def PurchaseOrderLine.booked (l : PurchaseOrderLine) (stamp : ℤ → Option Time) (units : ℤ) :
    PurchaseOrderLine :=
  { l with receivedQty := l.receivedQty + units, receivedAt := stamp (l.receivedQty + units) }

/-- The lines after a list of moves. -/
def bookLines (stamp : ℤ → Option Time) (moves : List Move) (t : Table PurchaseOrderLine) :
    Table PurchaseOrderLine :=
  t.update (fun l => l.id ∈ moves.map Move.lineId) fun l => l.booked stamp (Move.onLine moves l.id)

section Lines

variable {stamp : ℤ → Option Time} {moves : List Move}

/-- The rows after a list of moves. -/
theorem rows_bookLines (t : Table PurchaseOrderLine) :
    (bookLines stamp moves t).rows = t.rows.map fun l =>
      if l.id ∈ moves.map Move.lineId then l.booked stamp (Move.onLine moves l.id) else l := by
  rw [bookLines, Table.rows_update _ _ fun l => by rfl]
  simp

/-- Booking a list of moves is booking the first and then the rest. -/
theorem bookLines_cons (m : Move) (t : Table PurchaseOrderLine) :
    bookLines stamp moves (bookLines stamp [m] t) = bookLines stamp (m :: moves) t := by
  refine Table.ext ?_
  rw [rows_bookLines, rows_bookLines, rows_bookLines, List.map_map]
  refine List.map_congr_left fun l _ => ?_
  by_cases hm : m.lineId = l.id
  · by_cases hmem : l.id ∈ moves.map Move.lineId
    · simp [-List.mem_map, PurchaseOrderLine.booked, hm, hmem, add_assoc]
    · simp [-List.mem_map, PurchaseOrderLine.booked, hm, hmem, Move.onLine_of_notMem hmem]
  · have hm' : ¬ l.id = m.lineId := fun h => hm h.symm
    by_cases hmem : l.id ∈ moves.map Move.lineId <;> simp [-List.mem_map, hm, hm', hmem]

/-- No moves leave the lines as they are. -/
@[simp]
theorem bookLines_nil (t : Table PurchaseOrderLine) : bookLines stamp [] t = t :=
  Table.update_of_forall_not _ fun l _ => by simp

/-- Looking a line up after a list of moves. -/
theorem find_bookLines (t : Table PurchaseOrderLine) (id : LineId) :
    (bookLines stamp moves t).find id = (t.find id).map fun l =>
      if l.id ∈ moves.map Move.lineId then l.booked stamp (Move.onLine moves l.id) else l := by
  rw [bookLines, Table.find_update _ _ fun l => by rfl]
  simp

/-- A loaded line is a row of the order. -/
theorem mem_loadLines {t : Table PurchaseOrderLine} {poId : PoId} {line : LoadedLine} :
    line ∈ loadLines t poId ↔ ∃ l ∈ t.rows, l.purchaseOrderId = poId ∧ l.load = line := by
  simp [loadLines, and_assoc]

/-- A loaded line is stored under its id. -/
theorem find_of_mem_loadLines {db : Db} {poId : PoId} {line : LoadedLine}
    (h : line ∈ loadLines db.lines poId) :
    ∃ row, (Stored.get db : Table PurchaseOrderLine).find line.id = some row := by
  obtain ⟨row, hrow, -, rfl⟩ := mem_loadLines.mp h
  exact ⟨row, Table.find_eq_some.mpr ⟨hrow, rfl⟩⟩

/-- A line found in memory is a row of the order with that id. -/
theorem exists_row_of_find? {t : Table PurchaseOrderLine} {poId : PoId} {lineId : LineId}
    {line : LoadedLine}
    (h : ((loadLines t poId).find? fun l => l.id = lineId) = some line) :
    ∃ l ∈ t.rows, l.purchaseOrderId = poId ∧ l.id = lineId ∧ l.load = line := by
  have hid : line.id = lineId := by simpa using List.find?_some h
  obtain ⟨l, hl, hpo, rfl⟩ := mem_loadLines.mp (List.mem_of_find?_eq_some h)
  exact ⟨l, hl, hpo, hid, rfl⟩

/-- Rewriting a line in memory and in the table keeps the two in step. -/
theorem loadLines_setReceived (t : Table PurchaseOrderLine) (poId : PoId) (id : LineId)
    (receivedQty : ℤ) (receivedAt : Option Time) :
    loadLines (t.update (fun l => l.id = id) (·.setReceived receivedQty receivedAt)) poId
      = LoadedLine.setReceived (loadLines t poId) id receivedQty := by
  rw [loadLines, Table.rows_update _ _ fun _ => by rfl, loadLines, LoadedLine.setReceived,
    List.filter_map, List.map_map, List.map_map]
  have hpo : ((fun l : PurchaseOrderLine => decide (l.purchaseOrderId = poId)) ∘ fun l =>
      if decide (l.id = id) then l.setReceived receivedQty receivedAt else l)
        = fun l => decide (l.purchaseOrderId = poId) := by
    funext l
    by_cases h : l.id = id <;> simp [h, PurchaseOrderLine.setReceived]
  rw [hpo]
  refine List.map_congr_left fun l _ => ?_
  by_cases h : l.id = id <;> simp [h, PurchaseOrderLine.setReceived, PurchaseOrderLine.load]

/-- The loaded lines after a list of moves. -/
theorem loadLines_bookLines (t : Table PurchaseOrderLine) (poId : PoId) :
    loadLines (bookLines stamp moves t) poId
      = (loadLines t poId).map fun l =>
          { l with receivedQty := l.receivedQty + Move.onLine moves l.id } := by
  rw [loadLines, rows_bookLines, loadLines, List.filter_map, List.map_map, List.map_map]
  have hpo : ((fun l : PurchaseOrderLine => decide (l.purchaseOrderId = poId)) ∘ fun l =>
      if l.id ∈ moves.map Move.lineId then l.booked stamp (Move.onLine moves l.id) else l)
        = fun l => decide (l.purchaseOrderId = poId) := by
    funext l
    by_cases h : l.id ∈ moves.map Move.lineId <;>
      simp [-List.mem_map, h, PurchaseOrderLine.booked]
  rw [hpo]
  refine List.map_congr_left fun l _ => ?_
  by_cases h : l.id ∈ moves.map Move.lineId
  · simp [-List.mem_map, h, PurchaseOrderLine.booked, PurchaseOrderLine.load]
  · simp [-List.mem_map, h, PurchaseOrderLine.load, Move.onLine_of_notMem h]

/-- Writing the new absolute quantity of a line that is loaded as it is stored books the
difference. -/
theorem update_setReceived (stamp : ℤ → Option Time) {t : Table PurchaseOrderLine} {poId : PoId}
    {line : LoadedLine}
    (hline : line ∈ loadLines t poId) (qty : ℤ) :
    t.update (fun l => l.id = line.id)
        (·.setReceived (line.receivedQty + qty) (stamp (line.receivedQty + qty)))
      = bookLines stamp [⟨line.id, line.productId, qty⟩] t := by
  have hsame : ∀ l ∈ t.rows, l.id = line.id → l.load = line := by
    intro l hl hid
    obtain ⟨row, hrow, -, rfl⟩ := mem_loadLines.mp hline
    rw [Table.eq_of_key_eq hl hrow hid]
  refine Table.update_congr (fun l _ => by simp) fun l hl hid => ?_
  have hload := hsame l hl (by simpa using hid)
  subst hload
  simp [PurchaseOrderLine.setReceived, PurchaseOrderLine.booked]

end Lines

/-! ## Entries and moves -/

section Entries

variable {lines : List LoadedLine} {entries : List ReceiveEntry}

/-- An entry whose line is loaded is a move on that line. -/
theorem moves_cons {line : LoadedLine} {entry : ReceiveEntry}
    (h : (lines.find? fun l => l.id = entry.lineId) = some line) :
    LoadedLine.moves lines (entry :: entries)
      = ⟨line.id, line.productId, entry.qty.num⟩ :: LoadedLine.moves lines entries := by
  rw [LoadedLine.moves, List.filterMap_cons, LoadedLine.move, h]
  rfl

/-- An entry that names no loaded line stands for no move. -/
theorem moves_cons_of_none {entry : ReceiveEntry}
    (h : (lines.find? fun l => l.id = entry.lineId) = none) :
    LoadedLine.moves lines (entry :: entries) = LoadedLine.moves lines entries := by
  rw [LoadedLine.moves, List.filterMap_cons, LoadedLine.move, h]
  rfl

/-- Received quantities do not matter to which lines are loaded. -/
theorem exists_mem_setReceived {id : LineId} {receivedQty : ℤ} {lineId : LineId}
    (h : ∃ line ∈ lines, line.id = lineId) :
    ∃ line ∈ LoadedLine.setReceived lines id receivedQty, line.id = lineId := by
  obtain ⟨line, hline, rfl⟩ := h
  refine ⟨_, List.mem_map_of_mem hline, ?_⟩
  by_cases h : line.id = id <;> simp [h]

/-- Only the ids and the products of the lines matter to what an entry stands for. -/
theorem moves_map {f : LoadedLine → LoadedLine} (hid : ∀ l, (f l).id = l.id)
    (hproduct : ∀ l, (f l).productId = l.productId) :
    LoadedLine.moves (lines.map f) entries = LoadedLine.moves lines entries := by
  refine List.filterMap_congr fun entry _ => ?_
  rw [LoadedLine.move, List.find?_map, Option.map_map]
  have hcomp : ((fun l : LoadedLine => decide (l.id = entry.lineId)) ∘ f)
      = fun l => decide (l.id = entry.lineId) := by
    funext l
    simp [hid]
  rw [hcomp, LoadedLine.move]
  congr 1
  funext l
  simp [hid, hproduct]

/-- Received quantities do not matter to what an entry stands for. -/
theorem moves_setReceived (id : LineId) (receivedQty : ℤ) :
    LoadedLine.moves (LoadedLine.setReceived lines id receivedQty) entries
      = LoadedLine.moves lines entries :=
  moves_map (fun l => by by_cases h : l.id = id <;> simp [h])
    fun l => by by_cases h : l.id = id <;> simp [h]

/-- Rewriting one line in memory leaves the others. -/
theorem find?_setReceived_of_ne {id lineId : LineId} (hne : lineId ≠ id) (receivedQty : ℤ) :
    ((LoadedLine.setReceived lines id receivedQty).find? fun l => l.id = lineId)
      = lines.find? fun l => l.id = lineId := by
  rw [LoadedLine.setReceived, List.find?_map]
  have hcomp : ((fun l : LoadedLine => decide (l.id = lineId)) ∘ fun l =>
      if l.id = id then { l with receivedQty } else l) = fun l => decide (l.id = lineId) := by
    funext l
    by_cases h : l.id = id <;> simp [h]
  rw [hcomp]
  cases hfind : lines.find? fun l => l.id = lineId with
  | none => rfl
  | some l =>
      have hl : l.id = lineId := by simpa using List.find?_some hfind
      simp [hl, hne]

end Entries

/-! ## Levels -/

/-- A level with units moved in (or, when negative, out): the on-hand figure and what can
be sold of it move together, and `available` is established where it was missing. -/
def InventoryLevel.moved (level : InventoryLevel) (units : ℤ) : InventoryLevel :=
  { level with
    onHand := level.onHand + units
    available := some (sellableUnits level + units) }

@[simp] theorem InventoryLevel.moved_onHand (level : InventoryLevel) (units : ℤ) :
    (level.moved units).onHand = level.onHand + units := rfl

@[simp] theorem InventoryLevel.sellableUnits_moved (level : InventoryLevel) (units : ℤ) :
    sellableUnits (level.moved units) = sellableUnits level + units := rfl

/-- Moving twice is moving by the sum. -/
theorem InventoryLevel.moved_moved (level : InventoryLevel) (a b : ℤ) :
    (level.moved a).moved b = level.moved (a + b) := by
  simp [InventoryLevel.moved, sellableUnits, add_assoc]

/-- `onHand: { increment: qty }`. -/
def InventoryLevel.increment (qty : ℤ) (level : InventoryLevel) : InventoryLevel :=
  { level with onHand := level.onHand + qty }

/-- `"available" = COALESCE("available", "onHand" - qty) + qty`. -/
def InventoryLevel.coalesceIn (qty : ℤ) (level : InventoryLevel) : InventoryLevel :=
  { level with available := some (level.available.getD (level.onHand - qty) + qty) }

/-- `onHand: { decrement: qty }`. -/
def InventoryLevel.decrement (qty : ℤ) (level : InventoryLevel) : InventoryLevel :=
  { level with onHand := level.onHand - qty }

/-- `"available" = COALESCE("available", "onHand" + qty) - qty`. -/
def InventoryLevel.coalesceOut (qty : ℤ) (level : InventoryLevel) : InventoryLevel :=
  { level with available := some (level.available.getD (level.onHand + qty) - qty) }

/-- The two statements of a receipt move the level in. -/
theorem InventoryLevel.coalesceIn_increment (level : InventoryLevel) (qty : ℤ) :
    (level.increment qty).coalesceIn qty = level.moved qty := by
  simp [InventoryLevel.increment, InventoryLevel.coalesceIn, InventoryLevel.moved, sellableUnits]

/-- The two statements of a reversal move the level out. -/
theorem InventoryLevel.coalesceOut_decrement (level : InventoryLevel) (qty : ℤ) :
    (level.decrement qty).coalesceOut qty = level.moved (-qty) := by
  simp [InventoryLevel.decrement, InventoryLevel.coalesceOut, InventoryLevel.moved, sellableUnits,
    sub_eq_add_neg]

section Levels

variable (locationId : LocationId)

/-- The level row a receipt creates: `available` is settled by the statement that follows. -/
def newLevel (productId : ProductId) (qty : ℤ) : InventoryLevel :=
  { locationId, productId, onHand := qty }

/-- Whether a row is the level of a product at the location. -/
def isLevel (productId : ProductId) (level : InventoryLevel) : Bool :=
  level.locationId = locationId ∧ level.productId = productId

/-- The levels after the two statements of a receipt entry: the row is created when there
is none. -/
def stockIn (t : Table InventoryLevel) (m : Move) : Table InventoryLevel :=
  (if (t.find (locationId, m.productId)).isSome then
      t.update (fun level => Keyed.key level = (locationId, m.productId)) (·.increment m.qty)
    else t.insert (newLevel locationId m.productId m.qty)).update
    (isLevel locationId m.productId) (·.coalesceIn m.qty)

/-- The levels after the two statements of a reversal entry: where there is no row,
nothing moves. -/
def stockOut (t : Table InventoryLevel) (m : Move) : Table InventoryLevel :=
  (t.update (isLevel locationId m.productId) (·.decrement m.qty)).update
    (isLevel locationId m.productId) (·.coalesceOut m.qty)

/-- The `WHERE` on a location and a product selects by the key. -/
theorem isLevel_iff (productId : ProductId) (level : InventoryLevel) :
    isLevel locationId productId level ↔ Keyed.key level = (locationId, productId) := by
  simp [isLevel]

/-- A level after the statements of a receipt entry. -/
theorem find_stockIn (t : Table InventoryLevel) (m : Move) (key : LocationId × ProductId) :
    (stockIn locationId t m).find key
      = if key = (locationId, m.productId) then
          some (((t.find key).getD (newLevel locationId m.productId 0)).moved m.qty)
        else t.find key := by
  rw [stockIn, Table.find_update_key _ (fun _ => by rfl) (isLevel_iff locationId m.productId)]
  cases hf : t.find (locationId, m.productId) with
  | none =>
      rw [Option.isSome_none, if_neg Bool.false_ne_true, Table.find_insert hf]
      by_cases hkey : key = (locationId, m.productId)
      · subst hkey
        have hnew : (newLevel locationId m.productId 0).increment m.qty
            = newLevel locationId m.productId m.qty := by
          simp [newLevel, InventoryLevel.increment]
        rw [hf, Option.getD_none, ← InventoryLevel.coalesceIn_increment, hnew]
        simp [newLevel]
      · simp [hkey, newLevel, Ne.symm hkey]
  | some level =>
      rw [Option.isSome_some, if_pos rfl,
        Table.find_update_key _ (fun _ => by rfl) fun _ => decide_eq_true_iff]
      by_cases hkey : key = (locationId, m.productId)
      · subst hkey
        simp [hf, InventoryLevel.coalesceIn_increment]
      · simp [hkey]

/-- A level after the statements of a reversal entry. -/
theorem find_stockOut (t : Table InventoryLevel) (m : Move) (key : LocationId × ProductId) :
    (stockOut locationId t m).find key
      = if key = (locationId, m.productId) then (t.find key).map (·.moved (-m.qty))
        else t.find key := by
  rw [stockOut, Table.find_update_key _ (fun _ => by rfl) (isLevel_iff locationId m.productId),
    Table.find_update_key _ (fun _ => by rfl) (isLevel_iff locationId m.productId)]
  by_cases hkey : key = (locationId, m.productId)
  · cases hf : t.find key <;> simp [hkey, InventoryLevel.coalesceOut_decrement]
  · simp [hkey]

/-- A level after the statements of a list of receipt entries. -/
theorem find_foldl_stockIn (moves : List Move) (t : Table InventoryLevel)
    (key : LocationId × ProductId) :
    (moves.foldl (stockIn locationId) t).find key
      = if key.1 = locationId ∧ key.2 ∈ moves.map Move.productId then
          some (((t.find key).getD (newLevel locationId key.2 0)).moved
            (Move.ofProduct moves key.2))
        else t.find key := by
  induction moves generalizing t with
  | nil => simp
  | cons m moves ih =>
      rw [List.foldl_cons, ih, find_stockIn]
      obtain ⟨l, p⟩ := key
      by_cases hl : l = locationId
      · subst hl
        by_cases hm : m.productId = p
        · subst hm
          by_cases hmem : m.productId ∈ moves.map Move.productId
          · simp [-List.mem_map, hmem, InventoryLevel.moved_moved]
          · simp [-List.mem_map, hmem, Move.ofProduct_of_notMem hmem]
        · have hm' : ¬ p = m.productId := fun h => hm h.symm
          simp [-List.mem_map, hm, hm']
      · simp [hl]

/-- A level after the statements of a list of reversal entries. -/
theorem find_foldl_stockOut (moves : List Move) (t : Table InventoryLevel)
    (key : LocationId × ProductId) :
    (moves.foldl (stockOut locationId) t).find key
      = if key.1 = locationId ∧ key.2 ∈ moves.map Move.productId then
          (t.find key).map (·.moved (-Move.ofProduct moves key.2))
        else t.find key := by
  induction moves generalizing t with
  | nil => simp
  | cons m moves ih =>
      rw [List.foldl_cons, ih, find_stockOut]
      obtain ⟨l, p⟩ := key
      by_cases hl : l = locationId
      · subst hl
        by_cases hm : m.productId = p
        · subst hm
          by_cases hmem : m.productId ∈ moves.map Move.productId
          · simp [-List.mem_map, hmem, Function.comp_def, InventoryLevel.moved_moved,
              neg_add_rev, add_comm]
          · simp [-List.mem_map, hmem, Move.ofProduct_of_notMem hmem]
        · have hm' : ¬ p = m.productId := fun h => hm h.symm
          simp [-List.mem_map, hm, hm']
      · simp [hl]

end Levels

/-! ## The loop over the entries -/

/-- A loop over entries that keeps the lines in memory as it books them. -/
structure EntryLoop (P : Type) where
  /-- The lines in memory. -/
  lines : P → List LoadedLine
  /-- What is in memory after some units were booked on a line. -/
  book : P → LoadedLine → ℤ → P
  /-- By how much the received quantity of the line moves. -/
  signed : ℤ → ℤ
  /-- When the line was last received, by its new received quantity. -/
  stamp : ℤ → Option Time
  /-- The levels after the entry's move. -/
  stock : Table InventoryLevel → Move → Table InventoryLevel
  /-- The lines in memory follow the booking. -/
  lines_book : ∀ p line qty, lines (book p line qty)
    = LoadedLine.setReceived (lines p) line.id (line.receivedQty + signed qty)

namespace EntryLoop

variable {M R P : Type} (loop : EntryLoop P)

/-- What is in memory after an entry. -/
def next (p : P) (entry : ReceiveEntry) : P :=
  match (loop.lines p).find? fun l => l.id = entry.lineId with
  | some line => loop.book p line entry.qty.num
  | none => p

/-- The lines after the moves of some entries. -/
def linesAfter (moves : List Move) (t : Table PurchaseOrderLine) : Table PurchaseOrderLine :=
  bookLines loop.stamp (moves.map (Move.mapQty loop.signed)) t

variable {loop} {p : P} {poId : PoId}

/-- Booking a line that is loaded as it is stored keeps memory and table in step. -/
theorem lines_book_eq {t : Table PurchaseOrderLine} (hlines : loop.lines p = loadLines t poId)
    {line : LoadedLine} (hmem : line ∈ loadLines t poId) (qty : ℤ) :
    loop.lines (loop.book p line qty)
      = loadLines (loop.linesAfter [⟨line.id, line.productId, qty⟩] t) poId := by
  rw [loop.lines_book, hlines, linesAfter]
  exact (loadLines_setReceived t poId line.id _
    (loop.stamp (line.receivedQty + loop.signed qty))).symm.trans
    (congrArg (loadLines · poId) (update_setReceived loop.stamp hmem (loop.signed qty)))

/-- Booking an entry does not change what the others stand for. -/
theorem moves_book (line : LoadedLine) (qty : ℤ) (entries : List ReceiveEntry) :
    LoadedLine.moves (loop.lines (loop.book p line qty)) entries
      = LoadedLine.moves (loop.lines p) entries := by
  rw [loop.lines_book, moves_setReceived]

/-- The lines after a first move and the rest. -/
theorem linesAfter_cons (m : Move) (moves : List Move) (t : Table PurchaseOrderLine) :
    loop.linesAfter moves (loop.linesAfter [m] t) = loop.linesAfter (m :: moves) t :=
  bookLines_cons _ _

variable (loop) in
/-- The lines in memory at the end of the loop are the lines it leaves stored. -/
theorem lines_foldl_next {entries : List ReceiveEntry} {t : Table PurchaseOrderLine}
    (hlines : loop.lines p = loadLines t poId) :
    loop.lines (entries.foldl loop.next p)
      = loadLines (loop.linesAfter (LoadedLine.moves (loop.lines p) entries) t) poId := by
  induction entries generalizing p t with
  | nil => simpa [LoadedLine.moves, linesAfter] using hlines
  | cons entry entries ih =>
      rw [List.foldl_cons]
      cases hfind : (loop.lines p).find? fun l => l.id = entry.lineId with
      | none =>
          have hnext : loop.next p entry = p := by rw [next, hfind]
          rw [hnext, ih hlines, moves_cons_of_none hfind]
      | some line =>
          have hnext : loop.next p entry = loop.book p line entry.qty.num := by
            rw [next, hfind]
          have hmem : line ∈ loadLines t poId := hlines ▸ List.mem_of_find?_eq_some hfind
          rw [hnext, ih (lines_book_eq hlines hmem _), moves_book, moves_cons hfind,
            linesAfter_cons]

/-- What the loop collects, when every entry is on a line of its own: the products of the
lines that meet the condition as they were loaded. -/
theorem mem_collected_foldl_next {collected : P → List ProductId}
    {condition : LoadedLine → ℤ → Prop} [∀ line qty, Decidable (condition line qty)]
    (hcollected : ∀ p line qty, collected (loop.book p line qty)
      = if condition line qty then collected p ++ [line.productId] else collected p)
    {entries : List ReceiveEntry} (hdistinct : (entries.map ReceiveEntry.lineId).Nodup)
    {productId : ProductId} :
    productId ∈ collected (entries.foldl loop.next p) ↔
      productId ∈ collected p ∨ ∃ e ∈ entries, ∃ line,
        ((loop.lines p).find? fun l => l.id = e.lineId) = some line ∧
          condition line e.qty.num ∧ line.productId = productId := by
  induction entries generalizing p with
  | nil => simp
  | cons entry entries ih =>
      obtain ⟨hnew, hrest⟩ := List.nodup_cons.mp hdistinct
      rw [List.foldl_cons, ih hrest, List.exists_mem_cons_iff]
      cases hfind : (loop.lines p).find? fun l => l.id = entry.lineId with
      | none =>
          have hnext : loop.next p entry = p := by rw [next, hfind]
          simp [hnext]
      | some line =>
          have hnext : loop.next p entry = loop.book p line entry.qty.num := by
            rw [next, hfind]
          have hline : line.id = entry.lineId := by simpa using List.find?_some hfind
          -- the lines of the entries that follow are still as they were loaded
          have hothers : ∀ e ∈ entries,
              ((loop.lines (loop.book p line entry.qty.num)).find? fun l => l.id = e.lineId)
                = (loop.lines p).find? fun l => l.id = e.lineId := by
            intro e he
            rw [loop.lines_book]
            refine find?_setReceived_of_ne (fun heq => hnew ?_) _
            exact List.mem_map.mpr ⟨e, he, heq.trans hline⟩
          have htail : (∃ e ∈ entries, ∃ line',
              ((loop.lines (loop.book p line entry.qty.num)).find? fun l => l.id = e.lineId)
                = some line' ∧ condition line' e.qty.num ∧ line'.productId = productId) ↔
              ∃ e ∈ entries, ∃ line', ((loop.lines p).find? fun l => l.id = e.lineId)
                = some line' ∧ condition line' e.qty.num ∧ line'.productId = productId := by
            refine exists_congr fun e => and_congr_right fun he => ?_
            rw [hothers e he]
          rw [hnext, htail, hcollected]
          by_cases hc : condition line entry.qty.num
          · simp [hc, or_assoc, eq_comm]
          · simp [hc]

variable (loop) in
/-- The whole loop run alone, from what its body does on a line that is loaded as it is
stored, when every entry names a loaded line. -/
theorem exec_foldlM {answer : M → Bool} {committed : Db}
    {body : P → ReceiveEntry → Op M R P}
    (hbody : ∀ {p entry line} {working : Db}, loop.lines p = loadLines working.lines poId →
      ((loop.lines p).find? fun l => l.id = entry.lineId) = some line → ∀ ok err,
      (body p entry ok err).exec answer committed working
        = (ok (loop.book p line entry.qty.num)).exec answer committed
            (working.restocked
              (loop.linesAfter [⟨line.id, line.productId, entry.qty.num⟩] working.lines)
              (loop.stock working.inventoryLevels
                ⟨line.id, line.productId, entry.qty.num⟩)))
    {entries : List ReceiveEntry} {working : Db}
    (hlines : loop.lines p = loadLines working.lines poId)
    (hnamed : ∀ e ∈ entries, ∃ line ∈ loop.lines p, line.id = e.lineId)
    (ok : P → OpProgram M R) (err : Failure → OpProgram M R) :
    (entries.foldlM body p ok err).exec answer committed working
      = (ok (entries.foldl loop.next p)).exec answer committed
          (working.restocked
            (loop.linesAfter (LoadedLine.moves (loop.lines p) entries) working.lines)
            ((LoadedLine.moves (loop.lines p) entries).foldl loop.stock
              working.inventoryLevels)) := by
  induction entries generalizing p working with
  | nil => simp [LoadedLine.moves, linesAfter]
  | cons entry entries ih =>
      cases hfind : (loop.lines p).find? fun l => l.id = entry.lineId with
      | none =>
          obtain ⟨line, hline, hid⟩ := hnamed entry List.mem_cons_self
          have hne := List.find?_eq_none.mp hfind line hline
          simp [hid] at hne
      | some line =>
          have hnext : loop.next p entry = loop.book p line entry.qty.num := by
            rw [next, hfind]
          have hmem : line ∈ loadLines working.lines poId :=
            hlines ▸ List.mem_of_find?_eq_some hfind
          rw [List.foldlM_cons, Session.bind_apply, hbody hlines hfind, ih]
          · rw [List.foldl_cons, hnext, moves_book, moves_cons hfind, List.foldl_cons]
            simp [linesAfter_cons]
          · exact lines_book_eq hlines hmem _
          · intro e he
            rw [loop.lines_book]
            exact exists_mem_setReceived (hnamed e (List.mem_cons_of_mem _ he))

end EntryLoop

/-! ## Calls -/

/-- The products of the lines some entries name, without repetitions. -/
def touchedProducts (lines : List LoadedLine) (entries : List ReceiveEntry) : List ProductId :=
  ((LoadedLine.moves lines entries).map Move.productId).eraseDups

/-- The moves a call asks for. -/
def Db.movesOf (db : Db) (poId : PoId) (entries : List ReceiveEntry) : List Move :=
  LoadedLine.moves (loadLines db.lines poId) (positiveEntries entries)

/-- The products whose stock a call rewrites: none where the store owns the shelf. -/
def Db.touchedBy (db : Db) (poId : PoId) (entries : List ReceiveEntry) (location : Location) :
    List ProductId :=
  if location.shopifyLocationId.isSome then []
  else touchedProducts (loadLines db.lines poId) (positiveEntries entries)

/-- An entry names a loaded line and is a whole number of units within the line's limit. -/
def EntryFits (limit : LoadedLine → ℤ) (lines : List LoadedLine) (entry : ReceiveEntry) : Prop :=
  ∃ line, (lines.find? fun l => l.id = entry.lineId) = some line ∧
    entry.qty.isInt ∧ entry.qty ≤ limit line

instance (limit : LoadedLine → ℤ) (lines : List LoadedLine) (entry : ReceiveEntry) :
    Decidable (EntryFits limit lines entry) :=
  decidable_of_iff
    (((lines.find? fun l => l.id = entry.lineId).any fun line =>
      entry.qty.isInt ∧ entry.qty ≤ limit line) = true) (by
    unfold EntryFits
    cases lines.find? fun l => l.id = entry.lineId <;> simp)

/-- What a receipt or a reversal checks: the status of the order allows it, the location
exists, and every entry with a positive quantity fits its line as loaded. -/
structure CallChecked (allowed : PoStatus → Prop) (limit : LoadedLine → ℤ) (db : Db)
    (poId : PoId) (entries : List ReceiveEntry) (locationId : LocationId) (po : PurchaseOrder)
    (location : Location) : Prop where
  order : db.findPurchaseOrder poId = some (po, db.linesOf poId)
  allowed : allowed po.status
  place : (db.locations.rows.find? fun l => l.id = locationId) = some location
  nonempty : positiveEntries entries ≠ []
  fits : ∀ e ∈ positiveEntries entries, EntryFits limit (loadLines db.lines poId) e

/-- When a receipt or a reversal goes through: the checks pass and the products whose
stock is rewritten exist. -/
structure CallAccepted (allowed : PoStatus → Prop) (limit : LoadedLine → ℤ) (db : Db)
    (poId : PoId) (entries : List ReceiveEntry) (locationId : LocationId) (po : PurchaseOrder)
    (location : Location) : Prop
    extends CallChecked allowed limit db poId entries locationId po location where
  products : ∀ id ∈ db.touchedBy poId entries location, (db.products.find id).isSome

namespace CallChecked

variable {allowed : PoStatus → Prop} {limit : LoadedLine → ℤ} {db : Db} {poId : PoId}
  {entries : List ReceiveEntry} {locationId : LocationId} {po : PurchaseOrder}
  {location : Location}

/-- The order of a checked call is stored under its id. -/
theorem find_order (h : CallChecked allowed limit db poId entries locationId po location) :
    db.purchaseOrders.find poId = some po :=
  (Db.findPurchaseOrder_eq_some.mp h.order).1

/-- The order of a checked call carries the id that was asked for. -/
theorem order_id (h : CallChecked allowed limit db poId entries locationId po location) :
    po.id = poId :=
  (Table.find_eq_some.mp h.find_order).2

/-- The location of a checked call carries the id that was asked for. -/
theorem place_id (h : CallChecked allowed limit db poId entries locationId po location) :
    location.id = locationId := by
  simpa using List.find?_some h.place

/-- Every entry of a checked call names a line of the order. -/
theorem named (h : CallChecked allowed limit db poId entries locationId po location) :
    ∀ e ∈ positiveEntries entries, ∃ line ∈ loadLines db.lines poId, line.id = e.lineId := by
  intro e he
  obtain ⟨line, hfind, -⟩ := h.fits e he
  exact ⟨line, List.mem_of_find?_eq_some hfind, by simpa using List.find?_some hfind⟩

/-- A call whose checks pass but that is not accepted is missing a product. -/
theorem missing_of_not_accepted
    (h : CallChecked allowed limit db poId entries locationId po location)
    (hnot : ¬ CallAccepted allowed limit db poId entries locationId po location) :
    ∃ id ∈ db.touchedBy poId entries location, db.products.find id = none := by
  by_contra hall
  refine hnot ⟨h, fun id hid => ?_⟩
  by_contra hnone
  exact hall ⟨id, hid, by simpa using hnone⟩

end CallChecked

end Restock
