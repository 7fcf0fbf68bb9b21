import Mathlib.Algebra.Order.BigOperators.Group.List
import Mathlib.Algebra.Order.Ring.Int
import Restock.Purchasing.Unreceive

/-!
# The stock ledger of receipts and reversals

At a location the store does not own, the on-hand figure should change by exactly what was
received there less what was taken back. A receipt creates the level row it needs; a
reversal only updates rows, so at a location that has no row for the product it takes
units off the order without taking them off any shelf.

* `Db.onHand`, `unitsMoved` — the on-hand figure, and what a sequence of calls moved;
* `unitsMissed` — what its reversals took off no shelf;
* `onHand_run` — the ledger with the missed units;
* `ledger_iff` — the ledger balances exactly when every reversal finds its level rows.
-/

namespace Restock

open Store

/-- The on-hand figure of a product at a location; a missing level counts as zero. -/
def Db.onHand (db : Db) (locationId : LocationId) (productId : ProductId) : ℤ :=
  ((db.inventoryLevels.find (locationId, productId)).map InventoryLevel.onHand).getD 0

/-- The units of a product a call moves. -/
def ReceiptCall.units (call : ReceiptCall) (db : Db) (productId : ProductId) : ℤ :=
  Move.ofProduct (db.movesOf call.poId call.entries) productId

/-- The units of a product the calls of one direction in a sequence moved at a location. -/
def unitsMoved (direction : Direction) (locationId : LocationId) (productId : ProductId) :
    Db → List ReceiptCall → ℤ
  | _, [] => 0
  | db, call :: calls =>
      (if call.direction = direction ∧ call.locationId = locationId then call.units db productId
        else 0) + unitsMoved direction locationId productId (call.after db) calls

/-- Every call of a sequence succeeds, at a location the store does not own. -/
def SucceedsOffStore : Db → List ReceiptCall → Prop
  | _, [] => True
  | db, call :: calls =>
      (call.Succeeds db ∧ ∀ location, db.locations.find call.locationId = some location →
        location.shopifyLocationId = none) ∧ SucceedsOffStore (call.after db) calls

/-- Deciding whether the calls of a sequence succeed off the store. -/
def decidableSucceedsOffStore :
    (db : Db) → (calls : List ReceiptCall) → Decidable (SucceedsOffStore db calls)
  | _, [] => isTrue trivial
  | db, call :: calls =>
      have := decidableSucceedsOffStore (call.after db) calls
      inferInstanceAs (Decidable ((_ ∧ ∀ location, _ = some location → _) ∧ _))

/-- A reversal finds a level row for every product it takes back. -/
def ReceiptCall.FindsLevels (call : ReceiptCall) (db : Db) : Prop :=
  call.direction = .unreceive → ∀ m ∈ db.movesOf call.poId call.entries,
    (db.inventoryLevels.find (call.locationId, m.productId)).isSome

/-- Every reversal of a sequence finds its level rows. -/
def ReversalsFindLevels : Db → List ReceiptCall → Prop
  | _, [] => True
  | db, call :: calls => call.FindsLevels db ∧ ReversalsFindLevels (call.after db) calls

/-! ## One call -/

/-- The units of a product a call takes off no shelf. -/
def ReceiptCall.missed (call : ReceiptCall) (db : Db) (locationId : LocationId)
    (productId : ProductId) : ℤ :=
  if call.direction = .unreceive ∧ call.locationId = locationId ∧
      db.inventoryLevels.find (locationId, productId) = none then call.units db productId
  else 0

section Units

variable {db : Db} {call : ReceiptCall} {productId : ProductId}

/-- Every move of a call is of some units. -/
theorem qty_pos_of_mem_movesOf {poId : PoId} {entries : List ReceiveEntry} {m : Move}
    (hm : m ∈ db.movesOf poId entries) : 0 < m.qty := by
  obtain ⟨e, he, hmove⟩ := List.mem_filterMap.mp hm
  obtain ⟨line, -, rfl⟩ := Option.map_eq_some_iff.mp hmove
  have hpos : 0 < e.qty := by simpa using (List.mem_filter.mp he).2
  exact Rat.num_pos.mpr hpos

/-- A call moves no negative amount. -/
theorem ReceiptCall.units_nonneg (call : ReceiptCall) (db : Db) (productId : ProductId) :
    0 ≤ call.units db productId := by
  refine List.sum_nonneg fun q hq => ?_
  obtain ⟨m, hm, rfl⟩ := List.mem_map.mp hq
  exact (qty_pos_of_mem_movesOf (List.mem_of_mem_filter hm)).le

/-- A call moves some units of every product its moves name. -/
theorem ReceiptCall.units_pos {m : Move} (hm : m ∈ db.movesOf call.poId call.entries) :
    0 < call.units db m.productId := by
  refine lt_of_lt_of_le (qty_pos_of_mem_movesOf hm) ?_
  refine List.single_le_sum (fun q hq => ?_) _
    (List.mem_map_of_mem (List.mem_filter.mpr ⟨hm, by simp⟩))
  obtain ⟨m', hm', rfl⟩ := List.mem_map.mp hq
  exact (qty_pos_of_mem_movesOf (List.mem_of_mem_filter hm')).le

/-- A call takes no negative amount off no shelf. -/
theorem ReceiptCall.missed_nonneg (call : ReceiptCall) (db : Db) (locationId : LocationId)
    (productId : ProductId) : 0 ≤ call.missed db locationId productId := by
  unfold ReceiptCall.missed
  split
  · exact call.units_nonneg db productId
  · exact le_rfl

/-- A call misses nothing exactly when it finds its level rows. -/
theorem ReceiptCall.findsLevels_iff :
    call.FindsLevels db ↔ ∀ locationId productId, call.missed db locationId productId = 0 := by
  unfold ReceiptCall.FindsLevels ReceiptCall.missed
  constructor
  · intro h locationId productId
    split
    case isFalse => rfl
    case isTrue hmiss =>
      obtain ⟨hdir, rfl, hnone⟩ := hmiss
      refine Move.ofProduct_of_notMem fun hmem => ?_
      obtain ⟨m, hm, rfl⟩ := List.mem_map.mp hmem
      simpa [hnone] using h hdir m hm
  · intro h hdir m hm
    by_contra hnone
    have hzero := h call.locationId m.productId
    rw [if_pos ⟨hdir, rfl, by simpa using hnone⟩] at hzero
    exact (call.units_pos hm).ne' hzero

end Units

section Step

variable {db : Db} {call : ReceiptCall}

/-- What a call that succeeds off the store does to an on-hand figure. -/
theorem onHand_after (hok : call.Succeeds db)
    (hoff : ∀ location, db.locations.find call.locationId = some location →
      location.shopifyLocationId = none) (locationId : LocationId) (productId : ProductId) :
    (call.after db).onHand locationId productId
      = db.onHand locationId productId
        + (if call.locationId = locationId then call.direction.sign * call.units db productId
          else 0) + call.missed db locationId productId := by
  obtain ⟨po, location, hacc⟩ := ReceiptCall.succeeds_iff.mp hok
  rw [ReceiptCall.after_accepted hacc]
  unfold ReceiptCall.AcceptedFor at hacc
  unfold ReceiptCall.outcome ReceiptCall.missed ReceiptCall.units Db.onHand
  cases hdir : call.direction with
  | receive =>
      rw [hdir] at hacc
      have hshop := hoff location hacc.place
      have hid : location.id = call.locationId := hacc.place_id
      simp only [Db.received_levels, hshop, Option.isSome_none, Bool.false_eq_true, if_false,
        find_foldl_stockIn, hid, Direction.sign]
      by_cases hL : locationId = call.locationId
      · subst hL
        by_cases hp : productId ∈ (db.movesOf call.poId call.entries).map Move.productId
        · cases db.inventoryLevels.find (call.locationId, productId) <;>
            simp [-List.mem_map, hp, newLevel]
        · simp [-List.mem_map, hp, Move.ofProduct_of_notMem hp]
      · simp [hL, Ne.symm hL]
  | unreceive =>
      rw [hdir] at hacc
      have hshop := hoff location hacc.place
      have hid : location.id = call.locationId := hacc.place_id
      simp only [Db.unreceived_levels, hshop, Option.isSome_none, Bool.false_eq_true, if_false,
        find_foldl_stockOut, hid, Direction.sign]
      by_cases hL : locationId = call.locationId
      · subst hL
        by_cases hp : productId ∈ (db.movesOf call.poId call.entries).map Move.productId
        · cases db.inventoryLevels.find (call.locationId, productId) <;>
            simp [-List.mem_map, hp]
        · simp [-List.mem_map, hp, Move.ofProduct_of_notMem hp]
      · simp [hL, Ne.symm hL]

end Step

/-! ## Sequences of calls -/

/-- The units the reversals of a sequence took off no shelf. -/
def unitsMissed (locationId : LocationId) (productId : ProductId) : Db → List ReceiptCall → ℤ
  | _, [] => 0
  | db, call :: calls =>
      call.missed db locationId productId
        + unitsMissed locationId productId (call.after db) calls

/-- No negative amount is missed. -/
theorem unitsMissed_nonneg (locationId : LocationId) (productId : ProductId) (db : Db)
    (calls : List ReceiptCall) : 0 ≤ unitsMissed locationId productId db calls := by
  induction calls generalizing db with
  | nil => exact le_rfl
  | cons call calls ih => exact add_nonneg (call.missed_nonneg ..) (ih _)

/-- The on-hand figure after a sequence: what was received, less what was taken back, plus
what the reversals took off no shelf. -/
theorem onHand_run {db : Db} {calls : List ReceiptCall} (h : SucceedsOffStore db calls)
    (locationId : LocationId) (productId : ProductId) :
    (ReceiptCall.run db calls).onHand locationId productId
      = db.onHand locationId productId
        + unitsMoved .receive locationId productId db calls
        - unitsMoved .unreceive locationId productId db calls
        + unitsMissed locationId productId db calls := by
  induction calls generalizing db with
  | nil => simp [unitsMoved, unitsMissed]
  | cons call calls ih =>
      obtain ⟨⟨hok, hoff⟩, hrest⟩ := h
      rw [ReceiptCall.run_cons, ih hrest, onHand_after hok hoff, unitsMoved, unitsMoved,
        unitsMissed]
      by_cases hL : call.locationId = locationId
      · cases hdir : call.direction with
        | receive => simp [hL, Direction.sign]; omega
        | unreceive => simp [hL, Direction.sign]; omega
      · simp [hL]; omega

/-- Every reversal of a sequence finds its level rows exactly when nothing is missed. -/
theorem reversalsFindLevels_iff {db : Db} {calls : List ReceiptCall} :
    ReversalsFindLevels db calls ↔
      ∀ locationId productId, unitsMissed locationId productId db calls = 0 := by
  induction calls generalizing db with
  | nil => simp [ReversalsFindLevels, unitsMissed]
  | cons call calls ih =>
      rw [ReversalsFindLevels, ih, ReceiptCall.findsLevels_iff]
      constructor
      · rintro ⟨hcall, hrest⟩ locationId productId
        rw [unitsMissed, hcall, hrest, add_zero]
      · intro h
        -- neither part is negative, so both are zero
        have hparts : ∀ locationId productId,
            call.missed db locationId productId = 0 ∧
              unitsMissed locationId productId (call.after db) calls = 0 := by
          intro locationId productId
          have hsum := h locationId productId
          have hcall := call.missed_nonneg db locationId productId
          have hrest := unitsMissed_nonneg locationId productId (call.after db) calls
          rw [unitsMissed] at hsum
          omega
        exact ⟨fun l p => (hparts l p).1, fun l p => (hparts l p).2⟩

/-- The ledger of a sequence of successful calls off the store balances, at every location
and for every product, exactly when every reversal finds its level rows. -/
theorem ledger_iff {db : Db} {calls : List ReceiptCall} (h : SucceedsOffStore db calls) :
    (∀ locationId productId,
      (ReceiptCall.run db calls).onHand locationId productId - db.onHand locationId productId
        = unitsMoved .receive locationId productId db calls
          - unitsMoved .unreceive locationId productId db calls) ↔
      ReversalsFindLevels db calls := by
  rw [reversalsFindLevels_iff]
  refine forall₂_congr fun locationId productId => ?_
  rw [onHand_run h]
  constructor <;> intro heq <;> omega

/-! ## A reversal at another location -/

/-- A sent order of ten units of one product and two places the store does not report. -/
def twoShelves : Db where
  products := .single { id := 1 }
  purchaseOrders := .single { id := 1, status := .sent }
  lines := .single { id := 1, purchaseOrderId := 1, productId := 1, quantity := 10 }
  locations := ⟨[{ id := 1 }, { id := 2 }], by decide⟩

/-- Ten units received at one place and four of them taken back at `locationId`. -/
def receiveThenReverse (locationId : LocationId) : List ReceiptCall :=
  [{ direction := .receive, poId := 1, entries := [⟨1, 10⟩], locationId := 1 },
    { direction := .unreceive, poId := 1, entries := [⟨1, 4⟩], locationId }]

instance (db : Db) (calls : List ReceiptCall) : Decidable (SucceedsOffStore db calls) :=
  decidableSucceedsOffStore db calls

/-- Four units taken back where the product has no level row leave every shelf as it is. -/
theorem reversal_elsewhere_unbalanced :
    ¬ ∀ (db : Db) (calls : List ReceiptCall), SucceedsOffStore db calls →
      ∀ locationId productId,
        (ReceiptCall.run db calls).onHand locationId productId - db.onHand locationId productId
          = unitsMoved .receive locationId productId db calls
            - unitsMoved .unreceive locationId productId db calls := by
  intro hall
  have h := hall twoShelves (receiveThenReverse 2) (by decide +kernel) 2 1
  revert h
  decide +kernel

/-- Four units taken back where they were received balance. -/
theorem reversal_in_place_balanced :
    (∀ locationId productId,
      (ReceiptCall.run twoShelves (receiveThenReverse 1)).onHand locationId productId
          - twoShelves.onHand locationId productId
        = unitsMoved .receive locationId productId twoShelves (receiveThenReverse 1)
          - unitsMoved .unreceive locationId productId twoShelves (receiveThenReverse 1)) ↔
      ReversalsFindLevels twoShelves (receiveThenReverse 1) :=
  ledger_iff (by decide +kernel)

end Restock
