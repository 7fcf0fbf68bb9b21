import Restock.Inventory.Rollup
import Restock.Sales.Buckets
import Restock.Store.Upsert

/-!
# The inventory sync

The Shopify sync stores the locations and levels the store reports, and rewrites the sellable
stock and the units on order of the products it saw. It sums the levels it was sent, where the
rollup sums the levels stored.

* `syncLocationsAndInventory` — the code;
* `Db.leftStock` — what a product has at locations that sell, in levels that were not sent;
* `syncLocationsAndInventory_agrees_iff` — the sync leaves what the rollup would write exactly
  when that is nothing for a product it saw, and the stock it had for one it did not see.
-/

namespace Restock

open Store
open Sales (numericCore truthy)

/-! ## What the store reports -/

/-- A quantity of a level, by its name. -/
structure ShopifyQuantity where
  name : String
  quantity : ℤ
  deriving DecidableEq, Repr

/-- A level of a location. -/
structure ShopifyInventoryLevelNode where
  /-- `item.variant.id`. -/
  variantId : Option String := none
  quantities : List ShopifyQuantity := []
  deriving DecidableEq, Repr

/-- A location with its levels. -/
structure ShopifyLocationNode where
  id : String
  name : Option String := none
  inventoryLevels : List ShopifyInventoryLevelNode := []
  deriving DecidableEq, Repr

/-- The quantity of a level under a name. -/
def ShopifyInventoryLevelNode.quantityOf (level : ShopifyInventoryLevelNode) (name : String) :
    Option ℤ :=
  (level.quantities.find? fun q => q.name = name).map ShopifyQuantity.quantity

/-! ## The sync -/

section Code

variable (productIdByVariantCore : String → Option ProductId)

/-- The product a level is held against: its variant's. -/
def ShopifyInventoryLevelNode.productId (level : ShopifyInventoryLevelNode) : Option ProductId :=
  (truthy level.variantId).bind fun gid => productIdByVariantCore (numericCore gid)

/-- The level as it is stored. -/
def ShopifyInventoryLevelNode.stored (level : ShopifyInventoryLevelNode)
    (locationId : LocationId) (productId : ProductId) : InventoryLevel where
  locationId
  productId
  onHand := (level.quantityOf "on_hand").getD 0
  available := level.quantityOf "available"
  incoming := (level.quantityOf "incoming").getD 0

/-- A stored level with the numbers of another one. -/
def InventoryLevel.withNumbers (stored next : InventoryLevel) : InventoryLevel :=
  { stored with onHand := next.onHand, available := next.available, incoming := next.incoming }

/-- What the sync has written and summed so far. -/
structure InventorySync where
  db : Db
  levels : ℕ := 0
  changed : ℕ := 0
  sellsByProduct : ProductId → ℤ := fun _ => 0
  enrouteByProduct : ProductId → ℤ := fun _ => 0
  incomingByProduct : ProductId → ℤ := fun _ => 0
  seenProducts : List ProductId := []

/-- `map.set(k, (map.get(k) ?? 0) + n)`. -/
def addAt (sums : ProductId → ℤ) (productId : ProductId) (n : ℤ) : ProductId → ℤ :=
  Function.update sums productId (sums productId + n)

/-- A generated id: no row has it or refers to it. -/
def Db.cuid (db : Db) : LocationId :=
  ((db.locations.rows.map Location.id
    ++ db.inventoryLevels.rows.map InventoryLevel.locationId).foldr max 0) + 1

/-- What the sync writes of a location: its name and, unless its role was confirmed, the role
its name suggests. -/
def Location.stamped (l : Location) (loc : ShopifyLocationNode) : Location :=
  let named := { l with name := loc.name.getD "(unnamed)" }
  if l.roleStatus = some "confirmed" then named
  else
    { named with
      locationType := some (typeOfRole (guessRoleFromName (loc.name.getD "")))
      roleStatus := some "assumed" }

/-- Upsert a location under its core. -/
def upsertLocation (db : Db) (loc : ShopifyLocationNode) : Location × Db :=
  match db.locations.rows.find? fun l => l.shopifyLocationId = some (numericCore loc.id) with
  | some existing =>
      (existing.stamped loc,
        { db with
          locations := db.locations.update (fun l => l.id = existing.id) (·.stamped loc) })
  | none =>
      let created : Location :=
        Location.stamped { id := db.cuid, shopifyLocationId := some (numericCore loc.id) } loc
      (created, { db with locations := db.locations.insert created })

/-- One level of a location: stored when it is new or moved, and summed by the location's
role. -/
def syncLevel (priorLevels : Table InventoryLevel) (row : Location) (s : InventorySync)
    (level : ShopifyInventoryLevelNode) : InventorySync :=
  match level.productId productIdByVariantCore with
  | none => s
  | some productId =>
      let next := level.stored row.id productId
      let moved := match priorLevels.find (row.id, productId) with
        | none => true
        | some prior =>
            prior.onHand ≠ next.onHand ∨ prior.available ≠ next.available ∨
              prior.incoming ≠ next.incoming
      let role := roleOf row
      { db :=
          if moved then
            { s.db with
              inventoryLevels := s.db.inventoryLevels.upsert next (·.withNumbers next) }
          else s.db
        levels := s.levels + 1
        changed := if moved then s.changed + 1 else s.changed
        sellsByProduct :=
          if role = .sells then addAt s.sellsByProduct productId (sellableUnits next)
          else s.sellsByProduct
        enrouteByProduct :=
          if role = .enroute then addAt s.enrouteByProduct productId next.onHand
          else s.enrouteByProduct
        incomingByProduct :=
          if role ≠ .ignore then addAt s.incomingByProduct productId next.incoming
          else s.incomingByProduct
        seenProducts :=
          if productId ∈ s.seenProducts then s.seenProducts else s.seenProducts ++ [productId] }

/-- One location with its levels. -/
def syncLocation (priorLevels : Table InventoryLevel) (s : InventorySync)
    (loc : ShopifyLocationNode) : InventorySync :=
  let (row, db) := upsertLocation s.db loc
  loc.inventoryLevels.foldl (syncLevel productIdByVariantCore priorLevels row) { s with db }

/-- A product seen: its stock and its units on order, written when they moved. -/
def writeStock (current : Table Product) (s : InventorySync) (db : Db) (productId : ProductId) :
    Db :=
  let nextStock : ℚ := s.sellsByProduct productId
  let nextOnOrder := s.enrouteByProduct productId + s.incomingByProduct productId
  if (current.find productId).any fun now =>
      now.currentStock = nextStock ∧ now.onOrder = nextOnOrder then db
  else
    { db with
      products := db.products.update (fun p => p.id = productId) fun p =>
        { p with currentStock := nextStock, onOrder := nextOnOrder } }

/-- What the sync reports. -/
structure SyncedInventory where
  locations : ℕ
  levels : ℕ
  changed : ℕ
  deriving DecidableEq, Repr

/-- Upsert locations and per-location levels, then roll them up by role. -/
def syncLocationsAndInventory (db : Db) (locations : List ShopifyLocationNode) :
    SyncedInventory × Db :=
  let priorLevels := db.inventoryLevels
  let s := locations.foldl (syncLocation productIdByVariantCore priorLevels) { db }
  let current := s.db.products
  ({ locations := locations.length, levels := s.levels, changed := s.changed },
    s.seenProducts.foldl (writeStock current s) s.db)

end Code

/-! ## What was not sent -/

section Left

variable {productIdByVariantCore : String → Option ProductId} {locations : List ShopifyLocationNode}
  {loc : ShopifyLocationNode} {productId : ProductId}

variable (productIdByVariantCore) in
/-- The products of the levels of a location, level by level. -/
def ShopifyLocationNode.productIds (loc : ShopifyLocationNode) : List ProductId :=
  loc.inventoryLevels.filterMap (·.productId productIdByVariantCore)

variable (productIdByVariantCore locations productId) in
/-- A level of the product was sent for the location. -/
def Location.Sent (l : Location) : Prop :=
  ∃ loc ∈ locations, l.shopifyLocationId = some (numericCore loc.id) ∧
    productId ∈ loc.productIds productIdByVariantCore

instance (l : Location) : Decidable (l.Sent productIdByVariantCore locations productId) :=
  inferInstanceAs (Decidable (∃ _ ∈ _, _))

variable (locations) in
/-- The location after the sync: with the name and role it was sent under. -/
def Location.synced (l : Location) : Location :=
  match locations.find? fun loc => l.shopifyLocationId = some (numericCore loc.id) with
  | some loc => l.stamped loc
  | none => l

variable (productIdByVariantCore locations productId) in
/-- The units of the product that a stored level keeps at a location that sells after the sync,
when no level of it was sent for the location. -/
def leftAt (stored : Table Location) (level : InventoryLevel) : ℤ :=
  if level.productId = productId then
    match stored.find level.locationId with
    | some l =>
        if ¬ l.Sent productIdByVariantCore locations productId ∧
            isSellable (l.synced locations) then
          sellableUnits level
        else 0
    | none => 0
  else 0

variable (productIdByVariantCore locations productId) in
/-- What a product has at locations that sell after the sync, in levels that were not sent. -/
def Db.leftStock (db : Db) : ℤ :=
  (db.inventoryLevels.rows.map (leftAt productIdByVariantCore locations productId db.locations)).sum

/-- When nothing is sent, all stock is left. -/
theorem leftStock_nil (db : Db) :
    db.leftStock productIdByVariantCore [] productId = db.sellableStock productId := by
  rw [Db.leftStock, Db.sellableStock]
  induction db.inventoryLevels.rows with
  | nil => rfl
  | cons level levels ih =>
      rw [List.map_cons, List.sum_cons, ih]
      by_cases hproduct : level.productId = productId
      · rw [List.filter_cons_of_pos (by simpa using hproduct), List.map_cons, List.sum_cons, leftAt,
          if_pos hproduct, Db.sellableAt]
        cases db.locations.find level.locationId with
        | none => rfl
        | some l => simp [Location.Sent, Location.synced]
      · rw [List.filter_cons_of_neg (by simpa using hproduct), leftAt, if_neg hproduct, zero_add]

/-- A stamp keeps the id of a location. -/
@[simp] theorem stamped_id (l : Location) : (l.stamped loc).id = l.id := by
  unfold Location.stamped
  split <;> rfl

/-- A stamp keeps the core a location is found under. -/
@[simp] theorem stamped_shopifyLocationId (l : Location) :
    (l.stamped loc).shopifyLocationId = l.shopifyLocationId := by
  unfold Location.stamped
  split <;> rfl

/-- A generated id is no row's. -/
theorem lt_cuid (db : Db) {id : LocationId}
    (h : id ∈ db.locations.rows.map Location.id
      ++ db.inventoryLevels.rows.map InventoryLevel.locationId) : id < db.cuid := by
  unfold Db.cuid
  generalize db.locations.rows.map Location.id
    ++ db.inventoryLevels.rows.map InventoryLevel.locationId = ids at h ⊢
  induction ids with
  | nil => cases h
  | cons first ids ih =>
      rw [List.foldr_cons]
      rcases List.mem_cons.mp h with rfl | h
      · exact Nat.lt_succ_of_le (le_max_left _ _)
      · exact (ih h).trans_le (Nat.succ_le_succ (le_max_right _ _))

/-- No location is stored under a generated id. -/
theorem find_cuid (db : Db) : db.locations.find db.cuid = none := by
  refine Table.find_eq_none.mpr fun l hl hid => ?_
  have hlt := lt_cuid db (List.mem_append_left _ (List.mem_map_of_mem hl))
  exact (ne_of_lt hlt) hid

end Left

/-! ## Locations -/

section Upserted

variable {db : Db} {loc : ShopifyLocationNode}

/-- `@@unique([tenantId, shopifyLocationId])`. -/
def Db.UniqueCores (db : Db) : Prop :=
  ∀ l ∈ db.locations.rows, ∀ l' ∈ db.locations.rows, ∀ core,
    l.shopifyLocationId = some core → l'.shopifyLocationId = some core → l = l'

variable (db loc) in
/-- What an upsert of a location leaves: the row under the location's core, which was there
before with other values or is under a new id. -/
structure UpsertedLocation (row : Location) (next : Db) : Prop where
  core : row.shopifyLocationId = some (numericCore loc.id)
  inventoryLevels : next.inventoryLevels = db.inventoryLevels
  products : next.products = db.products
  find : ∀ id, next.locations.find id = if id = row.id then some row else db.locations.find id
  /-- No other location has the core. -/
  others : ∀ l ∈ db.locations.rows, l.shopifyLocationId = some (numericCore loc.id) →
    l.id = row.id
  before : (∃ l, db.locations.find row.id = some l ∧
      l.shopifyLocationId = some (numericCore loc.id) ∧ row = l.stamped loc) ∨
    (db.locations.find row.id = none ∧
      ∀ level ∈ db.inventoryLevels.rows, level.locationId ≠ row.id)

/-- An upsert of a location does that. -/
theorem upsertedLocation (hunique : db.UniqueCores) :
    UpsertedLocation db loc (upsertLocation db loc).1 (upsertLocation db loc).2 := by
  unfold upsertLocation
  cases hfind : db.locations.rows.find? fun l =>
      l.shopifyLocationId = some (numericCore loc.id) with
  | some existing =>
      have hmem := List.mem_of_find?_eq_some hfind
      have hcore : existing.shopifyLocationId = some (numericCore loc.id) := by
        simpa using List.find?_some hfind
      have hstored : db.locations.find existing.id = some existing := Table.find_key hmem
      refine ⟨by simpa using hcore, rfl, rfl, ?_, ?_, Or.inl ⟨existing, ?_, hcore, rfl⟩⟩
      · intro id
        dsimp only
        have hkeep : ∀ l : Location, Keyed.key (l.stamped loc) = Keyed.key l := stamped_id
        have hkey : ∀ l : Location, decide (l.id = existing.id) ↔ Keyed.key l = existing.id :=
          fun _ => decide_eq_true_iff
        rw [Table.find_update_key _ hkeep hkey, stamped_id]
        by_cases hid : id = existing.id
        · rw [if_pos hid, if_pos hid, hid, hstored]
          rfl
        · rw [if_neg hid, if_neg hid]
      · intro l hl hl'
        rw [hunique l hl existing hmem _ hl' hcore, stamped_id]
      · rw [stamped_id]
        exact hstored
  | none =>
      have hnone := List.find?_eq_none.mp hfind
      have hfresh := find_cuid db
      refine ⟨by simp, rfl, rfl, ?_, ?_, Or.inr ⟨by simpa using hfresh, ?_⟩⟩
      · intro id
        dsimp only
        rw [Table.find_insert (by simpa using hfresh)]
        simp only [key_location, eq_comm]
      · intro l hl hl'
        exact absurd hl' (by simpa using hnone l hl)
      · intro level hlevel hid
        have hlt := lt_cuid db (List.mem_append_right _ (List.mem_map_of_mem hlevel))
        rw [hid, stamped_id] at hlt
        exact lt_irrefl _ hlt

end Upserted

/-! ## Levels -/

section Levels

variable {productIdByVariantCore : String → Option ProductId} {prior : Table InventoryLevel}
  {row : Location} {s : InventorySync} {level : ShopifyInventoryLevelNode}
  {productId : ProductId}

/-- What a level of no product changes: nothing. -/
theorem syncLevel_of_none (h : level.productId productIdByVariantCore = none) :
    syncLevel productIdByVariantCore prior row s level = s := by
  unfold syncLevel
  rw [h]

/-- A level under the key of another one takes its numbers and is the other one. -/
theorem withNumbers_of_key {stored next : InventoryLevel}
    (h : Keyed.key stored = Keyed.key next) : stored.withNumbers next = next := by
  obtain ⟨hlocation, hproduct⟩ := Prod.mk.inj h
  simp only [InventoryLevel.withNumbers, hlocation, hproduct]

/-- A level is stored, also when the sync skips the write of one that did not move. -/
theorem db_syncLevel (h : level.productId productIdByVariantCore = some productId)
    (hprior : prior.find (row.id, productId) = s.db.inventoryLevels.find (row.id, productId)) :
    (syncLevel productIdByVariantCore prior row s level).db
      = { s.db with
          inventoryLevels := s.db.inventoryLevels.upsert (level.stored row.id productId)
            (·.withNumbers (level.stored row.id productId)) } := by
  unfold syncLevel
  rw [h]
  dsimp only
  cases hfind : prior.find (row.id, productId) with
  | none => rfl
  | some old =>
      dsimp only
      split
      case isTrue => rfl
      case isFalse hmoved =>
          -- the level is there with the same numbers
          simp only [decide_eq_true_eq, not_or, not_not] at hmoved
          obtain ⟨honHand, havailable, hincoming⟩ := hmoved
          have hkey : Keyed.key old = Keyed.key (level.stored row.id productId) :=
            (Table.find_eq_some.mp hfind).2
          have hsame : old = level.stored row.id productId := by
            rw [← withNumbers_of_key hkey, InventoryLevel.withNumbers, ← honHand, ← havailable,
              ← hincoming]
          have hstored : s.db.inventoryLevels.find (Keyed.key (level.stored row.id productId))
              = some (level.stored row.id productId) :=
            hprior.symm.trans (hfind.trans (congrArg some hsame))
          rw [Table.upsert_eq_self (fun _ => withNumbers_of_key) hstored]

variable (prior row s) in
/-- The sums and the products seen after a level. -/
theorem sums_syncLevel (h : level.productId productIdByVariantCore = some productId) :
    (syncLevel productIdByVariantCore prior row s level).sellsByProduct
        = (if roleOf row = .sells then
            addAt s.sellsByProduct productId (sellableUnits (level.stored row.id productId))
          else s.sellsByProduct) ∧
      ∀ id, id ∈ (syncLevel productIdByVariantCore prior row s level).seenProducts ↔
        id ∈ s.seenProducts ∨ id = productId := by
  unfold syncLevel
  rw [h]
  refine ⟨rfl, fun id => ?_⟩
  dsimp only
  split
  case isTrue hseen =>
      constructor
      · exact Or.inl
      · rintro (hid | rfl)
        · exact hid
        · exact hseen
  case isFalse => rw [List.mem_append, List.mem_singleton]

/-- Looking a level up after a level. -/
theorem find_syncLevel (h : level.productId productIdByVariantCore = some productId)
    (hprior : prior.find (row.id, productId) = s.db.inventoryLevels.find (row.id, productId))
    (key : LocationId × ProductId) :
    (syncLevel productIdByVariantCore prior row s level).db.inventoryLevels.find key
      = if (row.id, productId) = key then some (level.stored row.id productId)
        else s.db.inventoryLevels.find key := by
  rw [db_syncLevel h hprior]
  exact Table.find_upsert _ (fun _ => withNumbers_of_key) key

variable (row productId) in
/-- A weight of levels that counts the levels of the product only, and those that are sent for
the location as the sync sums them. -/
structure Weighs (weight : InventoryLevel → ℤ) : Prop where
  others : ∀ stored : InventoryLevel, stored.productId ≠ productId → weight stored = 0
  sent : ∀ level : ShopifyInventoryLevelNode, weight (level.stored row.id productId)
    = if roleOf row = .sells then sellableUnits (level.stored row.id productId) else 0

/-- What the stored levels come to, less what the sync has summed, drops by the level of the
product that a level replaces. -/
theorem weight_syncLevel {weight : InventoryLevel → ℤ} {id : ProductId}
    (hweight : Weighs row productId weight) (h : level.productId productIdByVariantCore = some id)
    (hprior : prior.find (row.id, id) = s.db.inventoryLevels.find (row.id, id)) :
    ((syncLevel productIdByVariantCore prior row s level).db.inventoryLevels.rows.map weight).sum
        - (syncLevel productIdByVariantCore prior row s level).sellsByProduct productId
      = (s.db.inventoryLevels.rows.map weight).sum - s.sellsByProduct productId
        - if id = productId then
            ((s.db.inventoryLevels.find (row.id, productId)).map weight).getD 0
          else 0 := by
  have hsum : ((syncLevel productIdByVariantCore prior row s
        level).db.inventoryLevels.rows.map weight).sum
      = (s.db.inventoryLevels.rows.map weight).sum
        - ((s.db.inventoryLevels.find (row.id, id)).map weight).getD 0
        + weight (level.stored row.id id) := by
    rw [db_syncLevel h hprior]
    exact Table.sum_upsert _ (fun _ => withNumbers_of_key) weight
  rw [hsum, (sums_syncLevel _ _ _ h).1]
  by_cases hid : id = productId
  · subst hid
    rw [if_pos rfl, hweight.sent level]
    by_cases hsells : roleOf row = .sells
    · rw [if_pos hsells, if_pos hsells, addAt, Function.update_self]
      ring
    · rw [if_neg hsells, if_neg hsells]
      ring
  · -- a level of another product weighs nothing and is summed elsewhere
    have hold : ((s.db.inventoryLevels.find (row.id, id)).map weight).getD 0 = 0 := by
      cases hfind : s.db.inventoryLevels.find (row.id, id) with
      | none => rfl
      | some old =>
          have hproduct : old.productId = id :=
            (Prod.mk.inj (Table.find_eq_some.mp hfind).2).2
          exact hweight.others old (hproduct ▸ hid)
    have hsums : (if roleOf row = .sells then
          addAt s.sellsByProduct id (sellableUnits (level.stored row.id id))
        else s.sellsByProduct) productId = s.sellsByProduct productId := by
      split
      · exact Function.update_of_ne (Ne.symm hid) _ _
      · rfl
    rw [hold, hweight.others _ hid, hsums, if_neg hid]
    ring

/-- What the levels of a location leave elsewhere: the locations, the products, the levels of
other locations and of products that are not among them, and no level is lost. -/
structure LevelsSynced (row : Location) (productIds : List ProductId) (s t : InventorySync) :
    Prop where
  locations : t.db.locations = s.db.locations
  products : t.db.products = s.db.products
  other : ∀ key : LocationId × ProductId, (key.1 = row.id → key.2 ∉ productIds) →
    t.db.inventoryLevels.find key = s.db.inventoryLevels.find key
  kept : ∀ key, t.db.inventoryLevels.find key = none → s.db.inventoryLevels.find key = none
  seen : ∀ id, id ∈ t.seenProducts ↔ id ∈ s.seenProducts ∨ id ∈ productIds

/-- The levels of a location, one after the other: of the product, only one is sent. -/
theorem foldl_syncLevel {levels : List ShopifyInventoryLevelNode} {weight : InventoryLevel → ℤ}
    (hweight : Weighs row productId weight)
    (hdistinct : (levels.filterMap (·.productId productIdByVariantCore)).Nodup)
    (hprior : ∀ id ∈ levels.filterMap (·.productId productIdByVariantCore),
      prior.find (row.id, id) = s.db.inventoryLevels.find (row.id, id)) :
    let t := levels.foldl (syncLevel productIdByVariantCore prior row) s
    LevelsSynced row (levels.filterMap (·.productId productIdByVariantCore)) s t ∧
      (t.db.inventoryLevels.rows.map weight).sum - t.sellsByProduct productId
        = (s.db.inventoryLevels.rows.map weight).sum - s.sellsByProduct productId
          - if productId ∈ levels.filterMap (·.productId productIdByVariantCore) then
              ((s.db.inventoryLevels.find (row.id, productId)).map weight).getD 0 else 0 := by
  induction levels generalizing s with
  | nil => exact ⟨⟨rfl, rfl, fun _ _ => rfl, fun _ h => h, by simp⟩, by simp⟩
  | cons level levels ih =>
      dsimp only
      rw [List.foldl_cons]
      cases hlevel : level.productId productIdByVariantCore with
      | none =>
          rw [List.filterMap_cons_none hlevel] at hdistinct hprior ⊢
          rw [syncLevel_of_none hlevel]
          exact ih hdistinct hprior
      | some id =>
          rw [List.filterMap_cons_some hlevel] at hdistinct hprior ⊢
          -- the report has the product once, so what the rest writes is of other keys
          obtain ⟨hnew, hdistinct⟩ := List.nodup_cons.mp hdistinct
          have hfirst := hprior id List.mem_cons_self
          have hfind := find_syncLevel hlevel hfirst
          have hrest : ∀ id' ∈ levels.filterMap (·.productId productIdByVariantCore),
              (row.id, id) ≠ (row.id, id') := fun id' hid' heq =>
            hnew ((Prod.mk.inj heq).2 ▸ hid')
          obtain ⟨hsynced, hsum⟩ := ih hdistinct fun id' hid' => by
            rw [hfind, if_neg (hrest id' hid')]
            exact hprior id' (List.mem_cons_of_mem _ hid')
          refine ⟨⟨?_, ?_, ?_, ?_, ?_⟩, ?_⟩
          · rw [hsynced.locations, db_syncLevel hlevel hfirst]
          · rw [hsynced.products, db_syncLevel hlevel hfirst]
          · intro key hkey
            have hne : (row.id, id) ≠ key := by
              rintro rfl
              exact hkey rfl List.mem_cons_self
            rw [hsynced.other key fun hid hmem => hkey hid (List.mem_cons_of_mem _ hmem), hfind,
              if_neg hne]
          · intro key hkey
            have hnext := hsynced.kept key hkey
            rw [hfind] at hnext
            split at hnext
            · cases hnext
            · exact hnext
          · intro id'
            rw [hsynced.seen, (sums_syncLevel _ _ _ hlevel).2, List.mem_cons, or_assoc]
          · -- the sum moves by the level of the product, here or in the rest
            rw [hsum, weight_syncLevel hweight hlevel hfirst]
            by_cases hid : id = productId
            · subst hid
              rw [if_pos rfl, if_neg hnew, if_pos List.mem_cons_self]
              ring
            · by_cases hmem : productId ∈ levels.filterMap (·.productId productIdByVariantCore)
              · rw [if_neg hid, if_pos hmem, if_pos (List.mem_cons_of_mem _ hmem), hfind,
                  if_neg (hrest productId hmem)]
                ring
              · have hnot : productId ∉ id :: levels.filterMap
                    (·.productId productIdByVariantCore) := by
                  rw [List.mem_cons, not_or]
                  exact ⟨Ne.symm hid, hmem⟩
                rw [if_neg hid, if_neg hmem, if_neg hnot]
                ring

end Levels

/-! ## One location -/

section OneLocation

variable {productIdByVariantCore : String → Option ProductId} {prior : Table InventoryLevel}
  {db next : Db} {row : Location} {s : InventorySync} {loc : ShopifyLocationNode}
  {rest : List ShopifyLocationNode} {productId : ProductId}

variable (productIdByVariantCore productId) in
/-- The location of a step is not sent again. -/
theorem not_sent_of_notMem {l : Location} (hcore : l.shopifyLocationId = some (numericCore loc.id))
    (hrest : numericCore loc.id ∉ rest.map fun other => numericCore other.id) :
    ¬ l.Sent productIdByVariantCore rest productId ∧ l.synced rest = l := by
  have hno : ∀ other ∈ rest, l.shopifyLocationId ≠ some (numericCore other.id) := by
    intro other hother heq
    refine hrest (List.mem_map.mpr ⟨other, hother, ?_⟩)
    exact Option.some.inj (heq.symm.trans hcore)
  constructor
  · rintro ⟨other, hother, heq, _⟩
    exact hno other hother heq
  · have hnone : (rest.find? fun other => l.shopifyLocationId = some (numericCore other.id))
        = none := List.find?_eq_none.mpr fun other hother => by simpa using hno other hother
    rw [Location.synced, hnone]

variable (productIdByVariantCore productId) in
/-- Another location is sent and synced as if the location of a step were not sent. -/
theorem sent_cons_of_ne {l : Location} (hcore : l.shopifyLocationId ≠ some (numericCore loc.id)) :
    (l.Sent productIdByVariantCore (loc :: rest) productId ↔
        l.Sent productIdByVariantCore rest productId) ∧
      l.synced (loc :: rest) = l.synced rest := by
  constructor
  · simp only [Location.Sent, List.exists_mem_cons_iff]
    exact or_iff_right fun h => hcore h.1
  · rw [Location.synced, List.find?_cons_of_neg (by simpa using hcore), ← Location.synced]

/-- The weight of a stored level after the location of a step is written: it is what is left
before the step, or it is the level that the step replaces. -/
theorem leftAt_step (hnext : UpsertedLocation db loc row next)
    (hrest : numericCore loc.id ∉ rest.map fun other => numericCore other.id)
    {level : InventoryLevel} (hlevel : level ∈ db.inventoryLevels.rows) :
    leftAt productIdByVariantCore rest productId next.locations level
      = leftAt productIdByVariantCore (loc :: rest) productId db.locations level
        + if Keyed.key level = (row.id, productId) then
            if productId ∈ loc.productIds productIdByVariantCore then
              leftAt productIdByVariantCore rest productId next.locations level
            else 0
          else 0 := by
  by_cases hproduct : level.productId = productId
  swap
  · have hkey : Keyed.key level ≠ (row.id, productId) := fun heq =>
      hproduct (Prod.mk.inj heq).2
    rw [if_neg hkey, leftAt, leftAt, if_neg hproduct, if_neg hproduct, add_zero]
  by_cases hlocation : level.locationId = row.id
  · have hkey : Keyed.key level = (row.id, productId) := by
      rw [key_level, hlocation, hproduct]
    rw [if_pos hkey]
    rcases hnext.before with ⟨l, hl, hcore, hrow⟩ | ⟨_, hnone⟩
    swap
    · exact absurd hlocation (hnone level hlevel)
    -- before the step the level is left unless it is replaced, at the role it is synced to
    have hbefore : leftAt productIdByVariantCore (loc :: rest) productId db.locations level
        = if productId ∉ loc.productIds productIdByVariantCore ∧ isSellable row then
            sellableUnits level else 0 := by
      have hsent : l.Sent productIdByVariantCore (loc :: rest) productId ↔
          productId ∈ loc.productIds productIdByVariantCore := by
        simp only [Location.Sent, List.exists_mem_cons_iff, hcore, true_and]
        refine or_iff_left fun h =>
          (not_sent_of_notMem productIdByVariantCore productId hcore hrest).1 ?_
        simpa only [Location.Sent, hcore] using h
      have hsynced : l.synced (loc :: rest) = row := by
        rw [Location.synced, List.find?_cons_of_pos (by simpa using hcore), hrow]
      rw [leftAt, if_pos hproduct, hlocation, hl]
      simp only [hsent, hsynced]
    have hafter : leftAt productIdByVariantCore rest productId next.locations level
        = if isSellable row then sellableUnits level else 0 := by
      obtain ⟨hnot, hsynced⟩ :=
        not_sent_of_notMem productIdByVariantCore productId hnext.core hrest
      rw [leftAt, if_pos hproduct, hlocation, hnext.find, if_pos rfl]
      simp only [hnot, hsynced, not_false_iff, true_and]
    rw [hbefore, hafter]
    by_cases hmem : productId ∈ loc.productIds productIdByVariantCore
    · simp [hmem]
    · simp [hmem]
  · have hkey : Keyed.key level ≠ (row.id, productId) := fun heq =>
      hlocation (Prod.mk.inj heq).1
    rw [if_neg hkey, add_zero, leftAt, leftAt, if_pos hproduct, if_pos hproduct, hnext.find,
      if_neg hlocation]
    cases hl : db.locations.find level.locationId with
    | none => rfl
    | some l =>
        obtain ⟨hmem, hid⟩ := Table.find_eq_some.mp hl
        have hcore : l.shopifyLocationId ≠ some (numericCore loc.id) := fun hcore =>
          hlocation (hid.symm.trans (hnext.others l hmem hcore))
        obtain ⟨hsent, hsynced⟩ : _ ∧ l.synced (loc :: rest) = l.synced rest :=
          sent_cons_of_ne productIdByVariantCore productId hcore
        simp only [hsent, hsynced]

variable (productIdByVariantCore productId) in
/-- A location that is written weighs the levels as the sync sums them. -/
theorem weighs_leftAt (hnext : UpsertedLocation db loc row next)
    (hrest : numericCore loc.id ∉ rest.map fun other => numericCore other.id) :
    Weighs row productId (leftAt productIdByVariantCore rest productId next.locations) := by
  constructor
  · intro stored hproduct
    rw [leftAt, if_neg hproduct]
  · intro level
    obtain ⟨hnot, hsynced⟩ :=
      not_sent_of_notMem productIdByVariantCore productId hnext.core hrest
    have hfind : next.locations.find (level.stored row.id productId).locationId = some row :=
      (hnext.find row.id).trans (if_pos rfl)
    have hproduct : (level.stored row.id productId).productId = productId := rfl
    rw [leftAt, if_pos hproduct, hfind]
    simp only [hnot, hsynced, not_false_iff, true_and, isSellable, decide_eq_true_eq]

variable (productIdByVariantCore productId) in
/-- What is left once the location of a step is written, and the level of it that is sent is
replaced. -/
theorem sum_leftAt_step (hnext : UpsertedLocation db loc row next)
    (hrest : numericCore loc.id ∉ rest.map fun other => numericCore other.id) :
    (db.inventoryLevels.rows.map
        (leftAt productIdByVariantCore rest productId next.locations)).sum
      = db.leftStock productIdByVariantCore (loc :: rest) productId
        + if productId ∈ loc.productIds productIdByVariantCore then
            ((db.inventoryLevels.find (row.id, productId)).map
              (leftAt productIdByVariantCore rest productId next.locations)).getD 0
          else 0 := by
  rw [List.map_congr_left fun level hlevel => leftAt_step hnext hrest hlevel, List.sum_map_add,
    Db.leftStock, Table.sum_key db.inventoryLevels (row.id, productId)]
  congr 1
  by_cases hmem : productId ∈ loc.productIds productIdByVariantCore
  · simp only [if_pos hmem]
  · simp only [if_neg hmem]
    cases db.inventoryLevels.find (row.id, productId) <;> rfl

/-- Before the locations to come, no level of theirs has moved away from what the sync read at
first. -/
structure Unread (prior : Table InventoryLevel) (rest : List ShopifyLocationNode)
    (s : InventorySync) : Prop where
  uniqueCores : s.db.UniqueCores
  same : ∀ l ∈ s.db.locations.rows, ∀ loc ∈ rest,
    l.shopifyLocationId = some (numericCore loc.id) → ∀ id,
      prior.find (l.id, id) = s.db.inventoryLevels.find (l.id, id)
  known : ∀ key, s.db.inventoryLevels.find key = none → prior.find key = none

/-- The levels of the location that is written are as the sync read them at first. -/
theorem Unread.prior_row (h : Unread prior (loc :: rest) s)
    (hnext : UpsertedLocation s.db loc row next) (id : ProductId) :
    prior.find (row.id, id) = next.inventoryLevels.find (row.id, id) := by
  rw [hnext.inventoryLevels]
  rcases hnext.before with ⟨l, hl, hcore, _⟩ | ⟨_, hnone⟩
  · obtain ⟨hmem, hid⟩ := Table.find_eq_some.mp hl
    have hprior := h.same l hmem loc List.mem_cons_self hcore id
    rwa [show l.id = row.id from hid] at hprior
  · have hnew : s.db.inventoryLevels.find (row.id, id) = none :=
      Table.find_eq_none.mpr fun level hlevel hkey =>
        hnone level hlevel (Prod.mk.inj hkey).1
    rw [hnew, h.known _ hnew]

/-- A location is the one that is written, or it was there before. -/
theorem UpsertedLocation.mem_cases (hnext : UpsertedLocation db loc row next) {l : Location}
    (h : l ∈ next.locations.rows) : l = row ∨ l ∈ db.locations.rows ∧ l.id ≠ row.id := by
  have hfind := (Table.find_key h).symm.trans (hnext.find l.id)
  by_cases hid : l.id = row.id
  · rw [if_pos hid] at hfind
    exact Or.inl (Option.some.inj hfind)
  · rw [if_neg hid] at hfind
    exact Or.inr ⟨(Table.find_eq_some.mp hfind.symm).1, hid⟩

/-- Cores stay unique. -/
theorem UpsertedLocation.uniqueCores (hnext : UpsertedLocation db loc row next)
    (h : db.UniqueCores) : next.UniqueCores := by
  have hown : ∀ l ∈ db.locations.rows, l.id ≠ row.id → ∀ core,
      l.shopifyLocationId = some core → row.shopifyLocationId ≠ some core := by
    intro l hl hid core hcore hrow
    rw [hnext.core] at hrow
    exact hid (hnext.others l hl (hcore.trans hrow.symm))
  intro l hl l' hl' core hcore hcore'
  rcases hnext.mem_cases hl with rfl | ⟨hmem, hid⟩
  · rcases hnext.mem_cases hl' with rfl | ⟨hmem', hid'⟩
    · rfl
    · exact absurd hcore (hown l' hmem' hid' core hcore')
  · rcases hnext.mem_cases hl' with rfl | ⟨hmem', hid'⟩
    · exact absurd hcore' (hown l hmem hid core hcore)
    · exact h l hmem l' hmem' core hcore hcore'

/-- One location with its levels: what is left of the product, less what the sync has summed, is
the same before and after. -/
theorem syncLocation_step (h : Unread prior (loc :: rest) s)
    (hrest : numericCore loc.id ∉ rest.map fun other => numericCore other.id)
    (hdistinct : (loc.productIds productIdByVariantCore).Nodup) (productId : ProductId) :
    let t := syncLocation productIdByVariantCore prior s loc
    Unread prior rest t ∧ t.db.products = s.db.products ∧
      (∀ id, id ∈ t.seenProducts ↔
        id ∈ s.seenProducts ∨ id ∈ loc.productIds productIdByVariantCore) ∧
      t.db.leftStock productIdByVariantCore rest productId - t.sellsByProduct productId
        = s.db.leftStock productIdByVariantCore (loc :: rest) productId
          - s.sellsByProduct productId := by
  have hnext : UpsertedLocation s.db loc (upsertLocation s.db loc).1
      (upsertLocation s.db loc).2 := upsertedLocation h.uniqueCores
  unfold syncLocation
  dsimp only
  generalize (upsertLocation s.db loc).1 = row at hnext ⊢
  generalize (upsertLocation s.db loc).2 = next at hnext ⊢
  obtain ⟨hsynced, hsum⟩ := foldl_syncLevel (s := { s with db := next })
    (weighs_leftAt productIdByVariantCore productId hnext hrest) hdistinct fun id _ =>
      h.prior_row hnext id
  generalize loc.inventoryLevels.foldl (syncLevel productIdByVariantCore prior row)
    { s with db := next } = t at hsynced hsum ⊢
  refine ⟨⟨?_, ?_, ?_⟩, hsynced.products.trans hnext.products, hsynced.seen, ?_⟩
  · rw [Db.UniqueCores, hsynced.locations]
    exact hnext.uniqueCores h.uniqueCores
  · -- locations that are still to come have another core, so their levels are as before
    intro l hl other hother hcore id
    rw [hsynced.locations] at hl
    have hcores : row.shopifyLocationId ≠ some (numericCore other.id) := by
      intro hrow
      rw [hnext.core] at hrow
      exact hrest (List.mem_map.mpr ⟨other, hother, (Option.some.inj hrow).symm⟩)
    rcases hnext.mem_cases hl with rfl | ⟨hmem, hid⟩
    · exact absurd hcore hcores
    · rw [hsynced.other (l.id, id) fun heq => absurd heq hid]
      exact (h.same l hmem other (List.mem_cons_of_mem _ hother) hcore id).trans
        (by rw [hnext.inventoryLevels])
  · intro key hkey
    have hbefore := hsynced.kept key hkey
    dsimp only at hbefore
    rw [hnext.inventoryLevels] at hbefore
    exact h.known key hbefore
  · have hstart := sum_leftAt_step productIdByVariantCore productId hnext hrest
    rw [Db.leftStock, hsynced.locations, hsum]
    dsimp only
    rw [hnext.inventoryLevels, hstart]
    change _ + _ - _ - (if productId ∈ loc.productIds productIdByVariantCore then _ else _) = _
    ring

end OneLocation

/-! ## The whole sync -/

section Sync

variable {productIdByVariantCore : String → Option ProductId} {prior : Table InventoryLevel}
  {db : Db} {s : InventorySync} {locations : List ShopifyLocationNode} {productId : ProductId}

variable (productIdByVariantCore locations) in
/-- What the store reports: every location once, and at a location every variant once. A variant
is one product. -/
structure Reported : Prop where
  cores : (locations.map fun loc => numericCore loc.id).Nodup
  variants : ∀ loc ∈ locations, (loc.inventoryLevels.filterMap fun level =>
    (truthy level.variantId).map numericCore).Nodup
  products : ∀ core core' id, productIdByVariantCore core = some id →
    productIdByVariantCore core' = some id → core = core'

variable (productIdByVariantCore locations) in
/-- A level of the product was reported somewhere. -/
def Seen (productId : ProductId) : Prop :=
  ∃ loc ∈ locations, productId ∈ loc.productIds productIdByVariantCore

instance : Decidable (Seen productIdByVariantCore locations productId) :=
  inferInstanceAs (Decidable (∃ _ ∈ _, _))

/-- A location reports every product once. -/
theorem Reported.nodup_productIds (h : Reported productIdByVariantCore locations)
    {loc : ShopifyLocationNode} (hloc : loc ∈ locations) :
    (loc.productIds productIdByVariantCore).Nodup := by
  have hproducts : loc.productIds productIdByVariantCore
      = (loc.inventoryLevels.filterMap fun level =>
          (truthy level.variantId).map numericCore).filterMap productIdByVariantCore := by
    rw [ShopifyLocationNode.productIds, List.filterMap_filterMap]
    refine List.filterMap_congr fun level _ => ?_
    rw [ShopifyInventoryLevelNode.productId]
    cases truthy level.variantId <;> rfl
  rw [hproducts]
  exact (h.variants loc hloc).filterMap fun core core' id hid hid' =>
    h.products core core' id hid hid'

/-- What is left of a product, less what the sync has summed, is the same through all
locations. -/
theorem foldl_syncLocation (h : Unread prior locations s)
    (hcores : (locations.map fun loc => numericCore loc.id).Nodup)
    (hproducts : ∀ loc ∈ locations, (loc.productIds productIdByVariantCore).Nodup) :
    let t := locations.foldl (syncLocation productIdByVariantCore prior) s
    t.db.products = s.db.products ∧
      (∀ id, id ∈ t.seenProducts ↔
        id ∈ s.seenProducts ∨ Seen productIdByVariantCore locations id) ∧
      ∀ id, t.db.sellableStock id - t.sellsByProduct id
        = s.db.leftStock productIdByVariantCore locations id - s.sellsByProduct id := by
  induction locations generalizing s with
  | nil => exact ⟨rfl, by simp [Seen], fun id => by rw [leftStock_nil]; rfl⟩
  | cons loc rest ih =>
      obtain ⟨hrest, hcores⟩ := List.nodup_cons.mp hcores
      have hdistinct := hproducts loc List.mem_cons_self
      obtain ⟨hunread, hsame, hseen, _⟩ := syncLocation_step h hrest hdistinct 0
      obtain ⟨hsame', hseen', hleft'⟩ := ih hunread hcores fun other hother =>
        hproducts other (List.mem_cons_of_mem _ hother)
      refine ⟨hsame'.trans hsame, fun id => ?_, fun id => ?_⟩
      · rw [List.foldl_cons, hseen', hseen, or_assoc]
        simp only [Seen, List.exists_mem_cons_iff]
      · rw [List.foldl_cons, hleft']
        exact (syncLocation_step h hrest hdistinct id).2.2.2

/-- The sync has summed nothing for a product it has not seen. -/
def Quiet (s : InventorySync) : Prop :=
  ∀ id ∉ s.seenProducts, s.sellsByProduct id = 0

/-- A level keeps it so. -/
theorem quiet_syncLevel {row : Location} (h : Quiet s) (level : ShopifyInventoryLevelNode) :
    Quiet (syncLevel productIdByVariantCore prior row s level) := by
  cases hlevel : level.productId productIdByVariantCore with
  | none => rwa [syncLevel_of_none hlevel]
  | some productId =>
      obtain ⟨hsells, hseen⟩ := sums_syncLevel prior row s hlevel
      intro id hid
      rw [hseen, not_or] at hid
      rw [hsells]
      split
      · rw [addAt, Function.update_of_ne hid.2]
        exact h id hid.1
      · exact h id hid.1

variable (productIdByVariantCore prior) in
/-- So do all locations. -/
theorem quiet_foldl_syncLocation (h : Quiet s) (locations : List ShopifyLocationNode) :
    Quiet (locations.foldl (syncLocation productIdByVariantCore prior) s) := by
  refine List.foldlRecOn locations _ h fun s hs loc _ => ?_
  have hnext : Quiet { s with db := (upsertLocation s.db loc).2 } := hs
  exact List.foldlRecOn loc.inventoryLevels _ hnext fun s hs level _ => quiet_syncLevel hs level

/-- The product with the stock and the units on order that the sync has summed. -/
def Product.restocked (s : InventorySync) (p : Product) : Product :=
  { p with
    currentStock := s.sellsByProduct p.id
    onOrder := s.enrouteByProduct p.id + s.incomingByProduct p.id }

/-- Writing its stock keeps a product's id. -/
theorem key_stocked (s : InventorySync) (id : ProductId) (p : Product) :
    Keyed.key ({ p with
      currentStock := (s.sellsByProduct id : ℚ)
      onOrder := s.enrouteByProduct id + s.incomingByProduct id } : Product) = Keyed.key p :=
  rfl

/-- The stock of the products seen, written product by product. -/
theorem rows_foldl_writeStock {current : Table Product} (ids written : List ProductId) {db : Db}
    (h : db.products.rows = current.rows.map fun p =>
      if p.id ∈ written then p.restocked s else p) :
    (ids.foldl (writeStock current s) db).products.rows = current.rows.map fun p =>
      if p.id ∈ written ∨ p.id ∈ ids then p.restocked s else p := by
  induction ids generalizing db written with
  | nil => simpa using h
  | cons id ids ih =>
      have hstep : (writeStock current s db id).products.rows = current.rows.map fun p =>
          if p.id ∈ id :: written then p.restocked s else p := by
        unfold writeStock
        dsimp only
        split
        case isTrue hsame =>
            -- the product has the stock already
            rw [h]
            refine List.map_congr_left fun p hp => ?_
            by_cases hwritten : p.id ∈ written
            · rw [if_pos hwritten, if_pos (List.mem_cons_of_mem _ hwritten)]
            · by_cases hid : p.id = id
              · subst hid
                have hfind : current.find p.id = some p := Table.find_key hp
                rw [hfind, Option.any_some, decide_eq_true_eq] at hsame
                have hstocked : p.restocked s = p := by
                  rw [Product.restocked, ← hsame.1, ← hsame.2]
                rw [hstocked, ite_self, ite_self]
              · rw [if_neg hwritten, if_neg (by simp [hid, hwritten])]
        case isFalse =>
            rw [Table.rows_update _ _ (key_stocked s id), h, List.map_map]
            refine List.map_congr_left fun p _ => ?_
            rw [Function.comp_apply]
            by_cases hwritten : p.id ∈ written
            · rw [if_pos hwritten, if_pos (List.mem_cons_of_mem _ hwritten)]
              by_cases hid : p.id = id
              · simp [Product.restocked, hid]
              · simp [Product.restocked, hid]
            · rw [if_neg hwritten]
              by_cases hid : p.id = id
              · simp [Product.restocked, hid]
              · simp [hid, hwritten]
      rw [List.foldl_cons, ih (id :: written) hstep]
      refine List.map_congr_left fun p _ => ?_
      simp only [List.mem_cons, or_left_comm, or_assoc]

/-- Writing the stock touches no location and no level. -/
theorem sellableStock_foldl_writeStock (current : Table Product) (ids : List ProductId) (db : Db)
    (id : ProductId) :
    (ids.foldl (writeStock current s) db).sellableStock id = db.sellableStock id := by
  refine List.foldlRecOn ids (writeStock current s)
    (motive := fun next => next.sellableStock id = db.sellableStock id) rfl ?_
  intro next hnext productId _
  unfold writeStock
  dsimp only
  split
  · exact hnext
  · exact hnext

/-- The sync leaves every product the stock that the rollup would write for it exactly when,
before it, a product that it sees has no units left at locations that sell, beside the levels
that are reported, and a product that it does not see has the stock of the units left there. -/
theorem syncLocationsAndInventory_agrees_iff (hunique : db.UniqueCores)
    (hreported : Reported productIdByVariantCore locations) :
    (∀ p ∈ (syncLocationsAndInventory productIdByVariantCore db locations).2.products.rows,
      p.currentStock
        = (syncLocationsAndInventory productIdByVariantCore db locations).2.sellableStock p.id) ↔
      ∀ p ∈ db.products.rows,
        (db.leftStock productIdByVariantCore locations p.id : ℚ)
          = if Seen productIdByVariantCore locations p.id then 0 else p.currentStock := by
  have hunread : Unread db.inventoryLevels locations { db } :=
    ⟨hunique, fun _ _ _ _ _ _ => rfl, fun _ h => h⟩
  obtain ⟨hproducts, hseen, hleft⟩ := foldl_syncLocation hunread hreported.cores
    fun loc hloc => hreported.nodup_productIds hloc
  have hstart : Quiet { db } := fun _ _ => rfl
  have hquiet := quiet_foldl_syncLocation productIdByVariantCore db.inventoryLevels hstart locations
  unfold syncLocationsAndInventory
  dsimp only
  generalize locations.foldl (syncLocation productIdByVariantCore db.inventoryLevels) { db } = s
    at hproducts hseen hleft hquiet ⊢
  rw [rows_foldl_writeStock s.seenProducts [] (by simp)]
  simp only [sellableStock_foldl_writeStock, List.not_mem_nil, false_or, hproducts,
    List.forall_mem_map]
  refine forall₂_congr fun p _ => ?_
  have hstock : s.db.sellableStock p.id
      = db.leftStock productIdByVariantCore locations p.id + s.sellsByProduct p.id := by
    have hsum := hleft p.id
    linarith
  by_cases hp : Seen productIdByVariantCore locations p.id
  · have hmem : p.id ∈ s.seenProducts := (hseen p.id).mpr (Or.inr hp)
    rw [if_pos hmem, if_pos hp]
    change ((s.sellsByProduct p.id : ℤ) : ℚ) = (s.db.sellableStock p.id : ℚ) ↔ _
    rw [hstock, Int.cast_add]
    constructor
    · intro h
      linarith
    · intro h
      linarith
  · have hmem : p.id ∉ s.seenProducts := fun h => by
      rcases (hseen p.id).mp h with h | h
      · exact List.not_mem_nil h
      · exact hp h
    rw [if_neg hmem, if_neg hp, hstock, hquiet p.id hmem, add_zero, eq_comm]

end Sync

/-! ## A location of the shop's own -/

/-- A shop with five units at a location that the store does not know. -/
def popUpShop : Db where
  products := ⟨[{ id := 1, currentStock := 5 }], by decide⟩
  locations := ⟨[{ id := 1, name := "Pop-up", locationType := some "branch" }], by decide⟩
  inventoryLevels :=
    ⟨[{ locationId := 1, productId := 1, onHand := 5, available := some 5 }], by decide⟩

/-- The product of its one variant. -/
def popUpCatalogue (core : String) : Option ProductId :=
  if core = "11" then some 1 else none

/-- The store reports three units at its own location. -/
def popUpReport : List ShopifyLocationNode :=
  [{ id := "gid://shopify/Location/7", name := some "Main Store", inventoryLevels := [
    { variantId := some "gid://shopify/ProductVariant/11", quantities := [
      { name := "on_hand", quantity := 3 }, { name := "available", quantity := 3 }] }] }]

theorem popUpShop_uniqueCores : popUpShop.UniqueCores := by
  intro l hl l' hl' core hcore _
  rw [popUpShop, List.mem_singleton] at hl
  rw [hl] at hcore
  cases hcore

theorem popUpReport_reported : Reported popUpCatalogue popUpReport := by
  refine ⟨by decide +kernel, by decide +kernel, fun core core' id hid hid' => ?_⟩
  unfold popUpCatalogue at hid hid'
  split at hid
  case isTrue h =>
      split at hid'
      case isTrue h' => exact h.trans h'.symm
      case isFalse => cases hid'
  case isFalse => cases hid

theorem syncLocationsAndInventory_agrees_iff_popUpShop :
    (∀ p ∈ (syncLocationsAndInventory popUpCatalogue popUpShop popUpReport).2.products.rows,
      p.currentStock
        = (syncLocationsAndInventory popUpCatalogue popUpShop popUpReport).2.sellableStock p.id) ↔
      ∀ p ∈ popUpShop.products.rows,
        (popUpShop.leftStock popUpCatalogue popUpReport p.id : ℚ)
          = if Seen popUpCatalogue popUpReport p.id then 0 else p.currentStock :=
  syncLocationsAndInventory_agrees_iff popUpShop_uniqueCores popUpReport_reported

/-- The sync leaves the product three units, and the rollup would write eight. -/
theorem syncLocationsAndInventory_popUpShop :
    popUpShop.UniqueCores ∧ Reported popUpCatalogue popUpReport ∧
    (syncLocationsAndInventory popUpCatalogue popUpShop popUpReport).2.products.rows.map
        Product.currentStock = [3] ∧
    (syncLocationsAndInventory popUpCatalogue popUpShop popUpReport).2.sellableStock 1 = 8 :=
  ⟨popUpShop_uniqueCores, popUpReport_reported, by decide +kernel, by decide +kernel⟩

end Restock
