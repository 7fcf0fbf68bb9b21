import Restock.Inventory.Sync

/-!
# The inventory sync without its skips

The inventory sync does not write a level whose numbers have not moved since it began, nor a
product whose figures are the ones it has. The plain sync writes them all. Both leave the same
database, as long as the store names no product twice at a location: a level that is written a
second time would be compared with what was there before the first.

* `plainSync` — the sync with nothing to compare with: `syncLevel_empty`, `writeStock_empty`;
* `Unmoved` — the levels that are still to come are as the sync read them at first;
* `syncLocationsAndInventory_eq_plainSync` — both leave the same database.
-/

namespace Restock

open Store
open Sales (numericCore)

section Plain

variable (productIdByVariantCore : String → Option ProductId)

/-- The sync that upserts every level and updates every product it has seen: nothing it holds
could be unchanged. -/
def plainSync (db : Db) (locations : List ShopifyLocationNode) : SyncedInventory × Db :=
  let s := locations.foldl (syncLocation productIdByVariantCore Table.empty) { db }
  ({ locations := locations.length, levels := s.levels, changed := s.changed },
    s.seenProducts.foldl (writeStock Table.empty s) s.db)

/-- The plain sync upserts every level. -/
theorem syncLevel_empty (row : Location) (s : InventorySync) {level : ShopifyInventoryLevelNode}
    {productId : ProductId} (h : level.productId productIdByVariantCore = some productId) :
    (syncLevel productIdByVariantCore Table.empty row s level).db
      = { s.db with
          inventoryLevels := s.db.inventoryLevels.upsert (level.stored row.id productId)
            (·.withNumbers (level.stored row.id productId)) } := by
  unfold syncLevel
  rw [h]
  rfl

/-- The plain sync updates every product it has seen. -/
theorem writeStock_empty (s : InventorySync) (db : Db) (productId : ProductId) :
    writeStock Table.empty s db productId
      = { db with
          products := db.products.update (fun p => p.id = productId) fun p =>
            { p with
              currentStock := s.sellsByProduct productId
              onOrder := s.enrouteByProduct productId + s.incomingByProduct productId } } :=
  rfl

/-- The pairs of a location and a product that a location names, level by level. -/
def ShopifyLocationNode.pairs (loc : ShopifyLocationNode) : List (String × ProductId) :=
  (loc.productIds productIdByVariantCore).map fun productId => (numericCore loc.id, productId)

end Plain

/-! ## Levels -/

section Levels

variable {productIdByVariantCore : String → Option ProductId} {prior : Table InventoryLevel}
  {row : Location} {s s' : InventorySync} {core : String}
  {pair : String × ProductId} {rest : List (String × ProductId)}

/-- Two syncs that have done the same, but for the levels they count as changed. -/
structure SameSync (s s' : InventorySync) : Prop where
  db : s'.db = s.db
  levels : s'.levels = s.levels
  sells : s'.sellsByProduct = s.sellsByProduct
  enroute : s'.enrouteByProduct = s.enrouteByProduct
  incoming : s'.incomingByProduct = s.incomingByProduct
  seen : s'.seenProducts = s.seenProducts

variable (prior) in
/-- The levels of the pairs to come are as the sync read them at first. -/
structure Unmoved (rest : List (String × ProductId)) (s : InventorySync) : Prop where
  same : ∀ l ∈ s.db.locations.rows, ∀ core productId, l.shopifyLocationId = some core →
    (core, productId) ∈ rest →
      prior.find (l.id, productId) = s.db.inventoryLevels.find (l.id, productId)
  known : ∀ key, s.db.inventoryLevels.find key = none → prior.find key = none

/-- A level of the row, which is the next pair to come: both syncs do the same with it, and the
pairs after it are still unmoved. -/
theorem sameSync_syncLevel {level : ShopifyInventoryLevelNode} {productId : ProductId}
    (hlevel : level.productId productIdByVariantCore = some productId)
    (hrow : row ∈ s.db.locations.rows) (hcore : row.shopifyLocationId = some core)
    (hnew : (core, productId) ∉ rest) (h : Unmoved prior ((core, productId) :: rest) s)
    (hsame : SameSync s s') :
    SameSync (syncLevel productIdByVariantCore prior row s level)
        (syncLevel productIdByVariantCore Table.empty row s' level) ∧
      Unmoved prior rest (syncLevel productIdByVariantCore prior row s level) ∧
      (syncLevel productIdByVariantCore prior row s level).db.locations = s.db.locations := by
  have hprior := h.same row hrow core productId hcore List.mem_cons_self
  have hdb := db_syncLevel hlevel hprior
  have hfind := find_syncLevel hlevel hprior
  refine ⟨⟨?_, ?_, ?_, ?_, ?_, ?_⟩, ⟨fun l hl core' id hcore' hmem => ?_, fun key hkey => ?_⟩, ?_⟩
  · rw [hdb, syncLevel_empty _ _ _ hlevel, hsame.db]
  · simp only [syncLevel, hlevel, hsame.levels]
  · simp only [syncLevel, hlevel, hsame.sells]
  · simp only [syncLevel, hlevel, hsame.enroute]
  · simp only [syncLevel, hlevel, hsame.incoming]
  · simp only [syncLevel, hlevel, hsame.seen]
  · -- a pair to come is under another key
    rw [hdb] at hl
    have hne : (row.id, productId) ≠ (l.id, id) := by
      intro heq
      obtain ⟨hid, rfl⟩ := Prod.mk.inj heq
      obtain rfl : row = l := Table.eq_of_key_eq hrow hl hid
      obtain rfl := Option.some.inj (hcore.symm.trans hcore')
      exact hnew hmem
    rw [hfind, if_neg hne]
    exact h.same l hl core' id hcore' (List.mem_cons_of_mem _ hmem)
  · rw [hfind] at hkey
    split at hkey
    · cases hkey
    · exact h.known key hkey
  · rw [hdb]

variable (row) in
/-- The levels of the row, which are the next pairs to come. -/
theorem sameSync_levels (levels : List ShopifyInventoryLevelNode)
    (hcore : row.shopifyLocationId = some core) (hrow : row ∈ s.db.locations.rows)
    (hnodup : ((levels.filterMap (·.productId productIdByVariantCore)).map
      (fun productId => (core, productId)) ++ rest).Nodup)
    (h : Unmoved prior ((levels.filterMap (·.productId productIdByVariantCore)).map
      (fun productId => (core, productId)) ++ rest) s)
    (hsame : SameSync s s') :
    SameSync (levels.foldl (syncLevel productIdByVariantCore prior row) s)
        (levels.foldl (syncLevel productIdByVariantCore Table.empty row) s') ∧
      Unmoved prior rest (levels.foldl (syncLevel productIdByVariantCore prior row) s) := by
  induction levels generalizing s s' with
  | nil => exact ⟨hsame, h⟩
  | cons level levels ih =>
      rw [List.foldl_cons, List.foldl_cons]
      cases hlevel : level.productId productIdByVariantCore with
      | none =>
          rw [List.filterMap_cons_none hlevel] at hnodup h
          rw [syncLevel_of_none hlevel, syncLevel_of_none hlevel]
          exact ih hrow hnodup h hsame
      | some productId =>
          rw [List.filterMap_cons_some hlevel, List.map_cons, List.cons_append] at hnodup h
          obtain ⟨hnew, hnodup⟩ := List.nodup_cons.mp hnodup
          obtain ⟨hstep, hunmoved, hlocations⟩ :=
            sameSync_syncLevel hlevel hrow hcore hnew h hsame
          rw [← hlocations] at hrow
          exact ih hrow hnodup hunmoved hstep

end Levels

/-! ## Locations -/

section Locations

variable {productIdByVariantCore : String → Option ProductId} {prior : Table InventoryLevel}
  {s s' : InventorySync} {rest : List (String × ProductId)}

/-- What an upsert of a location leaves, where the locations' cores may repeat: the row is among
the locations under its core, the others are as they were, and it was there before under its
core or has a new id. -/
structure LocationWritten (db : Db) (core : String) (row : Location) (next : Db) : Prop where
  inventoryLevels : next.inventoryLevels = db.inventoryLevels
  keyed : row.shopifyLocationId = some core
  mem : row ∈ next.locations.rows
  others : ∀ l ∈ next.locations.rows, l = row ∨ l ∈ db.locations.rows
  before : (∃ l ∈ db.locations.rows, l.id = row.id ∧ l.shopifyLocationId = some core) ∨
    ∀ level ∈ db.inventoryLevels.rows, level.locationId ≠ row.id

/-- An upsert of a location does that. -/
theorem locationWritten (db : Db) (loc : ShopifyLocationNode) :
    LocationWritten db (numericCore loc.id) (upsertLocation db loc).1
      (upsertLocation db loc).2 := by
  unfold upsertLocation
  cases hfind : db.locations.rows.find? fun l =>
      l.shopifyLocationId = some (numericCore loc.id) with
  | some existing =>
      have hmem := List.mem_of_find?_eq_some hfind
      have hcore : existing.shopifyLocationId = some (numericCore loc.id) := by
        simpa using List.find?_some hfind
      have hkeep : ∀ l : Location, Keyed.key (l.stamped loc) = Keyed.key l := stamped_id
      have hrows := Table.rows_update db.locations (fun l => l.id = existing.id) hkeep
      refine ⟨rfl, by simpa using hcore, ?_, fun l hl => ?_, Or.inl ⟨existing, hmem, ?_, hcore⟩⟩
      · rw [hrows]
        exact List.mem_map.mpr ⟨existing, hmem, by simp⟩
      · rw [hrows] at hl
        obtain ⟨old, hold, rfl⟩ := List.mem_map.mp hl
        by_cases hid : old.id = existing.id
        · obtain rfl : old = existing := Table.eq_of_key_eq hold hmem hid
          exact Or.inl (by simp)
        · exact Or.inr (by simpa [hid] using hold)
      · exact (stamped_id existing).symm
  | none =>
      -- a new id is above all ids, of locations and of the locations of levels
      have hfresh := find_cuid db
      have hrows : ∀ created : Location, created.id = db.cuid →
          (db.locations.insert created).rows = db.locations.rows ++ [created] :=
        fun created hid => Table.rows_insert (by rw [key_location, hid, hfresh])
      refine ⟨rfl, by simp, ?_, fun l hl => ?_, Or.inr fun level hlevel hid => ?_⟩
      · rw [hrows _ (stamped_id _)]
        simp
      · rcases Table.mem_insert hl with hl | rfl
        · exact Or.inr hl
        · exact Or.inl rfl
      · have hlt := lt_cuid db (List.mem_append_right _ (List.mem_map_of_mem hlevel))
        rw [hid, stamped_id] at hlt
        exact lt_irrefl _ hlt

/-- The pairs to come stay unmoved when a location is written. -/
theorem Unmoved.locationWritten {core : String} {row : Location} {next : Db}
    (h : Unmoved prior rest s) (hnext : LocationWritten s.db core row next) :
    Unmoved prior rest { s with db := next } := by
  constructor
  · intro l hl core' productId hcore hmem
    dsimp only at hl ⊢
    rw [hnext.inventoryLevels]
    rcases hnext.others l hl with rfl | hold
    · rcases hnext.before with ⟨old, hold, hid, hcore'⟩ | hnone
      · obtain rfl := Option.some.inj (hnext.keyed.symm.trans hcore)
        rw [← hid]
        exact h.same old hold _ productId hcore' hmem
      · have hnew : s.db.inventoryLevels.find (l.id, productId) = none :=
          Table.find_eq_none.mpr fun level hlevel hkey =>
            hnone level hlevel (Prod.mk.inj hkey).1
        rw [hnew, h.known _ hnew]
    · exact h.same l hold core' productId hcore hmem
  · intro key hkey
    dsimp only at hkey
    rw [hnext.inventoryLevels] at hkey
    exact h.known key hkey

/-- The locations of the payload: both syncs do the same with them. -/
theorem sameSync_locations (locations : List ShopifyLocationNode)
    (hnodup : (locations.flatMap (·.pairs productIdByVariantCore)).Nodup)
    (h : Unmoved prior (locations.flatMap (·.pairs productIdByVariantCore)) s)
    (hsame : SameSync s s') :
    SameSync (locations.foldl (syncLocation productIdByVariantCore prior) s)
      (locations.foldl (syncLocation productIdByVariantCore Table.empty) s') := by
  induction locations generalizing s s' with
  | nil => exact hsame
  | cons loc locations ih =>
      rw [List.flatMap_cons] at hnodup h
      have hwritten := locationWritten s.db loc
      have hstart : SameSync { s with db := (upsertLocation s.db loc).2 }
          { s' with db := (upsertLocation s'.db loc).2 } :=
        ⟨by rw [hsame.db], hsame.levels, hsame.sells, hsame.enroute, hsame.incoming, hsame.seen⟩
      obtain ⟨hstep, hunmoved⟩ := sameSync_levels (upsertLocation s.db loc).1 loc.inventoryLevels
        hwritten.keyed hwritten.mem hnodup (h.locationWritten hwritten) hstart
      rw [List.foldl_cons, List.foldl_cons]
      refine ih (List.nodup_append.mp hnodup).2.1 hunmoved ?_
      rw [syncLocation, syncLocation, hsame.db]
      rw [hsame.db] at hstep
      exact hstep

end Locations

/-! ## Products -/

section Products

variable {s s' : InventorySync} {current : Table Product} {db : Db}

/-- The products are as they were read, or have been restocked. -/
def Stocked (current : Table Product) (s : InventorySync) (db : Db) : Prop :=
  ∀ p ∈ db.products.rows, current.find p.id = some p ∨ p.restocked s = p

/-- A product whose figures are the ones it has need not be written. -/
theorem writeStock_eq_plain (h : Stocked current s db) (productId : ProductId) :
    writeStock current s db productId = writeStock Table.empty s db productId := by
  rw [writeStock_empty, writeStock]
  split
  swap
  · rfl
  rename_i hsame
  have hrows : db.products.update (fun p => p.id = productId) (fun p =>
      { p with
        currentStock := s.sellsByProduct productId
        onOrder := s.enrouteByProduct productId + s.incomingByProduct productId })
      = db.products := by
    refine Table.ext ?_
    rw [Table.rows_update _ _ (key_stocked s productId)]
    refine (List.map_congr_left fun p hp => ?_).trans (List.map_id _)
    by_cases hid : p.id = productId
    · subst hid
      rw [if_pos (decide_eq_true rfl)]
      rcases h p hp with hread | hstocked
      · rw [hread, Option.any_some, decide_eq_true_eq] at hsame
        rw [← hsame.1, ← hsame.2]
        rfl
      · exact hstocked
    · rw [if_neg (by simpa using hid)]
      rfl
  rw [hrows]

/-- Writing a product leaves the products as they were read, or restocked. -/
theorem stocked_writeStock (h : Stocked current s db) (productId : ProductId) :
    Stocked current s (writeStock Table.empty s db productId) := by
  rw [writeStock_empty]
  intro p hp
  rw [Table.rows_update _ _ (key_stocked s productId)] at hp
  obtain ⟨old, hold, rfl⟩ := List.mem_map.mp hp
  by_cases hid : old.id = productId
  · subst hid
    rw [if_pos (decide_eq_true rfl)]
    exact Or.inr rfl
  · rw [if_neg (by simpa using hid)]
    exact h old hold

/-- The products that were seen: both syncs leave the same. -/
theorem foldl_writeStock_eq_plain (ids : List ProductId) (h : Stocked current s db) :
    ids.foldl (writeStock current s) db = ids.foldl (writeStock Table.empty s) db := by
  induction ids generalizing db with
  | nil => rfl
  | cons id ids ih =>
      rw [List.foldl_cons, List.foldl_cons, writeStock_eq_plain h]
      exact ih (stocked_writeStock h id)

/-- The write of a product depends on the sums only. -/
theorem writeStock_congr (hsame : SameSync s s') :
    writeStock current s' = writeStock current s := by
  funext db productId
  rw [writeStock, writeStock, hsame.sells, hsame.enroute, hsame.incoming]

end Products

end Restock
