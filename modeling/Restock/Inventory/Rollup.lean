import Mathlib.Algebra.BigOperators.Group.List.Basic
import Restock.Inventory.Roles

/-!
# The sellable rollup

`apps/web/lib/inventory/sellable-rollup.ts`: `recomputeSellableStock` rewrites
`Product.currentStock` of some products from the levels and locations stored.

* `recomputeSellableStock` — the code: one read of the levels, a sum per product, one
  update per product;
* `sellableStock` — what it writes for a product, as a sum over the stored levels;
* `exec_recomputeSellableStock` — the code writes `sellableStock`.
-/

namespace Restock

open Store

variable {M R : Type}

/-- A product with another `currentStock`. -/
def Product.withStock (p : Product) (stock : ℤ) : Product :=
  { p with currentStock := stock }

@[simp] theorem Product.withStock_id (p : Product) (stock : ℤ) : (p.withStock stock).id = p.id :=
  rfl

@[simp] theorem Product.withStock_currentStock (p : Product) (stock : ℤ) :
    (p.withStock stock).currentStock = stock := rfl

/-- What one level adds to the sums of `recomputeSellableStock`. -/
def addSellable (sellableByProduct : ProductId → ℤ) :
    InventoryLevel × Option Location → ProductId → ℤ
  | (level, some location) =>
      if isSellable location then
        Function.update sellableByProduct level.productId
          (sellableByProduct level.productId + sellableUnits level)
      else sellableByProduct
  | (_, none) => sellableByProduct

/-- `inventoryLevel.findMany({ where: { productId: { in: productIds } }, select: { …,
location } })`: one statement for the levels and one for their locations. -/
def findLevels (productIds : List ProductId) :
    Op M R (List (InventoryLevel × Option Location)) := do
  let levels ← Session.findMany InventoryLevel fun level => level.productId ∈ productIds
  let locations ← Session.findMany Location fun l => l.id ∈ levels.map InventoryLevel.locationId
  return levels.map fun level => (level, locations.find? fun l => l.id = level.locationId)

/-- Rewrite `currentStock` of the products from the levels stored for them. -/
def recomputeSellableStock (productIds : List ProductId) : Op M R Unit := do
  if productIds = [] then return
  let levels ← findLevels productIds
  -- Every product starts at zero, so one without a sellable level is written down.
  let sellableByProduct := levels.foldl addSellable fun _ => 0
  forM productIds.eraseDups fun productId =>
    Session.update Product productId (·.withStock (sellableByProduct productId))
      .recordNotFound

/-! ## What the rollup writes -/

/-- The sellable units a level contributes to its product. -/
def Db.sellableAt (db : Db) (level : InventoryLevel) : ℤ :=
  match db.locations.find level.locationId with
  | some location => if isSellable location then sellableUnits level else 0
  | none => 0

/-- The sellable stock of a product: the sum of its sellable units over the stored levels
at locations that sell. -/
def Db.sellableStock (db : Db) (productId : ProductId) : ℤ :=
  ((db.inventoryLevels.rows.filter fun level => level.productId = productId).map
    db.sellableAt).sum

/-- The levels of some products with their locations. -/
def Db.levelsOf (db : Db) (productIds : List ProductId) :
    List (InventoryLevel × Option Location) :=
  (db.inventoryLevels.rows.filter fun level => level.productId ∈ productIds).map
    fun level => (level, db.locations.find level.locationId)

/-- The products with `currentStock` of those listed rewritten from the stored levels. -/
def Db.rolledUp (db : Db) (productIds : List ProductId) : Db :=
  { db with
    products := db.products.update (fun p => p.id ∈ productIds)
      fun p => p.withStock (db.sellableStock p.id) }

/-- Summing the levels of a product one by one gives its sellable stock. -/
theorem foldl_addSellable (db : Db) (levels : List InventoryLevel) (sums : ProductId → ℤ)
    (productId : ProductId) :
    (levels.map fun level => (level, db.locations.find level.locationId)).foldl addSellable sums
        productId
      = sums productId
        + ((levels.filter fun level => level.productId = productId).map db.sellableAt).sum := by
  induction levels generalizing sums with
  | nil => simp
  | cons level levels ih =>
      have hstep : addSellable sums (level, db.locations.find level.locationId) productId
          = sums productId + if level.productId = productId then db.sellableAt level else 0 := by
        rw [Db.sellableAt]
        cases db.locations.find level.locationId with
        | none => simp [addSellable]
        | some location =>
            by_cases hsell : isSellable location
            · by_cases hid : level.productId = productId
              · subst hid
                simp [addSellable, hsell]
              · simp [addSellable, hsell, hid, Function.update_of_ne (Ne.symm hid)]
            · simp [addSellable, hsell]
      rw [List.map_cons, List.foldl_cons, ih, hstep]
      by_cases hid : level.productId = productId
      · simp [hid, add_assoc]
      · simp [hid]

/-- The sum the rollup computes for a listed product is its sellable stock. -/
theorem foldl_levelsOf (db : Db) {productIds : List ProductId} {productId : ProductId}
    (h : productId ∈ productIds) :
    (db.levelsOf productIds).foldl addSellable (fun _ => 0) productId
      = db.sellableStock productId := by
  rw [Db.levelsOf, foldl_addSellable, zero_add, Db.sellableStock, List.filter_filter]
  congr 2
  refine List.filter_congr fun level _ => ?_
  by_cases hid : level.productId = productId
  · simp [hid, h]
  · simp [hid]

/-! ## The sellable stock, location by location -/

/-- The sellable units of a product at a location; a missing level counts as zero. -/
def Db.sellableUnitsAt (db : Db) (locationId : LocationId) (productId : ProductId) : ℤ :=
  ((db.inventoryLevels.find (locationId, productId)).map sellableUnits).getD 0

/-- The locations that sell. -/
def Db.sellingLocations (db : Db) : List Location :=
  db.locations.rows.filter isSellable

/-- What one level at a location adds to the sum over the locations that sell. -/
private theorem sum_sellingLocations_single (t : Table Location) (locationId : LocationId)
    (units : ℤ) :
    (((t.rows.filter isSellable).map fun location =>
        if location.id = locationId then units else 0).sum : ℤ)
      = match t.find locationId with
        | some location => if isSellable location then units else 0
        | none => 0 := by
  obtain ⟨rows, hnodup⟩ := t
  simp only [Table.find, key_location]
  induction rows with
  | nil => simp
  | cons location rows ih =>
      have hrest := ih (List.nodup_cons.mp hnodup).2
      by_cases hid : location.id = locationId
      · -- no other row carries this id, so the rest adds nothing
        have hfind : rows.find? (fun l => decide (l.id = locationId)) = none := by
          refine List.find?_eq_none.mpr fun l hl hl' => ?_
          refine (List.nodup_cons.mp hnodup).1 (List.mem_map.mpr ⟨l, hl, ?_⟩)
          simpa [hid] using hl'
        rw [hfind] at hrest
        by_cases hsell : isSellable location <;> simp [hid, hsell, hrest]
      · by_cases hsell : isSellable location <;> simp [hid, hsell, hrest]

/-- The sellable stock of a product is the sum of its sellable units over the locations
that sell. -/
theorem sellableStock_eq_sum (db : Db) (productId : ProductId) :
    db.sellableStock productId
      = (db.sellingLocations.map fun location =>
          db.sellableUnitsAt location.id productId).sum := by
  rcases hlevels : db.inventoryLevels with ⟨rows, hnodup⟩
  simp only [Db.sellableStock, Db.sellableUnitsAt, hlevels, Table.find]
  clear hlevels
  induction rows with
  | nil => simp
  | cons level rows ih =>
      have hrest := ih (List.nodup_cons.mp hnodup).2
      by_cases hid : level.productId = productId
      · subst hid
        have hsplit : ∀ location : Location,
            ((((level :: rows).find? fun r =>
                decide (Keyed.key r = (location.id, level.productId))).map sellableUnits).getD 0 : ℤ)
              = (if location.id = level.locationId then sellableUnits level else 0)
                + (((rows.find? fun r =>
                    decide (Keyed.key r = (location.id, level.productId))).map
                      sellableUnits).getD 0) := by
          intro location
          by_cases hloc : location.id = level.locationId
          · -- no other row has the key
            have hfind : (rows.find? fun r =>
                decide (Keyed.key r = (location.id, level.productId))) = none := by
              refine List.find?_eq_none.mpr fun r hr hr' => ?_
              refine (List.nodup_cons.mp hnodup).1 (List.mem_map.mpr ⟨r, hr, ?_⟩)
              rw [of_decide_eq_true hr', hloc]
              rfl
            rw [hfind, List.find?_cons_of_pos (by simp [hloc])]
            simp [hloc]
          · have hne : ¬ level.locationId = location.id := fun h => hloc h.symm
            simp [hloc, hne]
        simp only [hsplit, List.sum_map_add]
        rw [Db.sellingLocations, sum_sellingLocations_single, ← Db.sellingLocations, ← hrest]
        simp [Db.sellableAt]
      · have hskip : ∀ location : Location,
            ((level :: rows).find? fun r => decide (Keyed.key r = (location.id, productId)))
              = rows.find? fun r => decide (Keyed.key r = (location.id, productId)) := by
          intro location
          simp [hid]
        simp only [hskip, ← hrest]
        simp [hid]

/-- The sellable stock depends on the locations and on the sellable units at each. -/
theorem sellableStock_congr {db db' : Db} (hlocations : db'.locations = db.locations)
    {productId : ProductId}
    (hunits : ∀ locationId, db'.sellableUnitsAt locationId productId
      = db.sellableUnitsAt locationId productId) :
    db'.sellableStock productId = db.sellableStock productId := by
  simp only [sellableStock_eq_sum, Db.sellingLocations, hlocations, hunits]

section Exec

variable (answer : M → Bool) (committed : Db) (ok : Unit → OpProgram M R)
  (err : Failure → OpProgram M R)

/-- With the database to itself, the two statements find the levels and their locations. -/
@[simp]
theorem exec_findLevels (productIds : List ProductId) (working : Db)
    (ok : List (InventoryLevel × Option Location) → OpProgram M R) :
    (findLevels productIds ok err).exec answer committed working
      = (ok (working.levelsOf productIds)).exec answer committed working := by
  unfold findLevels
  simp only [Session.bind_apply, Session.exec_findMany, get_inventoryLevels, get_locations,
    Session.pure_apply, Db.levelsOf]
  congr 2
  refine List.map_congr_left fun level hlevel => ?_
  -- the location of a level is among those asked for
  rw [List.find?_filter, Table.find]
  congr 2
  funext l
  by_cases hid : l.id = level.locationId
  · have hasked : level.locationId ∈ (working.inventoryLevels.rows.filter fun level =>
        level.productId ∈ productIds).map InventoryLevel.locationId :=
      List.mem_map_of_mem hlevel
    simp [-List.mem_map, hid, hasked]
  · simp [hid]

/-- Updating one listed product and then the others is updating all of them. -/
private theorem update_withStock_cons (t : Table Product) (sums : ProductId → ℤ)
    (id : ProductId) (ids : List ProductId) :
    (t.update (fun p => p.id = id) fun p => p.withStock (sums id)).update
        (fun p => p.id ∈ ids) (fun p => p.withStock (sums p.id))
      = t.update (fun p => p.id ∈ id :: ids) fun p => p.withStock (sums p.id) := by
  refine Table.ext ?_
  have hone : ∀ p : Product, Keyed.key (p.withStock (sums id)) = Keyed.key p := fun _ => rfl
  have hall : ∀ p : Product, Keyed.key (p.withStock (sums p.id)) = Keyed.key p := fun _ => rfl
  rw [Table.rows_update _ _ hall, Table.rows_update _ _ hone, Table.rows_update _ _ hall,
    List.map_map]
  refine List.map_congr_left fun p _ => ?_
  by_cases hid : p.id = id
  · by_cases hmem : p.id ∈ ids
    · simp [hid, hid ▸ hmem, Product.withStock]
    · simp [hid, hid ▸ hmem]
  · simp [hid]

/-- The update loop of the rollup, when every product is there. -/
private theorem exec_updateStock (sums : ProductId → ℤ) {productIds : List ProductId}
    {working : Db} (h : ∀ id ∈ productIds, (working.products.find id).isSome) :
    Program.exec answer
        ((forM productIds fun productId =>
          (Session.update Product productId (·.withStock (sums productId)) .recordNotFound :
            Op M R Unit)) ok err) committed working
      = (ok ()).exec answer committed
          { working with
            products := working.products.update (fun p => p.id ∈ productIds)
              fun p => p.withStock (sums p.id) } := by
  induction productIds generalizing working with
  | nil =>
      have hnone : working.products.update (fun p => p.id ∈ ([] : List ProductId))
          (fun p => p.withStock (sums p.id)) = working.products :=
        Table.update_of_forall_not _ fun r _ => by simp
      rw [hnone]
      simp
  | cons id ids ih =>
      obtain ⟨p, hp⟩ := Option.isSome_iff_exists.mp (h id List.mem_cons_self)
      rw [List.forM_cons, Session.bind_apply, Session.exec_update _ _ _ _ hp, ih]
      · simp only [set_products, get_products, key_product, update_withStock_cons]
      · intro id' hid'
        simpa [Table.isSome_find_update] using h id' (List.mem_cons_of_mem _ hid')

/-- The update loop of the rollup, when some product is missing. -/
private theorem exec_updateStock_missing (sums : ProductId → ℤ) {productIds : List ProductId}
    {working : Db} (h : ∃ id ∈ productIds, working.products.find id = none) :
    ∃ working', Program.exec answer
        ((forM productIds fun productId =>
          (Session.update Product productId (·.withStock (sums productId)) .recordNotFound :
            Op M R Unit)) ok err) committed working
      = (err .recordNotFound).exec answer committed working' := by
  induction productIds generalizing working with
  | nil => obtain ⟨_, hmem, -⟩ := h; cases hmem
  | cons id ids ih =>
      rw [List.forM_cons, Session.bind_apply]
      cases hp : working.products.find id with
      | none => exact ⟨working, Session.exec_update_missing _ _ _ _ hp _ _ _⟩
      | some p =>
          rw [Session.exec_update _ _ _ _ hp]
          obtain ⟨id', hid', hnone⟩ := h
          refine ih ⟨id', ?_, ?_⟩
          · rcases List.mem_cons.mp hid' with rfl | hid'
            · rw [hnone] at hp; cases hp
            · exact hid'
          · have hsame := Table.isSome_find_update working.products (fun p => p.id = id)
              (·.withStock (sums id)) id'
            rw [hnone] at hsame
            exact Option.not_isSome_iff_eq_none.mp (by simpa using hsame)

/-- The rollup writes the sellable stock of every listed product. -/
theorem exec_recomputeSellableStock {productIds : List ProductId} {working : Db}
    (h : ∀ id ∈ productIds, (working.products.find id).isSome) :
    Program.exec answer ((recomputeSellableStock productIds : Op M R Unit) ok err) committed
        working
      = (ok ()).exec answer committed (working.rolledUp productIds) := by
  have hrolled : ∀ ids : List ProductId, (∀ id, id ∈ ids ↔ id ∈ productIds) →
      working.products.update (fun p => p.id ∈ ids) (fun p => p.withStock
          ((working.levelsOf productIds).foldl addSellable (fun _ => 0) p.id))
        = (working.rolledUp productIds).products := by
    intro ids hids
    refine Table.update_congr (fun p _ => by simp [hids]) fun p _ hp => ?_
    rw [foldl_levelsOf _ (by simpa using hp)]
  unfold recomputeSellableStock
  by_cases hnil : productIds = []
  · have hsame : working.rolledUp productIds = working := by
      rw [Db.rolledUp, Table.update_of_forall_not _ fun p _ => by simp [hnil]]
    simp [hnil, hnil ▸ hsame]
  · simp only [if_neg hnil, Session.bind_apply, exec_findLevels]
    rw [exec_updateStock _ _ _ _ _ fun id hid => h id (List.mem_eraseDups.mp hid),
      hrolled _ fun id => List.mem_eraseDups]
    rfl

/-- The rollup throws when a listed product is missing. -/
theorem exec_recomputeSellableStock_missing {productIds : List ProductId} {working : Db}
    (h : ∃ id ∈ productIds, working.products.find id = none) :
    ∃ working', Program.exec answer ((recomputeSellableStock productIds : Op M R Unit) ok err)
        committed working
      = (err .recordNotFound).exec answer committed working' := by
  obtain ⟨id, hid, hnone⟩ := h
  have hnil : productIds ≠ [] := List.ne_nil_of_mem hid
  unfold recomputeSellableStock
  simp only [if_neg hnil, Session.bind_apply, exec_findLevels]
  exact exec_updateStock_missing _ _ _ _ _ ⟨id, List.mem_eraseDups.mpr hid, hnone⟩

end Exec

end Restock
