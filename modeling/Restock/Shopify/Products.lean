import Restock.Json.Text
import Restock.Purchasing.CreatePo
import Restock.Sales.Buckets

/-!
# The catalogue sync

One row for every variant the store reports. What the store says is written over the row,
except for what the owner has decided: a cost of their own, and that the shop goes on ordering
a variant the store has stopped selling. A full pull stamps the rows it did not see as missing.

* `Product` — the columns of a product the sync reads or writes;
* `syncProducts` — the upserts of a pull, one after the other, some of which may fail, and the
  stamp;
* `syncInventoryItemCosts` — the costs that changed since.

A variant id is unique among the rows of a tenant in the database; nothing here needs that.
-/

namespace Restock.Shopify

open Store
open Sales (numericCore truthy)

/-! ## Rows -/

/-- `Product`: one row per variant. -/
structure Product where
  id : ProductId
  shopifyProductId : Option String := none
  shopifyVariantId : Option String := none
  variantTitle : Option String := none
  source : String := "shopify"
  sku : String := ""
  title : String := ""
  vendor : Option String := none
  productType : Option String := none
  priceKes : ℚ := 0
  costKes : ℚ := 0
  imageUrl : Option String := none
  lastSynced : Time := 0
  shopifyCreatedAt : Option Time := none
  /-- The owner goes on ordering it. -/
  activeOverride : Bool := false
  shopifyStatus : String := "active"
  publishedAt : Option Time := none
  missingFromShopifyAt : Option Time := none
  syncError : Option Json.Text := none
  syncErrorAt : Option Time := none
  costSource : Option String := none
  deriving DecidableEq

instance : Keyed Product ProductId := ⟨Product.id⟩

/-- `ProductStatus`. -/
inductive ProductStatus
  | active
  | draft
  | archived
  deriving DecidableEq, Repr

/-- A status as it is stored. -/
def ProductStatus.name : ProductStatus → String
  | .active => "active"
  | .draft => "draft"
  | .archived => "archived"

/-- `PRODUCT_STATUSES`. -/
def PRODUCT_STATUSES : List ProductStatus := [.active, .draft, .archived]

/-- Statuses that mean the shop has stopped selling it. -/
def NOT_SELLING_STATUSES : List ProductStatus := [.draft, .archived]

/-- A stored status that means the shop has stopped selling it. -/
def notSelling (status : String) : Bool :=
  status ∈ NOT_SELLING_STATUSES.map ProductStatus.name

/-- The status of the store as the column has it: what it does not know reads as active. -/
def productStatusOf (raw : Option String) : ProductStatus :=
  let status := (raw.getD "").toLower
  (PRODUCT_STATUSES.find? fun s => s.name = status).getD .active

/-- The title of a variant, unless it is the one the store gives to an only variant. -/
def variantTitleOf (raw : Option String) : Option String :=
  (raw.map fun raw => String.ofList (trimChars raw.toList)).filter fun title =>
    title ≠ "" ∧ title ≠ "Default Title"

/-- The longest failure that is kept on a row. -/
def SYNC_ERROR_MAX : ℕ := 300

/-! ## What the store reports -/

/-- `ShopifyVariantNode`. -/
structure ShopifyVariantNode where
  id : Option String := none
  sku : Option String := none
  title : Option String := none
  price : Option String := none
  /-- `inventoryItem.unitCost.amount`. -/
  unitCost : Option String := none
  deriving DecidableEq, Repr

/-- `ShopifyProductNode`. -/
structure ShopifyProductNode where
  id : String
  title : Option String := none
  vendor : Option String := none
  productType : Option String := none
  createdAt : Option String := none
  status : Option String := none
  publishedAt : Option String := none
  /-- `featuredImage.url`. -/
  imageUrl : Option String := none
  isGiftCard : Bool := false
  variants : List ShopifyVariantNode := []
  deriving DecidableEq, Repr

/-- The id a variant is stored under. -/
def ShopifyVariantNode.core (variant : ShopifyVariantNode) : Option String :=
  truthy ((truthy variant.id).map numericCore)

/-- The variants of a node that are taken into the catalogue: none of a gift card. -/
def ShopifyProductNode.cores (node : ShopifyProductNode) : List String :=
  if node.isGiftCard then [] else node.variants.filterMap ShopifyVariantNode.core

/-! ## The upserts -/

/-- What happens outside of the sync: how texts are read, the time, and which writes fail. -/
structure Outside where
  /-- `new Date(…)`. Where that is no date the write fails. -/
  newDate : String → Time
  /-- `Number.parseFloat`, where it is finite. -/
  parseFloat : String → Option ℚ
  now : Time
  /-- The failure of the n-th upsert, if it fails. -/
  failure : ℕ → Option Json.Text
  /-- The failure of the n-th upsert cannot be recorded. -/
  unrecorded : ℕ → Bool

/-- Nothing fails, and no text is read as a number. -/
def Outside.quiet : Outside where
  newDate _ := 0
  parseFloat _ := none
  now := 0
  failure _ := none
  unrecorded _ := false

/-- What the rows under a variant id say before the sync. -/
structure Known where
  known : Bool
  costPinned : Bool
  keptActive : Bool
  storedCost : Option ℚ

/-- The rows before the sync, asked about a variant id. -/
def knownOf (existing : List Product) (variantId : String) : Known :=
  let rows := existing.filter fun p => p.shopifyVariantId = some variantId
  { known := rows ≠ []
    costPinned := rows.any fun p => p.costSource = some "manual"
    keptActive := rows.any fun p => p.activeOverride
    storedCost := rows.getLast?.map Product.costKes }

section Code

variable (o : Outside)

/-- The cost that is written: the store's, if it has one and the owner has not. -/
def costToWrite (known : Known) (variant : ShopifyVariantNode) : Option ℚ :=
  if known.costPinned then none else (truthy variant.unitCost).bind o.parseFloat

/-- The status that is written: the store's, unless the owner goes on ordering what it has
stopped selling. -/
def statusToWrite (known : Known) (node : ShopifyProductNode) : Option ProductStatus :=
  let shopifyStatus := productStatusOf node.status
  if shopifyStatus ∈ NOT_SELLING_STATUSES ∧ known.keptActive then none else some shopifyStatus

/-- What both the create and the update of an upsert write. -/
def Product.written (known : Known) (node : ShopifyProductNode) (variant : ShopifyVariantNode)
    (p : Product) : Product :=
  { p with
    shopifyProductId := some (numericCore node.id)
    title := node.title.getD "(untitled)"
    vendor := node.vendor
    productType := node.productType
    imageUrl := node.imageUrl
    publishedAt := (truthy node.publishedAt).map o.newDate
    shopifyCreatedAt := ((truthy node.createdAt).map o.newDate).or p.shopifyCreatedAt
    sku := variant.sku.getD ""
    variantTitle := variantTitleOf variant.title
    shopifyStatus := ((statusToWrite known node).map ProductStatus.name).getD p.shopifyStatus
    priceKes := ((truthy variant.price).bind o.parseFloat).getD p.priceKes
    costKes := (costToWrite o known variant).getD p.costKes
    costSource := if (costToWrite o known variant).isSome then some "shopify" else p.costSource
    missingFromShopifyAt := none
    syncError := none
    syncErrorAt := none }

/-- A generated id: no row has it. -/
def freshId (t : Table Product) : ProductId :=
  (t.rows.map Product.id).foldr max 0 + 1

/-- The rows under a variant id. -/
def ofVariant (variantId : String) (p : Product) : Bool :=
  p.shopifyVariantId = some variantId

/-- The upsert of a variant. -/
def upsertVariant (known : Known) (node : ShopifyProductNode) (variant : ShopifyVariantNode)
    (variantId : String) (t : Table Product) : Table Product :=
  if t.rows.any (ofVariant variantId) then
    t.update (ofVariant variantId) fun p =>
      { p.written o known node variant with lastSynced := o.now }
  else
    let created : Product :=
      { id := freshId t, shopifyVariantId := some variantId, lastSynced := o.now }
    t.insert (created.written o known node variant)

/-- The failure of an upsert, on the row it was for. -/
def recordFailure (message : Json.Text) (variantId : String) (t : Table Product) :
    Table Product :=
  t.update (ofVariant variantId)
    ({ · with syncError := some (message.take SYNC_ERROR_MAX), syncErrorAt := some o.now })

/-- What the sync has written and counted so far. -/
structure ProductSync where
  products : Table Product
  seen : List String := []
  created : List String := []
  createdWithoutCost : ℕ := 0
  costsCorrected : ℕ := 0
  written : ℕ := 0
  failed : ℕ := 0

/-- One variant of a node. One without an id is left alone. -/
def syncVariant (existing : List Product) (node : ShopifyProductNode) (s : ProductSync)
    (variant : ShopifyVariantNode) : ProductSync :=
  match variant.core with
  | none => s
  | some variantId =>
      let known := knownOf existing variantId
      let n := s.written + s.failed
      match o.failure n with
      | some message =>
          { s with
            seen := s.seen ++ [variantId]
            failed := s.failed + 1
            products :=
              if o.unrecorded n then s.products
              else recordFailure o message variantId s.products }
      | none =>
          let corrected := match costToWrite o known variant, known.storedCost with
            | some cost, some before => decide (|before - cost| > 5 / 1000)
            | _, _ => false
          let costless := ((truthy variant.unitCost).bind o.parseFloat).isNone
          { products := upsertVariant o known node variant variantId s.products
            seen := s.seen ++ [variantId]
            created := if known.known then s.created else s.created ++ [variantId]
            createdWithoutCost :=
              s.createdWithoutCost + if !known.known && costless then 1 else 0
            costsCorrected := s.costsCorrected + if corrected then 1 else 0
            written := s.written + 1
            failed := s.failed }

/-- One node. A gift card is issued, not stocked, and stays out of the catalogue. -/
def syncNode (existing : List Product) (s : ProductSync) (node : ShopifyProductNode) :
    ProductSync :=
  if node.isGiftCard then s else node.variants.foldl (syncVariant o existing node) s

/-- The upserts of a pull. -/
def upsertAll (nodes : List ShopifyProductNode) (t : Table Product) : ProductSync :=
  let existing := t.rows.filter fun p => p.shopifyVariantId.isSome
  nodes.foldl (syncNode o existing) { products := t }

/-- The stamp of a full pull: on the store's rows that were not seen. -/
def stampMissing (seen : List String) (t : Table Product) : Table Product :=
  t.update
    (fun p => p.source = "shopify" ∧ p.shopifyVariantId.any (· ∉ seen) ∧
      p.missingFromShopifyAt = none)
    ({ · with missingFromShopifyAt := some o.now })

/-- What the sync reports. -/
structure ProductSyncResult where
  written : ℕ := 0
  failed : ℕ := 0
  created : ℕ := 0
  createdWithoutCost : ℕ := 0
  duplicateSkus : ℕ := 0
  costsCorrected : ℕ := 0
  deriving DecidableEq, Repr

/-- The SKUs of the variants that were created which are on more than one row. -/
def duplicateSkus (created : List String) (t : Table Product) : ℕ :=
  let newSkus := (t.rows.filter fun p =>
    p.shopifyVariantId.any (· ∈ created) && p.sku ≠ "").map Product.sku
  let skus := (t.rows.map Product.sku).filter (· ∈ newSkus)
  (skus.eraseDups.filter fun sku => skus.count sku > 1).length

/-- The sync of a pull. An empty one is no evidence of anything, and where every upsert fails the
sync does. -/
def syncProducts (fullSync : Bool) (nodes : List ShopifyProductNode) (t : Table Product) :
    Except String ProductSyncResult × Table Product :=
  if nodes = [] then (.ok {}, t)
  else
    let s := upsertAll o nodes t
    if 0 < s.failed ∧ s.written = 0 then
      (.error s!"Shopify products sync failed for all {s.failed} variants", s.products)
    else
      let t := if fullSync then stampMissing o s.seen s.products else s.products
      (.ok
        { written := s.written
          failed := s.failed
          created := s.created.length
          createdWithoutCost := s.createdWithoutCost
          duplicateSkus := duplicateSkus s.created t
          costsCorrected := s.costsCorrected }, t)

/-! ## The costs -/

/-- `InventoryItemCost`. -/
structure InventoryItemCost where
  variantId : Option String
  cost : Option String
  deriving DecidableEq, Repr

/-- A cost that changed, for the rows of its variant the owner has not pinned. -/
def syncItemCost (s : ℕ × Table Product) (item : InventoryItemCost) : ℕ × Table Product :=
  match truthy item.variantId, item.cost.bind o.parseFloat with
  | some variantId, some cost =>
      let selected (p : Product) : Bool :=
        ofVariant (numericCore variantId) p && p.costSource ≠ some "manual"
      (s.1 + (s.2.rows.filter selected).length,
        s.2.update selected ({ · with costKes := cost, costSource := some "shopify" }))
  | _, _ => s

/-- Costs edited since the products window opened. -/
def syncInventoryItemCosts (items : List InventoryItemCost) (t : Table Product) :
    ℕ × Table Product :=
  items.foldl (syncItemCost o) (0, t)

end Code

end Restock.Shopify
