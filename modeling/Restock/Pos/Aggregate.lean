import Restock.Sales.History
import Restock.Sales.TradingDay
import Restock.Series.Entries
import Restock.Series.Groups

/-!
# The till ledger

What a till feed sends, what is stored of it, and the tables its derivations read. A receipt
is stored with its lines in it: the lines are only ever found through their receipt, deleted
with it, or updated by a condition on the line. The generated ids of receipts and lines are
left out.

A till code is matched to a product by its exact normalized SKU, or, when no product has that SKU,
by what people matched it to before. A line counts for its product and its trading day; a day's row
names a branch only when every line that counts was rung at it.

* `SaleLedger` — stored receipts, no two of one external id;
* `PosDb` — one tenant's tables, `PosDb.editCatalogue` — what changing the products does to them;
* `lookup_mergeLearnedAliases` — what a code comes to: its SKU's product, or else the only
  product it was matched to;
* `lineRevenue` — the revenue of a line: its subtotal, its price, or the catalogue's price;
* `planPosIngest` — the plan of an ingest;
* `aggregateStoredPosLines` — the rows of stored lines;
* `dayRow`, `filter_rollupRows` — the row of one product and day, and that it is the only one
  of them among the rows of some lines;
* `Evens`, `dayRow_append_eq_iff` — when two sets of lines give one row.
-/

namespace Restock.Pos

open Sales (Zone SalesTable)
open Series (setEntries setEntry single)

/-- What the till code uses of the language's texts. -/
structure Js where
  /-- `String.prototype.trim`. -/
  trim : String → String
  /-- `String.prototype.toLowerCase`. -/
  toLowerCase : String → String

/-- The same on texts that are trimmed and in lower case. -/
def Js.plain : Js := ⟨id, id⟩

/-- Till-SKU normalization: trim and lowercase only. -/
def normalizeSku (js : Js) (sku : Option String) : String :=
  js.toLowerCase (js.trim (sku.getD ""))

/-! ## The feed -/

/-- One rung line on a till receipt. -/
structure PosLineInput where
  sku : String
  name : Option String := none
  qty : ℚ
  price : Option ℚ := none
  subtotal : Option ℚ := none
  deriving DecidableEq, Repr

/-- One receipt as it arrives from the feed, its date read in the tenant's zone. -/
structure PosSaleInput where
  externalId : String
  reference : Option String := none
  /-- The instant of the sale; nothing for an invalid date. -/
  date : Option Time
  createdBy : Option String := none
  salesAgent : Option String := none
  warehouse : Option String := none
  customer : Option String := none
  saleStatus : Option String := none
  paymentStatus : Option String := none
  grandTotal : Option ℚ := none
  channel : Option String := none
  lines : List PosLineInput
  deriving DecidableEq, Repr

/-! ## What is stored -/

/-- `PosSaleLine`. -/
structure PosSaleLine where
  sku : String
  productName : String := ""
  qty : ℚ := 0
  price : ℚ := 0
  subtotal : ℚ := 0
  /-- The matched product; nothing for an unmatched till code. -/
  productId : Option ProductId := none
  deriving DecidableEq, Repr

/-- `PosSale`, with its lines. -/
structure PosSale where
  externalId : String
  reference : Option String := none
  date : Time
  createdBy : String := ""
  salesAgent : Option String := none
  warehouse : Option String := none
  customer : Option String := none
  saleStatus : Option String := none
  paymentStatus : Option String := none
  grandTotal : ℚ := 0
  channel : String := "physical"
  lines : List PosSaleLine
  deriving DecidableEq, Repr

/-- The receipts of a tenant. -/
structure SaleLedger where
  rows : List PosSale
  /-- `@@unique([tenantId, externalId])`. -/
  unique : (rows.map PosSale.externalId).Nodup
  deriving DecidableEq

namespace SaleLedger

/-- Two ledgers with the same receipts are equal. -/
@[ext]
theorem ext {t u : SaleLedger} (h : t.rows = u.rows) : t = u := by
  cases t; cases u; cases h; rfl

/-- The ledger without receipts. -/
def empty : SaleLedger := ⟨[], List.nodup_nil⟩

/-- `DELETE … WHERE p`, with the lines of the receipts. -/
def deleteMany (t : SaleLedger) (p : PosSale → Bool) : SaleLedger where
  rows := t.rows.filter fun s => !p s
  unique := t.unique.sublist (List.filter_sublist.map _)

/-- `INSERT` of several receipts; nothing when an external id is taken. -/
def createMany (t : SaleLedger) (data : List PosSale) : Option SaleLedger :=
  if h : ((t.rows ++ data).map PosSale.externalId).Nodup then some ⟨t.rows ++ data, h⟩ else none

/-- The ledger with every line rewritten. -/
def mapLines (t : SaleLedger) (f : PosSaleLine → PosSaleLine) : SaleLedger where
  rows := t.rows.map fun s => { s with lines := s.lines.map f }
  unique := by
    rw [List.map_map]
    exact t.unique

/-- The lines of all receipts. -/
def lines (t : SaleLedger) : List PosSaleLine :=
  t.rows.flatMap PosSale.lines

/-- Every line of the ledger beside its receipt. -/
def rungLines (t : SaleLedger) : List (PosSale × PosSaleLine) :=
  t.rows.flatMap fun s => s.lines.map fun l => (s, l)

variable {t : SaleLedger} {data : List PosSale}

@[simp] theorem rows_deleteMany {p : PosSale → Bool} :
    (t.deleteMany p).rows = t.rows.filter fun s => !p s := rfl

/-- The lines of a ledger whose lines are rewritten. -/
theorem lines_mapLines (t : SaleLedger) (f : PosSaleLine → PosSaleLine) :
    (t.mapLines f).lines = t.lines.map f := by
  rw [lines, lines, mapLines, List.flatMap_map, List.map_flatMap]

/-- The same, beside their receipts. -/
theorem rungLines_mapLines (t : SaleLedger) (f : PosSaleLine → PosSaleLine) :
    (t.mapLines f).rungLines
      = t.rungLines.map fun rung => ({ rung.1 with lines := rung.1.lines.map f }, f rung.2) := by
  simp only [rungLines, mapLines, List.flatMap_map, List.map_flatMap, List.map_map]
  rfl

/-- An insert goes through when its ids are distinct and none is taken. -/
theorem createMany_eq_some (hdata : (data.map PosSale.externalId).Nodup)
    (hnew : ∀ s ∈ t.rows, s.externalId ∉ data.map PosSale.externalId) :
    ∃ u, t.createMany data = some u ∧ u.rows = t.rows ++ data := by
  have hnodup : ((t.rows ++ data).map PosSale.externalId).Nodup := by
    rw [List.map_append, List.nodup_append]
    refine ⟨t.unique, hdata, fun a ha b hb hab => ?_⟩
    obtain ⟨s, hs, rfl⟩ := List.mem_map.mp ha
    exact hnew s hs (hab ▸ hb)
  exact ⟨⟨t.rows ++ data, hnodup⟩, dif_pos hnodup, rfl⟩

end SaleLedger

/-- A product as the matcher needs it. -/
structure MatchProduct where
  id : ProductId
  sku : String
  priceKes : ℚ := 0
  deriving DecidableEq, Repr

instance : Store.Keyed MatchProduct ProductId := ⟨MatchProduct.id⟩

@[simp] theorem key_matchProduct (p : MatchProduct) : Store.Keyed.key p = p.id := rfl

/-- One tenant's tables. -/
@[ext]
structure PosDb where
  /-- `tenant.timezone`; nothing when there is no such tenant. -/
  tenant : Option Zone
  products : Store.Table MatchProduct
  /-- The values of the rules of kind `till_sku`. -/
  ignoreRules : List String
  /-- Warehouse names with their locations. -/
  warehouseMaps : List (String × LocationId)
  sales : SaleLedger
  salesHistory : SalesTable

namespace PosDb

/-- The product is in the catalogue. -/
def HasProduct (db : PosDb) (productId : ProductId) : Prop :=
  (db.products.find productId).isSome

instance (db : PosDb) (productId : ProductId) : Decidable (db.HasProduct productId) :=
  inferInstanceAs (Decidable (_ = true))

/-- The catalogue is changed. Lines of a product that is gone lose their match, and its sales
history goes with it. -/
def editCatalogue (db : PosDb) (products : Store.Table MatchProduct) : PosDb :=
  let next := { db with products }
  { next with
    sales := db.sales.mapLines fun l =>
      { l with productId := l.productId.filter fun id => next.HasProduct id }
    salesHistory := db.salesHistory.deleteMany fun r => ¬ next.HasProduct r.productId }

end PosDb

section SkuMap

variable (js : Js)

/-- One product of the loop of `resolvePosSkuMap`: the map so far, and the ambiguous SKUs. -/
def resolveStep (found : List (String × ProductId) × List String) (p : MatchProduct) :
    List (String × ProductId) × List String :=
  let key := normalizeSku js (some p.sku)
  if key = "" then found
  else if (found.1.lookup key).isSome then (found.1, key :: found.2)
  else (setEntry found.1 key p.id, found.2)

/-- Normalized SKU to product. A SKU that repeats across products is dropped. -/
def resolvePosSkuMap (products : List MatchProduct) : List (String × ProductId) :=
  let (byKey, ambiguous) := products.foldl (resolveStep js) ([], [])
  byKey.filter fun e => e.1 ∉ ambiguous

/-- Till codes with the products they were matched to, as the lines have them. -/
def matchedHistory (lines : List PosSaleLine) : List (String × Option ProductId) :=
  ((lines.filter fun l => l.productId ≠ none).map fun l => (l.sku, l.productId)).eraseDups

/-- What a row of the history teaches: a code no SKU covers, and its product. -/
def learnedEntry (skuToProductId : List (String × ProductId))
    (row : String × Option ProductId) : Option (String × ProductId) := do
  let productId ← row.2
  let key := normalizeSku js (some row.1)
  if key = "" ∨ (skuToProductId.lookup key).isSome then none else some (key, productId)

/-- The map with the codes that no SKU covers and that were matched to one product. -/
def mergeLearnedAliases (skuToProductId : List (String × ProductId))
    (matchedHistory : List (String × Option ProductId)) : List (String × ProductId) :=
  let byKey := Series.groups (matchedHistory.filterMap (learnedEntry js skuToProductId))
  setEntries skuToProductId
    (byKey.filterMap fun g => (single g.2).map fun productId => (g.1, productId))

/-- The products the lines of a code were matched to. -/
def matchedProducts (lines : List PosSaleLine) (key : String) : List ProductId :=
  (lines.filter fun l => normalizeSku js (some l.sku) = key).filterMap PosSaleLine.productId

variable {js}

/-- A row teaches its product under its code, when the code is not empty and no SKU covers
it. -/
theorem learnedEntry_eq_some {skuToProductId : List (String × ProductId)}
    {row : String × Option ProductId} {key : String} {productId : ProductId} :
    learnedEntry js skuToProductId row = some (key, productId) ↔
      row.2 = some productId ∧ normalizeSku js (some row.1) = key ∧ key ≠ "" ∧
        skuToProductId.lookup key = none := by
  unfold learnedEntry
  simp only [Option.bind_eq_bind, Option.bind_eq_some_iff]
  constructor
  · rintro ⟨p, hp, h⟩
    split at h
    · cases h
    · obtain ⟨rfl, rfl⟩ := Prod.mk.inj (Option.some.inj h)
      rename_i hcover
      rw [not_or] at hcover
      exact ⟨hp, rfl, hcover.1, Option.not_isSome_iff_eq_none.mp hcover.2⟩
  · rintro ⟨hp, rfl, hne, hnone⟩
    refine ⟨productId, hp, ?_⟩
    rw [if_neg]
    rw [not_or, hnone]
    exact ⟨hne, by simp⟩

/-- A product is one a code was matched to when a line of the code has it. -/
theorem mem_matchedProducts {lines : List PosSaleLine} {key : String} {productId : ProductId} :
    productId ∈ matchedProducts js lines key ↔
      ∃ l ∈ lines, normalizeSku js (some l.sku) = key ∧ l.productId = some productId := by
  simp only [matchedProducts, List.mem_filterMap, List.mem_filter, decide_eq_true_eq, and_assoc]

/-- What the groups of the history hold for a code that no SKU covers. -/
theorem mem_valuesAt_learned {skuToProductId : List (String × ProductId)}
    {lines : List PosSaleLine} {key : String} {productId : ProductId} :
    productId ∈ Series.valuesAt
        ((matchedHistory lines).filterMap (learnedEntry js skuToProductId)) key ↔
      (key ≠ "" ∧ skuToProductId.lookup key = none) ∧
        productId ∈ matchedProducts js lines key := by
  rw [Series.mem_valuesAt, List.mem_filterMap, mem_matchedProducts]
  constructor
  · rintro ⟨row, hrow, hlearned⟩
    obtain ⟨hp, hkey, hne, hnone⟩ := learnedEntry_eq_some.mp hlearned
    rw [matchedHistory, List.mem_eraseDups, List.mem_map] at hrow
    obtain ⟨l, hl, rfl⟩ := hrow
    exact ⟨⟨hne, hnone⟩, l, (List.mem_filter.mp hl).1, hkey, hp⟩
  · rintro ⟨⟨hne, hnone⟩, l, hmem, hkey, hp⟩
    refine ⟨(l.sku, l.productId), ?_, ?_⟩
    · rw [matchedHistory, List.mem_eraseDups, List.mem_map]
      refine ⟨l, List.mem_filter.mpr ⟨hmem, decide_eq_true ?_⟩, rfl⟩
      rw [hp]
      exact Option.some_ne_none _
    · exact learnedEntry_eq_some.mpr ⟨hp, hkey, hne, hnone⟩

/-- What a till code comes to: the product of its SKU, or else the only product the code was
matched to. -/
theorem lookup_mergeLearnedAliases (skuToProductId : List (String × ProductId))
    (lines : List PosSaleLine) (key : String) :
    (mergeLearnedAliases js skuToProductId (matchedHistory lines)).lookup key
      = (skuToProductId.lookup key).or
          (if key = "" then none else single (matchedProducts js lines key)) := by
  set learned := (matchedHistory lines).filterMap (learnedEntry js skuToProductId) with hlearned
  set keys := (learned.map Prod.fst).eraseDups with hkeys
  have hnodup : keys.Nodup := Series.nodup_eraseDups _
  have hlist : (Series.groups learned).filterMap
        (fun g => (single g.2).map fun productId => (g.1, productId))
      = keys.filterMap fun k =>
          (single (Series.valuesAt learned k)).map fun productId => (k, productId) := by
    rw [Series.groups, List.filterMap_map]
    rfl
  have hdistinct := Series.nodup_keys_filterMap
    (fun k => single (Series.valuesAt learned k)) hnodup
  -- what the groups teach under the key
  have hfound : (keys.filterMap fun k =>
      (single (Series.valuesAt learned k)).map fun productId => (k, productId)).lookup key
        = single (Series.valuesAt learned key) := by
    rw [Series.lookup_filterMap _ hnodup]
    by_cases hmem : key ∈ keys
    · rw [if_pos hmem]
    · have hnil : Series.valuesAt learned key = [] := by
        by_contra hne
        exact hmem (List.mem_eraseDups.mpr (Series.valuesAt_ne_nil.mp hne))
      rw [if_neg hmem, hnil]
      rfl
  rw [mergeLearnedAliases, ← hlearned, hlist, Series.lookup_setEntries _ hdistinct, hfound]
  cases hcover : skuToProductId.lookup key with
  | some productId =>
      -- a SKU covers the code: nothing is learned for it
      have hnil : Series.valuesAt learned key = [] := by
        refine List.eq_nil_iff_forall_not_mem.mpr fun p hp => ?_
        obtain ⟨⟨_, hnone⟩, _⟩ := mem_valuesAt_learned.mp hp
        rw [hcover] at hnone
        cases hnone
      rw [hnil]
      rfl
  | none =>
      rw [Option.or_none, Option.none_or]
      by_cases hkey : key = ""
      · have hnil : Series.valuesAt learned key = [] :=
          List.eq_nil_iff_forall_not_mem.mpr fun p hp => (mem_valuesAt_learned.mp hp).1.1 hkey
        rw [if_pos hkey, hnil]
        rfl
      · rw [if_neg hkey]
        refine Series.single_congr fun p => ?_
        rw [mem_valuesAt_learned]
        exact and_iff_right ⟨hkey, hcover⟩

end SkuMap

/-- What a roll-up of lines reads. -/
structure RollupMaps where
  /-- Normalized SKU to product. -/
  skuToProductId : List (String × ProductId)
  /-- Normalized till SKUs that are not products. -/
  ignoredSkus : List String
  /-- Product to catalogue price. -/
  priceByProductId : ProductId → Option ℚ
  /-- Normalized warehouse name to location. -/
  warehouseToLocationId : List (String × LocationId)

/-- subtotal, price × qty, catalogue price × qty, or 0. -/
def lineRevenue (qty : ℚ) (price subtotal productPrice : Option ℚ) : ℚ :=
  match subtotal.filter (0 < ·), price.filter (0 < ·), productPrice.filter (0 < ·) with
  | some subtotal, _, _ => subtotal
  | none, some price, _ => price * qty
  | none, none, some productPrice => productPrice * qty
  | none, none, none => 0

/-! ## Rows -/

/-- What a line counts for: units, revenue, and the branch it was rung at. -/
structure Counted where
  quantity : ℚ
  revenueKes : ℚ
  locationId : Option LocationId
  deriving DecidableEq, Repr

/-- A row of the sales history to be. -/
structure PlannedSalesHistoryRow where
  productId : ProductId
  dayKey : Time
  quantity : ℚ
  revenueKes : ℚ
  locationId : Option LocationId
  deriving DecidableEq, Repr

/-- The row of what counts for a product on a day. It names a branch only when all of it was
rung at that branch. -/
def rollupRow (g : (ProductId × Time) × List Counted) : PlannedSalesHistoryRow where
  productId := g.1.1
  dayKey := g.1.2
  quantity := (g.2.map Counted.quantity).sum
  revenueKes := (g.2.map Counted.revenueKes).sum
  locationId := (Series.single (g.2.map Counted.locationId)).join

/-- The rows of lines that count for products and days. -/
def rollupRows (entries : List ((ProductId × Time) × Counted)) : List PlannedSalesHistoryRow :=
  (Series.groups entries).map rollupRow

/-! ## The planner -/

section Plan

variable (js : Js) (maps : RollupMaps) (dayKeyOf : Time → Time)

/-- The channels that are already in the sales history. -/
def ONLINE_CHANNELS : List String :=
  ["shopify", "online", "web", "ecommerce", "e-commerce"]

/-- An online receipt is already in the sales history. -/
def isOnlineSale (sale : PosSaleInput) : Bool :=
  let channel := normalizeSku js sale.channel
  (channel ≠ "" ∧ channel ∈ ONLINE_CHANNELS) ∨ normalizeSku js sale.createdBy = "shopify"

/-- The product a till code matches. -/
def matchSku (sku : String) : Option ProductId :=
  let key := normalizeSku js (some sku)
  if key = "" then none else maps.skuToProductId.lookup key

/-- The line as it is stored. -/
def planLine (line : PosLineInput) : PosSaleLine where
  sku := line.sku
  productName := line.name.getD ""
  qty := line.qty
  price := line.price.getD 0
  subtotal := line.subtotal.getD 0
  productId := matchSku js maps line.sku

/-- The receipt as it is stored. The day of an invalid date throws. -/
def planSale (sale : PosSaleInput) : Option PosSale := do
  let date ← sale.date
  return {
    externalId := sale.externalId
    reference := sale.reference
    date
    createdBy := sale.createdBy.getD ""
    salesAgent := sale.salesAgent
    warehouse := sale.warehouse
    customer := sale.customer
    saleStatus := sale.saleStatus
    paymentStatus := sale.paymentStatus
    grandTotal := sale.grandTotal.getD 0
    channel := "physical"
    lines := sale.lines.map (planLine js maps) }

/-- What becomes of a line. -/
inductive LineFate
  /-- Its code is not a product. -/
  | ignored
  /-- Its code matches no product. -/
  | unmatched
  /-- Its code matches a product. -/
  | matched (productId : ProductId)
  deriving DecidableEq, Repr

/-- What becomes of a line: an ignored code is set aside before it is matched. -/
def lineFate (line : PosLineInput) : LineFate :=
  let key := normalizeSku js (some line.sku)
  if key ≠ "" ∧ key ∈ maps.ignoredSkus then .ignored
  else
    match matchSku js maps line.sku with
    | none => .unmatched
    | some productId => .matched productId

/-- What a line of a receipt adds to the sales history. -/
def plannedEntry (sale : PosSaleInput) (line : PosLineInput) :
    Option ((ProductId × Time) × Counted) := do
  let date ← sale.date
  match lineFate js maps line with
  | .matched productId =>
      some ((productId, dayKeyOf date),
        { quantity := line.qty
          revenueKes :=
            lineRevenue line.qty line.price line.subtotal (maps.priceByProductId productId)
          locationId := maps.warehouseToLocationId.lookup (normalizeSku js sale.warehouse) })
  | _ => none

/-- An unmatched till code, rolled up. -/
structure UnmatchedSku where
  sku : String
  productName : String
  units : ℚ
  revenueKes : ℚ
  deriving DecidableEq, Repr

/-- What a line adds to the roll-up of unmatched codes. -/
def unmatchedEntry (line : PosLineInput) : Option (String × UnmatchedSku) :=
  let key := normalizeSku js (some line.sku)
  if lineFate js maps line = .unmatched ∧ key ≠ "" then
    some (key,
      { sku := js.trim line.sku
        productName := line.name.getD ""
        units := line.qty
        revenueKes := lineRevenue line.qty line.price line.subtotal none })
  else none

/-- The unmatched codes, by revenue. The first line of a code names it. -/
def unmatchedSkus (lines : List PosLineInput) : List UnmatchedSku :=
  let rows := (Series.groups (lines.filterMap (unmatchedEntry js maps))).filterMap fun g =>
    g.2.head?.map fun first =>
      { first with
        units := (g.2.map UnmatchedSku.units).sum
        revenueKes := (g.2.map UnmatchedSku.revenueKes).sum }
  rows.insertionSort fun a b => b.revenueKes ≤ a.revenueKes

/-- The plan of an ingest. -/
structure PosIngestPlan where
  sales : List PosSale
  salesHistory : List PlannedSalesHistoryRow
  externalIds : List String
  linesMatched : ℕ
  linesUnmatched : ℕ
  linesIgnored : ℕ
  salesExcluded : ℕ
  unmatched : List UnmatchedSku
  deriving DecidableEq, Repr

/-- One receipt per external id: the last one, where the first one stood. -/
def dedupeSales (sales : List PosSaleInput) : List PosSaleInput :=
  (setEntries [] (sales.map fun s => (s.externalId, s))).map Prod.snd

/-- The receipts of a window that are not online. -/
def physicalSales (sales : List PosSaleInput) : List PosSaleInput :=
  (dedupeSales sales).filter fun sale => !isOnlineSale js sale

/-- The receipts to store of a window, and what its lines come to. -/
def planPosIngest (sales : List PosSaleInput) : Option PosIngestPlan := do
  let physical := physicalSales js sales
  let planned ← physical.mapM (planSale js maps)
  let lines := physical.flatMap PosSaleInput.lines
  return {
    sales := planned
    salesHistory := rollupRows <| physical.flatMap fun sale =>
      sale.lines.filterMap (plannedEntry js maps dayKeyOf sale)
    externalIds := physical.map PosSaleInput.externalId
    linesMatched := lines.countP fun l =>
      lineFate js maps l ≠ .ignored ∧ lineFate js maps l ≠ .unmatched
    linesUnmatched := lines.countP fun l => lineFate js maps l = .unmatched
    linesIgnored := lines.countP fun l => lineFate js maps l = .ignored
    salesExcluded := (dedupeSales sales).countP (isOnlineSale js)
    unmatched := unmatchedSkus js maps lines }

/-! ## Stored lines -/

/-- A matched line that is stored, with its receipt's date and warehouse. -/
structure StoredPosLine where
  productId : ProductId
  qty : ℚ
  price : ℚ
  subtotal : ℚ
  saleDate : Time
  warehouse : Option String
  deriving DecidableEq, Repr

/-- What a stored line counts for. -/
def storedEntry (line : StoredPosLine) : (ProductId × Time) × Counted :=
  ((line.productId, dayKeyOf line.saleDate),
    { quantity := line.qty
      revenueKes := lineRevenue line.qty (some line.price) (some line.subtotal)
        (maps.priceByProductId line.productId)
      locationId := maps.warehouseToLocationId.lookup (normalizeSku js line.warehouse) })

/-- The rows of stored lines. -/
def aggregateStoredPosLines (lines : List StoredPosLine) : List PlannedSalesHistoryRow :=
  rollupRows (lines.map (storedEntry js maps dayKeyOf))

end Plan

/-! ## The row of a product and day -/

section DayRow

variable {entries : List ((ProductId × Time) × Counted)} {productId : ProductId} {day : Time}

/-- The row of what counts for a product on a day; nothing when nothing does. -/
def dayRow (productId : ProductId) (day : Time) (counted : List Counted) :
    Option PlannedSalesHistoryRow :=
  if counted = [] then none else some (rollupRow ((productId, day), counted))

/-- The rows of a product and day among the rows of some lines: the one of what counts for
them, if any. -/
theorem filter_rollupRows (entries : List ((ProductId × Time) × Counted)) (productId : ProductId)
    (day : Time) :
    (rollupRows entries).filter (fun r => r.productId = productId ∧ r.dayKey = day)
      = (dayRow productId day (Series.valuesAt entries (productId, day))).toList := by
  have hkey : (rollupRows entries).filter (fun r => r.productId = productId ∧ r.dayKey = day)
      = ((Series.groups entries).filter fun g => g.1 = (productId, day)).map rollupRow := by
    rw [rollupRows, List.filter_map]
    refine congrArg _ (List.filter_congr fun g _ => ?_)
    exact decide_eq_decide.mpr (Prod.ext_iff (x := g.1) (y := (productId, day))).symm
  rw [hkey, Series.filter_groups, dayRow]
  by_cases hnil : Series.valuesAt entries (productId, day) = []
  · rw [if_pos hnil, if_pos hnil]
    rfl
  · rw [if_neg hnil, if_neg hnil]
    rfl

/-- A row of lines is of the product and day of one of them. -/
theorem key_mem_of_mem_rollupRows {r : PlannedSalesHistoryRow} (h : r ∈ rollupRows entries) :
    (r.productId, r.dayKey) ∈ entries.map Prod.fst := by
  obtain ⟨g, hg, rfl⟩ := List.mem_map.mp h
  obtain ⟨hvalues, hne⟩ := Series.mem_groups.mp hg
  exact Series.valuesAt_ne_nil.mp (hvalues ▸ hne)

/-- No two rows of lines are of one product and day. -/
theorem nodup_keys_rollupRows (entries : List ((ProductId × Time) × Counted)) :
    ((rollupRows entries).map fun r => (r.productId, r.dayKey)).Nodup := by
  rw [rollupRows, List.map_map]
  exact Series.nodup_keys_groups entries

end DayRow

/-! ## Lines that only one side counts -/

section Evens

variable {both xs ys : List Counted} {productId : ProductId} {day : Time}

/-- The order of the lines does not matter. -/
theorem dayRow_perm {counted counted' : List Counted} (h : counted.Perm counted') :
    dayRow productId day counted = dayRow productId day counted' := by
  have hrow : rollupRow ((productId, day), counted) = rollupRow ((productId, day), counted') := by
    have hlocs : Series.single (counted.map Counted.locationId)
        = Series.single (counted'.map Counted.locationId) :=
      Series.single_congr fun l => (h.map Counted.locationId).mem_iff
    simp only [rollupRow, PlannedSalesHistoryRow.mk.injEq, true_and, hlocs, and_true]
    exact ⟨(h.map _).sum_eq, (h.map _).sum_eq⟩
  have hnil : counted = [] ↔ counted' = [] := by
    rw [← List.length_eq_zero_iff, h.length_eq, List.length_eq_zero_iff]
  rw [dayRow, dayRow, hrow]
  simp only [hnil]

/-- Two sets of lines come to the same, beside lines that count either way: the same units,
the same revenue and the same branch, and a row under both or neither. -/
structure Evens (both xs ys : List Counted) : Prop where
  quantity : (xs.map Counted.quantity).sum = (ys.map Counted.quantity).sum
  revenueKes : (xs.map Counted.revenueKes).sum = (ys.map Counted.revenueKes).sum
  locationId : (Series.single ((both ++ xs).map Counted.locationId)).join
    = (Series.single ((both ++ ys).map Counted.locationId)).join
  row : both ++ xs = [] ↔ both ++ ys = []

/-- No lines on either side are even. -/
theorem Evens.nil (both : List Counted) : Evens both [] [] :=
  ⟨rfl, rfl, rfl, Iff.rfl⟩

/-- Rows are the same when what only one of them counts comes to the same. -/
theorem rollupRow_append_eq_iff {key : ProductId × Time} :
    rollupRow (key, both ++ xs) = rollupRow (key, both ++ ys) ↔
      (xs.map Counted.quantity).sum = (ys.map Counted.quantity).sum ∧
      (xs.map Counted.revenueKes).sum = (ys.map Counted.revenueKes).sum ∧
      (Series.single ((both ++ xs).map Counted.locationId)).join
        = (Series.single ((both ++ ys).map Counted.locationId)).join := by
  simp only [rollupRow, PlannedSalesHistoryRow.mk.injEq, true_and, List.map_append,
    List.sum_append, add_right_inj]

variable (productId day) in
/-- A day has the same row when what only one side counts comes to the same. -/
theorem dayRow_append_eq_iff :
    dayRow productId day (both ++ xs) = dayRow productId day (both ++ ys) ↔ Evens both xs ys := by
  have hevens : Evens both xs ys ↔ (both ++ xs = [] ↔ both ++ ys = []) ∧
      rollupRow ((productId, day), both ++ xs) = rollupRow ((productId, day), both ++ ys) := by
    rw [rollupRow_append_eq_iff]
    constructor
    · rintro ⟨hquantity, hrevenue, hlocation, hrow⟩
      exact ⟨hrow, hquantity, hrevenue, hlocation⟩
    · rintro ⟨hrow, hquantity, hrevenue, hlocation⟩
      exact ⟨hquantity, hrevenue, hlocation, hrow⟩
  rw [hevens, dayRow, dayRow]
  by_cases hx : both ++ xs = []
  · by_cases hy : both ++ ys = []
    · simp [hx, hy]
    · simp [hx, hy]
  · by_cases hy : both ++ ys = []
    · simp [hx, hy]
    · rw [if_neg hx, if_neg hy, Option.some.injEq]
      simp [hx, hy]

end Evens

end Restock.Pos
