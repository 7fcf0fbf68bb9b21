import Restock.Sales.TradingDay
import Restock.Series.Entries

/-!
# The orders of the days to rebuild

A sync pulls the orders that were updated since the start of its window and rebuilds every
trading day they were sold on. Rebuilding a day takes all its orders, so a day that begins
before the window is pulled a second time, by sale date.

* `ShopifyOrderNode`, `saleInstant` — an order as the API returns it, and when it was sold;
* `affectedDayKeys`, `collectDayOrders` — the days to rebuild, and every order sold on them;
* `Shop`, `Shop.Pulls` — the orders a shop has, and what the two pulls return of them;
* `collectDayOrders_complete` — the orders of those days are collected, each once.
-/

namespace Restock.Sales

open Series (setEntries)

/-! ## Orders -/

/-- One item of a refund. -/
structure RefundLineItem where
  quantity : Option ℚ := none
  /-- `lineItem.id`. -/
  lineItem : Option String := none
  deriving DecidableEq, Repr

/-- A line of an order. -/
structure LineItem where
  id : Option String := none
  quantity : Option ℚ := none
  /-- `product.id`. -/
  product : Option String := none
  /-- `variant.id`. -/
  variant : Option String := none
  /-- `originalUnitPriceSet.shopMoney.amount`. -/
  amount : Option String := none
  deriving DecidableEq, Repr

/-- An order as the API returns it. A missing list is an empty one. -/
structure ShopifyOrderNode where
  id : String
  createdAt : Option String := none
  processedAt : Option String := none
  cancelledAt : Option String := none
  /-- The items of every refund. -/
  refunds : List (List RefundLineItem) := []
  lineItems : List LineItem := []
  /-- `location.id` of every fulfilment. -/
  fulfillments : List (Option String) := []
  deriving DecidableEq, Repr

/-- An optional text that a condition takes as true: there, and not empty. -/
def truthy (text : Option String) : Option String :=
  text.filter (· ≠ "")

namespace ShopifyOrderNode

/-- `processedAt ?? createdAt`. -/
def saleAt (order : ShopifyOrderNode) : Option String :=
  order.processedAt.or order.createdAt

variable (newDate : String → Option Time) (dayKeyOf : Time → Time)

/-- The instant an order was sold; nothing without a date, or when the date is invalid. -/
def saleInstant (order : ShopifyOrderNode) : Option Time :=
  (truthy order.saleAt).bind newDate

/-- The trading day an order was sold on. -/
def saleDay (order : ShopifyOrderNode) : Option Time :=
  (order.saleInstant newDate).map dayKeyOf

end ShopifyOrderNode

open ShopifyOrderNode

section Collect

variable (newDate : String → Option Time) (dayKeyOf : Time → Time)

/-- Every trading day the given orders land on. -/
def affectedDayKeys (orders : List ShopifyOrderNode) : List Time :=
  (orders.filterMap (saleDay newDate dayKeyOf)).eraseDups

/-- An order under its id. -/
def byId (order : ShopifyOrderNode) : String × ShopifyOrderNode :=
  (order.id, order)

/-- The orders sold on one of the days. The day of an invalid date throws. -/
def keepSoldOn (days : List Time) : List ShopifyOrderNode → Option (List ShopifyOrderNode)
  | [] => some []
  | order :: orders =>
      match truthy order.saleAt with
      | none => keepSoldOn days orders
      | some text => do
          let instant ← newDate text
          let kept ← keepSoldOn days orders
          return if dayKeyOf instant ∈ days then order :: kept else kept

/-- What was pulled by update, with what is pulled by sale date over it, under the ids. -/
def pulledOrders (changed : List ShopifyOrderNode) (ranges : List DayKeyRange)
    (fetchSoldBetween : Time → Time → List ShopifyOrderNode) :
    List (String × ShopifyOrderNode) :=
  ranges.foldl
    (fun orders range =>
      let window := processedWindowFor range
      setEntries orders ((fetchSoldBetween window.1 window.2).map byId))
    (setEntries [] (changed.map byId))

/-- The days to rebuild, and every order sold on them. -/
def collectDayOrders (changed : List ShopifyOrderNode) (windowStart : Time)
    (fetchSoldBetween : Time → Time → List ShopifyOrderNode) :
    Option (List Time × List ShopifyOrderNode) := do
  let days := affectedDayKeys newDate dayKeyOf changed
  let toRefetch := days.filter fun day => dayNeedsRefetch day windowStart
  let orders := pulledOrders changed (dayKeyRanges toRefetch) fetchSoldBetween
  -- the padded fetch brings in neighbouring days; only the rebuilt ones count
  let kept ← keepSoldOn newDate dayKeyOf days (orders.map Prod.snd)
  return (days, kept)

variable {newDate dayKeyOf}

/-- A day is affected when some order was sold on it. -/
theorem mem_affectedDayKeys {orders : List ShopifyOrderNode} {day : Time} :
    day ∈ affectedDayKeys newDate dayKeyOf orders ↔
      ∃ order ∈ orders, order.saleDay newDate dayKeyOf = some day := by
  rw [affectedDayKeys, List.mem_eraseDups, List.mem_filterMap]

/-- The filter keeps what was sold on one of the days, unless it meets an invalid date. -/
theorem keepSoldOn_eq {days : List Time} {orders : List ShopifyOrderNode}
    (h : ∀ order ∈ orders, ∀ text, truthy order.saleAt = some text → (newDate text).isSome) :
    keepSoldOn newDate dayKeyOf days orders
      = some (orders.filter fun order =>
          (order.saleDay newDate dayKeyOf).any fun day => day ∈ days) := by
  induction orders with
  | nil => rfl
  | cons order orders ih =>
      have hrest := ih fun o ho => h o (List.mem_cons_of_mem _ ho)
      rw [keepSoldOn]
      cases htext : truthy order.saleAt with
      | none =>
          have hday : order.saleDay newDate dayKeyOf = none := by simp [saleDay, saleInstant, htext]
          simp only [hrest]
          rw [List.filter_cons_of_neg (by simp [hday])]
      | some text =>
          obtain ⟨instant, hinstant⟩ :=
            Option.isSome_iff_exists.mp (h order List.mem_cons_self text htext)
          have hday : order.saleDay newDate dayKeyOf = some (dayKeyOf instant) := by
            simp [saleDay, saleInstant, htext, hinstant]
          simp only [hinstant, hrest, Option.bind_eq_bind, Option.bind_some, Option.pure_def]
          by_cases hmem : dayKeyOf instant ∈ days
          · rw [if_pos hmem, List.filter_cons_of_pos (by simp [hday, hmem])]
          · rw [if_neg hmem, List.filter_cons_of_neg (by simp [hday, hmem])]

/-- What the filter keeps was sold on one of the days. -/
theorem saleDay_of_keepSoldOn {days : List Time} {orders kept : List ShopifyOrderNode}
    (h : keepSoldOn newDate dayKeyOf days orders = some kept) :
    ∀ order ∈ kept, ∃ day ∈ days, order.saleDay newDate dayKeyOf = some day := by
  induction orders generalizing kept with
  | nil =>
      obtain rfl : [] = kept := Option.some.inj h
      simp
  | cons order orders ih =>
      rw [keepSoldOn] at h
      cases htext : truthy order.saleAt with
      | none =>
          simp only [htext] at h
          exact ih h
      | some text =>
          simp only [htext] at h
          obtain ⟨instant, hinstant, h⟩ := Option.bind_eq_some_iff.mp h
          obtain ⟨rest, hrest, h⟩ := Option.bind_eq_some_iff.mp h
          have hkept : (if dayKeyOf instant ∈ days then order :: rest else rest) = kept :=
            Option.some.inj h
          by_cases hmem : dayKeyOf instant ∈ days
          · rw [if_pos hmem] at hkept
            subst hkept
            intro o ho
            rcases List.mem_cons.mp ho with rfl | ho
            · exact ⟨_, hmem, by simp [saleDay, saleInstant, htext, hinstant]⟩
            · exact ih hrest o ho
          · rw [if_neg hmem] at hkept
            subst hkept
            exact ih hrest

/-- What is collected: the days of the orders that changed, and orders sold on them. -/
theorem collectDayOrders_eq_some {changed : List ShopifyOrderNode} {windowStart : Time}
    {fetchSoldBetween : Time → Time → List ShopifyOrderNode} {days : List Time}
    {orders : List ShopifyOrderNode}
    (h : collectDayOrders newDate dayKeyOf changed windowStart fetchSoldBetween
      = some (days, orders)) :
    days = affectedDayKeys newDate dayKeyOf changed ∧
      ∀ order ∈ orders, ∃ day ∈ days, order.saleDay newDate dayKeyOf = some day := by
  obtain ⟨kept, hkept, h⟩ := Option.bind_eq_some_iff.mp h
  obtain ⟨rfl, rfl⟩ := Prod.mk.inj (Option.some.inj h)
  exact ⟨rfl, saleDay_of_keepSoldOn hkept⟩

end Collect

/-! ## What a shop has, and what is pulled of it -/

/-- The orders of a shop, and when each was last updated. -/
structure Shop where
  orders : List ShopifyOrderNode
  /-- When the order under an id was last updated. -/
  updatedAt : String → Time
  /-- No two orders share an id. -/
  nodup_ids : (orders.map ShopifyOrderNode.id).Nodup

namespace Shop

variable (shop : Shop) (newDate : String → Option Time)

/-- Every order was updated at or after the instant it was sold. -/
def UpdatedSinceSale : Prop :=
  ∀ order ∈ shop.orders, ∀ text, truthy order.saleAt = some text →
    ∃ instant, newDate text = some instant ∧ instant ≤ shop.updatedAt order.id

/-- What the pulls return: the one by update, the orders updated at or after the start of the
window; the one by sale date, the orders sold in the interval asked for. -/
structure Pulls (windowStart : Time) (changed : List ShopifyOrderNode)
    (fetchSoldBetween : Time → Time → List ShopifyOrderNode) : Prop where
  mem_changed : ∀ order, order ∈ changed ↔
    order ∈ shop.orders ∧ windowStart ≤ shop.updatedAt order.id
  mem_fetch : ∀ startAt endAt order, order ∈ fetchSoldBetween startAt endAt ↔
    order ∈ shop.orders ∧ ∃ instant, order.saleInstant newDate = some instant ∧
      startAt ≤ instant ∧ instant < endAt

/-- The orders updated at or after an instant. -/
def changedSince (windowStart : Time) : List ShopifyOrderNode :=
  shop.orders.filter fun order => windowStart ≤ shop.updatedAt order.id

/-- The orders sold in an interval. -/
def soldBetween (startAt endAt : Time) : List ShopifyOrderNode :=
  shop.orders.filter fun order =>
    (order.saleInstant newDate).any fun instant => startAt ≤ instant ∧ instant < endAt

/-- Pulls that filter the orders of the shop. -/
theorem pulls_filter (windowStart : Time) :
    shop.Pulls newDate windowStart (shop.changedSince windowStart)
      (shop.soldBetween newDate) where
  mem_changed order := by
    rw [changedSince, List.mem_filter, decide_eq_true_eq]
  mem_fetch startAt endAt order := by
    rw [soldBetween, List.mem_filter, Option.any_eq_true]
    simp only [decide_eq_true_eq]

variable {shop newDate} {windowStart : Time} {changed : List ShopifyOrderNode}
  {fetchSoldBetween : Time → Time → List ShopifyOrderNode} {timezone : Zone}

/-- Orders of a shop with one id are one order. -/
theorem eq_of_id_eq {a b : ShopifyOrderNode} (ha : a ∈ shop.orders) (hb : b ∈ shop.orders)
    (h : a.id = b.id) : a = b :=
  List.inj_on_of_nodup_map shop.nodup_ids ha hb h

/-- An order with a date has a sale instant, and was updated since. -/
theorem UpdatedSinceSale.le (h : shop.UpdatedSinceSale newDate) {order : ShopifyOrderNode}
    (horder : order ∈ shop.orders) {instant : Time}
    (hinstant : order.saleInstant newDate = some instant) :
    instant ≤ shop.updatedAt order.id := by
  obtain ⟨text, htext, hnew⟩ := Option.bind_eq_some_iff.mp hinstant
  obtain ⟨instant', hnew', hle⟩ := h order horder text htext
  have heq : instant = instant' := Option.some.inj (hnew.symm.trans hnew')
  exact heq ▸ hle

/-- An order sold on an affected day was pulled: by its update when its day needs no second
pull, and else by its sale date. -/
theorem Pulls.mem_of_saleDay (pulls : shop.Pulls newDate windowStart changed fetchSoldBetween)
    (h : shop.UpdatedSinceSale newDate) {order : ShopifyOrderNode}
    (horder : order ∈ shop.orders) {day : Time}
    (hday : order.saleDay newDate (tenantDayKey timezone) = some day) {days : List Time}
    (hmem : day ∈ days) :
    order ∈ changed ∨
      ∃ range ∈ dayKeyRanges (days.filter fun day => dayNeedsRefetch day windowStart),
        order ∈ fetchSoldBetween (processedWindowFor range).1 (processedWindowFor range).2 := by
  obtain ⟨instant, hinstant, rfl⟩ := Option.map_eq_some_iff.mp hday
  cases hneeds : dayNeedsRefetch (tenantDayKey timezone instant) windowStart with
  | false =>
      left
      rw [pulls.mem_changed]
      exact ⟨horder, (le_of_not_dayNeedsRefetch hneeds).trans (h.le horder hinstant)⟩
  | true =>
      right
      have hrefetch : tenantDayKey timezone instant
          ∈ days.filter fun day => dayNeedsRefetch day windowStart :=
        List.mem_filter.mpr ⟨hmem, hneeds⟩
      obtain ⟨range, hrange, hholds⟩ := exists_holds_dayKeyRanges hrefetch
      refine ⟨range, hrange, ?_⟩
      rw [pulls.mem_fetch]
      exact ⟨horder, instant, hinstant, mem_processedWindowFor hholds⟩

/-- Every order that was pulled is gathered once, under its id. -/
theorem Pulls.mem_pulledOrders (pulls : shop.Pulls newDate windowStart changed fetchSoldBetween)
    (ranges : List DayKeyRange) (e : String × ShopifyOrderNode) :
    e ∈ pulledOrders changed ranges fetchSoldBetween ↔
      e = byId e.2 ∧ (e.2 ∈ changed ∨ ∃ range ∈ ranges,
        e.2 ∈ fetchSoldBetween (processedWindowFor range).1 (processedWindowFor range).2) := by
  set pulled : List ShopifyOrderNode := changed ++ ranges.flatMap fun range =>
    fetchSoldBetween (processedWindowFor range).1 (processedWindowFor range).2 with hpulled
  have hloop : pulledOrders changed ranges fetchSoldBetween = setEntries [] (pulled.map byId) := by
    rw [pulledOrders, Series.foldl_setEntries, hpulled, List.map_append, List.map_flatMap]
    simp only [setEntries, List.foldl_append]
  have hshop : ∀ order ∈ pulled, order ∈ shop.orders := by
    intro order horder
    rcases List.mem_append.mp horder with horder | horder
    · exact ((pulls.mem_changed order).mp horder).1
    · obtain ⟨range, _, horder⟩ := List.mem_flatMap.mp horder
      exact ((pulls.mem_fetch _ _ order).mp horder).1
  have hfun : ∀ a ∈ pulled.map byId, ∀ b ∈ pulled.map byId, a.1 = b.1 → a = b := by
    simp only [List.mem_map]
    rintro _ ⟨a, ha, rfl⟩ _ ⟨b, hb, rfl⟩ hab
    rw [eq_of_id_eq (hshop a ha) (hshop b hb) hab]
  rw [hloop, Series.mem_setEntries_nil hfun, List.mem_map]
  have hmem : ∀ order, order ∈ pulled ↔ order ∈ changed ∨ ∃ range ∈ ranges,
      order ∈ fetchSoldBetween (processedWindowFor range).1 (processedWindowFor range).2 := by
    intro order
    rw [hpulled, List.mem_append, List.mem_flatMap]
  constructor
  · rintro ⟨order, horder, rfl⟩
    exact ⟨rfl, (hmem order).mp horder⟩
  · rintro ⟨he, horder⟩
    exact ⟨e.2, (hmem e.2).mpr horder, he.symm⟩

/-- The orders gathered have distinct ids. -/
theorem Pulls.nodup_pulledOrders
    (pulls : shop.Pulls newDate windowStart changed fetchSoldBetween)
    (ranges : List DayKeyRange) :
    (((pulledOrders changed ranges fetchSoldBetween).map Prod.snd).map
      ShopifyOrderNode.id).Nodup := by
  have hids : ((pulledOrders changed ranges fetchSoldBetween).map Prod.snd).map
      ShopifyOrderNode.id = (pulledOrders changed ranges fetchSoldBetween).map Prod.fst := by
    rw [List.map_map]
    refine List.map_congr_left fun e he => ?_
    have hkey := ((pulls.mem_pulledOrders ranges e).mp he).1
    exact (congrArg Prod.fst hkey).symm
  rw [hids, pulledOrders, Series.foldl_setEntries]
  exact Series.nodup_keys_setEntries _ (Series.nodup_keys_setEntries_nil _)

end Shop

/-- The orders that are collected are the orders of the shop whose trading day is that of
some order updated since the start of the window, each of them once. -/
theorem collectDayOrders_complete (timezone : Zone) {newDate : String → Option Time} {shop : Shop}
    (hsale : shop.UpdatedSinceSale newDate) {windowStart : Time}
    {changed : List ShopifyOrderNode}
    {fetchSoldBetween : Time → Time → List ShopifyOrderNode}
    (pulls : shop.Pulls newDate windowStart changed fetchSoldBetween) :
    ∃ days orders,
      collectDayOrders newDate (tenantDayKey timezone) changed windowStart fetchSoldBetween
        = some (days, orders) ∧
      (orders.map ShopifyOrderNode.id).Nodup ∧
      ∀ order, order ∈ orders ↔ order ∈ shop.orders ∧ ∃ day,
        order.saleDay newDate (tenantDayKey timezone) = some day ∧
          ∃ other ∈ shop.orders, windowStart ≤ shop.updatedAt other.id ∧
            other.saleDay newDate (tenantDayKey timezone) = some day := by
  set days := affectedDayKeys newDate (tenantDayKey timezone) changed with hdays
  set ranges := dayKeyRanges (days.filter fun day => dayNeedsRefetch day windowStart)
    with hranges
  have hpulled : ∀ order, order ∈ (pulledOrders changed ranges fetchSoldBetween).map Prod.snd ↔
      order ∈ changed ∨ ∃ range ∈ ranges,
        order ∈ fetchSoldBetween (processedWindowFor range).1 (processedWindowFor range).2 := by
    intro order
    rw [List.mem_map]
    constructor
    · rintro ⟨e, he, rfl⟩
      exact ((pulls.mem_pulledOrders ranges e).mp he).2
    · intro h
      exact ⟨byId order, (pulls.mem_pulledOrders ranges _).mpr ⟨rfl, h⟩, rfl⟩
  have hshop : ∀ order ∈ (pulledOrders changed ranges fetchSoldBetween).map Prod.snd,
      order ∈ shop.orders := by
    intro order horder
    rcases (hpulled order).mp horder with h | ⟨range, _, h⟩
    · exact ((pulls.mem_changed order).mp h).1
    · exact ((pulls.mem_fetch _ _ order).mp h).1
  have hdated : ∀ order ∈ (pulledOrders changed ranges fetchSoldBetween).map Prod.snd,
      ∀ text, truthy order.saleAt = some text → (newDate text).isSome := by
    intro order horder text htext
    obtain ⟨instant, hinstant, _⟩ := hsale order (hshop order horder) text htext
    exact Option.isSome_iff_exists.mpr ⟨instant, hinstant⟩
  have hmemdays : ∀ day, day ∈ days ↔ ∃ other ∈ shop.orders,
      windowStart ≤ shop.updatedAt other.id ∧
        other.saleDay newDate (tenantDayKey timezone) = some day := by
    intro day
    rw [hdays, mem_affectedDayKeys]
    simp only [pulls.mem_changed, and_assoc]
  refine ⟨days, ((pulledOrders changed ranges fetchSoldBetween).map Prod.snd).filter fun order =>
    (order.saleDay newDate (tenantDayKey timezone)).any fun day => day ∈ days, ?_, ?_,
    fun order => ?_⟩
  · unfold collectDayOrders
    simp only [← hdays, ← hranges, keepSoldOn_eq hdated, Option.bind_eq_bind, Option.bind_some,
      Option.pure_def]
  · exact (pulls.nodup_pulledOrders ranges).sublist (List.filter_sublist.map _)
  · rw [List.mem_filter]
    constructor
    · rintro ⟨horder, hday⟩
      obtain ⟨day, hsold, hmem⟩ := (Option.any_eq_true _ _).mp hday
      exact ⟨hshop order horder, day, hsold, (hmemdays day).mp (of_decide_eq_true hmem)⟩
    · -- an affected day lies in the window, or is fetched whole
      rintro ⟨horder, day, hsold, hother⟩
      have hmem : day ∈ days := (hmemdays day).mpr hother
      refine ⟨(hpulled order).mpr (pulls.mem_of_saleDay hsale horder hsold hmem), ?_⟩
      rw [hsold]
      exact decide_eq_true hmem

/-! ### A shop in Nairobi -/

/-- Two units of a product. -/
def nairobiLine : LineItem :=
  { quantity := some 2, product := some "gid://shopify/Product/7", amount := some "10.00" }

/-- A sale at one in the morning in Nairobi, before midnight UTC, and one later that day. -/
def nairobiShop : Shop where
  orders :=
    [{ id := "a", processedAt := some "2026-03-01T22:00:00Z", lineItems := [nairobiLine] },
      { id := "b", createdAt := some "2026-03-02T05:00:00Z", lineItems := [nairobiLine] }]
  updatedAt id := if id = "a" then 1772402400000 else 1772427600000
  nodup_ids := by decide

/-- The two dates of the shop. -/
def nairobiDate (text : String) : Option Time :=
  if text = "2026-03-01T22:00:00Z" then some 1772402400000
  else if text = "2026-03-02T05:00:00Z" then some 1772427600000
  else none

/-- Both orders were last updated when they were sold. -/
theorem nairobiShop_updatedSinceSale : nairobiShop.UpdatedSinceSale nairobiDate := by
  intro order horder text htext
  simp only [nairobiShop, List.mem_cons, List.not_mem_nil, or_false] at horder
  rcases horder with rfl | rfl
  · obtain rfl : "2026-03-01T22:00:00Z" = text := Option.some.inj htext
    exact ⟨1772402400000, by decide, by decide⟩
  · obtain rfl : "2026-03-02T05:00:00Z" = text := Option.some.inj htext
    exact ⟨1772427600000, by decide, by decide⟩

/-- The window of the sync starts at midnight UTC, between the two sales of that day. -/
theorem collectDayOrders_of_nairobi : ∃ days orders,
    collectDayOrders nairobiDate (tenantDayKey (Zone.fixed 3 (by decide)))
      (nairobiShop.changedSince 1772409600000) 1772409600000 (nairobiShop.soldBetween nairobiDate)
      = some (days, orders) ∧
    (orders.map ShopifyOrderNode.id).Nodup ∧
    ∀ order, order ∈ orders ↔ order ∈ nairobiShop.orders ∧ ∃ day,
      order.saleDay nairobiDate (tenantDayKey (Zone.fixed 3 (by decide))) = some day ∧
        ∃ other ∈ nairobiShop.orders, 1772409600000 ≤ nairobiShop.updatedAt other.id ∧
          other.saleDay nairobiDate (tenantDayKey (Zone.fixed 3 (by decide))) = some day :=
  collectDayOrders_complete (Zone.fixed 3 (by decide)) nairobiShop_updatedSinceSale
    (nairobiShop.pulls_filter nairobiDate 1772409600000)

end Restock.Sales
