import Restock.Forecast.Layered
import Restock.Series.Entries

/-!
# What to do about stock that is not selling

The rules of `packages/forecast/src/recommendations.ts`, with the two definitions of idle stock
they rest on.

* `isDeadStock`, `shelfDaysSince` — held, not sold in the window, and on the shelf throughout;
* `overstockExcess` — selling, with more cover than a threshold;
* `suggestedDiscountPct` — the discount the margin can fund;
* `recommendFor` — the actions of all products, the largest cash first;
* `nodup_keys_recommendFor` — no product gets an action twice;
* `discount_above_floor_iff` — when an announced price keeps the margin.
-/

namespace Restock.Recommendations

open Forecast (DAY_MS NEW_PRODUCT_DAYS dayKeyOf daysBetween jsRound jsRound_lt le_jsRound toFixed)
open Series (setEntry)

/-! ## Idle stock -/

/-- `DeadStockInput`. -/
structure DeadStockInput where
  currentStock : ℚ
  lastSaleAt : Option Time
  firstSeenAt : Option Time := none
  /-- Days on the shelf without a break; nothing when it was never seen empty. -/
  shelfDays : Option ℤ := none
  cutoff : Time
  asOf : Time
  deriving DecidableEq, Repr

/-- Held, not sold since the cutoff, and on the shelf ever since. What never sold is only dead
when it is clearly not new. -/
def isDeadStock (input : DeadStockInput) : Bool :=
  if input.currentStock ≤ 0 ∨ input.lastSaleAt.any (input.cutoff ≤ ·) then false
  else
    let windowDays := jsRound (daysBetween input.cutoff input.asOf)
    if input.shelfDays.any (· < windowDays) then false
    else if input.lastSaleAt.isSome then true
    else input.firstSeenAt.any fun firstSeen =>
      NEW_PRODUCT_DAYS * DAY_MS ≤ (input.asOf - firstSeen : ℤ)

/-- Days on the shelf: from the day after it was last seen empty through today, at most the
window. -/
def shelfDaysSince (lastEmptyDay : Option Time) (windowDays : ℤ) (asOf : Time) : ℤ :=
  match lastEmptyDay with
  | none => windowDays
  | some empty =>
      min windowDays (max 0 (jsRound (daysBetween (dayKeyOf empty) (dayKeyOf asOf))))

/-- What `overstockExcess` finds. -/
structure Overstock where
  isOverstock : Bool
  coverDays : Option ℚ
  excessUnits : ℚ
  excessValueKes : ℚ
  deriving DecidableEq, Repr

/-- Stock that covers more demand than the threshold. What does not sell is not overstock. -/
def overstockExcess (currentStock dailyRate costKes thresholdDays : ℚ) : Overstock :=
  if dailyRate ≤ 0 then ⟨false, none, 0, 0⟩
  else
    let coverDays := currentStock / dailyRate
    if coverDays ≤ thresholdDays then ⟨false, some coverDays, 0, 0⟩
    else
      let excessUnits := currentStock - thresholdDays * dailyRate
      ⟨true, some coverDays, excessUnits, excessUnits * costKes⟩

/-! ## Rules -/

/-- Cover beyond this many days counts as overstock. -/
def OVERSTOCK_COVER_DAYS : ℚ := 90

/-- The lowest a discounted price may fall, as a multiple of cost. -/
def MIN_PRICE_OVER_COST : ℚ := 21 / 20

/-- Smaller than this, a discount is not worth announcing. -/
def MIN_DISCOUNT_PCT : ℤ := 10

/-- `RecommendationAction`. -/
inductive RecommendationAction
  | stopReorder
  | discount
  | bundle
  | clear
  deriving DecidableEq, Repr

/-- `RecommendationProduct`. -/
structure RecommendationProduct where
  productId : ProductId
  title : String
  abc : Option String
  category : Option String
  onHand : ℚ
  costKes : ℚ
  priceKes : ℚ
  /-- Units a day. -/
  runRate : ℚ
  dead : Bool
  /-- Days since the last sale; nothing when it has never sold. -/
  daysSinceSale : Option ℤ
  /-- Units the current plan would order. -/
  plannedQty : ℤ
  deriving DecidableEq, Repr

/-- A value of a payload. -/
inductive PayloadValue
  | text (text : String)
  | number (number : ℤ)
  | productId (productId : ProductId)
  deriving DecidableEq, Repr

/-- `Recommendation`. -/
structure Recommendation where
  productId : ProductId
  action : RecommendationAction
  cashKes : ℚ
  idleUnits : ℤ
  reason : String
  payload : List (String × PayloadValue)
  deriving DecidableEq, Repr

/-- The product and action of a recommendation. -/
def Recommendation.key (r : Recommendation) : ProductId × RecommendationAction :=
  (r.productId, r.action)

/-- The discount aimed at: the staler the stock, the deeper. -/
def targetPct (p : RecommendationProduct) (windowDays : ℤ) : ℚ :=
  if !p.dead then 10
  else if p.daysSinceSale.all fun days => windowDays * (3 / 2 : ℚ) ≤ days then 30
  else 20

/-- The discount at which the price still clears cost. -/
def maxByMargin (p : RecommendationProduct) (target : ℚ) : ℚ :=
  if 0 < p.costKes then (1 - p.costKes * MIN_PRICE_OVER_COST / p.priceKes) * 100 else target

/-- Steps the discount by how stale the stock is, then caps it so that the price still clears
cost. Nothing when the margin cannot fund a worthwhile one. -/
def suggestedDiscountPct (p : RecommendationProduct) (windowDays : ℤ) : Option ℤ :=
  if p.priceKes ≤ 0 then none
  else
    let target := targetPct p windowDays
    let pct := ⌊min target (maxByMargin p target) / 5⌋ * 5
    if MIN_DISCOUNT_PCT ≤ pct then some pct else none

/-- One product of the loop that looks for the best seller of each category. -/
def anchorStep (anchors : List (String × RecommendationProduct)) (p : RecommendationProduct) :
    List (String × RecommendationProduct) :=
  match p.category with
  | none => anchors
  | some category =>
      if category = "" ∨ p.abc ≠ some "A" ∨ p.onHand ≤ 0 ∨ p.dead then anchors
      else if (anchors.lookup category).all (·.runRate < p.runRate) then
        setEntry anchors category p
      else anchors

/-- The best seller in each category with stock, the partner for a bundle. -/
def bundleAnchors (products : List RecommendationProduct) : List (String × RecommendationProduct) :=
  products.foldl anchorStep []

/-- The stock of a product that is beyond what it needs. -/
def RecommendationProduct.over (p : RecommendationProduct) : Overstock :=
  overstockExcess p.onHand p.runRate p.costKes OVERSTOCK_COVER_DAYS

/-- The whole units that are idle: all of a dead product, what is too much of another. -/
def RecommendationProduct.idleUnits (p : RecommendationProduct) : ℤ :=
  if p.dead then ⌊p.onHand⌋ else ⌊p.over.excessUnits⌋

section Product

variable (p : RecommendationProduct) (windowDays : ℤ) (idleUnits : ℤ)
  (anchors : List (String × RecommendationProduct))

/-- Why the product's stock is idle. -/
def RecommendationProduct.why : String :=
  if p.dead then
    match p.daysSinceSale with
    | none => toString idleUnits ++ " on the shelf and it has never sold"
    | some days =>
        toString idleUnits ++ " on the shelf and no sale in " ++ toString days ++ " days"
  else
    toString (jsRound (p.over.coverDays.getD 0)) ++ " days of stock at " ++ toFixed 2 p.runRate
      ++ " a day — " ++ toString idleUnits ++ " more than needed"

/-- The reorder to skip, when the plan would buy more. -/
def stopReorder : List Recommendation :=
  if 0 < p.plannedQty then
    [{ productId := p.productId
       action := .stopReorder
       cashKes := p.plannedQty * max 0 p.costKes
       idleUnits
       reason := "The plan would order " ++ toString p.plannedQty ++ " more, but "
         ++ p.why idleUnits ++ ". Skip this reorder."
       payload := [("plannedQty", .number p.plannedQty)] }]
  else []

/-- The one way to turn idle stock back into cash: a discount, else clearing what has been dead
for long, else a bundle. -/
def turnToCash : List Recommendation :=
  let idleCash : ℚ := idleUnits * max 0 p.costKes
  let longDead := p.dead ∧ p.daysSinceSale.all fun days => windowDays * 2 ≤ days
  match suggestedDiscountPct p windowDays with
  | some pct =>
      let newPrice := jsRound (p.priceKes * (1 - pct / 100))
      [{ productId := p.productId
         action := .discount
         cashKes := idleCash
         idleUnits
         reason := p.why idleUnits ++ ". Try " ++ toString pct ++ "% off (" ++ toString newPrice
           ++ " instead of " ++ toString (jsRound p.priceKes) ++ ") to free the cash."
         payload := [("pct", .number pct), ("newPriceKes", .number newPrice),
           ("priceKes", .number (jsRound p.priceKes))] }]
  | none =>
      if longDead then
        [{ productId := p.productId
           action := .clear
           cashKes := idleCash
           idleUnits
           reason := p.why idleUnits ++ ", and the margin can't fund a discount. "
             ++ "Ask the supplier about a return, or clear it out."
           payload := [("units", .number idleUnits)] }]
      else
        match (p.category.filter (· ≠ "")).bind fun category => anchors.lookup category with
        | none => []
        | some anchor =>
            if anchor.productId = p.productId then []
            else
              [{ productId := p.productId
                 action := .bundle
                 cashKes := idleCash
                 idleUnits
                 reason := p.why idleUnits ++ ". Pair it with " ++ anchor.title
                   ++ ", a best seller in " ++ p.category.getD ""
                   ++ ", as a bundle or a free add-on."
                 payload := [("pairProductId", .productId anchor.productId),
                   ("pairTitle", .text anchor.title)] }]

/-- What is recommended for a product. -/
def recommendationsOf : List Recommendation :=
  if p.onHand ≤ 0 then []
  else if !p.dead ∧ !p.over.isOverstock then []
  else if p.idleUnits ≤ 0 then []
  else stopReorder p p.idleUnits ++ turnToCash p windowDays p.idleUnits anchors

end Product

/-- The most cash first, then the most units. -/
def Recommendation.before (a b : Recommendation) : Prop :=
  b.cashKes < a.cashKes ∨ a.cashKes = b.cashKes ∧ b.idleUnits ≤ a.idleUnits

instance : DecidableRel Recommendation.before := fun _ _ =>
  inferInstanceAs (Decidable (_ ∨ _))

/-- What is recommended for all products. -/
def recommendFor (products : List RecommendationProduct) (windowDays : ℤ) :
    List Recommendation :=
  (products.flatMap fun p => recommendationsOf p windowDays (bundleAnchors products)).insertionSort
    Recommendation.before

/-! ## What the rules keep -/

section Facts

variable {p : RecommendationProduct} {windowDays idleUnits : ℤ}
  {anchors : List (String × RecommendationProduct)} {r : Recommendation}

/-- The way out of idle stock is not to skip a reorder. -/
theorem action_of_mem_turnToCash (h : r ∈ turnToCash p windowDays idleUnits anchors) :
    r.productId = p.productId ∧ r.action ≠ .stopReorder := by
  unfold turnToCash at h
  dsimp only at h
  split at h
  · obtain rfl := List.mem_singleton.mp h
    exact ⟨rfl, by simp⟩
  · split at h
    · obtain rfl := List.mem_singleton.mp h
      exact ⟨rfl, by simp⟩
    · split at h
      · exact absurd h List.not_mem_nil
      · split at h
        · exact absurd h List.not_mem_nil
        · obtain rfl := List.mem_singleton.mp h
          exact ⟨rfl, by simp⟩

/-- There is one way out at most. -/
theorem length_turnToCash : (turnToCash p windowDays idleUnits anchors).length ≤ 1 := by
  unfold turnToCash
  dsimp only
  split
  · exact le_rfl
  · split
    · exact le_rfl
    · split
      · exact Nat.zero_le 1
      · split
        · exact Nat.zero_le 1
        · exact le_rfl

/-- A reorder to skip is the product's. -/
theorem action_of_mem_stopReorder (h : r ∈ stopReorder p idleUnits) :
    r.productId = p.productId ∧ r.action = .stopReorder := by
  unfold stopReorder at h
  split at h
  · obtain rfl := List.mem_singleton.mp h
    exact ⟨rfl, rfl⟩
  · exact absurd h List.not_mem_nil

/-- There is one reorder to skip at most. -/
theorem length_stopReorder : (stopReorder p idleUnits).length ≤ 1 := by
  unfold stopReorder
  split
  · exact le_rfl
  · exact Nat.zero_le 1

/-- What is recommended for a product is about the product. -/
theorem productId_of_mem_recommendationsOf (h : r ∈ recommendationsOf p windowDays anchors) :
    r.productId = p.productId := by
  unfold recommendationsOf at h
  split at h
  · exact absurd h List.not_mem_nil
  · split at h
    · exact absurd h List.not_mem_nil
    · split at h
      · exact absurd h List.not_mem_nil
      · rcases List.mem_append.mp h with hstop | hcash
        · exact (action_of_mem_stopReorder hstop).1
        · exact (action_of_mem_turnToCash hcash).1

/-- A list of at most one element has no element twice. -/
theorem nodup_of_length_le_one {α : Type} : ∀ {xs : List α}, xs.length ≤ 1 → xs.Nodup
  | [], _ => List.nodup_nil
  | [_], _ => List.nodup_singleton _

/-- A product gets no action twice. -/
theorem nodup_keys_recommendationsOf :
    ((recommendationsOf p windowDays anchors).map Recommendation.key).Nodup := by
  unfold recommendationsOf
  split
  · exact List.nodup_nil
  · split
    · exact List.nodup_nil
    · split
      · exact List.nodup_nil
      · rw [List.map_append, List.nodup_append]
        refine ⟨nodup_of_length_le_one ?_, nodup_of_length_le_one ?_, ?_⟩
        · rw [List.length_map]
          exact length_stopReorder
        · rw [List.length_map]
          exact length_turnToCash
        · -- skipping a reorder is not a way out
          intro a ha b hb hab
          obtain ⟨r, hr, rfl⟩ := List.mem_map.mp ha
          obtain ⟨r', hr', rfl⟩ := List.mem_map.mp hb
          apply (action_of_mem_turnToCash hr').2
          rw [← (action_of_mem_stopReorder hr).2]
          exact (congrArg Prod.snd hab).symm

/-- No product gets an action twice. -/
theorem nodup_keys_recommendFor {products : List RecommendationProduct}
    (h : (products.map RecommendationProduct.productId).Nodup) :
    ((recommendFor products windowDays).map Recommendation.key).Nodup := by
  rw [recommendFor, ((List.perm_insertionSort _ _).map _).nodup_iff, List.map_flatMap,
    List.nodup_flatMap]
  refine ⟨fun p _ => nodup_keys_recommendationsOf, ?_⟩
  refine (List.pairwise_map.mp h).imp fun {p p'} hne => ?_
  rintro k hk hk'
  obtain ⟨r, hr, rfl⟩ := List.mem_map.mp hk
  obtain ⟨r', hr', hsame⟩ := List.mem_map.mp hk'
  apply hne
  rw [← productId_of_mem_recommendationsOf hr, ← productId_of_mem_recommendationsOf hr']
  exact (congrArg Prod.fst hsame).symm

/-! ## Whole prices

The percentage leaves the price above the floor, but the announced price is rounded to whole
units afterwards, which may take it below the floor or back to the price. -/

/-- What the price comes to under a discount, before it is rounded. -/
def RecommendationProduct.priceAt (p : RecommendationProduct) (pct : ℤ) : ℚ :=
  p.priceKes * (1 - pct / 100)

/-- A new price keeps the margin over cost, and is a discount. -/
def AboveFloor (p : RecommendationProduct) (newPrice : ℤ) : Prop :=
  (0 < p.costKes → MIN_PRICE_OVER_COST * p.costKes ≤ newPrice) ∧ (newPrice : ℚ) < p.priceKes

instance (p : RecommendationProduct) (newPrice : ℤ) : Decidable (AboveFloor p newPrice) :=
  inferInstanceAs (Decidable ((_ → _) ∧ _))

/-- The discounted price is at most half a unit short of the first whole price above the floor,
and more than half a unit short of the first whole price that is no discount. -/
def RoundsAboveFloor (p : RecommendationProduct) (windowDays : ℤ) : Prop :=
  ∀ pct ∈ suggestedDiscountPct p windowDays,
    (0 < p.costKes → (⌈MIN_PRICE_OVER_COST * p.costKes⌉ : ℚ) - 1 / 2 ≤ p.priceAt pct) ∧
      p.priceAt pct < ⌈p.priceKes⌉ - 1 / 2

instance (p : RecommendationProduct) (windowDays : ℤ) : Decidable (RoundsAboveFloor p windowDays) :=
  inferInstanceAs (Decidable (∀ _ ∈ suggestedDiscountPct p windowDays, _))

/-- A rounded price is above the floor exactly when the price is close enough. -/
theorem aboveFloor_jsRound_iff {pct : ℤ} (h : suggestedDiscountPct p windowDays = some pct) :
    AboveFloor p (jsRound (p.priceAt pct)) ↔ RoundsAboveFloor p windowDays := by
  have hpct : RoundsAboveFloor p windowDays ↔
      (0 < p.costKes → (⌈MIN_PRICE_OVER_COST * p.costKes⌉ : ℚ) - 1 / 2 ≤ p.priceAt pct) ∧
        p.priceAt pct < ⌈p.priceKes⌉ - 1 / 2 := by
    rw [RoundsAboveFloor, h]
    simp only [Option.mem_def, Option.some.injEq, forall_eq']
  -- whole numbers are above a bound when they are above its ceiling, and rounding adds a half
  rw [hpct, AboveFloor, ← le_jsRound, ← jsRound_lt, Int.ceil_le, Int.lt_ceil]

/-- A discount announces the rounded price. -/
theorem newPrice_of_mem_turnToCash (h : r ∈ turnToCash p windowDays idleUnits anchors)
    (haction : r.action = .discount) :
    ∃ pct, suggestedDiscountPct p windowDays = some pct ∧
      r.payload.lookup "newPriceKes" = some (.number (jsRound (p.priceAt pct))) := by
  unfold turnToCash at h
  dsimp only at h
  split at h
  case h_1 pct hpct =>
    obtain rfl := List.mem_singleton.mp h
    exact ⟨pct, hpct, rfl⟩
  case h_2 =>
    -- what is not discounted is cleared or bundled
    split at h
    · obtain rfl := List.mem_singleton.mp h
      cases haction
    · split at h
      · exact absurd h List.not_mem_nil
      · split at h
        · exact absurd h List.not_mem_nil
        · obtain rfl := List.mem_singleton.mp h
          cases haction

/-- A discount of a product comes from its way out of idle stock. -/
theorem mem_turnToCash_of_discount (h : r ∈ recommendationsOf p windowDays anchors)
    (haction : r.action = .discount) : r ∈ turnToCash p windowDays p.idleUnits anchors := by
  unfold recommendationsOf at h
  split at h
  · exact absurd h List.not_mem_nil
  · split at h
    · exact absurd h List.not_mem_nil
    · split at h
      · exact absurd h List.not_mem_nil
      · -- the other recommendation of a product is to stop reordering it
        rcases List.mem_append.mp h with hstop | hcash
        · rw [(action_of_mem_stopReorder hstop).2] at haction
          cases haction
        · exact hcash

/-- What is recommended is recommended for one of the products. -/
theorem mem_recommendFor {products : List RecommendationProduct} :
    r ∈ recommendFor products windowDays ↔
      ∃ p ∈ products, r ∈ recommendationsOf p windowDays (bundleAnchors products) := by
  rw [recommendFor, List.mem_insertionSort, List.mem_flatMap]

end Facts

end Restock.Recommendations
