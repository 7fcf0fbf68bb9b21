import Mathlib.Algebra.Order.BigOperators.Group.List
import Restock.Forecast.Clock
import Restock.Series.Entries
import Restock.Series.Tally

/-!
# Transfer sizing

`packages/forecast/src/transfers.ts`: how many units to move out of a holding location to each
branch, so that all of them end on the same days of cover.

* `shortfall`, `fillLevel` — the common level the source can afford;
* `flooredQty`, `handOut` — whole units, the spare ones by largest remainder;
* `drainStep`, `drainLoop` — what is left goes out one unit at a time to the branch with the least
  cover;
* `sizeTransfers` — the moves, small ones dropped;
* `totalShortfall_fillLevel` — what the destinations are short of a level is linear in it between
  two covers, so the level uses up exactly the units there are.

Numbers are rationals. The drain loop runs on fuel and gives nothing when it runs out. Ids have the
order in which the code compares strings, and `collate` gives them the order of `localeCompare`.
-/

namespace Restock.Transfers

open Forecast (jsRound)
open Series (addTo setEntries totalIn)
open List (Perm)

/-! ## Positions -/

/-- `DestinationPosition`. -/
structure DestinationPosition (I : Type) where
  locationId : I
  onHand : ℚ
  runRate : ℚ
  deriving DecidableEq, Repr

/-- `SizeTransferOptions`. -/
structure SizeTransferOptions where
  drain : Option Bool := none
  drainCoverDays : Option ℚ := none
  minTransfer : Option ℚ := none
  deriving DecidableEq, Repr

/-- `SizedTransfer`. -/
structure SizedTransfer (I : Type) where
  toLocationId : I
  qty : ℤ
  toOnHand : ℚ
  toRunRate : ℚ
  toDaysCoverBefore : ℚ
  toDaysCoverAfter : ℚ
  deriving DecidableEq, Repr

/-- `NO_RATE_EPSILON`. -/
def NO_RATE_EPSILON : ℚ := 1 / 10000

/-- `DRAIN_COVER_DAYS`. -/
def DRAIN_COVER_DAYS : ℚ := 21

/-- `MIN_TRANSFER_UNITS`. -/
def MIN_TRANSFER_UNITS : ℚ := 3

/-- `1e-9`. -/
def SLACK : ℚ := 1 / 1000000000

namespace SizeTransferOptions

variable (options : SizeTransferOptions)

/-- `drain`. -/
def drains : Bool :=
  options.drain.getD true

/-- `drainCoverDays`. -/
def drainTo : ℚ :=
  options.drainCoverDays.getD DRAIN_COVER_DAYS

/-- `minTransfer`. -/
def minUnits : ℚ :=
  max 1 (options.minTransfer.getD MIN_TRANSFER_UNITS)

end SizeTransferOptions

/-- `roundTo1`. -/
def roundTo1 (value : ℚ) : ℚ :=
  jsRound (value * 10) / 10

section Code

variable {I : Type} [LinearOrder I] {K : Type} [LinearOrder K] (collate : I → K)

/-! ## The level -/

/-- `shortfall`. -/
def shortfall (d : DestinationPosition I) (level : ℚ) : ℚ :=
  max 0 (d.runRate * level - d.onHand)

/-- What all destinations are short of a level. -/
def totalShortfall (destinations : List (DestinationPosition I)) (level : ℚ) : ℚ :=
  (destinations.map fun d => shortfall d level).sum

/-- The days of cover a destination has. -/
def coverBefore (d : DestinationPosition I) : ℚ :=
  d.onHand / d.runRate

/-- The loop of `fillLevel` over the remaining points, with the rate and the stock of the ones
before. -/
def fillLevelFrom (available : ℚ) : List (DestinationPosition I) → ℚ → ℚ → ℚ
  | [], _, _ => 0
  | d :: rest, rate, onHand =>
      let level := (available + (onHand + d.onHand)) / (rate + d.runRate)
      match rest with
      | [] => level
      | next :: _ =>
          if level ≤ coverBefore next then level
          else fillLevelFrom available rest (rate + d.runRate) (onHand + d.onHand)

/-- One destination does not come after another by its cover. -/
def ByCover (a b : DestinationPosition I) : Prop :=
  coverBefore a ≤ coverBefore b

instance : DecidableRel (ByCover (I := I)) :=
  fun a b => inferInstanceAs (Decidable (coverBefore a ≤ coverBefore b))

/-- `fillLevel`. -/
def fillLevel (destinations : List (DestinationPosition I)) (available : ℚ) : ℚ :=
  fillLevelFrom available (destinations.insertionSort ByCover) 0 0

/-! ## Whole units -/

/-- `units`. -/
def unitsOf (available : ℚ) : ℤ :=
  ⌊max 0 available⌋

/-- `candidates`. -/
def candidatesOf (destinations : List (DestinationPosition I)) : List (DestinationPosition I) :=
  destinations.filter fun d => NO_RATE_EPSILON < d.runRate

/-- `level`. -/
def levelFor (candidates : List (DestinationPosition I)) (units : ℤ) (coverDays : ℚ) : ℚ :=
  if totalShortfall candidates coverDays ≤ units then coverDays else fillLevel candidates units

/-- What a destination wants. -/
structure Want (I : Type) where
  d : DestinationPosition I
  want : ℚ
  deriving DecidableEq, Repr

/-- `wants`. -/
def wantsOf (candidates : List (DestinationPosition I)) (units : ℤ) (coverDays : ℚ) :
    List (Want I) :=
  (candidates.map fun d =>
    { d
      want :=
        if 0 < totalShortfall candidates coverDays then
          shortfall d (levelFor candidates units coverDays)
        else 0 : Want I }).filter fun w => 0 < w.want

/-- What the wants come to. -/
def totalWant (wants : List (Want I)) : ℚ :=
  (wants.map Want.want).sum

/-- `budget`. -/
def budgetFor (wants : List (Want I)) (units : ℤ) : ℤ :=
  min units ⌊totalWant wants + SLACK⌋

/-- The units of every destination: the entries of `qtyByLocation`. -/
abbrev Quantities (I : Type) : Type := List (I × ℤ)

/-- The sum of `qtyByLocation.values()`. -/
def Quantities.total (m : Quantities I) : ℤ :=
  (m.map Prod.snd).sum

/-- `qtyByLocation`, after the wants are floored. -/
def flooredQty (candidates : List (DestinationPosition I)) (wants : List (Want I)) :
    Quantities I :=
  setEntries (setEntries [] (candidates.map fun d => (d.locationId, 0)))
    (wants.map fun w => (w.d.locationId, ⌊w.want⌋))

/-- `byRemainder`: the largest fraction first, then the faster seller, then the id. -/
def ByRemainder (a b : Want I) : Prop :=
  (compareLex (compareOn fun w : Want I => OrderDual.toDual (w.want - ⌊w.want⌋))
    (compareLex (compareOn fun w => OrderDual.toDual w.d.runRate)
      (compareOn fun w => collate w.d.locationId)) a b).isLE = true

instance : DecidableRel (ByRemainder collate) :=
  fun a b => inferInstanceAs (Decidable ((compareLex _ _ a b).isLE = true))

/-- The loop that hands out the spare units. -/
def handOut : List (Want I) → Quantities I → ℤ → Quantities I
  | [], m, _ => m
  | w :: rest, m, spare =>
      if spare ≤ 0 then m else handOut rest (addTo m w.d.locationId 1) (spare - 1)

/-- `qtyByLocation`, after the spare units are handed out. -/
def levelledQty (candidates : List (DestinationPosition I)) (units : ℤ) (coverDays : ℚ) :
    Quantities I :=
  let wants := wantsOf candidates units coverDays
  let floored := flooredQty candidates wants
  handOut (wants.insertionSort (ByRemainder collate)) floored
    (budgetFor wants units - floored.total)

/-! ## The drain -/

/-- `coverOf`. -/
def coverOf (m : Quantities I) (d : DestinationPosition I) : ℚ :=
  (d.onHand + totalIn m d.locationId) / d.runRate

/-- A destination is served before the best one so far: less cover, or as much and a faster
seller, or as fast and an earlier id. -/
def Better (m : Quantities I) (d best : DestinationPosition I) : Prop :=
  coverOf m d < coverOf m best - SLACK ∨
    (|coverOf m d - coverOf m best| < SLACK ∧
      (best.runRate + SLACK < d.runRate ∨
        (|d.runRate - best.runRate| < SLACK ∧ d.locationId < best.locationId)))

instance (m : Quantities I) (d best : DestinationPosition I) : Decidable (Better m d best) :=
  inferInstanceAs (Decidable (_ ∨ _))

/-- One turn of the search for `best`. -/
def betterOf (m : Quantities I) (drainCoverDays : ℚ) (best : Option (DestinationPosition I))
    (d : DestinationPosition I) : Option (DestinationPosition I) :=
  if drainCoverDays ≤ coverOf m d then best
  else
    match best with
    | none => some d
    | some b => if Better m d b then some d else some b

/-- `best`. -/
def bestOf (candidates : List (DestinationPosition I)) (m : Quantities I) (drainCoverDays : ℚ) :
    Option (DestinationPosition I) :=
  candidates.foldl (betterOf m drainCoverDays) none

/-- The drain between two turns. -/
structure DrainState (I : Type) where
  qtyByLocation : Quantities I
  surplus : ℤ
  deriving DecidableEq, Repr

/-- A turn of the drain; nothing when it stops. -/
def drainStep (options : SizeTransferOptions) (candidates : List (DestinationPosition I))
    (s : DrainState I) : Option (DrainState I) :=
  if options.drains = true ∧ 0 < s.surplus then
    (bestOf candidates s.qtyByLocation options.drainTo).map fun best =>
      { qtyByLocation := addTo s.qtyByLocation best.locationId 1, surplus := s.surplus - 1 }
  else none

/-- The drain loop. -/
def drainLoop (options : SizeTransferOptions) (candidates : List (DestinationPosition I)) :
    ℕ → DrainState I → Option (Quantities I)
  | 0, _ => none
  | fuel + 1, s =>
      match drainStep options candidates s with
      | none => some s.qtyByLocation
      | some s' => drainLoop options candidates fuel s'

/-! ## The moves -/

/-- The units of a move, none when it is small and not needed. -/
def keptQty (options : SizeTransferOptions) (coverDays : ℚ) (m : Quantities I)
    (d : DestinationPosition I) : ℤ :=
  let qty := totalIn m d.locationId
  if 0 < qty ∧ qty < options.minUnits ∧ coverDays ≤ coverBefore d then 0 else qty

/-- The move to a destination. -/
def moveTo (options : SizeTransferOptions) (coverDays : ℚ) (m : Quantities I)
    (d : DestinationPosition I) : SizedTransfer I :=
  let qty := keptQty options coverDays m d
  { toLocationId := d.locationId
    qty
    toOnHand := d.onHand
    toRunRate := d.runRate
    toDaysCoverBefore := roundTo1 (max 0 d.onHand / d.runRate)
    toDaysCoverAfter := roundTo1 (max 0 (d.onHand + qty) / d.runRate) }

/-- `sizeTransfers`; nothing when the fuel runs out. -/
def sizeTransfers (fuel : ℕ) (available : ℚ) (destinations : List (DestinationPosition I))
    (coverDays : ℚ) (options : SizeTransferOptions := {}) : Option (List (SizedTransfer I)) :=
  let units := unitsOf available
  let candidates := candidatesOf destinations
  if units ≤ 0 ∨ candidates.length = 0 then some []
  else
    let levelled := levelledQty collate candidates units coverDays
    (drainLoop options candidates fuel
      { qtyByLocation := levelled, surplus := units - levelled.total }).map fun m =>
        (candidates.map (moveTo options coverDays m)).filter fun line => 0 < line.qty

end Code

variable {I : Type} {destinations : List (DestinationPosition I)} {available : ℚ}

/-- Every destination sells. -/
def Selling (destinations : List (DestinationPosition I)) : Prop :=
  ∀ d ∈ destinations, 0 < d.runRate

/-- The rate of all destinations. -/
def rateOf (destinations : List (DestinationPosition I)) : ℚ :=
  (destinations.map DestinationPosition.runRate).sum

/-- The stock of all destinations. -/
def stockOf (destinations : List (DestinationPosition I)) : ℚ :=
  (destinations.map DestinationPosition.onHand).sum

@[simp] theorem rateOf_append_singleton (d : DestinationPosition I) :
    rateOf (destinations ++ [d]) = rateOf destinations + d.runRate := by
  simp [rateOf]

@[simp] theorem stockOf_append_singleton (d : DestinationPosition I) :
    stockOf (destinations ++ [d]) = stockOf destinations + d.onHand := by
  simp [stockOf]

/-- Selling destinations have a rate. -/
theorem rateOf_nonneg (hsell : Selling destinations) : 0 ≤ rateOf destinations := by
  refine List.sum_nonneg fun r hr => ?_
  obtain ⟨d, hd, rfl⟩ := List.mem_map.mp hr
  exact (hsell d hd).le

/-! ## One destination -/

section Shortfall

variable {d : DestinationPosition I} {level : ℚ}

/-- What a destination is short of is not negative. -/
theorem shortfall_nonneg (d : DestinationPosition I) (level : ℚ) : 0 ≤ shortfall d level :=
  le_max_left _ _

/-- A destination below a level is short of the difference. -/
theorem shortfall_of_below (hrate : 0 < d.runRate) (h : coverBefore d ≤ level) :
    shortfall d level = d.runRate * level - d.onHand :=
  max_eq_right (sub_nonneg.mpr ((div_le_iff₀' hrate).mp h))

/-- A destination at a level or above is short of nothing. -/
theorem shortfall_of_above (hrate : 0 < d.runRate) (h : level ≤ coverBefore d) :
    shortfall d level = 0 :=
  max_eq_left (sub_nonpos.mpr ((le_div_iff₀' hrate).mp h))

/-- A destination is short of something exactly when it is below the level. -/
theorem shortfall_pos_iff (hrate : 0 < d.runRate) :
    0 < shortfall d level ↔ coverBefore d < level := by
  rw [shortfall, lt_max_iff, or_iff_right (lt_irrefl _), sub_pos, coverBefore, div_lt_iff₀' hrate]

/-- A higher level is short of more. -/
theorem shortfall_mono (hrate : 0 < d.runRate) : Monotone (shortfall d) := by
  intro level level' h
  rw [shortfall, shortfall]
  have hmul := mul_le_mul_of_nonneg_left h hrate.le
  exact max_le_max le_rfl (sub_le_sub_right hmul _)

end Shortfall

/-! ## All destinations -/

/-- A higher level is short of more. -/
theorem totalShortfall_mono (hsell : Selling destinations) :
    Monotone (totalShortfall destinations) := by
  intro level level' h
  exact List.sum_le_sum fun d hd => shortfall_mono (hsell d hd) h

/-- The order of the destinations does not matter. -/
theorem totalShortfall_perm {others : List (DestinationPosition I)}
    (h : destinations.Perm others) (level : ℚ) :
    totalShortfall destinations level = totalShortfall others level :=
  (h.map _).sum_eq

/-- What destinations that are all below a level are short of together. -/
theorem totalShortfall_below {level : ℚ} (hsell : Selling destinations)
    (h : ∀ d ∈ destinations, coverBefore d ≤ level) :
    totalShortfall destinations level = rateOf destinations * level - stockOf destinations := by
  induction destinations with
  | nil => simp [totalShortfall, rateOf, stockOf]
  | cons d rest ih =>
      obtain ⟨hd, hrest⟩ := List.forall_mem_cons.mp h
      obtain ⟨hrate, hsell⟩ := List.forall_mem_cons.mp hsell
      have htail := ih hsell hrest
      simp only [totalShortfall, rateOf, stockOf, List.map_cons, List.sum_cons] at htail ⊢
      rw [htail, shortfall_of_below hrate hd]
      ring

/-- What destinations at a level or above are short of together. -/
theorem totalShortfall_above {level : ℚ} (hsell : Selling destinations)
    (h : ∀ d ∈ destinations, level ≤ coverBefore d) : totalShortfall destinations level = 0 := by
  refine List.sum_eq_zero fun s hs => ?_
  obtain ⟨d, hd, rfl⟩ := List.mem_map.mp hs
  exact shortfall_of_above (hsell d hd) (h d hd)

/-- On a segment between two covers the shortfall is linear in the level. -/
theorem totalShortfall_segment {below above : List (DestinationPosition I)} {level : ℚ}
    (hsell : Selling (below ++ above)) (hbelow : ∀ d ∈ below, coverBefore d ≤ level)
    (habove : ∀ d ∈ above, level ≤ coverBefore d) :
    totalShortfall (below ++ above) level = rateOf below * level - stockOf below := by
  have hfirst := totalShortfall_below (fun d hd => hsell d (List.mem_append_left _ hd)) hbelow
  have hsecond := totalShortfall_above (fun d hd => hsell d (List.mem_append_right _ hd)) habove
  rw [totalShortfall, List.map_append, List.sum_append, ← totalShortfall, ← totalShortfall, hfirst,
    hsecond, add_zero]

/-! ## The walk over the segments -/

/-- A turn of the walk that is not the last one. -/
theorem fillLevelFrom_cons_cons (d next : DestinationPosition I)
    (rest : List (DestinationPosition I)) (rate onHand : ℚ) :
    fillLevelFrom available (d :: next :: rest) rate onHand =
      if (available + (onHand + d.onHand)) / (rate + d.runRate) ≤ coverBefore next then
        (available + (onHand + d.onHand)) / (rate + d.runRate)
      else fillLevelFrom available (next :: rest) (rate + d.runRate) (onHand + d.onHand) := rfl

/-- The level of a segment is above its first cover when the units lift everyone past it. -/
theorem lt_level {before : List (DestinationPosition I)} {d : DestinationPosition I}
    (hrate : 0 < d.runRate) (hbefore : 0 ≤ rateOf before)
    (hrich : coverBefore d * rateOf before < available + stockOf before) :
    coverBefore d < (available + (stockOf before + d.onHand)) / (rateOf before + d.runRate) := by
  have hown : coverBefore d * d.runRate = d.onHand := div_mul_cancel₀ _ hrate.ne'
  rw [lt_div_iff₀ (add_pos_of_nonneg_of_pos hbefore hrate), mul_add, hown]
  linarith

/-- From a point on, the walk finds the level at which everyone is short of the units there are,
when these lift the ones before past the next cover. -/
theorem totalShortfall_fillLevelFrom (rest before : List (DestinationPosition I))
    (hsell : Selling (before ++ rest)) (hsorted : (before ++ rest).Pairwise ByCover)
    (hne : rest ≠ [])
    (hrich : ∀ d ∈ rest.head?, coverBefore d * rateOf before < available + stockOf before) :
    totalShortfall (before ++ rest)
      (fillLevelFrom available rest (rateOf before) (stockOf before)) = available := by
  induction rest generalizing before with
  | nil => exact absurd rfl hne
  | cons d rest ih =>
      have happ : before ++ d :: rest = before ++ [d] ++ rest := by simp
      rw [happ] at hsell hsorted ⊢
      have hd : 0 < d.runRate := hsell d (by simp)
      have hbefore : 0 ≤ rateOf before := rateOf_nonneg fun e he => hsell e (by simp [he])
      have hlevel := lt_level hd hbefore (hrich d rfl)
      obtain ⟨hfirst, hrest, hcross⟩ := List.pairwise_append.mp hsorted
      -- a level that no later destination is below uses up the units
      have hexact : ∀ level, level = (available + (stockOf before + d.onHand)) /
          (rateOf before + d.runRate) → (∀ e ∈ rest, level ≤ coverBefore e) →
          totalShortfall (before ++ [d] ++ rest) level = available := by
        rintro level rfl habove
        have hbelow : ∀ e ∈ before ++ [d], coverBefore e ≤
            (available + (stockOf before + d.onHand)) / (rateOf before + d.runRate) := by
          intro e he
          rcases List.mem_append.mp he with he | he
          · exact ((List.pairwise_append.mp hfirst).2.2 e he d List.mem_cons_self).trans hlevel.le
          · rw [List.mem_singleton.mp he]
            exact hlevel.le
        have hne : rateOf before + d.runRate ≠ 0 := (add_pos_of_nonneg_of_pos hbefore hd).ne'
        rw [totalShortfall_segment hsell hbelow habove, rateOf_append_singleton,
          stockOf_append_singleton, mul_div_cancel₀ _ hne]
        exact add_sub_cancel_right _ _
      cases rest with
      | nil => exact hexact _ rfl (fun e he => absurd he List.not_mem_nil)
      | cons next rest =>
          rw [fillLevelFrom_cons_cons]
          split
          case isTrue hstop =>
            refine hexact _ rfl fun e he => ?_
            rcases List.mem_cons.mp he with rfl | he
            · exact hstop
            · exact hstop.trans ((List.pairwise_cons.mp hrest).1 e he)
          case isFalse hmore =>
            rw [← rateOf_append_singleton, ← stockOf_append_singleton]
            refine ih (before ++ [d]) hsell hsorted (List.cons_ne_nil _ _) ?_
            rintro e he
            obtain rfl := Option.some.inj he
            rw [rateOf_append_singleton, stockOf_append_singleton]
            exact (lt_div_iff₀ (add_pos_of_nonneg_of_pos hbefore hd)).mp (not_le.mp hmore)

instance : IsTrans (DestinationPosition I) ByCover :=
  ⟨fun _ _ _ => le_trans⟩

instance : Std.Total (ByCover (I := I)) :=
  ⟨fun a b => le_total (coverBefore a) (coverBefore b)⟩

/-- At the level of the fill the destinations are short of exactly the units there are. -/
theorem totalShortfall_fillLevel (hsell : Selling destinations) (hne : destinations ≠ [])
    (havailable : 0 < available) :
    totalShortfall destinations (fillLevel destinations available) = available := by
  have hperm : (destinations.insertionSort ByCover).Perm destinations := List.perm_insertionSort _ _
  rw [← totalShortfall_perm hperm]
  refine totalShortfall_fillLevelFrom _ [] (fun d hd => hsell d (hperm.subset hd))
    (List.pairwise_insertionSort _ _) (fun hnil => ?_) fun d _ => ?_
  · exact hne (List.perm_nil.mp (hnil ▸ hperm.symm))
  · simpa [rateOf, stockOf] using havailable

/-- The level of the fill is below a level that needs more units than there are. -/
theorem fillLevel_lt {coverDays : ℚ} (hsell : Selling destinations) (hne : destinations ≠ [])
    (havailable : 0 < available) (hshort : available < totalShortfall destinations coverDays) :
    fillLevel destinations available < coverDays := by
  by_contra hle
  have hmono := totalShortfall_mono hsell (not_lt.mp hle)
  rw [totalShortfall_fillLevel hsell hne havailable] at hmono
  exact absurd hshort (not_lt.mpr hmono)

end Restock.Transfers
