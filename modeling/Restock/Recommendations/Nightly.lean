import Restock.Recommendations.Rules
import Restock.Sales.History
import Restock.Store.Upsert

/-!
# The nightly recommendations

`runTenantRecommendations` of `apps/worker/src/recommendations-cron.ts`: the facts of a tenant
are gathered, the rules decide, and one row per product and action is kept up to date. The id of
a row and its timestamps of creation and change, which nothing selects by, are left out; so is
the realtime event of a notification. A key of the code is the text of a product and an action
with a bar between; here it is the pair.

* `recommendationInputs` — the facts, from the tables the rules rest on;
* `runTenantRecommendations` — one night;
* `find_foldlM_keep` — the row of a product and action after the loop over the rules' verdict;
* `standing_after` — the status and the snooze a night leaves every product and action with;
* `runTenantRecommendations_settled` — which rows are open afterwards, and that a second night
  at the same time has nothing to do.
-/

namespace Restock.Recommendations

open Forecast (DAY_MS daysBetween isoMonth jsRound)
open Store (Table)

/-! ## The facts -/

/-- The columns of a buyable product that the rules read. -/
structure BuyableProduct where
  id : ProductId
  title : String := ""
  abcCategory : Option String := none
  customCategory : Option String := none
  currentStock : ℚ := 0
  costKes : ℚ := 0
  priceKes : ℚ := 0
  shopifyCreatedAt : Option Time := none
  receivedAt : Option Time := none
  deriving DecidableEq, Repr

instance : Store.Keyed BuyableProduct ProductId := ⟨BuyableProduct.id⟩

/-- `InventorySnapshot`. -/
structure InventorySnapshot where
  productId : ProductId
  date : Time
  onHand : ℚ
  deriving DecidableEq, Repr

/-- The figures of a prediction of the latest forecast run. -/
structure RunFigures where
  productId : ProductId
  layer1Forecast30d : ℚ
  recommendedQty : ℚ
  deriving DecidableEq, Repr

/-- What a night reads of a tenant besides the recommendations. -/
structure RecommendationFacts where
  deadStockWindowDays : Option ℤ := none
  /-- The buyable products. -/
  products : Table BuyableProduct
  salesHistory : List Sales.SalesHistory := []
  inventorySnapshots : List InventorySnapshot := []
  /-- The predictions of the latest forecast run; none when there is no run. -/
  predictions : List RunFigures := []
  /-- `ProductPlanOverride`: the owner's quantities. -/
  overrides : List (ProductId × ℤ) := []

/-- The window of dead stock when none is configured. -/
def DEFAULT_DEAD_STOCK_DAYS : ℤ := 90

namespace RecommendationFacts

variable (facts : RecommendationFacts) (now : Time)

/-- The window of dead stock. -/
def windowDays : ℤ :=
  min 365 (max 30 (facts.deadStockWindowDays.getD DEFAULT_DEAD_STOCK_DAYS))

/-- The start of the window. -/
def cutoff : Time :=
  now - facts.windowDays * DAY_MS

/-- The last day the product sold. -/
def lastSale (productId : ProductId) : Option Time :=
  ((facts.salesHistory.filter fun s => 0 < s.quantity ∧ s.productId = productId).map
    Sales.SalesHistory.date).max?

/-- The last day of the window the product was seen empty. -/
def emptyDay (productId : ProductId) : Option Time :=
  ((facts.inventorySnapshots.filter fun s =>
    s.productId = productId ∧ facts.cutoff now ≤ s.date ∧ s.date < now ∧ s.onHand ≤ 0).map
      InventorySnapshot.date).max?

/-- The facts of one product. -/
def recommendationProduct (p : BuyableProduct) : RecommendationProduct :=
  let sold := facts.lastSale p.id
  let empty := facts.emptyDay now p.id
  let pred := (Series.setEntries [] (facts.predictions.map fun p => (p.productId, p))).lookup p.id
  let planned := ((Series.setEntries [] facts.overrides).lookup p.id).getD
    (jsRound ((pred.map RunFigures.recommendedQty).getD 0))
  { productId := p.id
    title := p.title
    abc := p.abcCategory
    category := p.customCategory
    onHand := p.currentStock
    costKes := p.costKes
    priceKes := p.priceKes
    -- the run's own rate
    runRate := (pred.map RunFigures.layer1Forecast30d).getD 0 / 30
    dead := isDeadStock {
      currentStock := p.currentStock
      lastSaleAt := sold
      firstSeenAt := p.shopifyCreatedAt.or p.receivedAt
      shelfDays := empty.map fun day => shelfDaysSince (some day) facts.windowDays now
      cutoff := facts.cutoff now
      asOf := now }
    daysSinceSale := sold.map fun day => ⌊daysBetween day now⌋
    plannedQty := max 0 planned }

/-- The facts the rules need, for every buyable product. -/
def recommendationInputs : List RecommendationProduct :=
  facts.products.rows.map (facts.recommendationProduct now)

/-- The verdict of the rules. -/
def recommendations : List Recommendation :=
  recommendFor (facts.recommendationInputs now) facts.windowDays

/-- The rules give no product an action twice. -/
theorem nodup_keys_recommendations :
    ((facts.recommendations now).map Recommendation.key).Nodup := by
  apply nodup_keys_recommendFor
  rw [recommendationInputs, List.map_map]
  exact facts.products.nodup

end RecommendationFacts

/-! ## The rows -/

/-- `StockRecommendation.status`. -/
inductive RecommendationStatus
  | opened
  | done
  | dismissed
  /-- It no longer applies. -/
  | resolved
  deriving DecidableEq, Repr

/-- `StockRecommendation`. -/
structure StockRecommendation where
  productId : ProductId
  action : RecommendationAction
  status : RecommendationStatus := .opened
  payload : List (String × PayloadValue) := []
  reason : String := ""
  aiReason : Option String := none
  aiIdea : Option String := none
  cashKes : ℚ := 0
  idleUnits : ℤ := 0
  /-- A done or dismissed row stays quiet until this date. -/
  snoozedUntil : Option Time := none
  resolvedAt : Option Time := none
  deriving DecidableEq, Repr

/-- `@@unique([tenantId, productId, action])`. -/
instance : Store.Keyed StockRecommendation (ProductId × RecommendationAction) :=
  ⟨fun row => (row.productId, row.action)⟩

/-- The product and action of a row. -/
def StockRecommendation.key (row : StockRecommendation) : ProductId × RecommendationAction :=
  (row.productId, row.action)

/-- `AiUsage`. -/
structure AiUsage where
  month : String
  costUsd : ℚ
  inputTokens : ℤ
  outputTokens : ℤ
  calls : ℤ
  deriving DecidableEq, Repr

instance : Store.Keyed AiUsage String := ⟨AiUsage.month⟩

/-- `Notification`. -/
structure Notification where
  kind : String
  title : String
  body : String
  href : String
  deriving DecidableEq, Repr

/-- The tables a night writes. -/
structure RecommendationDb where
  recommendations : Table StockRecommendation
  aiUsage : Table AiUsage
  notifications : List Notification

/-! ## Wording -/

/-- `WordingItem`. -/
structure WordingItem where
  key : ProductId × RecommendationAction
  title : String
  category : Option String
  action : RecommendationAction
  reason : String
  numbers : List (String × PayloadValue)
  deriving DecidableEq, Repr

/-- `Wording`. -/
structure Wording where
  reason : String
  idea : String
  deriving DecidableEq, Repr

/-- What a call of the wording step costs. -/
structure WordingUsage where
  costUsd : ℚ
  inputTokens : ℤ
  outputTokens : ℤ
  deriving DecidableEq, Repr

/-- What a wording step returns, with the calls it reported. -/
structure Worded where
  wording : List ((ProductId × RecommendationAction) × Wording)
  usage : List WordingUsage
  deriving DecidableEq, Repr

/-- What a night is given: the wording step, which falls back to no wording when it fails, and
the monthly cap of its cost as the environment has it, when that is a number. -/
structure Outside where
  word : List WordingItem → ℚ → Worded
  aiMonthlyCapUsd : Option ℚ

/-- Most the wording may cost one workspace in a month when no cap is set. -/
def DEFAULT_AI_MONTHLY_CAP_USD : ℚ := 5

/-- The cap; a negative one counts as none. -/
def Outside.aiCapUsd (outside : Outside) : ℚ :=
  (outside.aiMonthlyCapUsd.filter fun v => 0 ≤ v).getD DEFAULT_AI_MONTHLY_CAP_USD

/-- What the workspace has left to spend on wording this month. -/
def remainingUsd (outside : Outside) (aiUsage : Table AiUsage) (month : String) : ℚ :=
  max 0 (outside.aiCapUsd - ((aiUsage.find month).map AiUsage.costUsd).getD 0)

/-- A call is recorded against the month. -/
def onUsage (month : String) (aiUsage : Table AiUsage) (u : WordingUsage) : Table AiUsage :=
  aiUsage.upsert
    { month, costUsd := u.costUsd, inputTokens := u.inputTokens, outputTokens := u.outputTokens,
      calls := 1 }
    fun row => { row with
      costUsd := row.costUsd + u.costUsd
      inputTokens := row.inputTokens + u.inputTokens
      outputTokens := row.outputTokens + u.outputTokens
      calls := row.calls + 1 }

/-! ## One night -/

/-- Done or dismissed, with a snooze that has not ended. -/
def StockRecommendation.Quiet (now : Time) (row : StockRecommendation) : Prop :=
  (row.status = .done ∨ row.status = .dismissed) ∧ row.snoozedUntil.any (now < ·)

instance (now : Time) (row : StockRecommendation) : Decidable (row.Quiet now) :=
  inferInstanceAs (Decidable (_ ∧ _))

/-- The row of a recommendation that has none. -/
def newRow (r : Recommendation) : StockRecommendation where
  productId := r.productId
  action := r.action
  payload := r.payload
  reason := r.reason
  cashKes := r.cashKes
  idleUnits := r.idleUnits

/-- The recommendation opens the row again. -/
def StockRecommendation.Reopens (now : Time) (prior : StockRecommendation) : Prop :=
  prior.status ≠ .opened ∧ ¬ prior.Quiet now

instance (now : Time) (prior : StockRecommendation) : Decidable (prior.Reopens now) :=
  inferInstanceAs (Decidable (_ ∧ _))

/-- New numbers, so the old wording is stale. -/
def Recommendation.Changes (r : Recommendation) (prior : StockRecommendation) : Prop :=
  prior.reason ≠ r.reason

instance (r : Recommendation) (prior : StockRecommendation) : Decidable (r.Changes prior) :=
  inferInstanceAs (Decidable (_ ≠ _))

/-- The row brought up to date. What is written hangs on the row as it was before the night. -/
def refresh (now : Time) (r : Recommendation) (prior row : StockRecommendation) :
    StockRecommendation :=
  { row with
    payload := r.payload
    reason := r.reason
    cashKes := r.cashKes
    idleUnits := r.idleUnits
    status := if prior.Reopens now then .opened else row.status
    resolvedAt := if prior.Reopens now then none else row.resolvedAt
    snoozedUntil := if prior.Reopens now then none else row.snoozedUntil
    aiReason := if r.Changes prior then none else row.aiReason
    aiIdea := if r.Changes prior then none else row.aiIdea }

/-- What the loop over the recommendations keeps. -/
structure Keeping where
  recommendations : Table StockRecommendation
  opened : ℕ := 0
  needsWording : List Recommendation := []

/-- One recommendation of the loop; nothing when the row to create is there. -/
def keep (existing : Table StockRecommendation) (now : Time) (state : Keeping)
    (r : Recommendation) : Option Keeping :=
  match existing.find r.key with
  | none =>
      if (state.recommendations.find r.key).isSome then none
      else some {
        recommendations := state.recommendations.insert (newRow r)
        opened := state.opened + 1
        needsWording := state.needsWording ++ [r] }
  | some prior =>
      some {
        recommendations := state.recommendations.update (fun row => row.key = prior.key)
          (refresh now r prior)
        opened := if prior.Reopens now then state.opened + 1 else state.opened
        needsWording :=
          if (prior.Reopens now ∨ prior.status = .opened) ∧
              (r.Changes prior ∨ prior.aiReason = none) then state.needsWording ++ [r]
          else state.needsWording }

/-- The open rows that no recommendation is for. -/
def staleRows (existing : Table StockRecommendation) (recs : List Recommendation) :
    List StockRecommendation :=
  existing.rows.filter fun e => e.status = .opened ∧ e.key ∉ recs.map Recommendation.key

/-- Rows that no longer apply are resolved. -/
def resolveStale (stale : List StockRecommendation) (now : Time)
    (recommendations : Table StockRecommendation) : Table StockRecommendation :=
  if stale = [] then recommendations
  else recommendations.update (fun row => row.key ∈ stale.map StockRecommendation.key) fun row =>
    { row with status := .resolved, resolvedAt := some now }

/-- What a recommendation is worded from. -/
def wordingItem (products : List RecommendationProduct) (r : Recommendation) : WordingItem :=
  let product := (Series.setEntries [] (products.map fun p => (p.productId, p))).lookup r.productId
  { key := r.key
    title := (product.map RecommendationProduct.title).getD ""
    category := product.bind RecommendationProduct.category
    action := r.action
    reason := r.reason
    numbers := r.payload }

/-- A wording is written to the row it is for. -/
def writeWording (recommendations : Table StockRecommendation)
    (w : (ProductId × RecommendationAction) × Wording) : Table StockRecommendation :=
  recommendations.update (fun row => row.key = w.1) fun row =>
    { row with aiReason := some w.2.reason, aiIdea := some w.2.idea }

/-- The notification of new recommendations. -/
def openedNotification (opened : ℕ) : Notification where
  kind := "stock_recommendations"
  title :=
    if opened = 1 then "1 new stock recommendation"
    else toString opened ++ " new stock recommendations"
  body := "Stock that isn't selling, and what to do about it — discounts, bundles and reorders "
    ++ "to skip."
  href := "/recommendations"

/-- `RecommendationRunResult`. -/
structure RecommendationRunResult where
  openRows : ℕ
  opened : ℕ
  resolved : ℕ
  worded : ℕ
  deriving DecidableEq, Repr

/-- Write the rules' verdict for one tenant. Nothing when a write throws. -/
def runTenantRecommendations (outside : Outside) (facts : RecommendationFacts)
    (db : RecommendationDb) (now : Time) : Option (RecommendationRunResult × RecommendationDb) := do
  let products := facts.recommendationInputs now
  let recs := facts.recommendations now
  let existing := db.recommendations
  let state ← recs.foldlM (keep existing now) { recommendations := existing }
  let stale := staleRows existing recs
  let resolved := resolveStale stale now state.recommendations
  let items := state.needsWording.map (wordingItem products)
  let month := isoMonth now
  let worded :=
    if items = [] then ⟨[], []⟩
    else outside.word items (remainingUsd outside db.aiUsage month)
  return (
    { openRows := recs.countP fun r => (existing.find r.key).all fun prior =>
        prior.status = .opened ∨ ¬ prior.Quiet now
      opened := state.opened
      resolved := stale.length
      worded := worded.wording.length },
    { recommendations := worded.wording.foldl writeWording resolved
      aiUsage := worded.usage.foldl (onUsage month) db.aiUsage
      notifications :=
        if 0 < state.opened then db.notifications ++ [openedNotification state.opened]
        else db.notifications })

/-! ## The loop over the verdict -/

section Loop

variable {existing : Table StockRecommendation} {now : Time} {recs : List Recommendation}
  {state : Keeping} {r : Recommendation} {key : ProductId × RecommendationAction}

@[simp] theorem key_stockRecommendation (row : StockRecommendation) :
    Store.Keyed.key row = row.key := rfl

@[simp] theorem key_newRow (r : Recommendation) : (newRow r).key = r.key := rfl

@[simp] theorem key_refresh (prior row : StockRecommendation) :
    (refresh now r prior row).key = row.key := rfl

/-- The row of a recommendation after the night's loop. -/
def keptRow (now : Time) (r : Recommendation) : Option StockRecommendation → StockRecommendation
  | none => newRow r
  | some prior => refresh now r prior prior

/-- The recommendation is counted as new: it has no row, or opens its row again. -/
def Opens (existing : Table StockRecommendation) (now : Time) (r : Recommendation) : Prop :=
  (existing.find r.key).all fun prior => prior.Reopens now

instance : Decidable (Opens existing now r) :=
  inferInstanceAs (Decidable (_ = true))

variable (now) in
/-- One recommendation of the loop writes its own row, as long as that is still the one that was
read, and counts when it is new. -/
theorem keep_eq_some (h : state.recommendations.find r.key = existing.find r.key) :
    ∃ next, keep existing now state r = some next ∧
      (∀ key, next.recommendations.find key
        = if r.key = key then some (keptRow now r (existing.find key))
          else state.recommendations.find key) ∧
      next.opened = state.opened + if Opens existing now r then 1 else 0 := by
  unfold keep
  cases hprior : existing.find r.key with
  | none =>
      -- no row was open for the key when the run began, and none has been written since
      have hfree : state.recommendations.find (Store.Keyed.key (newRow r)) = none := h.trans hprior
      have hopens : Opens existing now r := by
        rw [Opens, hprior]
        rfl
      dsimp only
      rw [if_neg (by rw [h, hprior]; decide)]
      refine ⟨_, rfl, fun key => ?_, ?_⟩
      · rw [Table.find_insert hfree, key_stockRecommendation, key_newRow]
        by_cases hkey : r.key = key
        · rw [if_pos hkey, if_pos hkey, ← hkey, hprior]
          rfl
        · rw [if_neg hkey, if_neg hkey]
      · rw [if_pos hopens]
  | some prior =>
      have hkey : prior.key = r.key := (Table.find_eq_some.mp hprior).2
      have hopens : Opens existing now r ↔ prior.Reopens now := by
        rw [Opens, hprior, Option.all_some, decide_eq_true_iff]
      refine ⟨_, rfl, fun key => ?_, ?_⟩
      · have hupdate := Table.find_update_key state.recommendations
          (p := fun row => row.key = prior.key) (f := refresh now r prior) (fun _ => rfl)
          (fun row => decide_eq_true_iff) key
        refine hupdate.trans ?_
        rw [hkey]
        by_cases hsame : r.key = key
        · subst hsame
          rw [if_pos rfl, if_pos rfl, h, hprior]
          rfl
        · rw [if_neg hsame, if_neg (Ne.symm hsame)]
      · simp only [hopens]
        split <;> rfl

variable (now) in
/-- The loop over recommendations of distinct keys writes the row of each, and leaves the other
rows. -/
theorem find_foldlM_keep : ∀ {recs : List Recommendation} {state : Keeping},
    (recs.map Recommendation.key).Nodup →
    (∀ r ∈ recs, state.recommendations.find r.key = existing.find r.key) →
    ∃ last, recs.foldlM (keep existing now) state = some last ∧
      (∀ key, last.recommendations.find key
        = match recs.find? fun r => r.key = key with
          | some r => some (keptRow now r (existing.find key))
          | none => state.recommendations.find key) ∧
      last.opened = state.opened + recs.countP fun r => Opens existing now r
  | [], state, _, _ => ⟨state, rfl, fun _ => rfl, rfl⟩
  | r :: rest, state, hnodup, hread => by
      rw [List.map_cons, List.nodup_cons] at hnodup
      obtain ⟨next, hnext, hfind, hopened⟩ := keep_eq_some now (hread r List.mem_cons_self)
      -- the rows of the rest are still the ones that were read
      have hrest : ∀ r' ∈ rest, next.recommendations.find r'.key = existing.find r'.key := by
        intro r' hr'
        have hne : r.key ≠ r'.key := fun heq =>
          hnodup.1 (heq ▸ List.mem_map_of_mem hr')
        rw [hfind, if_neg hne]
        exact hread r' (List.mem_cons_of_mem _ hr')
      obtain ⟨last, hlast, hfind', hopened'⟩ := find_foldlM_keep hnodup.2 hrest
      refine ⟨last, ?_, fun key => ?_, ?_⟩
      · rw [List.foldlM_cons, hnext]
        exact hlast
      · rw [hfind' key, List.find?_cons]
        by_cases hkey : r.key = key
        · have hnone : rest.find? (fun r => r.key = key) = none := by
            rw [List.find?_eq_none]
            intro r' hr' hsame
            rw [decide_eq_true_eq] at hsame
            exact hnodup.1 (hkey.trans hsame.symm ▸ List.mem_map_of_mem hr')
          rw [hnone, decide_eq_true hkey]
          dsimp only
          rw [hfind, if_pos hkey]
        · rw [decide_eq_false hkey]
          dsimp only
          rw [hfind key, if_neg hkey]
      · rw [hopened', hopened, List.countP_cons]
        simp only [decide_eq_true_eq]
        omega

end Loop

/-! ## What a night leaves -/

section Night

variable {existing t : Table StockRecommendation} {now : Time} {recs : List Recommendation}
  {key : ProductId × RecommendationAction}

/-- The status and the snooze of a row. -/
def StockRecommendation.standing (row : StockRecommendation) :
    RecommendationStatus × Option Time :=
  (row.status, row.snoozedUntil)

/-- Whether a row is quiet hangs on its status and its snooze. -/
theorem quiet_of_standing {row row' : StockRecommendation} (h : row.standing = row'.standing) :
    row.Quiet now ↔ row'.Quiet now := by
  obtain ⟨hstatus, hsnooze⟩ := Prod.mk.inj h
  rw [StockRecommendation.Quiet, StockRecommendation.Quiet, hstatus, hsnooze]

/-- A quiet row is not open. -/
theorem not_opened_of_quiet {row : StockRecommendation} (h : row.Quiet now) :
    row.status ≠ .opened := by
  rintro hopened
  rcases h.1 with hdone | hdismissed
  · rw [hopened] at hdone
    cases hdone
  · rw [hopened] at hdismissed
    cases hdismissed

/-- The rows resolved are the open ones that no recommendation is for. -/
theorem mem_staleRows : key ∈ (staleRows existing recs).map StockRecommendation.key ↔
    (∃ e, existing.find key = some e ∧ e.status = .opened) ∧
      key ∉ recs.map Recommendation.key := by
  simp only [staleRows, List.mem_map, List.mem_filter, decide_eq_true_eq, Table.find_eq_some]
  constructor
  · rintro ⟨e, ⟨he, hopened, hlive⟩, rfl⟩
    refine ⟨⟨e, ⟨he, rfl⟩, hopened⟩, ?_⟩
    rintro ⟨r, hr, hkey⟩
    exact hlive ⟨r, hr, hkey⟩
  · rintro ⟨⟨e, ⟨he, rfl⟩, hopened⟩, hlive⟩
    refine ⟨e, ⟨he, hopened, ?_⟩, rfl⟩
    rintro ⟨r, hr, hkey⟩
    exact hlive ⟨r, hr, hkey⟩

/-- Looking up after stale rows are resolved. -/
theorem find_resolveStale (stale : List StockRecommendation) :
    (resolveStale stale now t).find key = (t.find key).map fun row =>
      if key ∈ stale.map StockRecommendation.key then
        { row with status := .resolved, resolvedAt := some now }
      else row := by
  unfold resolveStale
  by_cases hstale : stale = []
  · rw [if_pos hstale, hstale]
    simp
  · rw [if_neg hstale]
    have hupdate := Table.find_update t (fun row => row.key ∈ stale.map StockRecommendation.key)
      (f := fun row => { row with status := .resolved, resolvedAt := some now }) (fun _ => rfl) key
    refine hupdate.trans ?_
    cases hfind : t.find key with
    | none => rfl
    | some row =>
        obtain rfl : row.key = key := (Table.find_eq_some.mp hfind).2
        simp only [Option.map_some, decide_eq_true_eq]

/-- A wording changes no status and no snooze. -/
theorem standing_foldl_writeWording :
    ∀ (wording : List ((ProductId × RecommendationAction) × Wording))
      (t : Table StockRecommendation),
      ((wording.foldl writeWording t).find key).map StockRecommendation.standing
        = (t.find key).map StockRecommendation.standing
  | [], _ => rfl
  | w :: rest, t => by
      rw [List.foldl_cons, standing_foldl_writeWording rest]
      have hupdate := Table.find_update t (fun row => row.key = w.1)
        (f := fun row => { row with aiReason := some w.2.reason, aiIdea := some w.2.idea })
        (fun _ => rfl) key
      rw [writeWording, hupdate, Option.map_map]
      congr 1
      funext row
      rw [Function.comp_apply]
      split <;> rfl

/-- The status and the snooze a night leaves a product and action with. -/
def standingAfter (existing : Table StockRecommendation) (now : Time)
    (proposed : List (ProductId × RecommendationAction))
    (key : ProductId × RecommendationAction) : Option (RecommendationStatus × Option Time) :=
  if key ∈ proposed then
    match existing.find key with
    | none => some (.opened, none)
    | some prior => some (if prior.Reopens now then (.opened, none) else prior.standing)
  else (existing.find key).map fun prior =>
    if prior.status = .opened then (.resolved, prior.snoozedUntil) else prior.standing

/-- What is not proposed is not left open. -/
theorem standingAfter_of_notMem {proposed : List (ProductId × RecommendationAction)}
    {standing : RecommendationStatus × Option Time} (hmem : key ∉ proposed)
    (h : standingAfter existing now proposed key = some standing) : standing.1 ≠ .opened := by
  rw [standingAfter, if_neg hmem] at h
  obtain ⟨prior, _, rfl⟩ := Option.map_eq_some_iff.mp h
  split
  · simp
  · assumption

/-- A quiet row is left as it is, proposed or not. -/
theorem standingAfter_of_quiet (proposed : List (ProductId × RecommendationAction))
    {prior : StockRecommendation} (hprior : existing.find key = some prior)
    (hquiet : prior.Quiet now) :
    standingAfter existing now proposed key = some prior.standing := by
  unfold standingAfter
  rw [hprior]
  by_cases hmem : key ∈ proposed
  · rw [if_pos hmem]
    dsimp only
    rw [if_neg fun hreopens => hreopens.2 hquiet]
  · rw [if_neg hmem, Option.map_some, if_neg (not_opened_of_quiet hquiet)]

variable (existing now) in
/-- What is proposed is left open, unless its row is quiet. -/
theorem standingAfter_of_mem {proposed : List (ProductId × RecommendationAction)}
    (hmem : key ∈ proposed)
    (hquiet : ∀ prior, existing.find key = some prior → ¬ prior.Quiet now) :
    ∃ standing, standingAfter existing now proposed key = some standing ∧
      standing.1 = .opened := by
  rw [standingAfter, if_pos hmem]
  cases hprior : existing.find key with
  | none => exact ⟨_, rfl, rfl⟩
  | some prior =>
      refine ⟨_, rfl, ?_⟩
      by_cases hstatus : prior.status = .opened
      · rw [if_neg fun hreopens => hreopens.1 hstatus]
        exact hstatus
      · rw [if_pos ⟨hstatus, hquiet prior hprior⟩]

/-- The row after the loop has the standing of a recommendation that is proposed. -/
theorem standing_keptRow (r : Recommendation) (prior : Option StockRecommendation) :
    (keptRow now r prior).standing = match prior with
      | none => (.opened, none)
      | some prior => if prior.Reopens now then (.opened, none) else prior.standing := by
  cases prior with
  | none => rfl
  | some prior =>
      simp only [keptRow, StockRecommendation.standing, refresh]
      by_cases hreopens : prior.Reopens now
      · simp [hreopens]
      · simp [hreopens]

/-- A night goes through: what it leaves, and what it counts. -/
theorem standing_after (outside : Outside) (facts : RecommendationFacts) (db : RecommendationDb)
    (now : Time) :
    ∃ result after, runTenantRecommendations outside facts db now = some (result, after) ∧
      (∀ key, (after.recommendations.find key).map StockRecommendation.standing
        = standingAfter db.recommendations now
            ((facts.recommendations now).map Recommendation.key) key) ∧
      result.opened = (facts.recommendations now).countP
        (fun r => Opens db.recommendations now r) ∧
      result.resolved = (staleRows db.recommendations (facts.recommendations now)).length := by
  set recs := facts.recommendations now with hrecs
  have hread : ∀ r ∈ recs,
      ({ recommendations := db.recommendations } : Keeping).recommendations.find
      r.key = db.recommendations.find r.key := fun _ _ => rfl
  obtain ⟨last, hlast, hfind, hopened⟩ :=
    find_foldlM_keep now (facts.nodup_keys_recommendations now) hread
  unfold runTenantRecommendations
  dsimp only
  rw [← hrecs, hlast]
  refine ⟨_, _, rfl, fun key => ?_, ?_, rfl⟩
  · rw [standing_foldl_writeWording, find_resolveStale, hfind, standingAfter]
    cases hr : recs.find? fun r => r.key = key with
    | some r =>
        -- a proposed row is not stale
        have hmem : key ∈ recs.map Recommendation.key :=
          List.mem_map.mpr ⟨r, List.mem_of_find?_eq_some hr, by simpa using List.find?_some hr⟩
        have hstale : key ∉ (staleRows db.recommendations recs).map StockRecommendation.key :=
          fun h => (mem_staleRows.mp h).2 hmem
        simp only [if_pos hmem, if_neg hstale, Option.map_some, standing_keptRow]
        cases db.recommendations.find key <;> rfl
    | none =>
        have hmem : key ∉ recs.map Recommendation.key := by
          intro h
          obtain ⟨r, hr', hkey⟩ := List.mem_map.mp h
          have := List.find?_eq_none.mp hr r hr'
          simp [hkey] at this
        rw [if_neg hmem]
        dsimp only
        cases hprior : db.recommendations.find key with
        | none => rfl
        | some prior =>
            have hstale : key ∈ (staleRows db.recommendations recs).map StockRecommendation.key ↔
                prior.status = .opened := by
              rw [mem_staleRows, hprior]
              simp only [Option.some.injEq, exists_eq_left', hmem, not_false_eq_true, and_true]
            simp only [Option.map_some, hstale]
            split <;> rfl
  · rw [hopened]
    exact Nat.zero_add _

/-- After a night the open rows are those of the products and actions the rules propose that
were not done or dismissed with a snooze that has not ended; there is one row at most for each
product and action; quiet rows keep their status and their snooze; and another night at the same
time, with the same facts, opens and resolves nothing, whatever the wording step returns. -/
theorem runTenantRecommendations_settled (outside outside' : Outside)
    (facts : RecommendationFacts) (db : RecommendationDb) (now : Time) :
    ∃ result after, runTenantRecommendations outside facts db now = some (result, after) ∧
      (∀ key, (∃ row ∈ after.recommendations.rows, row.key = key ∧ row.status = .opened) ↔
        key ∈ (facts.recommendations now).map Recommendation.key ∧
          ¬ ∃ row ∈ db.recommendations.rows, row.key = key ∧ row.Quiet now) ∧
      (after.recommendations.rows.map StockRecommendation.key).Nodup ∧
      (∀ row ∈ db.recommendations.rows, row.Quiet now →
        ∃ row' ∈ after.recommendations.rows, row'.key = row.key ∧ row'.status = row.status ∧
          row'.snoozedUntil = row.snoozedUntil) ∧
      ∃ again next, runTenantRecommendations outside' facts after now = some (again, next) ∧
        again.opened = 0 ∧ again.resolved = 0 := by
  obtain ⟨result, after, hrun, hstanding, _, _⟩ := standing_after outside facts db now
  obtain ⟨again, next, hagain, _, hopened, hresolved⟩ := standing_after outside' facts after now
  set proposed := (facts.recommendations now).map Recommendation.key
  have hfound : ∀ (t : Table StockRecommendation) (key) (p : StockRecommendation → Prop),
      (∃ row ∈ t.rows, row.key = key ∧ p row) ↔ ∃ row, t.find key = some row ∧ p row := by
    intro t key p
    simp only [Table.find_eq_some, and_assoc]
    exact Iff.rfl
  -- the rows a night leaves, looked up by product and action
  have hleft : ∀ key row, after.recommendations.find key = some row →
      standingAfter db.recommendations now proposed key = some row.standing := by
    intro key row hrow
    rw [← hstanding key, hrow, Option.map_some]
  refine ⟨result, after, hrun, fun key => ?_, after.recommendations.nodup, ?_, again, next,
    hagain, ?_, ?_⟩
  · rw [hfound, hfound]
    constructor
    · rintro ⟨row, hrow, hstatus⟩
      constructor
      · by_contra hmem
        exact standingAfter_of_notMem hmem (hleft key row hrow) hstatus
      · rintro ⟨prior, hprior, hquiet⟩
        have hsame :=
          (standingAfter_of_quiet proposed hprior hquiet).symm.trans (hleft key row hrow)
        apply not_opened_of_quiet hquiet
        exact (congrArg Prod.fst (Option.some.inj hsame)).trans hstatus
    · rintro ⟨hmem, hquiet⟩
      obtain ⟨standing, hafter, hopen⟩ := standingAfter_of_mem db.recommendations now hmem
        fun prior hprior h => hquiet ⟨prior, hprior, h⟩
      rw [← hstanding key] at hafter
      obtain ⟨row, hrow, rfl⟩ := Option.map_eq_some_iff.mp hafter
      exact ⟨row, hrow, hopen⟩
  · intro row hrow hquiet
    have hsame := standingAfter_of_quiet proposed (Table.find_key hrow) hquiet
    rw [← hstanding] at hsame
    obtain ⟨row', hrow', hstand⟩ := Option.map_eq_some_iff.mp hsame
    obtain ⟨hmem', hkey'⟩ := Table.find_eq_some.mp hrow'
    exact ⟨row', hmem', hkey', congrArg Prod.fst hstand, congrArg Prod.snd hstand⟩
  · -- every proposed row is open or quiet already
    rw [hopened, List.countP_eq_zero]
    intro r hr hopens
    rw [decide_eq_true_eq, Opens] at hopens
    have hmem : r.key ∈ proposed := List.mem_map_of_mem hr
    by_cases hquiet : ∃ prior, db.recommendations.find r.key = some prior ∧ prior.Quiet now
    · obtain ⟨prior, hprior, hquiet⟩ := hquiet
      have hsame := standingAfter_of_quiet proposed hprior hquiet
      rw [← hstanding] at hsame
      obtain ⟨row, hrow, hstand⟩ := Option.map_eq_some_iff.mp hsame
      rw [hrow, Option.all_some, decide_eq_true_iff] at hopens
      exact hopens.2 ((quiet_of_standing hstand).mpr hquiet)
    · rw [not_exists] at hquiet
      obtain ⟨standing, hafter, hopen⟩ := standingAfter_of_mem db.recommendations now hmem
        fun prior hprior h => hquiet prior ⟨hprior, h⟩
      rw [← hstanding] at hafter
      obtain ⟨row, hrow, rfl⟩ := Option.map_eq_some_iff.mp hafter
      rw [hrow, Option.all_some, decide_eq_true_iff] at hopens
      exact hopens.1 hopen
  · -- no open row is left that is not proposed
    rw [hresolved, List.length_eq_zero_iff, ← List.map_eq_nil_iff]
    refine List.eq_nil_iff_forall_not_mem.mpr fun key hkey => ?_
    obtain ⟨⟨row, hrow, hstatus⟩, hlive⟩ := mem_staleRows.mp hkey
    exact standingAfter_of_notMem hlive (hleft key row hrow) hstatus

end Night

end Restock.Recommendations
