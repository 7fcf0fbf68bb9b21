import Restock.Forecast.IngestHealth
import Restock.Forecast.SameEvidence
import Restock.Forecast.Settings
import Restock.Inventory.Roles

/-!
# A forecast run of a tenant

`runForecast` of `packages/forecast-run/src/run.ts`: the ingest gate, the exclusions, the first
pass over the catalogue, cold starts and owner priors, and the rows that are written. The read
phase is its input; ids are primary keys, so what a map holds under a product's id is a
function of the product.

* `selectProxy`, `applyOwnerPrior`, `expandPromoWindowsToDays` — `cold-start.ts`, `owner-prior.ts`
  and `promo-windows.ts` of `packages/forecast/src`;
* `RunFacts` — what the read phase loads;
* `RunFacts.excludedByProduct`, `RunFacts.firstPass`, `RunFacts.decisionFor` — the steps;
* `runForecast` — the rows written, or none when the run is held.
-/

namespace Restock.Forecast

/-- `(v ?? "").trim().toLowerCase()`. -/
def normName (js : Js) (v : Option String) : String :=
  let chars := (v.getD "").toList.dropWhile isSpace
  js.toLowerCase (String.ofList (chars.reverse.dropWhile isSpace).reverse)

/-! ## Borrowing -/

/-- `ProxyCandidate`. -/
structure ProxyCandidate where
  productId : ProductId
  vendor : Option String := none
  customCategory : Option String := none
  historyDays : ℚ
  dailyRate : ℚ
  priceKes : Option ℚ := none
  deriving DecidableEq, Repr

/-- `ProxyTarget`. -/
structure ProxyTarget where
  productId : ProductId
  vendor : Option String := none
  customCategory : Option String := none
  priceKes : Option ℚ := none
  deriving DecidableEq, Repr

def PROXY_MIN_HISTORY_DAYS : ℚ := NEW_PRODUCT_DAYS
def BORROW_SCALE_MIN : ℚ := 1 / 2
def BORROW_SCALE_MAX : ℚ := 2

/-- Names that are not blank and the same: `sameBrand` and `sameCategory`. -/
def sameName (js : Js) (a b : Option String) : Bool :=
  normName js a ≠ "" ∧ normName js a = normName js b

/-- A full baseline of history and a real rate. -/
def isEstablishedProxy (c : ProxyCandidate) : Bool :=
  PROXY_MIN_HISTORY_DAYS ≤ c.historyDays ∧ 0 < c.dailyRate

/-- The established product to borrow from: of the same brand, else of the same category, with
the most history. -/
def selectProxy (js : Js) (target : ProxyTarget) (candidates : List ProxyCandidate) :
    Option ProxyCandidate :=
  let eligible := candidates.filter fun c =>
    c.productId ≠ target.productId ∧ isEstablishedProxy c
  let brandMatches := eligible.filter fun c => sameName js c.vendor target.vendor
  let categoryMatches := eligible.filter fun c =>
    sameName js c.customCategory target.customCategory
  match if brandMatches ≠ [] then brandMatches else categoryMatches with
  | [] => none
  | c :: rest =>
      some (rest.foldl (fun best c => if best.historyDays < c.historyDays then c else best) c)

/-- A proxy's rate scaled by relative price. -/
def borrowedDailyRate (proxyRate : ℚ) (targetPrice proxyPrice : Option ℚ) : ℚ :=
  let tp := targetPrice.getD 0
  let pp := proxyPrice.getD 0
  if 0 < tp ∧ 0 < pp then proxyRate * min BORROW_SCALE_MAX (max BORROW_SCALE_MIN (pp / tp))
  else proxyRate

/-- The borrowed forecast of thirty days. -/
def borrowedForecast30d (proxy : ProxyCandidate) (target : ProxyTarget) : ℚ :=
  borrowedDailyRate proxy.dailyRate target.priceKes proxy.priceKes * 30

/-! ## Owner priors -/

/-- `PriorScope`. -/
inductive PriorScope
  | product
  | brand
  deriving DecidableEq, Repr

/-- What a prior speaks of: a product by its id, or a brand by its name. -/
inductive PriorTarget
  | product (id : ProductId)
  | brand (name : String)
  deriving DecidableEq, Repr

/-- The scope of a target. -/
def PriorTarget.scope : PriorTarget → PriorScope
  | .product _ => .product
  | .brand _ => .brand

/-- `OwnerPriorFacts`. -/
structure OwnerPriorFacts where
  target : PriorTarget
  expectedUnits : Option ℚ := none
  multiplier : Option ℚ := none
  proxyProductId : Option ProductId := none
  weeks : ℚ
  createdAt : Time
  revokedAt : Option Time := none
  deriving DecidableEq, Repr

def OWNER_PRIOR_MAX_MULTIPLIER : ℚ := 4

/-- In force: not revoked and within its weeks. -/
def priorActive (p : OwnerPriorFacts) (asOf : Time) : Bool :=
  p.revokedAt.isNone ∧ asOf ≤ p.createdAt + max 0 (jsRound p.weeks) * 7 * DAY_MS

/-- The prior targets the product. -/
def priorMatchesProduct (js : Js) (p : OwnerPriorFacts) (id : ProductId) (vendor : Option String) :
    Bool :=
  match p.target with
  | .product target => target = id
  | .brand name => normName js vendor ≠ "" ∧ normName js (some name) = normName js vendor

/-- The most specific prior in force, the newest among equals. -/
def selectPriorForProduct (js : Js) (priors : List OwnerPriorFacts) (id : ProductId)
    (vendor : Option String) (asOf : Time) : Option OwnerPriorFacts :=
  match priors.filter fun p => priorActive p asOf ∧ priorMatchesProduct js p id vendor with
  | [] => none
  | p :: rest =>
      some (rest.foldl (fun best p =>
        let moreSpecific := p.target.scope = .product ∧ best.target.scope ≠ .product
        let sameSpecificityNewer :=
          p.target.scope = best.target.scope ∧ best.createdAt < p.createdAt
        if moreSpecific ∨ sameSpecificityNewer then p else best) p)

/-- The owner's expectation applied to a forecast. -/
def applyOwnerPrior (base30d : ℚ) (p : OwnerPriorFacts) : ℚ :=
  let level := p.expectedUnits.getD base30d
  max 0 (match p.multiplier with
    | some multiplier => level * min multiplier OWNER_PRIOR_MAX_MULTIPLIER
    | none => level)

/-! ## Promo windows -/

/-- `PromoWindow`. -/
structure PromoWindow where
  start : Time
  stop : Time
  scope : String
  scopeValue : Option String
  deriving DecidableEq, Repr

/-- The promo windows that apply to one product. -/
def windowsForProduct (js : Js) (promos : List PromoWindow) (sku : String)
    (productType vendor : Option String) : List PromoWindow :=
  promos.filter fun p => scopeMatches js p.scope p.scopeValue productType vendor sku

/-- No window expands past this many days. -/
def MAX_WINDOW_DAYS : ℕ := 366

/-- The day keys that windows cover between two dates, each once. -/
def expandPromoWindowsToDays (windows : List PromoWindow) (since upTo : Time) : List Time :=
  (windows.flatMap fun w =>
    let start := dayKeyOf w.start
    ((dayKeys start (dayKeyOf w.stop + DAY_MS)).take MAX_WINDOW_DAYS).filter fun d =>
      dayKeyOf since ≤ d ∧ d ≤ dayKeyOf upTo).eraseDups

/-! ## What is loaded -/

/-- A product row of the run, with its supplier's lead times. -/
structure RunProduct where
  id : ProductId
  sku : String := ""
  title : String := ""
  productType : Option String := none
  vendor : Option String := none
  customCategory : Option String := none
  priceKes : ℚ := 0
  currentStock : ℤ := 0
  onOrder : ℤ := 0
  leadTimeDays : Option ℚ := none
  shopifyCreatedAt : Option Time := none
  supplier : SupplierFacts := {}
  deriving DecidableEq, Repr

/-- A row of `SalesHistory`. -/
structure SaleRow extends SalesPoint where
  productId : ProductId
  deriving DecidableEq, Repr

/-- The columns of an outstanding purchase order line that the run reads. -/
structure OutstandingLine where
  productId : ProductId
  quantity : ℤ
  receivedQty : ℤ
  deriving DecidableEq, Repr

/-- A row of `MonthlyContext` that states a multiplier. -/
structure MonthlyContextRow where
  month : String
  expectedMultiplier : Option ℚ
  deriving DecidableEq, Repr

/-- What the read phase of a run loads, each query with its filters applied. -/
structure RunFacts where
  products : List RunProduct := []
  config : TenantConfig := {}
  promos : List ActivePromo := []
  pastPromos : List PromoWindow := []
  closures : List (LocationId × Time) := []
  locations : List Location := []
  monthlyContext : List MonthlyContextRow := []
  sales : List SaleRow := []
  priorRows : List OwnerPriorFacts := []
  emptyShelfDays : List (ProductId × Time) := []
  firstSnapshot : Option Time := none
  lastGood : Bool := false
  poLines : List OutstandingLine := []

/-- The days of history a run loads. -/
def HISTORY_DAYS : ℤ := 365

/-- The age up to which a listing is genuinely new. -/
def COLD_START_MAX_AGE_DAYS : ℚ := 60

/-- A listing without an age reads as new. -/
def isGenuinelyNew (shopifyCreatedAt : Option Time) (now : Time) : Bool :=
  shopifyCreatedAt.all fun created => daysBetween created now ≤ COLD_START_MAX_AGE_DAYS

/-- Day keys on which every selling location was closed. -/
def fullClosureDayKeys (closures : List (LocationId × Time)) (sells : Finset LocationId) :
    List Time :=
  if sells = ∅ then []
  else
    let closed := (closures.filter fun c => c.1 ∈ sells).map fun c => (c.1, dayKeyOf c.2)
    ((closed.map Prod.snd).eraseDups).filter fun k =>
      sells.card ≤ (((closed.filter fun c => c.2 = k).map Prod.fst).toFinset).card

/-- Units on a line still to arrive. -/
def outstandingUnits (line : OutstandingLine) : ℤ :=
  max 0 (line.quantity - line.receivedQty)

/-- Short chip text for an owner prior. -/
def priorLabel (js : Js) (p : OwnerPriorFacts) : String :=
  let scope := match p.target.scope with
    | .product => "product"
    | .brand => "brand"
  match p.expectedUnits, p.multiplier with
  | some units, _ => "Owner expects ~" ++ toString (jsRound units) ++ "/mo"
  | none, some multiplier => "Owner set " ++ js.text multiplier ++ "× for this " ++ scope
  | none, none => "Owner prior applied"

/-- `Prediction.coldStart`. -/
inductive ColdStart
  | tooNew
  | borrowed
  deriving DecidableEq, Repr

/-- What the run decides for a product: its override and where it comes from. -/
structure Decision where
  override : Option DemandOverride := none
  coldStart : Option ColdStart := none
  borrowedFromProductId : Option ProductId := none
  deriving DecidableEq, Repr

/-- A row of `Prediction`. -/
structure PredictionRow where
  productId : ProductId
  runDate : Time
  fields : PredictionFields
  coldStart : Option ColdStart
  borrowedFromProductId : Option ProductId
  deriving DecidableEq, Repr

namespace RunFacts

variable (js : Js) (now : Time) (facts : RunFacts)

/-! ## The catalogue -/

/-- `historyByProduct.get`. -/
def historyOf (product : RunProduct) : List SalesPoint :=
  (facts.sales.filter fun row => row.productId = product.id).map SaleRow.toSalesPoint

/-- `stockoutsByProduct.get`. -/
def stockoutsOf (product : RunProduct) : List Time :=
  (facts.emptyShelfDays.filter fun row => row.1 = product.id).map Prod.snd

/-- What is genuinely inbound for a product, from either source. -/
def inboundFor (product : RunProduct) : ℤ :=
  let outstanding := (facts.poLines.filter fun line => line.productId = product.id).map
    outstandingUnits
  max product.onOrder outstanding.sum

/-- The ingest verdict of the run. -/
def ingest : IngestVerdict :=
  assessTenantIngest (facts.sales.map SaleRow.toSalesPoint) now

/-- The classes of this run. -/
def abcByProduct : List (ProductId × String) :=
  let abcWindowDays := resolveAbcWindowDays facts.config.abcWindowDays
  assignAbc (facts.products.map fun p =>
    { id := p.id
      revenue := trailingRevenue (facts.historyOf p) now abcWindowDays
      saleSpanDays := some (saleSpanDays (facts.historyOf p) now abcWindowDays)
      runRate := some (weightedDailyRateAdjusted (facts.historyOf p) now []) })

/-- The stated months, bounded. -/
def monthlyExpectations : List MonthlyExpectation :=
  facts.monthlyContext.filterMap fun m =>
    (boundedMultiplier m.expectedMultiplier).map fun multiplier => { month := m.month, multiplier }

/-- Days censored from a product's rates: past promos and full closures. -/
def excludedByProduct (product : RunProduct) : List Time :=
  let sells := ((facts.locations.filter isSellable).map Location.id).toFinset
  let windows :=
    windowsForProduct js facts.pastPromos product.sku product.productType product.vendor
  expandPromoWindowsToDays windows (daysBefore now HISTORY_DAYS) now
    ++ fullClosureDayKeys facts.closures sells

/-! ## The two passes -/

variable (excludedFor : RunProduct → List Time)

/-- The engine's input for a product. -/
def inputFor (product : RunProduct) (override : Option DemandOverride) : ProductForecastInput :=
  let knobs := resolveForecastKnobs facts.config
  let abcCategory := (facts.abcByProduct now).lookup product.id
  { product :=
      { sku := product.sku
        productType := product.productType
        vendor := product.vendor
        currentStock := product.currentStock
        onOrder := facts.inboundFor product
        leadTimeDays := product.leadTimeDays }
    supplier := product.supplier
    history := facts.historyOf product
    activePromos := facts.promos
    monthlyExpectations := facts.monthlyExpectations
    abcCategory
    stockoutDates := facts.stockoutsOf product
    snapshotsSince := facts.firstSnapshot
    excludedDates := excludedFor product
    policy := some (policyForClass knobs.methods abcCategory)
    demandMethod := some (championForClass (resolveChampions facts.config.forecastChampions)
      abcCategory)
    baselineMethod := if facts.config.baselineMethod = some "median" then .median else .mean
    bigBuyerDamping := facts.config.bigBuyerDamping ≠ some false
    serviceZ :=
      { A := some knobs.serviceZ.A, B := some knobs.serviceZ.B, C := some knobs.serviceZ.C }
    capMultiple := some knobs.capMultiple
    runDateKey := some (now / DAY_MS)
    demandOverride := override }

/-- Pass 1: a product forecast from its own history. -/
def firstPass (product : RunProduct) : PredictionFields :=
  forecastProduct js now (facts.inputFor now excludedFor product none)

/-- What a product is as a proxy: `factsById.get`. -/
def proxyFacts (product : RunProduct) : ProxyCandidate where
  productId := product.id
  vendor := product.vendor
  customCategory := product.customCategory
  historyDays := historySpanDays (facts.historyOf product) (anchorToday now (some (now / DAY_MS)))
  dailyRate := (facts.firstPass js now excludedFor product).layer1Forecast30d / 30
  priceKes := some product.priceKes

/-- The established products. -/
def candidates : List ProxyCandidate :=
  (facts.products.map (facts.proxyFacts js now excludedFor)).filter isEstablishedProxy

/-- The borrowed forecast of a product. -/
def borrow (target : ProxyTarget) (proxy : ProxyCandidate) : Decision where
  override := some
    { forecast30d := borrowedForecast30d proxy target
      source := .borrowed
      label := "Borrowed from " ++ ((facts.products.find? fun p => p.id = proxy.productId).map
        RunProduct.title).getD "a similar product" }
  coldStart := some .borrowed
  borrowedFromProductId := some proxy.productId

/-- The owner's expectation as an override. -/
def ownerOverride (prior : OwnerPriorFacts) (forecast30d : ℚ) : Decision where
  override := some { forecast30d, source := .ownerPrior, label := priorLabel js prior }

/-- The prior that applies to a product. -/
def priorFor (product : RunProduct) : Option OwnerPriorFacts :=
  selectPriorForProduct js facts.priorRows product.id product.vendor now

/-- The established product the owner's prior points to. -/
def ownerProxy (prior : Option OwnerPriorFacts) : Option ProxyCandidate :=
  (prior.bind OwnerPriorFacts.proxyProductId).bind fun id =>
    ((facts.products.find? fun p => p.id = id).map (facts.proxyFacts js now excludedFor)).filter
      isEstablishedProxy

/-- Cold start: the owner's proxy, then the owner's expectation, then a similar product. -/
def coldStartFor (product : RunProduct) (prior : Option OwnerPriorFacts) : Decision :=
  let target : ProxyTarget :=
    { productId := product.id
      vendor := product.vendor
      customCategory := product.customCategory
      priceKes := some product.priceKes }
  match facts.ownerProxy js now excludedFor prior with
  | some proxy => facts.borrow target proxy
  | none =>
      match prior.bind fun p => p.expectedUnits.map fun units => (p, units) with
      | some (prior, units) => ownerOverride js prior units
      | none =>
          match selectProxy js target (facts.candidates js now excludedFor) with
          | some proxy => facts.borrow target proxy
          | none => { coldStart := some .tooNew }

/-- What the run decides for a product. -/
def decisionFor (product : RunProduct) : Decision :=
  let prior := facts.priorFor js now product
  let hasHistory := 0 < (facts.historyOf product).length
  if ¬ hasHistory ∧ isGenuinelyNew product.shopifyCreatedAt now then
    facts.coldStartFor js now excludedFor product prior
  else match prior with
    | none => {}
    | some prior =>
        if prior.expectedUnits.isSome ∨ prior.multiplier.isSome then
          ownerOverride js prior
            (applyOwnerPrior (facts.firstPass js now excludedFor product).finalForecast30d prior)
        else {}

/-- The row of a product. -/
def rowFor (product : RunProduct) : PredictionRow :=
  let decision := facts.decisionFor js now excludedFor product
  { productId := product.id
    runDate := now
    fields :=
      if decision.override.isNone then facts.firstPass js now excludedFor product
      else forecastProduct js now (facts.inputFor now excludedFor product decision.override)
    coldStart := decision.coldStart
    borrowedFromProductId := decision.borrowedFromProductId }

/-- The rows of a run under given exclusions. -/
def rows : List PredictionRow :=
  facts.products.map (facts.rowFor js now excludedFor)

end RunFacts

/-- The rows a run writes; none when the feed looks stopped and there is a last-good forecast to
keep. -/
def runForecast (js : Js) (now : Time) (facts : RunFacts) : Option (List PredictionRow) :=
  if (facts.ingest now).stop ∧ facts.lastGood then none
  else some (facts.rows js now (facts.excludedByProduct js now))

end Restock.Forecast
