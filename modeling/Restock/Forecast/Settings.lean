import Restock.Forecast.Pipeline

/-!
# Settings and classes of a tenant

What `packages/forecast/src/config.ts` makes of a tenant's stored settings, and the ABC
classes of `abc.ts`.

* `resolveForecastKnobs`, `policyForClass`, `championForClass` — settings into engine knobs;
* `assignAbc`, `trailingRevenue`, `saleSpanDays` — the class of each product.
-/

namespace Restock.Forecast

/-! ## Settings -/

/-- `OrderMethod`. -/
inductive OrderMethod
  | stayInStock
  | balanced
  | leanCash
  deriving DecidableEq, Repr

/-- What each class has of something. -/
structure ByClass (α : Type) where
  A : α
  B : α
  C : α
  deriving DecidableEq, Repr

/-- The entry of a class; products without one take that of C. -/
def ByClass.get {α : Type} (by' : ByClass α) (abc : Option String) : α :=
  if abc = some "A" then by'.A else if abc = some "B" then by'.B else by'.C

/-- `METHOD_DEFAULTS`. -/
def METHOD_DEFAULTS : ByClass OrderMethod where
  A := .stayInStock
  B := .balanced
  C := .leanCash

/-- The ordering policy of a method. -/
def methodToPolicy : OrderMethod → OrderPolicy
  | .stayInStock => { serviceLevel := some (95 / 100), rule := .calibrated }
  | .balanced => { serviceLevel := some (90 / 100), rule := .calibrated }
  | .leanCash => { serviceLevel := none, rule := .minMax }

/-- Parse a stored method; anything else is nothing. -/
def parseOrderMethod (v : Option String) : Option OrderMethod :=
  if v = some "stay_in_stock" then some .stayInStock
  else if v = some "balanced" then some .balanced
  else if v = some "lean_cash" then some .leanCash
  else none

/-- The columns of `TenantConfig` that the forecast reads. -/
structure TenantConfig where
  serviceLevelZA : Option ℚ := none
  serviceLevelZB : Option ℚ := none
  serviceLevelZC : Option ℚ := none
  orderCapMultiple : Option ℚ := none
  methodA : Option String := none
  methodB : Option String := none
  methodC : Option String := none
  /-- The stored JSON, by class: nothing where it is no string. -/
  forecastChampions : ByClass (Option String) := { A := none, B := none, C := none }
  abcWindowDays : Option ℤ := none
  baselineMethod : Option String := none
  bigBuyerDamping : Option Bool := none
  deriving DecidableEq, Repr

/-- `ResolvedForecastKnobs`. -/
structure ResolvedForecastKnobs where
  serviceZ : ByClass ℚ
  capMultiple : ℚ
  methods : ByClass OrderMethod
  deriving DecidableEq, Repr

def Z_MIN : ℚ := 1 / 2
def Z_MAX : ℚ := 4
def CAP_MIN : ℚ := 1
def CAP_MAX : ℚ := 20

/-- Keep a stored knob inside its bounds; the default when it is absent. -/
def bounded (value : Option ℚ) (lo hi fallback : ℚ) : ℚ :=
  match value with
  | none => fallback
  | some value => min hi (max lo value)

/-- A tenant's settings over the code's defaults; a missing row is all defaults. -/
def resolveForecastKnobs (cfg : TenantConfig) : ResolvedForecastKnobs where
  serviceZ :=
    { A := bounded cfg.serviceLevelZA Z_MIN Z_MAX (233 / 100)
      B := bounded cfg.serviceLevelZB Z_MIN Z_MAX (165 / 100)
      C := bounded cfg.serviceLevelZC Z_MIN Z_MAX (128 / 100) }
  capMultiple := bounded cfg.orderCapMultiple CAP_MIN CAP_MAX DEFAULT_CAP_MULTIPLE
  methods :=
    { A := (parseOrderMethod cfg.methodA).getD METHOD_DEFAULTS.A
      B := (parseOrderMethod cfg.methodB).getD METHOD_DEFAULTS.B
      C := (parseOrderMethod cfg.methodC).getD METHOD_DEFAULTS.C }

/-- The ordering policy of a class under the resolved methods. -/
def policyForClass (methods : ByClass OrderMethod) (abc : Option String) : OrderPolicy :=
  methodToPolicy (methods.get abc)

/-- The demand method each class won in the last audition; the run rate until audited. -/
def resolveChampions (stored : ByClass (Option String)) : ByClass DemandMethod :=
  let pick (raw : Option String) : DemandMethod :=
    if raw = some "recent_heavy" then .recentHeavy else .runRate
  { A := pick stored.A, B := pick stored.B, C := pick stored.C }

/-- The demand method of a class. -/
def championForClass (champions : ByClass DemandMethod) (abc : Option String) : DemandMethod :=
  champions.get abc

/-! ## Classes -/

def MIN_RUN_RATE_FOR_A : ℚ := 2 / 5
def MIN_RUN_RATE_FOR_B : ℚ := 1 / 10
def MIN_SALE_SPAN_DAYS_FOR_A : ℚ := 14

/-- The supported ranking windows; anything else is ninety days. -/
def resolveAbcWindowDays (value : Option ℤ) : ℤ :=
  if value = some 30 then 30 else if value = some 60 then 60 else 90

/-- `AbcInput`. -/
structure AbcInput where
  id : ProductId
  revenue : ℚ
  runRate : Option ℚ := none
  saleSpanDays : Option ℚ := none
  deriving DecidableEq, Repr

/-- The class of a product by the share of revenue above it, held back by a slow rate or a
brief burst where these are known. -/
def abcClass (total above : ℚ) (p : AbcInput) : String :=
  let share := if 0 < total then above / total else 1
  let cls := if share < 7 / 10 then "A" else if share < 9 / 10 then "B" else "C"
  let cls := if cls = "A" ∧ p.runRate.any (· < MIN_RUN_RATE_FOR_A) then "B" else cls
  let cls := if cls = "B" ∧ p.runRate.any (· < MIN_RUN_RATE_FOR_B) then "C" else cls
  if cls = "A" ∧ p.saleSpanDays.any (· < MIN_SALE_SPAN_DAYS_FOR_A) then "B" else cls

/-- The classes of products in order of revenue, given what is above the first. -/
def assignFrom (total : ℚ) : ℚ → List AbcInput → List (ProductId × String)
  | _, [] => []
  | above, p :: ps => (p.id, abcClass total above p) :: assignFrom total (above + p.revenue) ps

/-- ABC classification by revenue. -/
def assignAbc (products : List AbcInput) : List (ProductId × String) :=
  let sorted := products.insertionSort fun a b => b.revenue ≤ a.revenue
  assignFrom ((sorted.map AbcInput.revenue).sum) 0 sorted

/-- What a product earned over the trailing window. -/
def trailingRevenue (history : List SalesPoint) (asOf : Time) (windowDays : ℤ) : ℚ :=
  ((history.filter fun p => inWindow (daysBefore asOf windowDays) asOf p.date).map
    SalesPoint.revenueKes).sum

/-- The days from the first to the last sale of the trailing window. -/
def saleSpanDays (history : List SalesPoint) (asOf : Time) (windowDays : ℤ) : ℚ :=
  let dates := (history.filter fun p =>
    0 < p.quantity ∧ inWindow (daysBefore asOf windowDays) asOf p.date).map SalesPoint.date
  if dates.length < 2 then 0
  else match dates.min?, dates.max? with
    | some first, some last => daysBetween first last
    | _, _ => 0

end Restock.Forecast
