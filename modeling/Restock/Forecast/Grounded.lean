import Restock.Forecast.RunGuarantees
import Restock.Series.Best

/-!
# What a cold start stands on

A product without sales of its own may borrow the rate of another one: of the product an owner's
prior points to, or of the best similar one. The table of products that may lend is built by the
first pass, from what each of them sold itself, so a lender is never a borrower.

* `Outranks`, `Governs` — which owner prior speaks for a product;
* `governs_of_priorFor` — the prior a run selects;
* `Lends` — the product a row is borrowed from;
* `runForecast_grounded` — every borrowed row has such a lender, and every override of an owner
  comes from the prior that speaks for the product.
-/

namespace Restock.Forecast

/-! ## The prior that speaks for a product -/

/-- A prior goes before another one: it is more specific, or as specific and newer. -/
def Outranks (p best : OwnerPriorFacts) : Prop :=
  (p.target.scope = .product ∧ best.target.scope ≠ .product) ∨
    (p.target.scope = best.target.scope ∧ best.createdAt < p.createdAt)

instance : DecidableRel Outranks := fun p best =>
  inferInstanceAs (Decidable ((p.target.scope = .product ∧ best.target.scope ≠ .product) ∨
    (p.target.scope = best.target.scope ∧ best.createdAt < p.createdAt)))

/-- Which of two priors goes first is told by their scopes and their times. -/
theorem outranks_iff {p q : OwnerPriorFacts} :
    Outranks p q ↔ match p.target.scope, q.target.scope with
      | .product, .brand => True
      | .brand, .product => False
      | _, _ => q.createdAt < p.createdAt := by
  rw [Outranks]
  cases p.target.scope <;> cases q.target.scope <;> simp

theorem Outranks.asymm (p q : OwnerPriorFacts) (h : Outranks p q) : ¬ Outranks q p := by
  rw [outranks_iff] at h ⊢
  revert h
  cases p.target.scope <;> cases q.target.scope <;> dsimp only <;> intro h
  · exact not_lt.mpr h.le
  · exact not_false
  · exact fun _ => h
  · exact not_lt.mpr h.le

theorem Outranks.not_trans (p q r : OwnerPriorFacts) (hpq : ¬ Outranks p q) (hqr : ¬ Outranks q r) :
    ¬ Outranks p r := by
  rw [outranks_iff] at hpq hqr ⊢
  revert hpq hqr
  cases p.target.scope <;> cases q.target.scope <;> cases r.target.scope <;> dsimp only <;>
    simp only [not_true_eq_false, not_false_eq_true, not_lt, false_implies, implies_true,
      true_implies]
  · exact fun hpq hqr => hpq.trans hqr
  · exact fun hpq hqr => hpq.trans hqr

namespace RunFacts

variable (js : Js) (now : Time) (facts : RunFacts)

/-- The prior is in force and targets the product, and no other such prior goes before it. -/
structure Governs (product : RunProduct) (prior : OwnerPriorFacts) : Prop where
  mem : prior ∈ facts.priorRows
  active : priorActive prior now = true
  targets : priorMatchesProduct js prior product.id product.vendor = true
  first : ∀ other ∈ facts.priorRows, priorActive other now = true →
    priorMatchesProduct js other product.id product.vendor = true → ¬ Outranks other prior

variable {js now facts} {excludedFor : RunProduct → List Time} {product : RunProduct}

/-- The prior a run selects for a product speaks for it. -/
theorem governs_of_priorFor {prior : OwnerPriorFacts}
    (h : facts.priorFor js now product = some prior) : facts.Governs js now product prior := by
  have hmem : ∀ p, p ∈ (facts.priorRows.filter fun p =>
      priorActive p now ∧ priorMatchesProduct js p product.id product.vendor) ↔
        p ∈ facts.priorRows ∧ priorActive p now = true ∧
          priorMatchesProduct js p product.id product.vendor = true := by
    intro p
    rw [List.mem_filter, decide_eq_true_iff]
  rw [priorFor, selectPriorForProduct] at h
  split at h
  case h_1 => cases h
  case h_2 p rest hmatches =>
      rw [hmatches] at hmem
      have hbest : Series.best Outranks p rest = prior := Option.some.inj h
      have hprior := (hmem prior).mp (hbest ▸ Series.best_mem Outranks p rest)
      refine ⟨hprior.1, hprior.2.1, hprior.2.2, fun other hother hactive htargets => ?_⟩
      rw [← hbest]
      exact Series.not_better_best Outranks.asymm Outranks.not_trans p rest other
        ((hmem other).mpr ⟨hother, hactive, htargets⟩)

end RunFacts

/-! ## What is borrowed -/

/-- A borrowed forecast is the lender's, scaled by a factor within the clamp. -/
theorem exists_factor (proxy : ProxyCandidate) (target : ProxyTarget) :
    ∃ factor : ℚ, 1 / 2 ≤ factor ∧ factor ≤ 2 ∧
      borrowedForecast30d proxy target = proxy.dailyRate * 30 * factor := by
  dsimp only [borrowedForecast30d, borrowedDailyRate]
  split
  · refine ⟨_, ?_, min_le_left _ _, mul_right_comm _ _ _⟩
    exact le_min (by norm_num [BORROW_SCALE_MAX]) (le_max_left _ _)
  · exact ⟨1, by norm_num, by norm_num, (mul_one _).symm⟩

/-- What is selected among candidates is one of them that is established. -/
theorem mem_of_selectProxy {js : Js} {target : ProxyTarget} {candidates : List ProxyCandidate}
    {proxy : ProxyCandidate} (h : selectProxy js target candidates = some proxy) :
    proxy ∈ candidates ∧ proxy.productId ≠ target.productId ∧ isEstablishedProxy proxy = true := by
  dsimp only [selectProxy] at h
  split at h
  case h_1 => cases h
  case h_2 c rest hpool =>
      have hbest : Series.best (fun c best => best.historyDays < c.historyDays) c rest = proxy :=
        Option.some.inj h
      have hmem := hbest ▸ Series.best_mem (fun c best : ProxyCandidate =>
        best.historyDays < c.historyDays) c rest
      rw [← hpool] at hmem
      have heligible : proxy ∈ candidates.filter fun c =>
          c.productId ≠ target.productId ∧ isEstablishedProxy c := by
        split at hmem
        · exact (List.mem_filter.mp hmem).1
        · exact (List.mem_filter.mp hmem).1
      obtain ⟨hcandidate, hkeep⟩ := List.mem_filter.mp heligible
      exact ⟨hcandidate, of_decide_eq_true hkeep⟩

namespace RunFacts

variable {js : Js} {now : Time} {facts : RunFacts} {excludedFor : RunProduct → List Time}
  {product : RunProduct}

/-- An override is the forecast of its product: neither promos nor seasons nor caps apply. -/
theorem forecastProduct_override (product : RunProduct) (override : DemandOverride) :
    let fields := forecastProduct js now (facts.inputFor now excludedFor product (some override))
    fields.layer1Forecast30d = override.forecast30d ∧
      fields.finalForecast30d = max 0 override.forecast30d := by
  set input := facts.inputFor now excludedFor product (some override) with hinput
  have hresult : input.result js now = input.forecast js now := if_pos rfl
  have hpromo : input.layered.promoApplies js = false := by
    rw [ForecastInput.promoApplies]
    exact decide_eq_false fun h => Bool.noConfusion h.1
  have hseason : input.layered.seasonLabel now = none := rfl
  have hcap : ¬ (0 < input.layered.best now ∧ input.layered.demandOverride.isNone = true) :=
    fun h => Bool.noConfusion h.2
  dsimp only [forecastProduct]
  rw [hresult]
  refine ⟨rfl, ?_⟩
  show max 0 (input.layered.capped js now) = max 0 override.forecast30d
  rw [ForecastInput.capped, if_neg hcap, ForecastInput.boosted, hpromo, hseason]
  rfl

variable (js now facts excludedFor) in
/-- The lender is the one a prior that speaks for the product points to, or the best similar
product. -/
def Chosen (product source : RunProduct) : Prop :=
  (∃ prior, facts.Governs js now product prior ∧ prior.proxyProductId = some source.id) ∨
    selectProxy js
        { productId := product.id
          vendor := product.vendor
          customCategory := product.customCategory
          priceKes := some product.priceKes } (facts.candidates js now excludedFor) =
      some (facts.proxyFacts js now excludedFor source)

/-- The product a prior points to is one of the catalogue, if it is established. -/
theorem exists_of_ownerProxy {prior : Option OwnerPriorFacts} {proxy : ProxyCandidate}
    (h : facts.ownerProxy js now excludedFor prior = some proxy) :
    ∃ source ∈ facts.products, proxy = facts.proxyFacts js now excludedFor source ∧
      isEstablishedProxy proxy = true ∧
      ∃ p ∈ prior, p.proxyProductId = some source.id := by
  rw [ownerProxy] at h
  obtain ⟨id, hid, h⟩ := Option.bind_eq_some_iff.mp h
  obtain ⟨p, hp, hid⟩ := Option.bind_eq_some_iff.mp hid
  obtain ⟨h, hestablished⟩ := Option.filter_eq_some_iff.mp h
  obtain ⟨source, hfind, rfl⟩ := Option.map_eq_some_iff.mp h
  have hkey := List.find?_some hfind
  rw [decide_eq_true_iff] at hkey
  exact ⟨source, List.mem_of_find?_eq_some hfind, rfl, hestablished, p, hp, hid.trans (hkey ▸ rfl)⟩

variable (js now facts excludedFor product) in
/-- What a run decides for a product: to borrow, from the product its prior points to or from a
similar one; to take the owner's number, as expected or as applied; or neither. -/
theorem decisionFor_cases :
    (∃ target proxy, facts.decisionFor js now excludedFor product = facts.borrow target proxy ∧
      (facts.ownerProxy js now excludedFor (facts.priorFor js now product) = some proxy ∨
        selectProxy js
          { productId := product.id
            vendor := product.vendor
            customCategory := product.customCategory
            priceKes := some product.priceKes } (facts.candidates js now excludedFor) =
          some proxy)) ∨
    (∃ prior forecast30d,
      facts.decisionFor js now excludedFor product = ownerOverride js prior forecast30d ∧
      facts.priorFor js now product = some prior ∧
      (prior.expectedUnits = some forecast30d ∨
        forecast30d = applyOwnerPrior
          (facts.firstPass js now excludedFor product).finalForecast30d prior)) ∨
    facts.decisionFor js now excludedFor product = { coldStart := some .tooNew } ∨
    facts.decisionFor js now excludedFor product = {} := by
  rw [decisionFor]
  split
  case isTrue =>
      rw [coldStartFor]
      split
      case h_1 proxy howner => exact Or.inl ⟨_, proxy, rfl, Or.inl howner⟩
      case h_2 =>
          split
          case h_1 prior units hunits =>
              obtain ⟨prior', hprior, hunits⟩ := Option.bind_eq_some_iff.mp hunits
              obtain ⟨units', hunits, heq⟩ := Option.map_eq_some_iff.mp hunits
              cases heq
              exact Or.inr (Or.inl ⟨_, _, rfl, hprior, Or.inl hunits⟩)
          case h_2 =>
              split
              case h_1 proxy hselect => exact Or.inl ⟨_, proxy, rfl, Or.inr hselect⟩
              case h_2 => exact Or.inr (Or.inr (Or.inl rfl))
  case isFalse =>
      -- an established product is never a cold start
      split
      case h_1 => exact Or.inr (Or.inr (Or.inr rfl))
      case h_2 prior hprior =>
          split
          case isTrue => exact Or.inr (Or.inl ⟨prior, _, rfl, hprior, Or.inr rfl⟩)
          case isFalse => exact Or.inr (Or.inr (Or.inr rfl))

/-- A borrowed decision has a lender of the catalogue that is established. -/
theorem exists_of_borrowed
    (h : (facts.decisionFor js now excludedFor product).coldStart = some .borrowed) :
    ∃ source ∈ facts.products,
      isEstablishedProxy (facts.proxyFacts js now excludedFor source) = true ∧
      facts.Chosen js now excludedFor product source ∧
      ∃ target, facts.decisionFor js now excludedFor product =
        facts.borrow target (facts.proxyFacts js now excludedFor source) := by
  obtain ⟨target, proxy, hdecision, howner | hselect⟩ | ⟨_, _, hdecision, -⟩ | hdecision |
      hdecision := facts.decisionFor_cases js now excludedFor product
  · obtain ⟨source, hsource, rfl, hestablished, prior, hprior, hid⟩ := exists_of_ownerProxy howner
    exact ⟨source, hsource, hestablished, Or.inl ⟨prior, governs_of_priorFor hprior, hid⟩, target,
      hdecision⟩
  · obtain ⟨hcandidate, -, hestablished⟩ := mem_of_selectProxy hselect
    obtain ⟨source, hsource, rfl⟩ := List.mem_map.mp (List.mem_filter.mp hcandidate).1
    exact ⟨source, hsource, hestablished, Or.inr hselect, target, hdecision⟩
  -- nothing else is borrowed
  all_goals
    rw [hdecision] at h
    cases h

variable (js now facts) in
/-- An owner's prior sets an override: it speaks for the product, and the override is what the owner
expects of a cold start, or else what the prior makes of the product's own forecast. -/
def SetBy (product : RunProduct) (prior : OwnerPriorFacts) (override : DemandOverride) : Prop :=
  facts.Governs js now product prior ∧
    (prior.expectedUnits = some override.forecast30d ∨
      override.forecast30d = applyOwnerPrior
        (facts.firstPass js now (facts.excludedByProduct js now) product).finalForecast30d prior)

/-- An override of the owner comes from the prior that speaks for the product. -/
theorem exists_of_ownerPrior {override : DemandOverride}
    (h : (facts.decisionFor js now (facts.excludedByProduct js now) product).override =
      some override)
    (howner : override.source = .ownerPrior) :
    ∃ prior, facts.SetBy js now product prior override := by
  obtain ⟨_, _, hdecision, -⟩ | ⟨prior, _, hdecision, hprior, hforecast⟩ | hdecision | hdecision :=
      facts.decisionFor_cases js now (facts.excludedByProduct js now) product <;>
    rw [hdecision] at h <;> cases h
  · -- what is borrowed is not the owner's number
    cases howner
  · exact ⟨prior, governs_of_priorFor hprior, hforecast⟩

/-! ## The rows of a run -/

variable (js now facts) in
/-- What a borrowed row takes from its lender: the lender has history and a rate of its own, is not
borrowed itself, and its rate is scaled within the clamp. -/
structure Lends (rows : List PredictionRow) (row : PredictionRow) (source : RunProduct) : Prop where
  borrowedFrom : row.borrowedFromProductId = some source.id
  history : 60 ≤ historySpanDays (facts.historyOf source) (dayKeyOf now)
  rate : 0 < (facts.firstPass js now (facts.excludedByProduct js now) source).layer1Forecast30d
  scaled : ∃ factor : ℚ, 1 / 2 ≤ factor ∧ factor ≤ 2 ∧
    row.fields.layer1Forecast30d =
      (facts.firstPass js now (facts.excludedByProduct js now) source).layer1Forecast30d * factor ∧
    row.fields.finalForecast30d =
      (facts.firstPass js now (facts.excludedByProduct js now) source).layer1Forecast30d * factor
  notBorrowed : ∀ other ∈ rows, other.productId = source.id → other.coldStart = none

/-- A product with sixty days of history has a row in it. -/
theorem historyOf_ne_nil (h : 60 ≤ historySpanDays (facts.historyOf product) (dayKeyOf now)) :
    facts.historyOf product ≠ [] := by
  intro hnil
  rw [hnil] at h
  exact absurd h (by norm_num [historySpanDays])

/-- The row of a product that borrows takes it from a lender. -/
theorem lends_of_borrowed {rows : List PredictionRow}
    (hrows : rows = facts.rows js now (facts.excludedByProduct js now))
    (h : (facts.rowFor js now (facts.excludedByProduct js now) product).coldStart =
      some .borrowed) :
    ∃ source ∈ facts.products,
      facts.Lends js now rows (facts.rowFor js now (facts.excludedByProduct js now) product)
        source ∧
      facts.Chosen js now (facts.excludedByProduct js now) product source := by
  obtain ⟨source, hsource, hestablished, hchosen, target, hdecision⟩ := exists_of_borrowed h
  rw [isEstablishedProxy, decide_eq_true_iff] at hestablished
  obtain ⟨hspan, hrate⟩ := hestablished
  have hhistory : 60 ≤ historySpanDays (facts.historyOf source) (dayKeyOf now) := hspan
  obtain ⟨factor, hlow, hhigh, hfactor⟩ :=
    exists_factor (facts.proxyFacts js now (facts.excludedByProduct js now) source) target
  set own := (facts.firstPass js now (facts.excludedByProduct js now) source).layer1Forecast30d
    with hown
  have hscaled : borrowedForecast30d
      (facts.proxyFacts js now (facts.excludedByProduct js now) source) target = own * factor := by
    rw [hfactor]
    show own / 30 * 30 * factor = own * factor
    rw [div_mul_cancel₀ own (by norm_num)]
  have hpos : 0 < own := by
    have hrate : 0 < own / 30 := hrate
    linarith
  have hnonneg : 0 ≤ own * factor := mul_nonneg hpos.le ((by norm_num : (0 : ℚ) ≤ 1 / 2).trans hlow)
  refine ⟨source, hsource, ⟨?_, hhistory, hpos, ⟨factor, hlow, hhigh, ?_, ?_⟩, ?_⟩, hchosen⟩
  · dsimp only [rowFor]
    rw [hdecision]
    rfl
  · dsimp only [rowFor]
    rw [hdecision]
    exact (forecastProduct_override product _).1.trans hscaled
  · dsimp only [rowFor]
    rw [hdecision]
    refine (forecastProduct_override product _).2.trans ?_
    dsimp only [borrow]
    rw [hscaled, max_eq_right hnonneg]
  · rintro other hother hid
    rw [hrows, RunFacts.rows] at hother
    obtain ⟨product', -, rfl⟩ := List.mem_map.mp hother
    -- the history of a product is told by its id
    have hsame : facts.historyOf product' = facts.historyOf source := by
      rw [historyOf, historyOf, show product'.id = source.id from hid]
    exact decisionFor_coldStart (hsame ▸ historyOf_ne_nil hhistory)

end RunFacts

/-- **What a run borrows is grounded.** In every run of a tenant, every borrowed row takes its
forecast from a product of the catalogue with sixty days of history and a positive rate of its own,
which is not borrowed itself, scaled by a factor between a half and two. The lender is the one the
owner's prior points to or the best similar product, and a prior that is applied, to point or to set
a number, is in force, targets the product, and no other such prior goes before it. -/
theorem runForecast_grounded {js : Js} {now : Time} {facts : RunFacts} {rows : List PredictionRow}
    (hrun : runForecast js now facts = some rows) :
    ∀ row ∈ rows, ∃ product ∈ facts.products,
      row = facts.rowFor js now (facts.excludedByProduct js now) product ∧
      (row.coldStart = some .borrowed → ∃ source ∈ facts.products,
        facts.Lends js now rows row source ∧
        facts.Chosen js now (facts.excludedByProduct js now) product source) ∧
      ∀ override,
        (facts.decisionFor js now (facts.excludedByProduct js now) product).override =
          some override →
        override.source = .ownerPrior →
        row.fields.layer1Forecast30d = override.forecast30d ∧
        ∃ prior, facts.SetBy js now product prior override := by
  have hrows := runForecast_eq_some hrun
  intro row hrow
  rw [hrows] at hrow
  obtain ⟨product, hproduct, rfl⟩ := List.mem_map.mp hrow
  refine ⟨product, hproduct, rfl, RunFacts.lends_of_borrowed hrows, fun override h howner => ?_⟩
  refine ⟨?_, RunFacts.exists_of_ownerPrior h howner⟩
  dsimp only [RunFacts.rowFor]
  rw [h]
  exact (RunFacts.forecastProduct_override product override).1

/-- A shop with a product that has sold for seventy days, a new one of the same brand at twice the
price, and a new one of which the owner expects forty a month. -/
def newBrandShop : RunFacts where
  products :=
    [{ id := 0, vendor := some "Acme", priceKes := 100 },
      { id := 1, vendor := some "acme ", priceKes := 200 }, { id := 2 }]
  sales := [{ productId := 0, date := -70 * DAY_MS, quantity := 5 },
    { productId := 0, date := -3 * DAY_MS, quantity := 30 }]
  priorRows := [{ target := .product 2, expectedUnits := some 40, weeks := 4, createdAt := 0 },
    { target := .product 2, expectedUnits := some 90, weeks := 4, createdAt := -DAY_MS }]

/-- Its run borrows for one new product, and takes the owner's newest word for the other. -/
theorem runForecast_newBrandShop :
    ((newBrandShop.rows Js.rational 0 (newBrandShop.excludedByProduct Js.rational 0)).map fun row =>
        (row.coldStart, row.borrowedFromProductId)) =
      [(none, none), (some .borrowed, some 0), (none, none)] ∧
    ∀ row ∈ newBrandShop.rows Js.rational 0 (newBrandShop.excludedByProduct Js.rational 0),
      ∃ product ∈ newBrandShop.products,
        row = newBrandShop.rowFor Js.rational 0
          (newBrandShop.excludedByProduct Js.rational 0) product ∧
        (row.coldStart = some .borrowed → ∃ source ∈ newBrandShop.products,
          newBrandShop.Lends Js.rational 0
            (newBrandShop.rows Js.rational 0 (newBrandShop.excludedByProduct Js.rational 0)) row
            source ∧
          newBrandShop.Chosen Js.rational 0 (newBrandShop.excludedByProduct Js.rational 0) product
            source) ∧
        ∀ override,
          (newBrandShop.decisionFor Js.rational 0
            (newBrandShop.excludedByProduct Js.rational 0) product).override = some override →
          override.source = .ownerPrior →
          row.fields.layer1Forecast30d = override.forecast30d ∧
          ∃ prior, newBrandShop.SetBy Js.rational 0 product prior override :=
  ⟨by decide +kernel, runForecast_grounded (if_neg (by decide +kernel))⟩

end Restock.Forecast
