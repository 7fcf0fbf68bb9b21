import Restock.Pos.MatchSku
import Restock.Series.Loops

/-!
# Ingesting a window again

An ingest resolves codes with what the stored lines were matched to before it deletes the lines
of its window. The second ingest of a window reads what the first one left.

* `Reachable` — the tables ingests, matches and catalogue edits lead to;
* `SameLedger` — tables with the same receipts and the same history;
* `ingestWindow_eq_some` — what an ingest leaves;
* `Settled` — taking the window's old receipts away teaches no code anything new;
* `ingestPosSales_idempotent` — the second ingest of a settled window changes nothing.
-/

namespace Restock.Pos

open Sales (Zone SalesTable SalesHistory tenantDayKey nairobi)
open Series (single setEntries)

/-! ## What a window is stored as -/

section Window

variable {js : Js} {maps : RollupMaps} {timezone : Zone} {db : PosDb}
  {window : List PosSaleInput} {sale : PosSaleInput}

/-- A receipt of a window is one the window names. -/
theorem mem_of_mem_dedupeSales (h : sale ∈ dedupeSales window) : sale ∈ window := by
  obtain ⟨e, he, rfl⟩ := List.mem_map.mp h
  rcases Series.mem_of_mem_setEntries he with hnil | hentry
  · exact absurd hnil List.not_mem_nil
  · obtain ⟨sale, hsale, rfl⟩ := List.mem_map.mp hentry
    exact hsale

/-- A window has one receipt per external id. -/
theorem nodup_dedupeSales (window : List PosSaleInput) :
    ((dedupeSales window).map PosSaleInput.externalId).Nodup := by
  have hkeys : (dedupeSales window).map PosSaleInput.externalId
      = (setEntries [] (window.map fun s => (s.externalId, s))).map Prod.fst := by
    rw [dedupeSales, List.map_map]
    refine List.map_congr_left fun e he => ?_
    rcases Series.mem_of_mem_setEntries he with hnil | hentry
    · exact absurd hnil List.not_mem_nil
    · obtain ⟨sale, _, rfl⟩ := List.mem_map.mp hentry
      rfl
  rw [hkeys]
  exact Series.nodup_keys_setEntries_nil _

variable (js maps window) in
/-- The receipts a window is stored as. -/
def plannedSales : List PosSale :=
  (physicalSales js window).filterMap (planSale js maps)

variable (js window) in
/-- Every receipt of the window that is stored has a valid date. -/
def Dated : Prop :=
  ∀ sale ∈ physicalSales js window, sale.date.isSome

instance : Decidable (Dated js window) :=
  inferInstanceAs (Decidable (∀ _ ∈ _, _))

variable (db window) in
/-- The stored receipts a window does not replace. -/
def keptSales : List PosSale :=
  db.sales.rows.filter fun s => s.externalId ∉ window.map PosSaleInput.externalId

/-- A stored receipt is one of the window. -/
theorem mem_plannedSales {stored : PosSale} : stored ∈ plannedSales js maps window ↔
    ∃ sale ∈ physicalSales js window, planSale js maps sale = some stored :=
  List.mem_filterMap

/-- A receipt is stored under its id, for its date, as a physical one. -/
theorem planSale_eq_some {stored : PosSale} (h : planSale js maps sale = some stored) :
    sale.date = some stored.date ∧ stored.externalId = sale.externalId ∧
      stored.channel = "physical" ∧ stored.lines = sale.lines.map (planLine js maps) := by
  obtain ⟨date, hdate, h⟩ := Option.bind_eq_some_iff.mp h
  cases h
  exact ⟨hdate, rfl, rfl, rfl⟩

/-- A receipt with a valid date can be stored. -/
theorem isSome_planSale : (planSale js maps sale).isSome = sale.date.isSome := by
  unfold planSale
  cases sale.date <;> rfl

variable (js maps) in
/-- The plan of a window whose dates are valid. -/
theorem planPosIngest_eq_some (h : Dated js window) (dayKeyOf : Time → Time) :
    ∃ plan, planPosIngest js maps dayKeyOf window = some plan ∧
      plan.sales = plannedSales js maps window := by
  have hplanned : (physicalSales js window).mapM (planSale js maps)
      = some (plannedSales js maps window) :=
    Series.mapM_eq_some_filterMap fun sale hsale => isSome_planSale.trans (h sale hsale)
  unfold planPosIngest
  dsimp only
  rw [hplanned]
  exact ⟨_, rfl, rfl⟩

/-- The plan of a window throws on an invalid date. -/
theorem planPosIngest_eq_none (h : ¬ Dated js window) (dayKeyOf : Time → Time) :
    planPosIngest js maps dayKeyOf window = none := by
  obtain ⟨sale, hsale, hdate⟩ : ∃ sale ∈ physicalSales js window, ¬ sale.date.isSome := by
    simpa [Dated] using h
  have hnone : planSale js maps sale = none := by
    rw [← Option.not_isSome_iff_eq_none, isSome_planSale]
    exact hdate
  unfold planPosIngest
  dsimp only
  rw [Series.mapM_eq_none hsale hnone]
  rfl

/-- No two receipts a window is stored as share an id. -/
theorem nodup_plannedSales (js : Js) (maps : RollupMaps) (window : List PosSaleInput) :
    ((plannedSales js maps window).map PosSale.externalId).Nodup := by
  have hsub : ((plannedSales js maps window).map PosSale.externalId).Sublist
      ((physicalSales js window).map PosSaleInput.externalId) := by
    rw [plannedSales]
    induction physicalSales js window with
    | nil => exact List.Sublist.refl _
    | cons sale rest ih =>
        rw [List.filterMap_cons, List.map_cons]
        cases hstored : planSale js maps sale with
        | none => exact ih.cons _
        | some stored =>
            dsimp only
            rw [List.map_cons, (planSale_eq_some hstored).2.1]
            exact ih.cons_cons _
  exact (nodup_dedupeSales window).sublist (hsub.trans (List.filter_sublist.map _))

/-- A window is stored under ids it names. -/
theorem externalId_mem_of_mem_plannedSales {stored : PosSale}
    (h : stored ∈ plannedSales js maps window) :
    stored.externalId ∈ window.map PosSaleInput.externalId := by
  obtain ⟨sale, hsale, hstored⟩ := mem_plannedSales.mp h
  rw [(planSale_eq_some hstored).2.1]
  exact List.mem_map_of_mem (mem_of_mem_dedupeSales (List.mem_filter.mp hsale).1)

variable (js timezone db window) in
/-- The days of the receipts a window replaces, and of its own. -/
def touchedDays : List Time :=
  ((db.sales.rows.filter (fun s => s.externalId ∈ window.map PosSaleInput.externalId)
      ++ plannedSales js (db.rollupMaps js) window).map fun s =>
    tenantDayKey timezone s.date).eraseDups

variable (js timezone db window) in
/-- What an ingest leaves: the receipts it does not replace, then its own, and the history with
the days of both rebuilt. -/
structure Ingested (next : PosDb) : Prop where
  tenant : next.tenant = db.tenant
  products : next.products = db.products
  ignoreRules : next.ignoreRules = db.ignoreRules
  warehouseMaps : next.warehouseMaps = db.warehouseMaps
  sales : next.sales.rows = keptSales db window ++ plannedSales js (db.rollupMaps js) window
  salesHistory : ∃ n, rebuildDays js (db.rollupMaps js) timezone (touchedDays js timezone db window)
    next.sales db.salesHistory = some (next.salesHistory, n)

variable (timezone db) in
/-- An ingest of valid dates goes through. -/
theorem ingestWindow_eq_some (h : Dated js window) :
    ∃ result next, ingestWindow js db timezone window = some (result, next) ∧
      Ingested js timezone db window next := by
  obtain ⟨plan, hplan, hsales⟩ :=
    planPosIngest_eq_some js (db.rollupMaps js) h (tenantDayKey timezone)
  have hids : ∀ s : PosSale, s.externalId ∈ (window.map PosSaleInput.externalId).eraseDups ↔
      s.externalId ∈ window.map PosSaleInput.externalId := fun _ => List.mem_eraseDups
  -- the ids of the window are free once its old receipts are gone
  have hfree : ∀ s ∈ (db.sales.deleteMany fun s =>
        s.externalId ∈ (window.map PosSaleInput.externalId).eraseDups).rows,
      s.externalId ∉ plan.sales.map PosSale.externalId := by
    intro s hs hmem
    rw [hsales] at hmem
    obtain ⟨stored, hstored, hid⟩ := List.mem_map.mp hmem
    have hwindow := externalId_mem_of_mem_plannedSales hstored
    rw [hid, ← hids s] at hwindow
    simpa [hwindow] using (List.mem_filter.mp hs).2
  obtain ⟨ledger, hledger, hrows⟩ := SaleLedger.createMany_eq_some
    (by rw [hsales]; exact nodup_plannedSales js (db.rollupMaps js) window) hfree
  have hprevious : db.sales.rows.filter
        (fun s => s.externalId ∈ (window.map PosSaleInput.externalId).eraseDups)
      = db.sales.rows.filter fun s => s.externalId ∈ window.map PosSaleInput.externalId :=
    List.filter_congr fun s _ => decide_eq_decide.mpr (hids s)
  obtain ⟨rebuilt, n, hrebuilt, _⟩ := rebuildDays_eq_some js (db.rollupMaps js) timezone
    (touchedDays js timezone db window) ledger db.salesHistory
  unfold ingestWindow
  dsimp only
  rw [hplan, Option.bind_eq_bind, Option.bind_some, hledger, Option.bind_eq_bind, Option.bind_some,
    hprevious, hsales, ← touchedDays, hrebuilt]
  refine ⟨_, _, rfl, rfl, rfl, rfl, rfl, ?_, n, hrebuilt⟩
  rw [hrows, hsales, keptSales]
  congr 1
  refine List.filter_congr fun s _ => ?_
  rw [← decide_not]
  exact decide_eq_decide.mpr (not_congr (hids s))

/-- An ingest of an invalid date throws. -/
theorem ingestWindow_eq_none (h : ¬ Dated js window) :
    ingestWindow js db timezone window = none := by
  unfold ingestWindow
  dsimp only
  rw [planPosIngest_eq_none h]
  rfl

end Window

/-! ## Runs -/

section Reachable

variable (js : Js) (defaultZone : Zone)

/-- The tables that ingests, matches and catalogue edits lead to, from tables without receipts. A
transaction that throws leaves the tables as they are. -/
inductive Reachable : PosDb → Prop
  | start {db : PosDb} (hsales : db.sales.rows = [])
      (hpos : ∀ r ∈ db.salesHistory.rows, r.channel ≠ .pos) : Reachable db
  | ingested {db : PosDb} (sales : List PosSaleInput) (h : Reachable db) :
      Reachable (ingestPosSales js db sales).2
  | matched {db : PosDb} (sku : String) (productId : ProductId) (h : Reachable db) :
      Reachable (((matchPosSku js defaultZone db sku productId).map Prod.snd).getD db)
  | edited {db : PosDb} (products : Store.Table MatchProduct) (h : Reachable db) :
      Reachable (db.editCatalogue products)

end Reachable

/-! ## What the second ingest reads -/

section Settled

variable {js : Js} {timezone : Zone} {db next : PosDb} {window : List PosSaleInput}
  {key : String}

/-- Tables with the same receipts, attributions and history, and otherwise the same. -/
structure SameLedger (a b : PosDb) : Prop where
  tenant : a.tenant = b.tenant
  products : a.products = b.products
  ignoreRules : a.ignoreRules = b.ignoreRules
  warehouseMaps : a.warehouseMaps = b.warehouseMaps
  sales : a.sales = b.sales
  posRows : ∀ productId day,
    posRows a.salesHistory productId day = posRows b.salesHistory productId day
  otherRows : otherRows a.salesHistory = otherRows b.salesHistory

/-- Tables are the same as themselves. -/
theorem SameLedger.refl (db : PosDb) : SameLedger db db :=
  ⟨rfl, rfl, rfl, rfl, rfl, fun _ _ => rfl, rfl⟩

variable (js window) in
/-- The window has a line of the code that is stored. -/
def Rings (key : String) : Prop :=
  ∃ sale ∈ physicalSales js window, ∃ line ∈ sale.lines, normalizeSku js (some line.sku) = key

instance : Decidable (Rings js window key) :=
  inferInstanceAs (Decidable (∃ _ ∈ _, _))

variable (js db) in
/-- No product has the code as its SKU, so that it comes to what it was matched to. -/
def Learned (key : String) : Prop :=
  key ≠ "" ∧ (resolvePosSkuMap js db.products.rows).lookup key = none

instance : Decidable (Learned js db key) :=
  inferInstanceAs (Decidable (_ ∧ _))

variable (js) in
/-- The only product the lines of some receipts of the code were matched to. -/
def taught (sales : List PosSale) (key : String) : Option ProductId :=
  single (matchedProducts js (sales.flatMap PosSale.lines) key)

variable (js timezone db window) in
/-- Taking the window's old receipts away settles no code that was matched to several products
and that the window rings; and it changes nothing about the other codes of unmatched lines that
count on the window's days. -/
structure Settled : Prop where
  rung : ∀ key, Rings js window key → Learned js db key →
    taught js db.sales.rows key = none → taught js (keptSales db window) key = none
  stored : ∀ s ∈ keptSales db window, s.channel = "physical" →
    (∃ sale ∈ physicalSales js window, sale.date.map (tenantDayKey timezone)
      = some (tenantDayKey timezone s.date)) →
    ∀ line ∈ s.lines, line.productId = none →
      normalizeSku js (some line.sku) ∉ (db.rollupMaps js).ignoredSkus →
      Learned js db (normalizeSku js (some line.sku)) →
      ¬ Rings js window (normalizeSku js (some line.sku)) →
        taught js db.sales.rows (normalizeSku js (some line.sku))
          = taught js (keptSales db window) (normalizeSku js (some line.sku))

/-- A code that is learned comes to what the lines teach. -/
theorem lookup_of_learned (h : Learned js db key) :
    (db.rollupMaps js).skuToProductId.lookup key = taught js db.sales.rows key := by
  rw [lookup_rollupMaps, h.2, if_neg h.1, Option.none_or]
  rfl

/-- A code that is not learned comes to the product of its SKU. -/
theorem lookup_of_not_learned (h : ¬ Learned js db key) :
    (db.rollupMaps js).skuToProductId.lookup key
      = (resolvePosSkuMap js db.products.rows).lookup key := by
  rw [lookup_rollupMaps]
  by_cases hkey : key = ""
  · rw [if_pos hkey, Option.or_none]
  · cases hsku : (resolvePosSkuMap js db.products.rows).lookup key with
    | none => exact absurd ⟨hkey, hsku⟩ h
    | some productId => rfl

/-- What the lines of a window are matched to. -/
theorem mem_matchedProducts_plannedSales {maps : RollupMaps} {productId : ProductId}
    (hdated : Dated js window) (hkey : key ≠ "") :
    productId ∈ matchedProducts js
        ((plannedSales js maps window).flatMap PosSale.lines) key ↔
      Rings js window key ∧ maps.skuToProductId.lookup key = some productId := by
  rw [mem_matchedProducts]
  constructor
  · rintro ⟨l, hl, rfl, hproduct⟩
    obtain ⟨stored, hstored, hl⟩ := List.mem_flatMap.mp hl
    obtain ⟨sale, hsale, hplan⟩ := mem_plannedSales.mp hstored
    rw [(planSale_eq_some hplan).2.2.2] at hl
    obtain ⟨line, hline, rfl⟩ := List.mem_map.mp hl
    refine ⟨⟨sale, hsale, line, hline, rfl⟩, ?_⟩
    have hmatch : matchSku js maps line.sku
        = maps.skuToProductId.lookup (normalizeSku js (some line.sku)) := if_neg hkey
    exact hmatch.symm.trans hproduct
  · rintro ⟨⟨sale, hsale, line, hline, rfl⟩, hproduct⟩
    obtain ⟨stored, hplan⟩ :=
      Option.isSome_iff_exists.mp (isSome_planSale.trans (hdated sale hsale))
    refine ⟨planLine js maps line, List.mem_flatMap.mpr ⟨stored, ?_, ?_⟩, rfl, ?_⟩
    · exact mem_plannedSales.mpr ⟨sale, hsale, hplan⟩
    · rw [(planSale_eq_some hplan).2.2.2]
      exact List.mem_map_of_mem hline
    · have hmatch : matchSku js maps line.sku
          = maps.skuToProductId.lookup (normalizeSku js (some line.sku)) := if_neg hkey
      exact hmatch.trans hproduct

/-- What the lines after an ingest were matched to: those of the receipts it did not replace,
and its own. -/
theorem mem_matchedProducts_of_ingested (productId : ProductId)
    (h : Ingested js timezone db window next) (hdated : Dated js window) (hkey : key ≠ "") :
    productId ∈ matchedProducts js (next.sales.rows.flatMap PosSale.lines) key ↔
      productId ∈ matchedProducts js ((keptSales db window).flatMap PosSale.lines) key ∨
        Rings js window key ∧
          (db.rollupMaps js).skuToProductId.lookup key = some productId := by
  rw [← mem_matchedProducts_plannedSales hdated hkey, h.sales, List.flatMap_append,
    mem_matchedProducts, mem_matchedProducts, mem_matchedProducts]
  simp only [List.mem_append, or_and_right, exists_or]

/-- The receipts a window does not replace teach nothing but what all receipts teach. -/
theorem matchedProducts_keptSales {productId : ProductId}
    (h : productId ∈ matchedProducts js ((keptSales db window).flatMap PosSale.lines) key) :
    productId ∈ matchedProducts js (db.sales.rows.flatMap PosSale.lines) key := by
  obtain ⟨l, hl, hmatched⟩ := mem_matchedProducts.mp h
  obtain ⟨s, hs, hl⟩ := List.mem_flatMap.mp hl
  exact mem_matchedProducts.mpr
    ⟨l, List.mem_flatMap.mpr ⟨s, (List.mem_filter.mp hs).1, hl⟩, hmatched⟩

/-- An ingest leaves the same codes to be learned. -/
theorem learned_of_ingested (h : Ingested js timezone db window next) :
    Learned js next key ↔ Learned js db key := by
  rw [Learned, Learned, h.products]

/-- A code that the window rings comes to the same again. -/
theorem lookup_of_rings (h : Ingested js timezone db window next) (hdated : Dated js window)
    (hsettled : Settled js timezone db window) (hrings : Rings js window key) :
    (next.rollupMaps js).skuToProductId.lookup key
      = (db.rollupMaps js).skuToProductId.lookup key := by
  by_cases hlearned : Learned js db key
  · rw [lookup_of_learned ((learned_of_ingested h).mpr hlearned)]
    have hlookup := lookup_of_learned hlearned
    have hmem := fun productId => mem_matchedProducts_of_ingested productId h hdated hlearned.1
    rw [hlookup] at hmem ⊢
    cases htaught : taught js db.sales.rows key with
    | some productId =>
        -- the window's own lines carry the match on, and no other line is matched elsewhere
        obtain ⟨_, hall⟩ := Series.single_eq_some.mp htaught
        refine Series.single_eq_some.mpr ⟨(hmem productId).mpr (Or.inr ⟨hrings, htaught⟩), ?_⟩
        intro q hq
        rcases (hmem q).mp hq with hkept | ⟨_, hq⟩
        · exact hall q (matchedProducts_keptSales hkept)
        · exact Option.some.inj (hq.symm.trans htaught)
    | none =>
        rw [← hsettled.rung key hrings hlearned htaught]
        refine Series.single_congr fun q => ?_
        rw [hmem q, htaught]
        simp
  · rw [lookup_of_not_learned fun hnext => hlearned ((learned_of_ingested h).mp hnext),
      lookup_of_not_learned hlearned, h.products]

/-- A code that the window does not ring comes to what the receipts it does not replace
teach. -/
theorem taught_of_not_rings (h : Ingested js timezone db window next) (hdated : Dated js window)
    (hkey : key ≠ "") (hrings : ¬ Rings js window key) :
    taught js next.sales.rows key = taught js (keptSales db window) key := by
  refine Series.single_congr fun q => ?_
  rw [mem_matchedProducts_of_ingested _ h hdated hkey]
  simp [hrings]

/-- A window is stored the same where the codes of its lines are looked up the same. -/
theorem plannedSales_congr {maps maps' : RollupMaps}
    (h : ∀ sale ∈ physicalSales js window, ∀ line ∈ sale.lines,
      maps'.skuToProductId.lookup (normalizeSku js (some line.sku))
        = maps.skuToProductId.lookup (normalizeSku js (some line.sku))) :
    plannedSales js maps' window = plannedSales js maps window := by
  refine List.filterMap_congr fun sale hsale => ?_
  have hlines : sale.lines.map (planLine js maps') = sale.lines.map (planLine js maps) := by
    refine List.map_congr_left fun line hline => ?_
    simp only [planLine, matchSku, h sale hsale line hline]
  simp only [planSale, hlines]

/-- A window is stored the same again. -/
theorem plannedSales_again (h : Ingested js timezone db window next) (hdated : Dated js window)
    (hsettled : Settled js timezone db window) :
    plannedSales js (next.rollupMaps js) window = plannedSales js (db.rollupMaps js) window :=
  plannedSales_congr fun sale hsale line hline =>
    lookup_of_rings h hdated hsettled ⟨sale, hsale, line, hline, rfl⟩

/-- A window replaces its own receipts, and leaves the ones it left before. -/
theorem keptSales_again (h : Ingested js timezone db window next) :
    keptSales next window = keptSales db window := by
  have hown : (plannedSales js (db.rollupMaps js) window).filter
      (fun s => s.externalId ∉ window.map PosSaleInput.externalId) = [] := by
    rw [List.filter_eq_nil_iff]
    intro s hs hout
    exact of_decide_eq_true hout (externalId_mem_of_mem_plannedSales hs)
  rw [keptSales, h.sales, List.filter_append, hown, List.append_nil, keptSales,
    List.filter_filter]
  simp only [Bool.and_self]

/-- The second ingest touches days of the window's receipts, which the first one touched. -/
theorem mem_touchedDays_again (h : Ingested js timezone db window next) (hdated : Dated js window)
    (hsettled : Settled js timezone db window) {day : Time} :
    day ∈ touchedDays js timezone next window ↔
      ∃ s ∈ plannedSales js (db.rollupMaps js) window, tenantDayKey timezone s.date = day := by
  have hprevious : next.sales.rows.filter
        (fun s => s.externalId ∈ window.map PosSaleInput.externalId)
      = plannedSales js (db.rollupMaps js) window := by
    have hkept : (keptSales db window).filter
        (fun s => s.externalId ∈ window.map PosSaleInput.externalId) = [] := by
      rw [List.filter_eq_nil_iff]
      intro s hs hin
      exact of_decide_eq_true (List.mem_filter.mp hs).2 (of_decide_eq_true hin)
    rw [h.sales, List.filter_append, hkept, List.nil_append, List.filter_eq_self]
    intro s hs
    exact decide_eq_true (externalId_mem_of_mem_plannedSales hs)
  rw [touchedDays, hprevious, plannedSales_again h hdated hsettled, List.mem_eraseDups,
    List.mem_map]
  simp only [List.mem_append, or_self]

/-- On the window's days, a line the second rebuild could count is for the product it was for in
the first. -/
theorem productOf_again (h : Ingested js timezone db window next) (hdated : Dated js window)
    (hsettled : Settled js timezone db window) {s : PosSale} {line : PosSaleLine}
    (hs : s ∈ next.sales.rows) (hline : line ∈ s.lines) (hphysical : s.channel = "physical")
    (hday : tenantDayKey timezone s.date ∈ touchedDays js timezone next window)
    (hkey : normalizeSku js (some line.sku) ∉ (db.rollupMaps js).ignoredSkus) :
    (next.rollupMaps js).productOf js line = (db.rollupMaps js).productOf js line := by
  rw [RollupMaps.productOf, RollupMaps.productOf]
  cases hproduct : line.productId with
  | some productId => rfl
  | none =>
      rw [Option.none_or, Option.none_or]
      by_cases hrings : Rings js window (normalizeSku js (some line.sku))
      · exact lookup_of_rings h hdated hsettled hrings
      by_cases hlearned : Learned js db (normalizeSku js (some line.sku))
      · rw [lookup_of_learned hlearned, lookup_of_learned ((learned_of_ingested h).mpr hlearned),
          taught_of_not_rings h hdated hlearned.1 hrings]
        -- a line of a code the window does not ring is on a receipt it does not replace
        rw [h.sales, List.mem_append] at hs
        rcases hs with hkept | hplanned
        · obtain ⟨stored, hstored, hsame⟩ :=
            (mem_touchedDays_again h hdated hsettled).mp hday
          obtain ⟨sale, hsale, hplan⟩ := mem_plannedSales.mp hstored
          have hdate : sale.date.map (tenantDayKey timezone)
              = some (tenantDayKey timezone s.date) := by
            rw [(planSale_eq_some hplan).1, Option.map_some, hsame]
          exact (hsettled.stored s hkept hphysical ⟨sale, hsale, hdate⟩ line hline hproduct hkey
            hlearned hrings).symm
        · obtain ⟨sale, hsale, hplan⟩ := mem_plannedSales.mp hplanned
          rw [(planSale_eq_some hplan).2.2.2] at hline
          obtain ⟨rung, hrung, rfl⟩ := List.mem_map.mp hline
          exact absurd ⟨sale, hsale, rung, hrung, rfl⟩ hrings
      · rw [lookup_of_not_learned hlearned, lookup_of_not_learned fun hnext =>
          hlearned ((learned_of_ingested h).mp hnext), h.products]

/-- On the window's days the second rebuild counts the lines the first one counted. -/
theorem dayCounted_again (h : Ingested js timezone db window next) (hdated : Dated js window)
    (hsettled : Settled js timezone db window) {productId : ProductId} {day : Time}
    (hday : day ∈ touchedDays js timezone next window) :
    dayCounted js (next.rollupMaps js) timezone next.sales productId day
      = dayCounted js (db.rollupMaps js) timezone next.sales productId day := by
  have hprices : (next.rollupMaps js).priceByProductId = (db.rollupMaps js).priceByProductId := by
    simp only [PosDb.rollupMaps, h.products]
  have hignored : (next.rollupMaps js).ignoredSkus = (db.rollupMaps js).ignoredSkus := by
    simp only [PosDb.rollupMaps, h.ignoreRules]
  have hwarehouses : (next.rollupMaps js).warehouseToLocationId
      = (db.rollupMaps js).warehouseToLocationId := by
    simp only [PosDb.rollupMaps, h.warehouseMaps]
  have hcounted : (next.rollupMaps js).counted js productId
      = (db.rollupMaps js).counted js productId := by
    funext rung
    simp only [RollupMaps.counted, hprices, hwarehouses]
  rw [dayCounted, dayCounted, hcounted]
  refine congrArg _ (List.filter_congr fun rung hrung => decide_eq_decide.mpr ?_)
  obtain ⟨s, hs, hrung⟩ := List.mem_flatMap.mp hrung
  obtain ⟨line, hline, rfl⟩ := List.mem_map.mp hrung
  simp only [RollupMaps.Counts, hprices, hignored]
  refine and_congr_right fun hphysical => and_congr_right fun hsame => and_congr_right fun hkey =>
    ?_
  rw [productOf_again h hdated hsettled hs hline hphysical (hsame ▸ hday) hkey]

/-- What the second ingest leaves is what the first one left. -/
theorem sameLedger_of_ingested {again : PosDb} (h : Ingested js timezone db window next)
    (h' : Ingested js timezone next window again) (hdated : Dated js window)
    (hsettled : Settled js timezone db window) : SameLedger again next := by
  have hsales : again.sales = next.sales := by
    ext1
    rw [h'.sales, keptSales_again h, plannedSales_again h hdated hsettled, h.sales]
  obtain ⟨n, hfirst⟩ := h.salesHistory
  obtain ⟨m, hsecond⟩ := h'.salesHistory
  rw [hsales] at hsecond
  refine ⟨h'.tenant, h'.products, h'.ignoreRules, h'.warehouseMaps, hsales, ?_,
    otherRows_rebuildDays hsecond⟩
  intro productId day
  by_cases hday : day ∈ touchedDays js timezone next window
  · have hbefore : day ∈ touchedDays js timezone db window := by
      obtain ⟨s, hs, hsame⟩ := (mem_touchedDays_again h hdated hsettled).mp hday
      exact List.mem_eraseDups.mpr
        (List.mem_map.mpr ⟨s, List.mem_append_right _ hs, hsame⟩)
    rw [posRows_rebuildDays hsecond productId hday, posRows_rebuildDays hfirst productId hbefore,
      dayCounted_again h hdated hsettled hday]
  · exact posRows_rebuildDays_of_notMem hsecond productId hday

/-- Ingesting a settled window a second time changes nothing. -/
theorem ingestPosSales_idempotent (js : Js) (db : PosDb) (window : List PosSaleInput)
    (hsettled : ∀ timezone, db.tenant = some timezone → Settled js timezone db window) :
    SameLedger (ingestPosSales js (ingestPosSales js db window).2 window).2
      (ingestPosSales js db window).2 := by
  by_cases hempty : window = []
  · -- nothing is sent
    have hnothing : ∀ db : PosDb, (ingestPosSales js db window).2 = db := by
      intro db
      rw [ingestPosSales, hempty]
      cases db.tenant <;> rfl
    rw [hnothing, hnothing]
    exact .refl db
  cases htenant : db.tenant with
  | none =>
      have hunknown : ingestPosSales js db window = (.unknownTenant, db) := by
        rw [ingestPosSales, htenant]
      rw [hunknown, hunknown]
      exact .refl db
  | some timezone =>
      by_cases hdated : Dated js window
      · obtain ⟨result, next, hfirst, hnext⟩ :=
          ingestWindow_eq_some timezone db hdated
        obtain ⟨result', again, hsecond, hagain⟩ :=
          ingestWindow_eq_some timezone next hdated
        have honce : ingestPosSales js db window = (.ingested result, next) := by
          simp only [ingestPosSales, htenant, if_neg hempty, hfirst]
        have htwice : ingestPosSales js next window = (.ingested result', again) := by
          simp only [ingestPosSales, hnext.tenant, htenant, if_neg hempty, hsecond]
        rw [honce, htwice]
        exact sameLedger_of_ingested hnext hagain hdated (hsettled timezone htenant)
      · have hthrew : ingestPosSales js db window = (.threw, db) := by
          simp only [ingestPosSales, htenant, if_neg hempty, ingestWindow_eq_none hdated]
        rw [hthrew, hthrew]
        exact .refl db

end Settled

/-! ## A code matched to two products -/

/-- Two products, the second one under the SKU. -/
def twoProducts (sku : String) : Store.Table MatchProduct :=
  ⟨[{ id := 1, sku := "kb-01" }, { id := 2, sku }], by simp⟩

/-- A receipt with one line of the code `kb`. -/
def kbReceipt (externalId : String) : PosSaleInput where
  externalId
  date := some 0
  lines := [{ sku := "kb", qty := 1, price := some 100 }]

/-- A shop without receipts. -/
def openedShop : PosDb where
  tenant := some nairobi
  products := twoProducts "ms-02"
  ignoreRules := []
  warehouseMaps := []
  sales := .empty
  salesHistory := .empty

/-- Its first receipt, its code matched to the first product. -/
def matchedShop : PosDb :=
  let unmatched := (ingestPosSales .plain openedShop [kbReceipt "r1"]).2
  ((matchPosSku .plain nairobi unmatched "kb" 1).map Prod.snd).getD unmatched

/-- The second product was sold once while it had the code as its SKU. -/
def ambiguousShop : PosDb :=
  let renamed := matchedShop.editCatalogue (twoProducts "kb")
  let sold := (ingestPosSales .plain renamed [kbReceipt "r2"]).2
  sold.editCatalogue (twoProducts "ms-02")

theorem ingestPosSales_idempotent_matchedShop :
    SameLedger (ingestPosSales .plain (ingestPosSales .plain matchedShop [kbReceipt "r1"]).2
        [kbReceipt "r1"]).2
      (ingestPosSales .plain matchedShop [kbReceipt "r1"]).2 := by
  have hkept : keptSales matchedShop [kbReceipt "r1"] = [] := by decide +kernel
  refine ingestPosSales_idempotent .plain matchedShop [kbReceipt "r1"] fun timezone _ => ⟨?_, ?_⟩
  · intro key _ _ _
    rw [hkept]
    rfl
  · rw [hkept]
    exact fun s hs => absurd hs List.not_mem_nil

/-- The first ingest finds the code matched to two products, and leaves its receipt unmatched;
the second one finds it matched to the other product only, and gives it the receipt. -/
theorem ingestPosSales_ambiguousShop :
    Reachable .plain nairobi ambiguousShop ∧
    ¬ SameLedger (ingestPosSales .plain (ingestPosSales .plain ambiguousShop [kbReceipt "r1"]).2
        [kbReceipt "r1"]).2
      (ingestPosSales .plain ambiguousShop [kbReceipt "r1"]).2 := by
  have hopened : Reachable .plain nairobi openedShop :=
    .start rfl fun r hr => absurd hr List.not_mem_nil
  have hmatched : Reachable .plain nairobi matchedShop :=
    .matched "kb" 1 (.ingested [kbReceipt "r1"] hopened)
  constructor
  · exact .edited _ (.ingested [kbReceipt "r2"] (.edited _ hmatched))
  · intro hsame
    have hlines := congrArg
      (fun sales : SaleLedger => sales.lines.map PosSaleLine.productId) hsame.sales
    exact absurd hlines (by decide +kernel)

end Restock.Pos
