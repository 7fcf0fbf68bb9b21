import Restock.Pos.Ingest

/-!
# Matching a till code by hand

The owner links an unmatched till code to a product. Every unmatched line of the code is given
the product, and the product's whole `pos` history is derived again from its lines. A rebuild
derives days of that history too, from another choice of lines: it passes over ignored codes
and receipts that are not physical, and adds the unmatched lines whose code it can resolve.

* `matchPosSku`, `rederiveProductPosHistory` — the code;
* `posRows_matchPosSku`, `dayCounted_matchPosSku` — what a match leaves of a product's day, and
  what a rebuild counts for it then;
* `MatchPosSkuAgrees` — the lines that only one of them counts come to the same;
* `matchPosSku_agrees_iff` — the two derivations agree exactly then.
-/

namespace Restock.Pos

open Sales (Zone SalesTable SalesHistory tenantDayKey nairobi)

section Code

variable (js : Js)

/-- What a product's derivation reads: its own price, and the warehouses. -/
def PosDb.rederiveMaps (db : PosDb) (productId : ProductId) (price : ℚ) : RollupMaps where
  skuToProductId := []
  ignoredSkus := []
  priceByProductId id := if id = productId then some price else none
  warehouseToLocationId := Series.setEntries []
    (db.warehouseMaps.map fun w => (normalizeSku js (some w.1), w.2))

/-- The product's history, derived again from all lines that are matched to it. -/
def rederiveProductPosHistory (db : PosDb) (productId : ProductId) (price : ℚ) (timezone : Zone) :
    Option SalesTable :=
  let maps := db.rederiveMaps js productId price
  let lines := db.sales.rungLines.filter fun rung => rung.2.productId = some productId
  let rows := aggregateStoredPosLines js maps (tenantDayKey timezone) <| lines.map fun rung =>
    { productId
      qty := rung.2.qty
      price := rung.2.price
      subtotal := rung.2.subtotal
      saleDate := rung.1.date
      warehouse := rung.1.warehouse }
  (db.salesHistory.deleteMany fun r => r.productId = productId ∧ r.channel = .pos).createMany
    (rows.map PlannedSalesHistoryRow.row)

/-- How a match ends. -/
inductive MatchPosSkuResult
  | ok (matchedLines : ℕ)
  | no_product
  | no_lines
  | bad_sku
  deriving DecidableEq, Repr

/-- The line is unmatched and of the code. -/
def Unmatched (target : String) (line : PosSaleLine) : Prop :=
  line.productId = none ∧ normalizeSku js (some line.sku) = target

instance (target : String) (line : PosSaleLine) : Decidable (Unmatched js target line) :=
  inferInstanceAs (Decidable (_ ∧ _))

/-- The line after a match: an unmatched line of the code is the product's. -/
def matchLine (target : String) (productId : ProductId) (line : PosSaleLine) : PosSaleLine :=
  if Unmatched js target line then { line with productId := some productId } else line

/-- Link a till SKU to a catalogue product. Nothing when the transaction throws. A tenant that
is not found is taken to be in the default zone. -/
def matchPosSku (defaultZone : Zone) (db : PosDb) (sku : String) (productId : ProductId) :
    Option (MatchPosSkuResult × PosDb) :=
  let target := normalizeSku js (some sku)
  if target = "" then some (.bad_sku, db)
  else
    match db.products.find productId with
    | none => some (.no_product, db)
    | some product => do
        let ids := db.sales.lines.countP fun l => Unmatched js target l
        if ids = 0 then return (.no_lines, db)
        let linked := { db with sales := db.sales.mapLines (matchLine js target productId) }
        let salesHistory ← rederiveProductPosHistory js linked productId product.priceKes
          (db.tenant.getD defaultZone)
        return (.ok ids, { linked with salesHistory })

end Code

/-! ## What a match leaves -/

section Matched

variable {js : Js} {defaultZone timezone : Zone} {db matched : PosDb} {sku target : String}
  {productId : ProductId} {n : ℕ} {day : Time}

/-- A match that goes through: its lines are linked, and the history is derived from them. -/
theorem matchPosSku_eq_ok
    (h : matchPosSku js defaultZone db sku productId = some (.ok n, matched)) :
    ∃ product salesHistory, db.products.find productId = some product ∧
      rederiveProductPosHistory js
        { db with sales := db.sales.mapLines (matchLine js (normalizeSku js (some sku)) productId) }
        productId product.priceKes (db.tenant.getD defaultZone) = some salesHistory ∧
      matched =
        { db with
          sales := db.sales.mapLines (matchLine js (normalizeSku js (some sku)) productId)
          salesHistory } := by
  unfold matchPosSku at h
  dsimp only at h
  split at h
  · cases h
  · cases hproduct : db.products.find productId with
    | none =>
        rw [hproduct] at h
        cases h
    | some product =>
        rw [hproduct] at h
        dsimp only at h
        split at h
        · cases h
        · simp only [Option.bind_eq_bind, Option.bind_eq_some_iff] at h
          obtain ⟨salesHistory, hderived, h⟩ := h
          cases h
          exact ⟨product, salesHistory, rfl, hderived, rfl⟩

/-- The derivation goes through: the rows it clears are the only ones it could clash with. -/
theorem rederiveProductPosHistory_eq_some (js : Js) (db : PosDb) (productId : ProductId)
    (price : ℚ) (timezone : Zone) :
    ∃ salesHistory,
      rederiveProductPosHistory js db productId price timezone = some salesHistory := by
  unfold rederiveProductPosHistory
  refine (Sales.SalesTable.createMany_eq_some (pairwise_rows_rollupRows _) ?_).imp
    fun _ h => h.1
  intro r hr r' hr' hclash
  obtain ⟨planned, hplanned, rfl⟩ := List.mem_map.mp hr'
  obtain ⟨entry, hentry, hkey⟩ := List.mem_map.mp (key_mem_of_mem_rollupRows hplanned)
  rw [List.map_map, List.mem_map] at hentry
  obtain ⟨rung, _, rfl⟩ := hentry
  have hproduct : productId = planned.productId := congrArg Prod.fst hkey
  have hkept := (List.mem_filter.mp hr).2
  simp [hclash.1, hclash.2.2.1, PlannedSalesHistoryRow.row, hproduct] at hkept

/-- A match goes through when its code is not empty, its product is in the catalogue and some
unmatched line is of the code. -/
theorem matchPosSku_eq_some {product : MatchProduct} (hsku : normalizeSku js (some sku) ≠ "")
    (hproduct : db.products.find productId = some product)
    (hlines : db.sales.lines.countP (fun l => Unmatched js (normalizeSku js (some sku)) l) ≠ 0) :
    ∃ n matched, matchPosSku js defaultZone db sku productId = some (.ok n, matched) := by
  obtain ⟨salesHistory, hderived⟩ := rederiveProductPosHistory_eq_some js
    { db with sales := db.sales.mapLines (matchLine js (normalizeSku js (some sku)) productId) }
    productId product.priceKes (db.tenant.getD defaultZone)
  unfold matchPosSku
  dsimp only
  rw [if_neg hsku, hproduct]
  dsimp only
  rw [if_neg hlines, hderived]
  exact ⟨_, _, rfl⟩

/-- Once the code is matched, the line is the product's. -/
def Attributed (js : Js) (target : String) (productId : ProductId) (line : PosSaleLine) : Prop :=
  line.productId = some productId ∨ Unmatched js target line

instance (line : PosSaleLine) : Decidable (Attributed js target productId line) :=
  inferInstanceAs (Decidable (_ ∨ _))

/-- A line after a match is the product's when it was or is linked. -/
theorem productId_matchLine {line : PosSaleLine} :
    (matchLine js target productId line).productId = some productId ↔
      Attributed js target productId line := by
  unfold matchLine Attributed
  by_cases h : Unmatched js target line
  · simp [h]
  · simp [h]

/-- A match changes no code. -/
@[simp] theorem sku_matchLine (line : PosSaleLine) :
    (matchLine js target productId line).sku = line.sku := by
  unfold matchLine
  split <;> rfl

/-- A line counts for the same after a match. -/
theorem counted_matchLine {maps maps' : RollupMaps}
    (hprice : maps'.priceByProductId productId = maps.priceByProductId productId)
    (hwarehouse : maps'.warehouseToLocationId = maps.warehouseToLocationId)
    (rung : PosSale × PosSaleLine) {lines : List PosSaleLine} :
    maps'.counted js productId
        ({ rung.1 with lines }, matchLine js target productId rung.2)
      = maps.counted js productId rung := by
  have hline : (matchLine js target productId rung.2).qty = rung.2.qty ∧
      (matchLine js target productId rung.2).price = rung.2.price ∧
      (matchLine js target productId rung.2).subtotal = rung.2.subtotal := by
    unfold matchLine
    split <;> exact ⟨rfl, rfl, rfl⟩
  simp only [RollupMaps.counted, hprice, hwarehouse, hline]

/-- A match teaches nothing about other codes. -/
theorem matchedProducts_matchLine {key : String} (hkey : key ≠ target) (lines : List PosSaleLine) :
    matchedProducts js (lines.map (matchLine js target productId)) key
      = matchedProducts js lines key := by
  simp only [matchedProducts, List.filterMap_filter, List.filterMap_map]
  refine List.filterMap_congr fun line _ => ?_
  simp only [Function.comp_apply, sku_matchLine, decide_eq_true_eq]
  by_cases hline : normalizeSku js (some line.sku) = key
  · have hother : ¬ Unmatched js target line := fun h => hkey (hline.symm.trans h.2)
    rw [if_pos hline, if_pos hline, matchLine, if_neg hother]
  · rw [if_neg hline, if_neg hline]

/-- What a till code comes to. -/
theorem lookup_rollupMaps (db : PosDb) (key : String) :
    (db.rollupMaps js).skuToProductId.lookup key
      = ((resolvePosSkuMap js db.products.rows).lookup key).or
          (if key = "" then none else Series.single (matchedProducts js db.sales.lines key)) :=
  lookup_mergeLearnedAliases _ _ key

/-- The lines a rebuild takes for the product's after a match: the attributed ones, and the
unmatched ones of other codes that come to it. -/
theorem productOf_matchLine {salesHistory : SalesTable} {line : PosSaleLine} :
    RollupMaps.productOf js
        (PosDb.rollupMaps js
          { db with sales := db.sales.mapLines (matchLine js target productId), salesHistory })
        (matchLine js target productId line) = some productId ↔
      Attributed js target productId line ∨
        line.productId = none ∧
          (db.rollupMaps js).skuToProductId.lookup (normalizeSku js (some line.sku))
            = some productId := by
  rw [RollupMaps.productOf, sku_matchLine]
  by_cases hunmatched : Unmatched js target line
  · have hlinked : (matchLine js target productId line).productId = some productId :=
      productId_matchLine.mpr (Or.inr hunmatched)
    rw [hlinked]
    exact iff_of_true rfl (Or.inl (Or.inr hunmatched))
  · have hsame : matchLine js target productId line = line := if_neg hunmatched
    rw [hsame]
    cases hproduct : line.productId with
    | some id =>
        simp [Attributed, hunmatched, hproduct]
    | none =>
        have hkey : normalizeSku js (some line.sku) ≠ target := fun h => hunmatched ⟨hproduct, h⟩
        rw [Option.none_or, lookup_rollupMaps, lookup_rollupMaps, SaleLedger.lines_mapLines,
          matchedProducts_matchLine hkey]
        simp [Attributed, hunmatched, hproduct]

end Matched

/-! ## The two derivations -/

section Agree

variable {js : Js} {defaultZone timezone : Zone} {db matched repaired : PosDb} {sku target : String}
  {productId : ProductId} {n m : ℕ} {day : Time} {days : List Time}

variable (js db) in
/-- What the lines chosen come to for the product. -/
def countedLines (productId : ProductId) (p : PosSale × PosSaleLine → Bool) : List Counted :=
  (db.sales.rungLines.filter p).map ((db.rollupMaps js).counted js productId)

variable (js timezone target productId day) in
/-- A match of the code counts the line for the product on the day: its receipt is of the day
and the line is the product's then, whatever its code or its receipt's channel. -/
def MatchCounts (rung : PosSale × PosSaleLine) : Prop :=
  tenantDayKey timezone rung.1.date = day ∧ Attributed js target productId rung.2

instance (rung : PosSale × PosSaleLine) :
    Decidable (MatchCounts js timezone target productId day rung) :=
  inferInstanceAs (Decidable (_ ∧ _))

variable (js timezone db target productId day) in
/-- A rebuild after a match of the code counts the line for the product on the day: its receipt
is physical and of the day, its code is not ignored, and the line is the product's then or is
unmatched and its code comes to the product. -/
def RebuildCounts (rung : PosSale × PosSaleLine) : Prop :=
  rung.1.channel = "physical" ∧ tenantDayKey timezone rung.1.date = day ∧
    normalizeSku js (some rung.2.sku) ∉ (db.rollupMaps js).ignoredSkus ∧
      (Attributed js target productId rung.2 ∨
        rung.2.productId = none ∧
          (db.rollupMaps js).skuToProductId.lookup (normalizeSku js (some rung.2.sku))
            = some productId)

instance (rung : PosSale × PosSaleLine) :
    Decidable (RebuildCounts js timezone db target productId day rung) :=
  inferInstanceAs (Decidable (_ ∧ _))

variable (js timezone db target productId day) in
/-- The lines that only a match counts, those of an ignored code or of a receipt that is not
physical, come to the same as the lines that only a rebuild counts, the unmatched ones whose
code comes to the product. -/
def MatchPosSkuAgrees : Prop :=
  Evens
    (countedLines js db productId fun rung =>
      MatchCounts js timezone target productId day rung ∧
        RebuildCounts js timezone db target productId day rung)
    (countedLines js db productId fun rung =>
      MatchCounts js timezone target productId day rung ∧
        ¬ RebuildCounts js timezone db target productId day rung)
    (countedLines js db productId fun rung =>
      RebuildCounts js timezone db target productId day rung ∧
        ¬ MatchCounts js timezone target productId day rung)

/-- Lines chosen are those that another choice has too, and those that it has not. -/
theorem countedLines_perm (p q : PosSale × PosSaleLine → Prop) [DecidablePred p]
    [DecidablePred q] :
    (countedLines js db productId fun rung => p rung).Perm
      ((countedLines js db productId fun rung => p rung ∧ q rung)
        ++ countedLines js db productId fun rung => p rung ∧ ¬ q rung) := by
  have hsplit := List.filter_append_perm (fun rung => decide (q rung))
    (db.sales.rungLines.filter fun rung => p rung)
  rw [List.filter_filter, List.filter_filter] at hsplit
  rw [countedLines, countedLines, countedLines, ← List.map_append]
  refine List.Perm.map _ (hsplit.symm.trans (List.Perm.of_eq ?_))
  congr 1
  · refine List.filter_congr fun rung _ => ?_
    simp [Bool.and_comm]
  · refine List.filter_congr fun rung _ => ?_
    simp [Bool.and_comm]

/-- Two choices of lines give a product one row exactly when the lines that only one of them
has come to the same. -/
theorem dayRow_countedLines_eq_iff (p q : PosSale × PosSaleLine → Prop) [DecidablePred p]
    [DecidablePred q] :
    dayRow productId day (countedLines js db productId fun rung => p rung)
        = dayRow productId day (countedLines js db productId fun rung => q rung) ↔
      Evens (countedLines js db productId fun rung => p rung ∧ q rung)
        (countedLines js db productId fun rung => p rung ∧ ¬ q rung)
        (countedLines js db productId fun rung => q rung ∧ ¬ p rung) := by
  have hswap : (countedLines js db productId fun rung => q rung ∧ p rung)
      = countedLines js db productId fun rung => p rung ∧ q rung :=
    congrArg _ (funext fun rung => decide_eq_decide.mpr and_comm)
  rw [dayRow_perm (countedLines_perm p q), dayRow_perm (countedLines_perm q p), hswap,
    dayRow_append_eq_iff productId day]

/-- What a match leaves of a day of the product. -/
theorem posRows_matchPosSku
    (h : matchPosSku js defaultZone db sku productId = some (.ok n, matched)) (day : Time) :
    posRows matched.salesHistory productId day
      = ((dayRow productId day (countedLines js db productId fun rung =>
          MatchCounts js (db.tenant.getD defaultZone) (normalizeSku js (some sku)) productId day
            rung)).map PlannedSalesHistoryRow.row).toList := by
  obtain ⟨product, salesHistory, hproduct, hderived, rfl⟩ := matchPosSku_eq_ok h
  dsimp only
  rw [posRows, Sales.SalesTable.rows_of_createMany hderived, List.filter_append]
  -- the product had no other row of the channel left
  have hold : ((db.salesHistory.deleteMany fun r =>
        r.productId = productId ∧ r.channel = .pos).rows).filter
      (fun r => r.channel = .pos ∧ r.productId = productId ∧ r.date = day) = [] := by
    rw [List.filter_eq_nil_iff]
    intro r hr hsame
    have hkept := (List.mem_filter.mp hr).2
    simp only [decide_eq_true_eq] at hsame
    simp [hsame.1, hsame.2.1] at hkept
  rw [hold, List.nil_append, aggregateStoredPosLines, filter_rows_rollupRows]
  congr 3
  have hprice : (db.rederiveMaps js productId product.priceKes).priceByProductId productId
      = (db.rollupMaps js).priceByProductId productId :=
    (if_pos rfl).trans (congrArg (Option.map MatchProduct.priceKes) hproduct).symm
  rw [Series.valuesAt, List.map_map, List.filter_map, List.map_map, List.filter_filter,
    SaleLedger.rungLines_mapLines, List.filter_map, List.map_map, countedLines]
  congr 1
  · funext rung
    change (db.rederiveMaps js productId product.priceKes).counted js productId
      (_, matchLine js (normalizeSku js (some sku)) productId rung.2) = _
    exact counted_matchLine hprice rfl rung
  · refine List.filter_congr fun rung _ => Bool.eq_iff_iff.mpr ?_
    simp only [storedEntry, Function.comp_apply, Bool.and_eq_true, decide_eq_true_eq,
      productId_matchLine, Prod.mk.injEq, true_and]
    exact Iff.rfl

/-- What a rebuild counts for the product on a day, after a match. -/
theorem dayCounted_matchPosSku
    (h : matchPosSku js defaultZone db sku productId = some (.ok n, matched)) (day : Time) :
    dayCounted js (matched.rollupMaps js) timezone matched.sales productId day
      = countedLines js db productId fun rung =>
          RebuildCounts js timezone db (normalizeSku js (some sku)) productId day rung := by
  obtain ⟨product, salesHistory, hproduct, _, rfl⟩ := matchPosSku_eq_ok h
  have hprice : (db.products.find productId).isSome := by
    rw [hproduct]
    rfl
  rw [dayCounted, SaleLedger.rungLines_mapLines, List.filter_map, List.map_map, countedLines]
  congr 1
  · funext rung
    exact counted_matchLine rfl rfl rung
  · refine List.filter_congr fun rung _ => decide_eq_decide.mpr ?_
    have hsome : ((db.rollupMaps js).priceByProductId productId).isSome := by
      simpa [PosDb.rollupMaps] using hprice
    simp only [RollupMaps.Counts, RebuildCounts, sku_matchLine, productOf_matchLine]
    simp [PosDb.rollupMaps, hproduct]

/-- After a till code is matched to a product, the product's `pos` history is, on every day of a
rebuild, what the rebuild derives, exactly when the lines that only one of them counts come to
the same. -/
theorem matchPosSku_agrees_iff (htenant : db.tenant = some timezone)
    (hmatch : matchPosSku js defaultZone db sku productId = some (.ok n, matched))
    (hrepair : repairDays js matched timezone days = some (repaired, m)) :
    (∀ day ∈ days, posRows matched.salesHistory productId day
        = posRows repaired.salesHistory productId day) ↔
      ∀ day ∈ days,
        MatchPosSkuAgrees js timezone db (normalizeSku js (some sku)) productId day := by
  refine forall₂_congr fun day hday => ?_
  obtain ⟨⟨salesHistory, rows⟩, hrebuild, hresult⟩ := Option.bind_eq_some_iff.mp hrepair
  cases hresult
  have hzone : db.tenant.getD defaultZone = timezone := by rw [htenant]; rfl
  have hinj : Function.Injective PlannedSalesHistoryRow.row := by
    rintro ⟨⟩ ⟨⟩ hrow
    cases hrow
    rfl
  rw [posRows_matchPosSku hmatch, posRows_rebuildDays hrebuild productId hday,
    dayCounted_matchPosSku hmatch, hzone, MatchPosSkuAgrees, ← dayRow_countedLines_eq_iff]
  constructor
  · intro hrows
    have hhead := congrArg List.head? hrows
    rw [Option.head?_toList, Option.head?_toList] at hhead
    exact Option.map_injective hinj hhead
  · intro hrow
    rw [hrow]

end Agree

/-! ## A product created after its sales -/

/-- A receipt of a product under its SKU and under another code, ingested before the product
was in the catalogue. -/
def lateShop : PosDb where
  tenant := some nairobi
  products := ⟨[{ id := 1, sku := "kb-01", priceKes := 100 }], by decide⟩
  ignoreRules := []
  warehouseMaps := []
  sales := ⟨[{ externalId := "r1", date := 0, lines := [
    { sku := "kb-01", qty := 2, price := 100 }, { sku := "keyboard", qty := 1, price := 100 }] }],
    by decide⟩
  salesHistory := .empty

theorem lateShop_match : ∃ n matched,
    matchPosSku .plain nairobi lateShop "keyboard" 1 = some (.ok n, matched) :=
  matchPosSku_eq_some (by decide) rfl (by decide +kernel)

theorem matchPosSku_agrees_iff_lateShop : ∃ matched repaired m,
    repairDays .plain matched nairobi [0] = some (repaired, m) ∧
    ((∀ day ∈ ([0] : List Time), posRows matched.salesHistory 1 day
        = posRows repaired.salesHistory 1 day) ↔
      ∀ day ∈ ([0] : List Time), MatchPosSkuAgrees .plain nairobi lateShop "keyboard" 1 day) := by
  obtain ⟨n, matched, hmatch⟩ := lateShop_match
  obtain ⟨repaired, m, hrepair⟩ := repairDays_eq_some .plain matched nairobi [0]
  exact ⟨matched, repaired, m, hrepair, matchPosSku_agrees_iff rfl hmatch hrepair⟩

/-- The match of the other code takes the product's sales under its SKU out of its history,
and the next repair puts them back. -/
theorem matchPosSku_lateShop : ∃ n matched repaired m,
    matchPosSku .plain nairobi lateShop "keyboard" 1 = some (.ok n, matched) ∧
    healPosRollup .plain matched 1 0 = some (repaired, m) ∧
    (posRows matched.salesHistory 1 0).map SalesHistory.quantity = [1] ∧
    (posRows repaired.salesHistory 1 0).map SalesHistory.quantity = [3] := by
  obtain ⟨n, matched, hmatch⟩ := lateShop_match
  have htenant : matched.tenant = some nairobi := by
    obtain ⟨_, _, _, _, rfl⟩ := matchPosSku_eq_ok hmatch
    rfl
  obtain ⟨repaired, m, hrepair⟩ := repairDays_eq_some .plain matched nairobi [0]
  have hday : trailingDayKeys nairobi 1 0 = [0] := by decide +kernel
  refine ⟨n, matched, repaired, m, hmatch, ?_, ?_, ?_⟩
  · rw [healPosRollup_eq_repairDays htenant (by decide), hday]
    exact hrepair
  · rw [posRows_matchPosSku hmatch]
    decide +kernel
  · obtain ⟨⟨salesHistory, rows⟩, hrebuild, hresult⟩ := Option.bind_eq_some_iff.mp hrepair
    cases hresult
    rw [posRows_rebuildDays hrebuild 1 (List.mem_singleton_self 0), dayCounted_matchPosSku hmatch]
    decide +kernel

end Restock.Pos
