import Restock.Pos.Idempotence

/-!
# Two windows in either order

Windows that share no receipt, and whose codes are all SKUs, are stored the same in either order.
The sales history of a day is what the receipts on it come to under the codes as the last ingest
that rebuilt the day had read them, before it took its own old receipts away. So the orders can
only part on unmatched lines of codes that one of those readings had learned for a product and
the other had not.

* `landed` — the part of a window that is ingested;
* `SoldBySku` — windows whose codes are all SKUs;
* `sales_ingestBoth` — what is stored after two windows;
* `posRows_ingestBoth` — the history of the days two windows touch;
* `ingestBoth_comm` — when the order makes no difference.
-/

namespace Restock.Pos

open Sales (Zone SalesTable SalesHistory tenantDayKey nairobi)

/-! ## One window -/

section Landed

variable {js : Js} {timezone : Zone} {db : PosDb}

variable (js) in
/-- What is ingested of a window: nothing when a date in it is not valid. -/
def landed (window : List PosSaleInput) : List PosSaleInput :=
  if Dated js window then window else []

/-- What is ingested of a window is of the window. -/
theorem mem_of_mem_landed {window : List PosSaleInput} {sale : PosSaleInput}
    (h : sale ∈ landed js window) : sale ∈ window := by
  unfold landed at h
  split at h
  · exact h
  · exact absurd h List.not_mem_nil

/-- Ingesting nothing leaves everything. -/
theorem ingested_nil : Ingested js timezone db [] db := by
  refine ⟨rfl, rfl, rfl, rfl, ?_, 0, ?_⟩
  · rw [keptSales, List.map_nil]
    simp [plannedSales, physicalSales, dedupeSales]
  · have hdays : touchedDays js timezone db [] = [] := by
      simp [touchedDays, plannedSales, physicalSales, dedupeSales]
    rw [hdays, rebuildDays, if_pos rfl]

variable (js) in
/-- An ingest leaves what the part of its window that is ingested leads to. -/
theorem ingested_landed (htenant : db.tenant = some timezone) (window : List PosSaleInput) :
    Ingested js timezone db (landed js window) (ingestPosSales js db window).2 := by
  unfold ingestPosSales landed
  rw [htenant]
  dsimp only
  by_cases hempty : window = []
  · rw [if_pos hempty, hempty, ite_self]
    exact ingested_nil
  · rw [if_neg hempty]
    by_cases hdated : Dated js window
    · obtain ⟨result, next, hnext, hingested⟩ := ingestWindow_eq_some timezone db hdated
      rw [if_pos hdated, hnext]
      exact hingested
    · -- an invalid date throws, and the transaction is rolled back
      rw [if_neg hdated, ingestWindow_eq_none hdated]
      exact ingested_nil

end Landed

/-! ## Codes that are SKUs -/

section SoldBySku

variable {js : Js} {timezone : Zone} {db next : PosDb} {window : List PosSaleInput}

variable (js) in
/-- Every code of the window is the SKU of one product. -/
def SoldBySku (products : List MatchProduct) (window : List PosSaleInput) : Prop :=
  ∀ sale ∈ window, ∀ line ∈ sale.lines,
    ((resolvePosSkuMap js products).lookup (normalizeSku js (some line.sku))).isSome

instance (products : List MatchProduct) : Decidable (SoldBySku js products window) :=
  inferInstanceAs (Decidable (∀ _ ∈ _, ∀ _ ∈ _, _))

/-- So is every code of what is ingested of it. -/
theorem SoldBySku.landed {products : List MatchProduct} (h : SoldBySku js products window) :
    SoldBySku js products (landed js window) :=
  fun sale hsale => h sale (mem_of_mem_landed hsale)

/-- What was matched before has no say in such a window. -/
theorem plannedSales_of_soldBySku (h : SoldBySku js db.products.rows window)
    (hproducts : next.products = db.products) :
    plannedSales js (next.rollupMaps js) window = plannedSales js (db.rollupMaps js) window := by
  refine plannedSales_congr fun sale hsale line hline => ?_
  obtain ⟨productId, hsku⟩ := Option.isSome_iff_exists.mp
    (h sale (mem_of_mem_dedupeSales (List.mem_filter.mp hsale).1) line hline)
  rw [lookup_rollupMaps, lookup_rollupMaps, hproducts, hsku, Option.some_or, Option.some_or]

end SoldBySku

/-! ## The receipts of a day -/

section Receipts

variable {js : Js} {maps : RollupMaps} {timezone : Zone} {sales sales' : SaleLedger}
  {productId : ProductId} {day : Time}

/-- The order of the receipts does not matter to what counts on a day. -/
theorem dayCounted_perm (h : sales.rows.Perm sales'.rows) :
    (dayCounted js maps timezone sales productId day).Perm
      (dayCounted js maps timezone sales' productId day) :=
  ((h.flatMap_right _).filter _).map _

/-- Only the receipts of a day count on it. -/
theorem dayCounted_congr
    (h : sales.rows.filter (fun s => tenantDayKey timezone s.date = day)
      = sales'.rows.filter fun s => tenantDayKey timezone s.date = day) :
    dayCounted js maps timezone sales productId day
      = dayCounted js maps timezone sales' productId day := by
  have hday : ∀ t : SaleLedger,
      t.rungLines.filter (fun rung => maps.Counts js timezone productId day rung)
        = ((t.rows.filter fun s => tenantDayKey timezone s.date = day).flatMap fun s =>
            s.lines.map fun l => (s, l)).filter
          fun rung => maps.Counts js timezone productId day rung := by
    intro t
    rw [SaleLedger.rungLines]
    induction t.rows with
    | nil => rfl
    | cons s rows ih =>
        rw [List.flatMap_cons, List.filter_append, ih]
        by_cases hs : tenantDayKey timezone s.date = day
        · rw [List.filter_cons_of_pos (by simpa using hs), List.flatMap_cons, List.filter_append]
        · -- no line of the receipt counts
          rw [List.filter_cons_of_neg (by simpa using hs)]
          have hnone : (s.lines.map fun l => (s, l)).filter
              (fun rung => maps.Counts js timezone productId day rung) = [] := by
            refine List.filter_eq_nil_iff.mpr fun rung hrung hcounts => hs ?_
            obtain ⟨l, _, rfl⟩ := List.mem_map.mp hrung
            exact (of_decide_eq_true hcounts).2.1
          rw [hnone, List.nil_append]
  rw [dayCounted, dayCounted, hday sales, hday sales', h]

/-- An ingest changes nothing on the days it does not touch. -/
theorem dayCounted_of_notMem_touchedDays {db next : PosDb} {window : List PosSaleInput}
    (h : Ingested js timezone db window next) (hday : day ∉ touchedDays js timezone db window) :
    dayCounted js maps timezone next.sales productId day
      = dayCounted js maps timezone db.sales productId day := by
  rw [touchedDays, List.mem_eraseDups, List.mem_map] at hday
  apply dayCounted_congr
  have hplanned : (plannedSales js (db.rollupMaps js) window).filter
      (fun s => tenantDayKey timezone s.date = day) = [] :=
    List.filter_eq_nil_iff.mpr fun s hs hsame =>
      hday ⟨s, List.mem_append_right _ hs, of_decide_eq_true hsame⟩
  rw [h.sales, List.filter_append, hplanned, List.append_nil, keptSales, List.filter_filter]
  refine List.filter_congr fun s hs => ?_
  rw [Bool.and_eq_left_iff_imp]
  intro hsame
  refine decide_eq_true fun hid => hday ⟨s, ?_, of_decide_eq_true hsame⟩
  exact List.mem_append_left _ (List.mem_filter.mpr ⟨hs, decide_eq_true hid⟩)

end Receipts

/-! ## Two windows -/

section Both

variable {js : Js} {timezone : Zone} {db one two : PosDb} {first second : List PosSaleInput}
  {productId : ProductId} {day : Time}

variable (js) in
/-- One window is ingested, then another. -/
def ingestBoth (db : PosDb) (first second : List PosSaleInput) : PosDb :=
  (ingestPosSales js (ingestPosSales js db first).2 second).2

/-- The windows share no receipt. -/
def Apart (first second : List PosSaleInput) : Prop :=
  ∀ sale ∈ first, ∀ sale' ∈ second, sale.externalId ≠ sale'.externalId

instance : Decidable (Apart first second) :=
  inferInstanceAs (Decidable (∀ _ ∈ _, ∀ _ ∈ _, _))

/-- Neither do they the other way round. -/
theorem Apart.symm (h : Apart first second) : Apart second first :=
  fun sale hsale sale' hsale' hid => h sale' hsale' sale hsale hid.symm

/-- Nor do the parts of them that are ingested. -/
theorem Apart.landed (h : Apart first second) : Apart (landed js first) (landed js second) :=
  fun sale hsale sale' hsale' => h sale (mem_of_mem_landed hsale) sale' (mem_of_mem_landed hsale')

/-- An id of one window is none of the other. -/
theorem Apart.notMem (h : Apart first second) {externalId : String}
    (hid : externalId ∈ second.map PosSaleInput.externalId) :
    externalId ∉ first.map PosSaleInput.externalId := by
  intro hfirst
  obtain ⟨sale, hsale, rfl⟩ := List.mem_map.mp hfirst
  obtain ⟨sale', hsale', hsame⟩ := List.mem_map.mp hid
  exact h sale hsale sale' hsale' hsame.symm

/-- The second window replaces none of the receipts the first one stored. -/
theorem keptSales_of_apart (h : Ingested js timezone db first one) (hapart : Apart first second) :
    keptSales one second
      = keptSales db (first ++ second) ++ plannedSales js (db.rollupMaps js) first := by
  have hown : (plannedSales js (db.rollupMaps js) first).filter
      (fun s => s.externalId ∉ second.map PosSaleInput.externalId)
        = plannedSales js (db.rollupMaps js) first := by
    refine List.filter_eq_self.mpr fun s hs => decide_eq_true ?_
    exact hapart.symm.notMem (externalId_mem_of_mem_plannedSales hs)
  rw [keptSales, h.sales, List.filter_append, hown, keptSales, List.filter_filter, keptSales]
  congr 1
  refine List.filter_congr fun s _ => ?_
  rw [← Bool.decide_and, decide_eq_decide, List.map_append, List.mem_append, not_or, and_comm]

/-- The second window touches the days it would have touched without the first one. -/
theorem touchedDays_of_apart (h : Ingested js timezone db first one)
    (hsku : SoldBySku js db.products.rows second) (hapart : Apart first second) :
    touchedDays js timezone one second = touchedDays js timezone db second := by
  have hprevious : one.sales.rows.filter
        (fun s => s.externalId ∈ second.map PosSaleInput.externalId)
      = db.sales.rows.filter fun s => s.externalId ∈ second.map PosSaleInput.externalId := by
    have hown : (plannedSales js (db.rollupMaps js) first).filter
        (fun s => s.externalId ∈ second.map PosSaleInput.externalId) = [] :=
      List.filter_eq_nil_iff.mpr fun s hs hid =>
        hapart.notMem (of_decide_eq_true hid) (externalId_mem_of_mem_plannedSales hs)
    rw [h.sales, List.filter_append, hown, List.append_nil, keptSales, List.filter_filter]
    refine List.filter_congr fun s _ => ?_
    rw [Bool.and_eq_left_iff_imp]
    exact fun hid => decide_eq_true (hapart.notMem (of_decide_eq_true hid))
  rw [touchedDays, touchedDays, hprevious, plannedSales_of_soldBySku hsku h.products]

/-- What is stored after two windows: the receipts neither of them replaces, those of the first
one, and those of the second one. -/
theorem sales_of_ingested (h : Ingested js timezone db first one)
    (h' : Ingested js timezone one second two) (hsku : SoldBySku js db.products.rows second)
    (hapart : Apart first second) :
    two.sales.rows = keptSales db (first ++ second) ++ plannedSales js (db.rollupMaps js) first
      ++ plannedSales js (db.rollupMaps js) second := by
  rw [h'.sales, keptSales_of_apart h hapart, plannedSales_of_soldBySku hsku h.products]

/-- The codes as the ingest that rebuilt the day last had read them. -/
def readOn (js : Js) (timezone : Zone) (db : PosDb) (first second : List PosSaleInput)
    (day : Time) : RollupMaps :=
  if day ∈ touchedDays js timezone db (landed js second) then
    (ingestPosSales js db first).2.rollupMaps js
  else db.rollupMaps js

/-- The days either window touches. -/
def bothDays (js : Js) (timezone : Zone) (db : PosDb) (first second : List PosSaleInput) :
    List Time :=
  touchedDays js timezone db (landed js first) ++ touchedDays js timezone db (landed js second)

/-- After two windows, a day that either of them touched has the row of all its stored receipts,
with the codes as the last ingest that rebuilt it had read them. -/
theorem posRows_ingestBoth (htenant : db.tenant = some timezone)
    (hsku : SoldBySku js db.products.rows second) (hapart : Apart first second)
    (hday : day ∈ bothDays js timezone db first second) :
    posRows (ingestBoth js db first second).salesHistory productId day
      = ((dayRow productId day (dayCounted js (readOn js timezone db first second day) timezone
          (ingestBoth js db first second).sales productId day)).map
            PlannedSalesHistoryRow.row).toList := by
  have hone := ingested_landed js htenant first
  have htwo := ingested_landed js (hone.tenant.trans htenant) second
  have hdays := touchedDays_of_apart hone hsku.landed hapart.landed
  obtain ⟨n, hfirst⟩ := hone.salesHistory
  obtain ⟨m, hsecond⟩ := htwo.salesHistory
  rw [ingestBoth, readOn]
  by_cases hlast : day ∈ touchedDays js timezone db (landed js second)
  · rw [if_pos hlast, posRows_rebuildDays hsecond productId (hdays ▸ hlast)]
  · -- the second window leaves the day's row, and the day's receipts
    have hbefore : day ∈ touchedDays js timezone db (landed js first) :=
      (List.mem_append.mp hday).resolve_right hlast
    have hleft : day ∉ touchedDays js timezone (ingestPosSales js db first).2
        (landed js second) := hdays ▸ hlast
    rw [if_neg hlast, posRows_rebuildDays_of_notMem hsecond productId hleft,
      posRows_rebuildDays hfirst productId hbefore, dayCounted_of_notMem_touchedDays htwo hleft]

/-- The other days keep their rows. -/
theorem posRows_ingestBoth_of_notMem (htenant : db.tenant = some timezone)
    (hsku : SoldBySku js db.products.rows second) (hapart : Apart first second)
    (hday : day ∉ bothDays js timezone db first second) :
    posRows (ingestBoth js db first second).salesHistory productId day
      = posRows db.salesHistory productId day := by
  have hone := ingested_landed js htenant first
  have htwo := ingested_landed js (hone.tenant.trans htenant) second
  obtain ⟨n, hfirst⟩ := hone.salesHistory
  obtain ⟨m, hsecond⟩ := htwo.salesHistory
  rw [bothDays, List.mem_append, not_or] at hday
  rw [ingestBoth, posRows_rebuildDays_of_notMem hsecond productId,
    posRows_rebuildDays_of_notMem hfirst productId hday.1]
  rw [touchedDays_of_apart hone hsku.landed hapart.landed]
  exact hday.2

/-- In either order the same receipts and lines are stored. -/
theorem sales_ingestBoth (htenant : db.tenant = some timezone)
    (hfirst : SoldBySku js db.products.rows first) (hsecond : SoldBySku js db.products.rows second)
    (hapart : Apart first second) :
    (ingestBoth js db first second).sales.rows.Perm (ingestBoth js db second first).sales.rows := by
  have hone := ingested_landed js htenant first
  have htwo := ingested_landed js (hone.tenant.trans htenant) second
  have hone' := ingested_landed js htenant second
  have htwo' := ingested_landed js (hone'.tenant.trans htenant) first
  have hkept : keptSales db (landed js first ++ landed js second)
      = keptSales db (landed js second ++ landed js first) := by
    refine List.filter_congr fun s _ => decide_eq_decide.mpr (not_congr ?_)
    rw [List.map_append, List.map_append, List.mem_append, List.mem_append, or_comm]
  rw [ingestBoth, ingestBoth, sales_of_ingested hone htwo hsecond.landed hapart.landed,
    sales_of_ingested hone' htwo' hfirst.landed hapart.symm.landed, hkept, List.append_assoc,
    List.append_assoc]
  exact List.Perm.append_left _ List.perm_append_comm

/-! ## When the order matters -/

/-- Codes read at some time in the catalogue of the tables. -/
structure ReadIn (js : Js) (db : PosDb) (maps : RollupMaps) : Prop where
  ignoredSkus : maps.ignoredSkus = (db.rollupMaps js).ignoredSkus
  priceByProductId : maps.priceByProductId = (db.rollupMaps js).priceByProductId
  warehouseToLocationId : maps.warehouseToLocationId = (db.rollupMaps js).warehouseToLocationId

variable (js first second day) in
/-- What two windows' ingests had read, they had read in one catalogue. -/
theorem readIn_readOn (htenant : db.tenant = some timezone) :
    ReadIn js db (readOn js timezone db first second day) := by
  have hone := ingested_landed js htenant first
  unfold readOn
  split
  · constructor
    · simp only [PosDb.rollupMaps, hone.ignoreRules]
    · simp only [PosDb.rollupMaps, hone.products]
    · simp only [PosDb.rollupMaps, hone.warehouseMaps]
  · exact ⟨rfl, rfl, rfl⟩

/-- A line counts for the product only in one of two readings: it is unmatched, and its code
comes to the product in that reading and not in the other one. -/
def OnlyRead (js : Js) (timezone : Zone) (maps other : RollupMaps) (productId : ProductId)
    (day : Time) (rung : PosSale × PosSaleLine) : Prop :=
  maps.Counts js timezone productId day rung ∧ rung.2.productId = none ∧
    maps.skuToProductId.lookup (normalizeSku js (some rung.2.sku)) = some productId ∧
      other.skuToProductId.lookup (normalizeSku js (some rung.2.sku)) ≠ some productId

instance {maps other : RollupMaps} {rung : PosSale × PosSaleLine} :
    Decidable (OnlyRead js timezone maps other productId day rung) :=
  inferInstanceAs (Decidable (_ ∧ _ ∧ _ ∧ _))

/-- A line that one reading counts and the other one does not is an unmatched one whose code
comes to the product in the first one only. -/
theorem onlyRead_iff {maps other : RollupMaps} (h : ReadIn js db maps) (h' : ReadIn js db other)
    {rung : PosSale × PosSaleLine} :
    OnlyRead js timezone maps other productId day rung ↔
      maps.Counts js timezone productId day rung ∧
        ¬ other.Counts js timezone productId day rung := by
  refine and_congr_right fun hcounts => ?_
  have hother : other.Counts js timezone productId day rung ↔
      other.productOf js rung.2 = some productId := by
    obtain ⟨hphysical, hday, hkey, _, hprice⟩ := hcounts
    rw [h.ignoredSkus, ← h'.ignoredSkus] at hkey
    rw [h.priceByProductId, ← h'.priceByProductId] at hprice
    exact ⟨fun hc => hc.2.2.2.1, fun hc => ⟨hphysical, hday, hkey, hc, hprice⟩⟩
  have hproduct := hcounts.2.2.2.1
  rw [hother]
  rw [RollupMaps.productOf] at hproduct ⊢
  cases hline : rung.2.productId with
  | some id =>
      -- a matched line counts for its own product in every reading
      rw [hline, Option.some_or] at hproduct
      simp [hproduct]
  | none =>
      rw [hline, Option.none_or] at hproduct
      rw [Option.none_or]
      simp [hproduct]

/-- What two windows store counts the same in a reading as in another one, but for codes. -/
theorem dayCounted_eq_countedLines {maps : RollupMaps} (h : ReadIn js db maps) :
    dayCounted js maps timezone db.sales productId day
      = countedLines js db productId fun rung => maps.Counts js timezone productId day rung := by
  have hcounted : maps.counted js productId = (db.rollupMaps js).counted js productId := by
    funext rung
    simp only [RollupMaps.counted, h.priceByProductId, h.warehouseToLocationId]
  rw [dayCounted, countedLines, hcounted]

/-- On the day, the unmatched lines that only one order's last reading counts for the product
come to the same as those that only the other one's counts. -/
def OrdersAgree (js : Js) (timezone : Zone) (db : PosDb) (first second : List PosSaleInput)
    (productId : ProductId) (day : Time) : Prop :=
  let maps := readOn js timezone db first second day
  let other := readOn js timezone db second first day
  let stored := ingestBoth js db first second
  Evens
    (countedLines js stored productId fun rung =>
      maps.Counts js timezone productId day rung ∧ other.Counts js timezone productId day rung)
    (countedLines js stored productId fun rung =>
      OnlyRead js timezone maps other productId day rung)
    (countedLines js stored productId fun rung =>
      OnlyRead js timezone other maps productId day rung)

/-- What was read before two windows are ingested was read in the catalogue they leave. -/
theorem ReadIn.ingestBoth {maps : RollupMaps} (h : ReadIn js db maps)
    (htenant : db.tenant = some timezone) (first second : List PosSaleInput) :
    ReadIn js (ingestBoth js db first second) maps := by
  have hone := ingested_landed js htenant first
  have htwo := ingested_landed js (hone.tenant.trans htenant) second
  constructor
  · rw [h.ignoredSkus]
    simp only [PosDb.rollupMaps, Pos.ingestBoth, htwo.ignoreRules, hone.ignoreRules]
  · rw [h.priceByProductId]
    simp only [PosDb.rollupMaps, Pos.ingestBoth, htwo.products, hone.products]
  · rw [h.warehouseToLocationId]
    simp only [PosDb.rollupMaps, Pos.ingestBoth, htwo.warehouseMaps, hone.warehouseMaps]

/-- Two orders leave a day of a product the same row exactly when the unmatched lines that only
one of them counts come to the same. -/
theorem posRows_ingestBoth_eq_iff (htenant : db.tenant = some timezone)
    (hfirst : SoldBySku js db.products.rows first) (hsecond : SoldBySku js db.products.rows second)
    (hapart : Apart first second) :
    posRows (ingestBoth js db first second).salesHistory productId day
        = posRows (ingestBoth js db second first).salesHistory productId day ↔
      OrdersAgree js timezone db first second productId day := by
  have hmaps := readIn_readOn js first second day htenant
  have hother := readIn_readOn js second first day htenant
  have hdays : day ∈ bothDays js timezone db second first ↔
      day ∈ bothDays js timezone db first second := by
    rw [bothDays, bothDays, List.mem_append, List.mem_append, or_comm]
  by_cases hday : day ∈ bothDays js timezone db first second
  · have hinj : Function.Injective PlannedSalesHistoryRow.row := by
      rintro ⟨⟩ ⟨⟩ hrow
      cases hrow
      rfl
    have honly : ∀ maps other : RollupMaps, ReadIn js db maps → ReadIn js db other →
        (countedLines js (ingestBoth js db first second) productId fun rung =>
            OnlyRead js timezone maps other productId day rung)
          = countedLines js (ingestBoth js db first second) productId fun rung =>
              maps.Counts js timezone productId day rung ∧
                ¬ other.Counts js timezone productId day rung :=
      fun maps other h h' =>
        congrArg _ (funext fun rung => decide_eq_decide.mpr (onlyRead_iff h h'))
    rw [posRows_ingestBoth htenant hsecond hapart hday,
      posRows_ingestBoth htenant hfirst hapart.symm (hdays.mpr hday),
      dayRow_perm (dayCounted_perm (sales_ingestBoth htenant hsecond hfirst hapart.symm)),
      dayCounted_eq_countedLines (hmaps.ingestBoth htenant first second),
      dayCounted_eq_countedLines (hother.ingestBoth htenant first second), OrdersAgree,
      honly _ _ hmaps hother, honly _ _ hother hmaps, ← dayRow_countedLines_eq_iff]
    constructor
    · intro hrows
      have hhead := congrArg List.head? hrows
      rw [Option.head?_toList, Option.head?_toList] at hhead
      exact Option.map_injective hinj hhead
    · intro hrow
      rw [hrow]
  · -- a day that no window touches is read by neither
    rw [posRows_ingestBoth_of_notMem htenant hsecond hapart hday,
      posRows_ingestBoth_of_notMem htenant hfirst hapart.symm (mt hdays.mp hday)]
    refine iff_of_true rfl ?_
    rw [bothDays, List.mem_append, not_or] at hday
    have hnone : (countedLines js (ingestBoth js db first second) productId fun rung =>
        OnlyRead js timezone (db.rollupMaps js) (db.rollupMaps js) productId day rung) = [] := by
      rw [countedLines, List.map_eq_nil_iff, List.filter_eq_nil_iff]
      intro rung _ honly
      obtain ⟨_, _, hread, hnot⟩ := of_decide_eq_true honly
      exact hnot hread
    rw [OrdersAgree, readOn, readOn, if_neg hday.1, if_neg hday.2, hnone]
    exact Evens.nil _

end Both

/-! ## A receipt that taught a code -/

/-- The code `kb` was matched to two products, and a third receipt of it is unmatched. -/
def unsettledShop : PosDb :=
  (ingestPosSales .plain ambiguousShop [kbReceipt "r3"]).2

/-- A receipt of one unit of a product under its SKU. -/
def skuReceipt (externalId sku : String) : PosSaleInput where
  externalId
  date := some 0
  lines := [{ sku, qty := 1, price := some 100 }]

end Restock.Pos
