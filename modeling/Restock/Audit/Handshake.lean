import Restock.Audit.Duplicates
import Restock.Audit.Export
import Restock.Audit.Loaders

/-!
# The handshake with the audit

The sales a tenant exports, as the audit's panel counts them: the file of `exportSalesCsv` is read
by `load_sales` and run through `run_chain`. The file has a line for each row of the history,
without its channel or an order, and the audit takes the second of two equal lines for a duplicate;
it takes some SKUs for missing values, and trims the others.

* `loadSales_exportSalesCsv` — what the loader makes of the file;
* `DemandPreserved` — every week of a series has the units of its rows;
* `Undisturbed` — no SKU is lost on the way, no two rows of a day are alike, and no week is cut off
  by the start of the year;
* `demandPreserved_iff` — the demand is preserved exactly then.
-/

namespace Restock.Audit

open Restock.Forecast (DAY_MS)
open Restock.Sales (SalesHistory SalesTable)
open Store (Table)

/-! ## Names on their way -/

/-- What the loader makes of a name in the file. -/
def nameRead (name : String) : Option String :=
  cleanText (readCell name)

/-- A name that was read is trimmed, and is no longer taken for a missing value. -/
theorem of_cleanText {cell : Option String} {s : String} (h : cleanText cell = some s) :
    pyStrip s = s ∧ s ∉ ["nan", "None"] ∧ s ≠ "" := by
  rw [cleanText, Option.filter_eq_some_iff, cleanStr, Option.filter_eq_some_iff,
    Option.map_eq_some_iff] at h
  obtain ⟨⟨⟨t, -, rfl⟩, hmissing⟩, hblank⟩ := h
  refine ⟨?_, of_decide_eq_true hmissing, of_decide_eq_true hblank⟩
  rw [pyStrip, pyStrip, String.toList_ofList, Csv.strip_strip]

/-- A trimmed name that is no missing value is read as it is. -/
theorem nameRead_eq_self {s : String} (hna : s ∉ naValues) (hstrip : pyStrip s = s) :
    nameRead s = some s := by
  have hmissing : s ∉ ["nan", "None"] := fun h => hna (by
    rcases List.mem_cons.mp h with rfl | h
    · decide
    · rw [List.mem_singleton.mp h]
      decide)
  have hblank : s ≠ "" := fun h => hna (h ▸ by decide)
  rw [nameRead, readCell, if_neg hna, cleanText, cleanStr, Option.map_some, hstrip,
    Option.filter_some, if_pos (decide_eq_true hmissing), Option.filter_some,
    if_pos (decide_eq_true hblank)]

/-- A generated id is read as it is. -/
theorem nameRead_of_isCuid {s : String} (h : isCuid s) : nameRead s = some s := by
  rw [isCuid, Bool.and_eq_true, decide_eq_true_iff, List.all_eq_true] at h
  obtain ⟨hhead, hchars⟩ := h
  refine nameRead_eq_self (fun hna => ?_) ?_
  · -- none of the missing values begins as an id does
    have hnone : ∀ v ∈ naValues, v.toList.head? ≠ some 'c' := by decide
    exact hnone s hna hhead
  · have hblank : ∀ c ∈ s.toList, pyBlank c = false := by
      intro c hc
      have hrange : (97 ≤ c.toNat ∧ c.toNat ≤ 122) ∨ (48 ≤ c.toNat ∧ c.toNat ≤ 57) := by
        have hkind : (decide (97 ≤ c.val) && decide (c.val ≤ 122)
            || (decide (48 ≤ c.val) && decide (c.val ≤ 57))) = true := hchars c hc
        simp only [Bool.or_eq_true, Bool.and_eq_true, decide_eq_true_eq,
          UInt32.le_iff_toNat_le] at hkind
        exact hkind
      rw [Bool.eq_false_iff]
      intro hspace
      simp only [pyBlank, Bool.or_eq_true, Bool.and_eq_true, decide_eq_true_eq, List.mem_cons,
        List.not_mem_nil, or_false] at hspace
      omega
    rw [pyStrip, Csv.strip_eq_self hblank, String.ofList_toList]

/-! ## The file as it is read -/

section Code

variable (texts : Texts) (products : Table SoldProduct)

/-- The branch of a row is read as it is called. -/
theorem locationOrAll_locationText (id : Option LocationId) :
    locationOrAll (readCell (locationText texts id)) = locationText texts id := by
  cases id with
  | none =>
      show locationOrAll (readCell "ALL") = "ALL"
      decide +kernel
  | some id =>
      have hread := nameRead_of_isCuid (texts.isCuid_locationId id)
      rw [nameRead] at hread
      rw [locationOrAll, locationText, Option.map_some, Option.getD_some, hread, Option.getD_some]

/-- The week of a row. -/
def weekOf (row : SalesHistory) : ℤ :=
  mondayOf (row.date / DAY_MS)

variable (pd : Pandas)

/-- The line that a row becomes, under some SKU. -/
def lineOf (row : SalesHistory) (sku : String) : TxLine where
  label := 0
  date := row.date / DAY_MS * nsPerDay
  sku := sku
  location := locationText texts row.locationId
  qty := row.quantity
  unitPrice := toNumeric pd (readCell (unitPriceText texts products row.productId))

/-- The line that a row is read as; nothing when its SKU is lost. -/
def rowRead (row : SalesHistory) : Option TxLine :=
  (nameRead (seriesSku texts products row.productId)).map (lineOf texts products pd row)

variable (py : Py) (sales : SalesTable) (now : Time)

/-- What the two sides rely on for the rows of a file: dates and quantities are read as they were
written, and the names of the columns are in lower case. -/
structure ReadsBack : Prop where
  date : ∀ row ∈ exportedRows sales now, ∀ dayfirst,
    (readCell (isoDate row.date)).bind (pd.toDatetime dayfirst) =
      some (row.date / DAY_MS * nsPerDay)
  quantity : ∀ row ∈ exportedRows sales now,
    toNumeric pd (readCell (texts.number row.quantity)) = some row.quantity
  lower : ∀ name ∈ salesHeader, py.lower name = name

variable {texts products pd py sales now}

/-- The columns of the file keep their names. -/
theorem ReadsBack.renamedColumns (h : ReadsBack texts pd py sales now) :
    renamedColumns py salesHeader = salesHeader := by
  have hnames : (salesHeader.map fun c => (c, normalise (py.lower (pyStrip c)))) =
      salesHeader.map fun c => (c, c) := by
    refine List.map_congr_left fun c hc => ?_
    have hstrip : ∀ c ∈ salesHeader, pyStrip c = c := by decide +kernel
    have hnormal : ∀ c ∈ salesHeader, normalise c = c := by decide +kernel
    rw [hstrip c hc, h.lower c hc, hnormal c hc]
  rw [Audit.renamedColumns, hnames]
  decide +kernel

/-- A record of the file is read as the line of its row. -/
theorem ReadsBack.loadLine (h : ReadsBack texts pd py sales now) {row : SalesHistory}
    (hrow : row ∈ exportedRows sales now) (dayfirst : Bool) :
    loadLine pd salesHeader dayfirst ((salesRecord texts products row).map readCell) =
      rowRead texts products pd row := by
  have hcells : ∀ a b c d e : Option String,
      cellOf salesHeader [a, b, c, d, e] "date" = a ∧
      cellOf salesHeader [a, b, c, d, e] "sku" = b ∧
      cellOf salesHeader [a, b, c, d, e] "location" = c ∧
      cellOf salesHeader [a, b, c, d, e] "qty" = d ∧
      cellOf salesHeader [a, b, c, d, e] "unit_price" = e ∧
      cellOf salesHeader [a, b, c, d, e] "order_id" = none ∧
      cellOf salesHeader [a, b, c, d, e] "customer_type" = none ∧
      cellOf salesHeader [a, b, c, d, e] "line_type" = none :=
    fun a b c d e => by
      refine ⟨?_, ?_, ?_, ?_, ?_, ?_, ?_, ?_⟩ <;> cases a <;> cases b <;> cases c <;> cases d <;>
        cases e <;> rfl
  rw [salesRecord, List.map_cons, List.map_cons, List.map_cons, List.map_cons, List.map_cons,
    List.map_nil, Audit.loadLine]
  obtain ⟨hdate, hsku, hlocation, hqty, hprice, horder, hcustomer, hline⟩ := hcells
    (readCell (isoDate row.date)) (readCell (seriesSku texts products row.productId))
    (readCell (locationText texts row.locationId)) (readCell (texts.number row.quantity))
    (readCell (unitPriceText texts products row.productId))
  rw [hdate, hsku, hlocation, hqty, hprice, horder, hcustomer, hline, h.date row hrow,
    h.quantity row hrow, locationOrAll_locationText, rowRead, nameRead]
  cases cleanText (readCell (seriesSku texts products row.productId)) with
  | none => rfl
  | some sku => rfl

variable (texts products sales now) in
/-- The file is read as its header and the cells of its rows. -/
theorem readCsv_exportSalesCsv :
    readCsv (exportSalesCsv texts products sales now).csv =
      some {
        columns := salesHeader
        rows := ((exportedRows sales now).map fun row =>
          (salesRecord texts products row).map readCell).filter fun row => !isPadding row } := by
  rw [readCsv, read_exportSalesCsv, List.map_cons]
  dsimp only
  have hlong : (((exportedRows sales now).map (salesRecord texts products)).map
      (·.map String.toList)).any
        (fun record => (salesHeader.map String.toList).length < record.length) = false := by
    rw [List.any_eq_false]
    intro record hrecord
    rw [List.map_map] at hrecord
    obtain ⟨row, -, rfl⟩ := List.mem_map.mp hrecord
    simp [salesRecord, salesHeader]
  have hcells : ∀ fields : List String,
      (fields.map String.toList).map (fun t => readCell (String.ofList t)) =
        fields.map readCell := by
    intro fields
    rw [List.map_map]
    refine List.map_congr_left fun field _ => ?_
    rw [Function.comp_apply, String.ofList_toList]
  rw [hlong, if_neg Bool.false_ne_true]
  simp only [List.map_map, Function.comp_def, hcells, String.ofList_toList, List.map_id']

/-- The loader makes a line of every row whose SKU is not lost. -/
theorem ReadsBack.loadSales (h : ReadsBack texts pd py sales now) :
    ∃ frame, loadSales py pd (exportSalesCsv texts products sales now).csv = some frame ∧
      frame.hasCustomerType = false ∧ frame.hasLineType = false ∧
      frame.lines =
        relabelled ((exportedRows sales now).filterMap (rowRead texts products pd)) := by
  rw [Audit.loadSales, readCsv_exportSalesCsv]
  dsimp only
  have hrequired : (SALES_REQUIRED.all fun name => name ∈ salesHeader) = true := by decide
  have hcustomer : decide ("customer_type" ∈ salesHeader) = false := by decide
  have hline : decide ("line_type" ∈ salesHeader) = false := by decide
  rw [h.renamedColumns, if_pos hrequired]
  refine ⟨_, rfl, hcustomer, hline, ?_⟩
  rw [loadFrame]
  refine congrArg relabelled ?_
  rw [List.filterMap_filter, List.filterMap_map]
  refine List.filterMap_congr fun row hrow => ?_
  rw [Function.comp_apply]
  split
  · exact h.loadLine hrow _
  · next hpadding =>
      rw [← h.loadLine hrow false, loadLine_of_isPadding]
      simpa using hpadding

/-! ## Series and their names -/

variable (texts products)

/-- The SKUs of a catalogue tell its products apart: those of the active products are distinct and
not empty, and none of them is the id of another product, under which the file lists a product that
has no SKU or is not active. -/
structure DistinctSkus : Prop where
  nonempty : ∀ p ∈ products.rows, p.active → p.sku ≠ ""
  distinct : ∀ p ∈ products.rows, ∀ q ∈ products.rows, p.active → q.active →
    p.sku = q.sku → p.id = q.id
  notId : ∀ p ∈ products.rows, p.active → ∀ id, id ≠ p.id → p.sku ≠ texts.productId id

/-- A product is listed under its id, or under the SKU that it has. -/
theorem seriesSku_cases (id : ProductId) :
    seriesSku texts products id = texts.productId id ∨
      ∃ p ∈ products.rows, p.active ∧ p.id = id ∧ seriesSku texts products id = p.sku := by
  rw [seriesSku]
  cases hactive : activeProduct products id with
  | none => exact Or.inl rfl
  | some p =>
      rw [activeProduct] at hactive
      have hmem := List.mem_filter.mp (List.mem_of_find?_eq_some hactive)
      have hid : p.id = id := by simpa using List.find?_some hactive
      rw [Option.map_some, Option.getD_some, resolvedSku]
      split
      · exact Or.inr ⟨p, hmem.1, hmem.2, hid, rfl⟩
      · exact Or.inl (by rw [hid])

variable {texts products}

/-- Distinct products are listed under distinct names. -/
theorem DistinctSkus.seriesSku_injective (h : DistinctSkus texts products) :
    Function.Injective (seriesSku texts products) := by
  intro a b hab
  rcases seriesSku_cases texts products a with
    ha | ⟨p, hp, hactive, rfl, ha⟩
  · rcases seriesSku_cases texts products b with
      hb | ⟨q, hq, hactive, rfl, hb⟩
    · exact texts.productId_injective (ha.symm.trans (hab.trans hb))
    · by_contra hne
      exact h.notId q hq hactive a hne (hb.symm.trans (hab.symm.trans ha))
  · rcases seriesSku_cases texts products b with
      hb | ⟨q, hq, hactive', rfl, hb⟩
    · by_contra hne
      exact h.notId p hp hactive b (Ne.symm hne) (ha.symm.trans (hab.trans hb))
    · exact h.distinct p hp q hq hactive hactive' (ha.symm.trans (hab.trans hb))

/-- Distinct branches have distinct names, and no branch is called as no branch is. -/
theorem locationText_injective : Function.Injective (locationText texts) := by
  have hall : ∀ id, texts.locationId id ≠ "ALL" := by
    intro id heq
    have hcuid := texts.isCuid_locationId id
    rw [heq] at hcuid
    exact absurd hcuid (by decide)
  intro a b hab
  cases a with
  | none =>
      cases b with
      | none => rfl
      | some b => exact absurd hab.symm (hall b)
  | some a =>
      cases b with
      | none => exact absurd hab (hall a)
      | some b => rw [texts.locationId_injective hab]

/-- Two rows are of one product and one branch. -/
def SameSeries (a b : SalesHistory) : Prop :=
  a.productId = b.productId ∧ a.locationId = b.locationId

instance (a b : SalesHistory) : Decidable (SameSeries a b) :=
  inferInstanceAs (Decidable (_ ∧ _))

variable (texts products) in
/-- The series of a row, as the file names it. -/
def seriesOfRow (row : SalesHistory) : SeriesKey :=
  ⟨seriesSku texts products row.productId, locationText texts row.locationId⟩

/-- The names tell the series apart. -/
theorem DistinctSkus.seriesOfRow_eq_iff (h : DistinctSkus texts products) {a b : SalesHistory} :
    seriesOfRow texts products a = seriesOfRow texts products b ↔ SameSeries a b := by
  rw [seriesOfRow, seriesOfRow, SeriesKey.mk.injEq, h.seriesSku_injective.eq_iff,
    locationText_injective.eq_iff, SameSeries]

/-! ## Lines of rows -/

variable (texts products pd) in
/-- The line of a row whose SKU is not lost. -/
def lineOfRow (row : SalesHistory) : TxLine :=
  lineOf texts products pd row (seriesSku texts products row.productId)

/-- The line of a row is counted in the week of the row, under its series. -/
theorem cell_lineOfRow (pd : Pandas) (row : SalesHistory) :
    (lineOfRow texts products pd row).cell = (seriesOfRow texts products row, weekOf row) := by
  have hday : dayOf (row.date / DAY_MS * nsPerDay) = row.date / DAY_MS :=
    Int.mul_ediv_cancel _ (by decide)
  rw [TxLine.cell, TxLine.week, weekOf, ← hday]
  rfl

/-- The lines of two rows have one key when the rows are of one series and day and have the same
units. -/
theorem DistinctSkus.dupKey_lineOfRow_eq_iff (h : DistinctSkus texts products)
    {a b : SalesHistory} :
    dupKey (lineOfRow texts products pd a) = dupKey (lineOfRow texts products pd b) ↔
      SameSeries a b ∧ a.date / DAY_MS = b.date / DAY_MS ∧ a.quantity = b.quantity := by
  have hday : a.date / DAY_MS * nsPerDay = b.date / DAY_MS * nsPerDay ↔
      a.date / DAY_MS = b.date / DAY_MS := by
    rw [Int.mul_eq_mul_right_iff (by decide)]
  simp only [dupKey, lineOfRow, lineOf, Prod.mk.injEq, hday, h.seriesSku_injective.eq_iff,
    locationText_injective.eq_iff, true_and, SameSeries]
  constructor
  · rintro ⟨hdate, hproduct, hlocation, hqty, -⟩
    exact ⟨⟨hproduct, hlocation⟩, hdate, hqty⟩
  · rintro ⟨⟨hproduct, hlocation⟩, hdate, hqty⟩
    exact ⟨hdate, hproduct, hlocation, hqty, by rw [hproduct]⟩

/-- A line without its label. -/
def unlabelled (l : TxLine) : TxLine :=
  { l with label := 0 }

/-- Lines get labels, and nothing else. -/
theorem map_unlabelled_relabelled {lines : List TxLine} (h : ∀ l ∈ lines, l.label = 0) :
    (relabelled lines).map unlabelled = lines := by
  refine List.ext_getElem (by simp [relabelled]) fun i hi hi' => ?_
  have hlabel := h lines[i] (List.getElem_mem hi')
  simp only [relabelled, unlabelled, List.getElem_map, List.getElem_mapIdx]
  rw [← hlabel]

/-! ## Demand -/

variable (sales) in
/-- The units of the history of a row's product and branch in a week. -/
def unitsSold (row : SalesHistory) (week : ℤ) : ℚ :=
  ((sales.rows.filter fun s => SameSeries s row ∧ weekOf s = week).map
    SalesHistory.quantity).sum

variable (texts products sales now) in
/-- Every week from a series' first sale to its last has a row, with the units of the history. -/
def DemandPreserved (panel : List PanelRow) : Prop :=
  ∀ first ∈ exportedRows sales now, ∀ last ∈ exportedRows sales now, SameSeries last first →
    ∀ week, (week + 3) % 7 = 0 → weekOf first ≤ week → week ≤ weekOf last →
      ∃ r ∈ panel, r.cell = (seriesOfRow texts products first, week) ∧
        r.unitsRaw = unitsSold sales first week

variable (texts products sales now) in
/-- Nothing is lost between the history and the panel. -/
structure Undisturbed : Prop where
  /-- No SKU has blanks at its ends or is a text that stands for a missing value. -/
  skus : ∀ row ∈ exportedRows sales now,
    pyStrip (seriesSku texts products row.productId) = seriesSku texts products row.productId ∧
      seriesSku texts products row.productId ∉ naValues
  /-- No two rows of a product, branch and day have the same units, unless they have none. -/
  unlike : (exportedRows sales now).Pairwise fun a b =>
    SameSeries a b → a.date / DAY_MS = b.date / DAY_MS → a.quantity = b.quantity → b.quantity = 0
  /-- No units before the year belong to a week of a row within it. -/
  window : ∀ row ∈ exportedRows sales now, ∀ old ∈ sales.rows, old.date < historySince now →
    SameSeries old row → weekOf old = weekOf row → old.quantity = 0

theorem SameSeries.refl (row : SalesHistory) : SameSeries row row :=
  ⟨rfl, rfl⟩

/-- The week of a row is a Monday. -/
theorem weekOf_add_three (row : SalesHistory) : (weekOf row + 3) % 7 = 0 := by
  rw [weekOf, mondayOf]
  omega

/-- An earlier day is of an earlier week, or of the same. -/
theorem mondayOf_le_mondayOf {a b : ℤ} (h : a ≤ b) : mondayOf a ≤ mondayOf b := by
  rw [mondayOf, mondayOf]
  omega

/-- An earlier row is of an earlier week, or of the same. -/
theorem weekOf_le_weekOf {a b : SalesHistory} (h : a.date ≤ b.date) : weekOf a ≤ weekOf b :=
  mondayOf_le_mondayOf (Int.ediv_le_ediv (by decide) h)

/-! ### No SKU is lost -/

section Panel

variable {config : Config} {frame : TxFrame} {result : CleanResult} {netted : List TxLine}

/-- A line of the file's frame is the line of a row, under what its SKU is read as. -/
theorem exists_row_of_mem {l : TxLine}
    (hlines : frame.lines = relabelled ((exportedRows sales now).filterMap
      (rowRead texts products pd))) (hl : l ∈ frame.lines) :
    ∃ row ∈ exportedRows sales now, rowRead texts products pd row = some (unlabelled l) := by
  have hlabels : ∀ l ∈ (exportedRows sales now).filterMap (rowRead texts products pd),
      l.label = 0 := by
    intro l hl
    obtain ⟨row, -, hrow⟩ := List.mem_filterMap.mp hl
    obtain ⟨sku, -, rfl⟩ := Option.map_eq_some_iff.mp hrow
    rfl
  rw [← List.mem_filterMap, ← map_unlabelled_relabelled hlabels, ← hlines]
  exact List.mem_map_of_mem hl

/-- When the demand is preserved, the SKU of every row is what some row's SKU is read as. -/
theorem exists_read_of_demandPreserved (hreconciled : Reconciled config frame [] result netted)
    (hlines : frame.lines = relabelled ((exportedRows sales now).filterMap
      (rowRead texts products pd)))
    (h : DemandPreserved texts products sales now result.panel) {row : SalesHistory}
    (hrow : row ∈ exportedRows sales now) :
    ∃ other ∈ exportedRows sales now, nameRead (seriesSku texts products other.productId) =
      some (seriesSku texts products row.productId) := by
  obtain ⟨r, hr, hcell, -⟩ := h row hrow row hrow (.refl row) (weekOf row) (weekOf_add_three row)
    (le_refl _) (le_refl _)
  obtain ⟨-, l, hl, -, -, hseries, -⟩ := (hreconciled.weeks _).mp ⟨r, hr, hcell⟩
  obtain ⟨l₀, hl₀, hnetted⟩ := hreconciled.account.kept l hl
  obtain ⟨other, hother, hread⟩ := exists_row_of_mem hlines hl₀
  obtain ⟨sku, hsku, hline⟩ := Option.map_eq_some_iff.mp hread
  refine ⟨other, hother, ?_⟩
  -- the line keeps its SKU, which is that of the row's series
  have hkept : l.sku = l₀.sku := by rw [hnetted.same]; rfl
  have hname : l.sku = seriesSku texts products row.productId := congrArg SeriesKey.sku hseries
  have hunder : sku = l₀.sku := congrArg TxLine.sku hline
  rw [hsku, hunder, ← hkept, hname]

/-- When the demand is preserved, no SKU is lost. -/
theorem skus_of_demandPreserved (hreconciled : Reconciled config frame [] result netted)
    (hlines : frame.lines = relabelled ((exportedRows sales now).filterMap
      (rowRead texts products pd)))
    (h : DemandPreserved texts products sales now result.panel) {row : SalesHistory}
    (hrow : row ∈ exportedRows sales now) :
    pyStrip (seriesSku texts products row.productId) = seriesSku texts products row.productId ∧
      seriesSku texts products row.productId ∉ naValues := by
  obtain ⟨other, hother, hread⟩ := exists_read_of_demandPreserved hreconciled hlines h hrow
  obtain ⟨_, _, hread'⟩ := exists_read_of_demandPreserved hreconciled hlines h hother
  refine ⟨(of_cleanText hread).1, fun hna => ?_⟩
  -- the other row's SKU is trimmed as well, so it is read as itself: the two are one
  have hstrip := (of_cleanText hread').1
  have hpresent : seriesSku texts products other.productId ∉ naValues := by
    intro hna'
    rw [nameRead, readCell, if_pos hna'] at hread
    cases hread
  rw [nameRead_eq_self hpresent hstrip] at hread
  exact hpresent (Option.some.inj hread ▸ hna)

/-! ### Units of a week -/

/-- The units of a product and branch in a week, before the year. -/
def unitsBefore (sales : SalesTable) (now : Time) (row : SalesHistory) (week : ℤ) : ℚ :=
  ((sales.rows.filter fun s => s.date < historySince now ∧ SameSeries s row ∧
    weekOf s = week).map SalesHistory.quantity).sum

/-- Once no SKU is lost, the lines of the frame are those of the rows. -/
theorem map_unlabelled_lines (hskus : ∀ row ∈ exportedRows sales now,
      pyStrip (seriesSku texts products row.productId) = seriesSku texts products row.productId ∧
        seriesSku texts products row.productId ∉ naValues)
    (hlines : frame.lines = relabelled ((exportedRows sales now).filterMap
      (rowRead texts products pd))) :
    frame.lines.map unlabelled = (exportedRows sales now).map (lineOfRow texts products pd) := by
  have hread : (exportedRows sales now).filterMap (rowRead texts products pd) =
      (exportedRows sales now).map (lineOfRow texts products pd) := by
    rw [← List.filterMap_eq_map]
    refine List.filterMap_congr fun row hrow => ?_
    rw [rowRead, nameRead_eq_self (hskus row hrow).2 (hskus row hrow).1]
    rfl
  rw [hlines, hread]
  refine map_unlabelled_relabelled fun l hl => ?_
  obtain ⟨row, -, rfl⟩ := List.mem_map.mp hl
  rfl

variable (hmap : frame.lines.map unlabelled =
  (exportedRows sales now).map (lineOfRow texts products pd))

include hmap

/-- A line of the frame is that of a row. -/
theorem exists_lineOfRow {l : TxLine} (hl : l ∈ frame.lines) :
    ∃ row ∈ exportedRows sales now, lineOfRow texts products pd row = unlabelled l := by
  rw [← List.mem_map, ← hmap]
  exact List.mem_map_of_mem hl

/-- The row of every line is in the frame. -/
theorem exists_line {row : SalesHistory} (hrow : row ∈ exportedRows sales now) :
    ∃ l ∈ frame.lines, unlabelled l = lineOfRow texts products pd row := by
  rw [← List.mem_map, hmap]
  exact List.mem_map_of_mem hrow

/-- The units of the history are those of the frame's lines and those before the year. -/
theorem unitsSold_eq (hdistinct : DistinctSkus texts products) (row : SalesHistory) (week : ℤ) :
    unitsSold sales row week =
      ((frame.lines.filter fun l => l.cell = (seriesOfRow texts products row, week)).map
        TxLine.qty).sum + unitsBefore sales now row week := by
  have hframe : ((frame.lines.filter fun l =>
      l.cell = (seriesOfRow texts products row, week)).map TxLine.qty) =
        ((exportedRows sales now).filter fun s => SameSeries s row ∧ weekOf s = week).map
          SalesHistory.quantity := by
    have hunlabelled : ((frame.lines.filter fun l =>
        l.cell = (seriesOfRow texts products row, week)).map TxLine.qty) =
          (((frame.lines.map unlabelled).filter fun l =>
            l.cell = (seriesOfRow texts products row, week)).map TxLine.qty) := by
      rw [List.filter_map, List.map_map]
      rfl
    rw [hunlabelled, hmap, List.filter_map, List.map_map]
    refine congrArg (List.map _) (List.filter_congr fun s _ => ?_)
    rw [Function.comp_apply, cell_lineOfRow pd]
    refine decide_eq_decide.mpr ?_
    rw [Prod.mk.injEq, hdistinct.seriesOfRow_eq_iff]
  have hsplit := (((List.filter_append_perm (fun s => decide (historySince now ≤ s.date))
    sales.rows).filter fun s => SameSeries s row ∧ weekOf s = week).map
      SalesHistory.quantity).sum_eq
  rw [List.filter_append, List.map_append, List.sum_append, List.filter_filter,
    List.filter_filter] at hsplit
  rw [unitsSold, ← hsplit, hframe, exportedRows, List.filter_filter, unitsBefore]
  congr 3
  refine List.filter_congr fun s _ => ?_
  simp only [← Bool.decide_and, ← decide_not, not_le]
  exact decide_eq_decide.mpr and_comm

/-- The later of two lines of one key has no units exactly when no two rows of a day are alike. -/
theorem pairwise_lines_iff (hdistinct : DistinctSkus texts products) :
    (frame.lines.Pairwise fun a b => dupKey a = dupKey b → b.qty = 0) ↔
      (exportedRows sales now).Pairwise fun a b => SameSeries a b →
        a.date / DAY_MS = b.date / DAY_MS → a.quantity = b.quantity → b.quantity = 0 := by
  have hunlabelled : (frame.lines.Pairwise fun a b => dupKey a = dupKey b → b.qty = 0) ↔
      (frame.lines.map unlabelled).Pairwise fun a b => dupKey a = dupKey b → b.qty = 0 := by
    rw [List.pairwise_map]
    rfl
  rw [hunlabelled, hmap, List.pairwise_map]
  simp only [hdistinct.dupKey_lineOfRow_eq_iff, and_imp]
  rfl

/-- A cell between a series' lines has a row, whose units are those of the lines that are kept. -/
theorem exists_unitsRaw_iff (hreconciled : Reconciled config frame [] result netted)
    (hsales : ∀ l ∈ netted, 0 ≤ l.qty) (hkept : netted = (splitDuplicates frame).1)
    {first last : SalesHistory} (hfirst : first ∈ exportedRows sales now)
    (hlast : last ∈ exportedRows sales now) (hsame : SameSeries last first)
    (hdistinct : DistinctSkus texts products) {week : ℤ} (hmonday : (week + 3) % 7 = 0)
    (hle : weekOf first ≤ week) (hge : week ≤ weekOf last) (units : ℚ) :
    (∃ r ∈ result.panel, r.cell = (seriesOfRow texts products first, week) ∧ r.unitsRaw = units) ↔
      ((netted.filter fun l => l.cell = (seriesOfRow texts products first, week)).map
        TxLine.qty).sum = units := by
  -- the lines of the first and the last sale are kept, or others of their keys
  have hcells : ∀ {row}, row ∈ exportedRows sales now →
      ∃ l ∈ netted, l.cell = (seriesOfRow texts products row, weekOf row) := by
    intro row hrow
    obtain ⟨l, hl, hline⟩ := exists_line hmap hrow
    obtain ⟨k, hk, hkey⟩ := exists_kept hl
    refine ⟨k, hkept ▸ hk, ?_⟩
    rw [cell_eq_of_dupKey_eq hkey, ← cell_lineOfRow pd, ← hline]
    rfl
  obtain ⟨l, hl, hcell⟩ := hcells hfirst
  obtain ⟨l', hl', hcell'⟩ := hcells hlast
  rw [hdistinct.seriesOfRow_eq_iff.mpr hsame] at hcell'
  obtain ⟨hseries, hweek⟩ := Prod.mk.inj hcell
  obtain ⟨hseries', hweek'⟩ := Prod.mk.inj hcell'
  obtain ⟨r, hr, hrcell⟩ := (hreconciled.weeks (seriesOfRow texts products first, week)).mpr
    ⟨hmonday, l, hl, l', hl', hseries, hseries', hweek.trans_le hle, hge.trans_eq hweek'.symm⟩
  have hunits : ∀ r ∈ result.panel, r.cell = (seriesOfRow texts products first, week) →
      r.unitsRaw = ((netted.filter fun l =>
        l.cell = (seriesOfRow texts products first, week)).map TxLine.qty).sum := by
    intro r hr hrcell
    rw [hreconciled.units r hr, hrcell, max_eq_right]
    exact sum_map_nonneg fun l hl => hsales l (List.mem_of_mem_filter hl)
  constructor
  · rintro ⟨r, hr, hrcell, hraw⟩
    rw [← hunits r hr hrcell, hraw]
  · intro hraw
    exact ⟨r, hr, hrcell, (hunits r hr hrcell).trans hraw⟩

/-- Once no SKU is lost, the demand is preserved exactly when no two rows of a day are alike and no
week is cut off. -/
theorem demandPreserved_iff_of_map (hreconciled : Reconciled config frame [] result netted)
    (hkept : netted = (splitDuplicates frame).1) (hdistinct : DistinctSkus texts products)
    (hsold : ∀ row ∈ sales.rows, 0 ≤ row.quantity) :
    DemandPreserved texts products sales now result.panel ↔
      ((exportedRows sales now).Pairwise fun a b => SameSeries a b →
        a.date / DAY_MS = b.date / DAY_MS → a.quantity = b.quantity → b.quantity = 0) ∧
      ∀ row ∈ exportedRows sales now, ∀ old ∈ sales.rows, old.date < historySince now →
        SameSeries old row → weekOf old = weekOf row → old.quantity = 0 := by
  have hlines : ∀ l ∈ frame.lines, 0 ≤ l.qty := by
    intro l hl
    obtain ⟨row, hrow, hline⟩ := exists_lineOfRow hmap hl
    rw [← show row.quantity = l.qty from congrArg TxLine.qty hline]
    exact hsold row (List.mem_of_mem_filter hrow)
  have hnetted : ∀ l ∈ netted, 0 ≤ l.qty := by
    intro l hl
    rw [hkept] at hl
    exact hlines l (mem_of_mem_splitDuplicates frame (mem_splitExcluded_fst.mp hl))
  have hbefore : ∀ row week, 0 ≤ unitsBefore sales now row week := fun row week =>
    sum_map_nonneg fun s hs => hsold s (List.mem_of_mem_filter hs)
  -- a week has its units when neither the duplicates of its cell nor the days before the year do
  have hweeks : DemandPreserved texts products sales now result.panel ↔
      ∀ first ∈ exportedRows sales now, ∀ last ∈ exportedRows sales now, SameSeries last first →
        ∀ week, (week + 3) % 7 = 0 → weekOf first ≤ week → week ≤ weekOf last →
          (∀ l ∈ (splitDuplicates frame).2.map ExcludedLine.line,
            l.cell = (seriesOfRow texts products first, week) → l.qty = 0) ∧
          unitsBefore sales now first week = 0 := by
    refine forall₂_congr fun first hfirst => forall₂_congr fun last hlast =>
      forall₂_congr fun hsame week => forall₃_congr fun hmonday hle hge => ?_
    rw [exists_unitsRaw_iff hmap hreconciled hnetted hkept hfirst hlast hsame hdistinct hmonday hle
      hge, unitsSold_eq hmap hdistinct, hkept, units_kept_eq_iff hlines _ (hbefore first week)]
    simp only [decide_eq_true_eq]
  rw [hweeks, ← pairwise_lines_iff hmap hdistinct, ← duplicates_worthless_iff]
  constructor
  · intro h
    constructor
    · -- a duplicate is in the cell of its row
      intro l hl
      have hmem := (splitDuplicates_perm frame).mem_iff.mp (List.mem_append_right _ hl)
      obtain ⟨row, hrow, hline⟩ := exists_lineOfRow hmap hmem
      refine (h row hrow row hrow (.refl row) (weekOf row) (weekOf_add_three row) (le_refl _)
        (le_refl _)).1 l hl ?_
      rw [← cell_lineOfRow pd, hline]
      rfl
    · intro row hrow old hold hearly hsame hweek
      have hzero := (h row hrow row hrow (.refl row) (weekOf row) (weekOf_add_three row)
        (le_refl _) (le_refl _)).2
      rw [unitsBefore, sum_map_eq_zero_iff
        fun s hs => hsold s (List.mem_of_mem_filter hs)] at hzero
      exact hzero old (List.mem_filter.mpr ⟨hold, decide_eq_true ⟨hearly, hsame, hweek⟩⟩)
  · rintro ⟨hdups, hwindow⟩ first hfirst last hlast hsame week hmonday hle hge
    refine ⟨fun l hl _ => hdups l hl, ?_⟩
    rw [unitsBefore, sum_map_eq_zero_iff fun s hs => hsold s (List.mem_of_mem_filter hs)]
    intro old hold
    obtain ⟨hold, hmatch⟩ := List.mem_filter.mp hold
    obtain ⟨hearly, hseries, hweek⟩ := of_decide_eq_true hmatch
    -- what was sold before the year is in the first week of the series, if in any
    have hfirstDate : historySince now ≤ first.date :=
      of_decide_eq_true (List.mem_filter.mp hfirst).2
    have hearlier := weekOf_le_weekOf (hearly.le.trans hfirstDate)
    exact hwindow first hfirst old hold hearly hseries
      (le_antisymm hearlier (hle.trans_eq hweek.symm))

end Panel

/-! ## The handshake -/

/-- **The handshake.** For every catalogue whose names tell its products apart, and every history of
whole quantities, the exported file goes through the loader and the chain, and its panel has the
units of the history in every week of every series, exactly when no SKU is lost, no two rows of a
product, branch and day have the same units, and no week is cut off by the start of the year. -/
theorem demandPreserved_iff (source : AvailabilitySource) {config : Config}
    (hreturns : 0 ≤ config.demand.returnsWindowWeeks) (hwindow : 1 ≤ config.baseline.windowWeeks)
    (hshift : 1 ≤ config.baseline.levelShiftConsecutiveWeeks)
    (hdistinct : DistinctSkus texts products)
    (hwhole : ∀ row ∈ sales.rows, ∃ n : ℕ, row.quantity = n)
    (hread : ReadsBack texts pd py sales now) :
    (∃ frame result, loadSales py pd (exportSalesCsv texts products sales now).csv = some frame ∧
      runChain config py source frame [] [] = some result ∧
      DemandPreserved texts products sales now result.panel) ↔
    Undisturbed texts products sales now := by
  have hsold : ∀ row ∈ sales.rows, 0 ≤ row.quantity := by
    intro row hrow
    obtain ⟨n, hn⟩ := hwhole row hrow
    rw [hn]
    exact Nat.cast_nonneg n
  obtain ⟨frame, hload, hcustomer, hline, hlines⟩ := hread.loadSales
  have hqty : ∀ l ∈ frame.lines, 0 ≤ l.qty := by
    intro l hl
    obtain ⟨row, hrow, hread⟩ := exists_row_of_mem hlines hl
    obtain ⟨sku, -, hline⟩ := Option.map_eq_some_iff.mp hread
    rw [← show row.quantity = l.qty from congrArg TxLine.qty hline]
    exact hsold row (List.mem_of_mem_filter hrow)
  obtain ⟨result, hrun⟩ := exists_runChain py source frame [] [] hreturns hwindow hshift
  obtain ⟨tx, htx, hreconciled⟩ := exists_reconciled py hrun
  have hkept := netted_of_sales htx hcustomer hline hqty
  -- Either way the SKUs survive the file, and the lines are then those of the exported rows.
  constructor
  · rintro ⟨frame', result', hload', hrun', h⟩
    obtain rfl := Option.some.inj (hload'.symm.trans hload)
    obtain rfl := Option.some.inj (hrun'.symm.trans hrun)
    have hskus : ∀ row ∈ exportedRows sales now,
        pyStrip (seriesSku texts products row.productId) = seriesSku texts products row.productId ∧
          seriesSku texts products row.productId ∉ naValues :=
      fun row hrow => skus_of_demandPreserved hreconciled hlines h hrow
    have hmap := map_unlabelled_lines hskus hlines
    obtain ⟨hunlike, hcut⟩ :=
      (demandPreserved_iff_of_map hmap hreconciled hkept hdistinct hsold).mp h
    exact ⟨hskus, hunlike, hcut⟩
  · rintro ⟨hskus, hunlike, hcut⟩
    have hmap := map_unlabelled_lines hskus hlines
    exact ⟨frame, result, hload, hrun,
      (demandPreserved_iff_of_map hmap hreconciled hkept hdistinct hsold).mpr ⟨hunlike, hcut⟩⟩

end Code

/-! ## A shop of one tee -/

/-- Ids of different lengths, and the digits of whole numbers. -/
def plainTexts : Texts where
  productId id := String.ofList ('c' :: List.replicate id 'p')
  locationId id := String.ofList ('c' :: List.replicate id 'l')
  number q := toString q.num
  productId_injective a b h := by
    simpa using congrArg String.length h
  locationId_injective a b h := by
    simpa using congrArg String.length h
  isCuid_productId id := by simp [isCuid]
  isCuid_locationId id := by simp [isCuid]

/-- The first two days of the year's second week, and whole numbers. -/
def plainPandas : Pandas where
  toDatetime _ s :=
    [("2026-01-05", 20458 * nsPerDay), ("2026-01-06", 20459 * nsPerDay)].lookup s
  toNumeric s := (Py.decimal.int s).map fun n => (n : ℚ)

/-- A catalogue of one active product. -/
def oneProduct (sku : String) : Table SoldProduct :=
  .single { id := 0, sku, priceKes := 500, active := true }

/-- Two sales on the fifth of January, in the shop and online, and one on the next day. -/
def twoSales (till : ℚ) : SalesTable where
  rows :=
    [{ productId := 0, date := 20458 * DAY_MS, quantity := 2, revenueKes := 1000 },
      { productId := 0, date := 20458 * DAY_MS, quantity := till, revenueKes := 1000,
        channel := .pos },
      { productId := 0, date := 20459 * DAY_MS, quantity := 2, revenueKes := 1000 }]
  unique := by
    simp [SalesHistory.Clash]

/-- The first of February. -/
def exportedAt : Time :=
  20485 * DAY_MS

/-- The cells and the units of the panel of that history. -/
def panelUnits (sku : String) (till : ℚ) : Option (List ((SeriesKey × ℤ) × ℚ)) := do
  let frame ← loadSales .decimal plainPandas
    (exportSalesCsv plainTexts (oneProduct sku) (twoSales till) exportedAt).csv
  let result ← runChain {} .decimal (inferred .decimal) frame [] []
  return result.panel.map fun r => (r.cell, r.unitsRaw)

/-- The demand of that history is preserved on its way. -/
def TeePreserved (sku : String) (till : ℚ) : Prop :=
  ∃ frame result, loadSales .decimal plainPandas
      (exportSalesCsv plainTexts (oneProduct sku) (twoSales till) exportedAt).csv = some frame ∧
    runChain {} .decimal (inferred .decimal) frame [] [] = some result ∧
    DemandPreserved plainTexts (oneProduct sku) (twoSales till) exportedAt result.panel

/-- When it is, the week of a row is in the panel with its units. -/
theorem TeePreserved.mem {sku : String} {till : ℚ} (h : TeePreserved sku till)
    {units : List ((SeriesKey × ℤ) × ℚ)} (hunits : panelUnits sku till = some units)
    {row : SalesHistory} (hrow : row ∈ exportedRows (twoSales till) exportedAt) :
    ((seriesOfRow plainTexts (oneProduct sku) row, weekOf row),
      unitsSold (twoSales till) row (weekOf row)) ∈ units := by
  obtain ⟨frame, result, hload, hrun, hpreserved⟩ := h
  obtain ⟨r, hr, hcell, hraw⟩ := hpreserved row hrow row hrow (.refl row) (weekOf row)
    (weekOf_add_three row) (le_refl _) (le_refl _)
  rw [panelUnits, hload, Option.bind_eq_bind, Option.bind_some, hrun, Option.bind_eq_bind,
    Option.bind_some, Option.pure_def, Option.some.injEq] at hunits
  rw [← hunits, ← hcell, ← hraw]
  exact List.mem_map_of_mem hr

/-- A SKU that does not begin as an id does tells its product apart. -/
theorem distinctSkus_oneProduct {sku : String} (hne : sku ≠ "")
    (hid : sku.toList.head? ≠ some 'c') : DistinctSkus plainTexts (oneProduct sku) where
  nonempty p hp _ := by
    rw [List.mem_singleton.mp hp]
    exact hne
  distinct p hp q hq _ _ _ := by
    rw [List.mem_singleton.mp hp, List.mem_singleton.mp hq]
  notId p hp _ id _ heq := by
    rw [List.mem_singleton.mp hp] at heq
    refine hid ?_
    rw [show sku = plainTexts.productId id from heq, plainTexts, String.toList_ofList]
    rfl

theorem demandPreserved_iff_twoSales :
    Undisturbed plainTexts (oneProduct "TEE") (twoSales 3) exportedAt ∧ TeePreserved "TEE" 3 := by
  have hundisturbed : Undisturbed plainTexts (oneProduct "TEE") (twoSales 3) exportedAt :=
    ⟨by decide +kernel, by decide +kernel, by decide +kernel⟩
  refine ⟨hundisturbed, (demandPreserved_iff (inferred .decimal) (by decide) (by decide) (by decide)
    (distinctSkus_oneProduct (by decide) (by decide)) ?_ ?_).mpr hundisturbed⟩
  · have hwhole : ∀ row ∈ (twoSales 3).rows, row.quantity = (2 : ℕ) ∨ row.quantity = (3 : ℕ) := by
      decide +kernel
    exact fun row hrow => (hwhole row hrow).elim (fun h => ⟨2, h⟩) fun h => ⟨3, h⟩
  · exact ⟨by decide +kernel, by decide +kernel, by decide +kernel⟩

/-- Two units sold in the shop and two online on one day are two units to the audit, and the sales
of a product whose SKU is `NA` are none. -/
theorem equal_sales_lost :
    (DistinctSkus plainTexts (oneProduct "TEE") ∧
      (∀ row ∈ (twoSales 2).rows, row.quantity = (2 : ℕ)) ∧
      ReadsBack plainTexts plainPandas .decimal (twoSales 2) exportedAt ∧
      ¬ TeePreserved "TEE" 2) ∧
    DistinctSkus plainTexts (oneProduct "NA") ∧ ¬ TeePreserved "NA" 2 := by
  have hrow : (twoSales 2).rows.head (by decide) ∈ exportedRows (twoSales 2) exportedAt := by
    decide +kernel
  refine ⟨⟨distinctSkus_oneProduct (by decide) (by decide), by decide +kernel,
    ⟨by decide +kernel, by decide +kernel, by decide +kernel⟩, fun h => ?_⟩,
    distinctSkus_oneProduct (by decide) (by decide), fun h => ?_⟩
  · have hunits : panelUnits "TEE" 2 = some [((⟨"TEE", "ALL"⟩, 20458), 4)] := by decide +kernel
    exact absurd (h.mem hunits hrow) (by decide +kernel)
  · have hunits : panelUnits "NA" 2 = some [] := by decide +kernel
    exact absurd (h.mem hunits hrow) List.not_mem_nil

end Restock.Audit
