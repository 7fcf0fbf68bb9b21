import Restock.Csv.Records
import Restock.Forecast.Clock
import Restock.Sales.History

/-!
# The sales file for the audit

`exportSalesCsv` of `packages/forecast-run/src/engine-client.ts`: a tenant's sales of the last year,
a line for each row of the history, with the names of the series the audit is to tell apart.

* `Texts` — the texts of generated ids and of numbers;
* `seriesSku`, `locationText` — what a row's product and branch are called in the file;
* `csvEscape`, `salesRecord`, `exportSalesCsv` — the file;
* `read_exportSalesCsv` — a reader of comma-separated records finds the header and, for every row of
  the year, its record.
-/

namespace Restock.Audit

open Restock.Forecast (DAY_MS dayKeyOf daysBefore isoMonth monthOf padStart)
open Restock.Sales (SalesHistory SalesTable)
open Store (Table)

/-! ## Texts -/

/-- A generated id: a `c` and lower-case letters and digits. -/
def isCuid (s : String) : Bool :=
  s.toList.head? = some 'c' && s.toList.all fun c => c.isLower || c.isDigit

/-- The texts the exporter gets from elsewhere: the ids, which the database client generates, each
once, and `String` of a number. -/
structure Texts where
  productId : ProductId → String
  locationId : LocationId → String
  number : ℚ → String
  productId_injective : Function.Injective productId
  locationId_injective : Function.Injective locationId
  isCuid_productId : ∀ id, isCuid (productId id)
  isCuid_locationId : ∀ id, isCuid (locationId id)

/-- What `String.prototype.trim` takes away. -/
def jsBlank (c : Char) : Bool :=
  (9 ≤ c.toNat && c.toNat ≤ 13) || (0x2000 ≤ c.toNat && c.toNat ≤ 0x200a) ||
    c.toNat ∈ [0x20, 0xa0, 0x1680, 0x2028, 0x2029, 0x202f, 0x205f, 0x3000, 0xfeff]

/-- `String.prototype.trim`. -/
def trim (s : String) : String :=
  String.ofList (Csv.strip jsBlank s.toList)

/-- The day of the month of a date. -/
def dayOfMonth (d : ℤ) : ℕ :=
  -- the days since the first of the month: of the dates up to 30 days before, those of its month
  ((List.range 31).filter fun k => monthOf (daysBefore d k) = monthOf d).length

/-- `toISOString().slice(0, 10)`: of a year with more than four digits, the month is the last that
is left. -/
def isoDate (d : ℤ) : String :=
  let (year, month) := monthOf d
  isoMonth d ++ "-" ++ padStart 2 (if 0 ≤ year ∧ year ≤ 9999 then dayOfMonth d else month)

example : isoDate 1735689599999 = "2024-12-31" ∧ isoDate 1709164800000 = "2024-02-29" := by
  decide +kernel

/-! ## Series -/

/-- What the export reads of a product. -/
structure SoldProduct where
  id : ProductId
  sku : String
  priceKes : ℚ
  active : Bool
  deriving DecidableEq, Repr

instance : Store.Keyed SoldProduct ProductId := ⟨SoldProduct.id⟩

section Code

variable (texts : Texts)

/-- The SKU of a product, or its id when it has none. -/
def resolvedSku (p : SoldProduct) : String :=
  if p.sku ≠ "" ∧ trim p.sku ≠ "" then p.sku else texts.productId p.id

variable (products : Table SoldProduct)

/-- The products the export knows. -/
def activeProduct (id : ProductId) : Option SoldProduct :=
  (products.rows.filter SoldProduct.active).find? fun p => p.id = id

/-- What a product is called in the file: the SKU of an active product, or the id. -/
def seriesSku (id : ProductId) : String :=
  ((activeProduct products id).map (resolvedSku texts)).getD (texts.productId id)

/-- What a branch is called in the file. -/
def locationText (locationId : Option LocationId) : String :=
  (locationId.map texts.locationId).getD "ALL"

/-- The price of a product, or nothing. -/
def unitPriceText (id : ProductId) : String :=
  ((activeProduct products id).map fun p => texts.number p.priceKes).getD ""

/-! ## The file -/

/-- Quote a CSV field when it holds a comma, a quote or a newline. -/
def csvEscape (value : String) : String :=
  if value.toList.any fun c => c = '"' || c = ',' || c = '\n' || c = '\r' then
    "\"" ++ String.ofList (value.toList.flatMap fun c => if c = '"' then ['"', '"'] else [c]) ++
      "\""
  else value

/-- The names of the columns. -/
def salesHeader : List String :=
  ["date", "sku", "location", "qty", "unit_price"]

/-- The fields of a row. -/
def salesRecord (row : SalesHistory) : List String :=
  [isoDate row.date, seriesSku texts products row.productId, locationText texts row.locationId,
    texts.number row.quantity, unitPriceText texts products row.productId]

/-- A year of history feeds the engine. -/
def HISTORY_DAYS : ℤ := 365

/-- The first instant of that year. -/
def historySince (now : Time) : Time :=
  now - HISTORY_DAYS * DAY_MS

/-- The rows of the history that are exported. -/
def exportedRows (sales : SalesTable) (now : Time) : List SalesHistory :=
  sales.rows.filter fun row => historySince now ≤ row.date

/-- What `exportSalesCsv` returns. -/
structure SalesExport where
  csv : String
  rowCount : ℕ
  dayCount : ℕ
  deriving DecidableEq, Repr

/-- `exportSalesCsv`. -/
def exportSalesCsv (sales : SalesTable) (now : Time) : SalesExport :=
  let rows := exportedRows sales now
  let lines := "date,sku,location,qty,unit_price" ::
    rows.map fun row => ",".intercalate ((salesRecord texts products row).map csvEscape)
  { csv := "\n".intercalate lines
    rowCount := rows.length
    dayCount := (rows.map fun row => isoDate row.date).eraseDups.length }

/-! ## Its records -/

/-- An escaped field is a way to write it. -/
theorem written_csvEscape (value : String) :
    Csv.Written value.toList (csvEscape value).toList := by
  rw [csvEscape]
  split
  · have hquoted : ∀ t : String, ("\"" ++ t ++ "\"").toList = '"' :: (t.toList ++ ['"']) := by
      intro t
      simp
    rw [hquoted, String.toList_ofList]
    exact Csv.Written.quoted value.toList
  · next h =>
      refine Csv.Written.plain fun c hc => ?_
      rw [Bool.not_eq_true, List.any_eq_false] at h
      have hnone := h c hc
      simp only [Csv.special, Bool.or_eq_true, decide_eq_true_eq, not_or] at hnone ⊢
      simp [hnone]

/-- Escaped fields are ways to write them. -/
theorem forall₂_written (fields : List String) :
    List.Forall₂ Csv.Written (fields.map String.toList)
      ((fields.map csvEscape).map String.toList) := by
  induction fields with
  | nil => exact List.Forall₂.nil
  | cons field fields ih => exact List.Forall₂.cons (written_csvEscape field) ih

/-- An ISO date is not empty. -/
theorem isoDate_ne_nil (d : ℤ) : (csvEscape (isoDate d)).toList ≠ [] := by
  have hdate : (isoDate d).toList ≠ [] := by
    rw [isoDate]
    simp
  rw [csvEscape]
  split
  · simp
  · exact hdate

/-- The record of a row is written on its line. -/
theorem writtenRecord_salesRecord (row : SalesHistory) :
    Csv.WrittenRecord ((salesRecord texts products row).map String.toList)
      (((salesRecord texts products row).map csvEscape).map String.toList) :=
  .fields (isoDate_ne_nil row.date) (written_csvEscape _) (forall₂_written _)

/-- A reader finds the header and the records of the rows. -/
theorem read_exportSalesCsv (sales : SalesTable) (now : Time) :
    Csv.read (exportSalesCsv texts products sales now).csv.toList =
      some ((salesHeader :: (exportedRows sales now).map (salesRecord texts products)).map
        fun fields => fields.map String.toList) := by
  have hheader : Csv.WrittenRecord (salesHeader.map String.toList)
      ((salesHeader.map csvEscape).map String.toList) :=
    .fields (by decide) (written_csvEscape _) (forall₂_written _)
  have hrows : List.Forall₂ Csv.WrittenRecord
      (((exportedRows sales now).map (salesRecord texts products)).map (·.map String.toList))
      (((exportedRows sales now).map (salesRecord texts products)).map
        fun fields => (fields.map csvEscape).map String.toList) := by
    rw [List.map_map, List.map_map, List.forall₂_map_left_iff, List.forall₂_map_right_iff]
    exact List.forall₂_same.mpr fun row _ => writtenRecord_salesRecord texts products row
  have hread := Csv.read_lines (List.Forall₂.cons hheader hrows)
  rw [List.map_cons, ← hread]
  congr 1
  rw [exportSalesCsv, String.toList_intercalate, Csv.lines, List.map_cons, List.map_cons]
  refine congrArg₂ (fun first rest => List.intercalate _ (first :: rest)) (by decide) ?_
  rw [List.map_map, List.map_map, List.map_map]
  refine List.map_congr_left fun row _ => ?_
  rw [Function.comp_apply, Function.comp_apply, Function.comp_apply, String.toList_intercalate,
    Csv.line]
  rfl

end Code

end Restock.Audit
