import Restock.Audit.Transactions
import Restock.Csv.Records

/-!
# The loader of sales files

`load_sales` of `ingest/loaders.py`: the columns of a file of comma-separated records are found by
their names, cells are trimmed and made into dates and numbers, and rows that have no date, no SKU
or no quantity are dropped. The map of column names that a caller may pass is not passed by the
service and left out, as are the columns of discounts, channels and categories.

* `Pandas` — how `pandas` makes a date or a number of a text;
* `naValues`, `readCsv` — `pd.read_csv`, and the rows without a cell;
* `normalise`, `resolveColumns` — the names of the columns;
* `detectDayfirst`, `cleanStr`, `locationOrAll`, `toNumeric` — cells;
* `loadSales` — the loader.
-/

namespace Restock.Audit

/-- How `pandas` reads single texts: nothing for one it can make nothing of. -/
structure Pandas where
  /-- `pd.to_datetime`, with the day first or not: nanoseconds since 1970-01-01. -/
  toDatetime : Bool → String → Option ℤ
  /-- `pd.to_numeric`. -/
  toNumeric : String → Option ℚ

/-! ## The file -/

/-- What `str.strip` takes away. -/
def pyBlank (c : Char) : Bool :=
  (9 ≤ c.toNat && c.toNat ≤ 13) || (28 ≤ c.toNat && c.toNat ≤ 32) ||
    (0x2000 ≤ c.toNat && c.toNat ≤ 0x200a) ||
    c.toNat ∈ [0x85, 0xa0, 0x1680, 0x2028, 0x2029, 0x202f, 0x205f, 0x3000]

/-- `str.strip`. -/
def pyStrip (s : String) : String :=
  String.ofList (Csv.strip pyBlank s.toList)

/-- The texts that are read as missing values. -/
def naValues : List String :=
  ["", "#N/A", "#N/A N/A", "#NA", "-1.#IND", "-1.#QNAN", "-NaN", "-nan", "1.#IND", "1.#QNAN",
    "<NA>", "N/A", "NA", "NULL", "NaN", "None", "n/a", "nan", "null"]

/-- A cell as it is read. -/
def readCell (s : String) : Option String :=
  if s ∈ naValues then none else some s

/-- A frame of texts. -/
structure Sheet where
  columns : List String
  rows : List (List (Option String))
  deriving DecidableEq, Repr

/-- Every cell is missing or blank. -/
def isPadding (row : List (Option String)) : Bool :=
  row.all fun cell => cell.all fun s => pyStrip s = ""

/-- `_read_csv`: nothing for a file without a header, or with a row that is longer than it. -/
def readCsv (csv : String) : Option Sheet :=
  match Csv.read csv.toList with
  | some (header :: records) =>
      if records.any fun record => header.length < record.length then none
      else
        some {
          columns := header.map String.ofList
          rows := (records.map fun record => record.map fun t => readCell (String.ofList t)).filter
            fun row => !isPadding row }
  | _ => none

/-! ## Columns -/

/-- Canonical names with their aliases. -/
def SALES_ALIASES : List (String × List String) :=
  [("date", ["date", "order_date", "orderdate", "sale_date", "sales_date", "txn_date",
      "transaction_date", "invoice_date", "day", "created_at", "datetime"]),
    ("sku", ["sku", "matched_sku", "product_code", "productcode", "item", "item_code", "item_no",
      "item_number", "product", "product_id", "article", "variant_sku", "stock_code"]),
    ("location", ["location", "store", "site", "branch", "shop", "warehouse", "outlet",
      "store_name", "location_name"]),
    ("qty", ["qty", "quantity", "units", "qty_sold", "quantity_sold", "units_sold", "net_quantity",
      "no_of_units"]),
    ("unit_price", ["unit_price", "price", "unitprice", "selling_price", "sale_price",
      "price_per_unit", "price_per_item", "item_price", "net_price", "gross_price"]),
    ("discount", ["discount", "discount_amount", "line_discount", "discount_value"]),
    ("order_id", ["order_id", "order", "order_no", "order_number", "orderid", "receipt",
      "receipt_no", "invoice", "invoice_no", "transaction_id", "txn_id", "basket_id"]),
    ("customer_type", ["customer_type", "cust_type", "customer_group", "account_type"]),
    ("line_type", ["line_type", "type", "sale_type", "transaction_type", "row_type"]),
    ("channel", ["channel", "sales_channel", "source"]),
    ("category", ["category", "product_type", "product_category", "dept", "department",
      "product_group", "cat", "brand"])]

/-- The columns a sales file must have. -/
def SALES_REQUIRED : List String :=
  ["date", "sku", "qty"]

/-- Blanks, hyphens and dots, each stretch of them an underscore. -/
def underscored : Bool → List Char → List Char
  | _, [] => []
  | within, c :: rest =>
      if pyBlank c || c = '-' || c = '.' then
        if within then underscored true rest else '_' :: underscored true rest
      else c :: underscored false rest

/-- `_normalise`, of a name that is trimmed and in lower case. -/
def normalise (lowered : String) : String :=
  String.ofList (Csv.strip (fun c => c = '_') (underscored false lowered.toList))

/-- `_resolve_columns`, of the columns with their normalised names: the first match of a canonical
name wins. -/
def resolveColumns (columns : List (String × String)) : List (String × String) :=
  columns.foldl (fun rename column =>
    if column.1 ∈ rename.map Prod.fst then rename
    else
      let free := SALES_ALIASES.find? fun names =>
        names.1 ∉ rename.map Prod.snd ∧ (column.2 = names.1 ∨ column.2 ∈ names.2)
      match free with
      | some names => rename ++ [(column.1, names.1)]
      | none => rename) []

/-- The names of the columns after they were renamed. -/
def renamedColumns (py : Py) (columns : List String) : List String :=
  let rename := resolveColumns (columns.map fun c => (c, normalise (py.lower (pyStrip c))))
  columns.map fun c => (rename.lookup c).getD c

/-- The cell of a row in a column. -/
def cellOf (columns : List String) (row : List (Option String)) (name : String) : Option String :=
  (columns.idxOf? name).bind fun i => row[i]?.join

/-! ## Cells -/

/-- At most some digits at the start of a text, and what follows. -/
def digitsOf (most : ℕ) (t : List Char) : Option (List Char × List Char) :=
  let digits := t.takeWhile Char.isDigit
  if digits ≠ [] ∧ digits.length ≤ most then some (digits, t.dropWhile Char.isDigit) else none

/-- The separators between the numbers of a date. -/
def isDateSeparator (c : Char) : Bool :=
  c = '/' || c = '-' || c = '.'

/-- The first number of a text of the form that `_DMY_RE` matches. -/
def dmyFirst (s : String) : Option ℕ := do
  let (first, rest) ← digitsOf 2 (pyStrip s).toList
  let separator :: rest := rest | none
  let (_, rest) ← digitsOf 2 rest
  let separator' :: rest := rest | none
  let (year, rest) ← digitsOf 4 rest
  if isDateSeparator separator && isDateSeparator separator' && rest.isEmpty &&
      2 ≤ year.length then
    some (first.foldl (fun n c => 10 * n + (c.toNat - '0'.toNat)) 0)
  else none

/-- `_detect_dayfirst`. -/
def detectDayfirst (values : List (Option String)) : Bool :=
  values.any fun value => (value.bind dmyFirst).any fun first => 12 < first

/-- `_clean_str`. -/
def cleanStr (cell : Option String) : Option String :=
  (cell.map pyStrip).filter fun s => s ∉ ["nan", "None"]

/-- A cleaned text that is not blank. -/
def cleanText (cell : Option String) : Option String :=
  (cleanStr cell).filter fun s => s ≠ ""

/-- `_location_or_all`. -/
def locationOrAll (cell : Option String) : String :=
  (cleanText cell).getD "ALL"

/-- A character that `_CURRENCY_RE` removes. -/
def isCurrency (c : Char) : Bool :=
  c ∈ ['£', '$', '€', ','] || pyBlank c

/-- `_to_numeric`. -/
def toNumeric (pd : Pandas) (cell : Option String) : Option ℚ :=
  ((cell.map fun s => String.ofList (s.toList.filter fun c => !isCurrency c)).filter
    fun s => s ∉ ["", "nan", "None"]).bind pd.toNumeric

/-! ## The loader -/

/-- A row as a line, without its label; nothing for one that is dropped. -/
def loadLine (pd : Pandas) (columns : List String) (dayfirst : Bool) (row : List (Option String)) :
    Option TxLine :=
  let cell := cellOf columns row
  match (cell "date").bind (pd.toDatetime dayfirst), toNumeric pd (cell "qty"),
      cleanText (cell "sku") with
  | some date, some qty, some sku =>
      some {
        label := 0
        date
        sku
        location := locationOrAll (cell "location")
        qty
        unitPrice := toNumeric pd (cell "unit_price")
        orderId := cleanText (cell "order_id")
        customerType := cleanText (cell "customer_type")
        lineType := cleanText (cell "line_type") }
  | _, _, _ => none

/-- The lines with their positions as labels. -/
def relabelled (lines : List TxLine) : List TxLine :=
  lines.mapIdx fun i l => { l with label := i }

/-- The labels are the positions. -/
theorem labels_relabelled (lines : List TxLine) :
    (relabelled lines).map TxLine.label = List.range lines.length := by
  refine List.ext_getElem (by simp [relabelled]) fun i hi hi' => ?_
  simp [relabelled]

/-- The frame of the rows under columns with their canonical names. -/
def loadFrame (pd : Pandas) (columns : List String) (rows : List (List (Option String))) :
    TxFrame where
  lines :=
    let dayfirst := detectDayfirst (rows.map fun row => cellOf columns row "date")
    relabelled (rows.filterMap (loadLine pd columns dayfirst))
  hasCustomerType := "customer_type" ∈ columns
  hasLineType := "line_type" ∈ columns
  labels := by
    rw [labels_relabelled]
    exact List.nodup_range

/-- `load_sales`: nothing when the file cannot be read or a required column is missing. -/
def loadSales (py : Py) (pd : Pandas) (csv : String) : Option TxFrame :=
  match readCsv csv with
  | some sheet =>
      let columns := renamedColumns py sheet.columns
      if SALES_REQUIRED.all fun name => name ∈ columns then
        some (loadFrame pd columns sheet.rows)
      else none
  | none => none

/-- A row that is all padding would be dropped for want of a SKU as well. -/
theorem loadLine_of_isPadding {pd : Pandas} {columns : List String} {dayfirst : Bool}
    {row : List (Option String)} (h : isPadding row) : loadLine pd columns dayfirst row = none := by
  have hsku : cleanText (cellOf columns row "sku") = none := by
    cases hcell : cellOf columns row "sku" with
    | none => rfl
    | some s =>
        -- a cell of the row that is there is blank
        rw [cellOf, Option.bind_eq_some_iff] at hcell
        obtain ⟨i, -, hi⟩ := hcell
        rw [Option.join_eq_some_iff] at hi
        have hblank := List.all_eq_true.mp h _ (List.mem_of_getElem? hi)
        rw [Option.all_some, decide_eq_true_iff] at hblank
        rw [cleanText, cleanStr, Option.map_some, hblank]
        rfl
  rw [loadLine, hsku]
  split
  · next h => cases h
  · rfl

end Restock.Audit
