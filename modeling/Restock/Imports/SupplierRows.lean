import Mathlib.Data.List.Sort
import Restock.Imports.Costs

/-!
# The rows of a supplier file

How the supplier import reads its columns and the cells of a row (`lib/suppliers/import.ts`). Cells
are validated, not coerced: a row with a cell that cannot be read is invalid, and says why.

* `mapSupplierHeaders` — where the columns stand, the longest names first;
* `parseIntCell` — a whole number within bounds, nothing for a blank cell;
* `readRow` — what a row asks to be written, or a note about it.
-/

namespace Restock.Imports

open Json Utf16 Series

/-! ## Columns -/

/-- `Field`, in the order of `FIELDS`. -/
inductive SupplierField
  | name
  | email
  | country
  | currency
  | supplierGroup
  | leadTimeAvgDays
  | leadTimeStdDays
  | moq
  | notes
deriving DecidableEq

/-- `HEADER_ALIASES`. -/
def SupplierField.aliases : SupplierField → List String
  | .name => ["name", "supplier", "supplier name", "vendor", "company", "display name"]
  | .email => ["email", "e mail", "contact email", "contact"]
  | .country => ["country", "origin"]
  | .currency => ["currency", "ccy", "currency code"]
  | .supplierGroup => ["group", "supplier group", "category", "tag"]
  | .leadTimeAvgDays => ["lead time", "lead time days", "lead time avg days", "lead days",
      "avg lead time", "average lead time", "leadtimeavgdays"]
  | .leadTimeStdDays => ["lead time variability", "lead time std days", "lead std", "lead time std",
      "variability", "leadtimestddays"]
  | .moq => ["moq", "minimum order", "min order", "minimum order quantity", "min qty"]
  | .notes => ["notes", "note", "comment", "comments"]

/-- `FIELDS`. -/
def supplierFields : List SupplierField :=
  [.name, .email, .country, .currency, .supplierGroup, .leadTimeAvgDays, .leadTimeStdDays, .moq,
    .notes]

/-- A candidate of the loop of `mapHeaders`: the columns found so far, and the headers that are
claimed. -/
def claimHeader (norms : List Text) (acc : List (SupplierField × ℕ) × List ℕ)
    (candidate : SupplierField × Text) : List (SupplierField × ℕ) × List ℕ :=
  if (acc.1.lookup candidate.1).isSome then acc
  else
    match norms.zipIdx.find? fun n => n.2 ∉ acc.2 ∧ n.1 = candidate.2 with
    | none => acc
    | some n => (setEntry acc.1 candidate.1 n.2, n.2 :: acc.2)

/-- `mapHeaders` of the supplier import. Longest alias first, so "lead time std days" is not claimed
by "lead time". -/
def mapSupplierHeaders (js : Js) (headerRow : List Text) : List (SupplierField × ℕ) :=
  let candidates := (supplierFields.flatMap fun field =>
      field.aliases.map fun a => (field, text a)).insertionSort
    fun a b => b.2.length ≤ a.2.length
  (candidates.foldl (claimHeader (headerRow.map (normHeader js))) ([], [])).1

/-- The field of a row under a column, trimmed. -/
def getSupplierField (js : Js) (headerRow row : List Text) (field : SupplierField) : Option Text :=
  ((mapSupplierHeaders js headerRow).lookup field).bind fun idx => row[idx]?.map trim

/-! ## Cells -/

/-- `IMPORT_CURRENCIES`: the set the hand-add form accepts. -/
def importCurrencies : List Text := [text "KES", text "USD", text "CNY", text "AED"]

/-- `normaliseCurrency`. -/
def normaliseCurrency (js : Js) (raw : Text) : Option Text :=
  let code := js.toUpperCase (trim raw)
  if code = [] then none else if code ∈ importCurrencies then some code else none

/-- `emptyToNull`. -/
def emptyToNull (value : Option Text) : Option Text := orNull (value.map trim)

/-- Digits, and a fraction of zeros or none: `^[0-9]+(\.0+)?$`. -/
def isWholeNumber (t : Text) : Bool :=
  let fraction := t.dropWhile (· ≠ unit '.')
  isDigits (t.takeWhile (· ≠ unit '.')) &&
    (fraction = [] || fraction.tail ≠ [] && fraction.tail.all (· = unit '0'))

/-- `parseIntCell`: a blank cell means "not given", not zero. -/
def parseIntCell (raw : Option Text) (min max : ℕ) : Except Text (Option ℤ) :=
  let t := trim (raw.getD [])
  if t = [] then .ok none
  else
    let digits := t.filter (· ≠ unit ',')
    let notWhole : Except Text (Option ℤ) :=
      .error (text "\"" ++ t ++ text "\" isn't a whole number.")
    if !isWholeNumber digits then notWhole
    else
      match parseFloat digits with
      | none => notWhole
      | some v =>
          let n := ⌊v + 1 / 2⌋
          if n < min ∨ max < n then
            .error (text ("should be between " ++ toString min ++ " and " ++ toString max ++ "."))
          else .ok (some n)

/-! ## Rows -/

/-- `SupplierWriteData`: every optional field is none when the file didn't give it. -/
structure SupplierWriteData where
  name : Text
  email : Option Text
  country : Option Text
  currency : Option Text
  supplierGroup : Option Text
  notes : Option Text
  leadTimeAvgDays : Option ℤ
  leadTimeStdDays : Option ℤ
  moq : Option ℤ

/-- A number of a row, its complaint after the name of its column. -/
def intField (label : String) (cell : Except Text (Option ℤ)) : Except Text (Option ℤ) :=
  cell.mapError (text label ++ ·)

/-- The name in a row. -/
def rowName (js : Js) (headerRow row : List Text) : Text :=
  trim ((getSupplierField js headerRow row .name).getD [])

/-- What a row asks to be written, or why it is invalid: the checks of the loop of
`previewSupplierImport`, in their order. -/
def readRow (js : Js) (headerRow row : List Text) : Except Text SupplierWriteData :=
  let get := getSupplierField js headerRow row
  let name := rowName js headerRow row
  let currencyCell := orNull (get .currency)
  let currency := currencyCell.bind (normaliseCurrency js)
  if name = [] then .error (text "No supplier name in this row.")
  else if 200 < name.length then .error (text "Supplier name is too long (200 characters max).")
  else if currencyCell.isSome ∧ currency = none then
    .error (text "Currency \"" ++ currencyCell.getD [] ++ text "\" isn't one of " ++
      [unit ',', unit ' '].intercalate importCurrencies ++ text ".")
  else do
    let lead ← intField "Lead time " (parseIntCell (get .leadTimeAvgDays) 0 365)
    let std ← intField "Lead-time variability " (parseIntCell (get .leadTimeStdDays) 0 180)
    let moq ← intField "Minimum order quantity " (parseIntCell (get .moq) 1 1000000)
    return {
      name
      email := emptyToNull (get .email)
      country := emptyToNull (get .country)
      currency
      supplierGroup := emptyToNull (get .supplierGroup)
      notes := emptyToNull (get .notes)
      leadTimeAvgDays := lead
      leadTimeStdDays := std
      moq }

/-- The short "lead time" alias does not claim the variability column, and a fraction of zeros is a
whole number. -/
example : (readRow Js.ascii
      [text "Lead_Time Variability", text "Vendor", text "lead time", text "CCY"]
      [text "3.0", text " Acme ", text "1,4", text "kes"]).toOption.map
        (fun d => (d.name, d.leadTimeAvgDays, d.leadTimeStdDays, d.currency)) =
    some (text "Acme", some 14, some 3, some (text "KES")) := by
  decide +kernel

/-- What follows a step that may fail succeeds only after it has. -/
theorem exists_of_bind_eq_ok {ε α β : Type} {x : Except ε α} {f : α → Except ε β} {b : β}
    (h : x >>= f = .ok b) : ∃ a, x = .ok a ∧ f a = .ok b := by
  cases x with
  | error e => cases h
  | ok a => exact ⟨a, rfl, h⟩

/-- A row that is valid asks for its name to be written, which is not empty. -/
theorem readRow_name {js : Js} {headerRow row : List Text} {data : SupplierWriteData}
    (h : readRow js headerRow row = .ok data) :
    data.name = rowName js headerRow row ∧ data.name ≠ [] := by
  rw [readRow] at h
  split_ifs at h with hname
  obtain ⟨lead, -, h⟩ := exists_of_bind_eq_ok h
  obtain ⟨std, -, h⟩ := exists_of_bind_eq_ok h
  obtain ⟨moq, -, h⟩ := exists_of_bind_eq_ok h
  injection h with hdata
  subst hdata
  dsimp only
  exact ⟨Eq.refl _, hname⟩

end Restock.Imports
