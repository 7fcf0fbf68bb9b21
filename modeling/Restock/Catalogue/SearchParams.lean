import Restock.Floats.Nearest
import Restock.Forms.Urlencoded
import Restock.Utf16.Numerals

/-!
# The catalogue screen's state, as the URL

`apps/web/lib/catalogue/search-params.ts`: what the reader chose on the catalogue screen is read from
the parameters of a URL, and written to one.

* `RawSearchParams`, `paramsOf` — parameters as a page gets them: absent, single or repeated;
* `CatalogueQuery`, `parseCatalogueQuery` — the state, and how it is read;
* `catalogueQueryToSearch`, `catalogueQueryFields` — how it is written, as a URL and as the hidden
  fields of the search form.

Numbers are doubles: their texts are a parameter, with what the runtime keeps about them.
-/

namespace Restock.Catalogue

open Json (Text text unit)

/-! ## Numbers and their texts -/

/-- `String` of a whole number and `Number` of a text, which is none for what is not finite. -/
structure Numerals where
  ofNumber : ℤ → Text
  toNumber : Text → Option ℚ
  /-- A double is read back. -/
  toNumber_ofNumber : ∀ q n : ℤ, Floats.nearestWhole q = some n →
    toNumber (ofNumber n) = some (n : ℚ)
  ofNumber_one : ofNumber 1 = text "1"
  ofNumber_ascii : ∀ n, ∀ u ∈ ofNumber n, u < 0x80
  toNumber_infinity : toNumber (text "Infinity") = none

/-- A whole number in plain decimal digits. -/
def plainText (n : ℤ) : Text :=
  if n < 0 then unit '-' :: Utf16.decimal n.natAbs else Utf16.decimal n.natAbs

/-- The whole number of plain decimal digits. -/
def plainNumber : Text → Option ℚ
  | [] => some 0
  | u :: digits =>
      if u = unit '-' then some (-(Utf16.digitsValue digits : ℚ))
      else if Json.isDigit u then some (Utf16.digitsValue (u :: digits) : ℚ)
      else none

/-- Plain digits are read back. -/
theorem plainNumber_plainText (n : ℤ) : plainNumber (plainText n) = some (n : ℚ) := by
  rw [plainText]
  split
  · next hneg =>
      rw [plainNumber, if_pos rfl, Utf16.digitsValue_decimal, Nat.cast_natAbs, abs_of_neg hneg,
        Int.cast_neg, neg_neg]
  · next hpos =>
      have hvalue : (Utf16.digitsValue (Utf16.decimal n.natAbs) : ℚ) = n := by
        rw [Utf16.digitsValue_decimal, Nat.cast_natAbs, abs_of_nonneg (not_lt.mp hpos)]
      cases hdigits : Utf16.decimal n.natAbs with
      | nil => exact absurd hdigits (Utf16.decimal_ne_nil _)
      | cons u digits =>
          have hu := Utf16.isDigit_of_mem_decimal u (hdigits ▸ List.mem_cons_self)
          rw [plainNumber, if_neg (Utf16.lt_of_isDigit hu).2, if_pos hu, ← hdigits, hvalue]

/-- Plain digits are ASCII. -/
theorem lt_of_mem_plainText (n : ℤ) : ∀ u ∈ plainText n, u < 0x80 := by
  intro u hu
  have hdecimal : u ∈ Utf16.decimal n.natAbs → u < 0x80 := fun hu =>
    (Utf16.lt_of_isDigit (Utf16.isDigit_of_mem_decimal u hu)).1
  rw [plainText] at hu
  split at hu
  · rcases List.mem_cons.mp hu with rfl | hu
    · decide
    · exact hdecimal hu
  · exact hdecimal hu

/-- Plain decimal digits, which is how a runtime writes whole numbers of up to 15 of them. -/
def Numerals.plain : Numerals where
  ofNumber := plainText
  toNumber := plainNumber
  toNumber_ofNumber _ n _ := plainNumber_plainText n
  ofNumber_one := by decide
  ofNumber_ascii := lt_of_mem_plainText
  toNumber_infinity := by decide

/-- `String(page + 1)`: pages are counted from one in a URL. -/
def pageText (numerals : Numerals) (page : ℤ) : Text :=
  match Floats.nearestWhole (page + 1) with
  | some n => numerals.ofNumber n
  | none => text "Infinity"

/-- The page of a parameter, the first one when it is no number from one up. -/
def parsePage (numerals : Numerals) (param : Option Text) : ℤ :=
  match numerals.toNumber (param.getD (text "1")) with
  | some page => if 1 ≤ page then (Floats.nearestWhole (⌊page⌋ - 1)).getD 0 else 0
  | none => 0

/-! ## Parameters -/

/-- What a page is handed for a parameter that is there: a single value, or repeated ones. -/
inductive RawValue
  | single (value : Text)
  | repeated (values : List Text)
  deriving DecidableEq, Repr

/-- `RawSearchParams`. -/
abbrev RawSearchParams : Type := Text → Option RawValue

/-- `all`: the values of a parameter. -/
def all (params : RawSearchParams) (key : Text) : List Text :=
  match params key with
  | none => []
  | some (.single value) => [value]
  | some (.repeated values) => values

/-- `one`: its first value. -/
def one (params : RawSearchParams) (key : Text) : Option Text := (all params key).head?

/-- The values of the entries of a name. -/
def values (key : Text) (entries : List (Text × Text)) : List Text :=
  (entries.filter fun entry => entry.1 = key).map Prod.snd

/-- The parameters of entries: a name that is there once has a single value. -/
def paramsOf (entries : List (Text × Text)) : RawSearchParams := fun key =>
  match values key entries with
  | [] => none
  | [value] => some (.single value)
  | values => some (.repeated values)

/-- The value of a list that a parameter names. -/
def named {α : Type} (known : List α) (name : α → Text) (param : Option Text) : Option α :=
  known.find? fun a => some (name a) = param

/-! ## The state -/

/-- `Scope`. -/
inductive Scope
  | selling
  | notSelling
  | all
  deriving DecidableEq, Repr

/-- A scope as it is spelled. -/
def Scope.name : Scope → Text
  | .selling => text "selling"
  | .notSelling => text "not_selling"
  | .all => text "all"

/-- `SCOPES`. -/
def SCOPES : List Scope := [.selling, .notSelling, .all]

/-- `FacetKey`, from `lib/facets/types.ts`. -/
inductive FacetKey
  | brand
  | productType
  | category
  | supplier
  | supplierGroup
  | speedBand
  | abc
  | health
  deriving DecidableEq, Repr

/-- A facet as it is spelled. -/
def FacetKey.name : FacetKey → Text
  | .brand => text "brand"
  | .productType => text "productType"
  | .category => text "category"
  | .supplier => text "supplier"
  | .supplierGroup => text "supplierGroup"
  | .speedBand => text "speedBand"
  | .abc => text "abc"
  | .health => text "health"

/-- `FACET_KEYS`. -/
def FACET_KEYS : List FacetKey :=
  [.brand, .productType, .category, .supplier, .supplierGroup, .speedBand, .abc, .health]

/-- `MoneyBandFilter`. -/
inductive MoneyBandFilter
  | deadOverstock
  | revenueAtRisk
  | belowCost
  deriving DecidableEq, Repr

/-- A money filter as it is spelled. -/
def MoneyBandFilter.name : MoneyBandFilter → Text
  | .deadOverstock => text "dead_overstock"
  | .revenueAtRisk => text "revenue_at_risk"
  | .belowCost => text "below_cost"

/-- `MONEY_FILTERS`. -/
def MONEY_FILTERS : List MoneyBandFilter := [.deadOverstock, .revenueAtRisk, .belowCost]

/-- `SortKey`. -/
inductive SortKey
  | title
  | supplierName
  | leadDays
  | onHandUnits
  | warehouseUnits
  | onOrderUnits
  | runRate
  | daysCover
  | revenue30dKes
  | abc
  | costKes
  | moneyAtRestKes
  | marginPct
  deriving DecidableEq, Repr

/-- A column as it is spelled. -/
def SortKey.name : SortKey → Text
  | .title => text "title"
  | .supplierName => text "supplierName"
  | .leadDays => text "leadDays"
  | .onHandUnits => text "onHandUnits"
  | .warehouseUnits => text "warehouseUnits"
  | .onOrderUnits => text "onOrderUnits"
  | .runRate => text "runRate"
  | .daysCover => text "daysCover"
  | .revenue30dKes => text "revenue30dKes"
  | .abc => text "abc"
  | .costKes => text "costKes"
  | .moneyAtRestKes => text "moneyAtRestKes"
  | .marginPct => text "marginPct"

/-- `SORT_KEYS`. -/
def SORT_KEYS : List SortKey :=
  [.title, .supplierName, .leadDays, .onHandUnits, .warehouseUnits, .onOrderUnits, .runRate,
    .daysCover, .revenue30dKes, .abc, .costKes, .moneyAtRestKes, .marginPct]

/-- `CatalogueQuery`: everything the screen filters and sorts by. -/
structure CatalogueQuery where
  scope : Scope
  /-- A facet that is not there has no values chosen. -/
  selection : FacetKey → Option (List Text)
  healthFilter : Option Text
  moneyFilter : Option MoneyBandFilter
  search : Text
  sortKey : SortKey
  desc : Bool
  /-- Pages are counted from zero. -/
  page : ℤ

/-- `DEFAULT_QUERY`: the screen as it is opened. -/
def DEFAULT_QUERY : CatalogueQuery where
  scope := .selling
  selection _ := none
  healthFilter := none
  moneyFilter := none
  search := []
  sortKey := .title
  desc := false
  page := 0

/-- `SEARCH_MAX`. -/
def SEARCH_MAX : ℕ := 120

/-- The parameter of a facet. -/
def facetParam (key : FacetKey) : Text := text "f." ++ key.name

/-- The search of a parameter, trimmed and cut. -/
def parseSearch (param : Option Text) : Text := (Utf16.trim (param.getD [])).take SEARCH_MAX

/-- `parseCatalogueQuery`. -/
def parseCatalogueQuery (numerals : Numerals) (params : RawSearchParams) : CatalogueQuery where
  scope := (named SCOPES Scope.name (one params (text "scope"))).getD DEFAULT_QUERY.scope
  selection key :=
    let values := (all params (facetParam key)).filter fun v => !v.isEmpty
    if values.isEmpty then none else some values
  healthFilter := (one params (text "issue")).filter fun issue => !issue.isEmpty
  search := parseSearch (one params (text "q"))
  moneyFilter := named MONEY_FILTERS MoneyBandFilter.name (one params (text "money"))
  sortKey := (named SORT_KEYS SortKey.name (one params (text "sort"))).getD
    DEFAULT_QUERY.sortKey
  desc := one params (text "dir") = some (text "desc")
  page := parsePage numerals (one params (text "page"))

/-! ## The URL -/

/-- `if (given) out.set(key, value)`, of a name that is not there yet. -/
def setIf (given : Bool) (key value : Text) : List (Text × Text) :=
  if given then [(key, value)] else []

/-- `out.append(key, value)`, value after value. -/
def appendAll (key : Text) (values : List Text) : List (Text × Text) :=
  values.map fun value => (key, value)

/-- The entries that `catalogueQueryToSearch` puts into its `URLSearchParams`. -/
def catalogueEntries (numerals : Numerals) (q : CatalogueQuery) : List (Text × Text) :=
  setIf (q.scope ≠ DEFAULT_QUERY.scope) (text "scope") q.scope.name ++
    FACET_KEYS.flatMap (fun key => appendAll (facetParam key) ((q.selection key).getD [])) ++
    setIf (!q.search.isEmpty) (text "q") q.search ++
    setIf (!(q.healthFilter.getD []).isEmpty) (text "issue") (q.healthFilter.getD []) ++
    q.moneyFilter.elim [] (fun money => setIf true (text "money") money.name) ++
    setIf (q.sortKey ≠ DEFAULT_QUERY.sortKey) (text "sort") q.sortKey.name ++
    setIf q.desc (text "dir") (text "desc") ++
    setIf (0 < q.page) (text "page") (pageText numerals q.page)

/-- A form as the query of a URL, nothing when it is empty. -/
def toSearch (entries : List (Text × Text)) : Text :=
  let s := Forms.serialize entries
  if s.isEmpty then [] else unit '?' :: s

/-- `catalogueQueryToSearch`. -/
def catalogueQueryToSearch (numerals : Numerals) (q : CatalogueQuery) : Text :=
  toSearch (catalogueEntries numerals q)

/-- `catalogueQueryFields`: the names and values of the hidden fields of the search form. -/
def catalogueQueryFields (numerals : Numerals) (q : CatalogueQuery) : List (Text × Text) :=
  Forms.parse (Forms.dropQuestionMark
    (catalogueQueryToSearch numerals { q with search := [], page := 0 }))

/-- The parameters of a search form that is sent: its hidden fields and the text of its box. -/
def postedParams (fields : List (Text × Text)) (search : Text) : RawSearchParams :=
  paramsOf (Forms.parse (Forms.serialize (fields ++ [(text "q", search)])))

end Restock.Catalogue
