import Mathlib.Data.List.Sort
import Mathlib.Data.PNat.Basic
import Restock.Inventory.Roles
import Restock.Utf16.Numerals

/-!
# Stock by location, a page at a time

`apps/web/lib/data/stock.ts`: the By-location screen of the inventory. It is a list of locations
with their lines; a search keeps some of the lines, one column orders them, and a page shows what
a window over the lines of all locations lets through.

* `matchesLocationLine`, `compareLocationLines` — the search and the order;
* `pageBounds` — the window of a page, from `lib/catalogue/view-model.ts`;
* `getLocationsScreen` — the page, of the locations that were loaded.

Texts are compared by a collation into a linear order, and lower-cased by a parameter.
-/

namespace Restock.Stock

open Json (Text text unit)

/-- `LocationLine`: a product at a location. The date of arrival is left out. -/
structure LocationLine where
  productId : String
  sku : Text
  title : Text
  onHand : ℤ
  /-- Null when the caller cannot view costs. -/
  valueKes : Option ℚ
  /-- Null without a rate of sale, or where the location does not sell. -/
  daysCover : Option ℚ
  oversold : Bool
  onOrderUnits : ℤ
  deriving DecidableEq, Repr

/-- `LocationStock`: a location with its lines. -/
structure LocationStock where
  locationId : String
  name : String
  locationType : Option String
  role : LocationRole
  isPrimary : Bool
  showCover : Bool
  skuCount : ℕ
  unitsOnHand : ℤ
  stockValueKes : Option ℚ
  lines : List LocationLine
  deriving DecidableEq, Repr

/-- `LocationSortKey`. -/
inductive LocationSortKey
  | title
  | sku
  | onHand
  | daysCover
  | onOrderUnits
  | valueKes
  deriving DecidableEq, Repr

/-- `LocationOptionalColumn`: a column that a reader may hide. -/
inductive LocationOptionalColumn
  | sku
  | daysCover
  | onOrderUnits
  | valueKes
  deriving DecidableEq, Repr

/-- `LocationsQuery`: the state of the screen. -/
structure LocationsQuery where
  search : Text
  /-- Pages are counted from zero. -/
  page : ℤ
  sortKey : LocationSortKey
  desc : Bool
  hidden : List LocationOptionalColumn
  pageSize : ℕ+
  deriving DecidableEq, Repr

/-! ## The search and the order -/

/-- `matchesLocationLine`: every word of the search is found in the title and SKU. -/
def matchesLocationLine (toLowerCase : Text → Text) (line : LocationLine) (search : Text) : Bool :=
  let terms := Utf16.words (toLowerCase search)
  if terms.isEmpty then true
  else
    let text := toLowerCase (line.title ++ [unit ' '] ++ line.sku)
    terms.all fun t => decide (t <:+: text)

section Compare

variable {K : Type} [LinearOrder K] (collate : Text → K)

/-- `a.localeCompare(b)`. -/
def localeCompare (a b : Text) : ℚ :=
  if collate a < collate b then -1 else if collate b < collate a then 1 else 0

/-- `(av - bv) * dir`, with nulls last in both directions. -/
def compareFigures (dir : ℚ) : Option ℚ → Option ℚ → ℚ
  | none, none => 0
  | none, some _ => 1
  | some _, none => -1
  | some av, some bv => (av - bv) * dir

/-- `compareLocationLines`: two lines by one column. -/
def compareLocationLines (a b : LocationLine) (key : LocationSortKey) (desc : Bool) : ℚ :=
  let dir : ℚ := if desc then -1 else 1
  match key with
  | .title => localeCompare collate a.title b.title * dir
  | .sku => localeCompare collate a.sku b.sku * dir
  | .onHand => compareFigures dir (some a.onHand) (some b.onHand)
  | .daysCover => compareFigures dir a.daysCover b.daysCover
  | .onOrderUnits => compareFigures dir (some a.onOrderUnits) (some b.onOrderUnits)
  | .valueKes => compareFigures dir a.valueKes b.valueKes

/-- One line does not come after another. -/
def NotAfter (key : LocationSortKey) (desc : Bool) (a b : LocationLine) : Prop :=
  compareLocationLines collate a b key desc ≤ 0

instance (key : LocationSortKey) (desc : Bool) : DecidableRel (NotAfter collate key desc) :=
  fun a b => inferInstanceAs (Decidable (compareLocationLines collate a b key desc ≤ 0))

end Compare

/-! ## The screen -/

/-- `pageBounds`: how many pages there are, the page that is shown and where it starts. -/
structure PageBounds where
  pageCount : ℕ
  current : ℕ
  start : ℕ
  deriving DecidableEq, Repr

/-- `pageBounds`: a page past the end is the last one. -/
def pageBounds (matchedCount : ℕ) (page : ℤ) (size : ℕ+) : PageBounds :=
  let pageCount := max 1 ((matchedCount + (size - 1)) / size)
  let current := min (max 0 page).toNat (pageCount - 1)
  { pageCount, current, start := current * size }

/-- `LocationPageStock`: a location as a page shows it, with the lines inside the window. -/
structure LocationPageStock extends LocationStock where
  /-- The lines here that match the search. -/
  matchedLines : ℕ
  /-- `from`: the place of the first line shown, counted from one. -/
  fromLine : ℕ
  deriving DecidableEq, Repr

/-- `LocationsScreen`. -/
structure LocationsScreen where
  locations : List LocationPageStock
  pageCount : ℕ
  page : ℕ
  /-- `from` and `to`: the first and last line on screen, counted from one. -/
  fromLine : ℕ
  toLine : ℕ
  matched : ℕ
  total : ℕ
  empty : Bool
  deriving DecidableEq, Repr

/-- `searched`: the lines of a location that match the search, in order. -/
def searchedLines (toLowerCase : Text → Text) {K : Type} [LinearOrder K] (collate : Text → K)
    (query : LocationsQuery) (location : LocationStock) : List LocationLine :=
  (if query.search.isEmpty then location.lines
    else location.lines.filter fun line => matchesLocationLine toLowerCase line query.search)
    |>.insertionSort (NotAfter collate query.sortKey query.desc)

/-- The card of a location on the page from `start` to `stop`, when `cursor` lines stand before its
own. -/
def pageCard (noSearch : Bool) (matched start stop cursor : ℕ) (location : LocationStock)
    (lines : List LocationLine) : Option LocationPageStock :=
  let first := max start cursor
  let last := min stop (cursor + lines.length)
  if first < last then
    some { location with
      lines := (lines.take (last - cursor)).drop (first - cursor)
      matchedLines := lines.length
      fromLine := first - cursor + 1 }
  -- a location that holds nothing takes no room, and is pinned to the page of its place
  else if lines.length = 0 && noSearch && start ≤ cursor && (cursor < stop || matched ≤ stop) then
    some { location with lines := [], matchedLines := 0, fromLine := 1 }
  else none

/-- The loop over `searched`: the cards of a page. -/
def pageCards (noSearch : Bool) (matched start stop : ℕ) :
    ℕ → List (LocationStock × List LocationLine) → List LocationPageStock
  | _, [] => []
  | cursor, (location, lines) :: rest =>
      (pageCard noSearch matched start stop cursor location lines).toList ++
        pageCards noSearch matched start stop (cursor + lines.length) rest

/-- `getLocationsScreen`, of the locations that `getStockByLocation` loads. -/
def getLocationsScreen (toLowerCase : Text → Text) {K : Type} [LinearOrder K] (collate : Text → K)
    (locations : List LocationStock) (query : LocationsQuery) : LocationsScreen :=
  let searched := locations.map fun location =>
    (location, searchedLines toLowerCase collate query location)
  let total := (locations.map fun l => l.lines.length).sum
  let matched := (searched.map fun s => s.2.length).sum
  let bounds := pageBounds matched query.page query.pageSize
  let stop := bounds.start + query.pageSize
  { locations := pageCards query.search.isEmpty matched bounds.start stop 0 searched
    pageCount := bounds.pageCount
    page := bounds.current
    fromLine := if matched = 0 then 0 else bounds.start + 1
    toLine := min stop matched
    matched
    total
    empty := locations.isEmpty }

end Restock.Stock
