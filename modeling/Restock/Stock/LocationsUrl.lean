import Restock.Catalogue.RoundTrip
import Restock.Stock.Locations

/-!
# The By-location screen's state, as the URL

`apps/web/lib/data/stock.ts`: the state of the By-location screen is read from the parameters of a
URL and written to one. The search and the page are the catalogue's parameters, the others its own.
The state of both screens is read back from the URL that is written for it, and from the search
form.

* `parseLocationsQuery` — how it is read;
* `locationsQueryToSearch`, `locationsQueryFields` — how it is written, as a URL and as the hidden
  fields of the search form;
* `parseLocationsQuery_eq` — the query that is read, from the values of its names;
* `SurvivesUrl`, `survivesUrl_iff` — state comes back exactly when no text has a surrogate without
  the other one and the pages are steady;
* `not_survivesUrl` — a search that was cut between two surrogates does not.
-/

namespace Restock.Stock

open Catalogue
open Json (Text text unit)
open Utf16 (Paired repair)

/-- A column as it is spelled. -/
def LocationSortKey.name : LocationSortKey → Text
  | .title => text "title"
  | .sku => text "sku"
  | .onHand => text "onHand"
  | .daysCover => text "daysCover"
  | .onOrderUnits => text "onOrderUnits"
  | .valueKes => text "valueKes"

/-- `LOCATION_SORT_KEYS`. -/
def LOCATION_SORT_KEYS : List LocationSortKey :=
  [.title, .sku, .onHand, .daysCover, .onOrderUnits, .valueKes]

/-- `LOCATION_PAGE_SIZES`. -/
def LOCATION_PAGE_SIZES : List ℕ+ := [50, 100, 200]

/-- A column as it is spelled. -/
def LocationOptionalColumn.name : LocationOptionalColumn → Text
  | .sku => text "sku"
  | .daysCover => text "daysCover"
  | .onOrderUnits => text "onOrderUnits"
  | .valueKes => text "valueKes"

/-- `LOCATION_OPTIONAL_COLUMNS`. -/
def LOCATION_OPTIONAL_COLUMNS : List LocationOptionalColumn :=
  [.sku, .daysCover, .onOrderUnits, .valueKes]

/-- `PAGE_SIZE`, from `lib/catalogue/view-model.ts`. -/
def PAGE_SIZE : ℕ+ := 50

/-- The columns that a parameter hides: names with commas between them, in single or repeated
values. -/
def parseHidden (hideRaw : Option RawValue) : List LocationOptionalColumn :=
  let hide := match hideRaw with
    | some (.repeated values) => values
    | some (.single value) => if value.isEmpty then [] else [value]
    | none => []
  ((hide.flatMap fun v => v.splitOn (unit ',')).filterMap fun v =>
    named LOCATION_OPTIONAL_COLUMNS LocationOptionalColumn.name (some v)).eraseDups

/-- The page size of a parameter, when it is one that is offered. -/
def parsePageSize (numerals : Numerals) (sizeRaw : Option Text) : ℕ+ :=
  ((sizeRaw.bind numerals.toNumber).bind fun size =>
    LOCATION_PAGE_SIZES.find? fun n : ℕ+ => ((n : ℕ) : ℚ) = size).getD PAGE_SIZE

/-- `parseLocationsQuery`. -/
def parseLocationsQuery (numerals : Numerals) (params : RawSearchParams) : LocationsQuery :=
  let q := parseCatalogueQuery numerals params
  { search := q.search
    page := q.page
    sortKey := (named LOCATION_SORT_KEYS LocationSortKey.name
      (one params (text "lsort"))).getD .onHand
    desc := one params (text "ldir") ≠ some (text "asc")
    hidden := parseHidden (params (text "hide"))
    pageSize := parsePageSize numerals (one params (text "per")) }

/-- The entries that `locationsQueryToSearch` puts into its `URLSearchParams`. -/
def locationsEntries (numerals : Numerals) (q : LocationsQuery) : List (Text × Text) :=
  setIf (!q.search.isEmpty) (text "q") q.search ++
    setIf (0 < q.page) (text "page") (pageText numerals q.page) ++
    setIf (q.sortKey ≠ .onHand) (text "lsort") q.sortKey.name ++
    setIf (!q.desc) (text "ldir") (text "asc") ++
    setIf (q.pageSize ≠ PAGE_SIZE) (text "per") (numerals.ofNumber q.pageSize) ++
    appendAll (text "hide")
      ((LOCATION_OPTIONAL_COLUMNS.filter fun column => column ∈ q.hidden).map
        LocationOptionalColumn.name)

/-- `locationsQueryToSearch`. -/
def locationsQueryToSearch (numerals : Numerals) (q : LocationsQuery) : Text :=
  toSearch (locationsEntries numerals q)

/-- `locationsQueryFields`: the names and values of the hidden fields of the search form. -/
def locationsQueryFields (numerals : Numerals) (q : LocationsQuery) : List (Text × Text) :=
  Forms.parse (Forms.dropQuestionMark
    (locationsQueryToSearch numerals { q with search := [], page := 0 }))

/-! ## The locations query that is read -/

/-- A query in canonical form. -/
structure LocationsQuery.Canonical (q : LocationsQuery) : Prop where
  search : CanonicalSearch q.search
  page_nonneg : 0 ≤ q.page
  hidden : q.hidden.Sublist LOCATION_OPTIONAL_COLUMNS
  pageSize : q.pageSize ∈ LOCATION_PAGE_SIZES

/-- The columns that are hidden by the values of a parameter, single or repeated. -/
theorem parseHidden_eq (params : RawSearchParams) (key : Text) :
    parseHidden (params key) =
      (((all params key).flatMap fun v => v.splitOn (unit ',')).filterMap fun v =>
        named LOCATION_OPTIONAL_COLUMNS LocationOptionalColumn.name (some v)).eraseDups := by
  unfold parseHidden all
  cases params key with
  | none => rfl
  | some raw =>
      cases raw with
      | repeated values => rfl
      | single value =>
          cases value with
          | nil => decide
          | cons u t => rfl

/-- Columns in the order they are declared in are read back. -/
theorem read_hidden {hidden : List LocationOptionalColumn}
    (h : hidden.Sublist LOCATION_OPTIONAL_COLUMNS) :
    (((((LOCATION_OPTIONAL_COLUMNS.filter fun column => column ∈ hidden).map
        LocationOptionalColumn.name).flatMap fun v => v.splitOn (unit ',')).filterMap fun v =>
          named LOCATION_OPTIONAL_COLUMNS LocationOptionalColumn.name (some v)).eraseDups) =
      hidden := by
  have hall : ∀ columns ∈ LOCATION_OPTIONAL_COLUMNS.sublists,
      (((((LOCATION_OPTIONAL_COLUMNS.filter fun column => column ∈ columns).map
        LocationOptionalColumn.name).flatMap fun v => v.splitOn (unit ',')).filterMap fun v =>
          named LOCATION_OPTIONAL_COLUMNS LocationOptionalColumn.name (some v)).eraseDups) =
        columns := by
    decide +kernel
  exact hall hidden (List.mem_sublists.mpr h)

variable {numerals : Numerals} {q : LocationsQuery}

variable (numerals) in
/-- An offered page size is read back. -/
theorem read_pageSize (h : q.pageSize ∈ LOCATION_PAGE_SIZES) :
    parsePageSize numerals
        (if q.pageSize ≠ PAGE_SIZE then some (numerals.ofNumber q.pageSize) else none) =
      q.pageSize := by
  have hexact : ∀ n : ℕ+, n ∈ LOCATION_PAGE_SIZES →
      numerals.toNumber (numerals.ofNumber n) = some ((n : ℕ) : ℚ) := by
    intro n hn
    have hle : ((n : ℕ) : ℤ) ≤ 2 ^ 53 := by
      simp only [LOCATION_PAGE_SIZES, List.mem_cons, List.not_mem_nil, or_false] at hn
      rcases hn with rfl | rfl | rfl <;> decide
    have := numerals.toNumber_ofNumber _ _ (Floats.nearestWhole_of_le (by positivity) hle)
    exact_mod_cast this
  rw [parsePageSize]
  by_cases hdefault : q.pageSize = PAGE_SIZE
  · simp [hdefault]
  · rw [if_pos hdefault, Option.bind_some, hexact _ h, Option.bind_some]
    generalize q.pageSize = n at h
    simp only [LOCATION_PAGE_SIZES, List.mem_cons, List.not_mem_nil, or_false] at h
    rcases h with rfl | rfl | rfl <;> decide +kernel

/-- The values of a name in the URL of a query. -/
theorem values_locationsEntries (key : Text) :
    values key (locationsEntries numerals q) =
      values key (setIf (!q.search.isEmpty) (text "q") q.search) ++
      values key (setIf (0 < q.page) (text "page") (pageText numerals q.page)) ++
      values key (setIf (q.sortKey ≠ .onHand) (text "lsort") q.sortKey.name) ++
      values key (setIf (!q.desc) (text "ldir") (text "asc")) ++
      values key (setIf (q.pageSize ≠ PAGE_SIZE) (text "per") (numerals.ofNumber q.pageSize)) ++
      values key (appendAll (text "hide")
        ((LOCATION_OPTIONAL_COLUMNS.filter fun column => column ∈ q.hidden).map
          LocationOptionalColumn.name)) := by
  simp only [locationsEntries, values_append]

/-- The query that is read of parameters with the values that a URL of a query has for every name
but the search. -/
theorem parseLocationsQuery_eq (hq : q.Canonical) {params : RawSearchParams}
    (hall : ∀ key, key ≠ text "q" → all params key = values key (locationsEntries numerals q)) :
    parseLocationsQuery numerals params =
      { q with
        search := parseSearch (one params (text "q"))
        page := reread numerals q.page } := by
  have hone : ∀ key, key ≠ text "q" → one params key =
      (values key (locationsEntries numerals q)).head? := fun key hkey => by
    rw [one, hall key hkey]
  have hsort : (named LOCATION_SORT_KEYS LocationSortKey.name
      (one params (text "lsort"))).getD .onHand = q.sortKey := by
    rw [hone _ (by decide), values_locationsEntries]
    simp +decide only [values_setIf, values_appendAll, if_true, if_false, List.append_nil,
      List.nil_append]
    rw [← List.map_id (if decide (q.sortKey ≠ .onHand) then [q.sortKey.name] else [])]
    refine getD_named (fun a b => ?_) ?_ rfl
    · cases a <;> cases b <;> decide
    · cases q.sortKey <;> decide
  have hdesc : decide (one params (text "ldir") ≠ some (text "asc")) = q.desc := by
    rw [hone _ (by decide), values_locationsEntries]
    simp +decide only [values_setIf, values_appendAll, if_true, if_false, List.append_nil,
      List.nil_append]
    cases q.desc with
    | false => simp
    | true => simp
  have hhidden : parseHidden (params (text "hide")) = q.hidden := by
    rw [parseHidden_eq, hall _ (by decide), values_locationsEntries]
    simp +decide only [values_setIf, values_appendAll, if_true, if_false, List.nil_append]
    exact read_hidden hq.hidden
  have hsize : parsePageSize numerals (one params (text "per")) = q.pageSize := by
    rw [hone _ (by decide), values_locationsEntries]
    simp +decide only [values_setIf, values_appendAll, if_true, if_false, List.append_nil,
      List.nil_append]
    have hread := read_pageSize numerals hq.pageSize
    by_cases hdefault : q.pageSize = PAGE_SIZE
    · simpa [hdefault] using hread
    · simpa [hdefault] using hread
  have hpage : parsePage numerals (one params (text "page")) = reread numerals q.page := by
    rw [hone _ (by decide), values_locationsEntries, reread]
    simp +decide only [values_setIf, values_appendAll, if_true, if_false, List.append_nil,
      List.nil_append]
    by_cases hpos : 0 < q.page
    · simp [hpos]
    · simp [hpos]
  rw [parseLocationsQuery]
  dsimp only [parseCatalogueQuery]
  rw [hsort, hdesc, hhidden, hsize, hpage]

/-- What a URL of a query sets is ASCII, but for the search. -/
theorem ascii_of_mem_locationsEntries {entry : Text × Text}
    (h : entry ∈ locationsEntries numerals q) :
    repair entry.1 = entry.1 ∧ (entry.1 ≠ text "q" → repair entry.2 = entry.2) := by
  have hpair : ∀ {given k v}, entry ∈ setIf given k v → repair k = k →
      (k ≠ text "q" → repair v = v) →
      repair entry.1 = entry.1 ∧ (entry.1 ≠ text "q" → repair entry.2 = entry.2) := by
    intro given k v hmem hk hv
    cases given with
    | false => cases hmem
    | true =>
        obtain rfl := List.mem_singleton.mp hmem
        exact ⟨hk, hv⟩
  have hpage : repair (pageText numerals q.page) = pageText numerals q.page := by
    refine repair_of_ascii fun u hu => ?_
    rw [pageText] at hu
    split at hu
    · exact numerals.ofNumber_ascii _ u hu
    · have hascii : (text "Infinity").all fun v => decide (v < 128) := by decide
      exact of_decide_eq_true (List.all_eq_true.mp hascii u hu)
  simp only [locationsEntries, List.mem_append] at h
  rcases h with ((((hsearch | hpageEntry) | hsort) | hdir) | hsize) | hhide
  · exact hpair hsearch (by decide) fun hne => absurd rfl hne
  · exact hpair hpageEntry (by decide) fun _ => hpage
  · exact hpair hsort (by decide) fun _ => by cases q.sortKey <;> decide
  · exact hpair hdir (by decide) fun _ => by decide
  · exact hpair hsize (by decide) fun _ => repair_of_ascii (numerals.ofNumber_ascii _)
  · obtain ⟨v, hv, rfl⟩ := List.mem_map.mp hhide
    obtain ⟨column, -, rfl⟩ := List.mem_map.mp hv
    exact ⟨by dsimp only; decide, fun _ => by cases column <;> decide⟩

variable (numerals q) in
/-- So the values of every other name come through repairs. -/
theorem map_repair_values {key : Text} (hkey : key ≠ text "q") :
    (values key (locationsEntries numerals q)).map repair =
      values key (locationsEntries numerals q) := by
  refine (List.map_congr_left fun v hv => ?_).trans (List.map_id _)
  obtain ⟨entry, hentry, rfl⟩ := List.mem_map.mp hv
  obtain ⟨hmem, hname⟩ := List.mem_filter.mp hentry
  rw [decide_eq_true_iff] at hname
  exact (ascii_of_mem_locationsEntries hmem).2 (hname ▸ hkey)

/-- The search and the page of a query come through a URL. -/
structure LocationsQuery.Kept (q : LocationsQuery) : Prop where
  search : Paired q.search
  page : Steady q.page

/-- A query is read back from its URL exactly when its search and its page come through. -/
theorem parseLocations_toSearch_eq_iff (hq : q.Canonical) :
    parseLocationsQuery numerals (paramsOf (Forms.parse (locationsQueryToSearch numerals q))) = q ↔
      q.Kept := by
  have hall : ∀ key, all (paramsOf (Forms.parse (locationsQueryToSearch numerals q))) key =
      (values key (locationsEntries numerals q)).map repair := by
    intro key
    rw [all_paramsOf, locationsQueryToSearch, parse_toSearch,
      values_map repair fun entry h => (ascii_of_mem_locationsEntries h).1]
  have hone : one (paramsOf (Forms.parse (locationsQueryToSearch numerals q))) (text "q") =
      ((if !q.search.isEmpty then [q.search] else []).map repair).head? := by
    rw [one, hall, values_locationsEntries]
    simp +decide only [values_setIf, values_appendAll, if_true, if_false, List.append_nil]
  rw [parseLocationsQuery_eq hq fun key hkey => (hall key).trans (map_repair_values _ _ hkey),
    hone]
  obtain ⟨search, page, sortKey, desc, hidden, pageSize⟩ := q
  simp only [LocationsQuery.mk.injEq, and_true]
  rw [parseSearch_ite_iff hq.search, reread_eq_iff _ hq.page_nonneg]
  exact ⟨fun h => ⟨h.1, h.2⟩, fun h => ⟨h.search, h.page⟩⟩

/-- The search form is read as the query with the text of its box, on the first page, exactly when
that text comes through. -/
theorem parseLocations_posted_eq_iff (hq : q.Canonical) {search : Text}
    (hsearch : CanonicalSearch search) :
    parseLocationsQuery numerals (postedParams (locationsQueryFields numerals q) search) =
      { q with search, page := 0 } ↔ Paired search := by
  have hcleared : LocationsQuery.Canonical { q with search := [], page := 0 } :=
    ⟨⟨rfl, Nat.zero_le _⟩, le_rfl, hq.hidden, hq.pageSize⟩
  have hall : ∀ key, all (postedParams (locationsQueryFields numerals q) search) key =
      (values key (locationsEntries numerals { q with search := [], page := 0 })).map
        (fun t => repair (repair t)) ++ if text "q" = key then [repair search] else [] := by
    intro key
    rw [locationsQueryFields, locationsQueryToSearch,
      all_postedParams fun entry h => (ascii_of_mem_locationsEntries h).1]
  have hothers : ∀ key, key ≠ text "q" →
      all (postedParams (locationsQueryFields numerals q) search) key =
        values key (locationsEntries numerals { q with search := [], page := 0 }) := by
    intro key hkey
    have hread := map_repair_values numerals { q with search := [], page := 0 } hkey
    have htwice : (fun t => repair (repair t)) = repair ∘ repair := rfl
    rw [hall, if_neg hkey.symm, List.append_nil, htwice, ← List.map_map, hread, hread]
  have hone : one (postedParams (locationsQueryFields numerals q) search) (text "q") =
      some (repair search) := by
    rw [one, hall, values_locationsEntries]
    simp +decide only [values_setIf, values_appendAll, if_true, if_false, List.append_nil,
      List.nil_append, List.map_nil, List.isEmpty_nil, Bool.not_true, List.head?_cons]
  have hpage : reread numerals 0 = 0 :=
    (reread_eq_iff numerals le_rfl).mpr (steady_of_lt le_rfl (by norm_num))
  rw [parseLocationsQuery_eq hcleared hothers, hone]
  dsimp only
  rw [hpage, ← parseSearch_repair_iff hsearch]
  constructor
  · exact fun heq => congrArg LocationsQuery.search heq
  · intro heq
    rw [heq]

/-! ## Both screens -/

/-- Screen state survives its URL, and the search form that is made of it. -/
structure SurvivesUrl (numerals : Numerals) (l : LocationsQuery) (c : CatalogueQuery)
    (search : Text) : Prop where
  locations :
    parseLocationsQuery numerals (paramsOf (Forms.parse (locationsQueryToSearch numerals l))) = l
  catalogue :
    parseCatalogueQuery numerals (paramsOf (Forms.parse (catalogueQueryToSearch numerals c))) = c
  locationsForm :
    parseLocationsQuery numerals (postedParams (locationsQueryFields numerals l) search) =
      { l with search, page := 0 }
  catalogueForm :
    parseCatalogueQuery numerals (postedParams (catalogueQueryFields numerals c) search) =
      { c with search, page := 0 }

variable (numerals) in
/-- For all canonical queries and searches, screen state survives exactly when no text of them has a
surrogate without the other one, and the pages come back in doubles. -/
theorem survivesUrl_iff (l : {l : LocationsQuery // l.Canonical})
    (c : {c : CatalogueQuery // c.Canonical}) (search : {s : Text // CanonicalSearch s}) :
    SurvivesUrl numerals l c search ↔ l.1.Kept ∧ c.1.Kept ∧ Paired search.1 := by
  constructor
  · intro h
    exact ⟨(parseLocations_toSearch_eq_iff l.2).mp h.locations,
      (parse_toSearch_eq_iff c.2).mp h.catalogue,
      (parseLocations_posted_eq_iff l.2 search.2).mp h.locationsForm⟩
  · rintro ⟨hl, hc, hsearch⟩
    exact ⟨(parseLocations_toSearch_eq_iff l.2).mpr hl, (parse_toSearch_eq_iff c.2).mpr hc,
      (parseLocations_posted_eq_iff l.2 search.2).mpr hsearch,
      (parse_posted_eq_iff c.2 hc.issue hc.facets search.2).mpr hsearch⟩

/-- A search of 119 letters and an emoji, which is a pair of surrogates. -/
def pasted : Text := List.replicate 119 (unit 'a') ++ [0xD83D, 0xDE42]

/-- What the parameters keep of it: the pair is cut in two. -/
def cutQuery : LocationsQuery :=
  parseLocationsQuery Numerals.plain (paramsOf [(text "q", pasted)])

/-- The query that the screen reads of a pasted search does not come back from its own URL. -/
theorem not_survivesUrl : cutQuery.Canonical ∧ DEFAULT_QUERY.Canonical ∧ CanonicalSearch [] ∧
    ¬ SurvivesUrl Numerals.plain cutQuery DEFAULT_QUERY [] := by
  have hcut : cutQuery.Canonical :=
    ⟨⟨by decide +kernel, by decide +kernel⟩, by decide +kernel, by decide +kernel,
      by decide +kernel⟩
  have hdefault : DEFAULT_QUERY.Canonical :=
    ⟨⟨rfl, Nat.zero_le _⟩, le_rfl, by rintro key vs ⟨⟩, by rintro ⟨⟩⟩
  have halone : ¬ Paired cutQuery.search := by decide +kernel
  refine ⟨hcut, hdefault, ⟨rfl, Nat.zero_le _⟩, fun h => halone ?_⟩
  exact ((parseLocations_toSearch_eq_iff hcut).mp h.locations).search

end Restock.Stock
