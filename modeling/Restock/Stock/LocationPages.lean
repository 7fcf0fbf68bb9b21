import Mathlib.Tactic.NormNum
import Restock.Series.Slices
import Restock.Stock.Locations

/-!
# Paging loses and repeats nothing

The pages of the By-location screen, one after another, show every line that matches the search
once: in the order of the locations, and in the order of the sort within a location. A location
without lines is on one page.

* `notAfter_total`, `notAfter_trans` — the order of the lines is one, whatever the column;
* `lineList_pageCards` — the cards of a page show the window over the lines of all locations;
* `emptyList_pageCards` — and the empty locations whose place is on the page;
* `PagesAll`, `pages_all` — what all pages show together.
-/

namespace Restock.Stock

open Json (Text)
open Series

variable {toLowerCase : Text → Text} {K : Type} [LinearOrder K] {collate : Text → K}

/-! ## The order of the lines -/

/-- The sign of a comparison of texts tells which one comes first. -/
theorem localeCompare_sign (a b : Text) :
    (localeCompare collate a b ≤ 0 ↔ collate a ≤ collate b) ∧
      (0 ≤ localeCompare collate a b ↔ collate b ≤ collate a) := by
  rw [localeCompare]
  rcases lt_trichotomy (collate a) (collate b) with h | h | h
  · rw [if_pos h]
    norm_num [h.le, h]
  · simp [h]
  · rw [if_neg h.not_gt, if_pos h]
    norm_num [h.le, h]

/-- Where a figure stands in a direction: an unknown one is last. -/
def rank (dir : ℚ) : Option ℚ → WithTop ℚ
  | none => ⊤
  | some v => ((v * dir : ℚ) : WithTop ℚ)

/-- Figures are compared by where they stand. -/
theorem compareFigures_nonpos_iff {dir : ℚ} {a b : Option ℚ} :
    compareFigures dir a b ≤ 0 ↔ rank dir a ≤ rank dir b := by
  match a, b with
  | none, none => simp [compareFigures, rank]
  | none, some b =>
      have hfinite : ¬ (⊤ : WithTop ℚ) ≤ ((b * dir : ℚ) : WithTop ℚ) := WithTop.not_top_le_coe _
      simp only [compareFigures, rank, hfinite, iff_false]
      norm_num
  | some a, none =>
      simp only [compareFigures, rank, le_top, iff_true]
      norm_num
  | some a, some b =>
      simp only [compareFigures, rank, WithTop.coe_le_coe]
      rw [sub_mul, sub_nonpos]

/-- Texts are compared by the collation, the other way round when they descend. -/
theorem exists_rank_text (field : LocationLine → Text) (desc : Bool) :
    ∃ (L : Type) (_ : LinearOrder L) (f : LocationLine → L), ∀ a b,
      localeCompare collate (field a) (field b) * (if desc then -1 else 1) ≤ 0 ↔ f a ≤ f b := by
  cases desc with
  | false =>
      refine ⟨K, inferInstance, fun line => collate (field line), fun a b => ?_⟩
      simpa using (localeCompare_sign (field a) (field b)).1
  | true =>
      refine ⟨Kᵒᵈ, inferInstance, fun line => OrderDual.toDual (collate (field line)),
        fun a b => ?_⟩
      simpa using (localeCompare_sign (field a) (field b)).2

variable (collate) in
/-- Whatever the column and direction, the lines are in the linear order of one figure of theirs. -/
theorem exists_rank (key : LocationSortKey) (desc : Bool) :
    ∃ (L : Type) (_ : LinearOrder L) (f : LocationLine → L), ∀ a b,
      NotAfter collate key desc a b ↔ f a ≤ f b := by
  cases key with
  | title => exact exists_rank_text (fun line => line.title) desc
  | sku => exact exists_rank_text (fun line => line.sku) desc
  | onHand => exact ⟨_, inferInstance, fun line => rank _ (some line.onHand),
      fun a b => compareFigures_nonpos_iff⟩
  | daysCover => exact ⟨_, inferInstance, fun line => rank _ line.daysCover,
      fun a b => compareFigures_nonpos_iff⟩
  | onOrderUnits => exact ⟨_, inferInstance, fun line => rank _ (some line.onOrderUnits),
      fun a b => compareFigures_nonpos_iff⟩
  | valueKes => exact ⟨_, inferInstance, fun line => rank _ line.valueKes,
      fun a b => compareFigures_nonpos_iff⟩

instance notAfter_total (key : LocationSortKey) (desc : Bool) :
    Std.Total (NotAfter collate key desc) where
  total a b := by
    obtain ⟨L, _, f, hf⟩ := exists_rank collate key desc
    rw [hf, hf]
    exact le_total _ _

instance notAfter_trans (key : LocationSortKey) (desc : Bool) :
    IsTrans LocationLine (NotAfter collate key desc) where
  trans a b c hab hbc := by
    obtain ⟨L, _, f, hf⟩ := exists_rank collate key desc
    rw [hf] at hab hbc ⊢
    exact hab.trans hbc

/-- What a search keeps: all lines, when nothing is searched for. -/
def Matches (toLowerCase : Text → Text) (search : Text) (line : LocationLine) : Bool :=
  search.isEmpty || matchesLocationLine toLowerCase line search

/-- The searched lines of a location are those that match. -/
theorem searchedLines_perm (query : LocationsQuery) (location : LocationStock) :
    (searchedLines toLowerCase collate query location).Perm
      (location.lines.filter (Matches toLowerCase query.search)) := by
  refine (List.perm_insertionSort _ _).trans ?_
  have hmatches : Matches toLowerCase query.search = fun line =>
      query.search.isEmpty || matchesLocationLine toLowerCase line query.search := rfl
  rw [hmatches]
  by_cases h : query.search.isEmpty = true
  · simp [h]
  · simp [h]

/-- And they are in order. -/
theorem searchedLines_sorted (query : LocationsQuery) (location : LocationStock) :
    (searchedLines toLowerCase collate query location).Pairwise
      (NotAfter collate query.sortKey query.desc) :=
  List.pairwise_insertionSort _ _

/-- Without a search, only an empty location has no lines to show. -/
theorem searchedLines_isEmpty {query : LocationsQuery} (h : query.search.isEmpty = true)
    (location : LocationStock) :
    (searchedLines toLowerCase collate query location).isEmpty = location.lines.isEmpty := by
  have hlen := (List.perm_insertionSort (NotAfter collate query.sortKey query.desc)
    location.lines).length_eq
  rw [searchedLines, if_pos h]
  cases hl : location.lines with
  | nil => rfl
  | cons line lines =>
      rw [hl, List.length_cons] at hlen
      rw [List.isEmpty_cons, List.isEmpty_eq_false_iff]
      exact List.ne_nil_of_length_pos (by omega)

/-! ## The window of a page -/

/-- The page of a place: the last one also takes what comes after its lines. -/
def pageOf (pageCount n place : ℕ) : ℕ := min (place / n) (pageCount - 1)

section Bounds

variable {matched : ℕ} {size : ℕ+}

/-- The pages hold all lines. -/
theorem le_pageCount_mul (page : ℤ) :
    matched ≤ (pageBounds matched page size).pageCount * size := by
  have hpos := size.pos
  have hdiv := Nat.div_add_mod (matched + (size - 1)) size
  have hmod := Nat.mod_lt (matched + (size - 1)) hpos
  have hle : (matched + (size - 1)) / size * size ≤
      (pageBounds matched page size).pageCount * size :=
    Nat.mul_le_mul_right _ (le_max_right _ _)
  rw [Nat.mul_comm] at hdiv
  omega

/-- A page that is not the last one is followed by a line. -/
theorem lt_matched_of_lt_pageCount {page : ℤ} {p : ℕ}
    (h : p + 1 < (pageBounds matched page size).pageCount) : (p + 1) * size < matched := by
  have hpos := size.pos
  have hlt : p + 1 < (matched + (size - 1)) / size := by
    rcases lt_max_iff.mp h with hone | hlt
    · omega
    · exact hlt
  have hmul := (Nat.le_div_iff_mul_le hpos).mp (Nat.succ_le_of_lt hlt)
  rw [Nat.succ_mul] at hmul
  omega

/-- There is a page. -/
theorem pageCount_pos (page : ℤ) : 0 < (pageBounds matched page size).pageCount :=
  Nat.lt_of_lt_of_le Nat.one_pos (le_max_left _ _)

/-- Every place is on a page. -/
theorem pageOf_lt (page : ℤ) (place : ℕ) :
    pageOf (pageBounds matched page size).pageCount size place <
      (pageBounds matched page size).pageCount := by
  have hpos : 0 < (pageBounds matched page size).pageCount := pageCount_pos page
  rw [pageOf]
  omega

/-- An empty location is pinned to the page of its place. -/
theorem pinned_iff (page : ℤ) {p : ℕ} (place : ℕ)
    (hp : p < (pageBounds matched page size).pageCount) :
    (p * size ≤ place ∧ (place < p * size + size ∨ matched ≤ p * size + size)) ↔
      pageOf (pageBounds matched page size).pageCount size place = p := by
  have hpos := size.pos
  have hlast : matched ≤ (pageBounds matched page size).pageCount * size := le_pageCount_mul page
  rw [pageOf, ← Nat.le_div_iff_mul_le hpos, ← Nat.succ_mul, ← Nat.div_lt_iff_lt_mul hpos]
  constructor
  · rintro ⟨hle, hlt | hmatched⟩
    · omega
    · -- no line follows, so it is the last page
      have hnot : ¬ p + 1 < (pageBounds matched page size).pageCount := fun hlt =>
        absurd (lt_matched_of_lt_pageCount hlt) (not_lt.mpr hmatched)
      omega
  · intro hmin
    refine ⟨by omega, ?_⟩
    by_cases hin : place / size < p + 1
    · exact Or.inl hin
    · have heq : (pageBounds matched page size).pageCount = p.succ := by omega
      exact Or.inr (heq ▸ hlast)

/-- A page that there is, is the one that is shown. -/
theorem pageBounds_of_lt (page : ℤ) {p : ℕ} (hp : p < (pageBounds matched page size).pageCount) :
    pageBounds matched p size =
      { pageCount := (pageBounds matched page size).pageCount, current := p, start := p * size } := by
  have hcurrent : min (max 0 (p : ℤ)).toNat ((pageBounds matched page size).pageCount - 1) = p := by
    omega
  have hbounds : pageBounds matched p size =
      { pageCount := (pageBounds matched page size).pageCount
        current := min (max 0 (p : ℤ)).toNat ((pageBounds matched page size).pageCount - 1)
        start := min (max 0 (p : ℤ)).toNat ((pageBounds matched page size).pageCount - 1) *
          size } := rfl
  rw [hbounds, hcurrent]

end Bounds

/-! ## The cards of a page -/

/-- The lines of a card, under its location. -/
def cardLines (card : LocationPageStock) : List (String × LocationLine) :=
  card.lines.map fun line => (card.locationId, line)

/-- The lines on a screen, each with the location it is shown under. -/
def LocationsScreen.lineList (screen : LocationsScreen) : List (String × LocationLine) :=
  screen.locations.flatMap cardLines

/-- The locations without lines on a screen. -/
def emptyCards (cards : List LocationPageStock) : List LocationStock :=
  (cards.filter fun card => card.lines.isEmpty).map fun card => card.toLocationStock

section Cards

variable {noSearch : Bool} {matched start stop : ℕ}

/-- A location shows the part of its lines that lies in the window. -/
theorem lines_pageCard (cursor : ℕ) (location : LocationStock) (lines : List LocationLine) :
    (pageCard noSearch matched start stop cursor location lines).toList.flatMap cardLines =
      part start stop cursor (lines.map fun line => (location.locationId, line)) := by
  have hmap : part start stop cursor (lines.map fun line => (location.locationId, line)) =
      (part start stop cursor lines).map fun line => (location.locationId, line) := by
    rw [part, part, List.map_drop, List.map_take]
  rw [pageCard, hmap]
  by_cases h : max start cursor < min stop (cursor + lines.length)
  · rw [if_pos h, slice_eq_part]
    simp [cardLines]
  · rw [if_neg h, part_eq_nil (not_lt.mp h)]
    split <;> simp [cardLines]

/-- The cards of a page show the window over the lines of all locations. -/
theorem lines_pageCards (cursor : ℕ) (searched : List (LocationStock × List LocationLine)) :
    (pageCards noSearch matched start stop cursor searched).flatMap cardLines =
      part start stop cursor
        (searched.flatMap fun s => s.2.map fun line => (s.1.locationId, line)) := by
  induction searched generalizing cursor with
  | nil => simp [pageCards]
  | cons s rest ih =>
      obtain ⟨location, lines⟩ := s
      rw [pageCards, List.flatMap_append, lines_pageCard, ih, List.flatMap_cons, part_append,
        List.length_map]

/-- The empty locations of a list with the lines each shows, and how many lines come before. -/
def emptiesAt : ℕ → List (LocationStock × List LocationLine) → List (ℕ × LocationStock)
  | _, [] => []
  | cursor, (location, lines) :: rest =>
      (if lines.isEmpty then [(cursor, { location with lines := [] })] else []) ++
        emptiesAt (cursor + lines.length) rest

/-- A card without lines is that of an empty location whose place is on the page. -/
theorem emptyCards_pageCard (cursor : ℕ) (location : LocationStock) (lines : List LocationLine) :
    emptyCards (pageCard true matched start stop cursor location lines).toList =
      if lines.isEmpty ∧ start ≤ cursor ∧ (cursor < stop ∨ matched ≤ stop) then
        [{ location with lines := [] }] else [] := by
  rw [pageCard]
  by_cases h : max start cursor < min stop (cursor + lines.length)
  · -- some of the lines are shown, so there are some
    have hsome := part_ne_nil h
    have hne : lines ≠ [] := by
      rintro rfl
      exact hsome (part_nil _ _ _)
    rw [if_pos h, slice_eq_part, if_neg (by simp [hne])]
    simp [emptyCards, hsome]
  · rw [if_neg h]
    by_cases hpin : lines.isEmpty ∧ start ≤ cursor ∧ (cursor < stop ∨ matched ≤ stop)
    · rw [if_pos hpin, if_pos (by simpa [and_assoc] using hpin)]
      rfl
    · rw [if_neg hpin, if_neg (by simpa [and_assoc] using hpin)]
      rfl

/-- The cards without lines are those of the empty locations whose places are on the page. -/
theorem emptyCards_pageCards (cursor : ℕ) (searched : List (LocationStock × List LocationLine)) :
    emptyCards (pageCards true matched start stop cursor searched) =
      ((emptiesAt cursor searched).filter fun e =>
        start ≤ e.1 ∧ (e.1 < stop ∨ matched ≤ stop)).map Prod.snd := by
  induction searched generalizing cursor with
  | nil => rfl
  | cons s rest ih =>
      obtain ⟨location, lines⟩ := s
      have happend : ∀ cards more, emptyCards (cards ++ more) =
          emptyCards cards ++ emptyCards more := by
        intro cards more
        simp [emptyCards]
      rw [pageCards, happend, ih, emptyCards_pageCard, emptiesAt, List.filter_append,
        List.map_append]
      congr 1
      by_cases hempty : lines.isEmpty = true
      · simp only [hempty, true_and, if_true, List.filter_cons, List.filter_nil]
        split
        · next h => simp [h]
        · next h => simp [h]
      · simp [hempty]

end Cards

/-- Places go up along the list. -/
theorem emptiesAt_sorted (cursor : ℕ) (searched : List (LocationStock × List LocationLine)) :
    (emptiesAt cursor searched).Pairwise (fun a b => a.1 ≤ b.1) ∧
      ∀ e ∈ emptiesAt cursor searched, cursor ≤ e.1 := by
  induction searched generalizing cursor with
  | nil => exact ⟨List.Pairwise.nil, List.forall_mem_nil _⟩
  | cons s rest ih =>
      obtain ⟨location, lines⟩ := s
      obtain ⟨hsorted, hfrom⟩ := ih (cursor + lines.length)
      have hrest : ∀ e ∈ emptiesAt (cursor + lines.length) rest, cursor ≤ e.1 := fun e he =>
        (Nat.le_add_right _ _).trans (hfrom e he)
      rw [emptiesAt]
      split
      · exact ⟨List.pairwise_cons.mpr ⟨hrest, hsorted⟩, List.forall_mem_cons.mpr ⟨le_rfl, hrest⟩⟩
      · exact ⟨hsorted, hrest⟩

/-- Without a search, the empty locations of the list are found in order. -/
theorem map_snd_emptiesAt {query : LocationsQuery} (h : query.search.isEmpty = true) (cursor : ℕ)
    (locations : List LocationStock) :
    (emptiesAt cursor (locations.map fun location =>
        (location, searchedLines toLowerCase collate query location))).map Prod.snd =
      locations.filter fun location => location.lines.isEmpty := by
  induction locations generalizing cursor with
  | nil => rfl
  | cons location rest ih =>
      rw [List.map_cons, emptiesAt, List.map_append, ih, searchedLines_isEmpty h, List.filter_cons]
      by_cases hempty : location.lines.isEmpty = true
      · rw [if_pos hempty, if_pos hempty, ← List.isEmpty_iff.mp hempty]
        rfl
      · rw [if_neg hempty, if_neg hempty]
        rfl

/-! ## All pages -/

variable (toLowerCase collate) in
/-- The pages from the first to the last. -/
def allPages (locations : List LocationStock) (query : LocationsQuery) : List LocationsScreen :=
  (List.range (getLocationsScreen toLowerCase collate locations query).pageCount).map fun p : ℕ =>
    getLocationsScreen toLowerCase collate locations { query with page := p }

variable (toLowerCase collate) in
/-- What the pages show together. -/
structure PagesAll (locations : List LocationStock) (query : LocationsQuery) : Prop where
  /-- The lines of each location that match, once each and in the order of the sort, location by
  location. -/
  lines : ∃ sorted : LocationStock → List LocationLine,
    (∀ location,
      (sorted location).Perm (location.lines.filter (Matches toLowerCase query.search)) ∧
        (sorted location).Pairwise fun a b =>
          compareLocationLines collate a b query.sortKey query.desc ≤ 0) ∧
      (allPages toLowerCase collate locations query).flatMap LocationsScreen.lineList =
        locations.flatMap fun location =>
          (sorted location).map fun line => (location.locationId, line)
  /-- No page is too long. -/
  length_le : ∀ screen ∈ allPages toLowerCase collate locations query,
    screen.lineList.length ≤ query.pageSize
  /-- Without a search, the empty locations, once each. -/
  empties : query.search = [] →
    ((allPages toLowerCase collate locations query).flatMap fun screen =>
        emptyCards screen.locations) =
      locations.filter fun location => location.lines.isEmpty
  /-- So an empty location that is listed once is on exactly one page. -/
  onePage : query.search = [] → ∀ location ∈ locations, location.lines = [] →
    locations.count location = 1 →
      ∃! p, p < (getLocationsScreen toLowerCase collate locations query).pageCount ∧
        location ∈ (getLocationsScreen toLowerCase collate locations
          { query with page := p }).locations.map fun card => card.toLocationStock

section Pages

variable {locations : List LocationStock} {query : LocationsQuery}

variable (toLowerCase collate locations query) in
/-- The locations with the lines that each of them shows. -/
def searched : List (LocationStock × List LocationLine) :=
  locations.map fun location => (location, searchedLines toLowerCase collate query location)

variable (toLowerCase collate locations query) in
/-- All lines to show. -/
def shownLines : List (String × LocationLine) :=
  (searched toLowerCase collate locations query).flatMap fun s =>
    s.2.map fun line => (s.1.locationId, line)

/-- The lines to show are those that are counted. -/
theorem length_shownLines : (shownLines toLowerCase collate locations query).length =
    (getLocationsScreen toLowerCase collate locations query).matched := by
  show _ = ((searched toLowerCase collate locations query).map fun s => s.2.length).sum
  rw [shownLines, List.length_flatMap]
  simp

/-- The cards of a page that there is. -/
theorem locations_getLocationsScreen {p : ℕ}
    (hp : p < (getLocationsScreen toLowerCase collate locations query).pageCount) :
    (getLocationsScreen toLowerCase collate locations { query with page := p }).locations =
      pageCards query.search.isEmpty (getLocationsScreen toLowerCase collate locations query).matched
        (p * query.pageSize) (p * query.pageSize + query.pageSize) 0
        (searched toLowerCase collate locations query) := by
  have hbounds : pageBounds (getLocationsScreen toLowerCase collate locations query).matched p
      query.pageSize = { pageCount := _, current := p, start := p * query.pageSize } :=
    pageBounds_of_lt query.page hp
  show pageCards query.search.isEmpty
    (getLocationsScreen toLowerCase collate locations query).matched
    (pageBounds (getLocationsScreen toLowerCase collate locations query).matched p
      query.pageSize).start
    ((pageBounds (getLocationsScreen toLowerCase collate locations query).matched p
      query.pageSize).start + query.pageSize) 0
    (searched toLowerCase collate locations query) = _
  rw [hbounds]

/-- A page shows its window over the lines. -/
theorem lineList_getLocationsScreen {p : ℕ}
    (hp : p < (getLocationsScreen toLowerCase collate locations query).pageCount) :
    (getLocationsScreen toLowerCase collate locations { query with page := p }).lineList =
      part (p * query.pageSize) (p * query.pageSize + query.pageSize) 0
        (shownLines toLowerCase collate locations query) := by
  rw [LocationsScreen.lineList, locations_getLocationsScreen hp, lines_pageCards]
  rfl

/-- Without a search, a page shows the empty locations whose places it holds. -/
theorem emptyCards_getLocationsScreen (hsearch : query.search = []) {p : ℕ}
    (hp : p < (getLocationsScreen toLowerCase collate locations query).pageCount) :
    emptyCards (getLocationsScreen toLowerCase collate locations
        { query with page := p }).locations =
      ((emptiesAt 0 (searched toLowerCase collate locations query)).filter fun e =>
        pageOf (getLocationsScreen toLowerCase collate locations query).pageCount query.pageSize
          e.1 = p).map Prod.snd := by
  rw [locations_getLocationsScreen hp, hsearch, List.isEmpty_nil, emptyCards_pageCards]
  congr 1
  refine List.filter_congr fun e _ => ?_
  rw [decide_eq_decide]
  exact pinned_iff query.page e.1 hp

variable (toLowerCase collate locations query) in
/-- Paging the screen loses and repeats nothing, for all locations, searches, sorts and sizes of a
page. -/
theorem pages_all : PagesAll toLowerCase collate locations query := by
  have hempties : query.search = [] →
      ((allPages toLowerCase collate locations query).flatMap fun screen =>
          emptyCards screen.locations) =
        locations.filter fun location => location.lines.isEmpty := by
    intro hsearch
    rw [allPages, List.flatMap_map, List.flatMap_congr fun p hp =>
      emptyCards_getLocationsScreen hsearch (List.mem_range.mp hp), ← List.map_flatMap,
      flatMap_filter_key, searched, map_snd_emptiesAt (by rw [hsearch]; rfl)]
    · -- the pages go up with the places
      refine (emptiesAt_sorted 0 _).1.imp fun hle => ?_
      exact min_le_min_right _ (Nat.div_le_div_right hle)
    · intro e _
      exact pageOf_lt query.page e.1
  refine ⟨⟨searchedLines toLowerCase collate query, fun location =>
    ⟨searchedLines_perm query location, searchedLines_sorted query location⟩, ?_⟩, ?_, hempties, ?_⟩
  · rw [allPages, List.flatMap_map, List.flatMap_congr fun p hp =>
      lineList_getLocationsScreen (List.mem_range.mp hp), flatMap_part]
    · rw [shownLines, searched, List.flatMap_map]
    · rw [length_shownLines]
      exact le_pageCount_mul query.page
  · intro screen hscreen
    obtain ⟨p, hp, rfl⟩ := List.mem_map.mp hscreen
    rw [lineList_getLocationsScreen (List.mem_range.mp hp)]
    exact length_part_le _ _ _ (Nat.zero_le _) _
  · intro hsearch location hmem hlines hcount
    have hunique : ∃! p, p < (getLocationsScreen toLowerCase collate locations query).pageCount ∧
        location ∈ emptyCards (getLocationsScreen toLowerCase collate locations
          { query with page := p }).locations := by
      refine existsUnique_of_count ?_
      have hall := hempties hsearch
      rw [allPages, List.flatMap_map] at hall
      rw [hall, List.count_filter (by rw [hlines]; rfl), hcount]
    have hcard : ∀ p : ℕ, location ∈ (getLocationsScreen toLowerCase collate locations
          { query with page := p }).locations.map (fun card => card.toLocationStock) ↔
        location ∈ emptyCards (getLocationsScreen toLowerCase collate locations
          { query with page := p }).locations := by
      intro p
      simp only [emptyCards, List.mem_map, List.mem_filter]
      constructor
      · rintro ⟨card, hcard, rfl⟩
        exact ⟨card, ⟨hcard, by rw [hlines]; rfl⟩, rfl⟩
      · rintro ⟨card, ⟨hcard, -⟩, rfl⟩
        exact ⟨card, hcard, rfl⟩
    simpa only [hcard] using hunique

end Pages

end Restock.Stock
