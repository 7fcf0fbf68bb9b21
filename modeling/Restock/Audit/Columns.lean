import Restock.Audit.Loaders
import Restock.Series.Entries

/-!
# The columns of an upload

`_resolve_columns` with the map of column names that a caller may pass, for sales and for stock
files. Columns are renamed greedily, in the order of the file: those the map names, then those whose
name is that of a field or an alias of it. A column that is not renamed keeps its name.

* `STOCK_ALIASES` — the names of stock files;
* `Renaming`, `claimExplicit`, `claimAlias`, `resolveColumnsWith` — the code;
* `resolveColumnsWith_nil` — without a map it is what the sales loader does;
* `Renaming.WellFormed` — a name is given to one column at most;
* `mem_foldl_claimAlias` — which column is given a field;
* `resolveColumnsWith_unambiguous` — the columns that are renamed.
-/

namespace Restock.Audit

open Series (setEntry setEntries)

/-- `_STOCK_ALIASES`. -/
def STOCK_ALIASES : List (String × List String) :=
  [("sku", ["sku", "matched_sku", "product_code", "productcode", "item", "item_code", "item_no",
      "item_number", "product", "product_id", "article", "variant_sku", "stock_code"]),
    ("location", ["location", "store", "site", "branch", "shop", "warehouse", "outlet",
      "store_name", "location_name"]),
    ("qty_on_hand", ["qty_on_hand", "on_hand", "onhand", "stock", "stock_on_hand", "soh",
      "quantity_on_hand", "qty", "quantity", "units", "available", "stock_level", "current_stock",
      "in_stock"]),
    ("unit_cost", ["unit_cost", "cost", "unitcost", "cost_price", "cost_per_unit", "avg_cost",
      "average_cost", "landed_cost"]),
    ("category", ["category", "product_type", "product_category", "dept", "department",
      "product_group", "cat", "brand"])]

/-! ## The code -/

/-- What the loops of `_resolve_columns` work on. -/
structure Renaming where
  /-- The new names of columns. -/
  rename : List (String × String) := []
  /-- The names that are given away. -/
  claimed : List String := []
  deriving DecidableEq, Repr

/-- The columns that have a new name. -/
def Renaming.columns (s : Renaming) : List String :=
  s.rename.map Prod.fst

/-- A normalised header is a name of a field. -/
def Names (entry : String × List String) (norm : String) : Prop :=
  norm = entry.1 ∨ norm ∈ entry.2

instance (entry : String × List String) (norm : String) : Decidable (Names entry norm) :=
  inferInstanceAs (Decidable (_ ∨ _))

section Code

variable (normaliseName : String → String) (aliases : List (String × List String))
  (columnMap : List (String × String))

/-- `explicit.get(col) or explicit_norm.get(_normalise(col))`: what the map says of a column. An
empty name is none. -/
def explicitTarget (col : String) : Option String :=
  let explicit := setEntries [] columnMap
  let explicitNorm := setEntries [] (explicit.map fun e => (normaliseName e.1, e.2))
  ((explicit.lookup col).filter fun t => t ≠ "").or
    ((explicitNorm.lookup (normaliseName col)).filter fun t => t ≠ "")

/-- A turn of the first loop. -/
def claimExplicit (s : Renaming) (col : String) : Renaming :=
  match explicitTarget normaliseName columnMap col with
  | some target =>
      if target ∈ s.claimed then s
      else { rename := setEntry s.rename col target, claimed := target :: s.claimed }
  | none => s

/-- A turn of the second loop. -/
def claimAlias (s : Renaming) (col : String) : Renaming :=
  if col ∈ s.columns then s
  else
    match aliases.find? fun entry => entry.1 ∉ s.claimed ∧ Names entry (normaliseName col) with
    | some entry =>
        { rename := setEntry s.rename col entry.1, claimed := entry.1 :: s.claimed }
    | none => s

/-- `_resolve_columns`. -/
def resolveColumnsWith (columns : List String) : Renaming :=
  columns.foldl (claimAlias normaliseName aliases)
    (columns.foldl (claimExplicit normaliseName columnMap) {})

/-- The names of the columns after they were renamed. -/
def renamedColumnsWith (columns : List String) : List String :=
  columns.map fun col =>
    ((resolveColumnsWith normaliseName aliases columnMap columns).rename.lookup col).getD col

/-- The columns after the first loop: those that the map names. -/
def mappedColumns (columns : List String) : Renaming :=
  columns.foldl (claimExplicit normaliseName columnMap) {}

/-- The columns whose header names a field, and that have no new name yet. -/
def candidates (s : Renaming) (entry : String × List String) (cols : List String) : List String :=
  cols.filter fun col => col ∉ s.columns ∧ Names entry (normaliseName col)

/-- A column that has a new name already, or does not name the field, is no candidate. -/
theorem candidates_cons_of_not {s : Renaming} {entry : String × List String} {col : String}
    (cols : List String) (h : ¬ (col ∉ s.columns ∧ Names entry (normaliseName col))) :
    candidates normaliseName s entry (col :: cols) = candidates normaliseName s entry cols :=
  List.filter_cons_of_neg (by rwa [decide_eq_true_iff])

/-- A column that has no new name and names the field is one. -/
theorem candidates_cons_of {s : Renaming} {entry : String × List String} {col : String}
    (cols : List String) (h : col ∉ s.columns ∧ Names entry (normaliseName col)) :
    candidates normaliseName s entry (col :: cols) =
      col :: candidates normaliseName s entry cols :=
  List.filter_cons_of_pos (by rwa [decide_eq_true_iff])

/-! ## Names that are given away -/

/-- What the loops keep: the new names are distinct, and all of them are given away. -/
structure Renaming.WellFormed (s : Renaming) : Prop where
  distinct : (s.rename.map Prod.snd).Nodup
  claimed : ∀ target ∈ s.rename.map Prod.snd, target ∈ s.claimed

variable {normaliseName aliases columnMap} {s : Renaming} {col : String}

variable (normaliseName aliases) in
/-- What a turn of the second loop does with a column that has no new name: it gets the first name
that is free, if its header names such a field. -/
theorem claimAlias_cases (h : col ∉ s.columns) :
    (∃ entry ∈ aliases, entry.1 ∉ s.claimed ∧ Names entry (normaliseName col) ∧
        claimAlias normaliseName aliases s col =
          { rename := setEntry s.rename col entry.1, claimed := entry.1 :: s.claimed }) ∨
      ((∀ entry ∈ aliases, entry.1 ∉ s.claimed → ¬ Names entry (normaliseName col)) ∧
        claimAlias normaliseName aliases s col = s) := by
  rw [claimAlias, if_neg h]
  cases hfind : aliases.find? fun entry =>
      decide (entry.1 ∉ s.claimed ∧ Names entry (normaliseName col)) with
  | none =>
      refine Or.inr ⟨fun entry hentry hfree hnames => ?_, rfl⟩
      exact List.find?_eq_none.mp hfind entry hentry (decide_eq_true ⟨hfree, hnames⟩)
  | some entry =>
      have hentry := List.find?_some hfind
      rw [decide_eq_true_iff] at hentry
      exact Or.inl ⟨entry, List.mem_of_find?_eq_some hfind, hentry.1, hentry.2, rfl⟩

/-- A column is given a name that was free. -/
theorem Renaming.WellFormed.give (h : s.WellFormed) {target : String} (hfree : target ∉ s.claimed)
    (col : String) :
    Renaming.WellFormed
      { rename := setEntry s.rename col target, claimed := target :: s.claimed } := by
  have hnew : target ∉ s.rename.map Prod.snd := fun hmem => hfree (h.claimed target hmem)
  refine ⟨Series.nodup_values_setEntry h.distinct hnew, fun t ht => ?_⟩
  obtain ⟨e, he, rfl⟩ := List.mem_map.mp ht
  rcases Series.mem_of_mem_setEntry he with rfl | hold
  · exact List.mem_cons_self
  · exact List.mem_cons_of_mem _ (h.claimed _ (List.mem_map_of_mem hold))

theorem wellFormed_claimExplicit (h : s.WellFormed) :
    (claimExplicit normaliseName columnMap s col).WellFormed := by
  rw [claimExplicit]
  split
  · split
    · exact h
    · next hfree => exact h.give hfree col
  · exact h

theorem wellFormed_claimAlias (h : s.WellFormed) :
    (claimAlias normaliseName aliases s col).WellFormed := by
  by_cases hcol : col ∈ s.columns
  · rwa [claimAlias, if_pos hcol]
  · rcases claimAlias_cases normaliseName aliases hcol with
      ⟨entry, -, hfree, -, hgive⟩ | ⟨-, hsame⟩
    · rw [hgive]
      exact h.give hfree col
    · rwa [hsame]

/-- What every turn of a loop keeps holds after it. -/
theorem foldl_wellFormed {turn : Renaming → String → Renaming}
    (hturn : ∀ s col, s.WellFormed → (turn s col).WellFormed) (cols : List String)
    (h : s.WellFormed) : (cols.foldl turn s).WellFormed := by
  induction cols generalizing s with
  | nil => exact h
  | cons col cols ih => exact ih (hturn s col h)

/-- A name is given to one column at most. -/
theorem wellFormed_resolveColumnsWith (columns : List String) :
    (resolveColumnsWith normaliseName aliases columnMap columns).WellFormed :=
  foldl_wellFormed (fun _ _ h => wellFormed_claimAlias h) _
    (foldl_wellFormed (fun _ _ h => wellFormed_claimExplicit h) _
      ⟨List.nodup_nil, fun _ h => (nomatch h)⟩)

/-! ## Which column is given a field -/

/-- No header names two fields. -/
def Apart (aliases : List (String × List String)) : Prop :=
  ∀ entry ∈ aliases, ∀ other ∈ aliases, ∀ norm, Names entry norm → Names other norm →
    entry = other

/-- After the second loop a field is on the column that had its name before, or on the first
candidate in the order of the file when its name was free. -/
theorem mem_foldl_claimAlias (hapart : Apart aliases) {entry : String × List String}
    (hentry : entry ∈ aliases) {cols : List String} (hdistinct : cols.Nodup) :
    (col, entry.1) ∈ (cols.foldl (claimAlias normaliseName aliases) s).rename ↔
      (col, entry.1) ∈ s.rename ∨
        (entry.1 ∉ s.claimed ∧ (candidates normaliseName s entry cols).head? = some col) := by
  induction cols generalizing s with
  | nil => simp [candidates]
  | cons c cols ih =>
      obtain ⟨hc, htail⟩ := List.nodup_cons.mp hdistinct
      rw [List.foldl_cons]
      by_cases hcol : c ∈ s.columns
      · -- the map has named the column
        rw [claimAlias, if_pos hcol, ih htail,
          candidates_cons_of_not _ _ fun h => h.1 hcol]
      rcases claimAlias_cases normaliseName aliases hcol with
        ⟨given, hgiven, hfree, hnames, hgive⟩ | ⟨hnone, hsame⟩
      · have happend : setEntry s.rename c given.1 = s.rename ++ [(c, given.1)] :=
          Series.setEntry_of_not_mem hcol
        rw [hgive, ih htail, happend]
        by_cases heq : entry = given
        · -- the field goes to this column
          subst heq
          have hfirst : (candidates normaliseName s entry (c :: cols)).head? = some c := by
            rw [candidates_cons_of _ _ ⟨hcol, hnames⟩, List.head?_cons]
          rw [hfirst]
          simp [hfree, eq_comm]
        · -- another field goes to it, which cannot be one that this header names
          have hname : entry.1 ≠ given.1 := fun h =>
            heq (hapart entry hentry given hgiven entry.1 (Or.inl rfl) (Or.inl h))
          have hother : ¬ Names entry (normaliseName c) := fun h =>
            heq (hapart entry hentry given hgiven _ h hnames)
          have hrest : candidates normaliseName
              { rename := s.rename ++ [(c, given.1)], claimed := given.1 :: s.claimed } entry cols =
                candidates normaliseName s entry (c :: cols) := by
            rw [candidates_cons_of_not _ _ fun h => hother h.2]
            refine List.filter_congr fun col' hcol' => ?_
            have hne : col' ≠ c := fun h => hc (h ▸ hcol')
            have hcolumns : col' ∈ Renaming.columns { rename := s.rename ++ [(c, given.1)]
                                                      claimed := given.1 :: s.claimed } ↔
                col' ∈ s.columns := by
              simp [Renaming.columns, hne]
            simp only [hcolumns]
          rw [hrest]
          simp [hname]
      · -- no free field is named, so the column is no candidate unless the field is gone
        rw [hsame, ih htail]
        by_cases hclaimed : entry.1 ∈ s.claimed
        · simp [hclaimed]
        · rw [candidates_cons_of_not _ _ fun h => hnone entry hentry hclaimed h.2]

end Code

/-- In either table no header names two fields. -/
theorem apart_aliases {aliases : List (String × List String)}
    (h : aliases = SALES_ALIASES ∨ aliases = STOCK_ALIASES) : Apart aliases := by
  have hfind : ∀ aliases : List (String × List String),
      (aliases.all fun entry => aliases.all fun other =>
        entry == other || (entry.1 :: entry.2).all fun norm => norm ∉ other.1 :: other.2) = true →
      Apart aliases := by
    intro aliases hall entry hentry other hother norm hnames hnames'
    have hpair := List.all_eq_true.mp (List.all_eq_true.mp hall entry hentry) other hother
    rcases Bool.or_eq_true_iff.mp hpair with heq | hdisjoint
    · exact eq_of_beq heq
    · have hnot := of_decide_eq_true
        (List.all_eq_true.mp hdisjoint norm (List.mem_cons.mpr hnames))
      exact absurd (List.mem_cons.mpr hnames') hnot
  rcases h with rfl | rfl
  · exact hfind _ (by decide +kernel)
  · exact hfind _ (by decide +kernel)

/-- `_normalise`. -/
def normaliseHeader (py : Py) (name : String) : String :=
  normalise (py.lower (pyStrip name))

/-! ## Without a map -/

/-- A turn of the sales loader's loop is one of the second loop. -/
theorem claimAlias_eq_resolve (normaliseName : String → String) {s : Renaming} (col : String)
    (h : ∀ target, target ∈ s.claimed ↔ target ∈ s.rename.map Prod.snd) :
    (claimAlias normaliseName SALES_ALIASES s col).rename =
        (if col ∈ s.rename.map Prod.fst then s.rename
        else
          match SALES_ALIASES.find? fun names => names.1 ∉ s.rename.map Prod.snd ∧
              (normaliseName col = names.1 ∨ normaliseName col ∈ names.2) with
          | some names => s.rename ++ [(col, names.1)]
          | none => s.rename) ∧
      ∀ target, target ∈ (claimAlias normaliseName SALES_ALIASES s col).claimed ↔
        target ∈ (claimAlias normaliseName SALES_ALIASES s col).rename.map Prod.snd := by
  by_cases hcol : col ∈ s.columns
  · have hcol' : col ∈ s.rename.map Prod.fst := hcol
    rw [claimAlias, if_pos hcol, if_pos hcol']
    exact ⟨rfl, h⟩
  · have hcol' : col ∉ s.rename.map Prod.fst := hcol
    rw [claimAlias, if_neg hcol, if_neg hcol']
    simp only [h, Names]
    split
    · rw [Series.setEntry_of_not_mem hcol]
      refine ⟨rfl, fun target => ?_⟩
      rw [List.mem_cons, h, List.map_append, List.mem_append, List.map_singleton,
        List.mem_singleton, or_comm]
    · exact ⟨rfl, h⟩

/-- Without a map the columns are renamed as the sales loader does. -/
theorem resolveColumnsWith_nil (py : Py) (columns : List String) :
    renamedColumnsWith (normaliseHeader py) SALES_ALIASES [] columns =
      renamedColumns py columns := by
  have hfirst : ∀ cols : List String, ∀ s : Renaming,
      cols.foldl (claimExplicit (normaliseHeader py) []) s = s := by
    intro cols
    induction cols with
    | nil => exact fun _ => rfl
    | cons col cols ih => exact fun s => ih s
  -- the names that are given away are those on a column, which is what the sales loader looks at
  have hsecond : ∀ cols : List String, ∀ s : Renaming,
      (∀ target, target ∈ s.claimed ↔ target ∈ s.rename.map Prod.snd) →
      (cols.foldl (claimAlias (normaliseHeader py) SALES_ALIASES) s).rename =
        (cols.map fun c => (c, normaliseHeader py c)).foldl (fun rename column =>
          if column.1 ∈ rename.map Prod.fst then rename
          else
            match SALES_ALIASES.find? fun names => names.1 ∉ rename.map Prod.snd ∧
                (column.2 = names.1 ∨ column.2 ∈ names.2) with
            | some names => rename ++ [(column.1, names.1)]
            | none => rename) s.rename := by
    intro cols
    induction cols with
    | nil => exact fun _ _ => rfl
    | cons col cols ih =>
        intro s h
        obtain ⟨hrename, hclaimed⟩ := claimAlias_eq_resolve (normaliseHeader py) col h
        rw [List.foldl_cons, ih _ hclaimed, hrename]
        rfl
  have hrename : (resolveColumnsWith (normaliseHeader py) SALES_ALIASES [] columns).rename =
      resolveColumns (columns.map fun c => (c, normalise (py.lower (pyStrip c)))) := by
    rw [resolveColumnsWith, hfirst]
    exact hsecond columns {} fun _ => Iff.rfl
  rw [renamedColumnsWith, renamedColumns, hrename]

/-! ## Names and columns -/

/-- **The columns that are renamed.** For either table of names, every list of distinct headers in
any order, and every map, no new name is given to two columns. A field is on the column that the map
names for it, or else on the first column in the order of the file that the map does not rename and
whose header is the field's name or an alias of it; the name has no preference over an alias. -/
theorem resolveColumnsWith_unambiguous (py : Py) {aliases : List (String × List String)}
    (haliases : aliases = SALES_ALIASES ∨ aliases = STOCK_ALIASES)
    (columnMap : List (String × String)) {columns : List String} (hdistinct : columns.Nodup) :
    ((resolveColumnsWith (normaliseHeader py) aliases columnMap columns).rename.map
        Prod.snd).Nodup ∧
    ∀ entry ∈ aliases, ∀ col,
      (col, entry.1) ∈
          (resolveColumnsWith (normaliseHeader py) aliases columnMap columns).rename ↔
        (col, entry.1) ∈ (mappedColumns (normaliseHeader py) columnMap columns).rename ∨
        (entry.1 ∉ (mappedColumns (normaliseHeader py) columnMap columns).claimed ∧
          (candidates (normaliseHeader py)
            (mappedColumns (normaliseHeader py) columnMap columns) entry columns).head? =
              some col) :=
  ⟨(wellFormed_resolveColumnsWith columns).distinct, fun _ hentry _ =>
    mem_foldl_claimAlias (apart_aliases haliases) hentry hdistinct⟩

/-- A quantity stands before the field's own name. -/
theorem resolveColumnsWith_unambiguous_quantity :
    (candidates (normaliseHeader .decimal)
        (mappedColumns (normaliseHeader .decimal) [] ["Quantity", "qty"])
        ("qty", ["qty", "quantity", "units", "qty_sold", "quantity_sold", "units_sold",
          "net_quantity", "no_of_units"]) ["Quantity", "qty"]).head? = some "Quantity" ∧
    ("Quantity", "qty") ∈
      (resolveColumnsWith (normaliseHeader .decimal) SALES_ALIASES [] ["Quantity", "qty"]).rename :=
  have hfirst : (candidates (normaliseHeader .decimal)
      (mappedColumns (normaliseHeader .decimal) [] ["Quantity", "qty"])
      ("qty", ["qty", "quantity", "units", "qty_sold", "quantity_sold", "units_sold",
        "net_quantity", "no_of_units"]) ["Quantity", "qty"]).head? = some "Quantity" := by
    decide +kernel
  ⟨hfirst, ((resolveColumnsWith_unambiguous .decimal (Or.inl rfl) [] (by decide)).2 _
    (by decide) _).mpr (Or.inr ⟨by decide, hfirst⟩)⟩

/-- Then two columns bear the field's name, and its own is not the one that supplies it. -/
theorem renamedColumnsWith_quantity :
    ¬ ∀ (columns : List String) (columnMap : List (String × String)), columns.Nodup →
      (columnMap.map Prod.snd).Nodup →
      (∀ entry ∈ SALES_ALIASES, (renamedColumnsWith (normaliseHeader .decimal) SALES_ALIASES
        columnMap columns).count entry.1 ≤ 1) ∧
      ∀ entry ∈ SALES_ALIASES,
        entry.1 ∉ (mappedColumns (normaliseHeader .decimal) columnMap columns).claimed →
        ∀ col ∈ columns, normaliseHeader .decimal col = entry.1 →
          ∃ supplier, (supplier, entry.1) ∈
            (resolveColumnsWith (normaliseHeader .decimal) SALES_ALIASES columnMap
              columns).rename ∧
            normaliseHeader .decimal supplier = entry.1 := by
  intro h
  have hcount := (h ["Quantity", "qty"] [] (by decide) List.nodup_nil).1
    ("qty", ["qty", "quantity", "units", "qty_sold", "quantity_sold", "units_sold",
      "net_quantity", "no_of_units"]) (by decide)
  revert hcount
  decide +kernel

end Restock.Audit
