import Restock.Imports.CostCell
import Restock.Imports.Delimited
import Restock.Series.Tally

/-!
# The cost import

A pasted or uploaded file of costs is matched with the products of the catalogue before anything is
written (`previewCostImport`, `applicableWrites` of `lib/cost/import.ts`). A row whose SKU or name
sits on more than one product is ambiguous and matches none.

* `normName` — what two names are compared by;
* `previewCostImport` — a status for every row, and how many rows have each;
* `applicableWrites` — the costs to write: the first row of a product, pinned products held back;
* `unguessed` — a matched row has the only product with its SKU, or with its name when no product
  has the SKU; the counts are those of the statuses; a product is written once, with the cost of its
  first row that may be written, and a pinned one only when it is asked for.
-/

namespace Restock.Imports

open Json Utf16 Series

/-- What the runtime knows of letters. -/
structure Js where
  /-- `String.prototype.toLowerCase`. -/
  toLowerCase : Text → Text
  /-- `String.prototype.toUpperCase`. -/
  toUpperCase : Text → Text
  /-- Letters do not vanish. -/
  toLowerCase_ne_nil : ∀ t, t ≠ [] → toLowerCase t ≠ []

/-- The same of texts without letters outside the English alphabet. -/
def Js.ascii : Js where
  toLowerCase t := t.map fun c => if unit 'A' ≤ c ∧ c ≤ unit 'Z' then c + 32 else c
  toUpperCase t := t.map fun c => if unit 'a' ≤ c ∧ c ≤ unit 'z' then c - 32 else c
  toLowerCase_ne_nil _ ht h := ht (List.map_eq_nil_iff.mp h)

/-! ## Headers and names -/

section Names

variable (js : Js)

/-- A header as it is compared: lower case, one blank for dashes, underscores and blanks. -/
def normHeader (h : Text) : Text :=
  replaceRuns isBlank (unit ' ')
    (replaceRuns (fun c => c = unit '_' || c = unit '-') (unit ' ') (js.toLowerCase (trim h)))

/-- A letter or a digit that a normalised name keeps. -/
def isNameUnit (c : UInt16) : Bool := isDigit c || unit 'a' ≤ c && c ≤ unit 'z'

/-- `normName`: lowercase, drop punctuation, collapse whitespace. -/
def normName (s : Text) : Text :=
  replaceRuns isBlank (unit ' ')
    (trim (replaceRuns (fun c => !isNameUnit c) (unit ' ') (js.toLowerCase s)))

end Names

/-- The columns of a cost file. -/
inductive CostColumn
  | sku
  | name
  | cost

/-- `HEADER_ALIASES`. -/
def CostColumn.aliases : CostColumn → List String
  | .sku => ["sku", "product sku", "item sku", "code", "default code", "barcode"]
  | .name => ["name", "product", "product name", "title", "item", "item name", "display name"]
  | .cost => ["cost", "purchase cost", "cost price", "unit cost", "buy price", "cost kes", "costkes",
      "landed cost", "avg cost", "average cost"]

/-- `mapHeaders`: where a column stands, the first header that is one of its aliases. -/
def mapHeaders (js : Js) (headerRow : List Text) (column : CostColumn) : Option ℕ :=
  headerRow.findIdx? fun h => normHeader js h ∈ column.aliases.map text

/-! ## Products that may match -/

/-- `MatchProduct`. -/
structure MatchProduct where
  id : String
  sku : Option Text
  title : Text
  costSource : Option String
deriving DecidableEq

/-- The products of a shop, one of each id. -/
structure MatchProducts where
  products : List MatchProduct
  nodup : (products.map MatchProduct.id).Nodup

/-- How many products have a key, and the last of them. -/
structure MatchIndex where
  counts : List (Text × ℕ)
  byKey : List (Text × MatchProduct)

/-- The keys of the products that have one that is not empty. -/
def keyed (keyOf : MatchProduct → Text) (products : List MatchProduct) :
    List (Text × MatchProduct) :=
  products.filterMap fun p => if keyOf p = [] then none else some (keyOf p, p)

/-- An index of the loop over the catalogue. -/
def matchIndex (keyOf : MatchProduct → Text) (products : List MatchProduct) : MatchIndex where
  counts := tally ((keyed keyOf products).map fun e => (e.1, 1))
  byKey := setEntries [] (keyed keyOf products)

section Preview

variable (js : Js)

/-- The SKU of a product as it is compared. -/
def skuKey (p : MatchProduct) : Text := js.toLowerCase (trim (p.sku.getD []))

/-- The name of a product as it is compared. -/
def nameKey (p : MatchProduct) : Text := normName js p.title

/-! ## The preview -/

/-- `PreviewStatus`. -/
inductive PreviewStatus
  | matched
  | ambiguous
  | unknown
  | invalid
deriving DecidableEq

/-- `CostImportPreviewRow`. -/
structure CostImportPreviewRow where
  /-- 1-based data-row number (header excluded). -/
  rowNumber : ℕ
  sku : Option Text
  name : Option Text
  /-- Parsed positive cost, or none when the row's cost is unusable. -/
  costKes : Option ℚ
  status : PreviewStatus
  /-- Set when matched. -/
  productId : Option String
  title : Option Text
  /-- Matched product is currently manual-pinned. -/
  pinned : Bool
  /-- Why the row was skipped. -/
  note : Option Text

/-- The counts of a preview. -/
structure CostImportSummary where
  total : ℕ := 0
  matched : ℕ := 0
  /-- Matched rows already manual-pinned. -/
  pinned : ℕ := 0
  ambiguous : ℕ := 0
  unknown : ℕ := 0
  invalid : ℕ := 0
deriving DecidableEq

/-- `CostImportPreview`. -/
structure CostImportPreview where
  rows : List CostImportPreviewRow
  summary : CostImportSummary

/-- The field of a row under a column, trimmed. -/
def getField (headerRow row : List Text) (column : CostColumn) : Option Text :=
  (mapHeaders js headerRow column).bind fun idx => row[idx]?.map trim

/-- A text that is not empty. -/
def orNull (t : Option Text) : Option Text := t.filter (· ≠ [])

/-- How many products an index has under a key; none under an empty one. -/
def MatchIndex.count (index : MatchIndex) (key : Option Text) : ℕ :=
  (orNull key).elim 0 (totalIn index.counts)

/-- The product an index has under a key. -/
def MatchIndex.get (index : MatchIndex) (key : Option Text) : Option MatchProduct :=
  (orNull key).bind fun k => index.byKey.lookup k

/-- One row of the loop, after the rows before it and their counts. -/
def previewStep (headerRow : List Text) (skus names : MatchIndex) (acc : CostImportPreview)
    (row : List Text) : CostImportPreview :=
  let out := acc.rows
  let summary := { acc.summary with total := acc.summary.total + 1 }
  let sku := orNull (getField js headerRow row .sku)
  let name := orNull (getField js headerRow row .name)
  let cost := parseCostCell (getField js headerRow row .cost)
  -- every row before this one was pushed once
  let base : CostImportPreviewRow := {
    rowNumber := out.length + 1, sku, name, costKes := cost.value, status := .invalid
    productId := none, title := none, pinned := false, note := none }
  match cost with
  | .refused note =>
      { rows := out ++ [{ base with status := .invalid, note := some note }]
        summary := { summary with invalid := summary.invalid + 1 } }
  | .cost _ =>
      let skKey := sku.map js.toLowerCase
      let nmKey := name.map (normName js)
      -- Ambiguity first: a duplicate SKU/name can't be resolved deterministically.
      if 1 < skus.count skKey then
        { rows := out ++ [{ base with
            status := .ambiguous
            note := some (text "SKU \"" ++ sku.getD [] ++
              text "\" is on more than one product — give each its own SKU.") }]
          summary := { summary with ambiguous := summary.ambiguous + 1 } }
      else if skus.get skKey = none ∧ 1 < names.count nmKey then
        { rows := out ++ [{ base with
            status := .ambiguous
            note := some (text "Name matches more than one product — match by SKU instead.") }]
          summary := { summary with ambiguous := summary.ambiguous + 1 } }
      else
        match (skus.get skKey).or (names.get nmKey) with
        | none =>
            { rows := out ++ [{ base with
                status := .unknown, note := some (text "No product with this SKU or name.") }]
              summary := { summary with unknown := summary.unknown + 1 } }
        | some p =>
            let pinned : Bool := p.costSource = some "manual"
            { rows := out ++ [{ base with
                status := .matched, productId := some p.id, title := some p.title, pinned
                note := if pinned then
                    some (text "Already a typed cost — kept unless you choose to overwrite.")
                  else none }]
              summary := { summary with
                matched := summary.matched + 1
                pinned := if pinned then summary.pinned + 1 else summary.pinned } }

/-- `previewCostImport`. -/
def previewCostImport (t : Text) (products : List MatchProduct) : Except Text CostImportPreview :=
  match parseDelimited t with
  | headerRow :: row :: rows =>
      let header := [unit ',', unit ' '].intercalate headerRow
      if mapHeaders js headerRow .cost = none then
        .error (text "No cost column found. Header was: " ++ header ++
          text ". Use a \"Cost\" (or \"Purchase cost\" / \"Landed cost\") column.")
      else if mapHeaders js headerRow .sku = none ∧ mapHeaders js headerRow .name = none then
        .error (text "Need a SKU or Name column to match products. Header was: " ++ header ++
          text ".")
      else
        .ok ((row :: rows).foldl
          (previewStep js headerRow (matchIndex (skuKey js) products)
            (matchIndex (nameKey js) products))
          ⟨[], {}⟩)
  | _ => .error (text "Add a header row plus at least one cost row.")

end Preview

/-! ## The writes -/

/-- `CostWrite`. -/
structure CostWrite where
  productId : String
  costKes : ℚ
deriving DecidableEq

/-- The write that a row asks for, when it may be written. -/
def CostImportPreviewRow.write (overwritePinned : Bool) (r : CostImportPreviewRow) :
    Option CostWrite :=
  match r.status, r.productId, r.costKes with
  | .matched, some productId, some costKes =>
      if r.pinned && !overwritePinned then none else some { productId, costKes }
  | _, _, _ => none

/-- One row of the loop of `applicableWrites`: the products that are seen, and the writes. -/
def writeStep (overwritePinned : Bool) (acc : List String × List CostWrite)
    (r : CostImportPreviewRow) : List String × List CostWrite :=
  match r.write overwritePinned with
  | none => acc
  | some w => if w.productId ∈ acc.1 then acc else (w.productId :: acc.1, acc.2 ++ [w])

/-- `applicableWrites`: matched rows only, the first of a product, and products that are pinned only
when `overwritePinned` is set. -/
def applicableWrites (preview : CostImportPreview) (overwritePinned : Bool) : List CostWrite :=
  (preview.rows.foldl (writeStep overwritePinned) ([], [])).2

/-! ## What an index has -/

section Index

variable {keyOf : MatchProduct → Text} {products : List MatchProduct} {key : Text}

/-- What the loop over the catalogue puts under a key: the products that have it. -/
theorem filter_keyed (hkey : key ≠ []) :
    (keyed keyOf products).filter (fun e => e.1 = key) =
      (products.filter fun p => keyOf p = key).map fun p => (key, p) := by
  induction products with
  | nil => rfl
  | cons p products ih =>
      rw [keyed] at ih ⊢
      rw [List.filterMap_cons, List.filter_cons]
      by_cases hp : keyOf p = key
      · have hne : keyOf p ≠ [] := by rwa [hp]
        simp [hp, hkey, ih]
      · by_cases hnil : keyOf p = []
        · simp [hnil, hkey.symm, ih]
        · simp [hnil, hp, ih]

/-- An index counts the products that have a key. -/
theorem count_matchIndex (hkey : key ≠ []) :
    (matchIndex keyOf products).count (some key) =
      (products.filter fun p => keyOf p = key).length := by
  have hcount : totalIn (matchIndex keyOf products).counts key =
      ((keyed keyOf products).filter fun e => e.1 = key).length := by
    rw [matchIndex, totalIn_tally, total, List.filter_map, List.map_map]
    simp [Function.comp_def]
  rw [MatchIndex.count, orNull, Option.filter_some_pos (by simpa using hkey), Option.elim_some,
    hcount, filter_keyed hkey, List.length_map]

/-- A product that an index has under a key has the key. -/
theorem mem_of_get_matchIndex {k : Option Text} {p : MatchProduct}
    (h : (matchIndex keyOf products).get k = some p) :
    ∃ key, k = some key ∧ key ≠ [] ∧ p ∈ products.filter fun p => keyOf p = key := by
  obtain ⟨key, hkey, hp⟩ := Option.bind_eq_some_iff.mp h
  obtain ⟨hk, hne⟩ := Option.filter_eq_some_iff.mp hkey
  have hne' : key ≠ [] := by simpa using hne
  obtain ⟨before, after, hentries, -⟩ := List.lookup_eq_some_iff.mp hp
  have hset : (key, p) ∈ (matchIndex keyOf products).byKey := by
    rw [hentries]
    simp
  have hmem : (key, p) ∈ keyed keyOf products :=
    (mem_of_mem_setEntries hset).resolve_left List.not_mem_nil
  have hfilter : (key, p) ∈ (keyed keyOf products).filter fun e => e.1 = key :=
    List.mem_filter.mpr ⟨hmem, decide_eq_true rfl⟩
  rw [filter_keyed hne'] at hfilter
  obtain ⟨q, hq, heq⟩ := List.mem_map.mp hfilter
  exact ⟨key, hk, hne', (Prod.mk.inj heq).2 ▸ hq⟩

/-- No product has a key that an index has no product under. -/
theorem filter_eq_nil_of_get (hkey : key ≠ [])
    (h : (matchIndex keyOf products).get (some key) = none) :
    (products.filter fun p => keyOf p = key) = [] := by
  rw [MatchIndex.get, orNull, Option.filter_some_pos (by simpa using hkey), Option.bind_some,
    List.lookup_eq_none_iff] at h
  by_contra hne
  obtain ⟨p, hp⟩ := List.exists_mem_of_ne_nil _ hne
  have hmem : (key, p) ∈ (keyed keyOf products).filter fun e => e.1 = key := by
    rw [filter_keyed hkey]
    exact List.mem_map_of_mem hp
  -- what the loop sets stays under its key
  have hset : key ∈ (setEntries [] (keyed keyOf products)).map Prod.fst :=
    (mem_keys_setEntries [] key).mpr (Or.inr (List.mem_map_of_mem (List.mem_filter.mp hmem).1))
  obtain ⟨e, he, hkeyEq⟩ := List.mem_map.mp hset
  have hneq := h e he
  rw [hkeyEq] at hneq
  simp at hneq

/-- The product that an index has under a key is the only one with the key, when the index counts no
more than one. -/
theorem filter_eq_singleton {k : Option Text} {p : MatchProduct}
    (h : (matchIndex keyOf products).get k = some p)
    (hcount : ¬1 < (matchIndex keyOf products).count k) :
    ∃ key, k = some key ∧ (products.filter fun p => keyOf p = key) = [p] := by
  obtain ⟨key, rfl, hne, hmem⟩ := mem_of_get_matchIndex h
  rw [count_matchIndex hne, not_lt] at hcount
  refine ⟨key, rfl, ?_⟩
  rcases hlist : products.filter fun p => keyOf p = key with _ | ⟨q, _ | ⟨q', rest⟩⟩
  · rw [hlist] at hmem
    exact absurd hmem List.not_mem_nil
  · rw [hlist] at hmem
    rw [List.mem_singleton.mp hmem]
  · rw [hlist] at hcount
    simp at hcount

end Index

/-! ## What a row is matched to -/

section Rows

variable (js : Js) (products : List MatchProduct)

/-- The products with the SKU that a row gives. -/
def withSku (sku : Text) : List MatchProduct :=
  products.filter fun p => skuKey js p = js.toLowerCase sku

/-- The products with the name that a row gives. -/
def withName (name : Text) : List MatchProduct :=
  products.filter fun p => nameKey js p = normName js name

/-- The product is the only one with the SKU of a row; or no product has the SKU, or none is given,
and the product is the only one with the name. -/
def OnlyMatch (sku name : Option Text) (p : MatchProduct) : Prop :=
  (∃ s, sku = some s ∧ withSku js products s = [p]) ∨
    (∀ s, sku = some s → withSku js products s = []) ∧
      ∃ n, name = some n ∧ withName js products n = [p]

/-- A row that is matched has the only product it may have, and is pinned as that product is; the
other rows have none. -/
structure MatchedRow (r : CostImportPreviewRow) : Prop where
  only : r.status = .matched → ∃ p ∈ products, r.productId = some p.id ∧
    OnlyMatch js products r.sku r.name p ∧ r.pinned = decide (p.costSource = some "manual")
  other : r.status ≠ .matched → r.productId = none

variable {js products}

/-- A given field is not empty, so that its lower case is not. -/
theorem toLowerCase_orNull {t : Option Text} {s : Text} (h : orNull t = some s) :
    js.toLowerCase s ≠ [] := by
  obtain ⟨-, hne⟩ := Option.filter_eq_some_iff.mp h
  exact js.toLowerCase_ne_nil s (by simpa using hne)

/-- What the code looks up is the only match: first by SKU, then by name. -/
theorem onlyMatch_of_get {sku name : Option Text} {p : MatchProduct}
    (hsku : ∀ s, sku = some s → js.toLowerCase s ≠ [])
    (hskus : ¬1 < (matchIndex (skuKey js) products).count (sku.map js.toLowerCase))
    (hnames : ¬((matchIndex (skuKey js) products).get (sku.map js.toLowerCase) = none ∧
      1 < (matchIndex (nameKey js) products).count (name.map (normName js))))
    (h : ((matchIndex (skuKey js) products).get (sku.map js.toLowerCase)).or
      ((matchIndex (nameKey js) products).get (name.map (normName js))) = some p) :
    OnlyMatch js products sku name p := by
  cases hget : (matchIndex (skuKey js) products).get (sku.map js.toLowerCase) with
  | some q =>
      rw [hget, Option.some_or, Option.some.injEq] at h
      subst h
      obtain ⟨key, hkey, hone⟩ := filter_eq_singleton hget hskus
      obtain ⟨s, hs, rfl⟩ := Option.map_eq_some_iff.mp hkey
      exact Or.inl ⟨s, hs, hone⟩
  | none =>
      rw [hget, Option.none_or] at h
      obtain ⟨key, hkey, hone⟩ := filter_eq_singleton h fun hmany => hnames ⟨hget, hmany⟩
      obtain ⟨n, hn, rfl⟩ := Option.map_eq_some_iff.mp hkey
      refine Or.inr ⟨fun s hs => ?_, n, hn, hone⟩
      rw [hs, Option.map_some] at hget
      exact filter_eq_nil_of_get (hsku s hs) hget

/-- The only match is one of the products. -/
theorem OnlyMatch.mem {sku name : Option Text} {p : MatchProduct}
    (h : OnlyMatch js products sku name p) : p ∈ products := by
  rcases h with ⟨s, -, hone⟩ | ⟨-, n, -, hone⟩
  · have hmem : p ∈ withSku js products s := by rw [hone]; exact List.mem_singleton_self p
    exact List.mem_of_mem_filter hmem
  · have hmem : p ∈ withName js products n := by rw [hone]; exact List.mem_singleton_self p
    exact List.mem_of_mem_filter hmem

/-! ## What is counted -/

/-- The counts with one more row. -/
def CostImportSummary.add (s : CostImportSummary) (r : CostImportPreviewRow) :
    CostImportSummary where
  total := s.total + 1
  matched := s.matched + if r.status = .matched then 1 else 0
  pinned := s.pinned + if r.status = .matched ∧ r.pinned = true then 1 else 0
  ambiguous := s.ambiguous + if r.status = .ambiguous then 1 else 0
  unknown := s.unknown + if r.status = .unknown then 1 else 0
  invalid := s.invalid + if r.status = .invalid then 1 else 0

/-- The counts of a preview are those of its rows. -/
structure Counted (preview : CostImportPreview) : Prop where
  total : preview.summary.total = preview.rows.length
  matched : preview.summary.matched = preview.rows.countP (·.status = .matched)
  pinned : preview.summary.pinned =
    preview.rows.countP fun r => r.status = .matched ∧ r.pinned = true
  ambiguous : preview.summary.ambiguous = preview.rows.countP (·.status = .ambiguous)
  unknown : preview.summary.unknown = preview.rows.countP (·.status = .unknown)
  invalid : preview.summary.invalid = preview.rows.countP (·.status = .invalid)

/-- A row that is counted when it is pushed leaves the counts right. -/
theorem Counted.push {acc : CostImportPreview} (h : Counted acc) (r : CostImportPreviewRow) :
    Counted ⟨acc.rows ++ [r], acc.summary.add r⟩ := by
  constructor <;>
    simp [CostImportSummary.add, h.total, h.matched, h.pinned, h.ambiguous, h.unknown, h.invalid,
      List.countP_singleton]

/-- Every row has one of the four statuses. -/
theorem Counted.partition {preview : CostImportPreview} (h : Counted preview) :
    preview.summary.total = preview.summary.matched + preview.summary.ambiguous +
      preview.summary.unknown + preview.summary.invalid := by
  rw [h.total, h.matched, h.ambiguous, h.unknown, h.invalid]
  generalize preview.rows = rows
  induction rows with
  | nil => rfl
  | cons r rows ih =>
      simp only [List.length_cons, List.countP_cons]
      cases hstatus : r.status <;> simp <;> omega

/-! ## What the loop does -/

/-- A row that is skipped has no product. -/
theorem matchedRow_of_ne {r : CostImportPreviewRow} (hstatus : r.status ≠ .matched)
    (hnone : r.productId = none) : MatchedRow js products r :=
  ⟨fun h => absurd h hstatus, fun _ => hnone⟩

/-- One row of the loop: a row is pushed, matched as it has to be, and counted. -/
theorem previewStep_spec (headerRow : List Text) (acc : CostImportPreview) (row : List Text) :
    ∃ r, MatchedRow js products r ∧
      previewStep js headerRow (matchIndex (skuKey js) products) (matchIndex (nameKey js) products)
        acc row = ⟨acc.rows ++ [r], acc.summary.add r⟩ := by
  rw [previewStep]
  cases parseCostCell (getField js headerRow row .cost) with
  | refused note =>
      refine ⟨_, ?_, congrArg (CostImportPreview.mk _) rfl⟩
      exact matchedRow_of_ne nofun rfl
  | cost n =>
      simp only
      split
      · refine ⟨_, ?_, congrArg (CostImportPreview.mk _) rfl⟩
        exact matchedRow_of_ne nofun rfl
      · split
        · refine ⟨_, ?_, congrArg (CostImportPreview.mk _) rfl⟩
          exact matchedRow_of_ne nofun rfl
        · rename_i hskus hnames
          split
          · refine ⟨_, ?_, congrArg (CostImportPreview.mk _) rfl⟩
            exact matchedRow_of_ne nofun rfl
          · rename_i p hfound
            refine ⟨_, ?_, congrArg (CostImportPreview.mk _) ?_⟩
            · have honly := onlyMatch_of_get (fun s hs => toLowerCase_orNull hs) hskus hnames hfound
              exact ⟨fun _ => ⟨p, honly.mem, rfl, honly, rfl⟩, fun h => absurd rfl h⟩
            · by_cases hpinned : p.costSource = some "manual" <;>
                simp [CostImportSummary.add, hpinned]

variable (js products) in
/-- The whole loop: the rows are matched as they have to be, one for each of the file, and
counted. -/
theorem foldl_previewStep (headerRow : List Text) (rows : List (List Text)) :
    let preview := rows.foldl (previewStep js headerRow (matchIndex (skuKey js) products)
      (matchIndex (nameKey js) products)) ⟨[], {}⟩
    (∀ r ∈ preview.rows, MatchedRow js products r) ∧ preview.rows.length = rows.length ∧
      Counted preview := by
  induction rows using List.reverseRecOn with
  | nil => exact ⟨List.forall_mem_nil _, rfl, ⟨rfl, rfl, rfl, rfl, rfl, rfl⟩⟩
  | append_singleton rows row ih =>
      obtain ⟨hrows, hlength, hcounted⟩ := ih
      rw [List.foldl_concat]
      obtain ⟨r, hr, hstep⟩ := previewStep_spec headerRow
        (rows.foldl (previewStep js headerRow (matchIndex (skuKey js) products)
          (matchIndex (nameKey js) products)) ⟨[], {}⟩) row
      rw [hstep]
      refine ⟨List.forall_mem_append.mpr ⟨hrows, List.forall_mem_singleton.mpr hr⟩, ?_,
        hcounted.push r⟩
      rw [List.length_append, List.length_append, hlength]
      rfl

/-- A preview is what the loop makes of the rows after the header. -/
theorem previewCostImport_eq_ok {t : Text} {preview : CostImportPreview}
    (h : previewCostImport js t products = .ok preview) :
    ∃ headerRow rows, parseDelimited t = headerRow :: rows ∧
      preview = rows.foldl (previewStep js headerRow (matchIndex (skuKey js) products)
        (matchIndex (nameKey js) products)) ⟨[], {}⟩ := by
  rw [previewCostImport] at h
  split at h
  · rename_i headerRow row rows hparse
    split_ifs at h
    exact ⟨headerRow, row :: rows, hparse, (Except.ok.inj h).symm⟩
  · cases h

end Rows

/-! ## What is written -/

section Writes

variable {overwritePinned : Bool}

/-- A row that may be written for a product: matched to it, and not pinned unless pinned products
are to be overwritten. -/
def Eligible (overwritePinned : Bool) (productId : String) (r : CostImportPreviewRow) : Prop :=
  r.status = .matched ∧ r.productId = some productId ∧ r.costKes ≠ none ∧
    (r.pinned = true → overwritePinned = true)

/-- A row asks for a write exactly when it may be written. -/
theorem write_eq_some_iff {r : CostImportPreviewRow} {w : CostWrite} :
    r.write overwritePinned = some w ↔
      Eligible overwritePinned w.productId r ∧ r.costKes = some w.costKes := by
  rw [CostImportPreviewRow.write, Eligible]
  split
  · rename_i productId costKes hstatus hproduct hcost
    obtain ⟨id, cost⟩ := w
    cases hpinned : r.pinned <;> cases overwritePinned <;>
      simp [hstatus, hproduct, hcost]
  · rename_i hother
    refine iff_of_false (by simp) ?_
    rintro ⟨⟨hstatus, hproduct, -, -⟩, hcost⟩
    exact hother _ _ hstatus hproduct hcost

/-- What is written of rows: each product once, with the cost of its first row that may be written,
and every product that has such a row. -/
structure WritesFirst (overwritePinned : Bool) (rows : List CostImportPreviewRow)
    (writes : List CostWrite) : Prop where
  once : (writes.map CostWrite.productId).Nodup
  first : ∀ w ∈ writes, ∃ before r after, rows = before ++ r :: after ∧
    Eligible overwritePinned w.productId r ∧ r.costKes = some w.costKes ∧
      ∀ r' ∈ before, ¬Eligible overwritePinned w.productId r'
  every : ∀ r ∈ rows, ∀ productId, Eligible overwritePinned productId r →
    productId ∈ writes.map CostWrite.productId

/-- The loop writes the first row of each product; the products that are seen are those that are
written. -/
theorem foldl_writeStep (overwritePinned : Bool) (rows : List CostImportPreviewRow) :
    let acc := rows.foldl (writeStep overwritePinned) ([], [])
    (∀ id, id ∈ acc.1 ↔ id ∈ acc.2.map CostWrite.productId) ∧
      WritesFirst overwritePinned rows acc.2 := by
  induction rows using List.reverseRecOn with
  | nil =>
      exact ⟨fun id => Iff.rfl, List.nodup_nil, List.forall_mem_nil _, List.forall_mem_nil _⟩
  | append_singleton rows r ih =>
      rw [List.foldl_concat]
      obtain ⟨hseen, hwrites⟩ := ih
      generalize rows.foldl (writeStep overwritePinned) ([], []) = acc at hseen hwrites
      -- what was written stays the write of the first row of its product
      have hfirst : ∀ w ∈ acc.2, ∃ before r' after, rows ++ [r] = before ++ r' :: after ∧
          Eligible overwritePinned w.productId r' ∧ r'.costKes = some w.costKes ∧
            ∀ r'' ∈ before, ¬Eligible overwritePinned w.productId r'' := by
        intro w hw
        obtain ⟨before, r', after, rfl, hr'⟩ := hwrites.first w hw
        exact ⟨before, r', after ++ [r], by simp, hr'⟩
      rw [writeStep]
      cases hwrite : r.write overwritePinned with
      | none =>
          refine ⟨hseen, hwrites.once, hfirst, ?_⟩
          refine List.forall_mem_append.mpr ⟨hwrites.every, List.forall_mem_singleton.mpr ?_⟩
          intro id hid
          obtain ⟨cost, hcost⟩ := Option.ne_none_iff_exists'.mp hid.2.2.1
          have hsome : r.write overwritePinned = some ⟨id, cost⟩ := write_eq_some_iff.mpr ⟨hid, hcost⟩
          rw [hwrite] at hsome
          cases hsome
      | some w =>
          obtain ⟨heligible, hcost⟩ := write_eq_some_iff.mp hwrite
          -- the row may be written for its one product
          have hid : ∀ id, Eligible overwritePinned id r → id = w.productId := fun id h =>
            Option.some.inj (h.2.1.symm.trans heligible.2.1)
          by_cases hmem : w.productId ∈ acc.1
          · simp only [if_pos hmem]
            refine ⟨hseen, hwrites.once, hfirst, ?_⟩
            refine List.forall_mem_append.mpr ⟨hwrites.every, List.forall_mem_singleton.mpr ?_⟩
            intro id h
            rw [hid id h]
            exact (hseen _).mp hmem
          · simp only [if_neg hmem]
            have hnew : w.productId ∉ acc.2.map CostWrite.productId := fun h =>
              hmem ((hseen _).mpr h)
            refine ⟨fun id => ?_, ?_, ?_, ?_⟩
            · rw [List.map_append, List.mem_append, List.mem_cons, hseen, or_comm]
              simp
            · rw [List.map_append]
              refine List.nodup_append.mpr ⟨hwrites.once, List.nodup_singleton _, ?_⟩
              rintro id hid' id' hid'' rfl
              exact hnew (List.mem_singleton.mp hid'' ▸ hid')
            · refine List.forall_mem_append.mpr ⟨hfirst, List.forall_mem_singleton.mpr ?_⟩
              exact ⟨rows, r, [], rfl, heligible, hcost, fun r' hr' h =>
                hnew (hwrites.every r' hr' _ h)⟩
            · refine List.forall_mem_append.mpr ⟨fun r' hr' id h => ?_,
                List.forall_mem_singleton.mpr fun id h => ?_⟩
              · rw [List.map_append]
                exact List.mem_append_left _ (hwrites.every r' hr' id h)
              · rw [hid id h, List.map_append]
                exact List.mem_append_right _ (List.mem_singleton_self _)

end Writes

/-! ## Nothing is guessed -/

/-- The cost import guesses nothing. A row is matched to the only product with its SKU, or, when no
product has it, to the only one with its name; the counts are those of the statuses, which every
row has one of; a product is written once at most, with the cost of its first row that may be
written; and a product whose cost was typed by hand only when pinned costs are to be
overwritten. -/
theorem unguessed (js : Js) (t : Text) (shop : MatchProducts) (preview : CostImportPreview)
    (h : previewCostImport js t shop.products = .ok preview) :
    (∀ r ∈ preview.rows, MatchedRow js shop.products r) ∧
      (Counted preview ∧ preview.summary.total = preview.summary.matched +
        preview.summary.ambiguous + preview.summary.unknown + preview.summary.invalid) ∧
      ∀ overwritePinned,
        WritesFirst overwritePinned preview.rows (applicableWrites preview overwritePinned) ∧
          (overwritePinned = false → ∀ w ∈ applicableWrites preview overwritePinned,
            ∀ p ∈ shop.products, p.id = w.productId → p.costSource ≠ some "manual") := by
  obtain ⟨headerRow, rows, -, rfl⟩ := previewCostImport_eq_ok h
  obtain ⟨hrows, -, hcounted⟩ := foldl_previewStep js shop.products
    headerRow rows
  refine ⟨hrows, ⟨hcounted, hcounted.partition⟩, fun overwritePinned => ?_⟩
  obtain ⟨-, hwrites⟩ := foldl_writeStep overwritePinned _
  refine ⟨hwrites, ?_⟩
  rintro rfl w hw p hp hid hmanual
  obtain ⟨before, r, after, hsplit, ⟨hstatus, hproduct, -, hpinned⟩, -⟩ := hwrites.first w hw
  obtain ⟨q, hq, hqid, -, hqpinned⟩ :=
    (hrows r (by rw [hsplit]; simp)).only hstatus
  -- the product of the row is the one of that id
  have hpq : p = q := List.inj_on_of_nodup_map shop.nodup hp hq
    (hid.trans (Option.some.inj (hproduct.symm.trans hqid)))
  rw [hqpinned, ← hpq, hmanual] at hpinned
  exact Bool.false_ne_true (hpinned (by decide))

/-- A shop with a product whose cost was typed by hand. -/
def twoMugs : MatchProducts where
  products := [⟨"p1", some (text "AB-1"), text "Blue Mug", none⟩,
    ⟨"p2", none, text "Red Mug!", some "manual"⟩]
  nodup := by decide

/-- A file of two rows: a SKU in small letters, and the name of the product that is pinned. -/
theorem unguessed_twoMugs :
    ∃ preview, previewCostImport Js.ascii (text "SKU,Name,Cost\nab-1,,10\n,red mug,20")
        twoMugs.products = .ok preview ∧
      preview.summary = ⟨2, 2, 1, 0, 0, 0⟩ ∧
      (∀ r ∈ preview.rows, MatchedRow Js.ascii twoMugs.products r) ∧
      WritesFirst false preview.rows (applicableWrites preview false) := by
  have hsummary : (previewCostImport Js.ascii (text "SKU,Name,Cost\nab-1,,10\n,red mug,20")
      twoMugs.products).toOption.map CostImportPreview.summary = some ⟨2, 2, 1, 0, 0, 0⟩ := by
    decide +kernel
  cases h : previewCostImport Js.ascii (text "SKU,Name,Cost\nab-1,,10\n,red mug,20")
      twoMugs.products with
  | error e =>
      rw [h] at hsummary
      cases hsummary
  | ok preview =>
      rw [h] at hsummary
      obtain ⟨hrows, -, hwrites⟩ := unguessed Js.ascii _ twoMugs preview h
      exact ⟨preview, rfl, Option.some.inj hsummary, hrows, (hwrites false).1⟩

end Restock.Imports
