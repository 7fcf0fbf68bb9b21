import Restock.Catalogue.SearchParams

/-!
# Catalogue state survives its URL

What `parseCatalogueQuery` reads of the parameters that `catalogueQueryToSearch` writes.

* `values_append`, `values_setIf`, `values_appendAll` — the values of a name, piece by piece;
* `params_toSearch` — a URL is read back as its entries, their texts repaired;
* `Steady`, `reread_eq_iff` — pages that come back;
* `parseCatalogueQuery_eq` — the query that is read, from the values of its names.
-/

namespace Restock.Catalogue

open Json (Text text unit)
open Utf16 (Paired repair)

/-! ## Values of names -/

section Values

variable {key : Text}

@[simp] theorem values_nil : values key [] = [] := rfl

/-- The values of two lists of entries are the values of each. -/
@[simp] theorem values_append (entries more : List (Text × Text)) :
    values key (entries ++ more) = values key entries ++ values key more := by
  simp [values]

/-- A value that is set is there under its name only. -/
@[simp] theorem values_setIf (given : Bool) (k v : Text) :
    values key (setIf given k v) = if k = key then (if given then [v] else []) else [] := by
  cases given with
  | false => simp [values, setIf]
  | true =>
      by_cases h : k = key
      · simp [values, setIf, h]
      · simp [values, setIf, h]

/-- Values that are appended are there under their name only. -/
@[simp] theorem values_appendAll (k : Text) (vs : List Text) :
    values key (appendAll k vs) = if k = key then vs else [] := by
  by_cases h : k = key
  · simp [values, appendAll, h, List.filter_map, Function.comp_def]
  · simp [values, appendAll, h, List.filter_map, Function.comp_def]

/-- An entry of another name adds nothing. -/
@[simp] theorem values_cons (k v : Text) (entries : List (Text × Text)) :
    values key ((k, v) :: entries) =
      if k = key then v :: values key entries else values key entries := by
  by_cases h : k = key
  · simp [values, h]
  · simp [values, h]

section Known

variable {ι : Type} {param : ι → Text} {known : List ι} (vs : ι → List Text)

/-- A name that is none of a list has no values there. -/
theorem values_flatMap_eq_nil (h : ∀ i ∈ known, param i ≠ key) :
    values key (known.flatMap fun i => appendAll (param i) (vs i)) = [] := by
  induction known with
  | nil => rfl
  | cons i known ih =>
      rw [List.forall_mem_cons] at h
      rw [List.flatMap_cons, values_append, values_appendAll, if_neg h.1, ih h.2]
      rfl

/-- A name of a list that tells them apart has its own values. -/
theorem values_flatMap_eq (hinj : Function.Injective param) (hnodup : known.Nodup) {i : ι}
    (hi : i ∈ known) :
    values (param i) (known.flatMap fun j => appendAll (param j) (vs j)) = vs i := by
  induction known with
  | nil => cases hi
  | cons j known ih =>
      obtain ⟨hj, hnodup⟩ := List.nodup_cons.mp hnodup
      rw [List.flatMap_cons, values_append, values_appendAll]
      rcases List.mem_cons.mp hi with rfl | hi
      · rw [if_pos rfl, values_flatMap_eq_nil vs fun k hk h => hj ((hinj h : k = i) ▸ hk),
          List.append_nil]
      · have hne : param j ≠ param i := by
          intro h
          rw [hinj h] at hj
          exact hj hi
        rw [if_neg hne, ih hnodup hi, List.nil_append]

end Known

/-- The name of an entry that is set. -/
theorem fst_of_mem_setIf {given : Bool} {k v : Text} {entry : Text × Text}
    (h : entry ∈ setIf given k v) : entry.1 = k := by
  cases given with
  | false => cases h
  | true => exact congrArg Prod.fst (List.mem_singleton.mp h)

/-- The name of an entry that is appended. -/
theorem fst_of_mem_appendAll {k : Text} {vs : List Text} {entry : Text × Text}
    (h : entry ∈ appendAll k vs) : entry.1 = k := by
  obtain ⟨v, -, rfl⟩ := List.mem_map.mp h
  rfl

/-- The values of a parameter are those of the entries of its name. -/
@[simp] theorem all_paramsOf (entries : List (Text × Text)) :
    all (paramsOf entries) key = values key entries := by
  rw [all, paramsOf]
  match values key entries with
  | [] => rfl
  | [_] => rfl
  | _ :: _ :: _ => rfl

/-- Values of entries whose texts are repaired, and names need no repair. -/
theorem values_map (f : Text → Text) {entries : List (Text × Text)}
    (h : ∀ entry ∈ entries, f entry.1 = entry.1) :
    values key (entries.map fun entry => (f entry.1, f entry.2)) = (values key entries).map f := by
  induction entries with
  | nil => rfl
  | cons entry entries ih =>
      obtain ⟨k, v⟩ := entry
      rw [List.forall_mem_cons] at h
      rw [List.map_cons, values_cons, values_cons, ih h.2, h.1]
      split <;> rfl

end Values

/-! ## Parameters of a URL -/

/-- A URL is read back as its entries, their texts repaired. -/
theorem parse_toSearch (entries : List (Text × Text)) :
    Forms.parse (toSearch entries) = entries.map fun entry => (repair entry.1, repair entry.2) := by
  rw [toSearch]
  split
  · next hempty =>
      rw [← Forms.parse_serialize, List.isEmpty_iff.mp hempty]
  · exact Forms.parse_questionMark_serialize entries

/-- So are the fields of a form that are taken from a URL. -/
theorem parse_dropQuestionMark_toSearch (entries : List (Text × Text)) :
    Forms.parse (Forms.dropQuestionMark (toSearch entries)) =
      entries.map fun entry => (repair entry.1, repair entry.2) := by
  rw [← Forms.parse_serialize, toSearch]
  split
  · next hempty => rw [List.isEmpty_iff.mp hempty]; rfl
  · rw [Forms.dropQuestionMark, if_pos rfl]

/-- A named value is found under its name. -/
theorem named_name {α : Type} {known : List α} {name : α → Text}
    (hinj : Function.Injective name) {a : α} (ha : a ∈ known) :
    named known name (some (name a)) = some a := by
  rw [named]
  cases hfind : known.find? (fun b => decide (some (name b) = some (name a))) with
  | none =>
      have := List.find?_eq_none.mp hfind a ha
      simp at this
  | some b =>
      have hb := List.find?_some hfind
      rw [decide_eq_true_iff, Option.some.injEq] at hb
      rw [hinj hb]

/-- Nothing is named by no parameter. -/
@[simp] theorem named_none {α : Type} (known : List α) (name : α → Text) :
    named known name none = none := by
  rw [named, List.find?_eq_none]
  intro a _
  simp

/-! ## Pages -/

/-- Adding one to a page and taking it away gives the page back, in doubles. -/
def Steady (page : ℤ) : Prop :=
  ∃ n : ℤ, 1 ≤ n ∧ Floats.nearestWhole (page + 1) = some n ∧
    Floats.nearestWhole (n - 1) = some page

/-- Every page below `2 ^ 53` comes back. -/
theorem steady_of_lt {page : ℤ} (hnonneg : 0 ≤ page) (hlt : page < 2 ^ 53) : Steady page := by
  refine ⟨page + 1, by omega, Floats.nearestWhole_of_le (by omega) (by omega), ?_⟩
  rw [add_sub_cancel_right]
  exact Floats.nearestWhole_of_le hnonneg hlt.le

/-- The page that is read of what is written for a page. -/
def reread (numerals : Numerals) (page : ℤ) : ℤ :=
  parsePage numerals (if 0 < page then some (pageText numerals page) else none)

/-- Without a parameter, the first page is read. -/
theorem parsePage_none (numerals : Numerals) : parsePage numerals none = 0 := by
  have hone : Floats.nearestWhole 1 = some 1 :=
    Floats.nearestWhole_of_le (by norm_num) (by norm_num)
  have hzero : Floats.nearestWhole 0 = some 0 :=
    Floats.nearestWhole_of_le le_rfl (by norm_num)
  rw [parsePage, Option.getD_none, ← numerals.ofNumber_one, numerals.toNumber_ofNumber 1 1 hone]
  simp [hzero]

/-- A page is read back exactly when it comes back in doubles. -/
theorem reread_eq_iff (numerals : Numerals) {page : ℤ} (hpage : 0 ≤ page) :
    reread numerals page = page ↔ Steady page := by
  rw [reread]
  by_cases hpos : 0 < page
  · rw [if_pos hpos, parsePage, Option.getD_some, pageText]
    cases hnext : Floats.nearestWhole (page + 1) with
    | none =>
        rw [numerals.toNumber_infinity]
        refine ⟨fun h => absurd h hpos.ne, fun ⟨n, _, hn, _⟩ => ?_⟩
        rw [hnext] at hn
        cases hn
    | some n =>
        rw [numerals.toNumber_ofNumber _ _ hnext]
        have hsteady : Steady page ↔ 1 ≤ n ∧ Floats.nearestWhole (n - 1) = some page := by
          constructor
          · rintro ⟨m, hm, hnext', hback⟩
            rw [hnext, Option.some.injEq] at hnext'
            subst hnext'
            exact ⟨hm, hback⟩
          · rintro ⟨hn, hback⟩
            exact ⟨n, hn, hnext, hback⟩
        rw [hsteady]
        by_cases hn : 1 ≤ n
        · have hcast : (1 : ℚ) ≤ n := by exact_mod_cast hn
          dsimp only
          rw [if_pos hcast, Int.floor_intCast]
          cases hback : Floats.nearestWhole (n - 1) with
          | none => simp [hn, hpos.ne]
          | some m => simp [hn]
        · have hcast : ¬ (1 : ℚ) ≤ n := fun h => hn (by exact_mod_cast h)
          dsimp only
          rw [if_neg hcast]
          exact ⟨fun h => absurd h hpos.ne, fun h => absurd h.1 hn⟩
  · have hzero : page = 0 := by omega
    subst hzero
    rw [if_neg hpos, parsePage_none]
    exact ⟨fun _ => steady_of_lt le_rfl (by norm_num), fun _ => rfl⟩

/-! ## The query that is read -/

/-- A search as the parameters keep it: trimmed, and not too long. -/
structure CanonicalSearch (search : Text) : Prop where
  trimmed : Utf16.trim search = search
  length_le : search.length ≤ SEARCH_MAX

/-- A query in canonical form: the search trimmed and short, and no choice that chooses nothing. -/
structure CatalogueQuery.Canonical (q : CatalogueQuery) : Prop where
  search : CanonicalSearch q.search
  page_nonneg : 0 ≤ q.page
  facets : ∀ key vs, q.selection key = some vs → vs ≠ [] ∧ ∀ v ∈ vs, v ≠ []
  issue : q.healthFilter ≠ some []

/-- Facets have their own parameters. -/
theorem facetParam_injective : Function.Injective facetParam := by
  intro a b
  cases a <;> cases b <;> decide

/-- Every facet is one of the list. -/
theorem mem_FACET_KEYS (key : FacetKey) : key ∈ FACET_KEYS := by
  cases key <;> decide

/-- A parameter that does not start as those of facets do is none of them. -/
theorem facetParam_ne {k : Text} (hk : k.take 2 ≠ text "f.") (key : FacetKey) :
    facetParam key ≠ k := by
  rintro rfl
  exact hk (List.take_left' rfl)

/-- The values of a name in the URL of a query. -/
theorem values_catalogueEntries (numerals : Numerals) (q : CatalogueQuery) (key : Text) :
    values key (catalogueEntries numerals q) =
      values key (setIf (q.scope ≠ DEFAULT_QUERY.scope) (text "scope") q.scope.name) ++
      values key (FACET_KEYS.flatMap fun k =>
        appendAll (facetParam k) ((q.selection k).getD [])) ++
      values key (setIf (!q.search.isEmpty) (text "q") q.search) ++
      values key (setIf (!(q.healthFilter.getD []).isEmpty) (text "issue")
        (q.healthFilter.getD [])) ++
      values key (q.moneyFilter.elim [] fun money => setIf true (text "money") money.name) ++
      values key (setIf (q.sortKey ≠ DEFAULT_QUERY.sortKey) (text "sort") q.sortKey.name) ++
      values key (setIf q.desc (text "dir") (text "desc")) ++
      values key (setIf (0 < q.page) (text "page") (pageText numerals q.page)) := by
  simp [catalogueEntries]

section Read

variable {numerals : Numerals} {f : Text → Text} {q : CatalogueQuery} {params : RawSearchParams}

variable (numerals f q params) in
/-- Parameters with the values that a URL of the query has for every name but the search, each read
by `f`. -/
structure ReadsAs : Prop where
  /-- What is spelled in ASCII is read as it is. -/
  ascii : ∀ t, (∀ u ∈ t, u < 0x80) → f t = t
  /-- Nothing is read shorter or longer. -/
  length_eq : ∀ t, (f t).length = t.length
  all_eq : ∀ key, key ≠ text "q" →
    all params key = (values key (catalogueEntries numerals q)).map f

/-- A chosen money filter is there under its name only. -/
theorem values_money (money : Option MoneyBandFilter) (key : Text) :
    values key (money.elim [] fun m => setIf true (text "money") m.name) =
      if text "money" = key then (money.map MoneyBandFilter.name).toList else [] := by
  cases money with
  | none => simp
  | some m => simp

/-- A name that is not one of a facet has no values among theirs. -/
theorem values_facets {key : Text} (hkey : key.take 2 ≠ text "f.") :
    values key (FACET_KEYS.flatMap fun k =>
      appendAll (facetParam k) ((q.selection k).getD [])) = [] :=
  values_flatMap_eq_nil _ fun k _ => facetParam_ne hkey k

/-- A text that is read as it is. -/
theorem ReadsAs.eq_self (h : ReadsAs numerals f q params) {t : Text}
    (ht : t.all (· < 0x80) = true) : f t = t :=
  h.ascii t fun u hu => of_decide_eq_true (List.all_eq_true.mp ht u hu)

/-- A choice that is set when it is not the default is read back. -/
theorem getD_named {α : Type} [DecidableEq α] {known : List α} {name : α → Text} {a default : α}
    (hinj : Function.Injective name) (ha : a ∈ known) (hname : f (name a) = name a) :
    (named known name ((if decide (a ≠ default) then [name a] else []).map f).head?).getD default =
      a := by
  by_cases h : a = default
  · simp [h]
  · simp [h, hname, named_name hinj ha]

/-- The scope is read back. -/
theorem read_scope (h : ReadsAs numerals f q params) :
    (named SCOPES Scope.name (one params (text "scope"))).getD DEFAULT_QUERY.scope =
      q.scope := by
  have hinj : Function.Injective Scope.name := by
    rintro (_ | _ | _) (_ | _ | _) <;> decide
  have hmem : ∀ scope, scope ∈ SCOPES := by
    rintro (_ | _ | _) <;> decide
  have hname : ∀ scope, f (Scope.name scope) = scope.name := by
    rintro (_ | _ | _) <;> exact h.eq_self (by decide)
  rw [one, h.all_eq _ (by decide), values_catalogueEntries, values_facets (by decide), values_money]
  simp +decide only [values_setIf, if_true, if_false, List.append_nil]
  exact getD_named hinj (hmem _) (hname _)

/-- The column is read back. -/
theorem read_sort (h : ReadsAs numerals f q params) :
    (named SORT_KEYS SortKey.name (one params (text "sort"))).getD DEFAULT_QUERY.sortKey =
      q.sortKey := by
  have hinj : Function.Injective SortKey.name := by
    intro a b
    cases a <;> cases b <;> decide
  have hmem : ∀ key, key ∈ SORT_KEYS := by
    intro key
    cases key <;> decide
  have hname : ∀ key, f (SortKey.name key) = key.name := by
    intro key
    cases key <;> exact h.eq_self (by decide)
  rw [one, h.all_eq _ (by decide), values_catalogueEntries, values_facets (by decide), values_money]
  simp +decide only [values_setIf, if_true, if_false, List.append_nil, List.nil_append]
  exact getD_named hinj (hmem _) (hname _)

/-- The money filter is read back. -/
theorem read_money (h : ReadsAs numerals f q params) :
    named MONEY_FILTERS MoneyBandFilter.name (one params (text "money")) = q.moneyFilter := by
  have hinj : Function.Injective MoneyBandFilter.name := by
    rintro (_ | _ | _) (_ | _ | _) <;> decide
  have hmem : ∀ money, money ∈ MONEY_FILTERS := by
    rintro (_ | _ | _) <;> decide
  have hname : ∀ money, f (MoneyBandFilter.name money) = money.name := by
    rintro (_ | _ | _) <;> exact h.eq_self (by decide)
  rw [one, h.all_eq _ (by decide), values_catalogueEntries, values_facets (by decide), values_money]
  simp +decide only [values_setIf, if_true, if_false, List.append_nil, List.nil_append]
  cases q.moneyFilter with
  | none => simp
  | some money => simp [hname, named_name hinj (hmem money)]

/-- The direction is read back. -/
theorem read_dir (h : ReadsAs numerals f q params) :
    decide (one params (text "dir") = some (text "desc")) = q.desc := by
  have hdesc : f (text "desc") = text "desc" := h.eq_self (by decide)
  rw [one, h.all_eq _ (by decide), values_catalogueEntries, values_facets (by decide), values_money]
  simp +decide only [values_setIf, if_true, if_false, List.append_nil, List.nil_append]
  cases q.desc with
  | false => simp
  | true => simp [hdesc]

/-- The issue is read, by `f`. -/
theorem read_issue (h : ReadsAs numerals f q params) (hissue : q.healthFilter ≠ some []) :
    (one params (text "issue")).filter (fun issue => !issue.isEmpty) = q.healthFilter.map f := by
  rw [one, h.all_eq _ (by decide), values_catalogueEntries, values_facets (by decide), values_money]
  simp +decide only [values_setIf, if_true, if_false, List.append_nil, List.nil_append]
  cases hfilter : q.healthFilter with
  | none => simp
  | some issue =>
      have hne : issue ≠ [] := fun hnil => hissue (by rw [hfilter, hnil])
      have hread : f issue ≠ [] := by
        rw [← List.length_pos_iff, h.length_eq, List.length_pos_iff]
        exact hne
      simp [hne, hread]

/-- The page is read of what is written for it. -/
theorem read_page (h : ReadsAs numerals f q params) :
    parsePage numerals (one params (text "page")) = reread numerals q.page := by
  have hpage : f (pageText numerals q.page) = pageText numerals q.page := by
    refine h.ascii _ fun u hu => ?_
    rw [pageText] at hu
    split at hu
    · exact numerals.ofNumber_ascii _ u hu
    · exact of_decide_eq_true (List.all_eq_true.mp (by decide :
        (text "Infinity").all (fun u => decide (u < 0x80)) = true) u hu)
  rw [one, h.all_eq _ (by decide), values_catalogueEntries, values_facets (by decide), values_money]
  simp +decide only [values_setIf, if_true, if_false, List.append_nil, List.nil_append]
  rw [reread]
  by_cases hpos : 0 < q.page
  · simp [hpos, hpage]
  · simp [hpos]

/-- The values of a facet are read, each by `f`. -/
theorem read_facet (h : ReadsAs numerals f q params) {key : FacetKey}
    (hcanonical : ∀ vs, q.selection key = some vs → vs ≠ [] ∧ ∀ v ∈ vs, v ≠ []) :
    (let values := (all params (facetParam key)).filter fun v => !v.isEmpty
      if values.isEmpty then none else some values) = (q.selection key).map (List.map f) := by
  have hall : all params (facetParam key) = ((q.selection key).getD []).map f := by
    have hne : facetParam key ≠ text "q" := by cases key <;> decide
    rw [h.all_eq _ hne, values_catalogueEntries, values_money,
      values_flatMap_eq _ facetParam_injective (by decide) (mem_FACET_KEYS key)]
    cases key <;> simp +decide only [values_setIf, if_false, List.append_nil, List.nil_append]
  rw [hall]
  cases hselected : q.selection key with
  | none => rfl
  | some vs =>
      obtain ⟨hne, hvalues⟩ := hcanonical vs hselected
      have hkept : (vs.map f).filter (fun v => !v.isEmpty) = vs.map f := by
        refine List.filter_eq_self.mpr fun v hv => ?_
        obtain ⟨w, hw, rfl⟩ := List.mem_map.mp hv
        have hpos : f w ≠ [] := by
          rw [← List.length_pos_iff, h.length_eq, List.length_pos_iff]
          exact hvalues w hw
        simp [hpos]
      simp [hkept, hne]

/-- The query that is read: its texts are read by `f`, and its search is the one of the
parameters. -/
theorem parseCatalogueQuery_eq (h : ReadsAs numerals f q params) (hq : q.Canonical) :
    parseCatalogueQuery numerals params =
      { q with
        selection := fun key => (q.selection key).map (List.map f)
        healthFilter := q.healthFilter.map f
        search := parseSearch (one params (text "q"))
        page := reread numerals q.page } := by
  rw [parseCatalogueQuery, read_scope h, read_sort h, read_money h, read_dir h,
    read_issue h hq.issue, read_page h]
  simp only [read_facet h (hq.facets _)]

end Read

/-! ## Searches -/

/-- A search that is repaired on its way is read back exactly when it is paired. -/
theorem parseSearch_repair_iff {search : Text} (h : CanonicalSearch search) :
    parseSearch (some (repair search)) = search ↔ Paired search := by
  rw [parseSearch, Option.getD_some, ← Utf16.repair_eq_self_iff]
  constructor
  · intro heq
    -- nothing was cut off, for the repaired search is as long
    obtain ⟨before, after, hparts, -, -⟩ := Utf16.exists_trim (repair search)
    have hsub : (Utf16.trim (repair search)).Sublist (repair search) := by
      conv_rhs => rw [hparts]
      exact (List.sublist_append_right before _).trans (List.sublist_append_left _ after)
    have hall := ((List.take_sublist SEARCH_MAX _).trans hsub).eq_of_length
      (by rw [heq, Utf16.length_repair])
    rw [← hall, heq]
  · intro heq
    rw [heq, h.trimmed, List.take_of_length_le h.length_le]

/-- So is one that is not written when it is empty. -/
theorem parseSearch_ite_iff {search : Text} (h : CanonicalSearch search) :
    parseSearch ((if !search.isEmpty then [search] else []).map repair).head? = search ↔
      Paired search := by
  cases search with
  | nil => exact ⟨fun _ => trivial, fun _ => rfl⟩
  | cons u t => exact parseSearch_repair_iff h

/-! ## The URL and the form -/

/-- What is repaired on its way is read by `repair`. -/
theorem repair_of_ascii {t : Text} (h : ∀ u ∈ t, u < 0x80) : repair t = t :=
  Utf16.repair_eq_self_iff.mpr (Utf16.paired_of_ascii h)

variable {numerals : Numerals} {q : CatalogueQuery}

/-- The names in the URL of a query are ASCII. -/
theorem ascii_of_mem_catalogueEntries {entry : Text × Text}
    (h : entry ∈ catalogueEntries numerals q) : repair entry.1 = entry.1 := by
  have hset : ∀ {given k v}, entry ∈ setIf given k v → repair k = k → repair entry.1 = entry.1 := by
    intro given k v hmem hk
    rw [fst_of_mem_setIf hmem, hk]
  simp only [catalogueEntries, List.mem_append] at h
  rcases h with ((((((hscope | hfacet) | hsearch) | hissue) | hmoney) | hsort) | hdir) | hpage
  · exact hset hscope (by decide)
  · obtain ⟨key, -, h⟩ := List.mem_flatMap.mp hfacet
    rw [fst_of_mem_appendAll h]
    cases key <;> decide
  · exact hset hsearch (by decide)
  · exact hset hissue (by decide)
  · cases hfilter : q.moneyFilter with
    | none => simp [hfilter] at hmoney
    | some money =>
        rw [hfilter] at hmoney
        exact hset hmoney (by decide)
  · exact hset hsort (by decide)
  · exact hset hdir (by decide)
  · exact hset hpage (by decide)

/-- The parameters of the URL of a query are read with their texts repaired. -/
theorem readsAs_toSearch : ReadsAs numerals repair q
    (paramsOf (Forms.parse (catalogueQueryToSearch numerals q))) where
  ascii _ h := repair_of_ascii h
  length_eq := Utf16.length_repair
  all_eq key _ := by
    rw [all_paramsOf, catalogueQueryToSearch, parse_toSearch,
      values_map repair fun entry h => ascii_of_mem_catalogueEntries h]

/-- The texts of a query come through a URL, and its page. -/
structure CatalogueQuery.Kept (q : CatalogueQuery) : Prop where
  search : Paired q.search
  issue : ∀ issue, q.healthFilter = some issue → Paired issue
  facets : ∀ key vs, q.selection key = some vs → ∀ v ∈ vs, Paired v
  page : Steady q.page

/-- Chosen values that are paired are repaired to themselves, and no others are. -/
theorem map_repair_iff (vs : Option (List Text)) :
    vs.map (List.map repair) = vs ↔ ∀ l, vs = some l → ∀ v ∈ l, Paired v := by
  cases vs with
  | none => simp
  | some l =>
      simp only [Option.map_some, Option.some.injEq, forall_eq']
      constructor
      · intro heq v hv
        rw [← Utf16.repair_eq_self_iff]
        exact List.map_eq_map_iff.mp (heq.trans (List.map_id l).symm) v hv
      · intro h
        refine (List.map_congr_left fun v hv => ?_).trans (List.map_id l)
        exact Utf16.repair_eq_self_iff.mpr (h v hv)

/-- So is a chosen issue. -/
theorem map_repair_issue_iff (issue : Option Text) :
    issue.map repair = issue ↔ ∀ t, issue = some t → Paired t := by
  cases issue with
  | none => simp
  | some t => simp [Utf16.repair_eq_self_iff]

/-- A query is read back from its URL exactly when its texts and its page come through. -/
theorem parse_toSearch_eq_iff (hq : q.Canonical) :
    parseCatalogueQuery numerals (paramsOf (Forms.parse (catalogueQueryToSearch numerals q))) = q ↔
      q.Kept := by
  have hone : one (paramsOf (Forms.parse (catalogueQueryToSearch numerals q))) (text "q") =
      ((if !q.search.isEmpty then [q.search] else []).map repair).head? := by
    rw [one, all_paramsOf, catalogueQueryToSearch, parse_toSearch,
      values_map repair fun entry h => ascii_of_mem_catalogueEntries h, values_catalogueEntries,
      values_facets (by decide), values_money]
    simp +decide only [values_setIf, if_true, if_false, List.append_nil, List.nil_append]
  rw [parseCatalogueQuery_eq readsAs_toSearch hq, hone]
  obtain ⟨scope, selection, healthFilter, moneyFilter, search, sortKey, desc, page⟩ := q
  simp only [CatalogueQuery.mk.injEq, true_and, funext_iff]
  rw [map_repair_issue_iff, parseSearch_ite_iff hq.search, reread_eq_iff _ hq.page_nonneg]
  simp only [map_repair_iff]
  exact ⟨fun ⟨hfacets, hissue, hsearch, hpage⟩ => ⟨hsearch, hissue, hfacets, hpage⟩,
    fun h => ⟨h.facets, h.issue, h.search, h.page⟩⟩

/-! ## The search form -/

/-- Without a search and on the first page, a query is canonical and its page comes back. -/
theorem CatalogueQuery.Canonical.cleared (hq : q.Canonical) :
    CatalogueQuery.Canonical { q with search := [], page := 0 } where
  search := ⟨rfl, Nat.zero_le _⟩
  page_nonneg := le_rfl
  facets := hq.facets
  issue := hq.issue

/-- The values of a name in a form that is sent, which repairs the texts of its fields again. -/
theorem all_postedParams {entries : List (Text × Text)} {key search : Text}
    (h : ∀ entry ∈ entries, repair entry.1 = entry.1) :
    all (postedParams (Forms.parse (Forms.dropQuestionMark (toSearch entries))) search) key =
      (values key entries).map (fun t => repair (repair t)) ++
        if text "q" = key then [repair search] else [] := by
  have hq : repair (text "q") = text "q" := by decide
  have hagain : ∀ entry ∈ entries, repair (repair entry.1) = entry.1 := fun entry hmem => by
    rw [h entry hmem, h entry hmem]
  have hmap : (entries.map fun entry => (repair entry.1, repair entry.2)).map
      (fun entry => (repair entry.1, repair entry.2)) =
        entries.map fun entry => (repair (repair entry.1), repair (repair entry.2)) := by
    rw [List.map_map]
    rfl
  rw [postedParams, all_paramsOf, Forms.parse_serialize, parse_dropQuestionMark_toSearch,
    List.map_append, values_append, hmap]
  congr 1
  · exact values_map (fun t => repair (repair t)) hagain
  · rw [List.map_singleton, values_cons, hq]
    rfl

/-- The parameters of the search form are read with their texts repaired twice. -/
theorem readsAs_posted (search : Text) :
    ReadsAs numerals (fun t => repair (repair t)) { q with search := [], page := 0 }
      (postedParams (catalogueQueryFields numerals q) search) where
  ascii t h := by
    rw [repair_of_ascii h, repair_of_ascii h]
  length_eq t := by
    rw [Utf16.length_repair, Utf16.length_repair]
  all_eq key hkey := by
    rw [catalogueQueryFields, catalogueQueryToSearch,
      all_postedParams fun entry h => ascii_of_mem_catalogueEntries h, if_neg hkey.symm,
      List.append_nil]

/-- With texts that come through, the search form is read as the query with the text of its box, on
the first page, exactly when that text comes through. -/
theorem parse_posted_eq_iff (hq : q.Canonical)
    (hissue : ∀ issue, q.healthFilter = some issue → Paired issue)
    (hfacets : ∀ key vs, q.selection key = some vs → ∀ v ∈ vs, Paired v) {search : Text}
    (hsearch : CanonicalSearch search) :
    parseCatalogueQuery numerals (postedParams (catalogueQueryFields numerals q) search) =
      { q with search, page := 0 } ↔ Paired search := by
  have hone : one (postedParams (catalogueQueryFields numerals q) search) (text "q") =
      some (repair search) := by
    rw [one, catalogueQueryFields, catalogueQueryToSearch,
      all_postedParams fun entry h => ascii_of_mem_catalogueEntries h, values_catalogueEntries,
      values_facets (by decide), values_money]
    simp +decide only [values_setIf, if_true, if_false, List.append_nil, List.nil_append,
      List.map_nil, List.isEmpty_nil, Bool.not_true, List.head?_cons]
  have htwice : ∀ t, Paired t → repair (repair t) = t := by
    intro t ht
    rw [Utf16.repair_eq_self_iff.mpr ht, Utf16.repair_eq_self_iff.mpr ht]
  have hselection : (fun key => (q.selection key).map (List.map fun t => repair (repair t))) =
      q.selection := by
    funext key
    cases hvs : q.selection key with
    | none => rfl
    | some vs =>
        refine congrArg some ((List.map_congr_left fun v hv => ?_).trans (List.map_id vs))
        exact htwice v (hfacets key vs hvs v hv)
  have hfilter : q.healthFilter.map (fun t => repair (repair t)) = q.healthFilter := by
    cases hissue' : q.healthFilter with
    | none => rfl
    | some issue => exact congrArg some (htwice issue (hissue issue hissue'))
  have hpage : reread numerals 0 = 0 :=
    (reread_eq_iff numerals le_rfl).mpr (steady_of_lt le_rfl (by norm_num))
  rw [parseCatalogueQuery_eq (readsAs_posted search) hq.cleared, hone]
  dsimp only
  rw [hselection, hfilter, hpage, ← parseSearch_repair_iff hsearch]
  constructor
  · exact fun heq => congrArg CatalogueQuery.search heq
  · intro heq
    rw [heq]

end Restock.Catalogue
