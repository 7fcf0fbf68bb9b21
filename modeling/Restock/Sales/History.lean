import Restock.Series.Slices
import Restock.Shop.Schema

/-!
# The sales history

The table `SalesHistory`: what sold of a product on a trading day, through a channel and at
a branch. Its unique key holds one row per product, day, channel and branch; rows without a
branch are all distinct to it. The generated id of a row, which no statement selects by, is
left out.

* `SalesHistory`, `SalesTable` — rows, and a table of rows that keeps the unique key;
* `SalesTable.deleteMany`, `SalesTable.createMany` — the two statements of the writers;
* `createMany_eq_some`, `createManyBy_eq_some` — an insert, in one statement or by chunks, goes
  through when its rows are new to the table.
-/

namespace Restock.Sales

/-- `SalesHistory.channel`. -/
inductive Channel
  | shopify
  | pos
  | other (name : String)
  deriving DecidableEq, Repr

/-- `SalesHistory`. -/
structure SalesHistory where
  productId : ProductId
  date : Time
  quantity : ℚ
  revenueKes : ℚ
  channel : Channel := .shopify
  locationId : Option LocationId := none
  deriving DecidableEq, Repr

/-- The unique key does not allow the two rows beside each other. -/
def SalesHistory.Clash (r r' : SalesHistory) : Prop :=
  r.productId = r'.productId ∧ r.date = r'.date ∧ r.channel = r'.channel ∧
    r.locationId = r'.locationId ∧ r.locationId ≠ none

instance (r r' : SalesHistory) : Decidable (r.Clash r') :=
  inferInstanceAs (Decidable (_ ∧ _))

/-- The rows of a tenant, which keep the unique key. -/
structure SalesTable where
  rows : List SalesHistory
  /-- `@@unique([productId, date, channel, locationId])`. -/
  unique : rows.Pairwise fun r r' => ¬ r.Clash r'
  deriving DecidableEq

namespace SalesTable

/-- Two tables with the same rows are equal. -/
@[ext]
theorem ext {t u : SalesTable} (h : t.rows = u.rows) : t = u := by
  cases t; cases u; cases h; rfl

/-- The table without rows. -/
def empty : SalesTable := ⟨[], List.Pairwise.nil⟩

/-- `DELETE … WHERE p`. -/
def deleteMany (t : SalesTable) (p : SalesHistory → Bool) : SalesTable where
  rows := t.rows.filter fun r => !p r
  unique := t.unique.sublist List.filter_sublist

/-- `INSERT` of several rows; nothing when the unique key does not allow them. -/
def createMany (t : SalesTable) (data : List SalesHistory) : Option SalesTable :=
  if h : (t.rows ++ data).Pairwise fun r r' => ¬ r.Clash r' then some ⟨t.rows ++ data, h⟩
  else none

/-- Inserts of several rows, a number of them at a time. -/
def createManyBy (n : ℕ) (t : SalesTable) (data : List SalesHistory) : Option SalesTable :=
  (Series.slices n data).foldlM createMany t

variable {t : SalesTable} {p q : SalesHistory → Bool} {data : List SalesHistory}

@[simp] theorem rows_deleteMany : (t.deleteMany p).rows = t.rows.filter fun r => !p r := rfl

/-- What is in the table after an insert. -/
theorem rows_of_createMany {u : SalesTable} (h : t.createMany data = some u) :
    u.rows = t.rows ++ data := by
  unfold createMany at h
  split at h
  · rw [← Option.some.inj h]
  · cases h

/-- An insert goes through when no two of its rows clash, and none clashes with the table. -/
theorem createMany_eq_some (hdata : data.Pairwise fun r r' => ¬ r.Clash r')
    (hnew : ∀ r ∈ t.rows, ∀ r' ∈ data, ¬ r.Clash r') :
    ∃ u, t.createMany data = some u ∧ u.rows = t.rows ++ data := by
  have hpair : (t.rows ++ data).Pairwise fun r r' => ¬ r.Clash r' :=
    List.pairwise_append.mpr ⟨t.unique, hdata, hnew⟩
  exact ⟨⟨t.rows ++ data, hpair⟩, dif_pos hpair, rfl⟩

/-- Inserts by chunks go through when no two of their rows clash, and none clashes with the
table. -/
theorem foldlM_createMany_eq_some {chunks : List (List SalesHistory)}
    (h : (t.rows ++ chunks.flatten).Pairwise fun r r' => ¬ r.Clash r') :
    ∃ u, chunks.foldlM createMany t = some u ∧ u.rows = t.rows ++ chunks.flatten := by
  induction chunks generalizing t with
  | nil => exact ⟨t, rfl, by simp⟩
  | cons chunk chunks ih =>
      rw [List.flatten_cons, ← List.append_assoc] at h
      obtain ⟨hfirst, _, _⟩ := List.pairwise_append.mp h
      obtain ⟨_, hchunk, hnew⟩ := List.pairwise_append.mp hfirst
      obtain ⟨u, hu, hrows⟩ := createMany_eq_some hchunk hnew
      obtain ⟨v, hv, hrows'⟩ := ih (by rwa [hrows])
      refine ⟨v, ?_, by rw [hrows', hrows, List.flatten_cons, List.append_assoc]⟩
      rw [List.foldlM_cons, hu]
      exact hv

/-- Inserts a number of rows at a time add all the rows. -/
theorem createManyBy_eq_some {n : ℕ} (hn : 0 < n)
    (hdata : data.Pairwise fun r r' => ¬ r.Clash r')
    (hnew : ∀ r ∈ t.rows, ∀ r' ∈ data, ¬ r.Clash r') :
    ∃ u, t.createManyBy n data = some u ∧ u.rows = t.rows ++ data := by
  have hpair : (t.rows ++ (Series.slices n data).flatten).Pairwise fun r r' => ¬ r.Clash r' := by
    rw [Series.flatten_slices hn]
    exact List.pairwise_append.mpr ⟨t.unique, hdata, hnew⟩
  obtain ⟨u, hu, hrows⟩ := foldlM_createMany_eq_some hpair
  rw [Series.flatten_slices hn] at hrows
  exact ⟨u, hu, hrows⟩

/-- Two deletes are one delete. -/
theorem deleteMany_deleteMany :
    (t.deleteMany p).deleteMany q = t.deleteMany fun r => p r || q r := by
  ext1
  simp only [rows_deleteMany, List.filter_filter]
  refine List.filter_congr fun r _ => ?_
  cases p r <;> cases q r <;> rfl

end SalesTable

end Restock.Sales
