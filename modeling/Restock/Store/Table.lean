import Mathlib.Data.List.Nodup

/-!
# Keyed tables

A database table as the list of its rows, with the primary-key constraint carried by the
type: no two rows of a `Table` share a key. The operations are the ones a relational
store offers on one table, and each of them keeps the constraint:

* `Table.find` — the row under a primary key;
* `Table.update` — `UPDATE … SET f WHERE p`;
* `Table.insert` — `INSERT`, refused when the key is taken;
* `Table.erase` — `DELETE … WHERE p`.

`Table.matching p` lists the keys of the rows a `WHERE p` selects. It is what a statement
has to lock, and `update_matching` says that updating those keys is updating those rows.
-/

namespace Store

/-- A row type with a primary key. -/
class Keyed (R : Type) (K : outParam Type) where
  /-- The primary key of a row. -/
  key : R → K

/-- A table: rows with pairwise distinct primary keys. -/
structure Table (R : Type) {K : Type} [Keyed R K] where
  /-- The rows, in no order a query may rely on. -/
  rows : List R
  /-- The primary-key constraint. -/
  nodup : (rows.map Keyed.key).Nodup

namespace Table

variable {R K : Type} [Keyed R K]

/-- Two tables with the same rows are equal. -/
@[ext]
theorem ext {t u : Table R} (h : t.rows = u.rows) : t = u := by
  cases t; cases u; cases h; rfl

instance [DecidableEq R] : DecidableEq (Table R) := fun t u =>
  decidable_of_iff (t.rows = u.rows) ⟨ext, congrArg rows⟩

/-- The table without rows. -/
def empty : Table R := ⟨[], List.nodup_nil⟩

/-- The table of one row. -/
def single (r : R) : Table R := ⟨[r], List.nodup_singleton _⟩

variable [DecidableEq K]

/-- The row under a primary key. -/
def find (t : Table R) (k : K) : Option R :=
  t.rows.find? fun r => Keyed.key r = k

/-- `UPDATE … SET f WHERE p`. A primary key is never rewritten: a row on which `f` would
change the key is left alone. -/
def update (t : Table R) (p : R → Bool) (f : R → R) : Table R where
  rows := t.rows.map fun r => if p r ∧ Keyed.key (f r) = Keyed.key r then f r else r
  nodup := by
    have h : (t.rows.map fun r => if p r ∧ Keyed.key (f r) = Keyed.key r then f r else r).map
        Keyed.key = t.rows.map Keyed.key := by
      rw [List.map_map]
      refine List.map_congr_left fun r _ => ?_
      by_cases hr : p r ∧ Keyed.key (f r) = Keyed.key r
      · simp [hr]
      · simp [hr]
    rw [h]
    exact t.nodup

/-- `INSERT`. A row whose key is already taken is refused and the table stays as it is. -/
def insert (t : Table R) (r : R) : Table R :=
  if h : Keyed.key r ∈ t.rows.map Keyed.key then t
  else
    { rows := t.rows ++ [r]
      nodup := by
        rw [List.map_append, List.nodup_append]
        refine ⟨t.nodup, by simp, fun a ha b hb hab => h ?_⟩
        simp only [List.map_cons, List.map_nil, List.mem_singleton] at hb
        exact hb ▸ hab ▸ ha }

/-- `DELETE … WHERE p`. -/
def erase (t : Table R) (p : R → Bool) : Table R where
  rows := t.rows.filter fun r => !p r
  nodup := t.nodup.sublist (List.filter_sublist.map _)

/-- The keys of the rows a `WHERE p` selects. -/
def matching (t : Table R) (p : R → Bool) : List K :=
  (t.rows.filter p).map Keyed.key

/-! ### Looking rows up -/

/-- A key finds exactly the row that carries it. -/
theorem find_eq_some {t : Table R} {k : K} {r : R} :
    t.find k = some r ↔ r ∈ t.rows ∧ Keyed.key r = k := by
  constructor
  · intro h
    exact ⟨List.mem_of_find?_eq_some h, by simpa using List.find?_some h⟩
  · rintro ⟨hmem, rfl⟩
    cases hf : t.find (Keyed.key r) with
    | none =>
        have := List.find?_eq_none.mp hf r hmem
        simp at this
    | some r' =>
        have hr' : r' ∈ t.rows := List.mem_of_find?_eq_some hf
        have hk : Keyed.key r' = Keyed.key r := by simpa using List.find?_some hf
        rw [List.inj_on_of_nodup_map t.nodup hr' hmem hk]

/-- A key finds nothing when no row carries it. -/
theorem find_eq_none {t : Table R} {k : K} :
    t.find k = none ↔ ∀ r ∈ t.rows, Keyed.key r ≠ k := by
  simp [find]

omit [DecidableEq K] in
/-- Rows with the same key are the same row. -/
theorem eq_of_key_eq {t : Table R} {r r' : R} (hr : r ∈ t.rows) (hr' : r' ∈ t.rows)
    (h : Keyed.key r = Keyed.key r') : r = r' :=
  List.inj_on_of_nodup_map t.nodup hr hr' h

omit [DecidableEq K] in
/-- Of more than one row with a property, one is outside any given key. -/
theorem exists_key_ne {t : Table R} {p : R → Bool} (k : K) (h : 1 < (t.rows.filter p).length) :
    ∃ r ∈ t.rows, p r ∧ Keyed.key r ≠ k := by
  by_contra hnone
  -- then they all carry the one key, which only one row does
  have hall : ∀ r ∈ t.rows.filter p, Keyed.key r = k := by
    intro r hr
    obtain ⟨hmem, hp⟩ := List.mem_filter.mp hr
    by_contra hne
    exact hnone ⟨r, hmem, hp, hne⟩
  have hnodup : ((t.rows.filter p).map Keyed.key).Nodup :=
    t.nodup.sublist (List.filter_sublist.map _)
  rw [List.map_congr_left hall, List.map_const', List.nodup_replicate] at hnodup
  exact absurd h (Nat.not_lt.mpr hnodup)

omit [DecidableEq K] in
/-- Rows with a property under two keys are more than one. -/
theorem one_lt_of_key_ne {t : Table R} {p : R → Bool} {r r' : R} (hr : r ∈ t.rows) (hp : p r)
    (hr' : r' ∈ t.rows) (hp' : p r') (hne : Keyed.key r ≠ Keyed.key r') :
    1 < (t.rows.filter p).length := by
  by_contra hle
  have hmem := List.mem_filter.mpr ⟨hr, hp⟩
  have hmem' := List.mem_filter.mpr ⟨hr', hp'⟩
  obtain ⟨x, hx⟩ := List.length_eq_one_iff.mp
    (Nat.le_antisymm (Nat.not_lt.mp hle) (List.length_pos_of_mem hmem))
  rw [hx, List.mem_singleton] at hmem hmem'
  exact hne (by rw [hmem, hmem'])

/-- A row of the table is found under its key. -/
theorem find_key {t : Table R} {r : R} (hr : r ∈ t.rows) : t.find (Keyed.key r) = some r :=
  find_eq_some.mpr ⟨hr, rfl⟩

/-! ### Updates -/

/-- The rows after an update that keeps keys. -/
theorem rows_update (t : Table R) (p : R → Bool) {f : R → R}
    (hf : ∀ r, Keyed.key (f r) = Keyed.key r) :
    (t.update p f).rows = t.rows.map fun r => if p r then f r else r := by
  simp [update, hf]

/-- Looking up after an update that keeps keys. -/
theorem find_update (t : Table R) (p : R → Bool) {f : R → R}
    (hf : ∀ r, Keyed.key (f r) = Keyed.key r) (k : K) :
    (t.update p f).find k = (t.find k).map fun r => if p r then f r else r := by
  have hkey : ∀ r : R, Keyed.key (if p r then f r else r) = Keyed.key r := by
    intro r
    by_cases h : p r <;> simp [h, hf]
  simp only [find, rows_update t p hf, List.find?_map]
  congr 2
  funext r
  simp [hkey]

/-- Looking up after an update of the row under one key. -/
theorem find_update_key (t : Table R) {p : R → Bool} {f : R → R} {k₀ : K}
    (hf : ∀ r, Keyed.key (f r) = Keyed.key r) (hp : ∀ r, p r ↔ Keyed.key r = k₀) (k : K) :
    (t.update p f).find k = if k = k₀ then (t.find k).map f else t.find k := by
  rw [find_update t p hf]
  cases hfind : t.find k with
  | none => simp
  | some r =>
      have hk : Keyed.key r = k := by simpa using List.find?_some hfind
      by_cases h : k = k₀ <;> simp [hp, hk, h]

/-- Looking up a row that an update does not select. -/
theorem find_update_of_not {t : Table R} {p : R → Bool} {f : R → R} {k : K}
    (h : ∀ r, Keyed.key r = k → p r = false) : (t.update p f).find k = t.find k := by
  have hkey : ∀ r : R, Keyed.key (if p r ∧ Keyed.key (f r) = Keyed.key r then f r else r)
      = Keyed.key r := by
    intro r
    by_cases h : p r ∧ Keyed.key (f r) = Keyed.key r <;> simp [h]
  simp only [find, update, List.find?_map]
  have hfun : ((fun r : R => decide (Keyed.key r = k)) ∘
      fun r => if p r ∧ Keyed.key (f r) = Keyed.key r then f r else r)
      = fun r => decide (Keyed.key r = k) := by
    funext r
    simp [hkey]
  rw [hfun]
  cases hfind : t.rows.find? fun r => decide (Keyed.key r = k) with
  | none => rfl
  | some r =>
      have hk : Keyed.key r = k := by simpa using List.find?_some hfind
      simp [h r hk]

/-- Updates that agree on the rows of the table are the same update. -/
theorem update_congr {t : Table R} {p q : R → Bool} {f g : R → R}
    (hp : ∀ r ∈ t.rows, p r = q r) (hf : ∀ r ∈ t.rows, q r → f r = g r) :
    t.update p f = t.update q g := by
  refine ext (List.map_congr_left fun r hr => ?_)
  rw [hp r hr]
  by_cases hq : q r
  · simp only [hf r hr hq]
  · simp [hq]

/-- An update that selects no row changes nothing. -/
theorem update_of_forall_not {t : Table R} {p : R → Bool} (f : R → R)
    (h : ∀ r ∈ t.rows, p r = false) : t.update p f = t := by
  refine ext ((List.map_congr_left fun r hr => ?_).trans (List.map_id _))
  simp [h r hr]

/-- Rows of the same keys are there after an update. -/
theorem isSome_find_update (t : Table R) (p : R → Bool) (f : R → R) (k : K) :
    ((t.update p f).find k).isSome = (t.find k).isSome := by
  rw [Bool.eq_iff_iff, Option.isSome_iff_exists, Option.isSome_iff_exists]
  simp only [find_eq_some, update, List.mem_map]
  constructor
  · rintro ⟨_, ⟨r, hr, rfl⟩, hk⟩
    refine ⟨r, hr, ?_⟩
    by_cases h : p r ∧ Keyed.key (f r) = Keyed.key r
    · rw [if_pos h] at hk
      exact h.2 ▸ hk
    · rwa [if_neg h] at hk
  · rintro ⟨r, hr, hk⟩
    refine ⟨_, ⟨r, hr, rfl⟩, ?_⟩
    by_cases h : p r ∧ Keyed.key (f r) = Keyed.key r
    · rw [if_pos h, h.2, hk]
    · rw [if_neg h, hk]

/-- The keys a `WHERE` selects are those of the rows that satisfy it. -/
theorem mem_matching {t : Table R} {p : R → Bool} {k : K} :
    k ∈ t.matching p ↔ ∃ r, t.find k = some r ∧ p r := by
  simp only [matching, List.mem_map, List.mem_filter, find_eq_some]
  constructor
  · rintro ⟨r, ⟨hr, hp⟩, rfl⟩
    exact ⟨r, ⟨hr, rfl⟩, hp⟩
  · rintro ⟨r, ⟨hr, rfl⟩, hp⟩
    exact ⟨r, ⟨hr, hp⟩, rfl⟩

/-- A row of the table has its key selected exactly when it satisfies the `WHERE`. -/
theorem key_mem_matching {t : Table R} {p : R → Bool} {r : R} (hr : r ∈ t.rows) :
    Keyed.key r ∈ t.matching p ↔ p r := by
  rw [mem_matching, find_key hr]
  simp

/-- Updating the selected keys is updating the selected rows. -/
theorem update_matching (t : Table R) (p : R → Bool) (f : R → R) :
    t.update (fun r => Keyed.key r ∈ t.matching p) f = t.update p f := by
  ext1
  refine List.map_congr_left fun r hr => ?_
  simp only [key_mem_matching hr, decide_eq_true_eq]

/-- Deleting the selected keys is deleting the selected rows. -/
theorem erase_matching (t : Table R) (p : R → Bool) :
    t.erase (fun r => Keyed.key r ∈ t.matching p) = t.erase p := by
  refine ext (List.filter_congr fun r hr => ?_)
  rw [Bool.not_inj_iff, Bool.eq_iff_iff, decide_eq_true_iff, key_mem_matching hr]

omit [DecidableEq K] in
/-- Deleting nothing changes nothing. -/
theorem erase_of_forall_not {t : Table R} {p : R → Bool} (h : ∀ r ∈ t.rows, p r = false) :
    t.erase p = t := by
  refine ext (List.filter_eq_self.mpr fun r hr => ?_)
  simp [h r hr]

/-! ### Inserts and deletes -/

/-- The rows after an insert under a fresh key. -/
theorem rows_insert {t : Table R} {r : R} (h : t.find (Keyed.key r) = none) :
    (t.insert r).rows = t.rows ++ [r] := by
  have hmem : Keyed.key r ∉ t.rows.map Keyed.key := by
    rw [find_eq_none] at h
    simpa using h
  simp [insert, hmem]

/-- Looking up after an insert under a fresh key. -/
theorem find_insert {t : Table R} {r : R} (h : t.find (Keyed.key r) = none) (k : K) :
    (t.insert r).find k = if Keyed.key r = k then some r else t.find k := by
  rw [find, rows_insert h, List.find?_append]
  by_cases hk : Keyed.key r = k
  · subst hk
    rw [find] at h
    simp [h]
  · simp [hk, find]

/-- Looking up another key after an insert. -/
theorem find_insert_of_ne {t : Table R} {r : R} {k : K} (h : Keyed.key r ≠ k) :
    (t.insert r).find k = t.find k := by
  cases hf : t.find (Keyed.key r) with
  | none => rw [find_insert hf, if_neg h]
  | some r' =>
      obtain ⟨hr', hk⟩ := find_eq_some.mp hf
      have hmem : Keyed.key r ∈ t.rows.map Keyed.key := List.mem_map.mpr ⟨r', hr', hk⟩
      simp [insert, hmem]

/-- An inserted row is among the old rows or is the new one. -/
theorem mem_insert {t : Table R} {r x : R} (h : x ∈ (t.insert r).rows) :
    x ∈ t.rows ∨ x = r := by
  unfold insert at h
  split at h
  · exact Or.inl h
  · simpa using h

/-- A row that was there is still there after an insert. -/
theorem mem_insert_of_mem {t : Table R} {r x : R} (h : x ∈ t.rows) : x ∈ (t.insert r).rows := by
  unfold insert
  split
  · exact h
  · simp [h]

/-- Looking up after a delete. -/
theorem find_erase (t : Table R) (p : R → Bool) (k : K) :
    (t.erase p).find k = (t.find k).filter fun r => !p r := by
  cases hf : t.find k with
  | none =>
      rw [find_eq_none] at hf
      rw [Option.filter_none, find_eq_none]
      intro r hr
      exact hf r (List.mem_filter.mp hr).1
  | some r =>
      obtain ⟨hr, hk⟩ := find_eq_some.mp hf
      by_cases hp : p r
      · rw [Option.filter_some, if_neg (by simp [hp]), find_eq_none]
        intro r' hr' hk'
        obtain ⟨hmem, hnp⟩ := List.mem_filter.mp hr'
        rw [eq_of_key_eq hmem hr (hk'.trans hk.symm)] at hnp
        simp [hp] at hnp
      · rw [Option.filter_some, if_pos (by simp [hp]), find_eq_some]
        exact ⟨List.mem_filter.mpr ⟨hr, by simp [hp]⟩, hk⟩

end Table

end Store
