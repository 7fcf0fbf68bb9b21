import Mathlib.Algebra.BigOperators.Group.List.Basic
import Mathlib.Tactic.Abel
import Restock.Store.Table

/-!
# Upserts

An upsert by primary key, of which the update leaves the row that the insert would: afterwards
the row is under its key, whatever was there.

* `Table.upsert` — `INSERT … ON CONFLICT DO UPDATE`;
* `Table.find_upsert` — looking up afterwards;
* `Table.sum_upsert` — a sum over the rows afterwards;
* `Table.sum_key` — a sum over the row under one key.
-/

namespace Store

namespace Table

variable {R K : Type} [Keyed R K] [DecidableEq K]

/-- Update the row under `r`'s key, or insert `r` when there is none. -/
def upsert (t : Table R) (r : R) (f : R → R) : Table R :=
  if (t.find (Keyed.key r)).isSome then t.update (fun x => Keyed.key x = Keyed.key r) f
  else t.insert r

/-- The row under a key among the rows: no other one carries the key. -/
theorem rows_eq_of_find {t : Table R} {k : K} {r : R} (h : t.find k = some r) :
    ∃ before after, t.rows = before ++ r :: after ∧
      ∀ x ∈ before ++ after, Keyed.key x ≠ k := by
  obtain ⟨hr, rfl⟩ := find_eq_some.mp h
  obtain ⟨before, after, hsplit⟩ := List.append_of_mem hr
  have hnodup := t.nodup
  rw [hsplit, List.map_append, List.map_cons, List.nodup_middle, List.nodup_cons,
    ← List.map_append] at hnodup
  exact ⟨before, after, hsplit, fun x hx heq => hnodup.1 (heq ▸ List.mem_map_of_mem hx)⟩

/-- Looking up after an upsert whose update leaves the row it would insert. -/
theorem find_upsert (t : Table R) {r : R} {f : R → R}
    (hf : ∀ x, Keyed.key x = Keyed.key r → f x = r) (k : K) :
    (t.upsert r f).find k = if Keyed.key r = k then some r else t.find k := by
  have hkey : t.update (fun x => Keyed.key x = Keyed.key r) f
      = t.update (fun x => Keyed.key x = Keyed.key r) fun x =>
          if Keyed.key x = Keyed.key r then r else x :=
    update_congr (fun _ _ => rfl) fun x _ hx => by
      rw [if_pos (of_decide_eq_true hx), hf x (of_decide_eq_true hx)]
  have hkeep : ∀ x : R, Keyed.key (if Keyed.key x = Keyed.key r then r else x) = Keyed.key x := by
    intro x
    by_cases hx : Keyed.key x = Keyed.key r <;> simp [hx]
  unfold upsert
  cases hfind : t.find (Keyed.key r) with
  | none =>
      rw [if_neg (by simp), find_insert hfind]
  | some old =>
      rw [if_pos Option.isSome_some, hkey, find_update_key t hkeep (fun _ => decide_eq_true_iff) k]
      by_cases hk : k = Keyed.key r
      · subst hk
        rw [if_pos rfl, if_pos rfl, hfind, Option.map_some, if_pos (find_eq_some.mp hfind).2]
      · rw [if_neg hk, if_neg (Ne.symm hk)]

/-- A sum over the rows after such an upsert: the row that was there no longer counts, and the
new one does. -/
theorem sum_upsert {V : Type} [AddCommGroup V] (t : Table R) {r : R} {f : R → R}
    (hf : ∀ x, Keyed.key x = Keyed.key r → f x = r) (g : R → V) :
    ((t.upsert r f).rows.map g).sum
      = (t.rows.map g).sum - ((t.find (Keyed.key r)).map g).getD 0 + g r := by
  unfold upsert
  cases hfind : t.find (Keyed.key r) with
  | none =>
      rw [if_neg (by simp), rows_insert hfind]
      simp
  | some old =>
      rw [if_pos Option.isSome_some]
      have hkey := (find_eq_some.mp hfind).2
      obtain ⟨before, after, hsplit, hothers⟩ := rows_eq_of_find hfind
      have hrows : (t.update (fun x => Keyed.key x = Keyed.key r) f).rows
          = t.rows.map fun x => if Keyed.key x = Keyed.key r then r else x := by
        refine List.map_congr_left fun x _ => ?_
        by_cases hx : Keyed.key x = Keyed.key r
        · simp [hx, hf x hx]
        · simp [hx]
      have hsame : ∀ xs : List R, (∀ x ∈ xs, Keyed.key x ≠ Keyed.key r) →
          (xs.map fun x => if Keyed.key x = Keyed.key r then r else x) = xs := by
        intro xs hxs
        exact (List.map_congr_left fun x hx => if_neg (hxs x hx)).trans (List.map_id _)
      rw [hrows, hsplit, List.map_append, List.map_cons, if_pos hkey,
        hsame before fun x hx => hothers x (List.mem_append_left _ hx),
        hsame after fun x hx => hothers x (List.mem_append_right _ hx)]
      simp only [List.map_append, List.map_cons, List.sum_append, List.sum_cons, Option.map_some,
        Option.getD_some]
      abel

/-- Such an upsert of a row that is there already changes nothing. -/
theorem upsert_eq_self {t : Table R} {r : R} {f : R → R}
    (hf : ∀ x, Keyed.key x = Keyed.key r → f x = r) (h : t.find (Keyed.key r) = some r) :
    t.upsert r f = t := by
  unfold upsert
  rw [h, if_pos Option.isSome_some]
  refine ext ((List.map_congr_left fun x hx => ?_).trans (List.map_id _))
  by_cases hkey : Keyed.key x = Keyed.key r
  · have hx : x = r := eq_of_key_eq hx (find_eq_some.mp h).1 hkey
    simp [hx, hf r rfl]
  · simp [hkey]

/-- A sum over the row under a key. -/
theorem sum_key {V : Type} [AddCommGroup V] (t : Table R) (k : K) (g : R → V) :
    (t.rows.map fun r => if Keyed.key r = k then g r else 0).sum
      = ((t.find k).map g).getD 0 := by
  have hzero : ∀ xs : List R, (∀ x ∈ xs, Keyed.key x ≠ k) →
      (xs.map fun r => if Keyed.key r = k then g r else 0).sum = 0 := by
    intro xs hxs
    rw [List.map_congr_left fun r hr => if_neg (hxs r hr)]
    simp
  cases hfind : t.find k with
  | none => exact hzero t.rows (find_eq_none.mp hfind)
  | some r =>
      obtain ⟨before, after, hsplit, hothers⟩ := rows_eq_of_find hfind
      rw [hsplit, List.map_append, List.sum_append, List.map_cons, List.sum_cons,
        hzero before fun x hx => hothers x (List.mem_append_left _ hx),
        hzero after fun x hx => hothers x (List.mem_append_right _ hx),
        if_pos (find_eq_some.mp hfind).2]
      simp

end Table

end Store
