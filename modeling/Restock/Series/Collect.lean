import Mathlib.Data.List.Induction
import Restock.Series.Entries
import Restock.Series.Groups

/-!
# Values collected under keys

A loop that gets what a map holds under the key of each entry, or something new where it holds
nothing, brings the value of the entry into it and sets it again.

* `collect` — the map it builds;
* `getEntry_groups` — getting what is grouped under a key;
* `collect_eq` — what it holds under a key is made of the values of that key alone;
* `foldl_collect` — several turns of the loop for each element are one loop over all turns.
-/

namespace Series

variable {K V A : Type} [DecidableEq K]

/-- One turn of the loop. -/
def bring (init : K → A) (update : A → V → A) (t : List (K × A)) (e : K × V) : List (K × A) :=
  setEntry t e.1 (update ((getEntry t e.1).getD (init e.1)) e.2)

/-- The map that the loop builds. -/
def collect (init : K → A) (update : A → V → A) (entries : List (K × V)) : List (K × A) :=
  entries.foldl (bring init update) []

/-! ## A map that lists what a function gives -/

section Listed

variable (f : K → A) {ks : List K} {k : K}

/-- Getting a key of a map that lists what a function gives some keys. -/
theorem getEntry_listed (ks : List K) (k : K) :
    getEntry (ks.map fun k => (k, f k)) k = if k ∈ ks then some (f k) else none := by
  unfold getEntry
  induction ks with
  | nil => rfl
  | cons k' ks ih =>
      rw [List.map_cons, lookup_cons_eq, ih]
      by_cases hk : k = k'
      · rw [if_pos hk, if_pos (by simp [hk]), hk]
      · rw [if_neg hk]
        simp [hk]

/-- Getting the values of a key from the groups of some entries. -/
theorem getEntry_groups (entries : List (K × V)) (k : K) :
    (getEntry (groups entries) k).getD [] = valuesAt entries k := by
  rw [groups, getEntry_listed]
  by_cases hk : k ∈ (entries.map Prod.fst).eraseDups
  · rw [if_pos hk, Option.getD_some]
  · have hnone : valuesAt entries k = [] :=
      not_not.mp (mt valuesAt_ne_nil.mp (mt List.mem_eraseDups.mpr hk))
    rw [if_neg hk, Option.getD_none, hnone]

/-- Setting a key of a map that lists what a function gives some distinct keys. -/
theorem setEntry_listed (hks : ks.Nodup) (hk : k ∈ ks) (a : A) :
    setEntry (ks.map fun k => (k, f k)) k a
      = ks.map fun k' => (k', if k' = k then a else f k') := by
  induction ks with
  | nil => exact absurd hk List.not_mem_nil
  | cons k' ks ih =>
      obtain ⟨hnew, hks⟩ := List.nodup_cons.mp hks
      rw [List.map_cons, List.map_cons, setEntry]
      by_cases heq : k' = k
      · subst heq
        rw [if_pos rfl, if_pos rfl]
        -- the key is not listed again
        refine congrArg _ (List.map_congr_left fun k hmem => ?_)
        have hne : k ≠ k' := by
          rintro rfl
          exact hnew hmem
        rw [if_neg hne]
      · rw [if_neg heq, if_neg heq, ih hks ((List.mem_cons.mp hk).resolve_left (Ne.symm heq))]

end Listed

/-! ## The loop -/

section Collect

variable (init : K → A) (update : A → V → A)

/-- A key at the end is listed unless it was. -/
theorem eraseDups_concat (ks : List K) (k : K) :
    (ks ++ [k]).eraseDups = if k ∈ ks then ks.eraseDups else ks.eraseDups ++ [k] := by
  rw [List.eraseDups_append]
  by_cases hk : k ∈ ks
  · simp [List.removeAll, hk]
  · simp [List.removeAll, hk, List.eraseDups_cons]

/-- The values under a key with one more entry. -/
theorem valuesAt_concat (entries : List (K × V)) (e : K × V) (k : K) :
    valuesAt (entries ++ [e]) k = valuesAt entries k ++ if k = e.1 then [e.2] else [] := by
  rw [valuesAt, valuesAt, List.filter_append, List.map_append]
  by_cases hk : k = e.1
  · simp [hk]
  · simp [hk, Ne.symm hk]

/-- Under each key the loop holds what the values of that key make, one after the other, and keys
stand in the order in which they first appear. -/
theorem collect_eq (entries : List (K × V)) :
    collect init update entries
      = (groups entries).map fun g => (g.1, g.2.foldl update (init g.1)) := by
  induction entries using List.reverseRecOn with
  | nil => rfl
  | append_singleton entries e ih =>
      have hlisted : collect init update entries = (entries.map Prod.fst).eraseDups.map fun k =>
          (k, (valuesAt entries k).foldl update (init k)) := by
        rw [ih, groups, List.map_map]
        rfl
      have hturn : collect init update (entries ++ [e])
          = bring init update (collect init update entries) e := by
        rw [collect, List.foldl_append]
        rfl
      rw [hturn, hlisted, bring, getEntry_listed, groups, List.map_map, List.map_append,
        List.map_singleton, eraseDups_concat]
      by_cases hk : e.1 ∈ entries.map Prod.fst
      · -- the key is there: its values have one more
        have hmem := List.mem_eraseDups.mpr hk
        rw [if_pos hmem, if_pos hk, Option.getD_some, setEntry_listed _ (nodup_eraseDups _) hmem]
        refine List.map_congr_left fun k _ => Prod.ext rfl ?_
        show (if k = e.1 then _ else _) = (valuesAt (entries ++ [e]) k).foldl update (init k)
        rw [valuesAt_concat]
        by_cases heq : k = e.1
        · subst heq
          rw [if_pos rfl, if_pos rfl, List.foldl_append]
          rfl
        · rw [if_neg heq, if_neg heq, List.append_nil]
      · -- the key is new: it has this value alone
        have hmem := mt List.mem_eraseDups.mp hk
        have hnone : valuesAt entries e.1 = [] := not_not.mp (mt valuesAt_ne_nil.mp hk)
        have hkeys : e.1 ∉ ((entries.map Prod.fst).eraseDups.map fun k =>
            (k, (valuesAt entries k).foldl update (init k))).map Prod.fst := by
          rw [List.map_map]
          show e.1 ∉ (entries.map Prod.fst).eraseDups.map id
          rwa [List.map_id]
        rw [if_neg hmem, if_neg hk, setEntry_of_not_mem hkeys, List.map_append]
        refine congrArg₂ _ (List.map_congr_left fun k hin => Prod.ext rfl ?_) ?_
        · show _ = (valuesAt (entries ++ [e]) k).foldl update (init k)
          have hne : k ≠ e.1 := fun heq => hmem (heq ▸ hin)
          rw [valuesAt_concat, if_neg hne, List.append_nil]
        · rw [List.map_singleton]
          show _ = [(e.1, (valuesAt (entries ++ [e]) e.1).foldl update (init e.1))]
          rw [valuesAt_concat, if_pos rfl, hnone]
          rfl

/-- Several turns for each element of a list are one loop over all the turns. -/
theorem foldl_collect {α : Type} (turns : α → List (K × V)) (xs : List α) :
    xs.foldl (fun t x => (turns x).foldl (bring init update) t) []
      = collect init update (xs.flatMap turns) := by
  rw [collect, List.foldl_flatMap]

end Collect

end Series
