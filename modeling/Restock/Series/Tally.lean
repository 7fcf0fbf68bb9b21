import Mathlib.Algebra.BigOperators.Group.Finset.Basic

/-!
# Totals by key

A map from keys to running totals, kept in the order in which the keys first appear. It is
what a loop `map.set(k, (map.get(k) ?? 0) + v)` builds.

* `addTo`, `tally` — one step of the loop, and the whole of it;
* `total` — what the entries under a key come to;
* `tally_perm` — up to order, the tally lists every key once, with its total;
* `sum_tally` — nothing is lost on the way;
* `tally_congr` — the same keys and totals give the same tally, up to order;
* `filter_tally` — the totals of some keys are those of their entries.
-/

namespace Series

variable {K V : Type} [DecidableEq K] [AddCommMonoid V]

/-- Add a value to the total of a key. -/
def addTo : List (K × V) → K → V → List (K × V)
  | [], k, v => [(k, v)]
  | (k', w) :: t, k, v => if k' = k then (k', w + v) :: t else (k', w) :: addTo t k v

/-- The totals of all entries. -/
def tally (entries : List (K × V)) : List (K × V) :=
  entries.foldl (fun t e => addTo t e.1 e.2) []

/-- What the entries under a key come to. -/
def total (entries : List (K × V)) (k : K) : V :=
  ((entries.filter fun e => e.1 = k).map Prod.snd).sum

/-- The total of a key in a map of totals; nothing is zero. -/
def totalIn (t : List (K × V)) (k : K) : V :=
  (t.lookup k).getD 0

/-! ## Totals of entries -/

section Total

variable (entries more : List (K × V)) (k : K)

@[simp] theorem total_nil : total ([] : List (K × V)) k = 0 := rfl

theorem total_cons (e : K × V) :
    total (e :: entries) k = (if e.1 = k then e.2 else 0) + total entries k := by
  by_cases h : e.1 = k <;> simp [total, h]

variable {entries more k}

/-- A key without entries has the total zero. -/
theorem total_eq_zero (h : k ∉ entries.map Prod.fst) : total entries k = 0 := by
  have hnil : entries.filter (fun e => e.1 = k) = [] := by
    refine List.filter_eq_nil_iff.mpr fun e he heq => h ?_
    rw [← of_decide_eq_true heq]
    exact List.mem_map_of_mem he
  rw [total, hnil]
  rfl

/-- The total of a key that has one entry. -/
theorem total_of_mem (h : (entries.map Prod.fst).Nodup) {e : K × V} (he : e ∈ entries) :
    total entries e.1 = e.2 := by
  induction entries with
  | nil => cases he
  | cons e' entries ih =>
      obtain ⟨hnew, htail⟩ := List.nodup_cons.mp h
      rw [total_cons]
      rcases List.mem_cons.mp he with rfl | hmem
      · rw [if_pos rfl, total_eq_zero hnew, add_zero]
      · have hne : e'.1 ≠ e.1 := fun heq => hnew (heq ▸ List.mem_map_of_mem hmem)
        rw [if_neg hne, zero_add, ih htail hmem]

end Total

/-- Terms that are not positive may be left out of a sum without negative terms. -/
theorem sum_filter_pos {α L M : Type} [AddCommMonoid M] [Zero L] [LinearOrder L] {f : α → L}
    {g : α → M} {l : List α} (hnonneg : ∀ a ∈ l, 0 ≤ f a) (hg : ∀ a ∈ l, f a = 0 → g a = 0) :
    ((l.filter fun a => 0 < f a).map g).sum = (l.map g).sum := by
  induction l with
  | nil => rfl
  | cons a l ih =>
      obtain ⟨ha, hl⟩ := List.forall_mem_cons.mp hnonneg
      obtain ⟨hga, hgl⟩ := List.forall_mem_cons.mp hg
      rw [List.filter_cons, List.map_cons, List.sum_cons, ← ih hl hgl]
      split
      case isTrue => rw [List.map_cons, List.sum_cons]
      case isFalse hzero =>
        have hfa : f a = 0 := le_antisymm (not_lt.mp fun hpos => hzero (decide_eq_true hpos)) ha
        rw [hga hfa, zero_add]

/-! ## The map of totals -/

section AddTo

variable (t : List (K × V)) (k : K) (v : V)

/-- The keys of a map after a step. -/
theorem keys_addTo : (addTo t k v).map Prod.fst
    = if k ∈ t.map Prod.fst then t.map Prod.fst else t.map Prod.fst ++ [k] := by
  induction t with
  | nil => rfl
  | cons e t ih =>
      obtain ⟨k', w⟩ := e
      by_cases h : k' = k
      · -- the key is the first one, and stays where it is
        simp [addTo, h]
      · rw [addTo, if_neg h, List.map_cons, ih, List.map_cons]
        by_cases hmem : k ∈ t.map Prod.fst
        · rw [if_pos hmem, if_pos (List.mem_cons_of_mem _ hmem)]
        · rw [if_neg hmem, if_neg, List.cons_append]
          rw [List.mem_cons, not_or]
          exact ⟨Ne.symm h, hmem⟩

/-- Looking a key up after a step. -/
theorem totalIn_addTo (k' : K) :
    totalIn (addTo t k v) k' = totalIn t k' + if k = k' then v else 0 := by
  induction t with
  | nil =>
      by_cases h : k = k'
      · subst h
        simp [addTo, totalIn]
      · simp [addTo, totalIn, List.lookup_cons, beq_eq_false_iff_ne.mpr (Ne.symm h), h]
  | cons e t ih =>
      obtain ⟨k₀, w⟩ := e
      by_cases h : k₀ = k
      · subst h
        rw [addTo, if_pos rfl]
        by_cases hk : k' = k₀
        · subst hk
          simp [totalIn]
        · simp [totalIn, List.lookup_cons, beq_eq_false_iff_ne.mpr hk, Ne.symm hk]
      · rw [addTo, if_neg h]
        by_cases hk : k' = k₀
        · subst hk
          simp [totalIn, Ne.symm h]
        · simpa [totalIn, List.lookup_cons, beq_eq_false_iff_ne.mpr hk] using ih

variable {t}

/-- Keys are listed once. -/
theorem nodup_keys_addTo (h : (t.map Prod.fst).Nodup) : ((addTo t k v).map Prod.fst).Nodup := by
  rw [keys_addTo]
  by_cases hmem : k ∈ t.map Prod.fst
  · rwa [if_pos hmem]
  · rw [if_neg hmem]
    refine List.nodup_append.mpr ⟨h, List.nodup_singleton k, fun a ha b hb => ?_⟩
    rw [List.mem_singleton] at hb
    rintro rfl
    exact hmem (hb ▸ ha)

variable (t)

/-- The sum of all totals after a step. -/
theorem sum_addTo : ((addTo t k v).map Prod.snd).sum = (t.map Prod.snd).sum + v := by
  induction t with
  | nil => simp [addTo]
  | cons e t ih =>
      by_cases h : e.1 = k
      · simp only [addTo, if_pos h, List.map_cons, List.sum_cons]
        exact add_right_comm _ _ _
      · simp only [addTo, if_neg h, List.map_cons, List.sum_cons, ih, add_assoc]

end AddTo

/-! ## The whole loop -/

section Tally

variable (entries : List (K × V))

/-- The loop continued from a map lists every key once. -/
private theorem nodup_keys_foldl (t : List (K × V)) (h : (t.map Prod.fst).Nodup) :
    ((entries.foldl (fun t e => addTo t e.1 e.2) t).map Prod.fst).Nodup := by
  induction entries generalizing t with
  | nil => exact h
  | cons e entries ih => exact ih _ (nodup_keys_addTo e.1 e.2 h)

/-- A tally lists every key once. -/
theorem nodup_keys_tally : ((tally entries).map Prod.fst).Nodup :=
  nodup_keys_foldl entries [] List.nodup_nil

/-- The keys of a tally are those of the entries. -/
theorem mem_keys_tally (k : K) : k ∈ (tally entries).map Prod.fst ↔ k ∈ entries.map Prod.fst := by
  -- the induction is on the entries, with the map built so far left open
  suffices h : ∀ t : List (K × V), k ∈ (entries.foldl (fun t e => addTo t e.1 e.2) t).map Prod.fst ↔
      k ∈ t.map Prod.fst ∨ k ∈ entries.map Prod.fst by
    simpa [tally] using h []
  induction entries with
  | nil => simp
  | cons e entries ih =>
      intro t
      rw [List.foldl_cons, ih, keys_addTo, List.map_cons, List.mem_cons]
      by_cases hmem : e.1 ∈ t.map Prod.fst
      · rw [if_pos hmem]
        constructor
        · rintro (h | h)
          · exact Or.inl h
          · exact Or.inr (Or.inr h)
        · rintro (h | rfl | h)
          · exact Or.inl h
          · exact Or.inl hmem
          · exact Or.inr h
      · rw [if_neg hmem, List.mem_append, List.mem_singleton, or_assoc]

/-- Looking a key up in a tally gives its total. -/
theorem totalIn_tally (k : K) : totalIn (tally entries) k = total entries k := by
  -- the map built so far is left open in the induction
  suffices h : ∀ t : List (K × V), totalIn (entries.foldl (fun t e => addTo t e.1 e.2) t) k
      = totalIn t k + total entries k by
    simpa [tally, totalIn] using h []
  induction entries with
  | nil => simp
  | cons e entries ih =>
      intro t
      rw [List.foldl_cons, ih, totalIn_addTo, total_cons, add_assoc]

/-- A tally keeps the sum of the entries. -/
theorem sum_tally : ((tally entries).map Prod.snd).sum = (entries.map Prod.snd).sum := by
  suffices h : ∀ t : List (K × V), ((entries.foldl (fun t e => addTo t e.1 e.2) t).map Prod.snd).sum
      = (t.map Prod.snd).sum + (entries.map Prod.snd).sum by
    simpa [tally] using h []
  induction entries with
  | nil => simp
  | cons e entries ih =>
      intro t
      rw [List.foldl_cons, ih, sum_addTo, List.map_cons, List.sum_cons, add_assoc]

/-- An entry of a map with distinct keys is what looking its key up gives. -/
theorem totalIn_of_mem {t : List (K × V)} (h : (t.map Prod.fst).Nodup) {e : K × V} (he : e ∈ t) :
    totalIn t e.1 = e.2 := by
  induction t with
  | nil => cases he
  | cons e' t ih =>
      obtain ⟨k, v⟩ := e'
      rw [List.map_cons, List.nodup_cons] at h
      rcases List.mem_cons.mp he with rfl | hmem
      · simp [totalIn]
      · have hne : e.1 ≠ k := by
          rintro rfl
          exact h.1 (List.mem_map.mpr ⟨e, hmem, rfl⟩)
        have hrest := ih h.2 hmem
        simpa [totalIn, List.lookup_cons, beq_eq_false_iff_ne.mpr hne] using hrest

/-- The sum of a map whose keys are some distinct keys, key by key. -/
theorem sum_values_eq {t : List (K × V)} {keys : List K} (hkeys : keys.Nodup)
    (h : (t.map Prod.fst).Perm keys) : (t.map Prod.snd).sum = (keys.map (totalIn t)).sum := by
  have hnodup : (t.map Prod.fst).Nodup := h.nodup_iff.mpr hkeys
  rw [← (h.map (totalIn t)).sum_eq, List.map_map]
  exact congrArg List.sum (List.map_congr_left fun e he => (totalIn_of_mem hnodup he).symm)

/-- Up to order, a tally lists every key once, with its total. -/
theorem tally_perm :
    (tally entries).Perm ((entries.map Prod.fst).dedup.map fun k => (k, total entries k)) := by
  have hkeys : ((tally entries).map Prod.fst).Perm (entries.map Prod.fst).dedup := by
    refine (List.perm_ext_iff_of_nodup (nodup_keys_tally entries) (List.nodup_dedup _)).mpr ?_
    intro k
    rw [mem_keys_tally, List.mem_dedup]
  -- every pair of a tally is its key with the total of the key
  have hself : tally entries
      = ((tally entries).map Prod.fst).map fun k => (k, total entries k) := by
    rw [List.map_map]
    refine ((List.map_congr_left fun e he => ?_).trans (List.map_id _)).symm
    show (e.1, total entries e.1) = e
    rw [← totalIn_tally, totalIn_of_mem (nodup_keys_tally entries) he]
  rw [hself]
  exact hkeys.map _

/-- The totals of a tally, up to order. -/
theorem values_tally_perm :
    ((tally entries).map Prod.snd).Perm ((entries.map Prod.fst).dedup.map (total entries)) := by
  have h := (tally_perm entries).map Prod.snd
  rwa [List.map_map] at h

variable {entries} {more : List (K × V)}

/-- Entries with the same keys and the same totals have the same tally, up to order. -/
theorem tally_congr (hkeys : ∀ k, k ∈ entries.map Prod.fst ↔ k ∈ more.map Prod.fst)
    (htotal : ∀ k, total entries k = total more k) : (tally entries).Perm (tally more) := by
  have hdedup : (entries.map Prod.fst).dedup.Perm (more.map Prod.fst).dedup := by
    refine (List.perm_ext_iff_of_nodup (List.nodup_dedup _) (List.nodup_dedup _)).mpr fun k => ?_
    rw [List.mem_dedup, List.mem_dedup]
    exact hkeys k
  refine (tally_perm entries).trans (List.Perm.trans ?_ (tally_perm more).symm)
  rw [List.map_congr_left fun k _ => by rw [htotal k]]
  exact hdedup.map _

/-- The order of the entries does not matter, up to order. -/
theorem tally_of_perm (h : entries.Perm more) : (tally entries).Perm (tally more) := by
  refine tally_congr (fun k => (h.map Prod.fst).mem_iff) fun k => ?_
  exact ((h.filter _).map Prod.snd).sum_eq

/-- The totals of some keys are those of their entries, up to order. -/
theorem filter_tally (p : K → Bool) : ((tally entries).filter fun e => p e.1).Perm
    (tally (entries.filter fun e => p e.1)) := by
  refine ((tally_perm entries).filter _).trans (List.Perm.trans ?_ (tally_perm _).symm)
  rw [List.filter_map]
  have hkeys : ((entries.map Prod.fst).dedup.filter p).Perm
      ((entries.filter fun e => p e.1).map Prod.fst).dedup := by
    refine (List.perm_ext_iff_of_nodup ((List.nodup_dedup _).filter _) (List.nodup_dedup _)).mpr ?_
    intro k
    simp only [List.mem_filter, List.mem_dedup, List.mem_map]
    constructor
    · rintro ⟨⟨e, he, rfl⟩, hp⟩
      exact ⟨e, ⟨he, hp⟩, rfl⟩
    · rintro ⟨e, ⟨he, hp⟩, rfl⟩
      exact ⟨⟨e, he, rfl⟩, hp⟩
  refine (List.Perm.of_eq (List.map_congr_left fun k hk => ?_)).trans (hkeys.map _)
  -- the entries of such a key are all there
  have hp : p k = true := (List.mem_filter.mp hk).2
  rw [total, total, List.filter_filter, List.filter_congr fun e _ => ?_]
  by_cases hkey : e.1 = k <;> simp [hkey, hp]

end Tally

end Series
