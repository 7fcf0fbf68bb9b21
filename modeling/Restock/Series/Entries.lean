import Mathlib.Data.List.Nodup

/-!
# Maps in insertion order

A map as the list of its entries, in the order in which their keys were first set. Setting
a key that is there replaces its value and keeps its place, so the entries of such a map
never share a key.

* `setEntry`, `setEntries` — one `map.set(k, v)`, and a loop of them;
* `nodup_keys_setEntries` — keys stay distinct;
* `mem_setEntries` — when equal keys always carry equal values, a loop keeps every entry;
* `lookup_setEntries`, `lookup_setEntries_map` — looking a key up after a loop over distinct keys.
-/

namespace Series

variable {K V : Type} [DecidableEq K]

/-- `map.set(k, v)`. -/
def setEntry : List (K × V) → K → V → List (K × V)
  | [], k, v => [(k, v)]
  | (k', w) :: t, k, v => if k' = k then (k', v) :: t else (k', w) :: setEntry t k v

/-- A loop that sets every one of the entries. -/
def setEntries (t entries : List (K × V)) : List (K × V) :=
  entries.foldl (fun t e => setEntry t e.1 e.2) t

/-- `map.get(k)`. -/
def getEntry (t : List (K × V)) (k : K) : Option V := t.lookup k

/-! ## One step -/

section SetEntry

variable (t : List (K × V)) (k : K) (v : V)

/-- The keys of a map after a step. -/
theorem mem_keys_setEntry (k' : K) :
    k' ∈ (setEntry t k v).map Prod.fst ↔ k' = k ∨ k' ∈ t.map Prod.fst := by
  induction t with
  | nil => simp [setEntry]
  | cons e t ih =>
      by_cases h : e.1 = k
      · simp [setEntry, h]
      · rw [setEntry, if_neg h, List.map_cons, List.mem_cons, ih, List.map_cons, List.mem_cons]
        tauto

variable {t}

/-- A step keeps the keys distinct. -/
theorem nodup_keys_setEntry (h : (t.map Prod.fst).Nodup) :
    ((setEntry t k v).map Prod.fst).Nodup := by
  induction t with
  | nil => simp [setEntry]
  | cons e t ih =>
      obtain ⟨hmem, htail⟩ := List.nodup_cons.mp h
      by_cases hk : e.1 = k
      · rw [setEntry, if_pos hk]
        exact h
      · rw [setEntry, if_neg hk]
        refine List.nodup_cons.mpr ⟨fun hin => ?_, ih htail⟩
        rcases (mem_keys_setEntry t k v e.1).mp hin with heq | hin
        · exact hk heq
        · exact hmem hin

/-- The entries of a map after a step. -/
theorem mem_setEntry (h : (t.map Prod.fst).Nodup) (e : K × V) :
    e ∈ setEntry t k v ↔ e = (k, v) ∨ (e ∈ t ∧ e.1 ≠ k) := by
  induction t with
  | nil => simp [setEntry]
  | cons e' t ih =>
      obtain ⟨hmem, htail⟩ := List.nodup_cons.mp h
      by_cases hk : e'.1 = k
      · have hne : ∀ x ∈ t, x.1 ≠ k := fun x hx heq =>
          hmem (hk ▸ heq ▸ List.mem_map_of_mem hx)
        rw [setEntry, if_pos hk, List.mem_cons, List.mem_cons]
        constructor
        · rintro (rfl | he)
          · exact Or.inl (by rw [hk])
          · exact Or.inr ⟨Or.inr he, hne e he⟩
        · rintro (rfl | ⟨rfl | he, hek⟩)
          · exact Or.inl (by rw [hk])
          · exact absurd hk hek
          · exact Or.inr he
      · rw [setEntry, if_neg hk, List.mem_cons, ih htail, List.mem_cons]
        constructor
        · rintro (rfl | rfl | ⟨he, hek⟩)
          · exact Or.inr ⟨Or.inl rfl, hk⟩
          · exact Or.inl rfl
          · exact Or.inr ⟨Or.inr he, hek⟩
        · rintro (rfl | ⟨rfl | he, hek⟩)
          · exact Or.inr (Or.inl rfl)
          · exact Or.inl rfl
          · exact Or.inr (Or.inr ⟨he, hek⟩)

/-- A step leaves nothing but what was there and what it sets. -/
theorem mem_of_mem_setEntry {k : K} {v : V} {e : K × V} (h : e ∈ setEntry t k v) :
    e = (k, v) ∨ e ∈ t := by
  induction t with
  | nil => exact Or.inl (List.mem_singleton.mp h)
  | cons e' t ih =>
      rw [setEntry] at h
      split at h
      case isTrue hk =>
          rcases List.mem_cons.mp h with rfl | ht
          · exact Or.inl (by rw [hk])
          · exact Or.inr (List.mem_cons_of_mem _ ht)
      case isFalse =>
          rcases List.mem_cons.mp h with rfl | hset
          · exact Or.inr List.mem_cons_self
          · exact (ih hset).imp_right (List.mem_cons_of_mem _)

/-- Setting a key to a new value keeps the values distinct. -/
theorem nodup_values_setEntry {k : K} {v : V} (h : (t.map Prod.snd).Nodup)
    (hv : v ∉ t.map Prod.snd) : ((setEntry t k v).map Prod.snd).Nodup := by
  induction t with
  | nil => simp [setEntry]
  | cons e t ih =>
      obtain ⟨hnew, htail⟩ := List.nodup_cons.mp h
      obtain ⟨hhead, hrest⟩ := not_or.mp (mt List.mem_cons.mpr hv)
      rw [setEntry]
      split
      · exact List.nodup_cons.mpr ⟨hrest, htail⟩
      · refine List.nodup_cons.mpr ⟨fun hmem => ?_, ih htail hrest⟩
        obtain ⟨e', he', heq⟩ := List.mem_map.mp hmem
        rcases mem_of_mem_setEntry he' with rfl | hold
        · exact hhead heq
        · exact hnew (heq ▸ List.mem_map_of_mem hold)

/-- A key that is not there is set at the end. -/
theorem setEntry_of_not_mem {k : K} {v : V} (h : k ∉ t.map Prod.fst) :
    setEntry t k v = t ++ [(k, v)] := by
  induction t with
  | nil => rfl
  | cons e t ih =>
      obtain ⟨hhead, hrest⟩ := not_or.mp (mt List.mem_cons.mpr h)
      rw [setEntry, if_neg (Ne.symm hhead), ih hrest]
      rfl

/-- Looking a key up in a map by its first entry. -/
theorem lookup_cons_eq (e : K × V) (t : List (K × V)) (k' : K) :
    (e :: t).lookup k' = if k' = e.1 then some e.2 else t.lookup k' := by
  rw [List.lookup_cons]
  by_cases h : k' = e.1
  · simp [h]
  · have hbeq : (k' == e.1) = false := by simpa using h
    rw [hbeq, if_neg h]

/-- Looking a key up after a step. -/
theorem lookup_setEntry (k' : K) :
    (setEntry t k v).lookup k' = if k' = k then some v else t.lookup k' := by
  induction t with
  | nil => exact lookup_cons_eq (k, v) [] k'
  | cons e t ih =>
      by_cases hk : e.1 = k
      · rw [setEntry, if_pos hk, lookup_cons_eq, lookup_cons_eq, hk]
        by_cases h : k' = k <;> simp only [h, if_true, if_false]
      · rw [setEntry, if_neg hk, lookup_cons_eq, lookup_cons_eq, ih]
        by_cases h : k' = e.1
        · have hne : k' ≠ k := fun heq => hk (h.symm.trans heq)
          rw [if_pos h, if_neg hne, if_pos h]
        · rw [if_neg h, if_neg h]

/-- Getting a key after a step. -/
theorem getEntry_setEntry (k' : K) :
    getEntry (setEntry t k v) k' = if k' = k then some v else getEntry t k' :=
  lookup_setEntry k v k'

end SetEntry

/-! ## A loop -/

section SetEntries

variable {t entries : List (K × V)}

@[simp] theorem setEntries_nil : setEntries t [] = t := rfl

@[simp] theorem setEntries_cons (e : K × V) :
    setEntries t (e :: entries) = setEntries (setEntry t e.1 e.2) entries := rfl

/-- Loops one after the other are one loop over all their entries. -/
theorem foldl_setEntries {α : Type} (f : α → List (K × V)) (xs : List α) (t : List (K × V)) :
    xs.foldl (fun t x => setEntries t (f x)) t = setEntries t (xs.flatMap f) := by
  induction xs generalizing t with
  | nil => rfl
  | cons x xs ih =>
      rw [List.foldl_cons, ih, List.flatMap_cons]
      simp only [setEntries, List.foldl_append]

/-- The keys of a map after a loop: what was there and what it sets. -/
theorem mem_keys_setEntries (t : List (K × V)) (k : K) :
    k ∈ (setEntries t entries).map Prod.fst ↔ k ∈ t.map Prod.fst ∨ k ∈ entries.map Prod.fst := by
  induction entries generalizing t with
  | nil => simp
  | cons e entries ih =>
      rw [setEntries_cons, ih, mem_keys_setEntry, List.map_cons, List.mem_cons]
      tauto

/-- A loop keeps the keys distinct. -/
theorem nodup_keys_setEntries (entries : List (K × V)) (h : (t.map Prod.fst).Nodup) :
    ((setEntries t entries).map Prod.fst).Nodup := by
  induction entries generalizing t with
  | nil => exact h
  | cons e entries ih => exact ih (nodup_keys_setEntry e.1 e.2 h)

/-- A loop leaves nothing but what was there and what it sets. -/
theorem mem_of_mem_setEntries {e : K × V} (h : e ∈ setEntries t entries) :
    e ∈ t ∨ e ∈ entries := by
  induction entries generalizing t with
  | nil => exact Or.inl h
  | cons x entries ih =>
      rcases ih h with hset | hrest
      · rcases mem_of_mem_setEntry hset with rfl | ht
        · exact Or.inr List.mem_cons_self
        · exact Or.inl ht
      · exact Or.inr (List.mem_cons_of_mem _ hrest)

/-- When entries with one key are one entry, a loop keeps what was there and adds what it
sets. -/
theorem mem_setEntries (h : (t.map Prod.fst).Nodup)
    (hfun : ∀ a ∈ t ++ entries, ∀ b ∈ t ++ entries, a.1 = b.1 → a = b) (e : K × V) :
    e ∈ setEntries t entries ↔ e ∈ t ∨ e ∈ entries := by
  induction entries generalizing t with
  | nil => simp
  | cons x entries ih =>
      have hstep : ∀ y, y ∈ setEntry t x.1 x.2 ↔ y = x ∨ y ∈ t := by
        intro y
        rw [mem_setEntry x.1 x.2 h]
        constructor
        · rintro (rfl | ⟨hy, _⟩)
          · exact Or.inl rfl
          · exact Or.inr hy
        · rintro (rfl | hy)
          · exact Or.inl rfl
          · by_cases hk : y.1 = x.1
            · exact Or.inl (hfun y (by simp [hy]) x (by simp) hk)
            · exact Or.inr ⟨hy, hk⟩
      have hsub : ∀ a ∈ setEntry t x.1 x.2 ++ entries, a ∈ t ++ x :: entries := by
        intro a ha
        rcases List.mem_append.mp ha with ha | ha
        · rcases (hstep a).mp ha with rfl | ha
          · simp
          · simp [ha]
        · simp [ha]
      rw [setEntries_cons, ih (nodup_keys_setEntry x.1 x.2 h)
        fun a ha b hb => hfun a (hsub a ha) b (hsub b hb), hstep e, List.mem_cons]
      tauto

/-- A new map of such entries has exactly them. -/
theorem mem_setEntries_nil (hfun : ∀ a ∈ entries, ∀ b ∈ entries, a.1 = b.1 → a = b) (e : K × V) :
    e ∈ setEntries [] entries ↔ e ∈ entries := by
  have hnil : (([] : List (K × V)).map Prod.fst).Nodup := List.nodup_nil
  rw [mem_setEntries hnil hfun, or_iff_right List.not_mem_nil]

/-- A loop that sets values computed of the entries sets them in the map computed so. -/
theorem setEntries_map_values {W : Type} (f : K → V → W) (t entries : List (K × V)) :
    setEntries (t.map fun e => (e.1, f e.1 e.2)) (entries.map fun e => (e.1, f e.1 e.2)) =
      (setEntries t entries).map fun e => (e.1, f e.1 e.2) := by
  induction entries generalizing t with
  | nil => rfl
  | cons e entries ih =>
      have hstep : ∀ t : List (K × V),
          setEntry (t.map fun e => (e.1, f e.1 e.2)) e.1 (f e.1 e.2) =
            (setEntry t e.1 e.2).map fun e => (e.1, f e.1 e.2) := by
        intro t
        induction t with
        | nil => rfl
        | cons x t ih =>
            by_cases hk : x.1 = e.1
            · simp [setEntry, hk]
            · simp [setEntry, hk, ih]
      rw [List.map_cons, setEntries_cons, setEntries_cons, hstep, ih]

/-- Looking a key up in a map of computed values. -/
theorem lookup_map_values {W : Type} (f : K → V → W) (t : List (K × V)) (k : K) :
    (t.map fun e => (e.1, f e.1 e.2)).lookup k = (t.lookup k).map (f k) := by
  induction t with
  | nil => rfl
  | cons e t ih =>
      rw [List.map_cons, lookup_cons_eq, lookup_cons_eq, ih]
      by_cases h : k = e.1
      · rw [if_pos h, if_pos h, h]
        rfl
      · rw [if_neg h, if_neg h]

/-- A new map has distinct keys. -/
theorem nodup_keys_setEntries_nil (entries : List (K × V)) :
    ((setEntries [] entries).map Prod.fst).Nodup :=
  nodup_keys_setEntries entries List.nodup_nil

/-- What is found under a key is there. -/
theorem mem_of_lookup {k : K} {v : V} (h : t.lookup k = some v) : (k, v) ∈ t := by
  obtain ⟨before, after, rfl, _⟩ := List.lookup_eq_some_iff.mp h
  simp

/-- The value found under a key after a loop over distinct keys: the one that was set, or else
the one that was there. -/
theorem lookup_setEntries (t : List (K × V)) (h : (entries.map Prod.fst).Nodup) (k : K) :
    (setEntries t entries).lookup k = (entries.lookup k).or (t.lookup k) := by
  induction entries generalizing t with
  | nil => simp
  | cons e entries ih =>
      obtain ⟨hmem, htail⟩ := List.nodup_cons.mp h
      rw [setEntries_cons, ih _ htail, lookup_setEntry, lookup_cons_eq]
      by_cases hk : k = e.1
      · have hnone : entries.lookup k = none := by
          rw [List.lookup_eq_none_iff]
          intro e' he'
          have hne : e'.1 ≠ e.1 := fun heq => hmem (heq ▸ List.mem_map_of_mem he')
          simpa [hk] using hne.symm
        rw [if_pos hk, if_pos hk, hnone]
        rfl
      · rw [if_neg hk, if_neg hk]

/-- An entry of a map with distinct keys is found under its key. -/
theorem lookup_of_mem (h : (t.map Prod.fst).Nodup) {k : K} {v : V} (hmem : (k, v) ∈ t) :
    t.lookup k = some v := by
  induction t with
  | nil => cases hmem
  | cons e t ih =>
      obtain ⟨hnew, htail⟩ := List.nodup_cons.mp h
      rw [lookup_cons_eq]
      rcases List.mem_cons.mp hmem with rfl | hin
      · exact if_pos rfl
      · have hne : k ≠ e.1 := by
          rintro rfl
          exact hnew (List.mem_map.mpr ⟨_, hin, rfl⟩)
        rw [if_neg hne]
        exact ih htail hin

/-- Nothing is found under a key that is not there. -/
theorem lookup_of_not_mem {k : K} (h : k ∉ t.map Prod.fst) : t.lookup k = none := by
  rw [List.lookup_eq_none_iff]
  intro e he
  simp only [bne_iff_ne, ne_eq]
  rintro rfl
  exact h (List.mem_map_of_mem he)

/-- The value found under the key of an element after a loop over some elements, where none of
them shares its key: its own if it is one of them. -/
theorem lookup_setEntries_map {α : Type} [DecidableEq α] (t : List (K × V)) {xs : List α}
    (key : α → K) (value : α → V) {a : α} (h : ∀ x ∈ xs, key x = key a → x = a) :
    (setEntries t (xs.map fun x => (key x, value x))).lookup (key a) =
      if a ∈ xs then some (value a) else t.lookup (key a) := by
  induction xs generalizing t with
  | nil => rfl
  | cons x xs ih =>
      rw [List.map_cons, setEntries_cons, ih _ fun y hy => h y (List.mem_cons_of_mem _ hy),
        lookup_setEntry]
      by_cases hx : x = a
      · subst hx
        simp
      · have hkey : key a ≠ key x := fun heq => hx (h x List.mem_cons_self heq.symm)
        simp [hkey, Ne.symm hx]

omit [DecidableEq K] in
/-- A map that lists what a function gives some distinct keys has distinct keys. -/
theorem nodup_keys_filterMap {keys : List K} (f : K → Option V) (h : keys.Nodup) :
    ((keys.filterMap fun k => (f k).map fun v => (k, v)).map Prod.fst).Nodup := by
  have hsub : ((keys.filterMap fun k => (f k).map fun v => (k, v)).map Prod.fst).Sublist keys := by
    clear h
    induction keys with
    | nil => exact List.Sublist.refl _
    | cons k keys ih =>
        rw [List.filterMap_cons]
        cases f k with
        | none => exact ih.cons k
        | some v => exact ih.cons_cons k
  exact h.sublist hsub

/-- Looking up in a map that lists what a function gives some distinct keys. -/
theorem lookup_filterMap {keys : List K} (f : K → Option V) (h : keys.Nodup) (k : K) :
    (keys.filterMap fun k => (f k).map fun v => (k, v)).lookup k
      = if k ∈ keys then f k else none := by
  induction keys with
  | nil => rfl
  | cons k' keys ih =>
      obtain ⟨hmem, htail⟩ := List.nodup_cons.mp h
      rw [List.filterMap_cons]
      by_cases hk : k = k'
      · subst hk
        have hrest : (keys.filterMap fun k => (f k).map fun v => (k, v)).lookup k = none := by
          rw [ih htail, if_neg hmem]
        cases hf : f k with
        | none => simpa [hf] using hrest
        | some v => simp [lookup_cons_eq]
      · cases hf : f k' with
        | none =>
            simp only [Option.map_none]
            rw [ih htail]
            simp [hk]
        | some v =>
            simp only [Option.map_some]
            rw [lookup_cons_eq, if_neg hk, ih htail]
            simp [hk]

end SetEntries

end Series
