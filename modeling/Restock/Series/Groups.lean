import Mathlib.Algebra.BigOperators.Group.List.Basic
import Mathlib.Data.List.Sort

/-!
# Values grouped by key

A map from keys to the values that were collected under them, kept in the order in which the
keys first appear. It is what a loop builds that looks a key up and adds to what it finds.

* `groups` — every key with its values;
* `mem_groups`, `nodup_keys_groups` — a group holds all values of its key, and keys are
  distinct;
* `flatMap_filter_perm`, `sum_parts` — a list falls into its parts under distinct keys, and so does
  what it comes to;
* `single` — the only value of a list, when all its entries are that value;
* `find?_perm`, `find?_map_key` — what is found among entries in another order, and by key;
* `insertionSort_eraseDups_congr` — distinct entries in order are told by which entries there are.
-/

namespace Series

section EraseDups

/-- No entry is left twice. -/
theorem nodup_eraseDups {α : Type} [BEq α] [LawfulBEq α] : ∀ xs : List α, xs.eraseDups.Nodup
  | [] => List.nodup_nil
  | x :: xs => by
      rw [List.eraseDups_cons, List.nodup_cons]
      refine ⟨fun hmem => ?_, nodup_eraseDups _⟩
      rw [List.mem_eraseDups, List.mem_filter] at hmem
      simp at hmem
termination_by xs => xs.length
decreasing_by exact Nat.lt_succ_of_le (List.length_filter_le _ _)

/-- The distinct entries of a list in order depend on which entries it has alone. -/
theorem insertionSort_eraseDups_congr {α : Type} [BEq α] [LawfulBEq α] (r : α → α → Prop)
    [DecidableRel r] [Std.Total r] [IsTrans α r] (hanti : ∀ a b, r a b → r b a → a = b)
    {xs ys : List α} (h : ∀ a, a ∈ xs ↔ a ∈ ys) :
    xs.eraseDups.insertionSort r = ys.eraseDups.insertionSort r := by
  have hperm : xs.eraseDups.Perm ys.eraseDups := by
    refine (List.perm_ext_iff_of_nodup (nodup_eraseDups xs) (nodup_eraseDups ys)).mpr fun a => ?_
    rw [List.mem_eraseDups, List.mem_eraseDups]
    exact h a
  refine List.Perm.eq_of_pairwise (fun a b _ _ hab hba => hanti a b hab hba)
    (List.pairwise_insertionSort r _) (List.pairwise_insertionSort r _) ?_
  exact (List.perm_insertionSort r _).trans (hperm.trans (List.perm_insertionSort r _).symm)

variable {α : Type} [DecidableEq α]

/-- An entry is found once among distinct entries. -/
theorem filter_eq_of_nodup {xs : List α} (h : xs.Nodup) (a : α) :
    xs.filter (fun x => x = a) = if a ∈ xs then [a] else [] := by
  rw [List.filter_eq, h.count]
  by_cases ha : a ∈ xs
  · rw [if_pos ha, if_pos ha]
    rfl
  · rw [if_neg ha, if_neg ha]
    rfl

end EraseDups

section Groups

variable {K V : Type} [DecidableEq K]

/-- The values under a key, in order. -/
def valuesAt (entries : List (K × V)) (k : K) : List V :=
  (entries.filter fun e => e.1 = k).map Prod.snd

/-- Every key with its values. -/
def groups (entries : List (K × V)) : List (K × List V) :=
  (entries.map Prod.fst).eraseDups.map fun k => (k, valuesAt entries k)

variable {entries more : List (K × V)} {k : K}

/-- The values under a key, entry by entry. -/
theorem valuesAt_eq_filterMap :
    valuesAt entries k = entries.filterMap fun e => if e.1 = k then some e.2 else none := by
  induction entries with
  | nil => rfl
  | cons e entries ih =>
      by_cases he : e.1 = k
      · rw [List.filterMap_cons, if_pos he, ← ih]
        simp [valuesAt, he]
      · rw [List.filterMap_cons, if_neg he, ← ih]
        simp [valuesAt, he]

/-- A value is under a key when they are an entry. -/
theorem mem_valuesAt {v : V} : v ∈ valuesAt entries k ↔ (k, v) ∈ entries := by
  simp [valuesAt]

/-- A key has values when it is the key of an entry. -/
theorem valuesAt_ne_nil : valuesAt entries k ≠ [] ↔ k ∈ entries.map Prod.fst := by
  rw [Ne, List.eq_nil_iff_forall_not_mem, not_forall, List.mem_map]
  constructor
  · rintro ⟨v, hv⟩
    exact ⟨(k, v), mem_valuesAt.mp (not_not.mp hv), rfl⟩
  · rintro ⟨e, he, rfl⟩
    exact ⟨e.2, not_not.mpr (mem_valuesAt.mpr he)⟩

/-- The groups are the keys of the entries, each with all its values. -/
theorem mem_groups {g : K × List V} :
    g ∈ groups entries ↔ g.2 = valuesAt entries g.1 ∧ g.2 ≠ [] := by
  rw [groups, List.mem_map]
  constructor
  · rintro ⟨k, hk, rfl⟩
    exact ⟨rfl, valuesAt_ne_nil.mpr (List.mem_eraseDups.mp hk)⟩
  · rintro ⟨hvalues, hne⟩
    rw [hvalues, valuesAt_ne_nil] at hne
    exact ⟨g.1, List.mem_eraseDups.mpr hne, Prod.ext rfl hvalues.symm⟩

/-- The group of one key. -/
theorem filter_groups (entries : List (K × V)) (k : K) :
    (groups entries).filter (fun g => g.1 = k)
      = if valuesAt entries k = [] then [] else [(k, valuesAt entries k)] := by
  have hmem : k ∈ (entries.map Prod.fst).eraseDups ↔ valuesAt entries k ≠ [] := by
    rw [List.mem_eraseDups, valuesAt_ne_nil]
  rw [groups, List.filter_map]
  change ((entries.map Prod.fst).eraseDups.filter fun x => x = k).map _ = _
  rw [filter_eq_of_nodup (nodup_eraseDups _)]
  by_cases hnil : valuesAt entries k = []
  · rw [if_neg fun h => hmem.mp h hnil, if_pos hnil]
    rfl
  · rw [if_pos (hmem.mpr hnil), if_neg hnil]
    rfl

/-- The values of all groups are the values of the entries. -/
theorem mem_flatMap_groups {v : V} :
    v ∈ (groups entries).flatMap Prod.snd ↔ ∃ k, (k, v) ∈ entries := by
  rw [List.mem_flatMap]
  constructor
  · rintro ⟨g, hg, hv⟩
    rw [(mem_groups.mp hg).1] at hv
    exact ⟨g.1, mem_valuesAt.mp hv⟩
  · rintro ⟨k, hk⟩
    have hv : v ∈ valuesAt entries k := mem_valuesAt.mpr hk
    exact ⟨(k, valuesAt entries k), mem_groups.mpr ⟨rfl, List.ne_nil_of_mem hv⟩, hv⟩

/-- No two groups share a key. -/
theorem nodup_keys_groups (entries : List (K × V)) : ((groups entries).map Prod.fst).Nodup := by
  rw [groups, List.map_map]
  exact List.Nodup.map (fun _ _ h => h) (nodup_eraseDups _)

end Groups

section Parts

variable {α K : Type} [DecidableEq K]

/-- A list falls into its parts under distinct keys. -/
theorem flatMap_filter_perm (f : α → K) {ks : List K} (hks : ks.Nodup) {xs : List α}
    (hall : ∀ x ∈ xs, f x ∈ ks) : (ks.flatMap fun k => xs.filter fun x => f x = k).Perm xs := by
  induction ks generalizing xs with
  | nil =>
      cases xs with
      | nil => exact List.Perm.refl _
      | cons x xs => exact absurd (hall x List.mem_cons_self) List.not_mem_nil
  | cons k ks ih =>
      obtain ⟨hk, hks⟩ := List.nodup_cons.mp hks
      -- the other parts are those of the elements under another key
      have hrest : (ks.flatMap fun k' => xs.filter fun x => f x = k') =
          ks.flatMap fun k' => (xs.filter fun x => !decide (f x = k)).filter fun x => f x = k' := by
        refine List.flatMap_congr fun k' hk' => ?_
        rw [List.filter_filter]
        refine List.filter_congr fun x _ => ?_
        by_cases hx : f x = k'
        · have hne : f x ≠ k := fun heq => hk (heq ▸ hx ▸ hk')
          simp [hx, hx ▸ hne]
        · simp [hx]
      have hall' : ∀ x ∈ xs.filter (fun x => !decide (f x = k)), f x ∈ ks := by
        intro x hx
        obtain ⟨hmem, hne⟩ := List.mem_filter.mp hx
        exact (List.mem_cons.mp (hall x hmem)).resolve_left (by simpa using hne)
      rw [List.flatMap_cons, hrest]
      exact ((ih hks hall').append_left _).trans (List.filter_append_perm _ xs)

/-- A list falls into its parts under its own keys. -/
theorem flatMap_filter_eraseDups_perm (f : α → K) (xs : List α) :
    ((xs.map f).eraseDups.flatMap fun k => xs.filter fun x => f x = k).Perm xs :=
  flatMap_filter_perm f (nodup_eraseDups _) fun _ hx =>
    List.mem_eraseDups.mpr (List.mem_map_of_mem hx)

/-- The parts of a list under distinct keys add up to what the whole comes to. -/
theorem sum_parts {V : Type} [AddCommMonoid V] (f : α → K) (g : α → V) {ks : List K}
    (hks : ks.Nodup) {xs : List α} (hall : ∀ x ∈ xs, f x ∈ ks) :
    (ks.map fun k => ((xs.filter fun x => f x = k).map g).sum).sum = (xs.map g).sum := by
  rw [← ((flatMap_filter_perm f hks hall).map g).sum_eq, List.map_flatMap, List.flatMap_def,
    List.sum_flatten, List.map_map]
  rfl

/-- The part of a list made of parts that is under one key. -/
theorem filter_flatMap_parts {f : α → K} {ks : List K} (hks : ks.Nodup) {part : K → List α}
    (hpart : ∀ k ∈ ks, ∀ x ∈ part k, f x = k) (k : K) :
    (ks.flatMap part).filter (fun x => f x = k) = if k ∈ ks then part k else [] := by
  induction ks with
  | nil => rfl
  | cons k' ks ih =>
      obtain ⟨hk', hks⟩ := List.nodup_cons.mp hks
      rw [List.flatMap_cons, List.filter_append,
        ih hks fun k hk => hpart k (List.mem_cons_of_mem _ hk)]
      have hfirst := hpart k' List.mem_cons_self
      by_cases hkk' : k = k'
      · subst hkk'
        have hall : (part k).filter (fun x => f x = k) = part k :=
          List.filter_eq_self.mpr fun x hx => decide_eq_true (hfirst x hx)
        rw [hall, if_neg hk', if_pos List.mem_cons_self, List.append_nil]
      · have hnone : (part k').filter (fun x => f x = k) = [] := by
          refine List.filter_eq_nil_iff.mpr fun x hx h => hkk' ?_
          rw [← of_decide_eq_true h, hfirst x hx]
        have hmem : k ∈ k' :: ks ↔ k ∈ ks := by
          rw [List.mem_cons]
          exact or_iff_right hkk'
        rw [hnone, List.nil_append]
        simp only [hmem]

end Parts

section Single

variable {α : Type} [DecidableEq α]

/-- The only value of a list; nothing when there is none or several. -/
def single (xs : List α) : Option α :=
  match xs.eraseDups with
  | [x] => some x
  | _ => none

/-- A list has a single value when all its entries are that value. -/
theorem single_eq_some {xs : List α} {x : α} : single xs = some x ↔ x ∈ xs ∧ ∀ y ∈ xs, y = x := by
  have hmem : ∀ y, y ∈ xs.eraseDups ↔ y ∈ xs := fun y => List.mem_eraseDups
  have hnodup := nodup_eraseDups xs
  unfold single
  cases hxs : xs.eraseDups with
  | nil =>
      rw [hxs] at hmem
      constructor
      · intro h
        cases h
      · rintro ⟨hx, _⟩
        exact absurd ((hmem x).mpr hx) List.not_mem_nil
  | cons a rest =>
      rw [hxs] at hmem hnodup
      cases rest with
      | nil =>
          simp only [List.mem_singleton] at hmem
          constructor
          · intro h
            obtain rfl : a = x := Option.some.inj h
            exact ⟨(hmem a).mp rfl, fun y hy => (hmem y).mpr hy⟩
          · rintro ⟨hx, _⟩
            rw [(hmem x).mpr hx]
      | cons b rest =>
          constructor
          · intro h
            cases h
          · rintro ⟨_, hall⟩
            -- the first two entries would be one
            have ha : a = x := hall a ((hmem a).mp (by simp))
            have hb : b = x := hall b ((hmem b).mp (by simp))
            simp [ha, hb] at hnodup

/-- Lists with the same entries have the same single value. -/
theorem single_congr {xs ys : List α} (h : ∀ x, x ∈ xs ↔ x ∈ ys) : single xs = single ys := by
  ext x
  simp only [single_eq_some, h]

/-- What is found does not depend on the order, where only one entry can be found. -/
theorem find?_perm {α : Type} {xs ys : List α} {test : α → Bool} (h : xs.Perm ys)
    (hunique : ∀ a ∈ xs, ∀ b ∈ xs, test a = true → test b = true → a = b) :
    xs.find? test = ys.find? test := by
  cases hx : xs.find? test with
  | none =>
      refine (List.find?_eq_none.mpr fun a ha => ?_).symm
      exact List.find?_eq_none.mp hx a (h.mem_iff.mpr ha)
  | some a =>
      have ha := List.mem_of_find?_eq_some hx
      cases hy : ys.find? test with
      | none =>
          exact absurd (List.find?_some hx) (List.find?_eq_none.mp hy a (h.mem_iff.mp ha))
      | some b =>
          have hb := h.mem_iff.mpr (List.mem_of_find?_eq_some hy)
          rw [hunique a ha b hb (List.find?_some hx) (List.find?_some hy)]

end Single

/-- What is found by key among values that are made of their keys. -/
theorem find?_map_key {K β : Type} [DecidableEq K] (f : K → β) (key : β → K)
    (hkey : ∀ k, key (f k) = k) (ks : List K) (k : K) :
    (ks.map f).find? (fun b => key b = k) = if k ∈ ks then some (f k) else none := by
  induction ks with
  | nil => rfl
  | cons k' ks ih =>
      rw [List.map_cons, List.find?_cons, hkey]
      by_cases hkk' : k' = k
      · subst hkk'
        simp
      · have hmem : k ∈ k' :: ks ↔ k ∈ ks := by
          rw [List.mem_cons]
          exact or_iff_right (Ne.symm hkk')
        rw [decide_eq_false hkk', ih]
        simp only [hmem]

end Series
