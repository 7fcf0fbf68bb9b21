import Mathlib.Algebra.Order.Field.Basic
import Mathlib.Data.Finset.Card
import Mathlib.Data.Finset.Union
import Mathlib.Data.List.Destutter
import Mathlib.Data.List.Sort
import Mathlib.Tactic.Ring

/-!
# Sorted lists of measurements

* `median`, `upperMiddle` — the middle value, and the greater of two;
* `median_nonneg` — the middle value of values that are not negative;
* `median_map` — what happens above the middle does not move the median;
* `steps` — the pairs of neighbours of a list;
* `filter_steps_congr` — the neighbours of a sorted list that differ depend on its elements alone;
* `min?_congr`, `max?_congr`, `foldl_min_congr` — as do its extremes;
* `between_steps`, `mem_steps_iff` — nothing in a sorted list lies between neighbours;
* `sum_card_steps` — sets between its neighbours do not overlap;
* `filter_prefix`, `drop_eq_filter` — the first elements of a sorted list are those up to some
  point, and the last ones those past it;
* `IsStride`, `isStride_iff` — sorted numbers follow each other step by step exactly when none between
  them is left out.
-/

namespace Series

/-! ## The middle value -/

section Median

variable {K : Type} [Field K] [LinearOrder K]

/-- The middle value of the list, the mean of the two middles when its length is even; zero
when it is empty. -/
def median (values : List K) : K :=
  let sorted := values.insertionSort (· ≤ ·)
  let mid := sorted.length / 2
  if values = [] then 0
  else if sorted.length % 2 = 1 then sorted.getD mid 0
  else (sorted.getD (mid - 1) 0 + sorted.getD mid 0) / 2

omit [Field K] in
/-- Sorting forgets the order of the list. -/
theorem insertionSort_perm {xs ys : List K} (h : xs.Perm ys) :
    xs.insertionSort (· ≤ ·) = ys.insertionSort (· ≤ ·) := by
  refine List.Perm.eq_of_pairwise (fun a b _ _ (hab : a ≤ b) (hba : b ≤ a) => le_antisymm hab hba)
    (List.pairwise_insertionSort _ _) (List.pairwise_insertionSort _ _) ?_
  exact (List.perm_insertionSort _ xs).trans (h.trans (List.perm_insertionSort _ ys).symm)

/-- The median forgets the order of the list. -/
theorem median_perm {xs ys : List K} (h : xs.Perm ys) : median xs = median ys := by
  have hnil : xs = [] ↔ ys = [] := by
    rw [← List.length_eq_zero_iff, ← List.length_eq_zero_iff, h.length_eq]
  simp only [median, insertionSort_perm h, hnil]

variable [IsStrictOrderedRing K]

/-- The median of a value repeated is the value. -/
theorem median_replicate {n : ℕ} (hn : 0 < n) (c : K) : median (List.replicate n c) = c := by
  have hsorted : (List.replicate n c).insertionSort (· ≤ ·) = List.replicate n c := by
    refine List.Pairwise.insertionSort_eq (List.pairwise_replicate.mpr (Or.inr (le_refl c)))
  have hne : List.replicate n c ≠ [] := by
    rw [Ne, List.replicate_eq_nil_iff]
    omega
  have hget : ∀ m < n, (List.replicate n c).getD m 0 = c := by
    intro m hm
    simp [hm]
  simp only [median, hsorted, if_neg hne, List.length_replicate]
  rw [hget (n / 2) (by omega), hget (n / 2 - 1) (by omega), add_self_div_two, ite_self]

/-- The median of values that are all the same is that value. -/
theorem median_const {xs : List K} {c : K} (hne : xs ≠ []) (h : ∀ x ∈ xs, x = c) :
    median xs = c := by
  rw [List.eq_replicate_iff.mpr ⟨rfl, h⟩]
  exact median_replicate (List.length_pos_iff.mpr hne) c

/-- The median of values that are not negative is not. -/
theorem median_nonneg {xs : List K} (h : ∀ x ∈ xs, 0 ≤ x) : 0 ≤ median xs := by
  have hget : ∀ m, 0 ≤ (xs.insertionSort (· ≤ ·)).getD m 0 := by
    intro m
    rw [List.getD_eq_getElem?_getD]
    cases hm : (xs.insertionSort (· ≤ ·))[m]? with
    | none => exact le_refl 0
    | some x => exact h x ((List.mem_insertionSort _).mp (List.mem_of_getElem? hm))
  dsimp only [median]
  split
  · exact le_refl 0
  · split
    · exact hget _
    · exact div_nonneg (add_nonneg (hget _) (hget _)) zero_le_two

/-- The greater of the two middle values, or the one there is. -/
def upperMiddle (values : List K) : K :=
  (values.insertionSort (· ≤ ·)).getD (values.length / 2) 0

omit [Field K] [IsStrictOrderedRing K] in
/-- Values that are all at most the others are sorted before them. -/
theorem insertionSort_append {low high : List K} (h : ∀ a ∈ low, ∀ b ∈ high, a ≤ b) :
    (low ++ high).insertionSort (· ≤ ·)
      = low.insertionSort (· ≤ ·) ++ high.insertionSort (· ≤ ·) := by
  refine List.Perm.eq_of_pairwise (fun a b _ _ (hab : a ≤ b) (hba : b ≤ a) => le_antisymm hab hba)
    (List.pairwise_insertionSort _ _) (List.pairwise_append.mpr ⟨List.pairwise_insertionSort _ _,
      List.pairwise_insertionSort _ _, fun a ha b hb => ?_⟩) ?_
  · exact h a ((List.perm_insertionSort _ _).mem_iff.mp ha) b
      ((List.perm_insertionSort _ _).mem_iff.mp hb)
  · exact (List.perm_insertionSort _ _).trans
      ((List.perm_insertionSort _ low).append (List.perm_insertionSort _ high)).symm

omit [IsStrictOrderedRing K] in
/-- A sorted list at its middle: what is up to it, and what is past it. -/
theorem exists_middle {xs : List K} (hne : xs ≠ []) :
    ∃ low high, xs.insertionSort (· ≤ ·) = low ++ upperMiddle xs :: high
      ∧ low.length = xs.length / 2 ∧ (∀ a ∈ low, a ≤ upperMiddle xs)
      ∧ ∀ b ∈ high, upperMiddle xs ≤ b := by
  set sorted := xs.insertionSort (· ≤ ·) with hsorted
  have hlength : sorted.length = xs.length := List.length_insertionSort _ xs
  have hlt : xs.length / 2 < sorted.length := by
    have := List.length_pos_of_ne_nil hne
    omega
  have hmiddle : upperMiddle xs = sorted[xs.length / 2] := by
    rw [upperMiddle, ← hsorted, List.getD_eq_getElem?_getD, List.getElem?_eq_getElem hlt,
      Option.getD_some]
  have hsplit : sorted = sorted.take (xs.length / 2)
      ++ upperMiddle xs :: sorted.drop (xs.length / 2 + 1) := by
    rw [hmiddle, List.getElem_cons_drop, List.take_append_drop]
  have hpairwise : sorted.Pairwise (· ≤ ·) := List.pairwise_insertionSort _ xs
  rw [hsplit, List.pairwise_append, List.pairwise_cons] at hpairwise
  obtain ⟨-, ⟨hhigh, -⟩, hlow⟩ := hpairwise
  refine ⟨_, _, hsplit, ?_, fun a ha => hlow a ha _ List.mem_cons_self, hhigh⟩
  rw [List.length_take]
  omega

omit [IsStrictOrderedRing K] in
/-- The median does not see what happens to the values above the middle, as long as they stay
there. -/
theorem median_map {g : K → K} {xs : List K} (hfix : ∀ v ∈ xs, v ≤ upperMiddle xs → g v = v)
    (habove : ∀ v ∈ xs, upperMiddle xs < v → upperMiddle xs ≤ g v) :
    median (xs.map g) = median xs := by
  rcases eq_or_ne xs [] with rfl | hne
  · rfl
  obtain ⟨low, high, hsorted, hlength, hlow, hhigh⟩ := exists_middle hne
  have hmem : ∀ v ∈ low ++ upperMiddle xs :: high, v ∈ xs := by
    intro v hv
    rw [← hsorted] at hv
    exact (List.perm_insertionSort _ xs).mem_iff.mp hv
  have hlowFix : low.map g = low := by
    refine (List.map_congr_left fun v hv => ?_).trans (List.map_id low)
    exact hfix v (hmem v (List.mem_append_left _ hv)) (hlow v hv)
  have hmiddleFix : g (upperMiddle xs) = upperMiddle xs :=
    hfix _ (hmem _ (List.mem_append_right _ List.mem_cons_self)) (le_refl _)
  have hhighLe : ∀ v ∈ high.map g, upperMiddle xs ≤ v := by
    intro v hv
    obtain ⟨w, hw, rfl⟩ := List.mem_map.mp hv
    have hin := hmem w (List.mem_append_right _ (List.mem_cons_of_mem _ hw))
    rcases (hhigh w hw).eq_or_lt with heq | hlt
    · rw [← heq, hmiddleFix]
    · exact habove w hin hlt
  -- the list up to its middle is sorted as it was
  have hmapped : (xs.map g).insertionSort (· ≤ ·)
      = low ++ upperMiddle xs :: (high.map g).insertionSort (· ≤ ·) := by
    have hperm : (xs.map g).Perm ((low ++ [upperMiddle xs]) ++ high.map g) := by
      have h := ((List.perm_insertionSort (· ≤ ·) xs).symm.map g)
      rwa [hsorted, List.map_append, List.map_cons, hlowFix, hmiddleFix, List.append_cons] at h
    have hsortedLow :
        (low ++ [upperMiddle xs]).insertionSort (· ≤ ·) = low ++ [upperMiddle xs] := by
      have hpairwise : (xs.insertionSort (· ≤ ·)).Pairwise (· ≤ ·) :=
        List.pairwise_insertionSort _ xs
      rw [hsorted, List.append_cons, List.pairwise_append] at hpairwise
      exact hpairwise.1.insertionSort_eq
    rw [insertionSort_perm hperm, insertionSort_append, hsortedLow, ← List.append_cons]
    intro a ha b hb
    refine le_trans ?_ (hhighLe b hb)
    rcases List.mem_append.mp ha with ha | ha
    · exact hlow a ha
    · exact (List.mem_singleton.mp ha).le
  have hget : ∀ rest : List K, ∀ i ≤ low.length,
      (low ++ upperMiddle xs :: rest).getD i 0 = (low ++ [upperMiddle xs]).getD i 0 := by
    intro rest i hi
    rw [List.append_cons, List.getD_eq_getElem?_getD, List.getD_eq_getElem?_getD,
      List.getElem?_append_left (by rw [List.length_append, List.length_singleton]; omega)]
  have hlengths : (low ++ upperMiddle xs :: (high.map g).insertionSort (· ≤ ·)).length
      = (low ++ upperMiddle xs :: high).length := by
    simp only [List.length_append, List.length_cons, List.length_insertionSort, List.length_map]
  have hhalf : (low ++ upperMiddle xs :: high).length / 2 = low.length := by
    rw [← hsorted, List.length_insertionSort, hlength]
  simp only [median, List.map_eq_nil_iff, hmapped, hsorted, hlengths, hhalf]
  rw [hget _ _ (le_refl _), hget _ _ (Nat.sub_le _ _), hget high _ (le_refl _),
    hget high _ (Nat.sub_le _ _)]

/-- With values that are not negative, the greater middle is at most twice the median. -/
theorem upperMiddle_le {xs : List K} (hxs : ∀ v ∈ xs, 0 ≤ v) : upperMiddle xs ≤ 2 * median xs := by
  have hnonneg : ∀ i, 0 ≤ (xs.insertionSort (· ≤ ·)).getD i 0 := by
    intro i
    rw [List.getD_eq_getElem?_getD]
    cases hv : (xs.insertionSort (· ≤ ·))[i]? with
    | none => exact le_refl 0
    | some v =>
        exact hxs v ((List.perm_insertionSort _ xs).mem_iff.mp (List.mem_iff_getElem?.mpr ⟨i, hv⟩))
  have hmiddle : upperMiddle xs = (xs.insertionSort (· ≤ ·)).getD
      ((xs.insertionSort (· ≤ ·)).length / 2) 0 := by
    rw [upperMiddle, List.length_insertionSort]
  rcases eq_or_ne xs [] with rfl | hne
  · exact (mul_zero (2 : K)).ge
  rw [median, if_neg hne]
  split
  · rw [← hmiddle, two_mul]
    exact le_add_of_nonneg_right (hmiddle ▸ hnonneg _)
  · rw [← hmiddle, mul_div_cancel₀ _ two_ne_zero]
    exact le_add_of_nonneg_left (hnonneg _)

end Median

/-! ## Neighbours -/

section Steps

variable {α : Type}

/-- The pairs of neighbours of a list. -/
def steps (xs : List α) : List (α × α) :=
  xs.zip xs.tail

@[simp] theorem steps_nil : steps ([] : List α) = [] := rfl

@[simp] theorem steps_singleton (a : α) : steps [a] = [] := rfl

@[simp] theorem steps_cons_cons (a b : α) (xs : List α) :
    steps (a :: b :: xs) = (a, b) :: steps (b :: xs) := rfl

section Stutters

variable [DecidableEq α]

/-- A list without its stutters begins as the list does. -/
private theorem exists_destutter'_eq_cons (a : α) (xs : List α) :
    ∃ ys, xs.destutter' (· ≠ ·) a = a :: ys := by
  induction xs with
  | nil => exact ⟨[], rfl⟩
  | cons b xs ih =>
      rw [List.destutter'_cons]
      split
      · exact ⟨_, rfl⟩
      · exact ih

/-- The neighbours of a list that differ are the neighbours of the list without its stutters. -/
theorem filter_steps (xs : List α) :
    (steps xs).filter (fun step => step.1 ≠ step.2) = steps (xs.destutter (· ≠ ·)) := by
  cases xs with
  | nil => rfl
  | cons a xs =>
      rw [List.destutter_cons']
      induction xs generalizing a with
      | nil => rfl
      | cons b xs ih =>
          rw [steps_cons_cons, List.destutter'_cons]
          by_cases hab : a = b
          · rw [List.filter_cons_of_neg (by simpa using hab), if_neg (by simpa using hab), ih, hab]
          · obtain ⟨ys, hys⟩ := exists_destutter'_eq_cons b xs
            rw [List.filter_cons_of_pos (by simpa using hab), if_pos hab, ih, hys, steps_cons_cons]

end Stutters

variable [LinearOrder α] {xs ys : List α}

/-- Sorted lists with the same elements have the same neighbours that differ: how often an
element is repeated does not matter. -/
theorem filter_steps_congr (hxs : xs.Pairwise (· ≤ ·)) (hys : ys.Pairwise (· ≤ ·))
    (h : ∀ a, a ∈ xs ↔ a ∈ ys) :
    (steps xs).filter (fun step => step.1 ≠ step.2)
      = (steps ys).filter (fun step => step.1 ≠ step.2) := by
  have hstrict : ∀ {zs : List α}, zs.Pairwise (· ≤ ·) → zs.dedup.Pairwise (· < ·) := by
    intro zs hzs
    have hle : zs.dedup.Pairwise (· ≤ ·) := hzs.sublist (List.dedup_sublist zs)
    exact (hle.and (List.nodup_dedup zs)).imp fun hab => lt_of_le_of_ne hab.1 hab.2
  have hdedup : xs.dedup = ys.dedup := by
    refine (hstrict hxs).eq_of_mem_iff (hstrict hys) fun a => ?_
    rw [List.mem_dedup, List.mem_dedup]
    exact h a
  rw [filter_steps, filter_steps, hxs.destutter_eq_dedup, hys.destutter_eq_dedup, hdedup]

/-- What a function that is zero on repetitions adds up to over the neighbours of a sorted list
depends on the elements alone. -/
theorem sum_steps_congr {M : Type} [AddCommMonoid M] (f : α × α → M) (hf : ∀ a, f (a, a) = 0)
    (hxs : xs.Pairwise (· ≤ ·)) (hys : ys.Pairwise (· ≤ ·)) (h : ∀ a, a ∈ xs ↔ a ∈ ys) :
    ((steps xs).map f).sum = ((steps ys).map f).sum := by
  have hsum : ∀ zs : List α, ((steps zs).map f).sum
      = (((steps zs).filter fun step => step.1 ≠ step.2).map f).sum := by
    intro zs
    induction steps zs with
    | nil => rfl
    | cons step rest ih =>
        obtain ⟨a, b⟩ := step
        by_cases hab : a = b
        · rw [List.filter_cons_of_neg (by simpa using hab), List.map_cons, List.sum_cons, hab, hf,
            zero_add, ih]
        · rw [List.filter_cons_of_pos (by simpa using hab), List.map_cons, List.sum_cons,
            List.map_cons, List.sum_cons, ih]
  rw [hsum xs, hsum ys, filter_steps_congr hxs hys h]

/-- The neighbours that differ of sorted lists with the same elements, one by one. -/
theorem mem_steps_congr {a b : α} (hab : a ≠ b) (hxs : xs.Pairwise (· ≤ ·))
    (hys : ys.Pairwise (· ≤ ·)) (h : ∀ c, c ∈ xs ↔ c ∈ ys) :
    (a, b) ∈ steps xs ↔ (a, b) ∈ steps ys := by
  have hmem : ∀ zs : List α,
      (a, b) ∈ steps zs ↔ (a, b) ∈ (steps zs).filter fun step => step.1 ≠ step.2 := by
    intro zs
    rw [List.mem_filter]
    exact ⟨fun hz => ⟨hz, by simpa using hab⟩, And.left⟩
  rw [hmem xs, hmem ys, filter_steps_congr hxs hys h]

/-- Every element of a sorted list is at or before the first of two neighbours or at or after
the second. -/
theorem between_steps (hsorted : xs.Pairwise (· ≤ ·)) {a b : α} (hab : (a, b) ∈ steps xs) :
    a ∈ xs ∧ b ∈ xs ∧ a ≤ b ∧ ∀ c ∈ xs, c ≤ a ∨ b ≤ c := by
  induction xs with
  | nil => cases hab
  | cons x xs ih =>
      cases xs with
      | nil => cases hab
      | cons y xs =>
          rw [List.pairwise_cons] at hsorted
          rw [steps_cons_cons] at hab
          rcases List.mem_cons.mp hab with heq | hmem
          · obtain ⟨rfl, rfl⟩ := Prod.mk.inj heq
            refine ⟨List.mem_cons_self, List.mem_cons_of_mem _ List.mem_cons_self,
              hsorted.1 b List.mem_cons_self, fun c hc => ?_⟩
            rcases List.mem_cons.mp hc with rfl | hc
            · exact Or.inl (le_refl c)
            · rcases List.mem_cons.mp hc with rfl | hc
              · exact Or.inr (le_refl c)
              · exact Or.inr ((List.pairwise_cons.mp hsorted.2).1 c hc)
          · obtain ⟨ha, hb, hle, hbetween⟩ := ih hsorted.2 hmem
            refine ⟨List.mem_cons_of_mem _ ha, List.mem_cons_of_mem _ hb, hle, fun c hc => ?_⟩
            rcases List.mem_cons.mp hc with rfl | hc
            · exact Or.inl (hsorted.1 a ha)
            · exact hbetween c hc

/-- The neighbours of a sorted list that differ are its elements with nothing in between. -/
theorem mem_steps_iff (hsorted : xs.Pairwise (· ≤ ·)) {a b : α} (hab : a < b) :
    (a, b) ∈ steps xs ↔ a ∈ xs ∧ b ∈ xs ∧ ∀ c ∈ xs, c ≤ a ∨ b ≤ c := by
  constructor
  · intro h
    obtain ⟨ha, hb, -, hbetween⟩ := between_steps hsorted h
    exact ⟨ha, hb, hbetween⟩
  · rintro ⟨ha, hb, hbetween⟩
    induction xs with
    | nil => exact absurd ha List.not_mem_nil
    | cons x xs ih =>
        have hrest := List.pairwise_cons.mp hsorted
        -- the later of the two is not the least element
        have hbxs : b ∈ xs := by
          rcases List.mem_cons.mp hb with rfl | hb
          · rcases List.mem_cons.mp ha with rfl | ha
            · exact absurd hab (lt_irrefl _)
            · exact absurd (hrest.1 a ha) (not_le.mpr hab)
          · exact hb
        cases xs with
        | nil => exact absurd hbxs List.not_mem_nil
        | cons y xs =>
            rw [steps_cons_cons, List.mem_cons]
            by_cases haxs : a ∈ y :: xs
            · exact Or.inr (ih hrest.2 haxs hbxs fun c hc => hbetween c (List.mem_cons_of_mem _ hc))
            · -- the earlier one is the least element, and its neighbour is not past the other
              obtain rfl := (List.mem_cons.mp ha).resolve_right haxs
              refine Or.inl (Prod.ext rfl ?_)
              have hyb : y ≤ b := by
                rcases List.mem_cons.mp hbxs with rfl | hbxs
                · exact le_refl _
                · exact (List.pairwise_cons.mp hrest.2).1 b hbxs
              have hay : a < y := by
                refine lt_of_le_of_ne (hrest.1 y List.mem_cons_self) fun heq => haxs ?_
                rw [heq]
                exact List.mem_cons_self
              rcases hbetween y (by simp) with hle | hle
              · exact absurd hle (not_le.mpr hay)
              · exact le_antisymm hle hyb

variable (f : α × α → Finset α)

/-- Sets between the neighbours of a sorted list do not overlap: their sizes add up to the size of
their union. -/
theorem sum_card_steps (hsorted : xs.Pairwise (· ≤ ·))
    (hf : ∀ step, ∀ k ∈ f step, step.1 < k ∧ k < step.2) :
    ((steps xs).map fun step => (f step).card).sum = ((steps xs).toFinset.biUnion f).card := by
  induction xs with
  | nil => rfl
  | cons x xs ih =>
      cases xs with
      | nil => rfl
      | cons y xs =>
          have hrest := (List.pairwise_cons.mp hsorted).2
          have hdisjoint : Disjoint (f (x, y)) ((steps (y :: xs)).toFinset.biUnion f) := by
            refine Finset.disjoint_left.mpr fun k hk hlater => ?_
            rw [Finset.mem_biUnion] at hlater
            obtain ⟨step, hstep, hk'⟩ := hlater
            -- a later pair of neighbours begins at or after the second element
            have hfirst := (between_steps hrest (List.mem_toFinset.mp hstep)).1
            have hle : y ≤ step.1 := by
              rcases List.mem_cons.mp hfirst with heq | hmem
              · exact heq.ge
              · exact (List.pairwise_cons.mp hrest).1 _ hmem
            exact lt_irrefl k ((hf _ k hk).2.trans_le (hle.trans (hf _ k hk').1.le))
          rw [steps_cons_cons, List.map_cons, List.sum_cons, ih hrest, List.toFinset_cons,
            Finset.biUnion_insert, Finset.card_union_of_disjoint hdisjoint]

end Steps

/-! ## Extremes -/

section Extremes

variable {α : Type} [LinearOrder α] {xs ys : List α}

/-- Lists with the same elements have the same least element. -/
theorem min?_congr (h : ∀ a, a ∈ xs ↔ a ∈ ys) : xs.min? = ys.min? := by
  refine Option.ext fun a => ?_
  rw [List.min?_eq_some_iff, List.min?_eq_some_iff]
  simp only [h]

/-- Lists with the same elements have the same greatest element. -/
theorem max?_congr (h : ∀ a, a ∈ xs ↔ a ∈ ys) : xs.max? = ys.max? := by
  refine Option.ext fun a => ?_
  rw [List.max?_eq_some_iff, List.max?_eq_some_iff]
  simp only [h]

/-- A bound of a running minimum bounds the start and every element. -/
theorem le_foldl_min {bound init : α} :
    bound ≤ xs.foldl min init ↔ bound ≤ init ∧ ∀ a ∈ xs, bound ≤ a := by
  induction xs generalizing init with
  | nil => simp
  | cons x xs ih => rw [List.foldl_cons, ih, le_min_iff, List.forall_mem_cons, and_assoc]

/-- A bound of a running maximum bounds the start and every element. -/
theorem foldl_max_le {bound init : α} :
    xs.foldl max init ≤ bound ↔ init ≤ bound ∧ ∀ a ∈ xs, a ≤ bound := by
  induction xs generalizing init with
  | nil => simp
  | cons x xs ih => rw [List.foldl_cons, ih, max_le_iff, List.forall_mem_cons, and_assoc]

/-- Lists with the same elements have the same running minimum. -/
theorem foldl_min_congr (h : ∀ a, a ∈ xs ↔ a ∈ ys) (init : α) :
    xs.foldl min init = ys.foldl min init := by
  refine eq_of_forall_le_iff fun bound => ?_
  rw [le_foldl_min, le_foldl_min]
  simp only [h]

end Extremes

/-! ## The two ends of a sorted list -/

/-- What a sorted list has up to some point is its first elements. -/
theorem filter_prefix {α : Type} {r : α → α → Prop} {keep : α → Bool} {xs : List α}
    (hsorted : xs.Pairwise r)
    (hkeep : ∀ a ∈ xs, ∀ b ∈ xs, r a b → keep b = true → keep a = true) :
    xs.filter keep <+: xs := by
  induction xs with
  | nil => exact List.nil_prefix
  | cons x xs ih =>
      rw [List.pairwise_cons] at hsorted
      by_cases hx : keep x = true
      · rw [List.filter_cons_of_pos hx, List.cons_prefix_cons]
        exact ⟨rfl, ih hsorted.2 fun a ha b hb =>
          hkeep a (List.mem_cons_of_mem _ ha) b (List.mem_cons_of_mem _ hb)⟩
      · -- nothing after an element that is past the point is kept
        have hnone : (x :: xs).filter keep = [] := by
          rw [List.filter_eq_nil_iff]
          intro b hb hb'
          rcases List.mem_cons.mp hb with rfl | hmem
          · exact hx hb'
          · exact hx (hkeep x List.mem_cons_self b hb (hsorted.1 b hmem) hb')
        rw [hnone]
        exact List.nil_prefix

/-- What a sorted list has past some point is as many of its last elements. -/
theorem drop_eq_filter {α : Type} {r : α → α → Prop} {keep : α → Bool} {xs : List α}
    (hsorted : xs.Pairwise r) (hkeep : ∀ a b, r a b → keep a = true → keep b = true) :
    xs.drop (xs.length - (xs.filter keep).length) = xs.filter keep := by
  induction xs with
  | nil => rfl
  | cons x xs ih =>
      rw [List.pairwise_cons] at hsorted
      by_cases hx : keep x = true
      · -- everything after a kept element is kept
        have hall : (x :: xs).filter keep = x :: xs := by
          rw [List.filter_eq_self]
          intro a ha
          rcases List.mem_cons.mp ha with rfl | hmem
          · exact hx
          · exact hkeep x a (hsorted.1 a hmem) hx
        rw [hall, Nat.sub_self, List.drop_zero]
      · have hle := List.length_filter_le keep xs
        rw [List.filter_cons_of_neg hx, List.length_cons,
          show xs.length + 1 - (xs.filter keep).length
            = (xs.length - (xs.filter keep).length) + 1 by omega, List.drop_succ_cons]
        exact ih hsorted.2

/-! ## Numbers a step apart -/

section Stride

/-- Neighbours are one step apart. -/
def IsStride (d : ℤ) (xs : List ℤ) : Prop :=
  ∀ (t : ℕ) (x y : ℤ), xs[t]? = some x → xs[t + 1]? = some y → y = x + d

variable {d : ℤ} {xs : List ℤ}

/-- What stands some places further on. -/
theorem IsStride.eq_add (h : IsStride d xs) {t k : ℕ} {x y : ℤ} (hx : xs[t]? = some x)
    (hy : xs[t + k]? = some y) : y = x + d * k := by
  induction k generalizing y with
  | zero =>
      rw [Nat.add_zero, hx] at hy
      rw [← Option.some.inj hy]
      simp
  | succ k ih =>
      have hlt : t + (k + 1) < xs.length := (List.getElem?_eq_some_iff.mp hy).1
      have hmid : xs[t + k]? = some xs[t + k] := List.getElem?_eq_getElem (by omega)
      rw [h (t + k) _ y hmid hy, ih hmid]
      push_cast
      ring

/-- Sorted numbers whose places are in an order are in it. -/
theorem lt_of_getElem?_lt (hsorted : xs.Pairwise (· < ·)) {i j : ℕ} {x y : ℤ}
    (hx : xs[i]? = some x) (hy : xs[j]? = some y) (hij : i < j) : x < y := by
  obtain ⟨hi, rfl⟩ := List.getElem?_eq_some_iff.mp hx
  obtain ⟨hj, rfl⟩ := List.getElem?_eq_some_iff.mp hy
  exact List.pairwise_iff_getElem.mp hsorted i j hi hj hij

/-- The number some steps before one of them stands as many places before it. -/
theorem IsStride.getElem?_sub (h : IsStride d xs) {p k : ℕ} {x : ℤ} (hx : xs[p]? = some x)
    (hk : k ≤ p) : xs[p - k]? = some (x - d * k) := by
  have hin : p - k < xs.length := by
    have := (List.getElem?_eq_some_iff.mp hx).1
    omega
  have hy := List.getElem?_eq_getElem hin
  have heq := h.eq_add hy (k := k) (by rwa [Nat.sub_add_cancel hk])
  rw [hy, heq, add_sub_cancel_right]

/-- Before the first of them there is none. -/
theorem IsStride.sub_not_mem (h : IsStride d xs) (hd : 0 < d) {p k : ℕ} {x : ℤ}
    (hx : xs[p]? = some x) (hk : p < k) : x - d * k ∉ xs := by
  intro hmem
  obtain ⟨t, ht⟩ := List.mem_iff_getElem?.mp hmem
  rcases le_total t p with hle | hle
  · obtain ⟨n, rfl⟩ := Nat.exists_eq_add_of_le hle
    have hsteps : d * (n : ℤ) = d * (k : ℤ) := by
      have := h.eq_add ht hx
      omega
    have hn : (n : ℤ) = k := mul_left_cancel₀ hd.ne' hsteps
    omega
  · obtain ⟨n, rfl⟩ := Nat.exists_eq_add_of_le hle
    have hsteps : d * (n : ℤ) + d * (k : ℤ) = 0 := by
      have := h.eq_add hx ht
      omega
    have hn : (0 : ℤ) ≤ d * n := mul_nonneg hd.le (Int.natCast_nonneg n)
    have hkpos : 0 < d * (k : ℤ) := mul_pos hd (by omega)
    omega

/-- Nothing that is a multiple of the step away is left out between two of them. -/
theorem IsStride.mem_of_between (h : IsStride d xs) (hd : 0 < d) {w x y : ℤ} (hx : x ∈ xs)
    (hy : y ∈ xs) (hxw : x ≤ w) (hwy : w ≤ y) (hdvd : d ∣ w - x) : w ∈ xs := by
  obtain ⟨i, hi⟩ := List.mem_iff_getElem?.mp hx
  obtain ⟨m, hm⟩ := hdvd
  have hm0 : 0 ≤ m := by
    by_contra hneg
    have : d * m < 0 := mul_neg_of_pos_of_neg hd (not_le.mp hneg)
    omega
  obtain ⟨n, rfl⟩ := Int.eq_ofNat_of_zero_le hm0
  have hw : w = x + d * n := by omega
  -- Otherwise the numbers would end before it, and so before the greater of the two.
  by_contra hnot
  have hend : xs.length ≤ i + n := by
    by_contra hin
    have hget := List.getElem?_eq_getElem (not_le.mp hin)
    exact hnot (by rw [hw, ← h.eq_add hi hget]; exact List.getElem_mem _)
  obtain ⟨j, hj⟩ := List.mem_iff_getElem?.mp hy
  have hjlt : j < i + n := (List.getElem?_eq_some_iff.mp hj).1.trans_le hend
  rcases le_total i j with hle | hle
  · obtain ⟨k, rfl⟩ := Nat.exists_eq_add_of_le hle
    have hlt : d * (k : ℤ) < d * (n : ℤ) := mul_lt_mul_of_pos_left (by omega) hd
    have := h.eq_add hi hj
    omega
  · obtain ⟨k, rfl⟩ := Nat.exists_eq_add_of_le hle
    have hk : (0 : ℤ) ≤ d * k := mul_nonneg hd.le (Int.natCast_nonneg k)
    have := h.eq_add hj hi
    have hyx : y = x := by omega
    have hwx : w = x := by omega
    exact hnot (hwx ▸ hx)

/-- Sorted numbers a multiple of a step apart follow each other step by step exactly when each
number between two of them that is such a multiple away is one of them. -/
theorem isStride_iff (hd : 0 < d) (hsorted : xs.Pairwise (· < ·))
    (hmod : ∀ x ∈ xs, ∀ y ∈ xs, d ∣ y - x) :
    IsStride d xs ↔
      ∀ w, ∀ x ∈ xs, ∀ y ∈ xs, x ≤ w → w ≤ y → d ∣ w - x → w ∈ xs := by
  constructor
  · exact fun hstride w x hx y hy => hstride.mem_of_between hd hx hy
  · intro hclosed t x y hx hy
    have hxmem := List.mem_of_getElem? hx
    have hymem := List.mem_of_getElem? hy
    have hlt := lt_of_getElem?_lt hsorted hx hy (Nat.lt_succ_self t)
    have hle : x + d ≤ y := by
      have := Int.le_of_dvd (by omega) (hmod x hxmem y hymem)
      omega
    have hnext := hclosed (x + d) x hxmem y hymem (by omega) hle (by simp)
    obtain ⟨k, hk⟩ := List.mem_iff_getElem?.mp hnext
    -- The next number stands between the two places.
    rcases lt_trichotomy k (t + 1) with hlow | rfl | hhigh
    · rcases (Nat.lt_succ_iff.mp hlow).lt_or_eq with hlow | rfl
      · have := lt_of_getElem?_lt hsorted hk hx hlow
        omega
      · rw [hx] at hk
        have := Option.some.inj hk
        omega
    · rw [hy] at hk
      exact Option.some.inj hk
    · have := lt_of_getElem?_lt hsorted hy hk hhigh
      omega

end Stride

end Series
