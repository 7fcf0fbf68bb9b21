import Mathlib.Algebra.BigOperators.Ring.List
import Mathlib.Algebra.Order.BigOperators.Group.List
import Mathlib.Tactic.Linarith
import Restock.Series.Sorted

/-!
# Averages and levels

Averages lie between values. So does the level of exponential smoothing, which moves a share of the
way towards each value of a series.

* `Spanned` — a number lies between the least and the greatest of some values;
* `spanned_median`, `spanned_weightedMean`, `spanned_mean`, `spanned_trimmedMean` — averages do;
* `smooth`, `smoothed` — a step, and the level after a series;
* `le_smooth`, `smooth_le`, `smooth_pos`, `le_smoothed` — a level stays within the bounds of what it
  is made of;
* `smoothed_zeros`, `smoothed_const` — how it decays, and when it stays;
* `smoothed_linear` — smoothing is linear in the level and the series.
-/

namespace Series

/-! ## Averages -/

section Averages

variable {K : Type} [Field K] [LinearOrder K]

/-- A value is at most the number, and one is at least the number. -/
def Spanned (xs : List K) (v : K) : Prop :=
  (∃ a ∈ xs, a ≤ v) ∧ ∃ b ∈ xs, v ≤ b

omit [Field K] in
/-- What lies between values that are above a bound is above it. -/
theorem Spanned.ge {xs : List K} {v lo : K} (h : Spanned xs v) (hlo : ∀ x ∈ xs, lo ≤ x) :
    lo ≤ v := by
  obtain ⟨a, ha, hav⟩ := h.1
  exact (hlo a ha).trans hav

variable [IsStrictOrderedRing K]

/-- The median is a value, or lies between two. -/
theorem spanned_median {xs : List K} (hne : xs ≠ []) : Spanned xs (median xs) := by
  have hpos := List.length_pos_iff.mpr hne
  have hget : ∀ m < xs.length, (xs.insertionSort (· ≤ ·)).getD m 0 ∈ xs := by
    intro m hm
    have hm' : m < (xs.insertionSort (· ≤ ·)).length := by rwa [List.length_insertionSort]
    rw [List.getD_eq_getElem?_getD, List.getElem?_eq_getElem hm', Option.getD_some]
    exact (List.mem_insertionSort _).mp (List.getElem_mem hm')
  rw [median, if_neg hne, List.length_insertionSort]
  split
  · have hmem := hget (xs.length / 2) (by omega)
    exact ⟨⟨_, hmem, le_rfl⟩, _, hmem, le_rfl⟩
  · -- Of an even number of values it is half way between the two in the middle.
    have hlow := hget (xs.length / 2 - 1) (by omega)
    have hhigh := hget (xs.length / 2) (by omega)
    rcases le_total ((xs.insertionSort (· ≤ ·)).getD (xs.length / 2 - 1) 0)
      ((xs.insertionSort (· ≤ ·)).getD (xs.length / 2) 0) with hle | hle
    · exact ⟨⟨_, hlow, by linarith⟩, _, hhigh, by linarith⟩
    · exact ⟨⟨_, hhigh, by linarith⟩, _, hlow, by linarith⟩

/-- A sum of positive terms is positive. -/
theorem sum_map_pos {ι : Type} {is : List ι} {w : ι → K} (hne : is ≠ []) (hw : ∀ i ∈ is, 0 < w i) :
    0 < (is.map w).sum := by
  have h := List.sum_lt_sum_of_ne_nil hne (fun _ => (0 : K)) w hw
  rwa [List.map_const', List.sum_replicate, nsmul_zero] at h

/-- A mean with positive weights is at least one of the values. -/
theorem exists_le_weightedMean {ι : Type} {is : List ι} {w x : ι → K} (hne : is ≠ [])
    (hw : ∀ i ∈ is, 0 < w i) :
    ∃ i ∈ is, x i ≤ (is.map fun i => w i * x i).sum / (is.map w).sum := by
  have hsum := sum_map_pos hne hw
  set v := (is.map fun i => w i * x i).sum / (is.map w).sum with hv
  have hmean : (is.map fun i => w i * x i).sum = v * (is.map w).sum := by
    rw [hv, div_mul_cancel₀ _ hsum.ne']
  -- Were all values greater, the weighted sum would exceed itself.
  by_contra hnone
  have hlt : ∀ i ∈ is, w i * v < w i * x i := fun i hi =>
    mul_lt_mul_of_pos_left (not_le.mp fun hle => hnone ⟨i, hi, hle⟩) (hw i hi)
  have h := List.sum_lt_sum_of_ne_nil hne _ _ hlt
  rw [List.sum_map_mul_right, hmean, mul_comm] at h
  exact lt_irrefl _ h

/-- A mean with positive weights lies between the values. -/
theorem spanned_weightedMean {ι : Type} {is : List ι} {w x : ι → K} (hne : is ≠ [])
    (hw : ∀ i ∈ is, 0 < w i) :
    Spanned (is.map x) ((is.map fun i => w i * x i).sum / (is.map w).sum) := by
  constructor
  · obtain ⟨i, hi, hle⟩ := exists_le_weightedMean (x := x) hne hw
    exact ⟨x i, List.mem_map_of_mem hi, hle⟩
  · -- The upper bound is the lower one of the negated values.
    obtain ⟨i, hi, hle⟩ := exists_le_weightedMean (x := fun i => -x i) hne hw
    have hneg : (is.map fun i => w i * -x i).sum = -(is.map fun i => w i * x i).sum := by
      simp only [List.sum_neg, List.map_map, Function.comp_def, mul_neg]
    rw [hneg, neg_div, neg_le_neg_iff] at hle
    exact ⟨x i, List.mem_map_of_mem hi, hle⟩

/-- The mean lies between the values. -/
theorem spanned_mean {xs : List K} (hne : xs ≠ []) :
    Spanned xs (xs.sum / (xs.length : K)) := by
  have h := spanned_weightedMean (w := fun _ => (1 : K)) (x := id) hne fun _ _ => zero_lt_one
  simpa using h

/-- Without a least and a greatest value the mean of the others lies between these two. -/
theorem spanned_trimmedMean {xs : List K} {lo hi : K} (hlo : lo ∈ xs) (hhi : hi ∈ xs)
    (hle : ∀ x ∈ xs, lo ≤ x) (hge : ∀ x ∈ xs, x ≤ hi) (hthree : 3 ≤ xs.length) :
    Spanned xs ((xs.sum - lo - hi) / ((xs.length - 2 : ℕ) : K)) := by
  have hcount : 0 < ((xs.length - 2 : ℕ) : K) := by
    rw [Nat.cast_pos]
    omega
  have herase : ∀ x ∈ xs, (xs.erase x).length = (xs.length - 2) + 1 := by
    intro x hx
    rw [List.length_erase_of_mem hx]
    omega
  refine ⟨⟨lo, hlo, (le_div_iff₀ hcount).mpr ?_⟩, hi, hhi, (div_le_iff₀ hcount).mpr ?_⟩
  · have hsum := List.card_nsmul_le_sum (xs.erase hi) lo fun x hx =>
      hle x (List.mem_of_mem_erase hx)
    rw [herase hi hhi, nsmul_eq_mul, Nat.cast_succ, add_mul, one_mul, mul_comm] at hsum
    have htotal := List.sum_erase hhi
    rw [← htotal]
    linarith
  · have hsum := List.sum_le_card_nsmul (xs.erase lo) hi fun x hx =>
      hge x (List.mem_of_mem_erase hx)
    rw [herase lo hlo, nsmul_eq_mul, Nat.cast_succ, add_mul, one_mul, mul_comm] at hsum
    have htotal := List.sum_erase hlo
    rw [← htotal]
    linarith

end Averages

/-! ## Exponential smoothing -/

section Smoothing

variable {K : Type} [Field K]

/-- The level moves towards a value. -/
def smooth (alpha level y : K) : K :=
  level + alpha * (y - level)

/-- The level after a series. -/
def smoothed (alpha level : K) (ys : List K) : K :=
  ys.foldl (smooth alpha) level

theorem smoothed_cons (alpha level y : K) (ys : List K) :
    smoothed alpha level (y :: ys) = smoothed alpha (smooth alpha level y) ys := rfl

/-- Zeros shrink the level by the same share each. -/
theorem smoothed_zeros (alpha level : K) (n : ℕ) :
    smoothed alpha level (List.replicate n 0) = (1 - alpha) ^ n * level := by
  induction n generalizing level with
  | zero => simp [smoothed]
  | succ n ih =>
      rw [List.replicate_succ, smoothed_cons, ih, smooth]
      ring

/-- A level that moves towards itself stays. -/
theorem smoothed_const (alpha level : K) {ys : List K} (h : ∀ y ∈ ys, y = level) :
    smoothed alpha level ys = level := by
  induction ys with
  | nil => rfl
  | cons y ys ih =>
      have hy : smooth alpha level y = level := by
        rw [h y List.mem_cons_self, smooth, sub_self, mul_zero, add_zero]
      rw [smoothed_cons, hy]
      exact ih fun z hz => h z (List.mem_cons_of_mem y hz)

/-- Smoothing is linear. -/
theorem smoothed_linear {ι : Type} (alpha c d : K) (f g : ι → K) (i : ι) (is : List ι) :
    smoothed alpha (c * f i + d * g i) (is.map fun i => c * f i + d * g i) =
      c * smoothed alpha (f i) (is.map f) + d * smoothed alpha (g i) (is.map g) := by
  have hgeneral : ∀ u v : K,
      smoothed alpha (c * u + d * v) (is.map fun i => c * f i + d * g i) =
        c * smoothed alpha u (is.map f) + d * smoothed alpha v (is.map g) := by
    induction is with
    | nil => exact fun _ _ => rfl
    | cons i is ih =>
        intro u v
        have hstep : smooth alpha (c * u + d * v) (c * f i + d * g i) =
            c * smooth alpha u (f i) + d * smooth alpha v (g i) := by
          simp only [smooth]
          ring
        rw [List.map_cons, List.map_cons, List.map_cons, smoothed_cons, hstep, ih]
        rfl
  exact hgeneral (f i) (g i)

variable [LinearOrder K] [IsStrictOrderedRing K] {alpha level y lo hi : K}

/-- A level above a bound that moves towards a value above it stays above it. -/
theorem le_smooth (h0 : 0 ≤ alpha) (h1 : alpha ≤ 1) (hlevel : lo ≤ level) (hy : lo ≤ y) :
    lo ≤ smooth alpha level y := by
  have hmix : smooth alpha level y - lo = (1 - alpha) * (level - lo) + alpha * (y - lo) := by
    rw [smooth]
    ring
  have hnonneg : 0 ≤ (1 - alpha) * (level - lo) + alpha * (y - lo) :=
    add_nonneg (mul_nonneg (sub_nonneg.mpr h1) (sub_nonneg.mpr hlevel))
      (mul_nonneg h0 (sub_nonneg.mpr hy))
  exact sub_nonneg.mp (hmix ▸ hnonneg)

/-- A level below a bound that moves towards a value below it stays below it. -/
theorem smooth_le (h0 : 0 ≤ alpha) (h1 : alpha ≤ 1) (hlevel : level ≤ hi) (hy : y ≤ hi) :
    smooth alpha level y ≤ hi := by
  have hneg : smooth alpha (-level) (-y) = -smooth alpha level y := by
    simp only [smooth]
    ring
  exact neg_le_neg_iff.mp (hneg ▸ le_smooth h0 h1 (neg_le_neg hlevel) (neg_le_neg hy))

/-- A positive level that moves towards a positive value stays positive. -/
theorem smooth_pos (h0 : 0 ≤ alpha) (h1 : alpha ≤ 1) (hlevel : 0 < level) (hy : 0 < y) :
    0 < smooth alpha level y :=
  (lt_min hlevel hy).trans_le (le_smooth h0 h1 (min_le_left _ _) (min_le_right _ _))

/-- The level stays above what it starts from and moves towards. -/
theorem le_smoothed (h0 : 0 ≤ alpha) (h1 : alpha ≤ 1) {ys : List K} (hlevel : lo ≤ level)
    (hys : ∀ y ∈ ys, lo ≤ y) : lo ≤ smoothed alpha level ys := by
  induction ys generalizing level with
  | nil => exact hlevel
  | cons y ys ih =>
      have hy := hys y List.mem_cons_self
      exact ih (le_smooth h0 h1 hlevel hy) fun z hz => hys z (List.mem_cons_of_mem y hz)

end Smoothing

end Series
