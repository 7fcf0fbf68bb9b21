import Mathlib.Data.List.TakeWhile

/-!
# Runs of a list

The maximal stretches of a list whose elements all pass a test, found by a scan that looks for the
end of a stretch as soon as it meets its first element and goes on from there.

* `runEnd`, `runs` — the scan;
* `IsRun` — a maximal stretch, as a pair of positions, the second one excluded;
* `mem_runs`, `pairwise_runs` — the scan finds exactly the maximal stretches, and they are apart.
-/

namespace Series

variable {α : Type} (test : α → Bool) (xs : List α)

/-- The position after the last element that passes, from a position on. -/
def runEnd (i : ℕ) : ℕ :=
  i + ((xs.drop i).takeWhile test).length

/-- The scan from a position on. Each turn moves on by a position at least, so the number of
turns it is given is the length of what is left. -/
def runsFrom : ℕ → ℕ → List (ℕ × ℕ)
  | 0, _ => []
  | turns + 1, i =>
      match xs[i]? with
      | none => []
      | some x =>
          if test x then (i, runEnd test xs i) :: runsFrom turns (runEnd test xs i)
          else runsFrom turns (i + 1)

/-- The scan. -/
def runs : List (ℕ × ℕ) :=
  runsFrom test xs xs.length 0

/-- The element at a position passes. -/
abbrev Passes (t : ℕ) : Prop :=
  (xs[t]?).any test = true

/-- A maximal stretch of elements that pass. -/
structure IsRun (i j : ℕ) : Prop where
  lt : i < j
  passes : ∀ t, i ≤ t → t < j → Passes test xs t
  before : ∀ t, t + 1 = i → ¬ Passes test xs t
  after : ¬ Passes test xs j

variable {test xs}

/-- No element beyond the end passes. -/
theorem not_passes_of_length_le {t : ℕ} (h : xs.length ≤ t) : ¬ Passes test xs t := by
  rw [Passes, List.getElem?_eq_none h]
  simp

/-- A stretch lies within the list. -/
theorem IsRun.le_length {i j : ℕ} (h : IsRun test xs i j) : j ≤ xs.length := by
  by_contra hlong
  have hlt := h.lt
  exact not_passes_of_length_le (by omega) (h.passes (j - 1) (by omega) (by omega))

/-- A stretch ends where the first element after its start does not pass. -/
theorem IsRun.end_unique {i j j' : ℕ} (h : IsRun test xs i j) (h' : IsRun test xs i j') :
    j = j' := by
  have hlt := h.lt
  have hlt' := h'.lt
  rcases Nat.lt_trichotomy j j' with hj | hj | hj
  · exact absurd (h'.passes j (by omega) hj) h.after
  · exact hj
  · exact absurd (h.passes j' (by omega) hj) h'.after

variable (test) in
/-- The first elements that pass end before one that does not. -/
theorem passes_takeWhile (rest : List α) :
    (∀ t < (rest.takeWhile test).length, Passes test rest t) ∧
      ¬ Passes test rest (rest.takeWhile test).length := by
  induction rest with
  | nil => simp
  | cons x rest ih =>
      by_cases hx : test x = true
      · rw [List.takeWhile_cons_of_pos hx, List.length_cons]
        refine ⟨fun t ht => ?_, by simpa [Passes] using ih.2⟩
        cases t with
        | zero => simpa [Passes] using hx
        | succ t => simpa [Passes] using ih.1 t (by omega)
      · rw [List.takeWhile_cons_of_neg hx]
        exact ⟨fun t ht => absurd ht (Nat.not_lt_zero t), by simpa [Passes] using hx⟩

/-- From an element that passes, the scan's end is the end of a stretch. -/
theorem runEnd_spec {i : ℕ} (h : Passes test xs i) :
    i < runEnd test xs i ∧ (∀ t, i ≤ t → t < runEnd test xs i → Passes test xs t) ∧
      ¬ Passes test xs (runEnd test xs i) := by
  have hat : ∀ t, Passes test (xs.drop i) t ↔ Passes test xs (i + t) := by
    intro t
    rw [Passes, List.getElem?_drop]
  obtain ⟨hin, hend⟩ := passes_takeWhile test (xs.drop i)
  rw [hat] at hend
  refine ⟨?_, fun t hit ht => ?_, hend⟩
  · -- an end that is the start itself would be an element that does not pass
    rw [runEnd]
    apply Nat.lt_add_of_pos_right
    apply Nat.pos_of_ne_zero
    intro hzero
    rw [hzero, Nat.add_zero] at hend
    exact hend h
  · rw [runEnd] at ht
    have := (hat (t - i)).mp (hin (t - i) (by omega))
    rwa [Nat.add_sub_cancel' hit] at this

/-- The scan from a position where a stretch may start, or whose element does not pass, finds the
stretches that start there or later. -/
theorem mem_runsFrom {turns i : ℕ} (hturns : xs.length ≤ i + turns)
    (hstart : (∀ t, t + 1 = i → ¬ Passes test xs t) ∨ ¬ Passes test xs i) (a b : ℕ) :
    (a, b) ∈ runsFrom test xs turns i ↔ i ≤ a ∧ IsRun test xs a b := by
  -- no stretch starts beyond the end
  have hbeyond : ∀ i, xs.length ≤ i → ¬ (i ≤ a ∧ IsRun test xs a b) := by
    rintro i hlen ⟨hia, hrun⟩
    have := hrun.le_length
    have := hrun.lt
    omega
  induction turns generalizing i with
  | zero => exact iff_of_false List.not_mem_nil (hbeyond i (by omega))
  | succ turns ih =>
      rw [runsFrom]
      cases hx : xs[i]? with
      | none =>
          exact iff_of_false List.not_mem_nil (hbeyond i (List.getElem?_eq_none_iff.mp hx))
      | some x =>
          have hpass : Passes test xs i ↔ test x = true := by rw [Passes, hx, Option.any_some]
          by_cases htest : test x = true
          · obtain ⟨hlt, hall, hend⟩ := runEnd_spec (hpass.mpr htest)
            have hbefore := hstart.resolve_right (not_not_intro (hpass.mpr htest))
            have hrun : IsRun test xs i (runEnd test xs i) := ⟨hlt, hall, hbefore, hend⟩
            dsimp only
            have hrest : (a, b) ∈ runsFrom test xs turns (runEnd test xs i) ↔
                runEnd test xs i ≤ a ∧ IsRun test xs a b :=
              ih (by omega) (Or.inr hend)
            rw [if_pos htest, List.mem_cons, hrest]
            constructor
            · rintro (heq | ⟨hle, hrun'⟩)
              · obtain ⟨rfl, rfl⟩ := Prod.mk.inj heq
                exact ⟨le_refl _, hrun⟩
              · exact ⟨by omega, hrun'⟩
            · rintro ⟨hle, hrun'⟩
              rcases Nat.eq_or_lt_of_le hle with rfl | hgt
              · exact Or.inl (by rw [hrun'.end_unique hrun])
              · -- the element before a stretch that starts inside this one would pass
                refine Or.inr ⟨?_, hrun'⟩
                by_contra hinside
                exact hrun'.before (a - 1) (by omega) (hall (a - 1) (by omega) (by omega))
          · dsimp only
            have hfails : ∀ t, t + 1 = i + 1 → ¬ Passes test xs t := by
              intro t ht hpassed
              obtain rfl : t = i := by omega
              exact htest (hpass.mp hpassed)
            have hrest : (a, b) ∈ runsFrom test xs turns (i + 1) ↔
                i + 1 ≤ a ∧ IsRun test xs a b :=
              ih (by omega) (Or.inl hfails)
            rw [if_neg htest, hrest]
            refine and_congr_left fun hrun' => ⟨fun hle => by omega, fun hle => ?_⟩
            refine Nat.lt_of_le_of_ne hle fun heq => htest (hpass.mp ?_)
            rw [heq]
            exact hrun'.passes a (le_refl _) hrun'.lt

/-- The scan finds exactly the maximal stretches. -/
theorem mem_runs (a b : ℕ) : (a, b) ∈ runs test xs ↔ IsRun test xs a b := by
  rw [runs, mem_runsFrom (by omega) (Or.inl fun t ht => by omega)]
  exact and_iff_right (Nat.zero_le a)

/-- The stretches are apart: each one starts after the position behind the one before it. -/
theorem pairwise_runs : (runs test xs).Pairwise fun a b => a.2 < b.1 := by
  have hfrom : ∀ turns i, xs.length ≤ i + turns →
      ((∀ t, t + 1 = i → ¬ Passes test xs t) ∨ ¬ Passes test xs i) →
        (runsFrom test xs turns i).Pairwise fun a b => a.2 < b.1 := by
    intro turns
    induction turns with
    | zero => exact fun _ _ _ => List.Pairwise.nil
    | succ turns ih =>
        intro i hturns hstart
        rw [runsFrom]
        cases hx : xs[i]? with
        | none => exact List.Pairwise.nil
        | some x =>
            have hpass : Passes test xs i ↔ test x = true := by rw [Passes, hx, Option.any_some]
            dsimp only
            by_cases htest : test x = true
            · obtain ⟨hlt, -, hend⟩ := runEnd_spec (hpass.mpr htest)
              rw [if_pos htest, List.pairwise_cons]
              refine ⟨fun b hb => ?_, ih _ (by omega) (Or.inr hend)⟩
              -- the element behind this stretch does not pass, so none starts there
              obtain ⟨hle, hrun⟩ := (mem_runsFrom (by omega) (Or.inr hend) b.1 b.2).mp hb
              refine Nat.lt_of_le_of_ne hle fun heq : runEnd test xs i = b.1 => hend ?_
              rw [heq]
              exact hrun.passes b.1 (Nat.le_refl _) hrun.lt
            · rw [if_neg htest]
              refine ih _ (by omega) (Or.inl fun t ht => ?_)
              obtain rfl : t = i := by omega
              exact fun h => htest (hpass.mp h)
  exact hfrom _ 0 (by omega) (Or.inl fun t ht => by omega)

end Series
