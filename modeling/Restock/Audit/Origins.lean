import Restock.Audit.Config

/-!
# The origins of a backtest

`harness.plan_origins`: how many origins the history has room for, and where they lie. The origins
of the validation block are the last ones, those of the selection block come before them.

* `shed`, `fitCounts`, `planOrigins` — the code;
* `needed_le_of_shed`, `lt_needed_of_shed_eq_none` — the counts found fit, and none are found only
  when the minimums do not fit;
* `step_le_of_mem_origins` — a step lies between an origin of selection and one of validation;
* `history_le_of_mem_selection` — an origin of selection has enough history before it.
-/

namespace Restock.Audit

/-- What the history is long enough for. -/
inductive HistoryTier
  | nested
  | innerOnly
  | none
  deriving DecidableEq, Repr

/-- What `plan_origins` returns. -/
structure OriginPlan where
  tier : HistoryTier
  /-- Places of weeks in the panel. -/
  selectionOriginIdx : List ℤ
  validationOriginIdx : List ℤ
  selectionOrigins : ℤ
  validationOrigins : ℤ
  weeksNeeded : ℤ
  nWeeksUsable : ℕ
  stepWeeks : ℤ
  horizonWeeks : ℤ
  deriving DecidableEq, Repr

/-- `MIN_TRAIN_WEEKS`. -/
def minTrainWeeks : ℤ := 13

section Code

variable (scfg : SelectionCfg) (n : ℕ)

/-- `needed`: the weeks that so many origins take. -/
def needed (sel val : ℤ) : ℤ :=
  minTrainWeeks + scfg.horizonWeeks + (sel + val) * scfg.stepWeeks

/-- The loop of `fit_counts`: origins are shed until the rest fits, those of validation first. -/
def shed (selMin valMin : ℤ) : ℕ → ℤ → ℤ → Option (ℤ × ℤ)
  | turns, sel, val =>
      if n < needed scfg sel val then
        match turns with
        | 0 => none
        | turns + 1 =>
            if valMin < val then shed selMin valMin turns sel (val - 1)
            else if selMin < sel then shed selMin valMin turns (sel - 1) val
            else none
      else some (sel, val)

/-- `fit_counts`. The loop turns once for each origin that may be shed. -/
def fitCounts (tier : HistoryTier) : Option (ℤ × ℤ) :=
  let sel := scfg.selectionOriginsTarget
  let val := if tier = .nested then scfg.validationOriginsTarget else 0
  let valMin := if tier = .nested then scfg.validationOriginsMinimum else 0
  let selMin := scfg.selectionOriginsMinimum
  shed scfg n selMin valMin ((sel - selMin).toNat + (val - valMin).toNat) sel val

/-- The tier that the length of the history alone allows. -/
def historyTier : HistoryTier :=
  if scfg.minWeeksNested ≤ n then .nested
  else if scfg.minWeeksInnerOnly ≤ n then .innerOnly
  else .none

/-- The loop over the tiers: one whose minimums do not fit gives way to the next. -/
def settleTier : HistoryTier → Option (HistoryTier × ℤ × ℤ)
  | .nested =>
      match fitCounts scfg n .nested with
      | some counts => some (.nested, counts)
      | none => (fitCounts scfg n .innerOnly).map fun counts => (.innerOnly, counts)
  | .innerOnly => (fitCounts scfg n .innerOnly).map fun counts => (.innerOnly, counts)
  | .none => none

/-- `[n - k * step for k in range(last + count, last, -1)]`. -/
def originsBefore (last count : ℤ) : List ℤ :=
  (List.range count.toNat).reverse.map fun k : ℕ => n - (last + k + 1) * scfg.stepWeeks

/-- `plan_origins`. -/
def planOrigins : OriginPlan :=
  match settleTier scfg n (historyTier scfg n) with
  | some (tier, sel, val) =>
      { tier
        selectionOriginIdx := originsBefore scfg n val sel
        validationOriginIdx := originsBefore scfg n 0 val
        selectionOrigins := sel
        validationOrigins := val
        weeksNeeded := needed scfg sel val
        nWeeksUsable := n
        stepWeeks := scfg.stepWeeks
        horizonWeeks := scfg.horizonWeeks }
  | none =>
      { tier := .none
        selectionOriginIdx := []
        validationOriginIdx := []
        selectionOrigins := 0
        validationOrigins := 0
        weeksNeeded :=
          needed scfg scfg.selectionOriginsMinimum scfg.validationOriginsMinimum
        nWeeksUsable := n
        stepWeeks := scfg.stepWeeks
        horizonWeeks := scfg.horizonWeeks }

/-! ## Counts -/

variable {scfg n} {selMin valMin : ℤ}

/-- What is left when the loop ends fits into the history. -/
theorem needed_le_of_shed {turns : ℕ} {sel val : ℤ} {counts : ℤ × ℤ}
    (h : shed scfg n selMin valMin turns sel val = some counts) :
    needed scfg counts.1 counts.2 ≤ n := by
  induction turns generalizing sel val with
  | zero =>
      rw [shed] at h
      split at h
      · cases h
      · next hfit =>
          cases h
          exact not_lt.mp hfit
  | succ turns ih =>
      rw [shed] at h
      split at h
      · -- an origin is shed, or there is none left
        split at h
        · exact ih h
        · split at h
          · exact ih h
          · cases h
      · next hfit =>
          cases h
          exact not_lt.mp hfit

/-- The loop has turns enough: it gives up only when the minimums do not fit. -/
theorem lt_needed_of_shed_eq_none {turns : ℕ} {sel val : ℤ}
    (hturns : (sel - selMin).toNat + (val - valMin).toNat ≤ turns)
    (h : shed scfg n selMin valMin turns sel val = none) :
    n < needed scfg (min sel selMin) (min val valMin) := by
  induction turns generalizing sel val with
  | zero =>
      rw [shed] at h
      split at h
      · next hfit =>
          rwa [min_eq_left (by omega), min_eq_left (by omega)]
      · cases h
  | succ turns ih =>
      rw [shed] at h
      split at h
      · next hfit =>
          split at h
          · -- the least counts stay the same when an origin of validation is shed
            have hmin : min (val - 1) valMin = min val valMin := by omega
            rw [← hmin]
            exact ih (by omega) h
          · split at h
            · have hmin : min (sel - 1) selMin = min sel selMin := by omega
              rw [← hmin]
              exact ih (by omega) h
            · rwa [min_eq_left (by omega), min_eq_left (by omega)]
      · cases h

/-! ## Places -/

/-- The places of some origins. -/
theorem mem_originsBefore {last count o : ℤ} :
    o ∈ originsBefore scfg n last count ↔
      ∃ k, last < k ∧ k ≤ last + count ∧ o = n - k * scfg.stepWeeks := by
  simp only [originsBefore, List.mem_map, List.mem_reverse, List.mem_range]
  constructor
  · rintro ⟨k, hk, rfl⟩
    exact ⟨last + k + 1, by omega, by omega, rfl⟩
  · rintro ⟨k, hlo, hhi, rfl⟩
    refine ⟨(k - last - 1).toNat, by omega, ?_⟩
    rw [show last + ((k - last - 1).toNat : ℤ) + 1 = k by omega]

/-- The counts of a plan, wherever there are origins. -/
theorem exists_counts (scfg : SelectionCfg) (n : ℕ) :
    ((planOrigins scfg n).selectionOriginIdx = [] ∧
        (planOrigins scfg n).validationOriginIdx = []) ∨
      ∃ sel val, needed scfg sel val ≤ n ∧
        (planOrigins scfg n).selectionOriginIdx = originsBefore scfg n val sel ∧
        (planOrigins scfg n).validationOriginIdx = originsBefore scfg n 0 val := by
  rw [planOrigins]
  cases hsettle : settleTier scfg n (historyTier scfg n) with
  | none => exact Or.inl ⟨rfl, rfl⟩
  | some settled =>
      obtain ⟨tier, sel, val⟩ := settled
      refine Or.inr ⟨sel, val, ?_, rfl, rfl⟩
      -- whichever tier was settled on, its counts come out of the loop
      have hfit : ∃ tier, fitCounts scfg n tier = some (sel, val) := by
        cases hhistory : historyTier scfg n with
        | nested =>
            rw [hhistory, settleTier] at hsettle
            cases hnested : fitCounts scfg n .nested with
            | some counts =>
                rw [hnested] at hsettle
                cases hsettle
                exact ⟨.nested, hnested⟩
            | none =>
                rw [hnested] at hsettle
                obtain ⟨counts, hcounts, heq⟩ := Option.map_eq_some_iff.mp hsettle
                cases heq
                exact ⟨.innerOnly, hcounts⟩
        | innerOnly =>
            rw [hhistory, settleTier] at hsettle
            obtain ⟨counts, hcounts, heq⟩ := Option.map_eq_some_iff.mp hsettle
            cases heq
            exact ⟨.innerOnly, hcounts⟩
        | none =>
            rw [hhistory, settleTier] at hsettle
            cases hsettle
      obtain ⟨tier, hfit⟩ := hfit
      exact needed_le_of_shed hfit

/-- A history that is too short has no origins. -/
theorem selection_eq_nil_of_tier (h : (planOrigins scfg n).tier = .none) :
    (planOrigins scfg n).selectionOriginIdx = [] := by
  rw [planOrigins] at h ⊢
  cases hsettle : settleTier scfg n (historyTier scfg n) with
  | none => rfl
  | some settled =>
      -- the tier that is settled on is one with origins
      rw [hsettle] at h
      obtain ⟨tier, sel, val⟩ := settled
      cases hhistory : historyTier scfg n with
      | nested =>
          rw [hhistory, settleTier] at hsettle
          split at hsettle
          · cases hsettle
            cases h
          · obtain ⟨counts, -, heq⟩ := Option.map_eq_some_iff.mp hsettle
            cases heq
            cases h
      | innerOnly =>
          rw [hhistory, settleTier] at hsettle
          obtain ⟨counts, -, heq⟩ := Option.map_eq_some_iff.mp hsettle
          cases heq
          cases h
      | none =>
          rw [hhistory, settleTier] at hsettle
          cases hsettle

/-- A step at least lies between an origin of selection and one of validation. -/
theorem step_le_of_mem_origins (hstep : 0 ≤ scfg.stepWeeks) {o v : ℤ}
    (ho : o ∈ (planOrigins scfg n).selectionOriginIdx)
    (hv : v ∈ (planOrigins scfg n).validationOriginIdx) : o + scfg.stepWeeks ≤ v := by
  rcases exists_counts scfg n with ⟨hnil, -⟩ | ⟨sel, val, -, hsel, hval⟩
  · rw [hnil] at ho
    cases ho
  · rw [hsel, mem_originsBefore] at ho
    rw [hval, mem_originsBefore] at hv
    obtain ⟨k, hlo, -, rfl⟩ := ho
    obtain ⟨j, -, hhi, rfl⟩ := hv
    -- the selection origin is counted further back from the end
    have hmul : (j + 1) * scfg.stepWeeks ≤ k * scfg.stepWeeks :=
      mul_le_mul_of_nonneg_right (by omega) hstep
    rw [add_mul, one_mul] at hmul
    omega

/-- The weeks of training and of the horizon come before every origin of selection. -/
theorem history_le_of_mem_selection (hstep : 0 ≤ scfg.stepWeeks) {o : ℤ}
    (ho : o ∈ (planOrigins scfg n).selectionOriginIdx) :
    minTrainWeeks + scfg.horizonWeeks ≤ o := by
  rcases exists_counts scfg n with ⟨hnil, -⟩ | ⟨sel, val, hfit, hsel, -⟩
  · rw [hnil] at ho
    cases ho
  · rw [hsel, mem_originsBefore] at ho
    obtain ⟨k, -, hhi, rfl⟩ := ho
    have hmul : k * scfg.stepWeeks ≤ (sel + val) * scfg.stepWeeks :=
      mul_le_mul_of_nonneg_right (by omega) hstep
    rw [needed] at hfit
    omega

end Code

end Restock.Audit
