import Mathlib.Data.List.Range
import Restock.Audit.Origins

/-!
# How the blocks of a backtest are laid out

The loop of `fit_counts` sheds origins until the rest fits. Whatever it ends with, the two blocks
follow one another a step apart, end within the history, and could not be any longer.

* `Sheds` — the loop, without a bound on its turns;
* `sheds_shed` — the loop ends, in what the model's bounded loop returns;
* `Sheds.fitted`, `Sheds.short` — what its turns keep;
* `settleTier_eq_some`, `settleTier_eq_none` — the loop over the tiers;
* `isChain_originsBefore` — the places of the origins;
* `planOrigins_wellLaid` — the plans.
-/

namespace Restock.Audit

/-! ## The loop over the counts -/

section Loop

variable (scfg : SelectionCfg) (n : ℕ) (selMin valMin : ℤ)

/-- The loop of `fit_counts` ends from some counts in others, or gives up. -/
inductive Sheds : ℤ → ℤ → Option (ℤ × ℤ) → Prop
  | fits {sel val : ℤ} (h : needed scfg sel val ≤ n) : Sheds sel val (some (sel, val))
  | validation {sel val : ℤ} {counts : Option (ℤ × ℤ)} (h : n < needed scfg sel val)
      (hval : valMin < val) (rest : Sheds sel (val - 1) counts) : Sheds sel val counts
  | selection {sel val : ℤ} {counts : Option (ℤ × ℤ)} (h : n < needed scfg sel val)
      (hval : val ≤ valMin) (hsel : selMin < sel) (rest : Sheds (sel - 1) val counts) :
      Sheds sel val counts
  | givesUp {sel val : ℤ} (h : n < needed scfg sel val) (hval : val ≤ valMin)
      (hsel : sel ≤ selMin) : Sheds sel val none

variable {scfg n selMin valMin}

/-- The loop ends, after a turn for each origin that may be shed at most. -/
theorem sheds_shed {turns : ℕ} {sel val : ℤ}
    (hturns : (sel - selMin).toNat + (val - valMin).toNat ≤ turns) :
    Sheds scfg n selMin valMin sel val (shed scfg n selMin valMin turns sel val) := by
  induction turns generalizing sel val with
  | zero =>
      rw [shed]
      split
      · next hfit => exact .givesUp hfit (by omega) (by omega)
      · next hfit => exact .fits (not_lt.mp hfit)
  | succ turns ih =>
      rw [shed]
      split
      · next hfit =>
          split
          · next hval => exact .validation hfit hval (ih (by omega))
          · next hval =>
              split
              · next hsel => exact .selection hfit (not_lt.mp hval) hsel (ih (by omega))
              · next hsel => exact .givesUp hfit (not_lt.mp hval) (not_lt.mp hsel)
      · next hfit => exact .fits (not_lt.mp hfit)

variable (scfg n selMin valMin) in
/-- Counts that the loop found from others: they fit, the minimums are kept, those of validation
are shed first, and one more of the kind that was shed last would not fit. -/
structure Fitted (sel val : ℤ) (counts : ℤ × ℤ) : Prop where
  fits : needed scfg counts.1 counts.2 ≤ n
  selection : selMin ≤ counts.1 ∧ counts.1 ≤ sel
  validation : valMin ≤ counts.2 ∧ counts.2 ≤ val
  validationFirst : counts.1 < sel → counts.2 = valMin
  oneMoreSelection : counts.1 < sel → n < needed scfg (counts.1 + 1) counts.2
  oneMoreValidation : counts.1 = sel → counts.2 < val → n < needed scfg counts.1 (counts.2 + 1)

/-- What the loop ends with. -/
theorem Sheds.fitted {sel val : ℤ} {result : Option (ℤ × ℤ)} {counts : ℤ × ℤ}
    (h : Sheds scfg n selMin valMin sel val result) (hresult : result = some counts)
    (hsel : selMin ≤ sel) (hval : valMin ≤ val) : Fitted scfg n selMin valMin sel val counts := by
  induction h with
  | fits hfit =>
      cases hresult
      exact ⟨hfit, ⟨hsel, le_rfl⟩, ⟨hval, le_rfl⟩, fun h => absurd h (lt_irrefl _),
        fun h => absurd h (lt_irrefl _), fun _ h => absurd h (lt_irrefl _)⟩
  | @validation sel val _ hfit hmore _ ih =>
      have ih := ih hresult hsel (by omega)
      refine ⟨ih.fits, ih.selection, ⟨ih.validation.1, by have := ih.validation.2; omega⟩,
        ih.validationFirst, ih.oneMoreSelection, fun heq hlt => ?_⟩
      -- either more of validation were shed, or this one was the last
      rcases lt_or_ge counts.2 (val - 1) with hless | hlast
      · exact ih.oneMoreValidation heq hless
      · have hlast : counts.2 + 1 = val := by
          have := ih.validation.2
          omega
        rwa [heq, hlast]
  | @selection sel val _ hfit hleast hmore _ ih =>
      have ih := ih hresult (by omega) hval
      have hvalidation : counts.2 = val := by
        have := ih.validation
        omega
      refine ⟨ih.fits, ⟨ih.selection.1, by have := ih.selection.2; omega⟩, ih.validation,
        fun _ => by omega, fun _ => ?_, fun heq _ => ?_⟩
      · rcases lt_or_ge counts.1 (sel - 1) with hless | hlast
        · exact ih.oneMoreSelection hless
        · have hlast : counts.1 + 1 = sel := by
            have := ih.selection.2
            omega
          rwa [hvalidation, hlast]
      · have := ih.selection.2
        omega
  | givesUp _ _ _ => cases hresult

/-- The loop gives up when the minimums do not fit. -/
theorem Sheds.short {sel val : ℤ} {result : Option (ℤ × ℤ)}
    (h : Sheds scfg n selMin valMin sel val result) (hresult : result = none)
    (hsel : selMin ≤ sel) (hval : valMin ≤ val) : n < needed scfg selMin valMin := by
  induction h with
  | fits _ => cases hresult
  | validation _ hmore _ ih => exact ih hresult hsel (by omega)
  | selection _ _ hmore _ ih => exact ih hresult (by omega) hval
  | givesUp hfit hval' hsel' =>
      rwa [le_antisymm hsel hsel', le_antisymm hval hval']

end Loop

/-! ## The loop over the tiers -/

/-- The step is positive, no horizon is longer than it, and no minimum is above its target. -/
structure SelectionCfg.Sound (scfg : SelectionCfg) : Prop where
  step : 1 ≤ scfg.stepWeeks
  horizon : 1 ≤ scfg.horizonWeeks ∧ scfg.horizonWeeks ≤ scfg.stepWeeks
  selection : 0 ≤ scfg.selectionOriginsMinimum ∧
    scfg.selectionOriginsMinimum ≤ scfg.selectionOriginsTarget
  validation : 0 ≤ scfg.validationOriginsMinimum ∧
    scfg.validationOriginsMinimum ≤ scfg.validationOriginsTarget

section Tiers

variable (scfg : SelectionCfg) (n : ℕ)

/-- The validation origins that a tier aims at. -/
def valTarget (tier : HistoryTier) : ℤ :=
  if tier = .nested then scfg.validationOriginsTarget else 0

/-- The validation origins that a tier cannot do without. -/
def valMinimum (tier : HistoryTier) : ℤ :=
  if tier = .nested then scfg.validationOriginsMinimum else 0

/-- The loop of a tier ends in what `fitCounts` returns. -/
theorem sheds_fitCounts (tier : HistoryTier) :
    Sheds scfg n scfg.selectionOriginsMinimum (valMinimum scfg tier) scfg.selectionOriginsTarget
      (valTarget scfg tier) (fitCounts scfg n tier) :=
  sheds_shed le_rfl

variable {scfg n}

/-- In either tier the minimum is not negative, and not above the target. -/
theorem SelectionCfg.Sound.valMinimum_le (h : scfg.Sound) (tier : HistoryTier) :
    0 ≤ valMinimum scfg tier ∧ valMinimum scfg tier ≤ valTarget scfg tier := by
  rw [valMinimum, valTarget]
  split
  · exact h.validation
  · exact ⟨le_rfl, le_rfl⟩

/-- The counts of a tier. -/
theorem fitted_of_fitCounts (h : scfg.Sound) {tier : HistoryTier} {counts : ℤ × ℤ}
    (hfit : fitCounts scfg n tier = some counts) :
    Fitted scfg n scfg.selectionOriginsMinimum (valMinimum scfg tier) scfg.selectionOriginsTarget
      (valTarget scfg tier) counts :=
  (sheds_fitCounts scfg n tier).fitted hfit h.selection.2 (h.valMinimum_le tier).2

/-- The tier that is settled on is one whose counts fit. -/
theorem settleTier_eq_some {first tier : HistoryTier} {counts : ℤ × ℤ}
    (h : settleTier scfg n first = some (tier, counts)) :
    tier ≠ .none ∧ fitCounts scfg n tier = some counts := by
  cases first with
  | nested =>
      rw [settleTier] at h
      split at h
      · next counts' hfit =>
          cases h
          exact ⟨by decide, hfit⟩
      · obtain ⟨counts', hfit, heq⟩ := Option.map_eq_some_iff.mp h
        cases heq
        exact ⟨by decide, hfit⟩
  | innerOnly =>
      rw [settleTier] at h
      obtain ⟨counts', hfit, heq⟩ := Option.map_eq_some_iff.mp h
      cases heq
      exact ⟨by decide, hfit⟩
  | none => cases h

/-- None is settled on when there is none, or the inner loop alone does not fit. -/
theorem settleTier_eq_none {first : HistoryTier} (h : settleTier scfg n first = none) :
    first = .none ∨ fitCounts scfg n .innerOnly = none := by
  cases first with
  | nested =>
      rw [settleTier] at h
      split at h
      · cases h
      · exact Or.inr (Option.map_eq_none_iff.mp h)
  | innerOnly => exact Or.inr (Option.map_eq_none_iff.mp h)
  | none => exact Or.inl rfl

/-- The history of a tier without origins is below the threshold. -/
theorem lt_of_historyTier (h : historyTier scfg n = .none) : (n : ℤ) < scfg.minWeeksInnerOnly := by
  rw [historyTier] at h
  split at h
  · cases h
  · split at h
    · cases h
    · next hshort => exact not_le.mp hshort

end Tiers

/-! ## The places of the origins -/

section Places

variable {scfg : SelectionCfg} {n : ℕ}

/-- The places before some last ones come before the places of these. -/
theorem originsBefore_append {sel val : ℤ} (hsel : 0 ≤ sel) (hval : 0 ≤ val) :
    originsBefore scfg n val sel ++ originsBefore scfg n 0 val =
      originsBefore scfg n 0 (sel + val) := by
  have hcount : (sel + val).toNat = val.toNat + sel.toNat := by omega
  rw [originsBefore, originsBefore, originsBefore, hcount, List.range_add, List.reverse_append,
    List.map_append, ← List.map_reverse, List.map_map]
  congr 1
  refine List.map_congr_left fun k _ => ?_
  have hlast : val + (k : ℤ) + 1 = 0 + ((val.toNat + k : ℕ) : ℤ) + 1 := by omega
  rw [Function.comp_apply, hlast]

/-- The places are a step apart. -/
theorem isChain_originsBefore (last count : ℤ) :
    (originsBefore scfg n last count).IsChain fun a b => b = a + scfg.stepWeeks := by
  rw [originsBefore]
  refine List.isChain_map_of_isChain _ (R := fun i j : ℕ => i = j + 1) ?_ ?_
  · rintro i j rfl
    push_cast
    ring
  · rw [List.isChain_reverse]
    exact (List.isChain_range _ _).mpr fun _ _ => rfl

/-- There is a place for each origin. -/
theorem length_originsBefore (last : ℤ) {count : ℤ} (h : 0 ≤ count) :
    ((originsBefore scfg n last count).length : ℤ) = count := by
  rw [originsBefore, List.length_map, List.length_reverse, List.length_range]
  exact Int.toNat_of_nonneg h

end Places

/-! ## Plans -/

/-- The two blocks of a plan are laid out as they should be. -/
structure WellLaid (scfg : SelectionCfg) (n : ℕ) (plan : OriginPlan) : Prop where
  /-- The origins of both blocks, one after the other, are a step apart. -/
  apart : (plan.selectionOriginIdx ++ plan.validationOriginIdx).IsChain fun a b =>
    b = a + scfg.stepWeeks
  increasing : (plan.selectionOriginIdx ++ plan.validationOriginIdx).Pairwise (· < ·)
  /-- Before the first one there are the weeks of training and of a horizon. -/
  history : ∀ o ∈ plan.selectionOriginIdx ++ plan.validationOriginIdx,
    minTrainWeeks + scfg.horizonWeeks ≤ o
  /-- The target weeks lie in the panel. -/
  targets : ∀ o ∈ plan.selectionOriginIdx ++ plan.validationOriginIdx,
    ∀ h, 1 ≤ h → h ≤ scfg.horizonWeeks → o + h - 1 < n
  /-- The target weeks of selection lie before every origin of validation. -/
  disjoint : ∀ o ∈ plan.selectionOriginIdx, ∀ h, 1 ≤ h → h ≤ scfg.horizonWeeks →
    ∀ v ∈ plan.validationOriginIdx, o + h - 1 < v
  selectionCount : (plan.selectionOriginIdx.length : ℤ) = plan.selectionOrigins
  validationCount : (plan.validationOriginIdx.length : ℤ) = plan.validationOrigins
  /-- The counts lie between the minimums and the targets of the tier, origins of selection are
  shed only when those of validation are at their minimum, and one more of the kind that was shed
  last would not fit. -/
  counts : Fitted scfg n scfg.selectionOriginsMinimum (valMinimum scfg plan.tier)
    scfg.selectionOriginsTarget (valTarget scfg plan.tier)
    (plan.selectionOrigins, plan.validationOrigins)

/-- The blocks of counts that fit are laid out as they should be. -/
theorem wellLaid_of_fitted {scfg : SelectionCfg} {n : ℕ} {plan : OriginPlan} (h : scfg.Sound)
    (hsel : plan.selectionOriginIdx =
      originsBefore scfg n plan.validationOrigins plan.selectionOrigins)
    (hval : plan.validationOriginIdx = originsBefore scfg n 0 plan.validationOrigins)
    (hfit : Fitted scfg n scfg.selectionOriginsMinimum (valMinimum scfg plan.tier)
      scfg.selectionOriginsTarget (valTarget scfg plan.tier)
      (plan.selectionOrigins, plan.validationOrigins)) :
    WellLaid scfg n plan := by
  have hstep := h.step
  have hhorizon := h.horizon
  have hselNonneg : 0 ≤ plan.selectionOrigins := h.selection.1.trans hfit.selection.1
  have hvalNonneg : 0 ≤ plan.validationOrigins :=
    (h.valMinimum_le plan.tier).1.trans hfit.validation.1
  have hall : plan.selectionOriginIdx ++ plan.validationOriginIdx =
      originsBefore scfg n 0 (plan.selectionOrigins + plan.validationOrigins) := by
    rw [hsel, hval, originsBefore_append hselNonneg hvalNonneg]
  have hchain : (plan.selectionOriginIdx ++ plan.validationOriginIdx).IsChain fun a b =>
      b = a + scfg.stepWeeks := by
    rw [hall]
    exact isChain_originsBefore _ _
  refine ⟨hchain, ?_, fun o ho => ?_, fun o ho k hk hk' => ?_, fun o ho k hk hk' v hv => ?_, ?_, ?_,
    hfit⟩
  · have hlt : (plan.selectionOriginIdx ++ plan.validationOriginIdx).IsChain (· < ·) := by
      refine hchain.imp ?_
      rintro a b rfl
      omega
    exact hlt.pairwise
  · rw [hall, mem_originsBefore] at ho
    obtain ⟨k, -, hhi, rfl⟩ := ho
    -- no origin has more steps behind it than the first, and the counts leave room for that one
    have hmul : k * scfg.stepWeeks ≤
        (plan.selectionOrigins + plan.validationOrigins) * scfg.stepWeeks :=
      mul_le_mul_of_nonneg_right (by omega) (by omega)
    have hneeded : needed scfg plan.selectionOrigins plan.validationOrigins ≤ n := hfit.fits
    rw [needed] at hneeded
    omega
  · rw [hall, mem_originsBefore] at ho
    obtain ⟨j, hlo, -, rfl⟩ := ho
    -- an origin lies a step before the end at least
    have hmul : 1 * scfg.stepWeeks ≤ j * scfg.stepWeeks :=
      mul_le_mul_of_nonneg_right (by omega) (by omega)
    omega
  · rw [hsel, mem_originsBefore] at ho
    rw [hval, mem_originsBefore] at hv
    obtain ⟨i, hlo, -, rfl⟩ := ho
    obtain ⟨j, -, hhi, rfl⟩ := hv
    -- a step is at least a horizon, and an origin of selection is one step more from the end
    have hmul : (j + 1) * scfg.stepWeeks ≤ i * scfg.stepWeeks :=
      mul_le_mul_of_nonneg_right (by omega) (by omega)
    rw [add_mul, one_mul] at hmul
    omega
  · rw [hsel, length_originsBefore _ hselNonneg]
  · rw [hval, length_originsBefore _ hvalNonneg]

/-- **The blocks of a backtest never overlap and always fit.** For every length of the history and
every sound configuration, the loop over the counts ends in every tier. A plan with origins is well
laid out; one without means that the history is below the threshold or too short for the least
number of selection origins. -/
theorem planOrigins_wellLaid {scfg : SelectionCfg} (h : scfg.Sound) (n : ℕ) :
    (∀ tier, Sheds scfg n scfg.selectionOriginsMinimum (valMinimum scfg tier)
      scfg.selectionOriginsTarget (valTarget scfg tier) (fitCounts scfg n tier)) ∧
    ((planOrigins scfg n).tier ≠ .none → WellLaid scfg n (planOrigins scfg n)) ∧
    ((planOrigins scfg n).tier = .none →
      (n : ℤ) < scfg.minWeeksInnerOnly ∨ n < needed scfg scfg.selectionOriginsMinimum 0) := by
  refine ⟨sheds_fitCounts scfg n, ?_⟩
  cases hsettle : settleTier scfg n (historyTier scfg n) with
  | none =>
      have hplan : (planOrigins scfg n).tier = .none := by rw [planOrigins, hsettle]
      refine ⟨fun htier => absurd hplan htier, fun _ => ?_⟩
      rcases settleTier_eq_none hsettle with hshort | hnone
      · exact Or.inl (lt_of_historyTier hshort)
      · have hshort := (sheds_fitCounts scfg n .innerOnly).short hnone h.selection.2
          (h.valMinimum_le _).2
        exact Or.inr hshort
  | some settled =>
      obtain ⟨tier, counts⟩ := settled
      obtain ⟨htier, hfit⟩ := settleTier_eq_some hsettle
      have hfitted := fitted_of_fitCounts h hfit
      have hplan : (planOrigins scfg n).tier = tier := by rw [planOrigins, hsettle]
      refine ⟨fun _ => ?_, fun hnone => absurd (hplan.symm.trans hnone) htier⟩
      apply wellLaid_of_fitted h
      · rw [planOrigins, hsettle]
      · rw [planOrigins, hsettle]
      · rw [hplan]
        rw [planOrigins, hsettle]
        exact hfitted

/-- The default configuration is sound, and eighty weeks have room for both blocks. -/
theorem planOrigins_wellLaid_eighty :
    (planOrigins {} 80).tier = .nested ∧ WellLaid {} 80 (planOrigins {} 80) := by
  have hnested : (planOrigins {} 80).tier = .nested := by decide
  exact ⟨hnested, (planOrigins_wellLaid ⟨by decide, by decide, by decide, by decide⟩ 80).2.1
    (by rw [hnested]; decide)⟩

end Restock.Audit
