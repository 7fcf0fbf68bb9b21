import Mathlib.Data.List.DropRight
import Restock.Team.Limits

/-!
# Limits of a plan

`apps/worker/src/limits-cron.ts` and `packages/db/src/limits.ts`: a daily check compares what a
workspace uses with its plan. The first check that finds it over the plan starts a clock, a check
that does not clears it, and while it is over the bell warns once a week. What has drifted past the
plan is only refused when the clock has run for the days of grace.

* `resolvePlanLimits`, `computeLimitState` — the plan, with its three dimensions;
* `LimitsCheck.run` — the check of a workspace, `evaluateLimits` — what the web app reads;
* `overSince` — the checks since the workspace was last within its plan;
* `limitsExceededAt_run` — the clock runs since the first of them;
* `drift_refused_iff` — a refusal for drift: all checks of the last week found it over;
* `warned_before_refusal` — warnings are a week apart, and one came before any refusal for drift.
-/

namespace Restock.Worker

open Team (LimitUsage LimitCheck TeamEnv GRACE_DAYS DAY_MS DEFAULT_PLAN graceLeft limitCheck)

/-! ## Plans -/

/-- `PlanLimits`. -/
structure PlanLimits where
  maxProducts : ℚ
  maxMembers : ℚ
  maxOrders30d : ℚ
  deriving DecidableEq, Repr

/-- `PLAN_TIERS`. -/
def planTier (tier : String) : Option PlanLimits :=
  if tier = "starter" then some { maxProducts := 500, maxMembers := 3, maxOrders30d := 500 }
  else if tier = "growth" then
    some { maxProducts := 5000, maxMembers := 10, maxOrders30d := 5000 }
  else if tier = "scale" then
    some { maxProducts := 20000, maxMembers := 25, maxOrders30d := 20000 }
  else none

/-- `PlanSource`: the tier of a tenant, and the numbers stored for it instead. -/
structure PlanSource where
  plan : Option String := none
  maxProducts : Option ℚ := none
  maxMembers : Option ℚ := none
  maxOrders30d : Option ℚ := none
  deriving DecidableEq, Repr

/-- `resolvePlanLimits`. -/
def resolvePlanLimits (tenant : PlanSource) : PlanLimits :=
  let tier := (planTier (tenant.plan.getD DEFAULT_PLAN)).getD
    ((planTier DEFAULT_PLAN).getD ⟨0, 0, 0⟩)
  let override (value : Option ℚ) (limit : ℚ) := (value.filter fun v => 0 ≤ v).getD limit
  { maxProducts := override tenant.maxProducts tier.maxProducts
    maxMembers := override tenant.maxMembers tier.maxMembers
    maxOrders30d := override tenant.maxOrders30d tier.maxOrders30d }

/-- `UsageCounts`. -/
structure UsageCounts where
  products : ℕ
  members : ℕ
  orders30d : ℕ
  deriving DecidableEq, Repr

/-- `LimitState`. -/
structure LimitState where
  products : LimitUsage
  members : LimitUsage
  orders30d : LimitUsage
  anyOver : Bool
  graceLeftDays : Option ℕ
  deriving DecidableEq, Repr

/-- `computeLimitState`. -/
def computeLimitState (counts : UsageCounts) (limits : PlanLimits)
    (limitsExceededAt : Option Time) (now : Time) : LimitState :=
  let products : LimitUsage := ⟨counts.products, limits.maxProducts⟩
  let members : LimitUsage := ⟨counts.members, limits.maxMembers⟩
  let orders30d : LimitUsage := ⟨counts.orders30d, limits.maxOrders30d⟩
  let anyOver := products.isOver || members.isOver || orders30d.isOver
  { products, members, orders30d, anyOver
    graceLeftDays :=
      if anyOver then some ((limitsExceededAt.map fun since => graceLeft since now).getD GRACE_DAYS)
      else none }

/-! ## The check -/

/-- `WARNING_DEDUP_DAYS`. -/
def WARNING_DEDUP_DAYS : ℕ := 7

/-- A notification of kind `limit_warning`. -/
structure LimitWarning where
  createdAt : Time
  body : String
  deriving DecidableEq, Repr

/-- What is stored of a workspace: `TenantConfig.limitsExceededAt`, and its warnings. -/
structure PlanClock where
  limitsExceededAt : Option Time := none
  warnings : List LimitWarning := []
  deriving DecidableEq, Repr

/-- `limitWarningBody`. -/
def limitWarningBody (env : TeamEnv) (state : LimitState) : String :=
  let line (usage : LimitUsage) (label : String) :=
    if usage.isOver then
      [label ++ " (" ++ env.numberText usage.used ++ " of " ++ env.numberText usage.max ++ ")"]
    else []
  let exceeded := line state.products "products" ++ line state.members "team members" ++
    line state.orders30d "sales activity in the last 30 days"
  let left := state.graceLeftDays.getD 0
  let grace :=
    if 0 < left then
      "Everything keeps working for now — after " ++ env.numberText left ++ " more day" ++
        (if left = 1 then "" else "s") ++ ", adding more may be limited."
    else "The grace period has ended, so adding more may be limited."
  "This workspace is over its plan limit for " ++ ", ".intercalate exceeded ++ ". " ++ grace ++
    " Contact support to move to a bigger plan."

/-- A check of a workspace: what it reads, and when it starts and writes. -/
structure LimitsCheck where
  now : Time
  tenant : PlanSource
  counts : UsageCounts
  /-- The clock of the database, when a warning is written. -/
  createdAt : Time
  /-- The job fails before it warns. -/
  fails : Bool := false
  deriving DecidableEq, Repr

namespace LimitsCheck

variable (env : TeamEnv) (check : LimitsCheck)

/-- What the check makes of the clock that is stored. -/
def state (limitsExceededAt : Option Time) : LimitState :=
  computeLimitState check.counts (resolvePlanLimits check.tenant) limitsExceededAt check.now

/-- The clock after the check. -/
def anchor (limitsExceededAt : Option Time) : Option Time :=
  match (check.state limitsExceededAt).anyOver, limitsExceededAt with
  | true, none => some check.now -- first time over: start the grace clock
  | true, some since => some since
  | false, _ => none -- recovered: the next incident restarts grace in full

/-- Warnings since this instant are looked at. -/
def dedupSince : Time :=
  check.now - WARNING_DEDUP_DAYS * DAY_MS

/-- `checkTenantLimits`. -/
def run (clock : PlanClock) : PlanClock :=
  let anchor := check.anchor clock.limitsExceededAt
  let state := check.state anchor
  let recent := clock.warnings.any fun w => check.dedupSince ≤ w.createdAt
  { limitsExceededAt := anchor
    warnings :=
      if state.anyOver && !recent && !check.fails then
        clock.warnings ++ [{ createdAt := check.createdAt, body := limitWarningBody env state }]
      else clock.warnings }

/-- The check finds the workspace over its plan. -/
def isOver : Bool :=
  (check.state none).anyOver

end LimitsCheck

/-- What is stored after some checks of a workspace that was never over. -/
def runChecks (env : TeamEnv) (checks : List LimitsCheck) : PlanClock :=
  checks.foldl (fun clock check => check.run env clock) {}

/-- `evaluateLimits`: what the web app makes of what is stored. -/
def evaluateLimits (clock : PlanClock) (tenant : PlanSource) (counts : UsageCounts) (now : Time) :
    LimitState :=
  computeLimitState counts (resolvePlanLimits tenant) clock.limitsExceededAt now

/-- The checks since the workspace was last within its plan. -/
def overSince (checks : List LimitsCheck) : List LimitsCheck :=
  checks.rtakeWhile LimitsCheck.isOver

section Clock

variable (env : TeamEnv)

theorem runChecks_concat (checks : List LimitsCheck) (check : LimitsCheck) :
    runChecks env (checks ++ [check]) = check.run env (runChecks env checks) := by
  rw [runChecks, List.foldl_append, List.foldl_cons, List.foldl_nil, ← runChecks]

/-- A check that finds the workspace over its plan keeps the clock or starts it. -/
theorem LimitsCheck.anchor_eq (check : LimitsCheck) (limitsExceededAt : Option Time) :
    check.anchor limitsExceededAt =
      if check.isOver then some (limitsExceededAt.getD check.now) else none := by
  have hover : (check.state limitsExceededAt).anyOver = check.isOver := rfl
  unfold LimitsCheck.anchor
  rw [hover]
  cases check.isOver <;> cases limitsExceededAt <;> rfl

/-- **The clock.** After any checks it runs since the first one of those that found the workspace
over its plan without a break. -/
theorem limitsExceededAt_run (checks : List LimitsCheck) :
    (runChecks env checks).limitsExceededAt =
      (overSince checks).head?.map LimitsCheck.now := by
  induction checks using List.reverseRecOn with
  | nil => rfl
  | append_singleton checks check ih =>
      rw [runChecks_concat]
      show check.anchor (runChecks env checks).limitsExceededAt = _
      rw [ih, LimitsCheck.anchor_eq, overSince, overSince]
      split
      · next hover =>
        rw [List.rtakeWhile_concat_pos _ _ _ hover]
        cases List.rtakeWhile LimitsCheck.isOver checks <;> rfl
      · next hover => rw [List.rtakeWhile_concat_neg _ _ _ hover]; rfl

/-- Checks at the end that found the workspace over its plan only add to those before. -/
theorem overSince_append (before : List LimitsCheck) {rest : List LimitsCheck}
    (h : ∀ c ∈ rest, c.isOver) : overSince (before ++ rest) = overSince before ++ rest := by
  induction rest using List.reverseRecOn with
  | nil => rw [List.append_nil, List.append_nil]
  | append_singleton rest check ih =>
      have hcheck : check.isOver := h check (by simp)
      rw [← List.append_assoc, overSince, List.rtakeWhile_concat_pos _ _ _ hcheck, ← overSince,
        ih fun c hc => h c (List.mem_append_left _ hc), List.append_assoc]

/-- The checks before a break, and those since. -/
theorem exists_eq_append_overSince (checks : List LimitsCheck) :
    ∃ before, checks = before ++ overSince checks :=
  ⟨_, List.rdropWhile_append_rtakeWhile.symm⟩

/-- The days of grace are over when so many days have passed. -/
theorem graceLeft_eq_zero_iff {since now : Time} :
    graceLeft since now = 0 ↔ since + GRACE_DAYS * DAY_MS ≤ now := by
  have hpos : (0 : ℚ) < ((DAY_MS : ℤ) : ℚ) := by decide
  rw [graceLeft, Int.toNat_eq_zero, max_le_iff, and_iff_right le_rfl, Int.ceil_le, Int.cast_zero,
    div_le_iff₀ hpos, zero_mul, ← Int.cast_zero, Int.cast_le, sub_nonpos, le_sub_iff_add_le,
    add_comm]

/-- The clock has run for the days of grace when all checks since some that lies so far back found
the workspace over its plan. -/
theorem graceOver_iff {checks : List LimitsCheck}
    (hsorted : checks.Pairwise fun c c' => c.now ≤ c'.now) (now : Time) :
    (∃ since ∈ (runChecks env checks).limitsExceededAt, graceLeft since now = 0) ↔
      ∃ before first rest, checks = before ++ first :: rest ∧
        (∀ c ∈ first :: rest, c.isOver) ∧ first.now + GRACE_DAYS * DAY_MS ≤ now := by
  simp only [limitsExceededAt_run, graceLeft_eq_zero_iff, Option.mem_def, Option.map_eq_some_iff]
  constructor
  · rintro ⟨_, ⟨first, hfirst, rfl⟩, hgrace⟩
    obtain ⟨rest, hrest⟩ := List.head?_eq_some_iff.mp hfirst
    obtain ⟨before, hbefore⟩ := exists_eq_append_overSince checks
    refine ⟨before, first, rest, hrest ▸ hbefore, fun c hc => ?_, hgrace⟩
    exact List.mem_rtakeWhile_imp (p := LimitsCheck.isOver) (hrest ▸ hc : c ∈ overSince checks)
  · rintro ⟨before, first, rest, rfl, hover, hgrace⟩
    rw [overSince_append before hover]
    cases hsince : overSince before with
    | nil => exact ⟨first.now, ⟨first, rfl, rfl⟩, hgrace⟩
    | cons earlier _ =>
        -- the clock was started before
        have hmem : earlier ∈ before :=
          (List.rtakeWhile_suffix LimitsCheck.isOver before).subset
            (hsince ▸ List.mem_cons_self : earlier ∈ overSince before)
        have hle : earlier.now ≤ first.now :=
          (List.pairwise_append.mp hsorted).2.2 earlier hmem first List.mem_cons_self
        exact ⟨earlier.now, ⟨earlier, rfl, rfl⟩, (add_le_add_left hle _).trans hgrace⟩

/-! ## Refusals for drift -/

/-- What the web app decides about one member more. -/
def memberCheck (clock : PlanClock) (tenant : PlanSource) (counts : UsageCounts) (now : Time) :
    LimitCheck :=
  let state := evaluateLimits clock tenant counts now
  limitCheck env state.members state.graceLeftDays

/-- The member is refused because the members have drifted past the plan. -/
def RefusesDrift (clock : PlanClock) (tenant : PlanSource) (counts : UsageCounts) (now : Time) :
    Prop :=
  (memberCheck env clock tenant counts now).allowed = false ∧
    (memberCheck env clock tenant counts now).isOver = true

/-- A refusal past the limit is one without days of grace. -/
theorem limitCheck_drift_iff (u : LimitUsage) (grace : Option ℕ) :
    (limitCheck env u grace).allowed = false ∧ (limitCheck env u grace).isOver = true ↔
      u.isOver = true ∧ grace.getD 0 = 0 := by
  unfold limitCheck
  dsimp only
  by_cases hover : u.isOver
  · have hpast : u.max < u.used := of_decide_eq_true hover
    have hless : ¬ (u.used : ℚ) + 1 < u.max := fun h => by linarith
    have hlast : (u.used : ℚ) + 1 ≠ u.max := fun h => by linarith
    rw [if_neg hless, if_neg hlast, if_neg (not_not.mpr hover), if_pos hover]
    by_cases hgrace : 0 < grace.getD 0
    · rw [if_pos hgrace]
      exact iff_of_false (fun h => Bool.noConfusion h.1) fun h => hgrace.ne' h.2
    · rw [if_neg hgrace]
      exact iff_of_true ⟨rfl, rfl⟩ ⟨hover, Nat.eq_zero_of_not_pos hgrace⟩
  · refine iff_of_false (fun h => ?_) fun h => hover h.1
    have hwithin := h.2
    rw [if_pos hover] at hwithin
    split_ifs at hwithin

/-- The members, against those that a plan includes. -/
def memberUsage (tenant : PlanSource) (counts : UsageCounts) : LimitUsage :=
  ⟨counts.members, (resolvePlanLimits tenant).maxMembers⟩

/-- The other dimensions of a plan decide nothing about a member: it is the check of an invite. -/
theorem memberCheck_eq (clock : PlanClock) (tenant : PlanSource) (counts : UsageCounts)
    (now : Time) :
    memberCheck env clock tenant counts now =
      limitCheck env (memberUsage tenant counts)
        (Team.graceLeftDays (memberUsage tenant counts) clock.limitsExceededAt now) := by
  rw [memberCheck, evaluateLimits, computeLimitState, Team.graceLeftDays]
  dsimp only
  rw [← memberUsage]
  by_cases hover : (memberUsage tenant counts).isOver
  · rw [hover, Bool.or_true, Bool.true_or]
  · -- what is not over has no use for the days of grace
    unfold limitCheck
    rw [if_neg hover, if_neg hover]

/-- A member is refused for drift when the members are past the plan and the clock has run for the
days of grace. -/
theorem refusesDrift_iff (clock : PlanClock) (tenant : PlanSource) (counts : UsageCounts)
    (now : Time) :
    RefusesDrift env clock tenant counts now ↔
      (resolvePlanLimits tenant).maxMembers < counts.members ∧
        ∃ since ∈ clock.limitsExceededAt, graceLeft since now = 0 := by
  have hiff : (memberUsage tenant counts).isOver ↔
      (resolvePlanLimits tenant).maxMembers < counts.members := decide_eq_true_iff
  rw [RefusesDrift, memberCheck_eq, limitCheck_drift_iff, ← hiff]
  refine and_congr_right fun hover => ?_
  rw [Team.graceLeftDays, if_pos hover, Option.getD_some]
  cases clock.limitsExceededAt with
  | none => simp [GRACE_DAYS]
  | some since => simp

/-- **Drift.** A member is refused because the members have drifted past the plan exactly when all
checks of the days of grace found the workspace over its plan. -/
theorem drift_refused_iff {checks : List LimitsCheck}
    (hsorted : checks.Pairwise fun c c' => c.now ≤ c'.now) (tenant : PlanSource)
    (counts : UsageCounts) (now : Time) :
    RefusesDrift env (runChecks env checks) tenant counts now ↔
      (resolvePlanLimits tenant).maxMembers < counts.members ∧
        ∃ before first rest, checks = before ++ first :: rest ∧
          (∀ c ∈ first :: rest, c.isOver) ∧ first.now + GRACE_DAYS * DAY_MS ≤ now := by
  rw [refusesDrift_iff, graceOver_iff env hsorted]

/-! ## Warnings -/

/-- The warnings after a check: a new one only when the last one is a week old. -/
theorem LimitsCheck.warnings_run (check : LimitsCheck) (clock : PlanClock) :
    (check.run env clock).warnings = clock.warnings ∨
      ∃ body, (check.run env clock).warnings =
        clock.warnings ++ [{ createdAt := check.createdAt, body }] ∧
        ∀ w ∈ clock.warnings, w.createdAt < check.dedupSince := by
  unfold LimitsCheck.run
  dsimp only
  split
  · next hwarns =>
    simp only [Bool.and_eq_true, Bool.not_eq_true', List.any_eq_false, decide_eq_true_eq,
      not_le] at hwarns
    exact .inr ⟨_, rfl, hwarns.1.2⟩
  · exact .inl rfl

/-- A check that finds the workspace over its plan leaves a warning of the last week, unless it
fails. -/
theorem LimitsCheck.exists_warning {check : LimitsCheck} (hover : check.isOver)
    (hfails : check.fails = false) (hwritten : check.now ≤ check.createdAt) (clock : PlanClock) :
    ∃ w ∈ (check.run env clock).warnings, check.dedupSince ≤ w.createdAt := by
  have hstate : ∀ since, (check.state since).anyOver = true := fun _ => hover
  unfold LimitsCheck.run
  dsimp only
  rw [hstate, hfails, Bool.true_and, Bool.not_false, Bool.and_true]
  cases hrecent : clock.warnings.any fun w => decide (check.dedupSince ≤ w.createdAt) with
  | true =>
      obtain ⟨w, hw, hsince⟩ := List.any_eq_true.mp hrecent
      exact ⟨w, hw, of_decide_eq_true hsince⟩
  | false =>
      refine ⟨_, List.mem_append_right _ (List.mem_singleton_self _), ?_⟩
      exact (sub_le_self _ (by decide)).trans hwritten

/-- **Warned before refused.** Warnings are more than a week apart, and at least a week before a
member is refused for drift a check of the workspace has left a warning, or found one of that week,
unless its write failed. -/
theorem warned_before_refusal {checks : List LimitsCheck}
    (hsorted : checks.Pairwise fun c c' => c.now ≤ c'.now)
    (hwritten : ∀ c ∈ checks, c.now ≤ c.createdAt) :
    ((runChecks env checks).warnings.Pairwise fun w w' =>
      w.createdAt + WARNING_DEDUP_DAYS * DAY_MS < w'.createdAt) ∧
    ∀ tenant counts now, RefusesDrift env (runChecks env checks) tenant counts now →
      ∃ before first rest, checks = before ++ first :: rest ∧
        first.now + GRACE_DAYS * DAY_MS ≤ now ∧ (first.fails = false →
          ∃ w ∈ (runChecks env (before ++ [first])).warnings, first.dedupSince ≤ w.createdAt) := by
  refine ⟨?_, fun tenant counts now hrefuses => ?_⟩
  · clear hsorted
    induction checks using List.reverseRecOn with
    | nil => exact List.Pairwise.nil
    | append_singleton checks check ih =>
        have hbefore := ih fun c hc => hwritten c (List.mem_append_left _ hc)
        have hnow : check.now ≤ check.createdAt := hwritten check (by simp)
        rw [runChecks_concat]
        rcases check.warnings_run env (runChecks env checks) with hsame | ⟨body, hmore, hold⟩
        · rw [hsame]
          exact hbefore
        · rw [hmore]
          refine List.pairwise_append.mpr ⟨hbefore, List.pairwise_singleton _ _, ?_⟩
          intro w hw w' hw'
          rw [List.mem_singleton.mp hw']
          exact (lt_sub_iff_add_lt.mp (hold w hw)).trans_le hnow
  · obtain ⟨-, before, first, rest, rfl, hover, hgrace⟩ :=
      (drift_refused_iff env hsorted tenant counts now).mp hrefuses
    refine ⟨before, first, rest, rfl, hgrace, fun hfails => ?_⟩
    rw [runChecks_concat]
    exact LimitsCheck.exists_warning env (hover first List.mem_cons_self) hfails
      (hwritten first (by simp)) _

end Clock

/-! ## A workspace that has drifted -/

/-- Four members where the plan includes three, found by a check on some day. -/
def driftCheck (day : ℕ) : LimitsCheck where
  now := day * DAY_MS
  tenant := {}
  counts := { products := 0, members := 4, orders30d := 0 }
  createdAt := day * DAY_MS

/-- The eighth check in a row: a member is refused, and was not the day before. -/
theorem driftCheck_refused :
    RefusesDrift .plain (runChecks .plain ((List.range 8).map driftCheck)) {}
        { products := 0, members := 4, orders30d := 0 } (7 * DAY_MS) ∧
      ¬ RefusesDrift .plain (runChecks .plain ((List.range 8).map driftCheck)) {}
        { products := 0, members := 4, orders30d := 0 } (7 * DAY_MS - 1) := by
  have hsorted : ((List.range 8).map driftCheck).Pairwise fun c c' => c.now ≤ c'.now := by decide
  rw [drift_refused_iff .plain hsorted, drift_refused_iff .plain hsorted]
  refine ⟨⟨by decide +kernel, [], driftCheck 0, (List.range' 1 7).map driftCheck, rfl,
    by decide +kernel, by decide⟩, ?_⟩
  rintro ⟨-, before, first, rest, hsplit, -, hgrace⟩
  have hmem : first ∈ (List.range 8).map driftCheck := hsplit ▸ by simp
  obtain ⟨day, -, rfl⟩ := List.mem_map.mp hmem
  have hday : (0 : ℤ) ≤ day := Int.natCast_nonneg day
  unfold driftCheck GRACE_DAYS DAY_MS at hgrace
  dsimp only at hgrace
  push_cast at hgrace
  linarith

/-- The check that started the clock has warned. -/
theorem driftCheck_warned :
    ∃ before first rest, (List.range 8).map driftCheck = before ++ first :: rest ∧
      ∃ w ∈ (runChecks .plain (before ++ [first])).warnings, first.dedupSince ≤ w.createdAt := by
  have hrefused : RefusesDrift .plain (runChecks .plain ((List.range 8).map driftCheck)) {}
      { products := 0, members := 4, orders30d := 0 } (7 * DAY_MS) := by
    unfold RefusesDrift
    decide +kernel
  obtain ⟨before, first, rest, hsplit, -, hwarned⟩ :=
    (warned_before_refusal .plain (by decide) (by decide)).2 _ _ _ hrefused
  refine ⟨before, first, rest, hsplit, hwarned ?_⟩
  have hmem : first ∈ (List.range 8).map driftCheck := hsplit ▸ by simp
  obtain ⟨day, -, rfl⟩ := List.mem_map.mp hmem
  rfl

end Restock.Worker
