import Restock.Team.Schema

/-!
# Permissions, guards and member limits

What a membership may do, and who may change whom: `apps/web/lib/auth/permissions.ts` and
`apps/web/lib/auth/team-guards.ts`. What an invite asks of the plan: `packages/db/src/limits.ts` and
`apps/web/lib/limits/evaluate.ts`, for the members of a workspace. The other two dimensions of a plan
decide for a member only whether a grace clock runs, which it does already when the members are
over; they are left out.

* `resolvePermissions`, `hasPermission` — the override of a membership, or its role's preset;
* `invitableRoles`, `canChangeRole`, `canSetPermissions`, `canRemoveMember` — the guards, each with
  its refusals in the order in which it makes them;
* `TeamEnv` — what is not modelled: the texts of addresses and numbers, and which workspace is the
  platform's;
* `LimitCheck`, `limitCheck`, `checkLimit` — the decision, with its texts, and from the tables;
* `LimitUsage.crosses` — one member more is one too many.
-/

namespace Restock.Team

open Store

/-- `PermissionKey`. -/
inductive PermissionKey
  | viewCosts
  | manageTeam
  | manageSettings
  | approveOrders
  deriving DecidableEq, Repr

/-- The text of a permission. -/
def PermissionKey.text : PermissionKey → String
  | .viewCosts => "view_costs"
  | .manageTeam => "manage_team"
  | .manageSettings => "manage_settings"
  | .approveOrders => "approve_orders"

/-- `PERMISSION_KEYS`. -/
def PERMISSION_KEYS : List PermissionKey :=
  [.viewCosts, .manageTeam, .manageSettings, .approveOrders]

/-- `isPermissionKey`: the key of a stored text. -/
def PermissionKey.ofText (value : String) : Option PermissionKey :=
  PERMISSION_KEYS.find? fun key => key.text = value

/-- `ROLE_PRESETS`. -/
def ROLE_PRESETS : Role → List PermissionKey
  | .owner => PERMISSION_KEYS
  | .admin => PERMISSION_KEYS
  | .member => [.approveOrders]

/-- `resolvePermissions`. -/
def resolvePermissions (role : Role) (permissions : PermissionsColumn) : List PermissionKey :=
  match permissions with
  | .override values => values.filterMap PermissionKey.ofText
  | .inherited => ROLE_PRESETS role

/-- `TeamActor`. -/
structure TeamActor where
  membershipId : MembershipId
  role : Role
  permissions : PermissionsColumn
  deriving DecidableEq, Repr

/-- `TeamTarget`. -/
structure TeamTarget where
  membershipId : MembershipId
  role : Role
  deriving DecidableEq, Repr

/-- `hasPermission`. -/
def TeamActor.hasPermission (actor : TeamActor) (key : PermissionKey) : Bool :=
  key ∈ resolvePermissions actor.role actor.permissions

/-- `GuardResult`. -/
inductive GuardResult
  | ok
  | no (reason : String)
  deriving DecidableEq, Repr

/-- `invitableRoles`. -/
def invitableRoles (actor : TeamActor) : List Role :=
  if ¬ actor.hasPermission .manageTeam then [] else [.member]

/-- `canChangeRole`. -/
def canChangeRole (actor : TeamActor) (target : TeamTarget) (nextRole : Role) (ownerCount : ℕ) :
    GuardResult :=
  if ¬ actor.hasPermission .manageTeam then .no "You don't have team management access."
  else if actor.membershipId = target.membershipId then .no "You can't change your own role."
  else if nextRole = target.role then .no "Already that role."
  else if nextRole ≠ .member then .no "Only the platform team can grant admin and owner access."
  else if target.role ≠ .member ∧ actor.role ≠ .owner then
    .no "Only an owner can change an admin or owner."
  else if target.role = .owner ∧ ownerCount ≤ 1 then .no "A workspace needs at least one owner."
  else .ok

/-- `GRANTABLE_PERMISSIONS`. -/
def GRANTABLE_PERMISSIONS : List PermissionKey :=
  [.viewCosts, .manageSettings, .approveOrders]

/-- `canSetPermissions`. -/
def canSetPermissions (actor : TeamActor) (target : TeamTarget) (next : List PermissionKey) :
    GuardResult :=
  if ¬ actor.hasPermission .manageTeam then .no "You don't have team management access."
  else if actor.membershipId = target.membershipId then .no "You can't change your own permissions."
  else if target.role ≠ .member ∧ actor.role ≠ .owner then
    .no "Only an owner can change an admin or owner."
  else if 0 < (next.filter fun key => key ∉ GRANTABLE_PERMISSIONS).length then
    .no "That access can only be granted by changing the role."
  else .ok

/-- `canRemoveMember`. -/
def canRemoveMember (actor : TeamActor) (target : TeamTarget) (ownerCount : ℕ) : GuardResult :=
  if ¬ actor.hasPermission .manageTeam then .no "You don't have team management access."
  else if target.role ≠ .member ∧ actor.role ≠ .owner then
    .no "Only an owner can remove admins and owners."
  else if target.role = .owner ∧ ownerCount ≤ 1 then .no "A workspace needs at least one owner."
  else .ok

/-! ## What the guards let through -/

variable {actor : TeamActor} {target : TeamTarget}

/-- Invites from inside a workspace are for members. -/
theorem eq_member_of_invitable {role : Role} (h : role ∈ invitableRoles actor) :
    role = .member := by
  rw [invitableRoles] at h
  split at h
  · exact absurd h List.not_mem_nil
  · exact List.mem_singleton.mp h

/-- A role change makes somebody else a member, and one owner stays. -/
theorem of_canChangeRole {nextRole : Role} {ownerCount : ℕ}
    (h : canChangeRole actor target nextRole ownerCount = .ok) :
    nextRole = .member ∧ (target.role ≠ .member → actor.role = .owner) ∧
      (target.role = .owner → 1 < ownerCount) := by
  unfold canChangeRole at h
  split_ifs at h with hteam hself hsame hnext hrank howner
  rw [not_not] at hnext
  refine ⟨hnext, fun hrole => ?_, fun hrole => ?_⟩
  · by_contra hactor
    exact hrank ⟨hrole, hactor⟩
  · exact not_le.mp fun hcount => howner ⟨hrole, hcount⟩

/-- What is granted by itself is grantable. -/
theorem of_canSetPermissions {next : List PermissionKey}
    (h : canSetPermissions actor target next = .ok) :
    (target.role ≠ .member → actor.role = .owner) ∧ .manageTeam ∉ next := by
  unfold canSetPermissions at h
  split_ifs at h with hteam hself hrank hgrant
  refine ⟨fun hrole => ?_, fun hmem => hgrant ?_⟩
  · by_contra hactor
    exact hrank ⟨hrole, hactor⟩
  · exact List.length_pos_of_mem (List.mem_filter.mpr ⟨hmem, by decide⟩)

/-- A removal leaves one owner. -/
theorem of_canRemoveMember {ownerCount : ℕ} (h : canRemoveMember actor target ownerCount = .ok) :
    (target.role ≠ .member → actor.role = .owner) ∧ (target.role = .owner → 1 < ownerCount) := by
  unfold canRemoveMember at h
  split_ifs at h with hteam hrank howner
  refine ⟨fun hrole => ?_, fun hrole => ?_⟩
  · by_contra hactor
    exact hrank ⟨hrole, hactor⟩
  · exact not_le.mp fun hcount => howner ⟨hrole, hcount⟩

/-- `DAY_MS`. -/
def DAY_MS : ℤ := 86400000

/-- `GRACE_DAYS`. -/
def GRACE_DAYS : ℕ := 7

/-- `maxMembers` of `PLAN_TIERS`. -/
def tierMembers (tier : String) : Option ℚ :=
  if tier = "starter" then some 3
  else if tier = "growth" then some 10
  else if tier = "scale" then some 25
  else none

/-- `DEFAULT_PLAN`. -/
def DEFAULT_PLAN : String := "starter"

/-- `resolvePlanLimits`, for the members. -/
def planMembers (workspace : Workspace) : ℚ :=
  let tier := (tierMembers (workspace.plan.getD DEFAULT_PLAN)).getD
    ((tierMembers DEFAULT_PLAN).getD 0)
  (workspace.maxMembersOverride.filter fun value => 0 ≤ value).getD tier

/-- `graceLeft`. -/
def graceLeft (limitsExceededAt now : Time) : ℕ :=
  (max 0 ⌈(((GRACE_DAYS : ℤ) * DAY_MS - (now - limitsExceededAt) : ℤ) : ℚ) / DAY_MS⌉).toNat

/-- `LimitUsage`. -/
structure LimitUsage where
  used : ℕ
  max : ℚ
  deriving DecidableEq, Repr

/-- `over`. -/
def LimitUsage.isOver (u : LimitUsage) : Bool :=
  u.max < u.used

/-- `computeLimitState`, for the members: the grace that is left, once they are over. -/
def graceLeftDays (u : LimitUsage) (limitsExceededAt : Option Time) (now : Time) : Option ℕ :=
  if u.isOver then some ((limitsExceededAt.map fun since => graceLeft since now).getD GRACE_DAYS)
  else none

/-- `LimitCheck`. -/
structure LimitCheck where
  allowed : Bool
  isOver : Bool
  usage : LimitUsage
  graceLeftDays : Option ℕ
  message : Option String
  deriving DecidableEq, Repr

/-- What is not modelled of the language, the database and the deployment. -/
structure TeamEnv where
  address : AddressText
  /-- The text of a number in a template. -/
  numberText : ℚ → String
  /-- `PLATFORM_TENANT_ID`. -/
  platformTenantId : TenantId

/-- Texts in lower case, and a platform workspace of its own. -/
def TeamEnv.plain : TeamEnv where
  address := .plain
  numberText _ := ""
  platformTenantId := 0

section Check

variable (env : TeamEnv)

/-- `count`, with `DIMENSION_LABEL` of the members. -/
def countText (n : ℚ) : String :=
  env.numberText n ++ " " ++ if n = 1 then "team member" else "team members"

/-- `days`. -/
def daysText (n : ℕ) : String :=
  env.numberText n ++ " day" ++ if n = 1 then "" else "s"

/-- `limitCheck`: what would cross the line is refused, and what has drifted past it has its days of
grace. -/
def limitCheck (u : LimitUsage) (grace : Option ℕ) : LimitCheck :=
  let graceLeftDays := if u.isOver then grace.getD 0 else 0
  if (u.used : ℚ) + 1 < u.max then
    { allowed := true, isOver := false, usage := u, graceLeftDays := none, message := none }
  else if (u.used : ℚ) + 1 = u.max then
    { allowed := true, isOver := false, usage := u, graceLeftDays := none,
      message := some ("Your plan includes " ++ countText env u.max ++ " — this is the last one.") }
  else if ¬ u.isOver then
    -- exactly at the cap: this action is the one that would cross it
    { allowed := false, isOver := false, usage := u, graceLeftDays := none,
      message := some ("Your plan includes " ++ countText env u.max ++ " and you're using all of " ++
        "them. Free one up, or ask about moving to a bigger plan.") }
  else if 0 < graceLeftDays then
    { allowed := true, isOver := true, usage := u, graceLeftDays := some graceLeftDays,
      message := some ("This workspace is over its plan limit — " ++ countText env u.used ++
        " against the " ++ env.numberText u.max ++ " your plan includes. You have " ++
        daysText env graceLeftDays ++ " to come back within plan or move to a bigger one.") }
  else
    { allowed := false, isOver := true, usage := u, graceLeftDays := some 0,
      message := some ("This workspace has " ++ countText env u.used ++ " but the plan includes " ++
        env.numberText u.max ++ ", and the grace period has ended. Come back within plan or move " ++
        "to a bigger one to add more.") }

/-- The plan of a workspace. -/
def TeamDb.workspace (db : TeamDb) (tenantId : TenantId) : Workspace :=
  (db.workspaces.find? fun w => w.id = tenantId).getD { id := tenantId }

/-- The members of a workspace, against those that its plan includes. -/
def TeamDb.memberUsage (db : TeamDb) (tenantId : TenantId) : LimitUsage :=
  { used := (db.membersOf tenantId).length, max := planMembers (db.workspace tenantId) }

/-- `checkLimit(tenantId, "invite_member")`. -/
def checkLimit {R : Type} (tenantId : TenantId) (now : Time) : TeamOp R LimitCheck := do
  let workspace ← Session.query fun db => db.workspace tenantId
  let members ← Session.query fun db => (db.membersOf tenantId).length
  let usage : LimitUsage := { used := members, max := planMembers workspace }
  return limitCheck env usage (graceLeftDays usage workspace.limitsExceededAt now)

end Check

/-! ## Crossing the line -/

/-- One member more is one too many, and there were not too many before. -/
def LimitUsage.crosses (u : LimitUsage) : Bool :=
  u.used ≤ u.max ∧ u.max < u.used + 1

/-- A refusal before the limit is passed is a refusal to cross it. -/
theorem limitCheck_crosses_iff (env : TeamEnv) (u : LimitUsage) (grace : Option ℕ) :
    u.crosses ↔
      (limitCheck env u grace).allowed = false ∧ (limitCheck env u grace).isOver = false := by
  rw [LimitUsage.crosses, decide_eq_true_iff]
  unfold limitCheck
  dsimp only
  by_cases hless : (u.used : ℚ) + 1 < u.max
  · rw [if_pos hless]
    exact iff_of_false (fun h => lt_irrefl _ (hless.trans h.2)) (by simp)
  rw [if_neg hless]
  by_cases hlast : (u.used : ℚ) + 1 = u.max
  · rw [if_pos hlast]
    exact iff_of_false (fun h => ne_of_lt h.2 hlast.symm) (by simp)
  rw [if_neg hlast]
  by_cases hover : u.isOver
  · rw [if_neg (not_not.mpr hover)]
    refine iff_of_false (fun h => not_lt.mpr h.1 (of_decide_eq_true hover)) fun h => ?_
    -- both answers past the limit say so
    have hpast := h.2
    split_ifs at hpast
  · rw [if_pos hover]
    refine iff_of_true ⟨?_, ?_⟩ ⟨rfl, rfl⟩
    · exact not_lt.mp fun hlt => hover (decide_eq_true hlt)
    · exact lt_of_le_of_ne (not_lt.mp hless) (Ne.symm hlast)

end Restock.Team
