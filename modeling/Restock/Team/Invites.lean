import Restock.Team.Limits

/-!
# Invites

`apps/web/lib/auth/invites.ts`: an invite is a row of the verification table under its token.
Inviting an address again replaces the row, and accepting turns it into a membership. Nothing here
is one transaction: every statement commits by itself.

* `Verification.toPendingInvite`, `getInvite` — a row as an invite, and a token looked up;
* `createInvite`, `acceptInvite`, `cancelInvite` — the code;
* `joining`, `createMembership` — the insert of a membership, which takes the entry of its account
  and workspace in the unique index.

A token is a number here, so that it is never empty; a workspace's id is not an empty text either.
-/

namespace Restock.Team

open Store

/-! ## Rows -/

/-- `INVITE_TTL_MS`. -/
def INVITE_TTL_MS : ℤ := 7 * DAY_MS

/-- The text of a role. -/
def Role.text : Role → String
  | .owner => "OWNER"
  | .admin => "ADMIN"
  | .member => "MEMBER"

/-- `isInviteRole`: the role of a stored text. -/
def Role.ofText (value : String) : Option Role :=
  [Role.owner, Role.admin, Role.member].find? fun role => role.text = value

/-- A role is read back from its text. -/
@[simp] theorem Role.ofText_text (role : Role) : Role.ofText role.text = some role := by
  cases role <;> decide

/-- `PendingInvite`. -/
structure PendingInvite where
  token : Token
  tenantId : TenantId
  email : String
  role : Role
  expiresAt : Time
  deriving DecidableEq, Repr

/-- `toPendingInvite`. -/
def Verification.toPendingInvite (row : Verification) : Option PendingInvite := do
  if row.identifier.2 = "" then none
  let role ← Role.ofText row.value
  return { token := row.id, tenantId := row.identifier.1, email := row.identifier.2, role
           expiresAt := row.expiresAt }

/-- What a row says as an invite. -/
theorem Verification.toPendingInvite_eq_some {v : Verification} {invite : PendingInvite}
    (h : v.toPendingInvite = some invite) :
    Role.ofText v.value = some invite.role ∧ v.identifier = (invite.tenantId, invite.email) ∧
      v.expiresAt = invite.expiresAt := by
  unfold Verification.toPendingInvite at h
  split at h
  · cases h
  · obtain ⟨role, hrole, hinvite⟩ := Option.bind_eq_some_iff.mp h
    obtain rfl := Option.some.inj hinvite
    exact ⟨hrole, rfl, rfl⟩

/-- `CreateInviteResult`. -/
inductive CreateInviteResult
  | ok (invite : PendingInvite)
  | error (error : String)
  deriving DecidableEq, Repr

/-- `InviteLookup`. -/
inductive InviteLookup
  | valid (invite : PendingInvite) (tenantName : String)
  | expired
  | invalid
  deriving DecidableEq, Repr

/-- Why an invite was not accepted. -/
inductive AcceptRefusal
  | invalid
  | expired
  | emailMismatch
  | planLimit
  deriving DecidableEq, Repr

/-- `AcceptInviteResult`. -/
inductive AcceptInviteResult
  | ok (tenantId : TenantId) (alreadyMember : Bool)
  | refused (code : AcceptRefusal)
  deriving DecidableEq, Repr

/-! ## Inserting a membership -/

/-- The insert of a membership. -/
def joining (m : Membership) : Write TeamDb TeamRowKey where
  keys := .seat m.userId m.tenantId :: (inserting m : Write TeamDb TeamRowKey).keys
  act := (inserting m : Write TeamDb TeamRowKey).act
  frame k hk := (inserting m : Write TeamDb TeamRowKey).frame k fun hmem =>
    hk (List.mem_cons_of_mem _ hmem)

/-- The id of a membership, or its account in its workspace, is taken. -/
def TeamDb.hasSeat (db : TeamDb) (m : Membership) : Bool :=
  db.memberships.rows.any fun r => r.id = m.id ∨ (r.userId = m.userId ∧ r.tenantId = m.tenantId)

/-- `db.membership.create`. -/
def createMembership {R : Type} (m : Membership) : TeamOp R Unit := do
  let clash ← Session.statement (fun db : TeamDb => if db.hasSeat m then [] else [joining m])
    fun db => db.hasSeat m
  if clash then throw .uniqueViolation

/-! ## The code -/

section Operations

variable {R : Type} (env : TeamEnv)

/-- The address is that of a member. Accounts are global, memberships are the workspace's. -/
def isMemberAddress (tenantId : TenantId) (email : String) : TeamOp R Bool := do
  let some user ← Session.query fun db : TeamDb =>
      db.users.find? fun u => env.address.equalsInsensitive u.email email
    | return false
  let existing ← Session.findFirst Membership fun m => m.tenantId = tenantId ∧ m.userId = user.id
  return existing.isSome

/-- The row of an invite. -/
def inviteRow (tenantId : TenantId) (email : String) (role : Role) (token : Token)
    (expiresAt : Time) : Verification :=
  { id := token, identifier := (tenantId, email), value := role.text, expiresAt }

/-- Delete the invites of an address, and store one. -/
def storeInvite (tenantId : TenantId) (email : String) (role : Role) (token : Token)
    (expiresAt : Time) : TeamOp R CreateInviteResult := do
  let _ ← Session.transaction
    (Session.deleteMany Verification fun v => v.identifier = (tenantId, email))
  Session.transaction
    (Session.create (inviteRow tenantId email role token expiresAt) .uniqueViolation)
  return .ok { token, tenantId, email, role, expiresAt }

/-- `createInvite`. The token is generated. -/
def createInvite (tenantId : TenantId) (rawEmail : String) (role : Role) (token : Token)
    (now : Time) : TeamOp R CreateInviteResult := do
  let email := env.address.norm rawEmail
  if ¬ matchesAddress email.toList then return .error "Enter a valid email address."
  if tenantId = env.platformTenantId then
    return .error "That workspace does not take invites."
  let existing ← isMemberAddress env tenantId email
  if existing then return .error "That person is already a member."
  -- the seat is checked again on acceptance
  let seat ← checkLimit env tenantId now
  if ¬ seat.allowed then
    return .error (seat.message.getD "This workspace is at its plan limit for team members.")
  storeInvite tenantId email role token (now + INVITE_TTL_MS)

/-- `getInvite`. -/
def getInvite (token : Token) (now : Time) : TeamOp R InviteLookup := do
  let some row ← Session.findUnique Verification token | return .invalid
  let some invite := row.toPendingInvite | return .invalid
  if invite.expiresAt ≤ now then return .expired
  let some tenant ← Session.query fun db : TeamDb =>
      db.workspaces.find? fun w => w.id = invite.tenantId
    | return .invalid
  return .valid invite tenant.name

/-- Store the membership of an invite, if there is none yet, and consume the invite. -/
def consumeInvite (invite : PendingInvite) (userId : UserId) (newId : MembershipId) :
    TeamOp R AcceptInviteResult := do
  let alreadyMember ← tryCatch
    (do
      Session.transaction (createMembership
        { id := newId, userId, tenantId := invite.tenantId, role := invite.role })
      return false)
    fun failure => if failure = .uniqueViolation then return true else throw failure
  let _ ← Session.transaction (Session.deleteMany Verification fun v => v.id = invite.token)
  return .ok invite.tenantId alreadyMember

/-- The workspace has a place for the account: who is a member already takes no new one. -/
def hasPlace (tenantId : TenantId) (userId : UserId) (now : Time) : TeamOp R Bool := do
  let some _ ← Session.findFirst Membership fun m => m.tenantId = tenantId ∧ m.userId = userId
    | let seat ← checkLimit env tenantId now
      return seat.allowed
  return true

/-- `acceptInvite`. The id of the membership is generated. -/
def acceptInvite (token : Token) (userId : UserId) (userEmail : String) (newId : MembershipId)
    (now : Time) : TeamOp R AcceptInviteResult := do
  match ← getInvite token now with
  | .invalid => return .refused .invalid
  | .expired => return .refused .expired
  | .valid invite _ =>
      if env.address.norm userEmail ≠ invite.email then return .refused .emailMismatch
      let place ← hasPlace env invite.tenantId userId now
      if ¬ place then return .refused .planLimit
      consumeInvite invite userId newId

/-- `cancelInvite`. -/
def cancelInvite (tenantId : TenantId) (token : Token) : TeamOp R Bool := do
  let count ← Session.transaction
    (Session.deleteMany Verification fun v => v.id = token ∧ v.identifier.1 = tenantId)
  return 0 < count

end Operations

end Restock.Team
