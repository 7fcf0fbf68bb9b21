import Restock.Purchasing.CreatePo

/-!
# The team's database

The rows behind a workspace's team: the memberships, the pending invites, the accounts and the plan
of each workspace. Memberships of all workspaces are in one table; what runs under row-level
security says which workspace it sees.

* `Membership`, `Verification`, `User`, `Workspace` — the rows;
* `TeamDb` — the tables;
* `TeamRowKey` — what is locked: a row, and the entry of a unique index that an insert takes;
* `TeamOp` — a computation over the tables;
* `AddressText`, `norm`, `looksLikeEmail` — what is done with an address before an account is looked
  up.

An invite's `identifier` is the pair of a workspace and an address that it is composed of.
-/

namespace Restock.Team

open Store

/-- A `User` id. -/
abbrev UserId : Type := ℕ
/-- A `Tenant` id. -/
abbrev TenantId : Type := ℕ
/-- A `Membership` id. -/
abbrev MembershipId : Type := ℕ
/-- A `Verification` id: the token of an invite. -/
abbrev Token : Type := ℕ

/-- `Role`. -/
inductive Role
  | owner
  | admin
  | member
  deriving DecidableEq, Repr

/-- What is in `Membership.permissions`. -/
inductive PermissionsColumn
  /-- Null, or a value that is no array. -/
  | inherited
  /-- An array; its elements that are no strings are left out. -/
  | override (values : List String)
  deriving DecidableEq, Repr

/-- `Membership`. -/
structure Membership where
  id : MembershipId
  userId : UserId
  tenantId : TenantId
  role : Role := .owner
  permissions : PermissionsColumn := .inherited
  deriving DecidableEq, Repr

/-- `Verification`, of an invite. -/
structure Verification where
  id : Token
  identifier : TenantId × String
  value : String
  expiresAt : Time
  deriving DecidableEq, Repr

/-- `User`. -/
structure User where
  id : UserId
  email : String
  deriving DecidableEq, Repr

/-- The plan of a workspace: the columns of `Tenant` and `TenantConfig` that limits go by. The
override of the member limit is that of `planLimits`, when it is a number that is not negative. -/
structure Workspace where
  id : TenantId
  name : String := ""
  plan : Option String := none
  maxMembersOverride : Option ℚ := none
  limitsExceededAt : Option Time := none
  deriving DecidableEq, Repr

instance : Keyed Membership MembershipId := ⟨Membership.id⟩
instance : Keyed Verification Token := ⟨Verification.id⟩

@[simp] theorem key_membership (r : Membership) : Keyed.key r = r.id := rfl
@[simp] theorem key_verification (r : Verification) : Keyed.key r = r.id := rfl

/-- Two members of one workspace are two rows. -/
theorem nodup_twoMembers :
    (([{ id := 1, userId := 1, tenantId := 1 }, { id := 2, userId := 2, tenantId := 1 }] :
      List Membership).map Keyed.key).Nodup := by
  decide

/-- The tables. Accounts and plans are not written by what is modelled here. -/
structure TeamDb where
  memberships : Table Membership := .empty
  verifications : Table Verification := .empty
  users : List User := []
  workspaces : List Workspace := []
  deriving DecidableEq

/-- What a lock is taken on. -/
inductive TeamRowKey
  | membership (id : MembershipId)
  | verification (id : Token)
  /-- The entry of `@@unique([userId, tenantId])` that an insert takes. -/
  | seat (userId : UserId) (tenantId : TenantId)
  deriving DecidableEq

/-- The two states hold the same row under a key. An index entry is no row. -/
def TeamRowKey.same : TeamRowKey → TeamDb → TeamDb → Prop
  | .membership id, s, t => s.memberships.find id = t.memberships.find id
  | .verification id, s, t => s.verifications.find id = t.verifications.find id
  | .seat _ _, _, _ => True

instance : RowModel TeamDb TeamRowKey where
  same := TeamRowKey.same
  refl k s := by cases k <;> trivial
  trans k _ _ _ h h' := by
    cases k with
    | membership => exact Eq.trans h h'
    | verification => exact Eq.trans h h'
    | seat => trivial

instance : Stored TeamDb Membership where
  get := TeamDb.memberships
  set db memberships := { db with memberships }
  name := .membership
  get_set _ _ := rfl
  set_get _ := rfl
  frame _ _ row h := by cases row <;> first | exact h _ rfl | trivial
  find_of_same h := h

instance : Stored TeamDb Verification where
  get := TeamDb.verifications
  set db verifications := { db with verifications }
  name := .verification
  get_set _ _ := rfl
  set_get _ := rfl
  frame _ _ row h := by cases row <;> first | exact h _ rfl | trivial
  find_of_same h := h

section Tables

variable (db : TeamDb)

@[simp] theorem get_memberships : (Stored.get db : Table Membership) = db.memberships := rfl
@[simp] theorem get_verifications : (Stored.get db : Table Verification) = db.verifications := rfl
@[simp] theorem set_memberships (t : Table Membership) :
    Stored.set db t = { db with memberships := t } := rfl
@[simp] theorem set_verifications (t : Table Verification) :
    Stored.set db t = { db with verifications := t } := rfl

end Tables

namespace TeamDb

variable (db : TeamDb)

/-- The members of a workspace. -/
def membersOf (tenantId : TenantId) : List Membership :=
  db.memberships.rows.filter fun m => m.tenantId = tenantId

/-- `membership.count({ where: { role: "OWNER" } })`. -/
def ownerCount (tenantId : TenantId) : ℕ :=
  ((db.membersOf tenantId).filter fun m => m.role = .owner).length

end TeamDb

/-- The names of the advisory locks: `team:<tenantId>`. -/
inductive TeamLock
  | team (tenantId : TenantId)
  deriving DecidableEq

/-- A computation over the team's tables that calls nobody outside. -/
abbrev TeamOp (R α : Type) : Type := Session TeamDb TeamRowKey TeamLock Empty Failure R α

/-- The whole program of a client. -/
abbrev TeamProgram (R : Type) : Type := Program TeamDb TeamRowKey TeamLock Empty R

/-- What the language and the database do with the text of an address. -/
structure AddressText where
  /-- `String.prototype.toLowerCase`. -/
  toLowerCase : String → String
  /-- `equals` of a query with `mode: "insensitive"`. -/
  equalsInsensitive : String → String → Bool

/-- The same on texts in lower case. -/
def AddressText.plain : AddressText := ⟨id, fun a b => a = b⟩

/-- `String.prototype.trim`. -/
def trim (value : String) : String :=
  String.ofList (trimChars value.toList)

/-- `norm`, and `normalizeInviteEmail`. -/
def AddressText.norm (text : AddressText) (email : String) : String :=
  text.toLowerCase (trim email)

/-- `/^\S+@\S+\.\S+$/`: no white space, and a dot after an at sign, with something before, between
and after them. -/
def matchesAddress (cs : List Char) : Bool :=
  (cs.all fun c => ¬ isTrimmed c) ∧
    (List.range cs.length).any fun i => 0 < i ∧ cs[i]? = some '@' ∧
      (List.range (cs.length - 1)).any fun j => i + 1 < j ∧ cs[j]? = some '.'

/-- `looksLikeEmail`. -/
def looksLikeEmail (value : String) : Bool :=
  matchesAddress (trimChars value.toList)

example : looksLikeEmail " amina@shop.ke " = true := by decide +kernel

example : looksLikeEmail "amina@shop" = false := by decide +kernel

end Restock.Team
