import Restock.Team.Schema

/-!
# The last platform administrator

`apps/web/lib/admin/admins.ts`: console access is granted and revoked from inside the console. A
revocation counts the live admins and then writes the row, each in a transaction of its own, so that
the count can be out of date when the write commits. The audit events written afterwards are left
out.

* `PlatformAdmin`, `AdminDb` — the table, and the accounts that grants are looked up in;
* `grantPlatformAdmin`, `revokePlatformAdmin` — the code;
* `AdminCall` — a call, and its program;
* `timely` — a revocation commits while its refusal of the last admin would still let it pass;
* `lastAdmin_iff` — in runs of such commits there is a live admin, and the next commit leaves one
  exactly when it is one;
* `revoked_each_other` — a run that leaves none.
-/

namespace Restock.Admin

open Store Restock.Team

/-! ## The table -/

/-- `PlatformAdmin`. The row is found by its account, which is unique. -/
structure PlatformAdmin where
  userId : UserId
  email : String
  /-- Nothing for a row that the bootstrap script wrote. -/
  grantedByUserId : Option UserId := none
  grantedByEmail : Option String := none
  grantedAt : Time := 0
  /-- Nothing while the grant is live. -/
  revokedAt : Option Time := none
  revokedByUserId : Option UserId := none
  failedStepUps : ℕ := 0
  lockedUntil : Option Time := none
  deriving DecidableEq, Repr

instance : Keyed PlatformAdmin UserId := ⟨PlatformAdmin.userId⟩

@[simp] theorem key_admin (r : PlatformAdmin) : Keyed.key r = r.userId := rfl

/-- The grant is live. -/
def PlatformAdmin.isLive (r : PlatformAdmin) : Bool :=
  r.revokedAt = none

/-- The platform's tables. Accounts are not written by what is modelled here. -/
structure AdminDb where
  admins : Table PlatformAdmin := .empty
  users : List User := []
  deriving DecidableEq

/-- What a lock is taken on: the row of an account. -/
structure AdminRowKey where
  userId : UserId
  deriving DecidableEq

instance : RowModel AdminDb AdminRowKey where
  same k s t := s.admins.find k.userId = t.admins.find k.userId
  refl _ _ := rfl
  trans _ _ _ _ h h' := Eq.trans h h'

instance : Stored AdminDb PlatformAdmin where
  get := AdminDb.admins
  set db admins := { db with admins }
  name := .mk
  get_set _ _ := rfl
  set_get _ := rfl
  frame _ _ row h := h row.userId rfl
  find_of_same h := h

@[simp] theorem get_admins (db : AdminDb) : (Stored.get db : Table PlatformAdmin) = db.admins := rfl

@[simp] theorem set_admins (db : AdminDb) (t : Table PlatformAdmin) :
    Stored.set db t = { db with admins := t } := rfl

/-- `platformAdmin.count({ where: { revokedAt: null } })`. -/
def AdminDb.liveCount (db : AdminDb) : ℕ :=
  (db.admins.rows.filter PlatformAdmin.isLive).length

/-- The account has a live grant. -/
def AdminDb.LiveAt (db : AdminDb) (userId : UserId) : Prop :=
  ∃ r ∈ db.admins.find userId, r.isLive

instance (db : AdminDb) (userId : UserId) : Decidable (db.LiveAt userId) :=
  decidable_of_iff ((db.admins.find userId).any PlatformAdmin.isLive) (Option.any_eq_true ..)

/-- A computation over the platform's tables. -/
abbrev AdminOp (R α : Type) : Type := Session AdminDb AdminRowKey Empty Empty Failure R α

/-- The whole program of a client. -/
abbrev AdminProgram (R : Type) : Type := Program AdminDb AdminRowKey Empty Empty R

/-! ## The operations -/

/-- `AdminActor`: who acts. -/
structure AdminActor where
  userId : UserId
  email : String
  deriving DecidableEq, Repr

/-- `AdminMutationResult`. -/
inductive AdminMutationResult
  | ok (message : String)
  | error (error : String)
  deriving DecidableEq, Repr

section Operations

variable {R : Type} (text : AddressText) (actor : AdminActor)

/-- The row of a first grant. -/
def granted (user : User) (now : Time) : PlatformAdmin :=
  { userId := user.id, email := text.norm user.email, grantedByUserId := some actor.userId,
    grantedByEmail := some (text.norm actor.email), grantedAt := now }

/-- A row granted again: the revocation and the lockout are cleared. -/
def PlatformAdmin.regranted (now : Time) (r : PlatformAdmin) : PlatformAdmin :=
  { r with grantedAt := now, grantedByUserId := some actor.userId,
           grantedByEmail := some (text.norm actor.email), revokedAt := none,
           revokedByUserId := none, failedStepUps := 0, lockedUntil := none }

/-- A row whose grant is taken away. -/
def PlatformAdmin.revoke (now : Time) (r : PlatformAdmin) : PlatformAdmin :=
  { r with revokedAt := some now, revokedByUserId := some actor.userId }

/-- `grantPlatformAdmin`. -/
def grantPlatformAdmin (rawEmail : String) (now : Time) : AdminOp R AdminMutationResult := do
  let email := text.norm rawEmail
  if email = "" then return .error "Enter an email address."
  if ¬ looksLikeEmail email then
    return .error ("\"" ++ trim rawEmail ++ "\" is not an email address.")
  let some user ← Session.query fun db : AdminDb =>
      db.users.find? fun u => text.equalsInsensitive u.email email
    | return .error ("No account with that address. They need to sign in once before you can " ++
        "grant access.")
  let existing ← Session.findUnique PlatformAdmin user.id
  if existing.any PlatformAdmin.isLive then
    return .error (user.email ++ " already has console access.")
  Session.transaction (Session.upsert (granted text actor user now) (·.regranted text actor now))
  return .ok (user.email ++ " can now open the console.")

/-- `revokePlatformAdmin`. -/
def revokePlatformAdmin (userId : UserId) (now : Time) : AdminOp R AdminMutationResult := do
  if userId = actor.userId then
    return .error "You can't revoke your own access — ask another admin."
  let some row ← Session.findUnique PlatformAdmin userId
    | return .error "That admin no longer exists."
  if ¬ row.isLive then return .error (row.email ++ " is already revoked.")
  let live ← Session.query AdminDb.liveCount
  if live ≤ 1 then
    return .error "That's the last admin — grant another before revoking this one."
  Session.transaction (Session.update PlatformAdmin userId (·.revoke actor now) .recordNotFound)
  return .ok (row.email ++ " no longer has console access.")

end Operations

/-- A call of one of the two. -/
inductive AdminCall
  | grant (actor : AdminActor) (rawEmail : String) (now : Time)
  | revoke (actor : AdminActor) (userId : UserId) (now : Time)

/-- The program of a call. -/
def AdminCall.program (text : AddressText) : AdminCall → AdminProgram AdminMutationResult
  | .grant actor rawEmail now => Session.program (grantPlatformAdmin text actor rawEmail now)
  | .revoke actor userId now => Session.program (revokePlatformAdmin actor userId now)

/-! ## Live admins -/

section Live

variable {db t : AdminDb} {userId : UserId}

/-- The rows that are live are counted. -/
theorem one_le_liveCount : 1 ≤ db.liveCount ↔ ∃ r ∈ db.admins.rows, r.isLive := by
  rw [AdminDb.liveCount, Nat.one_le_iff_ne_zero, ← Nat.pos_iff_ne_zero,
    List.length_pos_iff_exists_mem]
  simp only [List.mem_filter]

/-- A live grant, as a row. -/
theorem liveAt_iff : db.LiveAt userId ↔ ∃ r ∈ db.admins.rows, r.userId = userId ∧ r.isLive := by
  constructor
  · rintro ⟨r, hfind, hlive⟩
    obtain ⟨hr, hkey⟩ := Table.find_eq_some.mp hfind
    exact ⟨r, hr, hkey, hlive⟩
  · rintro ⟨r, hr, hkey, hlive⟩
    exact ⟨r, Table.find_eq_some.mpr ⟨hr, hkey⟩, hlive⟩

/-- Where there is a live admin, there is one outside an account exactly when the account is not
the only one. -/
theorem exists_live_ne (h : 1 ≤ db.liveCount) :
    (∃ r ∈ db.admins.rows, r.isLive ∧ r.userId ≠ userId) ↔
      (db.LiveAt userId → 1 < db.liveCount) := by
  constructor
  · rintro ⟨r, hr, hlive, hne⟩ hat
    obtain ⟨r', hr', hkey, hlive'⟩ := liveAt_iff.mp hat
    refine Table.one_lt_of_key_ne hr hlive hr' hlive' fun heq => hne ?_
    exact Eq.trans heq hkey
  · intro hmore
    by_cases hat : db.LiveAt userId
    · exact Table.exists_key_ne userId (hmore hat)
    · obtain ⟨r, hr, hlive⟩ := one_le_liveCount.mp h
      exact ⟨r, hr, hlive, fun hkey => hat (liveAt_iff.mpr ⟨r, hr, hkey, hlive⟩)⟩

/-- After a revocation those are live that were, without the account. -/
theorem one_le_liveCount_revoke (actor : AdminActor) (now : Time) :
    1 ≤ AdminDb.liveCount { db with
        admins := db.admins.update (fun r => Keyed.key r = userId) (·.revoke actor now) } ↔
      ∃ r ∈ db.admins.rows, r.isLive ∧ r.userId ≠ userId := by
  have hrows := Table.rows_update db.admins (fun r => Keyed.key r = userId)
    (f := (·.revoke actor now)) (fun _ => rfl)
  rw [one_le_liveCount]
  show (∃ r ∈ (db.admins.update _ _).rows, _) ↔ _
  rw [hrows]
  simp only [List.mem_map, key_admin, decide_eq_true_iff]
  constructor
  · rintro ⟨_, ⟨r, hr, rfl⟩, hlive⟩
    by_cases hkey : r.userId = userId
    · -- the row was revoked
      rw [if_pos hkey] at hlive
      exact absurd hlive (by simp [PlatformAdmin.revoke, PlatformAdmin.isLive])
    · rw [if_neg hkey] at hlive
      exact ⟨r, hr, hlive, hkey⟩
  · rintro ⟨r, hr, hlive, hne⟩
    refine ⟨r, ⟨r, hr, ?_⟩, hlive⟩
    rw [if_neg hne]

/-- A grant leaves those live that were. -/
theorem one_le_liveCount_regranted (text : AddressText) (actor : AdminActor) (now : Time)
    {p : PlatformAdmin → Bool} (h : 1 ≤ db.liveCount) :
    1 ≤ AdminDb.liveCount
      { db with admins := db.admins.update p (·.regranted text actor now) } := by
  rw [one_le_liveCount] at h ⊢
  obtain ⟨r, hr, hlive⟩ := h
  have hrows := Table.rows_update db.admins p (f := (·.regranted text actor now)) (fun _ => rfl)
  refine ⟨_, by rw [hrows]; exact List.mem_map_of_mem hr, ?_⟩
  split
  · rfl
  · exact hlive

/-- A first grant leaves those live that were. -/
theorem one_le_liveCount_insert {r : PlatformAdmin} (h : 1 ≤ db.liveCount) :
    1 ≤ AdminDb.liveCount { db with admins := db.admins.insert r } := by
  rw [one_le_liveCount] at h ⊢
  obtain ⟨row, hrow, hlive⟩ := h
  exact ⟨row, Table.mem_insert_of_mem hrow, hlive⟩

end Live

/-! ## Runs -/

/-- The call commits in time over a state: a revocation while its refusal of the last admin would
still let it pass, unless the row has been revoked already. -/
def AdminCall.InTime : AdminCall → AdminDb → Prop
  | .grant .., _ => True
  | .revoke _ userId _, db => db.LiveAt userId → ¬ db.liveCount ≤ 1

instance (call : AdminCall) (db : AdminDb) : Decidable (call.InTime db) :=
  match call with
  | .grant .. => inferInstanceAs (Decidable True)
  | .revoke .. => inferInstanceAs (Decidable (_ → _))

section Runs

variable {ι : Type} (text : AddressText) (calls : ι → AdminCall)

/-- The commits that come in time. -/
def timely : CommitCondition AdminDb AdminRowKey ι :=
  fun i _ _ db => (calls i).InTime db

instance (i : ι) (seen : List AdminDb) (ws : List (Write AdminDb AdminRowKey)) (db : AdminDb) :
    Decidable (timely calls i seen ws db) :=
  inferInstanceAs (Decidable ((calls i).InTime db))

/-- What every commit of the calls comes to: it leaves a live admin exactly when it is in time. -/
def adminContract : Contract AdminDb AdminRowKey Empty Empty AdminMutationResult ι where
  Inv _ := True
  Guar _ _ := True
  ok _ _ _ _ := True
  AtCommit i _ s t _ := 1 ≤ s.liveCount → (1 ≤ t.liveCount ↔ (calls i).InTime s)
  AtCall _ _ _ := True

/-- A grant leaves a live admin. -/
theorem safe_grant {i : ι} {actor : AdminActor} {rawEmail : String} {now : Time}
    (hcall : calls i = .grant actor rawEmail now) (db : AdminDb) :
    (adminContract calls).Safe i ((calls i).program text) [] [] db := by
  have hat : ∀ seen s t next, (1 ≤ s.liveCount → 1 ≤ t.liveCount) →
      (adminContract calls).AtCommit i seen s t next := by
    intro seen s t next hkeep hlive
    rw [hcall]
    exact iff_of_true (hkeep hlive) trivial
  rw [hcall, AdminCall.program, Session.program_def, grantPlatformAdmin]
  by_cases hempty : text.norm rawEmail = ""
  · rw [if_pos hempty]
    trivial
  rw [if_neg hempty]
  by_cases hlooks : ¬ looksLikeEmail (text.norm rawEmail)
  · rw [if_pos hlooks]
    trivial
  rw [if_neg hlooks]
  rw [Session.bind_apply]
  refine Contract.safe_read fun s₀ _ _ => ?_
  cases s₀.users.find? fun u => text.equalsInsensitive u.email (text.norm rawEmail) with
  | none => trivial
  | some user =>
  simp only [Session.bind_apply, Session.findUnique]
  refine Contract.safe_query fun s₁ _ _ => ?_
  split
  case isTrue => trivial
  case isFalse =>
  -- the upsert, and its commit
  intro s₂ _ _ t _ _ _
  refine ⟨trivial, trivial, hat _ _ _ _ fun hlive => ?_, trivial⟩
  simp only [List.nil_append]
  split
  · exact one_le_liveCount_regranted text actor now hlive
  · exact one_le_liveCount_insert hlive

/-- A revocation leaves a live admin exactly when it is in time. -/
theorem safe_revoke {i : ι} {actor : AdminActor} {userId : UserId} {now : Time}
    (hcall : calls i = .revoke actor userId now) (db : AdminDb) :
    (adminContract calls).Safe i ((calls i).program text) [] [] db := by
  rw [hcall, AdminCall.program, Session.program_def, revokePlatformAdmin]
  by_cases hself : userId = actor.userId
  · rw [if_pos hself]
    trivial
  rw [if_neg hself]
  simp only [Session.bind_apply, Session.findUnique]
  refine Contract.safe_query fun s₀ _ _ => ?_
  cases (Stored.get (sees [] s₀) : Table PlatformAdmin).find userId with
  | none => trivial
  | some row =>
  by_cases hrow : ¬ row.isLive
  · simp only [if_pos hrow]
    trivial
  simp only [if_neg hrow, Session.bind_apply]
  refine Contract.safe_query fun s₁ _ _ => ?_
  by_cases hlast : (sees [] s₁).liveCount ≤ 1
  · simp only [if_pos hlast]
    trivial
  simp only [if_neg hlast, Session.bind_apply, Session.transaction_apply]
  refine Contract.safe_update (fun _ _ _ _ => trivial) fun s₂ r _ _ hfind t _ _ _ => ?_
  refine ⟨trivial, trivial, fun hlive => ?_, trivial⟩
  have hkey : ∀ r : PlatformAdmin, decide (Keyed.key r = userId) = true → Keyed.key r = userId :=
    fun r hr => of_decide_eq_true hr
  have hid : decide (Keyed.key r = userId) = true :=
    decide_eq_true (Table.find_eq_some.mp hfind).2
  rw [List.nil_append, sees_cons, sees_nil, updating_act_of_match hkey hfind hid, hcall]
  exact (one_le_liveCount_revoke actor now).trans ((exists_live_ne hlive).trans
    (imp_congr_right fun _ => not_le.symm))

/-- Every call keeps to the contract. -/
theorem good_initial (db : AdminDb) :
    (adminContract calls).Good (Config.initial db fun i => (calls i).program text) := by
  refine Contract.good_initial trivial fun i => ?_
  cases hcall : calls i with
  | grant actor rawEmail now => exact hcall ▸ safe_grant text calls hcall db
  | revoke actor userId now => exact hcall ▸ safe_revoke text calls hcall db

variable {text calls} {σ τ : Config AdminDb AdminRowKey Empty Empty AdminMutationResult ι}

/-- Who is about to commit leaves a live admin exactly when the commit is in time. -/
theorem one_le_liveCount_view (hgood : (adminContract calls).Good σ) (hlive : 1 ≤ σ.db.liveCount)
    {i : ι} {next : AdminProgram AdminMutationResult}
    (hprog : (σ.clients i).program = .commit next) :
    1 ≤ (σ.view i).liveCount ↔ (calls i).InTime σ.db := by
  obtain ⟨-, -, hat, -⟩ := hgood.commit hprog fun _ _ => trivial
  exact hat hlive

/-- A step whose commit, if it is one, is in time leaves a live admin. -/
theorem one_le_liveCount_step [DecidableEq ι] (hgood : (adminContract calls).Good σ)
    (hlive : 1 ≤ σ.db.liveCount) {i : ι} (hstep : Step i σ τ) (hok : CommitOk (timely calls) i σ) :
    1 ≤ τ.db.liveCount := by
  cases hstep with
  | commit hprog => exact (one_le_liveCount_view hgood hlive hprog).mpr (hok _ hprog)
  | stmt | lock | rollback | call | abort => exact hlive

end Runs

/-- While every revocation commits in time there is a live admin, whatever grants and revocations
are made by whom and however they interleave; and the next commit leaves one exactly when it is in
time. -/
theorem lastAdmin_iff {ι : Type} [DecidableEq ι] (text : AddressText) (calls : ι → AdminCall)
    (db : AdminDb) (hlive : 1 ≤ db.liveCount)
    (σ : Config AdminDb AdminRowKey Empty Empty AdminMutationResult ι)
    (hrun : RunWhere (timely calls) (Config.initial db fun i => (calls i).program text) σ) :
    1 ≤ σ.db.liveCount ∧
      ∀ i next, (σ.clients i).program = .commit next →
        (1 ≤ (σ.view i).liveCount ↔ (calls i).InTime σ.db) := by
  have hkept : (adminContract calls).Good σ ∧ 1 ≤ σ.db.liveCount := by
    induction hrun with
    | refl => exact ⟨good_initial text calls db, hlive⟩
    | tail _ hstep ih =>
        obtain ⟨i, hstep, hok⟩ := hstep
        exact ⟨Contract.good_step ih.1 hstep fun _ _ => trivial,
          one_le_liveCount_step ih.1 ih.2 hstep hok⟩
  exact ⟨hkept.2, fun i next hprog => one_le_liveCount_view hkept.1 hkept.2 hprog⟩

/-! ## Two admins -/

/-- Two live admins. -/
def twoAdmins : AdminDb where
  admins := ⟨[{ userId := 1, email := "a@x.co" }, { userId := 2, email := "b@x.co" }], by decide⟩

/-- Either revokes the other one. -/
def revokeEachOther : Bool → AdminCall
  | false => .revoke { userId := 1, email := "a@x.co" } 2 0
  | true => .revoke { userId := 2, email := "b@x.co" } 1 0

/-- One after the other: the second is refused. -/
theorem lastAdmin_iff_twoAdmins :
    ∃ σ, RunWhere (timely revokeEachOther)
        (Config.initial twoAdmins fun i => (revokeEachOther i).program .plain) σ ∧
      (σ.clients true).program.isOver ∧ σ.db ≠ twoAdmins ∧ 1 ≤ σ.db.liveCount := by
  obtain ⟨σ, hrun, hover, hne⟩ := exists_run_of_schedule [false, true] (timely revokeEachOther)
    (List.replicate 4 (false, true) ++ List.replicate 2 (true, true))
    (Config.initial twoAdmins fun i => (revokeEachOther i).program .plain)
    (fun σ => (σ.clients true).program.isOver = true ∧ σ.db ≠ twoAdmins)
    (by decide) (by decide +kernel)
  exact ⟨σ, hrun, hover, hne, (lastAdmin_iff .plain revokeEachOther twoAdmins (by decide) σ hrun).1⟩

/-- Both count two live admins before either writes, and none is left. -/
theorem revoked_each_other :
    ¬ ∀ (calls : Bool → AdminCall) (db : AdminDb), 1 ≤ db.liveCount → ∀ σ,
      Run (Config.initial db fun i => (calls i).program .plain) σ → 1 ≤ σ.db.liveCount := by
  intro hclaim
  obtain ⟨σ, hrun, hnone⟩ := exists_run_of_schedule [false, true] (fun _ _ _ _ => True)
    (List.replicate 2 (false, true) ++ List.replicate 4 (true, true) ++
      List.replicate 2 (false, true))
    (Config.initial twoAdmins fun i => (revokeEachOther i).program .plain)
    (fun σ => σ.db.liveCount = 0) (by decide) (by decide +kernel)
  have hlive := hclaim revokeEachOther twoAdmins (by decide) σ hrun
  omega

end Restock.Admin
