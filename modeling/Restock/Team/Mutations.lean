import Restock.Store.Locks
import Restock.Team.Limits

/-!
# Team changes and the last owner

`apps/web/lib/auth/team-mutations.ts`: a role change, a removal and a set of permissions, each in a
transaction of its own that reads the member it is about, asks the guard, and writes. Role changes
and removals take the workspace's advisory lock first, since their guards count owners.

* `withLockedTarget`, `changeMemberRoleGuarded`, `removeMemberGuarded` — the two that take the lock;
* `setMemberPermissionsGuarded` — the one that does not;
* `TeamCall` — a call, and its program;
* `rolesIn`, `exists_owner_ne` — what owners are counted by, and that of two owners one stays;
* `OnlyRow` — what a write to one row leaves alone;
* `lastOwnerContract` — only a holder of the lock changes roles, and one owner is left;
* `owner_remains` — a workspace that has an owner has one after any run.
-/

namespace Restock.Team

open Store

/-! ## The operations -/

section Operations

variable {R : Type} (tenantId : TenantId) (actor : TeamActor) (membershipId : MembershipId)

/-- `lockTeam`. -/
def lockTeam : TeamOp R Unit :=
  Session.advisoryLock (.team tenantId)

/-- The row under an id, for who sees one workspace. -/
def Membership.isTarget (m : Membership) : Bool :=
  m.id = membershipId ∧ m.tenantId = tenantId

/-- `tx.membership.findUnique`. -/
def findTarget : TeamOp R (Option Membership) :=
  Session.findFirst Membership fun m => m.isTarget tenantId membershipId

/-- `tx.membership.count({ where: { role: "OWNER" } })`. -/
def countOwners : TeamOp R ℕ :=
  Session.query fun db => db.ownerCount tenantId

/-- What the guard is shown of a row. -/
def Membership.toTarget (m : Membership) : TeamTarget :=
  { membershipId := m.id, role := m.role }

/-- `gone`. -/
def gone : GuardResult := .no "That member no longer exists."

/-- A write to the row of a member: an update, or a delete. -/
inductive RowWrite
  | update (f : Membership → Membership)
  | delete

/-- What a write to the row of a member does. -/
def RowWrite.write (w : RowWrite) (s : TeamDb) : Write TeamDb TeamRowKey :=
  match w with
  | .update f => updating Membership (fun m => m.isTarget tenantId membershipId) f s
  | .delete => deleting Membership (fun m => m.isTarget tenantId membershipId) s

/-- `tx.membership.update` or `tx.membership.delete`: throws when the row is gone. -/
def RowWrite.run (w : RowWrite) : TeamOp R Unit := do
  let count ← Session.statement (fun s => [w.write tenantId membershipId s])
    fun s => (s.memberships.matching fun m => m.isTarget tenantId membershipId).length
  if count = 0 then throw .recordNotFound

/-- Lock the team, read the member and the owners, ask the guard, and write. -/
def withLockedTarget (guard : TeamTarget → ℕ → GuardResult) (w : RowWrite) :
    TeamOp R GuardResult :=
  Session.transaction do
    lockTeam tenantId
    let some target ← findTarget tenantId membershipId | return gone
    let ownerCount ← countOwners tenantId
    let result := guard target.toTarget ownerCount
    if result ≠ .ok then return result
    w.run tenantId target.id
    return .ok

/-- `changeMemberRoleGuarded`. -/
def changeMemberRoleGuarded (nextRole : Role) : TeamOp R GuardResult :=
  withLockedTarget tenantId membershipId
    (fun target ownerCount => canChangeRole actor target nextRole ownerCount)
    (.update ({ · with role := nextRole }))

/-- `removeMemberGuarded`. -/
def removeMemberGuarded : TeamOp R GuardResult :=
  withLockedTarget tenantId membershipId
    (fun target ownerCount => canRemoveMember actor target ownerCount) .delete

/-- What is stored of explicit permissions; nothing goes back to the preset. -/
def PermissionsColumn.ofKeys : Option (List PermissionKey) → PermissionsColumn
  | none => .inherited
  | some keys => .override (keys.map PermissionKey.text)

/-- `setMemberPermissionsGuarded`. -/
def setMemberPermissionsGuarded (next : Option (List PermissionKey)) : TeamOp R GuardResult :=
  Session.transaction do
    let some target ← findTarget tenantId membershipId | return gone
    let result := canSetPermissions actor target.toTarget (next.getD [])
    if result ≠ .ok then return result
    (RowWrite.update ({ · with permissions := .ofKeys next })).run tenantId target.id
    return .ok

end Operations

/-- A call of one of the team's operations. -/
inductive TeamCall
  | changeRole (tenantId : TenantId) (actor : TeamActor) (membershipId : MembershipId)
      (nextRole : Role)
  | remove (tenantId : TenantId) (actor : TeamActor) (membershipId : MembershipId)
  | setPermissions (tenantId : TenantId) (actor : TeamActor) (membershipId : MembershipId)
      (next : Option (List PermissionKey))

/-- The program of a call. -/
def TeamCall.program : TeamCall → TeamProgram GuardResult
  | .changeRole tenantId actor membershipId nextRole =>
      Session.program (changeMemberRoleGuarded tenantId actor membershipId nextRole)
  | .remove tenantId actor membershipId =>
      Session.program (removeMemberGuarded tenantId actor membershipId)
  | .setPermissions tenantId actor membershipId next =>
      Session.program (setMemberPermissionsGuarded tenantId actor membershipId next)

/-! ## Roles and owners -/

section Roles

variable (tenantId : TenantId) (k : MembershipId)

/-- The members of a workspace with their roles. -/
def TeamDb.rolesIn (db : TeamDb) : List (MembershipId × Role) :=
  (db.membersOf tenantId).map fun m => (m.id, m.role)

/-- A workspace has an owner. -/
def TeamDb.HasOwner (db : TeamDb) : Prop :=
  ∃ m ∈ db.memberships.rows, m.tenantId = tenantId ∧ m.role = .owner

variable {tenantId k} {db db' : TeamDb}

/-- Owners are counted by the roles. -/
theorem ownerCount_eq (db : TeamDb) :
    db.ownerCount tenantId = ((db.rolesIn tenantId).filter fun p => p.2 = .owner).length := by
  rw [TeamDb.rolesIn, List.filter_map, List.length_map]
  rfl

/-- With the same roles there are as many owners. -/
theorem ownerCount_congr (h : db.rolesIn tenantId = db'.rolesIn tenantId) :
    db.ownerCount tenantId = db'.ownerCount tenantId := by
  rw [ownerCount_eq, ownerCount_eq, h]

/-- The members of a workspace, by their roles. -/
theorem mem_rolesIn {p : MembershipId × Role} :
    p ∈ db.rolesIn tenantId ↔
      ∃ m ∈ db.memberships.rows, m.tenantId = tenantId ∧ (m.id, m.role) = p := by
  rw [TeamDb.rolesIn, List.mem_map]
  simp only [TeamDb.membersOf, List.mem_filter, decide_eq_true_iff, and_assoc]

/-- A workspace has an owner by its roles. -/
theorem hasOwner_iff : db.HasOwner tenantId ↔ ∃ p ∈ db.rolesIn tenantId, p.2 = .owner := by
  constructor
  · rintro ⟨m, hm, ht, hrole⟩
    exact ⟨(m.id, m.role), mem_rolesIn.mpr ⟨m, hm, ht, rfl⟩, hrole⟩
  · rintro ⟨p, hp, hrole⟩
    obtain ⟨m, hm, ht, rfl⟩ := mem_rolesIn.mp hp
    exact ⟨m, hm, ht, hrole⟩

/-- A workspace has an owner when it has at least one. -/
theorem hasOwner_iff_ownerCount : db.HasOwner tenantId ↔ 1 ≤ db.ownerCount tenantId := by
  rw [hasOwner_iff, ownerCount_eq, Nat.one_le_iff_ne_zero, ← Nat.pos_iff_ne_zero,
    List.length_pos_iff_exists_mem]
  simp only [List.mem_filter, decide_eq_true_iff]

/-- Of two owners one is outside any given row. -/
theorem exists_owner_ne (h : 1 < db.ownerCount tenantId) :
    ∃ m ∈ db.memberships.rows, m.tenantId = tenantId ∧ m.role = .owner ∧ m.id ≠ k := by
  rw [TeamDb.ownerCount, TeamDb.membersOf, List.filter_filter] at h
  obtain ⟨m, hm, howner, hne⟩ := Table.exists_key_ne k h
  obtain ⟨hrole, ht⟩ := Bool.and_eq_true_iff.mp howner
  exact ⟨m, hm, of_decide_eq_true ht, of_decide_eq_true hrole, hne⟩

end Roles

/-! ## A write to one row -/

section OneRow

variable {tenantId : TenantId} {k : MembershipId} {db db' : TeamDb}

/-- Nothing but the row under a key differs, and that row stays in its workspace if it stays. -/
structure OnlyRow (tenantId : TenantId) (k : MembershipId) (db db' : TeamDb) : Prop where
  others : (db'.memberships.rows.filter fun m => m.id ≠ k) =
    db.memberships.rows.filter fun m => m.id ≠ k
  stays : ∀ m ∈ db'.memberships.rows, m.id = k → m.tenantId = tenantId

/-- A write to a row that another workspace has leaves the roles alone. -/
theorem OnlyRow.rolesIn_eq (h : OnlyRow tenantId k db db') {other : TenantId}
    (hne : other ≠ tenantId)
    (hrow : ∀ m ∈ db.memberships.rows, m.id = k → m.tenantId = tenantId) :
    db'.rolesIn other = db.rolesIn other := by
  have hkeep : ∀ {t : TeamDb}, (∀ m ∈ t.memberships.rows, m.id = k → m.tenantId = tenantId) →
      t.membersOf other = (t.memberships.rows.filter fun m => m.id ≠ k).filter fun m =>
        m.tenantId = other := by
    intro t ht
    rw [List.filter_filter]
    refine List.filter_congr fun m hm => ?_
    by_cases hk : m.id = k
    · have hother : m.tenantId ≠ other := fun heq => hne (heq.symm.trans (ht m hm hk))
      simp [hk, hother]
    · simp [hk]
  rw [TeamDb.rolesIn, TeamDb.rolesIn, hkeep h.stays, hkeep hrow, h.others]

/-- An owner outside the row stays. -/
theorem OnlyRow.hasOwner (h : OnlyRow tenantId k db db') {other : TenantId} {m : Membership}
    (hm : m ∈ db.memberships.rows) (ht : m.tenantId = other) (hrole : m.role = .owner)
    (hne : m.id ≠ k) : db'.HasOwner other := by
  have hmem : m ∈ db'.memberships.rows.filter fun m => m.id ≠ k := by
    rw [h.others]
    exact List.mem_filter.mpr ⟨hm, decide_eq_true hne⟩
  exact ⟨m, (List.mem_filter.mp hmem).1, ht, hrole⟩

end OneRow

/-! ## What the writes do -/

/-- The row that is selected, by its columns. -/
theorem isTarget_iff {tenantId : TenantId} {k : MembershipId} {m : Membership} :
    m.isTarget tenantId k = true ↔ m.id = k ∧ m.tenantId = tenantId :=
  decide_eq_true_iff

section Writes

variable {tenantId : TenantId} {k : MembershipId} {s db : TeamDb}

/-- A write and its check, as one statement. -/
theorem RowWrite.run_apply {R : Type} (w : RowWrite) (ok : Unit → TeamProgram R)
    (err : Failure → TeamProgram R) :
    w.run tenantId k ok err = .stmt (fun s => [w.write tenantId k s]) fun s =>
      if (s.memberships.matching fun m => m.isTarget tenantId k).length = 0 then
        err .recordNotFound
      else ok () := by
  refine congrArg (Program.stmt _) (funext fun s => ?_)
  show (if (s.memberships.matching fun m => m.isTarget tenantId k).length = 0 then
    throw .recordNotFound else pure () : TeamOp R Unit) ok err = _
  split <;> rfl

/-- An update keeps the row's id and its workspace. -/
def RowWrite.Keeps : RowWrite → Prop
  | .update f => ∀ m, (f m).id = m.id ∧ (f m).tenantId = m.tenantId
  | .delete => True

/-- A write that selects something selects the row under its key. -/
theorem find_of_matching
    (h : (s.memberships.matching fun m => m.isTarget tenantId k).length ≠ 0) :
    ∃ r, s.memberships.find k = some r ∧ r.isTarget tenantId k = true := by
  obtain ⟨k', hk'⟩ := List.exists_mem_of_length_pos (Nat.pos_of_ne_zero h)
  obtain ⟨r, hr, htarget⟩ := Table.mem_matching.mp hk'
  obtain rfl : k' = k := (Table.find_eq_some.mp hr).2.symm.trans (isTarget_iff.mp htarget).1
  exact ⟨r, hr, htarget⟩

/-- A write that selects a row of a workspace writes that row, over whatever is committed
underneath it. -/
theorem RowWrite.onlyRow (w : RowWrite) (hw : w.Keeps)
    (hmatch : (s.memberships.matching fun m => m.isTarget tenantId k).length ≠ 0)
    (hsame : ∀ key ∈ (w.write tenantId k s).keys, RowModel.same key s db) :
    (∀ m ∈ db.memberships.rows, m.id = k → m.tenantId = tenantId) ∧
      OnlyRow tenantId k db ((w.write tenantId k s).act db) := by
  obtain ⟨r, hr, htarget⟩ := find_of_matching hmatch
  have hone : ∀ m : Membership, m.isTarget tenantId k = true → Keyed.key m = k :=
    fun m hm => (isTarget_iff.mp hm).1
  have hlocked : TeamRowKey.membership k ∈ (w.write tenantId k s).keys := by
    cases w with
    | update f => exact mem_keys_updating hone hr htarget f
    | delete => exact mem_keys_deleting hone hr htarget
  -- the row is locked, so it is in the workspace still
  have hthere : db.memberships.find k = some r := (hsame _ hlocked).symm.trans hr
  have hrow : ∀ m ∈ db.memberships.rows, m.id = k → m.tenantId = tenantId := by
    intro m hm hk
    have hfind := Table.find_key hm
    rw [key_membership, hk, hthere] at hfind
    rw [← Option.some.inj hfind]
    exact (isTarget_iff.mp htarget).2
  refine ⟨hrow, ?_⟩
  cases w with
  | update f =>
      have hact : (RowWrite.write tenantId k (.update f) s).act db =
          { db with memberships := db.memberships.update (fun m => Keyed.key m = k) f } :=
        updating_act_of_match hone hr htarget f db
      have hrows := Table.rows_update db.memberships (fun m => decide (Keyed.key m = k))
        (fun m => (hw m).1)
      rw [hact]
      constructor
      · rw [hrows, List.filter_map]
        -- rows under other keys are filtered and updated alike
        have hcomp : ((fun m : Membership => decide (m.id ≠ k)) ∘ fun m =>
            if decide (Keyed.key m = k) = true then f m else m) = fun m => decide (m.id ≠ k) := by
          funext m
          by_cases hk : m.id = k <;> simp [hk, (hw m).1]
        rw [hcomp]
        refine (List.map_congr_left fun m hm => ?_).trans (List.map_id _)
        have hne := of_decide_eq_true (List.mem_filter.mp hm).2
        simp [hne]
      · intro m hm hk
        rw [hrows] at hm
        obtain ⟨m', hm', rfl⟩ := List.mem_map.mp hm
        by_cases hk' : m'.id = k
        · simp only [key_membership, hk', decide_true, if_true]
          exact (hw m').2.trans (hrow m' hm' hk')
        · simp only [key_membership, hk', decide_false, Bool.false_eq_true, if_false] at hk
  | delete =>
      have hact : (RowWrite.write tenantId k .delete s).act db =
          { db with memberships := db.memberships.erase fun m => Keyed.key m = k } :=
        deleting_act_of_match hone hr htarget db
      rw [hact]
      constructor
      · simp [Table.erase, List.filter_filter]
      · intro m hm hk
        exact hrow m (List.mem_filter.mp hm).1 hk

variable (tenantId k s db) in
/-- Writing permissions leaves the roles of every workspace alone. -/
theorem rolesIn_write_permissions (permissions : PermissionsColumn) (other : TenantId) :
    ((RowWrite.write tenantId k (.update ({ · with permissions })) s).act db).rolesIn other =
      db.rolesIn other := by
  have hrows := Table.rows_update db.memberships
    (fun r => decide (Keyed.key r ∈ s.memberships.matching fun m => m.isTarget tenantId k))
    (f := ({ · with permissions })) (fun _ => rfl)
  simp only [RowWrite.write, updating, get_memberships, set_memberships, TeamDb.rolesIn,
    TeamDb.membersOf, hrows, List.filter_map, List.map_map]
  -- the workspace, the id and the role of a row are what they were
  have hfilter : ((fun m : Membership => decide (m.tenantId = other)) ∘ fun r =>
      if decide (Keyed.key r ∈ s.memberships.matching fun m => m.isTarget tenantId k) = true then
        { r with permissions } else r) = fun m => decide (m.tenantId = other) := by
    funext m
    rw [Function.comp_apply]
    split <;> rfl
  rw [hfilter]
  refine List.map_congr_left fun m _ => ?_
  rw [Function.comp_apply]
  split <;> rfl

end Writes

/-! ## The last owner -/

section LastOwner

variable {tenantId T : TenantId} {held : List TeamLock} {keys : List TeamRowKey} {s t : TeamDb}

/-- A workspace has an owner, and only who holds its lock changes its roles. -/
def lastOwnerContract (T : TenantId) : LockContract TeamDb TeamLock where
  Inv db := db.HasOwner T
  Guar held s t := .team T ∈ held ∨ t.rolesIn T = s.rolesIn T

/-- While the lock is held nobody else changes the roles. -/
theorem rolesIn_eq_of_rely (h : (lastOwnerContract T).Rely held keys s t) (hheld : .team T ∈ held) :
    t.rolesIn T = s.rolesIn T := by
  refine h.lift (P := fun s t => t.rolesIn T = s.rolesIn T) rfl fun a b theirs hab hdisj hguar => ?_
  rcases hguar with hlock | hsame
  · exact absurd hheld (hdisj hlock)
  · exact hsame.trans hab

/-- A transaction that wrote nothing keeps the contract. -/
theorem safe_commit_nothing (result : GuardResult) :
    (lastOwnerContract T).Safe (R := GuardResult) (K := TeamRowKey) (M := Empty)
      (.commit (.done result)) held [] s :=
  fun _ hinv _ => ⟨hinv, Or.inr rfl, trivial⟩

/-- After a write to a row of the workspace whose lock is held there is an owner, when the row was
not the only owner's. -/
theorem hasOwner_of_onlyRow {k : MembershipId} (hs : s.HasOwner T) (hwrite : OnlyRow T k s t)
    {role : Role} (hrole : (k, role) ∈ s.rolesIn T) (hguard : role = .owner → 1 < s.ownerCount T) :
    t.HasOwner T := by
  by_cases howner : role = .owner
  · obtain ⟨m, hm, ht, hrole, hne⟩ := exists_owner_ne (k := k) (hguard howner)
    exact hwrite.hasOwner hm ht hrole hne
  · -- the row is no owner's, so the owner there is stays
    obtain ⟨m, hm, ht, hmrole⟩ := hs
    refine hwrite.hasOwner hm ht hmrole fun hid => howner ?_
    obtain ⟨m', hm', _, heq⟩ := mem_rolesIn.mp hrole
    obtain ⟨hid', hrole'⟩ := Prod.mk.inj heq
    have hsame : m = m' := Table.eq_of_key_eq hm hm' (hid.trans hid'.symm)
    rw [← hrole', ← hsame]
    exact hmrole

/-- A write to the row of a member, up to the commit: what is left to check is its effect at the
commit, over what others may have committed since it selected its row. -/
theorem safe_run (w : RowWrite) {k : MembershipId} {db : TeamDb}
    (hafter : ∀ s db', (lastOwnerContract T).Rely held [] db s →
      (s.memberships.matching fun m => m.isTarget tenantId k).length ≠ 0 →
      db'.HasOwner T → (lastOwnerContract T).Rely held (w.write tenantId k s).keys s db' →
      ((w.write tenantId k s).act db').HasOwner T ∧
        (lastOwnerContract T).Guar held db' ((w.write tenantId k s).act db')) :
    (lastOwnerContract T).Safe (R := GuardResult) (K := TeamRowKey) (M := Empty)
      ((do w.run tenantId k; return GuardResult.ok : TeamOp GuardResult GuardResult)
        (fun a => .commit (.done a)) fun _ => .rollback .failed) held [] db := by
  rw [Session.bind_apply, RowWrite.run_apply]
  refine LockContract.safe_stmt fun s _ hrely => ?_
  split
  case isTrue => trivial -- the row is gone: the statement throws
  case isFalse hcount =>
    intro db' hinv hrely'
    have hkeys : locked [w.write tenantId k s] = (w.write tenantId k s).keys := by
      rw [locked_cons, locked_nil, List.append_nil]
    obtain ⟨hafter, hguar⟩ := hafter s db' hrely hcount hinv (hkeys ▸ hrely')
    exact ⟨hafter, hguar, trivial⟩

/-- A role change or a removal keeps the contract of every workspace. -/
theorem safe_withLockedTarget (membershipId : MembershipId)
    {guard : TeamTarget → ℕ → GuardResult} {w : RowWrite} (hw : w.Keeps)
    (hguard : ∀ target ownerCount, guard target ownerCount = .ok → target.role = .owner →
      1 < ownerCount) (db : TeamDb) :
    (lastOwnerContract T).Safe
      (Session.program (withLockedTarget tenantId membershipId guard w)) [] [] db := by
  intro db₀ _ _ db₁ _ _
  cases htarget : db₁.memberships.rows.find? fun m => m.isTarget tenantId membershipId with
  | none =>
      simp only [sees_nil, get_memberships, htarget]
      exact safe_commit_nothing _
  | some target =>
      obtain ⟨hid, htenant⟩ := isTarget_iff.mp (List.find?_some htarget)
      simp only [sees_nil, get_memberships, htarget]
      intro db₂ _ hrely₂
      simp only [List.append_nil, sees_nil]
      by_cases hresult : guard target.toTarget (db₂.ownerCount tenantId) = .ok
      case neg =>
        rw [if_pos hresult]
        exact safe_commit_nothing _
      case pos =>
        rw [if_neg (not_not.mpr hresult)]
        refine safe_run w fun s db' hrely₃ hmatch hinv hrely₄ => ?_
        obtain ⟨hrow, hwrite⟩ := w.onlyRow hw hmatch fun key hkey => hrely₄.same hkey
        by_cases hT : tenantId = T
        · -- under the lock the roles are those that the guard was shown
          subst hT
          have hheld : TeamLock.team tenantId ∈ [TeamLock.team tenantId] := List.mem_cons_self
          have hsince := (rolesIn_eq_of_rely hrely₄ hheld).trans (rolesIn_eq_of_rely hrely₃ hheld)
          have hrole : (target.id, target.role) ∈ db'.rolesIn tenantId := by
            rw [hsince, rolesIn_eq_of_rely hrely₂ hheld]
            exact mem_rolesIn.mpr ⟨target, List.mem_of_find?_eq_some htarget, htenant, rfl⟩
          rw [← ownerCount_congr hsince] at hresult
          exact ⟨hasOwner_of_onlyRow hinv hwrite hrole (hguard _ _ hresult), Or.inl hheld⟩
        · have hroles := hwrite.rolesIn_eq (Ne.symm hT) hrow
          refine ⟨?_, Or.inr hroles⟩
          rwa [hasOwner_iff, hroles, ← hasOwner_iff]

/-- A set of permissions keeps the contract of every workspace, without the lock. -/
theorem safe_setMemberPermissions (actor : TeamActor) (membershipId : MembershipId)
    (next : Option (List PermissionKey)) (db : TeamDb) :
    (lastOwnerContract T).Safe
      (Session.program (setMemberPermissionsGuarded tenantId actor membershipId next)) [] []
      db := by
  intro db₁ _ _
  cases htarget : db₁.memberships.rows.find? fun m => m.isTarget tenantId membershipId with
  | none =>
      simp only [sees_nil, get_memberships, htarget]
      exact safe_commit_nothing _
  | some target =>
      simp only [sees_nil, get_memberships, htarget]
      by_cases hresult : canSetPermissions actor target.toTarget (next.getD []) = .ok
      case neg =>
        rw [if_pos hresult]
        exact safe_commit_nothing _
      case pos =>
        rw [if_neg (not_not.mpr hresult)]
        refine safe_run _ fun s db' _ _ hinv _ => ?_
        have hroles := rolesIn_write_permissions tenantId target.id s db' (.ofKeys next) T
        refine ⟨?_, Or.inr hroles⟩
        rwa [hasOwner_iff, hroles, ← hasOwner_iff]

/-- Every call keeps the contract of every workspace. -/
theorem safe_call (call : TeamCall) (db : TeamDb) :
    (lastOwnerContract T).Safe call.program [] [] db := by
  cases call with
  | changeRole tenantId actor membershipId nextRole =>
      rw [TeamCall.program, changeMemberRoleGuarded]
      refine safe_withLockedTarget membershipId ?_ (fun target n hok => ?_) db
      · exact fun m => ⟨rfl, rfl⟩
      · exact (of_canChangeRole hok).2.2
  | remove tenantId actor membershipId =>
      rw [TeamCall.program, removeMemberGuarded]
      refine safe_withLockedTarget membershipId ?_ (fun target n hok => ?_) db
      · exact True.intro
      · exact (of_canRemoveMember hok).2
  | setPermissions tenantId actor membershipId next =>
      exact safe_setMemberPermissions actor membershipId next db

end LastOwner

/-- A workspace that has an owner never loses its last one, whatever calls are made by whom, and
however they interleave. -/
theorem owner_remains {ι : Type} [DecidableEq ι] (calls : ι → TeamCall) (tenantId : TenantId)
    (db : TeamDb) (howner : 1 ≤ db.ownerCount tenantId)
    (σ : Config TeamDb TeamRowKey TeamLock Empty GuardResult ι)
    (hrun : Run (Config.initial db fun i => (calls i).program) σ) :
    1 ≤ σ.db.ownerCount tenantId := by
  have hgood := LockContract.good_run (Γ := lastOwnerContract tenantId)
    (LockContract.good_initial (hasOwner_iff_ownerCount.mpr howner) fun i => safe_call (calls i) db)
    hrun
  exact hasOwner_iff_ownerCount.mp hgood.inv

/-- A workspace of two owners. -/
def twoOwners : TeamDb where
  memberships :=
    ⟨[{ id := 1, userId := 1, tenantId := 1 }, { id := 2, userId := 2, tenantId := 1 }],
      nodup_twoMembers⟩

/-- Either owner removes the other one. -/
def removeEachOther : Bool → TeamCall
  | false => .remove 1 { membershipId := 1, role := .owner, permissions := .inherited } 2
  | true => .remove 1 { membershipId := 2, role := .owner, permissions := .inherited } 1

/-- Both begin; the first to take the lock removes the other one, and the second is refused. -/
theorem owner_remains_two :
    ∃ σ, Run (Config.initial twoOwners fun i => (removeEachOther i).program) σ ∧
      (σ.clients true).program.isOver ∧ σ.db ≠ twoOwners ∧ 1 ≤ σ.db.ownerCount 1 := by
  obtain ⟨σ, hrun, hover, hne⟩ := exists_run_of_schedule [false, true] (fun _ _ _ _ => True)
    (List.replicate 5 (false, true) ++ List.replicate 4 (true, true))
    (Config.initial twoOwners fun i => (removeEachOther i).program)
    (fun σ => (σ.clients true).program.isOver = true ∧ σ.db ≠ twoOwners)
    (by decide) (by decide +kernel)
  exact ⟨σ, hrun, hover, hne, owner_remains removeEachOther 1 twoOwners (by decide) σ hrun⟩

end Restock.Team
