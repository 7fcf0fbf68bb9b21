import Restock.Store.Alone
import Restock.Team.Invites
import Restock.Team.Mutations

/-!
# Rights inside a workspace

The team actions of `apps/web/app/(shell)/settings/team/actions.ts`, one after the other: each
resolves the membership of who acts, asks the guards, and writes. Rights come from the role's preset
or from an override, and every action changes one or the other.

* `changeMemberRole`, `setMemberPermissions`, `removeMember`, `inviteTeammate` — the code;
* `TeamAction`, `TeamRun` — an action, the tables, and the tokens of the invites that were sent;
* `MembershipChange` — what an action can do to the memberships;
* `NoTeamOverride`, `Issued` — no override carries team management, and invites that were sent are
  for members;
* `perform_spec` — what one action does;
* `no_escalation` — what holds of every step of every sequence.
-/

namespace Restock.Team

open Store

/-! ## The actions -/

/-- `TeamActionResult`. -/
inductive TeamActionResult
  | ok
  | error (error : String)
  deriving DecidableEq, Repr

/-- What an action answers when its guard has answered. -/
def GuardResult.toAction : GuardResult → TeamActionResult
  | .ok => .ok
  | .no reason => .error reason

/-- Who acts, from their membership. -/
def Membership.toActor (m : Membership) : TeamActor :=
  { membershipId := m.id, role := m.role, permissions := m.permissions }

section Operations

variable {R : Type} (env : TeamEnv) (actorId : MembershipId)

/-- `changeMemberRole`. -/
def changeMemberRole (membershipId : MembershipId) (role : String) : TeamOp R TeamActionResult := do
  let some membership ← Session.findUnique Membership actorId
    | return .error "You're not in a workspace."
  let some nextRole := Role.ofText role | return .error "Unknown role."
  let guard ← changeMemberRoleGuarded membership.tenantId membership.toActor membershipId nextRole
  return guard.toAction

/-- The keys that are granted by themselves, of those asked for. -/
def grantableKeys (permissions : List String) : List PermissionKey :=
  permissions.filterMap fun k => GRANTABLE_PERMISSIONS.find? fun key => key.text = k

/-- `setMemberPermissions`. -/
def setMemberPermissions (membershipId : MembershipId) (permissions : Option (List String)) :
    TeamOp R TeamActionResult := do
  let some membership ← Session.findUnique Membership actorId
    | return .error "You're not in a workspace."
  let guard ← setMemberPermissionsGuarded membership.tenantId membership.toActor membershipId
    (permissions.map grantableKeys)
  return guard.toAction

/-- `removeMember`. -/
def removeMember (membershipId : MembershipId) : TeamOp R TeamActionResult := do
  let some membership ← Session.findUnique Membership actorId
    | return .error "You're not in a workspace."
  let guard ← removeMemberGuarded membership.tenantId membership.toActor membershipId
  return guard.toAction

/-- `inviteTeammate`. An invite whose email cannot be sent is taken back. -/
def inviteTeammate (email role : String) (token : Token) (emailSent : Bool) (now : Time) :
    TeamOp R TeamActionResult := do
  let some membership ← Session.findUnique Membership actorId
    | return .error "You're not in a workspace."
  let actor := membership.toActor
  if ¬ actor.hasPermission .manageTeam then
    return .error "You don't have team management access."
  let some role := Role.ofText role | return .error "You can't grant that role."
  if role = .owner ∨ role ∉ invitableRoles actor then return .error "You can't grant that role."
  let created ← createInvite env membership.tenantId email role token now
  match created with
  | .error error => return .error error
  | .ok invite =>
      if emailSent then return .ok
      let _ ← cancelInvite membership.tenantId invite.token
      return .error ("We couldn't send the invite email, so nothing was invited. Try again in a " ++
        "moment.")

end Operations

/-- An action: of a member, or the acceptance of an invite. -/
inductive TeamAction
  | changeRole (actorId membershipId : MembershipId) (role : String)
  | setPermissions (actorId membershipId : MembershipId) (permissions : Option (List String))
  | remove (actorId membershipId : MembershipId)
  | invite (actorId : MembershipId) (email role : String) (token : Token) (emailSent : Bool)
      (now : Time)
  | accept (token : Token) (userId : UserId) (userEmail : String) (newId : MembershipId)
      (now : Time)

/-- Who acts. -/
def TeamAction.actorId : TeamAction → Option MembershipId
  | .changeRole actorId .. | .setPermissions actorId .. | .remove actorId _ | .invite actorId .. =>
      some actorId
  | .accept .. => none

/-- The tables, and the tokens of the invites that were sent. -/
structure TeamRun where
  db : TeamDb
  issued : List Token := []

/-- The tables after a session that nobody interferes with. -/
def TeamDb.after {α : Type} (db : TeamDb) (x : TeamOp α α) : TeamDb :=
  ((Session.program x).run nofun db).2

/-- One action. An invite that was sent can be accepted, and no other one. -/
def TeamAction.perform (env : TeamEnv) (s : TeamRun) : TeamAction → TeamRun
  | .changeRole actorId membershipId role =>
      { s with db := s.db.after (changeMemberRole actorId membershipId role) }
  | .setPermissions actorId membershipId permissions =>
      { s with db := s.db.after (setMemberPermissions actorId membershipId permissions) }
  | .remove actorId membershipId => { s with db := s.db.after (removeMember actorId membershipId) }
  | .invite actorId email role token emailSent now =>
      let (result, db) := (Session.program (inviteTeammate env actorId email role token emailSent
        now)).run nofun s.db
      { db, issued := if result = some .ok then token :: s.issued else s.issued }
  | .accept token userId userEmail newId now =>
      if token ∈ s.issued then
        { s with db := s.db.after (acceptInvite env token userId userEmail newId now) }
      else s

/-- A sequence of actions. -/
def performAll (env : TeamEnv) (s : TeamRun) (actions : List TeamAction) : TeamRun :=
  actions.foldl (fun s action => action.perform env s) s

/-! ## What an action can do -/

/-- A role or an override is replaced, without more rights than a member's coming out of it. -/
structure Lowers (f : Membership → Membership) : Prop where
  id : ∀ m, (f m).id = m.id
  role : ∀ m, (f m).role = m.role ∨ (f m).role = .member
  permissions : ∀ m, (f m).permissions = m.permissions ∨
    ∃ keys, (f m).permissions = .ofKeys keys ∧ ∀ ks ∈ keys, .manageTeam ∉ ks

/-- What an action can do to the memberships: change or remove one, whose rank asks for an owner to
do so if it is not a member's, or add a member's. -/
inductive MembershipChange (actorId : Option MembershipId) (s : Table Membership) :
    Table Membership → Prop
  | same : MembershipChange actorId s s
  | update {actor target : Membership} {p : Membership → Bool} {f : Membership → Membership}
      (hid : actorId = some actor.id) (hactor : actor ∈ s.rows) (htarget : target ∈ s.rows)
      (htenant : target.tenantId = actor.tenantId)
      (hrank : target.role ≠ .member → actor.role = .owner)
      (hone : ∀ m, p m → m.id = target.id) (hf : Lowers f) :
      MembershipChange actorId s (s.update p f)
  | erase {actor target : Membership} {p : Membership → Bool}
      (hid : actorId = some actor.id) (hactor : actor ∈ s.rows) (htarget : target ∈ s.rows)
      (htenant : target.tenantId = actor.tenantId)
      (hrank : target.role ≠ .member → actor.role = .owner)
      (hone : ∀ m, p m → m.id = target.id) : MembershipChange actorId s (s.erase p)
  | join {m : Membership} (hrole : m.role = .member) (hpermissions : m.permissions = .inherited) :
      MembershipChange actorId s (s.insert m)

/-- No explicit override carries team management. -/
def NoTeamOverride (s : Table Membership) : Prop :=
  ∀ m ∈ s.rows, ∀ values, m.permissions = .override values →
    PermissionKey.manageTeam.text ∉ values

/-- The invites that were sent are for members. -/
def Issued (issued : List Token) (s : Table Verification) : Prop :=
  ∀ v ∈ s.rows, v.id ∈ issued → v.value = Role.member.text

section Changes

variable {actorId : Option MembershipId} {s t : Table Membership}

/-- Stored keys without team management do not say it. -/
theorem not_mem_ofKeys {keys : Option (List PermissionKey)} {values : List String}
    (h : .ofKeys keys = PermissionsColumn.override values)
    (hkeys : ∀ ks ∈ keys, .manageTeam ∉ ks) : PermissionKey.manageTeam.text ∉ values := by
  cases keys with
  | none => cases h
  | some ks =>
      obtain rfl := PermissionsColumn.override.inj h
      intro hmem
      obtain ⟨key, hkey, htext⟩ := List.mem_map.mp hmem
      have hteam : key = .manageTeam := by revert htext; cases key <;> decide
      exact hkeys ks rfl (hteam ▸ hkey)

/-- Nobody has an override. -/
theorem noTeamOverride_of_inherited (h : ∀ m ∈ s.rows, m.permissions = .inherited) :
    NoTeamOverride s := by
  intro m hm values hvalues
  rw [h m hm] at hvalues
  cases hvalues

/-- The rows after an update that keeps ids. -/
theorem mem_update {p : Membership → Bool} {f : Membership → Membership} (hf : ∀ m, (f m).id = m.id)
    {m : Membership} (hm : m ∈ (s.update p f).rows) :
    ∃ m₀ ∈ s.rows, m = (if p m₀ then f m₀ else m₀) := by
  rw [Table.rows_update s p hf, List.mem_map] at hm
  obtain ⟨m₀, hm₀, rfl⟩ := hm
  exact ⟨m₀, hm₀, rfl⟩

/-- Overrides keep off team management. -/
theorem MembershipChange.noTeamOverride (h : MembershipChange actorId s t) (hs : NoTeamOverride s) :
    NoTeamOverride t := by
  cases h with
  | same => exact hs
  | update _ _ _ _ _ _ hf =>
      intro m hm values hvalues
      obtain ⟨m₀, hm₀, rfl⟩ := mem_update hf.id hm
      split at hvalues
      · rcases hf.permissions m₀ with hsame | ⟨keys, hkeys, hteam⟩
        · exact hs m₀ hm₀ values (hsame ▸ hvalues)
        · exact not_mem_ofKeys (hkeys ▸ hvalues) hteam
      · exact hs m₀ hm₀ values hvalues
  | erase => exact fun m hm => hs m (List.mem_filter.mp hm).1
  | join _ hpermissions =>
      intro m hm values hvalues
      rcases Table.mem_insert hm with hold | rfl
      · exact hs m hold values hvalues
      · rw [hpermissions] at hvalues
        cases hvalues

/-- Who has a rank has had it before. -/
theorem MembershipChange.rank (h : MembershipChange actorId s t) {m : Membership} (hm : m ∈ t.rows)
    (hrole : m.role ≠ .member) : ∃ m₀ ∈ s.rows, m₀.id = m.id ∧ m₀.role = m.role := by
  cases h with
  | same => exact ⟨m, hm, rfl, rfl⟩
  | update _ _ _ _ _ _ hf =>
      obtain ⟨m₀, hm₀, rfl⟩ := mem_update hf.id hm
      refine ⟨m₀, hm₀, ?_⟩
      split at hrole
      case isTrue hp =>
        rw [if_pos hp]
        exact ⟨(hf.id m₀).symm, ((hf.role m₀).resolve_right hrole).symm⟩
      case isFalse hp =>
        rw [if_neg hp]
        exact ⟨rfl, rfl⟩
  | erase => exact ⟨m, (List.mem_filter.mp hm).1, rfl, rfl⟩
  | join hmember _ =>
      rcases Table.mem_insert hm with hold | rfl
      · exact ⟨m, hold, rfl, rfl⟩
      · exact absurd hmember hrole

/-- A membership with a rank is only changed or removed by an owner. -/
theorem MembershipChange.ranked (h : MembershipChange actorId s t) {m : Membership}
    (hm : m ∈ s.rows)
    (hrole : m.role ≠ .member) (hgone : m ∉ t.rows) :
    ∃ actor ∈ s.rows, actorId = some actor.id ∧ actor.role = .owner ∧
      actor.tenantId = m.tenantId := by
  have howner : ∀ {actor target : Membership}, actorId = some actor.id → actor ∈ s.rows →
      target ∈ s.rows → target.tenantId = actor.tenantId →
      (target.role ≠ .member → actor.role = .owner) → m.id = target.id →
      ∃ actor ∈ s.rows, actorId = some actor.id ∧ actor.role = .owner ∧
        actor.tenantId = m.tenantId := by
    intro actor target hid hactor htarget htenant hrank heq
    obtain rfl : m = target := Table.eq_of_key_eq hm htarget heq
    exact ⟨actor, hactor, hid, hrank hrole, htenant.symm⟩
  cases h with
  | same => exact absurd hm hgone
  | @update actor target p f hid hactor htarget htenant hrank hone hf =>
      by_cases hp : p m
      · exact howner hid hactor htarget htenant hrank (hone m hp)
      · refine absurd ?_ hgone
        rw [Table.rows_update s p hf.id, List.mem_map]
        exact ⟨m, hm, if_neg hp⟩
  | @erase actor target p hid hactor htarget htenant hrank hone =>
      by_cases hp : p m
      · exact howner hid hactor htarget htenant hrank (hone m hp)
      · exact absurd (List.mem_filter.mpr ⟨hm, by simpa using hp⟩) hgone
  | join => exact absurd (Table.mem_insert_of_mem hm) hgone

/-- Without team management in its override a member's role does not resolve to it. -/
theorem manageTeam_not_mem (hs : NoTeamOverride s) {m : Membership} (hm : m ∈ s.rows)
    (hrole : m.role = .member) : .manageTeam ∉ resolvePermissions m.role m.permissions := by
  cases hpermissions : m.permissions with
  | inherited => rw [hrole]; decide
  | override values =>
      intro hmem
      obtain ⟨value, hvalue, hkey⟩ := List.mem_filterMap.mp hmem
      have hfound : (PERMISSION_KEYS.find? fun key => key.text = value) = some .manageTeam := hkey
      have htext : PermissionKey.manageTeam.text = value := by simpa using List.find?_some hfound
      exact hs m hm values hpermissions (htext ▸ hvalue)

end Changes

/-! ## What the actions leave -/

section Leaves

variable {R : Type} {answer : Empty → Bool} {s : TeamDb} {tenantId : TenantId}
  {membershipId : MembershipId}

/-- A write to the row of a member: it is there, or the statement throws. -/
theorem leaves_rowWrite {w : RowWrite} {c : TeamDb}
    {Q : Except Failure Unit → TeamDb → TeamDb → Prop}
    (hmissing : ∀ t, Q (.error .recordNotFound) c t)
    (h : Q (.ok ()) c ((w.write tenantId membershipId s).act s)) :
    Session.Leaves answer (w.run tenantId membershipId : TeamOp R Unit) c s Q :=
  Session.leaves_statement_bind (Session.leaves_ite (fun _ => Session.leaves_throw (hmissing _))
    fun _ => Session.leaves_pure h)

/-- A change of one member, once the guard has let it through. -/
theorem leaves_guarded {w : RowWrite} {result : GuardResult}
    {Q : Except Failure GuardResult → TeamDb → TeamDb → Prop} (hsame : ∀ r, Q r s s)
    (h : result = .ok → let t := (w.write tenantId membershipId s).act s; Q (.ok .ok) t t) :
    Session.Leaves answer (do
      if result ≠ .ok then return result
      w.run tenantId membershipId
      return .ok : TeamOp R GuardResult) s s fun r c w =>
        match r with
        | .ok _ => Q r w w
        | .error _ => Q r c c := by
  refine Session.leaves_ite (fun _ => Session.leaves_pure (hsame _)) fun hok => ?_
  refine Session.leaves_bind (leaves_rowWrite (Q := fun r c w' => match r with
    | .ok _ => w' = (w.write tenantId membershipId s).act s
    | .error _ => c = s) (fun _ => rfl) rfl) ?_ ?_
  · rintro - c' w' rfl
    exact Session.leaves_pure (h (not_not.mp hok))
  · rintro e c' w' rfl
    exact hsame _

/-- A role change or a removal: nothing, or the write to the member that the guard was shown. -/
theorem leaves_withLockedTarget {guard : TeamTarget → ℕ → GuardResult} {w : RowWrite}
    {Q : Except Failure GuardResult → TeamDb → TeamDb → Prop} (hsame : ∀ r, Q r s s)
    (h : ∀ target ∈ s.memberships.rows, target.tenantId = tenantId →
      guard target.toTarget (s.ownerCount tenantId) = .ok →
      let t := (w.write tenantId target.id s).act s; Q (.ok .ok) t t) :
    Session.Leaves answer
      (withLockedTarget tenantId membershipId guard w : TeamOp R GuardResult) s s
      Q := by
  refine Session.leaves_transaction (P := fun r c w => match r with
    | .ok _ => Q r w w
    | .error _ => Q r c c) ?_ (fun _ _ _ => id) fun _ _ _ => id
  refine Session.leaves_lock_bind (Session.leaves_query_bind ?_)
  cases htarget : s.memberships.rows.find? fun m => m.isTarget tenantId membershipId with
  | none =>
      exact Session.leaves_pure (hsame _)
  | some target =>
      obtain ⟨-, ht⟩ := isTarget_iff.mp (List.find?_some htarget)
      exact Session.leaves_query_bind (leaves_guarded hsame fun hok =>
        h target (List.mem_of_find?_eq_some htarget) ht hok)

/-- A set of permissions: nothing, or the write to the member that the guard was shown. -/
theorem leaves_setMemberPermissionsGuarded {actor : TeamActor} {next : Option (List PermissionKey)}
    {Q : Except Failure GuardResult → TeamDb → TeamDb → Prop} (hsame : ∀ r, Q r s s)
    (h : ∀ target ∈ s.memberships.rows, target.tenantId = tenantId →
      canSetPermissions actor target.toTarget (next.getD []) = .ok →
      let t := ((RowWrite.update ({ · with permissions := .ofKeys next })).write tenantId target.id
        s).act s
      Q (.ok .ok) t t) :
    Session.Leaves answer
      (setMemberPermissionsGuarded tenantId actor membershipId next : TeamOp R GuardResult) s s
      Q := by
  refine Session.leaves_transaction (P := fun r c w => match r with
    | .ok _ => Q r w w
    | .error _ => Q r c c) ?_ (fun _ _ _ => id) fun _ _ _ => id
  refine Session.leaves_query_bind ?_
  cases htarget : s.memberships.rows.find? fun m => m.isTarget tenantId membershipId with
  | none =>
      exact Session.leaves_pure (hsame _)
  | some target =>
      obtain ⟨-, ht⟩ := isTarget_iff.mp (List.find?_some htarget)
      exact leaves_guarded hsame fun hok => h target (List.mem_of_find?_eq_some htarget) ht hok

/-! ### Invites -/

section Invites

variable {α : Type} {env : TeamEnv} {email : String} {role : Role} {token : Token} {now : Time}
  {Q : Except Failure α → TeamDb → TeamDb → Prop}

/-- Asking the plan changes nothing. -/
theorem leaves_checkLimit_bind {f : LimitCheck → TeamOp R α}
    (h : ∀ check, Session.Leaves answer (f check) s s Q) :
    Session.Leaves answer (checkLimit env tenantId now >>= f) s s Q := by
  obtain ⟨result, c, w, hq, hexec⟩ := h (limitCheck env (s.memberUsage tenantId)
    (graceLeftDays (s.memberUsage tenantId) (s.workspace tenantId).limitsExceededAt now))
  exact ⟨result, c, w, hq, fun ok err => hexec ok err⟩

/-- Asking whether an address is a member's changes nothing. -/
theorem leaves_isMemberAddress_bind {f : Bool → TeamOp R α}
    (h : ∀ member, Session.Leaves answer (f member) s s Q) :
    Session.Leaves answer (isMemberAddress env tenantId email >>= f) s s Q := by
  refine Session.leaves_bind (P := fun r c w => (∃ member, r = .ok member) ∧ c = s ∧ w = s) ?_ ?_ ?_
  · refine Session.leaves_query_bind ?_
    cases s.users.find? fun u => env.address.equalsInsensitive u.email email with
    | none => exact Session.leaves_pure ⟨⟨_, rfl⟩, rfl, rfl⟩
    | some user => exact Session.leaves_query_bind (Session.leaves_pure ⟨⟨_, rfl⟩, rfl, rfl⟩)
  · rintro member _ _ ⟨-, rfl, rfl⟩
    exact h member
  · rintro e _ _ ⟨⟨_, he⟩, -⟩
    cases he

/-- An invite that was created leaves the memberships, and no row but its own under its token. -/
structure Invited (token : Token) (role : Role) (s : TeamDb)
    (result : Except Failure CreateInviteResult) (t : TeamDb) : Prop where
  memberships : t.memberships = s.memberships
  verifications : ∀ v ∈ t.verifications.rows,
    v ∈ s.verifications.rows ∨ v.id = token ∧ v.value = role.text
  ok : ∀ invite, result = .ok (.ok invite) → invite.token = token ∧
    ∀ v ∈ t.verifications.rows, v.id = token → v.value = role.text

/-- An invite that was not created changes nothing. -/
theorem Invited.refused {error : String} : Invited token role s (.ok (.error error)) s :=
  ⟨rfl, fun _ hv => Or.inl hv, fun _ h => by cases h⟩

/-- Storing an invite. -/
theorem leaves_storeInvite {expiresAt : Time} :
    Session.Leaves answer (storeInvite tenantId email role token expiresAt :
      TeamOp R CreateInviteResult) s s fun r c w => c = w ∧ Invited token role s r c := by
  unfold storeInvite
  refine Session.leaves_delete_bind fun _ => ?_
  have hkeep : ∀ v ∈ (s.verifications.erase fun v => v.identifier = (tenantId, email)).rows,
      v ∈ s.verifications.rows := fun v hv => (List.mem_filter.mp hv).1
  let stored : CreateInviteResult := .ok { token, tenantId, email, role, expiresAt }
  refine Session.leaves_bind (P := fun r c w => c = w ∧ match r with
    | .ok _ => Invited token role s (.ok stored) c
    | .error e => Invited token role s (.error e) c) ?_ (fun _ _ _ h => Session.leaves_pure h)
    fun _ _ _ h => h
  refine Session.leaves_transaction (P := fun r c w => match r with
    | .ok _ => Invited token role s (.ok stored) w
    | .error e => Invited token role s (.error e) c) ?_ (fun _ _ _ h => ⟨rfl, h⟩)
    fun _ _ _ h => ⟨rfl, h⟩
  refine Session.leaves_create ?_ fun hfree => ?_
  · exact ⟨rfl, fun v hv => Or.inl (hkeep v hv), fun _ h => by cases h⟩
  · refine ⟨rfl, fun v hv => ?_, fun invite hinvite => ?_⟩
    · rcases Table.mem_insert hv with hold | rfl
      · exact Or.inl (hkeep v hold)
      · exact Or.inr ⟨rfl, rfl⟩
    · obtain rfl := CreateInviteResult.ok.inj (Except.ok.inj hinvite)
      refine ⟨rfl, fun v hv hid => ?_⟩
      rcases Table.mem_insert hv with hold | rfl
      · exact absurd hid (Table.find_eq_none.mp hfree v hold)
      · rfl

/-- Creating an invite. -/
theorem leaves_createInvite :
    Session.Leaves answer (createInvite env tenantId email role token now :
      TeamOp R CreateInviteResult) s s fun r c w => c = w ∧ Invited token role s r c := by
  unfold createInvite
  refine Session.leaves_ite (fun _ => Session.leaves_pure ⟨rfl, .refused⟩) fun _ => ?_
  refine Session.leaves_ite (fun _ => Session.leaves_pure ⟨rfl, .refused⟩) fun _ => ?_
  refine leaves_isMemberAddress_bind fun member => ?_
  refine Session.leaves_ite (fun _ => Session.leaves_pure ⟨rfl, .refused⟩) fun _ => ?_
  refine leaves_checkLimit_bind fun check => ?_
  refine Session.leaves_ite (fun _ => Session.leaves_pure ⟨rfl, .refused⟩) fun _ => ?_
  exact leaves_storeInvite

/-- Looking a token up changes nothing; a valid invite is what its row says. -/
theorem leaves_getInvite_bind {f : InviteLookup → TeamOp R α}
    (h : ∀ lookup, (∀ invite name, lookup = .valid invite name →
      ∃ v, s.verifications.find token = some v ∧ v.toPendingInvite = some invite) →
      Session.Leaves answer (f lookup) s s Q) :
    Session.Leaves answer (getInvite token now >>= f) s s Q := by
  refine Session.leaves_bind (P := fun r c w => (∃ lookup, r = .ok lookup ∧
    ∀ invite name, lookup = .valid invite name → ∃ v, s.verifications.find token = some v ∧
      v.toPendingInvite = some invite) ∧ c = s ∧ w = s) ?_ ?_ ?_
  · refine Session.leaves_query_bind ?_
    cases hrow : (Stored.get s : Table Verification).find token with
    | none => exact Session.leaves_pure ⟨⟨_, rfl, fun _ _ h => by cases h⟩, rfl, rfl⟩
    | some row =>
    cases hinvite : row.toPendingInvite with
    | none =>
        simp only [hinvite]
        exact Session.leaves_pure ⟨⟨_, rfl, fun _ _ h => by cases h⟩, rfl, rfl⟩
    | some invite =>
    simp only [hinvite]
    refine Session.leaves_ite (fun _ => Session.leaves_pure
      ⟨⟨_, rfl, fun _ _ h => by cases h⟩, rfl, rfl⟩) fun _ => Session.leaves_query_bind ?_
    cases s.workspaces.find? fun w => w.id = invite.tenantId with
    | none => exact Session.leaves_pure ⟨⟨_, rfl, fun _ _ h => by cases h⟩, rfl, rfl⟩
    | some tenant =>
        refine Session.leaves_pure ⟨⟨_, rfl, fun invite' name heq => ?_⟩, rfl, rfl⟩
        obtain ⟨rfl, -⟩ := InviteLookup.valid.inj heq
        exact ⟨row, rfl, hinvite⟩
  · rintro lookup _ _ ⟨⟨_, heq, hvalid⟩, rfl, rfl⟩
    obtain rfl := Except.ok.inj heq
    exact h lookup hvalid
  · rintro e _ _ ⟨⟨_, he, -⟩, -⟩
    cases he

/-- Asking for a place changes nothing. -/
theorem leaves_hasPlace_bind {userId : UserId} {f : Bool → TeamOp R α}
    (h : ∀ place, Session.Leaves answer (f place) s s Q) :
    Session.Leaves answer (hasPlace env tenantId userId now >>= f) s s Q := by
  refine Session.leaves_bind (P := fun r c w => (∃ place, r = .ok place) ∧ c = s ∧ w = s) ?_ ?_ ?_
  · refine Session.leaves_query_bind ?_
    cases s.memberships.rows.find? fun m => m.tenantId = tenantId ∧ m.userId = userId with
    | none =>
        exact leaves_checkLimit_bind fun _ => Session.leaves_pure ⟨⟨_, rfl⟩, rfl, rfl⟩
    | some member => exact Session.leaves_pure ⟨⟨_, rfl⟩, rfl, rfl⟩
  · rintro member _ _ ⟨-, rfl, rfl⟩
    exact h member
  · rintro e _ _ ⟨⟨_, he⟩, -⟩
    cases he

/-- An acceptance adds no invite, and no membership but what the token's says. -/
structure Accepted (token : Token) (s t : TeamDb) : Prop where
  verifications : ∀ v ∈ t.verifications.rows, v ∈ s.verifications.rows
  memberships : t.memberships = s.memberships ∨ ∃ v m, s.verifications.find token = some v ∧
    Role.ofText v.value = some m.role ∧ m.permissions = .inherited ∧
    t.memberships = s.memberships.insert m

/-- Storing a membership and consuming its invite. -/
theorem leaves_consumeInvite {invite : PendingInvite} {userId : UserId} {newId : MembershipId}
    {v : Verification} (hv : s.verifications.find token = some v)
    (hinvite : v.toPendingInvite = some invite) :
    Session.Leaves answer (consumeInvite invite userId newId : TeamOp R AcceptInviteResult) s s
      fun _ c _ => Accepted token s c := by
  obtain ⟨hrole, -, -⟩ := Verification.toPendingInvite_eq_some hinvite
  let m : Membership := { id := newId, userId, tenantId := invite.tenantId, role := invite.role }
  have hcreate : Session.Leaves answer
      (Session.transaction (createMembership m) : TeamOp R Unit) s s
      fun _ c w => c = w ∧ Accepted token s c := by
    refine Session.leaves_transaction (P := fun r c w => c = s ∧
      (w = s ∨ w = { s with memberships := s.memberships.insert m })) ?_ ?_ ?_
    · refine Session.leaves_statement_bind ?_
      by_cases hseat : s.hasSeat m
      · rw [if_pos hseat]
        exact Session.leaves_throw ⟨rfl, Or.inl (by rw [if_pos hseat, sees_nil])⟩
      · rw [if_neg hseat]
        exact Session.leaves_pure ⟨rfl, Or.inr (by rw [if_neg hseat]; rfl)⟩
    -- what commits is nothing, or the seat with the role of the invite
    · rintro - c w ⟨rfl, rfl | rfl⟩
      · exact ⟨rfl, fun _ h => h, Or.inl rfl⟩
      · exact ⟨rfl, fun _ h => h, Or.inr ⟨v, m, hv, hrole, rfl, rfl⟩⟩
    · rintro e c w ⟨rfl, -⟩
      exact ⟨rfl, fun _ h => h, Or.inl rfl⟩
  unfold consumeInvite
  refine Session.leaves_bind (P := fun _ c w => c = w ∧ Accepted token s c) ?_ ?_ fun _ _ _ h => h.2
  · refine Session.leaves_tryCatch (P := fun _ c w => c = w ∧ Accepted token s c)
      (Session.leaves_bind hcreate (fun _ _ _ h => Session.leaves_pure h) fun _ _ _ h => h)
      (fun _ _ _ h => h) fun e c w h => ?_
    exact Session.leaves_ite (fun _ => Session.leaves_pure h) fun _ => Session.leaves_throw h
  · rintro already c _ ⟨rfl, haccepted⟩
    refine Session.leaves_delete_bind fun _ => Session.leaves_pure ⟨fun x hx => ?_, ?_⟩
    · exact haccepted.verifications x (List.mem_filter.mp hx).1
    · exact haccepted.memberships

/-- Accepting an invite. -/
theorem leaves_acceptInvite {userId : UserId} {userEmail : String} {newId : MembershipId} :
    Session.Leaves answer (acceptInvite env token userId userEmail newId now :
      TeamOp R AcceptInviteResult) s s fun _ c _ => Accepted token s c := by
  have hsame : Accepted token s s := ⟨fun _ h => h, Or.inl rfl⟩
  unfold acceptInvite
  refine leaves_getInvite_bind fun lookup hvalid => ?_
  cases lookup with
  | invalid => exact Session.leaves_pure hsame
  | expired => exact Session.leaves_pure hsame
  | valid invite name =>
      obtain ⟨v, hv, hinvite⟩ := hvalid invite name rfl
      refine Session.leaves_ite (fun _ => Session.leaves_pure hsame) fun _ => ?_
      refine leaves_hasPlace_bind fun place => ?_
      refine Session.leaves_ite (fun _ => Session.leaves_pure hsame) fun _ => ?_
      exact leaves_consumeInvite hv hinvite

end Invites

/-! ### The actions -/

section Actions

variable {actorId : MembershipId}

/-- A change of one member leaves the invites. -/
def Changed (actorId : MembershipId) (s t : TeamDb) : Prop :=
  t.verifications = s.verifications ∧ MembershipChange (some actorId) s.memberships t.memberships

/-- Without a change. -/
theorem Changed.refl : Changed actorId s s := ⟨rfl, .same⟩

/-- What follows the answer of a guard changes nothing. -/
theorem leaves_toAction {x : TeamOp R GuardResult}
    (h : Session.Leaves answer x s s fun _ c _ => Changed actorId s c) :
    Session.Leaves answer (do let guard ← x; return guard.toAction : TeamOp R TeamActionResult) s s
      fun _ c _ => Changed actorId s c :=
  Session.leaves_bind h (fun _ _ _ hchanged => Session.leaves_pure hchanged) fun _ _ _ => id

/-- Changing a role. -/
theorem leaves_changeMemberRole {role : String} :
    Session.Leaves answer (changeMemberRole actorId membershipId role :
      TeamOp R TeamActionResult) s s fun _ c _ => Changed actorId s c := by
  refine Session.leaves_query_bind ?_
  cases hactor : (Stored.get s : Table Membership).find actorId with
  | none => exact Session.leaves_pure .refl
  | some actor =>
  obtain ⟨hmem, hid⟩ := Table.find_eq_some.mp hactor
  cases Role.ofText role with
  | none => exact Session.leaves_pure .refl
  | some nextRole =>
      refine leaves_toAction
        (leaves_withLockedTarget (fun _ => .refl) fun target ht htenant hok => ?_)
      obtain ⟨hnext, hrank, -⟩ := of_canChangeRole hok
      refine ⟨rfl, ?_⟩
      rw [RowWrite.write, updating_act_self]
      refine .update (congrArg some hid.symm) hmem ht htenant hrank
        (fun m hm => (isTarget_iff.mp hm).1) ?_
      exact ⟨fun _ => rfl, fun _ => Or.inr hnext, fun _ => Or.inl rfl⟩

/-- Setting permissions. -/
theorem leaves_setMemberPermissions {permissions : Option (List String)} :
    Session.Leaves answer (setMemberPermissions actorId membershipId permissions :
      TeamOp R TeamActionResult) s s fun _ c _ => Changed actorId s c := by
  refine Session.leaves_query_bind ?_
  cases hactor : (Stored.get s : Table Membership).find actorId with
  | none => exact Session.leaves_pure .refl
  | some actor =>
      obtain ⟨hmem, hid⟩ := Table.find_eq_some.mp hactor
      refine leaves_toAction
        (leaves_setMemberPermissionsGuarded (fun _ => .refl) fun target ht htenant hok => ?_)
      obtain ⟨hrank, hgrant⟩ := of_canSetPermissions hok
      refine ⟨rfl, ?_⟩
      rw [RowWrite.write, updating_act_self]
      refine .update (congrArg some hid.symm) hmem ht htenant hrank
        (fun m hm => (isTarget_iff.mp hm).1) ?_
      refine ⟨fun _ => rfl, fun _ => Or.inl rfl, fun _ => Or.inr ⟨_, rfl, fun ks hks => ?_⟩⟩
      rwa [Option.mem_def.mp hks] at hgrant

/-- Removing a member. -/
theorem leaves_removeMember :
    Session.Leaves answer (removeMember actorId membershipId : TeamOp R TeamActionResult) s s
      fun _ c _ => Changed actorId s c := by
  refine Session.leaves_query_bind ?_
  cases hactor : (Stored.get s : Table Membership).find actorId with
  | none => exact Session.leaves_pure .refl
  | some actor =>
      obtain ⟨hmem, hid⟩ := Table.find_eq_some.mp hactor
      refine leaves_toAction
        (leaves_withLockedTarget (fun _ => .refl) fun target ht htenant hok => ?_)
      obtain ⟨hrank, -⟩ := of_canRemoveMember hok
      refine ⟨rfl, ?_⟩
      rw [RowWrite.write, deleting_act_self]
      exact .erase (congrArg some hid.symm) hmem ht htenant hrank
        fun m hm => (isTarget_iff.mp hm).1

/-- An invitation leaves the memberships, and no invite but for a member under its token. -/
structure Sent (token : Token) (s : TeamDb) (result : Except Failure TeamActionResult)
    (t : TeamDb) :
    Prop where
  memberships : t.memberships = s.memberships
  verifications : ∀ v ∈ t.verifications.rows,
    v ∈ s.verifications.rows ∨ v.id = token ∧ v.value = Role.member.text
  ok : result = .ok .ok → ∀ v ∈ t.verifications.rows, v.id = token → v.value = Role.member.text

/-- An invitation that was refused changes nothing. -/
theorem Sent.refused {token : Token} {error : String} : Sent token s (.ok (.error error)) s :=
  ⟨rfl, fun _ hv => Or.inl hv, fun h => by cases h⟩

/-- Inviting somebody. -/
theorem leaves_inviteTeammate {env : TeamEnv} {email role : String} {token : Token}
    {emailSent : Bool} {now : Time} :
    Session.Leaves answer (inviteTeammate env actorId email role token emailSent now :
      TeamOp R TeamActionResult) s s fun r c _ => Sent token s r c := by
  refine Session.leaves_query_bind ?_
  cases (Stored.get s : Table Membership).find actorId with
  | none => exact Session.leaves_pure .refused
  | some actor =>
  refine Session.leaves_ite (fun _ => Session.leaves_pure .refused) fun _ => ?_
  cases Role.ofText role with
  | none => exact Session.leaves_pure .refused
  | some invited =>
  refine Session.leaves_ite (fun _ => Session.leaves_pure .refused) fun hrole => ?_
  obtain rfl := eq_member_of_invitable (not_not.mp (not_or.mp hrole).2)
  refine Session.leaves_bind leaves_createInvite ?_ fun e c w h =>
    ⟨h.2.memberships, h.2.verifications, fun he => by cases he⟩
  rintro created c _ ⟨rfl, hinvited⟩
  cases created with
  | error error =>
      exact Session.leaves_pure ⟨hinvited.memberships, hinvited.verifications, fun h => by cases h⟩
  | ok invite =>
  obtain ⟨-, hvalue⟩ := hinvited.ok invite rfl
  refine Session.leaves_ite (fun _ => Session.leaves_pure
    ⟨hinvited.memberships, hinvited.verifications, fun _ => hvalue⟩) fun _ => ?_
  -- the email did not go out, and the invite is taken back
  refine Session.leaves_bind (P := fun _ c' _ => c'.memberships = c.memberships ∧
    ∀ v ∈ c'.verifications.rows, v ∈ c.verifications.rows) ?_ ?_ ?_
  · exact Session.leaves_delete_bind fun _ =>
      Session.leaves_pure ⟨rfl, fun v hv => (List.mem_filter.mp hv).1⟩
  · rintro - c' w' ⟨hm, hv⟩
    exact Session.leaves_pure ⟨hm.trans hinvited.memberships,
      fun v hmem => hinvited.verifications v (hv v hmem), fun h => by cases h⟩
  · rintro e c' w' ⟨hm, hv⟩
    exact ⟨hm.trans hinvited.memberships, fun v hmem => hinvited.verifications v (hv v hmem),
      fun h => by cases h⟩

end Actions

end Leaves

/-! ## Sequences -/

/-- What holds of the tables after any sequence. -/
structure TeamRun.Sound (s : TeamRun) : Prop where
  overrides : NoTeamOverride s.db.memberships
  issued : Issued s.issued s.db.verifications

section Sequences

variable {env : TeamEnv} {s : TeamRun}

/-- What a session leaves of the tables. -/
theorem after_of_leaves {α : Type} {db : TeamDb} {x : TeamOp α α} {P : TeamDb → Prop}
    (h : Session.Leaves nofun x db db fun _ c _ => P c) : P (db.after x) := by
  obtain ⟨result, t, w, hp, hrun⟩ := h.exists_run
  rw [TeamDb.after, hrun]
  exact hp

/-- One action changes the memberships as an action can, and the invites sent stay those for
members. -/
theorem perform_spec (env : TeamEnv) (action : TeamAction) (h : s.Sound) :
    MembershipChange action.actorId s.db.memberships (action.perform env s).db.memberships ∧
      Issued (action.perform env s).issued (action.perform env s).db.verifications := by
  have hchanged : ∀ {actorId : MembershipId} {t : TeamDb}, Changed actorId s.db t →
      MembershipChange (some actorId) s.db.memberships t.memberships ∧
        Issued s.issued t.verifications := by
    rintro actorId t ⟨hsame, hchange⟩
    exact ⟨hchange, hsame ▸ h.issued⟩
  cases action with
  | changeRole actorId membershipId role => exact hchanged (after_of_leaves leaves_changeMemberRole)
  | setPermissions actorId membershipId permissions =>
      exact hchanged (after_of_leaves leaves_setMemberPermissions)
  | remove actorId membershipId => exact hchanged (after_of_leaves leaves_removeMember)
  | invite actorId email role token emailSent now =>
      have hleaves : Session.Leaves nofun
          (inviteTeammate env actorId email role token emailSent now :
          TeamOp TeamActionResult TeamActionResult) s.db s.db fun r c _ => Sent token s.db r c :=
        leaves_inviteTeammate
      obtain ⟨result, t, w, hsent, hrun⟩ := hleaves.exists_run
      simp only [TeamAction.perform, hrun, TeamAction.actorId]
      refine ⟨hsent.memberships ▸ .same, fun v hv hid => ?_⟩
      -- a token that was out before keeps its role, and a new one is out only when it is sent
      have hold : v.id ∈ s.issued → v.value = Role.member.text := fun hissued => by
        rcases hsent.verifications v hv with hmem | ⟨-, hvalue⟩
        · exact h.issued v hmem hissued
        · exact hvalue
      cases result with
      | error e => exact hold hid
      | ok result =>
      cases result with
      | error error => exact hold hid
      | ok =>
          rcases List.mem_cons.mp hid with htoken | hissued
          · exact hsent.ok rfl v hv htoken
          · exact hold hissued
  | accept token userId userEmail newId now =>
      rw [TeamAction.perform]
      split
      case isFalse => exact ⟨.same, h.issued⟩
      case isTrue hissued =>
      have haccepted : Accepted token s.db
          (s.db.after (acceptInvite env token userId userEmail newId now)) :=
        after_of_leaves leaves_acceptInvite
      refine ⟨?_, fun v hv hid => h.issued v (haccepted.verifications v hv) hid⟩
      rcases haccepted.memberships with hsame | ⟨v, m, hv, hrole, hpermissions, hinsert⟩
      · rw [hsame]
        exact .same
      · -- who joins with a token that was issued joins as what it says
        rw [hinsert]
        obtain ⟨hmem, hid⟩ := Table.find_eq_some.mp hv
        have htoken : v.id ∈ s.issued := by rwa [show v.id = token from hid]
        have hvalue := h.issued v hmem htoken
        rw [hvalue, Role.ofText_text] at hrole
        exact .join (Option.some.inj hrole).symm hpermissions

/-- One action keeps the tables sound. -/
theorem TeamRun.Sound.perform (h : s.Sound) (action : TeamAction) :
    (action.perform env s).Sound := by
  obtain ⟨hchange, hissued⟩ := perform_spec env action h
  exact ⟨hchange.noTeamOverride h.overrides, hissued⟩

/-- Every sequence keeps the tables sound. -/
theorem TeamRun.Sound.performAll (h : s.Sound) (actions : List TeamAction) :
    (performAll env s actions).Sound := by
  induction actions generalizing s with
  | nil => exact h
  | cons action rest ih => exact ih (h.perform action)

end Sequences

/-- Whatever team actions are taken by whom, and in whatever order: nobody becomes or is made an
owner or an admin, no member resolves to team management, and only an owner of the workspace changes
or removes an owner or an admin. -/
theorem no_escalation (env : TeamEnv) (db : TeamDb) (hoverrides : NoTeamOverride db.memberships)
    (actions : List TeamAction) (action : TeamAction) :
    let s := performAll env { db } actions
    let t := action.perform env s
    (∀ m ∈ t.db.memberships.rows, m.role ≠ .member →
        ∃ m₀ ∈ s.db.memberships.rows, m₀.id = m.id ∧ m₀.role = m.role) ∧
      (∀ m ∈ s.db.memberships.rows, m.role = .member →
        .manageTeam ∉ resolvePermissions m.role m.permissions) ∧
      ∀ m ∈ s.db.memberships.rows, m.role ≠ .member → m ∉ t.db.memberships.rows →
        ∃ actor ∈ s.db.memberships.rows, action.actorId = some actor.id ∧ actor.role = .owner ∧
          actor.tenantId = m.tenantId := by
  intro s t
  have hstart : ({ db } : TeamRun).Sound := ⟨hoverrides, fun _ _ hmem => by cases hmem⟩
  have hsound : s.Sound := hstart.performAll actions
  obtain ⟨hchange, -⟩ := perform_spec env action hsound
  refine ⟨fun m hm hrole => hchange.rank hm hrole, fun m hm hrole => ?_, fun m hm hrole hgone => ?_⟩
  · exact manageTeam_not_mem hsound.overrides hm hrole
  · exact hchange.ranked hm hrole hgone

/-- An owner and an admin. -/
def ownerAndAdmin : TeamDb where
  memberships := ⟨[{ id := 1, userId := 1, tenantId := 1 },
    { id := 2, userId := 2, tenantId := 1, role := .admin }], by decide⟩
  workspaces := [{ id := 1 }]

/-- The admin invites somebody, who accepts and is given a permission. -/
def joinThird : List TeamAction :=
  [.invite 2 "c@x.co" "MEMBER" 7 true 0, .accept 7 3 "c@x.co" 3 0,
    .setPermissions 2 3 (some ["view_costs", "manage_team"])]

/-- There are three of them then, and the admin's removal is the owner's. -/
theorem no_escalation_ownerAndAdmin :
    let s := performAll .plain { db := ownerAndAdmin } joinThird
    s.db.memberships.rows.length = 3 ∧ ∀ m ∈ s.db.memberships.rows, m.role ≠ .member →
      m ∉ ((TeamAction.remove 1 2).perform .plain s).db.memberships.rows →
        ∃ actor ∈ s.db.memberships.rows, some 1 = some actor.id ∧ actor.role = .owner ∧
          actor.tenantId = m.tenantId :=
  ⟨by decide +kernel, (no_escalation .plain ownerAndAdmin
    (noTeamOverride_of_inherited (by decide)) joinThird (.remove 1 2)).2.2⟩

end Restock.Team
