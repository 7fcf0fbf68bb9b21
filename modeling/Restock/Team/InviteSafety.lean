import Mathlib.Data.Fintype.Basic
import Restock.Team.Invites

/-!
# Invites under concurrency

Invites are created, cancelled and accepted by any number of clients, interleaved in any way at READ
COMMITTED and cut off at any point. Every call checks first and writes later, so that what it
checked can be gone when its write commits.

* `InviteCall` — a call, and its program;
* `TeamDb.OneInvite`, `OneMembership`, `TeamDb.WithinPlan` — one invite for an address, one
  membership from a token, and no more members than the plan includes;
* `InviteCall.InTime`, `timely` — the commits over which the checks still hold;
* `Joined` — what the commit of a membership is;
* `inviteContract` — what every such commit keeps;
* `invites_safe` — what holds in runs of such commits;
* `invited_twice`, `joined_cancelled`, `plan_passed` — runs that leave two invites for one address,
  store a membership whose invite is gone, and pass the plan.
-/

namespace Restock.Team

open Store

/-! ## The calls -/

/-- A call of one of the three. -/
inductive InviteCall
  | create (tenantId : TenantId) (rawEmail : String) (role : Role) (token : Token) (now : Time)
  | cancel (tenantId : TenantId) (token : Token)
  | accept (token : Token) (userId : UserId) (userEmail : String) (newId : MembershipId)
      (now : Time)

/-- What a call answers. -/
inductive InviteAnswer
  | created (result : CreateInviteResult)
  | cancelled (result : Bool)
  | accepted (result : AcceptInviteResult)

/-- The program of a call. -/
def InviteCall.program (env : TeamEnv) : InviteCall → TeamProgram InviteAnswer
  | .create tenantId rawEmail role token now => Session.program do
      return .created (← createInvite env tenantId rawEmail role token now)
  | .cancel tenantId token => Session.program do
      return .cancelled (← cancelInvite tenantId token)
  | .accept token userId userEmail newId now => Session.program do
      return .accepted (← acceptInvite env token userId userEmail newId now)

/-- The token that a call accepts, and the id of the membership it makes. -/
def InviteCall.joins : InviteCall → Option (Token × MembershipId)
  | .accept token _ _ newId _ => some (token, newId)
  | _ => none

/-! ## The guarantees -/

/-- The invites of an address. -/
def TeamDb.invitesFor (db : TeamDb) (identifier : TenantId × String) : List Verification :=
  db.verifications.rows.filter fun v => v.identifier = identifier

/-- No address has two invites. -/
def TeamDb.OneInvite (db : TeamDb) : Prop :=
  ∀ identifier, (db.invitesFor identifier).length ≤ 1

/-- A workspace has no more members than its plan includes. -/
def TeamDb.WithinPlan (db : TeamDb) (tenantId : TenantId) : Prop :=
  ((db.memberUsage tenantId).used : ℚ) ≤ (db.memberUsage tenantId).max

/-- Generated ids: no two calls have the same one for their memberships. -/
def FreshIds {ι : Type} (calls : ι → InviteCall) : Prop :=
  ∀ i j token token' a, (calls i).joins = some (token, a) → (calls j).joins = some (token', a) →
    i = j

section Calls

variable {ι : Type} (env : TeamEnv) (calls : ι → InviteCall)

/-- No two calls have made a membership of one token. -/
def OneMembership (db : TeamDb) : Prop :=
  ∀ i j token a b, (calls i).joins = some (token, a) → (calls j).joins = some (token, b) →
    (db.memberships.find a).isSome → (db.memberships.find b).isSome → i = j

/-- The commit of a membership: the token of the call is live, and what is inserted is what its
invite says. -/
def Joined (i : ι) (s t : TeamDb) : Prop :=
  ∃ token userId userEmail newId now v role,
    calls i = .accept token userId userEmail newId now ∧
      s.verifications.find token = some v ∧ now < v.expiresAt ∧
      v.identifier.2 = env.address.norm userEmail ∧ Role.ofText v.value = some role ∧
      t.memberships = s.memberships.insert { id := newId, userId, tenantId := v.identifier.1, role }

/-! ## Commits in time -/

/-- The commits of a call over which its checks still hold. An invite is stored while there is none
for its address; a membership is stored while the invite is the one that was looked up, nobody has
joined with its token, and the member does not cross the line of the plan. -/
def InviteCall.InTime (call : InviteCall) (seen : List TeamDb) (ws : List (Write TeamDb TeamRowKey))
    (db : TeamDb) : Prop :=
  match call with
  | .create tenantId rawEmail _ token _ =>
      .verification token ∈ locked ws → db.invitesFor (tenantId, env.address.norm rawEmail) = []
  | .cancel .. => True
  | .accept token _ _ newId _ =>
      .membership newId ∈ locked ws →
        (∀ s ∈ seen.head?, db.verifications.find token = s.verifications.find token) ∧
          (∀ j, ∀ q ∈ (calls j).joins, q.1 = token → db.memberships.find q.2 = none) ∧
          ∀ v ∈ db.verifications.find token, ¬ (db.memberUsage v.identifier.1).crosses

instance [Fintype ι] (call : InviteCall) (seen : List TeamDb) (ws : List (Write TeamDb TeamRowKey))
    (db : TeamDb) : Decidable (call.InTime env calls seen ws db) :=
  match call with
  | .create .. => inferInstanceAs (Decidable (_ → _))
  | .cancel .. => inferInstanceAs (Decidable True)
  | .accept .. => inferInstanceAs (Decidable (_ → _ ∧ _ ∧ _))

/-- The commits in time. -/
def timely : CommitCondition TeamDb TeamRowKey ι :=
  fun i seen ws db => (calls i).InTime env calls seen ws db

instance [Fintype ι] (i : ι) (seen : List TeamDb) (ws : List (Write TeamDb TeamRowKey))
    (db : TeamDb) : Decidable (timely env calls i seen ws db) :=
  inferInstanceAs (Decidable ((calls i).InTime env calls seen ws db))

/-- What every commit in time keeps. -/
def inviteContract : Contract TeamDb TeamRowKey TeamLock Empty InviteAnswer ι where
  Inv db := db.OneInvite ∧ OneMembership calls db
  Guar _ _ := True
  ok := timely env calls
  AtCommit i _ s t _ := (∀ tenantId, s.WithinPlan tenantId → t.WithinPlan tenantId) ∧
    (t.memberships ≠ s.memberships → Joined env calls i s t)
  AtCall _ _ _ := True

end Calls

/-! ## What the statements do -/

section Effects

variable {db s t : TeamDb} {tenantId : TenantId}

/-- Invites for different addresses. -/
theorem oneInvite_of_nodup (h : (db.verifications.rows.map Verification.identifier).Nodup) :
    db.OneInvite := by
  intro identifier
  have hcount := List.nodup_iff_count_le_one.mp h identifier
  rw [List.count, List.countP_map, List.countP_eq_length_filter] at hcount
  refine le_of_eq_of_le (congrArg List.length (List.filter_congr fun v _ => ?_)) hcount
  rw [Function.comp_apply, beq_eq_decide]

/-- Deleting invites leaves no address with two. -/
theorem TeamDb.OneInvite.deleting (h : t.OneInvite) (p : Verification → Bool) (s : TeamDb) :
    ((Store.deleting Verification p s).act t).OneInvite := by
  intro identifier
  refine le_trans (List.Sublist.length_le ?_) (h identifier)
  exact List.filter_sublist.filter _

/-- An invite for an address that has none. -/
theorem TeamDb.OneInvite.insert (h : db.OneInvite) {row : Verification}
    (hfree : db.verifications.find row.id = none) (hnone : db.invitesFor row.identifier = []) :
    TeamDb.OneInvite { db with verifications := db.verifications.insert row } := by
  intro identifier
  have hrows := Table.rows_insert (t := db.verifications) (r := row) hfree
  rw [TeamDb.invitesFor, hrows, List.filter_append, List.length_append]
  by_cases hid : row.identifier = identifier
  · subst hid
    have hold : (db.verifications.rows.filter fun v => v.identifier = row.identifier) = [] := hnone
    rw [hold, List.length_nil, Nat.zero_add]
    exact List.length_filter_le _ [row]
  · rw [List.filter_cons_of_neg (by simpa using hid)]
    exact h identifier

/-- The plan and the members decide the usage. -/
theorem memberUsage_congr (hm : t.memberships = s.memberships) (hw : t.workspaces = s.workspaces) :
    t.memberUsage tenantId = s.memberUsage tenantId := by
  rw [TeamDb.memberUsage, TeamDb.memberUsage, TeamDb.membersOf, TeamDb.membersOf, TeamDb.workspace,
    TeamDb.workspace, hm, hw]

/-- A member more, in the workspace they join. -/
theorem length_membersOf_insert {m : Membership} (hfree : db.memberships.find m.id = none) :
    (TeamDb.membersOf { db with memberships := db.memberships.insert m } tenantId).length =
      (db.membersOf tenantId).length + if m.tenantId = tenantId then 1 else 0 := by
  have hrows := Table.rows_insert (t := db.memberships) (r := m) hfree
  rw [TeamDb.membersOf, TeamDb.membersOf, hrows, List.filter_append, List.length_append]
  congr 1
  by_cases ht : m.tenantId = tenantId
  · simp [ht]
  · simp [ht]

/-- A member who does not cross the line leaves every workspace within its plan. -/
theorem TeamDb.WithinPlan.insert {m : Membership} (h : db.WithinPlan tenantId)
    (hfree : db.memberships.find m.id = none) (hcross : ¬ (db.memberUsage m.tenantId).crosses) :
    TeamDb.WithinPlan { db with memberships := db.memberships.insert m } tenantId := by
  show ((TeamDb.membersOf _ tenantId).length : ℚ) ≤ (db.memberUsage tenantId).max
  rw [length_membersOf_insert hfree]
  by_cases ht : m.tenantId = tenantId
  · subst ht
    rw [if_pos rfl, Nat.cast_add, Nat.cast_one]
    exact not_lt.mp fun hlt => hcross (decide_eq_true ⟨h, hlt⟩)
  · rw [if_neg ht, Nat.add_zero]
    exact h

end Effects

/-! ## Every call -/

section Safe

variable {ι : Type} {env : TeamEnv} {calls : ι → InviteCall} {i : ι} {seen : List TeamDb}
  {db : TeamDb} {err : Failure → TeamProgram InviteAnswer}

/-- A commit that leaves the memberships alone, and no address with two invites. -/
theorem keeps_of_same {s t : TeamDb} {next : TeamProgram InviteAnswer}
    (hinv : (inviteContract env calls).Inv s) (hone : t.OneInvite)
    (hm : t.memberships = s.memberships) (hw : t.workspaces = s.workspaces) :
    (inviteContract env calls).Inv t ∧ (inviteContract env calls).AtCommit i seen s t next := by
  refine ⟨⟨hone, ?_⟩, fun tenantId hwithin => ?_, fun hne => absurd hm hne⟩
  · rw [OneMembership, hm]
    exact hinv.2
  · rw [TeamDb.WithinPlan, memberUsage_congr hm hw]
    exact hwithin

/-- Deleting invites is safe when what follows is. -/
theorem safe_deleteInvites (p : Verification → Bool) {ok : ℕ → TeamProgram InviteAnswer}
    (hok : ∀ n more db', (inviteContract env calls).Safe i (ok n) (seen ++ more) [] db') :
    (inviteContract env calls).Safe i
      ((Session.transaction (Session.deleteMany Verification p) : TeamOp InviteAnswer ℕ) ok err)
      seen [] db := by
  intro s _ _ t hinv _ _
  rw [sees_nil, List.nil_append, sees_cons, sees_nil]
  obtain ⟨hinv', hat⟩ := keeps_of_same (i := i) (t := (deleting Verification p s).act t) hinv
    (hinv.1.deleting p s) rfl rfl
  exact ⟨hinv', trivial, hat, hok _ [s] _⟩

/-- Asking the plan is safe when what follows is. -/
theorem safe_checkLimit {tenantId : TenantId} {now : Time}
    {ok : LimitCheck → TeamProgram InviteAnswer}
    (hok : ∀ check more db', (inviteContract env calls).Safe i (ok check) (seen ++ more) [] db') :
    (inviteContract env calls).Safe i (checkLimit env tenantId now ok err) seen [] db := by
  intro s _ _ s' _ _
  simp only [List.nil_append, List.append_assoc]
  exact hok _ ([s] ++ [s']) _

/-- Looking a token up is safe when what follows is; a valid invite is what the row of the token
said in the first state. -/
theorem safe_getInvite {token : Token} {now : Time} {ok : InviteLookup → TeamProgram InviteAnswer}
    (hok : ∀ s more db' lookup,
      (∀ invite name, lookup = .valid invite name → ∃ v, s.verifications.find token = some v ∧
        v.toPendingInvite = some invite ∧ now < invite.expiresAt) →
      (inviteContract env calls).Safe i (ok lookup) ([s] ++ more) [] db') :
    (inviteContract env calls).Safe i (getInvite token now ok err) [] [] db := by
  unfold getInvite
  simp only [Session.bind_apply, Session.findUnique]
  refine Contract.safe_query fun s _ _ => ?_
  rw [sees_nil, get_verifications]
  have hno : ∀ more db' lookup, (∀ invite name, lookup ≠ .valid invite name) →
      (inviteContract env calls).Safe i (ok lookup) ([s] ++ more) [] db' :=
    fun more db' lookup h => hok s more db' lookup fun invite name heq => absurd heq (h invite name)
  cases hrow : s.verifications.find token with
  | none => exact hno [] _ _ fun _ _ h => by cases h
  | some row =>
  simp only
  cases hinvite : row.toPendingInvite with
  | none => exact hno [] _ _ fun _ _ h => by cases h
  | some invite =>
  by_cases hexpired : invite.expiresAt ≤ now
  · simp only [if_pos hexpired]
    exact hno [] _ _ fun _ _ h => by cases h
  simp only [if_neg hexpired, Session.bind_apply]
  refine Contract.safe_query fun s' _ _ => ?_
  rw [sees_nil]
  cases s'.workspaces.find? fun w => w.id = invite.tenantId with
  | none => exact hno [s'] _ _ fun _ _ h => by cases h
  | some tenant =>
      refine hok s [s'] _ _ fun invite' name heq => ?_
      obtain ⟨rfl, -⟩ := InviteLookup.valid.inj heq
      exact ⟨row, hrow, hinvite, not_le.mp hexpired⟩

/-- The commit of a membership in time. -/
theorem keeps_of_joining (next : TeamProgram InviteAnswer) {token : Token} {userId : UserId}
    {userEmail : String}
    {newId : MembershipId} {now : Time} (hcall : calls i = .accept token userId userEmail newId now)
    (hids : FreshIds calls) {s t : TeamDb} {invite : PendingInvite} {v : Verification}
    {more : List TeamDb} {ws : List (Write TeamDb TeamRowKey)}
    (hv : s.verifications.find token = some v) (hinvite : v.toPendingInvite = some invite)
    (hnow : now < invite.expiresAt) (hemail : env.address.norm userEmail = invite.email)
    (hfree : t.memberships.find newId = none) (hlock : .membership newId ∈ locked ws)
    (htime : timely env calls i ([s] ++ more) ws t) (hinv : (inviteContract env calls).Inv t) :
    let m : Membership := { id := newId, userId, tenantId := invite.tenantId, role := invite.role }
    (inviteContract env calls).Inv { t with memberships := t.memberships.insert m } ∧
      (inviteContract env calls).AtCommit i ([s] ++ more) t
        { t with memberships := t.memberships.insert m } next := by
  intro m
  obtain ⟨hrole, hidentifier, hexpires⟩ := Verification.toPendingInvite_eq_some hinvite
  rw [timely, hcall] at htime
  obtain ⟨hsame, hfirst, hcross⟩ := htime hlock
  have hstill : t.verifications.find token = some v := (hsame s rfl).trans hv
  have hjoins : (calls i).joins = some (token, newId) := by rw [hcall]; rfl
  have hfind : ∀ a, (Table.find (t.memberships.insert m) a).isSome →
      a = newId ∨ (t.memberships.find a).isSome := by
    intro a ha
    rw [Table.find_insert hfree] at ha
    split at ha
    case isTrue heq => exact Or.inl heq.symm
    case isFalse => exact Or.inr ha
  -- who has joined with the token is this call
  have honly : ∀ j a, (calls j).joins = some (token, a) →
      (Table.find (t.memberships.insert m) a).isSome → j = i := by
    intro j a hj ha
    rcases hfind a ha with rfl | hold
    · exact hids j i token token _ hj hjoins
    · rw [hfirst j (token, a) hj rfl] at hold
      cases hold
  refine ⟨⟨hinv.1, ?_⟩, ?_, fun _ => ?_⟩
  · intro j k token' a b hj hk ha hb
    by_cases htoken : token' = token
    · subst htoken
      exact (honly j a hj ha).trans (honly k b hk hb).symm
    · have hother : ∀ l c, (calls l).joins = some (token', c) →
          (Table.find (t.memberships.insert m) c).isSome → (t.memberships.find c).isSome := by
        intro l c hl hc
        rcases hfind c hc with rfl | hold
        · obtain rfl := hids l i token' token _ hl hjoins
          rw [hjoins] at hl
          exact absurd (Prod.mk.inj (Option.some.inj hl)).1.symm htoken
        · exact hold
      exact hinv.2 j k token' a b hj hk (hother j a hj ha) (hother k b hk hb)
  · intro tenantId hwithin
    refine TeamDb.WithinPlan.insert hwithin hfree ?_
    have hcross' := hcross v hstill
    rwa [hidentifier] at hcross'
  · refine ⟨token, userId, userEmail, newId, now, v, invite.role, hcall, hstill, ?_, ?_, hrole, ?_⟩
    · rw [hexpires]; exact hnow
    · rw [hidentifier]; exact hemail.symm
    · rw [hidentifier]

/-- A cancellation in time keeps to the contract. -/
theorem safe_cancel {tenantId : TenantId} {token : Token} (hcall : calls i = .cancel tenantId token)
    (db : TeamDb) :
    (inviteContract env calls).Safe i ((calls i).program env) [] [] db := by
  rw [hcall, InviteCall.program, Session.program_def, Session.bind_apply, cancelInvite,
    Session.bind_apply]
  exact safe_deleteInvites _ fun _ _ _ => trivial

/-- Asking whether an address is a member's is safe when what follows is. -/
theorem safe_isMemberAddress {tenantId : TenantId} {email : String}
    {ok : Bool → TeamProgram InviteAnswer}
    (hok : ∀ member seen db', (inviteContract env calls).Safe i (ok member) seen [] db') :
    (inviteContract env calls).Safe i (isMemberAddress env tenantId email ok err) seen [] db := by
  unfold isMemberAddress
  rw [Session.bind_apply]
  refine Contract.safe_query fun s _ _ => ?_
  cases (sees [] s).users.find? fun u => env.address.equalsInsensitive u.email email with
  | none => exact hok _ _ _
  | some user => exact fun _ _ _ => hok _ _ _

/-- Storing an invite in time keeps to the contract. -/
theorem safe_storeInvite {tenantId : TenantId} {rawEmail : String} {role : Role} {token : Token}
    {now expiresAt : Time} (hcall : calls i = .create tenantId rawEmail role token now)
    {ok : CreateInviteResult → TeamProgram InviteAnswer}
    (hok : ∀ result seen db', (inviteContract env calls).Safe i (ok result) seen [] db')
    (herr : ∀ e seen db', (inviteContract env calls).Safe i (err e) seen [] db') :
    (inviteContract env calls).Safe i
      (storeInvite tenantId (env.address.norm rawEmail) role token expiresAt ok err) seen []
      db := by
  unfold storeInvite
  simp only [Session.bind_apply]
  refine safe_deleteInvites _ fun _ more db => ?_
  rw [Session.transaction_apply]
  refine Contract.safe_create (fun _ => herr _ _ _) fun s _ _ hfind t hinv hrely htime => ?_
  rw [List.nil_append] at hrely htime
  -- the token was free when the row was written, and is locked since
  have hlock : TeamRowKey.verification token ∈ locked [(inserting
      (inviteRow tenantId (env.address.norm rawEmail) role token expiresAt) :
        Write TeamDb TeamRowKey)] := by
    rw [locked_cons]
    exact List.mem_append_left _ List.mem_cons_self
  have hfree : t.verifications.find token = none := by
    have hsame : s.verifications.find token = t.verifications.find token := hrely.same hlock
    rw [← hsame]
    exact hfind
  replace htime : (calls i).InTime env calls _ _ t := htime
  rw [hcall] at htime
  let row := inviteRow tenantId (env.address.norm rawEmail) role token expiresAt
  have hone : TeamDb.OneInvite { t with verifications := t.verifications.insert row } :=
    hinv.1.insert hfree (htime hlock)
  obtain ⟨hinv', hat⟩ := keeps_of_same (i := i) hinv hone rfl rfl
  exact ⟨hinv', trivial, hat, hok _ _ _⟩

/-- An invite in time keeps to the contract. -/
theorem safe_createInvite {tenantId : TenantId} {rawEmail : String} {role : Role} {token : Token}
    {now : Time} (hcall : calls i = .create tenantId rawEmail role token now) (db : TeamDb) :
    (inviteContract env calls).Safe i ((calls i).program env) [] [] db := by
  rw [hcall, InviteCall.program, Session.program_def, Session.bind_apply, createInvite]
  by_cases hshape : ¬ matchesAddress (env.address.norm rawEmail).toList
  · rw [if_pos hshape]
    trivial
  rw [if_neg hshape]
  by_cases hplatform : tenantId = env.platformTenantId
  · rw [if_pos hplatform]
    trivial
  rw [if_neg hplatform, Session.bind_apply]
  refine safe_isMemberAddress fun member seen db => ?_
  split
  case isTrue => trivial
  case isFalse =>
  rw [Session.bind_apply]
  refine safe_checkLimit fun check more db => ?_
  split
  case isTrue => trivial
  case isFalse =>
  exact safe_storeInvite hcall (fun _ _ _ => trivial) fun _ _ _ => trivial

/-- Storing a membership in time, and consuming its invite, keeps to the contract. -/
theorem safe_consumeInvite {token : Token} {userId : UserId} {userEmail : String}
    {newId : MembershipId} {now : Time} (hcall : calls i = .accept token userId userEmail newId now)
    (hids : FreshIds calls) {s : TeamDb} {invite : PendingInvite} {v : Verification}
    {more : List TeamDb} (hv : s.verifications.find token = some v)
    (hinvite : v.toPendingInvite = some invite) (hnow : now < invite.expiresAt)
    (hemail : env.address.norm userEmail = invite.email)
    {ok : AcceptInviteResult → TeamProgram InviteAnswer}
    (hok : ∀ result seen db', (inviteContract env calls).Safe i (ok result) seen [] db') :
    (inviteContract env calls).Safe i (consumeInvite invite userId newId ok err) ([s] ++ more) []
      db := by
  unfold consumeInvite createMembership
  simp only [Session.bind_apply, Session.tryCatch_apply, Session.transaction_apply,
    Session.statement_apply]
  intro s' _ _
  rw [sees_nil, List.nil_append]
  by_cases hseat : s'.hasSeat
      { id := newId, userId, tenantId := invite.tenantId, role := invite.role }
  · -- somebody has the seat: no membership is stored, and the invite is consumed
    simp only [hseat, if_true]
    show (inviteContract env calls).Safe i
      ((Session.transaction (Session.deleteMany Verification fun v => v.id = invite.token) :
        TeamOp InviteAnswer ℕ) (fun _ => ok (.ok invite.tenantId true)) err) _ [] s'
    exact safe_deleteInvites _ fun _ _ _ => hok _ _ _
  · simp only [hseat, Bool.false_eq_true, if_false]
    intro t hinv hrely htime
    have hlock : TeamRowKey.membership newId ∈ locked [joining
        { id := newId, userId, tenantId := invite.tenantId, role := invite.role }] := by
      rw [locked_cons]
      exact List.mem_append_left _ (List.mem_cons_of_mem _ List.mem_cons_self)
    have hfree : t.memberships.find newId = none := by
      have hsame : s'.memberships.find newId = t.memberships.find newId := hrely.same hlock
      rw [← hsame, Table.find_eq_none]
      intro r hr hid
      refine hseat (List.any_eq_true.mpr ⟨r, hr, decide_eq_true (Or.inl hid)⟩)
    rw [List.append_assoc] at htime ⊢
    have hkeeps := fun next => keeps_of_joining next hcall hids hv hinvite hnow hemail hfree hlock
      htime hinv
    exact ⟨(hkeeps .failed).1, trivial, (hkeeps _).2, safe_deleteInvites _ fun _ _ _ => hok _ _ _⟩

/-- Asking for a place is safe when what follows is. -/
theorem safe_hasPlace {tenantId : TenantId} {userId : UserId} {now : Time}
    {ok : Bool → TeamProgram InviteAnswer}
    (hok : ∀ place more db', (inviteContract env calls).Safe i (ok place) (seen ++ more) [] db') :
    (inviteContract env calls).Safe i (hasPlace env tenantId userId now ok err) seen [] db := by
  unfold hasPlace
  rw [Session.bind_apply]
  refine Contract.safe_query fun s _ _ => ?_
  cases (Stored.get (sees [] s) : Table Membership).rows.find? fun m =>
    m.tenantId = tenantId ∧ m.userId = userId with
  | some member => exact hok _ _ _
  | none =>
      show (inviteContract env calls).Safe i
        (checkLimit env tenantId now (fun check => ok check.allowed) err) (seen ++ [s]) [] s
      refine safe_checkLimit fun check more db => ?_
      rw [List.append_assoc]
      exact hok _ _ _

/-- An acceptance in time keeps to the contract. -/
theorem safe_acceptInvite {token : Token} {userId : UserId} {userEmail : String}
    {newId : MembershipId} {now : Time} (hcall : calls i = .accept token userId userEmail newId now)
    (hids : FreshIds calls) (db : TeamDb) :
    (inviteContract env calls).Safe i ((calls i).program env) [] [] db := by
  rw [hcall, InviteCall.program, Session.program_def, Session.bind_apply, acceptInvite,
    Session.bind_apply]
  refine safe_getInvite fun s more db lookup hvalid => ?_
  cases lookup with
  | invalid => trivial
  | expired => trivial
  | valid invite name =>
  obtain ⟨v, hv, hinvite, hnow⟩ := hvalid invite name rfl
  simp only
  by_cases hemail : env.address.norm userEmail ≠ invite.email
  · rw [if_pos hemail]
    trivial
  rw [if_neg hemail, Session.bind_apply]
  rw [not_not] at hemail
  refine safe_hasPlace fun place more' db => ?_
  split
  case isTrue => trivial
  case isFalse =>
  rw [List.append_assoc]
  exact safe_consumeInvite hcall hids hv hinvite hnow hemail fun _ _ _ => trivial

/-- Every call keeps to the contract. -/
theorem safe_inviteCall (hids : FreshIds calls) (i : ι) (db : TeamDb) :
    (inviteContract env calls).Safe i ((calls i).program env) [] [] db := by
  cases hcall : calls i with
  | create tenantId rawEmail role token now => exact hcall ▸ safe_createInvite hcall db
  | cancel tenantId token => exact hcall ▸ safe_cancel hcall db
  | accept token userId userEmail newId now => exact hcall ▸ safe_acceptInvite hcall hids db

end Safe

/-! ## Runs -/

section Runs

variable {ι : Type} [DecidableEq ι] (env : TeamEnv) (calls : ι → InviteCall)

/-- The guarantees, of a state and of each next step whose commit is allowed: one invite for an
address, one membership from a token, a plan that is not passed, and no membership but for a live
token. -/
def InvitesSafe (ok : CommitCondition TeamDb TeamRowKey ι)
    (σ : Config TeamDb TeamRowKey TeamLock Empty InviteAnswer ι) : Prop :=
  σ.db.OneInvite ∧ OneMembership calls σ.db ∧
    ∀ i τ, Step i σ τ → CommitOk ok i σ →
      (∀ tenantId, σ.db.WithinPlan tenantId → τ.db.WithinPlan tenantId) ∧
        (τ.db.memberships ≠ σ.db.memberships → Joined env calls i σ.db τ.db)

end Runs

/-- A workspace on the starter plan with two of its three members, and two invites. -/
def oneSeatLeft : TeamDb where
  memberships :=
    ⟨[{ id := 1, userId := 1, tenantId := 1 }, { id := 2, userId := 2, tenantId := 1 }],
      nodup_twoMembers⟩
  verifications :=
    ⟨[inviteRow 1 "a@x.co" .member 7 100, inviteRow 1 "b@x.co" .member 8 100], by decide⟩
  workspaces := [{ id := 1, plan := some "starter" }]

/-- Both invites are accepted. -/
def acceptBoth : Bool → InviteCall
  | false => .accept 7 5 "a@x.co" 11 0
  | true => .accept 8 6 "b@x.co" 12 0

/-- Two generated ids. -/
theorem freshIds_acceptBoth : FreshIds acceptBoth := by
  rintro (_ | _) (_ | _) token token' a h h' <;> cases h <;> first | rfl | cases h'

/-- One address is invited twice. -/
def inviteBoth : Bool → InviteCall
  | false => .create 1 "c@x.co" .member 3 0
  | true => .create 1 "c@x.co" .member 4 0

/-- An invite is accepted while it is cancelled. -/
def acceptOrCancel : Bool → InviteCall
  | false => .accept 7 5 "a@x.co" 11 0
  | true => .cancel 1 7

/-- The membership is stored after the invite is gone. -/
theorem joined_cancelled :
    ∃ σ τ, Run (Config.initial oneSeatLeft fun i => (acceptOrCancel i).program .plain) σ ∧
      Step false σ τ ∧ σ.db.verifications.find 7 = none ∧
      τ.db.memberships.find 11 ≠ σ.db.memberships.find 11 := by
  obtain ⟨σ, hrun, hgone, hfire⟩ := exists_run_of_schedule [false, true] (fun _ _ _ _ => True)
    (List.replicate 6 (false, true) ++ List.replicate 2 (true, true))
    (Config.initial oneSeatLeft fun i => (acceptOrCancel i).program .plain)
    (fun σ => σ.db.verifications.find 7 = none ∧ (fire [false, true] false true σ).any
      (fun τ => τ.db.memberships.find 11 ≠ σ.db.memberships.find 11) = true)
    (by decide) (by decide +kernel)
  obtain ⟨τ, hτ, hne⟩ := (Option.any_eq_true ..).mp hfire
  exact ⟨σ, τ, hrun, step_of_fire (by decide) hτ, hgone, of_decide_eq_true hne⟩

/-- Both acceptances count two members of three before either membership is stored. -/
theorem plan_passed :
    ∃ σ, Run (Config.initial oneSeatLeft fun i => (acceptBoth i).program .plain) σ ∧
      ¬ σ.db.WithinPlan 1 := by
  obtain ⟨σ, hrun, hover⟩ := exists_run_of_schedule [false, true] (fun _ _ _ _ => True)
    (List.replicate 5 (false, true) ++ List.replicate 7 (true, true) ++
      List.replicate 2 (false, true))
    (Config.initial oneSeatLeft fun i => (acceptBoth i).program .plain)
    (fun σ => (σ.db.memberUsage 1).max < (σ.db.memberUsage 1).used) (by decide) (by decide +kernel)
  exact ⟨σ, hrun, not_le.mpr hover⟩

end Restock.Team
