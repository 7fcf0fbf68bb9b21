import Mathlib.Algebra.Order.Field.Rat
import Restock.Json.Text
import Restock.Shop.Schema

/-!
# The connection to the books

`packages/quickbooks/src/connection.ts`: a workspace's grant from the accounting service. A refresh
token can be used once: the answer to a refresh brings the next one, and a call that has it still
has to store it. Between any two statements of a call other calls may go on, and a call may end
anywhere.

* `readTokens`, `activePhase`, `saveConnection`, `recordAuthFailure` — what the calls compute and
  write;
* `Link.step` — the next step of `activeAccessToken`, of the reconciliation that uses its token, of
  an install or of `disconnect`, or one of the service's own;
* `Link.Sound` — the token that the service honours is stored, about to be, or lost; the stored
  tokens are of the stored company; a connection is paused only when its grant is dead or past its
  life;
* `Link.undisturbed` — no token is refreshed a second time, and a call writes to the row as it read
  it;
* `sound_of_undisturbed` — runs of such steps are sound;
* `disconnected_stays` — a connection that was given up stays so until an install.
-/

namespace Restock.Books

open Json (Text text)

/-! ## Tokens -/

/-- A token of the accounting service: the grant that it is for, and the answer it came in. -/
structure Token where
  grant : ℕ
  serial : ℕ
  deriving DecidableEq, Repr

/-- `TokenResponse`: its fields, as far as they are tokens and numbers. -/
structure TokenResponse where
  access_token : Option Token
  refresh_token : Option Token
  expires_in : Option ℚ
  x_refresh_token_expires_in : Option ℚ
  deriving DecidableEq, Repr

/-- `QuickBooksTokens`. -/
structure QuickBooksTokens where
  accessToken : Token
  refreshToken : Token
  accessTokenExpiresAt : Time
  refreshTokenExpiresAt : Time
  scopes : String
  deriving DecidableEq, Repr

/-- What is asked for: accounting only. -/
def ACCOUNTING_SCOPE : String := "com.intuit.quickbooks.accounting"

/-- The documented life of a refresh token, where an answer states none. -/
def REFRESH_TOKEN_FALLBACK_SECONDS : ℚ := (100 * 24 * 60 * 60 : ℕ)

/-- The same of an access token. -/
def ACCESS_TOKEN_FALLBACK_SECONDS : ℚ := (60 * 60 : ℕ)

/-- A lifetime, in seconds. -/
def seconds (value : Option ℚ) (fallback : ℚ) : ℚ :=
  match value with
  | some n => if 0 < n then n else fallback
  | none => fallback

/-- The instant some seconds from now, in whole milliseconds. -/
def secondsFrom (now : Time) (s : ℚ) : Time :=
  now + s.num * 1000 / s.den

/-- `readTokens`: an answer has both tokens. -/
def readTokens (body : TokenResponse) (scopes : String) (now : Time) :
    Except Text QuickBooksTokens :=
  match body.access_token, body.refresh_token with
  | some accessToken, some refreshToken => .ok {
      accessToken
      refreshToken
      accessTokenExpiresAt :=
        secondsFrom now (seconds body.expires_in ACCESS_TOKEN_FALLBACK_SECONDS)
      refreshTokenExpiresAt :=
        secondsFrom now (seconds body.x_refresh_token_expires_in REFRESH_TOKEN_FALLBACK_SECONDS)
      scopes }
  | _, _ => .error (text "Intuit returned a token response with no tokens in it")

/-! ## The row -/

/-- `QuickBooksConnection`, of one workspace. -/
structure QuickBooksConnection where
  realmId : String
  accessToken : Token
  refreshToken : Token
  accessTokenExpiresAt : Time
  refreshTokenExpiresAt : Time
  scopes : String
  connectedAt : Time
  /-- Nothing while it is live. -/
  disconnectedAt : Option Time := none
  authFailureCount : ℕ := 0
  syncPausedAt : Option Time := none
  lastAuthErrorAt : Option Time := none
  lastAuthError : Option Text := none
  deriving DecidableEq, Repr

/-- `saveConnection`: a reconnect clears whatever went wrong last time. -/
def saveConnection (now : Time) (realmId : String) (tokens : QuickBooksTokens)
    (row : Option QuickBooksConnection) : QuickBooksConnection where
  realmId
  accessToken := tokens.accessToken
  refreshToken := tokens.refreshToken
  accessTokenExpiresAt := tokens.accessTokenExpiresAt
  refreshTokenExpiresAt := tokens.refreshTokenExpiresAt
  scopes := tokens.scopes
  connectedAt := (row.map QuickBooksConnection.connectedAt).getD now

/-- `recordAuthFailure`: only a dead grant pauses. -/
def recordAuthFailure (now : Time) (message : Text) (unrecoverable : Bool)
    (row : QuickBooksConnection) : QuickBooksConnection :=
  { row with
    authFailureCount := row.authFailureCount + 1
    lastAuthErrorAt := some now
    lastAuthError := some (message.take 500)
    syncPausedAt := if unrecoverable then some now else row.syncPausedAt }

/-- The write after a refresh: both tokens of its answer, together. -/
def storeTokens (tokens : QuickBooksTokens) (row : QuickBooksConnection) : QuickBooksConnection :=
  { row with
    accessToken := tokens.accessToken
    refreshToken := tokens.refreshToken
    accessTokenExpiresAt := tokens.accessTokenExpiresAt
    refreshTokenExpiresAt := tokens.refreshTokenExpiresAt
    authFailureCount := 0
    lastAuthErrorAt := none
    lastAuthError := none }

/-- The write of `disconnect`. -/
def markDisconnected (now : Time) (row : QuickBooksConnection) : QuickBooksConnection :=
  { row with disconnectedAt := some now, syncPausedAt := some now }

/-- `ActiveToken`. -/
structure ActiveToken where
  accessToken : Token
  realmId : String
  deriving DecidableEq, Repr

/-! ## Calls -/

/-- What a call does next. -/
inductive Phase
  | start
  /-- `activeAccessToken` asks for new tokens. -/
  | refreshing (refreshToken : Token) (realmId : String) (now : Time)
  /-- It stores those that it got for a token. -/
  | storing (tried : Token) (realmId : String) (tokens : QuickBooksTokens)
  /-- A failure of a token is recorded. -/
  | failing (tried : Token) (message : Text) (unrecoverable : Bool)
  /-- It has returned. -/
  | answered (token : Option ActiveToken)
  /-- `saveConnection`, after an exchange. -/
  | saving (realmId : String) (tokens : QuickBooksTokens)
  | saved
  /-- `disconnect` hands the grant back. -/
  | revoking (refreshToken : Token)
  | disconnecting (revoked : Bool)
  /-- It has returned. -/
  | disconnected (revoked : Bool)
  /-- It ended before it was through. -/
  | ended
  deriving DecidableEq, Repr

/-- New tokens that a call has still to write. -/
def Phase.held : Phase → Option Token
  | .storing _ _ tokens => some tokens.refreshToken
  | .saving _ tokens => some tokens.refreshToken
  | _ => none

/-- A token that a call has read, tried or returned. -/
def Phase.known : Phase → Option Token
  | .refreshing refreshToken _ _ => some refreshToken
  | .failing tried _ _ => some tried
  | .answered (some token) => some token.accessToken
  | _ => none

/-- The call is to use, or has been given, a token of the connection. -/
def Phase.usesToken : Phase → Bool
  | .refreshing _ _ _ => true
  | .storing _ _ _ => true
  | .failing _ _ _ => true
  | .answered (some _) => true
  | _ => false

/-- A minute's headroom. -/
def SKEW_MS : ℤ := 60000

/-- What `activeAccessToken` does once it has read the row. -/
def activePhase (row : Option QuickBooksConnection) (now : Time) : Phase :=
  match row with
  | none => .answered none
  | some row =>
      if row.disconnectedAt.isSome || row.syncPausedAt.isSome then .answered none
      else if now < row.accessTokenExpiresAt - SKEW_MS then
        .answered (some ⟨row.accessToken, row.realmId⟩)
      else if row.refreshTokenExpiresAt ≤ now then
        .failing row.refreshToken (text "refresh token expired") true
      else .refreshing row.refreshToken row.realmId now

/-- What becomes of a request for tokens. -/
inductive Answer
  /-- It is carried out, and its answer arrives, with both tokens or without one. -/
  | arrived (complete : Bool) (expires_in x_refresh_token_expires_in : Option ℚ)
  /-- It is carried out, and its answer is lost. -/
  | lost (message : Text)
  /-- It fails on its way, or the service does; nothing is carried out. -/
  | failed (message : Text)
  deriving DecidableEq, Repr

/-- The body of an answer with the tokens of a response. -/
def tokenResponse (new : Token) (complete : Bool) (expires_in x_refresh : Option ℚ) :
    TokenResponse where
  access_token := some new
  refresh_token := if complete then some new else none
  expires_in
  x_refresh_token_expires_in := x_refresh

/-- What a refresh leads to when it is carried out: new tokens to store, or a failure that may be
tried again. -/
def refreshed (tried new : Token) (realmId : String) (now : Time) : Answer → Phase
  | .arrived complete expires_in x_refresh =>
      match readTokens (tokenResponse new complete expires_in x_refresh) ACCOUNTING_SCOPE now with
      | .ok tokens => .storing tried realmId tokens
      | .error message => .failing tried message false
  | .lost message => .failing tried message false
  | .failed message => .failing tried message false

/-! ## Calls at once -/

/-- A grant, as the service keeps it. -/
structure Grant where
  /-- The company. -/
  realmId : String := ""
  /-- The answer that its present refresh token came in. -/
  serial : ℕ := 0
  alive : Bool := false
  deriving DecidableEq, Repr

/-- The connection of a workspace, its grants, and all calls. -/
structure Link where
  row : Option QuickBooksConnection := none
  now : Time
  grants : ℕ → Grant := fun _ => {}
  /-- How many grants there have been. -/
  granted : ℕ := 0
  calls : ℕ → Phase := fun _ => .start
  /-- The new tokens that nobody has. -/
  lost : List Token := []

/-- What happens next. -/
inductive LinkStep
  /-- Time passes. -/
  | wait (ms : ℕ)
  /-- The owner takes a grant back, at the service. -/
  | revokedUpstream (grant : ℕ)
  /-- `activeAccessToken` reads the row. -/
  | read (i : ℕ)
  | refresh (i : ℕ) (answer : Answer)
  | store (i : ℕ)
  | record (i : ℕ)
  /-- The service refuses the token of the reconciliation. -/
  | refuse (i : ℕ) (message : Text)
  /-- The owner consents, for a company, and the code is exchanged. -/
  | consent (i : ℕ) (realmId : String) (expires_in x_refresh_token_expires_in : Option ℚ)
  | save (i : ℕ)
  /-- `disconnect` reads the row. -/
  | disconnectRead (i : ℕ)
  | revoke (i : ℕ) (reached : Bool)
  | disconnectWrite (i : ℕ)
  /-- The process of a call ends. -/
  | stop (i : ℕ)
  deriving DecidableEq, Repr

namespace Link

/-- The call `i` goes on. -/
def set (s : Link) (i : ℕ) (p : Phase) : Link :=
  { s with calls := Function.update s.calls i p }

/-- The service honours the token. -/
def honours (s : Link) (t : Token) : Bool :=
  (s.grants t.grant).alive && (s.grants t.grant).serial = t.serial

/-- The grant is taken back. -/
def kill (s : Link) (g : ℕ) : Link :=
  { s with grants := Function.update s.grants g { s.grants g with alive := false } }

/-- A refresh is carried out: the grant has its next token. -/
def advance (s : Link) (g : ℕ) : Link :=
  { s with grants :=
      Function.update s.grants g { s.grants g with serial := (s.grants g).serial + 1 } }

/-- New tokens that the call does not get, or loses. -/
def lose (s : Link) (t : Option Token) : Link :=
  { s with lost := s.lost ++ t.toList }

/-- A step. -/
def step (s : Link) : LinkStep → Link
  | .wait ms => { s with now := s.now + ms }
  | .revokedUpstream g => s.kill g
  | .read i =>
      match s.calls i with
      | .start => s.set i (activePhase s.row s.now)
      | _ => s
  | .refresh i answer =>
      match s.calls i with
      | .refreshing tried realmId now =>
          match answer with
          | .failed message => s.set i (.failing tried message false)
          | answer =>
              if s.honours tried then
                let new : Token := ⟨tried.grant, tried.serial + 1⟩
                let phase := refreshed tried new realmId now answer
                let s' := (s.advance tried.grant).set i phase
                if phase.held = some new then s' else s'.lose (some new)
              else s.set i (.failing tried (text "QuickBooks token request failed (400)") true)
      | _ => s
  | .store i =>
      match s.calls i with
      | .storing _ realmId tokens =>
          { s with row := s.row.map (storeTokens tokens) }.set i
            (.answered (some ⟨tokens.accessToken, realmId⟩))
      | _ => s
  | .record i =>
      match s.calls i with
      | .failing _ message unrecoverable =>
          { s with row := s.row.map (recordAuthFailure s.now message unrecoverable) }.set i
            (.answered none)
      | _ => s
  | .refuse i message =>
      match s.calls i with
      | .answered (some token) => s.set i (.failing token.accessToken message true)
      | _ => s
  | .consent i realmId expires_in x_refresh =>
      match s.calls i with
      | .start =>
          let new : Token := ⟨s.granted, 1⟩
          let body := tokenResponse new true expires_in x_refresh
          match readTokens body ACCOUNTING_SCOPE s.now with
          | .ok tokens =>
              { s with
                grants := Function.update s.grants s.granted ⟨realmId, 1, true⟩
                granted := s.granted + 1 }.set i (.saving realmId tokens)
          | .error _ => s.set i .ended
      | _ => s
  | .save i =>
      match s.calls i with
      | .saving realmId tokens =>
          { s with row := some (saveConnection s.now realmId tokens s.row) }.set i .saved
      | _ => s
  | .disconnectRead i =>
      match s.calls i with
      | .start =>
          s.set i (match s.row with
            | some row => .revoking row.refreshToken
            | none => .disconnected false)
      | _ => s
  | .revoke i reached =>
      match s.calls i with
      | .revoking token =>
          if reached && s.honours token then (s.kill token.grant).set i (.disconnecting true)
          else s.set i (.disconnecting false)
      | _ => s
  | .disconnectWrite i =>
      match s.calls i with
      | .disconnecting revoked =>
          { s with row := s.row.map (markDisconnected s.now) }.set i (.disconnected revoked)
      | _ => s
  | .stop i => (s.lose (s.calls i).held).set i .ended

/-- A run. -/
def run (s : Link) (steps : List LinkStep) : Link :=
  steps.foldl step s

/-- The token that the service honours is in the row, unless a call has still to write it or it was
lost; the tokens of the row, and every token that is returned, are of the company they come with;
and a connection is paused only when its grant is dead, or when the life of its refresh token is
over. -/
structure Sound (s : Link) : Prop where
  paired : ∀ row, s.row = some row → row.accessToken = row.refreshToken ∧
    row.realmId = (s.grants row.refreshToken.grant).realmId
  current : ∀ row, s.row = some row → (s.grants row.refreshToken.grant).alive →
    s.honours row.refreshToken ∨
      ∃ t, t.grant = row.refreshToken.grant ∧ s.honours t ∧
        ((∃ i, (s.calls i).held = some t) ∨ t ∈ s.lost)
  paused : ∀ row, s.row = some row → row.disconnectedAt = none → ∀ t, row.syncPausedAt = some t →
    (s.grants row.refreshToken.grant).alive = false ∨ row.refreshTokenExpiresAt ≤ t
  returned : ∀ i token, s.calls i = .answered (some token) →
    token.realmId = (s.grants token.accessToken.grant).realmId

/-- The row still has the token that a call has read, and nobody else has paused it. -/
def asRead (s : Link) (t : Token) : Bool :=
  s.row.all fun row =>
    row.refreshToken = t && (row.syncPausedAt.isNone || row.disconnectedAt.isSome)

/-- A call refreshes a token that no other has refreshed, stores new tokens and records a failure
over the row as it read it; and the service refuses only tokens of dead grants. -/
def undisturbed (s : Link) : LinkStep → Bool
  | .refresh i _ =>
      match s.calls i with
      | .refreshing tried _ _ => s.honours tried || !(s.grants tried.grant).alive
      | _ => true
  | .store i =>
      match s.calls i with
      | .storing tried _ _ => s.asRead tried
      | _ => true
  | .record i =>
      match s.calls i with
      | .failing tried _ _ => s.asRead tried
      | _ => true
  | .refuse i _ =>
      match s.calls i with
      | .answered (some token) => !(s.grants token.accessToken.grant).alive
      | _ => true
  | _ => true

/-- A run of undisturbed steps. -/
def UndisturbedRun : Link → List LinkStep → Prop
  | _, [] => True
  | s, e :: steps => s.undisturbed e ∧ (s.step e).UndisturbedRun steps

instance decidableUndisturbedRun :
    (s : Link) → (steps : List LinkStep) → Decidable (s.UndisturbedRun steps)
  | _, [] => .isTrue trivial
  | s, e :: steps =>
      have := decidableUndisturbedRun (s.step e) steps
      inferInstanceAs (Decidable (_ ∧ _))

/-! ## What is kept -/

/-- A token of the row, or of a call. -/
def Has (s : Link) (t : Token) : Prop :=
  (∃ row, s.row = some row ∧ row.refreshToken = t) ∨
    ∃ i, (s.calls i).known = some t ∨ (s.calls i).held = some t

/-- What holds of a call where it is. -/
def PhaseOk (s : Link) : Phase → Prop
  | .refreshing refreshToken realmId _ =>
      s.row.isSome ∧ realmId = (s.grants refreshToken.grant).realmId
  | .storing tried realmId tokens =>
      s.row.isSome ∧ tokens.accessToken = tokens.refreshToken ∧
        tokens.refreshToken.grant = tried.grant ∧ realmId = (s.grants tried.grant).realmId
  | .saving realmId tokens =>
      tokens.accessToken = tokens.refreshToken ∧
        realmId = (s.grants tokens.refreshToken.grant).realmId
  | .failing tried _ unrecoverable =>
      unrecoverable → (s.grants tried.grant).alive = false ∨
        ∀ row, s.row = some row → row.refreshToken = tried → row.refreshTokenExpiresAt ≤ s.now
  | .answered (some token) => token.realmId = (s.grants token.accessToken.grant).realmId
  | _ => True

/-- What undisturbed steps keep, beside what is claimed of every state: tokens are of answers that
there were; a call that holds new tokens holds the latest of their grant, which are not in the row,
and which no other call knows or holds. -/
structure Kept (s : Link) : Prop extends s.Sound where
  issued : ∀ t, s.Has t → t.grant < s.granted ∧ t.serial ≤ (s.grants t.grant).serial
  latest : ∀ i t, (s.calls i).held = some t → (s.grants t.grant).serial = t.serial
  unstored : ∀ i t, (s.calls i).held = some t → ∀ row, s.row = some row → row.refreshToken ≠ t
  unknown : ∀ i t, (s.calls i).held = some t → ∀ j, (s.calls j).known ≠ some t
  alone : ∀ i t, (s.calls i).held = some t → ∀ j, (s.calls j).held = some t → j = i
  phases : ∀ i, s.PhaseOk (s.calls i)

section Calls

variable {s : Link} {i : ℕ} {p : Phase}

@[simp] theorem calls_set_self : (s.set i p).calls i = p := Function.update_self ..

theorem calls_set_of_ne {j : ℕ} (h : j ≠ i) : (s.set i p).calls j = s.calls j :=
  Function.update_of_ne h ..

/-- A property that all calls have and the one that goes on keeps. -/
theorem forall_calls_set {q : ℕ → Phase → Prop} (h : ∀ j, q j (s.calls j)) (hp : q i p) (j : ℕ) :
    q j ((s.set i p).calls j) := by
  by_cases hj : j = i
  · rw [hj, calls_set_self]
    exact hp
  · rw [calls_set_of_ne hj]
    exact h j

/-- What holds of a call holds still, on a later state of its grants and with the row that has its
token no younger. -/
theorem PhaseOk.mono {s' : Link} (h : s.PhaseOk p) (hnow : s.now ≤ s'.now)
    (hsome : s.row.isSome → s'.row.isSome)
    (hgrants : ∀ t, p.known = some t ∨ p.held = some t →
      (s'.grants t.grant).realmId = (s.grants t.grant).realmId ∧
        ((s'.grants t.grant).alive → (s.grants t.grant).alive))
    (hrow : ∀ t, p.known = some t → ∀ row', s'.row = some row' → row'.refreshToken = t →
      ∃ row, s.row = some row ∧ row.refreshToken = t ∧
        row'.refreshTokenExpiresAt = row.refreshTokenExpiresAt) :
    s'.PhaseOk p := by
  match p, h with
  | .refreshing refreshToken _ _, h =>
    exact ⟨hsome h.1, h.2.trans (hgrants refreshToken (.inl rfl)).1.symm⟩
  | .storing tried _ tokens, h =>
    obtain ⟨hrow, hpair, hgrant, hrealm⟩ := h
    refine ⟨hsome hrow, hpair, hgrant, hrealm.trans ?_⟩
    rw [← hgrant]
    exact (hgrants tokens.refreshToken (.inr rfl)).1.symm
  | .saving _ tokens, h => exact ⟨h.1, h.2.trans (hgrants tokens.refreshToken (.inr rfl)).1.symm⟩
  | .failing tried _ _, h =>
    intro hdead
    rcases h hdead with hdead | hlife
    · refine .inl (Bool.eq_false_iff.mpr fun halive => ?_)
      exact Bool.eq_false_iff.mp hdead ((hgrants tried (.inl rfl)).2 halive)
    · refine .inr fun row' hrow' htried => ?_
      obtain ⟨row, hrow, htried, hlife'⟩ := hrow tried rfl row' hrow' htried
      rw [hlife']
      exact Int.le_trans (hlife row hrow htried) hnow
  | .answered (some token), h => exact h.trans (hgrants token.accessToken (.inl rfl)).1.symm
  | .answered none, _ => exact trivial
  | .start, _ => exact trivial
  | .saved, _ => exact trivial
  | .revoking _, _ => exact trivial
  | .disconnecting _, _ => exact trivial
  | .disconnected _, _ => exact trivial
  | .ended, _ => exact trivial

theorem Has.row {row : QuickBooksConnection} (h : s.row = some row) : s.Has row.refreshToken :=
  .inl ⟨row, h, rfl⟩

theorem Has.known {t : Token} (h : (s.calls i).known = some t) : s.Has t := .inr ⟨i, .inl h⟩

theorem Has.held {t : Token} (h : (s.calls i).held = some t) : s.Has t := .inr ⟨i, .inr h⟩

/-- What a call knows or holds is one of the tokens there are. -/
theorem has_of_phase {t : Token} (h : (s.calls i).known = some t ∨ (s.calls i).held = some t) :
    s.Has t := .inr ⟨i, h⟩

theorem honours_iff {t : Token} : s.honours t = true ↔
    (s.grants t.grant).alive = true ∧ (s.grants t.grant).serial = t.serial := by
  simp [honours]

/-- A call goes on with tokens that it had, or that are in the row; new ones that it drops are
lost. -/
theorem Kept.goOn (h : s.Kept) (hheld : p.held = none)
    (hknown : ∀ t, p.known = some t →
      (s.calls i).known = some t ∨ ∃ row, s.row = some row ∧ row.refreshToken = t)
    (hp : s.PhaseOk p) : ((s.lose (s.calls i).held).set i p).Kept where
  paired := h.paired
  current row hrow halive := by
    rcases h.current row hrow halive with hcur | ⟨t, hgrant, hcur, hwhere⟩
    · exact .inl hcur
    · refine .inr ⟨t, hgrant, hcur, ?_⟩
      rcases hwhere with ⟨j, hj⟩ | hlost
      · by_cases hji : j = i
        · subst hji
          exact .inr (List.mem_append_right _ (by simp [hj]))
        · exact .inl ⟨j, (congrArg Phase.held (calls_set_of_ne hji)).trans hj⟩
      · exact .inr (List.mem_append_left _ hlost)
  paused := h.paused
  returned := forall_calls_set
    (q := fun _ b => ∀ token, b = .answered (some token) →
      token.realmId = (s.grants token.accessToken.grant).realmId) h.returned
    fun token htoken => by
      subst htoken
      exact hp
  issued t ht := by
    refine h.issued t ?_
    rcases ht with hrow | ⟨j, hj⟩
    · exact .inl hrow
    · by_cases hji : j = i
      · subst hji
        rw [calls_set_self, hheld] at hj
        rcases hj with hj | hj
        · rcases hknown t hj with hk | hrow
          · exact .known hk
          · exact .inl hrow
        · cases hj
      · rw [calls_set_of_ne hji] at hj
        exact has_of_phase hj
  latest := forall_calls_set
    (q := fun _ b => ∀ t, b.held = some t → (s.grants t.grant).serial = t.serial) h.latest
    fun t ht => by cases hheld.symm.trans ht
  unstored := forall_calls_set
    (q := fun _ b => ∀ t, b.held = some t → ∀ row, s.row = some row → row.refreshToken ≠ t)
    h.unstored fun t ht => by cases hheld.symm.trans ht
  unknown := forall_calls_set
    (q := fun _ b => ∀ t, b.held = some t →
      ∀ j, (((s.lose (s.calls i).held).set i p).calls j).known ≠ some t)
    (fun k t hk => forall_calls_set (q := fun _ b => b.known ≠ some t) (h.unknown k t hk)
      fun ht => by
        rcases hknown t ht with hi | ⟨row, hrow, hrowt⟩
        · exact h.unknown k t hk i hi
        · exact h.unstored k t hk row hrow hrowt)
    fun t ht => by cases hheld.symm.trans ht
  alone := forall_calls_set
    (q := fun k b => ∀ t, b.held = some t →
      ∀ j, (((s.lose (s.calls i).held).set i p).calls j).held = some t → j = k)
    (fun k t hk => forall_calls_set (q := fun j b => b.held = some t → j = k) (h.alone k t hk)
      fun ht => by cases hheld.symm.trans ht)
    fun t ht => by cases hheld.symm.trans ht
  phases := forall_calls_set (q := fun _ b => s.PhaseOk b) h.phases hp

/-- The same of a call that has no new tokens. -/
theorem Kept.move (h : s.Kept) (hnone : (s.calls i).held = none) (hheld : p.held = none)
    (hknown : ∀ t, p.known = some t →
      (s.calls i).known = some t ∨ ∃ row, s.row = some row ∧ row.refreshToken = t)
    (hp : s.PhaseOk p) : (s.set i p).Kept := by
  have hkept := h.goOn (i := i) hheld hknown hp
  rwa [hnone, show s.lose none = s by simp [lose]] at hkept

/-- The same of a call that has no token left. -/
theorem Kept.rest (h : s.Kept) (hnone : (s.calls i).held = none) (hheld : p.held = none)
    (hknown : p.known = none) (hp : s.PhaseOk p) : (s.set i p).Kept :=
  h.move hnone hheld (fun _ ht => by cases hknown.symm.trans ht) hp

/-- Time passes, grants are given and taken back. -/
theorem Kept.service (h : s.Kept) {now : Time} {grants : ℕ → Grant} {granted : ℕ}
    (hnow : s.now ≤ now) (hgranted : s.granted ≤ granted)
    (hgrants : ∀ g < s.granted, (grants g).realmId = (s.grants g).realmId ∧
      (grants g).serial = (s.grants g).serial ∧ ((grants g).alive → (s.grants g).alive)) :
    ({ s with now, grants, granted } : Link).Kept where
  paired row hrow := by
    obtain ⟨hpair, hrealm⟩ := h.paired row hrow
    exact ⟨hpair, hrealm.trans (hgrants _ (h.issued _ (.row hrow)).1).1.symm⟩
  current row hrow halive := by
    obtain ⟨-, hserial, hwas⟩ := hgrants _ (h.issued _ (.row hrow)).1
    have hstill : ∀ t : Token, t.grant = row.refreshToken.grant → s.honours t →
        ({ s with now, grants, granted } : Link).honours t := by
      intro t ht hcur
      rw [honours_iff] at hcur ⊢
      rw [ht] at hcur ⊢
      exact ⟨halive, hserial.trans hcur.2⟩
    rcases h.current row hrow (hwas halive) with hcur | ⟨t, hgrant, hcur, hwhere⟩
    · exact .inl (hstill _ rfl hcur)
    · exact .inr ⟨t, hgrant, hstill t hgrant hcur, hwhere⟩
  paused row hrow hlive t ht := by
    rcases h.paused row hrow hlive t ht with hdead | hlife
    · refine .inl (Bool.eq_false_iff.mpr fun halive => Bool.eq_false_iff.mp hdead ?_)
      exact (hgrants _ (h.issued _ (.row hrow)).1).2.2 halive
    · exact .inr hlife
  returned i token htoken := by
    have hhas : s.Has token.accessToken := .known (i := i) (by rw [htoken]; rfl)
    exact (h.returned i token htoken).trans (hgrants _ (h.issued _ hhas).1).1.symm
  issued t ht := by
    obtain ⟨hlt, hle⟩ := h.issued t ht
    exact ⟨Nat.lt_of_lt_of_le hlt hgranted, (hgrants _ hlt).2.1 ▸ hle⟩
  latest i t ht := (hgrants _ (h.issued t (.held ht)).1).2.1.trans (h.latest i t ht)
  unstored := h.unstored
  unknown := h.unknown
  alone := h.alone
  phases i := (h.phases i).mono hnow id
    (fun t ht => by
      obtain ⟨hrealm, -, halive⟩ := hgrants _ (h.issued t (has_of_phase ht)).1
      exact ⟨hrealm, halive⟩)
    fun _ _ row' hrow' htoken => ⟨row', hrow', htoken, rfl⟩

/-- A grant is taken back. -/
theorem Kept.kill (h : s.Kept) (g : ℕ) : (s.kill g).Kept := by
  refine h.service (Int.le_refl _) (Nat.le_refl _) fun g' _ => ?_
  by_cases hg : g' = g
  · subst hg
    simp
  · simp [hg]

/-- The row is marked, and stays the row of its tokens. -/
theorem Kept.mark (h : s.Kept) {f : QuickBooksConnection → QuickBooksConnection}
    (hf : ∀ row, (f row).realmId = row.realmId ∧ (f row).accessToken = row.accessToken ∧
      (f row).refreshToken = row.refreshToken ∧
      (f row).refreshTokenExpiresAt = row.refreshTokenExpiresAt)
    (hpaused : ∀ row, s.row = some row → (f row).disconnectedAt = none →
      ∀ t, (f row).syncPausedAt = some t →
        (s.grants row.refreshToken.grant).alive = false ∨ row.refreshTokenExpiresAt ≤ t) :
    ({ s with row := s.row.map f } : Link).Kept where
  paired row' hrow' := by
    obtain ⟨row, hrow, rfl⟩ := Option.map_eq_some_iff.mp hrow'
    obtain ⟨hrealm, haccess, hrefresh, -⟩ := hf row
    rw [hrealm, haccess, hrefresh]
    exact h.paired row hrow
  current row' hrow' := by
    obtain ⟨row, hrow, rfl⟩ := Option.map_eq_some_iff.mp hrow'
    rw [(hf row).2.2.1]
    exact h.current row hrow
  paused row' hrow' hlive t ht := by
    obtain ⟨row, hrow, rfl⟩ := Option.map_eq_some_iff.mp hrow'
    rw [(hf row).2.2.1, (hf row).2.2.2]
    exact hpaused row hrow hlive t ht
  returned := h.returned
  issued t ht := by
    refine h.issued t ?_
    rcases ht with ⟨row', hrow', hrefresh⟩ | hcall
    · obtain ⟨row, hrow, rfl⟩ := Option.map_eq_some_iff.mp hrow'
      exact .inl ⟨row, hrow, (hf row).2.2.1 ▸ hrefresh⟩
    · exact .inr hcall
  latest := h.latest
  unstored i t ht row' hrow' := by
    obtain ⟨row, hrow, rfl⟩ := Option.map_eq_some_iff.mp hrow'
    rw [(hf row).2.2.1]
    exact h.unstored i t ht row hrow
  unknown := h.unknown
  alone := h.alone
  phases i := (h.phases i).mono (Int.le_refl _) Option.isSome_map.trans (fun _ _ => ⟨rfl, id⟩)
    fun t _ row' hrow' ht => by
      obtain ⟨row, hrow, rfl⟩ := Option.map_eq_some_iff.mp hrow'
      exact ⟨row, hrow, (hf row).2.2.1 ▸ ht, (hf row).2.2.2⟩

/-- A call writes the new tokens that it holds. -/
theorem Kept.write (h : s.Kept) {new : Token} {row' : QuickBooksConnection}
    (hi : (s.calls i).held = some new) (hrefresh : row'.refreshToken = new)
    (haccess : row'.accessToken = new) (hrealm : row'.realmId = (s.grants new.grant).realmId)
    (hpaused : row'.disconnectedAt = none → ∀ t, row'.syncPausedAt = some t →
      (s.grants new.grant).alive = false ∨ row'.refreshTokenExpiresAt ≤ t)
    (hheld : p.held = none) (hknown : ∀ t, p.known = some t → t = new)
    (hp : ∀ token, p = .answered (some token) →
      token.realmId = (s.grants token.accessToken.grant).realmId)
    (hok : ({ s with row := some row' } : Link).PhaseOk p) :
    (({ s with row := some row' } : Link).set i p).Kept where
  paired row hrow := by
    obtain rfl := Option.some.inj hrow
    rw [hrefresh, haccess]
    exact ⟨rfl, hrealm⟩
  current row hrow halive := by
    obtain rfl := Option.some.inj hrow
    refine .inl (honours_iff.mpr ⟨halive, ?_⟩)
    rw [hrefresh]
    exact h.latest i new hi
  paused row hrow hlive t ht := by
    obtain rfl := Option.some.inj hrow
    rw [hrefresh]
    exact hpaused hlive t ht
  returned := forall_calls_set
    (q := fun _ b => ∀ token, b = .answered (some token) →
      token.realmId = (s.grants token.accessToken.grant).realmId) h.returned hp
  issued t ht := by
    rcases ht with ⟨row, hrow, hrowt⟩ | ⟨j, hj⟩
    · obtain rfl := Option.some.inj hrow
      rw [← hrowt, hrefresh]
      exact h.issued new (.held hi)
    · by_cases hji : j = i
      · subst hji
        rw [calls_set_self, hheld] at hj
        rcases hj with hj | hj
        · rw [hknown t hj]
          exact h.issued new (.held hi)
        · cases hj
      · rw [calls_set_of_ne hji] at hj
        exact h.issued t (has_of_phase hj)
  latest := forall_calls_set
    (q := fun _ b => ∀ t, b.held = some t → (s.grants t.grant).serial = t.serial) h.latest
    fun t ht => by cases hheld.symm.trans ht
  unstored j t ht row hrow := by
    obtain rfl := Option.some.inj hrow
    by_cases hji : j = i
    · subst hji
      rw [calls_set_self, hheld] at ht
      cases ht
    · rw [calls_set_of_ne hji] at ht
      rw [hrefresh]
      rintro rfl
      exact hji (h.alone i new hi j ht)
  unknown j t ht k := by
    by_cases hji : j = i
    · subst hji
      rw [calls_set_self, hheld] at ht
      cases ht
    · rw [calls_set_of_ne hji] at ht
      refine forall_calls_set (s := { s with row := some row' }) (q := fun _ b => b.known ≠ some t)
        (h.unknown j t ht) (fun hk => hji ?_) k
      exact h.alone i new hi j (hknown t hk ▸ ht)
  alone j t ht k hk := by
    by_cases hji : j = i
    · subst hji
      rw [calls_set_self, hheld] at ht
      cases ht
    · rw [calls_set_of_ne hji] at ht
      by_cases hki : k = i
      · subst hki
        rw [calls_set_self, hheld] at hk
        cases hk
      · rw [calls_set_of_ne hki] at hk
        exact h.alone j t ht k hk
  phases := forall_calls_set (s := { s with row := some row' })
    (q := fun _ b => ({ s with row := some row' } : Link).PhaseOk b)
    (fun j => (h.phases j).mono (Int.le_refl _) (fun _ => rfl) (fun _ _ => ⟨rfl, id⟩)
      fun t ht row hrow hrowt => by
        -- nobody knows the new tokens yet
        obtain rfl := Option.some.inj hrow
        rw [hrefresh] at hrowt
        exact absurd (hrowt ▸ ht) (h.unknown i new hi j)) hok

/-- The service issues a new token. The call has it, or it is lost. -/
theorem Kept.obtain (h : s.Kept) (new : Token) {grants : ℕ → Grant} (granted : ℕ)
    (lost : List Token) (hi : (s.calls i).held = none) (hfresh : ¬ s.Has new)
    (hother : ∀ j t, (s.calls j).held = some t → t.grant ≠ new.grant)
    (hgranted : s.granted ≤ granted)
    (hgrants : ∀ t, s.Has t → (grants t.grant).realmId = (s.grants t.grant).realmId ∧
      (grants t.grant).alive = (s.grants t.grant).alive ∧ t.serial ≤ (grants t.grant).serial)
    (hsame : ∀ g, g ≠ new.grant → (grants g).serial = (s.grants g).serial)
    (hnew : new.grant < granted ∧ (grants new.grant).serial = new.serial)
    (hlost : ∀ t ∈ s.lost, t ∈ lost)
    (hp : p.held = some new ∨ p.held = none ∧ new ∈ lost)
    (hknown : ∀ t, p.known = some t → (s.calls i).known = some t)
    (hreturned : ∀ token, p ≠ .answered (some token))
    (hok : ({ s with grants } : Link).PhaseOk p) :
    (({ s with grants, granted, lost } : Link).set i p).Kept := by
  have hheld : ∀ t, p.held = some t → t = new := by
    intro t ht
    rcases hp with hp | ⟨hp, -⟩
    · exact Option.some.inj (ht.symm.trans hp)
    · cases hp.symm.trans ht
  set s' : Link := { s with grants, granted, lost } with hs'
  exact {
    paired := fun row hrow => by
      obtain ⟨hpair, hrealm⟩ := h.paired row hrow
      exact ⟨hpair, hrealm.trans (hgrants _ (.row hrow)).1.symm⟩
    current := fun row hrow halive => by
      by_cases hgrant : row.refreshToken.grant = new.grant
      · refine .inr ⟨new, hgrant.symm, honours_iff.mpr ⟨hgrant ▸ halive, hnew.2⟩, ?_⟩
        rcases hp with hp | ⟨-, hp⟩
        · exact .inl ⟨i, (congrArg Phase.held calls_set_self).trans hp⟩
        · exact .inr hp
      · have hstill : ∀ t : Token, t.grant = row.refreshToken.grant → s.honours t →
            s'.honours t := by
          intro t ht hcur
          rw [honours_iff] at hcur ⊢
          rw [ht] at hcur ⊢
          exact ⟨halive, (hsame _ hgrant).trans hcur.2⟩
        rcases h.current row hrow ((hgrants _ (.row hrow)).2.1.symm.trans halive) with
          hcur | ⟨t, ht, hcur, hwhere⟩
        · exact .inl (hstill _ rfl hcur)
        · refine .inr ⟨t, ht, hstill t ht hcur, ?_⟩
          rcases hwhere with ⟨j, hj⟩ | hmem
          · refine .inl ⟨j, (congrArg Phase.held (calls_set_of_ne ?_)).trans hj⟩
            rintro rfl
            cases hi.symm.trans hj
          · exact .inr (hlost t hmem)
    paused := fun row hrow hlive t ht =>
      (h.paused row hrow hlive t ht).imp_left (hgrants _ (.row hrow)).2.1.trans
    returned := forall_calls_set (s := s')
      (q := fun _ b => ∀ token, b = .answered (some token) →
        token.realmId = (grants token.accessToken.grant).realmId)
      (fun j token htoken => (h.returned j token htoken).trans
        (hgrants _ (.known (i := j) (by rw [htoken]; rfl))).1.symm)
      fun token htoken => absurd htoken (hreturned token)
    issued := fun t ht => by
      have hstill : s.Has t → t.grant < granted ∧ t.serial ≤ (grants t.grant).serial := fun ht =>
        ⟨Nat.lt_of_lt_of_le (h.issued t ht).1 hgranted, (hgrants t ht).2.2⟩
      rcases ht with hrow | ⟨j, hj⟩
      · exact hstill (.inl hrow)
      · by_cases hji : j = i
        · subst hji
          rw [calls_set_self] at hj
          rcases hj with hj | hj
          · exact hstill (.known (hknown t hj))
          · rw [hheld t hj]
            exact ⟨hnew.1, Nat.le_of_eq hnew.2.symm⟩
        · rw [calls_set_of_ne hji] at hj
          exact hstill (has_of_phase hj)
    latest := forall_calls_set (s := s')
      (q := fun _ b => ∀ t, b.held = some t → (grants t.grant).serial = t.serial)
      (fun j t ht => (hsame _ (hother j t ht)).trans (h.latest j t ht))
      fun t ht => hheld t ht ▸ hnew.2
    unstored := forall_calls_set (s := s')
      (q := fun _ b => ∀ t, b.held = some t → ∀ row, s.row = some row → row.refreshToken ≠ t)
      h.unstored fun t ht row hrow hrowt => hfresh (hheld t ht ▸ hrowt ▸ .row hrow)
    unknown := forall_calls_set (s := s')
      (q := fun _ b => ∀ t, b.held = some t → ∀ j, ((s'.set i p).calls j).known ≠ some t)
      (fun k t hk => forall_calls_set (s := s') (q := fun _ b => b.known ≠ some t)
        (h.unknown k t hk) fun ht => h.unknown k t hk i (hknown t ht))
      fun t ht => forall_calls_set (s := s') (q := fun _ b => b.known ≠ some t)
        (fun j hj => hfresh (hheld t ht ▸ .known hj))
        fun hk => hfresh (hheld t ht ▸ .known (hknown t hk))
    alone := forall_calls_set (s := s')
      (q := fun k b => ∀ t, b.held = some t →
        ∀ j, ((s'.set i p).calls j).held = some t → j = k)
      (fun k t hk => forall_calls_set (s := s') (q := fun j b => b.held = some t → j = k)
        (h.alone k t hk) fun ht => absurd (hheld t ht ▸ .held hk) hfresh)
      fun t ht => forall_calls_set (s := s') (q := fun j b => b.held = some t → j = i)
        (fun j hj => absurd (hheld t ht ▸ .held hj) hfresh) fun _ => rfl
    phases := forall_calls_set (s := s') (q := fun _ b => s'.PhaseOk b)
      (fun j => (h.phases j).mono (Int.le_refl _) id
        (fun t ht => by
          obtain ⟨hrealm, halive, -⟩ := hgrants t (has_of_phase ht)
          exact ⟨hrealm, halive.le⟩)
        fun _ _ row hrow ht => ⟨row, hrow, ht, rfl⟩) hok }

/-! ## Steps -/

/-- A call that reads the row knows its token, and fails when its life is over. -/
theorem Kept.read (h : s.Kept) : (s.step (.read i)).Kept := by
  simp only [step]
  split
  · next hstart =>
    have hphase : (activePhase s.row s.now).held = none ∧
        (∀ t, (activePhase s.row s.now).known = some t →
          ∃ row, s.row = some row ∧ row.refreshToken = t) ∧
        s.PhaseOk (activePhase s.row s.now) := by
      unfold activePhase
      split
      · exact ⟨rfl, fun _ ht => (Option.some_ne_none _ ht.symm).elim, trivial⟩
      · next row hrow =>
        obtain ⟨hpair, hrealm⟩ := h.paired row hrow
        split_ifs with hdead hfresh hlife
        · exact ⟨rfl, fun _ ht => (Option.some_ne_none _ ht.symm).elim, trivial⟩
        · exact ⟨rfl, fun t ht => ⟨row, hrow, hpair ▸ Option.some.inj ht⟩, hpair ▸ hrealm⟩
        · refine ⟨rfl, fun t ht => ⟨row, hrow, Option.some.inj ht⟩, fun _ => .inr ?_⟩
          intro row' hrow' _
          obtain rfl := Option.some.inj (hrow.symm.trans hrow')
          exact hlife
        · exact ⟨rfl, fun t ht => ⟨row, hrow, Option.some.inj ht⟩,
            (congrArg Option.isSome hrow).trans rfl, hrealm⟩
    exact h.move (by rw [hstart]; rfl) hphase.1 (fun t ht => .inr (hphase.2.1 t ht)) hphase.2.2
  · exact h

/-- What a refresh that is carried out leads to. -/
theorem refreshed_spec (tried new : Token) (realmId : String) (now : Time) (answer : Answer) :
    (∃ tokens, refreshed tried new realmId now answer = .storing tried realmId tokens ∧
        tokens.accessToken = new ∧ tokens.refreshToken = new) ∨
      ∃ message, refreshed tried new realmId now answer = .failing tried message false := by
  cases answer with
  | arrived complete expires_in x_refresh =>
    cases complete with
    | true => exact .inl ⟨_, rfl, rfl, rfl⟩
    | false => exact .inr ⟨_, rfl⟩
  | lost message => exact .inr ⟨_, rfl⟩
  | failed message => exact .inr ⟨_, rfl⟩

theorem advance_of_ne {g g' : ℕ} (h : g' ≠ g) : (s.advance g).grants g' = s.grants g' :=
  Function.update_of_ne h ..

theorem advance_self (g : ℕ) :
    (s.advance g).grants g = { s.grants g with serial := (s.grants g).serial + 1 } :=
  Function.update_self ..

/-- A refresh that is carried out, of the token that a call knows. -/
theorem Kept.advance (h : s.Kept) {tried : Token} {lost : List Token}
    (hi : (s.calls i).known = some tried) (hi' : (s.calls i).held = none)
    (hcur : s.honours tried) (hlost : ∀ t ∈ s.lost, t ∈ lost)
    (hp : p.held = some ⟨tried.grant, tried.serial + 1⟩ ∨
      p.held = none ∧ ⟨tried.grant, tried.serial + 1⟩ ∈ lost)
    (hknown : ∀ t, p.known = some t → t = tried)
    (hreturned : ∀ token, p ≠ .answered (some token))
    (hok : (s.advance tried.grant).PhaseOk p) :
    (({ s.advance tried.grant with lost } : Link).set i p).Kept := by
  obtain ⟨halive, hserial⟩ := honours_iff.mp hcur
  have htried := h.issued tried (.known hi)
  refine h.obtain ⟨tried.grant, tried.serial + 1⟩ s.granted lost hi' ?_ ?_
    (Nat.le_refl _) ?_ (fun g hg => congrArg Grant.serial (advance_of_ne hg)) ⟨htried.1, ?_⟩ hlost
    hp (fun t ht => hknown t ht ▸ hi) hreturned hok
  · -- the new token is newer than all there are
    intro hhas
    exact Nat.not_succ_le_self _ (hserial ▸ (h.issued _ hhas).2)
  · -- its grant has no other new token that has still to be written
    intro j t ht hgrant
    have hlatest : (s.grants t.grant).serial = t.serial := h.latest j t ht
    have hgrant : t.grant = tried.grant := hgrant
    have heq : tried = t := by
      cases t
      cases tried
      simp_all
    exact h.unknown j t ht i (hi.trans (congrArg some heq))
  · intro t ht
    by_cases hgrant : t.grant = tried.grant
    · rw [hgrant, advance_self]
      exact ⟨rfl, rfl, Nat.le_succ_of_le (hgrant ▸ (h.issued t ht).2)⟩
    · rw [advance_of_ne hgrant]
      exact ⟨rfl, rfl, (h.issued t ht).2⟩
  · show ((s.advance tried.grant).grants tried.grant).serial = tried.serial + 1
    rw [advance_self, ← hserial]

/-- A call refreshes a token that no other has refreshed. -/
theorem Kept.refresh (h : s.Kept) {answer : Answer}
    (hstep : s.undisturbed (.refresh i answer) = true) : (s.step (.refresh i answer)).Kept := by
  simp only [step]
  split
  · next tried realmId now hphase =>
    have hknown : (s.calls i).known = some tried := by rw [hphase]; rfl
    have hheld : (s.calls i).held = none := by rw [hphase]; rfl
    obtain ⟨hrow, hrealm⟩ :
        s.row.isSome = true ∧ realmId = (s.grants tried.grant).realmId := by
      have hok := h.phases i
      rwa [hphase] at hok
    split
    · exact h.move hheld rfl (fun t ht => .inl (hknown.trans ht)) fun hdead => by cases hdead
    · split
      · next hcur =>
        rcases refreshed_spec tried ⟨tried.grant, tried.serial + 1⟩ realmId now answer with
          ⟨tokens, hrefreshed, haccess, hrefresh⟩ | ⟨message, hrefreshed⟩
        · rw [hrefreshed, if_pos (by exact congrArg some hrefresh)]
          refine h.advance hknown hheld hcur (fun _ => id) (.inl (congrArg some hrefresh))
            (fun _ ht => (Option.some_ne_none _ ht.symm).elim) (fun _ => Phase.noConfusion)
            ⟨hrow, haccess.trans hrefresh.symm, by rw [hrefresh], hrealm.trans ?_⟩
          rw [advance_self]
        · rw [hrefreshed, if_neg (by exact (Option.some_ne_none _).symm)]
          exact h.advance hknown hheld hcur (fun _ => List.mem_append_left _)
            (.inr ⟨rfl, List.mem_append_right _ (List.mem_singleton_self _)⟩)
            (fun t ht => (Option.some.inj ht).symm) (fun _ => Phase.noConfusion)
            fun hdead => by cases hdead
      · next hcur =>
        have hdead : (s.grants tried.grant).alive = false := by
          simpa [undisturbed, hphase, hcur] using hstep
        exact h.move hheld rfl (fun t ht => .inl (hknown.trans ht)) fun _ => .inl hdead
  · exact h

/-- A call stores new tokens over those that it tried. -/
theorem Kept.store (h : s.Kept) (hstep : s.undisturbed (.store i) = true) :
    (s.step (.store i)).Kept := by
  simp only [step]
  split
  · next tried realmId tokens hphase =>
    have hheld : (s.calls i).held = some tokens.refreshToken := by rw [hphase]; rfl
    obtain ⟨hsome, hpair, hgrant, hrealm⟩ : s.row.isSome = true ∧
        tokens.accessToken = tokens.refreshToken ∧ tokens.refreshToken.grant = tried.grant ∧
          realmId = (s.grants tried.grant).realmId := by
      have hok := h.phases i
      rwa [hphase] at hok
    have hreturn : realmId = (s.grants tokens.accessToken.grant).realmId := by
      rw [hpair, hgrant]
      exact hrealm
    obtain ⟨row, hrow⟩ := Option.isSome_iff_exists.mp hsome
    rw [hrow]
    have hread : row.refreshToken = tried ∧ (row.syncPausedAt = none ∨
        row.disconnectedAt.isSome = true) := by
      simpa [undisturbed, hphase, asRead, hrow] using hstep
    refine h.write hheld rfl hpair ?_ ?_ rfl (fun t ht => ?_) ?_ hreturn
    · rw [hgrant, ← hread.1]
      exact (h.paired row hrow).2
    · intro hlive t ht
      rcases hread.2 with hnone | hsome
      · cases hnone.symm.trans ht
      · rw [show row.disconnectedAt = none from hlive] at hsome
        cases hsome
    · exact (Option.some.inj ht).symm.trans hpair
    · intro token htoken
      obtain rfl := Option.some.inj (Phase.answered.inj htoken)
      exact hreturn
  · exact h

/-- A call records that its token failed while the row has that token: only one of a dead grant, or
past its life, pauses. -/
theorem Kept.record (h : s.Kept) (hstep : s.undisturbed (.record i) = true) :
    (s.step (.record i)).Kept := by
  simp only [step]
  split
  · next tried message unrecoverable hphase =>
    have hmark : ({ s with
        row := s.row.map (recordAuthFailure s.now message unrecoverable) } : Link).Kept := by
      refine h.mark (fun _ => ⟨rfl, rfl, rfl, rfl⟩) fun row hrow hlive t ht => ?_
      cases unrecoverable with
      | false => exact h.paused row hrow hlive t ht
      | true =>
        obtain rfl := Option.some.inj ht
        have hok := h.phases i
        rw [hphase] at hok
        obtain ⟨hread, -⟩ : row.refreshToken = tried ∧ (row.syncPausedAt = none ∨
            row.disconnectedAt.isSome = true) := by
          simpa [undisturbed, hphase, asRead, hrow] using hstep
        rw [hread]
        exact (hok rfl).imp_right fun hlife => hlife row hrow hread
    exact hmark.rest (i := i) (by show (s.calls i).held = none; rw [hphase]; rfl) rfl rfl trivial
  · exact h

/-- The service refuses a token of a dead grant. -/
theorem Kept.refuse (h : s.Kept) {message : Text}
    (hstep : s.undisturbed (.refuse i message) = true) : (s.step (.refuse i message)).Kept := by
  simp only [step]
  split
  · next token hphase =>
    refine h.move (by rw [hphase]; rfl) rfl (fun t ht => .inl ?_) fun _ => .inl ?_
    · rw [hphase]
      exact ht
    · simpa [undisturbed, hphase] using hstep
  · exact h

/-- An owner consents: the grant is new. -/
theorem Kept.consent (h : s.Kept) {realmId : String} {expires_in x_refresh : Option ℚ} :
    (s.step (.consent i realmId expires_in x_refresh)).Kept := by
  simp only [step]
  split
  · next hphase =>
    have hold : ∀ t, s.Has t → t.grant ≠ s.granted := fun t ht =>
      Nat.ne_of_lt (h.issued t ht).1
    refine h.obtain ⟨s.granted, 1⟩ (s.granted + 1) s.lost (by rw [hphase]; rfl)
      (fun hhas => hold _ hhas rfl) (fun j t ht => hold t (.held ht)) (Nat.le_succ _)
      (fun t ht => ?_) (fun g hg => congrArg Grant.serial (Function.update_of_ne hg ..))
      ⟨Nat.lt_succ_self _, by rw [Function.update_self]⟩ (fun _ => id) (.inl rfl)
      (fun _ ht => (Option.some_ne_none _ ht.symm).elim) (fun _ => Phase.noConfusion) ⟨rfl, ?_⟩
    · rw [Function.update_of_ne (hold t ht)]
      exact ⟨rfl, rfl, (h.issued t ht).2⟩
    · show realmId = (Function.update s.grants s.granted _ s.granted).realmId
      rw [Function.update_self]
  · exact h

/-- An install writes a whole row. -/
theorem Kept.save (h : s.Kept) : (s.step (.save i)).Kept := by
  simp only [step]
  split
  · next realmId tokens hphase =>
    obtain ⟨hpair, hrealm⟩ : tokens.accessToken = tokens.refreshToken ∧
        realmId = (s.grants tokens.refreshToken.grant).realmId := by
      have hok := h.phases i
      rwa [hphase] at hok
    exact h.write (by rw [hphase]; rfl) rfl hpair hrealm
      (fun _ _ ht => (Option.some_ne_none _ ht.symm).elim) rfl
      (fun _ ht => (Option.some_ne_none _ ht.symm).elim) (fun _ => Phase.noConfusion) trivial
  · exact h

/-- `disconnect` hands the grant back, and marks the row whatever comes of it. -/
theorem Kept.disconnect (h : s.Kept) (reached : Bool) :
    (s.step (.disconnectRead i)).Kept ∧ (s.step (.revoke i reached)).Kept ∧
      (s.step (.disconnectWrite i)).Kept := by
  refine ⟨?_, ?_, ?_⟩
  · simp only [step]
    split
    · next hphase =>
      have hheld : (s.calls i).held = none := by rw [hphase]; rfl
      split <;> exact h.rest hheld rfl rfl trivial
    · exact h
  · simp only [step]
    split
    · next token hphase =>
      have hheld : (s.calls i).held = none := by rw [hphase]; rfl
      split
      · exact (h.kill token.grant).rest hheld rfl rfl trivial
      · exact h.rest hheld rfl rfl trivial
    · exact h
  · simp only [step]
    split
    · next revoked hphase =>
      refine (h.mark (f := markDisconnected s.now) (fun _ => ⟨rfl, rfl, rfl, rfl⟩)
        fun row _ hlive => (Option.some_ne_none _ hlive).elim).rest (i := i) ?_ rfl rfl trivial
      show (s.calls i).held = none
      rw [hphase]
      rfl
    · exact h

/-- An undisturbed step keeps it all. -/
theorem Kept.step (h : s.Kept) {e : LinkStep} (hstep : s.undisturbed e = true) :
    (s.step e).Kept := by
  match e with
  | .wait ms =>
    exact h.service (Int.le_add_of_nonneg_right (Int.natCast_nonneg ms)) (Nat.le_refl _)
      fun _ _ => ⟨rfl, rfl, id⟩
  | .revokedUpstream g => exact h.kill g
  | .read i => exact h.read
  | .refresh i answer => exact h.refresh hstep
  | .store i => exact h.store hstep
  | .record i => exact h.record hstep
  | .refuse i message => exact h.refuse hstep
  | .consent i realmId expires_in x_refresh => exact h.consent
  | .save i => exact h.save
  | .disconnectRead i => exact (h.disconnect true).1
  | .revoke i reached => exact (h.disconnect reached).2.1
  | .disconnectWrite i => exact (h.disconnect true).2.2
  | .stop i => exact h.goOn rfl (fun _ ht => (Option.some_ne_none _ ht.symm).elim) trivial

/-- An undisturbed run keeps it all. -/
theorem Kept.run (h : s.Kept) {steps : List LinkStep} (hrun : s.UndisturbedRun steps) :
    (s.run steps).Kept := by
  induction steps generalizing s with
  | nil => exact h
  | cons e steps ih => exact ih (h.step hrun.1) hrun.2

/-- A workspace that has never been connected. -/
theorem Kept.start (now : Time) : ({ now } : Link).Kept where
  paired _ hrow := (Option.some_ne_none _ hrow.symm).elim
  current _ hrow := (Option.some_ne_none _ hrow.symm).elim
  paused _ hrow := (Option.some_ne_none _ hrow.symm).elim
  returned _ _ h := Phase.noConfusion h
  issued := by
    rintro t (⟨_, hrow, _⟩ | ⟨_, h | h⟩)
    · cases hrow
    · cases h
    · cases h
  latest _ _ h := (Option.some_ne_none _ h.symm).elim
  unstored _ _ h := (Option.some_ne_none _ h.symm).elim
  unknown _ _ h := (Option.some_ne_none _ h.symm).elim
  alone _ _ h := (Option.some_ne_none _ h.symm).elim
  phases _ := trivial

end Calls

/-! ## A sound connection -/

/-- **A sound connection.** From a workspace that was never connected, in every run of any number of
calls in which no token is refreshed that another call has refreshed, and every write meets the row
as its call read it: the token that the service honours is stored, about to be stored, or was lost;
stored and returned tokens are of the company that they come with; and a connection is paused only
for a dead grant or a refresh token past its life. -/
theorem sound_of_undisturbed (now : Time) (steps : List LinkStep)
    (h : ({ now } : Link).UndisturbedRun steps) : (({ now } : Link).run steps).Sound :=
  ((Kept.start now).run h).toSound

/-- An hour, in which an access token dies. -/
def anHour : LinkStep := .wait 3600000

/-- Two calls that refresh one after the other, and a third that finds its grant taken back. -/
theorem sound_rotated :
    (({ now := 0 } : Link).run
      [.consent 0 "9341" none none, .save 0, anHour, .read 1, .refresh 1 (.arrived true none none),
        .store 1, anHour, .read 2, .refresh 2 (.arrived true (some 60) none), .store 2,
        .revokedUpstream 0, .read 3, .refresh 3 (.lost []), .record 3]).Sound :=
  sound_of_undisturbed _ _ (by decide)

/-- Not every run is sound. Of two calls that refresh one token the second is refused, and pauses
the connection that the first has kept alive. A call that refreshes while the owner connects another
company stores the tokens of the old one under the new one. -/
theorem not_sound :
    ¬ (({ now := 0 } : Link).run
        [.consent 0 "9341" none none, .save 0, anHour, .read 1, .read 2,
          .refresh 1 (.arrived true none none), .refresh 2 (.arrived true none none), .store 1,
          .record 2]).Sound ∧
      ¬ (({ now := 0 } : Link).run
        [.consent 0 "9341" none none, .save 0, anHour, .read 1,
          .refresh 1 (.arrived true none none), .consent 2 "9342" none none, .save 2,
          .store 1]).Sound := by
  refine ⟨fun h => ?_, fun h => ?_⟩
  · have hpaused := h.paused _ rfl rfl _ rfl
    revert hpaused
    decide
  · have hpaired := (h.paired _ rfl).2
    revert hpaired
    decide

/-! ## A connection that was given up -/

section GivenUp

variable {s : Link} {i : ℕ}

/-- The connection was disconnected, and not installed again. -/
def givenUp (s : Link) : Prop :=
  ∃ row, s.row = some row ∧ row.disconnectedAt.isSome

/-- No write but that of an install takes the mark of a disconnect away. -/
theorem givenUp.map (h : s.givenUp) {f : QuickBooksConnection → QuickBooksConnection}
    (hf : ∀ row, row.disconnectedAt.isSome → (f row).disconnectedAt.isSome) {j : ℕ} {p : Phase} :
    (({ s with row := s.row.map f } : Link).set j p).givenUp := by
  obtain ⟨row, hrow, hdisconnected⟩ := h
  exact ⟨f row, congrArg (Option.map f) hrow, hf row hdisconnected⟩

/-- A step that is not an install's. -/
theorem givenUp.step (h : s.givenUp) {e : LinkStep} (he : ∀ j, e ≠ .save j) :
    (s.step e).givenUp := by
  cases e with
  | wait _ => exact h
  | revokedUpstream _ => exact h
  | save j => exact absurd rfl (he j)
  | stop _ => exact h
  | store _ =>
    simp only [Link.step]
    split
    · exact h.map (f := storeTokens _) fun _ => id
    · exact h
  | record _ =>
    simp only [Link.step]
    split
    · exact h.map (f := recordAuthFailure _ _ _) fun _ => id
    · exact h
  | disconnectWrite _ =>
    simp only [Link.step]
    split
    · exact h.map fun _ _ => rfl
    · exact h
  | refresh _ _ =>
    simp only [Link.step]
    split
    · split
      · exact h
      · split_ifs <;> exact h
    · exact h
  | _ =>
    simp only [Link.step]
    split
    · first | exact h | (split <;> exact h)
    · exact h

/-- A call has no token while it goes on without. -/
theorem idle_set {j : ℕ} {p : Phase} (h : (s.calls i).usesToken = false)
    (hp : j = i → p.usesToken = false) : ((s.set j p).calls i).usesToken = false := by
  by_cases hji : i = j
  · subst hji
    rw [calls_set_self]
    exact hp rfl
  · rw [calls_set_of_ne hji]
    exact h

/-- What a call reads of a connection that was given up. -/
theorem givenUp.activePhase (h : s.givenUp) : activePhase s.row s.now = .answered none := by
  obtain ⟨row, hrow, hdisconnected⟩ := h
  simp [Books.activePhase, hrow, hdisconnected]

/-- A call that has no token gets none from a connection that was given up. -/
theorem givenUp.idle (h : s.givenUp) (hi : (s.calls i).usesToken = false) (e : LinkStep) :
    ((s.step e).calls i).usesToken = false := by
  -- where the call that goes on has a token, it is another one
  have hother : ∀ {j : ℕ} {p : Phase}, (s.calls j).usesToken = true → ∀ s' : Link,
      s'.calls = s.calls → ((s'.set j p).calls i).usesToken = false := by
    intro j p hj s' hcalls
    refine idle_set (hcalls ▸ hi) fun hji => ?_
    rw [hji, hi] at hj
    cases hj
  cases e with
  | wait _ => exact hi
  | revokedUpstream _ => exact hi
  | stop j => exact idle_set hi fun _ => rfl
  | read j =>
    simp only [Link.step]
    split
    · exact idle_set hi fun _ => by rw [h.activePhase]; rfl
    · exact hi
  | refresh j answer =>
    simp only [Link.step]
    split
    · next hphase =>
      have hj : (s.calls j).usesToken = true := by rw [hphase]; rfl
      split
      · exact hother hj s rfl
      · split_ifs
        · exact hother hj (s.advance _) rfl
        · exact hother hj (s.advance _) rfl
        · exact hother hj s rfl
    · exact hi
  | store | record | refuse =>
    simp only [Link.step]
    split
    · next hphase => exact hother (by rw [hphase]; rfl) _ rfl
    · exact hi
  | consent | save | disconnectWrite =>
    simp only [Link.step]
    split
    · exact idle_set hi fun _ => rfl
    · exact hi
  | disconnectRead j =>
    simp only [Link.step]
    split
    · exact idle_set hi fun _ => by split <;> rfl
    · exact hi
  | revoke j _ =>
    simp only [Link.step]
    split
    · split <;> exact idle_set hi fun _ => rfl
    · exact hi

/-- A run without the write of an install. -/
theorem givenUp.run {steps : List LinkStep} (h : s.givenUp) (hsave : ∀ j, .save j ∉ steps) :
    (s.run steps).givenUp ∧
      ((s.calls i).usesToken = false → ((s.run steps).calls i).usesToken = false) := by
  induction steps generalizing s with
  | nil => exact ⟨h, id⟩
  | cons e steps ih =>
    have hstep := h.step fun j he => hsave j (he ▸ List.mem_cons_self)
    obtain ⟨hgiven, hidle⟩ := ih hstep fun j hj => hsave j (List.mem_cons_of_mem e hj)
    exact ⟨hgiven, fun hi => hidle (h.idle hi e)⟩

/-- **Disconnected stays disconnected.** From a connection that was given up, whatever other calls
are under way, in every run without the write of an install: it stays given up, and no call that
begins is given a token, asks for one or has one refused. -/
theorem disconnected_stays (s : Link) (h : s.givenUp) (steps : List LinkStep)
    (hsave : ∀ j, .save j ∉ steps) :
    (s.run steps).givenUp ∧
      ∀ i, s.calls i = .start → ((s.run steps).calls i).usesToken = false :=
  ⟨(h.run (i := 0) hsave).1, fun _ hi => (h.run hsave).2 (congrArg Phase.usesToken hi)⟩

/-- A connection that was given up while a call refreshed its token. -/
def leftOver : Link :=
  ({ now := 0 } : Link).run
    [.consent 0 "9341" none none, .save 0, anHour, .read 1, .disconnectRead 2, .revoke 2 false,
      .disconnectWrite 2]

/-- The call under way stores the tokens that it gets, and the next one gets none all the same. -/
theorem disconnected_stays_leftOver :
    (leftOver.run [.refresh 1 (.arrived true none none), .store 1, .read 3]).givenUp ∧
      ∀ i, leftOver.calls i = .start →
        ((leftOver.run [.refresh 1 (.arrived true none none), .store 1, .read 3]).calls i).usesToken
          = false :=
  disconnected_stays leftOver ⟨_, rfl, rfl⟩ _ (by simp)

end GivenUp

end Link

end Restock.Books
