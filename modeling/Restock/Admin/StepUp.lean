import Mathlib.Order.Interval.Finset.Nat
import Restock.Admin.PlatformAdmins

/-!
# The step-up throttle

`apps/web/lib/admin/step-up.ts`: an administrator of the platform enters their password or a code
again before they change anything. Both routes count the attempt on the administrator's row in one
statement before they verify it; the attempt that finds the count above the limit then locks the row
with a second statement. The cookie of a grant is left out, and the database and the application
read one clock.

* `countAttempt`, `checkThrottle` — the code between the call and the verification;
* `StepUps.move` — the next statement of an attempt, `StepUps.step` — a statement or time passing;
* `StepUps.Bounded` — between two expiries of the lock at most `STEPUP_MAX_ATTEMPTS` attempts are
  verified, and none that was counted under a lock in force;
* `StepUps.timely` — an attempt verifies or locks with no expiry since it was counted;
* `bounded_of_timely` — runs of such steps are bounded;
* `not_bounded_stalled` — an attempt that stalls past an expiry breaks either half.
-/

namespace Restock.Admin

open Store Restock.Team

/-! ## The code -/

/-- Wrong passwords before the account is locked out of stepping up. -/
def STEPUP_MAX_ATTEMPTS : ℕ := 5

/-- How long a lockout lasts, in milliseconds. -/
def STEPUP_LOCKOUT_MS : ℤ := 15 * 60 * 1000

/-- `ThrottleRow`: what the counting statement returns. -/
structure ThrottleRow where
  failedStepUps : ℕ
  lockedUntil : Option Time
  deriving DecidableEq, Repr

/-- Why an attempt is refused. -/
inductive StepUpReason
  | wrongPassword
  | locked
  | noPassword
  | notEligible
  | wrongCode
  deriving DecidableEq, Repr

/-- `StepUpResult`. -/
inductive StepUpResult
  | ok
  | refused (reason : StepUpReason) (message : String)
  deriving DecidableEq, Repr

/-- The lock of the row is in force. -/
def PlatformAdmin.isLocked (r : PlatformAdmin) (now : Time) : Bool :=
  r.lockedUntil.any (now < ·)

/-- `countAttempt`. A lock in force keeps the count and itself; a lapsed one opens a fresh window. A
row that is revoked is not found. -/
def countAttempt (r : PlatformAdmin) (now : Time) : Option PlatformAdmin :=
  if r.isLive then
    some (match r.lockedUntil with
      | some expires =>
          if now < expires then r else { r with failedStepUps := 1, lockedUntil := none }
      | none => { r with failedStepUps := r.failedStepUps + 1, lockedUntil := none })
  else none

/-- The columns that the counting statement returns. -/
def PlatformAdmin.throttle (r : PlatformAdmin) : ThrottleRow :=
  { failedStepUps := r.failedStepUps, lockedUntil := r.lockedUntil }

/-- `lockedMessage`. -/
def lockedMessage (expires now : Time) : String :=
  let minutes := max 1 ⌈(expires - now : ℚ) / 60000⌉
  "Too many wrong passwords. Try again in " ++ toString minutes ++ " minute" ++
    (if minutes = 1 then "" else "s") ++ "."

/-- How the administrator proves that it is them, and what is found of it. -/
inductive StepUpRoute
  /-- `grantStepUp`. -/
  | password (hasPassword : Bool)
  /-- `grantStepUpByCode`. -/
  | code
  deriving DecidableEq, Repr

/-- A call of `grantStepUp` or `grantStepUpByCode`. -/
structure StepUpCall where
  viaFallback : Bool := false
  route : StepUpRoute
  /-- What the verification answers. -/
  correct : Bool := false
  deriving DecidableEq, Repr

/-- The result of a verification that fails. -/
def StepUpRoute.wrong : StepUpRoute → StepUpResult
  | .password _ => .refused .wrongPassword "That password is not right."
  | .code => .refused .wrongCode "That code is not right, or it has expired."

/-- What a call does next. -/
inductive Phase
  | start
  /-- The lock and the count are compared. -/
  | checkLock (throttle : ThrottleRow)
  /-- The limit is exceeded, the end of the lock is taken from the clock. -/
  | lockOut
  /-- The lock is written. -/
  | writeLock (lockedUntil : Time)
  /-- The account with a password is looked up. -/
  | findAccount
  /-- The password or the code is verified. -/
  | verify
  /-- The count is set back. -/
  | reset
  | done (result : StepUpResult)
  deriving DecidableEq, Repr

/-- The checks between the count and the verification. -/
def checkThrottle (route : StepUpRoute) (t : ThrottleRow) (now : Time) : Phase :=
  match t.lockedUntil.filter (now < ·) with
  | some expires => .done (.refused .locked (lockedMessage expires now))
  | none =>
      if STEPUP_MAX_ATTEMPTS < t.failedStepUps then .lockOut
      else match route with
        | .password _ => .findAccount
        | .code => .verify

/-! ## Attempts at once -/

/-- How an attempt was counted. The code does not keep this. -/
structure Counted where
  throttle : ThrottleRow
  /-- The lock was in force. -/
  locked : Bool
  /-- How often the lock had expired. -/
  expiries : ℕ
  deriving DecidableEq, Repr

/-- An attempt of one of the sessions. The last two fields record its course. -/
structure Attempt where
  phase : Phase := .start
  counted : Option Counted := none
  /-- How often the lock had expired when the attempt reached its verification. -/
  verifiedIn : Option ℕ := none
  deriving DecidableEq, Repr

/-- The row of one administrator, and all attempts on it. -/
structure StepUps where
  now : Time
  row : PlatformAdmin
  attempts : ℕ → Attempt := fun _ => {}
  /-- How often the lock has expired. -/
  expiries : ℕ := 0

/-- The attempt `i` goes on as `a`. -/
def StepUps.set (s : StepUps) (i : ℕ) (a : Attempt) : StepUps :=
  { s with attempts := Function.update s.attempts i a }

/-- The next statement of the attempt `i`: `grantStepUp` and `grantStepUpByCode`. -/
def StepUps.move (calls : ℕ → StepUpCall) (s : StepUps) (i : ℕ) : StepUps :=
  let a := s.attempts i
  match a.phase with
  | .start =>
      if (calls i).viaFallback then
        s.set i { a with phase := .done (.refused .notEligible
          "Your access comes from the bootstrap list. Ask an admin to grant you access properly.") }
      else match countAttempt s.row s.now with
        | none =>
            s.set i { a with phase := .done (.refused .notEligible
              "You are not a platform admin.") }
        | some row =>
            { s.set i { a with
                phase := .checkLock row.throttle
                counted := some ⟨row.throttle, s.row.isLocked s.now, s.expiries⟩ } with row := row }
  | .checkLock t => s.set i { a with phase := checkThrottle (calls i).route t s.now }
  | .lockOut => s.set i { a with phase := .writeLock (s.now + STEPUP_LOCKOUT_MS) }
  | .writeLock expires =>
      { s.set i { a with phase := .done (.refused .locked (lockedMessage expires s.now)) } with
        row := { s.row with lockedUntil := some expires } }
  | .findAccount =>
      s.set i { a with phase := match (calls i).route with
        | .password false => .done (.refused .noPassword
            "This account signs in with an email code and has no password to confirm.")
        | _ => .verify }
  | .verify =>
      s.set i { a with
        phase := if (calls i).correct then .reset else .done (calls i).route.wrong
        verifiedIn := some s.expiries }
  | .reset =>
      { s.set i { a with phase := .done .ok } with
        row := { s.row with failedStepUps := 0, lockedUntil := none } }
  | .done _ => s

/-- What happens next. -/
inductive Step
  | tick (ms : ℕ)
  | move (i : ℕ)
  deriving DecidableEq, Repr

/-- A statement of an attempt, or time passing. The lock expires when time passes its end. -/
def StepUps.step (calls : ℕ → StepUpCall) (s : StepUps) : Step → StepUps
  | .tick ms =>
      { s with
        now := s.now + ms
        expiries := s.expiries +
          if s.row.isLocked s.now && !s.row.isLocked (s.now + ms) then 1 else 0 }
  | .move i => s.move calls i

/-- A run. -/
def StepUps.run (calls : ℕ → StepUpCall) (s : StepUps) (steps : List Step) : StepUps :=
  steps.foldl (StepUps.step calls) s

/-- Between two expiries of the lock at most `STEPUP_MAX_ATTEMPTS` attempts reach their
verification, and none that was counted while the lock was in force. -/
structure StepUps.Bounded (s : StepUps) : Prop where
  few : ∀ (w : ℕ) (ids : Finset ℕ), (∀ i ∈ ids, (s.attempts i).verifiedIn = some w) →
    ids.card ≤ STEPUP_MAX_ATTEMPTS
  unlocked : ∀ i, ∀ c ∈ (s.attempts i).counted, c.locked → (s.attempts i).verifiedIn = none

/-- No expiry of the lock since the attempt was counted. -/
def StepUps.isFresh (s : StepUps) (a : Attempt) : Bool :=
  a.counted.all (·.expiries = s.expiries)

/-- An attempt that verifies or locks does so with no expiry of the lock since it was counted, and a
lock that is written has not ended yet. -/
def StepUps.timely (s : StepUps) : Step → Bool
  | .tick _ => true
  | .move i =>
      match (s.attempts i).phase with
      | .verify => s.isFresh (s.attempts i)
      | .writeLock expires => s.isFresh (s.attempts i) && s.now < expires
      | _ => true

/-- A run of timely steps. -/
def StepUps.TimelyRun (calls : ℕ → StepUpCall) : StepUps → List Step → Prop
  | _, [] => True
  | s, e :: steps => s.timely e ∧ (s.step calls e).TimelyRun calls steps

instance StepUps.decidableTimelyRun (calls : ℕ → StepUpCall) :
    (s : StepUps) → (steps : List Step) → Decidable (s.TimelyRun calls steps)
  | _, [] => .isTrue trivial
  | s, e :: steps =>
      have := StepUps.decidableTimelyRun calls (s.step calls e) steps
      inferInstanceAs (Decidable (_ ∧ _))

/-! ## What a count says -/

/-- The counted attempt agrees with the row, as long as the lock has not expired since: it was
counted before the lock, with a count that the row has reached, or under it. -/
def Counted.Agrees (c : Counted) (r : PlatformAdmin) (now : Time) : Prop :=
  match r.lockedUntil with
  | none => c.locked = false ∧ c.throttle.failedStepUps ≤ r.failedStepUps
  | some expires => now < expires ∧
      (c.locked = false ∧ c.throttle.failedStepUps ≤ r.failedStepUps ∨
        c.locked ∧ c.throttle.failedStepUps = r.failedStepUps ∧
          (STEPUP_MAX_ATTEMPTS < r.failedStepUps ∨ c.throttle.lockedUntil = some expires))

theorem Counted.Agrees.le {c : Counted} {r : PlatformAdmin} {now : Time} (h : c.Agrees r now) :
    c.throttle.failedStepUps ≤ r.failedStepUps := by
  unfold Counted.Agrees at h
  split at h <;> omega

/-- What holds of an attempt by its phase. -/
def Attempt.Sound (expiries : ℕ) (a : Attempt) : Prop :=
  match a.phase with
  | .start => a.counted = none ∧ a.verifiedIn = none
  | .checkLock t => a.verifiedIn = none ∧ ∃ c ∈ a.counted, c.throttle = t
  | .lockOut | .writeLock _ =>
      a.verifiedIn = none ∧ ∃ c ∈ a.counted, STEPUP_MAX_ATTEMPTS < c.throttle.failedStepUps
  | .findAccount | .verify =>
      a.verifiedIn = none ∧ ∃ c ∈ a.counted, c.throttle.failedStepUps ≤ STEPUP_MAX_ATTEMPTS ∧
        (c.expiries = expiries → c.locked = false)
  | .reset => False
  | .done _ => ∀ w ∈ a.verifiedIn, ∃ c ∈ a.counted, c.expiries = w ∧
      c.throttle.failedStepUps ≤ STEPUP_MAX_ATTEMPTS ∧ c.locked = false

/-- The invariant of runs: what was counted agrees with the row until the lock expires, and no two
attempts of one window have the same count. -/
structure StepUps.Throttled (s : StepUps) : Prop where
  early : ∀ i, ∀ c ∈ (s.attempts i).counted, c.expiries ≤ s.expiries
  positive : ∀ i, ∀ c ∈ (s.attempts i).counted, c.locked = false → 1 ≤ c.throttle.failedStepUps
  distinct : ∀ i j, ∀ c ∈ (s.attempts i).counted, ∀ d ∈ (s.attempts j).counted,
    c.expiries = d.expiries → c.locked = false → d.locked = false →
    c.throttle.failedStepUps = d.throttle.failedStepUps → i = j
  current : ∀ i, ∀ c ∈ (s.attempts i).counted, c.expiries = s.expiries → c.Agrees s.row s.now
  sound : ∀ i, (s.attempts i).Sound s.expiries

/-- An attempt that was verified is done, and passed its checks in the window it was verified in. -/
theorem Attempt.Sound.verified {a : Attempt} {n w : ℕ} (h : a.Sound n)
    (hw : a.verifiedIn = some w) :
    ∃ c ∈ a.counted, c.expiries = w ∧
      c.throttle.failedStepUps ≤ STEPUP_MAX_ATTEMPTS ∧ c.locked = false := by
  unfold Attempt.Sound at h
  cases hp : a.phase with
  | done result =>
    rw [hp] at h
    exact h w hw
  | start | checkLock | lockOut | writeLock | findAccount | verify | reset => simp_all

/-- An expiry of the lock takes nothing from what holds of an attempt. -/
theorem Attempt.Sound.expire {a : Attempt} {n : ℕ} (h : a.Sound n)
    (hearly : ∀ c ∈ a.counted, c.expiries ≤ n) : a.Sound (n + 1) := by
  unfold Attempt.Sound at h ⊢
  cases hp : a.phase with
  | findAccount | verify =>
    rw [hp] at h
    obtain ⟨hnone, c, hc, hle, -⟩ := h
    -- What was counted belongs to an earlier window now, of which nothing more is said.
    exact ⟨hnone, c, hc, hle, fun heq => absurd (hearly c hc) (by omega)⟩
  | reset => simp [hp] at h
  | start | checkLock | lockOut | writeLock | done => simpa [hp] using h

theorem StepUps.Throttled.bounded {s : StepUps} (h : s.Throttled) : s.Bounded where
  few w ids hids := by
    have hpassed (i : ℕ) (hi : i ∈ ids) := (h.sound i).verified (hids i hi)
    -- The counts of the attempts tell them apart, and lie between one and the limit.
    let count (i : ℕ) : ℕ := ((s.attempts i).counted.map (·.throttle.failedStepUps)).getD 0
    have hcount (i : ℕ) (c : Counted) (hc : c ∈ (s.attempts i).counted) :
        count i = c.throttle.failedStepUps := by
      simp only [count, Option.mem_def.mp hc, Option.map_some, Option.getD_some]
    have hmaps : ∀ i ∈ ids, count i ∈ Finset.Icc 1 STEPUP_MAX_ATTEMPTS := by
      intro i hi
      obtain ⟨c, hc, -, hle, hlocked⟩ := hpassed i hi
      rw [hcount i c hc, Finset.mem_Icc]
      exact ⟨h.positive i c hc hlocked, hle⟩
    have hinj : Set.InjOn count ids := by
      intro i hi j hj heq
      obtain ⟨c, hc, hcw, -, hclocked⟩ := hpassed i hi
      obtain ⟨d, hd, hdw, -, hdlocked⟩ := hpassed j hj
      rw [hcount i c hc, hcount j d hd] at heq
      exact h.distinct i j c hc d hd (hcw.trans hdw.symm) hclocked hdlocked heq
    calc ids.card ≤ (Finset.Icc 1 STEPUP_MAX_ATTEMPTS).card :=
          Finset.card_le_card_of_injOn count hmaps hinj
      _ = STEPUP_MAX_ATTEMPTS := by simp
  unlocked i c hc hlocked := by
    rw [Option.eq_none_iff_forall_ne_some]
    intro w hw
    obtain ⟨d, hd, -, -, hdlocked⟩ := (h.sound i).verified hw
    obtain rfl : c = d := Option.mem_unique hc hd
    simp [hlocked] at hdlocked

/-! ## What a step keeps -/

@[simp] theorem set_attempts_self (s : StepUps) (i : ℕ) (a : Attempt) :
    (s.set i a).attempts i = a := Function.update_self ..

theorem set_attempts_of_ne (s : StepUps) {i j : ℕ} (a : Attempt) (hne : j ≠ i) :
    (s.set i a).attempts j = s.attempts j := Function.update_of_ne hne ..

theorem counted_set (s : StepUps) {i : ℕ} {a : Attempt} (ha : a.counted = (s.attempts i).counted)
    (j : ℕ) : ((s.set i a).attempts j).counted = (s.attempts j).counted := by
  by_cases hj : j = i
  · subst hj
    rw [set_attempts_self, ha]
  · rw [set_attempts_of_ne s a hj]

theorem sound_set {s : StepUps} (h : ∀ j, (s.attempts j).Sound s.expiries) {i : ℕ} {a : Attempt}
    (hsound : a.Sound s.expiries) (j : ℕ) : ((s.set i a).attempts j).Sound s.expiries := by
  by_cases hj : j = i
  · subst hj
    rwa [set_attempts_self]
  · rw [set_attempts_of_ne s a hj]
    exact h j

/-- A statement that only moves an attempt on, counted as before. -/
theorem StepUps.Throttled.set {s : StepUps} (h : s.Throttled) {i : ℕ} {a : Attempt}
    (ha : a.counted = (s.attempts i).counted) (hsound : a.Sound s.expiries) :
    (s.set i a).Throttled where
  early j c hc := h.early j c (counted_set s ha j ▸ hc)
  positive j c hc := h.positive j c (counted_set s ha j ▸ hc)
  distinct j k c hc d hd := h.distinct j k c (counted_set s ha j ▸ hc) d (counted_set s ha k ▸ hd)
  current j c hc := h.current j c (counted_set s ha j ▸ hc)
  sound := sound_set h.sound hsound

/-- A statement that writes the row. -/
theorem StepUps.Throttled.setRow {s : StepUps} (h : s.Throttled) {row : PlatformAdmin}
    (hrow : ∀ i, ∀ c ∈ (s.attempts i).counted, c.expiries = s.expiries → c.Agrees row s.now) :
    ({ s with row := row } : StepUps).Throttled :=
  { h with current := hrow }

/-- Time passes. -/
theorem StepUps.Throttled.tick {s : StepUps} (h : s.Throttled) (calls : ℕ → StepUpCall) (ms : ℕ) :
    (s.step calls (.tick ms)).Throttled := by
  by_cases hexp : s.row.isLocked s.now && !s.row.isLocked (s.now + ms)
  · -- The lock expires: what was counted belongs to the window before.
    have heq : s.step calls (.tick ms) =
        { s with now := s.now + ms, expiries := s.expiries + 1 } := by
      simp [StepUps.step, hexp]
    rw [heq]
    exact
      { early := fun i c hc => (h.early i c hc).trans (Nat.le_succ _)
        positive := h.positive
        distinct := h.distinct
        current := fun i c hc hnow => by
          have := h.early i c hc
          simp only at hnow
          omega
        sound := fun i => (h.sound i).expire (h.early i) }
  · have heq : s.step calls (.tick ms) = { s with now := s.now + ms } := by
      simp [StepUps.step, hexp]
    rw [heq]
    refine { h with current := fun i c hc hnow => ?_ }
    have hagrees := h.current i c hc hnow
    unfold Counted.Agrees at hagrees ⊢
    cases hlock : s.row.lockedUntil with
    | none => simpa [hlock] using hagrees
    | some expires =>
      simp only [hlock] at hagrees ⊢
      have hlater : s.now + ms < expires := by
        simpa [PlatformAdmin.isLocked, hlock, hagrees.1] using hexp
      exact ⟨hlater, hagrees.2⟩

/-- What the count of an attempt finds and writes. -/
theorem countAttempt_cases {r row : PlatformAdmin} {now : Time}
    (h : countAttempt r now = some row) :
    (r.lockedUntil = none ∧ r.isLocked now = false ∧ row.lockedUntil = none ∧
      row.failedStepUps = r.failedStepUps + 1) ∨
    (∃ expires, r.lockedUntil = some expires ∧ expires ≤ now ∧ r.isLocked now = false ∧
      row.lockedUntil = none ∧ row.failedStepUps = 1) ∨
    ∃ expires, r.lockedUntil = some expires ∧ now < expires ∧ r.isLocked now = true ∧ row = r := by
  obtain ⟨-, hrow⟩ := Option.ite_none_right_eq_some.mp h
  cases hlock : r.lockedUntil with
  | none =>
    rw [hlock] at hrow
    cases hrow
    exact .inl ⟨rfl, by simp [PlatformAdmin.isLocked, hlock], rfl, rfl⟩
  | some expires =>
    simp only [hlock] at hrow
    by_cases hnow : now < expires
    · rw [if_pos hnow] at hrow
      cases hrow
      exact .inr (.inr ⟨expires, rfl, hnow, by simp [PlatformAdmin.isLocked, hlock, hnow], rfl⟩)
    · rw [if_neg hnow] at hrow
      cases hrow
      exact .inr (.inl ⟨expires, rfl, not_lt.mp hnow,
        by simp [PlatformAdmin.isLocked, hlock, hnow], rfl, rfl⟩)

/-- What was counted before agrees with the row that the next count writes. Where that count is not
made under a lock, it is above all counts of the window. -/
theorem Counted.Agrees.count {c : Counted} {r row : PlatformAdmin} {now : Time}
    (h : c.Agrees r now) (hrow : countAttempt r now = some row) :
    c.Agrees row now ∧ (r.isLocked now = false → c.throttle.failedStepUps < row.failedStepUps) := by
  obtain ⟨hlock, -, hlock', hfailed⟩ | ⟨expires, hlock, hlapsed, -⟩ |
    ⟨expires, -, -, hlocked, rfl⟩ := countAttempt_cases hrow
  · -- The row is counted on, above what it had reached.
    have hle := h.le
    simp only [Counted.Agrees, hlock, hlock', hfailed] at h ⊢
    exact ⟨⟨h.1, by omega⟩, fun _ => by omega⟩
  · -- Under a lapsed lock nothing was counted in this window.
    simp only [Counted.Agrees, hlock] at h
    exact absurd h.1 (not_lt.mpr hlapsed)
  · exact ⟨h, fun hfree => by simp [hlocked] at hfree⟩

/-- The counted attempt itself agrees with the row. -/
theorem agrees_countAttempt {r row : PlatformAdmin} {now : Time} {n : ℕ}
    (hrow : countAttempt r now = some row) :
    (⟨row.throttle, r.isLocked now, n⟩ : Counted).Agrees row now ∧
      (r.isLocked now = false → 1 ≤ row.failedStepUps) := by
  obtain ⟨-, hfree, hlock', hfailed⟩ | ⟨expires, -, -, hfree, hlock', hfailed⟩ |
    ⟨expires, hlock, hnow, hlocked, rfl⟩ := countAttempt_cases hrow
  · exact ⟨by simp [Counted.Agrees, hlock', hfree, PlatformAdmin.throttle], fun _ => by omega⟩
  · exact ⟨by simp [Counted.Agrees, hlock', hfree, PlatformAdmin.throttle], fun _ => by omega⟩
  · exact ⟨by simp [Counted.Agrees, hlock, hnow, hlocked, PlatformAdmin.throttle],
      fun hfree => by simp [hlocked] at hfree⟩

/-- An attempt is counted. -/
theorem StepUps.Throttled.count {s : StepUps} (h : s.Throttled) {i : ℕ} {row : PlatformAdmin}
    (hrow : countAttempt s.row s.now = some row)
    {a : Attempt} (hsound : a.Sound s.expiries)
    (ha : a.counted = some ⟨row.throttle, s.row.isLocked s.now, s.expiries⟩) :
    ({ s.set i a with row := row } : StepUps).Throttled := by
  have hself := agrees_countAttempt (n := s.expiries) hrow
  -- A counted attempt is the one counted now or one from before, which is another.
  have hcases (j : ℕ) (c : Counted) (hc : c ∈ ((s.set i a).attempts j).counted) :
      (j = i ∧ c = ⟨row.throttle, s.row.isLocked s.now, s.expiries⟩) ∨
        c ∈ (s.attempts j).counted := by
    by_cases hj : j = i
    · subst hj
      rw [set_attempts_self, ha] at hc
      exact .inl ⟨rfl, (Option.some.inj hc).symm⟩
    · rw [set_attempts_of_ne s a hj] at hc
      exact .inr hc
  refine
    { early := fun j c hc => ?_
      positive := fun j c hc hfree => ?_
      distinct := fun j k c hc d hd hwindow hcfree hdfree heq => ?_
      current := fun j c hc hnow => ?_
      sound := sound_set h.sound hsound }
  · obtain ⟨-, rfl⟩ | hold := hcases j c hc
    · exact le_rfl
    · exact h.early j c hold
  · obtain ⟨-, rfl⟩ | hold := hcases j c hc
    · exact hself.2 hfree
    · exact h.positive j c hold hfree
  · -- The new count is above every count of its window, so it equals none of them.
    obtain ⟨rfl, rfl⟩ | hcold := hcases j c hc <;> obtain ⟨rfl, rfl⟩ | hdold := hcases k d hd
    · rfl
    · have hlt := ((h.current k d hdold hwindow.symm).count hrow).2 hcfree
      exact absurd heq hlt.ne'
    · have hlt := ((h.current j c hcold hwindow).count hrow).2 hdfree
      exact absurd heq hlt.ne
    · exact h.distinct j k c hcold d hdold hwindow hcfree hdfree heq
  · obtain ⟨-, rfl⟩ | hold := hcases j c hc
    · exact hself.1
    · exact ((h.current j c hold hnow).count hrow).1

/-- An attempt above the limit writes the lock, with no expiry since it was counted. -/
theorem Counted.Agrees.lock {c d : Counted} {r : PlatformAdmin} {now expires : Time}
    (hc : c.Agrees r now) (hd : d.Agrees r now)
    (hover : STEPUP_MAX_ATTEMPTS < d.throttle.failedStepUps) (hnow : now < expires) :
    c.Agrees { r with lockedUntil := some expires } now := by
  have hreached : STEPUP_MAX_ATTEMPTS < r.failedStepUps := hover.trans_le hd.le
  have hle := hc.le
  unfold Counted.Agrees at hc
  cases hlock : r.lockedUntil with
  | none =>
    rw [hlock] at hc
    exact ⟨hnow, .inl hc⟩
  | some old =>
    rw [hlock] at hc
    obtain ⟨-, hfree | ⟨hlocked, heq, -⟩⟩ := hc
    · exact ⟨hnow, .inl hfree⟩
    · -- The lock that it was counted under is written anew; its count is above the limit still.
      exact ⟨hnow, .inr ⟨hlocked, heq, .inl hreached⟩⟩

/-- An attempt that passes the checks with no expiry since it was counted was not counted under a
lock. -/
theorem Counted.Agrees.free {c : Counted} {r : PlatformAdmin} {now : Time} (h : c.Agrees r now)
    (hlapsed : c.throttle.lockedUntil.filter (now < ·) = none)
    (hle : c.throttle.failedStepUps ≤ STEPUP_MAX_ATTEMPTS) : c.locked = false := by
  unfold Counted.Agrees at h
  split at h
  · exact h.1
  · obtain ⟨hnow, hfree | ⟨-, heq, hover | hlock⟩⟩ := h
    · exact hfree.1
    · omega
    · simp [hlock, Option.filter, hnow] at hlapsed

/-- The checks send an attempt to where its count lets it go. -/
theorem sound_checkThrottle {a : Attempt} {s : StepUps} {c : Counted} (route : StepUpRoute)
    (hc : c ∈ a.counted) (hnone : a.verifiedIn = none)
    (hagrees : c.expiries = s.expiries → c.Agrees s.row s.now) :
    ({ a with phase := checkThrottle route c.throttle s.now } : Attempt).Sound s.expiries := by
  unfold checkThrottle
  cases hlock : c.throttle.lockedUntil.filter (s.now < ·) with
  | some expires => simp [Attempt.Sound, hnone]
  | none =>
    by_cases hover : STEPUP_MAX_ATTEMPTS < c.throttle.failedStepUps
    · simp only [if_pos hover]
      exact ⟨hnone, c, hc, hover⟩
    · have hle := not_lt.mp hover
      simp only [if_neg hover]
      cases route with
      | password hasPassword =>
        exact ⟨hnone, c, hc, hle, fun hnow => (hagrees hnow).free hlock hle⟩
      | code => exact ⟨hnone, c, hc, hle, fun hnow => (hagrees hnow).free hlock hle⟩

/-- A timely statement of an attempt keeps the invariant, unless it grants. -/
theorem StepUps.Throttled.move {s : StepUps} (h : s.Throttled) {calls : ℕ → StepUpCall} {i : ℕ}
    (hwrong : (calls i).correct = false) (htimely : s.timely (.move i)) :
    (s.move calls i).Throttled := by
  have hsound := h.sound i
  unfold StepUps.move
  simp only [StepUps.timely] at htimely
  unfold Attempt.Sound at hsound
  cases hphase : (s.attempts i).phase with
  | start =>
    simp only [hphase] at hsound ⊢
    split
    · exact h.set rfl (by simp [Attempt.Sound, hsound.2])
    · split
      · exact h.set rfl (by simp [Attempt.Sound, hsound.2])
      · next row hrow => exact h.count hrow (by simp [Attempt.Sound, hsound.2]) rfl
  | checkLock t =>
    simp only [hphase] at hsound ⊢
    obtain ⟨hnone, c, hc, rfl⟩ := hsound
    exact h.set rfl (sound_checkThrottle _ hc hnone (h.current i c hc))
  | lockOut =>
    simp only [hphase] at hsound ⊢
    exact h.set rfl hsound
  | writeLock expires =>
    -- The row is locked before the attempt moves on: each statement keeps the invariant.
    simp only [hphase, Bool.and_eq_true, decide_eq_true_eq] at hsound htimely ⊢
    obtain ⟨hnone, d, hd, hover⟩ := hsound
    obtain ⟨hfresh, hnow⟩ := htimely
    have hdnow : d.expiries = s.expiries := by
      simpa [StepUps.isFresh, Option.mem_def.mp hd] using hfresh
    have hrow : ({ s with row := { s.row with lockedUntil := some expires } } :
        StepUps).Throttled :=
      h.setRow fun j c hc hcnow =>
        (h.current j c hc hcnow).lock (h.current i d hd hdnow) hover hnow
    exact hrow.set rfl (by simp [Attempt.Sound, hnone])
  | findAccount =>
    simp only [hphase] at hsound ⊢
    refine h.set rfl ?_
    split
    · simp [Attempt.Sound, hsound.1]
    · exact hsound
  | verify =>
    simp only [hphase] at hsound htimely ⊢
    obtain ⟨hnone, c, hc, hle, hfree⟩ := hsound
    have hcnow : c.expiries = s.expiries := by
      simpa [StepUps.isFresh, Option.mem_def.mp hc] using htimely
    refine h.set rfl ?_
    -- A wrong code ends the attempt, and it was verified in the window it was counted in.
    rw [hwrong]
    intro w hw
    obtain rfl := Option.some.inj hw
    exact ⟨c, hc, hcnow, hle, hfree hcnow⟩
  | reset => simp [hphase] at hsound
  | done result => simpa only [hphase] using h

/-! ## Runs -/

/-- Before any attempt. -/
theorem throttled_start (now : Time) (row : PlatformAdmin) :
    ({ now := now, row := row } : StepUps).Throttled where
  early _ c hc := by simp at hc
  positive _ c hc := by simp at hc
  distinct _ _ c hc := by simp at hc
  current _ c hc := by simp at hc
  sound _ := ⟨rfl, rfl⟩

theorem StepUps.Throttled.run {calls : ℕ → StepUpCall} (hwrong : ∀ i, (calls i).correct = false)
    {steps : List Step} {s : StepUps} (h : s.Throttled) (htimely : s.TimelyRun calls steps) :
    (s.run calls steps).Throttled := by
  induction steps generalizing s with
  | nil => exact h
  | cons e steps ih =>
    obtain ⟨he, hrest⟩ := htimely
    cases e with
    | tick ms => exact ih (h.tick calls ms) hrest
    | move i => exact ih (h.move (hwrong i) he) hrest

/-- Whatever the row, and in whatever order the attempts of any number of sessions take their
statements, of which none is granted: as long as each attempt verifies and locks with no expiry of
the lock since it was counted, the throttle bounds the guesses. -/
theorem bounded_of_timely (calls : ℕ → StepUpCall) (hwrong : ∀ i, (calls i).correct = false)
    (now : Time) (row : PlatformAdmin) (steps : List Step)
    (htimely : ({ now := now, row := row } : StepUps).TimelyRun calls steps) :
    (({ now := now, row := row } : StepUps).run calls steps).Bounded :=
  ((throttled_start now row).run hwrong htimely).bounded

/-- Every session enters a wrong code. -/
def wrongCodes (_ : ℕ) : StepUpCall :=
  { route := .code }

/-- An administrator that has not tried yet. -/
def untried : StepUps :=
  { now := 0, row := { userId := 1, email := "ops@example.com" } }

/-- The statements of an attempt up to its verification. -/
def guess (i : ℕ) : List Step :=
  [.move i, .move i, .move i]

/-- The statements of an attempt above the limit, and the time until its lock expires. -/
def lockedOut (i : ℕ) : List Step :=
  [.move i, .move i, .move i, .move i, .tick 900000]

/-- Five guesses and an attempt that locks the row, after which it expires. -/
theorem bounded_of_timely_window :
    (untried.run wrongCodes
      (guess 0 ++ guess 1 ++ guess 2 ++ guess 3 ++ guess 4 ++ lockedOut 5)).Bounded :=
  bounded_of_timely wrongCodes (fun _ => rfl) 0 untried.row _ (by decide +kernel)

/-- Five attempts pass their checks and stall until the lock has expired; five of the next window
follow. -/
def stalledGuesses : List Step :=
  [.move 0, .move 0, .move 1, .move 1, .move 2, .move 2, .move 3, .move 3, .move 4, .move 4] ++
    lockedOut 5 ++ [.move 0, .move 1, .move 2, .move 3, .move 4] ++
    guess 6 ++ guess 7 ++ guess 8 ++ guess 9 ++ guess 10 ++ lockedOut 11

/-- An attempt above the limit stalls until the lock of another has expired and locks the next
window at its first count; an attempt counted under this lock stalls until that has expired. -/
def stalledLock : List Step :=
  guess 0 ++ guess 1 ++ guess 2 ++ guess 3 ++ guess 4 ++ [.move 5] ++ lockedOut 6 ++ guess 7 ++
    [.move 5, .move 5, .move 5] ++ [.move 8, .tick 900000, .move 8, .move 8]

/-- Attempts that stall break either half of the bound: ten are verified between two expiries, and
one that was counted under a lock in force. -/
theorem not_bounded_stalled :
    (¬ ∀ (calls : ℕ → StepUpCall) (now : Time) (row : PlatformAdmin) (steps : List Step),
      (∀ i, (calls i).correct = false) →
      ∀ s, s = ({ now := now, row := row } : StepUps).run calls steps →
      ∀ (w : ℕ) (ids : Finset ℕ), 0 < w → w < s.expiries →
        (∀ i ∈ ids, (s.attempts i).verifiedIn = some w) → ids.card ≤ STEPUP_MAX_ATTEMPTS) ∧
    (¬ ∀ (calls : ℕ → StepUpCall) (now : Time) (row : PlatformAdmin) (steps : List Step),
      (∀ i, (calls i).correct = false) →
      ∀ s, s = ({ now := now, row := row } : StepUps).run calls steps →
      ∀ i, ∀ c ∈ (s.attempts i).counted, c.locked → (s.attempts i).verifiedIn = none) := by
  constructor
  · intro h
    have hten := h wrongCodes untried.now untried.row stalledGuesses (fun _ => rfl) _ rfl 1
      {0, 1, 2, 3, 4, 6, 7, 8, 9, 10} (by decide) (by decide +kernel) (by decide +kernel)
    exact absurd hten (by decide)
  · intro h
    have hlocked := h wrongCodes untried.now untried.row stalledLock (fun _ => rfl) _ rfl 8
      ⟨⟨1, some 1800000⟩, true, 1⟩ (by decide +kernel) rfl
    exact absurd hlocked (by decide +kernel)

end Restock.Admin
