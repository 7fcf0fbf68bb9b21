import Restock.Series.Groups

/-!
# Once-per-incident alerts

`apps/worker/src/incident.ts`: a sync that fails for good sends an alert to everyone who wants one,
once for an incident. A latch in Redis is armed by the first failure and cleared by a sync that
succeeds, so that the next incident alerts again; an attempt that could tell nobody clears it too.

* `alertRecipients`, `alertMail` — who is told, and what;
* `Incidents.step` — the next step of an attempt of one tenant and source, or a sync that succeeds;
* `Incidents.OncePerIncident` — nobody is told twice between two successes, and an attempt that told
  nobody leaves the latch clear;
* `Incidents.timely` — an attempt sends with no success since it armed the latch, and clears it or
  gives up only where that takes the latch from no other;
* `oncePerIncident_of_timely` — runs of such steps alert once per incident;
* `not_oncePerIncident` — a send that fails after another, or a success in between, tells twice.
-/

namespace Restock.Worker

/-! ## The code -/

/-- A member of a workspace, as the alert reads it. -/
structure AlertMember where
  /-- The `reconnect_alert` entry of the stored preferences, where that is a truth value. -/
  reconnectAlert : Option Bool
  email : String
  deriving DecidableEq, Repr

/-- A tenant, as the alert reads it. -/
structure AlertTenant where
  name : String
  alertEmail : Option String
  /-- The members, the earliest first. -/
  members : List AlertMember
  deriving DecidableEq, Repr

/-- What `alertRecipients` finds. -/
structure AlertRecipients where
  emails : List String
  tenantName : String
  deriving DecidableEq, Repr

/-- `wantsEmail`, from `packages/db/src/notify-prefs.ts`: absent means on. -/
def wantsEmail (entry : Option Bool) : Bool := entry ≠ some false

/-- `alertRecipients`: the alert address wins outright, else everyone who has not switched the alert
off. -/
def alertRecipients (tenant : Option AlertTenant) : Option AlertRecipients :=
  match tenant with
  | none => none
  | some tenant =>
      match tenant.alertEmail.filter (· ≠ "") with
      | some email => some { emails := [email], tenantName := tenant.name }
      | none =>
          let emails := ((tenant.members.filter fun m => wantsEmail m.reconnectAlert).map
            fun m => m.email).eraseDups
          if 0 < emails.length then some { emails, tenantName := tenant.name } else none

/-- An email that is sent. -/
structure AlertMail where
  /-- `to`. -/
  recipient : String
  subject : String
  text : String
  deriving DecidableEq, Repr

/-- The email that `sendIncidentAlert` sends. -/
def alertMail (source reason tenantName recipient : String) : AlertMail where
  recipient := recipient
  subject := "Action needed: " ++ tenantName ++ " stock sync is failing"
  text := "The " ++ source ++ " sync for " ++ tenantName ++
    " stopped working and has run out of retries.\n\n" ++ "Reason: " ++ reason ++ "\n\n" ++
    "Open Settings → Connections in Wezesha Restock to reconnect the store. " ++
    "You'll get one email per incident — syncs resuming resets the alert."

/-! ## Attempts at once -/

/-- What `sendIncidentAlert` does next. -/
inductive AlertPhase
  | start
  /-- The latch is armed, the recipients are looked up. -/
  | lookUp
  /-- The emails that are still to be sent, one after another. -/
  | sending (tenantName : String) (rest : List String)
  /-- The latch is cleared; then the call returns false, or throws. -/
  | clearing (result : Option Bool)
  /-- It returned, or threw. -/
  | done (result : Option Bool)
  deriving DecidableEq, Repr

/-- A call of `sendIncidentAlert`. The last three fields record its course. -/
structure Alert where
  phase : AlertPhase := .start
  /-- How many syncs had succeeded when it armed the latch. -/
  armedIn : Option ℕ := none
  /-- Who was sent an email by it. -/
  mailed : List String := []
  /-- The latch when the call ended. -/
  left : Option Bool := none
  deriving DecidableEq, Repr

/-- The latch of one tenant and source, and all calls about it. -/
structure Incidents where
  /-- The key is set. -/
  latch : Bool
  alerts : ℕ → Alert := fun _ => {}
  /-- How many syncs have succeeded. -/
  successes : ℕ := 0
  /-- The emails that were sent, each with the successes before it. -/
  log : List (ℕ × AlertMail) := []

/-- The call `i` goes on as `a`. -/
def Incidents.set (s : Incidents) (i : ℕ) (a : Alert) : Incidents :=
  { s with alerts := Function.update s.alerts i a }

/-- What happens next. -/
inductive IncidentStep
  /-- `openIncident` of a call. -/
  | openIncident (i : ℕ)
  /-- The recipients are looked up, in what the database holds; or the lookup throws. -/
  | lookUp (i : ℕ) (tenant : Option (Option AlertTenant))
  /-- The next email of a call is sent, or that fails. -/
  | send (i : ℕ) (ok : Bool)
  /-- `clearIncident` of a call. -/
  | clear (i : ℕ)
  /-- A sync succeeds and clears the latch. -/
  | success
  deriving DecidableEq, Repr

section Steps

variable (source : String) (reason : ℕ → String)

/-- A step of a call, or a sync that succeeds. -/
def Incidents.step (s : Incidents) : IncidentStep → Incidents
  | .openIncident i =>
      let a := s.alerts i
      match a.phase with
      | .start =>
          if s.latch then s.set i { a with phase := .done (some false) }
          else
            { s.set i { a with phase := .lookUp, armedIn := some s.successes } with latch := true }
      | _ => s
  | .lookUp i tenant =>
      let a := s.alerts i
      match a.phase, tenant with
      | .lookUp, none => s.set i { a with phase := .done none, left := some s.latch }
      | .lookUp, some tenant =>
          match alertRecipients tenant with
          | none => s.set i { a with phase := .clearing (some false) }
          | some found => s.set i { a with phase := .sending found.tenantName found.emails }
      | _, _ => s
  | .send i ok =>
      let a := s.alerts i
      match a.phase with
      | .sending tenantName (recipient :: rest) =>
          -- a failed send throws, and the handler clears the latch before it rethrows
          if ok then
            { s.set i { a with
                phase := if rest = [] then .done (some true) else .sending tenantName rest
                mailed := a.mailed ++ [recipient]
                left := if rest = [] then some s.latch else none } with
              log := s.log ++ [(s.successes, alertMail source (reason i) tenantName recipient)] }
          else s.set i { a with phase := .clearing none }
      | _ => s
  | .clear i =>
      let a := s.alerts i
      match a.phase with
      | .clearing result =>
          { s.set i { a with phase := .done result, left := some false } with latch := false }
      | _ => s
  | .success => { s with latch := false, successes := s.successes + 1 }

/-- A run. -/
def Incidents.run (s : Incidents) (steps : List IncidentStep) : Incidents :=
  steps.foldl (Incidents.step source reason) s

/-- Nobody is sent two alerts between two syncs that succeed, and a call that armed the latch and
ended with nobody told left it clear. -/
structure Incidents.OncePerIncident (s : Incidents) : Prop where
  once : ∀ (n : ℕ) (recipient : String),
    (s.log.filter fun entry => entry.1 = n ∧ entry.2.recipient = recipient).length ≤ 1
  retried : ∀ i result, (s.alerts i).phase = .done result → (s.alerts i).armedIn.isSome →
    (s.alerts i).mailed = [] → (s.alerts i).left = some false

/-- A call sends while no sync has succeeded since it armed the latch. It clears the latch when that
is clear already, or when no sync has succeeded since and it has told nobody. Its lookup does not
throw while the latch is armed. -/
def Incidents.timely (s : Incidents) : IncidentStep → Bool
  | .send i true => (s.alerts i).armedIn = some s.successes
  | .clear i =>
      !s.latch || ((s.alerts i).armedIn = some s.successes && (s.alerts i).mailed = [])
  | .lookUp _ none => !s.latch
  | _ => true

/-- A run of timely steps. -/
def Incidents.TimelyRun : Incidents → List IncidentStep → Prop
  | _, [] => True
  | s, e :: steps => s.timely e ∧ (s.step source reason e).TimelyRun steps

instance Incidents.decidableTimelyRun :
    (s : Incidents) → (steps : List IncidentStep) → Decidable (s.TimelyRun source reason steps)
  | _, [] => .isTrue trivial
  | s, e :: steps =>
      have := Incidents.decidableTimelyRun (s.step source reason e) steps
      inferInstanceAs (Decidable (_ ∧ _))

end Steps

/-! ## What is kept -/

/-- The call has armed the latch and has not ended. -/
def Alert.running (a : Alert) : Bool :=
  match a.phase with
  | .start => false
  | .lookUp => true
  | .sending _ _ => true
  | .clearing _ => true
  | .done _ => false

/-- What the course of a call says about its next step. -/
def Alert.Sound (a : Alert) : Prop :=
  match a.phase with
  | .start => a.mailed = [] ∧ a.armedIn = none
  | .lookUp => a.mailed = []
  | .sending _ rest => (a.mailed ++ rest).Nodup
  | .clearing _ => True
  | .done _ => a.armedIn.isSome → a.mailed = [] → a.left = some false

/-- Who was sent an alert after so many successes. -/
def Incidents.mailedIn (s : Incidents) (n : ℕ) : List String :=
  (s.log.filter fun entry => entry.1 = n).map fun entry => entry.2.recipient

/-- The call runs, and no sync has succeeded since it armed the latch. -/
def Incidents.Holds (s : Incidents) (i : ℕ) : Prop :=
  (s.alerts i).running = true ∧ (s.alerts i).armedIn = some s.successes

/-- What timely steps keep: one call at most holds the latch of the current incident, everyone who
was told in it was told by that call, and nobody was told while the latch is clear. -/
structure Incidents.Kept (s : Incidents) : Prop where
  sound : ∀ i, (s.alerts i).Sound
  early : ∀ i n, (s.alerts i).armedIn = some n → n ≤ s.successes
  one : ∀ i j, s.Holds i → s.Holds j → i = j
  latched : ∀ i, s.Holds i → s.latch = true
  current : ∀ i, s.Holds i → s.mailedIn s.successes = (s.alerts i).mailed
  free : s.latch = false → s.mailedIn s.successes = []
  nodup : ∀ n, (s.mailedIn n).Nodup
  later : ∀ n, s.successes < n → s.mailedIn n = []

/-- What is kept is once per incident. -/
theorem Incidents.Kept.oncePerIncident {s : Incidents} (h : s.Kept) : s.OncePerIncident where
  once n recipient := by
    have hcount := List.nodup_iff_count_le_one.mp (h.nodup n) recipient
    rw [Incidents.mailedIn, List.count_eq_countP, List.countP_map, List.countP_filter,
      List.countP_eq_length_filter] at hcount
    convert hcount using 3
    funext entry
    simp [Function.comp_apply, Bool.and_comm, Bool.beq_eq_decide_eq]
  retried i result hdone harmed hmailed := by
    have hsound := h.sound i
    rw [Alert.Sound, hdone] at hsound
    exact hsound harmed hmailed

section Set

variable {s : Incidents} {i : ℕ} {a : Alert}

@[simp] theorem alerts_set_self : (s.set i a).alerts i = a := Function.update_self ..

theorem alerts_set_of_ne {j : ℕ} (h : j ≠ i) : (s.set i a).alerts j = s.alerts j :=
  Function.update_of_ne h ..

/-- A property that all calls have and the one that goes on keeps. -/
theorem forall_alerts_set {p : Alert → Prop} (h : ∀ j, p (s.alerts j)) (ha : p a) (j : ℕ) :
    p ((s.set i a).alerts j) := by
  by_cases hj : j = i
  · rw [hj, alerts_set_self]
    exact ha
  · rw [alerts_set_of_ne hj]
    exact h j

/-- A call that goes on with the latch, or ends, holds it only if it did. -/
theorem holds_of_set (harmed : a.armedIn = (s.alerts i).armedIn)
    (hrunning : a.running = true → (s.alerts i).running = true) {j : ℕ}
    (h : (s.set i a).Holds j) : s.Holds j := by
  by_cases hj : j = i
  · subst hj
    obtain ⟨hrun, hin⟩ := h
    rw [alerts_set_self] at hrun hin
    exact ⟨hrunning hrun, harmed ▸ hin⟩
  · obtain ⟨hrun, hin⟩ := h
    rw [alerts_set_of_ne hj] at hrun hin
    exact ⟨hrun, hin⟩

/-- A call may go on, or end, without an email and without the latch. -/
theorem Incidents.Kept.set (h : s.Kept) (hsound : a.Sound)
    (harmed : a.armedIn = (s.alerts i).armedIn) (hmailed : a.mailed = (s.alerts i).mailed)
    (hrunning : a.running = true → (s.alerts i).running = true) : (s.set i a).Kept where
  sound := forall_alerts_set h.sound hsound
  early := forall_alerts_set (p := fun b => ∀ n, b.armedIn = some n → n ≤ s.successes) h.early
    fun n hn => h.early i n (harmed ▸ hn)
  one j k hj hk := h.one j k (holds_of_set harmed hrunning hj) (holds_of_set harmed hrunning hk)
  latched j hj := h.latched j (holds_of_set harmed hrunning hj)
  current j hj := by
    have hholds := h.current j (holds_of_set harmed hrunning hj)
    by_cases hji : j = i
    · subst hji
      rw [alerts_set_self, hmailed]
      exact hholds
    · rw [alerts_set_of_ne hji]
      exact hholds
  free := h.free
  nodup := h.nodup
  later := h.later

end Set

/-! ## Every step -/

section Step

variable {s : Incidents} {i : ℕ}

attribute [local simp] Incidents.step Incidents.timely Alert.Sound

/-- Whoever runs and armed the latch in this incident finds it set, so a clear latch has no
holder. -/
theorem Incidents.Kept.not_holds (h : s.Kept) (hlatch : s.latch = false) : ¬ s.Holds i := by
  intro hi
  rw [h.latched i hi] at hlatch
  exact Bool.noConfusion hlatch

/-- The first failure of an incident arms the latch: its call is the holder, and nobody was told. -/
theorem Incidents.Kept.armed (h : s.Kept) (hlatch : s.latch = false)
    (hstart : (s.alerts i).phase = .start) :
    ({ s.set i { s.alerts i with phase := .lookUp, armedIn := some s.successes } with
      latch := true } : Incidents).Kept := by
  have hmailed : (s.alerts i).mailed = [] := by
    have hsound := h.sound i
    rw [Alert.Sound, hstart] at hsound
    exact hsound.1
  -- whoever holds the latch now is the call itself
  have honly : ∀ j, ({ s.set i { s.alerts i with phase := .lookUp, armedIn := some s.successes }
      with latch := true } : Incidents).Holds j → j = i := by
    intro j hj
    by_contra hne
    obtain ⟨hrun, hin⟩ := hj
    have hsame := alerts_set_of_ne (s := s)
      (a := { s.alerts i with phase := .lookUp, armedIn := some s.successes }) hne
    exact h.not_holds hlatch ⟨hsame ▸ hrun, hsame ▸ hin⟩
  exact {
    sound := forall_alerts_set h.sound hmailed
    early := forall_alerts_set (p := fun b => ∀ n, b.armedIn = some n → n ≤ s.successes) h.early
      fun n hn => (Option.some.inj hn).ge
    one := fun j k hj hk => (honly j hj).trans (honly k hk).symm
    latched := fun _ _ => rfl
    current := by
      intro j hj
      rw [honly j hj]
      show s.mailedIn s.successes = ((s.set i _).alerts i).mailed
      rw [alerts_set_self, h.free hlatch, hmailed]
    free := fun hfree => Bool.noConfusion hfree
    nodup := h.nodup
    later := h.later }

/-- One more email is one more address of its incident. -/
theorem mailedIn_sent (log : List (ℕ × AlertMail)) (t : Incidents) (n m : ℕ) (mail : AlertMail) :
    ({ t with log := log ++ [(m, mail)] } : Incidents).mailedIn n =
      ({ t with log } : Incidents).mailedIn n ++ if m = n then [mail.recipient] else [] := by
  by_cases hm : m = n <;> simp [Incidents.mailedIn, hm]

/-- The holder sends to somebody it has not told, and so nobody else has. -/
theorem Incidents.Kept.sent {a : Alert} {mail : AlertMail} (h : s.Kept) (hholds : s.Holds i)
    (harmed : a.armedIn = (s.alerts i).armedIn)
    (hmailed : a.mailed = (s.alerts i).mailed ++ [mail.recipient]) (hsound : a.Sound)
    (hnew : ((s.alerts i).mailed ++ [mail.recipient]).Nodup) :
    ({ s.set i a with log := s.log ++ [(s.successes, mail)] } : Incidents).Kept := by
  have hmails (n : ℕ) := mailedIn_sent s.log (s.set i a) n s.successes mail
  have holds : ∀ j, ({ s.set i a with log := s.log ++ [(s.successes, mail)] } : Incidents).Holds j →
      s.Holds j := fun j hj => holds_of_set harmed (fun _ => hholds.1) hj
  have hnow : ({ s.set i a with log := s.log ++ [(s.successes, mail)] } : Incidents).mailedIn
      s.successes = (s.alerts i).mailed ++ [mail.recipient] := by
    rw [hmails, if_pos rfl]
    exact congrArg (· ++ [mail.recipient]) (h.current i hholds)
  exact {
    sound := forall_alerts_set h.sound hsound
    early := forall_alerts_set (p := fun b => ∀ n, b.armedIn = some n → n ≤ s.successes) h.early
      fun n hn => h.early i n (harmed ▸ hn)
    one := fun j k hj hk => h.one j k (holds j hj) (holds k hk)
    latched := fun j hj => h.latched j (holds j hj)
    current := by
      intro j hj
      obtain rfl := h.one j i (holds j hj) hholds
      show _ = ((s.set j a).alerts j).mailed
      rw [alerts_set_self, hmailed]
      exact hnow
    free := fun hfree => Bool.noConfusion ((h.latched i hholds).symm.trans hfree)
    nodup := by
      intro n
      by_cases hn : s.successes = n
      · rw [← hn, hnow]
        exact hnew
      · rw [hmails, if_neg hn, List.append_nil]
        exact h.nodup n
    later := by
      intro n hn
      have hn : s.successes < n := hn
      rw [hmails, if_neg hn.ne, List.append_nil]
      exact h.later n hn }

/-- With no holder left and nobody told, the latch may be clear. -/
theorem Incidents.Kept.cleared (h : s.Kept) (hnone : ∀ j, ¬ s.Holds j)
    (hmails : s.mailedIn s.successes = []) : ({ s with latch := false } : Incidents).Kept where
  sound := h.sound
  early := h.early
  one := h.one
  latched j hj := absurd hj (hnone j)
  current := h.current
  free _ := hmails
  nodup := h.nodup
  later := h.later

/-- A sync that succeeds begins a new incident, in which nobody holds the latch or was told. -/
theorem Incidents.Kept.succeeded (h : s.Kept) :
    ({ s with latch := false, successes := s.successes + 1 } : Incidents).Kept := by
  have hnone : ∀ j, ¬ ({ s with latch := false, successes := s.successes + 1 } :
      Incidents).Holds j := fun j hj => absurd (h.early j _ hj.2) (by simp)
  exact {
    sound := h.sound
    early := fun j n hn => (h.early j n hn).trans (Nat.le_succ _)
    one := fun j _ hj _ => absurd hj (hnone j)
    latched := fun j hj => absurd hj (hnone j)
    current := fun j hj => absurd hj (hnone j)
    free := fun _ => h.later _ (Nat.lt_succ_self _)
    nodup := h.nodup
    later := fun n hn => h.later n ((Nat.lt_succ_self _).trans hn) }

/-- Nobody is to be told twice by one call. -/
theorem alertRecipients_nodup {tenant : Option AlertTenant} {found : AlertRecipients}
    (h : alertRecipients tenant = some found) : found.emails.Nodup := by
  unfold alertRecipients at h
  split at h
  · simp at h
  · split at h
    · obtain rfl := Option.some.inj h
      exact List.nodup_singleton _
    · dsimp only at h
      split at h
      · obtain rfl := Option.some.inj h
        exact Series.nodup_eraseDups _
      · simp at h

variable {source : String} {reason : ℕ → String}

/-- The lookup tells nobody, and leaves the latch; where it throws, that is clear. -/
theorem Incidents.Kept.lookUp (h : s.Kept) (tenant : Option (Option AlertTenant))
    (ht : s.timely (.lookUp i tenant) = true) :
    (s.step source reason (.lookUp i tenant)).Kept := by
  simp only [Incidents.step]
  split
  · next hphase =>
    have hclear : s.latch = false := by simpa using ht
    exact h.set (fun _ _ => congrArg some hclear) rfl rfl (fun hrun => Bool.noConfusion hrun)
  · next tenant hphase =>
    have hrun : (s.alerts i).running = true := by simp [Alert.running, hphase]
    have hmailed : (s.alerts i).mailed = [] := by simpa [hphase] using h.sound i
    split
    · exact h.set trivial rfl rfl fun _ => hrun
    · next found hfound =>
      refine h.set ?_ rfl rfl fun _ => hrun
      show ((s.alerts i).mailed ++ found.emails).Nodup
      rw [hmailed, List.nil_append]
      exact alertRecipients_nodup hfound
  · exact h

/-- A send in the incident of its call tells somebody new; one that fails tells nobody. -/
theorem Incidents.Kept.send (h : s.Kept) (ok : Bool) (ht : s.timely (.send i ok) = true) :
    (s.step source reason (.send i ok)).Kept := by
  simp only [Incidents.step]
  split
  · next tenantName recipient rest hphase =>
    have hrun : (s.alerts i).running = true := by simp [Alert.running, hphase]
    have hnodup : ((s.alerts i).mailed ++ [recipient] ++ rest).Nodup := by
      simpa [hphase] using h.sound i
    split
    · next hok =>
      subst hok
      have hfresh : (s.alerts i).armedIn = some s.successes := by
        simpa using ht
      refine h.sent ⟨hrun, hfresh⟩ rfl rfl ?_ (List.nodup_append.mp hnodup).1
      by_cases hrest : rest = []
      · -- the call ends, and it has told somebody
        simp [hrest]
      · simpa [hrest] using hnodup
    · exact h.set trivial rfl rfl fun _ => hrun
  · exact h

/-- Clearing a clear latch changes nothing for the others. A latch that is set is cleared by its
holder, who has told nobody. -/
theorem Incidents.Kept.clear (h : s.Kept) (ht : s.timely (.clear i) = true) :
    (s.step source reason (.clear i)).Kept := by
  simp only [Incidents.step]
  split
  · next result hphase =>
    have hrun : (s.alerts i).running = true := by simp [Alert.running, hphase]
    have hset := h.set (i := i) (a := { s.alerts i with phase := .done result, left := some false })
      (fun _ _ => rfl) rfl rfl fun hrun => Bool.noConfusion hrun
    have hfree : s.latch = false ∨ s.Holds i ∧ (s.alerts i).mailed = [] := by
      simpa [Incidents.Holds, hrun] using ht
    refine hset.cleared (fun j hj => ?_) ?_
    · -- the call itself has ended; another that holds the latch would be the call
      have hholds : s.Holds j := holds_of_set (i := i)
        (a := { s.alerts i with phase := .done result, left := some false }) rfl (fun _ => hrun) hj
      rcases hfree with hlatch | ⟨hi, -⟩
      · exact h.not_holds hlatch hholds
      · obtain rfl := h.one j i hholds hi
        have := hj.1
        rw [alerts_set_self] at this
        exact Bool.noConfusion this
    · rcases hfree with hlatch | ⟨hi, hmailed⟩
      · exact h.free hlatch
      · exact (h.current i hi).trans hmailed
  · exact h

/-- A timely step keeps it all. -/
theorem Incidents.Kept.step (h : s.Kept) {e : IncidentStep} (ht : s.timely e = true) :
    (s.step source reason e).Kept := by
  match e with
  | .openIncident i =>
    simp only [Incidents.step]
    split
    · next hphase =>
      split
      · -- the latch is another's: the call returns false
        have hsound := h.sound i
        rw [Alert.Sound, hphase] at hsound
        refine h.set (fun harmed => ?_) rfl rfl fun hrun => Bool.noConfusion hrun
        simp [hsound.2] at harmed
      · next hlatch => exact h.armed (by simpa using hlatch) hphase
    · exact h
  | .lookUp i tenant => exact h.lookUp tenant ht
  | .send i ok => exact h.send ok ht
  | .clear i => exact h.clear ht
  | .success => exact h.succeeded

/-- At first nobody was told and no call runs, and the latch may stand from an earlier incident. -/
theorem Incidents.Kept.start (latch : Bool) : ({ latch } : Incidents).Kept where
  sound _ := ⟨rfl, rfl⟩
  early _ _ hn := by simp at hn
  one _ _ hi _ := Bool.noConfusion hi.1
  latched _ hi := Bool.noConfusion hi.1
  current _ hi := Bool.noConfusion hi.1
  free _ := rfl
  nodup _ := List.nodup_nil
  later _ _ := rfl

/-- A timely run keeps it all. -/
theorem Incidents.Kept.run {steps : List IncidentStep} (h : s.Kept)
    (ht : s.TimelyRun source reason steps) : (s.run source reason steps).Kept := by
  induction steps generalizing s with
  | nil => exact h
  | cons e steps ih => exact ih (h.step ht.1) ht.2

end Step

/-! ## Once per incident -/

/-- **Once per incident.** In every run in which a call sends only while no sync has succeeded since
it armed the latch, clears a latch that is set only if moreover it has told nobody, and does not
fail to look its recipients up while the latch is set, nobody is sent two alerts between two syncs
that succeed, and a call that told nobody leaves the latch clear. -/
theorem oncePerIncident_of_timely (source : String) (reason : ℕ → String) (latch : Bool)
    (steps : List IncidentStep) (h : ({ latch } : Incidents).TimelyRun source reason steps) :
    (({ latch } : Incidents).run source reason steps).OncePerIncident :=
  ((Incidents.Kept.start latch).run h).oncePerIncident

/-- A shop whose two owners both hear about a store that stopped syncing. -/
def ownersShop : AlertTenant where
  name := "Duka"
  alertEmail := none
  members := [{ reconnectAlert := none, email := "amina@duka.test" },
    { reconnectAlert := some true, email := "baraka@duka.test" }]

/-- An alert whose first send fails, its retry, a sync that succeeds and the next incident. -/
theorem oncePerIncident_retry :
    ((({ latch := false } : Incidents).run "pos" (fun _ => "timeout")
      [.openIncident 0, .lookUp 0 (some (some ownersShop)), .send 0 false, .clear 0,
        .openIncident 1, .lookUp 1 (some (some ownersShop)), .send 1 true, .send 1 true,
        .openIncident 2, .success, .openIncident 3, .lookUp 3 (some (some ownersShop)),
        .send 3 true])).OncePerIncident :=
  oncePerIncident_of_timely _ _ _ _ (by decide)

/-- Not every run alerts once per incident: the owner who was told before a send to the other failed
is told again by the next attempt; so is one whose alert was on its way when a sync succeeded and
another failed; and an attempt that failed to look the owners up leaves the latch set, with nobody
told. -/
theorem not_oncePerIncident :
    ¬ (({ latch := false } : Incidents).run "pos" (fun _ => "timeout")
        [.openIncident 0, .lookUp 0 (some (some ownersShop)), .send 0 true, .send 0 false, .clear 0,
          .openIncident 1, .lookUp 1 (some (some ownersShop)), .send 1 true]).OncePerIncident ∧
      ¬ (({ latch := false } : Incidents).run "pos" (fun _ => "timeout")
        [.openIncident 0, .lookUp 0 (some (some ownersShop)), .success, .openIncident 1,
          .lookUp 1 (some (some ownersShop)), .send 0 true, .send 1 true]).OncePerIncident ∧
      ¬ (({ latch := false } : Incidents).run "pos" (fun _ => "timeout")
        [.openIncident 0, .lookUp 0 none]).OncePerIncident := by
  refine ⟨fun h => ?_, fun h => ?_, fun h => ?_⟩
  · exact absurd (h.once 0 "amina@duka.test") (by decide)
  · exact absurd (h.once 1 "amina@duka.test") (by decide)
  · exact absurd (h.retried 0 none (by decide) (by decide) (by decide))
      (by decide)

end Restock.Worker
