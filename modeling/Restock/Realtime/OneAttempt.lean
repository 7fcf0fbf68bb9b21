import Mathlib.Data.List.Induction
import Restock.Realtime.Client

/-!
# One connection attempt

The client is to have one attempt at a connection at a time, a socket or a retry timer, and
none after `dispose`. A listener that calls `dispose` in the middle of `scheduleRetry` or
`openSocket` breaks the second half: both go on where they were, with a timer or a socket that
nobody will clear or close.

* `Single`, `Quiet` — one attempt at most; none once the client is done;
* `Disposes` — what a listener's call of `dispose` must not interrupt, `Timely` — a callback
  that none interrupts;
* `Sound` — the invariant of timely callbacks;
* `oneAttempt_iff` — of every run: one attempt at most in every state and none once the
  client is done, exactly when every callback was timely.
-/

namespace Restock.Realtime

namespace Client

/-- A socket that neither the client has closed nor its close event has ended. -/
def Unclosed (s : Client) (ws : ℕ) : Prop :=
  ∃ socket, s.sockets[ws]? = some socket ∧ socket.closeCalled = false ∧ socket.closeFired = false

/-- One attempt at most: a socket that is not closed or a timer that is pending. -/
structure Single (s : Client) : Prop where
  sockets : ∀ ws ws', s.Unclosed ws → s.Unclosed ws' → ws = ws'
  timers : s.timers.length ≤ 1
  either : s.timers ≠ [] → ∀ ws, ¬ s.Unclosed ws

/-- Once the client is done, as it is when `dispose` returns, nothing is alive. -/
def Quiet (s : Client) : Prop :=
  s.done = true → s.timers = [] ∧ ∀ ws, ¬ s.Unclosed ws

/-- A listener calls `dispose` when it is told a state, and no listener throws. -/
def Disposes (react : Reactions) (next : ConnectionState) (s : Client) : Prop :=
  (∃ id ∈ s.stateListeners, (react id next).disposes = true) ∧
    ∀ id ∈ s.stateListeners, (react id next).throws = false

/-- The client is told a state without a listener that disposes or throws. -/
def Undisturbed (react : Reactions) (next : ConnectionState) (s : Client) : Prop :=
  s.state = next ∨ ∀ id ∈ s.stateListeners,
    (react id next).disposes = false ∧ (react id next).throws = false

/-- Opening a socket is timely unless a listener disposes when it is told that the client is
connecting, or, after the factory has thrown, that it is retrying. -/
def TimelyOpen (react : Reactions) (factoryThrows : Bool) (s : Client) : Prop :=
  if factoryThrows then Undisturbed react .connecting s → ¬ Disposes react .retrying s
  else s.state ≠ .connecting → ¬ Disposes react .connecting s

/-- A callback is timely unless a listener disposes when it is told of a retry or of a new
connection. -/
def Timely (s : Client) (turn : Turn) : Prop :=
  match turn.event with
  | .closed ws code =>
      s.pending ws → s.live ws → code ≠ some CLOSE_UNAUTHORIZED → s.state ≠ .retrying →
        ¬ Disposes turn.react .retrying s
  | .timer timer =>
      s.done = false → timer ∈ s.timers → TimelyOpen turn.react turn.factoryThrows s
  | .online => s.done = false → s.state = .retrying → TimelyOpen turn.react turn.factoryThrows s
  | _ => True

/-! ## The functions of the closure -/

section Closure

variable {react : Reactions} {next : ConnectionState} {s : Client}

/-- After the loop over the listeners either none has disposed, or one has. -/
theorem notify_client {dispose : Client → Client} (hidem : ∀ s, dispose (dispose s) = dispose s)
    (ids : List ListenerId) (s : Client) :
    (notify react dispose next ids s).client = s ∨
      (notify react dispose next ids s).client = dispose s := by
  induction ids generalizing s with
  | nil => exact Or.inl rfl
  | cons id ids ih =>
      rw [notify]
      cases hd : (react id next).disposes <;> cases ht : (react id next).throws
      · exact ih s
      · exact Or.inl rfl
      · rcases ih (dispose s) with h | h
        · exact Or.inr h
        · exact Or.inr (h.trans (hidem s))
      · exact Or.inr rfl

/-- The loop over listeners none of which throws. -/
theorem notify_of_not_throws {dispose : Client → Client}
    (hidem : ∀ s, dispose (dispose s) = dispose s) {ids : List ListenerId}
    (h : ∀ id ∈ ids, (react id next).throws = false) (s : Client) :
    notify react dispose next ids s
      = .ok (if ids.any fun id => (react id next).disposes then dispose s else s) := by
  induction ids generalizing s with
  | nil => rfl
  | cons id ids ih =>
      obtain ⟨hid, hids⟩ := List.forall_mem_cons.mp h
      rw [notify, hid, ih hids, List.any_cons]
      cases (react id next).disposes
      · rfl
      · simp [hidem]

/-- The loop over listeners one of which throws. -/
theorem notify_of_throws {dispose : Client → Client} {ids : List ListenerId}
    (h : ∃ id ∈ ids, (react id next).throws = true) (s : Client) :
    ∃ s', notify react dispose next ids s = .error s' := by
  induction ids generalizing s with
  | nil =>
      obtain ⟨_, hmem, -⟩ := h
      cases hmem
  | cons id ids ih =>
      rw [notify]
      cases ht : (react id next).throws with
      | true => exact ⟨_, rfl⟩
      | false =>
          obtain ⟨id', hmem, hthrows⟩ := h
          rcases List.mem_cons.mp hmem with rfl | hmem
          · rw [ht] at hthrows
            cases hthrows
          · exact ih ⟨id', hmem, hthrows⟩ _

/-- What `shutdown` leaves of a client that was not done. -/
structure Shut (closeCurrent : Option ℕ) (s s' : Client) : Prop where
  done : s'.done = true
  timers : s'.timers = s.clearRetry.timers
  sockets : s'.sockets = (s.closeSocket closeCurrent).sockets

/-- Telling that the client is closed changes its state at most. -/
theorem setState_closed_client (s : Client) :
    ∃ state, (setState react id .closed s).client = { s with state } := by
  rw [setState]
  split
  · exact ⟨s.state, rfl⟩
  · exact ⟨.closed, (notify_client (fun _ => rfl) _ _).elim (·) (·)⟩

/-- `shutdown` clears the timer and closes the socket, whatever the listeners do. -/
theorem shutdown_client (closeCurrent : Option ℕ) (hd : s.done = false) :
    Shut closeCurrent s (shutdown react closeCurrent s).client := by
  -- the client as `setState` finds it
  let closing : Client :=
    closeSocket closeCurrent
      { s.clearRetry with done := true, generation := s.generation + 1, socket := none }
  have hclosing : Shut closeCurrent s closing := by
    cases closeCurrent <;> cases hr : s.retryTimer <;>
      exact ⟨rfl, rfl, by simp [closing, closeSocket, clearRetry, hr]⟩
  obtain ⟨state, hstate⟩ := @setState_closed_client react closing
  have hshutdown : shutdown react closeCurrent s
      = setState react id .closed closing >>= fun s => .ok { s with stateListeners := [] } := by
    rw [shutdown, hd]
    rfl
  rw [hshutdown]
  cases hset : setState react id .closed closing with
  | error s' =>
      rw [hset] at hstate
      obtain rfl : s' = _ := hstate
      exact ⟨hclosing.done, hclosing.timers, hclosing.sockets⟩
  | ok s' =>
      rw [hset] at hstate
      obtain rfl : s' = _ := hstate
      exact ⟨hclosing.done, hclosing.timers, hclosing.sockets⟩

/-- A client that is done does nothing when it is disposed of. -/
theorem disposeInside_of_done (hd : s.done = true) : disposeInside react s = s := by
  rw [disposeInside, dispose, shutdown, if_pos hd]
  rfl

/-- A client that has been disposed of is done. -/
theorem done_disposeInside (s : Client) : (disposeInside react s).done = true := by
  cases hd : s.done with
  | true => rwa [disposeInside_of_done hd]
  | false => exact (shutdown_client s.socket hd).done

/-- Disposing once more does nothing. -/
theorem disposeInside_idem (s : Client) :
    disposeInside react (disposeInside react s) = disposeInside react s :=
  disposeInside_of_done (done_disposeInside s)

/-- What telling a state leaves: the client with the state, or disposed of. -/
theorem setState_client (next : ConnectionState) (s : Client) :
    (setState react (disposeInside react) next s).client = { s with state := next } ∨
      (setState react (disposeInside react) next s).client
        = disposeInside react { s with state := next } := by
  rw [setState]
  split
  · rename_i h
    exact Or.inl (by rw [← h]; rfl)
  · exact notify_client disposeInside_idem _ _

/-- A state is told, and no listener that is told disposes or throws. -/
theorem setState_of_undisturbed (h : Undisturbed react next s) :
    setState react (disposeInside react) next s = .ok { s with state := next } := by
  rw [setState]
  split
  · rename_i hstate
    rw [← hstate]
  · rename_i hstate
    have hids := h.resolve_left hstate
    rw [notify_of_not_throws disposeInside_idem fun id hid => (hids id hid).2]
    have hany : (s.stateListeners.any fun id => (react id next).disposes) = false :=
      List.any_eq_false.mpr fun id hid => by simp [(hids id hid).1]
    rw [hany]
    rfl

/-- A state is told, and a listener disposes. -/
theorem setState_of_disposes (hne : s.state ≠ next) (h : Disposes react next s) :
    setState react (disposeInside react) next s
      = .ok (disposeInside react { s with state := next }) := by
  rw [setState, if_neg hne, notify_of_not_throws disposeInside_idem h.2,
    if_pos (List.any_eq_true.mpr h.1)]

/-- Telling a state returns only if no listener disposes or throws, or one disposes. -/
theorem setState_ok {s' : Client}
    (h : setState react (disposeInside react) next s = .ok s') :
    (Undisturbed react next s ∧ s' = { s with state := next }) ∨
      (s.state ≠ next ∧ Disposes react next s ∧
        s' = disposeInside react { s with state := next }) := by
  by_cases hstate : s.state = next
  · have hun : Undisturbed react next s := Or.inl hstate
    rw [setState_of_undisturbed hun] at h
    exact Or.inl ⟨hun, (Except.ok.inj h).symm⟩
  by_cases hthrows : ∃ id ∈ s.stateListeners, (react id next).throws = true
  · obtain ⟨s'', herror⟩ := @notify_of_throws react next (disposeInside react) _ hthrows
      { s with state := next }
    rw [setState, if_neg hstate, herror] at h
    cases h
  have hnot : ∀ id ∈ s.stateListeners, (react id next).throws = false := by
    simpa using hthrows
  by_cases hdisposes : ∃ id ∈ s.stateListeners, (react id next).disposes = true
  · rw [setState_of_disposes hstate ⟨hdisposes, hnot⟩] at h
    exact Or.inr ⟨hstate, ⟨hdisposes, hnot⟩, (Except.ok.inj h).symm⟩
  · have hun : Undisturbed react next s := Or.inr fun id hid =>
      ⟨by simpa using fun hd => hdisposes ⟨id, hid, hd⟩, hnot id hid⟩
    rw [setState_of_undisturbed hun] at h
    exact Or.inl ⟨hun, (Except.ok.inj h).symm⟩

end Closure

/-! ## The invariant -/

/-- A client at work. -/
structure Alive (s : Client) : Prop where
  /-- The timer that is pending is the one that is remembered. -/
  timers : s.timers = s.retryTimer.toList
  /-- The client has closed no socket, and all but the current one have ended. -/
  sockets : ∀ (ws : ℕ) (socket : ClientSocket), s.sockets[ws]? = some socket →
    socket.closeCalled = false ∧ (socket.closeFired = false ↔ s.socket = some ws)
  /-- The current socket is of the current generation, and there is no retry meanwhile. -/
  current : ∀ ws, s.socket = some ws → s.retryTimer = none ∧ s.state ≠ .retrying ∧
    ∃ socket : ClientSocket, s.sockets[ws]? = some socket ∧ socket.generation = s.generation

/-- A client with neither a current socket nor a timer. -/
structure Idle (s : Client) : Prop where
  timers : s.timers = []
  retryTimer : s.retryTimer = none
  socket : s.socket = none
  sockets : ∀ (ws : ℕ) (socket : ClientSocket), s.sockets[ws]? = some socket →
    socket.closeCalled = false ∧ socket.closeFired = true

/-- A client with nothing alive. -/
structure Over (s : Client) : Prop where
  timers : s.timers = []
  sockets : ∀ (ws : ℕ) (socket : ClientSocket), s.sockets[ws]? = some socket →
    socket.closeCalled = true ∨ socket.closeFired = true

/-- The invariant of timely callbacks. -/
structure Sound (s : Client) : Prop where
  alive : s.done = false → s.Alive
  disposed : s.done = true → s.Over

section Invariant

variable {react : Reactions} {s s' : Client}

/-- A socket after one was changed. -/
theorem of_getElem?_modify {sockets : List ClientSocket} {f : ClientSocket → ClientSocket}
    {changed ws : ℕ} {socket : ClientSocket}
    (h : (sockets.modify changed f)[ws]? = some socket) :
    ∃ old, sockets[ws]? = some old ∧
      ((changed = ws ∧ socket = f old) ∨ (changed ≠ ws ∧ socket = old)) := by
  rw [List.getElem?_modify] at h
  obtain ⟨old, hold, heq⟩ := Option.map_eq_some_iff.mp h
  refine ⟨old, hold, ?_⟩
  split at heq
  · rename_i hws
    exact Or.inl ⟨hws, heq.symm⟩
  · rename_i hws
    exact Or.inr ⟨hws, heq.symm⟩

/-- No socket is unclosed where nothing is alive. -/
theorem Over.not_unclosed (h : s.Over) (ws : ℕ) : ¬ s.Unclosed ws := by
  rintro ⟨socket, hsocket, hcalled, hfired⟩
  rcases h.sockets ws socket hsocket with hc | hc
  · rw [hcalled] at hc
    cases hc
  · rw [hfired] at hc
    cases hc

/-- The socket that is not closed is the current one. -/
theorem Alive.socket_of_unclosed (h : s.Alive) {ws : ℕ} (hws : s.Unclosed ws) :
    s.socket = some ws := by
  obtain ⟨socket, hsocket, -, hfired⟩ := hws
  exact (h.sockets ws socket hsocket).2.mp hfired

/-- The invariant leaves one attempt at most. -/
theorem Sound.single (h : s.Sound) : s.Single := by
  cases hd : s.done with
  | true =>
      have hover := h.disposed hd
      refine ⟨fun ws _ hws => absurd hws (hover.not_unclosed ws), ?_, fun hne => ?_⟩
      · rw [hover.timers]
        exact Nat.zero_le 1
      · exact absurd hover.timers hne
  | false =>
      have halive := h.alive hd
      refine ⟨fun ws ws' hws hws' => ?_, ?_, fun hne ws hws => ?_⟩
      · have hsocket := halive.socket_of_unclosed hws
        rw [halive.socket_of_unclosed hws'] at hsocket
        exact (Option.some.inj hsocket).symm
      · rw [halive.timers]
        cases s.retryTimer <;> simp
      · obtain ⟨hnone, -⟩ := halive.current ws (halive.socket_of_unclosed hws)
        rw [halive.timers, hnone] at hne
        exact hne rfl

/-- The invariant leaves nothing alive once the client is done. -/
theorem Sound.quiet (h : s.Sound) : s.Quiet :=
  fun hd => ⟨(h.disposed hd).timers, (h.disposed hd).not_unclosed⟩

/-- An idle client is at work, in any state. -/
theorem Idle.alive (h : s.Idle) : s.Alive where
  timers := by rw [h.timers, h.retryTimer]; rfl
  sockets ws socket hsocket := by
    obtain ⟨hcalled, hfired⟩ := h.sockets ws socket hsocket
    rw [hfired, h.socket]
    exact ⟨hcalled, by simp⟩
  current ws hws := by
    rw [h.socket] at hws
    cases hws

/-- Disposing of a client at work leaves nothing alive. -/
theorem Alive.over_disposeInside (h : s.Alive) (hd : s.done = false) :
    (disposeInside react s).Over := by
  obtain ⟨-, htimers, hsockets⟩ : Shut s.socket s (disposeInside react s) :=
    shutdown_client s.socket hd
  refine ⟨?_, fun ws socket hsocket => ?_⟩
  · rw [htimers, clearRetry]
    cases hr : s.retryTimer with
    | none => rw [h.timers, hr]; rfl
    | some timer => simp [h.timers, hr]
  · rw [hsockets] at hsocket
    cases hcurrent : s.socket with
    | none =>
        rw [hcurrent] at hsocket
        obtain ⟨-, hfired⟩ := h.sockets ws socket hsocket
        rw [hcurrent] at hfired
        cases hf : socket.closeFired with
        | true => exact Or.inr rfl
        | false => cases hfired.mp hf
    | some current =>
        rw [hcurrent] at hsocket
        obtain ⟨old, hold, ⟨rfl, rfl⟩ | ⟨hne, rfl⟩⟩ := of_getElem?_modify hsocket
        · exact Or.inl rfl
        · obtain ⟨-, hfired⟩ := h.sockets ws socket hold
          rw [hcurrent, Option.some_inj] at hfired
          cases hf : socket.closeFired with
          | true => exact Or.inr rfl
          | false => exact absurd (hfired.mp hf) hne

/-- A client that is over keeps the invariant. -/
theorem Sound.of_over (hd : s.done = true) (h : s.Over) : s.Sound :=
  ⟨fun hnot => absurd hd (by rw [hnot]; nofun), fun _ => h⟩

/-- A client at work keeps the invariant. -/
theorem Sound.of_alive (hd : s.done = false) (h : s.Alive) : s.Sound :=
  ⟨fun _ => h, fun hdone => absurd hdone (by rw [hd]; nofun)⟩

/-- Disposing of a client keeps the invariant. -/
theorem Sound.disposeInside (h : s.Sound) : (disposeInside react s).Sound := by
  cases hd : s.done with
  | true => rwa [disposeInside_of_done hd]
  | false => exact .of_over (done_disposeInside s) ((h.alive hd).over_disposeInside hd)

/-- Telling a state keeps the invariant, wherever a listener disposes or throws. -/
theorem Sound.setState {next : ConnectionState} (h : ({ s with state := next } : Client).Sound) :
    (setState react (Client.disposeInside react) next s).client.Sound := by
  rcases @setState_client react next s with heq | heq
  · rwa [heq]
  · rw [heq]
    exact h.disposeInside

/-- A call that goes on after telling a state keeps the invariant if what follows does. -/
theorem Sound.bind {x : Left} {f : Client → Left} (h : x.client.Sound)
    (hf : ∀ s', x = .ok s' → (f s').client.Sound) : (Left.client (x >>= f)).Sound := by
  cases x with
  | ok s' => exact hf s' rfl
  | error s' => exact h

/-- An idle client schedules its retry, unless a listener disposes when it is told. -/
theorem Idle.sound_scheduleRetry (h : s.Idle) (hd : s.done = false)
    (htimely : s.state ≠ .retrying → ¬ Disposes react .retrying s) :
    (scheduleRetry react s).client.Sound := by
  have hretrying : ({ s with state := .retrying } : Client).Sound :=
    .of_alive hd (Idle.alive ⟨h.timers, h.retryTimer, h.socket, h.sockets⟩)
  rw [scheduleRetry, hd, if_neg Bool.false_ne_true]
  refine hretrying.setState.bind fun s' hok => ?_
  rcases setState_ok hok with ⟨-, rfl⟩ | ⟨hne, hdisposes, -⟩
  · refine .of_alive hd ⟨?_, h.alive.sockets, fun ws hws => ?_⟩
    · simp [h.timers]
    · cases h.socket.symm.trans hws
  · exact absurd hdisposes (htimely hne)

/-- A client that is over schedules nothing. -/
theorem Over.sound_scheduleRetry (h : s.Over) (hd : s.done = true) :
    (scheduleRetry react s).client.Sound := by
  rw [scheduleRetry, if_pos hd]
  exact .of_over hd h

/-- The socket that an idle client opens is the current one. -/
theorem Idle.alive_opened (h : s.Idle) (generation : ℕ) :
    Alive { s with
      state := .connecting
      generation
      sockets := s.sockets ++ [{ generation }]
      socket := some s.sockets.length } := by
  refine ⟨?_, fun ws socket hsocket => ?_, fun ws hws => ?_⟩
  · exact h.alive.timers
  · rcases Nat.lt_or_ge ws s.sockets.length with hlt | hge
    · rw [List.getElem?_append_left hlt] at hsocket
      obtain ⟨hcalled, hfired⟩ := h.sockets ws socket hsocket
      refine ⟨hcalled, iff_of_false (by simp [hfired]) fun heq => ?_⟩
      exact absurd (Option.some.inj heq) (Nat.ne_of_gt hlt)
    · rw [List.getElem?_append_right hge, List.getElem?_singleton] at hsocket
      split at hsocket
      · rename_i hzero
        obtain rfl := Option.some.inj hsocket
        exact ⟨rfl, iff_of_true rfl (congrArg some (by omega))⟩
      · cases hsocket
  · obtain rfl := Option.some.inj hws
    exact ⟨h.retryTimer, nofun, { generation }, by simp, rfl⟩

/-- An idle client opens a socket, unless a listener disposes when it is told. -/
theorem Idle.sound_openSocket (h : s.Idle) (hd : s.done = false) {factoryThrows : Bool}
    (htimely : TimelyOpen react factoryThrows s) :
    (openSocket react false factoryThrows s).client.Sound := by
  have hconnecting : ({ s with state := .connecting } : Client).Sound :=
    .of_alive hd (Idle.alive ⟨h.timers, h.retryTimer, h.socket, h.sockets⟩)
  rw [openSocket, hd, if_neg Bool.false_ne_true]
  refine hconnecting.setState.bind fun s' hok => ?_
  cases factoryThrows with
  | true =>
      rcases setState_ok hok with ⟨hun, rfl⟩ | ⟨-, -, rfl⟩
      · -- the factory throws, and the client retries
        exact Idle.sound_scheduleRetry ⟨h.timers, h.retryTimer, h.socket, h.sockets⟩ hd
          fun _ => htimely hun
      · -- the client has been disposed of, and `scheduleRetry` returns at once
        have hdone := @done_disposeInside react { s with state := .connecting }
        have hover := hconnecting.disposeInside.disposed hdone
        exact Over.sound_scheduleRetry ⟨hover.timers, hover.sockets⟩ hdone
  | false =>
      rcases setState_ok hok with ⟨-, rfl⟩ | ⟨hne, hdisposes, -⟩
      · exact .of_alive hd (h.alive_opened _)
      · exact absurd hdisposes (htimely hne)

/-- The sockets of a client at work that has no current one have ended. -/
theorem Alive.ended (h : s.Alive) (hnone : s.socket = none) :
    ∀ (ws : ℕ) (socket : ClientSocket), s.sockets[ws]? = some socket →
      socket.closeCalled = false ∧ socket.closeFired = true := by
  intro ws socket hsocket
  obtain ⟨hcalled, hfired⟩ := h.sockets ws socket hsocket
  rw [hnone] at hfired
  refine ⟨hcalled, ?_⟩
  cases hf : socket.closeFired with
  | true => rfl
  | false => cases hfired.mp hf

/-- While a timer is pending there is no socket. -/
theorem Alive.socket_of_timers (h : s.Alive) (hne : s.timers ≠ []) : s.socket = none := by
  cases hsocket : s.socket with
  | none => rfl
  | some ws =>
      obtain ⟨hnone, -⟩ := h.current ws hsocket
      rw [h.timers, hnone] at hne
      exact absurd rfl hne

/-- Clearing the timer changes nothing but the timer. -/
theorem clearRetry_eq (s : Client) :
    s.clearRetry
      = { s with timers := s.clearRetry.timers, retryTimer := s.clearRetry.retryTimer } := by
  unfold clearRetry
  cases s.retryTimer <;> rfl

/-- Clearing the timer leaves none. -/
theorem Alive.timers_clearRetry (h : s.Alive) :
    s.clearRetry.timers = [] ∧ s.clearRetry.retryTimer = none := by
  unfold clearRetry
  cases hr : s.retryTimer with
  | none => exact ⟨by rw [h.timers, hr]; rfl, hr⟩
  | some timer => exact ⟨by simp [h.timers, hr], rfl⟩

/-! ## Callbacks -/

/-- The open event of a socket keeps the invariant. -/
theorem sound_onOpen (h : s.Sound) (ws : ℕ) : (onOpen react ws s).Sound := by
  rw [onOpen]
  split
  · rename_i hlive
    have hd : s.done = false := by
      simp only [live, Bool.and_eq_true, Bool.not_eq_true'] at hlive
      exact hlive.2.1
    have halive := h.alive hd
    refine Sound.setState (.of_alive hd ⟨halive.timers, halive.sockets, fun ws hws => ?_⟩)
    obtain ⟨hretry, -, hcurrent⟩ := halive.current ws hws
    exact ⟨hretry, nofun, hcurrent⟩
  · exact h

/-- The message event of a socket keeps the invariant. -/
theorem sound_onMessage (h : s.Sound) (ws : ℕ) (disposes : Bool) :
    (onMessage react ws disposes s).Sound := by
  rw [onMessage]
  split
  · exact h.disposeInside
  · exact h

/-- The close event of a socket keeps the invariant, if it is timely. -/
theorem sound_onClose (h : s.Sound) (ws : ℕ) (code : Option ℕ)
    (htimely : s.pending ws → s.live ws → code ≠ some CLOSE_UNAUTHORIZED → s.state ≠ .retrying →
      ¬ Disposes react .retrying s) :
    (onClose react ws code s).Sound := by
  rw [onClose]
  split
  swap
  · exact h
  rename_i hpending
  obtain ⟨socket, hsocket, hfired⟩ := (Option.any_eq_true _ _).mp hpending
  dsimp only
  rcases Bool.eq_false_or_eq_true s.done with hd | hd
  · -- the listener of a client that is done does nothing
    have hlive : s.live ws = false := by simp [live, hd]
    rw [if_neg (by simp [hlive])]
    refine .of_over hd ⟨(h.disposed hd).timers, fun ws' socket' hget => ?_⟩
    obtain ⟨old, hold, ⟨-, rfl⟩ | ⟨-, rfl⟩⟩ := of_getElem?_modify hget
    · exact Or.inr rfl
    · exact (h.disposed hd).sockets ws' _ hold
  · -- the socket is the current one
    have halive := h.alive hd
    have hcurrent : s.socket = some ws :=
      (halive.sockets ws socket hsocket).2.mp (by simpa using hfired)
    obtain ⟨hretry, -, current, hget, hgeneration⟩ := halive.current ws hcurrent
    have hlive : s.live ws = true := by simp [live, hd, hget, hgeneration]
    have htimers : s.timers = [] := by rw [halive.timers, hretry]; rfl
    have hidle : Idle { s with
        sockets := s.sockets.modify ws ({ · with closeFired := true })
        socket := none } := by
      refine ⟨htimers, hretry, rfl, fun ws' socket' hget => ?_⟩
      obtain ⟨old, hold, ⟨-, rfl⟩ | ⟨hne, rfl⟩⟩ := of_getElem?_modify hget
      · exact ⟨(halive.sockets ws' old hold).1, rfl⟩
      · obtain ⟨hcalled, hiff⟩ := halive.sockets ws' _ hold
        refine ⟨hcalled, ?_⟩
        cases hf : socket'.closeFired with
        | true => rfl
        | false => exact absurd (Option.some.inj (hcurrent.symm.trans (hiff.mp hf))) hne
    rw [if_pos hlive]
    split
    · -- `shutdown` finds no current socket
      have hsound : Sound { s with
          sockets := s.sockets.modify ws ({ · with closeFired := true })
          socket := none } := .of_alive hd hidle.alive
      exact hsound.disposeInside
    · rename_i hcode
      exact hidle.sound_scheduleRetry hd (htimely hpending hlive hcode)

/-- A timer that fires keeps the invariant, if it is timely. -/
theorem sound_onTimer (h : s.Sound) (factoryThrows : Bool) (timer : ℕ)
    (htimely : s.done = false → timer ∈ s.timers → TimelyOpen react factoryThrows s) :
    (onTimer react factoryThrows timer s).Sound := by
  rw [onTimer]
  split
  swap
  · exact h
  rename_i hmem
  have hd : s.done = false := by
    refine Bool.eq_false_iff.mpr fun hd => ?_
    rw [(h.disposed hd).timers] at hmem
    cases hmem
  have halive := h.alive hd
  have hsocket := halive.socket_of_timers (List.ne_nil_of_mem hmem)
  have htimers : s.timers.filter (· ≠ timer) = [] := by
    rw [halive.timers] at hmem ⊢
    cases hr : s.retryTimer with
    | none => rfl
    | some t =>
        rw [hr] at hmem
        obtain rfl := List.mem_singleton.mp hmem
        simp
  have hidle : Idle { s with timers := s.timers.filter (· ≠ timer), retryTimer := none } :=
    ⟨htimers, rfl, hsocket, halive.ended hsocket⟩
  exact hidle.sound_openSocket hd (htimely hd hmem)

/-- Coming online keeps the invariant, if it is timely. -/
theorem sound_handleOnline (h : s.Sound) (factoryThrows : Bool)
    (htimely : s.done = false → s.state = .retrying → TimelyOpen react factoryThrows s) :
    (handleOnline react factoryThrows s).Sound := by
  rw [handleOnline]
  split
  · exact h
  rename_i hretrying
  obtain ⟨hdone, hstate⟩ := not_or.mp hretrying
  have hd : s.done = false := Bool.eq_false_iff.mpr hdone
  have halive := h.alive hd
  have hstate := not_not.mp hstate
  have hsocket : s.socket = none := by
    cases hsocket : s.socket with
    | none => rfl
    | some ws => exact absurd hstate (halive.current ws hsocket).2.1
  obtain ⟨htimers, hretry⟩ := halive.timers_clearRetry
  rw [clearRetry_eq, htimers, hretry]
  have hidle : Idle { s with attempt := 0, timers := [], retryTimer := none } :=
    ⟨rfl, rfl, hsocket, halive.ended hsocket⟩
  exact hidle.sound_openSocket hd (htimely hd hstate)

/-- A timely callback keeps the invariant. -/
theorem sound_step (h : s.Sound) {turn : Turn} (htimely : s.Timely turn) :
    (s.step turn).Sound := by
  obtain ⟨event, react, factoryThrows⟩ := turn
  cases event with
  | onStateChange listener =>
      simp only [step]
      split
      · exact h
      · exact ⟨fun hd => ⟨(h.alive hd).timers, (h.alive hd).sockets, (h.alive hd).current⟩,
          fun hd => ⟨(h.disposed hd).timers, (h.disposed hd).sockets⟩⟩
  | unsubscribe listener =>
      exact ⟨fun hd => ⟨(h.alive hd).timers, (h.alive hd).sockets, (h.alive hd).current⟩,
        fun hd => ⟨(h.disposed hd).timers, (h.disposed hd).sockets⟩⟩
  | opened ws => exact sound_onOpen h ws
  | message ws disposes => exact sound_onMessage h ws disposes
  | closed ws code => exact sound_onClose h ws code htimely
  | timer timer => exact sound_onTimer h factoryThrows timer htimely
  | online => exact sound_handleOnline h factoryThrows htimely
  | dispose => exact h.disposeInside

/-! ## Callbacks that are not timely -/

/-- A retry that a listener disposes of is scheduled all the same. -/
theorem not_quiet_scheduleRetry (hd : s.done = false) (hne : s.state ≠ .retrying)
    (hdisposes : Disposes react .retrying s) : ¬ (scheduleRetry react s).client.Quiet := by
  have heq : scheduleRetry react s
      = (setState react (Client.disposeInside react) .retrying s >>= fun s => .ok { s with
          attempt := s.attempt + 1
          timers := s.timers ++ [s.nextTimer]
          retryTimer := some s.nextTimer
          nextTimer := s.nextTimer + 1 }) := by
    rw [scheduleRetry, hd]
    rfl
  rw [heq, setState_of_disposes hne hdisposes]
  intro hquiet
  have htimers := (hquiet (done_disposeInside _)).1
  exact List.append_ne_nil_of_right_ne_nil _ (List.cons_ne_nil _ _) htimers

/-- A socket that a listener disposes of is opened all the same. -/
theorem not_quiet_openSocket (hd : s.done = false) {factoryThrows : Bool}
    (h : ¬ TimelyOpen react factoryThrows s) :
    ¬ (openSocket react false factoryThrows s).client.Quiet := by
  rw [openSocket, hd, if_neg Bool.false_ne_true]
  cases factoryThrows with
  | true =>
      simp only [TimelyOpen, if_true, Classical.not_imp, not_not] at h
      obtain ⟨hun, hdisposes⟩ := h
      rw [setState_of_undisturbed hun]
      exact not_quiet_scheduleRetry hd nofun hdisposes
  | false =>
      simp only [TimelyOpen, Bool.false_eq_true, if_false, Classical.not_imp, not_not] at h
      obtain ⟨hne, hdisposes⟩ := h
      rw [setState_of_disposes hne hdisposes]
      intro hquiet
      refine (hquiet (done_disposeInside _)).2 _ ⟨_, List.getElem?_concat_length, rfl, rfl⟩

/-- A callback that is not timely leaves the client with a timer or a socket after it has been
disposed of. -/
theorem not_quiet_step {turn : Turn} (h : ¬ s.Timely turn) : ¬ (s.step turn).Quiet := by
  obtain ⟨event, react, factoryThrows⟩ := turn
  cases event with
  | closed ws code =>
      simp only [Timely, Classical.not_imp, not_not] at h
      obtain ⟨hpending, hlive, hcode, hne, hdisposes⟩ := h
      have hd : s.done = false := by
        simp only [live, Bool.and_eq_true, Bool.not_eq_true'] at hlive
        exact hlive.1
      simp only [step, onClose, if_pos hpending, if_pos hlive, if_neg hcode]
      exact not_quiet_scheduleRetry hd hne hdisposes
  | timer timer =>
      simp only [Timely, Classical.not_imp] at h
      obtain ⟨hd, hmem, hopen⟩ := h
      simp only [step, onTimer, if_pos hmem]
      refine not_quiet_openSocket ?_ ?_
      · exact hd
      · exact hopen
  | online =>
      simp only [Timely, Classical.not_imp] at h
      obtain ⟨hd, hstate, hopen⟩ := h
      have hgo : ¬ (s.done = true ∨ s.state ≠ .retrying) := by simp [hd, hstate]
      simp only [step, handleOnline, if_neg hgo]
      rw [clearRetry_eq]
      refine not_quiet_openSocket ?_ ?_
      · exact hd
      · exact hopen
  | _ => exact absurd trivial h

end Invariant

/-! ## Runs -/

/-- The client that `connect` returns has one socket. -/
theorem sound_connected : connected.Sound := by
  have hidle : Idle {} := ⟨rfl, rfl, rfl, nofun⟩
  exact .of_alive rfl (hidle.alive_opened 1)

/-- The invariant after timely callbacks. -/
theorem sound_run {turns : List Turn}
    (h : ∀ before turn, before ++ [turn] <+: turns → (run before).Timely turn) :
    (run turns).Sound := by
  induction turns using List.reverseRecOn with
  | nil => exact sound_connected
  | append_singleton turns turn ih =>
      rw [run_concat]
      refine sound_step (ih fun before turn' hp => ?_) (h turns turn (List.prefix_refl _))
      exact h before turn' (hp.trans (List.prefix_append ..))

/-- In every state after some callbacks in any order there is one attempt at most, and none once
the client is done, exactly when no listener has disposed of the client when it was told of a
retry or of a new connection. -/
theorem oneAttempt_iff (turns : List Turn) :
    (∀ before, before <+: turns → (run before).Single ∧ (run before).Quiet) ↔
      ∀ before turn, before ++ [turn] <+: turns → (run before).Timely turn := by
  constructor
  · intro h before turn hp
    by_contra hlate
    have hquiet := (h (before ++ [turn]) hp).2
    rw [run_concat] at hquiet
    exact not_quiet_step hlate hquiet
  · intro h before hp
    have hsound := sound_run fun before' turn hp' => h before' turn (hp'.trans hp)
    exact ⟨hsound.single, hsound.quiet⟩

/-- A listener that disposes of the client on the first lost connection. -/
def disposedWhileRetrying : List Turn :=
  [{ event := .onStateChange 0 },
    { event := .closed 0 (some 1006)
      react := fun _ next => { disposes := next = .retrying } }]

/-- Its timer stays pending. -/
theorem disposedWhileRetrying_pending :
    ¬ ∀ turns, (run turns).Single ∧ (run turns).Quiet := by
  intro hall
  have hdone : (run disposedWhileRetrying).done = true := by decide
  have htimers := ((hall disposedWhileRetrying).2 hdone).1
  revert htimers
  decide

end Client

end Restock.Realtime
