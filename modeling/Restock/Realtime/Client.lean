import Mathlib.Data.List.Basic

/-!
# The realtime client

The reconnecting client of the browser. It is a closure over a few variables, whose callbacks
run to their end one after the other; in the middle of a callback it calls the listeners of
its state, which may call `dispose` themselves. The model is the closure's variables with what
exists outside of it: the sockets it has created and the timers that are pending.

* `Client` — the variables, the sockets and the timers;
* `setState`, `scheduleRetry`, `openSocket`, `shutdown` — the functions of the closure. One
  that throws leaves what it has done until then: `Left`;
* `Turn`, `step` — a callback, with what its listeners do and whether the socket factory
  throws;
* `run` — the state after any callbacks in any order, from the return of `connect`. An event
  that cannot happen, such as a second close of a socket, changes nothing.

How long a timer waits is not modelled: a pending timer may fire at any time.
-/

namespace Restock.Realtime

/-- `ConnectionState`. -/
inductive ConnectionState
  | connecting
  | opened
  | retrying
  | closed
  deriving DecidableEq, Repr

/-- The close code of the gateway for a rejected token. -/
def CLOSE_UNAUTHORIZED : ℕ := 4401

/-- A socket that the client has created. -/
structure ClientSocket where
  /-- The generation it was created in. -/
  generation : ℕ
  /-- The client has called `close`. -/
  closeCalled : Bool := false
  /-- Its close event has fired. -/
  closeFired : Bool := false
  deriving DecidableEq, Repr

/-- A listener of the state. -/
abbrev ListenerId : Type := ℕ

/-- What a listener does when it is called. -/
structure Reaction where
  disposes : Bool := false
  throws : Bool := false

/-- What the listeners do during a callback, which tells each of them a state once at most. -/
abbrev Reactions : Type := ListenerId → ConnectionState → Reaction

/-- The client. -/
structure Client where
  state : ConnectionState := .connecting
  stateListeners : List ListenerId := []
  attempt : ℕ := 0
  /-- The current socket, by its place among those created. -/
  socket : Option ℕ := none
  retryTimer : Option ℕ := none
  generation : ℕ := 0
  done : Bool := false
  /-- Every socket that was created, in order. -/
  sockets : List ClientSocket := []
  /-- The timers that are pending. -/
  timers : List ℕ := []
  nextTimer : ℕ := 0
  deriving DecidableEq, Repr

/-- A call that has returned or thrown, with the state it leaves. -/
abbrev Left : Type := Except Client Client

/-- The state a call leaves, however it ends. -/
def Left.client : Left → Client
  | .ok s => s
  | .error s => s

@[simp] theorem Left.client_ok (s : Client) : Left.client (.ok s) = s := rfl

@[simp] theorem Left.client_error (s : Client) : Left.client (.error s) = s := rfl

namespace Client

/-! ## The functions of the closure -/

section Closure

variable (react : Reactions)

/-- The loop over the listeners: the next ones are not called after one that throws. -/
def notify (dispose : Client → Client) (next : ConnectionState) :
    List ListenerId → Client → Left
  | [], s => .ok s
  | id :: ids, s =>
      let s := if (react id next).disposes then dispose s else s
      if (react id next).throws then .error s else notify dispose next ids s

/-- `setState`, with what a listener's call of `dispose` does. -/
def setState (dispose : Client → Client) (next : ConnectionState) (s : Client) : Left :=
  if s.state = next then .ok s
  else notify react dispose next s.stateListeners { s with state := next }

/-- `clearRetry`. -/
def clearRetry (s : Client) : Client :=
  match s.retryTimer with
  | none => s
  | some timer => { s with timers := s.timers.filter (· ≠ timer), retryTimer := none }

/-- `closeCurrent.close(…)`, if there is a current socket. -/
def closeSocket (closeCurrent : Option ℕ) (s : Client) : Client :=
  match closeCurrent with
  | none => s
  | some ws => { s with sockets := s.sockets.modify ws ({ · with closeCalled := true }) }

/-- `shutdown`. A listener that calls `dispose` here finds `done` set, and nothing happens. -/
def shutdown (closeCurrent : Option ℕ) (s : Client) : Left :=
  if s.done then .ok s
  else do
    let s := { s.clearRetry with done := true, generation := s.generation + 1, socket := none }
    let s ← setState react id .closed (s.closeSocket closeCurrent)
    .ok { s with stateListeners := [] }

/-- `dispose`. -/
def dispose (s : Client) : Left :=
  shutdown react s.socket s

/-- What a listener's call of `dispose` does. -/
def disposeInside (s : Client) : Client :=
  (dispose react s).client

/-- `scheduleRetry`. -/
def scheduleRetry (s : Client) : Left :=
  if s.done then .ok s
  else do
    let s ← setState react (disposeInside react) .retrying s
    .ok { s with
      attempt := s.attempt + 1
      timers := s.timers ++ [s.nextTimer]
      retryTimer := some s.nextTimer
      nextTimer := s.nextTimer + 1 }

/-- `openSocket`, where the socket factory throws or not. -/
def openSocket (initial factoryThrows : Bool) (s : Client) : Left :=
  if s.done then .ok s
  else do
    let s ← setState react (disposeInside react) .connecting s
    let s := { s with generation := s.generation + 1 }
    if factoryThrows then
      if initial then .error s else scheduleRetry react s
    else
      .ok { s with
        sockets := s.sockets ++ [{ generation := s.generation }]
        socket := some s.sockets.length }

/-- `live`, of a socket: the listeners of another one do nothing. -/
def live (s : Client) (ws : ℕ) : Bool :=
  !s.done && s.sockets[ws]?.any fun socket => socket.generation = s.generation

/-- Whether the close event of a socket is still to come. -/
def pending (s : Client) (ws : ℕ) : Bool :=
  s.sockets[ws]?.any fun socket => !socket.closeFired

/-- The open event of a socket. -/
def onOpen (ws : ℕ) (s : Client) : Client :=
  if s.pending ws && s.live ws then
    (setState react (disposeInside react) .opened { s with attempt := 0 }).client
  else s

/-- The message event of a socket, of which a handler may call `dispose`. -/
def onMessage (ws : ℕ) (disposes : Bool) (s : Client) : Client :=
  if s.pending ws && s.live ws && disposes then disposeInside react s else s

/-- The close event of a socket. -/
def onClose (ws : ℕ) (code : Option ℕ) (s : Client) : Client :=
  if s.pending ws then
    let fired := { s with sockets := s.sockets.modify ws ({ · with closeFired := true }) }
    if s.live ws then
      let idle := { fired with socket := none }
      if code = some CLOSE_UNAUTHORIZED then (shutdown react none idle).client
      else (scheduleRetry react idle).client
    else fired
  else s

/-- A retry timer fires. -/
def onTimer (factoryThrows : Bool) (timer : ℕ) (s : Client) : Client :=
  if timer ∈ s.timers then
    let s := { s with timers := s.timers.filter (· ≠ timer), retryTimer := none }
    (openSocket react false factoryThrows s).client
  else s

/-- `handleOnline`. -/
def handleOnline (factoryThrows : Bool) (s : Client) : Client :=
  if s.done ∨ s.state ≠ .retrying then s
  else (openSocket react false factoryThrows { s.clearRetry with attempt := 0 }).client

/-- `connect`: nothing where the factory throws at once. -/
def connect (factoryThrows : Bool) : Option Client :=
  (openSocket react true factoryThrows {}).toOption

end Closure

/-! ## Callbacks -/

/-- What happens outside of the client, and the calls of its methods. -/
inductive Event
  | onStateChange (listener : ListenerId)
  | unsubscribe (listener : ListenerId)
  | opened (ws : ℕ)
  /-- A message of a socket; a handler may call `dispose`. -/
  | message (ws : ℕ) (disposes : Bool)
  | closed (ws : ℕ) (code : Option ℕ)
  | timer (timer : ℕ)
  | online
  | dispose

/-- An event, with what the listeners of the state do meanwhile and whether the socket factory
throws. -/
structure Turn where
  event : Event
  react : Reactions := fun _ _ => {}
  factoryThrows : Bool := false

/-- One callback. -/
def step (s : Client) (turn : Turn) : Client :=
  match turn.event with
  | .onStateChange listener =>
      if s.done ∨ listener ∈ s.stateListeners then s
      else { s with stateListeners := s.stateListeners ++ [listener] }
  | .unsubscribe listener =>
      { s with stateListeners := s.stateListeners.filter (· ≠ listener) }
  | .opened ws => s.onOpen turn.react ws
  | .message ws disposes => s.onMessage turn.react ws disposes
  | .closed ws code => s.onClose turn.react ws code
  | .timer timer => s.onTimer turn.react turn.factoryThrows timer
  | .online => s.handleOnline turn.react turn.factoryThrows
  | .dispose => s.disposeInside turn.react

/-- The client that `connect` returns. -/
def connected : Client :=
  { generation := 1, sockets := [{ generation := 1 }], socket := some 0 }

/-- `connect` calls no listener, as there is none yet. -/
theorem connect_eq (react : Reactions) : connect react false = some connected := rfl

/-- The state after some callbacks. -/
def run (turns : List Turn) : Client :=
  turns.foldl step connected

/-- One more callback. -/
theorem run_concat (turns : List Turn) (turn : Turn) :
    run (turns ++ [turn]) = (run turns).step turn := by
  rw [run, List.foldl_append]
  rfl

end Client

end Restock.Realtime
