import Mathlib.Data.List.Induction
import Restock.Realtime.Events

/-!
# The socket gateway

One process that serves many sockets, each bound to one tenant when its authorisation has
completed. Everything happens in callbacks that run one after the other, so that the gateway
is a state and one step for each callback; which comes when is not up to the gateway.

* `Gateway` — the two maps the code keeps, what it knows of every connection, and what it
  has sent;
* `Event`, `Gateway.step` — the callbacks: a connection, the settling of an authorisation or
  its deadline, the handler that awaits them, the events of a socket, the heartbeat, and a
  message from Redis;
* `Gateway.run` — the state after any events in any order. An event that cannot happen, such
  as a second close, changes nothing.
-/

namespace Restock.Realtime

open Json

/-! ## Channels -/

/-- The prefix of every tenant channel. -/
def channelPrefix : Text := text "tenant:"

/-- `tenantIdFromChannel`: nothing for what is no tenant channel. -/
def tenantIdFromChannel (channel : Text) : Option Text :=
  if channelPrefix.isPrefixOf channel then
    let tenantId := channel.drop channelPrefix.length
    if tenantId ≠ [] then some tenantId else none
  else none

/-! ## State -/

/-- A socket. -/
abbrev SocketId : Type := ℕ

/-- `ws.readyState`, after the handshake. -/
inductive ReadyState
  | opened
  | closing
  | closed
  deriving DecidableEq, Repr

/-- `AuthorizeOutcome`. -/
inductive AuthorizeOutcome
  | ok (tenantId : Text)
  | denied
  | failed
  | timeout
  deriving DecidableEq

/-- What an authorisation settles to: a tenant, no tenant, or a failure. -/
abbrev Authorization : Type := Except Unit (Option Text)

/-- What `runAuthorize` makes of it. -/
def Authorization.outcome : Authorization → AuthorizeOutcome
  | .ok (some tenantId) => .ok tenantId
  | .ok none => .denied
  | .error _ => .failed

/-- A connection, from its request to its close. -/
structure Connection where
  /-- The credential of the request. -/
  token : Text
  /-- The workspace the request asked for. -/
  requested : Option Text
  readyState : ReadyState := .opened
  /-- What the authorisation or its deadline resolved to, whichever came first. -/
  outcome : Option AuthorizeOutcome := none
  /-- The handler has gone on after its await. -/
  resumed : Bool := false
  /-- The tenant that the listeners for close and pong were attached for. -/
  listening : Option Text := none

/-- The entry of a socket in the `sockets` map. -/
structure SocketEntry where
  tenantId : Text
  isAlive : Bool

/-- A message that was sent to a socket. -/
structure Delivery where
  socket : SocketId
  channel : Text
  message : Text
  deriving DecidableEq

/-- The state of the gateway. -/
structure Gateway where
  connections : SocketId → Option Connection := fun _ => none
  byTenant : List (Text × List SocketId) := []
  sockets : List (SocketId × SocketEntry) := []
  delivered : List Delivery := []

/-- The state with what is known of one connection changed. -/
def Gateway.mapConnection (g : Gateway) (ws : SocketId) (f : Connection → Connection) : Gateway :=
  { g with connections := Function.update g.connections ws ((g.connections ws).map f) }

theorem Gateway.connections_mapConnection_self (g : Gateway) (ws : SocketId)
    (f : Connection → Connection) :
    (g.mapConnection ws f).connections ws = (g.connections ws).map f :=
  Function.update_self ..

theorem Gateway.connections_mapConnection_of_ne (g : Gateway) {ws other : SocketId}
    (h : other ≠ ws) (f : Connection → Connection) :
    (g.mapConnection ws f).connections other = g.connections other :=
  Function.update_of_ne h ..

/-- `ws.close()` and `ws.terminate()`: what is closed stays closed. -/
def Connection.close (c : Connection) : Connection :=
  { c with readyState := if c.readyState = .closed then .closed else .closing }

/-! ## Callbacks -/

/-- A callback. `A` is what the authoriser finds outside: the rows of its store, the time. -/
inductive Event (A : Type)
  /-- A request was upgraded. -/
  | connection (ws : SocketId) (token : Text) (requested : Option Text)
  /-- The authorisation has settled. -/
  | settled (ws : SocketId) (found : A)
  /-- The deadline of the authorisation has passed. -/
  | deadline (ws : SocketId)
  /-- The handler goes on. -/
  | resumed (ws : SocketId)
  /-- The close event of a socket. -/
  | close (ws : SocketId)
  /-- The pong event of a socket. -/
  | pong (ws : SocketId)
  /-- The heartbeat interval. -/
  | heartbeat
  /-- A message from Redis; `send` throws on some sockets. -/
  | pmessage (channel message : Text) (throws : SocketId → Bool)

namespace Gateway

variable {A N : Type} (fmt : NumberFormat N)
  (authorize : A → Text → Option Text → Authorization) (g : Gateway)

/-- The sockets of a tenant: `byTenant.get(tenantId)`. -/
def bound (tenantId : Text) : Option (List SocketId) :=
  List.lookup tenantId g.byTenant

/-- The handler goes on with a principal: it enters the socket and attaches its listeners. -/
def enter (ws : SocketId) (tenantId : Text) : Gateway :=
  let set := (g.bound tenantId).getD []
  { g.mapConnection ws ({ · with listening := some tenantId }) with
    byTenant := Series.setEntry g.byTenant tenantId (if ws ∈ set then set else set ++ [ws])
    sockets := Series.setEntry g.sockets ws { tenantId, isAlive := true } }

/-- The handler goes on after its await. -/
def resume (ws : SocketId) : Gateway :=
  match g.connections ws with
  | some { outcome := some outcome, resumed := false, .. } =>
      let g := g.mapConnection ws ({ · with resumed := true })
      match outcome with
      | .ok tenantId => g.enter ws tenantId
      | _ => g.mapConnection ws Connection.close
  | _ => g

/-- The listener for the close event, attached for a tenant. -/
def leave (ws : SocketId) (tenantId : Text) : Gateway :=
  { g with
    sockets := g.sockets.filter fun entry => entry.1 ≠ ws
    byTenant :=
      match g.bound tenantId with
      | none => g.byTenant
      | some set =>
          let set := set.filter fun other => other ≠ ws
          if set = [] then g.byTenant.filter fun entry => entry.1 ≠ tenantId
          else Series.setEntry g.byTenant tenantId set }

/-- The close event of a socket: the listener runs if it is attached. -/
def onClose (ws : SocketId) : Gateway :=
  match g.connections ws with
  | none => g
  | some c =>
      if c.readyState = .closed then g
      else
        let g := g.mapConnection ws ({ · with readyState := .closed })
        match c.listening with
        | none => g
        | some tenantId => g.leave ws tenantId

/-- The pong event of a socket: the listener, if it is attached, marks the entry alive. -/
def onPong (ws : SocketId) : Gateway :=
  match (g.connections ws).bind Connection.listening with
  | none => g
  | some _ =>
      { g with
        sockets := g.sockets.map fun entry =>
          if entry.1 = ws then (entry.1, { entry.2 with isAlive := true }) else entry }

/-- The heartbeat: who has not answered the last ping is terminated, the others are pinged. -/
def heartbeat : Gateway :=
  { g with
    connections := fun ws =>
      if g.sockets.any fun entry => entry.1 = ws ∧ !entry.2.isAlive then
        (g.connections ws).map Connection.close
      else g.connections ws
    sockets := g.sockets.map fun entry => (entry.1, { entry.2 with isAlive := false }) }

/-- `envelope.data.tenantId`. -/
def payloadTenant (envelope : Value N) : Option (Value N) :=
  (property envelope "data").bind (property · "tenantId")

/-- The fan-out of a message: to the open sockets of the channel's tenant, if it is the
tenant of the payload. An exception of the decoder ends it. -/
def onPmessage (channel message : Text) (throws : SocketId → Bool) : Gateway :=
  match tenantIdFromChannel channel with
  | none => g
  | some channelTenant =>
      match decodeEnvelope fmt message with
      | .ok (some envelope) =>
          match payloadTenant envelope with
          | some (.string tenantId) =>
              if tenantId = channelTenant then
                let reached := ((g.bound channelTenant).getD []).filter fun ws =>
                  (g.connections ws).any (fun c => c.readyState = .opened) && !throws ws
                { g with delivered := g.delivered ++ reached.map fun ws => ⟨ws, channel, message⟩ }
              else g
          | _ => g
      | _ => g

/-- One callback. -/
def step : Event A → Gateway
  | .connection ws token requested =>
      if (g.connections ws).isSome then g
      else { g with connections := Function.update g.connections ws (some { token, requested }) }
  | .settled ws found => g.mapConnection ws fun c =>
      { c with outcome := c.outcome.or (some (authorize found c.token c.requested).outcome) }
  | .deadline ws => g.mapConnection ws fun c => { c with outcome := c.outcome.or (some .timeout) }
  | .resumed ws => g.resume ws
  | .close ws => g.onClose ws
  | .pong ws => g.onPong ws
  | .heartbeat => g.heartbeat
  | .pmessage channel message throws => g.onPmessage fmt channel message throws

/-- The state after some callbacks. -/
def run (events : List (Event A)) : Gateway :=
  events.foldl (step fmt authorize) {}

/-- One more callback. -/
theorem run_concat (events : List (Event A)) (e : Event A) :
    run fmt authorize (events ++ [e]) = step fmt authorize (run fmt authorize events) e := by
  rw [run, List.foldl_append]
  rfl

end Gateway

end Restock.Realtime
