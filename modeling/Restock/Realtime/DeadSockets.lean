import Restock.Realtime.Delivery

/-!
# Dead sockets

The maps are cleaned up by the close event, whose listener is attached when the handler goes
on with a principal. A socket that closes while its authorisation is under way has no
listener yet, and is entered after its close event: nothing takes it out any more, since the
heartbeat terminates it again and again and a closed socket has no second close event.

* `HasEntry`, `NoDeadSockets` — an entry of a socket in one of the maps, and that no socket
  whose close event has fired has one;
* `Timely` — a callback that does not go on with a principal for a closed socket;
* `Live` — the invariant of timely callbacks: every entry is of a listening socket that is
  not closed;
* `noDeadSockets_iff` — of every run: no dead socket is kept exactly when every callback was
  timely.
-/

namespace Restock.Realtime

open Json

namespace Gateway

/-- The socket has an entry in the `sockets` map or is in the set of a tenant. -/
def HasEntry (g : Gateway) (ws : SocketId) : Prop :=
  (∃ entry ∈ g.sockets, entry.1 = ws) ∨ ∃ entry ∈ g.byTenant, ws ∈ entry.2

/-- The close event of a socket has fired and its handler has gone on, so that no callback of
the socket is pending. -/
def IsGone (g : Gateway) (ws : SocketId) : Prop :=
  ∃ c, g.connections ws = some c ∧ c.readyState = .closed ∧ c.resumed = true

/-- No socket that is gone has an entry. -/
def NoDeadSockets (g : Gateway) : Prop :=
  ∀ ws, g.IsGone ws → ¬ g.HasEntry ws

/-- A callback is timely unless the handler of a closed socket goes on with a principal. -/
def Timely {A : Type} (g : Gateway) : Event A → Prop
  | .resumed ws => ∀ c tenantId, g.connections ws = some c → c.resumed = false →
      c.outcome = some (.ok tenantId) → c.readyState ≠ .closed
  | _ => True

/-- The listeners of a socket are attached for a tenant and its close event has not fired. -/
def Listens (g : Gateway) (ws : SocketId) (tenantId : Text) : Prop :=
  ∃ c, g.connections ws = some c ∧ c.listening = some tenantId ∧ c.readyState ≠ .closed

/-- The invariant of timely callbacks. -/
structure Live (g : Gateway) : Prop where
  /-- A tenant has one set. -/
  nodup : (g.byTenant.map Prod.fst).Nodup
  /-- The listeners are attached when the handler goes on. -/
  waiting : ∀ ws c, g.connections ws = some c → c.resumed = false → c.listening = none
  /-- Whoever has an entry listens. -/
  sockets : ∀ entry ∈ g.sockets, ∃ tenantId, g.Listens entry.1 tenantId
  /-- Whoever is in the set of a tenant listens for that tenant. -/
  byTenant : ∀ entry ∈ g.byTenant, ∀ ws ∈ entry.2, g.Listens ws entry.1

section Live

variable {A N : Type} (fmt : NumberFormat N)
  (authorize : A → Text → Option Text → Authorization) {g : Gateway}

/-- Whoever has an entry is not closed, whether its handler has gone on or not. -/
theorem Live.not_closed (h : g.Live) {ws : SocketId} {c : Connection} (hentry : g.HasEntry ws)
    (hc : g.connections ws = some c) : c.readyState ≠ .closed := by
  have hlistens : ∀ {tenantId}, g.Listens ws tenantId → c.readyState ≠ .closed := by
    rintro tenantId ⟨c', hc', -, hopen⟩
    obtain rfl : c = c' := Option.some.inj (hc.symm.trans hc')
    exact hopen
  rcases hentry with ⟨entry, hmem, rfl⟩ | ⟨entry, hmem, hws⟩
  · obtain ⟨tenantId, hl⟩ := h.sockets entry hmem
    exact hlistens hl
  · exact hlistens (h.byTenant entry hmem ws hws)

/-- Where every entry is of a socket that is not closed, there is no dead one. -/
theorem Live.noDeadSockets (h : g.Live) : g.NoDeadSockets := by
  rintro ws ⟨c, hc, hclosed, -⟩ hentry
  exact h.not_closed hentry hc hclosed

/-- Whoever listens is not changed by what happens to another socket. -/
theorem Listens.mapConnection_of_ne {ws other : SocketId} {tenantId : Text}
    (h : g.Listens ws tenantId) (hne : ws ≠ other) (f : Connection → Connection) :
    (g.mapConnection other f).Listens ws tenantId := by
  obtain ⟨c, hc, hl, hopen⟩ := h
  exact ⟨c, by rw [connections_mapConnection_of_ne g hne, hc], hl, hopen⟩

/-- Whoever listens goes on listening while what happens is no close event. -/
theorem Listens.mapConnection {ws : SocketId} {tenantId : Text} (h : g.Listens ws tenantId)
    (other : SocketId) {f : Connection → Connection}
    (hl : ∀ c : Connection, (f c).listening = c.listening)
    (hf : ∀ c : Connection, c.readyState ≠ .closed → (f c).readyState ≠ .closed) :
    (g.mapConnection other f).Listens ws tenantId := by
  by_cases hne : ws = other
  · subst hne
    obtain ⟨c, hc, hlistening, hopen⟩ := h
    exact ⟨f c, by rw [connections_mapConnection_self, hc, Option.map_some],
      (hl c).trans hlistening, hf c hopen⟩
  · exact h.mapConnection_of_ne hne f

/-- Closing a socket that is not closed does not fire its close event yet. -/
theorem readyState_close_ne {c : Connection} (h : c.readyState ≠ .closed) :
    c.close.readyState ≠ .closed := by
  rw [Connection.close, if_neg h]
  nofun

/-- Whoever listens goes on listening until its close event. -/
theorem listens_step (hlive : g.Live) {ws : SocketId} {tenantId : Text} {e : Event A}
    (h : g.Listens ws tenantId) (hne : e ≠ .close ws) :
    (g.step fmt authorize e).Listens ws tenantId := by
  cases e with
  | connection other token requested =>
      rw [step]
      split
      · exact h
      · rename_i hnew
        obtain ⟨c, hc, hl, hopen⟩ := h
        have hother : ws ≠ other := by
          rintro rfl
          rw [hc] at hnew
          exact hnew rfl
        exact ⟨c, (Function.update_of_ne hother ..).trans hc, hl, hopen⟩
  | settled other found => exact h.mapConnection other (fun _ => rfl) fun _ hopen => hopen
  | deadline other => exact h.mapConnection other (fun _ => rfl) fun _ hopen => hopen
  | resumed other =>
      rw [step]
      rcases resume_cases g other with heq | ⟨tenant, ⟨c, hc, hresumed, -⟩, heq⟩ | heq
      · rwa [heq]
      · -- the handler of a socket that listens has gone on before
        have hother : ws ≠ other := by
          rintro rfl
          obtain ⟨c', hc', hl, -⟩ := h
          obtain rfl : c = c' := Option.some.inj (hc.symm.trans hc')
          rw [hlive.waiting ws c hc hresumed] at hl
          cases hl
        rw [heq]
        exact (h.mapConnection_of_ne hother _).mapConnection_of_ne hother _
      · rw [heq]
        have hresumed := h.mapConnection other (f := ({ · with resumed := true })) (fun _ => rfl)
          fun _ hopen => hopen
        exact hresumed.mapConnection other (f := .close) (fun _ => rfl) fun _ =>
          readyState_close_ne
  | close other =>
      have hother : ws ≠ other := fun heq => hne (heq ▸ rfl)
      rw [step]
      rcases onClose_cases g other with heq | ⟨-, -, -, ⟨-, heq⟩ | ⟨tenant, -, heq⟩⟩
      · rwa [heq]
      · rw [heq]
        exact h.mapConnection_of_ne hother _
      · rw [heq]
        exact h.mapConnection_of_ne hother _
  | pong other =>
      rw [step, onPong]
      split <;> exact h
  | heartbeat =>
      obtain ⟨c, hc, hl, hopen⟩ := h
      by_cases hdead : g.sockets.any fun entry => entry.1 = ws ∧ !entry.2.isAlive
      · exact ⟨c.close, by simp only [step, heartbeat, hdead, hc, if_true, Option.map_some], hl,
          readyState_close_ne hopen⟩
      · exact ⟨c, by simp only [step, heartbeat, hdead, hc]; rfl, hl, hopen⟩
  | pmessage channel message throws =>
      rw [step, onPmessage]
      repeat' split
      all_goals exact h

/-- Changing connections without entering any keeps who waits. -/
theorem waiting_mapConnection (other : SocketId) {f : Connection → Connection}
    (h : ∀ ws c, g.connections ws = some c → c.resumed = false → c.listening = none)
    (hf : ∀ c : Connection, (f c).resumed = false →
      c.resumed = false ∧ (f c).listening = c.listening) :
    ∀ ws c, (g.mapConnection other f).connections ws = some c → c.resumed = false →
      c.listening = none := by
  intro ws c' hc' hresumed
  obtain ⟨c, hc, rfl | rfl⟩ := of_connections_mapConnection hc'
  · exact h ws _ hc hresumed
  · obtain ⟨hc0, hl⟩ := hf c hresumed
    rw [hl]
    exact h ws c hc hc0

/-- Every callback keeps that listeners are attached when the handler goes on. -/
theorem waiting_step
    (h : ∀ ws c, g.connections ws = some c → c.resumed = false → c.listening = none)
    (e : Event A) :
    ∀ ws c, (g.step fmt authorize e).connections ws = some c → c.resumed = false →
      c.listening = none := by
  cases e with
  | connection other token requested =>
      intro ws c hc
      rcases of_connections_connection fmt authorize hc with heq | rfl
      · exact h ws c heq
      · exact fun _ => rfl
  | settled other found => exact waiting_mapConnection other h fun _ hr => ⟨hr, rfl⟩
  | deadline other => exact waiting_mapConnection other h fun _ hr => ⟨hr, rfl⟩
  | resumed other =>
      rw [step]
      have hresumed := waiting_mapConnection other (f := ({ · with resumed := true })) h
        fun _ hr => by cases hr
      rcases resume_cases g other with heq | ⟨tenant, ⟨c, hc, -, -⟩, heq⟩ | heq
      · rwa [heq]
      · intro ws c' hc' hr
        rw [heq] at hc'
        by_cases hne : ws = other
        · -- its handler has gone on
          subst hne
          have hlistens : ((g.mapConnection ws ({ · with resumed := true })).enter ws
                tenant).connections ws
              = ((g.mapConnection ws ({ · with resumed := true })).connections ws).map
                ({ · with listening := some tenant }) := connections_mapConnection_self ..
          rw [hlistens, connections_mapConnection_self, hc] at hc'
          cases hc'
          cases hr
        · exact hresumed ws c' ((connections_mapConnection_of_ne _ hne _).symm.trans hc') hr
      · rw [heq]
        exact waiting_mapConnection other (f := .close) hresumed fun _ hr => ⟨hr, rfl⟩
  | close other =>
      rw [step]
      have hclosed := waiting_mapConnection other (f := ({ · with readyState := .closed })) h
        fun _ hr => ⟨hr, rfl⟩
      rcases onClose_cases g other with heq | ⟨-, -, -, ⟨-, heq⟩ | ⟨tenant, -, heq⟩⟩
      · rwa [heq]
      · rwa [heq]
      · rw [heq]
        exact hclosed
  | pong other =>
      rw [step, onPong]
      split <;> exact h
  | heartbeat =>
      intro ws c' hc' hr
      obtain ⟨c, hc, rfl | rfl⟩ := of_connections_heartbeat hc'
      · exact h ws c' hc hr
      · exact h ws c hc hr
  | pmessage channel message throws =>
      rw [step, onPmessage]
      repeat' split
      all_goals exact h

/-- Leaving keeps one set for a tenant. -/
theorem nodup_leave (ws : SocketId) (tenantId : Text) (h : (g.byTenant.map Prod.fst).Nodup) :
    ((g.leave ws tenantId).byTenant.map Prod.fst).Nodup := by
  rw [leave]
  dsimp only
  split
  · exact h
  · split
    · exact h.sublist (List.filter_sublist.map _)
    · exact Series.nodup_keys_setEntry _ _ h

/-- Who leaves a tenant is not in its set. -/
theorem not_mem_leave {ws : SocketId} {tenantId : Text} (h : (g.byTenant.map Prod.fst).Nodup)
    {entry : Text × List SocketId} (hentry : entry ∈ (g.leave ws tenantId).byTenant)
    (heq : entry.1 = tenantId) : ws ∉ entry.2 := by
  rw [leave] at hentry
  dsimp only at hentry
  split at hentry
  · rename_i hnone
    have hne := List.lookup_eq_none_iff.mp hnone entry hentry
    exact absurd heq.symm (bne_iff_ne.mp hne)
  · split at hentry
    · have hne := (List.mem_filter.mp hentry).2
      exact absurd heq (by simpa using hne)
    · rcases (Series.mem_setEntry _ _ h entry).mp hentry with rfl | ⟨-, hne⟩
      · simp
      · exact absurd heq hne

/-- The close event of a socket keeps the invariant: it takes the socket out. -/
theorem live_onClose (h : g.Live) (ws : SocketId) : (g.onClose ws).Live := by
  have hwaiting := waiting_mapConnection ws (f := ({ · with readyState := .closed })) h.waiting
    fun _ hr => ⟨hr, rfl⟩
  rcases onClose_cases g ws with heq | ⟨c, hc, hopen, ⟨hnone, heq⟩ | ⟨tenantId, hsome, heq⟩⟩
  · rwa [heq]
  · -- nobody who listens is closed
    have hother : ∀ {other tenantId}, g.Listens other tenantId → other ≠ ws := by
      rintro other tenantId ⟨c', hc', hl, -⟩ rfl
      obtain rfl : c = c' := Option.some.inj (hc.symm.trans hc')
      rw [hnone] at hl
      cases hl
    rw [heq]
    refine ⟨h.nodup, hwaiting, fun entry hentry => ?_, fun entry hentry other hmem => ?_⟩
    · obtain ⟨tenantId, hl⟩ := h.sockets entry hentry
      exact ⟨tenantId, hl.mapConnection_of_ne (hother hl) _⟩
    · have hl := h.byTenant entry hentry other hmem
      exact hl.mapConnection_of_ne (hother hl) _
  · rw [heq]
    refine ⟨nodup_leave ws tenantId h.nodup, hwaiting, fun entry hentry => ?_,
      fun entry hentry other hmem => ?_⟩
    · obtain ⟨hmem, hne⟩ := List.mem_filter.mp hentry
      obtain ⟨tenant, hl⟩ := h.sockets entry hmem
      exact ⟨tenant, hl.mapConnection_of_ne (by simpa using hne) _⟩
    · obtain ⟨set, hset, hsub⟩ := mem_byTenant_leave hentry
      have hl := h.byTenant _ hset other (hsub hmem)
      by_cases hne : other = ws
      · -- the tenant it listens for is the one it leaves
        subst hne
        obtain ⟨c', hc', hl', -⟩ := hl
        obtain rfl : c = c' := Option.some.inj (hc.symm.trans hc')
        have htenant := Option.some.inj (hl'.symm.trans hsome)
        exact absurd hmem (not_mem_leave h.nodup hentry htenant)
      · exact hl.mapConnection_of_ne hne _

/-- Who has an entry in the `sockets` map after a callback had one before, or has just been
entered. -/
theorem mem_sockets_step {e : Event A} {entry : SocketId × SocketEntry}
    (h : entry ∈ (g.step fmt authorize e).sockets) :
    (∃ old ∈ g.sockets, old.1 = entry.1) ∨
      (e = .resumed entry.1 ∧ ∃ tenantId, g.Enters entry.1 tenantId) := by
  have hsame : (g.step fmt authorize e).sockets = g.sockets →
      ∃ old ∈ g.sockets, old.1 = entry.1 := fun heq => ⟨entry, heq ▸ h, rfl⟩
  cases e with
  | connection other token requested =>
      refine Or.inl (hsame ?_)
      rw [step]
      split <;> rfl
  | settled | deadline => exact Or.inl (hsame rfl)
  | resumed other =>
      rw [step] at h hsame
      rcases resume_cases g other with heq | ⟨tenantId, henters, heq⟩ | heq
      · exact Or.inl (hsame (by rw [heq]))
      · rw [heq] at h
        -- the only entry that is new is that of a handler that goes on
        rcases Series.mem_of_mem_setEntry h with rfl | h
        · exact Or.inr ⟨rfl, tenantId, henters⟩
        · exact Or.inl ⟨entry, h, rfl⟩
      · exact Or.inl (hsame (by rw [heq]; rfl))
  | close other =>
      rw [step] at h hsame
      rcases onClose_cases g other with heq | ⟨c, -, -, ⟨-, heq⟩ | ⟨tenantId, -, heq⟩⟩
      · exact Or.inl (hsame (by rw [heq]))
      · exact Or.inl (hsame (by rw [heq]; rfl))
      · rw [heq] at h
        exact Or.inl ⟨entry, (List.mem_filter.mp h).1, rfl⟩
  | pong other =>
      rw [step, onPong] at h
      split at h
      · exact Or.inl ⟨entry, h, rfl⟩
      · obtain ⟨old, hold, rfl⟩ := List.mem_map.mp h
        refine Or.inl ⟨old, hold, ?_⟩
        split <;> rfl
  | heartbeat =>
      obtain ⟨old, hold, rfl⟩ := List.mem_map.mp h
      exact Or.inl ⟨old, hold, rfl⟩
  | pmessage channel message throws =>
      refine Or.inl (hsame ?_)
      rw [step, onPmessage]
      repeat' split
      all_goals rfl

/-- A tenant has one set after every callback. -/
theorem nodup_step (h : (g.byTenant.map Prod.fst).Nodup) (e : Event A) :
    ((g.step fmt authorize e).byTenant.map Prod.fst).Nodup := by
  cases e with
  | connection other token requested =>
      rw [step]
      split <;> exact h
  | settled | deadline | heartbeat => exact h
  | resumed other =>
      rw [step]
      rcases resume_cases g other with heq | ⟨tenantId, -, heq⟩ | heq
      · rwa [heq]
      · rw [heq]
        exact Series.nodup_keys_setEntry _ _ h
      · rwa [heq]
  | close other =>
      rw [step]
      rcases onClose_cases g other with heq | ⟨-, -, -, ⟨-, heq⟩ | ⟨tenantId, -, heq⟩⟩
      · rwa [heq]
      · rwa [heq]
      · rw [heq]
        exact nodup_leave other tenantId h
  | pong other =>
      rw [step, onPong]
      split <;> exact h
  | pmessage channel message throws =>
      rw [step, onPmessage]
      repeat' split
      all_goals exact h

/-- The handler goes on with a principal and enters the socket. -/
theorem resume_of_enters {ws : SocketId} {tenantId : Text} (h : g.Enters ws tenantId) :
    g.resume ws = (g.mapConnection ws ({ · with resumed := true })).enter ws tenantId := by
  obtain ⟨⟨token, requested, readyState, outcome, resumed, listening⟩, hc, hr, hok⟩ := h
  dsimp only at hr hok
  subst hr hok
  rw [resume, hc]

/-- A connection after it was entered. -/
theorem connections_resume_of_enters {ws : SocketId} {tenantId : Text} {c : Connection}
    (h : g.Enters ws tenantId) (hc : g.connections ws = some c) :
    (g.resume ws).connections ws
      = some { c with resumed := true, listening := some tenantId } := by
  rw [resume_of_enters h]
  refine (connections_mapConnection_self ..).trans ?_
  rw [connections_mapConnection_self, hc]
  rfl

/-- Who is entered before its close event listens. -/
theorem listens_resume {ws : SocketId} {tenantId : Text}
    (htimely : g.Timely (.resumed ws : Event A)) (h : g.Enters ws tenantId) :
    (g.resume ws).Listens ws tenantId := by
  have ⟨c, hc, hr, hok⟩ := h
  exact ⟨_, connections_resume_of_enters h hc, rfl, htimely c tenantId hc hr hok⟩

/-- A timely callback keeps the invariant. -/
theorem live_step (h : g.Live) {e : Event A} (htimely : g.Timely e) :
    (g.step fmt authorize e).Live := by
  by_cases hclose : ∃ ws, e = .close ws
  · obtain ⟨ws, rfl⟩ := hclose
    exact live_onClose h ws
  have hne : ∀ ws, e ≠ .close ws := fun ws heq => hclose ⟨ws, heq⟩
  refine ⟨nodup_step fmt authorize h.nodup e, waiting_step fmt authorize h.waiting e,
    fun entry hentry => ?_, fun entry hentry ws hws => ?_⟩
  · rcases mem_sockets_step fmt authorize hentry with ⟨old, hold, heq⟩ | ⟨rfl, tenantId, henters⟩
    · obtain ⟨tenantId, hl⟩ := h.sockets old hold
      rw [heq] at hl
      exact ⟨tenantId, listens_step fmt authorize h hl (hne _)⟩
    · exact ⟨tenantId, listens_resume htimely henters⟩
  · rcases mem_set_step fmt authorize hentry hws with ⟨set, hset, hmem⟩ | ⟨rfl, henters⟩
    · exact listens_step fmt authorize h (h.byTenant _ hset ws hmem) (hne _)
    · exact listens_resume htimely henters

/-- A socket that is gone and has an entry in the `sockets` map. -/
def Leaked (g : Gateway) : Prop :=
  ∃ ws, g.IsGone ws ∧ ∃ entry ∈ g.sockets, entry.1 = ws

/-- A callback that is not timely leaks its socket. -/
theorem leaked_of_not_timely {e : Event A} (h : ¬ g.Timely e) :
    (g.step fmt authorize e).Leaked := by
  cases e with
  | resumed ws =>
      simp only [Timely, not_forall, not_not] at h
      obtain ⟨c, tenantId, hc, hr, hok, hclosed⟩ := h
      have henters : g.Enters ws tenantId := ⟨c, hc, hr, hok⟩
      refine ⟨ws, ⟨_, connections_resume_of_enters henters hc, hclosed, rfl⟩, ?_⟩
      rw [step, resume_of_enters henters]
      have hkey := (Series.mem_keys_setEntry g.sockets ws ⟨tenantId, true⟩ ws).mpr (Or.inl rfl)
      exact List.mem_map.mp hkey
  | _ => exact absurd trivial h

/-- A socket that is gone stays gone. -/
theorem IsGone.keeps {g' : Gateway} {ws : SocketId} (h : g.IsGone ws) (hk : g.Keeps g') :
    g'.IsGone ws := by
  obtain ⟨c, hc, hclosed, hr⟩ := h
  obtain ⟨c', hc', hcont⟩ := hk ws c hc
  exact ⟨c', hc', hcont.closed hclosed, hcont.resumed hr⟩

/-- What has leaked is never cleaned up: a closed socket has no second close event. -/
theorem leaked_step (h : g.Leaked) (e : Event A) : (g.step fmt authorize e).Leaked := by
  obtain ⟨ws, hgone, entry, hentry, rfl⟩ := h
  refine ⟨entry.1, hgone.keeps (keeps_step fmt authorize g e), ?_⟩
  cases e with
  | connection other token requested =>
      rw [step]
      split <;> exact ⟨entry, hentry, rfl⟩
  | settled | deadline => exact ⟨entry, hentry, rfl⟩
  | resumed other =>
      rw [step]
      rcases resume_cases g other with heq | ⟨tenantId, -, heq⟩ | heq
      · rw [heq]
        exact ⟨entry, hentry, rfl⟩
      · rw [heq]
        have hkey := (Series.mem_keys_setEntry g.sockets other ⟨tenantId, true⟩ entry.1).mpr
          (Or.inr (List.mem_map_of_mem hentry))
        exact List.mem_map.mp hkey
      · rw [heq]
        exact ⟨entry, hentry, rfl⟩
  | close other =>
      rw [step]
      rcases onClose_cases g other with heq | ⟨c, hc, hopen, ⟨-, heq⟩ | ⟨tenantId, -, heq⟩⟩
      · rw [heq]
        exact ⟨entry, hentry, rfl⟩
      · rw [heq]
        exact ⟨entry, hentry, rfl⟩
      · rw [heq]
        -- only an open socket is taken off, and the leaked one is closed
        have hother : entry.1 ≠ other := by
          rintro rfl
          obtain ⟨c', hc', hclosed, -⟩ := hgone
          obtain rfl : c = c' := Option.some.inj (hc.symm.trans hc')
          exact hopen hclosed
        exact ⟨entry, List.mem_filter.mpr ⟨hentry, by simpa using hother⟩, rfl⟩
  | pong other =>
      rw [step, onPong]
      split
      · exact ⟨entry, hentry, rfl⟩
      · refine ⟨_, List.mem_map_of_mem hentry, ?_⟩
        split <;> rfl
  | heartbeat => exact ⟨_, List.mem_map_of_mem hentry, rfl⟩
  | pmessage channel message throws =>
      rw [step, onPmessage]
      repeat' split
      all_goals exact ⟨entry, hentry, rfl⟩

/-- The invariant after timely callbacks. -/
theorem live_run {events : List (Event A)}
    (h : ∀ before e, before ++ [e] <+: events → (run fmt authorize before).Timely e) :
    (run fmt authorize events).Live := by
  induction events using List.reverseRecOn with
  | nil => exact ⟨List.nodup_nil, nofun, nofun, nofun⟩
  | append_singleton events e ih =>
      rw [run_concat]
      refine live_step fmt authorize (ih fun before e' hp => ?_) (h events e (List.prefix_refl _))
      exact h before e' (hp.trans (List.prefix_append ..))

/-- After a callback that was not timely its socket has leaked for good. -/
theorem leaked_run {events before : List (Event A)} {e : Event A} (hp : before ++ [e] <+: events)
    (h : ¬ (run fmt authorize before).Timely e) : (run fmt authorize events).Leaked := by
  induction events using List.reverseRecOn with
  | nil => simp at hp
  | append_singleton events last ih =>
      rw [run_concat]
      rcases List.prefix_concat_iff.mp hp with hlast | hp
      · obtain ⟨hbefore, hsame⟩ := List.append_inj' hlast rfl
        obtain rfl := List.singleton_inj.mp hsame
        rw [← hbefore]
        exact leaked_of_not_timely fmt authorize h
      · exact leaked_step fmt authorize (ih hp) last

/-- After any callbacks in any order there is no dead socket exactly when no handler has gone on
with a principal for a socket that was closed. -/
theorem noDeadSockets_iff (events : List (Event A)) :
    (run fmt authorize events).NoDeadSockets ↔
      ∀ before e, before ++ [e] <+: events → (run fmt authorize before).Timely e := by
  constructor
  · intro h before e hp
    by_contra hlate
    obtain ⟨ws, hgone, hentry⟩ := leaked_run fmt authorize hp hlate
    exact h ws hgone (Or.inl hentry)
  · exact fun h => (live_run fmt authorize h).noDeadSockets

end Live

/-- A socket that closes while it is being authorised. -/
def closedWhileAuthorizing : List (Event Unit) :=
  [.connection 0 (text "s") none, .close 0, .settled 0 (), .resumed 0]

/-- It stays in both maps. -/
theorem closedWhileAuthorizing_kept :
    ¬ ∀ (A N : Type) (fmt : NumberFormat N) (authorize : A → Text → Option Text → Authorization)
      (events : List (Event A)), (run fmt authorize events).NoDeadSockets := by
  intro hall
  have hgone : (run singleDigits (fun _ _ _ => .ok (some (text "t1")))
      closedWhileAuthorizing).IsGone 0 := ⟨_, rfl, rfl, rfl⟩
  exact hall _ _ _ _ _ 0 hgone (Or.inl ⟨_, List.mem_singleton_self _, rfl⟩)

end Gateway

end Restock.Realtime
