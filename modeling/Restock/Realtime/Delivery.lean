import Restock.Realtime.Gateway

/-!
# No cross-tenant delivery

Whatever the order of connections, authorisations, closes and messages: what a socket gets
came in on the channel of the tenant its authorisation answered, and carries that tenant.

* `Connection.Continues` — what a callback keeps of a connection: its request, its close, and its
  outcome once there is one;
* `Bound` — the invariant: whoever is in the set of a tenant was authorised for it, and what
  was delivered was for the tenant of its socket;
* `delivered_ownTenant` — of every run, for any authoriser;
* `sessionAuthorizeSocket`, `delivered_member` — for the authoriser that looks the session up:
  the tenant is one that the session's user is a member of, and the one asked for, if any.
-/

namespace Restock.Realtime

open Json

/-! ## What callbacks keep -/

/-- A connection later on: the same request, the outcome it had, closed if it was, and its
handler gone on if it was. -/
structure Connection.Continues (c c' : Connection) : Prop where
  token : c'.token = c.token
  requested : c'.requested = c.requested
  outcome : ∀ outcome, c.outcome = some outcome → c'.outcome = some outcome
  closed : c.readyState = .closed → c'.readyState = .closed
  resumed : c.resumed = true → c'.resumed = true

namespace Connection.Continues

theorem refl (c : Connection) : c.Continues c :=
  ⟨rfl, rfl, fun _ h => h, id, id⟩

theorem trans {c c' c'' : Connection} (h : c.Continues c') (h' : c'.Continues c'') :
    c.Continues c'' where
  token := h'.token.trans h.token
  requested := h'.requested.trans h.requested
  outcome outcome ho := h'.outcome outcome (h.outcome outcome ho)
  closed hc := h'.closed (h.closed hc)
  resumed hr := h'.resumed (h.resumed hr)

/-- Closing a connection is no new outcome, and nothing to one that is closed. -/
theorem close (c : Connection) : c.Continues c.close :=
  ⟨rfl, rfl, fun _ h => h, fun h => if_pos h, id⟩

end Connection.Continues

namespace Gateway

/-- Every connection is still there, and continues. -/
def Keeps (g g' : Gateway) : Prop :=
  ∀ ws (c : Connection), g.connections ws = some c →
    ∃ c' : Connection, g'.connections ws = some c' ∧ c.Continues c'

section Keeps

variable {g g' g'' : Gateway}

theorem Keeps.refl (g : Gateway) : g.Keeps g :=
  fun _ c h => ⟨c, h, .refl c⟩

theorem Keeps.trans (h : g.Keeps g') (h' : g'.Keeps g'') : g.Keeps g'' := by
  intro ws c hc
  obtain ⟨c', hc', hcont⟩ := h ws c hc
  obtain ⟨c'', hc'', hcont'⟩ := h' ws c' hc'
  exact ⟨c'', hc'', hcont.trans hcont'⟩

/-- Changing a connection so that it continues keeps them all. -/
theorem keeps_mapConnection (g : Gateway) (ws : SocketId) {f : Connection → Connection}
    (hf : ∀ c : Connection, c.Continues (f c)) : g.Keeps (g.mapConnection ws f) := by
  intro other c hc
  by_cases h : other = ws
  · subst h
    exact ⟨f c, by rw [connections_mapConnection_self, hc, Option.map_some], hf c⟩
  · exact ⟨c, by rw [connections_mapConnection_of_ne g h, hc], .refl c⟩

/-- What the authorisation of a socket resolved to. -/
def outcome (g : Gateway) (ws : SocketId) : Option AuthorizeOutcome :=
  (g.connections ws).bind Connection.outcome

/-- An outcome stays. -/
theorem Keeps.outcome {ws : SocketId} {outcome : AuthorizeOutcome} (h : g.Keeps g')
    (hg : g.outcome ws = some outcome) : g'.outcome ws = some outcome := by
  obtain ⟨c, hc, ho⟩ := Option.bind_eq_some_iff.mp hg
  obtain ⟨c', hc', hcont⟩ := h ws c hc
  exact Option.bind_eq_some_iff.mpr ⟨c', hc', hcont.outcome outcome ho⟩

variable {A N : Type} (fmt : NumberFormat N)
  (authorize : A → Text → Option Text → Authorization)

/-- Entering a socket keeps the connections. -/
theorem keeps_enter (g : Gateway) (ws : SocketId) (tenantId : Text) :
    g.Keeps (g.enter ws tenantId) :=
  keeps_mapConnection g ws (f := ({ · with listening := some tenantId }))
    fun _ => ⟨rfl, rfl, fun _ h => h, id, id⟩

/-- Every callback keeps the connections. -/
theorem keeps_step (g : Gateway) (e : Event A) : g.Keeps (g.step fmt authorize e) := by
  cases e with
  | connection ws token requested =>
      by_cases hsome : (g.connections ws).isSome
      · rw [step, if_pos hsome]
        exact .refl g
      · -- a new connection is none of those there are
        intro other c hc
        have hne : other ≠ ws := by
          rintro rfl
          rw [hc] at hsome
          exact hsome rfl
        exact ⟨c, by simp [step, hsome, hne, hc], .refl c⟩
  | settled ws found =>
      exact keeps_mapConnection g ws fun c =>
        ⟨rfl, rfl, fun o h => by simp [h], id, id⟩
  | deadline ws =>
      exact keeps_mapConnection g ws fun c =>
        ⟨rfl, rfl, fun o h => by simp [h], id, id⟩
  | resumed ws =>
      rw [step, resume]
      split
      · have hresumed := keeps_mapConnection g ws (f := ({ · with resumed := true }))
          fun _ => ⟨rfl, rfl, fun _ h => h, id, fun _ => rfl⟩
        split
        · exact hresumed.trans (keeps_enter _ ws _)
        · exact hresumed.trans (keeps_mapConnection _ ws Connection.Continues.close)
      · exact .refl g
  | close ws =>
      rw [step, onClose]
      split
      · exact .refl g
      · split
        · exact .refl g
        · have hclosed := keeps_mapConnection g ws (f := ({ · with readyState := .closed }))
            fun _ => ⟨rfl, rfl, fun _ h => h, fun _ => rfl, id⟩
          split
          · exact hclosed
          · exact hclosed
  | pong ws =>
      rw [step, onPong]
      split <;> exact .refl g
  | heartbeat =>
      intro ws c hc
      by_cases hdead : g.sockets.any fun entry => entry.1 = ws ∧ !entry.2.isAlive
      · exact ⟨c.close, by simp only [step, heartbeat, hdead, hc, if_true, Option.map_some],
          Connection.Continues.close c⟩
      · exact ⟨c, by simp only [step, heartbeat, hdead, hc]; rfl, .refl c⟩
  | pmessage channel message throws =>
      rw [step, onPmessage]
      repeat' split
      all_goals exact .refl g

end Keeps

/-! ## The invariant -/

section Bound

variable {A N : Type} (fmt : NumberFormat N)
  (authorize : A → Text → Option Text → Authorization)

/-- A message that was for the tenant of its socket: it came in on the channel of the tenant
that the socket was authorised for, and carries that tenant. -/
def OwnTenant (g : Gateway) (d : Delivery) : Prop :=
  ∃ tenantId, g.outcome d.socket = some (.ok tenantId) ∧
    tenantIdFromChannel d.channel = some tenantId ∧
    ∃ envelope, decodeEnvelope fmt d.message = .ok (some envelope) ∧
      payloadTenant envelope = some (.string tenantId)

/-- The invariant of the gateway. -/
structure Bound (g : Gateway) : Prop where
  /-- Whoever is in the set of a tenant was authorised for it. -/
  entered : ∀ entry ∈ g.byTenant, ∀ ws ∈ entry.2, g.outcome ws = some (.ok entry.1)
  /-- Whoever was authorised for a tenant has the authoriser's answer. -/
  answered : ∀ ws c tenantId, g.connections ws = some c → c.outcome = some (.ok tenantId) →
    ∃ found, authorize found c.token c.requested = .ok (some tenantId)
  /-- What was delivered was for the tenant of its socket. -/
  delivered : ∀ d ∈ g.delivered, g.OwnTenant fmt d

variable {g g' : Gateway}

/-- What was delivered stays right. -/
theorem OwnTenant.keeps {d : Delivery} (hd : g.OwnTenant fmt d) (h : g.Keeps g') :
    g'.OwnTenant fmt d := by
  obtain ⟨tenantId, houtcome, hchannel, hpayload⟩ := hd
  exact ⟨tenantId, h.outcome houtcome, hchannel, hpayload⟩

/-- The set of a tenant is one of the entries. -/
theorem mem_of_bound {tenantId : Text} {set : List SocketId}
    (h : g.bound tenantId = some set) : (tenantId, set) ∈ g.byTenant := by
  obtain ⟨before, after, heq, -⟩ := List.lookup_eq_some_iff.mp h
  rw [heq]
  simp

/-- Leaving adds nobody to a set. -/
theorem mem_byTenant_leave {ws : SocketId} {tenantId : Text} {entry : Text × List SocketId}
    (h : entry ∈ (g.leave ws tenantId).byTenant) :
    ∃ set, (entry.1, set) ∈ g.byTenant ∧ entry.2 ⊆ set := by
  rw [leave] at h
  dsimp only at h
  split at h
  · exact ⟨entry.2, h, List.Subset.refl _⟩
  · rename_i set hset
    split at h
    · exact ⟨entry.2, (List.mem_filter.mp h).1, List.Subset.refl _⟩
    · rcases Series.mem_of_mem_setEntry h with rfl | h
      · exact ⟨set, mem_of_bound hset, List.filter_subset_self _⟩
      · exact ⟨entry.2, h, List.Subset.refl _⟩

/-- The handler of a socket will go on with a principal of the tenant. -/
def Enters (g : Gateway) (ws : SocketId) (tenantId : Text) : Prop :=
  ∃ c, g.connections ws = some c ∧ c.resumed = false ∧ c.outcome = some (.ok tenantId)

/-- Who is entered was authorised for the tenant. -/
theorem Enters.outcome {ws : SocketId} {tenantId : Text} (h : g.Enters ws tenantId) :
    g.outcome ws = some (.ok tenantId) := by
  obtain ⟨c, hc, -, hok⟩ := h
  exact Option.bind_eq_some_iff.mpr ⟨c, hc, hok⟩

/-- What the handler does after its await: nothing, or it closes the socket, or it enters it
for the tenant of its outcome. -/
theorem resume_cases (g : Gateway) (ws : SocketId) :
    g.resume ws = g ∨
    (∃ tenantId, g.Enters ws tenantId ∧
      g.resume ws = (g.mapConnection ws ({ · with resumed := true })).enter ws tenantId) ∨
    g.resume ws = (g.mapConnection ws ({ · with resumed := true })).mapConnection ws .close := by
  unfold resume
  split
  · rename_i token requested readyState outcome listening hc
    cases outcome with
    | ok tenantId => exact Or.inr (Or.inl ⟨tenantId, ⟨_, hc, rfl, rfl⟩, rfl⟩)
    | denied | failed | timeout => exact Or.inr (Or.inr rfl)
  · exact Or.inl rfl

/-- What the close event of a socket does: nothing, or it marks the connection closed, and the
listener runs if it is attached. -/
theorem onClose_cases (g : Gateway) (ws : SocketId) :
    g.onClose ws = g ∨
    (∃ c, g.connections ws = some c ∧ c.readyState ≠ .closed ∧
      let closed := g.mapConnection ws ({ · with readyState := .closed })
      (c.listening = none ∧ g.onClose ws = closed) ∨
        ∃ tenantId, c.listening = some tenantId ∧ g.onClose ws = closed.leave ws tenantId) := by
  unfold onClose
  split
  · exact Or.inl rfl
  · rename_i c hc
    split
    · exact Or.inl rfl
    · rename_i hopen
      refine Or.inr ⟨c, hc, hopen, ?_⟩
      cases c.listening with
      | none => exact Or.inl ⟨rfl, rfl⟩
      | some tenantId => exact Or.inr ⟨tenantId, rfl, rfl⟩

/-- Who is in the set of a tenant after a callback was in it before, or has just been entered
for it. -/
theorem mem_set_step {e : Event A} {entry : Text × List SocketId} {ws : SocketId}
    (hentry : entry ∈ (g.step fmt authorize e).byTenant) (hws : ws ∈ entry.2) :
    (∃ set, (entry.1, set) ∈ g.byTenant ∧ ws ∈ set) ∨
      (e = .resumed ws ∧ g.Enters ws entry.1) := by
  have hsame : (g.step fmt authorize e).byTenant = g.byTenant →
      ∃ set, (entry.1, set) ∈ g.byTenant ∧ ws ∈ set := fun heq =>
    ⟨entry.2, heq ▸ hentry, hws⟩
  cases e with
  | connection other token requested =>
      refine Or.inl (hsame ?_)
      rw [step]
      split <;> rfl
  | settled | deadline | heartbeat => exact Or.inl (hsame rfl)
  | pong other =>
      refine Or.inl (hsame ?_)
      rw [step, onPong]
      split <;> rfl
  | pmessage channel message throws =>
      refine Or.inl (hsame ?_)
      rw [step, onPmessage]
      repeat' split
      all_goals rfl
  | close other =>
      rw [step] at hentry hsame
      rcases onClose_cases g other with heq | ⟨c, -, -, ⟨-, heq⟩ | ⟨tenantId, -, heq⟩⟩
      · exact Or.inl (hsame (by rw [heq]))
      · exact Or.inl (hsame (by rw [heq]; rfl))
      · rw [heq] at hentry
        obtain ⟨set, hset, hsub⟩ := mem_byTenant_leave hentry
        exact Or.inl ⟨set, hset, hsub hws⟩
  | resumed other =>
      rw [step] at hentry hsame
      rcases resume_cases g other with heq | ⟨tenantId, henters, heq⟩ | heq
      · exact Or.inl (hsame (by rw [heq]))
      · rw [heq] at hentry
        rcases Series.mem_of_mem_setEntry hentry with rfl | hentry
        · -- the set the socket was entered into
          have hset : ∀ ws ∈ (g.bound tenantId).getD [],
              ∃ set, (tenantId, set) ∈ g.byTenant ∧ ws ∈ set := by
            intro ws hws
            cases hbound : g.bound tenantId with
            | none =>
                rw [hbound] at hws
                cases hws
            | some set =>
                rw [hbound] at hws
                exact ⟨set, mem_of_bound hbound, hws⟩
          dsimp only at hws
          split at hws
          · exact Or.inl (hset ws hws)
          · rcases List.mem_append.mp hws with hws | hws
            · exact Or.inl (hset ws hws)
            · obtain rfl := List.mem_singleton.mp hws
              exact Or.inr ⟨rfl, henters⟩
        · exact Or.inl ⟨entry.2, hentry, hws⟩
      · exact Or.inl (hsame (by rw [heq]; rfl))

/-- Every callback keeps who is in the sets authorised. -/
theorem entered_step (h : ∀ entry ∈ g.byTenant, ∀ ws ∈ entry.2,
      g.outcome ws = some (.ok entry.1)) (e : Event A) :
    ∀ entry ∈ (g.step fmt authorize e).byTenant, ∀ ws ∈ entry.2,
      (g.step fmt authorize e).outcome ws = some (.ok entry.1) := by
  intro entry hentry ws hws
  refine (keeps_step fmt authorize g e).outcome ?_
  rcases mem_set_step fmt authorize hentry hws with ⟨set, hset, hmem⟩ | ⟨-, henters⟩
  · exact h _ hset ws hmem
  · exact henters.outcome

/-- A connection after one was changed. -/
theorem of_connections_mapConnection {g : Gateway} {ws other : SocketId}
    {f : Connection → Connection} {c' : Connection}
    (h : (g.mapConnection ws f).connections other = some c') :
    ∃ c, g.connections other = some c ∧ (c' = c ∨ c' = f c) := by
  by_cases hne : other = ws
  · subst hne
    rw [connections_mapConnection_self, Option.map_eq_some_iff] at h
    obtain ⟨c, hc, rfl⟩ := h
    exact ⟨c, hc, Or.inr rfl⟩
  · rw [connections_mapConnection_of_ne g hne] at h
    exact ⟨c', h, Or.inl rfl⟩

/-- A connection after a request was upgraded. -/
theorem of_connections_connection {ws other : SocketId} {token : Text} {requested : Option Text}
    {c : Connection}
    (h : (g.step fmt authorize (.connection other token requested)).connections ws = some c) :
    g.connections ws = some c ∨ c = { token, requested } := by
  rw [step] at h
  split at h
  · exact Or.inl h
  · dsimp only at h
    by_cases hne : ws = other
    · subst hne
      rw [Function.update_self] at h
      exact Or.inr (Option.some.inj h).symm
    · rw [Function.update_of_ne hne] at h
      exact Or.inl h

/-- A connection after the heartbeat. -/
theorem of_connections_heartbeat {ws : SocketId} {c' : Connection}
    (h : g.heartbeat.connections ws = some c') :
    ∃ c, g.connections ws = some c ∧ (c' = c ∨ c' = c.close) := by
  rw [heartbeat] at h
  dsimp only at h
  split at h
  · obtain ⟨c, hc, rfl⟩ := Option.map_eq_some_iff.mp h
    exact ⟨c, hc, Or.inr rfl⟩
  · exact ⟨c', h, Or.inl rfl⟩

/-- What a callback can make of a connection's outcome: it is the one it had, the deadline, or
what the authoriser answers about its request. -/
def Answers (c c' : Connection) : Prop :=
  c'.token = c.token ∧ c'.requested = c.requested ∧
    (c'.outcome = c.outcome ∨ c'.outcome = some .timeout ∨
      ∃ found, c'.outcome = some (authorize found c.token c.requested).outcome)

/-- Where a connection after a callback comes from. -/
theorem connection_step {e : Event A} {ws : SocketId} {c' : Connection}
    (h : (g.step fmt authorize e).connections ws = some c') :
    c'.outcome = none ∨ ∃ c, g.connections ws = some c ∧ Answers authorize c c' := by
  have hsame : g.connections ws = some c' →
      c'.outcome = none ∨ ∃ c, g.connections ws = some c ∧ Answers authorize c c' := fun heq =>
    Or.inr ⟨c', heq, rfl, rfl, Or.inl rfl⟩
  have hmap : ∀ {other} {f : Connection → Connection}, (∀ c, Answers authorize c (f c)) →
      (g.mapConnection other f).connections ws = some c' →
      c'.outcome = none ∨ ∃ c, g.connections ws = some c ∧ Answers authorize c c' := by
    intro other f hf heq
    obtain ⟨c, hc, rfl | rfl⟩ := of_connections_mapConnection heq
    · exact hsame hc
    · exact Or.inr ⟨c, hc, hf c⟩
  cases e with
  | connection other token requested =>
      rcases of_connections_connection fmt authorize h with heq | rfl
      · exact hsame heq
      · exact Or.inl rfl
  | settled other found =>
      refine hmap (f := fun c => { c with
        outcome := c.outcome.or (some (authorize found c.token c.requested).outcome) })
        (fun c => ⟨rfl, rfl, ?_⟩) h
      cases c.outcome with
      | none => exact Or.inr (Or.inr ⟨found, by simp⟩)
      | some outcome => exact Or.inl (by simp)
  | deadline other =>
      refine hmap (f := fun c => { c with outcome := c.outcome.or (some .timeout) })
        (fun c => ⟨rfl, rfl, ?_⟩) h
      cases c.outcome with
      | none => exact Or.inr (Or.inl (by simp))
      | some outcome => exact Or.inl (by simp)
  | resumed other =>
      rw [step] at h
      -- two writes to the connection, of which neither touches the outcome
      have hsecond : ∀ {f : Connection → Connection}, (∀ c, (f c).token = c.token ∧
          (f c).requested = c.requested ∧ (f c).outcome = c.outcome) →
          ((g.mapConnection other ({ · with resumed := true })).mapConnection other f).connections
            ws = some c' →
          c'.outcome = none ∨ ∃ c, g.connections ws = some c ∧ Answers authorize c c' := by
        intro f hf heq
        obtain ⟨c₁, hc₁, hcase⟩ := of_connections_mapConnection heq
        obtain ⟨c, hc, hcase₁⟩ := of_connections_mapConnection hc₁
        refine Or.inr ⟨c, hc, ?_⟩
        rcases hcase with rfl | rfl <;> rcases hcase₁ with rfl | rfl
        · exact ⟨rfl, rfl, Or.inl rfl⟩
        · exact ⟨rfl, rfl, Or.inl rfl⟩
        · obtain ⟨ht, hr, ho⟩ := hf c₁
          exact ⟨ht, hr, Or.inl ho⟩
        · obtain ⟨ht, hr, ho⟩ := hf { c with resumed := true }
          exact ⟨ht, hr, Or.inl ho⟩
      rcases resume_cases g other with heq | ⟨tenantId, -, heq⟩ | heq
      · exact hsame (heq ▸ h)
      · rw [heq] at h
        exact hsecond (f := ({ · with listening := some tenantId })) (fun _ => ⟨rfl, rfl, rfl⟩) h
      · rw [heq] at h
        exact hsecond (f := .close) (fun _ => ⟨rfl, rfl, rfl⟩) h
  | close other =>
      rw [step] at h
      rcases onClose_cases g other with heq | ⟨-, -, -, ⟨-, heq⟩ | ⟨tenantId, -, heq⟩⟩
      · exact hsame (heq ▸ h)
      · rw [heq] at h
        exact hmap (f := ({ · with readyState := .closed })) (fun _ => ⟨rfl, rfl, Or.inl rfl⟩) h
      · rw [heq] at h
        exact hmap (f := ({ · with readyState := .closed })) (fun _ => ⟨rfl, rfl, Or.inl rfl⟩) h
  | pong other =>
      rw [step, onPong] at h
      split at h <;> exact hsame h
  | heartbeat =>
      obtain ⟨c, hc, rfl | rfl⟩ := of_connections_heartbeat h
      · exact hsame hc
      · exact Or.inr ⟨c, hc, rfl, rfl, Or.inl rfl⟩
  | pmessage channel message throws =>
      refine hsame ?_
      rw [← h, step, onPmessage]
      repeat' split
      all_goals rfl

/-- Every callback keeps who is authorised answered. -/
theorem answered_step (h : ∀ ws c tenantId, g.connections ws = some c →
      c.outcome = some (.ok tenantId) →
      ∃ found, authorize found c.token c.requested = .ok (some tenantId)) (e : Event A) :
    ∀ ws c tenantId, (g.step fmt authorize e).connections ws = some c →
      c.outcome = some (.ok tenantId) →
      ∃ found, authorize found c.token c.requested = .ok (some tenantId) := by
  intro ws c' tenantId hc' hok
  rcases connection_step fmt authorize hc' with hnone | ⟨c, hc, ht, hr, ho | ho | ⟨found, ho⟩⟩
  · rw [hnone] at hok
    cases hok
  · rw [ht, hr]
    exact h ws c tenantId hc (ho ▸ hok)
  · rw [ho] at hok
    cases hok
  · refine ⟨found, ?_⟩
    rw [ht, hr]
    rw [ho] at hok
    cases hanswer : authorize found c.token c.requested with
    | error err =>
        rw [hanswer] at hok
        cases hok
    | ok tenant =>
        cases tenant with
        | none =>
            rw [hanswer] at hok
            cases hok
        | some tenant =>
            rw [hanswer] at hok
            cases hok
            rfl

/-- What a callback delivers is for the tenant of the socket. -/
theorem delivered_step (h : g.Bound fmt authorize) (e : Event A) :
    ∀ d ∈ (g.step fmt authorize e).delivered, d ∈ g.delivered ∨ g.OwnTenant fmt d := by
  intro d hd
  cases e with
  | connection ws token requested =>
      rw [step] at hd
      split at hd <;> exact Or.inl hd
  | settled | deadline | heartbeat => exact Or.inl hd
  | resumed ws =>
      rw [step] at hd
      rcases resume_cases g ws with heq | ⟨tenantId, -, heq⟩ | heq
      all_goals
        rw [heq] at hd
        exact Or.inl hd
  | close ws =>
      rw [step] at hd
      rcases onClose_cases g ws with heq | ⟨-, -, -, ⟨-, heq⟩ | ⟨tenantId, -, heq⟩⟩
      all_goals
        rw [heq] at hd
        exact Or.inl hd
  | pong ws =>
      rw [step, onPong] at hd
      split at hd <;> exact Or.inl hd
  | pmessage channel message throws =>
      rw [step, onPmessage] at hd
      split at hd
      · exact Or.inl hd
      rename_i channelTenant hchannel
      split at hd
      · rename_i envelope hdecode
        split at hd
        · rename_i tenantId hpayload
          split at hd
          · -- only here something is sent, to those that entered the tenant of the channel
            rename_i heq
            subst heq
            rcases List.mem_append.mp hd with hd | hd
            · exact Or.inl hd
            · obtain ⟨ws, hws, rfl⟩ := List.mem_map.mp hd
              have hmem := (List.mem_filter.mp hws).1
              refine Or.inr ⟨tenantId, ?_, hchannel, envelope, hdecode, hpayload⟩
              cases hbound : g.bound tenantId with
              | none =>
                  rw [hbound] at hmem
                  cases hmem
              | some set =>
                  rw [hbound] at hmem
                  exact h.entered _ (mem_of_bound hbound) ws hmem
          · exact Or.inl hd
        · exact Or.inl hd
      · exact Or.inl hd

/-- The invariant is kept by every callback. -/
theorem bound_step (h : g.Bound fmt authorize) (e : Event A) :
    (g.step fmt authorize e).Bound fmt authorize where
  entered := entered_step fmt authorize h.entered e
  answered := answered_step fmt authorize h.answered e
  delivered d hd := by
    have hkeeps := keeps_step fmt authorize g e
    rcases delivered_step fmt authorize h e d hd with hd | hd
    · exact (h.delivered d hd).keeps fmt hkeeps
    · exact hd.keeps fmt hkeeps

/-- The invariant holds after any callbacks in any order. -/
theorem bound_run (events : List (Event A)) : (run fmt authorize events).Bound fmt authorize := by
  induction events using List.reverseRecOn with
  | nil => exact ⟨nofun, nofun, nofun⟩
  | append_singleton events e ih =>
      rw [run_concat]
      exact bound_step fmt authorize ih e

/-- Every message that was sent to a socket, after any callbacks in any order, came in on the
channel of the tenant that the authoriser answered about the socket's own request, and its
payload names that tenant. -/
theorem delivered_ownTenant (events : List (Event A)) :
    ∀ d ∈ (run fmt authorize events).delivered, ∃ c tenantId,
      (run fmt authorize events).connections d.socket = some c ∧
      c.outcome = some (.ok tenantId) ∧
      (∃ found, authorize found c.token c.requested = .ok (some tenantId)) ∧
      tenantIdFromChannel d.channel = some tenantId ∧
      ∃ envelope, decodeEnvelope fmt d.message = .ok (some envelope) ∧
        payloadTenant envelope = some (.string tenantId) := by
  intro d hd
  have hbound := bound_run fmt authorize events
  obtain ⟨tenantId, houtcome, hchannel, hpayload⟩ := hbound.delivered d hd
  obtain ⟨c, hc, hok⟩ := Option.bind_eq_some_iff.mp houtcome
  exact ⟨c, tenantId, hc, hok, hbound.answered d.socket c tenantId hc hok, hchannel, hpayload⟩

end Bound

/-- The end of a sync, as it is published. -/
def syncDoneText : Text :=
  encodeEnvelope singleDigits syncDoneEvent (singleDigits.ofText (text "7"))

/-- A socket of `t1` is connected when its sync ends. -/
def syncDoneRun : List (Event Unit) :=
  [.connection 0 (text "s") none, .settled 0 (), .resumed 0,
    .pmessage (text "tenant:t1") syncDoneText fun _ => false]

/-- The socket gets the message, for its own tenant. -/
theorem syncDoneRun_delivered :
    let g := run singleDigits (fun _ _ _ => .ok (some (text "t1"))) syncDoneRun
    ∃ d ∈ g.delivered, ∃ c tenantId, g.connections d.socket = some c ∧
      c.outcome = some (.ok tenantId) ∧ tenantIdFromChannel d.channel = some tenantId := by
  have hd : ⟨0, text "tenant:t1", syncDoneText⟩
      ∈ (run singleDigits (fun _ _ _ => .ok (some (text "t1"))) syncDoneRun).delivered := by
    decide +kernel
  obtain ⟨c, tenantId, hc, hok, -, hchannel, -⟩ := delivered_ownTenant singleDigits _ _ _ hd
  exact ⟨_, hd, c, tenantId, hc, hok, hchannel⟩

end Gateway

/-! ## The authoriser of the sessions -/

section Sessions

/-- What the session store answers, and the time. A lookup can fail. -/
structure SessionStore where
  /-- The user of the session with a token, and when it expires. -/
  sessionByToken : Text → Except Unit (Option (Text × ℤ))
  /-- The tenants that a user is a member of, earliest membership first. -/
  membershipTenantIds : Text → Except Unit (List Text)
  now : ℤ

/-- `requestedOrFirst`: the workspace that was asked for, if the user is a member of it; without
a request the first. -/
def requestedOrFirst (tenantIds : List Text) (requestedTenantId : Option Text) : Option Text :=
  match requestedTenantId.filter (· ≠ []) with
  | some requestedTenantId =>
      if tenantIds.contains requestedTenantId then some requestedTenantId else none
  | none => tenantIds.head?

/-- `sessionAuthorizeSocket`, with the default for `selectTenantId`. -/
def sessionAuthorizeSocket (store : SessionStore) (token : Text)
    (requestedTenantId : Option Text) : Authorization := do
  let raw := token.takeWhile (· ≠ unit '.')
  if raw = [] then return none
  match ← store.sessionByToken raw with
  | none => return none
  | some (userId, expiresAt) =>
      if expiresAt ≤ store.now then return none
      let tenantIds ← store.membershipTenantIds userId
      return (requestedOrFirst tenantIds requestedTenantId).filter (· ≠ [])

/-- The tenant that is selected is one of the memberships, and the requested one if there is a
request. -/
theorem requestedOrFirst_member {tenantIds : List Text} {requestedTenantId : Option Text}
    {tenantId : Text} (h : requestedOrFirst tenantIds requestedTenantId = some tenantId) :
    tenantId ∈ tenantIds ∧ ∀ r ∈ requestedTenantId, r ≠ [] → r = tenantId := by
  unfold requestedOrFirst at h
  split at h
  · rename_i requested hrequested
    obtain ⟨hsome, -⟩ := Option.filter_eq_some_iff.mp hrequested
    split at h
    · rename_i hmem
      cases h
      refine ⟨List.contains_iff_mem.mp hmem, fun r hr _ => ?_⟩
      rw [hsome, Option.mem_some_iff] at hr
      exact hr.symm
    · cases h
  · rename_i hnone
    refine ⟨List.mem_of_head? h, fun r hr hne => ?_⟩
    exact absurd (Option.filter_eq_none_iff.mp hnone r hr) (by simpa using hne)

/-- A tenant the authoriser answers is one that the user of a session that has not expired is a
member of, and the requested one if there is a request. -/
theorem sessionAuthorizeSocket_member {store : SessionStore} {token : Text}
    {requestedTenantId : Option Text} {tenantId : Text}
    (h : sessionAuthorizeSocket store token requestedTenantId = .ok (some tenantId)) :
    ∃ userId expiresAt tenantIds,
      store.sessionByToken (token.takeWhile (· ≠ unit '.')) = .ok (some (userId, expiresAt)) ∧
      store.now < expiresAt ∧ store.membershipTenantIds userId = .ok tenantIds ∧
      tenantId ∈ tenantIds ∧ ∀ r ∈ requestedTenantId, r ≠ [] → r = tenantId := by
  unfold sessionAuthorizeSocket at h
  dsimp only at h
  split at h
  · cases h
  cases hsession : store.sessionByToken (token.takeWhile (· ≠ unit '.')) with
  | error err =>
      rw [hsession] at h
      cases h
  | ok session =>
      rw [hsession] at h
      cases session with
      | none => cases h
      | some session =>
          obtain ⟨userId, expiresAt⟩ := session
          change (if expiresAt ≤ store.now then _ else _) = _ at h
          split at h
          · cases h
          · rename_i hexpires
            cases hmembers : store.membershipTenantIds userId with
            | error err =>
                rw [hmembers] at h
                cases h
            | ok tenantIds =>
                rw [hmembers] at h
                have hselected := Option.filter_eq_some_iff.mp (Except.ok.inj h)
                exact ⟨userId, expiresAt, tenantIds, rfl, Int.not_le.mp hexpires, hmembers,
                  requestedOrFirst_member hselected.1⟩

/-- What is authorised was answered so. -/
theorem Authorization.eq_ok_of_outcome {answer : Authorization} {tenantId : Text}
    (h : answer.outcome = .ok tenantId) : answer = .ok (some tenantId) := by
  match answer with
  | .ok (some tenant) =>
      cases h
      rfl
  | .ok none => cases h
  | .error _ => cases h

/-- Only when its authorisation settles, a socket gets an answer of the authoriser: before, there
could as well be one that refuses. -/
theorem Gateway.connection_of_not_settled {A N : Type} (fmt : NumberFormat N)
    (authorize : A → Text → Option Text → Authorization) {g : Gateway} {e : Event A}
    {ws : SocketId} {c' : Connection} (h : (g.step fmt authorize e).connections ws = some c')
    (he : ∀ found, e ≠ .settled ws found) :
    c'.outcome = none ∨ ∃ c, g.connections ws = some c ∧
      Answers (fun (_ : A) _ _ => .ok none) c c' := by
  refine Gateway.connection_step fmt (fun _ _ _ => .ok none) (e := e) ?_
  cases e with
  | settled other found =>
      have hne : ws ≠ other := fun heq => he found (heq ▸ rfl)
      rw [Gateway.step, Gateway.connections_mapConnection_of_ne _ hne] at h ⊢
      exact h
  | connection | deadline | resumed | close | pong | heartbeat | pmessage => exact h

/-- Whoever is authorised for a tenant was answered so when its authorisation settled. -/
theorem Gateway.settled_of_ok {A N : Type} (fmt : NumberFormat N)
    (authorize : A → Text → Option Text → Authorization) (events : List (Event A)) :
    ∀ ws c tenantId, (Gateway.run fmt authorize events).connections ws = some c →
      c.outcome = some (.ok tenantId) →
      ∃ found, .settled ws found ∈ events ∧
        authorize found c.token c.requested = .ok (some tenantId) := by
  induction events using List.reverseRecOn with
  | nil => intro ws c tenantId hc; cases hc
  | append_singleton events e ih =>
      intro ws c' tenantId hc' hok
      rw [Gateway.run_concat] at hc'
      have hbefore : ∀ c, (Gateway.run fmt authorize events).connections ws = some c →
          c'.token = c.token → c'.requested = c.requested → c'.outcome = c.outcome →
          ∃ found, .settled ws found ∈ events ++ [e] ∧
            authorize found c'.token c'.requested = .ok (some tenantId) := by
        intro c hc ht hr ho
        obtain ⟨found, hmem, hanswer⟩ := ih ws c tenantId hc (ho ▸ hok)
        exact ⟨found, List.mem_append_left _ hmem, by rw [ht, hr, hanswer]⟩
      by_cases he : ∃ found, e = .settled ws found
      · obtain ⟨found, rfl⟩ := he
        rw [Gateway.step, Gateway.connections_mapConnection_self] at hc'
        obtain ⟨c, hc, rfl⟩ := Option.map_eq_some_iff.mp hc'
        cases hcout : c.outcome with
        | some outcome => exact hbefore c hc rfl rfl (by simp [hcout])
        | none =>
            refine ⟨found, by simp, ?_⟩
            dsimp only at hok ⊢
            rw [hcout, Option.none_or, Option.some_inj] at hok
            exact Authorization.eq_ok_of_outcome hok
      · -- no other callback asks the authoriser about this socket, so it could as well refuse
        rcases Gateway.connection_of_not_settled fmt authorize hc'
          (fun found heq => he ⟨found, heq⟩) with hnone | ⟨c, hc, ht, hr, ho | ho | ⟨_, ho⟩⟩
        · rw [hnone] at hok
          cases hok
        · exact hbefore c hc ht hr ho
        all_goals
          rw [ho] at hok
          cases hok

/-- With the authoriser of the sessions: a message that was sent to a socket is for a tenant that
the user of the socket's session was a member of when its authorisation settled, which was before
the session expired, and for the workspace that was asked for. -/
theorem Gateway.delivered_member {N : Type} (fmt : NumberFormat N)
    (events : List (Event SessionStore)) :
    ∀ d ∈ (Gateway.run fmt sessionAuthorizeSocket events).delivered,
      ∃ c tenantId, ∃ store : SessionStore, ∃ userId expiresAt tenantIds,
      (Gateway.run fmt sessionAuthorizeSocket events).connections d.socket = some c ∧
      tenantIdFromChannel d.channel = some tenantId ∧
      .settled d.socket store ∈ events ∧
      store.sessionByToken (c.token.takeWhile (· ≠ unit '.')) = .ok (some (userId, expiresAt)) ∧
      store.now < expiresAt ∧
      store.membershipTenantIds userId = .ok tenantIds ∧ tenantId ∈ tenantIds ∧
      ∀ r ∈ c.requested, r ≠ [] → r = tenantId := by
  intro d hd
  have hbound := Gateway.bound_run fmt sessionAuthorizeSocket events
  obtain ⟨tenantId, houtcome, hchannel, -⟩ := hbound.delivered d hd
  obtain ⟨c, hc, hok⟩ := Option.bind_eq_some_iff.mp houtcome
  obtain ⟨store, hsettled, hanswer⟩ :=
    Gateway.settled_of_ok fmt sessionAuthorizeSocket events d.socket c tenantId hc hok
  obtain ⟨userId, expiresAt, tenantIds, hsession, hexpires, hmembers, hmem, hrequested⟩ :=
    sessionAuthorizeSocket_member hanswer
  exact ⟨c, tenantId, store, userId, expiresAt, tenantIds, hc, hchannel, hsettled, hsession,
    hexpires, hmembers, hmem, hrequested⟩

/-- Every session is one of a member of `t1`. -/
def memberStore : SessionStore where
  sessionByToken _ := .ok (some (text "u", 10))
  membershipTenantIds _ := .ok [text "t1"]
  now := 0

/-- A socket of that session is connected when the sync of `t1` ends. -/
def memberRun : List (Event SessionStore) :=
  [.connection 0 (text "s") none, .settled 0 memberStore, .resumed 0,
    .pmessage (text "tenant:t1") Gateway.syncDoneText fun _ => false]

/-- The message it gets is for a tenant of its user. -/
theorem memberRun_delivered :
    ∃ d ∈ (Gateway.run singleDigits sessionAuthorizeSocket memberRun).delivered,
      ∃ tenantId, ∃ store : SessionStore, ∃ userId tenantIds,
        tenantIdFromChannel d.channel = some tenantId ∧ .settled d.socket store ∈ memberRun ∧
        store.membershipTenantIds userId = .ok tenantIds ∧ tenantId ∈ tenantIds := by
  have hd : ⟨0, text "tenant:t1", Gateway.syncDoneText⟩
      ∈ (Gateway.run singleDigits sessionAuthorizeSocket memberRun).delivered := by
    decide +kernel
  obtain ⟨c, tenantId, store, userId, expiresAt, tenantIds, -, hchannel, hsettled, -, -, hmembers,
    hmem, -⟩ := Gateway.delivered_member singleDigits memberRun _ hd
  exact ⟨_, hd, tenantId, store, userId, tenantIds, hchannel, hsettled, hmembers, hmem⟩

end Sessions

end Restock.Realtime
