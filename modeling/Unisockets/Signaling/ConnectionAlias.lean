import Unisockets.Signaling.ClientCalls

/-!
# What connect returns

The server answers an accepted Connect with two `Alias` messages and a rejected
one with one; the client counts the two and remembers the alias of the first.
They may reach the listener in any order.

`connect_alias` says that a call of `connect` resolves only with the alias that
the server has registered for its own connection, and rejects only if the server
has rejected it, in every run.  The second message must not be counted twice:
`Network.second` counts the places that hold it or may still send it, together
with `Call.i` while no alias is remembered, and the invariant `Connecting` says
that this never exceeds one.
-/

namespace Unisockets.Signaling

open JsStd Transition

/-! ## What the server has decided -/

/-- The Connect with the id `u` was accepted, and the alias `a` allocated for it
was registered. -/
def Accepted (steps : List (Network × NetworkStep)) (u a : String) : Prop :=
  ∃ x ∈ steps, ∃ n data, x.2 = .resume n (.connectCreated data a) ∧
    data.clientConnectionId = u ∧
    (x.1.server.aliases.get data.remoteAlias).any MAlias.accepting = true ∧
    ((ServerTask.connectCreated data a).resume x.1.server).1.aliases.get a
      = some ⟨data.id, false⟩

/-- The Connect with the id `u` was rejected. -/
def Rejected (steps : List (Network × NetworkStep)) (u : String) : Prop :=
  ∃ x ∈ steps, ∃ n data a, x.2 = .resume n (.connectCreated data a) ∧
    data.clientConnectionId = u ∧
    (x.1.server.aliases.get data.remoteAlias).any MAlias.accepting = false

theorem Accepted.mono {steps steps' : List (Network × NetworkStep)} {u a : String}
    (hsteps : steps ⊆ steps') (h : Accepted steps u a) : Accepted steps' u a := by
  obtain ⟨x, hx, hrest⟩ := h
  exact ⟨x, hsteps hx, hrest⟩

theorem Rejected.mono {steps steps' : List (Network × NetworkStep)} {u : String}
    (hsteps : steps ⊆ steps') (h : Rejected steps u) : Rejected steps' u := by
  obtain ⟨x, hx, hrest⟩ := h
  exact ⟨x, hsteps hx, hrest⟩

/-- An accepted Connect registers its alias. -/
theorem registers_connectCreated {s : Server} {data : IConnectData} {a : String}
    (h : (s.aliases.get data.remoteAlias).any MAlias.accepting = true) :
    ((ServerTask.connectCreated data a).resume s).1.aliases.get a = some ⟨data.id, false⟩ := by
  simp only [ServerTask.resume, ServerTask.handleConnect]
  rw [if_pos h]
  cases s.clients.get data.id with
  | none => exact Map.get_set_self _ _ _
  | some client => exact Map.get_set_self _ _ _

/-! ## The second message -/

section Second

variable (u : String)

def Operation.connects : Operation → Bool
  | .connect data => data.clientConnectionId = u
  | _ => false

/-- The tasks that may still send the second message of the connection. -/
def ServerTask.connects : ServerTask → Bool
  | .received operation _ => operation.connects u
  | .connectCreating data => data.clientConnectionId = u
  | .connectSearching data _ => data.clientConnectionId = u
  | .connectCreated data _ => data.clientConnectionId = u
  | .connectClientNotified data _ _ => data.clientConnectionId = u
  | .connectServerNotified data _ _ _ _ => data.clientConnectionId = u
  | .connectServerAccepted data _ _ => data.clientConnectionId = u
  | _ => false

def EventData.second (eventName : String) : EventData → Bool
  | .connection true _ false => eventName = getConnectionKey u
  | _ => false

def ClientAction.second : ClientAction → Bool
  | .emit eventName data => data.second u eventName
  | .emitting eventName data _ => data.second u eventName
  | _ => false

/-- The places that hold the second message of a connection, or lead to it. -/
def Network.second (p : Network) : Nat :=
  p.up.countP (fun m => m.operation.connects u)
    + p.serverTasks.countP (fun t => t.2.connects u) + p.actions.countP (ClientAction.second u)

end Second

/-! ## The invariant -/

section Tells

variable (steps : List (Network × NetworkStep)) (u : String)

/-- What a handler of the server may still tell the client is true. -/
def ServerTask.Tells : ServerTask → Prop
  | .connectCreated _ clientAlias => clientAlias ≠ ""
  | .connectRejecting data _ _ => data.clientConnectionId = u → Rejected steps u
  | .connectRejected data _ _ => data.clientConnectionId = u → Rejected steps u
  | _ => True

def EventData.Tells (eventName : String) : EventData → Prop
  | .connection flag a isConnectionAlias => eventName = getConnectionKey u →
    (flag = false → Rejected steps u) ∧
      (flag = true → isConnectionAlias = true → a ≠ "" ∧ Accepted steps u a)
  | _ => True

/-- What an event is about to tell the listener is true. -/
def ClientAction.Tells : ClientAction → Prop
  | .emit eventName data => data.Tells steps u eventName
  | .emitting eventName data _ => data.Tells steps u eventName
  | _ => True

/-- What the listener has been told is true, and it has counted the second
message at most once. -/
structure Call.Told (second : Nat) (call : Call) : Prop where
  counted : call.alias = "" → call.i + second ≤ 1
  remembered : call.alias ≠ "" → Accepted steps u call.alias
  resolved : ∀ {value}, call.promise = .resolved value →
    ∃ a, value = some a ∧ a ≠ "" ∧ Accepted steps u a
  rejected : ∀ {reason}, call.promise = .rejected reason → Rejected steps u

/-- The invariant of one connection. -/
structure Connecting (p : Network) : Prop where
  fresh : u ∉ p.connectionIds → p.second u = 0 ∧
    ∀ {client n call r}, (p.clients client).calls.get n = some call →
      call.request ≠ .connect u r
  second : p.second u ≤ 1
  task : ∀ t ∈ p.serverTasks, t.2.Tells steps u
  action : ∀ action ∈ p.actions, action.Tells steps u
  call : ∀ {client n call r}, (p.clients client).calls.get n = some call →
    call.request = .connect u r → call.Told steps u (p.second u)

end Tells

variable {steps steps' : List (Network × NetworkStep)} {u : String}

theorem ServerTask.Tells.mono {t : ServerTask} (hsteps : steps ⊆ steps') (h : t.Tells steps u) :
    t.Tells steps' u := by
  cases t with
  | connectRejecting => exact fun hu => (h hu).mono hsteps
  | connectRejected => exact fun hu => (h hu).mono hsteps
  | _ => exact h

theorem EventData.Tells.mono {eventName : String} {data : EventData} (hsteps : steps ⊆ steps')
    (h : data.Tells steps u eventName) : data.Tells steps' u eventName := by
  cases data with
  | connection flag a isConnectionAlias =>
    intro hname
    obtain ⟨hrejected, haccepted⟩ := h hname
    exact ⟨fun hs => (hrejected hs).mono hsteps,
      fun hs hc => ⟨(haccepted hs hc).1, (haccepted hs hc).2.mono hsteps⟩⟩
  | _ => trivial

theorem ClientAction.Tells.mono {action : ClientAction} (hsteps : steps ⊆ steps')
    (h : action.Tells steps u) : action.Tells steps' u := by
  cases action with
  | emit => exact EventData.Tells.mono hsteps h
  | emitting => exact EventData.Tells.mono hsteps h
  | _ => trivial

namespace Call.Told

variable {second second' : Nat} {call : Call}

theorem mono (hsteps : steps ⊆ steps') (hsecond : second' ≤ second)
    (h : call.Told steps u second) : call.Told steps' u second' where
  counted he := by
    have := h.counted he
    omega
  remembered hne := (h.remembered hne).mono hsteps
  resolved hr := by
    obtain ⟨a, ha, hne, hacc⟩ := h.resolved hr
    exact ⟨a, ha, hne, hacc.mono hsteps⟩
  rejected hr := (h.rejected hr).mono hsteps

/-- The promise is settled with something true, or was settled before. -/
theorem settle (h : call.Told steps u second) (number : Nat) {promise : Promise}
    (hresolved : ∀ {value}, promise = .resolved value →
      ∃ a, value = some a ∧ a ≠ "" ∧ Accepted steps u a)
    (hrejected : ∀ {reason}, promise = .rejected reason → Rejected steps u) :
    (call.settle number promise).Told steps u second := by
  unfold Call.settle
  split_ifs
  · exact ⟨h.counted, h.remembered, hresolved, hrejected⟩
  · exact h

/-- The listener hears of an event.  The second message, if it is that one, was
one of the places of `second`. -/
theorem notify (h : call.Told steps u second) {r : String}
    (hrequest : call.request = .connect u r) (id : String) (number : Nat) {data : EventData}
    (hfits : data.Fits call.eventName) (htells : data.Tells steps u call.eventName)
    (hsecond : second' + (if data.second u call.eventName then 1 else 0) ≤ second) :
    (call.notify id number data).Told steps u second' := by
  have hname : call.eventName = getConnectionKey u := by
    unfold Call.eventName
    rw [hrequest]
    rfl
  rw [hname] at hfits htells hsecond
  cases data with
  | set flag =>
    obtain ⟨id', a, ha⟩ := hfits
    exact absurd ha getConnectionKey_ne_getAliasKey
  | clientAlias a =>
    obtain ⟨b, hb⟩ := hfits
    exact absurd hb getConnectionKey_ne_getAcceptKey
  | connection flag newAlias isConnectionAlias =>
    obtain ⟨hrejected, haccepted⟩ := htells rfl
    have hle : second' ≤ second := by omega
    unfold Call.notify
    rw [hrequest]
    cases flag with
    | false =>
      refine (h.mono (List.Subset.refl _) hle).settle number ?_ ?_
      · intro value hv
        cases hv
      · exact fun _ => hrejected rfl
    | true =>
      simp only [if_true]
      have hcount : (call.count newAlias isConnectionAlias).Told steps u second' ∧
          (2 ≤ (call.count newAlias isConnectionAlias).i →
            (call.count newAlias isConnectionAlias).alias ≠ "") := by
        cases isConnectionAlias with
        | true =>
          obtain ⟨hne, hacc⟩ := haccepted rfl rfl
          exact ⟨⟨fun he => absurd he hne, fun _ => hacc, h.resolved, h.rejected⟩, fun _ => hne⟩
        | false =>
          have hone : second' + 1 ≤ second := by
            simpa [EventData.second] using hsecond
          refine ⟨⟨fun he => ?_, h.remembered, h.resolved, h.rejected⟩, fun htwo he => ?_⟩
          · have hcounted := h.counted he
            show call.i + 1 + second' ≤ 1
            omega
          · have hcounted := h.counted he
            have htwo : 2 ≤ call.i + 1 := htwo
            omega
      split_ifs with htwo
      · refine hcount.1.settle number ?_ ?_
        · intro value hv
          cases hv
          exact ⟨_, rfl, hcount.2 htwo, hcount.1.remembered (hcount.2 htwo)⟩
        · intro reason hr
          cases hr
      · exact hcount.1

end Call.Told

/-! ## The actions of a message -/

section Actions

variable {operation : Operation}

theorem acknowledges_of_plain (halias : ∀ data, operation ≠ .alias data)
    (haccept : ∀ data, operation ≠ .accept data) :
    ∀ action ∈ SignalingClient.handleOperation operation, ∃ id, action = .acknowledge id := by
  intro action haction
  cases operation with
  | «alias» data => exact absurd rfl (halias data)
  | accept data => exact absurd rfl (haccept data)
  | acknowledged data => exact ⟨data.id, List.mem_singleton.mp haction⟩
  | _ => cases haction

/-- The actions of an `Alias` with a connection id. -/
theorem mem_handleOperation_connection {data : IAliasData} {u' : String}
    (hdata : data.clientConnectionId = some u') {action : ClientAction}
    (h : action ∈ SignalingClient.handleOperation (.alias data)) :
    action = .emit (getConnectionKey u')
        (.connection data.set data.alias (data.isConnectionAlias = some true)) ∨
      action = .emit (getAliasKey data.id data.alias) (.set data.set) ∨
      action = .onAlias data.id data.alias data.set := by
  simp only [SignalingClient.handleOperation, hdata] at h
  split at h
  · rename_i u'' hu
    obtain ⟨hsome, -⟩ := Option.filter_eq_some_iff.mp hu
    cases hsome
    rcases List.mem_cons.mp h with rfl | h
    · exact .inl rfl
    · exact .inr (.inr (List.mem_singleton.mp h))
  · rcases List.mem_cons.mp h with rfl | h
    · exact .inr (.inl rfl)
    · exact .inr (.inr (List.mem_singleton.mp h))

end Actions

/-! ## The steps of the server -/

namespace ServerTask

variable {s s' : Server} {t : ServerTask} {next : List ServerTask}

/-- A step hands on the right to send the second message, or sends it. -/
theorem second_resume (hstep : Resumes s t s' next) :
    next.countP (connects u) + ((t.posts s).flatMap fun post =>
      SignalingClient.handleOperation post.2).countP (ClientAction.second u)
      ≤ if t.connects u then 1 else 0 := by
  by_cases hlast : ∃ data client serverId, t = .connectServerAccepted data client serverId
  · obtain ⟨data, client, serverId, rfl⟩ := hlast
    have hnext : next = [] := by
      cases hstep
      rfl
    subst hnext
    simp only [posts, List.flatMap_cons, List.flatMap_nil, List.append_nil, List.countP_nil,
      connects, remoteAlias, SignalingClient.handleOperation]
    by_cases hu : data.clientConnectionId = u
    · subst hu
      split <;> simp [ClientAction.second, EventData.second, List.countP_cons]
      split <;> omega
    · split
      · rename_i u' hu'
        obtain ⟨hsome, -⟩ := Option.filter_eq_some_iff.mp hu'
        cases hsome
        have hne : getConnectionKey data.clientConnectionId ≠ getConnectionKey u :=
          fun he => hu (getConnectionKey_inj he)
        simp [ClientAction.second, EventData.second, hu, hne]
      · simp [ClientAction.second, EventData.second, hu]
  · have hposts : ((t.posts s).flatMap fun post =>
        SignalingClient.handleOperation post.2).countP (ClientAction.second u) = 0 := by
      rw [List.countP_eq_zero]
      intro action haction
      obtain ⟨post, hpost, haction⟩ := List.mem_flatMap.mp haction
      have hposted := posted hpost
      generalize post.2 = operation at hposted haction
      cases hposted with
      | plain halias haccept =>
        obtain ⟨id, rfl⟩ := acknowledges_of_plain halias haccept action haction
        exact Bool.false_ne_true
      | announce id a set =>
        rcases List.mem_cons.mp haction with rfl | haction
        · exact Bool.false_ne_true
        · rw [List.mem_singleton.mp haction]
          exact Bool.false_ne_true
      | connection data a ht hremote =>
        rcases mem_handleOperation_connection rfl haction with rfl | rfl | rfl
        · simp [ClientAction.second, EventData.second]
        · exact Bool.false_ne_true
        · exact Bool.false_ne_true
      | remote data client serverId ht => exact absurd ⟨data, client, serverId, ht⟩ hlast
      | rejected data a client ht =>
        rcases mem_handleOperation_connection rfl haction with rfl | rfl | rfl
        · simp [ClientAction.second, EventData.second]
        · exact Bool.false_ne_true
        · exact Bool.false_ne_true
      | accept data a client serverId server ht =>
        rw [List.mem_singleton.mp haction]
        exact Bool.false_ne_true
    rw [hposts]
    cases hstep with
    | connect data client => simp [connects, Operation.connects, List.countP_cons]
    | searchPort data m hm => simp [connects, List.countP_cons]
    | newPort data newPort => simp [connects, List.countP_cons]
    | accepted data a client hremote hclient outbox => simp [connects, List.countP_cons]
    | clientNotified data a client entry server hentry hserver outbox =>
      simp [connects, List.countP_cons]
    | serverNotified data a client serverId server outbox => simp [connects, List.countP_cons]
    | swept id outbox =>
      have hnone : ((s.owned id).map (ServerTask.releaseAddress id)).countP (connects u) = 0 := by
        rw [List.countP_eq_zero]
        intro t ht
        obtain ⟨a, -, rfl⟩ := List.mem_map.mp ht
        exact Bool.false_ne_true
      rw [hnone]
      exact Nat.zero_le _
    | _ => simp [connects]

theorem toTCPAddress_ne_empty (ipAddress : String) (port : Number) :
    toTCPAddress ipAddress port ≠ "" := by
  intro h
  have hlen := congrArg String.length h
  simp [toTCPAddress, String.length_append] at hlen

variable {p : Network} {n : Nat}

/-- What a step leaves to be told is true. -/
theorem tells_next (hstep : Resumes p.server t s' next) (ht : t.Tells steps u)
    (hsteps : steps ⊆ steps') (hx : (p, NetworkStep.resume n t) ∈ steps') :
    ∀ t' ∈ next, t'.Tells steps' u := by
  cases hstep with
  | newPort data newPort =>
    exact List.forall_mem_singleton.mpr (toTCPAddress_ne_empty _ _)
  | reject data a hremote =>
    exact List.forall_mem_singleton.mpr fun hu => ⟨_, hx, n, data, a, rfl, hu, hremote⟩
  | rejecting data a client =>
    exact List.forall_mem_singleton.mpr fun hu => (ht hu).mono hsteps
  | swept id outbox =>
    intro t' ht'
    obtain ⟨a, -, rfl⟩ := List.mem_map.mp ht'
    trivial
  | _ => first
    | exact List.forall_mem_singleton.mpr trivial
    | exact fun t' ht' => absurd ht' List.not_mem_nil

/-- What a step tells is true. -/
theorem tells_posts (ht : t.Tells steps u) (hsteps : steps ⊆ steps')
    (hx : (p, NetworkStep.resume n t) ∈ steps') :
    ∀ action ∈ (t.posts p.server).flatMap fun post => SignalingClient.handleOperation post.2,
      action.Tells steps' u := by
  intro action hmem
  obtain ⟨post, hpost, haction⟩ := List.mem_flatMap.mp hmem
  clear hmem
  have hposted := posted hpost
  generalize post.2 = operation at hposted haction
  cases hposted with
  | plain halias haccept =>
    obtain ⟨id, rfl⟩ := acknowledges_of_plain halias haccept action haction
    trivial
  | announce id a set =>
    rcases List.mem_cons.mp haction with rfl | haction
    · trivial
    · rw [List.mem_singleton.mp haction]
      trivial
  | connection data a ht' hremote =>
    subst ht'
    rcases mem_handleOperation_connection rfl haction with rfl | rfl | rfl
    · intro hname
      have hu : data.clientConnectionId = u := getConnectionKey_inj hname
      refine ⟨fun hs => (by cases hs), fun _ _ => ⟨ht, _, hx, n, data, rfl, hu, hremote, ?_⟩⟩
      exact registers_connectCreated hremote
    · trivial
    · trivial
  | remote data client serverId ht' =>
    rcases mem_handleOperation_connection rfl haction with rfl | rfl | rfl
    · intro hname
      exact ⟨fun hs => (by cases hs), fun _ hc => (by simp at hc)⟩
    · trivial
    · trivial
  | rejected data a client ht' =>
    subst ht'
    rcases mem_handleOperation_connection rfl haction with rfl | rfl | rfl
    · intro hname
      have hu : data.clientConnectionId = u := getConnectionKey_inj hname
      exact ⟨fun _ => (ht hu).mono hsteps, fun hs => (by cases hs)⟩
    · trivial
    · trivial
  | accept data a client serverId server ht' =>
    rw [List.mem_singleton.mp haction]
    trivial

end ServerTask

/-! ## Every step keeps the invariant -/

namespace Connecting

variable {p p' : Network}

/-- A step that changes no call and adds nothing untrue. -/
theorem keep (h : Connecting steps u p) (hsteps : steps ⊆ steps')
    (hcalls : ∀ client, (p'.clients client).calls = (p.clients client).calls)
    (hids : p'.connectionIds = p.connectionIds) (hsecond : p'.second u ≤ p.second u)
    (htask : ∀ t ∈ p'.serverTasks, t.2.Tells steps' u)
    (haction : ∀ action ∈ p'.actions, action.Tells steps' u) : Connecting steps' u p' where
  fresh hu := by
    obtain ⟨hnone, hcall⟩ := h.fresh (hids ▸ hu)
    refine ⟨by omega, fun {client n call r} hget => ?_⟩
    rw [hcalls] at hget
    exact hcall hget
  second := hsecond.trans h.second
  task := htask
  action := haction
  call {client n call r} hget hrequest := by
    rw [hcalls] at hget
    exact (h.call hget hrequest).mono hsteps hsecond

/-- A step that changes nothing but the sockets of a client. -/
theorem quiet (h : Connecting steps u p) (hsteps : steps ⊆ steps')
    (hcalls : ∀ client, (p'.clients client).calls = (p.clients client).calls)
    (hids : p'.connectionIds = p.connectionIds) (hup : p'.up = p.up)
    (htasks : p'.serverTasks = p.serverTasks) (hactions : p'.actions = p.actions) :
    Connecting steps' u p' := by
  refine h.keep hsteps hcalls hids ?_ ?_ ?_
  · unfold Network.second
    rw [hup, htasks, hactions]
  · rw [htasks]
    exact fun t ht => (h.task t ht).mono hsteps
  · rw [hactions]
    exact fun action haction => (h.action action haction).mono hsteps

theorem countP_up_send (client : Nat) (operation : Operation) :
    (p.send client operation).up.countP (fun m => m.operation.connects u)
      ≤ p.up.countP (fun m => m.operation.connects u)
        + if operation.connects u then 1 else 0 := by
  unfold Network.send
  split
  · rw [List.countP_append, List.countP_singleton]
  · exact Nat.le_add_right _ _

theorem second_send (client : Nat) (operation : Operation) :
    (p.send client operation).second u
      ≤ p.second u + if operation.connects u then 1 else 0 := by
  have hup := countP_up_send (p := p) (u := u) client operation
  have htasks : (p.send client operation).serverTasks = p.serverTasks := rfl
  have hactions : (p.send client operation).actions = p.actions := rfl
  unfold Network.second
  rw [htasks, hactions]
  omega

/-- A client sends something that is not a Connect. -/
theorem send (h : Connecting steps u p) (hsteps : steps ⊆ steps') (client : Nat)
    {operation : Operation} (hoperation : operation.connects u = false) :
    Connecting steps' u (p.send client operation) := by
  refine h.keep hsteps (fun _ => rfl) rfl ?_ ?_ ?_
  · have hle := second_send (p := p) (u := u) client operation
    rw [hoperation] at hle
    exact hle
  · exact fun t ht => (h.task t ht).mono hsteps
  · exact fun action haction => (h.action action haction).mono hsteps

theorem onmessage (h : Connecting steps u p) (hsteps : steps ⊆ steps') {client : Nat}
    {m : Message} {before after : List Message} (hdown : p.down = before ++ m :: after) :
    Connecting steps' u (p.onmessage client m (before ++ after)) := by
  have hperm : (p.onmessage client m (before ++ after)).actions.Perm p.actions :=
    Network.actions_onmessage hdown
  refine h.keep hsteps (fun _ => rfl) rfl ?_ ?_ ?_
  · unfold Network.second
    rw [hperm.countP_eq]
    exact Nat.le_refl _
  · exact fun t ht => (h.task t ht).mono hsteps
  · exact fun action haction => (h.action action (hperm.mem_iff.mp haction)).mono hsteps

theorem receive (h : Connecting steps u p) (hsteps : steps ⊆ steps') {m : Message}
    {before after : List Message} (hup : p.up = before ++ m :: after) :
    Connecting steps' u (p.receive m (before ++ after)) := by
  refine h.keep hsteps (fun _ => rfl) rfl ?_ ?_ ?_
  · have hactions : (p.receive m (before ++ after)).actions = p.actions := rfl
    unfold Network.second
    rw [hactions, hup]
    simp only [Network.receive, List.countP_append, List.countP_cons, List.countP_nil,
      ServerTask.connects]
    omega
  · intro t ht
    rcases List.mem_append.mp ht with ht | ht
    · exact (h.task t ht).mono hsteps
    · rw [List.mem_singleton.mp ht]
      trivial
  · exact fun action haction => (h.action action haction).mono hsteps

theorem close (h : Connecting steps u p) (hsteps : steps ⊆ steps') (socket : Socket) :
    Connecting steps' u (p.close socket) := by
  have hnew : ∀ t ∈ (p.server.closing socket).map
      fun id => (p.nextNumber, ServerTask.goodbyeAddress id), ∃ id,
      t = (p.nextNumber, ServerTask.goodbyeAddress id) := by
    intro t ht
    obtain ⟨id, -, rfl⟩ := List.mem_map.mp ht
    exact ⟨id, rfl⟩
  refine h.keep hsteps (fun _ => rfl) rfl ?_ ?_ ?_
  · have hnone : ((p.server.closing socket).map
        fun id => (p.nextNumber, ServerTask.goodbyeAddress id)).countP
        (fun t => t.2.connects u) = 0 := by
      rw [List.countP_eq_zero]
      intro t ht
      obtain ⟨id, rfl⟩ := hnew t ht
      exact Bool.false_ne_true
    have hactions : (p.close socket).actions = p.actions := rfl
    unfold Network.second
    rw [hactions]
    simp only [Network.close, List.countP_append, hnone]
    omega
  · intro t ht
    rcases List.mem_append.mp ht with ht | ht
    · exact (h.task t ht).mono hsteps
    · obtain ⟨id, rfl⟩ := hnew t ht
      trivial
  · exact fun action haction => (h.action action haction).mono hsteps

theorem resume (h : Connecting steps u p) (hsteps : steps ⊆ steps') {n : Nat} {t : ServerTask}
    {before after : List (Nat × ServerTask)} (htasks : p.serverTasks = before ++ (n, t) :: after)
    (hx : (p, NetworkStep.resume n t) ∈ steps') :
    Connecting steps' u (p.resume n t (before ++ after)) := by
  have hperm := Network.actions_resume (p := p) n t (before ++ after)
  have ht : t.Tells steps u := h.task (n, t) (mem_of_taken htasks)
  refine h.keep hsteps (fun _ => rfl) rfl ?_ ?_ ?_
  · have hle := ServerTask.second_resume (u := u) (t.resumes p.server)
    have hcount : ((t.resume p.server).2.map fun t => (n, t)).countP (fun t => t.2.connects u)
        = (t.resume p.server).2.countP (ServerTask.connects u) := List.countP_map
    unfold Network.second
    rw [hperm.countP_eq, htasks, List.countP_append]
    simp only [Network.resume, List.countP_append, List.countP_cons, hcount]
    omega
  · intro t' ht'
    rcases List.mem_append.mp ht' with hold | hnew
    · exact (h.task t' (mem_of_rest htasks hold)).mono hsteps
    · obtain ⟨t'', ht'', rfl⟩ := List.mem_map.mp hnew
      exact ServerTask.tells_next (t.resumes p.server) ht hsteps hx t'' ht''
  · intro action haction
    rcases List.mem_append.mp (hperm.mem_iff.mp haction) with hpost | hold
    · exact ServerTask.tells_posts ht hsteps hx action hpost
    · exact (h.action action hold).mono hsteps

theorem connects_request {id : String} {r : Request} (hr : ¬∃ remote, r = .connect u remote) :
    (r.operation id).connects u = false := by
  cases r with
  | connect u' remote =>
    refine decide_eq_false fun hu => hr ⟨remote, ?_⟩
    have hu : u' = u := hu
    rw [hu]
  | _ => rfl

theorem request (h : Connecting steps u p) (hsteps : steps ⊆ steps') {client : Nat} {r : Request}
    (hfresh : p.Fresh r) : Connecting steps' u (p.request client r) := by
  have hle : (p.request client r).second u
      ≤ p.second u + if (r.operation (p.clients client).id).connects u then 1 else 0 :=
    second_send (p := p.setClient client ((p.clients client).request p.nextNumber r)) client _
  have htask : ∀ t ∈ (p.request client r).serverTasks, t.2.Tells steps' u :=
    fun t ht => (h.task t ht).mono hsteps
  have haction : ∀ action ∈ (p.request client r).actions, action.Tells steps' u :=
    fun action ha => (h.action action ha).mono hsteps
  by_cases hr : ∃ remote, r = .connect u remote
  · obtain ⟨remote, rfl⟩ := hr
    obtain ⟨hnone, hcall⟩ := h.fresh hfresh.2
    have hone : (p.request client (.connect u remote)).second u ≤ 1 := by
      refine hle.trans ?_
      rw [hnone]
      split_ifs <;> omega
    refine ⟨fun hu => absurd List.mem_cons_self hu, hone, htask, haction, ?_⟩
    intro client' n call r' hget hrequest
    rcases Network.get_calls_request hget with rfl | hold
    · refine ⟨fun _ => ?_, fun hne => absurd rfl hne, fun hv => (by cases hv),
        fun hv => (by cases hv)⟩
      rw [Nat.zero_add]
      exact hone
    · exact absurd hrequest (hcall hold)
  · rw [connects_request hr] at hle
    have hle : (p.request client r).second u ≤ p.second u := hle
    refine ⟨fun hu => ?_, hle.trans h.second, htask, haction, ?_⟩
    · have hids : u ∉ p.connectionIds := by
        cases r with
        | connect u' remote => exact fun hmem => hu (List.mem_cons_of_mem _ hmem)
        | _ => exact hu
      obtain ⟨hnone, hcall⟩ := h.fresh hids
      refine ⟨by omega, fun {client' n call r'} hget hrequest => ?_⟩
      rcases Network.get_calls_request hget with rfl | hold
      · exact hr ⟨r', hrequest⟩
      · exact hcall hold hrequest
    · intro client' n call r' hget hrequest
      rcases Network.get_calls_request hget with rfl | hold
      · exact absurd ⟨r', hrequest⟩ hr
      · exact (h.call hold hrequest).mono hsteps hle

/-- The client goes on without calling a listener. -/
private theorem handle_quiet (E : Emittery (String × Nat)) (h : Connecting steps u p)
    (hsteps : steps ⊆ steps') {task : ClientTask} {before after : List ClientTask}
    (htasks : p.clientTasks = before ++ task :: after)
    (hcalls : (SignalingClient.step E task.message.number (p.clients task.client)
      task.rest).1.calls = (p.clients task.client).calls)
    (hsecond : (SignalingClient.step E task.message.number (p.clients task.client)
      task.rest).2.countP (ClientAction.second u) ≤ task.rest.countP (ClientAction.second u))
    (htells : (∀ action ∈ task.rest, action.Tells steps u) →
      ∀ action ∈ (SignalingClient.step E task.message.number (p.clients task.client)
        task.rest).2, action.Tells steps u) :
    Connecting steps' u (p.handle E task (before ++ after)) := by
  obtain ⟨others, hbefore, hafter⟩ := Network.actions_handle E htasks
  refine h.keep hsteps (fun client => ?_) rfl ?_ (fun t ht => (h.task t ht).mono hsteps) ?_
  · show (Function.update p.clients task.client _ client).calls = _
    rw [Function.update_apply]
    split_ifs with hc
    · rw [hcalls, hc]
    · rfl
  · unfold Network.second
    rw [hafter.countP_eq, hbefore.countP_eq, List.countP_append, List.countP_append]
    simp only [Network.handle, Network.setClient]
    omega
  · intro action haction
    have hold : ∀ action ∈ task.rest ++ others, action.Tells steps u :=
      fun action ha => h.action action (hbefore.mem_iff.mpr ha)
    obtain ⟨hrest, hothers⟩ := List.forall_mem_append.mp hold
    rcases List.mem_append.mp (hafter.mem_iff.mp haction) with ha | ha
    · exact (htells hrest action ha).mono hsteps
    · exact (hothers action ha).mono hsteps

/-- The listeners of an event are called. -/
private theorem handle_emitting (E : Emittery (String × Nat)) (h : Connecting steps u p)
    (hwired : p.Wired) (hsteps : steps ⊆ steps') {client : Nat} {m : Message}
    {eventName : String} {data : EventData} {listeners : List (String × Nat)}
    {rest : List ClientAction} {before after : List ClientTask}
    (htasks : p.clientTasks
      = before ++ ⟨client, m, .emitting eventName data listeners :: rest⟩ :: after) :
    Connecting steps' u (p.handle E ⟨client, m, .emitting eventName data listeners :: rest⟩
      (before ++ after)) := by
  obtain ⟨others, hbefore, hafter⟩ := Network.actions_handle E htasks
  have hhead : ClientAction.emitting eventName data listeners ∈ p.actions :=
    hbefore.mem_iff.mpr List.mem_cons_self
  obtain ⟨hfits, hlisteners, -⟩ := hwired.fits _ hhead
  have htells : data.Tells steps u eventName := h.action _ hhead
  -- the head of the actions is gone, and with it the second message, if it was that
  have hsecond : (p.handle E ⟨client, m, .emitting eventName data listeners :: rest⟩
      (before ++ after)).second u + (if data.second u eventName then 1 else 0)
      = p.second u := by
    unfold Network.second
    rw [hafter.countP_eq, hbefore.countP_eq]
    simp only [Network.handle, Network.setClient, SignalingClient.step, List.cons_append,
      List.countP_append, List.countP_cons]
    have hhead : (if ClientAction.second u (.emitting eventName data listeners) then 1 else 0)
        = if data.second u eventName then 1 else 0 := rfl
    omega
  have hle := Nat.le_of_add_right_le (Nat.le_of_eq hsecond)
  have hnodup : ((E.called listeners ((p.clients client).listeners eventName)).map
      Prod.snd).Nodup := hlisteners.sublist ((E.sublist _ _).map _)
  -- the calls of the client, and those that hear of the event
  have hget : ∀ {client' n call}, ((p.handle E
      ⟨client, m, .emitting eventName data listeners :: rest⟩ (before ++ after)).clients
        client').calls.get n = some call → (p.clients client').calls.get n = some call ∨
      ∃ call', (p.clients client').calls.get n = some call' ∧ call'.eventName = eventName ∧
        call = call'.notify (p.clients client).id m.number data := by
    intro client' n call hcall
    have hclient : ((p.handle E ⟨client, m, .emitting eventName data listeners :: rest⟩
        (before ++ after)).clients client') = if client' = client
        then (p.clients client).callAll m.number data
          (E.called listeners ((p.clients client).listeners eventName))
        else p.clients client' := Network.clients_setClient client client' _
    rw [hclient] at hcall
    split_ifs at hcall with hc
    · subst hc
      rw [SignalingClient.get_calls_callAll hnodup] at hcall
      split_ifs at hcall with hmem
      · obtain ⟨call', hcall', rfl⟩ := Option.map_eq_some_iff.mp hcall
        obtain ⟨l, hl, rfl⟩ := List.mem_map.mp hmem
        obtain ⟨hl, hname⟩ := SignalingClient.Wired.mem_called hl
        obtain ⟨call'', hcall'', heq, -⟩ := (hwired.client client').listener hl
        rw [hcall'] at hcall''
        cases hcall''
        exact .inr ⟨call', hcall', heq.trans hname, rfl⟩
      · exact .inl hcall
    · exact .inl hcall
  constructor
  · intro hu
    obtain ⟨hnone, hcall⟩ := h.fresh hu
    refine ⟨by omega, fun {client' n call r} hcall' => ?_⟩
    rcases hget hcall' with hold | ⟨call', hold, -, rfl⟩
    · exact hcall hold
    · rw [Call.notify_request]
      exact hcall hold
  · exact hle.trans h.second
  · exact fun t ht => (h.task t ht).mono hsteps
  · intro action haction
    refine (h.action action (hbefore.mem_iff.mpr ?_)).mono hsteps
    exact List.mem_cons_of_mem _ (hafter.mem_iff.mp haction)
  · intro client' n call r hcall hrequest
    rcases hget hcall with hold | ⟨call', hold, hname, rfl⟩
    · exact (h.call hold hrequest).mono hsteps hle
    · rw [Call.notify_request] at hrequest
      have htold := (h.call hold hrequest).mono hsteps (Nat.le_refl _)
      rw [← hname] at hfits htells hsecond
      exact htold.notify hrequest _ _ hfits (htells.mono hsteps) (Nat.le_of_eq hsecond)

theorem handle (E : Emittery (String × Nat)) (h : Connecting steps u p) (hwired : p.Wired)
    (hsteps : steps ⊆ steps') {task : ClientTask} {before after : List ClientTask}
    (htasks : p.clientTasks = before ++ task :: after) :
    Connecting steps' u (p.handle E task (before ++ after)) := by
  obtain ⟨client, m, rest⟩ := task
  cases rest with
  | nil => exact h.handle_quiet E hsteps htasks rfl (Nat.le_refl _) fun hrest => hrest
  | cons action rest =>
    cases action with
    | acknowledge id =>
      refine h.handle_quiet E hsteps htasks rfl (List.countP_cons_of_neg ?_).ge ?_
      · exact Bool.false_ne_true
      · exact fun hrest => (List.forall_mem_cons.mp hrest).2
    | emit eventName data =>
      refine h.handle_quiet E hsteps htasks rfl (Nat.le_refl _) fun hrest => ?_
      obtain ⟨hemit, hrest⟩ := List.forall_mem_cons.mp hrest
      exact List.forall_mem_cons.mpr ⟨hemit, hrest⟩
    | emitting eventName data listeners => exact h.handle_emitting E hwired hsteps htasks
    | onAlias id a set =>
      refine h.handle_quiet E hsteps htasks rfl (List.countP_cons_of_neg ?_).ge ?_
      · exact Bool.false_ne_true
      · exact fun hrest => (List.forall_mem_cons.mp hrest).2

theorem step {E : Emittery (String × Nat)} {a : NetworkStep} (h : Connecting steps u p)
    (hwired : p.Wired) (hstep : Network.Step E p a p') :
    Connecting (steps ++ [(p, a)]) u p' := by
  have hsteps : steps ⊆ steps ++ [(p, a)] := List.subset_append_left _ _
  have hx : (p, a) ∈ steps ++ [(p, a)] := List.mem_append_right _ List.mem_cons_self
  cases hstep with
  | connecting hidle => exact h.quiet hsteps (Network.calls_setClient rfl) rfl rfl rfl rfl
  | @onopen client socket hclient =>
    have hopened : Connecting (steps ++ [(p, .onopen client)]) u (p.setClient client
        { p.clients client with client := some ⟨socket, .OPEN⟩ }) :=
      h.quiet hsteps (Network.calls_setClient rfl) rfl rfl rfl rfl
    exact hopened.send (List.Subset.refl _) client rfl
  | onclose hclient hlive => exact h.quiet hsteps (Network.calls_setClient rfl) rfl rfl rfl rfl
  | request hfresh => exact h.request hsteps hfresh
  | @handleSend client operation hrelayed =>
    refine h.send hsteps client ?_
    cases operation with
    | connect data => cases hrelayed
    | _ => rfl
  | onmessage hdown hfirst hclient => exact h.onmessage hsteps hdown
  | handle htasks => exact h.handle E hwired hsteps htasks
  | receive hup hfirst hopen => exact h.receive hsteps hup
  | close hsocket hopen => exact h.close hsteps _
  | resume htasks hready => exact h.resume hsteps htasks hx

end Connecting

theorem NetworkRun.connecting {E : Emittery (String × Nat)} {p : Network}
    (hrun : NetworkRun E steps p) (u : String) : Connecting steps u p := by
  induction hrun with
  | start hinit =>
    obtain ⟨subnet, parentWsId, rfl⟩ := hinit
    refine ⟨fun _ => ⟨rfl, fun hget => ?_⟩, Nat.zero_le _, ?_, ?_, fun hget => ?_⟩
    · cases hget
    · exact fun t ht => absurd ht List.not_mem_nil
    · exact fun action ha => absurd ha List.not_mem_nil
    · cases hget
  | snoc hrun hstep ih => exact ih.step (NetworkRun.wired hrun) hstep

/-! ## The decision is made once -/

section Decisions

variable (u : String)

/-- The tasks that lead to the decision about a Connect. -/
def ServerTask.undecided : ServerTask → Bool
  | .received operation _ => operation.connects u
  | .connectCreating data => data.clientConnectionId = u
  | .connectSearching data _ => data.clientConnectionId = u
  | .connectCreated data _ => data.clientConnectionId = u
  | _ => false

/-- The step in which the server decides about a Connect. -/
def NetworkStep.decides : NetworkStep → Bool
  | .resume _ (.connectCreated data _) => data.clientConnectionId = u
  | _ => false

/-- The places that hold a Connect without a decision. -/
def Network.undecided (p : Network) : Nat :=
  p.up.countP (fun m => m.operation.connects u)
    + p.serverTasks.countP fun t => t.2.undecided u

/-- One Connect, one decision. -/
structure Deciding (steps : List (Network × NetworkStep)) (p : Network) : Prop where
  fresh : u ∉ p.connectionIds →
    steps.countP (fun x => x.2.decides u) + p.undecided u = 0
  once : steps.countP (fun x => x.2.decides u) + p.undecided u ≤ 1

end Decisions

theorem ServerTask.undecided_resume {s s' : Server} {t : ServerTask} {next : List ServerTask}
    (hstep : Resumes s t s' next) (n : Nat) :
    (if (NetworkStep.resume n t).decides u then 1 else 0) + next.countP (undecided u)
      ≤ if t.undecided u then 1 else 0 := by
  cases hstep with
  | swept id outbox =>
    have hnone : ((s.owned id).map (ServerTask.releaseAddress id)).countP (undecided u) = 0 := by
      rw [List.countP_eq_zero]
      intro t ht
      obtain ⟨a, -, rfl⟩ := List.mem_map.mp ht
      exact Bool.false_ne_true
    rw [hnone]
    exact Nat.zero_le _
  | _ => simp [undecided, Operation.connects, NetworkStep.decides, List.countP_cons]

namespace Deciding

variable {p p' : Network} {a : NetworkStep}

/-- A step that makes no more decisions than it takes off the list. -/
theorem keep (h : Deciding u steps p) (hids : p'.connectionIds = p.connectionIds)
    (hle : (if a.decides u then 1 else 0) + p'.undecided u ≤ p.undecided u) :
    Deciding u (steps ++ [(p, a)]) p' := by
  have hcount : (steps ++ [(p, a)]).countP (fun x => x.2.decides u)
      = steps.countP (fun x => x.2.decides u) + if a.decides u then 1 else 0 := by
    rw [List.countP_append, List.countP_singleton]
  constructor
  · intro hu
    have hnone := h.fresh (hids ▸ hu)
    omega
  · have honce := h.once
    omega

theorem undecided_send (client : Nat) (operation : Operation) :
    (p.send client operation).undecided u
      ≤ p.undecided u + if operation.connects u then 1 else 0 := by
  have hup := Connecting.countP_up_send (p := p) (u := u) client operation
  have htasks : (p.send client operation).serverTasks = p.serverTasks := rfl
  unfold Network.undecided
  rw [htasks]
  omega

theorem step {E : Emittery (String × Nat)} (h : Deciding u steps p)
    (hstep : Network.Step E p a p') : Deciding u (steps ++ [(p, a)]) p' := by
  have hsend : ∀ {q : Network} {client : Nat} {operation : Operation},
      q.undecided u = p.undecided u → operation.connects u = false →
      0 + (q.send client operation).undecided u ≤ p.undecided u := by
    intro q client operation hq hoperation
    have hle := undecided_send (p := q) (u := u) client operation
    rw [hoperation] at hle
    have hle : (q.send client operation).undecided u ≤ q.undecided u := hle
    omega
  cases hstep with
  | connecting hidle => exact h.keep rfl (Nat.le_of_eq (Nat.zero_add _))
  | onopen hclient => exact h.keep rfl (hsend rfl rfl)
  | onclose hclient hlive => exact h.keep rfl (Nat.le_of_eq (Nat.zero_add _))
  | @request client r hfresh =>
    have hle : (p.request client r).undecided u
        ≤ p.undecided u + if (r.operation (p.clients client).id).connects u then 1 else 0 :=
      undecided_send (p := p.setClient client ((p.clients client).request p.nextNumber r))
        client _
    have hcount : (steps ++ [(p, NetworkStep.request client r)]).countP
        (fun x => x.2.decides u) = steps.countP fun x => x.2.decides u := by
      rw [List.countP_append]
      rfl
    have honce := h.once
    by_cases hr : ∃ remote, r = .connect u remote
    · obtain ⟨remote, rfl⟩ := hr
      have hnone := h.fresh hfresh.2
      refine ⟨fun hu => absurd List.mem_cons_self hu, ?_⟩
      rw [hcount]
      split_ifs at hle <;> omega
    · rw [Connecting.connects_request hr] at hle
      have hle : (p.request client r).undecided u ≤ p.undecided u := hle
      refine ⟨fun hu => ?_, by omega⟩
      have hids : u ∉ p.connectionIds := by
        cases r with
        | connect u' remote => exact fun hmem => hu (List.mem_cons_of_mem _ hmem)
        | _ => exact hu
      have hnone := h.fresh hids
      omega
  | @handleSend client operation hrelayed =>
    refine h.keep rfl (hsend rfl ?_)
    cases operation with
    | connect data => cases hrelayed
    | _ => rfl
  | onmessage hdown hfirst hclient => exact h.keep rfl (Nat.le_of_eq (Nat.zero_add _))
  | handle htasks => exact h.keep rfl (Nat.le_of_eq (Nat.zero_add _))
  | @receive m before after hup hfirst hopen =>
    refine h.keep rfl (Nat.le_of_eq ((Nat.zero_add _).trans ?_))
    have hreceived : (if (ServerTask.received m.operation m.socket).undecided u then 1 else 0)
        = if m.operation.connects u then 1 else 0 := rfl
    unfold Network.undecided
    rw [hup]
    simp only [Network.receive, List.countP_append, List.countP_cons, List.countP_nil]
    omega
  | @close socket hsocket hopen =>
    refine h.keep rfl (Nat.le_of_eq ((Nat.zero_add _).trans ?_))
    have hnone : ((p.server.closing socket).map
        fun id => (p.nextNumber, ServerTask.goodbyeAddress id)).countP
        (fun t => t.2.undecided u) = 0 := by
      rw [List.countP_eq_zero]
      intro t ht
      obtain ⟨id, -, rfl⟩ := List.mem_map.mp ht
      exact Bool.false_ne_true
    unfold Network.undecided
    simp only [Network.close, List.countP_append, hnone]
    omega
  | @resume n t before after htasks hready =>
    refine h.keep rfl ?_
    have hle := ServerTask.undecided_resume (u := u) (t.resumes p.server) n
    have hcount : ((t.resume p.server).2.map fun t => (n, t)).countP
        (fun t => t.2.undecided u)
        = (t.resume p.server).2.countP (ServerTask.undecided u) := List.countP_map
    unfold Network.undecided
    rw [htasks]
    simp only [Network.resume, List.countP_append, List.countP_cons, hcount]
    omega

end Deciding

theorem NetworkRun.deciding {E : Emittery (String × Nat)} {p : Network}
    (hrun : NetworkRun E steps p) (u : String) : Deciding u steps p := by
  induction hrun with
  | start hinit =>
    obtain ⟨subnet, parentWsId, rfl⟩ := hinit
    exact ⟨fun _ => rfl, Nat.zero_le _⟩
  | snoc hrun hstep ih => exact ih.step hstep

/-- Two decisions about a Connect are the same step. -/
theorem Deciding.unique {p : Network} (h : Deciding u steps p)
    {x y : Network × NetworkStep} (hx : x ∈ steps) (hy : y ∈ steps)
    (hxu : x.2.decides u = true) (hyu : y.2.decides u = true) : x = y := by
  have hlen : (steps.filter fun x => x.2.decides u).length ≤ 1 := by
    rw [← List.countP_eq_length_filter]
    have honce := h.once
    omega
  have hx' : x ∈ steps.filter fun x => x.2.decides u := List.mem_filter.mpr ⟨hx, hxu⟩
  have hy' : y ∈ steps.filter fun x => x.2.decides u := List.mem_filter.mpr ⟨hy, hyu⟩
  rcases hl : steps.filter (fun x => x.2.decides u) with _ | ⟨z, _ | ⟨w, rest⟩⟩
  · rw [hl] at hx'
    cases hx'
  · rw [hl] at hx' hy'
    rw [List.mem_singleton.mp hx', List.mem_singleton.mp hy']
  · rw [hl] at hlen
    simp at hlen

/-- An accepted Connect has one alias and was not rejected. -/
theorem Accepted.unique {p : Network} (hdeciding : Deciding u steps p) {a : String}
    (h : Accepted steps u a) :
    (∀ a', Accepted steps u a' → a' = a) ∧ ¬Rejected steps u := by
  obtain ⟨x, hx, n, data, hstep, hu, hremote, -⟩ := h
  have hxu : x.2.decides u = true := by
    rw [hstep]
    exact decide_eq_true hu
  constructor
  · rintro a' ⟨y, hy, n', data', hstep', hu', -, -⟩
    have hyu : y.2.decides u = true := by
      rw [hstep']
      exact decide_eq_true hu'
    have he := hdeciding.unique hx hy hxu hyu
    rw [he, hstep'] at hstep
    cases hstep
    rfl
  · rintro ⟨y, hy, n', data', a', hstep', hu', hremote'⟩
    have hyu : y.2.decides u = true := by
      rw [hstep']
      exact decide_eq_true hu'
    have he := hdeciding.unique hx hy hxu hyu
    rw [he, hstep'] at hstep
    cases hstep
    rw [he, hremote'] at hremote
    cases hremote

/-! ## What a call of connect returns -/

/-- A call of `connect` resolves only with the one alias that was registered for
its own connection, and rejects only if the server has rejected its Connect. -/
theorem connect_alias {E : Emittery (String × Nat)} {p : Network} (hrun : NetworkRun E steps p)
    {client n : Nat} {call : Call} {remote : String}
    (hcall : (p.clients client).calls.get n = some call)
    (hrequest : call.request = .connect u remote) :
    (∀ value, call.promise = .resolved value →
      ∃ a, value = some a ∧ a ≠ "" ∧ Accepted steps u a ∧
        (∀ a', Accepted steps u a' → a' = a) ∧ ¬Rejected steps u) ∧
    (∀ reason, call.promise = .rejected reason →
      Rejected steps u ∧ ∀ a, ¬Accepted steps u a) := by
  have htold := (NetworkRun.connecting hrun u).call hcall hrequest
  have hdeciding := NetworkRun.deciding hrun u
  constructor
  · intro value hv
    obtain ⟨a, ha, hne, haccepted⟩ := htold.resolved hv
    exact ⟨a, ha, hne, haccepted, haccepted.unique hdeciding⟩
  · intro reason hr
    have hrejected := htold.rejected hr
    exact ⟨hrejected, fun a haccepted => (haccepted.unique hdeciding).2 hrejected⟩

/-- One client binds an alias and accepts; the other connects, and handles the
second `Alias` first. -/
def connectionEvents : List Network.Event :=
  NetworkRun.join 0 0 ++ NetworkRun.join 1 1 ++
  [.request 0 (.bind "127.0.0.0:80")] ++ NetworkRun.serve 0 3 ++
  NetworkRun.notify 0 0 ++ NetworkRun.notify 0 3 ++ NetworkRun.notify 1 3 ++
  [.request 0 (.accept "127.0.0.0:80")] ++ NetworkRun.serve 0 1 ++
  [.request 1 (.connect "u" "127.0.0.0:80")] ++ NetworkRun.serve 1 7 ++
  [.onmessage 1, .onmessage 1, .handle 1, .handle 1, .handle 0, .handle 1]

theorem connect_alias_run : ∃ steps p, NetworkRun .subscribed steps p ∧
    Accepted steps "u" "127.0.0.1:0" := by
  obtain ⟨steps, p, hrun, hcall⟩ := NetworkRun.exists_along (E := .subscribed)
    (P := fun _ p => (p.clients 1).calls.get 9 = some
      { request := .connect "u" "127.0.0.0:80"
        id := "127.0.0.1"
        i := 2
        «alias» := "127.0.0.1:0"
        promise := .resolved (some "127.0.0.1:0")
        answeredBy := some 10 })
    "127.0.0" connectionEvents (by decide +kernel)
  obtain ⟨a, ha, -, haccepted, -⟩ := (connect_alias hrun hcall rfl).1 _ rfl
  cases ha
  exact ⟨steps, p, hrun, haccepted⟩

end Unisockets.Signaling
