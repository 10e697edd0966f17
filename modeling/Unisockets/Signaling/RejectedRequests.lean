import Unisockets.Signaling.Delivery

/-!
# Rejected requests

A rejected request should leave every alias table as it is.  The server sends
its rejection as an `Alias` to the client of the id in the request, and that
client hands every `Alias` on to its table.  So the tables stay as they are
exactly if the rejection says what the table of that client says already
(`rejected_tables`).

A request is handled alone here: it is sent in the state of a run, with nothing
else on its way, and `Network.Settles` leads from there to the states in which
everything has been delivered and handled.
-/

namespace Unisockets.Signaling

open JsStd Transition

namespace NetworkStep

/-- The steps in which something that is on its way is handled. -/
def handles : NetworkStep → Bool
  | .onmessage .. | .handle _ | .receive _ | .resume .. => true
  | _ => false

end NetworkStep

namespace Network

/-- What is on its way is delivered and handled. -/
inductive Settles (E : Emittery (String × Nat)) : Network → Network → Prop where
  | quiet {p : Network} (h : p.Quiet) : Settles E p p
  | step {p q p' : Network} {a : NetworkStep} (hstep : Step E p a q) (ha : a.handles = true)
      (hrest : Settles E q p') : Settles E p p'

/-- The same state with nothing on its way. -/
def alone (p : Network) : Network :=
  { p with clientTasks := [], serverTasks := [], up := [], down := [] }

/-- What every step of the handling keeps holds when all is quiet. -/
theorem Settles.invariant {E : Emittery (String × Nat)} {I : Network → Prop} {p p' : Network}
    (h : Settles E p p') (hp : I p)
    (hstep : ∀ q a q', I q → a.handles = true → Step E q a q' → I q') : I p' ∧ p'.Quiet := by
  induction h with
  | quiet hquiet => exact ⟨hp, hquiet⟩
  | step hs ha _ ih => exact ih (hstep _ _ _ hp ha hs)

/-- The events in which something that is on its way is handled. -/
def Event.handles : Event → Bool
  | .onmessage _ | .handle _ | .receive _ | .resume _ => true
  | _ => false

theorem handles_of_next {E : Emittery (String × Nat)} {p p' : Network} {e : Event}
    {a : NetworkStep} (h : p.next E e = some (a, p')) (he : e.handles = true) :
    a.handles = true := by
  cases e with
  | onmessage client =>
    simp only [next] at h
    split at h
    · obtain ⟨r, -, hr⟩ := Option.map_eq_some_iff.mp h
      cases hr
      rfl
    · cases h
  | handle i =>
    obtain ⟨task, -, hr⟩ := Option.map_eq_some_iff.mp h
    cases hr
    rfl
  | receive socket =>
    simp only [next] at h
    split_ifs at h
    obtain ⟨r, -, hr⟩ := Option.map_eq_some_iff.mp h
    cases hr
    rfl
  | resume i =>
    simp only [next] at h
    split at h
    · split_ifs at h
      cases h
      rfl
    · cases h
  | _ => cases he

/-- The handling along a list of events. -/
theorem settles_along {E : Emittery (String × Nat)} {es : List Event}
    (hes : ∀ e ∈ es, e.handles = true) {p : Network} {steps : List (Network × NetworkStep)}
    {r : List (Network × NetworkStep) × Network}
    (h : Run.along (next E) es p steps = some r) (hquiet : r.2.Quiet) : Settles E p r.2 := by
  induction es generalizing p steps with
  | nil =>
    cases h
    exact .quiet hquiet
  | cons e es ih =>
    obtain ⟨he, hes⟩ := List.forall_mem_cons.mp hes
    obtain ⟨⟨a, q⟩, hnext, hrest⟩ := Option.bind_eq_some_iff.mp h
    exact .step (step_of_next E hnext) (handles_of_next hnext he) (ih hes hrest)

/-- Nothing is on its way. -/
theorem Quiet.of_nil {p : Network} (hclientTasks : p.clientTasks = [])
    (hserverTasks : p.serverTasks = []) (hup : p.up = []) (hdown : p.down = []) : p.Quiet where
  clientTasks := hclientTasks
  serverTasks := hserverTasks
  up m hm := by
    rw [hup] at hm
    cases hm
  down m hm := by
    rw [hdown] at hm
    cases hm

/-- A client is connected to the socket that the server has for an id. -/
def Receives (p : Network) (id : String) (client : Nat) : Prop :=
  ∃ socket, p.server.clients.get id = some socket ∧
    (p.clients client).client = some ⟨socket, .OPEN⟩

end Network

/-! ## Rejections -/

namespace Server

/-- The alias that `createTCPAddress` finds for a client. -/
def newAlias (s : Server) (id : String) : String :=
  let key := parseIPAddress id
  toTCPAddress (toIPAddress key.subnet key.suffix) ((s.subnets.sortPorts key).nextPort key)

/-- A request is rejected, with what the `Alias` says that is sent in reply. -/
inductive Rejects (s : Server) (id : String) : Request → IAliasData → Prop where
  | bind {a : String} (htaken : s.aliases.has a = true) :
    Rejects s id (.bind a) { id := id, «alias» := a, set := false }
  | shutdown {a : String}
      (hforeign : ((s.aliases.get a).any fun entry => entry.id = id) = false) :
    Rejects s id (.shutdown a) { id := id, «alias» := a, set := true }
  | connect {clientConnectionId remoteAlias : String}
      (hmember : (s.subnets.member (parseIPAddress id)).isSome = true)
      (hremote : (s.aliases.get remoteAlias).any MAlias.accepting = false) :
    Rejects s id (.connect clientConnectionId remoteAlias) {
      id := id
      «alias» := s.newAlias id
      set := false
      clientConnectionId := some clientConnectionId }

end Server

/-- The table of a client says what an `Alias` says. -/
def SignalingClient.Agrees (c : SignalingClient) (data : IAliasData) : Prop :=
  if data.set then c.aliasesHolder.get data.alias = some data.id
  else c.aliasesHolder.has data.alias = false

/-- An `Alias` that says what the table says does not change it, and any other
does. -/
theorem SignalingClient.handleAlias_eq_iff (c : SignalingClient) (data : IAliasData) :
    (c.handleAlias data.id data.alias data.set).aliasesHolder = c.aliasesHolder ↔
      c.Agrees data := by
  unfold handleAlias Agrees
  cases data.set with
  | false =>
    refine Iff.trans ⟨fun he => ?_, Map.delete_eq_self⟩ (by simp)
    rw [← he, Map.has_eq_false_iff]
    exact Map.get_delete_self _ _
  | true =>
    refine Iff.trans ⟨fun he => ?_, Map.set_eq_self⟩ (by simp)
    rw [← he]
    exact Map.get_set_self _ _ _

/-! ## The handler of a rejected request -/

/-- The handler of a rejected request, at every point. -/
inductive Refusing (s : Server) (id : String) (r : Request) (socket : Socket) (data : IAliasData) :
    ServerTask → Server → Prop where
  | received : Refusing s id r socket data (.received (r.operation id) socket) s
  | creating {request : IConnectData} (hr : r.operation id = .connect request) :
    Refusing s id r socket data (.connectCreating request) s
  | searching {request : IConnectData} {newPort : Nat} {s' : Server}
      (hr : r.operation id = .connect request)
      (hport : newPort = (s.subnets.sortPorts (parseIPAddress id)).nextPort (parseIPAddress id))
      (hclients : s'.clients = s.clients) (haliases : s'.aliases = s.aliases) :
    Refusing s id r socket data (.connectSearching request newPort) s'
  | created {request : IConnectData} {s' : Server} (hr : r.operation id = .connect request)
      (hclients : s'.clients = s.clients) (haliases : s'.aliases = s.aliases) :
    Refusing s id r socket data (.connectCreated request (s.newAlias id)) s'
  | rejecting {request : IConnectData} {s' : Server} (hr : r.operation id = .connect request)
      (hclients : s'.clients = s.clients) :
    Refusing s id r socket data
      (.connectRejecting request (s.newAlias id) (s.clients.get id)) s'
  | rejected {request : IConnectData} {s' : Server} (hr : r.operation id = .connect request)
      (hclients : s'.clients = s.clients) :
    Refusing s id r socket data
      (.connectRejected request (s.newAlias id) (s.clients.get id)) s'

/-- The handler goes on without a message, or ends with the rejection. -/
theorem Refusing.resume {s s' : Server} {id : String} {r : Request} {socket : Socket}
    {data : IAliasData} {t : ServerTask} (hrejects : s.Rejects id r data)
    (h : Refusing s id r socket data t s') :
    (∃ t', (t.resume s').2 = [t'] ∧ t.posts s' = [] ∧
      Refusing s id r socket data t' (t.resume s').1) ∨
    (t.resume s').2 = [] ∧ t.posts s' = s.toClient id (.alias data) := by
  cases h with
  | received =>
    cases hrejects with
    | bind htaken =>
      right
      simp [Request.operation, ServerTask.resume, ServerTask.handle, ServerTask.posts,
        ServerTask.answers, htaken, ServerTask.announce]
    | shutdown hforeign =>
      right
      simp [Request.operation, ServerTask.resume, ServerTask.handle, ServerTask.posts,
        ServerTask.answers, hforeign, ServerTask.announce]
    | connect hmember hremote => exact .inl ⟨_, rfl, rfl, .creating rfl⟩
  | creating hr =>
    cases hrejects with
    | bind htaken => cases hr
    | shutdown hforeign => cases hr
    | @connect clientConnectionId remoteAlias hmember hremote =>
      cases hr
      left
      refine ⟨.connectSearching ⟨id, remoteAlias, clientConnectionId⟩
        ((s.subnets.sortPorts (parseIPAddress id)).nextPort (parseIPAddress id)), ?_, rfl, ?_⟩
      · simp only [ServerTask.resume, hmember, if_true]
      · simp only [ServerTask.resume, hmember, if_true]
        exact .searching rfl rfl rfl rfl
  | searching hr hport hclients haliases =>
    cases hrejects with
    | bind htaken => cases hr
    | shutdown hforeign => cases hr
    | connect hmember hremote =>
      cases hr
      subst hport
      exact .inl ⟨_, rfl, rfl, .created rfl hclients haliases⟩
  | @created request s' hr hclients haliases =>
    cases hrejects with
    | bind htaken => cases hr
    | shutdown hforeign => cases hr
    | @connect clientConnectionId remoteAlias hmember hremote =>
      cases hr
      left
      rw [← haliases] at hremote
      refine ⟨.connectRejecting ⟨id, remoteAlias, clientConnectionId⟩ (s.newAlias id)
        (s.clients.get id), ?_, ?_, ?_⟩
      · simp [ServerTask.resume, ServerTask.handleConnect, hremote, hclients]
      · simp [ServerTask.posts, hremote]
      · simp only [ServerTask.resume, ServerTask.handleConnect, hremote]
        exact .rejecting rfl hclients
  | rejecting hr hclients => exact .inl ⟨_, rfl, rfl, .rejected hr hclients⟩
  | rejected hr hclients =>
    cases hrejects with
    | bind htaken => cases hr
    | shutdown hforeign => cases hr
    | connect hmember hremote =>
      cases hr
      exact .inr ⟨rfl, rfl⟩

/-! ## From the request to the table -/

namespace Network

variable {E : Emittery (String × Nat)} {p q q' : Network} {a : NetworkStep} {r : Request}
  {data : IAliasData} {id : String}

/-- The tables and the sockets of the clients are those of `p`. -/
structure Unchanged (p q : Network) : Prop where
  tables : ∀ client, (q.clients client).aliasesHolder = (p.clients client).aliasesHolder
  sockets : ∀ client, (q.clients client).client = (p.clients client).client

/-- A rejected request and its rejection, at every point of their way. -/
inductive RejectStage (p : Network) (id : String) (r : Request) (data : IAliasData) :
    Network → Prop where
  | sent {q : Network} {m : Message} (hsame : Unchanged p q) (hclosed : q.closed = p.closed)
      (hserver : q.server = p.server) (hoperation : m.operation = r.operation id)
      (hopen : m.socket ∉ p.closed) (hup : q.up = [m]) (hserverTasks : q.serverTasks = [])
      (hdown : q.down = []) (htasks : q.clientTasks = []) : RejectStage p id r data q
  | serving {q : Network} {number : Nat} {t : ServerTask} {socket : Socket}
      (hsame : Unchanged p q) (hrefusing : Refusing p.server id r socket data t q.server)
      (hup : q.up = []) (hserverTasks : q.serverTasks = [(number, t)])
      (hdown : q.down = []) (htasks : q.clientTasks = []) : RejectStage p id r data q
  | replied {q : Network} {m : Message} (hsame : Unchanged p q)
      (hoperation : m.operation = .alias data)
      (hsocket : p.server.clients.get id = some m.socket)
      (hup : q.up = []) (hserverTasks : q.serverTasks = [])
      (hdown : q.down = [m]) (htasks : q.clientTasks = []) : RejectStage p id r data q
  | handling {q : Network} {t : ClientTask} (hsame : Unchanged p q)
      (hreceives : p.Receives id t.client)
      (hlast : ∃ before, t.rest = before ++ [.onAlias data.id data.alias data.set] ∧
        ∀ action ∈ before, action.emits = true)
      (hup : q.up = []) (hserverTasks : q.serverTasks = [])
      (hdown : q.down = []) (htasks : q.clientTasks = [t]) : RejectStage p id r data q
  | done {q : Network} {client : Nat} (hreceives : p.Receives id client)
      (htables : ∀ client', (q.clients client').aliasesHolder = if client' = client
        then ((p.clients client).handleAlias data.id data.alias data.set).aliasesHolder
        else (p.clients client').aliasesHolder)
      (hup : q.up = []) (hserverTasks : q.serverTasks = [])
      (hdown : q.down = []) (htasks : q.clientTasks = []) : RejectStage p id r data q
  | dropped {q : Network} (hsame : Unchanged p q) (hgone : p.server.clients.get id = none)
      (hup : q.up = []) (hserverTasks : q.serverTasks = [])
      (hdown : q.down = []) (htasks : q.clientTasks = []) : RejectStage p id r data q

/-- An `Alias` is emitted and then handed on to the table. -/
theorem handleOperation_alias (data : IAliasData) :
    ∃ before, SignalingClient.handleOperation (.alias data)
        = before ++ [.onAlias data.id data.alias data.set] ∧
      ∀ action ∈ before, action.emits = true := by
  simp only [SignalingClient.handleOperation]
  split
  · exact ⟨[_], rfl, fun action haction => by rw [List.mem_singleton.mp haction]; rfl⟩
  · exact ⟨[_], rfl, fun action haction => by rw [List.mem_singleton.mp haction]; rfl⟩

private theorem ne_nil_of_eq_split {α : Type*} {l before after : List α} {x : α}
    (h : l = before ++ x :: after) : l ≠ [] := by
  rw [h]
  simp

private theorem eq_of_singleton_eq_split {α : Type*} {before after : List α} {x y : α}
    (h : [x] = before ++ y :: after) : y = x ∧ before = [] ∧ after = [] := by
  cases before with
  | nil =>
    obtain ⟨rfl, rfl⟩ := List.cons.inj h
    exact ⟨rfl, rfl, rfl⟩
  | cons z before =>
    have hnil := (List.cons.inj h).2
    exact absurd hnil.symm (by simp)

/-- Where nothing is on its way, nothing is handled. -/
private theorem not_step_of_nil (hclientTasks : q.clientTasks = [])
    (hserverTasks : q.serverTasks = []) (hup : q.up = []) (hdown : q.down = [])
    (ha : a.handles = true) : ¬Step E q a q' := by
  intro hstep
  cases hstep with
  | onmessage hd => exact absurd hdown (ne_nil_of_eq_split hd)
  | handle ht => exact absurd hclientTasks (ne_nil_of_eq_split ht)
  | receive hu => exact absurd hup (ne_nil_of_eq_split hu)
  | resume ht => exact absurd hserverTasks (ne_nil_of_eq_split ht)
  | _ => cases ha

/-- The clients are those before the step. -/
theorem Unchanged.of_clients (h : Unchanged p q) (hclients : q'.clients = q.clients) :
    Unchanged p q' := by
  constructor
  · rw [hclients]
    exact h.tables
  · rw [hclients]
    exact h.sockets

/-- The only step that is left for a client that handles an `Alias`. -/
theorem RejectStage.handle {t : ClientTask} (hsame : Unchanged p q)
    (hreceives : p.Receives id t.client)
    (hlast : ∃ before, t.rest = before ++ [.onAlias data.id data.alias data.set] ∧
      ∀ action ∈ before, action.emits = true)
    (hup : q.up = []) (hserverTasks : q.serverTasks = []) (hdown : q.down = []) :
    RejectStage p id r data (q.handle E t []) := by
  obtain ⟨client, m, rest⟩ := t
  obtain ⟨before, hrest, hemits⟩ := hlast
  have hrest : rest = before ++ [.onAlias data.id data.alias data.set] := hrest
  subst hrest
  cases before with
  | nil =>
    refine .done hreceives (fun client' => ?_) hup hserverTasks hdown rfl
    show ((q.setClient client _).clients client').aliasesHolder = _
    rw [clients_setClient]
    split_ifs with hc
    · show (if data.set then _ else _) = if data.set then _ else _
      rw [hsame.tables client]
    · exact hsame.tables client'
  | cons action before =>
    obtain ⟨haction, hbefore⟩ := List.forall_mem_cons.mp hemits
    have hgoes : ∃ next, (SignalingClient.step E m.number (q.clients client)
          (action :: before ++ [.onAlias data.id data.alias data.set])).2
        = next ++ [.onAlias data.id data.alias data.set] ∧
        (∀ action ∈ next, action.emits = true) ∧
        (SignalingClient.step E m.number (q.clients client)
          (action :: before ++ [.onAlias data.id data.alias data.set])).1.aliasesHolder
          = (q.clients client).aliasesHolder := by
      cases action with
      | emit eventName event =>
        exact ⟨_ :: before, rfl, List.forall_mem_cons.mpr ⟨rfl, hbefore⟩, rfl⟩
      | emitting eventName event listeners =>
        exact ⟨before, rfl, hbefore, SignalingClient.callAll_aliasesHolder⟩
      | _ => cases haction
    obtain ⟨next, hnext, hemitsNext, htable⟩ := hgoes
    refine .handling (t := ⟨client, m, next ++ [.onAlias data.id data.alias data.set]⟩)
      ⟨fun client' => ?_, fun client' => ?_⟩ hreceives ⟨next, rfl, hemitsNext⟩ hup hserverTasks
      hdown ?_
    · show ((q.setClient client _).clients client').aliasesHolder = _
      rw [clients_setClient]
      split_ifs with hc
      · rw [htable, hc]
        exact hsame.tables client
      · exact hsame.tables client'
    · rw [client_handle]
      exact hsame.sockets client'
    · show [] ++ ClientTask.remaining client m _ = _
      rw [hnext]
      simp [ClientTask.remaining]

theorem RejectStage.step (hrejects : p.server.Rejects id r data)
    (h : RejectStage p id r data q) (ha : a.handles = true) (hstep : Step E q a q') :
    RejectStage p id r data q' := by
  cases h with
  | sent hsame hclosed hserver hoperation hopen hup hserverTasks hdown htasks =>
    cases hstep with
    | onmessage hd => exact absurd hdown (ne_nil_of_eq_split hd)
    | handle ht => exact absurd htasks (ne_nil_of_eq_split ht)
    | resume ht => exact absurd hserverTasks (ne_nil_of_eq_split ht)
    | @receive m before after hu =>
      rw [hup] at hu
      obtain ⟨rfl, rfl, rfl⟩ := eq_of_singleton_eq_split hu
      have hrefusing : Refusing p.server id r m.socket data
          (.received m.operation m.socket) q.server := by
        rw [hoperation, hserver]
        exact .received
      have hserverTasks' : (q.receive m ([] ++ [])).serverTasks
          = [(m.number, .received m.operation m.socket)] := by
        show q.serverTasks ++ _ = _
        rw [hserverTasks]
        rfl
      exact .serving (hsame.of_clients rfl) hrefusing rfl hserverTasks' hdown htasks
    | _ => cases ha
  | @serving number t socket hsame hrefusing hup hserverTasks hdown htasks =>
    cases hstep with
    | onmessage hd => exact absurd hdown (ne_nil_of_eq_split hd)
    | handle ht => exact absurd htasks (ne_nil_of_eq_split ht)
    | receive hu => exact absurd hup (ne_nil_of_eq_split hu)
    | @resume number' t' before after ht hready =>
      rw [hserverTasks] at ht
      obtain ⟨he, rfl, rfl⟩ := eq_of_singleton_eq_split ht
      obtain ⟨rfl, rfl⟩ := Prod.mk.inj he
      rcases hrefusing.resume hrejects with ⟨t'', hnext, hposts, hrefusing'⟩ | ⟨hnext, hposts⟩
      · have hserverTasks' : (q.resume number' t' ([] ++ [])).serverTasks = [(number', t'')] := by
          show [] ++ [] ++ _ = _
          rw [hnext]
          rfl
        refine .serving (hsame.of_clients rfl) hrefusing' hup hserverTasks' ?_ htasks
        show q.down ++ _ = _
        rw [hposts, hdown]
        rfl
      · have hserverTasks' : (q.resume number' t' ([] ++ [])).serverTasks = [] := by
          show [] ++ [] ++ _ = _
          rw [hnext]
          rfl
        have hdown' : (q.resume number' t' ([] ++ [])).down
            = Message.numbered number' q.nextNumber (p.server.toClient id (.alias data)) := by
          show q.down ++ _ = _
          rw [hposts, hdown]
          rfl
        cases hclient : p.server.clients.get id with
        | none =>
          refine .dropped (hsame.of_clients rfl) hclient hup hserverTasks' ?_ htasks
          rw [hdown', Server.toClient, hclient]
          rfl
        | some socket =>
          refine .replied (m := ⟨q.nextNumber, number', socket, .alias data⟩)
            (hsame.of_clients rfl) rfl hclient hup hserverTasks' ?_ htasks
          rw [hdown', Server.toClient, hclient]
          rfl
    | _ => cases ha
  | replied hsame hoperation hsocket hup hserverTasks hdown htasks =>
    cases hstep with
    | @onmessage client m before after hd hfirst hclient =>
      rw [hdown] at hd
      obtain ⟨rfl, rfl, rfl⟩ := eq_of_singleton_eq_split hd
      obtain ⟨actions, hactions, hemits⟩ := handleOperation_alias data
      rw [hsame.sockets client] at hclient
      refine .handling (t := ⟨client, m, actions ++ [.onAlias data.id data.alias data.set]⟩)
        (hsame.of_clients rfl) ⟨_, hsocket, hclient⟩ ⟨actions, rfl, hemits⟩ hup hserverTasks
        rfl ?_
      show q.clientTasks ++ ClientTask.remaining client m _ = _
      rw [htasks, hoperation, hactions]
      simp [ClientTask.remaining]
    | handle ht => exact absurd htasks (ne_nil_of_eq_split ht)
    | receive hu => exact absurd hup (ne_nil_of_eq_split hu)
    | resume ht => exact absurd hserverTasks (ne_nil_of_eq_split ht)
    | _ => cases ha
  | handling hsame hreceives hlast hup hserverTasks hdown htasks =>
    cases hstep with
    | onmessage hd => exact absurd hdown (ne_nil_of_eq_split hd)
    | handle ht =>
      rw [htasks] at ht
      obtain ⟨rfl, rfl, rfl⟩ := eq_of_singleton_eq_split ht
      exact .handle hsame hreceives hlast hup hserverTasks hdown
    | receive hu => exact absurd hup (ne_nil_of_eq_split hu)
    | resume ht => exact absurd hserverTasks (ne_nil_of_eq_split ht)
    | _ => cases ha
  | done hreceives htables hup hserverTasks hdown htasks =>
    exact absurd hstep (not_step_of_nil htasks hserverTasks hup hdown ha)
  | dropped hsame hgone hup hserverTasks hdown htasks =>
    exact absurd hstep (not_step_of_nil htasks hserverTasks hup hdown ha)

theorem up_send {client : Nat} {socket : Socket} (h : (q.clients client).outgoing = some socket)
    (operation : Operation) :
    (q.send client operation).up
      = q.up ++ [⟨q.nextNumber, q.nextNumber, socket, operation⟩] := by
  simp only [send, h]

/-- The request reaches the server, which rejects it. -/
structure Rejects (p : Network) (client : Nat) (r : Request) (data : IAliasData) : Prop where
  reaches : ∃ socket, (p.clients client).outgoing = some socket ∧ socket ∉ p.closed
  rejects : p.server.Rejects (p.clients client).id r data

theorem Rejects.sent {client : Nat} (h : p.Rejects client r data) :
    RejectStage p (p.clients client).id r data (p.alone.request client r) := by
  obtain ⟨socket, houtgoing, hopen⟩ := h.reaches
  have hclients : ∀ client', (p.alone.request client r).clients client'
      = if client' = client then (p.clients client).request p.nextNumber r
        else p.clients client' := fun client' => clients_setClient client client' _
  refine .sent (m := ⟨p.nextNumber, p.nextNumber, socket, r.operation (p.clients client).id⟩)
    ⟨fun client' => ?_, fun client' => ?_⟩ rfl rfl rfl hopen ?_ rfl rfl rfl
  · rw [hclients]
    split_ifs with hc
    · rw [hc]
      rfl
    · rfl
  · rw [hclients]
    split_ifs with hc
    · rw [hc]
      rfl
    · rfl
  · have hself : ((p.alone.setClient client
        ((p.clients client).request p.nextNumber r)).clients client).outgoing = some socket := by
      rw [clients_setClient, if_pos rfl]
      exact houtgoing
    exact up_send hself _

end Network

/-! ## Rejected requests and the tables -/

/-- When a rejected request is handled alone, the tables of all clients stay as
they are if and only if the table of the client that gets the rejection says
already what the rejection says. -/
theorem rejected_tables {E : Emittery (String × Nat)} {steps : List (Network × NetworkStep)}
    {p p' : Network} (hrun : NetworkRun E steps p) {client : Nat} {r : Request}
    {data : IAliasData} (hrejects : p.Rejects client r data)
    (h : Network.Settles E (p.alone.request client r) p') :
    (∀ client', (p'.clients client').aliasesHolder = (p.clients client').aliasesHolder) ↔
      ∀ client', p.Receives (p.clients client).id client' → (p.clients client').Agrees data := by
  obtain ⟨hstage, hquiet⟩ := h.invariant hrejects.sent
    fun q a q' hq ha hstep => hq.step hrejects.rejects ha hstep
  cases hstage with
  | sent hsame hclosed hserver hoperation hopen hup hserverTasks hdown htasks =>
    have hclosed' := hquiet.up _ (hup ▸ List.mem_cons_self)
    exact absurd (hclosed ▸ hclosed') hopen
  | serving hsame hrefusing hup hserverTasks hdown htasks =>
    rw [hquiet.serverTasks] at hserverTasks
    cases hserverTasks
  | replied hsame hoperation hsocket hup hserverTasks hdown htasks =>
    refine iff_of_true hsame.tables ?_
    rintro client' ⟨socket, hget, hclient⟩
    rw [hsocket] at hget
    cases hget
    have hlost := hquiet.down _ (hdown ▸ List.mem_cons_self) client' _
      ((hsame.sockets client').trans hclient) rfl
    cases hlost
  | handling hsame hreceives hlast hup hserverTasks hdown htasks =>
    rw [hquiet.clientTasks] at htasks
    cases htasks
  | @done receiver hreceives htables hup hserverTasks hdown htasks =>
    constructor
    · rintro hkept client' ⟨socket, hget, hclient⟩
      obtain ⟨socket', hget', hreceiver⟩ := hreceives
      rw [hget] at hget'
      cases hget'
      have he : client' = receiver := (NetworkRun.sockets hrun).unique hclient hreceiver rfl
      subst he
      rw [← SignalingClient.handleAlias_eq_iff, ← hkept, htables, if_pos rfl]
    · intro hagrees client'
      rw [htables]
      split_ifs with hc
      · rw [hc]
        exact (SignalingClient.handleAlias_eq_iff _ _).mpr (hagrees receiver hreceives)
      · rfl
  | dropped hsame hgone hup hserverTasks hdown htasks =>
    refine iff_of_true hsame.tables ?_
    rintro client' ⟨socket, hget, -⟩
    rw [hgone] at hget
    cases hget

/-- One client binds an alias, and both have it in their tables. -/
def tableEvents : List Network.Event :=
  NetworkRun.join 0 0 ++ NetworkRun.join 1 1 ++
  [.request 0 (.bind "127.0.0.0:80")] ++ NetworkRun.serve 0 3 ++
  NetworkRun.notify 0 0 ++ NetworkRun.notify 0 3 ++ NetworkRun.notify 1 3

/-- A request of the other client that is rejected, and the rejection. -/
def rejectionEvents (n : Nat) : List Network.Event :=
  NetworkRun.serve 1 n ++ NetworkRun.notify 1 3

/-- What is found by running the events of the request after those of the
table. -/
theorem exists_rejected {n : Nat} {r : Request} {P : Network → Network → Prop}
    [∀ p p', Decidable (P p p')]
    (h : ((Run.along (Network.next .subscribed) tableEvents (.init "127.0.0") []).any fun x =>
      decide (((Run.along (Network.next .subscribed) (rejectionEvents n) (x.2.alone.request 1 r)
        []).any fun y => decide (P x.2 y.2 ∧ y.2.clientTasks = [] ∧ y.2.serverTasks = [] ∧
          y.2.up = [] ∧ y.2.down = [])) = true)) = true) :
    ∃ steps p p', NetworkRun .subscribed steps p ∧
      Network.Settles .subscribed (p.alone.request 1 r) p' ∧ P p p' := by
  obtain ⟨steps, p, hrun, halong⟩ := NetworkRun.exists_along (E := .subscribed)
    (P := fun _ p => ((Run.along (Network.next .subscribed) (rejectionEvents n)
      (p.alone.request 1 r) []).any fun y => decide (P p y.2 ∧ y.2.clientTasks = [] ∧
        y.2.serverTasks = [] ∧ y.2.up = [] ∧ y.2.down = [])) = true)
    "127.0.0" tableEvents h
  cases hy : Run.along (Network.next .subscribed) (rejectionEvents n) (p.alone.request 1 r) [] with
  | none =>
    rw [hy] at halong
    cases halong
  | some y =>
    rw [hy] at halong
    obtain ⟨hP, hclientTasks, hserverTasks, hup, hdown⟩ := of_decide_eq_true halong
    have hhandles : ∀ e ∈ rejectionEvents n, e.handles = true := by
      intro e he
      simp only [rejectionEvents, NetworkRun.serve, NetworkRun.notify, List.mem_append,
        List.mem_cons, List.mem_replicate] at he
      rcases he with (rfl | ⟨-, rfl⟩) | rfl | ⟨-, rfl⟩ <;> rfl
    exact ⟨steps, p, y.2, hrun, Network.settles_along hhandles hy
      (.of_nil hclientTasks hserverTasks hup hdown), hP⟩

/-- A Connect to an alias that does not accept. -/
theorem rejected_tables_run : ∃ steps p p', NetworkRun .subscribed steps p ∧
    Network.Settles .subscribed (p.alone.request 1 (.connect "u" "127.0.0.0:80")) p' ∧
    (p.clients 1).aliasesHolder.keys = ["127.0.0.0:80"] ∧
    ∀ client, (p'.clients client).aliasesHolder = (p.clients client).aliasesHolder := by
  obtain ⟨steps, p, p', hrun, hsettles, hkeys, houtgoing, hopen, hmember, hremote, hget, hclient,
      hagrees⟩ :=
    exists_rejected (n := 6) (r := .connect "u" "127.0.0.0:80")
      (P := fun p _ => (p.clients 1).aliasesHolder.keys = ["127.0.0.0:80"] ∧
        (p.clients 1).outgoing = some 1 ∧ 1 ∉ p.closed ∧
        (p.server.subnets.member (parseIPAddress (p.clients 1).id)).isSome = true ∧
        (p.server.aliases.get "127.0.0.0:80").any MAlias.accepting = false ∧
        p.server.clients.get (p.clients 1).id = some 1 ∧
        (p.clients 1).client = some ⟨1, .OPEN⟩ ∧
        (p.clients 1).aliasesHolder.has (p.server.newAlias (p.clients 1).id) = false)
      (by decide +kernel)
  refine ⟨steps, p, p', hrun, hsettles, hkeys, ?_⟩
  refine (rejected_tables hrun ⟨⟨1, houtgoing, hopen⟩, .connect hmember hremote⟩ hsettles).mpr ?_
  rintro client ⟨socket, hget', hclient'⟩
  rw [hget] at hget'
  cases hget'
  rw [(NetworkRun.sockets hrun).unique hclient' hclient rfl]
  exact hagrees

/-! ## The defect -/

/-- A rejected Bind of an alias that another client owns removes the alias from
the table of the client that asked for it. -/
theorem rejected_bind_removes : ∃ steps p p', NetworkRun .subscribed steps p ∧
    Network.Settles .subscribed (p.alone.request 1 (.bind "127.0.0.0:80")) p' ∧
    p.Rejects 1 (.bind "127.0.0.0:80")
      { id := "127.0.0.1", «alias» := "127.0.0.0:80", set := false } ∧
    (p.clients 1).aliasesHolder.get "127.0.0.0:80" = some "127.0.0.0" ∧
    (p'.clients 1).aliasesHolder.get "127.0.0.0:80" = none := by
  obtain ⟨steps, p, p', hrun, hsettles, hid, houtgoing, hopen, htaken, hbefore, hafter⟩ :=
    exists_rejected (n := 1) (r := .bind "127.0.0.0:80")
      (P := fun p p' => (p.clients 1).id = "127.0.0.1" ∧ (p.clients 1).outgoing = some 1 ∧
        1 ∉ p.closed ∧ p.server.aliases.has "127.0.0.0:80" = true ∧
        (p.clients 1).aliasesHolder.get "127.0.0.0:80" = some "127.0.0.0" ∧
        (p'.clients 1).aliasesHolder.get "127.0.0.0:80" = none)
      (by decide +kernel)
  refine ⟨steps, p, p', hrun, hsettles, ⟨⟨1, houtgoing, hopen⟩, ?_⟩, hbefore, hafter⟩
  rw [hid]
  exact .bind htaken

end Unisockets.Signaling
