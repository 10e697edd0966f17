import Unisockets.Signaling.AcceptedConnects

/-!
# Answered requests

A promise of `bind`, `shutdown` or `connect` settles with an `Alias` from the
server.  The handler of a request may end without one: `claimTCPAddress` and
`createTCPAddress` throw, nobody catches what they throw, and the client that
asked may have lost its entry in `clients` when the reply is sent.

`ServerStep.KeepsRequests` says that a step does neither.  In every run whose
steps keep the requests, the handler of a request of a connected client has
answered it when it ends (`request_answered`).  In `request_unanswered` a client
binds an alias in a subnet that nobody has knocked at.
-/

namespace Unisockets.Signaling

open JsStd Transition

/-! ## Requests -/

/-- The requests that are answered with an `Alias`. -/
def Operation.asks : Operation → Bool
  | .bind _ | .shutdown _ | .connect _ => true
  | _ => false

/-- The request that a task has yet to answer. -/
def ServerTask.request : ServerTask → Option Operation
  | .bindClaiming data => some (.bind data)
  | .bindClaimed data => some (.bind data)
  | .shutdownPort data => some (.shutdown data)
  | .shutdownPortRemoved data => some (.shutdown data)
  | .shutdownAddress data => some (.shutdown data)
  | .shutdownAddressRemoved data => some (.shutdown data)
  | .connectCreating data => some (.connect data)
  | .connectSearching data _ => some (.connect data)
  | .connectCreated data _ => some (.connect data)
  | _ => none

/-- The client that a task has yet to answer. -/
def ServerTask.requester (t : ServerTask) : Option String := t.request.bind Operation.sender

/-- `claimTCPAddress` does not throw: somebody has knocked at the subnet of the
alias, and its port is not listed. -/
def Subnets.Claimable (s : Subnets) (tcpAddress : String) : Prop :=
  s.has (ipAddressOf tcpAddress).subnet = true ∧
    ((s.ports (ipAddressOf tcpAddress)).any fun p => p.strictEq (portOf tcpAddress)) = false

instance (s : Subnets) (tcpAddress : String) : Decidable (s.Claimable tcpAddress) :=
  inferInstanceAs (Decidable (_ ∧ _))

theorem Subnets.Claimable.claim {s : Subnets} {tcpAddress : String} (h : s.Claimable tcpAddress) :
    s.claim tcpAddress = .ok (s.pushPort (ipAddressOf tcpAddress) (portOf tcpAddress)) := by
  obtain ⟨hsubnet, hport⟩ := h
  unfold Subnets.claim
  rw [if_pos hsubnet, hport]
  rfl

/-- A step of a handler throws nothing at a connected client that waits for an
answer, and gives the id of none to another socket. -/
def ServerTask.KeepsRequests (s : Server) (l : List ServerTask) : ServerTask → Prop
  | .bindClaiming data => s.clients.has data.id = true → s.subnets.Claimable data.alias
  | .connectCreating data =>
    s.clients.has data.id = true → (s.subnets.member (parseIPAddress data.id)).isSome = true
  | .knockAcknowledged _ id => s.clients.has id = true → id ∉ l.filterMap requester
  | _ => True

instance (s : Server) (l : List ServerTask) : DecidablePred (ServerTask.KeepsRequests s l)
  | .bindClaiming _ => inferInstanceAs (Decidable (_ → _))
  | .connectCreating _ => inferInstanceAs (Decidable (_ → _))
  | .knockAcknowledged .. => inferInstanceAs (Decidable (_ → _ ∉ _))
  | .received .. | .knockCreating .. | .knockSearching .. | .knockCreated .. | .bindClaimed _
  | .shutdownPort _ | .shutdownPortRemoved _ | .shutdownAddress _ | .shutdownAddressRemoved _
  | .connectSearching .. | .connectCreated .. | .connectRejecting .. | .connectRejected ..
  | .connectClientNotified .. | .connectServerNotified .. | .connectServerAccepted ..
  | .goodbyeAddress _ | .goodbyeAddressRemoved _ | .releaseAddress .. | .releaseAddressRemoved ..
  | .releasePort .. | .releasePortRemoved .. => isTrue trivial

/-- A step throws nothing at a connected client that waits for an answer, and
leaves it connected. -/
def ServerStep.KeepsRequests (p : ServerPool) : ServerStep → Prop
  | .resume t => t.KeepsRequests p.state p.tasks
  | .close client =>
    ∀ id ∈ p.state.closing client, id ∉ p.tasks.filterMap ServerTask.requester
  | .message _ _ => True

instance (p : ServerPool) : DecidablePred (ServerStep.KeepsRequests p)
  | .resume t => inferInstanceAs (Decidable (t.KeepsRequests p.state p.tasks))
  | .close _ => inferInstanceAs (Decidable (∀ id ∈ _, _ ∉ _))
  | .message _ _ => isTrue trivial

/-- What the step does to the server keeps the requests. -/
def NetworkStep.KeepsRequests (p : Network) (a : NetworkStep) : Prop :=
  ∀ b ∈ a.server, b.KeepsRequests p.pool

instance (p : Network) (a : NetworkStep) : Decidable (a.KeepsRequests p) :=
  inferInstanceAs (Decidable (∀ b ∈ _, _))

/-! ## Answers -/

/-- The handler of a message has answered a request: with an `Alias` for the
alias in question, and for a Connect under its `clientConnectionId`. -/
def Answered (steps : List (Network × NetworkStep)) (n : Nat) (requester : Socket) :
    Operation → Prop
  | .bind data => ∃ set, Sent steps n requester (ServerTask.announce data.id data.alias set)
  | .shutdown data => ∃ set, Sent steps n requester (ServerTask.announce data.id data.alias set)
  | .connect data => ∃ reply : IAliasData, Sent steps n requester (.alias reply) ∧
      reply.clientConnectionId = some data.clientConnectionId
  | _ => False

/-- A request, at every point of its handler. -/
inductive Asking (steps : List (Network × NetworkStep)) (p : Network) (n : Nat)
    (requester : Socket) (request : Operation) : Prop where
  | pending {t : ServerTask} {id : String} (ht : (n, t) ∈ p.serverTasks)
      (hrequest : t.request = some request) (hid : request.sender = some id)
      (hclient : p.server.clients.get id = some requester)
  | rejecting {data : IConnectData} {clientAlias : String} (hrequest : request = .connect data)
      (ht : (n, .connectRejecting data clientAlias (some requester)) ∈ p.serverTasks)
  | rejected {data : IConnectData} {clientAlias : String} (hrequest : request = .connect data)
      (ht : (n, .connectRejected data clientAlias (some requester)) ∈ p.serverTasks)
  | answered (h : Answered steps n requester request)

section Steps

variable {E : Emittery (String × Nat)} {steps steps' : List (Network × NetworkStep)}
  {p p' : Network} {a : NetworkStep} {n : Nat} {requester : Socket} {request : Operation}

theorem Answered.mono (hsteps : steps ⊆ steps') (h : Answered steps n requester request) :
    Answered steps' n requester request := by
  cases request with
  | bind data =>
    obtain ⟨set, hsent⟩ := h
    exact ⟨set, hsent.mono hsteps⟩
  | shutdown data =>
    obtain ⟨set, hsent⟩ := h
    exact ⟨set, hsent.mono hsteps⟩
  | connect data =>
    obtain ⟨reply, hsent, hreply⟩ := h
    exact ⟨reply, hsent.mono hsteps, hreply⟩
  | _ => exact h

/-- A client that waits for an answer stays connected. -/
theorem clients_step (hkeeps : a.KeepsRequests p) (hstep : Network.Step E p a p') {id : String}
    (hid : id ∈ p.pool.tasks.filterMap ServerTask.requester)
    (hclient : p.server.clients.get id = some requester) :
    p'.server.clients.get id = some requester := by
  cases hstep with
  | @close socket hsocket hopen =>
    refine Map.get_filter_eq_some_iff.mpr ⟨hclient, decide_eq_true fun hclosing => ?_⟩
    exact hkeeps _ rfl id hclosing hid
  | @resume number task before after htasks hready =>
    show (task.resume p.server).1.clients.get id = some requester
    rcases (ServerTask.resumes task p.server).clients with
      hclients | ⟨client, id', rfl, hclients, -, -⟩
    · rw [hclients]
      exact hclient
    · rw [hclients, Map.get_set_of_ne]
      · exact hclient
      · rintro rfl
        exact hkeeps _ rfl (Map.has_iff.mpr ⟨_, hclient⟩) hid
  | _ => exact hclient

/-- What a handler does next is done. -/
theorem mem_serverTasks_resume {t t' : ServerTask} {serverTasks : List (Nat × ServerTask)}
    (h : t' ∈ (t.resume p.server).2) : (n, t') ∈ (p.resume n t serverTasks).serverTasks :=
  List.mem_append_right _ (List.mem_map.mpr ⟨t', h, rfl⟩)

theorem mem_toAll {s : Server} {id : String} {socket : Socket} {operation : Operation}
    (h : s.clients.get id = some socket) : (socket, operation) ∈ s.toAll operation :=
  List.mem_map_of_mem (Map.mem_values_iff.mpr ⟨id, h⟩)

theorem mem_toClient_self {s : Server} {id : String} {socket : Socket} {operation : Operation}
    (h : s.clients.get id = some socket) : (socket, operation) ∈ s.toClient id operation := by
  unfold Server.toClient
  rw [h]
  exact List.mem_cons_self

/-- A task that has yet to answer hands the request on, or answers it. -/
theorem Asking.resume {t : ServerTask} {serverTasks : List (Nat × ServerTask)} {id : String}
    (hrequest : t.request = some request) (hid : request.sender = some id)
    (hclient : p.server.clients.get id = some requester)
    (hclient' : (p.resume n t serverTasks).server.clients.get id = some requester)
    (hkeeps : t.KeepsRequests p.server p.pool.tasks) :
    Asking (steps ++ [(p, .resume n t)]) (p.resume n t serverTasks) n requester request := by
  have hhas : p.server.clients.has id = true := Map.has_iff.mpr ⟨_, hclient⟩
  cases t with
  | bindClaiming data =>
    cases hrequest
    cases hid
    refine .pending (t := .bindClaimed data) (mem_serverTasks_resume ?_) rfl rfl hclient'
    show _ ∈ (ServerTask.resume (.bindClaiming data) p.server).2
    simp only [ServerTask.resume, (hkeeps hhas).claim]
    exact List.mem_cons_self
  | bindClaimed data =>
    cases hrequest
    cases hid
    exact .answered ⟨true, Sent.last (mem_toAll hclient)⟩
  | shutdownPort data =>
    cases hrequest
    cases hid
    exact .pending (mem_serverTasks_resume List.mem_cons_self) rfl rfl hclient'
  | shutdownPortRemoved data =>
    cases hrequest
    cases hid
    exact .pending (mem_serverTasks_resume List.mem_cons_self) rfl rfl hclient'
  | shutdownAddress data =>
    cases hrequest
    cases hid
    exact .pending (mem_serverTasks_resume List.mem_cons_self) rfl rfl hclient'
  | shutdownAddressRemoved data =>
    cases hrequest
    cases hid
    exact .answered ⟨false, Sent.last (mem_toAll hclient)⟩
  | connectCreating data =>
    cases hrequest
    cases hid
    have hnext : .connectSearching data
        ((p.server.subnets.sortPorts (parseIPAddress data.id)).nextPort (parseIPAddress data.id))
        ∈ (ServerTask.resume (.connectCreating data) p.server).2 := by
      simp only [ServerTask.resume, hkeeps hhas, if_true]
      exact List.mem_cons_self
    exact .pending (mem_serverTasks_resume hnext) rfl rfl hclient'
  | connectSearching data newPort =>
    cases hrequest
    cases hid
    exact .pending (mem_serverTasks_resume List.mem_cons_self) rfl rfl hclient'
  | connectCreated data clientAlias =>
    cases hrequest
    have hclient : p.server.clients.get data.id = some requester := by
      cases hid
      exact hclient
    by_cases hremote : (p.server.aliases.get data.remoteAlias).any MAlias.accepting = true
    · refine .answered ⟨⟨data.id, clientAlias, true, some data.clientConnectionId, some true⟩,
        Sent.last ?_, rfl⟩
      simp only [ServerTask.posts, hremote, if_true]
      exact mem_toClient_self hclient
    · have hnext : .connectRejecting data clientAlias (some requester)
          ∈ (ServerTask.resume (.connectCreated data clientAlias) p.server).2 := by
        simp only [ServerTask.resume, ServerTask.handleConnect, hremote, hclient]
        exact List.mem_cons_self
      exact .rejecting rfl (mem_serverTasks_resume hnext)
  | _ => cases hrequest

/-- A step of the run. -/
theorem Asking.step (h : Asking steps p n requester request) (hkeeps : a.KeepsRequests p)
    (hstep : Network.Step E p a p') :
    Asking (steps ++ [(p, a)]) p' n requester request := by
  have hsteps : steps ⊆ steps ++ [(p, a)] := List.subset_append_left _ _
  cases h with
  | @pending t id ht hrequest hid hclient =>
    have hasks : id ∈ p.pool.tasks.filterMap ServerTask.requester := by
      refine List.mem_filterMap.mpr ⟨t, List.mem_map_of_mem ht, ?_⟩
      unfold ServerTask.requester
      rw [hrequest]
      exact hid
    have hclient' := clients_step hkeeps hstep hasks hclient
    rcases mem_serverTasks_step hstep ht with hkept | ⟨rfl, serverTasks, rfl⟩
    · exact .pending hkept hrequest hid hclient'
    · exact .resume hrequest hid hclient hclient' (hkeeps _ rfl)
  | rejecting hrequest ht =>
    rcases mem_serverTasks_step hstep ht with hkept | ⟨rfl, serverTasks, rfl⟩
    · exact .rejecting hrequest hkept
    · exact .rejected hrequest (mem_serverTasks_resume List.mem_cons_self)
  | @rejected data clientAlias hrequest ht =>
    rcases mem_serverTasks_step hstep ht with hkept | ⟨rfl, serverTasks, rfl⟩
    · exact .rejected hrequest hkept
    · subst hrequest
      exact .answered ⟨_, Sent.last List.mem_cons_self, rfl⟩
  | answered h => exact .answered (h.mono hsteps)

/-- The handler of a request begins. -/
theorem Asking.received {client : Socket} {serverTasks : List (Nat × ServerTask)} {id : String}
    (hasks : request.asks = true) (hid : request.sender = some id)
    (hclient : p.server.clients.get id = some requester) :
    Asking (steps ++ [(p, .resume n (.received request client))])
      (p.resume n (.received request client) serverTasks) n requester request := by
  have hclient' : (p.resume n (.received request client) serverTasks).server.clients.get id
      = some requester := by
    show (ServerTask.resume (.received request client) p.server).1.clients.get id = _
    rcases (ServerTask.resumes (.received request client) p.server).clients with
      hclients | ⟨client, id', ht, -⟩
    · rw [hclients]
      exact hclient
    · cases ht
  cases request with
  | bind data =>
    cases hid
    by_cases htaken : p.server.aliases.has data.alias = true
    · refine .answered ⟨false, Sent.last ?_⟩
      simp only [ServerTask.posts, ServerTask.answers, htaken, if_true]
      exact mem_toClient_self hclient
    · refine .pending (t := .bindClaiming data) (mem_serverTasks_resume ?_) rfl rfl hclient'
      simp only [ServerTask.resume, ServerTask.handle, htaken]
      exact List.mem_cons_self
  | shutdown data =>
    cases hid
    by_cases howner : ((p.server.aliases.get data.alias).any fun entry => entry.id = data.id)
      = true
    · refine .pending (t := .shutdownPort data) (mem_serverTasks_resume ?_) rfl rfl hclient'
      simp only [ServerTask.resume, ServerTask.handle, howner, if_true]
      exact List.mem_cons_self
    · refine .answered ⟨true, Sent.last ?_⟩
      simp only [ServerTask.posts, ServerTask.answers, howner]
      exact mem_toClient_self hclient
  | connect data =>
    cases hid
    exact .pending (mem_serverTasks_resume List.mem_cons_self) rfl rfl hclient'
  | _ => cases hasks

end Steps

/-! ## The runs that answer every request -/

/-- In every run whose steps keep the requests, the handler of a Bind, a Shutdown
or a Connect of a connected client has answered that client when it ends. -/
theorem request_answered {E : Emittery (String × Nat)} {steps : List (Network × NetworkStep)}
    {p : Network} (hrun : NetworkRun E steps p) (hkeeps : ∀ x ∈ steps, x.2.KeepsRequests x.1)
    {x : Network × NetworkStep} (hx : x ∈ steps) {n : Nat} {request : Operation}
    {client requester : Socket} {id : String} (hreceived : x.2 = .resume n (.received request client))
    (hasks : request.asks = true) (hid : request.sender = some id)
    (hclient : x.1.server.clients.get id = some requester) :
    (∃ t, (n, t) ∈ p.serverTasks) ∨ Answered steps n requester request := by
  have hasking : Asking steps p n requester request := by
    induction hrun with
    | start hinit => cases hx
    | @snoc steps p p' a hrun hstep ih =>
      rcases List.mem_append.mp hx with hx | hx
      · exact (ih (fun x hx => hkeeps x (List.mem_append_left _ hx)) hx).step
          (hkeeps _ (List.mem_append_right _ List.mem_cons_self)) hstep
      · rw [List.mem_singleton.mp hx] at hreceived hclient
        have hreceived : a = .resume n (.received request client) := hreceived
        subst hreceived
        cases hstep with
        | resume htasks hready => exact .received hasks hid hclient
  cases hasking with
  | pending ht _ _ _ => exact .inl ⟨_, ht⟩
  | rejecting _ ht => exact .inl ⟨_, ht⟩
  | rejected _ ht => exact .inl ⟨_, ht⟩
  | answered h => exact .inr h

theorem request_answered_run : ∃ steps p, NetworkRun .subscribed steps p ∧ p.serverTasks = [] ∧
    Answered steps 9 1 (.connect ⟨"127.0.0.1", "127.0.0.0:80", "u"⟩) := by
  obtain ⟨steps, p, hrun, hkeeps, hidle, x, hx, hreceived, hclient⟩ :=
    NetworkRun.exists_along (E := .subscribed)
      (P := fun steps p => (∀ x ∈ steps, x.2.KeepsRequests x.1) ∧ p.serverTasks = [] ∧
        ∃ x ∈ steps,
          x.2 = .resume 9 (.received (.connect ⟨"127.0.0.1", "127.0.0.0:80", "u"⟩) 1) ∧
          x.1.server.clients.get "127.0.0.1" = some 1)
      "127.0.0" (askingEvents ++ List.replicate 4 (.resume 0)) (by decide +kernel)
  have hdone := request_answered hrun hkeeps hx hreceived rfl rfl hclient
  refine ⟨steps, p, hrun, hidle, hdone.resolve_left ?_⟩
  rintro ⟨t, ht⟩
  rw [hidle] at ht
  cases ht

/-! ## The defect -/

/-- A client binds an alias in a subnet that does not exist. -/
theorem request_unanswered : ∃ steps p, NetworkRun .subscribed steps p ∧ p.serverTasks = [] ∧
    ∃ x ∈ steps, ∃ n request client requester id,
      x.2 = .resume n (.received request client) ∧ request.asks = true ∧
      request.sender = some id ∧ x.1.server.clients.get id = some requester ∧
      ¬Answered steps n requester request := by
  obtain ⟨steps, p, hrun, hidle, ⟨x, hx, hreceived, hclient⟩, hnone⟩ :=
    NetworkRun.exists_along (E := .subscribed)
      (P := fun steps p => p.serverTasks = [] ∧
        (∃ x ∈ steps, x.2 = .resume 2 (.received (.bind ⟨"127.0.0.0", "10.0.0.0:80"⟩) 0) ∧
          x.1.server.clients.get "127.0.0.0" = some 0) ∧
        ∀ x ∈ steps, ∀ post ∈ x.2.posts x.1,
          post.2 ≠ ServerTask.announce "127.0.0.0" "10.0.0.0:80" true ∧
          post.2 ≠ ServerTask.announce "127.0.0.0" "10.0.0.0:80" false)
      "127.0.0"
      (NetworkRun.join 0 0 ++ [.request 0 (.bind "10.0.0.0:80")] ++ NetworkRun.serve 0 2)
      (by decide +kernel)
  refine ⟨steps, p, hrun, hidle, x, hx, _, _, _, _, _, hreceived, rfl, rfl, hclient, ?_⟩
  rintro ⟨set, y, hy, -, hpost⟩
  cases set with
  | true => exact (hnone y hy _ hpost).1 rfl
  | false => exact (hnone y hy _ hpost).2 rfl

end Unisockets.Signaling
