import Unisockets.Transport.Stages

/-!
# The messages of two clients

A Greeting, an `Offer` and an `Answer`, and the tasks between them, are about two
clients.  While nobody leaves, the task of a stage is resumed with the task of the
next one, and a task that is about nobody, such as one with a candidate, neither
changes the wiring nor makes a task that is about somebody.
-/

namespace Unisockets.Transport

open JsStd Signaling Transition

/-! ## The clients of the server -/

/-- A thread is connected with an id through a socket. -/
structure Runner.Member (p : Runner) (thread : Nat) (id : String) (socket : Socket) : Prop where
  sockets : p.sockets thread = some socket
  ids : p.ids thread = id
  threads : p.threads socket = thread
  clients : p.server.clients.get id = some socket

theorem Runner.connected_iff {p : Runner} {thread : Nat} {id : String} :
    p.Connected thread id ↔ ∃ socket, p.Member thread id socket := by
  constructor
  · rintro ⟨socket, hsocket, hid, hthread, hclient⟩
    exact ⟨socket, hsocket, hid, hthread, hclient⟩
  · rintro ⟨socket, h⟩
    exact ⟨socket, h.sockets, h.ids, h.threads, h.clients⟩

/-- The threads with an open socket are the clients of the server. -/
structure Runner.Registry (p : Runner) : Prop where
  member (thread : Nat) (socket : Socket) (h : p.sockets thread = some socket) :
    p.Member thread (p.ids thread) socket
  client (id : String) (socket : Socket) (h : p.server.clients.get id = some socket) :
    p.Member (p.threads socket) id socket
  socket_lt (thread : Nat) (socket : Socket) (h : p.sockets thread = some socket) :
    socket < p.nextSocket

/-- The same threads are connected, with the same ids. -/
structure Runner.SameClients (p p' : Runner) : Prop where
  sockets : p'.sockets = p.sockets
  ids : p'.ids = p.ids
  threads : p'.threads = p.threads
  nextSocket : p'.nextSocket = p.nextSocket
  clients : p'.server.clients = p.server.clients

theorem Runner.SameClients.member {p p' : Runner} (h : p.SameClients p') {thread : Nat}
    {id : String} {socket : Socket} :
    p'.Member thread id socket ↔ p.Member thread id socket := by
  constructor
  · rintro ⟨hsocket, hid, hthread, hclient⟩
    rw [h.sockets] at hsocket
    rw [h.ids] at hid
    rw [h.threads] at hthread
    rw [h.clients] at hclient
    exact ⟨hsocket, hid, hthread, hclient⟩
  · rintro ⟨hsocket, hid, hthread, hclient⟩
    refine ⟨?_, ?_, ?_, ?_⟩
    · rwa [h.sockets]
    · rwa [h.ids]
    · rwa [h.threads]
    · rwa [h.clients]

theorem Runner.SameClients.registry {p p' : Runner} (h : p.SameClients p') (hp : p.Registry) :
    p'.Registry where
  member thread socket hsocket := by
    rw [h.sockets] at hsocket
    rw [h.member, h.ids]
    exact hp.member thread socket hsocket
  client id socket hclient := by
    rw [h.clients] at hclient
    rw [h.member, h.threads]
    exact hp.client id socket hclient
  socket_lt thread socket hsocket := by
    rw [h.sockets] at hsocket
    rw [h.nextSocket]
    exact hp.socket_lt thread socket hsocket

/-- No client registers or leaves with a message. -/
theorem RunnerTask.sameClients_resume (W : WebRtc) (page : Nat → Nat) (t : RunnerTask)
    (p : Runner) : p.SameClients (t.resume W page p).1 := by
  cases t with
  | received socket operation source =>
    refine ⟨rfl, rfl, rfl, rfl, ?_⟩
    rcases (ServerTask.resumes (.received operation socket) p.server).clients with
      hclients | ⟨client, id, heq, -⟩
    · exact hclients
    · cases heq
  | goodbye id =>
    refine ⟨rfl, rfl, rfl, rfl, ?_⟩
    rcases (ServerTask.resumes (.goodbyeAddressRemoved id) p.server).clients with
      hclients | ⟨client, id, heq, -⟩
    · exact hclients
    · cases heq
  | _ => exact ⟨rfl, rfl, rfl, rfl, rfl⟩

/-! ## A client that joins -/

section Join

variable {p : Runner} {thread : Nat} {id : String}

theorem Runner.clients_join : (p.join thread id).1.server.clients =
    p.server.clients.set id p.nextSocket := rfl

theorem Runner.member_join_self : (p.join thread id).1.Member thread id p.nextSocket := by
  refine ⟨?_, ?_, ?_, ?_⟩
  · exact Function.update_self thread _ p.sockets
  · exact Function.update_self thread _ p.ids
  · exact Function.update_self p.nextSocket _ p.threads
  · rw [Runner.clients_join, Map.get_set_self]

theorem Runner.CanJoin.ne (hjoin : p.CanJoin thread id) {thread' : Nat}
    {id' : String} {socket : Socket} (h : p.Member thread' id' socket) : id' ≠ id := by
  rintro rfl
  have hnone := hjoin.2
  rw [Map.has_of_get h.clients] at hnone
  cases hnone

theorem Runner.member_join (hp : p.Registry) (hjoin : p.CanJoin thread id) {thread' : Nat}
    {id' : String} {socket : Socket} (h : p.Member thread' id' socket) :
    (p.join thread id).1.Member thread' id' socket := by
  have hthread : thread' ≠ thread := by
    rintro rfl
    have hnone := hjoin.1
    rw [h.sockets] at hnone
    cases hnone
  have hid : id' ≠ id := hjoin.ne h
  have hsocket := hp.socket_lt thread' socket h.sockets
  refine ⟨?_, ?_, ?_, ?_⟩
  · exact (Function.update_of_ne hthread _ p.sockets).trans h.sockets
  · exact (Function.update_of_ne hthread _ p.ids).trans h.ids
  · exact (Function.update_of_ne (Nat.ne_of_lt hsocket) _ p.threads).trans h.threads
  · rw [Runner.clients_join, Map.get_set_of_ne _ _ hid]
    exact h.clients

theorem Runner.member_of_join (hp : p.Registry) {thread' : Nat} {id' : String} {socket : Socket}
    (h : (p.join thread id).1.Member thread' id' socket) :
    thread' = thread ∧ id' = id ∧ socket = p.nextSocket ∨ p.Member thread' id' socket := by
  have hclient := h.clients
  rw [Runner.clients_join, Map.get_set] at hclient
  split_ifs at hclient with hid
  · cases hclient
    have hthreads := h.threads
    rw [Runner.member_join_self.threads] at hthreads
    exact .inl ⟨hthreads.symm, hid, rfl⟩
  · right
    have hmember := hp.client id' socket hclient
    have hlt := hp.socket_lt _ _ hmember.sockets
    have hsame : (p.join thread id).1.threads socket = p.threads socket :=
      Function.update_of_ne (Nat.ne_of_lt hlt) _ p.threads
    rwa [← hsame, h.threads] at hmember

theorem Runner.registry_join (hp : p.Registry) (hjoin : p.CanJoin thread id) :
    (p.join thread id).1.Registry where
  member thread' socket h := by
    by_cases hthread : thread' = thread
    · subst hthread
      have hself := @Runner.member_join_self p thread' id
      obtain rfl := Option.some.inj (hself.sockets.symm.trans h)
      rw [hself.ids]
      exact hself
    · have hsockets : p.sockets thread' = some socket :=
        (Function.update_of_ne hthread _ p.sockets).symm.trans h
      have hmember := Runner.member_join hp hjoin (hp.member thread' socket hsockets)
      rw [hmember.ids]
      exact hmember
  client id' socket h := by
    rw [Runner.clients_join, Map.get_set] at h
    split_ifs at h with hid
    · cases h
      have hself := @Runner.member_join_self p thread id
      rw [hself.threads, hid]
      exact hself
    · have hmember := Runner.member_join hp hjoin (hp.client id' socket h)
      rw [hmember.threads]
      exact hmember
  socket_lt thread' socket h := by
    by_cases hthread : thread' = thread
    · subst hthread
      have hself := @Runner.member_join_self p thread' id
      obtain rfl := Option.some.inj (hself.sockets.symm.trans h)
      exact Nat.lt_succ_self _
    · have hsockets : p.sockets thread' = some socket :=
        (Function.update_of_ne hthread _ p.sockets).symm.trans h
      exact Nat.lt_succ_of_lt (hp.socket_lt thread' socket hsockets)

end Join

/-! ## What a task is about -/

/-- Both clients are connected. -/
structure Pair.Registered (k : Pair) (p : Runner) : Prop where
  offerer : p.Member k.tx k.x k.sx
  answerer : p.Member k.ty k.y k.sy
  distinct : k.x ≠ k.y

theorem Pair.Registered.swap {k : Pair} {p : Runner} (h : k.Registered p) :
    k.swap.Registered p := ⟨h.answerer, h.offerer, h.distinct.symm⟩

theorem Pair.Registered.threads_ne {k : Pair} {p : Runner} (h : k.Registered p) :
    k.tx ≠ k.ty := by
  intro he
  have hid := h.offerer.ids
  rw [he, h.answerer.ids] at hid
  exact h.distinct hid.symm

theorem Runner.Member.eq {p : Runner} {thread thread' : Nat} {id : String}
    {socket socket' : Socket} (h : p.Member thread id socket)
    (h' : p.Member thread' id socket') : thread = thread' ∧ socket = socket' := by
  have hsocket := Option.some.inj (h.clients.symm.trans h'.clients)
  refine ⟨?_, hsocket⟩
  rw [← h.threads, hsocket, h'.threads]

/-- Two clients are known by their ids. -/
theorem Pair.Registered.ext {k k' : Pair} {p : Runner} (h : k.Registered p)
    (h' : k'.Registered p) (hx : k.x = k'.x) (hy : k.y = k'.y) : k = k' := by
  have hoff := h.offerer
  have hans := h.answerer
  rw [hx] at hoff
  rw [hy] at hans
  obtain ⟨htx, hsx⟩ := hoff.eq h'.offerer
  obtain ⟨hty, hsy⟩ := hans.eq h'.answerer
  cases k
  cases k'
  simp_all

/-- Two other clients have other ids. -/
theorem Pair.Registered.other_ids {k k' : Pair} {p : Runner} (hk : k.Registered p)
    (hk' : k'.Registered p) (hne : k' ≠ k) (hswap : k' ≠ k.swap) :
    ¬(k.x = k'.x ∧ k.y = k'.y) ∧ ¬(k.x = k'.y ∧ k.y = k'.x) := by
  constructor
  · rintro ⟨hx, hy⟩
    exact hne (hk'.ext hk hx.symm hy.symm)
  · rintro ⟨hx, hy⟩
    exact hswap (hk'.ext hk.swap hy.symm hx.symm)

/-- The two clients that a Greeting, an `Offer` or an `Answer` names. -/
def clientsOf : Operation → Option (String × String)
  | .greeting data => some (data.offererId, data.answererId)
  | .offer data => some (data.offererId, data.answererId)
  | .answer data => some (data.offererId, data.answererId)
  | _ => none

namespace RunnerTask

/-- Whether a task is part of an exchange of an offer and an answer. -/
def signals : RunnerTask → Bool
  | .onmessage _ operation _ => (clientsOf operation).isSome
  | .sendWRTCconfig _ operation _ => (clientsOf operation).isSome
  | .received _ operation _ => (clientsOf operation).isSome
  | .handleCandidate .. | .goodbye .. => false
  | _ => true

/-- Whether it is part of the exchange of two clients. -/
def isAbout (k : Pair) : RunnerTask → Bool
  | .onmessage _ operation _ => clientsOf operation = some (k.x, k.y)
  | .sendWRTCconfig _ operation _ => clientsOf operation = some (k.x, k.y)
  | .received _ operation _ => clientsOf operation = some (k.x, k.y)
  | .handleOffer _ answererId offererId _ => offererId = k.x ∧ answererId = k.y
  | .getAnswer _ answererId offererId _ _ => offererId = k.x ∧ answererId = k.y
  | .offerDescribing _ answererId offererId _ _ _ => offererId = k.x ∧ answererId = k.y
  | .answerCreating _ answererId offererId _ _ => offererId = k.x ∧ answererId = k.y
  | .answerCreated _ answererId offererId _ _ => offererId = k.x ∧ answererId = k.y
  | .offerCreating thread answererId _ _ => thread = k.tx ∧ answererId = k.y
  | .handleAnswer thread answererId _ => thread = k.tx ∧ answererId = k.y
  | .answerDescribing thread answererId _ _ => thread = k.tx ∧ answererId = k.y
  | .handleCandidate .. | .goodbye .. => false

theorem signals_of_isAbout {k : Pair} {t : RunnerTask} (h : t.isAbout k = true) :
    t.signals = true := by
  cases t <;> simp_all [isAbout, signals]

end RunnerTask

theorem Stage.signals_task {W : WebRtc} {k : Pair} {s : Stage} {t : RunnerTask}
    (h : s.task W k = some t) : t.signals = true := by
  cases s <;> cases h <;> rfl

/-- The task of a stage is about its two clients only. -/
theorem Stage.isAbout_task {W : WebRtc} {k k' : Pair} {p : Runner} {s : Stage} {t : RunnerTask}
    (h : s.task W k = some t) (hk : k.Registered p) (hk' : k'.Registered p) :
    t.isAbout k' = true ↔ k' = k := by
  constructor
  · intro hab
    have hclients : k.x = k'.x ∧ k.y = k'.y ∨ k.tx = k'.tx ∧ k.y = k'.y := by
      cases s <;> cases h <;> simp_all [RunnerTask.isAbout, clientsOf]
    rcases hclients with ⟨hx, hy⟩ | ⟨htx, hy⟩
    · exact (hk.ext hk' hx hy).symm
    · have hx : k.x = k'.x := by rw [← hk.offerer.ids, htx, hk'.offerer.ids]
      exact (hk.ext hk' hx hy).symm
  · rintro rfl
    cases s <;> cases h <;> simp [RunnerTask.isAbout, clientsOf]

/-! ## Tasks that are about nobody -/

section Idle

variable {W : WebRtc} {page : Nat → Nat} {t : RunnerTask} {p : Runner}

/-- The wiring and the numbers are the same. -/
structure Runner.SameWiring (p p' : Runner) : Prop where
  wiring : p'.wiring = p.wiring
  ends : p'.ends = p.ends
  fresh : p'.fresh = p.fresh

theorem Runner.sameWiring_setPage {n : Nat} {t : Transporter}
    (h : t.wiring = p.wiring n) : p.SameWiring (p.setPage n t) := by
  refine ⟨?_, rfl, rfl⟩
  rw [Runner.wiring_setPage, h, Function.update_eq_self]

theorem RunnerTask.sameWiring_resume (h : t.signals = false) :
    p.SameWiring (t.resume W page p).1 := by
  cases t with
  | handleCandidate thread offererId candidate source =>
    apply Runner.sameWiring_setPage
    exact (Transporter.sameConnections_handleCandidate offererId candidate).wiring
  | onmessage | sendWRTCconfig | received | goodbye => exact ⟨rfl, rfl, rfl⟩
  | _ => cases h

theorem clientsOf_answers {s : Server} {operation : Operation}
    (h : clientsOf operation = none) {post : Socket × Operation}
    (hpost : post ∈ ServerTask.answers s operation) : clientsOf post.2 = none := by
  cases operation with
  | offer | answer | greeting => cases h
  | candidate =>
    obtain ⟨_, -, rfl⟩ := List.mem_map.mp hpost
    rfl
  | bind | shutdown =>
    simp only [ServerTask.answers] at hpost
    split_ifs at hpost
    all_goals first
      | cases hpost
      | (obtain ⟨_, -, rfl⟩ := List.mem_map.mp hpost; rfl)
  | _ => cases hpost

theorem RunnerTask.signals_resume (h : t.signals = false) {u : RunnerTask}
    (hu : u ∈ (t.resume W page p).2) : u.signals = false := by
  cases t with
  | onmessage socket operation source =>
    simp only [RunnerTask.resume] at hu
    split_ifs at hu
    · cases operation with
      | greeting | offer | answer => cases h
      | candidate =>
        rw [List.mem_singleton.mp hu]
        rfl
      | _ => cases hu
    · cases hu
  | sendWRTCconfig thread operation source =>
    simp only [RunnerTask.resume] at hu
    split at hu
    · rw [List.mem_singleton.mp hu]
      exact h
    · cases hu
  | received socket operation source =>
    obtain ⟨post, hpost, rfl⟩ := List.mem_map.mp hu
    have hnone : clientsOf operation = none := by simpa [signals] using h
    simp [signals, clientsOf_answers hnone hpost]
  | goodbye id =>
    obtain ⟨post, hpost, rfl⟩ := List.mem_map.mp hu
    obtain ⟨_, -, rfl⟩ := List.mem_map.mp hpost
    rfl
  | handleCandidate => cases hu
  | _ => cases h

end Idle

/-! ## From one task to the next -/

/-- The next stage, where the task of a stage changes nothing. -/
def Stage.forwarded : Stage → Option Stage
  | greeting => some greeted
  | offerCreating e => some (offerSent e)
  | offerSent e => some (offerReceived e)
  | offerReceived e => some (offerForwarded e)
  | offerForwarded e => some (offered e)
  | answerCreating e e' => some (answerCreated e e')
  | answerSent e e' => some (answerReceived e e')
  | answerReceived e e' => some (answerForwarded e e')
  | answerForwarded e e' => some (answered e e')
  | answered e e' => some (answerDescribing e e')
  | _ => none

section Forward

variable {W : WebRtc} {page : Nat → Nat} {t : RunnerTask} {p : Runner} {k : Pair} {s s' : Stage}

theorem Stage.Holds.forwarded {w : Nat → Wiring} {ends : List (Nat × Nat)}
    (h : Holds W page k s w ends) (hs : s.forwarded = some s') : Holds W page k s' w ends := by
  cases s with
  | greeting | offerCreating | offerSent | offerReceived | offerForwarded | answerCreating
  | answerSent | answerReceived | answerForwarded | answered =>
    cases hs
    exact h.forward rfl rfl rfl rfl rfl rfl rfl
  | _ => cases hs

theorem Stage.sameWiring_resume (hs : s.forwarded = some s') (ht : s.task W k = some t) :
    p.SameWiring (t.resume W page p).1 := by
  cases s with
  | answerCreating e e' =>
    cases ht
    apply Runner.sameWiring_setPage
    exact (Transporter.sameConnections_addQueuedCandidates k.x).wiring
  | greeting | offerCreating | offerSent | offerReceived | offerForwarded
  | answerSent | answerReceived | answerForwarded | answered =>
    cases ht
    exact ⟨rfl, rfl, rfl⟩
  | _ => cases hs

theorem Stage.resume_forwarded (hs : s.forwarded = some s') (ht : s.task W k = some t)
    (hk : k.Registered p) (hholds : s.Holds W page k p.wiring p.ends) :
    (t.resume W page p).2 = (s'.task W k).toList := by
  obtain ⟨hx, hy, -⟩ := hk
  cases s with
  | greeting =>
    cases hs
    cases ht
    simp [RunnerTask.resume, hx.sockets, hx.threads, hx.ids, RunnerTask.handleOperation, task]
  | offerCreating e =>
    cases hs
    cases ht
    rfl
  | offerSent e =>
    cases hs
    cases ht
    simp [RunnerTask.resume, hx.sockets, task]
  | offerReceived e =>
    cases hs
    cases ht
    simp [RunnerTask.resume, Runner.serve, Runner.deliver, ServerTask.posts, ServerTask.answers,
      Server.toClient, hy.clients, task]
  | offerForwarded e =>
    cases hs
    cases ht
    simp [RunnerTask.resume, hy.sockets, hy.threads, hy.ids, RunnerTask.handleOperation, task]
  | answerCreating e e' =>
    cases hs
    cases ht
    rfl
  | answerSent e e' =>
    cases hs
    cases ht
    simp [RunnerTask.resume, hy.sockets, task]
  | answerReceived e e' =>
    cases hs
    cases ht
    simp [RunnerTask.resume, Runner.serve, Runner.deliver, ServerTask.posts, ServerTask.answers,
      Server.toClient, hx.clients, task]
  | answerForwarded e e' =>
    cases hs
    cases ht
    simp [RunnerTask.resume, hx.sockets, hx.threads, RunnerTask.handleOperation, task]
  | answered e e' =>
    cases hs
    cases ht
    have hconnection : (p.pages (page k.tx)).connections.get k.y = some e :=
      (hholds.first e e rfl).2.1
    simp [RunnerTask.resume, Transporter.handleAnswer, hconnection, task]
  | _ => cases hs

end Forward

end Unisockets.Transport
