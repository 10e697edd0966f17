import Unisockets.Guest.ThreadTables

/-!
# The descriptors of the sockets

`socket` asks the main thread for a descriptor.  The main thread counts the
descriptors of all threads and hands out the next number.

`ThreadsStep.descriptor` is what a step does about a request: it is asked, a
descriptor is issued for it, or the thread takes the descriptor.
`Threads.Step.moves` says what each step does to the requests that are on their
way, to the descriptors that are on their way back, and to the descriptors that
are known anywhere.
-/

namespace Unisockets.Guest

open JsStd Transition Transport

/-- What happens to a request for a descriptor. -/
inductive DescriptorStep where
  | asked (thread requestId : Nat)
  | issued (thread requestId fd : Nat)
  | taken (thread requestId fd : Nat)
  deriving DecidableEq, Repr

/-- What a step does about a request for a descriptor. -/
def ThreadsStep.descriptor (p : Threads) : ThreadsStep → Option DescriptorStep
  | .socket thread => some (.asked thread p.nextCall)
  | .handle thread =>
    match (p.workers thread).outgoing.head? with
    | some (.socketDescriptor requestId) =>
      some (.issued thread requestId (p.socketDescriptors + 1))
    | _ => none
  | .onmessage thread =>
    match (p.workers thread).incoming.head? with
    | some (.onSocketDescriptor fd requestId) => some (.taken thread requestId fd)
    | _ => none
  | _ => none

/-! ## What is on its way -/

/-- The request for a descriptor that a message is. -/
def WorkerMessage.request : WorkerMessage → Option Nat
  | .socketDescriptor requestId => some requestId
  | _ => none

/-- The descriptor that a message brings, with the request it is for. -/
def MainMessage.handed : MainMessage → Option (Nat × Nat)
  | .onSocketDescriptor fd requestId => some (requestId, fd)
  | _ => none

def Update.Mentions (fd : Nat) : Update → Prop
  | .bind fd' _ => fd' = fd
  | .alias .. => False

def WorkerMessage.Mentions (fd : Nat) : WorkerMessage → Prop
  | .update u => u.Mentions fd
  | _ => False

def MainMessage.Mentions (fd : Nat) : MainMessage → Prop
  | .notify u => u.Mentions fd
  | .onFetchBinds _ info => info.binds.has fd = true
  | _ => False

namespace Worker

/-- The requests of a thread that are on their way to the main thread. -/
def asks (w : Worker) : List Nat := w.outgoing.filterMap WorkerMessage.request

/-- The descriptors that are on their way to a thread. -/
def due (w : Worker) : List (Nat × Nat) := w.incoming.filterMap MainMessage.handed

/-- A thread has no bind of a descriptor, and none is on its way from it or to it. -/
structure Unknown (w : Worker) (fd : Nat) : Prop where
  tables : w.tables.binds.has fd = false
  outgoing : ∀ message ∈ w.outgoing, ¬message.Mentions fd
  incoming : ∀ message ∈ w.incoming, ¬message.Mentions fd

variable {w : Worker} {fd : Nat}

theorem asks_post (message : WorkerMessage) :
    (w.post message).asks = w.asks ++ message.request.toList := by
  rw [asks, post, List.filterMap_append]
  cases h : message.request <;> simp [h, asks]

theorem due_receive (message : MainMessage) :
    (w.receive message).due = w.due ++ message.handed.toList := by
  rw [due, receive, List.filterMap_append]
  cases h : message.handed <;> simp [h, due]

theorem Unknown.post (h : w.Unknown fd) {message : WorkerMessage} (hm : ¬message.Mentions fd) :
    (w.post message).Unknown fd where
  tables := h.tables
  outgoing message' hmem := by
    rcases List.mem_append.mp hmem with hmem | hmem
    · exact h.outgoing message' hmem
    · rwa [List.mem_singleton.mp hmem]
  incoming := h.incoming

theorem Unknown.receive (h : w.Unknown fd) {message : MainMessage} (hm : ¬message.Mentions fd) :
    (w.receive message).Unknown fd where
  tables := h.tables
  outgoing := h.outgoing
  incoming message' hmem := by
    rcases List.mem_append.mp hmem with hmem | hmem
    · exact h.incoming message' hmem
    · rwa [List.mem_singleton.mp hmem]

end Worker

namespace Tables

variable {t info : Tables} {fd : Nat}

theorem has_update_eq_false (h : t.binds.has fd = false) {u : Update} (hu : ¬u.Mentions fd) :
    (t.update u).binds.has fd = false := by
  cases u with
  | bind fd' bind =>
    show (t.binds.set fd' bind).has fd = false
    have hne : ¬fd = fd' := fun he => hu he.symm
    rw [Map.has_set, h, Bool.or_false]
    simpa using hne
  | «alias» tcpAddress id isDelete => exact h

theorem has_onNotify_eq_false (h : t.binds.has fd = false) {u : Update} (hu : ¬u.Mentions fd) :
    (t.onNotify u).binds.has fd = false := by
  cases u with
  | bind fd' bind =>
    simp only [onNotify, onNotifyBindAdd]
    split_ifs
    · exact h
    · exact has_update_eq_false (u := .bind fd' bind) h hu
  | «alias» tcpAddress id isDelete =>
    simp only [onNotify, onNotifyAliasAdd]
    split_ifs <;> exact h

end Tables

namespace Threads

def asks (p : Threads) (k : Nat) : List Nat := (p.workers k).asks

def due (p : Threads) (k : Nat) : List (Nat × Nat) := (p.workers k).due

/-- No thread has a bind of a descriptor, and none is on its way. -/
structure Unknown (p : Threads) (fd : Nat) : Prop where
  main : p.main.binds.has fd = false
  workers : ∀ k, (p.workers k).Unknown fd

/-- What a step does to the requests and to the descriptors. -/
inductive Moves (p p' : Threads) : Option DescriptorStep → Prop where
  | idle (hasks : ∀ k, p'.asks k = p.asks k) (hdue : ∀ k, p'.due k = p.due k)
      (hissued : p'.socketDescriptors = p.socketDescriptors)
      (hunknown : ∀ fd, p.Unknown fd → p'.Unknown fd) : Moves p p' none
  | asked (thread requestId : Nat)
      (hasks : ∀ k, p'.asks k = p.asks k ++ if k = thread then [requestId] else [])
      (hdue : ∀ k, p'.due k = p.due k)
      (hissued : p'.socketDescriptors = p.socketDescriptors)
      (hunknown : ∀ fd, p.Unknown fd → p'.Unknown fd) :
    Moves p p' (some (.asked thread requestId))
  | issued (thread requestId : Nat)
      (hasks : ∀ k, p.asks k = (if k = thread then [requestId] else []) ++ p'.asks k)
      (hdue : ∀ k, p'.due k
        = p.due k ++ if k = thread then [(requestId, p.socketDescriptors + 1)] else [])
      (hissued : p'.socketDescriptors = p.socketDescriptors + 1)
      (hunknown : ∀ fd, p.Unknown fd → p'.Unknown fd) :
    Moves p p' (some (.issued thread requestId (p.socketDescriptors + 1)))
  | taken (thread requestId fd : Nat) (hasks : ∀ k, p'.asks k = p.asks k)
      (hdue : ∀ k, p.due k = (if k = thread then [(requestId, fd)] else []) ++ p'.due k)
      (hissued : p'.socketDescriptors = p.socketDescriptors)
      (hunknown : ∀ fd', fd' ≠ fd → p.Unknown fd' → p'.Unknown fd') :
    Moves p p' (some (.taken thread requestId fd))

variable {p p' : Threads} {holder : Map Nat Unit}

/-- One worker changes, and neither asks for a descriptor nor gets one. -/
theorem Moves.of_update {k : Nat} {w : Worker}
    (hworkers : p'.workers = Function.update p.workers k w) (hmain : p'.main = p.main)
    (hissued : p'.socketDescriptors = p.socketDescriptors)
    (hasks : w.asks = p.asks k) (hdue : w.due = p.due k)
    (hunknown : ∀ fd, p.Unknown fd → w.Unknown fd) : Moves p p' none := by
  have hupdate : ∀ k', p'.workers k' = if k' = k then w else p.workers k' := by
    intro k'
    rw [hworkers, Function.update_apply]
  refine .idle (fun k' => ?_) (fun k' => ?_) hissued fun fd h => ⟨?_, fun k' => ?_⟩
  · rw [asks, hupdate]
    split_ifs with hk
    · rw [hasks, hk]
    · rfl
  · rw [due, hupdate]
    split_ifs with hk
    · rw [hdue, hk]
    · rfl
  · rw [hmain]
    exact h.main
  · rw [hupdate]
    split_ifs with hk
    · exact hunknown fd h
    · exact h.workers k'

theorem Moves.of_eq (hworkers : p'.workers = p.workers) (hmain : p'.main = p.main)
    (hissued : p'.socketDescriptors = p.socketDescriptors) : Moves p p' none := by
  refine .of_update (k := 0) (w := p.workers 0) ?_ hmain hissued rfl rfl fun fd h => h.workers 0
  rw [hworkers, Function.update_eq_self]

/-! ## What each step does -/

/-- A worker posts a message that is no request and names no descriptor that is unknown. -/
theorem Moves.of_post {k : Nat} {message : WorkerMessage}
    (hworkers : p'.workers = Function.update p.workers k ((p.workers k).post message))
    (hmain : p'.main = p.main) (hissued : p'.socketDescriptors = p.socketDescriptors)
    (hrequest : message.request = none) (hmentions : ∀ fd, p.Unknown fd → ¬message.Mentions fd) :
    Moves p p' none := by
  refine .of_update hworkers hmain hissued ?_ rfl fun fd h => ?_
  · rw [Worker.asks_post, hrequest]
    exact List.append_nil _
  · exact (h.workers k).post (hmentions fd h)

private theorem moves_socket {thread : Nat} (h : Step holder p (.socket thread) p') :
    Moves p p' (some (.asked thread p.nextCall)) := by
  obtain rfl := h.socket
  have hupdate : ∀ k, (p.post thread (.socketDescriptor p.nextCall)).workers k
      = if k = thread then (p.workers thread).post (.socketDescriptor p.nextCall)
        else p.workers k := fun k => Function.update_apply ..
  refine .asked thread p.nextCall (fun k => ?_) (fun k => ?_) rfl fun fd hfd =>
    ⟨hfd.main, fun k => ?_⟩
  · show ((p.post thread (.socketDescriptor p.nextCall)).workers k).asks = _
    rw [hupdate]
    split_ifs with hk
    · rw [hk, Worker.asks_post]
      rfl
    · exact (List.append_nil _).symm
  · show ((p.post thread (.socketDescriptor p.nextCall)).workers k).due = _
    rw [hupdate]
    split_ifs with hk
    · rw [hk]
      rfl
    · rfl
  · show ((p.post thread (.socketDescriptor p.nextCall)).workers k).Unknown fd
    rw [hupdate]
    split_ifs with hk
    · exact (hfd.workers thread).post id
    · exact hfd.workers k

/-- A worker changes its tables and tells the main thread. -/
private theorem moves_announce {k : Nat} {u : Update}
    (hmentions : ∀ fd, p.Unknown fd → ¬u.Mentions fd) :
    Moves p (p.setWorker k ((p.workers k).announce u)) none := by
  refine .of_update (k := k) rfl rfl rfl ?_ rfl fun fd hfd => ?_
  · rw [Worker.announce, Worker.asks_post]
    exact List.append_nil _
  · have htables := Tables.has_update_eq_false (hfd.workers k).tables (hmentions fd hfd)
    have hw : ({ p.workers k with tables := (p.workers k).tables.update u } : Worker).Unknown fd :=
      ⟨htables, (hfd.workers k).outgoing, (hfd.workers k).incoming⟩
    exact hw.post (hmentions fd hfd)

private theorem moves_send {thread fd : Nat} {memory : Option Uint8Array} {buffer : Buffer}
    (h : Step holder p (.send thread fd memory buffer) p') : Moves p p' none := by
  simp only [Step, next] at h
  cases memory with
  | none =>
    simp only at h
    split_ifs at h
    obtain rfl := Option.some.inj h
    exact .of_eq rfl rfl rfl
  | some memory =>
    simp only at h
    split_ifs at h
    · obtain rfl := Option.some.inj h
      exact .of_eq rfl rfl rfl
    · obtain rfl := Option.some.inj h
      exact .of_post rfl rfl rfl rfl fun _ _ => id

private theorem moves_externalSend {n : Nat} (h : Step holder p (.externalSend n) p') :
    Moves p p' none := by
  obtain ⟨call, -, -, ⟨bind, -, rfl⟩ | ⟨-, rfl⟩⟩ := h.externalSend
  · unfold handleExternalSend
    cases (p.workers call.thread).tables.aliases.get bind.alias with
    | none => exact .of_eq rfl rfl rfl
    | some remoteId => exact .of_post rfl rfl rfl rfl fun _ _ => id
  · exact .of_eq rfl rfl rfl

/-- The worker gets a message that brings no descriptor. -/
private theorem moves_postMessage {k : Nat} {message : MainMessage}
    (hworkers : p'.workers = Function.update p.workers k ((p.workers k).receive message))
    (hmain : p'.main = p.main) (hissued : p'.socketDescriptors = p.socketDescriptors)
    (hhanded : message.handed = none) (hmentions : ∀ fd, p.Unknown fd → ¬message.Mentions fd) :
    Moves p p' none := by
  refine .of_update hworkers hmain hissued rfl ?_ fun fd h => ?_
  · rw [Worker.due_receive, hhanded]
    exact List.append_nil _
  · exact (h.workers k).receive (hmentions fd h)

private theorem moves_transmit {sending : Sending} (h : Step holder p (.transmit sending) p') :
    Moves p p' none := by
  obtain ⟨-, rfl | rfl⟩ := h.transmit
  · exact moves_postMessage rfl rfl rfl rfl fun _ _ => id
  · exact .of_eq rfl rfl rfl

section

variable {k : Nat} {message : WorkerMessage} {outgoing : List WorkerMessage}

/-- The worker without the message that the main thread handles. -/
private theorem unknown_taken (h : (p.workers k).outgoing = message :: outgoing) {fd : Nat}
    (hfd : p.Unknown fd) : ({ p.workers k with outgoing := outgoing } : Worker).Unknown fd where
  tables := (hfd.workers k).tables
  outgoing message' hmem := by
    apply (hfd.workers k).outgoing
    rw [h]
    exact List.mem_cons_of_mem _ hmem
  incoming := (hfd.workers k).incoming

private theorem asks_taken (h : (p.workers k).outgoing = message :: outgoing) :
    p.asks k = message.request.toList ++ outgoing.filterMap WorkerMessage.request := by
  rw [asks, Worker.asks, h, List.filterMap_cons]
  cases message.request <;> rfl

/-- The main thread answers at once, with something else than a descriptor. -/
private theorem moves_reply (h : (p.workers k).outgoing = message :: outgoing)
    (hrequest : message.request = none) {reply : MainMessage} (hhanded : reply.handed = none)
    (hmentions : ∀ fd, p.Unknown fd → ¬reply.Mentions fd) :
    Moves p ((p.setWorker k { p.workers k with outgoing := outgoing }).postMessage k reply)
      none := by
  refine .of_update (k := k)
    (w := ({ p.workers k with outgoing := outgoing } : Worker).receive reply) ?_ rfl rfl ?_ ?_
    fun fd hfd => ?_
  · simp [setWorker, postMessage]
  · rw [asks_taken h, hrequest]
    rfl
  · rw [Worker.due_receive, hhanded]
    exact List.append_nil _
  · exact (unknown_taken h hfd).receive (hmentions fd hfd)

/-- The main thread changes its tables and notifies other threads. -/
private theorem moves_update {u : Update} (h : (p.workers k).outgoing = .update u :: outgoing) :
    Moves p ((p.setWorker k { p.workers k with outgoing := outgoing }).handleMessage holder k
      (.update u)) none := by
  simp only [handleMessage]
  rw [notifyAllThreads_eq k (.notify u) holder.nodup_keys]
  have hnames : ∀ fd, p.Unknown fd → ¬u.Mentions fd := by
    intro fd hfd
    have hmem : WorkerMessage.update u ∈ (p.workers k).outgoing := by
      rw [h]
      exact List.mem_cons_self
    exact (hfd.workers k).outgoing _ hmem
  have htaken : ∀ k', ((p.setWorker k { p.workers k with outgoing := outgoing }).workers k').asks
        = p.asks k' ∧
      ((p.setWorker k { p.workers k with outgoing := outgoing }).workers k').due = p.due k' ∧
      ∀ fd, p.Unknown fd →
        ((p.setWorker k { p.workers k with outgoing := outgoing }).workers k').Unknown fd := by
    intro k'
    rw [workers_setWorker]
    split_ifs with hk
    · subst hk
      exact ⟨(asks_taken h).symm, rfl, fun fd hfd => unknown_taken h hfd⟩
    · exact ⟨rfl, rfl, fun fd hfd => hfd.workers k'⟩
  refine .idle (fun k' => ?_) (fun k' => ?_) rfl fun fd hfd => ⟨?_, fun k' => ?_⟩
  · simp only [asks]
    split_ifs
    · exact (htaken k').1
    · exact (htaken k').1
  · simp only [due]
    split_ifs
    · rw [Worker.due_receive]
      exact (List.append_nil _).trans (htaken k').2.1
    · exact (htaken k').2.1
  · exact Tables.has_update_eq_false hfd.main (hnames fd hfd)
  · simp only
    split_ifs
    · exact ((htaken k').2.2 fd hfd).receive (hnames fd hfd)
    · exact (htaken k').2.2 fd hfd

/-- The main thread issues a descriptor. -/
private theorem moves_issue {requestId : Nat}
    (h : (p.workers k).outgoing = .socketDescriptor requestId :: outgoing) :
    Moves p ((p.setWorker k { p.workers k with outgoing := outgoing }).handleMessage holder k
      (.socketDescriptor requestId))
      (some (.issued k requestId (p.socketDescriptors + 1))) := by
  have hworkers : ∀ k', ((p.setWorker k { p.workers k with outgoing := outgoing }).handleMessage
      holder k (.socketDescriptor requestId)).workers k'
        = if k' = k then ({ p.workers k with outgoing := outgoing } : Worker).receive
            (.onSocketDescriptor (p.socketDescriptors + 1) requestId)
          else p.workers k' := by
    intro k'
    simp [handleMessage, postMessage, setWorker, Function.update_apply]
  refine .issued k requestId (fun k' => ?_) (fun k' => ?_) rfl fun fd hfd =>
    ⟨hfd.main, fun k' => ?_⟩
  · rw [asks, asks, hworkers]
    split_ifs with hk
    · rw [hk]
      exact asks_taken h
    · rfl
  · rw [due, due, hworkers]
    split_ifs with hk
    · rw [Worker.due_receive, hk]
      rfl
    · exact (List.append_nil _).symm
  · rw [hworkers]
    split_ifs
    · exact (unknown_taken h hfd).receive id
    · exact hfd.workers k'

private theorem moves_handle (h : Step holder p (.handle k) p') :
    Moves p p' ((ThreadsStep.handle k).descriptor p) := by
  obtain ⟨message, outgoing, houtgoing, rfl⟩ := h.handle
  simp only [ThreadsStep.descriptor, houtgoing, List.head?_cons]
  cases message with
  | update u => exact moves_update houtgoing
  | fetchBinds requestId =>
    refine moves_reply houtgoing rfl rfl fun fd hfd => ?_
    show ¬p.main.binds.has fd = true
    rw [hfd.main]
    exact Bool.false_ne_true
  | socketDescriptor requestId => exact moves_issue houtgoing
  | wrtcSend remoteId localId msg requestId =>
    simp only [handleMessage]
    cases hopen : (p.setWorker k { p.workers k with outgoing := outgoing }).transporter.openChannel
      remoteId localId with
    | some channel => exact moves_reply houtgoing rfl rfl fun _ _ => id
    | none =>
      refine .of_update (k := k) (w := { p.workers k with outgoing := outgoing }) rfl rfl rfl ?_ rfl
        fun fd hfd => unknown_taken houtgoing hfd
      rw [asks_taken houtgoing]
      rfl

end

section

variable {k : Nat} {message : MainMessage} {incoming : List MainMessage}

/-- The worker without the message that it handles. -/
private theorem unknown_received (h : (p.workers k).incoming = message :: incoming) {fd : Nat}
    (hfd : p.Unknown fd) : ({ p.workers k with incoming := incoming } : Worker).Unknown fd where
  tables := (hfd.workers k).tables
  outgoing := (hfd.workers k).outgoing
  incoming message' hmem := by
    apply (hfd.workers k).incoming
    rw [h]
    exact List.mem_cons_of_mem _ hmem

private theorem not_mentions_received (h : (p.workers k).incoming = message :: incoming)
    {fd : Nat} (hfd : p.Unknown fd) : ¬message.Mentions fd := by
  apply (hfd.workers k).incoming
  rw [h]
  exact List.mem_cons_self

private theorem due_received (h : (p.workers k).incoming = message :: incoming) :
    p.due k = message.handed.toList ++ incoming.filterMap MainMessage.handed := by
  rw [due, Worker.due, h, List.filterMap_cons]
  cases message.handed <;> rfl

/-- The worker handles a message that brings no descriptor. -/
private theorem moves_received (h : (p.workers k).incoming = message :: incoming)
    (hhanded : message.handed = none) {tables : Tables}
    (hworkers : p'.workers = Function.update p.workers k
      { p.workers k with tables := tables, incoming := incoming })
    (hmain : p'.main = p.main) (hissued : p'.socketDescriptors = p.socketDescriptors)
    (htables : ∀ fd, p.Unknown fd → tables.binds.has fd = false) : Moves p p' none := by
  refine .of_update hworkers hmain hissued rfl ?_ fun fd hfd => ?_
  · rw [due_received h, hhanded]
    rfl
  · have hrest := unknown_received h hfd
    exact ⟨htables fd hfd, hrest.outgoing, hrest.incoming⟩

private theorem workers_onmessage (message : MainMessage) (incoming : List MainMessage) :
    ((p.setWorker k { p.workers k with incoming := incoming }).onmessage k message).workers
        = Function.update p.workers k { p.workers k with
            tables := Worker.handle (p.workers k).tables message
            incoming := incoming } ∧
      ((p.setWorker k { p.workers k with incoming := incoming }).onmessage k message).main
        = p.main ∧
      ((p.setWorker k { p.workers k with incoming := incoming }).onmessage k
        message).socketDescriptors = p.socketDescriptors := by
  obtain ⟨hworkers, hmain, hissued⟩ := ThreadsRun.onmessage_workers
    (p := p.setWorker k { p.workers k with incoming := incoming }) k message
  refine ⟨?_, hmain, hissued⟩
  rw [hworkers]
  simp [setWorker]

/-- The worker takes the descriptor. -/
private theorem moves_take {requestId fd : Nat}
    (h : (p.workers k).incoming = .onSocketDescriptor fd requestId :: incoming) :
    Moves p ((p.setWorker k { p.workers k with incoming := incoming }).onmessage k
      (.onSocketDescriptor fd requestId)) (some (.taken k requestId fd)) := by
  obtain ⟨hupdate, hmain, hissued⟩ :=
    workers_onmessage (p := p) (k := k) (.onSocketDescriptor fd requestId) incoming
  refine .taken k requestId fd (fun k' => ?_) (fun k' => ?_) hissued fun fd' hne hfd =>
    ⟨hmain ▸ hfd.main, fun k' => ?_⟩
  · rw [asks, hupdate, Function.update_apply]
    split_ifs with hk
    · rw [hk]
      rfl
    · rfl
  · rw [due, due, hupdate, Function.update_apply]
    split_ifs with hk
    · rw [hk]
      exact due_received h
    · rfl
  · rw [hupdate, Function.update_apply]
    split_ifs
    · have hrest := unknown_received h hfd
      refine ⟨?_, hrest.outgoing, hrest.incoming⟩
      show ((p.workers k).tables.binds.set fd Sockets.STUB).has fd' = false
      rw [Map.has_set, (hfd.workers k).tables, Bool.or_false]
      simpa using hne
    · exact hfd.workers k'

private theorem moves_onmessage (h : Step holder p (.onmessage k) p') :
    Moves p p' ((ThreadsStep.onmessage k).descriptor p) := by
  obtain ⟨message, incoming, hincoming, rfl⟩ := h.onmessage
  obtain ⟨hupdate, hmain, hissued⟩ := workers_onmessage (p := p) (k := k) message incoming
  simp only [ThreadsStep.descriptor, hincoming, List.head?_cons]
  cases message with
  | notify u =>
    refine moves_received hincoming rfl hupdate hmain hissued fun fd hfd => ?_
    exact Tables.has_onNotify_eq_false (hfd.workers k).tables
      (not_mentions_received hincoming hfd)
  | onFetchBinds requestId info =>
    refine moves_received hincoming rfl hupdate hmain hissued fun fd hfd => ?_
    have hinfo : ¬info.binds.has fd = true := not_mentions_received hincoming hfd
    show ((p.workers k).tables.fetched info).binds.has fd = false
    rw [Tables.has_fetched, (hfd.workers k).tables, Bool.or_false]
    exact eq_false_of_ne_true hinfo
  | onSocketDescriptor fd requestId => exact moves_take hincoming
  | onWrtcSendCallback requestId =>
    exact moves_received hincoming rfl hupdate hmain hissued fun fd hfd => (hfd.workers k).tables

end

/-- What each step does to the requests and to the descriptors. -/
theorem Step.moves {a : ThreadsStep} (h : Step holder p a p') : Moves p p' (a.descriptor p) := by
  cases a with
  | socket thread => exact moves_socket h
  | setBind thread fd bind =>
    obtain ⟨-, hhas, rfl⟩ := h.setBind
    refine moves_announce fun fd' hfd hmentions => ?_
    obtain rfl : fd = fd' := hmentions
    rw [(hfd.workers thread).tables] at hhas
    cases hhas
  | handleAlias thread id tcpAddress set =>
    obtain ⟨-, rfl⟩ := h.handleAlias
    exact moves_announce fun _ _ h => h
  | ensureBound thread =>
    obtain rfl := h.ensureBound
    exact .of_post rfl rfl rfl rfl fun _ _ => id
  | send thread fd memory buffer => exact moves_send h
  | externalSend n => exact moves_externalSend h
  | handle thread => exact moves_handle h
  | onmessage thread => exact moves_onmessage h
  | transmit sending => exact moves_transmit h
  | page t =>
    obtain rfl := h.page
    exact .of_eq rfl rfl rfl

end Threads

/-! ## Requests and answers -/

namespace DescriptorStep

/-- The descriptor that is issued. -/
def fd : DescriptorStep → Option Nat
  | .issued _ _ fd => some fd
  | _ => none

/-- The request that a thread has asked. -/
def askedBy (thread : Nat) : DescriptorStep → Option Nat
  | .asked thread' requestId => if thread' = thread then some requestId else none
  | _ => none

/-- The request of a thread that is answered, with the descriptor. -/
def issuedTo (thread : Nat) : DescriptorStep → Option (Nat × Nat)
  | .issued thread' requestId fd => if thread' = thread then some (requestId, fd) else none
  | _ => none

/-- The request for which a thread takes a descriptor, with the descriptor. -/
def takenBy (thread : Nat) : DescriptorStep → Option (Nat × Nat)
  | .taken thread' requestId fd => if thread' = thread then some (requestId, fd) else none
  | _ => none

end DescriptorStep

/-- The descriptors are issued in order; the requests of each thread are answered in order,
and so are the descriptors that it takes. -/
structure DescriptorsServed (events : List DescriptorStep) (p : Threads) : Prop where
  numbered : events.filterMap DescriptorStep.fd = List.range' 1 p.socketDescriptors
  answered : ∀ thread, events.filterMap (DescriptorStep.askedBy thread)
    = (events.filterMap (DescriptorStep.issuedTo thread)).map Prod.fst ++ p.asks thread
  taken : ∀ thread, events.filterMap (DescriptorStep.issuedTo thread)
    = events.filterMap (DescriptorStep.takenBy thread) ++ p.due thread

private theorem filterMap_snoc {α β : Type*} (f : α → Option β) (l : List α) (x : α) :
    (l ++ [x]).filterMap f = l.filterMap f ++ (f x).toList := by
  rw [List.filterMap_append]
  cases hx : f x <;> simp [hx]

namespace DescriptorsServed

variable {events : List DescriptorStep} {p p' : Threads}

private theorem moves (h : DescriptorsServed events p) {event : Option DescriptorStep}
    (hmoves : p.Moves p' event) : DescriptorsServed (events ++ event.toList) p' := by
  cases hmoves with
  | idle hasks hdue hissued hunknown =>
    refine ⟨?_, fun k => ?_, fun k => ?_⟩
    · simpa [hissued] using h.numbered
    · simpa [hasks] using h.answered k
    · simpa [hdue] using h.taken k
  | asked thread requestId hasks hdue hissued hunknown =>
    simp only [Option.toList_some]
    refine ⟨?_, fun k => ?_, fun k => ?_⟩
    · rw [filterMap_snoc, h.numbered, hissued]
      exact List.append_nil _
    · rw [filterMap_snoc, filterMap_snoc, h.answered k, hasks]
      simp only [DescriptorStep.askedBy, DescriptorStep.issuedTo, @eq_comm _ k]
      split_ifs <;> simp
    · rw [filterMap_snoc, filterMap_snoc, h.taken k, hdue]
      simp [DescriptorStep.takenBy, DescriptorStep.issuedTo]
  | issued thread requestId hasks hdue hissued hunknown =>
    simp only [Option.toList_some]
    refine ⟨?_, fun k => ?_, fun k => ?_⟩
    · rw [filterMap_snoc, h.numbered, hissued, List.range'_concat, Nat.add_comm]
      simp [DescriptorStep.fd]
    · rw [filterMap_snoc, filterMap_snoc, h.answered k, hasks]
      simp only [DescriptorStep.askedBy, DescriptorStep.issuedTo, @eq_comm _ k]
      split_ifs <;> simp
    · rw [filterMap_snoc, filterMap_snoc, h.taken k, hdue]
      simp only [DescriptorStep.takenBy, DescriptorStep.issuedTo, @eq_comm _ k]
      split_ifs <;> simp
  | taken thread requestId fd hasks hdue hissued hunknown =>
    simp only [Option.toList_some]
    refine ⟨?_, fun k => ?_, fun k => ?_⟩
    · rw [filterMap_snoc, h.numbered, hissued]
      exact List.append_nil _
    · rw [filterMap_snoc, filterMap_snoc, h.answered k, hasks]
      simp [DescriptorStep.askedBy, DescriptorStep.issuedTo]
    · rw [filterMap_snoc, filterMap_snoc, h.taken k, hdue]
      simp only [DescriptorStep.takenBy, DescriptorStep.issuedTo, @eq_comm _ k]
      split_ifs <;> simp

end DescriptorsServed

section

variable {holder : Map Nat Unit} {steps : List (Threads × ThreadsStep)} {p : Threads}

/-- The requests for descriptors in a run. -/
def descriptorSteps (steps : List (Threads × ThreadsStep)) : List DescriptorStep :=
  steps.filterMap fun x => x.2.descriptor x.1

/-- In every run of any number of threads the descriptors `1`, `2`, `3`, … are issued, each
once.  Each request of a thread is answered once and in order, and the thread takes what was
issued for its requests once and in order, as far as it is not on its way. -/
theorem ThreadsRun.descriptors_served (hrun : ThreadsRun holder steps p) :
    DescriptorsServed (descriptorSteps steps) p := by
  induction hrun with
  | start h =>
    obtain ⟨t, rfl⟩ := h
    exact ⟨rfl, fun _ => rfl, fun _ => rfl⟩
  | @snoc steps p p' a _ hstep ih =>
    have hsnoc : descriptorSteps (steps ++ [(p, a)])
        = descriptorSteps steps ++ (a.descriptor p).toList := filterMap_snoc _ steps (p, a)
    rw [hsnoc]
    exact ih.moves hstep.moves

/-- Two threads ask for a descriptor at a time. -/
def askingSteps : List ThreadsStep :=
  [.socket 1, .socket 2, .handle 2, .handle 1, .onmessage 1, .onmessage 2]

theorem ThreadsRun.descriptors_served_run : ∃ steps p, ThreadsRun twoWorkers steps p ∧
    descriptorSteps steps = [.asked 1 0, .asked 2 1, .issued 2 1 1, .issued 1 0 2, .taken 1 0 2,
      .taken 2 1 1] ∧ DescriptorsServed (descriptorSteps steps) p := by
  obtain ⟨steps, p, hrun, hsteps⟩ := exists_along twoWorkers {}
    (P := fun steps _ => descriptorSteps steps = [.asked 1 0, .asked 2 1, .issued 2 1 1,
      .issued 1 0 2, .taken 1 0 2, .taken 2 1 1]) askingSteps (by decide +kernel)
  exact ⟨steps, p, hrun, hsteps, descriptors_served hrun⟩

end

/-! ## New descriptors -/

namespace Threads

/-- The descriptors that are on their way are different, and nobody has a bind of one. -/
structure Fresh (p : Threads) : Prop where
  issued : ∀ fd, p.socketDescriptors < fd → p.Unknown fd
  due : ∀ k, ∀ x ∈ p.due k, x.2 ≤ p.socketDescriptors ∧ p.Unknown x.2
  distinct : ∀ k, ((p.due k).map Prod.snd).Nodup
  apart : ∀ k k', k ≠ k' → ∀ x ∈ p.due k, ∀ x' ∈ p.due k', x.2 ≠ x'.2

variable {p p' : Threads}

private theorem Fresh.of_due (h : p.Fresh) (hdue : ∀ k, p'.due k = p.due k)
    (hissued : p'.socketDescriptors = p.socketDescriptors)
    (hunknown : ∀ fd, p.Unknown fd → p'.Unknown fd) : p'.Fresh where
  issued fd hfd := hunknown fd (h.issued fd (hissued ▸ hfd))
  due k x hx := by
    rw [hdue] at hx
    obtain ⟨hle, hfd⟩ := h.due k x hx
    exact ⟨hissued ▸ hle, hunknown _ hfd⟩
  distinct k := hdue k ▸ h.distinct k
  apart k k' hne x hx x' hx' := by
    rw [hdue] at hx hx'
    exact h.apart k k' hne x hx x' hx'

private theorem Fresh.moves (h : p.Fresh) {event : Option DescriptorStep}
    (hmoves : p.Moves p' event) : p'.Fresh := by
  cases hmoves with
  | idle hasks hdue hissued hunknown => exact h.of_due hdue hissued hunknown
  | asked thread requestId hasks hdue hissued hunknown => exact h.of_due hdue hissued hunknown
  | issued thread requestId hasks hdue hissued hunknown =>
    have hcases : ∀ k, ∀ x ∈ p'.due k, x ∈ p.due k ∨
        k = thread ∧ x = (requestId, p.socketDescriptors + 1) := by
      intro k x hx
      rw [hdue] at hx
      rcases List.mem_append.mp hx with hx | hx
      · exact .inl hx
      · split_ifs at hx with hk
        · exact .inr ⟨hk, List.mem_singleton.mp hx⟩
        · exact absurd hx List.not_mem_nil
    refine ⟨fun fd hfd => ?_, fun k x hx => ?_, fun k => ?_, fun k k' hne x hx x' hx' => ?_⟩
    · exact hunknown fd (h.issued fd (by omega))
    · rcases hcases k x hx with hx | ⟨-, rfl⟩
      · obtain ⟨hle, hfd⟩ := h.due k x hx
        exact ⟨by omega, hunknown _ hfd⟩
      · exact ⟨Nat.le_of_eq hissued.symm, hunknown _ (h.issued _ (Nat.lt_succ_self _))⟩
    · rw [hdue, List.map_append]
      split_ifs
      · refine List.nodup_append.mpr ⟨h.distinct k, List.nodup_singleton _, ?_⟩
        intro fd hfd fd' hfd' he
        obtain ⟨x, hx, rfl⟩ := List.mem_map.mp hfd
        have hle := (h.due k x hx).1
        rw [List.map_singleton, List.mem_singleton] at hfd'
        omega
      · simpa using h.distinct k
    · rcases hcases k x hx with hx | ⟨rfl, rfl⟩
      · rcases hcases k' x' hx' with hx' | ⟨rfl, rfl⟩
        · exact h.apart k k' hne x hx x' hx'
        · have hle := (h.due k x hx).1
          show x.2 ≠ p.socketDescriptors + 1
          omega
      · rcases hcases k' x' hx' with hx' | ⟨hk', -⟩
        · have hle := (h.due k' x' hx').1
          show p.socketDescriptors + 1 ≠ x'.2
          omega
        · exact absurd hk'.symm hne
  | taken thread requestId fd hasks hdue hissued hunknown =>
    have hmem : ∀ k, ∀ x ∈ p'.due k, x ∈ p.due k := by
      intro k x hx
      rw [hdue]
      exact List.mem_append_right _ hx
    have hhead : (requestId, fd) ∈ p.due thread := by
      rw [hdue, if_pos rfl]
      exact List.mem_cons_self
    have hne : ∀ k, ∀ x ∈ p'.due k, x.2 ≠ fd := by
      intro k x hx he
      by_cases hk : k = thread
      · subst hk
        have hdistinct := h.distinct k
        rw [hdue, if_pos rfl, List.singleton_append, List.map_cons] at hdistinct
        exact (List.nodup_cons.mp hdistinct).1 (List.mem_map.mpr ⟨x, hx, he⟩)
      · exact h.apart k thread hk x (hmem k x hx) _ hhead he
    refine ⟨fun fd' hfd' => ?_, fun k x hx => ?_, fun k => ?_, fun k k' hk x hx x' hx' => ?_⟩
    · rw [hissued] at hfd'
      refine hunknown fd' ?_ (h.issued fd' hfd')
      rintro rfl
      have hle := (h.due thread _ hhead).1
      show False
      simp only at hle
      omega
    · obtain ⟨hle, hfd⟩ := h.due k x (hmem k x hx)
      exact ⟨hissued ▸ hle, hunknown _ (hne k x hx) hfd⟩
    · have hdistinct := h.distinct k
      rw [hdue, List.map_append] at hdistinct
      exact (List.nodup_append.mp hdistinct).2.1
    · exact h.apart k k' hk x (hmem k x hx) x' (hmem k' x' hx')

end Threads

section

variable {holder : Map Nat Unit} {steps : List (Threads × ThreadsStep)} {p : Threads}

private theorem ThreadsRun.fresh (hrun : ThreadsRun holder steps p) : p.Fresh := by
  refine hrun.invariant (fun _ _ => (trivial : True)) ?_ ?_
  · rintro q ⟨t, rfl⟩
    have hunknown : ∀ fd, Threads.Unknown { transporter := t } fd := by
      intro fd
      refine ⟨rfl, fun k => ⟨rfl, fun message hmem => ?_, fun message hmem => ?_⟩⟩
      · exact absurd hmem List.not_mem_nil
      · exact absurd hmem List.not_mem_nil
    refine ⟨fun fd _ => hunknown fd, fun k x hx => ?_, fun k => List.nodup_nil, ?_⟩
    · exact absurd hx List.not_mem_nil
    · exact fun k k' _ x hx => absurd hx List.not_mem_nil
  · exact fun q a q' h _ hstep => h.moves hstep.moves

/-- In every run of any number of threads, when a thread takes a descriptor for a call of
`socket` no thread has a bind of it, and no message tells of one. -/
theorem ThreadsRun.descriptors_unknown (hrun : ThreadsRun holder steps p)
    {x : Threads × ThreadsStep} (hx : x ∈ steps) {thread requestId fd : Nat}
    (htaken : x.2.descriptor x.1 = some (.taken thread requestId fd)) : x.1.Unknown fd := by
  obtain ⟨before, p', -, hbefore, hstep⟩ := hrun.of_mem hx
  have hfresh : x.1.Fresh := ThreadsRun.fresh hbefore
  have hmoves : x.1.Moves p' (x.2.descriptor x.1) := Threads.Step.moves hstep
  rw [htaken] at hmoves
  cases hmoves with
  | taken _ _ _ hasks hdue hissued hunknown =>
    refine (hfresh.due thread (requestId, fd) ?_).2
    rw [hdue, if_pos rfl]
    exact List.mem_cons_self

theorem ThreadsRun.descriptors_unknown_run : ∃ steps p, ThreadsRun twoWorkers steps p ∧
    ∃ x ∈ steps, x.2.descriptor x.1 = some (.taken 1 0 2) ∧ x.1.Unknown 2 := by
  obtain ⟨steps, p, hrun, x, hx, htaken⟩ := exists_along twoWorkers {}
    (P := fun steps _ => ∃ x ∈ steps, x.2.descriptor x.1 = some (.taken 1 0 2)) askingSteps
    (by decide +kernel)
  exact ⟨steps, p, hrun, x, hx, htaken, descriptors_unknown hrun hx htaken⟩

end

end Unisockets.Guest
