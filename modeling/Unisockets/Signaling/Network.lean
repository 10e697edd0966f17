import Mathlib.Logic.Function.Basic
import Unisockets.Signaling.Posts
import Unisockets.Signaling.ServerRun
import Unisockets.Signaling.SignalingClient

/-!
# The server and its clients

Any number of signaling clients, the server, and the messages between them.
Every WebSocket carries its messages in order in both directions; messages of
different sockets, the handlers of the server and the handlers of the clients
interleave in any way at their awaits.

A client opens a socket when it has none or the last one is closed, which is
what `handleDisconnect` does.  Either end of a socket notices its close on its
own.  Once the client has, nothing that is still on its way to it arrives, and
once the server has, it receives nothing more from that socket.

Every message has its own number.  `cause` is the number of the message whose
handling sent it, and the number of the message itself if a client sent it; a
handler of the server goes by the number of the message it handles.  The numbers
only tell messages apart: no step depends on them.

`NetworkRun.server` is the projection to the runs of the server alone.
-/

namespace Unisockets.Signaling

open JsStd Transition

/-- A message on its way. -/
structure Message where
  number : Nat
  cause : Nat
  socket : Socket
  operation : Operation
  deriving DecidableEq, Repr

/-- The messages of one step, numbered from `n`. -/
def Message.numbered (cause : Nat) : Nat → List (Socket × Operation) → List Message
  | _, [] => []
  | n, (socket, operation) :: posts =>
    ⟨n, cause, socket, operation⟩ :: numbered cause (n + 1) posts

/-- A message that a client is handling, and what is left to do for it. -/
structure ClientTask where
  client : Nat
  message : Message
  rest : List ClientAction
  deriving DecidableEq, Repr

/-- A task with something left to do. -/
def ClientTask.remaining (client : Nat) (message : Message) (rest : List ClientAction) :
    List ClientTask :=
  if rest = [] then [] else [⟨client, message, rest⟩]

structure Network where
  clients : Nat → SignalingClient
  clientTasks : List ClientTask := []
  server : Server := {}
  serverTasks : List (Nat × ServerTask) := []
  /-- The sockets whose close the server has noticed. -/
  closed : List Socket := []
  /-- From the clients to the server. -/
  up : List Message := []
  /-- From the server to the clients. -/
  down : List Message := []
  nextSocket : Socket := 0
  nextNumber : Nat := 0
  /-- The uuids that `v4` has returned. -/
  connectionIds : List String := []

/-- The steps of the network. -/
inductive NetworkStep where
  /-- `open` of a client. -/
  | connecting (client : Nat)
  /-- `onopen`. -/
  | onopen (client : Nat)
  /-- `onclose`. -/
  | onclose (client : Nat)
  | request (client : Nat) (request : Request)
  | handleSend (client : Nat) (operation : Operation)
  /-- `onmessage`. -/
  | onmessage (client : Nat) (message : Message)
  | handle (task : ClientTask)
  /-- A `message` event of the server. -/
  | receive (message : Message)
  /-- A `close` event of the server. -/
  | close (socket : Socket)
  | resume (number : Nat) (task : ServerTask)
  deriving DecidableEq, Repr

/-- A message that the main thread hands to `handleSend`. -/
def Operation.relayed : Operation → Bool
  | .offer _ | .answer _ | .candidate _ => true
  | _ => false

namespace Network

def setClient (p : Network) (client : Nat) (c : SignalingClient) : Network :=
  { p with clients := Function.update p.clients client c }

/-- `send` of a client. -/
def send (p : Network) (client : Nat) (operation : Operation) : Network :=
  { p with
    nextNumber := p.nextNumber + 1
    up := match (p.clients client).outgoing with
      | some socket => p.up ++ [⟨p.nextNumber, p.nextNumber, socket, operation⟩]
      | none => p.up }

def connecting (p : Network) (client : Nat) : Network :=
  { p.setClient client { p.clients client with client := some ⟨p.nextSocket, .CONNECTING⟩ } with
    nextSocket := p.nextSocket + 1 }

/-- The socket is open: `handleConnect`. -/
def onopen (p : Network) (client : Nat) (socket : Socket) : Network :=
  (p.setClient client { p.clients client with client := some ⟨socket, .OPEN⟩ }).send client
    (.knock { subnet := (p.clients client).subnet, parentWs := (p.clients client).parentWsId })

def onclose (p : Network) (client : Nat) (socket : Socket) : Network :=
  p.setClient client { p.clients client with client := some ⟨socket, .CLOSED⟩ }

/-- `bind`, `accept`, `shutdown` and `connect`. -/
def request (p : Network) (client : Nat) (request : Request) : Network :=
  { (p.setClient client ((p.clients client).request p.nextNumber request)).send client
      (request.operation (p.clients client).id) with
    connectionIds := match request with
      | .connect clientConnectionId _ => clientConnectionId :: p.connectionIds
      | _ => p.connectionIds }

def onmessage (p : Network) (client : Nat) (message : Message) (down : List Message) : Network :=
  { p with
    down := down
    clientTasks := p.clientTasks ++ ClientTask.remaining client message
      (SignalingClient.handleOperation message.operation) }

def handle (E : Emittery (String × Nat)) (p : Network) (task : ClientTask)
    (clientTasks : List ClientTask) : Network :=
  let r := SignalingClient.step E task.message.number (p.clients task.client) task.rest
  { p.setClient task.client r.1 with
    clientTasks := clientTasks ++ ClientTask.remaining task.client task.message r.2 }

def receive (p : Network) (message : Message) (up : List Message) : Network :=
  { p with
    up := up
    serverTasks := p.serverTasks
      ++ [(message.number, .received message.operation message.socket)] }

def close (p : Network) (socket : Socket) : Network :=
  { p with
    server := p.server.closed socket
    serverTasks := p.serverTasks
      ++ (p.server.closing socket).map fun id => (p.nextNumber, .goodbyeAddress id)
    closed := p.closed ++ [socket]
    nextNumber := p.nextNumber + 1 }

def resume (p : Network) (number : Nat) (task : ServerTask)
    (serverTasks : List (Nat × ServerTask)) : Network :=
  { p with
    server := (task.resume p.server).1
    serverTasks := serverTasks ++ (task.resume p.server).2.map fun t => (number, t)
    down := p.down ++ Message.numbered number p.nextNumber (task.posts p.server)
    nextNumber := p.nextNumber + (task.posts p.server).length }

/-- Whether a client may call `open`. -/
def idle (c : SignalingClient) : Bool :=
  match c.client with
  | none => true
  | some ws => ws.readyState = .CLOSED

/-- A uuid is not empty, and no two are the same. -/
def Fresh (p : Network) : Request → Prop
  | .connect clientConnectionId _ =>
    clientConnectionId ≠ "" ∧ clientConnectionId ∉ p.connectionIds
  | _ => True

instance (p : Network) : DecidablePred p.Fresh
  | .connect clientConnectionId _ =>
    inferInstanceAs (Decidable (clientConnectionId ≠ "" ∧ clientConnectionId ∉ p.connectionIds))
  | .bind _ | .accept _ | .shutdown _ => isTrue trivial

variable (E : Emittery (String × Nat))

/-- The step relation.  A message is taken off its list if no earlier one has
the same socket. -/
inductive Step (p : Network) : NetworkStep → Network → Prop where
  | connecting {client : Nat} (hidle : idle (p.clients client) = true) :
    Step p (.connecting client) (p.connecting client)
  | onopen {client : Nat} {socket : Socket}
      (hclient : (p.clients client).client = some ⟨socket, .CONNECTING⟩) :
    Step p (.onopen client) (p.onopen client socket)
  | onclose {client : Nat} {socket : Socket} {readyState : ReadyState}
      (hclient : (p.clients client).client = some ⟨socket, readyState⟩)
      (hlive : readyState ≠ .CLOSED) :
    Step p (.onclose client) (p.onclose client socket)
  | request {client : Nat} {request : Request} (hfresh : p.Fresh request) :
    Step p (.request client request) (p.request client request)
  | handleSend {client : Nat} {operation : Operation} (hrelayed : operation.relayed = true) :
    Step p (.handleSend client operation) (p.send client operation)
  | onmessage {client : Nat} {message : Message} {before after : List Message}
      (hdown : p.down = before ++ message :: after)
      (hfirst : ∀ m ∈ before, m.socket ≠ message.socket)
      (hclient : (p.clients client).client = some ⟨message.socket, .OPEN⟩) :
    Step p (.onmessage client message) (p.onmessage client message (before ++ after))
  | handle {task : ClientTask} {before after : List ClientTask}
      (htasks : p.clientTasks = before ++ task :: after) :
    Step p (.handle task) (p.handle E task (before ++ after))
  | receive {message : Message} {before after : List Message}
      (hup : p.up = before ++ message :: after)
      (hfirst : ∀ m ∈ before, m.socket ≠ message.socket) (hopen : message.socket ∉ p.closed) :
    Step p (.receive message) (p.receive message (before ++ after))
  | close {socket : Socket} (hsocket : socket < p.nextSocket) (hopen : socket ∉ p.closed) :
    Step p (.close socket) (p.close socket)
  | resume {number : Nat} {task : ServerTask} {before after : List (Nat × ServerTask)}
      (htasks : p.serverTasks = before ++ (number, task) :: after)
      (hready : task.ready p.server = true) :
    Step p (.resume number task) (p.resume number task (before ++ after))

/-! ### Events -/

/-- The first message of a socket, and the other messages. -/
def takeFirst (socket : Socket) : List Message → Option (Message × List Message)
  | [] => none
  | m :: rest =>
    if m.socket = socket then some (m, rest)
    else (takeFirst socket rest).map fun r => (r.1, m :: r.2)

theorem takeFirst_eq_some {socket : Socket} {l rest : List Message} {m : Message}
    (h : takeFirst socket l = some (m, rest)) :
    ∃ before after, l = before ++ m :: after ∧ (∀ m' ∈ before, m'.socket ≠ m.socket) ∧
      rest = before ++ after ∧ m.socket = socket := by
  induction l generalizing rest with
  | nil => cases h
  | cons m' l ih =>
    rw [takeFirst] at h
    split_ifs at h with hm
    · cases h
      exact ⟨[], _, rfl, fun m' hm' => absurd hm' List.not_mem_nil, rfl, hm⟩
    · obtain ⟨⟨m'', l'⟩, hl', he⟩ := Option.map_eq_some_iff.mp h
      cases he
      obtain ⟨before, after, rfl, hfirst, rfl, hsocket⟩ := ih hl'
      refine ⟨m' :: before, after, rfl, ?_, rfl, hsocket⟩
      exact List.forall_mem_cons.mpr ⟨fun he => hm (he.trans hsocket), hfirst⟩

/-- The element at a position, with what stands before and after it. -/
theorem eq_append_of_getElem? {α : Type*} {l : List α} {i : Nat} {x : α} (h : l[i]? = some x) :
    l = l.take i ++ x :: l.drop (i + 1) ∧ l.eraseIdx i = l.take i ++ l.drop (i + 1) := by
  obtain ⟨hi, hx⟩ := List.getElem?_eq_some_iff.mp h
  refine ⟨?_, List.eraseIdx_eq_take_drop_succ l i⟩
  rw [← hx, ← List.drop_eq_getElem_cons hi, List.take_append_drop]

/-- An event of the network: the next step, with tasks given by their position
in the pool and messages by their receiver. -/
inductive Event where
  | connecting (client : Nat)
  | onopen (client : Nat)
  | onclose (client : Nat)
  | request (client : Nat) (request : Request)
  | handleSend (client : Nat) (operation : Operation)
  | onmessage (client : Nat)
  | handle (i : Nat)
  | receive (socket : Socket)
  | close (socket : Socket)
  | resume (i : Nat)

/-- The effect of an event, with the step it takes. -/
def next (p : Network) : Event → Option (NetworkStep × Network)
  | .connecting client =>
    if idle (p.clients client) = true then some (.connecting client, p.connecting client)
    else none
  | .onopen client =>
    match (p.clients client).client with
    | some ⟨socket, .CONNECTING⟩ => some (.onopen client, p.onopen client socket)
    | _ => none
  | .onclose client =>
    match (p.clients client).client with
    | some ⟨socket, readyState⟩ =>
      if readyState ≠ .CLOSED then some (.onclose client, p.onclose client socket) else none
    | none => none
  | .request client request =>
    if p.Fresh request then some (.request client request, p.request client request) else none
  | .handleSend client operation =>
    if operation.relayed = true then some (.handleSend client operation, p.send client operation)
    else none
  | .onmessage client =>
    match (p.clients client).client with
    | some ⟨socket, .OPEN⟩ =>
      (takeFirst socket p.down).map fun r =>
        (.onmessage client r.1, p.onmessage client r.1 r.2)
    | _ => none
  | .handle i =>
    p.clientTasks[i]?.map fun task => (.handle task, p.handle E task (p.clientTasks.eraseIdx i))
  | .receive socket =>
    if socket ∉ p.closed then
      (takeFirst socket p.up).map fun r => (.receive r.1, p.receive r.1 r.2)
    else none
  | .close socket =>
    if socket < p.nextSocket ∧ socket ∉ p.closed then some (.close socket, p.close socket)
    else none
  | .resume i =>
    match p.serverTasks[i]? with
    | some (number, task) =>
      if task.ready p.server = true then
        some (.resume number task, p.resume number task (p.serverTasks.eraseIdx i))
      else none
    | none => none

theorem step_of_next {p p' : Network} {e : Event} {a : NetworkStep}
    (h : p.next E e = some (a, p')) : Step E p a p' := by
  cases e with
  | connecting client =>
    simp only [next] at h
    split_ifs at h with hidle
    cases h
    exact .connecting hidle
  | onopen client =>
    simp only [next] at h
    split at h
    · rename_i socket hclient
      cases h
      exact .onopen hclient
    · cases h
  | onclose client =>
    simp only [next] at h
    split at h
    · rename_i socket readyState hclient
      split_ifs at h with hlive
      cases h
      exact .onclose hclient hlive
    · cases h
  | request client request =>
    simp only [next] at h
    split_ifs at h with hfresh
    cases h
    exact .request hfresh
  | handleSend client operation =>
    simp only [next] at h
    split_ifs at h with hrelayed
    cases h
    exact .handleSend hrelayed
  | onmessage client =>
    simp only [next] at h
    split at h
    · rename_i socket hclient
      obtain ⟨⟨m, rest⟩, hfirst, he⟩ := Option.map_eq_some_iff.mp h
      obtain ⟨before, after, hdown, hbefore, rfl, rfl⟩ := takeFirst_eq_some hfirst
      cases he
      exact .onmessage hdown hbefore hclient
    · cases h
  | handle i =>
    obtain ⟨task, htask, he⟩ := Option.map_eq_some_iff.mp h
    cases he
    obtain ⟨htasks, herase⟩ := eq_append_of_getElem? htask
    rw [herase]
    exact .handle htasks
  | receive socket =>
    simp only [next] at h
    split_ifs at h with hopen
    obtain ⟨⟨m, rest⟩, hfirst, he⟩ := Option.map_eq_some_iff.mp h
    obtain ⟨before, after, hup, hbefore, rfl, rfl⟩ := takeFirst_eq_some hfirst
    cases he
    exact .receive hup hbefore hopen
  | close socket =>
    simp only [next] at h
    split_ifs at h with hsocket
    cases h
    exact .close hsocket.1 hsocket.2
  | resume i =>
    simp only [next] at h
    split at h
    · rename_i number task htask
      split_ifs at h with hready
      cases h
      obtain ⟨htasks, herase⟩ := eq_append_of_getElem? htask
      rw [herase]
      exact .resume htasks hready
    · cases h

/-- The network of clients in one subnet, before anything has happened. -/
def init (subnet : String) : Network where
  clients _ := { subnet := subnet, parentWsId := "" }

/-- Nothing has happened yet. -/
def Initial (p : Network) : Prop :=
  ∃ subnet parentWsId : Nat → String,
    p = { clients := fun client =>
      { subnet := subnet client, parentWsId := parentWsId client } }

theorem initial_init (subnet : String) : (init subnet).Initial :=
  ⟨fun _ => subnet, fun _ => "", rfl⟩

/-- No message is on its way and no handler is suspended.  What a closed socket
has left behind is not on its way any more. -/
structure Quiet (p : Network) : Prop where
  clientTasks : p.clientTasks = []
  serverTasks : p.serverTasks = []
  up : ∀ m ∈ p.up, m.socket ∈ p.closed
  down : ∀ m ∈ p.down, ∀ client ws, (p.clients client).client = some ws →
    ws.socket = m.socket → ws.readyState = .CLOSED

end Network

/-- A run of the network, with its steps. -/
abbrev NetworkRun (E : Emittery (String × Nat)) := Run Network.Initial (Network.Step E)

namespace NetworkRun

variable {E : Emittery (String × Nat)}

/-- A run with a property that can be evaluated. -/
theorem exists_along {P : List (Network × NetworkStep) → Network → Prop}
    [∀ steps p, Decidable (P steps p)] (subnet : String) (es : List Network.Event)
    (h : ((Run.along (Network.next E) es (.init subnet) []).any fun r => decide (P r.1 r.2))
      = true) :
    ∃ steps p, NetworkRun E steps p ∧ P steps p := by
  refine Run.exists_along Network.Initial ?_ (Network.initial_init subnet) es h
  exact fun _ _ _ _ hnext => Network.step_of_next E hnext

/-- The oldest message of a socket, and `n` steps of the oldest handler of the
server. -/
def serve (socket : Socket) (n : Nat) : List Network.Event :=
  .receive socket :: List.replicate n (.resume 0)

/-- The oldest message for a client, and `n` steps of the oldest handler of the
clients. -/
def notify (client n : Nat) : List Network.Event :=
  .onmessage client :: List.replicate n (.handle 0)

/-- A client opens its first socket and handles its acknowledgement. -/
def join (client : Nat) (socket : Socket) : List Network.Event :=
  [.connecting client, .onopen client] ++ serve socket 5 ++ notify client 1

end NetworkRun

/-! ## The server of a run -/

namespace Network

/-- The pool of the server. -/
def pool (p : Network) : ServerPool := ⟨p.server, p.serverTasks.map Prod.snd⟩

end Network

namespace NetworkStep

/-- The step of the server that a step of the network takes. -/
def server : NetworkStep → Option ServerStep
  | .receive message => some (.message message.operation message.socket)
  | .close socket => some (.close socket)
  | .resume _ task => some (.resume task)
  | _ => none

end NetworkStep

/-- The server makes its own step, or nothing changes for it. -/
theorem Network.Step.server {E : Emittery (String × Nat)} {p p' : Network} {a : NetworkStep}
    (h : Network.Step E p a p') :
    (∃ b, a.server = some b ∧ ServerPool.Step p.pool b p'.pool) ∨
      a.server = none ∧ p'.pool = p.pool := by
  cases h with
  | @receive message before after hup hfirst hopen =>
    refine .inl ⟨_, rfl, ?_⟩
    have hpool : (p.receive message (before ++ after)).pool
        = p.pool.message message.operation message.socket := by
      simp [Network.pool, Network.receive, ServerPool.message]
    rw [hpool]
    exact .message message.operation message.socket
  | @close socket hsocket hopen =>
    refine .inl ⟨_, rfl, ?_⟩
    have hpool : (p.close socket).pool = p.pool.close socket := by
      simp [Network.pool, Network.close, ServerPool.close]
    rw [hpool]
    exact .close socket
  | @resume number task before after htasks hready =>
    refine .inl ⟨_, rfl, ?_⟩
    have hget : p.pool.tasks[before.length]? = some task := by
      simp [Network.pool, htasks]
    refine .resume hget ?_
    unfold TaskSystem.resumeAt
    rw [hget]
    refine (if_pos hready).trans ?_
    have herase : p.pool.tasks.eraseIdx before.length
        = (before ++ after).map Prod.snd := by
      simp [Network.pool, htasks, List.eraseIdx_append_of_length_le]
    rw [herase]
    simp [Network.pool, Network.resume, ServerTask.system, List.map_append]
  | _ => exact .inr ⟨rfl, rfl⟩

/-- The steps of the server in a run of the network make a run of the server. -/
theorem NetworkRun.server {E : Emittery (String × Nat)} {steps : List (Network × NetworkStep)}
    {p : Network} (hrun : NetworkRun E steps p) :
    ∃ serverSteps, ServerRun serverSteps p.pool ∧
      ∀ x ∈ serverSteps, ∃ y ∈ steps, x.1 = y.1.pool ∧ y.2.server = some x.2 := by
  induction hrun with
  | start hinit =>
    obtain ⟨subnet, parentWsId, rfl⟩ := hinit
    exact ⟨[], .start rfl, fun x hx => absurd hx List.not_mem_nil⟩
  | @snoc steps p p' a hrun hstep ih =>
    obtain ⟨serverSteps, hserver, hsteps⟩ := ih
    have hkept : ∀ x ∈ serverSteps, ∃ y ∈ steps ++ [(p, a)],
        x.1 = y.1.pool ∧ y.2.server = some x.2 := by
      intro x hx
      obtain ⟨y, hy, hxy⟩ := hsteps x hx
      exact ⟨y, List.mem_append_left _ hy, hxy⟩
    rcases hstep.server with ⟨b, hb, hs⟩ | ⟨-, hsame⟩
    · refine ⟨serverSteps ++ [(p.pool, b)], hserver.snoc hs, fun x hx => ?_⟩
      rcases List.mem_append.mp hx with hx | hx
      · exact hkept x hx
      · rw [List.mem_singleton.mp hx]
        exact ⟨(p, a), List.mem_append_right _ List.mem_cons_self, rfl, hb⟩
    · exact ⟨serverSteps, hsame ▸ hserver, hkept⟩

/-! ## What a handler of the server sends -/

/-- The messages that a step of the server sends. -/
def NetworkStep.posts (p : Network) : NetworkStep → List (Socket × Operation)
  | .resume _ task => task.posts p.server
  | _ => []

/-- The handler of a message has sent an operation to a socket. -/
def Sent (steps : List (Network × NetworkStep)) (n : Nat) (socket : Socket)
    (operation : Operation) : Prop :=
  ∃ x ∈ steps, (∃ t, x.2 = .resume n t) ∧ (socket, operation) ∈ x.2.posts x.1

section Sent

variable {E : Emittery (String × Nat)} {steps steps' : List (Network × NetworkStep)}
  {p p' : Network} {a : NetworkStep} {n : Nat}

theorem Sent.mono {socket : Socket} {operation : Operation} (hsteps : steps ⊆ steps')
    (h : Sent steps n socket operation) : Sent steps' n socket operation := by
  obtain ⟨x, hx, hsent⟩ := h
  exact ⟨x, hsteps hx, hsent⟩

/-- What the last step sends. -/
theorem Sent.last {t : ServerTask} {socket : Socket} {operation : Operation}
    (h : (socket, operation) ∈ t.posts p.server) :
    Sent (steps ++ [(p, .resume n t)]) n socket operation :=
  ⟨_, List.mem_append_right _ List.mem_cons_self, ⟨t, rfl⟩, h⟩

/-- A suspended handler stays, or it is the one that goes on. -/
theorem mem_serverTasks_step (hstep : Network.Step E p a p') {t : ServerTask}
    (ht : (n, t) ∈ p.serverTasks) :
    (n, t) ∈ p'.serverTasks ∨
      a = .resume n t ∧ ∃ serverTasks, p' = p.resume n t serverTasks := by
  cases hstep with
  | receive hup hfirst hopen => exact .inl (List.mem_append_left _ ht)
  | close hsocket hopen => exact .inl (List.mem_append_left _ ht)
  | @resume number task before after htasks hready =>
    rw [htasks] at ht
    rcases List.mem_append.mp ht with ht | ht
    · exact .inl (List.mem_append_left _ (List.mem_append_left _ ht))
    · rcases List.mem_cons.mp ht with he | ht
      · cases he
        exact .inr ⟨rfl, _, rfl⟩
      · exact .inl (List.mem_append_left _ (List.mem_append_right _ ht))
  | _ => exact .inl ht

end Sent

end Unisockets.Signaling
