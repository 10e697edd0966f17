import Mathlib.Logic.Function.Basic
import Unisockets.Signaling.Posts
import Unisockets.Transition.Run
import Unisockets.Transport.Transporter

/-!
# Pages, threads and the server

A page has one transporter and any number of worker threads, each with a
signaling client of its own.  This module puts `main.ts`, `worker.ts` and the
relaying part of the server together: what a Greeting, an `Offer`, an `Answer`, a
`Candidate` or a Goodbye sets in motion, from the server through the worker and
the main thread to the transporter and back.

Everything that is on its way is a `RunnerTask`: a message over a WebSocket, one
between a worker and its main thread, or a call of the transporter that awaits
the browser.  Any of them may go on next, so that a run covers every order of
delivery.  A thread joins with the step of its Knock that registers its socket,
in an id that no other client has; `Acknowledgement`, the first message of a socket,
has brought the id to the thread by then.  When its socket has closed, a thread
may join again with another one.  No alias is registered here, so that the server
has nothing else to do.

`WebRtc` is what is assumed of the browser: a description tells which connection
it is of, and whether it is an offer.  A channel shows up at the peer of its connection, in
`ondatachannel`, once the offer and the answer have been exchanged.
-/

namespace Unisockets.Transport

open JsStd Signaling Transition

/-- The descriptions that `createOffer` and `createAnswer` make for a
connection. -/
structure WebRtc where
  offer : Nat → String
  answer : Nat → String
  offer_injective : offer.Injective
  answer_injective : answer.Injective
  offer_ne_answer (n m : Nat) : offer n ≠ answer m

/-- What is on its way.  `source` is the connection that a candidate was gathered
for; no step depends on it. -/
inductive RunnerTask where
  /-- A message of the server: `handleOperation` of the signaling client. -/
  | onmessage (socket : Socket) (operation : Operation) (source : Option Nat)
  /-- `postMessage` of a worker, for the function of `main.ts` that handles it. -/
  | handleOffer (thread : Nat) (answererId offererId myId : String)
  | getAnswer (thread : Nat) (answererId offererId myId offer : String)
  | handleAnswer (thread : Nat) (answererId answer : String)
  | handleCandidate (thread : Nat) (offererId candidate : String) (source : Option Nat)
  /-- `Transporter.getOffer` awaits `createOffer` and `setLocalDescription`. -/
  | offerCreating (thread : Nat) (answererId myId : String) (connection : Nat)
  /-- `Transporter.handleOffer` awaits `setRemoteDescription`. -/
  | offerDescribing (thread : Nat) (answererId offererId myId offer : String) (connection : Nat)
  /-- It awaits `createAnswer` and `setLocalDescription`. -/
  | answerCreating (thread : Nat) (answererId offererId myId : String) (connection : Nat)
  /-- It awaits `addQueuedCandidates`. -/
  | answerCreated (thread : Nat) (answererId offererId myId : String) (connection : Nat)
  /-- `Transporter.handleAnswer` awaits `setRemoteDescription`. -/
  | answerDescribing (thread : Nat) (answererId answer : String) (connection : Nat)
  /-- `postMessage` of a main thread, for `handleSend` of the signaling client. -/
  | sendWRTCconfig (thread : Nat) (operation : Operation) (source : Option Nat)
  /-- A message for the server. -/
  | received (socket : Socket) (operation : Operation) (source : Option Nat)
  /-- The `close` listener of an id, in front of its Goodbye. -/
  | goodbye (id : String)
  deriving DecidableEq, Repr

structure Runner where
  server : Server := {}
  /-- `signalingClient.id` of the threads. -/
  ids : Nat → String := fun _ => ""
  /-- The WebSocket of the signaling client of a thread, while it is open. -/
  sockets : Nat → Option Socket := fun _ => none
  /-- The thread that has opened a WebSocket. -/
  threads : Socket → Nat := fun _ => 0
  nextSocket : Socket := 0
  pages : Nat → Transporter := fun _ => {}
  /-- The number of the next connection or channel. -/
  fresh : Nat := 0
  /-- The two ends of the channels that have shown up: the one that was created
  and the one of `ondatachannel`. -/
  ends : List (Nat × Nat) := []

namespace Runner

def setPage (p : Runner) (n : Nat) (t : Transporter) : Runner :=
  { p with pages := Function.update p.pages n t }

/-- The messages of the server for the threads. -/
def deliver (posts : List (Socket × Operation)) (source : Option Nat) : List RunnerTask :=
  posts.map fun post => .onmessage post.1 post.2 source

/-- A step of a handler of the server. -/
def serve (p : Runner) (t : ServerTask) (source : Option Nat) : Runner × List RunnerTask :=
  ({ p with server := (t.resume p.server).1 }, deliver (t.posts p.server) source)

end Runner

section Resume

variable (W : WebRtc) (page : Nat → Nat)

namespace RunnerTask

/-- `handleOperation` of the signaling client, with the handlers of `worker.ts`. -/
def handleOperation (thread : Nat) (id : String) (source : Option Nat) :
    Operation → List RunnerTask
  | .greeting data => [.handleOffer thread data.answererId data.offererId id]
  | .offer data => [.getAnswer thread data.answererId data.offererId id data.offer]
  | .answer data => [.handleAnswer thread data.answererId data.answer]
  | .candidate data => [.handleCandidate thread data.offererId data.candidate source]
  | _ => []

/-- What a task does, and what is on its way after. -/
def resume (t : RunnerTask) (p : Runner) : Runner × List RunnerTask :=
  match t with
  | .onmessage socket operation source =>
    let thread := p.threads socket
    (p, if p.sockets thread = some socket then
        handleOperation thread (p.ids thread) source operation
      else [])
  | .handleOffer thread answererId offererId myId =>
    let r := (p.pages (page thread)).getOffer answererId offererId
      ⟨thread, offererId, answererId⟩ p.fresh
    ({ p.setPage (page thread) r.1 with fresh := p.fresh + 1 },
      match r.2 with
      | .ok connection => [.offerCreating thread answererId myId connection]
      | .error _ => [])
  | .offerCreating thread answererId myId connection =>
    (p, [.sendWRTCconfig thread (.offer {
      offererId := myId
      answererId := answererId
      offer := W.offer connection }) none])
  | .getAnswer thread answererId offererId myId offer =>
    let r := (p.pages (page thread)).handleOffer offererId answererId
      ⟨thread, offererId, answererId⟩ p.fresh
    ({ p.setPage (page thread) r.1 with fresh := p.fresh + 1 },
      match r.2 with
      | .ok connection => [.offerDescribing thread answererId offererId myId offer connection]
      | .error _ => [])
  | .offerDescribing thread answererId offererId myId offer connection =>
    (p.setPage (page thread) ((p.pages (page thread)).setRemoteDescription connection offer),
      [.answerCreating thread answererId offererId myId connection])
  | .answerCreating thread answererId offererId myId connection =>
    (p.setPage (page thread) ((p.pages (page thread)).addQueuedCandidates offererId),
      [.answerCreated thread answererId offererId myId connection])
  | .answerCreated thread answererId offererId myId connection =>
    (p.setPage (page thread) ((p.pages (page thread)).listen connection answererId),
      [.sendWRTCconfig thread (.answer {
        offererId := offererId
        answererId := myId
        answer := W.answer connection }) none])
  | .handleAnswer thread answererId answer =>
    (p, match (p.pages (page thread)).handleAnswer answererId with
      | .ok connection => [.answerDescribing thread answererId answer connection]
      | .error _ => [])
  | .answerDescribing thread answererId answer connection =>
    (p.setPage (page thread) (((p.pages (page thread)).setRemoteDescription connection
      answer).addQueuedCandidates answererId), [])
  | .handleCandidate thread offererId candidate _ =>
    (p.setPage (page thread) ((p.pages (page thread)).handleCandidate offererId candidate), [])
  | .sendWRTCconfig thread operation source =>
    (p, match p.sockets thread with
      | some socket => [.received socket operation source]
      | none => [])
  | .received socket operation source => p.serve (.received operation socket) source
  | .goodbye id => p.serve (.goodbyeAddressRemoved id) none

end RunnerTask

end Resume

/-- The pages, the threads and the server, with everything that is on its way. -/
abbrev RunnerPool := Pool Runner RunnerTask

/-- A step of the runner. -/
inductive RunnerStep where
  /-- The Knock of a thread registers its socket. -/
  | join (thread : Nat) (id : String)
  /-- The WebSocket of a thread closes. -/
  | leave (thread : Nat) (socket : Socket)
  /-- `onicecandidate` of a connection of a page. -/
  | onicecandidate (page connection : Nat) (candidate : String)
  /-- `onconnectionstatechange`. -/
  | onconnectionstatechange (page connection : Nat) (connectionState : RTCPeerConnectionState)
  /-- `ondatachannel` of a connection of a page: a channel that its peer, on the
  other page, has created. -/
  | ondatachannel (page connection otherPage channel : Nat)
  | resume (task : RunnerTask)
  deriving DecidableEq, Repr

namespace Runner

/-- A thread that joins has no open socket and gets an id that is free. -/
def CanJoin (p : Runner) (thread : Nat) (id : String) : Prop :=
  p.sockets thread = none ∧ p.server.clients.has id = false

instance (p : Runner) (thread : Nat) (id : String) : Decidable (p.CanJoin thread id) :=
  inferInstanceAs (Decidable (_ ∧ _))

def join (p : Runner) (thread : Nat) (id : String) : Runner × List RunnerTask :=
  let r := p.serve (.knockAcknowledged p.nextSocket id) none
  ({ r.1 with
    ids := Function.update p.ids thread id
    sockets := Function.update p.sockets thread (some p.nextSocket)
    threads := Function.update p.threads p.nextSocket thread
    nextSocket := p.nextSocket + 1 }, r.2)

def leave (p : Runner) (thread : Nat) (socket : Socket) : Runner × List RunnerTask :=
  ({ p with
    server := p.server.closed socket
    sockets := Function.update p.sockets thread none },
    (p.server.closing socket).map .goodbye)

/-- A state change of the browser.  It does not report `closed` for a connection
that nobody has closed. -/
def changeState (p : Runner) (n connection : Nat) (c : RTCPeerConnection)
    (connectionState : RTCPeerConnectionState) : Runner :=
  p.setPage n (((p.pages n).setPeerConnection connection fun c =>
    { c with connectionState := connectionState }).handleConnectionStatusChange connectionState
      c.remoteId)

/-- Two connections have exchanged their offer and their answer. -/
def Negotiated (W : WebRtc) (p : Runner) (n connection n' connection' : Nat) : Prop :=
  ∃ c ∈ (p.pages n).peerConnections.get connection,
    ∃ c' ∈ (p.pages n').peerConnections.get connection',
      c'.remoteDescription = some (W.offer connection) ∧
      c.remoteDescription = some (W.answer connection')

/-- The two ends of a channel can meet. -/
def Linked (W : WebRtc) (p : Runner) (n connection n' connection' : Nat) : Prop :=
  p.Negotiated W n connection n' connection' ∨ p.Negotiated W n' connection' n connection

instance (W : WebRtc) (p : Runner) (n connection n' connection' : Nat) :
    Decidable (p.Negotiated W n connection n' connection') :=
  inferInstanceAs (Decidable (∃ c ∈ (p.pages n).peerConnections.get connection,
    ∃ c' ∈ (p.pages n').peerConnections.get connection',
      c'.remoteDescription = some (W.offer connection) ∧
      c.remoteDescription = some (W.answer connection')))

instance (W : WebRtc) (p : Runner) (n connection n' connection' : Nat) :
    Decidable (p.Linked W n connection n' connection') :=
  inferInstanceAs (Decidable (_ ∨ _))

/-- A channel of the peer shows up at a connection. -/
def showChannel (p : Runner) (n connection : Nat) (localId : String) (ch : RTCDataChannel)
    (channel : Nat) : Runner :=
  { p.setPage n (((p.pages n).createDataChannel connection ch.label
      p.fresh).dataChannelConfiguration ch.label localId p.fresh) with
    fresh := p.fresh + 1
    ends := p.ends ++ [(channel, p.fresh)] }

end Runner

/-! ## Runs -/

namespace RunnerPool

/-- More is on its way. -/
def add (p : RunnerPool) (r : Runner × List RunnerTask) : RunnerPool :=
  ⟨r.1, p.tasks ++ r.2⟩

section Step

variable (W : WebRtc) (page : Nat → Nat)

inductive Step (p : RunnerPool) : RunnerStep → RunnerPool → Prop where
  | join {thread : Nat} {id : String} (hjoin : p.state.CanJoin thread id) :
    Step p (.join thread id) (p.add (p.state.join thread id))
  | leave {thread : Nat} {socket : Socket} (hsocket : p.state.sockets thread = some socket) :
    Step p (.leave thread socket) (p.add (p.state.leave thread socket))
  | onicecandidate {n connection : Nat} {candidate : String} {c : RTCPeerConnection}
      (hconnection : (p.state.pages n).peerConnections.get connection = some c) :
    Step p (.onicecandidate n connection candidate) (p.add (p.state,
      [.sendWRTCconfig c.onicecandidate.thread (.candidate {
        offererId := c.onicecandidate.offererId
        answererId := c.onicecandidate.answererId
        candidate := candidate }) (some connection)]))
  | onconnectionstatechange {n connection : Nat} {connectionState : RTCPeerConnectionState}
      {c : RTCPeerConnection}
      (hconnection : (p.state.pages n).peerConnections.get connection = some c)
      (hopen : connectionState ≠ .closed) :
    Step p (.onconnectionstatechange n connection connectionState)
      (p.add (p.state.changeState n connection c connectionState, []))
  | ondatachannel {n connection n' channel : Nat} {c : RTCPeerConnection} {localId : String}
      {ch : RTCDataChannel}
      (hconnection : (p.state.pages n).peerConnections.get connection = some c)
      (hlocal : c.ondatachannel = some localId)
      (hchannel : (p.state.pages n').dataChannels.get channel = some ch)
      (hlinked : p.state.Linked W n connection n' ch.connection)
      (hnew : ∀ ends ∈ p.state.ends, ends.1 ≠ channel ∧ ends.2 ≠ channel) :
    Step p (.ondatachannel n connection n' channel)
      (p.add (p.state.showChannel n connection localId ch channel, []))
  | resume {t : RunnerTask} {before after : List RunnerTask}
      (htasks : p.tasks = before ++ t :: after) :
    Step p (.resume t) ⟨(t.resume W page p.state).1,
      before ++ after ++ (t.resume W page p.state).2⟩

end Step

def init : RunnerPool := ⟨{}, []⟩

end RunnerPool

/-- A run of the runner, with its steps. -/
abbrev RunnerRun (W : WebRtc) (page : Nat → Nat) :=
  Run (· = RunnerPool.init) (RunnerPool.Step W page)

/-! ### Events -/

/-- An event of the runner: the next step, with a task given by its position. -/
inductive RunnerEvent where
  | join (thread : Nat) (id : String)
  | leave (thread : Nat)
  | onicecandidate (page connection : Nat) (candidate : String)
  | onconnectionstatechange (page connection : Nat) (connectionState : RTCPeerConnectionState)
  | ondatachannel (page connection otherPage channel : Nat)
  | resume (i : Nat)
  deriving DecidableEq, Repr

namespace RunnerPool

variable (W : WebRtc) (page : Nat → Nat)

/-- The effect of an event, with the step it takes. -/
def next (p : RunnerPool) : RunnerEvent → Option (RunnerStep × RunnerPool)
  | .join thread id =>
    if p.state.CanJoin thread id then some (.join thread id, p.add (p.state.join thread id))
    else none
  | .leave thread =>
    match p.state.sockets thread with
    | some socket => some (.leave thread socket, p.add (p.state.leave thread socket))
    | none => none
  | .onicecandidate n connection candidate =>
    match (p.state.pages n).peerConnections.get connection with
    | some c => some (.onicecandidate n connection candidate, p.add (p.state,
        [.sendWRTCconfig c.onicecandidate.thread (.candidate {
          offererId := c.onicecandidate.offererId
          answererId := c.onicecandidate.answererId
          candidate := candidate }) (some connection)]))
    | none => none
  | .onconnectionstatechange n connection connectionState =>
    match (p.state.pages n).peerConnections.get connection with
    | some c =>
      if connectionState ≠ .closed then
        some (.onconnectionstatechange n connection connectionState,
          p.add (p.state.changeState n connection c connectionState, []))
      else none
    | none => none
  | .ondatachannel n connection n' channel =>
    match (p.state.pages n).peerConnections.get connection,
        (p.state.pages n').dataChannels.get channel with
    | some c, some ch =>
      match c.ondatachannel with
      | some localId =>
        if p.state.Linked W n connection n' ch.connection ∧
            ∀ ends ∈ p.state.ends, ends.1 ≠ channel ∧ ends.2 ≠ channel then
          some (.ondatachannel n connection n' channel,
            p.add (p.state.showChannel n connection localId ch channel, []))
        else none
      | none => none
    | _, _ => none
  | .resume i =>
    match p.tasks[i]? with
    | some t => some (.resume t, ⟨(t.resume W page p.state).1,
        p.tasks.eraseIdx i ++ (t.resume W page p.state).2⟩)
    | none => none

theorem step_of_next {p p' : RunnerPool} {e : RunnerEvent} {a : RunnerStep}
    (h : p.next W page e = some (a, p')) : Step W page p a p' := by
  cases e with
  | join thread id =>
    simp only [next] at h
    split_ifs at h with hjoin
    cases h
    exact .join hjoin
  | leave thread =>
    simp only [next] at h
    split at h
    · rename_i socket hsocket
      cases h
      exact .leave hsocket
    · cases h
  | onicecandidate n connection candidate =>
    simp only [next] at h
    split at h
    · rename_i c hconnection
      cases h
      exact .onicecandidate hconnection
    · cases h
  | onconnectionstatechange n connection connectionState =>
    simp only [next] at h
    split at h
    · rename_i c hconnection
      split_ifs at h with hopen
      cases h
      exact .onconnectionstatechange hconnection hopen
    · cases h
  | ondatachannel n connection n' channel =>
    simp only [next] at h
    split at h
    · rename_i c ch hconnection hchannel
      split at h
      · rename_i localId hlocal
        split_ifs at h with hlinked
        cases h
        exact .ondatachannel hconnection hlocal hchannel hlinked.1 hlinked.2
      · cases h
    · cases h
  | resume i =>
    simp only [next] at h
    split at h
    · rename_i t ht
      cases h
      obtain ⟨hi, rfl⟩ := List.getElem?_eq_some_iff.mp ht
      rw [List.eraseIdx_eq_take_drop_succ]
      refine .resume ?_
      rw [← List.drop_eq_getElem_cons hi, List.take_append_drop]
    · cases h

end RunnerPool

/-- A run with a property that can be evaluated. -/
theorem RunnerRun.exists_along (W : WebRtc) (page : Nat → Nat)
    {P : List (RunnerPool × RunnerStep) → RunnerPool → Prop} [∀ steps p, Decidable (P steps p)]
    (es : List RunnerEvent)
    (h : ((Run.along (RunnerPool.next W page) es .init []).any fun r => decide (P r.1 r.2))
      = true) :
    ∃ steps p, RunnerRun W page steps p ∧ P steps p := by
  refine Run.exists_along (· = RunnerPool.init) ?_ rfl es h
  exact fun _ _ _ _ hnext => RunnerPool.step_of_next W page hnext

theorem text_repr_injective (text : String) :
    Function.Injective fun n : Nat => text ++ Nat.repr n := by
  intro n m h
  have h : (text ++ Nat.repr n).toList = (text ++ Nat.repr m).toList := congrArg String.toList h
  rw [String.toList_append, String.toList_append] at h
  have h : parseInt (Nat.repr n) = parseInt (Nat.repr m) :=
    congrArg parseInt (String.toList_inj.mp (List.append_cancel_left h))
  rw [parseInt_repr, parseInt_repr] at h
  exact Number.natCast_inj.mp h

/-- Descriptions that are the number of their connection. -/
def WebRtc.numbered : WebRtc where
  offer n := "offer " ++ Nat.repr n
  answer n := "answer " ++ Nat.repr n
  offer_injective := text_repr_injective "offer "
  answer_injective := text_repr_injective "answer "
  offer_ne_answer n m h := by
    have h : ("offer " ++ Nat.repr n).toList = ("answer " ++ Nat.repr m).toList :=
      congrArg String.toList h
    simp [String.toList_append] at h

end Unisockets.Transport
