import Unisockets.JsStd.Map

/-!
# The transporter of a page

The maps of `transporter.ts` and what its functions do to them from one await
to the next.  A function that awaits something is cut there: `getOffer` and
`handleOffer` are the code in front of their first await, and what runs after
an await of theirs has a name of its own.

Connections and data channels are objects of the browser, so the maps hold
their numbers and the objects are in `peerConnections` and `dataChannels`, as
far as the transporter reads and writes them.  `createOffer`, `createAnswer` and
`setLocalDescription` change nothing that is read here.  The numbers of new
objects come from the caller.
-/

namespace Unisockets.Transport

open JsStd

/-- The bytes of a message. -/
abbrev Uint8Array := List UInt8

inductive RTCPeerConnectionState where
  | new
  | connecting
  | connected
  | disconnected
  | failed
  | closed
  deriving DecidableEq, Repr

inductive RTCDataChannelState where
  | connecting
  | open
  | closing
  | closed
  deriving DecidableEq, Repr

/-- What the `handleCandidate` of a connection closes over in `main.ts`: the
thread it posts to and the ids it puts into the `Candidate`. -/
structure CandidateHandler where
  thread : Nat
  offererId : String
  answererId : String
  deriving DecidableEq, Repr

/-- A connection, with its handlers. -/
structure RTCPeerConnection where
  /-- The `remoteId` of `onconnectionstatechange`. -/
  remoteId : String
  onicecandidate : CandidateHandler
  /-- The `localId` of `ondatachannel`. -/
  ondatachannel : Option String := none
  connectionState : RTCPeerConnectionState := .new
  remoteDescription : Option String := none
  /-- What `addIceCandidate` has been called with. -/
  candidates : List String := []
  deriving DecidableEq, Repr

/-- One end of a data channel.  `handlers` are the `remoteId` and the `localId`
of `onopen`, `onmessage` and `onclose`. -/
structure RTCDataChannel where
  connection : Nat
  label : String
  readyState : RTCDataChannelState := .connecting
  handlers : Option (String × String) := none
  deriving DecidableEq, Repr

inductive TransporterError where
  | ConnectionAlreadyExists (localId remoteId : String)
  | ConnectionDoesNotExistError
  | ChannelDoesNotExistError
  | TypeError
  deriving DecidableEq, Repr

/-- The text that `getOffer` and `handleOffer` throw. -/
def TransporterError.message : TransporterError → String
  | .ConnectionAlreadyExists localId remoteId =>
    "Connection already exist for localId - " ++ localId ++ "; remoteId - " ++ remoteId
  | .ConnectionDoesNotExistError => "ConnectionDoesNotExistError"
  | .ChannelDoesNotExistError => "ChannelDoesNotExistError"
  | .TypeError => "TypeError"

structure Transporter where
  connections : Map String Nat := .empty
  channels : Map String (Map String Nat) := .empty
  queuedMessages : Map String (Map String (List Uint8Array)) := .empty
  queuedCandidates : Map String (List String) := .empty
  /-- The listeners of `asyncResolver`, each with its event and the call that
  awaits it. -/
  asyncResolver : List (String × Nat) := []
  peerConnections : Map Nat RTCPeerConnection := .empty
  dataChannels : Map Nat RTCDataChannel := .empty

def getMessageKey (remoteId localId : String) : String :=
  "message remoteId=" ++ remoteId ++ ", localId=" ++ localId

def getChannelKey (remoteId localId : String) : String :=
  "channel remoteId=" ++ remoteId ++ ", localId=" ++ localId

namespace Transporter

/-! ## The maps -/

/-- `this.channels.get(remoteId)?.get(localId)`. -/
def channel (t : Transporter) (remoteId localId : String) : Option Nat :=
  (t.channels.get remoteId).bind fun channels => channels.get localId

/-- `this.queuedMessages.get(remoteId)?.get(localId)`. -/
def queue (t : Transporter) (remoteId localId : String) : Option (List Uint8Array) :=
  (t.queuedMessages.get remoteId).bind fun queues => queues.get localId

def addDataChannel (t : Transporter) (remoteId localId : String) (channel : Nat) : Transporter :=
  { t with
    channels := t.channels.set remoteId
      (((t.channels.get remoteId).getD .empty).set localId channel) }

def addQueueMessages (t : Transporter) (remoteId localId : String) (msgs : List Uint8Array) :
    Transporter :=
  { t with
    queuedMessages := t.queuedMessages.set remoteId
      (((t.queuedMessages.get remoteId).getD .empty).set localId msgs) }

def setPeerConnection (t : Transporter) (connection : Nat)
    (update : RTCPeerConnection → RTCPeerConnection) : Transporter :=
  match t.peerConnections.get connection with
  | some c => { t with peerConnections := t.peerConnections.set connection (update c) }
  | none => t

def setDataChannel (t : Transporter) (channel : Nat)
    (update : RTCDataChannel → RTCDataChannel) : Transporter :=
  match t.dataChannels.get channel with
  | some c => { t with dataChannels := t.dataChannels.set channel (update c) }
  | none => t

/-- `dataChannelConfiguration`.  The messages that are queued for the pair are
kept. -/
def dataChannelConfiguration (t : Transporter) (remoteId localId : String) (channel : Nat) :
    Transporter :=
  let t := (t.addDataChannel remoteId localId channel).setDataChannel channel fun c =>
    { c with handlers := some (remoteId, localId) }
  t.addQueueMessages remoteId localId ((t.queue remoteId localId).getD [])

/-- `createDataChannel`. -/
def createDataChannel (t : Transporter) (connection : Nat) (label : String) (channel : Nat) :
    Transporter :=
  { t with dataChannels := t.dataChannels.set channel ⟨connection, label, .connecting, none⟩ }

/-! ## Offers and answers -/

/-- The connection of a client, if there is one and it is not closed. -/
def existing (t : Transporter) (remoteId : String) : Option Nat :=
  (t.connections.get remoteId).filter fun connection =>
    (t.peerConnections.get connection).all fun c => c.connectionState ≠ .closed

/-- What `getOffer` and `handleOffer` do to a connection that exists, before they
throw. -/
def reuse (t : Transporter) (remoteId localId : String) (connection channel : Nat) :
    Transporter :=
  if t.channel remoteId localId = none then
    (t.createDataChannel connection localId channel).dataChannelConfiguration remoteId localId
      channel
  else t

/-- `new RTCPeerConnection()`, with the handlers that are set at once. -/
def addConnection (t : Transporter) (connection : Nat) (c : RTCPeerConnection) : Transporter :=
  { t with
    connections := t.connections.set c.remoteId connection
    peerConnections := t.peerConnections.set connection c }

/-- `getOffer`, up to `createOffer`.  The new connection and the new channel get
the number `n`. -/
def getOffer (t : Transporter) (remoteId localId : String) (handleCandidate : CandidateHandler)
    (n : Nat) : Transporter × Except TransporterError Nat :=
  match t.existing remoteId with
  | some connection =>
    (t.reuse remoteId localId connection n, .error (.ConnectionAlreadyExists localId remoteId))
  | none =>
    (((t.addConnection n {
        remoteId := remoteId
        onicecandidate := handleCandidate
        ondatachannel := some localId }).createDataChannel n localId n).dataChannelConfiguration
      remoteId localId n, .ok n)

/-- `handleOffer`, up to `setRemoteDescription`. -/
def handleOffer (t : Transporter) (remoteId localId : String)
    (handleCandidate : CandidateHandler) (n : Nat) :
    Transporter × Except TransporterError Nat :=
  match t.existing remoteId with
  | some connection =>
    (t.reuse remoteId localId connection n, .error (.ConnectionAlreadyExists localId remoteId))
  | none =>
    (t.addConnection n { remoteId := remoteId, onicecandidate := handleCandidate }, .ok n)

/-- `handleAnswer`, up to `setRemoteDescription`: the connection that gets the
answer. -/
def handleAnswer (t : Transporter) (id : String) : Except TransporterError Nat :=
  match t.connections.get id with
  | some connection => .ok connection
  | none => .error .ConnectionDoesNotExistError

/-- `setRemoteDescription`. -/
def setRemoteDescription (t : Transporter) (connection : Nat) (sdp : String) : Transporter :=
  t.setPeerConnection connection fun c => { c with remoteDescription := some sdp }

/-- The last part of `handleOffer`. -/
def listen (t : Transporter) (connection : Nat) (localId : String) : Transporter :=
  t.setPeerConnection connection fun c => { c with ondatachannel := some localId }

/-! ## Candidates -/

/-- The connection of a client, if its remote description is set. -/
def described (t : Transporter) (id : String) : Option Nat :=
  (t.connections.get id).filter fun connection =>
    (t.peerConnections.get connection).any fun c => c.remoteDescription.isSome

def handleCandidate (t : Transporter) (id candidate : String) : Transporter :=
  match t.described id with
  | some connection =>
    t.setPeerConnection connection fun c => { c with candidates := c.candidates ++ [candidate] }
  | none =>
    { t with
      queuedCandidates := t.queuedCandidates.set id
        ((t.queuedCandidates.get id).getD [] ++ [candidate]) }

/-- `addQueuedCandidates`: the loop walks the candidates that are queued when it
starts. -/
def addQueuedCandidates (t : Transporter) (id : String) : Transporter :=
  ((t.queuedCandidates.get id).getD []).foldl (fun t candidate =>
    ({ t with
      queuedCandidates := t.queuedCandidates.set id
        (((t.queuedCandidates.get id).getD []).filter (· ≠ candidate)) } :
      Transporter).handleCandidate id candidate) t

/-! ## Closing -/

/-- `close()` of a channel. -/
def closeDataChannel (t : Transporter) (channel : Nat) : Transporter :=
  t.setDataChannel channel fun c => { c with readyState := .closed }

/-- `close()` of a connection.  The browser closes the channels of the connection with it. -/
def closeConnection (t : Transporter) (connection : Nat) : Transporter :=
  let t := t.setPeerConnection connection fun c => { c with connectionState := .closed }
  { t with
    dataChannels := t.dataChannels.mapValues fun c =>
      if c.connection = connection then { c with readyState := .closed } else c }

def shutdown (t : Transporter) (id : String) : Transporter :=
  let t := (t.connections.get id).elim t t.closeConnection
  let t := ((t.channels.get id).getD .empty).values.foldl closeDataChannel t
  { t with
    connections := t.connections.delete id
    channels := t.channels.delete id
    queuedCandidates := t.queuedCandidates.delete id
    queuedMessages := t.queuedMessages.delete id }

/-- `handleConnectionStatusChange`; the callbacks only write to the log. -/
def handleConnectionStatusChange (t : Transporter) (connectionState : RTCPeerConnectionState)
    (id : String) : Transporter :=
  if connectionState = .closed then t.shutdown id else t

/-! ## Messages -/

/-- `recv`, up to its await: a message, or a listener for the next one. -/
def recv (t : Transporter) (remoteId localId : String) (call : Nat) :
    Transporter × Option Uint8Array :=
  match t.queue remoteId localId with
  | some (msg :: msgs) => (t.addQueueMessages remoteId localId msgs, some msg)
  | _ =>
    ({ t with asyncResolver := t.asyncResolver ++ [(getMessageKey remoteId localId, call)] },
      none)

/-- `recv`, after its await. -/
def recvResolved (t : Transporter) (remoteId localId : String) :
    Except TransporterError Transporter :=
  match t.queuedMessages.get remoteId with
  | none => .error .TypeError
  | some queues =>
    match queues.get localId with
    | some msgs => .ok (t.addQueueMessages remoteId localId msgs.tail)
    | none => .ok t

/-- The calls that await an event. -/
def listeners (t : Transporter) (key : String) : List Nat :=
  (t.asyncResolver.filter fun listener => listener.1 = key).map Prod.snd

/-- `queueAndEmitMessage`, up to the call of the listeners: they are those that
are there now. -/
def queueAndEmitMessage (t : Transporter) (remoteId localId : String) (msg : Uint8Array) :
    Transporter × Except TransporterError (List Nat) :=
  match t.channel remoteId localId, t.queuedMessages.get remoteId with
  | none, _ => (t, .error .ChannelDoesNotExistError)
  | some _, none => (t, .error .TypeError)
  | some _, some queues =>
    (match queues.get localId with
      | some msgs => t.addQueueMessages remoteId localId (msgs ++ [msg])
      | none => t, .ok (t.listeners (getMessageKey remoteId localId)))

/-- The listeners of an event that are called are gone. -/
def off (t : Transporter) (key : String) (calls : List Nat) : Transporter :=
  { t with
    asyncResolver := t.asyncResolver.filter fun listener =>
      listener.1 ≠ key ∨ listener.2 ∉ calls }

/-- `send`, when it looks at the channel: the channel, if it is open. -/
def openChannel (t : Transporter) (remoteId localId : String) : Option Nat :=
  (t.channel remoteId localId).filter fun channel =>
    (t.dataChannels.get channel).any fun c => c.readyState = .open

/-- `send`, when it goes on after its await and looks at the channel again. -/
def openChannelResumed (t : Transporter) (remoteId localId : String) :
    Except TransporterError (Option Nat) :=
  match t.channels.get remoteId with
  | none => .error .TypeError
  | some _ => .ok (t.openChannel remoteId localId)

/-! ## What the updates do to the channels and the queues -/

variable {t : Transporter} {remoteId localId : String}

theorem channel_addDataChannel (channel : Nat) (r l : String) :
    (t.addDataChannel remoteId localId channel).channel r l =
      if r = remoteId ∧ l = localId then some channel else t.channel r l := by
  simp only [Transporter.channel, addDataChannel, Map.get_set]
  by_cases hr : r = remoteId
  · subst hr
    rw [if_pos rfl, Option.bind_some, Map.get_set]
    by_cases hl : l = localId
    · simp [hl]
    · cases t.channels.get r <;> simp [hl, Map.get_empty]
  · simp [hr]

theorem queue_addQueueMessages (msgs : List Uint8Array) (r l : String) :
    (t.addQueueMessages remoteId localId msgs).queue r l =
      if r = remoteId ∧ l = localId then some msgs else t.queue r l := by
  simp only [queue, addQueueMessages, Map.get_set]
  by_cases hr : r = remoteId
  · subst hr
    rw [if_pos rfl, Option.bind_some, Map.get_set]
    by_cases hl : l = localId
    · simp [hl]
    · cases t.queuedMessages.get r <;> simp [hl, Map.get_empty]
  · simp [hr]

@[simp]
theorem queue_addQueueMessages_self (msgs : List Uint8Array) :
    (t.addQueueMessages remoteId localId msgs).queue remoteId localId = some msgs := by
  rw [queue_addQueueMessages, if_pos ⟨rfl, rfl⟩]

@[simp]
theorem channel_addQueueMessages (msgs : List Uint8Array) (r l : String) :
    (t.addQueueMessages remoteId localId msgs).channel r l = t.channel r l := rfl

@[simp]
theorem asyncResolver_addQueueMessages (msgs : List Uint8Array) :
    (t.addQueueMessages remoteId localId msgs).asyncResolver = t.asyncResolver := rfl

@[simp]
theorem connections_setDataChannel (channel : Nat) (update : RTCDataChannel → RTCDataChannel) :
    (t.setDataChannel channel update).connections = t.connections := by
  unfold setDataChannel
  split <;> rfl

@[simp]
theorem channels_setDataChannel (channel : Nat) (update : RTCDataChannel → RTCDataChannel) :
    (t.setDataChannel channel update).channels = t.channels := by
  unfold setDataChannel
  split <;> rfl

@[simp]
theorem queuedMessages_setDataChannel (channel : Nat)
    (update : RTCDataChannel → RTCDataChannel) :
    (t.setDataChannel channel update).queuedMessages = t.queuedMessages := by
  unfold setDataChannel
  split <;> rfl

@[simp]
theorem peerConnections_setDataChannel (channel : Nat)
    (update : RTCDataChannel → RTCDataChannel) :
    (t.setDataChannel channel update).peerConnections = t.peerConnections := by
  unfold setDataChannel
  split <;> rfl

@[simp]
theorem asyncResolver_setDataChannel (channel : Nat)
    (update : RTCDataChannel → RTCDataChannel) :
    (t.setDataChannel channel update).asyncResolver = t.asyncResolver := by
  unfold setDataChannel
  split <;> rfl

theorem channel_dataChannelConfiguration (channel : Nat) (r l : String) :
    (t.dataChannelConfiguration remoteId localId channel).channel r l =
      if r = remoteId ∧ l = localId then some channel else t.channel r l := by
  rw [← channel_addDataChannel]
  simp [dataChannelConfiguration, Transporter.channel, addQueueMessages]

/-- The queue of the pair exists from now on; the queues stay what they are. -/
theorem queue_dataChannelConfiguration (channel : Nat) (r l : String) :
    (t.dataChannelConfiguration remoteId localId channel).queue r l =
      if r = remoteId ∧ l = localId then some ((t.queue remoteId localId).getD [])
      else t.queue r l := by
  rw [dataChannelConfiguration, queue_addQueueMessages]
  simp [queue, addDataChannel]

@[simp]
theorem asyncResolver_dataChannelConfiguration (channel : Nat) :
    (t.dataChannelConfiguration remoteId localId channel).asyncResolver = t.asyncResolver := by
  simp [dataChannelConfiguration, addDataChannel]

/-! ## What the updates do to the listeners -/

theorem mem_listeners {key : String} {call : Nat} :
    call ∈ t.listeners key ↔ (key, call) ∈ t.asyncResolver := by
  simp [listeners]

/-- `off` takes the calls from the listeners of its event. -/
theorem listeners_off (key : String) (calls : List Nat) :
    (t.off key calls).listeners key = (t.listeners key).filter (· ∉ calls) := by
  simp only [listeners, off, List.filter_filter, List.filter_map]
  congr 1
  apply List.filter_congr
  intro listener _
  by_cases h : listener.1 = key <;> simp [h]

end Transporter

end Unisockets.Transport
