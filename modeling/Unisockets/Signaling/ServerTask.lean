import Unisockets.Signaling.Server

/-!
# The handlers of the server as tasks

Between two awaits a handler of the server runs without interruption.  This
module names the places where a handler can be suspended, one constructor of
`ServerTask` for each await, with the local variables that are still needed
there.  `ServerTask.resume` is what the handler does from there to its next
await.

The names are justified in `Unisockets.Signaling.ServerBridge`, which maps
every task to the suspended program of `Unisockets.Signaling.Server` that it
stands for.
-/

namespace Unisockets.Signaling

open JsStd

/-- A suspended handler.  The tasks `…ing`, `shutdownPort`, `shutdownAddress`,
`goodbyeAddress`, `releaseAddress` and `releasePort` wait for the mutex, but
for `knockSearching` and `connectSearching`, which hold it; the others have
awaited a promise that is resolved. -/
inductive ServerTask where
  /-- `onMessage`, after `this.receive(operation)`. -/
  | received (operation : Operation) (client : Socket)
  | knockCreating (data : IKnockData) (client : Socket)
  | knockSearching (data : IKnockData) (client : Socket) (newSuffix : Nat)
  | knockCreated (client : Socket) (id : String)
  | knockAcknowledged (client : Socket) (id : String)
  | bindClaiming (data : IBindData)
  | bindClaimed (data : IBindData)
  | shutdownPort (data : IShutdownData)
  | shutdownPortRemoved (data : IShutdownData)
  | shutdownAddress (data : IShutdownData)
  | shutdownAddressRemoved (data : IShutdownData)
  | connectCreating (data : IConnectData)
  | connectSearching (data : IConnectData) (newPort : Nat)
  | connectCreated (data : IConnectData) (clientAlias : String)
  | connectRejecting (data : IConnectData) (clientAlias : String) (client : Option Socket)
  | connectRejected (data : IConnectData) (clientAlias : String) (client : Option Socket)
  | connectClientNotified (data : IConnectData) (clientAlias : String) (client : Socket)
  | connectServerNotified (data : IConnectData) (clientAlias : String) (client : Socket)
      (serverId : String) (server : Socket)
  | connectServerAccepted (data : IConnectData) (client : Socket) (serverId : String)
  | goodbyeAddress (id : String)
  | goodbyeAddressRemoved (id : String)
  | releaseAddress (id tcpAddress : String)
  | releaseAddressRemoved (id tcpAddress : String)
  | releasePort (id tcpAddress : String)
  | releasePortRemoved (id tcpAddress : String)
  deriving DecidableEq, Repr

namespace Server

/-! ## What a handler does in one go -/

/-- `send` to a socket. -/
def sent (s : Server) (client : Socket) (operation : Operation) : Server :=
  { s with outbox := s.outbox ++ [(client, operation)] }

/-- `send` to a client that may be missing; the call throws then. -/
def reply (s : Server) (client : Option Socket) (operation : Operation) : Server :=
  match client with
  | some client => s.sent client operation
  | none => s

/-- `sendToAll`. -/
def broadcast (s : Server) (operation : Operation) : Server :=
  { s with outbox := s.outbox ++ s.clients.values.map fun client => (client, operation) }

/-- The greetings of `handleKnock`. -/
def greet (s : Server) (id : String) : Server :=
  { s with outbox := s.outbox ++ (s.clients.entries.filter fun existing =>
      existing.1 ≠ id).map fun existing =>
        (existing.2, .greeting { offererId := existing.1, answererId := id }) }

/-- `clients.set` and `registerGoodbye`. -/
def register (s : Server) (id : String) (client : Socket) : Server :=
  { s with
    clients := s.clients.set id client
    closeListeners := s.closeListeners ++ [(client, id)] }

/-- A critical section that is left again at once. -/
def locked (s : Server) (subnets : Subnets) : Server :=
  { s with subnets := subnets, subnetsMutex := false }

/-- `handleAccepting`. -/
def accepting (s : Server) (data : IAcceptingData) : Server :=
  if (s.aliases.get data.alias).any fun entry => entry.id = data.id then
    { s with aliases := s.aliases.set data.alias ⟨data.id, true⟩ }
  else s

/-- The sweep of the `close` listener over `aliases`. -/
def sweep (s : Server) (id : String) : Server :=
  { s with aliases := s.aliases.filter fun _ entry => entry.id ≠ id }

/-- The aliases that the sweep deletes, in the order of the table. -/
def owned (s : Server) (id : String) : List String :=
  (s.aliases.entries.filter fun entry => entry.2.id = id).map Prod.fst

/-- The ids that the `close` event of a socket says goodbye to. -/
def closing (s : Server) (client : Socket) : List String :=
  (s.closeListeners.filter fun entry => entry.1 = client).map Prod.snd

/-- The `close` event, up to the awaits of its listeners. -/
def closed (s : Server) (client : Socket) : Server :=
  { s with
    clients := s.clients.filter fun id _ => id ∉ s.closing client
    closeListeners := s.closeListeners.filter fun entry => entry.1 ≠ client }

end Server

namespace ServerTask

/-- The messages that the handlers send to announce a change of an alias. -/
def announce (id tcpAddress : String) (set : Bool) : Operation :=
  .alias { id := id, «alias» := tcpAddress, set := set }

/-- Whether a task waits for the mutex. -/
def waits : ServerTask → Bool
  | .knockCreating .. | .bindClaiming .. | .shutdownPort .. | .shutdownAddress ..
  | .connectCreating .. | .connectRejecting .. | .goodbyeAddress .. | .releaseAddress ..
  | .releasePort .. => true
  | _ => false

/-- Whether a task can be resumed. -/
def ready (t : ServerTask) (s : Server) : Bool := !t.waits || !s.subnetsMutex

/-- `handleOperation`, up to its first await. -/
def handle (operation : Operation) (client : Socket) (s : Server) :
    Server × List ServerTask :=
  match operation with
  | .knock data => (s, [.knockCreating data client])
  | .offer data => (s.reply (s.clients.get data.answererId) (.offer data), [])
  | .answer data => (s.reply (s.clients.get data.offererId) (.answer data), [])
  | .candidate data => (s.reply (s.clients.get data.answererId) (.candidate data), [])
  | .bind data =>
    if s.aliases.has data.alias then
      (s.reply (s.clients.get data.id) (announce data.id data.alias false), [])
    else (s, [.bindClaiming data])
  | .accepting data => (s.accepting data, [])
  | .shutdown data =>
    if (s.aliases.get data.alias).any fun entry => entry.id = data.id then
      ({ s with aliases := s.aliases.delete data.alias }, [.shutdownPort data])
    else (s.reply (s.clients.get data.id) (announce data.id data.alias true), [])
  | .connect data => (s, [.connectCreating data])
  | _ => (s, [])

/-- `handleConnect`, from the alias of the new connection to the next await. -/
def handleConnect (data : IConnectData) (clientAlias : String) (s : Server) :
    Server × List ServerTask :=
  if (s.aliases.get data.remoteAlias).any MAlias.accepting then
    let s' := { s with aliases := s.aliases.set clientAlias ⟨data.id, false⟩ }
    match s.clients.get data.id with
    | some client => (s'.sent client (.alias {
        id := data.id
        «alias» := clientAlias
        set := true
        clientConnectionId := some data.clientConnectionId
        isConnectionAlias := some true }), [.connectClientNotified data clientAlias client])
    | none => (s', [])
  else (s, [.connectRejecting data clientAlias (s.clients.get data.id)])

/-- What a task does from the await where it is suspended to the next one: the
new state and the tasks it leaves behind. -/
def resume : ServerTask → Server → Server × List ServerTask
  | .received operation client, s => handle operation client s
  | .knockCreating data client, s =>
    ({ s with subnets := s.subnets.ensure data.subnet, subnetsMutex := true },
      [.knockSearching data client ((s.subnets.ensure data.subnet).nextSuffix data.subnet)])
  | .knockSearching data client newSuffix, s =>
    if newSuffix > 255 then (s.locked s.subnets, [.knockCreated client "-1"])
    else (s.locked (s.subnets.setMember ⟨data.subnet, newSuffix⟩ ⟨[]⟩),
      [.knockCreated client (toIPAddress data.subnet newSuffix)])
  | .knockCreated client id, s =>
    if id = "-1" then (s.sent client (.acknowledged { id := id, rejected := true }), [])
    else (s.sent client (.acknowledged { id := id, rejected := false }),
      [.knockAcknowledged client id])
  | .knockAcknowledged client id, s => ((s.greet id).register id client, [])
  | .bindClaiming data, s =>
    match s.subnets.claim data.alias with
    | .ok subnets => (s.locked subnets, [.bindClaimed data])
    | .error _ => (s.locked s.subnets, [])
  | .bindClaimed data, s =>
    (({ s with aliases := s.aliases.set data.alias ⟨data.id, false⟩ } : Server).broadcast
      (announce data.id data.alias true), [])
  | .shutdownPort data, s =>
    (s.locked (s.subnets.removeTCPAddress data.alias), [.shutdownPortRemoved data])
  | .shutdownPortRemoved data, s => (s, [.shutdownAddress data])
  | .shutdownAddress data, s =>
    (s.locked (s.subnets.removeIPAddress data.alias), [.shutdownAddressRemoved data])
  | .shutdownAddressRemoved data, s => (s.broadcast (announce data.id data.alias false), [])
  | .connectCreating data, s =>
    let key := parseIPAddress data.id
    if (s.subnets.member key).isSome then
      ({ s with subnets := s.subnets.sortPorts key, subnetsMutex := true },
        [.connectSearching data ((s.subnets.sortPorts key).nextPort key)])
    else (s.locked s.subnets, [])
  | .connectSearching data newPort, s =>
    let key := parseIPAddress data.id
    (s.locked (s.subnets.pushPort key newPort),
      [.connectCreated data (toTCPAddress (toIPAddress key.subnet key.suffix) newPort)])
  | .connectCreated data clientAlias, s => handleConnect data clientAlias s
  | .connectRejecting data clientAlias client, s =>
    (s.locked (s.subnets.removeTCPAddress clientAlias),
      [.connectRejected data clientAlias client])
  | .connectRejected data clientAlias client, s =>
    (s.reply client (.alias {
      id := data.id
      «alias» := clientAlias
      set := false
      clientConnectionId := some data.clientConnectionId }), [])
  | .connectClientNotified data clientAlias client, s =>
    match (s.aliases.get data.remoteAlias).map MAlias.id with
    | none => (s, [])
    | some serverId =>
      match s.clients.get serverId with
      | none => (s, [])
      | some server => (s.sent server (announce data.id clientAlias true),
          [.connectServerNotified data clientAlias client serverId server])
  | .connectServerNotified data clientAlias client serverId server, s =>
    (s.sent server (.accept { boundAlias := data.remoteAlias, clientAlias := clientAlias }),
      [.connectServerAccepted data client serverId])
  | .connectServerAccepted data client serverId, s =>
    (s.sent client (.alias {
      id := serverId
      «alias» := data.remoteAlias
      set := true
      clientConnectionId := some data.clientConnectionId }), [])
  | .goodbyeAddress id, s =>
    (s.locked (s.subnets.removeIPAddress id), [.goodbyeAddressRemoved id])
  | .goodbyeAddressRemoved id, s =>
    ((s.sweep id).broadcast (.goodbye { id := id }), (s.owned id).map (.releaseAddress id))
  | .releaseAddress id tcpAddress, s =>
    (s.locked (s.subnets.removeIPAddress tcpAddress), [.releaseAddressRemoved id tcpAddress])
  | .releaseAddressRemoved id tcpAddress, s => (s, [.releasePort id tcpAddress])
  | .releasePort id tcpAddress, s =>
    (s.locked (s.subnets.removeTCPAddress tcpAddress), [.releasePortRemoved id tcpAddress])
  | .releasePortRemoved id tcpAddress, s => (s.broadcast (announce id tcpAddress false), [])

/-- The handlers of the server. -/
def system : TaskSystem Server ServerTask where
  ready := ready
  resume := resume

end ServerTask

end Unisockets.Signaling
