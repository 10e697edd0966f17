import Unisockets.JsStd.Async
import Unisockets.Signaling.Subnets

/-!
# The signaling server

`SignalingServer` of `signaling-server.ts`, with its three tables, the mutex
of the registry and the `close` listeners it has put on its sockets.  Every
method is an `Async` program with the awaits of the source.  Three things are
left out because no state depends on them: the log lines, the awaits that only
a log line or the end of a handler follows, and the keep-alive pings of `open`.

The `subnetsMutex` of the package `async-mutex` is a flag: `acquire` waits
until it is down and puts it up, `release` puts it down again.  Which of
several waiting handlers gets the mutex is left open.

`outbox` is the history of everything that was sent, oldest first.  No method
reads it.
-/

namespace Unisockets.Signaling

open JsStd Async

/-- `MAlias`: the owner of an alias and whether it accepts connections. -/
structure MAlias where
  id : String
  accepting : Bool
  deriving DecidableEq, Repr

/-- The state of the server. -/
structure Server where
  clients : Map String Socket := .empty
  aliases : Map String MAlias := .empty
  subnets : Subnets := .empty
  subnetsMutex : Bool := false
  /-- The sockets with a `close` listener of `registerGoodbye`, and its `id`. -/
  closeListeners : List (Socket × String) := []
  outbox : List (Socket × Operation) := []

/-- A method of the server. -/
abbrev Handler := Async Server SignalingError

namespace Server

/-- `send` of `signaling-service.ts`. -/
def send (client : Option Socket) (operation : Operation) : Handler Unit :=
  match client with
  | some client => modify fun s => { s with outbox := s.outbox ++ [(client, operation)] }
  | none => throw .ClientClosedError

/-- `clients.forEach(async (client) => await this.send(client, operation))`. -/
def sendToAll (operation : Operation) : Handler Unit := do
  (← get).clients.values.forM fun client => send (some client) operation

/-! ## The registry under its mutex -/

def acquire : Handler Unit := do
  until_ fun s => !s.subnetsMutex
  modify fun s => { s with subnetsMutex := true }

def release : Handler Unit := modify fun s => { s with subnetsMutex := false }

def createIPAddress (subnet : String) : Handler String := do
  acquire
  try
    modify fun s => { s with subnets := s.subnets.ensure subnet }
    let newSuffix := (← get).subnets.nextSuffix subnet
    tick
    if newSuffix > 255 then
      pure "-1"
    else
      modify fun s => { s with subnets := s.subnets.setMember ⟨subnet, newSuffix⟩ ⟨[]⟩ }
      pure (toIPAddress subnet newSuffix)
  finally
    release

def createTCPAddress (ipAddress : String) : Handler String := do
  acquire
  try
    let key := parseIPAddress ipAddress
    if (← get).subnets.has key.subnet then
      if ((← get).subnets.member key).isSome then
        modify fun s => { s with subnets := s.subnets.sortPorts key }
        let newPort := (← get).subnets.nextPort key
        tick
        modify fun s => { s with subnets := s.subnets.pushPort key newPort }
        pure (toTCPAddress (toIPAddress key.subnet key.suffix) newPort)
      else
        throw .SuffixDoesNotExistError
    else
      throw .SubnetDoesNotExistError
  finally
    release

def claimTCPAddress (tcpAddress : String) : Handler Unit := do
  acquire
  try
    let key := ipAddressOf tcpAddress
    let port := portOf tcpAddress
    if (← get).subnets.has key.subnet then
      if ((← get).subnets.member key).isNone then
        modify fun s => { s with subnets := s.subnets.setMember key ⟨[]⟩ }
      if ((← get).subnets.ports key).any fun p => p.strictEq port then
        throw .PortAlreadyAllocatedError
      else
        modify fun s => { s with subnets := s.subnets.pushPort key port }
    else
      throw .SubnetDoesNotExistError
  finally
    release

def removeIPAddress (ipAddress : String) : Handler Unit := do
  acquire
  try
    modify fun s => { s with subnets := s.subnets.removeIPAddress ipAddress }
  finally
    release

def removeTCPAddress (tcpAddress : String) : Handler Unit := do
  acquire
  try
    modify fun s => { s with subnets := s.subnets.removeTCPAddress tcpAddress }
  finally
    release

/-! ## Disconnects -/

/-- The callback of `aliases.forEach` in the `close` listener. -/
def removeAlias (id tcpAddress : String) : Handler Unit := do
  modify fun s => { s with aliases := s.aliases.delete tcpAddress }
  call (removeIPAddress tcpAddress)
  call (removeTCPAddress tcpAddress)
  sendToAll (.alias { id := id, «alias» := tcpAddress, set := false })

/-- The `close` listener that `registerGoodbye` puts on the socket of `id`. -/
def onClose (id : String) : Handler Unit := do
  modify fun s => { s with clients := s.clients.delete id }
  call (removeIPAddress id)
  (← get).aliases.entries.forM fun entry =>
    if entry.2.id = id then start (removeAlias id entry.1) else pure ()
  sendToAll (.goodbye { id := id })

def registerGoodbye (id : String) : Handler Unit := do
  match (← get).clients.get id with
  | some client =>
    modify fun s => { s with closeListeners := s.closeListeners ++ [(client, id)] }
  | none => throw .ClientDoesNotExistError

/-! ## The handlers -/

def handleKnock (data : IKnockData) (client : Socket) : Handler Unit := do
  let id ← call (createIPAddress data.subnet)
  if id ≠ "-1" then
    call (send (some client) (.acknowledged { id := id, rejected := false }))
    (← get).clients.entries.forM fun existing =>
      if existing.1 ≠ id then
        send (some existing.2) (.greeting { offererId := existing.1, answererId := id })
      else pure ()
    modify fun s => { s with clients := s.clients.set id client }
    registerGoodbye id
  else
    send (some client) (.acknowledged { id := id, rejected := true })

def handleOffer (data : IOfferData) : Handler Unit := do
  send ((← get).clients.get data.answererId) (.offer data)

def handleAnswer (data : IAnswerData) : Handler Unit := do
  send ((← get).clients.get data.offererId) (.answer data)

def handleCandidate (data : ICandidateData) : Handler Unit := do
  send ((← get).clients.get data.answererId) (.candidate data)

def handleBind (data : IBindData) : Handler Unit := do
  if (← get).aliases.has data.alias then
    send ((← get).clients.get data.id)
      (.alias { id := data.id, «alias» := data.alias, set := false })
  else
    call (claimTCPAddress data.alias)
    modify fun s => { s with aliases := s.aliases.set data.alias ⟨data.id, false⟩ }
    sendToAll (.alias { id := data.id, «alias» := data.alias, set := true })

def handleAccepting (data : IAcceptingData) : Handler Unit := do
  match (← get).aliases.get data.alias with
  | some entry =>
    if entry.id ≠ data.id then pure ()
    else modify fun s => { s with aliases := s.aliases.set data.alias ⟨data.id, true⟩ }
  | none => pure ()

def handleShutdown (data : IShutdownData) : Handler Unit := do
  if ((← get).aliases.get data.alias).any fun entry => entry.id = data.id then
    modify fun s => { s with aliases := s.aliases.delete data.alias }
    call (removeTCPAddress data.alias)
    call (removeIPAddress data.alias)
    sendToAll (.alias { id := data.id, «alias» := data.alias, set := false })
  else
    send ((← get).clients.get data.id)
      (.alias { id := data.id, «alias» := data.alias, set := true })

def handleConnect (data : IConnectData) : Handler Unit := do
  let clientAlias ← call (createTCPAddress data.id)
  let client := (← get).clients.get data.id
  if !((← get).aliases.get data.remoteAlias).any MAlias.accepting then
    call (removeTCPAddress clientAlias)
    send client (.alias {
      id := data.id
      «alias» := clientAlias
      set := false
      clientConnectionId := some data.clientConnectionId })
  else
    modify fun s => { s with aliases := s.aliases.set clientAlias ⟨data.id, false⟩ }
    call (send client (.alias {
      id := data.id
      «alias» := clientAlias
      set := true
      clientConnectionId := some data.clientConnectionId
      isConnectionAlias := some true }))
    match (← get).aliases.get data.remoteAlias with
    | none => throw .TypeError
    | some serverId =>
      let server := (← get).clients.get serverId.id
      call (send server (.alias { id := data.id, «alias» := clientAlias, set := true }))
      call (send server (.accept {
        boundAlias := data.remoteAlias
        clientAlias := clientAlias }))
      send client (.alias {
        id := serverId.id
        «alias» := data.remoteAlias
        set := true
        clientConnectionId := some data.clientConnectionId })

def handleOperation (operation : Operation) (client : Socket) : Handler Unit :=
  match operation with
  | .knock data => handleKnock data client
  | .offer data => handleOffer data
  | .answer data => handleAnswer data
  | .candidate data => handleCandidate data
  | .bind data => handleBind data
  | .accepting data => handleAccepting data
  | .shutdown data => handleShutdown data
  | .connect data => handleConnect data
  | operation => throw (.UnimplementedOperationError operation.opcode)

/-! ## The events of a socket -/

/-- The `message` listener of `open`: the handler starts after
`await this.receive(operation)`. -/
def onMessage (operation : Operation) (client : Socket) : Handler Unit := do
  tick
  handleOperation operation client

/-- The `close` event of a socket runs its listeners in the order in which they
were registered. -/
def close (client : Socket) : Handler Unit := do
  let listeners := (← get).closeListeners.filter fun entry => entry.1 = client
  modify fun s => { s with
    closeListeners := s.closeListeners.filter fun entry => entry.1 ≠ client }
  listeners.forM fun entry => start (onClose entry.2)

end Server

end Unisockets.Signaling
