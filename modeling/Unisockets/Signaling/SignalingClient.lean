import Unisockets.JsStd.Emittery
import Unisockets.JsStd.Map
import Unisockets.Signaling.Operation

/-!
# The signaling client

`SignalingClient` of `signaling-client.ts`, with the alias table that the
worker keeps for it (`handleAlias` of `worker.ts`).

A call of `bind`, `accept`, `shutdown` or `connect` puts one listener on the
`asyncResolver` and sends one message; its promise is settled by the listener.
The call is known by a number, and so is the message that is being handled when
a listener runs: `Call.answeredBy` notes which message settled the promise, and
nothing reads it.

`handleOperation` is the list of the calls it awaits, one after the other.
`isBinded` and `acceptsEvents` are left out, since nothing reads them, and so
are the callbacks that do not come back to the client.
-/

namespace Unisockets.Signaling

open JsStd

/-! ## Calls -/

/-- The methods that wait for the server, with their arguments.  `connect` draws
its `clientConnectionId` itself. -/
inductive Request where
  | bind («alias» : String)
  | accept («alias» : String)
  | shutdown («alias» : String)
  | connect (clientConnectionId remoteAlias : String)
  deriving DecidableEq, Repr

inductive Promise where
  | pending
  | resolved (value : Option String)
  | rejected (reason : String)
  deriving DecidableEq, Repr

/-- What an event carries. -/
inductive EventData where
  /-- The JSON text of `notifyConnect`. -/
  | connection (set : Bool) («alias» : String) (isConnectionAlias : Bool)
  /-- The flag of `notifyBindAndShutdown`. -/
  | set (set : Bool)
  /-- The alias of `notifyAccept`. -/
  | clientAlias (clientAlias : String)
  deriving DecidableEq, Repr

def getAliasKey (id tcpAddress : String) : String := s!"alias id={id} alias={tcpAddress}"

def getConnectionKey (clientConnectionId : String) : String :=
  s!"connection id={clientConnectionId}"

def getAcceptKey (boundAlias : String) : String := s!"accept alias={boundAlias}"

namespace Request

/-- The message of a call, under the id of the client. -/
def operation (id : String) : Request → Operation
  | .bind tcpAddress => .bind { id := id, «alias» := tcpAddress }
  | .accept tcpAddress => .accepting { id := id, «alias» := tcpAddress }
  | .shutdown tcpAddress => .shutdown { id := id, «alias» := tcpAddress }
  | .connect clientConnectionId remoteAlias => .connect {
      id := id
      remoteAlias := remoteAlias
      clientConnectionId := clientConnectionId }

/-- The event that the listener of a call waits for. -/
def eventName (id : String) : Request → String
  | .bind tcpAddress => getAliasKey id tcpAddress
  | .accept tcpAddress => getAcceptKey tcpAddress
  | .shutdown tcpAddress => getAliasKey id tcpAddress
  | .connect clientConnectionId _ => getConnectionKey clientConnectionId

/-- Whether the listener was added with `once`. -/
def once : Request → Bool
  | .connect .. => false
  | _ => true

end Request

/-- A call, with the local variables of its listener. -/
structure Call where
  request : Request
  /-- `this.id` at the call. -/
  id : String
  i : Nat := 0
  «alias» : String := ""
  promise : Promise := .pending
  answeredBy : Option Nat := none
  deriving DecidableEq, Repr

namespace Call

/-- `res` and `rej`; a promise is settled once. -/
def settle (call : Call) (number : Nat) (promise : Promise) : Call :=
  if call.promise = .pending then
    { call with promise := promise, answeredBy := some number }
  else call

def eventName (call : Call) : String := call.request.eventName call.id

/-- The listener of `connect` counts an `Alias` that is set and remembers the one
of the connection. -/
def count (call : Call) (newAlias : String) (isConnectionAlias : Bool) : Call :=
  { call with
    i := call.i + 1
    «alias» := if isConnectionAlias then newAlias else call.alias }

/-- The listener of a call.  `id` is the id of the client at that time.  The
names of the events keep their data apart. -/
def notify (call : Call) (id : String) (number : Nat) (data : EventData) : Call :=
  match call.request, data with
  | .bind tcpAddress, .set set =>
    if set then call.settle number (.resolved none)
    else call.settle number
      (.rejected s!"bind rejected by server: {getAliasKey id tcpAddress}")
  | .shutdown tcpAddress, .set set =>
    if set then call.settle number
      (.rejected s!"shutdown rejected by server: {getAliasKey id tcpAddress}")
    else call.settle number (.resolved none)
  | .accept _, .clientAlias clientAlias => call.settle number (.resolved (some clientAlias))
  | .connect clientConnectionId _, .connection set newAlias isConnectionAlias =>
    if set then
      let call := call.count newAlias isConnectionAlias
      if call.i ≥ 2 then call.settle number (.resolved (some call.alias)) else call
    else call.settle number
      (.rejected s!"connection rejected by server: {getConnectionKey clientConnectionId}")
  | _, _ => call

end Call

/-! ## The client -/

inductive ReadyState where
  | CONNECTING
  | OPEN
  | CLOSED
  deriving DecidableEq, Repr

structure WebSocket where
  socket : Socket
  readyState : ReadyState
  deriving DecidableEq, Repr

structure SignalingClient where
  id : String := ""
  isConnected : Bool := false
  client : Option WebSocket := none
  subnet : String
  parentWsId : String
  /-- The listeners of `asyncResolver`: the name of the event and the call. -/
  asyncResolver : List (String × Nat) := []
  calls : Map Nat Call := .empty
  aliasesHolder : Map String String := .empty

namespace SignalingClient

/-- The socket that takes what `send` is given.  A missing or connecting socket
throws, which the promise of the caller does not notice; a closed one drops the
message. -/
def outgoing (c : SignalingClient) : Option Socket :=
  match c.client with
  | some ⟨socket, .OPEN⟩ => some socket
  | _ => none

/-- `bind`, `accept`, `shutdown` and `connect`, up to `send`. -/
def request (c : SignalingClient) (number : Nat) (r : Request) : SignalingClient :=
  { c with
    asyncResolver := c.asyncResolver ++ [(r.eventName c.id, number)]
    calls := c.calls.set number { request := r, id := c.id } }

/-- The listeners of an event. -/
def listeners (c : SignalingClient) (eventName : String) : List (String × Nat) :=
  c.asyncResolver.filter fun listener => listener.1 = eventName

/-- One listener is called; `once` takes it off first. -/
def call (c : SignalingClient) (number : Nat) (data : EventData) (listener : String × Nat) :
    SignalingClient :=
  match c.calls.get listener.2 with
  | some call => { c with
      asyncResolver := if call.request.once then
        c.asyncResolver.filter fun other => other ≠ listener else c.asyncResolver
      calls := c.calls.set listener.2 (call.notify c.id number data) }
  | none => c

/-- The listeners of an event are called in turn. -/
def callAll (c : SignalingClient) (number : Nat) (data : EventData)
    (listeners : List (String × Nat)) : SignalingClient :=
  listeners.foldl (fun c => c.call number data) c

/-- `handleAlias` of the worker. -/
def handleAlias (c : SignalingClient) (id tcpAddress : String) (set : Bool) : SignalingClient :=
  { c with aliasesHolder :=
      if set then c.aliasesHolder.set tcpAddress id else c.aliasesHolder.delete tcpAddress }

end SignalingClient

/-! ## Messages -/

/-- What `handleOperation` awaits. -/
inductive ClientAction where
  /-- The assignments to `id` and `isConnected`. -/
  | acknowledge (id : String)
  | emit (eventName : String) (data : EventData)
  /-- `emit`, with the listeners it has taken note of. -/
  | emitting (eventName : String) (data : EventData) (listeners : List (String × Nat))
  | onAlias (id tcpAddress : String) (set : Bool)
  deriving DecidableEq, Repr

namespace SignalingClient

/-- `handleOperation`. -/
def handleOperation : Operation → List ClientAction
  | .acknowledged data => [.acknowledge data.id]
  | .alias data =>
    match data.clientConnectionId.filter fun clientConnectionId => clientConnectionId ≠ "" with
    | some clientConnectionId =>
      [.emit (getConnectionKey clientConnectionId)
        (.connection data.set data.alias (data.isConnectionAlias = some true)),
        .onAlias data.id data.alias data.set]
    | none =>
      [.emit (getAliasKey data.id data.alias) (.set data.set),
        .onAlias data.id data.alias data.set]
  | .accept data =>
    (match data.clientId with
      | some clientId => [.onAlias clientId (data.alias.getD "undefined") true]
      | none => []) ++
    [.emit (getAcceptKey data.boundAlias) (.clientAlias data.clientAlias)]
  | _ => []

/-- One step of `handleOperation`: the client after it and what is left to do. -/
def step (E : Emittery (String × Nat)) (number : Nat) (c : SignalingClient) :
    List ClientAction → SignalingClient × List ClientAction
  | [] => (c, [])
  | .acknowledge id :: rest => ({ c with id := id, isConnected := true }, rest)
  | .emit eventName data :: rest =>
    (c, .emitting eventName data (c.listeners eventName) :: rest)
  | .emitting eventName data before :: rest =>
    (c.callAll number data (E.called before (c.listeners eventName)), rest)
  | .onAlias id tcpAddress set :: rest => (c.handleAlias id tcpAddress set, rest)

end SignalingClient

end Unisockets.Signaling
