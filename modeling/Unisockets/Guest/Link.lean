import Unisockets.Guest.ByteStream
import Unisockets.Guest.Close

/-!
# Connections between the same two clients

Two clients connect to each other's aliases any number of times.  `connect` and
`accept` put the alias and the id of the client into the bind of a descriptor, the
worker looks up whose alias it is, and the transporter sends and receives under
that id and the id of the client.  So the descriptors of all connections between
two clients share one channel and one queue.

The model has both workers with their tables, the channel in both directions and any
number of calls of `recv`: a thread makes one call at a time, but the threads of a
page share their descriptors.  The server appears as the handshakes that it has
given to a connect and an accept.  `connections` and `origins` are there for the
proof: the connection of a descriptor, and where the messages of the queue come from.

A message is returned at the other end of its connection (`Isolated`) as long as the
two clients use one connection at a time in each direction (`Undisturbed`).
-/

namespace Unisockets.Guest

open JsStd Transition Transport

/-! ## Two clients -/

/-- One of the two clients. -/
inductive Side where
  | left
  | right
  deriving DecidableEq, Repr

def Side.other : Side → Side
  | left => right
  | right => left

/-- An Accept of the server: a connect of one client and an accept of the other one
get the same alias, and each has its descriptor once it has returned. -/
structure Handshake where
  connector : Side
  clientAlias : String
  connected : Option Nat := none
  accepted : Option Nat := none
  deriving DecidableEq, Repr

/-- The end of a connection at a client. -/
def Handshake.fd (h : Handshake) (s : Side) : Option Nat :=
  if s = h.connector then h.connected else h.accepted

/-- Where a message comes from: the connection and the descriptor that it was sent on. -/
structure Origin where
  connection : Nat
  fd : Nat
  deriving DecidableEq, Repr

/-- A call of `recv` that is under way. -/
structure RecvCall where
  fd : Nat
  /-- The connection of the descriptor. -/
  connection : Option Nat
  stage : RecvStage := .posted
  /-- Where the message that it has got comes from. -/
  origin : Option Origin := none
  deriving DecidableEq, Repr

namespace RecvCall

/-- The call has not got a message. -/
def Pending (call : RecvCall) : Prop := call.stage = .posted ∨ ∃ n, call.stage = .awaiting n

/-- A listener has been called with a message. -/
def resolve (called : List Nat) (msg : Uint8Array) (origin : Option Origin) (call : RecvCall) :
    RecvCall :=
  match call.stage with
  | .awaiting n =>
    if n ∈ called then { call with stage := .resolved msg, origin := origin } else call
  | _ => call

end RecvCall

/-- A client: its worker, its page as far as it receives from the other client, and
what is on its way to it. -/
structure Client where
  sockets : Sockets := {}
  aliasesHolder : Map String String := .empty
  transporter : Transporter := {}
  incoming : List (Uint8Array × Option Origin) := []
  emissions : List (Uint8Array × Option Origin × List Nat) := []
  calls : Nat → Option RecvCall := fun _ => none
  nextCall : Nat := 0
  /-- The connection of a descriptor whose bind is that of a `connect` or an `accept`. -/
  connections : Nat → Option Nat := fun _ => none
  /-- Where the messages of the queue come from. -/
  origins : List (Option Origin) := []

namespace Client

inductive WorkerError where
  | AliasDoesNotExistError
  deriving DecidableEq, Repr

/-- The `remoteId` and the `localId` of the `wrtcSend` that is posted.  An alias that is
not known is only written to the log. -/
def handleExternalSend (c : Client) (tcpAddress connectorId : String) :
    Option (String × String) :=
  (c.aliasesHolder.get tcpAddress).map fun remoteId => (remoteId, connectorId)

/-- The `remoteId` and the `localId` of the `wrtcRecv` that is posted. -/
def handleExternalRecv (c : Client) (tcpAddress connectorId : String) :
    Except WorkerError (String × String) :=
  match c.aliasesHolder.get tcpAddress with
  | some remoteId => .ok (remoteId, connectorId)
  | none => .error .AliasDoesNotExistError

def handleAlias (c : Client) (id tcpAddress : String) (set : Bool) : Client :=
  { c with aliasesHolder :=
      if set then c.aliasesHolder.set tcpAddress id else c.aliasesHolder.delete tcpAddress }

/-- The connections of the descriptors whose binds are still the same. -/
def keeps (c : Client) (sockets : Sockets) (fd : Nat) : Option Nat :=
  if sockets.binds.get fd = c.sockets.binds.get fd then c.connections fd else none

/-- A message from this origin is on its way to the client, or in its queue. -/
def UnderWay (c : Client) (o : Origin) : Prop :=
  some o ∈ c.incoming.map Prod.snd ∨ some o ∈ c.origins

section Receive

variable (E : Emittery Nat) (remoteId localId : String)

/-- A message reaches the page: `queueAndEmitMessage`. -/
def deliver (c : Client) : Option Client :=
  match c.incoming with
  | [] => none
  | (msg, origin) :: incoming =>
    match c.transporter.queueAndEmitMessage remoteId localId msg with
    | (t, .ok calls) => some { c with
        transporter := t
        incoming := incoming
        emissions := c.emissions ++ [(msg, origin, calls)]
        origins := if (c.transporter.queue remoteId localId).isSome then c.origins ++ [origin]
          else c.origins }
    | (t, .error _) => some { c with transporter := t, incoming := incoming }

/-- The oldest emission calls its listeners. -/
def emit (c : Client) : Option Client :=
  match c.emissions with
  | [] => none
  | (msg, origin, calls) :: emissions =>
    let key := getMessageKey remoteId localId
    let called := E.called calls (c.transporter.listeners key)
    some { c with
      transporter := c.transporter.off key called
      emissions := emissions
      calls := fun n => (c.calls n).map (RecvCall.resolve called msg origin) }

def recv (c : Client) (fd : Nat) : Option Client :=
  match c.sockets.binds.get fd with
  | some bind =>
    if (c.handleExternalRecv bind.alias bind.connectorId).toOption = some (remoteId, localId) then
      some { c with
        calls := Function.update c.calls c.nextCall (some {
          fd := fd
          connection := c.connections fd })
        nextCall := c.nextCall + 1 }
    else none
  | none => none

/-- `handleWrtcRecv`. -/
def handle (c : Client) (n : Nat) : Option Client :=
  match c.calls n with
  | some call =>
    if call.stage = .posted then
      match c.transporter.recv remoteId localId n with
      | (t, some msg) => some { c with
          transporter := t
          origins := c.origins.tail
          calls := Function.update c.calls n (some { call with
            stage := .answered msg
            origin := c.origins.head?.join }) }
      | (t, none) => some { c with
          transporter := t
          calls := Function.update c.calls n (some { call with stage := .awaiting n }) }
    else none
  | none => none

/-- `Transporter.recv` goes on after its await. -/
def resume (c : Client) (n : Nat) : Option Client :=
  match c.calls n with
  | some call =>
    match call.stage, c.transporter.recvResolved remoteId localId with
    | .resolved msg, .ok t => some { c with
        transporter := t
        origins := c.origins.tail
        calls := Function.update c.calls n (some { call with stage := .answered msg }) }
    | _, _ => none
  | none => none

/-- `recv` returns. -/
def finish (c : Client) (n : Nat) : Option Client :=
  match c.calls n with
  | some call =>
    match call.stage with
    | .answered _ => some { c with calls := Function.update c.calls n none }
    | _ => none
  | none => none

/-- What else happens on the page leaves the queue and the calls that wait alone. -/
def setPage (c : Client) (t : Transporter) : Option Client :=
  if (t.queue remoteId localId).getD [] = (c.transporter.queue remoteId localId).getD [] ∧
      t.listeners (getMessageKey remoteId localId) =
        c.transporter.listeners (getMessageKey remoteId localId) then
    some { c with transporter := t }
  else none

end Receive

end Client

structure Link where
  clients : Side → Client
  handshakes : List Handshake := []

inductive LinkStep where
  /-- A call that makes no connection. -/
  | tables (s : Side) (call : SocketsCall)
  /-- The server sends an Accept. -/
  | handshake (connector : Side) (clientAlias : String)
  /-- `connect` returns, with the alias of a handshake. -/
  | connect (s : Side) (x : External) (fd : Nat) (tcpAddress : String) (n : Nat)
  /-- `accept` returns, with the alias of a handshake. -/
  | accept (s : Side) (x : External) (serverFd n : Nat)
  /-- An Alias of the server. -/
  | handleAlias (s : Side) (id tcpAddress : String) (set : Bool)
  | send (s : Side) (fd : Nat) (msg : Uint8Array)
  /-- A message reaches the other page: `queueAndEmitMessage`. -/
  | deliver (s : Side)
  /-- The oldest emission calls its listeners. -/
  | emit (s : Side)
  | recv (s : Side) (fd : Nat)
  /-- `handleWrtcRecv`. -/
  | handle (s : Side) (n : Nat)
  /-- `Transporter.recv` goes on after its await. -/
  | resume (s : Side) (n : Nat)
  /-- `recv` returns. -/
  | finish (s : Side) (n : Nat)
  /-- What else happens on the page. -/
  | page (s : Side) (t : Transporter)

namespace Link

def set (p : Link) (s : Side) (c : Client) : Link :=
  { p with clients := Function.update p.clients s c }

def setHandshake (p : Link) (n : Nat) (h : Handshake) : Link :=
  { p with handshakes := p.handshakes.set n h }

section Next

variable (E : Emittery Nat) (ids : Side → String)

def next (p : Link) : LinkStep → Option Link
  | .tables s call =>
    let c := p.clients s
    let sockets := call.run c.sockets
    some (p.set s { c with sockets := sockets, connections := c.keeps sockets })
  | .handshake connector clientAlias =>
    some { p with handshakes := p.handshakes ++ [{
      connector := connector
      clientAlias := clientAlias }] }
  | .connect s x fd tcpAddress n =>
    let c := p.clients s
    let r := Sockets.call (Sockets.connect x fd tcpAddress) c.sockets
    match p.handshakes[n]? with
    | some h =>
      if h.connector = s ∧ h.connected = none ∧ r.1.toOption = some h.clientAlias then
        some ((p.set s { c with
          sockets := r.2
          connections := Function.update (c.keeps r.2) fd (some n) }).setHandshake n
            { h with connected := some fd })
      else none
    | none => none
  | .accept s x serverFd n =>
    let c := p.clients s
    let r := Sockets.call (Sockets.accept x serverFd) c.sockets
    match p.handshakes[n]?, r.1.toOption with
    | some h, some (clientFd, clientAlias) =>
      if h.connector = s.other ∧ h.accepted = none ∧ clientAlias = h.clientAlias then
        some ((p.set s { c with
          sockets := r.2
          connections := Function.update (c.keeps r.2) clientFd (some n) }).setHandshake n
            { h with accepted := some clientFd })
      else none
    | _, _ => none
  | .handleAlias s id tcpAddress set =>
    some (p.set s ((p.clients s).handleAlias id tcpAddress set))
  | .send s fd msg =>
    let c := p.clients s
    let d := p.clients s.other
    match c.sockets.binds.get fd with
    | some bind =>
      if c.handleExternalSend bind.alias bind.connectorId = some (ids s.other, ids s) ∧
          (c.transporter.openChannel (ids s.other) (ids s)).isSome then
        some (p.set s.other { d with
          incoming := d.incoming ++ [(msg, (c.connections fd).map fun n => ⟨n, fd⟩)] })
      else none
    | none => none
  | .deliver s => ((p.clients s).deliver (ids s.other) (ids s)).map (p.set s)
  | .emit s => ((p.clients s).emit E (ids s.other) (ids s)).map (p.set s)
  | .recv s fd => ((p.clients s).recv (ids s.other) (ids s) fd).map (p.set s)
  | .handle s n => ((p.clients s).handle (ids s.other) (ids s) n).map (p.set s)
  | .resume s n => ((p.clients s).resume (ids s.other) (ids s) n).map (p.set s)
  | .finish s n => ((p.clients s).finish n).map (p.set s)
  | .page s t => ((p.clients s).setPage (ids s.other) (ids s) t).map (p.set s)

def Step (p : Link) (a : LinkStep) (p' : Link) : Prop := p.next E ids a = some p'

/-- Nothing has been sent and nobody awaits anything. -/
def Initial (p : Link) : Prop :=
  ∃ t : Side → Transporter, (∀ s, ((t s).queue (ids s.other) (ids s)).getD [] = [] ∧
    (t s).listeners (getMessageKey (ids s.other) (ids s)) = []) ∧
      p = { clients := fun s => { transporter := t s } }

end Next

/-- The two ends of a connection: the one that a message was sent on, and a descriptor of
the client that gets it. -/
def Ends (p : Link) (o : Origin) (s : Side) (fd : Nat) : Prop :=
  ∃ h ∈ p.handshakes[o.connection]?, h.fd s.other = some o.fd ∧ h.fd s = some fd

instance (p : Link) (o : Origin) (s : Side) (fd : Nat) : Decidable (p.Ends o s fd) :=
  inferInstanceAs (Decidable (∃ h ∈ p.handshakes[o.connection]?, _ ∧ _))

end Link

/-- A run of the two clients, with its steps. -/
abbrev LinkRun (E : Emittery Nat) (ids : Side → String) :=
  Run (Link.Initial ids) (Link.Step E ids)

namespace LinkRun

/-- A message that was sent on a connected or accepted descriptor is returned at the other
end of its connection. -/
def IsolatedAt : Link × LinkStep → Prop
  | (p, .finish s n) => ∀ call ∈ (p.clients s).calls n, ∀ o ∈ call.origin, p.Ends o s call.fd
  | _ => True

def Isolated (steps : List (Link × LinkStep)) : Prop := ∀ z ∈ steps, IsolatedAt z

/-- The two clients use one connection at a time: a message is sent on it while nobody
awaits one on another connection at the other side, and `recv` is called on it while
no message of another connection is on its way or in the queue. -/
def Undisturbed : Link × LinkStep → Prop
  | (p, .send s fd _) => ∀ n call k, (p.clients s.other).calls n = some call → call.Pending →
      (p.clients s).connections fd = some k → call.connection = some k
  | (p, .recv s fd) => ∀ o, (p.clients s).UnderWay o →
      (p.clients s).connections fd = some o.connection
  | _ => True

instance (z : Link × LinkStep) : Decidable (IsolatedAt z) := by
  rcases z with ⟨p, a⟩
  cases a with
  | finish s n =>
    exact inferInstanceAs (Decidable (∀ call ∈ (p.clients s).calls n, ∀ o ∈ call.origin,
      p.Ends o s call.fd))
  | _ => exact inferInstanceAs (Decidable True)

end LinkRun

end Unisockets.Guest
