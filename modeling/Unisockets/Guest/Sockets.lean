import Unisockets.Transport.Transporter

/-!
# The sockets of a thread

`Sockets` of `sockets.ts`: the bind of every file descriptor, and the alias that
the server has given to a descriptor that was connected.

The class reaches the outside through the functions that its constructor gets.
`External` is what they do during one call, so that a call is a function of the
tables and of its `External`.  An exception leaves the tables as they are when it
is thrown.
-/

namespace Unisockets.Guest

open JsStd Transport

structure Bind where
  «alias» : String
  connectorId : String
  deriving DecidableEq, Repr

inductive SocketsError where
  | SocketDoesNotExistError
  /-- A function of the constructor rejects. -/
  | rejected (message : String)
  deriving DecidableEq, Repr

/-- The functions of the constructor, during one call.  `id` is that of the
signaling client. -/
structure External where
  id : String
  bind : String → Except String Unit := fun _ => .ok ()
  accept : String → Except String String := fun a => .ok a
  connect : String → Except String String := fun a => .ok a
  send : String → String → Uint8Array → Except String Unit := fun _ _ _ => .ok ()
  recv : String → String → Except String Uint8Array := fun _ _ => .ok []
  close : String → Except String Unit := fun _ => .ok ()
  socket : Except String Nat := .error ""
  updateBinds : Map Nat Bind := .empty

/-- What a call does to the outside. -/
inductive Effect where
  | notifyBindSet (fd : Nat) (bind : Bind)
  | externalClose (tcpAddress : String)
  deriving DecidableEq, Repr

/-- The tables of the class, and its effects so far. -/
structure Sockets where
  binds : Map Nat Bind := .empty
  clientAliases : Map Nat String := .empty
  effects : List Effect := []

abbrev SocketsM := ExceptT SocketsError (StateM Sockets)

namespace Sockets

def STUB : Bind := ⟨"stub", "stub"⟩

/-- `await` of a function of the constructor. -/
def external {α : Type} : Except String α → SocketsM α
  | .ok a => pure a
  | .error message => throw (.rejected message)

def setBind (x : External) (fd : Nat) (tcpAddress : String) : SocketsM Unit :=
  modify fun s => { s with
    binds := s.binds.set fd ⟨tcpAddress, x.id⟩
    effects := s.effects ++ [.notifyBindSet fd ⟨tcpAddress, x.id⟩] }

def ensureBound (x : External) (fd : Nat) : SocketsM Unit := do
  unless (← get).binds.has fd do
    modify fun s => { s with
      binds := x.updateBinds.entries.foldl (fun binds entry => binds.set entry.1 entry.2) s.binds }
    unless (← get).binds.has fd do
      throw .SocketDoesNotExistError

def socket (x : External) : SocketsM Nat := do
  let fd ← external x.socket
  modify fun s => { s with binds := s.binds.set fd STUB }
  pure fd

def bind (x : External) (fd : Nat) (tcpAddress : String) : SocketsM Unit := do
  ensureBound x fd
  external (x.bind tcpAddress)
  setBind x fd tcpAddress

/-- The bind of a descriptor behind `ensureBound`. -/
def getBind (fd : Nat) : SocketsM Bind := do
  match (← get).binds.get fd with
  | some bind => pure bind
  | none => throw .SocketDoesNotExistError

def accept (x : External) (serverFd : Nat) : SocketsM (Nat × String) := do
  ensureBound x serverFd
  let clientFd ← socket x
  let clientAlias ← external (x.accept (← getBind serverFd).alias)
  setBind x clientFd clientAlias
  pure (clientFd, clientAlias)

def connect (x : External) (serverFd : Nat) (tcpAddress : String) : SocketsM String := do
  ensureBound x serverFd
  setBind x serverFd tcpAddress
  let clientAlias ← external (x.connect tcpAddress)
  if clientAlias ≠ "" then
    modify fun s => { s with clientAliases := s.clientAliases.set serverFd clientAlias }
  pure clientAlias

def send (x : External) (fd : Nat) (msg : Uint8Array) : SocketsM Unit := do
  ensureBound x fd
  let bind ← getBind fd
  external (x.send bind.alias bind.connectorId msg)

def recv (x : External) (fd : Nat) : SocketsM Uint8Array := do
  ensureBound x fd
  let bind ← getBind fd
  external (x.recv bind.alias bind.connectorId)

/-- `await this.externalClose(alias)`. -/
def externalClose (x : External) (tcpAddress : String) : SocketsM Unit := do
  modify fun s => { s with effects := s.effects ++ [.externalClose tcpAddress] }
  external (x.close tcpAddress)

def close (x : External) (fd : Nat) : SocketsM Unit := do
  ensureBound x fd
  match (← get).clientAliases.get fd with
  | none =>
    match (← get).binds.get fd with
    | some bind => externalClose x bind.alias
    | none => pure ()
  | some clientAlias => externalClose x clientAlias

end Sockets

end Unisockets.Guest
