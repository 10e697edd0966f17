import Unisockets.Guest.ByteStream
import Unisockets.Guest.Close
import Unisockets.Guest.SockAddr

/-!
# The imports of the guest

The functions of `getImports` that touch the memory of the guest and the tables of the sockets.
All of them have one shape, `attempt`: take the memory, make a call on the sockets, write its
result into the memory, and return `-1` if something of it has thrown.

Here the memory stays what it is while the call is awaited; `Unisockets.Guest.GrowingMemory` is
about a memory that grows.
-/

namespace Unisockets.Guest

open JsStd Transport

/-- `new TextEncoder("utf-8").encode(text)`. -/
def encodeText (text : String) : Uint8Array := text.toUTF8.toList

/-- The bytes that `unisockets_getsockname` copies. -/
def nameBytes (socketName : String) : Uint8Array :=
  encodeText (((split socketName ':')[0]?).getD "")

/-- The result of `unisockets_getsockname` for an alias: the memory and the number. -/
def unisockets_getsockname (buffer : Buffer) (memory : Uint8Array) (socketName : String) :
    Uint8Array × Nat :=
  (copyOut buffer memory (nameBytes socketName), (nameBytes socketName).length)

/-- What a call of an import returns, and the memory and the tables it leaves behind. -/
structure Imported where
  value : Int
  memory : Option Uint8Array
  sockets : Sockets

namespace Imports

section Attempt

variable {α : Type}

/-- `try { ... } catch (e) { return -1; }`.  `request` makes the call on the sockets from the
memory, which is `none` when `accessMemory` throws, and `finish` is what happens with its
result. -/
def attempt (request : Uint8Array → Option (SocketsM α))
    (finish : Uint8Array → α → Uint8Array × Nat) (memory : Option Uint8Array) (s : Sockets) :
    Imported :=
  match memory with
  | none => ⟨-1, none, s⟩
  | some memory =>
    match request memory with
    | none => ⟨-1, memory, s⟩
    | some c =>
      match Sockets.call c s with
      | (.ok a, s) => ⟨(finish memory a).2, (finish memory a).1, s⟩
      | (.error _, s) => ⟨-1, memory, s⟩

variable {request : Uint8Array → Option (SocketsM α)} {finish : Uint8Array → α → Uint8Array × Nat}
  {memory : Uint8Array} {s : Sockets} {c : SocketsM α}

theorem attempt_of_ok {a : α} (hrequest : request memory = some c)
    (h : (Sockets.call c s).1 = .ok a) : attempt request finish memory s =
      ⟨(finish memory a).2, (finish memory a).1, (Sockets.call c s).2⟩ := by
  simp only [attempt, hrequest]
  cases hcall : Sockets.call c s with
  | mk r s' =>
    rw [hcall] at h
    subst h
    rfl

theorem attempt_of_error {e : SocketsError} (hrequest : request memory = some c)
    (h : (Sockets.call c s).1 = .error e) : attempt request finish memory s =
      ⟨-1, memory, (Sockets.call c s).2⟩ := by
  simp only [attempt, hrequest]
  cases hcall : Sockets.call c s with
  | mk r s' =>
    rw [hcall] at h
    subst h
    rfl

end Attempt

variable (x : External) (fd : Nat)

def unisockets_bind (addressPointer addressLength : Nat) : Option Uint8Array → Sockets → Imported :=
  attempt (fun memory => (readAddress memory addressPointer addressLength).map (Sockets.bind x fd))
    fun memory _ => (memory, 0)

def unisockets_accept (addressPointer addressLengthPointer : Nat) :
    Option Uint8Array → Sockets → Imported :=
  attempt (fun _ => some (Sockets.accept x fd)) fun memory accepted =>
    Guest.unisockets_accept addressPointer addressLengthPointer memory accepted.1 accepted.2

def unisockets_connect (addressPointer addressLength : Nat) :
    Option Uint8Array → Sockets → Imported :=
  attempt
    (fun memory => (readAddress memory addressPointer addressLength).map (Sockets.connect x fd))
    fun memory _ => (memory, 0)

def unisockets_recv (buffer : Buffer) : Option Uint8Array → Sockets → Imported :=
  attempt (fun _ => some (Sockets.recv x fd)) fun memory msg =>
    Guest.unisockets_recv buffer memory msg

/-- The bind of a descriptor, for `unisockets_getsockname`. -/
def boundName : SocketsM String := do
  Sockets.ensureBound x fd
  let bind ← Sockets.getBind fd
  pure bind.alias

def unisockets_getsockname (buffer : Buffer) : Option Uint8Array → Sockets → Imported :=
  attempt (fun _ => some (boundName x fd)) fun memory socketName =>
    Guest.unisockets_getsockname buffer memory socketName

end Imports

/-- Tables with one descriptor, which is bound. -/
def oneBound : Sockets :=
  { binds := (Map.empty : Map Nat Bind).set 3 ⟨"127.0.0.0:80", "127.0.0.0"⟩ }

end Unisockets.Guest
