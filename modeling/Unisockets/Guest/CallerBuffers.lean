import Unisockets.Guest.Imports

/-!
# What the imports write into the buffers of their callers

`unisockets_recv` and `unisockets_getsockname` copy a payload into a buffer of a given length,
and `unisockets_accept` an address.  All three loops write a block from the pointer on
(`copyOut_eq`, `writeAddress_eq`), so that what is left to say is how long the block is: one byte
more than the buffer for the first two (`recv_getsockname_inside_iff`), and as many as the lowest
byte of the length says for the third (`accept_honours_length_iff`).
-/

namespace Unisockets.Guest

open JsStd Transport

/-! ## A payload -/

/-- The loop writes a block that may be one byte longer than the buffer. -/
theorem copyOut_eq (buffer : Buffer) (memory msg : Uint8Array) :
    copyOut buffer memory msg =
      writeBytes memory buffer.pointer (msg.take (buffer.length + 1)) := by
  apply List.ext_getElem?
  intro j
  rw [getElem?_copyOut, getElem?_writeBytes, List.length_take]
  by_cases hin : buffer.pointer ≤ j ∧ j < buffer.pointer + msg.length ∧
      j ≤ buffer.pointer + buffer.length ∧ j < memory.length
  · rw [if_pos hin, if_pos (by omega), List.getElem?_take, if_pos (by omega)]
  · rw [if_neg hin, if_neg (by omega)]

/-- The payload of a call has been copied into its buffer as far as it fits, nothing else has
been written, and the number of the copied bytes is returned. -/
structure StaysInside (buffer : Buffer) (memory payload : Uint8Array) (r : Imported) : Prop where
  wrote : ∃ memory', r.memory = some memory' ∧
    Wrote memory memory' buffer.pointer (payload.take buffer.length)
  returned : r.value = min payload.length buffer.length

/-- The copy stays inside of the buffer exactly if the payload fits. -/
theorem staysInside_iff (buffer : Buffer) (memory payload : Uint8Array) (s : Sockets) :
    StaysInside buffer memory payload
        ⟨payload.length, some (copyOut buffer memory payload), s⟩ ↔
      payload.length ≤ buffer.length := by
  constructor
  · intro h
    have hreturned : (payload.length : Int) = min payload.length buffer.length := h.returned
    omega
  · intro hfits
    constructor
    · refine ⟨_, rfl, wrote_iff.mpr ?_⟩
      rw [copyOut_eq, List.take_of_length_le hfits, List.take_of_length_le (by omega)]
    · show (payload.length : Int) = min payload.length buffer.length
      omega

/-- `unisockets_recv` and `unisockets_getsockname` stay inside of the buffer exactly if the
message, respectively the host of the alias, fits. -/
theorem recv_getsockname_inside_iff (x : External) (fd : Nat) (s : Sockets) (buffer : Buffer)
    (memory : Uint8Array) :
    (∀ msg, (Sockets.call (Sockets.recv x fd) s).1 = .ok msg →
      (StaysInside buffer memory msg (Imports.unisockets_recv x fd buffer memory s) ↔
        msg.length ≤ buffer.length)) ∧
    ∀ socketName, (Sockets.call (Imports.boundName x fd) s).1 = .ok socketName →
      (StaysInside buffer memory (nameBytes socketName)
          (Imports.unisockets_getsockname x fd buffer memory s) ↔
        (nameBytes socketName).length ≤ buffer.length) := by
  constructor
  · intro msg hrecv
    rw [Imports.unisockets_recv, Imports.attempt_of_ok rfl hrecv]
    exact staysInside_iff buffer memory msg _
  · intro socketName hname
    rw [Imports.unisockets_getsockname, Imports.attempt_of_ok rfl hname]
    exact staysInside_iff buffer memory (nameBytes socketName) _

/-- Where a message of two bytes arrives, and a client is accepted as the descriptor 4. -/
def serving : External :=
  { id := "127.0.0.0"
    recv := fun _ _ => .ok [1, 2]
    accept := fun _ => .ok "127.0.0.1:257"
    socket := .ok 4 }

theorem recv_getsockname_inside_fits :
    StaysInside ⟨1, 2⟩ [0, 0, 0, 0] [1, 2]
      (Imports.unisockets_recv serving 3 ⟨1, 2⟩ (some [0, 0, 0, 0]) oneBound) ∧
    StaysInside ⟨0, 9⟩ (List.replicate 10 0) (nameBytes "127.0.0.0:80")
      (Imports.unisockets_getsockname serving 3 ⟨0, 9⟩ (some (List.replicate 10 0))
        oneBound) := by
  constructor
  · exact ((recv_getsockname_inside_iff serving 3 oneBound _ _).1 _ rfl).mpr (by decide)
  · exact ((recv_getsockname_inside_iff serving 3 oneBound _ _).2 _ rfl).mpr
      (by decide +kernel)

/-- A buffer of one byte: two bytes are written, and two are returned. -/
theorem recv_getsockname_overrun :
    (Sockets.call (Sockets.recv serving 3) oneBound).1 = .ok [1, 2] ∧
    (Imports.unisockets_recv serving 3 ⟨1, 1⟩ (some [0, 0, 0, 0]) oneBound).memory =
      some [0, 1, 2, 0] ∧
    (Imports.unisockets_recv serving 3 ⟨1, 1⟩ (some [0, 0, 0, 0]) oneBound).value = 2 ∧
    ¬StaysInside ⟨1, 1⟩ [0, 0, 0, 0] [1, 2]
      (Imports.unisockets_recv serving 3 ⟨1, 1⟩ (some [0, 0, 0, 0]) oneBound) ∧
    (Imports.unisockets_getsockname serving 3 ⟨1, 1⟩ (some [0, 0, 0, 0]) oneBound).memory =
      some [0, 49, 50, 0] ∧
    (Imports.unisockets_getsockname serving 3 ⟨1, 1⟩ (some [0, 0, 0, 0]) oneBound).value =
      9 := by
  refine ⟨rfl, rfl, rfl, ?_, by decide +kernel, by decide +kernel⟩
  intro h
  exact absurd h.returned (by decide)

/-! ## An address -/

/-- `unisockets_accept` has written as much of the address as the length says, and nothing
else. -/
def HonoursLength (memory : Uint8Array) (addressPointer : Nat) (addressLength : UInt32)
    (clientAlias : String) (r : Imported) : Prop :=
  ∃ memory', r.memory = some memory' ∧
    Wrote memory memory' addressPointer ((sockaddr clientAlias).take addressLength.toNat)

/-- `unisockets_accept` honours a length exactly if it is below 256 or its lowest byte is eight
at least, or else if the bytes that are left out are in the memory already. -/
theorem accept_honours_length_iff (x : External) (fd : Nat) (s : Sockets) (memory : Uint8Array)
    (addressPointer addressLengthPointer : Nat) (addressLength : UInt32)
    (hstored : slice memory addressLengthPointer (addressLengthPointer + 4) =
      littleEndian 4 addressLength.toNat)
    (clientFd : Nat) (clientAlias : String)
    (haccept : (Sockets.call (Sockets.accept x fd) s).1 = .ok (clientFd, clientAlias)) :
    HonoursLength memory addressPointer addressLength clientAlias
        (Imports.unisockets_accept x fd addressPointer addressLengthPointer memory s) ↔
      addressLength.toNat < 256 ∨ 8 ≤ addressLength.toNat % 256 ∨
        ∀ i, addressLength.toNat % 256 ≤ i → i < 8 → addressPointer + i < memory.length →
          memory[addressPointer + i]? = (sockaddr clientAlias)[i]? := by
  have hwrote : HonoursLength memory addressPointer addressLength clientAlias
        (Imports.unisockets_accept x fd addressPointer addressLengthPointer memory s) ↔
      writeBytes memory addressPointer ((sockaddr clientAlias).take
        (addressLength.toNat % 256)) = writeBytes memory addressPointer
          ((sockaddr clientAlias).take addressLength.toNat) := by
    rw [Imports.unisockets_accept, Imports.attempt_of_ok rfl haccept]
    simp only [HonoursLength, unisockets_accept, addressLengthAt_eq hstored, writeAddress_eq,
      wrote_iff, Option.some.injEq, exists_eq_left']
  rw [hwrote, writeBytes_take_eq_iff (Nat.mod_le _ _), length_sockaddr]
  constructor
  · intro h
    by_cases hsmall : addressLength.toNat < 256
    · exact .inl hsmall
    · exact .inr (.inr fun i hle hi hinside => h i hle (by omega) hi hinside)
  · intro h i hle hi hin hinside
    rcases h with hsmall | hlow | hthere
    · omega
    · omega
    · exact hthere i hle hin hinside

/-- A length of sixteen. -/
theorem accept_honours_length_sixteen :
    HonoursLength (List.replicate 16 0 ++ [16, 0, 0, 0]) 0 16 "127.0.0.1:257"
      (Imports.unisockets_accept serving 3 0 16
        (some (List.replicate 16 0 ++ [16, 0, 0, 0])) oneBound) :=
  (accept_honours_length_iff serving 3 oneBound _ 0 16 16 rfl 4 "127.0.0.1:257" rfl).mpr
    (.inr (.inl (by decide)))

/-- With a length of 256 nothing is written. -/
theorem accept_ignores_length :
    (Sockets.call (Sockets.accept serving 3) oneBound).1 = .ok (4, "127.0.0.1:257") ∧
    slice (List.replicate 16 (0 : UInt8) ++ [0, 1, 0, 0]) 16 20 =
      littleEndian 4 (256 : UInt32).toNat ∧
    (Imports.unisockets_accept serving 3 0 16 (some (List.replicate 16 0 ++ [0, 1, 0, 0]))
      oneBound).memory = some (List.replicate 16 0 ++ [0, 1, 0, 0]) ∧
    ¬HonoursLength (List.replicate 16 0 ++ [0, 1, 0, 0]) 0 256 "127.0.0.1:257"
      (Imports.unisockets_accept serving 3 0 16 (some (List.replicate 16 0 ++ [0, 1, 0, 0]))
        oneBound) := by
  refine ⟨rfl, rfl, rfl, ?_⟩
  rintro ⟨memory', hmemory, hwrote⟩
  cases hmemory
  have hfamily := hwrote.written 0 (by decide) (by decide)
  exact absurd hfamily (by decide +kernel)

end Unisockets.Guest
