import Unisockets.Guest.SockAddr

/-!
# Addresses of a Go program

A Go program keeps an address in a `SockaddrIn`, whose fields lie in the memory as those of a
`sockaddr_in`.  `Bind` and `Connect` hand it to the imports, and `Accept` has them fill it.

The program puts the octets of a host and the swapped port into the fields.  What the imports
read is then the host and the port (`read_serverAddress`).  `Accept` passes on the size of a
pointer as the size of the address: it is large enough where a pointer has eight bytes, and
ends in front of the octets where it has four (`holds_accept`).  The port it fills in is not
swapped, so that a program that connects to an accepted address gets to another port, unless
the port looks the same in both byte orders.
-/

namespace Unisockets.Guest

open JsStd Signaling Transport

namespace Go

/-! ## The code -/

structure SockaddrIn where
  sinFamily : UInt16
  sinPort : UInt16
  sAddr : UInt32
  deriving DecidableEq, Repr

def PF_INET : UInt16 := 2

/-- `Htons`. -/
def htons (v : UInt16) : UInt16 := (v >>> 8) ||| (v <<< 8)

/-- `binary.LittleEndian.Uint32`, of four bytes. -/
def uint32 (a b c d : UInt8) : UInt32 := UInt32.ofNat (ofLittleEndian [a, b, c, d])

/-- `binary.LittleEndian.PutUint32`. -/
def putUint32 (v : UInt32) : Uint8Array := littleEndian 4 v.toNat

/-- The address that a program makes of a host and a port. -/
def serverAddress (a b c d : UInt8) (port : UInt16) : SockaddrIn where
  sinFamily := PF_INET
  sinPort := htons port
  sAddr := uint32 a b c d

/-- The two builds of the binding for WebAssembly. -/
inductive Build where
  | js
  | tinygo
  deriving DecidableEq, Repr

/-- `unsafe.Sizeof(socketAddr)`, of a pointer. -/
def Build.sizeofPointer : Build → Nat
  | .js => 8
  | .tinygo => 4

/-- A `SockaddrIn` in the memory. -/
def SockaddrIn.bytes (s : SockaddrIn) : Uint8Array :=
  littleEndian 2 s.sinFamily.toNat ++ littleEndian 2 s.sinPort.toNat ++ putUint32 s.sAddr

/-- A `SockaddrIn` lies behind a pointer. -/
def Holds (memory : Uint8Array) (pointer : Nat) (s : SockaddrIn) : Prop :=
  slice memory pointer (pointer + 8) = s.bytes

/-! ## Numbers and bytes -/

theorem toNat_uint32 (a b c d : UInt8) : (uint32 a b c d).toNat = ofLittleEndian [a, b, c, d] := by
  have ha := a.toNat_lt
  have hb := b.toNat_lt
  have hc := c.toNat_lt
  have hd := d.toNat_lt
  rw [uint32, UInt32.toNat_ofNat']
  simp only [ofLittleEndian]
  omega

@[simp]
theorem putUint32_uint32 (a b c d : UInt8) : putUint32 (uint32 a b c d) = [a, b, c, d] := by
  rw [putUint32, toNat_uint32]
  exact littleEndian_ofLittleEndian [a, b, c, d]

theorem toNat_htons (v : UInt16) : (htons v).toNat = v.toNat % 256 * 256 + v.toNat / 256 := by
  have hv := v.toNat_lt
  have hlt : v.toNat / 256 < 2 ^ 8 := by omega
  have hright : (v >>> 8).toNat = v.toNat / 256 := by
    rw [UInt16.toNat_shiftRight]
    exact Nat.shiftRight_eq_div_pow _ 8
  have hleft : (v <<< 8).toNat = (v.toNat % 256) <<< 8 := by
    rw [UInt16.toNat_shiftLeft, Nat.shiftLeft_eq, Nat.shiftLeft_eq]
    simp
    omega
  rw [htons, UInt16.toNat_or, hright, hleft, Nat.or_comm, ← Nat.shiftLeft_add_eq_or_of_lt hlt,
    Nat.shiftLeft_eq]

theorem htons_htons (v : UInt16) : htons (htons v) = v := by
  have hv := v.toNat_lt
  apply UInt16.toNat_inj.mp
  rw [toNat_htons, toNat_htons]
  omega

/-- Four bytes of a number, written out. -/
private theorem littleEndian_four (n : Nat) : littleEndian 4 n =
    [UInt8.ofNat n, UInt8.ofNat (n / 256), UInt8.ofNat (n / 256 / 256),
      UInt8.ofNat (n / 256 / 256 / 256)] := rfl

private theorem littleEndian_two (n : Nat) :
    littleEndian 2 n = [UInt8.ofNat n, UInt8.ofNat (n / 256)] := rfl

/-! ## Binding and connecting -/

/-- The address that the imports make out in a `SockaddrIn`. -/
def SockaddrIn.address (s : SockaddrIn) : SockAddr where
  a := UInt8.ofNat s.sAddr.toNat
  b := UInt8.ofNat (s.sAddr.toNat / 256)
  c := UInt8.ofNat (s.sAddr.toNat / 256 / 256)
  d := UInt8.ofNat (s.sAddr.toNat / 256 / 256 / 256)
  port := htons s.sinPort

theorem address_serverAddress (a b c d : UInt8) (port : UInt16) :
    (serverAddress a b c d port).address = ⟨a, b, c, d, port⟩ := by
  have hoctets := putUint32_uint32 a b c d
  rw [putUint32, littleEndian_four] at hoctets
  simp only [List.cons.injEq, and_true] at hoctets
  obtain ⟨ha, hb, hc, hd⟩ := hoctets
  simp only [SockaddrIn.address, serverAddress, ha, hb, hc, hd, htons_htons]

/-- What the imports read of a `SockaddrIn`. -/
theorem read_holds {memory : Uint8Array} {pointer length : Nat} {s : SockaddrIn}
    (h : Holds memory pointer s) (hlength : 8 ≤ length) :
    readAddress memory pointer length = some s.address.text := by
  have hslice : slice memory pointer (pointer + length) =
      s.bytes ++ slice memory (pointer + 8) (pointer + length) := by
    have hbytes : slice memory pointer (pointer + 8) = s.bytes := h
    rw [← hbytes, slice_append (by omega) (by omega)]
  rw [SockaddrIn.bytes, putUint32, littleEndian_two, littleEndian_two, littleEndian_four] at hslice
  have hport : UInt16.ofNat (256 * (UInt8.ofNat s.sinPort.toNat).toNat +
      (UInt8.ofNat (s.sinPort.toNat / 256)).toNat) = htons s.sinPort := by
    have hlt := s.sinPort.toNat_lt
    apply UInt16.toNat_inj.mp
    rw [toNat_htons, UInt16.toNat_ofNat', UInt8.toNat_ofNat', UInt8.toNat_ofNat']
    show (256 * (s.sinPort.toNat % 256) + s.sinPort.toNat / 256 % 256) % 65536 = _
    have hhigh : s.sinPort.toNat / 256 % 256 = s.sinPort.toNat / 256 := by omega
    rw [hhigh, Nat.mod_eq_of_lt (by omega)]
    omega
  rw [readAddress_of_slice hslice, SockAddr.ofBytes, hport]
  rfl

/-- A program that binds or connects to a host and a port gets to their alias, whatever size
of eight bytes or more it passes on. -/
theorem read_serverAddress {memory : Uint8Array} {pointer length : Nat} {a b c d : UInt8}
    {port : UInt16} (h : Holds memory pointer (serverAddress a b c d port))
    (hlength : 8 ≤ length) :
    readAddress memory pointer length = some (SockAddr.mk a b c d port).text := by
  rw [read_holds h hlength, address_serverAddress]

/-- The server of the echo example, in a memory of eight bytes. -/
theorem read_serverAddress_echo :
    readAddress (serverAddress 127 0 0 1 1234).bytes 0 8 =
      some (SockAddr.mk 127 0 0 1 1234).text := by
  refine read_serverAddress ?_ (Nat.le_refl 8)
  unfold Holds
  decide

/-! ## Accepting -/

/-- What `Accept` leaves in the address `old` for a client at `s`. -/
def accepted (build : Build) (s : SockAddr) (old : SockaddrIn) : SockaddrIn where
  sinFamily := PF_INET
  sinPort := s.port
  sAddr := if build = .js then uint32 s.a s.b s.c s.d else old.sAddr

private theorem port_bytes (s : SockAddr) : littleEndian 2 s.port.toNat = [s.low, s.high] := rfl

private theorem take_drop_bytes (build : Build) (s : SockAddr) (old : SockaddrIn) :
    (sockaddr s.text).take build.sizeofPointer ++ old.bytes.drop build.sizeofPointer
      = (accepted build s old).bytes := by
  have hfamily : littleEndian 2 PF_INET.toNat = [2, 0] := by decide
  have hnew : (accepted build s old).bytes =
      [2, 0] ++ [s.low, s.high] ++ putUint32 (accepted build s old).sAddr := by
    show littleEndian 2 PF_INET.toNat ++ littleEndian 2 s.port.toNat ++ _ = _
    rw [hfamily, port_bytes]
  rw [sockaddr_text, hnew]
  cases build with
  | js =>
    have hdrop : old.bytes.drop 8 = [] :=
      List.drop_eq_nil_of_le (by simp [SockaddrIn.bytes, putUint32])
    show [2, 0, s.low, s.high, s.a, s.b, s.c, s.d] ++ old.bytes.drop 8 =
      [2, 0] ++ [s.low, s.high] ++ putUint32 (uint32 s.a s.b s.c s.d)
    rw [hdrop, putUint32_uint32]
    rfl
  | tinygo => rfl

/-- `Accept` puts the client's address in the place of the old one; where a pointer has four
bytes the octets stay as they were. -/
theorem holds_accept {memory : Uint8Array} {pointer lengthPointer clientFd : Nat} {build : Build}
    {old : SockaddrIn} (s : SockAddr) (h : Holds memory pointer old)
    (hlength : slice memory lengthPointer (lengthPointer + 4)
      = littleEndian 4 build.sizeofPointer) :
    Holds (unisockets_accept pointer lengthPointer memory clientFd s.text).1 pointer
      (accepted build s old) := by
  have hsmall : build.sizeofPointer % 256 = build.sizeofPointer := by cases build <;> rfl
  have hle : build.sizeofPointer ≤ 8 := by cases build <;> decide
  have hfits : pointer + 8 ≤ memory.length := by
    have hlen := congrArg List.length h
    simp only [slice, List.length_drop, List.length_take, SockaddrIn.bytes, putUint32,
      List.length_append, length_littleEndian] at hlen
    omega
  rw [unisockets_accept, addressLengthAt_eq hlength, hsmall, Holds, ← take_drop_bytes]
  apply List.ext_getElem?
  intro i
  rw [getElem?_slice]
  by_cases hi : i < 8
  · have hold : memory[pointer + i]? = old.bytes[i]? := by
      have hbyte := congrArg (fun bytes => bytes[i]?) h
      rwa [getElem?_slice, if_pos (by omega)] at hbyte
    rw [if_pos (by omega), getElem?_writeAddress hi (by omega), hold, List.getElem?_append,
      List.getElem?_take, List.getElem?_drop, List.length_take, length_sockaddr,
      Nat.min_eq_left hle]
    split_ifs with hlt
    · rfl
    · rw [Nat.add_sub_cancel' (Nat.le_of_not_lt hlt)]
  · have hend : ((sockaddr s.text).take build.sizeofPointer ++
        old.bytes.drop build.sizeofPointer).length = 8 := by
      simp [SockaddrIn.bytes, putUint32, Nat.add_sub_cancel' hle, Nat.min_eq_left hle]
    rw [if_neg (by omega), List.getElem?_eq_none (by omega)]

/-- The texts tell addresses apart. -/
theorem text_injective {s s' : SockAddr} (h : s.text = s'.text) : s = s' := by
  have hbytes := congrArg sockaddr h
  rw [sockaddr_text, sockaddr_text] at hbytes
  simp only [List.cons.injEq, and_true, true_and] at hbytes
  obtain ⟨hlow, hhigh, ha, hb, hc, hd⟩ := hbytes
  rw [← s.ofBytes_high_low, hlow, hhigh, ha, hb, hc, hd, s'.ofBytes_high_low]

/-- The octets determine the number. -/
private theorem sAddr_eq_iff (v : UInt32) (s : SockAddr) :
    v = uint32 s.a s.b s.c s.d ↔ putUint32 v = [s.a, s.b, s.c, s.d] := by
  have hsize : 256 ^ 4 = 2 ^ 32 := by decide
  rw [← putUint32_uint32, putUint32, putUint32, littleEndian_eq_iff, ← UInt32.toNat_inj, hsize,
    Nat.mod_eq_of_lt v.toNat_lt, Nat.mod_eq_of_lt (UInt32.toNat_lt _)]

/-- The address that is filled in is the client's if the octets are and the two bytes of the
port are the same. -/
theorem address_accepted_eq_iff (build : Build) (s : SockAddr) (old : SockaddrIn) :
    (accepted build s old).address = s ↔
      s.high = s.low ∧ (build = .js ∨ old.sAddr = uint32 s.a s.b s.c s.d) := by
  have hport : htons s.port = s.port ↔ s.high = s.low := by
    have hlt := s.port.toNat_lt
    rw [s.high_eq_low_iff, ← UInt16.toNat_inj, toNat_htons]
    omega
  have hsAddr : (accepted build s old).sAddr = uint32 s.a s.b s.c s.d ↔
      build = .js ∨ old.sAddr = uint32 s.a s.b s.c s.d := by
    cases build with
    | js => simp [accepted]
    | tinygo => simp [accepted]
  rw [← hport, ← hsAddr, sAddr_eq_iff, putUint32, littleEndian_four, SockaddrIn.address,
    SockAddr.mk.injEq]
  simp only [List.cons.injEq, and_true]
  show _ ∧ _ ∧ _ ∧ _ ∧ htons s.port = s.port ↔ _
  tauto

/-- `Accept` fills in the client's address, but for the octets where a pointer has four bytes.
A program that connects to what is filled in gets to the client if and only if the two bytes
of the port are the same and the octets are the client's. -/
theorem accept_connect {memory : Uint8Array} {pointer lengthPointer clientFd length : Nat}
    {build : Build} {old : SockaddrIn} (s : SockAddr) (h : Holds memory pointer old)
    (hstored : slice memory lengthPointer (lengthPointer + 4)
      = littleEndian 4 build.sizeofPointer) (hlength : 8 ≤ length) :
    Holds (unisockets_accept pointer lengthPointer memory clientFd s.text).1 pointer
        (accepted build s old) ∧
      (readAddress (unisockets_accept pointer lengthPointer memory clientFd s.text).1 pointer
          length = some s.text ↔
        s.high = s.low ∧ (build = .js ∨ old.sAddr = uint32 s.a s.b s.c s.d)) := by
  have hfilled : Holds (unisockets_accept pointer lengthPointer memory clientFd s.text).1 pointer
      (accepted build s old) := holds_accept s h hstored
  refine ⟨hfilled, ?_⟩
  rw [read_holds hfilled hlength, Option.some.injEq, ← address_accepted_eq_iff]
  exact ⟨text_injective, fun he => congrArg SockAddr.text he⟩

/-- A client that is accepted by a program whose pointers have four bytes. -/
theorem accept_connect_tinygo :
    Holds (unisockets_accept 0 8 (List.replicate 8 0 ++ [4, 0, 0, 0]) 4
        (SockAddr.mk 10 0 0 1 80).text).1 0 ⟨PF_INET, 80, 0⟩ ∧
      readAddress (unisockets_accept 0 8 (List.replicate 8 0 ++ [4, 0, 0, 0]) 4
        (SockAddr.mk 10 0 0 1 80).text).1 0 8 ≠ some (SockAddr.mk 10 0 0 1 80).text := by
  have hold : Holds (List.replicate 8 0 ++ [4, 0, 0, 0]) 0 ⟨0, 0, 0⟩ := by
    unfold Holds
    decide
  have hstored : slice (List.replicate 8 0 ++ [4, 0, 0, 0]) 8 (8 + 4) =
      littleEndian 4 Build.tinygo.sizeofPointer := by decide
  obtain ⟨hfilled, hread⟩ :=
    @accept_connect _ 0 8 4 8 .tinygo _ ⟨10, 0, 0, 1, 80⟩ hold hstored (Nat.le_refl 8)
  refine ⟨hfilled, fun h => ?_⟩
  have hport := (hread.mp h).1
  revert hport
  decide

end Go

end Unisockets.Guest
