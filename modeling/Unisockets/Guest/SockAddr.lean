import Unisockets.Guest.Memory
import Unisockets.JsStd.TypedArray
import Unisockets.Signaling.Address

/-!
# Socket addresses in the memory of the guest

`unisockets_bind` and `unisockets_connect` read a `sockaddr_in` from the memory, and
`unisockets_accept` writes one.  `readAddress` is the reading and `writeAddress` the loop that
writes; both are the code of the imports, in the words of `sockets.ts`.

`SockAddr` is what such an address is: four octets and a port.  Its bytes are what C expects,
with the port in network byte order.

The reading agrees with it (`holdsAddress_iff`).  The writing puts the port the other way
round (`sockaddr_text`), and it takes the number of bytes from the lowest byte of the length
(`addressLengthAt_eq`).
-/

namespace Unisockets.Guest

open JsStd Signaling Transport

/-! ## The code -/

def AF_INET : Number := .int 2

def getAsBinary (val : Number) : Uint8Array := littleEndian 4 val.toInt32

def htons (val : Nat) : Nat := ((val &&& 0xff) <<< 8) ||| ((val >>> 8) &&& 0xff)

/-- The alias that `unisockets_bind` and `unisockets_connect` read.  `none` is the exception of
`new Uint16Array` when its buffer has an odd length.  In an empty buffer the port is
`htons(undefined)`, which is zero. -/
def readAddress (memory : Uint8Array) (addressPointer addressLength : Nat) : Option String :=
  let socketInMemory := slice memory addressPointer (addressPointer + addressLength)
  let addressInMemory := slice socketInMemory 4 8
  let portInMemory := slice socketInMemory 2 4
  let address := join (addressInMemory.map fun byte => Nat.repr byte.toNat) '.'
  if portInMemory.length % 2 = 0 then
    some (toTCPAddress address (htons (ofLittleEndian portInMemory)))
  else none

/-- What the loop of `unisockets_accept` writes at an index; beyond the eighth byte it writes
nothing.  An element that is missing is `undefined`, which is stored as zero. -/
def addressPart (clientAlias : String) (i : Nat) : Option UInt8 :=
  let parts := split clientAlias ':'
  let familyInMemory := getAsBinary AF_INET
  let portInMemory := getAsBinary (parseIntAt parts 1)
  let addressInMemory := (split ((parts[0]?).getD "") '.').map fun e => (parseInt e).toUint8
  if i < 2 then some ((familyInMemory[i]?).getD 0)
  else if i < 4 then some ((portInMemory[i - 2]?).getD 0)
  else if i < 8 then some ((addressInMemory[i - 4]?).getD 0)
  else none

/-- The loop of `unisockets_accept`. -/
def writeAddress (addressPointer addressLength : Nat) (clientAlias : String)
    (memory : Uint8Array) : Uint8Array :=
  (List.range addressLength).foldl (fun memory i =>
    match addressPart clientAlias i with
    | some part => memory.set (addressPointer + i) part
    | none => memory) memory

/-- `new Int32Array(memory.slice(p, p + 4))[0]`.  The array is made from another typed array,
so that it has an element for each byte of the slice.  `undefined` ends the loop at once. -/
def addressLengthAt (memory : Uint8Array) (addressLengthPointer : Nat) : Nat :=
  (((slice memory addressLengthPointer (addressLengthPointer + 4))[0]?).map UInt8.toNat).getD 0

/-- The result of `unisockets_accept` for a client: the memory and the descriptor. -/
def unisockets_accept (addressPointer addressLengthPointer : Nat) (memory : Uint8Array)
    (clientFd : Nat) (clientAlias : String) : Uint8Array × Nat :=
  (writeAddress addressPointer (addressLengthAt memory addressLengthPointer) clientAlias memory,
    clientFd)

/-- The eight bytes of an address as the loop writes them. -/
def sockaddr (clientAlias : String) : Uint8Array :=
  (List.range 8).map fun i => (addressPart clientAlias i).getD 0

/-! ## The loop -/

@[simp]
theorem length_sockaddr (clientAlias : String) : (sockaddr clientAlias).length = 8 := by
  simp [sockaddr]

/-- The loop writes eight bytes. -/
theorem isSome_addressPart (clientAlias : String) (i : Nat) :
    (addressPart clientAlias i).isSome = decide (i < 8) := by
  unfold addressPart
  dsimp only
  split_ifs <;> simp <;> omega

theorem getElem?_sockaddr (clientAlias : String) (i : Nat) :
    (sockaddr clientAlias)[i]? = addressPart clientAlias i := by
  have hpart := isSome_addressPart clientAlias i
  rw [sockaddr, List.getElem?_map]
  by_cases hi : i < 8
  · rw [decide_eq_true hi] at hpart
    obtain ⟨part, hpart⟩ := Option.isSome_iff_exists.mp hpart
    rw [List.getElem?_range hi, Option.map_some, hpart]
    rfl
  · rw [decide_eq_false hi, Option.isSome_eq_false_iff, Option.isNone_iff_eq_none] at hpart
    rw [List.getElem?_eq_none (by simp; omega), hpart]
    rfl

/-- The loop writes a block, the start of the address. -/
theorem writeAddress_eq (addressPointer addressLength : Nat) (clientAlias : String)
    (memory : Uint8Array) : writeAddress addressPointer addressLength clientAlias memory =
      writeBytes memory addressPointer ((sockaddr clientAlias).take addressLength) := by
  rw [← foldl_range_eq_writeBytes]
  apply List.foldl_ext
  intro array i _
  rw [getElem?_sockaddr]
  cases addressPart clientAlias i <;> rfl

/-- Of a length that is stored in four bytes, the code reads the lowest one. -/
theorem addressLengthAt_eq {memory : Uint8Array} {addressLengthPointer n : Nat}
    (h : slice memory addressLengthPointer (addressLengthPointer + 4) = littleEndian 4 n) :
    addressLengthAt memory addressLengthPointer = n % 256 := by
  rw [addressLengthAt, h]
  show (UInt8.ofNat n).toNat = n % 256
  exact UInt8.toNat_ofNat'

/-! ## Addresses -/

/-- An IPv4 address and a port. -/
structure SockAddr where
  a : UInt8
  b : UInt8
  c : UInt8
  d : UInt8
  port : UInt16
  deriving DecidableEq, Repr

namespace SockAddr

/-- `a.b.c.d:port`. -/
def text (s : SockAddr) : String :=
  toTCPAddress (toIPAddress (Nat.repr s.a.toNat ++ "." ++ Nat.repr s.b.toNat ++ "." ++
    Nat.repr s.c.toNat) s.d.toNat) s.port.toNat

/-- The high byte of the port, and the low one. -/
def high (s : SockAddr) : UInt8 := UInt8.ofNat (s.port.toNat / 256)

def low (s : SockAddr) : UInt8 := UInt8.ofNat s.port.toNat

/-- A `sockaddr_in`: the family, the port with its high byte first, and the octets. -/
def bytes (s : SockAddr) : Uint8Array := [2, 0, s.high, s.low, s.a, s.b, s.c, s.d]

theorem toNat_high (s : SockAddr) : s.high.toNat = s.port.toNat / 256 := by
  have hport := s.port.toNat_lt
  rw [high, UInt8.toNat_ofNat']
  omega

theorem toNat_low (s : SockAddr) : s.low.toNat = s.port.toNat % 256 := UInt8.toNat_ofNat'

/-- The two bytes of a port are the same when it looks the same in both byte orders. -/
theorem high_eq_low_iff (s : SockAddr) :
    s.high = s.low ↔ s.port.toNat / 256 = s.port.toNat % 256 := by
  rw [← UInt8.toNat_inj, toNat_high, toNat_low]

/-- The address whose octets and whose port stand in the bytes from the third on. -/
def ofBytes (high low a b c d : UInt8) : SockAddr :=
  ⟨a, b, c, d, UInt16.ofNat (256 * high.toNat + low.toNat)⟩

theorem port_ofBytes (high low a b c d : UInt8) :
    (ofBytes high low a b c d).port.toNat = 256 * high.toNat + low.toNat := by
  have hhigh := high.toNat_lt
  have hlow := low.toNat_lt
  rw [ofBytes, UInt16.toNat_ofNat']
  omega

@[simp]
theorem high_ofBytes (high low a b c d : UInt8) : (ofBytes high low a b c d).high = high := by
  have hlow := low.toNat_lt
  rw [← UInt8.toNat_inj, toNat_high, port_ofBytes]
  omega

@[simp]
theorem low_ofBytes (high low a b c d : UInt8) : (ofBytes high low a b c d).low = low := by
  have hlow := low.toNat_lt
  rw [← UInt8.toNat_inj, toNat_low, port_ofBytes]
  omega

/-- An address is that of its bytes. -/
theorem ofBytes_high_low (s : SockAddr) : ofBytes s.high s.low s.a s.b s.c s.d = s := by
  have hport : UInt16.ofNat (256 * s.high.toNat + s.low.toNat) = s.port := by
    have hlt := s.port.toNat_lt
    apply UInt16.toNat_inj.mp
    rw [toNat_high, toNat_low, UInt16.toNat_ofNat']
    omega
  rw [ofBytes, hport]

end SockAddr

/-! ## Reading an address -/

/-- `htons` swaps the two lowest bytes. -/
theorem htons_eq (val : Nat) : htons val = val % 256 * 256 + val / 256 % 256 := by
  have hmask : ∀ n : Nat, n &&& 0xff = n % 256 := fun n => Nat.and_two_pow_sub_one_eq_mod n 8
  have hlt : val / 256 % 256 < 2 ^ 8 := Nat.mod_lt _ (by decide)
  rw [htons, hmask, hmask, Nat.shiftRight_eq_div_pow,
    ← Nat.shiftLeft_add_eq_or_of_lt hlt, Nat.shiftLeft_eq]

private theorem join_octets (a b c d : String) :
    join [a, b, c, d] '.' = a ++ "." ++ b ++ "." ++ c ++ "." ++ d := by
  apply String.toList_inj.mp
  simp [join, List.intercalate, List.intersperse]

/-- What stands in eight bytes or more is read as the address of the bytes from the third
on. -/
theorem readAddress_of_slice {memory rest : Uint8Array} {addressPointer addressLength : Nat}
    {f g high low a b c d : UInt8}
    (h : slice memory addressPointer (addressPointer + addressLength) =
      f :: g :: high :: low :: a :: b :: c :: d :: rest) :
    readAddress memory addressPointer addressLength =
      some (SockAddr.ofBytes high low a b c d).text := by
  have hhigh := high.toNat_lt
  have hlow := low.toNat_lt
  have hport : htons (ofLittleEndian [high, low]) = 256 * high.toNat + low.toNat := by
    rw [htons_eq]
    simp only [ofLittleEndian]
    omega
  have hportInMemory : slice (f :: g :: high :: low :: a :: b :: c :: d :: rest) 2 4 =
      [high, low] := rfl
  have haddressInMemory : slice (f :: g :: high :: low :: a :: b :: c :: d :: rest) 4 8 =
      [a, b, c, d] := rfl
  unfold readAddress
  simp only [h, hportInMemory, haddressInMemory, List.map_cons, List.map_nil, join_octets, hport]
  have heven : [high, low].length % 2 = 0 := by simp
  rw [if_pos heven, SockAddr.text, SockAddr.port_ofBytes]
  rfl

/-! ## Writing an address -/

/-- A number behind a separator is the last part. -/
theorem split_append_repr (text : String) (separator : Char) (n : Nat)
    (h : separator.isDigit = false) :
    split (text ++ String.singleton separator ++ Nat.repr n) separator =
      split text separator ++ [Nat.repr n] := by
  rw [split_append, split_eq_singleton (not_mem_repr h)]

private theorem split_octets (a b c d : Nat) :
    split (toIPAddress (Nat.repr a ++ "." ++ Nat.repr b ++ "." ++ Nat.repr c) d) '.' =
      [Nat.repr a, Nat.repr b, Nat.repr c, Nat.repr d] := by
  show split (Nat.repr a ++ String.singleton '.' ++ Nat.repr b ++ String.singleton '.' ++
    Nat.repr c ++ String.singleton '.' ++ Nat.repr d) '.' = _
  rw [split_append_repr _ _ _ rfl, split_append_repr _ _ _ rfl, split_append_repr _ _ _ rfl,
    split_eq_singleton (not_mem_repr rfl)]
  rfl

private theorem split_text (s : SockAddr) : split s.text ':' =
    [toIPAddress (Nat.repr s.a.toNat ++ "." ++ Nat.repr s.b.toNat ++ "." ++
      Nat.repr s.c.toNat) s.d.toNat, Nat.repr s.port.toNat] := by
  have hcolon := colon_not_mem_toIPAddress
    (isSubnet_octets s.a.toNat s.b.toNat s.c.toNat).2 s.d.toNat
  show split (toIPAddress _ _ ++ String.singleton ':' ++ Nat.repr s.port.toNat) ':' = _
  rw [split_append_repr _ _ _ rfl, split_eq_singleton hcolon]
  rfl

/-- The bytes of a 16-bit number as `getAsBinary` makes them. -/
theorem getAsBinary_port (s : SockAddr) :
    getAsBinary (s.port.toNat : Number) = [s.low, s.high, 0, 0] := by
  have hport := s.port.toNat_lt
  have hlow : s.port.toNat % 2 ^ 32 = s.port.toNat := by omega
  have hhigh : s.port.toNat / 256 / 256 = 0 := by omega
  rw [getAsBinary, Number.toInt32_natCast, hlow]
  simp only [littleEndian, hhigh]
  rfl

/-- The writing has the low byte of the port first. -/
theorem sockaddr_text (s : SockAddr) :
    sockaddr s.text = [2, 0, s.low, s.high, s.a, s.b, s.c, s.d] := by
  have hoctet : ∀ octet : UInt8, (parseInt (Nat.repr octet.toNat)).toUint8 = octet := by
    intro octet
    rw [parseInt_repr, Number.toUint8_natCast, UInt8.ofNat_toNat]
  have hport : getAsBinary (parseIntAt (split s.text ':') 1) = [s.low, s.high, 0, 0] := by
    rw [split_text, parseIntAt]
    show getAsBinary (parseInt (Nat.repr s.port.toNat)) = _
    rw [parseInt_repr, getAsBinary_port]
  have hoctets : ((split (((split s.text ':')[0]?).getD "") '.').map fun e =>
      (parseInt e).toUint8) = [s.a, s.b, s.c, s.d] := by
    rw [split_text]
    show (split (toIPAddress _ _) '.').map _ = _
    rw [split_octets]
    simp [hoctet]
  have hfamily : getAsBinary AF_INET = [2, 0, 0, 0] := rfl
  unfold sockaddr addressPart
  simp only [hport, hoctets, hfamily]
  rfl

/-! ## There and back -/

/-- A caller's buffer holds an address: its eight bytes are those of the address, and what
`unisockets_bind` and `unisockets_connect` read there is its text. -/
structure HoldsAddress (memory : Uint8Array) (addressPointer : Nat) (s : SockAddr) : Prop where
  bytes : slice memory addressPointer (addressPointer + 8) = s.bytes
  read : ∀ addressLength, 8 ≤ addressLength →
    readAddress memory addressPointer addressLength = some s.text

/-- The bytes are all that matters. -/
theorem holdsAddress_iff {memory : Uint8Array} {addressPointer : Nat} {s : SockAddr} :
    HoldsAddress memory addressPointer s ↔
      slice memory addressPointer (addressPointer + 8) = s.bytes := by
  constructor
  · exact HoldsAddress.bytes
  · intro h
    refine ⟨h, fun addressLength hlength => ?_⟩
    have hslice : slice memory addressPointer (addressPointer + addressLength) =
        s.bytes ++ slice memory (addressPointer + 8) (addressPointer + addressLength) := by
      rw [← h, slice_append (by omega) (by omega)]
    rw [readAddress_of_slice hslice, s.ofBytes_high_low]

/-- A byte behind a pointer once the loop has run. -/
theorem getElem?_writeAddress {memory : Uint8Array} {addressPointer i : Nat} (hi : i < 8)
    (hfits : addressPointer + i < memory.length) (addressLength : Nat) (clientAlias : String) :
    (writeAddress addressPointer addressLength clientAlias memory)[addressPointer + i]? =
      if i < addressLength then (sockaddr clientAlias)[i]? else memory[addressPointer + i]? := by
  rw [writeAddress_eq, getElem?_writeBytes, List.length_take, length_sockaddr,
    Nat.add_sub_cancel_left]
  split_ifs with hin hlength hlength
  · rw [List.getElem?_take, if_pos hlength]
  · omega
  · omega
  · rfl

/-- The written bytes are those of the address up to the port, whose bytes must be equal. -/
theorem getElem?_sockaddr_text_eq_iff (s : SockAddr) {i : Nat} (hi : i < 8) :
    (sockaddr s.text)[i]? = s.bytes[i]? ↔ i = 2 ∨ i = 3 → s.high = s.low := by
  rw [sockaddr_text, SockAddr.bytes]
  have hcases : i = 0 ∨ i = 1 ∨ i = 2 ∨ i = 3 ∨ i = 4 ∨ i = 5 ∨ i = 6 ∨ i = 7 := by omega
  rcases hcases with rfl | rfl | rfl | rfl | rfl | rfl | rfl | rfl <;> simp [eq_comm]

/-- What the loop leaves in the buffer is the address exactly if the port looks the same in both
byte orders, unless the loop ends in front of it, and the bytes behind the end of the loop are
there already. -/
theorem holdsAddress_writeAddress_iff {memory : Uint8Array} {addressPointer : Nat}
    (hfits : addressPointer + 8 ≤ memory.length) (addressLength : Nat) (s : SockAddr) :
    HoldsAddress (writeAddress addressPointer addressLength s.text memory) addressPointer s ↔
      (addressLength ≤ 2 ∨ s.high = s.low) ∧
        ∀ i, addressLength ≤ i → i < 8 → memory[addressPointer + i]? = s.bytes[i]? := by
  have hbytes : slice (writeAddress addressPointer addressLength s.text memory) addressPointer
      (addressPointer + 8) = s.bytes ↔ ∀ i < 8,
        (if i < addressLength then (sockaddr s.text)[i]? else memory[addressPointer + i]?) =
          s.bytes[i]? := by
    rw [List.ext_getElem?_iff]
    apply forall_congr'
    intro i
    rw [getElem?_slice]
    by_cases hi : i < 8
    · rw [if_pos (by omega), getElem?_writeAddress hi (by omega)]
      exact (imp_iff_right hi).symm
    · have hnone : s.bytes[i]? = none := List.getElem?_eq_none (Nat.le_of_not_lt hi)
      rw [if_neg (by omega), hnone]
      exact iff_of_true rfl fun h => absurd h hi
  rw [holdsAddress_iff, hbytes]
  constructor
  · intro h
    constructor
    · by_cases hport : addressLength ≤ 2
      · exact .inl hport
      · have hbyte := h 2 (by omega)
        rw [if_pos (by omega)] at hbyte
        exact .inr ((getElem?_sockaddr_text_eq_iff s (by omega)).mp hbyte (.inl rfl))
    · intro i hle hi
      have hbyte := h i hi
      rwa [if_neg (by omega)] at hbyte
  · intro ⟨hport, hrest⟩ i hi
    split_ifs with hlt
    · apply (getElem?_sockaddr_text_eq_iff s hi).mpr
      intro hindex
      apply hport.resolve_left
      omega
    · exact hrest i (by omega) hi

/-- `unisockets_accept` and the reading agree on the ports whose two bytes are equal, and on no
others. -/
theorem accept_agrees_with_reading (s : SockAddr) (bytes : Uint8Array) :
    (∀ (memory : Uint8Array) (addressPointer addressLengthPointer clientFd : Nat)
        (addressLength : UInt32),
      slice memory addressLengthPointer (addressLengthPointer + 4) =
        littleEndian 4 addressLength.toNat →
      8 ≤ addressLength.toNat → addressPointer + 8 ≤ memory.length →
      (HoldsAddress (unisockets_accept addressPointer addressLengthPointer memory clientFd
          s.text).1 addressPointer s ↔
        (addressLength.toNat % 256 ≤ 2 ∨ s.port.toNat / 256 = s.port.toNat % 256) ∧
          ∀ i, addressLength.toNat % 256 ≤ i → i < 8 →
            memory[addressPointer + i]? = s.bytes[i]?)) ∧
    (bytes.length = 8 → bytes.take 2 = (getAsBinary AF_INET).take 2 →
      ((readAddress bytes 0 8).map sockaddr = some bytes ↔ bytes[2]? = bytes[3]?)) := by
  constructor
  · intro memory addressPointer addressLengthPointer clientFd addressLength hstored _ hfits
    rw [unisockets_accept, addressLengthAt_eq hstored, holdsAddress_writeAddress_iff hfits,
      s.high_eq_low_iff]
  · intro hlength hfamily
    match bytes, hlength with
    | [f, g, high, low, a, b, c, d], _ =>
      have hfamily : [f, g] = [2, 0] := hfamily
      have hread : readAddress [f, g, high, low, a, b, c, d] 0 8 =
          some (SockAddr.ofBytes high low a b c d).text := readAddress_of_slice rfl
      rw [hread, Option.map_some, sockaddr_text, SockAddr.high_ofBytes, SockAddr.low_ofBytes]
      show some [2, 0, low, high, a, b, c, d] = some ([f, g] ++ [high, low, a, b, c, d]) ↔
        some high = some low
      rw [hfamily]
      simp [eq_comm]

/-- A port of two equal bytes, in a buffer of sixteen bytes whose length follows. -/
theorem accept_agrees_with_reading_symmetric :
    HoldsAddress (unisockets_accept 0 16 (List.replicate 16 0 ++ [16, 0, 0, 0]) 4
      "127.0.0.1:257").1 0 ⟨127, 0, 0, 1, 257⟩ ∧
    (readAddress [2, 0, 1, 1, 127, 0, 0, 1] 0 8).map sockaddr =
      some [2, 0, 1, 1, 127, 0, 0, 1] := by
  obtain ⟨hwritten, hread⟩ :=
    accept_agrees_with_reading ⟨127, 0, 0, 1, 257⟩ [2, 0, 1, 1, 127, 0, 0, 1]
  constructor
  · refine (hwritten _ 0 16 4 16 rfl (by decide) (by decide)).mpr ⟨?_, ?_⟩
    · exact .inr rfl
    · intro i hle hi
      have hlength : (16 : UInt32).toNat % 256 = 16 := rfl
      omega
  · exact (hread rfl rfl).mpr rfl

/-- The port 80 comes out as 20480 on either way. -/
theorem accept_disagrees_with_reading :
    (∃ memory : Uint8Array, slice memory 16 20 = littleEndian 4 16 ∧ memory.length = 20 ∧
      readAddress (unisockets_accept 0 16 memory 4 "127.0.0.1:80").1 0 16 =
        some "127.0.0.1:20480" ∧
      ¬HoldsAddress (unisockets_accept 0 16 memory 4 "127.0.0.1:80").1 0 ⟨127, 0, 0, 1, 80⟩) ∧
    (readAddress [2, 0, 0, 80, 127, 0, 0, 1] 0 8).map sockaddr =
      some [2, 0, 80, 0, 127, 0, 0, 1] := by
  constructor
  · refine ⟨List.replicate 16 0 ++ [16, 0, 0, 0], rfl, rfl, by decide +kernel, ?_⟩
    rw [holdsAddress_iff]
    decide +kernel
  · decide +kernel

end Unisockets.Guest
