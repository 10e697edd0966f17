import Unisockets.Transport.Transporter

/-!
# The memory of the guest

`unisockets_recv` and `unisockets_getsockname` copy bytes into a buffer of the
guest with one loop, `copyOut`.  A write to an index outside of a typed array is
ignored, like `List.set` at such an index.

`getElem?_copyOut` says which bytes the loop writes: it goes one byte beyond the
buffer, because the index is compared with `<=`.
-/

namespace Unisockets.Guest

open Transport

/-- A buffer of the guest. -/
structure Buffer where
  pointer : Nat
  length : Nat
  deriving DecidableEq, Repr

namespace Buffer

/-- The buffer lies inside the memory. -/
def Fits (buffer : Buffer) (memory : Uint8Array) : Prop :=
  buffer.pointer + buffer.length ≤ memory.length

instance (buffer : Buffer) (memory : Uint8Array) : Decidable (buffer.Fits memory) :=
  inferInstanceAs (Decidable (_ ≤ _))

/-- What the guest reads in its buffer. -/
def bytes (buffer : Buffer) (memory : Uint8Array) : Uint8Array :=
  (memory.drop buffer.pointer).take buffer.length

end Buffer

/-- One write of the loop. -/
def writePart (buffer : Buffer) (memory : Uint8Array) (part : UInt8 × Nat) : Uint8Array :=
  if part.2 ≤ buffer.length then memory.set (buffer.pointer + part.2) part.1 else memory

/-- `msg.forEach((messagePart, index) => ...)`. -/
def copyOut (buffer : Buffer) (memory msg : Uint8Array) : Uint8Array :=
  msg.zipIdx.foldl (writePart buffer) memory

theorem length_writePart (buffer : Buffer) (memory : Uint8Array) (part : UInt8 × Nat) :
    (writePart buffer memory part).length = memory.length := by
  unfold writePart
  split_ifs
  · exact List.length_set
  · rfl

/-- The byte at `j` after the part of the loop that starts at index `k`. -/
private theorem getElem?_foldl_writePart (buffer : Buffer) (msg : Uint8Array) (k j : Nat)
    (memory : Uint8Array) :
    ((msg.zipIdx k).foldl (writePart buffer) memory)[j]? =
      if buffer.pointer + k ≤ j ∧ j < buffer.pointer + k + msg.length ∧
          j ≤ buffer.pointer + buffer.length ∧ j < memory.length then
        msg[j - (buffer.pointer + k)]?
      else memory[j]? := by
  induction msg generalizing k memory with
  | nil =>
    have hempty : ¬(buffer.pointer + k ≤ j ∧ j < buffer.pointer + k + 0 ∧
        j ≤ buffer.pointer + buffer.length ∧ j < memory.length) := by omega
    simp only [List.zipIdx_nil, List.foldl_nil, List.length_nil]
    rw [if_neg hempty]
  | cons part msg ih =>
    simp only [List.zipIdx_cons, List.foldl_cons, ih, length_writePart, List.length_cons]
    by_cases hj : j = buffer.pointer + k
    · -- the byte that this step writes
      subst hj
      have hlater : ¬(buffer.pointer + (k + 1) ≤ buffer.pointer + k ∧
          buffer.pointer + k < buffer.pointer + (k + 1) + msg.length ∧
          buffer.pointer + k ≤ buffer.pointer + buffer.length ∧
          buffer.pointer + k < memory.length) := by omega
      rw [if_neg hlater, Nat.sub_self, List.getElem?_cons_zero, writePart]
      by_cases hk : k ≤ buffer.length
      · rw [if_pos hk, List.getElem?_set_self']
        by_cases hm : buffer.pointer + k < memory.length
        · rw [if_pos (by omega), List.getElem?_eq_getElem hm]
          rfl
        · rw [if_neg (by omega), List.getElem?_eq_none (Nat.le_of_not_lt hm)]
          rfl
      · rw [if_neg hk, if_neg (by omega)]
    · have hkeep : (writePart buffer memory (part, k))[j]? = memory[j]? := by
        unfold writePart
        split_ifs
        · exact List.getElem?_set_ne (Ne.symm hj)
        · rfl
      rw [hkeep]
      by_cases hin : buffer.pointer + k ≤ j ∧ j < buffer.pointer + k + (msg.length + 1) ∧
          j ≤ buffer.pointer + buffer.length ∧ j < memory.length
      · have hrest : buffer.pointer + (k + 1) ≤ j ∧ j < buffer.pointer + (k + 1) + msg.length ∧
            j ≤ buffer.pointer + buffer.length ∧ j < memory.length := by omega
        have hindex : j - (buffer.pointer + k) = (j - (buffer.pointer + (k + 1))) + 1 := by omega
        rw [if_pos hrest, if_pos hin, hindex, List.getElem?_cons_succ]
      · have hrest : ¬(buffer.pointer + (k + 1) ≤ j ∧
            j < buffer.pointer + (k + 1) + msg.length ∧
            j ≤ buffer.pointer + buffer.length ∧ j < memory.length) := by omega
        rw [if_neg hrest, if_neg hin]

/-- The bytes that the loop writes. -/
theorem getElem?_copyOut (buffer : Buffer) (memory msg : Uint8Array) (j : Nat) :
    (copyOut buffer memory msg)[j]? =
      if buffer.pointer ≤ j ∧ j < buffer.pointer + msg.length ∧
          j ≤ buffer.pointer + buffer.length ∧ j < memory.length then
        msg[j - buffer.pointer]?
      else memory[j]? :=
  getElem?_foldl_writePart buffer msg 0 j memory

/-- A message that fits is in the buffer. -/
theorem bytes_copyOut {buffer : Buffer} {memory msg : Uint8Array} (hfits : buffer.Fits memory)
    (hmsg : msg.length ≤ buffer.length) :
    (buffer.bytes (copyOut buffer memory msg)).take msg.length = msg := by
  have hfits : buffer.pointer + buffer.length ≤ memory.length := hfits
  apply List.ext_getElem?
  intro i
  rw [Buffer.bytes, List.take_take, Nat.min_eq_left hmsg, List.getElem?_take]
  split_ifs with hi
  · have hin : buffer.pointer ≤ buffer.pointer + i ∧
        buffer.pointer + i < buffer.pointer + msg.length ∧
        buffer.pointer + i ≤ buffer.pointer + buffer.length ∧
        buffer.pointer + i < memory.length := by omega
    rw [List.getElem?_drop, getElem?_copyOut, if_pos hin, Nat.add_sub_cancel_left]
  · exact (List.getElem?_eq_none (Nat.le_of_not_lt hi)).symm

end Unisockets.Guest
