import Mathlib.Algebra.Ring.Int.Defs
import Mathlib.Algebra.Ring.Nat
import Unisockets.JsStd.Text

/-!
# Typed arrays

The conversions of numbers to bytes and back, and reading and writing a block of bytes.
Typed arrays are little-endian.

* `ofLittleEndian_littleEndian` and `littleEndian_ofLittleEndian`: the bytes of a number
  stand for it, and every list of bytes is that of a number.
* `getElem?_writeBytes`: what a block of writes does to each byte, wherever the block lies.
* `wrote_iff`: what it means that exactly a block has been written.
* `writeBytes_take_eq_iff`: when one can do without the end of a block.
-/

namespace JsStd

/-! ## Little-endian numbers -/

/-- The lowest bytes of a number, the lowest one first. -/
def littleEndian : Nat → Nat → List UInt8
  | 0, _ => []
  | width + 1, n => UInt8.ofNat n :: littleEndian width (n / 256)

/-- The number that bytes stand for, the lowest one first. -/
def ofLittleEndian : List UInt8 → Nat
  | [] => 0
  | byte :: bytes => byte.toNat + 256 * ofLittleEndian bytes

@[simp]
theorem length_littleEndian (width n : Nat) : (littleEndian width n).length = width := by
  induction width generalizing n with
  | zero => rfl
  | succ width ih => rw [littleEndian, List.length_cons, ih]

theorem ofLittleEndian_littleEndian (width n : Nat) :
    ofLittleEndian (littleEndian width n) = n % 256 ^ width := by
  induction width generalizing n with
  | zero => simp [littleEndian, ofLittleEndian, Nat.mod_one]
  | succ width ih =>
    have hbyte : (UInt8.ofNat n).toNat = n % 256 := UInt8.toNat_ofNat'
    rw [littleEndian, ofLittleEndian, ih, hbyte, Nat.pow_succ', Nat.mod_mul]

theorem littleEndian_ofLittleEndian (bytes : List UInt8) :
    littleEndian bytes.length (ofLittleEndian bytes) = bytes := by
  induction bytes with
  | nil => rfl
  | cons byte bytes ih =>
    have hlt : byte.toNat < 256 := byte.toNat_lt
    have hlow : UInt8.ofNat (byte.toNat + 256 * ofLittleEndian bytes) = byte := by
      apply UInt8.toNat_inj.mp
      rw [UInt8.toNat_ofNat']
      omega
    have hhigh : (byte.toNat + 256 * ofLittleEndian bytes) / 256 = ofLittleEndian bytes := by
      omega
    rw [List.length_cons, ofLittleEndian, littleEndian, hlow, hhigh, ih]

/-- The bytes tell the numbers apart that differ modulo the size. -/
theorem littleEndian_eq_iff {width n m : Nat} :
    littleEndian width n = littleEndian width m ↔ n % 256 ^ width = m % 256 ^ width := by
  have hmod : ∀ n, littleEndian width (n % 256 ^ width) = littleEndian width n := by
    intro n
    have h := littleEndian_ofLittleEndian (littleEndian width n)
    rwa [length_littleEndian, ofLittleEndian_littleEndian] at h
  constructor
  · intro h
    have hvalue := congrArg ofLittleEndian h
    rwa [ofLittleEndian_littleEndian, ofLittleEndian_littleEndian] at hvalue
  · intro h
    rw [← hmod n, h, hmod]

theorem take_littleEndian {k width : Nat} (h : k ≤ width) (n : Nat) :
    (littleEndian width n).take k = littleEndian k n := by
  induction k generalizing width n with
  | zero => rfl
  | succ k ih =>
    cases width with
    | zero => omega
    | succ width =>
      rw [littleEndian, List.take_succ_cons, ih (by omega), littleEndian]

/-! ## Conversions -/

namespace Number

/-- The value that an element of a `Uint8Array` takes. -/
def toUint8 : Number → UInt8
  | .nan => 0
  | .int n => UInt8.ofNat (n % 256).toNat

/-- The 32 bits of the value that an element of an `Int32Array` takes. -/
def toInt32 : Number → Nat
  | .nan => 0
  | .int n => (n % 2 ^ 32).toNat

theorem toUint8_natCast (n : Nat) : toUint8 (n : Number) = UInt8.ofNat n := by
  apply UInt8.toNat_inj.mp
  rw [toUint8, UInt8.toNat_ofNat', UInt8.toNat_ofNat']
  omega

theorem toInt32_natCast (n : Nat) : toInt32 (n : Number) = n % 2 ^ 32 := by
  rw [toInt32]
  omega

end Number

/-! ## Blocks of an array -/

section Block

variable {α : Type}

/-- `array.slice(start, end)`. -/
def slice (array : List α) (first last : Nat) : List α := (array.take last).drop first

theorem getElem?_slice (array : List α) (first last i : Nat) :
    (slice array first last)[i]? = if first + i < last then array[first + i]? else none := by
  rw [slice, List.getElem?_drop, List.getElem?_take]

theorem slice_append {array : List α} {first middle last : Nat} (h : first ≤ middle)
    (h' : middle ≤ last) :
    slice array first middle ++ slice array middle last = slice array first last := by
  apply List.ext_getElem?
  intro i
  rw [List.getElem?_append, getElem?_slice, getElem?_slice, getElem?_slice]
  have hlength : (slice array first middle).length = min middle array.length - first := by
    rw [slice, List.length_drop, List.length_take]
  rw [hlength]
  by_cases hi : i < min middle array.length - first
  · rw [if_pos hi, if_pos (by omega), if_pos (by omega)]
  · rw [if_neg hi]
    by_cases hin : first + i < array.length
    · have hindex : middle + (i - (min middle array.length - first)) = first + i := by omega
      rw [hindex]
    · rw [List.getElem?_eq_none (by omega), List.getElem?_eq_none (by omega), ite_self, ite_self]

/-- `array[pointer + i] = items[i]` for every item.  A write to an index outside of the
array is ignored. -/
def writeBytes (array : List α) (pointer : Nat) : List α → List α
  | [] => array
  | item :: items => writeBytes (array.set pointer item) (pointer + 1) items

@[simp]
theorem length_writeBytes (array : List α) (pointer : Nat) (items : List α) :
    (writeBytes array pointer items).length = array.length := by
  induction items generalizing array pointer with
  | nil => rfl
  | cons item items ih => rw [writeBytes, ih, List.length_set]

theorem writeBytes_append (array : List α) (pointer : Nat) (items items' : List α) :
    writeBytes array pointer (items ++ items') =
      writeBytes (writeBytes array pointer items) (pointer + items.length) items' := by
  induction items generalizing array pointer with
  | nil => rfl
  | cons item items ih =>
    have hindex : pointer + 1 + items.length = pointer + (items.length + 1) := by omega
    rw [List.cons_append, writeBytes, ih, writeBytes, List.length_cons, hindex]

/-- The writes reach the items of the block, and nothing else. -/
theorem getElem?_writeBytes (array : List α) (pointer : Nat) (items : List α) (j : Nat) :
    (writeBytes array pointer items)[j]? =
      if pointer ≤ j ∧ j < pointer + items.length ∧ j < array.length then items[j - pointer]?
      else array[j]? := by
  induction items generalizing array pointer with
  | nil =>
    have hempty : ¬(pointer ≤ j ∧ j < pointer + 0 ∧ j < array.length) := by omega
    rw [writeBytes, List.length_nil, if_neg hempty]
  | cons item items ih =>
    rw [writeBytes, ih, List.length_set, List.length_cons]
    by_cases hj : j = pointer
    · -- the first item
      subst hj
      have hlater : ¬(j + 1 ≤ j ∧ j < j + 1 + items.length ∧ j < array.length) := by omega
      rw [if_neg hlater, Nat.sub_self, List.getElem?_cons_zero, List.getElem?_set_self']
      by_cases hin : j < array.length
      · rw [if_pos (by omega), List.getElem?_eq_getElem hin]
        rfl
      · rw [if_neg (by omega), List.getElem?_eq_none (by omega)]
        rfl
    · rw [List.getElem?_set_ne (Ne.symm hj)]
      by_cases hin : pointer + 1 ≤ j ∧ j < pointer + 1 + items.length ∧ j < array.length
      · have hindex : j - pointer = j - (pointer + 1) + 1 := by omega
        rw [if_pos hin, if_pos (by omega), hindex, List.getElem?_cons_succ]
      · rw [if_neg hin, if_neg (by omega)]

/-- Exactly the items have been written from a pointer on, as far as they lie in the array. -/
structure Wrote (array array' : List α) (pointer : Nat) (items : List α) : Prop where
  length : array'.length = array.length
  written : ∀ i < items.length, pointer + i < array.length → array'[pointer + i]? = items[i]?
  others : ∀ j, j < pointer ∨ pointer + items.length ≤ j → array'[j]? = array[j]?

theorem wrote_iff {array array' : List α} {pointer : Nat} {items : List α} :
    Wrote array array' pointer items ↔ array' = writeBytes array pointer items := by
  constructor
  · intro h
    apply List.ext_getElem?
    intro j
    rw [getElem?_writeBytes]
    by_cases hin : pointer ≤ j ∧ j < pointer + items.length ∧ j < array.length
    · have hindex : pointer + (j - pointer) = j := by omega
      have hwritten := h.written (j - pointer) (by omega) (by omega)
      rw [if_pos hin, ← hwritten, hindex]
    · rw [if_neg hin]
      by_cases hlength : j < array.length
      · exact h.others j (by omega)
      · have hlength' := h.length
        rw [List.getElem?_eq_none (by omega), List.getElem?_eq_none (by omega)]
  · rintro rfl
    constructor
    · exact length_writeBytes _ _ _
    · intro i hi hinside
      rw [getElem?_writeBytes, if_pos (by omega), Nat.add_sub_cancel_left]
    · intro j hj
      rw [getElem?_writeBytes, if_neg (by omega)]

/-- A loop over the indices that writes what there is of the items. -/
theorem foldl_range_eq_writeBytes (items : List α) (pointer n : Nat) (array : List α) :
    (List.range n).foldl (fun array i =>
        match items[i]? with
        | some item => array.set (pointer + i) item
        | none => array) array = writeBytes array pointer (items.take n) := by
  induction n with
  | zero => rfl
  | succ n ih =>
    rw [List.range_succ, List.foldl_append, ih, List.take_add_one, writeBytes_append]
    show (match items[n]? with | some item => _ | none => _) = _
    cases h : items[n]? with
    | none => rfl
    | some item =>
      have hn : n < items.length := by
        by_contra hle
        rw [List.getElem?_eq_none (by omega)] at h
        cases h
      have hlength : (items.take n).length = n := by
        rw [List.length_take]
        omega
      rw [hlength]
      rfl

/-- The end of a block makes no difference exactly if its items are in the array, as far as
they lie inside of it. -/
theorem writeBytes_take_eq_iff {array : List α} {pointer : Nat} {items : List α} {k n : Nat}
    (hkn : k ≤ n) : writeBytes array pointer (items.take k) = writeBytes array pointer
      (items.take n) ↔ ∀ i, k ≤ i → i < n → i < items.length → pointer + i < array.length →
        array[pointer + i]? = items[i]? := by
  constructor
  · intro h i hki hin hi hinside
    have hbyte := congrArg (fun l : List α => l[pointer + i]?) h
    simp only [getElem?_writeBytes, List.length_take] at hbyte
    rw [if_neg (by omega), if_pos (by omega), Nat.add_sub_cancel_left, List.getElem?_take,
      if_pos hin] at hbyte
    exact hbyte
  · intro h
    apply List.ext_getElem?
    intro j
    rw [getElem?_writeBytes, getElem?_writeBytes, List.length_take, List.length_take]
    by_cases hshort : pointer ≤ j ∧ j < pointer + min k items.length ∧ j < array.length
    · rw [if_pos hshort, if_pos (by omega), List.getElem?_take, List.getElem?_take,
        if_pos (by omega), if_pos (by omega)]
    · rw [if_neg hshort]
      by_cases hlong : pointer ≤ j ∧ j < pointer + min n items.length ∧ j < array.length
      · have hindex : pointer + (j - pointer) = j := by omega
        have hsame := h (j - pointer) (by omega) (by omega) (by omega) (by omega)
        rw [hindex] at hsame
        rw [if_pos hlong, hsame, List.getElem?_take, if_pos (by omega)]
      · rw [if_neg hlong]

end Block

end JsStd
