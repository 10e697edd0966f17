import Mathlib.Data.List.Basic

/-!
# Strings as code units

A string of JavaScript is a list of UTF-16 code units, and not every such list
is a text: a surrogate may stand alone.  `units` are the code units of a text,
and `text` reads them back.

`text_units` says that nothing is lost on the way.
-/

namespace JsStd

/-- A string as JavaScript holds it. -/
abbrev CodeUnits := List UInt16

namespace CodeUnits

/-- The first half of a surrogate pair. -/
def isHigh (u : UInt16) : Bool := 0xD800 ≤ u.toNat && u.toNat ≤ 0xDBFF

/-- The second half of a surrogate pair. -/
def isLow (u : UInt16) : Bool := 0xDC00 ≤ u.toNat && u.toNat ≤ 0xDFFF

/-- The code units of a character: one, or a surrogate pair. -/
def ofChar (c : Char) : CodeUnits :=
  if c.toNat < 0x10000 then [.ofNat c.toNat]
  else [.ofNat (0xD800 + (c.toNat - 0x10000) / 0x400),
    .ofNat (0xDC00 + (c.toNat - 0x10000) % 0x400)]

/-- The character of a surrogate pair. -/
def pair (u v : UInt16) : Char :=
  .ofNat (0x10000 + 0x400 * (u.toNat - 0xD800) + (v.toNat - 0xDC00))

/-- The characters that code units stand for; none if a surrogate stands alone. -/
def chars : CodeUnits → Option (List Char)
  | [] => some []
  | u :: rest =>
    if isHigh u then
      match rest with
      | [] => none
      | v :: rest => if isLow v then (chars rest).map (pair u v :: ·) else none
    else if isLow u then none
    else (chars rest).map (Char.ofNat u.toNat :: ·)

/-- The text that code units stand for. -/
def text (units : CodeUnits) : Option String := (chars units).map String.ofList

end CodeUnits

/-- The code units of a text. -/
def units (s : String) : CodeUnits := s.toList.flatMap CodeUnits.ofChar

namespace CodeUnits

theorem toNat_char (c : Char) :
    c.toNat < 0xD800 ∨ (0xDFFF < c.toNat ∧ c.toNat < 0x110000) := c.valid

theorem toNat_ofNat {n : Nat} (h : n < 0x10000) : (UInt16.ofNat n).toNat = n := by
  rw [UInt16.toNat_ofNat']
  exact Nat.mod_eq_of_lt h

theorem chars_single {u : UInt16} (hhigh : isHigh u = false) (hlow : isLow u = false)
    (rest : CodeUnits) : chars (u :: rest) = (chars rest).map (Char.ofNat u.toNat :: ·) := by
  rw [chars.eq_def]
  simp [hhigh, hlow]

theorem chars_pair {u v : UInt16} (hhigh : isHigh u = true) (hlow : isLow v = true)
    (rest : CodeUnits) : chars (u :: v :: rest) = (chars rest).map (pair u v :: ·) := by
  rw [chars.eq_def]
  simp [hhigh, hlow]

/-- A character is read back from its code units. -/
theorem chars_ofChar (c : Char) (rest : CodeUnits) :
    chars (ofChar c ++ rest) = (chars rest).map (c :: ·) := by
  have hvalid := toNat_char c
  unfold ofChar
  split_ifs with hsmall
  · have hu : (UInt16.ofNat c.toNat).toNat = c.toNat := toNat_ofNat hsmall
    have hhigh : isHigh (.ofNat c.toNat) = false := by
      simp [isHigh, hu]
      omega
    have hlow : isLow (.ofNat c.toNat) = false := by
      simp [isLow, hu]
      omega
    rw [List.singleton_append, chars_single hhigh hlow, hu, Char.ofNat_toNat]
  · have hu : (UInt16.ofNat (0xD800 + (c.toNat - 0x10000) / 0x400)).toNat
        = 0xD800 + (c.toNat - 0x10000) / 0x400 := toNat_ofNat (by omega)
    have hv : (UInt16.ofNat (0xDC00 + (c.toNat - 0x10000) % 0x400)).toNat
        = 0xDC00 + (c.toNat - 0x10000) % 0x400 := toNat_ofNat (by omega)
    have hhigh : isHigh (.ofNat (0xD800 + (c.toNat - 0x10000) / 0x400)) = true := by
      rw [isHigh, hu, Bool.and_eq_true, decide_eq_true_eq, decide_eq_true_eq]
      omega
    have hlow : isLow (.ofNat (0xDC00 + (c.toNat - 0x10000) % 0x400)) = true := by
      rw [isLow, hv, Bool.and_eq_true, decide_eq_true_eq, decide_eq_true_eq]
      omega
    have hpair : pair (.ofNat (0xD800 + (c.toNat - 0x10000) / 0x400))
        (.ofNat (0xDC00 + (c.toNat - 0x10000) % 0x400)) = c := by
      rw [pair, hu, hv, show 0x10000 + 0x400 * (0xD800 + (c.toNat - 0x10000) / 0x400 - 0xD800)
        + (0xDC00 + (c.toNat - 0x10000) % 0x400 - 0xDC00) = c.toNat by omega, Char.ofNat_toNat]
    rw [List.cons_append, List.cons_append, List.nil_append, chars_pair hhigh hlow, hpair]

theorem chars_units (l : List Char) (rest : CodeUnits) :
    chars (l.flatMap ofChar ++ rest) = (chars rest).map (l ++ ·) := by
  induction l with
  | nil => simp
  | cons c l ih =>
    rw [List.flatMap_cons, List.append_assoc, chars_ofChar, ih, Option.map_map]
    rfl

/-- A text is read back from its code units. -/
@[simp]
theorem text_units (s : String) : text (units s) = some s := by
  have h := chars_units s.toList []
  rw [List.append_nil] at h
  simp [text, units, h, chars, String.ofList_toList]

/-- Different texts have different code units. -/
theorem units_injective : Function.Injective units := by
  intro a b h
  have htext := congrArg text h
  rw [text_units, text_units] at htext
  exact Option.some.inj htext

end CodeUnits

end JsStd
