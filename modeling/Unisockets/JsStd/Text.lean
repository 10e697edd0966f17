import Mathlib.Data.List.Basic

/-!
# Numbers and strings of JavaScript

`Number` holds what `parseInt` and an integer counter can produce: `NaN` or
an integer.  The numbers of the language are doubles, and below `2 ^ 53`
(`Number.isSafe`) these are the integers.  From there on `parseInt` rounds, and
from `10 ^ 21` on a number is printed with an exponent, so that its text is no
longer read back; both are left out.  Where a result rests on reading back what
was printed, the bound is a hypothesis of it.

`split`, `join` and `parseInt` follow the standard library.  Three facts are
what an address format needs of them: `join_split` (joining the parts gives
the text back), `split_append` (a separator splits a text where it stands)
and `parseInt_repr_append` (`parseInt` reads back the decimal digits of a
natural number and stops at the first character that is no digit).  Every number
is read back from its text, `parseInt_toText`.
-/

namespace JsStd

/-! ## Numbers -/

/-- `NaN` or an integer. -/
inductive Number where
  | nan
  | int (value : Int)
  deriving DecidableEq, Repr

namespace Number

instance : Coe Nat Number := ⟨fun n => .int n⟩

/-- `a === b`: `NaN` equals nothing. -/
def strictEq : Number → Number → Bool
  | .int a, .int b => decide (a = b)
  | _, _ => false

/-- `Number.MAX_SAFE_INTEGER`, which is `2 ^ 53 - 1`. -/
def maxSafeInteger : Nat := 9007199254740991

/-- `NaN`, or an integer that no other one is rounded to. -/
def isSafe : Number → Bool
  | .nan => true
  | .int value => decide (value.natAbs ≤ maxSafeInteger)

/-- The template literal `${n}`. -/
def toText : Number → String
  | .nan => "NaN"
  | .int (.ofNat n) => Nat.repr n
  | .int (.negSucc n) => "-" ++ Nat.repr (n + 1)

@[simp]
theorem strictEq_int (a b : Int) : strictEq (.int a) (.int b) = decide (a = b) := rfl

theorem eq_of_strictEq {a b : Number} (h : strictEq a b = true) : a = b := by
  cases a with
  | nan => simp [strictEq] at h
  | int a =>
    cases b with
    | nan => simp [strictEq] at h
    | int b => rw [of_decide_eq_true h]

@[simp]
theorem natCast_inj {m n : Nat} : (m : Number) = (n : Number) ↔ m = n := by
  constructor
  · intro h
    exact Int.ofNat.inj (Number.int.inj h)
  · rintro rfl
    rfl

@[simp]
theorem toText_natCast (n : Nat) : toText (n : Number) = Nat.repr n := rfl

end Number

/-! ## `split` and `join` -/

/-- `text.split(separator)` for a separator of one character. -/
def split (text : String) (separator : Char) : List String :=
  (text.toList.splitOn separator).map String.ofList

/-- `parts.join(separator)`. -/
def join (parts : List String) (separator : Char) : String :=
  String.ofList ([separator].intercalate (parts.map String.toList))

@[simp]
theorem join_split (text : String) (separator : Char) :
    join (split text separator) separator = text := by
  rw [join, split, List.map_map]
  have hid : String.toList ∘ String.ofList = id := funext fun l => String.toList_ofList
  rw [hid, List.map_id, List.intercalate_splitOn, String.ofList_toList]

theorem split_eq_singleton {text : String} {separator : Char}
    (h : separator ∉ text.toList) : split text separator = [text] := by
  rw [split, List.splitOn_eq_singleton h, List.map_cons, List.map_nil,
    String.ofList_toList]

/-- A separator splits the text where it stands. -/
theorem split_append (a b : String) (separator : Char) :
    split (a ++ String.singleton separator ++ b) separator
      = split a separator ++ split b separator := by
  have hl : (a ++ String.singleton separator ++ b).toList
      = a.toList ++ separator :: b.toList := by
    simp
  rw [split, hl, List.splitOn_append_cons_self, List.map_append]
  rfl

private theorem not_mem_of_mem_splitOn {separator : Char} {chars part : List Char}
    (h : part ∈ chars.splitOn separator) : separator ∉ part := by
  induction chars generalizing part with
  | nil =>
    rw [List.splitOn_nil, List.mem_singleton] at h
    simp [h]
  | cons c chars ih =>
    rw [List.splitOn_cons_eq_if_modifyHead] at h
    split_ifs at h with hc
    · rcases List.mem_cons.mp h with rfl | h
      · exact List.not_mem_nil
      · exact ih h
    · cases hsplit : chars.splitOn separator with
      | nil => exact absurd hsplit (List.splitOn_ne_nil _ _)
      | cons first rest =>
        rw [hsplit] at h ih
        rcases List.mem_cons.mp h with rfl | h
        · rw [List.mem_cons, not_or]
          exact ⟨fun he => hc (by simp [he]), ih List.mem_cons_self⟩
        · exact ih (List.mem_cons_of_mem _ h)

/-- A part of a text holds no separator. -/
theorem not_mem_of_mem_split {text part : String} {separator : Char}
    (h : part ∈ split text separator) : separator ∉ part.toList := by
  obtain ⟨chars, hchars, rfl⟩ := List.mem_map.mp h
  rw [String.toList_ofList]
  exact not_mem_of_mem_splitOn hchars

/-- Parts without a separator are what their join is split into. -/
theorem split_join {parts : List String} {separator : Char} (hne : parts ≠ [])
    (h : ∀ part ∈ parts, separator ∉ part.toList) :
    split (join parts separator) separator = parts := by
  rw [split, join, String.toList_ofList, List.splitOn_intercalate]
  · rw [List.map_map]
    have hid : String.ofList ∘ String.toList = id := funext fun text => String.ofList_toList
    rw [hid, List.map_id]
  · intro chars hchars
    obtain ⟨part, hpart, rfl⟩ := List.mem_map.mp hchars
    exact h part hpart
  · simpa using hne

/-- A text with a separator has a second part. -/
theorem two_le_length_split {text : String} {separator : Char} (h : separator ∈ text.toList) :
    2 ≤ (split text separator).length := by
  have hjoin := join_split text separator
  match hparts : split text separator with
  | [] =>
    rw [hparts] at hjoin
    rw [← hjoin] at h
    simp [join] at h
  | [part] =>
    have hpart : part = text := by
      rw [hparts] at hjoin
      rw [← hjoin]
      simp [join]
    have hmem : part ∈ split text separator := by simp [hparts]
    exact absurd (hpart ▸ h) (not_mem_of_mem_split hmem)
  | _ :: _ :: _ => simp

/-! ## `parseInt` -/

/-- The white space that `parseInt` skips. -/
def isWhiteSpace (c : Char) : Bool :=
  c ∈ ['\t', '\n', '\x0b', '\x0c', '\r', ' ', '\u00a0', '\u1680', '\u2028',
    '\u2029', '\u202f', '\u205f', '\u3000', '\ufeff']
    || ('\u2000' ≤ c && c ≤ '\u200a')

/-- The value of a digit of the given radix, `10` or `16`. -/
def digitValue? (radix : Nat) (c : Char) : Option Nat :=
  if c.isDigit then some (c.toNat - '0'.toNat)
  else if radix = 16 ∧ 'a' ≤ c ∧ c ≤ 'f' then some (c.toNat - 'a'.toNat + 10)
  else if radix = 16 ∧ 'A' ≤ c ∧ c ≤ 'F' then some (c.toNat - 'A'.toNat + 10)
  else none

/-- The number that the longest prefix of digits denotes, and whether there
is a digit at all. -/
def parseDigits (radix : Nat) : List Char → Nat → Nat × Bool
  | [], value => (value, false)
  | c :: rest, value =>
    match digitValue? radix c with
    | some d => ((parseDigits radix rest (value * radix + d)).1, true)
    | none => (value, false)

/-- `parseInt` after the sign: a leading `0x` selects hexadecimal digits. -/
def parseUnsigned (negative : Bool) (radix : Nat) (chars : List Char) : Number :=
  let digits := parseDigits radix chars 0
  if digits.2 then .int (if negative then -(digits.1 : Int) else digits.1) else .nan

/-- `parseInt` after the sign: a leading `0x` selects the radix. -/
def parsePrefixed (negative : Bool) : List Char → Number
  | '0' :: 'x' :: rest => parseUnsigned negative 16 rest
  | '0' :: 'X' :: rest => parseUnsigned negative 16 rest
  | chars => parseUnsigned negative 10 chars

/-- `parseInt(text)`. -/
def parseInt (text : String) : Number :=
  match text.toList.dropWhile isWhiteSpace with
  | '-' :: rest => parsePrefixed true rest
  | '+' :: rest => parsePrefixed false rest
  | chars => parsePrefixed false chars

/-- `parseInt(parts[i])`, where a missing element is `undefined` and reads as
the text `"undefined"`. -/
def parseIntAt (parts : List String) (i : Nat) : Number :=
  parseInt ((parts[i]?).getD "undefined")

theorem digitValue?_of_isDigit {radix : Nat} {c : Char} (h : c.isDigit = true) :
    digitValue? radix c = some (c.toNat - '0'.toNat) := by
  rw [digitValue?, if_pos h]

/-- `parseDigits` reads a block of decimal digits and stops behind it. -/
theorem parseDigits_append {digits rest : List Char} (value : Nat)
    (hdigits : ∀ c ∈ digits, c.isDigit = true)
    (hrest : ∀ c ∈ rest.head?, c.isDigit = false) :
    parseDigits 10 (digits ++ rest) value
      = (Nat.ofDigitChars 10 digits value, !digits.isEmpty) := by
  induction digits generalizing value with
  | nil =>
    cases rest with
    | nil => rfl
    | cons c rest =>
      have hc : c.isDigit = false := hrest c rfl
      have hnone : digitValue? 10 c = none := by
        rw [digitValue?, if_neg (by simp [hc]), if_neg (by omega), if_neg (by omega)]
      simp [parseDigits, hnone]
  | cons c digits ih =>
    have hc : c.isDigit = true := hdigits c (by simp)
    rw [List.cons_append, parseDigits, digitValue?_of_isDigit hc]
    simp only
    rw [ih _ fun d hd => hdigits d (List.mem_cons_of_mem _ hd), Nat.ofDigitChars_cons]
    simp [Nat.mul_comm]

/-- A digit is no white space. -/
theorem isWhiteSpace_of_isDigit {c : Char} (h : c.isDigit = true) :
    isWhiteSpace c = false := by
  have hc : 48 ≤ c.toNat ∧ c.toNat ≤ 57 := by
    simpa [Char.isDigit, UInt32.le_iff_toNat_le] using h
  rw [← Bool.not_eq_true]
  intro hw
  simp only [isWhiteSpace, Bool.or_eq_true, decide_eq_true_eq, Bool.and_eq_true,
    List.mem_cons, List.not_mem_nil, or_false] at hw
  rcases hw with hmem | hrange
  · rcases hmem with rfl | rfl | rfl | rfl | rfl | rfl | rfl | rfl | rfl | rfl | rfl | rfl
      | rfl | rfl <;> simp at hc
  · have hle : 0x2000 ≤ c.toNat := by
      simpa [Char.le_def, UInt32.le_iff_toNat_le] using hrange.1
    omega

/-- Unless an `x` follows its first digit, a block of decimal digits has no radix prefix. -/
private theorem parsePrefixed_digits (negative : Bool) {c : Char} {digits : List Char}
    (hx : ∀ d ∈ digits.head?, d ≠ 'x' ∧ d ≠ 'X') :
    parsePrefixed negative (c :: digits) = parseUnsigned negative 10 (c :: digits) := by
  rw [parsePrefixed]
  · intro rest heq
    obtain ⟨-, rfl⟩ := List.cons.inj heq
    exact (hx 'x' rfl).1 rfl
  · intro rest heq
    obtain ⟨-, rfl⟩ := List.cons.inj heq
    exact (hx 'X' rfl).2 rfl

/-- A block of decimal digits is read from its start: it is no sign. -/
private theorem parseInt_digits {c : Char} {digits : List Char}
    (hc : c.isDigit = true) (hx : ∀ d ∈ digits.head?, d ≠ 'x' ∧ d ≠ 'X') :
    parseInt (String.ofList (c :: digits)) = parseUnsigned false 10 (c :: digits) := by
  have hdrop : (c :: digits).dropWhile isWhiteSpace = c :: digits := by
    rw [List.dropWhile_cons, isWhiteSpace_of_isDigit hc]
    rfl
  rw [parseInt, String.toList_ofList, hdrop]
  split
  · rename_i heq
    obtain ⟨rfl, -⟩ := List.cons.inj heq
    simp at hc
  · rename_i heq
    obtain ⟨rfl, -⟩ := List.cons.inj heq
    simp at hc
  · exact parsePrefixed_digits false hx

/-- `parseInt` reads a natural number back from its decimal digits and stops
at the first character that is no digit. -/
theorem parseInt_repr_append (n : Nat) (rest : String)
    (hrest : ∀ c ∈ rest.toList.head?, c.isDigit = false ∧ c ≠ 'x' ∧ c ≠ 'X') :
    parseInt (Nat.repr n ++ rest) = (n : Number) := by
  have hdigit : ∀ c ∈ Nat.toDigits 10 n, c.isDigit = true := fun c hc =>
    Nat.isDigit_of_mem_toDigits (by decide) (by decide) hc
  have htext : Nat.repr n ++ rest = String.ofList (Nat.toDigits 10 n ++ rest.toList) := by
    rw [← String.toList_inj]
    simp
  have hvalue := parseDigits_append 0 hdigit fun c hc => (hrest c hc).1
  rw [Nat.ofDigitChars_ten_toDigits] at hvalue
  rw [htext]
  cases hdigits : Nat.toDigits 10 n with
  | nil => exact absurd hdigits Nat.toDigits_ne_nil
  | cons c digits =>
    rw [hdigits] at hdigit hvalue
    have hx : ∀ d ∈ (digits ++ rest.toList).head?, d ≠ 'x' ∧ d ≠ 'X' := by
      cases digits with
      | nil => exact fun d hd => (hrest d hd).2
      | cons e digits =>
        intro d hd
        have hde : e = d := by simpa using hd
        have hdd : d.isDigit = true := hdigit d (by simp [hde])
        constructor <;> rintro rfl <;> simp at hdd
    rw [List.cons_append, parseInt_digits (hdigit c (by simp)) hx, parseUnsigned,
      ← List.cons_append, hvalue]
    rfl

theorem parseInt_repr (n : Nat) : parseInt (Nat.repr n) = (n : Number) := by
  have h := parseInt_repr_append n "" (by simp)
  rwa [String.append_empty] at h

/-- The decimal digits of a number hold no other character. -/
theorem not_mem_repr {n : Nat} {c : Char} (h : c.isDigit = false) :
    c ∉ (Nat.repr n).toList := by
  rw [Nat.toList_repr]
  intro hc
  rw [Nat.isDigit_of_mem_toDigits (by decide) (by decide) hc] at h
  cases h

private theorem parsePrefixed_repr (negative : Bool) (n : Nat) :
    parsePrefixed negative (Nat.repr n).toList = .int (if negative then -(n : Int) else n) := by
  have hdigit : ∀ c ∈ Nat.toDigits 10 n, c.isDigit = true := fun c hc =>
    Nat.isDigit_of_mem_toDigits (by decide) (by decide) hc
  have hvalue : parseDigits 10 (Nat.toDigits 10 n ++ []) 0 = _ :=
    parseDigits_append 0 hdigit (by simp)
  rw [Nat.ofDigitChars_ten_toDigits, List.append_nil] at hvalue
  rw [Nat.toList_repr]
  cases hdigits : Nat.toDigits 10 n with
  | nil => exact absurd hdigits Nat.toDigits_ne_nil
  | cons c digits =>
    rw [hdigits] at hdigit hvalue
    have hx : ∀ d ∈ digits.head?, d ≠ 'x' ∧ d ≠ 'X' := by
      intro d hd
      have hdd : d.isDigit = true :=
        hdigit d (List.mem_cons_of_mem _ (List.mem_of_mem_head? hd))
      constructor <;> rintro rfl <;> simp at hdd
    rw [parsePrefixed_digits negative hx, parseUnsigned, hvalue]
    rfl

/-- `parseInt` reads every number back from its text. -/
theorem parseInt_toText (x : Number) : parseInt x.toText = x := by
  cases x with
  | nan => decide
  | int value =>
    cases value with
    | ofNat n => exact parseInt_repr n
    | negSucc n =>
      have htext : ("-" ++ Nat.repr (n + 1)).toList = '-' :: (Nat.repr (n + 1)).toList := by
        rw [String.toList_append]
        rfl
      have hdrop : ('-' :: (Nat.repr (n + 1)).toList).dropWhile isWhiteSpace =
          '-' :: (Nat.repr (n + 1)).toList := by
        rw [List.dropWhile_cons]
        rfl
      rw [Number.toText, parseInt, htext, hdrop]
      exact parsePrefixed_repr true (n + 1)

/-- The text of a number holds no separator. -/
theorem not_mem_toText {x : Number} {c : Char} (h : c.isDigit = false) (hminus : c ≠ '-')
    (hnan : c ∉ "NaN".toList) : c ∉ x.toText.toList := by
  cases x with
  | nan => exact hnan
  | int value =>
    cases value with
    | ofNat n => exact not_mem_repr h
    | negSucc n =>
      rw [Number.toText, String.toList_append, List.mem_append, not_or]
      refine ⟨?_, not_mem_repr h⟩
      show c ∉ ['-']
      simpa using hminus

end JsStd
