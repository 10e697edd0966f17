import Mathlib.Tactic.SplitIfs
import Unisockets.JsStd.Utf16

/-!
# JSON

`JSON.stringify` and `JSON.parse` over code units.  A number is kept as its
literal, and an object keeps its members as they are written; of members with
the same name the last one counts.  The reordering of members whose names are
array indices is left out.

`JSON.parse_stringify` is the round trip: every value is read back from its
text, whatever the strings in it hold.  `Json.field_ofFields` says what is read of an
object that was made of fields.
-/

namespace JsStd

namespace JSON

/-! ## Characters -/

def quote : UInt16 := 0x22
def backslash : UInt16 := 0x5C
def comma : UInt16 := 0x2C
def colon : UInt16 := 0x3A
def openBrace : UInt16 := 0x7B
def closeBrace : UInt16 := 0x7D
def openBracket : UInt16 := 0x5B
def closeBracket : UInt16 := 0x5D

/-- White space between tokens: tab, line feed, carriage return and blank. -/
def isSpace (u : UInt16) : Bool := u = 0x09 || u = 0x0A || u = 0x0D || u = 0x20

def skip (text : CodeUnits) : CodeUnits := text.dropWhile isSpace

/-- A token of one character. -/
def expect (token : UInt16) (text : CodeUnits) : Option CodeUnits :=
  match skip text with
  | [] => none
  | u :: rest => if u = token then some rest else none

/-- The rest of a text after one of the words `true`, `false` and `null`. -/
def word (token text : CodeUnits) : Option CodeUnits :=
  if token.isPrefixOf text then some (text.drop token.length) else none

/-! ## Numbers -/

/-- How much of a number has been read. -/
inductive NumberState where
  | start | minus | zero | integer | point | fraction | exponent | sign | power
  deriving DecidableEq, Repr

namespace NumberState

def isDigit (u : UInt16) : Bool := 0x30 ≤ u && u ≤ 0x39

def isExponent (u : UInt16) : Bool := u = 0x65 || u = 0x45

/-- The state after one more character, if it goes on with the number. -/
def step : NumberState → UInt16 → Option NumberState
  | .start, u =>
    if u = 0x2D then some .minus
    else if u = 0x30 then some .zero
    else if isDigit u then some .integer else none
  | .minus, u => if u = 0x30 then some .zero else if isDigit u then some .integer else none
  | .zero, u => if u = 0x2E then some .point else if isExponent u then some .exponent else none
  | .integer, u =>
    if isDigit u then some .integer
    else if u = 0x2E then some .point
    else if isExponent u then some .exponent else none
  | .point, u => if isDigit u then some .fraction else none
  | .fraction, u =>
    if isDigit u then some .fraction else if isExponent u then some .exponent else none
  | .exponent, u =>
    if u = 0x2B || u = 0x2D then some .sign else if isDigit u then some .power else none
  | .sign, u => if isDigit u then some .power else none
  | .power, u => if isDigit u then some .power else none

/-- Whether a number may end here. -/
def accepts : NumberState → Bool
  | .zero | .integer | .fraction | .power => true
  | _ => false

/-- The longest literal that a text goes on with, and the rest of the text. -/
def read : NumberState → CodeUnits → Option (CodeUnits × CodeUnits)
  | s, [] => if s.accepts then some ([], []) else none
  | s, u :: rest =>
    match s.step u with
    | some s' => (read s' rest).map fun r => (u :: r.1, r.2)
    | none => if s.accepts then some ([], u :: rest) else none

end NumberState

/-- The literal of a number. -/
structure NumberLiteral where
  units : CodeUnits
  valid : NumberState.start.read units = some (units, [])

end JSON

open JSON

/-- A value of JSON. -/
inductive Json where
  | null
  | bool (value : Bool)
  | number (literal : NumberLiteral)
  | string (value : CodeUnits)
  | array (items : List Json)
  | object (members : List (CodeUnits × Json))

namespace JSON

/-! ## `JSON.stringify` -/

/-- The characters with an escape of one letter, and this letter. -/
def escapes : List (UInt16 × UInt16) :=
  [(0x22, 0x22), (0x5C, 0x5C), (0x08, 0x62), (0x0C, 0x66), (0x0A, 0x6E), (0x0D, 0x72),
    (0x09, 0x74)]

/-- A digit of `\uXXXX`. -/
def hexDigit (n : Nat) : UInt16 := if n < 10 then .ofNat (0x30 + n) else .ofNat (0x57 + n)

def hex (u : UInt16) : CodeUnits :=
  [hexDigit (u.toNat / 4096), hexDigit (u.toNat / 256 % 16), hexDigit (u.toNat / 16 % 16),
    hexDigit (u.toNat % 16)]

/-- A code unit that does not belong to a surrogate pair, in a string literal. -/
def quoteUnit (u : UInt16) : CodeUnits :=
  match escapes.lookup u with
  | some e => [backslash, e]
  | none =>
    if u < 0x20 || CodeUnits.isHigh u || CodeUnits.isLow u then backslash :: 0x75 :: hex u
    else [u]

/-- The inside of a string literal.  `paired` says that the code unit before is
the first half of a surrogate pair. -/
def quoteUnits : Bool → CodeUnits → CodeUnits
  | _, [] => []
  | paired, u :: rest =>
    if CodeUnits.isHigh u && rest.head?.any CodeUnits.isLow then u :: quoteUnits true rest
    else if paired && CodeUnits.isLow u then u :: quoteUnits false rest
    else quoteUnit u ++ quoteUnits false rest

def quoteString (s : CodeUnits) : CodeUnits := quote :: quoteUnits false s ++ [quote]

mutual

def stringify : Json → CodeUnits
  | .null => units "null"
  | .bool true => units "true"
  | .bool false => units "false"
  | .number literal => literal.units
  | .string s => quoteString s
  | .array items => openBracket :: stringifyItems items ++ [closeBracket]
  | .object members => openBrace :: stringifyMembers members ++ [closeBrace]

def stringifyItems : List Json → CodeUnits
  | [] => []
  | [v] => stringify v
  | v :: items => stringify v ++ comma :: stringifyItems items

def stringifyMember : CodeUnits × Json → CodeUnits
  | (key, v) => quoteString key ++ colon :: stringify v

def stringifyMembers : List (CodeUnits × Json) → CodeUnits
  | [] => []
  | [m] => stringifyMember m
  | m :: members => stringifyMember m ++ comma :: stringifyMembers members

end

/-! ## `JSON.parse` -/

theorem NumberState.read_literal {s : NumberState} {text : CodeUnits} {r : CodeUnits × CodeUnits}
    (h : s.read text = some r) : s.read r.1 = some (r.1, []) := by
  induction text generalizing s r with
  | nil =>
    rw [read] at h
    split_ifs at h with hs
    cases h
    simp [read, hs]
  | cons u text ih =>
    rw [read] at h
    cases hstep : s.step u with
    | none =>
      rw [hstep] at h
      simp only at h
      split_ifs at h with hs
      cases h
      simp [read, hs]
    | some s' =>
      rw [hstep] at h
      obtain ⟨r', hr', rfl⟩ := Option.map_eq_some_iff.mp h
      simp [read, hstep, ih hr']

def number (text : CodeUnits) : Option (Json × CodeUnits) :=
  match h : NumberState.start.read text with
  | none => none
  | some r => some (.number ⟨r.1, NumberState.read_literal h⟩, r.2)

/-- The value of a digit of `\uXXXX`. -/
def hexValue (u : UInt16) : Option Nat :=
  if 0x30 ≤ u.toNat ∧ u.toNat ≤ 0x39 then some (u.toNat - 0x30)
  else if 0x61 ≤ u.toNat ∧ u.toNat ≤ 0x66 then some (u.toNat - 0x57)
  else if 0x41 ≤ u.toNat ∧ u.toNat ≤ 0x46 then some (u.toNat - 0x37)
  else none

/-- The code unit of four digits. -/
def unhex (a b c d : UInt16) : Option UInt16 :=
  (hexValue a).bind fun a => (hexValue b).bind fun b => (hexValue c).bind fun c =>
    (hexValue d).map fun d => .ofNat (4096 * a + 256 * b + 16 * c + d)

/-- The character of an escape of one letter. -/
def unescape (e : UInt16) : Option UInt16 :=
  if e = 0x2F then some 0x2F else (escapes.find? fun p => p.2 = e).map Prod.fst

/-- The inside of a string literal, up to the quote that ends it. -/
def stringBody : CodeUnits → Option (CodeUnits × CodeUnits)
  | [] => none
  | u :: rest =>
    if u = quote then some ([], rest)
    else if u = backslash then
      match rest with
      | 0x75 :: a :: b :: c :: d :: rest =>
        (unhex a b c d).bind fun v => (stringBody rest).map fun r => (v :: r.1, r.2)
      | e :: rest => (unescape e).bind fun v => (stringBody rest).map fun r => (v :: r.1, r.2)
      | [] => none
    else if u < 0x20 then none
    else (stringBody rest).map fun r => (u :: r.1, r.2)

mutual

/-- A value and the rest of the text.  The fuel bounds the depth of the calls. -/
def value : Nat → CodeUnits → Option (Json × CodeUnits)
  | 0, _ => none
  | fuel + 1, text =>
    match skip text with
    | [] => none
    | u :: rest =>
      if u = quote then (stringBody rest).map fun r => (.string r.1, r.2)
      else if u = openBrace then
        match expect closeBrace rest with
        | some rest => some (.object [], rest)
        | none => (members fuel rest).map fun r => (.object r.1, r.2)
      else if u = openBracket then
        match expect closeBracket rest with
        | some rest => some (.array [], rest)
        | none => (items fuel rest).map fun r => (.array r.1, r.2)
      else if u = 0x74 then (word (units "true") (u :: rest)).map fun rest => (.bool true, rest)
      else if u = 0x66 then (word (units "false") (u :: rest)).map fun rest => (.bool false, rest)
      else if u = 0x6E then (word (units "null") (u :: rest)).map fun rest => (.null, rest)
      else number (u :: rest)

/-- The items of an array, up to the bracket that ends it. -/
def items : Nat → CodeUnits → Option (List Json × CodeUnits)
  | 0, _ => none
  | fuel + 1, text =>
    (value fuel text).bind fun v =>
      match expect comma v.2 with
      | some rest => (items fuel rest).map fun r => (v.1 :: r.1, r.2)
      | none => (expect closeBracket v.2).map fun rest => ([v.1], rest)

/-- The members of an object, up to the brace that ends it. -/
def members : Nat → CodeUnits → Option (List (CodeUnits × Json) × CodeUnits)
  | 0, _ => none
  | fuel + 1, text =>
    (expect quote text).bind fun text =>
    (stringBody text).bind fun key =>
    (expect colon key.2).bind fun text =>
    (value fuel text).bind fun v =>
      match expect comma v.2 with
      | some rest => (members fuel rest).map fun r => ((key.1, v.1) :: r.1, r.2)
      | none => (expect closeBrace v.2).map fun rest => ([(key.1, v.1)], rest)

end

/-- `JSON.parse`; `none` where it throws a `SyntaxError`.  No text nests deeper
than it is long. -/
def parse (text : CodeUnits) : Option Json :=
  (value (text.length + 1) text).bind fun r => if skip r.2 = [] then some r.1 else none

/-! ## Strings are read back -/

theorem hexValue_hexDigit : ∀ n < 16, hexValue (hexDigit n) = some n := by decide +kernel

theorem unhex_hex (u : UInt16) :
    unhex (hexDigit (u.toNat / 4096)) (hexDigit (u.toNat / 256 % 16))
      (hexDigit (u.toNat / 16 % 16)) (hexDigit (u.toNat % 16)) = some u := by
  have hlt : u.toNat < 65536 := u.toNat_lt
  rw [unhex, hexValue_hexDigit _ (by omega), hexValue_hexDigit _ (by omega),
    hexValue_hexDigit _ (by omega), hexValue_hexDigit _ (by omega)]
  simp only [Option.bind_some, Option.map_some, Option.some.injEq]
  rw [show 4096 * (u.toNat / 4096) + 256 * (u.toNat / 256 % 16) + 16 * (u.toNat / 16 % 16)
    + u.toNat % 16 = u.toNat by omega, UInt16.ofNat_toNat]

theorem unescape_escape (p : UInt16 × UInt16) (hp : p ∈ escapes) :
    unescape p.2 = some p.1 ∧ p.2 ≠ 0x75 := by
  have hall : (escapes.all fun p => unescape p.2 = some p.1 && p.2 != 0x75) = true := by
    decide +kernel
  simpa using List.all_eq_true.mp hall p hp

/-- An escape of one letter. -/
theorem stringBody_escape {e v : UInt16} (hv : unescape e = some v) (he : e ≠ 0x75)
    (rest : CodeUnits) :
    stringBody (backslash :: e :: rest) = (stringBody rest).map fun r => (v :: r.1, r.2) := by
  rw [stringBody.eq_def]
  simp only [if_neg (show ¬backslash = quote by decide), if_pos]
  split
  · rename_i heq
    exact absurd (List.cons.inj heq).1 he
  · rename_i heq
    obtain ⟨rfl, rfl⟩ := List.cons.inj heq
    rw [hv]
    rfl
  · rename_i heq
    cases heq

/-- A code unit that stands for itself. -/
theorem stringBody_plain {u : UInt16} (hquote : u ≠ quote) (hbackslash : u ≠ backslash)
    (hcontrol : ¬u < 0x20) (rest : CodeUnits) :
    stringBody (u :: rest) = (stringBody rest).map fun r => (u :: r.1, r.2) := by
  rw [stringBody.eq_def]
  simp only [if_neg hquote, if_neg hbackslash, if_neg hcontrol]

theorem mem_of_lookup {l : List (UInt16 × UInt16)} {u e : UInt16} (h : l.lookup u = some e) :
    (u, e) ∈ l := by
  induction l with
  | nil => cases h
  | cons p l ih =>
    rw [List.lookup_cons] at h
    split at h
    · rename_i hu
      cases h
      rw [eq_of_beq hu]
      exact List.mem_cons_self
    · exact List.mem_cons_of_mem _ (ih h)

theorem stringBody_quoteUnit (u : UInt16) (rest : CodeUnits) :
    stringBody (quoteUnit u ++ rest) = (stringBody rest).map fun r => (u :: r.1, r.2) := by
  unfold quoteUnit
  cases he : escapes.lookup u with
  | some e =>
    obtain ⟨hv, hne⟩ := unescape_escape _ (mem_of_lookup he)
    exact stringBody_escape hv hne rest
  | none =>
    simp only
    split_ifs with hspecial
    · rw [List.cons_append, List.cons_append, stringBody.eq_def]
      simp only [if_neg (show ¬backslash = quote by decide), if_pos, hex, List.cons_append,
        List.nil_append, unhex_hex, Option.bind_some]
    · have hquote : u ≠ quote := by
        rintro rfl
        cases he
      have hbackslash : u ≠ backslash := by
        rintro rfl
        cases he
      rw [Bool.not_eq_true, Bool.or_eq_false_iff, Bool.or_eq_false_iff] at hspecial
      exact stringBody_plain hquote hbackslash (of_decide_eq_false hspecial.1.1) rest

/-- Half a surrogate pair stands for itself. -/
theorem stringBody_surrogate {u : UInt16} (h : 0xD800 ≤ u.toNat) (rest : CodeUnits) :
    stringBody (u :: rest) = (stringBody rest).map fun r => (u :: r.1, r.2) := by
  apply stringBody_plain
  · rintro rfl
    exact absurd h (by decide)
  · rintro rfl
    exact absurd h (by decide)
  · rw [UInt16.lt_iff_toNat_lt]
    show ¬u.toNat < 32
    omega

theorem stringBody_quoteUnits (paired : Bool) (s rest : CodeUnits) :
    stringBody (quoteUnits paired s ++ quote :: rest) = some (s, rest) := by
  induction s generalizing paired with
  | nil =>
    rw [quoteUnits, List.nil_append, stringBody.eq_def]
    exact if_pos rfl
  | cons u s ih =>
    rw [quoteUnits]
    split_ifs with hfirst hsecond
    · have hhigh := (Bool.and_eq_true_iff.mp hfirst).1
      rw [CodeUnits.isHigh, Bool.and_eq_true, decide_eq_true_eq] at hhigh
      rw [List.cons_append, stringBody_surrogate hhigh.1, ih]
      rfl
    · have hlow := (Bool.and_eq_true_iff.mp hsecond).2
      rw [CodeUnits.isLow, Bool.and_eq_true, decide_eq_true_eq] at hlow
      rw [List.cons_append, stringBody_surrogate (by omega), ih]
      rfl
    · rw [List.append_assoc, stringBody_quoteUnit, ih]
      rfl

/-- A string literal is read back. -/
theorem stringBody_quoteString (s rest : CodeUnits) :
    ∃ body, quoteString s ++ rest = quote :: body ∧ stringBody body = some (s, rest) := by
  refine ⟨quoteUnits false s ++ quote :: rest, ?_, stringBody_quoteUnits false s rest⟩
  simp [quoteString]

/-! ## Values are read back -/

/-- A text that no number goes on with. -/
def Stops (text : CodeUnits) : Prop := ∀ u ∈ text.head?, ∀ s, NumberState.step s u = none

theorem stops_nil : Stops [] := by simp [Stops]

theorem stops_cons {u : UInt16} (hu : u = comma ∨ u = closeBrace ∨ u = closeBracket)
    (rest : CodeUnits) : Stops (u :: rest) := by
  intro u' hu' s
  cases hu'
  rcases hu with rfl | rfl | rfl <;> cases s <;> rfl

theorem NumberState.read_append {s : NumberState} {literal rest : CodeUnits}
    (h : s.read literal = some (literal, [])) (hrest : Stops rest) :
    s.read (literal ++ rest) = some (literal, rest) := by
  induction literal generalizing s with
  | nil =>
    rw [read] at h
    split_ifs at h with hs
    cases rest with
    | nil => simp [read, hs]
    | cons u rest => simp [read, hs, hrest u rfl]
  | cons u literal ih =>
    rw [read] at h
    rw [List.cons_append, read]
    cases hstep : s.step u with
    | none =>
      rw [hstep] at h
      simp only at h
      split_ifs at h
      simp at h
    | some s' =>
      rw [hstep] at h
      obtain ⟨r, hr, heq⟩ := Option.map_eq_some_iff.mp h
      have hread : s'.read literal = some (literal, []) := by
        rw [hr]
        simp only [Prod.mk.injEq, List.cons.injEq, true_and] at heq
        exact congrArg some (Prod.ext heq.1 heq.2)
      simp [ih hread]

theorem number_literal (literal : NumberLiteral) {rest : CodeUnits} (hrest : Stops rest) :
    number (literal.units ++ rest) = some (.number literal, rest) := by
  have hread := NumberState.read_append literal.valid hrest
  unfold number
  split
  · rename_i h
    rw [hread] at h
    cases h
  · rename_i r h
    rw [hread] at h
    cases h
    rfl

/-- The first character of a number. -/
theorem NumberLiteral.head (literal : NumberLiteral) : ∃ u units, literal.units = u :: units ∧
    (u = 0x2D ∨ NumberState.isDigit u = true) := by
  have hvalid := literal.valid
  cases hunits : literal.units with
  | nil =>
    rw [hunits] at hvalid
    cases hvalid
  | cons u units =>
    refine ⟨u, units, rfl, ?_⟩
    rw [hunits, NumberState.read] at hvalid
    by_contra hnot
    rw [not_or] at hnot
    have hzero : u ≠ 0x30 := by
      rintro rfl
      exact hnot.2 rfl
    have hnone : NumberState.start.step u = none := by
      simp [NumberState.step, hnot.1, hnot.2, hzero]
    rw [hnone] at hvalid
    cases hvalid

theorem skip_cons {u : UInt16} (h : isSpace u = false) (rest : CodeUnits) :
    skip (u :: rest) = u :: rest := by
  rw [skip, List.dropWhile_cons, h]
  rfl

theorem expect_cons {u : UInt16} (h : isSpace u = false) (token : UInt16) (rest : CodeUnits) :
    expect token (u :: rest) = if u = token then some rest else none := by
  rw [expect, skip_cons h]

/-- What a value starts with: no blank, and no bracket that ends a list. -/
def Starts (u : UInt16) : Prop :=
  isSpace u = false ∧ u ≠ closeBracket ∧ u ≠ closeBrace

instance : DecidablePred Starts := fun u =>
  inferInstanceAs (Decidable (isSpace u = false ∧ u ≠ closeBracket ∧ u ≠ closeBrace))

theorem starts_digit {u : UInt16} (h : u = 0x2D ∨ NumberState.isDigit u = true) :
    Starts u ∧ u ≠ quote ∧ u ≠ openBrace ∧ u ≠ openBracket ∧ u ≠ 0x74 ∧ u ≠ 0x66 ∧ u ≠ 0x6E := by
  rcases h with rfl | h
  · decide +kernel
  · have hdigit : 0x30 ≤ u.toNat ∧ u.toNat ≤ 0x39 := by
      rw [NumberState.isDigit, Bool.and_eq_true, decide_eq_true_eq, decide_eq_true_eq] at h
      exact ⟨UInt16.le_iff_toNat_le.mp h.1, UInt16.le_iff_toNat_le.mp h.2⟩
    have hne : ∀ v : UInt16, ¬(0x30 ≤ v.toNat ∧ v.toNat ≤ 0x39) → u ≠ v := by
      rintro v hv rfl
      exact hv hdigit
    refine ⟨⟨?_, hne _ (by decide), hne _ (by decide)⟩, hne _ (by decide), hne _ (by decide),
      hne _ (by decide), hne _ (by decide), hne _ (by decide), hne _ (by decide)⟩
    simp [isSpace, hne 0x09 (by decide), hne 0x0A (by decide), hne 0x0D (by decide),
      hne 0x20 (by decide)]

theorem stringify_head (v : Json) : ∃ u text, stringify v = u :: text ∧ Starts u := by
  cases v with
  | number literal =>
    obtain ⟨u, text, hunits, hu⟩ := literal.head
    exact ⟨u, text, by rw [stringify, hunits], (starts_digit hu).1⟩
  | null => exact ⟨0x6E, (units "null").tail, by rw [stringify]; decide +kernel, by decide⟩
  | bool b =>
    cases b with
    | true => exact ⟨0x74, (units "true").tail, by rw [stringify]; decide +kernel, by decide⟩
    | false => exact ⟨0x66, (units "false").tail, by rw [stringify]; decide +kernel, by decide⟩
  | string s => exact ⟨quote, _, by rw [stringify]; rfl, by decide⟩
  | array l => exact ⟨openBracket, _, by rw [stringify]; rfl, by decide⟩
  | object m => exact ⟨openBrace, _, by rw [stringify]; rfl, by decide⟩

theorem stringifyItems_head (v : Json) (l : List Json) :
    ∃ u text, stringifyItems (v :: l) = u :: text ∧ Starts u := by
  obtain ⟨u, text, hv, hu⟩ := stringify_head v
  cases l with
  | nil => exact ⟨u, text, by rw [stringifyItems, hv], hu⟩
  | cons w l => exact ⟨u, _, by rw [stringifyItems, hv]; rfl; simp, hu⟩

theorem stringifyMembers_head (m : CodeUnits × Json) (l : List (CodeUnits × Json)) :
    ∃ text, stringifyMembers (m :: l) = quote :: text := by
  obtain ⟨key, v⟩ := m
  cases l with
  | nil => exact ⟨_, by rw [stringifyMembers, stringifyMember]; rfl⟩
  | cons w l => exact ⟨_, by rw [stringifyMembers, stringifyMember]; rfl; simp⟩

theorem value_number (literal : NumberLiteral) (fuel : Nat) {rest : CodeUnits}
    (hrest : Stops rest) :
    value (fuel + 1) (literal.units ++ rest) = some (.number literal, rest) := by
  have hnumber := number_literal literal hrest
  obtain ⟨u, text, hunits, hu⟩ := literal.head
  obtain ⟨hstarts, hquote, hbrace, hbracket, ht, hf, hn⟩ := starts_digit hu
  rw [hunits, List.cons_append] at hnumber ⊢
  rw [value, skip_cons hstarts.1]
  simp only [if_neg hquote, if_neg hbrace, if_neg hbracket, if_neg ht, if_neg hf, if_neg hn]
  exact hnumber

theorem value_word (fuel : Nat) (rest : CodeUnits) :
    value (fuel + 1) (units "null" ++ rest) = some (.null, rest) ∧
      value (fuel + 1) (units "true" ++ rest) = some (.bool true, rest) ∧
      value (fuel + 1) (units "false" ++ rest) = some (.bool false, rest) := by
  rw [show units "null" = [0x6E, 0x75, 0x6C, 0x6C] by decide +kernel,
    show units "true" = [0x74, 0x72, 0x75, 0x65] by decide +kernel,
    show units "false" = [0x66, 0x61, 0x6C, 0x73, 0x65] by decide +kernel]
  simp only [List.cons_append, List.nil_append, value]
  rw [skip_cons (by decide), skip_cons (by decide), skip_cons (by decide)]
  exact ⟨rfl, rfl, rfl⟩

theorem value_string (s : CodeUnits) (fuel : Nat) (rest : CodeUnits) :
    value (fuel + 1) (quoteString s ++ rest) = some (.string s, rest) := by
  obtain ⟨body, hbody, hread⟩ := stringBody_quoteString s rest
  rw [hbody, value, skip_cons (by decide)]
  simp only [if_pos, hread]
  rfl

section

variable {fuel : Nat} {text more rest : CodeUnits}

theorem value_array {l : List Json} (h : items fuel (text ++ closeBracket :: rest) = some (l, rest))
    (hstart : ∃ u t, text = u :: t ∧ Starts u) :
    value (fuel + 1) (openBracket :: text ++ [closeBracket] ++ rest) = some (.array l, rest) := by
  have hnone : expect closeBracket (text ++ closeBracket :: rest) = none := by
    obtain ⟨u, t, rfl, hu⟩ := hstart
    rw [List.cons_append, expect_cons hu.1, if_neg hu.2.1]
  rw [List.cons_append, List.cons_append, List.append_assoc, List.singleton_append, value,
    skip_cons (by decide)]
  simp only [if_neg (show ¬openBracket = quote by decide),
    if_neg (show ¬openBracket = openBrace by decide), if_pos, hnone, h]
  rfl

theorem value_object {l : List (CodeUnits × Json)}
    (h : members fuel (text ++ closeBrace :: rest) = some (l, rest))
    (hstart : ∃ t, text = quote :: t) :
    value (fuel + 1) (openBrace :: text ++ [closeBrace] ++ rest) = some (.object l, rest) := by
  have hnone : expect closeBrace (text ++ closeBrace :: rest) = none := by
    obtain ⟨t, rfl⟩ := hstart
    rw [List.cons_append, expect_cons (by decide), if_neg (by decide)]
  rw [List.cons_append, List.cons_append, List.append_assoc, List.singleton_append, value,
    skip_cons (by decide)]
  simp only [if_neg (show ¬openBrace = quote by decide), if_pos, hnone, h]
  rfl

theorem items_last {v : Json}
    (h : value fuel (text ++ closeBracket :: rest) = some (v, closeBracket :: rest)) :
    items (fuel + 1) (text ++ closeBracket :: rest) = some ([v], rest) := by
  rw [items, h, Option.bind_some, expect_cons (by decide), if_neg (by decide),
    expect_cons (by decide), if_pos rfl]
  rfl

theorem items_next {v : Json} {l : List Json}
    (h : value fuel (text ++ comma :: more) = some (v, comma :: more))
    (hmore : items fuel more = some (l, rest)) :
    items (fuel + 1) (text ++ comma :: more) = some (v :: l, rest) := by
  rw [items, h, Option.bind_some, expect_cons (by decide), if_pos rfl]
  simp only [hmore]
  rfl

theorem members_last {key : CodeUnits} {v : Json}
    (h : value fuel (text ++ closeBrace :: rest) = some (v, closeBrace :: rest)) :
    members (fuel + 1) (quoteString key ++ colon :: (text ++ closeBrace :: rest))
      = some ([(key, v)], rest) := by
  obtain ⟨body, hbody, hread⟩ := stringBody_quoteString key (colon :: (text ++ closeBrace :: rest))
  rw [hbody, members, expect_cons (by decide), if_pos rfl, Option.bind_some, hread,
    Option.bind_some, expect_cons (by decide), if_pos rfl, Option.bind_some, h, Option.bind_some,
    expect_cons (by decide), if_neg (by decide), expect_cons (by decide), if_pos rfl]
  rfl

theorem members_next {key : CodeUnits} {v : Json} {l : List (CodeUnits × Json)}
    (h : value fuel (text ++ comma :: more) = some (v, comma :: more))
    (hmore : members fuel more = some (l, rest)) :
    members (fuel + 1) (quoteString key ++ colon :: (text ++ comma :: more))
      = some ((key, v) :: l, rest) := by
  obtain ⟨body, hbody, hread⟩ := stringBody_quoteString key (colon :: (text ++ comma :: more))
  rw [hbody, members, expect_cons (by decide), if_pos rfl, Option.bind_some, hread,
    Option.bind_some, expect_cons (by decide), if_pos rfl, Option.bind_some, h, Option.bind_some,
    expect_cons (by decide), if_pos rfl]
  simp only [hmore]
  rfl

end

/-- With this fuel every value of fitting length is read back from its text. -/
def ReadsValues (fuel : Nat) : Prop := ∀ v rest, (stringify v).length < fuel → Stops rest →
  value fuel (stringify v ++ rest) = some (v, rest)

def ReadsItems (fuel : Nat) : Prop := ∀ v l rest, (stringifyItems (v :: l)).length + 1 < fuel →
  items fuel (stringifyItems (v :: l) ++ closeBracket :: rest) = some (v :: l, rest)

def ReadsMembers (fuel : Nat) : Prop := ∀ m l rest,
  (stringifyMembers (m :: l)).length + 1 < fuel →
  members fuel (stringifyMembers (m :: l) ++ closeBrace :: rest) = some (m :: l, rest)

section

variable {fuel : Nat}

theorem ReadsValues.succ (hitems : ReadsItems fuel) (hmembers : ReadsMembers fuel) :
    ReadsValues (fuel + 1) := by
  intro v rest hfuel hrest
  cases v with
  | null =>
    rw [stringify]
    exact (value_word fuel rest).1
  | bool b =>
    cases b with
    | true =>
      rw [stringify]
      exact (value_word fuel rest).2.1
    | false =>
      rw [stringify]
      exact (value_word fuel rest).2.2
  | number literal =>
    rw [stringify]
    exact value_number literal fuel hrest
  | string s =>
    rw [stringify]
    exact value_string s fuel rest
  | array l =>
    rw [stringify] at hfuel ⊢
    simp only [List.length_cons, List.length_append, List.length_nil] at hfuel
    cases l with
    | nil =>
      rw [stringifyItems, value]
      rfl
    | cons v l => exact value_array (hitems v l rest (by omega)) (stringifyItems_head v l)
  | object l =>
    rw [stringify] at hfuel ⊢
    simp only [List.length_cons, List.length_append, List.length_nil] at hfuel
    cases l with
    | nil =>
      rw [stringifyMembers, value]
      rfl
    | cons m l => exact value_object (hmembers m l rest (by omega)) (stringifyMembers_head m l)

theorem ReadsItems.succ (hvalue : ReadsValues fuel) (hitems : ReadsItems fuel) :
    ReadsItems (fuel + 1) := by
  intro v l rest hfuel
  cases l with
  | nil =>
    rw [stringifyItems] at hfuel ⊢
    exact items_last (hvalue v _ (by omega) (stops_cons (.inr (.inr rfl)) rest))
  | cons w l =>
    rw [stringifyItems] at hfuel ⊢
    · simp only [List.length_cons, List.length_append] at hfuel
      rw [List.append_assoc, List.cons_append]
      exact items_next (hvalue v _ (by omega) (stops_cons (.inl rfl) _))
        (hitems w l rest (by omega))
    · simp
    · simp

theorem ReadsMembers.succ (hvalue : ReadsValues fuel) (hmembers : ReadsMembers fuel) :
    ReadsMembers (fuel + 1) := by
  intro m l rest hfuel
  obtain ⟨key, v⟩ := m
  cases l with
  | nil =>
    rw [stringifyMembers, stringifyMember] at hfuel ⊢
    simp only [List.length_cons, List.length_append] at hfuel
    rw [List.append_assoc, List.cons_append]
    exact members_last (hvalue v _ (by omega) (stops_cons (.inr (.inl rfl)) rest))
  | cons n l =>
    rw [stringifyMembers, stringifyMember] at hfuel ⊢
    · simp only [List.length_cons, List.length_append] at hfuel
      rw [List.append_assoc, List.cons_append, List.append_assoc, List.cons_append]
      exact members_next (hvalue v _ (by omega) (stops_cons (.inl rfl) _))
        (hmembers n l rest (by omega))
    · simp
    · simp

end

/-- Induction on the fuel, which every call uses up. -/
theorem reads (fuel : Nat) : ReadsValues fuel ∧ ReadsItems fuel ∧ ReadsMembers fuel := by
  induction fuel with
  | zero =>
    refine ⟨?_, ?_, ?_⟩
    · exact fun v rest h => absurd h (Nat.not_lt_zero _)
    · exact fun v l rest h => absurd h (Nat.not_lt_zero _)
    · exact fun m l rest h => absurd h (Nat.not_lt_zero _)
  | succ fuel ih =>
    obtain ⟨hvalue, hitems, hmembers⟩ := ih
    exact ⟨.succ hitems hmembers, .succ hvalue hitems, .succ hvalue hmembers⟩

/-- What `JSON.stringify` writes, `JSON.parse` reads. -/
theorem parse_stringify (v : Json) : parse (stringify v) = some v := by
  have hread := (reads _).1 v [] (Nat.lt_succ_self (stringify v).length) stops_nil
  rw [List.append_nil] at hread
  rw [parse, hread]
  rfl

end JSON

/-! ## Reading a value -/

namespace Json

/-- `v[name]`, if this is not `undefined`; the last member of a name counts. -/
def field (v : Json) (name : String) : Option Json :=
  match v with
  | .object members => (members.reverse.find? fun m => m.1 = units name).map Prod.snd
  | _ => none

/-- A string, if it is a text. -/
def text (v : Json) : Option String :=
  match v with
  | .string value => CodeUnits.text value
  | _ => none

def flag (v : Json) : Option Bool :=
  match v with
  | .bool value => some value
  | _ => none

/-- An object; `JSON.stringify` leaves out what is `undefined`. -/
def ofFields (fields : List (String × Option Json)) : Json :=
  .object (fields.filterMap fun f => f.2.map fun v => (units f.1, v))

@[simp]
theorem text_units (s : String) : text (.string (units s)) = some s := CodeUnits.text_units s

/-- The last field of a name is read back. -/
theorem field_ofFields (fields : List (String × Option Json)) (name : String) :
    field (ofFields fields) name
      = (fields.reverse.find? fun f => f.1 = name && f.2.isSome).bind Prod.snd := by
  simp only [field, ofFields]
  rw [← List.filterMap_reverse]
  induction fields.reverse with
  | nil => rfl
  | cons f fields ih =>
    obtain ⟨name', v⟩ := f
    cases v with
    | none => simpa using ih
    | some v =>
      by_cases hname : name' = name
      · simp [hname]
      · simpa [hname, CodeUnits.units_injective.eq_iff] using ih

end Json

end JsStd
