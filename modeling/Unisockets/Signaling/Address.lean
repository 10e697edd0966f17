import Unisockets.JsStd.FirstGap

/-!
# Addresses and their text form

`toIPAddress`, `toTCPAddress`, `parseIPAddress` and `parseTCPAddress` of
`signaling-server.ts`.  Printing puts the suffix behind the subnet and the port
behind the address; parsing takes the text apart at the dots and the colons.

The two are inverse on a subnet of three parts: `parseIPAddress_toIPAddress_iff`
and `parseTCPAddress_toTCPAddress`.  `parseIPAddress_toTCPAddress` is the fact
behind the calls that pass a whole alias to `parseIPAddress`: `parseInt` stops
at the colon, so the alias parses to the address in front of its port.
-/

namespace Unisockets.Signaling

open JsStd

/-- The key of a member of the registry: a subnet and a suffix in it. -/
structure IPAddress where
  subnet : String
  suffix : Number
  deriving DecidableEq, Repr

/-- The two halves of an alias. -/
structure TCPAddress where
  ipAddress : String
  port : Number
  deriving DecidableEq, Repr

def toIPAddress (subnet : String) (suffix : Number) : String :=
  subnet ++ "." ++ suffix.toText

def toTCPAddress (ipAddress : String) (port : Number) : String :=
  ipAddress ++ ":" ++ port.toText

def parseIPAddress (ipAddress : String) : IPAddress :=
  let parts := split ipAddress '.'
  { subnet := join (parts.take 3) '.'
    suffix := parseIntAt parts 3 }

def parseTCPAddress (tcpAddress : String) : TCPAddress :=
  let parts := split tcpAddress ':'
  { ipAddress := (parts[0]?).getD ""
    port := parseIntAt parts 1 }

/-- The address in front of the port of an alias. -/
def ipAddressOf (tcpAddress : String) : IPAddress :=
  parseIPAddress (parseTCPAddress tcpAddress).ipAddress

/-- The port of an alias. -/
def portOf (tcpAddress : String) : Number := (parseTCPAddress tcpAddress).port

/-! ## Well-formed texts -/

/-- A subnet: three parts separated by dots, and no colon.  Three octets are
such a text, see `isSubnet_octets`. -/
def IsSubnet (subnet : String) : Prop :=
  (split subnet '.').length = 3 ∧ ':' ∉ subnet.toList

/-- An address `a.b.c.d` as `createIPAddress` prints it. -/
def IsAddress (a : String) : Prop :=
  ∃ (subnet : String) (suffix : Nat), IsSubnet subnet ∧ a = toIPAddress subnet suffix

/-- An alias `a.b.c.d:port` in its canonical form. -/
def IsAlias (a : String) : Prop :=
  ∃ (subnet : String) (suffix port : Nat), IsSubnet subnet ∧
    a = toTCPAddress (toIPAddress subnet suffix) port

/-- An address that is read back from its text: the subnet has three parts, and the suffix is
printed and parsed exactly. -/
def IPAddress.Readable (key : IPAddress) : Prop :=
  IsSubnet key.subnet ∧ key.suffix.isSafe = true

/-- An alias whose address and port are read back from their text. -/
def ReadableAlias (a : String) : Prop := (ipAddressOf a).Readable ∧ (portOf a).isSafe = true

private theorem split_toIPAddress (subnet rest : String) :
    split (subnet ++ "." ++ rest) '.' = split subnet '.' ++ split rest '.' :=
  split_append subnet rest '.'

private theorem split_toTCPAddress (ipAddress rest : String) :
    split (ipAddress ++ ":" ++ rest) ':' = split ipAddress ':' ++ split rest ':' :=
  split_append ipAddress rest ':'

private theorem split_repr {n : Nat} {separator : Char} (h : separator.isDigit = false) :
    split (Nat.repr n) separator = [Nat.repr n] :=
  split_eq_singleton (not_mem_repr h)

theorem isSubnet_octets (a b c : Nat) :
    IsSubnet (Nat.repr a ++ "." ++ Nat.repr b ++ "." ++ Nat.repr c) := by
  constructor
  · rw [split_toIPAddress, split_toIPAddress, split_repr rfl, split_repr rfl, split_repr rfl]
    rfl
  · have hcolon : ∀ n : Nat, ':' ∉ (Nat.repr n).toList := fun n => not_mem_repr rfl
    have hdot : ".".toList = ['.'] := rfl
    rw [String.toList_append, String.toList_append, String.toList_append,
      String.toList_append, hdot]
    simp only [List.mem_append, List.mem_singleton, not_or]
    exact ⟨⟨⟨⟨hcolon a, by decide⟩, hcolon b⟩, by decide⟩, hcolon c⟩

/-- The aliases of four octets and a port, as `unisockets_bind` prints them,
are well formed. -/
theorem isAlias_octets (a b c d port : Nat) :
    IsAlias (toTCPAddress
      (toIPAddress (Nat.repr a ++ "." ++ Nat.repr b ++ "." ++ Nat.repr c) d) port) :=
  ⟨_, d, port, isSubnet_octets a b c, rfl⟩

/-! ## Parsing what was printed -/

/-- A text without dots behind a subnet is the fourth part. -/
private theorem parseIPAddress_append {subnet rest : String} (h : (split subnet '.').length = 3)
    (hrest : '.' ∉ rest.toList) :
    parseIPAddress (subnet ++ "." ++ rest) = ⟨subnet, parseInt rest⟩ := by
  have hparts : split (subnet ++ "." ++ rest) '.' = split subnet '.' ++ [rest] := by
    rw [split_toIPAddress, split_eq_singleton hrest]
  have htake : (split subnet '.' ++ [rest]).take 3 = split subnet '.' := by
    rw [← h, List.take_left]
  have hget : (split subnet '.' ++ [rest])[3]? = some rest := by
    rw [← h, List.getElem?_concat_length]
  rw [parseIPAddress, hparts]
  simp only [parseIntAt, htake, hget, join_split, Option.getD_some]

/-- Printing and parsing are inverse on subnets of three parts, and on no others. -/
theorem parseIPAddress_toIPAddress_iff {subnet : String} {x : Number} :
    parseIPAddress (toIPAddress subnet x) = ⟨subnet, x⟩ ↔ (split subnet '.').length = 3 := by
  have hdot : '.' ∉ x.toText.toList := not_mem_toText rfl (by decide) (by decide)
  constructor
  · intro h
    have hsubnet : join ((split subnet '.' ++ [x.toText]).take 3) '.' = subnet := by
      have hparts : split (toIPAddress subnet x) '.' = split subnet '.' ++ [x.toText] := by
        rw [toIPAddress, split_toIPAddress, split_eq_singleton hdot]
      rw [← hparts]
      exact congrArg IPAddress.subnet h
    -- the parts of the subnet are the first three parts of the address
    have hparts : ∀ part ∈ (split subnet '.' ++ [x.toText]).take 3, '.' ∉ part.toList := by
      intro part hpart
      rcases List.mem_append.mp (List.mem_of_mem_take hpart) with hpart | hpart
      · exact not_mem_of_mem_split hpart
      · rwa [List.mem_singleton.mp hpart]
    have hsplit := split_join (by simp) hparts
    rw [hsubnet] at hsplit
    have hlength := congrArg List.length hsplit
    rw [List.length_take, List.length_append, List.length_singleton] at hlength
    omega
  · intro h
    rw [toIPAddress, parseIPAddress_append h hdot, parseInt_toText]

theorem parseIPAddress_toIPAddress {subnet : String} (h : IsSubnet subnet) (x : Number) :
    parseIPAddress (toIPAddress subnet x) = ⟨subnet, x⟩ :=
  parseIPAddress_toIPAddress_iff.mpr h.1

theorem colon_not_mem_toIPAddress {subnet : String} (h : ':' ∉ subnet.toList) (x : Number) :
    ':' ∉ (toIPAddress subnet x).toList := by
  rw [toIPAddress, String.toList_append, String.toList_append, List.mem_append,
    List.mem_append, not_or, not_or]
  exact ⟨⟨h, by decide⟩, not_mem_toText rfl (by decide) (by decide)⟩

theorem parseTCPAddress_toTCPAddress {subnet : String} (h : IsSubnet subnet) (x port : Number) :
    parseTCPAddress (toTCPAddress (toIPAddress subnet x) port) = ⟨toIPAddress subnet x, port⟩ := by
  have hip : split (toIPAddress subnet x) ':' = [toIPAddress subnet x] :=
    split_eq_singleton (colon_not_mem_toIPAddress h.2 x)
  have hport : split port.toText ':' = [port.toText] :=
    split_eq_singleton (not_mem_toText rfl (by decide) (by decide))
  rw [parseTCPAddress, toTCPAddress, split_toTCPAddress, hip, hport]
  simp [parseIntAt, parseInt_toText]

/-- An alias parses, as an IP address, to the address in front of its port. -/
theorem parseIPAddress_toTCPAddress {subnet : String} (h : IsSubnet subnet) (n p : Nat) :
    parseIPAddress (toTCPAddress (toIPAddress subnet n) p) = ⟨subnet, n⟩ := by
  have hassoc : toTCPAddress (toIPAddress subnet n) p
      = subnet ++ "." ++ (Nat.repr n ++ (":" ++ Nat.repr p)) := by
    rw [toTCPAddress, toIPAddress, Number.toText_natCast, Number.toText_natCast]
    simp only [String.append_assoc]
  have hcolon : (":" ++ Nat.repr p).toList = ':' :: (Nat.repr p).toList := by
    rw [String.toList_append]
    rfl
  have hdot : '.' ∉ (Nat.repr n ++ (":" ++ Nat.repr p)).toList := by
    rw [String.toList_append, hcolon, List.mem_append, List.mem_cons, not_or, not_or]
    exact ⟨not_mem_repr rfl, by decide, not_mem_repr rfl⟩
  rw [hassoc, parseIPAddress_append h.1 hdot, parseInt_repr_append]
  rw [hcolon]
  intro c hc
  have hce : c = ':' := by simpa using hc.symm
  subst hce
  decide

theorem ipAddressOf_toTCPAddress {subnet : String} (h : IsSubnet subnet) (x port : Number) :
    ipAddressOf (toTCPAddress (toIPAddress subnet x) port) = ⟨subnet, x⟩ := by
  rw [ipAddressOf, parseTCPAddress_toTCPAddress h, parseIPAddress_toIPAddress h]

theorem portOf_toTCPAddress {subnet : String} (h : IsSubnet subnet) (x port : Number) :
    portOf (toTCPAddress (toIPAddress subnet x) port) = port := by
  rw [portOf, parseTCPAddress_toTCPAddress h]

/-- The answer `"-1"` of `createIPAddress` is no address. -/
theorem toIPAddress_ne_overflow (subnet : String) (suffix : Number) :
    toIPAddress subnet suffix ≠ "-1" := by
  intro he
  have hdot : '.' ∈ (toIPAddress subnet suffix).toList := by
    rw [toIPAddress, String.toList_append, String.toList_append]
    exact List.mem_append_left _ (List.mem_append_right _ (by decide))
  rw [he] at hdot
  revert hdot
  decide

namespace IsAddress

variable {a a' : String}

/-- An address is printed from its parts. -/
theorem eq_toIPAddress (h : IsAddress a) :
    a = toIPAddress (parseIPAddress a).subnet (parseIPAddress a).suffix := by
  obtain ⟨subnet, n, hs, rfl⟩ := h
  rw [parseIPAddress_toIPAddress hs]

/-- Two addresses with the same parts are the same text. -/
theorem ext (h : IsAddress a) (h' : IsAddress a')
    (hparse : parseIPAddress a = parseIPAddress a') : a = a' := by
  rw [h.eq_toIPAddress, h'.eq_toIPAddress, hparse]

theorem ne_overflow (h : IsAddress a) : a ≠ "-1" := by
  obtain ⟨subnet, n, -, rfl⟩ := h
  exact toIPAddress_ne_overflow subnet n

end IsAddress

namespace IsAlias

variable {a a' : String}

/-- `removeIPAddress(alias)` addresses the member that holds the port. -/
theorem parseIPAddress_eq (h : IsAlias a) : parseIPAddress a = ipAddressOf a := by
  obtain ⟨subnet, n, p, hs, rfl⟩ := h
  rw [parseIPAddress_toTCPAddress hs, ipAddressOf_toTCPAddress hs]

/-- An alias is printed from its parts. -/
theorem eq_toTCPAddress (h : IsAlias a) :
    a = toTCPAddress (toIPAddress (ipAddressOf a).subnet (ipAddressOf a).suffix)
      (portOf a) := by
  obtain ⟨subnet, n, p, hs, rfl⟩ := h
  rw [ipAddressOf_toTCPAddress hs, portOf_toTCPAddress hs]

/-- Address and port determine the alias. -/
theorem ext (h : IsAlias a) (h' : IsAlias a')
    (hip : ipAddressOf a = ipAddressOf a') (hport : portOf a = portOf a') :
    a = a' := by
  rw [h.eq_toTCPAddress, h'.eq_toTCPAddress, hip, hport]

/-- The suffix and the port of an alias are natural numbers. -/
theorem natural_suffix (h : IsAlias a) :
    ∃ n : Nat, (ipAddressOf a).suffix = (n : Number) := by
  obtain ⟨subnet, n, p, hs, rfl⟩ := h
  exact ⟨n, by rw [ipAddressOf_toTCPAddress hs]⟩

theorem natural_port (h : IsAlias a) : ∃ p : Nat, portOf a = (p : Number) := by
  obtain ⟨subnet, n, p, hs, rfl⟩ := h
  exact ⟨p, portOf_toTCPAddress hs n p⟩

theorem isSubnet (h : IsAlias a) : IsSubnet (ipAddressOf a).subnet := by
  obtain ⟨subnet, n, p, hs, rfl⟩ := h
  rw [ipAddressOf_toTCPAddress hs]
  exact hs

end IsAlias

/-! ## Deciding well-formedness -/

instance (subnet : String) : Decidable (IsSubnet subnet) :=
  inferInstanceAs (Decidable (_ ∧ _))

instance (key : IPAddress) : Decidable key.Readable := inferInstanceAs (Decidable (_ ∧ _))

instance (a : String) : Decidable (ReadableAlias a) := inferInstanceAs (Decidable (_ ∧ _))

/-- An address is well formed when printing its parts gives it back. -/
theorem isAddress_iff {a : String} :
    IsAddress a ↔ IsSubnet (parseIPAddress a).subnet ∧
      (parseIPAddress a).suffix.isNatural = true ∧
      a = toIPAddress (parseIPAddress a).subnet (parseIPAddress a).suffix := by
  constructor
  · intro h
    have hprinted := h.eq_toIPAddress
    obtain ⟨subnet, n, hs, rfl⟩ := h
    rw [parseIPAddress_toIPAddress hs] at hprinted ⊢
    exact ⟨hs, Number.isNatural_iff.mpr ⟨n, rfl⟩, hprinted⟩
  · rintro ⟨hs, hn, ha⟩
    obtain ⟨n, hn⟩ := Number.isNatural_iff.mp hn
    rw [hn] at ha
    exact ⟨_, n, hs, ha⟩

instance (a : String) : Decidable (IsAddress a) := decidable_of_iff _ isAddress_iff.symm

/-- An alias is well formed when printing its parts gives it back. -/
theorem isAlias_iff {a : String} :
    IsAlias a ↔ IsSubnet (ipAddressOf a).subnet ∧ (ipAddressOf a).suffix.isNatural = true ∧
      (portOf a).isNatural = true ∧
      a = toTCPAddress (toIPAddress (ipAddressOf a).subnet (ipAddressOf a).suffix)
        (portOf a) := by
  constructor
  · intro h
    exact ⟨h.isSubnet, Number.isNatural_iff.mpr h.natural_suffix,
      Number.isNatural_iff.mpr h.natural_port, h.eq_toTCPAddress⟩
  · rintro ⟨hs, hn, hp, ha⟩
    obtain ⟨n, hn⟩ := Number.isNatural_iff.mp hn
    obtain ⟨p, hp⟩ := Number.isNatural_iff.mp hp
    rw [hn, hp] at ha
    exact ⟨_, n, p, hs, ha⟩

instance (a : String) : Decidable (IsAlias a) := decidable_of_iff _ isAlias_iff.symm

end Unisockets.Signaling
