import Unisockets.JsStd.FirstGap
import Unisockets.JsStd.Map
import Unisockets.Signaling.Address
import Unisockets.Signaling.Operation

/-!
# The registry of allocated addresses

`subnets` of `signaling-server.ts` maps a subnet to its members and a member,
by its suffix, to the ports that are taken there.  This module holds what a
critical section does to the registry; the functions of the server that run
them under the mutex are in `Unisockets.Signaling.Server`.

`member` reads the registry as a partial function of the address.  Every
operation is described by what it does to `member` and to `ports`, and the
later proofs use these descriptions only.
-/

namespace Unisockets.Signaling

open JsStd

/-- `MMember`: the ports that are taken at an address. -/
structure MMember where
  ports : List Number
  deriving DecidableEq

/-- `Map<string, Map<number, MMember>>`. -/
abbrev Subnets := Map String (Map Number MMember)

namespace Subnets

variable {s : Subnets}

/-- The member at an address. -/
def member (s : Subnets) (key : IPAddress) : Option MMember :=
  (s.get key.subnet).bind fun members => members.get key.suffix

/-- The ports taken at an address; none at an address without a member. -/
def ports (s : Subnets) (key : IPAddress) : List Number :=
  ((s.member key).map MMember.ports).getD []

/-- `if (!subnets.has(subnet)) subnets.set(subnet, new Map())`. -/
def ensure (s : Subnets) (subnet : String) : Subnets :=
  if s.has subnet then s else s.set subnet .empty

/-- `subnets.get(subnet).set(suffix, member)`, in a subnet that exists. -/
def setMember (s : Subnets) (key : IPAddress) (member : MMember) : Subnets :=
  match s.get key.subnet with
  | some members => s.set key.subnet (members.set key.suffix member)
  | none => s

/-- `subnets.get(subnet).delete(suffix)`, in a subnet that exists. -/
def deleteMember (s : Subnets) (key : IPAddress) : Subnets :=
  match s.get key.subnet with
  | some members => s.set key.subnet (members.delete key.suffix)
  | none => s

/-! ## What the updates do to `member` -/

theorem member_ensure (subnet : String) (key : IPAddress) :
    (s.ensure subnet).member key = s.member key := by
  unfold ensure
  split_ifs with h
  · rfl
  · unfold member
    rw [Map.get_set]
    split_ifs with hk
    · rw [hk, Map.has_eq_false_iff.mp (Bool.eq_false_of_not_eq_true h)]
      rfl
    · rfl

theorem has_ensure (subnet : String) : (s.ensure subnet).has subnet = true := by
  unfold ensure
  split_ifs with h
  · exact h
  · rw [Map.has_set]
    simp

theorem has_ensure_of_has {subnet : String} (subnet' : String) (h : s.has subnet = true) :
    (s.ensure subnet').has subnet = true := by
  unfold ensure
  split_ifs
  · exact h
  · rw [Map.has_set, h, Bool.or_true]

theorem has_of_member {key : IPAddress} {m : MMember} (h : s.member key = some m) :
    s.has key.subnet = true := by
  obtain ⟨members, hs, -⟩ := Option.bind_eq_some_iff.mp h
  exact Map.has_of_get hs

theorem member_setMember {key : IPAddress} {m : MMember} (h : s.has key.subnet = true)
    (k : IPAddress) :
    (s.setMember key m).member k = if k = key then some m else s.member k := by
  obtain ⟨members, hs⟩ := Map.has_iff.mp h
  obtain ⟨subnet, suffix⟩ := k
  unfold setMember member
  rw [hs, Map.get_set]
  by_cases hsub : subnet = key.subnet
  · rw [if_pos hsub, Option.bind_some, Map.get_set, hsub, hs]
    by_cases hsuf : suffix = key.suffix
    · rw [if_pos hsuf, if_pos]
      rw [hsuf]
    · rw [if_neg hsuf, if_neg]
      · rfl
      · exact fun he => hsuf (congrArg IPAddress.suffix he)
  · rw [if_neg hsub, if_neg]
    exact fun he => hsub (congrArg IPAddress.subnet he)

theorem member_deleteMember (key k : IPAddress) :
    (s.deleteMember key).member k = if k = key then none else s.member k := by
  obtain ⟨subnet, suffix⟩ := k
  unfold deleteMember
  cases hs : s.get key.subnet with
  | none =>
    split_ifs with hk
    · subst hk
      simp [member, hs]
    · rfl
  | some members =>
    unfold member
    rw [Map.get_set]
    by_cases hsub : subnet = key.subnet
    · rw [if_pos hsub, Option.bind_some, Map.get_delete, hsub, hs]
      by_cases hsuf : suffix = key.suffix
      · rw [if_pos hsuf, if_pos]
        rw [hsuf]
      · rw [if_neg hsuf, if_neg]
        · rfl
        · exact fun he => hsuf (congrArg IPAddress.suffix he)
    · rw [if_neg hsub, if_neg]
      exact fun he => hsub (congrArg IPAddress.subnet he)

theorem has_setMember (key : IPAddress) (m : MMember) (subnet : String) :
    (s.setMember key m).has subnet = s.has subnet := by
  unfold setMember
  cases hs : s.get key.subnet with
  | none => rfl
  | some members =>
    rw [Map.has_set]
    by_cases h : subnet = key.subnet
    · rw [h, Map.has_of_get hs, Bool.or_true]
    · simp [h]

theorem has_deleteMember (key : IPAddress) (subnet : String) :
    (s.deleteMember key).has subnet = s.has subnet := by
  unfold deleteMember
  cases hs : s.get key.subnet with
  | none => rfl
  | some members =>
    rw [Map.has_set]
    by_cases h : subnet = key.subnet
    · rw [h, Map.has_of_get hs, Bool.or_true]
    · simp [h]

theorem setMember_setMember (key : IPAddress) (m m' : MMember) :
    (s.setMember key m).setMember key m' = s.setMember key m' := by
  unfold setMember
  cases hs : s.get key.subnet with
  | none => simp [hs]
  | some members => simp [Map.set_set]

theorem ports_of_member {key : IPAddress} {m : MMember} (h : s.member key = some m) :
    s.ports key = m.ports := by
  rw [ports, h]
  rfl

theorem ports_of_member_none {key : IPAddress} (h : s.member key = none) :
    s.ports key = [] := by
  rw [ports, h]
  rfl

/-! ## The critical sections -/

/-- The suffix that `createIPAddress` finds free in a subnet. -/
def nextSuffix (s : Subnets) (subnet : String) : Nat :=
  firstGap (sortNumbers (((s.get subnet).getD .empty).keys))

/-- `createTCPAddress` sorts the ports of a member in place. -/
def sortPorts (s : Subnets) (key : IPAddress) : Subnets :=
  s.setMember key ⟨sortNumbers (s.ports key)⟩

/-- The port that `createTCPAddress` finds free at an address. -/
def nextPort (s : Subnets) (key : IPAddress) : Nat := firstGap (sortNumbers (s.ports key))

/-- `subnets.get(subnet).get(suffix).ports.push(port)`. -/
def pushPort (s : Subnets) (key : IPAddress) (port : Number) : Subnets :=
  s.setMember key ⟨s.ports key ++ [port]⟩

/-- `claimTCPAddress`: take the port of an alias, in a member that is created
when it is missing. -/
def claim (s : Subnets) (tcpAddress : String) : Except SignalingError Subnets :=
  if s.has (ipAddressOf tcpAddress).subnet then
    if (s.ports (ipAddressOf tcpAddress)).any fun p => p.strictEq (portOf tcpAddress) then
      .error .PortAlreadyAllocatedError
    else .ok (s.pushPort (ipAddressOf tcpAddress) (portOf tcpAddress))
  else .error .SubnetDoesNotExistError

/-- `removeIPAddress`: drop the member at an address. -/
def removeIPAddress (s : Subnets) (ipAddress : String) : Subnets :=
  s.deleteMember (parseIPAddress ipAddress)

/-- `removeTCPAddress`: drop the port of an alias from its member. -/
def removeTCPAddress (s : Subnets) (tcpAddress : String) : Subnets :=
  match s.member (ipAddressOf tcpAddress) with
  | some m => s.setMember (ipAddressOf tcpAddress)
      ⟨m.ports.filter fun p => !p.strictEq (portOf tcpAddress)⟩
  | none => s

/-! ## What the critical sections do -/

theorem member_removeIPAddress (ipAddress : String) (k : IPAddress) :
    (s.removeIPAddress ipAddress).member k
      = if k = parseIPAddress ipAddress then none else s.member k :=
  member_deleteMember _ k

theorem member_removeTCPAddress (tcpAddress : String) (k : IPAddress) :
    (s.removeTCPAddress tcpAddress).member k
      = if k = ipAddressOf tcpAddress then
          (s.member k).map fun m => ⟨m.ports.filter fun p => !p.strictEq (portOf tcpAddress)⟩
        else s.member k := by
  unfold removeTCPAddress
  cases hm : s.member (ipAddressOf tcpAddress) with
  | none =>
    split_ifs with hk
    · rw [hk, hm]
      rfl
    · rfl
  | some m =>
    simp only
    rw [member_setMember (has_of_member hm)]
    split_ifs with hk
    · rw [hk, hm]
      rfl
    · rfl

theorem member_sortPorts {key : IPAddress} {m : MMember} (h : s.member key = some m)
    (k : IPAddress) :
    (s.sortPorts key).member k
      = if k = key then some ⟨sortNumbers m.ports⟩ else s.member k := by
  rw [sortPorts, member_setMember (has_of_member h), ports_of_member h]

/-- Creating a missing member first makes no difference to a claim. -/
theorem pushPort_setMember_of_none {key : IPAddress} (port : Number)
    (h : s.has key.subnet = true) (hm : s.member key = none) :
    (s.setMember key ⟨[]⟩).pushPort key port = s.pushPort key port := by
  have hnew : (s.setMember key ⟨[]⟩).member key = some ⟨[]⟩ := by
    rw [member_setMember h, if_pos rfl]
  rw [pushPort, pushPort, setMember_setMember, ports_of_member hnew, ports_of_member_none hm]

theorem claim_eq_ok {tcpAddress : String} {s' : Subnets} (h : s.claim tcpAddress = .ok s') :
    s.has (ipAddressOf tcpAddress).subnet = true ∧
      ((s.ports (ipAddressOf tcpAddress)).any fun p => p.strictEq (portOf tcpAddress)) = false ∧
      s' = s.pushPort (ipAddressOf tcpAddress) (portOf tcpAddress) := by
  unfold claim at h
  split_ifs at h with hsub hport
  · exact ⟨hsub, Bool.eq_false_of_not_eq_true hport, (Except.ok.inj h).symm⟩

/-- A port that is a number is not taken when the claim succeeds. -/
theorem not_mem_ports_of_claim {tcpAddress : String} {s' : Subnets}
    (h : s.claim tcpAddress = .ok s') {p : Nat} (hp : portOf tcpAddress = p) :
    (p : Number) ∉ s.ports (ipAddressOf tcpAddress) := by
  obtain ⟨-, hany, -⟩ := claim_eq_ok h
  intro hmem
  rw [hp] at hany
  have htrue : (s.ports (ipAddressOf tcpAddress)).any (fun q => q.strictEq p) = true :=
    List.any_eq_true.mpr ⟨p, hmem, by simp⟩
  rw [htrue] at hany
  cases hany

theorem has_removeIPAddress (ipAddress subnet : String) :
    (s.removeIPAddress ipAddress).has subnet = s.has subnet :=
  has_deleteMember _ subnet

theorem has_removeTCPAddress (tcpAddress subnet : String) :
    (s.removeTCPAddress tcpAddress).has subnet = s.has subnet := by
  unfold removeTCPAddress
  split
  · exact has_setMember _ _ subnet
  · rfl

/-! ## What the critical sections do to the ports -/

theorem ports_ensure (subnet : String) (k : IPAddress) :
    (s.ensure subnet).ports k = s.ports k := by
  rw [ports, member_ensure, ports]

theorem ports_setMember {key : IPAddress} {m : MMember} (h : s.has key.subnet = true)
    (k : IPAddress) : (s.setMember key m).ports k = if k = key then m.ports else s.ports k := by
  rw [ports, member_setMember h]
  split_ifs <;> rfl

theorem ports_removeIPAddress (ipAddress : String) (k : IPAddress) :
    (s.removeIPAddress ipAddress).ports k
      = if k = parseIPAddress ipAddress then [] else s.ports k := by
  rw [ports, member_removeIPAddress]
  split_ifs <;> rfl

theorem ports_removeTCPAddress (tcpAddress : String) (k : IPAddress) :
    (s.removeTCPAddress tcpAddress).ports k
      = if k = ipAddressOf tcpAddress then
          (s.ports k).filter fun p => !p.strictEq (portOf tcpAddress)
        else s.ports k := by
  rw [ports, member_removeTCPAddress, ports]
  cases s.member k with
  | none => split_ifs <;> rfl
  | some m => split_ifs <;> rfl

theorem mem_ports_sortPorts {key : IPAddress} {m : MMember} (h : s.member key = some m)
    {k : IPAddress} {port : Number} : port ∈ (s.sortPorts key).ports k ↔ port ∈ s.ports k := by
  rw [sortPorts, ports_setMember (has_of_member h)]
  split_ifs with hk
  · rw [hk, mem_sortNumbers]
  · rfl

theorem mem_ports_pushPort {key : IPAddress} {new : Number} (h : s.has key.subnet = true)
    {k : IPAddress} {port : Number} :
    port ∈ (s.pushPort key new).ports k ↔ port ∈ s.ports k ∨ k = key ∧ port = new := by
  rw [pushPort, ports_setMember h]
  split_ifs with hk
  · rw [hk, List.mem_append, List.mem_singleton]
    simp
  · simp [hk]

/-- Removing an alias drops exactly its port. -/
theorem mem_ports_removeTCPAddress {a : String} (ha : IsAlias a) {k : IPAddress}
    {port : Number} : port ∈ (s.removeTCPAddress a).ports k ↔
      port ∈ s.ports k ∧ ¬(ipAddressOf a = k ∧ portOf a = port) := by
  obtain ⟨p, hp⟩ := ha.natural_port
  have hstrict : port.strictEq (portOf a) = true ↔ portOf a = port := by
    rw [hp]
    constructor
    · exact fun h => (Number.eq_of_strictEq h).symm
    · rintro rfl
      simp
  rw [ports_removeTCPAddress]
  split_ifs with hk
  · rw [List.mem_filter, Bool.not_eq_true', ← Bool.not_eq_true, hstrict]
    simp [hk]
  · have hne : ¬ipAddressOf a = k := fun h => hk h.symm
    simp [hne]

theorem mem_ports_removeIPAddress {ipAddress : String} {k : IPAddress} {port : Number} :
    port ∈ (s.removeIPAddress ipAddress).ports k ↔
      port ∈ s.ports k ∧ k ≠ parseIPAddress ipAddress := by
  rw [ports_removeIPAddress]
  split_ifs with hk
  · simp [hk]
  · simp [hk]

theorem isSome_member_removeTCPAddress (tcpAddress : String) (k : IPAddress) :
    ((s.removeTCPAddress tcpAddress).member k).isSome = (s.member k).isSome := by
  rw [member_removeTCPAddress]
  split_ifs
  · rw [Option.isSome_map]
  · rfl

theorem isSome_member_removeIPAddress {ipAddress : String} {k : IPAddress} :
    ((s.removeIPAddress ipAddress).member k).isSome = true ↔
      (s.member k).isSome = true ∧ k ≠ parseIPAddress ipAddress := by
  rw [member_removeIPAddress]
  split_ifs with hk
  · simp [hk]
  · simp [hk]

theorem isSome_member_setMember {key : IPAddress} {m : MMember} (h : s.has key.subnet = true)
    {k : IPAddress} : ((s.setMember key m).member k).isSome = true ↔
      (s.member k).isSome = true ∨ k = key := by
  rw [member_setMember h]
  split_ifs with hk
  · simp [hk]
  · simp [hk]

end Subnets

end Unisockets.Signaling
