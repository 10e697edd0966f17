import Unisockets.Signaling.ServerBridge
import Unisockets.Signaling.WellFormed

/-!
# What a rejected Connect leaves behind

`handleConnect` allocates a port before it looks at the remote alias, and gives it back when
it rejects the Connect.  It gives it back by its printed alias, which is taken apart again, so
that the address of the client must be one that is read back from its text.

* The registry: `Subnets.member_removeTCPAddress_addPort` says that nothing is left of the
  port but the order of the others, which the search has sorted.
* The calls: `Server.createTCPAddress_alone` and `Server.removeTCPAddress_alone` run them to
  their end.
* `connect_rejected` puts them together.
-/

namespace Unisockets.Signaling

open JsStd Async

/-! ## The registry -/

namespace Subnets

variable {s : Subnets} {key : IPAddress} {m : MMember}

/-- The ports at every address are distinct natural numbers. -/
def DistinctPorts (s : Subnets) : Prop :=
  ∀ key m, s.member key = some m → Naturals m.ports ∧ m.ports.Nodup

/-- The alias of a port that `createTCPAddress` takes. -/
def newAlias (s : Subnets) (key : IPAddress) : String :=
  toTCPAddress (toIPAddress key.subnet key.suffix) ((s.sortPorts key).nextPort key : Nat)

/-- The registry behind `createTCPAddress`. -/
def addPort (s : Subnets) (key : IPAddress) : Subnets :=
  (s.sortPorts key).pushPort key ((s.sortPorts key).nextPort key : Nat)

theorem member_addPort (hm : s.member key = some m) (k : IPAddress) :
    (s.addPort key).member k = if k = key then
      some ⟨sortNumbers m.ports ++ [.int ((s.sortPorts key).nextPort key)]⟩ else s.member k := by
  have hsorted : (s.sortPorts key).member key = some ⟨sortNumbers m.ports⟩ := by
    rw [member_sortPorts hm, if_pos rfl]
  rw [addPort, pushPort, member_setMember (has_of_member hsorted), ports_of_member hsorted,
    member_sortPorts hm]
  split_ifs <;> rfl

/-- The port that is taken was free. -/
theorem nextPort_sortPorts_not_mem (h : s.DistinctPorts) (hm : s.member key = some m) :
    (((s.sortPorts key).nextPort key : Nat) : Number) ∉ m.ports := by
  have hsorted : (s.sortPorts key).member key = some ⟨sortNumbers m.ports⟩ := by
    rw [member_sortPorts hm, if_pos rfl]
  obtain ⟨hnat, hnodup⟩ := h key m hm
  rw [nextPort, ports_of_member hsorted, ← mem_sortNumbers]
  apply firstGap_not_mem
  · exact hnat.subset fun x hx => mem_sortNumbers.mp hx
  · exact (sortNumbers_perm _).nodup_iff.mpr hnodup

theorem ipAddressOf_newAlias (hkey : key.Readable) : ipAddressOf (s.newAlias key) = key := by
  rw [newAlias, ipAddressOf_toTCPAddress hkey.1]

theorem portOf_newAlias (hkey : key.Readable) :
    portOf (s.newAlias key) = .int ((s.sortPorts key).nextPort key) := by
  rw [newAlias, portOf_toTCPAddress hkey.1]

/-- Taking a port and giving it back sorts the others. -/
theorem member_removeTCPAddress_addPort (h : s.DistinctPorts) (hm : s.member key = some m)
    (hkey : key.Readable) (k : IPAddress) :
    ((s.addPort key).removeTCPAddress (s.newAlias key)).member k =
      if k = key then some ⟨sortNumbers m.ports⟩ else s.member k := by
  rw [member_removeTCPAddress, ipAddressOf_newAlias hkey, portOf_newAlias hkey,
    member_addPort hm]
  split_ifs with hk
  · have hfree := nextPort_sortPorts_not_mem h hm
    -- the filter finds the new port, and no other
    have hothers : ∀ p ∈ sortNumbers m.ports,
        (!p.strictEq (.int ((s.sortPorts key).nextPort key))) = true := by
      intro p hp
      rw [Bool.not_eq_true', ← Bool.not_eq_true]
      intro hequal
      exact hfree (mem_sortNumbers.mp (Number.eq_of_strictEq hequal ▸ hp))
    rw [Option.map_some, List.filter_append, List.filter_eq_self.mpr hothers]
    simp
  · rfl

end Subnets

/-! ## The calls -/

namespace Server

variable {s : Server}

theorem createTCPAddress_alone {ipAddress : String} {m : MMember} (h : s.subnetsMutex = false)
    (hm : s.subnets.member (parseIPAddress ipAddress) = some m) :
    (createTCPAddress ipAddress).alone s =
      some ({ s with subnets := s.subnets.addPort (parseIPAddress ipAddress) },
        .ok (s.subnets.newAlias (parseIPAddress ipAddress))) := by
  have hsearch := alone_of_advance (ServerTask.advance_createTCPAddress ipAddress s hm)
  have hacquire : (createTCPAddress ipAddress).alone s =
      (createTCPAddress ipAddress).rest.alone s := by
    show (if !s.subnetsMutex then _ else none) = _
    rw [h]
    rfl
  rw [hacquire, hsearch]
  obtain ⟨clients, aliases, subnets, mutex, listeners, outbox⟩ := s
  cases h
  rfl

theorem removeTCPAddress_alone (tcpAddress : String) (h : s.subnetsMutex = false) :
    (removeTCPAddress tcpAddress).alone s =
      some ({ s with subnets := s.subnets.removeTCPAddress tcpAddress }, .ok ()) := by
  obtain ⟨clients, aliases, subnets, mutex, listeners, outbox⟩ := s
  cases h
  rfl

/-- The message of a rejection. -/
def rejection (data : IConnectData) (clientAlias : String) : Operation :=
  .alias {
    id := data.id
    «alias» := clientAlias
    set := false
    clientConnectionId := some data.clientConnectionId }

/-- The state behind a rejected Connect. -/
def rejected (s : Server) (data : IConnectData) : Server :=
  let key := parseIPAddress data.id
  ({ s with subnets := (s.subnets.addPort key).removeTCPAddress (s.subnets.newAlias key) } :
    Server).reply (s.clients.get data.id) (rejection data (s.subnets.newAlias key))

theorem handleConnect_alone_rejected {data : IConnectData} {m : MMember}
    (h : s.subnetsMutex = false) (hm : s.subnets.member (parseIPAddress data.id) = some m)
    (hreject : (s.aliases.get data.remoteAlias).any MAlias.accepting = false) :
    ∃ result, (handleConnect data).alone s = some (s.rejected data, result) := by
  show ∃ result, alone (call (createTCPAddress data.id) >>= handleConnectCreated data) s =
    some (s.rejected data, result)
  rw [alone_bind, alone_call, createTCPAddress_alone h hm, Option.bind_some]
  show ∃ result, alone (if !(s.aliases.get data.remoteAlias).any MAlias.accepting then _ else _) _ =
    some (s.rejected data, result)
  rw [hreject, if_pos (by decide), alone_bind, alone_call,
    removeTCPAddress_alone _ (by exact h), Option.bind_some]
  simp only [handleConnectRejected, rejected]
  cases s.clients.get data.id with
  | none => exact ⟨_, rfl⟩
  | some client => exact ⟨_, rfl⟩

end Server

/-! ## Both together -/

/-- Nothing is left of a rejected Connect but the message about it. -/
structure Untraced (s s' : Server) (data : IConnectData) : Prop where
  clients : s'.clients = s.clients
  aliases : s'.aliases = s.aliases
  subnets : ∀ subnet, s'.subnets.has subnet = s.subnets.has subnet
  members : ∀ key, (s'.subnets.member key).isSome = (s.subnets.member key).isSome
  ports : ∀ key, (s'.subnets.ports key).Perm (s.subnets.ports key)
  /-- The alias in the message names a port of the client that was free. -/
  message : ∃ clientAlias, ipAddressOf clientAlias = parseIPAddress data.id ∧
    portOf clientAlias ∉ s.subnets.ports (parseIPAddress data.id) ∧
    s'.outbox = s.outbox ++ (s.clients.get data.id).toList.map fun client =>
      (client, Server.rejection data clientAlias)

namespace Server

variable {s : Server} {data : IConnectData} {m : MMember}

theorem subnets_rejected : (s.rejected data).subnets =
    (s.subnets.addPort (parseIPAddress data.id)).removeTCPAddress
      (s.subnets.newAlias (parseIPAddress data.id)) := by
  simp only [rejected]
  cases s.clients.get data.id <;> rfl

theorem has_rejected (subnet : String) :
    (s.rejected data).subnets.has subnet = s.subnets.has subnet := by
  rw [subnets_rejected, Subnets.has_removeTCPAddress, Subnets.addPort, Subnets.pushPort,
    Subnets.has_setMember, Subnets.sortPorts, Subnets.has_setMember]

theorem untraced_rejected (h : s.subnets.DistinctPorts)
    (hid : (parseIPAddress data.id).Readable)
    (hm : s.subnets.member (parseIPAddress data.id) = some m) :
    Untraced s (s.rejected data) data where
  clients := by
    simp only [rejected]
    cases s.clients.get data.id <;> rfl
  aliases := by
    simp only [rejected]
    cases s.clients.get data.id <;> rfl
  subnets := has_rejected
  members key := by
    rw [subnets_rejected, Subnets.member_removeTCPAddress_addPort h hm hid]
    split_ifs with hkey
    · rw [hkey, hm]
      rfl
    · rfl
  ports key := by
    rw [subnets_rejected, Subnets.ports, Subnets.ports,
      Subnets.member_removeTCPAddress_addPort h hm hid]
    split_ifs with hkey
    · rw [hkey, hm]
      exact sortNumbers_perm m.ports
    · exact .refl _
  message := by
    refine ⟨s.subnets.newAlias (parseIPAddress data.id), Subnets.ipAddressOf_newAlias hid,
      ?_, ?_⟩
    · rw [Subnets.portOf_newAlias hid, Subnets.ports_of_member hm]
      exact Subnets.nextPort_sortPorts_not_mem h hm
    · simp only [rejected]
      cases s.clients.get data.id with
      | none => exact (List.append_nil _).symm
      | some client => rfl

end Server

/-- A Connect that is rejected leaves no trace: the ports of the members are only sorted. -/
theorem connect_rejected {s : Server} {data : IConnectData} (hmutex : s.subnetsMutex = false)
    (hports : s.subnets.DistinctPorts) (hid : (parseIPAddress data.id).Readable)
    (haccepts : (s.subnets.member (parseIPAddress data.id)).isSome = true)
    (hreject : (s.aliases.get data.remoteAlias).any MAlias.accepting = false) :
    ∃ s' result, (Server.handleConnect data).alone s = some (s', result) ∧ Untraced s s' data := by
  obtain ⟨m, hm⟩ := Option.isSome_iff_exists.mp haccepts
  obtain ⟨result, hcall⟩ := Server.handleConnect_alone_rejected hmutex hm hreject
  exact ⟨s.rejected data, result, hcall, Server.untraced_rejected hports hid hm⟩

/-- In a run with well-formed messages the ports are distinct. -/
theorem Subnets.WellFormed.distinctPorts {s : Subnets} (h : s.WellFormed) : s.DistinctPorts :=
  fun _ _ hm => ⟨h.naturals hm, h.nodup hm⟩

/-- A Connect to an alias that nobody has bound. -/
def unheard : IConnectData := ⟨"127.0.0.0", "127.0.0.9:80", "u"⟩

theorem connect_rejected_run : ∃ s s' : Server, ∃ result,
    s.clients.get unheard.id = some 0 ∧
    (Server.handleConnect unheard).alone s = some (s', result) ∧ Untraced s s' unheard := by
  obtain ⟨steps, p, hrun, hwell, hmutex, hclient, haccepts, hreject⟩ := ServerRun.exists_along
    (P := fun steps p => ServerRun.WellFormed steps ∧ p.state.subnetsMutex = false ∧
      p.state.clients.get unheard.id = some 0 ∧
      (p.state.subnets.member (parseIPAddress unheard.id)).isSome = true ∧
      (p.state.aliases.get unheard.remoteAlias).any MAlias.accepting = false)
    (ServerRun.handling (.knock ⟨"127.0.0", ""⟩) 0 5 ++
      ServerRun.handling (.bind ⟨"127.0.0.0", "127.0.0.0:7"⟩) 0 3) (by decide +kernel)
  have hid : (parseIPAddress unheard.id).Readable := by decide +kernel
  have hdistinct := (hrun.sane hwell).subnets.distinctPorts
  obtain ⟨s', result, hcall, huntraced⟩ :=
    connect_rejected hmutex hdistinct hid haccepts hreject
  exact ⟨p.state, s', result, hclient, hcall, huntraced⟩

end Unisockets.Signaling
