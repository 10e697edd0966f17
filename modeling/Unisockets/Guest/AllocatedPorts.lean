import Unisockets.Guest.SockAddr
import Unisockets.Signaling.MalformedAliases
import Unisockets.Signaling.Traffic
import Unisockets.Transition.Since

/-!
# The ports of connection aliases in the memory

The server gives every connection of a client an alias with a port of its own, and
`unisockets_accept` writes two bytes of that port into the memory of a guest.

A Connect takes its port in one step and is accepted or rejected in a later one, when others may
have come between.  `Connects` says which two steps belong together, and `exists_connects` that
no Connect is decided on without a port.

`createTCPAddress` takes the first free port, and there is no last one.  While one of the 65536
ports is free it finds one of these (`nextPort_le`).  The two bytes then determine the port
(`portBytes_clientAliasOf`), unless the address has a colon: what `unisockets_accept` takes for
the port is then a part of the address (`portBytes_of_colon`).

The result is `portsFit_iff`.  The bound is reached: `exists_allocation` is a run to any port.
-/

namespace Unisockets.Guest

open JsStd Signaling Transition Transport

/-! ## Allocations -/

/-- The alias that `createTCPAddress` returns for a Connect and a port. -/
def clientAliasOf (data : IConnectData) (newPort : Nat) : String :=
  let key := parseIPAddress data.id
  toTCPAddress (toIPAddress key.subnet key.suffix) newPort

/-- The step of `createTCPAddress` that takes a port for a Connect. -/
def TakesPort (data : IConnectData) (newPort : Nat) (x : ServerPool × ServerStep) : Bool :=
  x.2 = .resume (.connectSearching data newPort)

/-- The step of `handleConnect` that looks at the remote alias, with the alias of a port. -/
def Decides (data : IConnectData) (newPort : Nat) (y : ServerPool × ServerStep) : Bool :=
  y.2 = .resume (.connectCreated data (clientAliasOf data newPort))

/-- `x` has taken the port of the Connect that `y` decides on.  Equal Connects with the same port
are decided on in the order in which they have taken it. -/
def Connects (steps : List (ServerPool × ServerStep)) (x y : ServerPool × ServerStep)
    (data : IConnectData) (newPort : Nat) : Prop :=
  ∃ before between after, steps = before ++ x :: (between ++ y :: after) ∧
    TakesPort data newPort x = true ∧ Decides data newPort y = true ∧
    before.countP (TakesPort data newPort) = (before ++ x :: between).countP (Decides data newPort)

/-- `handleConnect` accepts a Connect and registers the alias of the connection. -/
def Allocates (y : ServerPool × ServerStep) (data : IConnectData) (clientAlias : String) : Prop :=
  y.2 = .resume (.connectCreated data clientAlias) ∧
    (y.1.state.aliases.get data.remoteAlias).any MAlias.accepting = true

/-- `handleConnect` takes its rejecting branch. -/
def RejectsConnect (y : ServerPool × ServerStep) (data : IConnectData) (clientAlias : String) :
    Prop :=
  y.2 = .resume (.connectCreated data clientAlias) ∧
    ServerTask.handleConnect data clientAlias y.1.state =
      (y.1.state, [.connectRejecting data clientAlias (y.1.state.clients.get data.id)])

/-- All 65536 ports of an address are taken. -/
def PortsTaken (s : Subnets) (key : IPAddress) : Prop :=
  ∀ port : Nat, port ≤ 65535 → (port : Number) ∈ s.ports key

/-- A call of `unisockets_accept` that has got a client.  The buffer has room for the port. -/
structure AcceptCall where
  memory : Uint8Array
  addressPointer : Nat
  addressLengthPointer : Nat
  clientFd : Nat
  length : 4 ≤ addressLengthAt memory addressLengthPointer
  fits : addressPointer + 4 ≤ memory.length

/-- The two bytes that stand in the place of the port after the call. -/
def AcceptCall.portBytes (c : AcceptCall) (clientAlias : String) : Uint8Array :=
  slice (unisockets_accept c.addressPointer c.addressLengthPointer c.memory c.clientFd
    clientAlias).1 (c.addressPointer + 2) (c.addressPointer + 4)

/-- The allocated ports of a run fit into two bytes. -/
structure PortsFit (steps : List (ServerPool × ServerStep)) : Prop where
  bounded : ∀ y ∈ steps, ∀ data clientAlias, Allocates y data clientAlias →
    ∃ port : Nat, port ≤ 65535 ∧ clientAlias = clientAliasOf data port
  /-- No other port of the address has the same bytes. -/
  determined : ∀ y ∈ steps, ∀ data clientAlias, Allocates y data clientAlias →
    ∀ (c c' : AcceptCall) (port : Nat), port ≤ 65535 →
      c.portBytes (clientAliasOf data port) = c'.portBytes clientAlias →
      clientAliasOf data port = clientAlias
  /-- Two aliases of one client have different bytes. -/
  distinct : ∀ y ∈ steps, ∀ y' ∈ steps, ∀ data clientAlias data' clientAlias',
    Allocates y data clientAlias → Allocates y' data' clientAlias' → data.id = data'.id →
      clientAlias ≠ clientAlias' →
      ∀ c c' : AcceptCall, c.portBytes clientAlias ≠ c'.portBytes clientAlias'
  /-- When all ports are taken, the Connect is rejected. -/
  rejected : ∀ x y data newPort, Connects steps x y data newPort →
    PortsTaken x.1.state.subnets (parseIPAddress data.id) →
    RejectsConnect y data (clientAliasOf data newPort)

/-- One of the 65536 ports of an address is free, and the address has no colon. -/
def FreePort (s : Subnets) (key : IPAddress) : Prop :=
  (∃ port : Nat, port ≤ 65535 ∧ (port : Number) ∉ s.ports key) ∧ ':' ∉ key.subnet.toList

/-- Whenever a Connect takes a port that is accepted later, there is a free one. -/
def FreePorts (steps : List (ServerPool × ServerStep)) : Prop :=
  ∀ x y data newPort, Connects steps x y data newPort →
    Allocates y data (clientAliasOf data newPort) →
    FreePort x.1.state.subnets (parseIPAddress data.id)

/-! ## The two bytes -/

/-- What `unisockets_accept` takes for the port is the second part of the alias. -/
theorem slice_sockaddr (clientAlias : String) : slice (sockaddr clientAlias) 2 4 =
    littleEndian 2 (parseIntAt (split clientAlias ':') 1).toInt32 := by
  apply List.ext_getElem?
  intro i
  rw [getElem?_slice, ← take_littleEndian (show 2 ≤ 4 by omega), List.getElem?_take,
    getElem?_sockaddr]
  by_cases hi : i < 2
  · have hlength : i < (getAsBinary (parseIntAt (split clientAlias ':') 1)).length := by
      rw [getAsBinary, length_littleEndian]
      omega
    have hfamily : ¬2 + i < 2 := by omega
    have hport : 2 + i < 4 := by omega
    simp only [addressPart, if_neg hfamily, if_pos hport, if_pos hi, Nat.add_sub_cancel_left,
      List.getElem?_eq_getElem hlength, Option.getD_some]
    exact (List.getElem?_eq_getElem hlength).symm
  · rw [if_neg (by omega), if_neg hi]

theorem AcceptCall.portBytes_eq (c : AcceptCall) (clientAlias : String) :
    c.portBytes clientAlias = slice (sockaddr clientAlias) 2 4 := by
  have hlength := c.length
  have hfits := c.fits
  apply List.ext_getElem?
  intro i
  rw [portBytes, unisockets_accept, getElem?_slice, getElem?_slice]
  by_cases hi : i < 2
  · rw [if_pos (by omega), if_pos (by omega), Nat.add_assoc,
      getElem?_writeAddress (by omega) (by omega), if_pos (by omega)]
  · rw [if_neg (by omega), if_neg (by omega)]

/-- Behind an address without a colon the port is written. -/
theorem portBytes_clientAliasOf {data : IConnectData}
    (h : ':' ∉ (parseIPAddress data.id).subnet.toList) (c : AcceptCall) (port : Nat) :
    c.portBytes (clientAliasOf data port) = littleEndian 2 port := by
  have hsplit : split (clientAliasOf data port) ':' =
      [toIPAddress (parseIPAddress data.id).subnet (parseIPAddress data.id).suffix,
        Nat.repr port] := by
    show split (toIPAddress _ _ ++ String.singleton ':' ++ Nat.repr port) ':' = _
    rw [split_append_repr _ _ _ rfl, split_eq_singleton (colon_not_mem_toIPAddress h _)]
    rfl
  have hport : parseIntAt (split (clientAliasOf data port) ':') 1 = (port : Number) := by
    rw [hsplit, parseIntAt]
    exact parseInt_repr port
  rw [c.portBytes_eq, slice_sockaddr, hport, Number.toInt32_natCast, littleEndian_eq_iff]
  omega

/-- Behind an address with a colon all ports have the same bytes. -/
theorem portBytes_of_colon {data : IConnectData}
    (h : ':' ∈ (parseIPAddress data.id).subnet.toList) (c c' : AcceptCall) (port port' : Nat) :
    c.portBytes (clientAliasOf data port) = c'.portBytes (clientAliasOf data port') := by
  have hpart : ∀ port : Nat, (split (clientAliasOf data port) ':')[1]? =
      (split (toIPAddress (parseIPAddress data.id).subnet (parseIPAddress data.id).suffix)
        ':')[1]? := by
    intro port
    have hcolon : ':' ∈ (toIPAddress (parseIPAddress data.id).subnet
        (parseIPAddress data.id).suffix).toList := by
      rw [toIPAddress, String.toList_append, String.toList_append]
      exact List.mem_append_left _ (List.mem_append_left _ h)
    have hlength := two_le_length_split hcolon
    show (split (toIPAddress _ _ ++ String.singleton ':' ++ Nat.repr port) ':')[1]? = _
    rw [split_append_repr _ _ _ rfl, List.getElem?_append_left (by omega)]
  rw [c.portBytes_eq, c'.portBytes_eq, slice_sockaddr, slice_sockaddr, parseIntAt, parseIntAt,
    hpart, hpart]

/-! ## The bound -/

/-- The search finds no port behind one that is free. -/
theorem mem_ports_of_lt_nextPort {s : Subnets} {key : IPAddress} {port : Nat}
    (h : port < s.nextPort key) : (port : Number) ∈ s.ports key :=
  mem_sortNumbers.mp (mem_of_lt_firstGap h)

/-- While a port is free, the search finds one that is at most 65535. -/
theorem nextPort_le {s : Subnets} {key : IPAddress} (h : FreePort s key) :
    s.nextPort key ≤ 65535 := by
  obtain ⟨⟨port, hport, hfree⟩, -⟩ := h
  by_contra hlt
  exact hfree (mem_ports_of_lt_nextPort (by omega))

/-- The ports below a number. -/
def portsBelow (n : Nat) : List Number := (List.range n).map fun port : Nat => (port : Number)

theorem mem_portsBelow {n : Nat} {x : Number} :
    x ∈ portsBelow n ↔ ∃ port : Nat, port < n ∧ x = (port : Number) := by
  rw [portsBelow, List.mem_map]
  constructor
  · intro ⟨port, hport, he⟩
    exact ⟨port, List.mem_range.mp hport, he.symm⟩
  · intro ⟨port, hport, he⟩
    exact ⟨port, List.mem_range.mpr hport, he.symm⟩

theorem nodup_portsBelow (n : Nat) : (portsBelow n).Nodup :=
  List.nodup_range.map fun _ _ he => Number.natCast_inj.mp he

/-- When exactly the ports below a number are taken, the search finds the number. -/
theorem nextPort_eq {s : Subnets} {key : IPAddress} {n : Nat}
    (h : (s.ports key).Perm (portsBelow n)) : s.nextPort key = n := by
  have hmem : ∀ x, x ∈ s.ports key ↔ ∃ port : Nat, port < n ∧ x = (port : Number) := by
    intro x
    rw [h.mem_iff, mem_portsBelow]
  have hnat : Naturals (s.ports key) := by
    intro x hx
    obtain ⟨port, -, he⟩ := (hmem x).mp hx
    exact ⟨port, he⟩
  have hnodup : (s.ports key).Nodup := h.nodup_iff.mpr (nodup_portsBelow n)
  apply (firstGap_isLeast hnat hnodup).unique
  constructor
  · intro hn
    obtain ⟨port, hlt, he⟩ := (hmem n).mp hn
    have hequal := Number.natCast_inj.mp he
    omega
  · intro port hport
    by_contra hlt
    exact hport ((hmem port).mpr ⟨port, by omega, rfl⟩)

/-- An address where fewer than 65536 ports are taken has a free one. -/
theorem exists_free_of_length {s : Subnets} {key : IPAddress}
    (h : (s.ports key).length < 65536) :
    ∃ port : Nat, port ≤ 65535 ∧ (port : Number) ∉ s.ports key := by
  by_contra htaken
  have hsub : portsBelow 65536 ⊆ s.ports key := by
    intro x hx
    obtain ⟨port, hport, rfl⟩ := mem_portsBelow.mp hx
    by_contra hfree
    exact htaken ⟨port, by omega, hfree⟩
  have hle := (List.subperm_of_subset (nodup_portsBelow _) hsub).length_le
  rw [portsBelow, List.length_map, List.length_range] at hle
  omega

/-- A step that takes a port at such an address, or none. -/
def fewPorts : ServerPool × ServerStep → Bool
  | (p, .resume (.connectSearching data _)) =>
    (p.state.subnets.ports (parseIPAddress data.id)).length < 65536 &&
      ':' ∉ (parseIPAddress data.id).subnet.toList
  | _ => true

theorem freePorts_of_few {steps : List (ServerPool × ServerStep)}
    (h : ∀ x ∈ steps, fewPorts x = true) : FreePorts steps := by
  intro x y data newPort hconnects _
  obtain ⟨before, between, after, hsteps, hx, -, -⟩ := hconnects
  have hx : x.2 = .resume (.connectSearching data newPort) := of_decide_eq_true hx
  have hmem : x ∈ steps := by
    rw [hsteps]
    exact List.mem_append_right _ List.mem_cons_self
  have hfew := h x hmem
  obtain ⟨p, a⟩ := x
  subst hx
  rw [fewPorts, Bool.and_eq_true, decide_eq_true_eq, decide_eq_true_eq] at hfew
  exact ⟨exists_free_of_length hfew.1, hfew.2⟩

/-! ## The two steps of a Connect -/

section Runs

variable {steps : List (ServerPool × ServerStep)} {p : ServerPool}

theorem clientAliasOf_inj {data : IConnectData} {port port' : Nat} :
    clientAliasOf data port = clientAliasOf data port' ↔ port = port' := by
  constructor
  · intro h
    exact Number.natCast_inj.mp (toTCPAddress_inj h).2
  · rintro rfl
    rfl

/-- The branch of `handleConnect` depends on the remote alias. -/
theorem rejectsConnect_iff {y : ServerPool × ServerStep} {data : IConnectData}
    {clientAlias : String} (hy : y.2 = .resume (.connectCreated data clientAlias)) :
    RejectsConnect y data clientAlias ↔ ¬Allocates y data clientAlias := by
  simp only [RejectsConnect, Allocates, hy, true_and]
  unfold ServerTask.handleConnect
  split_ifs with haccepts
  · refine iff_of_false (fun h => ?_) (not_not.mpr haccepts)
    have htasks := congrArg Prod.snd h
    cases hclient : y.1.state.clients.get data.id with
    | none =>
      rw [hclient] at htasks
      cases htasks
    | some client =>
      rw [hclient] at htasks
      cases htasks
  · exact iff_of_true rfl haccepts

/-- A task that has a port is left behind by the step that takes it. -/
theorem countP_connectCreated (t : ServerTask) (s : Server) (data : IConnectData)
    (newPort : Nat) :
    (t.resume s).2.countP
        (fun t' => decide (t' = .connectCreated data (clientAliasOf data newPort))) =
      (decide (t = .connectSearching data newPort)).toNat := by
  have hstep := t.resumes s
  revert hstep
  generalize (t.resume s).1 = s'
  generalize (t.resume s).2 = next
  intro hstep
  cases hstep with
  | newPort data' port =>
    have halias : toTCPAddress (toIPAddress (parseIPAddress data'.id).subnet
        (parseIPAddress data'.id).suffix) port = clientAliasOf data' port := rfl
    rw [halias, ServerTask.countP_one]
    by_cases hdata : data' = data
    · subst hdata
      simp [clientAliasOf_inj]
    · simp [hdata]
  | swept id outbox =>
    rw [List.countP_eq_zero.mpr]
    · simp
    · intro t' ht'
      obtain ⟨tcpAddress, -, rfl⟩ := List.mem_map.mp ht'
      simp
  | _ => simp

/-- The ports that are taken for a Connect are those that are decided on and those that tasks
have. -/
theorem countP_takes (hrun : ServerRun steps p) (data : IConnectData) (newPort : Nat) :
    p.tasks.countP (fun t => decide (t = .connectCreated data (clientAliasOf data newPort))) +
      steps.countP (Decides data newPort) = steps.countP (TakesPort data newPort) := by
  have h := hrun.balance (fun _ => false)
    (fun t => decide (t = .connectCreated data (clientAliasOf data newPort)))
    (fun x => (Decides data newPort x).toNat) (fun x => (TakesPort data newPort x).toNat)
    (fun q operation client => by simp [Decides, TakesPort])
    (fun q client => by simp [Decides, TakesPort, List.countP_eq_zero])
    (fun q t => by
      rw [countP_connectCreated]
      simp [Decides, TakesPort, Nat.add_comm])
  simpa [total_toNat] using h

/-- No Connect is decided on without a port. -/
theorem exists_connects (hrun : ServerRun steps p) {y : ServerPool × ServerStep} (hy : y ∈ steps)
    {data : IConnectData} {newPort : Nat} (h : Decides data newPort y = true) :
    ∃ x, Connects steps x y data newPort := by
  obtain ⟨earlier, after, hsteps⟩ := List.append_of_mem hy
  obtain ⟨hearlier, s', hstep⟩ := Run.of_append hrun hsteps
  have htask : ServerTask.connectCreated data (clientAliasOf data newPort) ∈ y.1.tasks := by
    rw [of_decide_eq_true h] at hstep
    obtain ⟨rest, hperm, -, -⟩ := hstep.resumed
    exact hperm.mem_iff.mpr List.mem_cons_self
  have hcount := countP_takes hearlier data newPort
  have hpos : 0 < y.1.tasks.countP
      (fun t => decide (t = .connectCreated data (clientAliasOf data newPort))) :=
    List.countP_pos_iff.mpr ⟨_, htask, decide_eq_true rfl⟩
  obtain ⟨before, x, between, rfl, hx, hk⟩ := exists_countP_eq
    (P := TakesPort data newPort) (l := earlier) (k := earlier.countP (Decides data newPort))
    (by omega)
  exact ⟨x, before, between, after, by simp [hsteps], hx, h, hk⟩

theorem Connects.mem {x y : ServerPool × ServerStep} {data : IConnectData} {newPort : Nat}
    (h : Connects steps x y data newPort) : x ∈ steps ∧ y ∈ steps := by
  obtain ⟨before, between, after, rfl, -⟩ := h
  simp

/-- The port that is taken is the one that the search would find now. -/
theorem Connects.eq_nextPort (hrun : ServerRun steps p) {x y : ServerPool × ServerStep}
    {data : IConnectData} {newPort : Nat} (h : Connects steps x y data newPort) :
    newPort = x.1.state.subnets.nextPort (parseIPAddress data.id) := by
  obtain ⟨before, -, hbefore, hmem⟩ := hrun.of_mem h.mem.1
  obtain ⟨-, -, -, -, hx, -⟩ := h
  exact (hbefore.searches.current _ (hmem _ (of_decide_eq_true hx))).2

/-- The alias that a task has is printed for a port. -/
theorem exists_clientAliasOf (hrun : ServerRun steps p) {data : IConnectData}
    {clientAlias : String} (h : .connectCreated data clientAlias ∈ p.tasks) :
    ∃ newPort, clientAlias = clientAliasOf data newPort := by
  have hall : ∀ t ∈ p.tasks, ∀ data clientAlias, t = .connectCreated data clientAlias →
      ∃ newPort, clientAlias = clientAliasOf data newPort := by
    refine hrun.invariant (I := fun _ l => ∀ t ∈ l, ∀ data clientAlias,
      t = .connectCreated data clientAlias → ∃ newPort, clientAlias = clientAliasOf data newPort)
      (fun _ _ => (trivial : True)) (fun s l l' hl h t ht => h t (hl.mem_iff.mpr ht))
      (fun t ht => absurd ht List.not_mem_nil) ?_ ?_ ?_
    · intro s l operation client h _ t ht data clientAlias he
      rcases List.mem_cons.mp ht with rfl | ht
      · cases he
      · exact h t ht data clientAlias he
    · intro s l client h _ t ht data clientAlias he
      rcases List.mem_append.mp ht with ht | ht
      · obtain ⟨id, -, rfl⟩ := List.mem_map.mp ht
        cases he
      · exact h t ht data clientAlias he
    · intro s l t rest s' next _ h _ _ hstep t' ht' data clientAlias he
      rcases List.mem_append.mp ht' with ht' | ht'
      · subst he
        cases hstep with
        | newPort data' port =>
          cases List.mem_singleton.mp ht'
          exact ⟨port, rfl⟩
        | swept id outbox =>
          obtain ⟨tcpAddress, -, he⟩ := List.mem_map.mp ht'
          cases he
        | _ => simp at ht'
      · exact h t' (List.mem_cons_of_mem _ ht') data clientAlias he
  exact hall _ h data clientAlias rfl

/-- What is allocated has taken a port. -/
theorem Allocates.connects (hrun : ServerRun steps p) {y : ServerPool × ServerStep}
    (hy : y ∈ steps) {data : IConnectData} {clientAlias : String}
    (h : Allocates y data clientAlias) :
    ∃ x newPort, clientAlias = clientAliasOf data newPort ∧ Connects steps x y data newPort := by
  obtain ⟨before, -, hbefore, hmem⟩ := hrun.of_mem hy
  obtain ⟨newPort, rfl⟩ := exists_clientAliasOf hbefore (hmem _ h.1)
  obtain ⟨x, hconnects⟩ := exists_connects hrun hy (decide_eq_true h.1)
  exact ⟨x, newPort, rfl, hconnects⟩

/-! ## While a port is free -/

/-- The two bytes of the ports that are at most 65535 are different. -/
theorem eq_of_portBytes {data data' : IConnectData} (hid : data.id = data'.id)
    (hcolon : ':' ∉ (parseIPAddress data.id).subnet.toList) {port port' : Nat}
    (hport : port ≤ 65535) (hport' : port' ≤ 65535) {c c' : AcceptCall}
    (h : c.portBytes (clientAliasOf data port) = c'.portBytes (clientAliasOf data' port')) :
    port = port' := by
  rw [portBytes_clientAliasOf hcolon, portBytes_clientAliasOf (hid ▸ hcolon),
    littleEndian_eq_iff] at h
  omega

/-- An alias that is allocated while a port is free has a port that is at most 65535. -/
theorem Allocates.port_le (hrun : ServerRun steps p) (hfree : FreePorts steps)
    {y : ServerPool × ServerStep} (hy : y ∈ steps) {data : IConnectData} {clientAlias : String}
    (h : Allocates y data clientAlias) :
    ∃ port : Nat, port ≤ 65535 ∧ clientAlias = clientAliasOf data port ∧
      ':' ∉ (parseIPAddress data.id).subnet.toList := by
  obtain ⟨x, newPort, rfl, hconnects⟩ := h.connects hrun hy
  have hport := hfree x y data newPort hconnects h
  refine ⟨newPort, ?_, rfl, hport.2⟩
  rw [hconnects.eq_nextPort hrun]
  exact nextPort_le hport

theorem portsFit_of_free (hrun : ServerRun steps p) (hfree : FreePorts steps) :
    PortsFit steps := by
  constructor
  · intro y hy data clientAlias h
    obtain ⟨port, hport, halias, -⟩ := h.port_le hrun hfree hy
    exact ⟨port, hport, halias⟩
  · intro y hy data clientAlias h c c' port hport he
    obtain ⟨newPort, hnew, rfl, hcolon⟩ := h.port_le hrun hfree hy
    rw [eq_of_portBytes rfl hcolon hport hnew he]
  · intro y hy y' hy' data clientAlias data' clientAlias' h h' hid hne c c' he
    obtain ⟨port, hport, rfl, hcolon⟩ := h.port_le hrun hfree hy
    obtain ⟨port', hport', rfl, -⟩ := h'.port_le hrun hfree hy'
    apply hne
    rw [eq_of_portBytes hid hcolon hport hport' he, clientAliasOf, clientAliasOf, hid]
  · intro x y data newPort hconnects htaken
    have hy : Decides data newPort y = true := by
      obtain ⟨-, -, -, -, -, hy, -⟩ := hconnects
      exact hy
    refine (rejectsConnect_iff (of_decide_eq_true hy)).mpr fun h => ?_
    obtain ⟨⟨port, hport, hnot⟩, -⟩ := hfree x y data newPort hconnects h
    exact hnot (htaken port hport)

end Runs

/-! ## A run to any port -/

/-- The address `127.0.0.0`, and an alias there. -/
def ownAddress : IPAddress := ⟨"127.0.0", (0 : Nat)⟩

def ownAlias (port : Nat) : String := toTCPAddress (toIPAddress "127.0.0" (0 : Nat)) port

/-- A Connect of the client there to the alias that another client has bound. -/
def ownConnect : IConnectData := ⟨"127.0.0.0", "127.0.0.1:80", "u"⟩

/-- No handler is suspended, the client has taken the ports below a number, and the other one
accepts connections. -/
structure BoundBelow (n : Nat) (p : ServerPool) : Prop where
  tasks : p.tasks = []
  mutex : p.state.subnetsMutex = false
  member : p.state.subnets.member ownAddress = some ⟨portsBelow n⟩
  aliases : ∀ port : Nat, n ≤ port → p.state.aliases.has (ownAlias port) = false
  remote : p.state.aliases.get ownConnect.remoteAlias = some ⟨"127.0.0.1", true⟩

theorem ownAlias_parts (port : Nat) :
    ipAddressOf (ownAlias port) = ownAddress ∧ portOf (ownAlias port) = port := by
  have hsubnet : IsSubnet "127.0.0" := by decide
  exact ⟨ipAddressOf_toTCPAddress hsubnet _ _, portOf_toTCPAddress hsubnet _ _⟩

theorem ownAlias_ne_remote (port : Nat) : ownAlias port ≠ ownConnect.remoteAlias := by
  intro h
  have hremote : ownConnect.remoteAlias =
      toTCPAddress (toIPAddress "127.0.0" (1 : Nat)) (80 : Nat) := by decide +kernel
  rw [hremote] at h
  exact absurd (toTCPAddress_inj h).1 (by decide +kernel)

/-- One Bind. -/
theorem BoundBelow.bind {n : Nat} {steps : List (ServerPool × ServerStep)} {p : ServerPool}
    (hrun : ServerRun steps p) (h : BoundBelow n p) :
    ∃ steps' p', ServerRun steps' p' ∧ BoundBelow (n + 1) p' := by
  obtain ⟨s, l⟩ := p
  obtain ⟨htasks, hmutex, hmember, haliases, hremote⟩ := h
  cases htasks
  have hmutex : s.subnetsMutex = false := hmutex
  have hhas : s.subnets.has ownAddress.subnet = true := Subnets.has_of_member hmember
  have hports := Subnets.ports_of_member hmember
  obtain ⟨hip, hport⟩ := ownAlias_parts n
  have hclaim : s.subnets.claim (ownAlias n) =
      .ok (s.subnets.pushPort ownAddress n) := by
    have hfree : ((s.subnets.ports ownAddress).any fun p => p.strictEq n) = false := by
      rw [hports, List.any_eq_false]
      intro x hx
      obtain ⟨port, hlt, rfl⟩ := mem_portsBelow.mp hx
      simp
      omega
    rw [Subnets.claim, hip, hport, if_pos hhas, hfree]
    rfl
  -- the message, the search of the alias, the claim under the mutex and the announcement
  have hreceived := ServerPool.step_alone (s := s)
    (t := .received (.bind ⟨"127.0.0.0", ownAlias n⟩) 0) rfl
  have hclaiming := ServerPool.step_alone (s := s) (t := .bindClaiming ⟨"127.0.0.0", ownAlias n⟩)
    (by simp [ServerTask.ready, hmutex])
  simp only [ServerTask.resume, ServerTask.handle, haliases n (Nat.le_refl n),
    Bool.false_eq_true, if_false] at hreceived
  simp only [ServerTask.resume, hclaim] at hclaiming
  have hclaimed := ServerPool.step_alone (t := .bindClaimed ⟨"127.0.0.0", ownAlias n⟩)
    (s := s.locked (s.subnets.pushPort ownAddress n)) rfl
  have hmessage := hrun.snoc (.message (.bind ⟨"127.0.0.0", ownAlias n⟩) 0)
  refine ⟨_, _, ((hmessage.snoc hreceived).snoc hclaiming).snoc hclaimed, rfl, rfl, ?_, ?_, ?_⟩
  · show (s.subnets.pushPort ownAddress n).member _ = _
    rw [Subnets.pushPort, Subnets.member_setMember hhas, if_pos rfl, hports, portsBelow,
      portsBelow, List.range_succ, List.map_append]
    rfl
  · intro port hle
    show (s.aliases.set (ownAlias n) _).has (ownAlias port) = false
    have hne : ownAlias port ≠ ownAlias n := by
      intro he
      have hequal := Number.natCast_inj.mp (toTCPAddress_inj he).2
      omega
    rw [Map.has_set, haliases port (by omega)]
    simp [hne]
  · show (s.aliases.set (ownAlias n) _).get _ = _
    rw [Map.get_set_of_ne _ _ (ownAlias_ne_remote n).symm]
    exact hremote

theorem exists_boundBelow (n : Nat) : ∃ steps p, ServerRun steps p ∧ BoundBelow n p := by
  induction n with
  | zero =>
    obtain ⟨steps, p, hrun, htasks, hmutex, hmember, haliases, hremote⟩ := ServerRun.exists_along
      (P := fun _ p => p.tasks = [] ∧ p.state.subnetsMutex = false ∧
        p.state.subnets.member ownAddress = some ⟨[]⟩ ∧
        p.state.aliases.keys = [ownConnect.remoteAlias] ∧
        p.state.aliases.get ownConnect.remoteAlias = some ⟨"127.0.0.1", true⟩)
      (ServerRun.handling (.knock ⟨"127.0.0", ""⟩) 0 5 ++
        ServerRun.handling (.knock ⟨"127.0.0", ""⟩) 1 5 ++
        ServerRun.handling (.bind ⟨"127.0.0.1", "127.0.0.1:80"⟩) 1 3 ++
        ServerRun.handling (.accepting ⟨"127.0.0.1", "127.0.0.1:80"⟩) 1 1) (by decide +kernel)
    refine ⟨steps, p, hrun, htasks, hmutex, hmember, fun port _ => ?_, hremote⟩
    rw [← Bool.not_eq_true, Map.has_iff_mem_keys, haliases, List.mem_singleton]
    exact ownAlias_ne_remote port
  | succ n ih =>
    obtain ⟨steps, p, hrun, h⟩ := ih
    exact h.bind hrun

/-- Every port is allocated in some run, when those below it are taken. -/
theorem exists_allocation (n : Nat) : ∃ steps p, ServerRun steps p ∧ ∃ x y,
    Connects steps x y ownConnect n ∧ Allocates y ownConnect (clientAliasOf ownConnect n) := by
  have hkey : parseIPAddress ownConnect.id = ownAddress := by decide
  obtain ⟨steps, ⟨s, l⟩, hrun, htasks, hmutex, hmember, -, hremote⟩ := exists_boundBelow n
  cases htasks
  have hmutex : s.subnetsMutex = false := hmutex
  have hmember : s.subnets.member ownAddress = some ⟨portsBelow n⟩ := hmember
  have hremote : s.aliases.get ownConnect.remoteAlias = some ⟨"127.0.0.1", true⟩ := hremote
  have hsorted : ((s.subnets.sortPorts ownAddress).ports ownAddress).Perm (portsBelow n) := by
    rw [Subnets.sortPorts, Subnets.ports_setMember (Subnets.has_of_member hmember), if_pos rfl,
      Subnets.ports_of_member hmember]
    exact sortNumbers_perm _
  have hnext := nextPort_eq hsorted
  -- the message, the wait for the mutex, the search, the step that takes the port and the one
  -- that looks at the remote alias
  have hreceived := ServerPool.step_alone (s := s) (t := .received (.connect ownConnect) 0) rfl
  have hcreating := ServerPool.step_alone (s := s) (t := .connectCreating ownConnect)
    (by simp [ServerTask.ready, hmutex])
  simp only [ServerTask.resume, ServerTask.handle] at hreceived
  simp only [ServerTask.resume, hkey, hmember, Option.isSome_some, if_true, hnext] at hcreating
  have hsearching := ServerPool.step_alone (t := .connectSearching ownConnect n)
    (s := { s with subnets := s.subnets.sortPorts ownAddress, subnetsMutex := true }) rfl
  have htaken := (((hrun.snoc (.message (.connect ownConnect) 0)).snoc hreceived).snoc
    hcreating).snoc hsearching
  have hcreated := htaken.snoc (ServerPool.step_alone
    (t := .connectCreated ownConnect (clientAliasOf ownConnect n)) rfl)
  obtain ⟨x, hconnects⟩ : ∃ x, Connects _ x _ ownConnect n :=
    exists_connects hcreated (List.mem_append_right _ (List.mem_singleton.mpr rfl))
      (decide_eq_true rfl)
  refine ⟨_, _, hcreated, x, _, hconnects, rfl, ?_⟩
  show (s.aliases.get ownConnect.remoteAlias).any MAlias.accepting = true
  rw [hremote]
  rfl

/-- A buffer of sixteen bytes, and their number. -/
def sixteenBytes : AcceptCall where
  memory := List.replicate 16 0 ++ [16, 0, 0, 0]
  addressPointer := 0
  addressLengthPointer := 16
  clientFd := 4
  length := by decide
  fits := by decide

/-- The allocated ports of a run fit exactly if, whenever a Connect takes a port that is accepted
later, one of the 65536 ports is free and the address has no colon. -/
theorem portsFit_iff {steps : List (ServerPool × ServerStep)} {p : ServerPool}
    (hrun : ServerRun steps p) : PortsFit steps ↔ FreePorts steps := by
  constructor
  · intro hfit x y data newPort hconnects h
    constructor
    · by_contra htaken
      have htaken : PortsTaken x.1.state.subnets (parseIPAddress data.id) := by
        intro port hport
        by_contra hfree
        exact htaken ⟨port, hport, hfree⟩
      exact (rejectsConnect_iff h.1).mp (hfit.rejected x y data newPort hconnects htaken) h
    · intro hcolon
      -- all ports of the address have the bytes of the allocated one
      have hall : ∀ port ≤ 65535, port = newPort := by
        intro port hport
        have hsame := hfit.determined y hconnects.mem.2 data _ h sixteenBytes sixteenBytes port
          hport (portBytes_of_colon hcolon _ _ port newPort)
        exact clientAliasOf_inj.mp hsame
      have hzero := hall 0 (by omega)
      have hone := hall 1 (by omega)
      omega
  · exact portsFit_of_free hrun

/-- A Connect of a client that has bound the port 0. -/
theorem portsFit_behind_bind : ∃ steps p, ServerRun steps p ∧
    (∃ y ∈ steps, Allocates y ownConnect "127.0.0.0:1") ∧ PortsFit steps := by
  obtain ⟨steps, p, hrun, hallocates, hfew⟩ := ServerRun.exists_along
    (P := fun steps _ => (∃ y ∈ steps,
        y.2 = .resume (.connectCreated ownConnect "127.0.0.0:1") ∧
          (y.1.state.aliases.get ownConnect.remoteAlias).any MAlias.accepting = true) ∧
      ∀ x ∈ steps, fewPorts x = true)
    (ServerRun.handling (.knock ⟨"127.0.0", ""⟩) 0 5 ++
      ServerRun.handling (.knock ⟨"127.0.0", ""⟩) 1 5 ++
      ServerRun.handling (.bind ⟨"127.0.0.1", "127.0.0.1:80"⟩) 1 3 ++
      ServerRun.handling (.accepting ⟨"127.0.0.1", "127.0.0.1:80"⟩) 1 1 ++
      ServerRun.handling (.bind ⟨"127.0.0.0", "127.0.0.0:0"⟩) 0 3 ++
      ServerRun.handling (.connect ownConnect) 0 7) (by decide +kernel)
  exact ⟨steps, p, hrun, hallocates, (portsFit_iff hrun).mpr (freePorts_of_few hfew)⟩

/-- The server allocates the port 65536 when all ports are taken, and its two bytes are those of
the port 0. -/
theorem allocated_port_overflows : ∃ steps p, ServerRun steps p ∧
    (∃ x y, Connects steps x y ownConnect 65536 ∧
      Allocates y ownConnect (clientAliasOf ownConnect 65536) ∧
      PortsTaken x.1.state.subnets (parseIPAddress ownConnect.id)) ∧
    sixteenBytes.portBytes (clientAliasOf ownConnect 65536) =
      sixteenBytes.portBytes (clientAliasOf ownConnect 0) ∧ ¬PortsFit steps := by
  obtain ⟨steps, p, hrun, x, y, hconnects, hallocates⟩ := exists_allocation 65536
  have hcolon : ':' ∉ (parseIPAddress ownConnect.id).subnet.toList := by decide
  have htaken : PortsTaken x.1.state.subnets (parseIPAddress ownConnect.id) := by
    intro port hport
    apply mem_ports_of_lt_nextPort
    rw [← hconnects.eq_nextPort hrun]
    omega
  refine ⟨steps, p, hrun, ⟨x, y, hconnects, hallocates, htaken⟩, ?_, fun h => ?_⟩
  · have hbytes : littleEndian 2 65536 = littleEndian 2 0 := littleEndian_eq_iff.mpr (by decide)
    rw [portBytes_clientAliasOf hcolon, portBytes_clientAliasOf hcolon]
    exact hbytes
  · exact (rejectsConnect_iff hallocates.1).mp (h.rejected x y _ _ hconnects htaken) hallocates

end Unisockets.Guest
