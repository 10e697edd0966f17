import Unisockets.Signaling.WellFormed

/-!
# The registry does not leak

A member of the registry is there for a reason: it is the address of a
connected client or the address in front of some alias.  A port is listed for a
reason: it is the port of an alias.  While handlers are suspended there is one
more reason, a handler that has just made the entry or is about to drop it.

`Kept` says that every entry has one of these reasons.  Each outcome of a
resumed task keeps it, whatever the other handlers do in between, so that in a
state where no handler is suspended only the first two reasons are left.
-/

namespace Unisockets.Signaling

open JsStd

namespace ServerTask

/-- The tasks that have just created the member at an address, or go on to
remove it. -/
def KeepsMember (key : IPAddress) : ServerTask → Prop
  | .knockCreated _ id => id ≠ "-1" ∧ parseIPAddress id = key
  | .knockAcknowledged _ id => parseIPAddress id = key
  | .bindClaimed data => ipAddressOf data.alias = key
  | .shutdownPort data => ipAddressOf data.alias = key
  | .shutdownPortRemoved data => ipAddressOf data.alias = key
  | .shutdownAddress data => ipAddressOf data.alias = key
  | .goodbyeAddress id => parseIPAddress id = key
  | .releaseAddress _ tcpAddress => ipAddressOf tcpAddress = key
  | _ => False

/-- The alias whose port a task has just listed, or goes on to remove. -/
def keptAlias : ServerTask → Option String
  | .bindClaimed data => some data.alias
  | .shutdownPort data => some data.alias
  | .connectCreated _ clientAlias => some clientAlias
  | .connectRejecting _ clientAlias _ => some clientAlias
  | .releaseAddress _ tcpAddress => some tcpAddress
  | .releaseAddressRemoved _ tcpAddress => some tcpAddress
  | .releasePort _ tcpAddress => some tcpAddress
  | _ => none

/-- A task has just listed a port, or goes on to remove it. -/
def KeepsPort (key : IPAddress) (port : Number) (t : ServerTask) : Prop :=
  ∃ a, t.keptAlias = some a ∧ ipAddressOf a = key ∧ portOf a = port

end ServerTask

/-- The reasons for the member at an address. -/
def MemberKept (s : Server) (l : List ServerTask) (key : IPAddress) : Prop :=
  (∃ id, s.clients.has id = true ∧ parseIPAddress id = key) ∨
    (∃ a, s.aliases.has a = true ∧ ipAddressOf a = key) ∨ ∃ t ∈ l, t.KeepsMember key

/-- The reasons for a port at an address. -/
def PortKept (s : Server) (l : List ServerTask) (key : IPAddress) (port : Number) : Prop :=
  (∃ a, s.aliases.has a = true ∧ ipAddressOf a = key ∧ portOf a = port) ∨
    ∃ t ∈ l, t.KeepsPort key port

/-- Every entry of the registry has a reason. -/
structure Kept (s : Server) (l : List ServerTask) : Prop where
  member : ∀ {key}, (s.subnets.member key).isSome = true → MemberKept s l key
  port : ∀ {key port}, port ∈ s.subnets.ports key → PortKept s l key port

namespace Kept

open ServerTask

variable {s s' : Server} {t : ServerTask} {l next : List ServerTask}

theorem init : Kept {} [] where
  member h := by cases h
  port h := by cases h

theorem perm {l' : List ServerTask} (hl : l.Perm l') (h : Kept s l) : Kept s l' where
  member hm := by
    rcases h.member hm with hc | ha | ⟨t, ht, hk⟩
    · exact .inl hc
    · exact .inr (.inl ha)
    · exact .inr (.inr ⟨t, hl.mem_iff.mp ht, hk⟩)
  port hp := by
    rcases h.port hp with ha | ⟨t, ht, hk⟩
    · exact .inl ha
    · exact .inr ⟨t, hl.mem_iff.mp ht, hk⟩

/-- The reasons after a step.  No reason is lost but those of the task itself:
the clients stay, and an alias that goes is taken over by a task that removes
what belongs to it. -/
theorem step (h : Kept s (t :: l))
    (hclients : ∀ id, s.clients.has id = true → s'.clients.has id = true)
    (haliases : ∀ a, s.aliases.has a = true → s'.aliases.has a = true ∨
      ∃ t' ∈ next, t'.KeepsMember (ipAddressOf a) ∧ t'.keptAlias = some a)
    (hmember : ∀ key, (s'.subnets.member key).isSome = true →
      (s.subnets.member key).isSome = true ∧ ¬t.KeepsMember key ∨ MemberKept s' next key)
    (hport : ∀ key port, port ∈ s'.subnets.ports key →
      port ∈ s.subnets.ports key ∧ ¬t.KeepsPort key port ∨ PortKept s' next key port) :
    Kept s' (next ++ l) where
  member {key} hm := by
    rcases hmember key hm with ⟨hsome, hnot⟩ | hc | ha | ⟨t', ht', hk⟩
    · rcases h.member hsome with ⟨id, hid, hk⟩ | ⟨a, ha, hk⟩ | ⟨t', ht', hk⟩
      · exact .inl ⟨id, hclients id hid, hk⟩
      · rcases haliases a ha with ha | ⟨t', ht', hk', -⟩
        · exact .inr (.inl ⟨a, ha, hk⟩)
        · exact .inr (.inr ⟨t', List.mem_append_left _ ht', hk ▸ hk'⟩)
      · rcases List.mem_cons.mp ht' with rfl | ht'
        · exact absurd hk hnot
        · exact .inr (.inr ⟨t', List.mem_append_right _ ht', hk⟩)
    · exact .inl hc
    · exact .inr (.inl ha)
    · exact .inr (.inr ⟨t', List.mem_append_left _ ht', hk⟩)
  port {key port} hp := by
    rcases hport key port hp with ⟨hmem, hnot⟩ | ha | ⟨t', ht', hk⟩
    · rcases h.port hmem with ⟨a, ha, hk⟩ | ⟨t', ht', hk⟩
      · rcases haliases a ha with ha | ⟨t', ht', -, hk'⟩
        · exact .inl ⟨a, ha, hk⟩
        · exact .inr ⟨t', List.mem_append_left _ ht', a, hk', hk⟩
      · rcases List.mem_cons.mp ht' with rfl | ht'
        · exact absurd hk hnot
        · exact .inr ⟨t', List.mem_append_right _ ht', hk⟩
    · exact .inl ha
    · exact .inr ⟨t', List.mem_append_left _ ht', hk⟩

/-- A step that leaves the tables alone, of a task that is no reason or leaves a
task that is the same reason. -/
theorem quiet (h : Kept s (t :: l)) (outbox : List (Socket × Operation))
    (hmember : ∀ key, t.KeepsMember key → ∃ t' ∈ next, t'.KeepsMember key)
    (hport : ∀ a, t.keptAlias = some a → ∃ t' ∈ next, t'.keptAlias = some a) :
    Kept { s with outbox := outbox } (next ++ l) := by
  refine h.step (fun _ hid => hid) (fun _ ha => .inl ha) ?_ ?_
  · intro key hm
    by_cases hk : t.KeepsMember key
    · exact .inr (.inr (.inr (hmember key hk)))
    · exact .inl ⟨hm, hk⟩
  · intro key port hp
    by_cases hk : t.KeepsPort key port
    · obtain ⟨a, ha, hkey⟩ := hk
      obtain ⟨t', ht', ha'⟩ := hport a ha
      exact .inr (.inr ⟨t', ht', a, ha', hkey⟩)
    · exact .inl ⟨hp, hk⟩

/-- A step that makes no reason void and whose task is none. -/
theorem pass (h : Kept s (t :: l)) (outbox : List (Socket × Operation))
    (hmember : ∀ key, ¬t.KeepsMember key) (hport : t.keptAlias = none) :
    Kept { s with outbox := outbox } (next ++ l) := by
  refine h.quiet outbox (fun key hk => absurd hk (hmember key)) fun a ha => ?_
  rw [hport] at ha
  cases ha

/-- A critical section: clients and aliases stay. -/
theorem inside (h : Kept s (t :: l)) {subnets : Subnets} {mutex : Bool}
    (hmember : ∀ key, (subnets.member key).isSome = true →
      (s.subnets.member key).isSome = true ∧ ¬t.KeepsMember key ∨
        ∃ t' ∈ next, t'.KeepsMember key)
    (hport : ∀ key port, port ∈ subnets.ports key →
      port ∈ s.subnets.ports key ∧ ¬t.KeepsPort key port ∨ ∃ t' ∈ next, t'.KeepsPort key port) :
    Kept { s with subnets := subnets, subnetsMutex := mutex } (next ++ l) := by
  refine h.step (fun _ hid => hid) (fun _ ha => .inl ha) ?_ ?_
  · intro key hm
    rcases hmember key hm with hs | ht
    · exact .inl hs
    · exact .inr (.inr (.inr ht))
  · intro key port hp
    rcases hport key port hp with hs | ht
    · exact .inl hs
    · exact .inr (.inr ht)

/-- Removing a member, by a task that is a reason for nothing else. -/
theorem removeIPAddress (h : Kept s (t :: l)) {ipAddress : String}
    (hmember : ∀ key, t.KeepsMember key → key = parseIPAddress ipAddress)
    (hport : ∀ key port, t.KeepsPort key port → key = parseIPAddress ipAddress) :
    Kept (s.locked (s.subnets.removeIPAddress ipAddress)) (next ++ l) := by
  refine h.inside ?_ ?_
  · intro key hm
    obtain ⟨hsome, hne⟩ := Subnets.isSome_member_removeIPAddress.mp hm
    exact .inl ⟨hsome, fun hk => hne (hmember key hk)⟩
  · intro key port hp
    obtain ⟨hmem, hne⟩ := Subnets.mem_ports_removeIPAddress.mp hp
    exact .inl ⟨hmem, fun hk => hne (hport key port hk)⟩

/-- Removing the port of an alias, by the task that keeps it. -/
theorem removeTCPAddress (h : Kept s (t :: l)) {a : String} (ha : IsAlias a)
    (hmember : ∀ key, t.KeepsMember key → ∃ t' ∈ next, t'.KeepsMember key)
    (hport : t.keptAlias = some a) :
    Kept (s.locked (s.subnets.removeTCPAddress a)) (next ++ l) := by
  refine h.inside ?_ ?_
  · intro key hm
    rw [Subnets.isSome_member_removeTCPAddress] at hm
    by_cases hk : t.KeepsMember key
    · exact .inr (hmember key hk)
    · exact .inl ⟨hm, hk⟩
  · intro key port hp
    obtain ⟨hmem, hne⟩ := (Subnets.mem_ports_removeTCPAddress ha).mp hp
    refine .inl ⟨hmem, ?_⟩
    rintro ⟨a', ha', hk⟩
    cases hport.symm.trans ha'
    exact hne hk

/-- A task registers the alias that it is the reason for. -/
theorem register (h : Kept s (t :: l)) {a : String} (entry : MAlias)
    (outbox : List (Socket × Operation)) (hport : t.keptAlias = some a)
    (hmember : ∀ key, t.KeepsMember key → key = ipAddressOf a) :
    Kept { s with aliases := s.aliases.set a entry, outbox := outbox } (next ++ l) := by
  have hnew : (s.aliases.set a entry).has a = true := by
    rw [Map.has_set, decide_eq_true rfl, Bool.true_or]
  refine h.step (fun _ hid => hid) (fun a' ha => .inl ?_) ?_ ?_
  · rw [Map.has_set, ha, Bool.or_true]
  · intro key hm
    by_cases hk : t.KeepsMember key
    · exact .inr (.inr (.inl ⟨a, hnew, (hmember key hk).symm⟩))
    · exact .inl ⟨hm, hk⟩
  · intro key port hp
    by_cases hk : t.KeepsPort key port
    · obtain ⟨a', ha', hk⟩ := hk
      cases hport.symm.trans ha'
      exact .inr (.inl ⟨a, hnew, hk⟩)
    · exact .inl ⟨hp, hk⟩

theorem message (h : Kept s l) (operation : Operation) (client : Socket) :
    Kept s (.received operation client :: l) where
  member hm := by
    rcases h.member hm with hc | ha | ⟨t, ht, hk⟩
    · exact .inl hc
    · exact .inr (.inl ha)
    · exact .inr (.inr ⟨t, List.mem_cons_of_mem _ ht, hk⟩)
  port hp := by
    rcases h.port hp with ha | ⟨t, ht, hk⟩
    · exact .inl ha
    · exact .inr ⟨t, List.mem_cons_of_mem _ ht, hk⟩

theorem close (h : Kept s l) (client : Socket) :
    Kept (s.closed client) ((s.closing client).map .goodbyeAddress ++ l) where
  member hm := by
    rcases h.member hm with ⟨id, hid, hk⟩ | ha | ⟨t, ht, hk⟩
    · by_cases hc : id ∈ s.closing client
      · exact .inr (.inr ⟨.goodbyeAddress id,
          List.mem_append_left _ (List.mem_map_of_mem hc), hk⟩)
      · obtain ⟨socket, hsocket⟩ := Map.has_iff.mp hid
        refine .inl ⟨id, Map.has_of_get (v := socket) ?_, hk⟩
        exact Map.get_filter_eq_some_iff.mpr ⟨hsocket, decide_eq_true hc⟩
    · exact .inr (.inl ha)
    · exact .inr (.inr ⟨t, List.mem_append_right _ ht, hk⟩)
  port hp := by
    rcases h.port hp with ha | ⟨t, ht, hk⟩
    · exact .inl ha
    · exact .inr ⟨t, List.mem_append_right _ ht, hk⟩

theorem resume (h : Kept s (t :: l)) (hsane : Sane s (t :: l))
    (hstep : Resumes s t s' next) : Kept s' (next ++ l) := by
  have hwell : t.WellFormed := hsane.tasks t List.mem_cons_self
  have hfound : t.Found s.subnets := hsane.found t List.mem_cons_self
  cases hstep with
  | knock data client => exact h.pass s.outbox (fun _ hk => hk) rfl
  | bind data client => exact h.pass s.outbox (fun _ hk => hk) rfl
  | connect data client => exact h.pass s.outbox (fun _ hk => hk) rfl
  | answered operation client outbox => exact h.pass outbox (fun _ hk => hk) rfl
  | acknowledged client id hid outbox =>
    refine h.quiet outbox (fun key hk => ⟨_, List.mem_singleton_self _, hk.2⟩) ?_
    exact fun a ha => by cases ha
  | overflow client outbox => exact h.pass outbox (fun _ hk => hk.1 rfl) rfl
  | portRemoved data =>
    refine h.quiet s.outbox (fun key hk => ⟨_, List.mem_singleton_self _, hk⟩) ?_
    exact fun a ha => by cases ha
  | addressRemoved data outbox => exact h.pass outbox (fun _ hk => hk) rfl
  | reject data clientAlias =>
    exact h.quiet s.outbox (fun _ hk => hk.elim) fun a ha => ⟨_, List.mem_singleton_self _, ha⟩
  | rejected data clientAlias client outbox => exact h.pass outbox (fun _ hk => hk) rfl
  | lost data clientAlias client => exact h.pass s.outbox (fun _ hk => hk) rfl
  | clientNotified data clientAlias client entry server _ _ outbox =>
    exact h.pass outbox (fun _ hk => hk) rfl
  | serverNotified data clientAlias client serverId server outbox =>
    exact h.pass outbox (fun _ hk => hk) rfl
  | serverAccepted data client serverId outbox => exact h.pass outbox (fun _ hk => hk) rfl
  | releasedAddress id tcpAddress =>
    exact h.quiet s.outbox (fun _ hk => hk.elim) fun a ha => ⟨_, List.mem_singleton_self _, ha⟩
  | releasedPort id tcpAddress outbox => exact h.pass outbox (fun _ hk => hk) rfl
  | accepting data client entry hentry howner =>
    refine h.step (fun _ hid => hid) (fun a ha => .inl ?_) ?_ ?_
    · rw [Map.has_set, ha, Bool.or_true]
    · exact fun key hm => .inl ⟨hm, fun hk => hk⟩
    · exact fun key port hp => .inl ⟨hp, fun ⟨_, ha, _⟩ => by cases ha⟩
  | shutdown data client entry hentry howner =>
    refine h.step (fun _ hid => hid) (fun a ha => ?_) ?_ ?_
    · by_cases he : a = data.alias
      · exact .inr ⟨_, List.mem_singleton_self _, he ▸ rfl, he ▸ rfl⟩
      · left
        rw [Map.has_delete, ha, Bool.and_true]
        exact decide_eq_true he
    · exact fun key hm => .inl ⟨hm, fun hk => hk⟩
    · exact fun key port hp => .inl ⟨hp, fun ⟨_, ha, _⟩ => by cases ha⟩
  | register client id outbox =>
    refine h.step (fun id' hid => ?_) (fun _ ha => .inl ha) ?_ ?_
    · rw [Map.has_set, hid, Bool.or_true]
    · intro key hm
      by_cases hk : parseIPAddress id = key
      · refine .inr (.inl ⟨id, ?_, hk⟩)
        rw [Map.has_set, decide_eq_true rfl, Bool.true_or]
      · exact .inl ⟨hm, hk⟩
    · exact fun key port hp => .inl ⟨hp, fun ⟨_, ha, _⟩ => by cases ha⟩
  | bound data outbox =>
    refine h.register ⟨data.id, false⟩ outbox rfl ?_
    exact fun key hk => hk.symm
  | accepted data clientAlias client hremote hclient outbox =>
    exact h.register ⟨data.id, false⟩ outbox rfl fun key hk => hk.elim
  | orphaned data clientAlias hremote hclient =>
    exact h.register ⟨data.id, false⟩ s.outbox rfl fun key hk => hk.elim
  | swept id outbox =>
    refine h.step (fun _ hid => hid) (fun a ha => ?_) ?_ ?_
    · obtain ⟨entry, hentry⟩ := Map.has_iff.mp ha
      by_cases he : entry.id = id
      · have howned : a ∈ s.owned id := List.mem_map.mpr
          ⟨(a, entry), List.mem_filter.mpr
            ⟨Map.mem_entries_iff.mpr hentry, decide_eq_true he⟩, rfl⟩
        exact .inr ⟨_, List.mem_map_of_mem howned, rfl, rfl⟩
      · refine .inl (Map.has_of_get (v := entry) ?_)
        exact Map.get_filter_eq_some_iff.mpr ⟨hentry, decide_eq_true he⟩
    · exact fun key hm => .inl ⟨hm, fun hk => hk⟩
    · exact fun key port hp => .inl ⟨hp, fun ⟨_, ha, _⟩ => by cases ha⟩
  | searchSuffix data client =>
    refine h.inside ?_ ?_
    · intro key hm
      rw [Subnets.member_ensure] at hm
      exact .inl ⟨hm, fun hk => hk⟩
    · intro key port hp
      rw [Subnets.ports_ensure] at hp
      exact .inl ⟨hp, fun ⟨_, ha, _⟩ => by cases ha⟩
  | fullSubnet data client newSuffix hfull =>
    refine h.inside (fun key hm => .inl ⟨hm, fun hk => hk⟩) ?_
    exact fun key port hp => .inl ⟨hp, fun ⟨_, ha, _⟩ => by cases ha⟩
  | newMember data client newSuffix hfree =>
    have haddress : IsAddress (toIPAddress data.subnet newSuffix) := ⟨_, _, hwell, rfl⟩
    refine h.inside ?_ ?_
    · intro key hm
      rcases (Subnets.isSome_member_setMember hfound.1).mp hm with hm | rfl
      · exact .inl ⟨hm, fun hk => hk⟩
      · refine .inr ⟨_, List.mem_singleton_self _, haddress.ne_overflow, ?_⟩
        exact parseIPAddress_toIPAddress hwell newSuffix
    · intro key port hp
      rw [Subnets.ports_setMember hfound.1] at hp
      split_ifs at hp
      · cases hp
      · exact .inl ⟨hp, fun ⟨_, ha, _⟩ => by cases ha⟩
  | claimed data subnets hclaim =>
    obtain ⟨hsub, -, rfl⟩ := Subnets.claim_eq_ok hclaim
    refine h.inside ?_ ?_
    · intro key hm
      rcases (Subnets.isSome_member_setMember hsub).mp hm with hm | rfl
      · exact .inl ⟨hm, fun hk => hk⟩
      · exact .inr ⟨_, List.mem_singleton_self _, rfl⟩
    · intro key port hp
      rcases (Subnets.mem_ports_pushPort hsub).mp hp with hp | ⟨rfl, rfl⟩
      · exact .inl ⟨hp, fun ⟨_, ha, _⟩ => by cases ha⟩
      · exact .inr ⟨_, List.mem_singleton_self _, data.alias, rfl, rfl, rfl⟩
  | unclaimed data =>
    refine h.inside (fun key hm => .inl ⟨hm, fun hk => hk⟩) ?_
    exact fun key port hp => .inl ⟨hp, fun ⟨_, ha, _⟩ => by cases ha⟩
  | shutdownPort data =>
    exact h.removeTCPAddress hwell (fun key hk => ⟨_, List.mem_singleton_self _, hk⟩) rfl
  | shutdownAddress data =>
    have hparse := IsAlias.parseIPAddress_eq hwell
    refine h.removeIPAddress (fun key hk => hparse ▸ hk.symm) ?_
    exact fun key port ⟨_, ha, _⟩ => by cases ha
  | searchPort data m hm =>
    refine h.inside ?_ ?_
    · intro key hsome
      rcases (Subnets.isSome_member_setMember (Subnets.has_of_member hm)).mp hsome with hs | rfl
      · exact .inl ⟨hs, fun hk => hk⟩
      · exact .inl ⟨Option.isSome_iff_exists.mpr ⟨m, hm⟩, fun hk => hk⟩
    · intro key port hp
      rw [Subnets.mem_ports_sortPorts hm] at hp
      exact .inl ⟨hp, fun ⟨_, ha, _⟩ => by cases ha⟩
  | noMember data =>
    refine h.inside (fun key hm => .inl ⟨hm, fun hk => hk⟩) ?_
    exact fun key port hp => .inl ⟨hp, fun ⟨_, ha, _⟩ => by cases ha⟩
  | newPort data newPort =>
    obtain ⟨m, hm⟩ := Option.isSome_iff_exists.mp hfound.1
    have hsub := Subnets.has_of_member hm
    have hsubnet : IsSubnet (parseIPAddress data.id).subnet := hsane.subnets.isSubnet hsub
    refine h.inside ?_ ?_
    · intro key hsome
      rcases (Subnets.isSome_member_setMember hsub).mp hsome with hs | rfl
      · exact .inl ⟨hs, fun hk => hk⟩
      · exact .inl ⟨hfound.1, fun hk => hk⟩
    · intro key port hp
      rcases (Subnets.mem_ports_pushPort hsub).mp hp with hp | ⟨rfl, rfl⟩
      · exact .inl ⟨hp, fun ⟨_, ha, _⟩ => by cases ha⟩
      · refine .inr ⟨_, List.mem_singleton_self _, _, rfl, ?_, ?_⟩
        · rw [ipAddressOf_toTCPAddress hsubnet]
        · rw [portOf_toTCPAddress hsubnet]
  | rejecting data clientAlias client =>
    exact h.removeTCPAddress hwell (fun _ hk => hk.elim) rfl
  | goodbyeAddress id =>
    refine h.removeIPAddress (fun key hk => hk.symm) ?_
    exact fun key port ⟨_, ha, _⟩ => by cases ha
  | releaseAddress id tcpAddress =>
    have hparse := IsAlias.parseIPAddress_eq hwell
    refine h.removeIPAddress (fun key hk => hparse ▸ hk.symm) ?_
    rintro key port ⟨a, ha, hk, -⟩
    cases ha
    exact hparse ▸ hk.symm
  | releasePort id tcpAddress =>
    exact h.removeTCPAddress hwell (fun _ hk => hk.elim) rfl

end Kept

theorem ServerRun.kept {steps : List (ServerPool × ServerStep)} {p : ServerPool}
    (hrun : ServerRun steps p) (hwell : ServerRun.WellFormed steps) :
    Kept p.state p.tasks := by
  have hboth : Sane p.state p.tasks ∧ Kept p.state p.tasks := by
    refine hrun.invariant (I := fun s l => Sane s l ∧ Kept s l) hwell ?_ ⟨.init, .init⟩ ?_ ?_ ?_
    · exact fun s l l' hl h => ⟨h.1.perm hl, h.2.perm hl⟩
    · exact fun s l operation client h hop => ⟨h.1.message hop client, h.2.message _ client⟩
    · exact fun s l client h _ => ⟨h.1.close client, h.2.close client⟩
    · intro s l t rest s' next _ h hready _ hstep
      exact ⟨h.1.resume hready hstep, h.2.resume h.1 hstep⟩
  exact hboth.2

/-! ## No leak -/

/-- Every member is the address of a connected client or of an alias, and every
port is the port of an alias. -/
structure Server.NoLeak (s : Server) : Prop where
  member : ∀ {key}, (s.subnets.member key).isSome = true →
    s.clients.has (toIPAddress key.subnet key.suffix) = true ∨
      ∃ a, s.aliases.has a = true ∧ ipAddressOf a = key
  port : ∀ {key port}, port ∈ s.subnets.ports key →
    s.aliases.has (toTCPAddress (toIPAddress key.subnet key.suffix) port) = true

/-- The registry never leaks: in every run, when no handler is suspended, every
member and every port of the registry belongs to a client or an alias. -/
theorem server_noLeak {steps : List (ServerPool × ServerStep)} {p : ServerPool}
    (hrun : ServerRun steps p) (hwell : ServerRun.WellFormed steps) (hidle : p.tasks = []) :
    p.state.NoLeak := by
  have hsane := hrun.sane hwell
  have hkept := hrun.kept hwell
  rw [hidle] at hkept
  constructor
  · intro key hm
    rcases hkept.member hm with ⟨id, hid, hk⟩ | ha | ⟨t, ht, -⟩
    · left
      obtain ⟨client, hclient⟩ := Map.has_iff.mp hid
      rw [← hk, ← (hsane.isAddress hclient).eq_toIPAddress]
      exact hid
    · exact .inr ha
    · cases ht
  · intro key port hp
    rcases hkept.port hp with ⟨a, ha, rfl, rfl⟩ | ⟨t, ht, -⟩
    · obtain ⟨entry, hentry⟩ := Map.has_iff.mp ha
      rw [← (hsane.isAlias hentry).eq_toTCPAddress]
      exact ha
    · cases ht

/-- Two clients, a bound alias, a rejected and an accepted connection, and a
Shutdown that leaves the address of a client without a member. -/
def noLeakEvents : List ServerEvent :=
  ServerRun.handling (.knock ⟨"127.0.0", ""⟩) 0 5 ++
  ServerRun.handling (.knock ⟨"127.0.0", ""⟩) 1 5 ++
  ServerRun.handling (.connect ⟨"127.0.0.1", "127.0.0.0:80", "u"⟩) 1 6 ++
  ServerRun.handling (.bind ⟨"127.0.0.0", "127.0.0.0:80"⟩) 0 3 ++
  ServerRun.handling (.accepting ⟨"127.0.0.0", "127.0.0.0:80"⟩) 0 1 ++
  ServerRun.handling (.connect ⟨"127.0.0.1", "127.0.0.0:80", "v"⟩) 1 7 ++
  ServerRun.handling (.shutdown ⟨"127.0.0.0", "127.0.0.0:80"⟩) 0 5

theorem server_noLeak_run : ∃ steps p, ServerRun steps p ∧
    p.state.clients.keys = ["127.0.0.0", "127.0.0.1"] ∧
    p.state.aliases.keys = ["127.0.0.1:0"] ∧ p.state.NoLeak := by
  obtain ⟨steps, p, hrun, hwell, hidle, hclients, haliases⟩ := ServerRun.exists_along
    (P := fun steps p => ServerRun.WellFormed steps ∧ p.tasks = [] ∧
      p.state.clients.keys = ["127.0.0.0", "127.0.0.1"] ∧
      p.state.aliases.keys = ["127.0.0.1:0"]) noLeakEvents (by decide +kernel)
  exact ⟨steps, p, hrun, hclients, haliases, server_noLeak hrun hwell hidle⟩

end Unisockets.Signaling
