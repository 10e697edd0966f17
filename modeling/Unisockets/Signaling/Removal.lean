import Unisockets.Signaling.AliasExclusive
import Unisockets.Signaling.Settle

/-!
# What a removal removes

An accepted Shutdown should drop its alias and the port of the alias, and a
disconnect the ids of the socket, their addresses and the aliases they own.
Both call `removeIPAddress` with an alias, which drops the whole member at its
address: with it go the ports of every other alias there, and the address of a
client that has it.

`removal_frame` says, for every state that a run can reach, exactly when this
does no harm: the frame of the removal holds if and only if the addresses it
drops have no port of another alias and are not the address of another client.
`removal_frame_fails` is a Shutdown where they do.
-/

namespace Unisockets.Signaling

open JsStd

/-! ## The frames -/

/-- A Shutdown of `a` drops its entry and its port, and nothing else. -/
structure ShutdownFrame (s s' : Server) (a : String) : Prop where
  clients : ∀ id, s'.clients.get id = s.clients.get id
  aliases : ∀ k, s'.aliases.get k = if k = a then none else s.aliases.get k
  ports : ∀ key port, port ∈ s'.subnets.ports key ↔
    port ∈ s.subnets.ports key ∧ ¬(ipAddressOf a = key ∧ portOf a = port)
  addresses : ∀ id, s.clients.has id = true →
    (s'.subnets.member (parseIPAddress id)).isSome
      = (s.subnets.member (parseIPAddress id)).isSome

namespace Server

/-- An alias of a socket that closes. -/
def Owns (s : Server) (client : Socket) (a : String) : Prop :=
  ∃ entry, s.aliases.get a = some entry ∧ entry.id ∈ s.closing client

end Server

/-- The disconnect of a socket drops its ids, their addresses, and the aliases
they own with their ports, and nothing else. -/
structure DisconnectFrame (s s' : Server) (client : Socket) : Prop where
  clients : ∀ id, s'.clients.get id
    = if s.clients.get id = some client then none else s.clients.get id
  dropped : ∀ a, s.Owns client a → s'.aliases.get a = none
  kept : ∀ a, ¬s.Owns client a → s'.aliases.get a = s.aliases.get a
  ports : ∀ key port, port ∈ s'.subnets.ports key ↔ port ∈ s.subnets.ports key ∧
    ¬∃ a, s.Owns client a ∧ ipAddressOf a = key ∧ portOf a = port
  address : ∀ id ∈ s.closing client, s'.subnets.member (parseIPAddress id) = none
  addresses : ∀ id other, s.clients.get id = some other → other ≠ client →
    (s'.subnets.member (parseIPAddress id)).isSome
      = (s.subnets.member (parseIPAddress id)).isSome

/-! ## When they hold -/

/-- No other port is listed at the address of an alias, and it is not the
address of a client. -/
structure Server.Alone (s : Server) (a : String) : Prop where
  ports : ∀ port ∈ s.subnets.ports (ipAddressOf a), port = portOf a
  addresses : ∀ id, s.clients.has id = true → parseIPAddress id = ipAddressOf a →
    s.subnets.member (ipAddressOf a) = none

/-- The addresses that a disconnect passes to `removeIPAddress`. -/
def Server.Released (s : Server) (client : Socket) (key : IPAddress) : Prop :=
  (∃ id ∈ s.closing client, parseIPAddress id = key) ∨
    ∃ a, s.Owns client a ∧ ipAddressOf a = key

/-- The ids of a socket are its own, only ports of its own aliases are listed at
the addresses it releases, and no other client has one of these. -/
structure Server.Leaves (s : Server) (client : Socket) : Prop where
  ids : ∀ id ∈ s.closing client, ∀ other, s.clients.get id = some other → other = client
  ports : ∀ key, s.Released client key → ∀ port ∈ s.subnets.ports key,
    ∃ a, s.Owns client a ∧ ipAddressOf a = key ∧ portOf a = port
  addresses : ∀ id other, s.clients.get id = some other → other ≠ client →
    s.Released client (parseIPAddress id) → s.subnets.member (parseIPAddress id) = none

/-! ## The effect of a Shutdown -/

/-- The handler of an accepted Shutdown, at every point. -/
inductive ShutdownStage (s : Server) (data : IShutdownData) (client : Socket) :
    Server → List ServerTask → Prop where
  | received : ShutdownStage s data client s [.received (.shutdown data) client]
  | port (s' : Server) (t : ServerTask)
    (ht : t = .shutdownPort data)
    (hclients : s'.clients = s.clients) (haliases : s'.aliases = s.aliases.delete data.alias)
    (hsubnets : s'.subnets = s.subnets) : ShutdownStage s data client s' [t]
  | address (s' : Server) (t : ServerTask)
    (ht : t = .shutdownPortRemoved data ∨ t = .shutdownAddress data)
    (hclients : s'.clients = s.clients) (haliases : s'.aliases = s.aliases.delete data.alias)
    (hsubnets : s'.subnets = s.subnets.removeTCPAddress data.alias) :
    ShutdownStage s data client s' [t]
  | done (s' : Server) (l : List ServerTask)
    (hl : l = [.shutdownAddressRemoved data] ∨ l = [])
    (hclients : s'.clients = s.clients) (haliases : s'.aliases = s.aliases.delete data.alias)
    (hsubnets : s'.subnets
      = (s.subnets.removeTCPAddress data.alias).removeIPAddress data.alias) :
    ShutdownStage s data client s' l

namespace ShutdownStage

open ServerTask

variable {s s' : Server} {data : IShutdownData} {client : Socket} {l : List ServerTask}

theorem perm {l' : List ServerTask} (hl : l.Perm l') (h : ShutdownStage s data client s' l) :
    ShutdownStage s data client s' l' := by
  have hshort : l = l' := by
    cases h with
    | received => exact List.singleton_perm.mp hl
    | port => exact List.singleton_perm.mp hl
    | address => exact List.singleton_perm.mp hl
    | done _ _ hnil =>
      rcases hnil with rfl | rfl
      · exact List.singleton_perm.mp hl
      · exact (List.nil_perm.mp hl).symm
  exact hshort ▸ h

theorem resume {entry : MAlias} (hentry : s.aliases.get data.alias = some entry)
    (howner : entry.id = data.id) {t : ServerTask} {s'' : Server} {next : List ServerTask}
    (h : ShutdownStage s data client s' (t :: l)) (hstep : Resumes s' t s'' next) :
    ShutdownStage s data client s'' (next ++ l) := by
  cases h with
  | received =>
    cases hstep with
    | answered operation client outbox hanswered =>
      rw [ServerTask.Answered, hentry, Option.any_some, howner, decide_eq_true rfl] at hanswered
      cases hanswered
    | shutdown data client entry' hentry' howner' => exact .port _ _ rfl rfl rfl rfl
  | port _ _ ht hclients haliases hsubnets =>
    subst ht
    cases hstep with
    | shutdownPort data =>
      refine .address _ _ (.inl rfl) hclients haliases ?_
      rw [← hsubnets]
      rfl
  | address _ _ ht hclients haliases hsubnets =>
    rcases ht with rfl | rfl
    · cases hstep with
      | portRemoved data => exact .address _ _ (.inr rfl) hclients haliases hsubnets
    · cases hstep with
      | shutdownAddress data =>
        refine .done _ _ (.inl rfl) hclients haliases ?_
        rw [← hsubnets]
        rfl
  | done _ _ hl hclients haliases hsubnets =>
    rcases hl with hl | hl
    · cases hl
      cases hstep with
      | addressRemoved data outbox => exact .done _ _ (.inr rfl) hclients haliases hsubnets
    · cases hl

end ShutdownStage

/-- What is left when the handler of an accepted Shutdown is through. -/
theorem shutdown_settles {s : Server} {data : IShutdownData} {client : Socket} {entry : MAlias}
    (hentry : s.aliases.get data.alias = some entry) (howner : entry.id = data.id)
    {p' : ServerPool}
    (h : ServerPool.Settles (ServerPool.message ⟨s, []⟩ (.shutdown data) client) p') :
    p'.state.clients = s.clients ∧ p'.state.aliases = s.aliases.delete data.alias ∧
      p'.state.subnets = (s.subnets.removeTCPAddress data.alias).removeIPAddress data.alias := by
  have hstage : ShutdownStage s data client p'.state [] :=
    h.invariant .received (fun _ _ _ hl hs => hs.perm hl)
      fun _ _ _ _ _ hs _ hstep => hs.resume hentry howner hstep
  cases hstage with
  | done _ _ _ hclients haliases hsubnets => exact ⟨hclients, haliases, hsubnets⟩

/-- The frame of a Shutdown holds exactly when it drops nothing of anyone else. -/
theorem shutdownFrame_iff {s : Server} {data : IShutdownData} {client : Socket} {entry : MAlias}
    (hwell : IsAlias data.alias)
    (hentry : s.aliases.get data.alias = some entry) (howner : entry.id = data.id)
    {p' : ServerPool}
    (h : ServerPool.Settles (ServerPool.message ⟨s, []⟩ (.shutdown data) client) p') :
    ShutdownFrame s p'.state data.alias ↔ s.Alone data.alias := by
  obtain ⟨hclients, haliases, hsubnets⟩ := shutdown_settles hentry howner h
  have hparse := hwell.parseIPAddress_eq
  have hports : ∀ key port, port ∈ p'.state.subnets.ports key ↔
      port ∈ s.subnets.ports key ∧ key ≠ ipAddressOf data.alias := by
    intro key port
    rw [hsubnets, Subnets.mem_ports_removeIPAddress, Subnets.mem_ports_removeTCPAddress hwell,
      hparse]
    constructor
    · exact fun ⟨⟨hp, _⟩, hne⟩ => ⟨hp, hne⟩
    · exact fun ⟨hp, hne⟩ => ⟨⟨hp, fun he => hne he.1.symm⟩, hne⟩
  have hmember : ∀ key, (p'.state.subnets.member key).isSome = true ↔
      (s.subnets.member key).isSome = true ∧ key ≠ ipAddressOf data.alias := by
    intro key
    rw [hsubnets, Subnets.isSome_member_removeIPAddress, Subnets.isSome_member_removeTCPAddress,
      hparse]
  constructor
  · intro hframe
    constructor
    · intro port hport
      by_contra hne
      have hstays := (hframe.ports _ port).mpr ⟨hport, fun he => hne he.2.symm⟩
      exact ((hports _ port).mp hstays).2 rfl
    · intro id hid hkey
      have hsame := hframe.addresses id hid
      rw [hkey] at hsame
      rw [← Option.not_isSome_iff_eq_none, ← hsame]
      exact fun hsome => ((hmember _).mp hsome).2 rfl
  · intro halone
    constructor
    · intro id
      rw [hclients]
    · intro k
      rw [haliases, Map.get_delete]
    · intro key port
      rw [hports]
      constructor
      · exact fun ⟨hp, hne⟩ => ⟨hp, fun he => hne he.1.symm⟩
      · rintro ⟨hp, hnot⟩
        refine ⟨hp, fun hkey => hnot ⟨hkey.symm, ?_⟩⟩
        exact (halone.ports port (hkey ▸ hp)).symm
    · intro id hid
      rw [Bool.eq_iff_iff, hmember]
      constructor
      · exact fun hs => hs.1
      · refine fun hs => ⟨hs, fun hkey => ?_⟩
        have hnone := halone.addresses id hid hkey
        rw [hkey, hnone] at hs
        cases hs

/-! ## The effect of a disconnect -/

/-- A task of the handlers that a disconnect starts. -/
def ServerTask.OfDisconnect (s : Server) (client : Socket) : ServerTask → Prop
  | .goodbyeAddress id => id ∈ s.closing client
  | .goodbyeAddressRemoved id => id ∈ s.closing client
  | .releaseAddress _ a => s.Owns client a
  | .releaseAddressRemoved _ a => s.Owns client a
  | .releasePort _ a => s.Owns client a
  | .releasePortRemoved _ a => s.Owns client a
  | _ => False

/-- The handlers of a disconnect, at every point: a member is dropped, or some
task still goes on to drop it. -/
structure Disconnecting (s : Server) (client : Socket) (s' : Server) (l : List ServerTask) :
    Prop where
  tasks : ∀ t ∈ l, t.OfDisconnect s client
  clients : s'.clients = (s.closed client).clients
  old : ∀ {a entry}, s'.aliases.get a = some entry → s.aliases.get a = some entry
  kept : ∀ {a}, ¬s.Owns client a → s'.aliases.get a = s.aliases.get a
  swept : ∀ {a entry}, s'.aliases.get a = some entry → entry.id ∈ s.closing client →
    entry.id ∈ l.filterMap ServerTask.leavingId
  other : ∀ {key}, ¬s.Released client key → s'.subnets.member key = s.subnets.member key
  released : ∀ {key}, s.Released client key → s'.subnets.member key = none ∨
    (∃ t ∈ l, t.removedAddress.map parseIPAddress = some key) ∨
    ∃ a, s.Owns client a ∧ s'.aliases.has a = true ∧ ipAddressOf a = key

namespace Disconnecting

open ServerTask

variable {s s' s'' : Server} {client : Socket} {t : ServerTask} {l next : List ServerTask}

theorem perm {l' : List ServerTask} (hl : l.Perm l') (h : Disconnecting s client s' l) :
    Disconnecting s client s' l' where
  tasks t ht := h.tasks t (hl.mem_iff.mpr ht)
  clients := h.clients
  old := h.old
  kept := h.kept
  swept hget hid := (hl.filterMap _).mem_iff.mp (h.swept hget hid)
  other := h.other
  released hkey := by
    rcases h.released hkey with hnone | ⟨t, ht, hrem⟩ | ha
    · exact .inl hnone
    · exact .inr (.inl ⟨t, hl.mem_iff.mp ht, hrem⟩)
    · exact .inr (.inr ha)

theorem close (s : Server) (client : Socket) :
    Disconnecting s client (s.closed client) ((s.closing client).map .goodbyeAddress) where
  tasks t ht := by
    obtain ⟨id, hid, rfl⟩ := List.mem_map.mp ht
    exact hid
  clients := rfl
  old hget := hget
  kept _ := rfl
  swept {_ entry} _ hid := List.mem_filterMap.mpr
    ⟨.goodbyeAddress entry.id, List.mem_map_of_mem hid, rfl⟩
  other _ := rfl
  released {key} hkey := by
    rcases hkey with ⟨id, hid, hk⟩ | ⟨a, ⟨entry, hget, hid⟩, hk⟩
    · exact .inr (.inl ⟨.goodbyeAddress id, List.mem_map_of_mem hid, congrArg some hk⟩)
    · exact .inr (.inr ⟨a, ⟨entry, hget, hid⟩, Map.has_of_get hget, hk⟩)

/-- A step that leaves the tables alone. -/
theorem quiet (h : Disconnecting s client s' (t :: l)) (outbox : List (Socket × Operation))
    (hrem : t.removedAddress = none) (hleaving : t.leavingId = none)
    (hnext : ∀ t ∈ next, t.OfDisconnect s client) :
    Disconnecting s client { s' with outbox := outbox } (next ++ l) where
  tasks t' ht' := by
    rcases List.mem_append.mp ht' with ht' | ht'
    · exact hnext t' ht'
    · exact h.tasks t' (List.mem_cons_of_mem _ ht')
  clients := h.clients
  old := h.old
  kept := h.kept
  swept hget hid := by
    have hmem := h.swept hget hid
    rw [List.filterMap_cons_none hleaving] at hmem
    rw [List.filterMap_append]
    exact List.mem_append_right _ hmem
  other := h.other
  released hkey := by
    rcases h.released hkey with hnone | ⟨t', ht', hrem'⟩ | ha
    · exact .inl hnone
    · rcases List.mem_cons.mp ht' with rfl | ht'
      · rw [hrem] at hrem'
        cases hrem'
      · exact .inr (.inl ⟨t', List.mem_append_right _ ht', hrem'⟩)
    · exact .inr (.inr ha)

/-- A step that drops one of the released members. -/
theorem removeIPAddress (h : Disconnecting s client s' (t :: l)) {a : String}
    (hrem : t.removedAddress = some a) (hkey : s.Released client (parseIPAddress a))
    (hleaving : next.filterMap leavingId = [t].filterMap leavingId)
    (hnext : ∀ t ∈ next, t.OfDisconnect s client) :
    Disconnecting s client (s'.locked (s'.subnets.removeIPAddress a)) (next ++ l) where
  tasks t' ht' := by
    rcases List.mem_append.mp ht' with ht' | ht'
    · exact hnext t' ht'
    · exact h.tasks t' (List.mem_cons_of_mem _ ht')
  clients := h.clients
  old := h.old
  kept := h.kept
  swept hget hid := by
    have hmem := h.swept hget hid
    rw [List.filterMap_append, hleaving, ← List.filterMap_append]
    exact hmem
  other {key} hnot := by
    show (s'.subnets.removeIPAddress a).member key = _
    have hne : key ≠ parseIPAddress a := fun he => hnot (he ▸ hkey)
    rw [Subnets.member_removeIPAddress, if_neg hne]
    exact h.other hnot
  released {key} hreleased := by
    show (s'.subnets.removeIPAddress a).member key = none ∨ _
    rw [Subnets.member_removeIPAddress]
    split_ifs with hk
    · exact .inl rfl
    · rcases h.released hreleased with hnone | ⟨t', ht', hrem'⟩ | ha
      · exact .inl hnone
      · rcases List.mem_cons.mp ht' with rfl | ht'
        · rw [hrem] at hrem'
          exact absurd (Option.some.inj hrem').symm hk
        · exact .inr (.inl ⟨t', List.mem_append_right _ ht', hrem'⟩)
      · exact .inr (.inr ha)

/-- A step that drops a port at a released member. -/
theorem removeTCPAddress (h : Disconnecting s client s' (t :: l)) {a : String}
    (hrem : t.removedAddress = none) (hleaving : t.leavingId = none)
    (hkey : s.Released client (ipAddressOf a))
    (hnext : ∀ t ∈ next, t.OfDisconnect s client) :
    Disconnecting s client (s'.locked (s'.subnets.removeTCPAddress a)) (next ++ l) := by
  have hquiet := h.quiet s'.outbox hrem hleaving hnext
  refine ⟨hquiet.tasks, hquiet.clients, hquiet.old, hquiet.kept, hquiet.swept, ?_, ?_⟩
  · intro key hnot
    show (s'.subnets.removeTCPAddress a).member key = _
    have hne : key ≠ ipAddressOf a := fun he => hnot (he ▸ hkey)
    rw [Subnets.member_removeTCPAddress, if_neg hne]
    exact h.other hnot
  · intro key hreleased
    refine (hquiet.released hreleased).imp_left fun hnone => ?_
    show (s'.subnets.removeTCPAddress a).member key = none
    have hsome := Subnets.isSome_member_removeTCPAddress (s := s'.subnets) a key
    rw [hnone] at hsome
    exact Option.not_isSome_iff_eq_none.mp (by rw [hsome]; exact Bool.false_ne_true)

/-- The sweep: the aliases of one id go, and each leaves a task behind. -/
theorem sweep {id : String} (hclosing : id ∈ s.closing client)
    (h : Disconnecting s client s' (goodbyeAddressRemoved id :: l))
    (hwell : ∀ {a}, s.Owns client a → IsAlias a)
    (outbox : List (Socket × Operation)) :
    Disconnecting s client { s'.sweep id with outbox := outbox }
      ((s'.owned id).map (.releaseAddress id) ++ l) where
  tasks t' ht' := by
    rcases List.mem_append.mp ht' with ht' | ht'
    · obtain ⟨a, ha, rfl⟩ := List.mem_map.mp ht'
      obtain ⟨entry, hentry, rfl⟩ := List.mem_map.mp ha
      obtain ⟨hmem, hid⟩ := List.mem_filter.mp hentry
      refine ⟨entry.2, h.old (Map.mem_entries_iff.mp hmem), ?_⟩
      rw [of_decide_eq_true hid]
      exact hclosing
    · exact h.tasks t' (List.mem_cons_of_mem _ ht')
  clients := h.clients
  old hget := h.old (Map.get_filter_eq_some_iff.mp hget).1
  kept {a} hnot := by
    rw [← h.kept hnot]
    ext entry
    show (s'.sweep id).aliases.get a = some entry ↔ _
    rw [Server.sweep, Map.get_filter_eq_some_iff]
    refine ⟨fun hget => hget.1, fun hget => ⟨hget, decide_eq_true fun hid => hnot ?_⟩⟩
    exact ⟨entry, h.old hget, hid ▸ hclosing⟩
  swept {a entry} hget hid := by
    obtain ⟨hget, hne⟩ := Map.get_filter_eq_some_iff.mp hget
    have hmem := h.swept hget hid
    have hcons : (goodbyeAddressRemoved id :: l).filterMap leavingId
        = id :: l.filterMap leavingId := rfl
    rw [hcons] at hmem
    rw [List.filterMap_append]
    exact List.mem_append_right _
      ((List.mem_cons.mp hmem).resolve_left (of_decide_eq_true hne))
  other := h.other
  released {key} hreleased := by
    rcases h.released hreleased with hnone | ⟨t', ht', hrem'⟩ | ⟨a, howns, ha, hk⟩
    · exact .inl hnone
    · rcases List.mem_cons.mp ht' with rfl | ht'
      · cases hrem'
      · exact .inr (.inl ⟨t', List.mem_append_right _ ht', hrem'⟩)
    · obtain ⟨entry, hget⟩ := Map.has_iff.mp ha
      by_cases hid : entry.id = id
      · have howned : a ∈ s'.owned id := List.mem_map.mpr
          ⟨(a, entry), List.mem_filter.mpr
            ⟨Map.mem_entries_iff.mpr hget, decide_eq_true hid⟩, rfl⟩
        refine .inr (.inl ⟨.releaseAddress id a,
          List.mem_append_left _ (List.mem_map_of_mem howned), ?_⟩)
        rw [← hk, ← (hwell howns).parseIPAddress_eq]
        rfl
      · refine .inr (.inr ⟨a, howns, Map.has_of_get (v := entry) ?_, hk⟩)
        exact Map.get_filter_eq_some_iff.mpr ⟨hget, decide_eq_true hid⟩

theorem resume (hwell : ∀ {a}, s.Owns client a → IsAlias a)
    (h : Disconnecting s client s' (t :: l)) (hstep : Resumes s' t s'' next) :
    Disconnecting s client s'' (next ++ l) := by
  have ht := h.tasks t List.mem_cons_self
  have hreleased : ∀ {a}, s.Owns client a → s.Released client (parseIPAddress a) :=
    fun {a} ha => .inr ⟨a, ha, (hwell ha).parseIPAddress_eq.symm⟩
  cases hstep with
  | goodbyeAddress id =>
    exact h.removeIPAddress rfl (.inl ⟨id, ht, rfl⟩) rfl (List.forall_mem_singleton.mpr ht)
  | swept id outbox => exact sweep ht h hwell outbox
  | releaseAddress id a =>
    exact h.removeIPAddress rfl (hreleased ht) rfl (List.forall_mem_singleton.mpr ht)
  | releasedAddress id a =>
    exact h.quiet s'.outbox rfl rfl (List.forall_mem_singleton.mpr ht)
  | releasePort id a =>
    exact h.removeTCPAddress rfl rfl (.inr ⟨a, ht, rfl⟩) (List.forall_mem_singleton.mpr ht)
  | releasedPort id a outbox =>
    exact h.quiet outbox rfl rfl fun t ht => absurd ht List.not_mem_nil
  | _ => exact ht.elim

end Disconnecting

/-- What is left when the handlers of a disconnect are through. -/
theorem disconnect_settles {s : Server} {client : Socket}
    (hwell : ∀ {a}, s.Owns client a → IsAlias a) {p' : ServerPool}
    (h : ServerPool.Settles (ServerPool.close ⟨s, []⟩ client) p') :
    Disconnecting s client p'.state [] :=
  h.invariant (.close s client) (fun _ _ _ hl hd => hd.perm hl)
    fun _ _ _ _ _ hd _ hstep => hd.resume hwell hstep

namespace Disconnecting

variable {s s' : Server} {client : Socket}

theorem dropped (h : Disconnecting s client s' []) {a : String} (ha : s.Owns client a) :
    s'.aliases.get a = none := by
  rw [← Option.not_isSome_iff_eq_none, Option.isSome_iff_exists]
  rintro ⟨entry, hget⟩
  obtain ⟨entry', hget', hid⟩ := ha
  rw [h.old hget] at hget'
  cases hget'
  exact List.not_mem_nil (h.swept hget hid)

theorem member_released (h : Disconnecting s client s' []) {key : IPAddress}
    (hkey : s.Released client key) : s'.subnets.member key = none := by
  rcases h.released hkey with hnone | ⟨t, ht, -⟩ | ⟨a, ha, hhas, -⟩
  · exact hnone
  · cases ht
  · obtain ⟨entry, hget⟩ := Map.has_iff.mp hhas
    rw [h.dropped ha] at hget
    cases hget

theorem ports_of_not_released (h : Disconnecting s client s' []) {key : IPAddress}
    (hkey : ¬s.Released client key) : s'.subnets.ports key = s.subnets.ports key := by
  rw [Subnets.ports, h.other hkey]
  rfl

theorem get_clients (h : Disconnecting s client s' []) (id : String) :
    s'.clients.get id = if id ∈ s.closing client then none else s.clients.get id := by
  ext other
  rw [h.clients, Server.closed, Map.get_filter_eq_some_iff, decide_eq_true_eq]
  split_ifs with hid
  · exact ⟨fun hget => absurd hid hget.2, fun hget => by cases hget⟩
  · exact ⟨fun hget => hget.1, fun hget => ⟨hget, hid⟩⟩

/-- The frame of a disconnect holds exactly when it drops nothing of anyone else. -/
theorem frame_iff (h : Disconnecting s client s' []) (hlistening : s.Listening) :
    DisconnectFrame s s' client ↔ s.Leaves client := by
  constructor
  · intro hframe
    constructor
    · intro id hid other hother
      by_contra hne
      have hstays := hframe.clients id
      rw [h.get_clients, if_pos hid, hother,
        if_neg fun he => hne (Option.some.inj he)] at hstays
      cases hstays
    · intro key hkey port hport
      by_contra hnot
      have hstays := (hframe.ports key port).mpr ⟨hport, hnot⟩
      rw [Subnets.ports_of_member_none (h.member_released hkey)] at hstays
      cases hstays
    · intro id other hother hne hkey
      have hsame := hframe.addresses id other hother hne
      rw [h.member_released hkey] at hsame
      exact Option.not_isSome_iff_eq_none.mp (by rw [← hsame]; exact Bool.false_ne_true)
  · intro hleaves
    constructor
    · intro id
      rw [h.get_clients]
      by_cases hid : id ∈ s.closing client
      · rw [if_pos hid]
        cases hget : s.clients.get id with
        | none => exact (ite_self _).symm
        | some other => rw [hleaves.ids id hid other hget, if_pos rfl]
      · rw [if_neg hid, if_neg]
        intro hget
        exact hid (List.mem_map.mpr ⟨(client, id),
          List.mem_filter.mpr ⟨hlistening hget, decide_eq_true rfl⟩, rfl⟩)
    · exact fun a ha => h.dropped ha
    · exact fun a ha => h.kept ha
    · intro key port
      by_cases hkey : s.Released client key
      · rw [Subnets.ports_of_member_none (h.member_released hkey)]
        refine ⟨fun hp => absurd hp List.not_mem_nil, fun hp => ?_⟩
        exact absurd (hleaves.ports key hkey port hp.1) hp.2
      · rw [h.ports_of_not_released hkey]
        refine ⟨fun hp => ⟨hp, ?_⟩, fun hp => hp.1⟩
        rintro ⟨a, ha, hk, -⟩
        exact hkey (.inr ⟨a, ha, hk⟩)
    · exact fun id hid => h.member_released (.inl ⟨id, hid, rfl⟩)
    · intro id other hother hne
      by_cases hkey : s.Released client (parseIPAddress id)
      · rw [h.member_released hkey, hleaves.addresses id other hother hne hkey]
      · rw [h.other hkey]

end Disconnecting

/-! ## Every reachable state -/

/-- In every state that a run reaches, a Shutdown and a disconnect that are
handled with nothing else in between remove exactly what they should if and
only if they drop no address that holds something of anyone else. -/
theorem removal_frame {steps : List (ServerPool × ServerStep)} {p : ServerPool}
    (hrun : ServerRun steps p) (hwell : ServerRun.WellFormed steps) :
    (∀ data client entry p', p.state.aliases.get data.alias = some entry →
      entry.id = data.id →
      ServerPool.Settles (ServerPool.message ⟨p.state, []⟩ (.shutdown data) client) p' →
      (ShutdownFrame p.state p'.state data.alias ↔ p.state.Alone data.alias)) ∧
    (∀ client p', ServerPool.Settles (ServerPool.close ⟨p.state, []⟩ client) p' →
      (DisconnectFrame p.state p'.state client ↔ p.state.Leaves client)) := by
  have hsane := hrun.sane hwell
  constructor
  · intro data client entry p' hentry howner hsettles
    exact shutdownFrame_iff (hsane.isAlias hentry) hentry howner hsettles
  · intro client p' hsettles
    refine (disconnect_settles ?_ hsettles).frame_iff hrun.listening
    rintro a ⟨entry, hentry, -⟩
    exact hsane.isAlias hentry

/-- A client with an alias at its own address and one at another. -/
def removalEvents : List ServerEvent :=
  ServerRun.handling (.knock ⟨"127.0.0", ""⟩) 0 5 ++
  ServerRun.handling (.bind ⟨"127.0.0.0", "127.0.0.0:80"⟩) 0 3 ++
  ServerRun.handling (.bind ⟨"127.0.0.0", "127.0.0.7:81"⟩) 0 3

/-- The alias at the other address is shut down without harm. -/
theorem removal_frame_run : ∃ steps p p', ServerRun steps p ∧
    ServerPool.Settles
      (ServerPool.message ⟨p.state, []⟩ (.shutdown ⟨"127.0.0.0", "127.0.0.7:81"⟩) 0) p' ∧
    ShutdownFrame p.state p'.state "127.0.0.7:81" := by
  obtain ⟨steps, p, hrun, hwell, hidle, hentry, hports, hkeys⟩ := ServerRun.exists_along
    (P := fun steps p => ServerRun.WellFormed steps ∧ p.tasks = [] ∧
      p.state.aliases.get "127.0.0.7:81" = some ⟨"127.0.0.0", false⟩ ∧
      (∀ port ∈ p.state.subnets.ports (ipAddressOf "127.0.0.7:81"),
        port = portOf "127.0.0.7:81") ∧
      ∀ id ∈ p.state.clients.keys, parseIPAddress id ≠ ipAddressOf "127.0.0.7:81")
    removalEvents (by decide +kernel)
  obtain ⟨p', hp'⟩ := hrun.settles_message hwell hidle
    (.shutdown ⟨"127.0.0.0", "127.0.0.7:81"⟩) 0 trivial
  refine ⟨steps, p, p', hrun, hp', ?_⟩
  refine ((removal_frame hrun hwell).1 _ 0 _ p' hentry rfl hp').mpr
    ⟨hports, fun id hid hkey => ?_⟩
  exact absurd hkey (hkeys id (Map.has_iff_mem_keys.mp hid))

/-! ## The defect -/

/-- A Shutdown of an alias at the client's own address drops that address. -/
theorem removal_frame_fails : ¬∀ steps p, ServerRun steps p → ServerRun.WellFormed steps →
    ServerRun.OwnIds steps →
    (∀ data client entry p', p.state.aliases.get data.alias = some entry →
      entry.id = data.id →
      ServerPool.Settles (ServerPool.message ⟨p.state, []⟩ (.shutdown data) client) p' →
      ShutdownFrame p.state p'.state data.alias) ∧
    (∀ client p', ServerPool.Settles (ServerPool.close ⟨p.state, []⟩ client) p' →
      DisconnectFrame p.state p'.state client) := by
  intro h
  obtain ⟨steps, p, hrun, hwell, hown, hidle, hentry, hclient, hmember⟩ := ServerRun.exists_along
    (P := fun steps p => ServerRun.WellFormed steps ∧ ServerRun.OwnIds steps ∧ p.tasks = [] ∧
      p.state.aliases.get "127.0.0.0:80" = some ⟨"127.0.0.0", false⟩ ∧
      p.state.clients.has "127.0.0.0" = true ∧
      (p.state.subnets.member (ipAddressOf "127.0.0.0:80")).isSome = true)
    removalEvents (by decide +kernel)
  obtain ⟨p', hp'⟩ := hrun.settles_message hwell hidle
    (.shutdown ⟨"127.0.0.0", "127.0.0.0:80"⟩) 0 trivial
  have hframe := (h steps p hrun hwell hown).1 _ 0 _ p' hentry rfl hp'
  have halone := (shutdownFrame_iff ((hrun.sane hwell).isAlias hentry) hentry rfl hp').mp hframe
  have hnone := halone.addresses "127.0.0.0" hclient (by decide +kernel)
  rw [hnone] at hmember
  cases hmember

end Unisockets.Signaling
