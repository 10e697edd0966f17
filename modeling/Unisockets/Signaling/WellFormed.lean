import Unisockets.Signaling.ServerRun

/-!
# What is well formed in every run

Two invariants hold in every run whose Knocks name a subnet and whose Binds
name an alias, whatever else the messages carry and however the handlers
interleave.

* The mutex: exactly one handler is inside a search while the flag is up, and
  none while it is down.
* The texts and the registry: every subnet, client id and alias in the tables
  and in the suspended handlers is well formed, the suffixes and ports of the
  registry are natural numbers, no port is listed twice, and what a search has
  found is still free when the handler goes on.

`ServerRun.wellFormed` puts them together.
-/

namespace Unisockets.Signaling

open JsStd

/-! ## The registry -/

namespace Subnets

variable {s : Subnets}

/-- The registry holds subnets, natural suffixes and distinct natural ports. -/
structure WellFormed (s : Subnets) : Prop where
  isSubnet : ∀ {subnet}, s.has subnet = true → IsSubnet subnet
  suffix : ∀ {key m}, s.member key = some m → ∃ n : Nat, key.suffix = (n : Number)
  naturals : ∀ {key m}, s.member key = some m → Naturals m.ports
  nodup : ∀ {key m}, s.member key = some m → m.ports.Nodup

namespace WellFormed

theorem empty : WellFormed Map.empty where
  isSubnet h := by cases h
  suffix h := by cases h
  naturals h := by cases h
  nodup h := by cases h

theorem ensure (h : s.WellFormed) {subnet : String} (hsub : IsSubnet subnet) :
    (s.ensure subnet).WellFormed where
  isSubnet := by
    intro subnet' h'
    unfold Subnets.ensure at h'
    split_ifs at h' with hhas
    · exact h.isSubnet h'
    · rw [Map.has_set, Bool.or_eq_true, decide_eq_true_eq] at h'
      rcases h' with rfl | h'
      · exact hsub
      · exact h.isSubnet h'
  suffix hm := h.suffix (member_ensure subnet _ ▸ hm)
  naturals hm := h.naturals (member_ensure subnet _ ▸ hm)
  nodup hm := h.nodup (member_ensure subnet _ ▸ hm)

/-- Every update of one member is a `setMember`. -/
theorem setMember (h : s.WellFormed) {key : IPAddress} {m : MMember}
    (hsub : s.has key.subnet = true) (hsuffix : ∃ n : Nat, key.suffix = (n : Number))
    (hnat : Naturals m.ports) (hnodup : m.ports.Nodup) : (s.setMember key m).WellFormed where
  isSubnet hs := h.isSubnet (has_setMember key m _ ▸ hs)
  suffix hm := by
    rw [member_setMember hsub] at hm
    split_ifs at hm with hk
    · exact hk ▸ hsuffix
    · exact h.suffix hm
  naturals hm := by
    rw [member_setMember hsub] at hm
    split_ifs at hm with hk
    · exact Option.some.inj hm ▸ hnat
    · exact h.naturals hm
  nodup hm := by
    rw [member_setMember hsub] at hm
    split_ifs at hm with hk
    · exact Option.some.inj hm ▸ hnodup
    · exact h.nodup hm

theorem deleteMember (h : s.WellFormed) (key : IPAddress) : (s.deleteMember key).WellFormed where
  isSubnet hs := h.isSubnet (has_deleteMember key _ ▸ hs)
  suffix hm := by
    rw [member_deleteMember] at hm
    split_ifs at hm
    exact h.suffix hm
  naturals hm := by
    rw [member_deleteMember] at hm
    split_ifs at hm
    exact h.naturals hm
  nodup hm := by
    rw [member_deleteMember] at hm
    split_ifs at hm
    exact h.nodup hm

theorem naturals_ports (h : s.WellFormed) (key : IPAddress) : Naturals (s.ports key) := by
  cases hm : s.member key with
  | none =>
    rw [ports_of_member_none hm]
    exact fun x hx => absurd hx List.not_mem_nil
  | some m =>
    rw [ports_of_member hm]
    exact h.naturals hm

theorem nodup_ports (h : s.WellFormed) (key : IPAddress) : (s.ports key).Nodup := by
  cases hm : s.member key with
  | none =>
    rw [ports_of_member_none hm]
    exact List.nodup_nil
  | some m =>
    rw [ports_of_member hm]
    exact h.nodup hm

theorem pushPort (h : s.WellFormed) {key : IPAddress} {port : Nat}
    (hsub : s.has key.subnet = true) (hsuffix : ∃ n : Nat, key.suffix = (n : Number))
    (hfree : (port : Number) ∉ s.ports key) : (s.pushPort key port).WellFormed := by
  have hport : Naturals [(port : Number)] := by
    intro x hx
    exact ⟨port, List.mem_singleton.mp hx⟩
  refine h.setMember hsub hsuffix ((h.naturals_ports key).append hport) ?_
  refine (List.perm_append_singleton _ _).nodup_iff.mpr ?_
  exact List.nodup_cons.mpr ⟨hfree, h.nodup_ports key⟩

theorem sortPorts (h : s.WellFormed) {key : IPAddress} {m : MMember}
    (hm : s.member key = some m) : (s.sortPorts key).WellFormed := by
  refine h.setMember (has_of_member hm) (h.suffix hm) ?_ ?_
  · exact (h.naturals_ports key).subset fun x hx => mem_sortNumbers.mp hx
  · exact (sortNumbers_perm _).nodup_iff.mpr (h.nodup_ports key)

theorem removeIPAddress (h : s.WellFormed) (ipAddress : String) :
    (s.removeIPAddress ipAddress).WellFormed :=
  h.deleteMember _

theorem removeTCPAddress (h : s.WellFormed) (tcpAddress : String) :
    (s.removeTCPAddress tcpAddress).WellFormed := by
  unfold Subnets.removeTCPAddress
  split
  · rename_i m hm
    refine h.setMember (has_of_member hm) (h.suffix hm) ?_ ?_
    · exact (h.naturals hm).subset (List.filter_subset_self _)
    · exact (h.nodup hm).filter _
  · exact h

theorem claim (h : s.WellFormed) {tcpAddress : String} (ha : IsAlias tcpAddress)
    {s' : Subnets} (hs' : s.claim tcpAddress = .ok s') : s'.WellFormed := by
  obtain ⟨hsub, -, he⟩ := claim_eq_ok hs'
  obtain ⟨p, hp⟩ := ha.natural_port
  rw [he, hp]
  exact h.pushPort hsub ha.natural_suffix (not_mem_ports_of_claim hs' hp)

/-- The suffix that a search finds has no member. -/
theorem member_nextSuffix (h : s.WellFormed) (subnet : String) :
    s.member ⟨subnet, (s.nextSuffix subnet : Nat)⟩ = none := by
  cases hs : s.get subnet with
  | none => rw [member, hs, Option.bind_none]
  | some members =>
    have hmember : ∀ suffix, s.member ⟨subnet, suffix⟩ = members.get suffix := by
      intro suffix
      rw [member, hs, Option.bind_some]
    have hnat : Naturals members.keys := by
      intro x hx
      obtain ⟨m, hm⟩ := Map.mem_keys_iff.mp hx
      have hx' : s.member ⟨subnet, x⟩ = some m := (hmember x).trans hm
      exact h.suffix hx'
    have hfree := firstGap_not_mem hnat members.nodup_keys
    rw [hmember, nextSuffix, hs, Option.getD_some, ← Option.not_isSome_iff_eq_none]
    exact fun hsome => hfree (Map.has_iff_mem_keys.mp hsome)

/-- The port that a search finds is not listed. -/
theorem nextPort_not_mem (h : s.WellFormed) (key : IPAddress) :
    ((s.nextPort key : Nat) : Number) ∉ s.ports key :=
  firstGap_not_mem (h.naturals_ports key) (h.nodup_ports key)

end WellFormed

end Subnets

/-! ## Messages and tasks -/

/-- A Knock names a subnet and a Bind names an alias. -/
def Operation.WellFormed : Operation → Prop
  | .knock data => IsSubnet data.subnet
  | .bind data => IsAlias data.alias
  | _ => True

instance : DecidablePred Operation.WellFormed
  | .knock data => inferInstanceAs (Decidable (IsSubnet data.subnet))
  | .bind data => inferInstanceAs (Decidable (IsAlias data.alias))
  | .goodbye _ | .acknowledged _ | .greeting _ | .offer _ | .answer _ | .candidate _
  | .accepting _ | .alias _ | .shutdown _ | .connect _ | .accept _ => isTrue trivial

namespace ServerTask

/-- The texts that a suspended handler carries. -/
def WellFormed : ServerTask → Prop
  | .received operation _ => operation.WellFormed
  | .knockCreating data _ => IsSubnet data.subnet
  | .knockSearching data _ _ => IsSubnet data.subnet
  | .knockCreated _ id => id = "-1" ∨ IsAddress id
  | .knockAcknowledged _ id => IsAddress id
  | .bindClaiming data => IsAlias data.alias
  | .bindClaimed data => IsAlias data.alias
  | .shutdownPort data => IsAlias data.alias
  | .shutdownPortRemoved data => IsAlias data.alias
  | .shutdownAddress data => IsAlias data.alias
  | .shutdownAddressRemoved data => IsAlias data.alias
  | .connectCreating _ => True
  | .connectSearching _ _ => True
  | .connectCreated _ clientAlias => IsAlias clientAlias
  | .connectRejecting _ clientAlias _ => IsAlias clientAlias
  | .connectRejected _ clientAlias _ => IsAlias clientAlias
  | .connectClientNotified _ clientAlias _ => IsAlias clientAlias
  | .connectServerNotified _ clientAlias _ _ _ => IsAlias clientAlias
  | .connectServerAccepted _ _ _ => True
  | .goodbyeAddress id => IsAddress id
  | .goodbyeAddressRemoved id => IsAddress id
  | .releaseAddress _ tcpAddress => IsAlias tcpAddress
  | .releaseAddressRemoved _ tcpAddress => IsAlias tcpAddress
  | .releasePort _ tcpAddress => IsAlias tcpAddress
  | .releasePortRemoved _ tcpAddress => IsAlias tcpAddress

/-- A task that is inside a search holds the mutex. -/
def searching : ServerTask → Bool
  | .knockSearching .. | .connectSearching .. => true
  | _ => false

/-- What a search has found is free. -/
def Found (s : Subnets) : ServerTask → Prop
  | .knockSearching data _ newSuffix =>
    s.has data.subnet = true ∧ s.member ⟨data.subnet, newSuffix⟩ = none
  | .connectSearching data newPort =>
    (s.member (parseIPAddress data.id)).isSome = true ∧
      (newPort : Number) ∉ s.ports (parseIPAddress data.id)
  | _ => True

/-- A task that needs the mutex and is resumed is the only one with an access to
the registry. -/
theorem alone {s : Server} {t : ServerTask} {l : List ServerTask}
    (hmutex : (t :: l).countP searching = if s.subnetsMutex then 1 else 0)
    (hready : t.ready s = true) (hlock : t.waits = true ∨ t.searching = true) :
    l.countP searching = 0 := by
  rw [List.countP_cons] at hmutex
  rcases hlock with hw | hs
  · rw [ready, hw, Bool.not_true, Bool.false_or, Bool.not_eq_true'] at hready
    rw [hready, if_neg Bool.false_ne_true] at hmutex
    omega
  · rw [hs, if_pos rfl] at hmutex
    split_ifs at hmutex
    omega

theorem found_of_not_searching {t : ServerTask} (h : t.searching = false) (s : Subnets) :
    t.Found s := by
  cases t with
  | knockSearching => cases h
  | connectSearching => cases h
  | _ => trivial

end ServerTask

/-! ## The invariant -/

/-- What holds of the tables and the suspended handlers in every run. -/
structure Sane (s : Server) (l : List ServerTask) : Prop where
  mutex : l.countP ServerTask.searching = if s.subnetsMutex then 1 else 0
  subnets : s.subnets.WellFormed
  isAlias : ∀ {a entry}, s.aliases.get a = some entry → IsAlias a
  isAddress : ∀ {id client}, s.clients.get id = some client → IsAddress id
  listener : ∀ {client id}, (client, id) ∈ s.closeListeners → IsAddress id
  tasks : ∀ t ∈ l, t.WellFormed
  found : ∀ t ∈ l, t.Found s.subnets

namespace Sane

open ServerTask

variable {s s' : Server} {t : ServerTask} {l next : List ServerTask}

theorem init : Sane {} [] where
  mutex := rfl
  subnets := .empty
  isAlias h := by cases h
  isAddress h := by cases h
  listener h := by cases h
  tasks t h := by cases h
  found t h := by cases h

theorem perm {l' : List ServerTask} (hl : l.Perm l') (h : Sane s l) : Sane s l' where
  mutex := hl.countP_eq _ ▸ h.mutex
  subnets := h.subnets
  isAlias := h.isAlias
  isAddress := h.isAddress
  listener := h.listener
  tasks t ht := h.tasks t (hl.mem_iff.mpr ht)
  found t ht := h.found t (hl.mem_iff.mpr ht)

theorem alone (h : Sane s (t :: l)) (hready : t.ready s = true)
    (hlock : t.waits = true ∨ t.searching = true) : l.countP searching = 0 :=
  ServerTask.alone h.mutex hready hlock

/-- A step that leaves the registry alone. -/
theorem outside (h : Sane s (t :: l)) (ht : t.searching = false)
    (hsubnets : s'.subnets = s.subnets) (hmutex : s'.subnetsMutex = s.subnetsMutex)
    (isAlias : ∀ {a entry}, s'.aliases.get a = some entry → IsAlias a)
    (isAddress : ∀ {id client}, s'.clients.get id = some client → IsAddress id)
    (listener : ∀ {client id}, (client, id) ∈ s'.closeListeners → IsAddress id)
    (hnext : ∀ t ∈ next, t.searching = false ∧ t.WellFormed) : Sane s' (next ++ l) where
  mutex := by
    have hcount := h.mutex
    have hzero : next.countP searching = 0 :=
      List.countP_eq_zero.mpr fun t ht => by simp [(hnext t ht).1]
    rw [List.countP_cons, ht, if_neg Bool.false_ne_true, Nat.add_zero] at hcount
    rw [List.countP_append, hzero, Nat.zero_add, hmutex, hcount]
  subnets := hsubnets ▸ h.subnets
  isAlias := isAlias
  isAddress := isAddress
  listener := listener
  tasks t ht := by
    rcases List.mem_append.mp ht with ht | ht
    · exact (hnext t ht).2
    · exact h.tasks t (List.mem_cons_of_mem _ ht)
  found t ht := by
    rcases List.mem_append.mp ht with ht | ht
    · exact found_of_not_searching (hnext t ht).1 _
    · exact hsubnets ▸ h.found t (List.mem_cons_of_mem _ ht)

/-- A step that only sends messages. -/
theorem quiet (h : Sane s (t :: l)) (ht : t.searching = false)
    (outbox : List (Socket × Operation))
    (hnext : ∀ t ∈ next, t.searching = false ∧ t.WellFormed) :
    Sane { s with outbox := outbox } (next ++ l) :=
  h.outside ht rfl rfl h.isAlias h.isAddress h.listener hnext

/-- A step that only sends messages, with one task after it. -/
theorem pass (h : Sane s (t :: l)) (ht : t.searching = false)
    (outbox : List (Socket × Operation)) {t' : ServerTask} (ht' : t'.searching = false)
    (hwell : t'.WellFormed) : Sane { s with outbox := outbox } ([t'] ++ l) := by
  refine h.quiet ht outbox fun t hmem => ?_
  rw [List.mem_singleton.mp hmem]
  exact ⟨ht', hwell⟩

/-- A step that changes the registry and leaves the mutex up or down. -/
theorem inside (h : Sane s (t :: l)) (hready : t.ready s = true)
    (hlock : t.waits = true ∨ t.searching = true) {subnets : Subnets}
    (hsubnets : subnets.WellFormed) {mutex : Bool}
    (hcount : next.countP searching = if mutex then 1 else 0)
    (hnext : ∀ t ∈ next, t.WellFormed ∧ t.Found subnets) :
    Sane { s with subnets := subnets, subnetsMutex := mutex } (next ++ l) where
  mutex := by
    rw [List.countP_append, h.alone hready hlock, Nat.add_zero, hcount]
  subnets := hsubnets
  isAlias := h.isAlias
  isAddress := h.isAddress
  listener := h.listener
  tasks t ht := by
    rcases List.mem_append.mp ht with ht | ht
    · exact (hnext t ht).1
    · exact h.tasks t (List.mem_cons_of_mem _ ht)
  found t ht := by
    rcases List.mem_append.mp ht with ht | ht
    · exact (hnext t ht).2
    · have hnone := List.countP_eq_zero.mp (h.alone hready hlock) t ht
      exact found_of_not_searching (Bool.eq_false_of_not_eq_true hnone) _

/-- A critical section that is left again at once, with one task after it. -/
theorem locked (h : Sane s (t :: l)) (hready : t.ready s = true)
    (hlock : t.waits = true ∨ t.searching = true) {subnets : Subnets}
    (hsubnets : subnets.WellFormed) {t' : ServerTask} (ht' : t'.searching = false)
    (hwell : t'.WellFormed) : Sane (s.locked subnets) ([t'] ++ l) := by
  refine h.inside hready hlock hsubnets ?_ ?_
  · rw [List.countP_singleton, ht']
  · intro t ht
    rw [List.mem_singleton.mp ht]
    exact ⟨hwell, found_of_not_searching ht' _⟩

theorem message (h : Sane s l) {operation : Operation} (hop : operation.WellFormed)
    (client : Socket) : Sane s (.received operation client :: l) where
  mutex := h.mutex
  subnets := h.subnets
  isAlias := h.isAlias
  isAddress := h.isAddress
  listener := h.listener
  tasks t ht := by
    rcases List.mem_cons.mp ht with rfl | ht
    · exact hop
    · exact h.tasks t ht
  found t ht := by
    rcases List.mem_cons.mp ht with rfl | ht
    · trivial
    · exact h.found t ht

theorem close (h : Sane s l) (client : Socket) :
    Sane (s.closed client) ((s.closing client).map .goodbyeAddress ++ l) where
  mutex := by
    have hzero : ((s.closing client).map ServerTask.goodbyeAddress).countP searching = 0 :=
      List.countP_eq_zero.mpr fun t ht => by
        obtain ⟨id, -, rfl⟩ := List.mem_map.mp ht
        exact Bool.false_ne_true
    rw [List.countP_append, hzero, Nat.zero_add]
    exact h.mutex
  subnets := h.subnets
  isAlias := h.isAlias
  isAddress hid := h.isAddress (Map.get_filter_eq_some_iff.mp hid).1
  listener hid := h.listener (List.mem_of_mem_filter hid)
  tasks t ht := by
    rcases List.mem_append.mp ht with ht | ht
    · obtain ⟨id, hid, rfl⟩ := List.mem_map.mp ht
      obtain ⟨entry, hentry, rfl⟩ := List.mem_map.mp hid
      exact h.listener (List.mem_of_mem_filter hentry)
    · exact h.tasks t ht
  found t ht := by
    rcases List.mem_append.mp ht with ht | ht
    · obtain ⟨id, -, rfl⟩ := List.mem_map.mp ht
      trivial
    · exact h.found t ht

/-- The fresh alias of a connection is well formed. -/
private theorem isAlias_newPort {data : IConnectData} {newPort : Nat} (h : s.subnets.WellFormed)
    (hf : (ServerTask.connectSearching data newPort).Found s.subnets) :
    IsAlias (toTCPAddress (toIPAddress (parseIPAddress data.id).subnet
      (parseIPAddress data.id).suffix) newPort) := by
  obtain ⟨m, hm⟩ := Option.isSome_iff_exists.mp hf.1
  obtain ⟨n, hn⟩ := h.suffix hm
  rw [hn]
  exact ⟨_, n, newPort, h.isSubnet (Subnets.has_of_member hm), rfl⟩

theorem resume (h : Sane s (t :: l)) (hready : t.ready s = true)
    (hstep : Resumes s t s' next) : Sane s' (next ++ l) := by
  have ht : t.WellFormed := h.tasks t List.mem_cons_self
  have hfound : t.Found s.subnets := h.found t List.mem_cons_self
  have hnil : ∀ t ∈ ([] : List ServerTask), t.searching = false ∧ t.WellFormed :=
    fun t ht => absurd ht List.not_mem_nil
  cases hstep with
  | knock data client => exact h.pass rfl s.outbox rfl ht
  | bind data client => exact h.pass rfl s.outbox rfl ht
  | connect data client => exact h.pass rfl s.outbox rfl trivial
  | answered operation client outbox => exact h.quiet rfl outbox hnil
  | acknowledged client id hid outbox =>
    have haddress : IsAddress id := ht.resolve_left hid
    exact h.pass rfl outbox rfl haddress
  | overflow client outbox => exact h.quiet rfl outbox hnil
  | portRemoved data => exact h.pass rfl s.outbox rfl ht
  | addressRemoved data outbox => exact h.quiet rfl outbox hnil
  | reject data clientAlias => exact h.pass rfl s.outbox rfl ht
  | rejected data clientAlias client outbox => exact h.quiet rfl outbox hnil
  | lost data clientAlias client => exact h.quiet rfl s.outbox hnil
  | clientNotified data clientAlias client entry server _ _ outbox =>
    exact h.pass rfl outbox rfl ht
  | serverNotified data clientAlias client serverId server outbox =>
    exact h.pass rfl outbox rfl trivial
  | serverAccepted data client serverId outbox => exact h.quiet rfl outbox hnil
  | releasedAddress id tcpAddress => exact h.pass rfl s.outbox rfl ht
  | releasedPort id tcpAddress outbox => exact h.quiet rfl outbox hnil
  | accepting data client entry hentry howner =>
    refine h.outside rfl rfl rfl ?_ h.isAddress h.listener hnil
    intro a e hget
    rw [Map.get_set] at hget
    split_ifs at hget with ha
    · exact ha ▸ h.isAlias hentry
    · exact h.isAlias hget
  | shutdown data client entry hentry howner =>
    refine h.outside rfl rfl rfl ?_ h.isAddress h.listener ?_
    · intro a e hget
      rw [Map.get_delete] at hget
      split_ifs at hget
      exact h.isAlias hget
    · intro t' ht'
      rw [List.mem_singleton.mp ht']
      exact ⟨rfl, h.isAlias hentry⟩
  | register client id outbox =>
    refine h.outside rfl rfl rfl h.isAlias ?_ ?_ hnil
    · intro id' client' hget
      rw [Map.get_set] at hget
      split_ifs at hget with hid
      · exact hid ▸ ht
      · exact h.isAddress hget
    · intro client' id' hmem
      rcases List.mem_append.mp hmem with hmem | hmem
      · exact h.listener hmem
      · cases List.mem_singleton.mp hmem
        exact ht
  | bound data outbox =>
    refine h.outside rfl rfl rfl ?_ h.isAddress h.listener hnil
    intro a e hget
    rw [Map.get_set] at hget
    split_ifs at hget with ha
    · exact ha ▸ ht
    · exact h.isAlias hget
  | accepted data clientAlias client hremote hclient outbox =>
    refine h.outside rfl rfl rfl ?_ h.isAddress h.listener ?_
    · intro a e hget
      rw [Map.get_set] at hget
      split_ifs at hget with ha
      · exact ha ▸ ht
      · exact h.isAlias hget
    · intro t' ht'
      rw [List.mem_singleton.mp ht']
      exact ⟨rfl, ht⟩
  | orphaned data clientAlias hremote hclient =>
    refine h.outside rfl rfl rfl ?_ h.isAddress h.listener hnil
    intro a e hget
    rw [Map.get_set] at hget
    split_ifs at hget with ha
    · exact ha ▸ ht
    · exact h.isAlias hget
  | swept id outbox =>
    refine h.outside rfl rfl rfl ?_ h.isAddress h.listener ?_
    · intro a e hget
      exact h.isAlias (Map.get_filter_eq_some_iff.mp hget).1
    · intro t' ht'
      obtain ⟨a, ha, rfl⟩ := List.mem_map.mp ht'
      obtain ⟨entry, hentry, rfl⟩ := List.mem_map.mp ha
      exact ⟨rfl, h.isAlias (Map.mem_entries_iff.mp (List.mem_of_mem_filter hentry))⟩
  | searchSuffix data client =>
    have hnew : (s.subnets.ensure data.subnet).WellFormed := h.subnets.ensure ht
    refine h.inside hready (.inl rfl) hnew rfl ?_
    intro t' ht'
    rw [List.mem_singleton.mp ht']
    exact ⟨ht, Subnets.has_ensure _, hnew.member_nextSuffix _⟩
  | fullSubnet data client newSuffix hfull =>
    exact h.locked hready (.inr rfl) h.subnets rfl (.inl rfl)
  | newMember data client newSuffix hfree =>
    refine h.locked hready (.inr rfl) ?_ rfl (.inr ⟨_, _, ht, rfl⟩)
    exact h.subnets.setMember hfound.1 ⟨_, rfl⟩ (fun x hx => absurd hx List.not_mem_nil)
      List.nodup_nil
  | claimed data subnets hclaim =>
    exact h.locked hready (.inl rfl) (h.subnets.claim ht hclaim) rfl ht
  | unclaimed data =>
    exact h.inside hready (.inl rfl) h.subnets rfl fun t' ht' => absurd ht' List.not_mem_nil
  | shutdownPort data =>
    exact h.locked hready (.inl rfl) (h.subnets.removeTCPAddress _) rfl ht
  | shutdownAddress data =>
    exact h.locked hready (.inl rfl) (h.subnets.removeIPAddress _) rfl ht
  | searchPort data m hm =>
    have hnew := h.subnets.sortPorts hm
    refine h.inside hready (.inl rfl) hnew rfl ?_
    intro t' ht'
    rw [List.mem_singleton.mp ht']
    refine ⟨trivial, ?_, hnew.nextPort_not_mem _⟩
    rw [Subnets.member_sortPorts hm, if_pos rfl]
    rfl
  | noMember data =>
    exact h.inside hready (.inl rfl) h.subnets rfl fun t' ht' => absurd ht' List.not_mem_nil
  | newPort data newPort =>
    obtain ⟨m, hm⟩ := Option.isSome_iff_exists.mp hfound.1
    refine h.locked hready (.inr rfl) ?_ rfl (isAlias_newPort h.subnets hfound)
    exact h.subnets.pushPort (Subnets.has_of_member hm) (h.subnets.suffix hm) hfound.2
  | rejecting data clientAlias client =>
    exact h.locked hready (.inl rfl) (h.subnets.removeTCPAddress _) rfl ht
  | goodbyeAddress id =>
    exact h.locked hready (.inl rfl) (h.subnets.removeIPAddress _) rfl ht
  | releaseAddress id tcpAddress =>
    exact h.locked hready (.inl rfl) (h.subnets.removeIPAddress _) rfl ht
  | releasePort id tcpAddress =>
    exact h.locked hready (.inl rfl) (h.subnets.removeTCPAddress _) rfl ht

end Sane

/-- The messages of a step are well formed. -/
def ServerStep.WellFormed : ServerStep → Prop
  | .message operation _ => operation.WellFormed
  | _ => True

instance : DecidablePred ServerStep.WellFormed
  | .message operation _ => inferInstanceAs (Decidable operation.WellFormed)
  | .close _ | .resume _ => isTrue trivial

/-- Every message of the run is well formed. -/
def ServerRun.WellFormed (steps : List (ServerPool × ServerStep)) : Prop :=
  ∀ x ∈ steps, x.2.WellFormed

instance (steps : List (ServerPool × ServerStep)) : Decidable (ServerRun.WellFormed steps) :=
  inferInstanceAs (Decidable (∀ x ∈ steps, x.2.WellFormed))

theorem ServerRun.sane {steps : List (ServerPool × ServerStep)} {p : ServerPool}
    (hrun : ServerRun steps p) (hwell : ServerRun.WellFormed steps) :
    Sane p.state p.tasks := by
  refine hrun.invariant hwell (fun s l l' hl h => h.perm hl) .init ?_ ?_ ?_
  · intro s l operation client h hop
    exact h.message hop client
  · intro s l client h _
    exact h.close client
  · intro s l t rest s' next _ h hready _ hstep
    exact h.resume hready hstep

end Unisockets.Signaling
