import Unisockets.Signaling.WellFormed

/-!
# Client ids are unique

`createIPAddress` gives out a suffix that has no member.  An id is fresh as
long as the member of every connected client, and of every id that was given
out and is not registered yet, is in the registry.  `removeIPAddress` can break
this: a Shutdown and a disconnect call it with the aliases they drop, and the
address in front of an alias may be the address of a client.

`SparesClients` says that a step does not remove the address of a client.  In
every run whose steps all spare the clients, ids are unique
(`clientIds_unique`).  `clientIds_collide` is a run with one Shutdown that does
not.
-/

namespace Unisockets.Signaling

open JsStd

namespace ServerTask

/-- The text that a task passes to `removeIPAddress`. -/
def removedAddress : ServerTask → Option String
  | .shutdownAddress data => some data.alias
  | .goodbyeAddress id => some id
  | .releaseAddress _ tcpAddress => some tcpAddress
  | _ => none

/-- The id that a Knock has been given and that is not registered yet. -/
def newId : ServerTask → Option String
  | .knockCreated _ id => if id = "-1" then none else some id
  | .knockAcknowledged _ id => some id
  | _ => none

end ServerTask

/-- The ids of the connected clients and those on their way to `clients`. -/
def ServerPool.ids (p : ServerPool) : List String :=
  p.state.clients.keys ++ p.tasks.filterMap ServerTask.newId

/-- A step does not remove the address of a client. -/
def ServerStep.SparesClients (p : ServerPool) : ServerStep → Prop
  | .resume t => ∀ a ∈ t.removedAddress, ∀ id ∈ p.ids, parseIPAddress id ≠ parseIPAddress a
  | _ => True

instance (p : ServerPool) : DecidablePred (ServerStep.SparesClients p)
  | .resume t => inferInstanceAs (Decidable (∀ a ∈ t.removedAddress, ∀ id ∈ p.ids,
      parseIPAddress id ≠ parseIPAddress a))
  | .message _ _ | .close _ => isTrue trivial

/-! ## Unique ids -/

/-- The ids that a run gives out are not in use, and no two sockets hold the
same id. -/
structure ServerRun.UniqueIds (steps : List (ServerPool × ServerStep)) (p : ServerPool) :
    Prop where
  acknowledged : ∀ x ∈ steps, ∀ client id, x.2 = .resume (.knockCreated client id) →
    id ≠ "-1" → x.1.state.clients.has id = false
  registered : ∀ x ∈ steps, ∀ client id, x.2 = .resume (.knockAcknowledged client id) →
    x.1.state.clients.has id = false
  distinct : ∀ client client' id, (client, id) ∈ p.state.closeListeners →
    (client', id) ∈ p.state.closeListeners → client = client'

/-! ## The invariant -/

/-- Every id in use has its member, no id is given out twice, and a socket that
says goodbye to an id holds it. -/
structure DistinctIds (s : Server) (l : List ServerTask) : Prop where
  member : ∀ {id client}, s.clients.get id = some client →
    (s.subnets.member (parseIPAddress id)).isSome = true
  newMember : ∀ id ∈ l.filterMap ServerTask.newId,
    (s.subnets.member (parseIPAddress id)).isSome = true
  fresh : ∀ id ∈ l.filterMap ServerTask.newId, s.clients.get id = none
  nodup : (l.filterMap ServerTask.newId).Nodup
  listener : ∀ {client id}, (client, id) ∈ s.closeListeners → s.clients.get id = some client

namespace DistinctIds

open ServerTask

variable {s s' : Server} {t : ServerTask} {l next : List ServerTask}

theorem init : DistinctIds {} [] where
  member h := by cases h
  newMember id h := by cases h
  fresh id h := by cases h
  nodup := List.nodup_nil
  listener h := by cases h

theorem perm {l' : List ServerTask} (hl : l.Perm l') (h : DistinctIds s l) :
    DistinctIds s l' where
  member := h.member
  newMember id hid := h.newMember id ((hl.filterMap _).mem_iff.mpr hid)
  fresh id hid := h.fresh id ((hl.filterMap _).mem_iff.mpr hid)
  nodup := (hl.filterMap _).nodup_iff.mp h.nodup
  listener := h.listener

/-- A step that keeps the clients, the ids on their way and their members. -/
theorem keep (h : DistinctIds s (t :: l)) (hclients : s'.clients = s.clients)
    (hlisteners : s'.closeListeners = s.closeListeners)
    (hids : next.filterMap newId = [t].filterMap newId)
    (hmember : ∀ id, (∃ client, s.clients.get id = some client) ∨
        id ∈ (t :: l).filterMap newId →
      (s.subnets.member (parseIPAddress id)).isSome = true →
      (s'.subnets.member (parseIPAddress id)).isSome = true) :
    DistinctIds s' (next ++ l) := by
  have hlist : (next ++ l).filterMap newId = (t :: l).filterMap newId := by
    rw [List.filterMap_append, hids, ← List.filterMap_append]
    rfl
  constructor
  · intro id client hid
    rw [hclients] at hid
    exact hmember id (.inl ⟨client, hid⟩) (h.member hid)
  · intro id hid
    rw [hlist] at hid
    exact hmember id (.inr hid) (h.newMember id hid)
  · intro id hid
    rw [hlist] at hid
    rw [hclients]
    exact h.fresh id hid
  · rw [hlist]
    exact h.nodup
  · intro client id hmem
    rw [hlisteners] at hmem
    rw [hclients]
    exact h.listener hmem

/-- A step that leaves the registry alone. -/
theorem outside (h : DistinctIds s (t :: l)) (hclients : s'.clients = s.clients)
    (hlisteners : s'.closeListeners = s.closeListeners) (hsubnets : s'.subnets = s.subnets)
    (hids : next.filterMap newId = [t].filterMap newId) : DistinctIds s' (next ++ l) :=
  h.keep hclients hlisteners hids fun _ _ hm => hsubnets ▸ hm

/-- A critical section that drops no member. -/
theorem inside (h : DistinctIds s (t :: l)) {subnets : Subnets} {mutex : Bool}
    (hids : next.filterMap newId = [t].filterMap newId)
    (hmember : ∀ key, (s.subnets.member key).isSome = true →
      (subnets.member key).isSome = true) :
    DistinctIds { s with subnets := subnets, subnetsMutex := mutex } (next ++ l) :=
  h.keep rfl rfl hids fun _ _ hm => hmember _ hm

/-- A critical section that drops a member which no client has. -/
theorem removeIPAddress {l' : List ServerTask} (h : DistinctIds s (t :: l)) {a : String}
    (ha : t.removedAddress = some a)
    (hspares : (ServerStep.resume t).SparesClients ⟨s, l'⟩) (hl : l'.Perm (t :: l))
    (hids : next.filterMap newId = [t].filterMap newId) :
    DistinctIds (s.locked (s.subnets.removeIPAddress a)) (next ++ l) := by
  refine h.keep rfl rfl hids fun id hid hm => ?_
  refine Subnets.isSome_member_removeIPAddress.mpr ⟨hm, hspares a ha id ?_⟩
  rcases hid with ⟨client, hclient⟩ | hid
  · exact List.mem_append_left _ (Map.mem_keys_iff.mpr ⟨client, hclient⟩)
  · exact List.mem_append_right _ ((hl.filterMap _).mem_iff.mpr hid)

theorem close (h : DistinctIds s l) (client : Socket) :
    DistinctIds (s.closed client) ((s.closing client).map .goodbyeAddress ++ l) := by
  have hnone : ((s.closing client).map goodbyeAddress).filterMap newId = [] := by
    rw [List.filterMap_eq_nil_iff]
    intro t ht
    obtain ⟨id, -, rfl⟩ := List.mem_map.mp ht
    rfl
  have hlist : ((s.closing client).map goodbyeAddress ++ l).filterMap newId
      = l.filterMap newId := by
    rw [List.filterMap_append, hnone, List.nil_append]
  constructor
  · intro id socket hid
    exact h.member (Map.get_filter_eq_some_iff.mp hid).1
  · rw [hlist]
    exact h.newMember
  · intro id hid
    rw [hlist] at hid
    rw [← Option.not_isSome_iff_eq_none, Option.isSome_iff_exists]
    rintro ⟨socket, hsocket⟩
    have hget := (Map.get_filter_eq_some_iff.mp hsocket).1
    rw [h.fresh id hid] at hget
    cases hget
  · rw [hlist]
    exact h.nodup
  · intro socket id hmem
    obtain ⟨hmem, hne⟩ := List.mem_filter.mp hmem
    have hget := h.listener hmem
    refine Map.get_filter_eq_some_iff.mpr ⟨hget, decide_eq_true fun hid => ?_⟩
    -- an id of the closing socket is the id of no other socket
    obtain ⟨⟨socket', id'⟩, hentry, rfl⟩ := List.mem_map.mp hid
    obtain ⟨hentry, hsocket⟩ := List.mem_filter.mp hentry
    have hget' := h.listener hentry
    rw [hget] at hget'
    cases hget'
    exact of_decide_eq_true hne (of_decide_eq_true hsocket)

/-- An id on its way reaches the table of the clients. -/
theorem register {client : Socket} {id : String}
    (h : DistinctIds s (knockAcknowledged client id :: l))
    (outbox : List (Socket × Operation)) :
    DistinctIds { s with
      clients := s.clients.set id client
      closeListeners := s.closeListeners ++ [(client, id)]
      outbox := outbox } l := by
  have hlist : (knockAcknowledged client id :: l).filterMap newId
      = id :: l.filterMap newId := rfl
  have hid : id ∈ (knockAcknowledged client id :: l).filterMap newId := by
    rw [hlist]
    exact List.mem_cons_self
  have hmem : ∀ id' ∈ l.filterMap newId,
      id' ∈ (knockAcknowledged client id :: l).filterMap newId := by
    intro id' hid'
    rw [hlist]
    exact List.mem_cons_of_mem _ hid'
  have hfresh := h.fresh id hid
  have hnodup := h.nodup
  rw [hlist, List.nodup_cons] at hnodup
  constructor
  · intro id' client' hget
    rw [Map.get_set] at hget
    split_ifs at hget with he
    · rw [he]
      exact h.newMember id hid
    · exact h.member hget
  · exact fun id' hid' => h.newMember id' (hmem id' hid')
  · intro id' hid'
    have hne : id' ≠ id := fun he => hnodup.1 (he ▸ hid')
    rw [Map.get_set_of_ne _ _ hne]
    exact h.fresh id' (hmem id' hid')
  · exact hnodup.2
  · intro client' id' hlistener
    rcases List.mem_append.mp hlistener with hlistener | hlistener
    · have hget := h.listener hlistener
      have hne : id' ≠ id := by
        rintro rfl
        rw [hfresh] at hget
        cases hget
      rw [Map.get_set_of_ne _ _ hne]
      exact hget
    · cases List.mem_singleton.mp hlistener
      exact Map.get_set_self _ _ _

/-- A search has found an address without a member, so that no id has it. -/
theorem allocate {data : IKnockData} {client : Socket} {newSuffix : Nat}
    (h : DistinctIds s (knockSearching data client newSuffix :: l))
    (hsubnet : IsSubnet data.subnet)
    (hfound : (knockSearching data client newSuffix).Found s.subnets) :
    DistinctIds (s.locked (s.subnets.setMember ⟨data.subnet, newSuffix⟩ ⟨[]⟩))
      ([knockCreated client (toIPAddress data.subnet newSuffix)] ++ l) := by
  have haddress : IsAddress (toIPAddress data.subnet newSuffix) := ⟨_, _, hsubnet, rfl⟩
  have hparse := parseIPAddress_toIPAddress hsubnet newSuffix
  have hnone : s.subnets.member (parseIPAddress (toIPAddress data.subnet newSuffix)) = none := by
    rw [hparse]
    exact hfound.2
  have hid : (knockCreated client (toIPAddress data.subnet newSuffix)).newId
      = some (toIPAddress data.subnet newSuffix) := if_neg haddress.ne_overflow
  have hlist : ([knockCreated client (toIPAddress data.subnet newSuffix)] ++ l).filterMap newId
      = toIPAddress data.subnet newSuffix :: l.filterMap newId := by
    rw [List.singleton_append, List.filterMap_cons_some hid]
  have hmember : ∀ key, (s.subnets.member key).isSome = true →
      ((s.subnets.setMember ⟨data.subnet, newSuffix⟩ ⟨[]⟩).member key).isSome = true :=
    fun key hm => (Subnets.isSome_member_setMember hfound.1).mpr (.inl hm)
  constructor
  · exact fun hget => hmember _ (h.member hget)
  · intro id hid
    rw [hlist] at hid
    rcases List.mem_cons.mp hid with rfl | hid
    · exact (Subnets.isSome_member_setMember hfound.1).mpr (.inr hparse)
    · exact hmember _ (h.newMember id hid)
  · intro id hid
    rw [hlist] at hid
    rcases List.mem_cons.mp hid with rfl | hid
    · show s.clients.get _ = none
      rw [← Option.not_isSome_iff_eq_none, Option.isSome_iff_exists]
      rintro ⟨client', hget⟩
      have hsome := h.member hget
      rw [hnone] at hsome
      cases hsome
    · exact h.fresh id hid
  · rw [hlist, List.nodup_cons]
    refine ⟨fun hmem => ?_, h.nodup⟩
    have hsome := h.newMember _ hmem
    rw [hnone] at hsome
    cases hsome
  · exact h.listener

theorem resume {l' : List ServerTask} (h : DistinctIds s (t :: l)) (hsane : Sane s (t :: l))
    (hl : l'.Perm (t :: l)) (hspares : (ServerStep.resume t).SparesClients ⟨s, l'⟩)
    (hstep : Resumes s t s' next) : DistinctIds s' (next ++ l) := by
  have hwell : t.WellFormed := hsane.tasks t List.mem_cons_self
  have hfound : t.Found s.subnets := hsane.found t List.mem_cons_self
  cases hstep with
  | knock data client => exact h.outside rfl rfl rfl rfl
  | bind data client => exact h.outside rfl rfl rfl rfl
  | connect data client => exact h.outside rfl rfl rfl rfl
  | answered operation client outbox => exact h.outside rfl rfl rfl rfl
  | acknowledged client id hid outbox =>
    refine h.outside rfl rfl rfl ?_
    simp [newId, hid]
  | overflow client outbox => exact h.outside rfl rfl rfl rfl
  | portRemoved data => exact h.outside rfl rfl rfl rfl
  | addressRemoved data outbox => exact h.outside rfl rfl rfl rfl
  | reject data clientAlias => exact h.outside rfl rfl rfl rfl
  | rejected data clientAlias client outbox => exact h.outside rfl rfl rfl rfl
  | lost data clientAlias client => exact h.outside rfl rfl rfl rfl
  | clientNotified data clientAlias client entry server _ _ outbox =>
    exact h.outside rfl rfl rfl rfl
  | serverNotified data clientAlias client serverId server outbox =>
    exact h.outside rfl rfl rfl rfl
  | serverAccepted data client serverId outbox => exact h.outside rfl rfl rfl rfl
  | releasedAddress id tcpAddress => exact h.outside rfl rfl rfl rfl
  | releasedPort id tcpAddress outbox => exact h.outside rfl rfl rfl rfl
  | accepting data client entry hentry howner => exact h.outside rfl rfl rfl rfl
  | shutdown data client entry hentry howner => exact h.outside rfl rfl rfl rfl
  | bound data outbox => exact h.outside rfl rfl rfl rfl
  | accepted data clientAlias client hremote hclient outbox => exact h.outside rfl rfl rfl rfl
  | orphaned data clientAlias hremote hclient => exact h.outside rfl rfl rfl rfl
  | swept id outbox =>
    refine h.outside rfl rfl rfl ?_
    rw [show [goodbyeAddressRemoved id].filterMap newId = [] from rfl,
      List.filterMap_eq_nil_iff]
    intro t ht
    obtain ⟨a, -, rfl⟩ := List.mem_map.mp ht
    rfl
  | searchSuffix data client =>
    refine h.inside rfl fun key hm => ?_
    rw [Subnets.member_ensure]
    exact hm
  | fullSubnet data client newSuffix hfull => exact h.inside rfl fun key hm => hm
  | claimed data subnets hclaim =>
    obtain ⟨hsub, -, rfl⟩ := Subnets.claim_eq_ok hclaim
    exact h.inside rfl fun key hm => (Subnets.isSome_member_setMember hsub).mpr (.inl hm)
  | unclaimed data => exact h.inside rfl fun key hm => hm
  | shutdownPort data =>
    refine h.inside rfl fun key hm => ?_
    rw [Subnets.isSome_member_removeTCPAddress]
    exact hm
  | shutdownAddress data => exact h.removeIPAddress rfl hspares hl rfl
  | searchPort data m hm =>
    have hsub := Subnets.has_of_member hm
    exact h.inside rfl fun key hm => (Subnets.isSome_member_setMember hsub).mpr (.inl hm)
  | noMember data => exact h.inside rfl fun key hm => hm
  | newPort data newPort =>
    obtain ⟨m, hm⟩ := Option.isSome_iff_exists.mp hfound.1
    have hsub := Subnets.has_of_member hm
    exact h.inside rfl fun key hm => (Subnets.isSome_member_setMember hsub).mpr (.inl hm)
  | rejecting data clientAlias client =>
    refine h.inside rfl fun key hm => ?_
    rw [Subnets.isSome_member_removeTCPAddress]
    exact hm
  | goodbyeAddress id => exact h.removeIPAddress rfl hspares hl rfl
  | releaseAddress id tcpAddress => exact h.removeIPAddress rfl hspares hl rfl
  | releasePort id tcpAddress =>
    refine h.inside rfl fun key hm => ?_
    rw [Subnets.isSome_member_removeTCPAddress]
    exact hm
  | register client id outbox => exact h.register outbox
  | newMember data client newSuffix hfree => exact h.allocate hwell hfound

end DistinctIds

theorem ServerRun.distinctIds {steps : List (ServerPool × ServerStep)} {p : ServerPool}
    (hrun : ServerRun steps p) (hwell : ServerRun.WellFormed steps)
    (hspares : ∀ x ∈ steps, x.2.SparesClients x.1) : DistinctIds p.state p.tasks := by
  have hboth : Sane p.state p.tasks ∧ DistinctIds p.state p.tasks := by
    refine hrun.invariant (I := fun s l => Sane s l ∧ DistinctIds s l)
      (fun x hx => And.intro (hwell x hx) (hspares x hx)) ?_ ⟨.init, .init⟩ ?_ ?_ ?_
    · exact fun s l l' hl h => ⟨h.1.perm hl, h.2.perm hl⟩
    · intro s l operation client h ha
      exact ⟨h.1.message ha.1 client, ⟨h.2.member, h.2.newMember, h.2.fresh, h.2.nodup,
        h.2.listener⟩⟩
    · exact fun s l client h _ => ⟨h.1.close client, h.2.close client⟩
    · intro s l t rest s' next hl h hready ha hstep
      exact ⟨h.1.resume hready hstep, h.2.resume h.1 hl ha.2 hstep⟩
  exact hboth.2

/-- Ids are unique in every run that never removes the address of a client. -/
theorem clientIds_unique {steps : List (ServerPool × ServerStep)} {p : ServerPool}
    (hrun : ServerRun steps p) (hwell : ServerRun.WellFormed steps)
    (hspares : ∀ x ∈ steps, x.2.SparesClients x.1) : ServerRun.UniqueIds steps p := by
  have hfresh : ∀ x ∈ steps, ∀ t id, x.2 = .resume t → t.newId = some id →
      x.1.state.clients.has id = false := by
    intro x hx t id ht hid
    obtain ⟨before, hsub, hbefore, htask⟩ := hrun.of_mem hx
    have h := hbefore.distinctIds (fun y hy => hwell y (hsub hy))
      fun y hy => hspares y (hsub hy)
    exact Map.has_eq_false_iff.mpr
      (h.fresh id (List.mem_filterMap.mpr ⟨t, htask t ht, hid⟩))
  constructor
  · intro x hx client id ht hid
    exact hfresh x hx _ id ht (if_neg hid)
  · intro x hx client id ht
    exact hfresh x hx _ id ht rfl
  · intro client client' id hmem hmem'
    have h := hrun.distinctIds hwell hspares
    have hget := h.listener hmem
    rw [h.listener hmem'] at hget
    exact (Option.some.inj hget).symm

/-- A Shutdown that spares the clients: the alias is not at the address of one. -/
def sparingEvents : List ServerEvent :=
  ServerRun.handling (.knock ⟨"127.0.0", ""⟩) 0 5 ++
  ServerRun.handling (.bind ⟨"127.0.0.0", "127.0.0.7:80"⟩) 0 3 ++
  ServerRun.handling (.shutdown ⟨"127.0.0.0", "127.0.0.7:80"⟩) 0 5 ++
  ServerRun.handling (.knock ⟨"127.0.0", ""⟩) 1 5 ++
  ServerRun.closing 0 2 ++
  ServerRun.handling (.knock ⟨"127.0.0", ""⟩) 2 5

theorem clientIds_unique_run : ∃ steps p, ServerRun steps p ∧
    p.state.closeListeners = [(1, "127.0.0.1"), (2, "127.0.0.0")] ∧
    ServerRun.UniqueIds steps p := by
  obtain ⟨steps, p, hrun, hwell, hspares, hlisteners⟩ := ServerRun.exists_along
    (P := fun steps p => ServerRun.WellFormed steps ∧ (∀ x ∈ steps, x.2.SparesClients x.1) ∧
      p.state.closeListeners = [(1, "127.0.0.1"), (2, "127.0.0.0")])
    sparingEvents (by decide +kernel)
  exact ⟨steps, p, hrun, hlisteners, clientIds_unique hrun hwell hspares⟩

/-! ## The defect -/

/-- A client binds an alias at its own address and shuts it down; then another
client knocks. -/
def collidingEvents : List ServerEvent :=
  ServerRun.handling (.knock ⟨"127.0.0", ""⟩) 0 5 ++
  ServerRun.handling (.bind ⟨"127.0.0.0", "127.0.0.0:80"⟩) 0 3 ++
  ServerRun.handling (.shutdown ⟨"127.0.0.0", "127.0.0.0:80"⟩) 0 5 ++
  ServerRun.handling (.knock ⟨"127.0.0", ""⟩) 1 5

/-- Ids are not unique in every run: the Shutdown drops the member of the first
client, and its id is acknowledged to the second one. -/
theorem clientIds_collide : ¬∀ steps p, ServerRun steps p → ServerRun.WellFormed steps →
    ServerRun.OwnIds steps → ServerRun.Sequential steps → ServerRun.UniqueIds steps p := by
  intro h
  obtain ⟨steps, p, hrun, hwell, hown, hseq, hfirst, hsecond⟩ := ServerRun.exists_along
    (P := fun steps p => ServerRun.WellFormed steps ∧ ServerRun.OwnIds steps ∧
      ServerRun.Sequential steps ∧ (0, "127.0.0.0") ∈ p.state.closeListeners ∧
      (1, "127.0.0.0") ∈ p.state.closeListeners) collidingEvents (by decide +kernel)
  have hunique := (h steps p hrun hwell hown hseq).distinct _ _ _ hfirst hsecond
  cases hunique

end Unisockets.Signaling
