import Unisockets.Signaling.AliasExclusive
import Unisockets.Signaling.Network
import Unisockets.Signaling.NoLeak
import Unisockets.Signaling.Settle

/-!
# The owners of the aliases

An alias should belong to a connected client, so that it is free again when its
client has gone.  The sweep of a close listener sees to that for the aliases
that are there; neither `handleBind` nor `handleConnect` asks whether the id it
registers an alias for belongs to anybody.

`Network.Holds` says that it does: an open socket, a Knock that is still being
handled, or a close listener that has not swept yet.  In every run that
registers aliases only for such ids, every alias belongs to a connected client
whenever no handler is suspended, and every other alias can be bound
(`aliases_owned`).  `aliases_orphaned` is a run in which a client that has
reconnected binds under its old id.
-/

namespace Unisockets.Signaling

open JsStd Transition

/-- Somebody holds an id, or is about to be given it or to lose its aliases. -/
def Server.Holds (s : Server) (closed : List Socket) (l : List ServerTask) (id : String) : Prop :=
  (∃ socket ∈ s.clients.get id, socket ∉ closed) ∨
    id ∈ l.filterMap ServerTask.leavingId ∨ id ∈ l.filterMap ServerTask.newId

instance (s : Server) (closed : List Socket) (l : List ServerTask) (id : String) :
    Decidable (s.Holds closed l id) :=
  inferInstanceAs (Decidable (_ ∨ _ ∨ _))

theorem Server.Holds.perm {s : Server} {closed : List Socket} {l l' : List ServerTask} {id : String}
    (hl : l.Perm l') (h : s.Holds closed l id) : s.Holds closed l' id := by
  rcases h with hid | hid | hid
  · exact .inl hid
  · exact .inr (.inl ((hl.filterMap _).mem_iff.mp hid))
  · exact .inr (.inr ((hl.filterMap _).mem_iff.mp hid))

/-- What a resumed task may do to the owners of the aliases. -/
def ServerTask.KeepsOwners (s : Server) (closed : List Socket) (l : List ServerTask) :
    ServerTask → Prop
  | .bindClaimed data => s.Holds closed l data.id
  | .connectCreated data _ =>
    (s.aliases.get data.remoteAlias).any MAlias.accepting = true → s.Holds closed l data.id
  | .knockAcknowledged client id =>
    client ∈ closed → ∀ entry ∈ s.aliases.entries, entry.2.id ≠ id
  | _ => True

instance (s : Server) (closed : List Socket) (l : List ServerTask) :
    DecidablePred (ServerTask.KeepsOwners s closed l)
  | .bindClaimed data => inferInstanceAs (Decidable (s.Holds closed l data.id))
  | .connectCreated data _ => inferInstanceAs (Decidable
      ((s.aliases.get data.remoteAlias).any MAlias.accepting = true → s.Holds closed l data.id))
  | .knockAcknowledged client id => inferInstanceAs (Decidable
      (client ∈ closed → ∀ entry ∈ s.aliases.entries, entry.2.id ≠ id))
  | .received .. | .knockCreating .. | .knockSearching .. | .knockCreated .. | .bindClaiming _
  | .shutdownPort _ | .shutdownPortRemoved _ | .shutdownAddress _ | .shutdownAddressRemoved _
  | .connectCreating _ | .connectSearching .. | .connectRejecting .. | .connectRejected ..
  | .connectClientNotified .. | .connectServerNotified .. | .connectServerAccepted ..
  | .goodbyeAddress _ | .goodbyeAddressRemoved _ | .releaseAddress .. | .releaseAddressRemoved ..
  | .releasePort .. | .releasePortRemoved .. => isTrue trivial

theorem ServerTask.KeepsOwners.perm {s : Server} {closed : List Socket} {l l' : List ServerTask}
    {t : ServerTask} (h : t.KeepsOwners s closed l) (hl : l.Perm l') :
    t.KeepsOwners s closed l' := by
  cases t with
  | bindClaimed data => exact Server.Holds.perm hl h
  | connectCreated data clientAlias => exact fun hremote => (h hremote).perm hl
  | knockAcknowledged client id => exact h
  | _ => trivial

/-- Every alias belongs to somebody. -/
def Server.Owned (s : Server) (closed : List Socket) (l : List ServerTask) : Prop :=
  ∀ a entry, s.aliases.get a = some entry → s.Holds closed l entry.id

namespace Server

open ServerTask

variable {s s' : Server} {t : ServerTask} {closed : List Socket} {l next : List ServerTask}
  {id : String}

/-- What a task stands for is passed on to the tasks it leaves behind. -/
private theorem mem_filterMap_next {f : ServerTask → Option String}
    (hf : ∀ id ∈ f t, id ∈ next.filterMap f) (h : id ∈ (t :: l).filterMap f) :
    id ∈ (next ++ l).filterMap f := by
  rw [List.filterMap_append]
  obtain ⟨t', ht', hid⟩ := List.mem_filterMap.mp h
  rcases List.mem_cons.mp ht' with rfl | ht'
  · exact List.mem_append_left _ (hf id hid)
  · exact List.mem_append_right _ (List.mem_filterMap.mpr ⟨t', ht', hid⟩)

/-- A step that keeps the clients and the tasks that stand for an id. -/
theorem Holds.keep (h : s.Holds closed (t :: l) id) (hclients : s'.clients = s.clients)
    (hleaving : ∀ id ∈ t.leavingId, id ∈ next.filterMap leavingId)
    (hnew : ∀ id ∈ t.newId, id ∈ next.filterMap newId) : s'.Holds closed (next ++ l) id := by
  rcases h with hclient | hid | hid
  · exact .inl (hclients ▸ hclient)
  · exact .inr (.inl (mem_filterMap_next hleaving hid))
  · exact .inr (.inr (mem_filterMap_next hnew hid))

theorem Owned.perm {l' : List ServerTask} (hl : l.Perm l') (h : s.Owned closed l) :
    s.Owned closed l' :=
  fun a entry hget => (h a entry hget).perm hl

/-- A step that keeps the owners. -/
theorem Owned.keep (h : s.Owned closed (t :: l)) (hclients : s'.clients = s.clients)
    (haliases : ∀ a entry, s'.aliases.get a = some entry →
      ∃ a' entry', s.aliases.get a' = some entry' ∧ entry'.id = entry.id)
    (hleaving : ∀ id ∈ t.leavingId, id ∈ next.filterMap leavingId)
    (hnew : ∀ id ∈ t.newId, id ∈ next.filterMap newId) : s'.Owned closed (next ++ l) := by
  intro a entry hget
  obtain ⟨a', entry', hget', howner⟩ := haliases a entry hget
  rw [← howner]
  exact (h a' entry' hget').keep hclients hleaving hnew

/-- A step that leaves the aliases alone. -/
theorem Owned.outside (h : s.Owned closed (t :: l)) (hclients : s'.clients = s.clients)
    (haliases : s'.aliases = s.aliases)
    (hleaving : ∀ id ∈ t.leavingId, id ∈ next.filterMap leavingId)
    (hnew : ∀ id ∈ t.newId, id ∈ next.filterMap newId) : s'.Owned closed (next ++ l) :=
  h.keep hclients (fun a entry hget => ⟨a, entry, haliases ▸ hget, rfl⟩) hleaving hnew

/-- An alias is registered for an id that somebody holds. -/
theorem Owned.register (h : s.Owned closed (t :: l)) (hid : s.Holds closed (t :: l) id)
    (a : String) (outbox : List (Socket × Operation))
    (hleaving : ∀ id ∈ t.leavingId, id ∈ next.filterMap leavingId)
    (hnew : ∀ id ∈ t.newId, id ∈ next.filterMap newId) :
    Server.Owned { s with aliases := s.aliases.set a ⟨id, false⟩, outbox := outbox } closed
      (next ++ l) := by
  intro a' entry hget
  rw [Map.get_set] at hget
  split_ifs at hget
  · cases hget
    exact hid.keep rfl hleaving hnew
  · exact (h a' entry hget).keep rfl hleaving hnew

/-- An id on its way is registered. -/
theorem Owned.knocked {client : Socket} (h : s.Owned closed (knockAcknowledged client id :: l))
    (hopen : client ∈ closed → ∀ entry ∈ s.aliases.entries, entry.2.id ≠ id)
    (outbox : List (Socket × Operation)) :
    Server.Owned { s with
      clients := s.clients.set id client
      closeListeners := s.closeListeners ++ [(client, id)]
      outbox := outbox } closed l := by
  intro a entry hget
  have hnew : (knockAcknowledged client id :: l).filterMap newId = id :: l.filterMap newId := rfl
  by_cases hid : entry.id = id
  · refine .inl ⟨client, ?_, fun hclosed => ?_⟩
    · rw [hid]
      exact Map.get_set_self _ _ _
    · exact hopen hclosed (a, entry) (Map.mem_entries_iff.mpr hget) hid
  · rcases h a entry hget with ⟨socket, hsocket, hout⟩ | hleaving | hknocks
    · exact .inl ⟨socket, (Map.get_set_of_ne _ _ hid).trans hsocket, hout⟩
    · exact .inr (.inl hleaving)
    · rw [hnew] at hknocks
      exact .inr (.inr ((List.mem_cons.mp hknocks).resolve_left hid))

/-- The sweep of a close listener. -/
theorem Owned.swept (h : s.Owned closed (goodbyeAddressRemoved id :: l))
    (outbox : List (Socket × Operation)) :
    Server.Owned { s.sweep id with outbox := outbox } closed
      ((s.owned id).map (.releaseAddress id) ++ l) := by
  intro a entry hget
  obtain ⟨hget, hne⟩ := Map.get_filter_eq_some_iff.mp hget
  have hcons : (goodbyeAddressRemoved id :: l).filterMap leavingId
      = id :: l.filterMap leavingId := rfl
  rcases h a entry hget with hclient | hmem | hmem
  · exact .inl hclient
  · rw [hcons] at hmem
    refine .inr (.inl ?_)
    rw [List.filterMap_append]
    exact List.mem_append_right _ ((List.mem_cons.mp hmem).resolve_left (of_decide_eq_true hne))
  · refine .inr (.inr ?_)
    rw [List.filterMap_append]
    exact List.mem_append_right _ hmem

theorem Owned.resume (h : s.Owned closed (t :: l)) (hkeeps : t.KeepsOwners s closed (t :: l))
    (hstep : Resumes s t s' next) : s'.Owned closed (next ++ l) := by
  have hnone : ∀ {f : ServerTask → Option String}, f t = none →
      ∀ id ∈ f t, id ∈ next.filterMap f := by
    intro f hf id hid
    rw [hf] at hid
    cases hid
  cases hstep with
  | acknowledged client id hid outbox =>
    refine h.outside rfl rfl (hnone rfl) fun id' hid' => ?_
    have hid' : (if id = "-1" then none else some id) = some id' := hid'
    rw [if_neg hid] at hid'
    cases hid'
    exact List.mem_cons_self
  | overflow client outbox => exact h.outside rfl rfl (hnone rfl) (hnone rfl)
  | accepting data client entry hentry howner =>
    refine h.keep rfl (fun a e hget => ?_) (hnone rfl) (hnone rfl)
    rw [Map.get_set] at hget
    split_ifs at hget
    · cases hget
      exact ⟨_, entry, hentry, howner⟩
    · exact ⟨a, e, hget, rfl⟩
  | shutdown data client entry hentry howner =>
    refine h.keep rfl (fun a e hget => ?_) (hnone rfl) (hnone rfl)
    rw [Map.get_delete] at hget
    split_ifs at hget
    exact ⟨a, e, hget, rfl⟩
  | register client id outbox => exact h.knocked hkeeps outbox
  | bound data outbox => exact h.register hkeeps _ outbox (hnone rfl) (hnone rfl)
  | accepted data clientAlias client hremote hclient outbox =>
    exact h.register (hkeeps hremote) _ outbox (hnone rfl) (hnone rfl)
  | orphaned data clientAlias hremote hclient =>
    exact h.register (hkeeps hremote) _ s.outbox (hnone rfl) (hnone rfl)
  | goodbyeAddress id =>
    refine h.outside rfl rfl (fun id' hid' => ?_) (hnone rfl)
    cases hid'
    exact List.mem_cons_self
  | swept id outbox => exact h.swept outbox
  | _ => exact h.outside rfl rfl (hnone rfl) (hnone rfl)

/-- The clients of a socket that closes leave. -/
theorem Owned.close (h : s.Owned closed l) (hlistening : s.Listening) (client : Socket) :
    (s.closed client).Owned (closed ++ [client])
      ((s.closing client).map .goodbyeAddress ++ l) := by
  intro a entry hget
  have hmem : ∀ f : ServerTask → Option String, entry.id ∈ l.filterMap f →
      entry.id ∈ ((s.closing client).map goodbyeAddress ++ l).filterMap f := by
    intro f hf
    rw [List.filterMap_append]
    exact List.mem_append_right _ hf
  rcases h a entry hget with ⟨socket, hsocket, hopen⟩ | hleaving | hnew
  · by_cases hid : entry.id ∈ s.closing client
    · refine .inr (.inl (List.mem_filterMap.mpr ⟨goodbyeAddress entry.id, ?_, rfl⟩))
      exact List.mem_append_left _ (List.mem_map_of_mem hid)
    · have hkept : (s.closed client).clients.get entry.id = some socket :=
        Map.get_filter_eq_some_iff.mpr ⟨hsocket, decide_eq_true hid⟩
      refine .inl ⟨socket, hkept, fun hclosed => ?_⟩
      rcases List.mem_append.mp hclosed with hclosed | hclosed
      · exact hopen hclosed
      · rw [List.mem_singleton.mp hclosed] at hsocket
        refine hid (List.mem_map.mpr ⟨(client, entry.id), ?_, rfl⟩)
        exact List.mem_filter.mpr ⟨hlistening hsocket, decide_eq_true rfl⟩
  · exact .inr (.inl (hmem _ hleaving))
  · exact .inr (.inr (hmem _ hnew))

end Server

/-! ## Runs of the network -/

/-- A step registers aliases only for ids that somebody holds. -/
def NetworkStep.KeepsOwners (p : Network) : NetworkStep → Prop
  | .resume _ t => t.KeepsOwners p.server p.closed p.pool.tasks
  | _ => True

instance (p : Network) : DecidablePred (NetworkStep.KeepsOwners p)
  | .resume _ t => inferInstanceAs (Decidable (t.KeepsOwners p.server p.closed p.pool.tasks))
  | .connecting _ | .onopen _ | .onclose _ | .request .. | .handleSend .. | .onmessage ..
  | .handle _ | .receive _ | .close _ => isTrue trivial

namespace Network

variable {E : Emittery (String × Nat)} {p p' : Network} {a : NetworkStep}

theorem owned_step (h : p.server.Owned p.closed p.pool.tasks) (hlistening : p.server.Listening)
    (hkeeps : a.KeepsOwners p) (hstep : Step E p a p') :
    p'.server.Owned p'.closed p'.pool.tasks := by
  cases hstep with
  | @receive message before after hup hfirst hopen =>
    intro alias' entry hget
    rcases h alias' entry hget with hclient | hleaving | hnew
    · exact .inl hclient
    · refine .inr (.inl ?_)
      simp only [pool, receive, List.map_append, List.filterMap_append]
      exact List.mem_append_left _ hleaving
    · refine .inr (.inr ?_)
      simp only [pool, receive, List.map_append, List.filterMap_append]
      exact List.mem_append_left _ hnew
  | @close socket hsocket hopen =>
    have htasks : (p.close socket).pool.tasks
        = p.pool.tasks ++ (p.server.closing socket).map .goodbyeAddress := by
      simp [pool, Network.close]
    rw [htasks]
    exact (h.close hlistening socket).perm List.perm_append_comm
  | @resume number task before after htasks hready =>
    have hpool : p.pool.tasks.Perm (task :: (before ++ after).map Prod.snd) := by
      show (p.serverTasks.map Prod.snd).Perm _
      rw [htasks, List.map_append, List.map_append, List.map_cons]
      exact List.perm_middle
    have hnext : (p.resume number task (before ++ after)).pool.tasks
        = (before ++ after).map Prod.snd ++ (task.resume p.server).2 := by
      simp [pool, Network.resume]
    rw [hnext]
    refine Server.Owned.perm List.perm_append_comm ?_
    exact (h.perm hpool).resume (hkeeps.perm hpool) (ServerTask.resumes task p.server)
  | _ => exact h

end Network

theorem NetworkRun.owned {E : Emittery (String × Nat)} {steps : List (Network × NetworkStep)}
    {p : Network} (hrun : NetworkRun E steps p) (hkeeps : ∀ x ∈ steps, x.2.KeepsOwners x.1) :
    p.server.Owned p.closed p.pool.tasks := by
  induction hrun with
  | start hinit =>
    obtain ⟨subnet, parentWsId, rfl⟩ := hinit
    intro a entry hget
    cases hget
  | @snoc steps p p' a hrun hstep ih =>
    obtain ⟨serverSteps, hserver, -⟩ := NetworkRun.server hrun
    refine Network.owned_step (ih fun x hx => ?_) (ServerRun.listening hserver) ?_ hstep
    · exact hkeeps x (List.mem_append_left _ hx)
    · exact hkeeps (p, a) (List.mem_append_right _ List.mem_cons_self)

/-! ## Free aliases can be bound -/

/-- A Bind that is handled alone is accepted, whoever sends it. -/
def Server.Bindable (s : Server) (a : String) : Prop :=
  ∀ id socket, ∃ p', ServerPool.Settles
    (ServerPool.message ⟨s, []⟩ (.bind { id := id, «alias» := a }) socket) p' ∧
    p'.state.aliases.get a = some ⟨id, false⟩

/-- A task that is alone is resumed. -/
theorem ServerPool.Settles.alone {s : Server} {t : ServerTask} {p' : ServerPool}
    (hready : t.ready s = true)
    (h : ServerPool.Settles ⟨(t.resume s).1, (t.resume s).2⟩ p') :
    ServerPool.Settles ⟨s, [t]⟩ p' := by
  obtain ⟨rest, hrest, hstep⟩ := ServerPool.exists_step (p := ⟨s, [t]⟩) List.mem_cons_self hready
  have hnil : rest = [] := (List.perm_cons t).mp hrest |>.nil_eq.symm
  rw [hnil] at hstep
  exact .step hstep h

/-- Where nothing leaks, every alias of a known subnet that is free can be
bound. -/
theorem Server.bindable {s : Server} {a : String} (hsane : Sane s []) (hkept : Kept s [])
    (ha : IsAlias a) (hsubnet : s.subnets.has (ipAddressOf a).subnet = true)
    (hfree : s.aliases.has a = false) : s.Bindable a := by
  have hmutex : s.subnetsMutex = false := by
    have hcount := hsane.mutex
    cases hm : s.subnetsMutex with
    | false => rfl
    | true =>
      rw [hm] at hcount
      cases hcount
  have hport : ¬((s.subnets.ports (ipAddressOf a)).any fun p => p.strictEq (portOf a)) = true := by
    intro hany
    obtain ⟨port, hmem, hstrict⟩ := List.any_eq_true.mp hany
    rw [Number.eq_of_strictEq hstrict] at hmem
    rcases hkept.port hmem with ⟨a', hhas, hip, hp⟩ | ⟨t, ht, -⟩
    · obtain ⟨entry, hget⟩ := Map.has_iff.mp hhas
      rw [(hsane.isAlias hget).ext ha hip hp, hfree] at hhas
      cases hhas
    · cases ht
  have hclaim : s.subnets.claim a
      = .ok (s.subnets.pushPort (ipAddressOf a) (portOf a)) := by
    unfold Subnets.claim
    rw [if_pos hsubnet, if_neg hport]
  intro id socket
  have hreceived : (ServerTask.received (.bind { id := id, «alias» := a }) socket).resume s
      = (s, [.bindClaiming { id := id, «alias» := a }]) := by
    simp [ServerTask.resume, ServerTask.handle, hfree]
  have hclaiming : (ServerTask.bindClaiming { id := id, «alias» := a }).resume s
      = (s.locked (s.subnets.pushPort (ipAddressOf a) (portOf a)),
        [.bindClaimed { id := id, «alias» := a }]) := by
    simp [ServerTask.resume, hclaim]
  have hbound : ServerPool.Settles
      ⟨s.locked (s.subnets.pushPort (ipAddressOf a) (portOf a)),
        [.bindClaimed { id := id, «alias» := a }]⟩
      ⟨((ServerTask.bindClaimed { id := id, «alias» := a }).resume
        (s.locked (s.subnets.pushPort (ipAddressOf a) (portOf a)))).1, []⟩ :=
    .alone rfl (.idle rfl)
  have hclaimed : ServerPool.Settles ⟨s, [.bindClaiming { id := id, «alias» := a }]⟩
      ⟨((ServerTask.bindClaimed { id := id, «alias» := a }).resume
        (s.locked (s.subnets.pushPort (ipAddressOf a) (portOf a)))).1, []⟩ := by
    refine .alone ?_ ?_
    · simp [ServerTask.ready, hmutex]
    · rw [hclaiming]
      exact hbound
  have hall : ServerPool.Settles
      ⟨s, [.received (.bind { id := id, «alias» := a }) socket]⟩
      ⟨((ServerTask.bindClaimed { id := id, «alias» := a }).resume
        (s.locked (s.subnets.pushPort (ipAddressOf a) (portOf a)))).1, []⟩ := by
    refine .alone rfl ?_
    rw [hreceived]
    exact hclaimed
  exact ⟨_, hall, Map.get_set_self _ _ _⟩

/-! ### What has been bound -/

/-- The subnet of an alias that has been bound is known. -/
structure Network.Bound (steps : List (Network × NetworkStep)) (p : Network) : Prop where
  claimed : ∀ data, .bindClaimed data ∈ p.pool.tasks →
    p.server.subnets.has (ipAddressOf data.alias).subnet = true
  bound : ∀ x ∈ steps, ∀ n data, x.2 = .resume n (.bindClaimed data) →
    p.server.subnets.has (ipAddressOf data.alias).subnet = true

/-- A subnet that is known stays known. -/
theorem ServerTask.Resumes.has_subnet {s s' : Server} {t : ServerTask} {next : List ServerTask}
    (hstep : ServerTask.Resumes s t s' next) {subnet : String}
    (h : s.subnets.has subnet = true) : s'.subnets.has subnet = true := by
  cases hstep with
  | searchSuffix data client => exact Subnets.has_ensure_of_has _ h
  | newMember data client newSuffix hfree => exact (Subnets.has_setMember _ _ subnet).trans h
  | claimed data subnets hclaim =>
    obtain ⟨-, -, rfl⟩ := Subnets.claim_eq_ok hclaim
    exact (Subnets.has_setMember _ _ subnet).trans h
  | shutdownPort data => exact (Subnets.has_removeTCPAddress _ subnet).trans h
  | shutdownAddress data => exact (Subnets.has_removeIPAddress _ subnet).trans h
  | searchPort data m hm => exact (Subnets.has_setMember _ _ subnet).trans h
  | newPort data newPort => exact (Subnets.has_setMember _ _ subnet).trans h
  | rejecting data clientAlias client => exact (Subnets.has_removeTCPAddress _ subnet).trans h
  | goodbyeAddress id => exact (Subnets.has_removeIPAddress _ subnet).trans h
  | releaseAddress id tcpAddress => exact (Subnets.has_removeIPAddress _ subnet).trans h
  | releasePort id tcpAddress => exact (Subnets.has_removeTCPAddress _ subnet).trans h
  | _ => exact h

/-- A task that is about to register a bound alias has just claimed its port. -/
theorem ServerTask.Resumes.claimed_subnet {s s' : Server} {t : ServerTask}
    {next : List ServerTask} (hstep : ServerTask.Resumes s t s' next) {data : IBindData}
    (h : .bindClaimed data ∈ next) :
    s'.subnets.has (ipAddressOf data.alias).subnet = true := by
  cases hstep with
  | claimed data' subnets hclaim =>
    cases List.mem_singleton.mp h
    obtain ⟨hsub, -, rfl⟩ := Subnets.claim_eq_ok hclaim
    exact (Subnets.has_setMember _ _ _).trans hsub
  | swept id outbox =>
    obtain ⟨a, -, he⟩ := List.mem_map.mp h
    cases he
  | _ => simp at h

namespace Network.Bound

variable {E : Emittery (String × Nat)} {p p' : Network} {a : NetworkStep}
  {steps : List (Network × NetworkStep)}

/-- A step after which every known subnet is known still and that binds nothing
of an unknown one. -/
theorem keep (h : Bound steps p)
    (hhas : ∀ subnet, p.server.subnets.has subnet = true → p'.server.subnets.has subnet = true)
    (htasks : ∀ data, .bindClaimed data ∈ p'.pool.tasks → .bindClaimed data ∈ p.pool.tasks ∨
      p'.server.subnets.has (ipAddressOf data.alias).subnet = true)
    (hbound : ∀ n data, a = .resume n (.bindClaimed data) → .bindClaimed data ∈ p.pool.tasks) :
    Bound (steps ++ [(p, a)]) p' := by
  constructor
  · intro data hdata
    rcases htasks data hdata with hold | hnew
    · exact hhas _ (h.claimed data hold)
    · exact hnew
  · intro x hx n data hstep
    rcases List.mem_append.mp hx with hx | hx
    · exact hhas _ (h.bound x hx n data hstep)
    · rw [List.mem_singleton.mp hx] at hstep
      exact hhas _ (h.claimed data (hbound n data hstep))

theorem step (h : Bound steps p) (hstep : Step E p a p') : Bound (steps ++ [(p, a)]) p' := by
  cases hstep with
  | @receive message before after hup hfirst hopen =>
    refine h.keep (fun _ hhas => hhas) (fun data hdata => .inl ?_) fun n data he => by cases he
    simp only [pool, receive, List.map_append] at hdata
    rcases List.mem_append.mp hdata with hdata | hdata
    · exact hdata
    · cases List.mem_singleton.mp hdata
  | @close socket hsocket hopen =>
    refine h.keep (fun _ hhas => hhas) (fun data hdata => .inl ?_) fun n data he => by cases he
    simp only [pool, Network.close, List.map_append, List.map_map] at hdata
    rcases List.mem_append.mp hdata with hdata | hdata
    · exact hdata
    · obtain ⟨id, -, he⟩ := List.mem_map.mp hdata
      cases he
  | @resume number task before after htasks hready =>
    have hresumes := ServerTask.resumes task p.server
    have htask : task ∈ p.pool.tasks := by
      simp [pool, htasks]
    refine h.keep (fun _ hhas => hresumes.has_subnet hhas) (fun data hdata => ?_) ?_
    · have hnext : (p.resume number task (before ++ after)).pool.tasks
          = (before ++ after).map Prod.snd ++ (task.resume p.server).2 := by
        simp [pool, Network.resume]
      rw [hnext] at hdata
      rcases List.mem_append.mp hdata with hdata | hdata
      · left
        obtain ⟨t, ht, he⟩ := List.mem_map.mp hdata
        exact List.mem_map.mpr ⟨t, mem_of_rest htasks ht, he⟩
      · exact .inr (hresumes.claimed_subnet hdata)
    · intro n data he
      cases he
      exact htask
  | _ => exact h.keep (fun _ hhas => hhas) (fun _ hdata => .inl hdata) fun n data he => by cases he

end Network.Bound

theorem NetworkRun.bound {E : Emittery (String × Nat)} {steps : List (Network × NetworkStep)}
    {p : Network} (hrun : NetworkRun E steps p) : Network.Bound steps p := by
  induction hrun with
  | start hinit =>
    obtain ⟨subnet, parentWsId, rfl⟩ := hinit
    exact ⟨fun data hdata => absurd hdata List.not_mem_nil,
      fun x hx => absurd hx List.not_mem_nil⟩
  | snoc hrun hstep ih => exact ih.step hstep

/-! ## The owners of the aliases -/

/-- The messages that the server receives are well formed. -/
def NetworkRun.WellFormed (steps : List (Network × NetworkStep)) : Prop :=
  ∀ x ∈ steps, ∀ b ∈ x.2.server, b.WellFormed

instance (steps : List (Network × NetworkStep)) : Decidable (NetworkRun.WellFormed steps) :=
  inferInstanceAs (Decidable (∀ x ∈ steps, ∀ b ∈ x.2.server, b.WellFormed))

/-- The tables and the handlers of the server are sane in such a run. -/
theorem NetworkRun.sane {E : Emittery (String × Nat)} {steps : List (Network × NetworkStep)}
    {p : Network} (hrun : NetworkRun E steps p) (hwell : NetworkRun.WellFormed steps) :
    Sane p.server p.pool.tasks ∧ Kept p.server p.pool.tasks := by
  obtain ⟨serverSteps, hserver, hsteps⟩ := NetworkRun.server hrun
  have hserverWell : ServerRun.WellFormed serverSteps := by
    intro y hy
    obtain ⟨z, hz, -, hb⟩ := hsteps y hy
    exact hwell z hz y.2 hb
  exact ⟨hserver.sane hserverWell, hserver.kept hserverWell⟩

/-- A task that is resumed in a run is well formed. -/
theorem NetworkRun.wellFormed_of_resume {E : Emittery (String × Nat)}
    {steps : List (Network × NetworkStep)} {p : Network} (hrun : NetworkRun E steps p)
    (hwell : NetworkRun.WellFormed steps) {x : Network × NetworkStep} (hx : x ∈ steps) {n : Nat}
    {t : ServerTask} (hstep : x.2 = .resume n t) : t.WellFormed := by
  obtain ⟨before, p', hsub, hbefore, hx'⟩ := Run.of_mem hrun hx
  have hsane := (NetworkRun.sane hbefore fun y hy => hwell y (hsub hy)).1
  rw [hstep] at hx'
  cases hx' with
  | resume htasks hready =>
    refine hsane.tasks t ?_
    simp [Network.pool, htasks]

/-- A client with this id is connected. -/
def Network.Connected (p : Network) (id : String) : Prop :=
  ∃ socket ∈ p.server.clients.get id, socket ∉ p.closed

/-- In every run that registers aliases only for ids that somebody holds, every
alias belongs to a connected client when no handler is suspended, and every
other alias that has been bound can be bound again. -/
theorem aliases_owned {E : Emittery (String × Nat)} {steps : List (Network × NetworkStep)}
    {p : Network} (hrun : NetworkRun E steps p) (hkeeps : ∀ x ∈ steps, x.2.KeepsOwners x.1)
    (hidle : p.serverTasks = []) :
    (∀ a entry, p.server.aliases.get a = some entry → p.Connected entry.id) ∧
    (NetworkRun.WellFormed steps →
      ∀ x ∈ steps, ∀ n data, x.2 = .resume n (.bindClaimed data) →
        (∃ entry, p.server.aliases.get data.alias = some entry ∧ p.Connected entry.id) ∨
          p.server.Bindable data.alias) := by
  have htasks : p.pool.tasks = [] := by
    simp [Network.pool, hidle]
  have howned : ∀ a entry, p.server.aliases.get a = some entry → p.Connected entry.id := by
    intro a entry hget
    have hholds := NetworkRun.owned hrun hkeeps a entry hget
    rw [htasks] at hholds
    rcases hholds with hclient | hmem | hmem
    · exact hclient
    · cases hmem
    · cases hmem
  refine ⟨howned, fun hwell x hx n data hstep => ?_⟩
  cases hget : p.server.aliases.get data.alias with
  | some entry => exact .inl ⟨entry, rfl, howned _ entry hget⟩
  | none =>
    right
    obtain ⟨hsane, hkept⟩ := NetworkRun.sane hrun hwell
    rw [htasks] at hsane hkept
    have halias := NetworkRun.wellFormed_of_resume hrun hwell hx hstep
    exact Server.bindable hsane hkept halias ((NetworkRun.bound hrun).bound x hx n data hstep)
      (Map.has_eq_false_iff.mpr hget)

/-- A client binds an alias and its socket closes. -/
def ownedEvents : List Network.Event :=
  NetworkRun.join 0 0 ++ NetworkRun.join 1 1 ++
  [.request 1 (.bind "127.0.0.7:80")] ++ NetworkRun.serve 1 3 ++
  [.request 0 (.bind "127.0.0.7:81")] ++ NetworkRun.serve 0 3 ++
  .close 1 :: List.replicate 6 (.resume 0)

theorem aliases_owned_run : ∃ steps p, NetworkRun .subscribed steps p ∧ p.closed = [1] ∧
    p.server.aliases.keys = ["127.0.0.7:81"] ∧
    (∀ a entry, p.server.aliases.get a = some entry → p.Connected entry.id) ∧
    p.server.Bindable "127.0.0.7:80" := by
  obtain ⟨steps, p, hrun, hwell, hkeeps, hidle, hclosed, hkeys, hnone, x, hx, hstep⟩ :=
    NetworkRun.exists_along (E := .subscribed)
      (P := fun steps p => NetworkRun.WellFormed steps ∧
        (∀ x ∈ steps, x.2.KeepsOwners x.1) ∧ p.serverTasks = [] ∧ p.closed = [1] ∧
        p.server.aliases.keys = ["127.0.0.7:81"] ∧
        p.server.aliases.get "127.0.0.7:80" = none ∧
        ∃ x ∈ steps, x.2 = .resume 5 (.bindClaimed ⟨"127.0.0.1", "127.0.0.7:80"⟩))
      "127.0.0" ownedEvents (by decide +kernel)
  obtain ⟨howned, hfree⟩ := aliases_owned hrun hkeeps hidle
  refine ⟨steps, p, hrun, hclosed, hkeys, howned, ?_⟩
  refine (hfree hwell x hx 5 _ hstep).resolve_left ?_
  rintro ⟨entry, hget, -⟩
  rw [hnone] at hget
  cases hget

/-! ## The defect -/

/-- A client reconnects and binds before it has handled the new acknowledgement;
the server notices in between that the old socket has closed. -/
def orphaningEvents : List Network.Event :=
  NetworkRun.join 0 0 ++ [.onclose 0, .connecting 0, .onopen 0] ++ NetworkRun.serve 1 5 ++
  [.request 0 (.bind "127.0.0.0:80")] ++ [.close 0, .resume 0, .resume 0] ++
  NetworkRun.serve 1 3

/-- An alias can be registered for an id that no client has. -/
theorem aliases_orphaned : ∃ steps p, NetworkRun .subscribed steps p ∧
    NetworkRun.WellFormed steps ∧ p.serverTasks = [] ∧
    ∃ a entry, p.server.aliases.get a = some entry ∧ p.server.clients.has entry.id = false := by
  obtain ⟨steps, p, hrun, hwell, hidle, hget, hclient⟩ :=
    NetworkRun.exists_along (E := .subscribed)
      (P := fun steps p => NetworkRun.WellFormed steps ∧ p.serverTasks = [] ∧
        p.server.aliases.get "127.0.0.0:80" = some ⟨"127.0.0.0", false⟩ ∧
        p.server.clients.has "127.0.0.0" = false)
      "127.0.0" orphaningEvents (by decide +kernel)
  exact ⟨steps, p, hrun, hwell, hidle, _, _, hget, hclient⟩

end Unisockets.Signaling
