import Unisockets.Signaling.ClientIds

/-!
# An alias has one owner

Bind and Connect take a port in the registry, under the mutex, and register the
alias later.  That the alias is still free then rests on the registry: the port
of every registered alias, and of every alias that is about to be registered,
is listed.  Whoever drops such a port breaks this.

`SparesAliases` says that a step does not: a removal does not free the port of
an alias in use, and nobody takes a port of a client whose close listener has
dropped its address and has not swept its aliases yet.  In every run whose
steps all spare the aliases, an alias has one owner (`aliases_exclusive`).
`aliases_overwritten` is a run with one Shutdown that does not.
-/

namespace Unisockets.Signaling

open JsStd

namespace ServerTask

/-- The alias that a task is about to register. -/
def newAlias : ServerTask → Option String
  | .bindClaimed data => some data.alias
  | .connectCreated _ clientAlias => some clientAlias
  | _ => none

/-- The alias whose port a task passes to `removeTCPAddress`. -/
def removedPort : ServerTask → Option String
  | .shutdownPort data => some data.alias
  | .connectRejecting _ clientAlias _ => some clientAlias
  | .releasePort _ tcpAddress => some tcpAddress
  | _ => none

/-- The alias whose port a task takes. -/
def takenAlias : ServerTask → Option String
  | .bindClaiming data => some data.alias
  | .connectSearching data newPort => some (toTCPAddress
      (toIPAddress (parseIPAddress data.id).subnet (parseIPAddress data.id).suffix) newPort)
  | _ => none

/-- The id of a close listener that has not swept the aliases yet. -/
def leavingId : ServerTask → Option String
  | .goodbyeAddress id => some id
  | .goodbyeAddressRemoved id => some id
  | _ => none

/-- A task drops the port of an alias from the registry. -/
def Frees (t : ServerTask) (a : String) : Prop :=
  t.removedAddress.map parseIPAddress = some (ipAddressOf a) ∨ t.removedPort = some a

instance (t : ServerTask) (a : String) : Decidable (t.Frees a) :=
  inferInstanceAs (Decidable (_ ∨ _))

end ServerTask

/-- The owner of an alias is about to be swept. -/
def ServerPool.Leaving (p : ServerPool) (id : String) : Prop :=
  id ∈ p.tasks.filterMap ServerTask.leavingId

instance (p : ServerPool) (id : String) : Decidable (p.Leaving id) :=
  inferInstanceAs (Decidable (_ ∈ _))

/-- A step drops no port of an alias in use, and takes none from a client that
is about to be swept. -/
def ServerStep.SparesAliases (p : ServerPool) : ServerStep → Prop
  | .resume t =>
    (∀ entry ∈ p.state.aliases.entries, t.Frees entry.1 → p.Leaving entry.2.id) ∧
    (∀ a ∈ p.tasks.filterMap ServerTask.newAlias, ¬t.Frees a) ∧
    ∀ a ∈ t.takenAlias, ∀ entry ∈ p.state.aliases.entries, entry.1 = a →
      ¬p.Leaving entry.2.id
  | _ => True

instance (p : ServerPool) : DecidablePred (ServerStep.SparesAliases p)
  | .resume t => inferInstanceAs (Decidable
      ((∀ entry ∈ p.state.aliases.entries, t.Frees entry.1 → p.Leaving entry.2.id) ∧
      (∀ a ∈ p.tasks.filterMap ServerTask.newAlias, ¬t.Frees a) ∧
      ∀ a ∈ t.takenAlias, ∀ entry ∈ p.state.aliases.entries, entry.1 = a →
        ¬p.Leaving entry.2.id))
  | .message _ _ | .close _ => isTrue trivial

/-! ## Exclusive aliases -/

/-- Nothing is registered under an alias in use, and an alias leaves its owner
only by an accepted Shutdown of the owner or by the sweep after its disconnect. -/
structure ServerRun.ExclusiveAliases (steps : List (ServerPool × ServerStep)) : Prop where
  bind : ∀ x ∈ steps, ∀ data, x.2 = .resume (.bindClaimed data) →
    x.1.state.aliases.has data.alias = false
  connect : ∀ x ∈ steps, ∀ data clientAlias, x.2 = .resume (.connectCreated data clientAlias) →
    (x.1.state.aliases.get data.remoteAlias).any MAlias.accepting = true →
    x.1.state.aliases.has clientAlias = false
  owner : ∀ x ∈ steps, ∀ p', ServerPool.Step x.1 x.2 p' → ∀ a entry,
    x.1.state.aliases.get a = some entry →
      (∃ entry', p'.state.aliases.get a = some entry' ∧ entry'.id = entry.id) ∨
      (∃ data client, x.2 = .resume (.received (.shutdown data) client) ∧
        data.alias = a ∧ data.id = entry.id) ∨
      x.2 = .resume (.goodbyeAddressRemoved entry.id)

/-! ## The invariant -/

/-- The port of an alias is listed. -/
def Subnets.Listed (s : Subnets) (a : String) : Prop := portOf a ∈ s.ports (ipAddressOf a)

/-- The ports of the aliases in use are listed, and an alias that is about to be
registered is registered by one task only. -/
structure Exclusive (s : Server) (l : List ServerTask) : Prop where
  registered : ∀ {a entry}, s.aliases.get a = some entry →
    s.subnets.Listed a ∨ entry.id ∈ l.filterMap ServerTask.leavingId
  listed : ∀ a ∈ l.filterMap ServerTask.newAlias, s.subnets.Listed a
  fresh : ∀ a ∈ l.filterMap ServerTask.newAlias, s.aliases.get a = none
  nodup : (l.filterMap ServerTask.newAlias).Nodup

namespace Exclusive

open ServerTask

variable {s s' : Server} {t : ServerTask} {l next : List ServerTask}

theorem init : Exclusive {} [] where
  registered h := by cases h
  listed a h := by cases h
  fresh a h := by cases h
  nodup := List.nodup_nil

theorem perm {l' : List ServerTask} (hl : l.Perm l') (h : Exclusive s l) : Exclusive s l' where
  registered hget := (h.registered hget).imp_right (hl.filterMap _).mem_iff.mp
  listed a ha := h.listed a ((hl.filterMap _).mem_iff.mpr ha)
  fresh a ha := h.fresh a ((hl.filterMap _).mem_iff.mpr ha)
  nodup := (hl.filterMap _).nodup_iff.mp h.nodup

/-- A step that registers nothing and takes nothing. -/
theorem keep (h : Exclusive s (t :: l))
    (haliases : ∀ {a entry}, s'.aliases.get a = some entry →
      ∃ entry', s.aliases.get a = some entry' ∧ entry'.id = entry.id)
    (hleaving : next.filterMap leavingId = [t].filterMap leavingId)
    (hnew : (next.filterMap newAlias).Sublist ([t].filterMap newAlias))
    (hregistered : ∀ a entry, s.aliases.get a = some entry → s.subnets.Listed a →
      s'.subnets.Listed a ∨ entry.id ∈ (t :: l).filterMap leavingId)
    (hlisted : ∀ a ∈ (t :: l).filterMap newAlias, s.subnets.Listed a → s'.subnets.Listed a) :
    Exclusive s' (next ++ l) := by
  have hids : (next ++ l).filterMap leavingId = (t :: l).filterMap leavingId := by
    rw [List.filterMap_append, hleaving, ← List.filterMap_append]
    rfl
  have hsub : ((next ++ l).filterMap newAlias).Sublist ((t :: l).filterMap newAlias) := by
    rw [List.filterMap_append, ← List.singleton_append, List.filterMap_append]
    exact hnew.append_right _
  constructor
  · intro a entry hget
    obtain ⟨entry', hget', howner⟩ := haliases hget
    rw [hids, ← howner]
    rcases h.registered hget' with hl | hleave
    · exact hregistered a entry' hget' hl
    · exact .inr hleave
  · intro a ha
    exact hlisted a (hsub.subset ha) (h.listed a (hsub.subset ha))
  · intro a ha
    rw [← Option.not_isSome_iff_eq_none, Option.isSome_iff_exists]
    rintro ⟨entry, hget⟩
    obtain ⟨entry', hget', -⟩ := haliases hget
    rw [h.fresh a (hsub.subset ha)] at hget'
    cases hget'
  · exact hsub.nodup h.nodup

/-- A step that leaves the registry and the owners alone. -/
theorem outside (h : Exclusive s (t :: l)) (haliases : s'.aliases = s.aliases)
    (hsubnets : s'.subnets = s.subnets)
    (hleaving : next.filterMap leavingId = [t].filterMap leavingId)
    (hnew : next.filterMap newAlias = [t].filterMap newAlias) : Exclusive s' (next ++ l) := by
  refine h.keep (fun hget => ⟨_, haliases ▸ hget, rfl⟩) hleaving (hnew ▸ List.Sublist.refl _) ?_ ?_
  · exact fun a entry _ hl => .inl (hsubnets ▸ hl)
  · exact fun a _ hl => hsubnets ▸ hl

/-- A critical section that drops no port. -/
theorem inside (h : Exclusive s (t :: l)) {subnets : Subnets} {mutex : Bool}
    (hleaving : next.filterMap leavingId = [t].filterMap leavingId)
    (hnew : next.filterMap newAlias = [t].filterMap newAlias)
    (hports : ∀ {key port}, port ∈ s.subnets.ports key → port ∈ subnets.ports key) :
    Exclusive { s with subnets := subnets, subnetsMutex := mutex } (next ++ l) := by
  refine h.keep (fun hget => ⟨_, hget, rfl⟩) hleaving (hnew ▸ List.Sublist.refl _) ?_ ?_
  · exact fun a entry _ hl => .inl (hports hl)
  · exact fun a _ hl => hports hl

/-- A critical section that drops only ports of aliases that are not in use. -/
theorem remove {l' : List ServerTask} (h : Exclusive s (t :: l)) {subnets : Subnets}
    {mutex : Bool} (hl : l'.Perm (t :: l))
    (hspares : (ServerStep.resume t).SparesAliases ⟨s, l'⟩)
    (hleaving : next.filterMap leavingId = [t].filterMap leavingId)
    (hnew : next.filterMap newAlias = [t].filterMap newAlias)
    (hports : ∀ a, (∃ entry, s.aliases.get a = some entry) ∨ a ∈ (t :: l).filterMap newAlias →
      ¬t.Frees a → s.subnets.Listed a → subnets.Listed a) :
    Exclusive { s with subnets := subnets, subnetsMutex := mutex } (next ++ l) := by
  refine h.keep (fun hget => ⟨_, hget, rfl⟩) hleaving (hnew ▸ List.Sublist.refl _) ?_ ?_
  · intro a entry hget hlisted
    by_cases hf : t.Frees a
    · right
      exact (hl.filterMap _).mem_iff.mp
        (hspares.1 (a, entry) (Map.mem_entries_iff.mpr hget) hf)
    · exact .inl (hports a (.inl ⟨entry, hget⟩) hf hlisted)
  · intro a ha hlisted
    have hf := hspares.2.1 a ((hl.filterMap _).mem_iff.mpr ha)
    exact hports a (.inr ha) hf hlisted

/-- The aliases that a step finds in use are well formed. -/
private theorem isAlias_of_inUse (hsane : Sane s (t :: l)) {a : String}
    (ha : (∃ entry, s.aliases.get a = some entry) ∨ a ∈ (t :: l).filterMap newAlias) :
    IsAlias a := by
  rcases ha with ⟨entry, hget⟩ | ha
  · exact hsane.isAlias hget
  · obtain ⟨t', ht', hnew⟩ := List.mem_filterMap.mp ha
    have hwell := hsane.tasks t' ht'
    cases t' with
    | bindClaimed data =>
      cases hnew
      exact hwell
    | connectCreated data clientAlias =>
      cases hnew
      exact hwell
    | _ => cases hnew

theorem removeIPAddress {l' : List ServerTask} (h : Exclusive s (t :: l)) {a : String}
    (ha : t.removedAddress = some a) (hl : l'.Perm (t :: l))
    (hspares : (ServerStep.resume t).SparesAliases ⟨s, l'⟩)
    (hleaving : next.filterMap leavingId = [t].filterMap leavingId)
    (hnew : next.filterMap newAlias = [t].filterMap newAlias) :
    Exclusive (s.locked (s.subnets.removeIPAddress a)) (next ++ l) := by
  refine h.remove hl hspares hleaving hnew fun a' _ hf hlisted => ?_
  refine Subnets.mem_ports_removeIPAddress.mpr ⟨hlisted, fun he => hf (.inl ?_)⟩
  rw [ha, he]
  rfl

theorem removeTCPAddress {l' : List ServerTask} (h : Exclusive s (t :: l))
    (hsane : Sane s (t :: l)) {a : String} (hwell : IsAlias a)
    (ha : t.removedPort = some a) (hl : l'.Perm (t :: l))
    (hspares : (ServerStep.resume t).SparesAliases ⟨s, l'⟩)
    (hleaving : next.filterMap leavingId = [t].filterMap leavingId)
    (hnew : next.filterMap newAlias = [t].filterMap newAlias) :
    Exclusive (s.locked (s.subnets.removeTCPAddress a)) (next ++ l) := by
  refine h.remove hl hspares hleaving hnew fun a' ha' hf hlisted => ?_
  refine (Subnets.mem_ports_removeTCPAddress hwell).mpr ⟨hlisted, fun he => hf (.inr ?_)⟩
  rw [ha, hwell.ext (isAlias_of_inUse hsane ha') he.1 he.2]

/-- A task has taken the port of an alias that was not listed. -/
theorem take {l' : List ServerTask} (h : Exclusive s (t :: l)) {a : String} (t' : ServerTask)
    (htaken : t.takenAlias = some a) (hl : l'.Perm (t :: l))
    (hspares : (ServerStep.resume t).SparesAliases ⟨s, l'⟩)
    (ht : t.leavingId = none ∧ t.newAlias = none)
    (ht' : t'.leavingId = none ∧ t'.newAlias = some a)
    (hsub : s.subnets.has (ipAddressOf a).subnet = true) (hfree : ¬s.subnets.Listed a) :
    Exclusive (s.locked (s.subnets.pushPort (ipAddressOf a) (portOf a))) ([t'] ++ l) := by
  have hids : ([t'] ++ l).filterMap leavingId = (t :: l).filterMap leavingId := by
    rw [List.singleton_append, List.filterMap_cons_none ht'.1, List.filterMap_cons_none ht.1]
  have hnew : ([t'] ++ l).filterMap newAlias = a :: (t :: l).filterMap newAlias := by
    rw [List.singleton_append, List.filterMap_cons_some ht'.2, List.filterMap_cons_none ht.2]
  have hpush : ∀ {a'}, s.subnets.Listed a' →
      (s.subnets.pushPort (ipAddressOf a) (portOf a)).Listed a' :=
    fun hlisted => (Subnets.mem_ports_pushPort hsub).mpr (.inl hlisted)
  have hunregistered : s.aliases.get a = none := by
    rw [← Option.not_isSome_iff_eq_none, Option.isSome_iff_exists]
    rintro ⟨entry, hget⟩
    have hleave := (h.registered hget).resolve_left hfree
    exact hspares.2.2 a htaken (a, entry) (Map.mem_entries_iff.mpr hget) rfl
      ((hl.filterMap _).mem_iff.mpr hleave)
  constructor
  · intro a' entry hget
    rw [hids]
    exact (h.registered hget).imp_left hpush
  · intro a' ha'
    rw [hnew] at ha'
    rcases List.mem_cons.mp ha' with rfl | ha'
    · exact (Subnets.mem_ports_pushPort hsub).mpr (.inr ⟨rfl, rfl⟩)
    · exact hpush (h.listed a' ha')
  · intro a' ha'
    rw [hnew] at ha'
    rcases List.mem_cons.mp ha' with rfl | ha'
    · exact hunregistered
    · exact h.fresh a' ha'
  · rw [hnew, List.nodup_cons]
    exact ⟨fun ha => hfree (h.listed a ha), h.nodup⟩

/-- A task registers the alias whose port it has taken. -/
theorem register (h : Exclusive s (t :: l)) {a : String} (entry : MAlias)
    (outbox : List (Socket × Operation)) (ht : t.leavingId = none ∧ t.newAlias = some a)
    (hleaving : next.filterMap leavingId = []) (hnew : next.filterMap newAlias = []) :
    Exclusive { s with aliases := s.aliases.set a entry, outbox := outbox } (next ++ l) := by
  have hids : (next ++ l).filterMap leavingId = (t :: l).filterMap leavingId := by
    rw [List.filterMap_append, hleaving, List.nil_append, List.filterMap_cons_none ht.1]
  have hlist : (next ++ l).filterMap newAlias = l.filterMap newAlias := by
    rw [List.filterMap_append, hnew, List.nil_append]
  have hcons : (t :: l).filterMap newAlias = a :: l.filterMap newAlias :=
    List.filterMap_cons_some ht.2
  have hlisted := h.listed
  have hfresh := h.fresh
  have hnodup := h.nodup
  rw [hcons] at hlisted hfresh hnodup
  rw [List.nodup_cons] at hnodup
  constructor
  · intro a' entry' hget
    rw [hids]
    rw [Map.get_set] at hget
    split_ifs at hget with he
    · rw [he]
      exact .inl (hlisted a List.mem_cons_self)
    · exact h.registered hget
  · intro a' ha'
    rw [hlist] at ha'
    exact hlisted a' (List.mem_cons_of_mem _ ha')
  · intro a' ha'
    rw [hlist] at ha'
    have hne : a' ≠ a := fun he => hnodup.1 (he ▸ ha')
    rw [Map.get_set_of_ne _ _ hne]
    exact hfresh a' (List.mem_cons_of_mem _ ha')
  · rw [hlist]
    exact hnodup.2

/-- The sweep of a close listener. -/
theorem sweep {id : String} (h : Exclusive s (goodbyeAddressRemoved id :: l))
    (outbox : List (Socket × Operation)) :
    Exclusive { s.sweep id with outbox := outbox }
      ((s.owned id).map (.releaseAddress id) ++ l) := by
  have hswept : ∀ f : ServerTask → Option String, (∀ a, f (.releaseAddress id a) = none) →
      ((s.owned id).map (ServerTask.releaseAddress id) ++ l).filterMap f = l.filterMap f := by
    intro f hf
    have hnil : ((s.owned id).map (ServerTask.releaseAddress id)).filterMap f = [] := by
      rw [List.filterMap_eq_nil_iff]
      intro t ht
      obtain ⟨a, -, rfl⟩ := List.mem_map.mp ht
      exact hf a
    rw [List.filterMap_append, hnil, List.nil_append]
  have hnew : (goodbyeAddressRemoved id :: l).filterMap newAlias = l.filterMap newAlias := rfl
  have hids : (goodbyeAddressRemoved id :: l).filterMap leavingId
      = id :: l.filterMap leavingId := rfl
  constructor
  · intro a entry hget
    obtain ⟨hget, hne⟩ := Map.get_filter_eq_some_iff.mp hget
    rw [hswept leavingId fun _ => rfl]
    refine (h.registered hget).imp_right fun hmem => ?_
    rw [hids] at hmem
    exact (List.mem_cons.mp hmem).resolve_left (of_decide_eq_true hne)
  · intro a ha
    rw [hswept newAlias fun _ => rfl] at ha
    exact h.listed a (hnew ▸ ha)
  · intro a ha
    rw [hswept newAlias fun _ => rfl] at ha
    rw [← Option.not_isSome_iff_eq_none, Option.isSome_iff_exists]
    rintro ⟨entry, hget⟩
    have hget := (Map.get_filter_eq_some_iff.mp hget).1
    rw [h.fresh a (hnew ▸ ha)] at hget
    cases hget
  · rw [hswept newAlias fun _ => rfl]
    exact h.nodup

theorem message (h : Exclusive s l) (operation : Operation) (client : Socket) :
    Exclusive s (.received operation client :: l) :=
  ⟨h.registered, h.listed, h.fresh, h.nodup⟩

theorem close (h : Exclusive s l) (client : Socket) :
    Exclusive (s.closed client) ((s.closing client).map .goodbyeAddress ++ l) := by
  have hnil : ((s.closing client).map goodbyeAddress).filterMap newAlias = [] := by
    rw [List.filterMap_eq_nil_iff]
    intro t ht
    obtain ⟨id, -, rfl⟩ := List.mem_map.mp ht
    rfl
  have hlist : ((s.closing client).map goodbyeAddress ++ l).filterMap newAlias
      = l.filterMap newAlias := by
    rw [List.filterMap_append, hnil, List.nil_append]
  constructor
  · intro a entry hget
    refine (h.registered hget).imp_right fun hmem => ?_
    rw [List.filterMap_append]
    exact List.mem_append_right _ hmem
  · rw [hlist]
    exact h.listed
  · rw [hlist]
    exact h.fresh
  · rw [hlist]
    exact h.nodup

theorem resume {l' : List ServerTask} (h : Exclusive s (t :: l)) (hsane : Sane s (t :: l))
    (hl : l'.Perm (t :: l)) (hspares : (ServerStep.resume t).SparesAliases ⟨s, l'⟩)
    (hstep : Resumes s t s' next) : Exclusive s' (next ++ l) := by
  have hwell : t.WellFormed := hsane.tasks t List.mem_cons_self
  have hfound : t.Found s.subnets := hsane.found t List.mem_cons_self
  cases hstep with
  | knock data client => exact h.outside rfl rfl rfl rfl
  | bind data client => exact h.outside rfl rfl rfl rfl
  | connect data client => exact h.outside rfl rfl rfl rfl
  | answered operation client outbox => exact h.outside rfl rfl rfl rfl
  | acknowledged client id hid outbox => exact h.outside rfl rfl rfl rfl
  | overflow client outbox => exact h.outside rfl rfl rfl rfl
  | portRemoved data => exact h.outside rfl rfl rfl rfl
  | addressRemoved data outbox => exact h.outside rfl rfl rfl rfl
  | reject data clientAlias =>
    refine h.keep (fun hget => ⟨_, hget, rfl⟩) rfl (List.nil_sublist _) ?_ ?_
    · exact fun a entry _ hlisted => .inl hlisted
    · exact fun a _ hlisted => hlisted
  | rejected data clientAlias client outbox => exact h.outside rfl rfl rfl rfl
  | lost data clientAlias client => exact h.outside rfl rfl rfl rfl
  | clientNotified data clientAlias client entry server _ _ outbox =>
    exact h.outside rfl rfl rfl rfl
  | serverNotified data clientAlias client serverId server outbox =>
    exact h.outside rfl rfl rfl rfl
  | serverAccepted data client serverId outbox => exact h.outside rfl rfl rfl rfl
  | releasedAddress id tcpAddress => exact h.outside rfl rfl rfl rfl
  | releasedPort id tcpAddress outbox => exact h.outside rfl rfl rfl rfl
  | accepting data client entry hentry howner =>
    refine h.keep (fun {a e} hget => ?_) rfl (List.Sublist.refl _) ?_ ?_
    · rw [Map.get_set] at hget
      split_ifs at hget with ha
      · cases hget
        exact ⟨entry, ha ▸ hentry, howner⟩
      · exact ⟨e, hget, rfl⟩
    · exact fun a entry _ hlisted => .inl hlisted
    · exact fun a _ hlisted => hlisted
  | shutdown data client entry hentry howner =>
    refine h.keep (fun {a e} hget => ?_) rfl (List.Sublist.refl _) ?_ ?_
    · rw [Map.get_delete] at hget
      split_ifs at hget
      exact ⟨e, hget, rfl⟩
    · exact fun a entry _ hlisted => .inl hlisted
    · exact fun a _ hlisted => hlisted
  | register client id outbox => exact h.outside rfl rfl rfl rfl
  | bound data outbox => exact h.register ⟨data.id, false⟩ outbox ⟨rfl, rfl⟩ rfl rfl
  | accepted data clientAlias client hremote hclient outbox =>
    exact h.register ⟨data.id, false⟩ outbox ⟨rfl, rfl⟩ rfl rfl
  | orphaned data clientAlias hremote hclient =>
    exact h.register ⟨data.id, false⟩ s.outbox ⟨rfl, rfl⟩ rfl rfl
  | swept id outbox => exact h.sweep outbox
  | searchSuffix data client =>
    refine h.inside rfl rfl fun {key port} hp => ?_
    rw [Subnets.ports_ensure]
    exact hp
  | fullSubnet data client newSuffix hfull => exact h.inside rfl rfl fun hp => hp
  | newMember data client newSuffix hfree =>
    refine h.inside rfl rfl fun {key port} hp => ?_
    rw [Subnets.ports_setMember hfound.1]
    split_ifs with hk
    · rw [hk, Subnets.ports_of_member_none hfound.2] at hp
      exact hp
    · exact hp
  | claimed data subnets hclaim =>
    obtain ⟨p, hp⟩ := IsAlias.natural_port hwell
    have hfree := Subnets.not_mem_ports_of_claim hclaim hp
    obtain ⟨hsub, -, rfl⟩ := Subnets.claim_eq_ok hclaim
    refine h.take (.bindClaimed data) rfl hl hspares ⟨rfl, rfl⟩ ⟨rfl, rfl⟩ hsub
      fun hlisted => hfree ?_
    rw [← hp]
    exact hlisted
  | unclaimed data => exact h.inside rfl rfl fun hp => hp
  | shutdownPort data => exact h.removeTCPAddress hsane hwell rfl hl hspares rfl rfl
  | shutdownAddress data => exact h.removeIPAddress rfl hl hspares rfl rfl
  | searchPort data m hm =>
    exact h.inside rfl rfl fun hp => (Subnets.mem_ports_sortPorts hm).mpr hp
  | noMember data => exact h.inside rfl rfl fun hp => hp
  | newPort data newPort =>
    obtain ⟨m, hm⟩ := Option.isSome_iff_exists.mp hfound.1
    have hsub := Subnets.has_of_member hm
    have hsubnet : IsSubnet (parseIPAddress data.id).subnet := hsane.subnets.isSubnet hsub
    have hip : ipAddressOf (toTCPAddress (toIPAddress (parseIPAddress data.id).subnet
        (parseIPAddress data.id).suffix) newPort) = parseIPAddress data.id := by
      rw [ipAddressOf_toTCPAddress hsubnet]
    have hport : portOf (toTCPAddress (toIPAddress (parseIPAddress data.id).subnet
        (parseIPAddress data.id).suffix) newPort) = newPort := by
      rw [portOf_toTCPAddress hsubnet]
    have htake := h.take (.connectCreated data (toTCPAddress
      (toIPAddress (parseIPAddress data.id).subnet (parseIPAddress data.id).suffix) newPort))
      rfl hl hspares ⟨rfl, rfl⟩ ⟨rfl, rfl⟩
    rw [Subnets.Listed, hip, hport] at htake
    exact htake hsub hfound.2
  | rejecting data clientAlias client =>
    exact h.removeTCPAddress hsane hwell rfl hl hspares rfl rfl
  | goodbyeAddress id => exact h.removeIPAddress rfl hl hspares rfl rfl
  | releaseAddress id tcpAddress => exact h.removeIPAddress rfl hl hspares rfl rfl
  | releasePort id tcpAddress => exact h.removeTCPAddress hsane hwell rfl hl hspares rfl rfl

end Exclusive

theorem ServerRun.exclusive {steps : List (ServerPool × ServerStep)} {p : ServerPool}
    (hrun : ServerRun steps p) (hwell : ServerRun.WellFormed steps)
    (hspares : ∀ x ∈ steps, x.2.SparesAliases x.1) : Exclusive p.state p.tasks := by
  have hboth : Sane p.state p.tasks ∧ Exclusive p.state p.tasks := by
    refine hrun.invariant (I := fun s l => Sane s l ∧ Exclusive s l)
      (fun x hx => And.intro (hwell x hx) (hspares x hx)) ?_ ⟨.init, .init⟩ ?_ ?_ ?_
    · exact fun s l l' hl h => ⟨h.1.perm hl, h.2.perm hl⟩
    · exact fun s l operation client h ha => ⟨h.1.message ha.1 client, h.2.message _ client⟩
    · exact fun s l client h _ => ⟨h.1.close client, h.2.close client⟩
    · intro s l t rest s' next hl h hready ha hstep
      exact ⟨h.1.resume hready hstep, h.2.resume h.1 hl ha.2 hstep⟩
  exact hboth.2

/-- How an alias leaves its owner, in a step that registers no alias in use. -/
theorem ServerTask.Resumes.owner {s s' : Server} {t : ServerTask} {next : List ServerTask}
    (hstep : ServerTask.Resumes s t s' next) (hfresh : ∀ a ∈ t.newAlias, s.aliases.get a = none)
    {a : String} {entry : MAlias} (hget : s.aliases.get a = some entry) :
    (∃ entry', s'.aliases.get a = some entry' ∧ entry'.id = entry.id) ∨
      (∃ data client, t = .received (.shutdown data) client ∧
        data.alias = a ∧ data.id = entry.id) ∨
      t = .goodbyeAddressRemoved entry.id := by
  have hother : ∀ {a'} (_ : s.aliases.get a' = none), a ≠ a' := by
    rintro a' hnone rfl
    rw [hnone] at hget
    cases hget
  cases hstep with
  | accepting data client old hold howner =>
    left
    by_cases ha : a = data.alias
    · subst ha
      rw [hold] at hget
      cases hget
      exact ⟨_, Map.get_set_self _ _ _, howner.symm⟩
    · exact ⟨entry, (Map.get_set_of_ne _ _ ha).trans hget, rfl⟩
  | shutdown data client old hold howner =>
    by_cases ha : a = data.alias
    · subst ha
      rw [hold] at hget
      cases hget
      exact .inr (.inl ⟨data, client, rfl, rfl, howner.symm⟩)
    · exact .inl ⟨entry, (Map.get_delete_of_ne _ ha).trans hget, rfl⟩
  | bound data outbox =>
    have ha := hother (hfresh _ rfl)
    exact .inl ⟨entry, (Map.get_set_of_ne _ _ ha).trans hget, rfl⟩
  | accepted data clientAlias client hremote hclient outbox =>
    have ha := hother (hfresh _ rfl)
    exact .inl ⟨entry, (Map.get_set_of_ne _ _ ha).trans hget, rfl⟩
  | orphaned data clientAlias hremote hclient =>
    have ha := hother (hfresh _ rfl)
    exact .inl ⟨entry, (Map.get_set_of_ne _ _ ha).trans hget, rfl⟩
  | swept id outbox =>
    by_cases hid : entry.id = id
    · exact .inr (.inr (congrArg _ hid.symm))
    · exact .inl ⟨entry, Map.get_filter_eq_some_iff.mpr ⟨hget, decide_eq_true hid⟩, rfl⟩
  | _ => exact .inl ⟨entry, hget, rfl⟩

/-- An alias has one owner in every run that drops no port of an alias in use. -/
theorem aliases_exclusive {steps : List (ServerPool × ServerStep)} {p : ServerPool}
    (hrun : ServerRun steps p) (hwell : ServerRun.WellFormed steps)
    (hspares : ∀ x ∈ steps, x.2.SparesAliases x.1) : ServerRun.ExclusiveAliases steps := by
  have hfresh : ∀ x ∈ steps, ∀ t, x.2 = .resume t → ∀ a ∈ t.newAlias,
      x.1.state.aliases.get a = none := by
    intro x hx t ht a ha
    obtain ⟨before, hsub, hbefore, htask⟩ := hrun.of_mem hx
    have h := hbefore.exclusive (fun y hy => hwell y (hsub hy))
      fun y hy => hspares y (hsub hy)
    exact h.fresh a (List.mem_filterMap.mpr ⟨t, htask t ht, ha⟩)
  constructor
  · intro x hx data ht
    exact Map.has_eq_false_iff.mpr (hfresh x hx _ ht _ rfl)
  · intro x hx data clientAlias ht _
    exact Map.has_eq_false_iff.mpr (hfresh x hx _ ht _ rfl)
  · rintro ⟨q, a⟩ hx p' hstep tcpAddress entry hget
    cases hstep with
    | message operation client => exact .inl ⟨entry, hget, rfl⟩
    | close client => exact .inl ⟨entry, hget, rfl⟩
    | @resume i t _ ht hp =>
      obtain ⟨rest, -, -, rfl⟩ := TaskSystem.resumed ht hp
      have howner := (ServerTask.resumes t q.state).owner (hfresh _ hx t rfl) hget
      rcases howner with hkept | ⟨data, client, rfl, ha, hid⟩ | rfl
      · exact .inl hkept
      · exact .inr (.inl ⟨data, client, rfl, ha, hid⟩)
      · exact .inr (.inr rfl)

/-- Two clients: one binds an alias, accepts, and shuts another alias down at an
address of its own; the other connects, disconnects and its aliases are swept. -/
def exclusiveEvents : List ServerEvent :=
  ServerRun.handling (.knock ⟨"127.0.0", ""⟩) 0 5 ++
  ServerRun.handling (.knock ⟨"127.0.0", ""⟩) 1 5 ++
  ServerRun.handling (.bind ⟨"127.0.0.0", "127.0.0.0:80"⟩) 0 3 ++
  ServerRun.handling (.accepting ⟨"127.0.0.0", "127.0.0.0:80"⟩) 0 1 ++
  ServerRun.handling (.bind ⟨"127.0.0.0", "127.0.0.7:81"⟩) 0 3 ++
  ServerRun.handling (.shutdown ⟨"127.0.0.0", "127.0.0.7:81"⟩) 0 5 ++
  ServerRun.handling (.connect ⟨"127.0.0.1", "127.0.0.0:80", "u"⟩) 1 7 ++
  ServerRun.closing 1 6 ++
  ServerRun.handling (.bind ⟨"127.0.0.0", "127.0.0.7:81"⟩) 0 3

theorem aliases_exclusive_run : ∃ steps p, ServerRun steps p ∧
    p.state.aliases.keys = ["127.0.0.0:80", "127.0.0.7:81"] ∧
    ServerRun.ExclusiveAliases steps := by
  obtain ⟨steps, p, hrun, hwell, hspares, hkeys⟩ := ServerRun.exists_along
    (P := fun steps p => ServerRun.WellFormed steps ∧ (∀ x ∈ steps, x.2.SparesAliases x.1) ∧
      p.state.aliases.keys = ["127.0.0.0:80", "127.0.0.7:81"])
    exclusiveEvents (by decide +kernel)
  exact ⟨steps, p, hrun, hkeys, aliases_exclusive hrun hwell hspares⟩

/-! ## The defect -/

/-- The first client binds three aliases at the address of the second one and
shuts the second of them down in between; then the second client connects. -/
def overwritingEvents : List ServerEvent :=
  ServerRun.handling (.knock ⟨"127.0.0", ""⟩) 0 5 ++
  ServerRun.handling (.knock ⟨"127.0.0", ""⟩) 1 5 ++
  ServerRun.handling (.bind ⟨"127.0.0.0", "127.0.0.1:0"⟩) 0 3 ++
  ServerRun.handling (.accepting ⟨"127.0.0.0", "127.0.0.1:0"⟩) 0 1 ++
  ServerRun.handling (.bind ⟨"127.0.0.0", "127.0.0.1:1"⟩) 0 3 ++
  ServerRun.handling (.shutdown ⟨"127.0.0.0", "127.0.0.1:1"⟩) 0 5 ++
  ServerRun.handling (.bind ⟨"127.0.0.0", "127.0.0.1:2"⟩) 0 3 ++
  ServerRun.handling (.connect ⟨"127.0.0.1", "127.0.0.1:0", "u"⟩) 1 7

/-- An alias can be overwritten: the Shutdown drops the port of another alias
together with the member, and the connection is given that port. -/
theorem aliases_overwritten : ¬∀ steps p, ServerRun steps p → ServerRun.WellFormed steps →
    ServerRun.OwnIds steps → ServerRun.ExclusiveAliases steps := by
  intro h
  obtain ⟨steps, p, hrun, hwell, hown, x, hx, hstep, hremote, hhas⟩ := ServerRun.exists_along
    (P := fun steps _ => ServerRun.WellFormed steps ∧ ServerRun.OwnIds steps ∧
      ∃ x ∈ steps, x.2 = .resume (.connectCreated ⟨"127.0.0.1", "127.0.0.1:0", "u"⟩
        "127.0.0.1:0") ∧
        (x.1.state.aliases.get "127.0.0.1:0").any MAlias.accepting = true ∧
        x.1.state.aliases.has "127.0.0.1:0" = true)
    overwritingEvents (by decide +kernel)
  have hfree := (h steps p hrun hwell hown).connect x hx _ _ hstep hremote
  rw [hhas] at hfree
  cases hfree

end Unisockets.Signaling
