import Unisockets.Signaling.RejectedConnect
import Unisockets.Signaling.Removal
import Unisockets.Signaling.Suffixes

/-!
# Ids that lead back to their member

`createIPAddress` stores a member under its subnet and suffix and returns the two as one
text.  A Connect and the disconnect of the client start from this text and take it apart at
the first three dots.  `issued_id_resolves` says when they get back to the member: when the
subnet has three parts.  A Knock may carry any other text.
-/

namespace Unisockets.Signaling

open JsStd Async

/-! ## What a disconnect frees -/

/-- An address that a disconnect passes to `removeIPAddress` besides that of `id`: the other
ids of the socket, and the aliases that it owns. -/
def Server.FreesWith (s : Server) (client : Socket) (id : String) (key : IPAddress) : Prop :=
  (∃ other ∈ s.closing client, other ≠ id ∧ parseIPAddress other = key) ∨
    ∃ a, s.Owns client a ∧ parseIPAddress a = key

/-- The handlers of a disconnect, at every point, whatever the aliases look like. -/
structure Freeing (s : Server) (client : Socket) (id : String) (s' : Server)
    (l : List ServerTask) : Prop where
  tasks : ∀ t ∈ l, t.OfDisconnect s client
  old : ∀ {a entry}, s'.aliases.get a = some entry → s.aliases.get a = some entry
  freed : s'.subnets.member (parseIPAddress id) = none ∨ .goodbyeAddress id ∈ l
  kept : ∀ {key}, key ≠ parseIPAddress id → ¬s.FreesWith client id key →
    (s'.subnets.member key).isSome = (s.subnets.member key).isSome

namespace Freeing

open ServerTask

variable {s s' s'' : Server} {client : Socket} {id : String} {t : ServerTask}
  {l next : List ServerTask}

theorem perm {l' : List ServerTask} (hl : l.Perm l') (h : Freeing s client id s' l) :
    Freeing s client id s' l' where
  tasks t ht := h.tasks t (hl.mem_iff.mpr ht)
  old := h.old
  freed := h.freed.imp_right hl.mem_iff.mp
  kept := h.kept

theorem close (hid : id ∈ s.closing client) :
    Freeing s client id (s.closed client) ((s.closing client).map .goodbyeAddress) where
  tasks t ht := by
    obtain ⟨other, hother, rfl⟩ := List.mem_map.mp ht
    exact hother
  old hget := hget
  freed := .inr (List.mem_map_of_mem hid)
  kept _ _ := rfl

/-- A step drops the member at the address it removes, if any, and no other. -/
theorem step (h : Freeing s client id s' (t :: l)) (hnext : ∀ t ∈ next, t.OfDisconnect s client)
    (hold : ∀ {a entry}, s''.aliases.get a = some entry → s'.aliases.get a = some entry)
    (hmember : ∀ key, (s''.subnets.member key).isSome = true ↔
      (s'.subnets.member key).isSome = true ∧ t.removedAddress.map parseIPAddress ≠ some key)
    (hfrees : ∀ a, t.removedAddress = some a → a = id ∨ s.FreesWith client id (parseIPAddress a)) :
    Freeing s client id s'' (next ++ l) where
  tasks t' ht' := by
    rcases List.mem_append.mp ht' with ht' | ht'
    · exact hnext t' ht'
    · exact h.tasks t' (List.mem_cons_of_mem _ ht')
  old hget := h.old (hold hget)
  freed := by
    rw [← Option.not_isSome_iff_eq_none, hmember]
    rcases h.freed with hnone | hmem
    · left
      simp [hnone]
    · rcases List.mem_cons.mp hmem with rfl | hmem
      · exact .inl fun hsome => hsome.2 rfl
      · exact .inr (List.mem_append_right _ hmem)
  kept {key} hne hnot := by
    rw [← h.kept hne hnot, Bool.eq_iff_iff, hmember]
    refine and_iff_left fun hremoved => ?_
    obtain ⟨a, ha, hkey⟩ := Option.map_eq_some_iff.mp hremoved
    rcases hfrees a ha with rfl | hfrees
    · exact hne hkey.symm
    · exact hnot (hkey ▸ hfrees)

theorem resume (h : Freeing s client id s' (t :: l)) (hstep : Resumes s' t s'' next) :
    Freeing s client id s'' (next ++ l) := by
  have ht := h.tasks t List.mem_cons_self
  have hremove : ∀ (a : String) (key : IPAddress),
      ((s'.subnets.removeIPAddress a).member key).isSome = true ↔
        (s'.subnets.member key).isSome = true ∧ some (parseIPAddress a) ≠ some key := by
    intro a key
    rw [Subnets.isSome_member_removeIPAddress, ne_comm, Ne, Ne, Option.some.injEq]
  cases hstep with
  | goodbyeAddress other =>
    refine h.step (List.forall_mem_singleton.mpr ht) (fun hget => hget) (hremove other) ?_
    rintro a ⟨⟩
    by_cases hid : other = id
    · exact .inl hid
    · exact .inr (.inl ⟨other, ht, hid, rfl⟩)
  | swept other outbox =>
    refine h.step ?_ (fun hget => (Map.get_filter_eq_some_iff.mp hget).1) (fun key => ?_) ?_
    · intro t' ht'
      obtain ⟨a, ha, rfl⟩ := List.mem_map.mp ht'
      obtain ⟨entry, hentry, rfl⟩ := List.mem_map.mp ha
      obtain ⟨hmem, hother⟩ := List.mem_filter.mp hentry
      refine ⟨entry.2, h.old (Map.mem_entries_iff.mp hmem), ?_⟩
      rw [of_decide_eq_true hother]
      exact ht
    · simp [removedAddress, Server.sweep]
    · simp [removedAddress]
  | releaseAddress other a =>
    refine h.step (List.forall_mem_singleton.mpr ht) (fun hget => hget) (hremove a) ?_
    rintro a' ⟨⟩
    exact .inr (.inr ⟨a, ht, rfl⟩)
  | releasedAddress other a =>
    refine h.step (List.forall_mem_singleton.mpr ht) (fun hget => hget) (fun key => ?_) ?_
    · simp [removedAddress]
    · simp [removedAddress]
  | releasePort other a =>
    refine h.step (List.forall_mem_singleton.mpr ht) (fun hget => hget) (fun key => ?_) ?_
    · show ((s'.subnets.removeTCPAddress a).member key).isSome = true ↔ _
      rw [Subnets.isSome_member_removeTCPAddress]
      simp [removedAddress]
    · simp [removedAddress]
  | releasedPort other a outbox =>
    refine h.step (fun t ht => absurd ht List.not_mem_nil) (fun hget => hget) (fun key => ?_) ?_
    · simp [removedAddress]
    · simp [removedAddress]
  | _ => exact ht.elim

end Freeing

/-- A disconnect frees the member of each id of the socket, and no other but those of the
aliases it owns. -/
theorem disconnect_frees {s : Server} {client : Socket} {id : String} {p' : ServerPool}
    (hid : id ∈ s.closing client)
    (h : ServerPool.Settles (ServerPool.close ⟨s, []⟩ client) p') :
    p'.state.subnets.member (parseIPAddress id) = none ∧
      ∀ key, key ≠ parseIPAddress id → ¬s.FreesWith client id key →
        (p'.state.subnets.member key).isSome = (s.subnets.member key).isSome := by
  have hdone : Freeing s client id p'.state [] :=
    h.invariant (.close hid) (fun _ _ _ hl hf => hf.perm hl)
      fun _ _ _ _ _ hf _ hstep => hf.resume hstep
  exact ⟨hdone.freed.resolve_right List.not_mem_nil, fun _ => hdone.kept⟩

/-! ## Where an id leads -/

/-- An id leads to the member at `key`: a Connect with it allocates a port there, and the
disconnect of the client that has it frees the member. -/
structure Resolves (id : String) (key : IPAddress) : Prop where
  parse : parseIPAddress id = key
  connect : ∀ (s : Server) (m : MMember), s.subnetsMutex = false →
    s.subnets.member key = some m → (Server.createTCPAddress id).alone s =
      some ({ s with subnets := s.subnets.addPort key }, .ok (s.subnets.newAlias key))
  disconnect : ∀ (s : Server) (client : Socket) (p' : ServerPool), id ∈ s.closing client →
    ServerPool.Settles (ServerPool.close ⟨s, []⟩ client) p' →
      p'.state.subnets.member key = none ∧
        ∀ k, k ≠ key → ¬s.FreesWith client id k →
          (p'.state.subnets.member k).isSome = (s.subnets.member k).isSome

/-- An id that is parsed to its key leads to the member there. -/
theorem resolves_of_parse {id : String} {key : IPAddress} (h : parseIPAddress id = key) :
    Resolves id key where
  parse := h
  connect s m hmutex hm := by
    subst h
    exact Server.createTCPAddress_alone hmutex hm
  disconnect s client p' hid hsettles := by
    subst h
    exact disconnect_frees hid hsettles

/-- An id that is issued is that of a new member. -/
theorem Server.createIPAddress_issued {s s' : Server} {subnet id : String}
    (hcall : (createIPAddress subnet).alone s = some (s', .ok id)) (hissued : id ≠ "-1") :
    id = toIPAddress subnet (s.subnets.nextSuffix subnet) ∧
      s'.subnets.member ⟨subnet, s.subnets.nextSuffix subnet⟩ = some ⟨[]⟩ := by
  have hfree : s.subnetsMutex = false := by
    by_contra hlocked
    have hnone : (createIPAddress subnet).alone s = none := by
      show (if !s.subnetsMutex then _ else none) = _
      rw [Bool.eq_true_of_not_eq_false hlocked]
      rfl
    rw [hnone] at hcall
    cases hcall
  rw [createIPAddress_alone subnet hfree] at hcall
  split_ifs at hcall with hfull
  · cases hcall
    exact absurd rfl hissued
  · cases hcall
    refine ⟨rfl, ?_⟩
    show (s.subnets.addMember subnet).member _ = _
    rw [Subnets.addMember, Subnets.member_setMember (Subnets.has_ensure subnet), if_pos rfl]

/-- The id that a Knock gets leads back to its member when the subnet has three parts, and
only then. -/
theorem issued_id_resolves {s s' : Server} {subnet id : String}
    (hcall : (Server.createIPAddress subnet).alone s = some (s', .ok id)) (hissued : id ≠ "-1") :
    ∃ n : Nat, id = toIPAddress subnet n ∧ s'.subnets.member ⟨subnet, n⟩ = some ⟨[]⟩ ∧
      (Resolves id ⟨subnet, n⟩ ↔ (split subnet '.').length = 3) := by
  obtain ⟨hid, hmember⟩ := Server.createIPAddress_issued hcall hissued
  refine ⟨s.subnets.nextSuffix subnet, hid, hmember, ?_⟩
  rw [← parseIPAddress_toIPAddress_iff, ← hid]
  constructor
  · exact Resolves.parse
  · exact resolves_of_parse

/-- The registry with the first client of a subnet. -/
private def firstMember (subnet : String) : Server :=
  { subnets := (({} : Server).subnets.ensure subnet).setMember ⟨subnet, .int 0⟩ ⟨[]⟩ }

private theorem createIPAddress_first (subnet : String) :
    (Server.createIPAddress subnet).alone {} =
      some (firstMember subnet, .ok (toIPAddress subnet (.int 0))) := by
  have hzero : ({} : Server).subnets.nextSuffix subnet = 0 := by
    show firstGap (sortNumbers []) = 0
    rw [sortNumbers, List.mergeSort_nil]
    rfl
  rw [Server.createIPAddress_alone subnet rfl, Subnets.addMember, hzero]
  rfl

theorem issued_id_resolves_first :
    ∃ n : Nat, "127.0.0.0" = toIPAddress "127.0.0" n ∧ Resolves "127.0.0.0" ⟨"127.0.0", n⟩ := by
  obtain ⟨n, hid, -, hresolves⟩ := issued_id_resolves (createIPAddress_first "127.0.0") (by decide)
  exact ⟨n, hid, hresolves.mpr (by decide)⟩

/-- A client binds an alias in the subnet of another one and goes. -/
def foreignAliasEvents : List ServerEvent :=
  ServerRun.handling (.knock ⟨"127.0.0", ""⟩) 0 5 ++
  ServerRun.handling (.knock ⟨"10.0.0", ""⟩) 1 5 ++
  ServerRun.handling (.bind ⟨"127.0.0.0", "10.0.0.5:80"⟩) 0 3 ++
  ServerRun.closing 0 6

/-- A Knock for a subnet of two parts is acknowledged with an id that leads nowhere: the
Connect with it throws, and the disconnect leaves the member where it is.  And with the
member of its id, a client frees those of its aliases, which may be in another subnet. -/
theorem issued_id_unresolved :
    (∃ s' : Server, (Server.createIPAddress "10.0").alone {} = some (s', .ok "10.0.0") ∧
      s'.subnets.member ⟨"10.0", .int 0⟩ = some ⟨[]⟩ ∧
      parseIPAddress "10.0.0" ≠ ⟨"10.0", .int 0⟩ ∧
      (Server.createTCPAddress "10.0.0").alone s' =
        some (s', .error .SubnetDoesNotExistError) ∧
      (Server.removeIPAddress "10.0.0").alone s' = some (s', .ok ())) ∧
    ∃ steps p, ServerRun steps p ∧
      (∃ x ∈ steps, x.2 = .close 0 ∧ x.1.tasks = [] ∧ x.1.state.closing 0 = ["127.0.0.0"] ∧
        (x.1.state.subnets.member ⟨"10.0.0", .int 5⟩).isSome = true) ∧
      p.tasks = [] ∧ p.state.subnets.member ⟨"10.0.0", .int 5⟩ = none := by
  constructor
  · refine ⟨_, createIPAddress_first "10.0", ?_, ?_, ?_, ?_⟩
    · rfl
    · decide
    · rfl
    · rfl
  · exact ServerRun.exists_along foreignAliasEvents (by decide +kernel)

end Unisockets.Signaling
