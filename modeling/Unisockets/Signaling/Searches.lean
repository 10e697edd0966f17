import Unisockets.Signaling.WellFormed

/-!
# Searches under the mutex

`createIPAddress` and `createTCPAddress` look for a free number, await a promise and only
then take the number.  They hold the mutex meanwhile, so that the registry is still what it
was when the handler goes on.  This holds in every run, whatever the messages carry:
`ServerRun.searches`.

`ServerTask.Resumes.registry` sorts the steps of the handlers by what they do with the mutex.
-/

namespace Unisockets.Signaling

open JsStd

namespace ServerTask

/-- The suffix or the port that a search has found is the one that it would find now. -/
def Current (s : Subnets) : ServerTask → Prop
  | .knockSearching data _ newSuffix =>
    s.has data.subnet = true ∧ newSuffix = s.nextSuffix data.subnet
  | .connectSearching data newPort =>
    (s.member (parseIPAddress data.id)).isSome = true ∧
      newPort = s.nextPort (parseIPAddress data.id)
  | _ => True

theorem current_of_not_searching {t : ServerTask} (h : t.searching = false) (s : Subnets) :
    t.Current s := by
  cases t with
  | knockSearching => cases h
  | connectSearching => cases h
  | _ => trivial

/-- A step leaves the registry and the mutex alone, starts a search or leaves a critical
section. -/
inductive Registry (s : Server) (t : ServerTask) (s' : Server) (next : List ServerTask) : Prop where
  | outside (ht : t.searching = false) (hsubnets : s'.subnets = s.subnets)
      (hmutex : s'.subnetsMutex = s.subnetsMutex)
      (hnext : ∀ t' ∈ next, t'.searching = false)
  | search (hwaits : t.waits = true) (t' : ServerTask) (hnext : next = [t'])
      (hsearching : t'.searching = true) (hmutex : s'.subnetsMutex = true)
      (hcurrent : t'.Current s'.subnets)
  | leave (hlock : t.waits = true ∨ t.searching = true) (hmutex : s'.subnetsMutex = false)
      (hnext : ∀ t' ∈ next, t'.searching = false)

theorem Resumes.registry {s s' : Server} {t : ServerTask} {next : List ServerTask}
    (h : Resumes s t s' next) : Registry s t s' next := by
  have hnil : ∀ t' ∈ ([] : List ServerTask), t'.searching = false :=
    fun t' ht' => absurd ht' List.not_mem_nil
  have hone : ∀ {t' : ServerTask}, t'.searching = false → ∀ t'' ∈ [t'], t''.searching = false :=
    fun ht' t'' ht'' => by rw [List.mem_singleton.mp ht'', ht']
  cases h with
  | searchSuffix data client =>
    exact .search rfl _ rfl rfl rfl ⟨Subnets.has_ensure _, rfl⟩
  | searchPort data m hm =>
    refine .search rfl _ rfl rfl rfl ⟨?_, rfl⟩
    rw [Subnets.member_sortPorts hm, if_pos rfl]
    rfl
  | fullSubnet | newMember | newPort => exact .leave (.inr rfl) rfl (hone rfl)
  | unclaimed | noMember => exact .leave (.inl rfl) rfl hnil
  | claimed | shutdownPort | shutdownAddress | rejecting | goodbyeAddress | releaseAddress
  | releasePort => exact .leave (.inl rfl) rfl (hone rfl)
  | swept id outbox =>
    refine .outside rfl rfl rfl fun t' ht' => ?_
    obtain ⟨tcpAddress, -, rfl⟩ := List.mem_map.mp ht'
    rfl
  | answered | overflow | addressRemoved | rejected | lost | serverAccepted | releasedPort
  | accepting | register | bound | orphaned => exact .outside rfl rfl rfl hnil
  | _ => exact .outside rfl rfl rfl (hone rfl)

end ServerTask

/-- One search runs while the mutex is up, none while it is down. -/
structure Searches (s : Server) (l : List ServerTask) : Prop where
  mutex : l.countP ServerTask.searching = if s.subnetsMutex then 1 else 0
  current : ∀ t ∈ l, t.Current s.subnets

namespace Searches

open ServerTask

variable {s s' : Server} {t : ServerTask} {l next : List ServerTask}

theorem perm {l' : List ServerTask} (hl : l.Perm l') (h : Searches s l) : Searches s l' where
  mutex := hl.countP_eq _ ▸ h.mutex
  current t ht := h.current t (hl.mem_iff.mpr ht)

/-- Tasks that are no searches come in front. -/
theorem append (h : Searches s l) (hsubnets : s'.subnets = s.subnets)
    (hmutex : s'.subnetsMutex = s.subnetsMutex) (hnext : ∀ t ∈ next, t.searching = false) :
    Searches s' (next ++ l) where
  mutex := by
    have hzero : next.countP searching = 0 :=
      List.countP_eq_zero.mpr fun t ht => by simp [hnext t ht]
    rw [List.countP_append, hzero, Nat.zero_add, hmutex]
    exact h.mutex
  current t ht := by
    rcases List.mem_append.mp ht with ht | ht
    · exact current_of_not_searching (hnext t ht) _
    · exact hsubnets ▸ h.current t ht

theorem alone (h : Searches s (t :: l)) (hready : t.ready s = true)
    (hlock : t.waits = true ∨ t.searching = true) : l.countP searching = 0 :=
  ServerTask.alone h.mutex hready hlock

theorem resume (h : Searches s (t :: l)) (hready : t.ready s = true)
    (hstep : Resumes s t s' next) : Searches s' (next ++ l) := by
  have hrest : l.countP searching = 0 → ∀ t' ∈ l, t'.Current s'.subnets :=
    fun hzero t' ht' => current_of_not_searching
      (Bool.eq_false_of_not_eq_true (List.countP_eq_zero.mp hzero t' ht')) _
  cases hstep.registry with
  | outside ht hsubnets hmutex hnext =>
    have htail : Searches s l := by
      refine ⟨?_, fun t' ht' => h.current t' (List.mem_cons_of_mem _ ht')⟩
      have hcount := h.mutex
      rwa [List.countP_cons, ht, if_neg Bool.false_ne_true, Nat.add_zero] at hcount
    exact htail.append hsubnets hmutex hnext
  | search hwaits t' hnext hsearching hmutex hcurrent =>
    have hzero := h.alone hready (.inl hwaits)
    subst hnext
    constructor
    · rw [List.countP_append, hzero, List.countP_singleton, hsearching, hmutex]
      simp
    · intro t'' ht''
      rcases List.mem_append.mp ht'' with ht'' | ht''
      · rw [List.mem_singleton.mp ht'']
        exact hcurrent
      · exact hrest hzero t'' ht''
  | leave hlock hmutex hnext =>
    have hzero := h.alone hready hlock
    have htail : Searches { s' with subnetsMutex := false } l := by
      refine ⟨?_, hrest hzero⟩
      rw [hzero]
      rfl
    exact htail.append rfl hmutex hnext

theorem init : Searches {} [] := ⟨rfl, fun _ ht => absurd ht List.not_mem_nil⟩

theorem message (h : Searches s l) (operation : Operation) (client : Socket) :
    Searches s (.received operation client :: l) := by
  show Searches s ([.received operation client] ++ l)
  refine h.append rfl rfl fun t ht => ?_
  rw [List.mem_singleton.mp ht]
  rfl

theorem close (h : Searches s l) (client : Socket) :
    Searches (s.closed client) ((s.closing client).map .goodbyeAddress ++ l) := by
  refine h.append rfl rfl fun t ht => ?_
  obtain ⟨id, -, rfl⟩ := List.mem_map.mp ht
  rfl

end Searches

/-- In every run, a search has found what it would find now. -/
theorem ServerRun.searches {steps : List (ServerPool × ServerStep)} {p : ServerPool}
    (hrun : ServerRun steps p) : Searches p.state p.tasks := by
  refine hrun.invariant (I := Searches) (fun _ _ => (trivial : True))
    (fun s l l' hl h => h.perm hl) .init ?_ ?_ ?_
  · exact fun s l operation client h _ => h.message operation client
  · exact fun s l client h _ => h.close client
  · intro s l t rest s' next _ h hready _ hstep
    exact h.resume hready hstep

end Unisockets.Signaling
