import Unisockets.Signaling.Registry

/-!
# How ports are allocated

Any number of calls of the five functions on the registry, at well-formed addresses with
numbers below `2 ^ 53` and in any order.  A search holds the mutex until it has taken its
number, so that the number is still free then (`Sound`); the ports of a member stay distinct.

A port that a call has taken stays taken until a call removes it or its member
(`RegistryTask.lost`), and while it is taken no other call gets it.
-/

namespace Unisockets.Signaling

open JsStd Transition

/-! ## The invariant -/

namespace RegistryTask

/-- What a search has found is free. -/
def Found (s : Subnets) : RegistryTask → Prop
  | .acquiring _ => True
  | .suffixFound subnet newSuffix =>
    s.has subnet = true ∧ s.member ⟨subnet, newSuffix⟩ = none
  | .portFound ipAddress newPort =>
    (s.member (parseIPAddress ipAddress)).isSome = true ∧
      newPort = s.nextPort (parseIPAddress ipAddress)

theorem found_of_not_holds {t : RegistryTask} (h : t.holds = false) (s : Subnets) :
    t.Found s := by
  cases t with
  | acquiring => trivial
  | suffixFound | portFound => cases h

end RegistryTask

/-- The call of a step is well formed. -/
def RegistryStep.WellFormed : RegistryStep → Prop
  | .call c => c.WellFormed
  | .resume _ => True

instance : DecidablePred RegistryStep.WellFormed
  | .call c => inferInstanceAs (Decidable c.WellFormed)
  | .resume _ => isTrue trivial

namespace Registry

open RegistryTask

/-- What holds of the registry and the calls in every run. -/
structure Sound (s : Server) (l : List RegistryTask) : Prop where
  mutex : l.countP holds = if s.subnetsMutex then 1 else 0
  subnets : s.subnets.WellFormed
  calls : ∀ t ∈ l, t.call.WellFormed
  found : ∀ t ∈ l, t.Found s.subnets

namespace Sound

variable {s : Server} {t : RegistryTask} {l : List RegistryTask}

theorem perm {l' : List RegistryTask} (hl : l.Perm l') (h : Sound s l) : Sound s l' where
  mutex := hl.countP_eq _ ▸ h.mutex
  subnets := h.subnets
  calls t ht := h.calls t (hl.mem_iff.mpr ht)
  found t ht := h.found t (hl.mem_iff.mpr ht)

theorem acquiring (h : Sound s l) {c : RegistryCall} (hc : c.WellFormed) :
    Sound s (.acquiring c :: l) where
  mutex := h.mutex
  subnets := h.subnets
  calls t ht := by
    rcases List.mem_cons.mp ht with rfl | ht
    · exact hc
    · exact h.calls t ht
  found t ht := by
    rcases List.mem_cons.mp ht with rfl | ht
    · trivial
    · exact h.found t ht

/-- A task that can be resumed is alone with the registry. -/
theorem alone (h : Sound s (t :: l)) (hready : t.ready s = true) : l.countP holds = 0 := by
  have hcount := h.mutex
  rw [List.countP_cons] at hcount
  cases hholds : t.holds with
  | false =>
    rw [ready, hholds, Bool.false_or, Bool.not_eq_true'] at hready
    rw [hready, if_neg Bool.false_ne_true] at hcount
    omega
  | true =>
    rw [hholds, if_pos rfl] at hcount
    split_ifs at hcount
    omega

/-- A search starts. -/
theorem search (h : Sound s (t :: l)) (hready : t.ready s = true) {subnets : Subnets}
    (hsubnets : subnets.WellFormed) {t' : RegistryTask} (hholds : t'.holds = true)
    (hcall : t'.call = t.call) (hfound : t'.Found subnets) :
    Sound { s with subnets := subnets, subnetsMutex := true } (t' :: l) where
  mutex := by
    rw [List.countP_cons, h.alone hready, hholds]
    simp
  subnets := hsubnets
  calls t'' ht'' := by
    rcases List.mem_cons.mp ht'' with rfl | ht''
    · rw [hcall]
      exact h.calls t List.mem_cons_self
    · exact h.calls t'' (List.mem_cons_of_mem _ ht'')
  found t'' ht'' := by
    rcases List.mem_cons.mp ht'' with rfl | ht''
    · exact hfound
    · have hnone := List.countP_eq_zero.mp (h.alone hready) t'' ht''
      exact found_of_not_holds (Bool.eq_false_of_not_eq_true hnone) _

/-- A call ends and leaves the mutex. -/
theorem leave (h : Sound s (t :: l)) (hready : t.ready s = true) {subnets : Subnets}
    (hsubnets : subnets.WellFormed) : Sound (s.locked subnets) l where
  mutex := h.alone hready
  subnets := hsubnets
  calls t' ht' := h.calls t' (List.mem_cons_of_mem _ ht')
  found t' ht' := by
    have hnone := List.countP_eq_zero.mp (h.alone hready) t' ht'
    exact found_of_not_holds (Bool.eq_false_of_not_eq_true hnone) _

theorem enter {c : RegistryCall} (h : Sound s (.acquiring c :: l))
    (hready : (RegistryTask.acquiring c).ready s = true) :
    Sound (c.enter s).1 ((c.enter s).2.tasks ++ l) := by
  have hc : c.WellFormed := h.calls _ List.mem_cons_self
  cases c with
  | createIPAddress subnet =>
    have hnew : (s.subnets.ensure subnet).WellFormed := h.subnets.ensure hc
    exact h.search hready hnew rfl rfl ⟨Subnets.has_ensure subnet, hnew.member_nextSuffix subnet⟩
  | createTCPAddress ipAddress =>
    simp only [RegistryCall.enter]
    split_ifs with hm
    · obtain ⟨m, hm⟩ := Option.isSome_iff_exists.mp hm
      refine h.search hready (h.subnets.sortPorts hm) rfl rfl ⟨?_, rfl⟩
      rw [Subnets.member_sortPorts hm, if_pos rfl]
      rfl
    · exact h.leave hready h.subnets
    · exact h.leave hready h.subnets
  | claimTCPAddress tcpAddress =>
    simp only [RegistryCall.enter]
    cases hclaim : s.subnets.claim tcpAddress with
    | ok subnets => exact h.leave hready (h.subnets.claim hc.1 hclaim)
    | error e => exact h.leave hready h.subnets
  | removeIPAddress ipAddress => exact h.leave hready (h.subnets.removeIPAddress ipAddress)
  | removeTCPAddress tcpAddress => exact h.leave hready (h.subnets.removeTCPAddress tcpAddress)

theorem resume (h : Sound s (t :: l)) (hready : t.ready s = true) :
    Sound (t.resume s).1 ((t.resume s).2.tasks ++ l) := by
  have hfound := h.found t List.mem_cons_self
  cases t with
  | acquiring c => exact h.enter hready
  | suffixFound subnet newSuffix =>
    simp only [RegistryTask.resume]
    split_ifs with hfull
    · exact h.leave hready h.subnets
    · refine h.leave hready (h.subnets.setMember hfound.1 ⟨_, rfl⟩ ?_ List.nodup_nil)
      exact fun x hx => absurd hx List.not_mem_nil
  | portFound ipAddress newPort =>
    obtain ⟨m, hm⟩ := Option.isSome_iff_exists.mp hfound.1
    have hfree := h.subnets.nextPort_not_mem (parseIPAddress ipAddress)
    rw [← hfound.2] at hfree
    exact h.leave hready
      (h.subnets.pushPort (Subnets.has_of_member hm) (h.subnets.suffix hm) hfree)

end Sound

end Registry

namespace RegistryRun

variable {steps : List (Registry × RegistryStep)} {p : Registry}

theorem sound (hrun : RegistryRun steps p) (hcalls : ∀ x ∈ steps, x.2.WellFormed) :
    Registry.Sound p.state p.tasks := by
  refine Run.invariant (I := fun p : Registry => Registry.Sound p.state p.tasks) hrun hcalls ?_ ?_
  · intro p ⟨hsubnets, hmutex, htasks⟩
    rw [htasks]
    refine ⟨?_, hsubnets, fun t ht => absurd ht List.not_mem_nil,
      fun t ht => absurd ht List.not_mem_nil⟩
    rw [hmutex]
    rfl
  · intro p a p' h ha hstep
    cases a with
    | call c =>
      cases hstep
      exact (h.acquiring ha).perm (List.perm_append_singleton _ _).symm
    | resume t =>
      obtain ⟨rest, hperm, hready, rfl⟩ := hstep.resumed
      exact ((h.perm hperm).resume hready).perm List.perm_append_comm

end RegistryRun

/-! ## What a run says about a port -/

namespace RegistryRun

/-- In a step, the call `c` returns or throws. -/
def Ends (x : Registry × RegistryStep) (c : RegistryCall) (result : RegistryResult) : Prop :=
  ∃ t, x.2 = .resume t ∧ t.call = c ∧ (t.resume x.1.state).2 = .returned result

/-- A call succeeds with an alias. -/
def Obtains (x : Registry × RegistryStep) (tcpAddress : String) : Prop :=
  (∃ ipAddress, Ends x (.createTCPAddress ipAddress) (.ok (some tcpAddress))) ∨
    Ends x (.claimTCPAddress tcpAddress) (.ok none)

/-- The port of an alias, which is taken, is removed or its member is. -/
def Releases (x : Registry × RegistryStep) (tcpAddress : String) : Prop :=
  portOf tcpAddress ∈ x.1.state.subnets.ports (ipAddressOf tcpAddress) ∧
    (x.2 = .resume (.acquiring (.removeTCPAddress tcpAddress)) ∨
      ∃ ipAddress, x.2 = .resume (.acquiring (.removeIPAddress ipAddress)) ∧
        parseIPAddress ipAddress = ipAddressOf tcpAddress)

end RegistryRun

/-! ## Steps and ports -/

namespace Subnets

variable {s s' : Subnets}

/-- The port of a claim that succeeds is taken from then on. -/
theorem mem_ports_of_claim {tcpAddress : String} (h : s.claim tcpAddress = .ok s') :
    portOf tcpAddress ∈ s'.ports (ipAddressOf tcpAddress) := by
  obtain ⟨hhas, -, rfl⟩ := claim_eq_ok h
  exact (mem_ports_pushPort hhas).mpr (.inr ⟨rfl, rfl⟩)

/-- A claim succeeds in a subnet that exists, at a port that is not taken. -/
theorem claim_ok_iff {tcpAddress : String} (ha : IsAlias tcpAddress) :
    (∃ s', s.claim tcpAddress = .ok s') ↔
      s.has (ipAddressOf tcpAddress).subnet = true ∧
        portOf tcpAddress ∉ s.ports (ipAddressOf tcpAddress) := by
  obtain ⟨n, hn⟩ := ha.natural_port
  constructor
  · rintro ⟨s', h⟩
    obtain ⟨hhas, -, -⟩ := claim_eq_ok h
    refine ⟨hhas, ?_⟩
    rw [hn]
    exact not_mem_ports_of_claim h hn
  · intro ⟨hhas, hfree⟩
    refine ⟨s.pushPort (ipAddressOf tcpAddress) (portOf tcpAddress), ?_⟩
    rw [claim, if_pos hhas, if_neg]
    rw [Bool.not_eq_true, List.any_eq_false]
    intro port hport hequal
    exact hfree (Number.eq_of_strictEq hequal ▸ hport)

end Subnets

namespace RegistryTask

variable {s : Server} {t : RegistryTask}

/-- A port is lost when it is removed or its member is. -/
theorem lost (hcall : t.call.WellFormed) (hfound : t.Found s.subnets) {tcpAddress : String}
    (ha : IsAlias tcpAddress)
    (hmem : portOf tcpAddress ∈ s.subnets.ports (ipAddressOf tcpAddress))
    (hlost : portOf tcpAddress ∉ (t.resume s).1.subnets.ports (ipAddressOf tcpAddress)) :
    t = .acquiring (.removeTCPAddress tcpAddress) ∨
      ∃ ipAddress, t = .acquiring (.removeIPAddress ipAddress) ∧
        parseIPAddress ipAddress = ipAddressOf tcpAddress := by
  cases t with
  | acquiring c =>
    cases c with
    | createIPAddress subnet =>
      refine absurd ?_ hlost
      show _ ∈ (s.subnets.ensure subnet).ports _
      rwa [Subnets.ports_ensure]
    | createTCPAddress ipAddress =>
      refine absurd ?_ hlost
      simp only [resume, RegistryCall.enter]
      split_ifs with hm
      · obtain ⟨m, hm⟩ := Option.isSome_iff_exists.mp hm
        exact (Subnets.mem_ports_sortPorts hm).mpr hmem
      · exact hmem
      · exact hmem
    | claimTCPAddress claimed =>
      refine absurd ?_ hlost
      simp only [resume, RegistryCall.enter]
      cases hclaim : s.subnets.claim claimed with
      | ok subnets =>
        obtain ⟨hhas, -, rfl⟩ := Subnets.claim_eq_ok hclaim
        exact (Subnets.mem_ports_pushPort hhas).mpr (.inl hmem)
      | error e => exact hmem
    | removeIPAddress ipAddress =>
      by_cases hkey : ipAddressOf tcpAddress = parseIPAddress ipAddress
      · exact .inr ⟨ipAddress, rfl, hkey.symm⟩
      · exact absurd (Subnets.mem_ports_removeIPAddress.mpr ⟨hmem, hkey⟩) hlost
    | removeTCPAddress removed =>
      by_cases hsame : ipAddressOf removed = ipAddressOf tcpAddress ∧
          portOf removed = portOf tcpAddress
      · rw [IsAlias.ext hcall.1 ha hsame.1 hsame.2]
        exact .inl rfl
      · exact absurd ((Subnets.mem_ports_removeTCPAddress hcall.1).mpr ⟨hmem, hsame⟩) hlost
  | suffixFound subnet newSuffix =>
    refine absurd ?_ hlost
    simp only [resume]
    split_ifs with hfull
    · exact hmem
    · show _ ∈ (s.subnets.setMember ⟨subnet, newSuffix⟩ ⟨[]⟩).ports _
      rw [Subnets.ports_setMember hfound.1, if_neg]
      · exact hmem
      · intro hkey
        rw [hkey, Subnets.ports_of_member_none hfound.2] at hmem
        cases hmem
  | portFound ipAddress newPort =>
    refine absurd ?_ hlost
    obtain ⟨m, hm⟩ := Option.isSome_iff_exists.mp hfound.1
    exact (Subnets.mem_ports_pushPort (Subnets.has_of_member hm)).mpr (.inl hmem)

end RegistryTask

namespace RegistryRun

variable {steps : List (Registry × RegistryStep)} {p : Registry} {x : Registry × RegistryStep}

/-- A call of `createTCPAddress` ends well when it takes the port that it has found. -/
theorem Ends.portFound {ipAddress : String} {text : Option String}
    (h : Ends x (.createTCPAddress ipAddress) (.ok text)) : ∃ newPort,
      x.2 = .resume (.portFound ipAddress newPort) ∧
        text = some (toTCPAddress (toIPAddress (parseIPAddress ipAddress).subnet
          (parseIPAddress ipAddress).suffix) newPort) := by
  obtain ⟨t, hx, hcall, hresume⟩ := h
  cases t with
  | acquiring c =>
    subst hcall
    simp only [RegistryTask.resume, RegistryCall.enter] at hresume
    split_ifs at hresume <;> cases hresume
  | suffixFound subnet newSuffix => cases hcall
  | portFound ipAddress' newPort =>
    cases hcall
    cases hresume
    exact ⟨newPort, hx, rfl⟩

/-- A call of `claimTCPAddress` ends in its critical section. -/
theorem Ends.claiming {tcpAddress : String} {result : RegistryResult}
    (h : Ends x (.claimTCPAddress tcpAddress) result) :
    x.2 = .resume (.acquiring (.claimTCPAddress tcpAddress)) ∧
      ((∃ subnets, x.1.state.subnets.claim tcpAddress = .ok subnets ∧ result = .ok none) ∨
        ∃ e, x.1.state.subnets.claim tcpAddress = .error e ∧ result = .error e) := by
  obtain ⟨t, hx, hcall, hresume⟩ := h
  cases t with
  | acquiring c =>
    subst hcall
    refine ⟨hx, ?_⟩
    simp only [RegistryTask.resume, RegistryCall.enter] at hresume
    cases hclaim : x.1.state.subnets.claim tcpAddress with
    | ok subnets =>
      rw [hclaim] at hresume
      cases hresume
      exact .inl ⟨subnets, rfl, rfl⟩
    | error e =>
      rw [hclaim] at hresume
      cases hresume
      exact .inr ⟨e, rfl, rfl⟩
  | suffixFound subnet newSuffix => cases hcall
  | portFound ipAddress newPort => cases hcall

/-- The state in which a task of a run is resumed. -/
theorem sound_of_mem (hrun : RegistryRun steps p) (hcalls : ∀ x ∈ steps, x.2.WellFormed)
    (hx : x ∈ steps) {t : RegistryTask} (ht : x.2 = .resume t) :
    ∃ rest, Registry.Sound x.1.state (t :: rest) ∧ t.ready x.1.state = true := by
  obtain ⟨before, s', hsub, hbefore, hstep⟩ := Run.of_mem hrun hx
  rw [ht] at hstep
  obtain ⟨rest, hperm, hready, -⟩ := hstep.resumed
  exact ⟨rest, (sound hbefore fun y hy => hcalls y (hsub hy)).perm hperm, hready⟩

/-- The alias that `createTCPAddress` prints. -/
theorem created {ipAddress tcpAddress : String} {n : Nat}
    (hcall : (RegistryCall.createTCPAddress ipAddress).WellFormed)
    (h : tcpAddress = toTCPAddress (toIPAddress (parseIPAddress ipAddress).subnet
      (parseIPAddress ipAddress).suffix) n) :
    IsAlias tcpAddress ∧ ipAddressOf tcpAddress = parseIPAddress ipAddress ∧
      portOf tcpAddress = n ∧ tcpAddress = toTCPAddress ipAddress n := by
  obtain ⟨ha, -⟩ := hcall
  rw [← ha.eq_toIPAddress] at h
  obtain ⟨subnet, suffix, hsubnet, rfl⟩ := ha
  subst h
  refine ⟨⟨subnet, suffix, n, hsubnet, rfl⟩, ?_, portOf_toTCPAddress hsubnet suffix n, rfl⟩
  rw [ipAddressOf_toTCPAddress hsubnet, parseIPAddress_toIPAddress hsubnet]

/-- A call that succeeds gets a port that is free, and takes it. -/
theorem Obtains.taken (hrun : RegistryRun steps p) (hcalls : ∀ x ∈ steps, x.2.WellFormed)
    (hx : x ∈ steps) {tcpAddress : String} (h : Obtains x tcpAddress) :
    IsAlias tcpAddress ∧
      portOf tcpAddress ∉ x.1.state.subnets.ports (ipAddressOf tcpAddress) ∧
      ∀ p', Registry.Step x.1 x.2 p' →
        portOf tcpAddress ∈ p'.state.subnets.ports (ipAddressOf tcpAddress) := by
  rcases h with ⟨ipAddress, h⟩ | h
  · obtain ⟨newPort, ht, he⟩ := h.portFound
    obtain ⟨rest, hsound, -⟩ := sound_of_mem hrun hcalls hx ht
    have hfound := hsound.found _ List.mem_cons_self
    obtain ⟨halias, hkey, hport, -⟩ :=
      created (hsound.calls _ List.mem_cons_self) (Option.some.inj he)
    rw [hkey, hport]
    refine ⟨halias, ?_, fun p' hstep => ?_⟩
    · rw [hfound.2]
      exact hsound.subnets.nextPort_not_mem _
    · rw [ht] at hstep
      obtain ⟨_, -, -, rfl⟩ := hstep.resumed
      obtain ⟨m, hm⟩ := Option.isSome_iff_exists.mp hfound.1
      exact (Subnets.mem_ports_pushPort (Subnets.has_of_member hm)).mpr (.inr ⟨rfl, rfl⟩)
  · obtain ⟨ht, hclaim⟩ := h.claiming
    obtain ⟨rest, hsound, -⟩ := sound_of_mem hrun hcalls hx ht
    have halias : IsAlias tcpAddress := (hsound.calls _ List.mem_cons_self).1
    obtain ⟨subnets, hclaim, -⟩ := hclaim.resolve_right fun ⟨e, _, he⟩ => by cases he
    refine ⟨halias, ((Subnets.claim_ok_iff halias).mp ⟨subnets, hclaim⟩).2, fun p' hstep => ?_⟩
    rw [ht] at hstep
    obtain ⟨_, -, -, rfl⟩ := hstep.resumed
    simp only [RegistryTask.resume, RegistryCall.enter, hclaim]
    exact Subnets.mem_ports_of_claim hclaim

/-- A run with a property that can be evaluated; a task is resumed by its position. -/
theorem exists_along {P : List (Registry × RegistryStep) → Registry → Prop}
    [∀ steps p, Decidable (P steps p)] (es : List (RegistryCall ⊕ Nat))
    (h : ((Run.along Registry.next es ⟨{}, []⟩ []).any fun r => decide (P r.1 r.2)) = true) :
    ∃ steps p, RegistryRun steps p ∧ P steps p := by
  refine Run.exists_along Registry.Initial ?_ ⟨.empty, rfl, rfl⟩ es h
  exact fun p e a p' hnext => Registry.step_of_next hnext

end RegistryRun

end Unisockets.Signaling
