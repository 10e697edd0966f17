import Unisockets.Signaling.Searches
import Unisockets.Signaling.ServerBridge
import Unisockets.Transition.Since

/-!
# How addresses are allocated

`createIPAddress` takes the least suffix of a subnet that has no member, as long as it is at
most 255.  `Allocation` says what it does to the registry and what it returns, for every
registry in which the suffixes of the subnet are natural numbers: in whatever order they
came, and with those that Binds have claimed, also above 255.

* `Server.createIPAddress_allocation`: the function itself, from its call to its return.
* `ServerRun.acknowledged_of_full`: in every run, the acknowledgement of a Knock says whether
  the subnet was full when its suffix was searched.

`ip_allocation` puts them together.
-/

namespace Unisockets.Signaling

open JsStd Async Transition

/-! ## The suffixes of a subnet -/

namespace Subnets

variable {s s' : Subnets} {subnet : String}

/-- The suffixes with a member, in the order in which they came. -/
def suffixes (s : Subnets) (subnet : String) : List Number :=
  ((s.get subnet).getD .empty).keys

/-- Every suffix of an octet has a member. -/
def Full (s : Subnets) (subnet : String) : Prop :=
  ∀ n ≤ 255, ((n : Nat) : Number) ∈ s.suffixes subnet

instance (s : Subnets) (subnet : String) : Decidable (s.Full subnet) :=
  inferInstanceAs (Decidable (∀ n ≤ 255, ((n : Nat) : Number) ∈ s.suffixes subnet))

/-- The registry with a member at the suffix that is found. -/
def addMember (s : Subnets) (subnet : String) : Subnets :=
  (s.ensure subnet).setMember ⟨subnet, s.nextSuffix subnet⟩ ⟨[]⟩

/-- What `createIPAddress` does to the registry when it returns `id`. -/
structure Allocation (s s' : Subnets) (subnet id : String) : Prop where
  overflow : id = "-1" ↔ s.Full subnet
  full : s.Full subnet → s' = s
  free : ¬s.Full subnet → ∃ n : Nat, n ≤ 255 ∧
    IsLeast {m : Nat | (m : Number) ∉ s.suffixes subnet} n ∧ id = toIPAddress subnet n ∧
    s'.suffixes subnet = s.suffixes subnet ++ [(n : Number)] ∧
    ∀ key, s'.member key = if key = ⟨subnet, n⟩ then some ⟨[]⟩ else s.member key
  others : ∀ other, other ≠ subnet → s'.get other = s.get other

theorem mem_suffixes_iff {suffix : Number} :
    suffix ∈ s.suffixes subnet ↔ (s.member ⟨subnet, suffix⟩).isSome = true := by
  unfold suffixes member
  cases s.get subnet with
  | none => simp [Map.keys, Map.empty]
  | some members =>
    rw [Option.getD_some, Option.bind_some, ← Map.has_iff_mem_keys]
    rfl

theorem nextSuffix_isLeast (hnat : Naturals (s.suffixes subnet)) :
    IsLeast {m : Nat | (m : Number) ∉ s.suffixes subnet} (s.nextSuffix subnet) :=
  firstGap_isLeast hnat (Map.nodup_keys _)

theorem nextSuffix_gt_iff (hnat : Naturals (s.suffixes subnet)) :
    s.nextSuffix subnet > 255 ↔ s.Full subnet := by
  obtain ⟨hfree, hleast⟩ := nextSuffix_isLeast hnat
  constructor
  · intro hgt n hn
    by_contra hnot
    have hle : s.nextSuffix subnet ≤ n := hleast hnot
    omega
  · intro hfull
    by_contra hle
    exact hfree (hfull _ (by omega))

theorem suffixes_ensure (other : String) : (s.ensure subnet).suffixes other = s.suffixes other := by
  unfold suffixes ensure
  split_ifs with h
  · rfl
  · rw [Map.get_set]
    split_ifs with ho
    · rw [ho, Map.has_eq_false_iff.mp (Bool.eq_false_of_not_eq_true h)]
      rfl
    · rfl

theorem nextSuffix_ensure : (s.ensure subnet).nextSuffix subnet = s.nextSuffix subnet :=
  congrArg (fun l => firstGap (sortNumbers l)) (suffixes_ensure subnet)

theorem ensure_of_full (h : s.Full subnet) : s.ensure subnet = s := by
  have hzero := mem_suffixes_iff.mp (h 0 (Nat.zero_le _))
  obtain ⟨m, hm⟩ := Option.isSome_iff_exists.mp hzero
  rw [ensure, if_pos (has_of_member hm)]

theorem get_ensure_of_ne {other : String} (h : other ≠ subnet) :
    (s.ensure subnet).get other = s.get other := by
  unfold ensure
  split_ifs
  · rfl
  · rw [Map.get_set_of_ne _ _ h]

theorem get_setMember_of_ne {key : IPAddress} {m : MMember} {other : String}
    (h : other ≠ key.subnet) : (s.setMember key m).get other = s.get other := by
  unfold setMember
  split
  · rw [Map.get_set_of_ne _ _ h]
  · rfl

/-- A new member comes behind the others. -/
theorem suffixes_setMember {suffix : Number} {m : MMember} (hhas : s.has subnet = true)
    (hnew : suffix ∉ s.suffixes subnet) :
    (s.setMember ⟨subnet, suffix⟩ m).suffixes subnet = s.suffixes subnet ++ [suffix] := by
  obtain ⟨members, hs⟩ := Map.has_iff.mp hhas
  unfold suffixes at hnew ⊢
  rw [hs, Option.getD_some] at hnew
  simp only [setMember, hs, Map.get_set_self, Option.getD_some]
  exact (Map.map_fst_setEntries _ _ _).trans (if_neg hnew)

theorem allocation_of_full (hnat : Naturals (s.suffixes subnet))
    (hgt : s.nextSuffix subnet > 255) : Allocation s (s.ensure subnet) subnet "-1" where
  overflow := iff_of_true rfl ((nextSuffix_gt_iff hnat).mp hgt)
  full := ensure_of_full
  free hfull := absurd ((nextSuffix_gt_iff hnat).mp hgt) hfull
  others _ hne := get_ensure_of_ne hne

theorem allocation_of_free (hnat : Naturals (s.suffixes subnet))
    (hle : ¬s.nextSuffix subnet > 255) :
    Allocation s (s.addMember subnet) subnet (toIPAddress subnet (s.nextSuffix subnet)) where
  overflow := by
    have hfull : ¬s.Full subnet := fun hfull => hle ((nextSuffix_gt_iff hnat).mpr hfull)
    exact iff_of_false (toIPAddress_ne_overflow _ _) hfull
  full hfull := absurd ((nextSuffix_gt_iff hnat).mpr hfull) hle
  free _ := by
    have hleast := nextSuffix_isLeast hnat
    refine ⟨s.nextSuffix subnet, by omega, hleast, rfl, ?_, fun key => ?_⟩
    · rw [addMember, suffixes_setMember (has_ensure subnet), suffixes_ensure]
      rw [suffixes_ensure]
      exact hleast.1
    · rw [addMember, member_setMember (has_ensure subnet), member_ensure]
  others _ hne := by
    rw [addMember, get_setMember_of_ne hne, get_ensure_of_ne hne]

end Subnets

/-! ## One call of `createIPAddress` -/

namespace Server

variable {s : Server} {subnet : String}

theorem createIPAddress_alone (subnet : String) (h : s.subnetsMutex = false) :
    (createIPAddress subnet).alone s = some
      (if s.subnets.nextSuffix subnet > 255 then
        ({ s with subnets := s.subnets.ensure subnet }, .ok "-1")
      else
        ({ s with subnets := s.subnets.addMember subnet },
          .ok (toIPAddress subnet (s.subnets.nextSuffix subnet)))) := by
  obtain ⟨clients, aliases, subnets, mutex, listeners, outbox⟩ := s
  cases h
  show alone (createIPAddressSearched subnet ((subnets.ensure subnet).nextSuffix subnet))
    ⟨clients, aliases, subnets.ensure subnet, true, listeners, outbox⟩ = _
  rw [Subnets.nextSuffix_ensure]
  simp only [createIPAddressSearched]
  by_cases hn : subnets.nextSuffix subnet > 255
  · rw [if_pos hn, if_pos hn]
    rfl
  · rw [if_neg hn, if_neg hn, Subnets.addMember]
    rfl

/-- A call that finds the mutex free. -/
theorem createIPAddress_allocation (h : s.subnetsMutex = false)
    (hnat : Naturals (s.subnets.suffixes subnet)) :
    ∃ subnets id, (createIPAddress subnet).alone s =
      some ({ s with subnets := subnets }, .ok id) ∧
        s.subnets.Allocation subnets subnet id := by
  rw [createIPAddress_alone subnet h]
  split_ifs with hn
  · exact ⟨_, _, rfl, Subnets.allocation_of_full hnat hn⟩
  · exact ⟨_, _, rfl, Subnets.allocation_of_free hnat hn⟩

end Server

/-! ## Members in a run -/

/-- A member is created by a Knock that has found its suffix or by a Bind. -/
theorem ServerTask.Resumes.isSome_member {s s' : Server} {t : ServerTask}
    {next : List ServerTask} (hstep : Resumes s t s' next) (hcurrent : t.Current s.subnets)
    {key : IPAddress} (h : (s'.subnets.member key).isSome = true) :
    (s.subnets.member key).isSome = true ∨
      (∃ data client newSuffix, t = .knockSearching data client newSuffix ∧
        key = ⟨data.subnet, newSuffix⟩) ∨
      ∃ data, t = .bindClaiming data ∧ key = ipAddressOf data.alias := by
  cases hstep with
  | searchSuffix data client =>
    left
    rwa [← Subnets.member_ensure data.subnet]
  | newMember data client newSuffix hfree =>
    rcases (Subnets.isSome_member_setMember hcurrent.1).mp h with h | h
    · exact .inl h
    · exact .inr (.inl ⟨data, client, newSuffix, rfl, h⟩)
  | claimed data subnets hclaim =>
    obtain ⟨hhas, -, rfl⟩ := Subnets.claim_eq_ok hclaim
    rcases (Subnets.isSome_member_setMember hhas).mp h with h | h
    · exact .inl h
    · exact .inr (.inr ⟨data, rfl, h⟩)
  | searchPort data m hm =>
    rcases (Subnets.isSome_member_setMember (Subnets.has_of_member hm)).mp h with h | rfl
    · exact .inl h
    · left
      rw [hm]
      rfl
  | newPort data newPort =>
    obtain ⟨m, hm⟩ := Option.isSome_iff_exists.mp hcurrent.1
    rcases (Subnets.isSome_member_setMember (Subnets.has_of_member hm)).mp h with h | rfl
    · exact .inl h
    · exact .inl hcurrent.1
  | shutdownPort | rejecting | releasePort =>
    left
    rwa [← Subnets.isSome_member_removeTCPAddress]
  | shutdownAddress | goodbyeAddress | releaseAddress =>
    exact .inl (Subnets.isSome_member_removeIPAddress.mp h).1
  | _ => exact .inl h

/-- A Bind names a natural suffix. -/
def Operation.NaturalSuffix : Operation → Prop
  | .bind data => (ipAddressOf data.alias).suffix.isNatural = true
  | _ => True

instance : DecidablePred Operation.NaturalSuffix
  | .bind _ => inferInstanceAs (Decidable (_ = true))
  | .knock _ | .goodbye _ | .acknowledged _ | .greeting _ | .offer _ | .answer _ | .candidate _
  | .accepting _ | .alias _ | .shutdown _ | .connect _ | .accept _ => isTrue trivial

def ServerStep.NaturalSuffix : ServerStep → Prop
  | .message operation _ => operation.NaturalSuffix
  | _ => True

instance : DecidablePred ServerStep.NaturalSuffix
  | .message operation _ => inferInstanceAs (Decidable operation.NaturalSuffix)
  | .close _ | .resume _ => isTrue trivial

def ServerTask.NaturalSuffix : ServerTask → Prop
  | .received operation _ => operation.NaturalSuffix
  | .bindClaiming data => (ipAddressOf data.alias).suffix.isNatural = true
  | _ => True

/-- The suffixes are natural numbers, those that Binds are about to claim among them. -/
structure NaturalSuffixes (s : Server) (l : List ServerTask) : Prop where
  searches : Searches s l
  members : ∀ key, (s.subnets.member key).isSome = true → key.suffix.isNatural = true
  tasks : ∀ t ∈ l, t.NaturalSuffix

namespace NaturalSuffixes

open ServerTask

variable {s s' : Server} {t : ServerTask} {l next : List ServerTask}

theorem naturals (h : NaturalSuffixes s l) (subnet : String) :
    Naturals (s.subnets.suffixes subnet) := by
  intro suffix hsuffix
  apply Number.isNatural_iff.mp
  exact h.members ⟨subnet, suffix⟩ (Subnets.mem_suffixes_iff.mp hsuffix)

theorem perm {l' : List ServerTask} (hl : l.Perm l') (h : NaturalSuffixes s l) :
    NaturalSuffixes s l' where
  searches := h.searches.perm hl
  members := h.members
  tasks t ht := h.tasks t (hl.mem_iff.mpr ht)

theorem next_naturalSuffix (ht : t.NaturalSuffix) (hstep : Resumes s t s' next) :
    ∀ t' ∈ next, t'.NaturalSuffix := by
  cases hstep with
  | bind data client hfree =>
    intro t' ht'
    rw [List.mem_singleton.mp ht']
    exact ht
  | swept id outbox =>
    intro t' ht'
    obtain ⟨tcpAddress, -, rfl⟩ := List.mem_map.mp ht'
    trivial
  | answered | overflow | addressRemoved | rejected | lost | serverAccepted | releasedPort
  | accepting | register | bound | orphaned | unclaimed | noMember =>
    exact fun t' ht' => absurd ht' List.not_mem_nil
  | _ =>
    intro t' ht'
    rw [List.mem_singleton.mp ht']
    trivial

theorem resume (h : NaturalSuffixes s (t :: l)) (hready : t.ready s = true)
    (hstep : Resumes s t s' next) : NaturalSuffixes s' (next ++ l) where
  searches := h.searches.resume hready hstep
  members key hkey := by
    have hcurrent := h.searches.current t List.mem_cons_self
    rcases hstep.isSome_member hcurrent hkey with hold | ⟨data, client, n, -, rfl⟩ | ⟨data, ht, rfl⟩
    · exact h.members key hold
    · exact Number.isNatural_iff.mpr ⟨n, rfl⟩
    · have hbind := h.tasks t List.mem_cons_self
      rw [ht] at hbind
      exact hbind
  tasks t' ht' := by
    rcases List.mem_append.mp ht' with ht' | ht'
    · exact next_naturalSuffix (h.tasks t List.mem_cons_self) hstep t' ht'
    · exact h.tasks t' (List.mem_cons_of_mem _ ht')

end NaturalSuffixes

theorem ServerRun.naturalSuffixes {steps : List (ServerPool × ServerStep)} {p : ServerPool}
    (hrun : ServerRun steps p) (hbinds : ∀ x ∈ steps, x.2.NaturalSuffix) :
    NaturalSuffixes p.state p.tasks := by
  have hnil : NaturalSuffixes {} [] :=
    ⟨.init, fun key h => absurd h Bool.false_ne_true, fun t ht => absurd ht List.not_mem_nil⟩
  refine hrun.invariant (I := NaturalSuffixes) hbinds (fun s l l' hl h => h.perm hl) hnil ?_ ?_ ?_
  · intro s l operation client h hop
    refine ⟨h.searches.message operation client, h.members, fun t ht => ?_⟩
    rcases List.mem_cons.mp ht with rfl | ht
    · exact hop
    · exact h.tasks t ht
  · intro s l client h _
    refine ⟨h.searches.close client, h.members, fun t ht => ?_⟩
    rcases List.mem_append.mp ht with ht | ht
    · obtain ⟨id, -, rfl⟩ := List.mem_map.mp ht
      trivial
    · exact h.tasks t ht
  · intro s l t rest s' next _ h hready _ hstep
    exact h.resume hready hstep

/-! ## What a Knock is told -/

/-- Only a search makes an id. -/
theorem ServerTask.Resumes.knockCreated_mem {s s' : Server} {t : ServerTask}
    {next : List ServerTask} {client : Socket} {id : String} (hstep : Resumes s t s' next)
    (hmem : .knockCreated client id ∈ next) : ∃ data newSuffix,
      t = .knockSearching data client newSuffix ∧
        (newSuffix > 255 ∧ s'.subnets = s.subnets ∧ id = "-1" ∨
          ¬newSuffix > 255 ∧ s'.subnets = s.subnets.setMember ⟨data.subnet, newSuffix⟩ ⟨[]⟩ ∧
            id = toIPAddress data.subnet newSuffix) := by
  cases hstep with
  | fullSubnet data _ newSuffix hfull =>
    cases List.mem_singleton.mp hmem
    exact ⟨data, newSuffix, rfl, .inl ⟨hfull, rfl, rfl⟩⟩
  | newMember data _ newSuffix hfree =>
    cases List.mem_singleton.mp hmem
    exact ⟨data, newSuffix, rfl, .inr ⟨hfree, rfl, rfl⟩⟩
  | swept owner outbox =>
    obtain ⟨tcpAddress, -, he⟩ := List.mem_map.mp hmem
    cases he
  | answered | overflow | addressRemoved | rejected | lost | serverAccepted | releasedPort
  | accepting | register | bound | orphaned | unclaimed | noMember =>
    exact absurd hmem List.not_mem_nil
  | _ => cases List.mem_singleton.mp hmem

namespace ServerRun

variable {steps : List (ServerPool × ServerStep)} {p : ServerPool}

/-- The search of a Knock ended in `q`, and `createIPAddress` returned `id` to it. -/
def Allocated (steps : List (ServerPool × ServerStep)) (client : Socket) (id : String)
    (data : IKnockData) (q : ServerPool) : Prop :=
  ∃ newSuffix q', (q, ServerStep.resume (.knockSearching data client newSuffix)) ∈ steps ∧
    ServerPool.Step q (.resume (.knockSearching data client newSuffix)) q' ∧
    q.state.subnets.Allocation q'.state.subnets data.subnet id

theorem Allocated.mono {steps' : List (ServerPool × ServerStep)} {client : Socket} {id : String}
    {data : IKnockData} {q : ServerPool} (h : Allocated steps client id data q)
    (hsub : steps ⊆ steps') : Allocated steps' client id data q := by
  obtain ⟨newSuffix, q', hmem, hstep, hallocation⟩ := h
  exact ⟨newSuffix, q', hsub hmem, hstep, hallocation⟩

/-- The end of a search, in a registry with natural suffixes. -/
theorem allocation_of_search {s s' : Server} {data : IKnockData} {client : Socket}
    {newSuffix : Nat} {id : String}
    (hcurrent : (ServerTask.knockSearching data client newSuffix).Current s.subnets)
    (hnat : Naturals (s.subnets.suffixes data.subnet))
    (hend : newSuffix > 255 ∧ s'.subnets = s.subnets ∧ id = "-1" ∨
      ¬newSuffix > 255 ∧ s'.subnets = s.subnets.setMember ⟨data.subnet, newSuffix⟩ ⟨[]⟩ ∧
        id = toIPAddress data.subnet newSuffix) :
    s.subnets.Allocation s'.subnets data.subnet id := by
  obtain ⟨hhas, rfl⟩ := hcurrent
  have hensure : s.subnets.ensure data.subnet = s.subnets := by
    rw [Subnets.ensure, if_pos hhas]
  rcases hend with ⟨hgt, hs', rfl⟩ | ⟨hle, hs', rfl⟩
  · have h := Subnets.allocation_of_full hnat hgt
    rw [hensure] at h
    rwa [hs']
  · have h := Subnets.allocation_of_free hnat hle
    rwa [Subnets.addMember, hensure, ← hs'] at h

/-- Every id that a Knock is about to get was allocated to it. -/
theorem allocated (hrun : ServerRun steps p) (hbinds : ∀ x ∈ steps, x.2.NaturalSuffix)
    {client : Socket} {id : String} (hmem : .knockCreated client id ∈ p.tasks) :
    ∃ data q, Allocated steps client id data q := by
  induction hrun with
  | start hinit =>
    subst hinit
    cases hmem
  | @snoc steps p p' a hrun hstep ih =>
    have hbefore : ∀ x ∈ steps, x.2.NaturalSuffix :=
      fun x hx => hbinds x (List.mem_append_left _ hx)
    have hold : .knockCreated client id ∈ p.tasks →
        ∃ data q, Allocated (steps ++ [(p, a)]) client id data q := by
      intro hmem
      obtain ⟨data, q, h⟩ := ih hbefore hmem
      exact ⟨data, q, h.mono (List.subset_append_left _ _)⟩
    cases a with
    | message operation socket =>
      cases hstep
      rcases List.mem_append.mp hmem with hmem | hmem
      · exact hold hmem
      · cases List.mem_singleton.mp hmem
    | close socket =>
      cases hstep
      rcases List.mem_append.mp hmem with hmem | hmem
      · exact hold hmem
      · obtain ⟨_, -, he⟩ := List.mem_map.mp hmem
        cases he
    | resume t =>
      obtain ⟨rest, hperm, -, rfl⟩ := hstep.resumed
      rcases List.mem_append.mp hmem with hmem | hmem
      · exact hold (hperm.mem_iff.mpr (List.mem_cons_of_mem _ hmem))
      · obtain ⟨data, newSuffix, rfl, hend⟩ :=
          (ServerTask.resumes t p.state).knockCreated_mem hmem
        have hnatural := naturalSuffixes hrun hbefore
        have hcurrent := hnatural.searches.current _ (hperm.mem_iff.mpr List.mem_cons_self)
        refine ⟨data, p, newSuffix, _, ?_, hstep, ?_⟩
        · exact List.mem_append_right _ List.mem_cons_self
        · exact allocation_of_search hcurrent (hnatural.naturals data.subnet) hend

/-- The acknowledgement of a Knock says whether its subnet was full. -/
theorem acknowledged_of_full (hrun : ServerRun steps p)
    (hbinds : ∀ x ∈ steps, x.2.NaturalSuffix) {before after : List (ServerPool × ServerStep)}
    {q q' : ServerPool} {client : Socket} {id : String}
    (hsteps : steps = before ++ (q, .resume (.knockCreated client id)) :: after)
    (hstep : ServerPool.Step q (.resume (.knockCreated client id)) q') :
    ∃ data q₀, Allocated before client id data q₀ ∧
      q'.state.outbox = q.state.outbox ++ [(client, .acknowledged {
        id := id
        rejected := decide (q₀.state.subnets.Full data.subnet) })] := by
  obtain ⟨hbefore, -⟩ := Run.of_append hrun hsteps
  obtain ⟨rest, hperm, -, rfl⟩ := hstep.resumed
  have hnatural : ∀ x ∈ before, x.2.NaturalSuffix := by
    intro x hx
    apply hbinds
    rw [hsteps]
    exact List.mem_append_left _ hx
  obtain ⟨data, q₀, h⟩ := allocated hbefore hnatural (hperm.mem_iff.mpr List.mem_cons_self)
  refine ⟨data, q₀, h, ?_⟩
  obtain ⟨_, _, _, _, hallocation⟩ := h
  simp only [ServerTask.resume]
  by_cases hid : id = "-1"
  · rw [if_pos hid, decide_eq_true (hallocation.overflow.mp hid)]
    rfl
  · rw [if_neg hid, decide_eq_false fun hfull => hid (hallocation.overflow.mpr hfull)]
    rfl

end ServerRun

/-! ## Both together -/

theorem ip_allocation :
    (∀ (s : Server) (subnet : String), s.subnetsMutex = false →
      Naturals (s.subnets.suffixes subnet) →
        ∃ subnets id, (Server.createIPAddress subnet).alone s =
          some ({ s with subnets := subnets }, .ok id) ∧
            s.subnets.Allocation subnets subnet id) ∧
    ∀ (steps : List (ServerPool × ServerStep)) (p : ServerPool), ServerRun steps p →
      (∀ x ∈ steps, x.2.NaturalSuffix) → ∀ before q client id after q',
        steps = before ++ (q, .resume (.knockCreated client id)) :: after →
        ServerPool.Step q (.resume (.knockCreated client id)) q' →
          ∃ data q₀, ServerRun.Allocated before client id data q₀ ∧
            q'.state.outbox = q.state.outbox ++ [(client, .acknowledged {
              id := id
              rejected := decide (q₀.state.subnets.Full data.subnet) })] := by
  constructor
  · exact fun s subnet h hnat => Server.createIPAddress_allocation h hnat
  · exact fun steps p hrun hbinds before q client id after q' hsteps hstep =>
      hrun.acknowledged_of_full hbinds hsteps hstep

/-- A subnet whose suffixes came out of order, with a gap. -/
def gapped : Server where
  subnets := Map.empty.set "127.0.0" ⟨[(.int 1, ⟨[]⟩), (.int 0, ⟨[.int 80]⟩), (.int 300, ⟨[]⟩),
    (.int 3, ⟨[]⟩)], by decide⟩

/-- The gap is found, and two Knocks get the suffixes 0 and 1. -/
theorem ip_allocation_gap :
    (∃ subnets, (Server.createIPAddress "127.0.0").alone gapped =
      some ({ gapped with subnets := subnets }, .ok "127.0.0.2") ∧
        gapped.subnets.Allocation subnets "127.0.0" "127.0.0.2") ∧
    ∃ steps p, ServerRun steps p ∧
      ∃ data q, ServerRun.Allocated steps 1 "127.0.0.1" data q := by
  constructor
  · have hnat : ∀ x ∈ gapped.subnets.suffixes "127.0.0", x.isNatural = true := by decide +kernel
    obtain ⟨subnets, id, hcall, hallocation⟩ := ip_allocation.1 gapped "127.0.0" rfl
      fun x hx => Number.isNatural_iff.mp (hnat x hx)
    obtain ⟨n, -, ⟨hfree, hleast⟩, rfl, -⟩ := hallocation.free (by decide +kernel)
    have hle : n ≤ 2 := hleast (show (.int 2) ∉ gapped.subnets.suffixes "127.0.0" by decide +kernel)
    have hzero : n ≠ 0 := by
      rintro rfl
      exact hfree (show .int 0 ∈ gapped.subnets.suffixes "127.0.0" by decide +kernel)
    have hone : n ≠ 1 := by
      rintro rfl
      exact hfree (show .int 1 ∈ gapped.subnets.suffixes "127.0.0" by decide +kernel)
    obtain rfl : n = 2 := by omega
    exact ⟨subnets, hcall, hallocation⟩
  · obtain ⟨steps, p, hrun, hnatural, x, hx, hknock⟩ := ServerRun.exists_along
      (P := fun steps _ => (∀ x ∈ steps, x.2.NaturalSuffix) ∧
        ∃ x ∈ steps, x.2 = .resume (.knockCreated 1 "127.0.0.1"))
      (ServerRun.handling (.knock ⟨"127.0.0", ""⟩) 0 5 ++
        ServerRun.handling (.knock ⟨"127.0.0", ""⟩) 1 5) (by decide +kernel)
    obtain ⟨before, after, hsteps⟩ := List.append_of_mem hx
    obtain ⟨q, a⟩ := x
    cases hknock
    obtain ⟨-, q', hstep⟩ := Run.of_append hrun hsteps
    obtain ⟨data, q₀, h, -⟩ :=
      ip_allocation.2 steps p hrun hnatural before q _ _ after q' hsteps hstep
    refine ⟨steps, p, hrun, data, q₀, h.mono ?_⟩
    rw [hsteps]
    exact List.subset_append_left _ _

end Unisockets.Signaling
