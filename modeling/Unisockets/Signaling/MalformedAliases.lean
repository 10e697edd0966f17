import Unisockets.Signaling.Suffixes

/-!
# Aliases that no client should bind

The server takes the alias of a Bind apart with `parseInt` and does not look at what comes
out: a negative number or `NaN` goes into the suffixes of a subnet or the ports of a member
like any other.  A search that finds a negative number in front of zero stops at zero, which
is in use; this is how a Bind makes the server give an address out twice
(`address_allocated_twice`).

`ServerRun.safe_of_searchable` is about all other runs: as long as the numbers that are
searched are natural, or zero is free, whatever the Binds carry, a search finds a number that
is not in use.
-/

namespace Unisockets.Signaling

open JsStd Transition

/-! ## What is safe -/

namespace ServerRun

/-- No address and no alias is given out that is in use. -/
structure SafeAllocation (steps : List (ServerPool × ServerStep)) : Prop where
  suffixes : ∀ x ∈ steps, ∀ data client newSuffix,
    x.2 = .resume (.knockSearching data client newSuffix) → newSuffix ≤ 255 →
      x.1.state.subnets.member ⟨data.subnet, newSuffix⟩ = none
  ports : ∀ x ∈ steps, ∀ data newPort, x.2 = .resume (.connectSearching data newPort) →
    .int newPort ∉ x.1.state.subnets.ports (parseIPAddress data.id)
  /-- The address of a member that is registered goes to no other client. -/
  addresses : ∀ x ∈ steps, ∀ data client newSuffix key,
    x.2 = .resume (.knockSearching data client newSuffix) → newSuffix ≤ 255 →
      (x.1.state.subnets.member key).isSome = true →
        toIPAddress key.subnet key.suffix ≠ toIPAddress data.subnet newSuffix
  /-- The alias of a port that is registered goes to no other connection. -/
  aliases : ∀ x ∈ steps, ∀ data newPort key port,
    x.2 = .resume (.connectSearching data newPort) → port ∈ x.1.state.subnets.ports key →
      toTCPAddress (toIPAddress key.subnet key.suffix) port ≠
        toTCPAddress (toIPAddress (parseIPAddress data.id).subnet
          (parseIPAddress data.id).suffix) newPort

end ServerRun

/-- A search looks at natural numbers, or zero is free. -/
def ServerTask.SearchesWell (s : Subnets) : ServerTask → Prop
  | .knockCreating data _ => Searchable (s.suffixes data.subnet)
  | .connectCreating data => Searchable (s.ports (parseIPAddress data.id))
  | _ => True

instance (s : Subnets) : DecidablePred (ServerTask.SearchesWell s)
  | .knockCreating .. | .connectCreating _ => inferInstanceAs (Decidable (Searchable _))
  | .received .. | .knockSearching .. | .knockCreated .. | .knockAcknowledged .. | .bindClaiming _
  | .bindClaimed _ | .shutdownPort _ | .shutdownPortRemoved _ | .shutdownAddress _
  | .shutdownAddressRemoved _ | .connectSearching .. | .connectCreated .. | .connectRejecting ..
  | .connectRejected .. | .connectClientNotified .. | .connectServerNotified ..
  | .connectServerAccepted .. | .goodbyeAddress _ | .goodbyeAddressRemoved _ | .releaseAddress ..
  | .releaseAddressRemoved .. | .releasePort .. | .releasePortRemoved .. => isTrue trivial

def ServerStep.SearchesWell (p : ServerPool) : ServerStep → Prop
  | .resume t => t.SearchesWell p.state.subnets
  | _ => True

instance (p : ServerPool) : DecidablePred (ServerStep.SearchesWell p)
  | .resume t => inferInstanceAs (Decidable (t.SearchesWell p.state.subnets))
  | .message .. | .close _ => isTrue trivial

/-! ## Texts of addresses -/

/-- A text with a number behind its last separator can be taken apart. -/
private theorem append_toText_inj (separator : Char) {a a' : String} {x x' : Number}
    (hfree : ∀ x : Number, separator ∉ x.toText.toList)
    (h : a ++ String.singleton separator ++ x.toText =
      a' ++ String.singleton separator ++ x'.toText) : a = a' ∧ x = x' := by
  have hparts := congrArg (fun text => split text separator) h
  simp only [split_append, split_eq_singleton (hfree _)] at hparts
  obtain ⟨hfront, htext⟩ := List.append_inj' hparts rfl
  constructor
  · rw [← join_split a separator, hfront, join_split]
  · rw [← parseInt_toText x, (List.cons.inj htext).1, parseInt_toText]

/-- An address is printed for one subnet and suffix only, whatever they are. -/
theorem toIPAddress_inj {subnet subnet' : String} {x x' : Number}
    (h : toIPAddress subnet x = toIPAddress subnet' x') : subnet = subnet' ∧ x = x' :=
  append_toText_inj '.' (fun _ => not_mem_toText rfl (by decide) (by decide)) h

/-- An alias is printed for one address and port only, whatever they are. -/
theorem toTCPAddress_inj {ipAddress ipAddress' : String} {x x' : Number}
    (h : toTCPAddress ipAddress x = toTCPAddress ipAddress' x') :
    ipAddress = ipAddress' ∧ x = x' :=
  append_toText_inj ':' (fun _ => not_mem_toText rfl (by decide) (by decide)) h

/-! ## The ports of a member -/

namespace Subnets

variable {s : Subnets} {key : IPAddress}

/-- No port is listed twice but for `NaN`, which `===` does not find. -/
def Distinct (s : Subnets) : Prop := ∀ key, ((s.ports key).filter (· ≠ .nan)).Nodup

namespace Distinct

theorem empty : Distinct Map.empty := fun _ => List.nodup_nil

theorem ensure (h : s.Distinct) (subnet : String) : (s.ensure subnet).Distinct := by
  intro key
  rw [ports_ensure]
  exact h key

theorem setMember (h : s.Distinct) {m : MMember} (hhas : s.has key.subnet = true)
    (hm : (m.ports.filter (· ≠ .nan)).Nodup) : (s.setMember key m).Distinct := by
  intro k
  rw [ports_setMember hhas]
  split_ifs
  · exact hm
  · exact h k

theorem sortPorts (h : s.Distinct) {m : MMember} (hm : s.member key = some m) :
    (s.sortPorts key).Distinct := by
  refine h.setMember (has_of_member hm) ?_
  exact ((sortNumbers_perm (s.ports key)).filter _).nodup_iff.mpr (h key)

theorem pushPort (h : s.Distinct) {port : Number} (hhas : s.has key.subnet = true)
    (hport : port ≠ .nan → port ∉ s.ports key) : (s.pushPort key port).Distinct := by
  refine h.setMember hhas ?_
  rw [List.filter_append]
  by_cases hnan : port = .nan
  · subst hnan
    simpa using h key
  · have hone : [port].filter (· ≠ .nan) = [port] := by simpa using hnan
    rw [hone]
    refine (List.perm_append_singleton _ _).nodup_iff.mpr (List.nodup_cons.mpr ⟨?_, h key⟩)
    exact fun hmem => hport hnan (List.mem_of_mem_filter hmem)

theorem claim (h : s.Distinct) {tcpAddress : String} {s' : Subnets}
    (hclaim : s.claim tcpAddress = .ok s') : s'.Distinct := by
  obtain ⟨hhas, hfree, rfl⟩ := claim_eq_ok hclaim
  refine h.pushPort hhas fun hnan hmem => ?_
  rw [List.any_eq_false] at hfree
  apply hfree _ hmem
  cases hport : portOf tcpAddress with
  | nan => exact absurd hport hnan
  | int n => simp

theorem removeIPAddress (h : s.Distinct) (ipAddress : String) :
    (s.removeIPAddress ipAddress).Distinct := by
  intro k
  rw [ports_removeIPAddress]
  split_ifs
  · exact List.nodup_nil
  · exact h k

theorem removeTCPAddress (h : s.Distinct) (tcpAddress : String) :
    (s.removeTCPAddress tcpAddress).Distinct := by
  intro k
  rw [ports_removeTCPAddress]
  split_ifs
  · exact (h k).sublist (List.filter_sublist.filter _)
  · exact h k

end Distinct

/-- The port that a search finds at good numbers is free. -/
theorem nextPort_not_mem_of_searchable (h : s.Distinct) (hsearch : Searchable (s.ports key)) :
    .int (s.nextPort key) ∉ s.ports key :=
  firstGap_not_mem_of_searchable hsearch (h key)

/-- The suffix that a search finds at good numbers has no member. -/
theorem member_nextSuffix_of_searchable {subnet : String}
    (hsearch : Searchable (s.suffixes subnet)) :
    s.member ⟨subnet, .int (s.nextSuffix subnet)⟩ = none := by
  have hfree := firstGap_not_mem_of_searchable hsearch ((Map.nodup_keys _).filter _)
  rw [← Option.not_isSome_iff_eq_none]
  exact fun hmember => hfree (mem_suffixes_iff.mpr hmember)

end Subnets

/-! ## The invariant -/

/-- The numbers that a search looks at while it holds the mutex. -/
def ServerTask.Unmisled (s : Subnets) : ServerTask → Prop
  | .knockSearching data .. => Searchable (s.suffixes data.subnet)
  | .connectSearching data _ => Searchable (s.ports (parseIPAddress data.id))
  | _ => True

theorem ServerTask.unmisled_of_not_searching {t : ServerTask} (h : t.searching = false)
    (s : Subnets) : t.Unmisled s := by
  cases t with
  | knockSearching | connectSearching => cases h
  | _ => trivial

/-- The searches under way look at good numbers. -/
structure Unmisled (s : Server) (l : List ServerTask) : Prop where
  searches : Searches s l
  distinct : s.subnets.Distinct
  tasks : ∀ t ∈ l, t.Unmisled s.subnets

namespace Unmisled

open ServerTask

variable {s s' : Server} {t : ServerTask} {l next : List ServerTask}

theorem perm {l' : List ServerTask} (hl : l.Perm l') (h : Unmisled s l) : Unmisled s l' where
  searches := h.searches.perm hl
  distinct := h.distinct
  tasks t ht := h.tasks t (hl.mem_iff.mpr ht)

/-- The suffix of a Knock that holds the mutex has no member. -/
theorem suffix_free (h : Unmisled s l) {data : IKnockData} {client : Socket} {newSuffix : Nat}
    (ht : .knockSearching data client newSuffix ∈ l) :
    s.subnets.member ⟨data.subnet, newSuffix⟩ = none := by
  obtain ⟨-, hcurrent⟩ := h.searches.current _ ht
  rw [hcurrent]
  exact Subnets.member_nextSuffix_of_searchable (h.tasks _ ht)

/-- The port of a Connect that holds the mutex is not listed. -/
theorem port_free (h : Unmisled s l) {data : IConnectData} {newPort : Nat}
    (ht : .connectSearching data newPort ∈ l) :
    .int newPort ∉ s.subnets.ports (parseIPAddress data.id) := by
  obtain ⟨-, hcurrent⟩ := h.searches.current _ ht
  rw [hcurrent]
  exact Subnets.nextPort_not_mem_of_searchable h.distinct (h.tasks _ ht)

theorem distinct_resume (h : Unmisled s (t :: l)) (hstep : Resumes s t s' next) :
    s'.subnets.Distinct := by
  cases hstep with
  | searchSuffix data client => exact h.distinct.ensure _
  | newMember data client newSuffix hfree =>
    obtain ⟨hhas, -⟩ := h.searches.current _ List.mem_cons_self
    exact h.distinct.setMember hhas List.nodup_nil
  | claimed data subnets hclaim => exact h.distinct.claim hclaim
  | searchPort data m hm => exact h.distinct.sortPorts hm
  | newPort data newPort =>
    obtain ⟨hsome, -⟩ := h.searches.current _ List.mem_cons_self
    obtain ⟨m, hm⟩ := Option.isSome_iff_exists.mp hsome
    exact h.distinct.pushPort (Subnets.has_of_member hm) fun _ => h.port_free List.mem_cons_self
  | shutdownPort | rejecting | releasePort => exact h.distinct.removeTCPAddress _
  | shutdownAddress | goodbyeAddress | releaseAddress => exact h.distinct.removeIPAddress _
  | _ => exact h.distinct

/-- A search that starts looks at the numbers that were there before. -/
theorem unmisled_next (hwell : t.SearchesWell s.subnets) (hstep : Resumes s t s' next) :
    ∀ t' ∈ next, t'.Unmisled s'.subnets := by
  cases hstep with
  | searchSuffix data client =>
    intro t' ht'
    rw [List.mem_singleton.mp ht']
    show Searchable ((s.subnets.ensure data.subnet).suffixes data.subnet)
    rwa [Subnets.suffixes_ensure]
  | searchPort data m hm =>
    intro t' ht'
    rw [List.mem_singleton.mp ht']
    show Searchable ((s.subnets.sortPorts _).ports _)
    rw [Subnets.sortPorts, Subnets.ports_setMember (Subnets.has_of_member hm), if_pos rfl]
    exact Searchable.perm hwell (sortNumbers_perm _).symm
  | swept id outbox =>
    intro t' ht'
    obtain ⟨tcpAddress, -, rfl⟩ := List.mem_map.mp ht'
    trivial
  | answered | overflow | addressRemoved | rejected | lost | serverAccepted | releasedPort
  | accepting | register | bound | orphaned | unclaimed | noMember =>
    exact fun t' ht' => absurd ht' List.not_mem_nil
  | _ =>
    intro t' ht'
    rw [List.mem_singleton.mp ht']
    trivial

theorem resume (h : Unmisled s (t :: l)) (hready : t.ready s = true)
    (hwell : t.SearchesWell s.subnets) (hstep : Resumes s t s' next) :
    Unmisled s' (next ++ l) where
  searches := h.searches.resume hready hstep
  distinct := h.distinct_resume hstep
  tasks t' ht' := by
    rcases List.mem_append.mp ht' with ht' | ht'
    · exact unmisled_next hwell hstep t' ht'
    · cases hstep.registry with
      | outside _ hsubnets _ _ =>
        rw [hsubnets]
        exact h.tasks t' (List.mem_cons_of_mem _ ht')
      | search hwaits =>
        have hzero := h.searches.alone hready (.inl hwaits)
        exact unmisled_of_not_searching
          (Bool.eq_false_of_not_eq_true (List.countP_eq_zero.mp hzero t' ht')) _
      | leave hlock =>
        have hzero := h.searches.alone hready hlock
        exact unmisled_of_not_searching
          (Bool.eq_false_of_not_eq_true (List.countP_eq_zero.mp hzero t' ht')) _

end Unmisled

namespace ServerRun

variable {steps : List (ServerPool × ServerStep)} {p : ServerPool}

theorem unmisled (hrun : ServerRun steps p) (hwell : ∀ x ∈ steps, x.2.SearchesWell x.1) :
    Unmisled p.state p.tasks := by
  have hinit : Unmisled {} [] := ⟨.init, .empty, fun t ht => absurd ht List.not_mem_nil⟩
  refine hrun.invariant (I := Unmisled) hwell (fun s l l' hl h => h.perm hl) hinit ?_ ?_ ?_
  · intro s l operation client h _
    refine ⟨h.searches.message operation client, h.distinct, fun t ht => ?_⟩
    rcases List.mem_cons.mp ht with rfl | ht
    · trivial
    · exact h.tasks t ht
  · intro s l client h _
    refine ⟨h.searches.close client, h.distinct, fun t ht => ?_⟩
    rcases List.mem_append.mp ht with ht | ht
    · obtain ⟨id, -, rfl⟩ := List.mem_map.mp ht
      trivial
    · exact h.tasks t ht
  · intro s l t rest s' next _ h hready hadmits hstep
    exact h.resume hready hadmits hstep

/-- The state in which a task of a run is resumed. -/
theorem unmisled_of_mem (hrun : ServerRun steps p) (hwell : ∀ x ∈ steps, x.2.SearchesWell x.1)
    {x : ServerPool × ServerStep} (hx : x ∈ steps) :
    Unmisled x.1.state x.1.tasks ∧ ∀ t, x.2 = .resume t → t ∈ x.1.tasks := by
  obtain ⟨before, hsub, hbefore, hmem⟩ := hrun.of_mem hx
  exact ⟨hbefore.unmisled fun y hy => hwell y (hsub hy), hmem⟩

/-- Whatever the Binds carry, a search of good numbers finds one that is not in use. -/
theorem safe_of_searchable (hrun : ServerRun steps p)
    (hwell : ∀ x ∈ steps, x.2.SearchesWell x.1) : SafeAllocation steps where
  suffixes x hx data client newSuffix ht _ := by
    obtain ⟨h, hmem⟩ := hrun.unmisled_of_mem hwell hx
    exact h.suffix_free (hmem _ ht)
  ports x hx data newPort ht := by
    obtain ⟨h, hmem⟩ := hrun.unmisled_of_mem hwell hx
    exact h.port_free (hmem _ ht)
  addresses x hx data client newSuffix key ht _ hkey he := by
    obtain ⟨h, hmem⟩ := hrun.unmisled_of_mem hwell hx
    have hfree := h.suffix_free (hmem _ ht)
    obtain ⟨hsubnet, hsuffix⟩ := toIPAddress_inj he
    rw [← hsubnet, ← hsuffix] at hfree
    rw [hfree] at hkey
    cases hkey
  aliases x hx data newPort key port ht hport he := by
    obtain ⟨h, hmem⟩ := hrun.unmisled_of_mem hwell hx
    have hfree := h.port_free (hmem _ ht)
    obtain ⟨haddress, hnumber⟩ := toTCPAddress_inj he
    obtain ⟨hsubnet, hsuffix⟩ := toIPAddress_inj haddress
    have hkey : key = parseIPAddress data.id := by
      rw [show key = ⟨key.subnet, key.suffix⟩ from rfl, hsubnet, hsuffix]
    rw [hkey, hnumber] at hport
    exact hfree hport

/-- A Bind puts the port -3 beside the ports of the client, where zero is free. -/
theorem safe_of_searchable_run : ∃ steps p, ServerRun steps p ∧
    p.state.subnets.ports ⟨"127.0.0", .int 0⟩ = [.int (-3), .int 0] ∧ SafeAllocation steps := by
  obtain ⟨steps, p, hrun, hwell, hports⟩ := exists_along
    (P := fun steps p => (∀ x ∈ steps, x.2.SearchesWell x.1) ∧
      p.state.subnets.ports ⟨"127.0.0", .int 0⟩ = [.int (-3), .int 0])
    (handling (.knock ⟨"127.0.0", ""⟩) 0 5 ++
      handling (.bind ⟨"127.0.0.0", "127.0.0.0:-3"⟩) 0 3 ++
      handling (.connect ⟨"127.0.0.0", "127.0.0.9:80", "u"⟩) 0 3) (by decide +kernel)
  exact ⟨steps, p, hrun, hports, hrun.safe_of_searchable hwell⟩

/-- A Bind claims the suffix -1, and the next Knock gets the suffix 0 of a connected client. -/
theorem address_allocated_twice : ¬∀ steps p, ServerRun steps p → SafeAllocation steps := by
  intro h
  obtain ⟨steps, p, hrun, htasks, hmutex, hsuffixes⟩ := exists_along
    (P := fun _ p => p.tasks = [.knockCreating ⟨"127.0.0", ""⟩ 1] ∧
      p.state.subnetsMutex = false ∧
      p.state.subnets.suffixes "127.0.0" = [.int 0, .int (-1)])
    (handling (.knock ⟨"127.0.0", ""⟩) 0 5 ++
      handling (.bind ⟨"127.0.0.0", "127.0.0.-1:5"⟩) 0 3 ++
      handling (.knock ⟨"127.0.0", ""⟩) 1 1) (by decide +kernel)
  obtain ⟨s, l⟩ := p
  cases htasks
  have hfree : s.subnetsMutex = false := hmutex
  have hsuffixes : (s.subnets.ensure "127.0.0").suffixes "127.0.0" = [.int 0, .int (-1)] :=
    (Subnets.suffixes_ensure _).trans hsuffixes
  have hzero : (s.subnets.ensure "127.0.0").nextSuffix "127.0.0" = 0 := by
    show firstGap (sortNumbers ((s.subnets.ensure "127.0.0").suffixes "127.0.0")) = 0
    rw [hsuffixes]
    exact (firstGap_of_not_searchable (by decide) (by decide)).1
  have hsearch : ServerPool.Step ⟨s, [.knockCreating ⟨"127.0.0", ""⟩ 1]⟩
      (.resume (.knockCreating ⟨"127.0.0", ""⟩ 1))
      ⟨{ s with subnets := s.subnets.ensure "127.0.0", subnetsMutex := true },
        [.knockSearching ⟨"127.0.0", ""⟩ 1 0]⟩ := by
    have hready : (ServerTask.knockCreating ⟨"127.0.0", ""⟩ 1).ready s = true := by
      simp [ServerTask.ready, hfree]
    have hresume := ServerPool.step_alone hready
    rwa [ServerTask.resume, hzero] at hresume
  have hend : ServerPool.Step
      ⟨{ s with subnets := s.subnets.ensure "127.0.0", subnetsMutex := true },
        [.knockSearching ⟨"127.0.0", ""⟩ 1 0]⟩
      (.resume (.knockSearching ⟨"127.0.0", ""⟩ 1 0)) _ := .resume (i := 0) rfl rfl
  have hsafe := h _ _ ((hrun.snoc hsearch).snoc hend)
  have hnone := hsafe.suffixes _ (List.mem_append_right _ List.mem_cons_self) _ _ _ rfl (by omega)
  have hmember : ((s.subnets.ensure "127.0.0").member ⟨"127.0.0", .int 0⟩).isSome = true := by
    rw [← Subnets.mem_suffixes_iff, hsuffixes]
    exact List.mem_cons_self
  rw [show (s.subnets.ensure "127.0.0").member ⟨"127.0.0", .int 0⟩ = none from hnone] at hmember
  cases hmember

end ServerRun

end Unisockets.Signaling
