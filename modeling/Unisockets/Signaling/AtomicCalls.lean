import Unisockets.Signaling.Ports
import Unisockets.Transition.Account
import Unisockets.Transition.Atomic

/-!
# Calls on the registry take effect at once

`RegistryCall.apply` is what a call does to `subnets` while no other call is under way.
`RegistryCall.alone_program` is the proof that the functions of the server do this when
they find the mutex free.

Any number of calls may overlap.  `RegistryRun.calls_serial` says that the registry and the
results are still those of calls that are made one after another, in the order in which
they return.
-/

namespace Unisockets.Signaling

open JsStd Async Transition

namespace RegistryCall

/-- What a call does in one go, and what it returns or throws. -/
def apply : RegistryCall → Subnets → Subnets × RegistryResult
  | .createIPAddress subnet, s =>
    let s' := s.ensure subnet
    let newSuffix := s'.nextSuffix subnet
    if newSuffix > 255 then (s', .ok (some "-1"))
    else (s'.setMember ⟨subnet, newSuffix⟩ ⟨[]⟩, .ok (some (toIPAddress subnet newSuffix)))
  | .createTCPAddress ipAddress, s =>
    let key := parseIPAddress ipAddress
    if (s.member key).isSome then
      let s' := s.sortPorts key
      let newPort := s'.nextPort key
      (s'.pushPort key newPort,
        .ok (some (toTCPAddress (toIPAddress key.subnet key.suffix) newPort)))
    else
      (s, .error
        (if s.has key.subnet then .SuffixDoesNotExistError else .SubnetDoesNotExistError))
  | .claimTCPAddress tcpAddress, s =>
    match s.claim tcpAddress with
    | .ok s' => (s', .ok none)
    | .error e => (s, .error e)
  | .removeIPAddress ipAddress, s => (s.removeIPAddress ipAddress, .ok none)
  | .removeTCPAddress tcpAddress, s => (s.removeTCPAddress tcpAddress, .ok none)

variable {c : RegistryCall} {s s' : Server}

/-- A call that returns when it gets the mutex has taken effect. -/
theorem apply_of_returned {r : RegistryResult} (h : c.enter s = (s', .returned r)) :
    s' = s.locked s'.subnets ∧ c.apply s.subnets = (s'.subnets, r) := by
  cases c with
  | createIPAddress subnet => cases h
  | createTCPAddress ipAddress =>
    by_cases hm : (s.subnets.member (parseIPAddress ipAddress)).isSome = true
    · simp only [enter, if_pos hm] at h
      cases h
    · simp only [enter, if_neg hm] at h
      simp only [apply, if_neg hm]
      cases h
      exact ⟨rfl, rfl⟩
  | claimTCPAddress tcpAddress =>
    simp only [enter] at h
    simp only [apply]
    cases hclaim : s.subnets.claim tcpAddress with
    | ok subnets =>
      rw [hclaim] at h
      cases h
      exact ⟨rfl, rfl⟩
    | error e =>
      rw [hclaim] at h
      cases h
      exact ⟨rfl, rfl⟩
  | removeIPAddress ipAddress =>
    cases h
    exact ⟨rfl, rfl⟩
  | removeTCPAddress tcpAddress =>
    cases h
    exact ⟨rfl, rfl⟩

/-- A call that searches has the mutex; it takes effect when it goes on. -/
theorem apply_of_suspended {t : RegistryTask} (h : c.enter s = (s', .suspended t)) :
    s' = { s with subnets := s'.subnets, subnetsMutex := true } ∧ t.call = c ∧
      t.holds = true ∧
      t.resume s' = (s.locked (c.apply s.subnets).1, .returned (c.apply s.subnets).2) := by
  cases c with
  | createIPAddress subnet =>
    cases h
    refine ⟨rfl, rfl, rfl, ?_⟩
    simp only [RegistryTask.resume, apply]
    split_ifs <;> rfl
  | createTCPAddress ipAddress =>
    by_cases hm : (s.subnets.member (parseIPAddress ipAddress)).isSome = true
    · simp only [enter, if_pos hm] at h
      simp only [apply, if_pos hm]
      cases h
      exact ⟨rfl, rfl, rfl, rfl⟩
    · simp only [enter, if_neg hm] at h
      cases h
  | claimTCPAddress tcpAddress =>
    simp only [enter] at h
    cases hclaim : s.subnets.claim tcpAddress with
    | ok subnets =>
      rw [hclaim] at h
      cases h
    | error e =>
      rw [hclaim] at h
      cases h
  | removeIPAddress ipAddress => cases h
  | removeTCPAddress tcpAddress => cases h

private theorem alone_outcome (t : RegistryTask) (s : Server) :
    alone t.program s = (t.resume s).2.outcome.alone (t.resume s).1 :=
  alone_of_advance (t.advance_program s)

private theorem alone_returned (r : RegistryResult) (s : Server) :
    (RegistryProgress.returned r).outcome.alone s = some (s, r) := by
  cases r <;> rfl

/-- The function of the server that is called, when it finds the mutex free. -/
theorem alone_program (c : RegistryCall) {s : Server} (hfree : s.subnetsMutex = false) :
    alone c.program s
      = some ({ s with subnets := (c.apply s.subnets).1 }, (c.apply s.subnets).2) := by
  have hlocked : s.locked (c.apply s.subnets).1 = { s with subnets := (c.apply s.subnets).1 } := by
    rw [Server.locked, hfree]
  have hready : (RegistryTask.acquiring c).ready s = true := by
    simp [RegistryTask.ready, hfree]
  rw [alone_of_advance (c.advance_program s)]
  show (if (RegistryTask.acquiring c).ready s = true
    then alone (RegistryTask.acquiring c).program s else none) = _
  rw [if_pos hready, alone_outcome, ← hlocked]
  show (c.enter s).2.outcome.alone (c.enter s).1 = _
  cases h : c.enter s with
  | mk s' progress =>
    cases progress with
    | returned r =>
      obtain ⟨hs', happly⟩ := apply_of_returned h
      rw [alone_returned, happly, ← hs']
    | suspended t =>
      obtain ⟨-, -, hholds, hresume⟩ := apply_of_suspended h
      have hgoes : t.ready s' = true := by simp [RegistryTask.ready, hholds]
      show (if t.ready s' = true then alone t.program s' else none) = _
      rw [if_pos hgoes, alone_outcome, hresume]
      exact alone_returned _ _

end RegistryCall

/-! ## Overlapping calls -/

/-- The call that ends in a step, with what it returns or throws. -/
def RegistryStep.returns (p : Registry) : RegistryStep → Option (RegistryCall × RegistryResult)
  | .call _ => none
  | .resume t =>
    match (t.resume p.state).2 with
    | .suspended _ => none
    | .returned r => some (t.call, r)

/-- The call that is made in a step. -/
def RegistryStep.made : RegistryStep → List RegistryCall
  | .call c => [c]
  | .resume _ => []

namespace RegistryTask

variable {s s' : Server} {t : RegistryTask}

/-- A task goes on to the second half of its call, or ends the call. -/
theorem resume_cases (t : RegistryTask) (s : Server) :
    (∃ t', (t.resume s).2 = .suspended t' ∧ t'.call = t.call) ∨
      ∃ r, (t.resume s).2 = .returned r := by
  cases t with
  | acquiring c =>
    cases h : c.enter s with
    | mk s' progress =>
      cases progress with
      | suspended t' =>
        obtain ⟨-, hcall, -, -⟩ := RegistryCall.apply_of_suspended h
        exact .inl ⟨t', by rw [resume, h], hcall⟩
      | returned r => exact .inr ⟨r, by rw [resume, h]⟩
  | suffixFound subnet newSuffix =>
    right
    simp only [resume]
    split_ifs <;> exact ⟨_, rfl⟩
  | portFound ipAddress newPort => exact .inr ⟨_, rfl⟩

theorem countP_alone {l : List RegistryTask}
    (hmutex : (t :: l).countP holds = if s.subnetsMutex then 1 else 0)
    (hready : t.ready s = true) :
    l.countP holds = 0 ∧ s.subnetsMutex = t.holds := by
  rw [List.countP_cons] at hmutex
  cases hholds : t.holds with
  | false =>
    rw [ready, hholds, Bool.false_or, Bool.not_eq_true'] at hready
    rw [hready, if_neg Bool.false_ne_true] at hmutex
    exact ⟨by omega, hready⟩
  | true =>
    rw [hholds, if_pos rfl] at hmutex
    split_ifs at hmutex with hm
    · exact ⟨by omega, hm⟩

end RegistryTask

namespace Registry

open RegistryTask

/-- The registry that the calls have left behind: what the search that is under way, if
any, has found when it got the mutex. -/
structure Left (p : Registry) (o : Subnets) : Prop where
  mutex : p.tasks.countP holds = if p.state.subnetsMutex then 1 else 0
  idle : p.state.subnetsMutex = false → p.state.subnets = o
  search : ∀ t ∈ p.tasks, t.holds = true →
    ∃ s : Server, s.subnets = o ∧ t.call.enter s = (p.state, .suspended t)

variable {p p' : Registry} {o : Subnets}

/-- The mutex is free and no call searches. -/
private theorem Left.free {s : Server} {l : List RegistryTask} (hl : l.countP holds = 0)
    (hs : s.subnetsMutex = false) : Left ⟨s, l⟩ s.subnets where
  mutex := by
    rw [hl, hs]
    rfl
  idle _ := rfl
  search t ht hholds := absurd hholds (List.countP_eq_zero.mp hl t ht)

/-- A call that waits changes nothing. -/
private theorem Left.call (h : Left p o) (c : RegistryCall) :
    Left ⟨p.state, p.tasks ++ [.acquiring c]⟩ o where
  mutex := by
    rw [List.countP_append, h.mutex]
    rfl
  idle := h.idle
  search t ht hholds := by
    rcases List.mem_append.mp ht with ht | ht
    · exact h.search t ht hholds
    · rw [List.mem_singleton.mp ht] at hholds
      cases hholds

/-- A call that gets the mutex starts its search, or takes effect. -/
private theorem Left.enter {c : RegistryCall} {rest : List RegistryTask}
    (hrest : rest.countP holds = 0) {s : Server} :
    ∃ o', TakesEffect RegistryCall.apply s.subnets
        ((RegistryStep.resume (.acquiring c)).returns ⟨s, p.tasks⟩) o' ∧
      Left ⟨(c.enter s).1, rest ++ (c.enter s).2.tasks⟩ o' := by
  simp only [RegistryStep.returns, RegistryTask.resume]
  cases h : c.enter s with
  | mk s' progress =>
    cases progress with
    | returned r =>
      obtain ⟨hs', happly⟩ := RegistryCall.apply_of_returned h
      refine ⟨s'.subnets, .of_eq happly, .free ?_ ?_⟩
      · simpa [RegistryProgress.tasks] using hrest
      · rw [hs']
        rfl
    | suspended t =>
      obtain ⟨hs', hcall, hholds, -⟩ := RegistryCall.apply_of_suspended h
      refine ⟨s.subnets, .silent, ?_, ?_, ?_⟩
      · rw [List.countP_append, hrest, hs']
        simp [RegistryProgress.tasks, hholds]
      · rw [hs']
        exact fun hfree => absurd hfree Bool.true_eq_false.mp
      · intro t' ht' hholds'
        rcases List.mem_append.mp ht' with ht' | ht'
        · exact absurd hholds' (List.countP_eq_zero.mp hrest t' ht')
        · obtain rfl := List.mem_singleton.mp ht'
          exact ⟨s, rfl, by rw [hcall, h]⟩

/-- In each step nothing happens to the registry, or one call takes effect. -/
private theorem Left.step {a : RegistryStep} (h : Left p o) (hstep : Step p a p') :
    ∃ o', TakesEffect RegistryCall.apply o (a.returns p) o' ∧ Left p' o' := by
  cases a with
  | call c =>
    cases hstep with
    | call => exact ⟨o, .silent, h.call c⟩
  | resume t =>
    obtain ⟨rest, hl, hready, rfl⟩ := hstep.resumed
    have hmutex := h.mutex
    rw [hl.countP_eq holds] at hmutex
    obtain ⟨hrest, hlock⟩ := countP_alone hmutex hready
    cases hholds : t.holds with
    | false =>
      obtain ⟨c, rfl⟩ : ∃ c, t = .acquiring c := by
        cases t with
        | acquiring c => exact ⟨c, rfl⟩
        | suffixFound | portFound => cases hholds
      rw [← h.idle (hlock.trans hholds)]
      exact Left.enter hrest
    | true =>
      obtain ⟨s, rfl, henter⟩ := h.search t (hl.mem_iff.mpr List.mem_cons_self) hholds
      obtain ⟨-, -, -, hresume⟩ := RegistryCall.apply_of_suspended henter
      refine ⟨(t.call.apply s.subnets).1, ?_, ?_⟩
      · simp only [RegistryStep.returns, hresume]
        exact .call t.call
      · rw [hresume]
        refine Left.free (s := s.locked (t.call.apply s.subnets).1) ?_ rfl
        simpa [RegistryProgress.tasks] using hrest

end Registry

namespace RegistryRun

open RegistryTask

variable {steps : List (Registry × RegistryStep)} {p : Registry}

/-- A call that was made has returned, or is under way. -/
theorem returned_once (hrun : RegistryRun steps p) (c : RegistryCall) :
    (steps.filterMap fun x => x.2.returns x.1).countP (fun r => r.1 = c)
        + p.tasks.countP (fun t => t.call = c)
      = (steps.flatMap fun x => x.2.made).count c := by
  have h := Run.balance (fun q : Registry => q.tasks.countP fun t => t.call = c)
    (fun x => ((x.2.returns x.1).any fun r => r.1 = c).toNat) (fun x => x.2.made.count c)
    hrun ?_ ?_
  · rw [total_toNat] at h
    rw [List.countP_filterMap, Nat.add_comm, List.count_flatMap]
    refine Eq.trans ?_ h
    congr 1
    refine List.countP_congr fun x _ => ?_
    cases x.2.returns x.1 <;> simp
  · rintro q ⟨-, -, htasks⟩
    rw [htasks]
    rfl
  · intro q a q' hstep
    cases a with
    | call c' =>
      cases hstep with
      | call =>
        rw [List.countP_append, List.countP_singleton]
        simp only [RegistryStep.returns, RegistryStep.made, RegistryTask.call]
        by_cases hc : c' = c <;> simp [hc]
    | resume t =>
      obtain ⟨rest, hl, -, rfl⟩ := hstep.resumed
      rw [hl.countP_eq, List.countP_append, List.countP_cons]
      simp only [RegistryStep.returns, RegistryStep.made, List.count_nil, Nat.add_zero]
      rcases t.resume_cases q.state with ⟨t', hnext, hcall⟩ | ⟨r, hnext⟩
      · rw [hnext]
        by_cases hc : t.call = c <;> simp [RegistryProgress.tasks, hcall, hc]
      · rw [hnext]
        by_cases hc : t.call = c <;> simp [RegistryProgress.tasks, hc]

/-- The calls that have returned, in this order, make the registry what it is while no search
is under way. -/
theorem serial_returns (hrun : RegistryRun steps p) :
    ∃ s, Serial RegistryCall.apply (first steps p).state.subnets
        (steps.filterMap fun x => x.2.returns x.1) s ∧
      (p.state.subnetsMutex = false → p.state.subnets = s) := by
  have hstart : ∀ q : Registry, q.Initial → q.Left q.state.subnets := by
    rintro ⟨s, l⟩ ⟨-, hfree, rfl⟩
    exact .free rfl hfree
  obtain ⟨s, hserial, hleft⟩ := Run.serial Registry.Left (fun x => x.2.returns x.1)
    (fun q => q.state.subnets) hrun hstart fun _ _ _ _ hstep hleft => hleft.step hstep
  exact ⟨s, hserial, hleft.idle⟩

/-- However the calls overlap, they take effect one after another, in the order in which
they return: each returns what it returns in this order, and while no search is under way
the registry is what they have made of the one at the start.  Each call that was made
takes effect once, or is under way. -/
theorem calls_serial (hrun : RegistryRun steps p) :
    (∃ s, Serial RegistryCall.apply (first steps p).state.subnets
        (steps.filterMap fun x => x.2.returns x.1) s ∧
      (p.state.subnetsMutex = false → p.state.subnets = s)) ∧
    ∀ c, (steps.filterMap fun x => x.2.returns x.1).countP (fun r => r.1 = c)
        + p.tasks.countP (fun t => t.call = c)
      = (steps.flatMap fun x => x.2.made).count c :=
  ⟨serial_returns hrun, returned_once hrun⟩

/-- Two ports of a member, with the second call made while the first one searches. -/
theorem calls_serial_overlapping : ∃ steps p, RegistryRun steps p ∧
    (steps.filterMap fun x => x.2.returns x.1) =
      [(.createIPAddress "127.0.0", .ok (some "127.0.0.0")),
        (.createTCPAddress "127.0.0.0", .ok (some "127.0.0.0:0")),
        (.createTCPAddress "127.0.0.0", .ok (some "127.0.0.0:1"))] ∧
    ∃ s, Serial RegistryCall.apply (first steps p).state.subnets
        (steps.filterMap fun x => x.2.returns x.1) s ∧ p.state.subnets = s := by
  obtain ⟨steps, p, hrun, hreturns, hfree⟩ := exists_along
    (P := fun steps p => (steps.filterMap fun x => x.2.returns x.1) =
      [(.createIPAddress "127.0.0", .ok (some "127.0.0.0")),
        (.createTCPAddress "127.0.0.0", .ok (some "127.0.0.0:0")),
        (.createTCPAddress "127.0.0.0", .ok (some "127.0.0.0:1"))] ∧
      p.state.subnetsMutex = false)
    [.inl (.createIPAddress "127.0.0"), .inr 0, .inr 0, .inl (.createTCPAddress "127.0.0.0"),
      .inr 0, .inl (.createTCPAddress "127.0.0.0"), .inr 0, .inr 0, .inr 0] (by decide +kernel)
  obtain ⟨s, hserial, hidle⟩ := (calls_serial hrun).1
  exact ⟨steps, p, hrun, hreturns, s, hserial, hidle hfree⟩

end RegistryRun

end Unisockets.Signaling
