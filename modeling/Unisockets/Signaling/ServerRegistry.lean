import Unisockets.Signaling.AtomicCalls
import Unisockets.Transition.Refinement

/-!
# The registry of a run of the server

The handlers of the server call the five functions on `subnets`.  `ServerTask.registry`
says which call a suspended handler is in, and `ServerTask.after` where the handler goes on
with what the call returns.

A run of the server, reduced to these calls, is a run of calls on the registry
(`ServerRun.registry`).  The allocation of addresses and ports in the server is therefore
that of calls that are made one after another: `ServerRun.registry_serial`.
-/

namespace Unisockets.Signaling

open JsStd Transition

namespace ServerTask

/-- The call on the registry that a handler is in, and how far it is. -/
def registry : ServerTask → Option RegistryTask
  | .knockCreating data _ => some (.acquiring (.createIPAddress data.subnet))
  | .knockSearching data _ newSuffix => some (.suffixFound data.subnet newSuffix)
  | .bindClaiming data => some (.acquiring (.claimTCPAddress data.alias))
  | .shutdownPort data => some (.acquiring (.removeTCPAddress data.alias))
  | .shutdownAddress data => some (.acquiring (.removeIPAddress data.alias))
  | .connectCreating data => some (.acquiring (.createTCPAddress data.id))
  | .connectSearching data newPort => some (.portFound data.id newPort)
  | .connectRejecting _ clientAlias _ => some (.acquiring (.removeTCPAddress clientAlias))
  | .goodbyeAddress id => some (.acquiring (.removeIPAddress id))
  | .releaseAddress _ tcpAddress => some (.acquiring (.removeIPAddress tcpAddress))
  | .releasePort _ tcpAddress => some (.acquiring (.removeTCPAddress tcpAddress))
  | _ => none

/-- Where a handler goes on when its call returns; nowhere when the call throws. -/
def after : ServerTask → RegistryResult → List ServerTask
  | .knockCreating _ client, .ok (some id) => [.knockCreated client id]
  | .knockSearching _ client _, .ok (some id) => [.knockCreated client id]
  | .bindClaiming data, .ok _ => [.bindClaimed data]
  | .shutdownPort data, .ok _ => [.shutdownPortRemoved data]
  | .shutdownAddress data, .ok _ => [.shutdownAddressRemoved data]
  | .connectCreating data, .ok (some clientAlias) => [.connectCreated data clientAlias]
  | .connectSearching data _, .ok (some clientAlias) => [.connectCreated data clientAlias]
  | .connectRejecting data clientAlias client, .ok _ =>
    [.connectRejected data clientAlias client]
  | .goodbyeAddress id, .ok _ => [.goodbyeAddressRemoved id]
  | .releaseAddress id tcpAddress, .ok _ => [.releaseAddressRemoved id tcpAddress]
  | .releasePort id tcpAddress, .ok _ => [.releasePortRemoved id tcpAddress]
  | _, _ => []

variable {t : ServerTask} {rt : RegistryTask}

theorem registry_after (t : ServerTask) (r : RegistryResult) :
    (t.after r).filterMap registry = [] := by
  unfold after
  split <;> rfl

theorem ready_registry (h : t.registry = some rt) (s : Server) : t.ready s = rt.ready s := by
  cases t <;> cases h <;> simp [ready, waits, RegistryTask.ready, RegistryTask.holds]

/-- How a handler and its call go on together. -/
inductive Proceeds (t : ServerTask) : RegistryProgress → List ServerTask → Prop where
  | suspended {rt : RegistryTask} {t' : ServerTask} (hregistry : t'.registry = some rt)
    (hafter : ∀ r, t'.after r = t.after r) : Proceeds t (.suspended rt) [t']
  | returned (r : RegistryResult) : Proceeds t (.returned r) (t.after r)

/-- A handler that has found a suffix goes on as before, and so does one that has found a
port. -/
private theorem after_searching (r : RegistryResult) (data : IKnockData) (client : Socket)
    (newSuffix : Nat) :
    (ServerTask.knockSearching data client newSuffix).after r
      = (ServerTask.knockCreating data client).after r := by
  cases r with
  | error e => rfl
  | ok text => cases text <;> rfl

private theorem after_connectSearching (r : RegistryResult) (data : IConnectData)
    (newPort : Nat) :
    (ServerTask.connectSearching data newPort).after r
      = (ServerTask.connectCreating data).after r := by
  cases r with
  | error e => rfl
  | ok text => cases text <;> rfl

/-- A handler that is in a call does what the call does, and goes on when it returns. -/
theorem resume_registry (h : t.registry = some rt) (s : Server) :
    (t.resume s).1 = (rt.resume s).1 ∧ t.Proceeds (rt.resume s).2 (t.resume s).2 := by
  cases t with
  | knockCreating data client =>
    cases h
    exact ⟨rfl, .suspended rfl fun r => after_searching r data client _⟩
  | knockSearching data client newSuffix =>
    cases h
    simp only [resume, RegistryTask.resume]
    split_ifs
    · exact ⟨rfl, .returned (.ok (some "-1"))⟩
    · exact ⟨rfl, .returned (.ok (some (toIPAddress data.subnet newSuffix)))⟩
  | bindClaiming data =>
    cases h
    simp only [resume, RegistryTask.resume, RegistryCall.enter]
    cases s.subnets.claim data.alias with
    | ok subnets => exact ⟨rfl, .returned (.ok none)⟩
    | error e => exact ⟨rfl, .returned (.error e)⟩
  | connectCreating data =>
    cases h
    simp only [resume, RegistryTask.resume, RegistryCall.enter]
    by_cases hm : (s.subnets.member (parseIPAddress data.id)).isSome = true
    · rw [if_pos hm, if_pos hm]
      exact ⟨rfl, .suspended rfl fun r => after_connectSearching r data _⟩
    · rw [if_neg hm, if_neg hm]
      exact ⟨rfl, .returned (.error _)⟩
  | connectSearching data newPort =>
    cases h
    exact ⟨rfl, .returned (.ok (some _))⟩
  | shutdownPort | shutdownAddress | connectRejecting | goodbyeAddress | releaseAddress
  | releasePort =>
    cases h
    exact ⟨rfl, .returned (.ok none)⟩
  | _ => cases h

/-- What a handler leaves of its call. -/
theorem Proceeds.filterMap_registry {progress : RegistryProgress} {next : List ServerTask}
    (h : t.Proceeds progress next) : next.filterMap registry = progress.tasks := by
  cases h with
  | suspended hregistry => simp [hregistry, RegistryProgress.tasks]
  | returned r => exact registry_after t r

/-- A handler that is in no call leaves the registry and the mutex alone; the calls that it
makes wait for the mutex. -/
theorem resume_outside (h : t.registry = none) (s : Server) :
    (t.resume s).1.subnets = s.subnets ∧ (t.resume s).1.subnetsMutex = s.subnetsMutex ∧
      ∀ rt ∈ (t.resume s).2.filterMap registry, rt = .acquiring rt.call := by
  have hstep := t.resumes s
  generalize (t.resume s).1 = s', (t.resume s).2 = next at hstep
  cases hstep with
  | searchSuffix | searchPort | fullSubnet | newMember | newPort | noMember | claimed
  | unclaimed | shutdownPort | shutdownAddress | rejecting | goodbyeAddress | releaseAddress
  | releasePort => cases h
  | swept id outbox =>
    refine ⟨rfl, rfl, fun rt hrt => ?_⟩
    obtain ⟨t', ht', hrt⟩ := List.mem_filterMap.mp hrt
    obtain ⟨tcpAddress, -, rfl⟩ := List.mem_map.mp ht'
    cases hrt
    rfl
  | _ => exact ⟨rfl, rfl, by simp [registry, RegistryTask.call]⟩

end ServerTask

/-! ## Tasks of a pool -/

section

variable {α β : Type*} {f : α → Option β} {a : α} {b : β}

private theorem eraseIdx_filterMap_none (hf : f a = none) {l : List α} {i : Nat}
    (h : l[i]? = some a) : (l.eraseIdx i).filterMap f = l.filterMap f := by
  induction l generalizing i with
  | nil => cases h
  | cons x l ih =>
    cases i with
    | zero =>
      obtain rfl : x = a := Option.some.inj h
      rw [List.filterMap_cons_none hf]
      rfl
    | succ i =>
      rw [List.eraseIdx_cons_succ, List.filterMap_cons, List.filterMap_cons, ih h]

private theorem eraseIdx_filterMap_some (hf : f a = some b) {l : List α} {i : Nat}
    (h : l[i]? = some a) : ∃ j, (l.filterMap f)[j]? = some b ∧
      (l.filterMap f).eraseIdx j = (l.eraseIdx i).filterMap f := by
  induction l generalizing i with
  | nil => cases h
  | cons x l ih =>
    cases i with
    | zero =>
      obtain rfl : x = a := Option.some.inj h
      rw [List.filterMap_cons_some hf]
      exact ⟨0, rfl, rfl⟩
    | succ i =>
      obtain ⟨j, hj, herase⟩ := ih h
      rw [List.eraseIdx_cons_succ, List.filterMap_cons, List.filterMap_cons]
      cases f x with
      | none => exact ⟨j, hj, herase⟩
      | some y =>
        refine ⟨j + 1, hj, ?_⟩
        rw [List.eraseIdx_cons_succ, herase]

end

/-- The tables of the server, without those that the calls do not use. -/
def Server.registry (s : Server) : Server :=
  { subnets := s.subnets, subnetsMutex := s.subnetsMutex }

/-- The registry and the calls that the handlers are in. -/
def ServerPool.registry (p : ServerPool) : Registry :=
  ⟨p.state.registry, p.tasks.filterMap ServerTask.registry⟩

namespace ServerStep

/-- The calls that are made in a step. -/
def calls (p : ServerPool) : ServerStep → List RegistryCall
  | .message _ _ => []
  | .close client => (p.state.closing client).map .removeIPAddress
  | .resume t =>
    if t.registry.isSome then []
    else ((t.resume p.state).2.filterMap ServerTask.registry).map RegistryTask.call

/-- The call that ends in a step, with what it returns or throws. -/
def returns (p : ServerPool) : ServerStep → Option (RegistryCall × RegistryResult)
  | .resume t => t.registry.bind fun rt => (RegistryStep.resume rt).returns p.registry
  | _ => none

/-- What is seen of the calls in a step: those that are made, and the one that ends. -/
def observed (x : ServerPool × ServerStep) : List (RegistryCall ⊕ RegistryCall × RegistryResult) :=
  (x.2.calls x.1).map .inl ++ (x.2.returns x.1).toList.map .inr

end ServerStep

/-- What is seen of the calls in a step. -/
def RegistryStep.observed (x : Registry × RegistryStep) :
    List (RegistryCall ⊕ RegistryCall × RegistryResult) :=
  x.2.made.map .inl ++ (x.2.returns x.1).toList.map .inr

/-- A call reads and changes the registry and the mutex only. -/
theorem RegistryTask.resume_registry (rt : RegistryTask) (s : Server) :
    rt.resume s.registry = ((rt.resume s).1.registry, (rt.resume s).2) := by
  cases rt with
  | acquiring c =>
    cases c with
    | createIPAddress subnet => rfl
    | createTCPAddress ipAddress =>
      have hsame : s.registry.subnets = s.subnets := rfl
      simp only [resume, RegistryCall.enter, hsame]
      by_cases hm : (s.subnets.member (parseIPAddress ipAddress)).isSome = true
      · rw [if_pos hm, if_pos hm]
        rfl
      · rw [if_neg hm, if_neg hm]
        rfl
    | claimTCPAddress tcpAddress =>
      simp only [resume, RegistryCall.enter, Server.registry]
      cases s.subnets.claim tcpAddress <;> rfl
    | removeIPAddress ipAddress => rfl
    | removeTCPAddress tcpAddress => rfl
  | suffixFound subnet newSuffix =>
    simp only [resume]
    split_ifs <;> rfl
  | portFound ipAddress newPort => rfl

namespace ServerPool

/-- Calls that are made one after another. -/
private theorem path_calls (s : Server) (l : List RegistryTask) (calls : List RegistryCall) :
    ∃ path, Path Registry.Step ⟨s, l⟩ path ⟨s, l ++ calls.map .acquiring⟩ ∧
      path.flatMap RegistryStep.observed = calls.map .inl := by
  induction calls generalizing l with
  | nil => exact ⟨[], by simpa using Path.nil _, rfl⟩
  | cons c calls ih =>
    obtain ⟨path, hpath, hobserved⟩ := ih (l ++ [.acquiring c])
    refine ⟨(⟨s, l⟩, .call c) :: path, .cons (.call c) ?_, ?_⟩
    · simpa using hpath
    · rw [List.flatMap_cons, hobserved]
      rfl

variable {p p' : ServerPool}

/-- A handler that is in a call takes a step of the call. -/
private theorem registry_call {i : Nat} {t : ServerTask} {rt : RegistryTask}
    (ht : p.tasks[i]? = some t) (hrt : t.registry = some rt) (hready : t.ready p.state = true) :
    ∃ path, Path Registry.Step p.registry path
        (registry ⟨(t.resume p.state).1, p.tasks.eraseIdx i ++ (t.resume p.state).2⟩) ∧
      path.flatMap RegistryStep.observed = ServerStep.observed (p, .resume t) := by
  obtain ⟨hstate, hproceeds⟩ := ServerTask.resume_registry hrt p.state
  obtain ⟨j, hj, herase⟩ := eraseIdx_filterMap_some hrt ht
  have hgoes : rt.ready p.registry.state = true := by
    rw [ServerTask.ready_registry hrt] at hready
    exact hready
  have hresume : RegistryTask.system.resumeAt j p.registry = some
      (registry ⟨(t.resume p.state).1, p.tasks.eraseIdx i ++ (t.resume p.state).2⟩) := by
    have htask : p.registry.tasks[j]? = some rt := hj
    have hsame : rt.resume p.registry.state
        = ((rt.resume p.state).1.registry, (rt.resume p.state).2) := rt.resume_registry p.state
    simp only [TaskSystem.resumeAt, htask]
    show (if rt.ready p.registry.state = true then some (Pool.mk (rt.resume p.registry.state).1
      (p.registry.tasks.eraseIdx j ++ (rt.resume p.registry.state).2.tasks)) else none) = _
    rw [if_pos hgoes, hsame]
    simp only [registry, List.filterMap_append, hstate, hproceeds.filterMap_registry, herase]
  refine ⟨[(p.registry, .resume rt)], .single (.resume hj hresume), ?_⟩
  simp [RegistryStep.observed, RegistryStep.made, ServerStep.observed, ServerStep.calls,
    ServerStep.returns, hrt]

/-- A handler that is in no call makes the calls that it leaves behind. -/
private theorem registry_outside {i : Nat} {t : ServerTask} (ht : p.tasks[i]? = some t)
    (hrt : t.registry = none) :
    ∃ path, Path Registry.Step p.registry path
        (registry ⟨(t.resume p.state).1, p.tasks.eraseIdx i ++ (t.resume p.state).2⟩) ∧
      path.flatMap RegistryStep.observed = ServerStep.observed (p, .resume t) := by
  obtain ⟨hsubnets, hmutex, hnext⟩ := ServerTask.resume_outside hrt p.state
  obtain ⟨path, hpath, hobserved⟩ := path_calls p.registry.state p.registry.tasks
    (((t.resume p.state).2.filterMap ServerTask.registry).map RegistryTask.call)
  refine ⟨path, ?_, ?_⟩
  · have hcalls : (((t.resume p.state).2.filterMap ServerTask.registry).map
        RegistryTask.call).map .acquiring = (t.resume p.state).2.filterMap ServerTask.registry := by
      rw [List.map_map]
      exact (List.map_congr_left fun rt hrt => (hnext rt hrt).symm).trans (List.map_id _)
    rw [hcalls] at hpath
    have hend : registry ⟨(t.resume p.state).1, p.tasks.eraseIdx i ++ (t.resume p.state).2⟩
        = ⟨p.registry.state,
          p.registry.tasks ++ (t.resume p.state).2.filterMap ServerTask.registry⟩ := by
      simp only [registry, Server.registry, hsubnets, hmutex, List.filterMap_append,
        eraseIdx_filterMap_none hrt ht]
    rw [hend]
    exact hpath
  · rw [hobserved]
    simp [ServerStep.observed, ServerStep.calls, ServerStep.returns, hrt]

/-- A step of the server is a number of steps of the registry. -/
theorem Step.registry {a : ServerStep} (h : Step p a p') :
    ∃ path, Path Registry.Step p.registry path p'.registry ∧
      path.flatMap RegistryStep.observed = ServerStep.observed (p, a) := by
  cases h with
  | message operation client =>
    refine ⟨[], ?_, rfl⟩
    have hsame : (p.message operation client).registry = p.registry := by
      simp [ServerPool.registry, ServerPool.message, ServerTask.registry]
    rw [hsame]
    exact .nil _
  | close client =>
    obtain ⟨path, hpath, hobserved⟩ := path_calls p.registry.state p.registry.tasks
      ((p.state.closing client).map .removeIPAddress)
    refine ⟨path, ?_, ?_⟩
    · have hclose : (p.close client).registry = ⟨p.registry.state, p.registry.tasks
          ++ ((p.state.closing client).map .removeIPAddress).map .acquiring⟩ := by
        simp [ServerPool.registry, ServerPool.close, ServerTask.registry, Server.registry,
          Server.closed, List.filterMap_append, List.filterMap_map, Function.comp_def]
      rw [hclose]
      exact hpath
    · rw [hobserved]
      simp [ServerStep.observed, ServerStep.calls, ServerStep.returns]
  | @resume i t _ ht hp =>
    simp only [TaskSystem.resumeAt, ht] at hp
    split_ifs at hp with hready
    obtain rfl := Option.some.inj hp
    cases hrt : t.registry with
    | some rt =>
      exact registry_call ht hrt hready
    | none =>
      exact registry_outside ht hrt

end ServerPool

/-! ## Runs -/

section

variable {γ γ' δ : Type*} {made : δ → List γ} {ended : δ → Option γ'}

private theorem filterMap_getRight (l : List δ) :
    (l.flatMap fun x => (made x).map Sum.inl ++ (ended x).toList.map Sum.inr).filterMap
      Sum.getRight? = l.filterMap ended := by
  induction l with
  | nil => rfl
  | cons x l ih =>
    rw [List.flatMap_cons, List.filterMap_append, ih, List.filterMap_cons, List.filterMap_append,
      List.filterMap_map, List.filterMap_map]
    cases ended x <;> simp [Function.comp_def]

private theorem filterMap_getLeft (l : List δ) :
    (l.flatMap fun x => (made x).map Sum.inl ++ (ended x).toList.map Sum.inr).filterMap
      Sum.getLeft? = l.flatMap made := by
  induction l with
  | nil => rfl
  | cons x l ih =>
    rw [List.flatMap_cons, List.filterMap_append, ih, List.flatMap_cons, List.filterMap_append,
      List.filterMap_map, List.filterMap_map]
    cases ended x <;> simp [Function.comp_def]

end

variable {steps : List (ServerPool × ServerStep)} {p : ServerPool}

/-- A run of the server, reduced to its calls on the registry, is a run of these calls. -/
theorem ServerRun.registry (hrun : ServerRun steps p) :
    ∃ calls, Run (· = (⟨{}, []⟩ : Registry)) Registry.Step calls p.registry ∧
      calls.flatMap RegistryStep.observed = steps.flatMap ServerStep.observed := by
  refine Run.expand ServerPool.registry ServerStep.observed RegistryStep.observed ?_ ?_ hrun
  · rintro q rfl
    rfl
  · exact fun q a q' hstep => hstep.registry

/-- In every run of the server the calls on the registry take effect one after another, in
the order in which they return to their handlers: each returns what it returns in this
order, and while no handler searches the registry is what they have made of an empty one.
Each call that was made takes effect once, or its handler is still in it. -/
theorem ServerRun.registry_serial (hrun : ServerRun steps p) :
    (∃ s, Serial RegistryCall.apply .empty (steps.filterMap fun x => x.2.returns x.1) s ∧
      (p.state.subnetsMutex = false → p.state.subnets = s)) ∧
    ∀ c, (steps.filterMap fun x => x.2.returns x.1).countP (fun r => r.1 = c)
        + p.tasks.countP (fun t => t.registry.any fun rt => rt.call = c)
      = (steps.flatMap fun x => x.2.calls x.1).count c := by
  obtain ⟨calls, hcalls, hobserved⟩ := hrun.registry
  have hreturns : (calls.filterMap fun x => x.2.returns x.1)
      = steps.filterMap fun x => x.2.returns x.1 := by
    have hright := congrArg (List.filterMap Sum.getRight?) hobserved
    exact ((filterMap_getRight calls).symm.trans hright).trans (filterMap_getRight steps)
  have hmade : (calls.flatMap fun x => x.2.made) = steps.flatMap fun x => x.2.calls x.1 := by
    have hleft := congrArg (List.filterMap Sum.getLeft?) hobserved
    exact ((filterMap_getLeft calls).symm.trans hleft).trans (filterMap_getLeft steps)
  have hfirst : first calls p.registry = ⟨{}, []⟩ := hcalls.init_first
  have hserial : RegistryRun calls p.registry := hcalls.mono fun q hq => by
    rw [hq]
    exact ⟨.empty, rfl, rfl⟩
  obtain ⟨s, hs, hidle⟩ := RegistryRun.serial_returns hserial
  have honce := RegistryRun.returned_once hserial
  rw [hreturns] at hs honce
  rw [hmade] at honce
  rw [hfirst] at hs
  refine ⟨⟨s, hs, hidle⟩, fun c => ?_⟩
  rw [← honce c]
  congr 1
  show _ = (p.tasks.filterMap ServerTask.registry).countP fun rt => rt.call = c
  rw [List.countP_filterMap]
  refine List.countP_congr fun t _ => ?_
  cases t.registry <;> simp

/-- Two clients, of which the second connects twice at a time. -/
theorem ServerRun.registry_serial_connects : ∃ steps p, ServerRun steps p ∧
    (steps.filterMap fun x => x.2.returns x.1) =
      [(.createIPAddress "10.0.0", .ok (some "10.0.0.0")),
        (.createIPAddress "10.0.0", .ok (some "10.0.0.1")),
        (.createTCPAddress "10.0.0.1", .ok (some "10.0.0.1:0")),
        (.createTCPAddress "10.0.0.1", .ok (some "10.0.0.1:1"))] ∧
    ∃ s, Serial RegistryCall.apply .empty (steps.filterMap fun x => x.2.returns x.1) s ∧
      p.state.subnets = s := by
  obtain ⟨steps, p, hrun, hreturns, hfree⟩ := ServerRun.exists_along
    (P := fun steps p => (steps.filterMap fun x => x.2.returns x.1) =
      [(.createIPAddress "10.0.0", .ok (some "10.0.0.0")),
        (.createIPAddress "10.0.0", .ok (some "10.0.0.1")),
        (.createTCPAddress "10.0.0.1", .ok (some "10.0.0.1:0")),
        (.createTCPAddress "10.0.0.1", .ok (some "10.0.0.1:1"))] ∧
      p.state.subnetsMutex = false)
    (ServerRun.handling (.knock ⟨"10.0.0", ""⟩) 1 5
      ++ ServerRun.handling (.knock ⟨"10.0.0", ""⟩) 2 5
      ++ [.message (.connect ⟨"10.0.0.1", "10.0.0.0:80", "u"⟩) 2,
        .message (.connect ⟨"10.0.0.1", "10.0.0.0:80", "v"⟩) 2,
        .resume 0, .resume 0, .resume 0, .resume 1, .resume 0, .resume 1]) (by decide +kernel)
  obtain ⟨s, hserial, hidle⟩ := (ServerRun.registry_serial hrun).1
  exact ⟨steps, p, hrun, hreturns, s, hserial, hidle hfree⟩

end Unisockets.Signaling
