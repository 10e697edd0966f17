import Unisockets.Signaling.ServerBridge
import Unisockets.Signaling.WellFormed
import Unisockets.Transition.Since

/-!
# Calls on the registry

The five functions of the server that work on `subnets` under the mutex, apart from the
handlers that call them.  Any number of calls are under way at a time.  A call waits for the
mutex; the two that search hold it over an await.

`RegistryTask` names the places where a call can be suspended and `RegistryTask.resume` says
what it does from there.  `RegistryTask.advance_program` is the proof that a task does what
the suspended function of `Unisockets.Signaling.Server` does.
-/

namespace Unisockets.Signaling

open JsStd Async Transition

inductive RegistryCall where
  | createIPAddress (subnet : String)
  | createTCPAddress (ipAddress : String)
  | claimTCPAddress (tcpAddress : String)
  | removeIPAddress (ipAddress : String)
  | removeTCPAddress (tcpAddress : String)
  deriving DecidableEq, Repr

/-- What a call returns or throws; only the first two return a text. -/
abbrev RegistryResult := Except SignalingError (Option String)

/-- A suspended call.  The last two hold the mutex. -/
inductive RegistryTask where
  | acquiring (call : RegistryCall)
  | suffixFound (subnet : String) (newSuffix : Nat)
  | portFound (ipAddress : String) (newPort : Nat)
  deriving DecidableEq, Repr

/-- How far a call gets in one go. -/
inductive RegistryProgress where
  | suspended (task : RegistryTask)
  | returned (result : RegistryResult)
  deriving DecidableEq

namespace RegistryCall

/-- The addresses of a call are well formed, and its numbers are printed and parsed exactly; an
alias will do for `removeIPAddress`. -/
def WellFormed : RegistryCall → Prop
  | .createIPAddress subnet => IsSubnet subnet
  | .createTCPAddress ipAddress => IsAddress ipAddress ∧ (parseIPAddress ipAddress).Readable
  | .claimTCPAddress tcpAddress => IsAlias tcpAddress ∧ ReadableAlias tcpAddress
  | .removeIPAddress ipAddress =>
    (IsAddress ipAddress ∨ IsAlias ipAddress) ∧ (parseIPAddress ipAddress).Readable
  | .removeTCPAddress tcpAddress => IsAlias tcpAddress ∧ ReadableAlias tcpAddress

instance : DecidablePred WellFormed
  | .createIPAddress _ => inferInstanceAs (Decidable (IsSubnet _))
  | .createTCPAddress _ => inferInstanceAs (Decidable (IsAddress _ ∧ IPAddress.Readable _))
  | .claimTCPAddress _ => inferInstanceAs (Decidable (IsAlias _ ∧ ReadableAlias _))
  | .removeIPAddress _ =>
    inferInstanceAs (Decidable ((IsAddress _ ∨ IsAlias _) ∧ IPAddress.Readable _))
  | .removeTCPAddress _ => inferInstanceAs (Decidable (IsAlias _ ∧ ReadableAlias _))

/-- The function that is called. -/
def program : RegistryCall → Handler (Option String)
  | .createIPAddress subnet => do return some (← Server.createIPAddress subnet)
  | .createTCPAddress ipAddress => do return some (← Server.createTCPAddress ipAddress)
  | .claimTCPAddress tcpAddress => do
    Server.claimTCPAddress tcpAddress
    return none
  | .removeIPAddress ipAddress => do
    Server.removeIPAddress ipAddress
    return none
  | .removeTCPAddress tcpAddress => do
    Server.removeTCPAddress tcpAddress
    return none

/-- What a call does when it gets the mutex, up to its next await. -/
def enter : RegistryCall → Server → Server × RegistryProgress
  | .createIPAddress subnet, s =>
    ({ s with subnets := s.subnets.ensure subnet, subnetsMutex := true },
      .suspended (.suffixFound subnet ((s.subnets.ensure subnet).nextSuffix subnet)))
  | .createTCPAddress ipAddress, s =>
    let key := parseIPAddress ipAddress
    if (s.subnets.member key).isSome then
      ({ s with subnets := s.subnets.sortPorts key, subnetsMutex := true },
        .suspended (.portFound ipAddress ((s.subnets.sortPorts key).nextPort key)))
    else
      (s.locked s.subnets, .returned (.error
        (if s.subnets.has key.subnet then .SuffixDoesNotExistError
          else .SubnetDoesNotExistError)))
  | .claimTCPAddress tcpAddress, s =>
    match s.subnets.claim tcpAddress with
    | .ok subnets => (s.locked subnets, .returned (.ok none))
    | .error e => (s.locked s.subnets, .returned (.error e))
  | .removeIPAddress ipAddress, s =>
    (s.locked (s.subnets.removeIPAddress ipAddress), .returned (.ok none))
  | .removeTCPAddress tcpAddress, s =>
    (s.locked (s.subnets.removeTCPAddress tcpAddress), .returned (.ok none))

end RegistryCall

namespace RegistryTask

/-- The call that a task belongs to. -/
def call : RegistryTask → RegistryCall
  | .acquiring call => call
  | .suffixFound subnet _ => .createIPAddress subnet
  | .portFound ipAddress _ => .createTCPAddress ipAddress

/-- Whether a task holds the mutex. -/
def holds : RegistryTask → Bool
  | .acquiring _ => false
  | .suffixFound .. | .portFound .. => true

def ready (t : RegistryTask) (s : Server) : Bool := t.holds || !s.subnetsMutex

/-- What a task does from the await where it is suspended to the next one. -/
def resume : RegistryTask → Server → Server × RegistryProgress
  | .acquiring call, s => call.enter s
  | .suffixFound subnet newSuffix, s =>
    if newSuffix > 255 then (s.locked s.subnets, .returned (.ok (some "-1")))
    else (s.locked (s.subnets.setMember ⟨subnet, newSuffix⟩ ⟨[]⟩),
      .returned (.ok (some (toIPAddress subnet newSuffix))))
  | .portFound ipAddress newPort, s =>
    let key := parseIPAddress ipAddress
    (s.locked (s.subnets.pushPort key newPort),
      .returned (.ok (some (toTCPAddress (toIPAddress key.subnet key.suffix) newPort))))

/-- The rest of the function, from the await where the task is suspended. -/
def program : RegistryTask → Handler (Option String)
  | .acquiring call => call.program.rest
  | .suffixFound subnet newSuffix => do
    return some (← Server.createIPAddressSearched subnet newSuffix)
  | .portFound ipAddress newPort => do
    return some (← Server.createTCPAddressSearched ipAddress newPort)

end RegistryTask

/-- How the rest of a function stands. -/
def RegistryProgress.outcome : RegistryProgress → Outcome Server SignalingError (Option String)
  | .suspended task => .suspended (fun s => task.ready s) task.program
  | .returned (.ok result) => .returned result
  | .returned (.error e) => .threw e

/-- A call waits for the mutex first. -/
theorem RegistryCall.advance_program (c : RegistryCall) (s : Server) :
    advance c.program s =
      (s, [], (RegistryProgress.suspended (.acquiring c)).outcome) := by
  cases c <;> rfl

theorem RegistryCall.advance_enter (c : RegistryCall) (s : Server) :
    advance c.program.rest s = ((c.enter s).1, [], (c.enter s).2.outcome) := by
  cases c with
  | createIPAddress subnet => rfl
  | createTCPAddress ipAddress =>
    show advance ((Server.createTCPAddress ipAddress).rest >>= fun a => pure (some a)) s = _
    rw [advance_bind, enter]
    cases hm : s.subnets.member (parseIPAddress ipAddress) with
    | none =>
      rw [ServerTask.advance_createTCPAddress_threw ipAddress s hm]
      simp only [Option.isSome_none, Bool.false_eq_true, if_false]
      rfl
    | some m =>
      rw [ServerTask.advance_createTCPAddress ipAddress s hm]
      simp only [Option.isSome_some, if_true]
      rfl
  | claimTCPAddress tcpAddress =>
    show advance ((Server.claimTCPAddress tcpAddress).rest >>= fun _ => pure none) s = _
    have hclaim := ServerTask.advance_claim tcpAddress s
    rw [advance_bind, enter]
    cases hc : s.subnets.claim tcpAddress with
    | ok subnets =>
      rw [hc] at hclaim
      rw [hclaim]
      rfl
    | error e =>
      rw [hc] at hclaim
      rw [hclaim]
      rfl
  | removeIPAddress ipAddress => rfl
  | removeTCPAddress tcpAddress => rfl

/-- A task and the suspended function do the same. -/
theorem RegistryTask.advance_program (t : RegistryTask) (s : Server) :
    advance t.program s = ((t.resume s).1, [], (t.resume s).2.outcome) := by
  cases t with
  | acquiring c => exact c.advance_enter s
  | suffixFound subnet newSuffix =>
    simp only [program, Server.createIPAddressSearched, resume]
    by_cases h : newSuffix > 255
    · rw [if_pos h, if_pos h]
      rfl
    · rw [if_neg h, if_neg h]
      rfl
  | portFound ipAddress newPort => rfl

/-! ## Any number of calls -/

namespace RegistryProgress

/-- The task that a call leaves behind. -/
def tasks : RegistryProgress → List RegistryTask
  | .suspended task => [task]
  | .returned _ => []

end RegistryProgress

/-- The calls on the registry of a server. -/
def RegistryTask.system : TaskSystem Server RegistryTask where
  ready := ready
  resume t s := ((t.resume s).1, (t.resume s).2.tasks)

/-- The registry and the calls that are under way. -/
abbrev Registry := Pool Server RegistryTask

inductive RegistryStep where
  | call (call : RegistryCall)
  | resume (task : RegistryTask)
  deriving DecidableEq, Repr

namespace Registry

/-- A registry without calls. -/
def Initial (p : Registry) : Prop :=
  p.state.subnets.WellFormed ∧ p.state.subnetsMutex = false ∧ p.tasks = []

inductive Step (p : Registry) : RegistryStep → Registry → Prop where
  | call (c : RegistryCall) : Step p (.call c) ⟨p.state, p.tasks ++ [.acquiring c]⟩
  | resume {i : Nat} {t : RegistryTask} {p' : Registry} (ht : p.tasks[i]? = some t)
      (hp : RegistryTask.system.resumeAt i p = some p') : Step p (.resume t) p'

/-- A task that is resumed is replaced by what it leaves behind. -/
theorem Step.resumed {p p' : Registry} {t : RegistryTask} (h : Step p (.resume t) p') :
    ∃ rest, p.tasks.Perm (t :: rest) ∧ t.ready p.state = true ∧
      p' = ⟨(t.resume p.state).1, rest ++ (t.resume p.state).2.tasks⟩ := by
  cases h with
  | resume ht hp => exact TaskSystem.resumed ht hp

/-- A step, with the task that is resumed given by its position. -/
def next (p : Registry) : RegistryCall ⊕ Nat → Option (RegistryStep × Registry)
  | .inl c => some (.call c, ⟨p.state, p.tasks ++ [.acquiring c]⟩)
  | .inr i =>
    match p.tasks[i]? with
    | none => none
    | some t => (RegistryTask.system.resumeAt i p).map fun p' => (.resume t, p')

theorem step_of_next {p p' : Registry} {e : RegistryCall ⊕ Nat} {a : RegistryStep}
    (h : p.next e = some (a, p')) : Step p a p' := by
  cases e with
  | inl c =>
    cases h
    exact .call c
  | inr i =>
    simp only [next] at h
    cases ht : p.tasks[i]? with
    | none =>
      rw [ht] at h
      cases h
    | some t =>
      rw [ht] at h
      obtain ⟨q, hq, he⟩ := Option.map_eq_some_iff.mp h
      cases he
      exact .resume ht hq

end Registry

/-- A run of calls on the registry. -/
abbrev RegistryRun := Run Registry.Initial Registry.Step

end Unisockets.Signaling
