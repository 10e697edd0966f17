import Unisockets.Signaling.Settle
import Unisockets.Signaling.Traffic

/-!
# Every schedule of the handlers ends

When no more messages arrive and no socket closes, the suspended handlers are
all that is left to run, in whatever order.  `ServerPool.Schedule` is such an
order.  Whatever it is, it is no longer than the work that is left, and where it
cannot go on no handler is suspended: the mutex of the registry deadlocks
nobody and no handler waits for ever.
-/

namespace Unisockets.Signaling

open JsStd Transition

namespace ServerPool

/-- `n` steps of the handlers, with no event in between. -/
inductive Schedule : ServerPool → Nat → ServerPool → Prop where
  | stop (p : ServerPool) : Schedule p 0 p
  | step {p q r : ServerPool} {t : ServerTask} {n : Nat} (hstep : Step p (.resume t) q)
    (hrest : Schedule q n r) : Schedule p (n + 1) r

/-- A pool in which no handler can be resumed. -/
def Stuck (p : ServerPool) : Prop := ∀ t q, ¬Step p (.resume t) q

theorem work_step {p q : ServerPool} {t : ServerTask} (h : Step p (.resume t) q) :
    work q.state q.tasks < work p.state p.tasks := by
  obtain ⟨rest, hl, -, rfl⟩ := h.resumed
  rw [work_perm hl]
  have hcomm : (rest ++ (t.resume p.state).2).Perm ((t.resume p.state).2 ++ rest) :=
    List.perm_append_comm
  show work (t.resume p.state).1 (rest ++ (t.resume p.state).2) < _
  rw [work_perm hcomm]
  exact work_lt (t.resumes p.state)

namespace Schedule

variable {p q : ServerPool} {n : Nat}

/-- A schedule uses up work with every step. -/
theorem work_le (h : Schedule p n q) : n + work q.state q.tasks ≤ work p.state p.tasks := by
  induction h with
  | stop p => omega
  | step hstep hrest ih =>
    have hlt := work_step hstep
    omega

/-- A schedule goes on with the run that leads to its start. -/
theorem run (h : Schedule p n q) {steps : List (ServerPool × ServerStep)}
    (hrun : ServerRun steps p) :
    ∃ resumed : List (ServerPool × ServerStep), resumed.length = n ∧
      (∀ x ∈ resumed, ∃ t, x.2 = .resume t) ∧ ServerRun (steps ++ resumed) q := by
  induction h generalizing steps with
  | stop p => exact ⟨[], rfl, by simp, by simpa using hrun⟩
  | @step p q r t n hstep hrest ih =>
    obtain ⟨resumed, hlength, hresumed, hrun'⟩ := ih (hrun.snoc hstep)
    refine ⟨(p, .resume t) :: resumed, by simp [hlength], ?_, ?_⟩
    · intro x hx
      rcases List.mem_cons.mp hx with rfl | hx
      · exact ⟨t, rfl⟩
      · exact hresumed x hx
    · simpa using hrun'

end Schedule

end ServerPool

namespace ServerRun

variable {steps : List (ServerPool × ServerStep)} {p q : ServerPool} {n : Nat}

/-- The end of a schedule is a state of the server's runs. -/
theorem wellFormed_append {resumed : List (ServerPool × ServerStep)}
    (hwell : WellFormed steps) (hresumed : ∀ x ∈ resumed, ∃ t, x.2 = .resume t) :
    WellFormed (steps ++ resumed) := by
  intro x hx
  rcases List.mem_append.mp hx with hx | hx
  · exact hwell x hx
  · obtain ⟨t, ht⟩ := hresumed x hx
    rw [ht]
    trivial

/-- A handler that is suspended does not keep the others from going on. -/
theorem idle_of_stuck (hrun : ServerRun steps p) (hwell : WellFormed steps) (h : p.Stuck) :
    p.tasks = [] := by
  by_contra htasks
  obtain ⟨t, ht, hready⟩ := (hrun.sane hwell).exists_ready htasks
  obtain ⟨rest, -, hstep⟩ := ServerPool.exists_step ht hready
  exact h t _ hstep

private theorem countP_knocks {resumed : List (ServerPool × ServerStep)}
    (hresumed : ∀ x ∈ resumed, ∃ t, x.2 = .resume t) (client : Socket) :
    resumed.countP (fun x => x.2.knocks client) = 0 := by
  rw [List.countP_eq_zero]
  intro x hx
  obtain ⟨t, ht⟩ := hresumed x hx
  simp [ht, ServerStep.knocks]

/-- From every state of every run, no schedule of the handlers is longer than
the work that is left; where a schedule cannot go on, no handler is suspended
and every `Knock` of the run has been acknowledged, once. -/
theorem every_schedule (hrun : ServerRun steps p) (hwell : WellFormed steps)
    (h : ServerPool.Schedule p n q) :
    n ≤ work p.state p.tasks ∧
      (q.Stuck → q.tasks = [] ∧ ∀ client, q.state.outbox.countP (acknowledges client)
        = steps.countP fun x => x.2.knocks client) := by
  constructor
  · have hwork := h.work_le
    omega
  · intro hstuck
    obtain ⟨resumed, -, hresumed, hrun'⟩ := h.run hrun
    have hidle := hrun'.idle_of_stuck (wellFormed_append hwell hresumed) hstuck
    refine ⟨hidle, fun client => ?_⟩
    have hacknowledged := hrun'.acknowledged_once client
    rw [hidle, List.countP_append, countP_knocks hresumed] at hacknowledged
    simpa using hacknowledged

theorem every_schedule_knock : ∃ (steps : List (ServerPool × ServerStep)) (p q : ServerPool),
    ServerRun steps p ∧ ServerPool.Schedule p 2 q ∧ 2 ≤ work p.state p.tasks ∧
      (q.Stuck → q.tasks = [] ∧ ∀ client, q.state.outbox.countP (acknowledges client)
        = steps.countP fun x => x.2.knocks client) := by
  have hstart : ServerRun [] ServerPool.init := Run.start rfl
  have hrun := hstart.snoc (ServerPool.Step.message (.knock ⟨"10.0.0", ""⟩) 1)
  have hreceived := ServerPool.step_alone (s := {})
    (t := .received (.knock ⟨"10.0.0", ""⟩) 1) rfl
  have hcreating := ServerPool.step_alone (s := {}) (t := .knockCreating ⟨"10.0.0", ""⟩ 1) rfl
  have hschedule := ServerPool.Schedule.step hreceived (.step hcreating (.stop _))
  exact ⟨_, _, _, hrun, hschedule, every_schedule hrun (by decide) hschedule⟩

end ServerRun

end Unisockets.Signaling
