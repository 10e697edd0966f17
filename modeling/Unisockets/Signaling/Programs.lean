import Unisockets.Signaling.ServerBridge
import Unisockets.Signaling.ServerRun

/-!
# Runs of the programs

The results about runs of the server are about its tasks.  Here the server is
the pool of the suspended programs of `Unisockets.Signaling.Server`
themselves: an event starts its listener, which runs to its first await, and a
program that is resumed runs to its next one.

Along every list of events the two run in step (`ProgramPool.run_init`): the state is
the same, and at every position of the pool the program is the one that the
task stands for.  So every run of the programs is a run of the tasks, and what
is proved about the one holds of the other.
-/

namespace Unisockets.Signaling

open JsStd Transition Async

/-- The tables of the server and the programs of its suspended handlers. -/
abbrev ProgramPool := Pool Server (Suspension Server SignalingError)

namespace ProgramPool

def init : ProgramPool := ⟨{}, []⟩

/-- A listener is called: it runs to its first await. -/
def call (p : ProgramPool) (listener : Handler Unit) : ProgramPool :=
  ⟨(listener.resume p.state).1, p.tasks ++ (listener.resume p.state).2⟩

/-- The effect of an event. -/
def next (p : ProgramPool) : ServerEvent → Option ProgramPool
  | .message operation client => some (p.call (Server.onMessage operation client))
  | .close client => some (p.call (Server.close client))
  | .resume i => (TaskSystem.ofAsync Server SignalingError).resumeAt i p

/-- The pool after a list of events; `none` if one of them cannot happen. -/
def run : List ServerEvent → ProgramPool → Option ProgramPool
  | [], p => some p
  | e :: es, p => (p.next e).bind (run es)

end ProgramPool

namespace ServerPool

/-- The programs that the tasks of a pool stand for. -/
def programs (p : ServerPool) : ProgramPool := p.map ServerTask.program

theorem programs_message (p : ServerPool) (operation : Operation) (client : Socket) :
    p.programs.call (Server.onMessage operation client)
      = (p.message operation client).programs := by
  show (⟨_, _⟩ : ProgramPool) = ⟨_, _⟩
  rw [ServerTask.resume_onMessage]
  simp only [message, List.map_append]
  rfl

theorem programs_close (p : ServerPool) (client : Socket) :
    p.programs.call (Server.close client) = (p.close client).programs := by
  show (⟨_, _⟩ : ProgramPool) = ⟨_, _⟩
  rw [ServerTask.resume_close]
  simp only [close, List.map_append]
  rfl

/-- An event does the same to the tasks and to the programs. -/
theorem next_programs (p : ServerPool) (e : ServerEvent) :
    p.programs.next e = (p.next e).map fun r => r.2.programs := by
  cases e with
  | message operation client => exact congrArg some (programs_message p operation client)
  | close client => exact congrArg some (programs_close p client)
  | resume i =>
    have hbridge := ServerTask.bridge.resumeAt i p
    show (TaskSystem.ofAsync Server SignalingError).resumeAt i (p.map ServerTask.bridge.map) = _
    rw [hbridge]
    simp only [next]
    cases ht : p.tasks[i]? with
    | none => simp [TaskSystem.resumeAt, ht]
    | some t =>
      simp only [Option.map_map]
      rfl

end ServerPool

namespace ProgramPool

/-- A run of the programs follows the run of the tasks. -/
theorem run_programs (es : List ServerEvent) (p : ServerPool)
    (steps : List (ServerPool × ServerStep)) :
    run es p.programs
      = (Run.along ServerPool.next es p steps).map fun r => r.2.programs := by
  induction es generalizing p steps with
  | nil => rfl
  | cons e es ih =>
    rw [run, ServerPool.next_programs, Run.along]
    cases hnext : p.next e with
    | none => rfl
    | some r => exact ih r.2 (steps ++ [(p, r.1)])

/-- The programs can be taken through a list of events exactly if the tasks
can.  The tasks are at the end of a run of the server then, and stand for the
programs that are suspended. -/
theorem run_init (es : List ServerEvent) (p : ProgramPool) :
    run es init = some p ↔ ∃ steps q, ServerRun steps q ∧
      Run.along ServerPool.next es .init [] = some (steps, q) ∧ q.programs = p := by
  have hrun : run es init = _ := run_programs es ServerPool.init []
  rw [hrun]
  constructor
  · intro h
    obtain ⟨r, hr, hp⟩ := Option.map_eq_some_iff.mp h
    have hnext : ∀ q e a q', ServerPool.next q e = some (a, q') → ServerPool.Step q a q' :=
      fun _ _ _ _ h => ServerPool.step_of_next h
    have hstart : ServerRun [] ServerPool.init := .start rfl
    exact ⟨r.1, r.2, Run.of_along hnext hstart hr, hr, hp⟩
  · rintro ⟨steps, q, -, halong, rfl⟩
    rw [halong]
    rfl

end ProgramPool

end Unisockets.Signaling
