import Unisockets.Signaling.Outcome
import Unisockets.Transition.Run

/-!
# Runs of the server

The server is a pool of suspended handlers over its tables.  Three things can
happen: a message arrives, a socket closes, or one handler is resumed.  Every
order of these steps is a run; the runs in which a handler is finished before
the next event are among them.

`ServerRun.invariant` is the induction rule over runs.  The order of the pool
does not matter to it, so that a step may take the resumed task for the first
one and put the tasks it leaves behind in front.  What the task does is given
by its outcome, `ServerTask.Resumes`.
-/

namespace Unisockets.Signaling

open JsStd Transition

/-- The tables of the server and its suspended handlers. -/
abbrev ServerPool := Pool Server ServerTask

/-- A step of the server.  `resume` says which task is resumed. -/
inductive ServerStep where
  | message (operation : Operation) (client : Socket)
  | close (client : Socket)
  | resume (task : ServerTask)
  deriving DecidableEq, Repr

/-- An event of the server: the next step, with the resumed task given by its
position in the pool. -/
inductive ServerEvent where
  | message (operation : Operation) (client : Socket)
  | close (client : Socket)
  | resume (i : Nat)
  deriving DecidableEq, Repr

namespace ServerPool

def init : ServerPool := ⟨{}, []⟩

/-- The `message` event. -/
def message (p : ServerPool) (operation : Operation) (client : Socket) : ServerPool :=
  ⟨p.state, p.tasks ++ [.received operation client]⟩

/-- The `close` event. -/
def close (p : ServerPool) (client : Socket) : ServerPool :=
  ⟨p.state.closed client, p.tasks ++ (p.state.closing client).map .goodbyeAddress⟩

/-- The step relation. -/
inductive Step (p : ServerPool) : ServerStep → ServerPool → Prop where
  | message (operation : Operation) (client : Socket) :
    Step p (.message operation client) (p.message operation client)
  | close (client : Socket) : Step p (.close client) (p.close client)
  | resume {i : Nat} {t : ServerTask} {p' : ServerPool} (ht : p.tasks[i]? = some t)
      (hp : ServerTask.system.resumeAt i p = some p') : Step p (.resume t) p'

/-- The effect of an event, with the step it takes. -/
def next (p : ServerPool) : ServerEvent → Option (ServerStep × ServerPool)
  | .message operation client => some (.message operation client, p.message operation client)
  | .close client => some (.close client, p.close client)
  | .resume i =>
    match p.tasks[i]? with
    | none => none
    | some t => (ServerTask.system.resumeAt i p).map fun p' => (.resume t, p')

theorem step_of_next {p p' : ServerPool} {e : ServerEvent} {a : ServerStep}
    (h : p.next e = some (a, p')) : Step p a p' := by
  cases e with
  | message operation client =>
    cases h
    exact .message operation client
  | close client =>
    cases h
    exact .close client
  | resume i =>
    simp only [next] at h
    cases ht : p.tasks[i]? with
    | none =>
      rw [ht] at h
      cases h
    | some t =>
      rw [ht] at h
      obtain ⟨q, hq, he⟩ := Option.map_eq_some_iff.mp h
      cases he
      exact .resume ht hq

/-- A task that is alone and ready can be resumed. -/
theorem step_alone {s : Server} {t : ServerTask} (h : t.ready s = true) :
    Step ⟨s, [t]⟩ (.resume t) ⟨(t.resume s).1, (t.resume s).2⟩ := by
  apply Step.resume (i := 0) rfl
  simp [TaskSystem.resumeAt, ServerTask.system, h]

/-- A task that is resumed is replaced by those that it leaves behind. -/
theorem Step.resumed {p p' : ServerPool} {t : ServerTask} (h : Step p (.resume t) p') :
    ∃ rest, p.tasks.Perm (t :: rest) ∧ t.ready p.state = true ∧
      p' = ⟨(t.resume p.state).1, rest ++ (t.resume p.state).2⟩ := by
  cases h with
  | resume ht hp => exact TaskSystem.resumed ht hp

end ServerPool

/-- A run of the server, with its steps. -/
abbrev ServerRun := Run (· = ServerPool.init) ServerPool.Step

/-! ## Kinds of runs -/

/-- The id that a request carries for its sender. -/
def Operation.sender : Operation → Option String
  | .bind data => some data.id
  | .accepting data => some data.id
  | .shutdown data => some data.id
  | .connect data => some data.id
  | _ => none

namespace ServerStep

/-- A request carries an id that the server has acknowledged to its socket. -/
def OwnId (p : ServerPool) : ServerStep → Prop
  | .message operation client => ∀ id ∈ operation.sender,
      (client, .acknowledged { id := id, rejected := false }) ∈ p.state.outbox
  | _ => True

instance (p : ServerPool) : DecidablePred (OwnId p)
  | .message operation client => inferInstanceAs (Decidable (∀ id ∈ operation.sender,
      (client, .acknowledged { id := id, rejected := false }) ∈ p.state.outbox))
  | .close _ | .resume _ => isTrue trivial

/-- An event comes when no handler is suspended. -/
def Sequential (p : ServerPool) : ServerStep → Prop
  | .resume _ => True
  | _ => p.tasks = []

instance (p : ServerPool) : DecidablePred (Sequential p)
  | .message _ _ | .close _ => inferInstanceAs (Decidable (p.tasks = []))
  | .resume _ => isTrue trivial

end ServerStep

namespace ServerRun

/-- Every request of the run carries an id of its sender. -/
def OwnIds (steps : List (ServerPool × ServerStep)) : Prop := ∀ x ∈ steps, x.2.OwnId x.1

/-- Every handler of the run is finished before the next event. -/
def Sequential (steps : List (ServerPool × ServerStep)) : Prop :=
  ∀ x ∈ steps, x.2.Sequential x.1

instance (steps : List (ServerPool × ServerStep)) : Decidable (OwnIds steps) :=
  inferInstanceAs (Decidable (∀ x ∈ steps, x.2.OwnId x.1))

instance (steps : List (ServerPool × ServerStep)) : Decidable (Sequential steps) :=
  inferInstanceAs (Decidable (∀ x ∈ steps, x.2.Sequential x.1))

/-- A message, followed by `n` steps of the oldest handler. -/
def handling (operation : Operation) (client : Socket) (n : Nat) : List ServerEvent :=
  .message operation client :: List.replicate n (.resume 0)

/-- The close of a socket, followed by `n` steps of the oldest handler. -/
def closing (client : Socket) (n : Nat) : List ServerEvent :=
  .close client :: List.replicate n (.resume 0)

/-- A run with a property that can be evaluated. -/
theorem exists_along {P : List (ServerPool × ServerStep) → ServerPool → Prop}
    [∀ steps p, Decidable (P steps p)] (es : List ServerEvent)
    (h : ((Run.along ServerPool.next es .init []).any fun r => decide (P r.1 r.2)) = true) :
    ∃ steps p, ServerRun steps p ∧ P steps p := by
  refine Run.exists_along (· = ServerPool.init) ?_ rfl es h
  exact fun _ _ _ _ hnext => ServerPool.step_of_next hnext

variable {steps : List (ServerPool × ServerStep)} {p : ServerPool}

/-- A step is taken in a state that a part of the run leads to; a task that is
resumed there is in the pool. -/
theorem of_mem {x : ServerPool × ServerStep} (hrun : ServerRun steps p) (hx : x ∈ steps) :
    ∃ before, before ⊆ steps ∧ ServerRun before x.1 ∧
      ∀ t, x.2 = .resume t → t ∈ x.1.tasks := by
  obtain ⟨before, s', hsub, hbefore, hstep⟩ := Run.of_mem hrun hx
  refine ⟨before, hsub, hbefore, fun t ht => ?_⟩
  rw [ht] at hstep
  cases hstep with
  | resume hget _ => exact List.mem_of_getElem? hget

/-- The induction rule over runs. -/
theorem invariant {I : Server → List ServerTask → Prop} {admits : ServerPool × ServerStep → Prop}
    (hrun : ServerRun steps p) (hadmits : ∀ x ∈ steps, admits x)
    (hperm : ∀ s l l', l.Perm l' → I s l → I s l')
    (hinit : I {} [])
    (hmessage : ∀ s l operation client, I s l →
      admits (⟨s, l⟩, .message operation client) → I s (.received operation client :: l))
    (hclose : ∀ s l client, I s l → admits (⟨s, l⟩, .close client) →
      I (s.closed client) ((s.closing client).map .goodbyeAddress ++ l))
    (hresume : ∀ s l t rest s' next, l.Perm (t :: rest) → I s (t :: rest) →
      t.ready s = true → admits (⟨s, l⟩, .resume t) → ServerTask.Resumes s t s' next →
      I s' (next ++ rest)) :
    I p.state p.tasks := by
  refine Run.invariant (I := fun p => I p.state p.tasks) hrun hadmits ?_ ?_
  · rintro q rfl
    exact hinit
  · intro q a q' hq ha hstep
    cases hstep with
    | message operation client =>
      exact hperm _ _ _ (List.perm_append_singleton _ _).symm (hmessage _ _ _ _ hq ha)
    | close client => exact hperm _ _ _ List.perm_append_comm (hclose _ _ _ hq ha)
    | resume ht hp =>
      obtain ⟨rest, hl, hr, rfl⟩ := TaskSystem.resumed ht hp
      exact hperm _ _ _ List.perm_append_comm
        (hresume _ _ _ _ _ _ hl (hperm _ _ _ hl hq) hr ha (ServerTask.resumes _ _))

end ServerRun

/-! ## Listeners -/

/-- The socket of every client has a `close` listener for its id. -/
def Server.Listening (s : Server) : Prop :=
  ∀ {id client}, s.clients.get id = some client → (client, id) ∈ s.closeListeners

namespace Server.Listening

variable {s s' : Server}

theorem close (h : s.Listening) (client : Socket) : (s.closed client).Listening := by
  intro id client' hget
  obtain ⟨hget, hid⟩ := Map.get_filter_eq_some_iff.mp hget
  have hmem := h hget
  refine List.mem_filter.mpr ⟨hmem, decide_eq_true ?_⟩
  rintro rfl
  exact of_decide_eq_true hid
    (List.mem_map.mpr ⟨(client', id), List.mem_filter.mpr ⟨hmem, decide_eq_true rfl⟩, rfl⟩)

theorem resume (h : s.Listening) {t : ServerTask} {next : List ServerTask}
    (hstep : ServerTask.Resumes s t s' next) : s'.Listening := by
  cases hstep with
  | register client id outbox =>
    intro id' client' hget
    have hget : (s.clients.set id client).get id' = some client' := hget
    rw [Map.get_set] at hget
    split_ifs at hget with hid
    · cases hget
      subst hid
      exact List.mem_append_right _ List.mem_cons_self
    · exact List.mem_append_left _ (h hget)
  | _ => exact h

end Server.Listening

theorem ServerRun.listening {steps : List (ServerPool × ServerStep)} {p : ServerPool}
    (hrun : ServerRun steps p) : p.state.Listening := by
  refine hrun.invariant (I := fun s _ => s.Listening) (fun _ _ => (trivial : True))
    (fun _ _ _ _ h => h) ?_ (fun _ _ _ _ h _ => h) ?_ ?_
  · intro id client hget
    cases hget
  · exact fun _ _ client h _ => h.close client
  · exact fun _ _ _ _ _ _ _ h _ _ hstep => h.resume hstep

end Unisockets.Signaling
