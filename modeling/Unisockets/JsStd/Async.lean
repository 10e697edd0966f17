import Mathlib.Data.List.InsertIdx
import Mathlib.Data.List.Perm.Basic
import Mathlib.Tactic.SplitIfs

/-!
# Async functions as programs with suspension points

JavaScript runs one piece of code at a time.  An async function runs until it
reaches an `await`; there it is suspended, other code runs, and later it is
resumed.  `Async σ ε α` is such a function over a state `σ`, with exceptions
in `ε` and a result in `α`:

* `step` reads and updates the state;
* `await` is a suspension point, with the condition on the state under which
  the awaited promise has been resolved;
* `fork` calls an async function without awaiting it: the callee runs up to
  its own first suspension point and the caller goes on.

`Async.advance` runs a program up to its next suspension point.  Nothing else
runs in between, so this is the atomic step of an interleaving.  `Async.alone` runs
it to its end.

A `TaskSystem` gives the same thing by names: its tasks stand for suspended
programs, and `resume` says what one of them does when it is scheduled.
`TaskSystem.ofAsync` is the system of the suspended programs themselves, and a
`Hom` into it certifies that a system of named tasks is the system of the
programs.  `Hom.resumeAt` carries a scheduling step of the one to the other.
-/

namespace JsStd

/-- An async function over the state `σ` with exceptions in `ε`. -/
inductive Async (σ ε : Type) : Type → Type 1 where
  | done {α : Type} (a : α) : Async σ ε α
  | fail {α : Type} (e : ε) : Async σ ε α
  | step {α : Type} (update : σ → σ) (next : σ → Async σ ε α) : Async σ ε α
  | await {α : Type} (ready : σ → Bool) (rest : Async σ ε α) : Async σ ε α
  | fork {α : Type} (child : Async σ ε Unit) (rest : Async σ ε α) : Async σ ε α

namespace Async

variable {σ ε α β : Type}

protected def bind : Async σ ε α → (α → Async σ ε β) → Async σ ε β
  | .done a, k => k a
  | .fail e, _ => .fail e
  | .step update next, k => .step update fun s => Async.bind (next s) k
  | .await ready rest, k => .await ready (Async.bind rest k)
  | .fork child rest, k => .fork child (Async.bind rest k)

/-- `try { body } finally { final }`, where `final` is told the result of a
`body` that did not throw. -/
protected def tryFinally : Async σ ε α → (Option α → Async σ ε β) → Async σ ε (α × β)
  | .done a, final => Async.bind (final (some a)) fun b => .done (a, b)
  | .fail e, final => Async.bind (final none) fun _ => .fail e
  | .step update next, final => .step update fun s => Async.tryFinally (next s) final
  | .await ready rest, final => .await ready (Async.tryFinally rest final)
  | .fork child rest, final => .fork child (Async.tryFinally rest final)

/-- `try { body } catch (e) { handler(e) }`. -/
protected def tryCatch : Async σ ε α → (ε → Async σ ε α) → Async σ ε α
  | .done a, _ => .done a
  | .fail e, handler => handler e
  | .step update next, handler => .step update fun s => Async.tryCatch (next s) handler
  | .await ready rest, handler => .await ready (Async.tryCatch rest handler)
  | .fork child rest, handler => .fork child (Async.tryCatch rest handler)

instance : Monad (Async σ ε) where
  pure := .done
  bind := Async.bind

instance : MonadExceptOf ε (Async σ ε) where
  throw := .fail
  tryCatch := Async.tryCatch

instance : MonadFinally (Async σ ε) where
  tryFinally' := Async.tryFinally

instance : MonadStateOf σ (Async σ ε) where
  get := .step id .done
  set s := .step (fun _ => s) fun _ => .done ()
  modifyGet f := .step (fun s => (f s).2) fun s => .done (f s).1

/-- Suspend until `ready` holds of the state. -/
def until_ (ready : σ → Bool) : Async σ ε Unit := .await ready (.done ())

/-- `await` of a promise that is resolved already: other code may run. -/
def tick : Async σ ε Unit := until_ fun _ => true

/-- `await callee()`: the caller is resumed after the callee has returned. -/
def call (callee : Async σ ε α) : Async σ ε α := do
  let a ← callee
  tick
  pure a

/-- `callee()` without `await`. -/
def start (child : Async σ ε Unit) : Async σ ε Unit := .fork child (.done ())

/-! ## Running to the next suspension point -/

/-- A suspended program: it can be resumed when `ready` holds. -/
structure Suspension (σ ε : Type) : Type 1 where
  ready : σ → Bool
  rest : Async σ ε Unit

/-- How a program stands when it gives up control. -/
inductive Outcome (σ ε α : Type) : Type 1 where
  | returned (a : α)
  | threw (e : ε)
  | suspended (ready : σ → Bool) (rest : Async σ ε α)

/-- What is left of a program whose result nobody awaits.  An exception ends
it like a return: it becomes an unhandled rejection. -/
def Outcome.toList : Outcome σ ε Unit → List (Suspension σ ε)
  | .suspended ready rest => [⟨ready, rest⟩]
  | .returned _ => []
  | .threw _ => []

/-- Run a program up to its next suspension point.  The second component lists
the programs it started and that are suspended themselves. -/
def advance : {α : Type} → Async σ ε α → σ → σ × List (Suspension σ ε) × Outcome σ ε α
  | _, .done a, s => (s, [], .returned a)
  | _, .fail e, s => (s, [], .threw e)
  | _, .step update next, s => advance (next s) (update s)
  | _, .await ready rest, s => (s, [], .suspended ready rest)
  | _, .fork child rest, s =>
    let started := advance child s
    let main := advance rest started.1
    (main.1, started.2.1 ++ started.2.2.toList ++ main.2.1, main.2.2)

/-- Resume a program: the new state and everything that is suspended after. -/
def resume (program : Async σ ε Unit) (s : σ) : σ × List (Suspension σ ε) :=
  ((advance program s).1, (advance program s).2.1 ++ (advance program s).2.2.toList)

/-- Run a program to its end while no other code runs; `none` where it waits for something that
only other code can bring about. -/
def alone : {α : Type} → Async σ ε α → σ → Option (σ × Except ε α)
  | _, .done a, s => some (s, .ok a)
  | _, .fail e, s => some (s, .error e)
  | _, .step update next, s => alone (next s) (update s)
  | _, .await ready rest, s => if ready s then alone rest s else none
  | _, .fork child rest, s => (alone child s).bind fun r => alone rest r.1

/-- What is left of a program that is suspended at once. -/
def rest : Async σ ε α → Async σ ε α
  | .await _ rest => rest
  | program => program

/-- A program and what is run after it, up to the next suspension point. -/
theorem advance_bind (x : Async σ ε α) (k : α → Async σ ε β) (s : σ) :
    advance (x >>= k) s =
      match (advance x s).2.2 with
      | .returned a => ((advance (k a) (advance x s).1).1,
          (advance x s).2.1 ++ (advance (k a) (advance x s).1).2.1,
          (advance (k a) (advance x s).1).2.2)
      | .threw e => ((advance x s).1, (advance x s).2.1, .threw e)
      | .suspended ready rest =>
        ((advance x s).1, (advance x s).2.1, .suspended ready (rest >>= k)) := by
  show advance (Async.bind x k) s = _
  induction x generalizing s with
  | done a => rfl
  | fail e => rfl
  | step update next ih => rw [Async.bind, advance, ih, advance]
  | await ready rest _ => rfl
  | fork child rest _ ih =>
    have hrest := ih k (advance child s).1
    rw [Async.bind, advance, hrest, advance]
    cases (advance rest (advance child s).1).2.2 <;> simp

theorem alone_bind (x : Async σ ε α) (k : α → Async σ ε β) (s : σ) :
    alone (x >>= k) s = (alone x s).bind fun r =>
      match r.2 with
      | .ok a => alone (k a) r.1
      | .error e => some (r.1, .error e) := by
  show alone (Async.bind x k) s = _
  induction x generalizing s with
  | done a => rfl
  | fail e => rfl
  | step update next ih => rw [Async.bind, alone, ih, alone]
  | await ready rest ih =>
    rw [Async.bind, alone, alone, ih]
    split_ifs <;> rfl
  | fork child rest _ ih =>
    rw [Async.bind, alone, alone, Option.bind_assoc]
    simp only [ih]

/-- The rest of a program, from where it stands. -/
def Outcome.alone : Outcome σ ε α → σ → Option (σ × Except ε α)
  | .returned a, s => some (s, .ok a)
  | .threw e, s => some (s, .error e)
  | .suspended ready rest, s => if ready s then Async.alone rest s else none

/-- A program that has left no other suspended runs on from its next suspension point. -/
theorem alone_of_advance {x : Async σ ε α} {s s' : σ} {outcome : Outcome σ ε α}
    (h : advance x s = (s', [], outcome)) : alone x s = outcome.alone s' := by
  induction x generalizing s s' with
  | done a =>
    cases h
    rfl
  | fail e =>
    cases h
    rfl
  | step update next ih => exact ih _ h
  | await ready rest _ =>
    cases h
    rfl
  | fork child rest ihchild ihrest =>
    simp only [advance, Prod.mk.injEq, List.append_eq_nil_iff] at h
    obtain ⟨hs, ⟨⟨hforked, hchild⟩, hmain⟩, houtcome⟩ := h
    have hrest : alone rest (advance child s).1 = outcome.alone s' :=
      ihrest (Prod.ext hs (Prod.ext hmain houtcome))
    rw [alone]
    cases hended : (advance child s).2.2 with
    | suspended ready suspended =>
      rw [hended] at hchild
      cases hchild
    | returned a =>
      rw [ihchild (Prod.ext rfl (Prod.ext hforked hended))]
      exact hrest
    | threw e =>
      rw [ihchild (Prod.ext rfl (Prod.ext hforked hended))]
      exact hrest

/-- The await of a callee's promise lets no other code in here. -/
theorem alone_call (callee : Async σ ε α) (s : σ) : alone (call callee) s = alone callee s := by
  rw [call, alone_bind]
  cases h : alone callee s with
  | none => rfl
  | some r =>
    obtain ⟨s', result⟩ := r
    cases result <;> rfl

/-- `try … finally`, up to the next suspension point of the body. -/
theorem advance_tryFinally (x : Async σ ε α) (final : Option α → Async σ ε β) (s : σ) :
    advance (Async.tryFinally x final) s =
      match (advance x s).2.2 with
      | .returned a =>
        let after := advance (final (some a) >>= fun b => pure (a, b)) (advance x s).1
        (after.1, (advance x s).2.1 ++ after.2.1, after.2.2)
      | .threw e =>
        let after := advance (final none >>= fun _ => throw e) (advance x s).1
        (after.1, (advance x s).2.1 ++ after.2.1, after.2.2)
      | .suspended ready rest =>
        ((advance x s).1, (advance x s).2.1, .suspended ready (Async.tryFinally rest final)) := by
  induction x generalizing s with
  | done a => rfl
  | fail e => rfl
  | step update next ih => rw [Async.tryFinally, advance, ih, advance]
  | await ready rest _ => rfl
  | fork child rest _ ih =>
    have hrest := ih final (advance child s).1
    rw [Async.tryFinally, advance, hrest, advance]
    cases (advance rest (advance child s).1).2.2 <;> simp

/-- A loop whose body does not suspend runs to its end. -/
theorem advance_forM {γ : Type} {body : γ → Async σ ε Unit} {update : γ → σ → σ}
    {started : γ → List (Suspension σ ε)}
    (h : ∀ x s, advance (body x) s = (update x s, started x, .returned ()))
    (l : List γ) (s : σ) :
    advance (l.forM body) s
      = (l.foldl (fun s x => update x s) s, l.flatMap started, .returned ()) := by
  induction l generalizing s with
  | nil => rfl
  | cons x l ih =>
    have hcons : (x :: l).forM body = (body x >>= fun _ => l.forM body) := rfl
    rw [hcons, advance_bind, h]
    simp only [ih, List.foldl_cons, List.flatMap_cons]

end Async

/-! ## Systems of tasks -/

/-- Tasks that share a state and are scheduled one at a time. -/
structure TaskSystem (σ : Type) (τ : Type*) where
  ready : τ → σ → Bool
  resume : τ → σ → σ × List τ

/-- The shared state and the tasks that are in flight, oldest first. -/
structure Pool (σ : Type) (τ : Type*) where
  state : σ
  tasks : List τ

/-- The pool with every task renamed. -/
def Pool.map {σ : Type} {τ τ' : Type*} (f : τ → τ') (p : Pool σ τ) : Pool σ τ' :=
  ⟨p.state, p.tasks.map f⟩

section Taken

variable {τ : Type*} {t t' : τ} {tasks before after : List τ}

/-- The task that is taken off a list. -/
theorem mem_of_taken (h : tasks = before ++ t :: after) : t ∈ tasks := by
  rw [h]
  exact List.mem_append_right _ List.mem_cons_self

/-- The other tasks were on the list. -/
theorem mem_of_rest (h : tasks = before ++ t :: after) (ht' : t' ∈ before ++ after) :
    t' ∈ tasks := by
  rw [h]
  rcases List.mem_append.mp ht' with ht' | ht'
  · exact List.mem_append_left _ ht'
  · exact List.mem_append_right _ (List.mem_cons_of_mem _ ht')

end Taken

namespace TaskSystem

variable {σ : Type} {τ τ' : Type*}

/-- Schedule the task at position `i`. -/
def resumeAt (A : TaskSystem σ τ) (i : Nat) (p : Pool σ τ) : Option (Pool σ τ) :=
  match p.tasks[i]? with
  | none => none
  | some t =>
    if A.ready t p.state then
      some ⟨(A.resume t p.state).1, p.tasks.eraseIdx i ++ (A.resume t p.state).2⟩
    else none

/-- What a scheduling step does: one ready task is taken out of the pool, and
the tasks it leaves behind are put at its end. -/
theorem resumed {A : TaskSystem σ τ} {i : Nat} {p p' : Pool σ τ} {t : τ}
    (ht : p.tasks[i]? = some t) (h : A.resumeAt i p = some p') :
    ∃ rest, p.tasks.Perm (t :: rest) ∧ A.ready t p.state = true ∧
      p' = ⟨(A.resume t p.state).1, rest ++ (A.resume t p.state).2⟩ := by
  simp only [resumeAt, ht] at h
  split_ifs at h with hready
  obtain ⟨hi, hti⟩ := List.getElem?_eq_some_iff.mp ht
  refine ⟨p.tasks.eraseIdx i, ?_, hready, (Option.some.inj h).symm⟩
  rw [← hti]
  exact (List.getElem_cons_eraseIdx_perm hi).symm

/-- The system of the suspended programs themselves. -/
def ofAsync (σ ε : Type) : TaskSystem σ (Async.Suspension σ ε) where
  ready t s := t.ready s
  resume t s := t.rest.resume s

/-- The tasks of `A` are names for tasks of `B` that behave the same. -/
structure Hom (A : TaskSystem σ τ) (B : TaskSystem σ τ') where
  map : τ → τ'
  ready_map : ∀ t s, B.ready (map t) s = A.ready t s
  resume_map : ∀ t s, B.resume (map t) s = ((A.resume t s).1, (A.resume t s).2.map map)

/-- A scheduling step of the named tasks is the same step of what they name. -/
theorem Hom.resumeAt {A : TaskSystem σ τ} {B : TaskSystem σ τ'} (f : Hom A B) (i : Nat)
    (p : Pool σ τ) :
    B.resumeAt i (p.map f.map) = (A.resumeAt i p).map (Pool.map f.map) := by
  unfold TaskSystem.resumeAt
  rw [show (p.map f.map).tasks = p.tasks.map f.map from rfl, List.getElem?_map]
  cases ht : p.tasks[i]? with
  | none => rfl
  | some t =>
    simp only [Option.map_some]
    rw [show (p.map f.map).state = p.state from rfl, f.ready_map, f.resume_map]
    split_ifs with hr
    · simp only [Option.map_some, Pool.map, List.map_append, List.eraseIdx_map]
    · rfl

end TaskSystem

end JsStd
