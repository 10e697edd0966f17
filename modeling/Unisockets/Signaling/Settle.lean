import Mathlib.Algebra.Ring.Nat
import Unisockets.Signaling.WellFormed

/-!
# The handlers finish

`ServerPool.Settles p p'` says that the suspended handlers of `p` can be run to
their end, in some order and with nothing else happening, and that `p'` is what
they leave.  What happens after one event, once its handlers are through, is
stated with it.

In every run the handlers finish (`ServerRun.settles`): some handler can always
be resumed, because the mutex is held by one that does not wait, and every step
lowers `ServerPool.work`.  An alias counts as work, since the sweep of a close
listener starts a handler for it.
-/

namespace Unisockets.Signaling

open JsStd

namespace ServerPool

/-- The handlers of a pool are run to their end. -/
inductive Settles : ServerPool → ServerPool → Prop where
  | idle {p : ServerPool} (h : p.tasks = []) : Settles p p
  | step {p q p' : ServerPool} {t : ServerTask} (hstep : Step p (.resume t) q)
    (hrest : Settles q p') : Settles p p'

theorem Settles.tasks {p p' : ServerPool} (h : Settles p p') : p'.tasks = [] := by
  induction h with
  | idle h => exact h
  | step _ _ ih => exact ih

/-- What every step of the handlers keeps holds when they are through. -/
theorem Settles.invariant {I : Server → List ServerTask → Prop} {p p' : ServerPool}
    (h : Settles p p') (hp : I p.state p.tasks)
    (hperm : ∀ s l l', l.Perm l' → I s l → I s l')
    (hresume : ∀ s t l s' next, I s (t :: l) → t.ready s = true →
      ServerTask.Resumes s t s' next → I s' (next ++ l)) : I p'.state [] := by
  induction h with
  | idle h => exact h ▸ hp
  | step hstep _ ih =>
    refine ih ?_
    cases hstep with
    | resume ht hq =>
      obtain ⟨rest, hl, hr, rfl⟩ := TaskSystem.resumed ht hq
      exact hperm _ _ _ List.perm_append_comm
        (hresume _ _ _ _ _ (hperm _ _ _ hl hp) hr (ServerTask.resumes _ _))

/-- A task of a pool that is ready can be resumed. -/
theorem exists_step {p : ServerPool} {t : ServerTask} (ht : t ∈ p.tasks)
    (hready : t.ready p.state = true) :
    ∃ rest, p.tasks.Perm (t :: rest) ∧
      Step p (.resume t) ⟨(t.resume p.state).1, rest ++ (t.resume p.state).2⟩ := by
  obtain ⟨i, hi, hget⟩ := List.getElem_of_mem ht
  have hi' : p.tasks[i]? = some t := List.getElem?_eq_some_iff.mpr ⟨hi, hget⟩
  refine ⟨p.tasks.eraseIdx i, ?_, .resume hi' ?_⟩
  · rw [← hget]
    exact (List.getElem_cons_eraseIdx_perm hi).symm
  · unfold TaskSystem.resumeAt
    rw [hi']
    exact if_pos hready

end ServerPool

/-! ## Work -/

/-- An upper bound on the steps that a task and its successors take, where an
alias that is registered on the way counts for five. -/
def ServerTask.work : ServerTask → Nat
  | .received .. => 12
  | .knockCreating .. => 4
  | .knockSearching .. => 3
  | .knockCreated .. => 2
  | .knockAcknowledged .. => 1
  | .bindClaiming .. => 7
  | .bindClaimed .. => 6
  | .shutdownPort .. => 4
  | .shutdownPortRemoved .. => 3
  | .shutdownAddress .. => 2
  | .shutdownAddressRemoved .. => 1
  | .connectCreating .. => 11
  | .connectSearching .. => 10
  | .connectCreated .. => 9
  | .connectRejecting .. => 2
  | .connectRejected .. => 1
  | .connectClientNotified .. => 3
  | .connectServerNotified .. => 2
  | .connectServerAccepted .. => 1
  | .goodbyeAddress .. => 2
  | .goodbyeAddressRemoved .. => 1
  | .releaseAddress .. => 4
  | .releaseAddressRemoved .. => 3
  | .releasePort .. => 2
  | .releasePortRemoved .. => 1

/-- The work that is left. -/
def work (s : Server) (l : List ServerTask) : Nat :=
  (l.map ServerTask.work).sum + 5 * s.aliases.entries.length

theorem work_perm {s : Server} {l l' : List ServerTask} (hl : l.Perm l') :
    work s l = work s l' := by
  rw [work, work, (hl.map _).sum_nat]

/-- The sweep turns every alias it deletes into one handler. -/
private theorem length_sweep (s : Server) (id : String) :
    (s.sweep id).aliases.entries.length + (s.owned id).length = s.aliases.entries.length := by
  have htotal := List.length_eq_length_filter_add (l := s.aliases.entries)
    fun entry => decide (entry.2.id = id)
  rw [Server.owned, List.length_map]
  have hkept : (s.sweep id).aliases.entries
      = s.aliases.entries.filter fun entry => !decide (entry.2.id = id) := by
    refine List.filter_congr fun entry _ => ?_
    simp
  rw [hkept]
  omega

private theorem work_append (s : Server) (next l : List ServerTask) :
    work s (next ++ l) = (next.map ServerTask.work).sum + work s l := by
  rw [work, work, List.map_append, List.sum_append]
  omega

/-- Every step of a handler lowers the work that is left. -/
theorem work_lt {s s' : Server} {t : ServerTask} {l next : List ServerTask}
    (hstep : ServerTask.Resumes s t s' next) : work s' (next ++ l) < work s (t :: l) := by
  have hset : ∀ (a : String) (entry : MAlias),
      (s.aliases.set a entry).entries.length ≤ s.aliases.entries.length + 1 :=
    fun a entry => Map.length_set s.aliases a entry
  have hdelete : ∀ a : String, (s.aliases.delete a).entries.length ≤ s.aliases.entries.length :=
    fun a => List.length_filter_le _ _
  rw [work_append, work, work, List.map_cons, List.sum_cons]
  cases hstep with
  | accepting data client entry hentry howner =>
    have hlen := hset data.alias ⟨data.id, true⟩
    simp only [List.map_nil, List.sum_nil, ServerTask.work]
    omega
  | shutdown data client entry hentry howner =>
    have hlen := hdelete data.alias
    simp only [List.map_cons, List.map_nil, List.sum_cons, List.sum_nil, ServerTask.work]
    omega
  | bound data outbox =>
    have hlen := hset data.alias ⟨data.id, false⟩
    simp only [List.map_nil, List.sum_nil, ServerTask.work]
    omega
  | accepted data clientAlias client hremote hclient outbox =>
    have hlen := hset clientAlias ⟨data.id, false⟩
    simp only [List.map_cons, List.map_nil, List.sum_cons, List.sum_nil, ServerTask.work]
    omega
  | orphaned data clientAlias hremote hclient =>
    have hlen := hset clientAlias ⟨data.id, false⟩
    simp only [List.map_nil, List.sum_nil, ServerTask.work]
    omega
  | swept id outbox =>
    have hlen := length_sweep s id
    have hcost : (((s.owned id).map (ServerTask.releaseAddress id)).map ServerTask.work).sum
        = 4 * (s.owned id).length := by
      rw [List.map_map]
      show ((s.owned id).map fun _ => 4).sum = _
      rw [List.map_const', List.sum_replicate_nat, Nat.mul_comm]
    rw [hcost]
    simp only [ServerTask.work]
    omega
  | _ =>
    simp only [List.map_cons, List.map_nil, List.sum_cons, List.sum_nil, ServerTask.work,
      Server.locked]
    omega

/-! ## Progress -/

/-- Some handler can be resumed: the one that holds the mutex, or any. -/
theorem Sane.exists_ready {s : Server} {l : List ServerTask} (h : Sane s l) (hl : l ≠ []) :
    ∃ t ∈ l, t.ready s = true := by
  have hmutex := h.mutex
  by_cases hup : s.subnetsMutex = true
  · rw [if_pos hup] at hmutex
    have hpos : 0 < l.countP ServerTask.searching := by omega
    obtain ⟨t, ht, hsearching⟩ := List.countP_pos_iff.mp hpos
    refine ⟨t, ht, ?_⟩
    cases t with
    | knockSearching => rfl
    | connectSearching => rfl
    | _ => cases hsearching
  · obtain ⟨t, ht⟩ := List.exists_mem_of_ne_nil l hl
    refine ⟨t, ht, ?_⟩
    rw [ServerTask.ready, Bool.eq_false_of_not_eq_true hup]
    exact Bool.or_true _

private theorem settles_aux (n : Nat) :
    ∀ p : ServerPool, Sane p.state p.tasks → work p.state p.tasks ≤ n →
      ∃ p', ServerPool.Settles p p' := by
  induction n with
  | zero =>
    intro p h hn
    by_cases hl : p.tasks = []
    · exact ⟨p, .idle hl⟩
    · obtain ⟨t, ht, hready⟩ := h.exists_ready hl
      obtain ⟨rest, hperm, -⟩ := ServerPool.exists_step ht hready
      have hlt := work_lt (l := rest) (t.resumes p.state)
      rw [← work_perm hperm] at hlt
      omega
  | succ n ih =>
    intro p h hn
    by_cases hl : p.tasks = []
    · exact ⟨p, .idle hl⟩
    · obtain ⟨t, ht, hready⟩ := h.exists_ready hl
      obtain ⟨rest, hperm, hstep⟩ := ServerPool.exists_step ht hready
      have hlt := work_lt (l := rest) (t.resumes p.state)
      rw [← work_perm hperm] at hlt
      have hsane := (h.perm hperm).resume hready (t.resumes p.state)
      have hcomm : ((t.resume p.state).2 ++ rest).Perm (rest ++ (t.resume p.state).2) :=
        List.perm_append_comm
      have hle : work (t.resume p.state).1 (rest ++ (t.resume p.state).2) ≤ n := by
        rw [← work_perm hcomm]
        omega
      obtain ⟨p', hp'⟩ := ih ⟨(t.resume p.state).1, rest ++ (t.resume p.state).2⟩
        (hsane.perm hcomm) hle
      exact ⟨p', .step hstep hp'⟩

/-- The handlers of a pool that a run can reach can be run to their end. -/
theorem Sane.settles {p : ServerPool} (h : Sane p.state p.tasks) :
    ∃ p', ServerPool.Settles p p' :=
  settles_aux _ p h (Nat.le_refl _)

theorem ServerRun.settles {steps : List (ServerPool × ServerStep)} {p : ServerPool}
    (hrun : ServerRun steps p) (hwell : ServerRun.WellFormed steps) :
    ∃ p', ServerPool.Settles p p' :=
  (hrun.sane hwell).settles

/-- The handler of a message that finds no other handler can be run to its end. -/
theorem ServerRun.settles_message {steps : List (ServerPool × ServerStep)} {p : ServerPool}
    (hrun : ServerRun steps p) (hwell : ServerRun.WellFormed steps) (hidle : p.tasks = [])
    (operation : Operation) (client : Socket) (hop : operation.WellFormed) :
    ∃ p', ServerPool.Settles (ServerPool.message ⟨p.state, []⟩ operation client) p' := by
  have hsane := hrun.sane hwell
  rw [hidle] at hsane
  exact Sane.settles (p := ServerPool.message ⟨p.state, []⟩ operation client)
    (hsane.message hop client)

end Unisockets.Signaling
