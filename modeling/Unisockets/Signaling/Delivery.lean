import Unisockets.Signaling.Numbering

/-!
# The messages that a client handles

A task of a client does the actions of `handleOperation` for a message that was
delivered to the client, in their order, and a message that has been handled
never comes back.

`Network.get_calls_step` says once what a step does to a call: nothing, or the
step is the request that makes it, or its listener is called.
-/

namespace Unisockets.Signaling

open JsStd Transition

/-! ## The actions of a task -/

/-- An action, before it has taken note of any listeners. -/
def ClientAction.begun : ClientAction → ClientAction
  | .emitting eventName data _ => .emit eventName data
  | action => action

/-- What is left to do is the end of what the message asks for. -/
def ClientTask.Staged (t : ClientTask) : Prop :=
  t.rest.map ClientAction.begun <:+ SignalingClient.handleOperation t.message.operation

theorem SignalingClient.map_begun_handleOperation (operation : Operation) :
    (handleOperation operation).map ClientAction.begun = handleOperation operation := by
  cases operation with
  | «alias» data =>
    simp only [handleOperation]
    split <;> simp [ClientAction.begun]
  | accept data =>
    simp only [handleOperation]
    split <;> simp [ClientAction.begun]
  | _ => simp [handleOperation, ClientAction.begun]

theorem SignalingClient.map_begun_step (E : Emittery (String × Nat)) (number : Nat)
    (c : SignalingClient) (rest : List ClientAction) :
    (step E number c rest).2.map ClientAction.begun <:+ rest.map ClientAction.begun := by
  cases rest with
  | nil => exact List.suffix_refl _
  | cons action rest =>
    cases action with
    | emit eventName data => exact List.suffix_refl _
    | _ => exact List.suffix_cons _ _

theorem ClientTask.rest_ne_nil {client : Nat} {message : Message} {rest : List ClientAction}
    {t : ClientTask} (h : t ∈ remaining client message rest) : t.rest ≠ [] := by
  unfold remaining at h
  split_ifs at h with hrest
  · cases h
  · rw [List.mem_singleton.mp h]
    exact hrest

theorem ClientTask.mem_remaining_self {client : Nat} {message : Message}
    {rest : List ClientAction} (h : rest ≠ []) :
    ⟨client, message, rest⟩ ∈ remaining client message rest := by
  unfold remaining
  rw [if_neg h]
  exact List.mem_cons_self

/-- An action that is left to do is one that the message asks for. -/
theorem ClientTask.Staged.mem {t : ClientTask} (h : t.Staged) {action : ClientAction}
    (haction : action ∈ t.rest) :
    action.begun ∈ SignalingClient.handleOperation t.message.operation :=
  h.subset (List.mem_map_of_mem haction)

/-! ## The tasks of a run -/

namespace Network

variable {p p' : Network} {steps : List (Network × NetworkStep)} {a : NetworkStep}

/-- Every task handles a message that was delivered to its client. -/
structure Delivering (steps : List (Network × NetworkStep)) (p : Network) : Prop where
  busy : ∀ t ∈ p.clientTasks, t.rest ≠ []
  staged : ∀ t ∈ p.clientTasks, t.Staged
  delivered : ∀ t ∈ p.clientTasks, ∃ x ∈ steps, x.2 = .onmessage t.client t.message

namespace Delivering

/-- A step that leaves the tasks of the clients alone. -/
theorem keep (h : Delivering steps p) (htasks : p'.clientTasks = p.clientTasks) :
    Delivering (steps ++ [(p, a)]) p' := by
  constructor
  · rw [htasks]
    exact h.busy
  · rw [htasks]
    exact h.staged
  · rw [htasks]
    intro t ht
    obtain ⟨x, hx, hstep⟩ := h.delivered t ht
    exact ⟨x, List.mem_append_left _ hx, hstep⟩

theorem step {E : Emittery (String × Nat)} (h : Delivering steps p)
    (hstep : Step E p a p') : Delivering (steps ++ [(p, a)]) p' := by
  cases hstep with
  | @onmessage client m before after hdown hfirst hclient =>
    constructor
    · intro t ht
      rcases List.mem_append.mp ht with ht | ht
      · exact h.busy t ht
      · exact ClientTask.rest_ne_nil ht
    · intro t ht
      rcases List.mem_append.mp ht with ht | ht
      · exact h.staged t ht
      · rw [ClientTask.mem_remaining ht]
        unfold ClientTask.Staged
        simp only [SignalingClient.map_begun_handleOperation, List.suffix_refl]
    · intro t ht
      rcases List.mem_append.mp ht with ht | ht
      · obtain ⟨x, hx, hstep⟩ := h.delivered t ht
        exact ⟨x, List.mem_append_left _ hx, hstep⟩
      · rw [ClientTask.mem_remaining ht]
        exact ⟨_, List.mem_append_right _ List.mem_cons_self, rfl⟩
  | @handle task before after htasks =>
    have htask : task ∈ p.clientTasks := mem_of_taken htasks
    have hold : ∀ t ∈ before ++ after, t ∈ p.clientTasks := fun t ht => mem_of_rest htasks ht
    have hdelivered : ∀ t ∈ p.clientTasks,
        ∃ x ∈ steps ++ [(p, .handle task)], x.2 = .onmessage t.client t.message := by
      intro t ht
      obtain ⟨x, hx, hstep⟩ := h.delivered t ht
      exact ⟨x, List.mem_append_left _ hx, hstep⟩
    constructor
    · intro t ht
      rcases List.mem_append.mp ht with ht | ht
      · exact h.busy t (hold t ht)
      · exact ClientTask.rest_ne_nil ht
    · intro t ht
      rcases List.mem_append.mp ht with ht | ht
      · exact h.staged t (hold t ht)
      · rw [ClientTask.mem_remaining ht]
        exact (SignalingClient.map_begun_step E _ _ _).trans (h.staged task htask)
    · intro t ht
      rcases List.mem_append.mp ht with ht | ht
      · exact hdelivered t (hold t ht)
      · rw [ClientTask.mem_remaining ht]
        exact hdelivered task htask
  | _ => exact h.keep rfl

end Delivering

/-! ### Messages that have been handled -/

/-- The message of this number has been handled. -/
structure Gone (p : Network) (number : Nat) : Prop where
  below : number < p.nextNumber
  gone : ∀ m ∈ p.messages, m.number ≠ number

theorem nextNumber_le_step {E : Emittery (String × Nat)} (hstep : Step E p a p') :
    p.nextNumber ≤ p'.nextNumber := by
  cases hstep with
  | onopen hclient => exact Nat.le_succ _
  | request hfresh => exact Nat.le_succ _
  | handleSend hrelayed => exact Nat.le_succ _
  | close hsocket hopen => exact Nat.le_succ _
  | resume htasks hready => exact Nat.le_add_right _ _
  | _ => exact Nat.le_refl _

/-- New messages have new numbers. -/
theorem messages_step {E : Emittery (String × Nat)} (hstep : Step E p a p') {m : Message}
    (hm : m ∈ p'.messages) : m ∈ p.messages ∨ p.nextNumber ≤ m.number := by
  cases hstep with
  | onmessage hdown hfirst hclient =>
    obtain ⟨lost, hperm⟩ := messages_onmessage hdown
    exact .inl (hperm.mem_iff.mpr (List.mem_append_left _ hm))
  | handle htasks =>
    obtain ⟨lost, hperm⟩ := messages_handle E htasks
    exact .inl (hperm.mem_iff.mpr (List.mem_append_left _ hm))
  | resume htasks hready =>
    rcases List.mem_append.mp hm with hm | hm
    · rcases List.mem_append.mp hm with hm | hm
      · exact .inl (List.mem_append_left _ hm)
      · exact .inr (Message.mem_numbered hm).1
    · exact .inl (List.mem_append_right _ hm)
  | _ => exact .inl hm

theorem Gone.step {E : Emittery (String × Nat)} {number : Nat} (h : p.Gone number)
    (hstep : Step E p a p') : p'.Gone number := by
  refine ⟨Nat.lt_of_lt_of_le h.below (nextNumber_le_step hstep), fun m hm => ?_⟩
  rcases messages_step hstep hm with hm | hm
  · exact h.gone m hm
  · have hbelow := h.below
    omega

/-- A message is gone when its task has nothing left to do. -/
theorem Numbered.gone (h : p.Numbered) {E : Emittery (String × Nat)} {task : ClientTask}
    {before after : List ClientTask} (htasks : p.clientTasks = before ++ task :: after)
    (hdone : (SignalingClient.step E task.message.number (p.clients task.client) task.rest).2
      = []) : (p.handle E task (before ++ after)).Gone task.message.number := by
  have htask : task ∈ p.clientTasks := mem_of_taken htasks
  have hmem : task.message ∈ p.messages :=
    List.mem_append_right _ (List.mem_map_of_mem htask)
  refine ⟨h.below _ hmem, fun m hm => ?_⟩
  unfold messages Network.handle at hm
  simp only [hdone, ClientTask.remaining, if_true, List.append_nil] at hm
  rcases List.mem_append.mp hm with hm | hm
  · intro he
    have hnodup := h.nodup
    unfold messages at hnodup
    rw [List.map_append] at hnodup
    exact (List.nodup_append.mp hnodup).2.2 _ (List.mem_map_of_mem hm) _
      (List.mem_map_of_mem (List.mem_map_of_mem htask)) he
  · obtain ⟨t, ht, rfl⟩ := List.mem_map.mp hm
    exact h.task_unique htasks ht

/-! ### What a step does to a call -/

/-- The listeners of an event are those that were there at `emit` and still
are. -/
theorem get_calls_emitting {E : Emittery (String × Nat)} (hwired : p.Wired) {client : Nat}
    {m : Message} {eventName : String} {data : EventData} {listeners : List (String × Nat)}
    {rest : List ClientAction} {before after : List ClientTask}
    (htasks : p.clientTasks
      = before ++ ⟨client, m, .emitting eventName data listeners :: rest⟩ :: after) (n : Nat) :
    ((p.handle E ⟨client, m, .emitting eventName data listeners :: rest⟩
        (before ++ after)).clients client).calls.get n
      = if (eventName, n) ∈ listeners ∧ (eventName, n) ∈ (p.clients client).asyncResolver
        then ((p.clients client).calls.get n).map fun call =>
          call.notify (p.clients client).id m.number data
        else (p.clients client).calls.get n := by
  obtain ⟨others, hactions, -⟩ := actions_handle E htasks
  obtain ⟨-, hnodup, hnames⟩ := hwired.fits _
    (hactions.mem_iff.mpr (List.mem_append_left _ List.mem_cons_self))
  have hcalled : ((E.called listeners ((p.clients client).listeners eventName)).map
      Prod.snd).Nodup := hnodup.sublist ((E.sublist _ _).map _)
  show ((Function.update p.clients client ((p.clients client).callAll m.number data
    (E.called listeners ((p.clients client).listeners eventName))) client).calls.get n) = _
  rw [Function.update_self, SignalingClient.get_calls_callAll hcalled]
  refine if_congr ?_ rfl rfl
  rw [List.mem_map]
  constructor
  · rintro ⟨⟨name, n'⟩, hl, rfl⟩
    obtain ⟨hmem, rfl⟩ := SignalingClient.Wired.mem_called hl
    exact ⟨((E.mem_called _ _ _).mp hl).1, hmem⟩
  · rintro ⟨hnoted, hmem⟩
    refine ⟨_, (E.mem_called _ _ _).mpr ⟨hnoted, List.mem_filter.mpr ⟨hmem, ?_⟩⟩, rfl⟩
    exact decide_eq_true rfl

theorem get_calls_same (h : ∀ client, (p'.clients client).calls = (p.clients client).calls)
    (client n : Nat) :
    (p'.clients client).calls.get n = (p.clients client).calls.get n := by
  rw [h]

/-- A call stays as it is, or is made, or hears of an event. -/
theorem get_calls_step {E : Emittery (String × Nat)} (hwired : p.Wired)
    (hstep : Step E p a p') (client n : Nat) :
    (p'.clients client).calls.get n = (p.clients client).calls.get n ∨
    (∃ r, a = .request client r ∧ n = p.nextNumber ∧
      (p.clients client).calls.get n = none ∧
      (p'.clients client).calls.get n
        = some { request := r, id := (p.clients client).id }) ∨
    ∃ m data listeners rest call,
      a = .handle ⟨client, m, .emitting call.eventName data listeners :: rest⟩ ∧
      (call.eventName, n) ∈ listeners ∧
      (call.eventName, n) ∈ (p.clients client).asyncResolver ∧
      (call.request.once = true → call.promise = .pending) ∧
      (p.clients client).calls.get n = some call ∧
      (p'.clients client).calls.get n
        = some (call.notify (p.clients client).id m.number data) := by
  cases hstep with
  | connecting hidle =>
    refine .inl (get_calls_same ?_ client n)
    exact calls_setClient rfl
  | onopen hclient =>
    refine .inl (get_calls_same ?_ client n)
    exact calls_setClient rfl
  | onclose hclient hlive =>
    refine .inl (get_calls_same ?_ client n)
    exact calls_setClient rfl
  | @request client' r hfresh =>
    have hclient : (p.request client' r).clients client
        = if client = client' then (p.clients client').request p.nextNumber r
          else p.clients client := clients_setClient client' client _
    rw [hclient]
    split_ifs with hc
    · subst hc
      by_cases hn : n = p.nextNumber
      · subst hn
        refine .inr (.inl ⟨r, rfl, rfl, ?_, Map.get_set_self _ _ _⟩)
        by_contra hget
        obtain ⟨call, hget⟩ := Option.ne_none_iff_exists'.mp hget
        exact Nat.lt_irrefl _ ((hwired.client client).call hget)
      · exact .inl (Map.get_set_of_ne _ _ hn)
    · exact .inl rfl
  | @handle task before after htasks =>
    obtain ⟨client', m, rest⟩ := task
    by_cases hc : client = client'
    · subst hc
      cases rest with
      | nil =>
        refine .inl (get_calls_same ?_ client n)
        exact calls_setClient rfl
      | cons action rest =>
        cases action with
        | emitting eventName data listeners =>
          rw [get_calls_emitting hwired htasks]
          split_ifs with hcalled
          · obtain ⟨call, hget, hname, hpending⟩ := (hwired.client client).listener hcalled.2
            have hname : call.eventName = eventName := hname
            subst hname
            refine .inr (.inr ⟨m, data, listeners, rest, call, rfl, hcalled.1, hcalled.2,
              hpending, hget, ?_⟩)
            rw [hget]
            rfl
          · exact .inl rfl
        | _ =>
          refine .inl (get_calls_same ?_ client n)
          exact calls_setClient rfl
    · have hclient := clients_setClient (p := p) client' client
        (SignalingClient.step E m.number (p.clients client') rest).1
      rw [if_neg hc] at hclient
      exact .inl (congrArg (fun c => c.calls.get n) hclient)
  | _ => exact .inl rfl

/-! ### Sockets -/

@[simp] theorem client_step (E : Emittery (String × Nat)) (number : Nat) (c : SignalingClient)
    (rest : List ClientAction) : (SignalingClient.step E number c rest).1.client = c.client := by
  cases rest with
  | nil => rfl
  | cons action rest =>
    cases action with
    | emitting eventName data listeners => exact SignalingClient.callAll_client
    | _ => rfl

/-- A client that handles a message keeps its socket. -/
@[simp] theorem client_handle (E : Emittery (String × Nat)) (task : ClientTask)
    (clientTasks : List ClientTask) (client : Nat) :
    ((p.handle E task clientTasks).clients client).client = (p.clients client).client := by
  show ((p.setClient _ _).clients client).client = _
  rw [clients_setClient]
  split_ifs with hc
  · rw [client_step, hc]
  · rfl

/-- The socket of every client is one that was opened, and its own. -/
structure Sockets (p : Network) : Prop where
  below : ∀ {client ws}, (p.clients client).client = some ws → ws.socket < p.nextSocket
  unique : ∀ {client client' ws ws'}, (p.clients client).client = some ws →
    (p.clients client').client = some ws' → ws.socket = ws'.socket → client = client'

namespace Sockets

/-- A step that keeps the sockets. -/
theorem keep (h : p.Sockets) (hnext : p'.nextSocket = p.nextSocket)
    (hsockets : ∀ client ws, (p'.clients client).client = some ws →
      ∃ ws', (p.clients client).client = some ws' ∧ ws'.socket = ws.socket) : p'.Sockets := by
  constructor
  · intro client ws hws
    obtain ⟨ws', hws', he⟩ := hsockets client ws hws
    rw [hnext, ← he]
    exact h.below hws'
  · intro client client' ws ws' hws hws' he
    obtain ⟨v, hv, hsocket⟩ := hsockets client ws hws
    obtain ⟨v', hv', hsocket'⟩ := hsockets client' ws' hws'
    exact h.unique hv hv' (hsocket.trans (he.trans hsocket'.symm))

/-- One client has a socket under another state. -/
theorem setClient (h : p.Sockets) {client : Nat} {c : SignalingClient} {socket : Socket}
    (hnext : p'.nextSocket = p.nextSocket) (hclients : p'.clients = (p.setClient client c).clients)
    (hold : ∃ ws, (p.clients client).client = some ws ∧ ws.socket = socket)
    (hc : ∀ ws, c.client = some ws → ws.socket = socket) : p'.Sockets := by
  refine h.keep hnext fun client' ws hws => ?_
  rw [hclients, clients_setClient] at hws
  split_ifs at hws with he
  · obtain ⟨ws', hws', hsocket⟩ := hold
    exact ⟨ws', he ▸ hws', hsocket.trans (hc ws hws).symm⟩
  · exact ⟨ws, hws, rfl⟩

theorem connecting (h : p.Sockets) (client : Nat) : (p.connecting client).Sockets := by
  have hclients : ∀ client' ws, ((p.connecting client).clients client').client = some ws →
      client' = client ∧ ws.socket = p.nextSocket ∨ (p.clients client').client = some ws := by
    intro client' ws hws
    have hws : ((p.setClient client _).clients client').client = some ws := hws
    rw [clients_setClient] at hws
    split_ifs at hws with he
    · cases hws
      exact .inl ⟨he, rfl⟩
    · exact .inr hws
  constructor
  · intro client' ws hws
    rcases hclients client' ws hws with ⟨-, he⟩ | hold
    · rw [he]
      exact Nat.lt_succ_self _
    · exact Nat.lt_succ_of_lt (h.below hold)
  · intro client' client'' ws ws' hws hws' he
    rcases hclients client' ws hws with ⟨rfl, hnew⟩ | hold
    · rcases hclients client'' ws' hws' with ⟨rfl, -⟩ | hold'
      · rfl
      · exact absurd (hnew.symm.trans he) (Nat.ne_of_gt (h.below hold'))
    · rcases hclients client'' ws' hws' with ⟨rfl, hnew⟩ | hold'
      · exact absurd (he.trans hnew) (Nat.ne_of_lt (h.below hold))
      · exact h.unique hold hold' he

theorem step {E : Emittery (String × Nat)} (h : p.Sockets) (hstep : Step E p a p') :
    p'.Sockets := by
  cases hstep with
  | connecting hidle => exact h.connecting _
  | onopen hclient =>
    refine h.setClient rfl rfl ⟨_, hclient, rfl⟩ fun ws hws => ?_
    cases hws
    rfl
  | onclose hclient hlive =>
    refine h.setClient rfl rfl ⟨_, hclient, rfl⟩ fun ws hws => ?_
    cases hws
    rfl
  | @request client request hfresh =>
    refine h.keep rfl fun client' ws hws => ⟨ws, ?_, rfl⟩
    have hws : ((p.setClient client _).clients client').client = some ws := hws
    rw [clients_setClient] at hws
    split_ifs at hws with he
    · rw [he]
      exact hws
    · exact hws
  | handle htasks =>
    refine h.keep rfl fun client ws hws => ⟨ws, ?_, rfl⟩
    rw [client_handle] at hws
    exact hws
  | _ => exact h.keep rfl fun client ws hws => ⟨ws, hws, rfl⟩

end Sockets

end Network

theorem NetworkRun.sockets {E : Emittery (String × Nat)} {steps : List (Network × NetworkStep)}
    {p : Network} (hrun : NetworkRun E steps p) : p.Sockets := by
  refine Run.invariant (I := Network.Sockets) hrun (fun _ _ => (trivial : True)) ?_ ?_
  · rintro q ⟨subnet, parentWsId, rfl⟩
    constructor
    · intro client ws hws
      cases hws
    · intro client client' ws ws' hws
      cases hws
  · exact fun q a q' hq _ hstep => hq.step hstep

theorem NetworkRun.delivering {E : Emittery (String × Nat)}
    {steps : List (Network × NetworkStep)} {p : Network} (hrun : NetworkRun E steps p) :
    Network.Delivering steps p := by
  induction hrun with
  | start hinit =>
    obtain ⟨subnet, parentWsId, rfl⟩ := hinit
    constructor <;> exact fun t ht => absurd ht List.not_mem_nil
  | snoc hrun hstep ih => exact ih.step hstep

end Unisockets.Signaling
