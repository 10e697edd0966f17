import Unisockets.Signaling.ClientCalls

/-!
# The numbers of the messages

Every message has its own number, so that a call is settled by one message at
most, and what a message settles is settled when the client has called the
listeners of its event.

`Network.Numbered` is the invariant and `NetworkRun.numbered` the run lemma.
-/

namespace Unisockets.Signaling

open JsStd Transition

/-! ## Emissions -/

/-- An emission that has not called its listeners. -/
def ClientAction.emits : ClientAction → Bool
  | .emit .. | .emitting .. => true
  | _ => false

/-- A message causes at most one emission. -/
theorem SignalingClient.countP_emits_handleOperation (operation : Operation) :
    (handleOperation operation).countP ClientAction.emits ≤ 1 := by
  cases operation with
  | «alias» data =>
    simp only [handleOperation]
    split <;> simp [List.countP_cons, ClientAction.emits]
  | accept data =>
    simp only [handleOperation]
    split <;> simp [ClientAction.emits]
  | _ => simp [handleOperation, ClientAction.emits]

/-- A message that has just arrived has emitted nothing. -/
theorem SignalingClient.not_emitting_handleOperation (operation : Operation)
    {eventName : String} {data : EventData} {listeners : List (String × Nat)} :
    .emitting eventName data listeners ∉ handleOperation operation := by
  cases operation with
  | «alias» data =>
    simp only [handleOperation]
    split <;> simp
  | accept data =>
    simp only [handleOperation]
    split <;> simp
  | _ => simp [handleOperation]

theorem Message.map_number_numbered (cause n : Nat) (posts : List (Socket × Operation)) :
    (numbered cause n posts).map number = List.range' n posts.length := by
  induction posts generalizing n with
  | nil => rfl
  | cons post posts ih =>
    rw [numbered, List.map_cons, ih]
    rfl

theorem ClientTask.mem_remaining {client : Nat} {message : Message} {rest : List ClientAction}
    {t : ClientTask} (h : t ∈ remaining client message rest) :
    t = ⟨client, message, rest⟩ := by
  unfold remaining at h
  split_ifs at h
  · cases h
  · exact List.mem_singleton.mp h

/-- The message of a task that has something left to do. -/
theorem ClientTask.map_message_remaining (client : Nat) (message : Message)
    (rest : List ClientAction) :
    ∃ lost, [message] = (remaining client message rest).map ClientTask.message ++ lost := by
  unfold remaining
  split_ifs
  · exact ⟨[message], rfl⟩
  · exact ⟨[], rfl⟩

/-! ## The messages for the clients -/

namespace Network

variable {p p' : Network}

/-- The messages that the clients have not handled yet. -/
def messages (p : Network) : List Message := p.down ++ p.clientTasks.map ClientTask.message

theorem messages_onmessage {client : Nat} {m : Message} {before after : List Message}
    (hdown : p.down = before ++ m :: after) :
    ∃ lost, p.messages.Perm ((p.onmessage client m (before ++ after)).messages ++ lost) := by
  obtain ⟨lost, hlost⟩ := ClientTask.map_message_remaining client m
    (SignalingClient.handleOperation m.operation)
  refine ⟨lost, ?_⟩
  unfold messages onmessage
  simp only [hdown, List.map_append]
  rw [List.append_assoc, List.append_assoc, List.append_assoc, List.append_assoc, ← hlost]
  refine List.Perm.append_left _ ?_
  have hcomm := @List.perm_append_comm _ [m] (after ++ p.clientTasks.map ClientTask.message)
  rw [List.append_assoc] at hcomm
  exact hcomm

theorem messages_handle (E : Emittery (String × Nat)) {task : ClientTask}
    {before after : List ClientTask} (htasks : p.clientTasks = before ++ task :: after) :
    ∃ lost, p.messages.Perm ((p.handle E task (before ++ after)).messages ++ lost) := by
  obtain ⟨lost, hlost⟩ := ClientTask.map_message_remaining task.client task.message
    (SignalingClient.step E task.message.number (p.clients task.client) task.rest).2
  refine ⟨lost, ?_⟩
  unfold messages handle setClient
  simp only [htasks, List.map_append, List.map_cons]
  rw [List.append_assoc, List.append_assoc, List.append_assoc, ← hlost]
  refine List.Perm.append_left _ (List.Perm.append_left _ ?_)
  exact (List.perm_append_singleton _ _).symm

/-! ## The invariant -/

/-- A message number settles calls once: when its emission has called the
listeners. -/
structure Numbered (p : Network) : Prop where
  nodup : (p.messages.map Message.number).Nodup
  below : ∀ m ∈ p.messages, m.number < p.nextNumber
  single : ∀ t ∈ p.clientTasks, t.rest.countP ClientAction.emits ≤ 1
  snapshot : ∀ t ∈ p.clientTasks, ∀ {eventName data listeners},
    .emitting eventName data listeners ∈ t.rest → ∀ l ∈ listeners, l.2 < p.nextNumber
  answered : ∀ {client n call k}, (p.clients client).calls.get n = some call →
    call.answeredBy = some k → k < p.nextNumber ∧ (∀ m ∈ p.down, m.number ≠ k) ∧
      ∀ t ∈ p.clientTasks, t.message.number = k → t.rest.countP ClientAction.emits = 0

theorem Message.mem_numbered {cause n : Nat} {posts : List (Socket × Operation)} {m : Message}
    (h : m ∈ Message.numbered cause n posts) :
    n ≤ m.number ∧ m.number < n + posts.length := by
  have hmem : m.number ∈ (Message.numbered cause n posts).map Message.number :=
    List.mem_map_of_mem h
  rw [Message.map_number_numbered, List.mem_range'_1] at hmem
  exact hmem

/-- Two tasks with a message of the same number are at the same place. -/
theorem Numbered.task_unique (h : p.Numbered) {task t : ClientTask}
    {before after : List ClientTask} (htasks : p.clientTasks = before ++ task :: after)
    (ht : t ∈ before ++ after) : t.message.number ≠ task.message.number := by
  have hnodup := h.nodup
  unfold messages at hnodup
  rw [htasks, List.map_append] at hnodup
  have htask := (List.nodup_append.mp hnodup).2.1
  rw [List.map_map, List.map_append, List.map_cons] at htask
  obtain ⟨hnot, -⟩ := List.nodup_cons.mp (List.perm_middle.nodup_iff.mp htask)
  rw [← List.map_append] at hnot
  exact fun he => hnot (List.mem_map.mpr ⟨t, ht, he⟩)

namespace Numbered

/-- A step that changes no message, no task and the answer of no call. -/
theorem keep (h : p.Numbered) (hdown : p'.down = p.down)
    (htasks : p'.clientTasks = p.clientTasks) (hnumber : p.nextNumber ≤ p'.nextNumber)
    (hcalls : ∀ {client n call k}, (p'.clients client).calls.get n = some call →
      call.answeredBy = some k → ∃ call', (p.clients client).calls.get n = some call' ∧
        call'.answeredBy = some k) : p'.Numbered := by
  have hmessages : p'.messages = p.messages := by
    unfold messages
    rw [hdown, htasks]
  constructor
  · rw [hmessages]
    exact h.nodup
  · rw [hmessages]
    exact fun m hm => Nat.lt_of_lt_of_le (h.below m hm) hnumber
  · rw [htasks]
    exact h.single
  · rw [htasks]
    exact fun t ht {eventName data listeners} hmem l hl =>
      Nat.lt_of_lt_of_le (h.snapshot t ht hmem l hl) hnumber
  · intro client n call k hget hk
    obtain ⟨call', hget', hk'⟩ := hcalls hget hk
    obtain ⟨hlt, hfresh, htask⟩ := h.answered hget' hk'
    rw [hdown, htasks]
    exact ⟨Nat.lt_of_lt_of_le hlt hnumber, hfresh, htask⟩

/-- A step that changes no message, no task and no call. -/
theorem quiet (h : p.Numbered) (hdown : p'.down = p.down)
    (htasks : p'.clientTasks = p.clientTasks) (hnumber : p.nextNumber ≤ p'.nextNumber)
    (hcalls : ∀ client, (p'.clients client).calls = (p.clients client).calls) : p'.Numbered := by
  refine h.keep hdown htasks hnumber fun {client n call k} hget hk => ⟨call, ?_, hk⟩
  rw [← hcalls]
  exact hget

theorem onmessage (h : p.Numbered) {client : Nat} {m : Message} {before after : List Message}
    (hdown : p.down = before ++ m :: after) :
    (p.onmessage client m (before ++ after)).Numbered := by
  obtain ⟨lost, hperm⟩ : ∃ lost, p.messages.Perm
      ((p.onmessage client m (before ++ after)).messages ++ lost) := messages_onmessage hdown
  have hold : ∀ m' ∈ before ++ after, m' ∈ p.down := fun m' hm' => mem_of_rest hdown hm'
  have hm : m ∈ p.down := mem_of_taken hdown
  constructor
  · have hnodup := (hperm.map Message.number).nodup_iff.mp h.nodup
    rw [List.map_append] at hnodup
    exact (List.nodup_append.mp hnodup).1
  · exact fun m' hm' => h.below m' (hperm.mem_iff.mpr (List.mem_append_left _ hm'))
  · intro t ht
    rcases List.mem_append.mp ht with ht | ht
    · exact h.single t ht
    · rw [ClientTask.mem_remaining ht]
      exact SignalingClient.countP_emits_handleOperation _
  · intro t ht eventName data listeners hmem
    rcases List.mem_append.mp ht with ht | ht
    · exact h.snapshot t ht hmem
    · rw [ClientTask.mem_remaining ht] at hmem
      exact absurd hmem (SignalingClient.not_emitting_handleOperation _)
  · intro client' n call k hget hk
    obtain ⟨hlt, hfresh, htask⟩ := h.answered hget hk
    refine ⟨hlt, fun m' hm' => hfresh m' (hold m' hm'), fun t ht hnumber => ?_⟩
    rcases List.mem_append.mp ht with ht | ht
    · exact htask t ht hnumber
    · rw [ClientTask.mem_remaining ht] at hnumber
      exact absurd hnumber (hfresh m hm)

theorem resume (h : p.Numbered) (n : Nat) (t : ServerTask)
    (serverTasks : List (Nat × ServerTask)) : (p.resume n t serverTasks).Numbered := by
  have hnew : ∀ m ∈ Message.numbered n p.nextNumber (t.posts p.server),
      p.nextNumber ≤ m.number ∧ m.number < p.nextNumber + (t.posts p.server).length :=
    fun m hm => Message.mem_numbered hm
  have hperm : (p.resume n t serverTasks).messages.Perm
      (Message.numbered n p.nextNumber (t.posts p.server) ++ p.messages) := by
    unfold messages Network.resume
    simp only
    rw [← List.append_assoc]
    exact List.Perm.append_right _ List.perm_append_comm
  constructor
  · rw [(hperm.map Message.number).nodup_iff, List.map_append, Message.map_number_numbered]
    refine List.nodup_append.mpr ⟨List.nodup_range', h.nodup, ?_⟩
    intro k hk k' hk' he
    obtain ⟨m, hm, rfl⟩ := List.mem_map.mp hk'
    rw [List.mem_range'_1] at hk
    have hbelow := h.below m hm
    omega
  · intro m hm
    show m.number < p.nextNumber + (t.posts p.server).length
    rcases List.mem_append.mp (hperm.mem_iff.mp hm) with hm | hm
    · exact (hnew m hm).2
    · have hbelow := h.below m hm
      omega
  · exact h.single
  · exact fun t ht {eventName data listeners} hmem l hl =>
      Nat.lt_of_lt_of_le (h.snapshot t ht hmem l hl) (Nat.le_add_right _ _)
  · intro client m call k hget hk
    obtain ⟨hlt, hfresh, htask⟩ := h.answered hget hk
    refine ⟨Nat.lt_of_lt_of_le hlt (Nat.le_add_right _ _), fun m' hm' => ?_, htask⟩
    rcases List.mem_append.mp hm' with hm' | hm'
    · exact hfresh m' hm'
    · have hbelow := hnew m' hm'
      omega

/-- What a step of a client does to the emissions that are left. -/
private theorem emits_step (E : Emittery (String × Nat)) (number : Nat) (c : SignalingClient)
    (rest : List ClientAction) :
    (SignalingClient.step E number c rest).2.countP ClientAction.emits
      ≤ rest.countP ClientAction.emits := by
  cases rest with
  | nil => exact Nat.le_refl _
  | cons action rest =>
    cases action <;> simp [SignalingClient.step, List.countP_cons, ClientAction.emits]

/-- The calls that a step of a client settles hear of the message, and then the
message has nothing left to emit. -/
private theorem answered_step (E : Emittery (String × Nat)) {number n k : Nat}
    {c : SignalingClient} {rest : List ClientAction} {call : Call}
    (hfits : ∀ action ∈ rest, action.Fits)
    (hget : (SignalingClient.step E number c rest).1.calls.get n = some call)
    (hk : call.answeredBy = some k) :
    (∃ call', c.calls.get n = some call' ∧ call'.answeredBy = some k) ∨
      k = number ∧ ∃ eventName data listeners rest',
        rest = .emitting eventName data listeners :: rest' := by
  cases rest with
  | nil => exact .inl ⟨call, hget, hk⟩
  | cons action rest =>
    cases action with
    | acknowledge id => exact .inl ⟨call, hget, hk⟩
    | emit eventName data => exact .inl ⟨call, hget, hk⟩
    | onAlias id a set => exact .inl ⟨call, hget, hk⟩
    | emitting eventName data listeners =>
      obtain ⟨-, hnodup, -⟩ := hfits _ List.mem_cons_self
      have hcalled : ((E.called listeners (c.listeners eventName)).map Prod.snd).Nodup :=
        hnodup.sublist ((E.sublist _ _).map _)
      have hget : (c.callAll number data (E.called listeners (c.listeners eventName))).calls.get n
          = some call := hget
      rw [SignalingClient.get_calls_callAll hcalled] at hget
      split_ifs at hget
      · obtain ⟨call', hget', rfl⟩ := Option.map_eq_some_iff.mp hget
        rcases Call.answeredBy_notify call' c.id number data with hsame | hnew
        · exact .inl ⟨call', hget', hsame.symm.trans hk⟩
        · rw [hnew] at hk
          cases hk
          exact .inr ⟨rfl, _, _, _, _, rfl⟩
      · exact .inl ⟨call, hget, hk⟩

theorem handle (E : Emittery (String × Nat)) (h : p.Numbered) (hwired : p.Wired)
    {task : ClientTask} {before after : List ClientTask}
    (htasks : p.clientTasks = before ++ task :: after) :
    (p.handle E task (before ++ after)).Numbered := by
  obtain ⟨lost, hperm⟩ := messages_handle E htasks
  obtain ⟨others, hactions, -⟩ := actions_handle E htasks
  have hfits : ∀ action ∈ task.rest, action.Fits := fun action ha =>
    hwired.fits action (hactions.mem_iff.mpr (List.mem_append_left _ ha))
  have htask : task ∈ p.clientTasks := mem_of_taken htasks
  have hold : ∀ t ∈ before ++ after, t ∈ p.clientTasks := fun t ht => mem_of_rest htasks ht
  have hsingle := h.single task htask
  constructor
  · have hnodup := (hperm.map Message.number).nodup_iff.mp h.nodup
    rw [List.map_append] at hnodup
    exact (List.nodup_append.mp hnodup).1
  · exact fun m hm => h.below m (hperm.mem_iff.mpr (List.mem_append_left _ hm))
  · intro t ht
    rcases List.mem_append.mp ht with ht | ht
    · exact h.single t (hold t ht)
    · rw [ClientTask.mem_remaining ht]
      exact (emits_step E _ _ _).trans hsingle
  · intro t ht eventName data listeners hmem l hl
    rcases List.mem_append.mp ht with ht | ht
    · exact h.snapshot t (hold t ht) hmem l hl
    · rw [ClientTask.mem_remaining ht] at hmem
      obtain ⟨client, m, rest⟩ := task
      cases rest with
      | nil => cases hmem
      | cons action rest =>
        cases action with
        | emit eventName' data' =>
          rcases List.mem_cons.mp hmem with he | hmem
          · cases he
            obtain ⟨call, hget, -⟩ := (hwired.client client).listener (List.mem_filter.mp hl).1
            exact (hwired.client client).call hget
          · exact h.snapshot _ htask (List.mem_cons_of_mem _ hmem) l hl
        | _ => exact h.snapshot _ htask (List.mem_cons_of_mem _ hmem) l hl
  · intro client n call k hget hk
    have hclient : (p.handle E task (before ++ after)).clients client = if client = task.client
        then (SignalingClient.step E task.message.number (p.clients task.client) task.rest).1
        else p.clients client := clients_setClient task.client client _
    have hanswer : (∃ call', (p.clients client).calls.get n = some call' ∧
        call'.answeredBy = some k) ∨ k = task.message.number ∧
          ∃ eventName data listeners rest,
            task.rest = .emitting eventName data listeners :: rest := by
      rw [hclient] at hget
      split_ifs at hget with hc
      · rw [hc]
        exact answered_step E hfits hget hk
      · exact .inl ⟨call, hget, hk⟩
    rcases hanswer with ⟨call', hget', hk'⟩ | ⟨rfl, eventName, data, listeners, rest, hrest⟩
    · obtain ⟨hlt, hfresh, htasks'⟩ := h.answered hget' hk'
      refine ⟨hlt, hfresh, fun t ht hnumber => ?_⟩
      rcases List.mem_append.mp ht with ht | ht
      · exact htasks' t (hold t ht) hnumber
      · rw [ClientTask.mem_remaining ht] at hnumber ⊢
        have hnone := htasks' task htask hnumber
        exact Nat.le_zero.mp (hnone ▸ emits_step E _ _ _)
    · have hmem : task.message ∈ p.messages :=
        List.mem_append_right _ (List.mem_map_of_mem htask)
      refine ⟨h.below _ hmem, fun m hm he => ?_, fun t ht hnumber => ?_⟩
      · have hnodup := h.nodup
        unfold messages at hnodup
        rw [List.map_append] at hnodup
        exact (List.nodup_append.mp hnodup).2.2 _ (List.mem_map_of_mem hm) _
          (List.mem_map_of_mem (List.mem_map_of_mem htask)) he
      · rcases List.mem_append.mp ht with ht | ht
        · exact absurd hnumber (h.task_unique htasks ht)
        · rw [ClientTask.mem_remaining ht, hrest]
          rw [hrest, List.countP_cons_of_pos rfl] at hsingle
          exact Nat.le_zero.mp (Nat.le_of_succ_le_succ hsingle)

theorem step {E : Emittery (String × Nat)} {a : NetworkStep} (h : p.Numbered) (hwired : p.Wired)
    (hstep : Step E p a p') : p'.Numbered := by
  cases hstep with
  | connecting hidle => exact h.quiet rfl rfl (Nat.le_refl _) (calls_setClient rfl)
  | onopen hclient => exact h.quiet rfl rfl (Nat.le_succ _) (calls_setClient rfl)
  | onclose hclient hlive => exact h.quiet rfl rfl (Nat.le_refl _) (calls_setClient rfl)
  | request hfresh =>
    refine h.keep rfl rfl (Nat.le_succ _) fun hget hk => ?_
    rcases get_calls_request hget with rfl | hold
    · cases hk
    · exact ⟨_, hold, hk⟩
  | handleSend hrelayed => exact h.quiet rfl rfl (Nat.le_succ _) fun _ => rfl
  | onmessage hdown hfirst hclient => exact h.onmessage hdown
  | handle htasks => exact h.handle E hwired htasks
  | receive hup hfirst hopen => exact h.quiet rfl rfl (Nat.le_refl _) fun _ => rfl
  | close hsocket hopen => exact h.quiet rfl rfl (Nat.le_succ _) fun _ => rfl
  | resume htasks hready => exact h.resume _ _ _

end Numbered

end Network

theorem NetworkRun.numbered {E : Emittery (String × Nat)}
    {steps : List (Network × NetworkStep)} {p : Network} (hrun : NetworkRun E steps p) :
    p.Numbered := by
  have hboth : p.Wired ∧ p.Numbered := by
    refine Run.invariant (I := fun p => Network.Wired p ∧ Network.Numbered p) hrun
      (fun _ _ => (trivial : True)) ?_ ?_
    · rintro q ⟨subnet, parentWsId, rfl⟩
      refine ⟨NetworkRun.wired (E := E) (.start ⟨subnet, parentWsId, rfl⟩), ?_⟩
      refine ⟨List.nodup_nil, ?_, ?_, ?_, fun hget => ?_⟩
      · exact fun m hm => absurd hm List.not_mem_nil
      · exact fun t ht => absurd ht List.not_mem_nil
      · exact fun t ht => absurd ht List.not_mem_nil
      · cases hget
    · exact fun q a q' hq _ hstep => ⟨hq.1.step hstep, hq.2.step hq.1 hstep⟩
  exact hboth.2

end Unisockets.Signaling
