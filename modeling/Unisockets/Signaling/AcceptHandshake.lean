import Unisockets.Signaling.Delivery

/-!
# The results of accept

Every `Accept` that is delivered to a client should be the result of exactly one
call of `accept`.  `notifyAccept` hands it over by a one-shot event, so it is
exactly if one of the calls that were pending at `emit` still is when the
listeners are called.

`Network.HandsOver` is this condition on a step, `accept_handshake` the
equivalence for every run.
-/

namespace Unisockets.Signaling

open JsStd Transition

/-- Only an `Accept` emits an alias, and nothing is left to do after that. -/
theorem SignalingClient.suffix_handleOperation_accept {operation : Operation}
    {eventName clientAlias : String} {rest : List ClientAction}
    (h : .emit eventName (.clientAlias clientAlias) :: rest <:+ handleOperation operation) :
    ∃ data, operation = .accept data ∧ eventName = getAcceptKey data.boundAlias ∧
      clientAlias = data.clientAlias ∧ rest = [] := by
  cases operation with
  | accept data =>
    obtain ⟨announced, hannounced, hlast⟩ : ∃ announced : List ClientAction,
        (∀ action ∈ announced, ∃ id tcpAddress, action = .onAlias id tcpAddress true) ∧
        handleOperation (.accept data) = announced ++
          [.emit (getAcceptKey data.boundAlias) (.clientAlias data.clientAlias)] := by
      refine ⟨_, ?_, rfl⟩
      intro action haction
      cases hclient : data.clientId with
      | none =>
        rw [hclient] at haction
        cases haction
      | some clientId =>
        rw [hclient] at haction
        exact ⟨_, _, List.mem_singleton.mp haction⟩
    rw [hlast] at h
    rcases List.suffix_concat_iff.mp h with hnil | ⟨before, hbefore, hsuffix⟩
    · cases hnil
    · cases before with
      | nil =>
        obtain ⟨he, rfl⟩ := List.cons.inj hbefore
        cases he
        exact ⟨data, rfl, rfl, rfl, rfl⟩
      | cons action before =>
        obtain ⟨he, -⟩ := List.cons.inj hbefore
        have hmem := hsuffix.subset List.mem_cons_self
        obtain ⟨id, tcpAddress, haction⟩ := hannounced action hmem
        rw [haction] at he
        cases he
  | «alias» data =>
    have hmem := h.subset List.mem_cons_self
    simp only [handleOperation] at hmem
    split at hmem <;> simp at hmem
  | acknowledged data => simpa [handleOperation] using h.subset List.mem_cons_self
  | _ => exact absurd (h.subset List.mem_cons_self) List.not_mem_nil

namespace Call

theorem request_of_eventName_accept {call : Call} {boundAlias : String}
    (h : call.eventName = getAcceptKey boundAlias) : call.request = .accept boundAlias := by
  unfold eventName at h
  cases hrequest : call.request with
  | bind a =>
    rw [hrequest] at h
    exact absurd h getAliasKey_ne_getAcceptKey
  | accept a =>
    rw [hrequest] at h
    rw [getAcceptKey_inj h]
  | shutdown a =>
    rw [hrequest] at h
    exact absurd h getAliasKey_ne_getAcceptKey
  | connect u a =>
    rw [hrequest] at h
    exact absurd h getConnectionKey_ne_getAcceptKey

theorem answeredBy_settle_of_pending {call : Call} {number : Nat} {promise : Promise}
    (h : call.promise = .pending) : (call.settle number promise).answeredBy = some number := by
  unfold settle
  rw [if_pos h]

theorem promise_settle_of_pending {call : Call} {number : Nat} {promise : Promise}
    (h : call.promise = .pending) : (call.settle number promise).promise = promise := by
  unfold settle
  rw [if_pos h]

/-- A call of `accept` returns the alias that it hears of. -/
theorem notify_accept {call : Call} {boundAlias : String} (h : call.request = .accept boundAlias)
    (id : String) (number : Nat) (clientAlias : String) :
    call.notify id number (.clientAlias clientAlias)
      = call.settle number (.resolved (some clientAlias)) := by
  unfold notify
  rw [h]

/-- A call that an event settles is answered by its message. -/
theorem answeredBy_notify_of_settled (call : Call) {id : String} {number : Nat} {data : EventData}
    (h : call.promise = .pending) (hsettled : (call.notify id number data).promise ≠ .pending) :
    (call.notify id number data).answeredBy = some number := by
  unfold notify at hsettled ⊢
  split at hsettled
  · split_ifs <;> exact answeredBy_settle_of_pending h
  · split_ifs <;> exact answeredBy_settle_of_pending h
  · exact answeredBy_settle_of_pending h
  · dsimp only at hsettled ⊢
    split_ifs at hsettled ⊢
    · exact @answeredBy_settle_of_pending (call.count _ _) number _ h
    · exact absurd h hsettled
    · exact answeredBy_settle_of_pending h
  · exact absurd h hsettled

end Call

namespace Network

variable {p p' : Network} {steps : List (Network × NetworkStep)} {a : NetworkStep}

/-! ## Handing over an `Accept` -/

/-- A call has returned the alias of an `Accept`. -/
def Returned (p : Network) (client : Nat) (m : Message) (data : IAcceptData) (n : Nat) : Prop :=
  ∃ call, (p.clients client).calls.get n = some call ∧
    call.request = .accept data.boundAlias ∧
    call.promise = .resolved (some data.clientAlias) ∧ call.answeredBy = some m.number

/-- Every `Accept` that was delivered to a client is still being handled, or is
the result of exactly one call. -/
def HandedOver (steps : List (Network × NetworkStep)) (p : Network) : Prop :=
  ∀ x ∈ steps, ∀ client m data, x.2 = .onmessage client m → m.operation = .accept data →
    (∃ t ∈ p.clientTasks, t.client = client ∧ t.message = m) ∨
      ∃! n, p.Returned client m data n

/-- When the listeners of an `Accept` are called, exactly one of the calls that
were pending at `emit` still is. -/
def HandsOver : Network × NetworkStep → Prop
  | (p, .handle ⟨client, _, .emitting eventName (.clientAlias _) listeners :: _⟩) =>
    ∃! l, l ∈ listeners ∧ l ∈ (p.clients client).listeners eventName
  | _ => True

instance : DecidablePred HandsOver
  | (p, .handle ⟨client, _, .emitting eventName (.clientAlias _) listeners :: _⟩) =>
    decidable_of_iff (∃ l ∈ listeners, l ∈ (p.clients client).listeners eventName ∧
        ∀ l' ∈ listeners, l' ∈ (p.clients client).listeners eventName → l' = l) <| by
      constructor
      · rintro ⟨l, hnoted, hl, hunique⟩
        exact ⟨l, ⟨hnoted, hl⟩, fun l' hl' => hunique l' hl'.1 hl'.2⟩
      · rintro ⟨l, ⟨hnoted, hl⟩, hunique⟩
        exact ⟨l, hnoted, hl, fun l' hnoted' hl' => hunique l' ⟨hnoted', hl'⟩⟩
  | (_, .handle ⟨_, _, .emitting _ (.connection ..) _ :: _⟩)
  | (_, .handle ⟨_, _, .emitting _ (.set _) _ :: _⟩)
  | (_, .handle ⟨_, _, .emit .. :: _⟩)
  | (_, .handle ⟨_, _, .acknowledge _ :: _⟩)
  | (_, .handle ⟨_, _, .onAlias .. :: _⟩)
  | (_, .handle ⟨_, _, []⟩)
  | (_, .connecting _) | (_, .onopen _) | (_, .onclose _) | (_, .request ..)
  | (_, .handleSend ..) | (_, .onmessage ..) | (_, .receive _) | (_, .close _)
  | (_, .resume ..) => isTrue trivial

/-- The step in which a message has called its listeners. -/
def Emits (client : Nat) (m : Message) (x : Network × NetworkStep) : Prop :=
  ∃ eventName clientAlias listeners rest,
    x.2 = .handle ⟨client, m, .emitting eventName (.clientAlias clientAlias) listeners :: rest⟩

theorem handsOver_of_not_emits {x : Network × NetworkStep}
    (h : ∀ client m, ¬Emits client m x) : HandsOver x := by
  unfold HandsOver
  split
  · exact absurd ⟨_, _, _, _, rfl⟩ (h _ _)
  · trivial

/-! ## One step -/

/-- A message that calls its listeners is an `Accept`, and then it is gone. -/
theorem Delivering.emitting (h : Delivering steps p) {client : Nat} {m : Message}
    {eventName clientAlias : String} {listeners : List (String × Nat)}
    {rest : List ClientAction}
    (ht : ⟨client, m, .emitting eventName (.clientAlias clientAlias) listeners :: rest⟩
      ∈ p.clientTasks) :
    ∃ data, m.operation = .accept data ∧ eventName = getAcceptKey data.boundAlias ∧
      clientAlias = data.clientAlias ∧ rest = [] := by
  have hsuffix := h.staged _ ht
  obtain ⟨data, hdata, hname, halias, hrest⟩ :=
    SignalingClient.suffix_handleOperation_accept hsuffix
  exact ⟨data, hdata, hname, halias, List.map_eq_nil_iff.mp hrest⟩

/-- The last thing that is left to do for an `Accept` is to call its
listeners. -/
theorem Delivering.last (h : Delivering steps p) (E : Emittery (String × Nat))
    {t : ClientTask} (ht : t ∈ p.clientTasks) {data : IAcceptData}
    (hdata : t.message.operation = .accept data) {c : SignalingClient}
    (hdone : (SignalingClient.step E t.message.number c t.rest).2 = []) :
    ∃ listeners, t.rest = [.emitting (getAcceptKey data.boundAlias)
      (.clientAlias data.clientAlias) listeners] := by
  obtain ⟨action, rest, hrest⟩ := List.exists_cons_of_ne_nil (h.busy t ht)
  have hstaged := h.staged t ht
  unfold ClientTask.Staged at hstaged
  rw [hrest] at hdone
  have hnil : rest = [] := by
    cases action with
    | emit eventName data => cases hdone
    | _ => exact hdone
  subst hnil
  rw [hrest, hdata] at hstaged
  rcases List.suffix_concat_iff.mp hstaged with hnil | ⟨before, hbefore, hsuffix⟩
  · cases hnil
  · have hlast : [action.begun] = before ++ [_] := hbefore
    have hempty : before = [] := by
      have hlen := congrArg List.length hlast
      rw [List.length_append, List.length_singleton, List.length_singleton] at hlen
      exact List.eq_nil_of_length_eq_zero (by omega)
    subst hempty
    cases action with
    | emit eventName data => cases hdone
    | emitting eventName data listeners =>
      cases hlast
      exact ⟨listeners, hrest⟩
    | _ => cases hlast

/-- The calls that return an `Accept` are those whose listeners are called. -/
theorem returned_emitting {E : Emittery (String × Nat)} (hwired : p.Wired)
    (hnumbered : p.Numbered) {client : Nat} {m : Message} {data : IAcceptData}
    {listeners : List (String × Nat)} {before after : List ClientTask}
    (htasks : p.clientTasks = before ++ ⟨client, m, [.emitting (getAcceptKey data.boundAlias)
      (.clientAlias data.clientAlias) listeners]⟩ :: after) (n : Nat) :
    (p.handle E ⟨client, m, [.emitting (getAcceptKey data.boundAlias)
      (.clientAlias data.clientAlias) listeners]⟩ (before ++ after)).Returned client m data n ↔
      (getAcceptKey data.boundAlias, n) ∈ listeners ∧
        (getAcceptKey data.boundAlias, n) ∈ (p.clients client).asyncResolver := by
  unfold Returned
  rw [get_calls_emitting hwired htasks]
  split_ifs with hcalled
  · refine iff_of_true ?_ hcalled
    obtain ⟨call, hget, hname, hpending⟩ := (hwired.client client).listener hcalled.2
    have hrequest := Call.request_of_eventName_accept hname
    have hpending := hpending (by rw [hrequest]; rfl)
    refine ⟨call.settle m.number (.resolved (some data.clientAlias)), ?_, ?_⟩
    · rw [hget]
      exact congrArg some (Call.notify_accept hrequest _ _ _)
    · rw [Call.settle_request]
      exact ⟨hrequest, Call.promise_settle_of_pending hpending,
        Call.answeredBy_settle_of_pending hpending⟩
  · refine iff_of_false ?_ hcalled
    rintro ⟨call, hget, -, -, hanswered⟩
    obtain ⟨-, -, hnone⟩ := hnumbered.answered hget hanswered
    have htask : _ ∈ p.clientTasks := mem_of_taken htasks
    exact absurd (hnone _ htask rfl) (by simp [ClientAction.emits])

/-- What a message that is gone has given to the calls stays. -/
theorem Gone.returned {E : Emittery (String × Nat)} {client : Nat} {m : Message}
    (h : p.Gone m.number) (hwired : p.Wired) (hstep : Step E p a p') {data : IAcceptData}
    (n : Nat) : p'.Returned client m data n ↔ p.Returned client m data n := by
  unfold Returned
  rcases get_calls_step hwired hstep client n with
    hsame | ⟨r, -, -, hnone, hnew⟩ |
      ⟨m', data', listeners, rest, call, ha, -, -, hpending, hget, hnotify⟩
  · rw [hsame]
  · rw [hnone, hnew]
    refine iff_of_false ?_ ?_
    · rintro ⟨call, hcall, -, hresolved, -⟩
      cases hcall
      cases hresolved
    · rintro ⟨call, hcall, -⟩
      cases hcall
  · rw [hget, hnotify]
    have hnumber : m'.number ≠ m.number := by
      subst ha
      cases hstep with
      | @handle task before after htasks =>
        have htask : _ ∈ p.clientTasks :=
          mem_of_taken htasks
        exact h.gone m' (List.mem_append_right _ (List.mem_map_of_mem htask))
    refine iff_of_false ?_ ?_
    · rintro ⟨call', hcall', hrequest, hresolved, hanswered⟩
      cases hcall'
      rw [Call.notify_request] at hrequest
      have hpending := hpending (by rw [hrequest]; rfl)
      have hnew := call.answeredBy_notify_of_settled hpending
        (by rw [hresolved]; exact Promise.noConfusion)
      rw [hanswered] at hnew
      exact hnumber (Option.some.inj hnew).symm
    · rintro ⟨call', hcall', hrequest, hresolved, -⟩
      cases hcall'
      rw [hpending (by rw [hrequest]; rfl)] at hresolved
      cases hresolved

/-- The listeners of an event are known by their calls. -/
theorem existsUnique_listener {c : SignalingClient} {eventName : String}
    {listeners : List (String × Nat)} :
    (∃! l, l ∈ listeners ∧ l ∈ c.listeners eventName) ↔
      ∃! n, (eventName, n) ∈ listeners ∧ (eventName, n) ∈ c.asyncResolver := by
  have hmem : ∀ l, l ∈ c.listeners eventName ↔ l ∈ c.asyncResolver ∧ l.1 = eventName := by
    intro l
    unfold SignalingClient.listeners
    rw [List.mem_filter, decide_eq_true_eq]
  constructor
  · rintro ⟨⟨name, n⟩, ⟨hnoted, hl⟩, hunique⟩
    obtain ⟨hresolver, rfl⟩ := (hmem _).mp hl
    refine ⟨n, ⟨hnoted, hresolver⟩, fun n' ⟨hnoted', hl'⟩ => ?_⟩
    exact congrArg Prod.snd (hunique (name, n') ⟨hnoted', (hmem _).mpr ⟨hl', rfl⟩⟩)
  · rintro ⟨n, ⟨hnoted, hl⟩, hunique⟩
    refine ⟨(eventName, n), ⟨hnoted, (hmem _).mpr ⟨hl, rfl⟩⟩, ?_⟩
    rintro ⟨name, n'⟩ ⟨hnoted', hl'⟩
    obtain ⟨hresolver, rfl⟩ := (hmem _).mp hl'
    rw [hunique n' ⟨hnoted', hresolver⟩]

/-! ## The invariant -/

/-- What was delivered has a task until it has called its listeners, and what
has called its listeners was delivered and handed over to as many calls as
were pending. -/
structure Handshake (steps : List (Network × NetworkStep)) (p : Network) : Prop where
  delivered : ∀ x ∈ steps, ∀ client m data, x.2 = .onmessage client m →
    m.operation = .accept data →
    (∃ t ∈ p.clientTasks, t.client = client ∧ t.message = m) ∨ ∃ y ∈ steps, Emits client m y
  emitted : ∀ x ∈ steps, ∀ client m, Emits client m x →
    ∃ data, m.operation = .accept data ∧ (∃ y ∈ steps, y.2 = .onmessage client m) ∧
      p.Gone m.number ∧ (HandsOver x ↔ ∃! n, p.Returned client m data n)

namespace Handshake

/-- What has called its listeners before the step. -/
theorem emitted_step {E : Emittery (String × Nat)} (h : Handshake steps p) (hwired : p.Wired)
    (hstep : Step E p a p') {x : Network × NetworkStep} (hx : x ∈ steps) {client : Nat}
    {m : Message} (hemits : Emits client m x) :
    ∃ data, m.operation = .accept data ∧
      (∃ y ∈ steps ++ [(p, a)], y.2 = .onmessage client m) ∧
      p'.Gone m.number ∧ (HandsOver x ↔ ∃! n, p'.Returned client m data n) := by
  obtain ⟨data, hdata, ⟨y, hy, hdelivered⟩, hgone, hiff⟩ := h.emitted x hx client m hemits
  refine ⟨data, hdata, ⟨y, List.mem_append_left _ hy, hdelivered⟩, hgone.step hstep, ?_⟩
  rw [hiff]
  exact existsUnique_congr fun n => (hgone.returned hwired hstep n).symm

/-- A step that is no call of listeners and keeps the tasks. -/
theorem keep {E : Emittery (String × Nat)} (h : Handshake steps p) (hwired : p.Wired)
    (hstep : Step E p a p') (hquiet : ∀ client m, ¬Emits client m (p, a))
    (htasks : ∀ t ∈ p.clientTasks, ∃ t' ∈ p'.clientTasks,
      t'.client = t.client ∧ t'.message = t.message)
    (hnew : ∀ client m, a = .onmessage client m → ∀ data, m.operation = .accept data →
      ∃ t ∈ p'.clientTasks, t.client = client ∧ t.message = m) :
    Handshake (steps ++ [(p, a)]) p' := by
  constructor
  · intro x hx client m data hdelivered hdata
    rcases List.mem_append.mp hx with hx | hx
    · rcases h.delivered x hx client m data hdelivered hdata with
        ⟨t, ht, rfl, rfl⟩ | ⟨y, hy, hemits⟩
      · exact .inl (htasks t ht)
      · exact .inr ⟨y, List.mem_append_left _ hy, hemits⟩
    · rw [List.mem_singleton.mp hx] at hdelivered
      exact .inl (hnew client m hdelivered data hdata)
  · intro x hx client m hemits
    rcases List.mem_append.mp hx with hx | hx
    · exact h.emitted_step hwired hstep hx hemits
    · rw [List.mem_singleton.mp hx] at hemits
      exact absurd hemits (hquiet client m)

/-- A task that is left has stayed where it is. -/
theorem handle {E : Emittery (String × Nat)} (h : Handshake steps p) (hwired : p.Wired)
    (hnumbered : p.Numbered) (hdelivering : Delivering steps p) {task : ClientTask}
    {before after : List ClientTask} (htasks : p.clientTasks = before ++ task :: after) :
    Handshake (steps ++ [(p, .handle task)]) (p.handle E task (before ++ after)) := by
  have hstep : Step E p (.handle task) (p.handle E task (before ++ after)) := .handle htasks
  have htask : task ∈ p.clientTasks := mem_of_taken htasks
  constructor
  · intro x hx client m data hdelivered hdata
    rcases List.mem_append.mp hx with hx | hx
    · rcases h.delivered x hx client m data hdelivered hdata with
        ⟨t, ht, rfl, rfl⟩ | ⟨y, hy, hemits⟩
      · rw [htasks] at ht
        rcases List.mem_append.mp ht with ht | ht
        · exact .inl ⟨t, List.mem_append_left _ (List.mem_append_left _ ht), rfl, rfl⟩
        · rcases List.mem_cons.mp ht with rfl | ht
          · by_cases hdone : (SignalingClient.step E t.message.number (p.clients t.client)
              t.rest).2 = []
            · obtain ⟨listeners, hrest⟩ := hdelivering.last E htask hdata hdone
              refine .inr ⟨_, List.mem_append_right _ List.mem_cons_self, ?_⟩
              refine ⟨getAcceptKey data.boundAlias, data.clientAlias, listeners, [], ?_⟩
              rw [← hrest]
            · have hmem := @ClientTask.mem_remaining_self t.client t.message _ hdone
              exact .inl ⟨_, List.mem_append_right _ hmem, rfl, rfl⟩
          · exact .inl ⟨t, List.mem_append_left _ (List.mem_append_right _ ht), rfl, rfl⟩
      · exact .inr ⟨y, List.mem_append_left _ hy, hemits⟩
    · rw [List.mem_singleton.mp hx] at hdelivered
      cases hdelivered
  · intro x hx client m hemits
    rcases List.mem_append.mp hx with hx | hx
    · exact h.emitted_step hwired hstep hx hemits
    · rw [List.mem_singleton.mp hx] at hemits ⊢
      obtain ⟨eventName, clientAlias, listeners, rest, he⟩ := hemits
      cases he
      obtain ⟨data, hdata, rfl, rfl, rfl⟩ := hdelivering.emitting htask
      obtain ⟨y, hy, hdelivered⟩ := hdelivering.delivered _ htask
      refine ⟨data, hdata, ⟨y, List.mem_append_left _ hy, hdelivered⟩,
        hnumbered.gone htasks rfl, ?_⟩
      refine existsUnique_listener.trans (existsUnique_congr fun n => ?_)
      exact (returned_emitting hwired hnumbered htasks n).symm

theorem step {E : Emittery (String × Nat)} (h : Handshake steps p) (hwired : p.Wired)
    (hnumbered : p.Numbered) (hdelivering : Delivering steps p) (hstep : Step E p a p') :
    Handshake (steps ++ [(p, a)]) p' := by
  have hsame : ∀ {q : Network}, q.clientTasks = p.clientTasks → ∀ t ∈ p.clientTasks,
      ∃ t' ∈ q.clientTasks, t'.client = t.client ∧ t'.message = t.message := by
    intro q hq t ht
    exact ⟨t, hq ▸ ht, rfl, rfl⟩
  have htaken := hstep
  cases hstep with
  | handle htasks => exact h.handle hwired hnumbered hdelivering htasks
  | @onmessage client m before after hdown hfirst hclient =>
    refine h.keep hwired htaken ?_ ?_ ?_
    · rintro client' m' ⟨_, _, _, _, he⟩
      cases he
    · exact fun t ht => ⟨t, List.mem_append_left _ ht, rfl, rfl⟩
    · intro client' m' he data hdata
      cases he
      have hrest : SignalingClient.handleOperation m.operation ≠ [] := by
        rw [hdata]
        simp [SignalingClient.handleOperation]
      exact ⟨_, List.mem_append_right _ (ClientTask.mem_remaining_self hrest), rfl, rfl⟩
  | _ =>
    refine h.keep hwired htaken ?_ (hsame rfl) ?_
    · rintro client' m' ⟨_, _, _, _, he⟩
      cases he
    · exact fun client' m' he => by cases he

end Handshake

end Network

theorem NetworkRun.handshake {E : Emittery (String × Nat)}
    {steps : List (Network × NetworkStep)} {p : Network} (hrun : NetworkRun E steps p) :
    Network.Handshake steps p := by
  induction hrun with
  | start hinit => constructor <;> exact fun x hx => absurd hx List.not_mem_nil
  | snoc hrun hstep ih =>
    exact ih.step (NetworkRun.wired hrun) (NetworkRun.numbered hrun)
      (NetworkRun.delivering hrun) hstep

/-! ## What accept returns -/

/-- Every delivered `Accept` is the result of exactly one call of `accept` if and
only if every one of them finds exactly one pending call. -/
theorem accept_handshake {E : Emittery (String × Nat)}
    {steps : List (Network × NetworkStep)} {p : Network} (hrun : NetworkRun E steps p) :
    Network.HandedOver steps p ↔ ∀ x ∈ steps, Network.HandsOver x := by
  have h := NetworkRun.handshake hrun
  constructor
  · intro hhanded x hx
    by_cases hemits : ∃ client m, Network.Emits client m x
    · obtain ⟨client, m, hemits⟩ := hemits
      obtain ⟨data, hdata, ⟨y, hy, hdelivered⟩, hgone, hiff⟩ := h.emitted x hx client m hemits
      rcases hhanded y hy client m data hdelivered hdata with ⟨t, ht, rfl, rfl⟩ | hunique
      · have hmem : t.message ∈ p.messages := List.mem_append_right _ (List.mem_map_of_mem ht)
        exact absurd rfl (hgone.gone _ hmem)
      · exact hiff.mpr hunique
    · exact Network.handsOver_of_not_emits fun client m he => hemits ⟨client, m, he⟩
  · intro hhands x hx client m data hdelivered hdata
    rcases h.delivered x hx client m data hdelivered hdata with htask | ⟨y, hy, hemits⟩
    · exact .inl htask
    · obtain ⟨data', hdata', -, -, hiff⟩ := h.emitted y hy client m hemits
      rw [hdata] at hdata'
      cases hdata'
      exact .inr (hiff.mp (hhands y hy))

/-- One client binds an alias and accepts, and the other connects. -/
def acceptEvents : List Network.Event :=
  NetworkRun.join 0 0 ++ NetworkRun.join 1 1 ++
  [.request 0 (.bind "127.0.0.0:80")] ++ NetworkRun.serve 0 3 ++
  [.request 0 (.accept "127.0.0.0:80")] ++ NetworkRun.serve 0 1 ++
  [.request 1 (.connect "u" "127.0.0.0:80")] ++ NetworkRun.serve 1 7 ++
  NetworkRun.notify 0 0 ++ NetworkRun.notify 0 3 ++ NetworkRun.notify 0 3 ++
  NetworkRun.notify 0 2

theorem accept_handshake_run : ∃ steps p, NetworkRun .subscribed steps p ∧
    (p.clients 0).calls.get 8 = some
      { request := .accept "127.0.0.0:80"
        id := "127.0.0.0"
        promise := .resolved (some "127.0.0.1:0")
        answeredBy := some 12 } ∧
    Network.HandedOver steps p := by
  obtain ⟨steps, p, hrun, hcall, hhands⟩ := NetworkRun.exists_along (E := .subscribed)
    (P := fun steps p => (p.clients 0).calls.get 8 = some
      { request := .accept "127.0.0.0:80"
        id := "127.0.0.0"
        promise := .resolved (some "127.0.0.1:0")
        answeredBy := some 12 } ∧ ∀ x ∈ steps, Network.HandsOver x)
    "127.0.0" acceptEvents (by decide +kernel)
  exact ⟨steps, p, hrun, hcall, (accept_handshake hrun).mpr hhands⟩

/-- An `Accept` that arrives when no call of `accept` is pending is lost: the
next call does not get it. -/
theorem accept_lost : ∃ steps p, NetworkRun .subscribed steps p ∧
    ¬Network.HandedOver steps p := by
  obtain ⟨steps, p, hrun, htasks, ⟨x, hx, hdelivered⟩, hcalls⟩ :=
    NetworkRun.exists_along (E := .subscribed)
      (P := fun steps p => p.clientTasks = [] ∧
        (∃ x ∈ steps, x.2 = .onmessage 0 ⟨17, 14, 0, .accept {
          boundAlias := "127.0.0.0:80"
          clientAlias := "127.0.0.1:1" }⟩) ∧
        ∀ e ∈ (p.clients 0).calls.entries, e.2.answeredBy ≠ some 17)
      "127.0.0"
      (acceptEvents ++ [.request 1 (.connect "v" "127.0.0.0:80")] ++ NetworkRun.serve 1 7 ++
        NetworkRun.notify 0 3 ++ NetworkRun.notify 0 2 ++
        [.request 0 (.accept "127.0.0.0:80")] ++ NetworkRun.serve 0 1)
      (by decide +kernel)
  refine ⟨steps, p, hrun, fun hhanded => ?_⟩
  rcases hhanded x hx 0 _ _ hdelivered rfl with ⟨t, ht, -⟩ | ⟨n, ⟨call, hget, -, -, hanswered⟩, -⟩
  · rw [htasks] at ht
    cases ht
  · exact hcalls _ (Map.mem_entries_iff.mpr hget) hanswered

end Unisockets.Signaling
