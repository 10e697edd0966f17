import Unisockets.Signaling.Network

/-!
# The calls of the clients

What holds of the calls and listeners of every client in every run, whatever
the messages say: a listener belongs to a call that waits for its event, a call
that was made with `once` has its listener exactly as long as its promise is
pending, and an event carries the data that its name promises.

`SignalingClient.Wired` is the invariant of one client, `Network.Wired` that of
the network, and `NetworkRun.wired` the run lemma.

`Network.actions` collects what is left to do for the messages on their way to
the clients and for those that are being handled.
-/

namespace Unisockets.Signaling

open JsStd Transition

/-! ## The names of events -/

theorem getConnectionKey_inj {u u' : String} (h : getConnectionKey u = getConnectionKey u') :
    u = u' := by
  have h' : "connection id=" ++ u = "connection id=" ++ u' := h
  simpa using h'

theorem getAcceptKey_inj {a a' : String} (h : getAcceptKey a = getAcceptKey a') : a = a' := by
  have h' : "accept alias=" ++ a = "accept alias=" ++ a' := h
  simpa using h'

theorem getConnectionKey_ne_getAliasKey {u id a : String} :
    getConnectionKey u ≠ getAliasKey id a := by
  intro h
  have h : "connection id=" ++ u = "alias id=" ++ id ++ " alias=" ++ a := h
  have h' := congrArg (fun s : String => s.toList[0]?) h
  simp [String.toList_append] at h'

theorem getConnectionKey_ne_getAcceptKey {u a : String} :
    getConnectionKey u ≠ getAcceptKey a := by
  intro h
  have h : "connection id=" ++ u = "accept alias=" ++ a := h
  have h' := congrArg (fun s : String => s.toList[0]?) h
  simp [String.toList_append] at h'

theorem getAliasKey_ne_getAcceptKey {id a b : String} : getAliasKey id a ≠ getAcceptKey b := by
  intro h
  have h : "alias id=" ++ id ++ " alias=" ++ a = "accept alias=" ++ b := h
  have h' := congrArg (fun s : String => s.toList[1]?) h
  simp [String.toList_append] at h'

/-- The data that goes with the name of an event. -/
def EventData.Fits (eventName : String) : EventData → Prop
  | .connection .. => ∃ u, eventName = getConnectionKey u
  | .set _ => ∃ id a, eventName = getAliasKey id a
  | .clientAlias _ => ∃ a, eventName = getAcceptKey a

/-- The emissions among the actions carry the data of their names, and one that
goes on has taken note of each listener once. -/
def ClientAction.Fits : ClientAction → Prop
  | .emit eventName data => data.Fits eventName
  | .emitting eventName data listeners =>
    data.Fits eventName ∧ (listeners.map Prod.snd).Nodup ∧ ∀ l ∈ listeners, l.1 = eventName
  | _ => True

theorem SignalingClient.fits_handleOperation (operation : Operation) :
    ∀ action ∈ handleOperation operation, action.Fits := by
  intro action haction
  cases operation with
  | acknowledged data =>
    rw [List.mem_singleton.mp haction]
    trivial
  | «alias» data =>
    simp only [handleOperation] at haction
    split at haction
    · rename_i u hu
      rcases List.mem_cons.mp haction with rfl | haction
      · exact ⟨u, rfl⟩
      · rw [List.mem_singleton.mp haction]
        trivial
    · rcases List.mem_cons.mp haction with rfl | haction
      · exact ⟨data.id, data.alias, rfl⟩
      · rw [List.mem_singleton.mp haction]
        trivial
  | accept data =>
    simp only [handleOperation] at haction
    rcases List.mem_append.mp haction with haction | haction
    · split at haction
      · rw [List.mem_singleton.mp haction]
        trivial
      · cases haction
    · rw [List.mem_singleton.mp haction]
      exact ⟨data.boundAlias, rfl⟩
  | _ => cases haction

/-! ## Settling a call -/

namespace Call

variable {call : Call} {id : String} {number : Nat} {data : EventData}

@[simp] theorem settle_request (promise : Promise) :
    (call.settle number promise).request = call.request := by
  unfold settle
  split_ifs <;> rfl

@[simp] theorem settle_id (promise : Promise) : (call.settle number promise).id = call.id := by
  unfold settle
  split_ifs <;> rfl

theorem settle_promise_ne {promise : Promise} (h : promise ≠ .pending) :
    (call.settle number promise).promise ≠ .pending := by
  unfold settle
  split_ifs with hpending
  · exact h
  · exact hpending

@[simp] theorem notify_request : (call.notify id number data).request = call.request := by
  unfold notify
  split
  · split_ifs <;> exact settle_request _
  · split_ifs <;> exact settle_request _
  · exact settle_request _
  · dsimp only
    split_ifs
    · exact settle_request _
    · rfl
    · exact settle_request _
  · rfl

@[simp] theorem notify_id : (call.notify id number data).id = call.id := by
  unfold notify
  split
  · split_ifs <;> exact settle_id _
  · split_ifs <;> exact settle_id _
  · exact settle_id _
  · dsimp only
    split_ifs
    · exact settle_id _
    · rfl
    · exact settle_id _
  · rfl

@[simp] theorem notify_eventName : (call.notify id number data).eventName = call.eventName := by
  rw [eventName, notify_request, notify_id]
  rfl

theorem answeredBy_settle (promise : Promise) :
    (call.settle number promise).answeredBy = call.answeredBy ∨
      (call.settle number promise).answeredBy = some number := by
  unfold settle
  split_ifs
  · exact .inr rfl
  · exact .inl rfl

/-- A call is answered by the message that its listener hears of, if at all. -/
theorem answeredBy_notify (call : Call) (id : String) (number : Nat) (data : EventData) :
    (call.notify id number data).answeredBy = call.answeredBy ∨
      (call.notify id number data).answeredBy = some number := by
  unfold notify
  split
  · split_ifs <;> exact answeredBy_settle _
  · split_ifs <;> exact answeredBy_settle _
  · exact answeredBy_settle _
  · dsimp only
    split_ifs
    · exact @answeredBy_settle (call.count _ _) number _
    · exact .inl rfl
    · exact answeredBy_settle _
  · exact .inl rfl

/-- A listener that was added with `once` settles its call. -/
theorem notify_settles (honce : call.request.once = true) (hfits : data.Fits call.eventName) :
    (call.notify id number data).promise ≠ .pending := by
  unfold eventName at hfits
  unfold notify
  cases hrequest : call.request with
  | bind a | shutdown a =>
    rw [hrequest] at hfits
    cases data with
    | connection =>
      obtain ⟨u, hu⟩ := hfits
      exact absurd hu.symm getConnectionKey_ne_getAliasKey
    | set flag =>
      simp only
      split_ifs <;> exact settle_promise_ne (by simp)
    | clientAlias =>
      obtain ⟨b, hb⟩ := hfits
      exact absurd hb getAliasKey_ne_getAcceptKey
  | accept a =>
    rw [hrequest] at hfits
    cases data with
    | connection =>
      obtain ⟨u, hu⟩ := hfits
      exact absurd hu.symm getConnectionKey_ne_getAcceptKey
    | set flag =>
      obtain ⟨id', b, hb⟩ := hfits
      exact absurd hb.symm getAliasKey_ne_getAcceptKey
    | clientAlias =>
      exact settle_promise_ne (by simp)
  | connect u a =>
    rw [hrequest] at honce
    cases honce

end Call

/-! ## Calling the listeners of an event -/

namespace SignalingClient

variable {c : SignalingClient} {n number : Nat} {data : EventData} {l : String × Nat}
  {ls : List (String × Nat)}

theorem get_calls_call (m : Nat) :
    (c.call number data l).calls.get m = if m = l.2
      then (c.calls.get m).map fun call => call.notify c.id number data
      else c.calls.get m := by
  unfold call
  cases hget : c.calls.get l.2 with
  | none =>
    simp only
    split_ifs with hm
    · rw [hm, hget]
      rfl
    · rfl
  | some call =>
    simp only [Map.get_set]
    split_ifs with hm
    · rw [hm, hget]
      rfl
    · rfl

theorem mem_asyncResolver_call {l' : String × Nat} :
    l' ∈ (c.call number data l).asyncResolver ↔ l' ∈ c.asyncResolver ∧
      ¬(l' = l ∧ ∃ call, c.calls.get l.2 = some call ∧ call.request.once = true) := by
  unfold call
  cases hget : c.calls.get l.2 with
  | none => simp
  | some call =>
    simp only
    split_ifs with honce
    · simp [List.mem_filter, honce]
    · simp [honce]

theorem asyncResolver_call_sublist :
    (c.call number data l).asyncResolver.Sublist c.asyncResolver := by
  unfold call
  cases c.calls.get l.2 with
  | none => exact List.Sublist.refl _
  | some call =>
    simp only
    split_ifs
    · exact List.filter_sublist
    · exact List.Sublist.refl _

@[simp] theorem call_id : (c.call number data l).id = c.id := by
  unfold call
  split <;> rfl

@[simp] theorem call_client : (c.call number data l).client = c.client := by
  unfold call
  split <;> rfl

@[simp] theorem call_aliasesHolder :
    (c.call number data l).aliasesHolder = c.aliasesHolder := by
  unfold call
  split <;> rfl

@[simp] theorem callAll_client : (c.callAll number data ls).client = c.client := by
  induction ls generalizing c with
  | nil => rfl
  | cons l ls ih => exact ih.trans call_client

@[simp] theorem callAll_aliasesHolder :
    (c.callAll number data ls).aliasesHolder = c.aliasesHolder := by
  induction ls generalizing c with
  | nil => rfl
  | cons l ls ih => exact ih.trans call_aliasesHolder

theorem asyncResolver_callAll_sublist :
    (c.callAll number data ls).asyncResolver.Sublist c.asyncResolver := by
  induction ls generalizing c with
  | nil => exact List.Sublist.refl _
  | cons l ls ih => exact ih.trans asyncResolver_call_sublist

/-- A call hears of an event once if its listener is among those called. -/
theorem get_calls_callAll (hnodup : (ls.map Prod.snd).Nodup) (m : Nat) :
    (c.callAll number data ls).calls.get m = if m ∈ ls.map Prod.snd
      then (c.calls.get m).map fun call => call.notify c.id number data
      else c.calls.get m := by
  induction ls generalizing c with
  | nil => rfl
  | cons l ls ih =>
    obtain ⟨hl, hnodup⟩ := List.nodup_cons.mp hnodup
    have hrest := ih (c := c.call number data l) hnodup
    rw [call_id, get_calls_call] at hrest
    show ((c.call number data l).callAll number data ls).calls.get m = _
    rw [hrest]
    by_cases hm : m = l.2
    · subst hm
      have hmem : l.2 ∈ (l :: ls).map Prod.snd := List.mem_cons_self
      rw [if_neg hl, if_pos rfl, if_pos hmem]
    · rw [if_neg hm]
      have hmem : m ∈ (l :: ls).map Prod.snd ↔ m ∈ ls.map Prod.snd := by
        rw [List.map_cons, List.mem_cons]
        exact or_iff_right hm
      exact (if_congr hmem rfl rfl).symm

theorem mem_asyncResolver_callAll (hnodup : (ls.map Prod.snd).Nodup) {l' : String × Nat} :
    l' ∈ (c.callAll number data ls).asyncResolver ↔ l' ∈ c.asyncResolver ∧
      ¬(l' ∈ ls ∧ ∃ call, c.calls.get l'.2 = some call ∧ call.request.once = true) := by
  induction ls generalizing c with
  | nil => simp [callAll]
  | cons l ls ih =>
    obtain ⟨hl, hnodup⟩ := List.nodup_cons.mp hnodup
    have hrest := ih (c := c.call number data l) hnodup
    show l' ∈ ((c.call number data l).callAll number data ls).asyncResolver ↔ _
    rw [hrest, mem_asyncResolver_call, and_assoc]
    refine and_congr_right fun _ => ?_
    by_cases hl' : l' = l
    · subst hl'
      have hnot : l' ∉ ls := fun hmem => hl (List.mem_map_of_mem hmem)
      simp [hnot]
    · by_cases hmem : l' ∈ ls
      · have hne : l'.2 ≠ l.2 := fun he => hl (he ▸ List.mem_map_of_mem hmem)
        rw [get_calls_call, if_neg hne]
        simp [hl', hmem]
      · simp [hl', hmem]

/-! ## The invariant of a client -/

/-- Calls have numbers below `n`, and every listener waits for the event of its
call: with `once`, exactly as long as the promise is pending. -/
structure Wired (c : SignalingClient) (n : Nat) : Prop where
  call : ∀ {m call}, c.calls.get m = some call → m < n
  listener : ∀ {l}, l ∈ c.asyncResolver → ∃ call, c.calls.get l.2 = some call ∧
    call.eventName = l.1 ∧ (call.request.once = true → call.promise = .pending)
  nodup : (c.asyncResolver.map Prod.snd).Nodup
  waiting : ∀ {m call}, c.calls.get m = some call →
    call.promise = .pending ∨ call.request.once = false → (call.eventName, m) ∈ c.asyncResolver

namespace Wired

theorem mono {n' : Nat} (h : c.Wired n) (hn : n ≤ n') : c.Wired n' where
  call hget := Nat.lt_of_lt_of_le (h.call hget) hn
  listener := h.listener
  nodup := h.nodup
  waiting := h.waiting

theorem of_eq {c' : SignalingClient} (h : c.Wired n) (hcalls : c'.calls = c.calls)
    (hresolver : c'.asyncResolver = c.asyncResolver) : c'.Wired n := by
  constructor
  · rw [hcalls]
    exact h.call
  · rw [hcalls, hresolver]
    exact h.listener
  · rw [hresolver]
    exact h.nodup
  · rw [hcalls, hresolver]
    exact h.waiting

theorem request (h : c.Wired n) (r : Request) : (c.request n r).Wired (n + 1) := by
  have hnew : ∀ l ∈ c.asyncResolver, l.2 ≠ n := by
    intro l hl
    obtain ⟨call, hget, -⟩ := h.listener hl
    exact Nat.ne_of_lt (h.call hget)
  constructor
  · intro m call hget
    have hget : (c.calls.set n { request := r, id := c.id }).get m = some call := hget
    rw [Map.get_set] at hget
    split_ifs at hget with hm
    · omega
    · exact Nat.lt_succ_of_lt (h.call hget)
  · intro l hl
    show ∃ call, (c.calls.set n { request := r, id := c.id }).get l.2 = some call ∧ _
    rcases List.mem_append.mp hl with hl | hl
    · rw [Map.get_set_of_ne _ _ (hnew l hl)]
      exact h.listener hl
    · rw [List.mem_singleton.mp hl, Map.get_set_self]
      exact ⟨_, rfl, rfl, fun _ => rfl⟩
  · show ((c.asyncResolver ++ [(r.eventName c.id, n)]).map Prod.snd).Nodup
    rw [List.map_append]
    refine List.nodup_append.mpr ⟨h.nodup, List.nodup_singleton _, ?_⟩
    intro m hm m' hm'
    obtain ⟨l, hl, rfl⟩ := List.mem_map.mp hm
    rw [List.mem_singleton.mp hm']
    exact hnew l hl
  · intro m call hget hwaits
    have hget : (c.calls.set n { request := r, id := c.id }).get m = some call := hget
    rw [Map.get_set] at hget
    split_ifs at hget with hm
    · cases hget
      subst hm
      exact List.mem_append_right _ (List.mem_singleton.mpr rfl)
    · exact List.mem_append_left _ (h.waiting hget hwaits)

/-- A listener of a client is known by its call. -/
theorem listener_ext (h : c.Wired n) {l l' : String × Nat} (hl : l ∈ c.asyncResolver)
    (hl' : l' ∈ c.asyncResolver) (he : l.2 = l'.2) : l = l' :=
  List.inj_on_of_nodup_map h.nodup hl hl' he

theorem callAll (h : c.Wired n) {eventName : String} (hfits : data.Fits eventName)
    (hls : ∀ l ∈ ls, l ∈ c.asyncResolver ∧ l.1 = eventName)
    (hnodup : (ls.map Prod.snd).Nodup) : (c.callAll number data ls).Wired n := by
  have hcalled : ∀ l ∈ c.asyncResolver, l.2 ∈ ls.map Prod.snd → l ∈ ls := by
    intro l hl hmem
    obtain ⟨l', hl', he⟩ := List.mem_map.mp hmem
    exact h.listener_ext (hls l' hl').1 hl he ▸ hl'
  constructor
  · intro m call hget
    rw [get_calls_callAll hnodup] at hget
    split_ifs at hget
    · obtain ⟨call', hget', -⟩ := Option.map_eq_some_iff.mp hget
      exact h.call hget'
    · exact h.call hget
  · intro l hl
    obtain ⟨hl, hstays⟩ := (mem_asyncResolver_callAll hnodup).mp hl
    obtain ⟨call, hget, hname, hpending⟩ := h.listener hl
    rw [get_calls_callAll hnodup, hget]
    split_ifs with hmem
    · refine ⟨_, rfl, by rw [Call.notify_eventName, hname], fun honce => ?_⟩
      rw [Call.notify_request] at honce
      exact absurd ⟨hcalled l hl hmem, call, hget, honce⟩ hstays
    · exact ⟨call, rfl, hname, hpending⟩
  · exact h.nodup.sublist (asyncResolver_callAll_sublist.map _)
  · intro m call hget hwaits
    rw [get_calls_callAll hnodup] at hget
    rw [mem_asyncResolver_callAll hnodup]
    split_ifs at hget with hmem
    · obtain ⟨call', hget', rfl⟩ := Option.map_eq_some_iff.mp hget
      obtain ⟨l, hl, rfl⟩ := List.mem_map.mp hmem
      obtain ⟨call'', hget'', hname, -⟩ := h.listener (hls l hl).1
      rw [hget'] at hget''
      cases hget''
      rw [Call.notify_request, Call.notify_eventName] at *
      have honce : call'.request.once = false := by
        by_contra honce
        have honce : call'.request.once = true := Bool.eq_true_of_not_eq_false honce
        rcases hwaits with hpending | hfalse
        · refine Call.notify_settles honce ?_ hpending
          rw [hname, (hls l hl).2]
          exact hfits
        · rw [honce] at hfalse
          cases hfalse
      refine ⟨h.waiting hget' (.inr honce), ?_⟩
      rintro ⟨-, call, hcall, hcalled⟩
      have hcall : c.calls.get l.2 = some call := hcall
      rw [hget'] at hcall
      cases hcall
      rw [honce] at hcalled
      cases hcalled
    · refine ⟨h.waiting hget hwaits, fun hcalled => hmem ?_⟩
      exact List.mem_map.mpr ⟨_, hcalled.1, rfl⟩

/-- What `emit` takes note of. -/
theorem fits_listeners (h : c.Wired n) {eventName : String} (hfits : data.Fits eventName) :
    (ClientAction.emitting eventName data (c.listeners eventName)).Fits := by
  refine ⟨hfits, h.nodup.sublist (List.filter_sublist.map _), fun l hl => ?_⟩
  exact of_decide_eq_true (List.mem_filter.mp hl).2

/-- The listeners that an emission calls are there, under its name. -/
theorem mem_called {E : Emittery (String × Nat)} {eventName : String}
    {before : List (String × Nat)}
    (hl : l ∈ E.called before (c.listeners eventName)) :
    l ∈ c.asyncResolver ∧ l.1 = eventName := by
  obtain ⟨hmem, hname⟩ := List.mem_filter.mp ((E.mem_called _ _ _).mp hl).2
  exact ⟨hmem, of_decide_eq_true hname⟩

theorem step (E : Emittery (String × Nat)) (number : Nat) (h : c.Wired n) {rest : List ClientAction}
    (hfits : ∀ action ∈ rest, action.Fits) :
    (SignalingClient.step E number c rest).1.Wired n ∧
      ∀ action ∈ (SignalingClient.step E number c rest).2, action.Fits := by
  cases rest with
  | nil => exact ⟨h, hfits⟩
  | cons action rest =>
    obtain ⟨haction, hrest⟩ := List.forall_mem_cons.mp hfits
    cases action with
    | acknowledge id => exact ⟨h.of_eq rfl rfl, hrest⟩
    | emit eventName data =>
      exact ⟨h, List.forall_mem_cons.mpr ⟨h.fits_listeners haction, hrest⟩⟩
    | emitting eventName data before =>
      obtain ⟨hdata, hnodup, -⟩ := haction
      refine ⟨h.callAll hdata (fun l hl => mem_called hl) ?_, hrest⟩
      exact hnodup.sublist ((E.sublist _ _).map _)
    | onAlias id tcpAddress set => exact ⟨h.of_eq rfl rfl, hrest⟩

end Wired

end SignalingClient

/-! ## What is left to do -/

@[simp] theorem ClientTask.flatMap_rest_remaining (client : Nat) (message : Message)
    (rest : List ClientAction) :
    (ClientTask.remaining client message rest).flatMap ClientTask.rest = rest := by
  unfold ClientTask.remaining
  split_ifs with h
  · exact h.symm
  · exact List.append_nil _

namespace Message

/-- What its receiver does with a message. -/
def actions (m : Message) : List ClientAction := SignalingClient.handleOperation m.operation

theorem flatMap_actions_numbered (cause n : Nat) (posts : List (Socket × Operation)) :
    (numbered cause n posts).flatMap actions
      = posts.flatMap fun post => SignalingClient.handleOperation post.2 := by
  induction posts generalizing n with
  | nil => rfl
  | cons post posts ih =>
    rw [numbered, List.flatMap_cons, List.flatMap_cons, ih]
    rfl

end Message

namespace Network

/-- What is left to do for the messages that the clients have not handled yet. -/
def actions (p : Network) : List ClientAction :=
  p.down.flatMap Message.actions ++ p.clientTasks.flatMap ClientTask.rest

variable {p : Network}

theorem actions_onmessage {client : Nat} {m : Message} {before after : List Message}
    (hdown : p.down = before ++ m :: after) :
    (p.onmessage client m (before ++ after)).actions.Perm p.actions := by
  unfold actions onmessage
  rw [hdown]
  have hm : SignalingClient.handleOperation m.operation = m.actions := rfl
  simp only [List.flatMap_append, List.flatMap_cons, ClientTask.flatMap_rest_remaining, hm]
  rw [List.append_assoc, List.append_assoc, List.append_assoc]
  refine List.Perm.append_left _ ?_
  have hcomm := @List.perm_append_comm _
    (after.flatMap Message.actions ++ p.clientTasks.flatMap ClientTask.rest) m.actions
  rw [List.append_assoc] at hcomm
  exact hcomm

theorem actions_handle (E : Emittery (String × Nat)) {task : ClientTask}
    {before after : List ClientTask} (htasks : p.clientTasks = before ++ task :: after) :
    ∃ others, p.actions.Perm (task.rest ++ others) ∧
      (p.handle E task (before ++ after)).actions.Perm
        ((SignalingClient.step E task.message.number (p.clients task.client) task.rest).2
          ++ others) := by
  refine ⟨p.down.flatMap Message.actions ++ (before ++ after).flatMap ClientTask.rest, ?_, ?_⟩
  · unfold actions
    rw [htasks]
    simp only [List.flatMap_append, List.flatMap_cons]
    rw [← List.append_assoc, ← List.append_assoc, ← List.append_assoc, ← List.append_assoc]
    refine List.Perm.append_right _ ?_
    have hcomm := @List.perm_append_comm _
      (p.down.flatMap Message.actions ++ before.flatMap ClientTask.rest) task.rest
    rw [List.append_assoc] at hcomm ⊢
    rw [List.append_assoc]
    exact hcomm
  · show (p.down.flatMap Message.actions ++ _).Perm _
    simp only [handle, List.flatMap_append, ClientTask.flatMap_rest_remaining]
    rw [← List.append_assoc]
    exact List.perm_append_comm

theorem actions_resume (number : Nat) (task : ServerTask) (serverTasks : List (Nat × ServerTask)) :
    (p.resume number task serverTasks).actions.Perm
      ((task.posts p.server).flatMap (fun post => SignalingClient.handleOperation post.2)
        ++ p.actions) := by
  unfold actions resume
  simp only [List.flatMap_append, Message.flatMap_actions_numbered]
  rw [← List.append_assoc]
  exact List.Perm.append_right _ List.perm_append_comm

theorem clients_setClient (client client' : Nat) (c : SignalingClient) :
    (p.setClient client c).clients client'
      = if client' = client then c else p.clients client' := by
  show Function.update p.clients client c client' = _
  rw [Function.update_apply]

/-- A client is replaced by one with the same calls. -/
theorem calls_setClient {client : Nat} {c : SignalingClient}
    (hc : c.calls = (p.clients client).calls) (client' : Nat) :
    ((p.setClient client c).clients client').calls = (p.clients client').calls := by
  rw [clients_setClient]
  split_ifs with he
  · rw [hc, he]
  · rfl

/-- The calls after a request: the new one, and those that were there. -/
theorem get_calls_request {client client' n : Nat} {r : Request} {call : Call}
    (hget : ((p.request client r).clients client').calls.get n = some call) :
    call = { request := r, id := (p.clients client).id } ∨
      (p.clients client').calls.get n = some call := by
  have hclient : (p.request client r).clients client'
      = if client' = client then (p.clients client).request p.nextNumber r
        else p.clients client' := clients_setClient client client' _
  rw [hclient] at hget
  split_ifs at hget with hc
  · have hget : ((p.clients client).calls.set p.nextNumber
        { request := r, id := (p.clients client).id }).get n = some call := hget
    rw [Map.get_set] at hget
    split_ifs at hget
    · exact .inl (Option.some.inj hget).symm
    · exact .inr (hc ▸ hget)
  · exact .inr hget

/-! ## The invariant of the network -/

/-- Every client is wired, and every event carries the data of its name. -/
structure Wired (p : Network) : Prop where
  client : ∀ client, (p.clients client).Wired p.nextNumber
  fits : ∀ action ∈ p.actions, action.Fits

namespace Wired

/-- A step that changes one client and leaves the messages for the clients
alone. -/
theorem setClient {p' : Network} (h : p.Wired) (client : Nat) (c : SignalingClient)
    (hc : c.Wired p'.nextNumber) (hclients : p'.clients = (p.setClient client c).clients)
    (hnumber : p.nextNumber ≤ p'.nextNumber) (hactions : p'.actions = p.actions) :
    p'.Wired where
  client client' := by
    rw [hclients, clients_setClient]
    split_ifs
    · exact hc
    · exact (h.client client').mono hnumber
  fits := hactions ▸ h.fits

/-- A step that changes no client. -/
theorem keep {p' : Network} (h : p.Wired) (hclients : p'.clients = p.clients)
    (hnumber : p.nextNumber ≤ p'.nextNumber) (hfits : ∀ action ∈ p'.actions, action.Fits) :
    p'.Wired where
  client client' := hclients ▸ (h.client client').mono hnumber
  fits := hfits

theorem step {E : Emittery (String × Nat)} {p' : Network} {a : NetworkStep} (h : p.Wired)
    (hstep : Step E p a p') : p'.Wired := by
  cases hstep with
  | @connecting client hidle =>
    refine h.setClient client _ ?_ rfl (Nat.le_refl _) rfl
    exact (h.client client).of_eq rfl rfl
  | @onopen client socket hclient =>
    refine h.setClient client _ ?_ rfl (Nat.le_succ _) rfl
    exact ((h.client client).mono (Nat.le_succ _)).of_eq rfl rfl
  | @onclose client socket readyState hclient hlive =>
    refine h.setClient client _ ?_ rfl (Nat.le_refl _) rfl
    exact (h.client client).of_eq rfl rfl
  | @request client request hfresh =>
    exact h.setClient client _ ((h.client client).request request) rfl (Nat.le_succ _) rfl
  | handleSend hrelayed => exact h.keep rfl (Nat.le_succ _) h.fits
  | onmessage hdown hfirst hclient =>
    refine h.keep rfl (Nat.le_refl _) fun action haction => h.fits action ?_
    exact (actions_onmessage hdown).mem_iff.mp haction
  | @handle task before after htasks =>
    obtain ⟨others, hbefore, hafter⟩ := actions_handle E htasks
    have hfits : ∀ action ∈ task.rest ++ others, action.Fits :=
      fun action haction => h.fits action (hbefore.mem_iff.mpr haction)
    obtain ⟨hrest, hothers⟩ := List.forall_mem_append.mp hfits
    obtain ⟨hc, hnext⟩ := (h.client task.client).step E task.message.number hrest
    constructor
    · intro client'
      show SignalingClient.Wired (Function.update p.clients _ _ client') p.nextNumber
      rw [Function.update_apply]
      split_ifs
      · exact hc
      · exact h.client client'
    · intro action haction
      exact List.forall_mem_append.mpr ⟨hnext, hothers⟩ action (hafter.mem_iff.mp haction)
  | receive hup hfirst hopen => exact h.keep rfl (Nat.le_refl _) h.fits
  | close hsocket hopen => exact h.keep rfl (Nat.le_succ _) h.fits
  | resume htasks hready =>
    refine h.keep rfl (Nat.le_add_right _ _) fun action haction => ?_
    rcases List.mem_append.mp ((actions_resume _ _ _).mem_iff.mp haction) with hpost | hold
    · obtain ⟨post, -, hpost⟩ := List.mem_flatMap.mp hpost
      exact SignalingClient.fits_handleOperation post.2 action hpost
    · exact h.fits action hold

end Wired

end Network

theorem NetworkRun.wired {E : Emittery (String × Nat)} {steps : List (Network × NetworkStep)}
    {p : Network} (hrun : NetworkRun E steps p) : p.Wired := by
  refine Run.invariant (I := Network.Wired) hrun (fun _ _ => (trivial : True)) ?_ ?_
  · rintro q ⟨subnet, parentWsId, rfl⟩
    refine ⟨fun client => ?_, fun action haction => absurd haction List.not_mem_nil⟩
    constructor
    · intro m call hget
      cases hget
    · intro l hl
      cases hl
    · exact List.nodup_nil
    · intro m call hget
      cases hget
  · exact fun q a q' hq _ hstep => hq.step hstep

end Unisockets.Signaling
