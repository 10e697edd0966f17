import Unisockets.Signaling.RejectedRequests
import Unisockets.Signaling.RequestFates

/-!
# The promises of `bind` and `shutdown`

An `Alias` that answers a Bind or a Shutdown does not say which request it
answers.  Every call of `bind` or `shutdown` of the same alias listens to the same
event, and so do the broadcasts for other clients under it.

`NetworkStep.AnswersOwn` says that a step calls no listener but that of the call
whose request is answered, and that no answer gets lost with a socket.  In every
run whose steps do so, a promise says what the server has decided
(`fates_reported`).  In `overlapping_shutdown_rejected` a client calls `shutdown`
before its `bind` is answered.
-/

namespace Unisockets.Signaling

open JsStd Transition

/-! ## The calls -/

/-- The calls of `bind` and `shutdown`. -/
def Request.announced : Request → Bool
  | .bind _ | .shutdown _ => true
  | _ => false

/-- The flag of an answer. -/
def Request.flag (accepted : Bool) : Request → Bool
  | .shutdown _ => !accepted
  | _ => accepted

/-- What a promise says of the request. -/
def Promise.outcome : Promise → Option Bool
  | .pending => none
  | .resolved _ => some true
  | .rejected _ => some false

theorem Promise.outcome_eq_none {promise : Promise} :
    promise.outcome = none ↔ promise = .pending := by
  cases promise <;> simp [outcome]

namespace Request

variable {r : Request}

@[simp] theorem announced_operation (id : String) :
    (r.operation id).announced = r.announced := by
  cases r <;> rfl

theorem once_of_announced (h : r.announced = true) : r.once = true := by
  cases r with
  | connect => cases h
  | _ => rfl

theorem sender_operation (h : r.announced = true) (id : String) :
    (r.operation id).sender = some id := by
  cases r with
  | bind => rfl
  | shutdown => rfl
  | _ => cases h

/-- What a client does with the answer to a request. -/
theorem handleOperation_reply (h : r.announced = true) (id : String) (accepted : Bool) :
    ∃ tcpAddress, SignalingClient.handleOperation ((r.operation id).reply accepted)
      = [.emit (r.eventName id) (.set (r.flag accepted)),
        .onAlias id tcpAddress (r.flag accepted)] := by
  cases r with
  | bind a => exact ⟨a, rfl⟩
  | shutdown a => exact ⟨a, rfl⟩
  | _ => cases h

end Request

/-- The listener of a pending call hears the answer to its own request. -/
theorem Call.outcome_notify {call : Call} (h : call.request.announced = true)
    (hpending : call.promise = .pending) (id : String) (number : Nat) (accepted : Bool) :
    (call.notify id number (.set (call.request.flag accepted))).promise.outcome
      = some accepted := by
  unfold notify
  cases hrequest : call.request with
  | bind a => cases accepted <;> simp [Request.flag, settle, hpending, Promise.outcome]
  | shutdown a => cases accepted <;> simp [Request.flag, settle, hpending, Promise.outcome]
  | _ =>
    rw [hrequest] at h
    cases h

/-- The event of `bind` and `shutdown` carries a flag. -/
theorem Call.eq_set_of_fits {call : Call} (h : call.request.announced = true) {data : EventData}
    (hfits : data.Fits call.eventName) : ∃ set, data = .set set := by
  have hname : ∃ id a, call.eventName = getAliasKey id a := by
    unfold eventName
    cases hrequest : call.request with
    | bind a => exact ⟨_, _, rfl⟩
    | shutdown a => exact ⟨_, _, rfl⟩
    | _ =>
      rw [hrequest] at h
      cases h
  obtain ⟨id, a, hname⟩ := hname
  rw [hname] at hfits
  cases data with
  | connection =>
    obtain ⟨u, hu⟩ := hfits
    exact absurd hu.symm getConnectionKey_ne_getAliasKey
  | set flag => exact ⟨flag, rfl⟩
  | clientAlias =>
    obtain ⟨b, hb⟩ := hfits
    exact absurd hb getAliasKey_ne_getAcceptKey

/-! ## Promises and decisions -/

/-- The promises of `bind` and `shutdown` of a client report what the server has
decided over their own requests. -/
structure Network.FatesReported (steps : List (Network × NetworkStep)) (p : Network)
    (client : Nat) : Prop where
  settled : ∀ {n call accepted}, (p.clients client).calls.get n = some call →
    call.request.announced = true → call.promise.outcome = some accepted →
    Decided steps n accepted
  decided : p.Quiet → ∀ {n call accepted}, (p.clients client).calls.get n = some call →
    call.request.announced = true → Decided steps n accepted →
    call.promise.outcome = some accepted

instance (p : Network) (id : String) (client : Nat) : Decidable (p.Receives id client) :=
  decidable_of_iff (((p.server.clients.get id).any fun socket =>
    (p.clients client).client = some ⟨socket, .OPEN⟩) = true) (by
      simp only [Network.Receives, Option.any_eq_true, decide_eq_true_eq])

/-- Of the listeners of a client, a step calls only that of the call whose request
is answered.  A client that is about to be answered is connected, and it does not
close its socket before it has received the answer. -/
def NetworkStep.AnswersOwn (p : Network) (client : Nat) : NetworkStep → Prop
  | .handle ⟨client', message, .emitting _ (.set _) listeners :: _⟩ =>
    client' = client →
      ∀ l ∈ listeners, l ∈ (p.clients client).asyncResolver → l.2 = message.cause
  | .resume n t => t.concludes p.server = true →
    ∀ call ∈ (p.clients client).calls.get n, p.Receives call.id client
  | .onclose client' => client' = client →
    ∀ m ∈ p.down, ∀ ws ∈ (p.clients client).client, m.socket = ws.socket →
      ∀ call ∈ (p.clients client).calls.get m.cause, call.request.announced = true →
        call.promise ≠ .pending
  | _ => True

instance (p : Network) (client : Nat) : DecidablePred (NetworkStep.AnswersOwn p client)
  | .handle ⟨_, _, .emitting _ (.set _) _ :: _⟩ => inferInstanceAs (Decidable (_ → ∀ l ∈ _, _))
  | .resume .. => inferInstanceAs (Decidable (_ → ∀ call ∈ _, _))
  | .onclose _ => inferInstanceAs (Decidable (_ → ∀ m ∈ _, ∀ ws ∈ _, _ → ∀ call ∈ _, _))
  | .handle ⟨_, _, []⟩ | .handle ⟨_, _, .acknowledge _ :: _⟩ | .handle ⟨_, _, .emit .. :: _⟩
  | .handle ⟨_, _, .onAlias .. :: _⟩ | .handle ⟨_, _, .emitting _ (.connection ..) _ :: _⟩
  | .handle ⟨_, _, .emitting _ (.clientAlias _) _ :: _⟩ | .connecting _ | .onopen _
  | .request .. | .handleSend .. | .onmessage .. | .receive _ | .close _ => isTrue trivial

/-! ## The answers on their way -/

namespace Network

variable {E : Emittery (String × Nat)} {steps : List (Network × NetworkStep)} {p p' : Network}
  {a : NetworkStep} {client n : Nat} {call : Call}

/-- A message stays on its way, or its client receives it. -/
theorem mem_down_step (hstep : Step E p a p') {m : Message} (hm : m ∈ p.down) :
    m ∈ p'.down ∨ ∃ client, a = .onmessage client m ∧
      (p.clients client).client = some ⟨m.socket, .OPEN⟩ ∧
      p'.clientTasks = p.clientTasks
        ++ ClientTask.remaining client m (SignalingClient.handleOperation m.operation) := by
  cases hstep with
  | @onmessage client message before after hdown hfirst hclient =>
    rw [hdown] at hm
    rcases List.mem_append.mp hm with hm | hm
    · exact .inl (List.mem_append_left _ hm)
    · rcases List.mem_cons.mp hm with rfl | hm
      · exact .inr ⟨client, rfl, hclient, rfl⟩
      · exact .inl (List.mem_append_right _ hm)
  | resume htasks hready => exact .inl (List.mem_append_left _ hm)
  | _ => exact .inl hm

/-- A task of a client stays, or it is the one that goes on. -/
theorem mem_clientTasks_step (hstep : Step E p a p') {t : ClientTask} (ht : t ∈ p.clientTasks) :
    t ∈ p'.clientTasks ∨ ∃ before after, a = .handle t ∧ p.clientTasks = before ++ t :: after ∧
      p' = p.handle E t (before ++ after) := by
  cases hstep with
  | onmessage hdown hfirst hclient => exact .inl (List.mem_append_left _ ht)
  | @handle task before after htasks =>
    have ht' := ht
    rw [htasks] at ht
    rcases List.mem_append.mp ht with ht | ht
    · exact .inl (List.mem_append_left _ (List.mem_append_left _ ht))
    · rcases List.mem_cons.mp ht with rfl | ht
      · exact .inr ⟨before, after, rfl, htasks, rfl⟩
      · exact .inl (List.mem_append_left _ (List.mem_append_right _ ht))
  | _ => exact .inl ht

/-- An open socket stays open until its client closes it. -/
theorem open_step (hstep : Step E p a p') {socket : Socket}
    (hclient : (p.clients client).client = some ⟨socket, .OPEN⟩) :
    (p'.clients client).client = some ⟨socket, .OPEN⟩ ∨ a = .onclose client := by
  have hset : ∀ {client' : Nat} {c : SignalingClient}, client ≠ client' →
      ((p.setClient client' c).clients client).client = some ⟨socket, .OPEN⟩ := by
    intro client' c hne
    rw [clients_setClient, if_neg hne]
    exact hclient
  cases hstep with
  | @connecting client' hidle =>
    refine .inl (hset ?_)
    rintro rfl
    unfold idle at hidle
    rw [hclient] at hidle
    cases hidle
  | @onopen client' socket' hclient' =>
    refine .inl (hset ?_)
    rintro rfl
    rw [hclient] at hclient'
    cases hclient'
  | @onclose client' socket' readyState hclient' hlive =>
    by_cases hc : client = client'
    · exact .inr (hc ▸ rfl)
    · exact .inl (hset hc)
  | @request client' r hfresh =>
    refine .inl ?_
    show ((p.setClient client' ((p.clients client').request p.nextNumber r)).clients
      client).client = _
    rw [clients_setClient]
    split_ifs with hc
    · exact hc ▸ hclient
    · exact hclient
  | @handle task before after htasks =>
    refine .inl ?_
    rw [client_handle]
    exact hclient
  | _ => exact .inl hclient

/-- The emission that tells a call of the answer to its request: the listener of
the call is among those that `emit` has taken note of. -/
inductive Telling (n : Nat) (eventName : String) : List ClientAction → Prop where
  | emit {set : Bool} {rest : List ClientAction} :
    Telling n eventName (.emit eventName (.set set) :: rest)
  | emitting {set : Bool} {listeners : List (String × Nat)} {rest : List ClientAction}
      (hnoted : (eventName, n) ∈ listeners) :
    Telling n eventName (.emitting eventName (.set set) listeners :: rest)

/-- The answer to the request of a call is on its way to the call. -/
inductive Arriving (p : Network) (client n : Nat) (call : Call) : Prop where
  | sent {m : Message} {accepted : Bool} (hm : m ∈ p.down) (hcause : m.cause = n)
      (hreply : m.operation = (call.request.operation call.id).reply accepted)
      (hclient : (p.clients client).client = some ⟨m.socket, .OPEN⟩)
  | received {task : ClientTask} (htask : task ∈ p.clientTasks) (hclient : task.client = client)
      (htelling : Telling n call.eventName task.rest)

/-- The answer comes closer, until the promise is settled. -/
theorem Arriving.step (h : p.Arriving client n call) (hannounced : call.request.announced = true)
    (hwired : p.Wired) (hsockets : p.Sockets) (hown : a.AnswersOwn p client)
    (hstep : Step E p a p') (hget : (p.clients client).calls.get n = some call)
    (hpending : call.promise = .pending) :
    p'.Arriving client n call ∨ ∃ call', (p'.clients client).calls.get n = some call' ∧
      call'.promise ≠ .pending := by
  cases h with
  | @sent m accepted hm hcause hreply hclient =>
    rcases open_step hstep hclient with hopen | rfl
    · rcases mem_down_step hstep hm with hm | ⟨client', rfl, hclient', htasks⟩
      · exact .inl (.sent hm hcause hreply hopen)
      · obtain rfl : client = client' := hsockets.unique hclient hclient' rfl
        obtain ⟨tcpAddress, hactions⟩ :=
          Request.handleOperation_reply hannounced call.id accepted
        rw [← hreply] at hactions
        rw [hactions] at htasks
        have hnew : ⟨client, m, [.emit call.eventName (.set (call.request.flag accepted)),
            .onAlias call.id tcpAddress (call.request.flag accepted)]⟩ ∈ p'.clientTasks := by
          rw [htasks]
          exact List.mem_append_right _ (ClientTask.mem_remaining_self (List.cons_ne_nil _ _))
        exact .inl (.received hnew rfl .emit)
    · refine absurd hpending (hown rfl m hm _ hclient rfl call ?_ hannounced)
      rw [hcause]
      exact hget
  | @received task htask hclient htelling =>
    rcases mem_clientTasks_step hstep htask with hkept | ⟨before, after, rfl, htasks, rfl⟩
    · exact .inl (.received hkept hclient htelling)
    · obtain ⟨client', m, rest⟩ := task
      obtain rfl : client' = client := hclient
      have hlistener := (hwired.client client').waiting hget (.inl hpending)
      cases htelling with
      | @emit set rest =>
        have hnoted : (call.eventName, n) ∈ (p.clients client').listeners call.eventName :=
          List.mem_filter.mpr ⟨hlistener, decide_eq_true rfl⟩
        have hnew : ⟨client', m, .emitting call.eventName (.set set)
            ((p.clients client').listeners call.eventName) :: rest⟩ ∈ (p.handle E
              ⟨client', m, .emit call.eventName (.set set) :: rest⟩ (before ++ after)).clientTasks :=
          List.mem_append_right _ (ClientTask.mem_remaining_self (List.cons_ne_nil _ _))
        exact .inl (.received hnew rfl (.emitting hnoted))
      | @emitting set listeners rest hnoted =>
        refine .inr ⟨call.notify (p.clients client').id m.number (.set set), ?_, ?_⟩
        · rw [get_calls_emitting hwired htasks, if_pos ⟨hnoted, hlistener⟩, hget]
          rfl
        · refine Call.notify_settles (Request.once_of_announced hannounced) ?_
          obtain ⟨others, hperm, -⟩ := actions_handle E htasks
          obtain ⟨hfits, -⟩ := hwired.fits _
            (hperm.mem_iff.mpr (List.mem_append_left _ List.mem_cons_self))
          exact hfits

/-! ## The invariant -/

/-- What holds of a call of `bind` or `shutdown`. -/
structure Reporting (steps : List (Network × NetworkStep)) (p : Network) (client n : Nat)
    (call : Call) : Prop where
  followed : Followed steps p n (call.request.operation call.id)
  settled : ∀ accepted, call.promise.outcome = some accepted → Decided steps n accepted
  arriving : p.handlersOf n = [] → ∀ accepted, Decided steps n accepted →
    call.promise = .pending → p.Arriving client n call

namespace Reporting

/-- The event that settles a call is the answer to its request. -/
theorem heard (h : Reporting steps p client n call) (hannounced : call.request.announced = true)
    (hdelivering : Delivering steps p) {m : Message} {data : EventData}
    {listeners : List (String × Nat)} {rest : List ClientAction}
    (htask : ⟨client, m, .emitting call.eventName data listeners :: rest⟩ ∈ p.clientTasks)
    (hcause : m.cause = n) :
    ∃ accepted, Decided steps n accepted ∧ data = .set (call.request.flag accepted) := by
  have hm : m ∈ p.messages := List.mem_append_right _ (List.mem_map_of_mem htask)
  obtain ⟨accepted, hdecided, hreply⟩ := h.followed.replies m hm hcause
  obtain ⟨tcpAddress, hactions⟩ := Request.handleOperation_reply hannounced call.id accepted
  have haction := (hdelivering.staged _ htask).mem List.mem_cons_self
  rw [hreply, hactions] at haction
  rcases List.mem_cons.mp haction with he | haction
  · cases he
    exact ⟨accepted, hdecided, rfl⟩
  · cases List.mem_singleton.mp haction

/-- A call that has just been made. -/
theorem start (h : Counted steps p) (client : Nat) (r : Request) :
    Reporting (steps ++ [(p, .request client r)]) (p.request client r) client p.nextNumber
      { request := r, id := (p.clients client).id } where
  followed := Followed.start h client r
  settled accepted he := by cases he
  arriving hover accepted hdecided _ := by
    rcases decided_snoc.mp hdecided with hdecided | hnow
    · exact absurd (h.decided hdecided) (Nat.lt_irrefl _)
    · cases hnow

/-- A call that hears of nothing. -/
theorem keep (h : Reporting steps p client n call) (hannounced : call.request.announced = true)
    (hwired : p.Wired) (hsockets : p.Sockets) (hn : n < p.nextNumber)
    (hown : a.AnswersOwn p client) (hstep : Step E p a p')
    (hget : (p.clients client).calls.get n = some call)
    (hget' : (p'.clients client).calls.get n = some call) :
    Reporting (steps ++ [(p, a)]) p' client n call where
  followed := h.followed.step (by simpa using hannounced) hn hstep
  settled accepted he := decided_snoc.mpr (.inl (h.settled accepted he))
  arriving hover accepted hdecided hpending := by
    rcases h.followed.told (by simpa using hannounced) hn hstep hover hdecided with
      ⟨hover, hdecided⟩ | ⟨t, rfl, hconcludes, hanswer⟩
    · have hold := h.arriving hover accepted hdecided hpending
      refine (hold.step hannounced hwired hsockets hown hstep hget hpending).resolve_right ?_
      rintro ⟨call', hcall', hsettled⟩
      rw [hget'] at hcall'
      cases hcall'
      exact hsettled hpending
    · obtain ⟨socket, hsocket, hclient⟩ := hown hconcludes call hget
      obtain ⟨m, hm, hcause, rfl, hreply⟩ :=
        hanswer call.id socket (Request.sender_operation hannounced call.id) hsocket
      cases hstep with
      | resume htasks hready => exact .sent hm hcause hreply hclient

/-- A call that hears of an event. -/
theorem notify (h : Reporting steps p client n call) (hannounced : call.request.announced = true)
    (hpending : call.promise = .pending) (hdelivering : Delivering steps p) (hwired : p.Wired)
    (hn : n < p.nextNumber) {m : Message} {data : EventData} {listeners : List (String × Nat)}
    {rest : List ClientAction}
    (ha : a = .handle ⟨client, m, .emitting call.eventName data listeners :: rest⟩)
    (hown : a.AnswersOwn p client) (hnoted : (call.eventName, n) ∈ listeners)
    (hlistener : (call.eventName, n) ∈ (p.clients client).asyncResolver)
    (hstep : Step E p a p') :
    Reporting (steps ++ [(p, a)]) p' client n
      (call.notify (p.clients client).id m.number data) := by
  have hfollowed := h.followed.step (by simpa using hannounced) hn hstep
  subst ha
  cases hstep with
  | @handle task before after htasks =>
    have htask := mem_of_taken htasks
    obtain ⟨others, hperm, -⟩ := actions_handle E htasks
    obtain ⟨hfits, -⟩ := hwired.fits _
      (hperm.mem_iff.mpr (List.mem_append_left _ List.mem_cons_self))
    obtain ⟨set, rfl⟩ := Call.eq_set_of_fits hannounced hfits
    have hcause : n = m.cause := hown rfl _ hnoted hlistener
    obtain ⟨accepted, hdecided, he⟩ := h.heard hannounced hdelivering htask hcause.symm
    cases he
    have houtcome := Call.outcome_notify hannounced hpending (p.clients client).id m.number accepted
    constructor
    · rw [Call.notify_request, Call.notify_id]
      exact hfollowed
    · intro accepted' he'
      rw [houtcome] at he'
      cases he'
      exact decided_snoc.mpr (.inl hdecided)
    · intro _ _ _ hstill
      rw [Promise.outcome_eq_none.mpr hstill] at houtcome
      cases houtcome

end Reporting

/-- A step of the run. -/
theorem reporting_step (h : ∀ {n call}, (p.clients client).calls.get n = some call →
      call.request.announced = true → Reporting steps p client n call)
    (hrun : NetworkRun E steps p) (hown : a.AnswersOwn p client) (hstep : Step E p a p')
    (hget : (p'.clients client).calls.get n = some call)
    (hannounced : call.request.announced = true) :
    Reporting (steps ++ [(p, a)]) p' client n call := by
  have hwired := hrun.wired
  rcases get_calls_step hwired hstep client n with hsame | ⟨r, rfl, rfl, -, hnew⟩ |
    ⟨m, data, listeners, rest, call', ha, hnoted, hlistener, honce, hold, hnew⟩
  · have hold := hsame.symm.trans hget
    exact (h hold hannounced).keep hannounced hwired hrun.sockets ((hwired.client client).call hold)
      hown hstep hold hget
  · rw [hnew] at hget
    cases hget
    cases hstep with
    | request hfresh => exact .start hrun.counted client r
  · rw [hnew] at hget
    cases hget
    rw [Call.notify_request] at hannounced
    exact (h hold hannounced).notify hannounced (honce (Request.once_of_announced hannounced))
      hrun.delivering hwired ((hwired.client client).call hold) ha hown hnoted hlistener hstep

end Network

/-- The calls of a run that answers them with the answers to their own requests. -/
theorem NetworkRun.reporting {E : Emittery (String × Nat)} {steps : List (Network × NetworkStep)}
    {p : Network} (hrun : NetworkRun E steps p) {client : Nat}
    (hown : ∀ x ∈ steps, x.2.AnswersOwn x.1 client) {n : Nat} {call : Call}
    (hget : (p.clients client).calls.get n = some call)
    (hannounced : call.request.announced = true) :
    Network.Reporting steps p client n call := by
  induction hrun generalizing n call with
  | start hinit =>
    obtain ⟨subnet, parentWsId, rfl⟩ := hinit
    cases hget
  | snoc hrun hstep ih =>
    have hsteps := fun x hx => hown x (List.mem_append_left _ hx)
    refine Network.reporting_step (fun hget hannounced => ih hsteps hget hannounced) hrun
      (hown _ (List.mem_append_right _ List.mem_cons_self)) hstep hget hannounced

/-! ## The runs whose answers are heard by their own calls -/

/-- In a quiet state the handler of a request that has been decided is over. -/
theorem Network.Followed.over_of_quiet {steps : List (Network × NetworkStep)} {p : Network}
    {n : Nat} {request : Operation} (h : Followed steps p n request) (hquiet : p.Quiet)
    {accepted : Bool} (hdecided : Decided steps n accepted) : p.handlersOf n = [] := by
  obtain ⟨fate, hover | ⟨t, ht, hserves⟩, hfate⟩ := h.fate
  · exact hover
  · have hmem : (n, t) ∈ p.handlers := mem_handlersOf.mp (ht ▸ List.mem_cons_self)
    unfold handlers at hmem
    rw [hquiet.serverTasks, List.append_nil] at hmem
    obtain ⟨m, -, he⟩ := List.mem_map.mp hmem
    cases he
    rw [hfate] at hdecided
    cases hserves
    cases hdecided

/-- Nothing arrives in a quiet state. -/
theorem Network.Arriving.not_quiet {p : Network} {client n : Nat} {call : Call}
    (h : p.Arriving client n call) (hquiet : p.Quiet) : False := by
  cases h with
  | sent hm _ _ hclient => cases hquiet.down _ hm _ _ hclient rfl
  | received htask _ _ =>
    rw [hquiet.clientTasks] at htask
    cases htask

/-- In every run whose steps let every call of `bind` and `shutdown` of a client
hear the answer to its own request, a promise resolves or rejects if the server
has accepted or rejected that request. -/
theorem fates_reported {E : Emittery (String × Nat)} {steps : List (Network × NetworkStep)}
    {p : Network} (hrun : NetworkRun E steps p) {client : Nat}
    (hown : ∀ x ∈ steps, x.2.AnswersOwn x.1 client) : p.FatesReported steps client := by
  constructor
  · intro n call accepted hget hannounced houtcome
    exact (hrun.reporting hown hget hannounced).settled accepted houtcome
  · intro hquiet n call accepted hget hannounced hdecided
    have hreporting := hrun.reporting hown hget hannounced
    have hover := hreporting.followed.over_of_quiet hquiet hdecided
    cases houtcome : call.promise.outcome with
    | none =>
      have hpending := Promise.outcome_eq_none.mp houtcome
      exact absurd hquiet (hreporting.arriving hover accepted hdecided hpending).not_quiet
    | some accepted' =>
      obtain ⟨fate, -, hfate⟩ := hreporting.followed.fate
      have hsaid := (hfate accepted').mp (hreporting.settled accepted' houtcome)
      exact hsaid.symm.trans ((hfate accepted).mp hdecided)

/-- A client binds an alias, binds it again and shuts it down, one call after the
other. -/
def sequentialEvents : List Network.Event :=
  NetworkRun.join 0 0 ++
    [.request 0 (.bind "127.0.0.0:80")] ++ NetworkRun.serve 0 3 ++ NetworkRun.notify 0 3 ++
    [.request 0 (.bind "127.0.0.0:80")] ++ NetworkRun.serve 0 1 ++ NetworkRun.notify 0 3 ++
    [.request 0 (.shutdown "127.0.0.0:80")] ++ NetworkRun.serve 0 5 ++ NetworkRun.notify 0 3

/-- The outcomes of the calls of a client. -/
def Network.outcomes (p : Network) (client : Nat) : List (Nat × Option Bool) :=
  (p.clients client).calls.entries.map fun entry => (entry.1, entry.2.promise.outcome)

theorem fates_reported_run : ∃ steps p, NetworkRun .subscribed steps p ∧
    p.FatesReported steps 0 ∧ Decided steps 2 true ∧ Decided steps 4 false ∧
    p.outcomes 0 = [(2, some true), (4, some false), (6, some true)] := by
  obtain ⟨steps, p, hrun, hown, haccepted, hrejected, houtcomes⟩ :=
    NetworkRun.exists_along (E := .subscribed)
      (P := fun steps p => (∀ x ∈ steps, x.2.AnswersOwn x.1 0) ∧ Decided steps 2 true ∧
        Decided steps 4 false ∧
        p.outcomes 0 = [(2, some true), (4, some false), (6, some true)])
      "127.0.0" sequentialEvents (by decide +kernel)
  exact ⟨steps, p, hrun, fates_reported hrun hown, haccepted, hrejected, houtcomes⟩

/-! ## The defect -/

/-- A client calls `shutdown` before its `bind` of the same alias is answered:
the server accepts both, and the answer to the Bind rejects the `shutdown`. -/
theorem overlapping_shutdown_rejected : ∃ steps p, NetworkRun .subscribed steps p ∧ p.Quiet ∧
    ∃ call, (p.clients 0).calls.get 3 = some call ∧ call.request = .shutdown "127.0.0.0:80" ∧
      Decided steps 3 true ∧ call.promise.outcome = some false ∧ ¬p.FatesReported steps 0 := by
  obtain ⟨steps, p, hrun, ⟨hclientTasks, hserverTasks, hup, hdown⟩, ⟨call, hget, hcall⟩,
      haccepted⟩ :=
    NetworkRun.exists_along (E := .subscribed)
      (P := fun steps p => (p.clientTasks = [] ∧ p.serverTasks = [] ∧ p.up = [] ∧ p.down = []) ∧
        (∃ call ∈ (p.clients 0).calls.get 3, call.request = .shutdown "127.0.0.0:80" ∧
          call.promise.outcome = some false) ∧ Decided steps 3 true)
      "127.0.0"
      (NetworkRun.join 0 0 ++
        [.request 0 (.bind "127.0.0.0:80"), .request 0 (.shutdown "127.0.0.0:80")] ++
        NetworkRun.serve 0 3 ++ NetworkRun.notify 0 3 ++ NetworkRun.serve 0 5 ++
        NetworkRun.notify 0 3)
      (by decide +kernel)
  have hquiet := Network.Quiet.of_nil hclientTasks hserverTasks hup hdown
  refine ⟨steps, p, hrun, hquiet, call, hget, hcall.1, haccepted, hcall.2, fun hreported => ?_⟩
  have hannounced : call.request.announced = true := by rw [hcall.1]; rfl
  have htrue := hreported.decided hquiet hget hannounced haccepted
  rw [hcall.2] at htrue
  cases htrue

end Unisockets.Signaling
