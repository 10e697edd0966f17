import Unisockets.Guest.Link

/-!
# A client with calls that wait

What the steps do to one client.  `Separated` is the invariant behind the isolation:
the calls that wait are on the connection of every message that they may get, be it
on its way, in the queue or in an emission.  `NoneNew` says of a step that the client
has the messages and the calls that it had, and `Synced` that `origins` is about the
queue.
-/

namespace Unisockets.Guest

open JsStd Transition Transport

namespace Client

/-! ### The calls of a client -/

section Calls

variable {calls : Nat → Option RecvCall} {n n' : Nat} {call call' : RecvCall}

/-- One call is set. -/
theorem update_cases (h : Function.update calls n (some call) n' = some call') :
    calls n' = some call' ∨ n' = n ∧ call' = call := by
  rw [Function.update_apply] at h
  split_ifs at h with hn
  · exact .inr ⟨hn, (Option.some.inj h).symm⟩
  · exact .inl h

/-- One call is taken away. -/
theorem of_update_none (h : Function.update calls n none n' = some call) :
    calls n' = some call := by
  rw [Function.update_apply] at h
  split_ifs at h
  exact h

end Calls

variable {E : Emittery Nat} {remoteId localId : String} {c c' : Client}

section Incoming

variable {msg : Uint8Array} {origin : Option Origin} {incoming : List (Uint8Array × Option Origin)}

/-- The first message that is on its way. -/
theorem underWay_head (h : c.incoming = (msg, origin) :: incoming) :
    ∀ o, origin = some o → c.UnderWay o := by
  rintro o rfl
  refine .inl ?_
  rw [h]
  exact List.mem_cons_self

/-- The other messages that are on their way. -/
theorem underWay_tail (h : c.incoming = (msg, origin) :: incoming) :
    ∀ o, some o ∈ incoming.map Prod.snd → c.UnderWay o := by
  intro o ho
  refine .inl ?_
  rw [h]
  exact List.mem_cons_of_mem _ ho

end Incoming

/-! ### What the steps of the page do -/

/-- What `queueAndEmitMessage` does to the listeners. -/
theorem listeners_queueAndEmitMessage {t : Transporter} {msg : Uint8Array} {key : String} :
    (t.queueAndEmitMessage remoteId localId msg).1.listeners key = t.listeners key ∧
      ∀ calls, (t.queueAndEmitMessage remoteId localId msg).2 = .ok calls →
        calls = t.listeners (getMessageKey remoteId localId) := by
  unfold Transporter.queueAndEmitMessage
  split
  · exact ⟨rfl, fun calls hcalls => by cases hcalls⟩
  · exact ⟨rfl, fun calls hcalls => by cases hcalls⟩
  · constructor
    · split <;> rfl
    · intro calls hcalls
      exact (Except.ok.inj hcalls).symm

/-- A message that is on its way gets to the queue and to the listeners there are. -/
structure Delivered (remoteId localId : String) (c c' : Client) : Prop where
  underWay (o : Origin) (h : c'.UnderWay o) : c.UnderWay o
  emission (e : Uint8Array × Option Origin × List Nat) (he : e ∈ c'.emissions) :
    e ∈ c.emissions ∨ (∀ o, e.2.1 = some o → c.UnderWay o) ∧
      e.2.2 = c.transporter.listeners (getMessageKey remoteId localId)
  listeners : c'.transporter.listeners (getMessageKey remoteId localId) =
    c.transporter.listeners (getMessageKey remoteId localId)
  calls : c'.calls = c.calls
  nextCall : c'.nextCall = c.nextCall
  connections : c'.connections = c.connections

theorem delivered_of_deliver (hstep : c.deliver remoteId localId = some c') :
    Delivered remoteId localId c c' := by
  unfold Client.deliver at hstep
  split at hstep
  · cases hstep
  · rename_i msg origin incoming hincoming
    have hhead := underWay_head hincoming
    have htail := underWay_tail hincoming
    obtain ⟨hlisteners, hcalls⟩ := @listeners_queueAndEmitMessage remoteId localId c.transporter
      msg (getMessageKey remoteId localId)
    split at hstep
    · rename_i t calls heq
      rw [heq] at hlisteners hcalls
      obtain rfl := Option.some.inj hstep
      refine ⟨?_, ?_, hlisteners, rfl, rfl, rfl⟩
      · rintro o (ho | ho)
        · exact htail o ho
        · show some o ∈ _ ∨ some o ∈ c.origins
          dsimp only at ho
          split_ifs at ho
          · rcases List.mem_append.mp ho with ho | ho
            · exact .inr ho
            · exact hhead o (List.mem_singleton.mp ho).symm
          · exact .inr ho
      · intro e he
        rcases List.mem_append.mp he with he | he
        · exact .inl he
        · obtain rfl := List.mem_singleton.mp he
          exact .inr ⟨hhead, hcalls calls rfl⟩
    · rename_i t error heq
      rw [heq] at hlisteners
      obtain rfl := Option.some.inj hstep
      refine ⟨?_, fun e he => .inl he, hlisteners, rfl, rfl, rfl⟩
      rintro o (ho | ho)
      · exact htail o ho
      · exact .inr ho

/-- A call that an emission does not call stays what it is. -/
theorem resolve_cases (called : List Nat) (msg : Uint8Array) (origin : Option Origin)
    (call : RecvCall) :
    call.resolve called msg origin = call ∨ ∃ m ∈ called, call.stage = .awaiting m ∧
      call.resolve called msg origin = { call with stage := .resolved msg, origin := origin } := by
  unfold RecvCall.resolve
  split
  · rename_i m hm
    split_ifs with hmem
    · exact .inr ⟨m, hmem, hm, rfl⟩
    · exact .inl rfl
  · exact .inl rfl

/-- The oldest emission gives its message to the calls that await it. -/
structure Emitted (remoteId localId : String) (c c' : Client)
    (e : Uint8Array × Option Origin × List Nat) : Prop where
  emissions : c.emissions = e :: c'.emissions
  call (n : Nat) (call : RecvCall) (h : c'.calls n = some call) : c.calls n = some call ∨
    ∃ before m, c.calls n = some before ∧ before.stage = .awaiting m ∧ m ∈ e.2.2 ∧
      call = { before with stage := .resolved e.1, origin := e.2.1 }
  listeners (n : Nat) (hn : n ∈ c'.transporter.listeners (getMessageKey remoteId localId)) :
    n ∈ c.transporter.listeners (getMessageKey remoteId localId)
  queue : c'.transporter.queue remoteId localId = c.transporter.queue remoteId localId
  incoming : c'.incoming = c.incoming
  origins : c'.origins = c.origins
  nextCall : c'.nextCall = c.nextCall
  connections : c'.connections = c.connections

theorem emitted_of_emit (hstep : c.emit E remoteId localId = some c') :
    ∃ e, Emitted remoteId localId c c' e := by
  unfold Client.emit at hstep
  split at hstep
  · cases hstep
  · rename_i msg origin calls emissions hemissions
    obtain rfl := Option.some.inj hstep
    refine ⟨(msg, origin, calls), hemissions, ?_, ?_, rfl, rfl, rfl, rfl, rfl⟩
    · intro n call hcall
      obtain ⟨before, hbefore, rfl⟩ := Option.map_eq_some_iff.mp hcall
      rcases resolve_cases (E.called calls (c.transporter.listeners (getMessageKey remoteId
        localId))) msg origin before with heq | ⟨m, hm, hstage, heq⟩
      · rw [heq]
        exact .inl hbefore
      · exact .inr ⟨before, m, hbefore, hstage, ((E.mem_called ..).mp hm).1, heq⟩
    · intro n hn
      rw [Transporter.listeners_off] at hn
      exact (List.mem_filter.mp hn).1

/-! ### Separation -/

/-- The calls that wait are on the connection of whatever they may get. -/
structure Separated (remoteId localId : String) (c : Client) : Prop where
  pending (n : Nat) (call : RecvCall) (h : c.calls n = some call) (hpending : call.Pending)
    (o : Origin) (ho : c.UnderWay o) : call.connection = some o.connection
  got (n : Nat) (call : RecvCall) (h : c.calls n = some call) (o : Origin)
    (ho : call.origin = some o) : call.connection = some o.connection
  emission (e : Uint8Array × Option Origin × List Nat) (he : e ∈ c.emissions) (o : Origin)
    (ho : e.2.1 = some o) (n : Nat) (hn : n ∈ e.2.2) (call : RecvCall)
    (h : c.calls n = some call) (hpending : call.Pending) : call.connection = some o.connection
  number (n : Nat) (call : RecvCall) (h : c.calls n = some call) (m : Nat)
    (hm : call.stage = .awaiting m) : m = n
  lt (n : Nat) (call : RecvCall) (h : c.calls n = some call) : n < c.nextCall
  emission_lt (e : Uint8Array × Option Origin × List Nat) (he : e ∈ c.emissions) (n : Nat)
    (hn : n ∈ e.2.2) : n < c.nextCall
  listener_lt (n : Nat) (hn : n ∈ c.transporter.listeners (getMessageKey remoteId localId)) :
    n < c.nextCall

theorem Separated.initial {t : Transporter}
    (h : t.listeners (getMessageKey remoteId localId) = []) :
    Separated remoteId localId { transporter := t } where
  pending n call hcall := by cases hcall
  got n call hcall := by cases hcall
  emission e he := by cases he
  number n call hcall := by cases hcall
  lt n call hcall := by cases hcall
  emission_lt e he := by cases he
  listener_lt n hn := by
    rw [h] at hn
    cases hn

/-- What the tables are does not matter. -/
theorem Separated.congr (h : Separated remoteId localId c) (hincoming : c'.incoming = c.incoming)
    (horigins : c'.origins = c.origins) (hemissions : c'.emissions = c.emissions)
    (hcalls : c'.calls = c.calls) (hnext : c'.nextCall = c.nextCall)
    (hlisteners : c'.transporter.listeners (getMessageKey remoteId localId) =
      c.transporter.listeners (getMessageKey remoteId localId)) :
    Separated remoteId localId c' := by
  constructor
  · rw [hcalls]
    intro n call hcall hpending o ho
    rw [UnderWay, hincoming, horigins] at ho
    exact h.pending n call hcall hpending o ho
  · rw [hcalls]
    exact h.got
  · rw [hcalls, hemissions]
    exact h.emission
  · rw [hcalls]
    exact h.number
  · rw [hcalls, hnext]
    exact h.lt
  · rw [hemissions, hnext]
    exact h.emission_lt
  · rw [hlisteners, hnext]
    exact h.listener_lt

/-- The other client sends a message. -/
theorem Separated.sent (h : Separated remoteId localId c) {msg : Uint8Array}
    {origin : Option Origin}
    (horigin : ∀ n call o, c.calls n = some call → call.Pending → origin = some o →
      call.connection = some o.connection) :
    Separated remoteId localId { c with incoming := c.incoming ++ [(msg, origin)] } where
  pending n call hcall hpending o ho := by
    rcases ho with ho | ho
    · rw [List.map_append, List.mem_append] at ho
      rcases ho with ho | ho
      · exact h.pending n call hcall hpending o (.inl ho)
      · exact horigin n call o hcall hpending (List.mem_singleton.mp ho).symm
    · exact h.pending n call hcall hpending o (.inr ho)
  got := h.got
  emission := h.emission
  number := h.number
  lt := h.lt
  emission_lt := h.emission_lt
  listener_lt := h.listener_lt

theorem Separated.deliver (h : Separated remoteId localId c)
    (hstep : c.deliver remoteId localId = some c') : Separated remoteId localId c' := by
  have hdelivered := delivered_of_deliver hstep
  constructor
  · rw [hdelivered.calls]
    exact fun n call hcall hpending o ho =>
      h.pending n call hcall hpending o (hdelivered.underWay o ho)
  · rw [hdelivered.calls]
    exact h.got
  · rw [hdelivered.calls]
    intro e he o ho n hn call hcall hpending
    rcases hdelivered.emission e he with he | ⟨horigin, -⟩
    · exact h.emission e he o ho n hn call hcall hpending
    · exact h.pending n call hcall hpending o (horigin o ho)
  · rw [hdelivered.calls]
    exact h.number
  · rw [hdelivered.calls, hdelivered.nextCall]
    exact h.lt
  · rw [hdelivered.nextCall]
    intro e he n hn
    rcases hdelivered.emission e he with he | ⟨-, hlisteners⟩
    · exact h.emission_lt e he n hn
    · exact h.listener_lt n (hlisteners ▸ hn)
  · rw [hdelivered.listeners, hdelivered.nextCall]
    exact h.listener_lt

theorem not_pending_of_stage {call : RecvCall} {msg : Uint8Array}
    (h : call.stage = .resolved msg ∨ call.stage = .answered msg) : ¬call.Pending := by
  rintro (hp | ⟨n, hp⟩)
  · rw [hp] at h
    rcases h with h | h <;> cases h
  · rw [hp] at h
    rcases h with h | h <;> cases h

theorem Separated.emit (h : Separated remoteId localId c)
    (hstep : c.emit E remoteId localId = some c') : Separated remoteId localId c' := by
  obtain ⟨first, hemitted⟩ := emitted_of_emit hstep
  have hfirst : first ∈ c.emissions := by
    rw [hemitted.emissions]
    exact List.mem_cons_self
  have hrest : ∀ e ∈ c'.emissions, e ∈ c.emissions := by
    intro e he
    rw [hemitted.emissions]
    exact List.mem_cons_of_mem _ he
  constructor
  · intro n call hcall hpending o ho
    rw [UnderWay, hemitted.incoming, hemitted.origins] at ho
    rcases hemitted.call n call hcall with hsame | ⟨before, m, -, -, -, rfl⟩
    · exact h.pending n call hsame hpending o ho
    · exact absurd hpending (not_pending_of_stage (.inl rfl))
  · intro n call hcall o ho
    rcases hemitted.call n call hcall with hsame | ⟨before, m, hbefore, hstage, hm, rfl⟩
    · exact h.got n call hsame o ho
    · obtain rfl := h.number n before hbefore m hstage
      exact h.emission first hfirst o ho m hm before hbefore (.inr ⟨m, hstage⟩)
  · intro e he o ho n hn call hcall hpending
    rcases hemitted.call n call hcall with hsame | ⟨before, m, -, -, -, rfl⟩
    · exact h.emission e (hrest e he) o ho n hn call hsame hpending
    · exact absurd hpending (not_pending_of_stage (.inl rfl))
  · intro n call hcall m hm
    rcases hemitted.call n call hcall with hsame | ⟨before, m, -, -, -, rfl⟩
    · exact h.number n call hsame m hm
    · cases hm
  · rw [hemitted.nextCall]
    intro n call hcall
    rcases hemitted.call n call hcall with hsame | ⟨before, m, hbefore, -⟩
    · exact h.lt n call hsame
    · exact h.lt n before hbefore
  · rw [hemitted.nextCall]
    exact fun e he => h.emission_lt e (hrest e he)
  · rw [hemitted.nextCall]
    exact fun n hn => h.listener_lt n (hemitted.listeners n hn)

theorem Separated.recv (h : Separated remoteId localId c) {fd : Nat}
    (hfd : ∀ o, c.UnderWay o → c.connections fd = some o.connection)
    (hstep : c.recv remoteId localId fd = some c') : Separated remoteId localId c' := by
  unfold Client.recv at hstep
  split at hstep
  · split_ifs at hstep
    obtain rfl := Option.some.inj hstep
    constructor
    · intro n call hcall hpending o ho
      rcases update_cases hcall with hsame | ⟨-, rfl⟩
      · exact h.pending n call hsame hpending o ho
      · exact hfd o ho
    · intro n call hcall o ho
      rcases update_cases hcall with hsame | ⟨-, rfl⟩
      · exact h.got n call hsame o ho
      · cases ho
    · intro e he o ho n hn call hcall hpending
      rcases update_cases hcall with hsame | ⟨rfl, -⟩
      · exact h.emission e he o ho n hn call hsame hpending
      · exact absurd (h.emission_lt e he _ hn) (Nat.lt_irrefl _)
    · intro n call hcall m hm
      rcases update_cases hcall with hsame | ⟨-, rfl⟩
      · exact h.number n call hsame m hm
      · cases hm
    · intro n call hcall
      rcases update_cases hcall with hsame | ⟨rfl, -⟩
      · exact Nat.lt_succ_of_lt (h.lt n call hsame)
      · exact Nat.lt_succ_self _
    · exact fun e he n hn => Nat.lt_succ_of_lt (h.emission_lt e he n hn)
    · exact fun n hn => Nat.lt_succ_of_lt (h.listener_lt n hn)
  · cases hstep

/-- A call goes on. -/
theorem Separated.setCall (h : Separated remoteId localId c) {n : Nat} {before call : RecvCall}
    {t : Transporter} {origins : List (Option Origin)} (hbefore : c.calls n = some before)
    (hconnection : call.connection = before.connection)
    (hpending : call.Pending → before.Pending)
    (hnumber : ∀ m, call.stage = .awaiting m → m = n)
    (hgot : ∀ o, call.origin = some o → call.connection = some o.connection)
    (horigins : ∀ o, some o ∈ origins → some o ∈ c.origins)
    (hlisteners : ∀ m ∈ t.listeners (getMessageKey remoteId localId),
      m ∈ c.transporter.listeners (getMessageKey remoteId localId) ∨ m = n) :
    Separated remoteId localId { c with
      transporter := t
      origins := origins
      calls := Function.update c.calls n (some call) } := by
  constructor
  · intro n' call' hcall hp o ho
    have ho' : c.UnderWay o := ho.imp id (horigins o)
    rcases update_cases hcall with hsame | ⟨-, rfl⟩
    · exact h.pending n' call' hsame hp o ho'
    · rw [hconnection]
      exact h.pending n before hbefore (hpending hp) o ho'
  · intro n' call' hcall o ho
    rcases update_cases hcall with hsame | ⟨-, rfl⟩
    · exact h.got n' call' hsame o ho
    · exact hgot o ho
  · intro e he o ho n' hn call' hcall hp
    rcases update_cases hcall with hsame | ⟨rfl, rfl⟩
    · exact h.emission e he o ho n' hn call' hsame hp
    · rw [hconnection]
      exact h.emission e he o ho n' hn before hbefore (hpending hp)
  · intro n' call' hcall m hm
    rcases update_cases hcall with hsame | ⟨rfl, rfl⟩
    · exact h.number n' call' hsame m hm
    · exact hnumber m hm
  · intro n' call' hcall
    rcases update_cases hcall with hsame | ⟨rfl, -⟩
    · exact h.lt n' call' hsame
    · exact h.lt n' before hbefore
  · exact h.emission_lt
  · intro m hm
    rcases hlisteners m hm with hm | rfl
    · exact h.listener_lt m hm
    · exact h.lt m before hbefore

theorem mem_of_head?_join {l : List (Option Origin)} {o : Origin} (h : l.head?.join = some o) :
    some o ∈ l := by
  cases l with
  | nil => cases h
  | cons origin rest =>
    have horigin : origin = some o := h
    rw [horigin]
    exact List.mem_cons_self

/-- What `recv` does to the listeners. -/
theorem listeners_recv {t : Transporter} {n m : Nat}
    (hm : m ∈ (t.recv remoteId localId n).1.listeners (getMessageKey remoteId localId)) :
    m ∈ t.listeners (getMessageKey remoteId localId) ∨ m = n := by
  unfold Transporter.recv at hm
  split at hm
  · exact .inl hm
  · rw [Transporter.mem_listeners, List.mem_append, ← Transporter.mem_listeners] at hm
    rcases hm with hm | hm
    · exact .inl hm
    · exact .inr (Prod.mk.inj (List.mem_singleton.mp hm)).2

theorem Separated.handle (h : Separated remoteId localId c) {n : Nat}
    (hstep : c.handle remoteId localId n = some c') : Separated remoteId localId c' := by
  unfold Client.handle at hstep
  split at hstep
  · rename_i call hcall
    split_ifs at hstep with hposted
    have hlisteners : ∀ m ∈ (c.transporter.recv remoteId localId n).1.listeners
        (getMessageKey remoteId localId), _ := fun m hm => listeners_recv hm
    split at hstep
    · rename_i t msg heq
      rw [heq] at hlisteners
      obtain rfl := Option.some.inj hstep
      refine h.setCall hcall rfl ?_ ?_ ?_ (fun o ho => List.mem_of_mem_tail ho) hlisteners
      · exact fun hp => absurd hp (not_pending_of_stage (.inr rfl))
      · intro m hm
        cases hm
      · -- the message is the first one of the queue
        intro o ho
        exact h.pending n call hcall (.inl hposted) o (.inr (mem_of_head?_join ho))
    · rename_i t heq
      rw [heq] at hlisteners
      obtain rfl := Option.some.inj hstep
      refine h.setCall hcall rfl (fun _ => .inl hposted) ?_ ?_ (fun o ho => ho) hlisteners
      · intro m hm
        exact (RecvStage.awaiting.inj hm).symm
      · exact h.got n call hcall
  · cases hstep

/-- What `recv` does after its await. -/
theorem recvResolved_eq_ok {t t' : Transporter} (h : t.recvResolved remoteId localId = .ok t') :
    (t'.queue remoteId localId).getD [] = ((t.queue remoteId localId).getD []).tail ∧
      t'.asyncResolver = t.asyncResolver := by
  unfold Transporter.recvResolved at h
  cases hqueues : t.queuedMessages.get remoteId with
  | none =>
    rw [hqueues] at h
    cases h
  | some queues =>
    have hqueue : t.queue remoteId localId = queues.get localId := by
      rw [Transporter.queue, hqueues, Option.bind_some]
    simp only [hqueues] at h
    cases hget : queues.get localId with
    | none =>
      rw [hget] at hqueue h
      obtain rfl := Except.ok.inj h
      simp [hqueue]
    | some msgs =>
      rw [hget] at hqueue h
      obtain rfl := Except.ok.inj h
      simp [hqueue]

theorem Separated.resume (h : Separated remoteId localId c) {n : Nat}
    (hstep : c.resume remoteId localId n = some c') : Separated remoteId localId c' := by
  unfold Client.resume at hstep
  split at hstep
  · rename_i call hcall
    split at hstep
    · rename_i msg t hresolved ht
      obtain rfl := Option.some.inj hstep
      refine h.setCall hcall rfl ?_ ?_ (h.got n call hcall)
        (fun o ho => List.mem_of_mem_tail ho) ?_
      · exact fun hp => absurd hp (not_pending_of_stage (.inr rfl))
      · intro m hm
        cases hm
      · intro m hm
        rw [Transporter.mem_listeners, (recvResolved_eq_ok ht).2, ← Transporter.mem_listeners] at hm
        exact .inl hm
    · cases hstep
  · cases hstep

theorem Separated.finish (h : Separated remoteId localId c) {n : Nat}
    (hstep : c.finish n = some c') : Separated remoteId localId c' := by
  unfold Client.finish at hstep
  split at hstep
  · split at hstep
    · obtain rfl := Option.some.inj hstep
      constructor
      · exact fun n' call hcall => h.pending n' call (of_update_none hcall)
      · exact fun n' call hcall => h.got n' call (of_update_none hcall)
      · exact fun e he o ho n' hn call hcall =>
          h.emission e he o ho n' hn call (of_update_none hcall)
      · exact fun n' call hcall => h.number n' call (of_update_none hcall)
      · exact fun n' call hcall => h.lt n' call (of_update_none hcall)
      · exact h.emission_lt
      · exact h.listener_lt
    · cases hstep
  · cases hstep

theorem Separated.setPage (h : Separated remoteId localId c) {t : Transporter}
    (hstep : c.setPage remoteId localId t = some c') : Separated remoteId localId c' := by
  unfold Client.setPage at hstep
  split_ifs at hstep with hkept
  obtain rfl := Option.some.inj hstep
  exact h.congr rfl rfl rfl rfl rfl hkept.2

/-! ### Where messages come from -/

/-- A message from this origin is at the client. -/
def Seen (c : Client) (o : Origin) : Prop :=
  c.UnderWay o ∨ (∃ e ∈ c.emissions, e.2.1 = some o) ∨
    ∃ n call, c.calls n = some call ∧ call.origin = some o

/-- The client gets no message, and no call. -/
structure NoneNew (c c' : Client) : Prop where
  seen (o : Origin) (h : c'.Seen o) : c.Seen o
  calls (n : Nat) (call : RecvCall) (h : c'.calls n = some call) : ∃ before,
    c.calls n = some before ∧ call.fd = before.fd ∧ call.connection = before.connection
  connections : c'.connections = c.connections

theorem noneNew_deliver (hstep : c.deliver remoteId localId = some c') : NoneNew c c' := by
  have hdelivered := delivered_of_deliver hstep
  refine ⟨?_, fun n call hcall => ⟨call, hdelivered.calls ▸ hcall, rfl, rfl⟩,
    hdelivered.connections⟩
  rintro o (ho | ⟨e, he, ho⟩ | ⟨n, call, hcall, ho⟩)
  · exact .inl (hdelivered.underWay o ho)
  · rcases hdelivered.emission e he with he | ⟨horigin, -⟩
    · exact .inr (.inl ⟨e, he, ho⟩)
    · exact .inl (horigin o ho)
  · exact .inr (.inr ⟨n, call, hdelivered.calls ▸ hcall, ho⟩)

theorem noneNew_emit (hstep : c.emit E remoteId localId = some c') : NoneNew c c' := by
  obtain ⟨first, hemitted⟩ := emitted_of_emit hstep
  refine ⟨?_, ?_, hemitted.connections⟩
  · rintro o (ho | ⟨e, he, ho⟩ | ⟨n, call, hcall, ho⟩)
    · rw [UnderWay, hemitted.incoming, hemitted.origins] at ho
      exact .inl ho
    · refine .inr (.inl ⟨e, ?_, ho⟩)
      rw [hemitted.emissions]
      exact List.mem_cons_of_mem _ he
    · rcases hemitted.call n call hcall with hsame | ⟨before, m, -, -, -, rfl⟩
      · exact .inr (.inr ⟨n, call, hsame, ho⟩)
      · refine .inr (.inl ⟨first, ?_, ho⟩)
        rw [hemitted.emissions]
        exact List.mem_cons_self
  · intro n call hcall
    rcases hemitted.call n call hcall with hsame | ⟨before, m, hbefore, -, -, rfl⟩
    · exact ⟨call, hsame, rfl, rfl⟩
    · exact ⟨before, hbefore, rfl, rfl⟩

/-- A call goes on with what is there. -/
theorem noneNew_setCall {n : Nat} {before call : RecvCall} {t : Transporter}
    {origins : List (Option Origin)} (hbefore : c.calls n = some before)
    (hfd : call.fd = before.fd) (hconnection : call.connection = before.connection)
    (horigin : ∀ o, call.origin = some o → c.Seen o)
    (horigins : ∀ o, some o ∈ origins → some o ∈ c.origins) :
    NoneNew c { c with
      transporter := t
      origins := origins
      calls := Function.update c.calls n (some call) } := by
  refine ⟨?_, ?_, rfl⟩
  · rintro o ((ho | ho) | ho | ⟨n', call', hcall, ho⟩)
    · exact .inl (.inl ho)
    · exact .inl (.inr (horigins o ho))
    · exact .inr (.inl ho)
    · rcases update_cases hcall with hsame | ⟨-, rfl⟩
      · exact .inr (.inr ⟨n', call', hsame, ho⟩)
      · exact horigin o ho
  · intro n' call' hcall
    rcases update_cases hcall with hsame | ⟨rfl, rfl⟩
    · exact ⟨call', hsame, rfl, rfl⟩
    · exact ⟨before, hbefore, hfd, hconnection⟩

theorem noneNew_handle {n : Nat} (hstep : c.handle remoteId localId n = some c') :
    NoneNew c c' := by
  unfold Client.handle at hstep
  split at hstep
  · rename_i call hcall
    split_ifs at hstep
    split at hstep
    · obtain rfl := Option.some.inj hstep
      refine noneNew_setCall hcall rfl rfl ?_ fun o ho => List.mem_of_mem_tail ho
      exact fun o ho => .inl (.inr (mem_of_head?_join ho))
    · obtain rfl := Option.some.inj hstep
      refine noneNew_setCall hcall rfl rfl ?_ fun o ho => ho
      exact fun o ho => .inr (.inr ⟨n, call, hcall, ho⟩)
  · cases hstep

theorem noneNew_resume {n : Nat} (hstep : c.resume remoteId localId n = some c') :
    NoneNew c c' := by
  unfold Client.resume at hstep
  split at hstep
  · rename_i call hcall
    split at hstep
    · obtain rfl := Option.some.inj hstep
      refine noneNew_setCall hcall rfl rfl ?_ fun o ho => List.mem_of_mem_tail ho
      exact fun o ho => .inr (.inr ⟨n, call, hcall, ho⟩)
    · cases hstep
  · cases hstep

theorem noneNew_finish {n : Nat} (hstep : c.finish n = some c') : NoneNew c c' := by
  unfold Client.finish at hstep
  split at hstep
  · split at hstep
    · obtain rfl := Option.some.inj hstep
      refine ⟨?_, fun n' call hcall => ⟨call, of_update_none hcall, rfl, rfl⟩, rfl⟩
      rintro o (ho | ho | ⟨n', call, hcall, ho⟩)
      · exact .inl ho
      · exact .inr (.inl ho)
      · exact .inr (.inr ⟨n', call, of_update_none hcall, ho⟩)
    · cases hstep
  · cases hstep

theorem noneNew_setPage {t : Transporter} (hstep : c.setPage remoteId localId t = some c') :
    NoneNew c c' := by
  unfold Client.setPage at hstep
  split_ifs at hstep
  obtain rfl := Option.some.inj hstep
  exact ⟨fun o ho => ho, fun n call hcall => ⟨call, hcall, rfl, rfl⟩, rfl⟩

/-! ### The origins of the queue -/

/-- There is one origin for each message of the queue. -/
def Synced (remoteId localId : String) (c : Client) : Prop :=
  ((c.transporter.queue remoteId localId).getD []).length = c.origins.length

theorem synced_deliver (h : Synced remoteId localId c)
    (hstep : c.deliver remoteId localId = some c') : Synced remoteId localId c' := by
  unfold Client.deliver Transporter.queueAndEmitMessage at hstep
  unfold Synced at h ⊢
  split at hstep
  · cases hstep
  · cases hchannel : c.transporter.channel remoteId localId with
    | none =>
      rw [hchannel] at hstep
      obtain rfl := Option.some.inj hstep
      exact h
    | some channel =>
      cases hqueues : c.transporter.queuedMessages.get remoteId with
      | none =>
        rw [hchannel, hqueues] at hstep
        obtain rfl := Option.some.inj hstep
        exact h
      | some queues =>
        have hqueue : c.transporter.queue remoteId localId = queues.get localId := by
          rw [Transporter.queue, hqueues, Option.bind_some]
        rw [hchannel, hqueues] at hstep
        obtain rfl := Option.some.inj hstep
        cases hget : queues.get localId with
        | none =>
          rw [hget] at hqueue
          simpa [hget, hqueue] using h
        | some msgs =>
          rw [hget] at hqueue
          simpa [hget, hqueue] using h

theorem synced_emit (h : Synced remoteId localId c)
    (hstep : c.emit E remoteId localId = some c') : Synced remoteId localId c' := by
  obtain ⟨e, hemitted⟩ := emitted_of_emit hstep
  rw [Synced, hemitted.queue, hemitted.origins]
  exact h

theorem synced_recv (h : Synced remoteId localId c) {fd : Nat}
    (hstep : c.recv remoteId localId fd = some c') : Synced remoteId localId c' := by
  unfold Client.recv at hstep
  split at hstep
  · split_ifs at hstep
    obtain rfl := Option.some.inj hstep
    exact h
  · cases hstep

theorem synced_handle (h : Synced remoteId localId c) {n : Nat}
    (hstep : c.handle remoteId localId n = some c') : Synced remoteId localId c' := by
  unfold Client.handle Transporter.recv at hstep
  unfold Synced at h ⊢
  split at hstep
  · split_ifs at hstep
    cases hqueue : c.transporter.queue remoteId localId with
    | none =>
      rw [hqueue] at hstep
      obtain rfl := Option.some.inj hstep
      exact h
    | some msgs =>
      rw [hqueue] at hstep h
      cases msgs with
      | nil =>
        obtain rfl := Option.some.inj hstep
        rw [← hqueue] at h
        exact h
      | cons msg msgs =>
        obtain rfl := Option.some.inj hstep
        rw [Transporter.queue_addQueueMessages_self, List.length_tail, ← h]
        rfl
  · cases hstep

theorem synced_resume (h : Synced remoteId localId c) {n : Nat}
    (hstep : c.resume remoteId localId n = some c') : Synced remoteId localId c' := by
  unfold Client.resume at hstep
  unfold Synced at h ⊢
  split at hstep
  · split at hstep
    · rename_i msg t hresolved ht
      obtain rfl := Option.some.inj hstep
      show ((t.queue remoteId localId).getD []).length = c.origins.tail.length
      rw [(recvResolved_eq_ok ht).1, List.length_tail, List.length_tail, h]
    · cases hstep
  · cases hstep

theorem synced_finish (h : Synced remoteId localId c) {n : Nat} (hstep : c.finish n = some c') :
    Synced remoteId localId c' := by
  unfold Client.finish at hstep
  split at hstep
  · split at hstep
    · obtain rfl := Option.some.inj hstep
      exact h
    · cases hstep
  · cases hstep

theorem synced_setPage (h : Synced remoteId localId c) {t : Transporter}
    (hstep : c.setPage remoteId localId t = some c') : Synced remoteId localId c' := by
  unfold Client.setPage at hstep
  split_ifs at hstep with hkept
  obtain rfl := Option.some.inj hstep
  unfold Synced at h ⊢
  rw [hkept.1]
  exact h

end Client

end Unisockets.Guest
