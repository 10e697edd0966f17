import Unisockets.Guest.Sending

/-!
# What goes over the channels

`Transporter.send` gives a message to its channel at once if the channel is open,
and otherwise when it has been told that it is.  `transmissions` are the messages
that the channels have got, in order.

A call of `unisockets_send` that the main thread has been asked for is in
`sendings` or has been transmitted, once (`Transmits`).  Its callback is posted
when it has been transmitted, so that a call that has returned has been: the
calls of a connection that follow one another are transmitted in their order
(`transmissions_ordered`).
-/

namespace Unisockets.Guest

open JsStd Transition Transport

/-- A message that a channel gets, with the call it is of. -/
structure Transmission where
  requestId : Nat
  remoteId : String
  localId : String
  msg : Uint8Array
  channel : Nat
  deriving DecidableEq, Repr

/-- What `Transporter.send` gives to a channel for a call that it has been asked for. -/
def Sending.transmission (sending : Sending) (channel : Nat) : Transmission where
  requestId := sending.requestId
  remoteId := sending.remoteId
  localId := sending.localId
  msg := sending.msg
  channel := channel

/-- The callback of a call is on its way. -/
def Threads.Called (p : Threads) (n : Nat) : Prop :=
  ∃ thread, .onWrtcSendCallback n ∈ (p.workers thread).incoming

/-- Whether a call of `unisockets_send` starts. -/
def ThreadsStep.starts : ThreadsStep → Bool
  | .send .. => true
  | _ => false

namespace ThreadsRun

/-- What a step gives to a channel. -/
def transmitted : Threads × ThreadsStep → Option Transmission
  | (p, .handle thread) =>
    match (p.workers thread).outgoing.head? with
    | some (.wrtcSend remoteId localId msg requestId) =>
      (p.transporter.openChannel remoteId localId).map
        (Sending.transmission ⟨thread, remoteId, localId, msg, requestId⟩)
    | _ => none
  | (p, .transmit sending) =>
    match p.transporter.openChannelResumed sending.remoteId sending.localId with
    | .ok (some channel) => some (sending.transmission channel)
    | _ => none
  | _ => none

def transmissions (steps : List (Threads × ThreadsStep)) : List Transmission :=
  steps.filterMap transmitted

theorem transmissions_snoc (steps : List (Threads × ThreadsStep)) (x : Threads × ThreadsStep) :
    transmissions (steps ++ [x]) = transmissions steps ++ (transmitted x).toList := by
  cases h : transmitted x <;> simp [transmissions, h]

/-! ## What a step does about a call -/

section Cases

variable {holder : Map Nat Unit} {p p' : Threads} {a : ThreadsStep}

theorem called_postMessage {k : Nat} {message : MainMessage} {n : Nat}
    (h : (p.postMessage k message).Called n) :
    p.Called n ∨ message = .onWrtcSendCallback n := by
  obtain ⟨thread, hmem⟩ := h
  rw [Threads.postMessage, Threads.workers_setWorker] at hmem
  split_ifs at hmem with hk
  · rcases List.mem_append.mp hmem with hmem | hmem
    · exact .inl ⟨k, hmem⟩
    · exact .inr (List.mem_singleton.mp hmem).symm
  · exact .inl ⟨thread, hmem⟩

/-- The callbacks that are on their way depend on nothing but the workers. -/
theorem called_congr (hincoming : ∀ k, (p'.workers k).incoming = (p.workers k).incoming)
    {n : Nat} (h : p'.Called n) : p.Called n := by
  obtain ⟨thread, hmem⟩ := h
  exact ⟨thread, hincoming thread ▸ hmem⟩

/-- What a step does with the messages that `Transporter.send` has been asked for. -/
inductive Moved (p : Threads) (a : ThreadsStep) (p' : Threads) : Prop where
  /-- The step is about something else. -/
  | none (hhanded : ∀ n, handed n (p, a) = .none) (htransmitted : transmitted (p, a) = .none)
      (hsendings : p'.sendings = p.sendings) (hcalled : ∀ n, p'.Called n → p.Called n)
  /-- `Transporter.send` is called, and the channel is not open. -/
  | waits (x : Sending) (hhanded : ∀ n, handed n (p, a) =
        if x.requestId = n then some (x.remoteId, x.localId, x.msg) else .none)
      (htransmitted : transmitted (p, a) = .none) (hsendings : p'.sendings = p.sendings ++ [x])
      (hcalled : ∀ n, p'.Called n → p.Called n)
  /-- `Transporter.send` is called, and the channel is open. -/
  | sends (x : Sending) (channel : Nat) (hhanded : ∀ n, handed n (p, a) =
        if x.requestId = n then some (x.remoteId, x.localId, x.msg) else .none)
      (htransmitted : transmitted (p, a) = some (x.transmission channel))
      (hsendings : p'.sendings = p.sendings)
      (hcalled : ∀ n, p'.Called n → p.Called n ∨ n = x.requestId)
  /-- `Transporter.send` goes on. -/
  | resumes (x : Sending) (channel : Nat) (hx : x ∈ p.sendings)
      (hhanded : ∀ n, handed n (p, a) = .none)
      (htransmitted : transmitted (p, a) = some (x.transmission channel))
      (hsendings : p'.sendings = p.sendings.erase x)
      (hcalled : ∀ n, p'.Called n → p.Called n ∨ n = x.requestId)
  /-- `Transporter.send` throws. -/
  | throws (x : Sending) (hx : x ∈ p.sendings) (hhanded : ∀ n, handed n (p, a) = .none)
      (htransmitted : transmitted (p, a) = .none) (hsendings : p'.sendings = p.sendings.erase x)
      (hcalled : ∀ n, p'.Called n → p.Called n)

/-- A worker posts something, or changes its tables. -/
theorem called_setWorker {k : Nat} {w : Worker} (hincoming : w.incoming = (p.workers k).incoming)
    {n : Nat} (h : (p.setWorker k w).Called n) : p.Called n := by
  refine called_congr (fun thread => ?_) h
  rw [Threads.workers_setWorker]
  split_ifs with hk
  · rw [hk, hincoming]
  · rfl

/-- The main thread takes a message, and the workers have received what they had. -/
theorem called_take {k : Nat} {outgoing : List WorkerMessage} {n : Nat}
    (h : (p.setWorker k { p.workers k with outgoing := outgoing }).Called n) : p.Called n :=
  called_setWorker (w := { p.workers k with outgoing := outgoing }) rfl h

private theorem moved_handle {thread : Nat}
    (hstep : Threads.Step holder p (.handle thread) p') : Moved p (.handle thread) p' := by
  obtain ⟨message, outgoing, houtgoing, rfl⟩ := hstep.handle
  have hhanded : ∀ n, handed n (p, .handle thread) = message.payload n := by
    intro n
    simp [handed, houtgoing]
  cases message with
  | update u =>
    refine .none hhanded (by simp [transmitted, houtgoing]) ?_ ?_
    · simp only [Threads.handleMessage]
      rw [Threads.notifyAllThreads_eq _ _ holder.nodup_keys]
      rfl
    · intro n hn
      simp only [Threads.handleMessage] at hn
      rw [Threads.notifyAllThreads_eq _ _ holder.nodup_keys] at hn
      obtain ⟨k, hmem⟩ := hn
      have htaken :
          (p.setWorker thread { p.workers thread with outgoing := outgoing }).Called n := by
        refine ⟨k, ?_⟩
        dsimp only at hmem
        split_ifs at hmem
        · exact (List.mem_append.mp hmem).resolve_right fun he => by
            cases List.mem_singleton.mp he
        · exact hmem
      exact called_take htaken
  | fetchBinds requestId =>
    refine .none hhanded (by simp [transmitted, houtgoing]) rfl fun n hn => ?_
    exact called_take ((called_postMessage hn).resolve_right fun he => by cases he)
  | socketDescriptor requestId =>
    refine .none hhanded (by simp [transmitted, houtgoing]) rfl fun n hn => ?_
    exact called_take ((called_postMessage hn).resolve_right fun he => by cases he)
  | wrtcSend remoteId localId msg requestId =>
    cases hopen : p.transporter.openChannel remoteId localId with
    | none =>
      have hopen' : (p.setWorker thread { p.workers thread with
          outgoing := outgoing }).transporter.openChannel remoteId localId = none := hopen
      simp only [Threads.handleMessage, hopen']
      refine .waits ⟨thread, remoteId, localId, msg, requestId⟩ hhanded ?_ rfl fun n hn => ?_
      · simp [transmitted, houtgoing, hopen]
      · exact called_take hn
    | some channel =>
      have hopen' : (p.setWorker thread { p.workers thread with
          outgoing := outgoing }).transporter.openChannel remoteId localId = some channel := hopen
      simp only [Threads.handleMessage, hopen']
      refine .sends ⟨thread, remoteId, localId, msg, requestId⟩ channel hhanded ?_ rfl
        fun n hn => ?_
      · simp [transmitted, houtgoing, hopen]
      · rcases called_postMessage hn with hn | he
        · exact .inl (called_take hn)
        · cases he
          exact .inr rfl

private theorem moved_transmit {sending : Sending}
    (hstep : Threads.Step holder p (.transmit sending) p') :
    Moved p (.transmit sending) p' := by
  simp only [Threads.Step, Threads.next] at hstep
  split_ifs at hstep with hmem
  cases hopen : p.transporter.openChannelResumed sending.remoteId sending.localId with
  | error e =>
    rw [hopen] at hstep
    obtain rfl := Option.some.inj hstep
    exact .throws sending hmem (fun _ => rfl) (by simp [transmitted, hopen]) rfl
      fun n hn => called_congr (fun _ => rfl) hn
  | ok channel =>
    rw [hopen] at hstep
    cases channel with
    | none => cases hstep
    | some channel =>
      obtain rfl := Option.some.inj hstep
      refine .resumes sending channel hmem (fun _ => rfl) (by simp [transmitted, hopen]) rfl
        fun n hn => ?_
      rcases called_postMessage hn with hn | he
      · exact .inl (called_congr (fun _ => rfl) hn)
      · cases he
        exact .inr rfl

private theorem moved_onmessage {thread : Nat}
    (hstep : Threads.Step holder p (.onmessage thread) p') : Moved p (.onmessage thread) p' := by
  obtain ⟨message, incoming, hincoming, rfl⟩ := hstep.onmessage
  -- a worker takes a message, and its tables may change
  have htaken : ∀ (w : Worker), w.incoming = incoming → ∀ n,
      (p.setWorker thread w).Called n → p.Called n := by
    rintro w rfl n ⟨k, hmem⟩
    rw [Threads.workers_setWorker] at hmem
    split_ifs at hmem with hk
    · refine ⟨thread, ?_⟩
      rw [hincoming]
      exact List.mem_cons_of_mem _ hmem
    · exact ⟨k, hmem⟩
  have htwice : ∀ w w' : Worker, (p.setWorker thread w).setWorker thread w'
      = p.setWorker thread w' := by
    intro w w'
    simp [Threads.setWorker]
  cases message with
  | notify u =>
    refine .none (fun _ => rfl) rfl rfl fun n hn => ?_
    simp only [Threads.onmessage] at hn
    rw [htwice] at hn
    exact htaken _ (by simp [Threads.workers_setWorker]) n hn
  | onSocketDescriptor fd requestId =>
    refine .none (fun _ => rfl) rfl rfl fun n hn => ?_
    simp only [Threads.onmessage] at hn
    rw [htwice] at hn
    exact htaken _ (by simp [Threads.workers_setWorker]) n hn
  | onFetchBinds requestId info =>
    have hsame : ∀ q : Threads, (q.ensuredBound requestId).sendings = q.sendings ∧
        (q.ensuredBound requestId).workers = q.workers := by
      intro q
      unfold Threads.ensuredBound
      split
      · split_ifs <;> exact ⟨rfl, rfl⟩
      · exact ⟨rfl, rfl⟩
    have hcalled : ∀ (q : Threads) (n : Nat), (q.ensuredBound requestId).Called n → q.Called n :=
      fun q n hn => called_congr (fun k => by rw [(hsame q).2]) hn
    refine .none (fun _ => rfl) rfl (hsame _).1 fun n hn => ?_
    simp only [Threads.onmessage] at hn
    have hn := hcalled _ n hn
    rw [htwice] at hn
    exact htaken _ (by simp [Threads.workers_setWorker]) n hn
  | onWrtcSendCallback requestId =>
    have hsame : ∀ q : Threads, (q.sent requestId).sendings = q.sendings ∧
        (q.sent requestId).workers = q.workers := by
      intro q
      unfold Threads.sent
      split
      · split_ifs <;> exact ⟨rfl, rfl⟩
      · exact ⟨rfl, rfl⟩
    have hcalled : ∀ (q : Threads) (n : Nat), (q.sent requestId).Called n → q.Called n :=
      fun q n hn => called_congr (fun k => by rw [(hsame q).2]) hn
    refine .none (fun _ => rfl) rfl (hsame _).1 fun n hn => ?_
    simp only [Threads.onmessage] at hn
    exact htaken _ rfl n (hcalled _ n hn)

/-- The messages of a step, and what becomes of them. -/
theorem moved (hstep : Threads.Step holder p a p') : Moved p a p' := by
  have hpost : ∀ (q : Threads) (k : Nat) (message : WorkerMessage),
      q.sendings = p.sendings → q.workers = p.workers → ∀ n,
      (q.post k message).Called n → p.Called n := by
    intro q k message hsendings hworkers n hn
    refine called_congr (fun thread => by rw [hworkers]) (called_setWorker (p := q) ?_ hn)
    rfl
  have hannounce : ∀ {k : Nat} (u : Update) (n : Nat),
      (p.setWorker k ((p.workers k).announce u)).Called n → p.Called n :=
    fun {k} u n hn => called_setWorker (w := (p.workers k).announce u) rfl hn
  cases a with
  | socket thread =>
    obtain rfl := hstep.socket
    refine .none (fun _ => rfl) rfl rfl fun n hn => ?_
    exact hpost p thread (.socketDescriptor p.nextCall) rfl rfl n (called_congr (fun _ => rfl) hn)
  | ensureBound thread =>
    obtain rfl := hstep.ensureBound
    refine .none (fun _ => rfl) rfl rfl fun n hn => ?_
    exact hpost p thread (.fetchBinds p.nextCall) rfl rfl n (called_congr (fun _ => rfl) hn)
  | setBind thread fd bind =>
    obtain ⟨-, -, rfl⟩ := hstep.setBind
    exact .none (fun _ => rfl) rfl rfl fun n hn => hannounce _ n hn
  | handleAlias thread id tcpAddress set =>
    obtain ⟨-, rfl⟩ := hstep.handleAlias
    exact .none (fun _ => rfl) rfl rfl fun n hn => hannounce _ n hn
  | send thread fd memory buffer =>
    obtain ⟨stage, -, -, hsendings, -, hworkers⟩ := send_cases hstep
    refine .none (fun _ => rfl) rfl hsendings fun n hn => ?_
    rcases hworkers with hworkers | hworkers
    · exact called_congr (fun _ => by rw [hworkers]) hn
    · exact hpost p thread (.fetchBinds p.nextCall) rfl rfl n
        (called_congr (fun k => by rw [hworkers]; rfl) hn)
  | externalSend m =>
    obtain ⟨call, -, -, ⟨bind, -, rfl⟩ | ⟨-, rfl⟩⟩ := hstep.externalSend
    · unfold Threads.handleExternalSend
      split
      · exact .none (fun _ => rfl) rfl rfl fun n hn =>
          hpost p _ _ rfl rfl n (called_congr (fun _ => rfl) hn)
      · exact .none (fun _ => rfl) rfl rfl fun n hn => called_congr (fun _ => rfl) hn
    · exact .none (fun _ => rfl) rfl rfl fun n hn => called_congr (fun _ => rfl) hn
  | handle thread => exact moved_handle hstep
  | onmessage thread => exact moved_onmessage hstep
  | transmit sending => exact moved_transmit hstep
  | page t =>
    obtain rfl := hstep.page
    exact .none (fun _ => rfl) rfl rfl fun n hn => called_congr (fun _ => rfl) hn

/-- The stages behind the look-up of the alias. -/
def Posted (stage : SendStage) : Prop := stage = .sending ∨ ∃ value, stage = .returned value

/-- A call stays as it is, starts, looks its alias up, or gets its callback. -/
theorem calls_cases (hstep : Threads.Step holder p a p') (n : Nat) :
    p'.calls n = p.calls n ∨ a.starts = true ∧ n = p.nextCall ∨
      ∃ call, p.calls n = some call ∧
        (¬Posted call.stage ∨ call.stage = .sending ∧ p.Called n) := by
  have hbound : ¬Posted .bound := by
    rintro (h | ⟨value, h⟩) <;> cases h
  have hfetching : ¬Posted .fetching := by
    rintro (h | ⟨value, h⟩) <;> cases h
  have hset : ∀ (q : Threads) (m : Nat) (call call' : SendCall), q.calls = p.calls →
      p.calls m = some call → (¬Posted call.stage ∨ call.stage = .sending ∧ p.Called m) →
      (q.setCall m call').calls n = p.calls n ∨ a.starts = true ∧ n = p.nextCall ∨
        ∃ call, p.calls n = some call ∧
          (¬Posted call.stage ∨ call.stage = .sending ∧ p.Called n) := by
    intro q m call call' hcalls hcall hstage
    rw [Threads.calls_setCall, hcalls]
    split_ifs with hm
    · rw [hm]
      exact .inr (.inr ⟨call, hcall, hstage⟩)
    · exact .inl rfl
  cases a with
  | send thread fd memory buffer =>
    obtain ⟨stage, hcalls, -⟩ := send_cases hstep
    by_cases hn : n = p.nextCall
    · exact .inr (.inl ⟨rfl, hn⟩)
    · rw [hcalls, Function.update_of_ne hn]
      exact .inl rfl
  | externalSend m =>
    obtain ⟨call, hcall, hstage, ⟨bind, -, rfl⟩ | ⟨-, rfl⟩⟩ := hstep.externalSend
    · unfold Threads.handleExternalSend
      split
      · exact hset _ m call _ rfl hcall (.inl (hstage ▸ hbound))
      · exact hset _ m call _ rfl hcall (.inl (hstage ▸ hbound))
    · exact hset _ m call _ rfl hcall (.inl (hstage ▸ hbound))
  | handle thread =>
    obtain ⟨message, outgoing, -, rfl⟩ := hstep.handle
    exact .inl (congrFun (handles_handleMessage holder _ thread _).calls n)
  | onmessage thread =>
    obtain ⟨message, incoming, hincoming, rfl⟩ := hstep.onmessage
    cases message with
    | onFetchBinds requestId info =>
      simp only [Threads.onmessage, Threads.ensuredBound]
      split
      · rename_i call hcall
        split_ifs with hstage
        · exact hset _ requestId call _ rfl hcall (.inl (hstage ▸ hfetching))
        · exact hset _ requestId call _ rfl hcall (.inl (hstage ▸ hfetching))
        · exact .inl rfl
      · exact .inl rfl
    | onWrtcSendCallback requestId =>
      have hcalled : p.Called requestId := by
        refine ⟨thread, ?_⟩
        rw [hincoming]
        exact List.mem_cons_self
      simp only [Threads.onmessage, Threads.sent]
      split
      · rename_i call hcall
        split_ifs with hstage
        · exact hset _ requestId call _ rfl hcall (.inr ⟨hstage, hcalled⟩)
        · exact .inl rfl
      · exact .inl rfl
    | _ => exact .inl rfl
  | transmit sending =>
    obtain ⟨-, rfl | rfl⟩ := hstep.transmit
    · exact .inl rfl
    · exact .inl rfl
  | page t =>
    obtain rfl := hstep.page
    exact .inl rfl
  | socket thread =>
    obtain rfl := hstep.socket
    exact .inl rfl
  | ensureBound thread =>
    obtain rfl := hstep.ensureBound
    exact .inl rfl
  | setBind thread fd bind =>
    obtain ⟨-, -, rfl⟩ := hstep.setBind
    exact .inl rfl
  | handleAlias thread id tcpAddress set =>
    obtain ⟨-, rfl⟩ := hstep.handleAlias
    exact .inl rfl

/-- A call that has looked its alias up goes on only when its callback arrives. -/
theorem call_kept {n : Nat} {call : SendCall} (hstep : Threads.Step holder p a p')
    (hn : n < p.nextCall) (hcall : p.calls n = some call) (hposted : Posted call.stage) :
    p'.calls n = some call ∨ call.stage = .sending ∧ p.Called n := by
  rcases calls_cases hstep n with hsame | ⟨-, rfl⟩ | ⟨before, hbefore, hstage⟩
  · exact .inl (hsame.trans hcall)
  · exact absurd hn (Nat.lt_irrefl _)
  · obtain rfl := Option.some.inj (hcall.symm.trans hbefore)
    exact .inr (hstage.resolve_left fun hnot => hnot hposted)

end Cases

/-! ## Every message is transmitted once -/

/-- What a run keeps for a call, from what has been handed over for it and what has been
transmitted. -/
structure Transmits (n : Nat) (given : List (String × String × Uint8Array))
    (sent : List Transmission) (p : Threads) : Prop where
  waiting : ∀ x ∈ p.sendings, x.requestId = n → (x.remoteId, x.localId, x.msg) ∈ given
  carried : ∀ t ∈ sent, t.requestId = n → (t.remoteId, t.localId, t.msg) ∈ given
  once : p.sendings.countP (fun x => x.requestId = n)
    + sent.countP (fun t => t.requestId = n) ≤ given.length
  called : p.Called n → ∃ t ∈ sent, t.requestId = n
  returned : ∀ call, p.calls n = some call → call.stage ≠ .sending → given ≠ [] →
    ∃ t ∈ sent, t.requestId = n

section Run

variable {holder : Map Nat Unit} {p p' : Threads} {a : ThreadsStep} {n : Nat}
  {looked : List (Bind × Option String)} {given : List (String × String × Uint8Array)}
  {sent : List Transmission}

/-- What has been handed over for a call is one message, and the call awaits its callback or
has returned. -/
theorem Tracks.posted (h : Tracks n looked given p) (hgiven : given ≠ []) :
    given.length = 1 ∧ ∃ call, p.calls n = some call ∧ Posted call.stage ∧
      ∀ x ∈ given, x.2.2 = call.msg := by
  have hcall : p.calls n ≠ none := fun hnone => hgiven (h.unborn hnone).2.1
  obtain ⟨call, hcall⟩ := Option.ne_none_iff_exists'.mp hcall
  have hprogress := h.progress call hcall
  generalize p.posts n call.thread = posted at hprogress
  generalize hstage : call.stage = stage at hprogress
  cases hprogress with
  | handed bind remoteId => exact ⟨rfl, call, hcall, .inl hstage, by simp⟩
  | sent bind remoteId => exact ⟨rfl, call, hcall, .inr ⟨_, hstage⟩, by simp⟩
  | _ => exact absurd rfl hgiven

/-- A call is handed over once, and awaits its callback from then on. -/
theorem Tracks.sending (h : Tracks n looked given p) (hhanded : handed n (p, a) ≠ none) :
    given = [] ∧ ∃ call, p.calls n = some call ∧ call.stage = .sending := by
  cases a with
  | handle thread =>
    have hposts : ∃ x posted, p.posts n thread = x :: posted := by
      unfold Threads.posts
      simp only [handed] at hhanded
      cases houtgoing : (p.workers thread).outgoing with
      | nil => simp [houtgoing] at hhanded
      | cons message outgoing =>
        obtain ⟨x, hx⟩ := Option.ne_none_iff_exists'.mp hhanded
        rw [houtgoing] at hx
        exact ⟨x, _, List.filterMap_cons_some hx⟩
    obtain ⟨x, posted, hposts⟩ := hposts
    have hcall : p.calls n ≠ none := by
      intro hnone
      rw [(h.unborn hnone).2.2 thread] at hposts
      cases hposts
    obtain ⟨call, hcall⟩ := Option.ne_none_iff_exists'.mp hcall
    have hthread : thread = call.thread := by
      by_contra hne
      rw [h.elsewhere call hcall thread hne] at hposts
      cases hposts
    have hprogress := h.progress call hcall
    rw [← hthread, hposts] at hprogress
    generalize hstage : call.stage = stage at hprogress
    cases hprogress with
    | posted bind remoteId => exact ⟨rfl, call, hcall, hstage⟩
  | _ => exact absurd rfl hhanded

/-- A call that has returned has been transmitted before. -/
private theorem returned_step (h : Transmits n given sent p) (htracks : Tracks n looked given p)
    (hstep : Threads.Step holder p a p') {call : SendCall} (hcall : p'.calls n = some call)
    (hstage : call.stage ≠ .sending)
    (hgiven : given ++ (handed n (p, a)).toList ≠ []) : ∃ t ∈ sent, t.requestId = n := by
  have hbelow : ∀ before, p.calls n = some before → n < p.nextCall := by
    intro before hbefore
    by_contra hle
    rw [htracks.fresh (Nat.le_of_not_lt hle)] at hbefore
    cases hbefore
  by_cases hnil : given = []
  · have hhanded : handed n (p, a) ≠ none := by
      intro hnone
      rw [hnil, hnone] at hgiven
      exact hgiven rfl
    obtain ⟨-, before, hbefore, hsending⟩ := htracks.sending hhanded
    rcases call_kept hstep (hbelow before hbefore) hbefore (.inl hsending) with hkept | ⟨-, hcalled⟩
    · obtain rfl := Option.some.inj (hcall.symm.trans hkept)
      exact absurd hsending hstage
    · exact h.called hcalled
  · obtain ⟨-, before, hbefore, hposted, -⟩ := htracks.posted hnil
    rcases call_kept hstep (hbelow before hbefore) hbefore hposted with hkept | ⟨-, hcalled⟩
    · obtain rfl := Option.some.inj (hcall.symm.trans hkept)
      exact h.returned call hbefore hstage hnil
    · exact h.called hcalled

theorem Transmits.step (h : Transmits n given sent p) (htracks : Tracks n looked given p)
    (hstep : Threads.Step holder p a p') :
    Transmits n (given ++ (handed n (p, a)).toList) (sent ++ (transmitted (p, a)).toList) p' := by
  have hreturned : ∀ call, p'.calls n = some call → call.stage ≠ .sending →
      given ++ (handed n (p, a)).toList ≠ [] →
      ∃ t ∈ sent ++ (transmitted (p, a)).toList, t.requestId = n := by
    intro call hcall hstage hgiven
    obtain ⟨t, ht, hid⟩ := returned_step h htracks hstep hcall hstage hgiven
    exact ⟨t, List.mem_append_left _ ht, hid⟩
  have hlater : ∀ sent', (∃ t ∈ sent, t.requestId = n) → ∃ t ∈ sent ++ sent', t.requestId = n := by
    rintro sent' ⟨t, ht, hid⟩
    exact ⟨t, List.mem_append_left _ ht, hid⟩
  cases moved hstep with
  | none hhanded htransmitted hsendings hcalled =>
    refine ⟨?_, ?_, ?_, ?_, hreturned⟩
    · rw [hsendings, hhanded, Option.toList_none, List.append_nil]
      exact h.waiting
    · rw [htransmitted, hhanded, Option.toList_none, List.append_nil, Option.toList_none,
        List.append_nil]
      exact h.carried
    · rw [htransmitted, hhanded, hsendings]
      simpa using h.once
    · exact fun hn => hlater _ (h.called (hcalled n hn))
  | waits x hhanded htransmitted hsendings hcalled =>
    refine ⟨?_, ?_, ?_, ?_, hreturned⟩
    · rw [hsendings, hhanded]
      intro y hy hid
      rcases List.mem_append.mp hy with hy | hy
      · exact List.mem_append_left _ (h.waiting y hy hid)
      · rw [List.mem_singleton.mp hy] at hid ⊢
        simp [hid]
    · rw [htransmitted, Option.toList_none, List.append_nil]
      exact fun t ht hid => List.mem_append_left _ (h.carried t ht hid)
    · have honce := h.once
      rw [htransmitted, hhanded, hsendings]
      by_cases hid : x.requestId = n
      · simp [hid]
        omega
      · simpa [hid] using honce
    · exact fun hn => hlater _ (h.called (hcalled n hn))
  | sends x channel hhanded htransmitted hsendings hcalled =>
    refine ⟨?_, ?_, ?_, ?_, hreturned⟩
    · rw [hsendings]
      exact fun y hy hid => List.mem_append_left _ (h.waiting y hy hid)
    · rw [htransmitted, hhanded]
      intro t ht hid
      rcases List.mem_append.mp ht with ht | ht
      · exact List.mem_append_left _ (h.carried t ht hid)
      · rw [Option.toList_some, List.mem_singleton] at ht
        subst ht
        have hid : x.requestId = n := hid
        simp [hid, Sending.transmission]
    · have honce := h.once
      rw [htransmitted, hhanded, hsendings]
      by_cases hid : x.requestId = n
      · simp [hid, Sending.transmission]
        omega
      · simpa [hid, Sending.transmission] using honce
    · intro hn
      rcases hcalled n hn with hn | hid
      · exact hlater _ (h.called hn)
      · rw [htransmitted]
        exact ⟨_, List.mem_append_right _ (List.mem_singleton.mpr rfl), hid.symm⟩
  | resumes x channel hx hhanded htransmitted hsendings hcalled =>
    rw [hhanded, Option.toList_none, List.append_nil] at hreturned ⊢
    refine ⟨?_, ?_, ?_, ?_, hreturned⟩
    · rw [hsendings]
      exact fun y hy hid => h.waiting y (List.mem_of_mem_erase hy) hid
    · rw [htransmitted]
      intro t ht hid
      rcases List.mem_append.mp ht with ht | ht
      · exact h.carried t ht hid
      · rw [Option.toList_some, List.mem_singleton] at ht
        subst ht
        exact h.waiting x hx hid
    · have honce := h.once
      rw [(List.perm_cons_erase hx).countP_eq] at honce
      rw [htransmitted, hsendings]
      by_cases hid : x.requestId = n
      · simp [hid, Sending.transmission] at honce ⊢
        omega
      · simpa [hid, Sending.transmission] using honce
    · intro hn
      rcases hcalled n hn with hn | hid
      · exact hlater _ (h.called hn)
      · rw [htransmitted]
        exact ⟨_, List.mem_append_right _ (List.mem_singleton.mpr rfl), hid.symm⟩
  | throws x hx hhanded htransmitted hsendings hcalled =>
    rw [hhanded, Option.toList_none, List.append_nil] at hreturned ⊢
    rw [htransmitted, Option.toList_none, List.append_nil] at hreturned ⊢
    refine ⟨?_, h.carried, ?_, fun hn => h.called (hcalled n hn), hreturned⟩
    · rw [hsendings]
      exact fun y hy hid => h.waiting y (List.mem_of_mem_erase hy) hid
    · have honce := h.once
      have hless : (p.sendings.erase x).countP (fun y => y.requestId = n)
          ≤ p.sendings.countP (fun y => y.requestId = n) :=
        List.erase_sublist.countP_le
      rw [hsendings]
      omega

/-- In every run each message that has been handed over is transmitted at most once, and has
been by the time its call has returned. -/
theorem transmits {steps : List (Threads × ThreadsStep)} (hrun : ThreadsRun holder steps p)
    (n : Nat) : Transmits n (hands steps n) (transmissions steps) p := by
  induction hrun with
  | start hinit =>
    obtain ⟨t, rfl⟩ := hinit
    refine ⟨by simp, by simp [transmissions], by simp [transmissions], ?_, ?_⟩
    · rintro ⟨thread, hmem⟩
      cases hmem
    · intro call hcall
      cases hcall
  | snoc hrun hstep ih =>
    rw [hands_snoc, transmissions_snoc]
    exact ih.step (tracks hrun n) hstep

/-! ## The order of the messages -/

/-- What has been transmitted for two ids. -/
def transmissionsTo (remoteId localId : String) (steps : List (Threads × ThreadsStep)) :
    List Transmission :=
  (transmissions steps).filter fun t => t.remoteId = remoteId ∧ t.localId = localId

/-- A call of a connection starts when the calls of the connection before it have returned. -/
def InTurn (remoteId localId : String) (steps : List (Threads × ThreadsStep)) : Prop :=
  ∀ x ∈ steps, x.2.starts = true →
    ∀ t ∈ transmissionsTo remoteId localId steps, ∀ t' ∈ transmissionsTo remoteId localId steps,
      t'.requestId = x.1.nextCall → t.requestId < t'.requestId →
        x.1.returned t.requestId ≠ none

instance (remoteId localId : String) : DecidablePred (InTurn remoteId localId) := fun steps =>
  inferInstanceAs (Decidable (∀ x ∈ steps, x.2.starts = true →
    ∀ t ∈ transmissionsTo remoteId localId steps, ∀ t' ∈ transmissionsTo remoteId localId steps,
      t'.requestId = x.1.nextCall → t.requestId < t'.requestId →
        x.1.returned t.requestId ≠ none))

theorem transmissionsTo_snoc (remoteId localId : String) (steps : List (Threads × ThreadsStep))
    (x : Threads × ThreadsStep) :
    transmissionsTo remoteId localId (steps ++ [x]) = transmissionsTo remoteId localId steps
      ++ (transmitted x).toList.filter fun t => t.remoteId = remoteId ∧ t.localId = localId := by
  rw [transmissionsTo, transmissions_snoc, List.filter_append, transmissionsTo]

theorem InTurn.of_snoc {remoteId localId : String} {steps : List (Threads × ThreadsStep)}
    {x : Threads × ThreadsStep} (h : InTurn remoteId localId (steps ++ [x])) :
    InTurn remoteId localId steps := by
  have hsub : ∀ t ∈ transmissionsTo remoteId localId steps,
      t ∈ transmissionsTo remoteId localId (steps ++ [x]) := by
    intro t ht
    rw [transmissionsTo_snoc]
    exact List.mem_append_left _ ht
  intro y hy hstarts t ht t' ht'
  exact h y (List.mem_append_left _ hy) hstarts t (hsub t ht) t' (hsub t' ht')

variable {steps : List (Threads × ThreadsStep)}

/-- Every call has been started. -/
theorem started (hrun : ThreadsRun holder steps p) {call : SendCall}
    (hcall : p.calls n = some call) :
    ∃ x ∈ steps, x.2.starts = true ∧ x.1.nextCall = n := by
  induction hrun generalizing call with
  | start hinit =>
    obtain ⟨t, rfl⟩ := hinit
    cases hcall
  | @snoc steps p p' a hrun hstep ih =>
    rcases calls_cases hstep n with hsame | ⟨hstarts, rfl⟩ | ⟨before, hbefore, -⟩
    · obtain ⟨x, hx, hstarted⟩ := ih (hsame.symm.trans hcall)
      exact ⟨x, List.mem_append_left _ hx, hstarted⟩
    · exact ⟨(p, a), List.mem_append_right _ (List.mem_singleton.mpr rfl), hstarts, rfl⟩
    · obtain ⟨x, hx, hstarted⟩ := ih hbefore
      exact ⟨x, List.mem_append_left _ hx, hstarted⟩

theorem returned_eq_some {value : Int} :
    p.returned n = some value ↔ ∃ call, p.calls n = some call ∧ call.stage = .returned value := by
  unfold Threads.returned
  cases p.calls n with
  | none => simp
  | some call =>
    cases hstage : call.stage <;> simp [hstage]

/-- A call that has returned has returned for good. -/
theorem returned_kept (hrun : ThreadsRun holder steps p) {x : Threads × ThreadsStep}
    (hx : x ∈ steps) {value : Int} (hreturned : x.1.returned n = some value) :
    p.returned n = some value := by
  have hkept : ∀ {q q' : Threads} {b : ThreadsStep} {before : List (Threads × ThreadsStep)},
      ThreadsRun holder before q → Threads.Step holder q b q' → q.returned n = some value →
      q'.returned n = some value := by
    intro q q' b before hbefore hstep hq
    obtain ⟨call, hcall, hstage⟩ := returned_eq_some.mp hq
    have hn : n < q.nextCall := by
      by_contra hle
      rw [(tracks hbefore n).fresh (Nat.le_of_not_lt hle)] at hcall
      cases hcall
    rcases call_kept hstep hn hcall (.inr ⟨value, hstage⟩) with hsame | ⟨hsending, -⟩
    · exact returned_eq_some.mpr ⟨call, hsame, hstage⟩
    · rw [hstage] at hsending
      cases hsending
  induction hrun with
  | start _ => exact absurd hx List.not_mem_nil
  | @snoc steps p p' a hrun hstep ih =>
    rcases List.mem_append.mp hx with hx | hx
    · exact hkept hrun hstep (ih hx)
    · rw [List.mem_singleton.mp hx] at hreturned
      exact hkept hrun hstep hreturned

/-- A call that is transmitted awaits its callback. -/
theorem sending_of_transmitted (hrun : ThreadsRun holder steps p)
    (hstep : Threads.Step holder p a p') {t : Transmission} (ht : transmitted (p, a) = some t) :
    ∃ call, p.calls t.requestId = some call ∧ call.stage = .sending := by
  have htracks := tracks hrun t.requestId
  cases moved hstep with
  | none _ htransmitted =>
    rw [htransmitted] at ht
    cases ht
  | waits _ _ htransmitted =>
    rw [htransmitted] at ht
    cases ht
  | throws _ _ _ htransmitted =>
    rw [htransmitted] at ht
    cases ht
  | sends x channel hhanded htransmitted =>
    obtain rfl := Option.some.inj (htransmitted.symm.trans ht)
    have hhanded : handed x.requestId (p, a) ≠ none := by
      rw [hhanded, if_pos rfl]
      exact Option.some_ne_none _
    exact (htracks.sending hhanded).2
  | resumes x channel hx _ htransmitted =>
    obtain rfl := Option.some.inj (htransmitted.symm.trans ht)
    have hkeeps := transmits hrun x.requestId
    have hgiven := hkeeps.waiting x hx rfl
    obtain ⟨hlength, call, hcall, -⟩ := htracks.posted (List.ne_nil_of_mem hgiven)
    refine ⟨call, hcall, ?_⟩
    by_contra hstage
    obtain ⟨t, ht, hid⟩ := hkeeps.returned call hcall hstage (List.ne_nil_of_mem hgiven)
    have hwaiting : 0 < p.sendings.countP fun y => y.requestId = x.requestId :=
      List.countP_pos_iff.mpr ⟨x, hx, by simp⟩
    have hsent : 0 < (transmissions steps).countP fun t => t.requestId = x.requestId :=
      List.countP_pos_iff.mpr ⟨t, ht, by simpa using hid⟩
    have honce := hkeeps.once
    have hlength : (hands steps x.requestId).length = 1 := hlength
    omega

/-- What has been transmitted is the message of a call. -/
theorem call_of_transmission (hrun : ThreadsRun holder steps p) {t : Transmission}
    (ht : t ∈ transmissions steps) :
    ∃ call, p.calls t.requestId = some call ∧ call.msg = t.msg := by
  have hmem := (transmits hrun t.requestId).carried t ht rfl
  obtain ⟨-, call, hcall, -, hmsg⟩ :=
    (tracks hrun t.requestId).posted (List.ne_nil_of_mem hmem)
  exact ⟨call, hcall, (hmsg _ hmem).symm⟩

/-- It is what was in the memory when the call was made. -/
theorem message_of_transmission (hrun : ThreadsRun holder steps p) {t : Transmission}
    (ht : t ∈ transmissions steps) : t.msg ∈ steps.filterMap (message t.requestId) := by
  obtain ⟨call, hcall, hmsg⟩ := call_of_transmission hrun ht
  obtain ⟨⟨q, a⟩, hx, hstarts, hnext⟩ := started hrun hcall
  cases a with
  | send thread fd memory buffer =>
    have hmessage : (memory.map buffer.bytes).getD []
        ∈ steps.filterMap (message t.requestId) := by
      refine List.mem_filterMap.mpr ⟨_, hx, ?_⟩
      simp only [message]
      rw [if_pos hnext]
    obtain ⟨call', hcall', hmsg'⟩ := call_of_message hrun hmessage
    obtain rfl := Option.some.inj (hcall.symm.trans hcall')
    rw [← hmsg, hmsg']
    exact hmessage
  | _ => cases hstarts

/-- Nothing is transmitted twice. -/
theorem transmitted_once (hrun : ThreadsRun holder steps p) (n : Nat) :
    (transmissions steps).countP (fun t => t.requestId = n) ≤ 1 := by
  have honce := (transmits hrun n).once
  by_cases hnil : hands steps n = []
  · rw [hnil, List.length_nil] at honce
    omega
  · have hlength := ((tracks hrun n).posted hnil).1
    omega

/-- If the calls of a connection follow one another, their messages are transmitted in the
order of the calls. -/
theorem transmissions_ordered {remoteId localId : String} (hrun : ThreadsRun holder steps p)
    (hturn : InTurn remoteId localId steps) :
    (transmissionsTo remoteId localId steps).Pairwise fun t t' => t.requestId < t'.requestId := by
  induction hrun with
  | start _ => exact List.Pairwise.nil
  | @snoc steps p p' a hrun hstep ih =>
    have hsnoc := transmissionsTo_snoc remoteId localId steps (p, a)
    cases htransmitted : transmitted (p, a) with
    | none =>
      rw [htransmitted, Option.toList_none, List.filter_nil, List.append_nil] at hsnoc
      rw [hsnoc]
      exact ih hturn.of_snoc
    | some t =>
      rw [htransmitted, Option.toList_some] at hsnoc
      rw [hsnoc]
      refine List.pairwise_append.mpr ⟨ih hturn.of_snoc, ?_, ?_⟩
      · exact (List.pairwise_singleton _ _).sublist List.filter_sublist
      intro t' ht' t'' ht''
      obtain rfl : t'' = t := List.mem_singleton.mp (List.mem_filter.mp ht'').1
      have hmem' : t' ∈ transmissions steps := (List.mem_filter.mp ht').1
      have hnew : t'' ∈ transmissionsTo remoteId localId (steps ++ [(p, a)]) := by
        rw [hsnoc]
        exact List.mem_append_right _ ht''
      have hold : t' ∈ transmissionsTo remoteId localId (steps ++ [(p, a)]) := by
        rw [hsnoc]
        exact List.mem_append_left _ ht'
      rcases Nat.lt_trichotomy t'.requestId t''.requestId with hlt | heq | hgt
      · exact hlt
      · -- the call has been transmitted before
        have honce := transmitted_once (hrun.snoc hstep) t''.requestId
        have hbefore : 0 < (transmissions steps).countP fun t => t.requestId = t''.requestId :=
          List.countP_pos_iff.mpr ⟨t', hmem', by simpa using heq⟩
        have hlast : [t''].countP (fun t => t.requestId = t''.requestId) = 1 := by simp
        rw [transmissions_snoc, htransmitted, Option.toList_some, List.countP_append,
          hlast] at honce
        omega
      · -- a later call has been transmitted, so that this one had returned by then
        obtain ⟨call', hcall', -⟩ := call_of_transmission hrun hmem'
        obtain ⟨x, hx, hstarts, hnext⟩ := started hrun hcall'
        have hreturned := hturn x (List.mem_append_left _ hx) hstarts t'' hnew t' hold
          hnext.symm hgt
        obtain ⟨value, hvalue⟩ := Option.ne_none_iff_exists'.mp hreturned
        obtain ⟨call, hcall, hstage⟩ := returned_eq_some.mp (returned_kept hrun hx hvalue)
        obtain ⟨before, hbefore, hsending⟩ := sending_of_transmitted hrun hstep htransmitted
        obtain rfl := Option.some.inj (hcall.symm.trans hbefore)
        rw [hstage] at hsending
        cases hsending

/-- A call that has returned and has found the owner of its alias has been transmitted. -/
theorem transmitted_of_returned (hrun : ThreadsRun holder steps p) {value : Int}
    (hreturned : p.returned n = some value) {bind : Bind} {remoteId : String}
    (hlookup : (bind, some remoteId) ∈ lookups steps n) :
    ∃ t ∈ transmissionsTo remoteId bind.connectorId steps, t.requestId = n ∧
      value = t.msg.length := by
  obtain ⟨call, hcall, hstage⟩ := returned_eq_some.mp hreturned
  have hprogress := (tracks hrun n).progress call hcall
  have htransmits := transmits hrun n
  rw [hstage] at hprogress
  generalize hlooked : lookups steps n = looked at hprogress hlookup
  generalize hgiven : hands steps n = given at hprogress htransmits
  generalize p.posts n call.thread = posted at hprogress
  cases hprogress with
  | failed => cases hlookup
  | unknown bind => simp at hlookup
  | sent bind' remoteId' =>
    obtain ⟨rfl, rfl⟩ : bind = bind' ∧ remoteId = remoteId' := by simpa using hlookup
    obtain ⟨t, ht, hid⟩ := htransmits.returned call hcall (by rw [hstage]; exact
      SendStage.noConfusion) (List.cons_ne_nil _ _)
    have hcarried := htransmits.carried t ht hid
    obtain ⟨hremote, hlocal, hmsg⟩ : t.remoteId = remoteId ∧ t.localId = bind.connectorId ∧
        t.msg = call.msg := by simpa using hcarried
    refine ⟨t, List.mem_filter.mpr ⟨ht, by simp [hremote, hlocal]⟩, hid, ?_⟩
    rw [hmsg]

end Run

end ThreadsRun

end Unisockets.Guest
