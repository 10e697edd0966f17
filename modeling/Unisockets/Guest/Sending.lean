import Unisockets.Guest.Threads

/-!
# What `unisockets_send` sends

A call of `unisockets_send` copies its message out of the memory, finds the bind of its
descriptor, looks the alias of the bind up in the aliases of its thread, and posts the
message to the main thread, which hands it to `Transporter.send`.  `lookups` and `hands`
are what a run says about a call: what its look-up has found, and what has been
handed over for it.  `Progress` ties them to the stage of the call, and `tracks` is the
induction.

A call should return the length of its message only if the message has been handed
over, and -1 if nobody is known to own the alias (`Sent`).  `externalSend` returns all
the same when the look-up finds nobody, so that a call does this exactly if its look-up finds
somebody (`sent_iff`).
-/

namespace Unisockets.Guest

open JsStd Transition Transport

/-- What a `wrtcSend` of a call carries: `remoteId`, `localId` and `msg`. -/
def WorkerMessage.payload (n : Nat) : WorkerMessage → Option (String × String × Uint8Array)
  | .wrtcSend remoteId localId msg requestId =>
    if requestId = n then some (remoteId, localId, msg) else none
  | _ => none

namespace Threads

/-- What a thread has posted for a call and the main thread has not handled. -/
def posts (p : Threads) (n thread : Nat) : List (String × String × Uint8Array) :=
  (p.workers thread).outgoing.filterMap (WorkerMessage.payload n)

/-- `Transporter.send` has been called for a call that awaits its callback. -/
def Answering (p : Threads) (n : Nat) : Prop :=
  (∃ thread, .onWrtcSendCallback n ∈ (p.workers thread).incoming) ∨
    ∃ sending ∈ p.sendings, sending.requestId = n

/-- The value that a call has returned. -/
def returned (p : Threads) (n : Nat) : Option Int :=
  (p.calls n).bind fun call =>
    match call.stage with
    | .returned value => some value
    | _ => none

end Threads

namespace ThreadsRun

/-- The message of a call of `unisockets_send`: what is in the memory when it is called. -/
def message (n : Nat) : Threads × ThreadsStep → Option Uint8Array
  | (p, .send _ _ memory buffer) =>
    if p.nextCall = n then some ((memory.map buffer.bytes).getD []) else none
  | _ => none

/-- What the main thread hands to `Transporter.send` for a call. -/
def handed (n : Nat) : Threads × ThreadsStep → Option (String × String × Uint8Array)
  | (p, .handle thread) => (p.workers thread).outgoing.head?.bind (WorkerMessage.payload n)
  | _ => none

def hands (steps : List (Threads × ThreadsStep)) (n : Nat) :
    List (String × String × Uint8Array) :=
  steps.filterMap (handed n)

/-- The bind that `externalSend` uses for a call, and the owner of its alias. -/
def lookup (n : Nat) : Threads × ThreadsStep → Option (Bind × Option String)
  | (p, .externalSend m) =>
    if m = n then
      (p.calls n).bind fun call =>
        let tables := (p.workers call.thread).tables
        (tables.binds.get call.fd).map fun bind => (bind, tables.aliases.get bind.alias)
    else none
  | _ => none

def lookups (steps : List (Threads × ThreadsStep)) (n : Nat) : List (Bind × Option String) :=
  steps.filterMap (lookup n)

theorem hands_snoc (steps : List (Threads × ThreadsStep)) (x : Threads × ThreadsStep) (n : Nat) :
    hands (steps ++ [x]) n = hands steps n ++ (handed n x).toList := by
  cases h : handed n x <;> simp [hands, h]

theorem lookups_snoc (steps : List (Threads × ThreadsStep)) (x : Threads × ThreadsStep)
    (n : Nat) : lookups (steps ++ [x]) n = lookups steps n ++ (lookup n x).toList := by
  cases h : lookup n x <;> simp [lookups, h]

/-- A value that `unisockets_send` may return for a message: its length, if the message
has been handed over once, for the owner of the alias, and -1 if the alias has no owner. -/
structure Sent (steps : List (Threads × ThreadsStep)) (n : Nat) (msg : Uint8Array)
    (value : Int) : Prop where
  handed : 0 ≤ value → value = msg.length ∧ ∃ bind remoteId,
    (bind, some remoteId) ∈ lookups steps n ∧
      hands steps n = [(remoteId, bind.connectorId, msg)]
  unknown : ∀ bind, (bind, none) ∈ lookups steps n → value = -1

/-! ## How far a call has got -/

/-- What a call has looked up, what has been handed over for it, what it has posted and
its stage. -/
inductive Progress (msg : Uint8Array) : List (Bind × Option String) →
    List (String × String × Uint8Array) → List (String × String × Uint8Array) → SendStage → Prop
  | fetching : Progress msg [] [] [] .fetching
  | bound : Progress msg [] [] [] .bound
  | posted (bind : Bind) (remoteId : String) : Progress msg [(bind, some remoteId)] []
      [(remoteId, bind.connectorId, msg)] .sending
  | handed (bind : Bind) (remoteId : String) : Progress msg [(bind, some remoteId)]
      [(remoteId, bind.connectorId, msg)] [] .sending
  | failed : Progress msg [] [] [] (.returned (-1))
  | unknown (bind : Bind) : Progress msg [(bind, none)] [] [] (.returned msg.length)
  | sent (bind : Bind) (remoteId : String) : Progress msg [(bind, some remoteId)]
      [(remoteId, bind.connectorId, msg)] [] (.returned msg.length)

/-- What a run keeps for a call, from what it has looked up and handed over. -/
structure Tracks (n : Nat) (looked : List (Bind × Option String))
    (given : List (String × String × Uint8Array)) (p : Threads) : Prop where
  fresh : p.nextCall ≤ n → p.calls n = none
  unborn : p.calls n = none → looked = [] ∧ given = [] ∧ ∀ thread, p.posts n thread = []
  elsewhere : ∀ call, p.calls n = some call → ∀ thread ≠ call.thread, p.posts n thread = []
  progress : ∀ call, p.calls n = some call →
    Progress call.msg looked given (p.posts n call.thread) call.stage
  answering : p.Answering n → given ≠ []

section Tracks

variable {n : Nat} {looked : List (Bind × Option String)}
  {given : List (String × String × Uint8Array)} {p p' : Threads}

/-- A step that has nothing to do with the call. -/
theorem Tracks.frame (h : Tracks n looked given p) (hnext : p.nextCall ≤ p'.nextCall)
    (hcalls : p'.calls n = p.calls n) (hposts : ∀ thread, p'.posts n thread = p.posts n thread)
    (hanswering : p'.Answering n → p.Answering n) : Tracks n looked given p' where
  fresh hle := hcalls.trans (h.fresh (Nat.le_trans hnext hle))
  unborn hnone := by
    obtain ⟨hlooked, hgiven, hnil⟩ := h.unborn (hcalls.symm.trans hnone)
    exact ⟨hlooked, hgiven, fun thread => (hposts thread).trans (hnil thread)⟩
  elsewhere call hcall thread hne :=
    (hposts thread).trans (h.elsewhere call (hcalls.symm.trans hcall) thread hne)
  progress call hcall := by
    rw [hposts]
    exact h.progress call (hcalls.symm.trans hcall)
  answering hq := h.answering (hanswering hq)

/-- A step that takes the call, and only the call, from one stage to another. -/
theorem Tracks.advance (h : Tracks n looked given p) {call : SendCall} {stage : SendStage}
    {looked' : List (Bind × Option String)} (hcall : p.calls n = some call)
    (hnext : p'.nextCall = p.nextCall)
    (hcalls : p'.calls n = some { call with stage := stage })
    (hposts : ∀ thread ≠ call.thread, p'.posts n thread = p.posts n thread)
    (hanswering : p'.Answering n → p.Answering n)
    (hprogress : Progress call.msg looked given (p.posts n call.thread) call.stage →
      Progress call.msg looked' given (p'.posts n call.thread) stage) :
    Tracks n looked' given p' where
  fresh hle := by
    rw [hnext] at hle
    rw [h.fresh hle] at hcall
    cases hcall
  unborn hnone := by
    rw [hcalls] at hnone
    cases hnone
  elsewhere call' hcall' thread hne := by
    rw [hcalls] at hcall'
    obtain rfl := Option.some.inj hcall'
    rw [hposts thread hne]
    exact h.elsewhere call hcall thread hne
  progress call' hcall' := by
    rw [hcalls] at hcall'
    obtain rfl := Option.some.inj hcall'
    exact hprogress (h.progress call hcall)
  answering hq := h.answering (hanswering hq)

/-- Nothing has happened for a call behind `ensureBound`. -/
theorem Progress.of_bound {msg : Uint8Array} {posted : List (String × String × Uint8Array)}
    (h : Progress msg looked given posted .bound) : looked = [] ∧ given = [] ∧ posted = [] := by
  cases h
  exact ⟨rfl, rfl, rfl⟩

/-- What a thread has posted, when a thread gets another state. -/
theorem posts_setWorker (p : Threads) (k : Nat) (w : Worker) (n thread : Nat) :
    (p.setWorker k w).posts n thread =
      if thread = k then w.outgoing.filterMap (WorkerMessage.payload n)
      else p.posts n thread := by
  rw [Threads.posts, Threads.workers_setWorker]
  split_ifs <;> rfl

theorem posts_post (p : Threads) (k : Nat) (message : WorkerMessage) (n thread : Nat) :
    (p.post k message).posts n thread =
      p.posts n thread ++ if thread = k then (message.payload n).toList else [] := by
  rw [Threads.post, posts_setWorker]
  by_cases hk : thread = k
  · rw [if_pos hk, if_pos hk, hk]
    cases h : message.payload n <;> simp [Worker.post, Threads.posts, h]
  · rw [if_neg hk, if_neg hk, List.append_nil]

/-- Who is answered does not depend on the tables and on what a worker posts. -/
theorem answering_congr (hincoming : ∀ k, (p'.workers k).incoming = (p.workers k).incoming)
    (hsendings : p'.sendings = p.sendings) (h : p'.Answering n) : p.Answering n := by
  unfold Threads.Answering at h ⊢
  simpa only [hsendings, hincoming] using h

/-- A step in which a worker posts something that is not for the call. -/
theorem Tracks.post (h : Tracks n looked given p) (k : Nat) (tables : Tables)
    (message : WorkerMessage) (hmessage : message.payload n = none)
    (hworkers : p'.workers = Function.update p.workers k
      ({ p.workers k with tables := tables }.post message))
    (hsendings : p'.sendings = p.sendings) (hnext : p.nextCall ≤ p'.nextCall)
    (hcalls : p'.calls n = p.calls n) : Tracks n looked given p' := by
  refine h.frame hnext hcalls (fun thread => ?_) (answering_congr (fun thread => ?_) hsendings)
  · rw [Threads.posts, Threads.posts, hworkers, Function.update_apply]
    split_ifs with hk
    · simp [hk, Worker.post, hmessage]
    · rfl
  · rw [hworkers, Function.update_apply]
    split_ifs with hk
    · rw [hk]
      rfl
    · rfl

end Tracks

/-! ## The steps -/

section Steps

variable {holder : Map Nat Unit} {n : Nat} {looked : List (Bind × Option String)}
  {given : List (String × String × Uint8Array)} {p p' : Threads}

theorem Tracks.socket (h : Tracks n looked given p) {thread : Nat}
    (hstep : Threads.Step holder p (.socket thread) p') : Tracks n looked given p' := by
  obtain rfl := hstep.socket
  exact h.post thread (p.workers thread).tables (.socketDescriptor p.nextCall) rfl rfl
    rfl (Nat.le_succ _) rfl

theorem Tracks.ensureBound (h : Tracks n looked given p) {thread : Nat}
    (hstep : Threads.Step holder p (.ensureBound thread) p') : Tracks n looked given p' := by
  obtain rfl := hstep.ensureBound
  exact h.post thread (p.workers thread).tables (.fetchBinds p.nextCall) rfl rfl rfl
    (Nat.le_succ _) rfl

/-- A thread changes its tables and tells the others. -/
theorem Tracks.announce (h : Tracks n looked given p) (thread : Nat) (u : Update) :
    Tracks n looked given (p.setWorker thread ((p.workers thread).announce u)) :=
  h.post thread ((p.workers thread).tables.update u) (.update u) rfl rfl rfl
    (Nat.le_refl _) rfl

theorem Tracks.setBind (h : Tracks n looked given p) {thread fd : Nat} {bind : Bind}
    (hstep : Threads.Step holder p (.setBind thread fd bind) p') :
    Tracks n looked given p' := by
  obtain ⟨-, -, rfl⟩ := hstep.setBind
  exact h.announce thread _

theorem Tracks.handleAlias (h : Tracks n looked given p) {thread : Nat} {id tcpAddress : String}
    {set : Bool} (hstep : Threads.Step holder p (.handleAlias thread id tcpAddress set) p') :
    Tracks n looked given p' := by
  obtain ⟨-, rfl⟩ := hstep.handleAlias
  exact h.announce thread _

/-- A call that is new has not looked anything up. -/
theorem Tracks.born (h : Tracks p.nextCall looked given p) {call : SendCall}
    (hnext : p'.nextCall = p.nextCall + 1) (hcalls : p'.calls p.nextCall = some call)
    (hposts : ∀ thread, p'.posts p.nextCall thread = p.posts p.nextCall thread)
    (hanswering : p'.Answering p.nextCall → p.Answering p.nextCall)
    (hprogress : Progress call.msg [] [] [] call.stage) :
    Tracks p.nextCall looked given p' := by
  obtain ⟨rfl, rfl, hnil⟩ := h.unborn (h.fresh (Nat.le_refl _))
  constructor
  · intro hle
    omega
  · intro hnone
    rw [hcalls] at hnone
    cases hnone
  · intro call' _ thread _
    rw [hposts, hnil]
  · intro call' hcall'
    rw [hcalls] at hcall'
    obtain rfl := Option.some.inj hcall'
    rw [hposts, hnil]
    exact hprogress
  · exact fun hq => h.answering (hanswering hq)

/-- What a call of `unisockets_send` is at first. -/
theorem send_cases {thread fd : Nat} {memory : Option Uint8Array} {buffer : Buffer}
    (hstep : Threads.Step holder p (.send thread fd memory buffer) p') :
    ∃ stage, p'.calls = Function.update p.calls p.nextCall
        (some ⟨thread, fd, (memory.map buffer.bytes).getD [], stage⟩) ∧
      p'.nextCall = p.nextCall + 1 ∧ p'.sendings = p.sendings ∧
      Progress ((memory.map buffer.bytes).getD []) [] [] [] stage ∧
      (p'.workers = p.workers ∨ p'.workers = Function.update p.workers thread
        ((p.workers thread).post (.fetchBinds p.nextCall))) := by
  simp only [Threads.Step, Threads.next] at hstep
  cases memory with
  | none =>
    simp only [Option.map_none, Option.getD_none] at hstep ⊢
    split_ifs at hstep
    obtain rfl := Option.some.inj hstep
    exact ⟨_, rfl, rfl, rfl, .failed, .inl rfl⟩
  | some memory =>
    simp only [Option.map_some, Option.getD_some] at hstep ⊢
    split_ifs at hstep
    · obtain rfl := Option.some.inj hstep
      exact ⟨_, rfl, rfl, rfl, .bound, .inl rfl⟩
    · obtain rfl := Option.some.inj hstep
      exact ⟨_, rfl, rfl, rfl, .fetching, .inr rfl⟩

theorem Tracks.send (h : Tracks n looked given p) {thread fd : Nat}
    {memory : Option Uint8Array} {buffer : Buffer}
    (hstep : Threads.Step holder p (.send thread fd memory buffer) p') :
    Tracks n looked given p' := by
  obtain ⟨stage, hcalls, hnext, hsendings, hprogress, hworkers⟩ := send_cases hstep
  have hposts : ∀ k, p'.posts n k = p.posts n k := by
    intro k
    rcases hworkers with hworkers | hworkers
    · rw [Threads.posts, hworkers]
      rfl
    · rw [Threads.posts, hworkers, Function.update_apply]
      split_ifs with hk
      · simp [hk, Threads.posts, Worker.post, WorkerMessage.payload]
      · rfl
  have hanswering : p'.Answering n → p.Answering n := by
    refine answering_congr (fun k => ?_) hsendings
    rcases hworkers with hworkers | hworkers
    · rw [hworkers]
    · rw [hworkers, Function.update_apply]
      split_ifs with hk
      · rw [hk]
        rfl
      · rfl
  by_cases hn : n = p.nextCall
  · subst hn
    exact h.born hnext (by rw [hcalls, Function.update_self]) hposts hanswering hprogress
  · refine h.frame ?_ ?_ hposts hanswering
    · rw [hnext]
      exact Nat.le_succ _
    · rw [hcalls, Function.update_of_ne hn]

/-- `externalSend` looks the alias up. -/
theorem Tracks.externalSend (h : Tracks n looked given p) {m : Nat}
    (hstep : Threads.Step holder p (.externalSend m) p') :
    Tracks n (looked ++ (lookup n (p, .externalSend m)).toList) given p' := by
  obtain ⟨call, hcall, hstage, hnext⟩ := hstep.externalSend
  by_cases hm : m = n
  · subst hm
    have hbefore := h.progress call hcall
    rw [hstage] at hbefore
    obtain ⟨rfl, rfl, hnil⟩ := hbefore.of_bound
    rcases hnext with ⟨bind, hbind, rfl⟩ | ⟨hbind, rfl⟩
    · have hlookup : lookup m (p, .externalSend m) =
          some (bind, (p.workers call.thread).tables.aliases.get bind.alias) := by
        simp [lookup, hcall, hbind]
      rw [hlookup]
      cases howner : (p.workers call.thread).tables.aliases.get bind.alias with
      | none =>
        simp only [Threads.handleExternalSend, howner]
        refine h.advance hcall rfl (by rw [Threads.calls_setCall, if_pos rfl])
          (fun _ _ => rfl) id fun _ => ?_
        show Progress call.msg [(bind, none)] [] (p.posts m call.thread) _
        rw [hnil]
        exact .unknown bind
      | some remoteId =>
        simp only [Threads.handleExternalSend, howner]
        have hposts : ∀ k, (p.post call.thread
            (.wrtcSend remoteId bind.connectorId call.msg m)).posts m k = p.posts m k ++
              if k = call.thread then [(remoteId, bind.connectorId, call.msg)] else [] := by
          intro k
          rw [posts_post]
          simp [WorkerMessage.payload]
        refine h.advance hcall rfl (by rw [Threads.calls_setCall, if_pos rfl])
          (fun k hk => ?_) (answering_congr (fun k => ?_) rfl) fun _ => ?_
        · refine (hposts k).trans ?_
          rw [if_neg hk, List.append_nil]
        · show ((p.post call.thread _).workers k).incoming = _
          rw [Threads.post, Threads.workers_setWorker]
          split_ifs with hk
          · rw [hk]
            rfl
          · rfl
        · show Progress call.msg _ [] ((p.post call.thread _).posts m call.thread) _
          rw [hposts, hnil, if_pos rfl]
          exact .posted bind remoteId
    · have hlookup : lookup m (p, .externalSend m) = none := by simp [lookup, hcall, hbind]
      rw [hlookup]
      refine h.advance hcall rfl (by rw [Threads.calls_setCall, if_pos rfl])
        (fun _ _ => rfl) id fun _ => ?_
      show Progress call.msg [] [] (p.posts m call.thread) _
      rw [hnil]
      exact .failed
  · have hlookup : lookup n (p, .externalSend m) = none := by simp [lookup, hm]
    rw [hlookup, Option.toList_none, List.append_nil]
    have hn : n ≠ m := fun he => hm he.symm
    rcases hnext with ⟨bind, -, rfl⟩ | ⟨-, rfl⟩
    · cases howner : (p.workers call.thread).tables.aliases.get bind.alias with
      | none =>
        simp only [Threads.handleExternalSend, howner]
        exact h.frame (Nat.le_refl _) (by rw [Threads.calls_setCall, if_neg hn]) (fun _ => rfl) id
      | some remoteId =>
        simp only [Threads.handleExternalSend, howner]
        exact h.post call.thread (p.workers call.thread).tables
          (.wrtcSend remoteId bind.connectorId call.msg m)
          (by simp [WorkerMessage.payload, hm]) rfl rfl (Nat.le_refl _)
          (by rw [Threads.calls_setCall, if_neg hn]; rfl)
    · exact h.frame (Nat.le_refl _) (by rw [Threads.calls_setCall, if_neg hn]) (fun _ => rfl) id

/-- A message to a worker answers a call only if it is its callback. -/
theorem answering_postMessage {k : Nat} {message : MainMessage}
    (h : (p.postMessage k message).Answering n) :
    p.Answering n ∨ message = .onWrtcSendCallback n := by
  rcases h with ⟨thread, hmem⟩ | hsending
  · rw [Threads.postMessage, Threads.workers_setWorker] at hmem
    split_ifs at hmem with hk
    · rcases List.mem_append.mp hmem with hmem | hmem
      · exact .inl (.inl ⟨k, hmem⟩)
      · exact .inr (List.mem_singleton.mp hmem).symm
    · exact .inl (.inl ⟨thread, hmem⟩)
  · exact .inl (.inr hsending)

theorem outgoing_postMessage (k : Nat) (message : MainMessage) (thread : Nat) :
    ((p.postMessage k message).workers thread).outgoing = (p.workers thread).outgoing := by
  rw [Threads.postMessage, Threads.workers_setWorker]
  split_ifs with hk
  · rw [hk]
    rfl
  · rfl

/-- What the main thread does with a message, as far as the calls are concerned. -/
structure Handles (p p' : Threads) (message : WorkerMessage) : Prop where
  calls : p'.calls = p.calls
  nextCall : p'.nextCall = p.nextCall
  outgoing : ∀ k, (p'.workers k).outgoing = (p.workers k).outgoing
  answering : ∀ n, p'.Answering n → p.Answering n ∨ message.payload n ≠ none

theorem handles_handleMessage (holder : Map Nat Unit) (p : Threads) (thread : Nat)
    (message : WorkerMessage) :
    Handles p (p.handleMessage holder thread message) message := by
  cases message with
  | update u =>
    show Handles p (Threads.notifyAllThreads _ thread _ _) _
    rw [Threads.notifyAllThreads_eq _ _ holder.nodup_keys]
    constructor
    · rfl
    · rfl
    · intro k
      dsimp only
      split_ifs <;> rfl
    · rintro n (⟨k, hmem⟩ | hsending)
      · dsimp only at hmem
        split_ifs at hmem
        · rcases List.mem_append.mp hmem with hmem | hmem
          · exact .inl (.inl ⟨k, hmem⟩)
          · cases List.mem_singleton.mp hmem
        · exact .inl (.inl ⟨k, hmem⟩)
      · exact .inl (.inr hsending)
  | fetchBinds requestId =>
    refine ⟨rfl, rfl, outgoing_postMessage _ _, fun n hn => ?_⟩
    exact (answering_postMessage hn).imp_right fun he => by cases he
  | socketDescriptor requestId =>
    refine ⟨rfl, rfl, outgoing_postMessage (p := { p with
      socketDescriptors := p.socketDescriptors + 1 }) _ _, fun n hn => ?_⟩
    exact (answering_postMessage hn).imp_right fun he => by cases he
  | wrtcSend remoteId localId msg requestId =>
    cases hopen : p.transporter.openChannel remoteId localId with
    | some channel =>
      simp only [Threads.handleMessage, hopen]
      refine ⟨rfl, rfl, outgoing_postMessage _ _, fun n hn => ?_⟩
      refine (answering_postMessage hn).imp_right fun he => ?_
      cases he
      simp [WorkerMessage.payload]
    | none =>
      simp only [Threads.handleMessage, hopen]
      refine ⟨rfl, rfl, fun _ => rfl, fun n hn => ?_⟩
      rcases hn with hincoming | ⟨sending, hmem, hid⟩
      · exact .inl (.inl hincoming)
      · rcases List.mem_append.mp hmem with hmem | hmem
        · exact .inl (.inr ⟨sending, hmem, hid⟩)
        · rw [List.mem_singleton.mp hmem] at hid
          right
          rw [WorkerMessage.payload, if_pos hid]
          simp

/-- What has been posted for a call is handed over. -/
theorem Progress.hand {msg : Uint8Array} {x : String × String × Uint8Array}
    {posted : List (String × String × Uint8Array)} {stage : SendStage}
    (h : Progress msg looked given (x :: posted) stage) :
    Progress msg looked (given ++ [x]) posted stage := by
  cases h with
  | posted bind remoteId => exact .handed bind remoteId

/-- The main thread hands the message of a call over. -/
theorem Tracks.handle (h : Tracks n looked given p) {thread : Nat}
    (hstep : Threads.Step holder p (.handle thread) p') :
    Tracks n looked (given ++ (handed n (p, .handle thread)).toList) p' := by
  obtain ⟨message, outgoing, houtgoing, hp'⟩ := hstep.handle
  have hhandles := handles_handleMessage holder (p.setWorker thread
    { p.workers thread with outgoing := outgoing }) thread message
  rw [← hp'] at hhandles
  have hanswering : p'.Answering n → p.Answering n ∨ message.payload n ≠ none := by
    intro hn
    have hincoming : ∀ k, ((p.setWorker thread { p.workers thread with
        outgoing := outgoing }).workers k).incoming = (p.workers k).incoming := by
      intro k
      rw [Threads.workers_setWorker]
      split_ifs with hk
      · rw [hk]
      · rfl
    exact (hhandles.answering n hn).imp_left (answering_congr hincoming rfl)
  have hposts : ∀ k, p.posts n k =
      (if k = thread then (message.payload n).toList else []) ++ p'.posts n k := by
    intro k
    rw [Threads.posts, Threads.posts, hhandles.outgoing, Threads.workers_setWorker]
    split_ifs with hk
    · rw [hk, houtgoing, List.filterMap_cons]
      cases message.payload n <;> rfl
    · rfl
  have hhanded : handed n (p, .handle thread) = message.payload n := by
    simp [handed, houtgoing]
  rw [hhanded]
  cases hpayload : message.payload n with
  | none =>
    rw [Option.toList_none, List.append_nil]
    refine h.frame (Nat.le_of_eq hhandles.nextCall.symm) (congrFun hhandles.calls n)
      (fun k => ?_) fun hn => ?_
    · rw [hposts k, hpayload]
      simp
    · exact (hanswering hn).resolve_right fun hne => hne hpayload
  | some x =>
    have hthread : p.posts n thread = x :: p'.posts n thread := by
      rw [hposts thread, if_pos rfl, hpayload]
      rfl
    have hcall : p.calls n ≠ none := by
      intro hnone
      have hnil := (h.unborn hnone).2.2 thread
      rw [hthread] at hnil
      cases hnil
    obtain ⟨call, hcall⟩ := Option.ne_none_iff_exists'.mp hcall
    have hsame : thread = call.thread := by
      by_contra hne
      have hnil := h.elsewhere call hcall thread hne
      rw [hthread] at hnil
      cases hnil
    have hcall' : p'.calls n = some call := (congrFun hhandles.calls n).trans hcall
    constructor
    · intro hle
      rw [h.fresh (Nat.le_trans (Nat.le_of_eq hhandles.nextCall.symm) hle)] at hcall
      cases hcall
    · intro hnone
      rw [hcall'] at hnone
      cases hnone
    · intro call' hget k hk
      obtain rfl := Option.some.inj (hcall'.symm.trans hget)
      have hnil := h.elsewhere call hcall k hk
      rw [hposts k, if_neg (hsame ▸ hk)] at hnil
      exact hnil
    · intro call' hget
      obtain rfl := Option.some.inj (hcall'.symm.trans hget)
      have hprogress := h.progress call hcall
      rw [← hsame, hthread] at hprogress
      rw [← hsame]
      exact hprogress.hand
    · intro _ hnil
      simp at hnil

/-- A call that is answered has been handed over, and returns the length. -/
theorem Progress.callback {msg : Uint8Array} {posted : List (String × String × Uint8Array)}
    (hgiven : given ≠ []) (h : Progress msg looked given posted .sending) :
    Progress msg looked given posted (.returned msg.length) := by
  cases h with
  | posted bind remoteId => exact absurd rfl hgiven
  | handed bind remoteId => exact .sent bind remoteId

theorem Progress.ensuredBound {msg : Uint8Array} {posted : List (String × String × Uint8Array)}
    (h : Progress msg looked given posted .fetching) (bound : Bool) :
    Progress msg looked given posted (if bound then .bound else .returned (-1)) := by
  cases h
  cases bound
  · exact .failed
  · exact .bound

/-- A worker handles a message, and a call of it goes on. -/
theorem Tracks.resolve (h : Tracks n looked given p) (m : Nat) (before after : SendCall → SendStage)
    (hprogress : m = n → ∀ call,
      Progress call.msg looked given (p.posts n call.thread) (before call) →
      Progress call.msg looked given (p.posts n call.thread) (after call)) :
    Tracks n looked given (match p.calls m with
      | some call =>
        if call.stage = before call then p.setCall m { call with stage := after call } else p
      | none => p) := by
  cases hcall : p.calls m with
  | none => exact h
  | some call =>
    dsimp only
    by_cases hstage : call.stage = before call
    · rw [if_pos hstage]
      by_cases hm : n = m
      · subst hm
        refine h.advance hcall rfl (by rw [Threads.calls_setCall, if_pos rfl]) (fun _ _ => rfl) id
          fun hbefore => ?_
        exact hprogress rfl call (hstage ▸ hbefore)
      · exact h.frame (Nat.le_refl _) (by rw [Threads.calls_setCall, if_neg hm]) (fun _ => rfl) id
    · rw [if_neg hstage]
      exact h

/-- A worker handles a message of the main thread. -/
theorem Tracks.onmessage (h : Tracks n looked given p) {thread : Nat}
    (hstep : Threads.Step holder p (.onmessage thread) p') : Tracks n looked given p' := by
  obtain ⟨message, incoming, hincoming, rfl⟩ := hstep.onmessage
  -- the message is taken, and the tables may change
  have hworker : ∀ tables : Tables, Tracks n looked given (p.setWorker thread
      { p.workers thread with tables := tables, incoming := incoming }) := by
    intro tables
    refine h.frame (Nat.le_refl _) rfl (fun k => ?_) fun hn => ?_
    · rw [posts_setWorker]
      split_ifs with hk
      · rw [hk]
        rfl
      · rfl
    · rcases hn with ⟨k, hmem⟩ | hsending
      · rw [Threads.workers_setWorker] at hmem
        split_ifs at hmem with hk
        · left
          refine ⟨thread, ?_⟩
          rw [hincoming]
          exact List.mem_cons_of_mem _ hmem
        · exact .inl ⟨k, hmem⟩
      · exact .inr hsending
  have hset : ∀ tables : Tables, (p.setWorker thread
      { p.workers thread with incoming := incoming }).setWorker thread
        { (p.setWorker thread { p.workers thread with incoming := incoming }).workers thread with
          tables := tables } = p.setWorker thread
      { p.workers thread with tables := tables, incoming := incoming } := by
    intro tables
    simp [Threads.setWorker]
  cases message with
  | notify u =>
    simp only [Threads.onmessage]
    rw [hset]
    exact hworker _
  | onSocketDescriptor fd requestId =>
    simp only [Threads.onmessage]
    rw [hset]
    exact hworker _
  | onFetchBinds requestId info =>
    simp only [Threads.onmessage]
    rw [hset]
    refine (hworker _).resolve requestId (fun _ => .fetching) _ fun _ call hbefore => ?_
    exact hbefore.ensuredBound _
  | onWrtcSendCallback requestId =>
    refine (hworker (p.workers thread).tables).resolve requestId (fun _ => .sending) _
      fun hn call hbefore => ?_
    refine hbefore.callback (h.answering (.inl ⟨thread, ?_⟩))
    rw [hincoming, hn]
    exact List.mem_cons_self

/-- `Transporter.send` is done, or it throws. -/
theorem Tracks.transmit (h : Tracks n looked given p) {sending : Sending}
    (hstep : Threads.Step holder p (.transmit sending) p') : Tracks n looked given p' := by
  obtain ⟨hmem, hsent⟩ := hstep.transmit
  have hrest : Tracks n looked given { p with sendings := p.sendings.erase sending } := by
    refine h.frame (Nat.le_refl _) rfl (fun _ => rfl) fun hn => hn.imp_right ?_
    rintro ⟨other, hother, hid⟩
    exact ⟨other, List.mem_of_mem_erase hother, hid⟩
  rcases hsent with rfl | rfl
  · constructor
    · exact hrest.fresh
    · intro hnone
      obtain ⟨hlooked, hgiven, hnil⟩ := hrest.unborn hnone
      refine ⟨hlooked, hgiven, fun k => ?_⟩
      rw [Threads.posts, outgoing_postMessage]
      exact hnil k
    · intro call hcall k hk
      rw [Threads.posts, outgoing_postMessage]
      exact hrest.elsewhere call hcall k hk
    · intro call hcall
      rw [Threads.posts, outgoing_postMessage]
      exact hrest.progress call hcall
    · intro hn
      rcases answering_postMessage hn with hq | he
      · exact hrest.answering hq
      · cases he
        exact h.answering (.inr ⟨sending, hmem, rfl⟩)
  · exact hrest

/-- What a run keeps for each of its calls. -/
theorem tracks {steps : List (Threads × ThreadsStep)} (hrun : ThreadsRun holder steps p) (n : Nat) :
    Tracks n (lookups steps n) (hands steps n) p := by
  induction hrun with
  | start hinit =>
    obtain ⟨t, rfl⟩ := hinit
    refine ⟨fun _ => rfl, fun _ => ⟨rfl, rfl, fun _ => rfl⟩, fun call hcall => ?_,
      fun call hcall => ?_, fun hn => ?_⟩
    · cases hcall
    · cases hcall
    · rcases hn with ⟨k, hmem⟩ | ⟨sending, hmem, -⟩ <;> cases hmem
  | @snoc steps p p' a hrun hstep ih =>
    rw [hands_snoc, lookups_snoc]
    cases a with
    | externalSend m =>
      simp only [handed, Option.toList_none, List.append_nil]
      exact ih.externalSend hstep
    | handle thread =>
      simp only [lookup, Option.toList_none, List.append_nil]
      exact ih.handle hstep
    | socket thread => simpa [handed, lookup] using ih.socket hstep
    | setBind thread fd bind => simpa [handed, lookup] using ih.setBind hstep
    | handleAlias thread id tcpAddress set => simpa [handed, lookup] using ih.handleAlias hstep
    | ensureBound thread => simpa [handed, lookup] using ih.ensureBound hstep
    | send thread fd memory buffer => simpa [handed, lookup] using ih.send hstep
    | onmessage thread => simpa [handed, lookup] using ih.onmessage hstep
    | transmit sending => simpa [handed, lookup] using ih.transmit hstep
    | page t =>
      obtain rfl := Option.some.inj hstep
      simp only [handed, lookup, Option.toList_none, List.append_nil]
      exact ih.frame (Nat.le_refl _) rfl (fun _ => rfl) id

/-! ## The message of a call -/

/-- A call keeps its thread, its descriptor and its message. -/
def Lasts (call : SendCall) (n : Nat) (p : Threads) : Prop :=
  ∃ stage, p.calls n = some { call with stage := stage }

theorem Lasts.of_eq {call : SendCall} (h : Lasts call n p) (hcalls : p'.calls n = p.calls n) :
    Lasts call n p' := by
  obtain ⟨stage, hstage⟩ := h
  exact ⟨stage, hcalls.trans hstage⟩

theorem Lasts.setCall {call call' : SendCall} (h : Lasts call n p) {m : Nat}
    (hcall' : p.calls m = some call') (stage : SendStage) (hcalls : p'.calls = p.calls) :
    Lasts call n (p'.setCall m { call' with stage := stage }) := by
  obtain ⟨before, hbefore⟩ := h
  by_cases hm : n = m
  · subst hm
    obtain rfl := Option.some.inj (hcall'.symm.trans hbefore)
    exact ⟨stage, by rw [Threads.calls_setCall, if_pos rfl]⟩
  · exact ⟨before, by rw [Threads.calls_setCall, if_neg hm, hcalls, hbefore]⟩

theorem Lasts.step {call : SendCall} (h : Lasts call n p) (hn : n < p.nextCall)
    {a : ThreadsStep} (hstep : Threads.Step holder p a p') : Lasts call n p' := by
  cases a with
  | send thread fd memory buffer =>
    obtain ⟨stage, hcalls, -⟩ := send_cases hstep
    exact h.of_eq (by rw [hcalls, Function.update_of_ne (Nat.ne_of_lt hn)])
  | externalSend m =>
    obtain ⟨call', hcall, -, ⟨bind, -, rfl⟩ | ⟨-, rfl⟩⟩ := hstep.externalSend
    · unfold Threads.handleExternalSend
      split
      · exact h.setCall hcall _ rfl
      · exact h.setCall hcall _ rfl
    · exact h.setCall hcall _ rfl
  | handle thread =>
    obtain ⟨message, outgoing, -, rfl⟩ := hstep.handle
    exact h.of_eq (congrFun (handles_handleMessage holder _ thread _).calls n)
  | onmessage thread =>
    obtain ⟨message, incoming, -, rfl⟩ := hstep.onmessage
    cases message with
    | onFetchBinds requestId info =>
      simp only [Threads.onmessage, Threads.ensuredBound]
      split
      · rename_i call' hcall'
        split_ifs
        · exact h.setCall hcall' _ rfl
        · exact h.setCall hcall' _ rfl
        · exact h.of_eq rfl
      · exact h.of_eq rfl
    | onWrtcSendCallback requestId =>
      simp only [Threads.onmessage, Threads.sent]
      split
      · rename_i call' hcall'
        split_ifs
        · exact h.setCall hcall' _ rfl
        · exact h.of_eq rfl
      · exact h.of_eq rfl
    | _ => exact h.of_eq rfl
  | transmit sending =>
    obtain ⟨-, rfl | rfl⟩ := hstep.transmit
    · exact h.of_eq rfl
    · exact h.of_eq rfl
  | page t =>
    obtain rfl := hstep.page
    exact h.of_eq rfl
  | socket thread =>
    obtain rfl := hstep.socket
    exact h.of_eq rfl
  | ensureBound thread =>
    obtain rfl := hstep.ensureBound
    exact h.of_eq rfl
  | setBind thread fd bind =>
    obtain ⟨-, -, rfl⟩ := hstep.setBind
    exact h.of_eq rfl
  | handleAlias thread id tcpAddress set =>
    obtain ⟨-, rfl⟩ := hstep.handleAlias
    exact h.of_eq rfl

/-- The message of a call is what was in the memory when it was called. -/
theorem call_of_message {steps : List (Threads × ThreadsStep)} (hrun : ThreadsRun holder steps p)
    {msg : Uint8Array} (hmsg : msg ∈ steps.filterMap (message n)) :
    ∃ call, p.calls n = some call ∧ call.msg = msg := by
  induction hrun with
  | start hinit => cases hmsg
  | @snoc steps p p' a hrun hstep ih =>
    rw [List.filterMap_append] at hmsg
    rcases List.mem_append.mp hmsg with hmsg | hmsg
    · obtain ⟨call, hcall, hmsg⟩ := ih hmsg
      have hlt : n < p.nextCall := by
        by_contra hle
        rw [(tracks hrun n).fresh (Nat.le_of_not_lt hle)] at hcall
        cases hcall
      have hlasts : Lasts call n p := ⟨call.stage, hcall⟩
      obtain ⟨stage, hcall'⟩ := hlasts.step hlt hstep
      exact ⟨_, hcall', hmsg⟩
    · obtain ⟨x, hx, hmessage⟩ := List.mem_filterMap.mp hmsg
      rw [List.mem_singleton.mp hx] at hmessage
      cases a with
      | send thread fd memory buffer =>
        simp only [message] at hmessage
        split_ifs at hmessage with hn
        obtain ⟨stage, hcalls, -⟩ := send_cases hstep
        rw [hcalls, hn, Function.update_self]
        exact ⟨_, rfl, Option.some.inj hmessage⟩
      | _ => cases hmessage

/-! ## What a call returns -/

/-- A call of `unisockets_send` sends what it reports exactly if its look-up finds the
owner of the alias. -/
theorem sent_iff {steps : List (Threads × ThreadsStep)} (hrun : ThreadsRun holder steps p)
    {msg : Uint8Array} (hmsg : msg ∈ steps.filterMap (message n)) {value : Int}
    (hreturned : p.returned n = some value) :
    Sent steps n msg value ↔ ∀ r ∈ lookups steps n, r.2 ≠ none := by
  obtain ⟨call, hcall, rfl⟩ := call_of_message hrun hmsg
  have hprogress := (tracks hrun n).progress call hcall
  have hstage : call.stage = .returned value := by
    simp only [Threads.returned, hcall, Option.bind_some] at hreturned
    split at hreturned
    · rename_i value' hstage
      rw [hstage, Option.some.inj hreturned]
    · cases hreturned
  rw [hstage] at hprogress
  generalize hlooked : lookups steps n = looked at hprogress ⊢
  generalize hgiven : hands steps n = given at hprogress
  generalize p.posts n call.thread = posted at hprogress
  constructor
  · rintro hsent ⟨bind, owner⟩ hmem rfl
    have hneg := hsent.unknown bind (hlooked ▸ hmem)
    cases hprogress with
    | failed => cases hmem
    | unknown bind =>
      have hle : (0 : Int) ≤ call.msg.length := Int.natCast_nonneg _
      omega
    | sent bind' remoteId => simp at hmem
  · intro hknown
    cases hprogress with
    | failed => exact ⟨fun hle => by omega, fun bind hmem => rfl⟩
    | unknown bind => exact absurd rfl (hknown _ List.mem_cons_self)
    | sent bind remoteId =>
      refine ⟨fun _ => ⟨rfl, bind, remoteId, ?_, hgiven⟩, fun bind' hmem => ?_⟩
      · rw [hlooked]
        exact List.mem_cons_self
      · rw [hlooked] at hmem
        simp at hmem

end Steps

/-- A page with one worker. -/
def oneWorker : Map Nat Unit := Map.empty.set 1 ()

/-- A page with an open channel to the client `y`. -/
def openPage : Transporter :=
  { (({} : Transporter).createDataChannel 0 "x" 0).dataChannelConfiguration "y" "x" 0 with
    dataChannels := Map.empty.set 0 ⟨0, "x", .open, none⟩ }

/-- A descriptor gets the alias of `y`, and a message is sent on it. -/
def sendSteps : List ThreadsStep :=
  [.socket 1, .handle 1, .onmessage 1, .handleAlias 1 "y" "127.0.0.1:80" true,
    .setBind 1 1 ⟨"127.0.0.1:80", "x"⟩, .handle 1, .handle 1,
    .send 1 1 (some [7, 8, 9]) ⟨1, 2⟩, .externalSend 1, .handle 1, .onmessage 1]

theorem sent_iff_run : ∃ steps p, ThreadsRun oneWorker steps p ∧ p.returned 1 = some 2 ∧
    Sent steps 1 [8, 9] 2 := by
  obtain ⟨steps, p, hrun, hmsg, hreturned, hlooked⟩ := exists_along oneWorker openPage
    (P := fun steps p => [8, 9] ∈ steps.filterMap (message 1) ∧ p.returned 1 = some 2 ∧
      ∀ r ∈ lookups steps 1, r.2 ≠ none) sendSteps (by decide +kernel)
  exact ⟨steps, p, hrun, hreturned, (sent_iff hrun hmsg hreturned).mpr hlooked⟩

/-- A message for a descriptor that was never connected is sent to nobody, and its length is
returned. -/
theorem unknown_alias_sent : ¬∀ holder steps p, ThreadsRun holder steps p →
    ∀ n, ∀ msg ∈ steps.filterMap (message n), ∀ value, p.returned n = some value →
      Sent steps n msg value := by
  intro h
  obtain ⟨steps, p, hrun, hmsg, hreturned, hlooked⟩ := exists_along oneWorker openPage
    (P := fun steps p => [8, 9] ∈ steps.filterMap (message 1) ∧ p.returned 1 = some 2 ∧
      (Sockets.STUB, none) ∈ lookups steps 1)
    [.socket 1, .handle 1, .onmessage 1, .send 1 1 (some [7, 8, 9]) ⟨1, 2⟩, .externalSend 1]
    (by decide +kernel)
  have hneg := (h _ _ _ hrun _ _ hmsg _ hreturned).unknown _ hlooked
  cases hneg

end ThreadsRun

end Unisockets.Guest
