import Unisockets.Guest.Memory
import Unisockets.Guest.Sockets
import Unisockets.Transition.Run

/-!
# The threads of a page

The page of a program has a main thread, `main.ts`, and any number of worker
threads, `worker.ts`.  Each has a table of the binds of the descriptors and one of
the owners of the aliases.  A worker that changes its tables posts a `bindUpdate` or an
`aliasUpdate` to the main thread, which changes its own and notifies the other
threads.  A call with a descriptor that its thread does not know fetches the tables of
the main thread first.

`Threads` is the page with everything that is on its way, in both directions and for
each thread in order.  What follows a message without waiting for another one belongs
to its step: a promise that is resolved goes on before the next message.  A request
id is the number of the call that has made the request.

Of the calls, `unisockets_send` is followed from the memory to `Transporter.send`.  The
transporter changes freely between the steps.
-/

namespace Unisockets.Guest

open JsStd Transition Transport

/-! ## Tables -/

/-- `socketBinds` and `socketAliases` of the main thread, or `binds` and
`aliasesHolder` of a worker. -/
structure Tables where
  binds : Map Nat Bind := .empty
  aliases : Map String String := .empty

/-- What a thread tells the others. -/
inductive Update where
  | bind (fd : Nat) (bind : Bind)
  | «alias» (tcpAddress id : String) (isDelete : Bool)
  deriving DecidableEq, Repr

namespace Tables

def handleBindUpdate (t : Tables) (fd : Nat) (bind : Bind) : Tables :=
  { t with binds := t.binds.set fd bind }

def handleAliasUpdate (t : Tables) (tcpAddress id : String) (isDelete : Bool) : Tables :=
  { t with aliases :=
      if isDelete then t.aliases.delete tcpAddress else t.aliases.set tcpAddress id }

/-- The tables of the main thread, or of the thread itself, after an update. -/
def update (t : Tables) : Update → Tables
  | .bind fd bind => t.handleBindUpdate fd bind
  | .alias tcpAddress id isDelete => t.handleAliasUpdate tcpAddress id isDelete

def onNotifyBindAdd (t : Tables) (fd : Nat) (bind : Bind) : Tables :=
  if t.binds.has fd then t else { t with binds := t.binds.set fd bind }

def onNotifyAliasAdd (t : Tables) (tcpAddress id : String) (isDelete : Bool) : Tables :=
  if t.aliases.has tcpAddress ∧ isDelete = false then t
  else { t with aliases :=
      if isDelete then t.aliases.delete tcpAddress else t.aliases.set tcpAddress id }

/-- The tables of another thread after an update. -/
def onNotify (t : Tables) : Update → Tables
  | .bind fd bind => t.onNotifyBindAdd fd bind
  | .alias tcpAddress id isDelete => t.onNotifyAliasAdd tcpAddress id isDelete

/-- `updateBinds` and `ensureBound`, with the tables that have been fetched. -/
def fetched (t fetch : Tables) : Tables where
  binds := fetch.binds.entries.foldl (fun binds entry => binds.set entry.1 entry.2) t.binds
  aliases := fetch.aliases.entries.foldl (fun aliases entry => aliases.set entry.1 entry.2)
    t.aliases

end Tables

/-! ## Messages -/

/-- `postMessage` of a worker. -/
inductive WorkerMessage where
  | update (update : Update)
  | fetchBinds (requestId : Nat)
  | socketDescriptor (requestId : Nat)
  | wrtcSend (remoteId localId : String) (msg : Uint8Array) (requestId : Nat)
  deriving DecidableEq, Repr

/-- `postMessage` of the main thread. -/
inductive MainMessage where
  /-- `notifyBindAdd` and `notifyAliasAdd`. -/
  | notify (update : Update)
  | onFetchBinds (requestId : Nat) (info : Tables)
  | onSocketDescriptor (fd requestId : Nat)
  | onWrtcSendCallback (requestId : Nat)

structure Worker where
  tables : Tables := {}
  /-- What is on its way to the main thread. -/
  outgoing : List WorkerMessage := []
  /-- What is on its way from it. -/
  incoming : List MainMessage := []

namespace Worker

/-- `postMessage` to the main thread. -/
def post (w : Worker) (message : WorkerMessage) : Worker :=
  { w with outgoing := w.outgoing ++ [message] }

/-- `postMessage` to the worker. -/
def receive (w : Worker) (message : MainMessage) : Worker :=
  { w with incoming := w.incoming ++ [message] }

/-- The thread changes its tables and tells the main thread. -/
def announce (w : Worker) (u : Update) : Worker :=
  { w with tables := w.tables.update u }.post (.update u)

end Worker

/-! ## Sending -/

/-- How far a call of `unisockets_send` has got. -/
inductive SendStage where
  /-- `ensureBound` awaits the tables. -/
  | fetching
  /-- `ensureBound` is done. -/
  | bound
  /-- `externalSend` awaits `onWrtcSendCallback`. -/
  | sending
  | returned (value : Int)
  deriving DecidableEq, Repr

structure SendCall where
  thread : Nat
  fd : Nat
  msg : Uint8Array
  stage : SendStage
  deriving DecidableEq, Repr

/-- A call of `Transporter.send` that awaits its channel. -/
structure Sending where
  thread : Nat
  remoteId : String
  localId : String
  msg : Uint8Array
  requestId : Nat
  deriving DecidableEq, Repr

structure Threads where
  main : Tables := {}
  socketDescriptors : Nat := 0
  transporter : Transporter := {}
  sendings : List Sending := []
  workers : Nat → Worker := fun _ => {}
  calls : Nat → Option SendCall := fun _ => none
  nextCall : Nat := 0

inductive ThreadsStep where
  /-- A call of `socket` asks for a descriptor. -/
  | socket (thread : Nat)
  | setBind (thread fd : Nat) (bind : Bind)
  | handleAlias (thread : Nat) (id tcpAddress : String) (set : Bool)
  /-- A call that is not followed any further fetches the tables. -/
  | ensureBound (thread : Nat)
  /-- The guest calls `unisockets_send`; `memory` is none if it is not set. -/
  | send (thread fd : Nat) (memory : Option Uint8Array) (buffer : Buffer)
  /-- A call of `send` goes on with `externalSend`. -/
  | externalSend (call : Nat)
  /-- The main thread handles the next message of a worker. -/
  | handle (thread : Nat)
  /-- A worker handles the next message of the main thread. -/
  | onmessage (thread : Nat)
  /-- `Transporter.send` looks at its channel again. -/
  | transmit (sending : Sending)
  /-- What else happens in the transporter. -/
  | page (t : Transporter)

namespace Threads

def setWorker (p : Threads) (thread : Nat) (w : Worker) : Threads :=
  { p with workers := Function.update p.workers thread w }

def setCall (p : Threads) (n : Nat) (call : SendCall) : Threads :=
  { p with calls := Function.update p.calls n (some call) }

/-- A worker posts a message to the main thread. -/
def post (p : Threads) (thread : Nat) (message : WorkerMessage) : Threads :=
  p.setWorker thread ((p.workers thread).post message)

/-- The main thread posts a message to a worker. -/
def postMessage (p : Threads) (thread : Nat) (message : MainMessage) : Threads :=
  p.setWorker thread ((p.workers thread).receive message)

/-- The loop of `notifyAllThreads` over the keys of `customThreadsHolder`: it ends at the
thread that the update comes from. -/
def notifyAllThreads (p : Threads) (id : Nat) (message : MainMessage) : List Nat → Threads
  | [] => p
  | key :: keys =>
    if key = id then p else (p.postMessage key message).notifyAllThreads id message keys

/-- A call goes on after `ensureBound` has fetched the tables. -/
def ensuredBound (p : Threads) (n : Nat) : Threads :=
  match p.calls n with
  | some call =>
    if call.stage = .fetching then
      p.setCall n { call with
        stage := if (p.workers call.thread).tables.binds.has call.fd then .bound
          else .returned (-1) }
    else p
  | none => p

/-- `handleExternalSend`: an alias that is not known is only written to the log. -/
def handleExternalSend (p : Threads) (n : Nat) (call : SendCall) (bind : Bind) : Threads :=
  match (p.workers call.thread).tables.aliases.get bind.alias with
  | some remoteId =>
    (p.post call.thread (.wrtcSend remoteId bind.connectorId call.msg n)).setCall n
      { call with stage := .sending }
  | none => p.setCall n { call with stage := .returned call.msg.length }

/-- `onWrtcSendCallback`. -/
def sent (p : Threads) (n : Nat) : Threads :=
  match p.calls n with
  | some call =>
    if call.stage = .sending then p.setCall n { call with stage := .returned call.msg.length }
    else p
  | none => p

section Next

variable (customThreadsHolder : Map Nat Unit)

/-- The main thread handles a message of a worker. -/
def handleMessage (p : Threads) (thread : Nat) : WorkerMessage → Threads
  | .update u =>
    { p with main := p.main.update u }.notifyAllThreads thread (.notify u)
      customThreadsHolder.keys
  | .fetchBinds requestId => p.postMessage thread (.onFetchBinds requestId p.main)
  | .socketDescriptor requestId =>
    { p with socketDescriptors := p.socketDescriptors + 1 }.postMessage thread
      (.onSocketDescriptor (p.socketDescriptors + 1) requestId)
  | .wrtcSend remoteId localId msg requestId =>
    match p.transporter.openChannel remoteId localId with
    | some _ => p.postMessage thread (.onWrtcSendCallback requestId)
    | none => { p with sendings := p.sendings ++ [⟨thread, remoteId, localId, msg, requestId⟩] }

/-- A worker handles a message of the main thread. -/
def onmessage (p : Threads) (thread : Nat) (message : MainMessage) : Threads :=
  let w := p.workers thread
  match message with
  | .notify u => p.setWorker thread { w with tables := w.tables.onNotify u }
  | .onFetchBinds requestId info =>
    (p.setWorker thread { w with tables := w.tables.fetched info }).ensuredBound requestId
  | .onSocketDescriptor fd _ =>
    p.setWorker thread { w with
      tables := { w.tables with binds := w.tables.binds.set fd Sockets.STUB } }
  | .onWrtcSendCallback requestId => p.sent requestId

def next (p : Threads) : ThreadsStep → Option Threads
  | .socket thread =>
    if customThreadsHolder.has thread then
      some { p.post thread (.socketDescriptor p.nextCall) with nextCall := p.nextCall + 1 }
    else none
  | .setBind thread fd bind =>
    if customThreadsHolder.has thread ∧ (p.workers thread).tables.binds.has fd then
      some (p.setWorker thread ((p.workers thread).announce (.bind fd bind)))
    else none
  | .handleAlias thread id tcpAddress set =>
    if customThreadsHolder.has thread then
      some (p.setWorker thread ((p.workers thread).announce (.alias tcpAddress id (!set))))
    else none
  | .ensureBound thread =>
    if customThreadsHolder.has thread then
      some { p.post thread (.fetchBinds p.nextCall) with nextCall := p.nextCall + 1 }
    else none
  | .send thread fd memory buffer =>
    if customThreadsHolder.has thread then
      let n := p.nextCall
      let q := { p with nextCall := n + 1 }
      match memory with
      | none => some (q.setCall n ⟨thread, fd, [], .returned (-1)⟩)
      | some memory =>
        let msg := buffer.bytes memory
        if (p.workers thread).tables.binds.has fd then
          some (q.setCall n ⟨thread, fd, msg, .bound⟩)
        else some ((q.post thread (.fetchBinds n)).setCall n ⟨thread, fd, msg, .fetching⟩)
    else none
  | .externalSend n =>
    match p.calls n with
    | some call =>
      if call.stage = .bound then
        match (p.workers call.thread).tables.binds.get call.fd with
        | some bind => some (p.handleExternalSend n call bind)
        | none => some (p.setCall n { call with stage := .returned (-1) })
      else none
    | none => none
  | .handle thread =>
    match (p.workers thread).outgoing with
    | [] => none
    | message :: outgoing =>
      some ((p.setWorker thread { p.workers thread with outgoing := outgoing }).handleMessage
        customThreadsHolder thread message)
  | .onmessage thread =>
    match (p.workers thread).incoming with
    | [] => none
    | message :: incoming =>
      some ((p.setWorker thread { p.workers thread with incoming := incoming }).onmessage
        thread message)
  | .transmit sending =>
    if sending ∈ p.sendings then
      let q := { p with sendings := p.sendings.erase sending }
      match p.transporter.openChannelResumed sending.remoteId sending.localId with
      | .ok (some _) => some (q.postMessage sending.thread (.onWrtcSendCallback sending.requestId))
      | .ok none => none
      | .error _ => some q
    else none
  | .page t => some { p with transporter := t }

def Step (p : Threads) (a : ThreadsStep) (p' : Threads) : Prop :=
  p.next customThreadsHolder a = some p'

namespace Step

variable {customThreadsHolder : Map Nat Unit} {p p' : Threads}

theorem socket {thread : Nat} (h : Step customThreadsHolder p (.socket thread) p') :
    p' = { p.post thread (.socketDescriptor p.nextCall) with nextCall := p.nextCall + 1 } := by
  simp only [Step, next] at h
  split_ifs at h
  exact (Option.some.inj h).symm

theorem ensureBound {thread : Nat} (h : Step customThreadsHolder p (.ensureBound thread) p') :
    p' = { p.post thread (.fetchBinds p.nextCall) with nextCall := p.nextCall + 1 } := by
  simp only [Step, next] at h
  split_ifs at h
  exact (Option.some.inj h).symm

theorem setBind {thread fd : Nat} {bind : Bind}
    (h : Step customThreadsHolder p (.setBind thread fd bind) p') :
    customThreadsHolder.has thread = true ∧ (p.workers thread).tables.binds.has fd = true ∧
      p' = p.setWorker thread ((p.workers thread).announce (.bind fd bind)) := by
  simp only [Step, next] at h
  split_ifs at h with hguard
  exact ⟨hguard.1, hguard.2, (Option.some.inj h).symm⟩

theorem handleAlias {thread : Nat} {id tcpAddress : String} {set : Bool}
    (h : Step customThreadsHolder p (.handleAlias thread id tcpAddress set) p') :
    customThreadsHolder.has thread = true ∧
      p' = p.setWorker thread ((p.workers thread).announce (.alias tcpAddress id (!set))) := by
  simp only [Step, next] at h
  split_ifs at h with hguard
  exact ⟨hguard, (Option.some.inj h).symm⟩

/-- A call that looks its alias up, or whose descriptor is not bound any more. -/
theorem externalSend {n : Nat} (h : Step customThreadsHolder p (.externalSend n) p') :
    ∃ call, p.calls n = some call ∧ call.stage = .bound ∧
      ((∃ bind, (p.workers call.thread).tables.binds.get call.fd = some bind ∧
          p' = p.handleExternalSend n call bind) ∨
        (p.workers call.thread).tables.binds.get call.fd = none ∧
          p' = p.setCall n { call with stage := .returned (-1) }) := by
  simp only [Step, next] at h
  cases hcall : p.calls n with
  | none =>
    rw [hcall] at h
    cases h
  | some call =>
    simp only [hcall] at h
    split_ifs at h with hstage
    refine ⟨call, rfl, hstage, ?_⟩
    cases hbind : (p.workers call.thread).tables.binds.get call.fd with
    | none =>
      rw [hbind] at h
      exact .inr ⟨rfl, (Option.some.inj h).symm⟩
    | some bind =>
      rw [hbind] at h
      exact .inl ⟨bind, rfl, (Option.some.inj h).symm⟩

theorem handle {thread : Nat} (h : Step customThreadsHolder p (.handle thread) p') :
    ∃ message outgoing, (p.workers thread).outgoing = message :: outgoing ∧
      p' = (p.setWorker thread { p.workers thread with outgoing := outgoing }).handleMessage
        customThreadsHolder thread message := by
  simp only [Step, next] at h
  cases houtgoing : (p.workers thread).outgoing with
  | nil =>
    rw [houtgoing] at h
    cases h
  | cons message outgoing =>
    rw [houtgoing] at h
    exact ⟨message, outgoing, rfl, (Option.some.inj h).symm⟩

theorem onmessage {thread : Nat} (h : Step customThreadsHolder p (.onmessage thread) p') :
    ∃ message incoming, (p.workers thread).incoming = message :: incoming ∧
      p' = (p.setWorker thread { p.workers thread with incoming := incoming }).onmessage
        thread message := by
  simp only [Step, next] at h
  cases hincoming : (p.workers thread).incoming with
  | nil =>
    rw [hincoming] at h
    cases h
  | cons message incoming =>
    rw [hincoming] at h
    exact ⟨message, incoming, rfl, (Option.some.inj h).symm⟩

/-- The worker is told, or `Transporter.send` has thrown. -/
theorem transmit {sending : Sending} (h : Step customThreadsHolder p (.transmit sending) p') :
    sending ∈ p.sendings ∧
      (p' = ({ p with sendings := p.sendings.erase sending } : Threads).postMessage sending.thread
          (.onWrtcSendCallback sending.requestId) ∨
        p' = { p with sendings := p.sendings.erase sending }) := by
  simp only [Step, next] at h
  split_ifs at h with hmem
  refine ⟨hmem, ?_⟩
  split at h
  · exact .inl (Option.some.inj h).symm
  · cases h
  · exact .inr (Option.some.inj h).symm

theorem page {t : Transporter} (h : Step customThreadsHolder p (.page t) p') :
    p' = { p with transporter := t } :=
  (Option.some.inj h).symm

end Step

end Next

/-- No message is on its way to a thread or from one. -/
def Quiet (customThreadsHolder : Map Nat Unit) (p : Threads) : Prop :=
  ∀ thread ∈ customThreadsHolder.keys,
    (p.workers thread).outgoing = [] ∧ (p.workers thread).incoming = []

instance (customThreadsHolder : Map Nat Unit) (p : Threads) :
    Decidable (p.Quiet customThreadsHolder) :=
  inferInstanceAs (Decidable (∀ thread ∈ customThreadsHolder.keys, _ ∧ _))

end Threads

/-- A run of the threads from their start, with its steps. -/
abbrev ThreadsRun (customThreadsHolder : Map Nat Unit) :=
  Run (fun p : Threads => ∃ t, p = { transporter := t }) (Threads.Step customThreadsHolder)

/-- A run with a property that can be evaluated. -/
theorem ThreadsRun.exists_along (holder : Map Nat Unit) (t : Transporter)
    {P : List (Threads × ThreadsStep) → Threads → Prop} [∀ steps p, Decidable (P steps p)]
    (es : List ThreadsStep)
    (h : ((Run.along (fun p a => (p.next holder a).map fun p' => (a, p')) es
      { transporter := t } []).any fun r => decide (P r.1 r.2)) = true) :
    ∃ steps p, ThreadsRun holder steps p ∧ P steps p := by
  refine Run.exists_along (fun p : Threads => ∃ t, p = { transporter := t }) ?_ ⟨t, rfl⟩ es h
  intro p a b p' hnext
  obtain ⟨q, hq, he⟩ := Option.map_eq_some_iff.mp hnext
  cases he
  exact hq

/-! ## What the operations of the main thread do -/

namespace Threads

variable {p : Threads}

theorem workers_setWorker (thread : Nat) (w : Worker) (k : Nat) :
    (p.setWorker thread w).workers k = if k = thread then w else p.workers k :=
  Function.update_apply ..

theorem calls_setCall (n : Nat) (call : SendCall) (m : Nat) :
    (p.setCall n call).calls m = if m = n then some call else p.calls m :=
  Function.update_apply ..

/-- The threads in front of the one that the update comes from get the message. -/
theorem notifyAllThreads_eq (id : Nat) (message : MainMessage) {keys : List Nat}
    (hkeys : keys.Nodup) : p.notifyAllThreads id message keys =
      { p with workers := fun k =>
          if k ∈ keys.takeWhile (· ≠ id) then (p.workers k).receive message
          else p.workers k } := by
  induction keys generalizing p with
  | nil => simp [notifyAllThreads]
  | cons key keys ih =>
    obtain ⟨hkey, hkeys⟩ := List.nodup_cons.mp hkeys
    rw [notifyAllThreads]
    by_cases h : key = id
    · simp [h]
    · have hrest : key ∉ keys.takeWhile (· ≠ id) := fun hmem =>
        hkey ((List.takeWhile_sublist _).subset hmem)
      rw [if_neg h, ih hkeys]
      simp only [postMessage, setWorker, List.takeWhile_cons, decide_eq_true h, if_true,
        List.mem_cons, Threads.mk.injEq, true_and, and_true]
      funext k
      by_cases hk : k = key
      · subst hk
        rw [if_neg hrest]
        simp
      · simp [hk]

end Threads

end Unisockets.Guest
