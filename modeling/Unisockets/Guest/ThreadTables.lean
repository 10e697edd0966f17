import Unisockets.Guest.Threads

/-!
# One socket table for all threads

The threads tell each other about binds and aliases by way of the main thread.  Once
nothing is on its way, a thread should have been told of every update of another one, once,
and hold what the main thread holds (`Converged`).

Two things stand in the way.  The loop of `notifyAllThreads` ends at the thread that the
update comes from instead of leaving it out, so that only the threads in front of it are
told, and a thread ignores what it is told about an entry that it has.  In a run in which
every update comes from the last thread of `customThreadsHolder`, and a thread that hears of an
entry does not hold another one (`Heeded`), the threads converge (`converged_of_heeded`).

The proof goes by what is still on its way.  The last thread is ahead of the main
thread by the updates that it has posted (`applied`), and the main thread is ahead of
every other thread by what it has posted to it (`ahead`).
-/

namespace Unisockets.Guest

open JsStd Transition Transport

/-! ## Updates and their fates -/

namespace ThreadsRun

/-- An update that the main thread handles, with the thread that it comes from. -/
def broadcast : Threads × ThreadsStep → Option (Nat × Update)
  | (p, .handle thread) =>
    match (p.workers thread).outgoing.head? with
    | some (.update u) => some (thread, u)
    | _ => none
  | _ => none

def broadcasts (steps : List (Threads × ThreadsStep)) : List (Nat × Update) :=
  steps.filterMap broadcast

/-- An update that a thread is notified of. -/
def heard (k : Nat) : Threads × ThreadsStep → Option Update
  | (p, .onmessage thread) =>
    match (p.workers thread).incoming.head? with
    | some (.notify u) => if thread = k then some u else none
    | _ => none
  | _ => none

def hearings (steps : List (Threads × ThreadsStep)) (k : Nat) : List Update :=
  steps.filterMap (heard k)

/-- All threads have one table. -/
structure Converged (holder : Map Nat Unit) (steps : List (Threads × ThreadsStep))
    (p : Threads) : Prop where
  /-- A descriptor of the main thread that a thread knows has the same bind there. -/
  binds : ∀ k ∈ holder.keys, ∀ fd bind bind', p.main.binds.get fd = some bind →
    (p.workers k).tables.binds.get fd = some bind' → bind' = bind
  aliases : ∀ k ∈ holder.keys, ∀ tcpAddress,
    (p.workers k).tables.aliases.get tcpAddress = p.main.aliases.get tcpAddress
  /-- A thread has been notified of each update of the others, once. -/
  notified : ∀ k ∈ holder.keys, hearings steps k =
    ((broadcasts steps).filter fun sent => sent.1 ≠ k).map Prod.snd

/-- A thread that hears of an entry does not hold another one. -/
def Fits (t : Tables) : MainMessage → Prop
  | .notify (.bind fd bind) => ∀ bind' ∈ t.binds.get fd, bind' = bind
  | .notify (.alias tcpAddress id isDelete) =>
    isDelete = true ∨ ∀ id' ∈ t.aliases.get tcpAddress, id' = id
  | .onFetchBinds _ info =>
    (∀ entry ∈ info.binds.entries, ∀ bind' ∈ t.binds.get entry.1, bind' = entry.2) ∧
      ∀ entry ∈ info.aliases.entries, t.aliases.get entry.1 = some entry.2
  | _ => True

/-- An update comes from the last thread, and what comes to a thread fits its tables. -/
def Heeded (holder : Map Nat Unit) : Threads × ThreadsStep → Prop
  | (p, .handle thread) =>
    match (p.workers thread).outgoing.head? with
    | some (.update _) => holder.keys.getLast? = some thread
    | _ => True
  | (p, .onmessage thread) =>
    ∀ message ∈ (p.workers thread).incoming.head?, Fits (p.workers thread).tables message
  | _ => True

instance (t : Tables) (message : MainMessage) : Decidable (Fits t message) := by
  cases message with
  | notify u =>
    cases u with
    | bind fd bind =>
      exact inferInstanceAs (Decidable (∀ bind' ∈ t.binds.get fd, bind' = bind))
    | «alias» tcpAddress id isDelete =>
      exact inferInstanceAs (Decidable (isDelete = true ∨
        ∀ id' ∈ t.aliases.get tcpAddress, id' = id))
  | onFetchBinds requestId info =>
    exact inferInstanceAs (Decidable
      ((∀ entry ∈ info.binds.entries, ∀ bind' ∈ t.binds.get entry.1, bind' = entry.2) ∧
        ∀ entry ∈ info.aliases.entries, t.aliases.get entry.1 = some entry.2))
  | onSocketDescriptor fd requestId => exact inferInstanceAs (Decidable True)
  | onWrtcSendCallback requestId => exact inferInstanceAs (Decidable True)

instance (holder : Map Nat Unit) (x : Threads × ThreadsStep) : Decidable (Heeded holder x) := by
  obtain ⟨p, a⟩ := x
  cases a with
  | handle thread =>
    simp only [Heeded]
    split <;> infer_instance
  | onmessage thread =>
    exact inferInstanceAs (Decidable (∀ message ∈ (p.workers thread).incoming.head?,
      Fits (p.workers thread).tables message))
  | _ => exact inferInstanceAs (Decidable True)

end ThreadsRun

/-! ## What is on its way -/

namespace Tables

/-- The tables of the main thread once it has handled what a worker has posted. -/
def applied (outgoing : List WorkerMessage) (t : Tables) : Tables :=
  outgoing.foldl (fun t message =>
    match message with
    | .update u => t.update u
    | _ => t) t

/-- The tables of a thread that has heeded what the main thread has posted to it. -/
def ahead (incoming : List MainMessage) (t : Tables) : Tables :=
  incoming.foldl (fun t message =>
    match message with
    | .notify u => t.update u
    | .onFetchBinds _ info => t.fetched info
    | .onSocketDescriptor fd _ => { t with binds := t.binds.set fd Sockets.STUB }
    | .onWrtcSendCallback _ => t) t

/-- The tables hold what those of the main thread hold. -/
structure Agrees (t main : Tables) : Prop where
  binds : ∀ fd bind, main.binds.get fd = some bind → t.binds.get fd = some bind
  aliases : ∀ tcpAddress, t.aliases.get tcpAddress = main.aliases.get tcpAddress

variable {t main info : Tables}

theorem Agrees.update (h : Agrees t main) (u : Update) : Agrees (t.update u) (main.update u) := by
  cases u with
  | bind fd bind =>
    refine ⟨fun fd' bind' hget => ?_, h.aliases⟩
    simp only [Tables.update, handleBindUpdate, Map.get_set] at hget ⊢
    split_ifs with hfd
    · rwa [if_pos hfd] at hget
    · rw [if_neg hfd] at hget
      exact h.binds fd' bind' hget
  | «alias» tcpAddress id isDelete =>
    refine ⟨h.binds, fun other => ?_⟩
    simp only [Tables.update, handleAliasUpdate]
    cases isDelete
    · simp [Map.get_set, h.aliases]
    · simp [Map.get_delete, h.aliases]

theorem Agrees.stub (h : Agrees t main) {fd : Nat} (hfd : main.binds.get fd = none) :
    Agrees { t with binds := t.binds.set fd Sockets.STUB } main := by
  refine ⟨fun fd' bind hget => ?_, h.aliases⟩
  have hne : fd' ≠ fd := by
    rintro rfl
    rw [hfd] at hget
    cases hget
  show (t.binds.set fd Sockets.STUB).get fd' = _
  rw [Map.get_set_of_ne _ _ hne]
  exact h.binds fd' bind hget

/-- Tables that have been fetched from the main thread. -/
theorem Agrees.fetched (h : Agrees t main) : Agrees (t.fetched main) main := by
  constructor
  · intro fd bind hget
    show (main.binds.entries.foldl _ t.binds).get fd = _
    rw [Map.get_foldl_set, hget]
    rfl
  · intro tcpAddress
    show (main.aliases.entries.foldl _ t.aliases).get tcpAddress = _
    rw [Map.get_foldl_set, h.aliases]
    cases main.aliases.get tcpAddress <;> rfl

/-- Tables that hold what has been fetched stay what they are. -/
theorem Agrees.fetched_of_held (h : Agrees t main)
    (hbinds : ∀ fd bind, info.binds.get fd = some bind → t.binds.get fd = some bind)
    (haliases : ∀ tcpAddress id, info.aliases.get tcpAddress = some id →
      t.aliases.get tcpAddress = some id) : Agrees (t.fetched info) main := by
  constructor
  · intro fd bind hget
    show (info.binds.entries.foldl _ t.binds).get fd = _
    rw [Map.get_foldl_set, h.binds fd bind hget]
    cases hinfo : info.binds.get fd with
    | none => rfl
    | some bind' => exact (hbinds fd bind' hinfo).symm.trans (h.binds fd bind hget)
  · intro tcpAddress
    show (info.aliases.entries.foldl _ t.aliases).get tcpAddress = _
    rw [Map.get_foldl_set, ← h.aliases]
    cases hinfo : info.aliases.get tcpAddress with
    | none => rfl
    | some id => exact (haliases tcpAddress id hinfo).symm

/-- What a thread is told about an entry that it does not hold otherwise. -/
theorem onNotify_eq_update {u : Update} (hfits : ThreadsRun.Fits t (.notify u)) :
    t.onNotify u = t.update u := by
  cases u with
  | bind fd bind =>
    simp only [onNotify, update, onNotifyBindAdd, handleBindUpdate]
    split_ifs with hhas
    · obtain ⟨bind', hbind'⟩ := Map.has_iff.mp hhas
      obtain rfl := hfits bind' hbind'
      rw [Map.set_eq_self hbind']
    · rfl
  | «alias» tcpAddress id isDelete =>
    simp only [onNotify, update, onNotifyAliasAdd, handleAliasUpdate]
    cases isDelete with
    | true => simp
    | false =>
      simp only [and_true, Bool.false_eq_true, if_false]
      split_ifs with hhas
      · obtain ⟨id', hid'⟩ := Map.has_iff.mp hhas
        obtain rfl := (hfits.resolve_left (by simp)) id' hid'
        rw [Map.set_eq_self hid']
      · rfl

theorem has_update {u : Update} {fd : Nat} (h : t.binds.has fd = true) :
    (t.update u).binds.has fd = true := by
  cases u with
  | bind fd' bind =>
    show (t.binds.set fd' bind).has fd = true
    rw [Map.has_set, h, Bool.or_true]
  | «alias» tcpAddress id isDelete => exact h

theorem has_applied {outgoing : List WorkerMessage} {fd : Nat} (h : t.binds.has fd = true) :
    (applied outgoing t).binds.has fd = true := by
  induction outgoing generalizing t with
  | nil => exact h
  | cons message outgoing ih =>
    apply ih
    cases message with
    | update u => exact has_update h
    | _ => exact h

theorem has_fetched {fd : Nat} : (t.fetched info).binds.has fd =
    (info.binds.has fd || t.binds.has fd) := by
  show (Map.get (info.binds.entries.foldl _ t.binds) fd).isSome = _
  rw [Map.get_foldl_set, Option.isSome_or]
  rfl

end Tables

namespace MainMessage

/-- The descriptor that a message brings. -/
def descriptor : MainMessage → Option Nat
  | onSocketDescriptor fd _ => some fd
  | _ => none

/-- The update that a message tells of. -/
def notified : MainMessage → Option Update
  | notify u => some u
  | _ => none

end MainMessage

/-! ## Steps that change no table -/

/-- The tables of a worker stay, and what is on its way does not change tables
otherwise. -/
structure Worker.Silent (w w' : Worker) : Prop where
  tables : w'.tables = w.tables
  applied : ∀ t, Tables.applied w'.outgoing t = Tables.applied w.outgoing t
  updates : ∀ u, .update u ∈ w'.outgoing ↔ .update u ∈ w.outgoing
  incoming : w'.incoming = w.incoming ∨ ∃ n, w'.incoming = w.incoming ++ [.onWrtcSendCallback n]

namespace Worker.Silent

theorem rfl' (w : Worker) : w.Silent w := ⟨rfl, fun _ => rfl, fun _ => Iff.rfl, .inl rfl⟩

/-- The worker posts something that is no update. -/
theorem post (w : Worker) {message : WorkerMessage} (h : ∀ u, message ≠ .update u) :
    w.Silent (w.post message) := by
  refine ⟨rfl, fun t => ?_, fun u => ?_, .inl rfl⟩
  · rw [Worker.post, Tables.applied, List.foldl_append]
    cases message with
    | update u => exact absurd rfl (h u)
    | _ => rfl
  · rw [Worker.post, List.mem_append, List.mem_singleton]
    exact or_iff_left fun he => h u he.symm

/-- The main thread takes something that is no update. -/
theorem taken {w : Worker} {message : WorkerMessage} {outgoing : List WorkerMessage}
    (houtgoing : w.outgoing = message :: outgoing) (h : ∀ u, message ≠ .update u) :
    w.Silent { w with outgoing := outgoing } := by
  refine ⟨rfl, fun t => ?_, fun u => ?_, .inl rfl⟩
  · rw [houtgoing, Tables.applied, Tables.applied, List.foldl_cons]
    cases message with
    | update u => exact absurd rfl (h u)
    | _ => rfl
  · rw [houtgoing, List.mem_cons]
    exact (or_iff_right fun he => h u he.symm).symm

theorem callback (w : Worker) (n : Nat) : w.Silent (w.receive (.onWrtcSendCallback n)) :=
  ⟨rfl, fun _ => rfl, fun _ => Iff.rfl, .inr ⟨n, rfl⟩⟩

end Worker.Silent

namespace ThreadsRun

/-- A step that changes no table. -/
structure Silent (p p' : Threads) : Prop where
  main : p'.main = p.main
  socketDescriptors : p'.socketDescriptors = p.socketDescriptors
  workers : ∀ k, (p.workers k).Silent (p'.workers k)

section Silent

variable {p p' : Threads}

theorem Silent.of_eq (hworkers : p'.workers = p.workers) (hmain : p'.main = p.main)
    (hdescriptors : p'.socketDescriptors = p.socketDescriptors) : Silent p p' :=
  ⟨hmain, hdescriptors, fun _ => hworkers ▸ Worker.Silent.rfl' _⟩

/-- One worker changes. -/
theorem Silent.of_update {k : Nat} {w : Worker} (hw : (p.workers k).Silent w)
    (hworkers : p'.workers = Function.update p.workers k w) (hmain : p'.main = p.main)
    (hdescriptors : p'.socketDescriptors = p.socketDescriptors) : Silent p p' := by
  refine ⟨hmain, hdescriptors, fun k' => ?_⟩
  rw [hworkers, Function.update_apply]
  split_ifs with hk
  · exact hk ▸ hw
  · exact .rfl' _

variable {holder : Map Nat Unit}

theorem silent_socket {thread : Nat} (hstep : Threads.Step holder p (.socket thread) p') :
    Silent p p' := by
  obtain rfl := hstep.socket
  exact .of_update (.post _ (by simp)) rfl rfl rfl

theorem silent_ensureBound {thread : Nat}
    (hstep : Threads.Step holder p (.ensureBound thread) p') : Silent p p' := by
  obtain rfl := hstep.ensureBound
  exact .of_update (.post _ (by simp)) rfl rfl rfl

theorem silent_send {thread fd : Nat} {memory : Option Uint8Array} {buffer : Buffer}
    (hstep : Threads.Step holder p (.send thread fd memory buffer) p') : Silent p p' := by
  simp only [Threads.Step, Threads.next] at hstep
  cases memory with
  | none =>
    simp only at hstep
    split_ifs at hstep
    obtain rfl := Option.some.inj hstep
    exact .of_eq rfl rfl rfl
  | some memory =>
    simp only at hstep
    split_ifs at hstep
    · obtain rfl := Option.some.inj hstep
      exact .of_eq rfl rfl rfl
    · obtain rfl := Option.some.inj hstep
      exact .of_update (.post _ (by simp)) rfl rfl rfl

theorem silent_externalSend {n : Nat} (hstep : Threads.Step holder p (.externalSend n) p') :
    Silent p p' := by
  obtain ⟨call, -, -, ⟨bind, -, rfl⟩ | ⟨-, rfl⟩⟩ := hstep.externalSend
  · unfold Threads.handleExternalSend
    split
    · exact .of_update (.post _ (by simp)) rfl rfl rfl
    · exact .of_eq rfl rfl rfl
  · exact .of_eq rfl rfl rfl

theorem silent_transmit {sending : Sending}
    (hstep : Threads.Step holder p (.transmit sending) p') : Silent p p' := by
  obtain ⟨-, rfl | rfl⟩ := hstep.transmit
  · exact .of_update (.callback _ _) rfl rfl rfl
  · exact .of_eq rfl rfl rfl

/-- The main thread takes something that is no update off what a worker has posted. -/
theorem silent_taken {k : Nat} {message : WorkerMessage} {outgoing : List WorkerMessage}
    (houtgoing : (p.workers k).outgoing = message :: outgoing) (h : ∀ u, message ≠ .update u) :
    Silent p (p.setWorker k { p.workers k with outgoing := outgoing }) :=
  .of_update (.taken houtgoing h) rfl rfl rfl

end Silent

end ThreadsRun

/-! ## What a run keeps for a thread -/

namespace Worker

/-- The thread has posted an update that the main thread has not handled. -/
def Pending (w : Worker) : Prop := ∃ u, .update u ∈ w.outgoing

/-- What a run keeps for the last thread: its tables are those of the main thread once that
has handled everything, and the descriptors that come to it are new. -/
structure Leads (w : Worker) (main : Tables) (socketDescriptors : Nat) : Prop where
  agrees : w.tables.Agrees (Tables.applied w.outgoing main)
  unnotified : ∀ u, .notify u ∉ w.incoming
  fetched : ∀ requestId info, .onFetchBinds requestId info ∈ w.incoming →
    ∀ fd, info.binds.has fd = true → w.tables.binds.has fd = true
  bound : ∀ fd, w.tables.binds.has fd = true → fd ≤ socketDescriptors
  issued : ∀ fd ∈ w.incoming.filterMap MainMessage.descriptor,
    fd ≤ socketDescriptors ∧ w.tables.binds.has fd = false
  distinct : (w.incoming.filterMap MainMessage.descriptor).Nodup

/-- What a run keeps for any other thread: it posts no update, or its tables will be those of
the main thread. -/
def Follows (w : Worker) (main : Tables) : Prop :=
  w.Pending ∨ (Tables.ahead w.incoming w.tables).Agrees main

variable {w w' : Worker} {main : Tables} {c : Nat}

theorem ahead_append (incoming : List MainMessage) (message : MainMessage) (t : Tables) :
    Tables.ahead (incoming ++ [message]) t = Tables.ahead [message] (Tables.ahead incoming t) :=
  List.foldl_append

theorem Pending.silent (hs : w.Silent w') : w'.Pending ↔ w.Pending :=
  exists_congr hs.updates

theorem Follows.silent (h : w.Follows main) (hs : w.Silent w') : w'.Follows main := by
  refine h.imp (Pending.silent hs).mpr fun hagrees => ?_
  rw [hs.tables]
  rcases hs.incoming with he | ⟨n, he⟩
  · rwa [he]
  · rwa [he, ahead_append]

/-- The main thread posts a message to the thread. -/
theorem Follows.receive (h : w.Follows main) {message : MainMessage} {main' : Tables}
    (hmessage : ∀ t : Tables, t.Agrees main → (Tables.ahead [message] t).Agrees main') :
    (w.receive message).Follows main' := by
  refine h.imp_right fun hagrees => ?_
  show (Tables.ahead (w.incoming ++ [message]) w.tables).Agrees main'
  rw [ahead_append]
  exact hmessage _ hagrees

namespace Leads

theorem mono (h : w.Leads main c) {c' : Nat} (hc : c ≤ c') : w.Leads main c' where
  agrees := h.agrees
  unnotified := h.unnotified
  fetched := h.fetched
  bound fd hfd := Nat.le_trans (h.bound fd hfd) hc
  issued fd hfd := ⟨Nat.le_trans (h.issued fd hfd).1 hc, (h.issued fd hfd).2⟩
  distinct := h.distinct

/-- The last thread knows the descriptors of the main thread. -/
theorem has_of_main (h : w.Leads main c) {fd : Nat} (hfd : main.binds.has fd = true) :
    w.tables.binds.has fd = true := by
  have happlied : (Tables.applied w.outgoing main).binds.has fd = true := Tables.has_applied hfd
  obtain ⟨bind, hbind⟩ := Map.has_iff.mp happlied
  exact Map.has_of_get (h.agrees.binds fd bind hbind)

theorem silent (h : w.Leads main c) (hs : w.Silent w') : w'.Leads main c := by
  have hincoming : ∀ message ∈ w'.incoming, message ∈ w.incoming ∨
      ∃ n, message = .onWrtcSendCallback n := by
    intro message hmem
    rcases hs.incoming with he | ⟨n, he⟩
    · exact .inl (he ▸ hmem)
    · rw [he, List.mem_append, List.mem_singleton] at hmem
      exact hmem.imp_right fun hm => ⟨n, hm⟩
  have hdescriptors : w'.incoming.filterMap MainMessage.descriptor =
      w.incoming.filterMap MainMessage.descriptor := by
    rcases hs.incoming with he | ⟨n, he⟩
    · rw [he]
    · simp [he, MainMessage.descriptor]
  constructor
  · rw [hs.tables, hs.applied]
    exact h.agrees
  · intro u hu
    rcases hincoming _ hu with hu | ⟨n, he⟩
    · exact h.unnotified u hu
    · cases he
  · intro requestId info hmem fd hfd
    rw [hs.tables]
    rcases hincoming _ hmem with hmem | ⟨n, he⟩
    · exact h.fetched requestId info hmem fd hfd
    · cases he
  · rw [hs.tables]
    exact h.bound
  · rw [hdescriptors, hs.tables]
    exact h.issued
  · rw [hdescriptors]
    exact h.distinct

/-- The thread changes its tables and posts the update. -/
theorem announce (h : w.Leads main c) {u : Update}
    (hu : ∀ fd bind, u = .bind fd bind → w.tables.binds.has fd = true) :
    (w.announce u).Leads main c := by
  have hhas : ∀ fd, (w.tables.update u).binds.has fd = true → w.tables.binds.has fd = true := by
    intro fd hfd
    cases u with
    | bind fd' bind =>
      have hset : (w.tables.binds.set fd' bind).has fd = true := hfd
      rw [Map.has_set, Bool.or_eq_true] at hset
      rcases hset with he | hfd
      · rw [of_decide_eq_true he]
        exact hu fd' bind rfl
      · exact hfd
    | «alias» tcpAddress id isDelete => exact hfd
  constructor
  · show (w.tables.update u).Agrees (Tables.applied (w.outgoing ++ [.update u]) main)
    rw [Tables.applied, List.foldl_append]
    exact h.agrees.update u
  · exact h.unnotified
  · exact fun requestId info hmem fd hfd => Tables.has_update (h.fetched requestId info hmem fd hfd)
  · exact fun fd hfd => h.bound fd (hhas fd hfd)
  · intro fd hfd
    obtain ⟨hle, hnone⟩ := h.issued fd hfd
    refine ⟨hle, ?_⟩
    rw [← Bool.not_eq_true]
    intro hfd'
    rw [hhas fd hfd'] at hnone
    cases hnone
  · exact h.distinct

/-- The main thread handles an update of the thread. -/
theorem handled (h : w.Leads main c) {u : Update} {outgoing : List WorkerMessage}
    (houtgoing : w.outgoing = .update u :: outgoing) :
    ({ w with outgoing := outgoing } : Worker).Leads (main.update u) c where
  agrees := by
    have hagrees := h.agrees
    rw [houtgoing] at hagrees
    exact hagrees
  unnotified := h.unnotified
  fetched := h.fetched
  bound := h.bound
  issued := h.issued
  distinct := h.distinct

/-- The main thread posts its tables to the thread. -/
theorem receiveFetch (h : w.Leads main c) (requestId : Nat) :
    (w.receive (.onFetchBinds requestId main)).Leads main c := by
  have hdescriptors : (w.receive (.onFetchBinds requestId main)).incoming.filterMap
      MainMessage.descriptor = w.incoming.filterMap MainMessage.descriptor := by
    simp [Worker.receive, MainMessage.descriptor]
  constructor
  · exact h.agrees
  · intro u hu
    rcases List.mem_append.mp hu with hu | hu
    · exact h.unnotified u hu
    · cases List.mem_singleton.mp hu
  · intro requestId' info hmem fd hfd
    rcases List.mem_append.mp hmem with hmem | hmem
    · exact h.fetched requestId' info hmem fd hfd
    · cases List.mem_singleton.mp hmem
      exact h.has_of_main hfd
  · exact h.bound
  · rw [hdescriptors]
    exact h.issued
  · rw [hdescriptors]
    exact h.distinct

/-- The main thread issues a descriptor to the thread. -/
theorem receiveDescriptor (h : w.Leads main c) (requestId : Nat) :
    (w.receive (.onSocketDescriptor (c + 1) requestId)).Leads main (c + 1) := by
  have hdescriptors : (w.receive (.onSocketDescriptor (c + 1) requestId)).incoming.filterMap
      MainMessage.descriptor = w.incoming.filterMap MainMessage.descriptor ++ [c + 1] := by
    simp [Worker.receive, MainMessage.descriptor]
  constructor
  · exact h.agrees
  · intro u hu
    rcases List.mem_append.mp hu with hu | hu
    · exact h.unnotified u hu
    · cases List.mem_singleton.mp hu
  · intro requestId' info hmem fd hfd
    rcases List.mem_append.mp hmem with hmem | hmem
    · exact h.fetched requestId' info hmem fd hfd
    · cases List.mem_singleton.mp hmem
  · exact fun fd hfd => Nat.le_succ_of_le (h.bound fd hfd)
  · intro fd hfd
    rw [hdescriptors, List.mem_append, List.mem_singleton] at hfd
    rcases hfd with hfd | rfl
    · exact ⟨Nat.le_succ_of_le (h.issued fd hfd).1, (h.issued fd hfd).2⟩
    · refine ⟨Nat.le_refl _, ?_⟩
      show w.tables.binds.has (c + 1) = false
      rw [← Bool.not_eq_true]
      intro hhas
      have hle := h.bound (c + 1) hhas
      omega
  · rw [hdescriptors, List.nodup_append]
    refine ⟨h.distinct, List.nodup_singleton _, fun fd hfd fd' hfd' => ?_⟩
    have hle := (h.issued fd hfd).1
    rw [List.mem_singleton.mp hfd']
    omega

end Leads

/-- The tables of a worker after a message of the main thread. -/
def handle (t : Tables) : MainMessage → Tables
  | .notify u => t.onNotify u
  | .onFetchBinds _ info => t.fetched info
  | .onSocketDescriptor fd _ => { t with binds := t.binds.set fd Sockets.STUB }
  | .onWrtcSendCallback _ => t

theorem Follows.handle (h : w.Follows main) {message : MainMessage}
    {incoming : List MainMessage} (hincoming : w.incoming = message :: incoming)
    (hfits : ThreadsRun.Fits w.tables message) :
    ({ w with tables := handle w.tables message, incoming := incoming } : Worker).Follows
      main := by
  refine h.imp_right fun hagrees => ?_
  rw [hincoming] at hagrees
  cases message with
  | notify u =>
    show (Tables.ahead incoming (w.tables.onNotify u)).Agrees main
    rw [Tables.onNotify_eq_update hfits]
    exact hagrees
  | _ => exact hagrees

theorem Leads.handle (h : w.Leads main c) {message : MainMessage} {incoming : List MainMessage}
    (hincoming : w.incoming = message :: incoming) (hfits : ThreadsRun.Fits w.tables message) :
    ({ w with tables := handle w.tables message, incoming := incoming } : Worker).Leads
      main c := by
  have hrest : ∀ m ∈ incoming, m ∈ w.incoming := fun m hm =>
    hincoming ▸ List.mem_cons_of_mem _ hm
  have hdescriptors : w.incoming.filterMap MainMessage.descriptor =
      message.descriptor.toList ++ incoming.filterMap MainMessage.descriptor := by
    rw [hincoming, List.filterMap_cons]
    cases message.descriptor <;> rfl
  have hissued := h.issued
  have hdistinct := h.distinct
  rw [hdescriptors] at hissued hdistinct
  cases message with
  | notify u => exact absurd (hincoming ▸ List.mem_cons_self) (h.unnotified u)
  | onWrtcSendCallback n =>
    exact ⟨h.agrees, fun u hu => h.unnotified u (hrest _ hu),
      fun requestId info hmem => h.fetched requestId info (hrest _ hmem), h.bound, hissued,
      hdistinct⟩
  | onFetchBinds requestId info =>
    have hknown : ∀ fd, info.binds.has fd = true → w.tables.binds.has fd = true :=
      h.fetched requestId info (hincoming ▸ List.mem_cons_self)
    have hhas : ∀ fd, (w.tables.fetched info).binds.has fd = w.tables.binds.has fd := by
      intro fd
      rw [Tables.has_fetched]
      cases hinfo : info.binds.has fd with
      | true => rw [hknown fd hinfo, Bool.true_or]
      | false => rw [Bool.false_or]
    constructor
    · refine h.agrees.fetched_of_held (fun fd bind hbind => ?_) fun tcpAddress id hid =>
        hfits.2 (tcpAddress, id) (Map.mem_entries_iff.mpr hid)
      obtain ⟨bind', hbind'⟩ := Map.has_iff.mp (hknown fd (Map.has_of_get hbind))
      rw [hbind', hfits.1 (fd, bind) (Map.mem_entries_iff.mpr hbind) bind' hbind']
    · exact fun u hu => h.unnotified u (hrest _ hu)
    · intro requestId' info' hmem fd hfd
      exact (hhas fd).trans (h.fetched requestId' info' (hrest _ hmem) fd hfd)
    · exact fun fd hfd => h.bound fd ((hhas fd).symm.trans hfd)
    · intro fd hfd
      exact ⟨(hissued fd hfd).1, (hhas fd).trans (hissued fd hfd).2⟩
    · exact hdistinct
  | onSocketDescriptor fd requestId =>
    obtain ⟨hle, hnone⟩ := hissued fd List.mem_cons_self
    have hset : ∀ fd', (w.tables.binds.set fd Sockets.STUB).has fd' =
        (decide (fd' = fd) || w.tables.binds.has fd') := fun fd' => Map.has_set _ _ _ _
    constructor
    · refine h.agrees.stub ?_
      rw [Option.eq_none_iff_forall_ne_some]
      intro bind hbind
      rw [Map.has_of_get (h.agrees.binds fd bind hbind)] at hnone
      cases hnone
    · exact fun u hu => h.unnotified u (hrest _ hu)
    · intro requestId' info hmem fd' hfd'
      refine (hset fd').trans ?_
      rw [h.fetched requestId' info (hrest _ hmem) fd' hfd', Bool.or_true]
    · intro fd' hfd'
      rcases Bool.or_eq_true_iff.mp ((hset fd').symm.trans hfd') with he | hhas
      · rw [of_decide_eq_true he]
        exact hle
      · exact h.bound fd' hhas
    · intro fd' hfd'
      have hne : fd' ≠ fd := by
        rintro rfl
        exact (List.nodup_cons.mp hdistinct).1 hfd'
      obtain ⟨hle', hnone'⟩ := hissued fd' (List.mem_cons_of_mem _ hfd')
      refine ⟨hle', (hset fd').trans ?_⟩
      rw [hnone', decide_eq_false hne]
      rfl
    · exact (List.nodup_cons.mp hdistinct).2

end Worker

namespace ThreadsRun

/-! ## What a run keeps for all threads -/

structure Replicas (holder : Map Nat Unit) (p : Threads) : Prop where
  registered : ∀ k ∉ holder.keys, ¬(p.workers k).Pending
  leads : ∀ k, holder.keys.getLast? = some k → (p.workers k).Leads p.main p.socketDescriptors
  follows : ∀ k ∈ holder.keys, holder.keys.getLast? ≠ some k → (p.workers k).Follows p.main

section Replicas

variable {holder : Map Nat Unit} {p p' : Threads}

theorem Replicas.silent (h : Replicas holder p) (hs : Silent p p') : Replicas holder p' where
  registered k hk hpending :=
    h.registered k hk ((Worker.Pending.silent (hs.workers k)).mp hpending)
  leads k hlast := by
    rw [hs.main, hs.socketDescriptors]
    exact (h.leads k hlast).silent (hs.workers k)
  follows k hk hlast := by
    rw [hs.main]
    exact (h.follows k hk hlast).silent (hs.workers k)

/-- A step that changes one worker and no table of the main thread. -/
theorem Replicas.of_update (h : Replicas holder p) {k : Nat} {w : Worker}
    (hworkers : p'.workers = Function.update p.workers k w) (hmain : p'.main = p.main)
    (hdescriptors : p.socketDescriptors ≤ p'.socketDescriptors)
    (hregistered : k ∉ holder.keys → ¬w.Pending)
    (hleads : holder.keys.getLast? = some k → w.Leads p.main p'.socketDescriptors)
    (hfollows : k ∈ holder.keys → holder.keys.getLast? ≠ some k → w.Follows p.main) :
    Replicas holder p' := by
  constructor
  · intro k' hk'
    rw [hworkers, Function.update_apply]
    split_ifs with he
    · exact hregistered (he ▸ hk')
    · exact h.registered k' hk'
  · intro k' hlast
    rw [hworkers, Function.update_apply, hmain]
    split_ifs with he
    · exact hleads (he ▸ hlast)
    · exact (h.leads k' hlast).mono hdescriptors
  · intro k' hk' hlast
    rw [hworkers, Function.update_apply, hmain]
    split_ifs with he
    · exact hfollows (he ▸ hk') (he ▸ hlast)
    · exact h.follows k' hk' hlast

/-- A thread changes its tables and posts the update. -/
theorem Replicas.announce (h : Replicas holder p) {k : Nat} (hk : k ∈ holder.keys) {u : Update}
    (hu : ∀ fd bind, u = .bind fd bind → (p.workers k).tables.binds.has fd = true) :
    Replicas holder (p.setWorker k ((p.workers k).announce u)) := by
  refine h.of_update rfl rfl (Nat.le_refl _) (fun hnot => absurd hk hnot)
    (fun hlast => (h.leads k hlast).announce hu) fun _ _ => .inl ⟨u, ?_⟩
  exact List.mem_append_right _ List.mem_cons_self

/-- A thread handles a message that fits its tables. -/
theorem Replicas.onmessage (h : Replicas holder p) {k : Nat} {message : MainMessage}
    {incoming : List MainMessage} (hincoming : (p.workers k).incoming = message :: incoming)
    (hfits : Fits (p.workers k).tables message)
    (hworkers : p'.workers = Function.update p.workers k { p.workers k with
      tables := Worker.handle (p.workers k).tables message, incoming := incoming })
    (hmain : p'.main = p.main) (hdescriptors : p'.socketDescriptors = p.socketDescriptors) :
    Replicas holder p' := by
  refine h.of_update hworkers hmain (Nat.le_of_eq hdescriptors.symm)
    (fun hk => h.registered k hk) (fun hlast => ?_)
    fun hk hlast => (h.follows k hk hlast).handle hincoming hfits
  rw [hdescriptors]
  exact (h.leads k hlast).handle hincoming hfits

/-- The main thread posts its tables. -/
theorem Replicas.fetchBinds (h : Replicas holder p) (k requestId : Nat) :
    Replicas holder (p.postMessage k (.onFetchBinds requestId p.main)) :=
  h.of_update rfl rfl (Nat.le_refl _) (fun hk => h.registered k hk)
    (fun hlast => (h.leads k hlast).receiveFetch requestId)
    fun hk hlast => (h.follows k hk hlast).receive fun _ hagrees => hagrees.fetched

/-- The main thread issues a descriptor. -/
theorem Replicas.socketDescriptor (h : Replicas holder p) (k requestId : Nat) :
    Replicas holder ({ p with socketDescriptors := p.socketDescriptors + 1 }.postMessage k
      (.onSocketDescriptor (p.socketDescriptors + 1) requestId)) := by
  refine h.of_update rfl rfl (Nat.le_succ _) (fun hk => h.registered k hk)
    (fun hlast => (h.leads k hlast).receiveDescriptor requestId)
    fun hk hlast => (h.follows k hk hlast).receive fun t hagrees => hagrees.stub ?_
  -- the last thread knows every descriptor of the main thread
  obtain ⟨last, hlast⟩ := Option.ne_none_iff_exists'.mp
    (mt List.getLast?_eq_none_iff.mp (List.ne_nil_of_mem hk))
  rw [Option.eq_none_iff_forall_ne_some]
  intro bind hbind
  have hleads := h.leads last hlast
  have hle := hleads.bound _ (hleads.has_of_main (Map.has_of_get hbind))
  omega

/-- The loop of `notifyAllThreads` reaches all other threads from the last one. -/
theorem mem_takeWhile_of_last {keys : List Nat} (hkeys : keys.Nodup) {k : Nat}
    (hlast : keys.getLast? = some k) (k' : Nat) :
    k' ∈ keys.takeWhile (· ≠ k) ↔ k' ∈ keys ∧ k' ≠ k := by
  obtain ⟨others, rfl⟩ := List.getLast?_eq_some_iff.mp hlast
  have hothers : ∀ other ∈ others, other ≠ k := fun other hother =>
    (List.nodup_append.mp hkeys).2.2 other hother k List.mem_cons_self
  rw [List.takeWhile_append_of_pos fun other hother => decide_eq_true (hothers other hother)]
  simp only [List.takeWhile_cons, ne_eq, not_true_eq_false, decide_false, Bool.false_eq_true,
    if_false, List.append_nil, List.mem_append, List.mem_singleton]
  constructor
  · exact fun hmem => ⟨.inl hmem, hothers k' hmem⟩
  · exact fun ⟨hmem, hne⟩ => hmem.resolve_right hne

/-- The main thread handles an update of the last thread. -/
theorem Replicas.update (h : Replicas holder p) {k : Nat} {u : Update}
    {outgoing : List WorkerMessage} (hlast : holder.keys.getLast? = some k)
    (houtgoing : (p.workers k).outgoing = .update u :: outgoing) :
    Replicas holder ((p.setWorker k { p.workers k with outgoing := outgoing }).handleMessage
      holder k (.update u)) := by
  have hkeys : k ∈ holder.keys := List.mem_of_getLast? hlast
  have hworkers : ∀ k', (((p.setWorker k { p.workers k with
      outgoing := outgoing }).handleMessage holder k (.update u)).workers k') =
        if k' = k then { p.workers k with outgoing := outgoing }
        else if k' ∈ holder.keys then (p.workers k').receive (.notify u)
        else p.workers k' := by
    intro k'
    rw [Threads.handleMessage, Threads.notifyAllThreads_eq _ _ holder.nodup_keys]
    show (if k' ∈ holder.keys.takeWhile (· ≠ k) then
      (Threads.workers (p.setWorker k _) k').receive _ else Threads.workers (p.setWorker k _) k') = _
    rw [Threads.workers_setWorker]
    simp only [mem_takeWhile_of_last holder.nodup_keys hlast]
    by_cases hk : k' = k
    · simp [hk]
    · simp [hk]
  have hmain : ((p.setWorker k { p.workers k with outgoing := outgoing }).handleMessage
      holder k (.update u)).main = p.main.update u := by
    rw [Threads.handleMessage, Threads.notifyAllThreads_eq _ _ holder.nodup_keys]
    rfl
  have hdescriptors : ((p.setWorker k { p.workers k with
      outgoing := outgoing }).handleMessage holder k (.update u)).socketDescriptors =
        p.socketDescriptors := by
    rw [Threads.handleMessage, Threads.notifyAllThreads_eq _ _ holder.nodup_keys]
    rfl
  constructor
  · intro k' hk'
    have hne : k' ≠ k := fun he => hk' (he ▸ hkeys)
    rw [hworkers, if_neg hne, if_neg hk']
    exact h.registered k' hk'
  · intro k' hlast'
    obtain rfl : k = k' := Option.some.inj (hlast.symm.trans hlast')
    rw [hworkers, if_pos rfl, hmain, hdescriptors]
    exact (h.leads k hlast).handled houtgoing
  · intro k' hk' hlast'
    have hne : k' ≠ k := fun he => hlast' (he ▸ hlast)
    rw [hworkers, if_neg hne, if_pos hk', hmain]
    exact (h.follows k' hk' hlast').receive fun t hagrees => hagrees.update u

/-- What `onmessage` does to the workers. -/
theorem onmessage_workers (k : Nat) (message : MainMessage) :
    (p.onmessage k message).workers = Function.update p.workers k { p.workers k with
      tables := Worker.handle (p.workers k).tables message } ∧
    (p.onmessage k message).main = p.main ∧
    (p.onmessage k message).socketDescriptors = p.socketDescriptors := by
  cases message with
  | notify u => exact ⟨rfl, rfl, rfl⟩
  | onSocketDescriptor fd requestId => exact ⟨rfl, rfl, rfl⟩
  | onFetchBinds requestId info =>
    simp only [Threads.onmessage, Threads.ensuredBound]
    split
    · split_ifs <;> exact ⟨rfl, rfl, rfl⟩
    · exact ⟨rfl, rfl, rfl⟩
  | onWrtcSendCallback requestId =>
    have hsame : Function.update p.workers k { p.workers k with
        tables := Worker.handle (p.workers k).tables (.onWrtcSendCallback requestId) } =
          p.workers := Function.update_eq_self k p.workers
    simp only [Threads.onmessage, Threads.sent]
    rw [hsame]
    split
    · split_ifs <;> exact ⟨rfl, rfl, rfl⟩
    · exact ⟨rfl, rfl, rfl⟩

/-- A step of a run in which everything is heeded. -/
theorem Replicas.step (h : Replicas holder p) {a : ThreadsStep} (hheeded : Heeded holder (p, a))
    (hstep : Threads.Step holder p a p') : Replicas holder p' := by
  cases a with
  | socket thread => exact h.silent (silent_socket hstep)
  | ensureBound thread => exact h.silent (silent_ensureBound hstep)
  | send thread fd memory buffer => exact h.silent (silent_send hstep)
  | externalSend n => exact h.silent (silent_externalSend hstep)
  | transmit sending => exact h.silent (silent_transmit hstep)
  | page t =>
    obtain rfl := hstep.page
    exact h.silent (.of_eq rfl rfl rfl)
  | setBind thread fd bind =>
    obtain ⟨hthread, hbound, rfl⟩ := hstep.setBind
    refine h.announce (Map.has_iff_mem_keys.mp hthread) fun fd' bind' he => ?_
    cases he
    exact hbound
  | handleAlias thread id tcpAddress set =>
    obtain ⟨hthread, rfl⟩ := hstep.handleAlias
    refine h.announce (Map.has_iff_mem_keys.mp hthread) fun fd bind he => ?_
    cases he
  | handle thread =>
    obtain ⟨message, outgoing, houtgoing, rfl⟩ := hstep.handle
    cases message with
    | update u =>
      simp only [Heeded, houtgoing] at hheeded
      exact h.update hheeded houtgoing
    | fetchBinds requestId =>
      exact (h.silent (silent_taken houtgoing (by simp))).fetchBinds thread requestId
    | socketDescriptor requestId =>
      exact (h.silent (silent_taken houtgoing (by simp))).socketDescriptor thread requestId
    | wrtcSend remoteId localId msg requestId =>
      have hrest := h.silent (silent_taken houtgoing (by simp))
      simp only [Threads.handleMessage]
      split
      · exact hrest.silent (.of_update (.callback _ _) rfl rfl rfl)
      · exact hrest.silent (.of_eq rfl rfl rfl)
  | onmessage thread =>
    obtain ⟨message, incoming, hincoming, rfl⟩ := hstep.onmessage
    have hfits : Fits (p.workers thread).tables message :=
      hheeded message (by rw [hincoming]; rfl)
    obtain ⟨hworkers, hmain, hdescriptors⟩ := onmessage_workers
      (p := p.setWorker thread { p.workers thread with incoming := incoming }) thread message
    refine h.onmessage hincoming hfits (hworkers.trans ?_) hmain hdescriptors
    simp [Threads.setWorker]

/-- The run lemma. -/
theorem replicas {steps : List (Threads × ThreadsStep)} (hrun : ThreadsRun holder steps p)
    (hheeded : ∀ x ∈ steps, Heeded holder x) : Replicas holder p := by
  refine Run.invariant hrun hheeded ?_ fun s a s' h hheeded hstep => h.step hheeded hstep
  rintro s ⟨t, rfl⟩
  refine ⟨fun k _ hpending => ?_, fun k _ => ⟨⟨?_, ?_⟩, ?_, ?_, ?_, ?_, List.nodup_nil⟩,
    fun k _ _ => .inr ⟨?_, ?_⟩⟩
  · obtain ⟨u, hu⟩ := hpending
    cases hu
  · exact fun fd bind hget => hget
  · exact fun tcpAddress => rfl
  · intro u hu
    cases hu
  · intro requestId info hmem
    cases hmem
  · intro fd hfd
    cases hfd
  · intro fd hfd
    cases hfd
  · exact fun fd bind hget => hget
  · exact fun tcpAddress => rfl

end Replicas

/-! ## Who is notified -/

section Notified

variable {holder : Map Nat Unit} {p p' : Threads}

/-- What a thread is told of an update. -/
def told (holder : Map Nat Unit) (k : Nat) (sent : Nat × Update) : Option Update :=
  if k ∈ holder.keys.takeWhile (· ≠ sent.1) then some sent.2 else none

/-- The updates that a thread is told of and has not been notified of yet. -/
def telling (p : Threads) (k : Nat) : List Update :=
  (p.workers k).incoming.filterMap MainMessage.notified

theorem Silent.telling (hs : Silent p p') (k : Nat) : telling p' k = telling p k := by
  rcases (hs.workers k).incoming with he | ⟨n, he⟩
  · rw [ThreadsRun.telling, he]
    rfl
  · simp [ThreadsRun.telling, he, MainMessage.notified]

theorem telling_handleMessage (thread : Nat) (message : WorkerMessage) (k : Nat) :
    telling (p.handleMessage holder thread message) k = telling p k ++
      (match message with
        | .update u => (told holder k (thread, u)).toList
        | _ => []) := by
  cases message with
  | update u =>
    rw [Threads.handleMessage, Threads.notifyAllThreads_eq _ _ holder.nodup_keys]
    simp only [told, telling]
    split_ifs
    · simp [Worker.receive, MainMessage.notified]
    · simp
  | fetchBinds requestId =>
    rw [Threads.handleMessage, telling, Threads.postMessage, Threads.workers_setWorker]
    split_ifs with hk
    · simp [hk, Worker.receive, telling, MainMessage.notified]
    · simp [telling]
  | socketDescriptor requestId =>
    rw [Threads.handleMessage, telling, Threads.postMessage, Threads.workers_setWorker]
    split_ifs with hk
    · simp [hk, Worker.receive, telling, MainMessage.notified]
    · simp [telling]
  | wrtcSend remoteId localId msg requestId =>
    simp only [Threads.handleMessage, List.append_nil]
    split
    · have hs : Silent p (p.postMessage thread (.onWrtcSendCallback requestId)) :=
        .of_update (.callback _ _) rfl rfl rfl
      exact hs.telling k
    · rfl

theorem hearings_snoc (steps : List (Threads × ThreadsStep)) (x : Threads × ThreadsStep)
    (k : Nat) : hearings (steps ++ [x]) k = hearings steps k ++ (heard k x).toList := by
  cases h : heard k x <;> simp [hearings, h]

theorem broadcasts_snoc (steps : List (Threads × ThreadsStep)) (x : Threads × ThreadsStep) :
    broadcasts (steps ++ [x]) = broadcasts steps ++ (broadcast x).toList := by
  cases h : broadcast x <;> simp [broadcasts, h]

theorem telling_setWorker {thread : Nat} {w : Worker}
    (hincoming : w.incoming = (p.workers thread).incoming) (k : Nat) :
    telling (p.setWorker thread w) k = telling p k := by
  rw [telling, Threads.workers_setWorker]
  split_ifs with hk
  · rw [hk, hincoming]
    rfl
  · rfl

/-- A step that handles no message of a queue. -/
theorem telling_of_other {a : ThreadsStep} (hstep : Threads.Step holder p a p')
    (hhandle : ∀ thread, a ≠ .handle thread) (honmessage : ∀ thread, a ≠ .onmessage thread)
    (k : Nat) : telling p' k = telling p k := by
  cases a with
  | socket thread => exact (silent_socket hstep).telling k
  | ensureBound thread => exact (silent_ensureBound hstep).telling k
  | send thread fd memory buffer => exact (silent_send hstep).telling k
  | externalSend n => exact (silent_externalSend hstep).telling k
  | transmit sending => exact (silent_transmit hstep).telling k
  | page t =>
    obtain rfl := hstep.page
    rfl
  | handle thread => exact absurd rfl (hhandle thread)
  | onmessage thread => exact absurd rfl (honmessage thread)
  | setBind thread fd bind =>
    obtain ⟨-, -, rfl⟩ := hstep.setBind
    exact telling_setWorker (by rfl) k
  | handleAlias thread id tcpAddress set =>
    obtain ⟨-, rfl⟩ := hstep.handleAlias
    exact telling_setWorker (by rfl) k

/-- What a thread has been notified of and what it has been told is what comes from a thread
behind it. -/
theorem hearings_eq {steps : List (Threads × ThreadsStep)} (hrun : ThreadsRun holder steps p)
    (k : Nat) : hearings steps k ++ telling p k = (broadcasts steps).filterMap (told holder k) := by
  induction hrun with
  | start hinit =>
    obtain ⟨t, rfl⟩ := hinit
    rfl
  | @snoc steps p p' a hrun hstep ih =>
    rw [hearings_snoc, broadcasts_snoc, List.filterMap_append, ← ih]
    cases a with
    | handle thread =>
      obtain ⟨message, outgoing, houtgoing, rfl⟩ := hstep.handle
      have htaken : telling (p.setWorker thread { p.workers thread with
          outgoing := outgoing }) k = telling p k := telling_setWorker (by rfl) k
      rw [telling_handleMessage, htaken]
      have hheard : heard k (p, .handle thread) = none := rfl
      rw [hheard, Option.toList_none, List.append_nil, ← List.append_assoc]
      cases message with
      | update u =>
        have hbroadcast : broadcast (p, .handle thread) = some (thread, u) := by
          simp [broadcast, houtgoing]
        rw [hbroadcast]
        cases htold : told holder k (thread, u) <;> simp [htold]
      | _ => simp [broadcast, houtgoing]
    | onmessage thread =>
      obtain ⟨message, incoming, hincoming, rfl⟩ := hstep.onmessage
      have hworkers := (onmessage_workers (p := p.setWorker thread { p.workers thread with
        incoming := incoming }) thread message).1
      have hbroadcast : broadcast (p, .onmessage thread) = none := rfl
      rw [hbroadcast, Option.toList_none, List.filterMap_nil, List.append_nil,
        List.append_assoc, telling, hworkers]
      by_cases hk : k = thread
      · subst hk
        cases message <;>
          simp [heard, hincoming, telling, List.filterMap_cons, MainMessage.notified,
            Threads.setWorker]
      · have hheard : heard k (p, .onmessage thread) = none := by
          cases message <;> simp [heard, hincoming, Ne.symm hk]
        simp [hheard, hk, telling, Threads.setWorker]
    | _ =>
      rw [telling_of_other hstep (by simp) (by simp)]
      simp [heard, broadcast]

/-- Every thread has been notified of the updates of the others if they all come from the
last thread. -/
theorem notified_of_last {steps : List (Threads × ThreadsStep)} (hrun : ThreadsRun holder steps p)
    (hquiet : p.Quiet holder) (hlast : ∀ sent ∈ broadcasts steps, holder.keys.getLast? = some sent.1)
    {k : Nat} (hk : k ∈ holder.keys) : hearings steps k =
      ((broadcasts steps).filter fun sent => sent.1 ≠ k).map Prod.snd := by
  have htelling : telling p k = [] := by simp [telling, (hquiet k hk).2]
  have hhearings := hearings_eq hrun k
  rw [htelling, List.append_nil] at hhearings
  rw [hhearings, ← List.filterMap_eq_map, List.filterMap_filter]
  refine List.filterMap_congr fun sent hsent => ?_
  have hmem := mem_takeWhile_of_last holder.nodup_keys (hlast sent hsent) k
  by_cases hne : k = sent.1
  · rw [told, if_neg fun hin => (hmem.mp hin).2 hne, if_neg (by simp [hne])]
  · rw [told, if_pos (hmem.mpr ⟨hk, hne⟩), if_pos (by simp [Ne.symm hne])]
    rfl

end Notified

/-! ## One table -/

/-- The threads converge in a run in which everything is heeded. -/
theorem converged_of_heeded {holder : Map Nat Unit} {steps : List (Threads × ThreadsStep)}
    {p : Threads} (hrun : ThreadsRun holder steps p) (hheeded : ∀ x ∈ steps, Heeded holder x)
    (hquiet : p.Quiet holder) : Converged holder steps p := by
  have h := replicas hrun hheeded
  have hagrees : ∀ k ∈ holder.keys, (p.workers k).tables.Agrees p.main := by
    intro k hk
    obtain ⟨houtgoing, hincoming⟩ := hquiet k hk
    by_cases hlast : holder.keys.getLast? = some k
    · have hleads := (h.leads k hlast).agrees
      rwa [houtgoing] at hleads
    · rcases h.follows k hk hlast with ⟨u, hu⟩ | hfollows
      · rw [houtgoing] at hu
        cases hu
      · rwa [hincoming] at hfollows
  have hlast : ∀ sent ∈ broadcasts steps, holder.keys.getLast? = some sent.1 := by
    intro sent hsent
    obtain ⟨⟨q, a⟩, hx, hbroadcast⟩ := List.mem_filterMap.mp hsent
    cases a with
    | handle thread =>
      have hstep := hheeded _ hx
      simp only [broadcast] at hbroadcast
      simp only [Heeded] at hstep
      split at hbroadcast
      · rename_i u hu
        cases hbroadcast
        rwa [hu] at hstep
      · cases hbroadcast
    | _ => cases hbroadcast
  constructor
  · intro k hk fd bind bind' hbind hbind'
    have hget := (hagrees k hk).binds fd bind hbind
    exact Option.some.inj (hbind'.symm.trans hget)
  · exact fun k hk => (hagrees k hk).aliases
  · exact fun k hk => notified_of_last hrun hquiet hlast hk

/-- A page with two workers. -/
def twoWorkers : Map Nat Unit := (Map.empty.set 1 ()).set 2 ()

/-- The last thread binds a descriptor and learns of an alias, and the other one fetches the
tables. -/
def heededSteps : List ThreadsStep :=
  [.socket 2, .handle 2, .onmessage 2, .setBind 2 1 ⟨"127.0.0.0:80", "x"⟩,
    .handleAlias 2 "y" "127.0.0.1:80" true, .handle 2, .handle 2, .ensureBound 1, .onmessage 1,
    .handle 1, .onmessage 1, .onmessage 1, .handleAlias 2 "y" "127.0.0.1:80" false, .handle 2,
    .onmessage 1]

theorem converged_of_heeded_run : ∃ steps p, ThreadsRun twoWorkers steps p ∧
    (p.workers 1).tables.binds.get 1 = some ⟨"127.0.0.0:80", "x"⟩ ∧
    Converged twoWorkers steps p := by
  obtain ⟨steps, p, hrun, hbind, hheeded, hquiet⟩ := exists_along twoWorkers {}
    (P := fun steps p => (p.workers 1).tables.binds.get 1 = some ⟨"127.0.0.0:80", "x"⟩ ∧
      (∀ x ∈ steps, Heeded twoWorkers x) ∧ p.Quiet twoWorkers) heededSteps (by decide +kernel)
  exact ⟨steps, p, hrun, hbind, converged_of_heeded hrun hheeded hquiet⟩

/-- The first thread binds a descriptor, and the second one never hears of it. -/
theorem later_thread_unnotified : ¬∀ holder steps p, ThreadsRun holder steps p →
    p.Quiet holder → Converged holder steps p := by
  intro h
  obtain ⟨steps, p, hrun, hquiet, hbroadcasts, hhearings⟩ := exists_along twoWorkers {}
    (P := fun steps p => p.Quiet twoWorkers ∧
      broadcasts steps = [(1, .bind 1 ⟨"127.0.0.0:80", "x"⟩)] ∧ hearings steps 2 = [])
    [.socket 1, .handle 1, .onmessage 1, .setBind 1 1 ⟨"127.0.0.0:80", "x"⟩, .handle 1]
    (by decide +kernel)
  have hnotified := (h _ _ _ hrun hquiet).notified 2 (by decide)
  rw [hbroadcasts, hhearings] at hnotified
  cases hnotified

end ThreadsRun

end Unisockets.Guest
