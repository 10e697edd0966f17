import Unisockets.JsStd.Emittery
import Unisockets.Guest.Memory
import Unisockets.Transition.Run

/-!
# Receiving on one connection

Messages arrive on a connection, and the guest calls `unisockets_recv`, one call
at a time.  A call posts `wrtcRecv` to the main thread, `Transporter.recv` takes
a message from the queue or awaits the next one, `onWrtcRecv` brings it back, and
the copy loop writes it into the buffer of the call.  Messages may arrive in
between at any point.

The messages come out in the order of their arrival, one for each call
(`Fifo`).  Bytes that do not fit into the buffer are dropped and counted all the
same, so that the calls read the stream of the bytes exactly if every message
fits into the buffer of its call (`byteStream_iff`).
-/

namespace Unisockets.Guest

open JsStd Transition Transport

/-- The result of `unisockets_recv` for a message: the memory and the number. -/
def unisockets_recv (buffer : Buffer) (memory msg : Uint8Array) : Uint8Array × Nat :=
  (copyOut buffer memory msg, msg.length)

/-- How far a call of `unisockets_recv` has got. -/
inductive RecvStage where
  /-- `wrtcRecv` is on its way to the main thread. -/
  | posted
  /-- `Transporter.recv` awaits a message. -/
  | awaiting (call : Nat)
  /-- The message is there and `Transporter.recv` goes on. -/
  | resolved (msg : Uint8Array)
  /-- `onWrtcRecv` is on its way to the worker. -/
  | answered (msg : Uint8Array)
  deriving DecidableEq, Repr

namespace RecvStage

/-- A listener has been called with a message. -/
def resolve (calls : List Nat) (msg : Uint8Array) : RecvStage → RecvStage
  | awaiting call => if call ∈ calls then resolved msg else awaiting call
  | stage => stage

/-- The message that has left the queue and not reached the guest. -/
def answer : RecvStage → List Uint8Array
  | answered msg => [msg]
  | _ => []

end RecvStage

/-- The receiving side of a connection.  `emissions` are the messages whose
listeners have yet to be called, with the listeners there were at `emit`. -/
structure Stream where
  transporter : Transporter
  emissions : List (Uint8Array × List Nat) := []
  call : Option (Buffer × RecvStage) := none
  calls : Nat := 0

inductive StreamStep where
  /-- `queueAndEmitMessage`. -/
  | arrive (msg : Uint8Array)
  /-- The oldest emission calls its listeners. -/
  | emit
  /-- The guest calls `unisockets_recv`. -/
  | call (buffer : Buffer)
  /-- `handleWrtcRecv`. -/
  | handle
  /-- `Transporter.recv` goes on after its await. -/
  | resume
  /-- `unisockets_recv` returns; `memory` is what the buffer lies in by then. -/
  | finish (memory : Uint8Array)
  deriving DecidableEq, Repr

namespace StreamStep

def message : StreamStep → Option Uint8Array
  | arrive msg => some msg
  | _ => none

def buffer : StreamStep → Option Buffer
  | call buffer => some buffer
  | _ => none

end StreamStep

section Run

variable (E : Emittery Nat) (remoteId localId : String)

namespace Stream

def next (p : Stream) : StreamStep → Option Stream
  | .arrive msg =>
    match p.transporter.queueAndEmitMessage remoteId localId msg with
    | (t, .ok calls) => some { p with transporter := t, emissions := p.emissions ++ [(msg, calls)] }
    | (t, .error _) => some { p with transporter := t }
  | .emit =>
    match p.emissions with
    | [] => none
    | (msg, calls) :: emissions =>
      let key := getMessageKey remoteId localId
      let called := E.called calls (p.transporter.listeners key)
      some { p with
        transporter := p.transporter.off key called
        emissions := emissions
        call := p.call.map fun call => (call.1, call.2.resolve called msg) }
  | .call buffer =>
    if p.call = none ∧ 0 < buffer.length then some { p with call := some (buffer, .posted) }
    else none
  | .handle =>
    match p.call with
    | some (buffer, .posted) =>
      match p.transporter.recv remoteId localId p.calls with
      | (t, some msg) => some { p with transporter := t, call := some (buffer, .answered msg) }
      | (t, none) => some { p with
          transporter := t
          call := some (buffer, .awaiting p.calls)
          calls := p.calls + 1 }
    | _ => none
  | .resume =>
    match p.call with
    | some (buffer, .resolved msg) =>
      match p.transporter.recvResolved remoteId localId with
      | .ok t => some { p with transporter := t, call := some (buffer, .answered msg) }
      | .error _ => none
    | _ => none
  | .finish memory =>
    match p.call with
    | some (buffer, .answered _) =>
      if buffer.Fits memory then some { p with call := none } else none
    | _ => none

def Step (p : Stream) (a : StreamStep) (p' : Stream) : Prop :=
  p.next E remoteId localId a = some p'

/-- The channel of the connection has just been configured, and nothing awaits a
message of it. -/
def Initial (p : Stream) : Prop :=
  ∃ (t : Transporter) (channel : Nat), t.queue remoteId localId = none ∧
    t.listeners (getMessageKey remoteId localId) = [] ∧
    p = { transporter := t.dataChannelConfiguration remoteId localId channel }

end Stream

/-- A run of the receiving side, with its steps. -/
abbrev StreamRun := Run (Stream.Initial remoteId localId) (Stream.Step E remoteId localId)

end Run

/-! ## What happens in a run -/

/-- What a call gives to the guest. -/
structure Received where
  buffer : Buffer
  memory : Uint8Array
  returned : Nat
  deriving DecidableEq, Repr

/-- The bytes that a call reports as received. -/
def Received.reported (r : Received) : Uint8Array := (r.buffer.bytes r.memory).take r.returned

namespace StreamRun

/-- A call that returns, with its buffer, the memory and the message. -/
def finished : Stream × StreamStep → Option (Buffer × Uint8Array × Uint8Array)
  | (p, .finish memory) =>
    match p.call with
    | some (buffer, .answered msg) => some (buffer, memory, msg)
    | _ => none
  | _ => none

/-- The calls that have returned, in order. -/
def finishes (steps : List (Stream × StreamStep)) : List (Buffer × Uint8Array × Uint8Array) :=
  steps.filterMap finished

/-- What the calls that have returned have given, in order. -/
def returns (steps : List (Stream × StreamStep)) : List Received :=
  (finishes steps).map fun r =>
    let result := unisockets_recv r.1 r.2.1 r.2.2
    ⟨r.1, result.1, result.2⟩

/-- The messages that have arrived, in order. -/
def arrivals (steps : List (Stream × StreamStep)) : List Uint8Array :=
  steps.filterMap fun x => x.2.message

/-- The buffers of the calls, in order. -/
def buffers (steps : List (Stream × StreamStep)) : List Buffer :=
  steps.filterMap fun x => x.2.buffer

theorem finishes_snoc (steps : List (Stream × StreamStep)) (x : Stream × StreamStep) :
    finishes (steps ++ [x]) = finishes steps ++ (finished x).toList := by
  cases h : finished x <;> simp [finishes, h]

theorem arrivals_snoc (steps : List (Stream × StreamStep)) (x : Stream × StreamStep) :
    arrivals (steps ++ [x]) = arrivals steps ++ x.2.message.toList := by
  cases h : x.2.message <;> simp [arrivals, h]

theorem buffers_snoc (steps : List (Stream × StreamStep)) (x : Stream × StreamStep) :
    buffers (steps ++ [x]) = buffers steps ++ x.2.buffer.toList := by
  cases h : x.2.buffer <;> simp [buffers, h]

/-- The calls read the stream of the bytes that arrive: what they report is in
their buffers, and it is a prefix of the stream. -/
structure ByteStream (steps : List (Stream × StreamStep)) : Prop where
  inside : ∀ r ∈ returns steps, r.returned ≤ r.buffer.length
  stream : (returns steps).flatMap Received.reported <+: (arrivals steps).flatten

/-- The messages that have been received fit into the buffers of their calls. -/
def Fitting (steps : List (Stream × StreamStep)) : Prop :=
  ∀ i < (returns steps).length, ∀ msg ∈ (arrivals steps)[i]?, ∀ buffer ∈ (buffers steps)[i]?,
    msg.length ≤ buffer.length

instance (steps : List (Stream × StreamStep)) : Decidable (Fitting steps) :=
  inferInstanceAs (Decidable (∀ i < (returns steps).length, ∀ msg ∈ (arrivals steps)[i]?,
    ∀ buffer ∈ (buffers steps)[i]?, msg.length ≤ buffer.length))

/-! ## First in, first out -/

section Fifo

variable {E : Emittery Nat} {remoteId localId : String} {steps : List (Stream × StreamStep)}
  {p p' : Stream} {a : StreamStep}

/-- A call that awaits a message. -/
def Waits (p : Stream) (n : Nat) : Prop := ∃ buffer, p.call = some (buffer, .awaiting n)

/-- What the queue, the listeners and the emissions are in a run: the messages
that have arrived are those that have been returned, the one on its way to the
guest and the queue, and while a call waits the queue holds the messages whose
emission will call it. -/
structure Fifo (remoteId localId : String) (steps : List (Stream × StreamStep)) (p : Stream)
    (msgs : List Uint8Array) : Prop where
  channel : p.transporter.channel remoteId localId ≠ none
  queue : p.transporter.queue remoteId localId = some msgs
  arrived : arrivals steps = (finishes steps).map (·.2.2)
    ++ ((p.call.elim [] fun call => call.2.answer) ++ msgs)
  resolved : ∀ buffer msg, p.call = some (buffer, .resolved msg) → msgs.head? = some msg
  waiting : ∀ n, Waits p n →
    msgs = (p.emissions.filter fun emission => n ∈ emission.2).map Prod.fst
  called : buffers steps = (finishes steps).map (·.1) ++ (p.call.map Prod.fst).toList
  listeners : ∀ n, n ∈ p.transporter.listeners (getMessageKey remoteId localId) ↔ Waits p n
  emissions : ∀ emission ∈ p.emissions, ∀ n ∈ emission.2, n < p.calls
  waits : ∀ n, Waits p n → n < p.calls

/-- The map that holds a queue. -/
theorem queuedMessages_of_queue {t : Transporter} {msgs : List Uint8Array}
    (h : t.queue remoteId localId = some msgs) :
    ∃ queues, t.queuedMessages.get remoteId = some queues ∧ queues.get localId = some msgs :=
  Option.bind_eq_some_iff.mp h

theorem Fifo.initial (h : Stream.Initial remoteId localId p) :
    Fifo remoteId localId [] p [] := by
  obtain ⟨t, channel, hqueue, hlisteners, rfl⟩ := h
  have hwaits : ∀ n, ¬Waits { transporter := t.dataChannelConfiguration remoteId localId channel }
      n := by
    rintro n ⟨buffer, he⟩
    cases he
  constructor
  · simp [Transporter.channel_dataChannelConfiguration]
  · simp [Transporter.queue_dataChannelConfiguration, hqueue]
  · rfl
  · intro buffer msg he
    cases he
  · exact fun n hn => absurd hn (hwaits n)
  · rfl
  · intro n
    have hnone : (t.dataChannelConfiguration remoteId localId channel).listeners
        (getMessageKey remoteId localId) = [] := by
      simpa [Transporter.listeners] using hlisteners
    simp [hnone, hwaits]
  · intro emission he
    cases he
  · exact fun n hn => absurd hn (hwaits n)

variable {msgs : List Uint8Array}

/-- A message that arrives goes to the end of the queue, and its emission calls
the call that waits. -/
theorem Fifo.arrive (h : Fifo remoteId localId steps p msgs) {msg : Uint8Array}
    (hstep : Stream.Step E remoteId localId p (.arrive msg) p') :
    Fifo remoteId localId (steps ++ [(p, .arrive msg)]) p' (msgs ++ [msg]) := by
  obtain ⟨channel, hchannel⟩ := Option.ne_none_iff_exists'.mp h.channel
  obtain ⟨queues, hqueues, hget⟩ := queuedMessages_of_queue h.queue
  have hp' : p' = { p with
      transporter := p.transporter.addQueueMessages remoteId localId (msgs ++ [msg])
      emissions := p.emissions
        ++ [(msg, p.transporter.listeners (getMessageKey remoteId localId))] } := by
    simp only [Stream.Step, Stream.next, Transporter.queueAndEmitMessage, hchannel, hqueues,
      hget] at hstep
    exact (Option.some.inj hstep).symm
  subst hp'
  constructor
  · exact h.channel
  · simp
  · simp [arrivals_snoc, finishes_snoc, finished, StreamStep.message, h.arrived]
  · intro buffer msg' hcall
    rw [List.head?_append, h.resolved buffer msg' hcall]
    rfl
  · intro n hn
    have hlistener := (h.listeners n).mpr hn
    simp only [List.filter_append, List.map_append]
    rw [← h.waiting n hn]
    simp [hlistener]
  · simp [buffers_snoc, finishes_snoc, finished, StreamStep.buffer, h.called]
  · exact h.listeners
  · intro emission hmem n hn
    rcases List.mem_append.mp hmem with hmem | hmem
    · exact h.emissions emission hmem n hn
    · rw [List.mem_singleton.mp hmem] at hn
      exact h.waits n ((h.listeners n).mp hn)
  · exact h.waits

/-- The oldest emission calls its listeners: the call that waits, if it was there
when the message arrived. -/
theorem Fifo.emit (h : Fifo remoteId localId steps p msgs)
    (hstep : Stream.Step E remoteId localId p .emit p') :
    Fifo remoteId localId (steps ++ [(p, .emit)]) p' msgs := by
  cases hemissions : p.emissions with
  | nil =>
    simp only [Stream.Step, Stream.next, hemissions] at hstep
    cases hstep
  | cons emission rest =>
    obtain ⟨msg, calls⟩ := emission
    simp only [Stream.Step, Stream.next, hemissions] at hstep
    obtain rfl := Option.some.inj hstep
    have hcalled : ∀ n, n ∈ E.called calls
        (p.transporter.listeners (getMessageKey remoteId localId)) ↔ n ∈ calls ∧ Waits p n := by
      intro n
      rw [E.mem_called, h.listeners]
    have hrest : ∀ emission ∈ rest, ∀ n ∈ emission.2, n < p.calls := by
      intro emission hmem
      apply h.emissions emission
      rw [hemissions]
      exact List.mem_cons_of_mem _ hmem
    by_cases hhit : ∃ n ∈ calls, Waits p n
    · -- the call that waits gets the message, which is the first one of the queue
      obtain ⟨n, hn, buffer, hcall⟩ := hhit
      have hwaits : Waits p n := ⟨buffer, hcall⟩
      have hmsgs := h.waiting n hwaits
      rw [hemissions] at hmsgs
      have hmem := (hcalled n).mpr ⟨hn, hwaits⟩
      have honly : ∀ n', Waits p n' → n' = n := by
        rintro n' ⟨buffer', hcall'⟩
        rw [hcall] at hcall'
        cases hcall'
        rfl
      constructor
      · exact h.channel
      · exact h.queue
      · simp [arrivals_snoc, finishes_snoc, finished, StreamStep.message, h.arrived, hcall,
          RecvStage.resolve, RecvStage.answer, hmem]
      · intro buffer' msg' he
        simp only [hcall, Option.map_some, RecvStage.resolve, hmem, if_true] at he
        cases he
        rw [hmsgs]
        simp [hn]
      · rintro n' ⟨buffer', he⟩
        simp only [hcall, Option.map_some, RecvStage.resolve, hmem, if_true] at he
        cases he
      · simp [buffers_snoc, finishes_snoc, finished, StreamStep.buffer, h.called, hcall]
      · intro n'
        rw [Transporter.listeners_off, List.mem_filter, decide_eq_true_eq, h.listeners]
        constructor
        · rintro ⟨hn', hnot⟩
          rw [honly n' hn'] at hnot
          exact absurd hmem hnot
        · rintro ⟨buffer', he⟩
          simp only [hcall, Option.map_some, RecvStage.resolve, hmem, if_true] at he
          cases he
      · exact hrest
      · rintro n' ⟨buffer', he⟩
        simp only [hcall, Option.map_some, RecvStage.resolve, hmem, if_true] at he
        cases he
    · have hmiss : ∀ n, n ∉ E.called calls
          (p.transporter.listeners (getMessageKey remoteId localId)) := by
        intro n hn
        obtain ⟨hn, hwaits⟩ := (hcalled n).mp hn
        exact hhit ⟨n, hn, hwaits⟩
      have hcall : (p.call.map fun call => (call.1, call.2.resolve (E.called calls
          (p.transporter.listeners (getMessageKey remoteId localId))) msg)) = p.call := by
        cases hp : p.call with
        | none => rfl
        | some call =>
          obtain ⟨buffer, stage⟩ := call
          cases stage with
          | awaiting n => simp [RecvStage.resolve, hmiss n]
          | _ => rfl
      rw [hcall]
      constructor
      · exact h.channel
      · exact h.queue
      · simp [arrivals_snoc, finishes_snoc, finished, StreamStep.message, h.arrived]
      · exact h.resolved
      · intro n hn
        have hmsgs := h.waiting n hn
        have hnot : n ∉ calls := fun hmem => hhit ⟨n, hmem, hn⟩
        rw [hemissions, List.filter_cons_of_neg (by simpa using hnot)] at hmsgs
        exact hmsgs
      · simp [buffers_snoc, finishes_snoc, finished, StreamStep.buffer, h.called]
      · intro n
        rw [Transporter.listeners_off, List.mem_filter, h.listeners]
        exact and_iff_left (decide_eq_true (hmiss n))
      · exact hrest
      · exact h.waits

/-- A step of a call that does not wait, before the step or after it. -/
theorem Fifo.quiet (h : Fifo remoteId localId steps p msgs) {x : Stream × StreamStep}
    {t : Transporter} {call : Option (Buffer × RecvStage)} {msgs' : List Uint8Array}
    (hbefore : ∀ n, ¬Waits p n) (hafter : ∀ buffer n, call ≠ some (buffer, .awaiting n))
    (hresolved : ∀ buffer msg, call ≠ some (buffer, .resolved msg))
    (hchannel : t.channel remoteId localId = p.transporter.channel remoteId localId)
    (hlisteners : t.asyncResolver = p.transporter.asyncResolver)
    (hqueue : t.queue remoteId localId = some msgs')
    (harrived : arrivals (steps ++ [x]) = (finishes (steps ++ [x])).map (·.2.2)
      ++ ((call.elim [] fun call => call.2.answer) ++ msgs'))
    (hcalled : StreamRun.buffers (steps ++ [x]) = (finishes (steps ++ [x])).map (·.1)
      ++ (call.map Prod.fst).toList) :
    Fifo remoteId localId (steps ++ [x]) { p with transporter := t, call := call } msgs' where
  channel := hchannel ▸ h.channel
  queue := hqueue
  arrived := harrived
  resolved buffer msg he := absurd he (hresolved buffer msg)
  waiting n hn := hn.elim fun buffer he => absurd he (hafter buffer n)
  called := hcalled
  listeners n := by
    have hmem := h.listeners n
    rw [Transporter.mem_listeners] at hmem ⊢
    rw [hlisteners, hmem]
    exact iff_of_false (hbefore n) fun hn => hn.elim fun buffer he => hafter buffer n he
  emissions := h.emissions
  waits n hn := hn.elim fun buffer he => absurd he (hafter buffer n)

/-- The guest calls `unisockets_recv`. -/
theorem Fifo.call (h : Fifo remoteId localId steps p msgs) {buffer : Buffer}
    (hstep : Stream.Step E remoteId localId p (.call buffer) p') :
    Fifo remoteId localId (steps ++ [(p, .call buffer)]) p' msgs := by
  simp only [Stream.Step, Stream.next] at hstep
  split_ifs at hstep with hidle
  obtain rfl := Option.some.inj hstep
  apply h.quiet
  · simp [Waits, hidle.1]
  · simp
  · simp
  · rfl
  · rfl
  · exact h.queue
  · simp [arrivals_snoc, finishes_snoc, finished, StreamStep.message, h.arrived, hidle.1,
      RecvStage.answer]
  · simp [buffers_snoc, finishes_snoc, finished, StreamStep.buffer, h.called, hidle.1]

/-- `handleWrtcRecv` takes the first message of the queue, or it waits. -/
theorem Fifo.handle (h : Fifo remoteId localId steps p msgs)
    (hstep : Stream.Step E remoteId localId p .handle p') :
    Fifo remoteId localId (steps ++ [(p, .handle)]) p' msgs.tail := by
  cases hcall : p.call with
  | none =>
    simp only [Stream.Step, Stream.next, hcall] at hstep
    cases hstep
  | some call =>
    obtain ⟨buffer, stage⟩ := call
    cases stage with
    | posted =>
      have hidle : ∀ n, ¬Waits p n := by
        rintro n ⟨buffer', he⟩
        rw [hcall] at he
        cases he
      cases msgs with
      | nil =>
        have hp' : p' = { p with
            transporter := { p.transporter with
              asyncResolver := p.transporter.asyncResolver
                ++ [(getMessageKey remoteId localId, p.calls)] }
            call := some (buffer, .awaiting p.calls)
            calls := p.calls + 1 } := by
          simp only [Stream.Step, Stream.next, hcall, Transporter.recv, h.queue] at hstep
          exact (Option.some.inj hstep).symm
        subst hp'
        have hwaits : ∀ n, Waits { p with
            transporter := { p.transporter with
              asyncResolver := p.transporter.asyncResolver
                ++ [(getMessageKey remoteId localId, p.calls)] }
            call := some (buffer, .awaiting p.calls)
            calls := p.calls + 1 } n ↔ n = p.calls := by
          intro n
          simp [Waits, eq_comm]
        constructor
        · exact h.channel
        · exact h.queue
        · simp [arrivals_snoc, finishes_snoc, finished, StreamStep.message, h.arrived, hcall,
            RecvStage.answer]
        · intro buffer' msg he
          cases he
        · intro n hn
          -- the emissions that are on their way have not seen this listener
          rw [(hwaits n).mp hn]
          have hnone : (p.emissions.filter fun emission => p.calls ∈ emission.2) = [] := by
            rw [List.filter_eq_nil_iff]
            intro emission hmem he
            have hlt := h.emissions emission hmem p.calls (of_decide_eq_true he)
            omega
          rw [hnone]
          rfl
        · simp [buffers_snoc, finishes_snoc, finished, StreamStep.buffer, h.called, hcall]
        · intro n
          rw [hwaits, Transporter.mem_listeners]
          simp only [List.mem_append, List.mem_singleton, Prod.mk.injEq, true_and]
          rw [← Transporter.mem_listeners, h.listeners]
          simp [hidle]
        · intro emission hmem n hn
          have hlt := h.emissions emission hmem n hn
          show n < p.calls + 1
          omega
        · intro n hn
          rw [(hwaits n).mp hn]
          show p.calls < p.calls + 1
          omega
      | cons msg msgs =>
        simp only [Stream.Step, Stream.next, hcall, Transporter.recv, h.queue] at hstep
        obtain rfl := Option.some.inj hstep
        apply h.quiet hidle
        · simp
        · simp
        · rfl
        · rfl
        · simp
        · simp [arrivals_snoc, finishes_snoc, finished, StreamStep.message, h.arrived, hcall,
            RecvStage.answer]
        · simp [buffers_snoc, finishes_snoc, finished, StreamStep.buffer, h.called, hcall]
    | _ =>
      simp only [Stream.Step, Stream.next, hcall] at hstep
      cases hstep

/-- `recv` takes the message it has been called with off the queue. -/
theorem Fifo.resume (h : Fifo remoteId localId steps p msgs)
    (hstep : Stream.Step E remoteId localId p .resume p') :
    Fifo remoteId localId (steps ++ [(p, .resume)]) p' msgs.tail := by
  cases hcall : p.call with
  | none =>
    simp only [Stream.Step, Stream.next, hcall] at hstep
    cases hstep
  | some call =>
    obtain ⟨buffer, stage⟩ := call
    cases stage with
    | resolved msg =>
      obtain ⟨queues, hqueues, hget⟩ := queuedMessages_of_queue h.queue
      simp only [Stream.Step, Stream.next, hcall, Transporter.recvResolved, hqueues, hget] at hstep
      obtain rfl := Option.some.inj hstep
      have hmsgs : msgs = msg :: msgs.tail := by
        have hhead := h.resolved buffer msg hcall
        cases msgs with
        | nil => cases hhead
        | cons first msgs =>
          cases hhead
          rfl
      apply h.quiet
      · simp [Waits, hcall]
      · simp
      · simp
      · rfl
      · rfl
      · simp
      · simp [arrivals_snoc, finishes_snoc, finished, StreamStep.message, h.arrived, hcall,
          RecvStage.answer, ← hmsgs]
      · simp [buffers_snoc, finishes_snoc, finished, StreamStep.buffer, h.called, hcall]
    | _ =>
      simp only [Stream.Step, Stream.next, hcall] at hstep
      cases hstep

/-- A call returns. -/
theorem Fifo.finish (h : Fifo remoteId localId steps p msgs) {memory : Uint8Array}
    (hstep : Stream.Step E remoteId localId p (.finish memory) p') :
    Fifo remoteId localId (steps ++ [(p, .finish memory)]) p' msgs := by
  cases hcall : p.call with
  | none =>
    simp only [Stream.Step, Stream.next, hcall] at hstep
    cases hstep
  | some call =>
    obtain ⟨buffer, stage⟩ := call
    cases stage with
    | answered msg =>
      simp only [Stream.Step, Stream.next, hcall] at hstep
      split_ifs at hstep with hfits
      obtain rfl := Option.some.inj hstep
      apply h.quiet
      · simp [Waits, hcall]
      · simp
      · simp
      · rfl
      · rfl
      · exact h.queue
      · simp [arrivals_snoc, finishes_snoc, finished, StreamStep.message, h.arrived, hcall,
          RecvStage.answer]
      · simp [buffers_snoc, finishes_snoc, finished, StreamStep.buffer, h.called, hcall]
    | _ =>
      simp only [Stream.Step, Stream.next, hcall] at hstep
      cases hstep

/-- Every run is first in, first out. -/
theorem fifo (hrun : StreamRun E remoteId localId steps p) :
    ∃ msgs, Fifo remoteId localId steps p msgs := by
  induction hrun with
  | start hinit => exact ⟨[], .initial hinit⟩
  | @snoc steps p p' a hrun hstep ih =>
    obtain ⟨msgs, h⟩ := ih
    cases a with
    | arrive msg => exact ⟨_, h.arrive hstep⟩
    | emit => exact ⟨_, h.emit hstep⟩
    | call buffer => exact ⟨_, h.call hstep⟩
    | handle => exact ⟨_, h.handle hstep⟩
    | resume => exact ⟨_, h.resume hstep⟩
    | finish memory => exact ⟨_, h.finish hstep⟩

/-- The buffer of a call that returns lies in the memory. -/
theorem fits_of_finishes (hrun : StreamRun E remoteId localId steps p) :
    ∀ r ∈ finishes steps, r.1.Fits r.2.1 := by
  intro r hr
  obtain ⟨⟨q, a⟩, hx, hfinished⟩ := List.mem_filterMap.mp hr
  obtain ⟨-, p', -, -, hstep⟩ := Run.of_mem hrun hx
  cases a with
  | finish memory =>
    simp only [finished] at hfinished
    split at hfinished
    · rename_i buffer msg hcall
      obtain rfl := Option.some.inj hfinished
      simp only [Stream.Step, Stream.next, hcall] at hstep
      split_ifs at hstep with hfits
      exact hfits
    · cases hfinished
  | _ => cases hfinished

/-- The calls return the messages in the order of their arrival. -/
theorem finishes_getElem? (hrun : StreamRun E remoteId localId steps p) {i : Nat}
    {r : Buffer × Uint8Array × Uint8Array} (hr : (finishes steps)[i]? = some r) :
    (arrivals steps)[i]? = some r.2.2 ∧ (StreamRun.buffers steps)[i]? = some r.1 := by
  obtain ⟨msgs, h⟩ := fifo hrun
  have hi : i < (finishes steps).length := (List.getElem?_eq_some_iff.mp hr).1
  constructor
  · rw [h.arrived, List.getElem?_append_left (by simpa using hi), List.getElem?_map, hr]
    rfl
  · rw [h.called, List.getElem?_append_left (by simpa using hi), List.getElem?_map, hr]
    rfl

/-- The messages fit, call by call. -/
theorem fitting_iff (hrun : StreamRun E remoteId localId steps p) :
    Fitting steps ↔ ∀ r ∈ finishes steps, r.2.2.length ≤ r.1.length := by
  constructor
  · intro h r hr
    obtain ⟨i, hi, hget⟩ := List.getElem_of_mem hr
    have hsome : (finishes steps)[i]? = some r := List.getElem?_eq_some_iff.mpr ⟨hi, hget⟩
    obtain ⟨hmsg, hbuffer⟩ := finishes_getElem? hrun hsome
    exact h i (by simpa [returns] using hi) _ hmsg _ hbuffer
  · intro h i hi msg hmsg buffer hbuffer
    have hi : i < (finishes steps).length := by simpa [returns] using hi
    have hsome : (finishes steps)[i]? = some (finishes steps)[i] := List.getElem?_eq_getElem hi
    obtain ⟨hmsg', hbuffer'⟩ := finishes_getElem? hrun hsome
    have hle := h _ (List.getElem_mem hi)
    rw [hmsg'] at hmsg
    rw [hbuffer'] at hbuffer
    obtain rfl := Option.some.inj hmsg
    obtain rfl := Option.some.inj hbuffer
    exact hle

/-- The calls of `unisockets_recv` read the stream of the bytes exactly if every
message that they receive fits into the buffer. -/
theorem byteStream_iff (hrun : StreamRun E remoteId localId steps p) :
    ByteStream steps ↔ Fitting steps := by
  rw [fitting_iff hrun]
  constructor
  · intro h r hr
    exact h.inside _ (List.mem_map.mpr ⟨r, hr, rfl⟩)
  · intro h
    constructor
    · intro r hr
      obtain ⟨f, hf, rfl⟩ := List.mem_map.mp hr
      exact h f hf
    · obtain ⟨msgs, hfifo⟩ := fifo hrun
      have hreported : (returns steps).flatMap Received.reported
          = ((finishes steps).map (·.2.2)).flatten := by
        rw [returns, List.flatMap_map, ← List.flatMap_def]
        apply List.flatMap_congr
        intro r hr
        exact bytes_copyOut (fits_of_finishes hrun r hr) (h r hr)
      rw [hreported, hfifo.arrived, List.flatten_append]
      exact List.prefix_append _ _

end Fifo

/-- A run with a property that can be evaluated. -/
theorem exists_along (E : Emittery Nat) (remoteId localId : String)
    {P : List (Stream × StreamStep) → Stream → Prop} [∀ steps p, Decidable (P steps p)]
    (es : List StreamStep)
    (h : ((Run.along (fun p a => (p.next E remoteId localId a).map fun p' => (a, p')) es
      { transporter := ({} : Transporter).dataChannelConfiguration remoteId localId 0 } []).any
        fun r => decide (P r.1 r.2)) = true) :
    ∃ steps p, StreamRun E remoteId localId steps p ∧ P steps p := by
  refine Run.exists_along (Stream.Initial remoteId localId) ?_ ⟨{}, 0, rfl, rfl, rfl⟩ es h
  intro p a b p' hnext
  obtain ⟨q, hq, he⟩ := Option.map_eq_some_iff.mp hnext
  cases he
  exact hq

/-- One message fits and one comes while the guest waits for it. -/
def fittingSteps : List StreamStep :=
  [.arrive [1, 2], .call ⟨1, 4⟩, .handle, .finish [0, 0, 0, 0, 0], .call ⟨0, 1⟩, .handle,
    .arrive [3], .emit, .emit, .resume, .finish [0, 0]]

theorem byteStream_iff_run : ∃ steps p, StreamRun Emittery.subscribed "y" "x" steps p ∧
    (returns steps).flatMap Received.reported = [1, 2, 3] ∧ ByteStream steps := by
  obtain ⟨steps, p, hrun, hreported, hfitting⟩ := exists_along Emittery.subscribed "y" "x"
    (P := fun steps _ => (returns steps).flatMap Received.reported = [1, 2, 3] ∧ Fitting steps)
    fittingSteps (by decide +kernel)
  exact ⟨steps, p, hrun, hreported, (byteStream_iff hrun).mpr hfitting⟩

/-- A message of three bytes for a buffer of one. -/
def truncatedSteps : List StreamStep :=
  [.arrive [1, 2, 3], .call ⟨0, 1⟩, .handle, .finish [0, 0, 0, 0], .arrive [4], .call ⟨0, 1⟩,
    .handle, .finish [0, 0, 0, 0]]

/-- The first call reports three bytes and has one in its buffer, the second call
goes on with the next message, and the byte behind the buffer is overwritten. -/
theorem byteStream_truncated : ¬∀ (E : Emittery Nat) remoteId localId steps p,
    StreamRun E remoteId localId steps p → ByteStream steps := by
  intro h
  obtain ⟨steps, p, hrun, hreturns⟩ := exists_along Emittery.subscribed "y" "x"
    (P := fun steps _ => returns steps =
      [⟨⟨0, 1⟩, [1, 2, 0, 0], 3⟩, ⟨⟨0, 1⟩, [4, 0, 0, 0], 1⟩])
    truncatedSteps (by decide +kernel)
  have hinside := (h _ _ _ _ _ hrun).inside ⟨⟨0, 1⟩, [1, 2, 0, 0], 3⟩
  rw [hreturns] at hinside
  have hle : 3 ≤ 1 := hinside List.mem_cons_self
  omega

end StreamRun

end Unisockets.Guest
