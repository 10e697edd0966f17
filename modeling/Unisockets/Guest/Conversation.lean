import Unisockets.Guest.ByteStream
import Unisockets.Guest.Transmissions

/-!
# From one guest to another

The page of the client `x` sends to the client `y` on a data channel, and the
page of `y` receives.  `Conversation` has the threads of the one, the receiving
side of the other, and what is under way on the channel between them, which is
reliable and ordered.

What the calls of `unisockets_recv` read is what the calls of `unisockets_send`
have written, in their order, with nothing lost and nothing twice
(`ConversationRun.delivered`): the rest is under way.
-/

namespace Unisockets.Guest

open JsStd Transition Transport

structure Conversation where
  sender : Threads
  /-- What the channel has got and not delivered. -/
  channel : List Uint8Array := []
  receiver : Stream

inductive ConversationStep where
  /-- A step of the page that sends. -/
  | send (a : ThreadsStep)
  /-- `onmessage` of the channel. -/
  | deliver (msg : Uint8Array)
  /-- A step of the page that receives. -/
  | receive (a : StreamStep)

/-- What a step of the sending page gives to the channel `c` for the two clients. -/
def carried (x y : String) (c : Nat) (z : Threads × ThreadsStep) : Option Uint8Array :=
  ((ThreadsRun.transmitted z).filter fun t =>
    t.remoteId = y ∧ t.localId = x ∧ t.channel = c).map Transmission.msg

section Step

variable (holder : Map Nat Unit) (E : Emittery Nat) (x y : String) (c : Nat)

namespace Conversation

inductive Step (p : Conversation) : ConversationStep → Conversation → Prop where
  | send {a : ThreadsStep} {sender : Threads} (hstep : Threads.Step holder p.sender a sender) :
    Step p (.send a)
      ⟨sender, p.channel ++ (carried x y c (p.sender, a)).toList, p.receiver⟩
  | deliver {msg : Uint8Array} {rest : List Uint8Array} {receiver : Stream}
      (hchannel : p.channel = msg :: rest)
      (hstep : Stream.Step E x y p.receiver (.arrive msg) receiver) :
    Step p (.deliver msg) ⟨p.sender, rest, receiver⟩
  | receive {a : StreamStep} {receiver : Stream} (harrive : a.message = none)
      (hstep : Stream.Step E x y p.receiver a receiver) :
    Step p (.receive a) ⟨p.sender, p.channel, receiver⟩

/-- The step relation as a function. -/
def next (p : Conversation) : ConversationStep → Option Conversation
  | .send a => (p.sender.next holder a).map fun sender =>
      ⟨sender, p.channel ++ (carried x y c (p.sender, a)).toList, p.receiver⟩
  | .deliver msg =>
    match p.channel with
    | [] => none
    | first :: rest =>
      if first = msg then
        (p.receiver.next E x y (.arrive msg)).map fun receiver => ⟨p.sender, rest, receiver⟩
      else none
  | .receive a =>
    if a.message = none then
      (p.receiver.next E x y a).map fun receiver => ⟨p.sender, p.channel, receiver⟩
    else none

theorem step_of_next {p p' : Conversation} {a : ConversationStep}
    (h : p.next holder E x y c a = some p') : Step holder E x y c p a p' := by
  cases a with
  | send a =>
    obtain ⟨sender, hstep, rfl⟩ := Option.map_eq_some_iff.mp h
    exact .send hstep
  | deliver msg =>
    simp only [next] at h
    split at h
    · cases h
    · rename_i first rest hchannel
      split_ifs at h with hfirst
      subst hfirst
      obtain ⟨receiver, hstep, rfl⟩ := Option.map_eq_some_iff.mp h
      exact .deliver hchannel hstep
  | receive a =>
    simp only [next] at h
    split_ifs at h with harrive
    obtain ⟨receiver, hstep, rfl⟩ := Option.map_eq_some_iff.mp h
    exact .receive harrive hstep

/-- Nothing has been sent, and the channel has just been configured. -/
def Initial (p : Conversation) : Prop :=
  (∃ t, p.sender = { transporter := t }) ∧ p.channel = [] ∧ Stream.Initial x y p.receiver

/-- What has been sent and has not reached the guest. -/
def underWay (p : Conversation) : List Uint8Array :=
  (p.receiver.call.elim [] fun call => call.2.answer)
    ++ ((p.receiver.transporter.queue x y).getD []) ++ p.channel

end Conversation

/-- A run of both pages, with its steps. -/
abbrev ConversationRun := Run (Conversation.Initial x y) (Conversation.Step holder E x y c)

end Step

namespace ConversationRun

/-! ## The two pages -/

def sends : Conversation × ConversationStep → Option (Threads × ThreadsStep)
  | (p, .send a) => some (p.sender, a)
  | _ => none

def receives : Conversation × ConversationStep → Option (Stream × StreamStep)
  | (p, .deliver msg) => some (p.receiver, .arrive msg)
  | (p, .receive a) => some (p.receiver, a)
  | _ => none

/-- The steps of the page that sends. -/
def senderSteps (steps : List (Conversation × ConversationStep)) : List (Threads × ThreadsStep) :=
  steps.filterMap sends

/-- The steps of the page that receives. -/
def receiverSteps (steps : List (Conversation × ConversationStep)) : List (Stream × StreamStep) :=
  steps.filterMap receives

/-- What the channel has got. -/
def written (x y : String) (c : Nat) (steps : List (Conversation × ConversationStep)) :
    List Transmission :=
  (ThreadsRun.transmissionsTo y x (senderSteps steps)).filter fun t => t.channel = c

theorem senderSteps_snoc (steps : List (Conversation × ConversationStep))
    (z : Conversation × ConversationStep) :
    senderSteps (steps ++ [z]) = senderSteps steps ++ (sends z).toList := by
  cases h : sends z <;> simp [senderSteps, h]

theorem receiverSteps_snoc (steps : List (Conversation × ConversationStep))
    (z : Conversation × ConversationStep) :
    receiverSteps (steps ++ [z]) = receiverSteps steps ++ (receives z).toList := by
  cases h : receives z <;> simp [receiverSteps, h]

variable {holder : Map Nat Unit} {E : Emittery Nat} {x y : String} {c : Nat}
  {steps : List (Conversation × ConversationStep)} {p : Conversation}

theorem sender (hrun : ConversationRun holder E x y c steps p) :
    ThreadsRun holder (senderSteps steps) p.sender := by
  induction hrun with
  | start hinit => exact .start hinit.1
  | snoc _ hstep ih =>
    rw [senderSteps_snoc]
    cases hstep with
    | send hstep => exact ih.snoc hstep
    | deliver _ _ => exact (List.append_nil _).symm ▸ ih
    | receive _ _ => exact (List.append_nil _).symm ▸ ih

theorem receiver (hrun : ConversationRun holder E x y c steps p) :
    StreamRun E x y (receiverSteps steps) p.receiver := by
  induction hrun with
  | start hinit => exact .start hinit.2.2
  | snoc _ hstep ih =>
    rw [receiverSteps_snoc]
    cases hstep with
    | send _ => exact (List.append_nil _).symm ▸ ih
    | deliver _ hstep => exact ih.snoc hstep
    | receive _ hstep => exact ih.snoc hstep

theorem written_snoc (steps : List (Conversation × ConversationStep))
    (z : Conversation × ConversationStep) :
    (written x y c (steps ++ [z])).map Transmission.msg
      = (written x y c steps).map Transmission.msg ++ ((sends z).bind (carried x y c)).toList := by
  unfold written
  rw [senderSteps_snoc]
  cases sends z with
  | none => simp
  | some w =>
    rw [Option.toList_some, ThreadsRun.transmissionsTo_snoc, List.filter_append, List.map_append,
      Option.bind_some, carried]
    congr 1
    cases ThreadsRun.transmitted w with
    | none => rfl
    | some t =>
      by_cases hremote : t.remoteId = y
      · by_cases hlocal : t.localId = x
        · by_cases hchannel : t.channel = c <;> simp [Option.filter, hremote, hlocal, hchannel]
        · simp [Option.filter, hlocal]
      · simp [Option.filter, hremote]

/-- The channel delivers what it gets, in order. -/
theorem channel (hrun : ConversationRun holder E x y c steps p) :
    (written x y c steps).map Transmission.msg
      = StreamRun.arrivals (receiverSteps steps) ++ p.channel := by
  induction hrun with
  | start hinit =>
    rw [hinit.2.1]
    rfl
  | snoc _ hstep ih =>
    rw [written_snoc, receiverSteps_snoc, ih]
    cases hstep with
    | send hstep => simp [sends, receives]
    | deliver hchannel hstep =>
      simp [sends, receives, hchannel, StreamRun.arrivals_snoc, StreamStep.message]
    | receive harrive hstep => simp [sends, receives, StreamRun.arrivals_snoc, harrive]

/-! ## What is read -/

/-- The bytes that the calls report are those of the messages they return. -/
theorem reported_eq {steps : List (Stream × StreamStep)} {p : Stream}
    (hrun : StreamRun E x y steps p) (hfitting : StreamRun.Fitting steps) :
    (StreamRun.returns steps).flatMap Received.reported
      = ((StreamRun.finishes steps).map (·.2.2)).flatten := by
  have hfits := (StreamRun.fitting_iff hrun).mp hfitting
  rw [StreamRun.returns, List.flatMap_map, ← List.flatMap_def]
  apply List.flatMap_congr
  intro r hr
  exact bytes_copyOut (StreamRun.fits_of_finishes hrun r hr) (hfits r hr)

/-- What has been written has been read, or is under way, in the order in which it was written. -/
theorem read_eq (hrun : ConversationRun holder E x y c steps p)
    (hfitting : StreamRun.Fitting (receiverSteps steps)) :
    (StreamRun.returns (receiverSteps steps)).flatMap Received.reported ++ (p.underWay x y).flatten
      = ((written x y c steps).map Transmission.msg).flatten := by
  obtain ⟨msgs, hfifo⟩ := StreamRun.fifo hrun.receiver
  rw [reported_eq hrun.receiver hfitting, hrun.channel, hfifo.arrived, Conversation.underWay,
    hfifo.queue, Option.getD_some, ← List.flatten_append]
  simp only [List.append_assoc]

/-- In every run in which the calls of `unisockets_send` for the connection follow one another
and each message fits into the buffer of the call of `unisockets_recv` that returns it, the
bytes that have been read are the bytes that have been written, up to what is under way.  They
have been written in the order of the calls, each message once and as it lay in the memory
of its call; and a call that has returned, and knew the owner of its alias, has written. -/
theorem delivered (hrun : ConversationRun holder E x y c steps p)
    (hturn : ThreadsRun.InTurn y x (senderSteps steps))
    (hfitting : StreamRun.Fitting (receiverSteps steps)) :
    (StreamRun.returns (receiverSteps steps)).flatMap Received.reported ++ (p.underWay x y).flatten
        = ((written x y c steps).map Transmission.msg).flatten ∧
      (written x y c steps).Pairwise (fun t t' => t.requestId < t'.requestId) ∧
      (∀ t ∈ written x y c steps,
        t.msg ∈ (senderSteps steps).filterMap (ThreadsRun.message t.requestId)) ∧
      ∀ n value bind, p.sender.returned n = some value →
        (bind, some y) ∈ ThreadsRun.lookups (senderSteps steps) n → bind.connectorId = x →
        ∃ t ∈ ThreadsRun.transmissionsTo y x (senderSteps steps), t.requestId = n ∧
          value = t.msg.length := by
  refine ⟨read_eq hrun hfitting, ?_, ?_, ?_⟩
  · exact (ThreadsRun.transmissions_ordered hrun.sender hturn).sublist List.filter_sublist
  · intro t ht
    have hsent : t ∈ ThreadsRun.transmissions (senderSteps steps) :=
      (List.mem_filter.mp (List.mem_filter.mp ht).1).1
    exact ThreadsRun.message_of_transmission hrun.sender hsent
  · rintro n value bind hreturned hlookup rfl
    exact ThreadsRun.transmitted_of_returned hrun.sender hreturned hlookup

/-- A run with a property that can be evaluated. -/
theorem exists_along (holder : Map Nat Unit) (E : Emittery Nat) (x y : String) (c : Nat)
    (t : Transporter) {P : List (Conversation × ConversationStep) → Conversation → Prop}
    [∀ steps p, Decidable (P steps p)] (es : List ConversationStep)
    (h : ((Run.along (fun p a => (p.next holder E x y c a).map fun p' => (a, p')) es
      ⟨{ transporter := t }, [],
        { transporter := ({} : Transporter).dataChannelConfiguration x y 0 }⟩ []).any
        fun r => decide (P r.1 r.2)) = true) :
    ∃ steps p, ConversationRun holder E x y c steps p ∧ P steps p := by
  refine Run.exists_along (Conversation.Initial x y) ?_
    ⟨⟨t, rfl⟩, rfl, {}, 0, rfl, rfl, rfl⟩ es h
  intro p a b p' hnext
  obtain ⟨q, hq, he⟩ := Option.map_eq_some_iff.mp hnext
  cases he
  exact Conversation.step_of_next holder E x y c hq

/-- A second message after that of `sendSteps`. -/
def writing : List ThreadsStep :=
  ThreadsRun.sendSteps
    ++ [.send 1 1 (some [7, 8, 9]) ⟨0, 1⟩, .externalSend 2, .handle 1, .onmessage 1]

/-- Two messages are written, and the first one is read. -/
def twoMessages : List ConversationStep :=
  writing.map ConversationStep.send
    ++ [.receive (.call ⟨1, 4⟩), .receive .handle, .deliver [8, 9], .receive .emit,
      .receive .resume, .receive (.finish [0, 0, 0, 0, 0])]

theorem delivered_first : ∃ steps p,
    ConversationRun ThreadsRun.oneWorker Emittery.subscribed "x" "y" 0 steps p ∧
      (StreamRun.returns (receiverSteps steps)).flatMap Received.reported = [8, 9] ∧
      p.underWay "x" "y" = [[7]] ∧
      ((written "x" "y" 0 steps).map Transmission.msg).flatten = [8, 9] ++ [7] := by
  obtain ⟨steps, p, hrun, hread, hway, hturn, hfitting⟩ := exists_along ThreadsRun.oneWorker
    Emittery.subscribed "x" "y" 0 ThreadsRun.openPage (P := fun steps p =>
      (StreamRun.returns (receiverSteps steps)).flatMap Received.reported = [8, 9] ∧
        p.underWay "x" "y" = [[7]] ∧ ThreadsRun.InTurn "y" "x" (senderSteps steps) ∧
        StreamRun.Fitting (receiverSteps steps)) twoMessages (by decide +kernel)
  refine ⟨steps, p, hrun, hread, hway, ?_⟩
  rw [← (delivered hrun hturn hfitting).1, hread, hway]
  rfl

end ConversationRun

end Unisockets.Guest
