import Unisockets.JsStd.Emittery
import Unisockets.Transition.Run
import Unisockets.Transport.Transporter

/-!
# Receiving from one client

Messages arrive for a pair of ids, the channel of the pair is configured again, and any
number of calls of `recv` are under way.  A call takes the first message of the queue, or
it awaits the event of the next one, and when it goes on it takes a message off the
queue as well.  The emissions of an event call their listeners in the order in which they
were made, because each `emit` awaits a promise that is resolved already.

The number of its arrival tells a message from others with the same bytes: `queued`
are the messages of the queue with their numbers, and a call is resolved with a message
and its number.  No step depends on them.

As long as no call starts on a queue that belongs to another one, and no emission calls two
of them (`Undisturbed`), the messages that have arrived are those that have been returned and
the queue, in this order (`Balanced`).  So no message is lost or returned twice
(`shared_of_undisturbed`), and calls that are made one at a time return the messages in the
order of their arrival (`fifo_of_oneAtATime`).
-/

namespace Unisockets.Transport

open JsStd Transition

/-- A call of `recv` that has not returned. -/
inductive Receiver where
  | awaiting
  /-- Its listener has been called. -/
  | resolved (msg : Uint8Array × Nat)
  deriving DecidableEq, Repr

structure Receivers where
  transporter : Transporter
  /-- The messages whose listeners have yet to be called, with the listeners there were at
  `emit`. -/
  emissions : List ((Uint8Array × Nat) × List Nat) := []
  calls : Nat → Option Receiver := fun _ => none
  nextCall : Nat := 0
  queued : List (Uint8Array × Nat) := []
  arrived : Nat := 0

inductive ReceiversStep where
  /-- `queueAndEmitMessage`. -/
  | arrive (msg : Uint8Array)
  /-- The oldest emission calls its listeners. -/
  | emit
  /-- `dataChannelConfiguration`. -/
  | configure (channel : Nat)
  | recv
  /-- A call goes on after its await. -/
  | resume (call : Nat)
  /-- What else happens on the page. -/
  | page (t : Transporter)

/-- The listeners that are called are resolved. -/
def Receiver.resolve (called : List Nat) (msg : Uint8Array × Nat) (n : Nat) :
    Receiver → Receiver
  | awaiting => if n ∈ called then resolved msg else awaiting
  | resolved msg' => resolved msg'

section Run

variable (E : Emittery Nat) (remoteId localId : String)

namespace Receivers

def next (p : Receivers) : ReceiversStep → Option Receivers
  | .arrive msg =>
    match p.transporter.queueAndEmitMessage remoteId localId msg with
    | (t, .ok calls) => some { p with
        transporter := t
        emissions := p.emissions ++ [((msg, p.arrived), calls)]
        queued := if (p.transporter.queue remoteId localId).isSome then
          p.queued ++ [(msg, p.arrived)] else p.queued
        arrived := p.arrived + 1 }
    | (t, .error _) => some { p with transporter := t }
  | .emit =>
    match p.emissions with
    | [] => none
    | (msg, calls) :: emissions =>
      let key := getMessageKey remoteId localId
      let called := E.called calls (p.transporter.listeners key)
      some { p with
        transporter := p.transporter.off key called
        emissions := emissions
        calls := fun n => (p.calls n).map (Receiver.resolve called msg n) }
  | .configure channel =>
    some { p with
      transporter := p.transporter.dataChannelConfiguration remoteId localId channel }
  | .recv =>
    match p.transporter.recv remoteId localId p.nextCall with
    | (t, some _) => some { p with
        transporter := t
        queued := p.queued.tail
        nextCall := p.nextCall + 1 }
    | (t, none) => some { p with
        transporter := t
        calls := Function.update p.calls p.nextCall (some .awaiting)
        nextCall := p.nextCall + 1 }
  | .resume n =>
    match p.calls n with
    | some (.resolved _) =>
      match p.transporter.recvResolved remoteId localId with
      | .ok t => some { p with
          transporter := t
          queued := p.queued.tail
          calls := Function.update p.calls n none }
      | .error _ => some { p with calls := Function.update p.calls n none }
    | _ => none
  | .page t =>
    if t.channel remoteId localId = p.transporter.channel remoteId localId ∧
        t.queue remoteId localId = p.transporter.queue remoteId localId ∧
        t.listeners (getMessageKey remoteId localId) =
          p.transporter.listeners (getMessageKey remoteId localId) then
      some { p with transporter := t }
    else none

def Step (p : Receivers) (a : ReceiversStep) (p' : Receivers) : Prop :=
  p.next E remoteId localId a = some p'

/-- No message of the pair is queued, and nobody awaits one. -/
def Initial (p : Receivers) : Prop :=
  ∃ t : Transporter, (t.queue remoteId localId).getD [] = [] ∧
    t.listeners (getMessageKey remoteId localId) = [] ∧
    (t.channel remoteId localId ≠ none → t.queue remoteId localId ≠ none) ∧
    p = { transporter := t }

end Receivers

/-- A run of the receivers of a pair, with its steps. -/
abbrev ReceiversRun := Run (Receivers.Initial remoteId localId)
  (Receivers.Step E remoteId localId)

end Run

namespace ReceiversRun

section Record

variable (remoteId localId : String)

/-- A message that is queued and emitted. -/
def accepted : Receivers × ReceiversStep → Option Uint8Array
  | (p, .arrive msg) =>
    match (p.transporter.queueAndEmitMessage remoteId localId msg).2 with
    | .ok _ => some msg
    | .error _ => none
  | _ => none

/-- The messages that have arrived, in order. -/
def arrivals (steps : List (Receivers × ReceiversStep)) : List Uint8Array :=
  steps.filterMap (accepted remoteId localId)

/-- A call that returns, with its message and the number of the arrival. -/
def returned : Receivers × ReceiversStep → Option (Nat × Uint8Array × Nat)
  | (p, .recv) =>
    (p.transporter.recv remoteId localId p.nextCall).2.map fun msg =>
      (p.nextCall, msg, (p.queued.head?.map Prod.snd).getD p.arrived)
  | (p, .resume n) =>
    match p.calls n, p.transporter.recvResolved remoteId localId with
    | some (.resolved msg), .ok _ => some (n, msg)
    | _, _ => none
  | _ => none

/-- The calls that have returned, in order. -/
def returns (steps : List (Receivers × ReceiversStep)) : List (Nat × Uint8Array × Nat) :=
  steps.filterMap (returned remoteId localId)

/-- The calls share the messages: each is returned by one call at most, and is in the queue
if no call has returned it. -/
structure Shared (steps : List (Receivers × ReceiversStep)) (p : Receivers) : Prop where
  arrived : ∀ r ∈ returns remoteId localId steps,
    (arrivals remoteId localId steps)[r.2.2]? = some r.2.1
  once : ((returns remoteId localId steps).map fun r => r.2.2).Nodup
  kept : ∀ i msg, (arrivals remoteId localId steps)[i]? = some msg →
    i ∈ (returns remoteId localId steps).map (fun r => r.2.2) ∨ (msg, i) ∈ p.queued
  queue : (p.transporter.queue remoteId localId).getD [] = p.queued.map Prod.fst

/-- The calls return the messages in the order of their arrival. -/
structure Fifo (steps : List (Receivers × ReceiversStep)) (p : Receivers) : Prop where
  order : ((returns remoteId localId steps).map Prod.fst).Pairwise (· < ·)
  stream : (returns remoteId localId steps).map (fun r => r.2.1) <+:
    arrivals remoteId localId steps
  /-- If no call is outstanding, the rest is in the queue. -/
  rest : (∀ n, p.calls n = none) → (p.transporter.queue remoteId localId).getD [] =
    (arrivals remoteId localId steps).drop (returns remoteId localId steps).length

/-- `recv` is called while no other call is outstanding. -/
def OneAtATime : Receivers × ReceiversStep → Prop
  | (p, .recv) => ∀ n < p.nextCall, p.calls n = none
  | _ => True

/-- A call that finds a message is the only one, and an emission calls one at most. -/
def Undisturbed : Receivers × ReceiversStep → Prop
  | (p, .recv) => (p.transporter.queue remoteId localId).getD [] = [] ∨
      ∀ n < p.nextCall, p.calls n = none
  | (p, .emit) => ∀ emission ∈ p.emissions.head?, ∀ n ∈ emission.2, ∀ n' ∈ emission.2,
      p.calls n = some .awaiting → p.calls n' = some .awaiting → n = n'
  | _ => True

instance (x : Receivers × ReceiversStep) : Decidable (OneAtATime x) := by
  obtain ⟨p, a⟩ := x
  cases a with
  | recv => exact inferInstanceAs (Decidable (∀ n < p.nextCall, p.calls n = none))
  | _ => exact inferInstanceAs (Decidable True)

instance (x : Receivers × ReceiversStep) : Decidable (Undisturbed remoteId localId x) := by
  obtain ⟨p, a⟩ := x
  cases a with
  | recv =>
    exact inferInstanceAs (Decidable ((p.transporter.queue remoteId localId).getD [] = [] ∨
      ∀ n < p.nextCall, p.calls n = none))
  | emit =>
    exact inferInstanceAs (Decidable (∀ emission ∈ p.emissions.head?, ∀ n ∈ emission.2,
      ∀ n' ∈ emission.2, p.calls n = some .awaiting → p.calls n' = some .awaiting → n = n'))
  | _ => exact inferInstanceAs (Decidable True)

end Record

/-! ## What a run keeps -/

section Balanced

variable {E : Emittery Nat} {remoteId localId : String}
  {steps : List (Receivers × ReceiversStep)} {p p' : Receivers}

theorem arrivals_snoc (steps : List (Receivers × ReceiversStep)) (x : Receivers × ReceiversStep) :
    arrivals remoteId localId (steps ++ [x]) =
      arrivals remoteId localId steps ++ (accepted remoteId localId x).toList := by
  cases h : accepted remoteId localId x <;> simp [arrivals, h]

theorem returns_snoc (steps : List (Receivers × ReceiversStep)) (x : Receivers × ReceiversStep) :
    returns remoteId localId (steps ++ [x]) =
      returns remoteId localId steps ++ (returned remoteId localId x).toList := by
  cases h : returned remoteId localId x <;> simp [returns, h]

/-- The messages that have arrived are those that have been returned and the queue.  While a
call waits, the queue holds the messages whose emission will call it, and a call that is
resolved has the first message of the queue and is the only one. -/
structure Balanced (remoteId localId : String) (steps : List (Receivers × ReceiversStep))
    (p : Receivers) : Prop where
  ready : p.transporter.channel remoteId localId ≠ none →
    p.transporter.queue remoteId localId ≠ none
  queue : (p.transporter.queue remoteId localId).getD [] = p.queued.map Prod.fst
  arrived : p.arrived = (arrivals remoteId localId steps).length
  shared : (arrivals remoteId localId steps).zipIdx =
    (returns remoteId localId steps).map Prod.snd ++ p.queued
  listeners : ∀ n, n ∈ p.transporter.listeners (getMessageKey remoteId localId) ↔
    p.calls n = some .awaiting
  young : ∀ n, p.nextCall ≤ n → p.calls n = none
  emissions : ∀ emission ∈ p.emissions, (∀ n ∈ emission.2, n < p.nextCall) ∧
    emission.1.2 < p.arrived
  distinct : (p.emissions.map fun emission => emission.1.2).Nodup
  waiting : ∀ n, p.calls n = some .awaiting →
    p.queued = (p.emissions.filter fun emission => n ∈ emission.2).map Prod.fst
  resolved : ∀ n msg, p.calls n = some (.resolved msg) →
    p.queued.head? = some msg ∧ ∀ n', p.calls n' ≠ none → n' = n

theorem Balanced.initial (h : Receivers.Initial remoteId localId p) :
    Balanced remoteId localId [] p := by
  obtain ⟨t, hqueue, hlisteners, hready, rfl⟩ := h
  refine ⟨hready, hqueue, rfl, rfl, fun n => ?_, fun n _ => rfl, fun emission he => ?_,
    List.nodup_nil, fun n hn => ?_, fun n msg hn => ?_⟩
  · rw [hlisteners]
    simp
  · cases he
  · cases hn
  · cases hn

/-- The queue of the pair is there when a message is queued. -/
theorem Balanced.queue_eq_cons (h : Balanced remoteId localId steps p)
    {msg : Uint8Array × Nat} {rest : List (Uint8Array × Nat)} (hqueued : p.queued = msg :: rest) :
    p.transporter.queue remoteId localId = some (msg.1 :: rest.map Prod.fst) := by
  have hgetD := h.queue
  rw [hqueued] at hgetD
  cases hget : p.transporter.queue remoteId localId with
  | none =>
    rw [hget] at hgetD
    cases hgetD
  | some msgs =>
    rw [hget] at hgetD
    exact congrArg some hgetD

/-- No call is outstanding when the only one returns. -/
theorem idle_of_return {calls : Nat → Option Receiver} {n : Nat}
    (honly : ∀ n', calls n' ≠ none → n' = n) (n' : Nat) :
    Function.update calls n none n' = none := by
  by_cases hn : n' = n
  · rw [hn, Function.update_self]
  · rw [Function.update_of_ne hn]
    by_contra hne
    exact hn (honly n' hne)

/-- A step that takes no message in and returns none. -/
theorem Balanced.snoc (h : Balanced remoteId localId steps p) {x : Receivers × ReceiversStep}
    (haccepted : accepted remoteId localId x = none)
    (hreturned : returned remoteId localId x = none) :
    Balanced remoteId localId (steps ++ [x]) p := by
  have harrivals : arrivals remoteId localId (steps ++ [x]) = arrivals remoteId localId steps := by
    rw [arrivals_snoc, haccepted, Option.toList_none, List.append_nil]
  have hreturns : returns remoteId localId (steps ++ [x]) = returns remoteId localId steps := by
    rw [returns_snoc, hreturned, Option.toList_none, List.append_nil]
  exact ⟨h.ready, h.queue, harrivals ▸ h.arrived, harrivals ▸ hreturns ▸ h.shared, h.listeners,
    h.young, h.emissions, h.distinct, h.waiting, h.resolved⟩

/-- A message that arrives goes to the end of the queue. -/
theorem Balanced.arrive (h : Balanced remoteId localId steps p) {msg : Uint8Array}
    (hstep : Receivers.Step E remoteId localId p (.arrive msg) p') :
    Balanced remoteId localId (steps ++ [(p, .arrive msg)]) p' := by
  have hreturned : returned remoteId localId (p, .arrive msg) = none := rfl
  cases hchannel : p.transporter.channel remoteId localId with
  | none =>
    have haccepted : accepted remoteId localId (p, .arrive msg) = none := by
      simp [accepted, Transporter.queueAndEmitMessage, hchannel]
    simp only [Receivers.Step, Receivers.next, Transporter.queueAndEmitMessage, hchannel] at hstep
    obtain rfl := Option.some.inj hstep
    exact h.snoc haccepted hreturned
  | some channel =>
    obtain ⟨msgs, hqueue⟩ := Option.ne_none_iff_exists'.mp (h.ready (by simp [hchannel]))
    obtain ⟨queues, hqueues, hget⟩ := Option.bind_eq_some_iff.mp hqueue
    have haccepted : accepted remoteId localId (p, .arrive msg) = some msg := by
      simp [accepted, Transporter.queueAndEmitMessage, hchannel, hqueues]
    have hp' : p' = { p with
        transporter := p.transporter.addQueueMessages remoteId localId (msgs ++ [msg])
        emissions := p.emissions ++ [((msg, p.arrived),
          p.transporter.listeners (getMessageKey remoteId localId))]
        queued := p.queued ++ [(msg, p.arrived)]
        arrived := p.arrived + 1 } := by
      simp only [Receivers.Step, Receivers.next, Transporter.queueAndEmitMessage, hchannel,
        hqueues, hget, hqueue, Option.isSome_some, if_true] at hstep
      exact (Option.some.inj hstep).symm
    subst hp'
    have hmsgs := h.queue
    rw [hqueue, Option.getD_some] at hmsgs
    constructor
    · simp
    · simp [hmsgs]
    · simp [arrivals_snoc, haccepted, h.arrived]
    · rw [arrivals_snoc, returns_snoc, haccepted, hreturned, List.zipIdx_append, h.shared]
      simp [h.arrived]
    · exact h.listeners
    · exact h.young
    · intro emission hmem
      rcases List.mem_append.mp hmem with hmem | hmem
      · obtain ⟨hlt, htag⟩ := h.emissions emission hmem
        exact ⟨hlt, Nat.lt_succ_of_lt htag⟩
      · rw [List.mem_singleton.mp hmem]
        refine ⟨fun n hn => ?_, Nat.lt_succ_self _⟩
        by_contra hle
        have hnone := h.young n (Nat.le_of_not_lt hle)
        rw [(h.listeners n).mp hn] at hnone
        cases hnone
    · rw [List.map_append, List.nodup_append]
      refine ⟨h.distinct, List.nodup_singleton _, fun tag htag tag' htag' => ?_⟩
      obtain ⟨emission, hmem, rfl⟩ := List.mem_map.mp htag
      have hlt := (h.emissions emission hmem).2
      rw [List.map_singleton, List.mem_singleton] at htag'
      rw [htag']
      exact Nat.ne_of_lt hlt
    · intro n hn
      have hlistener := (h.listeners n).mpr hn
      simp only [List.filter_append, List.map_append]
      rw [← h.waiting n hn]
      simp [hlistener]
    · intro n msg' hn
      obtain ⟨hhead, honly⟩ := h.resolved n msg' hn
      refine ⟨?_, honly⟩
      rw [List.head?_append, hhead]
      rfl

/-- A call that waits for the first emission waits for the first message of the queue, and so
do all the others. -/
theorem Balanced.first_waiting (h : Balanced remoteId localId steps p) {msg : Uint8Array × Nat}
    {calls : List Nat} {rest : List ((Uint8Array × Nat) × List Nat)}
    (hemissions : p.emissions = (msg, calls) :: rest) {n : Nat} (hn : n ∈ calls)
    (hwaits : p.calls n = some .awaiting) : p.queued.head? = some msg ∧
      ∀ n', p.calls n' ≠ none → n' ∈ calls ∧ p.calls n' = some .awaiting := by
  have hqueued := h.waiting n hwaits
  rw [hemissions, List.filter_cons_of_pos (by simpa using hn), List.map_cons] at hqueued
  refine ⟨by rw [hqueued]; rfl, fun n' hn' => ?_⟩
  cases hcall : p.calls n' with
  | none => exact absurd hcall hn'
  | some receiver =>
    cases receiver with
    | resolved msg' =>
      have he : n = n' := (h.resolved n' msg' hcall).2 n (by simp [hwaits])
      rw [he, hcall] at hwaits
      cases hwaits
    | awaiting =>
      refine ⟨?_, rfl⟩
      -- a call that waits for a later emission only would not wait for this message
      by_contra hmem
      have hqueued' := h.waiting n' hcall
      rw [hqueued, hemissions, List.filter_cons_of_neg (by simpa using hmem)] at hqueued'
      have hin : msg ∈ (rest.filter fun emission => n' ∈ emission.2).map Prod.fst :=
        hqueued' ▸ List.mem_cons_self
      obtain ⟨other, hother, he⟩ := List.mem_map.mp hin
      have hdistinct := h.distinct
      rw [hemissions, List.map_cons, List.nodup_cons] at hdistinct
      refine hdistinct.1 (List.mem_map.mpr ⟨other, (List.mem_filter.mp hother).1, ?_⟩)
      rw [he]

/-- The calls whose listeners are called are resolved, and the others are what they were. -/
theorem map_resolve {calls : Nat → Option Receiver} {called : List Nat} {n : Nat}
    (hcalled : n ∈ called → calls n = some .awaiting) (msg : Uint8Array × Nat) :
    (calls n).map (Receiver.resolve called msg n) =
      if n ∈ called then some (.resolved msg) else calls n := by
  split_ifs with hn
  · rw [hcalled hn]
    simp [Receiver.resolve, hn]
  · cases hcall : calls n with
    | none => rfl
    | some receiver =>
      cases receiver with
      | awaiting => simp [Receiver.resolve, hn]
      | resolved msg' => rfl

/-- The oldest emission calls at most one call. -/
theorem Balanced.emit (h : Balanced remoteId localId steps p)
    (hundisturbed : Undisturbed remoteId localId (p, .emit))
    (hstep : Receivers.Step E remoteId localId p .emit p') :
    Balanced remoteId localId (steps ++ [(p, .emit)]) p' := by
  cases hemissions : p.emissions with
  | nil =>
    simp only [Receivers.Step, Receivers.next, hemissions] at hstep
    cases hstep
  | cons emission rest =>
    obtain ⟨msg, calls⟩ := emission
    simp only [Receivers.Step, Receivers.next, hemissions] at hstep
    obtain rfl := Option.some.inj hstep
    have hcalled : ∀ n, n ∈ E.called calls
        (p.transporter.listeners (getMessageKey remoteId localId)) ↔
          n ∈ calls ∧ p.calls n = some .awaiting := by
      intro n
      rw [E.mem_called, h.listeners]
    generalize E.called calls (p.transporter.listeners (getMessageKey remoteId localId)) = called
      at hcalled
    have honly : ∀ n ∈ called, p.queued.head? = some msg ∧ ∀ n', p.calls n' ≠ none → n' = n := by
      intro n hn
      obtain ⟨hmem, hwaits⟩ := (hcalled n).mp hn
      obtain ⟨hhead, hothers⟩ := h.first_waiting hemissions hmem hwaits
      refine ⟨hhead, fun n' hn' => ?_⟩
      obtain ⟨hmem', hwaits'⟩ := hothers n' hn'
      exact hundisturbed (msg, calls) (by rw [hemissions]; rfl) n' hmem' n hmem hwaits' hwaits
    have hcalls : ∀ n, (p.calls n).map (Receiver.resolve called msg n) =
        if n ∈ called then some (.resolved msg) else p.calls n :=
      fun n => map_resolve (fun hn => ((hcalled n).mp hn).2) msg
    have houtstanding : ∀ n, (p.calls n).map (Receiver.resolve called msg n) ≠ none →
        p.calls n ≠ none := fun n => mt Option.map_eq_none_iff.mpr
    refine Balanced.snoc ?_ rfl rfl
    constructor
    · exact h.ready
    · exact h.queue
    · exact h.arrived
    · exact h.shared
    · intro n
      rw [Transporter.listeners_off, List.mem_filter, h.listeners]
      dsimp only
      rw [hcalls]
      split_ifs with hn <;> simp [hn]
    · intro n hle
      have hnone := h.young n hle
      dsimp only
      rw [hnone]
      rfl
    · exact fun other hother => h.emissions other (hemissions ▸ List.mem_cons_of_mem _ hother)
    · have hdistinct := h.distinct
      rw [hemissions, List.map_cons, List.nodup_cons] at hdistinct
      exact hdistinct.2
    · intro n hn
      dsimp only at hn ⊢
      have hmem : n ∉ called := by
        intro hmem
        rw [hcalls, if_pos hmem] at hn
        cases hn
      rw [hcalls, if_neg hmem] at hn
      have hqueued := h.waiting n hn
      have hnot : n ∉ calls := fun hin => hmem ((hcalled n).mpr ⟨hin, hn⟩)
      rw [hemissions, List.filter_cons_of_neg (by simpa using hnot)] at hqueued
      exact hqueued
    · intro n msg' hn
      dsimp only at hn ⊢
      rw [hcalls] at hn
      split_ifs at hn with hmem
      · obtain rfl := Receiver.resolved.inj (Option.some.inj hn)
        obtain ⟨hhead, hothers⟩ := honly n hmem
        exact ⟨hhead, fun n' hn' => hothers n' (houtstanding n' hn')⟩
      · obtain ⟨hhead, hothers⟩ := h.resolved n msg' hn
        exact ⟨hhead, fun n' hn' => hothers n' (houtstanding n' hn')⟩

/-- The channel is configured again. -/
theorem Balanced.configure (h : Balanced remoteId localId steps p) {channel : Nat}
    (hstep : Receivers.Step E remoteId localId p (.configure channel) p') :
    Balanced remoteId localId (steps ++ [(p, .configure channel)]) p' := by
  obtain rfl := Option.some.inj hstep
  refine Balanced.snoc ?_ rfl rfl
  refine ⟨?_, ?_, h.arrived, h.shared, ?_, h.young, h.emissions, h.distinct, h.waiting,
    h.resolved⟩
  · simp [Transporter.queue_dataChannelConfiguration]
  · rw [Transporter.queue_dataChannelConfiguration, if_pos ⟨rfl, rfl⟩, Option.getD_some]
    exact h.queue
  · intro n
    rw [Transporter.mem_listeners, Transporter.asyncResolver_dataChannelConfiguration,
      ← Transporter.mem_listeners]
    exact h.listeners n

/-- What else happens on the page. -/
theorem Balanced.page (h : Balanced remoteId localId steps p) {t : Transporter}
    (hstep : Receivers.Step E remoteId localId p (.page t) p') :
    Balanced remoteId localId (steps ++ [(p, .page t)]) p' := by
  simp only [Receivers.Step, Receivers.next] at hstep
  split_ifs at hstep with hsame
  obtain ⟨hchannel, hqueue, hlisteners⟩ := hsame
  obtain rfl := Option.some.inj hstep
  refine Balanced.snoc ?_ rfl rfl
  refine ⟨?_, ?_, h.arrived, h.shared, ?_, h.young, h.emissions, h.distinct, h.waiting,
    h.resolved⟩
  · rw [hchannel, hqueue]
    exact h.ready
  · rw [hqueue]
    exact h.queue
  · rw [hlisteners]
    exact h.listeners

/-- A call takes the first message of the queue, or it waits. -/
theorem Balanced.recv (h : Balanced remoteId localId steps p)
    (hundisturbed : Undisturbed remoteId localId (p, .recv))
    (hstep : Receivers.Step E remoteId localId p .recv p') :
    Balanced remoteId localId (steps ++ [(p, .recv)]) p' := by
  cases hqueued : p.queued with
  | nil =>
    have hempty : (p.transporter.queue remoteId localId).getD [] = [] := by
      rw [h.queue, hqueued]
      rfl
    have hrecv : p.transporter.recv remoteId localId p.nextCall =
        ({ p.transporter with asyncResolver := p.transporter.asyncResolver ++
          [(getMessageKey remoteId localId, p.nextCall)] }, none) := by
      unfold Transporter.recv
      split
      · rename_i msg msgs hget
        rw [hget] at hempty
        cases hempty
      · rfl
    simp only [Receivers.Step, Receivers.next, hrecv] at hstep
    obtain rfl := Option.some.inj hstep
    refine Balanced.snoc ?_ rfl (by simp [returned, hrecv])
    refine ⟨h.ready, h.queue, h.arrived, h.shared, ?_, ?_, ?_, h.distinct, ?_, ?_⟩
    · intro n
      have hold := h.listeners n
      rw [Transporter.mem_listeners] at hold ⊢
      simp only [List.mem_append, List.mem_singleton, Prod.mk.injEq, true_and]
      rw [hold, Function.update_apply]
      split_ifs with hn
      · simp [hn]
      · simp [hn]
    · intro n hle
      have hle : p.nextCall + 1 ≤ n := hle
      show Function.update p.calls p.nextCall (some .awaiting) n = none
      rw [Function.update_of_ne (by omega)]
      exact h.young n (by omega)
    · intro emission hmem
      obtain ⟨hlt, htag⟩ := h.emissions emission hmem
      exact ⟨fun n hn => Nat.lt_succ_of_lt (hlt n hn), htag⟩
    · intro n hn
      dsimp only at hn ⊢
      by_cases hnew : n = p.nextCall
      · -- the emissions that are on their way have not seen this listener
        have hnone : (p.emissions.filter fun emission => n ∈ emission.2) = [] := by
          rw [List.filter_eq_nil_iff]
          intro emission hmem he
          have hlt := (h.emissions emission hmem).1 n (of_decide_eq_true he)
          omega
        rw [hnone, hqueued]
        rfl
      · rw [Function.update_of_ne hnew] at hn
        exact h.waiting n hn
    · intro n msg hn
      dsimp only at hn
      by_cases hnew : n = p.nextCall
      · rw [hnew, Function.update_self] at hn
        cases hn
      · rw [Function.update_of_ne hnew] at hn
        have hhead := (h.resolved n msg hn).1
        rw [hqueued] at hhead
        cases hhead
  | cons first rest =>
    obtain ⟨msg, tag⟩ := first
    have hqueue := h.queue_eq_cons hqueued
    have hrecv : p.transporter.recv remoteId localId p.nextCall =
        (p.transporter.addQueueMessages remoteId localId (rest.map Prod.fst), some msg) := by
      simp only [Transporter.recv, hqueue]
    have hidle : ∀ n, p.calls n = none := by
      intro n
      by_cases hn : n < p.nextCall
      · refine hundisturbed.resolve_left ?_ n hn
        rw [hqueue]
        exact List.cons_ne_nil _ _
      · exact h.young n (Nat.le_of_not_lt hn)
    have hreturned : returned remoteId localId (p, .recv) = some (p.nextCall, msg, tag) := by
      simp [returned, hrecv, hqueued]
    have haccepted : accepted remoteId localId (p, .recv) = none := rfl
    simp only [Receivers.Step, Receivers.next, hrecv] at hstep
    obtain rfl := Option.some.inj hstep
    constructor
    · simp
    · simp [hqueued]
    · rw [arrivals_snoc, haccepted, Option.toList_none, List.append_nil]
      exact h.arrived
    · rw [arrivals_snoc, returns_snoc, haccepted, hreturned, Option.toList_none, List.append_nil,
        h.shared, hqueued]
      simp
    · exact h.listeners
    · exact fun n hle => hidle n
    · intro emission hmem
      obtain ⟨hlt, htag⟩ := h.emissions emission hmem
      exact ⟨fun n hn => Nat.lt_succ_of_lt (hlt n hn), htag⟩
    · exact h.distinct
    · intro n hn
      rw [hidle n] at hn
      cases hn
    · intro n msg' hn
      rw [hidle n] at hn
      cases hn

/-- A call takes the message that it has been called with off the queue. -/
theorem Balanced.resume (h : Balanced remoteId localId steps p) {n : Nat}
    (hstep : Receivers.Step E remoteId localId p (.resume n) p') :
    Balanced remoteId localId (steps ++ [(p, .resume n)]) p' := by
  cases hcall : p.calls n with
  | none =>
    simp only [Receivers.Step, Receivers.next, hcall] at hstep
    cases hstep
  | some receiver =>
    cases receiver with
    | awaiting =>
      simp only [Receivers.Step, Receivers.next, hcall] at hstep
      cases hstep
    | resolved msg =>
      obtain ⟨hhead, honly⟩ := h.resolved n msg hcall
      obtain ⟨rest, hqueued⟩ := List.head?_eq_some_iff.mp hhead
      obtain ⟨queues, hqueues, hget⟩ := Option.bind_eq_some_iff.mp (h.queue_eq_cons hqueued)
      have hresolved : p.transporter.recvResolved remoteId localId =
          .ok (p.transporter.addQueueMessages remoteId localId (rest.map Prod.fst)) := by
        simp only [Transporter.recvResolved, hqueues, hget, List.tail_cons]
      have hreturned : returned remoteId localId (p, .resume n) = some (n, msg) := by
        simp only [returned, hcall, hresolved]
      have haccepted : accepted remoteId localId (p, .resume n) = none := rfl
      have hidle := idle_of_return honly
      simp only [Receivers.Step, Receivers.next, hcall, hresolved] at hstep
      obtain rfl := Option.some.inj hstep
      constructor
      · simp
      · simp [hqueued]
      · rw [arrivals_snoc, haccepted, Option.toList_none, List.append_nil]
        exact h.arrived
      · rw [arrivals_snoc, returns_snoc, haccepted, hreturned, Option.toList_none,
          List.append_nil, h.shared, hqueued]
        simp
      · intro n'
        refine (h.listeners n').trans (iff_of_false (fun hn => ?_) fun hn => ?_)
        · obtain rfl := honly n' (by simp [hn])
          rw [hcall] at hn
          cases hn
        · dsimp only at hn
          rw [hidle n'] at hn
          cases hn
      · exact fun n' _ => hidle n'
      · exact h.emissions
      · exact h.distinct
      · intro n' hn
        dsimp only at hn
        rw [hidle n'] at hn
        cases hn
      · intro n' msg' hn
        dsimp only at hn
        rw [hidle n'] at hn
        cases hn

/-- The run lemma. -/
theorem balanced (hrun : ReceiversRun E remoteId localId steps p)
    (hundisturbed : ∀ x ∈ steps, Undisturbed remoteId localId x) :
    Balanced remoteId localId steps p := by
  induction hrun with
  | start hinit => exact .initial hinit
  | @snoc steps p p' a hrun hstep ih =>
    obtain ⟨hbefore, hlast⟩ := List.forall_mem_append.mp hundisturbed
    have h := ih hbefore
    have hlast := hlast _ List.mem_cons_self
    cases a with
    | arrive msg => exact h.arrive hstep
    | emit => exact h.emit hlast hstep
    | configure channel => exact h.configure hstep
    | recv => exact h.recv hlast hstep
    | resume n => exact h.resume hstep
    | page t => exact h.page hstep

/-! ## What the calls return -/

/-- The calls share the messages if they are undisturbed. -/
theorem shared_of_undisturbed (hrun : ReceiversRun E remoteId localId steps p)
    (hundisturbed : ∀ x ∈ steps, Undisturbed remoteId localId x) :
    Shared remoteId localId steps p := by
  have h := balanced hrun hundisturbed
  have htags : (((returns remoteId localId steps).map Prod.snd ++ p.queued).map
      Prod.snd).Nodup := by
    rw [← h.shared, List.zipIdx_map_snd]
    exact List.nodup_range'
  constructor
  · intro r hr
    have hmem : r.2 ∈ (arrivals remoteId localId steps).zipIdx := by
      rw [h.shared]
      exact List.mem_append_left _ (List.mem_map_of_mem hr)
    exact List.mk_mem_zipIdx_iff_getElem?.mp hmem
  · rw [List.map_append, List.map_map] at htags
    exact (List.nodup_append.mp htags).1
  · intro i msg hget
    have hmem : (msg, i) ∈ (arrivals remoteId localId steps).zipIdx :=
      List.mk_mem_zipIdx_iff_getElem?.mpr hget
    rw [h.shared, List.mem_append] at hmem
    refine hmem.imp_left fun hreturned => ?_
    obtain ⟨r, hr, he⟩ := List.mem_map.mp hreturned
    exact List.mem_map.mpr ⟨r, hr, by rw [he]⟩
  · exact h.queue

/-- What a run keeps in which the calls are made one at a time: the calls return in the order
in which they are made. -/
structure Ordered (remoteId localId : String) (steps : List (Receivers × ReceiversStep))
    (p : Receivers) : Prop where
  young : ∀ n, p.nextCall ≤ n → p.calls n = none
  one : ∀ n n', p.calls n ≠ none → p.calls n' ≠ none → n = n'
  returned : ∀ r ∈ returns remoteId localId steps, r.1 < p.nextCall
  outstanding : ∀ n, p.calls n ≠ none → ∀ r ∈ returns remoteId localId steps, r.1 < n
  order : ((returns remoteId localId steps).map Prod.fst).Pairwise (· < ·)

/-- A step after which the same calls are outstanding, and no other one has returned. -/
theorem Ordered.snoc (h : Ordered remoteId localId steps p) {x : Receivers × ReceiversStep}
    (hreturned : ReceiversRun.returned remoteId localId x = none)
    (hcalls : ∀ n, p'.calls n = none ↔ p.calls n = none) (hnext : p'.nextCall = p.nextCall) :
    Ordered remoteId localId (steps ++ [x]) p' := by
  have hreturns : returns remoteId localId (steps ++ [x]) = returns remoteId localId steps := by
    rw [returns_snoc, hreturned, Option.toList_none, List.append_nil]
  have hne : ∀ n, p'.calls n ≠ none → p.calls n ≠ none := fun n => mt (hcalls n).mpr
  constructor
  · intro n hle
    rw [hcalls]
    exact h.young n (hnext ▸ hle)
  · exact fun n n' hn hn' => h.one n n' (hne n hn) (hne n' hn')
  · rw [hreturns, hnext]
    exact h.returned
  · rw [hreturns]
    exact fun n hn => h.outstanding n (hne n hn)
  · rw [hreturns]
    exact h.order

/-- A call returns, and no other one is outstanding. -/
theorem Ordered.return (h : Ordered remoteId localId steps p) {x : Receivers × ReceiversStep}
    {r : Nat × Uint8Array × Nat} (hreturned : ReceiversRun.returned remoteId localId x = some r)
    (hcalls : ∀ n, p'.calls n = none) (hlast : ∀ r' ∈ returns remoteId localId steps, r'.1 < r.1)
    (hnew : r.1 < p'.nextCall) : Ordered remoteId localId (steps ++ [x]) p' := by
  have hreturns : returns remoteId localId (steps ++ [x]) =
      returns remoteId localId steps ++ [r] := by
    rw [returns_snoc, hreturned]
    rfl
  constructor
  · exact fun n _ => hcalls n
  · exact fun n n' hn => absurd (hcalls n) hn
  · rw [hreturns]
    refine List.forall_mem_append.mpr ⟨fun r' hr' => ?_, List.forall_mem_singleton.mpr hnew⟩
    exact Nat.lt_trans (hlast r' hr') hnew
  · exact fun n hn => absurd (hcalls n) hn
  · rw [hreturns, List.map_append, List.pairwise_append]
    refine ⟨h.order, List.pairwise_singleton _ _, fun n hn n' hn' => ?_⟩
    obtain ⟨r', hr', rfl⟩ := List.mem_map.mp hn
    rw [List.map_singleton, List.mem_singleton] at hn'
    rw [hn']
    exact hlast r' hr'

theorem Ordered.step (h : Ordered remoteId localId steps p) {a : ReceiversStep}
    (hone : OneAtATime (p, a)) (hstep : Receivers.Step E remoteId localId p a p') :
    Ordered remoteId localId (steps ++ [(p, a)]) p' := by
  cases a with
  | arrive msg =>
    simp only [Receivers.Step, Receivers.next] at hstep
    split at hstep
    · obtain rfl := Option.some.inj hstep
      exact h.snoc rfl (fun _ => Iff.rfl) rfl
    · obtain rfl := Option.some.inj hstep
      exact h.snoc rfl (fun _ => Iff.rfl) rfl
  | emit =>
    simp only [Receivers.Step, Receivers.next] at hstep
    split at hstep
    · cases hstep
    · obtain rfl := Option.some.inj hstep
      exact h.snoc rfl (fun n => Option.map_eq_none_iff) rfl
  | configure channel =>
    obtain rfl := Option.some.inj hstep
    exact h.snoc rfl (fun _ => Iff.rfl) rfl
  | page t =>
    simp only [Receivers.Step, Receivers.next] at hstep
    split_ifs at hstep
    obtain rfl := Option.some.inj hstep
    exact h.snoc rfl (fun _ => Iff.rfl) rfl
  | recv =>
    have hidle : ∀ n, p.calls n = none := by
      intro n
      by_cases hn : n < p.nextCall
      · exact hone n hn
      · exact h.young n (Nat.le_of_not_lt hn)
    simp only [Receivers.Step, Receivers.next] at hstep
    split at hstep
    · rename_i t msg hrecv
      obtain rfl := Option.some.inj hstep
      have hreturned : ReceiversRun.returned remoteId localId (p, .recv) =
          some (p.nextCall, msg, (p.queued.head?.map Prod.snd).getD p.arrived) := by
        simp [ReceiversRun.returned, hrecv]
      exact h.return hreturned hidle h.returned (Nat.lt_succ_self _)
    · rename_i t hrecv
      obtain rfl := Option.some.inj hstep
      have hreturns : returns remoteId localId (steps ++ [(p, .recv)]) =
          returns remoteId localId steps := by
        simp [returns_snoc, ReceiversRun.returned, hrecv]
      have hnew : ∀ n, Function.update p.calls p.nextCall (some .awaiting) n ≠ none →
          n = p.nextCall := by
        intro n hn
        by_contra hne
        rw [Function.update_of_ne hne] at hn
        exact hn (hidle n)
      constructor
      · intro n hle
        by_contra hn
        have he := hnew n hn
        have hle : p.nextCall + 1 ≤ n := hle
        omega
      · exact fun n n' hn hn' => (hnew n hn).trans (hnew n' hn').symm
      · rw [hreturns]
        exact fun r hr => Nat.lt_succ_of_lt (h.returned r hr)
      · rw [hreturns]
        intro n hn r hr
        rw [hnew n hn]
        exact h.returned r hr
      · rw [hreturns]
        exact h.order
  | resume n =>
    simp only [Receivers.Step, Receivers.next] at hstep
    split at hstep
    · rename_i msg hcall
      have houtstanding : p.calls n ≠ none := by simp [hcall]
      have hidle := idle_of_return fun n' hne => h.one n' n hne houtstanding
      split at hstep
      · rename_i t hresolved
        obtain rfl := Option.some.inj hstep
        have hreturned : ReceiversRun.returned remoteId localId (p, .resume n) =
            some (n, msg) := by simp only [ReceiversRun.returned, hcall, hresolved]
        refine h.return hreturned hidle (h.outstanding n houtstanding) ?_
        by_contra hle
        exact houtstanding (h.young n (Nat.le_of_not_lt hle))
      · rename_i e hresolved
        obtain rfl := Option.some.inj hstep
        have hreturns : returns remoteId localId (steps ++ [(p, .resume n)]) =
            returns remoteId localId steps := by
          simp [returns_snoc, ReceiversRun.returned, hcall, hresolved]
        exact ⟨fun n' _ => hidle n', fun n' _ hn => absurd (hidle n') hn,
          hreturns ▸ h.returned, fun n' hn => absurd (hidle n') hn, hreturns ▸ h.order⟩
    · cases hstep

theorem ordered (hrun : ReceiversRun E remoteId localId steps p)
    (hone : ∀ x ∈ steps, OneAtATime x) : Ordered remoteId localId steps p := by
  induction hrun with
  | start hinit =>
    obtain ⟨t, -, -, -, rfl⟩ := hinit
    refine ⟨fun n _ => rfl, fun n n' hn => absurd rfl hn, fun r hr => ?_,
      fun n hn => absurd rfl hn, List.Pairwise.nil⟩
    cases hr
  | @snoc steps p p' a hrun hstep ih =>
    obtain ⟨hbefore, hlast⟩ := List.forall_mem_append.mp hone
    exact (ih hbefore).step (hlast _ List.mem_cons_self) hstep

/-- Calls that are made one at a time are undisturbed. -/
theorem undisturbed_of_oneAtATime (hrun : ReceiversRun E remoteId localId steps p)
    (hone : ∀ x ∈ steps, OneAtATime x) : ∀ x ∈ steps, Undisturbed remoteId localId x := by
  rintro ⟨q, a⟩ hx
  cases a with
  | recv => exact .inr (hone _ hx)
  | emit =>
    obtain ⟨before, q', hsub, hbefore, -⟩ := hrun.of_mem hx
    have h := ordered hbefore fun y hy => hone y (hsub hy)
    intro emission _ n _ n' _ hn hn'
    exact h.one n n' (by simp [hn]) (by simp [hn'])
  | _ => trivial

/-- Calls that are made one at a time return the messages first in, first out. -/
theorem fifo_of_oneAtATime (hrun : ReceiversRun E remoteId localId steps p)
    (hone : ∀ x ∈ steps, OneAtATime x) : Fifo remoteId localId steps p := by
  have h := balanced hrun (undisturbed_of_oneAtATime hrun hone)
  have harrivals : arrivals remoteId localId steps =
      (returns remoteId localId steps).map (fun r => r.2.1) ++ p.queued.map Prod.fst := by
    rw [← List.zipIdx_map_fst 0 (arrivals remoteId localId steps), h.shared, List.map_append,
      List.map_map]
    rfl
  refine ⟨(ordered hrun hone).order, ?_, fun _ => ?_⟩
  · rw [harrivals]
    exact List.prefix_append _ _
  · rw [h.queue, harrivals, List.drop_left' (List.length_map _)]

end Balanced

/-- A run with a property that can be evaluated. -/
theorem exists_along (E : Emittery Nat) (remoteId localId : String)
    {P : List (Receivers × ReceiversStep) → Receivers → Prop} [∀ steps p, Decidable (P steps p)]
    (es : List ReceiversStep)
    (h : ((Run.along (fun p a => (p.next E remoteId localId a).map fun p' => (a, p')) es
      { transporter := {} } []).any fun r => decide (P r.1 r.2)) = true) :
    ∃ steps p, ReceiversRun E remoteId localId steps p ∧ P steps p := by
  refine Run.exists_along (Receivers.Initial remoteId localId) ?_
    ⟨{}, rfl, rfl, fun hne => absurd rfl hne, rfl⟩ es h
  intro p a b p' hnext
  obtain ⟨q, hq, he⟩ := Option.map_eq_some_iff.mp hnext
  cases he
  exact hq

/-- A message that is queued, and two that come while a call waits. -/
def oneAtATimeSteps : List ReceiversStep :=
  [.configure 0, .arrive [1], .recv, .recv, .emit, .arrive [2], .configure 1, .arrive [3], .emit,
    .resume 1, .emit]

theorem fifo_of_oneAtATime_run : ∃ steps p, ReceiversRun Emittery.subscribed "y" "x" steps p ∧
    returns "y" "x" steps = [(0, [1], 0), (1, [2], 1)] ∧ Fifo "y" "x" steps p := by
  obtain ⟨steps, p, hrun, hreturns, hone⟩ := exists_along Emittery.subscribed "y" "x"
    (P := fun steps _ => returns "y" "x" steps = [(0, [1], 0), (1, [2], 1)] ∧
      ∀ x ∈ steps, OneAtATime x) oneAtATimeSteps (by decide +kernel)
  exact ⟨steps, p, hrun, hreturns, fifo_of_oneAtATime hrun hone⟩

theorem shared_of_undisturbed_run : ∃ steps p, ReceiversRun Emittery.subscribed "y" "x" steps p ∧
    p.calls 0 = some .awaiting ∧ p.calls 1 = some .awaiting ∧ Shared "y" "x" steps p := by
  obtain ⟨steps, p, hrun, hfirst, hsecond, hundisturbed⟩ := exists_along Emittery.subscribed
    "y" "x" (P := fun steps p => p.calls 0 = some .awaiting ∧ p.calls 1 = some .awaiting ∧
      ∀ x ∈ steps, Undisturbed "y" "x" x) [.configure 0, .recv, .recv] (by decide +kernel)
  exact ⟨steps, p, hrun, hfirst, hsecond, shared_of_undisturbed hrun hundisturbed⟩

/-- Two calls wait, and both return the next message. -/
theorem message_returned_twice : ¬∀ (E : Emittery Nat) remoteId localId steps p,
    ReceiversRun E remoteId localId steps p → Shared remoteId localId steps p := by
  intro h
  obtain ⟨steps, p, hrun, hreturns⟩ := exists_along Emittery.subscribed "y" "x"
    (P := fun steps _ => returns "y" "x" steps = [(0, [1], 0), (1, [1], 0)])
    [.configure 0, .recv, .recv, .arrive [1], .emit, .resume 0, .resume 1] (by decide +kernel)
  have honce := (h _ _ _ _ _ hrun).once
  rw [hreturns] at honce
  simp at honce

end ReceiversRun

end Unisockets.Transport
