import Unisockets.JsStd.Emittery
import Unisockets.Transition.Refinement
import Unisockets.Transport.PassiveSteps

/-!
# Sending to any client

Any number of calls of `send` are under way while the tables of the transporter change.  A
call that finds its channel open gives its message to it.  Otherwise it awaits the event of its
pair, which `onopen` emits, and looks at the channel again when it goes on.  Between the opening
of a channel and its `onopen`, between `emit` and the listeners, and between a listener and its
call anything may happen.

No wake-up is lost (`Senders.Alert`): while a call waits for a channel that is open, the `onopen`
of the channel is to come, or an emission that will call its listener is.  So every order of what
is under way comes to an end, with the message of the call on its channel
(`SendersRun.sends_wake`).  A call gives its message to a channel once, unless it throws
(`SendersRun.sent_once`).
-/

namespace Unisockets.Transport

open JsStd Transition

/-- A call of `send` that has not returned. -/
structure Sender where
  remoteId : String
  localId : String
  msg : Uint8Array
  deriving DecidableEq, Repr

/-- The event that a call awaits. -/
def Sender.key (call : Sender) : String := getChannelKey call.remoteId call.localId

/-- `send` of a channel, with the number of the call. -/
structure Transmitted where
  call : Nat
  sender : Sender
  channel : Nat
  deriving DecidableEq, Repr

structure Senders where
  page : Working := {}
  /-- The channels that have opened and whose `onopen` is to come. -/
  opened : List Nat := []
  /-- The events whose listeners are to be called, with those there were at `emit`. -/
  emissions : List (String × List Nat) := []
  /-- The calls that are to go on. -/
  resolved : List Nat := []
  calls : Nat → Option Sender := fun _ => none
  nextCall : Nat := 0
  /-- What the channels have been given. -/
  sent : List Transmitted := []

inductive SendersStep where
  /-- What else happens on the page. -/
  | page (a : WorkingStep)
  /-- The listeners of a message have been called. -/
  | received (remoteId localId : String) (calls : List Nat)
  /-- The browser opens a channel. -/
  | opening (channel : Nat)
  | onopen (channel : Nat)
  /-- The oldest emission calls its listeners. -/
  | emit
  | send (remoteId localId : String) (msg : Uint8Array)
  /-- A call goes on after its await. -/
  | resume (call : Nat)
  deriving DecidableEq, Repr

namespace Senders

def setTransporter (p : Senders) (t : Transporter) : Senders :=
  { p with page := { p.page with transporter := t } }

/-- A call awaits the event of its channel. -/
def await (p : Senders) (n : Nat) (call : Sender) : Senders :=
  { p.setTransporter (p.page.transporter.once call.key n) with
    calls := Function.update p.calls n (some call) }

/-- `channel!.send(msg)`. -/
def transmit (p : Senders) (n : Nat) (call : Sender) (channel : Nat) : Senders :=
  { p with sent := p.sent ++ [⟨n, call, channel⟩] }

/-- A call goes on. -/
def take (p : Senders) (n : Nat) : Senders :=
  { p with
    resolved := p.resolved.erase n
    calls := Function.update p.calls n none }

/-- The loop of `send`, behind its await. -/
def look (p : Senders) (n : Nat) (call : Sender) : Senders :=
  match p.page.transporter.openChannelResumed call.remoteId call.localId with
  | .ok (some channel) => p.transmit n call channel
  | .ok none => p.await n call
  | .error _ => p

section Next

variable (E : Emittery Nat)

def next (p : Senders) : SendersStep → Option Senders
  | .page a =>
    if a.wakes then none else (p.page.next a).map fun page => { p with page := page }
  | .received remoteId localId calls =>
    some (p.setTransporter (p.page.transporter.off (getMessageKey remoteId localId) calls))
  | .opening channel =>
    match p.page.transporter.dataChannels.get channel with
    | some c =>
      if c.readyState = .connecting then
        some { p.setTransporter (p.page.transporter.setDataChannel channel fun c =>
            { c with readyState := .open }) with
          opened := p.opened ++ [channel] }
      else none
    | none => none
  | .onopen channel =>
    if channel ∈ p.opened then
      let q := { p with opened := p.opened.erase channel }
      match (p.page.transporter.dataChannels.get channel).bind (·.handlers) with
      | some (remoteId, localId) =>
        let key := getChannelKey remoteId localId
        some { q with emissions := p.emissions ++ [(key, p.page.transporter.listeners key)] }
      | none => some q
    else none
  | .emit =>
    match p.emissions with
    | [] => none
    | (key, calls) :: emissions =>
      let called := E.called calls (p.page.transporter.listeners key)
      some { p.setTransporter (p.page.transporter.off key called) with
        emissions := emissions
        resolved := p.resolved ++ called }
  | .send remoteId localId msg =>
    let q := { p with nextCall := p.nextCall + 1 }
    match p.page.transporter.openChannel remoteId localId with
    | some channel => some (q.transmit p.nextCall ⟨remoteId, localId, msg⟩ channel)
    | none => some (q.await p.nextCall ⟨remoteId, localId, msg⟩)
  | .resume n =>
    if n ∈ p.resolved then (p.calls n).map fun call => (p.take n).look n call else none

def Step (p : Senders) (a : SendersStep) (p' : Senders) : Prop := p.next E a = some p'

end Next

end Senders

/-- A run of a page, with the calls of `send` that are made. -/
abbrev SendersRun (E : Emittery Nat) := Run (· = ({} : Senders)) (Senders.Step E)

/-! ## No wake-up is lost -/

namespace Senders

/-- Every call that has not returned awaits the event of its pair or goes on.  If its channel is
open, the event is on its way to it. -/
structure Alert (p : Senders) : Prop where
  configured : p.page.transporter.Configured p.page.fresh
  waits : ∀ n call, p.calls n = some call →
    n ∈ p.page.transporter.listeners call.key ∨ n ∈ p.resolved
  listening : ∀ remoteId localId,
    ∀ n ∈ p.page.transporter.listeners (getChannelKey remoteId localId),
      n ∉ p.resolved ∧ ∃ call, p.calls n = some call ∧ call.key = getChannelKey remoteId localId
  going : ∀ n ∈ p.resolved, ∃ call, p.calls n = some call
  once : p.resolved.Nodup ∧ ∀ remoteId localId,
    (p.page.transporter.listeners (getChannelKey remoteId localId)).Nodup
  emitted : ∀ e ∈ p.emissions, (∃ remoteId localId, e.1 = getChannelKey remoteId localId) ∧
    e.2.Nodup
  young : ∀ n, p.nextCall ≤ n → p.calls n = none
  woken : ∀ n call channel, p.calls n = some call →
    n ∈ p.page.transporter.listeners call.key →
    p.page.transporter.openChannel call.remoteId call.localId = some channel →
      channel ∈ p.opened ∨ ∃ e ∈ p.emissions, e.1 = call.key ∧ n ∈ e.2

namespace Alert

variable {p : Senders} {n : Nat} {call : Sender}

theorem init : Alert {} := by
  constructor
  · intro r l channel h
    cases h
  · intro n call h
    cases h
  · intro r l n h
    cases h
  · exact fun n h => absurd h List.not_mem_nil
  · exact ⟨List.nodup_nil, fun r l => List.nodup_nil⟩
  · exact fun e h => absurd h List.not_mem_nil
  · exact fun n _ => rfl
  · intro n call channel h
    cases h

theorem page (h : Alert p) {page : Working}
    (hpassive : p.page.transporter.Passive p.page.fresh page.fresh page.transporter) :
    Alert { p with page := page } := by
  constructor
  · exact hpassive.configured h.configured
  · intro n call hcall
    show n ∈ page.transporter.listeners (getChannelKey call.remoteId call.localId) ∨ _
    rw [hpassive.listeners]
    exact h.waits n call hcall
  · intro r l n hn
    rw [hpassive.listeners] at hn
    exact h.listening r l n hn
  · exact h.going
  · refine ⟨h.once.1, fun r l => ?_⟩
    rw [hpassive.listeners]
    exact h.once.2 r l
  · exact h.emitted
  · exact h.young
  · intro n call channel hcall hn hopen
    have hn : n ∈ page.transporter.listeners (getChannelKey call.remoteId call.localId) := hn
    rw [hpassive.listeners] at hn
    exact h.woken n call channel hcall hn (hpassive.closed h.configured _ _ _ hopen)

/-- The `onopen` of a channel that opens is to come. -/
theorem opening (h : Alert p) (channel : Nat) :
    Alert { p.setTransporter (p.page.transporter.setDataChannel channel fun c =>
        { c with readyState := .open }) with
      opened := p.opened ++ [channel] } := by
  have hlisteners : ∀ key, (p.page.transporter.setDataChannel channel fun c =>
      { c with readyState := .open }).listeners key = p.page.transporter.listeners key := by
    intro key
    rw [Transporter.listeners, Transporter.asyncResolver_setDataChannel, Transporter.listeners]
  constructor
  · intro r l k hk
    rw [setTransporter, Transporter.channel, Transporter.channels_setDataChannel] at hk
    obtain ⟨hlt, c, hc, hpair⟩ := h.configured r l k hk
    refine ⟨hlt, ?_⟩
    rw [setTransporter, Transporter.get_setDataChannel, hc]
    split_ifs
    · exact ⟨_, rfl, hpair⟩
    · exact ⟨c, rfl, hpair⟩
  · intro n call hcall
    rw [setTransporter, hlisteners]
    exact h.waits n call hcall
  · intro r l n hn
    rw [setTransporter, hlisteners] at hn
    exact h.listening r l n hn
  · exact h.going
  · refine ⟨h.once.1, fun r l => ?_⟩
    rw [setTransporter, hlisteners]
    exact h.once.2 r l
  · exact h.emitted
  · exact h.young
  · intro n call k hcall hn hopen
    rw [setTransporter, hlisteners] at hn
    rw [setTransporter, Transporter.openChannel_eq_some, Transporter.channel,
      Transporter.channels_setDataChannel, Transporter.get_setDataChannel] at hopen
    obtain ⟨hk, c, hc, hready⟩ := hopen
    split_ifs at hc with heq
    · exact .inl (List.mem_append_right _ (List.mem_singleton.mpr heq))
    · have hopen := Transporter.openChannel_eq_some.mpr ⟨hk, c, hc, hready⟩
      exact (h.woken n call k hcall hn hopen).imp_left (List.mem_append_left _)

/-- The event is emitted that the calls of the channel await. -/
theorem onopen (h : Alert p) (channel : Nat) {emissions : List (String × List Nat)}
    (hkept : p.emissions ⊆ emissions)
    (hemitted : ∀ e ∈ emissions, e ∈ p.emissions ∨ ∃ remoteId localId,
      e = (getChannelKey remoteId localId,
        p.page.transporter.listeners (getChannelKey remoteId localId)))
    (hevent : ∀ remoteId localId,
      (p.page.transporter.dataChannels.get channel).bind (·.handlers) = some (remoteId, localId) →
        (getChannelKey remoteId localId,
          p.page.transporter.listeners (getChannelKey remoteId localId)) ∈ emissions) :
    Alert { p with
      opened := p.opened.erase channel
      emissions := emissions } := by
  refine ⟨h.configured, h.waits, h.listening, h.going, h.once, ?_, h.young, ?_⟩
  · intro e he
    rcases hemitted e he with he | ⟨r, l, rfl⟩
    · exact h.emitted e he
    · exact ⟨⟨r, l, rfl⟩, h.once.2 r l⟩
  · intro n call k hcall hn hopen
    rcases h.woken n call k hcall hn hopen with hk | ⟨e, he, hkey, hmem⟩
    · by_cases heq : k = channel
      · obtain ⟨-, c, hc, hpair⟩ :=
          h.configured _ _ k (Transporter.openChannel_eq_some.mp hopen).1
        rw [heq] at hc
        exact .inr ⟨_, hevent call.remoteId call.localId (by rw [hc]; exact hpair), rfl, hn⟩
      · exact .inl ((List.mem_erase_of_ne heq).mpr hk)
    · exact .inr ⟨e, hkept he, hkey, hmem⟩

variable (E : Emittery Nat)

/-- The listeners of an event are called. -/
theorem emit (h : Alert p) {key : String} {calls : List Nat}
    {emissions : List (String × List Nat)} (hemissions : p.emissions = (key, calls) :: emissions) :
    Alert { p.setTransporter (p.page.transporter.off key
        (E.called calls (p.page.transporter.listeners key))) with
      emissions := emissions
      resolved := p.resolved ++ E.called calls (p.page.transporter.listeners key) } := by
  obtain ⟨⟨r₀, l₀, hkey⟩, hcalls⟩ := h.emitted (key, calls) (by simp [hemissions])
  have hkey : key = getChannelKey r₀ l₀ := hkey
  have hnodup := hcalls.sublist (E.sublist calls (p.page.transporter.listeners key))
  have hcalled := E.mem_called calls (p.page.transporter.listeners key)
  generalize E.called calls (p.page.transporter.listeners key) = called at hnodup hcalled
  have hlistening : ∀ n ∈ called, n ∉ p.resolved ∧
      ∃ call, p.calls n = some call ∧ call.key = key := by
    intro n hn
    have hmem := ((hcalled n).mp hn).2
    rw [hkey] at hmem ⊢
    exact h.listening r₀ l₀ n hmem
  constructor
  · exact h.configured
  · intro n call hcall
    rw [setTransporter, Transporter.mem_listeners_off]
    rcases h.waits n call hcall with hn | hn
    · by_cases hmem : call.key = key ∧ n ∈ called
      · exact .inr (List.mem_append_right _ hmem.2)
      · exact .inl ⟨hn, fun heq hc => hmem ⟨heq, hc⟩⟩
    · exact .inr (List.mem_append_left _ hn)
  · intro r l n hn
    rw [setTransporter, Transporter.mem_listeners_off] at hn
    obtain ⟨hnot, call, hcall, heq⟩ := h.listening r l n hn.1
    refine ⟨?_, call, hcall, heq⟩
    intro hmem
    rcases List.mem_append.mp hmem with hmem | hmem
    · exact hnot hmem
    · obtain ⟨-, call', hcall', heq'⟩ := hlistening n hmem
      obtain rfl := Option.some.inj (hcall.symm.trans hcall')
      exact hn.2 (heq.symm.trans heq') hmem
  · intro n hn
    rcases List.mem_append.mp hn with hn | hn
    · exact h.going n hn
    · obtain ⟨-, call, hcall, -⟩ := hlistening n hn
      exact ⟨call, hcall⟩
  · constructor
    · apply List.Nodup.append h.once.1 hnodup
      exact fun n hn hmem => (hlistening n hmem).1 hn
    · exact fun r l => (h.once.2 r l).sublist (Transporter.listeners_off_sublist called)
  · intro e he
    exact h.emitted e (hemissions ▸ List.mem_cons_of_mem _ he)
  · exact h.young
  · intro n call k hcall hn hopen
    rw [setTransporter, Transporter.mem_listeners_off] at hn
    rcases h.woken n call k hcall hn.1 hopen with hk | ⟨e, he, heq, hmem⟩
    · exact .inl hk
    · rw [hemissions] at he
      rcases List.mem_cons.mp he with rfl | he
      · have heq : key = call.key := heq
        rw [heq] at hcalled
        exact absurd ((hcalled n).mpr ⟨hmem, hn.1⟩) (hn.2 heq.symm)
      · exact .inr ⟨e, he, heq, hmem⟩

/-- A call goes on. -/
theorem take (h : Alert p) (hn : n ∈ p.resolved) : Alert (p.take n) := by
  have hcalls : ∀ m call, (p.take n).calls m = some call → m ≠ n ∧ p.calls m = some call := by
    intro m call hcall
    by_cases hm : m = n
    · subst hm
      simp [Senders.take] at hcall
    · exact ⟨hm, by simpa [Senders.take, hm] using hcall⟩
  constructor
  · exact h.configured
  · intro m call hcall
    obtain ⟨hm, hcall⟩ := hcalls m call hcall
    exact (h.waits m call hcall).imp_right (List.mem_erase_of_ne hm).mpr
  · intro r l m hmem
    obtain ⟨hnot, call, hcall, heq⟩ := h.listening r l m hmem
    refine ⟨fun hr => hnot (List.mem_of_mem_erase hr), call, ?_, heq⟩
    have hm : m ≠ n := fun hm => hnot (hm ▸ hn)
    simpa [Senders.take, hm] using hcall
  · intro m hmem
    have hmem := (h.once.1.mem_erase_iff).mp hmem
    obtain ⟨call, hcall⟩ := h.going m hmem.2
    exact ⟨call, by simpa [Senders.take, hmem.1] using hcall⟩
  · exact ⟨h.once.1.erase n, h.once.2⟩
  · exact h.emitted
  · intro m hm
    by_cases hmn : m = n <;> simp [Senders.take, hmn, h.young m hm]
  · intro m call k hcall
    exact h.woken m call k (hcalls m call hcall).2

/-- A call whose channel is not open waits. -/
theorem await (h : Alert p) (hnew : p.calls n = none) (hn : n < p.nextCall)
    (hclosed : p.page.transporter.openChannel call.remoteId call.localId = none) :
    Alert (p.await n call) := by
  have hcalls : ∀ m call', (p.await n call).calls m = some call' →
      m = n ∧ call' = call ∨ m ≠ n ∧ p.calls m = some call' := by
    intro m call' hcall
    by_cases hm : m = n
    · subst hm
      exact .inl ⟨rfl, by simpa [Senders.await, eq_comm] using hcall⟩
    · exact .inr ⟨hm, by simpa [Senders.await, hm] using hcall⟩
  have hlisteners : ∀ key m, m ∈ (p.await n call).page.transporter.listeners key ↔
      m ∈ p.page.transporter.listeners key ∨ call.key = key ∧ m = n := by
    intro key m
    show m ∈ (p.page.transporter.once call.key n).listeners key ↔ _
    rw [Transporter.listeners_once]
    by_cases hkey : call.key = key <;> simp [hkey]
  have hfree : ∀ r l, n ∉ p.page.transporter.listeners (getChannelKey r l) := by
    intro r l hmem
    obtain ⟨-, call', hcall, -⟩ := h.listening r l n hmem
    rw [hnew] at hcall
    cases hcall
  have hidle : n ∉ p.resolved := by
    intro hmem
    obtain ⟨call', hcall⟩ := h.going n hmem
    rw [hnew] at hcall
    cases hcall
  constructor
  · exact h.configured
  · intro m call' hcall
    rw [hlisteners]
    rcases hcalls m call' hcall with ⟨rfl, rfl⟩ | ⟨-, hcall⟩
    · exact .inl (.inr ⟨rfl, rfl⟩)
    · exact (h.waits m call' hcall).imp_left .inl
  · intro r l m hmem
    rcases (hlisteners _ m).mp hmem with hmem | ⟨hkey, rfl⟩
    · obtain ⟨hnot, call', hcall, heq⟩ := h.listening r l m hmem
      have hm : m ≠ n := fun hm => hfree r l (hm ▸ hmem)
      exact ⟨hnot, call', by simpa [Senders.await, hm] using hcall, heq⟩
    · exact ⟨hidle, call, by simp [Senders.await], hkey⟩
  · intro m hmem
    obtain ⟨call', hcall⟩ := h.going m hmem
    have hm : m ≠ n := fun hm => hidle (hm ▸ hmem)
    exact ⟨call', by simpa [Senders.await, hm] using hcall⟩
  · refine ⟨h.once.1, fun r l => ?_⟩
    show ((p.page.transporter.once call.key n).listeners _).Nodup
    rw [Transporter.listeners_once]
    apply List.Nodup.append (h.once.2 r l)
    · split_ifs <;> simp
    · intro m hm hmem
      split_ifs at hmem
      · rw [List.mem_singleton.mp hmem] at hm
        exact hfree r l hm
      · exact absurd hmem List.not_mem_nil
  · exact h.emitted
  · intro m hm
    have hmn : m ≠ n := (hn.trans_le hm).ne'
    simpa [Senders.await, hmn] using h.young m hm
  · intro m call' k hcall hmem hopen
    rcases hcalls m call' hcall with ⟨rfl, rfl⟩ | ⟨hm, hcall⟩
    · rw [show (p.await m call').page.transporter.openChannel call'.remoteId call'.localId
        = p.page.transporter.openChannel call'.remoteId call'.localId from rfl, hclosed] at hopen
      cases hopen
    · have hmem := ((hlisteners _ m).mp hmem).resolve_right fun hmn => hm hmn.2
      exact h.woken m call' k hcall hmem hopen

theorem transmit (h : Alert p) (n : Nat) (call : Sender) (channel : Nat) :
    Alert (p.transmit n call channel) :=
  ⟨h.configured, h.waits, h.listening, h.going, h.once, h.emitted, h.young, h.woken⟩

/-- The number of a call is drawn. -/
theorem draw (h : Alert p) : Alert { p with nextCall := p.nextCall + 1 } :=
  ⟨h.configured, h.waits, h.listening, h.going, h.once, h.emitted,
    fun n hn => h.young n (Nat.le_of_succ_le hn), h.woken⟩

end Alert

/-- A call gives its message to its channel if this is open; otherwise it waits, or has
thrown. -/
theorem look_cases (p : Senders) (n : Nat) (call : Sender) :
    (∃ channel, p.page.transporter.openChannel call.remoteId call.localId = some channel ∧
        p.page.transporter.channels.has call.remoteId = true ∧
        p.look n call = p.transmit n call channel) ∨
      p.page.transporter.openChannel call.remoteId call.localId = none ∧
        (p.page.transporter.channels.has call.remoteId = true ∧ p.look n call = p.await n call ∨
          p.page.transporter.channels.has call.remoteId = false ∧ p.look n call = p) := by
  unfold look Transporter.openChannelResumed Map.has
  cases hchannels : p.page.transporter.channels.get call.remoteId with
  | none =>
    have hnone : p.page.transporter.openChannel call.remoteId call.localId = none := by
      simp [Transporter.openChannel, Transporter.channel, hchannels]
    exact .inr ⟨hnone, .inr ⟨rfl, rfl⟩⟩
  | some channels =>
    cases hopen : p.page.transporter.openChannel call.remoteId call.localId with
    | none => exact .inr ⟨rfl, .inl ⟨rfl, rfl⟩⟩
    | some channel => exact .inl ⟨channel, rfl, rfl, rfl⟩

section Step

variable {E : Emittery Nat} {p p' : Senders}

theorem Step.page {a : WorkingStep} (h : Step E p (.page a) p') :
    a.wakes = false ∧ ∃ page, Working.Step p.page a page ∧ p' = { p with page := page } := by
  simp only [Step, next] at h
  split_ifs at h with hwakes
  obtain ⟨page, hpage, rfl⟩ := Option.map_eq_some_iff.mp h
  exact ⟨Bool.eq_false_of_not_eq_true hwakes, page, hpage, rfl⟩

theorem Step.opening {channel : Nat} (h : Step E p (.opening channel) p') :
    p' = { p.setTransporter (p.page.transporter.setDataChannel channel fun c =>
        { c with readyState := .open }) with
      opened := p.opened ++ [channel] } := by
  simp only [Step, next] at h
  split at h
  · split_ifs at h
    exact (Option.some.inj h).symm
  · cases h

/-- `onopen` emits the event of the pair of its channel. -/
theorem Step.onopen {channel : Nat} (h : Step E p (.onopen channel) p') :
    channel ∈ p.opened ∧ ∃ emissions, p' = { p with
        opened := p.opened.erase channel
        emissions := p.emissions ++ emissions } ∧
      emissions = (((p.page.transporter.dataChannels.get channel).bind (·.handlers)).map
        fun pair => (getChannelKey pair.1 pair.2,
          p.page.transporter.listeners (getChannelKey pair.1 pair.2))).toList := by
  simp only [Step, next] at h
  split_ifs at h with hmem
  refine ⟨hmem, _, ?_, rfl⟩
  split at h
  · rename_i hpair
    rw [hpair]
    exact (Option.some.inj h).symm
  · rename_i hpair
    rw [hpair, ← Option.some.inj h]
    simp

theorem Step.emit (h : Step E p .emit p') :
    ∃ key calls emissions, p.emissions = (key, calls) :: emissions ∧
      p' = { p.setTransporter (p.page.transporter.off key
          (E.called calls (p.page.transporter.listeners key))) with
        emissions := emissions
        resolved := p.resolved ++ E.called calls (p.page.transporter.listeners key) } := by
  simp only [Step, next] at h
  split at h
  · cases h
  · rename_i key calls emissions hemissions
    exact ⟨key, calls, emissions, hemissions, (Option.some.inj h).symm⟩

theorem Step.send {remoteId localId : String} {msg : Uint8Array}
    (h : Step E p (.send remoteId localId msg) p') :
    (∃ channel, p.page.transporter.openChannel remoteId localId = some channel ∧
        p' = { p with nextCall := p.nextCall + 1 }.transmit p.nextCall ⟨remoteId, localId, msg⟩
          channel) ∨
      p.page.transporter.openChannel remoteId localId = none ∧
        p' = { p with nextCall := p.nextCall + 1 }.await p.nextCall ⟨remoteId, localId, msg⟩ := by
  simp only [Step, next] at h
  split at h
  · rename_i channel hopen
    exact .inl ⟨channel, hopen, (Option.some.inj h).symm⟩
  · rename_i hopen
    exact .inr ⟨hopen, (Option.some.inj h).symm⟩

theorem Step.resume {n : Nat} (h : Step E p (.resume n) p') :
    n ∈ p.resolved ∧ ∃ call, p.calls n = some call ∧ p' = (p.take n).look n call := by
  simp only [Step, next] at h
  split_ifs at h with hmem
  obtain ⟨call, hcall, rfl⟩ := Option.map_eq_some_iff.mp h
  exact ⟨hmem, call, hcall, rfl⟩

theorem Alert.step {a : SendersStep} (h : Alert p) (hstep : Step E p a p') : Alert p' := by
  cases a with
  | page a =>
    obtain ⟨hwakes, page, hpage, rfl⟩ := hstep.page
    exact h.page (hpage.passive hwakes)
  | received remoteId localId calls =>
    cases hstep
    have hpassive : p.page.transporter.Passive p.page.fresh p.page.fresh
        (p.page.transporter.off (getMessageKey remoteId localId) calls) :=
      Transporter.passive_off remoteId localId calls
    exact h.page hpassive
  | opening channel =>
    rw [hstep.opening]
    exact h.opening channel
  | onopen channel =>
    obtain ⟨-, emissions, rfl, hemissions⟩ := hstep.onopen
    apply h.onopen channel (List.subset_append_left _ _)
    · intro e he
      rcases List.mem_append.mp he with he | he
      · exact .inl he
      · rw [hemissions, Option.mem_toList] at he
        obtain ⟨pair, -, rfl⟩ := Option.map_eq_some_iff.mp he
        exact .inr ⟨pair.1, pair.2, rfl⟩
    · intro r l hpair
      rw [hemissions, hpair]
      simp
  | emit =>
    obtain ⟨key, calls, emissions, hemissions, rfl⟩ := hstep.emit
    exact h.emit E hemissions
  | send remoteId localId msg =>
    rcases hstep.send with ⟨channel, -, rfl⟩ | ⟨hclosed, rfl⟩
    · exact h.draw.transmit _ _ channel
    · exact h.draw.await (h.young _ (Nat.le_refl _)) (Nat.lt_succ_self _) hclosed
  | resume n =>
    obtain ⟨hn, call, hcall, rfl⟩ := hstep.resume
    have htaken := h.take hn
    have hlt : n < p.nextCall := by
      by_contra hle
      rw [h.young n (Nat.le_of_not_lt hle)] at hcall
      cases hcall
    rcases (p.take n).look_cases n call with
      ⟨channel, -, -, hlook⟩ | ⟨hclosed, ⟨-, hlook⟩ | ⟨-, hlook⟩⟩
    · rw [hlook]
      exact htaken.transmit n call channel
    · rw [hlook]
      exact htaken.await (by simp [Senders.take]) hlt hclosed
    · rw [hlook]
      exact htaken

end Step

/-! ## What is under way -/

section Look

variable (p : Senders) (n : Nat) (call : Sender)

@[simp]
theorem look_opened : (p.look n call).opened = p.opened := by
  unfold look
  split <;> rfl

@[simp]
theorem look_emissions : (p.look n call).emissions = p.emissions := by
  unfold look
  split <;> rfl

@[simp]
theorem look_resolved : (p.look n call).resolved = p.resolved := by
  unfold look
  split <;> rfl

@[simp]
theorem look_nextCall : (p.look n call).nextCall = p.nextCall := by
  unfold look
  split <;> rfl

@[simp]
theorem look_openChannel (remoteId localId : String) :
    (p.look n call).page.transporter.openChannel remoteId localId
      = p.page.transporter.openChannel remoteId localId := by
  unfold look
  split <;> rfl

theorem look_calls {m : Nat} (hm : m ≠ n) : (p.look n call).calls m = p.calls m := by
  unfold look
  split
  · rfl
  · simp [await, hm]
  · rfl

theorem look_sent : p.sent <+: (p.look n call).sent := by
  unfold look
  split
  · exact List.prefix_append _ _
  · exact List.prefix_refl _
  · exact List.prefix_refl _

end Look

end Senders

/-- The steps of what is under way. -/
def SendersStep.wakes : SendersStep → Bool
  | .onopen _ | .emit | .resume _ => true
  | _ => false

namespace Senders

/-- Nothing is under way. -/
def Settled (p : Senders) : Prop := p.opened = [] ∧ p.emissions = [] ∧ p.resolved = []

instance (p : Senders) : Decidable p.Settled := inferInstanceAs (Decidable (_ ∧ _ ∧ _))

/-- A bound for the steps of what is under way: an emission calls every call at most. -/
def work (p : Senders) : Nat :=
  p.opened.length * (p.nextCall + 2) + p.emissions.length * (p.nextCall + 1) + p.resolved.length

variable {E : Emittery Nat} {p p' : Senders} {a : SendersStep}

theorem Alert.length_called (h : Alert p) {key : String} {calls : List Nat}
    {emissions : List (String × List Nat)} (hemissions : p.emissions = (key, calls) :: emissions) :
    (E.called calls (p.page.transporter.listeners key)).length ≤ p.nextCall := by
  obtain ⟨⟨r, l, hkey⟩, hcalls⟩ := h.emitted (key, calls) (by simp [hemissions])
  have hkey : key = getChannelKey r l := hkey
  have hnodup := hcalls.sublist (E.sublist calls (p.page.transporter.listeners key))
  have hrange : E.called calls (p.page.transporter.listeners key) ⊆ List.range p.nextCall := by
    intro n hn
    have hmem := ((E.mem_called _ _ n).mp hn).2
    rw [hkey] at hmem
    obtain ⟨-, call, hcall, -⟩ := h.listening r l n hmem
    by_contra hlt
    rw [h.young n (by simpa using hlt)] at hcall
    cases hcall
  simpa using (List.subperm_of_subset hnodup hrange).length_le

/-- What is under way becomes less with every step. -/
theorem Alert.work_lt (h : Alert p) (hstep : Step E p a p') (hwakes : a.wakes = true) :
    p'.work < p.work := by
  cases a with
  | onopen channel =>
    obtain ⟨hmem, emissions, rfl, hemissions⟩ := hstep.onopen
    have hone : emissions.length ≤ 1 := by
      rw [hemissions]
      exact Option.length_toList_le
    have hlength : p.opened.length = (p.opened.erase channel).length + 1 := by
      rw [List.length_erase_of_mem hmem]
      have := List.length_pos_of_mem hmem
      omega
    have hemission := Nat.mul_le_mul_right (p.nextCall + 1) hone
    simp only [work, hlength, List.length_append, Nat.add_mul]
    omega
  | emit =>
    obtain ⟨key, calls, emissions, hemissions, rfl⟩ := hstep.emit
    have hcalled := h.length_called (E := E) hemissions
    have hwork : p.work = p.opened.length * (p.nextCall + 2)
        + (emissions.length + 1) * (p.nextCall + 1) + p.resolved.length := by
      rw [work, hemissions]
      rfl
    rw [hwork, Nat.succ_mul]
    show p.opened.length * (p.nextCall + 2) + emissions.length * (p.nextCall + 1)
      + (p.resolved ++ _).length < _
    rw [List.length_append]
    omega
  | resume n =>
    obtain ⟨hn, call, -, rfl⟩ := hstep.resume
    have hlength := List.length_erase_of_mem hn
    have hpos := List.length_pos_of_mem hn
    simp only [work, look_opened, look_emissions, look_nextCall, look_resolved]
    show p.opened.length * (p.nextCall + 2) + p.emissions.length * (p.nextCall + 1)
      + (p.resolved.erase n).length < _
    omega
  | _ => cases hwakes

/-- No step of what is under way can be taken. -/
def Stuck (E : Emittery Nat) (p : Senders) : Prop :=
  ∀ a p', a.wakes = true → ¬Step E p a p'

theorem stuck_of_settled (h : p.Settled) : p.Stuck E := by
  obtain ⟨hopened, hemissions, hresolved⟩ := h
  intro a p' hwakes hstep
  cases a with
  | onopen channel =>
    have hmem := hstep.onopen.1
    rw [hopened] at hmem
    exact absurd hmem List.not_mem_nil
  | emit =>
    obtain ⟨key, calls, emissions, hcons, -⟩ := hstep.emit
    rw [hemissions] at hcons
    cases hcons
  | resume n =>
    have hmem := hstep.resume.1
    rw [hresolved] at hmem
    exact absurd hmem List.not_mem_nil
  | _ => cases hwakes

theorem Alert.settled (h : Alert p) (hstuck : p.Stuck E) : p.Settled := by
  have hnone : ∀ a, a.wakes = true → p.next E a = none := by
    intro a ha
    cases hnext : p.next E a with
    | none => rfl
    | some p' => exact absurd hnext (hstuck a p' ha)
  refine ⟨?_, ?_, ?_⟩
  · cases hopened : p.opened with
    | nil => rfl
    | cons channel opened =>
      have hnext := hnone (.onopen channel) rfl
      simp only [next, hopened, List.mem_cons_self, if_true] at hnext
      split at hnext <;> cases hnext
  · cases hemissions : p.emissions with
    | nil => rfl
    | cons e emissions =>
      have hnext := hnone .emit rfl
      simp only [next, hemissions] at hnext
      cases hnext
  · cases hresolved : p.resolved with
    | nil => rfl
    | cons n resolved =>
      obtain ⟨call, hcall⟩ := h.going n (by simp [hresolved])
      have hnext := hnone (.resume n) rfl
      simp only [next, hresolved, List.mem_cons_self, if_true, hcall] at hnext
      cases hnext

/-- While nothing is under way, the calls wait for channels that are not open. -/
theorem Alert.closed (h : Alert p) (hsettled : p.Settled) {n : Nat} {call : Sender}
    (hcall : p.calls n = some call) :
    p.page.transporter.openChannel call.remoteId call.localId = none := by
  obtain ⟨hopened, hemissions, hresolved⟩ := hsettled
  have hwaits : n ∈ p.page.transporter.listeners call.key := by
    simpa [hresolved] using h.waits n call hcall
  cases hopen : p.page.transporter.openChannel call.remoteId call.localId with
  | none => rfl
  | some channel =>
    rcases h.woken n call channel hcall hwaits hopen with hmem | ⟨e, he, -⟩
    · rw [hopened] at hmem
      exact absurd hmem List.not_mem_nil
    · rw [hemissions] at he
      exact absurd he List.not_mem_nil

/-- What is under way opens and closes no channel. -/
theorem Step.openChannel (hstep : Step E p a p') (hwakes : a.wakes = true)
    (remoteId localId : String) : p'.page.transporter.openChannel remoteId localId
      = p.page.transporter.openChannel remoteId localId := by
  cases a with
  | onopen channel =>
    obtain ⟨-, emissions, rfl, -⟩ := hstep.onopen
    rfl
  | emit =>
    obtain ⟨key, calls, emissions, -, rfl⟩ := hstep.emit
    rfl
  | resume n =>
    obtain ⟨-, call, -, rfl⟩ := hstep.resume
    exact look_openChannel (p.take n) n call remoteId localId
  | _ => cases hwakes

/-- A call whose channel is open waits until it has given its message to it. -/
theorem Step.follows (hstep : Step E p a p') (hwakes : a.wakes = true) {n channel : Nat}
    {call : Sender}
    (hopen : p.page.transporter.openChannel call.remoteId call.localId = some channel)
    (h : p.calls n = some call ∨ ⟨n, call, channel⟩ ∈ p.sent) :
    p'.calls n = some call ∨ ⟨n, call, channel⟩ ∈ p'.sent := by
  cases a with
  | onopen channel =>
    obtain ⟨-, emissions, rfl, -⟩ := hstep.onopen
    exact h
  | emit =>
    obtain ⟨key, calls, emissions, -, rfl⟩ := hstep.emit
    exact h
  | resume m =>
    obtain ⟨-, call', hcall', rfl⟩ := hstep.resume
    rcases h with hcall | hsent
    · by_cases hn : n = m
      · subst hn
        obtain rfl := Option.some.inj (hcall.symm.trans hcall')
        rcases (p.take n).look_cases n call with ⟨channel', hopen', -, hlook⟩ | ⟨hclosed, -⟩
        · obtain rfl := Option.some.inj (hopen.symm.trans hopen')
          right
          rw [hlook]
          exact List.mem_append_right _ (List.mem_singleton.mpr rfl)
        · exact absurd (hopen.symm.trans hclosed) (by simp)
      · left
        rw [look_calls _ _ _ hn]
        simpa [take, hn] using hcall
    · exact .inr ((look_sent (p.take m) m call').subset hsent)
  | _ => cases hwakes

/-- What becomes of the calls when what is under way goes on. -/
structure Goes (p q : Senders) (n : Nat) : Prop where
  alert : q.Alert
  work : n + q.work ≤ p.work
  openChannel : ∀ remoteId localId, q.page.transporter.openChannel remoteId localId
    = p.page.transporter.openChannel remoteId localId
  follows : ∀ n call channel,
    p.page.transporter.openChannel call.remoteId call.localId = some channel →
      p.calls n = some call ∨ ⟨n, call, channel⟩ ∈ p.sent →
        q.calls n = some call ∨ ⟨n, call, channel⟩ ∈ q.sent

theorem Alert.goes (h : Alert p) {path : List (Senders × SendersStep)} {q : Senders}
    (hpath : Path (Step E) p path q) (hwakes : ∀ x ∈ path, x.2.wakes = true) :
    Goes p q path.length := by
  induction hpath with
  | nil p => exact ⟨h, by simp, fun _ _ => rfl, fun _ _ _ _ hcall => hcall⟩
  | @cons p p' q a path hstep _ ih =>
    have hwake : a.wakes = true := hwakes (p, a) List.mem_cons_self
    have hrest := ih (h.step hstep) fun x hx => hwakes x (List.mem_cons_of_mem _ hx)
    have hlt := h.work_lt hstep hwake
    refine ⟨hrest.alert, ?_, fun r l => ?_, fun n call channel hopen hcall => ?_⟩
    · have hwork := hrest.work
      rw [List.length_cons]
      omega
    · rw [hrest.openChannel, hstep.openChannel hwake]
    · apply hrest.follows n call channel
      · rw [hstep.openChannel hwake]
        exact hopen
      · exact hstep.follows hwake hopen hcall

end Senders

namespace SendersRun

variable {E : Emittery Nat} {steps : List (Senders × SendersStep)} {p : Senders}

theorem alert (hrun : SendersRun E steps p) : p.Alert := by
  induction hrun with
  | start hinit =>
    subst hinit
    exact .init
  | snoc _ hstep ih => exact ih.step hstep

/-- A call that goes on throws, since its client has been shut down. -/
def throws (n : Nat) (x : Senders × SendersStep) : Bool :=
  x.2 = .resume n && (x.1.calls n).any fun call =>
    !x.1.page.transporter.channels.has call.remoteId

/-- The calls with a number that have given their message to a channel, or that wait. -/
def account (p : Senders) (n : Nat) : Nat :=
  p.sent.countP (fun t => t.call = n) + (p.calls n).isSome.toNat

theorem account_transmit (m n : Nat) (call : Sender) (channel : Nat) :
    account (p.transmit m call channel) n = account p n + (decide (m = n)).toNat := by
  by_cases hm : m = n <;> simp [account, Senders.transmit, hm]
  omega

theorem account_await (n : Nat) {m : Nat} {call : Sender} (hnew : p.calls m = none) :
    account (p.await m call) n = account p n + (decide (m = n)).toNat := by
  by_cases hm : m = n
  · subst hm
    simp [account, Senders.await, Senders.setTransporter, hnew]
  · simp [account, Senders.await, Senders.setTransporter, hm, Ne.symm hm]

theorem account_take (n : Nat) {m : Nat} {call : Sender} (hcall : p.calls m = some call) :
    account (p.take m) n + (decide (m = n)).toNat = account p n := by
  by_cases hm : m = n
  · subst hm
    simp [account, Senders.take, hcall]
  · simp [account, Senders.take, hm, Ne.symm hm]

/-- A call that has been made waits, gives its message to a channel or throws. -/
theorem account_step {p' : Senders} {a : SendersStep} (h : p.Alert)
    (hstep : Senders.Step E p a p') (n : Nat) :
    account p' n + (throws n (p, a)).toNat + (decide (n < p.nextCall)).toNat
      = account p n + (decide (n < p'.nextCall)).toNat := by
  cases a with
  | page a =>
    obtain ⟨-, page, -, rfl⟩ := hstep.page
    rfl
  | received remoteId localId calls =>
    cases hstep
    rfl
  | opening channel =>
    rw [hstep.opening]
    rfl
  | onopen channel =>
    obtain ⟨-, emissions, rfl, -⟩ := hstep.onopen
    rfl
  | emit =>
    obtain ⟨key, calls, emissions, -, rfl⟩ := hstep.emit
    rfl
  | send remoteId localId msg =>
    have hthrows : throws n (p, .send remoteId localId msg) = false := rfl
    have hdraw : account { p with nextCall := p.nextCall + 1 } n = account p n := rfl
    have hlt : (decide (p.nextCall = n)).toNat + (decide (n < p.nextCall)).toNat
        = (decide (n < p.nextCall + 1)).toNat := by
      rcases Nat.lt_trichotomy n p.nextCall with hn | hn | hn
      · simp [hn, hn.ne', hn.trans (Nat.lt_succ_self _)]
      · simp [hn]
      · simp [hn.ne, Nat.not_lt.mpr hn.le, Nat.not_lt.mpr (Nat.succ_le_of_lt hn)]
    rcases hstep.send with ⟨channel, -, rfl⟩ | ⟨-, rfl⟩
    · rw [account_transmit, hthrows, hdraw]
      show _ + _ + _ + _ = _ + (decide (n < p.nextCall + 1)).toNat
      simp only [Bool.toNat_false]
      omega
    · have hnew : ({ p with nextCall := p.nextCall + 1 } : Senders).calls p.nextCall = none :=
        h.young _ (Nat.le_refl _)
      rw [account_await n hnew, hthrows, hdraw]
      show _ + _ + _ + _ = _ + (decide (n < p.nextCall + 1)).toNat
      simp only [Bool.toNat_false]
      omega
  | resume m =>
    obtain ⟨-, call, hcall, rfl⟩ := hstep.resume
    have hthrows : throws n (p, .resume m)
        = (decide (m = n) && !p.page.transporter.channels.has call.remoteId) := by
      by_cases hm : m = n
      · simp [throws, ← hm, hcall]
      · simp [throws, hm]
    have htake := account_take n hcall
    have hfree : (p.take m).calls m = none := by simp [Senders.take]
    rw [Senders.look_nextCall, hthrows]
    show _ + _ + _ = _ + (decide (n < p.nextCall)).toNat
    rcases (p.take m).look_cases m call with
      ⟨channel, -, hhas, hlook⟩ | ⟨-, ⟨hhas, hlook⟩ | ⟨hhas, hlook⟩⟩
    · have hhas : p.page.transporter.channels.has call.remoteId = true := hhas
      rw [hlook, account_transmit, htake, hhas]
      simp
    · have hhas : p.page.transporter.channels.has call.remoteId = true := hhas
      rw [hlook, account_await n hfree, htake, hhas]
      simp
    · have hhas : p.page.transporter.channels.has call.remoteId = false := hhas
      rw [hlook, hhas, Bool.not_false, Bool.and_true, htake]

/-- In every run each call that has been made has given its message to a channel once, or has
thrown, or waits. -/
theorem sent_once (hrun : SendersRun E steps p) (n : Nat) :
    p.sent.countP (fun t => t.call = n) + (p.calls n).isSome.toNat + steps.countP (throws n)
      = (decide (n < p.nextCall)).toNat := by
  induction hrun with
  | start hinit =>
    subst hinit
    rfl
  | @snoc steps p p' a hrun hstep ih =>
    have hlast := account_step (alert hrun) hstep n
    have hlength : (steps ++ [(p, a)]).countP (throws n)
        = steps.countP (throws n) + (throws n (p, a)).toNat := by
      rw [List.countP_append, List.countP_singleton]
      cases throws n (p, a) <;> rfl
    simp only [account] at hlast
    rw [hlength]
    omega

/-- From every state of every run, no order of what is under way is longer than the work that is
left.  Where it ends, every call that waited for a channel that was open has given its message
to this channel, once, and every call that still waits does so for a channel that is not open. -/
theorem sends_wake (hrun : SendersRun E steps p) {path : List (Senders × SendersStep)}
    {q : Senders} (hpath : Path (Senders.Step E) p path q)
    (hwakes : ∀ x ∈ path, x.2.wakes = true) :
    path.length ≤ p.work ∧ (q.Stuck E →
      (∀ n call channel, p.calls n = some call →
        p.page.transporter.openChannel call.remoteId call.localId = some channel →
          ⟨n, call, channel⟩ ∈ q.sent ∧ q.sent.countP (fun t => t.call = n) = 1) ∧
      ∀ n call, q.calls n = some call →
        q.page.transporter.openChannel call.remoteId call.localId = none) := by
  have hgoes := hrun.alert.goes hpath hwakes
  constructor
  · have hwork := hgoes.work
    omega
  · intro hstuck
    have hclosed : ∀ n call, q.calls n = some call →
        q.page.transporter.openChannel call.remoteId call.localId = none :=
      fun n call hcall => hgoes.alert.closed (hgoes.alert.settled hstuck) hcall
    refine ⟨fun n call channel hcall hopen => ?_, hclosed⟩
    rcases hgoes.follows n call channel hopen (.inl hcall) with hcall | hsent
    · have hnone := hclosed n call hcall
      rw [hgoes.openChannel, hopen] at hnone
      cases hnone
    · have hmade := sent_once (hrun.append hpath) n
      have hpos : 0 < q.sent.countP fun t => t.call = n :=
        List.countP_pos_iff.mpr ⟨_, hsent, by simp⟩
      have hone := Bool.toNat_le (decide (n < q.nextCall))
      exact ⟨hsent, by omega⟩

/-- A call that waits for a channel, and the channel that opens. -/
theorem sends_wake_opening : ∃ (steps path : List (Senders × SendersStep)) (p q : Senders),
    SendersRun .subscribed steps p ∧ Path (Senders.Step .subscribed) p path q ∧ p.sent = [] ∧
      ⟨0, ⟨"10.0.0.1", "10.0.0.0", [104, 105]⟩, 0⟩ ∈ q.sent := by
  have hstart : SendersRun .subscribed [] {} := .start rfl
  have hoffer := hstart.snoc (a := SendersStep.page (.getOffer "10.0.0.1" "10.0.0.0"
    ⟨0, "10.0.0.0", "10.0.0.1"⟩)) rfl
  have hrun := (hoffer.snoc (a := SendersStep.send "10.0.0.1" "10.0.0.0" [104, 105]) rfl).snoc
    (a := SendersStep.opening 0) rfl
  have hnil : ∀ {steps p}, SendersRun .subscribed steps p →
      Path (Senders.Step .subscribed) p [] p := fun _ => .nil _
  have hpath := (((hnil hrun).snoc (a := SendersStep.onopen 0) rfl).snoc
    (a := SendersStep.emit) rfl).snoc (a := SendersStep.resume 0) rfl
  refine ⟨_, _, _, _, hrun, hpath, rfl, ?_⟩
  have hend := (sends_wake hrun hpath (by decide)).2 (Senders.stuck_of_settled (by decide))
  exact (hend.1 0 ⟨"10.0.0.1", "10.0.0.0", [104, 105]⟩ 0 rfl (by decide)).1

end SendersRun

end Unisockets.Transport
