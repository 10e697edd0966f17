import Unisockets.Signaling.Network
import Unisockets.Signaling.Wire
import Unisockets.Transition.Refinement

/-!
# The network over texts

In `Unisockets.Signaling.Network` an operation is on its way as it is.  Here every
operation becomes a text when it is sent, and a text becomes an operation when it
arrives; the server and the clients take the same steps as before.

The two are the same system (`WireRun.iff_network`): each run over texts is a run
over operations, with the text of each operation in its place.  No text is on its
way that `receive` would throw at.
-/

namespace Unisockets.Signaling

open JsStd Transition

/-- A text on its way. -/
structure Frame where
  number : Nat
  cause : Nat
  socket : Socket
  text : CodeUnits

/-- A message as it is sent. -/
def Message.frame (m : Message) : Frame := ⟨m.number, m.cause, m.socket, m.operation.stringify⟩

/-- A text as it is received; `none` where `receive` throws. -/
def Frame.message (f : Frame) : Option Message :=
  match receive f.text with
  | .ok received => received.typed.map fun operation => ⟨f.number, f.cause, f.socket, operation⟩
  | .error _ => none

@[simp]
theorem Message.message_frame (m : Message) : m.frame.message = some m := by
  have htyped : ISignalingOperation.typed
      ⟨m.operation.opcode, some (.ofFields m.operation.fields)⟩ = some m.operation :=
    m.operation.ofData_fields
  simp [Frame.message, Message.frame, received_stringify, htyped]

/-- The server and the clients, with the texts between them. -/
structure WireNetwork where
  /-- The two sides, with nothing on its way. -/
  parties : Network
  up : List Frame := []
  down : List Frame := []

namespace Network

/-- The two sides alone. -/
def parties (p : Network) : Network := { p with up := [], down := [] }

/-- The network with every operation as its text. -/
def wire (p : Network) : WireNetwork :=
  ⟨p.parties, p.up.map Message.frame, p.down.map Message.frame⟩

end Network

/-- Whether a step takes a message off its way. -/
def NetworkStep.takes : NetworkStep → Bool
  | .onmessage .. | .receive _ => true
  | _ => false

namespace WireNetwork

/-- What one side does: the operations that it sends become texts. -/
def transmit (w : WireNetwork) (p : Network) : WireNetwork :=
  ⟨p.parties, w.up ++ p.up.map Message.frame, w.down ++ p.down.map Message.frame⟩

/-- The step relation. -/
inductive Step (E : Emittery (String × Nat)) (w : WireNetwork) :
    NetworkStep → WireNetwork → Prop where
  | transmit {a : NetworkStep} {p : Network} (htakes : a.takes = false)
      (hstep : Network.Step E w.parties a p) : Step E w a (w.transmit p)
  | onmessage {client : Nat} {frame : Frame} {message : Message} {before after : List Frame}
      (hdown : w.down = before ++ frame :: after)
      (hfirst : ∀ f ∈ before, f.socket ≠ frame.socket)
      (hclient : (w.parties.clients client).client = some ⟨frame.socket, .OPEN⟩)
      (hmessage : frame.message = some message) :
    Step E w (.onmessage client message)
      ⟨w.parties.onmessage client message [], w.up, before ++ after⟩
  | receive {frame : Frame} {message : Message} {before after : List Frame}
      (hup : w.up = before ++ frame :: after)
      (hfirst : ∀ f ∈ before, f.socket ≠ frame.socket)
      (hopen : frame.socket ∉ w.parties.closed) (hmessage : frame.message = some message) :
    Step E w (.receive message) ⟨w.parties.receive message [], before ++ after, w.down⟩

/-- Nothing has happened yet. -/
def Initial (w : WireNetwork) : Prop := ∃ p : Network, p.Initial ∧ w = p.wire

end WireNetwork

/-- A run over texts, with its steps. -/
abbrev WireRun (E : Emittery (String × Nat)) := Run WireNetwork.Initial (WireNetwork.Step E)

namespace Network

variable {E : Emittery (String × Nat)} {p q p' : Network} {a : NetworkStep}

theorem transmit_eq (hparties : p'.parties = q.parties) (hup : p'.up = p.up ++ q.up)
    (hdown : p'.down = p.down ++ q.down) : p.wire.transmit q = p'.wire := by
  simp [wire, WireNetwork.transmit, hparties, hup, hdown]

/-- A step that sends nothing. -/
theorem transmit_quiet (hparties : p'.parties = q.parties) (hup : p'.up = p.up)
    (hdown : p'.down = p.down) (hnone : q.up = [] ∧ q.down = []) :
    p.wire.transmit q = p'.wire := by
  refine transmit_eq hparties ?_ ?_
  · simp [hup, hnone.1]
  · simp [hdown, hnone.2]

theorem transmit_connecting (p : Network) (client : Nat) :
    p.wire.transmit (p.parties.connecting client) = (p.connecting client).wire :=
  transmit_quiet rfl rfl rfl ⟨rfl, rfl⟩

theorem transmit_onclose (p : Network) (client : Nat) (socket : Socket) :
    p.wire.transmit (p.parties.onclose client socket) = (p.onclose client socket).wire :=
  transmit_quiet rfl rfl rfl ⟨rfl, rfl⟩

theorem transmit_close (p : Network) (socket : Socket) :
    p.wire.transmit (p.parties.close socket) = (p.close socket).wire :=
  transmit_quiet rfl rfl rfl ⟨rfl, rfl⟩

/-- What a client sends is put behind what is on its way. -/
theorem transmit_send (p : Network) (client : Nat) (operation : Operation) :
    p.wire.transmit (p.parties.send client operation) = (p.send client operation).wire := by
  refine transmit_eq rfl ?_ (List.append_nil _).symm
  cases houtgoing : (p.clients client).outgoing with
  | none => simp [send, parties, houtgoing]
  | some socket => simp [send, parties, houtgoing]

theorem transmit_onopen (p : Network) (client : Nat) (socket : Socket) :
    p.wire.transmit (p.parties.onopen client socket) = (p.onopen client socket).wire :=
  transmit_send (p.setClient client { p.clients client with client := some ⟨socket, .OPEN⟩ })
    client _

theorem transmit_request (p : Network) (client : Nat) (request : Request) :
    p.wire.transmit (p.parties.request client request) = (p.request client request).wire := by
  have h := transmit_send
    (p.setClient client ((p.clients client).request p.nextNumber request)) client
    (request.operation (p.clients client).id)
  simp only [wire, WireNetwork.transmit, WireNetwork.mk.injEq] at h
  refine WireNetwork.mk.injEq .. ▸ ⟨rfl, h.2.1, h.2.2⟩

theorem transmit_handle (p : Network) (task : ClientTask) (clientTasks : List ClientTask) :
    p.wire.transmit (p.parties.handle E task clientTasks) = (p.handle E task clientTasks).wire :=
  transmit_quiet rfl rfl rfl ⟨rfl, rfl⟩

theorem transmit_resume (p : Network) (number : Nat) (task : ServerTask)
    (serverTasks : List (Nat × ServerTask)) :
    p.wire.transmit (p.parties.resume number task serverTasks)
      = (p.resume number task serverTasks).wire :=
  transmit_eq rfl (List.append_nil _).symm rfl

/-- A step of one side, with everything that is on its way left out. -/
theorem Step.parties (h : Step E p a p') (htakes : a.takes = false) :
    ∃ q, Step E p.parties a q ∧ p.wire.transmit q = p'.wire := by
  cases h with
  | connecting hidle => exact ⟨_, .connecting hidle, transmit_connecting p _⟩
  | onopen hclient => exact ⟨_, .onopen hclient, transmit_onopen p _ _⟩
  | onclose hclient hlive => exact ⟨_, .onclose hclient hlive, transmit_onclose p _ _⟩
  | request hfresh => exact ⟨_, .request hfresh, transmit_request p _ _⟩
  | handleSend hrelayed => exact ⟨_, .handleSend hrelayed, transmit_send p _ _⟩
  | onmessage => cases htakes
  | handle htasks => exact ⟨_, .handle htasks, transmit_handle p _ _⟩
  | receive => cases htakes
  | close hsocket hopen => exact ⟨_, .close hsocket hopen, transmit_close p _⟩
  | resume htasks hready => exact ⟨_, .resume htasks hready, transmit_resume p _ _ _⟩

/-- A step of one side can be taken with messages on their way. -/
theorem Step.of_parties (h : Step E p.parties a q) (htakes : a.takes = false) :
    ∃ p', Step E p a p' ∧ p'.wire = p.wire.transmit q := by
  cases h with
  | connecting hidle => exact ⟨_, .connecting (p := p) hidle, (transmit_connecting p _).symm⟩
  | onopen hclient => exact ⟨_, .onopen (p := p) hclient, (transmit_onopen p _ _).symm⟩
  | onclose hclient hlive =>
    exact ⟨_, .onclose (p := p) hclient hlive, (transmit_onclose p _ _).symm⟩
  | request hfresh => exact ⟨_, .request (p := p) hfresh, (transmit_request p _ _).symm⟩
  | handleSend hrelayed => exact ⟨_, .handleSend (p := p) hrelayed, (transmit_send p _ _).symm⟩
  | onmessage => cases htakes
  | handle htasks => exact ⟨_, .handle (p := p) htasks, (transmit_handle p _ _).symm⟩
  | receive => cases htakes
  | close hsocket hopen =>
    exact ⟨_, .close (p := p) hsocket hopen, (transmit_close p _).symm⟩
  | resume htasks hready =>
    exact ⟨_, .resume (p := p) htasks hready, (transmit_resume p _ _ _).symm⟩

/-- Messages before one on a list, as texts. -/
private theorem frames_before {before : List Message} {socket : Socket}
    (h : ∀ m ∈ before, m.socket ≠ socket) :
    ∀ f ∈ before.map Message.frame, f.socket ≠ socket := by
  intro f hf
  obtain ⟨m, hm, rfl⟩ := List.mem_map.mp hf
  exact h m hm

/-- A step over operations is a step over texts. -/
theorem Step.wire (h : Step E p a p') : WireNetwork.Step E p.wire a p'.wire := by
  by_cases htakes : a.takes = false
  · obtain ⟨q, hq, hwire⟩ := h.parties htakes
    rw [← hwire]
    exact .transmit htakes hq
  · cases h with
    | @onmessage client m before after hdown hfirst hclient =>
      have hframes : p.wire.down
          = before.map Message.frame ++ m.frame :: after.map Message.frame := by
        simp [Network.wire, hdown]
      have hstep := WireNetwork.Step.onmessage (E := E) (w := p.wire) hframes
        (frames_before hfirst) hclient m.message_frame
      rw [← List.map_append] at hstep
      exact hstep
    | @receive m before after hup hfirst hopen =>
      have hframes : p.wire.up
          = before.map Message.frame ++ m.frame :: after.map Message.frame := by
        simp [Network.wire, hup]
      have hstep := WireNetwork.Step.receive (E := E) (w := p.wire) hframes
        (frames_before hfirst) hopen m.message_frame
      rw [← List.map_append] at hstep
      exact hstep
    | _ => exact absurd rfl htakes

/-- The text of a message that is taken off a list of texts. -/
private theorem message_of_frames {l : List Message} {before after : List Frame} {frame : Frame}
    (h : l.map Message.frame = before ++ frame :: after) :
    ∃ before' m after', l = before' ++ m :: after' ∧ before = before'.map Message.frame ∧
      frame = m.frame ∧ after = after'.map Message.frame := by
  obtain ⟨before', rest, rfl, rfl, hrest⟩ := List.map_eq_append_iff.mp h
  obtain ⟨m, after', rfl, rfl, rfl⟩ := List.map_eq_cons_iff.mp hrest
  exact ⟨before', m, after', rfl, rfl, rfl, rfl⟩

private theorem messages_before {before : List Message} {socket : Socket}
    (h : ∀ f ∈ before.map Message.frame, f.socket ≠ socket) : ∀ m ∈ before, m.socket ≠ socket :=
  fun m hm => h m.frame (List.mem_map_of_mem hm)

/-- A step over texts is a step over operations. -/
theorem Step.of_wire {w : WireNetwork} (h : WireNetwork.Step E p.wire a w) :
    ∃ p', Step E p a p' ∧ p'.wire = w := by
  cases h with
  | transmit htakes hstep => exact hstep.of_parties htakes
  | @onmessage client frame message before after hdown hfirst hclient hmessage =>
    obtain ⟨before', m, after', hl, rfl, rfl, rfl⟩ := message_of_frames hdown
    rw [Message.message_frame] at hmessage
    cases hmessage
    refine ⟨_, .onmessage hl (messages_before hfirst) hclient, ?_⟩
    rw [← List.map_append]
    rfl
  | @receive frame message before after hup hfirst hopen hmessage =>
    obtain ⟨before', m, after', hl, rfl, rfl, rfl⟩ := message_of_frames hup
    rw [Message.message_frame] at hmessage
    cases hmessage
    refine ⟨_, .receive hl (messages_before hfirst) hopen, ?_⟩
    rw [← List.map_append]
    rfl

end Network

namespace WireRun

variable {E : Emittery (String × Nat)}

private theorem iff_lifted (steps : List (WireNetwork × NetworkStep)) (w : WireNetwork) :
    WireRun E steps w ↔ ∃ networkSteps p, NetworkRun E networkSteps p ∧
      mapSteps Network.wire networkSteps = steps ∧ p.wire = w := by
  constructor
  · exact Run.lift Network.wire (fun w h => h.imp fun p hp => ⟨hp.1, hp.2.symm⟩)
      fun p a w h => Network.Step.of_wire h
  · rintro ⟨networkSteps, p, hrun, rfl, rfl⟩
    exact Run.map Network.wire (fun p hp => ⟨p, hp, rfl⟩) (fun p a p' h => h.wire) hrun

/-- The runs over texts are the runs over operations, with the text of every
operation in its place.  No text is on its way that `receive` would throw at. -/
theorem iff_network (steps : List (WireNetwork × NetworkStep)) (w : WireNetwork) :
    (WireRun E steps w ↔ ∃ networkSteps p, NetworkRun E networkSteps p ∧
        mapSteps Network.wire networkSteps = steps ∧ p.wire = w) ∧
      (WireRun E steps w → ∀ f ∈ w.up ++ w.down, ∃ m, f.message = some m) := by
  refine ⟨iff_lifted steps w, fun h => ?_⟩
  obtain ⟨-, p, -, -, rfl⟩ := (iff_lifted steps w).mp h
  intro f hf
  rw [Network.wire, ← List.map_append] at hf
  obtain ⟨m, -, rfl⟩ := List.mem_map.mp hf
  exact ⟨m, m.message_frame⟩

end WireRun

end Unisockets.Signaling
