import Unisockets.Transport.Connections

/-!
# Recycled ids

A client leaves, the server says goodbye to its id and gives the id to another
client, whom the others are greeted with.  Those that had a connection to the
client that left do not make an offer: `handleGoodbye` of the worker only writes
to the log, so that the connection to the client that left is still in the map,
and `getOffer` throws because of it.
-/

namespace Unisockets.Transport

open JsStd Signaling Transition

section RecycledIds

variable {W : WebRtc} {page : Nat → Nat}

/-- The Goodbye of an id is handled by a thread. -/
def HandlesGoodbye (thread : Nat) (id : String) (x : RunnerPool × RunnerStep) : Prop :=
  ∃ socket, x.2 = .resume (.onmessage socket (.goodbye ⟨id⟩) none) ∧
    x.1.state.threads socket = thread ∧ x.1.state.sockets thread = some socket

/-- A client leaves, and `thread`, whose page has a connection to the client,
handles the Goodbye.  Its id goes to a client that joins, and `thread`, with the
client `myId`, is greeted with it. -/
def Recycles (page : Nat → Nat) (steps : List (RunnerPool × RunnerStep))
    (leaving greeted : RunnerPool) (thread : Nat) (id myId : String) : Prop :=
  ∃ (i j k l other : Nat) (socket : Socket) (other' : Nat), i < j ∧ j < l ∧ i < k ∧ k < l ∧
    steps[i]? = some (leaving, .leave other socket) ∧
    id ∈ leaving.state.server.closing socket ∧
    (leaving.state.pages (page thread)).connections.has id = true ∧
    (∃ x, steps[j]? = some x ∧ HandlesGoodbye thread id x) ∧
    (∃ x, steps[k]? = some x ∧ x.2 = .join other' id) ∧
    steps[l]? = some (greeted, .resume (.handleOffer thread id myId myId))

/-- `getOffer` makes an offer. -/
def Offers (page : Nat → Nat) (greeted : RunnerPool) (thread : Nat) (id myId : String) : Prop :=
  ∃ connection, ((greeted.state.pages (page thread)).getOffer id myId ⟨thread, myId, id⟩
    greeted.state.fresh).2 = .ok connection

/-- Whoever has had a connection to the client that left makes no offer to the one
that got its id: the connection to the first is in the way. -/
theorem recycled_id_never_offered {steps : List (RunnerPool × RunnerStep)} {p : RunnerPool}
    (hrun : RunnerRun W page steps p) {leaving greeted : RunnerPool} {thread : Nat}
    {id myId : String} (h : Recycles page steps leaving greeted thread id myId) :
    ¬Offers page greeted thread id myId ∧
      ((RunnerTask.handleOffer thread id myId myId).resume W page greeted.state).2 = [] ∧
      ∃ connection,
        (leaving.state.pages (page thread)).connections.get id = some connection ∧
        (greeted.state.pages (page thread)).existing id = some connection := by
  obtain ⟨i, j, k, l, other, socket, other', hij, hjl, -, -, hi, -, hhas, -, -, hl⟩ := h
  obtain ⟨connection, hconnection⟩ := Map.has_iff.mp hhas
  -- the run up to the greeting, which the step of the disconnect is part of
  have hgreeted : RunnerRun W page (steps.take l) greeted := by
    obtain ⟨hlt, hget⟩ := List.getElem?_eq_some_iff.mp hl
    have hsteps : steps = steps.take l ++ steps[l] :: steps.drop (l + 1) := by
      rw [← List.drop_eq_getElem_cons hlt, List.take_append_drop]
    have hbefore := (hrun.of_append hsteps).1
    rwa [hget] at hbefore
  have hleaving : (leaving, .leave other socket) ∈ steps.take l := by
    rw [List.mem_iff_getElem?]
    refine ⟨i, ?_⟩
    rw [List.getElem?_take_of_lt (by omega), hi]
  have hopen : (leaving.state.pages (page thread)).Open := by
    obtain ⟨_, _, _, hbefore, _⟩ := hgreeted.of_mem hleaving
    exact RunnerRun.isOpen hbefore (page thread)
  -- nothing was closed since
  have hgrows := RunnerRun.grows hgreeted hleaving (page thread)
  have hexisting : (greeted.state.pages (page thread)).existing id = some connection := by
    rw [(hgrows.isOpen hopen).existing_eq]
    exact hgrows.connections hopen id connection hconnection
  refine ⟨?_, ?_, connection, hconnection, hexisting⟩
  · rintro ⟨n, hn⟩
    rw [Transporter.getOffer, hexisting] at hn
    cases hn
  · rw [RunnerTask.resume, Transporter.getOffer, hexisting]

end RecycledIds

/-- A client is greeted with another one and they connect.  The second leaves, its
connection fails, and its id goes to a third. -/
def recycledEvents : List RunnerEvent :=
  [.join 0 "10.0.0.0", .join 1 "10.0.0.1"] ++ List.replicate 15 (.resume 0) ++
  [.onconnectionstatechange 0 0 .connected, .leave 1, .resume 0, .resume 0,
    .onconnectionstatechange 0 0 .disconnected, .onconnectionstatechange 0 0 .failed,
    .join 2 "10.0.0.1", .resume 0, .resume 0]

/-- A run in which an id is recycled, and what becomes of the offer to it. -/
theorem exists_recycles : ∃ steps p, RunnerRun .numbered id steps p ∧
    ∃ leaving greeted, Recycles id steps leaving greeted 0 "10.0.0.1" "10.0.0.0" ∧
      ((greeted.state.pages 0).getOffer "10.0.0.1" "10.0.0.0" ⟨0, "10.0.0.0", "10.0.0.1"⟩
        greeted.state.fresh).2.toOption = none := by
  obtain ⟨steps, p, hrun, hi, hj, hk, hl⟩ := RunnerRun.exists_along .numbered id
    (P := fun steps _ =>
      (steps[18]?.any fun x : RunnerPool × RunnerStep => decide (x.2 = .leave 1 1 ∧
        "10.0.0.1" ∈ x.1.state.server.closing 1 ∧
        (x.1.state.pages 0).connections.has "10.0.0.1" = true)) = true ∧
      (steps[20]?.any fun x : RunnerPool × RunnerStep =>
        decide (x.2 = .resume (.onmessage 0 (.goodbye ⟨"10.0.0.1"⟩) none) ∧
          x.1.state.threads 0 = 0 ∧ x.1.state.sockets 0 = some 0)) = true ∧
      (steps[23]?.any fun x : RunnerPool × RunnerStep =>
        decide (x.2 = .join 2 "10.0.0.1")) = true ∧
      (steps[25]?.any fun x : RunnerPool × RunnerStep => decide
        (x.2 = .resume (.handleOffer 0 "10.0.0.1" "10.0.0.0" "10.0.0.0") ∧
          ((x.1.state.pages 0).getOffer "10.0.0.1" "10.0.0.0" ⟨0, "10.0.0.0", "10.0.0.1"⟩
            x.1.state.fresh).2.toOption = none)) = true)
    recycledEvents (by decide +kernel)
  simp only [Option.any_eq_true, decide_eq_true_eq] at hi hj hk hl
  obtain ⟨⟨leaving, _⟩, hi, rfl, hclosing, hconnection⟩ := hi
  obtain ⟨y, hj, hgoodbye⟩ := hj
  obtain ⟨z, hk, hjoin⟩ := hk
  obtain ⟨⟨greeted, _⟩, hl, rfl, hoffer⟩ := hl
  refine ⟨steps, p, hrun, leaving, greeted, ?_, hoffer⟩
  exact ⟨18, 20, 23, 25, 1, 1, 2, by omega, by omega, by omega, by omega, hi, hclosing,
    hconnection, ⟨y, hj, 0, hgoodbye⟩, ⟨z, hk, hjoin⟩, hl⟩

theorem recycled_id_never_offered_run : ∃ steps p, RunnerRun .numbered id steps p ∧
    ∃ leaving greeted, Recycles id steps leaving greeted 0 "10.0.0.1" "10.0.0.0" ∧
      ∃ connection,
        (leaving.state.pages 0).connections.get "10.0.0.1" = some connection ∧
        (greeted.state.pages 0).existing "10.0.0.1" = some connection := by
  obtain ⟨steps, p, hrun, leaving, greeted, hrecycles, -⟩ := exists_recycles
  obtain ⟨-, -, hconnection⟩ := recycled_id_never_offered hrun hrecycles
  exact ⟨steps, p, hrun, leaving, greeted, hrecycles, hconnection⟩

/-- A recycled id is not reached. -/
theorem recycled_id_unreached : ¬∀ (W : WebRtc) (page : Nat → Nat)
    (steps : List (RunnerPool × RunnerStep)) (p : RunnerPool), RunnerRun W page steps p →
    ∀ leaving greeted thread id myId, Recycles page steps leaving greeted thread id myId →
      Offers page greeted thread id myId := by
  intro hall
  obtain ⟨steps, p, hrun, leaving, greeted, hrecycles, hoffer⟩ := exists_recycles
  obtain ⟨connection, hoffers⟩ := hall _ _ _ _ hrun _ _ _ _ _ hrecycles
  rw [show ((greeted.state.pages 0).getOffer "10.0.0.1" "10.0.0.0"
    ⟨0, "10.0.0.0", "10.0.0.1"⟩ greeted.state.fresh).2 = .ok connection from hoffers] at hoffer
  cases hoffer

end Unisockets.Transport
