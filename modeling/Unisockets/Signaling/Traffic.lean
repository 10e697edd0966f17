import Unisockets.Signaling.Posts
import Unisockets.Signaling.ServerRun
import Unisockets.Transition.Account

/-!
# What becomes of every message

`ServerRun.balance` is the rule for keeping accounts of a run of the server: a
message that comes in owes something to a task, a task that is resumed passes
the debt on or pays it by what it sends.

Two accounts are kept with it.  A `Knock` owes one `Acknowledgement` to its
socket.  An `Offer`, an `Answer` and a `Candidate` owe one copy to the client
they are addressed to, if there is one when the handler runs.
-/

namespace Unisockets.Signaling

open JsStd Transition

namespace ServerRun

variable {steps : List (ServerPool × ServerStep)} {p : ServerPool}

/-- What has been sent, what the suspended handlers owe and what was let go on
the way is what the steps of the run have put on the account. -/
theorem balance (sent : Socket × Operation → Bool) (owed : ServerTask → Bool)
    (taken put : ServerPool × ServerStep → Nat) (hrun : ServerRun steps p)
    (hmessage : ∀ q operation client,
      (owed (.received operation client)).toNat + taken (q, .message operation client)
        = put (q, .message operation client))
    (hclose : ∀ q client, ((q.state.closing client).map ServerTask.goodbyeAddress).countP owed
      + taken (q, .close client) = put (q, .close client))
    (hresume : ∀ q t, (t.posts q.state).countP sent + (t.resume q.state).2.countP owed
      + taken (q, .resume t) = (owed t).toNat + put (q, .resume t)) :
    p.state.outbox.countP sent + p.tasks.countP owed + total taken steps = total put steps := by
  refine Run.balance (fun q => q.state.outbox.countP sent + q.tasks.countP owed) taken put hrun
    ?_ ?_
  · rintro q rfl
    rfl
  · intro q a q' hstep
    cases hstep with
    | message operation client =>
      have hdebt := hmessage q operation client
      have htasks : (q.message operation client).tasks.countP owed
          = q.tasks.countP owed + (owed (.received operation client)).toNat := by
        show (q.tasks ++ [ServerTask.received operation client]).countP owed = _
        rw [List.countP_append, List.countP_singleton]
        cases owed (ServerTask.received operation client) <;> rfl
      show q.state.outbox.countP sent + _ + _ = _
      omega
    | close client =>
      have hdebt := hclose q client
      show q.state.outbox.countP sent
        + (q.tasks ++ (q.state.closing client).map ServerTask.goodbyeAddress).countP owed + _ = _
      rw [List.countP_append]
      omega
    | @resume i t _ ht hp =>
      obtain ⟨rest, hl, -, rfl⟩ := TaskSystem.resumed ht hp
      have hdebt := hresume q t
      have htasks : q.tasks.countP owed = rest.countP owed + (owed t).toNat := by
        rw [hl.countP_eq owed, List.countP_cons]
        cases owed t <;> rfl
      show (t.resume q.state).1.outbox.countP sent
        + (rest ++ (t.resume q.state).2).countP owed + _ = _
      rw [ServerTask.outbox_resume, List.countP_append, List.countP_append]
      show _ + _ = q.state.outbox.countP sent + q.tasks.countP owed + _
      omega

end ServerRun

/-! ## The messages of interest -/

/-- The id that a message between two clients is addressed to. -/
def Operation.addressee : Operation → Option String
  | .offer data => some data.answererId
  | .answer data => some data.offererId
  | .candidate data => some data.answererId
  | _ => none

/-- The messages that the server makes up itself, but for `Acknowledgement`. -/
def Operation.announces : Operation → Bool
  | .goodbye _ | .greeting _ | .alias _ | .accept _ => true
  | _ => false

namespace ServerTask

/-- The messages of a step that are no announcements: a message that is passed
on, and an `Acknowledgement`. -/
def direct (s : Server) : ServerTask → List (Socket × Operation)
  | .received operation _ =>
    operation.addressee.elim [] fun id => s.toClient id operation
  | .knockCreated client id =>
    [(client, .acknowledged { id := id, rejected := decide (id = "-1") })]
  | _ => []

section

variable {sent : Socket × Operation → Bool}

theorem countP_one {α : Type} (P : α → Bool) (x : α) : [x].countP P = (P x).toNat := by
  cases hx : P x <;> simp [hx]

theorem countP_toClient (s : Server) (id : String) {operation : Operation}
    (h : ∀ client, sent (client, operation) = false) :
    (s.toClient id operation).countP sent = 0 := by
  rw [List.countP_eq_zero]
  intro post hpost
  obtain ⟨client, -, rfl⟩ := List.mem_map.mp hpost
  simp [h]

/-- A message that is not of interest may be passed on or not. -/
private theorem countP_received {s : Server} {operation : Operation} {client : Socket}
    (h : operation.addressee.isSome = true → ∀ client, sent (client, operation) = false) :
    (direct s (.received operation client)).countP sent = 0 := by
  simp only [direct]
  cases hid : operation.addressee with
  | none => rfl
  | some id => exact countP_toClient s id (h (by simp [hid]))

theorem countP_toAll (s : Server) {operation : Operation}
    (h : ∀ client, sent (client, operation) = false) :
    (s.toAll operation).countP sent = 0 := by
  rw [List.countP_eq_zero]
  intro post hpost
  obtain ⟨client, -, rfl⟩ := List.mem_map.mp hpost
  simp [h]

variable (hsent : ∀ client operation, operation.announces = true → sent (client, operation) = false)

include hsent

private theorem countP_answers (s : Server) (operation : Operation) (client : Socket) :
    (answers s operation).countP sent = (direct s (.received operation client)).countP sent := by
  cases operation with
  | bind data =>
    simp only [answers, direct, Operation.addressee]
    split_ifs
    · exact countP_toClient s _ fun client => hsent client _ rfl
    · rfl
  | shutdown data =>
    simp only [answers, direct, Operation.addressee]
    split_ifs
    · rfl
    · exact countP_toClient s _ fun client => hsent client _ rfl
  | _ => rfl

/-- Announcements apart, a step sends its direct messages. -/
theorem countP_posts (t : ServerTask) (s : Server) :
    (t.posts s).countP sent = (t.direct s).countP sent := by
  cases t with
  | received operation client => exact countP_answers hsent s operation client
  | knockAcknowledged client id =>
    simp only [posts, direct, List.countP_nil]
    rw [List.countP_eq_zero]
    intro post hpost
    obtain ⟨existing, -, rfl⟩ := List.mem_map.mp hpost
    simp [hsent existing.2 (.greeting _) rfl]
  | bindClaimed data => exact countP_toAll s fun client => hsent client _ rfl
  | shutdownAddressRemoved data => exact countP_toAll s fun client => hsent client _ rfl
  | connectCreated data clientAlias =>
    simp only [posts, direct]
    split_ifs
    · exact countP_toClient s _ fun client => hsent client _ rfl
    · rfl
  | connectRejected data clientAlias client =>
    simp only [posts, direct, List.countP_nil]
    rw [List.countP_eq_zero]
    intro post hpost
    obtain ⟨socket, -, rfl⟩ := List.mem_map.mp hpost
    simp [hsent socket (rejectedAlias data clientAlias) rfl]
  | connectClientNotified data clientAlias client =>
    simp only [posts, direct]
    cases (s.aliases.get data.remoteAlias).map MAlias.id with
    | none => rfl
    | some serverId => exact countP_toClient s _ fun client => hsent client _ rfl
  | connectServerNotified data clientAlias client serverId server =>
    simp [posts, direct, hsent server (.accept _) rfl]
  | connectServerAccepted data client serverId =>
    simp [posts, direct, hsent client (remoteAlias data serverId) rfl]
  | goodbyeAddressRemoved id => exact countP_toAll s fun client => hsent client _ rfl
  | releasePortRemoved id tcpAddress => exact countP_toAll s fun client => hsent client _ rfl
  | _ => rfl

end

end ServerTask

/-! ## Acknowledgements -/

/-- Whether a message is an `Acknowledgement` to a socket. -/
def acknowledges (client : Socket) : Socket × Operation → Bool
  | (client', .acknowledged _) => client' = client
  | _ => false

/-- Whether a task handles a `Knock` of a socket that is not acknowledged yet. -/
def ServerTask.knocking (client : Socket) : ServerTask → Bool
  | .received (.knock _) client' | .knockCreating _ client' | .knockSearching _ client' _
  | .knockCreated client' _ => client' = client
  | _ => false

/-- Whether a step is a `Knock` on a socket. -/
def ServerStep.knocks (client : Socket) : ServerStep → Bool
  | .message (.knock _) client' => client' = client
  | _ => false

private theorem acknowledges_announces (client client' : Socket) (operation : Operation)
    (h : operation.announces = true) : acknowledges client (client', operation) = false := by
  cases operation with
  | acknowledged data => cases h
  | _ => rfl

private theorem acknowledges_relayed (client : Socket) (operation : Operation)
    (h : operation.addressee.isSome = true) (client' : Socket) :
    acknowledges client (client', operation) = false := by
  cases operation with
  | acknowledged data => cases h
  | _ => rfl

/-- A task passes its debt on to one task, or pays it. -/
private theorem knocking_resume (client : Socket) (t : ServerTask) (s : Server) :
    (t.posts s).countP (acknowledges client)
        + (t.resume s).2.countP (ServerTask.knocking client)
      = (t.knocking client).toNat := by
  rw [ServerTask.countP_posts (acknowledges_announces client)]
  have hstep := t.resumes s
  generalize (t.resume s).1 = s', (t.resume s).2 = next at hstep
  cases hstep with
  | answered operation client' outbox hanswered =>
    rw [ServerTask.countP_received (acknowledges_relayed client operation)]
    cases operation with
    | knock data => exact absurd hanswered id
    | _ => rfl
  | acknowledged client' id hid outbox => rw [ServerTask.direct, ServerTask.countP_one]; rfl
  | overflow client' outbox => rw [ServerTask.direct, ServerTask.countP_one]; rfl
  | swept id outbox =>
    rw [List.countP_map]
    simp [ServerTask.direct, Function.comp_def, ServerTask.knocking]
  | _ =>
    simp only [ServerTask.countP_one, ServerTask.direct, Operation.addressee]
    simp [ServerTask.knocking]

/-- In every run each `Knock` is answered with one `Acknowledgement` on its own
socket, or its handler is still on the way there. -/
theorem ServerRun.acknowledged_once {steps : List (ServerPool × ServerStep)} {p : ServerPool}
    (hrun : ServerRun steps p) (client : Socket) :
    p.state.outbox.countP (acknowledges client) + p.tasks.countP (ServerTask.knocking client)
      = steps.countP fun x => x.2.knocks client := by
  have h := hrun.balance (acknowledges client) (ServerTask.knocking client) (fun _ => 0)
    (fun x => (x.2.knocks client).toNat) ?_ ?_ ?_
  · rw [total_toNat, total_zero] at h
    exact h
  · intro q operation client'
    cases operation <;> rfl
  · intro q client'
    rw [List.countP_map]
    simp [Function.comp_def, ServerTask.knocking, ServerStep.knocks]
  · intro q t
    have hdebt := knocking_resume client t q.state
    simpa [ServerStep.knocks] using hdebt

/-! ## Messages that are passed on -/

/-- Whether a task is about to handle a message. -/
def ServerTask.carries (operation : Operation) : ServerTask → Bool
  | .received operation' _ => operation' = operation
  | _ => false

namespace ServerStep

/-- Whether a message arrives in a step. -/
def receives (operation : Operation) : ServerStep → Bool
  | .message operation' _ => operation' = operation
  | _ => false

/-- Whether a message is handled in a step. -/
def handles (operation : Operation) : ServerStep → Bool
  | .resume task => task.carries operation
  | _ => false

end ServerStep

section

variable {steps : List (ServerPool × ServerStep)} {p : ServerPool} {operation : Operation}
  {id : String}

private theorem announces_of_addressee (hid : operation.addressee = some id) :
    operation.announces = false := by
  cases operation <;> first | rfl | cases hid

private theorem ne_of_announces (hid : operation.addressee = some id) {operation' : Operation}
    (h : operation'.announces = true) : operation' ≠ operation := by
  rintro rfl
  rw [announces_of_addressee hid] at h
  cases h

private theorem carries_next (t : ServerTask) (s : Server) :
    (t.resume s).2.countP (ServerTask.carries operation) = 0 := by
  have hstep := t.resumes s
  generalize (t.resume s).1 = s', (t.resume s).2 = next at hstep
  cases hstep with
  | swept id outbox =>
    rw [List.countP_map]
    simp [Function.comp_def, ServerTask.carries]
  | _ => simp [ServerTask.carries]

/-- A message is passed on by the task that carries it, to the client that its
addressee has when the task is resumed. -/
private theorem countP_posts_carries (hid : operation.addressee = some id)
    {sent : Socket × Operation → Bool}
    (hsent : ∀ client operation', operation' ≠ operation → sent (client, operation') = false)
    (t : ServerTask) (s : Server) :
    (t.posts s).countP sent
      = if t.carries operation then (s.toClient id operation).countP sent else 0 := by
  rw [ServerTask.countP_posts fun client operation' h => hsent client _ (ne_of_announces hid h)]
  cases t with
  | received operation' client' =>
    simp only [ServerTask.carries, decide_eq_true_eq]
    split_ifs with hop
    · rw [hop, ServerTask.direct, hid]
      rfl
    · exact ServerTask.countP_received fun _ client => hsent client _ hop
  | knockCreated client' id' =>
    have hne : Operation.acknowledged ⟨id', decide (id' = "-1")⟩ ≠ operation := by
      rintro rfl
      cases hid
    simp [ServerTask.carries, ServerTask.direct, hsent client' _ hne]
  | _ => rfl

private theorem count_relayed (hrun : ServerRun steps p)
    (hid : operation.addressee = some id) (client : Socket) :
    p.state.outbox.count (client, operation)
      = steps.countP fun x =>
          x.2.handles operation && decide (x.1.state.clients.get id = some client) := by
  have h := hrun.balance (· == (client, operation)) (fun _ => false) (fun _ => 0)
    (fun x => (x.2.handles operation
      && decide (x.1.state.clients.get id = some client)).toNat) ?_ ?_ ?_
  · rw [total_toNat, total_zero] at h
    simpa [List.count] using h
  · intro q operation' client'
    rfl
  · intro q client'
    simp [ServerStep.handles]
  · intro q t
    rw [countP_posts_carries hid]
    · simp only [ServerStep.handles, Server.toClient]
      cases t.carries operation with
      | false => simp
      | true =>
        cases q.state.clients.get id with
        | none => simp
        | some client' =>
          by_cases hclient : client' = client <;> simp [hclient]
    · intro client' operation' hne
      simp [hne]

private theorem relayed_once (hrun : ServerRun steps p)
    (hid : operation.addressee = some id) :
    p.state.outbox.countP (fun post => post.2 = operation)
        + p.tasks.countP (ServerTask.carries operation)
        + steps.countP (fun x =>
            x.2.handles operation && decide (x.1.state.clients.get id = none))
      = steps.countP fun x => x.2.receives operation := by
  have h := hrun.balance (fun post => post.2 = operation) (ServerTask.carries operation)
    (fun x => (x.2.handles operation && decide (x.1.state.clients.get id = none)).toNat)
    (fun x => (x.2.receives operation).toNat) ?_ ?_ ?_
  · rw [total_toNat, total_toNat] at h
    exact h
  · intro q operation' client'
    simp [ServerTask.carries, ServerStep.handles, ServerStep.receives]
  · intro q client'
    rw [List.countP_map]
    simp [Function.comp_def, ServerTask.carries, ServerStep.handles, ServerStep.receives]
  · intro q t
    rw [countP_posts_carries hid, carries_next]
    · simp only [ServerStep.handles, ServerStep.receives, Server.toClient]
      cases t.carries operation with
      | false => simp
      | true => cases q.state.clients.get id <;> simp
    · intro client' operation' hne
      simp [hne]

/-- In every run each arrival of a message between two clients is sent to its
addressee once, or dropped because the addressee is not there when it is
handled, or its handler has not run yet.  A socket gets one copy for each time
that the message is handled while the addressee has this socket. -/
theorem ServerRun.relay_exact (hrun : ServerRun steps p) (hid : operation.addressee = some id) :
    (∀ client, p.state.outbox.count (client, operation)
        = steps.countP fun x =>
            x.2.handles operation && decide (x.1.state.clients.get id = some client)) ∧
      p.state.outbox.countP (fun post => post.2 = operation)
          + p.tasks.countP (ServerTask.carries operation)
          + steps.countP (fun x =>
              x.2.handles operation && decide (x.1.state.clients.get id = none))
        = steps.countP fun x => x.2.receives operation :=
  ⟨count_relayed hrun hid, relayed_once hrun hid⟩

end

/-- The candidate of a client that knocks second, for the first one. -/
def relayedCandidate : Operation := .candidate ⟨"10.0.0.1", "10.0.0.0", "candidate"⟩

/-- Two sockets knock, and the second one sends a candidate to the first. -/
def relayedEvents : List ServerEvent :=
  ServerRun.handling (.knock ⟨"10.0.0", ""⟩) 1 5 ++ ServerRun.handling (.knock ⟨"10.0.0", ""⟩) 2 5
    ++ ServerRun.handling relayedCandidate 2 1

theorem ServerRun.relay_exact_candidate : ∃ steps p, ServerRun steps p ∧
    p.state.outbox.count (1, relayedCandidate) = 1 ∧
    (steps.countP fun x => x.2.handles relayedCandidate
      && decide (x.1.state.clients.get "10.0.0.0" = some 1)) = 1 := by
  obtain ⟨steps, p, hrun, hcount⟩ := ServerRun.exists_along (P := fun _ p =>
    p.state.outbox.count (1, relayedCandidate) = 1) relayedEvents (by decide +kernel)
  have h := (ServerRun.relay_exact hrun (rfl : relayedCandidate.addressee = some "10.0.0.0")).1 1
  exact ⟨steps, p, hrun, hcount, h ▸ hcount⟩

end Unisockets.Signaling
