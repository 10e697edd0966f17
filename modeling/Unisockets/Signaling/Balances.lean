import Unisockets.Signaling.Traffic

/-!
# Departures and connects

Two more accounts of a run of the server.

A close of a socket owes one farewell for each id of the socket, and a farewell
sends one `Goodbye` to each client that is registered when it is sent.

A `Connect` owes its caller one last `Alias`, the one that settles the promise of
`connect`.  It stays owed in four cases, which are those in which a handler
throws.
-/

namespace Unisockets.Signaling

open JsStd Transition

/-! ## Departures -/

/-- Whether a task is on the way to the farewell of an id. -/
def ServerTask.leaves (id : String) : ServerTask → Bool
  | .goodbyeAddress id' | .goodbyeAddressRemoved id' => id' = id
  | _ => false

/-- Whether a task sends the farewell of an id when it is resumed. -/
def ServerTask.farewell (id : String) : ServerTask → Bool
  | .goodbyeAddressRemoved id' => id' = id
  | _ => false

namespace ServerStep

/-- Whether the farewell of an id is sent in a step. -/
def farewell (id : String) : ServerStep → Bool
  | .resume task => task.farewell id
  | _ => false

/-- How many copies of the farewell of an id a socket gets in a step. -/
def farewells (id : String) (client : Socket) (p : ServerPool) (step : ServerStep) : Nat :=
  if step.farewell id then p.state.clients.values.count client else 0

/-- How often a socket that is closed has an id. -/
def departures (id : String) (p : ServerPool) : ServerStep → Nat
  | .close client => (p.state.closing client).count id
  | _ => 0

end ServerStep

section

variable {id : String} {client : Socket}

/-- No message is answered with a `Goodbye`. -/
private theorem goodbye_of_answers {s : Server} {operation : Operation} {data : IGoodbyeData}
    (h : (client, .goodbye data) ∈ ServerTask.answers s operation) : False := by
  cases operation with
  | bind data =>
    simp only [ServerTask.answers] at h
    split_ifs at h
    · simp [Server.toClient, ServerTask.announce] at h
    · simp at h
  | shutdown data =>
    simp only [ServerTask.answers] at h
    split_ifs at h
    · simp at h
    · simp [Server.toClient, ServerTask.announce] at h
  | _ => simp [ServerTask.answers, Server.toClient] at h

/-- A `Goodbye` is sent in a farewell only. -/
private theorem farewell_of_posts {t : ServerTask} {s : Server} {data : IGoodbyeData}
    (h : (client, .goodbye data) ∈ t.posts s) : t = .goodbyeAddressRemoved data.id := by
  cases t with
  | received operation client' => exact (goodbye_of_answers h).elim
  | goodbyeAddressRemoved id' =>
    simp only [ServerTask.posts, Server.toAll, List.mem_map, Prod.mk.injEq,
      Operation.goodbye.injEq] at h
    obtain ⟨client', -, -, rfl⟩ := h
    rfl
  | connectCreated data' clientAlias =>
    simp only [ServerTask.posts] at h
    split_ifs at h
    · simp [Server.toClient, ServerTask.connectionAlias] at h
    · simp at h
  | connectClientNotified data' clientAlias client' =>
    simp only [ServerTask.posts] at h
    split at h
    · simp [Server.toClient, ServerTask.announce] at h
    · simp at h
  | _ =>
    simp [ServerTask.posts, Server.toAll, ServerTask.announce, ServerTask.rejectedAlias,
      ServerTask.remoteAlias] at h

/-- A farewell goes to everybody. -/
private theorem count_goodbye (t : ServerTask) (s : Server) :
    (t.posts s).count (client, .goodbye ⟨id⟩)
      = if t.farewell id then s.clients.values.count client else 0 := by
  split_ifs with hfarewell
  · cases t with
    | goodbyeAddressRemoved id' =>
      obtain rfl : id' = id := of_decide_eq_true hfarewell
      rw [ServerTask.posts, Server.toAll, List.count, List.countP_map, List.count]
      exact List.countP_congr fun c _ => by simp
    | _ => cases hfarewell
  · rw [List.count_eq_zero]
    intro hmem
    rw [farewell_of_posts hmem] at hfarewell
    simp [ServerTask.farewell] at hfarewell

/-- A farewell that is owed is passed on, or sent. -/
private theorem leaves_resume (t : ServerTask) (s : Server) :
    (t.resume s).2.countP (ServerTask.leaves id) + (t.farewell id).toNat
      = (t.leaves id).toNat := by
  have hstep := t.resumes s
  generalize (t.resume s).1 = s', (t.resume s).2 = next at hstep
  cases hstep with
  | swept id' outbox =>
    rw [List.countP_map]
    simp [Function.comp_def, ServerTask.leaves, ServerTask.farewell]
  | goodbyeAddress id' =>
    simp only [ServerTask.countP_one]
    rfl
  | _ => simp [ServerTask.leaves, ServerTask.farewell]

variable {steps : List (ServerPool × ServerStep)} {p : ServerPool}

/-- In every run each close of a socket with an id leads to one farewell of this
id, or the farewell is still on the way; and a client has been told `Goodbye` once
for each farewell at which it was registered. -/
theorem ServerRun.departures_announced (hrun : ServerRun steps p) (id : String)
    (client : Socket) :
    p.state.outbox.count (client, .goodbye ⟨id⟩)
        = total (fun x => x.2.farewells id client x.1) steps ∧
      (steps.countP fun x => x.2.farewell id) + p.tasks.countP (ServerTask.leaves id)
        = total (fun x => x.2.departures id x.1) steps := by
  constructor
  · have h := hrun.balance (· == (client, .goodbye ⟨id⟩)) (fun _ => false) (fun _ => 0)
      (fun x => x.2.farewells id client x.1) ?_ ?_ ?_
    · rw [total_zero] at h
      simpa [List.count] using h
    · exact fun _ _ _ => rfl
    · intro q client'
      simp [ServerStep.farewells, ServerStep.farewell]
    · intro q t
      have hcount : (t.posts q.state).countP (· == (client, .goodbye ⟨id⟩))
          = if t.farewell id then q.state.clients.values.count client else 0 :=
        count_goodbye t q.state
      rw [hcount, List.countP_false]
      exact (Nat.zero_add _).symm
  · have h := hrun.balance (fun _ => false) (ServerTask.leaves id)
      (fun x => (x.2.farewell id).toNat) (fun x => x.2.departures id x.1) ?_ ?_ ?_
    · rw [total_toNat] at h
      simp only [List.countP_false, Function.const_apply, Nat.zero_add] at h
      rw [Nat.add_comm]
      exact h
    · exact fun _ _ _ => rfl
    · intro q client'
      rw [List.countP_map]
      simp only [ServerStep.farewell, ServerStep.departures, List.count, Bool.toNat_false,
        Nat.add_zero]
      exact List.countP_congr fun c _ => by simp [ServerTask.leaves]
    · intro q t
      have hdebt : (t.resume q.state).2.countP (ServerTask.leaves id) + (t.farewell id).toNat
          = (t.leaves id).toNat := leaves_resume t q.state
      simpa [ServerStep.farewell, ServerStep.departures] using hdebt

end

/-- Two sockets knock, and the second one is closed. -/
def departingEvents : List ServerEvent :=
  ServerRun.handling (.knock ⟨"10.0.0", ""⟩) 1 5 ++ ServerRun.handling (.knock ⟨"10.0.0", ""⟩) 2 5
    ++ ServerRun.closing 2 2

theorem ServerRun.departures_announced_second : ∃ steps p, ServerRun steps p ∧
    p.state.outbox.count (1, .goodbye ⟨"10.0.0.1"⟩) = 1 ∧
    total (fun x => x.2.farewells "10.0.0.1" 1 x.1) steps = 1 := by
  obtain ⟨steps, p, hrun, hcount⟩ := ServerRun.exists_along (P := fun _ p =>
    p.state.outbox.count (1, .goodbye ⟨"10.0.0.1"⟩) = 1) departingEvents (by decide +kernel)
  have h := (ServerRun.departures_announced hrun "10.0.0.1" 1).1
  exact ⟨steps, p, hrun, hcount, h ▸ hcount⟩

/-! ## Connects -/

/-- Whether a message is the last `Alias` for a call of `connect`. -/
def settlesConnect (clientConnectionId : String) : Socket × Operation → Bool
  | (_, .alias data) =>
    data.clientConnectionId = some clientConnectionId && data.isConnectionAlias = none
  | _ => false

namespace ServerTask

/-- Whether a task handles a `Connect` that is not settled yet. -/
def unsettled (clientConnectionId : String) : ServerTask → Bool
  | .received (.connect data) _ | .connectCreating data | .connectSearching data _
  | .connectCreated data _ | .connectRejecting data _ _ | .connectRejected data _ _
  | .connectClientNotified data _ _ | .connectServerNotified data _ _ _ _
  | .connectServerAccepted data _ _ => data.clientConnectionId = clientConnectionId
  | _ => false

/-- Whether `handleConnect` throws when it is resumed: the caller has no member,
the caller is gone, or the alias or its owner is. -/
def throws (s : Server) : ServerTask → Bool
  | .connectCreating data => (s.subnets.member (parseIPAddress data.id)).isNone
  | .connectCreated data _ =>
    (s.aliases.get data.remoteAlias).any MAlias.accepting && (s.clients.get data.id).isNone
  | .connectRejected _ _ client => client.isNone
  | .connectClientNotified data _ _ =>
    (((s.aliases.get data.remoteAlias).map MAlias.id).bind s.clients.get).isNone
  | _ => false

end ServerTask

namespace ServerStep

/-- Whether a `Connect` arrives in a step. -/
def connects (clientConnectionId : String) : ServerStep → Bool
  | .message (.connect data) _ => data.clientConnectionId = clientConnectionId
  | _ => false

/-- Whether the handler of a `Connect` throws in a step. -/
def throws (clientConnectionId : String) (p : ServerPool) : ServerStep → Bool
  | .resume task => task.unsettled clientConnectionId && task.throws p.state
  | _ => false

end ServerStep

section

variable {clientConnectionId : String}

/-- What the server announces settles no call. -/
private theorem settles_announce (client : Socket) (id tcpAddress : String) (set : Bool) :
    settlesConnect clientConnectionId (client, ServerTask.announce id tcpAddress set) = false := by
  simp [settlesConnect, ServerTask.announce]

private theorem settles_answers (s : Server) (operation : Operation) :
    (ServerTask.answers s operation).countP (settlesConnect clientConnectionId) = 0 := by
  cases operation with
  | bind data =>
    simp only [ServerTask.answers]
    split_ifs
    · exact ServerTask.countP_toClient s _ fun client => settles_announce client _ _ _
    · rfl
  | shutdown data =>
    simp only [ServerTask.answers]
    split_ifs
    · rfl
    · exact ServerTask.countP_toClient s _ fun client => settles_announce client _ _ _
  | offer data => exact ServerTask.countP_toClient s _ fun _ => rfl
  | answer data => exact ServerTask.countP_toClient s _ fun _ => rfl
  | candidate data => exact ServerTask.countP_toClient s _ fun _ => rfl
  | _ => rfl

private theorem connects_handle (operation : Operation) (client : Socket) (s : Server) :
    (ServerTask.handle operation client s).2.countP (ServerTask.unsettled clientConnectionId)
      = ((ServerTask.received operation client).unsettled clientConnectionId).toNat := by
  cases operation with
  | bind data =>
    simp only [ServerTask.handle]
    split_ifs <;> rfl
  | shutdown data =>
    simp only [ServerTask.handle]
    split_ifs <;> rfl
  | connect data => exact ServerTask.countP_one _ _
  | _ => rfl

/-- A `Connect` that is owed is passed on, settled, or given up. -/
private theorem connects_resume (t : ServerTask) (s : Server) :
    (t.posts s).countP (settlesConnect clientConnectionId)
        + (t.resume s).2.countP (ServerTask.unsettled clientConnectionId)
        + (t.unsettled clientConnectionId && t.throws s).toNat
      = (t.unsettled clientConnectionId).toNat := by
  cases t with
  | received operation client =>
    rw [ServerTask.posts, settles_answers, ServerTask.resume, connects_handle]
    simp [ServerTask.throws]
  | connectCreating data =>
    simp only [ServerTask.posts, ServerTask.resume, ServerTask.throws, ServerTask.unsettled]
    cases s.subnets.member (parseIPAddress data.id) with
    | none => simp
    | some m =>
      simp only [Option.isSome_some, if_true, ServerTask.countP_one]
      simp [ServerTask.unsettled]
  | connectSearching data newPort =>
    simp only [ServerTask.posts, ServerTask.resume, ServerTask.throws, ServerTask.countP_one]
    simp [ServerTask.unsettled]
  | connectCreated data clientAlias =>
    simp only [ServerTask.posts, ServerTask.resume, ServerTask.handleConnect, ServerTask.throws,
      ServerTask.unsettled, Server.toClient]
    cases (s.aliases.get data.remoteAlias).any MAlias.accepting with
    | false =>
      simp only [Bool.false_eq_true, if_false, ServerTask.countP_one]
      simp [ServerTask.unsettled]
    | true =>
      cases s.clients.get data.id with
      | none => simp
      | some client =>
        simp only [if_true, Option.toList_some, List.map_cons, List.map_nil,
          ServerTask.countP_one]
        simp [ServerTask.unsettled, settlesConnect, ServerTask.connectionAlias]
  | connectRejecting data clientAlias client =>
    simp only [ServerTask.posts, ServerTask.resume, ServerTask.throws, ServerTask.countP_one]
    simp [ServerTask.unsettled]
  | connectRejected data clientAlias client =>
    cases client with
    | none => simp [ServerTask.posts, ServerTask.resume, ServerTask.throws]
    | some client =>
      simp only [ServerTask.posts, ServerTask.resume, ServerTask.throws, Option.toList_some,
        List.map_cons, List.map_nil, ServerTask.countP_one]
      simp [ServerTask.unsettled, settlesConnect, ServerTask.rejectedAlias]
  | connectClientNotified data clientAlias client =>
    simp only [ServerTask.posts, ServerTask.resume, ServerTask.throws, ServerTask.unsettled,
      Server.toClient]
    cases (s.aliases.get data.remoteAlias).map MAlias.id with
    | none => simp
    | some serverId =>
      simp only [Option.bind_some]
      cases s.clients.get serverId with
      | none => simp
      | some server =>
        simp only [Option.toList_some, List.map_cons, List.map_nil, ServerTask.countP_one,
          settles_announce]
        simp [ServerTask.unsettled]
  | connectServerNotified data clientAlias client serverId server =>
    simp only [ServerTask.posts, ServerTask.resume, ServerTask.throws, ServerTask.countP_one]
    simp [ServerTask.unsettled, settlesConnect]
  | connectServerAccepted data client serverId =>
    simp only [ServerTask.posts, ServerTask.resume, ServerTask.throws, ServerTask.countP_one]
    simp [ServerTask.unsettled, settlesConnect, ServerTask.remoteAlias]
  | knockSearching data client newSuffix =>
    simp only [ServerTask.posts, ServerTask.resume]
    split_ifs <;> rfl
  | knockCreated client id =>
    simp only [ServerTask.posts, ServerTask.resume]
    split_ifs <;> rfl
  | bindClaiming data =>
    simp only [ServerTask.posts, ServerTask.resume]
    split <;> rfl
  | knockAcknowledged client id =>
    rw [ServerTask.posts, List.countP_map]
    simp [ServerTask.resume, ServerTask.unsettled, Function.comp_def, settlesConnect]
  | bindClaimed data =>
    rw [ServerTask.posts, ServerTask.countP_toAll s fun client => settles_announce client _ _ _]
    rfl
  | shutdownAddressRemoved data =>
    rw [ServerTask.posts, ServerTask.countP_toAll s fun client => settles_announce client _ _ _]
    rfl
  | goodbyeAddressRemoved id =>
    rw [ServerTask.posts, ServerTask.countP_toAll s fun client => rfl, ServerTask.resume,
      List.countP_map]
    simp [ServerTask.unsettled, Function.comp_def]
  | releasePortRemoved id tcpAddress =>
    rw [ServerTask.posts, ServerTask.countP_toAll s fun client => settles_announce client _ _ _]
    rfl
  | _ => rfl

variable {steps : List (ServerPool × ServerStep)} {p : ServerPool}

/-- In every run each `Connect` is answered once with the `Alias` that settles
its call, or its handler has thrown in front of that, or is still on the way. -/
theorem ServerRun.connects_settled_once (hrun : ServerRun steps p)
    (clientConnectionId : String) :
    p.state.outbox.countP (settlesConnect clientConnectionId)
        + p.tasks.countP (ServerTask.unsettled clientConnectionId)
        + steps.countP (fun x => x.2.throws clientConnectionId x.1)
      = steps.countP fun x => x.2.connects clientConnectionId := by
  have h := hrun.balance (settlesConnect clientConnectionId)
    (ServerTask.unsettled clientConnectionId)
    (fun x => (x.2.throws clientConnectionId x.1).toNat)
    (fun x => (x.2.connects clientConnectionId).toNat) ?_ ?_ ?_
  · rw [total_toNat, total_toNat] at h
    exact h
  · intro q operation client
    cases operation <;> rfl
  · intro q client
    rw [List.countP_map]
    simp [Function.comp_def, ServerTask.unsettled, ServerStep.throws, ServerStep.connects]
  · intro q t
    exact connects_resume t q.state

end

/-- A client accepts on an alias, and another one connects to it. -/
def settledEvents : List ServerEvent :=
  ServerRun.handling (.knock ⟨"10.0.0", ""⟩) 1 5 ++ ServerRun.handling (.knock ⟨"10.0.0", ""⟩) 2 5
    ++ ServerRun.handling (.bind ⟨"10.0.0.0", "10.0.0.0:80"⟩) 1 3
    ++ ServerRun.handling (.accepting ⟨"10.0.0.0", "10.0.0.0:80"⟩) 1 1
    ++ ServerRun.handling (.connect ⟨"10.0.0.1", "10.0.0.0:80", "u"⟩) 2 7

theorem ServerRun.connects_settled_once_accepted : ∃ steps p, ServerRun steps p ∧
    p.state.outbox.countP (settlesConnect "u") = 1 ∧
    1 + p.tasks.countP (ServerTask.unsettled "u")
        + steps.countP (fun x => x.2.throws "u" x.1)
      = steps.countP fun x => x.2.connects "u" := by
  obtain ⟨steps, p, hrun, hcount⟩ := ServerRun.exists_along (P := fun _ p =>
    p.state.outbox.countP (settlesConnect "u") = 1) settledEvents (by decide +kernel)
  exact ⟨steps, p, hrun, hcount, hcount ▸ ServerRun.connects_settled_once hrun "u"⟩

end Unisockets.Signaling
