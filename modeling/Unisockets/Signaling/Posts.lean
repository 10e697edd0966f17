import Unisockets.Signaling.Outcome

/-!
# What a step sends

`ServerTask.Resumes` leaves the messages of a step open.  `ServerTask.posts`
lists them, task by task, and `ServerTask.outbox_resume` says that a step adds
exactly these to the outbox.
-/

namespace Unisockets.Signaling

open JsStd

namespace Server

/-- A message to every client. -/
def toAll (s : Server) (operation : Operation) : List (Socket × Operation) :=
  s.clients.values.map fun client => (client, operation)

/-- A message to the client of an id, if there is one. -/
def toClient (s : Server) (id : String) (operation : Operation) : List (Socket × Operation) :=
  (s.clients.get id).toList.map fun client => (client, operation)

end Server

namespace ServerTask

/-- The first `Alias` of an accepted connection. -/
def connectionAlias (data : IConnectData) (clientAlias : String) : Operation :=
  .alias {
    id := data.id
    «alias» := clientAlias
    set := true
    clientConnectionId := some data.clientConnectionId
    isConnectionAlias := some true }

/-- The second `Alias` of an accepted connection. -/
def remoteAlias (data : IConnectData) (serverId : String) : Operation :=
  .alias {
    id := serverId
    «alias» := data.remoteAlias
    set := true
    clientConnectionId := some data.clientConnectionId }

/-- The `Alias` of a rejected connection. -/
def rejectedAlias (data : IConnectData) (clientAlias : String) : Operation :=
  .alias {
    id := data.id
    «alias» := clientAlias
    set := false
    clientConnectionId := some data.clientConnectionId }

/-- What is sent in reply to a message at once. -/
def answers (s : Server) : Operation → List (Socket × Operation)
  | .offer data => s.toClient data.answererId (.offer data)
  | .answer data => s.toClient data.offererId (.answer data)
  | .candidate data => s.toClient data.answererId (.candidate data)
  | .bind data =>
    if s.aliases.has data.alias then
      s.toClient data.id (announce data.id data.alias false)
    else []
  | .shutdown data =>
    if (s.aliases.get data.alias).any fun entry => entry.id = data.id then []
    else s.toClient data.id (announce data.id data.alias true)
  | _ => []

/-- The messages that a task sends when it is resumed. -/
def posts (s : Server) : ServerTask → List (Socket × Operation)
  | .received operation _ => answers s operation
  | .knockCreated client id =>
    [(client, .acknowledged { id := id, rejected := decide (id = "-1") })]
  | .knockAcknowledged _ id =>
    (s.clients.entries.filter fun existing => existing.1 ≠ id).map fun existing =>
      (existing.2, .greeting { offererId := existing.1, answererId := id })
  | .bindClaimed data => s.toAll (announce data.id data.alias true)
  | .shutdownAddressRemoved data => s.toAll (announce data.id data.alias false)
  | .connectCreated data clientAlias =>
    if (s.aliases.get data.remoteAlias).any MAlias.accepting then
      s.toClient data.id (connectionAlias data clientAlias)
    else []
  | .connectRejected data clientAlias client =>
    client.toList.map fun client => (client, rejectedAlias data clientAlias)
  | .connectClientNotified data clientAlias _ =>
    match (s.aliases.get data.remoteAlias).map MAlias.id with
    | some serverId => s.toClient serverId (announce data.id clientAlias true)
    | none => []
  | .connectServerNotified data clientAlias _ _ server =>
    [(server, .accept { boundAlias := data.remoteAlias, clientAlias := clientAlias })]
  | .connectServerAccepted data client serverId => [(client, remoteAlias data serverId)]
  | .goodbyeAddressRemoved id => s.toAll (.goodbye { id := id })
  | .releasePortRemoved id tcpAddress => s.toAll (announce id tcpAddress false)
  | _ => []

private theorem outbox_reply (s : Server) (client : Option Socket) (operation : Operation) :
    (s.reply client operation).outbox
      = s.outbox ++ client.toList.map fun client => (client, operation) := by
  cases client with
  | none => exact (List.append_nil _).symm
  | some client => rfl

private theorem outbox_handle (operation : Operation) (client : Socket) (s : Server) :
    (handle operation client s).1.outbox = s.outbox ++ answers s operation := by
  cases operation with
  | offer data => exact outbox_reply s _ _
  | answer data => exact outbox_reply s _ _
  | candidate data => exact outbox_reply s _ _
  | bind data =>
    simp only [handle, answers]
    split_ifs
    · exact outbox_reply s _ _
    · exact (List.append_nil _).symm
  | accepting data =>
    simp only [handle, answers, Server.accepting]
    split_ifs <;> exact (List.append_nil _).symm
  | shutdown data =>
    simp only [handle, answers]
    split_ifs
    · exact (List.append_nil _).symm
    · exact outbox_reply s _ _
  | _ => exact (List.append_nil _).symm

/-- A step adds its messages to the outbox, and nothing else. -/
theorem outbox_resume (t : ServerTask) (s : Server) :
    (t.resume s).1.outbox = s.outbox ++ t.posts s := by
  have hnil : s.outbox = s.outbox ++ [] := (List.append_nil _).symm
  cases t with
  | received operation client => exact outbox_handle operation client s
  | knockSearching data client newSuffix =>
    simp only [resume, posts]
    split_ifs <;> exact hnil
  | knockCreated client id =>
    simp only [resume, posts]
    split_ifs with h
    · rw [decide_eq_true h]
      rfl
    · rw [decide_eq_false h]
      rfl
  | knockAcknowledged client id => rfl
  | bindClaiming data =>
    simp only [resume, posts]
    split <;> exact hnil
  | bindClaimed data => rfl
  | shutdownAddressRemoved data => rfl
  | connectCreating data =>
    simp only [resume, posts]
    split_ifs <;> exact hnil
  | connectCreated data clientAlias =>
    simp only [resume, handleConnect, posts, Server.toClient]
    split_ifs
    · cases hclient : s.clients.get data.id with
      | none => exact hnil
      | some client => rfl
    · exact hnil
  | connectRejected data clientAlias client => exact outbox_reply s client _
  | connectClientNotified data clientAlias client =>
    simp only [resume, posts, Server.toClient]
    cases (s.aliases.get data.remoteAlias).map MAlias.id with
    | none => exact hnil
    | some serverId =>
      simp only
      cases s.clients.get serverId with
      | none => exact hnil
      | some server => rfl
  | connectServerNotified data clientAlias client serverId server => rfl
  | connectServerAccepted data client serverId => rfl
  | goodbyeAddressRemoved id => rfl
  | releasePortRemoved id tcpAddress => rfl
  | _ => exact hnil

/-- The operations that a task can send. -/
inductive Posted (s : Server) (t : ServerTask) : Operation → Prop where
  | plain {operation : Operation} (halias : ∀ data, operation ≠ .alias data)
      (haccept : ∀ data, operation ≠ .accept data) : Posted s t operation
  | announce (id tcpAddress : String) (set : Bool) : Posted s t (announce id tcpAddress set)
  | connection (data : IConnectData) (clientAlias : String)
      (ht : t = .connectCreated data clientAlias)
      (hremote : (s.aliases.get data.remoteAlias).any MAlias.accepting = true) :
    Posted s t (connectionAlias data clientAlias)
  | remote (data : IConnectData) (client : Socket) (serverId : String)
      (ht : t = .connectServerAccepted data client serverId) :
    Posted s t (remoteAlias data serverId)
  | rejected (data : IConnectData) (clientAlias : String) (client : Option Socket)
      (ht : t = .connectRejected data clientAlias client) :
    Posted s t (rejectedAlias data clientAlias)
  | accept (data : IConnectData) (clientAlias : String) (client : Socket) (serverId : String)
      (server : Socket) (ht : t = .connectServerNotified data clientAlias client serverId server) :
    Posted s t (.accept { boundAlias := data.remoteAlias, clientAlias := clientAlias })

private theorem operation_of_toClient {s : Server} {id : String} {operation : Operation}
    {post : Socket × Operation} (h : post ∈ s.toClient id operation) : post.2 = operation := by
  obtain ⟨client, -, rfl⟩ := List.mem_map.mp h
  rfl

private theorem operation_of_toAll {s : Server} {operation : Operation}
    {post : Socket × Operation} (h : post ∈ s.toAll operation) : post.2 = operation := by
  obtain ⟨client, -, rfl⟩ := List.mem_map.mp h
  rfl

private theorem posted_answers {s : Server} {t : ServerTask} {operation : Operation}
    {post : Socket × Operation} (h : post ∈ answers s operation) : Posted s t post.2 := by
  cases operation with
  | offer data =>
    rw [operation_of_toClient h]
    exact .plain (by simp) (by simp)
  | answer data =>
    rw [operation_of_toClient h]
    exact .plain (by simp) (by simp)
  | candidate data =>
    rw [operation_of_toClient h]
    exact .plain (by simp) (by simp)
  | bind data =>
    simp only [answers] at h
    split_ifs at h
    · rw [operation_of_toClient h]
      exact .announce _ _ _
    · cases h
  | shutdown data =>
    simp only [answers] at h
    split_ifs at h
    · cases h
    · rw [operation_of_toClient h]
      exact .announce _ _ _
  | _ => cases h

theorem posted {s : Server} {t : ServerTask} {post : Socket × Operation}
    (h : post ∈ t.posts s) : Posted s t post.2 := by
  cases t with
  | received operation client => exact posted_answers h
  | knockCreated client id =>
    rw [List.mem_singleton.mp h]
    exact .plain (by simp) (by simp)
  | knockAcknowledged client id =>
    obtain ⟨existing, -, rfl⟩ := List.mem_map.mp h
    exact .plain (by simp) (by simp)
  | bindClaimed data =>
    rw [operation_of_toAll h]
    exact .announce _ _ _
  | shutdownAddressRemoved data =>
    rw [operation_of_toAll h]
    exact .announce _ _ _
  | connectCreated data clientAlias =>
    simp only [posts] at h
    split_ifs at h with hremote
    · rw [operation_of_toClient h]
      exact .connection data clientAlias rfl hremote
    · cases h
  | connectRejected data clientAlias client =>
    obtain ⟨socket, -, rfl⟩ := List.mem_map.mp h
    exact .rejected data clientAlias client rfl
  | connectClientNotified data clientAlias client =>
    simp only [posts] at h
    split at h
    · rw [operation_of_toClient h]
      exact .announce _ _ _
    · cases h
  | connectServerNotified data clientAlias client serverId server =>
    rw [List.mem_singleton.mp h]
    exact .accept data clientAlias client serverId server rfl
  | connectServerAccepted data client serverId =>
    rw [List.mem_singleton.mp h]
    exact .remote data client serverId rfl
  | goodbyeAddressRemoved id =>
    rw [operation_of_toAll h]
    exact .plain (by simp) (by simp)
  | releasePortRemoved id tcpAddress =>
    rw [operation_of_toAll h]
    exact .announce _ _ _
  | _ => cases h

end ServerTask

end Unisockets.Signaling
