import Unisockets.Signaling.ServerTask

/-!
# The outcomes of a step

`ServerTask.Resumes` lists what a resumed task can do to the tables of the
server, with the condition under which it does it and the tasks it leaves
behind.  The messages it sends are left open: the invariants of the tables do
not depend on them.  `ServerTask.resumes` is the inversion lemma, and every
invariant of the tables is proved by cases on it.
-/

namespace Unisockets.Signaling

open JsStd

namespace ServerTask

/-- A message that is answered at once and changes no table: a relayed message,
a rejected request or an unknown one. -/
def Answered (s : Server) : Operation → Prop
  | .knock _ | .connect _ => False
  | .bind data => s.aliases.has data.alias = true
  | .accepting data =>
    ((s.aliases.get data.alias).any fun entry => entry.id = data.id) = false
  | .shutdown data =>
    ((s.aliases.get data.alias).any fun entry => entry.id = data.id) = false
  | _ => True

/-- `Resumes s t s' next`: resumed in `s`, the task `t` leaves the tables of
`s'` and the tasks `next`. -/
inductive Resumes (s : Server) : ServerTask → Server → List ServerTask → Prop where
  -- steps that only send messages
  | knock (data : IKnockData) (client : Socket) :
    Resumes s (.received (.knock data) client) s [.knockCreating data client]
  | bind (data : IBindData) (client : Socket) (hfree : s.aliases.has data.alias = false) :
    Resumes s (.received (.bind data) client) s [.bindClaiming data]
  | connect (data : IConnectData) (client : Socket) :
    Resumes s (.received (.connect data) client) s [.connectCreating data]
  | answered (operation : Operation) (client : Socket) (outbox : List (Socket × Operation))
      (hanswered : Answered s operation) :
    Resumes s (.received operation client) { s with outbox := outbox } []
  | acknowledged (client : Socket) (id : String) (hid : id ≠ "-1")
      (outbox : List (Socket × Operation)) :
    Resumes s (.knockCreated client id) { s with outbox := outbox }
      [.knockAcknowledged client id]
  | overflow (client : Socket) (outbox : List (Socket × Operation)) :
    Resumes s (.knockCreated client "-1") { s with outbox := outbox } []
  | portRemoved (data : IShutdownData) :
    Resumes s (.shutdownPortRemoved data) s [.shutdownAddress data]
  | addressRemoved (data : IShutdownData) (outbox : List (Socket × Operation)) :
    Resumes s (.shutdownAddressRemoved data) { s with outbox := outbox } []
  | reject (data : IConnectData) (clientAlias : String)
      (hremote : (s.aliases.get data.remoteAlias).any MAlias.accepting = false) :
    Resumes s (.connectCreated data clientAlias) s
      [.connectRejecting data clientAlias (s.clients.get data.id)]
  | rejected (data : IConnectData) (clientAlias : String) (client : Option Socket)
      (outbox : List (Socket × Operation)) :
    Resumes s (.connectRejected data clientAlias client) { s with outbox := outbox } []
  | lost (data : IConnectData) (clientAlias : String) (client : Socket)
      (hlost : ∀ entry, s.aliases.get data.remoteAlias = some entry →
        s.clients.get entry.id = none) :
    Resumes s (.connectClientNotified data clientAlias client) s []
  | clientNotified (data : IConnectData) (clientAlias : String) (client : Socket)
      (entry : MAlias) (server : Socket)
      (hentry : s.aliases.get data.remoteAlias = some entry)
      (hserver : s.clients.get entry.id = some server) (outbox : List (Socket × Operation)) :
    Resumes s (.connectClientNotified data clientAlias client) { s with outbox := outbox }
      [.connectServerNotified data clientAlias client entry.id server]
  | serverNotified (data : IConnectData) (clientAlias : String) (client : Socket)
      (serverId : String) (server : Socket) (outbox : List (Socket × Operation)) :
    Resumes s (.connectServerNotified data clientAlias client serverId server)
      { s with outbox := outbox } [.connectServerAccepted data client serverId]
  | serverAccepted (data : IConnectData) (client : Socket) (serverId : String)
      (outbox : List (Socket × Operation)) :
    Resumes s (.connectServerAccepted data client serverId) { s with outbox := outbox } []
  | releasedAddress (id tcpAddress : String) :
    Resumes s (.releaseAddressRemoved id tcpAddress) s [.releasePort id tcpAddress]
  | releasedPort (id tcpAddress : String) (outbox : List (Socket × Operation)) :
    Resumes s (.releasePortRemoved id tcpAddress) { s with outbox := outbox } []
  -- steps that change `clients` or `aliases`
  | accepting (data : IAcceptingData) (client : Socket) (entry : MAlias)
      (hentry : s.aliases.get data.alias = some entry) (howner : entry.id = data.id) :
    Resumes s (.received (.accepting data) client)
      { s with aliases := s.aliases.set data.alias ⟨data.id, true⟩ } []
  | shutdown (data : IShutdownData) (client : Socket) (entry : MAlias)
      (hentry : s.aliases.get data.alias = some entry) (howner : entry.id = data.id) :
    Resumes s (.received (.shutdown data) client)
      { s with aliases := s.aliases.delete data.alias } [.shutdownPort data]
  | register (client : Socket) (id : String) (outbox : List (Socket × Operation)) :
    Resumes s (.knockAcknowledged client id)
      { s with
        clients := s.clients.set id client
        closeListeners := s.closeListeners ++ [(client, id)]
        outbox := outbox } []
  | bound (data : IBindData) (outbox : List (Socket × Operation)) :
    Resumes s (.bindClaimed data)
      { s with
        aliases := s.aliases.set data.alias ⟨data.id, false⟩
        outbox := outbox } []
  | accepted (data : IConnectData) (clientAlias : String) (client : Socket)
      (hremote : (s.aliases.get data.remoteAlias).any MAlias.accepting = true)
      (hclient : s.clients.get data.id = some client) (outbox : List (Socket × Operation)) :
    Resumes s (.connectCreated data clientAlias)
      { s with
        aliases := s.aliases.set clientAlias ⟨data.id, false⟩
        outbox := outbox } [.connectClientNotified data clientAlias client]
  | orphaned (data : IConnectData) (clientAlias : String)
      (hremote : (s.aliases.get data.remoteAlias).any MAlias.accepting = true)
      (hclient : s.clients.get data.id = none) :
    Resumes s (.connectCreated data clientAlias)
      { s with aliases := s.aliases.set clientAlias ⟨data.id, false⟩ } []
  | swept (id : String) (outbox : List (Socket × Operation)) :
    Resumes s (.goodbyeAddressRemoved id) { s.sweep id with outbox := outbox }
      ((s.owned id).map (.releaseAddress id))
  -- steps that change `subnets`
  | searchSuffix (data : IKnockData) (client : Socket) :
    Resumes s (.knockCreating data client)
      { s with subnets := s.subnets.ensure data.subnet, subnetsMutex := true }
      [.knockSearching data client ((s.subnets.ensure data.subnet).nextSuffix data.subnet)]
  | fullSubnet (data : IKnockData) (client : Socket) (newSuffix : Nat)
      (hfull : newSuffix > 255) :
    Resumes s (.knockSearching data client newSuffix) (s.locked s.subnets)
      [.knockCreated client "-1"]
  | newMember (data : IKnockData) (client : Socket) (newSuffix : Nat)
      (hfree : ¬newSuffix > 255) :
    Resumes s (.knockSearching data client newSuffix)
      (s.locked (s.subnets.setMember ⟨data.subnet, newSuffix⟩ ⟨[]⟩))
      [.knockCreated client (toIPAddress data.subnet newSuffix)]
  | claimed (data : IBindData) (subnets : Subnets)
      (hclaim : s.subnets.claim data.alias = .ok subnets) :
    Resumes s (.bindClaiming data) (s.locked subnets) [.bindClaimed data]
  | unclaimed (data : IBindData) (error : SignalingError)
      (hclaim : s.subnets.claim data.alias = .error error) :
    Resumes s (.bindClaiming data) (s.locked s.subnets) []
  | shutdownPort (data : IShutdownData) :
    Resumes s (.shutdownPort data) (s.locked (s.subnets.removeTCPAddress data.alias))
      [.shutdownPortRemoved data]
  | shutdownAddress (data : IShutdownData) :
    Resumes s (.shutdownAddress data) (s.locked (s.subnets.removeIPAddress data.alias))
      [.shutdownAddressRemoved data]
  | searchPort (data : IConnectData) (m : MMember)
      (hm : s.subnets.member (parseIPAddress data.id) = some m) :
    Resumes s (.connectCreating data)
      { s with subnets := s.subnets.sortPorts (parseIPAddress data.id), subnetsMutex := true }
      [.connectSearching data
        ((s.subnets.sortPorts (parseIPAddress data.id)).nextPort (parseIPAddress data.id))]
  | noMember (data : IConnectData)
      (hm : s.subnets.member (parseIPAddress data.id) = none) :
    Resumes s (.connectCreating data) (s.locked s.subnets) []
  | newPort (data : IConnectData) (newPort : Nat) :
    Resumes s (.connectSearching data newPort)
      (s.locked (s.subnets.pushPort (parseIPAddress data.id) newPort))
      [.connectCreated data (toTCPAddress (toIPAddress (parseIPAddress data.id).subnet
        (parseIPAddress data.id).suffix) newPort)]
  | rejecting (data : IConnectData) (clientAlias : String) (client : Option Socket) :
    Resumes s (.connectRejecting data clientAlias client)
      (s.locked (s.subnets.removeTCPAddress clientAlias))
      [.connectRejected data clientAlias client]
  | goodbyeAddress (id : String) :
    Resumes s (.goodbyeAddress id) (s.locked (s.subnets.removeIPAddress id))
      [.goodbyeAddressRemoved id]
  | releaseAddress (id tcpAddress : String) :
    Resumes s (.releaseAddress id tcpAddress)
      (s.locked (s.subnets.removeIPAddress tcpAddress)) [.releaseAddressRemoved id tcpAddress]
  | releasePort (id tcpAddress : String) :
    Resumes s (.releasePort id tcpAddress)
      (s.locked (s.subnets.removeTCPAddress tcpAddress)) [.releasePortRemoved id tcpAddress]

private theorem owner_of_any {entry : Option MAlias} {id : String}
    (h : (entry.any fun entry => entry.id = id) = true) :
    ∃ e, entry = some e ∧ e.id = id := by
  cases entry with
  | none => cases h
  | some e => exact ⟨e, rfl, of_decide_eq_true h⟩

private theorem answered_reply (s : Server) (operation : Operation)
    (h : Answered s operation) (client : Option Socket) (op : Operation) (socket : Socket) :
    Resumes s (.received operation socket) (s.reply client op) [] := by
  cases client with
  | none => exact .answered operation socket s.outbox h
  | some client => exact .answered operation socket _ h

private theorem resumes_received (operation : Operation) (client : Socket) (s : Server) :
    Resumes s (.received operation client) (handle operation client s).1
      (handle operation client s).2 := by
  cases operation with
  | knock data => exact .knock data client
  | offer data => exact answered_reply s (.offer data) trivial _ _ client
  | answer data => exact answered_reply s (.answer data) trivial _ _ client
  | candidate data => exact answered_reply s (.candidate data) trivial _ _ client
  | connect data => exact .connect data client
  | bind data =>
    simp only [handle]
    split_ifs with h
    · exact answered_reply s (.bind data) h _ _ client
    · exact .bind data client (Bool.eq_false_of_not_eq_true h)
  | accepting data =>
    simp only [handle, Server.accepting]
    split_ifs with h
    · obtain ⟨entry, hentry, howner⟩ := owner_of_any h
      exact .accepting data client entry hentry howner
    · exact .answered _ client s.outbox (Bool.eq_false_of_not_eq_true h)
  | shutdown data =>
    simp only [handle]
    split_ifs with h
    · obtain ⟨entry, hentry, howner⟩ := owner_of_any h
      exact .shutdown data client entry hentry howner
    · exact answered_reply s (.shutdown data) (Bool.eq_false_of_not_eq_true h) _ _ client
  | _ => exact .answered _ client s.outbox trivial

theorem resumes (t : ServerTask) (s : Server) :
    Resumes s t (t.resume s).1 (t.resume s).2 := by
  cases t with
  | received operation client => exact resumes_received operation client s
  | knockCreating data client => exact .searchSuffix data client
  | knockSearching data client newSuffix =>
    simp only [resume]
    split_ifs with h
    · exact .fullSubnet data client newSuffix h
    · exact .newMember data client newSuffix h
  | knockCreated client id =>
    simp only [resume]
    split_ifs with h
    · exact h ▸ .overflow client _
    · exact .acknowledged client id h _
  | knockAcknowledged client id => exact .register client id _
  | bindClaiming data =>
    simp only [resume]
    split
    · rename_i subnets h
      exact .claimed data subnets h
    · rename_i e h
      exact .unclaimed data e h
  | bindClaimed data => exact .bound data _
  | shutdownPort data => exact .shutdownPort data
  | shutdownPortRemoved data => exact .portRemoved data
  | shutdownAddress data => exact .shutdownAddress data
  | shutdownAddressRemoved data => exact .addressRemoved data _
  | connectCreating data =>
    simp only [resume]
    split_ifs with h
    · obtain ⟨m, hm⟩ := Option.isSome_iff_exists.mp h
      exact .searchPort data m hm
    · exact .noMember data (Option.not_isSome_iff_eq_none.mp h)
  | connectSearching data newPort => exact .newPort data newPort
  | connectCreated data clientAlias =>
    simp only [resume, handleConnect]
    split_ifs with h
    · split
      · rename_i client hclient
        exact .accepted data clientAlias client h hclient _
      · rename_i hclient
        exact .orphaned data clientAlias h hclient
    · exact .reject data clientAlias (Bool.eq_false_of_not_eq_true h)
  | connectRejecting data clientAlias client => exact .rejecting data clientAlias client
  | connectRejected data clientAlias client =>
    simp only [resume]
    cases client with
    | none => exact .rejected data clientAlias none s.outbox
    | some client => exact .rejected data clientAlias (some client) _
  | connectClientNotified data clientAlias client =>
    simp only [resume]
    cases hentry : s.aliases.get data.remoteAlias with
    | none =>
      refine .lost data clientAlias client fun entry he => ?_
      rw [hentry] at he
      cases he
    | some entry =>
      simp only [Option.map_some]
      cases hserver : s.clients.get entry.id with
      | none =>
        refine .lost data clientAlias client fun entry' he => ?_
        rw [hentry] at he
        cases he
        exact hserver
      | some server => exact .clientNotified data clientAlias client entry server hentry hserver _
  | connectServerNotified data clientAlias client serverId server =>
    exact .serverNotified data clientAlias client serverId server _
  | connectServerAccepted data client serverId => exact .serverAccepted data client serverId _
  | goodbyeAddress id => exact .goodbyeAddress id
  | goodbyeAddressRemoved id => exact .swept id _
  | releaseAddress id tcpAddress => exact .releaseAddress id tcpAddress
  | releaseAddressRemoved id tcpAddress => exact .releasedAddress id tcpAddress
  | releasePort id tcpAddress => exact .releasePort id tcpAddress
  | releasePortRemoved id tcpAddress => exact .releasedPort id tcpAddress _

/-- A socket is registered by its own Knock only. -/
theorem Resumes.clients {s s' : Server} {t : ServerTask} {next : List ServerTask}
    (hstep : Resumes s t s' next) :
    s'.clients = s.clients ∨ ∃ client id, t = .knockAcknowledged client id ∧
      s'.clients = s.clients.set id client ∧ s'.aliases = s.aliases ∧ next = [] := by
  cases hstep with
  | register client id outbox => exact .inr ⟨client, id, rfl, rfl, rfl, rfl⟩
  | _ => exact .inl rfl

end ServerTask

end Unisockets.Signaling
