import Unisockets.Signaling.ServerTask

/-!
# The tasks are the suspended handlers

`ServerTask.program` maps a task to the program it stands for: the rest of the
handler of `Unisockets.Signaling.Server` from the await where it is suspended.
`ServerTask.bridge` is the proof that a task and its program do the same when
they are resumed, and leave the same tasks behind.  Together with
`TaskSystem.Hom.resumeAt` it carries every run of the tasks over to the
programs.

The programs below are the tails of the handlers, and most of the proofs are by
computation.  What needs an argument are the loops: `sendToAll`, the greetings
of `handleKnock`, the sweep of the `close` listener and the listeners
themselves run to their end without suspension.
-/

namespace Unisockets.Signaling

open JsStd Async

namespace Server

/-! ## The tails of the handlers -/

/-- The rest of `createIPAddress`, once the search has found a suffix. -/
def createIPAddressSearched (subnet : String) (newSuffix : Nat) : Handler String := do
  try
    if newSuffix > 255 then
      pure "-1"
    else
      modify fun s => { s with subnets := s.subnets.setMember ⟨subnet, newSuffix⟩ ⟨[]⟩ }
      pure (toIPAddress subnet newSuffix)
  finally
    release

/-- The rest of `createTCPAddress`, once the search has found a port. -/
def createTCPAddressSearched (ipAddress : String) (newPort : Nat) : Handler String := do
  try
    let key := parseIPAddress ipAddress
    modify fun s => { s with subnets := s.subnets.pushPort key newPort }
    pure (toTCPAddress (toIPAddress key.subnet key.suffix) newPort)
  finally
    release

def handleKnockAcknowledged (client : Socket) (id : String) : Handler Unit := do
  (← get).clients.entries.forM fun existing =>
    if existing.1 ≠ id then
      send (some existing.2) (.greeting { offererId := existing.1, answererId := id })
    else pure ()
  modify fun s => { s with clients := s.clients.set id client }
  registerGoodbye id

def handleKnockCreated (client : Socket) (id : String) : Handler Unit := do
  if id ≠ "-1" then
    call (send (some client) (.acknowledged { id := id, rejected := false }))
    handleKnockAcknowledged client id
  else
    send (some client) (.acknowledged { id := id, rejected := true })

def handleBindClaimed (data : IBindData) : Handler Unit := do
  modify fun s => { s with aliases := s.aliases.set data.alias ⟨data.id, false⟩ }
  sendToAll (.alias { id := data.id, «alias» := data.alias, set := true })

def handleShutdownPortRemoved (data : IShutdownData) : Handler Unit := do
  call (removeIPAddress data.alias)
  sendToAll (.alias { id := data.id, «alias» := data.alias, set := false })

def handleConnectServerAccepted (data : IConnectData) (client : Option Socket)
    (serverId : String) : Handler Unit := do
  send client (.alias {
    id := serverId
    «alias» := data.remoteAlias
    set := true
    clientConnectionId := some data.clientConnectionId })

def handleConnectServerNotified (data : IConnectData) (clientAlias : String)
    (client : Option Socket) (serverId : String) (server : Option Socket) : Handler Unit := do
  call (send server (.accept {
    boundAlias := data.remoteAlias
    clientAlias := clientAlias }))
  handleConnectServerAccepted data client serverId

def handleConnectClientNotified (data : IConnectData) (clientAlias : String)
    (client : Option Socket) : Handler Unit := do
  match (← get).aliases.get data.remoteAlias with
  | none => throw .TypeError
  | some serverId =>
    let server := (← get).clients.get serverId.id
    call (send server (.alias { id := data.id, «alias» := clientAlias, set := true }))
    handleConnectServerNotified data clientAlias client serverId.id server

def handleConnectRejected (data : IConnectData) (clientAlias : String)
    (client : Option Socket) : Handler Unit := do
  send client (.alias {
    id := data.id
    «alias» := clientAlias
    set := false
    clientConnectionId := some data.clientConnectionId })

def handleConnectCreated (data : IConnectData) (clientAlias : String) : Handler Unit := do
  let client := (← get).clients.get data.id
  if !((← get).aliases.get data.remoteAlias).any MAlias.accepting then
    call (removeTCPAddress clientAlias)
    handleConnectRejected data clientAlias client
  else
    modify fun s => { s with aliases := s.aliases.set clientAlias ⟨data.id, false⟩ }
    call (send client (.alias {
      id := data.id
      «alias» := clientAlias
      set := true
      clientConnectionId := some data.clientConnectionId
      isConnectionAlias := some true }))
    handleConnectClientNotified data clientAlias client

/-- The rest of the `close` listener, once the address is released. -/
def onCloseAddressRemoved (id : String) : Handler Unit := do
  (← get).aliases.entries.forM fun entry =>
    if entry.2.id = id then start (removeAlias id entry.1) else pure ()
  sendToAll (.goodbye { id := id })

/-- The rest of `removeAlias`, once the address is released. -/
def removeAliasAddressRemoved (id tcpAddress : String) : Handler Unit := do
  call (removeTCPAddress tcpAddress)
  sendToAll (.alias { id := id, «alias» := tcpAddress, set := false })

/-! ## The loops -/

private theorem foldl_sent (op : Socket → Operation) (l : List Socket) (s : Server) :
    l.foldl (fun s client => s.sent client (op client)) s
      = { s with outbox := s.outbox ++ l.map fun client => (client, op client) } := by
  induction l generalizing s with
  | nil => simp
  | cons client l ih =>
    rw [List.foldl_cons, ih, sent]
    simp

theorem advance_sendToAll (op : Operation) (s : Server) :
    advance (sendToAll op) s = (s.broadcast op, [], .returned ()) := by
  have hsend : ∀ (client : Socket) (s : Server),
      advance (send (some client) op) s = (s.sent client op, [], .returned ()) :=
    fun _ _ => rfl
  have hloop := advance_forM hsend s.clients.values s
  rw [foldl_sent fun _ => op, List.flatMap_eq_nil_iff.mpr fun _ _ => rfl] at hloop
  exact hloop

private theorem advance_greetings (id : String) (s : Server) :
    advance (s.clients.entries.forM fun existing =>
      if existing.1 ≠ id then
        send (some existing.2) (.greeting { offererId := existing.1, answererId := id })
      else pure ()) s = (s.greet id, [], .returned ()) := by
  have hbody : ∀ (existing : String × Socket) (s : Server),
      advance (if existing.1 ≠ id then
          send (some existing.2) (.greeting { offererId := existing.1, answererId := id })
        else pure ()) s
      = (if existing.1 ≠ id then
          s.sent existing.2 (.greeting { offererId := existing.1, answererId := id })
        else s, [], .returned ()) := by
    intro existing s
    by_cases h : existing.1 ≠ id
    · rw [if_pos h, if_pos h]
      rfl
    · rw [if_neg h, if_neg h]
      rfl
  have hfold : ∀ (l : List (String × Socket)) (s : Server),
      l.foldl (fun s existing => if existing.1 ≠ id then
          s.sent existing.2 (.greeting { offererId := existing.1, answererId := id })
        else s) s
      = { s with outbox := s.outbox ++ (l.filter fun existing =>
          existing.1 ≠ id).map fun existing =>
            (existing.2, .greeting { offererId := existing.1, answererId := id }) } := by
    intro l
    induction l with
    | nil =>
      intro s
      simp
    | cons existing l ih =>
      intro s
      rw [List.foldl_cons, ih]
      by_cases h : existing.1 = id
      · simp [h]
      · simp [h, sent]
  rw [advance_forM hbody, hfold, List.flatMap_eq_nil_iff.mpr fun _ _ => rfl]
  rfl

/-- Where a program waits for the mutex. -/
def unlocked (s : Server) : Bool := !s.subnetsMutex

private theorem advance_sweep (id : String) (s : Server) :
    advance (s.aliases.entries.forM fun entry =>
      if entry.2.id = id then start (removeAlias id entry.1) else pure ()) s
      = (s.sweep id, (s.owned id).map fun tcpAddress =>
          ⟨unlocked, do
            call (removeIPAddress tcpAddress).rest
            removeAliasAddressRemoved id tcpAddress⟩, .returned ()) := by
  have hbody : ∀ (entry : String × MAlias) (s : Server),
      advance (if entry.2.id = id then start (removeAlias id entry.1) else pure ()) s
      = (if entry.2.id = id then { s with aliases := s.aliases.delete entry.1 } else s,
        if entry.2.id = id then [⟨unlocked, do
            call (removeIPAddress entry.1).rest
            removeAliasAddressRemoved id entry.1⟩] else [], .returned ()) := by
    intro entry s
    by_cases h : entry.2.id = id
    · rw [if_pos h, if_pos h, if_pos h]
      rfl
    · rw [if_neg h, if_neg h, if_neg h]
      rfl
  have hfold : ∀ (l : List (String × MAlias)) (s : Server),
      l.foldl (fun s entry =>
        if entry.2.id = id then { s with aliases := s.aliases.delete entry.1 } else s) s
      = { s with aliases :=
          ((l.filter fun entry => entry.2.id = id).map Prod.fst).foldl Map.delete s.aliases } := by
    intro l
    induction l with
    | nil =>
      intro s
      rfl
    | cons entry l ih =>
      intro s
      rw [List.foldl_cons, ih]
      by_cases h : entry.2.id = id
      · simp [h]
      · simp [h]
  have hsweep : (s.owned id).foldl Map.delete s.aliases = (s.sweep id).aliases := by
    rw [Map.foldl_delete]
    refine Map.ext (List.filter_congr fun entry hentry => ?_)
    rw [decide_eq_decide, not_iff_not, owned, List.mem_map]
    constructor
    · rintro ⟨other, hother, hkey⟩
      obtain ⟨hmem, hid⟩ := List.mem_filter.mp hother
      have hvalue : other.2 = entry.2 := Map.eq_of_mem_entries (k := entry.1) (hkey ▸ hmem) hentry
      rw [← hvalue]
      exact of_decide_eq_true hid
    · intro hid
      exact ⟨entry, List.mem_filter.mpr ⟨hentry, decide_eq_true hid⟩, rfl⟩
  have hstarted : ∀ l : List (String × MAlias),
      (l.flatMap fun entry => if entry.2.id = id then [(⟨unlocked, do
            call (removeIPAddress entry.1).rest
            removeAliasAddressRemoved id entry.1⟩ : Suspension Server SignalingError)] else [])
      = ((l.filter fun entry => entry.2.id = id).map Prod.fst).map fun tcpAddress =>
          ⟨unlocked, do
            call (removeIPAddress tcpAddress).rest
            removeAliasAddressRemoved id tcpAddress⟩ := by
    intro l
    induction l with
    | nil => rfl
    | cons entry l ih =>
      rw [List.flatMap_cons, ih]
      by_cases h : entry.2.id = id
      · simp [h]
      · simp [h]
  rw [advance_forM hbody, hfold, hstarted]
  show ({ s with aliases := (s.owned id).foldl Map.delete s.aliases }, _, _) = _
  rw [hsweep]
  rfl

end Server

namespace ServerTask

open Server

/-- The program that a task stands for, and the condition it waits for. -/
def program : ServerTask → Suspension Server SignalingError
  | .received operation client => ⟨fun _ => true, handleOperation operation client⟩
  | .knockCreating data client => ⟨unlocked, do
      handleKnockCreated client (← call (createIPAddress data.subnet).rest)⟩
  | .knockSearching data client newSuffix => ⟨fun _ => true, do
      handleKnockCreated client (← call (createIPAddressSearched data.subnet newSuffix))⟩
  | .knockCreated client id => ⟨fun _ => true, handleKnockCreated client id⟩
  | .knockAcknowledged client id => ⟨fun _ => true, handleKnockAcknowledged client id⟩
  | .bindClaiming data => ⟨unlocked, do
      call (claimTCPAddress data.alias).rest
      handleBindClaimed data⟩
  | .bindClaimed data => ⟨fun _ => true, handleBindClaimed data⟩
  | .shutdownPort data => ⟨unlocked, do
      call (Server.removeTCPAddress data.alias).rest
      handleShutdownPortRemoved data⟩
  | .shutdownPortRemoved data => ⟨fun _ => true, handleShutdownPortRemoved data⟩
  | .shutdownAddress data => ⟨unlocked, do
      call (Server.removeIPAddress data.alias).rest
      sendToAll (announce data.id data.alias false)⟩
  | .shutdownAddressRemoved data => ⟨fun _ => true,
      sendToAll (announce data.id data.alias false)⟩
  | .connectCreating data => ⟨unlocked, do
      handleConnectCreated data (← call (createTCPAddress data.id).rest)⟩
  | .connectSearching data newPort => ⟨fun _ => true, do
      handleConnectCreated data (← call (createTCPAddressSearched data.id newPort))⟩
  | .connectCreated data clientAlias => ⟨fun _ => true, handleConnectCreated data clientAlias⟩
  | .connectRejecting data clientAlias client => ⟨unlocked, do
      call (Server.removeTCPAddress clientAlias).rest
      handleConnectRejected data clientAlias client⟩
  | .connectRejected data clientAlias client => ⟨fun _ => true,
      handleConnectRejected data clientAlias client⟩
  | .connectClientNotified data clientAlias client => ⟨fun _ => true,
      handleConnectClientNotified data clientAlias (some client)⟩
  | .connectServerNotified data clientAlias client serverId server => ⟨fun _ => true,
      handleConnectServerNotified data clientAlias (some client) serverId (some server)⟩
  | .connectServerAccepted data client serverId => ⟨fun _ => true,
      handleConnectServerAccepted data (some client) serverId⟩
  | .goodbyeAddress id => ⟨unlocked, do
      call (Server.removeIPAddress id).rest
      onCloseAddressRemoved id⟩
  | .goodbyeAddressRemoved id => ⟨fun _ => true, onCloseAddressRemoved id⟩
  | .releaseAddress id tcpAddress => ⟨unlocked, do
      call (Server.removeIPAddress tcpAddress).rest
      removeAliasAddressRemoved id tcpAddress⟩
  | .releaseAddressRemoved id tcpAddress => ⟨fun _ => true,
      removeAliasAddressRemoved id tcpAddress⟩
  | .releasePort id tcpAddress => ⟨unlocked, do
      call (Server.removeTCPAddress tcpAddress).rest
      sendToAll (announce id tcpAddress false)⟩
  | .releasePortRemoved id tcpAddress => ⟨fun _ => true,
      sendToAll (announce id tcpAddress false)⟩

theorem ready_program (t : ServerTask) (s : Server) : t.program.ready s = t.ready s := by
  cases t <;> rfl

/-- A broadcast ends a handler. -/
private theorem resume_sendToAll (op : Operation) (s : Server) :
    Async.resume (sendToAll op) s = (s.broadcast op, []) := by
  rw [Async.resume, advance_sendToAll]
  rfl

private theorem advance_get (s : Server) :
    advance (get : Handler Server) s = (s, [], .returned s) := rfl

/-- A program whose first part runs through. -/
private theorem resume_bind {α : Type} {x : Handler α} {a : α} {s s' : Server}
    {started : List (Suspension Server SignalingError)} {k : α → Handler Unit}
    (h : advance x s = (s', started, .returned a)) :
    Async.resume (x >>= k) s
      = ((Async.resume (k a) s').1, started ++ (Async.resume (k a) s').2) := by
  rw [Async.resume, advance_bind, h]
  simp only [Async.resume, List.append_assoc]

/-- A client that is registered gets a close listener. -/
private theorem resume_registerGoodbye {s : Server} {id : String} {client : Socket}
    (h : s.clients.get id = some client) : Async.resume (registerGoodbye id) s =
      ({ s with closeListeners := s.closeListeners ++ [(client, id)] }, []) := by
  refine (resume_bind (advance_get s)).trans ?_
  rw [h]
  rfl

private theorem resume_reply (client : Option Socket) (op : Operation) (s : Server) :
    Async.resume (send client op) s = (s.reply client op, []) := by
  cases client <;> rfl

private theorem resume_handle (operation : Operation) (client : Socket) (s : Server) :
    Async.resume (handleOperation operation client) s
      = ((handle operation client s).1, (handle operation client s).2.map program) := by
  cases operation with
  | bind data =>
    show Async.resume (if s.aliases.has data.alias then _ else _) s = _
    simp only [handle]
    by_cases h : s.aliases.has data.alias
    · rw [if_pos h, if_pos h]
      exact resume_reply _ _ s
    · rw [if_neg h, if_neg h]
      rfl
  | offer data => exact resume_reply _ _ s
  | answer data => exact resume_reply _ _ s
  | candidate data => exact resume_reply _ _ s
  | accepting data =>
    refine (resume_bind (advance_get s)).trans ?_
    simp only [handle, accepting]
    cases s.aliases.get data.alias with
    | none => rfl
    | some entry =>
      by_cases h : entry.id = data.id
      · simp [h]
        rfl
      · simp [h]
        rfl
  | shutdown data =>
    show Async.resume (if (s.aliases.get data.alias).any (fun entry => entry.id = data.id) then _
      else _) s = _
    simp only [handle]
    by_cases h : (s.aliases.get data.alias).any fun entry => entry.id = data.id
    · rw [if_pos h, if_pos h]
      rfl
    · rw [if_neg h, if_neg h]
      exact resume_reply _ _ s
  | _ => rfl

/-- A critical section that returns without suspension. -/
private theorem advance_critical {α : Type} {body : Handler α} {a : α} {s : Server}
    (s' : Server)
    (h : advance body { s with subnetsMutex := true } = (s', [], .returned a)) :
    advance (do acquire; try body finally release : Handler α).rest s
      = (s'.locked s'.subnets, [], .returned a) := by
  show advance (Async.tryFinally body (fun _ => release) >>= fun r => pure r.1)
    { s with subnetsMutex := true } = _
  rw [advance_bind, advance_tryFinally, h]
  rfl

/-- A critical section that throws without suspension. -/
private theorem advance_critical_threw {α : Type} {body : Handler α} {e : SignalingError}
    {s : Server} (s' : Server)
    (h : advance body { s with subnetsMutex := true } = (s', [], .threw e)) :
    advance (do acquire; try body finally release : Handler α).rest s
      = (s'.locked s'.subnets, [], .threw e) := by
  show advance (Async.tryFinally body (fun _ => release) >>= fun r => pure r.1)
    { s with subnetsMutex := true } = _
  rw [advance_bind, advance_tryFinally, h]
  rfl

/-- A critical section whose body is suspended. -/
private theorem advance_critical_suspended {α : Type} {body rest : Handler α}
    {ready : Server → Bool} {s s' : Server}
    (h : advance body { s with subnetsMutex := true } = (s', [], .suspended ready rest)) :
    advance (do acquire; try body finally release : Handler α).rest s
      = (s', [], .suspended ready (do try rest finally release)) := by
  show advance (Async.tryFinally body (fun _ => release) >>= fun r => pure r.1)
    { s with subnetsMutex := true } = _
  rw [advance_bind, advance_tryFinally, h]
  rfl

/-- `claimTCPAddress`, once it has the mutex. -/
theorem advance_claim (tcpAddress : String) (s : Server) :
    advance (claimTCPAddress tcpAddress).rest s =
      match s.subnets.claim tcpAddress with
      | .ok subnets => (s.locked subnets, [], .returned ())
      | .error e => (s.locked s.subnets, [], .threw e) := by
  unfold Subnets.claim
  by_cases hsub : s.subnets.has (ipAddressOf tcpAddress).subnet
  · rw [if_pos hsub]
    by_cases hm : (s.subnets.member (ipAddressOf tcpAddress)).isNone
    · have hnone := Option.isNone_iff_eq_none.mp hm
      have hmember := Subnets.member_setMember (m := ⟨[]⟩) hsub (ipAddressOf tcpAddress)
      rw [if_pos rfl] at hmember
      rw [Subnets.ports_of_member_none hnone, if_neg (by simp),
        ← Subnets.pushPort_setMember_of_none _ hsub hnone]
      refine advance_critical { s with
        subnets := (s.subnets.setMember (ipAddressOf tcpAddress) ⟨[]⟩).pushPort
          (ipAddressOf tcpAddress) (portOf tcpAddress)
        subnetsMutex := true } ?_
      show advance (if s.subnets.has (ipAddressOf tcpAddress).subnet then _ else _) _ = _
      rw [if_pos hsub]
      show advance (if (s.subnets.member (ipAddressOf tcpAddress)).isNone then _ else _) _ = _
      rw [if_pos hm]
      show advance (if ((s.subnets.setMember (ipAddressOf tcpAddress) ⟨[]⟩).ports
        (ipAddressOf tcpAddress)).any (fun p => p.strictEq (portOf tcpAddress)) then _ else _) _
          = _
      rw [Subnets.ports_of_member hmember, if_neg (by simp)]
      rfl
    · by_cases hport : (s.subnets.ports (ipAddressOf tcpAddress)).any fun p =>
          p.strictEq (portOf tcpAddress)
      · rw [if_pos hport]
        refine advance_critical_threw { s with subnetsMutex := true } ?_
        show advance (if s.subnets.has (ipAddressOf tcpAddress).subnet then _ else _) _ = _
        rw [if_pos hsub]
        show advance (if (s.subnets.member (ipAddressOf tcpAddress)).isNone then _ else _) _ = _
        rw [if_neg hm]
        show advance (if (s.subnets.ports (ipAddressOf tcpAddress)).any (fun p =>
          p.strictEq (portOf tcpAddress)) then _ else _) _ = _
        rw [if_pos hport]
        rfl
      · rw [if_neg hport]
        refine advance_critical { s with
          subnets := s.subnets.pushPort (ipAddressOf tcpAddress) (portOf tcpAddress)
          subnetsMutex := true } ?_
        show advance (if s.subnets.has (ipAddressOf tcpAddress).subnet then _ else _) _ = _
        rw [if_pos hsub]
        show advance (if (s.subnets.member (ipAddressOf tcpAddress)).isNone then _ else _) _ = _
        rw [if_neg hm]
        show advance (if (s.subnets.ports (ipAddressOf tcpAddress)).any (fun p =>
          p.strictEq (portOf tcpAddress)) then _ else _) _ = _
        rw [if_neg hport]
        rfl
  · rw [if_neg hsub]
    refine advance_critical_threw { s with subnetsMutex := true } ?_
    show advance (if s.subnets.has (ipAddressOf tcpAddress).subnet then _ else _) _ = _
    rw [if_neg hsub]
    rfl

private theorem resume_claim (data : IBindData) (s : Server) :
    (program (.bindClaiming data)).rest.resume s
      = ((resume (.bindClaiming data) s).1, (resume (.bindClaiming data) s).2.map program) := by
  have hclaim := advance_claim data.alias s
  show Async.resume (call (claimTCPAddress data.alias).rest >>= fun _ => handleBindClaimed data) s
    = _
  rw [call, Async.resume, advance_bind, advance_bind]
  simp only [resume]
  cases hc : s.subnets.claim data.alias with
  | ok subnets =>
    rw [hc] at hclaim
    rw [hclaim]
    rfl
  | error e =>
    rw [hc] at hclaim
    rw [hclaim]
    rfl

/-- `createTCPAddress`, once it has the mutex, at an address with a member. -/
theorem advance_createTCPAddress (ipAddress : String) {m : MMember} (s : Server)
    (h : s.subnets.member (parseIPAddress ipAddress) = some m) :
    advance (createTCPAddress ipAddress).rest s
      = ({ s with
          subnets := s.subnets.sortPorts (parseIPAddress ipAddress)
          subnetsMutex := true }, [],
        .suspended (fun _ => true) (createTCPAddressSearched ipAddress
          ((s.subnets.sortPorts (parseIPAddress ipAddress)).nextPort
            (parseIPAddress ipAddress)))) := by
  refine advance_critical_suspended ?_
  show advance (if s.subnets.has (parseIPAddress ipAddress).subnet then _ else _) _ = _
  rw [if_pos (Subnets.has_of_member h)]
  show advance (if (s.subnets.member (parseIPAddress ipAddress)).isSome then _ else _) _ = _
  rw [h, Option.isSome_some, if_pos rfl]
  rfl

/-- `createTCPAddress`, once it has the mutex, at an address without a member. -/
theorem advance_createTCPAddress_threw (ipAddress : String) (s : Server)
    (h : s.subnets.member (parseIPAddress ipAddress) = none) :
    advance (createTCPAddress ipAddress).rest s = (s.locked s.subnets, [], .threw
      (if s.subnets.has (parseIPAddress ipAddress).subnet then .SuffixDoesNotExistError
        else .SubnetDoesNotExistError)) := by
  by_cases hsub : s.subnets.has (parseIPAddress ipAddress).subnet
  · rw [if_pos hsub]
    refine advance_critical_threw { s with subnetsMutex := true } ?_
    show advance (if s.subnets.has (parseIPAddress ipAddress).subnet then _ else _) _ = _
    rw [if_pos hsub]
    show advance (if (s.subnets.member (parseIPAddress ipAddress)).isSome then _ else _) _ = _
    rw [h, if_neg (by simp)]
    rfl
  · rw [if_neg hsub]
    refine advance_critical_threw { s with subnetsMutex := true } ?_
    show advance (if s.subnets.has (parseIPAddress ipAddress).subnet then _ else _) _ = _
    rw [if_neg hsub]
    rfl

private theorem resume_createTCPAddress (data : IConnectData) (s : Server) :
    (program (.connectCreating data)).rest.resume s
      = ((resume (.connectCreating data) s).1,
        (resume (.connectCreating data) s).2.map program) := by
  show Async.resume (call (createTCPAddress data.id).rest >>= handleConnectCreated data) s = _
  rw [call, Async.resume, advance_bind, advance_bind]
  simp only [resume]
  cases hm : s.subnets.member (parseIPAddress data.id) with
  | none =>
    rw [advance_createTCPAddress_threw data.id s hm]
    rfl
  | some m =>
    rw [advance_createTCPAddress data.id s hm]
    rfl

private theorem resume_connectCreated (data : IConnectData) (clientAlias : String) (s : Server) :
    (handleConnectCreated data clientAlias).resume s
      = ((handleConnect data clientAlias s).1,
        (handleConnect data clientAlias s).2.map program) := by
  simp only [ServerTask.handleConnect]
  show Async.resume (if !(s.aliases.get data.remoteAlias).any MAlias.accepting then _ else _) s
    = _
  by_cases h : (s.aliases.get data.remoteAlias).any MAlias.accepting
  · rw [if_pos h, h, if_neg (by decide)]
    cases hc : s.clients.get data.id with
    | none => rfl
    | some client => rfl
  · rw [if_neg h, Bool.eq_false_of_not_eq_true h, if_pos (by decide)]
    rfl

theorem resume_program (t : ServerTask) (s : Server) :
    t.program.rest.resume s = ((t.resume s).1, (t.resume s).2.map program) := by
  cases t with
  | received operation client => exact resume_handle operation client s
  | knockCreating data client => rfl
  | knockSearching data client newSuffix =>
    simp only [resume, program, createIPAddressSearched]
    by_cases h : newSuffix > 255
    · rw [if_pos h, if_pos h]
      rfl
    · rw [if_neg h, if_neg h]
      rfl
  | knockCreated client id =>
    simp only [resume, program, handleKnockCreated]
    by_cases h : id = "-1"
    · rw [if_pos h, if_neg (not_not.mpr h)]
      rfl
    · rw [if_neg h, if_pos h]
      rfl
  | knockAcknowledged client id =>
    refine (resume_bind (advance_greetings id s)).trans ?_
    rw [List.nil_append]
    exact resume_registerGoodbye (Map.get_set_self _ id client)
  | bindClaiming data => exact resume_claim data s
  | bindClaimed data => exact resume_sendToAll _ _
  | shutdownPort data => rfl
  | shutdownPortRemoved data => rfl
  | shutdownAddress data => rfl
  | shutdownAddressRemoved data => exact resume_sendToAll _ _
  | connectCreating data => exact resume_createTCPAddress data s
  | connectSearching data newPort => rfl
  | connectCreated data clientAlias => exact resume_connectCreated data clientAlias s
  | connectRejecting data clientAlias client => rfl
  | connectRejected data clientAlias client => exact resume_reply _ _ s
  | connectClientNotified data clientAlias client =>
    refine (resume_bind (advance_get s)).trans ?_
    simp only [resume]
    cases s.aliases.get data.remoteAlias with
    | none => rfl
    | some entry =>
      show Async.resume (call (send (s.clients.get entry.id) _) >>= _) s = _
      simp only [Option.map_some]
      cases s.clients.get entry.id with
      | none => rfl
      | some server => rfl
  | connectServerNotified data clientAlias client serverId server => rfl
  | connectServerAccepted data client serverId => rfl
  | goodbyeAddress id => rfl
  | goodbyeAddressRemoved id =>
    refine (resume_bind (advance_sweep id s)).trans ?_
    rw [resume_sendToAll, List.append_nil]
    simp only [resume, List.map_map]
    rfl
  | releaseAddress id tcpAddress => rfl
  | releaseAddressRemoved id tcpAddress => rfl
  | releasePort id tcpAddress => rfl
  | releasePortRemoved id tcpAddress => exact resume_sendToAll _ _

/-- The tasks are the suspended handlers. -/
def bridge : TaskSystem.Hom system (TaskSystem.ofAsync Server SignalingError) where
  map := program
  ready_map := ready_program
  resume_map := resume_program

/-! ## The events -/

/-- A message starts the task `received`. -/
theorem resume_onMessage (operation : Operation) (client : Socket) (s : Server) :
    (onMessage operation client).resume s = (s, [(received operation client).program]) :=
  rfl

/-- The `close` event starts one task `goodbyeAddress` for each id of the socket. -/
theorem resume_close (client : Socket) (s : Server) :
    (close client).resume s
      = (s.closed client, ((s.closing client).map goodbyeAddress).map program) := by
  have hbody : ∀ (entry : Socket × String) (s : Server),
      advance (start (onClose entry.2)) s
        = ({ s with clients := s.clients.delete entry.2 },
          [(goodbyeAddress entry.2).program], .returned ()) :=
    fun _ _ => rfl
  have hfold : ∀ (l : List (Socket × String)) (s : Server),
      l.foldl (fun s entry => { s with clients := s.clients.delete entry.2 }) s
        = { s with clients := s.clients.filter fun id _ => id ∉ l.map Prod.snd } := by
    intro l s
    rw [← Map.foldl_delete]
    induction l generalizing s with
    | nil => rfl
    | cons entry l ih => rw [List.foldl_cons, ih, List.map_cons, List.foldl_cons]
  show (fun r : _ × _ × _ => (r.1, r.2.1 ++ r.2.2.toList)) (advance
    ((s.closeListeners.filter fun entry => entry.1 = client).forM fun entry =>
      start (onClose entry.2)) { s with
        closeListeners := s.closeListeners.filter fun entry => entry.1 ≠ client }) = _
  rw [advance_forM hbody, hfold, ← List.map_eq_flatMap]
  simp only [Outcome.toList, List.append_nil, closing, List.map_map]
  rfl

end ServerTask

end Unisockets.Signaling
