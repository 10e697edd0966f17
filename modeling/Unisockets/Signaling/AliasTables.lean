import Unisockets.Signaling.RejectedRequests

/-!
# The alias tables of the clients

The table of a client is a replica of `aliases` that the `Alias` messages of
the server feed.  What counts is the table that the client will have when it has
handled everything that is on its way to it, `Network.eventual`.  Each entry of
that table should be registered, or a handler of the server is about to announce
that the alias is gone.

Three things can break this: a client that reconnects keeps its old table; the
later messages of a Connect announce aliases that may be gone by then; and a
Connect may register an alias of another client, which the others are not told.
`NetworkStep.KeepsTable` says that a step does none of them to a client.  In
every run whose steps keep the table of a client, it agrees with the server when
all is quiet (`alias_table_agrees`).  In `alias_table_stale` a client reconnects.
-/

namespace Unisockets.Signaling

open JsStd Transition

/-! ## What the server is about to announce -/

/-- The alias that a task will announce to be gone. -/
def ServerTask.unsets : ServerTask → Option String
  | .shutdownPort data => some data.alias
  | .shutdownPortRemoved data => some data.alias
  | .shutdownAddress data => some data.alias
  | .shutdownAddressRemoved data => some data.alias
  | .releaseAddress _ tcpAddress => some tcpAddress
  | .releaseAddressRemoved _ tcpAddress => some tcpAddress
  | .releasePort _ tcpAddress => some tcpAddress
  | .releasePortRemoved _ tcpAddress => some tcpAddress
  | _ => none

/-- An entry of a table is registered, or will be announced to be gone. -/
def Server.Knows (s : Server) (l : List ServerTask) (a id : String) : Prop :=
  (∃ entry ∈ s.aliases.get a, entry.id = id) ∨ ∃ t ∈ l, t.unsets = some a

instance (s : Server) (l : List ServerTask) (a id : String) : Decidable (s.Knows l a id) :=
  inferInstanceAs (Decidable (_ ∨ _))

namespace Server.Knows

open ServerTask

variable {s s' : Server} {t : ServerTask} {l next : List ServerTask} {a id : String}

theorem perm {l' : List ServerTask} (hl : l.Perm l') (h : s.Knows l a id) : s.Knows l' a id := by
  rcases h with hentry | ⟨t, ht, hunsets⟩
  · exact .inl hentry
  · exact .inr ⟨t, hl.mem_iff.mp ht, hunsets⟩

/-- A step that keeps the owners, and the announcement if it is about one. -/
theorem keep (h : s.Knows (t :: l) a id)
    (haliases : ∀ entry, s.aliases.get a = some entry → entry.id = id →
      s'.Knows (next ++ l) a id)
    (hunsets : ∀ a ∈ t.unsets, ∃ t' ∈ next, t'.unsets = some a) : s'.Knows (next ++ l) a id := by
  rcases h with ⟨entry, hentry, howner⟩ | ⟨t', ht', ha⟩
  · exact haliases entry hentry howner
  · rcases List.mem_cons.mp ht' with rfl | ht'
    · obtain ⟨t'', ht'', ha''⟩ := hunsets a ha
      exact .inr ⟨t'', List.mem_append_left _ ht'', ha''⟩
    · exact .inr ⟨t', List.mem_append_right _ ht', ha⟩

/-- A step that leaves the aliases alone. -/
theorem outside (h : s.Knows (t :: l) a id) (haliases : s'.aliases = s.aliases)
    (hunsets : ∀ a ∈ t.unsets, ∃ t' ∈ next, t'.unsets = some a) : s'.Knows (next ++ l) a id :=
  h.keep (fun entry hentry howner => .inl ⟨entry, haliases ▸ hentry, howner⟩) hunsets

/-- Registering another alias, or the same for the same owner. -/
theorem set (h : s.Knows (t :: l) a id) {a' : String} {entry' : MAlias}
    (haliases : s'.aliases = s.aliases.set a' entry')
    (howner : a = a' → ∀ entry, s.aliases.get a = some entry → entry.id = entry'.id)
    (ht : t.unsets = none) : s'.Knows (next ++ l) a id := by
  refine h.keep (fun entry hentry hid => .inl ?_) fun a'' ha'' => ?_
  · by_cases ha : a = a'
    · refine ⟨entry', ?_, (howner ha entry hentry).symm.trans hid⟩
      rw [haliases, ha]
      exact Map.get_set_self _ _ _
    · refine ⟨entry, ?_, hid⟩
      rw [haliases]
      exact (Map.get_set_of_ne _ _ ha).trans hentry
  · rw [ht] at ha''
    cases ha''

/-- What a step does to what the server knows: it still does, or all clients are
told about the alias. -/
theorem resume (h : s.Knows (t :: l) a id) (hstep : Resumes s t s' next)
    (hkeeps : ∀ data, t = .connectCreated data a →
      (s.aliases.get data.remoteAlias).any MAlias.accepting = true →
      id = data.id ∨ ∃ t' ∈ l, t'.unsets = some a) :
    s'.Knows (next ++ l) a id ∨
      ∃ id' set, ∀ socket ∈ s.clients.values, (socket, announce id' a set) ∈ t.posts s := by
  have htold : ∀ id' set, (socket : Socket) → socket ∈ s.clients.values →
      (socket, announce id' a set) ∈ s.toAll (announce id' a set) :=
    fun id' set socket hsocket => List.mem_map_of_mem hsocket
  have hnone : t.unsets = none → ∀ a ∈ t.unsets, ∃ t' ∈ next, t'.unsets = some a := by
    intro ht a ha
    rw [ht] at ha
    cases ha
  have hset : ∀ data clientAlias, t = .connectCreated data clientAlias →
      (s.aliases.get data.remoteAlias).any MAlias.accepting = true →
      s'.aliases = s.aliases.set clientAlias ⟨data.id, false⟩ → s'.Knows (next ++ l) a id := by
    intro data clientAlias ht hremote haliases
    by_cases ha : a = clientAlias
    · subst ha
      rcases hkeeps data ht hremote with rfl | ⟨t', ht', hunsets⟩
      · refine .inl ⟨⟨data.id, false⟩, ?_, rfl⟩
        rw [haliases]
        exact Map.get_set_self _ _ _
      · exact .inr ⟨t', List.mem_append_right _ ht', hunsets⟩
    · exact h.set haliases (fun he => absurd he ha) (by rw [ht]; rfl)
  cases hstep with
  | accepting data client entry hentry howner =>
    refine .inl (h.set rfl (fun ha entry' hentry' => ?_) rfl)
    rw [ha, hentry] at hentry'
    cases hentry'
    exact howner
  | shutdown data client entry hentry howner =>
    refine .inl (h.keep (fun entry' hentry' hid => ?_) (hnone rfl))
    by_cases ha : a = data.alias
    · exact .inr ⟨_, List.mem_cons_self, congrArg some ha.symm⟩
    · exact .inl ⟨entry', (Map.get_delete_of_ne _ ha).trans hentry', hid⟩
  | bound data outbox =>
    by_cases ha : a = data.alias
    · subst ha
      exact .inr ⟨data.id, true, htold _ _⟩
    · exact .inl (h.set rfl (fun he => absurd he ha) rfl)
  | accepted data clientAlias client hremote hclient outbox =>
    exact .inl (hset data clientAlias rfl hremote rfl)
  | orphaned data clientAlias hremote hclient =>
    exact .inl (hset data clientAlias rfl hremote rfl)
  | swept id' outbox =>
    refine .inl (h.keep (fun entry hentry hid => ?_) (hnone rfl))
    by_cases howner : entry.id = id'
    · refine .inr ⟨.releaseAddress id' a, List.mem_append_left _ (List.mem_map_of_mem ?_), rfl⟩
      exact List.mem_map.mpr ⟨(a, entry), List.mem_filter.mpr
        ⟨Map.mem_entries_iff.mpr hentry, decide_eq_true howner⟩, rfl⟩
    · exact .inl ⟨entry, Map.get_filter_eq_some_iff.mpr ⟨hentry, decide_eq_true howner⟩, hid⟩
  | addressRemoved data outbox =>
    by_cases ha : a = data.alias
    · subst ha
      exact .inr ⟨data.id, false, htold _ _⟩
    · left
      rcases h with hentry | ⟨t', ht', hunsets⟩
      · exact .inl hentry
      · rcases List.mem_cons.mp ht' with rfl | ht'
        · exact absurd (Option.some.inj hunsets).symm ha
        · exact .inr ⟨t', ht', hunsets⟩
  | releasedPort id' tcpAddress outbox =>
    by_cases ha : a = tcpAddress
    · subst ha
      exact .inr ⟨id', false, htold _ _⟩
    · left
      rcases h with hentry | ⟨t', ht', hunsets⟩
      · exact .inl hentry
      · rcases List.mem_cons.mp ht' with rfl | ht'
        · exact absurd (Option.some.inj hunsets).symm ha
        · exact .inr ⟨t', ht', hunsets⟩
  | shutdownPort data => exact .inl (h.outside rfl fun _ ha => ⟨_, List.mem_cons_self, ha⟩)
  | portRemoved data => exact .inl (h.outside rfl fun _ ha => ⟨_, List.mem_cons_self, ha⟩)
  | shutdownAddress data => exact .inl (h.outside rfl fun _ ha => ⟨_, List.mem_cons_self, ha⟩)
  | releaseAddress id' tcpAddress =>
    exact .inl (h.outside rfl fun _ ha => ⟨_, List.mem_cons_self, ha⟩)
  | releasedAddress id' tcpAddress =>
    exact .inl (h.outside rfl fun _ ha => ⟨_, List.mem_cons_self, ha⟩)
  | releasePort id' tcpAddress =>
    exact .inl (h.outside rfl fun _ ha => ⟨_, List.mem_cons_self, ha⟩)
  | _ => exact .inl (h.outside rfl (hnone rfl))

end Server.Knows

/-! ## The table that a client will have -/

/-- What an action does to the table. -/
def ClientAction.update (table : Map String String) : ClientAction → Map String String
  | .onAlias id tcpAddress set =>
    if set then table.set tcpAddress id else table.delete tcpAddress
  | _ => table

/-- Where an entry comes from: it has just been set, or it was there before and
nothing was said about its alias. -/
theorem get_foldl_update {l : List ClientAction} {table : Map String String} {a id : String}
    (h : (l.foldl ClientAction.update table).get a = some id) :
    .onAlias id a true ∈ l ∨
      table.get a = some id ∧ ∀ id' set, .onAlias id' a set ∉ l := by
  induction l generalizing table with
  | nil => exact .inr ⟨h, fun _ _ => List.not_mem_nil⟩
  | cons action l ih =>
    rcases ih h with hset | ⟨hget, hnone⟩
    · exact .inl (List.mem_cons_of_mem _ hset)
    · have hother : (∀ id' set, action ≠ .onAlias id' a set) →
          ∀ id' set, .onAlias id' a set ∉ action :: l := by
        intro hne id' set hmem
        rcases List.mem_cons.mp hmem with he | hmem
        · exact hne id' set he.symm
        · exact hnone id' set hmem
      cases action with
      | onAlias id' a' set =>
        by_cases ha : a = a'
        · subst ha
          cases set with
          | true =>
            have hget : (table.set a id').get a = some id := hget
            rw [Map.get_set_self] at hget
            cases hget
            exact .inl List.mem_cons_self
          | false =>
            have hget : (table.delete a).get a = some id := hget
            rw [Map.get_delete_self] at hget
            cases hget
        · refine .inr ⟨?_, hother fun id'' set' he => ha ?_⟩
          · have hget : (if set then table.set a' id' else table.delete a').get a
                = some id := hget
            split_ifs at hget
            · rw [Map.get_set_of_ne _ _ ha] at hget
              exact hget
            · rw [Map.get_delete_of_ne _ ha] at hget
              exact hget
          · cases he
            rfl
      | _ => exact .inr ⟨hget, hother fun _ _ he => by cases he⟩

/-- A step of a client does the first action that is left. -/
theorem foldl_update_step (E : Emittery (String × Nat)) (number : Nat) (c : SignalingClient)
    (rest : List ClientAction) :
    (SignalingClient.step E number c rest).2.foldl ClientAction.update
        (SignalingClient.step E number c rest).1.aliasesHolder
      = rest.foldl ClientAction.update c.aliasesHolder := by
  cases rest with
  | nil => rfl
  | cons action rest =>
    cases action with
    | emitting eventName data listeners =>
      show List.foldl _ (c.callAll _ _ _).aliasesHolder rest = _
      rw [SignalingClient.callAll_aliasesHolder]
      rfl
    | _ => rfl

namespace Network

variable {E : Emittery (String × Nat)} {p p' : Network} {a : NetworkStep} {client : Nat}

/-- A message is on its way on the socket of a client. -/
def For (p : Network) (client : Nat) (m : Message) : Bool :=
  (p.clients client).client.any fun ws => ws.socket = m.socket

/-- What is on its way to a client, in order. -/
def pending (p : Network) (client : Nat) : List ClientAction :=
  (p.clientTasks.filter fun t => t.client = client).flatMap ClientTask.rest
    ++ (p.down.filter (p.For client)).flatMap Message.actions

/-- The table of a client when it has handled what is on its way to it. -/
def eventual (p : Network) (client : Nat) : Map String String :=
  (p.pending client).foldl ClientAction.update (p.clients client).aliasesHolder

/-- The table stays what it will be where nothing changes for the client. -/
theorem eventual_congr (hclient : (p'.clients client).client.map WebSocket.socket
      = (p.clients client).client.map WebSocket.socket)
    (htable : (p'.clients client).aliasesHolder = (p.clients client).aliasesHolder)
    (htasks : (p'.clientTasks.filter fun t => t.client = client)
      = p.clientTasks.filter fun t => t.client = client)
    (hdown : p'.down.filter (p.For client) = p.down.filter (p.For client)) :
    p'.eventual client = p.eventual client := by
  have hfor : p'.For client = p.For client := by
    funext m
    have hany : ∀ ws : Option WebSocket, (ws.any fun ws => decide (ws.socket = m.socket))
        = (ws.map WebSocket.socket).any fun socket => decide (socket = m.socket) := by
      intro ws
      cases ws <;> rfl
    unfold For
    rw [hany, hany, hclient]
  unfold eventual pending
  rw [hfor, htable, htasks, hdown]

/-- The client itself is at its place. -/
theorem eventual_setClient (client' : Nat) (c : SignalingClient)
    (hc : client = client' → c.client.map WebSocket.socket
        = (p.clients client).client.map WebSocket.socket ∧
      c.aliasesHolder = (p.clients client).aliasesHolder)
    (hclients : p'.clients = (p.setClient client' c).clients)
    (htasks : p'.clientTasks = p.clientTasks) (hdown : p'.down = p.down) :
    p'.eventual client = p.eventual client := by
  have hclient : p'.clients client = if client = client' then c else p.clients client := by
    rw [hclients, clients_setClient]
  refine eventual_congr ?_ ?_ (by rw [htasks]) (by rw [hdown])
  · rw [hclient]
    split_ifs with he
    · exact (hc he).1
    · rfl
  · rw [hclient]
    split_ifs with he
    · exact (hc he).2
    · rfl

theorem length_remaining_le (client : Nat) (m : Message) (rest : List ClientAction) :
    (ClientTask.remaining client m rest).length ≤ 1 := by
  unfold ClientTask.remaining
  split_ifs <;> simp

theorem filter_remaining_self (client : Nat) (m : Message) (rest : List ClientAction) :
    (ClientTask.remaining client m rest).filter (fun t => t.client = client)
      = ClientTask.remaining client m rest := by
  refine List.filter_eq_self.mpr fun t ht => ?_
  rw [ClientTask.mem_remaining ht]
  exact decide_eq_true rfl

theorem filter_remaining_other {client' : Nat} (h : client' ≠ client) (m : Message)
    (rest : List ClientAction) :
    (ClientTask.remaining client' m rest).filter (fun t => t.client = client) = [] := by
  refine List.filter_eq_nil_iff.mpr fun t ht => ?_
  rw [ClientTask.mem_remaining ht]
  exact fun he => h (of_decide_eq_true he)

/-- A client takes a message when it has handled the last one. -/
theorem eventual_onmessage {m : Message} {before after : List Message}
    (hdown : p.down = before ++ m :: after) (hfirst : ∀ m' ∈ before, m'.socket ≠ m.socket)
    (hclient : (p.clients client).client = some ⟨m.socket, .OPEN⟩)
    (hidle : (p.clientTasks.filter fun t => t.client = client) = []) :
    (p.onmessage client m (before ++ after)).eventual client = p.eventual client := by
  have hfor : ∀ m', p.For client m' = decide (m.socket = m'.socket) := by
    intro m'
    unfold For
    rw [hclient]
    rfl
  have hbefore : before.filter (p.For client) = [] := by
    refine List.filter_eq_nil_iff.mpr fun m' hm' => ?_
    rw [hfor]
    exact fun he => hfirst m' hm' (of_decide_eq_true he).symm
  have hpending : (p.onmessage client m (before ++ after)).pending client
      = m.actions ++ (after.filter (p.For client)).flatMap Message.actions := by
    show ((p.clientTasks ++ ClientTask.remaining client m _).filter _).flatMap _
      ++ ((before ++ after).filter (p.For client)).flatMap _ = _
    rw [List.filter_append, hidle, filter_remaining_self, List.nil_append,
      ClientTask.flatMap_rest_remaining, List.filter_append, hbefore, List.nil_append]
    rfl
  have hold : p.pending client
      = m.actions ++ (after.filter (p.For client)).flatMap Message.actions := by
    have hm : p.For client m = true := by
      rw [hfor]
      exact decide_eq_true rfl
    unfold pending
    rw [hidle, hdown, List.filter_append, hbefore, List.filter_cons_of_pos hm]
    rfl
  unfold eventual
  rw [hpending, hold]
  rfl

/-- Another client takes a message. -/
theorem eventual_onmessage_other (hsockets : p.Sockets) {client' : Nat} (hne : client' ≠ client)
    {m : Message} {before after : List Message} (hdown : p.down = before ++ m :: after)
    (hclient : (p.clients client').client = some ⟨m.socket, .OPEN⟩) :
    (p.onmessage client' m (before ++ after)).eventual client = p.eventual client := by
  have hm : ¬p.For client m = true := by
    intro hfor
    obtain ⟨ws, hws, he⟩ := (Option.any_eq_true _ _).mp hfor
    exact hne (hsockets.unique hclient hws (of_decide_eq_true he).symm)
  refine eventual_congr rfl rfl ?_ ?_
  · show (p.clientTasks ++ _).filter _ = _
    rw [List.filter_append, filter_remaining_other hne, List.append_nil]
  · show (before ++ after).filter _ = _
    rw [hdown, List.filter_append, List.filter_append, List.filter_cons_of_neg hm]

/-- The only task of a client goes on. -/
theorem eventual_handle {task : ClientTask} {before after : List ClientTask}
    (htasks : p.clientTasks = before ++ task :: after)
    (hsingle : (p.clientTasks.filter fun t => t.client = task.client).length ≤ 1) :
    (p.handle E task (before ++ after)).eventual task.client = p.eventual task.client := by
  obtain ⟨client, m, rest⟩ := task
  have hfilter : p.clientTasks.filter (fun t => t.client = client)
      = before.filter (fun t => t.client = client)
        ++ ⟨client, m, rest⟩ :: after.filter fun t => t.client = client := by
    rw [htasks, List.filter_append]
    simp
  rw [hfilter, List.length_append, List.length_cons] at hsingle
  have hbefore : before.filter (fun t => t.client = client) = [] :=
    List.eq_nil_of_length_eq_zero (by omega)
  have hafter : after.filter (fun t => t.client = client) = [] :=
    List.eq_nil_of_length_eq_zero (by omega)
  have hdown : (p.handle E ⟨client, m, rest⟩ (before ++ after)).For client = p.For client := by
    funext m'
    unfold For
    rw [client_handle]
  have hself : ((p.handle E ⟨client, m, rest⟩ (before ++ after)).clients client)
      = (SignalingClient.step E m.number (p.clients client) rest).1 := by
    show (Function.update p.clients client _) client = _
    rw [Function.update_self]
  have hnew : (p.handle E ⟨client, m, rest⟩ (before ++ after)).clientTasks.filter
        (fun t => t.client = client)
      = ClientTask.remaining client m
        (SignalingClient.step E m.number (p.clients client) rest).2 := by
    show ((before ++ after) ++ ClientTask.remaining client m _).filter _ = _
    rw [List.filter_append, List.filter_append, hbefore, hafter, filter_remaining_self]
    rfl
  unfold eventual pending
  rw [hnew, hdown, hself, hfilter, hbefore, hafter, ClientTask.flatMap_rest_remaining,
    List.foldl_append, List.foldl_append, foldl_update_step]
  simp only [List.nil_append, List.flatMap_cons, List.flatMap_nil, List.append_nil]
  rfl

/-- Another client goes on. -/
theorem eventual_handle_other {task : ClientTask} (hne : task.client ≠ client)
    {before after : List ClientTask} (htasks : p.clientTasks = before ++ task :: after) :
    (p.handle E task (before ++ after)).eventual client = p.eventual client := by
  have hclient : (p.handle E task (before ++ after)).clients client = p.clients client := by
    show (Function.update p.clients task.client _) client = _
    rw [Function.update_of_ne hne.symm]
  refine eventual_congr (by rw [hclient]) (by rw [hclient]) ?_ rfl
  show ((before ++ after) ++ ClientTask.remaining _ _ _).filter _ = _
  rw [List.filter_append, filter_remaining_other hne, List.append_nil, htasks,
    List.filter_append, List.filter_append, List.filter_cons_of_neg]
  exact fun he => hne (of_decide_eq_true he)

/-- What a step of the server sends to a client. -/
def sends (p : Network) (client number : Nat) (t : ServerTask) : List ClientAction :=
  ((Message.numbered number p.nextNumber (t.posts p.server)).filter (p.For client)).flatMap
    Message.actions

theorem eventual_resume (number : Nat) (t : ServerTask) (serverTasks : List (Nat × ServerTask)) :
    (p.resume number t serverTasks).eventual client
      = (p.sends client number t).foldl ClientAction.update (p.eventual client) := by
  have hpending : (p.resume number t serverTasks).pending client
      = p.pending client ++ p.sends client number t := by
    show (p.clientTasks.filter _).flatMap _ ++ ((p.down ++ _).filter _).flatMap _ = _
    rw [List.filter_append, List.flatMap_append, ← List.append_assoc]
    rfl
  unfold eventual
  rw [hpending, List.foldl_append]
  rfl

/-- A client is told what is posted to its socket. -/
theorem mem_sends {number : Nat} {t : ServerTask} {action : ClientAction} :
    action ∈ p.sends client number t ↔ ∃ post ∈ t.posts p.server,
      (∃ ws, (p.clients client).client = some ws ∧ ws.socket = post.1) ∧
        action ∈ SignalingClient.handleOperation post.2 := by
  have hnumbered : ∀ (posts : List (Socket × Operation)) (n : Nat) (post : Socket × Operation),
      (∃ m ∈ Message.numbered number n posts, (m.socket, m.operation) = post) ↔ post ∈ posts := by
    intro posts
    induction posts with
    | nil => simp [Message.numbered]
    | cons post posts ih =>
      intro n post'
      simp only [Message.numbered, List.mem_cons, exists_eq_or_imp, ih]
      exact or_congr_left eq_comm
  have hfor : ∀ m, p.For client m = true ↔
      ∃ ws, (p.clients client).client = some ws ∧ ws.socket = m.socket := by
    intro m
    unfold For
    rw [Option.any_eq_true]
    exact exists_congr fun ws => and_congr_right fun _ => decide_eq_true_iff
  unfold sends
  rw [List.mem_flatMap]
  constructor
  · rintro ⟨m, hm, haction⟩
    obtain ⟨hm, hto⟩ := List.mem_filter.mp hm
    exact ⟨_, (hnumbered _ _ _).mp ⟨m, hm, rfl⟩, (hfor m).mp hto, haction⟩
  · rintro ⟨post, hpost, hto, haction⟩
    obtain ⟨m, hm, rfl⟩ := (hnumbered _ p.nextNumber _).mpr hpost
    exact ⟨m, List.mem_filter.mpr ⟨hm, (hfor m).mpr hto⟩, haction⟩

end Network

/-! ## The sockets that the server knows -/

/-- The socket that a Knock may register. -/
def ServerTask.origin : ServerTask → Option Socket
  | .received _ client => some client
  | .knockCreating _ client => some client
  | .knockSearching _ client _ => some client
  | .knockCreated client _ => some client
  | .knockAcknowledged client _ => some client
  | _ => none

namespace ServerTask.Resumes

variable {s s' : Server} {t : ServerTask} {next : List ServerTask}

/-- A Knock passes its socket on. -/
theorem origin (hstep : Resumes s t s' next) {t' : ServerTask} (ht' : t' ∈ next) {socket : Socket}
    (hsocket : t'.origin = some socket) : t.origin = some socket := by
  cases hstep with
  | swept id outbox =>
    obtain ⟨a, -, rfl⟩ := List.mem_map.mp ht'
    cases hsocket
  | knock data client =>
    rw [List.mem_singleton.mp ht'] at hsocket
    exact hsocket
  | searchSuffix data client =>
    rw [List.mem_singleton.mp ht'] at hsocket
    exact hsocket
  | fullSubnet data client newSuffix hfull =>
    rw [List.mem_singleton.mp ht'] at hsocket
    exact hsocket
  | newMember data client newSuffix hfree =>
    rw [List.mem_singleton.mp ht'] at hsocket
    exact hsocket
  | acknowledged client id hid outbox =>
    rw [List.mem_singleton.mp ht'] at hsocket
    exact hsocket
  | _ =>
    first
    | exact absurd ht' List.not_mem_nil
    | rw [List.mem_singleton.mp ht'] at hsocket
      cases hsocket

end ServerTask.Resumes

namespace Network

variable {E : Emittery (String × Nat)} {p p' : Network} {a : NetworkStep} {client : Nat}

/-- The server hears only of sockets that were opened. -/
structure Opened (p : Network) : Prop where
  up : ∀ m ∈ p.up, m.socket < p.nextSocket
  tasks : ∀ t ∈ p.serverTasks, ∀ socket, t.2.origin = some socket → socket < p.nextSocket
  clients : ∀ socket ∈ p.server.clients.values, socket < p.nextSocket

namespace Opened

/-- A step of the clients. -/
theorem keep (h : p.Opened) (hnext : p.nextSocket ≤ p'.nextSocket)
    (hup : ∀ m ∈ p'.up, m ∈ p.up ∨ m.socket < p.nextSocket)
    (htasks : p'.serverTasks = p.serverTasks) (hserver : p'.server = p.server) : p'.Opened := by
  constructor
  · intro m hm
    rcases hup m hm with hm | hm
    · exact Nat.lt_of_lt_of_le (h.up m hm) hnext
    · exact Nat.lt_of_lt_of_le hm hnext
  · rw [htasks]
    exact fun t ht socket hsocket => Nat.lt_of_lt_of_le (h.tasks t ht socket hsocket) hnext
  · rw [hserver]
    exact fun socket hsocket => Nat.lt_of_lt_of_le (h.clients socket hsocket) hnext

/-- A client sends on its own socket. -/
theorem mem_up_send {q : Network} (hsockets : ∀ {ws}, (q.clients client).client = some ws →
      ws.socket < p.nextSocket) (hup : q.up = p.up) {operation : Operation} :
    ∀ m ∈ (q.send client operation).up, m ∈ p.up ∨ m.socket < p.nextSocket := by
  intro m hm
  unfold send SignalingClient.outgoing at hm
  dsimp only at hm
  rw [hup] at hm
  cases hclient : (q.clients client).client with
  | none =>
    rw [hclient] at hm
    exact .inl hm
  | some ws =>
    rw [hclient] at hm
    obtain ⟨socket, readyState⟩ := ws
    cases readyState with
    | OPEN =>
      rcases List.mem_append.mp hm with hm | hm
      · exact .inl hm
      · rw [List.mem_singleton.mp hm]
        exact .inr (hsockets hclient)
    | _ => exact .inl hm

theorem step (h : p.Opened) (hsockets : p.Sockets) (hstep : Step E p a p') : p'.Opened := by
  cases hstep with
  | connecting hidle => exact h.keep (Nat.le_succ _) (fun _ hm => .inl hm) rfl rfl
  | @onopen client socket hclient =>
    refine h.keep (Nat.le_refl _) (mem_up_send ?_ rfl) rfl rfl
    intro ws hws
    rw [clients_setClient, if_pos rfl] at hws
    cases hws
    have hbelow := hsockets.below hclient
    exact hbelow
  | onclose hclient hlive => exact h.keep (Nat.le_refl _) (fun _ hm => .inl hm) rfl rfl
  | @request client request hfresh =>
    refine h.keep (Nat.le_refl _) (mem_up_send ?_ rfl) rfl rfl
    intro ws hws
    rw [clients_setClient, if_pos rfl] at hws
    exact hsockets.below hws
  | handleSend hrelayed =>
    exact h.keep (Nat.le_refl _) (mem_up_send (fun hws => hsockets.below hws) rfl) rfl rfl
  | onmessage hdown => exact h.keep (Nat.le_refl _) (fun _ hm => .inl hm) rfl rfl
  | handle htasks => exact h.keep (Nat.le_refl _) (fun _ hm => .inl hm) rfl rfl
  | @receive m before after hup hfirst hopen =>
    have hm : m ∈ p.up := mem_of_taken hup
    refine ⟨fun m' hm' => h.up m' (mem_of_rest hup hm'), fun t ht socket hsocket => ?_,
      h.clients⟩
    · rcases List.mem_append.mp ht with ht | ht
      · exact h.tasks t ht socket hsocket
      · rw [List.mem_singleton.mp ht] at hsocket
        cases hsocket
        exact h.up m hm
  | @close socket hsocket hopen =>
    refine ⟨h.up, fun t ht socket' hsocket' => ?_, fun socket' hsocket' => ?_⟩
    · rcases List.mem_append.mp ht with ht | ht
      · exact h.tasks t ht socket' hsocket'
      · obtain ⟨id, -, rfl⟩ := List.mem_map.mp ht
        cases hsocket'
    · obtain ⟨id, hid⟩ := Map.mem_values_iff.mp hsocket'
      exact h.clients socket' (Map.mem_values_iff.mpr
        ⟨id, (Map.get_filter_eq_some_iff.mp hid).1⟩)
  | @resume number task before after htasks hready =>
    have hold : ∀ t ∈ before ++ after, t ∈ p.serverTasks := fun t ht => mem_of_rest htasks ht
    have htask : (number, task) ∈ p.serverTasks :=
      mem_of_taken htasks
    have hresumes := ServerTask.resumes task p.server
    refine ⟨h.up, fun t ht socket hsocket => ?_, fun socket hsocket => ?_⟩
    · rcases List.mem_append.mp ht with ht | ht
      · exact h.tasks t (hold t ht) socket hsocket
      · obtain ⟨t', ht', rfl⟩ := List.mem_map.mp ht
        exact h.tasks _ htask socket (hresumes.origin ht' hsocket)
    · have hsocket : socket ∈ (task.resume p.server).1.clients.values := hsocket
      rcases hresumes.clients with hclients | ⟨client, id, rfl, hclients, -, -⟩
      · rw [hclients] at hsocket
        exact h.clients socket hsocket
      · rw [hclients] at hsocket
        rcases Map.mem_values_set hsocket with rfl | hsocket
        · exact h.tasks _ htask socket rfl
        · exact h.clients socket hsocket

end Opened

end Network

theorem NetworkRun.opened {E : Emittery (String × Nat)} {steps : List (Network × NetworkStep)}
    {p : Network} (hrun : NetworkRun E steps p) : p.Opened := by
  induction hrun with
  | start hinit =>
    obtain ⟨subnet, parentWsId, rfl⟩ := hinit
    constructor
    · exact fun m hm => absurd hm List.not_mem_nil
    · exact fun t ht => absurd ht List.not_mem_nil
    · exact fun socket hsocket => absurd hsocket List.not_mem_nil
  | snoc hrun hstep ih => exact ih.step (NetworkRun.sockets hrun) hstep

/-! ## What a client is told to enter -/

/-- A task tells a socket to enter an alias. -/
inductive ServerTask.Enters (s : Server) : ServerTask → Socket → String → String → Prop where
  | bound (data : IBindData) (socket : Socket) :
    Enters s (.bindClaimed data) socket data.id data.alias
  | rejected (data : IShutdownData) (client socket : Socket)
      (hforeign : ((s.aliases.get data.alias).any fun entry => entry.id = data.id) = false) :
    Enters s (.received (.shutdown data) client) socket data.id data.alias
  | connection (data : IConnectData) (clientAlias : String) (socket : Socket)
      (hremote : (s.aliases.get data.remoteAlias).any MAlias.accepting = true) :
    Enters s (.connectCreated data clientAlias) socket data.id clientAlias
  | client (data : IConnectData) (clientAlias : String) (client socket : Socket)
      (entry : MAlias) (hentry : s.aliases.get data.remoteAlias = some entry)
      (hsocket : s.clients.get entry.id = some socket) :
    Enters s (.connectClientNotified data clientAlias client) socket data.id clientAlias
  | remote (data : IConnectData) (client : Socket) (serverId : String) :
    Enters s (.connectServerAccepted data client serverId) client serverId data.remoteAlias

namespace ServerTask

variable {s : Server} {t : ServerTask} {socket : Socket} {operation : Operation} {id a : String}

/-- An `Alias` is handed on to the table. -/
theorem onAlias_handleOperation {data : IAliasData} {set : Bool} :
    .onAlias id a set ∈ SignalingClient.handleOperation (.alias data) ↔
      data.id = id ∧ data.alias = a ∧ data.set = set := by
  obtain ⟨before, hactions, hemits⟩ := Network.handleOperation_alias data
  rw [hactions, List.mem_append, List.mem_singleton]
  constructor
  · rintro (hmem | he)
    · cases hemits _ hmem
    · cases he
      exact ⟨rfl, rfl, rfl⟩
  · rintro ⟨rfl, rfl, rfl⟩
    exact .inr rfl

private theorem mem_toClient {client : String} {post : Operation}
    (h : (socket, operation) ∈ s.toClient client post) :
    s.clients.get client = some socket ∧ operation = post := by
  obtain ⟨socket', hsocket, he⟩ := List.mem_map.mp h
  cases he
  exact ⟨Option.mem_toList.mp hsocket, rfl⟩

private theorem eq_of_toAll {post : Operation} (h : (socket, operation) ∈ s.toAll post) :
    operation = post := by
  obtain ⟨socket', -, he⟩ := List.mem_map.mp h
  cases he
  rfl

private theorem enters_answers {received : Operation} {client : Socket}
    (h : (socket, operation) ∈ answers s received)
    (hsets : .onAlias id a true ∈ SignalingClient.handleOperation operation) :
    Enters s (.received received client) socket id a := by
  cases received with
  | offer data =>
    rw [(mem_toClient h).2] at hsets
    cases hsets
  | answer data =>
    rw [(mem_toClient h).2] at hsets
    cases hsets
  | candidate data =>
    rw [(mem_toClient h).2] at hsets
    cases hsets
  | bind data =>
    simp only [answers] at h
    split_ifs at h
    · rw [(mem_toClient h).2] at hsets
      cases (onAlias_handleOperation.mp hsets).2.2
    · cases h
  | shutdown data =>
    simp only [answers] at h
    split_ifs at h with howner
    · cases h
    · rw [(mem_toClient h).2] at hsets
      obtain ⟨rfl, rfl, -⟩ := onAlias_handleOperation.mp hsets
      exact .rejected data client socket (Bool.eq_false_of_not_eq_true howner)
  | _ => cases h

/-- What a client is told to enter, task by task. -/
theorem enters (h : (socket, operation) ∈ t.posts s)
    (hsets : .onAlias id a true ∈ SignalingClient.handleOperation operation) :
    Enters s t socket id a := by
  cases t with
  | received received client => exact enters_answers h hsets
  | knockCreated client id =>
    cases List.mem_singleton.mp h
    rcases List.mem_singleton.mp hsets
  | knockAcknowledged client id =>
    obtain ⟨existing, -, he⟩ := List.mem_map.mp h
    cases he
    cases hsets
  | bindClaimed data =>
    rw [eq_of_toAll h] at hsets
    obtain ⟨rfl, rfl, -⟩ := onAlias_handleOperation.mp hsets
    exact .bound data socket
  | shutdownAddressRemoved data =>
    rw [eq_of_toAll h] at hsets
    cases (onAlias_handleOperation.mp hsets).2.2
  | connectCreated data clientAlias =>
    simp only [posts] at h
    split_ifs at h with hremote
    · rw [(mem_toClient h).2] at hsets
      obtain ⟨rfl, rfl, -⟩ := onAlias_handleOperation.mp hsets
      exact .connection data clientAlias socket hremote
    · cases h
  | connectRejected data clientAlias client =>
    obtain ⟨socket', -, he⟩ := List.mem_map.mp h
    cases he
    cases (onAlias_handleOperation.mp hsets).2.2
  | connectClientNotified data clientAlias client =>
    simp only [posts] at h
    split at h
    · rename_i serverId hserver
      obtain ⟨entry, hentry, rfl⟩ := Option.map_eq_some_iff.mp hserver
      obtain ⟨hsocket, rfl⟩ := mem_toClient h
      obtain ⟨rfl, rfl, -⟩ := onAlias_handleOperation.mp hsets
      exact .client data clientAlias client socket entry hentry hsocket
    · cases h
  | connectServerNotified data clientAlias client serverId server =>
    cases List.mem_singleton.mp h
    rcases List.mem_singleton.mp hsets
  | connectServerAccepted data client serverId =>
    cases List.mem_singleton.mp h
    obtain ⟨rfl, rfl, -⟩ := onAlias_handleOperation.mp hsets
    exact .remote data socket _
  | goodbyeAddressRemoved id =>
    rw [eq_of_toAll h] at hsets
    cases hsets
  | releasePortRemoved id tcpAddress =>
    rw [eq_of_toAll h] at hsets
    cases (onAlias_handleOperation.mp hsets).2.2
  | _ => cases h

end ServerTask

/-! ## The steps that keep a table right -/

namespace Network

variable {E : Emittery (String × Nat)} {p p' : Network} {a : NetworkStep} {client : Nat}

/-- The last socket that a client has opened. -/
def Has (p : Network) (client : Nat) (socket : Socket) : Prop :=
  ∃ ws ∈ (p.clients client).client, ws.socket = socket

instance (p : Network) (client : Nat) (socket : Socket) : Decidable (p.Has client socket) :=
  inferInstanceAs (Decidable (∃ ws ∈ _, _))

/-- The server has the socket of a client. -/
def Registered (p : Network) (client : Nat) : Prop :=
  ∃ socket ∈ p.server.clients.values, p.Has client socket

instance (p : Network) (client : Nat) : Decidable (p.Registered client) :=
  inferInstanceAs (Decidable (∃ socket ∈ _, _))

/-- What the server does next leaves no wrong entry in the table of a client:
a client that is registered has none, a Connect takes an alias from the table
only where it is announced, and its later messages tell of aliases that are
still registered. -/
def KeepsTable (p : Network) (client : Nat) : ServerTask → Prop
  | .knockAcknowledged socket _ => p.Has client socket →
    ∀ entry ∈ (p.eventual client).entries, p.server.Knows p.pool.tasks entry.1 entry.2
  | .connectCreated data clientAlias =>
    (p.server.aliases.get data.remoteAlias).any MAlias.accepting = true → p.Registered client →
    ∀ id ∈ (p.eventual client).get clientAlias,
      id = data.id ∨ (∃ t ∈ p.pool.tasks, t.unsets = some clientAlias) ∨
        ∃ socket ∈ p.server.clients.get data.id, p.Has client socket
  | .connectClientNotified data clientAlias _ =>
    ∀ entry ∈ p.server.aliases.get data.remoteAlias,
      ∀ socket ∈ p.server.clients.get entry.id, p.Has client socket →
        p.server.Knows p.pool.tasks clientAlias data.id
  | .connectServerAccepted data socket serverId => p.Has client socket →
    p.server.Knows p.pool.tasks data.remoteAlias serverId
  | _ => True

instance (p : Network) (client : Nat) : DecidablePred (p.KeepsTable client)
  | .knockAcknowledged .. => inferInstanceAs (Decidable (_ → ∀ entry ∈ _, _))
  | .connectCreated .. => inferInstanceAs (Decidable (_ → _ → ∀ id ∈ _, _))
  | .connectClientNotified .. => inferInstanceAs (Decidable (∀ entry ∈ _, ∀ socket ∈ _, _ → _))
  | .connectServerAccepted .. => inferInstanceAs (Decidable (_ → _))
  | .received .. | .knockCreating .. | .knockSearching .. | .knockCreated .. | .bindClaiming _
  | .bindClaimed _ | .shutdownPort _ | .shutdownPortRemoved _ | .shutdownAddress _
  | .shutdownAddressRemoved _ | .connectCreating _ | .connectSearching .. | .connectRejecting ..
  | .connectRejected .. | .connectServerNotified .. | .goodbyeAddress _
  | .goodbyeAddressRemoved _ | .releaseAddress .. | .releaseAddressRemoved .. | .releasePort ..
  | .releasePortRemoved .. => isTrue trivial

end Network

namespace NetworkStep

/-- The server rejects a request. -/
def rejects (p : Network) : NetworkStep → Bool
  | .resume _ (.received (.bind data) _) => p.server.aliases.has data.alias
  | .resume _ (.received (.shutdown data) _) =>
    !(p.server.aliases.get data.alias).any fun entry => entry.id = data.id
  | .resume _ (.connectRejected ..) => true
  | _ => false

/-- A client takes a message when it has handled the last one. -/
def inTurn (p : Network) : NetworkStep → Bool
  | .onmessage client _ => p.clientTasks.all fun t => t.client ≠ client
  | _ => true

/-- The step leaves no wrong entry in the table of a client. -/
def KeepsTable (p : Network) (client : Nat) : NetworkStep → Prop
  | .resume _ task => p.KeepsTable client task
  | _ => True

instance (p : Network) (client : Nat) : DecidablePred (KeepsTable p client)
  | .resume _ task => inferInstanceAs (Decidable (p.KeepsTable client task))
  | .connecting _ | .onopen _ | .onclose _ | .request .. | .handleSend .. | .onmessage ..
  | .handle _ | .receive _ | .close _ => isTrue trivial

end NetworkStep

/-! ## The tables of a run -/

namespace Network

variable {E : Emittery (String × Nat)} {p p' : Network} {a : NetworkStep} {client : Nat}

/-- The table that a client will have agrees with the server, and the client
handles one message at a time. -/
structure Replica (p : Network) (client : Nat) : Prop where
  agrees : p.Registered client → ∀ a id, (p.eventual client).get a = some id →
    p.server.Knows p.pool.tasks a id
  single : (p.clientTasks.filter fun t => t.client = client).length ≤ 1

namespace Replica

/-- A step of the clients that leaves alone what one of them will have. -/
theorem keep (h : p.Replica client) (hserver : p'.server = p.server)
    (htasks : p'.serverTasks = p.serverTasks)
    (hsocket : (p'.clients client).client.map WebSocket.socket
      = (p.clients client).client.map WebSocket.socket)
    (htable : p'.eventual client = p.eventual client)
    (hsingle : (p'.clientTasks.filter fun t => t.client = client).length ≤ 1) :
    p'.Replica client := by
  refine ⟨?_, hsingle⟩
  rintro ⟨socket, hmem, ws, hws, rfl⟩ a id hget
  have hpool : p'.pool.tasks = p.pool.tasks := congrArg (List.map Prod.snd) htasks
  rw [Option.mem_def.mp hws] at hsocket
  obtain ⟨ws', hws', he⟩ := Option.map_eq_some_iff.mp hsocket.symm
  rw [hserver, hpool]
  rw [hserver] at hmem
  rw [htable] at hget
  exact h.agrees ⟨ws.socket, hmem, ws', hws', he⟩ a id hget

/-- One client is set, with the same table and the same socket. -/
theorem setClient (h : p.Replica client) {client' : Nat} {c : SignalingClient}
    (hclients : p'.clients = (p.setClient client' c).clients)
    (hserver : p'.server = p.server) (hserverTasks : p'.serverTasks = p.serverTasks)
    (htasks : p'.clientTasks = p.clientTasks) (hdown : p'.down = p.down)
    (hsocket : c.client.map WebSocket.socket = (p.clients client').client.map WebSocket.socket)
    (htable : c.aliasesHolder = (p.clients client').aliasesHolder) : p'.Replica client := by
  have hsame : client = client' → c.client.map WebSocket.socket
      = (p.clients client).client.map WebSocket.socket ∧
        c.aliasesHolder = (p.clients client).aliasesHolder := by
    rintro rfl
    exact ⟨hsocket, htable⟩
  refine h.keep hserver hserverTasks ?_ (eventual_setClient client' c hsame hclients htasks hdown)
    (htasks ▸ h.single)
  rw [hclients, clients_setClient]
  split_ifs with he
  · exact (hsame he).1
  · rfl

/-- The server takes note of something, and has no new client. -/
theorem noted (h : p.Replica client) {tasks : List (Nat × ServerTask)}
    (hclients : p'.clients = p.clients) (hclientTasks : p'.clientTasks = p.clientTasks)
    (hdown : p'.down = p.down) (haliases : p'.server.aliases = p.server.aliases)
    (hvalues : ∀ socket ∈ p'.server.clients.values, socket ∈ p.server.clients.values)
    (htasks : p'.serverTasks = p.serverTasks ++ tasks) : p'.Replica client := by
  refine ⟨?_, hclientTasks ▸ h.single⟩
  rintro ⟨socket, hmem, ws, hws, he⟩ a id hget
  have htable : p'.eventual client = p.eventual client :=
    eventual_congr (by rw [hclients]) (by rw [hclients]) (by rw [hclientTasks]) (by rw [hdown])
  rw [htable] at hget
  rw [hclients] at hws
  rcases h.agrees ⟨socket, hvalues socket hmem, ws, hws, he⟩ a id hget with
    hentry | ⟨t, ht, hunsets⟩
  · left
    rw [haliases]
    exact hentry
  · refine .inr ⟨t, ?_, hunsets⟩
    unfold pool
    rw [htasks, List.map_append]
    exact List.mem_append_left _ ht

/-- A new socket is not registered. -/
theorem connecting (h : p.Replica client) (hopened : p.Opened) (client' : Nat) :
    (p.connecting client').Replica client := by
  by_cases hc : client = client'
  · subst hc
    refine ⟨?_, h.single⟩
    rintro ⟨socket, hmem, ws, hws, rfl⟩
    have hws : ((p.setClient client _).clients client).client = some ws := hws
    rw [clients_setClient, if_pos rfl] at hws
    cases hws
    exact absurd (hopened.clients _ hmem) (Nat.lt_irrefl _)
  · have hclient : (p.connecting client').clients client = p.clients client := by
      show (p.setClient client' _).clients client = _
      rw [clients_setClient, if_neg hc]
    exact h.keep rfl rfl (by rw [hclient])
      (eventual_congr (by rw [hclient]) (by rw [hclient]) rfl rfl) h.single

variable {number : Nat} {task : ServerTask} {before after : List (Nat × ServerTask)}
  {alias' id : String}

/-- The tasks before a step of the server. -/
theorem perm_resumed (htasks : p.serverTasks = before ++ (number, task) :: after) :
    p.pool.tasks.Perm (task :: (before ++ after).map Prod.snd) := by
  unfold pool
  rw [htasks]
  exact List.perm_middle.map Prod.snd

/-- The tasks after it. -/
theorem knows_resume :
    (p.resume number task (before ++ after)).server.Knows
        (p.resume number task (before ++ after)).pool.tasks alias' id ↔
      (task.resume p.server).1.Knows
        ((task.resume p.server).2 ++ (before ++ after).map Prod.snd) alias' id := by
  have hpool : (p.resume number task (before ++ after)).pool.tasks
      = (before ++ after).map Prod.snd ++ (task.resume p.server).2 := by
    simp [pool, Network.resume]
  rw [hpool]
  exact ⟨Server.Knows.perm List.perm_append_comm, Server.Knows.perm List.perm_append_comm⟩

/-- What a step of the server tells a client is registered. -/
theorem told (htasks : p.serverTasks = before ++ (number, task) :: after)
    (hkeeps : p.KeepsTable client task)
    (hrejects : NetworkStep.rejects p (.resume number task) = false)
    {socket : Socket} (hhas : p.Has client socket)
    (henters : task.Enters p.server socket id alias') :
    (p.resume number task (before ++ after)).server.Knows
      (p.resume number task (before ++ after)).pool.tasks alias' id := by
  have houtside : p.server.Knows p.pool.tasks alias' id → task.unsets = none →
      (task.resume p.server).1.aliases = p.server.aliases →
      (p.resume number task (before ++ after)).server.Knows
        (p.resume number task (before ++ after)).pool.tasks alias' id := by
    intro hknows hunsets haliases
    refine knows_resume.mpr ((hknows.perm (perm_resumed htasks)).outside haliases ?_)
    rw [hunsets]
    exact fun a ha => by cases ha
  cases henters with
  | bound data => exact .inl ⟨⟨data.id, false⟩, Map.get_set_self _ _ _, rfl⟩
  | rejected data sender socket hforeign =>
    have hrejected : (!(p.server.aliases.get data.alias).any fun entry => entry.id = data.id)
        = false := hrejects
    rw [hforeign] at hrejected
    cases hrejected
  | connection data _ socket hremote =>
    refine .inl ⟨⟨data.id, false⟩, ?_, rfl⟩
    have hset : (ServerTask.handleConnect data alias' p.server).1.aliases
        = p.server.aliases.set alias' ⟨data.id, false⟩ := by
      unfold ServerTask.handleConnect
      rw [if_pos hremote]
      dsimp only
      split <;> rfl
    show (ServerTask.handleConnect data alias' p.server).1.aliases.get alias' = _
    rw [hset]
    exact Map.get_set_self _ _ _
  | client data _ sender socket entry hentry hsocket =>
    have hsame : ∀ s' next, ServerTask.Resumes p.server
        (.connectClientNotified data alias' sender) s' next →
        s'.aliases = p.server.aliases := by
      intro s' next hstep
      cases hstep <;> rfl
    exact houtside (hkeeps entry hentry socket hsocket hhas) rfl
      (hsame _ _ (ServerTask.resumes _ _))
  | remote data => exact houtside (hkeeps hhas) rfl rfl

/-- A step of the server. -/
theorem resume (h : p.Replica client) (htasks : p.serverTasks = before ++ (number, task) :: after)
    (hkeeps : p.KeepsTable client task)
    (hrejects : NetworkStep.rejects p (.resume number task) = false) :
    (p.resume number task (before ++ after)).Replica client := by
  refine ⟨?_, h.single⟩
  rintro ⟨socket, hmem, hhas⟩ alias' id hget
  have hhas : p.Has client socket := hhas
  rw [eventual_resume] at hget
  rcases get_foldl_update hget with hset | ⟨hold, hnone⟩
  · obtain ⟨⟨socket', operation⟩, hpost, htold, hset⟩ := mem_sends.mp hset
    exact told htasks hkeeps hrejects htold (ServerTask.enters hpost hset)
  have hsilent : ∀ data : IAliasData, data.alias = alias' → ∀ socket, p.Has client socket →
      (socket, Operation.alias data) ∉ task.posts p.server := by
    rintro data rfl socket' hhas' hpost
    exact hnone data.id data.set (mem_sends.mpr
      ⟨_, hpost, hhas', ServerTask.onAlias_handleOperation.mpr ⟨rfl, rfl, rfl⟩⟩)
  have hresumes := ServerTask.resumes task p.server
  by_cases hregistered : p.Registered client
  · -- nothing is said about the alias, so nothing has changed for it
    have hconnect : ∀ data, task = .connectCreated data alias' →
        (p.server.aliases.get data.remoteAlias).any MAlias.accepting = true →
        id = data.id ∨ ∃ t ∈ (before ++ after).map Prod.snd, t.unsets = some alias' := by
      rintro data rfl hremote
      rcases hkeeps hremote hregistered id hold with rfl | ⟨t, ht, hunsets⟩ |
        ⟨connecting, hconnecting, hhas'⟩
      · exact .inl rfl
      · rcases List.mem_cons.mp ((perm_resumed htasks).mem_iff.mp ht) with rfl | ht
        · cases hunsets
        · exact .inr ⟨t, ht, hunsets⟩
      · refine absurd ?_ (hsilent
          ⟨data.id, alias', true, some data.clientConnectionId, some true⟩ rfl connecting hhas')
        simp only [ServerTask.posts, hremote, if_true]
        exact List.mem_map.mpr ⟨connecting, Option.mem_toList.mpr hconnecting, rfl⟩
    have hknows := (h.agrees hregistered alias' id hold).perm (perm_resumed htasks)
    rcases hknows.resume hresumes hconnect with hknows | ⟨id', set, htold⟩
    · exact knows_resume.mpr hknows
    · obtain ⟨registered, hmem', hhas'⟩ := hregistered
      exact absurd (htold registered hmem') (hsilent ⟨id', alias', set, none, none⟩ rfl _ hhas')
  · -- the client has just been registered
    have hmem : socket ∈ (task.resume p.server).1.clients.values := hmem
    rcases hresumes.clients with hclients | ⟨registered, id', rfl, hclients, haliases, hnext⟩
    · rw [hclients] at hmem
      exact absurd ⟨socket, hmem, hhas⟩ hregistered
    · rw [hclients] at hmem
      rcases Map.mem_values_set hmem with rfl | hmem
      · have hknows := (hkeeps hhas (alias', id) (Map.mem_entries_iff.mpr hold)).perm
          (perm_resumed htasks)
        refine knows_resume.mpr (hknows.outside haliases ?_)
        exact fun a ha => by cases ha
      · exact absurd ⟨socket, hmem, hhas⟩ hregistered

/-- What a step of the run preserves. -/
theorem step (h : p.Replica client) (hopened : p.Opened) (hsockets : p.Sockets)
    (hrejects : a.rejects p = false) (hturn : a.inTurn p = true) (hkeeps : a.KeepsTable p client)
    (hstep : Step E p a p') : p'.Replica client := by
  cases hstep with
  | connecting hidle => exact h.connecting hopened _
  | onopen hclient => exact h.setClient rfl rfl rfl rfl rfl (by rw [hclient]; rfl) rfl
  | onclose hclient hlive => exact h.setClient rfl rfl rfl rfl rfl (by rw [hclient]; rfl) rfl
  | request hfresh => exact h.setClient rfl rfl rfl rfl rfl rfl rfl
  | handleSend hrelayed => exact h.keep rfl rfl rfl (eventual_congr rfl rfl rfl rfl) h.single
  | @onmessage client' m before after hdown hfirst hclient =>
    by_cases hc : client' = client
    · subst hc
      have hidle : (p.clientTasks.filter fun t => t.client = client') = [] :=
        List.filter_eq_nil_iff.mpr fun t ht he =>
          of_decide_eq_true (List.all_eq_true.mp hturn t ht) (of_decide_eq_true he)
      refine h.keep rfl rfl rfl (eventual_onmessage hdown hfirst hclient hidle) ?_
      show ((p.clientTasks ++ ClientTask.remaining client' m _).filter _).length ≤ 1
      rw [List.filter_append, hidle, filter_remaining_self]
      exact length_remaining_le _ _ _
    · refine h.keep rfl rfl rfl (eventual_onmessage_other hsockets hc hdown hclient) ?_
      show ((p.clientTasks ++ ClientTask.remaining client' m _).filter _).length ≤ 1
      rw [List.filter_append, filter_remaining_other hc, List.append_nil]
      exact h.single
  | @handle task before after htasks =>
    have hsingle := h.single
    by_cases hc : task.client = client
    · subst hc
      refine h.keep rfl rfl (by rw [client_handle]) (eventual_handle htasks hsingle) ?_
      have hlength : ((p.handle E task (before ++ after)).clientTasks.filter
          fun t => t.client = task.client).length ≤ (p.clientTasks.filter
            fun t => t.client = task.client).length := by
        show (((before ++ after) ++ ClientTask.remaining task.client _ _).filter _).length ≤ _
        rw [List.filter_append, filter_remaining_self, htasks, List.filter_append,
          List.filter_append]
        have hremaining := length_remaining_le task.client task.message
          (SignalingClient.step E task.message.number (p.clients task.client) task.rest).2
        simp only [List.filter_cons, decide_true, if_true, List.length_append, List.length_cons]
        omega
      omega
    · refine h.keep rfl rfl (by rw [client_handle]) (eventual_handle_other hc htasks) ?_
      have hlength : ((p.handle E task (before ++ after)).clientTasks.filter
          fun t => t.client = client).length = (p.clientTasks.filter
            fun t => t.client = client).length := by
        show (((before ++ after) ++ ClientTask.remaining task.client _ _).filter _).length = _
        rw [List.filter_append, filter_remaining_other hc, List.append_nil, htasks,
          List.filter_append, List.filter_append]
        simp only [List.filter_cons, decide_eq_false hc, Bool.false_eq_true, if_false]
      omega
  | @receive m before after hup hfirst hopen =>
    exact h.noted rfl rfl rfl rfl (fun _ hsocket => hsocket) rfl
  | @close socket hsocket hopen =>
    refine h.noted rfl rfl rfl rfl (fun socket' hsocket' => ?_) rfl
    obtain ⟨id, hid⟩ := Map.mem_values_iff.mp hsocket'
    exact Map.mem_values_iff.mpr ⟨id, (Map.get_filter_eq_some_iff.mp hid).1⟩
  | @resume number task before after htasks hready => exact h.resume htasks hkeeps hrejects

end Replica

end Network

theorem NetworkRun.replica {E : Emittery (String × Nat)} {steps : List (Network × NetworkStep)}
    {p : Network} {client : Nat} (hrun : NetworkRun E steps p)
    (hrejects : ∀ x ∈ steps, x.2.rejects x.1 = false)
    (hturn : ∀ x ∈ steps, x.2.inTurn x.1 = true)
    (hkeeps : ∀ x ∈ steps, x.2.KeepsTable x.1 client) : p.Replica client := by
  induction hrun with
  | start hinit =>
    obtain ⟨subnet, parentWsId, rfl⟩ := hinit
    refine ⟨?_, Nat.zero_le _⟩
    rintro ⟨socket, hmem, -⟩
    cases hmem
  | @snoc steps p p' a hrun hstep ih =>
    have hlast : (p, a) ∈ steps ++ [(p, a)] := List.mem_append_right _ List.mem_cons_self
    refine Network.Replica.step ?_ (NetworkRun.opened hrun) (NetworkRun.sockets hrun)
      (hrejects _ hlast) (hturn _ hlast) (hkeeps _ hlast) hstep
    exact ih (fun x hx => hrejects x (List.mem_append_left _ hx))
      (fun x hx => hturn x (List.mem_append_left _ hx))
      fun x hx => hkeeps x (List.mem_append_left _ hx)

/-- When all is quiet, a client that is connected will have the table it has. -/
theorem Network.eventual_of_quiet {p : Network} {client : Nat} {socket : Socket}
    (hquiet : p.Quiet) (hclient : (p.clients client).client = some ⟨socket, .OPEN⟩) :
    p.eventual client = (p.clients client).aliasesHolder := by
  have hdown : p.down.filter (p.For client) = [] := by
    refine List.filter_eq_nil_iff.mpr fun m hm hfor => ?_
    unfold Network.For at hfor
    rw [hclient] at hfor
    cases hquiet.down m hm client _ hclient (of_decide_eq_true hfor)
  unfold Network.eventual Network.pending
  rw [hquiet.clientTasks, hdown]
  rfl

/-- In every run without rejected requests whose steps keep the table of a
client, every entry of that table is registered for its owner when all is quiet
and the client is connected. -/
theorem alias_table_agrees {E : Emittery (String × Nat)} {steps : List (Network × NetworkStep)}
    {p : Network} (hrun : NetworkRun E steps p) (client : Nat)
    (hrejects : ∀ x ∈ steps, x.2.rejects x.1 = false)
    (hturn : ∀ x ∈ steps, x.2.inTurn x.1 = true)
    (hkeeps : ∀ x ∈ steps, x.2.KeepsTable x.1 client) (hquiet : p.Quiet) {id : String}
    (hreceives : p.Receives id client) (a owner : String)
    (hget : (p.clients client).aliasesHolder.get a = some owner) :
    ∃ entry, p.server.aliases.get a = some entry ∧ entry.id = owner := by
  obtain ⟨socket, hsocket, hclient⟩ := hreceives
  have hregistered : p.Registered client :=
    ⟨socket, Map.mem_values_iff.mpr ⟨id, hsocket⟩, _, hclient, rfl⟩
  rw [← Network.eventual_of_quiet hquiet hclient] at hget
  have hreplica := NetworkRun.replica hrun hrejects hturn hkeeps
  rcases hreplica.agrees hregistered a owner hget with ⟨entry, hentry, howner⟩ | ⟨t, ht, -⟩
  · exact ⟨entry, hentry, howner⟩
  · unfold Network.pool at ht
    rw [hquiet.serverTasks] at ht
    cases ht

/-- A client hears of an alias, loses its socket and opens another one. -/
def reconnecting (tcpAddress : String) (meanwhile : List Network.Event) : List Network.Event :=
  NetworkRun.join 0 0 ++ NetworkRun.join 1 1 ++ NetworkRun.notify 0 0 ++
  [.request 0 (.bind tcpAddress)] ++ NetworkRun.serve 0 3 ++
  NetworkRun.notify 0 3 ++ NetworkRun.notify 1 3 ++
  [.onclose 1, .close 1, .resume 0, .resume 0] ++ NetworkRun.notify 0 0 ++ meanwhile ++
  [.connecting 1, .onopen 1] ++ NetworkRun.serve 2 5 ++ NetworkRun.notify 1 1 ++
  NetworkRun.notify 0 0

theorem alias_table_agrees_run : ∃ steps p, NetworkRun .subscribed steps p ∧
    p.Receives "127.0.0.1" 1 ∧
    (p.clients 1).aliasesHolder.get "127.0.0.0:80" = some "127.0.0.0" ∧
    ∃ entry, p.server.aliases.get "127.0.0.0:80" = some entry ∧ entry.id = "127.0.0.0" := by
  obtain ⟨steps, p, hrun, hrejects, hturn, hkeeps, ⟨hclientTasks, hserverTasks, hup, hdown⟩,
      hsocket, hclient, hget⟩ :=
    NetworkRun.exists_along (E := .subscribed)
      (P := fun steps p => (∀ x ∈ steps, x.2.rejects x.1 = false) ∧
        (∀ x ∈ steps, x.2.inTurn x.1 = true) ∧ (∀ x ∈ steps, x.2.KeepsTable x.1 1) ∧
        (p.clientTasks = [] ∧ p.serverTasks = [] ∧ p.up = [] ∧ p.down = []) ∧
        p.server.clients.get "127.0.0.1" = some 2 ∧ (p.clients 1).client = some ⟨2, .OPEN⟩ ∧
        (p.clients 1).aliasesHolder.get "127.0.0.0:80" = some "127.0.0.0")
      "127.0.0" (reconnecting "127.0.0.0:80" []) (by decide +kernel)
  have hquiet := Network.Quiet.of_nil hclientTasks hserverTasks hup hdown
  have hreceives : p.Receives "127.0.0.1" 1 := ⟨2, hsocket, hclient⟩
  exact ⟨steps, p, hrun, hreceives, hget,
    alias_table_agrees hrun 1 hrejects hturn hkeeps hquiet hreceives _ _ hget⟩

/-! ## The defect -/

/-- A client that reconnects keeps an alias that was shut down in between. -/
theorem alias_table_stale : ∃ steps p, NetworkRun .subscribed steps p ∧
    (∀ x ∈ steps, x.2.rejects x.1 = false) ∧ (∀ x ∈ steps, x.2.inTurn x.1 = true) ∧ p.Quiet ∧
    ∃ client id a owner, p.Receives id client ∧
      (p.clients client).aliasesHolder.get a = some owner ∧ p.server.aliases.get a = none := by
  obtain ⟨steps, p, hrun, hrejects, hturn, ⟨hclientTasks, hserverTasks, hup, hdown⟩,
      hsocket, hclient, hget, hnone⟩ :=
    NetworkRun.exists_along (E := .subscribed)
      (P := fun steps p => (∀ x ∈ steps, x.2.rejects x.1 = false) ∧
        (∀ x ∈ steps, x.2.inTurn x.1 = true) ∧
        (p.clientTasks = [] ∧ p.serverTasks = [] ∧ p.up = [] ∧ p.down = []) ∧
        p.server.clients.get "127.0.0.1" = some 2 ∧ (p.clients 1).client = some ⟨2, .OPEN⟩ ∧
        (p.clients 1).aliasesHolder.get "127.0.0.7:80" = some "127.0.0.0" ∧
        p.server.aliases.get "127.0.0.7:80" = none)
      "127.0.0"
      (reconnecting "127.0.0.7:80" ([.request 0 (.shutdown "127.0.0.7:80")] ++
        NetworkRun.serve 0 5 ++ NetworkRun.notify 0 3))
      (by decide +kernel)
  exact ⟨steps, p, hrun, hrejects, hturn,
    Network.Quiet.of_nil hclientTasks hserverTasks hup hdown, 1, "127.0.0.1", _, _,
    ⟨2, hsocket, hclient⟩, hget, hnone⟩

end Unisockets.Signaling
