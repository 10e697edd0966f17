import Unisockets.Signaling.Network

/-!
# Accepted Connects

Once `handleConnect` has registered the alias of a connection it has four
messages to send: two `Alias` to the client that connects, and an `Alias` and
the `Accept` to the owner of the alias it connects to.  It looks the owner up
after its first await, and by then the owner may be gone.

`ServerStep.KeepsHosts` says that a step takes no alias and no owner away that
an accepted Connect has yet to look up.  In every run whose steps keep them,
every accepted Connect is announced in full (`connect_announced`); in
`connect_unannounced` the owner shuts its alias down in between.
-/

namespace Unisockets.Signaling

open JsStd Transition

/-! ## Hosts -/

/-- The alias whose owner a task is about to look up. -/
def ServerTask.sought : ServerTask → Option String
  | .connectClientNotified data _ _ => some data.remoteAlias
  | _ => none

/-- The alias is registered, and its owner is connected. -/
def Server.Hosts (s : Server) (a : String) : Prop :=
  ∃ entry ∈ s.aliases.get a, (s.clients.get entry.id).isSome = true

instance (s : Server) (a : String) : Decidable (s.Hosts a) :=
  inferInstanceAs (Decidable (∃ entry ∈ _, _))

/-- A step of a handler keeps the aliases that are sought, and a Connect is
accepted only between two clients that are connected. -/
def ServerTask.KeepsHosts (s : Server) (l : List ServerTask) : ServerTask → Prop
  | .received (.shutdown data) _ =>
    ((s.aliases.get data.alias).any fun entry => entry.id = data.id) = true →
      data.alias ∉ l.filterMap sought
  | .bindClaimed data => data.alias ∈ l.filterMap sought → (s.clients.get data.id).isSome = true
  | .connectCreated data _ => (s.aliases.get data.remoteAlias).any MAlias.accepting = true →
    (s.clients.get data.id).isSome = true ∧ s.Hosts data.remoteAlias
  | .goodbyeAddressRemoved id =>
    ∀ a ∈ l.filterMap sought, ∀ entry ∈ s.aliases.get a, entry.id ≠ id
  | _ => True

instance (s : Server) (l : List ServerTask) : DecidablePred (ServerTask.KeepsHosts s l)
  | .received (.shutdown _) _ => inferInstanceAs (Decidable (_ → _ ∉ _))
  | .bindClaimed _ => inferInstanceAs (Decidable (_ ∈ _ → _))
  | .connectCreated .. => inferInstanceAs (Decidable (_ → _ ∧ _))
  | .goodbyeAddressRemoved _ => inferInstanceAs (Decidable (∀ a ∈ _, ∀ entry ∈ _, _))
  | .received (.goodbye _) _ | .received (.knock _) _ | .received (.acknowledged _) _
  | .received (.greeting _) _ | .received (.offer _) _ | .received (.answer _) _
  | .received (.candidate _) _ | .received (.bind _) _ | .received (.accepting _) _
  | .received (.alias _) _ | .received (.connect _) _ | .received (.accept _) _
  | .knockCreating .. | .knockSearching .. | .knockCreated .. | .knockAcknowledged ..
  | .bindClaiming _ | .shutdownPort _ | .shutdownPortRemoved _ | .shutdownAddress _
  | .shutdownAddressRemoved _ | .connectCreating _ | .connectSearching .. | .connectRejecting ..
  | .connectRejected .. | .connectClientNotified .. | .connectServerNotified ..
  | .connectServerAccepted .. | .goodbyeAddress _ | .releaseAddress .. | .releaseAddressRemoved ..
  | .releasePort .. | .releasePortRemoved .. => isTrue trivial

/-- A step keeps the aliases that are sought, and their owners. -/
def ServerStep.KeepsHosts (p : ServerPool) : ServerStep → Prop
  | .resume t => t.KeepsHosts p.state p.tasks
  | .close client =>
    ∀ a ∈ p.tasks.filterMap ServerTask.sought, ∀ entry ∈ p.state.aliases.get a,
      entry.id ∉ p.state.closing client
  | .message _ _ => True

instance (p : ServerPool) : DecidablePred (ServerStep.KeepsHosts p)
  | .resume t => inferInstanceAs (Decidable (t.KeepsHosts p.state p.tasks))
  | .close _ => inferInstanceAs (Decidable (∀ a ∈ _, ∀ entry ∈ _, _))
  | .message _ _ => isTrue trivial

namespace Server.Hosts

variable {s s' : Server} {a : String}

/-- A step that leaves `aliases` and `clients` alone. -/
theorem outside (h : s.Hosts a) (haliases : s'.aliases = s.aliases)
    (hclients : s'.clients = s.clients) : s'.Hosts a := by
  obtain ⟨entry, hentry, howner⟩ := h
  exact ⟨entry, haliases ▸ hentry, hclients ▸ howner⟩

theorem set (h : s.Hosts a) {a' : String} {entry' : MAlias}
    (haliases : s'.aliases = s.aliases.set a' entry') (hclients : s'.clients = s.clients)
    (hnew : a = a' → (s.clients.get entry'.id).isSome = true) : s'.Hosts a := by
  obtain ⟨entry, hentry, howner⟩ := h
  by_cases ha : a = a'
  · subst ha
    refine ⟨entry', ?_, hclients ▸ hnew rfl⟩
    rw [haliases]
    exact Map.get_set_self _ _ _
  · refine ⟨entry, ?_, hclients ▸ howner⟩
    rw [haliases]
    exact (Map.get_set_of_ne _ _ ha).trans hentry

/-- What a step of a handler keeps. -/
theorem resume (h : s.Hosts a) {t : ServerTask} {l next : List ServerTask}
    (ha : a ∈ l.filterMap ServerTask.sought) (hkeeps : t.KeepsHosts s l)
    (hstep : ServerTask.Resumes s t s' next) : s'.Hosts a := by
  cases hstep with
  | accepting data client entry hentry howner =>
    refine h.set rfl rfl fun he => ?_
    obtain ⟨entry', hentry', hclient⟩ := h
    rw [he] at hentry'
    cases hentry'.symm.trans hentry
    rw [← howner]
    exact hclient
  | shutdown data client entry hentry howner =>
    obtain ⟨entry', hentry', hclient⟩ := h
    have hother : a ≠ data.alias := by
      rintro rfl
      refine hkeeps ?_ ha
      rw [hentry]
      exact decide_eq_true howner
    exact ⟨entry', (Map.get_delete_of_ne _ hother).trans hentry', hclient⟩
  | register client id outbox =>
    obtain ⟨entry, hentry, hclient⟩ := h
    refine ⟨entry, hentry, ?_⟩
    show ((s.clients.set id client).get entry.id).isSome = true
    rw [Map.get_set]
    split_ifs
    · rfl
    · exact hclient
  | bound data outbox => exact h.set rfl rfl fun he => hkeeps (he ▸ ha)
  | accepted data clientAlias client hremote hclient outbox =>
    exact h.set rfl rfl fun _ => (hkeeps hremote).1
  | orphaned data clientAlias hremote hclient =>
    exact h.set rfl rfl fun _ => (hkeeps hremote).1
  | swept id outbox =>
    obtain ⟨entry, hentry, hclient⟩ := h
    refine ⟨entry, ?_, hclient⟩
    exact Map.get_filter_eq_some_iff.mpr
      ⟨hentry, decide_eq_true (hkeeps a ha entry hentry)⟩
  | _ => exact h.outside rfl rfl

end Server.Hosts

/-- A task seeks an alias once its Connect has been accepted. -/
theorem ServerTask.Resumes.sought {s s' : Server} {t : ServerTask} {next : List ServerTask}
    (hstep : Resumes s t s' next) {a : String} (ha : a ∈ next.filterMap ServerTask.sought) :
    ∃ data clientAlias, t = .connectCreated data clientAlias ∧
      (s.aliases.get data.remoteAlias).any MAlias.accepting = true ∧ a = data.remoteAlias ∧
      s'.aliases = s.aliases.set clientAlias ⟨data.id, false⟩ ∧ s'.clients = s.clients := by
  cases hstep with
  | accepted data clientAlias client hremote hclient outbox =>
    exact ⟨data, clientAlias, rfl, hremote, List.mem_singleton.mp ha, rfl, rfl⟩
  | swept id outbox =>
    obtain ⟨t', ht', hsought⟩ := List.mem_filterMap.mp ha
    obtain ⟨b, -, rfl⟩ := List.mem_map.mp ht'
    cases hsought
  | _ => cases ha

/-- Whatever is sought can be found. -/
def Server.Seeking (s : Server) (l : List ServerTask) : Prop :=
  ∀ a ∈ l.filterMap ServerTask.sought, s.Hosts a

theorem ServerRun.seeking {steps : List (ServerPool × ServerStep)} {p : ServerPool}
    (hrun : ServerRun steps p) (hkeeps : ∀ x ∈ steps, x.2.KeepsHosts x.1) :
    p.state.Seeking p.tasks := by
  refine hrun.invariant (I := Server.Seeking) hkeeps
    ?_ ?_ ?_ ?_ ?_
  · exact fun s l l' hl h a ha => h a ((hl.filterMap _).mem_iff.mpr ha)
  · exact fun a ha => absurd ha List.not_mem_nil
  · exact fun s l operation client h _ => h
  · intro s l client h hkept a ha
    rw [List.filterMap_append, List.filterMap_map] at ha
    rcases List.mem_append.mp ha with ha | ha
    · obtain ⟨id, -, hid⟩ := List.mem_filterMap.mp ha
      cases hid
    · obtain ⟨entry, hentry, hclient⟩ := h a ha
      refine ⟨entry, hentry, ?_⟩
      obtain ⟨socket, hsocket⟩ := Option.isSome_iff_exists.mp hclient
      exact Option.isSome_iff_exists.mpr ⟨socket, Map.get_filter_eq_some_iff.mpr
        ⟨hsocket, decide_eq_true (hkept a ha entry hentry)⟩⟩
  · intro s l t rest s' next hl h _ hkept hstep a ha
    have hsought : ∀ a ∈ rest.filterMap ServerTask.sought,
        a ∈ l.filterMap ServerTask.sought := by
      intro a ha
      refine (hl.filterMap _).mem_iff.mpr ?_
      rw [List.filterMap_cons]
      split
      · exact ha
      · exact List.mem_cons_of_mem _ ha
    have hrest : ∀ a ∈ rest.filterMap ServerTask.sought, s'.Hosts a := by
      intro a ha
      exact (h a ((hl.filterMap _).mem_iff.mp (hsought a ha))).resume (hsought a ha) hkept hstep
    rw [List.filterMap_append] at ha
    rcases List.mem_append.mp ha with ha | ha
    · obtain ⟨data, clientAlias, rfl, hremote, rfl, haliases, hclients⟩ := hstep.sought ha
      obtain ⟨hclient, hhosts⟩ := hkept hremote
      exact hhosts.set haliases hclients fun _ => hclient
    · exact hrest a ha

/-! ## The messages of a Connect -/

/-- The handler of a Connect has registered the alias of the connection, and this is the socket
that the client that connects has then. -/
def ConnectsFrom (steps : List (Network × NetworkStep)) (n : Nat) (data : IConnectData)
    (clientAlias : String) (client : Socket) : Prop :=
  ∃ x ∈ steps, x.2 = .resume n (.connectCreated data clientAlias) ∧
    x.1.server.clients.get data.id = some client

/-- The handler of a Connect has found the owner of the remote alias. -/
def Found (steps : List (Network × NetworkStep)) (n : Nat) (remoteAlias serverId : String)
    (server : Socket) : Prop :=
  ∃ x ∈ steps, ∃ t, x.2 = .resume n t ∧
    (x.1.server.aliases.get remoteAlias).map MAlias.id = some serverId ∧
    x.1.server.clients.get serverId = some server

/-- All four messages of a connection have been sent: two to the client that
connects, on the socket that it had when its alias was registered, and two to
the owner of the alias that it connects to. -/
def Announced (steps : List (Network × NetworkStep)) (n : Nat) (data : IConnectData)
    (clientAlias : String) : Prop :=
  ∃ client serverId server, ConnectsFrom steps n data clientAlias client ∧
    Found steps n data.remoteAlias serverId server ∧
    Sent steps n client (ServerTask.connectionAlias data clientAlias) ∧
    Sent steps n server (ServerTask.announce data.id clientAlias true) ∧
    Sent steps n server (.accept { boundAlias := data.remoteAlias, clientAlias := clientAlias }) ∧
    Sent steps n client (ServerTask.remoteAlias data serverId)

/-- An accepted Connect, at every point of its handler. -/
inductive Carried (steps : List (Network × NetworkStep)) (p : Network) (n : Nat)
    (data : IConnectData) (clientAlias : String) : Prop where
  | clientNotified {client : Socket} (hconnects : ConnectsFrom steps n data clientAlias client)
      (hclient : Sent steps n client (ServerTask.connectionAlias data clientAlias))
      (ht : (n, .connectClientNotified data clientAlias client) ∈ p.serverTasks)
  | serverNotified {client server : Socket} {serverId : String}
      (hconnects : ConnectsFrom steps n data clientAlias client)
      (hclient : Sent steps n client (ServerTask.connectionAlias data clientAlias))
      (hfound : Found steps n data.remoteAlias serverId server)
      (hserver : Sent steps n server (ServerTask.announce data.id clientAlias true))
      (ht : (n, .connectServerNotified data clientAlias client serverId server) ∈ p.serverTasks)
  | serverAccepted {client server : Socket} {serverId : String}
      (hconnects : ConnectsFrom steps n data clientAlias client)
      (hclient : Sent steps n client (ServerTask.connectionAlias data clientAlias))
      (hfound : Found steps n data.remoteAlias serverId server)
      (hserver : Sent steps n server (ServerTask.announce data.id clientAlias true))
      (haccept : Sent steps n server
        (.accept { boundAlias := data.remoteAlias, clientAlias := clientAlias }))
      (ht : (n, .connectServerAccepted data client serverId) ∈ p.serverTasks)
  | announced (h : Announced steps n data clientAlias)

section Steps

variable {E : Emittery (String × Nat)} {steps steps' : List (Network × NetworkStep)}
  {p p' : Network} {a : NetworkStep} {n : Nat} {data : IConnectData} {clientAlias : String}

theorem ConnectsFrom.mono {client : Socket} (hsteps : steps ⊆ steps')
    (h : ConnectsFrom steps n data clientAlias client) :
    ConnectsFrom steps' n data clientAlias client := by
  obtain ⟨x, hx, hconnects⟩ := h
  exact ⟨x, hsteps hx, hconnects⟩

theorem Found.mono {remoteAlias serverId : String} {server : Socket} (hsteps : steps ⊆ steps')
    (h : Found steps n remoteAlias serverId server) :
    Found steps' n remoteAlias serverId server := by
  obtain ⟨x, hx, hfound⟩ := h
  exact ⟨x, hsteps hx, hfound⟩

theorem Announced.mono (hsteps : steps ⊆ steps') (h : Announced steps n data clientAlias) :
    Announced steps' n data clientAlias := by
  obtain ⟨client, serverId, server, hconnects, hfound, h₁, h₂, h₃, h₄⟩ := h
  exact ⟨client, serverId, server, hconnects.mono hsteps, hfound.mono hsteps, h₁.mono hsteps,
    h₂.mono hsteps, h₃.mono hsteps, h₄.mono hsteps⟩

/-- What an accepted Connect does first. -/
theorem Carried.accepted {client : Socket} {serverTasks : List (Nat × ServerTask)}
    (hremote : (p.server.aliases.get data.remoteAlias).any MAlias.accepting = true)
    (hclient : p.server.clients.get data.id = some client) :
    Carried (steps ++ [(p, .resume n (.connectCreated data clientAlias))])
      (p.resume n (.connectCreated data clientAlias) serverTasks) n data clientAlias := by
  refine @Carried.clientNotified _ _ _ _ _ client
    ⟨_, List.mem_append_right _ List.mem_cons_self, rfl, hclient⟩ (Sent.last ?_) ?_
  · simp [ServerTask.posts, hremote, Server.toClient, hclient]
  · refine List.mem_append_right _ (List.mem_map.mpr ⟨_, ?_, rfl⟩)
    simp [ServerTask.resume, ServerTask.handleConnect, hremote, hclient]

/-- A step of the run. -/
theorem Carried.step (h : Carried steps p n data clientAlias)
    (hhosts : p.server.Seeking p.pool.tasks) (hstep : Network.Step E p a p') :
    Carried (steps ++ [(p, a)]) p' n data clientAlias := by
  have hsteps : steps ⊆ steps ++ [(p, a)] := List.subset_append_left _ _
  cases h with
  | @clientNotified client hconnects hclient ht =>
    rcases mem_serverTasks_step hstep ht with hkept | ⟨rfl, serverTasks, rfl⟩
    · exact .clientNotified (hconnects.mono hsteps) (hclient.mono hsteps) hkept
    · have hsought : data.remoteAlias ∈ p.pool.tasks.filterMap ServerTask.sought :=
        List.mem_filterMap.mpr ⟨_, List.mem_map_of_mem ht, rfl⟩
      obtain ⟨entry, hentry, hconnected⟩ := hhosts _ hsought
      obtain ⟨server, hserver⟩ := Option.isSome_iff_exists.mp hconnected
      have hentry : p.server.aliases.get data.remoteAlias = some entry := hentry
      have hfound : Found
          (steps ++ [(p, .resume n (.connectClientNotified data clientAlias client))])
          n data.remoteAlias entry.id server := by
        refine ⟨_, List.mem_append_right _ List.mem_cons_self, _, rfl, ?_, hserver⟩
        rw [hentry]
        rfl
      refine .serverNotified (hconnects.mono hsteps) (hclient.mono hsteps) hfound
        (Sent.last ?_) ?_
      · simp [ServerTask.posts, hentry, Server.toClient, hserver]
      · refine List.mem_append_right _ (List.mem_map.mpr ⟨_, ?_, rfl⟩)
        simp [ServerTask.resume, hentry, hserver]
  | serverNotified hconnects hclient hfound hserver ht =>
    rcases mem_serverTasks_step hstep ht with hkept | ⟨rfl, serverTasks, rfl⟩
    · exact .serverNotified (hconnects.mono hsteps) (hclient.mono hsteps) (hfound.mono hsteps)
        (hserver.mono hsteps) hkept
    · refine .serverAccepted (hconnects.mono hsteps) (hclient.mono hsteps)
        (hfound.mono hsteps) (hserver.mono hsteps) (Sent.last List.mem_cons_self) ?_
      exact List.mem_append_right _ (List.mem_map.mpr ⟨_, List.mem_cons_self, rfl⟩)
  | serverAccepted hconnects hclient hfound hserver haccept ht =>
    rcases mem_serverTasks_step hstep ht with hkept | ⟨rfl, serverTasks, rfl⟩
    · exact .serverAccepted (hconnects.mono hsteps) (hclient.mono hsteps) (hfound.mono hsteps)
        (hserver.mono hsteps) (haccept.mono hsteps) hkept
    · exact .announced ⟨_, _, _, hconnects.mono hsteps, hfound.mono hsteps,
        hclient.mono hsteps, hserver.mono hsteps, haccept.mono hsteps,
        Sent.last List.mem_cons_self⟩
  | announced h => exact .announced (h.mono hsteps)

end Steps

/-! ## The runs that announce every connection -/

/-- What the step does to the server keeps the aliases that are sought. -/
def NetworkStep.KeepsHosts (p : Network) (a : NetworkStep) : Prop :=
  ∀ b ∈ a.server, b.KeepsHosts p.pool

instance (p : Network) (a : NetworkStep) : Decidable (a.KeepsHosts p) :=
  inferInstanceAs (Decidable (∀ b ∈ _, _))

theorem NetworkRun.seeking {E : Emittery (String × Nat)} {steps : List (Network × NetworkStep)}
    {p : Network} (hrun : NetworkRun E steps p) (hkeeps : ∀ x ∈ steps, x.2.KeepsHosts x.1) :
    p.server.Seeking p.pool.tasks := by
  obtain ⟨serverSteps, hserver, hsteps⟩ := NetworkRun.server hrun
  refine hserver.seeking fun x hx => ?_
  obtain ⟨y, hy, he, hstep⟩ := hsteps x hx
  rw [he]
  exact hkeeps y hy x.2 hstep

/-- In every run that keeps the aliases and the owners that accepted Connects
have yet to look up, all four messages of an accepted Connect are sent before
its handler ends. -/
theorem connect_announced {E : Emittery (String × Nat)} {steps : List (Network × NetworkStep)}
    {p : Network} (hrun : NetworkRun E steps p) (hkeeps : ∀ x ∈ steps, x.2.KeepsHosts x.1)
    {x : Network × NetworkStep} (hx : x ∈ steps) {n : Nat} {data : IConnectData}
    {clientAlias : String} (hcreated : x.2 = .resume n (.connectCreated data clientAlias))
    (hremote : (x.1.server.aliases.get data.remoteAlias).any MAlias.accepting = true) :
    (∃ t, (n, t) ∈ p.serverTasks) ∨ Announced steps n data clientAlias := by
  have hcarried : Carried steps p n data clientAlias := by
    induction hrun with
    | start hinit => cases hx
    | @snoc steps p p' a hrun hstep ih =>
      have hbefore : ∀ x ∈ steps, x.2.KeepsHosts x.1 :=
        fun x hx => hkeeps x (List.mem_append_left _ hx)
      rcases List.mem_append.mp hx with hx | hx
      · exact (ih hbefore hx).step (NetworkRun.seeking hrun hbefore) hstep
      · rw [List.mem_singleton.mp hx] at hcreated hremote
        have hcreated : a = .resume n (.connectCreated data clientAlias) := hcreated
        subst hcreated
        have hlast := hkeeps _ (List.mem_append_right _ List.mem_cons_self) _ rfl
        obtain ⟨client, hclient⟩ := Option.isSome_iff_exists.mp (hlast hremote).1
        cases hstep with
        | resume htasks hready => exact .accepted hremote hclient
  cases hcarried with
  | clientNotified _ _ ht => exact .inl ⟨_, ht⟩
  | serverNotified _ _ _ _ ht => exact .inl ⟨_, ht⟩
  | serverAccepted _ _ _ _ _ ht => exact .inl ⟨_, ht⟩
  | announced h => exact .inr h

/-- One client binds an alias and accepts, and the other asks for a connection:
the handler has its address. -/
def askingEvents : List Network.Event :=
  NetworkRun.join 0 0 ++ NetworkRun.join 1 1 ++
  [.request 0 (.bind "127.0.0.0:80")] ++ NetworkRun.serve 0 3 ++
  [.request 0 (.accept "127.0.0.0:80")] ++ NetworkRun.serve 0 1 ++
  [.request 1 (.connect "u" "127.0.0.0:80")] ++ NetworkRun.serve 1 3

theorem connect_announced_run : ∃ steps p, NetworkRun .subscribed steps p ∧
    p.serverTasks = [] ∧ Announced steps 9 ⟨"127.0.0.1", "127.0.0.0:80", "u"⟩ "127.0.0.1:0" := by
  obtain ⟨steps, p, hrun, hkeeps, hidle, x, hx, hcreated, hremote⟩ :=
    NetworkRun.exists_along (E := .subscribed)
      (P := fun steps p => (∀ x ∈ steps, x.2.KeepsHosts x.1) ∧ p.serverTasks = [] ∧
        ∃ x ∈ steps,
          x.2 = .resume 9 (.connectCreated ⟨"127.0.0.1", "127.0.0.0:80", "u"⟩ "127.0.0.1:0") ∧
          (x.1.server.aliases.get "127.0.0.0:80").any MAlias.accepting = true)
      "127.0.0" (askingEvents ++ List.replicate 4 (.resume 0)) (by decide +kernel)
  have hdone := connect_announced hrun hkeeps hx hcreated hremote
  refine ⟨steps, p, hrun, hidle, hdone.resolve_left ?_⟩
  rintro ⟨t, ht⟩
  rw [hidle] at ht
  cases ht

/-! ## The defect -/

/-- The owner shuts the alias down when the Connect has been accepted and before
its handler looks the owner up. -/
theorem connect_unannounced : ∃ steps p, NetworkRun .subscribed steps p ∧ p.serverTasks = [] ∧
    ∃ x ∈ steps, ∃ n data clientAlias, x.2 = .resume n (.connectCreated data clientAlias) ∧
      (x.1.server.aliases.get data.remoteAlias).any MAlias.accepting = true ∧
      p.server.aliases.has clientAlias = true ∧ ¬Announced steps n data clientAlias := by
  obtain ⟨steps, p, hrun, hidle, hhas, ⟨x, hx, hcreated, hremote⟩, hnone⟩ :=
    NetworkRun.exists_along (E := .subscribed)
      (P := fun steps p => p.serverTasks = [] ∧ p.server.aliases.has "127.0.0.1:0" = true ∧
        (∃ x ∈ steps,
          x.2 = .resume 9 (.connectCreated ⟨"127.0.0.1", "127.0.0.0:80", "u"⟩ "127.0.0.1:0") ∧
          (x.1.server.aliases.get "127.0.0.0:80").any MAlias.accepting = true) ∧
        ∀ x ∈ steps, ∀ post ∈ x.2.posts x.1, post.2 ≠
          .accept { boundAlias := "127.0.0.0:80", clientAlias := "127.0.0.1:0" })
      "127.0.0"
      (askingEvents ++ [.resume 0, .request 0 (.shutdown "127.0.0.0:80"), .receive 0, .resume 1] ++
        List.replicate 5 (.resume 0))
      (by decide +kernel)
  refine ⟨steps, p, hrun, hidle, x, hx, _, _, _, hcreated, hremote, hhas, ?_⟩
  rintro ⟨client, serverId, server, -, -, -, -, ⟨y, hy, -, hpost⟩, -⟩
  exact hnone y hy _ hpost rfl

end Unisockets.Signaling
