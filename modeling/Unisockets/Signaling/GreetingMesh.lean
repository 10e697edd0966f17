import Unisockets.Signaling.ClientIds
import Unisockets.Signaling.OpenAliases
import Unisockets.Signaling.Posts

/-!
# The greeting mesh

In a run of Knocks and closes only, every two clients that are registered at the
same time are introduced to each other exactly once: the Knock of the later one
sends a Greeting to the earlier one (`greeting_mesh`).

`removeIPAddress` is called for the ids of closing sockets only in such a run,
so that ids stay unique (`MeshIds`), and `clients` has exactly the ids that have
been registered and whose socket has not closed since (`MeshHistory`).
-/

namespace Unisockets.Signaling

open JsStd Transition

/-! ## Knocks and closes -/

/-- The messages are Knocks at a subnet. -/
def ServerStep.Knocks : ServerStep → Prop
  | .message (.knock data) _ => IsSubnet data.subnet
  | .message _ _ => False
  | .close _ | .resume _ => True

instance : DecidablePred ServerStep.Knocks
  | .message (.knock data) _ => inferInstanceAs (Decidable (IsSubnet data.subnet))
  | .message (.goodbye _) _ | .message (.acknowledged _) _ | .message (.greeting _) _
  | .message (.offer _) _ | .message (.answer _) _ | .message (.candidate _) _
  | .message (.bind _) _ | .message (.accepting _) _ | .message (.alias _) _
  | .message (.shutdown _) _ | .message (.connect _) _ | .message (.accept _) _ => isFalse id
  | .close _ | .resume _ => isTrue trivial

theorem ServerStep.Knocks.wellFormed {a : ServerStep} (h : a.Knocks) : a.WellFormed := by
  cases a with
  | message operation client =>
    cases operation with
    | knock data => exact h
    | _ => cases h
  | _ => trivial

namespace ServerTask

/-- The tasks of Knocks and closes. -/
def ofMesh : ServerTask → Bool
  | .received (.knock _) _ | .knockCreating .. | .knockSearching .. | .knockCreated ..
  | .knockAcknowledged .. | .goodbyeAddress _ | .goodbyeAddressRemoved _ => true
  | _ => false

/-- The id whose address a `close` listener has yet to remove. -/
def goodbyeId : ServerTask → Option String
  | .goodbyeAddress id => some id
  | _ => none

end ServerTask

/-- What a run of Knocks and closes keeps: there are no aliases, and an id that
has left is not given out again before its address has been removed. -/
structure MeshIds (s : Server) (l : List ServerTask) : Prop where
  aliases : s.aliases.entries = []
  tasks : ∀ t ∈ l, t.ofMesh = true
  listeners : (s.closeListeners.map Prod.snd).Nodup
  nodup : (l.filterMap ServerTask.goodbyeId).Nodup
  member : ∀ id ∈ l.filterMap ServerTask.goodbyeId,
    (s.subnets.member (parseIPAddress id)).isSome = true
  left : ∀ id ∈ l.filterMap ServerTask.goodbyeId, s.clients.get id = none
  notNew : ∀ id ∈ l.filterMap ServerTask.goodbyeId, id ∉ l.filterMap ServerTask.newId

namespace MeshIds

open ServerTask

variable {s s' : Server} {t : ServerTask} {l next : List ServerTask}

theorem init : MeshIds {} [] where
  aliases := rfl
  tasks t h := by cases h
  listeners := List.nodup_nil
  nodup := List.nodup_nil
  member id h := by cases h
  left id h := by cases h
  notNew id h := by cases h

theorem perm {l' : List ServerTask} (hl : l.Perm l') (h : MeshIds s l) : MeshIds s l' where
  aliases := h.aliases
  tasks t ht := h.tasks t (hl.mem_iff.mpr ht)
  listeners := h.listeners
  nodup := (hl.filterMap _).nodup_iff.mp h.nodup
  member id hid := h.member id ((hl.filterMap _).mem_iff.mpr hid)
  left id hid := h.left id ((hl.filterMap _).mem_iff.mpr hid)
  notNew id hid hnew :=
    h.notNew id ((hl.filterMap _).mem_iff.mpr hid) ((hl.filterMap _).mem_iff.mpr hnew)

/-- The id of a Knock is an address. -/
theorem isAddress_of_newId (ht : t.WellFormed) {id : String} (hid : t.newId = some id) :
    IsAddress id := by
  cases t with
  | knockCreated client id' =>
    simp only [newId] at hid
    split_ifs at hid with h
    · cases hid
      exact ht.resolve_left h
  | knockAcknowledged client id' =>
    cases hid
    exact ht
  | _ => cases hid

/-- The address that a `close` listener removes is the address of no client. -/
theorem spares {l' : List ServerTask} (h : MeshIds s (t :: l)) (hsane : Sane s (t :: l))
    (hl : l'.Perm (t :: l)) : (ServerStep.resume t).SparesClients ⟨s, l'⟩ := by
  intro a ha id hid
  have hmesh := h.tasks t List.mem_cons_self
  cases t with
  | goodbyeAddress id' =>
    cases ha
    have haddress : IsAddress a := hsane.tasks _ List.mem_cons_self
    have hgoodbye : a ∈ (goodbyeAddress a :: l).filterMap goodbyeId := List.mem_cons_self
    intro he
    rcases List.mem_append.mp hid with hid | hid
    · obtain ⟨client, hclient⟩ := Map.mem_keys_iff.mp hid
      rw [(hsane.isAddress hclient).ext haddress he, h.left _ hgoodbye] at hclient
      cases hclient
    · have hid : id ∈ (goodbyeAddress a :: l).filterMap newId :=
        (hl.filterMap _).mem_iff.mp hid
      obtain ⟨t, ht, hnew⟩ := List.mem_filterMap.mp hid
      have hnewAddress := isAddress_of_newId (hsane.tasks t ht) hnew
      exact h.notNew _ hgoodbye (hnewAddress.ext haddress he ▸ hid)
  | shutdownAddress => cases hmesh
  | releaseAddress => cases hmesh
  | _ => cases ha

/-- A step that leaves the clients alone and starts no `close` listener. -/
theorem keep (h : MeshIds s (t :: l)) (haliases : s'.aliases = s.aliases)
    (hclients : s'.clients = s.clients) (hlisteners : s'.closeListeners = s.closeListeners)
    (hmember : ∀ id ∈ l.filterMap goodbyeId, (s.subnets.member (parseIPAddress id)).isSome = true →
      (s'.subnets.member (parseIPAddress id)).isSome = true)
    (hnext : ∀ t' ∈ next, t'.ofMesh = true ∧ t'.goodbyeId = none)
    (hnew : ∀ id ∈ next.filterMap newId, id ∉ l.filterMap goodbyeId) :
    MeshIds s' (next ++ l) := by
  have hnone : next.filterMap goodbyeId = [] :=
    List.filterMap_eq_nil_iff.mpr fun t' ht' => (hnext t' ht').2
  have hlist : (next ++ l).filterMap goodbyeId = l.filterMap goodbyeId := by
    rw [List.filterMap_append, hnone, List.nil_append]
  have hsub : (l.filterMap goodbyeId).Sublist ((t :: l).filterMap goodbyeId) :=
    (List.sublist_cons_self t l).filterMap _
  constructor
  · rw [haliases]
    exact h.aliases
  · intro t' ht'
    rcases List.mem_append.mp ht' with ht' | ht'
    · exact (hnext t' ht').1
    · exact h.tasks t' (List.mem_cons_of_mem _ ht')
  · rw [hlisteners]
    exact h.listeners
  · rw [hlist]
    exact h.nodup.sublist hsub
  · intro id hid
    rw [hlist] at hid
    exact hmember id hid (h.member id (hsub.subset hid))
  · intro id hid
    rw [hlist] at hid
    rw [hclients]
    exact h.left id (hsub.subset hid)
  · intro id hid hnewid
    rw [hlist] at hid
    rw [List.filterMap_append] at hnewid
    rcases List.mem_append.mp hnewid with hnewid | hnewid
    · exact hnew id hnewid hid
    · refine h.notNew id (hsub.subset hid) ?_
      exact ((List.sublist_cons_self t l).filterMap _).subset hnewid

theorem resume (h : MeshIds s (t :: l)) (hsane : Sane s (t :: l))
    (hids : DistinctIds s (t :: l)) (hstep : Resumes s t s' next) : MeshIds s' (next ++ l) := by
  have hmesh := h.tasks t List.mem_cons_self
  have hwell := hsane.tasks t List.mem_cons_self
  cases hstep with
  | knock data client =>
    refine h.keep rfl rfl rfl (fun _ _ hm => hm) ?_ ?_
    · simp [ofMesh, goodbyeId]
    · simp [newId]
  | searchSuffix data client =>
    refine h.keep rfl rfl rfl (fun _ _ hm => ?_) ?_ ?_
    · show ((s.subnets.ensure data.subnet).member _).isSome = true
      rw [Subnets.member_ensure]
      exact hm
    · simp [ofMesh, goodbyeId]
    · simp [newId]
  | fullSubnet data client newSuffix hfull =>
    refine h.keep rfl rfl rfl (fun _ _ hm => hm) ?_ ?_
    · simp [ofMesh, goodbyeId]
    · simp [newId]
  | newMember data client newSuffix hfree =>
    have hfound := hsane.found _ List.mem_cons_self
    refine h.keep rfl rfl rfl (fun _ _ hm => ?_) ?_ ?_
    · exact (Subnets.isSome_member_setMember hfound.1).mpr (.inl hm)
    · simp [ofMesh, goodbyeId]
    · intro id hid hgoodbye
      obtain ⟨t', ht', hnew⟩ := List.mem_filterMap.mp hid
      rw [List.mem_singleton.mp ht'] at hnew
      have hid : id = toIPAddress data.subnet newSuffix := by
        simp only [newId] at hnew
        split_ifs at hnew
        exact (Option.some.inj hnew).symm
      -- the address that was found has no member, but an address to be removed has one
      have hmember := h.member id (((List.sublist_cons_self _ l).filterMap _).subset hgoodbye)
      rw [hid, parseIPAddress_toIPAddress hwell, hfound.2] at hmember
      cases hmember
  | acknowledged client id hid outbox =>
    refine h.keep rfl rfl rfl (fun _ _ hm => hm) ?_ ?_
    · simp [ofMesh, goodbyeId]
    · intro id' hid' hgoodbye
      have he : id' = id := by simpa [newId] using hid'
      refine h.notNew id' (((List.sublist_cons_self _ l).filterMap _).subset hgoodbye) ?_
      rw [he]
      simp [newId, hid]
  | overflow client outbox =>
    refine h.keep rfl rfl rfl (fun _ _ hm => hm) ?_ ?_
    · simp
    · simp
  | register client id outbox =>
    have hfresh : s.clients.get id = none := hids.fresh id List.mem_cons_self
    have hnew : id ∈ (knockAcknowledged client id :: l).filterMap newId := List.mem_cons_self
    have hsub : l.filterMap newId ⊆ (knockAcknowledged client id :: l).filterMap newId :=
      ((List.sublist_cons_self _ l).filterMap _).subset
    constructor
    · exact h.aliases
    · exact fun t' ht' => h.tasks t' (List.mem_cons_of_mem _ ht')
    · show ((s.closeListeners ++ [(client, id)]).map Prod.snd).Nodup
      rw [List.map_append, List.nodup_append]
      refine ⟨h.listeners, List.nodup_singleton _, fun id' hid' b hb he => ?_⟩
      obtain ⟨⟨client', id''⟩, hmem, rfl⟩ := List.mem_map.mp hid'
      rw [List.mem_singleton.mp hb] at he
      have hget := hids.listener hmem
      rw [show id'' = id from he, hfresh] at hget
      cases hget
    · exact h.nodup
    · exact h.member
    · intro id' hid'
      have hne : id' ≠ id := by
        rintro rfl
        exact h.notNew _ hid' hnew
      exact (Map.get_set_of_ne _ _ hne).trans (h.left id' hid')
    · exact fun id' hid' hmem => h.notNew id' hid' (hsub hmem)
  | goodbyeAddress id =>
    have hnodup : (id :: l.filterMap goodbyeId).Nodup := h.nodup
    refine h.keep rfl rfl rfl (fun id' hid' hm => ?_) ?_ ?_
    · refine Subnets.isSome_member_removeIPAddress.mpr ⟨hm, fun he => ?_⟩
      have haddress : IsAddress id' := by
        obtain ⟨t', ht', hgoodbye⟩ := List.mem_filterMap.mp hid'
        have hwell' := hsane.tasks t' (List.mem_cons_of_mem _ ht')
        cases t' with
        | goodbyeAddress id'' =>
          cases hgoodbye
          exact hwell'
        | _ => cases hgoodbye
      exact (List.nodup_cons.mp hnodup).1 (haddress.ext hwell he ▸ hid')
    · simp [ofMesh, goodbyeId]
    · simp [newId]
  | swept id outbox =>
    have hnone : s.owned id = [] := by
      rw [Server.owned, h.aliases]
      rfl
    have haliases : (s.sweep id).aliases = s.aliases := by
      refine Map.ext ?_
      show s.aliases.entries.filter _ = _
      rw [h.aliases]
      rfl
    rw [hnone]
    refine h.keep haliases rfl rfl (fun _ _ hm => hm) ?_ ?_
    · simp
    · simp
  | answered operation client outbox hanswered =>
    cases operation with
    | knock data => cases hanswered
    | _ => cases hmesh
  | _ => cases hmesh

theorem close (h : MeshIds s l) (hids : DistinctIds s l) (client : Socket) :
    MeshIds (s.closed client) ((s.closing client).map .goodbyeAddress ++ l) := by
  have hgoodbye : ((s.closing client).map goodbyeAddress ++ l).filterMap goodbyeId
      = s.closing client ++ l.filterMap goodbyeId := by
    rw [List.filterMap_append, List.filterMap_map]
    show (s.closing client).filterMap some ++ _ = _
    rw [List.filterMap_some]
  have hnew : ((s.closing client).map goodbyeAddress ++ l).filterMap newId
      = l.filterMap newId := by
    rw [List.filterMap_append, List.filterMap_map]
    show (s.closing client).filterMap (fun _ => none) ++ _ = _
    simp
  have hget : ∀ id ∈ s.closing client, s.clients.get id = some client := by
    intro id hid
    obtain ⟨⟨client', id'⟩, hmem, rfl⟩ := List.mem_map.mp hid
    obtain ⟨hmem, hclient⟩ := List.mem_filter.mp hmem
    have hclient : client' = client := of_decide_eq_true hclient
    exact hclient ▸ hids.listener hmem
  have hclosing : (s.closing client).Sublist (s.closeListeners.map Prod.snd) :=
    List.filter_sublist.map _
  constructor
  · exact h.aliases
  · intro t ht
    rcases List.mem_append.mp ht with ht | ht
    · obtain ⟨id, -, rfl⟩ := List.mem_map.mp ht
      rfl
    · exact h.tasks t ht
  · exact h.listeners.sublist (List.filter_sublist.map _)
  · rw [hgoodbye, List.nodup_append]
    refine ⟨h.listeners.sublist hclosing, h.nodup, fun id hid id' hid' he => ?_⟩
    have hsome := hget id hid
    rw [he, h.left id' hid'] at hsome
    cases hsome
  · intro id hid
    rw [hgoodbye] at hid
    rcases List.mem_append.mp hid with hid | hid
    · exact hids.member (hget id hid)
    · exact h.member id hid
  · intro id hid
    rw [hgoodbye] at hid
    rw [← Option.not_isSome_iff_eq_none, Option.isSome_iff_exists]
    rintro ⟨socket, hsocket⟩
    obtain ⟨hold, hkept⟩ := Map.get_filter_eq_some_iff.mp hsocket
    rcases List.mem_append.mp hid with hid | hid
    · exact of_decide_eq_true hkept hid
    · rw [h.left id hid] at hold
      cases hold
  · intro id hid hmem
    rw [hgoodbye] at hid
    rw [hnew] at hmem
    rcases List.mem_append.mp hid with hid | hid
    · have hsome := hget id hid
      rw [hids.fresh id hmem] at hsome
      cases hsome
    · exact h.notNew id hid hmem

end MeshIds

/-- Ids stay unique in a run of Knocks and closes. -/
theorem ServerRun.meshIds {steps : List (ServerPool × ServerStep)} {p : ServerPool}
    (hrun : ServerRun steps p) (hknocks : ∀ x ∈ steps, x.2.Knocks) :
    DistinctIds p.state p.tasks ∧ MeshIds p.state p.tasks := by
  have hall : Sane p.state p.tasks ∧ DistinctIds p.state p.tasks ∧ MeshIds p.state p.tasks := by
    refine hrun.invariant (I := fun s l => Sane s l ∧ DistinctIds s l ∧ MeshIds s l) hknocks
      ?_ ⟨.init, .init, .init⟩ ?_ ?_ ?_
    · exact fun s l l' hl h => ⟨h.1.perm hl, h.2.1.perm hl, h.2.2.perm hl⟩
    · intro s l operation client ⟨hsane, hids, hmesh⟩ ha
      refine ⟨hsane.message ha.wellFormed client, ⟨hids.member, hids.newMember, hids.fresh,
        hids.nodup, hids.listener⟩, ⟨hmesh.aliases, fun t ht => ?_, hmesh.listeners,
        hmesh.nodup, hmesh.member, hmesh.left, hmesh.notNew⟩⟩
      rcases List.mem_cons.mp ht with rfl | ht
      · cases operation with
        | knock data => rfl
        | _ => cases ha
      · exact hmesh.tasks t ht
    · exact fun s l client h _ =>
        ⟨h.1.close client, h.2.1.close client, h.2.2.close h.2.1 client⟩
    · intro s l t rest s' next hl ⟨hsane, hids, hmesh⟩ hready ha hstep
      exact ⟨hsane.resume hready hstep, hids.resume hsane hl (hmesh.spares hsane hl) hstep,
        hmesh.resume hsane hids hstep⟩
  exact hall.2

/-! ## Registrations -/

/-- A Knock registers its id for its socket: `clients.set`. -/
def Joins (id : String) (client : Socket) : ServerPool × ServerStep → Prop
  | (_, .resume (.knockAcknowledged client' id')) => client' = client ∧ id' = id
  | _ => False

/-- The id has been registered for the socket, which has not closed since. -/
def Present (steps : List (ServerPool × ServerStep)) (id : String) (client : Socket) : Prop :=
  Since (Joins id client) (¬Disconnects id ·) steps

/-- The messages that a step sends. -/
def ServerStep.posts : ServerPool × ServerStep → List (Socket × Operation)
  | (p, .resume t) => t.posts p.state
  | _ => []

theorem joins_resume {p : ServerPool} {t : ServerTask} {id : String} {client : Socket}
    (h : Joins id client (p, .resume t)) : t = .knockAcknowledged client id := by
  cases t with
  | knockAcknowledged client' id' =>
    obtain ⟨rfl, rfl⟩ := h
    rfl
  | _ => cases h

/-- What the past of a run says about `clients` and the outbox. -/
structure MeshHistory (steps : List (ServerPool × ServerStep)) (s : Server)
    (l : List ServerTask) : Prop where
  present : ∀ {id client}, s.clients.get id = some client ↔ Present steps id client
  outbox : s.outbox = steps.flatMap ServerStep.posts
  client : ∀ {id client}, s.clients.get id = some client → client ∈ s.outbox.map Prod.fst
  knock : ∀ {id client}, .knockAcknowledged client id ∈ l → client ∈ s.outbox.map Prod.fst
  first : ∀ {client post}, s.outbox.find? (fun post => decide (post.1 = client)) = some post →
    ∃ data, post.2 = .acknowledged data

namespace MeshHistory

variable {steps : List (ServerPool × ServerStep)} {p : ServerPool} {s s' : Server}
  {l l' : List ServerTask}

theorem perm (h : MeshHistory steps s l) (hl : l.Perm l') : MeshHistory steps s l' where
  present := h.present
  outbox := h.outbox
  client := h.client
  knock ht := h.knock (hl.mem_iff.mpr ht)
  first := h.first

/-- A message to a socket that has been sent one before is not the first one. -/
theorem first_append (h : MeshHistory steps s l) {posts : List (Socket × Operation)}
    (hposts : ∀ post ∈ posts, post.1 ∈ s.outbox.map Prod.fst ∨
      ∃ data, post.2 = .acknowledged data) {client : Socket} {post : Socket × Operation}
    (hpost : (s.outbox ++ posts).find? (fun post => decide (post.1 = client)) = some post) :
    ∃ data, post.2 = .acknowledged data := by
  rw [List.find?_append] at hpost
  cases hold : s.outbox.find? fun post => decide (post.1 = client) with
  | some post' =>
    rw [hold] at hpost
    cases hpost
    exact h.first hold
  | none =>
    rw [hold] at hpost
    have hnew : posts.find? (fun post => decide (post.1 = client)) = some post := hpost
    have hclient : post.1 = client := by simpa using List.find?_some hnew
    rcases hposts post (List.mem_of_find?_eq_some hnew) with hmem | hack
    · obtain ⟨post', hpost', he⟩ := List.mem_map.mp hmem
      have hnone := List.find?_eq_none.mp hold post' hpost'
      exact absurd (decide_eq_true (he.trans hclient)) hnone
    · exact hack

/-- A step of a Knock or of a `close` listener sends to clients, but for the
`Acknowledgement`. -/
theorem posts_of_mesh {t : ServerTask} (ht : t.ofMesh = true) {post : Socket × Operation}
    (hpost : post ∈ t.posts s) :
    (∃ id, s.clients.get id = some post.1) ∨ ∃ data, post.2 = .acknowledged data := by
  cases t with
  | received operation client =>
    cases operation with
    | knock data => cases hpost
    | _ => cases ht
  | knockCreated client id =>
    rw [List.mem_singleton.mp hpost]
    exact .inr ⟨_, rfl⟩
  | knockAcknowledged client id =>
    obtain ⟨entry, hentry, rfl⟩ := List.mem_map.mp hpost
    exact .inl ⟨entry.1, Map.mem_entries_iff.mp (List.mem_filter.mp hentry).1⟩
  | goodbyeAddressRemoved id =>
    obtain ⟨client, hclient, rfl⟩ := List.mem_map.mp hpost
    exact .inl (Map.mem_values_iff.mp hclient)
  | knockCreating | knockSearching | goodbyeAddress => cases hpost
  | _ => cases ht

/-- Greetings are sent when a Knock registers its id. -/
theorem knock_of_greeting {t : ServerTask} (ht : t.ofMesh = true) {client : Socket}
    {data : IGreetingData} (hpost : (client, .greeting data) ∈ t.posts s) :
    ∃ client', t = .knockAcknowledged client' data.answererId ∧
      data.offererId ≠ data.answererId ∧ s.clients.get data.offererId = some client := by
  cases t with
  | received operation client =>
    cases operation with
    | knock data => cases hpost
    | _ => cases ht
  | knockCreated client id => cases List.mem_singleton.mp hpost
  | knockAcknowledged client' id =>
    obtain ⟨entry, hentry, he⟩ := List.mem_map.mp hpost
    obtain ⟨hentry, hne⟩ := List.mem_filter.mp hentry
    cases he
    exact ⟨client', rfl, of_decide_eq_true hne, Map.mem_entries_iff.mp hentry⟩
  | goodbyeAddressRemoved id =>
    obtain ⟨client', -, he⟩ := List.mem_map.mp hpost
    cases he
  | knockCreating | knockSearching | goodbyeAddress => cases hpost
  | _ => cases ht

/-- Only a step of `knockCreated` leaves a Knock that has been acknowledged. -/
theorem knock_of_next {t : ServerTask} {client : Socket} {id : String}
    (h : .knockAcknowledged client id ∈ (t.resume s).2) : t = .knockCreated client id := by
  have hstep := ServerTask.resumes t s
  generalize (t.resume s).1 = s', (t.resume s).2 = next at hstep h
  cases hstep with
  | acknowledged client' id' hid outbox =>
    cases List.mem_singleton.mp h
    rfl
  | swept id' outbox =>
    obtain ⟨a, -, he⟩ := List.mem_map.mp h
    cases he
  | _ =>
    first
    | exact absurd h List.not_mem_nil
    | cases List.mem_singleton.mp h

theorem resume {t : ServerTask} (h : MeshHistory steps p.state (t :: l))
    (hids : DistinctIds p.state (t :: l)) (hmesh : MeshIds p.state (t :: l)) :
    MeshHistory (steps ++ [(p, .resume t)]) (t.resume p.state).1
      ((t.resume p.state).2 ++ l) := by
  have houtbox := ServerTask.outbox_resume t p.state
  have hold : ∀ {client}, client ∈ p.state.outbox.map Prod.fst →
      client ∈ (t.resume p.state).1.outbox.map Prod.fst := by
    intro client hclient
    rw [houtbox, List.map_append]
    exact List.mem_append_left _ hclient
  have hstays : ∀ id, ¬Disconnects id (p, .resume t) := fun id hd => hd
  constructor
  · intro id client
    have hpresent : Present (steps ++ [(p, .resume t)]) id client ↔
        Joins id client (p, .resume t) ∨ p.state.clients.get id = some client := by
      rw [h.present]
      refine since_snoc.trans (or_congr_right ?_)
      exact and_iff_left (hstays id)
    rw [hpresent]
    rcases (ServerTask.resumes t p.state).clients with hclients | ⟨client', id', rfl, hclients, -⟩
    · rw [hclients]
      refine ⟨.inr, fun hor => hor.resolve_left fun hjoins => ?_⟩
      -- a step that registers an id changes `clients`
      cases joins_resume hjoins
      have hget : (p.state.clients.set id client).get id = p.state.clients.get id :=
        congrArg (·.get id) hclients
      rw [Map.get_set_self, hids.fresh id List.mem_cons_self] at hget
      cases hget
    · rw [hclients, Map.get_set]
      have hfresh := hids.fresh id' List.mem_cons_self
      split_ifs with he
      · subst he
        rw [hfresh]
        simp [Joins]
      · simp [Joins, Ne.symm he]
  · rw [houtbox, List.flatMap_append, h.outbox]
    simp [ServerStep.posts]
  · intro id client hget
    rcases (ServerTask.resumes t p.state).clients with hclients | ⟨client', id', rfl, hclients, -⟩
    · exact hold (h.client (hclients ▸ hget))
    · rw [hclients, Map.get_set] at hget
      split_ifs at hget
      · cases hget
        exact hold (h.knock List.mem_cons_self)
      · exact hold (h.client hget)
  · intro id client ht
    rcases List.mem_append.mp ht with ht | ht
    · cases knock_of_next ht
      rw [houtbox, List.map_append]
      exact List.mem_append_right _ List.mem_cons_self
    · exact hold (h.knock (List.mem_cons_of_mem _ ht))
  · intro client post hpost
    rw [houtbox] at hpost
    refine h.first_append (fun post hpost => ?_) hpost
    exact (posts_of_mesh (hmesh.tasks t List.mem_cons_self) hpost).imp_left
      fun ⟨id, hget⟩ => h.client hget

end MeshHistory

theorem ServerRun.meshHistory {steps : List (ServerPool × ServerStep)} {p : ServerPool}
    (hrun : ServerRun steps p) (hknocks : ∀ x ∈ steps, x.2.Knocks) :
    MeshHistory steps p.state p.tasks := by
  induction hrun with
  | start hinit =>
    subst hinit
    refine ⟨?_, rfl, ?_, ?_, ?_⟩
    · intro id client
      refine iff_of_false (fun hget => by cases hget) ?_
      rintro ⟨before, x, after, hsteps, -⟩
      cases before <;> cases hsteps
    · intro id client hget
      cases hget
    · intro id client ht
      cases ht
    · intro client post hpost
      cases hpost
  | @snoc steps p p' y hrun hstep ih =>
    have hbefore : ∀ x ∈ steps, x.2.Knocks := fun x hx => hknocks x (List.mem_append_left _ hx)
    have h := ih hbefore
    obtain ⟨hids, hmesh⟩ := ServerRun.meshIds hrun hbefore
    cases hstep with
    | message operation client =>
      constructor
      · intro id client'
        refine h.present.trans (Iff.symm (since_snoc.trans ?_))
        simp [Joins, Disconnects, Present]
      · rw [List.flatMap_append, ← h.outbox]
        exact (List.append_nil _).symm
      · exact h.client
      · intro id client' ht
        rcases List.mem_append.mp ht with ht | ht
        · exact h.knock ht
        · cases List.mem_singleton.mp ht
      · exact h.first
    | close client =>
      constructor
      · intro id client'
        have hpresent : Present (steps ++ [(p, .close client)]) id client' ↔
            Present steps id client' ∧ id ∉ p.state.closing client := by
          refine since_snoc.trans ?_
          simp [Joins, Disconnects, Present]
        rw [hpresent, ← h.present]
        refine Map.get_filter_eq_some_iff.trans (and_congr_right fun _ => ?_)
        exact decide_eq_true_iff
      · rw [List.flatMap_append, ← h.outbox]
        exact (List.append_nil _).symm
      · exact fun hget => h.client (Map.get_filter_eq_some_iff.mp hget).1
      · intro id client' ht
        rcases List.mem_append.mp ht with ht | ht
        · exact h.knock ht
        · obtain ⟨id', -, he⟩ := List.mem_map.mp ht
          cases he
      · exact h.first
    | @resume i t _ ht hp =>
      obtain ⟨rest, hl, -, rfl⟩ := TaskSystem.resumed ht hp
      exact ((h.perm hl).resume (hids.perm hl) (hmesh.perm hl)).perm List.perm_append_comm

/-! ## The mesh -/

/-- The greetings of a run are those of a mesh. -/
structure ServerRun.Mesh (steps : List (ServerPool × ServerStep)) (p : ServerPool) : Prop where
  /-- What the steps send is what the server has sent. -/
  outbox : p.state.outbox = steps.flatMap ServerStep.posts
  /-- No id is registered twice at the same time. -/
  distinct : ∀ before y after, steps = before ++ y :: after → ∀ id client client',
    Joins id client y → ¬Present before id client'
  /-- A client is introduced once to every client that is there when it joins. -/
  greeted : ∀ before y after, steps = before ++ y :: after → ∀ id client id' client',
    Present before id client → Joins id' client' y →
    (client, .greeting { offererId := id, answererId := id' }) ∈ ServerStep.posts y ∧
    ((ServerStep.posts y).map Prod.snd).count
      (.greeting { offererId := id, answererId := id' }) = 1
  /-- There are no other greetings. -/
  only : ∀ before y after, steps = before ++ y :: after → ∀ client data,
    (client, .greeting data) ∈ ServerStep.posts y →
    data.offererId ≠ data.answererId ∧ Present before data.offererId client ∧
    ∃ client', Joins data.answererId client' y
  /-- The first message to a socket is an `Acknowledgement`. -/
  acknowledged : ∀ client post,
    p.state.outbox.find? (fun post => decide (post.1 = client)) = some post →
    ∃ data, post.2 = .acknowledged data

/-- The Knock of an id greets every other client once. -/
theorem count_greeting {s : Server} {id id' : String} {client client' : Socket}
    (hget : s.clients.get id = some client) (hne : id ≠ id') :
    (client, .greeting { offererId := id, answererId := id' }) ∈
      (ServerTask.knockAcknowledged client' id').posts s ∧
    (((ServerTask.knockAcknowledged client' id').posts s).map Prod.snd).count
      (.greeting { offererId := id, answererId := id' }) = 1 := by
  have hmem : (client, .greeting { offererId := id, answererId := id' }) ∈
      (ServerTask.knockAcknowledged client' id').posts s := by
    refine List.mem_map.mpr ⟨(id, client), ?_, rfl⟩
    exact List.mem_filter.mpr ⟨Map.mem_entries_iff.mpr hget, by simp [hne]⟩
  refine ⟨hmem, List.count_eq_one_of_mem ?_ (List.mem_map.mpr ⟨_, hmem, rfl⟩)⟩
  -- the greetings carry the keys of `clients`, which are distinct
  have hkeys : ((s.clients.entries.filter fun existing => existing.1 ≠ id').map Prod.fst).Nodup :=
    s.clients.nodup.sublist (List.filter_sublist.map _)
  have hgreetings := hkeys.map (f := fun key : String =>
    Operation.greeting { offererId := key, answererId := id' }) fun key key' he => by
      injection he with he
      exact congrArg IGreetingData.offererId he
  rw [List.map_map] at hgreetings
  show (List.map Prod.snd (List.map _ _)).Nodup
  rw [List.map_map]
  exact hgreetings

/-- In a run of Knocks and closes, in any interleaving of their handlers, the
greetings are those of a mesh. -/
theorem greeting_mesh {steps : List (ServerPool × ServerStep)} {p : ServerPool}
    (hrun : ServerRun steps p) (hknocks : ∀ x ∈ steps, x.2.Knocks) :
    ServerRun.Mesh steps p := by
  have hpast : ∀ {before y after}, steps = before ++ y :: after →
      MeshHistory before y.1.state y.1.tasks ∧ DistinctIds y.1.state y.1.tasks ∧
        MeshIds y.1.state y.1.tasks ∧ ∀ t, y.2 = .resume t → t ∈ y.1.tasks := by
    intro before y after hsteps
    obtain ⟨hbefore, s', hstep⟩ := hrun.of_append hsteps
    have hbeforeKnocks : ∀ x ∈ before, x.2.Knocks := by
      intro x hx
      refine hknocks x ?_
      rw [hsteps]
      exact List.mem_append_left _ hx
    obtain ⟨hids, hmesh⟩ := ServerRun.meshIds hbefore hbeforeKnocks
    refine ⟨ServerRun.meshHistory hbefore hbeforeKnocks, hids, hmesh, fun t ht => ?_⟩
    rw [ht] at hstep
    cases hstep with
    | resume hget _ => exact List.mem_of_getElem? hget
  have hfresh : ∀ {before y after}, steps = before ++ y :: after → ∀ {id client client'},
      Joins id client y → ¬Present before id client' := by
    intro before y after hsteps id client client' hjoins hpresent
    obtain ⟨h, hids, -, htask⟩ := hpast hsteps
    obtain ⟨p, a⟩ := y
    cases a with
    | resume t =>
      cases joins_resume hjoins
      have hget := h.present.mpr hpresent
      have hnew : id ∈ p.tasks.filterMap ServerTask.newId :=
        List.mem_filterMap.mpr ⟨_, htask _ rfl, rfl⟩
      rw [hids.fresh id hnew] at hget
      cases hget
    | _ => cases hjoins
  constructor
  · exact (ServerRun.meshHistory hrun hknocks).outbox
  · exact fun before y after hsteps id client client' => hfresh hsteps
  · intro before y after hsteps id client id' client' hpresent hjoins
    have hne : id ≠ id' := by
      rintro rfl
      exact hfresh hsteps hjoins hpresent
    have hget := (hpast hsteps).1.present.mpr hpresent
    obtain ⟨p, a⟩ := y
    cases a with
    | resume t =>
      cases joins_resume hjoins
      exact @count_greeting p.state id id' client client' hget hne
    | _ => cases hjoins
  · intro before y after hsteps client data hgreeting
    obtain ⟨h, -, hmesh, htask⟩ := hpast hsteps
    obtain ⟨p, a⟩ := y
    cases a with
    | resume t =>
      obtain ⟨client', rfl, hne, hget⟩ :=
        MeshHistory.knock_of_greeting (hmesh.tasks t (htask t rfl)) hgreeting
      exact ⟨hne, h.present.mp hget, client', rfl, rfl⟩
    | _ => cases hgreeting
  · exact fun client post => (ServerRun.meshHistory hrun hknocks).first

/-- Two sockets knock, the first one closes, and its id goes to a third one. -/
def meshEvents : List ServerEvent :=
  ServerRun.handling (.knock { subnet := "127.0.0", parentWs := "" }) 0 5 ++
  ServerRun.handling (.knock { subnet := "127.0.1", parentWs := "" }) 1 5 ++
  ServerRun.closing 0 2 ++
  ServerRun.handling (.knock { subnet := "127.0.0", parentWs := "" }) 2 5

theorem greeting_mesh_run : ∃ steps p, ServerRun steps p ∧
    p.state.outbox.filter (fun post => post.2 matches .greeting _) =
      [(0, .greeting ⟨"127.0.0.0", "127.0.1.0"⟩), (1, .greeting ⟨"127.0.1.0", "127.0.0.0"⟩)] ∧
    ServerRun.Mesh steps p := by
  obtain ⟨steps, p, hrun, hknocks, hgreetings⟩ := ServerRun.exists_along
    (P := fun steps p => (∀ x ∈ steps, x.2.Knocks) ∧
      p.state.outbox.filter (fun post => post.2 matches .greeting _) =
        [(0, .greeting ⟨"127.0.0.0", "127.0.1.0"⟩), (1, .greeting ⟨"127.0.1.0", "127.0.0.0"⟩)])
    meshEvents (by decide +kernel)
  exact ⟨steps, p, hrun, hgreetings, greeting_mesh hrun hknocks⟩

end Unisockets.Signaling
