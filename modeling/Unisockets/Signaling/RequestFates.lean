import Unisockets.Signaling.AnsweredRequests
import Unisockets.Signaling.Delivery

/-!
# The fate of a Bind or a Shutdown

The server decides over a Bind or a Shutdown in one step of its handler and
tells the client about it in one step, which may be a later one.

`NetworkStep.verdict` is the decision of a step and `Decided` that of a run.
`Network.Followed` says where a request is: on its way to the server or in one
handler (`ServerTask.Serves`), which has decided at most once, or over; and that
everything that has been sent for it says what has been decided.
`NetworkRun.counted` and `Network.Followed.step` are the lemmas for runs and
steps.
-/

namespace Unisockets.Signaling

open JsStd Transition

/-! ## Decisions -/

/-- The requests that an `Alias` without a `clientConnectionId` answers. -/
def Operation.announced : Operation → Bool
  | .bind _ | .shutdown _ => true
  | _ => false

/-- The answer to a Bind or a Shutdown. -/
def Operation.reply (accepted : Bool) : Operation → Operation
  | .bind data => ServerTask.announce data.id data.alias accepted
  | .shutdown data => ServerTask.announce data.id data.alias !accepted
  | request => request

namespace ServerTask

/-- The decision over a Bind or a Shutdown: whether the alias is entered or
removed. -/
def verdict (s : Server) : ServerTask → Option Bool
  | .received (.bind data) _ => if s.aliases.has data.alias then some false else none
  | .bindClaimed _ => some true
  | .received (.shutdown data) _ =>
    some ((s.aliases.get data.alias).any fun entry => entry.id = data.id)
  | _ => none

/-- Whether the step tells the client what has been decided. -/
def concludes (s : Server) : ServerTask → Bool
  | .received (.bind data) _ => s.aliases.has data.alias
  | .received (.shutdown data) _ =>
    !(s.aliases.get data.alias).any fun entry => entry.id = data.id
  | .bindClaimed _ | .shutdownAddressRemoved _ => true
  | _ => false

/-- A point in the handler of a request, with what has been decided before. -/
inductive Serves : Operation → Option Bool → ServerTask → Prop where
  | received (request : Operation) (client : Socket) :
    Serves request none (.received request client)
  | bindClaiming (data : IBindData) : Serves (.bind data) none (.bindClaiming data)
  | bindClaimed (data : IBindData) : Serves (.bind data) none (.bindClaimed data)
  | shutdownPort (data : IShutdownData) :
    Serves (.shutdown data) (some true) (.shutdownPort data)
  | shutdownPortRemoved (data : IShutdownData) :
    Serves (.shutdown data) (some true) (.shutdownPortRemoved data)
  | shutdownAddress (data : IShutdownData) :
    Serves (.shutdown data) (some true) (.shutdownAddress data)
  | shutdownAddressRemoved (data : IShutdownData) :
    Serves (.shutdown data) (some true) (.shutdownAddressRemoved data)

/-- What a step does for the request that it serves.  `fate` is what has been
decided after it. -/
structure Served (s : Server) (t : ServerTask) (request : Operation) (before fate : Option Bool) :
    Prop where
  fate_eq : fate = (t.verdict s).or before
  first : t.verdict s ≠ none → before = none
  next : (t.resume s).2 = [] ∨ ∃ t', (t.resume s).2 = [t'] ∧ Serves request fate t'
  posts : ∀ post ∈ t.posts s, ∃ accepted, fate = some accepted ∧ post.2 = request.reply accepted
  told : (t.resume s).2 = [] → ∀ accepted, fate = some accepted → t.concludes s = true ∧
    ∀ id socket, request.sender = some id → s.clients.get id = some socket →
      (socket, request.reply accepted) ∈ t.posts s

/-- The steps in the middle of a handler decide nothing and send nothing. -/
theorem Served.pass {s : Server} {t t' : ServerTask} {request : Operation} {fate : Option Bool}
    (hverdict : t.verdict s = none) (hposts : t.posts s = []) (hnext : (t.resume s).2 = [t'])
    (hserves : Serves request fate t') : Served s t request fate fate where
  fate_eq := by rw [hverdict, Option.none_or]
  first h := absurd hverdict h
  next := .inr ⟨t', hnext, hserves⟩
  posts post hpost := by
    rw [hposts] at hpost
    cases hpost
  told h := by
    rw [hnext] at h
    cases h

private theorem eq_of_mem_toAll {s : Server} {operation : Operation}
    {post : Socket × Operation} (h : post ∈ s.toAll operation) : post.2 = operation := by
  obtain ⟨client, -, rfl⟩ := List.mem_map.mp h
  rfl

private theorem eq_of_mem_toClient {s : Server} {id : String} {operation : Operation}
    {post : Socket × Operation} (h : post ∈ s.toClient id operation) : post.2 = operation := by
  obtain ⟨client, -, rfl⟩ := List.mem_map.mp h
  rfl

/-- A handler that is at its end sends its answer. -/
theorem Served.last {s : Server} {t : ServerTask} {request : Operation} {before : Option Bool}
    {accepted : Bool} (hfate : some accepted = (t.verdict s).or before)
    (hfirst : t.verdict s ≠ none → before = none) (hconcludes : t.concludes s = true)
    (hnext : (t.resume s).2 = [])
    (hposts : ∀ post ∈ t.posts s, post.2 = request.reply accepted)
    (htold : ∀ id socket, request.sender = some id → s.clients.get id = some socket →
      (socket, request.reply accepted) ∈ t.posts s) :
    Served s t request before (some accepted) where
  fate_eq := hfate
  first := hfirst
  next := .inl hnext
  posts post hpost := ⟨accepted, rfl, hposts post hpost⟩
  told _ accepted' h := by
    cases h
    exact ⟨hconcludes, htold⟩

theorem Serves.resume {request : Operation} {before : Option Bool} {t : ServerTask}
    (h : Serves request before t) (hrequest : request.announced = true) (s : Server) :
    ∃ fate, Served s t request before fate := by
  cases h with
  | received _ client =>
    cases request with
    | bind data =>
      by_cases htaken : s.aliases.has data.alias = true
      · have hposts : posts s (.received (.bind data) client)
            = s.toClient data.id (announce data.id data.alias false) := by
          simp only [posts, answers, htaken, if_true]
        refine ⟨some false, .last ?_ (fun _ => rfl) htaken ?_ ?_ ?_⟩
        · simp only [verdict, htaken, if_true, Option.some_or]
        · simp only [ServerTask.resume, handle, htaken, if_true]
        · rw [hposts]
          exact fun post hpost => eq_of_mem_toClient hpost
        · rw [hposts]
          intro id socket hid hclient
          cases hid
          exact mem_toClient_self hclient
      · refine ⟨none, .pass ?_ ?_ ?_ (.bindClaiming data)⟩
        · simp only [verdict, htaken, Bool.false_eq_true, if_false]
        · simp only [posts, answers, htaken, Bool.false_eq_true, if_false]
        · simp only [ServerTask.resume, handle, htaken, Bool.false_eq_true, if_false]
    | shutdown data =>
      by_cases howner : ((s.aliases.get data.alias).any fun entry => entry.id = data.id) = true
      · refine ⟨some true, ?_, fun _ => rfl, .inr ⟨.shutdownPort data, ?_, .shutdownPort data⟩,
          ?_, ?_⟩
        · simp only [verdict, howner, Option.some_or]
        · simp only [ServerTask.resume, handle, howner, if_true]
        · simp only [posts, answers, howner, if_true]
          exact fun post hpost => absurd hpost List.not_mem_nil
        · simp only [ServerTask.resume, handle, howner, if_true]
          exact fun hnil => absurd hnil (List.cons_ne_nil _ _)
      · have hposts : posts s (.received (.shutdown data) client)
            = s.toClient data.id (announce data.id data.alias true) := by
          simp only [posts, answers, howner, Bool.false_eq_true, if_false]
        refine ⟨some false, .last ?_ (fun _ => rfl) ?_ ?_ ?_ ?_⟩
        · simp only [verdict, howner, Option.some_or]
        · simp only [concludes, howner, Bool.not_false]
        · simp only [ServerTask.resume, handle, howner, Bool.false_eq_true, if_false]
        · rw [hposts]
          exact fun post hpost => eq_of_mem_toClient hpost
        · rw [hposts]
          intro id socket hid hclient
          cases hid
          exact mem_toClient_self hclient
    | _ => cases hrequest
  | bindClaiming data =>
    cases hclaim : s.subnets.claim data.alias with
    | ok subnets =>
      refine ⟨none, .pass rfl rfl ?_ (.bindClaimed data)⟩
      simp only [ServerTask.resume, hclaim]
    | error error =>
      have hnext : (ServerTask.resume (.bindClaiming data) s).2 = [] := by
        simp only [ServerTask.resume, hclaim]
      refine ⟨none, rfl, fun _ => rfl, .inl hnext, ?_, fun _ accepted h => by cases h⟩
      exact fun post hpost => absurd hpost List.not_mem_nil
  | bindClaimed data =>
    refine ⟨some true, .last rfl (fun _ => rfl) rfl rfl ?_ ?_⟩
    · exact fun post hpost => eq_of_mem_toAll hpost
    · intro id socket hid hclient
      exact mem_toAll hclient
  | shutdownPort data => exact ⟨_, .pass rfl rfl rfl (.shutdownPortRemoved data)⟩
  | shutdownPortRemoved data => exact ⟨_, .pass rfl rfl rfl (.shutdownAddress data)⟩
  | shutdownAddress data => exact ⟨_, .pass rfl rfl rfl (.shutdownAddressRemoved data)⟩
  | shutdownAddressRemoved data =>
    refine ⟨some true, .last rfl (fun h => absurd rfl h) rfl rfl ?_ ?_⟩
    · exact fun post hpost => eq_of_mem_toAll hpost
    · intro id socket hid hclient
      exact mem_toAll hclient

end ServerTask

/-- The decision of a step, with the number of the message. -/
def NetworkStep.verdict (p : Network) : NetworkStep → Option (Nat × Bool)
  | .resume n t => (t.verdict p.server).map fun accepted => (n, accepted)
  | _ => none

/-- The server has accepted or rejected a message. -/
def Decided (steps : List (Network × NetworkStep)) (n : Nat) (accepted : Bool) : Prop :=
  ∃ x ∈ steps, x.2.verdict x.1 = some (n, accepted)

instance (steps : List (Network × NetworkStep)) (n : Nat) (accepted : Bool) :
    Decidable (Decided steps n accepted) :=
  inferInstanceAs (Decidable (∃ x ∈ _, _))

theorem decided_snoc {steps : List (Network × NetworkStep)} {p : Network} {a : NetworkStep}
    {n : Nat} {accepted : Bool} : Decided (steps ++ [(p, a)]) n accepted ↔
      Decided steps n accepted ∨ a.verdict p = some (n, accepted) := by
  unfold Decided
  simp only [List.mem_append, List.mem_singleton, or_and_right, exists_or, exists_eq_left]

/-! ## The handlers -/

/-- The handler that a message will start. -/
def Message.arrival (m : Message) : Nat × ServerTask :=
  (m.number, .received m.operation m.socket)

/-- A message is of the handler that sends it. -/
theorem Message.of_mem_numbered {cause n : Nat} {posts : List (Socket × Operation)} {m : Message}
    (h : m ∈ Message.numbered cause n posts) :
    m.cause = cause ∧ (m.socket, m.operation) ∈ posts := by
  induction posts generalizing n with
  | nil => cases h
  | cons post posts ih =>
    rcases List.mem_cons.mp h with rfl | h
    · exact ⟨rfl, List.mem_cons_self⟩
    · obtain ⟨hcause, hpost⟩ := ih h
      exact ⟨hcause, List.mem_cons_of_mem _ hpost⟩

/-- Everything that a step sends has a message. -/
theorem Message.exists_mem_numbered {cause n : Nat} {posts : List (Socket × Operation)}
    {socket : Socket} {operation : Operation} (h : (socket, operation) ∈ posts) :
    ∃ m ∈ Message.numbered cause n posts,
      m.cause = cause ∧ m.socket = socket ∧ m.operation = operation := by
  induction posts generalizing n with
  | nil => cases h
  | cons post posts ih =>
    rcases List.mem_cons.mp h with rfl | h
    · exact ⟨_, List.mem_cons_self, rfl, rfl, rfl⟩
    · obtain ⟨m, hm, hsame⟩ := @ih (n + 1) h
      exact ⟨m, List.mem_cons_of_mem _ hm, hsame⟩

namespace Network

variable {E : Emittery (String × Nat)} {steps : List (Network × NetworkStep)} {p p' : Network}
  {a : NetworkStep} {n : Nat}

/-- The handlers of the server, and those that the messages on their way will
start. -/
def handlers (p : Network) : List (Nat × ServerTask) :=
  p.up.map Message.arrival ++ p.serverTasks

/-- The handlers of a message. -/
def handlersOf (p : Network) (n : Nat) : List ServerTask :=
  (p.handlers.filter fun x => x.1 = n).map Prod.snd

theorem mem_handlersOf {t : ServerTask} : t ∈ p.handlersOf n ↔ (n, t) ∈ p.handlers := by
  unfold handlersOf
  simp

/-- The message that a client sends will start a handler. -/
theorem handlers_send (client : Nat) (operation : Operation) :
    (p.send client operation).handlers.Perm
      ((p.clients client).outgoing.toList.map (fun socket =>
        (p.nextNumber, ServerTask.received operation socket)) ++ p.handlers) := by
  unfold handlers send
  cases (p.clients client).outgoing with
  | none => exact List.Perm.refl _
  | some socket =>
    simp only [List.map_append, List.append_assoc]
    exact List.perm_middle

/-- A step adds handlers of a new message, or is a step of a handler. -/
theorem handlers_step (hstep : Step E p a p') :
    (∃ new : List ServerTask, p'.handlers.Perm (new.map (Prod.mk p.nextNumber) ++ p.handlers) ∧
      (new ≠ [] → p.nextNumber < p'.nextNumber) ∧ a.verdict p = none ∧
      ∀ m ∈ p'.messages, m ∈ p.messages) ∨
    ∃ k t others, a = .resume k t ∧ p.handlers.Perm ((k, t) :: others) ∧
      p'.handlers.Perm ((t.resume p.server).2.map (Prod.mk k) ++ others) ∧
      ∀ m ∈ p'.messages, m ∈ p.messages ∨ m ∈ Message.numbered k p.nextNumber (t.posts p.server)
    := by
  have hsend : ∀ {q : Network} {client : Nat} {operation : Operation},
      q.handlers = p.handlers → q.nextNumber = p.nextNumber →
      ∃ new : List ServerTask, (q.send client operation).handlers.Perm
          (new.map (Prod.mk p.nextNumber) ++ p.handlers) ∧
        (new ≠ [] → p.nextNumber < (q.send client operation).nextNumber) := by
    intro q client operation hhandlers hnumber
    refine ⟨(q.clients client).outgoing.toList.map (.received operation), ?_, fun _ => ?_⟩
    · rw [List.map_map, ← hhandlers, ← hnumber]
      exact handlers_send client operation
    · exact hnumber ▸ Nat.lt_succ_self _
  have hsame : ∀ m ∈ p.messages, m ∈ p.messages := fun m hm => hm
  cases hstep with
  | onopen hclient =>
    obtain ⟨new, hnew, hlt⟩ := hsend (q := p.setClient _ _) rfl rfl
    exact .inl ⟨new, hnew, hlt, rfl, hsame⟩
  | request hfresh =>
    obtain ⟨new, hnew, hlt⟩ := hsend (q := p.setClient _ _) rfl rfl
    exact .inl ⟨new, hnew, hlt, rfl, hsame⟩
  | handleSend hrelayed =>
    obtain ⟨new, hnew, hlt⟩ := hsend (q := p) rfl rfl
    exact .inl ⟨new, hnew, hlt, rfl, hsame⟩
  | onmessage hdown hfirst hclient =>
    refine .inl ⟨[], List.Perm.refl _, fun h => absurd rfl h, rfl, fun m hm => ?_⟩
    obtain ⟨lost, hperm⟩ := messages_onmessage hdown
    exact hperm.mem_iff.mpr (List.mem_append_left _ hm)
  | handle htasks =>
    refine .inl ⟨[], List.Perm.refl _, fun h => absurd rfl h, rfl, fun m hm => ?_⟩
    obtain ⟨lost, hperm⟩ := messages_handle E htasks
    exact hperm.mem_iff.mpr (List.mem_append_left _ hm)
  | @receive message before after hup hfirst hopen =>
    refine .inl ⟨[], ?_, fun h => absurd rfl h, rfl, hsame⟩
    show ((before ++ after).map Message.arrival ++ (p.serverTasks ++ [message.arrival])).Perm
      (p.up.map Message.arrival ++ p.serverTasks)
    rw [hup, ← List.append_assoc]
    refine (List.perm_append_singleton _ _).trans ?_
    rw [← List.cons_append]
    refine List.Perm.append_right _ ?_
    exact (List.perm_middle.map Message.arrival).symm
  | @close socket hsocket hopen =>
    refine .inl ⟨(p.server.closing socket).map .goodbyeAddress, ?_,
      fun _ => Nat.lt_succ_self _, rfl, hsame⟩
    show (p.up.map Message.arrival ++ (p.serverTasks ++ _)).Perm _
    rw [← List.append_assoc, List.map_map]
    exact List.perm_append_comm
  | @resume number task before after htasks hready =>
    refine .inr ⟨number, task, p.up.map Message.arrival ++ (before ++ after), rfl, ?_, ?_, ?_⟩
    · unfold handlers
      rw [htasks, ← List.append_assoc, ← List.append_assoc]
      exact List.perm_middle
    · show (p.up.map Message.arrival ++ ((before ++ after) ++ _)).Perm _
      rw [← List.append_assoc]
      exact List.perm_append_comm
    · intro m hm
      rcases List.mem_append.mp hm with hm | hm
      · rcases List.mem_append.mp hm with hm | hm
        · exact .inl (List.mem_append_left _ hm)
        · exact .inr hm
      · exact .inl (List.mem_append_right _ hm)
  | _ => exact .inl ⟨[], List.Perm.refl _, fun h => absurd rfl h, rfl, hsame⟩

/-- Every handler, every message and every decision has a number that has been
given. -/
structure Counted (steps : List (Network × NetworkStep)) (p : Network) : Prop where
  handlers : ∀ x ∈ p.handlers, x.1 < p.nextNumber
  causes : ∀ m ∈ p.messages, m.cause < p.nextNumber
  decided : ∀ {n accepted}, Decided steps n accepted → n < p.nextNumber

theorem Counted.step (h : Counted steps p) (hstep : Step E p a p') :
    Counted (steps ++ [(p, a)]) p' := by
  have hle : p.nextNumber ≤ p'.nextNumber := nextNumber_le_step hstep
  rcases handlers_step hstep with ⟨new, hnew, hlt, hverdict, hmessages⟩ |
    ⟨k, t, others, rfl, hbefore, hafter, hmessages⟩
  · constructor
    · intro x hx
      rcases List.mem_append.mp (hnew.mem_iff.mp hx) with hx | hx
      · obtain ⟨t, ht, rfl⟩ := List.mem_map.mp hx
        exact hlt (List.ne_nil_of_mem ht)
      · exact Nat.lt_of_lt_of_le (h.handlers x hx) hle
    · exact fun m hm => Nat.lt_of_lt_of_le (h.causes m (hmessages m hm)) hle
    · intro n accepted hdecided
      rcases decided_snoc.mp hdecided with hdecided | hnow
      · exact Nat.lt_of_lt_of_le (h.decided hdecided) hle
      · rw [hverdict] at hnow
        cases hnow
  · have hk : k < p.nextNumber := h.handlers (k, t) (hbefore.mem_iff.mpr List.mem_cons_self)
    constructor
    · intro x hx
      rcases List.mem_append.mp (hafter.mem_iff.mp hx) with hx | hx
      · obtain ⟨t', ht', rfl⟩ := List.mem_map.mp hx
        exact Nat.lt_of_lt_of_le hk hle
      · have hold := h.handlers x (hbefore.mem_iff.mpr (List.mem_cons_of_mem _ hx))
        exact Nat.lt_of_lt_of_le hold hle
    · intro m hm
      rcases hmessages m hm with hm | hm
      · exact Nat.lt_of_lt_of_le (h.causes m hm) hle
      · rw [(Message.of_mem_numbered hm).1]
        exact Nat.lt_of_lt_of_le hk hle
    · intro n accepted hdecided
      rcases decided_snoc.mp hdecided with hdecided | hnow
      · exact Nat.lt_of_lt_of_le (h.decided hdecided) hle
      · obtain ⟨b, -, he⟩ := Option.map_eq_some_iff.mp hnow
        cases he
        exact Nat.lt_of_lt_of_le hk hle

/-! ## One request -/

private theorem map_snd_filter (k n : Nat) (tasks : List ServerTask) :
    ((tasks.map (Prod.mk k)).filter fun x => x.1 = n).map Prod.snd
      = if k = n then tasks else [] := by
  split_ifs with hk
  · rw [List.filter_eq_self.mpr, List.map_map]
    · exact List.map_id _
    · intro x hx
      obtain ⟨t, -, rfl⟩ := List.mem_map.mp hx
      exact decide_eq_true hk
  · rw [List.filter_eq_nil_iff.mpr, List.map_nil]
    intro x hx
    obtain ⟨t, -, rfl⟩ := List.mem_map.mp hx
    simpa using hk

private theorem handlersOf_perm {k : Nat} {tasks : List ServerTask}
    {others : List (Nat × ServerTask)} (h : p.handlers.Perm (tasks.map (Prod.mk k) ++ others)) :
    (p.handlersOf n).Perm ((if k = n then tasks else [])
      ++ (others.filter fun x => x.1 = n).map Prod.snd) := by
  have hfilter := (h.filter fun x => x.1 = n).map Prod.snd
  rw [List.filter_append, List.map_append, map_snd_filter] at hfilter
  exact hfilter

/-- A message that is sent has the one handler that it will start. -/
theorem handlersOf_send (h : Counted steps p) (client : Nat) (operation : Operation) :
    (p.send client operation).handlersOf p.nextNumber
      = (p.clients client).outgoing.toList.map (.received operation) := by
  have hnone : (p.handlers.filter fun x => x.1 = p.nextNumber) = [] := by
    refine List.filter_eq_nil_iff.mpr fun x hx => ?_
    rw [decide_eq_true_eq]
    exact Nat.ne_of_lt (h.handlers x hx)
  have hsent : (p.send client operation).handlers.Perm
      (((p.clients client).outgoing.toList.map (.received operation)).map
        (Prod.mk p.nextNumber) ++ p.handlers) := by
    rw [List.map_map]
    exact handlers_send client operation
  have hperm : ((p.send client operation).handlersOf p.nextNumber).Perm _ := handlersOf_perm hsent
  rw [if_pos rfl, hnone, List.map_nil, List.append_nil] at hperm
  cases hsocket : (p.clients client).outgoing with
  | none =>
    rw [hsocket] at hperm
    exact List.perm_nil.mp hperm
  | some socket =>
    rw [hsocket] at hperm
    exact List.perm_singleton.mp hperm

/-- A step is one of the handler of a message, or does nothing for it. -/
theorem handlersOf_step (hn : n < p.nextNumber) (hstep : Step E p a p') :
    ((p'.handlersOf n).Perm (p.handlersOf n) ∧
      (∀ accepted, a.verdict p ≠ some (n, accepted)) ∧
      ∀ m ∈ p'.messages, m.cause = n → m ∈ p.messages) ∨
    ∃ t rest, a = .resume n t ∧ (p.handlersOf n).Perm (t :: rest) ∧
      (p'.handlersOf n).Perm ((t.resume p.server).2 ++ rest) ∧
      ∀ m ∈ p'.messages, m.cause = n → m ∈ p.messages ∨
        (m.socket, m.operation) ∈ t.posts p.server := by
  rcases handlers_step hstep with ⟨new, hnew, -, hverdict, hmessages⟩ |
    ⟨k, t, others, rfl, hbefore, hafter, hmessages⟩
  · refine .inl ⟨?_, fun accepted hnow => ?_, fun m hm _ => hmessages m hm⟩
    · have hperm := handlersOf_perm (n := n) hnew
      rw [if_neg (Nat.ne_of_gt hn)] at hperm
      exact hperm
    · rw [hverdict] at hnow
      cases hnow
  · have hbefore : p.handlers.Perm ([t].map (Prod.mk k) ++ others) := hbefore
    have hold : (p.handlersOf n).Perm _ := handlersOf_perm hbefore
    have hnow : (p'.handlersOf n).Perm _ := handlersOf_perm hafter
    by_cases hk : k = n
    · subst hk
      rw [if_pos rfl] at hold hnow
      refine .inr ⟨t, _, rfl, hold, hnow, fun m hm _ => ?_⟩
      exact (hmessages m hm).imp_right fun hm => (Message.of_mem_numbered hm).2
    · rw [if_neg hk] at hold hnow
      refine .inl ⟨hnow.trans hold.symm, fun accepted hverdict => ?_, fun m hm hcause => ?_⟩
      · obtain ⟨b, -, he⟩ := Option.map_eq_some_iff.mp hverdict
        cases he
        exact hk rfl
      · refine (hmessages m hm).resolve_right fun hm => hk ?_
        exact (Message.of_mem_numbered hm).1.symm.trans hcause

/-- A request is on its way, in its handler or over, and what has been sent for
it says what has been decided. -/
structure Followed (steps : List (Network × NetworkStep)) (p : Network) (n : Nat)
    (request : Operation) : Prop where
  fate : ∃ fate, (p.handlersOf n = [] ∨ ∃ t, p.handlersOf n = [t] ∧ t.Serves request fate) ∧
    ∀ accepted, Decided steps n accepted ↔ fate = some accepted
  replies : ∀ m ∈ p.messages, m.cause = n → ∃ accepted, Decided steps n accepted ∧
    m.operation = request.reply accepted

namespace Followed

variable {request : Operation}

/-- The request of a new call is on its way, or was not sent. -/
theorem start (h : Counted steps p) (client : Nat) (r : Request) :
    Followed (steps ++ [(p, .request client r)]) (p.request client r) p.nextNumber
      (r.operation (p.clients client).id) := by
  have hfresh : ∀ accepted,
      ¬Decided (steps ++ [(p, .request client r)]) p.nextNumber accepted := by
    intro accepted hdecided
    rcases decided_snoc.mp hdecided with hdecided | hnow
    · exact Nat.lt_irrefl _ (h.decided hdecided)
    · cases hnow
  constructor
  · refine ⟨none, ?_, fun accepted => ⟨fun hdecided => absurd hdecided (hfresh accepted), ?_⟩⟩
    · have hcounted : Counted steps (p.setClient client
          ((p.clients client).request p.nextNumber r)) := ⟨h.handlers, h.causes, h.decided⟩
      have hsent : (p.request client r).handlersOf p.nextNumber = _ := handlersOf_send hcounted
        client (r.operation (p.clients client).id)
      rw [hsent]
      cases (SignalingClient.outgoing _) with
      | none => exact .inl rfl
      | some socket => exact .inr ⟨_, rfl, .received _ socket⟩
    · exact fun he => absurd he.symm (Option.some_ne_none accepted)
  · intro m hm hcause
    exact absurd hcause (Nat.ne_of_lt (h.causes m hm))

/-- A step of the handler of a request. -/
theorem served (h : Followed steps p n request) (hrequest : request.announced = true)
    {t : ServerTask} {rest : List ServerTask} (hhandlers : (p.handlersOf n).Perm (t :: rest)) :
    rest = [] ∧ ∃ before fate, t.Served p.server request before fate ∧
      ∀ accepted, Decided steps n accepted ↔ before = some accepted := by
  obtain ⟨before, hover | ⟨t', ht', hserves⟩, hdecided⟩ := h.fate
  · rw [hover] at hhandlers
    exact absurd hhandlers.symm (List.cons_ne_nil _ _ ∘ List.perm_nil.mp)
  · rw [ht'] at hhandlers
    cases List.perm_singleton.mp hhandlers.symm
    obtain ⟨fate, hserved⟩ := hserves.resume hrequest p.server
    exact ⟨rfl, before, fate, hserved, hdecided⟩

/-- What has been decided after a step of the handler. -/
theorem decided_served {t : ServerTask} {before fate : Option Bool}
    (hserved : t.Served p.server request before fate)
    (hdecided : ∀ accepted, Decided steps n accepted ↔ before = some accepted) (accepted : Bool) :
    Decided (steps ++ [(p, .resume n t)]) n accepted ↔ fate = some accepted := by
  rw [decided_snoc, hdecided, hserved.fate_eq]
  show before = some accepted ∨ (t.verdict p.server).map (Prod.mk n) = some (n, accepted) ↔ _
  cases hverdict : t.verdict p.server with
  | none => simp
  | some b =>
    have hnone : before = none := hserved.first (by rw [hverdict]; exact Option.some_ne_none b)
    simp [hnone]

theorem step (h : Followed steps p n request) (hrequest : request.announced = true)
    (hn : n < p.nextNumber) (hstep : Step E p a p') :
    Followed (steps ++ [(p, a)]) p' n request := by
  rcases handlersOf_step hn hstep with ⟨hperm, hverdict, hmessages⟩ |
    ⟨t, rest, rfl, hbefore, hafter, hmessages⟩
  · have hsame : ∀ accepted, Decided (steps ++ [(p, a)]) n accepted ↔ Decided steps n accepted :=
      fun accepted => decided_snoc.trans (or_iff_left (hverdict accepted))
    constructor
    · obtain ⟨fate, hhandler, hdecided⟩ := h.fate
      refine ⟨fate, ?_, fun accepted => (hsame accepted).trans (hdecided accepted)⟩
      rcases hhandler with hover | ⟨t, ht, hserves⟩
      · exact .inl (List.perm_nil.mp (hover ▸ hperm))
      · exact .inr ⟨t, List.perm_singleton.mp (ht ▸ hperm), hserves⟩
    · intro m hm hcause
      obtain ⟨accepted, hdecided, hreply⟩ := h.replies m (hmessages m hm hcause) hcause
      exact ⟨accepted, (hsame accepted).mpr hdecided, hreply⟩
  · obtain ⟨rfl, before, fate, hserved, hdecided⟩ := h.served hrequest hbefore
    have hnow := decided_served hserved hdecided
    rw [List.append_nil] at hafter
    constructor
    · refine ⟨fate, ?_, hnow⟩
      rcases hserved.next with hnil | ⟨t', ht', hserves⟩
      · exact .inl (List.perm_nil.mp (hnil ▸ hafter))
      · exact .inr ⟨t', List.perm_singleton.mp (ht' ▸ hafter), hserves⟩
    · intro m hm hcause
      rcases hmessages m hm hcause with hm | hpost
      · obtain ⟨accepted, hold, hreply⟩ := h.replies m hm hcause
        exact ⟨accepted, decided_snoc.mpr (.inl hold), hreply⟩
      · obtain ⟨accepted, hfate, hreply⟩ := hserved.posts _ hpost
        exact ⟨accepted, (hnow accepted).mpr hfate, hreply⟩

/-- A request that is over and decided was so before the step, or the step
answers it. -/
theorem told (h : Followed steps p n request) (hrequest : request.announced = true)
    (hn : n < p.nextNumber) (hstep : Step E p a p') (hover : p'.handlersOf n = [])
    {accepted : Bool} (hdecided : Decided (steps ++ [(p, a)]) n accepted) :
    (p.handlersOf n = [] ∧ Decided steps n accepted) ∨
      ∃ t, a = .resume n t ∧ t.concludes p.server = true ∧
        ∀ id socket, request.sender = some id → p.server.clients.get id = some socket →
          ∃ m ∈ p'.down, m.cause = n ∧ m.socket = socket ∧
            m.operation = request.reply accepted := by
  rcases handlersOf_step hn hstep with ⟨hperm, hverdict, -⟩ | ⟨t, rest, rfl, hbefore, hafter, -⟩
  · refine .inl ⟨List.nil_perm.mp (hover ▸ hperm), ?_⟩
    exact (decided_snoc.mp hdecided).resolve_right (hverdict accepted)
  · obtain ⟨rfl, before, fate, hserved, hbefore⟩ := h.served hrequest hbefore
    rw [hover, List.append_nil] at hafter
    have hfate := (decided_served hserved hbefore accepted).mp hdecided
    obtain ⟨hconcludes, htold⟩ := hserved.told (List.nil_perm.mp hafter) accepted hfate
    refine .inr ⟨t, rfl, hconcludes, fun id socket hid hclient => ?_⟩
    cases hstep with
    | resume htasks hready =>
      obtain ⟨m, hm, hsame⟩ := Message.exists_mem_numbered (n := p.nextNumber)
        (htold id socket hid hclient)
      exact ⟨m, List.mem_append_right _ hm, hsame⟩

end Followed

end Network

theorem NetworkRun.counted {E : Emittery (String × Nat)} {steps : List (Network × NetworkStep)}
    {p : Network} (hrun : NetworkRun E steps p) : Network.Counted steps p := by
  induction hrun with
  | start hinit =>
    obtain ⟨subnet, parentWsId, rfl⟩ := hinit
    constructor
    · exact fun x hx => absurd hx List.not_mem_nil
    · exact fun m hm => absurd hm List.not_mem_nil
    · rintro n accepted ⟨x, hx, -⟩
      cases hx
  | snoc hrun hstep ih => exact ih.step hstep

end Unisockets.Signaling
