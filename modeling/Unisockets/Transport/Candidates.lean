import Unisockets.Transport.Connections

/-!
# The way of a candidate

A candidate that a connection has gathered is posted to the thread that made the
connection, sent to the server, forwarded to the client `answererId`, and handed
to the transporter of that client's page under `offererId`.  The two ids are those
of the exchange, whichever of the two has gathered the candidate.

`CandidateLaw` says of a connection and its `CandidateHandler` that what it has
gathered is what is on its way and what has been handed to the page of
`answererId`.  This is what is wanted of the connection of the offerer.  A candidate
of the answerer goes back to the answerer.
-/

namespace Unisockets.Transport

open JsStd Signaling Transition

namespace RunnerTask

/-- The connection whose candidate is on its way. -/
def source : RunnerTask → Option Nat
  | .onmessage _ _ source => source
  | .handleCandidate _ _ _ source => source
  | .sendWRTCconfig _ _ source => source
  | .received _ _ source => source
  | _ => none

/-- A candidate that is on its way. -/
def candidate : RunnerTask → Option String
  | .onmessage _ (.candidate data) _ => some data.candidate
  | .handleCandidate _ _ candidate _ => some candidate
  | .sendWRTCconfig _ (.candidate data) _ => some data.candidate
  | .received _ (.candidate data) _ => some data.candidate
  | _ => none

/-- A candidate of a connection. -/
def carried (e : Nat) (t : RunnerTask) : Option String :=
  if t.source = some e then t.candidate else none

end RunnerTask

namespace RunnerStep

/-- The candidate that a connection gathers. -/
def gathered (e : Nat) : RunnerStep → Option String
  | .onicecandidate _ connection candidate => if connection = e then some candidate else none
  | _ => none

/-- The candidate of a connection that a thread hands to `handleCandidate` under an
id. -/
def handed (e thread : Nat) (id : String) : RunnerStep → Option String
  | .resume (.handleCandidate thread' id' candidate source) =>
    if thread' = thread ∧ id' = id ∧ source = some e then some candidate else none
  | _ => none

theorem eq_of_handed {e thread : Nat} {id c : String} {a : RunnerStep}
    (h : a.handed e thread id = some c) :
    a = .resume (.handleCandidate thread id c (some e)) := by
  unfold handed at h
  split at h
  · split_ifs at h with heq
    obtain ⟨rfl, rfl, rfl⟩ := heq
    cases h
    rfl
  · cases h

theorem handed_self (e thread : Nat) (id c : String) :
    (RunnerStep.resume (.handleCandidate thread id c (some e))).handed e thread id = some c := by
  simp [handed]

end RunnerStep

/-- The candidates that a connection has gathered. -/
def gathered (steps : List (RunnerPool × RunnerStep)) (e : Nat) : List String :=
  steps.filterMap fun x => x.2.gathered e

/-- The candidates of a connection that a thread has handed to `handleCandidate`
under an id. -/
def handed (steps : List (RunnerPool × RunnerStep)) (e thread : Nat) (id : String) :
    List String :=
  steps.filterMap fun x => x.2.handed e thread id

/-- A thread is connected to the server, with an id. -/
def Runner.Connected (p : Runner) (thread : Nat) (id : String) : Prop :=
  ∃ socket, p.sockets thread = some socket ∧ p.ids thread = id ∧ p.threads socket = thread ∧
    p.server.clients.get id = some socket

instance (p : Runner) (thread : Nat) (id : String) : Decidable (p.Connected thread id) :=
  decidable_of_iff (((p.sockets thread).any fun socket => decide (p.ids thread = id ∧
    p.threads socket = thread ∧ p.server.clients.get id = some socket)) = true)
    (by simp [Runner.Connected, Option.any_eq_true])

/-- A property of the states of a run in which a connection exists. -/
def WhileExists (steps : List (RunnerPool × RunnerStep)) (p : RunnerPool) (e : Nat)
    (K : Runner → Prop) : Prop :=
  ∀ q : RunnerPool, q = p ∨ q ∈ steps.map Prod.fst →
    (∃ n c, (q.state.pages n).peerConnections.get e = some c) → K q.state

/-! ## What a task does to a candidate -/

section Task

variable {W : WebRtc} {page : Nat → Nat}

theorem Runner.sockets_resume (t : RunnerTask) (p : Runner) :
    (t.resume W page p).1.sockets = p.sockets := by
  cases t <;> rfl

/-- A task with a candidate of the connection `e`, on its way to a thread. -/
inductive OnItsWay (h : CandidateHandler) (thread e : Nat) (p : Runner) :
    RunnerTask → String → Prop where
  | sendWRTCconfig (c : String) : OnItsWay h thread e p
      (.sendWRTCconfig h.thread (.candidate ⟨h.offererId, h.answererId, c⟩) (some e)) c
  | received (socket : Socket) (c : String) : OnItsWay h thread e p
      (.received socket (.candidate ⟨h.offererId, h.answererId, c⟩) (some e)) c
  | onmessage (socket : Socket) (c : String) (hsocket : p.sockets thread = some socket) :
    OnItsWay h thread e p
      (.onmessage socket (.candidate ⟨h.offererId, h.answererId, c⟩) (some e)) c
  | handleCandidate (c : String) : OnItsWay h thread e p
      (.handleCandidate thread h.offererId c (some e)) c

variable {h : CandidateHandler} {thread e : Nat} {p p' : Runner} {t : RunnerTask} {c : String}

theorem OnItsWay.carried (hway : OnItsWay h thread e p t c) : t.carried e = some c := by
  cases hway <;> simp [RunnerTask.carried, RunnerTask.source, RunnerTask.candidate]

theorem OnItsWay.of_sockets (hway : OnItsWay h thread e p t c)
    (hsockets : p'.sockets thread = p.sockets thread) : OnItsWay h thread e p' t c := by
  cases hway with
  | onmessage socket _ hsocket => exact .onmessage socket c (hsockets.trans hsocket)
  | sendWRTCconfig => exact .sendWRTCconfig c
  | received socket => exact .received socket c
  | handleCandidate => exact .handleCandidate c

/-- A candidate goes on to the thread of `answererId`, until it is handed to its page. -/
theorem OnItsWay.resume (hway : OnItsWay h thread e p t c) (hsender : p.sockets h.thread ≠ none)
    (hreceiver : p.Connected thread h.answererId) :
    (t = .handleCandidate thread h.offererId c (some e) ∧ (t.resume W page p).2 = []) ∨
      (∀ thread' id c', t ≠ .handleCandidate thread' id c' (some e)) ∧
        ∃ u, (t.resume W page p).2 = [u] ∧ OnItsWay h thread e p u c := by
  obtain ⟨socket', hsocket', hid, hthread, hclient⟩ := hreceiver
  cases hway with
  | sendWRTCconfig =>
    obtain ⟨socket, hsocket⟩ := Option.ne_none_iff_exists'.mp hsender
    refine .inr ⟨by simp, .received socket (.candidate ⟨h.offererId, h.answererId, c⟩) (some e),
      ?_, .received socket c⟩
    simp [RunnerTask.resume, hsocket]
  | received socket =>
    refine .inr ⟨by simp, .onmessage socket' (.candidate ⟨h.offererId, h.answererId, c⟩) (some e),
      ?_, .onmessage socket' c hsocket'⟩
    simp [RunnerTask.resume, Runner.serve, Runner.deliver, ServerTask.posts, ServerTask.answers,
      Server.toClient, hclient]
  | onmessage socket _ hsocket =>
    obtain rfl := Option.some.inj (hsocket'.symm.trans hsocket)
    refine .inr ⟨by simp, .handleCandidate thread h.offererId c (some e), ?_, .handleCandidate c⟩
    simp [RunnerTask.resume, hthread, hsocket', RunnerTask.handleOperation]
  | handleCandidate => exact .inl ⟨rfl, rfl⟩

theorem RunnerTask.source_deliver {posts : List (Socket × Operation)} {source : Option Nat}
    {u : RunnerTask} (hu : u ∈ Runner.deliver posts source) : u.source = source := by
  obtain ⟨post, -, rfl⟩ := List.mem_map.mp hu
  rfl

/-- No task makes a candidate of another one. -/
theorem RunnerTask.source_resume {u : RunnerTask} (hu : u ∈ (t.resume W page p).2) :
    u.source = none ∨ u.source = t.source := by
  cases t with
  | onmessage socket operation source =>
    simp only [RunnerTask.resume] at hu
    split_ifs at hu
    · cases operation with
      | greeting | offer | answer =>
        rw [List.mem_singleton.mp hu]
        exact .inl rfl
      | candidate =>
        rw [List.mem_singleton.mp hu]
        exact .inr rfl
      | _ => cases hu
    · cases hu
  | handleOffer | getAnswer | handleAnswer =>
    simp only [RunnerTask.resume] at hu
    split at hu
    · rw [List.mem_singleton.mp hu]
      exact .inl rfl
    · cases hu
  | offerCreating | offerDescribing | answerCreating | answerCreated =>
    rw [List.mem_singleton.mp hu]
    exact .inl rfl
  | sendWRTCconfig thread operation source =>
    simp only [RunnerTask.resume] at hu
    split at hu
    · rw [List.mem_singleton.mp hu]
      exact .inr rfl
    · cases hu
  | received socket operation source => exact .inr (source_deliver hu)
  | goodbye => exact .inl (source_deliver hu)
  | answerDescribing | handleCandidate => cases hu

end Task

/-! ## What a run does to the candidates of a connection -/

section Law

variable {W : WebRtc} {page : Nat → Nat} {steps : List (RunnerPool × RunnerStep)}
  {p p' : RunnerPool} {a : RunnerStep} {h : CandidateHandler} {thread e : Nat}

/-- While a thread is connected, its socket is the same. -/
theorem RunnerPool.Step.sockets_eq (hstep : RunnerPool.Step W page p a p') {id : String}
    (hp : p.state.Connected thread id) (hp' : p'.state.Connected thread id) :
    p'.state.sockets thread = p.state.sockets thread := by
  obtain ⟨socket, hsocket, -⟩ := hp
  obtain ⟨socket', hsocket', -⟩ := hp'
  cases hstep with
  | @join joining _ hjoin =>
    have hne : thread ≠ joining := by
      rintro rfl
      have hnone := hjoin.1
      rw [hsocket] at hnone
      cases hnone
    exact Function.update_of_ne hne _ _
  | @leave leaving _ _ =>
    have hne : thread ≠ leaving := by
      rintro rfl
      have hnone := Function.update_self thread none p.state.sockets
      cases hnone.symm.trans hsocket'
    exact Function.update_of_ne hne _ _
  | resume _ => exact congrFun (Runner.sockets_resume _ _) thread
  | _ => rfl

/-- The candidates on their way are those of connections that exist. -/
def SourcesExist (p : RunnerPool) : Prop :=
  ∀ t ∈ p.tasks, ∀ e, t.source = some e → ∃ n c, (p.state.pages n).peerConnections.get e = some c

theorem RunnerPool.Step.exists_connection (hstep : RunnerPool.Step W page p a p')
    (hnumbered : p.state.Numbered)
    (h : ∃ n c, (p.state.pages n).peerConnections.get e = some c) :
    ∃ n c, (p'.state.pages n).peerConnections.get e = some c := by
  obtain ⟨n, c, hc⟩ := h
  obtain ⟨c', hc', -⟩ := hstep.extends.keeps hnumbered hc
  exact ⟨n, c', hc'⟩

theorem RunnerPool.Step.sourcesExist (hstep : RunnerPool.Step W page p a p')
    (hnumbered : p.state.Numbered) (hp : SourcesExist p) : SourcesExist p' := by
  intro t ht e he
  refine hstep.exists_connection hnumbered ?_
  cases hstep with
  | join | leave =>
    rcases List.mem_append.mp ht with ht | ht
    · exact hp t ht e he
    · obtain ⟨_, -, rfl⟩ := List.mem_map.mp ht
      cases he
  | onicecandidate hconnection =>
    rcases List.mem_append.mp ht with ht | ht
    · exact hp t ht e he
    · rw [List.mem_singleton.mp ht] at he
      cases he
      exact ⟨_, _, hconnection⟩
  | onconnectionstatechange | ondatachannel =>
    rcases List.mem_append.mp ht with ht | ht
    · exact hp t ht e he
    · cases ht
  | @resume t₀ _ _ htasks =>
    rcases List.mem_append.mp ht with ht | ht
    · exact hp t (mem_of_rest htasks ht) e he
    · rcases RunnerTask.source_resume ht with hsource | hsource
      · rw [hsource] at he
        cases he
      · refine hp t₀ ?_ e (hsource.symm.trans he)
        rw [htasks]
        exact List.mem_append_right _ List.mem_cons_self

theorem RunnerRun.sourcesExist (hrun : RunnerRun W page steps p) : SourcesExist p := by
  induction hrun with
  | start hinit =>
    rw [hinit]
    intro t ht
    cases ht
  | snoc hrun hstep ih => exact hstep.sourcesExist (RunnerRun.numbered hrun) ih

/-- What a connection has gathered is on its way to the page of `answererId` or has
been handed to it. -/
structure CandidateLaw (h : CandidateHandler) (thread e : Nat)
    (steps : List (RunnerPool × RunnerStep)) (p : RunnerPool) : Prop where
  onItsWay (t : RunnerTask) (ht : t ∈ p.tasks) (hsource : t.source = some e) :
    ∃ c, OnItsWay h thread e p.state t c
  conserved : (gathered steps e).Perm
    (p.tasks.filterMap (RunnerTask.carried e) ++ handed steps e thread h.offererId)
  nowhereElse (x : RunnerPool × RunnerStep) (hx : x ∈ steps) (thread' : Nat) (id c : String)
    (hstep : x.2 = .resume (.handleCandidate thread' id c (some e))) :
    thread' = thread ∧ id = h.offererId

/-- A step that has nothing to do with the candidates of a connection. -/
theorem CandidateLaw.frame (hlaw : CandidateLaw h thread e steps p)
    (hsockets : (∃ t ∈ p.tasks, t.source = some e) →
      p'.state.sockets thread = p.state.sockets thread) {kept new : List RunnerTask}
    (htasks : p'.tasks = kept ++ new) (hkept : ∀ t ∈ kept, t ∈ p.tasks)
    (hcarried : kept.filterMap (RunnerTask.carried e) = p.tasks.filterMap (RunnerTask.carried e))
    (hnew : ∀ t ∈ new, t.source ≠ some e) (hgathered : a.gathered e = none)
    (hhanded : ∀ thread' id c, a ≠ .resume (.handleCandidate thread' id c (some e))) :
    CandidateLaw h thread e (steps ++ [(p, a)]) p' where
  onItsWay t ht hsource := by
    rw [htasks] at ht
    rcases List.mem_append.mp ht with ht | ht
    · obtain ⟨c, hc⟩ := hlaw.onItsWay t (hkept t ht) hsource
      exact ⟨c, hc.of_sockets (hsockets ⟨t, hkept t ht, hsource⟩)⟩
    · exact absurd hsource (hnew t ht)
  conserved := by
    have hnil : new.filterMap (RunnerTask.carried e) = [] := by
      rw [List.filterMap_eq_nil_iff]
      intro t ht
      rw [RunnerTask.carried, if_neg (hnew t ht)]
    have hnone : a.handed e thread h.offererId = none := by
      cases hc : a.handed e thread h.offererId with
      | none => rfl
      | some c => exact absurd (RunnerStep.eq_of_handed hc) (hhanded _ _ _)
    simpa [gathered, handed, htasks, hcarried, hnil, hgathered, hnone] using hlaw.conserved
  nowhereElse x hx thread' id c hstep := by
    rcases List.mem_append.mp hx with hx | hx
    · exact hlaw.nowhereElse x hx thread' id c hstep
    · rw [List.mem_singleton.mp hx] at hstep
      exact absurd hstep (hhanded thread' id c)

/-- The connection gathers a candidate. -/
theorem CandidateLaw.gather (hlaw : CandidateLaw h thread e steps p) (n : Nat) (c : String) :
    CandidateLaw h thread e (steps ++ [(p, .onicecandidate n e c)])
      (p.add (p.state, [.sendWRTCconfig h.thread
        (.candidate ⟨h.offererId, h.answererId, c⟩) (some e)])) where
  onItsWay t ht hsource := by
    rcases List.mem_append.mp ht with ht | ht
    · exact hlaw.onItsWay t ht hsource
    · rw [List.mem_singleton.mp ht]
      exact ⟨c, .sendWRTCconfig c⟩
  conserved := by
    have hgathered : (RunnerStep.onicecandidate n e c).gathered e = some c := if_pos rfl
    have hnone : (RunnerStep.onicecandidate n e c).handed e thread h.offererId = none := rfl
    have hway : OnItsWay h thread e p.state (.sendWRTCconfig h.thread
      (.candidate ⟨h.offererId, h.answererId, c⟩) (some e)) c := .sendWRTCconfig c
    have hcarried := hway.carried
    rw [List.perm_iff_count]
    intro x
    have hcount := hlaw.conserved.count_eq x
    simp only [gathered, handed, RunnerPool.add, List.filterMap_append, List.count_append,
      List.filterMap_cons, List.filterMap_nil, List.count_nil, hgathered, hnone, hcarried]
      at hcount ⊢
    omega
  nowhereElse x hx thread' id c' hstep := by
    rcases List.mem_append.mp hx with hx | hx
    · exact hlaw.nowhereElse x hx thread' id c' hstep
    · rw [List.mem_singleton.mp hx] at hstep
      cases hstep

/-- A candidate goes on. -/
theorem CandidateLaw.resume (hlaw : CandidateLaw h thread e steps p) {t : RunnerTask}
    {before after : List RunnerTask} (htasks : p.tasks = before ++ t :: after)
    (hsource : t.source = some e) (hsender : p.state.sockets h.thread ≠ none)
    (hreceiver : p.state.Connected thread h.answererId) :
    CandidateLaw h thread e (steps ++ [(p, .resume t)])
      ⟨(t.resume W page p.state).1, before ++ after ++ (t.resume W page p.state).2⟩ := by
  obtain ⟨c, hway⟩ := hlaw.onItsWay t (by simp [htasks]) hsource
  have hsockets : (t.resume W page p.state).1.sockets thread = p.state.sockets thread :=
    congrFun (Runner.sockets_resume t p.state) thread
  have hkept : ∀ u ∈ before ++ after, u.source = some e →
      ∃ c, OnItsWay h thread e (t.resume W page p.state).1 u c := by
    intro u hu husource
    obtain ⟨d, hd⟩ := hlaw.onItsWay u (mem_of_rest htasks hu) husource
    exact ⟨d, hd.of_sockets hsockets⟩
  have hconserved := hlaw.conserved
  rw [htasks, List.filterMap_append, List.filterMap_cons_some hway.carried] at hconserved
  rcases @OnItsWay.resume W page _ _ _ _ _ _ hway hsender hreceiver with
    ⟨rfl, hnil⟩ | ⟨hne, u, hu, hway'⟩
  · constructor
    · intro u hu
      rw [hnil, List.append_nil] at hu
      exact hkept u hu
    · rw [List.perm_iff_count]
      intro x
      have hcount := hconserved.count_eq x
      simp only [gathered, handed, hnil, List.filterMap_append, List.count_append,
        List.filterMap_cons, List.filterMap_nil, List.count_cons, List.count_nil,
        RunnerStep.gathered, RunnerStep.handed_self] at hcount ⊢
      omega
    · intro x hx thread' id c' hstep
      rcases List.mem_append.mp hx with hx | hx
      · exact hlaw.nowhereElse x hx thread' id c' hstep
      · rw [List.mem_singleton.mp hx] at hstep
        cases hstep
        exact ⟨rfl, rfl⟩
  · constructor
    · intro v hv
      rw [hu] at hv
      rcases List.mem_append.mp hv with hv | hv
      · exact hkept v hv
      · rw [List.mem_singleton.mp hv]
        exact fun _ => ⟨c, hway'.of_sockets hsockets⟩
    · have hnone : (RunnerStep.resume t).handed e thread h.offererId = none := by
        cases hd : (RunnerStep.resume t).handed e thread h.offererId with
        | none => rfl
        | some d =>
          have heq := RunnerStep.eq_of_handed hd
          exact absurd (RunnerStep.resume.inj heq) (hne _ _ _)
      rw [List.perm_iff_count]
      intro x
      have hcount := hconserved.count_eq x
      simp only [gathered, handed, hu, List.filterMap_append, List.count_append,
        List.filterMap_cons, List.filterMap_nil, List.count_cons, List.count_nil,
        RunnerStep.gathered, hnone, hway'.carried] at hcount ⊢
      omega
    · intro x hx thread' id c' hstep
      rcases List.mem_append.mp hx with hx | hx
      · exact hlaw.nowhereElse x hx thread' id c' hstep
      · rw [List.mem_singleton.mp hx] at hstep
        exact absurd (RunnerStep.resume.inj hstep) (hne _ _ _)

/-- One step, in a run in which the two threads are connected while the connection
exists. -/
theorem CandidateLaw.step (hlaw : CandidateLaw h thread e steps p)
    (hstep : RunnerPool.Step W page p a p') (hnumbered : p.state.Numbered)
    (hsources : SourcesExist p)
    (hhandler : ∀ n c, (p.state.pages n).peerConnections.get e = some c → c.onicecandidate = h)
    (hconnected : (∃ n c, (p.state.pages n).peerConnections.get e = some c) →
      p.state.sockets h.thread ≠ none ∧ p.state.Connected thread h.answererId)
    (hconnected' : (∃ n c, (p'.state.pages n).peerConnections.get e = some c) →
      p'.state.Connected thread h.answererId) :
    CandidateLaw h thread e (steps ++ [(p, a)]) p' := by
  have hsockets : (∃ t ∈ p.tasks, t.source = some e) →
      p'.state.sockets thread = p.state.sockets thread := by
    rintro ⟨t, ht, hsource⟩
    have hexists := hsources t ht e hsource
    exact hstep.sockets_eq (hconnected hexists).2
      (hconnected' (hstep.exists_connection hnumbered hexists))
  have hself : ∀ t ∈ p.tasks, t ∈ p.tasks := fun _ ht => ht
  cases hstep with
  | join | leave =>
    refine hlaw.frame hsockets rfl hself rfl ?_ rfl (by simp)
    intro t ht
    obtain ⟨_, -, rfl⟩ := List.mem_map.mp ht
    simp [RunnerTask.source]
  | @onicecandidate n connection candidate c hconnection =>
    by_cases he : connection = e
    · subst he
      rw [hhandler n c hconnection]
      exact hlaw.gather n candidate
    · refine hlaw.frame hsockets rfl hself rfl ?_ (if_neg he) (by simp)
      intro t ht
      rw [List.mem_singleton.mp ht]
      simp [RunnerTask.source, he]
  | onconnectionstatechange | ondatachannel =>
    refine hlaw.frame hsockets rfl hself rfl ?_ rfl (by simp)
    intro t ht
    cases ht
  | @resume t before after htasks =>
    by_cases hsource : t.source = some e
    · have hexists := hsources t (by simp [htasks]) e hsource
      exact hlaw.resume htasks hsource (hconnected hexists).1 (hconnected hexists).2
    · refine hlaw.frame hsockets rfl ?_ ?_ ?_ rfl ?_
      · exact fun u hu => mem_of_rest htasks hu
      · have hnone : t.carried e = none := if_neg hsource
        simp [htasks, hnone]
      · intro u hu husource
        rcases RunnerTask.source_resume hu with hu | hu
        · rw [hu] at husource
          cases husource
        · exact hsource (hu.symm.trans husource)
      · rintro thread' id c heq
        rw [RunnerStep.resume.inj heq] at hsource
        exact hsource rfl

/-- What a connection gathers goes to the client `answererId`, if that client and the
one with the connection are connected while it exists. -/
theorem RunnerRun.candidateLaw (hrun : RunnerRun W page steps p)
    (hhandler : ∀ n c, (p.state.pages n).peerConnections.get e = some c → c.onicecandidate = h)
    (hconnected : WhileExists steps p e fun q =>
      q.sockets h.thread ≠ none ∧ q.Connected thread h.answererId) :
    CandidateLaw h thread e steps p := by
  induction hrun with
  | start hinit =>
    rw [hinit]
    exact ⟨fun _ ht => (by cases ht), .refl _, fun _ hx => (by cases hx)⟩
  | @snoc steps p p' a hrun hstep ih =>
    have hnumbered := RunnerRun.numbered hrun
    have hhandler' : ∀ n c, (p.state.pages n).peerConnections.get e = some c →
        c.onicecandidate = h := by
      intro n c hc
      obtain ⟨c', hc', -, heq⟩ := hstep.extends.keeps hnumbered hc
      rw [← heq]
      exact hhandler n c' hc'
    have hbefore : WhileExists steps p e fun q =>
        q.sockets h.thread ≠ none ∧ q.Connected thread h.answererId := by
      intro q hq
      refine hconnected q (.inr ?_)
      rw [List.map_append, List.mem_append]
      rcases hq with rfl | hq
      · exact .inr (List.mem_singleton.mpr rfl)
      · exact .inl hq
    refine (ih hhandler' hbefore).step hstep hnumbered (RunnerRun.sourcesExist hrun) hhandler' ?_ ?_
    · exact hbefore p (.inl rfl)
    · exact fun hexists => (hconnected p' (.inl rfl) hexists).2

end Law

/-! ## Both sides of an exchange -/

/-- The exchange of an offer of the client `x`, from its connection `e`, for an answer
of the client `y`, from its connection `e'`.  Both are connected while it lasts. -/
structure Exchange (W : WebRtc) (page : Nat → Nat) (steps : List (RunnerPool × RunnerStep))
    (p : RunnerPool) (tx : Nat) (x : String) (ty : Nat) (y : String) (e e' : Nat) : Prop where
  distinct : x ≠ y
  offerer : ∃ c, (p.state.pages (page tx)).peerConnections.get e = some c ∧
    c.remoteId = y ∧ c.onicecandidate = ⟨tx, x, y⟩
  answerer : ∃ c, (p.state.pages (page ty)).peerConnections.get e' = some c ∧
    c.remoteId = x ∧ c.onicecandidate = ⟨ty, x, y⟩ ∧ c.remoteDescription = some (W.offer e)
  offererConnected : WhileExists steps p e fun q => q.Connected tx x ∧ q.Connected ty y
  answererConnected : WhileExists steps p e' fun q => q.Connected tx x ∧ q.Connected ty y

/-- What one side has gathered has been handed to the transporter of the other one,
under the id of the side that gathered it, and nothing to its own. -/
structure CandidatesReach (steps : List (RunnerPool × RunnerStep)) (tx : Nat) (x : String)
    (ty : Nat) (y : String) (e e' : Nat) : Prop where
  offerer : (gathered steps e).Perm (handed steps e ty x)
  answerer : (gathered steps e').Perm (handed steps e' tx y)
  notBack (id : String) : handed steps e tx id = [] ∧ handed steps e' ty id = []

section Exchange

variable {W : WebRtc} {page : Nat → Nat} {steps : List (RunnerPool × RunnerStep)}
  {p : RunnerPool} {tx ty e e' : Nat} {x y : String}

/-- A connection of the exchange, on either side. -/
theorem Exchange.law (hrun : RunnerRun W page steps p) {thread n : Nat}
    (hthread : thread = tx ∨ thread = ty)
    (hconnection : ∃ c, (p.state.pages n).peerConnections.get e = some c ∧
      c.onicecandidate = ⟨thread, x, y⟩)
    (hconnected : WhileExists steps p e fun q => q.Connected tx x ∧ q.Connected ty y) :
    CandidateLaw ⟨thread, x, y⟩ ty e steps p := by
  obtain ⟨c, hc, hhandler⟩ := hconnection
  apply RunnerRun.candidateLaw hrun
  · intro n' c' hc'
    have hn := (RunnerRun.numbered hrun).one_page n n' e c c' hc hc'
    rw [← hn, hc] at hc'
    rw [← Option.some.inj hc']
    exact hhandler
  · intro q hq hexists
    obtain ⟨hx, hy⟩ := hconnected q hq hexists
    refine ⟨?_, hy⟩
    obtain ⟨socket, hsocket, -⟩ := hx
    obtain ⟨socket', hsocket', -⟩ := hy
    rcases hthread with rfl | rfl
    · simp [hsocket]
    · simp [hsocket']

/-- Once they are no longer on their way, all candidates of a connection have been
handed to the client `answererId`. -/
theorem CandidateLaw.handed_eq {h : CandidateHandler} {thread : Nat}
    (hlaw : CandidateLaw h thread e steps p) (hsettled : ∀ t ∈ p.tasks, t.source ≠ some e) :
    (gathered steps e).Perm (handed steps e thread h.offererId) := by
  have hnil : p.tasks.filterMap (RunnerTask.carried e) = [] := by
    rw [List.filterMap_eq_nil_iff]
    intro t ht
    rw [RunnerTask.carried, if_neg (hsettled t ht)]
  simpa [hnil] using hlaw.conserved

theorem CandidateLaw.handed_elsewhere {h : CandidateHandler} {thread thread' : Nat} {id : String}
    (hlaw : CandidateLaw h thread e steps p) (hne : ¬(thread' = thread ∧ id = h.offererId)) :
    handed steps e thread' id = [] := by
  rw [handed, List.filterMap_eq_nil_iff]
  intro step hstep
  cases hc : step.2.handed e thread' id with
  | none => rfl
  | some c => exact absurd (hlaw.nowhereElse step hstep _ _ c (RunnerStep.eq_of_handed hc)) hne

/-- The candidates of an exchange reach the other side exactly if the side that
answers has gathered none. -/
theorem candidatesReach_iff (hrun : RunnerRun W page steps p)
    (hexchange : Exchange W page steps p tx x ty y e e')
    (hsettled : ∀ t ∈ p.tasks, t.source ≠ some e ∧ t.source ≠ some e') :
    CandidatesReach steps tx x ty y e e' ↔ gathered steps e' = [] := by
  obtain ⟨c, hc, hcremote, hchandler⟩ := hexchange.offerer
  obtain ⟨c', hc', hcremote', hchandler', -⟩ := hexchange.answerer
  have hoffer := Exchange.law hrun (.inl rfl) ⟨c, hc, hchandler⟩ hexchange.offererConnected
  have hanswer := Exchange.law hrun (.inr rfl) ⟨c', hc', hchandler'⟩ hexchange.answererConnected
  have hhanded := hanswer.handed_eq fun t ht => (hsettled t ht).2
  -- a thread has one id
  have hne : tx ≠ ty := by
    rintro rfl
    obtain ⟨⟨_, -, hx, -⟩, ⟨_, -, hy, -⟩⟩ :=
      hexchange.offererConnected p (.inl rfl) ⟨_, _, hc⟩
    exact hexchange.distinct (hx.symm.trans hy)
  constructor
  · intro h
    have hnil := (h.notBack x).2
    rw [hnil] at hhanded
    exact hhanded.eq_nil
  · intro h
    rw [h] at hhanded
    refine ⟨hoffer.handed_eq fun t ht => (hsettled t ht).1, ?_, ?_⟩
    · rw [h, hanswer.handed_elsewhere fun heq => hne heq.1]
    · intro id
      refine ⟨hoffer.handed_elsewhere fun heq => hne heq.1, ?_⟩
      by_cases hid : id = x
      · rw [hid]
        exact hhanded.nil_eq.symm
      · exact hanswer.handed_elsewhere fun heq => hid heq.2

end Exchange

/-! ### Runs with an exchange -/

theorem whileExists_of_fresh {W : WebRtc} {page : Nat → Nat}
    {steps : List (RunnerPool × RunnerStep)} {p : RunnerPool} {e : Nat} {K : Runner → Prop}
    (hrun : RunnerRun W page steps p)
    (h : ∀ q ∈ p :: steps.map Prod.fst, q.state.fresh = 0 ∨ K q.state) :
    WhileExists steps p e K := by
  intro q hq hexists
  obtain ⟨n, c, hc⟩ := hexists
  have hnumbered : q.state.Numbered := by
    rcases hq with rfl | hq
    · exact RunnerRun.numbered hrun
    · obtain ⟨x, hx, rfl⟩ := List.mem_map.mp hq
      obtain ⟨_, _, _, hbefore, _⟩ := hrun.of_mem hx
      exact RunnerRun.numbered hbefore
  have hlt := hnumbered.connection_lt n e c hc
  have hmem : q ∈ p :: steps.map Prod.fst := by
    rcases hq with rfl | hq
    · exact List.mem_cons_self
    · exact List.mem_cons_of_mem _ hq
  rcases h q hmem with hzero | hK
  · omega
  · exact hK

/-- Two clients join and exchange an offer and an answer. -/
def exchangeEvents : List RunnerEvent :=
  [.join 0 "10.0.0.0", .join 1 "10.0.0.1"] ++ List.replicate 15 (.resume 0)

/-- The two clients exchange an offer and an answer, and then more happens. -/
theorem exists_exchange {P : List (RunnerPool × RunnerStep) → RunnerPool → Prop}
    [∀ steps p, Decidable (P steps p)] (es : List RunnerEvent)
    (h : ((Run.along (RunnerPool.next .numbered id) (exchangeEvents ++ es) .init []).any
      fun r => decide (P r.1 r.2 ∧
        (∀ q ∈ r.2 :: r.1.map Prod.fst, q.state.fresh = 0 ∨
          (q.state.Connected 0 "10.0.0.0" ∧ q.state.Connected 1 "10.0.0.1")) ∧
        (∃ c ∈ (r.2.state.pages 0).peerConnections.get 0,
          c.remoteId = "10.0.0.1" ∧ c.onicecandidate = ⟨0, "10.0.0.0", "10.0.0.1"⟩) ∧
        ∃ c ∈ (r.2.state.pages 1).peerConnections.get 1,
          c.remoteId = "10.0.0.0" ∧ c.onicecandidate = ⟨1, "10.0.0.0", "10.0.0.1"⟩ ∧
          c.remoteDescription = some (WebRtc.numbered.offer 0))) = true) :
    ∃ steps p, RunnerRun .numbered id steps p ∧
      Exchange .numbered id steps p 0 "10.0.0.0" 1 "10.0.0.1" 0 1 ∧ P steps p := by
  obtain ⟨steps, p, hrun, hP, hconnected, hoffer, hanswer⟩ := RunnerRun.exists_along .numbered id
    (P := fun steps p => P steps p ∧
      (∀ q ∈ p :: steps.map Prod.fst, q.state.fresh = 0 ∨
        (q.state.Connected 0 "10.0.0.0" ∧ q.state.Connected 1 "10.0.0.1")) ∧
      (∃ c ∈ (p.state.pages 0).peerConnections.get 0,
        c.remoteId = "10.0.0.1" ∧ c.onicecandidate = ⟨0, "10.0.0.0", "10.0.0.1"⟩) ∧
      ∃ c ∈ (p.state.pages 1).peerConnections.get 1,
        c.remoteId = "10.0.0.0" ∧ c.onicecandidate = ⟨1, "10.0.0.0", "10.0.0.1"⟩ ∧
        c.remoteDescription = some (WebRtc.numbered.offer 0))
    (exchangeEvents ++ es) h
  refine ⟨steps, p, hrun, ⟨by decide, hoffer, hanswer, ?_, ?_⟩, hP⟩
  · exact whileExists_of_fresh hrun hconnected
  · exact whileExists_of_fresh hrun hconnected

/-- The offerer gathers two candidates. -/
theorem candidatesReach_iff_run : ∃ steps p, RunnerRun .numbered id steps p ∧
    gathered steps 0 = ["a", "b"] ∧
    CandidatesReach steps 0 "10.0.0.0" 1 "10.0.0.1" 0 1 := by
  obtain ⟨steps, p, hrun, hexchange, hoffer, hanswer, hsettled⟩ := exists_exchange
    (P := fun steps p => gathered steps 0 = ["a", "b"] ∧ gathered steps 1 = [] ∧
      ∀ t ∈ p.tasks, t.source ≠ some 0 ∧ t.source ≠ some 1)
    (.onicecandidate 0 0 "a" :: .onicecandidate 0 0 "b" :: List.replicate 8 (.resume 0))
    (by decide +kernel)
  exact ⟨steps, p, hrun, hoffer, (candidatesReach_iff hrun hexchange hsettled).mpr hanswer⟩

/-- A candidate of the answerer is handed to the answerer, under the id of the
offerer. -/
theorem candidate_comes_back : ¬∀ (W : WebRtc) (page : Nat → Nat)
    (steps : List (RunnerPool × RunnerStep)) (p : RunnerPool) (tx : Nat) (x : String) (ty : Nat)
    (y : String) (e e' : Nat), RunnerRun W page steps p →
    Exchange W page steps p tx x ty y e e' →
    (∀ t ∈ p.tasks, t.source ≠ some e ∧ t.source ≠ some e') →
      CandidatesReach steps tx x ty y e e' := by
  intro hall
  obtain ⟨steps, p, hrun, hexchange, hhanded, hsettled⟩ := exists_exchange
    (P := fun steps p => handed steps 1 1 "10.0.0.0" = ["a"] ∧
      ∀ t ∈ p.tasks, t.source ≠ some 0 ∧ t.source ≠ some 1)
    (.onicecandidate 1 1 "a" :: List.replicate 4 (.resume 0)) (by decide +kernel)
  have hback := ((hall _ _ _ _ _ _ _ _ _ _ hrun hexchange hsettled).notBack "10.0.0.0").2
  rw [hhanded] at hback
  cases hback

end Unisockets.Transport
