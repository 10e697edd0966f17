import Unisockets.Transition.Since
import Unisockets.Transport.Runner

/-!
# Connections are never closed

`onconnectionstatechange` is the only place that shuts a connection down, and it
does so when the browser reports `closed`, which is what a connection becomes
when the page itself has closed it.  So nothing is ever closed: a page that has a
connection to an id keeps this connection to it, whatever happens to the client
of that id.

`Transporter.Grows` says so of two transporters, and every step of a run keeps to
it.  `Transporter.Extends` says that the connections themselves stay what they
are, whose they are and whom their candidates go to, and that a new one has a
number that no other connection has on any page (`RunnerRun.numbered`).
-/

namespace Unisockets.Transport

open JsStd Signaling Transition

namespace RTCPeerConnection

/-- What a connection is besides the candidates it has been given. -/
def withoutCandidates (c : RTCPeerConnection) : RTCPeerConnection := { c with candidates := [] }

@[simp]
theorem withoutCandidates_append (c : RTCPeerConnection) (candidates : List String) :
    ({ c with candidates := candidates } : RTCPeerConnection).withoutCandidates =
      c.withoutCandidates := rfl

end RTCPeerConnection

namespace Transporter

variable {t t' : Transporter}

/-! ## What the updates do to the connections -/

@[simp]
theorem connections_createDataChannel (connection : Nat) (label : String) (channel : Nat) :
    (t.createDataChannel connection label channel).connections = t.connections := rfl

@[simp]
theorem peerConnections_createDataChannel (connection : Nat) (label : String) (channel : Nat) :
    (t.createDataChannel connection label channel).peerConnections = t.peerConnections := rfl

@[simp]
theorem connections_dataChannelConfiguration (remoteId localId : String) (channel : Nat) :
    (t.dataChannelConfiguration remoteId localId channel).connections = t.connections := by
  simp [dataChannelConfiguration, addQueueMessages, addDataChannel]

@[simp]
theorem peerConnections_dataChannelConfiguration (remoteId localId : String) (channel : Nat) :
    (t.dataChannelConfiguration remoteId localId channel).peerConnections =
      t.peerConnections := by
  simp [dataChannelConfiguration, addQueueMessages, addDataChannel]

@[simp]
theorem connections_reuse (remoteId localId : String) (connection channel : Nat) :
    (t.reuse remoteId localId connection channel).connections = t.connections := by
  unfold reuse
  split <;> simp

@[simp]
theorem peerConnections_reuse (remoteId localId : String) (connection channel : Nat) :
    (t.reuse remoteId localId connection channel).peerConnections = t.peerConnections := by
  unfold reuse
  split <;> simp

@[simp]
theorem connections_setPeerConnection (connection : Nat)
    (update : RTCPeerConnection → RTCPeerConnection) :
    (t.setPeerConnection connection update).connections = t.connections := by
  unfold setPeerConnection
  split <;> rfl

@[simp]
theorem channels_setPeerConnection (connection : Nat)
    (update : RTCPeerConnection → RTCPeerConnection) :
    (t.setPeerConnection connection update).channels = t.channels := by
  unfold setPeerConnection
  split <;> rfl

@[simp]
theorem dataChannels_setPeerConnection (connection : Nat)
    (update : RTCPeerConnection → RTCPeerConnection) :
    (t.setPeerConnection connection update).dataChannels = t.dataChannels := by
  unfold setPeerConnection
  split <;> rfl

theorem get_setPeerConnection (connection : Nat)
    (update : RTCPeerConnection → RTCPeerConnection) (n : Nat) :
    (t.setPeerConnection connection update).peerConnections.get n =
      if n = connection then (t.peerConnections.get n).map update
      else t.peerConnections.get n := by
  unfold setPeerConnection
  split
  · rename_i c hc
    rw [Map.get_set]
    split_ifs with h
    · rw [h, hc, Option.map_some]
    · rfl
  · rename_i hc
    split_ifs with h
    · rw [h, hc, Option.map_none]
    · rfl

/-! ## Candidates -/

/-- The same connections and channels, but for the candidates. -/
structure SameConnections (t t' : Transporter) : Prop where
  connections : t'.connections = t.connections
  channels : t'.channels = t.channels
  dataChannels : t'.dataChannels = t.dataChannels
  peerConnections (n : Nat) :
    (t'.peerConnections.get n).map RTCPeerConnection.withoutCandidates =
      (t.peerConnections.get n).map RTCPeerConnection.withoutCandidates

theorem SameConnections.refl (t : Transporter) : SameConnections t t :=
  ⟨rfl, rfl, rfl, fun _ => rfl⟩

theorem SameConnections.trans {t t' t'' : Transporter} (h : SameConnections t t')
    (h' : SameConnections t' t'') : SameConnections t t'' where
  connections := h'.connections.trans h.connections
  channels := h'.channels.trans h.channels
  dataChannels := h'.dataChannels.trans h.dataChannels
  peerConnections n := (h'.peerConnections n).trans (h.peerConnections n)

theorem sameConnections_handleCandidate (id candidate : String) :
    SameConnections t (t.handleCandidate id candidate) := by
  unfold handleCandidate
  split
  · refine ⟨by simp, by simp, by simp, fun n => ?_⟩
    rw [get_setPeerConnection]
    split_ifs
    · cases t.peerConnections.get n <;> simp
    · rfl
  · exact ⟨rfl, rfl, rfl, fun _ => rfl⟩

theorem sameConnections_addQueuedCandidates (id : String) :
    SameConnections t (t.addQueuedCandidates id) := by
  have hfold : ∀ (candidates : List String) (t' : Transporter), SameConnections t t' →
      SameConnections t (candidates.foldl (fun t candidate =>
        ({ t with
          queuedCandidates := t.queuedCandidates.set id
            (((t.queuedCandidates.get id).getD []).filter (· ≠ candidate)) } :
          Transporter).handleCandidate id candidate) t') := by
    intro candidates
    induction candidates with
    | nil => exact fun t' h => h
    | cons candidate candidates ih =>
      intro t' h
      refine ih _ (h.trans (SameConnections.trans ?_
        (sameConnections_handleCandidate id candidate)))
      exact ⟨rfl, rfl, rfl, fun _ => rfl⟩
  exact hfold _ t (SameConnections.refl t)

/-! ## Nothing is closed -/

/-- No connection is closed. -/
def Open (t : Transporter) : Prop :=
  ∀ connection c, t.peerConnections.get connection = some c → c.connectionState ≠ .closed

/-- Unless something was closed, nothing is closed and every id has the
connection it had. -/
structure Grows (t t' : Transporter) : Prop where
  isOpen (h : t.Open) : t'.Open
  connections (h : t.Open) (id : String) (connection : Nat)
    (hconnection : t.connections.get id = some connection) :
    t'.connections.get id = some connection

theorem Grows.refl (t : Transporter) : Grows t t :=
  ⟨fun h => h, fun _ _ _ hconnection => hconnection⟩

theorem Grows.trans {t t' t'' : Transporter} (h : Grows t t') (h' : Grows t' t'') :
    Grows t t'' where
  isOpen hopen := h'.isOpen (h.isOpen hopen)
  connections hopen id connection hconnection := h'.connections (h.isOpen hopen) id connection
    (h.connections hopen id connection hconnection)

theorem Grows.of_eq (hconnections : t'.connections = t.connections)
    (hpeer : t'.peerConnections = t.peerConnections) : Grows t t' where
  isOpen hopen := by
    intro connection c hc
    rw [hpeer] at hc
    exact hopen connection c hc
  connections _ _ _ hconnection := hconnections ▸ hconnection

theorem SameConnections.grows (h : SameConnections t t') : Grows t t' where
  isOpen hopen := by
    intro connection c hc
    have hsame := h.peerConnections connection
    rw [hc, Option.map_some] at hsame
    obtain ⟨c₀, hc₀, heq⟩ := Option.map_eq_some_iff.mp hsame.symm
    have hstate := congrArg RTCPeerConnection.connectionState heq
    exact fun he => hopen connection c₀ hc₀ (hstate.trans he)
  connections _ _ _ hconnection := h.connections ▸ hconnection

theorem grows_setPeerConnection {connection : Nat}
    {update : RTCPeerConnection → RTCPeerConnection}
    (hupdate : ∀ c, c.connectionState ≠ .closed → (update c).connectionState ≠ .closed) :
    Grows t (t.setPeerConnection connection update) where
  isOpen hopen := by
    intro n c hc
    rw [get_setPeerConnection] at hc
    split_ifs at hc
    · obtain ⟨c₀, hc₀, rfl⟩ := Option.map_eq_some_iff.mp hc
      exact hupdate c₀ (hopen n c₀ hc₀)
    · exact hopen n c hc
  connections _ _ _ hconnection := by rwa [connections_setPeerConnection]

theorem grows_setRemoteDescription (connection : Nat) (sdp : String) :
    Grows t (t.setRemoteDescription connection sdp) := by
  apply grows_setPeerConnection
  exact fun _ hopen => hopen

theorem grows_listen (connection : Nat) (localId : String) :
    Grows t (t.listen connection localId) := by
  apply grows_setPeerConnection
  exact fun _ hopen => hopen

/-- While nothing is closed, a connection that is there exists. -/
theorem Open.existing_eq (h : t.Open) (remoteId : String) :
    t.existing remoteId = t.connections.get remoteId := by
  unfold existing
  cases hconnection : t.connections.get remoteId with
  | none => rfl
  | some connection =>
    refine Option.filter_eq_some_iff.mpr ⟨rfl, ?_⟩
    cases hc : t.peerConnections.get connection with
    | none => rfl
    | some c => simpa using h connection c hc

theorem grows_addConnection {c : RTCPeerConnection} {connection : Nat}
    (hnew : t.existing c.remoteId = none) (hopen : c.connectionState ≠ .closed) :
    Grows t (t.addConnection connection c) where
  isOpen h := by
    intro n c' hc'
    simp only [addConnection, Map.get_set] at hc'
    split_ifs at hc'
    · cases hc'
      exact hopen
    · exact h n c' hc'
  connections h id n hn := by
    have hne : id ≠ c.remoteId := by
      intro he
      rw [h.existing_eq, ← he, hn] at hnew
      cases hnew
    rw [addConnection, Map.get_set_of_ne _ _ hne]
    exact hn

theorem grows_getOffer (remoteId localId : String) (handleCandidate : CandidateHandler)
    (n : Nat) : Grows t (t.getOffer remoteId localId handleCandidate n).1 := by
  unfold getOffer
  split
  · exact .of_eq (by simp) (by simp)
  · rename_i hnew
    have hadd : Grows t (t.addConnection n {
        remoteId := remoteId
        onicecandidate := handleCandidate
        ondatachannel := some localId }) := grows_addConnection hnew (by simp)
    exact hadd.trans (.of_eq (by simp) (by simp))

theorem grows_handleOffer (remoteId localId : String) (handleCandidate : CandidateHandler)
    (n : Nat) : Grows t (t.handleOffer remoteId localId handleCandidate n).1 := by
  unfold handleOffer
  split
  · exact .of_eq (by simp) (by simp)
  · rename_i hnew
    exact grows_addConnection hnew (by simp)

theorem grows_handleConnectionStatusChange {connectionState : RTCPeerConnectionState}
    (hopen : connectionState ≠ .closed) (id : String) :
    Grows t (t.handleConnectionStatusChange connectionState id) := by
  rw [handleConnectionStatusChange, if_neg hopen]
  exact .refl t

/-! ## Old and new connections -/

/-- The connections stay what they are, and the only new one can be `n`. -/
structure Extends (n n' : Nat) (t t' : Transporter) : Prop where
  keeps (e : Nat) (c : RTCPeerConnection) (h : e < n) (hc : t.peerConnections.get e = some c) :
    ∃ c', t'.peerConnections.get e = some c' ∧ c'.remoteId = c.remoteId ∧
      c'.onicecandidate = c.onicecandidate
  fresh (e : Nat) (c' : RTCPeerConnection) (hc' : t'.peerConnections.get e = some c') :
    (∃ c, t.peerConnections.get e = some c) ∨ e = n ∧ n < n'

variable {n n' : Nat}

theorem Extends.refl (t : Transporter) : Extends n n' t t where
  keeps _ c _ hc := ⟨c, hc, rfl, rfl⟩
  fresh _ c' hc' := .inl ⟨c', hc'⟩

theorem Extends.of_eq (h : t'.peerConnections = t.peerConnections) : Extends n n' t t' where
  keeps _ c _ hc := ⟨c, h ▸ hc, rfl, rfl⟩
  fresh _ c' hc' := .inl ⟨c', h ▸ hc'⟩

theorem Extends.trans {t t' t'' : Transporter} (h : Extends n n' t t')
    (h' : Extends n n' t' t'') : Extends n n' t t'' where
  keeps e c he hc := by
    obtain ⟨c', hc', hremote', hhandler'⟩ := h.keeps e c he hc
    obtain ⟨c'', hc'', hremote'', hhandler''⟩ := h'.keeps e c' he hc'
    exact ⟨c'', hc'', hremote''.trans hremote', hhandler''.trans hhandler'⟩
  fresh e c'' hc'' := by
    rcases h'.fresh e c'' hc'' with ⟨c', hc'⟩ | hnew
    · exact h.fresh e c' hc'
    · exact .inr hnew

theorem extends_setPeerConnection {connection : Nat}
    {update : RTCPeerConnection → RTCPeerConnection}
    (hremote : ∀ c, (update c).remoteId = c.remoteId)
    (hhandler : ∀ c, (update c).onicecandidate = c.onicecandidate) :
    Extends n n' t (t.setPeerConnection connection update) where
  keeps e c _ hc := by
    rw [get_setPeerConnection, hc]
    split_ifs
    · exact ⟨update c, rfl, hremote c, hhandler c⟩
    · exact ⟨c, rfl, rfl, rfl⟩
  fresh e c' hc' := by
    rw [get_setPeerConnection] at hc'
    split_ifs at hc'
    · obtain ⟨c, hc, -⟩ := Option.map_eq_some_iff.mp hc'
      exact .inl ⟨c, hc⟩
    · exact .inl ⟨c', hc'⟩

theorem SameConnections.extends (h : SameConnections t t') : Extends n n' t t' where
  keeps e c _ hc := by
    have hsame := h.peerConnections e
    rw [hc, Option.map_some] at hsame
    obtain ⟨c', hc', heq⟩ := Option.map_eq_some_iff.mp hsame
    have hremote := congrArg RTCPeerConnection.remoteId heq
    have hhandler := congrArg RTCPeerConnection.onicecandidate heq
    exact ⟨c', hc', hremote, hhandler⟩
  fresh e c' hc' := by
    have hsame := h.peerConnections e
    rw [hc', Option.map_some] at hsame
    obtain ⟨c, hc, -⟩ := Option.map_eq_some_iff.mp hsame.symm
    exact .inl ⟨c, hc⟩

theorem extends_addConnection (c : RTCPeerConnection) :
    Extends n (n + 1) t (t.addConnection n c) where
  keeps e c' he hc' := by
    rw [addConnection, Map.get_set_of_ne _ _ (Nat.ne_of_lt he)]
    exact ⟨c', hc', rfl, rfl⟩
  fresh e c' hc' := by
    simp only [addConnection, Map.get_set] at hc'
    split_ifs at hc' with he
    · exact .inr ⟨he, Nat.lt_succ_self n⟩
    · exact .inl ⟨c', hc'⟩

theorem extends_getOffer (remoteId localId : String) (handleCandidate : CandidateHandler) :
    Extends n (n + 1) t (t.getOffer remoteId localId handleCandidate n).1 := by
  unfold getOffer
  split
  · exact .of_eq (by simp)
  · have hadd : Extends n (n + 1) t (t.addConnection n {
        remoteId := remoteId
        onicecandidate := handleCandidate
        ondatachannel := some localId }) := extends_addConnection _
    exact hadd.trans (.of_eq (by simp))

theorem extends_handleOffer (remoteId localId : String) (handleCandidate : CandidateHandler) :
    Extends n (n + 1) t (t.handleOffer remoteId localId handleCandidate n).1 := by
  unfold handleOffer
  split
  · exact .of_eq (by simp)
  · exact extends_addConnection _

theorem extends_setRemoteDescription (connection : Nat) (sdp : String) :
    Extends n n' t (t.setRemoteDescription connection sdp) :=
  extends_setPeerConnection (fun _ => rfl) (fun _ => rfl)

theorem extends_listen (connection : Nat) (localId : String) :
    Extends n n' t (t.listen connection localId) :=
  extends_setPeerConnection (fun _ => rfl) (fun _ => rfl)

theorem extends_handleConnectionStatusChange {connectionState : RTCPeerConnectionState}
    (hopen : connectionState ≠ .closed) (id : String) :
    Extends n n' t (t.handleConnectionStatusChange connectionState id) := by
  rw [handleConnectionStatusChange, if_neg hopen]
  exact .refl t

end Transporter

/-! ## The pages of a run -/

section Runner

open Transporter

variable {W : WebRtc} {page : Nat → Nat}

theorem Runner.pages_setPage (p : Runner) (n : Nat) (t : Transporter) (m : Nat) :
    (p.setPage n t).pages m = if m = n then t else p.pages m :=
  Function.update_apply p.pages n t m

theorem Runner.grows_setPage {p : Runner} {n : Nat} {t : Transporter} (h : Grows (p.pages n) t)
    (m : Nat) : Grows (p.pages m) ((p.setPage n t).pages m) := by
  rw [Runner.pages_setPage]
  split_ifs with he
  · exact he ▸ h
  · exact .refl _

theorem RunnerTask.grows_resume (t : RunnerTask) (p : Runner) (n : Nat) :
    Grows (p.pages n) ((t.resume W page p).1.pages n) := by
  cases t with
  | handleOffer => exact Runner.grows_setPage (grows_getOffer ..) n
  | getAnswer => exact Runner.grows_setPage (grows_handleOffer ..) n
  | offerDescribing => exact Runner.grows_setPage (grows_setRemoteDescription _ _) n
  | answerCreating => exact Runner.grows_setPage (sameConnections_addQueuedCandidates _).grows n
  | answerCreated => exact Runner.grows_setPage (grows_listen _ _) n
  | answerDescribing =>
    refine Runner.grows_setPage (Grows.trans ?_ (sameConnections_addQueuedCandidates _).grows) n
    exact grows_setRemoteDescription _ _
  | handleCandidate => exact Runner.grows_setPage (sameConnections_handleCandidate _ _).grows n
  | _ => exact .refl _

/-- No step closes a connection or takes one from an id. -/
theorem RunnerPool.Step.grows {p p' : RunnerPool} {a : RunnerStep}
    (h : RunnerPool.Step W page p a p') (n : Nat) :
    Grows (p.state.pages n) (p'.state.pages n) := by
  cases h with
  | join _ => exact .refl _
  | leave _ => exact .refl _
  | onicecandidate _ => exact .refl _
  | onconnectionstatechange _ hopen =>
    refine Runner.grows_setPage (Grows.trans ?_ (grows_handleConnectionStatusChange hopen _)) n
    exact grows_setPeerConnection fun _ _ => hopen
  | ondatachannel => exact Runner.grows_setPage (.of_eq (by simp) (by simp)) n
  | resume _ => exact RunnerTask.grows_resume _ _ n

/-! ## The numbers of the connections -/

/-- One page at most is another one, and its connections have been kept. -/
def Runner.Extends (p p' : Runner) : Prop :=
  p.fresh ≤ p'.fresh ∧ ∃ n t, p'.pages = (p.setPage n t).pages ∧
    Transporter.Extends p.fresh p'.fresh (p.pages n) t

theorem Runner.Extends.of_pages {p p' : Runner} (hfresh : p'.fresh = p.fresh)
    (hpages : p'.pages = p.pages) : p.Extends p' := by
  refine ⟨Nat.le_of_eq hfresh.symm, 0, p.pages 0, ?_, .refl _⟩
  rw [hpages, Runner.setPage]
  exact (Function.update_eq_self 0 p.pages).symm

theorem RunnerTask.extends_resume (t : RunnerTask) (p : Runner) :
    p.Extends (t.resume W page p).1 := by
  cases t with
  | handleOffer thread =>
    exact ⟨Nat.le_succ _, page thread, _, rfl, extends_getOffer ..⟩
  | getAnswer thread =>
    exact ⟨Nat.le_succ _, page thread, _, rfl, extends_handleOffer ..⟩
  | offerDescribing thread =>
    exact ⟨Nat.le_refl _, page thread, _, rfl, extends_setRemoteDescription _ _⟩
  | answerCreating thread =>
    exact ⟨Nat.le_refl _, page thread, _, rfl, (sameConnections_addQueuedCandidates _).extends⟩
  | answerCreated thread => exact ⟨Nat.le_refl _, page thread, _, rfl, extends_listen _ _⟩
  | answerDescribing thread =>
    refine ⟨Nat.le_refl _, page thread, _, rfl, Transporter.Extends.trans ?_
      (sameConnections_addQueuedCandidates _).extends⟩
    exact extends_setRemoteDescription _ _
  | handleCandidate thread =>
    exact ⟨Nat.le_refl _, page thread, _, rfl, (sameConnections_handleCandidate _ _).extends⟩
  | _ => exact .of_pages rfl rfl

theorem RunnerPool.Step.extends {p p' : RunnerPool} {a : RunnerStep}
    (h : RunnerPool.Step W page p a p') : p.state.Extends p'.state := by
  cases h with
  | join _ => exact .of_pages rfl rfl
  | leave _ => exact .of_pages rfl rfl
  | onicecandidate _ => exact .of_pages rfl rfl
  | @onconnectionstatechange n _ _ _ _ hopen =>
    refine ⟨Nat.le_refl _, n, _, rfl, Transporter.Extends.trans ?_
      (extends_handleConnectionStatusChange hopen _)⟩
    exact extends_setPeerConnection (fun _ => rfl) (fun _ => rfl)
  | @ondatachannel n => exact ⟨Nat.le_succ _, n, _, rfl, .of_eq (by simp)⟩
  | resume _ => exact RunnerTask.extends_resume _ _

/-- A connection has a number that has been used, and one page. -/
structure Runner.Numbered (p : Runner) : Prop where
  connection_lt (n e : Nat) (c : RTCPeerConnection)
    (h : (p.pages n).peerConnections.get e = some c) : e < p.fresh
  one_page (n n' e : Nat) (c c' : RTCPeerConnection)
    (h : (p.pages n).peerConnections.get e = some c)
    (h' : (p.pages n').peerConnections.get e = some c') : n = n'

/-- Where a connection of the next state comes from. -/
theorem Runner.Extends.connection {p p' : Runner} (h : p.Extends p') {n e : Nat}
    {c' : RTCPeerConnection} (hc' : (p'.pages n).peerConnections.get e = some c') :
    (∃ c, (p.pages n).peerConnections.get e = some c) ∨ e = p.fresh ∧ p.fresh < p'.fresh := by
  obtain ⟨-, m, t, hpages, hext⟩ := h
  rw [hpages, Runner.pages_setPage] at hc'
  split_ifs at hc' with he
  · subst he
    exact hext.fresh e c' hc'
  · exact .inl ⟨c', hc'⟩

theorem Runner.Extends.numbered {p p' : Runner} (h : p.Extends p') (hp : p.Numbered) :
    p'.Numbered where
  connection_lt n e c' hc' := by
    rcases h.connection hc' with ⟨c, hc⟩ | ⟨rfl, hlt⟩
    · exact Nat.lt_of_lt_of_le (hp.connection_lt n e c hc) h.1
    · exact hlt
  one_page n n' e c c' hc hc' := by
    obtain ⟨-, m, t, hpages, -⟩ := id h
    rcases h.connection hc with ⟨d, hd⟩ | ⟨he, -⟩
    · rcases h.connection hc' with ⟨d', hd'⟩ | ⟨he, -⟩
      · exact hp.one_page n n' e d d' hd hd'
      · exact absurd (hp.connection_lt n e d hd) (by omega)
    · -- the connection is new, so that it is on the page that has changed
      have hchanged : ∀ n c, (p'.pages n).peerConnections.get e = some c → n = m := by
        intro n c hn
        by_contra hne
        rw [hpages, Runner.pages_setPage, if_neg hne] at hn
        exact absurd (hp.connection_lt n e c hn) (by omega)
      rw [hchanged n c hc, hchanged n' c' hc']

/-- Connections stay what they are. -/
theorem Runner.Extends.keeps {p p' : Runner} (h : p.Extends p') (hp : p.Numbered) {n e : Nat}
    {c : RTCPeerConnection} (hc : (p.pages n).peerConnections.get e = some c) :
    ∃ c', (p'.pages n).peerConnections.get e = some c' ∧ c'.remoteId = c.remoteId ∧
      c'.onicecandidate = c.onicecandidate := by
  obtain ⟨-, m, t, hpages, hext⟩ := h
  rw [hpages, Runner.pages_setPage]
  split_ifs with he
  · subst he
    exact hext.keeps e c (hp.connection_lt n e c hc) hc
  · exact ⟨c, hc, rfl, rfl⟩

theorem RunnerRun.numbered {steps : List (RunnerPool × RunnerStep)} {p : RunnerPool}
    (hrun : RunnerRun W page steps p) : p.state.Numbered := by
  have hadmits : ∀ x ∈ steps, (fun _ => True) x := fun _ _ => trivial
  refine Run.invariant (I := fun p => p.state.Numbered) hrun hadmits ?_ ?_
  · rintro p rfl
    constructor
    · intro n e c hc
      cases hc
    · intro n n' e c c' hc
      cases hc
  · exact fun _ _ _ hp _ hstep => hstep.extends.numbered hp

/-- Every page of a run grows from any of its states to its end. -/
theorem RunnerRun.grows {steps : List (RunnerPool × RunnerStep)} {p : RunnerPool}
    (hrun : RunnerRun W page steps p) {x : RunnerPool × RunnerStep} (hx : x ∈ steps) (n : Nat) :
    (x.1.state.pages n).Grows (p.state.pages n) := by
  refine Run.related (R := fun s s' => (s.state.pages n).Grows (s'.state.pages n)) hrun hx ?_ ?_
  · exact fun _ _ _ h h' => h.trans h'
  · exact fun _ _ _ h => h.grows n

/-- Nothing is closed in a run. -/
theorem RunnerRun.isOpen {steps : List (RunnerPool × RunnerStep)} {p : RunnerPool}
    (hrun : RunnerRun W page steps p) (n : Nat) : (p.state.pages n).Open := by
  have hadmits : ∀ x ∈ steps, (fun _ => True) x := fun _ _ => trivial
  refine Run.invariant (I := fun p => (p.state.pages n).Open) hrun hadmits ?_ ?_
  · rintro p rfl connection c hc
    cases hc
  · exact fun _ _ _ hopen _ hstep => (hstep.grows n).isOpen hopen

end Runner

end Unisockets.Transport
