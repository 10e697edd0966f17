import Mathlib.Data.List.Perm.Basic
import Unisockets.Transport.Connections

/-!
# Candidates that come early

The connection to a client is set up once, by `handleOffer` or by `getOffer` and then
`handleAnswer`, and any number of calls of `handleCandidate` come in between at the awaits
or before.  A candidate that comes before the remote description is queued, and
`addQueuedCandidates` hands the queue over later.

`setRemoteDescription` sets the description when it resolves, so that candidates that come
between that and the loop of `addQueuedCandidates` are handed over at once, in front of those
that are queued.  Whatever the order, each candidate is handed over once, and none before the
description (`applied_once`).
-/

namespace Unisockets.Transport

open JsStd Transition

/-- How far the set-up of the connection has got. -/
inductive SetUpStage where
  | waiting
  /-- `handleOffer` awaits `setRemoteDescription`. -/
  | offerDescribing (connection : Nat)
  /-- It awaits `createAnswer` and `setLocalDescription`. -/
  | answerCreating (connection : Nat)
  /-- It awaits `addQueuedCandidates`. -/
  | answerCreated (connection : Nat)
  /-- `getOffer` awaits `createOffer` and `setLocalDescription`. -/
  | offerCreating (connection : Nat)
  /-- `getOffer` has returned. -/
  | offerCreated (connection : Nat)
  /-- `handleAnswer` awaits `setRemoteDescription`. -/
  | answerDescribing (connection : Nat)
  /-- The promise of `setRemoteDescription` is resolved. -/
  | answerDescribed (connection : Nat)
  | done (connection : Nat)
  deriving DecidableEq, Repr

structure SetUp where
  transporter : Transporter
  stage : SetUpStage := .waiting

inductive SetUpStep where
  | handleCandidate (candidate : String)
  /-- The new connection gets the number `n`. -/
  | handleOffer (n : Nat)
  | getOffer (n : Nat)
  | handleAnswer
  /-- The set-up goes on after an await. -/
  | resume
  deriving DecidableEq, Repr

section Run

variable (id localId offer answer : String) (handler : CandidateHandler)

namespace SetUp

def next (p : SetUp) : SetUpStep → Option SetUp
  | .handleCandidate candidate =>
    some { p with transporter := p.transporter.handleCandidate id candidate }
  | .handleOffer n =>
    if p.stage = .waiting ∧ p.transporter.peerConnections.has n = false then
      match p.transporter.handleOffer id localId handler n with
      | (t, .ok connection) => some ⟨t, .offerDescribing connection⟩
      | (_, .error _) => none
    else none
  | .getOffer n =>
    if p.stage = .waiting ∧ p.transporter.peerConnections.has n = false then
      match p.transporter.getOffer id localId handler n with
      | (t, .ok connection) => some ⟨t, .offerCreating connection⟩
      | (_, .error _) => none
    else none
  | .handleAnswer =>
    match p.stage, p.transporter.handleAnswer id with
    | .offerCreated _, .ok connection => some { p with stage := .answerDescribing connection }
    | _, _ => none
  | .resume =>
    match p.stage with
    | .offerDescribing connection =>
      some ⟨p.transporter.setRemoteDescription connection offer, .answerCreating connection⟩
    | .answerCreating connection =>
      some ⟨p.transporter.addQueuedCandidates id, .answerCreated connection⟩
    | .answerCreated connection =>
      some ⟨p.transporter.listen connection localId, .done connection⟩
    | .offerCreating connection => some { p with stage := .offerCreated connection }
    | .answerDescribing connection =>
      some ⟨p.transporter.setRemoteDescription connection answer, .answerDescribed connection⟩
    | .answerDescribed connection =>
      some ⟨p.transporter.addQueuedCandidates id, .done connection⟩
    | _ => none

def Step (p : SetUp) (a : SetUpStep) (p' : SetUp) : Prop :=
  p.next id localId offer answer handler a = some p'

/-- There is no connection to the client, and no candidate is queued. -/
def Initial (p : SetUp) : Prop :=
  ∃ t : Transporter, t.connections.get id = none ∧ (t.queuedCandidates.get id).getD [] = [] ∧
    p = { transporter := t }

end SetUp

/-- A run of one set-up with the calls of `handleCandidate`. -/
abbrev SetUpRun := Run (SetUp.Initial id) (SetUp.Step id localId offer answer handler)

end Run

namespace Transporter

/-- What has been handed to `addIceCandidate` of a connection. -/
def applied (t : Transporter) (connection : Nat) : List String :=
  ((t.peerConnections.get connection).map RTCPeerConnection.candidates).getD []

/-- The remote description of a connection is set. -/
def isDescribed (t : Transporter) (connection : Nat) : Bool :=
  (t.peerConnections.get connection).any fun c => c.remoteDescription.isSome

/-- `queuedCandidates` of a client. -/
def queuedFor (t : Transporter) (id : String) : List String :=
  (t.queuedCandidates.get id).getD []

end Transporter

namespace SetUpRun

/-- The candidates that `handleCandidate` has been called with. -/
def handled (steps : List (SetUp × SetUpStep)) : List String :=
  steps.filterMap fun x =>
    match x.2 with
    | .handleCandidate candidate => some candidate
    | _ => none

/-- The candidates of a connection have been handed over once each, after its description. -/
structure AppliedOnce (id localId offer answer : String) (handler : CandidateHandler)
    (steps : List (SetUp × SetUpStep)) (p : SetUp) (connection : Nat) : Prop where
  connections : p.transporter.connections.get id = some connection
  candidates : (p.transporter.applied connection).Perm (handled steps)
  described : ∀ x ∈ steps, ∀ p', SetUp.Step id localId offer answer handler x.1 x.2 p' →
    p'.transporter.applied connection ≠ x.1.transporter.applied connection →
      x.1.transporter.isDescribed connection = true
  queue : p.transporter.queuedFor id = []

end SetUpRun

/-! ## What the transporter does to candidates -/

namespace Transporter

variable {t : Transporter} {id : String} {connection : Nat}

theorem described_eq_some_iff : t.described id = some connection ↔
    t.connections.get id = some connection ∧ t.isDescribed connection = true := by
  unfold described isDescribed
  rw [Option.filter_eq_some_iff]

theorem applied_setPeerConnection (update : RTCPeerConnection → RTCPeerConnection) (m : Nat) :
    (t.setPeerConnection connection update).applied m =
      if m = connection then
        ((t.peerConnections.get m).map fun c => (update c).candidates).getD []
      else t.applied m := by
  unfold applied
  rw [get_setPeerConnection]
  split_ifs
  · rw [Option.map_map]
    rfl
  · rfl

theorem isDescribed_setPeerConnection (update : RTCPeerConnection → RTCPeerConnection) (m : Nat) :
    (t.setPeerConnection connection update).isDescribed m =
      if m = connection then
        (t.peerConnections.get m).any fun c => (update c).remoteDescription.isSome
      else t.isDescribed m := by
  unfold isDescribed
  rw [get_setPeerConnection]
  split_ifs
  · rw [Option.any_map]
  · rfl

/-- The candidate of a client whose connection has its description is handed over. -/
theorem handleCandidate_of_described {candidate : String}
    (h : t.described id = some connection) :
    t.handleCandidate id candidate = t.setPeerConnection connection fun c =>
      { c with candidates := c.candidates ++ [candidate] } := by
  simp only [handleCandidate, h]

/-- The candidate of any other client is queued. -/
theorem handleCandidate_of_undescribed {candidate : String} (h : t.described id = none) :
    t.handleCandidate id candidate = { t with
      queuedCandidates := t.queuedCandidates.set id (t.queuedFor id ++ [candidate]) } := by
  simp only [handleCandidate, h]
  rfl

theorem has_of_isDescribed (h : t.isDescribed connection = true) :
    t.peerConnections.has connection = true := by
  unfold isDescribed at h
  cases hget : t.peerConnections.get connection with
  | none =>
    rw [hget] at h
    cases h
  | some c => exact Map.has_of_get hget

theorem applied_handleCandidate {candidate : String} (h : t.described id = some connection)
    (m : Nat) : (t.handleCandidate id candidate).applied m =
      if m = connection then t.applied m ++ [candidate] else t.applied m := by
  rw [handleCandidate_of_described h, applied_setPeerConnection]
  split_ifs with hm
  · obtain ⟨c, hc⟩ := Map.has_iff.mp (has_of_isDescribed (described_eq_some_iff.mp h).2)
    rw [applied, hm, hc]
    rfl
  · rfl

theorem isDescribed_handleCandidate (candidate : String) (m : Nat) :
    (t.handleCandidate id candidate).isDescribed m = t.isDescribed m := by
  cases h : t.described id with
  | none =>
    rw [handleCandidate_of_undescribed h]
    rfl
  | some connection =>
    rw [handleCandidate_of_described h, isDescribed_setPeerConnection]
    split_ifs <;> rfl

theorem described_handleCandidate (candidate : String) :
    (t.handleCandidate id candidate).described id = t.described id := by
  have hconnections := (sameConnections_handleCandidate (t := t) id candidate).connections
  ext connection
  rw [described_eq_some_iff, described_eq_some_iff, hconnections, isDescribed_handleCandidate]

@[simp]
theorem queuedFor_setPeerConnection (update : RTCPeerConnection → RTCPeerConnection) :
    (t.setPeerConnection connection update).queuedFor id = t.queuedFor id := by
  unfold setPeerConnection
  split <;> rfl

theorem queuedFor_handleCandidate {candidate : String} (h : t.described id = some connection) :
    (t.handleCandidate id candidate).queuedFor id = t.queuedFor id := by
  rw [handleCandidate_of_described h, queuedFor_setPeerConnection]

/-- All strings that are equal to the candidate leave the queue. -/
def unqueue (t : Transporter) (id candidate : String) : Transporter :=
  { t with
    queuedCandidates := t.queuedCandidates.set id
      (((t.queuedCandidates.get id).getD []).filter (· ≠ candidate)) }

/-- One candidate of the loop of `addQueuedCandidates`. -/
def flushOne (id : String) (t : Transporter) (candidate : String) : Transporter :=
  (t.unqueue id candidate).handleCandidate id candidate

/-- What the loop does for a connection with its description. -/
theorem foldl_flushOne (candidates : List String) (h : t.described id = some connection) :
    (candidates.foldl (flushOne id) t).described id = some connection ∧
      (candidates.foldl (flushOne id) t).applied connection =
        t.applied connection ++ candidates ∧
      (candidates.foldl (flushOne id) t).queuedFor id =
        (t.queuedFor id).filter (· ∉ candidates) := by
  induction candidates generalizing t with
  | nil => simp [h]
  | cons candidate candidates ih =>
    have hset : (t.unqueue id candidate).described id = some connection := h
    have hone : (flushOne id t candidate).described id = some connection :=
      (described_handleCandidate candidate).trans hset
    obtain ⟨hdescribed, happlied, hqueued⟩ := ih hone
    refine ⟨hdescribed, ?_, ?_⟩
    · rw [List.foldl_cons, happlied, flushOne, applied_handleCandidate hset, if_pos rfl,
        List.append_assoc]
      rfl
    · rw [List.foldl_cons, hqueued, flushOne, queuedFor_handleCandidate hset]
      simp only [queuedFor, unqueue, Map.get_set_self, Option.getD_some, List.filter_filter]
      apply List.filter_congr
      intro other _
      by_cases he : other = candidate <;> simp [he]

theorem addQueuedCandidates_eq : t.addQueuedCandidates id =
    (t.queuedFor id).foldl (flushOne id) t := rfl

/-- `addQueuedCandidates` hands all candidates of the queue over. -/
theorem addQueuedCandidates_of_described (h : t.described id = some connection) :
    (t.addQueuedCandidates id).applied connection =
        t.applied connection ++ t.queuedFor id ∧
      (t.addQueuedCandidates id).queuedFor id = [] := by
  obtain ⟨-, happlied, hqueued⟩ := foldl_flushOne (t.queuedFor id) h
  refine ⟨happlied, ?_⟩
  rw [addQueuedCandidates_eq, hqueued, List.filter_eq_nil_iff]
  intro candidate hmem
  simpa using hmem

/-- A step that hands a candidate of a connection over only behind its description. -/
def AppliesAfter (t t' : Transporter) : Prop :=
  ∀ m, t'.isDescribed m = t.isDescribed m ∧
    (t'.applied m ≠ t.applied m → t.isDescribed m = true)

theorem AppliesAfter.trans {t' t'' : Transporter} (h : AppliesAfter t t')
    (h' : AppliesAfter t' t'') : AppliesAfter t t'' := by
  intro m
  obtain ⟨hsame, happlied⟩ := h m
  obtain ⟨hsame', happlied'⟩ := h' m
  refine ⟨hsame'.trans hsame, fun hne => ?_⟩
  by_cases he : t'.applied m = t.applied m
  · exact hsame ▸ happlied' fun he' => hne (he'.trans he)
  · exact happlied he

theorem appliesAfter_handleCandidate (candidate : String) :
    AppliesAfter t (t.handleCandidate id candidate) := by
  intro m
  refine ⟨isDescribed_handleCandidate candidate m, fun hne => ?_⟩
  cases h : t.described id with
  | none =>
    rw [handleCandidate_of_undescribed h] at hne
    exact absurd rfl hne
  | some connection =>
    rw [applied_handleCandidate h] at hne
    split_ifs at hne with hm
    · rw [hm]
      exact (described_eq_some_iff.mp h).2
    · exact absurd rfl hne

theorem appliesAfter_addQueuedCandidates : AppliesAfter t (t.addQueuedCandidates id) := by
  have hfold : ∀ (candidates : List String) (t' : Transporter), AppliesAfter t t' →
      AppliesAfter t (candidates.foldl (flushOne id) t') := by
    intro candidates
    induction candidates with
    | nil => exact fun t' h => h
    | cons candidate candidates ih =>
      exact fun t' h => ih _ (h.trans (appliesAfter_handleCandidate candidate))
  exact hfold _ t fun m => ⟨rfl, fun hne => absurd rfl hne⟩

theorem isDescribed_setRemoteDescription (connection : Nat) (sdp : String)
    (h : t.peerConnections.has connection = true) :
    (t.setRemoteDescription connection sdp).isDescribed connection = true := by
  obtain ⟨c, hc⟩ := Map.has_iff.mp h
  rw [setRemoteDescription, isDescribed_setPeerConnection, if_pos rfl, hc]
  rfl

/-- What does not touch the candidates of connections. -/
theorem applied_setPeerConnection_of_candidates {update : RTCPeerConnection → RTCPeerConnection}
    (h : ∀ c, (update c).candidates = c.candidates) (m : Nat) :
    (t.setPeerConnection connection update).applied m = t.applied m := by
  rw [applied_setPeerConnection]
  split_ifs
  · simp only [h]
    rfl
  · rfl

theorem applied_setRemoteDescription (sdp : String) (m : Nat) :
    (t.setRemoteDescription connection sdp).applied m = t.applied m :=
  applied_setPeerConnection_of_candidates (by simp) m

theorem applied_listen (localId : String) (m : Nat) :
    (t.listen connection localId).applied m = t.applied m :=
  applied_setPeerConnection_of_candidates (by simp) m

theorem isDescribed_listen (localId : String) (m : Nat) :
    (t.listen connection localId).isDescribed m = t.isDescribed m := by
  rw [listen, isDescribed_setPeerConnection]
  split_ifs <;> rfl

@[simp]
theorem queuedFor_createDataChannel (label : String) (channel : Nat) :
    (t.createDataChannel connection label channel).queuedFor id = t.queuedFor id := rfl

@[simp]
theorem queuedFor_dataChannelConfiguration (remoteId localId : String) (channel : Nat) :
    (t.dataChannelConfiguration remoteId localId channel).queuedFor id = t.queuedFor id := by
  unfold dataChannelConfiguration setDataChannel
  split <;> rfl

/-- The connection that `handleOffer` or `getOffer` sets up for a client without one. -/
structure Opened (t t' : Transporter) (id : String) (connection : Nat) : Prop where
  connections : t'.connections.get id = some connection
  has : t'.peerConnections.has connection = true
  isDescribed : t'.isDescribed connection = false
  applied : ∀ m, t'.applied m = t.applied m
  empty : t'.applied connection = []
  queue : t'.queuedFor id = t.queuedFor id

theorem opened_addConnection {c : RTCPeerConnection} (hc : c.remoteDescription = none)
    (hcandidates : c.candidates = []) (hfresh : t.peerConnections.has connection = false) :
    Opened t (t.addConnection connection c) c.remoteId connection where
  connections := Map.get_set_self _ _ _
  has := Map.has_of_get (Map.get_set_self _ _ _)
  isDescribed := by simp [Transporter.isDescribed, addConnection, hc]
  applied m := by
    by_cases hm : m = connection
    · subst hm
      simp [Transporter.applied, addConnection, hcandidates, Map.has_eq_false_iff.mp hfresh]
    · simp [Transporter.applied, addConnection, Map.get_set_of_ne _ _ hm]
  empty := by simp [Transporter.applied, addConnection, hcandidates]
  queue := rfl

theorem existing_of_get_eq_none (h : t.connections.get id = none) : t.existing id = none := by
  rw [existing, h]
  rfl

theorem handleOffer_of_get_eq_none {localId : String} {handler : CandidateHandler} {n : Nat}
    (h : t.connections.get id = none) (hfresh : t.peerConnections.has n = false) :
    ∃ t', t.handleOffer id localId handler n = (t', .ok n) ∧ Opened t t' id n := by
  simp only [handleOffer, existing_of_get_eq_none h]
  exact ⟨_, rfl, opened_addConnection rfl rfl hfresh⟩

theorem getOffer_of_get_eq_none {localId : String} {handler : CandidateHandler} {n : Nat}
    (h : t.connections.get id = none) (hfresh : t.peerConnections.has n = false) :
    ∃ t', t.getOffer id localId handler n = (t', .ok n) ∧ Opened t t' id n := by
  simp only [getOffer, existing_of_get_eq_none h]
  refine ⟨_, rfl, ?_⟩
  have hadd : Opened t (t.addConnection n ⟨id, handler, some localId, .new, none, []⟩) id n :=
    opened_addConnection rfl rfl hfresh
  -- the channel of the offer is no matter of the connections
  constructor
  · simpa using hadd.connections
  · simpa using hadd.has
  · simpa [Transporter.isDescribed] using hadd.isDescribed
  · simpa [Transporter.applied] using hadd.applied
  · simpa [Transporter.applied] using hadd.empty
  · simpa using hadd.queue

end Transporter

/-! ## What a run keeps -/

open Transporter

variable {id localId offer answer : String} {handler : CandidateHandler}

/-- The connection that is set up, whether it has its description, and whether the queue has
been handed over. -/
def SetUpStage.progress : SetUpStage → Option (Nat × Bool × Bool)
  | .waiting => none
  | .offerDescribing connection => some (connection, false, false)
  | .answerCreating connection => some (connection, true, false)
  | .answerCreated connection => some (connection, true, true)
  | .offerCreating connection => some (connection, false, false)
  | .offerCreated connection => some (connection, false, false)
  | .answerDescribing connection => some (connection, false, false)
  | .answerDescribed connection => some (connection, true, false)
  | .done connection => some (connection, true, true)

/-- No candidate is lost on the way. -/
structure Handed (t : Transporter) (id : String) (candidates : List String) (connection : Nat)
    (described flushed : Bool) : Prop where
  connections : t.connections.get id = some connection
  has : t.peerConnections.has connection = true
  isDescribed : t.isDescribed connection = described
  behind : flushed = true → described = true
  empty : described = false → t.applied connection = []
  queue : flushed = true → t.queuedFor id = []
  perm : (t.applied connection ++ t.queuedFor id).Perm candidates

/-- The invariant of a run of the set-up. -/
def SetUp.Keeps (p : SetUp) (id : String) (candidates : List String) : Prop :=
  match p.stage.progress with
  | none => p.transporter.connections.get id = none ∧
      (p.transporter.queuedFor id).Perm candidates
  | some (connection, described, flushed) =>
    Handed p.transporter id candidates connection described flushed

namespace Handed

variable {t : Transporter} {candidates : List String} {connection : Nat} {described flushed : Bool}

theorem described_eq (h : Handed t id candidates connection true flushed) :
    t.described id = some connection :=
  described_eq_some_iff.mpr ⟨h.connections, h.isDescribed⟩

theorem described_eq_none (h : Handed t id candidates connection false flushed) :
    t.described id = none := by
  rw [Option.eq_none_iff_forall_ne_some]
  intro other hother
  obtain ⟨hconnection, hdescribed⟩ := described_eq_some_iff.mp hother
  rw [h.connections, Option.some_inj] at hconnection
  rw [← hconnection, h.isDescribed] at hdescribed
  cases hdescribed

theorem handleCandidate (h : Handed t id candidates connection described flushed)
    (candidate : String) : Handed (t.handleCandidate id candidate) id (candidates ++ [candidate])
      connection described flushed := by
  have hsame := sameConnections_handleCandidate (t := t) id candidate
  have hconnections : (t.handleCandidate id candidate).connections.get id = some connection := by
    rw [hsame.connections, h.connections]
  have hhas : (t.handleCandidate id candidate).peerConnections.has connection = true := by
    obtain ⟨c, hc⟩ := Map.has_iff.mp h.has
    have hget := hsame.peerConnections connection
    rw [hc, Option.map_some] at hget
    obtain ⟨c', hc', -⟩ := Option.map_eq_some_iff.mp hget
    exact Map.has_of_get hc'
  have hdescribed : (t.handleCandidate id candidate).isDescribed connection = described := by
    rw [isDescribed_handleCandidate, h.isDescribed]
  cases described with
  | true =>
    have happlied : (t.handleCandidate id candidate).applied connection =
        t.applied connection ++ [candidate] := by
      rw [applied_handleCandidate h.described_eq, if_pos rfl]
    have hqueue : (t.handleCandidate id candidate).queuedFor id = t.queuedFor id :=
      queuedFor_handleCandidate h.described_eq
    refine ⟨hconnections, hhas, hdescribed, h.behind, fun hfalse => absurd hfalse (by simp), ?_,
      ?_⟩
    · rw [hqueue]
      exact h.queue
    · rw [happlied, hqueue, List.append_assoc]
      have hswap : ([candidate] ++ t.queuedFor id).Perm (t.queuedFor id ++ [candidate]) :=
        List.perm_append_comm
      have hall := (hswap.append_left (t.applied connection)).trans
        (by rw [← List.append_assoc])
      exact hall.trans (h.perm.append_right [candidate])
  | false =>
    have happlied : (t.handleCandidate id candidate).applied connection =
        t.applied connection := by
      rw [handleCandidate_of_undescribed h.described_eq_none]
      rfl
    have hqueue : (t.handleCandidate id candidate).queuedFor id =
        t.queuedFor id ++ [candidate] := by
      rw [handleCandidate_of_undescribed h.described_eq_none]
      simp [queuedFor]
    refine ⟨hconnections, hhas, hdescribed, h.behind, ?_, fun hflushed => ?_, ?_⟩
    · rw [happlied]
      exact h.empty
    · cases h.behind hflushed
    · rw [happlied, hqueue, ← List.append_assoc]
      exact h.perm.append_right [candidate]

theorem setRemoteDescription (h : Handed t id candidates connection false false) (sdp : String) :
    Handed (t.setRemoteDescription connection sdp) id candidates connection true false where
  connections := by
    rw [Transporter.setRemoteDescription, connections_setPeerConnection, h.connections]
  has := has_of_isDescribed (isDescribed_setRemoteDescription connection sdp h.has)
  isDescribed := isDescribed_setRemoteDescription connection sdp h.has
  behind hfalse := by cases hfalse
  empty hfalse := by cases hfalse
  queue hfalse := by cases hfalse
  perm := by
    rw [applied_setRemoteDescription, Transporter.setRemoteDescription,
      queuedFor_setPeerConnection]
    exact h.perm

theorem addQueuedCandidates (h : Handed t id candidates connection true false) :
    Handed (t.addQueuedCandidates id) id candidates connection true true := by
  obtain ⟨happlied, hqueue⟩ := addQueuedCandidates_of_described h.described_eq
  have hdescribed : (t.addQueuedCandidates id).isDescribed connection = true := by
    rw [(appliesAfter_addQueuedCandidates connection).1, h.isDescribed]
  refine ⟨?_, has_of_isDescribed hdescribed, hdescribed, fun _ => rfl, fun hfalse => ?_,
    fun _ => hqueue, ?_⟩
  · rw [(sameConnections_addQueuedCandidates id).connections, h.connections]
  · cases hfalse
  · rw [happlied, hqueue, List.append_nil]
    exact h.perm

theorem listen (h : Handed t id candidates connection true true) :
    Handed (t.listen connection localId) id candidates connection true true where
  connections := by rw [Transporter.listen, connections_setPeerConnection, h.connections]
  has := has_of_isDescribed ((isDescribed_listen localId connection).trans h.isDescribed)
  isDescribed := (isDescribed_listen localId connection).trans h.isDescribed
  behind _ := rfl
  empty hfalse := by cases hfalse
  queue _ := by
    rw [Transporter.listen, queuedFor_setPeerConnection]
    exact h.queue rfl
  perm := by
    rw [applied_listen, Transporter.listen, queuedFor_setPeerConnection]
    exact h.perm

end Handed

/-- A new connection starts with the candidates of its client in the queue. -/
theorem Transporter.Opened.handed {t t' : Transporter} {connection : Nat}
    {candidates : List String} (h : Opened t t' id connection)
    (hperm : (t.queuedFor id).Perm candidates) :
    Handed t' id candidates connection false false where
  connections := h.connections
  has := h.has
  isDescribed := h.isDescribed
  behind hfalse := hfalse
  empty _ := h.empty
  queue hfalse := by cases hfalse
  perm := by
    rw [h.empty, h.queue, List.nil_append]
    exact hperm

/-! ## Every step keeps the candidates -/

/-- The candidate of a call. -/
def SetUpStep.candidates : SetUpStep → List String
  | .handleCandidate candidate => [candidate]
  | _ => []

/-- A step hands candidates of a connection over only behind its description. -/
def SetUp.Orderly (p p' : SetUp) : Prop :=
  ∀ m, p'.transporter.applied m ≠ p.transporter.applied m →
    p.transporter.isDescribed m = true

theorem SetUp.orderly_of_applied {p p' : SetUp}
    (h : ∀ m, p'.transporter.applied m = p.transporter.applied m) : p.Orderly p' :=
  fun m hne => absurd (h m) hne

namespace SetUp.Keeps

variable {p p' : SetUp} {candidates : List String}

theorem handed {connection : Nat} {described flushed : Bool}
    (hstage : p.stage.progress = some (connection, described, flushed))
    (h : p.Keeps id candidates) :
    Handed p.transporter id candidates connection described flushed := by
  unfold Keeps at h
  rw [hstage] at h
  exact h

theorem of_handed {connection : Nat} {described flushed : Bool}
    (hstage : p.stage.progress = some (connection, described, flushed))
    (h : Handed p.transporter id candidates connection described flushed) :
    p.Keeps id candidates := by
  unfold Keeps
  rw [hstage]
  exact h

theorem handleCandidate (h : p.Keeps id candidates) (candidate : String) :
    SetUp.Keeps { p with transporter := p.transporter.handleCandidate id candidate } id
      (candidates ++ [candidate]) := by
  cases hprogress : p.stage.progress with
  | none =>
    unfold Keeps at h ⊢
    simp only [hprogress] at h ⊢
    obtain ⟨hnone, hperm⟩ := h
    have hundescribed : p.transporter.described id = none := by
      rw [Transporter.described, hnone]
      rfl
    rw [handleCandidate_of_undescribed hundescribed]
    refine ⟨hnone, ?_⟩
    simpa [queuedFor] using hperm.append_right [candidate]
  | some progress =>
    obtain ⟨connection, described, flushed⟩ := progress
    exact of_handed hprogress ((h.handed hprogress).handleCandidate candidate)

theorem opened {t : Transporter} {n : Nat} {stage : SetUpStage} (hwaiting : p.stage = .waiting)
    (h : p.Keeps id candidates) (hopened : Opened p.transporter t id n)
    (hstage : stage.progress = some (n, false, false)) :
    SetUp.Keeps ⟨t, stage⟩ id candidates ∧ p.Orderly ⟨t, stage⟩ := by
  unfold Keeps at h
  rw [hwaiting] at h
  exact ⟨of_handed hstage (hopened.handed h.2), orderly_of_applied hopened.applied⟩

theorem resume (h : p.Keeps id candidates)
    (hs : p.Step id localId offer answer handler .resume p') :
    p'.Keeps id candidates ∧ p.Orderly p' := by
  obtain ⟨t, stage⟩ := p
  cases stage with
  | waiting | offerCreated _ | done _ => cases hs
  | offerDescribing connection =>
    cases hs
    refine ⟨of_handed rfl ((h.handed rfl).setRemoteDescription offer), ?_⟩
    exact orderly_of_applied fun m => applied_setRemoteDescription offer m
  | answerCreating connection =>
    cases hs
    refine ⟨of_handed rfl (h.handed rfl).addQueuedCandidates, fun m => ?_⟩
    exact (appliesAfter_addQueuedCandidates m).2
  | answerCreated connection =>
    cases hs
    refine ⟨of_handed rfl (h.handed rfl).listen, ?_⟩
    exact orderly_of_applied fun m => applied_listen localId m
  | offerCreating connection =>
    cases hs
    exact ⟨of_handed rfl (h.handed rfl), orderly_of_applied fun _ => rfl⟩
  | answerDescribing connection =>
    cases hs
    refine ⟨of_handed rfl ((h.handed rfl).setRemoteDescription answer), ?_⟩
    exact orderly_of_applied fun m => applied_setRemoteDescription answer m
  | answerDescribed connection =>
    cases hs
    refine ⟨of_handed rfl (h.handed rfl).addQueuedCandidates, fun m => ?_⟩
    exact (appliesAfter_addQueuedCandidates m).2

theorem connections_of_waiting (hwaiting : p.stage = .waiting) (h : p.Keeps id candidates) :
    p.transporter.connections.get id = none := by
  unfold Keeps at h
  rw [hwaiting] at h
  exact h.1

/-- The step lemma. -/
theorem next {a : SetUpStep} (h : p.Keeps id candidates)
    (hs : p.Step id localId offer answer handler a p') :
    p'.Keeps id (candidates ++ a.candidates) ∧ p.Orderly p' := by
  cases a with
  | handleCandidate candidate =>
    cases hs
    exact ⟨h.handleCandidate candidate, fun m => (appliesAfter_handleCandidate candidate m).2⟩
  | handleOffer n =>
    simp only [Step, SetUp.next] at hs
    split_ifs at hs with hguard
    obtain ⟨hwaiting, hfresh⟩ := hguard
    obtain ⟨t, ht, hopened⟩ := handleOffer_of_get_eq_none (h.connections_of_waiting hwaiting)
      hfresh
    rw [ht] at hs
    cases hs
    simp only [SetUpStep.candidates, List.append_nil]
    exact h.opened hwaiting hopened rfl
  | getOffer n =>
    simp only [Step, SetUp.next] at hs
    split_ifs at hs with hguard
    obtain ⟨hwaiting, hfresh⟩ := hguard
    obtain ⟨t, ht, hopened⟩ := getOffer_of_get_eq_none (h.connections_of_waiting hwaiting) hfresh
    rw [ht] at hs
    cases hs
    simp only [SetUpStep.candidates, List.append_nil]
    exact h.opened hwaiting hopened rfl
  | handleAnswer =>
    simp only [Step, SetUp.next] at hs
    split at hs
    · rename_i connection answered hstage hanswer
      cases hs
      have hhanded := h.handed (p := p) (by rw [hstage]; rfl)
      have hsame : answered = connection := by
        rw [Transporter.handleAnswer, hhanded.connections] at hanswer
        cases hanswer
        rfl
      subst hsame
      simp only [SetUpStep.candidates, List.append_nil]
      exact ⟨of_handed rfl hhanded, orderly_of_applied fun _ => rfl⟩
    · cases hs
  | resume =>
    simp only [SetUpStep.candidates, List.append_nil]
    exact h.resume hs

end SetUp.Keeps

namespace SetUpRun

theorem handled_snoc (steps : List (SetUp × SetUpStep)) (p : SetUp) (a : SetUpStep) :
    handled (steps ++ [(p, a)]) = handled steps ++ a.candidates := by
  rw [handled, List.filterMap_append]
  cases a <;> rfl

/-- The run lemma. -/
theorem keeps {steps : List (SetUp × SetUpStep)} {p : SetUp}
    (hrun : SetUpRun id localId offer answer handler steps p) :
    p.Keeps id (handled steps) ∧ ∀ x ∈ steps, ∀ p',
      SetUp.Step id localId offer answer handler x.1 x.2 p' → x.1.Orderly p' := by
  induction hrun with
  | start hinit =>
    obtain ⟨t, hconnection, hqueue, rfl⟩ := hinit
    refine ⟨⟨hconnection, ?_⟩, fun x hx => absurd hx List.not_mem_nil⟩
    rw [queuedFor, hqueue]
    exact .refl _
  | @snoc steps p p' a hrun hstep ih =>
    obtain ⟨hkeeps, horderly⟩ := ih
    refine ⟨?_, fun x hx => ?_⟩
    · rw [handled_snoc]
      exact (hkeeps.next hstep).1
    · rcases List.mem_append.mp hx with hx | hx
      · exact horderly x hx
      · rw [List.mem_singleton.mp hx]
        exact fun p'' hstep' => (hkeeps.next hstep').2

/-- Every candidate is handed over once, behind the description of the connection. -/
theorem applied_once {steps : List (SetUp × SetUpStep)} {p : SetUp} {connection : Nat}
    (hrun : SetUpRun id localId offer answer handler steps p)
    (hdone : p.stage = .done connection) :
    AppliedOnce id localId offer answer handler steps p connection := by
  obtain ⟨hkeeps, horderly⟩ := keeps hrun
  have hhanded := hkeeps.handed (p := p) (by rw [hdone]; rfl)
  have hqueue := hhanded.queue rfl
  have hperm := hhanded.perm
  rw [hqueue, List.append_nil] at hperm
  exact ⟨hhanded.connections, hperm, fun x hx p' hstep => horderly x hx p' hstep connection,
    hqueue⟩

/-- A run with a property that can be evaluated. -/
theorem exists_along (id localId offer answer : String) (handler : CandidateHandler)
    {P : List (SetUp × SetUpStep) → SetUp → Prop} [∀ steps p, Decidable (P steps p)]
    (es : List SetUpStep)
    (h : ((Run.along (fun p a => (p.next id localId offer answer handler a).map fun p' => (a, p'))
      es { transporter := {} } []).any fun r => decide (P r.1 r.2)) = true) :
    ∃ steps p, SetUpRun id localId offer answer handler steps p ∧ P steps p := by
  refine Run.exists_along (SetUp.Initial id) ?_ ⟨{}, rfl, rfl, rfl⟩ es h
  intro p a b p' hnext
  obtain ⟨q, hq, he⟩ := Option.map_eq_some_iff.mp hnext
  cases he
  exact hq

/-- Candidates that come before the connection, before its description and in front of the
loop, two of them equal. -/
theorem applied_once_run : ∃ steps p, SetUpRun "y" "x" "sdp" "sdp" ⟨0, "x", "y"⟩ steps p ∧
    p.transporter.applied 0 = ["c", "a", "b", "a"] ∧
    AppliedOnce "y" "x" "sdp" "sdp" ⟨0, "x", "y"⟩ steps p 0 := by
  obtain ⟨steps, p, hrun, happlied, hdone⟩ := exists_along "y" "x" "sdp" "sdp" ⟨0, "x", "y"⟩
    (P := fun _ p => p.transporter.applied 0 = ["c", "a", "b", "a"] ∧ p.stage = .done 0)
    [.handleCandidate "a", .handleOffer 0, .handleCandidate "b", .handleCandidate "a", .resume,
      .handleCandidate "c", .resume, .resume] (by decide +kernel)
  exact ⟨steps, p, hrun, happlied, applied_once hrun hdone⟩

end SetUpRun

end Unisockets.Transport
