import Unisockets.Transport.Closing

/-!
# What opens no channel

A call of `send` looks at the channel of its pair and awaits the event of its `onopen`.  Most of
what a transporter does leaves both alone, or takes the channel away: `Passive` says so of the
operations, and `Working.Step.passive` of the steps but for those that open a channel or call
listeners.
-/

namespace Unisockets.Transport

open JsStd

namespace Transporter

/-- `this.asyncResolver.once(key)`. -/
def once (t : Transporter) (key : String) (call : Nat) : Transporter :=
  { t with asyncResolver := t.asyncResolver ++ [(key, call)] }

/-! ## The events -/

section Keys

/-- Receivers and senders await other events. -/
theorem getMessageKey_ne_getChannelKey (r l remoteId localId : String) :
    getMessageKey r l ≠ getChannelKey remoteId localId := by
  intro h
  have h : "message remoteId=" ++ r ++ ", localId=" ++ l
      = "channel remoteId=" ++ remoteId ++ ", localId=" ++ localId := h
  have hfirst := congrArg (fun s : String => s.toList[0]?) h
  simp [String.toList_append] at hfirst

variable {t : Transporter} {key key' : String}

theorem listeners_once (key key' : String) (call : Nat) :
    (t.once key call).listeners key'
      = t.listeners key' ++ (if key = key' then [call] else []) := by
  by_cases h : key = key' <;> simp [listeners, once, h]

theorem listeners_off_of_ne (h : key' ≠ key) (calls : List Nat) :
    (t.off key calls).listeners key' = t.listeners key' := by
  simp only [listeners, off, List.filter_filter]
  congr 1
  apply List.filter_congr
  intro listener _
  by_cases hkey : listener.1 = key' <;> simp [hkey, h]

theorem mem_listeners_off {calls : List Nat} {n : Nat} :
    n ∈ (t.off key calls).listeners key' ↔
      n ∈ t.listeners key' ∧ (key' = key → n ∉ calls) := by
  by_cases h : key' = key
  · subst h
    simp [listeners_off]
  · simp [listeners_off_of_ne h, h]

theorem listeners_off_sublist (calls : List Nat) :
    ((t.off key calls).listeners key').Sublist (t.listeners key') := by
  by_cases hkey : key' = key
  · subst hkey
    rw [listeners_off]
    exact List.filter_sublist
  · rw [listeners_off_of_ne hkey]

end Keys

/-! ## What the operations do to the channels -/

/-- A channel that is kept has a number that has been drawn, and the handlers of its pair. -/
def Configured (fresh : Nat) (t : Transporter) : Prop :=
  ∀ remoteId localId channel, t.channel remoteId localId = some channel →
    channel < fresh ∧
      ∃ c, t.dataChannels.get channel = some c ∧ c.handlers = some (remoteId, localId)

/-- What opens no channel and calls no sender. -/
structure Passive (fresh fresh' : Nat) (t t' : Transporter) : Prop where
  listeners : ∀ remoteId localId, t'.listeners (getChannelKey remoteId localId)
    = t.listeners (getChannelKey remoteId localId)
  closed : t.Configured fresh → ∀ remoteId localId channel,
    t'.openChannel remoteId localId = some channel → t.openChannel remoteId localId = some channel
  configured : t.Configured fresh → t'.Configured fresh'

section Passive

variable {t t' t'' : Transporter} {n n' n'' : Nat} {remoteId localId : String} {channel : Nat}

theorem openChannel_eq_some : t.openChannel remoteId localId = some channel ↔
    t.channel remoteId localId = some channel ∧
      ∃ c, t.dataChannels.get channel = some c ∧ c.readyState = .open := by
  simp [openChannel, Option.filter_eq_some_iff, Option.any_eq_true]

theorem Passive.trans (h : Passive n n' t t') (h' : Passive n' n'' t' t'') :
    Passive n n'' t t'' where
  listeners r l := (h'.listeners r l).trans (h.listeners r l)
  closed hc r l k hk := h.closed hc r l k (h'.closed (h.configured hc) r l k hk)
  configured hc := h'.configured (h.configured hc)

/-- The channels and the listeners of the senders are the same. -/
theorem passive_of_eq (hchannels : t'.channels = t.channels)
    (hdata : t'.dataChannels = t.dataChannels)
    (hlisteners : ∀ r l, t'.listeners (getChannelKey r l) = t.listeners (getChannelKey r l)) :
    Passive n n t t' where
  listeners := hlisteners
  closed _ r l k hk := by
    rw [openChannel_eq_some, Transporter.channel, hchannels, hdata] at hk
    exact openChannel_eq_some.mpr hk
  configured hc r l k hk := by
    rw [Transporter.channel, hchannels] at hk
    rw [hdata]
    exact hc r l k hk

/-- The channels are the same and nobody starts or stops waiting. -/
theorem passive_of_same (hchannels : t'.channels = t.channels)
    (hdata : t'.dataChannels = t.dataChannels) (hresolver : t'.asyncResolver = t.asyncResolver) :
    Passive n n t t' := by
  refine passive_of_eq hchannels hdata fun r l => ?_
  rw [listeners, hresolver, listeners]

theorem Passive.refl (t : Transporter) : Passive n n t t := passive_of_same rfl rfl rfl

theorem passive_setPeerConnection (connection : Nat)
    (update : RTCPeerConnection → RTCPeerConnection) :
    Passive n n t (t.setPeerConnection connection update) := by
  unfold setPeerConnection
  split <;> exact passive_of_same rfl rfl rfl

theorem passive_addConnection (connection : Nat) (c : RTCPeerConnection) :
    Passive n n t (t.addConnection connection c) :=
  passive_of_same rfl rfl rfl

/-- A channel is changed, but not opened. -/
theorem passive_setDataChannel (channel : Nat) {update : RTCDataChannel → RTCDataChannel}
    (hhandlers : ∀ c, (update c).handlers = c.handlers)
    (hopen : ∀ c, (update c).readyState = .open → c.readyState = .open) :
    Passive n n t (t.setDataChannel channel update) where
  listeners r l := by
    rw [listeners, asyncResolver_setDataChannel, listeners]
  closed _ r l k hk := by
    rw [openChannel_eq_some, Transporter.channel, channels_setDataChannel,
      get_setDataChannel] at hk
    obtain ⟨hk, c, hc, hready⟩ := hk
    refine openChannel_eq_some.mpr ⟨hk, ?_⟩
    split_ifs at hc with heq
    · obtain ⟨c', hc', rfl⟩ := Option.map_eq_some_iff.mp hc
      exact ⟨c', hc', hopen c' hready⟩
    · exact ⟨c, hc, hready⟩
  configured hconfigured r l k hk := by
    rw [Transporter.channel, channels_setDataChannel] at hk
    obtain ⟨hlt, c, hc, hpair⟩ := hconfigured r l k hk
    refine ⟨hlt, ?_⟩
    rw [get_setDataChannel, hc]
    split_ifs
    · exact ⟨_, rfl, (hhandlers c).trans hpair⟩
    · exact ⟨c, rfl, hpair⟩

theorem passive_readyState (channel : Nat) {readyState : RTCDataChannelState}
    (h : readyState ≠ .open) :
    Passive n n t (t.setDataChannel channel fun c => { c with readyState := readyState }) :=
  passive_setDataChannel channel (fun _ => rfl) fun _ hopen => absurd hopen h

theorem passive_off (remoteId localId : String) (calls : List Nat) :
    Passive n n t (t.off (getMessageKey remoteId localId) calls) :=
  passive_of_eq rfl rfl fun r l =>
    listeners_off_of_ne (getMessageKey_ne_getChannelKey remoteId localId r l).symm calls

theorem get_configure (connection : Nat) (label : String) (m : Nat) :
    ((t.createDataChannel connection label n).dataChannelConfiguration remoteId localId
        n).dataChannels.get m =
      if m = n then some ⟨connection, label, .connecting, some (remoteId, localId)⟩
      else t.dataChannels.get m := by
  show (((t.createDataChannel connection label n).addDataChannel remoteId localId
    n).setDataChannel n _).dataChannels.get m = _
  rw [get_setDataChannel]
  show (if m = n then ((t.dataChannels.set n _).get m).map _
    else (t.dataChannels.set n _).get m) = _
  rw [Map.get_set]
  split_ifs <;> rfl

/-- A new channel is configured, and is not open. -/
theorem passive_configure (connection : Nat) (label remoteId localId : String) :
    Passive n (n + 1) t ((t.createDataChannel connection label n).dataChannelConfiguration
      remoteId localId n) where
  listeners r l := by
    rw [listeners, asyncResolver_dataChannelConfiguration]
    rfl
  closed hconfigured r l k hk := by
    obtain ⟨hk, c, hc, hready⟩ := openChannel_eq_some.mp hk
    rw [channel_dataChannelConfiguration] at hk
    rw [get_configure] at hc
    split_ifs at hk
    · obtain rfl := Option.some.inj hk
      rw [if_pos rfl] at hc
      obtain rfl := Option.some.inj hc
      cases hready
    · have hold : t.channel r l = some k := hk
      rw [if_neg (hconfigured r l k hold).1.ne] at hc
      exact openChannel_eq_some.mpr ⟨hold, c, hc, hready⟩
  configured hconfigured r l k hk := by
    rw [channel_dataChannelConfiguration] at hk
    rw [get_configure]
    split_ifs at hk with hpair
    · obtain rfl := Option.some.inj hk
      obtain ⟨rfl, rfl⟩ := hpair
      exact ⟨Nat.lt_succ_self _, _, if_pos rfl, rfl⟩
    · have hold : t.channel r l = some k := hk
      obtain ⟨hlt, hc⟩ := hconfigured r l k hold
      rw [if_neg hlt.ne]
      exact ⟨hlt.trans (Nat.lt_succ_self n), hc⟩

/-- A number that is drawn for nothing. -/
theorem passive_fresh (t : Transporter) : Passive n (n + 1) t t where
  listeners _ _ := rfl
  closed _ _ _ _ hk := hk
  configured hconfigured r l k hk :=
    ⟨(hconfigured r l k hk).1.trans (Nat.lt_succ_self n), (hconfigured r l k hk).2⟩

theorem passive_reuse (connection : Nat) :
    Passive n (n + 1) t (t.reuse remoteId localId connection n) := by
  unfold reuse
  split_ifs
  · exact passive_configure connection localId remoteId localId
  · exact passive_fresh t

theorem passive_getOffer (handleCandidate : CandidateHandler) :
    Passive n (n + 1) t (t.getOffer remoteId localId handleCandidate n).1 := by
  unfold getOffer
  split
  · exact passive_reuse _
  · exact (passive_addConnection n _).trans (passive_configure n localId remoteId localId)

theorem passive_handleOffer (handleCandidate : CandidateHandler) :
    Passive n (n + 1) t (t.handleOffer remoteId localId handleCandidate n).1 := by
  unfold handleOffer
  split
  · exact passive_reuse _
  · exact (passive_addConnection n _).trans (passive_fresh _)

theorem passive_handleCandidate (id candidate : String) :
    Passive n n t (t.handleCandidate id candidate) := by
  unfold handleCandidate
  split
  · exact passive_setPeerConnection _ _
  · exact passive_of_same rfl rfl rfl

theorem passive_addQueuedCandidates (id : String) :
    Passive n n t (t.addQueuedCandidates id) := by
  have hfold : ∀ (candidates : List String) (t : Transporter), Passive n n t
      (candidates.foldl (fun t candidate =>
        ({ t with
          queuedCandidates := t.queuedCandidates.set id
            (((t.queuedCandidates.get id).getD []).filter (· ≠ candidate)) } :
          Transporter).handleCandidate id candidate) t) := by
    intro candidates
    induction candidates with
    | nil => exact .refl
    | cons candidate candidates ih =>
      intro t
      have hqueued : Passive n n t { t with
          queuedCandidates := t.queuedCandidates.set id
            (((t.queuedCandidates.get id).getD []).filter (· ≠ candidate)) } :=
        passive_of_same rfl rfl rfl
      exact (hqueued.trans (passive_handleCandidate id candidate)).trans (ih _)
  exact hfold _ t

theorem passive_queueAndEmitMessage (msg : Uint8Array) :
    Passive n n t (t.queueAndEmitMessage remoteId localId msg).1 := by
  unfold queueAndEmitMessage
  split
  · exact .refl t
  · exact .refl t
  · dsimp only
    split
    · exact passive_of_same rfl rfl rfl
    · exact .refl t

theorem passive_recv (call : Nat) : Passive n n t (t.recv remoteId localId call).1 := by
  unfold recv
  split
  · exact passive_of_same rfl rfl rfl
  · refine passive_of_eq rfl rfl fun r l => ?_
    show (t.once (getMessageKey remoteId localId) call).listeners _ = _
    rw [listeners_once, if_neg (getMessageKey_ne_getChannelKey remoteId localId r l),
      List.append_nil]

theorem passive_recvResolved (h : t.recvResolved remoteId localId = .ok t') :
    Passive n n t t' := by
  unfold recvResolved at h
  split at h
  · cases h
  · split at h
    · cases h
      exact passive_of_same rfl rfl rfl
    · cases h
      exact .refl t

/-- A connection is closed, and its channels with it. -/
theorem passive_closeConnection (connection : Nat) :
    Passive n n t (t.closeConnection connection) := by
  have hchannel : ∀ r l, (t.closeConnection connection).channel r l = t.channel r l := by
    intro r l
    rw [Transporter.channel, (sameTables_closeConnection connection).channels,
      Transporter.channel]
  constructor
  · intro r l
    exact (passive_setPeerConnection (n := n) connection _).listeners r l
  · intro _ r l k hk
    rw [openChannel_eq_some, hchannel, get_dataChannels_closeConnection] at hk
    obtain ⟨hk, c, hc, hready⟩ := hk
    obtain ⟨c, hget, rfl⟩ := Option.map_eq_some_iff.mp hc
    split_ifs at hready
    exact openChannel_eq_some.mpr ⟨hk, c, hget, hready⟩
  · intro hconfigured r l k hk
    rw [hchannel] at hk
    obtain ⟨hlt, c, hc, hpair⟩ := hconfigured r l k hk
    refine ⟨hlt, ?_⟩
    rw [get_dataChannels_closeConnection, hc, Option.map_some]
    split_ifs
    · exact ⟨_, rfl, hpair⟩
    · exact ⟨c, rfl, hpair⟩

theorem passive_closeObjects (id : String) : Passive n n t (t.closeObjects id) := by
  have hchannels : ∀ (channels : List Nat) (t : Transporter),
      Passive n n t (channels.foldl closeDataChannel t) := by
    intro channels
    induction channels with
    | nil => exact .refl
    | cons channel channels ih =>
      intro t
      have hclosed : Passive n n t (t.closeDataChannel channel) :=
        passive_setDataChannel channel (fun _ => rfl) fun _ h => by cases h
      exact hclosed.trans (ih _)
  have hconnection : Passive n n t ((t.connections.get id).elim t t.closeConnection) := by
    cases t.connections.get id with
    | none => exact .refl t
    | some connection => exact passive_closeConnection connection
  exact hconnection.trans (hchannels _ _)

theorem passive_shutdown (id : String) : Passive n n t (t.shutdown id) := by
  have hclosed : Passive n n t (t.closeObjects id) := passive_closeObjects id
  have hdata : (t.shutdown id).dataChannels = (t.closeObjects id).dataChannels := by
    rw [shutdown_eq]
  have hchannel : ∀ r l k, (t.shutdown id).channel r l = some k →
      (t.closeObjects id).channel r l = some k := by
    intro r l k hk
    rw [channel_shutdown] at hk
    rw [Transporter.channel, (sameTables_closeObjects id).channels]
    split_ifs at hk
    exact hk
  apply hclosed.trans
  constructor
  · intro r l
    rw [shutdown_eq]
    rfl
  · intro _ r l k hk
    obtain ⟨hk, hready⟩ := openChannel_eq_some.mp hk
    rw [hdata] at hready
    exact openChannel_eq_some.mpr ⟨hchannel r l k hk, hready⟩
  · intro hconfigured r l k hk
    rw [hdata]
    exact hconfigured r l k (hchannel r l k hk)

end Passive

end Transporter

/-! ## The steps of a transporter -/

/-- The steps that open a channel or call listeners. -/
def WorkingStep.wakes : WorkingStep → Bool
  | .readyState _ .open => true
  | .emitted .. => true
  | _ => false

theorem Pending.passive_resume {n : Nat} (t : Transporter) (call : Pending) :
    t.Passive n n (call.resume t).1 := by
  cases call with
  | offerDescribing => exact Transporter.passive_setPeerConnection _ _
  | answerCreating => exact Transporter.passive_addQueuedCandidates _
  | answerCreated => exact Transporter.passive_setPeerConnection _ _
  | answerDescribing => exact Transporter.passive_setPeerConnection _ _
  | answerDescribed => exact Transporter.passive_addQueuedCandidates _

/-- The other steps open no channel and call no sender. -/
theorem Working.Step.passive {p p' : Working} {a : WorkingStep} (h : Working.Step p a p')
    (hwakes : a.wakes = false) :
    p.transporter.Passive p.fresh p'.fresh p'.transporter := by
  cases a with
  | getOffer remoteId localId handleCandidate =>
    cases h
    exact Transporter.passive_getOffer handleCandidate
  | handleOffer remoteId localId offer handleCandidate =>
    cases h
    exact Transporter.passive_handleOffer handleCandidate
  | handleAnswer id answer =>
    cases h
    exact .refl _
  | handleCandidate id candidate =>
    cases h
    exact Transporter.passive_handleCandidate id candidate
  | ondatachannel connection label =>
    obtain ⟨localId, -, rfl⟩ := Option.map_eq_some_iff.mp h
    exact Transporter.passive_configure connection label label localId
  | onmessage channel msg =>
    obtain ⟨ids, -, rfl⟩ := Option.map_eq_some_iff.mp h
    exact Transporter.passive_queueAndEmitMessage msg
  | onconnectionstatechange connection connectionState =>
    obtain ⟨c, -, rfl⟩ := Option.map_eq_some_iff.mp h
    have hchange : ∀ t : Transporter, t.Passive p.fresh p.fresh
        (t.handleConnectionStatusChange connectionState c.remoteId) := by
      intro t
      unfold Transporter.handleConnectionStatusChange
      split_ifs
      · exact Transporter.passive_shutdown c.remoteId
      · exact .refl t
    exact (Transporter.passive_setPeerConnection connection fun c =>
      { c with connectionState := connectionState }).trans (hchange _)
  | readyState channel readyState =>
    cases h
    have hclosed : readyState ≠ .open := by
      rintro rfl
      cases hwakes
    exact Transporter.passive_readyState channel hclosed
  | recv remoteId localId call =>
    cases h
    exact Transporter.passive_recv call
  | recvResolved remoteId localId =>
    cases hrecv : p.transporter.recvResolved remoteId localId with
    | ok t =>
      simp only [Working.Step, Working.next, hrecv] at h
      cases h
      exact Transporter.passive_recvResolved hrecv
    | error e =>
      simp only [Working.Step, Working.next, hrecv] at h
      cases h
      exact .refl _
  | emitted key calls => cases hwakes
  | shutdown id =>
    cases h
    exact Transporter.passive_shutdown id
  | resume call =>
    simp only [Working.Step, Working.next] at h
    split_ifs at h
    cases h
    exact call.passive_resume p.transporter

end Unisockets.Transport
