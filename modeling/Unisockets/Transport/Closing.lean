import Unisockets.Transport.Wiring

/-!
# What closing a transporter releases

`close` shuts down every id that has a connection, and `shutdown` releases what is kept under
its id: the connection, the channels and the two queues.  Channels and queues are also kept under
ids without a connection, since a channel that comes in is kept under its label and a candidate
under the id it comes with, and `close` leaves these where they are.

`released_iff` says that this is all: in every run, `close` releases everything exactly if every
id with something under it has a connection.  `Covered` is kept by every step but for
candidates and channels of other ids.
-/

namespace Unisockets.Transport

open JsStd Transition

namespace Transporter

/-- `close`.  The loop walks the connections while they are deleted, and does not come to one
that is gone. -/
def close (t : Transporter) : Transporter :=
  t.connections.keys.foldl (fun t id => if t.connections.has id then t.shutdown id else t) t

/-- A connection is closed. -/
def ConnectionClosed (t : Transporter) (connection : Nat) : Prop :=
  ∃ c, t.peerConnections.get connection = some c ∧ c.connectionState = .closed

/-- A channel is closed. -/
def ChannelClosed (t : Transporter) (channel : Nat) : Prop :=
  ∃ c, t.dataChannels.get channel = some c ∧ c.readyState = .closed

/-- What closing should come to: nothing is kept, and everything that was kept is closed. -/
structure Released (t t' : Transporter) : Prop where
  connections : t'.connections = .empty
  channels : t'.channels = .empty
  queuedCandidates : t'.queuedCandidates = .empty
  queuedMessages : t'.queuedMessages = .empty
  connectionsClosed : ∀ id connection, t.connections.get id = some connection →
    t'.ConnectionClosed connection
  channelsClosed : ∀ remoteId localId channel, t.channel remoteId localId = some channel →
    t'.ChannelClosed channel

/-- Something other than a connection is kept under an id. -/
def Uses (t : Transporter) (id : String) : Prop :=
  t.channels.has id = true ∨ t.queuedCandidates.has id = true ∨ t.queuedMessages.has id = true

/-- Every id with something under it has a connection. -/
def Covered (t : Transporter) : Prop := ∀ id, t.Uses id → t.connections.has id = true

/-- What is kept is there. -/
structure Recorded (t : Transporter) : Prop where
  connections : ∀ id connection, t.connections.get id = some connection →
    t.peerConnections.has connection = true
  channels : ∀ remoteId localId channel, t.channel remoteId localId = some channel →
    t.dataChannels.has channel = true

/-! ## `shutdown` -/

section Shutdown

variable {t : Transporter}

/-- The four tables are the same. -/
structure SameTables (t t' : Transporter) : Prop where
  connections : t'.connections = t.connections
  channels : t'.channels = t.channels
  queuedCandidates : t'.queuedCandidates = t.queuedCandidates
  queuedMessages : t'.queuedMessages = t.queuedMessages

theorem SameTables.refl (t : Transporter) : SameTables t t := ⟨rfl, rfl, rfl, rfl⟩

theorem SameTables.trans {t t' t'' : Transporter} (h : SameTables t t')
    (h' : SameTables t' t'') : SameTables t t'' where
  connections := h'.connections.trans h.connections
  channels := h'.channels.trans h.channels
  queuedCandidates := h'.queuedCandidates.trans h.queuedCandidates
  queuedMessages := h'.queuedMessages.trans h.queuedMessages

theorem sameTables_setPeerConnection (connection : Nat)
    (update : RTCPeerConnection → RTCPeerConnection) :
    SameTables t (t.setPeerConnection connection update) := by
  unfold setPeerConnection
  split <;> exact ⟨rfl, rfl, rfl, rfl⟩

theorem sameTables_setDataChannel (channel : Nat) (update : RTCDataChannel → RTCDataChannel) :
    SameTables t (t.setDataChannel channel update) := by
  unfold setDataChannel
  split <;> exact ⟨rfl, rfl, rfl, rfl⟩

/-- What `shutdown` does to the objects: it closes the connection, then the channels. -/
def closeObjects (t : Transporter) (id : String) : Transporter :=
  ((t.channels.get id).getD .empty).values.foldl closeDataChannel
    ((t.connections.get id).elim t t.closeConnection)

theorem sameTables_foldl_closeDataChannel (channels : List Nat) (t : Transporter) :
    SameTables t (channels.foldl closeDataChannel t) := by
  induction channels generalizing t with
  | nil => exact .refl t
  | cons channel channels ih =>
    exact (sameTables_setDataChannel channel _).trans (ih (t.closeDataChannel channel))

theorem sameTables_closeConnection (connection : Nat) :
    SameTables t (t.closeConnection connection) := by
  have h := sameTables_setPeerConnection (t := t) connection fun c =>
    { c with connectionState := .closed }
  exact ⟨h.connections, h.channels, h.queuedCandidates, h.queuedMessages⟩

theorem sameTables_elim_closeConnection (connection : Option Nat) :
    SameTables t (connection.elim t t.closeConnection) := by
  cases connection with
  | none => exact .refl t
  | some connection => exact sameTables_closeConnection connection

theorem sameTables_closeObjects (id : String) : SameTables t (t.closeObjects id) :=
  (sameTables_elim_closeConnection _).trans (sameTables_foldl_closeDataChannel _ _)

/-- `shutdown` closes what is kept under the id and deletes it from the tables. -/
theorem shutdown_eq (id : String) : t.shutdown id =
    { t.closeObjects id with
      connections := t.connections.delete id
      channels := t.channels.delete id
      queuedCandidates := t.queuedCandidates.delete id
      queuedMessages := t.queuedMessages.delete id } := by
  have hchannels : ((t.connections.get id).elim t t.closeConnection).channels = t.channels :=
    (sameTables_elim_closeConnection _).channels
  have htables := sameTables_closeObjects (t := t) id
  unfold closeObjects at htables
  unfold shutdown closeObjects
  simp only [hchannels]
  rw [htables.connections, htables.channels, htables.queuedCandidates, htables.queuedMessages]

theorem peerConnections_foldl_closeDataChannel (channels : List Nat) (t : Transporter) :
    (channels.foldl closeDataChannel t).peerConnections = t.peerConnections := by
  induction channels generalizing t with
  | nil => rfl
  | cons channel channels ih =>
    rw [List.foldl_cons, ih]
    exact peerConnections_setDataChannel channel _

theorem get_foldl_closeDataChannel (channels : List Nat) (t : Transporter) (n : Nat) :
    (channels.foldl closeDataChannel t).dataChannels.get n =
      if n ∈ channels then
        (t.dataChannels.get n).map fun c => { c with readyState := .closed }
      else t.dataChannels.get n := by
  induction channels generalizing t with
  | nil => simp
  | cons channel channels ih =>
    rw [List.foldl_cons, ih, closeDataChannel, get_setDataChannel]
    by_cases hn : n = channel
    · rw [if_pos hn, if_pos (List.mem_cons.mpr (.inl hn)), Option.map_map]
      -- closing a channel twice is closing it once
      split_ifs <;> rfl
    · rw [if_neg hn]
      simp [hn]

/-- The connection of the id is closed. -/
theorem get_peerConnections_shutdown (id : String) (n : Nat) :
    (t.shutdown id).peerConnections.get n =
      if t.connections.get id = some n then
        (t.peerConnections.get n).map fun c => { c with connectionState := .closed }
      else t.peerConnections.get n := by
  rw [shutdown_eq]
  show (t.closeObjects id).peerConnections.get n = _
  rw [closeObjects, peerConnections_foldl_closeDataChannel]
  cases t.connections.get id with
  | none => rfl
  | some connection =>
    show (t.setPeerConnection connection _).peerConnections.get n = _
    rw [get_setPeerConnection]
    by_cases hn : n = connection
    · rw [if_pos hn, if_pos (by rw [hn])]
    · rw [if_neg hn, if_neg (by simpa using Ne.symm hn)]

/-- The channels of a connection are closed with it. -/
theorem get_dataChannels_closeConnection (connection n : Nat) :
    (t.closeConnection connection).dataChannels.get n = (t.dataChannels.get n).map fun c =>
      if c.connection = connection then { c with readyState := .closed } else c := by
  show (Map.mapValues _ _).get n = _
  rw [Map.get_mapValues, dataChannels_setPeerConnection]

/-- The channels of the id are closed, and those of its connection. -/
theorem get_dataChannels_shutdown (id : String) (n : Nat) :
    (t.shutdown id).dataChannels.get n = (t.dataChannels.get n).map fun c =>
      if n ∈ ((t.channels.get id).getD .empty).values ∨ t.connections.get id = some c.connection
      then { c with readyState := .closed } else c := by
  have hconnection : ((t.connections.get id).elim t t.closeConnection).dataChannels.get n =
      (t.dataChannels.get n).map fun c =>
        if t.connections.get id = some c.connection then { c with readyState := .closed }
        else c := by
    cases t.connections.get id with
    | none => simp
    | some connection =>
      rw [Option.elim_some, get_dataChannels_closeConnection]
      simp only [Option.some.injEq, eq_comm]
  rw [shutdown_eq]
  show (t.closeObjects id).dataChannels.get n = _
  rw [closeObjects, get_foldl_closeDataChannel, hconnection]
  by_cases hn : n ∈ ((t.channels.get id).getD .empty).values
  · simp only [hn, true_or, if_true, Option.map_map]
    congr 1
    funext c
    -- closing a channel twice is closing it once
    rw [Function.comp_apply]
    split_ifs <;> rfl
  · simp only [hn, false_or, if_false]

theorem has_peerConnections_shutdown (id : String) (n : Nat) :
    (t.shutdown id).peerConnections.has n = t.peerConnections.has n := by
  rw [Map.has, Map.has, get_peerConnections_shutdown]
  split_ifs
  · rw [Option.isSome_map]
  · rfl

theorem has_dataChannels_shutdown (id : String) (n : Nat) :
    (t.shutdown id).dataChannels.has n = t.dataChannels.has n := by
  rw [Map.has, Map.has, get_dataChannels_shutdown, Option.isSome_map]

theorem ConnectionClosed.shutdown {n : Nat} (h : t.ConnectionClosed n) (id : String) :
    (t.shutdown id).ConnectionClosed n := by
  obtain ⟨c, hc, hclosed⟩ := h
  rw [ConnectionClosed, get_peerConnections_shutdown, hc]
  split_ifs
  · exact ⟨_, rfl, rfl⟩
  · exact ⟨c, rfl, hclosed⟩

theorem ChannelClosed.shutdown {n : Nat} (h : t.ChannelClosed n) (id : String) :
    (t.shutdown id).ChannelClosed n := by
  obtain ⟨c, hc, hclosed⟩ := h
  rw [ChannelClosed, get_dataChannels_shutdown, hc, Option.map_some]
  split_ifs
  · exact ⟨_, rfl, rfl⟩
  · exact ⟨c, rfl, hclosed⟩

theorem connectionClosed_shutdown {id : String} {n : Nat} (h : t.connections.get id = some n)
    (hn : t.peerConnections.has n = true) : (t.shutdown id).ConnectionClosed n := by
  obtain ⟨c, hc⟩ := Map.has_iff.mp hn
  rw [ConnectionClosed, get_peerConnections_shutdown, if_pos h, hc]
  exact ⟨_, rfl, rfl⟩

theorem channelClosed_shutdown {id localId : String} {n : Nat}
    (h : t.channel id localId = some n) (hn : t.dataChannels.has n = true) :
    (t.shutdown id).ChannelClosed n := by
  obtain ⟨c, hc⟩ := Map.has_iff.mp hn
  obtain ⟨channels, hchannels, hget⟩ := Option.bind_eq_some_iff.mp h
  have hmem : n ∈ ((t.channels.get id).getD .empty).values := by
    rw [hchannels]
    exact Map.mem_values_iff.mpr ⟨localId, hget⟩
  rw [ChannelClosed, get_dataChannels_shutdown, hc, Option.map_some, if_pos (.inl hmem)]
  exact ⟨_, rfl, rfl⟩

theorem has_connections_shutdown (id k : String) :
    (t.shutdown id).connections.has k = (decide (k ≠ id) && t.connections.has k) := by
  rw [shutdown_eq]
  exact Map.has_delete t.connections id k

theorem get_connections_shutdown (id k : String) :
    (t.shutdown id).connections.get k = if k = id then none else t.connections.get k := by
  rw [shutdown_eq]
  exact Map.get_delete t.connections id k

/-- Nothing is left under an id that has been shut down, and the others stay. -/
theorem uses_shutdown (id k : String) : (t.shutdown id).Uses k ↔ k ≠ id ∧ t.Uses k := by
  rw [shutdown_eq, Uses]
  show (t.channels.delete id).has k = true ∨ (t.queuedCandidates.delete id).has k = true ∨
    (t.queuedMessages.delete id).has k = true ↔ _
  rw [Map.has_delete, Map.has_delete, Map.has_delete, Uses]
  by_cases hk : k = id <;> simp [hk]

/-- The channels of the other ids stay. -/
theorem channel_shutdown (id remoteId localId : String) :
    (t.shutdown id).channel remoteId localId =
      if remoteId = id then none else t.channel remoteId localId := by
  rw [shutdown_eq]
  show ((t.channels.delete id).get remoteId).bind _ = _
  rw [Map.get_delete]
  split_ifs <;> rfl

theorem recorded_shutdown (h : Recorded t) (id : String) : Recorded (t.shutdown id) where
  connections id' connection hget := by
    rw [has_peerConnections_shutdown]
    rw [shutdown_eq] at hget
    have hget : (t.connections.delete id).get id' = some connection := hget
    rw [Map.get_delete] at hget
    split_ifs at hget
    exact h.connections id' connection hget
  channels remoteId localId channel hget := by
    rw [has_dataChannels_shutdown]
    rw [channel_shutdown] at hget
    split_ifs at hget
    exact h.channels remoteId localId channel hget

end Shutdown

/-! ## `close` -/

section Close

variable {t : Transporter}

/-- One round of the loop of `close`. -/
def closeNext (t : Transporter) (id : String) : Transporter :=
  if t.connections.has id then t.shutdown id else t

/-- What the loop does with a list of ids: an id of the list that has a connection is shut
down, and nothing happens to the others. -/
structure ShutDown (ids : List String) (t t' : Transporter) : Prop where
  connections : ∀ id, t'.connections.has id = (decide (id ∉ ids) && t.connections.has id)
  uses : ∀ id, t'.Uses id ↔ t.Uses id ∧ ¬(id ∈ ids ∧ t.connections.has id = true)
  connectionClosed : ∀ n, t.ConnectionClosed n → t'.ConnectionClosed n
  channelClosed : ∀ n, t.ChannelClosed n → t'.ChannelClosed n
  connectionsClosed : ∀ id n, id ∈ ids → t.connections.get id = some n → t'.ConnectionClosed n
  channelsClosed : ∀ id localId n, id ∈ ids → t.connections.has id = true →
    t.channel id localId = some n → t'.ChannelClosed n

theorem ShutDown.nil (t : Transporter) : ShutDown [] t t where
  connections id := by simp
  uses id := by simp
  connectionClosed _ h := h
  channelClosed _ h := h
  connectionsClosed _ _ h := absurd h List.not_mem_nil
  channelsClosed _ _ _ h := absurd h List.not_mem_nil

/-- An id without a connection makes no difference. -/
theorem ShutDown.cons_absent {id : String} {ids : List String} {t' : Transporter}
    (h : ShutDown ids t t') (hid : t.connections.has id = false) : ShutDown (id :: ids) t t' where
  connections k := by
    rw [h.connections]
    by_cases hk : k = id <;> simp [hk, hid]
  uses k := by
    rw [h.uses]
    by_cases hk : k = id <;> simp [hk, hid]
  connectionClosed := h.connectionClosed
  channelClosed := h.channelClosed
  connectionsClosed k n hk hget := by
    rcases List.mem_cons.mp hk with rfl | hk
    · rw [Map.has_of_get hget] at hid
      cases hid
    · exact h.connectionsClosed k n hk hget
  channelsClosed k localId n hk hhas hget := by
    rcases List.mem_cons.mp hk with rfl | hk
    · rw [hhas] at hid
      cases hid
    · exact h.channelsClosed k localId n hk hhas hget

/-- An id with a connection is shut down first. -/
theorem ShutDown.cons {id : String} {ids : List String} {t' : Transporter} (hrec : Recorded t)
    (h : ShutDown ids (t.shutdown id) t') (hid : t.connections.has id = true) :
    ShutDown (id :: ids) t t' where
  connections k := by
    rw [h.connections, has_connections_shutdown]
    by_cases hk : k = id <;> simp [hk]
  uses k := by
    rw [h.uses, uses_shutdown, has_connections_shutdown]
    by_cases hk : k = id <;> simp [hk, hid]
  connectionClosed n hn := h.connectionClosed n (hn.shutdown id)
  channelClosed n hn := h.channelClosed n (hn.shutdown id)
  connectionsClosed k n hk hget := by
    by_cases hne : k = id
    · subst hne
      exact h.connectionClosed n
        (connectionClosed_shutdown hget (hrec.connections k n hget))
    · apply h.connectionsClosed k n ((List.mem_cons.mp hk).resolve_left hne)
      rwa [get_connections_shutdown, if_neg hne]
  channelsClosed k localId n hk hhas hget := by
    by_cases hne : k = id
    · subst hne
      exact h.channelClosed n (channelClosed_shutdown hget (hrec.channels k localId n hget))
    · apply h.channelsClosed k localId n ((List.mem_cons.mp hk).resolve_left hne)
      · simp [has_connections_shutdown, hne, hhas]
      · rwa [channel_shutdown, if_neg hne]

theorem shutDown_foldl (ids : List String) (h : Recorded t) :
    ShutDown ids t (ids.foldl closeNext t) := by
  induction ids generalizing t with
  | nil => exact .nil t
  | cons id ids ih =>
    rw [List.foldl_cons, closeNext]
    split_ifs with hid
    · exact .cons h (ih (recorded_shutdown h id)) hid
    · exact .cons_absent (ih h) (Bool.eq_false_of_not_eq_true hid)

theorem shutDown_close (h : Recorded t) : ShutDown t.connections.keys t t.close :=
  shutDown_foldl t.connections.keys h

/-- `close` releases everything exactly if every id with something under it has a
connection. -/
theorem released_close_iff (h : Recorded t) : Released t t.close ↔ t.Covered := by
  have hclose := shutDown_close h
  have huses : ∀ id, t.close.Uses id ↔ t.Uses id ∧ ¬t.connections.has id = true := by
    intro id
    rw [hclose.uses, ← Map.has_iff_mem_keys, and_self]
  have hnone : (∀ id, ¬t.close.Uses id) ↔ t.Covered := by
    simp only [huses, not_and_not_right, Covered]
  rw [← hnone]
  constructor
  · intro hreleased id huses
    rcases huses with hhas | hhas | hhas
    · rw [hreleased.channels] at hhas
      cases hhas
    · rw [hreleased.queuedCandidates] at hhas
      cases hhas
    · rw [hreleased.queuedMessages] at hhas
      cases hhas
  · intro hempty
    have hcovered := hnone.mp hempty
    constructor
    · apply Map.eq_empty_of_has
      intro id
      rw [hclose.connections]
      by_cases hid : t.connections.has id = true
      · simp [Map.has_iff_mem_keys.mp hid]
      · simp [hid]
    · exact Map.eq_empty_of_has fun id => Bool.eq_false_of_not_eq_true fun hhas =>
        hempty id (.inl hhas)
    · exact Map.eq_empty_of_has fun id => Bool.eq_false_of_not_eq_true fun hhas =>
        hempty id (.inr (.inl hhas))
    · exact Map.eq_empty_of_has fun id => Bool.eq_false_of_not_eq_true fun hhas =>
        hempty id (.inr (.inr hhas))
    · intro id connection hget
      exact hclose.connectionsClosed id connection
        (Map.has_iff_mem_keys.mp (Map.has_of_get hget)) hget
    · intro remoteId localId channel hget
      obtain ⟨channels, hchannels, -⟩ := Option.bind_eq_some_iff.mp hget
      have hhas := hcovered remoteId (.inl (Map.has_of_get hchannels))
      exact hclose.channelsClosed remoteId localId channel (Map.has_iff_mem_keys.mp hhas) hhas
        hget

end Close

/-! ## What the other operations put where -/

/-- An operation that shuts nothing down: `new` are the ids under which it puts something. -/
structure Puts (new : String → Prop) (t t' : Transporter) : Prop where
  connections : ∀ id, t.connections.has id = true → t'.connections.has id = true
  uses : ∀ id, t'.Uses id → t.Uses id ∨ new id
  recorded : Recorded t → Recorded t'

section Puts

variable {t t' t'' : Transporter} {new : String → Prop}

theorem Puts.refl (t : Transporter) : Puts new t t := ⟨fun _ h => h, fun _ h => .inl h, id⟩

theorem Puts.trans (h : Puts new t t') (h' : Puts new t' t'') : Puts new t t'' where
  connections id hid := h'.connections id (h.connections id hid)
  uses id huses := (h'.uses id huses).elim (h.uses id) .inr
  recorded hrec := h'.recorded (h.recorded hrec)

theorem Puts.imp {new' : String → Prop} (h : Puts new t t') (hnew : ∀ id, new id → new' id) :
    Puts new' t t' where
  connections := h.connections
  uses id huses := (h.uses id huses).imp_right (hnew id)
  recorded := h.recorded

/-- What is put under an id in use is nothing new. -/
theorem Puts.of_uses {id : String} (h : Puts (· = id) t t') (hid : t.Uses id) : Puts new t t' where
  connections := h.connections
  uses k huses := by
    rcases h.uses k huses with huses | rfl
    · exact .inl huses
    · exact .inl hid
  recorded := h.recorded

theorem SameTables.uses (h : SameTables t t') (id : String) : t'.Uses id ↔ t.Uses id := by
  rw [Uses, Uses, h.channels, h.queuedCandidates, h.queuedMessages]

/-- The same tables, with all the objects that there were. -/
theorem SameTables.puts (h : SameTables t t')
    (hpeer : ∀ n, t.peerConnections.has n = true → t'.peerConnections.has n = true)
    (hdata : ∀ n, t.dataChannels.has n = true → t'.dataChannels.has n = true) :
    Puts new t t' where
  connections id hid := by rwa [h.connections]
  uses id huses := .inl ((h.uses id).mp huses)
  recorded hrec := by
    constructor
    · intro id connection hget
      rw [h.connections] at hget
      exact hpeer connection (hrec.connections id connection hget)
    · intro remoteId localId channel hget
      rw [Transporter.channel, h.channels] at hget
      exact hdata channel (hrec.channels remoteId localId channel hget)

theorem puts_setPeerConnection (connection : Nat)
    (update : RTCPeerConnection → RTCPeerConnection) :
    Puts new t (t.setPeerConnection connection update) := by
  apply (sameTables_setPeerConnection connection update).puts
  · intro n hn
    rw [Map.has, get_setPeerConnection]
    split_ifs
    · rwa [Option.isSome_map]
    · exact hn
  · intro n hn
    rwa [dataChannels_setPeerConnection]

theorem puts_setDataChannel (channel : Nat) (update : RTCDataChannel → RTCDataChannel) :
    Puts new t (t.setDataChannel channel update) := by
  apply (sameTables_setDataChannel channel update).puts
  · intro n hn
    rwa [peerConnections_setDataChannel]
  · intro n hn
    rw [Map.has, get_setDataChannel]
    split_ifs
    · rwa [Option.isSome_map]
    · exact hn

theorem puts_off (key : String) (calls : List Nat) : Puts new t (t.off key calls) :=
  SameTables.puts ⟨rfl, rfl, rfl, rfl⟩ (fun _ h => h) fun _ h => h

theorem puts_createDataChannel (connection : Nat) (label : String) (channel : Nat) :
    Puts new t (t.createDataChannel connection label channel) := by
  have htables : SameTables t (t.createDataChannel connection label channel) :=
    ⟨rfl, rfl, rfl, rfl⟩
  apply htables.puts
  · exact fun _ h => h
  · intro n hn
    show (t.dataChannels.set channel _).has n = true
    rw [Map.has_set, hn, Bool.or_true]

theorem puts_addConnection (connection : Nat) (c : RTCPeerConnection) :
    Puts new t (t.addConnection connection c) where
  connections id hid := by
    show (t.connections.set c.remoteId connection).has id = true
    rw [Map.has_set, hid, Bool.or_true]
  uses _ huses := .inl huses
  recorded hrec := by
    constructor
    · intro id n hget
      show (t.peerConnections.set connection c).has n = true
      have hget : (t.connections.set c.remoteId connection).get id = some n := hget
      rw [Map.get_set] at hget
      rw [Map.has_set]
      split_ifs at hget
      · simp [Option.some.inj hget]
      · rw [hrec.connections id n hget, Bool.or_true]
    · exact hrec.channels

theorem puts_addQueueMessages (remoteId localId : String) (msgs : List Uint8Array) :
    Puts (· = remoteId) t (t.addQueueMessages remoteId localId msgs) where
  connections _ hid := hid
  uses id huses := by
    rcases huses with hhas | hhas | hhas
    · exact .inl (.inl hhas)
    · exact .inl (.inr (.inl hhas))
    · have hhas : (t.queuedMessages.set remoteId _).has id = true := hhas
      rw [Map.has_set, Bool.or_eq_true, decide_eq_true_eq] at hhas
      exact hhas.symm.imp_left fun hhas => .inr (.inr hhas)
  recorded hrec := ⟨hrec.connections, hrec.channels⟩

theorem puts_dataChannelConfiguration {remoteId localId : String} {channel : Nat}
    (hchannel : t.dataChannels.has channel = true) :
    Puts (· = remoteId) t (t.dataChannelConfiguration remoteId localId channel) := by
  have hadd : Puts (· = remoteId) t (t.addDataChannel remoteId localId channel) := by
    constructor
    · exact fun _ hid => hid
    · intro id huses
      rcases huses with hhas | hhas
      · have hhas : (t.channels.set remoteId _).has id = true := hhas
        rw [Map.has_set, Bool.or_eq_true, decide_eq_true_eq] at hhas
        exact hhas.symm.imp_left .inl
      · exact .inl (.inr hhas)
    · intro hrec
      refine ⟨hrec.connections, fun r l n hget => ?_⟩
      rw [channel_addDataChannel] at hget
      split_ifs at hget
      · rwa [← Option.some.inj hget]
      · exact hrec.channels r l n hget
  exact (hadd.trans (puts_setDataChannel channel _)).trans (puts_addQueueMessages _ _ _)

/-- A channel is created and configured. -/
theorem puts_configure (connection : Nat) (label remoteId localId : String) (channel : Nat) :
    Puts (· = remoteId) t ((t.createDataChannel connection label
      channel).dataChannelConfiguration remoteId localId channel) := by
  apply (puts_createDataChannel connection label channel).trans
  apply puts_dataChannelConfiguration
  show (t.dataChannels.set channel _).has channel = true
  simp [Map.has_set]

theorem puts_reuse (remoteId localId : String) (connection channel : Nat) :
    Puts (· = remoteId) t (t.reuse remoteId localId connection channel) := by
  unfold reuse
  split_ifs
  · exact puts_configure connection localId remoteId localId channel
  · exact .refl t

theorem puts_setQueuedCandidates (id : String) (candidates : List String) :
    Puts (· = id) t
      { t with queuedCandidates := t.queuedCandidates.set id candidates } where
  connections _ hid := hid
  uses k huses := by
    rcases huses with hhas | hhas | hhas
    · exact .inl (.inl hhas)
    · have hhas : (t.queuedCandidates.set id candidates).has k = true := hhas
      rw [Map.has_set, Bool.or_eq_true, decide_eq_true_eq] at hhas
      exact hhas.symm.imp_left fun hhas => .inr (.inl hhas)
    · exact .inl (.inr (.inr hhas))
  recorded hrec := ⟨hrec.connections, hrec.channels⟩

theorem puts_handleCandidate (id candidate : String) :
    Puts (· = id) t (t.handleCandidate id candidate) := by
  unfold handleCandidate
  split
  · exact puts_setPeerConnection _ _
  · exact puts_setQueuedCandidates id _

/-- The candidates that are queued again are under the id under which they were. -/
theorem puts_addQueuedCandidates (id : String) : Puts new t (t.addQueuedCandidates id) := by
  have hfold : ∀ (candidates : List String) (t : Transporter), Puts (· = id) t
      (candidates.foldl (fun t candidate =>
        ({ t with
          queuedCandidates := t.queuedCandidates.set id
            (((t.queuedCandidates.get id).getD []).filter (· ≠ candidate)) } :
          Transporter).handleCandidate id candidate) t) := by
    intro candidates
    induction candidates with
    | nil => exact .refl
    | cons candidate candidates ih =>
      intro t
      exact ((puts_setQueuedCandidates id _).trans (puts_handleCandidate id candidate)).trans
        (ih _)
  cases hget : t.queuedCandidates.get id with
  | none =>
    rw [addQueuedCandidates, hget]
    exact .refl t
  | some candidates =>
    exact (hfold _ t).of_uses (.inr (.inl (Map.has_of_get hget)))

theorem uses_of_queue {remoteId localId : String} {msgs : List Uint8Array}
    (h : t.queue remoteId localId = some msgs) : t.Uses remoteId := by
  obtain ⟨queues, hqueues, -⟩ := Option.bind_eq_some_iff.mp h
  exact .inr (.inr (Map.has_of_get hqueues))

theorem puts_recv (remoteId localId : String) (call : Nat) :
    Puts new t (t.recv remoteId localId call).1 := by
  unfold recv
  split
  · rename_i hqueue
    exact (puts_addQueueMessages remoteId localId _).of_uses (uses_of_queue hqueue)
  · exact SameTables.puts ⟨rfl, rfl, rfl, rfl⟩ (fun _ h => h) fun _ h => h

theorem puts_recvResolved {remoteId localId : String}
    (h : t.recvResolved remoteId localId = .ok t') : Puts new t t' := by
  unfold recvResolved at h
  split at h
  · cases h
  · rename_i queues hqueues
    split at h
    · cases h
      exact (puts_addQueueMessages remoteId localId _).of_uses
        (.inr (.inr (Map.has_of_get hqueues)))
    · cases h
      exact .refl t

theorem puts_queueAndEmitMessage (remoteId localId : String) (msg : Uint8Array) :
    Puts new t (t.queueAndEmitMessage remoteId localId msg).1 := by
  unfold queueAndEmitMessage
  split
  · exact .refl t
  · exact .refl t
  · rename_i queues _ hqueues
    dsimp only
    split
    · exact (puts_addQueueMessages remoteId localId _).of_uses
        (.inr (.inr (Map.has_of_get hqueues)))
    · exact .refl t

end Puts

/-- An id that has a connection that is not closed has a connection. -/
theorem has_of_existing {t : Transporter} {remoteId : String} {connection : Nat}
    (h : t.existing remoteId = some connection) : t.connections.has remoteId = true :=
  Map.has_of_get (Option.filter_eq_some_iff.mp h).1

section Offers

variable {t : Transporter}

theorem puts_getOffer (remoteId localId : String) (handleCandidate : CandidateHandler) (n : Nat) :
    Puts (· = remoteId) t (t.getOffer remoteId localId handleCandidate n).1 ∧
      (t.getOffer remoteId localId handleCandidate n).1.connections.has remoteId = true := by
  unfold getOffer
  split
  · rename_i connection hexisting
    have hreuse := puts_reuse (t := t) remoteId localId connection n
    exact ⟨hreuse, hreuse.connections remoteId (has_of_existing hexisting)⟩
  · have hconfigure := puts_configure (t := t.addConnection n {
      remoteId := remoteId
      onicecandidate := handleCandidate
      ondatachannel := some localId }) n localId remoteId localId n
    refine ⟨(puts_addConnection n _).trans hconfigure, hconfigure.connections remoteId ?_⟩
    show (t.connections.set remoteId n).has remoteId = true
    simp [Map.has_set]

theorem puts_handleOffer (remoteId localId : String) (handleCandidate : CandidateHandler)
    (n : Nat) : Puts (· = remoteId) t (t.handleOffer remoteId localId handleCandidate n).1 ∧
      (t.handleOffer remoteId localId handleCandidate n).1.connections.has remoteId = true := by
  unfold handleOffer
  split
  · rename_i connection hexisting
    have hreuse := puts_reuse (t := t) remoteId localId connection n
    exact ⟨hreuse, hreuse.connections remoteId (has_of_existing hexisting)⟩
  · refine ⟨puts_addConnection n _, ?_⟩
    show (t.connections.set remoteId n).has remoteId = true
    simp [Map.has_set]

end Offers

/-! ## Ids with a connection -/

section Covered

variable {t t' : Transporter} {new : String → Prop}

theorem Covered.puts (h : t.Covered) (hputs : Puts new t t')
    (hnew : ∀ id, new id → t'.connections.has id = true) : t'.Covered := by
  intro id huses
  rcases hputs.uses id huses with huses | hid
  · exact hputs.connections id (h id huses)
  · exact hnew id hid

theorem Covered.shutdown (h : t.Covered) (id : String) : (t.shutdown id).Covered := by
  intro k huses
  obtain ⟨hne, huses⟩ := (uses_shutdown id k).mp huses
  rw [has_connections_shutdown, h k huses]
  simp [hne]

end Covered

end Transporter

/-! ## Runs of a transporter -/

/-- What a call does behind an await. -/
inductive Pending where
  /-- `handleOffer` awaits `setRemoteDescription`. -/
  | offerDescribing (remoteId localId offer : String) (connection : Nat)
  /-- It awaits `createAnswer` and `setLocalDescription`. -/
  | answerCreating (remoteId localId : String) (connection : Nat)
  /-- It awaits `addQueuedCandidates`. -/
  | answerCreated (localId : String) (connection : Nat)
  /-- `handleAnswer` awaits `setRemoteDescription`. -/
  | answerDescribing (id answer : String) (connection : Nat)
  /-- The description is set. -/
  | answerDescribed (id : String)
  deriving DecidableEq, Repr

def Pending.resume (t : Transporter) : Pending → Transporter × List Pending
  | offerDescribing remoteId localId offer connection =>
    (t.setRemoteDescription connection offer, [answerCreating remoteId localId connection])
  | answerCreating remoteId localId connection =>
    (t.addQueuedCandidates remoteId, [answerCreated localId connection])
  | answerCreated localId connection => (t.listen connection localId, [])
  | answerDescribing id answer connection =>
    (t.setRemoteDescription connection answer, [answerDescribed id])
  | answerDescribed id => (t.addQueuedCandidates id, [])

/-- A transporter with the calls that go on. -/
structure Working where
  transporter : Transporter := {}
  /-- The number of the next connection or channel. -/
  fresh : Nat := 0
  pending : List Pending := []

inductive WorkingStep where
  | getOffer (remoteId localId : String) (handleCandidate : CandidateHandler)
  | handleOffer (remoteId localId offer : String) (handleCandidate : CandidateHandler)
  | handleAnswer (id answer : String)
  | handleCandidate (id candidate : String)
  /-- A channel with any label comes in. -/
  | ondatachannel (connection : Nat) (label : String)
  | onmessage (channel : Nat) (msg : Uint8Array)
  | onconnectionstatechange (connection : Nat) (connectionState : RTCPeerConnectionState)
  /-- The browser changes the state of a channel. -/
  | readyState (channel : Nat) (readyState : RTCDataChannelState)
  | recv (remoteId localId : String) (call : Nat)
  | recvResolved (remoteId localId : String)
  /-- Listeners of an event have been called. -/
  | emitted (key : String) (calls : List Nat)
  | shutdown (id : String)
  | resume (call : Pending)
  deriving DecidableEq, Repr

namespace Working

def next (p : Working) : WorkingStep → Option Working
  | .getOffer remoteId localId handleCandidate => some { p with
      transporter := (p.transporter.getOffer remoteId localId handleCandidate p.fresh).1
      fresh := p.fresh + 1 }
  | .handleOffer remoteId localId offer handleCandidate =>
    let r := p.transporter.handleOffer remoteId localId handleCandidate p.fresh
    some {
      transporter := r.1
      fresh := p.fresh + 1
      pending := match r.2 with
        | .ok connection => p.pending ++ [.offerDescribing remoteId localId offer connection]
        | .error _ => p.pending }
  | .handleAnswer id answer => some { p with
      pending := match p.transporter.handleAnswer id with
        | .ok connection => p.pending ++ [.answerDescribing id answer connection]
        | .error _ => p.pending }
  | .handleCandidate id candidate =>
    some { p with transporter := p.transporter.handleCandidate id candidate }
  | .ondatachannel connection label =>
    ((p.transporter.peerConnections.get connection).bind (·.ondatachannel)).map fun localId =>
      { p with
        transporter := (p.transporter.createDataChannel connection label
          p.fresh).dataChannelConfiguration label localId p.fresh
        fresh := p.fresh + 1 }
  | .onmessage channel msg =>
    ((p.transporter.dataChannels.get channel).bind (·.handlers)).map fun ids =>
      { p with transporter := (p.transporter.queueAndEmitMessage ids.1 ids.2 msg).1 }
  | .onconnectionstatechange connection connectionState =>
    (p.transporter.peerConnections.get connection).map fun c =>
      { p with
        transporter := (p.transporter.setPeerConnection connection fun c =>
          { c with connectionState := connectionState }).handleConnectionStatusChange
            connectionState c.remoteId }
  | .readyState channel readyState => some { p with
      transporter := p.transporter.setDataChannel channel fun c =>
        { c with readyState := readyState } }
  | .recv remoteId localId call =>
    some { p with transporter := (p.transporter.recv remoteId localId call).1 }
  | .recvResolved remoteId localId =>
    match p.transporter.recvResolved remoteId localId with
    | .ok t => some { p with transporter := t }
    | .error _ => some p
  | .emitted key calls => some { p with transporter := p.transporter.off key calls }
  | .shutdown id => some { p with transporter := p.transporter.shutdown id }
  | .resume call =>
    if call ∈ p.pending then
      some { p with
        transporter := (call.resume p.transporter).1
        pending := p.pending.erase call ++ (call.resume p.transporter).2 }
    else none

def Step (p : Working) (a : WorkingStep) (p' : Working) : Prop := p.next a = some p'

end Working

/-- A run of a transporter, with its steps. -/
abbrev WorkingRun := Run (· = ({} : Working)) Working.Step

/-- The id under which a step puts something from outside: that of a candidate, or the label of
a channel. -/
def WorkingStep.incoming : WorkingStep → Option String
  | .handleCandidate id _ => some id
  | .ondatachannel _ label => some label
  | _ => none

/-! ## What a step does -/

section Step

variable {p p' : Working} {steps : List (Working × WorkingStep)} {a : WorkingStep}

/-- A call that goes on puts nothing under another id. -/
theorem Pending.puts_resume {new : String → Prop} (t : Transporter) (call : Pending) :
    t.Puts new (call.resume t).1 := by
  cases call with
  | offerDescribing => exact Transporter.puts_setPeerConnection _ _
  | answerCreating => exact Transporter.puts_addQueuedCandidates _
  | answerCreated => exact Transporter.puts_setPeerConnection _ _
  | answerDescribing => exact Transporter.puts_setPeerConnection _ _
  | answerDescribed => exact Transporter.puts_addQueuedCandidates _

/-- A step shuts an id down, or it puts things under ids that have a connection then and under
the one that comes with it. -/
theorem Working.Step.cases (h : Working.Step p a p') :
    (∃ t id, p.transporter.Puts (fun _ => False) t ∧ p'.transporter = t.shutdown id) ∨
      p.transporter.Puts (fun id => p'.transporter.connections.has id = true ∨
        a.incoming = some id) p'.transporter := by
  cases a with
  | getOffer remoteId localId handleCandidate =>
    cases h
    obtain ⟨hputs, hhas⟩ := Transporter.puts_getOffer (t := p.transporter) remoteId localId
      handleCandidate p.fresh
    refine .inr (hputs.imp fun id hid => .inl ?_)
    rw [hid]
    exact hhas
  | handleOffer remoteId localId offer handleCandidate =>
    cases h
    obtain ⟨hputs, hhas⟩ := Transporter.puts_handleOffer (t := p.transporter) remoteId localId
      handleCandidate p.fresh
    refine .inr (hputs.imp fun id hid => .inl ?_)
    rw [hid]
    exact hhas
  | handleAnswer id answer =>
    cases h
    exact .inr (.refl _)
  | handleCandidate id candidate =>
    cases h
    refine .inr ((Transporter.puts_handleCandidate id candidate).imp fun k hk => .inr ?_)
    rw [hk]
    rfl
  | ondatachannel connection label =>
    obtain ⟨localId, -, rfl⟩ := Option.map_eq_some_iff.mp h
    refine .inr ((Transporter.puts_configure connection label label localId
      p.fresh).imp fun k hk => .inr ?_)
    rw [hk]
    rfl
  | onmessage channel msg =>
    obtain ⟨ids, -, rfl⟩ := Option.map_eq_some_iff.mp h
    exact .inr (Transporter.puts_queueAndEmitMessage ids.1 ids.2 msg)
  | onconnectionstatechange connection connectionState =>
    obtain ⟨c, -, rfl⟩ := Option.map_eq_some_iff.mp h
    by_cases hclosed : connectionState = .closed
    · have hshut : ∀ t : Transporter, t.handleConnectionStatusChange connectionState
          c.remoteId = t.shutdown c.remoteId := fun t => if_pos hclosed
      refine .inl ⟨_, c.remoteId, ?_, hshut _⟩
      exact Transporter.puts_setPeerConnection connection _
    · refine .inr ?_
      have hkeep : ∀ t : Transporter, t.handleConnectionStatusChange connectionState
          c.remoteId = t := fun t => if_neg hclosed
      simp only [hkeep]
      exact Transporter.puts_setPeerConnection connection _
  | readyState channel readyState =>
    cases h
    exact .inr (Transporter.puts_setDataChannel channel _)
  | recv remoteId localId call =>
    cases h
    exact .inr (Transporter.puts_recv remoteId localId call)
  | recvResolved remoteId localId =>
    cases hrecv : p.transporter.recvResolved remoteId localId with
    | ok t =>
      simp only [Working.Step, Working.next, hrecv] at h
      cases h
      exact .inr (Transporter.puts_recvResolved hrecv)
    | error e =>
      simp only [Working.Step, Working.next, hrecv] at h
      cases h
      exact .inr (.refl _)
  | emitted key calls =>
    cases h
    exact .inr (Transporter.puts_off key calls)
  | shutdown id =>
    cases h
    exact .inl ⟨p.transporter, id, .refl _, rfl⟩
  | resume call =>
    simp only [Working.Step, Working.next] at h
    split_ifs at h
    cases h
    exact .inr (call.puts_resume p.transporter)

theorem Working.Step.recorded (h : Working.Step p a p') (hrec : p.transporter.Recorded) :
    p'.transporter.Recorded := by
  rcases h.cases with ⟨t, id, hputs, hp'⟩ | hputs
  · rw [hp']
    exact Transporter.recorded_shutdown (hputs.recorded hrec) id
  · exact hputs.recorded hrec

/-- What comes in for an id with a connection leaves every id covered. -/
theorem Working.Step.covered (h : Working.Step p a p') (hcovered : p.transporter.Covered)
    (hincoming : ∀ id, a.incoming = some id → p.transporter.connections.has id = true) :
    p'.transporter.Covered := by
  rcases h.cases with ⟨t, id, hputs, hp'⟩ | hputs
  · rw [hp']
    exact (hcovered.puts hputs fun _ hid => hid.elim).shutdown id
  · apply hcovered.puts hputs
    intro id hid
    rcases hid with hhas | hid
    · exact hhas
    · exact hputs.connections id (hincoming id hid)

theorem WorkingRun.recorded (hrun : WorkingRun steps p) : p.transporter.Recorded := by
  induction hrun with
  | start hinit =>
    subst hinit
    constructor
    · exact fun id connection hget => by cases hget
    · exact fun remoteId localId channel hget => by cases hget
  | snoc _ hstep ih => exact hstep.recorded ih

theorem WorkingRun.covered (hrun : WorkingRun steps p)
    (hincoming : ∀ x ∈ steps, ∀ id, x.2.incoming = some id →
      x.1.transporter.connections.has id = true) : p.transporter.Covered := by
  apply Run.invariant (I := fun p : Working => p.transporter.Covered) hrun hincoming
  · intro p hinit id huses
    subst hinit
    rcases huses with hhas | hhas | hhas <;> cases hhas
  · exact fun p a p' hcovered hadmits hstep => hstep.covered hcovered hadmits

/-- `close` releases everything exactly if every id with something under it has a connection,
and this is so if candidates and channels come in for such ids only. -/
theorem released_iff (hrun : WorkingRun steps p) :
    (p.transporter.Released p.transporter.close ↔ p.transporter.Covered) ∧
      ((∀ x ∈ steps, ∀ id, x.2.incoming = some id →
          x.1.transporter.connections.has id = true) →
        p.transporter.Released p.transporter.close) := by
  have hreleased := Transporter.released_close_iff hrun.recorded
  exact ⟨hreleased, fun hincoming => hreleased.mpr (hrun.covered hincoming)⟩

/-- A connection with a channel, which is all that there is. -/
theorem released_connection : ∃ steps p, WorkingRun steps p ∧
    p.transporter.channel "10.0.0.1" "10.0.0.0" = some 0 ∧
    p.transporter.Released p.transporter.close := by
  have hstart : WorkingRun [] {} := .start rfl
  have hoffer := hstart.snoc (a := WorkingStep.getOffer "10.0.0.1" "10.0.0.0"
    ⟨0, "10.0.0.0", "10.0.0.1"⟩) rfl
  refine ⟨_, _, hoffer, by decide, (released_iff hoffer).2 ?_⟩
  intro x hx id hid
  rw [List.mem_singleton.mp hx] at hid
  cases hid

/-- A candidate that comes before its connection, and a channel under a label that is nobody's
id: both are still kept after `close`. -/
theorem close_leaves_channel : ∃ steps p, WorkingRun steps p ∧
    p.transporter.close.queuedCandidates.has "10.0.0.2" = true ∧
    p.transporter.close.channel "chat" "10.0.0.0" = some 1 ∧
    ¬p.transporter.Released p.transporter.close := by
  have hstart : WorkingRun [] {} := .start rfl
  have hoffer := hstart.snoc (a := WorkingStep.getOffer "10.0.0.1" "10.0.0.0"
    ⟨0, "10.0.0.0", "10.0.0.1"⟩) rfl
  have hchannel := hoffer.snoc (a := WorkingStep.ondatachannel 0 "chat") rfl
  have hopen := hchannel.snoc (a := WorkingStep.readyState 1 .open) rfl
  have hcandidate := hopen.snoc (a := WorkingStep.handleCandidate "10.0.0.2" "candidate:1") rfl
  refine ⟨_, _, hcandidate, by decide, by decide, ?_⟩
  intro hreleased
  have hempty := congrArg (fun m => m.has "10.0.0.2") hreleased.queuedCandidates
  exact absurd hempty (by decide)

end Step

end Unisockets.Transport
