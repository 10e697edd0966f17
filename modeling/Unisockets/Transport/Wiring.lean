import Unisockets.Transport.Candidates

/-!
# The wiring of a page

What the offers and the answers are about: which connection a page has to an id,
whom a connection is with and which description of its peer it has got, which
channels lie on it, and which channel the page uses for two clients.  Candidates,
messages and the state that the browser reports are left out.

`Transporter.wiring` reads this off the transporter of the page.  The updates
`addConnection`, `addChannel`, `describe` and `listen` are all that its functions do
to it, and the lemmas at the end say which of them does what.
-/

namespace Unisockets.Transport

open JsStd Signaling Transition

/-- A connection without its state and its candidates. -/
def RTCPeerConnection.signaled (c : RTCPeerConnection) : RTCPeerConnection :=
  { c with connectionState := .new, candidates := [] }

/-- The connection and the label of a channel. -/
def RTCDataChannel.drawn (c : RTCDataChannel) : Nat × String := (c.connection, c.label)

/-- The connections and the channels of a page. -/
@[ext]
structure Wiring where
  /-- The connection to an id. -/
  connection : String → Option Nat
  signaled : Nat → Option RTCPeerConnection
  drawn : Nat → Option (Nat × String)
  /-- The channel for a remote and a local id. -/
  channel : String → String → Option Nat

namespace Wiring

variable (w : Wiring)

/-- A new connection is the one to its remote id. -/
def addConnection (e : Nat) (c : RTCPeerConnection) : Wiring :=
  { w with
    connection := fun id => if id = c.remoteId then some e else w.connection id
    signaled := fun e' => if e' = e then some c.signaled else w.signaled e' }

/-- A new channel on a connection is the one of a remote and a local id. -/
def addChannel (m connection : Nat) (label remoteId localId : String) : Wiring :=
  { w with
    drawn := fun m' => if m' = m then some (connection, label) else w.drawn m'
    channel := fun r l => if r = remoteId ∧ l = localId then some m else w.channel r l }

def update (e : Nat) (f : RTCPeerConnection → RTCPeerConnection) : Wiring :=
  { w with signaled := fun e' => if e' = e then (w.signaled e').map f else w.signaled e' }

/-- `setRemoteDescription`. -/
def describe (e : Nat) (sdp : String) : Wiring :=
  w.update e fun c => { c with remoteDescription := some sdp }

/-- `ondatachannel` is set. -/
def listen (e : Nat) (localId : String) : Wiring :=
  w.update e fun c => { c with ondatachannel := some localId }

@[simp]
theorem connection_update_self (e : Nat) (f : RTCPeerConnection → RTCPeerConnection) :
    (w.update e f).connection = w.connection := rfl

@[simp]
theorem drawn_update_self (e : Nat) (f : RTCPeerConnection → RTCPeerConnection) :
    (w.update e f).drawn = w.drawn := rfl

@[simp]
theorem channel_update_self (e : Nat) (f : RTCPeerConnection → RTCPeerConnection) :
    (w.update e f).channel = w.channel := rfl

/-! ### One page among others -/

variable {w : Nat → Wiring} {n n' : Nat}

section Update

variable (e : Nat) (f : RTCPeerConnection → RTCPeerConnection)

@[simp]
theorem connection_update :
    (Function.update w n ((w n).update e f) n').connection = (w n').connection := by
  by_cases h : n' = n <;> simp [h, update]

@[simp]
theorem drawn_update : (Function.update w n ((w n).update e f) n').drawn = (w n').drawn := by
  by_cases h : n' = n <;> simp [h, update]

@[simp]
theorem channel_update :
    (Function.update w n ((w n).update e f) n').channel = (w n').channel := by
  by_cases h : n' = n <;> simp [h, update]

theorem signaled_update (e' : Nat) :
    (Function.update w n ((w n).update e f) n').signaled e' =
      if n' = n ∧ e' = e then ((w n').signaled e').map f else (w n').signaled e' := by
  by_cases h : n' = n <;> simp [h, update]

end Update

section AddConnection

variable (e : Nat) (c : RTCPeerConnection)

@[simp]
theorem drawn_addConnection :
    (Function.update w n ((w n).addConnection e c) n').drawn = (w n').drawn := by
  by_cases h : n' = n <;> simp [h, addConnection]

@[simp]
theorem channel_addConnection :
    (Function.update w n ((w n).addConnection e c) n').channel = (w n').channel := by
  by_cases h : n' = n <;> simp [h, addConnection]

theorem connection_addConnection (id : String) :
    (Function.update w n ((w n).addConnection e c) n').connection id =
      if n' = n ∧ id = c.remoteId then some e else (w n').connection id := by
  by_cases h : n' = n <;> simp [h, addConnection]

theorem signaled_addConnection (e' : Nat) :
    (Function.update w n ((w n).addConnection e c) n').signaled e' =
      if n' = n ∧ e' = e then some c.signaled else (w n').signaled e' := by
  by_cases h : n' = n <;> simp [h, addConnection]

end AddConnection

section AddChannel

variable (m f : Nat) (label remoteId localId : String)

@[simp]
theorem connection_addChannel :
    (Function.update w n ((w n).addChannel m f label remoteId localId) n').connection =
      (w n').connection := by
  by_cases h : n' = n <;> simp [h, addChannel]

@[simp]
theorem signaled_addChannel :
    (Function.update w n ((w n).addChannel m f label remoteId localId) n').signaled =
      (w n').signaled := by
  by_cases h : n' = n <;> simp [h, addChannel]

theorem drawn_addChannel (m' : Nat) :
    (Function.update w n ((w n).addChannel m f label remoteId localId) n').drawn m' =
      if n' = n ∧ m' = m then some (f, label) else (w n').drawn m' := by
  by_cases h : n' = n <;> simp [h, addChannel]

/-- A new channel leaves the others. -/
theorem drawn_addChannel_of_fresh {m' : Nat} {v : Nat × String} (hfresh : (w n).drawn m = none)
    (hv : (w n').drawn m' = some v) :
    (Function.update w n ((w n).addChannel m f label remoteId localId) n').drawn m' = some v := by
  rw [drawn_addChannel, if_neg]
  · exact hv
  · rintro ⟨rfl, rfl⟩
    rw [hfresh] at hv
    cases hv

theorem channel_addChannel (r l : String) :
    (Function.update w n ((w n).addChannel m f label remoteId localId) n').channel r l =
      if n' = n ∧ r = remoteId ∧ l = localId then some m else (w n').channel r l := by
  by_cases h : n' = n <;> simp [h, addChannel]

end AddChannel

/-- A connection comes first, and then its channel. -/
theorem addConnection_addChannel (e : Nat) (c : RTCPeerConnection) (m f : Nat)
    (label r l : String) :
    Function.update w n (((w n).addConnection e c).addChannel m f label r l) =
      Function.update (Function.update w n ((w n).addConnection e c)) n
        ((Function.update w n ((w n).addConnection e c) n).addChannel m f label r l) := by
  rw [Function.update_self, Function.update_idem]

end Wiring

namespace Transporter

/-- The wiring of a page. -/
def wiring (t : Transporter) : Wiring where
  connection id := t.connections.get id
  signaled e := (t.peerConnections.get e).map RTCPeerConnection.signaled
  drawn m := (t.dataChannels.get m).map RTCDataChannel.drawn
  channel r l := t.channel r l

variable {t t' : Transporter}

/-! ## What the transporter does to the wiring -/

/-- Candidates do not matter. -/
theorem SameConnections.wiring (h : SameConnections t t') : t'.wiring = t.wiring := by
  ext x : 2
  · simp only [Transporter.wiring, h.connections]
  · have hsame := congrArg (Option.map RTCPeerConnection.signaled) (h.peerConnections x)
    rw [Option.map_map, Option.map_map] at hsame
    exact hsame
  · simp only [Transporter.wiring, h.dataChannels]
  · ext : 1
    simp only [Transporter.wiring, Transporter.channel, h.channels]

theorem wiring_setPeerConnection {f : RTCPeerConnection → RTCPeerConnection}
    {g : RTCPeerConnection → RTCPeerConnection} (hfg : ∀ c, (f c).signaled = g c.signaled)
    (e : Nat) : (t.setPeerConnection e f).wiring = t.wiring.update e g := by
  ext x : 2
  · simp [Transporter.wiring, Wiring.update]
  · simp only [Transporter.wiring, Wiring.update, get_setPeerConnection]
    split_ifs
    · cases t.peerConnections.get x <;> simp [hfg]
    · rfl
  · simp [Transporter.wiring, Wiring.update]
  · ext : 1
    simp [Transporter.wiring, Wiring.update, Transporter.channel]

theorem wiring_setRemoteDescription (e : Nat) (sdp : String) :
    (t.setRemoteDescription e sdp).wiring = t.wiring.describe e sdp := by
  apply wiring_setPeerConnection
  exact fun _ => rfl

theorem wiring_listen (e : Nat) (localId : String) :
    (t.listen e localId).wiring = t.wiring.listen e localId := by
  apply wiring_setPeerConnection
  exact fun _ => rfl

theorem wiring_connectionState (e : Nat) (connectionState : RTCPeerConnectionState) :
    (t.setPeerConnection e fun c =>
      { c with connectionState := connectionState }).wiring = t.wiring := by
  have hupdate : (t.setPeerConnection e fun c =>
      { c with connectionState := connectionState }).wiring = t.wiring.update e id := by
    apply wiring_setPeerConnection
    exact fun _ => rfl
  rw [hupdate]
  ext x : 2
  · rfl
  · simp [Wiring.update]
  · rfl
  · rfl

theorem wiring_addConnection (e : Nat) (c : RTCPeerConnection) :
    (t.addConnection e c).wiring = t.wiring.addConnection e c := by
  ext x : 2
  · simp [Transporter.wiring, Wiring.addConnection, addConnection, Map.get_set]
  · simp only [Transporter.wiring, Wiring.addConnection, addConnection, Map.get_set]
    split_ifs <;> rfl
  · rfl
  · rfl

theorem get_setDataChannel (channel : Nat) (f : RTCDataChannel → RTCDataChannel) (m : Nat) :
    (t.setDataChannel channel f).dataChannels.get m =
      if m = channel then (t.dataChannels.get m).map f else t.dataChannels.get m := by
  unfold setDataChannel
  split
  · rename_i c hc
    rw [Map.get_set]
    split_ifs with h
    · rw [h, hc, Option.map_some]
    · rfl
  · rename_i hc
    split_ifs with h
    · rw [h, hc, Option.map_none]
    · rfl

/-- A channel is created and configured. -/
theorem wiring_createDataChannel (connection : Nat) (label remoteId localId : String) (m : Nat) :
    ((t.createDataChannel connection label m).dataChannelConfiguration remoteId localId m).wiring
      = t.wiring.addChannel m connection label remoteId localId := by
  ext x : 2
  · simp [Transporter.wiring, Wiring.addChannel]
  · simp [Transporter.wiring, Wiring.addChannel]
  · simp only [Transporter.wiring, Wiring.addChannel, dataChannelConfiguration, addQueueMessages,
      get_setDataChannel, addDataChannel, createDataChannel, Map.get_set]
    split_ifs <;> rfl
  · ext : 1
    simp only [Transporter.wiring, Wiring.addChannel, channel_dataChannelConfiguration]
    split_ifs <;> rfl

theorem wiring_reuse (remoteId localId : String) (connection m : Nat)
    (hnone : t.channel remoteId localId = none) :
    (t.reuse remoteId localId connection m).wiring =
      t.wiring.addChannel m connection localId remoteId localId := by
  rw [reuse, if_pos hnone, wiring_createDataChannel]

theorem wiring_handleConnectionStatusChange {connectionState : RTCPeerConnectionState}
    (hopen : connectionState ≠ .closed) (id : String) :
    (t.handleConnectionStatusChange connectionState id).wiring = t.wiring := by
  rw [handleConnectionStatusChange, if_neg hopen]

end Transporter

/-- The wiring of the pages. -/
def Runner.wiring (p : Runner) (n : Nat) : Wiring := (p.pages n).wiring

@[simp]
theorem Runner.wiring_setPage (p : Runner) (n : Nat) (t : Transporter) :
    (p.setPage n t).wiring = Function.update p.wiring n t.wiring := by
  ext m : 1
  simp only [Runner.wiring, Runner.pages_setPage, Function.update_apply]
  split_ifs <;> rfl

/-! ## Connections that know each other -/

namespace Wiring

/-- Two connections have exchanged an offer and an answer. -/
def Agreed (W : WebRtc) (w : Nat → Wiring) (n e n' e' : Nat) : Prop :=
  ∃ c c', (w n).signaled e = some c ∧ (w n').signaled e' = some c' ∧
    c'.remoteDescription = some (W.offer e) ∧ c.remoteDescription = some (W.answer e')

def Linked (W : WebRtc) (w : Nat → Wiring) (n e n' e' : Nat) : Prop :=
  Agreed W w n e n' e' ∨ Agreed W w n' e' n e

theorem Linked.symm {W : WebRtc} {w : Nat → Wiring} {n e n' e' : Nat}
    (h : Linked W w n e n' e') : Linked W w n' e' n e := Or.symm h

theorem Linked.described {W : WebRtc} {w : Nat → Wiring} {n e n' e' : Nat}
    (h : Linked W w n e n' e') :
    ∃ c, (w n).signaled e = some c ∧ c.remoteDescription ≠ none := by
  rcases h with ⟨c, _, hc, -, -, hanswer⟩ | ⟨_, c, -, hc, hoffer, -⟩
  · exact ⟨c, hc, by simp [hanswer]⟩
  · exact ⟨c, hc, by simp [hoffer]⟩

end Wiring

theorem Runner.signaled_wiring (p : Runner) (n e : Nat) : (p.wiring n).signaled e =
    ((p.pages n).peerConnections.get e).map RTCPeerConnection.signaled := rfl

theorem Runner.Numbered.signaled {p : Runner} (h : p.Numbered) {n n' e : Nat}
    {c c' : RTCPeerConnection} (hc : (p.wiring n).signaled e = some c)
    (hc' : (p.wiring n').signaled e = some c') : n = n' := by
  obtain ⟨d, hd, -⟩ := Option.map_eq_some_iff.mp hc
  obtain ⟨d', hd', -⟩ := Option.map_eq_some_iff.mp hc'
  exact h.one_page n n' e d d' hd hd'

theorem Runner.negotiated_iff {W : WebRtc} {p : Runner} {n e n' e' : Nat} :
    p.Negotiated W n e n' e' ↔ Wiring.Agreed W p.wiring n e n' e' := by
  constructor
  · rintro ⟨c, hc, c', hc', hoffer, hanswer⟩
    refine ⟨c.signaled, c'.signaled, ?_, ?_, hoffer, hanswer⟩
    · rw [Runner.signaled_wiring, Option.mem_def.mp hc, Option.map_some]
    · rw [Runner.signaled_wiring, Option.mem_def.mp hc', Option.map_some]
  · rintro ⟨c, c', hc, hc', hoffer, hanswer⟩
    obtain ⟨d, hd, rfl⟩ := Option.map_eq_some_iff.mp hc
    obtain ⟨d', hd', rfl⟩ := Option.map_eq_some_iff.mp hc'
    exact ⟨d, hd, d', hd', hoffer, hanswer⟩

theorem Runner.linked_iff {W : WebRtc} {p : Runner} {n e n' e' : Nat} :
    p.Linked W n e n' e' ↔ Wiring.Linked W p.wiring n e n' e' :=
  or_congr Runner.negotiated_iff Runner.negotiated_iff

/-- The maps of the pages fit together: a connection is with the id it stands
under, a channel is there and of two clients, it has a number of its own, and
channels meet on connections that know each other. -/
structure Wired (W : WebRtc) (client : String → Prop) (w : Nat → Wiring)
    (ends : List (Nat × Nat)) (fresh : Nat) : Prop where
  keyed (n : Nat) (id : String) (f : Nat) (h : (w n).connection id = some f) :
    ∃ c, (w n).signaled f = some c ∧ c.remoteId = id
  known (n : Nat) (r l : String) (m : Nat) (h : (w n).channel r l = some m) :
    client r ∧ client l ∧ ∃ v, (w n).drawn m = some v
  drawn_lt (n m : Nat) (v : Nat × String) (h : (w n).drawn m = some v) : m < fresh
  one_page (n n' m : Nat) (v v' : Nat × String) (h : (w n).drawn m = some v)
    (h' : (w n').drawn m = some v') : n = n'
  met (m m' : Nat) (h : (m, m') ∈ ends) : ∃ n n' v v', (w n).drawn m = some v ∧
    (w n').drawn m' = some v' ∧ Wiring.Linked W w n v.1 n' v'.1

namespace Wired

variable {W : WebRtc} {client client' : String → Prop} {w : Nat → Wiring}
  {ends : List (Nat × Nat)} {fresh n e : Nat}

theorem mono (h : Wired W client w ends fresh) (hclient : ∀ id, client id → client' id)
    {fresh' : Nat} (hfresh : fresh ≤ fresh') : Wired W client' w ends fresh' where
  keyed := h.keyed
  known n r l m hm := by
    obtain ⟨hr, hl, hv⟩ := h.known n r l m hm
    exact ⟨hclient r hr, hclient l hl, hv⟩
  drawn_lt n m v hv := Nat.lt_of_lt_of_le (h.drawn_lt n m v hv) hfresh
  one_page := h.one_page
  met := h.met

/-- Connections that know each other go on to do so, if their descriptions stay. -/
theorem linked_mono {w' : Nat → Wiring} {n e n' e' : Nat}
    (hkeeps : ∀ n e c, (w n).signaled e = some c → c.remoteDescription ≠ none →
      ∃ c', (w' n).signaled e = some c' ∧ c'.remoteDescription = c.remoteDescription)
    (h : Wiring.Linked W w n e n' e') : Wiring.Linked W w' n e n' e' := by
  have hagreed : ∀ n e n' e', Wiring.Agreed W w n e n' e' → Wiring.Agreed W w' n e n' e' := by
    rintro n e n' e' ⟨c, c', hc, hc', hoffer, hanswer⟩
    obtain ⟨d, hd, heq⟩ := hkeeps n e c hc (by simp [hanswer])
    obtain ⟨d', hd', heq'⟩ := hkeeps n' e' c' hc' (by simp [hoffer])
    exact ⟨d, d', hd, hd', heq'.trans hoffer, heq.trans hanswer⟩
  exact h.imp (hagreed _ _ _ _) (hagreed _ _ _ _)

theorem addConnection (h : Wired W client w ends fresh) {c : RTCPeerConnection}
    (hnew : (w n).signaled e = none) :
    Wired W client (Function.update w n ((w n).addConnection e c)) ends fresh := by
  have hsignaled : ∀ n' e' c', (w n').signaled e' = some c' →
      (Function.update w n ((w n).addConnection e c) n').signaled e' = some c' := by
    intro n' e' c' hc'
    rw [Wiring.signaled_addConnection, if_neg]
    · exact hc'
    · rintro ⟨rfl, rfl⟩
      rw [hnew] at hc'
      cases hc'
  constructor
  · intro n' id f hf
    rw [Wiring.connection_addConnection] at hf
    split_ifs at hf with heq
    · cases hf
      refine ⟨c.signaled, ?_, heq.2.symm⟩
      rw [Wiring.signaled_addConnection, if_pos ⟨heq.1, rfl⟩]
    · obtain ⟨c', hc', hremote⟩ := h.keyed n' id f hf
      exact ⟨c', hsignaled n' f c' hc', hremote⟩
  · simpa using h.known
  · simpa using h.drawn_lt
  · simpa using h.one_page
  · intro m m' hm
    obtain ⟨n₁, n₂, v, v', hv, hv', hlinked⟩ := h.met m m' hm
    refine ⟨n₁, n₂, v, v', by simpa using hv, by simpa using hv', ?_⟩
    exact linked_mono (fun n' e' c' hc' _ => ⟨c', hsignaled n' e' c' hc', rfl⟩) hlinked

theorem addChannel (h : Wired W client w ends fresh) {f : Nat} {label r l : String}
    (hr : client r) (hl : client l) :
    Wired W client (Function.update w n ((w n).addChannel fresh f label r l)) ends
      (fresh + 1) := by
  have hdrawn : ∀ n' m v, (w n').drawn m = some v →
      (Function.update w n ((w n).addChannel fresh f label r l) n').drawn m = some v := by
    intro n' m v hv
    rw [Wiring.drawn_addChannel, if_neg]
    · exact hv
    · rintro ⟨-, rfl⟩
      exact absurd (h.drawn_lt n' m v hv) (Nat.lt_irrefl m)
  have hold : ∀ n' m v,
      (Function.update w n ((w n).addChannel fresh f label r l) n').drawn m = some v →
      n' = n ∧ m = fresh ∨ (w n').drawn m = some v := by
    intro n' m v hv
    rw [Wiring.drawn_addChannel] at hv
    split_ifs at hv with heq
    · exact .inl heq
    · exact .inr hv
  constructor
  · simpa using h.keyed
  · intro n' r' l' m hm
    rw [Wiring.channel_addChannel] at hm
    split_ifs at hm with heq
    · obtain ⟨rfl, rfl, rfl⟩ := heq
      cases hm
      refine ⟨hr, hl, (f, label), ?_⟩
      rw [Wiring.drawn_addChannel, if_pos ⟨rfl, rfl⟩]
    · obtain ⟨hr', hl', v, hv⟩ := h.known n' r' l' m hm
      exact ⟨hr', hl', v, hdrawn n' m v hv⟩
  · intro n' m v hv
    rcases hold n' m v hv with ⟨-, rfl⟩ | hv
    · exact Nat.lt_succ_self m
    · exact Nat.lt_succ_of_lt (h.drawn_lt n' m v hv)
  · intro n₁ n₂ m v v' hv hv'
    rcases hold n₁ m v hv with ⟨rfl, rfl⟩ | hold₁
    · rcases hold n₂ m v' hv' with ⟨rfl, -⟩ | hold₂
      · rfl
      · exact absurd (h.drawn_lt n₂ m v' hold₂) (Nat.lt_irrefl m)
    · rcases hold n₂ m v' hv' with ⟨-, rfl⟩ | hold₂
      · exact absurd (h.drawn_lt n₁ m v hold₁) (Nat.lt_irrefl m)
      · exact h.one_page n₁ n₂ m v v' hold₁ hold₂
  · intro m m' hm
    obtain ⟨n₁, n₂, v, v', hv, hv', hlinked⟩ := h.met m m' hm
    refine ⟨n₁, n₂, v, v', hdrawn n₁ m v hv, hdrawn n₂ m' v' hv', ?_⟩
    refine linked_mono (fun n' e' c' hc' _ => ⟨c', ?_, rfl⟩) hlinked
    rwa [Wiring.signaled_addChannel]

theorem addOffer (h : Wired W client w ends fresh) {c : RTCPeerConnection}
    {label r l : String} (hnew : (w n).signaled fresh = none) (hr : client r) (hl : client l) :
    Wired W client (Function.update w n
      (((w n).addConnection fresh c).addChannel fresh fresh label r l)) ends (fresh + 1) := by
  rw [Wiring.addConnection_addChannel]
  exact (h.addConnection hnew).addChannel hr hl

theorem update (h : Wired W client w ends fresh) {g : RTCPeerConnection → RTCPeerConnection}
    (hremote : ∀ c, (g c).remoteId = c.remoteId)
    (hdescription : ∀ c, (w n).signaled e = some c → c.remoteDescription ≠ none →
      (g c).remoteDescription = c.remoteDescription) :
    Wired W client (Function.update w n ((w n).update e g)) ends fresh := by
  constructor
  · intro n' id f hf
    rw [Wiring.connection_update] at hf
    obtain ⟨c, hc, hid⟩ := h.keyed n' id f hf
    rw [Wiring.signaled_update]
    split_ifs
    · exact ⟨g c, by rw [hc, Option.map_some], (hremote c).trans hid⟩
    · exact ⟨c, hc, hid⟩
  · simpa using h.known
  · simpa using h.drawn_lt
  · simpa using h.one_page
  · intro m m' hm
    obtain ⟨n₁, n₂, v, v', hv, hv', hlinked⟩ := h.met m m' hm
    refine ⟨n₁, n₂, v, v', by simpa using hv, by simpa using hv', ?_⟩
    refine linked_mono (fun n' e' c hc hsome => ?_) hlinked
    rw [Wiring.signaled_update]
    split_ifs with heq
    · obtain ⟨rfl, rfl⟩ := heq
      exact ⟨g c, by rw [hc, Option.map_some], hdescription c hc hsome⟩
    · exact ⟨c, hc, rfl⟩

theorem addEnds (h : Wired W client w ends fresh) {m m' n n' : Nat} {v v' : Nat × String}
    (hv : (w n).drawn m = some v) (hv' : (w n').drawn m' = some v')
    (hlinked : Wiring.Linked W w n v.1 n' v'.1) :
    Wired W client w (ends ++ [(m, m')]) fresh where
  keyed := h.keyed
  known := h.known
  drawn_lt := h.drawn_lt
  one_page := h.one_page
  met a a' ha := by
    rcases List.mem_append.mp ha with ha | ha
    · exact h.met a a' ha
    · cases List.mem_singleton.mp ha
      exact ⟨n, n', v, v', hv, hv', hlinked⟩

end Wired

end Unisockets.Transport
