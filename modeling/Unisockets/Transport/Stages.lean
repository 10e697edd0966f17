import Unisockets.Transport.Wiring

/-!
# The stages of two clients

When a client joins, every other one is greeted with it and may make it an offer.
`Stage` says how far this has come for two of them, with one stage for each await:
the offer and the answer are on their way until both connections know each other
(`linked`), unless the page of the first has a connection to the second already, on
which a channel is created instead of an offer (`borrowed`), or the page of the
second has one to the first when the offer arrives, on which it creates a channel
instead of an answer (`refused`).

`Stage.Holds` is what the wiring of the two pages is in a stage.  It does not
change when something else happens on the pages, which is what the lemmas about it
say: a new connection for another pair of ids, a new channel for other clients, and
an update of another connection.
-/

namespace Unisockets.Transport

open JsStd Signaling Transition

/-- Two clients: `x` is greeted with `y`. -/
structure Pair where
  tx : Nat
  x : String
  sx : Socket
  ty : Nat
  y : String
  sy : Socket
  deriving DecidableEq

/-- The other order. -/
def Pair.swap (k : Pair) : Pair := ⟨k.ty, k.y, k.sy, k.tx, k.x, k.sx⟩

inductive Stage where
  | greeting
  | greeted
  | offerCreating (e : Nat)
  | offerSent (e : Nat)
  | offerReceived (e : Nat)
  | offerForwarded (e : Nat)
  | offered (e : Nat)
  | offerDescribing (e e' : Nat)
  | answerCreating (e e' : Nat)
  | answerCreated (e e' : Nat)
  | answerSent (e e' : Nat)
  | answerReceived (e e' : Nat)
  | answerForwarded (e e' : Nat)
  | answered (e e' : Nat)
  | answerDescribing (e e' : Nat)
  | linked (e e' : Nat)
  /-- The channel `m` is created on `f` instead of an offer. -/
  | borrowed (f m : Nat)
  /-- The channel `m` is created on `f` instead of an answer to the offer of `e`. -/
  | refused (e f m : Nat)
  deriving DecidableEq

namespace Stage

/-- The task that is on its way. -/
def task (W : WebRtc) (k : Pair) : Stage → Option RunnerTask
  | greeting => some (.onmessage k.sx (.greeting ⟨k.x, k.y⟩) none)
  | greeted => some (.handleOffer k.tx k.y k.x k.x)
  | offerCreating e => some (.offerCreating k.tx k.y k.x e)
  | offerSent e => some (.sendWRTCconfig k.tx (.offer ⟨k.x, k.y, W.offer e⟩) none)
  | offerReceived e => some (.received k.sx (.offer ⟨k.x, k.y, W.offer e⟩) none)
  | offerForwarded e => some (.onmessage k.sy (.offer ⟨k.x, k.y, W.offer e⟩) none)
  | offered e => some (.getAnswer k.ty k.y k.x k.y (W.offer e))
  | offerDescribing e e' => some (.offerDescribing k.ty k.y k.x k.y (W.offer e) e')
  | answerCreating _ e' => some (.answerCreating k.ty k.y k.x k.y e')
  | answerCreated _ e' => some (.answerCreated k.ty k.y k.x k.y e')
  | answerSent _ e' => some (.sendWRTCconfig k.ty (.answer ⟨k.x, k.y, W.answer e'⟩) none)
  | answerReceived _ e' => some (.received k.sy (.answer ⟨k.x, k.y, W.answer e'⟩) none)
  | answerForwarded _ e' => some (.onmessage k.sx (.answer ⟨k.x, k.y, W.answer e'⟩) none)
  | answered _ e' => some (.handleAnswer k.tx k.y (W.answer e'))
  | answerDescribing e e' => some (.answerDescribing k.tx k.y (W.answer e') e)
  | linked .. | borrowed .. | refused .. => none

/-- The connection that made the offer. -/
def offer : Stage → Option Nat
  | greeting | greeted | borrowed .. => none
  | offerCreating e | offerSent e | offerReceived e | offerForwarded e | offered e => some e
  | offerDescribing e _ | answerCreating e _ | answerCreated e _ | answerSent e _
  | answerReceived e _ | answerForwarded e _ | answered e _ | answerDescribing e _
  | linked e _ => some e
  | refused e _ _ => some e

/-- The connection that makes the answer. -/
def answer : Stage → Option Nat
  | offerDescribing _ e' | answerCreating _ e' | answerCreated _ e' | answerSent _ e'
  | answerReceived _ e' | answerForwarded _ e' | answered _ e' | answerDescribing _ e'
  | linked _ e' => some e'
  | _ => none

/-- The description that the connection with the offer has got. -/
def answerDescription (W : WebRtc) : Stage → Option String
  | linked _ e' => some (W.answer e')
  | _ => none

/-- The description that the connection with the answer has got. -/
def offerDescription (W : WebRtc) : Stage → Option String
  | answerCreating e _ | answerCreated e _ | answerSent e _ | answerReceived e _
  | answerForwarded e _ | answered e _ | answerDescribing e _ | linked e _ => some (W.offer e)
  | _ => none

/-- Whether the connection with the answer takes channels. -/
def listens : Stage → Bool
  | answerSent .. | answerReceived .. | answerForwarded .. | answered .. | answerDescribing ..
  | linked .. => true
  | _ => false

/-- The channel that the page of `x` has created, and its connection. -/
def first : Stage → Option (Nat × Nat)
  | borrowed f m => some (m, f)
  | s => s.offer.map fun e => (e, e)

theorem first_of_offer {s : Stage} {e : Nat} (h : s.offer = some e) : s.first = some (e, e) := by
  cases s <;> cases h <;> rfl

/-- The channel that the page of `y` has created, and its connection. -/
def second : Stage → Option (Nat × Nat)
  | refused _ f m => some (m, f)
  | _ => none

/-- The connection on which a channel has been created instead of an offer or an
answer. -/
def shared : Stage → Option Nat
  | borrowed f _ => some f
  | refused _ f _ => some f
  | _ => none

/-- The connection whose offer was refused. -/
def refusedOffer : Stage → Option Nat
  | refused e _ _ => some e
  | _ => none

/-! ## What the pages look like -/

/-- The channel of a page for the other client: its own one until the one that the
other page has created shows up. -/
def Shown (ends : List (Nat × Nat)) (created : Option (Nat × Nat)) (own channel : Option Nat) :
    Prop :=
  (∀ m f m', created = some (m, f) → (m, m') ∉ ends) ∧ channel = own ∨
    ∃ m f m', created = some (m, f) ∧ (m, m') ∈ ends ∧ channel = some m'

/-- The connections and channels of the two clients in a stage. -/
structure Holds (W : WebRtc) (page : Nat → Nat) (k : Pair) (s : Stage) (w : Nat → Wiring)
    (ends : List (Nat × Nat)) : Prop where
  offer (e : Nat) (he : s.offer = some e) : (w (page k.tx)).signaled e = some {
    remoteId := k.y
    onicecandidate := ⟨k.tx, k.x, k.y⟩
    ondatachannel := some k.x
    remoteDescription := s.answerDescription W }
  answer (e : Nat) (he : s.answer = some e) : (w (page k.ty)).signaled e = some {
    remoteId := k.x
    onicecandidate := ⟨k.ty, k.x, k.y⟩
    ondatachannel := if s.listens then some k.y else none
    remoteDescription := s.offerDescription W }
  first (m f : Nat) (hm : s.first = some (m, f)) :
    (w (page k.tx)).drawn m = some (f, k.x) ∧ (w (page k.tx)).connection k.y = some f ∧
      ∀ m', (m', m) ∉ ends
  second (m f : Nat) (hm : s.second = some (m, f)) :
    (w (page k.ty)).drawn m = some (f, k.y) ∧ (w (page k.ty)).connection k.x = some f ∧
      ∀ m', (m', m) ∉ ends
  offererChannel : Shown ends s.second (s.first.map Prod.fst) ((w (page k.tx)).channel k.y k.x)
  answererChannel : Shown ends s.first (s.second.map Prod.fst) ((w (page k.ty)).channel k.x k.y)

section Holds

variable {W : WebRtc} {page : Nat → Nat} {k : Pair} {s : Stage} {w : Nat → Wiring}
  {ends : List (Nat × Nat)} {n e e' : Nat}

/-- The wiring may change where the stage says nothing. -/
theorem Holds.congr (h : Holds W page k s w ends) {w' : Nat → Wiring}
    (hsignaled : ∀ n e c, (w n).signaled e = some c →
      n = page k.tx ∧ s.offer = some e ∨ n = page k.ty ∧ s.answer = some e →
      (w' n).signaled e = some c)
    (hdrawn : ∀ n m v, (w n).drawn m = some v → (w' n).drawn m = some v)
    (hconnection : ∀ n id f, (w n).connection id = some f → (w' n).connection id = some f)
    (hofferer : (w' (page k.tx)).channel k.y k.x = (w (page k.tx)).channel k.y k.x)
    (hanswerer : (w' (page k.ty)).channel k.x k.y = (w (page k.ty)).channel k.x k.y) :
    Holds W page k s w' ends where
  offer e he := hsignaled _ e _ (h.offer e he) (.inl ⟨rfl, he⟩)
  answer e he := hsignaled _ e _ (h.answer e he) (.inr ⟨rfl, he⟩)
  first m f hm := by
    obtain ⟨hd, hc, hends⟩ := h.first m f hm
    exact ⟨hdrawn _ m _ hd, hconnection _ _ f hc, hends⟩
  second m f hm := by
    obtain ⟨hd, hc, hends⟩ := h.second m f hm
    exact ⟨hdrawn _ m _ hd, hconnection _ _ f hc, hends⟩
  offererChannel := by
    rw [hofferer]
    exact h.offererChannel
  answererChannel := by
    rw [hanswerer]
    exact h.answererChannel

/-- A page gets a connection to an id that it had none to. -/
theorem Holds.addConnection (h : Holds W page k s w ends) {e : Nat} {c : RTCPeerConnection}
    (hnone : (w n).connection c.remoteId = none) (hfresh : (w n).signaled e = none) :
    Holds W page k s (Function.update w n ((w n).addConnection e c)) ends := by
  apply h.congr
  · intro n' e' c' hc' _
    rw [Wiring.signaled_addConnection, if_neg]
    · exact hc'
    · rintro ⟨rfl, rfl⟩
      rw [hfresh] at hc'
      cases hc'
  · simp
  · intro n' id f hf
    rw [Wiring.connection_addConnection, if_neg]
    · exact hf
    · rintro ⟨rfl, rfl⟩
      rw [hnone] at hf
      cases hf
  · simp
  · simp

/-- A channel for other clients. -/
theorem Holds.addChannel (h : Holds W page k s w ends) {m f : Nat} {label r l : String}
    (hfresh : (w n).drawn m = none) (hofferer : ¬(n = page k.tx ∧ r = k.y ∧ l = k.x))
    (hanswerer : ¬(n = page k.ty ∧ r = k.x ∧ l = k.y)) :
    Holds W page k s (Function.update w n ((w n).addChannel m f label r l)) ends := by
  apply h.congr
  · intro n' e' c' hc' _
    rwa [Wiring.signaled_addChannel]
  · exact fun n' m' v hv => Wiring.drawn_addChannel_of_fresh _ _ _ _ _ hfresh hv
  · simp
  · rw [Wiring.channel_addChannel, if_neg]
    rintro ⟨hn, hr, hl⟩
    exact hofferer ⟨hn.symm, hr.symm, hl.symm⟩
  · rw [Wiring.channel_addChannel, if_neg]
    rintro ⟨hn, hr, hl⟩
    exact hanswerer ⟨hn.symm, hr.symm, hl.symm⟩

/-- A connection with a channel, for other clients. -/
theorem Holds.addOffer (h : Holds W page k s w ends) {m f : Nat} {c : RTCPeerConnection}
    {label r l : String} (hnone : (w n).connection c.remoteId = none)
    (hsignaled : (w n).signaled e = none) (hdrawn : (w n).drawn m = none)
    (hofferer : ¬(n = page k.tx ∧ r = k.y ∧ l = k.x))
    (hanswerer : ¬(n = page k.ty ∧ r = k.x ∧ l = k.y)) :
    Holds W page k s (Function.update w n
      (((w n).addConnection e c).addChannel m f label r l)) ends := by
  rw [Wiring.addConnection_addChannel]
  refine (h.addConnection hnone hsignaled).addChannel ?_ hofferer hanswerer
  rwa [Wiring.drawn_addConnection]

/-- An update of another connection. -/
theorem Holds.update (h : Holds W page k s w ends) {e : Nat}
    {f : RTCPeerConnection → RTCPeerConnection}
    (hofferer : ¬(n = page k.tx ∧ s.offer = some e))
    (hanswerer : ¬(n = page k.ty ∧ s.answer = some e)) :
    Holds W page k s (Function.update w n ((w n).update e f)) ends := by
  apply h.congr
  · intro n' e' c' hc' hown
    rw [Wiring.signaled_update, if_neg]
    · exact hc'
    · rintro ⟨rfl, rfl⟩
      exact hown.elim hofferer hanswerer
  · simp
  · simp
  · simp
  · simp

theorem Shown.addEnds {created : Option (Nat × Nat)} {own channel : Option Nat} {m m' : Nat}
    (h : Shown ends created own channel) (hm : ∀ f, created ≠ some (m, f)) :
    Shown (ends ++ [(m, m')]) created own channel := by
  rcases h with ⟨hnone, hown⟩ | ⟨n, f, n', hcreated, hmem, hchannel⟩
  · refine .inl ⟨fun n f n' hcreated hmem => ?_, hown⟩
    rcases List.mem_append.mp hmem with hmem | hmem
    · exact hnone n f n' hcreated hmem
    · cases List.mem_singleton.mp hmem
      exact hm f hcreated
  · exact .inr ⟨n, f, n', hcreated, List.mem_append_left _ hmem, hchannel⟩

/-- Two channels meet, and a channel that was there has not shown up because of it. -/
theorem not_mem_addEnds {m m' a : Nat} {v : Nat × String} (hfresh : (w n).drawn m' = none)
    (hd : (w n).drawn a = some v) (ha : ∀ b, (b, a) ∉ ends) (b : Nat) :
    (b, a) ∉ ends ++ [(m, m')] := by
  intro hb
  rcases List.mem_append.mp hb with hb | hb
  · exact ha b hb
  · cases List.mem_singleton.mp hb
    rw [hfresh] at hd
    cases hd

/-- The ends of another channel meet. -/
theorem Holds.addEnds (h : Holds W page k s w ends) {m m' : Nat}
    (hfirst : ∀ f, s.first ≠ some (m, f)) (hsecond : ∀ f, s.second ≠ some (m, f))
    (hfresh : ∀ n, (w n).drawn m' = none) : Holds W page k s w (ends ++ [(m, m')]) where
  offer := h.offer
  answer := h.answer
  first a f ha := by
    obtain ⟨hd, hc, hends⟩ := h.first a f ha
    exact ⟨hd, hc, not_mem_addEnds (hfresh _) hd hends⟩
  second a f ha := by
    obtain ⟨hd, hc, hends⟩ := h.second a f ha
    exact ⟨hd, hc, not_mem_addEnds (hfresh _) hd hends⟩
  offererChannel := h.offererChannel.addEnds hsecond
  answererChannel := h.answererChannel.addEnds hfirst

/-! ## From one stage to the next -/

/-- The next stage says the same of the pages. -/
theorem Holds.forward (h : Holds W page k s w ends) {s' : Stage} (hoffer : s'.offer = s.offer)
    (hanswer : s'.answer = s.answer)
    (hanswerDescription : s'.answerDescription W = s.answerDescription W)
    (hofferDescription : s'.offerDescription W = s.offerDescription W)
    (hlistens : s'.listens = s.listens) (hfirst : s'.first = s.first)
    (hsecond : s'.second = s.second) : Holds W page k s' w ends where
  offer e he := by
    rw [hanswerDescription]
    exact h.offer e (hoffer.symm.trans he)
  answer e he := by
    rw [hofferDescription, hlistens]
    exact h.answer e (hanswer.symm.trans he)
  first m f hm := h.first m f (hfirst.symm.trans hm)
  second m f hm := h.second m f (hsecond.symm.trans hm)
  offererChannel := by
    rw [hfirst, hsecond]
    exact h.offererChannel
  answererChannel := by
    rw [hfirst, hsecond]
    exact h.answererChannel

/-- The connection that makes the answer gets its description or its `ondatachannel`. -/
theorem Holds.updateAnswer (h : Holds W page k s w ends) (hne : k.tx ≠ k.ty) {s' : Stage}
    {e : Nat} (he : s.answer = some e) {g : RTCPeerConnection → RTCPeerConnection}
    (hg : g {
        remoteId := k.x
        onicecandidate := ⟨k.ty, k.x, k.y⟩
        ondatachannel := if s.listens then some k.y else none
        remoteDescription := s.offerDescription W } = {
        remoteId := k.x
        onicecandidate := ⟨k.ty, k.x, k.y⟩
        ondatachannel := if s'.listens then some k.y else none
        remoteDescription := s'.offerDescription W })
    (hoffer : s'.offer = s.offer) (hanswer : s'.answer = s.answer)
    (hanswerDescription : s'.answerDescription W = s.answerDescription W)
    (hfirst : s'.first = s.first) (hsecond : s'.second = s.second) :
    Holds W page k s' (Function.update w (page k.ty) ((w (page k.ty)).update e g)) ends := by
  constructor
  · intro e' he'
    rw [hoffer] at he'
    have hold := h.offer e' he'
    rw [hanswerDescription, Wiring.signaled_update, if_neg]
    · exact hold
    · rintro ⟨hpage, rfl⟩
      have hans := h.answer e' he
      rw [← hpage, hold] at hans
      exact hne (congrArg (fun c => c.onicecandidate.thread) (Option.some.inj hans))
  · intro e' he'
    rw [hanswer, he] at he'
    obtain rfl := Option.some.inj he'
    rw [Wiring.signaled_update, if_pos ⟨rfl, rfl⟩, h.answer e he, Option.map_some, hg]
  · simpa [hfirst] using h.first
  · simpa [hsecond] using h.second
  · simpa [hfirst, hsecond] using h.offererChannel
  · simpa [hfirst, hsecond] using h.answererChannel

/-- The connection that has made the offer gets the answer. -/
theorem Holds.link (h : Holds W page k (.answerDescribing e e') w ends) (hne : k.tx ≠ k.ty) :
    Holds W page k (.linked e e')
      (Function.update w (page k.tx) ((w (page k.tx)).describe e (W.answer e'))) ends where
  offer a ha := by
    have hold := h.offer a ha
    cases ha
    rw [Wiring.describe, Wiring.signaled_update, if_pos ⟨rfl, rfl⟩, hold]
    rfl
  answer a ha := by
    have hold := h.answer a ha
    rw [Wiring.describe, Wiring.signaled_update, if_neg]
    · exact hold
    · rintro ⟨hpage, rfl⟩
      have hoff := h.offer a rfl
      rw [← hpage, hold] at hoff
      exact hne (congrArg (fun c => c.onicecandidate.thread) (Option.some.inj hoff)).symm
  first m f hm := by simpa [Wiring.describe] using h.first m f hm
  second m f hm := by cases hm
  offererChannel := by
    rw [Wiring.describe, Wiring.channel_update]
    exact h.offererChannel
  answererChannel := by
    rw [Wiring.describe, Wiring.channel_update]
    exact h.answererChannel

/-- `x` makes `y` an offer. -/
theorem Holds.makeOffer (h : Holds W page k .greeted w ends) (hne : k.x ≠ k.y)
    (hdrawn : ∀ m', (m', e) ∉ ends) (hends : ∀ m', (e, m') ∉ ends) :
    Holds W page k (.offerCreating e)
      (Function.update w (page k.tx) (((w (page k.tx)).addConnection e {
        remoteId := k.y
        onicecandidate := ⟨k.tx, k.x, k.y⟩
        ondatachannel := some k.x }).addChannel e e k.x k.y k.x)) ends where
  offer a ha := by
    cases ha
    simp [Wiring.addConnection, Wiring.addChannel, RTCPeerConnection.signaled,
      answerDescription]
  answer a ha := by cases ha
  first m f hm := by
    cases hm
    simpa [Wiring.addConnection, Wiring.addChannel] using hdrawn
  second m f hm := by cases hm
  offererChannel := by
    refine .inl ⟨by simp [Stage.second], ?_⟩
    simp [Wiring.addConnection, Wiring.addChannel, Stage.first, Stage.offer]
  answererChannel := by
    have hnone : (w (page k.ty)).channel k.x k.y = none := by
      rcases h.answererChannel with ⟨-, hnone⟩ | ⟨m, f, m', hm, -⟩
      · exact hnone
      · cases hm
    refine .inl ⟨?_, ?_⟩
    · rintro m f m' hm
      cases hm
      exact hends m'
    · by_cases hpage : page k.ty = page k.tx
      · rw [hpage] at hnone ⊢
        simp [Wiring.addConnection, Wiring.addChannel, Stage.second, hne, hnone]
      · rw [Function.update_of_ne hpage, hnone]
        rfl

/-- The page of `x` has a connection to `y`. -/
theorem Holds.borrow (h : Holds W page k .greeted w ends) (hne : k.x ≠ k.y) {f m : Nat}
    (hf : (w (page k.tx)).connection k.y = some f) (hdrawn : ∀ m', (m', m) ∉ ends)
    (hends : ∀ m', (m, m') ∉ ends) :
    Holds W page k (.borrowed f m)
      (Function.update w (page k.tx) ((w (page k.tx)).addChannel m f k.x k.y k.x)) ends where
  offer a ha := by cases ha
  answer a ha := by cases ha
  first a g ha := by
    cases ha
    rw [Wiring.drawn_addChannel, if_pos ⟨rfl, rfl⟩, Wiring.connection_addChannel]
    exact ⟨rfl, hf, hdrawn⟩
  second a g ha := by cases ha
  offererChannel := by
    refine .inl ⟨by simp [Stage.second], ?_⟩
    rw [Wiring.channel_addChannel, if_pos ⟨rfl, rfl, rfl⟩]
    rfl
  answererChannel := by
    refine .inl ⟨?_, ?_⟩
    · rintro a g m' ha
      cases ha
      exact hends m'
    · rw [Wiring.channel_addChannel, if_neg fun hk => hne hk.2.1]
      rcases h.answererChannel with ⟨-, hnone⟩ | ⟨a, g, m', ha, -⟩
      · exact hnone
      · cases ha

/-- `y` takes the offer. -/
theorem Holds.takeOffer (h : Holds W page k (.offered e) w ends)
    (hnone : (w (page k.ty)).connection k.x = none)
    (hfresh : (w (page k.ty)).signaled e' = none) :
    Holds W page k (.offerDescribing e e')
      (Function.update w (page k.ty) ((w (page k.ty)).addConnection e' {
        remoteId := k.x
        onicecandidate := ⟨k.ty, k.x, k.y⟩ })) ends := by
  have hrest := h.addConnection (n := page k.ty) (e := e') (c := {
    remoteId := k.x
    onicecandidate := ⟨k.ty, k.x, k.y⟩ }) hnone hfresh
  refine ⟨hrest.offer, ?_, hrest.first, fun m f hm => (by cases hm), hrest.offererChannel,
    hrest.answererChannel⟩
  intro a ha
  cases ha
  rw [Wiring.signaled_addConnection, if_pos ⟨rfl, rfl⟩]
  rfl

/-- The page of `y` has a connection to `x`. -/
theorem Holds.refuse (h : Holds W page k (.offered e) w ends) (hne : k.x ≠ k.y) {f m : Nat}
    (hf : (w (page k.ty)).connection k.x = some f) (hfresh : (w (page k.ty)).drawn m = none)
    (hdrawn : ∀ m', (m', m) ∉ ends) (hends : ∀ m', (m, m') ∉ ends)
    (hown : ∀ m', (e, m') ∉ ends) :
    Holds W page k (.refused e f m)
      (Function.update w (page k.ty) ((w (page k.ty)).addChannel m f k.y k.x k.y)) ends where
  offer a ha := by
    rw [Wiring.signaled_addChannel]
    exact h.offer a ha
  answer a ha := by cases ha
  first a g ha := by
    obtain ⟨hd, hc, ha'⟩ := h.first a g ha
    exact ⟨Wiring.drawn_addChannel_of_fresh _ _ _ _ _ hfresh hd,
      by rwa [Wiring.connection_addChannel], ha'⟩
  second a g ha := by
    cases ha
    rw [Wiring.drawn_addChannel, if_pos ⟨rfl, rfl⟩, Wiring.connection_addChannel]
    exact ⟨rfl, hf, hdrawn⟩
  offererChannel := by
    refine .inl ⟨?_, ?_⟩
    · rintro a g m' ha
      cases ha
      exact hends m'
    · rw [Wiring.channel_addChannel, if_neg fun hk => hne hk.2.2]
      rcases h.offererChannel with ⟨-, hown⟩ | ⟨a, g, m', ha, -⟩
      · exact hown
      · cases ha
  answererChannel := by
    refine .inl ⟨?_, ?_⟩
    · rintro a g m' ha
      cases ha
      exact hown m'
    · rw [Wiring.channel_addChannel, if_pos ⟨rfl, rfl, rfl⟩]
      rfl

end Holds

/-! ## A channel shows up -/

section Show

variable {W : WebRtc} {page : Nat → Nat} {k : Pair} {s : Stage} {w : Nat → Wiring}
  {ends : List (Nat × Nat)} {m m' f f' : Nat}

/-- The channel of `x` shows up at the page of `y`. -/
theorem Holds.showFirst (h : Holds W page k s w ends) (hne : k.x ≠ k.y)
    (hfirst : s.first = some (m, f)) (hsecond : s.second = none)
    (hfresh : ∀ n, (w n).drawn m' = none) :
    Holds W page k s (Function.update w (page k.ty)
      ((w (page k.ty)).addChannel m' f' k.x k.x k.y)) (ends ++ [(m, m')]) := by
  constructor
  · intro e he
    rw [Wiring.signaled_addChannel]
    exact h.offer e he
  · intro e he
    rw [Wiring.signaled_addChannel]
    exact h.answer e he
  · intro a g ha
    obtain ⟨hd, hc, hends⟩ := h.first a g ha
    exact ⟨Wiring.drawn_addChannel_of_fresh _ _ _ _ _ (hfresh _) hd,
      by rwa [Wiring.connection_addChannel], not_mem_addEnds (hfresh _) hd hends⟩
  · intro a g ha
    rw [hsecond] at ha
    cases ha
  · rw [Wiring.channel_addChannel, if_neg fun hk => hne hk.2.2]
    refine h.offererChannel.addEnds ?_
    simp [hsecond]
  · refine .inr ⟨m, f, m', hfirst, by simp, ?_⟩
    rw [Wiring.channel_addChannel, if_pos ⟨rfl, rfl, rfl⟩]

/-- The channel of `y` shows up at the page of `x`. -/
theorem Holds.showSecond (h : Holds W page k s w ends) (hne : k.x ≠ k.y)
    (hsecond : s.second = some (m, f)) (hfirst : ∀ g, s.first ≠ some (m, g))
    (hfresh : ∀ n, (w n).drawn m' = none) :
    Holds W page k s (Function.update w (page k.tx)
      ((w (page k.tx)).addChannel m' f' k.y k.y k.x)) (ends ++ [(m, m')]) := by
  constructor
  · intro e he
    rw [Wiring.signaled_addChannel]
    exact h.offer e he
  · intro e he
    rw [Wiring.signaled_addChannel]
    exact h.answer e he
  · intro a g ha
    obtain ⟨hd, hc, hends⟩ := h.first a g ha
    exact ⟨Wiring.drawn_addChannel_of_fresh _ _ _ _ _ (hfresh _) hd,
      by rwa [Wiring.connection_addChannel], not_mem_addEnds (hfresh _) hd hends⟩
  · intro a g ha
    obtain ⟨hd, hc, hends⟩ := h.second a g ha
    exact ⟨Wiring.drawn_addChannel_of_fresh _ _ _ _ _ (hfresh _) hd,
      by rwa [Wiring.connection_addChannel], not_mem_addEnds (hfresh _) hd hends⟩
  · refine .inr ⟨m, f, m', hsecond, by simp, ?_⟩
    rw [Wiring.channel_addChannel, if_pos ⟨rfl, rfl, rfl⟩]
  · rw [Wiring.channel_addChannel, if_neg fun hk => hne hk.2.1]
    exact h.answererChannel.addEnds hfirst

end Show

end Stage

end Unisockets.Transport
