import Unisockets.Transport.Pairing

/-!
# The stages in a run

The remaining steps: a channel shows up at the other page, for the two clients that
it was created for, and a client joins, which everybody else is greeted with.  With
the tasks of `Staged.resume` and the steps that are about nobody, every run without
a disconnect has its stages (`RunnerRun.staged`).
-/

namespace Unisockets.Transport

open JsStd Signaling Transition

section Staged

variable {W : WebRtc} {page : Nat → Nat} {steps : List (RunnerPool × RunnerStep)}
  {p p' : RunnerPool}

/-! ## A channel shows up -/

theorem Stage.answerDescription_eq_some {s : Stage} {sdp : String}
    (h : s.answerDescription W = some sdp) : ∃ e e', s = .linked e e' ∧ W.answer e' = sdp := by
  cases s <;> cases h
  exact ⟨_, _, rfl, rfl⟩

theorem Stage.offerDescription_ne_answer {s : Stage} {e : Nat} :
    s.offerDescription W ≠ some (W.answer e) := by
  cases s <;> simp [Stage.offerDescription, W.offer_ne_answer]

/-- An offer and an answer that have been exchanged are those of two clients. -/
theorem Staged.agreed {g : Pair → Option Stage} (h : Staged W page g steps p)
    (hnumbered : p.state.Numbered) {n e n' e' : Nat}
    (hagreed : Wiring.Agreed W p.state.wiring n e n' e') :
    ∃ k, g k = some (.linked e e') ∧ n = page k.tx ∧ n' = page k.ty := by
  obtain ⟨c, c', hc, hc', hoffer, hanswer⟩ := hagreed
  obtain ⟨k, s, hs, ⟨rfl, he⟩ | ⟨rfl, he⟩⟩ := h.owned n e c hc
  · have hat := h.stage k s hs
    have heq := Option.some.inj (hc.symm.trans (hat.holds.offer e he))
    have hdescription : s.answerDescription W = some (W.answer e') := by
      rw [heq] at hanswer
      exact hanswer
    obtain ⟨a, b, rfl, hb⟩ := Stage.answerDescription_eq_some hdescription
    cases he
    obtain rfl := W.answer_injective hb
    exact ⟨k, hs, rfl, hnumbered.signaled hc' (hat.holds.answer b rfl)⟩
  · have hat := h.stage k s hs
    have heq := Option.some.inj (hc.symm.trans (hat.holds.answer e he))
    rw [heq] at hanswer
    exact absurd hanswer Stage.offerDescription_ne_answer

/-- The other end of a connection takes channels for the client that the connection
is with. -/
theorem Staged.peer {g : Pair → Option Stage} (h : Staged W page g steps p)
    (hnumbered : p.state.Numbered) {n e n' f : Nat} {c c' : RTCPeerConnection}
    {localId : String} (hlinked : Wiring.Linked W p.state.wiring n e n' f)
    (hc : (p.state.wiring n).signaled e = some c) (hlocal : c.ondatachannel = some localId)
    (hc' : (p.state.wiring n').signaled f = some c') :
    c'.remoteId = localId ∧ ∃ thread socket, p.state.Member thread localId socket ∧
      n = page thread := by
  rcases hlinked with hagreed | hagreed
  · obtain ⟨k, hs, rfl, rfl⟩ := h.agreed hnumbered hagreed
    have hat := h.stage k _ hs
    obtain rfl := Option.some.inj (hc.symm.trans (hat.holds.offer e rfl))
    obtain rfl := Option.some.inj (hc'.symm.trans (hat.holds.answer f rfl))
    cases hlocal
    exact ⟨rfl, k.tx, k.sx, hat.registered.offerer, rfl⟩
  · obtain ⟨k, hs, rfl, rfl⟩ := h.agreed hnumbered hagreed
    have hat := h.stage k _ hs
    obtain rfl := Option.some.inj (hc.symm.trans (hat.holds.answer e rfl))
    obtain rfl := Option.some.inj (hc'.symm.trans (hat.holds.offer f rfl))
    cases hlocal
    exact ⟨rfl, k.ty, k.sy, hat.registered.answerer, rfl⟩

/-- A channel of two clients is labelled with the one that created it and lies on a
connection to the other one. -/
theorem Staged.creates {g : Pair → Option Stage} {k : Pair} {s : Stage} {n m f : Nat}
    {label : String} (h : Staged W page g steps p) (hs : g k = some s)
    (hcreates : s.Creates page k n m f label) {c : RTCPeerConnection}
    (hc : (p.state.wiring n).signaled f = some c) :
    (p.state.wiring n).drawn m = some (f, label) ∧
      (label = k.x ∧ c.remoteId = k.y ∨ label = k.y ∧ c.remoteId = k.x) := by
  have hat := h.stage k s hs
  rcases hcreates with ⟨rfl, hm, rfl⟩ | ⟨rfl, hm, rfl⟩
  · obtain ⟨hdrawn, hconnection, -⟩ := hat.holds.first m f hm
    obtain ⟨c', hc', hremote⟩ := h.wired.keyed _ _ f hconnection
    obtain rfl := Option.some.inj (hc.symm.trans hc')
    exact ⟨hdrawn, .inl ⟨rfl, hremote⟩⟩
  · obtain ⟨hdrawn, hconnection, -⟩ := hat.holds.second m f hm
    obtain ⟨c', hc', hremote⟩ := h.wired.keyed _ _ f hconnection
    obtain rfl := Option.some.inj (hc.symm.trans hc')
    exact ⟨hdrawn, .inr ⟨rfl, hremote⟩⟩

/-- A channel has been created for one pair of clients only. -/
theorem Staged.creates_unique {g : Pair → Option Stage} {k k' : Pair} {s s' : Stage}
    {n n' m f f' : Nat} {label label' : String} (h : Staged W page g steps p)
    (hs : g k = some s) (hs' : g k' = some s') (hcreates : s.Creates page k n m f label)
    (hcreates' : s'.Creates page k' n' m f' label') {c : RTCPeerConnection}
    (hc : (p.state.wiring n).signaled f = some c) : k' = k := by
  obtain ⟨hdrawn, hclients⟩ := h.creates hs hcreates hc
  have hdrawn' : (p.state.wiring n').drawn m = some (f', label') := by
    have hat' := h.stage k' s' hs'
    rcases hcreates' with ⟨rfl, hm, rfl⟩ | ⟨rfl, hm, rfl⟩
    · exact (hat'.holds.first m f' hm).1
    · exact (hat'.holds.second m f' hm).1
  obtain rfl := h.wired.one_page _ _ _ _ _ hdrawn hdrawn'
  cases hdrawn.symm.trans hdrawn'
  obtain ⟨-, hclients'⟩ := h.creates hs' hcreates' hc
  have hk := (h.stage k s hs).registered
  have hk' := (h.stage k' s' hs').registered
  -- the same clients, in the same order: not both orders are in use
  have hswap : ¬(k'.x = k.y ∧ k'.y = k.x) := by
    rintro ⟨hx, hy⟩
    obtain rfl := hk'.ext hk.swap hx hy
    have hnone := h.once k s hs
    rw [hs'] at hnone
    cases hnone
  rcases hclients with ⟨hl, hr⟩ | ⟨hl, hr⟩
  · rcases hclients' with ⟨hl', hr'⟩ | ⟨hl', hr'⟩
    · exact hk'.ext hk (hl'.symm.trans hl) (hr'.symm.trans hr)
    · exact absurd ⟨hr'.symm.trans hr, hl'.symm.trans hl⟩ hswap
  · rcases hclients' with ⟨hl', hr'⟩ | ⟨hl', hr'⟩
    · exact absurd ⟨hl'.symm.trans hl, hr'.symm.trans hr⟩ hswap
    · exact hk'.ext hk (hr'.symm.trans hr) (hl'.symm.trans hl)

/-- A channel shows up for the two clients that it was created for. -/
theorem Staged.holds_show {g : Pair → Option Stage} {k : Pair} {s : Stage} {n n' e m f : Nat}
    {label localId : String} {c : RTCPeerConnection} (h : Staged W page g steps p)
    (hfresh : p.state.Fresh) (hs : g k = some s) (hcreates : s.Creates page k n' m f label)
    (hc : (p.state.wiring n').signaled f = some c) (hremote : c.remoteId = localId)
    (hdescribed : c.remoteDescription ≠ none) {thread : Nat} {socket : Socket}
    (hmember : p.state.Member thread localId socket) (hn : n = page thread) :
    s.Holds W page k (Function.update p.state.wiring n
      ((p.state.wiring n).addChannel p.state.fresh e label label localId))
      (p.state.ends ++ [(m, p.state.fresh)]) := by
  have hat := h.stage k s hs
  rcases hcreates with ⟨rfl, hm, rfl⟩ | ⟨rfl, hm, rfl⟩
  · obtain ⟨-, hconnection, -⟩ := hat.holds.first m f hm
    obtain ⟨c', hc', hid⟩ := h.wired.keyed _ _ f hconnection
    obtain rfl := Option.some.inj (hc.symm.trans hc')
    obtain rfl : k.y = localId := hid.symm.trans hremote
    obtain ⟨rfl, -⟩ := hat.registered.answerer.eq hmember
    rw [hn]
    -- an offer that was refused has no description
    have hsecond : s.second = none := by
      cases s with
      | refused a b d =>
        cases hm
        have heq := Option.some.inj (hc.symm.trans (hat.holds.offer _ rfl))
        rw [heq] at hdescribed
        exact absurd rfl hdescribed
      | _ => rfl
    exact hat.holds.showFirst hat.registered.distinct hm hsecond hfresh.drawn
  · obtain ⟨hdrawn, hconnection, -⟩ := hat.holds.second m f hm
    obtain ⟨c', hc', hid⟩ := h.wired.keyed _ _ f hconnection
    obtain rfl := Option.some.inj (hc.symm.trans hc')
    obtain rfl : k.x = localId := hid.symm.trans hremote
    obtain ⟨rfl, -⟩ := hat.registered.offerer.eq hmember
    rw [hn]
    refine hat.holds.showSecond hat.registered.distinct hm ?_ hfresh.drawn
    intro a ha
    have hdrawn' := (hat.holds.first m a ha).1
    have hpage := h.wired.one_page _ _ _ _ _ hdrawn hdrawn'
    rw [hpage] at hdrawn
    obtain ⟨-, heq⟩ := Prod.mk.inj (Option.some.inj (hdrawn.symm.trans hdrawn'))
    exact hat.registered.distinct heq.symm

/-- A channel of a page shows up at another one. -/
theorem Staged.show {g : Pair → Option Stage} {n e n' m : Nat} {c : RTCPeerConnection}
    {localId : String} {ch : RTCDataChannel} (h : Staged W page g steps p)
    (hnumbered : p.state.Numbered)
    (hconnection : (p.state.pages n).peerConnections.get e = some c)
    (hlocal : c.ondatachannel = some localId)
    (hchannel : (p.state.pages n').dataChannels.get m = some ch)
    (hlinked : p.state.Linked W n e n' ch.connection)
    (hnew : ∀ ends ∈ p.state.ends, ends.1 ≠ m ∧ ends.2 ≠ m) :
    Staged W page g (steps ++ [(p, .ondatachannel n e n' m)])
      ⟨p.state.showChannel n e localId ch m, p.tasks⟩ := by
  have hfresh := h.fresh hnumbered
  have hlinked' := Runner.linked_iff.mp hlinked
  have hdrawn : (p.state.wiring n').drawn m = some (ch.connection, ch.label) := by
    rw [show (p.state.wiring n').drawn m =
      ((p.state.pages n').dataChannels.get m).map RTCDataChannel.drawn from rfl, hchannel]
    rfl
  have hsignaled : (p.state.wiring n).signaled e = some c.signaled := by
    rw [Runner.signaled_wiring, hconnection, Option.map_some]
  obtain ⟨c', hc', hdescribed⟩ := hlinked'.symm.described
  obtain ⟨hremote, thread, socket, hmember, hn⟩ := h.peer hnumbered hlinked' hsignaled hlocal hc'
  obtain ⟨k, s, hs, hcreates⟩ : ∃ k s, g k = some s ∧
      s.Creates page k n' m ch.connection ch.label := by
    rcases h.created n' m _ hdrawn with ⟨m', hm'⟩ | hcreated
    · exact absurd rfl (hnew _ hm').2
    · exact hcreated
  obtain ⟨-, hclients⟩ := h.creates hs hcreates hc'
  have hk := (h.stage k s hs).registered
  have hwiring : (p.state.showChannel n e localId ch m).wiring = Function.update p.state.wiring n
      ((p.state.wiring n).addChannel p.state.fresh e ch.label ch.label localId) := by
    have hset : (p.state.showChannel n e localId ch m).wiring = (p.state.setPage n
        (((p.state.pages n).createDataChannel e ch.label p.state.fresh).dataChannelConfiguration
          ch.label localId p.state.fresh)).wiring := rfl
    rw [hset, Runner.wiring_setPage, Transporter.wiring_createDataChannel]
    rfl
  have hclients' : p.state.server.clients.has ch.label = true ∧
      p.state.server.clients.has localId = true := by
    refine ⟨?_, Map.has_of_get hmember.clients⟩
    rcases hclients with ⟨hl, -⟩ | ⟨hl, -⟩
    · rw [hl]
      exact Map.has_of_get hk.offerer.clients
    · rw [hl]
      exact Map.has_of_get hk.answerer.clients
  have hsame : p.state.SameClients (p.state.showChannel n e localId ch m) :=
    ⟨rfl, rfl, rfl, rfl, rfl⟩
  constructor
  · exact hsame.registry h.registry
  · show Wired W _ (p.state.showChannel n e localId ch m).wiring
      (p.state.ends ++ [(m, p.state.fresh)]) (p.state.fresh + 1)
    rw [hwiring]
    have hfirst : (Function.update p.state.wiring n ((p.state.wiring n).addChannel p.state.fresh
        e ch.label ch.label localId) n').drawn m = some (ch.connection, ch.label) :=
      Wiring.drawn_addChannel_of_fresh _ _ _ _ _ (hfresh.drawn n) hdrawn
    have hsecond : (Function.update p.state.wiring n ((p.state.wiring n).addChannel p.state.fresh
        e ch.label ch.label localId) n).drawn p.state.fresh = some (e, ch.label) := by
      rw [Wiring.drawn_addChannel, if_pos ⟨rfl, rfl⟩]
    apply (h.wired.addChannel hclients'.1 hclients'.2).addEnds hfirst hsecond
    refine Wired.linked_mono (fun n₁ e₁ c₁ hc₁ _ => ⟨c₁, ?_, rfl⟩) hlinked'.symm
    rwa [Wiring.signaled_addChannel]
  · intro t ht hsignals
    obtain ⟨k₁, hk₁, hab⟩ := h.about t ht hsignals
    exact ⟨k₁, hk₁.of_sameClients hsame, hab⟩
  · intro k₁ s₁ hs₁
    have hat₁ := h.stage k₁ s₁ hs₁
    refine hat₁.keep (hat₁.registered.of_sameClients hsame) ?_ rfl rfl (fun t ht => by cases ht)
    show s₁.Holds W page k₁ (p.state.showChannel n e localId ch m).wiring
      (p.state.ends ++ [(m, p.state.fresh)])
    rw [hwiring]
    by_cases he : k₁ = k
    · subst he
      obtain rfl := Option.some.inj (hs.symm.trans hs₁)
      exact h.holds_show hfresh hs hcreates hc' hremote hdescribed hmember hn
    · -- another pair of clients has neither these ids nor this channel
      have hids : ¬(ch.label = k₁.x ∧ localId = k₁.y) ∧ ¬(ch.label = k₁.y ∧ localId = k₁.x) := by
        have hswap : k₁ ≠ k.swap := by
          rintro rfl
          rw [h.once k s hs] at hs₁
          cases hs₁
        have hother := hk.other_ids hat₁.registered he hswap
        rw [hremote] at hclients
        rcases hclients with ⟨hl, hr⟩ | ⟨hl, hr⟩
        · rw [hl, hr]
          exact hother
        · rw [hl, hr]
          exact ⟨fun ⟨hx, hy⟩ => hother.2 ⟨hy, hx⟩, fun ⟨hy, hx⟩ => hother.1 ⟨hx, hy⟩⟩
      have hholds : s₁.Holds W page k₁ p.state.wiring (p.state.ends ++ [(m, p.state.fresh)]) := by
        refine hat₁.holds.addEnds ?_ ?_ hfresh.drawn
        · intro a ha
          exact he (h.creates_unique hs hs₁ hcreates (.inl ⟨rfl, ha, rfl⟩) hc')
        · intro a ha
          exact he (h.creates_unique hs hs₁ hcreates (.inr ⟨rfl, ha, rfl⟩) hc')
      exact hholds.addChannel (hfresh.drawn n) (fun hk => hids.2 hk.2) fun hk => hids.1 hk.2
  · intro k₁ hk₁
    exact h.all k₁ ⟨hsame.member.mp hk₁.offerer, hsame.member.mp hk₁.answerer, hk₁.distinct⟩
  · exact h.once
  · intro n₁ f₁ c₁ hc₁
    rw [show (Pool.state ⟨p.state.showChannel n e localId ch m, p.tasks⟩).wiring = _ from hwiring,
      Wiring.signaled_addChannel] at hc₁
    exact h.owned n₁ f₁ c₁ hc₁
  · intro n₁ m₁ v hv
    rw [show (Pool.state ⟨p.state.showChannel n e localId ch m, p.tasks⟩).wiring = _ from hwiring,
      Wiring.drawn_addChannel] at hv
    show (∃ m', (m', m₁) ∈ p.state.ends ++ [(m, p.state.fresh)]) ∨ _
    split_ifs at hv with hm₁
    · rw [hm₁.2]
      exact .inl ⟨m, by simp⟩
    · rcases h.created n₁ m₁ v hv with ⟨m', hm'⟩ | hcreated
      · exact .inl ⟨m', List.mem_append_left _ hm'⟩
      · exact .inr hcreated
  · intro x y a hpast
    exact h.past x y a ((past_snoc hpast).resolve_right (not_past fun t ht => by cases ht))

/-! ## A client joins -/

/-- The new client is greeted by those that are there. -/
def Pair.Greets (p : Runner) (thread : Nat) (id : String) (k : Pair) : Prop :=
  p.Member k.tx k.x k.sx ∧ k.ty = thread ∧ k.y = id ∧ k.sy = p.nextSocket

theorem Pair.Registered.of_join {p : Runner} {thread : Nat} {id : String} {k : Pair}
    (hp : p.Registry) (h : k.Registered (p.join thread id).1) :
    k.Registered p ∨ k.Greets p thread id ∨ k.swap.Greets p thread id := by
  rcases Runner.member_of_join hp h.offerer with ⟨htx, hx, hsx⟩ | hoff
  · rcases Runner.member_of_join hp h.answerer with ⟨-, hy, -⟩ | hans
    · exact absurd (hx.trans hy.symm) h.distinct
    · exact .inr (.inr ⟨hans, htx, hx, hsx⟩)
  · rcases Runner.member_of_join hp h.answerer with ⟨hty, hy, hsy⟩ | hans
    · exact .inr (.inl ⟨hoff, hty, hy, hsy⟩)
    · exact .inl ⟨hoff, hans, h.distinct⟩

section Join

variable {thread : Nat} {id : String} {g : Pair → Option Stage}

theorem Pair.Registered.join {p : Runner} {k : Pair} (h : k.Registered p) (hp : p.Registry)
    (hjoin : p.CanJoin thread id) : k.Registered (p.join thread id).1 :=
  ⟨Runner.member_join hp hjoin h.offerer, Runner.member_join hp hjoin h.answerer, h.distinct⟩

theorem Pair.Greets.registered {p : Runner} {k : Pair} (h : k.Greets p thread id)
    (hp : p.Registry) (hjoin : p.CanJoin thread id) : k.Registered (p.join thread id).1 := by
  obtain ⟨hmember, hty, hy, hsy⟩ := h
  refine ⟨Runner.member_join hp hjoin hmember, ?_, ?_⟩
  · rw [hty, hy, hsy]
    exact Runner.member_join_self
  · rw [hy]
    exact hjoin.ne hmember

/-- What is on its way to greet the new client. -/
theorem Runner.mem_join {p : Runner} {t : RunnerTask} (ht : t ∈ (p.join thread id).2) :
    ∃ x sx, p.server.clients.get x = some sx ∧ x ≠ id ∧
      t = .onmessage sx (.greeting ⟨x, id⟩) none := by
  obtain ⟨post, hpost, rfl⟩ := List.mem_map.mp ht
  obtain ⟨⟨x, sx⟩, hentry, rfl⟩ := List.mem_map.mp hpost
  obtain ⟨hentry, hne⟩ := List.mem_filter.mp hentry
  exact ⟨x, sx, Map.mem_entries_iff.mp hentry, of_decide_eq_true hne, rfl⟩

/-- Each client is greeted once. -/
theorem Pair.Greets.filter_join {p : Runner} {k : Pair} (h : k.Greets p thread id)
    (hjoin : p.CanJoin thread id) :
    (p.join thread id).2.filter (RunnerTask.isAbout k) =
      [.onmessage k.sx (.greeting ⟨k.x, k.y⟩) none] := by
  obtain ⟨hmember, -, hy, -⟩ := h
  have hne : k.x ≠ id := hjoin.ne hmember
  have hjoins : (p.join thread id).2 =
      (p.server.clients.entries.filter fun existing => existing.1 ≠ id).map fun existing =>
        RunnerTask.onmessage existing.2 (.greeting ⟨existing.1, id⟩) none := List.map_map
  rw [hjoins, List.filter_map, List.filter_filter]
  have hkeys : (p.server.clients.entries.filter fun existing =>
      (RunnerTask.isAbout k ∘ fun existing : String × Socket =>
        RunnerTask.onmessage existing.2 (.greeting ⟨existing.1, id⟩) none) existing &&
        decide (existing.1 ≠ id)) =
      p.server.clients.entries.filter fun existing => decide (existing.1 = k.x) := by
    apply List.filter_congr
    intro existing _
    by_cases he : existing.1 = k.x
    · simp [RunnerTask.isAbout, clientsOf, he, hy, hne]
    · simp [RunnerTask.isAbout, clientsOf, he]
  rw [hkeys, Map.filter_entries hmember.clients, hy]
  rfl

/-- Nobody else is greeted. -/
theorem Runner.filter_join {p : Runner} {k : Pair}
    (h : k.x = id ∨ k.y ≠ id) : (p.join thread id).2.filter (RunnerTask.isAbout k) = [] := by
  rw [List.filter_eq_nil_iff]
  intro t ht
  obtain ⟨x, sx, -, hne, rfl⟩ := Runner.mem_join ht
  rcases h with h | h
  · simp [RunnerTask.isAbout, clientsOf, h, hne]
  · simp [RunnerTask.isAbout, clientsOf, Ne.symm h]

open Classical in
/-- The stages once a client has joined. -/
noncomputable def joinStages (p : Runner) (thread : Nat) (id : String)
    (g : Pair → Option Stage) (k : Pair) : Option Stage :=
  if k.Greets p thread id then some .greeting else g k

theorem joinStages_of_greets {p : Runner} {k : Pair} (h : k.Greets p thread id) :
    joinStages p thread id g k = some .greeting := if_pos h

theorem joinStages_of_not {p : Runner} {k : Pair} (h : ¬k.Greets p thread id) :
    joinStages p thread id g k = g k := if_neg h

theorem joinStages_isSome {p : Runner} {k : Pair} (h : (g k).isSome) :
    (joinStages p thread id g k).isSome := by
  by_cases hk : k.Greets p thread id
  · rw [joinStages_of_greets hk]
    rfl
  · rw [joinStages_of_not hk]
    exact h

theorem Pair.Registered.not_greets {p : Runner} {k : Pair} (h : k.Registered p)
    (hjoin : p.CanJoin thread id) : ¬k.Greets p thread id :=
  fun hk => hjoin.ne h.answerer hk.2.2.1

theorem Pair.Greets.not_swap {p : Runner} {k : Pair} (h : k.Greets p thread id)
    (hjoin : p.CanJoin thread id) : ¬k.swap.Greets p thread id :=
  fun hk => hjoin.ne hk.1 h.2.2.1

/-- The client that greets the new one has not been in a stage with it. -/
theorem Staged.greet (h : Staged W page g steps p) (hjoin : p.state.CanJoin thread id)
    {k : Pair} (hk : k.Greets p.state thread id) :
    k.At W page (steps ++ [(p, .join thread id)]) (p.add (p.state.join thread id)) .greeting := by
  have hid : p.state.server.clients.has k.y = false := by
    rw [hk.2.2.1]
    exact hjoin.2
  have hne : k.x ≠ id := hjoin.ne hk.1
  have hchannel : ∀ n r l, r = k.y ∨ l = k.y → (p.state.wiring n).channel r l = none := by
    intro n r l hkey
    cases hm : (p.state.wiring n).channel r l with
    | none => rfl
    | some m =>
      obtain ⟨hr, hl, -⟩ := h.wired.known n r l m hm
      rcases hkey with rfl | rfl
      · rw [hid] at hr
        cases hr
      · rw [hid] at hl
        cases hl
  have hregistered := hk.registered h.registry hjoin
  -- no task has been about the new client
  have hidle : ∀ k', k'.Registered (p.state.join thread id).1 → k'.x = id ∨ k'.y = id →
      p.tasks.filter (RunnerTask.isAbout k') = [] := by
    intro k' hk' hnew
    rw [List.filter_eq_nil_iff]
    intro t ht hab
    obtain ⟨k₁, s₁, hs₁, ht₁⟩ := h.stage_of_task ht (RunnerTask.signals_of_isAbout hab)
    have hk₁ := (h.stage k₁ s₁ hs₁).registered
    obtain rfl := (Stage.isAbout_task ht₁ (hk₁.join h.registry hjoin) hk').mp hab
    rcases hnew with hnew | hnew
    · exact hjoin.ne hk₁.offerer hnew
    · exact hjoin.ne hk₁.answerer hnew
  have hpast : ∀ f, ¬(Shares page (steps ++ [(p, .join thread id)]) k.x k.y f ∨
      Refuses W page (steps ++ [(p, .join thread id)]) k.x k.y f) := by
    intro f hf
    have hbefore := (past_snoc hf).resolve_right (not_past fun t ht => by cases ht)
    obtain ⟨k', s', hs', -, hy⟩ := h.past _ _ f hbefore
    exact hjoin.ne (h.stage k' s' hs').registered.answerer (hy.trans hk.2.2.1)
  constructor
  · exact hregistered
  · constructor
    · intro e he
      cases he
    · intro e he
      cases he
    · intro m f hm
      cases hm
    · intro m f hm
      cases hm
    · refine .inl ⟨by simp [Stage.second], ?_⟩
      exact hchannel _ _ _ (.inl rfl)
    · refine .inl ⟨by simp [Stage.first, Stage.offer], ?_⟩
      exact hchannel _ _ _ (.inr rfl)
  · show (p.tasks ++ (p.state.join thread id).2).filter (RunnerTask.isAbout k) = _
    rw [List.filter_append, hidle k hregistered (.inr hk.2.2.1), hk.filter_join hjoin]
    rfl
  · show (p.tasks ++ (p.state.join thread id).2).filter (RunnerTask.isAbout k.swap) = []
    rw [List.filter_append, hidle k.swap hregistered.swap (.inl hk.2.2.1),
      Runner.filter_join (.inl hk.2.2.1)]
    rfl
  · intro f
    constructor
    · exact fun hf => absurd (.inl hf) (hpast f)
    · intro hf
      cases hf
  · intro f
    constructor
    · exact fun hf => absurd (.inr hf) (hpast f)
    · intro hf
      cases hf

theorem Staged.join (h : Staged W page g steps p) (hjoin : p.state.CanJoin thread id) :
    Staged W page (joinStages p.state thread id g) (steps ++ [(p, .join thread id)])
      (p.add (p.state.join thread id)) := by
  have hkeeps : ∀ k : Pair, k.Registered p.state → k.Registered (p.state.join thread id).1 :=
    fun k hk => hk.join h.registry hjoin
  have hsame : ∀ k s, g k = some s → joinStages p.state thread id g k = some s := by
    intro k s hs
    rw [joinStages_of_not ((h.stage k s hs).registered.not_greets hjoin), hs]
  have hgrows : ∀ id', p.state.server.clients.has id' = true →
      (p.state.join thread id).1.server.clients.has id' = true := by
    intro id' hid'
    rw [Runner.clients_join, Map.has_set, hid', Bool.or_true]
  constructor
  · exact Runner.registry_join h.registry hjoin
  · exact h.wired.mono hgrows (Nat.le_refl _)
  · intro t ht hsignals
    rcases List.mem_append.mp ht with ht | ht
    · obtain ⟨k, hk, hab⟩ := h.about t ht hsignals
      exact ⟨k, hkeeps k hk, hab⟩
    · obtain ⟨x, sx, hx, -, rfl⟩ := Runner.mem_join ht
      obtain ⟨k, hk⟩ : ∃ k : Pair, k = ⟨p.state.threads sx, x, sx, thread, id,
        p.state.nextSocket⟩ := ⟨_, rfl⟩
      have hgreets : k.Greets p.state thread id := by
        rw [hk]
        exact ⟨h.registry.client x sx hx, rfl, rfl, rfl⟩
      refine ⟨k, hgreets.registered h.registry hjoin, ?_⟩
      rw [hk]
      simp [RunnerTask.isAbout, clientsOf]
  · intro k s hs
    by_cases hk : k.Greets p.state thread id
    · rw [joinStages_of_greets hk] at hs
      cases hs
      exact h.greet hjoin hk
    · rw [joinStages_of_not hk] at hs
      have hat := h.stage k s hs
      refine hat.keep (hkeeps k hat.registered) hat.holds ?_ ?_ (fun t ht => by cases ht)
      · show (p.tasks ++ (p.state.join thread id).2).filter (RunnerTask.isAbout k) = _
        rw [List.filter_append, Runner.filter_join (.inr (hjoin.ne hat.registered.answerer)),
          List.append_nil]
      · show (p.tasks ++ (p.state.join thread id).2).filter (RunnerTask.isAbout k.swap) = _
        rw [List.filter_append, Runner.filter_join (.inr (hjoin.ne hat.registered.offerer)),
          List.append_nil]
  · intro k hk
    rcases hk.of_join h.registry with hk | hk | hk
    · exact (h.all k hk).imp joinStages_isSome joinStages_isSome
    · rw [joinStages_of_greets hk]
      exact .inl rfl
    · rw [joinStages_of_greets hk]
      exact .inr rfl
  · intro k s hs
    by_cases hk : k.Greets p.state thread id
    · rw [joinStages_of_not (hk.not_swap hjoin)]
      cases hs' : g k.swap with
      | none => rfl
      | some s' => exact absurd hk.2.2.1 (hjoin.ne (h.stage _ s' hs').registered.offerer)
    · rw [joinStages_of_not hk] at hs
      rw [joinStages_of_not ((h.stage k s hs).registered.swap.not_greets hjoin)]
      exact h.once k s hs
  · intro n f c hc
    obtain ⟨k, s, hs, howns⟩ := h.owned n f c hc
    exact ⟨k, s, hsame k s hs, howns⟩
  · intro n m v hv
    rcases h.created n m v hv with hmet | ⟨k, s, hs, hcreates⟩
    · exact .inl hmet
    · exact .inr ⟨k, s, hsame k s hs, hcreates⟩
  · intro x y f hpast
    have hbefore := (past_snoc hpast).resolve_right (not_past fun t ht => by cases ht)
    obtain ⟨k, s, hs, hids⟩ := h.past x y f hbefore
    exact ⟨k, s, hsame k s hs, hids⟩

end Join

/-! ## Runs -/

theorem staged_init : Staged W page (fun _ => none) [] .init where
  registry := by
    constructor
    · intro thread socket h
      cases h
    · intro id socket h
      cases h
    · intro thread socket h
      cases h
  wired := by
    constructor
    · intro n id f h
      cases h
    · intro n r l m h
      cases h
    · intro n m v h
      cases h
    · intro n n' m v v' h
      cases h
    · intro m m' h
      cases h
  about t ht := by cases ht
  stage k s h := by cases h
  all k hk := by cases hk.offerer.sockets
  once k s h := by cases h
  owned n f c h := by cases h
  created n m v h := by cases h
  past x y f h := by simp [Shares, Refuses] at h

/-- Nobody leaves. -/
def Stays (steps : List (RunnerPool × RunnerStep)) : Prop :=
  ∀ z ∈ steps, ∀ thread socket, z.2 ≠ .leave thread socket

theorem Runner.sameWiring_changeState {q : Runner} {n e : Nat} {c : RTCPeerConnection}
    {connectionState : RTCPeerConnectionState} (hopen : connectionState ≠ .closed) :
    q.SameWiring (q.changeState n e c connectionState) := by
  apply Runner.sameWiring_setPage
  rw [Transporter.wiring_handleConnectionStatusChange hopen, Transporter.wiring_connectionState]
  rfl

theorem Staged.step {g : Pair → Option Stage} {a : RunnerStep} (h : Staged W page g steps p)
    (hnumbered : p.state.Numbered) (hopen : ∀ n, (p.state.pages n).Open)
    (hstep : RunnerPool.Step W page p a p') (hstays : ∀ thread socket, a ≠ .leave thread socket) :
    ∃ g', Staged W page g' (steps ++ [(p, a)]) p' := by
  cases hstep with
  | join hjoin => exact ⟨_, h.join hjoin⟩
  | leave => exact absurd rfl (hstays _ _)
  | onicecandidate hconnection =>
    refine ⟨g, h.idle ⟨rfl, rfl, rfl, rfl, rfl⟩ ⟨rfl, rfl, rfl⟩ ?_ (fun t ht => by cases ht)⟩
    simp [RunnerPool.add, RunnerTask.signals, clientsOf]
  | onconnectionstatechange hconnection hclosed =>
    refine ⟨g, h.idle ⟨rfl, rfl, rfl, rfl, rfl⟩ (Runner.sameWiring_changeState hclosed) ?_
      (fun t ht => by cases ht)⟩
    simp [RunnerPool.add]
  | ondatachannel hconnection hlocal hchannel hlinked hnew =>
    refine ⟨g, ?_⟩
    rw [RunnerPool.add, List.append_nil]
    exact h.show hnumbered hconnection hlocal hchannel hlinked hnew
  | resume htasks => exact h.resume hnumbered hopen htasks

/-- A run in which nobody leaves has its stages. -/
theorem RunnerRun.staged (hrun : RunnerRun W page steps p) (hstays : Stays steps) :
    ∃ g, Staged W page g steps p := by
  induction hrun with
  | start hinit =>
    obtain rfl := hinit
    exact ⟨_, staged_init⟩
  | snoc hrun hstep ih =>
    obtain ⟨g, hg⟩ := ih fun z hz => hstays z (List.mem_append_left _ hz)
    refine hg.step (RunnerRun.numbered hrun) (RunnerRun.isOpen hrun) hstep ?_
    exact hstays _ (List.mem_append_right _ (List.mem_singleton_self _))

end Staged

end Unisockets.Transport
