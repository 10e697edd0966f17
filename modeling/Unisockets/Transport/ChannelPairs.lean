import Unisockets.Transport.StagedRun

/-!
# The two ends of a channel

`Paired` is what two clients on different pages need in order to talk: the channels
that their pages have for them are the two ends of one channel.  Once everything on
its way has been handled (`Quiet`), two clients that have exchanged an offer and an
answer are paired.  Two clients whose pages have used the connection of other
clients are paired if and only if that connection carries channels.  The one whose
own offer was refused does not, which is where clients lose each other
(`paired_iff`).
-/

namespace Unisockets.Transport

open JsStd Signaling Transition

/-- The channels of `x` on the page `n` and of `y` on the page `n'` for each other are
the two ends of one channel, on connections that have exchanged an offer and an
answer. -/
def Paired (W : WebRtc) (p : Runner) (n : Nat) (x : String) (n' : Nat) (y : String) : Prop :=
  ∃ m m' ch ch', (p.pages n).channel y x = some m ∧ (p.pages n').channel x y = some m' ∧
    ((m, m') ∈ p.ends ∨ (m', m) ∈ p.ends) ∧
    (p.pages n).dataChannels.get m = some ch ∧ (p.pages n').dataChannels.get m' = some ch' ∧
    p.Linked W n ch.connection n' ch'.connection

theorem Paired.symm {W : WebRtc} {p : Runner} {n n' : Nat} {x y : String}
    (h : Paired W p n x n' y) : Paired W p n' y n x := by
  obtain ⟨m, m', ch, ch', hm, hm', hends, hch, hch', hlinked⟩ := h
  exact ⟨m', m, ch', ch, hm', hm, hends.symm, hch', hch, hlinked.symm⟩

/-- The signaling messages are handled, and the channels have shown up. -/
structure Quiet (W : WebRtc) (page : Nat → Nat) (p : RunnerPool) : Prop where
  handled (t : RunnerTask) (ht : t ∈ p.tasks) : t.signals = false
  shown (n e n' m : Nat) (p' : RunnerPool) :
    ¬RunnerPool.Step W page p (.ondatachannel n e n' m) p'

/-- Every two clients on different pages are paired. -/
def AllPaired (W : WebRtc) (page : Nat → Nat) (p : RunnerPool) : Prop :=
  ∀ tx x ty y, p.state.Connected tx x → p.state.Connected ty y → page tx ≠ page ty →
    Paired W p.state (page tx) x (page ty) y

/-- No connection that has been found for two clients on different pages is one whose
own offer has been refused. -/
def NoRefusedFound (W : WebRtc) (page : Nat → Nat) (steps : List (RunnerPool × RunnerStep))
    (p : RunnerPool) : Prop :=
  ∀ tx x ty y f, p.state.Connected tx x → p.state.Connected ty y → page tx ≠ page ty →
    Shares page steps x y f → ∀ x' y', ¬Refuses W page steps x' y' f

/-- The channel that has been created last for two clients, with its connection. -/
def Stage.carrier (s : Stage) : Option (Nat × Nat) := s.second <|> s.first

section Quiet

variable {W : WebRtc} {page : Nat → Nat} {steps : List (RunnerPool × RunnerStep)}
  {p : RunnerPool} {g : Pair → Option Stage} {k : Pair} {s : Stage}

theorem Quiet.task_eq_none (hquiet : Quiet W page p) (hat : k.At W page steps p s) :
    s.task W k = none := by
  cases ht : s.task W k with
  | none => rfl
  | some t =>
    have hmem : t ∈ p.tasks.filter (RunnerTask.isAbout k) := by
      rw [hat.tasks, ht]
      exact List.mem_singleton_self t
    have hhandled := hquiet.handled t (List.mem_filter.mp hmem).1
    rw [Stage.signals_task ht] at hhandled
    cases hhandled

/-- A channel that could show up has done so. -/
theorem Quiet.met (hquiet : Quiet W page p) {n n' m f e : Nat} {label localId : String}
    {c : RTCPeerConnection} (hdrawn : (p.state.wiring n).drawn m = some (f, label))
    (hlinked : Wiring.Linked W p.state.wiring n f n' e)
    (hc : (p.state.wiring n').signaled e = some c) (hlocal : c.ondatachannel = some localId)
    (hfirst : ∀ m', (m', m) ∉ p.state.ends) : ∃ m', (m, m') ∈ p.state.ends := by
  by_contra hnone
  obtain ⟨d, hd, rfl⟩ := Option.map_eq_some_iff.mp hc
  obtain ⟨ch, hch, heq⟩ := Option.map_eq_some_iff.mp hdrawn
  obtain ⟨hf, -⟩ := Prod.mk.inj heq
  refine hquiet.shown n' e n m _ (.ondatachannel hd hlocal hch ?_ ?_)
  · rw [Runner.linked_iff, hf]
    exact hlinked.symm
  · rintro ⟨a, b⟩ hab
    constructor
    · rintro rfl
      exact hnone ⟨b, hab⟩
    · rintro rfl
      exact hfirst a hab

theorem Stage.Holds.linked {w : Nat → Wiring} {ends : List (Nat × Nat)} {e e' : Nat}
    (h : (Stage.linked e e').Holds W page k w ends) :
    Wiring.Agreed W w (page k.tx) e (page k.ty) e' :=
  ⟨_, _, h.offer e rfl, h.answer e' rfl, rfl, rfl⟩

/-- A channel on a connection that has got no description does not show up. -/
theorem Staged.not_met_on (h : Staged W page g steps p) (hnumbered : p.state.Numbered)
    {n n' m f : Nat} {label : String} {c : RTCPeerConnection}
    (hdrawn : (p.state.wiring n).drawn m = some (f, label))
    (hc : (p.state.wiring n').signaled f = some c) (hnone : c.remoteDescription = none)
    (m' : Nat) : (m, m') ∉ p.state.ends := by
  intro hmet
  obtain ⟨a, b, v, v', hv, -, hlinked⟩ := h.wired.met _ _ hmet
  obtain rfl := h.wired.one_page _ _ _ _ _ hv hdrawn
  obtain rfl := Option.some.inj (hv.symm.trans hdrawn)
  obtain ⟨d, hd, hsome⟩ := hlinked.described
  obtain rfl := hnumbered.signaled hd hc
  obtain rfl := Option.some.inj (hd.symm.trans hc)
  exact hsome hnone

/-- Where the channel that was created last for two clients lies. -/
theorem Stage.Holds.carrier {w : Nat → Wiring} {ends : List (Nat × Nat)} {m f : Nat}
    (h : s.Holds W page k w ends) (hm : s.carrier = some (m, f)) :
    ∃ n label id, (w n).drawn m = some (f, label) ∧ (w n).connection id = some f ∧
      ∀ m', (m', m) ∉ ends := by
  cases hsecond : s.second with
  | some v =>
    rw [Stage.carrier, hsecond] at hm
    obtain rfl := Option.some.inj hm
    obtain ⟨hdrawn, hconnection, hends⟩ := h.second m f hsecond
    exact ⟨_, _, _, hdrawn, hconnection, hends⟩
  | none =>
    rw [Stage.carrier, hsecond] at hm
    obtain ⟨hdrawn, hconnection, hends⟩ := h.first m f hm
    exact ⟨_, _, _, hdrawn, hconnection, hends⟩

/-- The channel of two clients has shown up if and only if its connection has not had
its offer refused. -/
theorem Staged.met_iff (h : Staged W page g steps p) (hquiet : Quiet W page p)
    (hnumbered : p.state.Numbered) (hs : g k = some s) {m f : Nat}
    (hm : s.carrier = some (m, f)) :
    (∃ m', (m, m') ∈ p.state.ends) ↔ ∀ x y, ¬Refuses W page steps x y f := by
  obtain ⟨n, label, id, hdrawn, hconnection, hends⟩ := (h.stage k s hs).holds.carrier hm
  constructor
  · rintro ⟨m', hm'⟩ x y hrefuses
    obtain ⟨k', s', hs', rfl, rfl⟩ := h.past x y f (.inr hrefuses)
    have hat := h.stage k' s' hs'
    rw [hat.refuses] at hrefuses
    cases s' with
    | refused a b d =>
      cases hrefuses
      exact h.not_met_on hnumbered hdrawn (hat.holds.offer f rfl) rfl m' hm'
    | _ => cases hrefuses
  · intro hrefuses
    obtain ⟨c, hc, -⟩ := h.wired.keyed n id f hconnection
    -- whose connection it is
    obtain ⟨k', s', hs', howns⟩ := h.owned n f c hc
    have hat := h.stage k' s' hs'
    have htask := hquiet.task_eq_none hat
    cases s' with
    | linked e e' =>
      have hagreed := hat.holds.linked
      rcases howns with ⟨rfl, he⟩ | ⟨rfl, he⟩
      · cases he
        exact hquiet.met hdrawn (.inl hagreed) (hat.holds.answer e' rfl) rfl hends
      · cases he
        exact hquiet.met hdrawn (.inr hagreed) (hat.holds.offer e rfl) rfl hends
    | borrowed a b => rcases howns with ⟨-, he⟩ | ⟨-, he⟩ <;> cases he
    | refused a b d =>
      rcases howns with ⟨-, he⟩ | ⟨-, he⟩
      · cases he
        exact absurd ((hat.refuses f).mpr rfl) (hrefuses _ _)
      · cases he
    | _ => cases htask

/-- Two channels that meet are there. -/
theorem Staged.paired_of_met (h : Staged W page g steps p) {n n' m m' : Nat} {x y : String}
    (hm : (p.state.wiring n).channel y x = some m)
    (hm' : (p.state.wiring n').channel x y = some m')
    (hmet : (m, m') ∈ p.state.ends ∨ (m', m) ∈ p.state.ends) :
    Paired W p.state n x n' y := by
  have hmeets : ∃ v v', (p.state.wiring n).drawn m = some v ∧
      (p.state.wiring n').drawn m' = some v' ∧ Wiring.Linked W p.state.wiring n v.1 n' v'.1 := by
    obtain ⟨-, -, u, hu⟩ := h.wired.known n y x m hm
    obtain ⟨-, -, u', hu'⟩ := h.wired.known n' x y m' hm'
    rcases hmet with hmet | hmet
    · obtain ⟨a, b, v, v', hv, hv', hlinked⟩ := h.wired.met _ _ hmet
      obtain rfl := h.wired.one_page _ _ _ _ _ hv hu
      obtain rfl := h.wired.one_page _ _ _ _ _ hv' hu'
      exact ⟨v, v', hv, hv', hlinked⟩
    · obtain ⟨a, b, v, v', hv, hv', hlinked⟩ := h.wired.met _ _ hmet
      obtain rfl := h.wired.one_page _ _ _ _ _ hv hu'
      obtain rfl := h.wired.one_page _ _ _ _ _ hv' hu
      exact ⟨v', v, hv', hv, hlinked.symm⟩
  obtain ⟨v, v', hv, hv', hlinked⟩ := hmeets
  obtain ⟨ch, hch, rfl⟩ := Option.map_eq_some_iff.mp hv
  obtain ⟨ch', hch', rfl⟩ := Option.map_eq_some_iff.mp hv'
  exact ⟨m, m', ch, ch', hm, hm', hmet, hch, hch', Runner.linked_iff.mpr hlinked⟩

/-- Two clients are paired if and only if their last channel has shown up. -/
theorem Staged.paired_iff_met (h : Staged W page g steps p) (hs : g k = some s)
    (htask : s.task W k = none) {m f : Nat} (hm : s.carrier = some (m, f)) :
    Paired W p.state (page k.tx) k.x (page k.ty) k.y ↔ ∃ m', (m, m') ∈ p.state.ends := by
  have hat := h.stage k s hs
  have hone : s.second = none → s.first = some (m, f) →
      (Paired W p.state (page k.tx) k.x (page k.ty) k.y ↔ ∃ m', (m, m') ∈ p.state.ends) := by
    intro hsecond hfirst
    have hofferer := hat.holds.offererChannel
    have hanswerer := hat.holds.answererChannel
    rw [hsecond, hfirst] at hofferer hanswerer
    constructor
    · rintro ⟨a, a', -, -, -, ha', -⟩
      rcases hanswerer with ⟨-, hnone⟩ | ⟨b, d, m', hb, hmet, -⟩
      · cases ha'.symm.trans hnone
      · cases hb
        exact ⟨m', hmet⟩
    · rintro ⟨m', hmet⟩
      rcases hofferer with ⟨-, hown⟩ | ⟨b, d, c, hb, -⟩
      · rcases hanswerer with ⟨hno, -⟩ | ⟨b, d, c, hb, hmet', hshown⟩
        · exact absurd hmet (hno m f m' rfl)
        · cases hb
          exact h.paired_of_met hown hshown (.inl hmet')
      · cases hb
  cases s with
  | linked e e' => exact hone rfl hm
  | borrowed a b => exact hone rfl hm
  | refused e a b =>
    obtain ⟨rfl, rfl⟩ := Prod.mk.inj (Option.some.inj hm)
    have hno : ∀ m', (e, m') ∉ p.state.ends := h.not_met hat rfl rfl
    -- the channel of the offer stays alone, and the page of `y` has its own one
    have hanswerer : (p.state.wiring (page k.ty)).channel k.x k.y = some b := by
      rcases hat.holds.answererChannel with ⟨-, hown⟩ | ⟨c, d, m', hc, hmet, -⟩
      · exact hown
      · cases hc
        exact absurd hmet (hno m')
    constructor
    · rintro ⟨c, c', -, -, hc, hc', hmet, -⟩
      obtain rfl : b = c' := Option.some.inj (hanswerer.symm.trans hc')
      rcases hat.holds.offererChannel with ⟨hno', hown⟩ | ⟨d, d', m', hd, hshown, -⟩
      · cases hc.symm.trans hown
        rcases hmet with hmet | hmet
        · exact absurd hmet (hno b)
        · exact ⟨_, hmet⟩
      · cases hd
        exact ⟨m', hshown⟩
    · rintro ⟨m', hmet⟩
      rcases hat.holds.offererChannel with ⟨hno', -⟩ | ⟨d, d', c, hd, hmet', hshown⟩
      · exact absurd hmet (hno' b a m' rfl)
      · cases hd
        exact h.paired_of_met hshown hanswerer (.inr hmet')
  | _ => cases htask

/-- Two clients whose messages have been handled. -/
theorem Staged.paired_iff (h : Staged W page g steps p) (hquiet : Quiet W page p)
    (hnumbered : p.state.Numbered) (hs : g k = some s) :
    Paired W p.state (page k.tx) k.x (page k.ty) k.y ↔
      ∀ f, Shares page steps k.x k.y f → ∀ x y, ¬Refuses W page steps x y f := by
  have hat := h.stage k s hs
  have htask := hquiet.task_eq_none hat
  have hcarries : ∀ {m f : Nat}, s.carrier = some (m, f) →
      (Paired W p.state (page k.tx) k.x (page k.ty) k.y ↔
        ∀ x y, ¬Refuses W page steps x y f) := by
    intro m f hm
    exact (h.paired_iff_met hs htask hm).trans (h.met_iff hquiet hnumbered hs hm)
  have hfound : ∀ {m f : Nat}, s.carrier = some (m, f) → s.shared = some f →
      (Paired W p.state (page k.tx) k.x (page k.ty) k.y ↔
        ∀ f, Shares page steps k.x k.y f → ∀ x y, ¬Refuses W page steps x y f) := by
    intro m f hm hf
    rw [hcarries hm]
    constructor
    · intro hrefuses f' hf'
      rw [hat.shares, hf] at hf'
      obtain rfl := Option.some.inj hf'
      exact hrefuses
    · exact fun hall => hall f ((hat.shares f).mpr hf)
  cases s with
  | linked e e' =>
    have hpaired : Paired W p.state (page k.tx) k.x (page k.ty) k.y := by
      rw [h.paired_iff_met hs rfl rfl]
      exact hquiet.met (hat.holds.first e e rfl).1 (.inl hat.holds.linked)
        (hat.holds.answer e' rfl) rfl (hat.holds.first e e rfl).2.2
    refine iff_of_true hpaired fun f hf => ?_
    rw [hat.shares] at hf
    cases hf
  | borrowed f m => exact hfound rfl rfl
  | refused e f m => exact hfound rfl rfl
  | _ => cases htask

theorem Pair.Registered.of_connected {q : Runner} {tx ty : Nat} {x y : String}
    (hx : q.Connected tx x) (hy : q.Connected ty y) (hpage : page tx ≠ page ty) :
    ∃ sx sy, Pair.Registered ⟨tx, x, sx, ty, y, sy⟩ q := by
  obtain ⟨sx, hmx⟩ := Runner.connected_iff.mp hx
  obtain ⟨sy, hmy⟩ := Runner.connected_iff.mp hy
  refine ⟨sx, sy, hmx, hmy, ?_⟩
  show x ≠ y
  intro hxy
  rw [hxy] at hmx
  exact hpage (congrArg page (hmx.eq hmy).1)

/-- Once everything is handled, the channels of every two clients on different pages are
the two ends of one channel, if and only if no connection has been used for such
clients whose own offer has been refused. -/
theorem allPaired_iff (hrun : RunnerRun W page steps p) (hstays : Stays steps)
    (hquiet : Quiet W page p) : AllPaired W page p ↔ NoRefusedFound W page steps p := by
  obtain ⟨g, hg⟩ := RunnerRun.staged hrun hstays
  have hnumbered := RunnerRun.numbered hrun
  constructor
  · intro hpaired tx x ty y f hx hy hpage hshares
    obtain ⟨k, s, hs, hkx, hky⟩ := hg.past x y f (.inl hshares)
    have hk := (hg.stage k s hs).registered
    obtain ⟨sx, sy, hk'⟩ := Pair.Registered.of_connected hx hy hpage
    obtain rfl := hk.ext hk' hkx hky
    exact (hg.paired_iff hquiet hnumbered hs).mp (hpaired tx x ty y hx hy hpage) f hshares
  · intro hfound tx x ty y hx hy hpage
    obtain ⟨sx, sy, hk⟩ := Pair.Registered.of_connected hx hy hpage
    rcases hg.all _ hk with hsome | hsome
    · obtain ⟨s, hs⟩ := Option.isSome_iff_exists.mp hsome
      exact (hg.paired_iff hquiet hnumbered hs).mpr fun f => hfound tx x ty y f hx hy hpage
    · obtain ⟨s, hs⟩ := Option.isSome_iff_exists.mp hsome
      exact ((hg.paired_iff hquiet hnumbered hs).mpr fun f =>
        hfound ty y tx x f hy hx hpage.symm).symm

/-! ## Runs that can be evaluated -/

instance : Decidable (Stays steps) :=
  decidable_of_iff (∀ z ∈ steps, (match z.2 with | .leave .. => false | _ => true) = true) (by
    refine forall₂_congr fun z _ => ?_
    cases z.2 <;> simp)

/-- Nothing happens on a page without threads. -/
theorem RunnerRun.page_eq (hrun : RunnerRun W page steps p) {n : Nat}
    (hn : ∀ thread, page thread ≠ n) : p.state.pages n = {} := by
  have hadmits : ∀ x ∈ steps, (fun _ => True) x := fun _ _ => trivial
  have hne : ∀ thread, n ≠ page thread := fun thread => (hn thread).symm
  refine Run.invariant (I := fun p => p.state.pages n = {}) hrun hadmits ?_ ?_
  · rintro p rfl
    rfl
  · intro q a q' hq _ hstep
    cases hstep with
    | join | leave | onicecandidate => exact hq
    | onconnectionstatechange hconnection =>
      rw [RunnerPool.add, Runner.changeState, Runner.pages_setPage, if_neg]
      · exact hq
      · rintro rfl
        rw [hq] at hconnection
        cases hconnection
    | ondatachannel hconnection =>
      show (q.state.showChannel _ _ _ _ _).pages n = {}
      rw [Runner.showChannel, Runner.pages_setPage, if_neg]
      · exact hq
      · rintro rfl
        rw [hq] at hconnection
        cases hconnection
    | @resume t before after htasks =>
      show (t.resume W page q.state).1.pages n = {}
      cases t <;> simp [RunnerTask.resume, Runner.serve, Runner.pages_setPage, hne, hq]

/-- Every channel that can show up at one of the pages has done so. -/
def AllShown (W : WebRtc) (pages : List Nat) (p : Runner) : Prop :=
  ∀ n ∈ pages, ∀ c ∈ (p.pages n).peerConnections.entries, c.2.ondatachannel ≠ none →
    ∀ n' ∈ pages, ∀ ch ∈ (p.pages n').dataChannels.entries,
      p.Linked W n c.1 n' ch.2.connection → ∃ ends ∈ p.ends, ends.1 = ch.1 ∨ ends.2 = ch.1

instance (pages : List Nat) (p : Runner) : Decidable (AllShown W pages p) :=
  inferInstanceAs (Decidable (∀ n ∈ pages, ∀ c ∈ (p.pages n).peerConnections.entries,
    c.2.ondatachannel ≠ none → ∀ n' ∈ pages, ∀ ch ∈ (p.pages n').dataChannels.entries,
      p.Linked W n c.1 n' ch.2.connection → ∃ ends ∈ p.ends, ends.1 = ch.1 ∨ ends.2 = ch.1))

theorem quiet_of_allShown (hrun : RunnerRun W page steps p) {pages : List Nat}
    (hpages : ∀ thread, page thread ∈ pages) (hhandled : ∀ t ∈ p.tasks, t.signals = false)
    (hshown : AllShown W pages p.state) : Quiet W page p := by
  refine ⟨hhandled, ?_⟩
  have hused : ∀ n, p.state.pages n ≠ {} → n ∈ pages := by
    intro n hn
    by_contra hmem
    exact hn (RunnerRun.page_eq hrun fun thread hthread => hmem (hthread ▸ hpages thread))
  intro n e n' m p' hstep
  cases hstep with
  | @ondatachannel _ _ _ _ c localId ch hconnection hlocal hchannel hlinked hnew =>
    have hn : n ∈ pages := by
      refine hused n fun hempty => ?_
      rw [hempty] at hconnection
      cases hconnection
    have hn' : n' ∈ pages := by
      refine hused n' fun hempty => ?_
      rw [hempty] at hchannel
      cases hchannel
    obtain ⟨ends, hends, heq⟩ := hshown n hn (e, c) (Map.mem_entries_iff.mpr hconnection)
      (by simp [hlocal]) n' hn' (m, ch) (Map.mem_entries_iff.mpr hchannel) hlinked
    exact heq.elim (hnew ends hends).1 (hnew ends hends).2

/-- The connection that a step finds. -/
def foundAt (page : Nat → Nat) (z : RunnerPool × RunnerStep) : Option Nat :=
  match z.2 with
  | .resume (.handleOffer thread y _ _) => (z.1.state.pages (page thread)).existing y
  | .resume (.getAnswer thread _ x _ _) => (z.1.state.pages (page thread)).existing x
  | _ => none

/-- The offer that a step refuses. -/
def refusedAt (page : Nat → Nat) (z : RunnerPool × RunnerStep) : Option String :=
  match z.2 with
  | .resume (.getAnswer thread _ x _ offer) =>
    ((z.1.state.pages (page thread)).existing x).map fun _ => offer
  | _ => none

theorem noRefusedFound_of_lists
    (h : ∀ f ∈ steps.filterMap (foundAt page), W.offer f ∉ steps.filterMap (refusedAt page)) :
    NoRefusedFound W page steps p := by
  rintro tx x ty y f - - - ⟨z, hz, hfound⟩ x' y' ⟨z', hz', hrefused⟩
  refine h f (List.mem_filterMap.mpr ⟨z, hz, ?_⟩) (List.mem_filterMap.mpr ⟨z', hz', ?_⟩)
  · rcases hfound with ⟨thread, myId, hstep, hf⟩ | ⟨thread, myId, offer, hstep, hf⟩
    · rw [foundAt, hstep]
      exact hf
    · rw [foundAt, hstep]
      exact hf
  · obtain ⟨thread, myId, hstep, hsome⟩ := hrefused
    obtain ⟨e, he⟩ := Option.ne_none_iff_exists'.mp hsome
    simp only [refusedAt, hstep, he, Option.map_some]

end Quiet

/-! ## Two pages -/

/-- Two clients on one page, the first of which meets a client of the other page. -/
def meetingEvents : List RunnerEvent :=
  [.join 0 "10.0.0.0", .join 1 "10.0.1.0"] ++ List.replicate 15 (.resume 0) ++
    [.join 2 "10.0.0.1"] ++ List.replicate 22 (.resume 0)

theorem page_of_two (thread : Nat) : thread % 2 ∈ [0, 1] := by
  simp only [List.mem_cons, List.not_mem_nil, or_false]
  omega

/-- The client that joins last uses the connection of the other one of its page. -/
theorem allPaired_iff_run : ∃ steps p, RunnerRun .numbered (· % 2) steps p ∧
    steps.filterMap (foundAt (· % 2)) = [0] ∧ AllPaired .numbered (· % 2) p := by
  obtain ⟨steps, p, hrun, hstays, hfound, hrefused, hhandled, hshown⟩ :=
    RunnerRun.exists_along .numbered (· % 2) (P := fun steps p => Stays steps ∧
      steps.filterMap (foundAt (· % 2)) = [0] ∧
      steps.filterMap (refusedAt (· % 2)) = [WebRtc.numbered.offer 3] ∧
      (∀ t ∈ p.tasks, t.signals = false) ∧ AllShown .numbered [0, 1] p.state)
    (meetingEvents ++ [.ondatachannel 0 4 0 2, .ondatachannel 1 1 0 0, .ondatachannel 1 1 0 5])
    (by decide +kernel)
  have hquiet := quiet_of_allShown hrun page_of_two hhandled hshown
  refine ⟨steps, p, hrun, hfound, (allPaired_iff hrun hstays hquiet).mpr ?_⟩
  apply noRefusedFound_of_lists
  rw [hfound, hrefused]
  decide +kernel

/-- A second client of the other page joins.  The offer that it gets from the first client
is refused, and the other client of that page has created its channel on the
connection of this offer. -/
theorem refused_connection_found : ¬∀ (W : WebRtc) (page : Nat → Nat)
    (steps : List (RunnerPool × RunnerStep)) (p : RunnerPool), RunnerRun W page steps p →
    Stays steps → Quiet W page p → AllPaired W page p := by
  intro hall
  obtain ⟨steps, p, hrun, hstays, hhandled, hshown, hx, hy, hchannel, hends⟩ :=
    RunnerRun.exists_along .numbered (· % 2) (P := fun steps p => Stays steps ∧
      (∀ t ∈ p.tasks, t.signals = false) ∧ AllShown .numbered [0, 1] p.state ∧
      p.state.Connected 2 "10.0.0.1" ∧ p.state.Connected 3 "10.0.1.1" ∧
      (p.state.pages 0).channel "10.0.1.1" "10.0.0.1" = some 8 ∧
      ∀ ends ∈ p.state.ends, ends.1 ≠ 8 ∧ ends.2 ≠ 8)
    (meetingEvents ++ [.join 3 "10.0.1.1"] ++ List.replicate 24 (.resume 0) ++
      [.ondatachannel 0 4 0 2, .ondatachannel 0 0 1 9, .ondatachannel 1 1 0 0,
        .ondatachannel 1 1 0 5, .ondatachannel 1 10 1 7])
    (by decide +kernel)
  have hquiet := quiet_of_allShown hrun page_of_two hhandled hshown
  obtain ⟨m, m', -, -, hm, -, hmet, -⟩ := hall _ _ _ _ hrun hstays hquiet 2 _ 3 _ hx hy (by decide)
  obtain rfl : 8 = m := Option.some.inj (hchannel.symm.trans hm)
  rcases hmet with hmet | hmet
  · exact (hends _ hmet).1 rfl
  · exact (hends _ hmet).2 rfl

end Unisockets.Transport
