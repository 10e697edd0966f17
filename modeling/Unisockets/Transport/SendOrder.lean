import Unisockets.Transport.Senders

/-!
# The order of the calls of `send`

A browser makes a call of `send` in a task of its own, opens a channel and calls its `onopen` in
one, and runs the promises that this resolves, in order, before the next task.  `InTasks` is
what matters of it: no call is made and no other channel opens while wake-ups are under way, and
calls go on in the order in which their listeners have been called.

Then the messages of a pair are given to its channels in the order of the calls
(`SendersRun.in_order`).  Without it a call may overtake those that wait
(`SendersRun.overtaking`).
-/

namespace Unisockets.Transport

open JsStd Transition

namespace Senders

variable {E : Emittery Nat} {p p' : Senders} {a : SendersStep}

/-- Two calls are for one pair of ids. -/
def SamePair (call call' : Sender) : Prop :=
  call.remoteId = call'.remoteId ∧ call.localId = call'.localId

/-- The calls of a pair are in order: those that wait, those that are to go on, and those that
have given their message to a channel. -/
structure Ordered (p : Senders) : Prop where
  few : p.opened.length + p.emissions.length ≤ 1
  idle : p.resolved ≠ [] → p.opened = [] ∧ p.emissions = []
  waiting : ∀ remoteId localId,
    (p.page.transporter.listeners (getChannelKey remoteId localId)).Pairwise (· < ·)
  snapshot : ∀ e ∈ p.emissions, e.2 = p.page.transporter.listeners e.1
  going : p.resolved.Pairwise (· < ·)
  behind : ∀ n ∈ p.resolved, ∀ call, p.calls n = some call →
    ∀ m ∈ p.page.transporter.listeners call.key, m < n
  below : ∀ t ∈ p.sent, t.call < p.nextCall ∧
    ∀ n call, p.calls n = some call → SamePair t.sender call → t.call < n
  sent : p.sent.Pairwise fun t t' => SamePair t.sender t'.sender → t.call < t'.call

namespace Ordered

variable {n : Nat} {call : Sender}

theorem init : Ordered {} := by
  constructor
  · exact Nat.zero_le 1
  · exact fun h => absurd rfl h
  · exact fun _ _ => .nil
  · exact fun _ h => absurd h List.not_mem_nil
  · exact .nil
  · exact fun _ h => absurd h List.not_mem_nil
  · exact fun _ h => absurd h List.not_mem_nil
  · exact .nil

/-- The calls that wait are the same. -/
theorem page (h : Ordered p) (halert : Alert p) {page : Working}
    (hlisteners : ∀ remoteId localId,
      page.transporter.listeners (getChannelKey remoteId localId)
        = p.page.transporter.listeners (getChannelKey remoteId localId)) :
    Ordered { p with page := page } := by
  refine ⟨h.few, h.idle, fun r l => ?_, fun e he => ?_, h.going, fun n hn call hcall m hm => ?_,
    h.below, h.sent⟩
  · rw [hlisteners]
    exact h.waiting r l
  · obtain ⟨⟨r, l, hkey⟩, -⟩ := halert.emitted e he
    rw [h.snapshot e he, hkey]
    exact (hlisteners r l).symm
  · have hm : m ∈ page.transporter.listeners (getChannelKey call.remoteId call.localId) := hm
    rw [hlisteners] at hm
    exact h.behind n hn call hcall m hm

theorem onopen (h : Ordered p) {channel : Nat} (hmem : channel ∈ p.opened)
    {emissions : List (String × List Nat)} (hone : emissions.length ≤ 1)
    (hsnapshot : ∀ e ∈ emissions, e.2 = p.page.transporter.listeners e.1) :
    Ordered { p with
      opened := p.opened.erase channel
      emissions := p.emissions ++ emissions } := by
  have hpos := List.length_pos_of_mem hmem
  have hidle : p.resolved = [] := by
    by_contra hne
    rw [(h.idle hne).1] at hmem
    exact absurd hmem List.not_mem_nil
  refine ⟨?_, fun hne => absurd hidle hne, h.waiting, fun e he => ?_, h.going, h.behind, h.below,
    h.sent⟩
  · have hfew := h.few
    show (p.opened.erase channel).length + (p.emissions ++ emissions).length ≤ 1
    rw [List.length_erase_of_mem hmem, List.length_append]
    omega
  · rcases List.mem_append.mp he with he | he
    · exact h.snapshot e he
    · exact hsnapshot e he

/-- All the calls that wait for the event are called. -/
theorem emit (h : Ordered p) (halert : Alert p) {key : String} {calls : List Nat}
    {emissions : List (String × List Nat)} (hemissions : p.emissions = (key, calls) :: emissions) :
    Ordered { p.setTransporter (p.page.transporter.off key
        (E.called calls (p.page.transporter.listeners key))) with
      emissions := emissions
      resolved := p.resolved ++ E.called calls (p.page.transporter.listeners key) } := by
  obtain ⟨⟨r₀, l₀, hkey⟩, -⟩ := halert.emitted (key, calls) (by simp [hemissions])
  have hkey : key = getChannelKey r₀ l₀ := hkey
  have hcalls : calls = p.page.transporter.listeners key :=
    h.snapshot (key, calls) (by simp [hemissions])
  have hsublist := E.sublist calls (p.page.transporter.listeners key)
  have hcalled := E.mem_called calls (p.page.transporter.listeners key)
  generalize E.called calls (p.page.transporter.listeners key) = called at hsublist hcalled
  have hidle : p.resolved = [] := by
    by_contra hne
    rw [(h.idle hne).2] at hemissions
    cases hemissions
  have hfew := h.few
  rw [hemissions, List.length_cons] at hfew
  have hopened : p.opened = [] := List.length_eq_zero_iff.mp (by omega)
  have hrest : emissions = [] := List.length_eq_zero_iff.mp (by omega)
  refine ⟨?_, fun _ => ⟨hopened, hrest⟩, fun r l => ?_, fun e he => ?_, ?_,
    fun n hn call hcall m hm => ?_, h.below, h.sent⟩
  · simp [hrest, setTransporter, hopened]
  · exact (h.waiting r l).sublist (Transporter.listeners_off_sublist called)
  · have he : e ∈ emissions := he
    rw [hrest] at he
    exact absurd he List.not_mem_nil
  · show (p.resolved ++ called).Pairwise _
    rw [hidle, List.nil_append]
    rw [hcalls, hkey] at hsublist
    exact (h.waiting r₀ l₀).sublist hsublist
  · have hn : n ∈ p.resolved ++ called := hn
    rw [hidle, List.nil_append] at hn
    have hlistens := ((hcalled n).mp hn).2
    rw [hkey] at hlistens
    obtain ⟨-, call', hcall', heq⟩ := halert.listening r₀ l₀ n hlistens
    obtain rfl := Option.some.inj (hcall'.symm.trans hcall)
    rw [setTransporter, Transporter.mem_listeners_off, heq, ← hkey] at hm
    -- the listeners of the event at `emit` are those that are there now
    exact absurd ((hcalled m).mpr ⟨hcalls ▸ hm.1, hm.1⟩) (hm.2 rfl)

theorem take (h : Ordered p) (n : Nat) : Ordered (p.take n) := by
  have hcalls : ∀ m call, (p.take n).calls m = some call → p.calls m = some call := by
    intro m call hcall
    by_cases hm : m = n
    · subst hm
      simp [Senders.take] at hcall
    · simpa [Senders.take, hm] using hcall
  constructor
  · exact h.few
  · intro hne
    exact h.idle fun hnil => hne (by simp [Senders.take, hnil])
  · exact h.waiting
  · exact h.snapshot
  · exact h.going.sublist List.erase_sublist
  · intro m hm call hcall
    exact h.behind m (List.mem_of_mem_erase hm) call (hcalls m call hcall)
  · intro t ht
    exact ⟨(h.below t ht).1, fun m call hcall => (h.below t ht).2 m call (hcalls m call hcall)⟩
  · exact h.sent

theorem transmit (h : Ordered p) (channel : Nat) (hn : n < p.nextCall)
    (hfirst : ∀ m call', p.calls m = some call' → SamePair call call' → n < m)
    (hlast : ∀ t ∈ p.sent, SamePair t.sender call → t.call < n) :
    Ordered (p.transmit n call channel) := by
  refine ⟨h.few, h.idle, h.waiting, h.snapshot, h.going, h.behind, fun t ht => ?_, ?_⟩
  · rcases List.mem_append.mp ht with ht | ht
    · exact h.below t ht
    · rw [List.mem_singleton.mp ht]
      exact ⟨hn, hfirst⟩
  · apply List.pairwise_append.mpr
    refine ⟨h.sent, List.pairwise_singleton _ _, fun t ht t' ht' => ?_⟩
    rw [List.mem_singleton.mp ht']
    exact hlast t ht

theorem await (h : Ordered p) (hemissions : p.emissions = [])
    (hlast : ∀ m ∈ p.page.transporter.listeners call.key, m < n)
    (hnext : ∀ m ∈ p.resolved, n < m)
    (hbelow : ∀ t ∈ p.sent, SamePair t.sender call → t.call < n) : Ordered (p.await n call) := by
  have hlisteners : ∀ key, (p.await n call).page.transporter.listeners key
      = p.page.transporter.listeners key ++ (if call.key = key then [n] else []) :=
    fun key => Transporter.listeners_once call.key key n
  have hcalls : ∀ m call', (p.await n call).calls m = some call' →
      m = n ∧ call' = call ∨ p.calls m = some call' := by
    intro m call' hcall
    by_cases hm : m = n
    · subst hm
      exact .inl ⟨rfl, by simpa [Senders.await, eq_comm] using hcall⟩
    · exact .inr (by simpa [Senders.await, hm] using hcall)
  refine ⟨h.few, h.idle, fun r l => ?_, fun e he => ?_, h.going, fun m hm call' hcall m' hm' => ?_,
    fun t ht => ⟨(h.below t ht).1, fun m call' hcall hsame => ?_⟩, h.sent⟩
  · rw [hlisteners]
    split_ifs with hkey
    · apply List.pairwise_append.mpr
      refine ⟨h.waiting r l, List.pairwise_singleton _ _, fun m hm m' hm' => ?_⟩
      rw [List.mem_singleton.mp hm']
      rw [← hkey] at hm
      exact hlast m hm
    · rw [List.append_nil]
      exact h.waiting r l
  · have he : e ∈ p.emissions := he
    rw [hemissions] at he
    exact absurd he List.not_mem_nil
  · rw [hlisteners] at hm'
    have hlt := hnext m hm
    rcases hcalls m call' hcall with ⟨rfl, -⟩ | hcall
    · exact absurd hlt (Nat.lt_irrefl m)
    · rcases List.mem_append.mp hm' with hm' | hm'
      · exact h.behind m hm call' hcall m' hm'
      · split_ifs at hm'
        · rwa [List.mem_singleton.mp hm']
        · exact absurd hm' List.not_mem_nil
  · rcases hcalls m call' hcall with ⟨rfl, rfl⟩ | hcall
    · exact hbelow t ht hsame
    · exact (h.below t ht).2 m call' hcall hsame

end Ordered

/-- A call is made and a channel opens in a task of its own, when nothing is under way, and the
calls go on in the order in which their listeners have been called. -/
def InTasks : Senders × SendersStep → Prop
  | (p, .send ..) | (p, .opening _) => p.Settled
  | (p, .resume n) => p.resolved.head? = some n
  | _ => True

instance : DecidablePred InTasks := by
  rintro ⟨p, a⟩
  cases a with
  | send => exact inferInstanceAs (Decidable p.Settled)
  | opening => exact inferInstanceAs (Decidable p.Settled)
  | resume n => exact inferInstanceAs (Decidable (p.resolved.head? = some n))
  | _ => exact inferInstanceAs (Decidable True)

/-- A call that goes on first is in front of the others of its pair. -/
theorem Ordered.resume (h : Ordered p) (halert : Alert p) {n : Nat} {call : Sender}
    (hcall : p.calls n = some call) (hhead : p.resolved.head? = some n) :
    Ordered ((p.take n).look n call) := by
  obtain ⟨rest, hresolved⟩ : ∃ rest, p.resolved = n :: rest := by
    cases hresolved : p.resolved with
    | nil => simp [hresolved] at hhead
    | cons m rest =>
      rw [hresolved] at hhead
      obtain rfl := Option.some.inj hhead
      exact ⟨rest, rfl⟩
  have hn : n ∈ p.resolved := List.mem_of_mem_head? hhead
  have htaken : (p.take n).resolved = rest := by simp [Senders.take, hresolved]
  obtain ⟨hopened, hemissions⟩ := h.idle (List.ne_nil_of_mem hn)
  have hnext : ∀ m ∈ rest, n < m := by
    have hgoing := h.going
    rw [hresolved] at hgoing
    exact (List.pairwise_cons.mp hgoing).1
  have hbelow : ∀ t ∈ p.sent, SamePair t.sender call → t.call < n :=
    fun t ht => (h.below t ht).2 n call hcall
  have hlt : n < p.nextCall := by
    by_contra hle
    rw [halert.young n (Nat.le_of_not_lt hle)] at hcall
    cases hcall
  have halert' := halert.take hn
  rcases (p.take n).look_cases n call with
    ⟨channel, hopen, -, hlook⟩ | ⟨-, ⟨-, hlook⟩ | ⟨-, hlook⟩⟩
  · rw [hlook]
    apply (h.take n).transmit channel hlt _ hbelow
    intro m call' hcall' hsame
    rcases halert'.waits m call' hcall' with hm | hm
    · -- a call that waits would have been called by now
      rw [hsame.1, hsame.2] at hopen
      rcases halert'.woken m call' channel hcall' hm hopen with hmem | ⟨e, he, -⟩
      · have hmem : channel ∈ p.opened := hmem
        rw [hopened] at hmem
        exact absurd hmem List.not_mem_nil
      · have he : e ∈ p.emissions := he
        rw [hemissions] at he
        exact absurd he List.not_mem_nil
    · rw [htaken] at hm
      exact hnext m hm
  · rw [hlook]
    apply (h.take n).await hemissions (h.behind n hn call hcall) _ hbelow
    rw [htaken]
    exact hnext
  · rw [hlook]
    exact h.take n

theorem Ordered.step (h : Ordered p) (halert : Alert p) (hstep : Step E p a p')
    (htasks : InTasks (p, a)) : Ordered p' := by
  cases a with
  | page a =>
    obtain ⟨hwakes, page, hpage, rfl⟩ := hstep.page
    exact h.page halert (hpage.passive hwakes).listeners
  | received remoteId localId calls =>
    cases hstep
    have hpassive : p.page.transporter.Passive p.page.fresh p.page.fresh
        (p.page.transporter.off (getMessageKey remoteId localId) calls) :=
      Transporter.passive_off remoteId localId calls
    exact h.page halert hpassive.listeners
  | opening channel =>
    obtain ⟨hopened, hemissions, hresolved⟩ : p.Settled := htasks
    rw [hstep.opening]
    have hpage : Ordered (p.setTransporter (p.page.transporter.setDataChannel channel fun c =>
        { c with readyState := .open })) := by
      apply h.page halert
      intro r l
      rw [Transporter.listeners, Transporter.asyncResolver_setDataChannel, Transporter.listeners]
    refine ⟨?_, fun hne => absurd hresolved hne, hpage.waiting, hpage.snapshot, hpage.going,
      hpage.behind, hpage.below, hpage.sent⟩
    simp [hopened, setTransporter, hemissions]
  | onopen channel =>
    obtain ⟨hmem, emissions, rfl, hemissions⟩ := hstep.onopen
    apply h.onopen hmem
    · rw [hemissions]
      exact Option.length_toList_le
    · intro e he
      rw [hemissions, Option.mem_toList] at he
      obtain ⟨pair, -, rfl⟩ := Option.map_eq_some_iff.mp he
      rfl
  | emit =>
    obtain ⟨key, calls, emissions, hemissions, rfl⟩ := hstep.emit
    exact h.emit halert hemissions
  | send remoteId localId msg =>
    have hsettled : p.Settled := htasks
    have hdraw : Ordered { p with nextCall := p.nextCall + 1 } :=
      ⟨h.few, h.idle, h.waiting, h.snapshot, h.going, h.behind,
        fun t ht => ⟨(h.below t ht).1.trans (Nat.lt_succ_self _), (h.below t ht).2⟩, h.sent⟩
    have hbelow : ∀ t ∈ p.sent, SamePair t.sender ⟨remoteId, localId, msg⟩ →
        t.call < p.nextCall := fun t ht _ => (h.below t ht).1
    rcases hstep.send with ⟨channel, hopen, rfl⟩ | ⟨-, rfl⟩
    · apply hdraw.transmit channel (Nat.lt_succ_self _) _ hbelow
      intro m call' hcall' hsame
      -- a call of the pair that waits has found no open channel
      have hclosed := halert.closed hsettled hcall'
      rw [← hsame.1, ← hsame.2] at hclosed
      exact absurd (hopen.symm.trans hclosed) (by simp)
    · apply hdraw.await hsettled.2.1 _ _ hbelow
      · intro m hm
        obtain ⟨-, call', hcall', -⟩ := halert.listening remoteId localId m hm
        by_contra hle
        rw [halert.young m (Nat.le_of_not_lt hle)] at hcall'
        cases hcall'
      · intro m hm
        have hm : m ∈ p.resolved := hm
        rw [hsettled.2.2] at hm
        exact absurd hm List.not_mem_nil
  | resume n =>
    obtain ⟨-, call, hcall, rfl⟩ := hstep.resume
    exact h.resume halert hcall htasks

end Senders

namespace SendersRun

variable {E : Emittery Nat} {steps : List (Senders × SendersStep)} {p : Senders}

theorem ordered (hrun : SendersRun E steps p) (htasks : ∀ x ∈ steps, Senders.InTasks x) :
    p.Ordered := by
  induction hrun with
  | start hinit =>
    subst hinit
    exact .init
  | @snoc steps p p' a hrun hstep ih =>
    have hbefore := ih fun x hx => htasks x (List.mem_append_left _ hx)
    exact hbefore.step (alert hrun) hstep (htasks (p, a) (by simp))

/-- If calls are made and channels open in tasks of their own, the calls of a pair give their
messages to its channels in the order in which they have been made, and none that is still
waiting has been made before one that has. -/
theorem in_order (hrun : SendersRun E steps p) (htasks : ∀ x ∈ steps, Senders.InTasks x) :
    (p.sent.Pairwise fun t t' => Senders.SamePair t.sender t'.sender → t.call < t'.call) ∧
      ∀ t ∈ p.sent, ∀ n call, p.calls n = some call → Senders.SamePair t.sender call →
        t.call < n :=
  ⟨(hrun.ordered htasks).sent, fun t ht => ((hrun.ordered htasks).below t ht).2⟩

/-- Two calls that wait for one channel. -/
theorem in_order_waiting : ∃ (steps : List (Senders × SendersStep)) (p : Senders),
    SendersRun .subscribed steps p ∧ p.sent.map (·.call) = [0, 1] ∧
      p.sent.Pairwise fun t t' => Senders.SamePair t.sender t'.sender → t.call < t'.call := by
  have hstart : SendersRun .subscribed [] {} := .start rfl
  have hoffer := hstart.snoc (a := SendersStep.page (.getOffer "10.0.0.1" "10.0.0.0"
    ⟨0, "10.0.0.0", "10.0.0.1"⟩)) rfl
  have hcalls := (hoffer.snoc (a := SendersStep.send "10.0.0.1" "10.0.0.0" [104]) rfl).snoc
    (a := SendersStep.send "10.0.0.1" "10.0.0.0" [105]) rfl
  have hopen := (hcalls.snoc (a := SendersStep.opening 0) rfl).snoc
    (a := SendersStep.onopen 0) rfl
  have hrun := ((hopen.snoc (a := SendersStep.emit) rfl).snoc
    (a := SendersStep.resume 0) rfl).snoc (a := SendersStep.resume 1) rfl
  exact ⟨_, _, hrun, rfl, (in_order hrun (by decide)).1⟩

/-- A call that is made between the opening of a channel and its `onopen`: it gives its message
to the channel, while the call in front of it waits. -/
theorem overtaking : ∃ (steps : List (Senders × SendersStep)) (p : Senders),
    SendersRun E steps p ∧ p.sent.map (·.call) = [1] ∧
      p.calls 0 = some ⟨"10.0.0.1", "10.0.0.0", [104]⟩ := by
  have hstart : SendersRun E [] {} := .start rfl
  have hoffer := hstart.snoc (a := SendersStep.page (.getOffer "10.0.0.1" "10.0.0.0"
    ⟨0, "10.0.0.0", "10.0.0.1"⟩)) rfl
  have hopening := (hoffer.snoc (a := SendersStep.send "10.0.0.1" "10.0.0.0" [104]) rfl).snoc
    (a := SendersStep.opening 0) rfl
  have hrun := hopening.snoc (a := SendersStep.send "10.0.0.1" "10.0.0.0" [105]) rfl
  exact ⟨_, _, hrun, rfl, rfl⟩

end SendersRun

end Unisockets.Transport
