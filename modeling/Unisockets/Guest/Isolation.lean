import Unisockets.Guest.Separation

/-!
# Isolation

The steps of the two clients together.  The handshakes say where the two ends of a
connection are, and a message that a call returns comes from the other end of the
connection of its descriptor, in every run whose steps are `Undisturbed`.
-/

namespace Unisockets.Guest

open JsStd Transition Transport

/-- The end of a connection at a client. -/
def EndAt (handshakes : List Handshake) (n : Nat) (s : Side) (fd : Nat) : Prop :=
  ∃ h ∈ handshakes[n]?, h.fd s = some fd

section Handshakes

variable {handshakes : List Handshake} {n n' fd fd' : Nat} {s s' : Side}

theorem EndAt.append (h : EndAt handshakes n s fd) (handshake : Handshake) :
    EndAt (handshakes ++ [handshake]) n s fd := by
  obtain ⟨h₀, hmem, hfd⟩ := h
  refine ⟨h₀, ?_, hfd⟩
  have hget := Option.mem_def.mp hmem
  rw [Option.mem_def, List.getElem?_append_left (List.getElem?_eq_some_iff.mp hget).1, hget]

/-- A descriptor that returns is the end of its connection, and the other ends stay. -/
theorem EndAt.set (h : EndAt handshakes n' s' fd') {before after : Handshake}
    (hbefore : handshakes[n]? = some before)
    (hafter : ∀ s fd, before.fd s = some fd → after.fd s = some fd) :
    EndAt (handshakes.set n after) n' s' fd' := by
  obtain ⟨h₀, hmem, hfd⟩ := h
  have hget := Option.mem_def.mp hmem
  by_cases hn : n = n'
  · subst hn
    obtain rfl := Option.some.inj (hbefore.symm.trans hget)
    refine ⟨after, ?_, hafter s' fd' hfd⟩
    rw [Option.mem_def, List.getElem?_set_self (List.getElem?_eq_some_iff.mp hget).1]
  · refine ⟨h₀, ?_, hfd⟩
    rw [Option.mem_def, List.getElem?_set_ne hn, hget]

theorem endAt_set {before after : Handshake} (hbefore : handshakes[n]? = some before)
    (hafter : after.fd s = some fd) : EndAt (handshakes.set n after) n s fd := by
  refine ⟨after, ?_, hafter⟩
  rw [Option.mem_def, List.getElem?_set_self (List.getElem?_eq_some_iff.mp hbefore).1]

theorem Side.other_ne (s : Side) : s.other ≠ s := by
  cases s <;> decide

end Handshakes

/-- What is at a client belongs to the connections of the handshakes. -/
structure Client.Ended (handshakes : List Handshake) (s : Side) (c : Client) : Prop where
  own (fd n : Nat) (h : c.connections fd = some n) : EndAt handshakes n s fd
  seen (o : Origin) (h : c.Seen o) : EndAt handshakes o.connection s.other o.fd
  called (n : Nat) (call : RecvCall) (h : c.calls n = some call) (k : Nat)
    (hk : call.connection = some k) : EndAt handshakes k s call.fd

namespace Client

variable {handshakes handshakes' : List Handshake} {s : Side} {c c' : Client}

theorem Ended.mono (h : c.Ended handshakes s)
    (hends : ∀ n s fd, EndAt handshakes n s fd → EndAt handshakes' n s fd) :
    c.Ended handshakes' s where
  own fd n hfd := hends n s fd (h.own fd n hfd)
  seen o ho := hends _ _ _ (h.seen o ho)
  called n call hcall k hk := hends _ _ _ (h.called n call hcall k hk)

theorem Ended.noneNew (h : c.Ended handshakes s) (hnew : NoneNew c c') :
    c'.Ended handshakes s where
  own fd n hfd := by
    rw [hnew.connections] at hfd
    exact h.own fd n hfd
  seen o ho := h.seen o (hnew.seen o ho)
  called n call hcall k hk := by
    obtain ⟨before, hbefore, hfd, hconnection⟩ := hnew.calls n call hcall
    rw [hfd]
    exact h.called n before hbefore k (hconnection.symm.trans hk)

/-- The binds of descriptors change. -/
theorem Ended.tables (h : c.Ended handshakes s) {sockets : Sockets}
    {connections : Nat → Option Nat}
    (hown : ∀ fd n, connections fd = some n → EndAt handshakes n s fd) :
    ({ c with sockets := sockets, connections := connections } : Client).Ended handshakes s where
  own := hown
  seen := h.seen
  called := h.called

theorem Ended.keeps (h : c.Ended handshakes s) (sockets : Sockets) (fd n : Nat)
    (hfd : c.keeps sockets fd = some n) : EndAt handshakes n s fd := by
  unfold Client.keeps at hfd
  split_ifs at hfd
  exact h.own fd n hfd

theorem Ended.sent (h : c.Ended handshakes s) {msg : Uint8Array} {origin : Option Origin}
    (horigin : ∀ o, origin = some o → EndAt handshakes o.connection s.other o.fd) :
    ({ c with incoming := c.incoming ++ [(msg, origin)] } : Client).Ended handshakes s where
  own := h.own
  seen o ho := by
    rcases ho with (ho | ho) | ho
    · rw [List.map_append, List.mem_append] at ho
      rcases ho with ho | ho
      · exact h.seen o (.inl (.inl ho))
      · exact horigin o (List.mem_singleton.mp ho).symm
    · exact h.seen o (.inl (.inr ho))
    · exact h.seen o (.inr ho)
  called := h.called

theorem Ended.recv (h : c.Ended handshakes s) {remoteId localId : String} {fd : Nat}
    (hstep : c.recv remoteId localId fd = some c') : c'.Ended handshakes s := by
  unfold Client.recv at hstep
  split at hstep
  · split_ifs at hstep
    obtain rfl := Option.some.inj hstep
    constructor
    · exact h.own
    · rintro o (ho | ho | ⟨n, call, hcall, ho⟩)
      · exact h.seen o (.inl ho)
      · exact h.seen o (.inr (.inl ho))
      · rcases update_cases hcall with hsame | ⟨-, rfl⟩
        · exact h.seen o (.inr (.inr ⟨n, call, hsame, ho⟩))
        · cases ho
    · intro n call hcall k hk
      rcases update_cases hcall with hsame | ⟨-, rfl⟩
      · exact h.called n call hsame k hk
      · exact h.own fd k hk
  · cases hstep

end Client

/-! ## The two clients -/

/-- What holds of each client.  The calls that wait are kept apart as long as the run is
undisturbed. -/
structure Link.Holds (undisturbed : Prop) (ids : Side → String) (p : Link) (s : Side) :
    Prop where
  separated (h : undisturbed) : (p.clients s).Separated (ids s.other) (ids s)
  ended : (p.clients s).Ended p.handshakes s
  synced : (p.clients s).Synced (ids s.other) (ids s)

namespace LinkRun

variable {E : Emittery Nat} {ids : Side → String} {p p' : Link} {a : LinkStep}
  {steps : List (Link × LinkStep)} {undisturbed undisturbed' : Prop}

theorem holds_initial (h : Link.Initial ids p) (s : Side) : p.Holds undisturbed ids s := by
  obtain ⟨t, ht, rfl⟩ := h
  refine ⟨fun _ => .initial (ht s).2, ?_, ?_⟩
  · constructor
    · intro fd n hfd
      cases hfd
    · rintro o ((ho | ho) | ⟨e, he, -⟩ | ⟨n, call, hcall, -⟩)
      · cases ho
      · cases ho
      · cases he
      · cases hcall
    · intro n call hcall
      cases hcall
  · show (((t s).queue (ids s.other) (ids s)).getD []).length = 0
    rw [(ht s).1]
    rfl

/-- A step of one client. -/
theorem holds_set (h : ∀ s, p.Holds undisturbed ids s) {s : Side} {c : Client}
    (hc : (undisturbed → c.Separated (ids s.other) (ids s)) ∧ c.Ended p.handshakes s ∧
      c.Synced (ids s.other) (ids s)) (s' : Side) : (p.set s c).Holds undisturbed ids s' := by
  obtain ⟨hseparated, hended, hsynced⟩ := hc
  by_cases he : s' = s
  · subst he
    have hclient : (p.set s' c).clients s' = c := Function.update_self ..
    refine ⟨?_, ?_, ?_⟩
    · rwa [hclient]
    · rwa [hclient]
    · rwa [hclient]
  · have hclient : (p.set s c).clients s' = p.clients s' := Function.update_of_ne he ..
    refine ⟨?_, ?_, ?_⟩
    · rw [hclient]
      exact (h s').separated
    · rw [hclient]
      exact (h s').ended
    · rw [hclient]
      exact (h s').synced

/-- The handshakes go on. -/
theorem holds_handshakes (h : ∀ s, p.Holds undisturbed ids s) {handshakes : List Handshake}
    (hends : ∀ n s fd, EndAt p.handshakes n s fd → EndAt handshakes n s fd) (s : Side) :
    ({ p with handshakes := handshakes } : Link).Holds undisturbed ids s :=
  ⟨(h s).separated, (h s).ended.mono hends, (h s).synced⟩

/-- `connect` or `accept` returns. -/
theorem holds_return (h : ∀ s, p.Holds undisturbed ids s) {s : Side} {sockets : Sockets}
    {fd n : Nat} {before after : Handshake} (hbefore : p.handshakes[n]? = some before)
    (hafter : ∀ s fd, before.fd s = some fd → after.fd s = some fd)
    (hfd : after.fd s = some fd) (s' : Side) :
    ((p.set s { p.clients s with
      sockets := sockets
      connections := Function.update ((p.clients s).keeps sockets) fd (some n) }).setHandshake n
        after).Holds undisturbed ids s' := by
  have hmono : ∀ n' s' fd', EndAt p.handshakes n' s' fd' →
      EndAt (p.handshakes.set n after) n' s' fd' := fun _ _ _ hend => hend.set hbefore hafter
  have hall := holds_handshakes h hmono
  refine holds_set (p := { p with handshakes := p.handshakes.set n after }) hall ⟨?_, ?_, ?_⟩ s'
  · exact fun hund => ((h s).separated hund).congr rfl rfl rfl rfl rfl rfl
  · refine (hall s).ended.tables fun fd' n' hfd' => ?_
    rw [Function.update_apply] at hfd'
    split_ifs at hfd' with he
    · cases hfd'
      rw [he]
      exact endAt_set hbefore hfd
    · exact (hall s).ended.keeps sockets fd' n' hfd'
  · exact (h s).synced

theorem holds_mono {s : Side} (h : p.Holds undisturbed ids s)
    (hmono : undisturbed' → undisturbed) : p.Holds undisturbed' ids s :=
  ⟨fun hund => h.separated (hmono hund), h.ended, h.synced⟩

theorem holds_step (h : ∀ s, p.Holds undisturbed ids s)
    (hundisturbed : undisturbed → Undisturbed (p, a)) (hstep : Link.Step E ids p a p') :
    ∀ s, p'.Holds undisturbed ids s := by
  cases a with
  | tables s call =>
    obtain rfl := Option.some.inj hstep
    refine holds_set h ⟨?_, ?_, (h s).synced⟩
    · exact fun hund => ((h s).separated hund).congr rfl rfl rfl rfl rfl rfl
    · exact (h s).ended.tables ((h s).ended.keeps _)
  | handshake connector clientAlias =>
    obtain rfl := Option.some.inj hstep
    exact holds_handshakes h fun _ _ _ hend => hend.append _
  | connect s x fd tcpAddress n =>
    simp only [Link.Step, Link.next] at hstep
    split at hstep
    · rename_i before hbefore
      split_ifs at hstep with hreturns
      obtain ⟨hconnector, hnone, -⟩ := hreturns
      obtain rfl := Option.some.inj hstep
      apply holds_return h hbefore
      · intro s' fd' hfd'
        unfold Handshake.fd at hfd' ⊢
        split_ifs at hfd' ⊢
        · rw [hnone] at hfd'
          cases hfd'
        · exact hfd'
      · rw [Handshake.fd, if_pos hconnector.symm]
    · cases hstep
  | accept s x serverFd n =>
    simp only [Link.Step, Link.next] at hstep
    split at hstep
    · rename_i before clientFd clientAlias hbefore hresult
      split_ifs at hstep with hreturns
      obtain ⟨hconnector, hnone, -⟩ := hreturns
      obtain rfl := Option.some.inj hstep
      have hne : s ≠ before.connector := by
        rw [hconnector]
        exact (Side.other_ne s).symm
      apply holds_return h hbefore
      · intro s' fd' hfd'
        unfold Handshake.fd at hfd' ⊢
        split_ifs at hfd' ⊢
        · exact hfd'
        · rw [hnone] at hfd'
          cases hfd'
      · rw [Handshake.fd, if_neg hne]
    · cases hstep
  | handleAlias s id tcpAddress set =>
    obtain rfl := Option.some.inj hstep
    refine holds_set h ⟨?_, ?_, (h s).synced⟩
    · exact fun hund => ((h s).separated hund).congr rfl rfl rfl rfl rfl rfl
    · exact ⟨(h s).ended.own, (h s).ended.seen, (h s).ended.called⟩
  | send s fd msg =>
    simp only [Link.Step, Link.next] at hstep
    split at hstep
    · split_ifs at hstep
      obtain rfl := Option.some.inj hstep
      refine holds_set h ⟨?_, ?_, (h s.other).synced⟩
      · intro hund
        refine ((h s.other).separated hund).sent fun n call o hcall hpending ho => ?_
        obtain ⟨k, hk, rfl⟩ := Option.map_eq_some_iff.mp ho
        exact hundisturbed hund n call k hcall hpending hk
      · refine (h s.other).ended.sent fun o ho => ?_
        obtain ⟨k, hk, rfl⟩ := Option.map_eq_some_iff.mp ho
        have hown := (h s).ended.own fd k hk
        cases s <;> exact hown
    · cases hstep
  | deliver s =>
    obtain ⟨c, hc, rfl⟩ := Option.map_eq_some_iff.mp hstep
    exact holds_set h ⟨fun hund => ((h s).separated hund).deliver hc,
      (h s).ended.noneNew (Client.noneNew_deliver hc), Client.synced_deliver (h s).synced hc⟩
  | emit s =>
    obtain ⟨c, hc, rfl⟩ := Option.map_eq_some_iff.mp hstep
    exact holds_set h ⟨fun hund => ((h s).separated hund).emit hc,
      (h s).ended.noneNew (Client.noneNew_emit hc), Client.synced_emit (h s).synced hc⟩
  | recv s fd =>
    obtain ⟨c, hc, rfl⟩ := Option.map_eq_some_iff.mp hstep
    exact holds_set h ⟨fun hund => ((h s).separated hund).recv (hundisturbed hund) hc,
      (h s).ended.recv hc, Client.synced_recv (h s).synced hc⟩
  | handle s n =>
    obtain ⟨c, hc, rfl⟩ := Option.map_eq_some_iff.mp hstep
    exact holds_set h ⟨fun hund => ((h s).separated hund).handle hc,
      (h s).ended.noneNew (Client.noneNew_handle hc), Client.synced_handle (h s).synced hc⟩
  | resume s n =>
    obtain ⟨c, hc, rfl⟩ := Option.map_eq_some_iff.mp hstep
    exact holds_set h ⟨fun hund => ((h s).separated hund).resume hc,
      (h s).ended.noneNew (Client.noneNew_resume hc), Client.synced_resume (h s).synced hc⟩
  | finish s n =>
    obtain ⟨c, hc, rfl⟩ := Option.map_eq_some_iff.mp hstep
    exact holds_set h ⟨fun hund => ((h s).separated hund).finish hc,
      (h s).ended.noneNew (Client.noneNew_finish hc), Client.synced_finish (h s).synced hc⟩
  | page s t =>
    obtain ⟨c, hc, rfl⟩ := Option.map_eq_some_iff.mp hstep
    exact holds_set h ⟨fun hund => ((h s).separated hund).setPage hc,
      (h s).ended.noneNew (Client.noneNew_setPage hc), Client.synced_setPage (h s).synced hc⟩

theorem holds (hrun : LinkRun E ids steps p) (s : Side) :
    p.Holds (∀ z ∈ steps, Undisturbed z) ids s := by
  induction hrun generalizing s with
  | start hinit => exact holds_initial hinit s
  | snoc hrun hstep ih =>
    refine holds_step (fun s => holds_mono (ih s) ?_) ?_ hstep s
    · exact fun h z hz => h z (List.mem_append_left _ hz)
    · exact fun h => h _ (List.mem_append_right _ (List.mem_singleton_self _))

/-- While the two clients use one connection at a time, every message is returned at the
other end of its connection. -/
theorem isolated_of_undisturbed (hrun : LinkRun E ids steps p)
    (hundisturbed : ∀ z ∈ steps, Undisturbed z) : Isolated steps := by
  rintro ⟨q, a⟩ hz
  cases a with
  | finish s n =>
    obtain ⟨before, q', hsub, hbefore, -⟩ := Run.of_mem hrun hz
    have h := holds hbefore s
    intro call hcall o ho
    have hseparated := h.separated fun z hz => hundisturbed z (hsub hz)
    have hconnection := hseparated.got n call hcall o ho
    obtain ⟨h₁, hmem, hfd⟩ := h.ended.called n call hcall _ hconnection
    obtain ⟨h₂, hmem', hfd'⟩ := h.ended.seen o (.inr (.inr ⟨n, call, hcall, ho⟩))
    obtain rfl := Option.some.inj ((Option.mem_def.mp hmem).symm.trans (Option.mem_def.mp hmem'))
    exact ⟨h₁, hmem, hfd', hfd⟩
  | _ => trivial

/-! ## Runs that can be evaluated -/

instance (call : RecvCall) : Decidable call.Pending :=
  decidable_of_iff ((match call.stage with | .posted | .awaiting _ => true | _ => false) = true)
    (by unfold RecvCall.Pending; cases call.stage <;> simp)

/-- `Undisturbed`, for the calls that there can be. -/
def UndisturbedCalls : Link × LinkStep → Prop
  | (p, .send s fd _) => ∀ n < (p.clients s.other).nextCall, ∀ call ∈ (p.clients s.other).calls n,
      call.Pending → ∀ k ∈ (p.clients s).connections fd, call.connection = some k
  | (p, .recv s fd) => ∀ origin ∈ (p.clients s).incoming.map Prod.snd ++ (p.clients s).origins,
      ∀ o ∈ origin, (p.clients s).connections fd = some o.connection
  | _ => True

instance : DecidablePred UndisturbedCalls
  | (p, .send s fd _) => inferInstanceAs (Decidable (∀ n < (p.clients s.other).nextCall,
      ∀ call ∈ (p.clients s.other).calls n, call.Pending →
        ∀ k ∈ (p.clients s).connections fd, call.connection = some k))
  | (p, .recv s fd) => inferInstanceAs (Decidable (∀ origin ∈
      (p.clients s).incoming.map Prod.snd ++ (p.clients s).origins,
        ∀ o ∈ origin, (p.clients s).connections fd = some o.connection))
  | (_, .tables ..) | (_, .handshake ..) | (_, .connect ..) | (_, .accept ..)
  | (_, .handleAlias ..) | (_, .deliver ..) | (_, .emit ..) | (_, .handle ..)
  | (_, .resume ..) | (_, .finish ..) | (_, .page ..) => isTrue trivial

theorem undisturbed_of_calls (hrun : LinkRun E ids steps p)
    (h : ∀ z ∈ steps, UndisturbedCalls z) : ∀ z ∈ steps, Undisturbed z := by
  induction hrun with
  | start hinit =>
    intro z hz
    cases hz
  | @snoc steps q q' a hrun hstep ih =>
    have hbefore := ih fun z hz => h z (List.mem_append_left _ hz)
    have hlast := h (q, a) (List.mem_append_right _ (List.mem_singleton_self _))
    intro z hz
    rcases List.mem_append.mp hz with hz | hz
    · exact hbefore z hz
    · rw [List.mem_singleton.mp hz]
      cases a with
      | send s fd msg =>
        intro n call k hcall hpending hk
        have hlt := ((holds hrun s.other).separated hbefore).lt n call hcall
        exact hlast n hlt call hcall hpending k hk
      | recv s fd =>
        intro o ho
        exact hlast (some o) (List.mem_append.mpr ho) o rfl
      | _ => trivial

/-- The transporter of a page with an open channel for the two clients. -/
def connectedPage (remoteId localId : String) : Transporter :=
  ((({} : Transporter).createDataChannel 0 localId 0).dataChannelConfiguration remoteId localId
    0).setDataChannel 0 fun channel => { channel with readyState := .open }

def idsOf : Side → String
  | .left => "127.0.0.0"
  | .right => "127.0.0.1"

theorem exists_along {P : List (Link × LinkStep) → Link → Prop} [∀ steps p, Decidable (P steps p)]
    (es : List LinkStep)
    (h : ((Run.along (fun p a => (Link.next .subscribed idsOf p a).map fun p' => (a, p')) es
      { clients := fun s => { transporter := connectedPage (idsOf s.other) (idsOf s) } } []).any
        fun r => decide (P r.1 r.2)) = true) :
    ∃ steps p, LinkRun .subscribed idsOf steps p ∧ P steps p := by
  refine Run.exists_along (Link.Initial idsOf) ?_ ?_ es h
  · intro p a b p' hnext
    obtain ⟨q, hq, he⟩ := Option.map_eq_some_iff.mp hnext
    cases he
    exact hq
  · refine ⟨fun s => connectedPage (idsOf s.other) (idsOf s), fun s => ?_, rfl⟩
    cases s <;> exact ⟨rfl, rfl⟩

/-- The left client connects twice to the alias that the right one accepts on. -/
def connectSteps : List LinkStep :=
  let left : External := { id := "127.0.0.0" }
  let right : External := { id := "127.0.0.1" }
  [.tables .right (.socket { right with socket := .ok 1 }),
    .tables .right (.bind right 1 "127.0.0.1:80"),
    .handleAlias .left "127.0.0.1" "127.0.0.1:80" true,
    .handleAlias .right "127.0.0.1" "127.0.0.1:80" true,
    .tables .left (.socket { left with socket := .ok 1 }),
    .handshake .left "127.0.0.0:0",
    .handleAlias .left "127.0.0.0" "127.0.0.0:0" true,
    .handleAlias .right "127.0.0.0" "127.0.0.0:0" true,
    .connect .left { left with connect := fun _ => .ok "127.0.0.0:0" } 1 "127.0.0.1:80" 0,
    .accept .right { right with socket := .ok 2, accept := fun _ => .ok "127.0.0.0:0" } 1 0,
    .tables .left (.socket { left with socket := .ok 2 }),
    .handshake .left "127.0.0.0:1",
    .handleAlias .left "127.0.0.0" "127.0.0.0:1" true,
    .handleAlias .right "127.0.0.0" "127.0.0.0:1" true,
    .connect .left { left with connect := fun _ => .ok "127.0.0.0:1" } 2 "127.0.0.1:80" 1,
    .accept .right { right with socket := .ok 3, accept := fun _ => .ok "127.0.0.0:1" } 1 1]

/-- A message that the left client sends on a descriptor, and a call on a descriptor of the
right one that returns it. -/
def transfer (fd : Nat) (msg : Uint8Array) (fd' n : Nat) : List LinkStep :=
  [.send .left fd msg, .deliver .right, .recv .right fd', .handle .right n, .finish .right n]

/-- The two connections are used one after the other. -/
theorem isolated_of_undisturbed_run : ∃ steps p, LinkRun .subscribed idsOf steps p ∧
    p.handshakes.map Handshake.connected = [some 1, some 2] ∧ Isolated steps := by
  obtain ⟨steps, p, hrun, hhandshakes, hcalls⟩ := exists_along
    (P := fun steps p => p.handshakes.map Handshake.connected = [some 1, some 2] ∧
      ∀ z ∈ steps, UndisturbedCalls z)
    (connectSteps ++ transfer 1 [1] 2 0 ++ transfer 2 [2] 3 1) (by decide +kernel)
  exact ⟨steps, p, hrun, hhandshakes,
    isolated_of_undisturbed hrun (undisturbed_of_calls hrun hcalls)⟩

/-- A message of the first connection is returned on the second one. -/
theorem connections_share_queue : ¬∀ (E : Emittery Nat) (ids : Side → String)
    (steps : List (Link × LinkStep)) (p : Link), LinkRun E ids steps p → Isolated steps := by
  intro hall
  obtain ⟨steps, p, hrun, hnot⟩ := exists_along
    (P := fun steps _ => ¬∀ z ∈ steps, IsolatedAt z)
    (connectSteps ++ transfer 1 [1] 3 0) (by decide +kernel)
  exact hnot (hall _ _ steps p hrun)

end LinkRun

end Unisockets.Guest
