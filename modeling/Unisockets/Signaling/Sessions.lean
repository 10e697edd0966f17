import Unisockets.Signaling.Network
import Unisockets.Transition.Account
import Unisockets.Transition.Refinement

/-!
# The sockets of one client

`open`, `close`, `handleConnect` and `handleDisconnect` of
`signaling-client.ts`, and `handleExternalSocket` of `worker.ts`, which calls
`open`.

Every `open` makes a socket, and the handlers it puts on it go through
`this.client`: what a socket does when it opens is done to the socket that was
made last.  A socket that has closed is followed by another one after
`reconnectDuration`; the timer is a step of its own.  `terminate` exists on some
platforms and not on others (`terminates`).  A socket that fails, or that the
other end closes, is `CLOSING` first and `CLOSED` when `onclose` is called.

`SessionRun.sessions_kept` says that no session ever ends, whatever the calls
and the events.  If no two calls of `socket` overlap, which is so in a thread
that is suspended during a call, each socket carries one `Knock` and then the
requests (`SessionRun.knocks_first`), the client can always connect again
(`SessionRun.reopens`), and to the network it is one of its clients
(`SessionRun.network`).  Two goroutines may call `socket` at the same time; then
a socket may knock twice and another one not at all (`SessionRun.knocks_twice`).
-/

namespace Unisockets.Signaling

open Transition

/-- `readyState` of a socket, with the time between a failure and `onclose`. -/
inductive SocketState where
  | CONNECTING
  | OPEN
  | CLOSING
  | CLOSED
  deriving DecidableEq, Repr

/-- A signaling client and the sockets it has made, which are known by their
position. -/
structure Sessions where
  sockets : List SocketState := []
  client : Option Nat := none
  id : String := ""
  isConnected : Bool := false
  /-- The calls of `socket` that wait for `ready`. -/
  waiting : Nat := 0
  /-- The calls of `handleDisconnect` that wait for their timer. -/
  reconnecting : Nat := 0
  /-- What has been given to the sockets. -/
  sent : List (Nat × Operation) := []
  deriving DecidableEq, Repr

inductive SessionStep where
  /-- `handleExternalSocket`. -/
  | socket
  | onopen (socket : Nat)
  /-- The connection is refused or lost, or the server closes it. -/
  | failing (socket : Nat)
  | onerror (socket : Nat)
  | onclose (socket : Nat)
  /-- The timer of a `handleDisconnect`. -/
  | timeout
  | close
  /-- An `Acknowledgement` arrives. -/
  | acknowledged (socket : Nat) (id : String)
  | request (request : Request)
  | handleSend (operation : Operation)
  deriving DecidableEq, Repr

namespace Sessions

/-- `open`. -/
def «open» (s : Sessions) : Sessions :=
  { s with
    sockets := s.sockets ++ [.CONNECTING]
    client := some s.sockets.length }

def setState (s : Sessions) (socket : Nat) (state : SocketState) : Sessions :=
  { s with sockets := s.sockets.set socket state }

/-- Whether `this.client` is a given socket and takes messages. -/
def takes (s : Sessions) (socket : Nat) : Bool :=
  s.client = some socket && s.sockets[socket]? = some .OPEN

/-- `send` to `this.client`.  A missing or connecting socket throws, which
nobody notices; a closing or closed one drops the message. -/
def send (s : Sessions) (operation : Operation) : Sessions :=
  match s.client with
  | some socket =>
    if s.sockets[socket]? = some .OPEN then { s with sent := s.sent ++ [(socket, operation)] }
    else s
  | none => s

/-- `this.client?.terminate && this.client?.terminate()`. -/
def terminate (terminates : Bool) (s : Sessions) : Sessions :=
  match s.client with
  | some socket =>
    if terminates ∧ (s.sockets[socket]? = some .CONNECTING ∨ s.sockets[socket]? = some .OPEN) then
      s.setState socket .CLOSING
    else s
  | none => s

/-- `handleExternalSocket`, up to the descriptor. -/
def socket (s : Sessions) : Sessions :=
  if s.isConnected then s else { s.open with waiting := s.waiting + 1 }

/-- The socket is open: `handleConnect`. -/
def onopen (knock : IKnockData) (s : Sessions) (socket : Nat) : Sessions :=
  (s.setState socket .OPEN).send (.knock knock)

/-- The socket is closed: `handleDisconnect`, up to its timer. -/
def onclose (s : Sessions) (socket : Nat) : Sessions :=
  { s.setState socket .CLOSED with reconnecting := s.reconnecting + 1 }

/-- The rest of `handleDisconnect`. -/
def timeout (s : Sessions) : Sessions :=
  { s.open with reconnecting := s.reconnecting - 1 }

/-- The assignments of `handleOperation`; the calls that wait for `ready` go on. -/
def acknowledged (s : Sessions) (id : String) : Sessions :=
  { s with
    id := id
    isConnected := true
    waiting := 0 }

variable (terminates : Bool) (knock : IKnockData)

/-- The step relation. -/
inductive Step (s : Sessions) : SessionStep → Sessions → Prop where
  | socket : Step s .socket s.socket
  | onopen {n : Nat} (hn : s.sockets[n]? = some .CONNECTING) :
    Step s (.onopen n) (s.onopen knock n)
  | failing {n : Nat} (hn : s.sockets[n]? = some .CONNECTING ∨ s.sockets[n]? = some .OPEN) :
    Step s (.failing n) (s.setState n .CLOSING)
  | onerror {n : Nat} (hn : n < s.sockets.length) (hlive : s.sockets[n]? ≠ some .CLOSED) :
    Step s (.onerror n) (s.terminate terminates)
  | onclose {n : Nat} (hn : s.sockets[n]? = some .CLOSING) : Step s (.onclose n) (s.onclose n)
  | timeout (htimer : 0 < s.reconnecting) : Step s .timeout s.timeout
  | close : Step s .close (s.terminate terminates)
  | acknowledged {n : Nat} (id : String) (hn : s.sockets[n]? = some .OPEN) :
    Step s (.acknowledged n id) (s.acknowledged id)
  | request (request : Request) : Step s (.request request) (s.send (request.operation s.id))
  | handleSend {operation : Operation} (hrelayed : operation.relayed = true) :
    Step s (.handleSend operation) (s.send operation)

end Sessions

/-- A run of the client, with its steps. -/
abbrev SessionRun (terminates : Bool) (knock : IKnockData) :=
  Run (· = ({} : Sessions)) (Sessions.Step terminates knock)

namespace Sessions

/-! ## Sockets that are not closed -/

def live (state : SocketState) : Bool := state ≠ .CLOSED

/-- The sockets that are not closed. -/
def alive (s : Sessions) : Nat := s.sockets.countP live

/-- What an element counts for is exchanged. -/
theorem countP_set {α : Type*} (P : α → Bool) {l : List α} {n : Nat} {x : α}
    (hn : l[n]? = some x) (y : α) :
    (l.set n y).countP P + (P x).toNat = l.countP P + (P y).toNat := by
  induction l generalizing n with
  | nil => simp at hn
  | cons first l ih =>
    cases n with
    | zero =>
      obtain rfl : first = x := by simpa using hn
      rw [List.set_cons_zero, List.countP_cons, List.countP_cons]
      cases P first <;> cases P y <;> simp
    | succ n =>
      have hrest := ih (by simpa using hn)
      rw [List.set_cons_succ, List.countP_cons, List.countP_cons]
      omega

@[simp]
theorem alive_open (s : Sessions) : s.open.alive = s.alive + 1 := by
  simp [alive, «open», live]

theorem alive_setState {s : Sessions} {n : Nat} {state : SocketState}
    (hn : s.sockets[n]? = some state) (state' : SocketState) :
    (s.setState n state').alive + (live state).toNat = s.alive + (live state').toNat :=
  countP_set live hn state'

/-- A socket that was connecting or open is given up. -/
theorem alive_failing {s : Sessions} {n : Nat}
    (hn : s.sockets[n]? = some .CONNECTING ∨ s.sockets[n]? = some .OPEN) :
    (s.setState n .CLOSING).alive = s.alive := by
  rcases hn with hn | hn
  · exact Nat.add_right_cancel (alive_setState hn .CLOSING)
  · exact Nat.add_right_cancel (alive_setState hn .CLOSING)

/-- `terminate` does nothing, or it does to `this.client` what a failure does. -/
theorem terminate_cases (terminates : Bool) (s : Sessions) :
    s.terminate terminates = s ∨
      ∃ n, (s.sockets[n]? = some .CONNECTING ∨ s.sockets[n]? = some .OPEN) ∧
        s.terminate terminates = s.setState n .CLOSING := by
  unfold terminate
  split
  · rename_i n _
    split_ifs with h
    · exact .inr ⟨n, h.2, rfl⟩
    · exact .inl rfl
  · exact .inl rfl

section Fields

variable (terminates : Bool) (s : Sessions) (operation : Operation)

@[simp]
theorem terminate_alive : (s.terminate terminates).alive = s.alive := by
  rcases terminate_cases terminates s with he | ⟨n, hn, he⟩
  · rw [he]
  · rw [he, alive_failing hn]

@[simp]
theorem terminate_isConnected : (s.terminate terminates).isConnected = s.isConnected := by
  rcases terminate_cases terminates s with he | ⟨n, _, he⟩
  · rw [he]
  · rw [he]
    rfl

@[simp]
theorem terminate_waiting : (s.terminate terminates).waiting = s.waiting := by
  rcases terminate_cases terminates s with he | ⟨n, _, he⟩
  · rw [he]
  · rw [he]
    rfl

@[simp]
theorem terminate_reconnecting : (s.terminate terminates).reconnecting = s.reconnecting := by
  rcases terminate_cases terminates s with he | ⟨n, _, he⟩
  · rw [he]
  · rw [he]
    rfl

theorem send_eq : s.send operation = { s with sent := (s.send operation).sent } := by
  unfold send
  split
  · split_ifs <;> rfl
  · rfl

@[simp]
theorem send_sockets : (s.send operation).sockets = s.sockets := by
  rw [send_eq]

@[simp]
theorem send_client : (s.send operation).client = s.client := by
  rw [send_eq]

@[simp]
theorem send_alive : (s.send operation).alive = s.alive := by
  rw [alive, send_sockets, alive]

@[simp]
theorem send_isConnected : (s.send operation).isConnected = s.isConnected := by
  rw [send_eq]

@[simp]
theorem send_waiting : (s.send operation).waiting = s.waiting := by
  rw [send_eq]

@[simp]
theorem send_reconnecting : (s.send operation).reconnecting = s.reconnecting := by
  rw [send_eq]

end Fields

/-- A call of `socket` that opens. -/
def opens (x : Sessions × SessionStep) : Bool := x.2 = .socket && !x.1.isConnected

variable {terminates : Bool} {knock : IKnockData} {s s' : Sessions} {a : SessionStep}

/-- One step keeps the sockets that are not closed together with the timers; only `socket`
adds one. -/
theorem alive_step (h : Step terminates knock s a s') :
    s'.alive + s'.reconnecting = s.alive + s.reconnecting + (opens (s, a)).toNat := by
  cases h with
  | socket =>
    unfold socket opens
    cases hconnected : s.isConnected
    · show s.open.alive + s.reconnecting = s.alive + s.reconnecting + 1
      rw [alive_open]
      omega
    · rfl
  | @onopen n hn =>
    have hsockets := alive_setState hn .OPEN
    have hreconnecting : (s.setState n .OPEN).reconnecting = s.reconnecting := rfl
    rw [onopen, send_alive, send_reconnecting, hreconnecting]
    simp only [opens, live] at hsockets ⊢
    simpa using hsockets
  | failing hn =>
    show (s.setState _ .CLOSING).alive + s.reconnecting = s.alive + s.reconnecting
    rw [alive_failing hn]
  | onerror _ _ =>
    rw [terminate_alive, terminate_reconnecting]
    rfl
  | @onclose n hn =>
    have hsockets : (s.setState n .CLOSED).alive + 1 = s.alive := alive_setState hn .CLOSED
    show (s.setState n .CLOSED).alive + (s.reconnecting + 1) = s.alive + s.reconnecting
    omega
  | timeout htimer =>
    show s.open.alive + (s.reconnecting - 1) = s.alive + s.reconnecting
    rw [alive_open]
    omega
  | close =>
    rw [terminate_alive, terminate_reconnecting]
    rfl
  | acknowledged _ _ => rfl
  | request _ =>
    rw [send_alive, send_reconnecting]
    rfl
  | handleSend _ =>
    rw [send_alive, send_reconnecting]
    rfl

/-! ## One call of `socket` at a time -/

/-- No call of `socket` starts while another one waits. -/
def Sequential (steps : List (Sessions × SessionStep)) : Prop :=
  ∀ x ∈ steps, x.2 = .socket → x.1.waiting = 0

instance : DecidablePred Sequential := fun steps =>
  inferInstanceAs (Decidable (∀ x ∈ steps, x.2 = .socket → x.1.waiting = 0))

/-- At most one socket is not closed, and it is `this.client`. -/
structure Single (s : Sessions) : Prop where
  few : s.alive + s.reconnecting ≤ 1
  started : s.alive + s.reconnecting = 0 ∨ 0 < s.waiting ∨ s.isConnected = true
  current : ∀ n state, s.sockets[n]? = some state → live state = true → s.client = some n

/-- What a step does to the flags. -/
theorem flags_cases (h : Step terminates knock s a s') :
    s'.isConnected = s.isConnected ∧ (s'.waiting = s.waiting ∨ 0 < s'.waiting) ∨
      s'.isConnected = true := by
  cases h with
  | socket =>
    unfold socket
    split_ifs with hconnected
    · exact .inr hconnected
    · exact .inl ⟨rfl, .inr (Nat.succ_pos _)⟩
  | onopen _ => exact .inl ⟨send_isConnected _ _, .inl (send_waiting _ _)⟩
  | failing _ => exact .inl ⟨rfl, .inl rfl⟩
  | onerror _ _ => exact .inl ⟨terminate_isConnected _ _, .inl (terminate_waiting _ _)⟩
  | onclose _ => exact .inl ⟨rfl, .inl rfl⟩
  | timeout _ => exact .inl ⟨rfl, .inl rfl⟩
  | close => exact .inl ⟨terminate_isConnected _ _, .inl (terminate_waiting _ _)⟩
  | acknowledged _ _ => exact .inr rfl
  | request _ => exact .inl ⟨send_isConnected _ _, .inl (send_waiting _ _)⟩
  | handleSend _ => exact .inl ⟨send_isConnected _ _, .inl (send_waiting _ _)⟩

theorem connected_step (h : Step terminates knock s a s') (hconnected : s.isConnected = true) :
    s'.isConnected = true := by
  rcases flags_cases h with ⟨hsame, -⟩ | hnow
  · exact hsame.trans hconnected
  · exact hnow

/-- A call of `socket` waits until the client has an id. -/
theorem flags_step (h : Step terminates knock s a s')
    (hflags : 0 < s.waiting ∨ s.isConnected = true) : 0 < s'.waiting ∨ s'.isConnected = true := by
  rcases flags_cases h with ⟨hsame, hwaiting | hwaiting⟩ | hnow
  · rw [hsame, hwaiting]
    exact hflags
  · exact .inl hwaiting
  · exact .inr hnow

/-- If every socket is closed, a new one is the only one that is not. -/
theorem current_open (h : s.alive = 0) (n : Nat) (state : SocketState)
    (hn : s.open.sockets[n]? = some state) (hlive : live state = true) :
    s.open.client = some n := by
  have hclosed : ∀ state ∈ s.sockets, live state = false := by
    intro state hstate
    simpa using List.countP_eq_zero.mp h state hstate
  rw [show s.open.sockets = s.sockets ++ [.CONNECTING] from rfl, List.getElem?_append] at hn
  split_ifs at hn with hlt
  · rw [hclosed _ (List.mem_of_getElem? hn)] at hlive
    exact absurd hlive Bool.false_ne_true
  · have hlast : n - s.sockets.length = 0 := by
      by_contra hne
      rw [List.getElem?_eq_none (by simp; omega)] at hn
      cases hn
    show some s.sockets.length = some n
    congr 1
    omega

theorem current_setState (h : Single s) {n : Nat} {old : SocketState}
    (hn : s.sockets[n]? = some old) (hold : live old = true) (state : SocketState) (m : Nat)
    (state' : SocketState) (hm : (s.setState n state).sockets[m]? = some state')
    (hlive : live state' = true) : s.client = some m := by
  rw [setState, List.getElem?_set] at hm
  split_ifs at hm with heq hlt
  · rw [← heq]
    exact h.current n old hn hold
  · exact h.current m state' hm hlive

theorem Single.step (h : Single s) (hstep : Step terminates knock s a s')
    (hsequential : a = .socket → s.waiting = 0) : Single s' := by
  have hbalance := alive_step hstep
  have hopens : opens (s, a) = true → s.alive + s.reconnecting = 0 := by
    intro ho
    have hsocket : a = .socket ∧ s.isConnected = false := by simpa [opens] using ho
    rcases h.started with hzero | hwaiting | hconnected
    · exact hzero
    · exact absurd (hsequential hsocket.1) hwaiting.ne'
    · exact absurd hconnected (by simp [hsocket.2])
  constructor
  · cases ho : opens (s, a)
    · simpa [hbalance, ho] using h.few
    · simp [hbalance, ho, hopens ho]
  · rcases h.started with hzero | hflags
    · cases ho : opens (s, a)
      · exact .inl (by simp [hbalance, ho, hzero])
      · have hsocket : a = .socket ∧ s.isConnected = false := by simpa [opens] using ho
        obtain ⟨rfl, hconnected⟩ := hsocket
        cases hstep
        refine .inr (.inl ?_)
        simp [socket, hconnected]
    · exact .inr (flags_step hstep hflags)
  · have hterminate : ∀ n state, (s.terminate terminates).sockets[n]? = some state →
        live state = true → (s.terminate terminates).client = some n := by
      intro n state hn hlive
      rcases terminate_cases terminates s with he | ⟨m, hm, he⟩
      · rw [he] at hn ⊢
        exact h.current n state hn hlive
      · rw [he] at hn ⊢
        rcases hm with hm | hm
        · exact current_setState h hm rfl _ n state hn hlive
        · exact current_setState h hm rfl _ n state hn hlive
    cases hstep with
    | socket =>
      intro n state hn hlive
      unfold socket at hn ⊢
      split_ifs at hn ⊢ with hconnected
      · exact h.current n state hn hlive
      · have hzero := hopens (by simp [opens, hconnected])
        exact current_open (by omega) n state hn hlive
    | onopen hm =>
      intro n state hn hlive
      rw [onopen, send_sockets] at hn
      rw [onopen, send_client]
      exact current_setState h hm rfl _ n state hn hlive
    | failing hm =>
      intro n state hn hlive
      rcases hm with hm | hm
      · exact current_setState h hm rfl _ n state hn hlive
      · exact current_setState h hm rfl _ n state hn hlive
    | onerror _ _ => exact hterminate
    | onclose hm =>
      intro n state hn hlive
      exact current_setState h hm rfl _ n state hn hlive
    | timeout htimer =>
      intro n state hn hlive
      have hfew := h.few
      exact current_open (by omega) n state hn hlive
    | close => exact hterminate
    | acknowledged _ _ => exact h.current
    | request _ =>
      rw [send_sockets, send_client]
      exact h.current
    | handleSend _ =>
      rw [send_sockets, send_client]
      exact h.current

/-! ## What a socket carries -/

/-- What has been sent on a socket. -/
def messages (s : Sessions) (n : Nat) : List Operation :=
  (s.sent.filter fun m => m.1 = n).map Prod.snd

/-- What a step asks a socket to carry, apart from the `Knock`. -/
def requested (n : Nat) (x : Sessions × SessionStep) : List Operation :=
  if x.1.takes n then
    match x.2 with
    | .request request => [request.operation x.1.id]
    | .handleSend operation => [operation]
    | _ => []
  else []

/-- A socket has been opened. -/
def HasOpened (n : Nat) (steps : List (Sessions × SessionStep)) : Prop :=
  ∃ x ∈ steps, x.2 = .onopen n

instance (n : Nat) : DecidablePred (HasOpened n) := fun steps =>
  inferInstanceAs (Decidable (∃ x ∈ steps, x.2 = .onopen n))

theorem opened_snoc {n : Nat} {steps : List (Sessions × SessionStep)} {x : Sessions × SessionStep} :
    HasOpened n (steps ++ [x]) ↔ HasOpened n steps ∨ x.2 = .onopen n := by
  simp [HasOpened, or_and_right, exists_or]

theorem messages_send (s : Sessions) (operation : Operation) (n : Nat) :
    (s.send operation).messages n
      = s.messages n ++ (if s.takes n then [operation] else []) := by
  unfold send messages takes
  cases hclient : s.client with
  | none => simp
  | some m =>
    by_cases hm : m = n
    · subst hm
      by_cases hopen : s.sockets[m]? = some .OPEN <;> simp [hopen]
    · by_cases hopen : s.sockets[m]? = some .OPEN <;> simp [hopen, hm]

/-- What the sockets have carried, against the steps of the run. -/
structure SocketTraffic (knock : IKnockData) (steps : List (Sessions × SessionStep))
    (s : Sessions) : Prop where
  opened : ∀ n, s.sockets[n]? = some .OPEN → HasOpened n steps
  fresh : ∀ n, HasOpened n steps → ∃ state, s.sockets[n]? = some state ∧ state ≠ .CONNECTING
  messages : ∀ n, HasOpened n steps →
    s.messages n = .knock knock :: steps.flatMap (requested n)
  silent : ∀ n, ¬HasOpened n steps → s.messages n = [] ∧ steps.flatMap (requested n) = []

namespace SocketTraffic

variable {steps : List (Sessions × SessionStep)}

/-- A step that sends nothing and opens no socket. -/
theorem keep (h : SocketTraffic knock steps s) (hopen : ∀ n, a ≠ .onopen n)
    (hrequested : ∀ n, requested n (s, a) = []) (hsent : s'.sent = s.sent)
    (hopened : ∀ n : Nat, s'.sockets[n]? = some .OPEN → s.sockets[n]? = some .OPEN)
    (hfresh : ∀ (n : Nat) (state : SocketState), s.sockets[n]? = some state → state ≠ .CONNECTING →
      ∃ state', s'.sockets[n]? = some state' ∧ state' ≠ .CONNECTING) :
    SocketTraffic knock (steps ++ [(s, a)]) s' := by
  have hsnoc : ∀ n, HasOpened n (steps ++ [(s, a)]) ↔ HasOpened n steps := by
    intro n
    rw [opened_snoc]
    exact or_iff_left (hopen n)
  have hmessages : ∀ n, s'.messages n = s.messages n := by
    intro n
    unfold Sessions.messages
    rw [hsent]
  constructor
  · intro n hn
    exact (hsnoc n).mpr (h.opened n (hopened n hn))
  · intro n hn
    obtain ⟨state, hstate, hne⟩ := h.fresh n ((hsnoc n).mp hn)
    exact hfresh n state hstate hne
  · intro n hn
    rw [hmessages, h.messages n ((hsnoc n).mp hn)]
    simp [hrequested]
  · intro n hn
    obtain ⟨hnone, hsteps⟩ := h.silent n fun ho => hn ((hsnoc n).mpr ho)
    refine ⟨(hmessages n).trans hnone, ?_⟩
    simp [hsteps, hrequested]

/-- A step that sends a message over `this.client`. -/
theorem send (h : SocketTraffic knock steps s) (operation : Operation) (hopen : ∀ n, a ≠ .onopen n)
    (hrequested : ∀ n, requested n (s, a) = if s.takes n then [operation] else []) :
    SocketTraffic knock (steps ++ [(s, a)]) (s.send operation) := by
  have hsnoc : ∀ n, HasOpened n (steps ++ [(s, a)]) ↔ HasOpened n steps := by
    intro n
    rw [opened_snoc]
    exact or_iff_left (hopen n)
  constructor
  · intro n hn
    rw [send_sockets] at hn
    exact (hsnoc n).mpr (h.opened n hn)
  · intro n hn
    rw [send_sockets]
    exact h.fresh n ((hsnoc n).mp hn)
  · intro n hn
    rw [messages_send, h.messages n ((hsnoc n).mp hn)]
    simp [hrequested]
  · intro n hn
    have hn : ¬HasOpened n steps := fun ho => hn ((hsnoc n).mpr ho)
    obtain ⟨hnone, hsteps⟩ := h.silent n hn
    have htakes : s.takes n = false := by
      by_contra htakes
      have hboth : s.client = some n ∧ s.sockets[n]? = some .OPEN := by simpa [takes] using htakes
      exact hn (h.opened n hboth.2)
    rw [messages_send]
    simp [hnone, hsteps, hrequested, htakes]

/-- The socket that opens is `this.client`, so that it gets the `Knock`. -/
theorem onopen (h : SocketTraffic knock steps s) (hsingle : Single s) {m : Nat}
    (hm : s.sockets[m]? = some .CONNECTING) :
    SocketTraffic knock (steps ++ [(s, .onopen m)]) (s.onopen knock m) := by
  have hlt : m < s.sockets.length := (List.getElem?_eq_some_iff.mp hm).1
  have hclient : s.client = some m := hsingle.current m _ hm rfl
  have hnew : ¬HasOpened m steps := by
    intro ho
    obtain ⟨state, hstate, hne⟩ := h.fresh m ho
    exact hne (Option.some.inj (hstate.symm.trans hm))
  have hsnoc : ∀ n, HasOpened n (steps ++ [(s, .onopen m)]) ↔ HasOpened n steps ∨ m = n := by
    intro n
    rw [opened_snoc]
    simp
  have hsockets : (s.onopen knock m).sockets = s.sockets.set m .OPEN := send_sockets _ _
  have htakes : ∀ n, (s.setState m .OPEN).takes n = decide (m = n) := by
    intro n
    simp only [takes, setState, hclient, List.getElem?_set]
    by_cases hn : m = n
    · simp [hn ▸ hlt, hn]
    · simp [hn]
  have hmessages : ∀ n, (s.onopen knock m).messages n
      = s.messages n ++ (if m = n then [.knock knock] else []) := by
    intro n
    show ((s.setState m .OPEN).send _).messages n = _
    rw [messages_send, htakes]
    by_cases hn : m = n <;> simp [hn, Sessions.messages, setState]
  have hrequested : ∀ n, requested n (s, .onopen m) = [] := by
    intro n
    simp [requested]
  constructor
  · intro n hn
    rw [hsockets, List.getElem?_set] at hn
    split_ifs at hn with heq
    · exact (hsnoc n).mpr (.inr heq)
    · exact (hsnoc n).mpr (.inl (h.opened n hn))
  · intro n hn
    rw [hsockets, List.getElem?_set]
    rcases (hsnoc n).mp hn with hn | rfl
    · obtain ⟨state, hstate, hne⟩ := h.fresh n hn
      split_ifs with heq
      · exact ⟨_, rfl, by decide⟩
      · exact ⟨state, hstate, hne⟩
    · exact ⟨.OPEN, by simp [hlt], by decide⟩
  · intro n hn
    rw [hmessages, List.flatMap_append]
    rcases (hsnoc n).mp hn with hn | rfl
    · have hne : m ≠ n := fun heq => hnew (heq ▸ hn)
      simp [h.messages n hn, hne, hrequested]
    · obtain ⟨hnone, hsteps⟩ := h.silent m hnew
      simp [hnone, hsteps, hrequested]
  · intro n hn
    have hnot : ¬HasOpened n steps ∧ m ≠ n := by
      rw [hsnoc, not_or] at hn
      exact hn
    obtain ⟨hnone, hsteps⟩ := h.silent n hnot.1
    rw [hmessages, List.flatMap_append, hnone, hsteps]
    simp [hnot.2, hrequested]

theorem failing (h : SocketTraffic knock steps s) (hopen : ∀ n, a ≠ .onopen n)
    (hrequested : ∀ n, requested n (s, a) = []) {state : SocketState}
    (hstate : state = .CLOSING ∨ state = .CLOSED) (m : Nat) :
    SocketTraffic knock (steps ++ [(s, a)]) (s.setState m state) := by
  refine h.keep hopen hrequested rfl ?_ ?_
  · intro n hn
    rw [setState, List.getElem?_set] at hn
    split_ifs at hn with heq hlt
    · rcases hstate with rfl | rfl <;> cases hn
    · exact hn
  · intro n old hold hne
    rw [setState, List.getElem?_set]
    split_ifs with heq hlt
    · rcases hstate with rfl | rfl <;> exact ⟨_, rfl, by decide⟩
    · exact absurd (List.getElem?_eq_some_iff.mp hold).1 (heq ▸ hlt)
    · exact ⟨old, hold, hne⟩

theorem «open» (h : SocketTraffic knock steps s) (hopen : ∀ n, a ≠ .onopen n)
    (hrequested : ∀ n, requested n (s, a) = []) :
    SocketTraffic knock (steps ++ [(s, a)]) s.open := by
  refine h.keep hopen hrequested rfl ?_ ?_
  · intro n hn
    rw [show s.open.sockets = s.sockets ++ [.CONNECTING] from rfl, List.getElem?_append] at hn
    split_ifs at hn with hlt
    · exact hn
    · have hmem := List.mem_of_getElem? hn
      simp at hmem
  · intro n state hn hne
    refine ⟨state, ?_, hne⟩
    show (s.sockets ++ [SocketState.CONNECTING])[n]? = some state
    rw [List.getElem?_append_left (List.getElem?_eq_some_iff.mp hn).1]
    exact hn

theorem congr (h : SocketTraffic knock steps s) (hsockets : s'.sockets = s.sockets)
    (hsent : s'.sent = s.sent) : SocketTraffic knock steps s' := by
  have hmessages : ∀ n, s'.messages n = s.messages n := by
    intro n
    unfold Sessions.messages
    rw [hsent]
  constructor
  · rw [hsockets]
    exact h.opened
  · rw [hsockets]
    exact h.fresh
  · intro n hn
    rw [hmessages]
    exact h.messages n hn
  · intro n hn
    rw [hmessages]
    exact h.silent n hn

theorem step (h : SocketTraffic knock steps s) (hsingle : Single s)
    (hstep : Step terminates knock s a s') : SocketTraffic knock (steps ++ [(s, a)]) s' := by
  have hidle : (∀ n, a ≠ .onopen n) → (∀ n, requested n (s, a) = []) →
      SocketTraffic knock (steps ++ [(s, a)]) s :=
    fun hopen hrequested => h.keep hopen hrequested rfl (fun _ hn => hn)
      fun _ state hn hne => ⟨state, hn, hne⟩
  have hterminate : (∀ n, a ≠ .onopen n) → (∀ n, requested n (s, a) = []) →
      SocketTraffic knock (steps ++ [(s, a)]) (s.terminate terminates) := by
    intro hopen hrequested
    rcases terminate_cases terminates s with he | ⟨m, _, he⟩
    · rw [he]
      exact hidle hopen hrequested
    · rw [he]
      exact h.failing hopen hrequested (.inl rfl) m
  cases hstep with
  | socket =>
    unfold socket
    split_ifs
    · exact hidle (by simp) (by simp [requested])
    · exact (h.open (by simp) (by simp [requested])).congr rfl rfl
  | onopen hn => exact h.onopen hsingle hn
  | failing _ => exact h.failing (by simp) (by simp [requested]) (.inl rfl) _
  | onerror _ _ => exact hterminate (by simp) (by simp [requested])
  | onclose _ => exact (h.failing (by simp) (by simp [requested]) (.inr rfl) _).congr rfl rfl
  | timeout _ => exact (h.open (by simp) (by simp [requested])).congr rfl rfl
  | close => exact hterminate (by simp) (by simp [requested])
  | acknowledged _ _ => exact (hidle (by simp) (by simp [requested])).congr rfl rfl
  | request _ => exact h.send _ (by simp) fun n => rfl
  | handleSend _ => exact h.send _ (by simp) fun n => rfl

end SocketTraffic

end Sessions

/-! ## The client of the network -/

def SocketState.readyState : SocketState → ReadyState
  | .CONNECTING => .CONNECTING
  | .OPEN => .OPEN
  | .CLOSING | .CLOSED => .CLOSED

namespace Sessions

/-- The state of `this.client`, as it is in the network. -/
def readyState (s : Sessions) : Option ReadyState :=
  (s.client.bind fun n => s.sockets[n]?).map SocketState.readyState

end Sessions

/-- The steps of the network in which a client opens a socket or notices what has become of
it. -/
def NetworkStep.ofSocket (client : Nat) : NetworkStep → Prop
  | .connecting c | .onopen c | .onclose c => c = client
  | _ => False

/-- The network has a state for the socket of one of its clients. -/
def Network.readyState (p : Network) (client : Nat) : Option ReadyState :=
  (p.clients client).client.map WebSocket.readyState

namespace Sessions

section Network

variable {terminates : Bool} {knock : IKnockData} {s s' : Sessions} {a : SessionStep}
  {p : Network} {client : Nat} (E : JsStd.Emittery (String × Nat))

theorem network_connecting (hclosed : p.readyState client ≠ some .CONNECTING)
    (hopen : p.readyState client ≠ some .OPEN) :
    ∃ p', Network.Step E p (.connecting client) p' ∧
      p'.readyState client = some .CONNECTING := by
  have hidle : Network.idle (p.clients client) = true := by
    unfold Network.readyState at hclosed hopen
    unfold Network.idle
    cases hws : (p.clients client).client with
    | none => rfl
    | some ws =>
      obtain ⟨socket, readyState⟩ := ws
      cases readyState <;> simp [hws] at hclosed hopen ⊢
  refine ⟨_, .connecting hidle, ?_⟩
  simp [Network.readyState, Network.connecting, Network.setClient]

theorem network_onopen (h : p.readyState client = some .CONNECTING) :
    ∃ p', Network.Step E p (.onopen client) p' ∧ p'.readyState client = some .OPEN := by
  obtain ⟨⟨socket, readyState⟩, hclient, hready⟩ := Option.map_eq_some_iff.mp h
  obtain rfl : readyState = .CONNECTING := hready
  refine ⟨_, .onopen hclient, ?_⟩
  simp [Network.readyState, Network.onopen, Network.send, Network.setClient]

theorem network_onclose {readyState : ReadyState} (h : p.readyState client = some readyState)
    (hlive : readyState ≠ .CLOSED) :
    ∃ p', Network.Step E p (.onclose client) p' ∧ p'.readyState client = some .CLOSED := by
  obtain ⟨⟨socket, _⟩, hclient, rfl⟩ := Option.map_eq_some_iff.mp h
  refine ⟨_, .onclose hclient hlive, ?_⟩
  simp [Network.readyState, Network.onclose, Network.setClient]

theorem readyState_send (s : Sessions) (operation : Operation) :
    (s.send operation).readyState = s.readyState := by
  simp [readyState]

theorem readyState_open (s : Sessions) : s.open.readyState = some .CONNECTING := by
  simp [readyState, «open», SocketState.readyState]

theorem readyState_setState {n : Nat} {state : SocketState} (hclient : s.client = some n)
    (hn : s.sockets[n]? = some state) (state' : SocketState) :
    s.readyState = some state.readyState ∧
      (s.setState n state').readyState = some state'.readyState := by
  constructor
  · unfold readyState
    rw [hclient, Option.bind_some, hn]
    rfl
  · have hlt := (List.getElem?_eq_some_iff.mp hn).1
    simp [readyState, setState, hclient, hlt]

/-- While no socket is open or connecting, the network allows another one. -/
theorem readyState_idle (h : s.alive = 0) :
    s.readyState ≠ some .CONNECTING ∧ s.readyState ≠ some .OPEN := by
  unfold readyState
  cases hsocket : s.client.bind fun n => s.sockets[n]? with
  | none => simp
  | some state =>
    obtain ⟨n, -, hn⟩ := Option.bind_eq_some_iff.mp hsocket
    have hclosed : live state = false := by
      simpa using List.countP_eq_zero.mp h state (List.mem_of_getElem? hn)
    cases state <;> simp [live, SocketState.readyState] at hclosed ⊢

/-- A socket that can fail is `this.client`, and it is not closed. -/
theorem Single.failing (h : Single s) {n : Nat}
    (hn : s.sockets[n]? = some .CONNECTING ∨ s.sockets[n]? = some .OPEN) :
    ∃ readyState, s.readyState = some readyState ∧ readyState ≠ .CLOSED ∧
      (s.setState n .CLOSING).readyState = some .CLOSED := by
  rcases hn with hn | hn
  · have hclient := h.current n _ hn rfl
    exact ⟨.CONNECTING, (readyState_setState hclient hn .CLOSING).1, by decide,
      (readyState_setState hclient hn _).2⟩
  · have hclient := h.current n _ hn rfl
    exact ⟨.OPEN, (readyState_setState hclient hn .CLOSING).1, by decide,
      (readyState_setState hclient hn _).2⟩

/-- As long as the calls of `socket` do not overlap, what becomes of `this.client` is what the
network says can become of it: it is replaced only when it is closed. -/
theorem Single.network (h : Single s) (hstep : Step terminates knock s a s')
    (hsequential : a = .socket → s.waiting = 0) (hp : p.readyState client = s.readyState) :
    s'.readyState = s.readyState ∨
      ∃ b p', Network.Step E p b p' ∧ b.ofSocket client ∧
        p'.readyState client = s'.readyState := by
  have hconnecting : s.alive = 0 → ∃ b p', Network.Step E p b p' ∧ b.ofSocket client ∧
      p'.readyState client = s.open.readyState := by
    intro hzero
    obtain ⟨hclosed, hopen⟩ := readyState_idle hzero
    rw [← hp] at hclosed hopen
    obtain ⟨p', hstep', hp'⟩ := network_connecting E hclosed hopen
    exact ⟨_, p', hstep', rfl, hp'.trans (readyState_open s).symm⟩
  have hfailing : ∀ n, (s.sockets[n]? = some .CONNECTING ∨ s.sockets[n]? = some .OPEN) →
      ∃ b p', Network.Step E p b p' ∧ b.ofSocket client ∧
        p'.readyState client = (s.setState n .CLOSING).readyState := by
    intro n hn
    obtain ⟨readyState, hbefore, hlive, hafter⟩ := h.failing hn
    obtain ⟨p', hstep', hp'⟩ := network_onclose E (hp.trans hbefore) hlive
    exact ⟨_, p', hstep', rfl, hp'.trans hafter.symm⟩
  have hterminate : (s.terminate terminates).readyState = s.readyState ∨
      ∃ b p', Network.Step E p b p' ∧ b.ofSocket client ∧
        p'.readyState client = (s.terminate terminates).readyState := by
    rcases terminate_cases terminates s with he | ⟨n, hn, he⟩
    · exact .inl (by rw [he])
    · rw [he]
      exact .inr (hfailing n hn)
  cases hstep with
  | socket =>
    unfold socket
    split_ifs with hconnected
    · exact .inl rfl
    · have hzero : s.alive + s.reconnecting = 0 := by
        rcases h.started with hzero | hwaiting | hready
        · exact hzero
        · exact absurd (hsequential rfl) hwaiting.ne'
        · exact absurd hready hconnected
      exact .inr (hconnecting (by omega))
  | onopen hn =>
    right
    obtain ⟨hbefore, hafter⟩ :=
      readyState_setState (h.current _ _ hn rfl) hn .OPEN
    obtain ⟨p', hstep', hp'⟩ := network_onopen E (hp.trans hbefore)
    refine ⟨_, p', hstep', rfl, hp'.trans ?_⟩
    rw [onopen, readyState_send]
    exact hafter.symm
  | failing hn => exact .inr (hfailing _ hn)
  | onerror _ _ => exact hterminate
  | onclose hn =>
    left
    obtain ⟨hbefore, hafter⟩ :=
      readyState_setState (h.current _ _ hn rfl) hn .CLOSED
    exact hafter.trans hbefore.symm
  | timeout htimer =>
    have hfew := h.few
    exact .inr (hconnecting (by omega))
  | close => exact hterminate
  | acknowledged _ _ => exact .inl rfl
  | request _ => exact .inl (readyState_send s _)
  | handleSend _ => exact .inl (readyState_send s _)

end Network

end Sessions

namespace SessionRun

open Sessions

variable {terminates : Bool} {knock : IKnockData} {steps : List (Sessions × SessionStep)}
  {s : Sessions}

/-- The sessions are those that a call of `socket` has opened. -/
theorem sessions_opened (hrun : SessionRun terminates knock steps s) :
    s.alive + s.reconnecting = steps.countP opens := by
  have hbalance := Run.balance (fun s : Sessions => s.alive + s.reconnecting) (fun _ => 0)
    (fun x => (opens x).toNat) hrun (by rintro s rfl; rfl) fun s a s' => alive_step
  rwa [total_zero, total_toNat] at hbalance

/-- A client with an id opens no session, and none of its sessions ends. -/
theorem sessions_path {s' : Sessions} {path : List (Sessions × SessionStep)}
    (h : Path (Sessions.Step terminates knock) s path s') (hconnected : s.isConnected = true) :
    s'.alive + s'.reconnecting = s.alive + s.reconnecting := by
  induction h with
  | nil s => rfl
  | @cons s s' s'' a path hstep _ ih =>
    have hnone : opens (s, a) = false := by simp [opens, hconnected]
    rw [ih (connected_step hstep hconnected), alive_step hstep, hnone]
    rfl

/-- In every run the sockets that are not closed and the timers of `handleDisconnect` are as
many as the calls of `socket` that found the client without an id.  From then on, whatever the
calls and the events, they stay as many: neither `close` nor a loss ends a session. -/
theorem sessions_kept (hrun : SessionRun terminates knock steps s) :
    s.alive + s.reconnecting = steps.countP opens ∧
      (s.isConnected = true → ∀ path s', Path (Sessions.Step terminates knock) s path s' →
        s'.alive + s'.reconnecting = steps.countP opens) := by
  refine ⟨hrun.sessions_opened, fun hconnected path s' hpath => ?_⟩
  rw [sessions_path hpath hconnected]
  exact hrun.sessions_opened

/-- Two calls of `socket` that overlap, and a connection that is lost. -/
theorem sessions_kept_overlapping :
    ∃ (steps : List (Sessions × SessionStep)) (s : Sessions),
      SessionRun false ⟨"127.0.0", "parent"⟩ steps s ∧ s.alive = 1 ∧ s.reconnecting = 1 ∧
        steps.countP opens = 2 := by
  have hstart : SessionRun false ⟨"127.0.0", "parent"⟩ [] {} := .start rfl
  have hcalls := (hstart.snoc .socket).snoc .socket
  have hrun := (hcalls.snoc (.failing (n := 0) (.inl rfl))).snoc (.onclose (n := 0) rfl)
  exact ⟨_, _, hrun, rfl, rfl, (sessions_kept hrun).1.symm⟩

private theorem single (hrun : SessionRun terminates knock steps s)
    (hsequential : Sequential steps) : Single s ∧ SocketTraffic knock steps s := by
  induction hrun with
  | start hinit =>
    subst hinit
    refine ⟨⟨by decide, .inl rfl, by simp⟩, ⟨by simp, by simp [HasOpened], by simp [HasOpened], ?_⟩⟩
    intro n _
    exact ⟨rfl, rfl⟩
  | @snoc steps s s' a _ hstep ih =>
    obtain ⟨hsingle, hcarried⟩ := ih fun x hx => hsequential x (List.mem_append_left _ hx)
    have hlast : a = .socket → s.waiting = 0 := hsequential (s, a) (by simp)
    exact ⟨hsingle.step hstep hlast, hcarried.step hsingle hstep⟩

private theorem no_knock (hrun : SessionRun terminates knock steps s) (n : Nat)
    (data : IKnockData) : .knock data ∉ steps.flatMap (requested n) := by
  intro hmem
  obtain ⟨⟨before, a⟩, hx, hknock⟩ := List.mem_flatMap.mp hmem
  obtain ⟨_, after, _, _, hstep⟩ := hrun.of_mem hx
  unfold requested at hknock
  split_ifs at hknock
  · cases hstep with
    | request request => cases request <;> simp [Request.operation] at hknock
    | handleSend hrelayed =>
      rw [← List.mem_singleton.mp hknock] at hrelayed
      cases hrelayed
    | _ => simp at hknock
  · exact absurd hknock List.not_mem_nil

/-- If no two calls of `socket` overlap, each socket that opens carries a `Knock`, then the
requests of the time when it is open, and no other `Knock`; one that never opens carries
nothing. -/
theorem knocks_first (hrun : SessionRun terminates knock steps s) (hsequential : Sequential steps)
    (n : Nat) :
    (HasOpened n steps → s.messages n = .knock knock :: steps.flatMap (requested n)) ∧
      (¬HasOpened n steps → s.messages n = []) ∧
      ∀ data, .knock data ∉ steps.flatMap (requested n) := by
  obtain ⟨-, hcarried⟩ := single hrun hsequential
  exact ⟨hcarried.messages n, fun hn => (hcarried.silent n hn).1, no_knock hrun n⟩

/-- A client that binds an alias, loses its connection and gets another one. -/
theorem knocks_first_lost :
    ∃ (steps : List (Sessions × SessionStep)) (s : Sessions),
      SessionRun false ⟨"127.0.0", "parent"⟩ steps s ∧
        s.messages 0 = [.knock ⟨"127.0.0", "parent"⟩, .bind ⟨"127.0.0.0", "127.0.0.1:80"⟩] ∧
        s.messages 1 = [.knock ⟨"127.0.0", "parent"⟩] := by
  have hstart : SessionRun false ⟨"127.0.0", "parent"⟩ [] {} := .start rfl
  have hopen := (hstart.snoc .socket).snoc (.onopen (n := 0) rfl)
  have hbind := (hopen.snoc (.acknowledged (n := 0) "127.0.0.0" rfl)).snoc
    (.request (.bind "127.0.0.1:80"))
  have hlost := (hbind.snoc (.failing (n := 0) (.inr rfl))).snoc (.onclose (n := 0) rfl)
  have hrun := (hlost.snoc (.timeout Nat.one_pos)).snoc (.onopen (n := 1) rfl)
  refine ⟨_, _, hrun, ?_, ?_⟩
  · exact (knocks_first hrun (by decide) 0).1 (by decide)
  · exact (knocks_first hrun (by decide) 1).1 (by decide)

/-- Two calls of `socket` that overlap.  Their sockets open in the other order, and both times
it is the second socket that knocks. -/
theorem knocks_twice :
    ∃ (steps : List (Sessions × SessionStep)) (s : Sessions),
      SessionRun terminates knock steps s ∧
        s.messages 0 = [] ∧ s.messages 1 = [.knock knock, .knock knock] := by
  have hstart : SessionRun terminates knock [] {} := .start rfl
  have hcalls := (hstart.snoc .socket).snoc .socket
  have hrun := (hcalls.snoc (.onopen (n := 1) rfl)).snoc (.onopen (n := 0) rfl)
  exact ⟨_, _, hrun, rfl, rfl⟩

/-- If no two calls of `socket` overlap, what the socket of the client goes through is what the
socket of a client of the network goes through, step by step. -/
theorem network (hrun : SessionRun terminates knock steps s) (hsequential : Sequential steps)
    (E : JsStd.Emittery (String × Nat)) (client : Nat) :
    ∃ steps' p, NetworkRun E steps' p ∧ (∀ x ∈ steps', x.2.ofSocket client) ∧
      p.readyState client = s.readyState := by
  induction hrun with
  | start hinit =>
    subst hinit
    exact ⟨[], .init "", .start (Network.initial_init ""),
      fun _ hx => absurd hx List.not_mem_nil, rfl⟩
  | @snoc steps s s' a hrun hstep ih =>
    have hbefore : Sequential steps := fun x hx => hsequential x (List.mem_append_left _ hx)
    have hlast : a = .socket → s.waiting = 0 := hsequential (s, a) (by simp)
    obtain ⟨steps', p, hrun', hsocket, hp⟩ := ih hbefore
    rcases (single hrun hbefore).1.network E hstep hlast hp with hsame | ⟨b, p', hb, hof, hp'⟩
    · exact ⟨steps', p, hrun', hsocket, hp.trans hsame.symm⟩
    · refine ⟨_, p', hrun'.snoc hb, ?_, hp'⟩
      intro x hx
      rcases List.mem_append.mp hx with hx | hx
      · exact hsocket x hx
      · rw [List.mem_singleton.mp hx]
        exact hof

/-! ## Connecting again -/

/-- The events of a socket and of the timer that lead back to a connection. -/
def again : SessionStep → Bool
  | .onopen _ | .onclose _ | .timeout => true
  | _ => false

/-- Some of these events connect the client. -/
def Reopens (terminates : Bool) (knock : IKnockData) (s : Sessions) : Prop :=
  ∃ (path : List (Sessions × SessionStep)) (s' : Sessions) (n : Nat),
    Path (Sessions.Step terminates knock) s path s' ∧ (∀ x ∈ path, again x.2 = true) ∧
      s'.takes n = true

private theorem Reopens.cons {s s' : Sessions} {a : SessionStep}
    (h : Reopens terminates knock s') (hstep : Sessions.Step terminates knock s a s')
    (ha : again a = true) : Reopens terminates knock s := by
  obtain ⟨path, s'', n, hpath, hagain, htakes⟩ := h
  exact ⟨_, s'', n, .cons hstep hpath, List.forall_mem_cons.mpr ⟨ha, hagain⟩, htakes⟩

private theorem reopens_takes {n : Nat} (h : s.takes n = true) : Reopens terminates knock s :=
  ⟨[], s, n, .nil s, fun _ hx => absurd hx List.not_mem_nil, h⟩

private theorem reopens_connecting {n : Nat} (hclient : s.client = some n)
    (hn : s.sockets[n]? = some .CONNECTING) : Reopens terminates knock s := by
  have hlt := (List.getElem?_eq_some_iff.mp hn).1
  have htakes : (s.onopen knock n).takes n = true := by
    unfold takes onopen
    rw [send_client, send_sockets]
    simp [setState, hclient, hlt]
  exact (reopens_takes htakes).cons (.onopen hn) rfl

private theorem reopens_timer (htimer : 0 < s.reconnecting) : Reopens terminates knock s := by
  have hnew : s.timeout.sockets[s.sockets.length]? = some .CONNECTING := by
    simp [timeout, «open»]
  have hclient : s.timeout.client = some s.sockets.length := rfl
  exact (reopens_connecting hclient hnew).cons (.timeout htimer) rfl

/-- If no two calls of `socket` overlap, a client that has called it once can connect again from
every state, by events of its socket and its timer alone, and knocks when it does. -/
theorem reopens (hrun : SessionRun terminates knock steps s) (hsequential : Sequential steps)
    (hcalled : ∃ x ∈ steps, opens x = true) :
    ∃ (path : List (Sessions × SessionStep)) (s' : Sessions) (n : Nat),
      Path (Sessions.Step terminates knock) s path s' ∧ (∀ x ∈ path, again x.2 = true) ∧
        s'.takes n = true ∧ s'.messages n
          = .knock knock :: (steps ++ path).flatMap (requested n) := by
  obtain ⟨hsingle, -⟩ := single hrun hsequential
  have hopened : s.alive + s.reconnecting = steps.countP opens := hrun.sessions_opened
  have hpos : 0 < steps.countP opens := List.countP_pos_iff.mpr hcalled
  have hreopens : Reopens terminates knock s := by
    by_cases htimer : 0 < s.reconnecting
    · exact reopens_timer htimer
    · have halive : 0 < s.sockets.countP live := by
        show 0 < s.alive
        omega
      obtain ⟨state, hmem, hlive⟩ := List.countP_pos_iff.mp halive
      obtain ⟨n, hn⟩ := List.mem_iff_getElem?.mp hmem
      have hclient : s.client = some n := hsingle.current n state hn hlive
      cases state with
      | CONNECTING => exact reopens_connecting hclient hn
      | OPEN => exact reopens_takes (n := n) (by simp [takes, hclient, hn])
      | CLOSING => exact (reopens_timer (Nat.succ_pos _)).cons (.onclose hn) rfl
      | CLOSED => cases hlive
  obtain ⟨path, s', n, hpath, hagain, htakes⟩ := hreopens
  have hall : Sequential (steps ++ path) := by
    intro x hx hsocket
    rcases List.mem_append.mp hx with hx | hx
    · exact hsequential x hx hsocket
    · have := hagain x hx
      rw [hsocket] at this
      cases this
  obtain ⟨-, hcarried⟩ := single (hrun.append hpath) hall
  have htakes' : s'.client = some n ∧ s'.sockets[n]? = some .OPEN := by simpa [takes] using htakes
  exact ⟨path, s', n, hpath, hagain, htakes,
    hcarried.messages n (hcarried.opened n htakes'.2)⟩

/-- A client whose connection is lost before it has an id. -/
theorem reopens_lost :
    ∃ (s s' : Sessions) (path : List (Sessions × SessionStep)),
      s.sockets = [.CLOSED] ∧ Path (Sessions.Step false ⟨"127.0.0", "parent"⟩) s path s' ∧
        ∃ n, s'.takes n = true := by
  have hstart : SessionRun false ⟨"127.0.0", "parent"⟩ [] {} := .start rfl
  have hrun := ((hstart.snoc .socket).snoc (.failing (n := 0) (.inl rfl))).snoc
    (.onclose (n := 0) rfl)
  obtain ⟨path, s', n, hpath, -, htakes, -⟩ := reopens hrun (by decide) (by decide)
  exact ⟨_, s', path, by decide, hpath, n, htakes⟩

end SessionRun

end Unisockets.Signaling
