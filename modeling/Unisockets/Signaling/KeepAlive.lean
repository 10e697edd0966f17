import Unisockets.Signaling.ServerRun
import Unisockets.Transition.Since

/-!
# The pings of the server

`open` of `signaling-server.ts`: the sockets of the listening server, the flag
`isAlive` that it keeps on each of them, and the interval timer that pings the
sockets and terminates those that have not answered since its last tick.

`terminate` destroys a socket; its `close` event comes later, and until then the
socket is still one of `server.clients`.  A tick is a step of its own: how far
apart two ticks are is left out.

`OpenRun.terminated_iff` says exactly which sockets are terminated, in every run:
those for which two ticks have passed with no pong in between.  To the handlers
the timer is not there: what they see is a run of the server (`OpenRun.server`).
-/

namespace Unisockets.Signaling

open JsStd Transition

/-- The server between `open` and `close`. -/
structure OpenServer where
  pool : ServerPool := .init
  /-- `server.clients`, in insertion order. -/
  clients : List Socket := []
  /-- The property `isAlive` of the sockets. -/
  isAlive : Map Socket Bool := .empty
  /-- The sockets that have been pinged, and those that have been terminated. -/
  pinged : List Socket := []
  terminated : List Socket := []
  /-- How many sockets there have been. -/
  connections : Nat := 0

/-- A step of the open server. -/
inductive OpenStep where
  | connection
  | pong (client : Socket)
  | message (operation : Operation) (client : Socket)
  | interval
  | close (client : Socket)
  | resume (task : ServerTask)
  deriving DecidableEq, Repr

/-- The step of the server that it is. -/
def OpenStep.server : OpenStep → Option ServerStep
  | .message operation client => some (.message operation client)
  | .close client => some (.close client)
  | .resume task => some (.resume task)
  | _ => none

namespace OpenServer

/-- The `connection` event.  Every connection has its own socket. -/
def connection (s : OpenServer) : OpenServer :=
  { s with
    clients := s.clients ++ [s.connections]
    isAlive := s.isAlive.set s.connections true
    connections := s.connections + 1 }

/-- The `pong` event. -/
def pong (s : OpenServer) (client : Socket) : OpenServer :=
  { s with isAlive := s.isAlive.set client true }

/-- What the timer does with one socket. -/
def ping (s : OpenServer) (client : Socket) : OpenServer :=
  if s.isAlive.get client = some false then
    { s with terminated := s.terminated ++ [client] }
  else
    { s with
      isAlive := s.isAlive.set client false
      pinged := s.pinged ++ [client] }

/-- A tick of the timer. -/
def interval (s : OpenServer) : OpenServer := s.clients.foldl ping s

/-- The `close` event of a socket. -/
def close (s : OpenServer) (client : Socket) : OpenServer :=
  { s with
    pool := s.pool.close client
    clients := s.clients.filter fun client' => client' ≠ client }

/-- The step relation. -/
inductive Step (s : OpenServer) : OpenStep → OpenServer → Prop where
  | connection : Step s .connection s.connection
  | pong {client : Socket} (hclient : client ∈ s.clients) : Step s (.pong client) (s.pong client)
  | message {client : Socket} (operation : Operation) (hclient : client ∈ s.clients) :
    Step s (.message operation client) { s with pool := s.pool.message operation client }
  | interval : Step s .interval s.interval
  | close {client : Socket} (hclient : client ∈ s.clients) :
    Step s (.close client) (s.close client)
  | resume {task : ServerTask} {pool : ServerPool}
      (hstep : ServerPool.Step s.pool (.resume task) pool) :
    Step s (.resume task) { s with pool := pool }

/-! ## A tick -/

theorem ping_terminated (s : OpenServer) (client : Socket) :
    (s.ping client).terminated
      = s.terminated ++ (if s.isAlive.get client = some false then [client] else []) := by
  unfold ping
  split_ifs <;> simp

theorem ping_get (s : OpenServer) (client client' : Socket) :
    (s.ping client).isAlive.get client'
      = if client' = client then some false else s.isAlive.get client' := by
  unfold ping
  split_ifs with hdead hclient hclient
  · rw [hclient, hdead]
  · rfl
  · rw [hclient]
    exact Map.get_set_self _ _ _
  · exact Map.get_set_of_ne _ _ hclient

/-- A loop of pings over distinct sockets looks at each flag once. -/
theorem foldl_ping {l : List Socket} (hl : l.Nodup) (s : OpenServer) :
    (∀ client, (l.foldl ping s).isAlive.get client
        = if client ∈ l then some false else s.isAlive.get client) ∧
      (∀ client, client ∈ (l.foldl ping s).terminated ↔
        client ∈ s.terminated ∨ client ∈ l ∧ s.isAlive.get client = some false) := by
  induction l generalizing s with
  | nil => simp
  | cons c l ih =>
    rw [List.nodup_cons] at hl
    obtain ⟨hget, hterminated⟩ := ih hl.2 (s.ping c)
    constructor
    · intro client
      rw [List.foldl_cons, hget, ping_get]
      by_cases hclient : client = c
      · simp [hclient]
      · simp [hclient]
    · intro client
      rw [List.foldl_cons, hterminated, ping_terminated, ping_get]
      by_cases hclient : client = c
      · subst hclient
        simp [hl.1]
      · by_cases hdead : s.isAlive.get c = some false <;> simp [hclient, hdead]

theorem foldl_ping_pool (l : List Socket) (s : OpenServer) :
    (l.foldl ping s).pool = s.pool ∧ (l.foldl ping s).clients = s.clients ∧
      (l.foldl ping s).connections = s.connections := by
  induction l generalizing s with
  | nil => exact ⟨rfl, rfl, rfl⟩
  | cons c l ih =>
    have hping : (s.ping c).pool = s.pool ∧ (s.ping c).clients = s.clients ∧
        (s.ping c).connections = s.connections := by
      unfold ping
      split_ifs <;> exact ⟨rfl, rfl, rfl⟩
    rw [List.foldl_cons, (ih _).1, (ih _).2.1, (ih _).2.2]
    exact hping

end OpenServer

/-- A run of the open server, with its steps. -/
abbrev OpenRun := Run (· = ({} : OpenServer)) OpenServer.Step

namespace OpenRun

/-- A tick while a socket is connected. -/
def Ticked (client : Socket) (x : OpenServer × OpenStep) : Prop :=
  x.2 = .interval ∧ client ∈ x.1.clients

/-- Since a tick there has been no pong of the socket. -/
def Silent (client : Socket) (steps : List (OpenServer × OpenStep)) : Prop :=
  Since (Ticked client) (fun x => x.2 ≠ .pong client) steps

/-- There was a tick, and no pong between it and an earlier one. -/
def Overdue (client : Socket) (steps : List (OpenServer × OpenStep)) : Prop :=
  ∃ before x after, steps = before ++ x :: after ∧ Ticked client x ∧ Silent client before

theorem overdue_snoc {client : Socket} {steps : List (OpenServer × OpenStep)}
    {y : OpenServer × OpenStep} :
    Overdue client (steps ++ [y]) ↔
      Overdue client steps ∨ Ticked client y ∧ Silent client steps := by
  constructor
  · rintro ⟨before, x, after, hl, hticked, hsilent⟩
    rcases eq_append_cons_of_snoc hl with ⟨rfl, rfl⟩ | ⟨rest, rfl, rfl⟩
    · obtain ⟨rfl, -⟩ := List.append_inj' hl rfl
      exact .inr ⟨hticked, hsilent⟩
    · exact .inl ⟨before, x, rest, rfl, hticked, hsilent⟩
  · rintro (⟨before, x, after, rfl, hticked, hsilent⟩ | ⟨hticked, hsilent⟩)
    · exact ⟨before, x, after ++ [y], by simp, hticked, hsilent⟩
    · exact ⟨steps, y, [], rfl, hticked, hsilent⟩

/-- What the flags and the list of terminated sockets say about the past. -/
structure Watched (steps : List (OpenServer × OpenStep)) (s : OpenServer) : Prop where
  nodup : s.clients.Nodup
  below : ∀ c ∈ s.clients, c < s.connections
  past : ∀ x ∈ steps, ∀ c ∈ x.1.clients, c < s.connections
  silent : ∀ c ∈ s.clients, s.isAlive.get c = some false ↔ Silent c steps
  overdue : ∀ c, c ∈ s.terminated ↔ Overdue c steps

namespace Watched

variable {steps : List (OpenServer × OpenStep)} {s s' : OpenServer} {a : OpenStep}

/-- No tick has come yet for the next socket. -/
theorem not_silent (h : Watched steps s) : ¬Silent s.connections steps := by
  rintro ⟨before, x, after, rfl, ⟨-, hx⟩, -⟩
  exact Nat.lt_irrefl _ (h.past x (List.mem_append_right _ List.mem_cons_self) _ hx)

private theorem silent_snoc (client : Socket) :
    Silent client (steps ++ [(s, a)]) ↔
      Ticked client (s, a) ∨ Silent client steps ∧ a ≠ .pong client := since_snoc

private theorem past_snoc (h : Watched steps s) {connections : Nat}
    (hle : s.connections ≤ connections) :
    ∀ x ∈ steps ++ [(s, a)], ∀ c ∈ x.1.clients, c < connections := by
  intro x hx c hc
  rcases List.mem_append.mp hx with hx | hx
  · exact Nat.lt_of_lt_of_le (h.past x hx c hc) hle
  · rw [List.mem_singleton.mp hx] at hc
    exact Nat.lt_of_lt_of_le (h.below c hc) hle

/-- A step that is no tick and no pong, and after which no socket is new. -/
theorem keep (h : Watched steps s) (hticks : a ≠ .interval) (hpongs : ∀ c, a ≠ .pong c)
    (hclients : s'.clients.Sublist s.clients) (halive : s'.isAlive = s.isAlive)
    (hterminated : s'.terminated = s.terminated) (hconnections : s'.connections = s.connections) :
    Watched (steps ++ [(s, a)]) s' := by
  have hticked : ∀ c, ¬Ticked c (s, a) := fun c hc => hticks hc.1
  constructor
  · exact h.nodup.sublist hclients
  · intro c hc
    rw [hconnections]
    exact h.below c (hclients.subset hc)
  · exact h.past_snoc hconnections.ge
  · intro c hc
    rw [halive, silent_snoc, h.silent c (hclients.subset hc)]
    simp [hticked c, hpongs c]
  · intro c
    rw [hterminated, overdue_snoc, h.overdue c]
    simp [hticked c]

theorem connection (h : Watched steps s) : Watched (steps ++ [(s, .connection)]) s.connection := by
  have hticked : ∀ c, ¬Ticked c (s, .connection) := fun c hc => by cases hc.1
  constructor
  · refine List.nodup_append.mpr ⟨h.nodup, by simp, ?_⟩
    intro c hc c' hc'
    rw [List.mem_singleton.mp hc']
    exact Nat.ne_of_lt (h.below c hc)
  · intro c hc
    show c < s.connections + 1
    rcases List.mem_append.mp hc with hc | hc
    · exact Nat.lt_succ_of_lt (h.below c hc)
    · rw [List.mem_singleton.mp hc]
      exact Nat.lt_succ_self _
  · exact h.past_snoc (Nat.le_succ _)
  · intro c hc
    rw [silent_snoc]
    show (s.isAlive.set s.connections true).get c = some false ↔ _
    rcases List.mem_append.mp hc with hc | hc
    · rw [Map.get_set_of_ne _ _ (Nat.ne_of_lt (h.below c hc)), h.silent c hc]
      simp [hticked c]
    · rw [List.mem_singleton.mp hc, Map.get_set_self]
      simp [hticked, h.not_silent]
  · intro c
    rw [overdue_snoc]
    simp only [hticked c, false_and, or_false]
    exact h.overdue c

theorem pong (h : Watched steps s) (client : Socket) :
    Watched (steps ++ [(s, .pong client)]) (s.pong client) := by
  have hticked : ∀ c, ¬Ticked c (s, .pong client) := fun c hc => by cases hc.1
  constructor
  · exact h.nodup
  · exact h.below
  · exact h.past_snoc (Nat.le_refl _)
  · intro c hc
    rw [silent_snoc]
    show (s.isAlive.set client true).get c = some false ↔ _
    by_cases hclient : c = client
    · subst hclient
      rw [Map.get_set_self]
      simp [hticked]
    · rw [Map.get_set_of_ne _ _ hclient, h.silent c hc]
      simp [hticked c, Ne.symm hclient]
  · intro c
    rw [overdue_snoc]
    simp only [hticked c, false_and, or_false]
    exact h.overdue c

/-- A tick terminates the sockets that have been silent since the last one. -/
theorem interval (h : Watched steps s) : Watched (steps ++ [(s, .interval)]) s.interval := by
  obtain ⟨hget, hterminated⟩ := OpenServer.foldl_ping h.nodup s
  obtain ⟨-, hclients, hconnections⟩ := OpenServer.foldl_ping_pool s.clients s
  have hticked : ∀ c, Ticked c (s, .interval) ↔ c ∈ s.clients :=
    fun c => ⟨fun hc => hc.2, fun hc => ⟨rfl, hc⟩⟩
  constructor
  · exact hclients.symm ▸ h.nodup
  · intro c hc
    rw [OpenServer.interval, hconnections]
    exact h.below c (hclients ▸ hc)
  · exact h.past_snoc hconnections.ge
  · intro c hc
    have hc : c ∈ s.clients := hclients ▸ hc
    rw [OpenServer.interval, hget, if_pos hc, silent_snoc]
    simp [hticked, hc]
  · intro c
    rw [OpenServer.interval, hterminated, overdue_snoc, h.overdue c, hticked]
    by_cases hc : c ∈ s.clients
    · simp [hc, h.silent c hc]
    · simp [hc]

theorem step (h : Watched steps s) (hstep : OpenServer.Step s a s') :
    Watched (steps ++ [(s, a)]) s' := by
  cases hstep with
  | connection => exact h.connection
  | pong hclient => exact h.pong _
  | message operation hclient =>
    exact h.keep (by simp) (by simp) (List.Sublist.refl _) rfl rfl rfl
  | interval => exact h.interval
  | close hclient => exact h.keep (by simp) (by simp) List.filter_sublist rfl rfl rfl
  | resume hstep => exact h.keep (by simp) (by simp) (List.Sublist.refl _) rfl rfl rfl

end Watched

variable {steps : List (OpenServer × OpenStep)} {s : OpenServer}

theorem watched (hrun : OpenRun steps s) : Watched steps s := by
  induction hrun with
  | start hinit =>
    subst hinit
    constructor <;> simp [Overdue]
  | snoc _ hstep ih => exact ih.step hstep

/-- The steps of the server in a run. -/
def serverSteps (steps : List (OpenServer × OpenStep)) : List (ServerPool × ServerStep) :=
  steps.filterMap fun x => x.2.server.map fun a => (x.1.pool, a)

private theorem serverSteps_snoc (x : OpenServer × OpenStep) :
    serverSteps (steps ++ [x]) = serverSteps steps ++ serverSteps [x] := by
  simp [serverSteps]

/-- The timer leaves the tables and the handlers alone. -/
theorem server (hrun : OpenRun steps s) : ServerRun (serverSteps steps) s.pool := by
  induction hrun with
  | start hinit =>
    subst hinit
    exact .start rfl
  | @snoc steps s s' a _ hstep ih =>
    rw [serverSteps_snoc]
    cases hstep with
    | connection => exact (List.append_nil (serverSteps steps)).symm ▸ ih
    | pong hclient => exact (List.append_nil (serverSteps steps)).symm ▸ ih
    | message operation hclient => exact ih.snoc (.message operation _)
    | interval =>
      have hpool : s.interval.pool = s.pool := (OpenServer.foldl_ping_pool s.clients s).1
      rw [hpool]
      exact (List.append_nil (serverSteps steps)).symm ▸ ih
    | close hclient => exact ih.snoc (.close _)
    | resume hstep => exact ih.snoc hstep

/-- In every run the terminated sockets are those for which two ticks have come
with no pong in between, and to the tables and the handlers of the server the
run is one without a timer. -/
theorem terminated_iff (hrun : OpenRun steps s) :
    (∀ client, client ∈ s.terminated ↔ Overdue client steps) ∧
      ServerRun (serverSteps steps) s.pool :=
  ⟨hrun.watched.overdue, hrun.server⟩

/-- A socket that answers no ping. -/
theorem terminated_iff_mute : ∃ (steps : List (OpenServer × OpenStep)) (s : OpenServer),
    OpenRun steps s ∧ s.terminated = [0] ∧ Overdue 0 steps := by
  have hstart : OpenRun [] {} := .start rfl
  have hrun := ((hstart.snoc .connection).snoc .interval).snoc .interval
  exact ⟨_, _, hrun, by decide, ((terminated_iff hrun).1 0).mp (by decide)⟩

end OpenRun

end Unisockets.Signaling
