import Unisockets.Guest.Sockets
import Unisockets.Transition.Run

/-!
# What `close` releases

`close` of a descriptor should shut down the alias that was registered through
it, if there is one, and the descriptor should be unknown from then on.  It
never is: no call takes an entry out of `binds` (`Keeps`), so that `send`, `recv`
and `close` go on as before (`close_never_releases`).

Which alias the Shutdown names is the other half.  For a descriptor that was
only created it is `"stub"` (`close_shuts_down_stub`), and for an accepted one, or
one whose `connect` was rejected, it is the alias of the peer.
-/

namespace Unisockets.Guest

open JsStd Transition Transport

/-! ## Runs of calls -/

/-- A call in a state of the tables: its result and the tables after it. -/
def Sockets.call {α : Type} (c : SocketsM α) (s : Sockets) : Except SocketsError α × Sockets :=
  StateT.run (ExceptT.run c) s

inductive SocketsCall where
  | socket (x : External)
  | bind (x : External) (fd : Nat) (tcpAddress : String)
  | accept (x : External) (serverFd : Nat)
  | connect (x : External) (serverFd : Nat) (tcpAddress : String)
  | send (x : External) (fd : Nat) (msg : Uint8Array)
  | recv (x : External) (fd : Nat)
  | close (x : External) (fd : Nat)
  /-- `onNotifyBindAdd`: another thread has announced a bind. -/
  | onNotifyBindAdd (fd : Nat) (b : Bind)

namespace SocketsCall

/-- The tables after a call. -/
def run : SocketsCall → Sockets → Sockets
  | socket x, s => (Sockets.call (Sockets.socket x) s).2
  | bind x fd tcpAddress, s => (Sockets.call (Sockets.bind x fd tcpAddress) s).2
  | accept x serverFd, s => (Sockets.call (Sockets.accept x serverFd) s).2
  | connect x serverFd tcpAddress, s =>
    (Sockets.call (Sockets.connect x serverFd tcpAddress) s).2
  | send x fd msg, s => (Sockets.call (Sockets.send x fd msg) s).2
  | recv x fd, s => (Sockets.call (Sockets.recv x fd) s).2
  | close x fd, s => (Sockets.call (Sockets.close x fd) s).2
  | onNotifyBindAdd fd b, s =>
    if s.binds.has fd then s else { s with binds := s.binds.set fd b }

/-- The descriptor that a call creates. -/
def created : Sockets × SocketsCall → Option Nat
  | (s, socket x) => (Sockets.call (Sockets.socket x) s).1.toOption
  | (s, accept x serverFd) => ((Sockets.call (Sockets.accept x serverFd) s).1.toOption).map Prod.fst
  | _ => none

/-- The descriptor through which a call registers an alias, and the alias: that
of a Bind, or the one that a Connect gets. -/
def registered : Sockets × SocketsCall → Option (Nat × String)
  | (s, bind x fd tcpAddress) =>
    ((Sockets.call (Sockets.bind x fd tcpAddress) s).1.toOption).map fun _ => (fd, tcpAddress)
  | (s, connect x serverFd tcpAddress) =>
    ((Sockets.call (Sockets.connect x serverFd tcpAddress) s).1.toOption).map fun clientAlias =>
      (serverFd, clientAlias)
  | _ => none

end SocketsCall

/-- A run of calls, with the tables in front of each. -/
abbrev SocketsRun := Run (· = ({} : Sockets)) fun s (c : SocketsCall) s' => c.run s = s'

namespace SocketsRun

/-- The effects of a call. -/
def posted {α : Type} (c : SocketsM α) (s : Sockets) : List Effect :=
  (Sockets.call c s).2.effects.drop s.effects.length

/-- What `close(fd)` should do at the end of a run. -/
structure Releases (steps : List (Sockets × SocketsCall)) (s : Sockets) (x : External)
    (fd : Nat) : Prop where
  /-- A Shutdown names an alias that was registered through the descriptor, and
  the server accepts it. -/
  shutdown : ∀ tcpAddress, .externalClose tcpAddress ∈ posted (Sockets.close x fd) s →
    (fd, tcpAddress) ∈ steps.filterMap SocketsCall.registered ∧ x.close tcpAddress = .ok ()
  /-- A descriptor that has registered no alias sends none. -/
  silent : (∀ tcpAddress, (fd, tcpAddress) ∉ steps.filterMap SocketsCall.registered) →
    ∀ tcpAddress, .externalClose tcpAddress ∉ posted (Sockets.close x fd) s
  /-- The descriptor is unknown afterwards, unless another thread tells of it. -/
  gone : ∀ (x' : External) (msg : Uint8Array), x'.updateBinds.has fd = false →
    (Sockets.call (Sockets.send x' fd msg) (Sockets.call (Sockets.close x fd) s).2).1
      = .error .SocketDoesNotExistError ∧
    (Sockets.call (Sockets.recv x' fd) (Sockets.call (Sockets.close x fd) s).2).1
      = .error .SocketDoesNotExistError ∧
    (Sockets.call (Sockets.close x' fd) (Sockets.call (Sockets.close x fd) s).2).1
      = .error .SocketDoesNotExistError

end SocketsRun

/-! ## Descriptors stay -/

/-- A call leaves every descriptor in `binds`. -/
def Keeps {α : Type} (c : SocketsM α) : Prop :=
  ∀ s fd, s.binds.has fd = true → (Sockets.call c s).2.binds.has fd = true

section Keeps

variable {α β : Type}

theorem keeps_pure (a : α) : Keeps (pure a) := fun _ _ h => h

theorem keeps_throw (e : SocketsError) : Keeps (throw e : SocketsM α) := fun _ _ h => h

theorem keeps_get : Keeps (get : SocketsM Sockets) := fun _ _ h => h

theorem keeps_modify {f : Sockets → Sockets}
    (hf : ∀ s fd, s.binds.has fd = true → (f s).binds.has fd = true) :
    Keeps (modify f : SocketsM PUnit) := hf

theorem call_bind (c : SocketsM α) (f : α → SocketsM β) (s : Sockets) :
    Sockets.call (c >>= f) s =
      match Sockets.call c s with
      | (.ok a, s') => Sockets.call (f a) s'
      | (.error e, s') => (.error e, s') := by
  show StateT.run (ExceptT.run (c >>= f)) s = _
  rw [ExceptT.run_bind, StateT.run_bind]
  show (match StateT.run (ExceptT.run c) s with | (r, s') => _) = _
  unfold Sockets.call
  cases StateT.run (ExceptT.run c) s with
  | mk r s' =>
    cases r <;> rfl

theorem keeps_bind {c : SocketsM α} {f : α → SocketsM β} (hc : Keeps c) (hf : ∀ a, Keeps (f a)) :
    Keeps (c >>= f) := by
  intro s fd h
  have hc := hc s fd h
  rw [call_bind]
  cases hcall : Sockets.call c s with
  | mk r s' =>
    rw [hcall] at hc
    cases r with
    | ok a => exact hf a s' fd hc
    | error e => exact hc

theorem has_set_of_has {m : Map Nat Bind} {fd : Nat} (h : m.has fd = true) (fd' : Nat) (b : Bind) :
    (m.set fd' b).has fd = true := by
  rw [Map.has_set, h, Bool.or_true]

theorem has_foldl_set {fd : Nat} (entries : List (Nat × Bind)) {m : Map Nat Bind}
    (h : m.has fd = true) :
    (entries.foldl (fun binds entry => binds.set entry.1 entry.2) m).has fd = true := by
  induction entries generalizing m with
  | nil => exact h
  | cons entry entries ih => exact ih (has_set_of_has h _ _)

theorem keeps_external (r : Except String α) : Keeps (Sockets.external r) := by
  cases r with
  | ok a => exact keeps_pure a
  | error message => exact keeps_throw _

theorem keeps_setBind (x : External) (fd : Nat) (tcpAddress : String) :
    Keeps (Sockets.setBind x fd tcpAddress) :=
  keeps_modify fun _ _ h => has_set_of_has h _ _

theorem keeps_ensureBound (x : External) (fd : Nat) : Keeps (Sockets.ensureBound x fd) := by
  refine keeps_bind keeps_get fun s => ?_
  split
  · exact keeps_pure _
  · refine keeps_bind (keeps_modify fun _ _ h => has_foldl_set _ h) fun _ => ?_
    refine keeps_bind keeps_get fun s => ?_
    split
    · exact keeps_pure _
    · exact keeps_throw _

theorem keeps_socket (x : External) : Keeps (Sockets.socket x) := by
  refine keeps_bind (keeps_external _) fun fd => ?_
  refine keeps_bind (keeps_modify fun _ _ h => has_set_of_has h _ _) fun _ => ?_
  exact keeps_pure fd

theorem keeps_getBind (fd : Nat) : Keeps (Sockets.getBind fd) := by
  refine keeps_bind keeps_get fun s => ?_
  split
  · exact keeps_pure _
  · exact keeps_throw _

theorem keeps_externalClose (x : External) (tcpAddress : String) :
    Keeps (Sockets.externalClose x tcpAddress) :=
  keeps_bind (keeps_modify fun _ _ h => h) fun _ => keeps_external _

theorem keeps_close (x : External) (fd : Nat) : Keeps (Sockets.close x fd) := by
  refine keeps_bind (keeps_ensureBound x fd) fun _ => ?_
  refine keeps_bind keeps_get fun s => ?_
  split
  · refine keeps_bind keeps_get fun s => ?_
    split
    · exact keeps_externalClose x _
    · exact keeps_pure _
  · exact keeps_externalClose x _

end Keeps

/-- No call takes a descriptor away. -/
theorem SocketsCall.has_run (c : SocketsCall) {s : Sockets} {fd : Nat}
    (h : s.binds.has fd = true) : (c.run s).binds.has fd = true := by
  cases c with
  | socket x => exact keeps_socket x s fd h
  | bind x fd' tcpAddress =>
    have hkeeps : Keeps (Sockets.bind x fd' tcpAddress) :=
      keeps_bind (keeps_ensureBound x fd') fun _ =>
        keeps_bind (keeps_external _) fun _ => keeps_setBind x fd' tcpAddress
    exact hkeeps s fd h
  | accept x serverFd =>
    have hkeeps : Keeps (Sockets.accept x serverFd) :=
      keeps_bind (keeps_ensureBound x serverFd) fun _ =>
        keeps_bind (keeps_socket x) fun clientFd =>
        keeps_bind (keeps_getBind serverFd) fun _ =>
        keeps_bind (keeps_external _) fun clientAlias =>
        keeps_bind (keeps_setBind x clientFd clientAlias) fun _ => keeps_pure _
    exact hkeeps s fd h
  | connect x serverFd tcpAddress =>
    have hkeeps : Keeps (Sockets.connect x serverFd tcpAddress) := by
      refine keeps_bind (keeps_ensureBound x serverFd) fun _ => ?_
      refine keeps_bind (keeps_setBind x serverFd tcpAddress) fun _ => ?_
      refine keeps_bind (keeps_external _) fun clientAlias => ?_
      split
      · exact keeps_bind (keeps_modify fun _ _ h => h) fun _ => keeps_pure _
      · exact keeps_pure _
    exact hkeeps s fd h
  | send x fd' msg =>
    have hkeeps : Keeps (Sockets.send x fd' msg) :=
      keeps_bind (keeps_ensureBound x fd') fun _ =>
        keeps_bind (keeps_getBind fd') fun _ => keeps_external _
    exact hkeeps s fd h
  | recv x fd' =>
    have hkeeps : Keeps (Sockets.recv x fd') :=
      keeps_bind (keeps_ensureBound x fd') fun _ =>
        keeps_bind (keeps_getBind fd') fun _ => keeps_external _
    exact hkeeps s fd h
  | close x fd' => exact keeps_close x fd' s fd h
  | onNotifyBindAdd fd' b =>
    show (if s.binds.has fd' then s
      else ({ s with binds := s.binds.set fd' b } : Sockets)).binds.has fd = true
    split_ifs
    · exact h
    · exact has_set_of_has h _ _

/-! ## Descriptors that were created -/

section Created

variable {α β : Type} {s : Sockets} {fd : Nat}

/-- The parts of a call that returns. -/
theorem call_bind_eq_ok {c : SocketsM α} {f : α → SocketsM β} {b : β}
    (h : (Sockets.call (c >>= f) s).1 = .ok b) :
    ∃ a, (Sockets.call c s).1 = .ok a ∧
      Sockets.call (c >>= f) s = Sockets.call (f a) (Sockets.call c s).2 := by
  rw [call_bind] at h ⊢
  cases hcall : Sockets.call c s with
  | mk r s' =>
    rw [hcall] at h
    cases r with
    | ok a => exact ⟨a, rfl, rfl⟩
    | error e => cases h

theorem has_of_socket {x : External} (h : (Sockets.call (Sockets.socket x) s).1 = .ok fd) :
    (Sockets.call (Sockets.socket x) s).2.binds.has fd = true := by
  unfold Sockets.socket at h ⊢
  obtain ⟨fd', hfd', hcall⟩ := call_bind_eq_ok h
  rw [hcall] at h ⊢
  cases h
  show (Map.set _ fd Sockets.STUB).has fd = true
  simp [Map.has_set]

theorem has_of_accept {x : External} {serverFd : Nat} {clientAlias : String}
    (h : (Sockets.call (Sockets.accept x serverFd) s).1 = .ok (fd, clientAlias)) :
    (Sockets.call (Sockets.accept x serverFd) s).2.binds.has fd = true := by
  unfold Sockets.accept at h ⊢
  obtain ⟨_, -, hcall⟩ := call_bind_eq_ok h
  rw [hcall] at h ⊢
  obtain ⟨fd', hsocket, hcall⟩ := call_bind_eq_ok h
  have hhas := has_of_socket hsocket
  rw [hcall] at h ⊢
  -- the rest of `accept` returns the new descriptor and keeps it
  obtain ⟨b, hgetBind, hcall⟩ := call_bind_eq_ok h
  have hhas := keeps_getBind serverFd _ fd' hhas
  rw [hcall] at h ⊢
  obtain ⟨a, haccept, hcall⟩ := call_bind_eq_ok h
  have hhas := keeps_external (x.accept b.alias) _ fd' hhas
  rw [hcall] at h ⊢
  obtain ⟨_, hset, hcall⟩ := call_bind_eq_ok h
  have hhas := keeps_setBind x fd' a _ fd' hhas
  rw [hcall] at h ⊢
  cases h
  exact hhas

/-- A descriptor is in `binds` from its creation on. -/
theorem SocketsCall.has_of_created {c : SocketsCall}
    (h : SocketsCall.created (s, c) = some fd) : (c.run s).binds.has fd = true := by
  cases c with
  | socket x =>
    apply has_of_socket
    simp only [created] at h
    cases hr : (Sockets.call (Sockets.socket x) s).1 with
    | error e =>
      rw [hr] at h
      cases h
    | ok fd' =>
      rw [hr] at h
      cases h
      rfl
  | accept x serverFd =>
    simp only [created] at h
    cases hr : (Sockets.call (Sockets.accept x serverFd) s).1 with
    | error e =>
      rw [hr] at h
      cases h
    | ok r =>
      rw [hr] at h
      cases h
      exact has_of_accept hr
  | _ => cases h

theorem SocketsRun.has_of_created {steps : List (Sockets × SocketsCall)}
    (hrun : SocketsRun steps s) (hfd : fd ∈ steps.filterMap SocketsCall.created) :
    s.binds.has fd = true := by
  induction hrun with
  | start hinit => cases hfd
  | @snoc steps s s' c hrun hstep ih =>
    subst hstep
    rw [List.filterMap_append] at hfd
    rcases List.mem_append.mp hfd with hfd | hfd
    · exact c.has_run (ih hfd)
    · obtain ⟨y, hy, hcreated⟩ := List.mem_filterMap.mp hfd
      rw [List.mem_singleton.mp hy] at hcreated
      exact SocketsCall.has_of_created hcreated

end Created

/-! ## What `close` does -/

/-- `ensureBound` lets a descriptor pass that is in `binds`. -/
theorem call_ensureBound {s : Sockets} {fd : Nat} (x : External) (h : s.binds.has fd = true) :
    Sockets.call (Sockets.ensureBound x fd) s = (.ok (), s) := by
  unfold Sockets.ensureBound
  rw [call_bind]
  show Sockets.call (if s.binds.has fd = true then _ else _) s = _
  rw [if_pos h]
  rfl

theorem call_getBind {s : Sockets} {fd : Nat} {b : Bind} (h : s.binds.get fd = some b) :
    Sockets.call (Sockets.getBind fd) s = (.ok b, s) := by
  have hget : Sockets.call (get : SocketsM Sockets) s = (.ok s, s) := rfl
  unfold Sockets.getBind
  rw [call_bind, hget]
  simp only [h]
  rfl

/-- `send` on a descriptor that is in `binds` does what `externalSend` does. -/
theorem call_send {s : Sockets} {fd : Nat} (x : External) (msg : Uint8Array)
    (h : s.binds.has fd = true) :
    (Sockets.call (Sockets.send x fd msg) s).1 ≠ .error .SocketDoesNotExistError := by
  obtain ⟨b, hb⟩ := Map.has_iff.mp h
  unfold Sockets.send
  rw [call_bind, call_ensureBound x h]
  show (Sockets.call (Sockets.getBind fd >>= _) s).1 ≠ _
  rw [call_bind, call_getBind hb]
  show (Sockets.call (Sockets.external _) s).1 ≠ _
  cases x.send b.alias b.connectorId msg with
  | ok _ => exact fun he => by cases he
  | error message => exact fun he => by cases he

/-- After `close`, the descriptor is not gone: no descriptor that was created is
ever released. -/
theorem close_never_releases {steps : List (Sockets × SocketsCall)} {s : Sockets}
    (hrun : SocketsRun steps s) {fd : Nat} (hfd : fd ∈ steps.filterMap SocketsCall.created)
    (x : External) : ¬SocketsRun.Releases steps s x fd := by
  intro h
  have hhas := keeps_close x fd s fd (hrun.has_of_created hfd)
  exact call_send { id := x.id } [] hhas (h.gone { id := x.id } [] rfl).1

/-- Where the descriptor 1 is created and everything succeeds. -/
def succeeding : External := { id := "127.0.0.0", socket := .ok 1 }

theorem close_never_releases_run : ∃ steps s, SocketsRun steps s ∧
    s.effects = [.notifyBindSet 1 ⟨"127.0.0.0:80", "127.0.0.0"⟩] ∧
    ¬SocketsRun.Releases steps s succeeding 1 := by
  have hstart : SocketsRun [] {} := .start rfl
  have hsocket := hstart.snoc (a := .socket succeeding) rfl
  have hbind := hsocket.snoc (a := .bind succeeding 1 "127.0.0.0:80") rfl
  refine ⟨_, _, hbind, rfl, close_never_releases hbind ?_ succeeding⟩
  show 1 ∈ [1]
  exact List.mem_cons_self

/-- A descriptor that was only created has no alias, and its `close` shuts down
`"stub"`. -/
theorem close_shuts_down_stub : ¬∀ steps s, SocketsRun steps s →
    ∀ fd ∈ steps.filterMap SocketsCall.created, ∀ x, SocketsRun.Releases steps s x fd := by
  intro h
  have hstart : SocketsRun [] {} := .start rfl
  have hsocket := hstart.snoc (a := .socket succeeding) rfl
  have hreleases := h _ _ hsocket 1 List.mem_cons_self succeeding
  refine hreleases.silent (fun tcpAddress hmem => ?_) "stub" List.mem_cons_self
  cases hmem

end Unisockets.Guest
