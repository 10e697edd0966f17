import Unisockets.Guest.Imports

/-!
# What a failed call leaves behind

A `bind`, `connect` or `accept` whose external operation rejects should leave the tables of the
sockets as they were.  The three do their work in different orders.

* `bind` updates the tables behind the external operation.  Before it, `ensureBound` may have
  merged the binds of the other threads.
* `accept` puts the new descriptor into the tables before.
* `connect` sets the bind and announces it before.

`failed_calls_unaffected_iff` says what follows for each.
-/

namespace Unisockets.Guest

open JsStd Transport

/-- The external operation of a call rejects. -/
def Rejects {α : Type} (c : SocketsM α) (s : Sockets) : Prop :=
  ∃ message, (Sockets.call c s).1 = .error (.rejected message)

/-- The tables are as before, and nothing has been announced. -/
structure Unaffected (s s' : Sockets) : Prop where
  binds : s'.binds = s.binds
  clientAliases : s'.clientAliases = s.clientAliases
  announced : s'.effects = s.effects

section Bind

variable {α β : Type} {c : SocketsM α} {f : α → SocketsM β} {s s' : Sockets} {a : α}

theorem call_bind_of_ok (h : Sockets.call c s = (.ok a, s')) :
    Sockets.call (c >>= f) s = Sockets.call (f a) s' := by
  rw [call_bind, h]

theorem rejects_bind_iff (h : Sockets.call c s = (.ok a, s')) :
    Rejects (c >>= f) s ↔ Rejects (f a) s' := by
  rw [Rejects, Rejects, call_bind_of_ok h]

/-- An external operation that rejects leaves the tables as they are. -/
theorem call_external_bind {r : Except String α} (hf : ∀ a, ¬Rejects (f a) s)
    (h : Rejects (Sockets.external r >>= f) s) :
    (Sockets.call (Sockets.external r >>= f) s).2 = s := by
  cases r with
  | error message => rfl
  | ok a => exact absurd ((rejects_bind_iff rfl).mp h) (hf a)

end Bind

/-! ## `ensureBound` -/

/-- The binds with those that the other threads have announced. -/
def Sockets.merged (s : Sockets) (x : External) : Sockets :=
  { s with
    binds := x.updateBinds.entries.foldl (fun binds entry => binds.set entry.1 entry.2) s.binds }

/-- `ensureBound` asks for the binds of the other threads if the descriptor is not there. -/
theorem call_ensureBound_of_not_has {s : Sockets} {x : External} {fd : Nat}
    (h : s.binds.has fd = false) : Sockets.call (Sockets.ensureBound x fd) s =
      (if (s.merged x).binds.has fd then .ok () else .error .SocketDoesNotExistError,
        s.merged x) := by
  unfold Sockets.ensureBound
  rw [call_bind]
  show Sockets.call (if s.binds.has fd = true then _ else _) s = _
  rw [h, if_neg Bool.false_ne_true, call_bind]
  show Sockets.call (get >>= _) (s.merged x) = _
  rw [call_bind]
  show Sockets.call (if (s.merged x).binds.has fd = true then _ else _) (s.merged x) = _
  split_ifs <;> rfl

/-- The tables behind an `ensureBound` that succeeds. -/
structure Ensured (s : Sockets) (fd : Nat) (s' : Sockets) : Prop where
  has : s'.binds.has fd = true
  clientAliases : s'.clientAliases = s.clientAliases
  effects : s'.effects = s.effects
  same : s.binds.has fd = true → s' = s

theorem ensureBound_cases (s : Sockets) (x : External) (fd : Nat) :
    (∃ s', Sockets.call (Sockets.ensureBound x fd) s = (.ok (), s') ∧ Ensured s fd s') ∨
      ∃ s', Sockets.call (Sockets.ensureBound x fd) s = (.error .SocketDoesNotExistError, s') := by
  by_cases h : s.binds.has fd = true
  · exact .inl ⟨s, call_ensureBound x h, h, rfl, rfl, fun _ => rfl⟩
  · rw [call_ensureBound_of_not_has (Bool.eq_false_of_not_eq_true h)]
    split_ifs with hmerged
    · exact .inl ⟨_, rfl, hmerged, rfl, rfl, fun hhas => absurd hhas h⟩
    · exact .inr ⟨_, rfl⟩

/-- A call that rejects has got past `ensureBound`. -/
theorem ensured_of_rejects {α : Type} {s : Sockets} {x : External} {fd : Nat}
    {f : Unit → SocketsM α} (h : Rejects (Sockets.ensureBound x fd >>= f) s) :
    ∃ s', Ensured s fd s' ∧ Rejects (f ()) s' ∧
      Sockets.call (Sockets.ensureBound x fd >>= f) s = Sockets.call (f ()) s' := by
  obtain ⟨message, h⟩ := h
  rw [call_bind] at h ⊢
  rcases ensureBound_cases s x fd with ⟨s', hcall, hensured⟩ | ⟨s', hcall⟩
  · rw [hcall] at h ⊢
    exact ⟨s', hensured, ⟨message, h⟩, rfl⟩
  · rw [hcall] at h
    cases h

/-- Behind `ensureBound` the tables are unaffected if the descriptor was there. -/
theorem Ensured.unaffected_iff {s s' : Sockets} {fd : Nat} (h : Ensured s fd s') :
    Unaffected s s' ↔ s.binds.has fd = true := by
  constructor
  · intro hunaffected
    rw [← hunaffected.binds]
    exact h.has
  · intro hhas
    rw [h.same hhas]
    exact ⟨rfl, rfl, rfl⟩

/-! ## The three calls -/

/-- The tables behind `setBind`. -/
def Sockets.bound (s : Sockets) (x : External) (fd : Nat) (tcpAddress : String) : Sockets :=
  { s with
    binds := s.binds.set fd ⟨tcpAddress, x.id⟩
    effects := s.effects ++ [.notifyBindSet fd ⟨tcpAddress, x.id⟩] }

/-- The tables behind `socket`. -/
def Sockets.stubbed (s : Sockets) (fd : Nat) : Sockets :=
  { s with binds := s.binds.set fd Sockets.STUB }

/-- A stub is no change exactly if it was there. -/
theorem Ensured.stubbed_unaffected_iff {s s' : Sockets} {fd : Nat} (h : Ensured s fd s')
    (clientFd : Nat) : Unaffected s (s'.stubbed clientFd) ↔
      s.binds.has fd = true ∧ s.binds.get clientFd = some Sockets.STUB := by
  constructor
  · intro hunaffected
    have hbinds : s'.binds.set clientFd Sockets.STUB = s.binds := hunaffected.binds
    constructor
    · rw [← hbinds]
      exact has_set_of_has h.has clientFd Sockets.STUB
    · rw [← hbinds, Map.get_set_self]
  · intro ⟨hhas, hstub⟩
    rw [h.same hhas]
    exact ⟨Map.set_eq_self hstub, rfl, rfl⟩

section Calls

variable {x : External} {fd : Nat} {s : Sockets}

theorem not_rejects_pure {α : Type} (a : α) : ¬Rejects (pure a) s := by
  intro ⟨message, h⟩
  cases h

theorem bind_unaffected_iff {tcpAddress : String}
    (h : Rejects (Sockets.bind x fd tcpAddress) s) :
    Unaffected s (Sockets.call (Sockets.bind x fd tcpAddress) s).2 ↔
      s.binds.has fd = true := by
  unfold Sockets.bind at h ⊢
  obtain ⟨s', hensured, hrejects, hcall⟩ := ensured_of_rejects h
  have hset : ∀ _ : Unit, ¬Rejects (Sockets.setBind x fd tcpAddress) s' := by
    intro _ ⟨message, hset⟩
    cases hset
  rw [hcall, call_external_bind hset hrejects, hensured.unaffected_iff]

theorem connect_affected {tcpAddress : String}
    (h : Rejects (Sockets.connect x fd tcpAddress) s) :
    ¬Unaffected s (Sockets.call (Sockets.connect x fd tcpAddress) s).2 := by
  unfold Sockets.connect at h ⊢
  obtain ⟨s', hensured, hrejects, hcall⟩ := ensured_of_rejects h
  have hset : Sockets.call (Sockets.setBind x fd tcpAddress) s' =
      (.ok (), s'.bound x fd tcpAddress) := rfl
  rw [rejects_bind_iff hset] at hrejects
  rw [hcall, call_bind_of_ok hset, call_external_bind ?_ hrejects]
  · -- the bind has been announced
    intro hunaffected
    have hlength := congrArg List.length hunaffected.announced
    rw [← hensured.effects] at hlength
    simp [Sockets.bound] at hlength
  · intro clientAlias hnever
    by_cases hempty : clientAlias ≠ ""
    · rw [if_pos hempty] at hnever
      exact not_rejects_pure clientAlias ((rejects_bind_iff rfl).mp hnever)
    · rw [if_neg hempty] at hnever
      exact not_rejects_pure clientAlias hnever

theorem accept_unaffected_iff (h : Rejects (Sockets.accept x fd) s) :
    Unaffected s (Sockets.call (Sockets.accept x fd) s).2 ↔
      s.binds.has fd = true ∧
        ∀ clientFd, x.socket = .ok clientFd → s.binds.get clientFd = some Sockets.STUB := by
  unfold Sockets.accept at h ⊢
  obtain ⟨s', hensured, hrejects, hcall⟩ := ensured_of_rejects h
  rw [hcall]
  cases hsocket : x.socket with
  | error message =>
    have hfailed : Sockets.call (Sockets.socket x) s' = (.error (.rejected message), s') := by
      unfold Sockets.socket
      rw [call_bind, hsocket]
      rfl
    rw [call_bind, hfailed]
    show Unaffected s s' ↔ _
    rw [hensured.unaffected_iff]
    simp
  | ok clientFd =>
    have hcreated : Sockets.call (Sockets.socket x) s' = (.ok clientFd, s'.stubbed clientFd) := by
      unfold Sockets.socket
      rw [call_bind, hsocket]
      rfl
    obtain ⟨b, hb⟩ := Map.has_iff.mp (has_set_of_has hensured.has clientFd Sockets.STUB)
    have hget : Sockets.call (Sockets.getBind fd) (s'.stubbed clientFd) =
        (.ok b, s'.stubbed clientFd) := call_getBind hb
    rw [rejects_bind_iff hcreated, rejects_bind_iff hget] at hrejects
    rw [call_bind_of_ok hcreated, call_bind_of_ok hget, call_external_bind ?_ hrejects]
    · rw [hensured.stubbed_unaffected_iff]
      simp
    · intro clientAlias hnever
      exact not_rejects_pure _ ((rejects_bind_iff rfl).mp hnever)

end Calls

/-! ## The imports -/

/-- An import whose call rejects returns `-1`, with the tables of the call. -/
theorem attempt_of_rejects {α : Type} {c : SocketsM α} {s : Sockets}
    {request : Uint8Array → Option (SocketsM α)} {finish : Uint8Array → α → Uint8Array × Nat}
    {memory : Uint8Array} (hrequest : request memory = some c) (h : Rejects c s) :
    (Imports.attempt request finish memory s).value = -1 ∧
      (Imports.attempt request finish memory s).sockets = (Sockets.call c s).2 := by
  obtain ⟨message, h⟩ := h
  rw [Imports.attempt_of_error hrequest h]
  exact ⟨rfl, rfl⟩

/-- When a call whose external operation rejects leaves no trace. -/
theorem failed_calls_unaffected_iff (x : External) (fd : Nat) (s : Sockets)
    (memory : Uint8Array) (addressPointer : Nat) :
    (∀ addressLength tcpAddress,
      readAddress memory addressPointer addressLength = some tcpAddress →
      (Rejects (Sockets.bind x fd tcpAddress) s →
        (Imports.unisockets_bind x fd addressPointer addressLength memory s).value = -1 ∧
        (Unaffected s
            (Imports.unisockets_bind x fd addressPointer addressLength memory s).sockets ↔
          s.binds.has fd = true)) ∧
      (Rejects (Sockets.connect x fd tcpAddress) s →
        (Imports.unisockets_connect x fd addressPointer addressLength memory s).value = -1 ∧
        ¬Unaffected s
          (Imports.unisockets_connect x fd addressPointer addressLength memory s).sockets)) ∧
    ∀ addressLengthPointer, Rejects (Sockets.accept x fd) s →
      (Imports.unisockets_accept x fd addressPointer addressLengthPointer memory s).value = -1 ∧
      (Unaffected s
          (Imports.unisockets_accept x fd addressPointer addressLengthPointer memory s).sockets ↔
        s.binds.has fd = true ∧
          ∀ clientFd, x.socket = .ok clientFd → s.binds.get clientFd = some Sockets.STUB) := by
  constructor
  · intro addressLength tcpAddress hread
    constructor
    · intro hrejects
      obtain ⟨hvalue, hsockets⟩ : _ ∧ (Imports.unisockets_bind x fd addressPointer addressLength
          memory s).sockets = _ := attempt_of_rejects (by rw [hread, Option.map_some]) hrejects
      rw [hsockets]
      exact ⟨hvalue, bind_unaffected_iff hrejects⟩
    · intro hrejects
      obtain ⟨hvalue, hsockets⟩ : _ ∧ (Imports.unisockets_connect x fd addressPointer
          addressLength memory s).sockets = _ :=
        attempt_of_rejects (by rw [hread, Option.map_some]) hrejects
      rw [hsockets]
      exact ⟨hvalue, connect_affected hrejects⟩
  · intro addressLengthPointer hrejects
    obtain ⟨hvalue, hsockets⟩ : _ ∧ (Imports.unisockets_accept x fd addressPointer
        addressLengthPointer memory s).sockets = _ := attempt_of_rejects rfl hrejects
    rw [hsockets]
    exact ⟨hvalue, accept_unaffected_iff hrejects⟩

/-- Where every external operation rejects. -/
def rejecting : External :=
  { id := "127.0.0.0"
    bind := fun _ => .error "AliasDoesNotExistError"
    accept := fun _ => .error "AliasDoesNotExistError"
    connect := fun _ => .error "AliasDoesNotExistError" }

theorem failed_bind_unaffected :
    Unaffected oneBound
        (Imports.unisockets_bind rejecting 3 0 8 (some [2, 0, 0, 80, 127, 0, 0, 1])
          oneBound).sockets ∧
      ¬Unaffected oneBound
        (Imports.unisockets_connect rejecting 3 0 8 (some [2, 0, 0, 80, 127, 0, 0, 1])
          oneBound).sockets ∧
      Unaffected oneBound
        (Imports.unisockets_accept rejecting 3 0 8 (some [2, 0, 0, 80, 127, 0, 0, 1])
          oneBound).sockets := by
  have hread : readAddress [2, 0, 0, 80, 127, 0, 0, 1] 0 8 = some "127.0.0.1:80" := by
    decide +kernel
  obtain ⟨hcalls, haccept⟩ := failed_calls_unaffected_iff rejecting 3 oneBound
    [2, 0, 0, 80, 127, 0, 0, 1] 0
  obtain ⟨hbind, hconnect⟩ := hcalls 8 "127.0.0.1:80" hread
  refine ⟨(hbind ⟨_, rfl⟩).2.mpr rfl, (hconnect ⟨_, rfl⟩).2, (haccept 8 ⟨_, rfl⟩).2.mpr ?_⟩
  refine ⟨rfl, fun clientFd hsocket => ?_⟩
  cases hsocket

/-- A rejected `connect` leaves the descriptor bound to the alias that it has not reached, and
has announced it. -/
theorem failed_connect_affected :
    Rejects (Sockets.connect rejecting 3 "127.0.0.1:80") oneBound ∧
    (Imports.unisockets_connect rejecting 3 0 8 (some [2, 0, 0, 80, 127, 0, 0, 1])
      oneBound).value = -1 ∧
    (Imports.unisockets_connect rejecting 3 0 8 (some [2, 0, 0, 80, 127, 0, 0, 1])
      oneBound).sockets.binds.get 3 = some ⟨"127.0.0.1:80", "127.0.0.0"⟩ ∧
    (Imports.unisockets_connect rejecting 3 0 8 (some [2, 0, 0, 80, 127, 0, 0, 1])
      oneBound).sockets.effects = [.notifyBindSet 3 ⟨"127.0.0.1:80", "127.0.0.0"⟩] ∧
    ¬Unaffected oneBound
      (Imports.unisockets_connect rejecting 3 0 8 (some [2, 0, 0, 80, 127, 0, 0, 1])
        oneBound).sockets := by
  refine ⟨⟨_, rfl⟩, by decide +kernel, by decide +kernel, by decide +kernel, ?_⟩
  intro h
  have hlength := congrArg List.length h.announced
  exact absurd hlength (by decide +kernel)

end Unisockets.Guest
