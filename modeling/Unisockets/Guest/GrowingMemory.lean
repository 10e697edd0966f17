import Unisockets.Guest.CallerBuffers
import Unisockets.Transition.Since

/-!
# A memory that grows while a call is awaited

`unisockets_recv` and `unisockets_accept` take a view of the memory, await their operation and
write the result through the view.  Meanwhile the guest goes on, and its memory may grow.  Then
`memory.buffer` is another buffer and the old one is detached: a write through a view of it is
lost, and its `slice` throws.

So `unisockets_accept` returns `-1` when the memory has grown, since it reads the length
of the address first, and `unisockets_recv` returns the length of a message that the guest never
gets.  `reaches_iff` says when a call reaches the guest: `unisockets_recv` while the memory has
not grown, and `unisockets_accept` then as far as it goes by the length that the guest has
stored, of which it reads the lowest byte (`addressLengthAt_eq_mod`).
-/

namespace Unisockets.Guest

open JsStd Transition Transport

/-- The `WebAssembly.Memory` of the guest.  `buffer` numbers the buffers it has had. -/
structure LinearMemory where
  buffer : Nat := 0
  bytes : Uint8Array
  deriving DecidableEq, Repr

namespace LinearMemory

/-- `grow(delta)`. -/
def grow (m : LinearMemory) (delta : Nat) : LinearMemory :=
  ⟨m.buffer + 1, m.bytes ++ List.replicate (65536 * delta) 0⟩

/-- Writes through a view, which is given by its buffer. -/
def write (m : LinearMemory) (view : Nat) (update : Uint8Array → Uint8Array) : LinearMemory :=
  if view = m.buffer then { m with bytes := update m.bytes } else m

/-- Bytes stand in the memory, as far as they lie inside of it. -/
def Holds (m : LinearMemory) (pointer : Nat) (bytes : Uint8Array) : Prop :=
  ∀ i < bytes.length, pointer + i < m.bytes.length → m.bytes[pointer + i]? = bytes[i]?

instance (m : LinearMemory) (pointer : Nat) (bytes : Uint8Array) :
    Decidable (m.Holds pointer bytes) :=
  inferInstanceAs (Decidable (∀ i < _, _))

theorem holds_writeBytes (m : LinearMemory) (pointer : Nat) {items bytes : Uint8Array}
    (h : bytes <+: items) :
    ({ m with bytes := writeBytes m.bytes pointer items } : LinearMemory).Holds pointer bytes := by
  intro i hi hinside
  have hlength := h.length_le
  rw [length_writeBytes] at hinside
  rw [getElem?_writeBytes, if_pos (by omega), Nat.add_sub_cancel_left,
    List.getElem?_eq_getElem hi, List.getElem?_eq_getElem (by omega), h.getElem hi]

end LinearMemory

/-- A call that awaits its operation. -/
inductive Awaited where
  | recv (buffer : Buffer)
  | accept (addressPointer addressLengthPointer : Nat)
  deriving DecidableEq, Repr

/-- How the operation ends. -/
inductive Answer where
  | message (msg : Uint8Array)
  | client (clientFd : Nat) (clientAlias : String)
  | rejected
  deriving DecidableEq, Repr

/-- What a call does behind its await: the memory and what it returns. -/
def Awaited.finish (m : LinearMemory) (view : Nat) :
    Awaited → Answer → Option (LinearMemory × Int)
  | .recv buffer, .message msg =>
    some (m.write view fun bytes => (unisockets_recv buffer bytes msg).1, msg.length)
  | .accept addressPointer addressLengthPointer, .client clientFd clientAlias =>
    if view = m.buffer then
      let r := unisockets_accept addressPointer addressLengthPointer m.bytes clientFd clientAlias
      some ({ m with bytes := r.1 }, r.2)
    else some (m, -1)
  | _, .rejected => some (m, -1)
  | _, _ => none

theorem LinearMemory.buffer_write (m : LinearMemory) (view : Nat)
    (update : Uint8Array → Uint8Array) : (m.write view update).buffer = m.buffer := by
  unfold write
  split_ifs <;> rfl

/-- A call that ends does not replace the buffer. -/
theorem Awaited.buffer_finish {m : LinearMemory} {view : Nat} {awaited : Awaited}
    {answer : Answer} {r : LinearMemory × Int} (h : awaited.finish m view answer = some r) :
    r.1.buffer = m.buffer := by
  cases awaited <;> cases answer <;> simp only [finish] at h
  case recv.message =>
    cases h
    exact m.buffer_write view _
  case accept.client =>
    split_ifs at h <;> cases h <;> rfl
  case recv.client => cases h
  case accept.message => cases h
  all_goals
    cases h
    rfl

/-- The length of an address that stands in the four bytes at a pointer. -/
def storedLength (memory : Uint8Array) (addressLengthPointer : Nat) : Nat :=
  ofLittleEndian (slice memory addressLengthPointer (addressLengthPointer + 4))

/-- The bytes that a call has for the guest, and where they belong.  Of a message that is longer
than the buffer these are the bytes that the buffer has room for, and of an address those that
the stored length asks for, eight at most. -/
def Awaited.block (m : LinearMemory) : Awaited → Answer → Option (Nat × Uint8Array)
  | .recv buffer, .message msg => some (buffer.pointer, msg.take buffer.length)
  | .accept addressPointer addressLengthPointer, .client _ clientAlias =>
    some (addressPointer,
      (sockaddr clientAlias).take (storedLength m.bytes addressLengthPointer))
  | _, _ => none

/-- The lowest byte of the stored length asks for as much of an address as the length does, or
else the bytes that it leaves out are in the memory already. -/
def LinearMemory.HoldsRest (m : LinearMemory) (addressPointer addressLengthPointer : Nat)
    (clientAlias : String) : Prop :=
  let addressLength := storedLength m.bytes addressLengthPointer
  addressLength < 256 ∨ 8 ≤ addressLength % 256 ∨
    ∀ i, addressLength % 256 ≤ i → i < 8 → addressPointer + i < m.bytes.length →
      m.bytes[addressPointer + i]? = (sockaddr clientAlias)[i]?

/-- The memory, and the calls that are awaited, each with its view. -/
structure GuestMemory where
  memory : LinearMemory
  calls : Map Nat (Nat × Awaited) := .empty
  nextCall : Nat := 0

inductive GuestStep where
  | grow (delta : Nat)
  /-- The guest writes into its memory. -/
  | run (bytes : Uint8Array)
  /-- A call takes its view, in `accessMemory`, and awaits its operation. -/
  | call (awaited : Awaited)
  /-- The operation of a call ends, and the call returns. -/
  | finish (n : Nat) (answer : Answer)
  deriving DecidableEq, Repr

namespace GuestMemory

/-- What a call does that ends. -/
def finished (p : GuestMemory) (n : Nat) (answer : Answer) : Option (LinearMemory × Int) :=
  (p.calls.get n).bind fun call => call.2.finish p.memory call.1 answer

def next (p : GuestMemory) : GuestStep → Option GuestMemory
  | .grow delta => some { p with memory := p.memory.grow delta }
  | .run bytes =>
    if bytes.length = p.memory.bytes.length then
      some { p with memory := { p.memory with bytes := bytes } }
    else none
  | .call awaited => some { p with
      calls := p.calls.set p.nextCall (p.memory.buffer, awaited)
      nextCall := p.nextCall + 1 }
  | .finish n answer => (p.finished n answer).map fun r =>
      { p with memory := r.1, calls := p.calls.delete n }

def Step (p : GuestMemory) (a : GuestStep) (p' : GuestMemory) : Prop := p.next a = some p'

def Initial (p : GuestMemory) : Prop := p.calls = .empty

/-- If a call returns a number that is not negative, then its bytes are in the memory. -/
def Reaches (p : GuestMemory) (n : Nat) (answer : Answer) : Prop :=
  ∀ view awaited memory value pointer bytes, p.calls.get n = some (view, awaited) →
    awaited.finish p.memory view answer = some (memory, value) → 0 ≤ value →
    awaited.block p.memory answer = some (pointer, bytes) → memory.Holds pointer bytes

end GuestMemory

/-- A run of the guest and its calls. -/
abbrev GuestRun := Run GuestMemory.Initial GuestMemory.Step

namespace GuestRun

/-- The call with a number starts. -/
def Starts (n : Nat) (x : GuestMemory × GuestStep) : Prop :=
  x.1.nextCall = n ∧ ∃ awaited, x.2 = .call awaited

/-- The memory does not grow. -/
def Stays (x : GuestMemory × GuestStep) : Prop := ∀ delta, x.2 ≠ .grow delta

/-! ## Views -/

/-- The view of a call that is awaited is that of the current buffer exactly if the memory has
not grown since the call has started. -/
structure Viewed (steps : List (GuestMemory × GuestStep)) (p : GuestMemory) : Prop where
  numbered : ∀ n call, p.calls.get n = some call → n < p.nextCall
  past : ∀ n call, p.calls.get n = some call → call.1 ≤ p.memory.buffer
  current : ∀ n call, p.calls.get n = some call →
    (call.1 = p.memory.buffer ↔ Since (Starts n) Stays steps)

variable {steps : List (GuestMemory × GuestStep)} {p p' : GuestMemory}

/-- A step that starts no call keeps what it does not grow. -/
theorem since_snoc_of_not_starts {n : Nat} {a : GuestStep} (ha : ∀ awaited, a ≠ .call awaited) :
    Since (Starts n) Stays (steps ++ [(p, a)]) ↔
      Since (Starts n) Stays steps ∧ Stays (p, a) := by
  rw [since_snoc]
  apply or_iff_right
  intro ⟨_, awaited, hcall⟩
  exact ha awaited hcall

theorem stays_of_ne {a : GuestStep} (ha : ∀ delta, a ≠ .grow delta) : Stays (p, a) := ha

theorem Viewed.step (h : Viewed steps p) {a : GuestStep} (hstep : GuestMemory.Step p a p') :
    Viewed (steps ++ [(p, a)]) p' := by
  cases a with
  | grow delta =>
    cases hstep
    constructor
    · exact h.numbered
    · intro n call hcall
      exact Nat.le_succ_of_le (h.past n call hcall)
    · intro n call hcall
      have hpast := h.past n call hcall
      rw [since_snoc_of_not_starts (fun _ => by simp)]
      show call.1 = p.memory.buffer + 1 ↔ _
      constructor
      · intro hnew
        omega
      · intro ⟨_, hstays⟩
        exact absurd rfl (hstays delta)
  | run bytes =>
    simp only [GuestMemory.Step, GuestMemory.next] at hstep
    split_ifs at hstep
    cases hstep
    constructor
    · exact h.numbered
    · exact h.past
    · intro n call hcall
      rw [since_snoc_of_not_starts (fun _ => by simp), and_iff_left (stays_of_ne fun _ => by simp)]
      exact h.current n call hcall
  | call awaited =>
    cases hstep
    have hcalls : ∀ n call, (p.calls.set p.nextCall (p.memory.buffer, awaited)).get n = some call →
        n = p.nextCall ∧ call = (p.memory.buffer, awaited) ∨
          n < p.nextCall ∧ p.calls.get n = some call := by
      intro n call hcall
      rw [Map.get_set] at hcall
      split_ifs at hcall with hn
      · exact .inl ⟨hn, (Option.some.inj hcall).symm⟩
      · exact .inr ⟨h.numbered n call hcall, hcall⟩
    constructor
    · intro n call hcall
      show n < p.nextCall + 1
      rcases hcalls n call hcall with ⟨rfl, -⟩ | ⟨hlt, -⟩ <;> omega
    · intro n call hcall
      rcases hcalls n call hcall with ⟨-, rfl⟩ | ⟨-, hcall⟩
      · exact Nat.le_refl _
      · exact h.past n call hcall
    · intro n call hcall
      rw [since_snoc]
      rcases hcalls n call hcall with ⟨rfl, rfl⟩ | ⟨hlt, hcall⟩
      · exact iff_of_true rfl (.inl ⟨rfl, awaited, rfl⟩)
      · have hother : ¬Starts n (p, .call awaited) := fun hstarts => by
          have hn : p.nextCall = n := hstarts.1
          omega
        rw [or_iff_right hother, and_iff_left (stays_of_ne fun _ => by simp)]
        exact h.current n call hcall
  | finish n answer =>
    obtain ⟨r, hfinished, rfl⟩ := Option.map_eq_some_iff.mp hstep
    obtain ⟨call, -, hfinish⟩ := Option.bind_eq_some_iff.mp hfinished
    have hcalls : ∀ k call, (p.calls.delete n).get k = some call → p.calls.get k = some call := by
      intro k call hcall
      rw [Map.get_delete] at hcall
      split_ifs at hcall
      exact hcall
    have hbuffer := Awaited.buffer_finish hfinish
    constructor
    · exact fun k call hcall => h.numbered k call (hcalls k call hcall)
    · intro k call hcall
      show call.1 ≤ r.1.buffer
      rw [hbuffer]
      exact h.past k call (hcalls k call hcall)
    · intro k call hcall
      show call.1 = r.1.buffer ↔ _
      rw [hbuffer, since_snoc_of_not_starts (fun _ => by simp),
        and_iff_left (stays_of_ne fun _ => by simp)]
      exact h.current k call (hcalls k call hcall)

theorem viewed (hrun : GuestRun steps p) : Viewed steps p := by
  induction hrun with
  | @start p hinit =>
    have hnone : ∀ n call, p.calls.get n ≠ some call := by
      intro n call hcall
      rw [hinit] at hcall
      cases hcall
    constructor <;> exact fun n call hcall => absurd hcall (hnone n call)
  | snoc _ hstep ih => exact ih.step hstep

/-! ## What reaches the guest -/

/-- The bytes of a message are in the memory behind `unisockets_recv` if its view is that of the
current buffer, and otherwise only if they were there before. -/
theorem holds_write_iff (m : LinearMemory) (view : Nat) (buffer : Buffer) (msg : Uint8Array) :
    (m.write view fun bytes => (unisockets_recv buffer bytes msg).1).Holds buffer.pointer
        (msg.take buffer.length) ↔
      view = m.buffer ∨ m.Holds buffer.pointer (msg.take buffer.length) := by
  by_cases hview : view = m.buffer
  · apply iff_of_true
    · rw [LinearMemory.write, if_pos hview]
      simp only [unisockets_recv, copyOut_eq]
      apply m.holds_writeBytes
      exact List.take_prefix_take_left (Nat.le_succ _)
    · exact .inl hview
  · rw [LinearMemory.write, if_neg hview, or_iff_right hview]

theorem addressLengthAt_eq_mod (memory : Uint8Array) (addressLengthPointer : Nat) :
    addressLengthAt memory addressLengthPointer =
      storedLength memory addressLengthPointer % 256 := by
  rw [addressLengthAt, storedLength]
  cases slice memory addressLengthPointer (addressLengthPointer + 4) with
  | nil => rfl
  | cons byte bytes =>
    have hlt : byte.toNat < 256 := byte.toNat_lt
    show byte.toNat = (byte.toNat + 256 * ofLittleEndian bytes) % 256
    omega

/-- The address is in the memory behind the loop of `unisockets_accept` as far as the stored
length asks for it, unless the lowest byte of the length asks for less. -/
theorem holds_writeAddress_iff (m : LinearMemory) (addressPointer addressLengthPointer : Nat)
    (clientAlias : String) :
    (⟨m.buffer, writeAddress addressPointer (addressLengthAt m.bytes addressLengthPointer)
        clientAlias m.bytes⟩ : LinearMemory).Holds addressPointer
          ((sockaddr clientAlias).take (storedLength m.bytes addressLengthPointer)) ↔
      m.HoldsRest addressPointer addressLengthPointer clientAlias := by
  have hmod := addressLengthAt_eq_mod m.bytes addressLengthPointer
  rw [writeAddress_eq]
  simp only [LinearMemory.Holds, LinearMemory.HoldsRest, List.length_take, length_sockaddr,
    length_writeBytes, hmod]
  generalize storedLength m.bytes addressLengthPointer = n
  -- the byte at an index is written, or it is the old one
  have hbyte : ∀ i < 8, i < n → addressPointer + i < m.bytes.length →
      ((writeBytes m.bytes addressPointer ((sockaddr clientAlias).take (n % 256)))[
          addressPointer + i]? = ((sockaddr clientAlias).take n)[i]? ↔
        n % 256 ≤ i → m.bytes[addressPointer + i]? = (sockaddr clientAlias)[i]?) := by
    intro i hi hn hinside
    rw [getElem?_writeBytes, List.length_take, length_sockaddr, Nat.add_sub_cancel_left,
      List.getElem?_take, List.getElem?_take, if_pos hn]
    by_cases hwritten : i < n % 256
    · rw [if_pos (by omega), if_pos hwritten]
      exact iff_of_true rfl fun hle => by omega
    · rw [if_neg (by omega)]
      exact ⟨fun h _ => h, fun h => h (by omega)⟩
  constructor
  · intro h
    by_cases hsmall : n < 256
    · exact .inl hsmall
    · refine .inr (.inr fun i hle hi hinside => ?_)
      exact (hbyte i hi (by omega) hinside).mp (h i (by omega) hinside) hle
  · intro h i hi hinside
    refine (hbyte i (by omega) (by omega) hinside).mpr fun hle => ?_
    rcases h with hsmall | hlow | hthere
    · omega
    · omega
    · exact hthere i hle (by omega) hinside

/-- `unisockets_accept` returns a descriptor only if its view is that of the current buffer. -/
theorem accept_reaches_iff (m : LinearMemory) (view addressPointer addressLengthPointer : Nat)
    (clientFd : Nat) (clientAlias : String) :
    (∀ memory value, (Awaited.accept addressPointer addressLengthPointer).finish m view
        (.client clientFd clientAlias) = some (memory, value) → 0 ≤ value →
      memory.Holds addressPointer
        ((sockaddr clientAlias).take (storedLength m.bytes addressLengthPointer))) ↔
      (view = m.buffer → m.HoldsRest addressPointer addressLengthPointer clientAlias) := by
  by_cases hview : view = m.buffer
  · simp only [Awaited.finish, if_pos hview, unisockets_accept, ← holds_writeAddress_iff]
    constructor
    · exact fun h _ => h _ _ rfl (Int.natCast_nonneg _)
    · intro h memory value hfinish _
      cases hfinish
      exact h hview
  · simp only [Awaited.finish, if_neg hview]
    constructor
    · exact fun _ hcurrent => absurd hcurrent hview
    · intro _ memory value hfinish hvalue
      cases hfinish
      omega

/-- What a call returns for is in the current memory, but for two cases: a message that
`unisockets_recv` gets when the memory has grown since its call, and an address of which
`unisockets_accept`, when the memory has not grown, leaves a part out.  The bytes may have been
there before. -/
theorem reaches_iff (hrun : GuestRun steps p) {before after : List (GuestMemory × GuestStep)}
    {q : GuestMemory} {n : Nat} {answer : Answer}
    (hsteps : steps = before ++ (q, .finish n answer) :: after) :
    q.Reaches n answer ↔
      (∀ view buffer msg, q.calls.get n = some (view, .recv buffer) → answer = .message msg →
        Since (Starts n) Stays before ∨
          q.memory.Holds buffer.pointer (msg.take buffer.length)) ∧
      ∀ view addressPointer addressLengthPointer clientFd clientAlias,
        q.calls.get n = some (view, .accept addressPointer addressLengthPointer) →
        answer = .client clientFd clientAlias → Since (Starts n) Stays before →
          q.memory.HoldsRest addressPointer addressLengthPointer clientAlias := by
  obtain ⟨hbefore, -⟩ := Run.of_append hrun hsteps
  have hviewed := viewed hbefore
  constructor
  · intro hreaches
    constructor
    · intro view buffer msg hcall hanswer
      subst hanswer
      rw [← hviewed.current n _ hcall, ← holds_write_iff]
      exact hreaches view _ _ _ _ _ hcall rfl (Int.natCast_nonneg _) rfl
    · intro view addressPointer addressLengthPointer clientFd clientAlias hcall hanswer hsince
      subst hanswer
      refine (accept_reaches_iff q.memory view _ _ clientFd clientAlias).mp ?_
        ((hviewed.current n _ hcall).mpr hsince)
      exact fun memory value hfinish hvalue =>
        hreaches view _ memory value _ _ hcall hfinish hvalue rfl
  · intro ⟨hmessage, hclient⟩ view awaited memory value pointer bytes hcall hfinish hvalue hblock
    cases awaited with
    | accept addressPointer addressLengthPointer =>
      cases answer with
      | message msg => cases hblock
      | rejected => cases hblock
      | client clientFd clientAlias =>
        cases hblock
        refine (accept_reaches_iff q.memory view _ _ clientFd clientAlias).mpr
          (fun hview => ?_) memory value hfinish hvalue
        exact hclient view _ _ clientFd clientAlias hcall rfl
          ((hviewed.current n _ hcall).mp hview)
    | recv buffer =>
      cases answer with
      | client clientFd clientAlias => cases hblock
      | rejected => cases hblock
      | message msg =>
        cases hblock
        cases hfinish
        rw [holds_write_iff]
        exact (hmessage view buffer msg hcall rfl).imp_left (hviewed.current n _ hcall).mpr

/-- A message of two bytes for a memory that stays. -/
theorem reaches_without_growth : ∃ steps p q, GuestRun steps p ∧
    (q, .finish 0 (.message [1, 2])) ∈ steps ∧ q.Reaches 0 (.message [1, 2]) ∧
    p.memory.bytes = [1, 2, 0, 0] := by
  have hstart : GuestRun [] { memory := { bytes := [0, 0, 0, 0] } } := .start rfl
  have hcall := hstart.snoc (a := GuestStep.call (.recv ⟨0, 4⟩)) rfl
  have hfinish := hcall.snoc (a := GuestStep.finish 0 (.message [1, 2])) rfl
  refine ⟨_, _, _, hfinish, List.mem_append_right _ List.mem_cons_self, ?_, rfl⟩
  refine (reaches_iff hfinish rfl).mpr ⟨?_, ?_⟩
  · intro view buffer msg hget hanswer
    exact .inl ⟨[], _, [], rfl, ⟨rfl, _, rfl⟩, fun y hy => absurd hy List.not_mem_nil⟩
  · intro view addressPointer addressLengthPointer clientFd clientAlias hget hanswer
    cases hanswer

/-- The memory grows by one page while the call is awaited: two bytes are reported, and none of
them is there. -/
theorem grown_memory_loses_message : ∃ steps p q, GuestRun steps p ∧
    (q, .finish 0 (.message [1, 2])) ∈ steps ∧
    (q.finished 0 (.message [1, 2])).map Prod.snd = some 2 ∧
    p.memory.bytes = [0, 0, 0, 0] ++ List.replicate (65536 * 1) 0 ∧
    ¬q.Reaches 0 (.message [1, 2]) := by
  have hstart : GuestRun [] { memory := { bytes := [0, 0, 0, 0] } } := .start rfl
  have hcall := hstart.snoc (a := GuestStep.call (.recv ⟨0, 4⟩)) rfl
  have hgrow := hcall.snoc (a := GuestStep.grow 1) rfl
  have hfinish := hgrow.snoc (a := GuestStep.finish 0 (.message [1, 2])) rfl
  refine ⟨_, _, _, hfinish, List.mem_append_right _ List.mem_cons_self, rfl, rfl, ?_⟩
  intro hreaches
  have hholds := hreaches 0 (.recv ⟨0, 4⟩) _ 2 0 [1, 2] rfl rfl (by omega) rfl 0 (by decide)
  have hinside : 0 < ([0, 0, 0, 0] ++ List.replicate (65536 * 1) (0 : UInt8)).length := by
    rw [List.length_append]
    exact Nat.add_pos_left (by decide) _
  have hbyte := hholds hinside
  cases hbyte

end GuestRun

/-! ## A memory that stays -/

section Import

variable {x : External} {fd : Nat} {s s' : Sockets} {m memory : LinearMemory} {value : Int}

/-- With a view of the current buffer a call does what its import does. -/
theorem import_recv_of_finish {buffer : Buffer} {msg : Uint8Array}
    (hcall : Sockets.call (Sockets.recv x fd) s = (.ok msg, s'))
    (hfinish : (Awaited.recv buffer).finish m m.buffer (.message msg) = some (memory, value)) :
    Imports.unisockets_recv x fd buffer m.bytes s = ⟨value, memory.bytes, s'⟩ := by
  have hok : (Sockets.call (Sockets.recv x fd) s).1 = .ok msg := by rw [hcall]
  rw [Imports.unisockets_recv, Imports.attempt_of_ok rfl hok, hcall]
  simp only [Awaited.finish, LinearMemory.write, if_pos] at hfinish
  cases hfinish
  rfl

theorem import_accept_of_finish {addressPointer addressLengthPointer clientFd : Nat}
    {clientAlias : String}
    (hcall : Sockets.call (Sockets.accept x fd) s = (.ok (clientFd, clientAlias), s'))
    (hfinish : (Awaited.accept addressPointer addressLengthPointer).finish m m.buffer
      (.client clientFd clientAlias) = some (memory, value)) :
    Imports.unisockets_accept x fd addressPointer addressLengthPointer m.bytes s =
      ⟨value, memory.bytes, s'⟩ := by
  have hok : (Sockets.call (Sockets.accept x fd) s).1 = .ok (clientFd, clientAlias) := by
    rw [hcall]
  rw [Imports.unisockets_accept, Imports.attempt_of_ok rfl hok, hcall]
  simp only [Awaited.finish, if_pos] at hfinish
  cases hfinish
  rfl

end Import

end Unisockets.Guest
