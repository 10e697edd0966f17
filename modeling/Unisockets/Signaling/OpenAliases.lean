import Unisockets.Signaling.AliasExclusive
import Unisockets.Transition.Since

/-!
# Open aliases

`handleConnect` accepts a Connect if `accepting` is set in the entry of the
alias it asks for.  In a run whose handlers are finished before the next event,
this is a matter of history: the alias is `Open` if its latest registration was
followed by an `Accepting` of the client that it is registered for, and neither
by a Shutdown of that client nor by its disconnect (`connect_accepted_iff`).

`OpenAliases` is the invariant behind it.  An entry may outlive the disconnect
of its owner, up to the sweep of the `close` listener; `ServerTask.ofClose` tells
the tasks of such a listener from those of a message, which it never meets in a
sequential run.
-/

namespace Unisockets.Signaling

open JsStd Transition

/-! ## What a step does to an alias -/

/-- The step registers an alias for a client: a Bind that is accepted, or a
Connect that is accepted and has got the alias for itself. -/
def Registers (a id : String) : ServerPool × ServerStep → Prop
  | (_, .resume (.bindClaimed data)) => data.alias = a ∧ data.id = id
  | (p, .resume (.connectCreated data clientAlias)) =>
    (p.state.aliases.get data.remoteAlias).any MAlias.accepting = true ∧
      clientAlias = a ∧ data.id = id
  | _ => False

/-- A Shutdown of the alias by the client is accepted. -/
def ShutsDown (a id : String) : ServerPool × ServerStep → Prop
  | (p, .resume (.received (.shutdown data) _)) =>
    ((p.state.aliases.get data.alias).any fun entry => entry.id = data.id) = true ∧
      data.alias = a ∧ data.id = id
  | _ => False

/-- The socket of the client closes. -/
def Disconnects (id : String) : ServerPool × ServerStep → Prop
  | (p, .close client) => id ∈ p.state.closing client
  | _ => False

/-- An `Accepting` of the client for the alias is handled. -/
def Accepts (a id : String) : ServerPool × ServerStep → Prop
  | (_, .resume (.received (.accepting data) _)) => data.alias = a ∧ data.id = id
  | _ => False

/-- The step takes the alias from the client. -/
def Takes (a id : String) (x : ServerPool × ServerStep) : Prop :=
  (∃ id', Registers a id' x) ∨ ShutsDown a id x ∨ Disconnects id x

/-- The latest registration of the alias is for the client, and the client has
neither shut it down nor disconnected since. -/
def Registered (steps : List (ServerPool × ServerStep)) (a id : String) : Prop :=
  Since (Registers a id) (¬Takes a id ·) steps

/-- It has also sent an `Accepting` since. -/
def OpenFor (steps : List (ServerPool × ServerStep)) (a id : String) : Prop :=
  SinceWith (Registers a id) (¬Takes a id ·) (Accepts a id) steps

/-- The alias is open. -/
def Open (steps : List (ServerPool × ServerStep)) (a : String) : Prop :=
  ∃ id, OpenFor steps a id

theorem takes_resume {p : ServerPool} {t : ServerTask} {a id : String}
    (h : Takes a id (p, .resume t)) :
    (∃ data, t = .bindClaimed data ∧ data.alias = a) ∨
    (∃ data, t = .connectCreated data a ∧
      (p.state.aliases.get data.remoteAlias).any MAlias.accepting = true) ∨
    ∃ data client, t = .received (.shutdown data) client ∧ data.alias = a ∧ data.id = id ∧
      ((p.state.aliases.get data.alias).any fun entry => entry.id = data.id) = true := by
  rcases h with ⟨id', h⟩ | h | h
  · cases t with
    | bindClaimed data => exact .inl ⟨data, rfl, h.1⟩
    | connectCreated data clientAlias =>
      obtain ⟨hremote, rfl, -⟩ := h
      exact .inr (.inl ⟨data, rfl, hremote⟩)
    | _ => cases h
  · cases t with
    | received operation client =>
      cases operation with
      | shutdown data => exact .inr (.inr ⟨data, client, rfl, h.2.1, h.2.2, h.1⟩)
      | _ => cases h
    | _ => cases h
  · cases h

theorem accepts_resume {p : ServerPool} {t : ServerTask} {a id : String}
    (h : Accepts a id (p, .resume t)) :
    ∃ data client, t = .received (.accepting data) client ∧ data.alias = a ∧ data.id = id := by
  cases t with
  | received operation client =>
    cases operation with
    | accepting data => exact ⟨data, client, rfl, h⟩
    | _ => cases h
  | _ => cases h

/-! ## The invariant -/

/-- The tasks of a `close` listener. -/
def ServerTask.ofClose : ServerTask → Bool
  | .goodbyeAddress _ | .goodbyeAddressRemoved _ | .releaseAddress .. | .releaseAddressRemoved ..
  | .releasePort .. | .releasePortRemoved .. => true
  | _ => false

/-- What a task leaves behind belongs to the same listener or message. -/
theorem ServerTask.Resumes.ofClose {s s' : Server} {t t' : ServerTask} {next : List ServerTask}
    (hstep : Resumes s t s' next) (ht' : t' ∈ next) : t'.ofClose = t.ofClose := by
  cases hstep with
  | swept id outbox =>
    obtain ⟨a, -, rfl⟩ := List.mem_map.mp ht'
    rfl
  | _ =>
    first
    | exact absurd ht' List.not_mem_nil
    | rw [List.mem_singleton.mp ht']
      rfl

theorem ServerTask.ofClose_of_leavingId {t : ServerTask} {id : String}
    (h : t.leavingId = some id) : t.ofClose = true := by
  cases t with
  | goodbyeAddress | goodbyeAddressRemoved => rfl
  | _ => cases h

/-- The entries of `aliases` are the aliases that are registered, up to those of
a client that is about to be swept. -/
structure OpenAliases (steps : List (ServerPool × ServerStep)) (s : Server)
    (l : List ServerTask) : Prop where
  registered : ∀ {a id}, Registered steps a id → ∃ entry, s.aliases.get a = some entry ∧
    entry.id = id ∧ (entry.accepting = true ↔ OpenFor steps a id)
  entry : ∀ {a entry}, s.aliases.get a = some entry →
    Registered steps a entry.id ∨ entry.id ∈ l.filterMap ServerTask.leavingId
  swept : ∀ {a id}, id ∈ l.filterMap ServerTask.leavingId → ¬Registered steps a id
  family : ∀ t ∈ l, ∀ t' ∈ l, t.ofClose = t'.ofClose

namespace OpenAliases

variable {steps : List (ServerPool × ServerStep)} {s s' : Server} {l l' : List ServerTask}
  {y : ServerPool × ServerStep}

theorem perm (h : OpenAliases steps s l) (hl : l.Perm l') : OpenAliases steps s l' where
  registered := h.registered
  entry hget := (h.entry hget).imp_right (hl.filterMap _).mem_iff.mp
  swept hid := h.swept ((hl.filterMap _).mem_iff.mpr hid)
  family t ht t' ht' := h.family t (hl.mem_iff.mpr ht) t' (hl.mem_iff.mpr ht')

/-- A step that leaves the aliases and their history alone. -/
theorem keep (h : OpenAliases steps s l) (haliases : s'.aliases = s.aliases)
    (htakes : ∀ a id, ¬Takes a id y)
    (haccepts : ∀ a id, Registered steps a id → ¬Accepts a id y)
    (hleaving : ∀ id, id ∈ l'.filterMap ServerTask.leavingId ↔
      id ∈ l.filterMap ServerTask.leavingId)
    (hfamily : ∀ t ∈ l', ∀ t' ∈ l', t.ofClose = t'.ofClose) :
    OpenAliases (steps ++ [y]) s' l' := by
  have hregistered : ∀ a id, Registered (steps ++ [y]) a id ↔ Registered steps a id := by
    intro a id
    refine since_snoc.trans ⟨?_, fun hold => .inr ⟨hold, htakes a id⟩⟩
    rintro (hnew | ⟨hold, -⟩)
    · exact absurd (.inl ⟨id, hnew⟩) (htakes a id)
    · exact hold
  have hopen : ∀ a id, OpenFor (steps ++ [y]) a id ↔ OpenFor steps a id := by
    intro a id
    refine sinceWith_snoc.trans ⟨?_, fun hold => ⟨.inl hold, htakes a id⟩⟩
    rintro ⟨hold | ⟨hold, hnew⟩, -⟩
    · exact hold
    · exact absurd hnew (haccepts a id hold)
  constructor
  · intro a id hold
    obtain ⟨entry, hentry, hid, hiff⟩ := h.registered ((hregistered a id).mp hold)
    exact ⟨entry, haliases ▸ hentry, hid, hiff.trans (hopen a id).symm⟩
  · intro a entry hentry
    rw [haliases] at hentry
    exact (h.entry hentry).imp (hregistered a _).mpr (hleaving _).mpr
  · intro a id hid hold
    exact h.swept ((hleaving id).mp hid) ((hregistered a id).mp hold)
  · exact hfamily

variable {t : ServerTask} {next : List ServerTask}

theorem family_step (h : OpenAliases steps s (t :: l))
    (hnext : ∀ t' ∈ next, t'.ofClose = t.ofClose) :
    ∀ t₁ ∈ next ++ l, ∀ t₂ ∈ next ++ l, t₁.ofClose = t₂.ofClose := by
  have hsame : ∀ t' ∈ next ++ l, t'.ofClose = t.ofClose := by
    intro t' ht'
    rcases List.mem_append.mp ht' with ht' | ht'
    · exact hnext t' ht'
    · exact h.family t' (List.mem_cons_of_mem _ ht') t List.mem_cons_self
  intro t₁ ht₁ t₂ ht₂
  exact (hsame t₁ ht₁).trans (hsame t₂ ht₂).symm

/-- No client is about to be swept while the handler of a message runs. -/
theorem none_leaving (h : ∀ t₁ ∈ l, ∀ t₂ ∈ l, t₁.ofClose = t₂.ofClose) (ht : t ∈ l)
    (hmessage : t.ofClose = false) (id : String) :
    id ∉ l.filterMap ServerTask.leavingId := by
  intro hid
  obtain ⟨t', ht', hleaving⟩ := List.mem_filterMap.mp hid
  have hclose := ServerTask.ofClose_of_leavingId hleaving
  rw [h t' ht' t ht, hmessage] at hclose
  cases hclose

/-- A step that registers an alias. -/
theorem register (h : OpenAliases steps s (t :: l)) {a' id' : String}
    (haliases : s'.aliases = s.aliases.set a' ⟨id', false⟩)
    (hregisters : ∀ a id, Registers a id y ↔ a = a' ∧ id = id')
    (htakes : ∀ a id, Takes a id y → a = a') (haccepts : ∀ a id, ¬Accepts a id y)
    (hmessage : t.ofClose = false) (hnext : ∀ t' ∈ next, t'.ofClose = t.ofClose) :
    OpenAliases (steps ++ [y]) s' (next ++ l) := by
  have hfamily := h.family_step hnext
  have hold : ∀ {a id}, a ≠ a' → (Registered (steps ++ [y]) a id ↔ Registered steps a id) := by
    intro a id ha
    refine since_snoc.trans ⟨?_, fun hold => .inr ⟨hold, fun ht => ha (htakes a id ht)⟩⟩
    rintro (hnew | ⟨hold, -⟩)
    · exact absurd ((hregisters a id).mp hnew).1 ha
    · exact hold
  have hnew : ∀ {id}, Registered (steps ++ [y]) a' id ↔ id = id' := by
    intro id
    refine since_snoc.trans ⟨?_, fun hid => .inl ((hregisters a' id).mpr ⟨rfl, hid⟩)⟩
    rintro (hnew | ⟨-, hkept⟩)
    · exact ((hregisters a' id).mp hnew).2
    · exact absurd (.inl ⟨id', (hregisters a' id').mpr ⟨rfl, rfl⟩⟩) hkept
  have hclosed : ∀ id, ¬OpenFor (steps ++ [y]) a' id := by
    intro id hopen
    exact (sinceWith_snoc.mp hopen).2 (.inl ⟨id', (hregisters a' id').mpr ⟨rfl, rfl⟩⟩)
  have hnone : ∀ id, id ∉ (t :: l).filterMap ServerTask.leavingId :=
    none_leaving h.family List.mem_cons_self hmessage
  constructor
  · intro a id hregistered
    by_cases ha : a = a'
    · subst ha
      refine ⟨⟨id', false⟩, ?_, (hnew.mp hregistered).symm, ?_⟩
      · rw [haliases]
        exact Map.get_set_self _ _ _
      · exact iff_of_false (by simp) (hclosed id)
    · obtain ⟨entry, hentry, hid, hiff⟩ := h.registered ((hold ha).mp hregistered)
      refine ⟨entry, ?_, hid, hiff.trans ?_⟩
      · rw [haliases]
        exact (Map.get_set_of_ne _ _ ha).trans hentry
      · refine Iff.symm (sinceWith_snoc.trans ⟨?_, fun hopen => ⟨.inl hopen, ?_⟩⟩)
        · rintro ⟨hopen | ⟨-, haccept⟩, -⟩
          · exact hopen
          · exact absurd haccept (haccepts a id)
        · exact fun ht => ha (htakes a id ht)
  · intro a entry hentry
    rw [haliases] at hentry
    by_cases ha : a = a'
    · subst ha
      rw [Map.get_set_self] at hentry
      cases hentry
      exact .inl (hnew.mpr rfl)
    · rw [Map.get_set_of_ne _ _ ha] at hentry
      rcases h.entry hentry with hregistered | hleaving
      · exact .inl ((hold ha).mpr hregistered)
      · exact absurd hleaving (hnone _)
  · intro a id hid
    refine absurd hid fun hid => ?_
    rw [List.filterMap_append] at hid
    rcases List.mem_append.mp hid with hid | hid
    · obtain ⟨t', ht', hleaving⟩ := List.mem_filterMap.mp hid
      have hclose := ServerTask.ofClose_of_leavingId hleaving
      rw [hnext t' ht', hmessage] at hclose
      cases hclose
    · refine hnone id ?_
      rw [List.filterMap_cons]
      split
      · exact hid
      · exact List.mem_cons_of_mem _ hid
  · exact hfamily

variable {p : ServerPool}

/-- An `Accepting` of the owner. -/
theorem accepting {data : IAcceptingData} {client : Socket} {entry : MAlias}
    (h : OpenAliases steps p.state (.received (.accepting data) client :: l))
    (hentry : p.state.aliases.get data.alias = some entry) (howner : entry.id = data.id) :
    OpenAliases (steps ++ [(p, .resume (.received (.accepting data) client))])
      { p.state with aliases := p.state.aliases.set data.alias ⟨data.id, true⟩ } l := by
  have htakes : ∀ a id, ¬Takes a id (p, .resume (.received (.accepting data) client)) := by
    intro a id ht
    rcases takes_resume ht with ⟨d, he, -⟩ | ⟨d, he, -⟩ | ⟨d, c, he, -⟩ <;> cases he
  have hregistered : ∀ {a id}, Registered (steps ++
      [(p, .resume (.received (.accepting data) client))]) a id ↔ Registered steps a id := by
    intro a id
    refine since_snoc.trans ⟨?_, fun hold => .inr ⟨hold, htakes a id⟩⟩
    rintro (hnew | ⟨hold, -⟩)
    · cases hnew
    · exact hold
  constructor
  · intro a id hold
    have hold := hregistered.mp hold
    obtain ⟨entry', hentry', hid, hiff⟩ := h.registered hold
    by_cases ha : a = data.alias
    · subst ha
      have he : entry' = entry := Option.some.inj (hentry'.symm.trans hentry)
      rw [he, howner] at hid
      refine ⟨⟨data.id, true⟩, Map.get_set_self _ _ _, hid, iff_of_true rfl ?_⟩
      exact sinceWith_snoc.mpr ⟨.inr ⟨hold, rfl, hid⟩, htakes _ _⟩
    · refine ⟨entry', (Map.get_set_of_ne _ _ ha).trans hentry', hid, hiff.trans ?_⟩
      refine Iff.symm (sinceWith_snoc.trans ⟨?_, fun hopen => ⟨.inl hopen, htakes _ _⟩⟩)
      rintro ⟨hopen | ⟨-, haccept⟩, -⟩
      · exact hopen
      · exact absurd haccept.1.symm ha
  · intro a entry' hget
    have hget : (p.state.aliases.set data.alias ⟨data.id, true⟩).get a = some entry' := hget
    by_cases ha : a = data.alias
    · subst ha
      rw [Map.get_set_self] at hget
      cases hget
      have hold := h.entry hentry
      rw [howner] at hold
      exact hold.imp_left hregistered.mpr
    · rw [Map.get_set_of_ne _ _ ha] at hget
      exact (h.entry hget).imp_left hregistered.mpr
  · exact fun hid hold => h.swept hid (hregistered.mp hold)
  · have hnone : ∀ t' ∈ ([] : List ServerTask), t'.ofClose =
        (ServerTask.received (.accepting data) client).ofClose :=
      fun t' ht' => absurd ht' List.not_mem_nil
    exact h.family_step hnone

/-- A Shutdown of the owner. -/
theorem shutdown {data : IShutdownData} {client : Socket} {entry : MAlias}
    (h : OpenAliases steps p.state (.received (.shutdown data) client :: l))
    (hentry : p.state.aliases.get data.alias = some entry) (howner : entry.id = data.id) :
    OpenAliases (steps ++ [(p, .resume (.received (.shutdown data) client))])
      { p.state with aliases := p.state.aliases.delete data.alias }
      (.shutdownPort data :: l) := by
  have htakes : ∀ a id, Takes a id (p, .resume (.received (.shutdown data) client)) →
      data.alias = a := by
    intro a id ht
    rcases takes_resume ht with ⟨d, he, -⟩ | ⟨d, he, -⟩ | ⟨d, c, he, ha, -⟩ <;> cases he
    exact ha
  have hshut : Takes data.alias data.id (p, .resume (.received (.shutdown data) client)) := by
    refine .inr (.inl ⟨?_, rfl, rfl⟩)
    rw [hentry]
    exact decide_eq_true howner
  have hregistered : ∀ {a id}, Registered (steps ++
      [(p, .resume (.received (.shutdown data) client))]) a id ↔
        Registered steps a id ∧ a ≠ data.alias := by
    intro a id
    refine since_snoc.trans ⟨?_, fun ⟨hold, ha⟩ => .inr ⟨hold, fun ht => ha (htakes a id ht).symm⟩⟩
    rintro (hnew | ⟨hold, hkept⟩)
    · cases hnew
    · refine ⟨hold, ?_⟩
      rintro rfl
      obtain ⟨entry', hentry', hid, -⟩ := h.registered hold
      have he : entry' = entry := Option.some.inj (hentry'.symm.trans hentry)
      rw [he, howner] at hid
      exact hkept (hid ▸ hshut)
  constructor
  · intro a id hold
    obtain ⟨hold, ha⟩ := hregistered.mp hold
    obtain ⟨entry', hentry', hid, hiff⟩ := h.registered hold
    refine ⟨entry', (Map.get_delete_of_ne _ ha).trans hentry', hid, hiff.trans ?_⟩
    refine Iff.symm (sinceWith_snoc.trans
      ⟨?_, fun hopen => ⟨.inl hopen, fun ht => ha (htakes a id ht).symm⟩⟩)
    rintro ⟨hopen | ⟨-, haccept⟩, -⟩
    · exact hopen
    · cases haccept
  · intro a entry' hget
    have hget : (p.state.aliases.delete data.alias).get a = some entry' := hget
    by_cases ha : a = data.alias
    · subst ha
      rw [Map.get_delete_self] at hget
      cases hget
    · rw [Map.get_delete_of_ne _ ha] at hget
      exact (h.entry hget).imp_left fun hold => hregistered.mpr ⟨hold, ha⟩
  · exact fun hid hold => h.swept hid (hregistered.mp hold).1
  · have hnext : ∀ t' ∈ [ServerTask.shutdownPort data], t'.ofClose =
        (ServerTask.received (.shutdown data) client).ofClose := by
      intro t' ht'
      rw [List.mem_singleton.mp ht']
      rfl
    exact h.family_step hnext

/-- The sweep of a `close` listener. -/
theorem sweep {id : String} {outbox : List (Socket × Operation)}
    (h : OpenAliases steps p.state (.goodbyeAddressRemoved id :: l)) :
    OpenAliases (steps ++ [(p, .resume (.goodbyeAddressRemoved id))])
      { p.state.sweep id with outbox := outbox }
      ((p.state.owned id).map (.releaseAddress id) ++ l) := by
  have htakes : ∀ a id', ¬Takes a id' (p, .resume (.goodbyeAddressRemoved id)) := by
    intro a id' ht
    rcases takes_resume ht with ⟨d, he, -⟩ | ⟨d, he, -⟩ | ⟨d, c, he, -⟩ <;> cases he
  have hregistered : ∀ {a id'}, Registered (steps ++
      [(p, .resume (.goodbyeAddressRemoved id))]) a id' ↔ Registered steps a id' := by
    intro a id'
    refine since_snoc.trans ⟨?_, fun hold => .inr ⟨hold, htakes a id'⟩⟩
    rintro (hnew | ⟨hold, -⟩)
    · cases hnew
    · exact hold
  have hleaving : ∀ {id'}, id' ∈ ((p.state.owned id).map (ServerTask.releaseAddress id)
      ++ l).filterMap ServerTask.leavingId ↔ id' ∈ l.filterMap ServerTask.leavingId := by
    intro id'
    have hnone : ((p.state.owned id).map (ServerTask.releaseAddress id)).filterMap
        ServerTask.leavingId = [] := by
      rw [List.filterMap_map, List.filterMap_eq_nil_iff]
      exact fun _ _ => rfl
    rw [List.filterMap_append, hnone, List.nil_append]
  constructor
  · intro a id' hnow
    have hold := hregistered.mp hnow
    obtain ⟨entry, hentry, hid, hiff⟩ := h.registered hold
    have hne : entry.id ≠ id := by
      intro he
      rw [← hid, he] at hold
      exact h.swept List.mem_cons_self hold
    refine ⟨entry, Map.get_filter_eq_some_iff.mpr ⟨hentry, decide_eq_true hne⟩, hid,
      hiff.trans ?_⟩
    refine Iff.symm (sinceWith_snoc.trans ⟨?_, fun hopen => ⟨.inl hopen, htakes _ _⟩⟩)
    rintro ⟨hopen | ⟨-, haccept⟩, -⟩
    · exact hopen
    · cases haccept
  · intro a entry hget
    obtain ⟨hget, hne⟩ := Map.get_filter_eq_some_iff.mp hget
    rcases h.entry hget with hold | hid
    · exact .inl (hregistered.mpr hold)
    · rcases List.mem_cons.mp hid with he | hid
      · exact absurd he (of_decide_eq_true hne)
      · exact .inr (hleaving.mpr hid)
  · intro a id' hid hold
    exact h.swept (List.mem_cons_of_mem _ (hleaving.mp hid)) (hregistered.mp hold)
  · refine h.family_step fun t' ht' => ?_
    obtain ⟨a, -, rfl⟩ := List.mem_map.mp ht'
    rfl

/-- A step of a handler. -/
theorem resume (h : OpenAliases steps p.state (t :: l))
    (hstep : ServerTask.Resumes p.state t s' next) :
    OpenAliases (steps ++ [(p, .resume t)]) s' (next ++ l) := by
  have hfamily := h.family_step fun t' ht' => hstep.ofClose ht'
  have hofClose : ∀ t' ∈ next, t'.ofClose = t.ofClose := fun t' ht' => hstep.ofClose ht'
  cases hstep with
  | accepting data client entry hentry howner => exact h.accepting hentry howner
  | shutdown data client entry hentry howner => exact h.shutdown hentry howner
  | swept id outbox => exact h.sweep
  | bound data outbox =>
    refine h.register rfl (fun a id => ?_) (fun a id ht => ?_) (fun a id ha => ?_) rfl hofClose
    · exact and_congr eq_comm eq_comm
    · rcases takes_resume ht with ⟨d, he, ha⟩ | ⟨d, he, -⟩ | ⟨d, c, he, -⟩ <;> cases he
      exact ha.symm
    · obtain ⟨d, c, he, -⟩ := accepts_resume ha
      cases he
  | accepted data clientAlias client hremote hclient outbox =>
    refine h.register rfl (fun a id => ?_) (fun a id ht => ?_) (fun a id ha => ?_) rfl hofClose
    · exact (and_iff_right hremote).trans (and_congr eq_comm eq_comm)
    · rcases takes_resume ht with ⟨d, he, -⟩ | ⟨d, he, -⟩ | ⟨d, c, he, -⟩ <;> cases he
      rfl
    · obtain ⟨d, c, he, -⟩ := accepts_resume ha
      cases he
  | orphaned data clientAlias hremote hclient =>
    refine h.register rfl (fun a id => ?_) (fun a id ht => ?_) (fun a id ha => ?_) rfl hofClose
    · exact (and_iff_right hremote).trans (and_congr eq_comm eq_comm)
    · rcases takes_resume ht with ⟨d, he, -⟩ | ⟨d, he, -⟩ | ⟨d, c, he, -⟩ <;> cases he
      rfl
    · obtain ⟨d, c, he, -⟩ := accepts_resume ha
      cases he
  | answered operation client outbox hanswered =>
    refine h.keep rfl (fun a id ht => ?_) (fun a id hold ha => ?_) (fun id => Iff.rfl) hfamily
    · rcases takes_resume ht with ⟨d, he, -⟩ | ⟨d, he, -⟩ | ⟨d, c, he, -, -, howner⟩ <;> cases he
      have hforeign : ((p.state.aliases.get d.alias).any fun entry => entry.id = d.id) = false :=
        hanswered
      rw [howner] at hforeign
      cases hforeign
    · obtain ⟨d, c, he, rfl, rfl⟩ := accepts_resume ha
      cases he
      obtain ⟨entry, hentry, hid, -⟩ := h.registered hold
      have hforeign : ((p.state.aliases.get d.alias).any fun entry => entry.id = d.id) = false :=
        hanswered
      rw [hentry] at hforeign
      exact of_decide_eq_false hforeign hid
  | goodbyeAddress id =>
    refine h.keep rfl (fun a id ht => ?_) (fun a id hold ha => ?_) (fun id => Iff.rfl) hfamily
    · rcases takes_resume ht with ⟨d, he, -⟩ | ⟨d, he, -⟩ | ⟨d, c, he, -⟩ <;> cases he
    · obtain ⟨d, c, he, -⟩ := accepts_resume ha
      cases he
  | reject data clientAlias hremote =>
    refine h.keep rfl (fun a id ht => ?_) (fun a id hold ha => ?_) (fun id => Iff.rfl) hfamily
    · rcases takes_resume ht with ⟨d, he, -⟩ | ⟨d, he, haccepting⟩ | ⟨d, c, he, -⟩ <;> cases he
      rw [haccepting] at hremote
      cases hremote
    · obtain ⟨d, c, he, -⟩ := accepts_resume ha
      cases he
  | _ =>
    refine h.keep rfl (fun a id ht => ?_) (fun a id hold ha => ?_) (fun id => Iff.rfl) hfamily
    · rcases takes_resume ht with ⟨d, he, -⟩ | ⟨d, he, -⟩ | ⟨d, c, he, -⟩ <;> cases he
    · obtain ⟨d, c, he, -⟩ := accepts_resume ha
      cases he

/-- A message that finds no handler. -/
theorem message (h : OpenAliases steps p.state []) (operation : Operation) (client : Socket) :
    OpenAliases (steps ++ [(p, .message operation client)]) p.state
      [.received operation client] := by
  have htakes : ∀ a id, ¬Takes a id (p, .message operation client) := by
    rintro a id (⟨id', ht⟩ | ht | ht) <;> cases ht
  refine h.keep rfl htakes (fun a id _ ha => by cases ha) (fun id => Iff.rfl) ?_
  intro t ht t' ht'
  rw [List.mem_singleton.mp ht, List.mem_singleton.mp ht']

/-- The close of a socket that finds no handler. -/
theorem close (h : OpenAliases steps p.state []) (client : Socket) :
    OpenAliases (steps ++ [(p, .close client)]) (p.state.closed client)
      ((p.state.closing client).map .goodbyeAddress) := by
  have hleaving : ∀ id, id ∈ ((p.state.closing client).map ServerTask.goodbyeAddress).filterMap
      ServerTask.leavingId ↔ id ∈ p.state.closing client := by
    intro id
    rw [List.filterMap_map]
    show id ∈ (p.state.closing client).filterMap some ↔ _
    rw [List.filterMap_some]
  have htakes : ∀ {a id}, Takes a id (p, .close client) ↔ id ∈ p.state.closing client := by
    intro a id
    refine ⟨?_, fun hid => .inr (.inr hid)⟩
    rintro (⟨id', ht⟩ | ht | ht)
    · cases ht
    · cases ht
    · exact ht
  have hregistered : ∀ {a id}, Registered (steps ++ [(p, .close client)]) a id ↔
      Registered steps a id ∧ id ∉ p.state.closing client := by
    intro a id
    refine since_snoc.trans
      ⟨?_, fun ⟨hold, hid⟩ => .inr ⟨hold, fun ht => hid (htakes.mp ht)⟩⟩
    rintro (hnew | ⟨hold, hkept⟩)
    · cases hnew
    · exact ⟨hold, fun hid => hkept (htakes.mpr hid)⟩
  constructor
  · intro a id hold
    obtain ⟨hold, hid⟩ := hregistered.mp hold
    obtain ⟨entry, hentry, howner, hiff⟩ := h.registered hold
    refine ⟨entry, hentry, howner, hiff.trans ?_⟩
    refine Iff.symm (sinceWith_snoc.trans
      ⟨?_, fun hopen => ⟨.inl hopen, fun ht => hid (htakes.mp ht)⟩⟩)
    rintro ⟨hopen | ⟨-, haccept⟩, -⟩
    · exact hopen
    · cases haccept
  · intro a entry hget
    rcases h.entry hget with hold | hleft
    · by_cases hid : entry.id ∈ p.state.closing client
      · exact .inr ((hleaving _).mpr hid)
      · exact .inl (hregistered.mpr ⟨hold, hid⟩)
    · cases hleft
  · exact fun hid hold => (hregistered.mp hold).2 ((hleaving _).mp hid)
  · intro t ht t' ht'
    obtain ⟨id, -, rfl⟩ := List.mem_map.mp ht
    obtain ⟨id', -, rfl⟩ := List.mem_map.mp ht'
    rfl

end OpenAliases

theorem ServerRun.openAliases {steps : List (ServerPool × ServerStep)} {p : ServerPool}
    (hrun : ServerRun steps p) (hseq : ServerRun.Sequential steps) :
    OpenAliases steps p.state p.tasks := by
  induction hrun with
  | start hinit =>
    subst hinit
    refine ⟨?_, ?_, ?_, ?_⟩
    · rintro a id ⟨before, x, after, hsteps, -⟩
      cases before <;> cases hsteps
    · intro a entry hget
      cases hget
    · intro a id hid
      cases hid
    · exact fun t ht => absurd ht List.not_mem_nil
  | @snoc steps p p' y hrun hstep ih =>
    have h := ih fun x hx => hseq x (List.mem_append_left _ hx)
    have hlast := hseq (p, y) (List.mem_append_right _ List.mem_cons_self)
    cases hstep with
    | message operation client =>
      have hidle : p.tasks = [] := hlast
      rw [hidle] at h
      show OpenAliases _ p.state (p.tasks ++ [.received operation client])
      rw [hidle]
      exact h.message operation client
    | close client =>
      have hidle : p.tasks = [] := hlast
      rw [hidle] at h
      show OpenAliases _ (p.state.closed client) (p.tasks ++ _)
      rw [hidle]
      exact h.close client
    | @resume i t _ ht hp =>
      obtain ⟨rest, hl, -, rfl⟩ := TaskSystem.resumed ht hp
      exact ((h.perm hl).resume (ServerTask.resumes t p.state)).perm List.perm_append_comm

/-- In a run whose handlers are finished before the next event, `handleConnect`
accepts a Connect, once it has its alias, exactly if the alias it asks for is
open. -/
theorem connect_accepted_iff {steps : List (ServerPool × ServerStep)} {p : ServerPool}
    (hrun : ServerRun steps p) (hseq : ServerRun.Sequential steps) {data : IConnectData}
    {clientAlias : String} (ht : .connectCreated data clientAlias ∈ p.tasks) :
    (p.state.aliases.get data.remoteAlias).any MAlias.accepting = true ↔
      Open steps data.remoteAlias := by
  have h := hrun.openAliases hseq
  constructor
  · intro hremote
    obtain ⟨entry, hentry, haccepting⟩ := (Option.any_eq_true _ _).mp hremote
    rcases h.entry hentry with hregistered | hleaving
    · obtain ⟨entry', hentry', -, hiff⟩ := h.registered hregistered
      cases hentry.symm.trans hentry'
      exact ⟨entry.id, hiff.mp haccepting⟩
    · exact absurd hleaving (OpenAliases.none_leaving h.family ht rfl _)
  · rintro ⟨id, hopen⟩
    obtain ⟨entry, hentry, -, hiff⟩ := h.registered hopen.since
    rw [hentry]
    exact hiff.mpr hopen

/-- A client binds an alias and accepts; another one asks for it. -/
def openEvents : List ServerEvent :=
  ServerRun.handling (.knock { subnet := "127.0.0", parentWs := "" }) 0 5 ++
  ServerRun.handling (.knock { subnet := "127.0.0", parentWs := "" }) 1 5 ++
  ServerRun.handling (.bind { id := "127.0.0.0", «alias» := "127.0.0.0:80" }) 0 3 ++
  ServerRun.handling (.accepting { id := "127.0.0.1", «alias» := "127.0.0.0:80" }) 1 1 ++
  ServerRun.handling (.accepting { id := "127.0.0.0", «alias» := "127.0.0.0:80" }) 0 1 ++
  ServerRun.handling (.connect ⟨"127.0.0.1", "127.0.0.0:80", "u"⟩) 1 3

theorem connect_accepted_iff_run : ∃ steps p, ServerRun steps p ∧
    (p.state.aliases.get "127.0.0.0:80").any MAlias.accepting = true ∧
    Open steps "127.0.0.0:80" := by
  obtain ⟨steps, p, hrun, hseq, ht, hremote⟩ := ServerRun.exists_along
    (P := fun steps p => ServerRun.Sequential steps ∧
      .connectCreated ⟨"127.0.0.1", "127.0.0.0:80", "u"⟩ "127.0.0.1:0" ∈ p.tasks ∧
      (p.state.aliases.get "127.0.0.0:80").any MAlias.accepting = true)
    openEvents (by decide +kernel)
  exact ⟨steps, p, hrun, hremote, (connect_accepted_iff hrun hseq ht).mp hremote⟩

end Unisockets.Signaling
