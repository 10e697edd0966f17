import Unisockets.Transport.Signals

/-!
# Channels between the clients of two pages

In a run in which nobody leaves, every two clients are in a stage of `Stage`, every
connection is that of an offer or an answer of two of them, and every channel that
a page has created is the `first` or the `second` one of two of them.  This is
`Staged`, with the stages as a function of the clients, and every step keeps it.

Once everything on its way has been handled, two clients are `linked`, or one page
has created the channel for them on a connection of other clients (`Shares`), or on
both.  Such a connection carries the channel unless its own offer has met a
connection as well (`Refuses`).
-/

namespace Unisockets.Transport

open JsStd Signaling Transition

/-! ## What may go wrong -/

section History

variable (W : WebRtc) (page : Nat → Nat)

/-- `getOffer` or `handleOffer` finds the connection `f` when `x` is greeted with `y`
or `y` gets the offer of `x`. -/
def SharesAt (z : RunnerPool × RunnerStep) (x y : String) (f : Nat) : Prop :=
  (∃ thread myId, z.2 = .resume (.handleOffer thread y x myId) ∧
    (z.1.state.pages (page thread)).existing y = some f) ∨
  ∃ thread myId offer, z.2 = .resume (.getAnswer thread y x myId offer) ∧
    (z.1.state.pages (page thread)).existing x = some f

/-- The offer of the connection `e` finds a connection at the page of `y`. -/
def RefusesAt (z : RunnerPool × RunnerStep) (x y : String) (e : Nat) : Prop :=
  ∃ thread myId, z.2 = .resume (.getAnswer thread y x myId (W.offer e)) ∧
    (z.1.state.pages (page thread)).existing x ≠ none

/-- For the clients `x` and `y`, the connection `f` has been found. -/
def Shares (steps : List (RunnerPool × RunnerStep)) (x y : String) (f : Nat) : Prop :=
  ∃ z ∈ steps, SharesAt page z x y f

/-- The offer that `x` has made to `y` from the connection `e` has been refused. -/
def Refuses (steps : List (RunnerPool × RunnerStep)) (x y : String) (e : Nat) : Prop :=
  ∃ z ∈ steps, RefusesAt W page z x y e

end History

section Staged

variable {W : WebRtc} {page : Nat → Nat} {steps : List (RunnerPool × RunnerStep)}
  {p p' : RunnerPool}

theorem shares_snoc {z : RunnerPool × RunnerStep} {x y : String} {f : Nat} :
    Shares page (steps ++ [z]) x y f ↔ Shares page steps x y f ∨ SharesAt page z x y f := by
  simp [Shares, or_and_right, exists_or]

theorem refuses_snoc {z : RunnerPool × RunnerStep} {x y : String} {e : Nat} :
    Refuses W page (steps ++ [z]) x y e ↔
      Refuses W page steps x y e ∨ RefusesAt W page z x y e := by
  simp [Refuses, or_and_right, exists_or]

/-- Two clients are in a stage. -/
structure Pair.At (W : WebRtc) (page : Nat → Nat) (steps : List (RunnerPool × RunnerStep))
    (p : RunnerPool) (k : Pair) (s : Stage) : Prop where
  registered : k.Registered p.state
  holds : s.Holds W page k p.state.wiring p.state.ends
  tasks : p.tasks.filter (RunnerTask.isAbout k) = (s.task W k).toList
  noTasks : p.tasks.filter (RunnerTask.isAbout k.swap) = []
  shares (f : Nat) : Shares page steps k.x k.y f ↔ s.shared = some f
  refuses (e : Nat) : Refuses W page steps k.x k.y e ↔ s.refusedOffer = some e

/-- The connection `f` of the page `n` belongs to two clients in a stage. -/
def Stage.Owns (page : Nat → Nat) (k : Pair) (s : Stage) (n f : Nat) : Prop :=
  n = page k.tx ∧ s.offer = some f ∨ n = page k.ty ∧ s.answer = some f

/-- The channel `m` of the page `n`, on the connection `f`, has been created for two
clients in a stage. -/
def Stage.Creates (page : Nat → Nat) (k : Pair) (s : Stage) (n m f : Nat) (label : String) :
    Prop :=
  n = page k.tx ∧ s.first = some (m, f) ∧ label = k.x ∨
    n = page k.ty ∧ s.second = some (m, f) ∧ label = k.y

/-- The clients in their stages. -/
structure Staged (W : WebRtc) (page : Nat → Nat) (g : Pair → Option Stage)
    (steps : List (RunnerPool × RunnerStep)) (p : RunnerPool) : Prop where
  registry : p.state.Registry
  wired : Wired W (fun id => p.state.server.clients.has id = true) p.state.wiring p.state.ends
    p.state.fresh
  about (t : RunnerTask) (ht : t ∈ p.tasks) (hsignals : t.signals = true) :
    ∃ k, k.Registered p.state ∧ t.isAbout k = true
  stage (k : Pair) (s : Stage) (h : g k = some s) : k.At W page steps p s
  all (k : Pair) (h : k.Registered p.state) : (g k).isSome ∨ (g k.swap).isSome
  once (k : Pair) (s : Stage) (h : g k = some s) : g k.swap = none
  owned (n f : Nat) (c : RTCPeerConnection) (h : (p.state.wiring n).signaled f = some c) :
    ∃ k s, g k = some s ∧ s.Owns page k n f
  created (n m : Nat) (v : Nat × String) (h : (p.state.wiring n).drawn m = some v) :
    (∃ m', (m', m) ∈ p.state.ends) ∨
      ∃ k s, g k = some s ∧ s.Creates page k n m v.1 v.2
  past (x y : String) (f : Nat) (h : Shares page steps x y f ∨ Refuses W page steps x y f) :
    ∃ k s, g k = some s ∧ k.x = x ∧ k.y = y

theorem SharesAt.isAbout {a : RunnerStep} {k : Pair} {f : Nat}
    (h : SharesAt page (p, a) k.x k.y f) : ∃ t, a = .resume t ∧ t.isAbout k = true := by
  rcases h with ⟨thread, myId, ha, -⟩ | ⟨thread, myId, offer, ha, -⟩
  · exact ⟨_, ha, by simp [RunnerTask.isAbout]⟩
  · exact ⟨_, ha, by simp [RunnerTask.isAbout]⟩

theorem RefusesAt.isAbout {a : RunnerStep} {k : Pair} {e : Nat}
    (h : RefusesAt W page (p, a) k.x k.y e) : ∃ t, a = .resume t ∧ t.isAbout k = true := by
  obtain ⟨thread, myId, ha, -⟩ := h
  exact ⟨_, ha, by simp [RunnerTask.isAbout]⟩

theorem Stage.names_task {k : Pair} {s : Stage} {t : RunnerTask} {x y : String} {f : Nat}
    (ht : s.task W k = some t)
    (h : SharesAt page (p, .resume t) x y f ∨ RefusesAt W page (p, .resume t) x y f) :
    x = k.x ∧ y = k.y := by
  rcases h with (⟨thread, myId, ha, -⟩ | ⟨thread, myId, offer, ha, -⟩) | ⟨thread, myId, ha, -⟩
  · obtain rfl := RunnerStep.resume.inj ha
    cases s <;> cases ht
    exact ⟨rfl, rfl⟩
  · obtain rfl := RunnerStep.resume.inj ha
    cases s <;> cases ht
    exact ⟨rfl, rfl⟩
  · obtain rfl := RunnerStep.resume.inj ha
    cases s with
    | offered e =>
      obtain ⟨-, hy, hx, -⟩ := RunnerTask.getAnswer.inj (Option.some.inj ht)
      exact ⟨hx.symm, hy.symm⟩
    | _ => cases ht

/-- What a step adds to the past. -/
theorem past_snoc {z : RunnerPool × RunnerStep} {x y : String} {f : Nat}
    (h : Shares page (steps ++ [z]) x y f ∨ Refuses W page (steps ++ [z]) x y f) :
    (Shares page steps x y f ∨ Refuses W page steps x y f) ∨
      (SharesAt page z x y f ∨ RefusesAt W page z x y f) := by
  rw [shares_snoc, refuses_snoc] at h
  tauto

theorem not_past {a : RunnerStep} {x y : String} {f : Nat}
    (ha : ∀ t, a = .resume t → t.signals = false) :
    ¬(SharesAt page (p, a) x y f ∨ RefusesAt W page (p, a) x y f) := by
  rintro ((⟨thread, myId, ha', -⟩ | ⟨thread, myId, offer, ha', -⟩) | ⟨thread, myId, ha', -⟩)
  all_goals cases ha _ ha'

theorem Pair.Registered.of_sameClients {k : Pair} {p p' : Runner} (h : k.Registered p)
    (hclients : p.SameClients p') : k.Registered p' :=
  ⟨hclients.member.mpr h.offerer, hclients.member.mpr h.answerer, h.distinct⟩

/-- A step that is not about two clients leaves them in their stage. -/
theorem Pair.At.keep {k : Pair} {s : Stage} {a : RunnerStep} (h : k.At W page steps p s)
    (hregistered : k.Registered p'.state)
    (hholds : s.Holds W page k p'.state.wiring p'.state.ends)
    (htasks : p'.tasks.filter (RunnerTask.isAbout k) = p.tasks.filter (RunnerTask.isAbout k))
    (hswap : p'.tasks.filter (RunnerTask.isAbout k.swap) =
      p.tasks.filter (RunnerTask.isAbout k.swap))
    (ha : ∀ t, a = .resume t → t.isAbout k = false) :
    k.At W page (steps ++ [(p, a)]) p' s where
  registered := hregistered
  holds := hholds
  tasks := htasks.trans h.tasks
  noTasks := hswap.trans h.noTasks
  shares f := by
    rw [shares_snoc, h.shares, or_iff_left]
    intro hshares
    obtain ⟨t, ht, hab⟩ := hshares.isAbout
    rw [ha t ht] at hab
    cases hab
  refuses e := by
    rw [refuses_snoc, h.refuses, or_iff_left]
    intro hrefuses
    obtain ⟨t, ht, hab⟩ := hrefuses.isAbout
    rw [ha t ht] at hab
    cases hab

/-- A step that is about nobody and changes no wiring. -/
theorem Staged.idle {g : Pair → Option Stage} {a : RunnerStep} (h : Staged W page g steps p)
    (hclients : p.state.SameClients p'.state) (hwiring : p.state.SameWiring p'.state)
    (htasks : p'.tasks.filter RunnerTask.signals = p.tasks.filter RunnerTask.signals)
    (ha : ∀ t, a = .resume t → t.signals = false) : Staged W page g (steps ++ [(p, a)]) p' := by
  have habout : ∀ k, p'.tasks.filter (RunnerTask.isAbout k) =
      p.tasks.filter (RunnerTask.isAbout k) := by
    intro k
    have hfilter : ∀ l : List RunnerTask, l.filter (RunnerTask.isAbout k) =
        (l.filter RunnerTask.signals).filter (RunnerTask.isAbout k) := by
      intro l
      rw [List.filter_filter]
      apply List.filter_congr
      intro t _
      cases hab : t.isAbout k with
      | false => rfl
      | true => rw [RunnerTask.signals_of_isAbout hab, Bool.and_self]
    rw [hfilter, htasks, ← hfilter]
  constructor
  · exact hclients.registry h.registry
  · rw [hclients.clients, hwiring.wiring, hwiring.ends, hwiring.fresh]
    exact h.wired
  · intro t ht hsignals
    have hmem : t ∈ p'.tasks.filter RunnerTask.signals := List.mem_filter.mpr ⟨ht, hsignals⟩
    rw [htasks] at hmem
    obtain ⟨k, hk, hab⟩ := h.about t (List.mem_filter.mp hmem).1 hsignals
    exact ⟨k, hk.of_sameClients hclients, hab⟩
  · intro k s hs
    have hat := h.stage k s hs
    refine hat.keep (hat.registered.of_sameClients hclients) ?_ (habout k) (habout k.swap) ?_
    · rw [hwiring.wiring, hwiring.ends]
      exact hat.holds
    · intro t ht
      cases hab : t.isAbout k with
      | false => rfl
      | true =>
        have hsignals := ha t ht
        rw [RunnerTask.signals_of_isAbout hab] at hsignals
        cases hsignals
  · intro k hk
    refine h.all k ⟨?_, ?_, hk.distinct⟩
    · exact hclients.member.mp hk.offerer
    · exact hclients.member.mp hk.answerer
  · exact h.once
  · rw [hwiring.wiring]
    exact h.owned
  · rw [hwiring.wiring, hwiring.ends]
    exact h.created
  · intro x y f hpast
    exact h.past x y f ((past_snoc hpast).resolve_right (not_past ha))

/-- What is new on the pages belongs to the two clients. -/
structure Stage.Rewires (page : Nat → Nat) (k : Pair) (s s' : Stage) (w w' : Nat → Wiring) :
    Prop where
  owned (n f : Nat) (c : RTCPeerConnection) (h : (w' n).signaled f = some c) :
    (∃ c₀, (w n).signaled f = some c₀) ∨ s'.Owns page k n f
  created (n m : Nat) (v : Nat × String) (h : (w' n).drawn m = some v) :
    (w n).drawn m = some v ∨ s'.Creates page k n m v.1 v.2
  owns (n f : Nat) (h : s.Owns page k n f) : s'.Owns page k n f
  creates (n m f : Nat) (label : String) (h : s.Creates page k n m f label) :
    s'.Creates page k n m f label

/-- A channel that is drawn belongs to the stage that creates it. -/
theorem Stage.Rewires.addChannel {k : Pair} {s s' : Stage} {w : Nat → Wiring} {n m f : Nat}
    {label r l : String} (hcreates : s'.Creates page k n m f label)
    (howns : ∀ n f, s.Owns page k n f → s'.Owns page k n f)
    (hkept : ∀ n m f label, s.Creates page k n m f label → s'.Creates page k n m f label) :
    s.Rewires page k s' w (Function.update w n ((w n).addChannel m f label r l)) where
  owned n' f' c hc := by
    rw [Wiring.signaled_addChannel] at hc
    exact .inl ⟨c, hc⟩
  created n' m' v hv := by
    rw [Wiring.drawn_addChannel] at hv
    split_ifs at hv with he
    · obtain ⟨rfl, rfl⟩ := he
      cases hv
      exact .inr hcreates
    · exact .inl hv
  owns := howns
  creates := hkept

/-- What holds of some stage still does if it holds of the stage that takes its place. -/
theorem exists_update {g : Pair → Option Stage} {k : Pair} {s s' : Stage}
    {P : Pair → Stage → Prop} (hs : g k = some s) (hP : P k s → P k s')
    (h : ∃ k₁ s₁, g k₁ = some s₁ ∧ P k₁ s₁) :
    ∃ k₁ s₁, Function.update g k (some s') k₁ = some s₁ ∧ P k₁ s₁ := by
  obtain ⟨k₁, s₁, hs₁, h₁⟩ := h
  by_cases he : k₁ = k
  · subst he
    obtain rfl := Option.some.inj (hs.symm.trans hs₁)
    exact ⟨k₁, s', Function.update_self .., hP h₁⟩
  · exact ⟨k₁, s₁, (Function.update_of_ne he ..).trans hs₁, h₁⟩

/-- The task of two clients is about nobody else. -/
theorem Stage.not_isAbout_task {k k₁ : Pair} {s : Stage} {t : RunnerTask} {r : Runner}
    (ht : s.task W k = some t) (hk : k.Registered r) (hk₁ : k₁.Registered r) (hne : k₁ ≠ k) :
    t.isAbout k₁ = false := by
  cases hab : t.isAbout k₁ with
  | false => rfl
  | true => exact absurd ((Stage.isAbout_task ht hk hk₁).mp hab) hne

/-- If one task passes a filter, the others do not. -/
theorem filter_rest_of_singleton {q : RunnerTask → Bool} {t : RunnerTask}
    {before after : List RunnerTask} (ht : q t = true)
    (h : (before ++ t :: after).filter q = [t]) :
    before.filter q = [] ∧ after.filter q = [] := by
  rw [List.filter_append, List.filter_cons_of_pos ht] at h
  have hlength := congrArg List.length h
  simp only [List.length_append, List.length_cons, List.length_nil] at hlength
  constructor
  · exact List.length_eq_zero_iff.mp (by omega)
  · exact List.length_eq_zero_iff.mp (by omega)

/-- The task of two clients is resumed, and they are in the next stage. -/
theorem Staged.advance {g : Pair → Option Stage} {k : Pair} {s s' : Stage} {t : RunnerTask}
    {before after : List RunnerTask} (h : Staged W page g steps p) (hs : g k = some s)
    (ht : s.task W k = some t) (htasks : p.tasks = before ++ t :: after)
    (hnew : (t.resume W page p.state).2 = (s'.task W k).toList)
    (hends : (t.resume W page p.state).1.ends = p.state.ends)
    (hwired : Wired W (fun id => p.state.server.clients.has id = true)
      (t.resume W page p.state).1.wiring p.state.ends (t.resume W page p.state).1.fresh)
    (hholds : s'.Holds W page k (t.resume W page p.state).1.wiring p.state.ends)
    (hothers : ∀ k₁ s₁, k₁.At W page steps p s₁ → k₁ ≠ k → k₁ ≠ k.swap →
      s₁.Holds W page k₁ (t.resume W page p.state).1.wiring p.state.ends)
    (hrewires : s.Rewires page k s' p.state.wiring (t.resume W page p.state).1.wiring)
    (hshares : ∀ f, s.shared = some f ∨ SharesAt page (p, .resume t) k.x k.y f ↔
      s'.shared = some f)
    (hrefuses : ∀ e, s.refusedOffer = some e ∨ RefusesAt W page (p, .resume t) k.x k.y e ↔
      s'.refusedOffer = some e) :
    Staged W page (Function.update g k (some s')) (steps ++ [(p, .resume t)])
      ⟨(t.resume W page p.state).1, before ++ after ++ (t.resume W page p.state).2⟩ := by
  have hat := h.stage k s hs
  have hclients := RunnerTask.sameClients_resume W page t p.state
  have htk : t.isAbout k = true := (Stage.isAbout_task ht hat.registered hat.registered).mpr rfl
  have hother : ∀ k₁, k₁.Registered p.state → k₁ ≠ k → t.isAbout k₁ = false :=
    fun k₁ hk₁ hne => Stage.not_isAbout_task ht hat.registered hk₁ hne
  have hfilter : ∀ k₁, k₁.Registered p.state → k₁ ≠ k →
      (before ++ after ++ (t.resume W page p.state).2).filter (RunnerTask.isAbout k₁) =
        p.tasks.filter (RunnerTask.isAbout k₁) := by
    intro k₁ hk₁ hne
    have hnil : (s'.task W k).toList.filter (RunnerTask.isAbout k₁) = [] := by
      rw [List.filter_eq_nil_iff]
      intro u hu
      simp [Stage.not_isAbout_task (Option.mem_toList.mp hu) hat.registered hk₁ hne]
    simp [htasks, hnew, hnil, hother k₁ hk₁ hne]
  have hne : k.swap ≠ k := by
    intro he
    exact hat.registered.distinct (congrArg Pair.x he).symm
  have hswap := h.once k s hs
  constructor
  · exact hclients.registry h.registry
  · rw [hclients.clients, hends]
    exact hwired
  · intro u hu hsignals
    rcases List.mem_append.mp hu with hu | hu
    · obtain ⟨k₁, hk₁, hab⟩ := h.about u (mem_of_rest htasks hu) hsignals
      exact ⟨k₁, hk₁.of_sameClients hclients, hab⟩
    · rw [hnew] at hu
      exact ⟨k, hat.registered.of_sameClients hclients,
        (Stage.isAbout_task (Option.mem_toList.mp hu) hat.registered hat.registered).mpr rfl⟩
  · intro k₁ s₁ hs₁
    rw [Function.update_apply] at hs₁
    split_ifs at hs₁ with he
    · subst he
      cases hs₁
      have hsplit := hat.tasks
      rw [htasks, ht] at hsplit
      obtain ⟨hbefore, hafter⟩ := filter_rest_of_singleton htk hsplit
      constructor
      · exact hat.registered.of_sameClients hclients
      · rw [hends]
        exact hholds
      · rw [List.filter_append, List.filter_append, hbefore, hafter, hnew]
        rw [List.nil_append, List.nil_append, List.filter_eq_self]
        intro u hu
        exact (Stage.isAbout_task (Option.mem_toList.mp hu) hat.registered hat.registered).mpr rfl
      · exact (hfilter k₁.swap hat.registered.swap hne).trans hat.noTasks
      · intro f
        rw [shares_snoc, hat.shares, hshares]
      · intro e
        rw [refuses_snoc, hat.refuses, hrefuses]
    · have hat₁ := h.stage k₁ s₁ hs₁
      have hne₁ : k₁ ≠ k.swap := by
        rintro rfl
        rw [hswap] at hs₁
        cases hs₁
      refine hat₁.keep (hat₁.registered.of_sameClients hclients) ?_ ?_ ?_ ?_
      · rw [hends]
        exact hothers k₁ s₁ hat₁ he hne₁
      · exact hfilter k₁ hat₁.registered he
      · refine hfilter k₁.swap hat₁.registered.swap ?_
        exact fun hk₁ => hne₁ (congrArg Pair.swap hk₁)
      · rintro u hu
        cases hu
        exact hother k₁ hat₁.registered he
  · intro k₁ hk₁
    have hk₁' : k₁.Registered p.state :=
      ⟨hclients.member.mp hk₁.offerer, hclients.member.mp hk₁.answerer, hk₁.distinct⟩
    rcases h.all k₁ hk₁' with hsome | hsome
    · left
      rw [Function.update_apply]
      split_ifs
      · rfl
      · exact hsome
    · right
      rw [Function.update_apply]
      split_ifs
      · rfl
      · exact hsome
  · intro k₁ s₁ hs₁
    by_cases he : k₁ = k
    · rw [he, Function.update_of_ne hne, hswap]
    · rw [Function.update_of_ne he] at hs₁
      have hne₁ : k₁.swap ≠ k := by
        rintro rfl
        rw [show k₁.swap.swap = k₁ from rfl, hs₁] at hswap
        cases hswap
      rw [Function.update_of_ne hne₁]
      exact h.once k₁ s₁ hs₁
  · intro n f c hc
    rcases hrewires.owned n f c hc with ⟨c₀, hc₀⟩ | hown
    · exact exists_update hs (hrewires.owns n f) (h.owned n f c₀ hc₀)
    · exact ⟨k, s', Function.update_self .., hown⟩
  · intro n m v hv
    rw [hends]
    rcases hrewires.created n m v hv with hv | hcreates
    · exact (h.created n m v hv).imp_right (exists_update hs (hrewires.creates n m v.1 v.2))
    · exact .inr ⟨k, s', Function.update_self .., hcreates⟩
  · intro x y f hpast
    rcases past_snoc hpast with hpast | hnow
    · exact exists_update hs id (h.past x y f hpast)
    · obtain ⟨rfl, rfl⟩ := Stage.names_task ht hnow
      exact ⟨k, s', Function.update_self .., rfl, rfl⟩

/-- A task that is about somebody is that of a stage. -/
theorem Staged.stage_of_task {g : Pair → Option Stage} {t : RunnerTask}
    (h : Staged W page g steps p) (hmem : t ∈ p.tasks) (hsignals : t.signals = true) :
    ∃ k s, g k = some s ∧ s.task W k = some t := by
  obtain ⟨k, hk, hab⟩ := h.about t hmem hsignals
  obtain ⟨s, hs⟩ : ∃ s, g k = some s := by
    rcases h.all k hk with hsome | hsome
    · exact Option.isSome_iff_exists.mp hsome
    · obtain ⟨s, hs⟩ := Option.isSome_iff_exists.mp hsome
      have hnone : p.tasks.filter (RunnerTask.isAbout k) = [] := (h.stage _ _ hs).noTasks
      rw [List.filter_eq_nil_iff] at hnone
      exact absurd hab (hnone t hmem)
  refine ⟨k, s, hs, ?_⟩
  have hfilter : t ∈ p.tasks.filter (RunnerTask.isAbout k) := List.mem_filter.mpr ⟨hmem, hab⟩
  rw [(h.stage k s hs).tasks] at hfilter
  exact Option.mem_toList.mp hfilter

/-! ## The step of two clients -/

@[simp]
theorem sharesAt_handleOffer {thread : Nat} {x y myId : String} {f : Nat} :
    SharesAt page (p, .resume (.handleOffer thread y x myId)) x y f ↔
      (p.state.pages (page thread)).existing y = some f := by
  simp [SharesAt]

@[simp]
theorem sharesAt_getAnswer {thread : Nat} {x y myId offer : String} {f : Nat} :
    SharesAt page (p, .resume (.getAnswer thread y x myId offer)) x y f ↔
      (p.state.pages (page thread)).existing x = some f := by
  simp [SharesAt]

@[simp]
theorem refusesAt_getAnswer {thread : Nat} {x y myId : String} {e e' : Nat} :
    RefusesAt W page (p, .resume (.getAnswer thread y x myId (W.offer e))) x y e' ↔
      e = e' ∧ (p.state.pages (page thread)).existing x ≠ none := by
  simp [RefusesAt, W.offer_injective.eq_iff]

/-- The numbers of the next connection and the next channel have not been used. -/
structure Runner.Fresh (p : Runner) : Prop where
  signaled (n : Nat) : (p.wiring n).signaled p.fresh = none
  drawn (n : Nat) : (p.wiring n).drawn p.fresh = none
  notFirst (m : Nat) : (p.fresh, m) ∉ p.ends
  notSecond (m : Nat) : (m, p.fresh) ∉ p.ends

theorem Staged.fresh {g : Pair → Option Stage} (h : Staged W page g steps p)
    (hnumbered : p.state.Numbered) : p.state.Fresh := by
  have hdrawn : ∀ n, (p.state.wiring n).drawn p.state.fresh = none := by
    intro n
    cases hv : (p.state.wiring n).drawn p.state.fresh with
    | none => rfl
    | some v => exact absurd (h.wired.drawn_lt n _ v hv) (Nat.lt_irrefl _)
  refine ⟨?_, hdrawn, ?_, ?_⟩
  · intro n
    rw [Runner.signaled_wiring]
    cases hc : (p.state.pages n).peerConnections.get p.state.fresh with
    | none => rfl
    | some c => exact absurd (hnumbered.connection_lt n _ c hc) (Nat.lt_irrefl _)
  · intro m hm
    obtain ⟨n, -, v, -, hv, -⟩ := h.wired.met _ _ hm
    rw [hdrawn] at hv
    cases hv
  · intro m hm
    obtain ⟨-, n', -, v', -, hv', -⟩ := h.wired.met _ _ hm
    rw [hdrawn] at hv'
    cases hv'

theorem Stage.forwarded_eq {s s' : Stage} (hs : s.forwarded = some s') :
    s'.offer = s.offer ∧ s'.answer = s.answer ∧ s'.first = s.first ∧ s'.second = s.second ∧
      s'.shared = s.shared ∧ s'.refusedOffer = s.refusedOffer := by
  cases s <;> cases hs <;> exact ⟨rfl, rfl, rfl, rfl, rfl, rfl⟩

/-- A task that is passed on. -/
theorem Staged.forward {g : Pair → Option Stage} {k : Pair} {s s' : Stage} {t : RunnerTask}
    {before after : List RunnerTask} (h : Staged W page g steps p) (hs : g k = some s)
    (hforwarded : s.forwarded = some s') (ht : s.task W k = some t)
    (htasks : p.tasks = before ++ t :: after) :
    Staged W page (Function.update g k (some s')) (steps ++ [(p, .resume t)])
      ⟨(t.resume W page p.state).1, before ++ after ++ (t.resume W page p.state).2⟩ := by
  have hat := h.stage k s hs
  have hwiring : p.state.SameWiring (t.resume W page p.state).1 :=
    Stage.sameWiring_resume hforwarded ht
  obtain ⟨hoffer, hanswer, hfirst, hsecond, hshared, hrefused⟩ := Stage.forwarded_eq hforwarded
  apply h.advance hs ht htasks
  · exact Stage.resume_forwarded hforwarded ht hat.registered hat.holds
  · exact hwiring.ends
  · rw [hwiring.wiring, hwiring.fresh]
    exact h.wired
  · rw [hwiring.wiring]
    exact hat.holds.forwarded hforwarded
  · intro k₁ s₁ hat₁ _ _
    rw [hwiring.wiring]
    exact hat₁.holds
  · rw [hwiring.wiring]
    constructor
    · exact fun n f c hc => .inl ⟨c, hc⟩
    · exact fun n m v hv => .inl hv
    · intro n f howns
      rw [Stage.Owns, hoffer, hanswer]
      exact howns
    · intro n m f label hcreates
      rw [Stage.Creates, hfirst, hsecond]
      exact hcreates
  · intro f
    rw [hshared, or_iff_left]
    cases s <;> cases hforwarded <;> cases ht <;> simp [SharesAt]
  · intro e
    rw [hrefused, or_iff_left]
    cases s <;> cases hforwarded <;> cases ht <;> simp [RefusesAt]

/-- `x` is greeted with `y`, to whom its page has no connection. -/
theorem Staged.makeOffer {g : Pair → Option Stage} {k : Pair} {before after : List RunnerTask}
    (h : Staged W page g steps p) (hs : g k = some .greeted)
    (htasks : p.tasks = before ++ .handleOffer k.tx k.y k.x k.x :: after)
    (hfresh : p.state.Fresh) (hopen : (p.state.pages (page k.tx)).Open)
    (hnone : (p.state.wiring (page k.tx)).connection k.y = none) :
    Staged W page (Function.update g k (some (.offerCreating p.state.fresh)))
      (steps ++ [(p, .resume (.handleOffer k.tx k.y k.x k.x))])
      ⟨((RunnerTask.handleOffer k.tx k.y k.x k.x).resume W page p.state).1, before ++ after ++
        ((RunnerTask.handleOffer k.tx k.y k.x k.x).resume W page p.state).2⟩ := by
  have hat := h.stage k _ hs
  have hexisting : (p.state.pages (page k.tx)).existing k.y = none := by
    rw [hopen.existing_eq]
    exact hnone
  have hclient : p.state.server.clients.has k.x = true ∧ p.state.server.clients.has k.y = true :=
    ⟨Map.has_of_get hat.registered.offerer.clients, Map.has_of_get hat.registered.answerer.clients⟩
  obtain ⟨c, hc⟩ : ∃ c : RTCPeerConnection, c = {
      remoteId := k.y
      onicecandidate := ⟨k.tx, k.x, k.y⟩
      ondatachannel := some k.x } := ⟨_, rfl⟩
  have hremote : c.remoteId = k.y := by rw [hc]
  have hwiring : ((RunnerTask.handleOffer k.tx k.y k.x k.x).resume W page p.state).1.wiring =
      Function.update p.state.wiring (page k.tx)
        (((p.state.wiring (page k.tx)).addConnection p.state.fresh c).addChannel p.state.fresh
          p.state.fresh k.x k.y k.x) := by
    have hset : ((RunnerTask.handleOffer k.tx k.y k.x k.x).resume W page p.state).1.wiring =
        (p.state.setPage (page k.tx) ((p.state.pages (page k.tx)).getOffer k.y k.x
          ⟨k.tx, k.x, k.y⟩ p.state.fresh).1).wiring := rfl
    rw [hset, Runner.wiring_setPage, Transporter.getOffer, hexisting, hc]
    rw [Transporter.wiring_createDataChannel, Transporter.wiring_addConnection]
    rfl
  apply h.advance hs rfl htasks
  · rw [RunnerTask.resume, Transporter.getOffer, hexisting]
    rfl
  · rfl
  · rw [hwiring]
    exact h.wired.addOffer (hfresh.signaled _) hclient.2 hclient.1
  · rw [hwiring, hc]
    exact hat.holds.makeOffer hat.registered.distinct hfresh.notSecond hfresh.notFirst
  · intro k₁ s₁ hat₁ hne hne'
    rw [hwiring]
    obtain ⟨hsame, hswap⟩ := hat.registered.other_ids hat₁.registered hne hne'
    refine hat₁.holds.addOffer ?_ (hfresh.signaled _) (hfresh.drawn _) ?_ ?_
    · rwa [hremote]
    · exact fun h => hsame ⟨h.2.2, h.2.1⟩
    · exact fun h => hswap ⟨h.2.2, h.2.1⟩
  · rw [hwiring]
    constructor
    · intro n f c' hc'
      rw [Wiring.addConnection_addChannel, Wiring.signaled_addChannel,
        Wiring.signaled_addConnection] at hc'
      split_ifs at hc' with he
      · exact .inr (.inl ⟨he.1, congrArg some he.2.symm⟩)
      · exact .inl ⟨c', hc'⟩
    · intro n m v hv
      rw [Wiring.addConnection_addChannel, Wiring.drawn_addChannel,
        Wiring.drawn_addConnection] at hv
      split_ifs at hv with he
      · cases hv
        exact .inr (.inl ⟨he.1, by rw [he.2]; rfl, rfl⟩)
      · exact .inl hv
    · rintro n f (⟨-, hown⟩ | ⟨-, hown⟩) <;> cases hown
    · rintro n m f label (⟨-, hown, -⟩ | ⟨-, hown, -⟩) <;> cases hown
  · intro f
    simp [hexisting, Stage.shared]
  · intro e
    simp [RefusesAt, Stage.refusedOffer]

/-- `x` is greeted with `y`, to whom its page has a connection. -/
theorem Staged.borrow {g : Pair → Option Stage} {k : Pair} {before after : List RunnerTask}
    {f : Nat} (h : Staged W page g steps p) (hs : g k = some .greeted)
    (htasks : p.tasks = before ++ .handleOffer k.tx k.y k.x k.x :: after)
    (hfresh : p.state.Fresh) (hopen : (p.state.pages (page k.tx)).Open)
    (hf : (p.state.wiring (page k.tx)).connection k.y = some f) :
    Staged W page (Function.update g k (some (.borrowed f p.state.fresh)))
      (steps ++ [(p, .resume (.handleOffer k.tx k.y k.x k.x))])
      ⟨((RunnerTask.handleOffer k.tx k.y k.x k.x).resume W page p.state).1, before ++ after ++
        ((RunnerTask.handleOffer k.tx k.y k.x k.x).resume W page p.state).2⟩ := by
  have hat := h.stage k _ hs
  have hexisting : (p.state.pages (page k.tx)).existing k.y = some f := by
    rw [hopen.existing_eq]
    exact hf
  have hnone : (p.state.pages (page k.tx)).channel k.y k.x = none := by
    rcases hat.holds.offererChannel with ⟨-, hnone⟩ | ⟨m, f, m', hm, -⟩
    · exact hnone
    · cases hm
  have hwiring : ((RunnerTask.handleOffer k.tx k.y k.x k.x).resume W page p.state).1.wiring =
      Function.update p.state.wiring (page k.tx)
        ((p.state.wiring (page k.tx)).addChannel p.state.fresh f k.x k.y k.x) := by
    have hset : ((RunnerTask.handleOffer k.tx k.y k.x k.x).resume W page p.state).1.wiring =
        (p.state.setPage (page k.tx) ((p.state.pages (page k.tx)).getOffer k.y k.x
          ⟨k.tx, k.x, k.y⟩ p.state.fresh).1).wiring := rfl
    rw [hset, Runner.wiring_setPage, Transporter.getOffer, hexisting]
    rw [Transporter.wiring_reuse _ _ _ _ hnone]
    rfl
  apply h.advance hs rfl htasks
  · rw [RunnerTask.resume, Transporter.getOffer, hexisting]
    rfl
  · rfl
  · rw [hwiring]
    exact h.wired.addChannel (Map.has_of_get hat.registered.answerer.clients)
      (Map.has_of_get hat.registered.offerer.clients)
  · rw [hwiring]
    exact hat.holds.borrow hat.registered.distinct hf hfresh.notSecond hfresh.notFirst
  · intro k₁ s₁ hat₁ hne hne'
    rw [hwiring]
    obtain ⟨hsame, hswap⟩ := hat.registered.other_ids hat₁.registered hne hne'
    refine hat₁.holds.addChannel (hfresh.drawn _) ?_ ?_
    · exact fun h => hsame ⟨h.2.2, h.2.1⟩
    · exact fun h => hswap ⟨h.2.2, h.2.1⟩
  · rw [hwiring]
    refine .addChannel (.inl ⟨rfl, rfl, rfl⟩) ?_ ?_
    · rintro n f (⟨-, hown⟩ | ⟨-, hown⟩) <;> cases hown
    · rintro n m f label (⟨-, hown, -⟩ | ⟨-, hown, -⟩) <;> cases hown
  · intro f'
    simp [hexisting, Stage.shared]
  · intro e
    simp [RefusesAt, Stage.refusedOffer]

/-- The offer reaches `y`, whose page has no connection to `x`. -/
theorem Staged.takeOffer {g : Pair → Option Stage} {k : Pair} {before after : List RunnerTask}
    {e : Nat} (h : Staged W page g steps p) (hs : g k = some (.offered e))
    (htasks : p.tasks = before ++ .getAnswer k.ty k.y k.x k.y (W.offer e) :: after)
    (hfresh : p.state.Fresh) (hopen : (p.state.pages (page k.ty)).Open)
    (hnone : (p.state.wiring (page k.ty)).connection k.x = none) :
    Staged W page (Function.update g k (some (.offerDescribing e p.state.fresh)))
      (steps ++ [(p, .resume (.getAnswer k.ty k.y k.x k.y (W.offer e)))])
      ⟨((RunnerTask.getAnswer k.ty k.y k.x k.y (W.offer e)).resume W page p.state).1,
        before ++ after ++
          ((RunnerTask.getAnswer k.ty k.y k.x k.y (W.offer e)).resume W page p.state).2⟩ := by
  have hat := h.stage k _ hs
  have hexisting : (p.state.pages (page k.ty)).existing k.x = none := by
    rw [hopen.existing_eq]
    exact hnone
  have hwiring :
      ((RunnerTask.getAnswer k.ty k.y k.x k.y (W.offer e)).resume W page p.state).1.wiring =
        Function.update p.state.wiring (page k.ty)
          ((p.state.wiring (page k.ty)).addConnection p.state.fresh {
            remoteId := k.x
            onicecandidate := ⟨k.ty, k.x, k.y⟩ }) := by
    have hset :
        ((RunnerTask.getAnswer k.ty k.y k.x k.y (W.offer e)).resume W page p.state).1.wiring =
          (p.state.setPage (page k.ty) ((p.state.pages (page k.ty)).handleOffer k.x k.y
            ⟨k.ty, k.x, k.y⟩ p.state.fresh).1).wiring := rfl
    rw [hset, Runner.wiring_setPage, Transporter.handleOffer, hexisting]
    rw [Transporter.wiring_addConnection]
    rfl
  apply h.advance hs rfl htasks
  · rw [RunnerTask.resume, Transporter.handleOffer, hexisting]
    rfl
  · rfl
  · rw [hwiring]
    have hwired := h.wired.addConnection (n := page k.ty) (c := {
      remoteId := k.x
      onicecandidate := ⟨k.ty, k.x, k.y⟩ }) (hfresh.signaled _)
    exact hwired.mono (fun _ hid => hid) (Nat.le_succ _)
  · rw [hwiring]
    exact hat.holds.takeOffer hnone (hfresh.signaled _)
  · intro k₁ s₁ hat₁ _ _
    rw [hwiring]
    exact hat₁.holds.addConnection hnone (hfresh.signaled _)
  · rw [hwiring]
    constructor
    · intro n f c hc
      rw [Wiring.signaled_addConnection] at hc
      split_ifs at hc with he
      · exact .inr (.inr ⟨he.1, congrArg some he.2.symm⟩)
      · exact .inl ⟨c, hc⟩
    · intro n m v hv
      rw [Wiring.drawn_addConnection] at hv
      exact .inl hv
    · rintro n f (hown | ⟨-, hown⟩)
      · exact .inl hown
      · cases hown
    · exact fun n m f label hcreates => hcreates
  · intro f
    simp [hexisting, Stage.shared]
  · intro e'
    simp [hexisting, Stage.refusedOffer]

/-- The channel of an offer that has got no answer has not shown up. -/
theorem Staged.not_met {g : Pair → Option Stage} {k : Pair} {s : Stage} {e : Nat}
    (h : Staged W page g steps p) (hat : k.At W page steps p s) (he : s.offer = some e)
    (hnone : s.answerDescription W = none) (m' : Nat) : (e, m') ∉ p.state.ends := by
  intro hmet
  obtain ⟨n, n', v, v', hv, -, hlinked⟩ := h.wired.met _ _ hmet
  have hdrawn := (hat.holds.first e e (Stage.first_of_offer he)).1
  obtain rfl := h.wired.one_page _ _ _ _ _ hv hdrawn
  obtain rfl := Option.some.inj (hv.symm.trans hdrawn)
  obtain ⟨c, hc, hsome⟩ := hlinked.described
  have heq := Option.some.inj (hc.symm.trans (hat.holds.offer e he))
  rw [heq, hnone] at hsome
  exact hsome rfl

/-- The offer reaches `y`, whose page has a connection to `x`. -/
theorem Staged.refuse {g : Pair → Option Stage} {k : Pair} {before after : List RunnerTask}
    {e f : Nat} (h : Staged W page g steps p) (hs : g k = some (.offered e))
    (htasks : p.tasks = before ++ .getAnswer k.ty k.y k.x k.y (W.offer e) :: after)
    (hfresh : p.state.Fresh) (hopen : (p.state.pages (page k.ty)).Open)
    (hf : (p.state.wiring (page k.ty)).connection k.x = some f) :
    Staged W page (Function.update g k (some (.refused e f p.state.fresh)))
      (steps ++ [(p, .resume (.getAnswer k.ty k.y k.x k.y (W.offer e)))])
      ⟨((RunnerTask.getAnswer k.ty k.y k.x k.y (W.offer e)).resume W page p.state).1,
        before ++ after ++
          ((RunnerTask.getAnswer k.ty k.y k.x k.y (W.offer e)).resume W page p.state).2⟩ := by
  have hat := h.stage k _ hs
  have hexisting : (p.state.pages (page k.ty)).existing k.x = some f := by
    rw [hopen.existing_eq]
    exact hf
  have hown : ∀ m', (e, m') ∉ p.state.ends := h.not_met hat rfl rfl
  have hnone : (p.state.pages (page k.ty)).channel k.x k.y = none := by
    rcases hat.holds.answererChannel with ⟨-, hnone⟩ | ⟨m, f, m', hm, hmet, -⟩
    · exact hnone
    · cases hm
      exact absurd hmet (hown m')
  have hwiring :
      ((RunnerTask.getAnswer k.ty k.y k.x k.y (W.offer e)).resume W page p.state).1.wiring =
        Function.update p.state.wiring (page k.ty)
          ((p.state.wiring (page k.ty)).addChannel p.state.fresh f k.y k.x k.y) := by
    have hset :
        ((RunnerTask.getAnswer k.ty k.y k.x k.y (W.offer e)).resume W page p.state).1.wiring =
          (p.state.setPage (page k.ty) ((p.state.pages (page k.ty)).handleOffer k.x k.y
            ⟨k.ty, k.x, k.y⟩ p.state.fresh).1).wiring := rfl
    rw [hset, Runner.wiring_setPage, Transporter.handleOffer, hexisting]
    rw [Transporter.wiring_reuse _ _ _ _ hnone]
    rfl
  apply h.advance hs rfl htasks
  · rw [RunnerTask.resume, Transporter.handleOffer, hexisting]
    rfl
  · rfl
  · rw [hwiring]
    exact h.wired.addChannel (Map.has_of_get hat.registered.offerer.clients)
      (Map.has_of_get hat.registered.answerer.clients)
  · rw [hwiring]
    exact hat.holds.refuse hat.registered.distinct hf (hfresh.drawn _) hfresh.notSecond
      hfresh.notFirst hown
  · intro k₁ s₁ hat₁ hne hne'
    rw [hwiring]
    obtain ⟨hsame, hswap⟩ := hat.registered.other_ids hat₁.registered hne hne'
    refine hat₁.holds.addChannel (hfresh.drawn _) ?_ ?_
    · exact fun h => hswap ⟨h.2.1, h.2.2⟩
    · exact fun h => hsame ⟨h.2.1, h.2.2⟩
  · rw [hwiring]
    refine .addChannel (.inr ⟨rfl, rfl, rfl⟩) ?_ ?_
    · rintro n a (hown | ⟨-, hown⟩)
      · exact .inl hown
      · cases hown
    · rintro n m a label (hcreates | ⟨-, hcreates, -⟩)
      · exact .inl hcreates
      · cases hcreates
  · intro f'
    simp [hexisting, Stage.shared]
  · intro e'
    simp [hexisting, Stage.refusedOffer]

/-- A connection of two clients gets a description or its `ondatachannel`. -/
theorem Staged.updateConnection {g : Pair → Option Stage} {k : Pair} {s s' : Stage}
    {t : RunnerTask} {before after : List RunnerTask} {n e : Nat}
    {f : RTCPeerConnection → RTCPeerConnection} (h : Staged W page g steps p)
    (hs : g k = some s) (ht : s.task W k = some t) (htasks : p.tasks = before ++ t :: after)
    (hnew : (t.resume W page p.state).2 = (s'.task W k).toList)
    (hends : (t.resume W page p.state).1.ends = p.state.ends)
    (hfresh : (t.resume W page p.state).1.fresh = p.state.fresh)
    (hwiring : (t.resume W page p.state).1.wiring =
      Function.update p.state.wiring n ((p.state.wiring n).update e f))
    (howns : s.Owns page k n e) (hremote : ∀ c, (f c).remoteId = c.remoteId)
    (hdescription : ∀ c, (p.state.wiring n).signaled e = some c → c.remoteDescription ≠ none →
      (f c).remoteDescription = c.remoteDescription)
    (hholds : s'.Holds W page k
      (Function.update p.state.wiring n ((p.state.wiring n).update e f)) p.state.ends)
    (hoffer : s'.offer = s.offer) (hanswer : s'.answer = s.answer) (hfirst : s'.first = s.first)
    (hsecond : s'.second = s.second) (hshared : s'.shared = s.shared)
    (hrefused : s'.refusedOffer = s.refusedOffer)
    (hshares : ∀ f, ¬SharesAt page (p, .resume t) k.x k.y f)
    (hrefuses : ∀ e, ¬RefusesAt W page (p, .resume t) k.x k.y e) :
    Staged W page (Function.update g k (some s')) (steps ++ [(p, .resume t)])
      ⟨(t.resume W page p.state).1, before ++ after ++ (t.resume W page p.state).2⟩ := by
  have hat := h.stage k s hs
  -- whose connection it is can be read off its candidate handler
  have hhandler : ∀ (k₁ : Pair) (s₁ : Stage), k₁.At W page steps p s₁ → s₁.Owns page k₁ n e →
      ∃ c, (p.state.wiring n).signaled e = some c ∧ c.onicecandidate.offererId = k₁.x ∧
        c.onicecandidate.answererId = k₁.y := by
    rintro k₁ s₁ hat₁ (⟨rfl, he⟩ | ⟨rfl, he⟩)
    · exact ⟨_, hat₁.holds.offer e he, rfl, rfl⟩
    · exact ⟨_, hat₁.holds.answer e he, rfl, rfl⟩
  apply h.advance hs ht htasks hnew hends
  · rw [hwiring, hfresh]
    exact h.wired.update hremote hdescription
  · rw [hwiring]
    exact hholds
  · intro k₁ s₁ hat₁ hne _
    rw [hwiring]
    have hother : ¬s₁.Owns page k₁ n e := by
      intro howns₁
      obtain ⟨c, hc, hx, hy⟩ := hhandler k s hat howns
      obtain ⟨c₁, hc₁, hx₁, hy₁⟩ := hhandler k₁ s₁ hat₁ howns₁
      obtain rfl := Option.some.inj (hc.symm.trans hc₁)
      exact hne (hat₁.registered.ext hat.registered (hx₁.symm.trans hx) (hy₁.symm.trans hy))
    apply hat₁.holds.update
    · exact fun hoff => hother (.inl hoff)
    · exact fun hans => hother (.inr hans)
  · rw [hwiring]
    constructor
    · intro n' a c hc
      rw [Wiring.signaled_update] at hc
      split_ifs at hc
      · obtain ⟨c₀, hc₀, -⟩ := Option.map_eq_some_iff.mp hc
        exact .inl ⟨c₀, hc₀⟩
      · exact .inl ⟨c, hc⟩
    · intro n' m v hv
      rw [Wiring.drawn_update] at hv
      exact .inl hv
    · intro n' a hown
      rw [Stage.Owns, hoffer, hanswer]
      exact hown
    · intro n' m a label hcreates
      rw [Stage.Creates, hfirst, hsecond]
      exact hcreates
  · intro a
    rw [hshared, or_iff_left (hshares a)]
  · intro a
    rw [hrefused, or_iff_left (hrefuses a)]

/-- Any task is resumed. -/
theorem Staged.resume {g : Pair → Option Stage} {t : RunnerTask} {before after : List RunnerTask}
    (h : Staged W page g steps p) (hnumbered : p.state.Numbered)
    (hopen : ∀ n, (p.state.pages n).Open) (htasks : p.tasks = before ++ t :: after) :
    ∃ g', Staged W page g' (steps ++ [(p, .resume t)])
      ⟨(t.resume W page p.state).1, before ++ after ++ (t.resume W page p.state).2⟩ := by
  cases hsignals : t.signals with
  | false =>
    refine ⟨g, h.idle (RunnerTask.sameClients_resume W page t p.state)
      (RunnerTask.sameWiring_resume hsignals) ?_ ?_⟩
    · have hnil : (t.resume W page p.state).2.filter RunnerTask.signals = [] := by
        rw [List.filter_eq_nil_iff]
        intro u hu
        simp [RunnerTask.signals_resume hsignals hu]
      simp [htasks, hnil, hsignals]
    · rintro u hu
      cases hu
      exact hsignals
  | true =>
    obtain ⟨k, s, hs, ht⟩ := h.stage_of_task (by simp [htasks]) hsignals
    have hat := h.stage k s hs
    cases s with
    | greeted =>
      cases ht
      cases hf : (p.state.wiring (page k.tx)).connection k.y with
      | none => exact ⟨_, h.makeOffer hs htasks (h.fresh hnumbered) (hopen _) hf⟩
      | some f => exact ⟨_, h.borrow hs htasks (h.fresh hnumbered) (hopen _) hf⟩
    | offered e =>
      cases ht
      cases hf : (p.state.wiring (page k.ty)).connection k.x with
      | none => exact ⟨_, h.takeOffer hs htasks (h.fresh hnumbered) (hopen _) hf⟩
      | some f => exact ⟨_, h.refuse hs htasks (h.fresh hnumbered) (hopen _) hf⟩
    | offerDescribing e e' =>
      have hdescribe : (Stage.answerCreating e e').Holds W page k
          (Function.update p.state.wiring (page k.ty)
            ((p.state.wiring (page k.ty)).describe e' (W.offer e))) p.state.ends :=
        hat.holds.updateAnswer hat.registered.threads_ne rfl rfl rfl rfl rfl rfl rfl
      have hanswer := hat.holds.answer e' rfl
      cases ht
      have hwiring : ((RunnerTask.offerDescribing k.ty k.y k.x k.y (W.offer e) e').resume W page
          p.state).1.wiring = Function.update p.state.wiring (page k.ty)
            ((p.state.wiring (page k.ty)).update e' fun c =>
              { c with remoteDescription := some (W.offer e) }) := by
        rw [RunnerTask.resume, Runner.wiring_setPage, Transporter.wiring_setRemoteDescription]
        rfl
      refine ⟨_, h.updateConnection hs rfl htasks rfl rfl rfl hwiring (.inr ⟨rfl, rfl⟩)
        (fun _ => rfl) ?_ hdescribe rfl rfl rfl rfl rfl rfl ?_ ?_⟩
      · intro c hc hsome
        obtain rfl := Option.some.inj (hc.symm.trans hanswer)
        exact absurd rfl hsome
      · simp [SharesAt]
      · simp [RefusesAt]
    | answerCreated e e' =>
      have hlisten : (Stage.answerSent e e').Holds W page k
          (Function.update p.state.wiring (page k.ty)
            ((p.state.wiring (page k.ty)).listen e' k.y)) p.state.ends :=
        hat.holds.updateAnswer hat.registered.threads_ne rfl rfl rfl rfl rfl rfl rfl
      cases ht
      have hwiring : ((RunnerTask.answerCreated k.ty k.y k.x k.y e').resume W page
          p.state).1.wiring = Function.update p.state.wiring (page k.ty)
            ((p.state.wiring (page k.ty)).update e' fun c =>
              { c with ondatachannel := some k.y }) := by
        rw [RunnerTask.resume, Runner.wiring_setPage, Transporter.wiring_listen]
        rfl
      refine ⟨_, h.updateConnection hs rfl htasks rfl rfl rfl hwiring (.inr ⟨rfl, rfl⟩)
        (fun _ => rfl) (fun _ _ _ => rfl) hlisten rfl rfl rfl rfl rfl rfl ?_ ?_⟩
      · simp [SharesAt]
      · simp [RefusesAt]
    | answerDescribing e e' =>
      have hlink := hat.holds.link hat.registered.threads_ne
      have hoffer := hat.holds.offer e rfl
      cases ht
      have hwiring : ((RunnerTask.answerDescribing k.tx k.y (W.answer e') e).resume W page
          p.state).1.wiring = Function.update p.state.wiring (page k.tx)
            ((p.state.wiring (page k.tx)).update e fun c =>
              { c with remoteDescription := some (W.answer e') }) := by
        rw [RunnerTask.resume, Runner.wiring_setPage,
          (Transporter.sameConnections_addQueuedCandidates k.y).wiring,
          Transporter.wiring_setRemoteDescription]
        rfl
      refine ⟨_, h.updateConnection hs rfl htasks rfl rfl rfl hwiring (.inl ⟨rfl, rfl⟩)
        (fun _ => rfl) ?_ hlink rfl rfl rfl rfl rfl rfl ?_ ?_⟩
      · intro c hc hsome
        obtain rfl := Option.some.inj (hc.symm.trans hoffer)
        exact absurd rfl hsome
      · simp [SharesAt]
      · simp [RefusesAt]
    | linked | borrowed | refused => cases ht
    | _ => exact ⟨_, h.forward hs rfl ht htasks⟩

end Staged

end Unisockets.Transport
