import Mathlib.Tactic.TypeStar

/-!
# Runs of a labelled transition system

A run records, for every step taken, the state it was taken in and its label.
A property of the steps of a run is then a property of the members of this
record, so that a run under a side condition and a fact about every step of a
run are stated in the same way.

`Run.invariant` is the induction rule: a property that holds initially and is
kept by every step that meets the side condition holds at the end of every
run whose steps all meet it.  `Run.of_mem` cuts a run off in front of one of
its steps, so that the invariant can be read there as well; `Run.related` compares
such an earlier state with the end.

`Run.along` runs an executable step function along a list of events;
`Run.exists_along` finds a run with a property by evaluating it.
-/

namespace Transition

variable {σ α : Type*}

/-- A run from an initial state, with its steps in order. -/
inductive Run (init : σ → Prop) (step : σ → α → σ → Prop) : List (σ × α) → σ → Prop where
  | start {s : σ} (hinit : init s) : Run init step [] s
  | snoc {steps : List (σ × α)} {s s' : σ} {a : α} (hrun : Run init step steps s)
      (hstep : step s a s') : Run init step (steps ++ [(s, a)]) s'

variable {init : σ → Prop} {step : σ → α → σ → Prop}

/-- The induction rule for a property that every admitted step keeps. -/
theorem Run.invariant {I : σ → Prop} {admits : σ × α → Prop} {steps : List (σ × α)} {s : σ}
    (h : Run init step steps s) (hadmits : ∀ x ∈ steps, admits x)
    (hinit : ∀ s, init s → I s)
    (hstep : ∀ s a s', I s → admits (s, a) → step s a s' → I s') : I s := by
  induction h with
  | start h0 => exact hinit _ h0
  | snoc hrun hs ih =>
    refine hstep _ _ _ (ih fun x hx => hadmits x ?_) (hadmits _ ?_) hs
    · exact List.mem_append_left _ hx
    · exact List.mem_append_right _ (List.mem_singleton.mpr rfl)

/-- Every step of a run is taken at the end of an earlier part of it. -/
theorem Run.of_mem {steps : List (σ × α)} {s : σ} {x : σ × α} (h : Run init step steps s)
    (hx : x ∈ steps) :
    ∃ before s', before ⊆ steps ∧ Run init step before x.1 ∧ step x.1 x.2 s' := by
  induction h with
  | start _ => exact absurd hx List.not_mem_nil
  | @snoc steps s s' a hrun hstep ih =>
    rcases List.mem_append.mp hx with hx | hx
    · obtain ⟨before, s'', hsub, hbefore, hs⟩ := ih hx
      exact ⟨before, s'', fun y hy => List.mem_append_left _ (hsub hy), hbefore, hs⟩
    · rw [List.mem_singleton.mp hx]
      exact ⟨steps, s', List.subset_append_left _ _, hrun, hstep⟩

/-- A transitive relation that every step keeps to holds between the state of a step and the
end of the run. -/
theorem Run.related {R : σ → σ → Prop} {steps : List (σ × α)} {s : σ} {x : σ × α}
    (h : Run init step steps s) (hx : x ∈ steps)
    (htrans : ∀ s s' s'', R s s' → R s' s'' → R s s'')
    (hstep : ∀ s a s', step s a s' → R s s') : R x.1 s := by
  induction h with
  | start _ => exact absurd hx List.not_mem_nil
  | snoc _ hs ih =>
    rcases List.mem_append.mp hx with hx | hx
    · exact htrans _ _ _ (ih hx) (hstep _ _ _ hs)
    · rw [List.mem_singleton.mp hx]
      exact hstep _ _ _ hs

/-- The run along a list of events. -/
def Run.along {ε : Type*} (next : σ → ε → Option (α × σ)) :
    List ε → σ → List (σ × α) → Option (List (σ × α) × σ)
  | [], s, steps => some (steps, s)
  | e :: es, s, steps =>
    (next s e).bind fun r => along next es r.2 (steps ++ [(s, r.1)])

theorem Run.of_along {ε : Type*} {next : σ → ε → Option (α × σ)}
    (hnext : ∀ s e a s', next s e = some (a, s') → step s a s') {es : List ε} {s : σ}
    {steps : List (σ × α)} (hrun : Run init step steps s) {r : List (σ × α) × σ}
    (h : along next es s steps = some r) : Run init step r.1 r.2 := by
  induction es generalizing s steps with
  | nil =>
    cases h
    exact hrun
  | cons e es ih =>
    obtain ⟨⟨a, s'⟩, hs, hrest⟩ := Option.bind_eq_some_iff.mp h
    exact ih (hrun.snoc (hnext _ _ _ _ hs)) hrest

variable (init) in
/-- A run with a property that can be evaluated. -/
theorem Run.exists_along {ε : Type*} {next : σ → ε → Option (α × σ)}
    (hnext : ∀ s e a s', next s e = some (a, s') → step s a s') {s : σ} (hinit : init s)
    {P : List (σ × α) → σ → Prop} [∀ steps s, Decidable (P steps s)] (es : List ε)
    (h : ((along next es s []).any fun r => decide (P r.1 r.2)) = true) :
    ∃ steps s, Run init step steps s ∧ P steps s := by
  cases hr : along next es s [] with
  | none =>
    rw [hr] at h
    cases h
  | some r =>
    rw [hr] at h
    exact ⟨r.1, r.2, of_along hnext (.start hinit) hr, of_decide_eq_true h⟩

end Transition
