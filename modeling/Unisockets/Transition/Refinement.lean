import Mathlib.Data.List.Basic
import Unisockets.Transition.Run

/-!
# Runs of two systems

Two systems with the same labels, and a function that maps the states of the one
to the states of the other.  If every step of the first is a step of the second,
so is every run (`Run.map`); if every step of the second that starts in the image
of a state comes from a step of the first, so does every run (`Run.lift`).

`Run.expand` is for a second system with other labels, which takes any number of
steps for one step of the first.  What is observed of the two runs is the same.
-/

namespace Transition

variable {σ τ α : Type*} {init : σ → Prop} {step : σ → α → σ → Prop} {init' : τ → Prop}
  {step' : τ → α → τ → Prop} (f : σ → τ)

/-- The same steps, taken in the images of the states. -/
def mapSteps (steps : List (σ × α)) : List (τ × α) := steps.map fun x => (f x.1, x.2)

/-- A run is mapped to a run. -/
theorem Run.map (hinit : ∀ s, init s → init' (f s))
    (hstep : ∀ s a s', step s a s' → step' (f s) a (f s')) {steps : List (σ × α)} {s : σ}
    (h : Run init step steps s) : Run init' step' (mapSteps f steps) (f s) := by
  induction h with
  | start h0 => exact .start (hinit _ h0)
  | snoc _ hs ih =>
    have hrun := ih.snoc (hstep _ _ _ hs)
    simpa [mapSteps] using hrun

/-- A run with fewer initial states. -/
theorem Run.mono {init₀ : σ → Prop} {steps : List (σ × α)} {s : σ}
    (h : Run init step steps s) (hinit : ∀ s, init s → init₀ s) : Run init₀ step steps s := by
  induction h with
  | start h0 => exact .start (hinit _ h0)
  | snoc _ hs ih => exact ih.snoc hs

/-- A run comes from a run. -/
theorem Run.lift (hinit : ∀ t, init' t → ∃ s, init s ∧ f s = t)
    (hstep : ∀ s a t, step' (f s) a t → ∃ s', step s a s' ∧ f s' = t) {steps' : List (τ × α)}
    {t : τ} (h : Run init' step' steps' t) :
    ∃ steps s, Run init step steps s ∧ mapSteps f steps = steps' ∧ f s = t := by
  induction h with
  | start h0 =>
    obtain ⟨s, hs, rfl⟩ := hinit _ h0
    exact ⟨[], s, .start hs, rfl, rfl⟩
  | @snoc steps' t t' a _ hs ih =>
    obtain ⟨steps, s, hrun, rfl, rfl⟩ := ih
    obtain ⟨s', hs', rfl⟩ := hstep _ _ _ hs
    exact ⟨steps ++ [(s, a)], s', hrun.snoc hs', by simp [mapSteps], rfl⟩

/-! ## Several steps for one -/

/-- Steps that lead from one state to another. -/
inductive Path (step : σ → α → σ → Prop) : σ → List (σ × α) → σ → Prop where
  | nil (s : σ) : Path step s [] s
  | cons {s s' s'' : σ} {a : α} {steps : List (σ × α)} (hstep : step s a s')
      (hpath : Path step s' steps s'') : Path step s ((s, a) :: steps) s''

theorem Path.single {s s' : σ} {a : α} (h : step s a s') : Path step s [(s, a)] s' :=
  .cons h (.nil s')

theorem Path.snoc {s s' s'' : σ} {a : α} {steps : List (σ × α)} (h : Path step s steps s')
    (hstep : step s' a s'') : Path step s (steps ++ [(s', a)]) s'' := by
  induction h with
  | nil s => exact .single hstep
  | cons hs _ ih => exact .cons hs (ih hstep)

theorem Run.append {steps steps' : List (σ × α)} {s s' : σ} (h : Run init step steps s)
    (h' : Path step s steps' s') : Run init step (steps ++ steps') s' := by
  induction h' generalizing steps with
  | nil => rwa [List.append_nil]
  | cons hs _ ih =>
    rw [List.append_cons]
    exact ih (h.snoc hs)

/-- A run is expanded to a run in which the same is observed. -/
theorem Run.expand {β γ : Type*} {step' : τ → β → τ → Prop} (observe : σ × α → List γ)
    (observe' : τ × β → List γ) (hinit : ∀ s, init s → init' (f s))
    (hstep : ∀ s a s', step s a s' →
      ∃ path, Path step' (f s) path (f s') ∧ path.flatMap observe' = observe (s, a))
    {steps : List (σ × α)} {s : σ} (h : Run init step steps s) :
    ∃ steps', Run init' step' steps' (f s) ∧ steps'.flatMap observe' = steps.flatMap observe := by
  induction h with
  | start h0 => exact ⟨[], .start (hinit _ h0), rfl⟩
  | @snoc steps s s' a _ hs ih =>
    obtain ⟨steps', hrun, hobserve⟩ := ih
    obtain ⟨path, hpath, hlast⟩ := hstep s a s' hs
    refine ⟨steps' ++ path, hrun.append hpath, ?_⟩
    rw [List.flatMap_append, List.flatMap_append, hobserve, hlast]
    simp

end Transition
