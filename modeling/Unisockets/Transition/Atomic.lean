import Mathlib.Data.List.Basic
import Unisockets.Transition.Run

/-!
# Calls that take effect at once

An object is given by what a call does to it in one go and what the call returns.
`Serial` is a history of calls that are made one after another.

The calls of a concurrent system take several steps each.  `Run.serial` is the rule for
showing that they take effect at once nevertheless: in each step nothing happens to the
object, or one call does, and what the step is seen to return is what the call returns.
The calls of a run are then those of a serial history, in the order of these steps.
-/

namespace Transition

variable {ω κ ρ : Type*}

/-- Calls made one after another, with what they return. -/
inductive Serial (apply : κ → ω → ω × ρ) (start : ω) : List (κ × ρ) → ω → Prop where
  | nil : Serial apply start [] start
  | snoc {calls : List (κ × ρ)} {o : ω} (h : Serial apply start calls o) (c : κ) :
    Serial apply start (calls ++ [(c, (apply c o).2)]) (apply c o).1

/-- Nothing happens to the object, or one call takes effect. -/
inductive TakesEffect (apply : κ → ω → ω × ρ) (o : ω) : Option (κ × ρ) → ω → Prop where
  | silent : TakesEffect apply o none o
  | call (c : κ) : TakesEffect apply o (some (c, (apply c o).2)) (apply c o).1

variable {apply : κ → ω → ω × ρ} {start : ω}

theorem TakesEffect.of_eq {o o' : ω} {c : κ} {r : ρ} (h : apply c o = (o', r)) :
    TakesEffect apply o (some (c, r)) o' := by
  have hcall : TakesEffect apply o (some (c, (apply c o).2)) (apply c o).1 := .call c
  rwa [h] at hcall

theorem Serial.takesEffect {calls : List (κ × ρ)} {o o' : ω} {effect : Option (κ × ρ)}
    (h : Serial apply start calls o) (he : TakesEffect apply o effect o') :
    Serial apply start (calls ++ effect.toList) o' := by
  cases he with
  | silent => simpa using h
  | call c => exact h.snoc c

variable {σ α : Type*} {init : σ → Prop} {step : σ → α → σ → Prop}

/-- The state that a run starts in. -/
def first (steps : List (σ × α)) (s : σ) : σ := (steps.head?.map Prod.fst).getD s

theorem first_snoc (steps : List (σ × α)) (s s' : σ) (a : α) :
    first (steps ++ [(s, a)]) s' = first steps s := by
  cases steps <;> rfl

theorem Run.init_first {steps : List (σ × α)} {s : σ} (h : Run init step steps s) :
    init (first steps s) := by
  induction h with
  | start h0 => exact h0
  | snoc _ _ ih => rwa [first_snoc]

/-- What takes effect in the steps of a run is a serial history of calls. -/
theorem Run.serial (related : σ → ω → Prop) (effect : σ × α → Option (κ × ρ)) (view : σ → ω)
    {steps : List (σ × α)} {s : σ} (h : Run init step steps s)
    (hinit : ∀ s, init s → related s (view s))
    (hstep : ∀ s a s' o, step s a s' → related s o →
      ∃ o', TakesEffect apply o (effect (s, a)) o' ∧ related s' o') :
    ∃ o, Serial apply (view (first steps s)) (steps.filterMap effect) o ∧ related s o := by
  induction h with
  | @start s h0 => exact ⟨view s, .nil, hinit s h0⟩
  | @snoc steps s s' a _ hs ih =>
    obtain ⟨o, hserial, ho⟩ := ih
    obtain ⟨o', heffect, ho'⟩ := hstep s a s' o hs ho
    refine ⟨o', ?_, ho'⟩
    have hlast : [(s, a)].filterMap effect = (effect (s, a)).toList := by
      cases he : effect (s, a) <;> simp [he]
    rw [List.filterMap_append, hlast, first_snoc]
    exact hserial.takesEffect heffect

end Transition
