import Mathlib.Algebra.Ring.Nat
import Unisockets.Transition.Run

/-!
# Accounts of a run

An account is a number that can be read off a state.  If every step takes out
of it, or puts into it, what two functions of the step say, then what is in the
account at the end of a run and what its steps have taken out is what they have
put in: `Run.balance`.

Where ones are put in and taken out, what is taken out first is what was put in
first; `exists_countP_eq` finds the step that put it in.
-/

namespace Transition

variable {σ α : Type*} {init : σ → Prop} {step : σ → α → σ → Prop}

/-- What the steps of a run add up to. -/
def total (amount : σ × α → Nat) (steps : List (σ × α)) : Nat := (steps.map amount).sum

@[simp]
theorem total_nil (amount : σ × α → Nat) : total amount [] = 0 := rfl

@[simp]
theorem total_snoc (amount : σ × α → Nat) (steps : List (σ × α)) (x : σ × α) :
    total amount (steps ++ [x]) = total amount steps + amount x := by
  simp [total]

@[simp]
theorem total_zero (steps : List (σ × α)) : total (fun _ => 0) steps = 0 := by
  induction steps with
  | nil => rfl
  | cons x steps ih => exact (Nat.zero_add _).trans ih

/-- The steps that take or put one are counted. -/
theorem total_toNat (P : σ × α → Bool) (steps : List (σ × α)) :
    total (fun x => (P x).toNat) steps = steps.countP P := by
  induction steps with
  | nil => simp
  | cons x steps ih =>
    have hcons : total (fun x => (P x).toNat) (x :: steps)
        = (P x).toNat + total (fun x => (P x).toNat) steps := by
      simp [total]
    rw [hcons, ih, List.countP_cons]
    cases hx : P x <;> simp [Nat.add_comm]

/-- The account at the end and what was taken out of it is what was put in. -/
theorem Run.balance (account : σ → Nat) (taken put : σ × α → Nat) {steps : List (σ × α)} {s : σ}
    (h : Run init step steps s) (hinit : ∀ s, init s → account s = 0)
    (hstep : ∀ s a s', step s a s' →
      account s' + taken (s, a) = account s + put (s, a)) :
    account s + total taken steps = total put steps := by
  induction h with
  | start h0 => simp [hinit _ h0]
  | snoc hrun hs ih =>
    have hlast := hstep _ _ _ hs
    rw [total_snoc, total_snoc]
    omega

/-- The element of a kind that has `k` of its kind before it. -/
theorem exists_countP_eq {P : α → Bool} {l : List α} {k : Nat} (h : k < l.countP P) :
    ∃ before x after, l = before ++ x :: after ∧ P x = true ∧ before.countP P = k := by
  induction l generalizing k with
  | nil => exact absurd h (Nat.not_lt_zero k)
  | cons y l ih =>
    rw [List.countP_cons] at h
    by_cases hy : P y = true
    · cases k with
      | zero => exact ⟨[], y, l, rfl, hy, rfl⟩
      | succ k =>
        rw [if_pos hy] at h
        obtain ⟨before, x, after, rfl, hx, hk⟩ := ih (Nat.lt_of_succ_lt_succ h)
        refine ⟨y :: before, x, after, rfl, hx, ?_⟩
        rw [List.countP_cons, hk, if_pos hy]
    · rw [if_neg hy, Nat.add_zero] at h
      obtain ⟨before, x, after, rfl, hx, hk⟩ := ih h
      refine ⟨y :: before, x, after, rfl, hx, ?_⟩
      rw [List.countP_cons, hk, if_neg hy, Nat.add_zero]

end Transition
