import Unisockets.Transition.Run

/-!
# Since

Two past-time operators on the steps of a run.  `Since start keep l` says that
some step of `l` is a `start` and every later one a `keep`; with `SinceWith` one
of the later steps is a `mark` as well.  A step at the end of the list either
starts anew or has to keep what was there, which is `since_snoc` and
`sinceWith_snoc`: an invariant about the past is proved with these, one step at
a time.  `Run.of_append` cuts a run off in front of one of its steps, so that
what the past says about the state can be used there.
-/

namespace Transition

variable {α : Type*} {start keep mark : α → Prop} {l : List α} {y : α}

/-- There was a `start`, and everything after it was a `keep`. -/
def Since (start keep : α → Prop) (l : List α) : Prop :=
  ∃ before x after, l = before ++ x :: after ∧ start x ∧ ∀ y ∈ after, keep y

/-- There was a `mark` since as well. -/
def SinceWith (start keep mark : α → Prop) (l : List α) : Prop :=
  ∃ before x after, l = before ++ x :: after ∧ start x ∧ (∀ y ∈ after, keep y) ∧
    ∃ y ∈ after, mark y

theorem SinceWith.since (h : SinceWith start keep mark l) : Since start keep l := by
  obtain ⟨before, x, after, hl, hx, hafter, -⟩ := h
  exact ⟨before, x, after, hl, hx, hafter⟩

/-- An element of a list with one more at its end is that one or an earlier one. -/
theorem eq_append_cons_of_snoc {before after : List α} {x : α}
    (h : l ++ [y] = before ++ x :: after) :
    after = [] ∧ x = y ∨ ∃ rest, after = rest ++ [y] ∧ l = before ++ x :: rest := by
  rcases List.eq_nil_or_concat after with rfl | ⟨rest, z, rfl⟩
  · obtain ⟨-, he⟩ := List.append_inj' h rfl
    exact .inl ⟨rfl, (List.cons.inj he).1.symm⟩
  · have hconcat : l ++ [y] = (before ++ x :: rest) ++ [z] := by simpa using h
    obtain ⟨hl, he⟩ := List.append_inj' hconcat rfl
    refine .inr ⟨rest, ?_, hl⟩
    rw [List.concat_eq_append, (List.cons.inj he).1]

/-- Every step of a run is taken at the end of the part of the run before it. -/
theorem Run.of_append {σ : Type*} {init : σ → Prop} {step : σ → α → σ → Prop}
    {steps before after : List (σ × α)} {x : σ × α} {s : σ} (h : Run init step steps s)
    (hsteps : steps = before ++ x :: after) :
    Run init step before x.1 ∧ ∃ s', step x.1 x.2 s' := by
  induction h generalizing after with
  | start hinit => cases before <;> cases hsteps
  | snoc hrun hstep ih =>
    rcases eq_append_cons_of_snoc hsteps with ⟨rfl, rfl⟩ | ⟨rest, rfl, hrest⟩
    · obtain ⟨rfl, -⟩ := List.append_inj' hsteps rfl
      exact ⟨hrun, _, hstep⟩
    · exact ih hrest

theorem since_snoc : Since start keep (l ++ [y]) ↔ start y ∨ Since start keep l ∧ keep y := by
  constructor
  · rintro ⟨before, x, after, hl, hx, hafter⟩
    rcases eq_append_cons_of_snoc hl with ⟨rfl, rfl⟩ | ⟨rest, rfl, rfl⟩
    · exact .inl hx
    · refine .inr ⟨⟨before, x, rest, rfl, hx, fun z hz => hafter z ?_⟩, hafter y ?_⟩
      · exact List.mem_append_left _ hz
      · exact List.mem_append_right _ List.mem_cons_self
  · rintro (hy | ⟨⟨before, x, after, rfl, hx, hafter⟩, hy⟩)
    · exact ⟨l, y, [], rfl, hy, fun z hz => absurd hz List.not_mem_nil⟩
    · refine ⟨before, x, after ++ [y], by simp, hx, ?_⟩
      exact List.forall_mem_append.mpr ⟨hafter, List.forall_mem_singleton.mpr hy⟩

theorem sinceWith_snoc : SinceWith start keep mark (l ++ [y]) ↔
    (SinceWith start keep mark l ∨ Since start keep l ∧ mark y) ∧ keep y := by
  constructor
  · rintro ⟨before, x, after, hl, hx, hafter, z, hz, hmark⟩
    rcases eq_append_cons_of_snoc hl with ⟨rfl, -⟩ | ⟨rest, rfl, rfl⟩
    · cases hz
    · have hrest : ∀ z ∈ rest, keep z := fun z hz => hafter z (List.mem_append_left _ hz)
      refine ⟨?_, hafter y (List.mem_append_right _ List.mem_cons_self)⟩
      rcases List.mem_append.mp hz with hz | hz
      · exact .inl ⟨before, x, rest, rfl, hx, hrest, z, hz, hmark⟩
      · rw [List.mem_singleton.mp hz] at hmark
        exact .inr ⟨⟨before, x, rest, rfl, hx, hrest⟩, hmark⟩
  · rintro ⟨⟨before, x, after, rfl, hx, hafter, z, hz, hmark⟩ |
      ⟨⟨before, x, after, rfl, hx, hafter⟩, hmark⟩, hy⟩
    · refine ⟨before, x, after ++ [y], by simp, hx, ?_, z, List.mem_append_left _ hz, hmark⟩
      exact List.forall_mem_append.mpr ⟨hafter, List.forall_mem_singleton.mpr hy⟩
    · refine ⟨before, x, after ++ [y], by simp, hx, ?_, y, ?_, hmark⟩
      · exact List.forall_mem_append.mpr ⟨hafter, List.forall_mem_singleton.mpr hy⟩
      · exact List.mem_append_right _ List.mem_cons_self

end Transition
