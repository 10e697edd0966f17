import Mathlib.Data.List.Nodup

/-!
# Event emitters

The package emittery calls the listeners of an event later than `emit`: `emit`
takes note of the listeners that are there, and when it goes on it calls those
of them that have not been removed in between, in the order in which they were
added.

The package is not part of the repository, so it is a parameter.
`Emittery.called before now` are the listeners that an emission calls when
`before` were registered at `emit` and `now` are when it goes on; the two
fields beside it are all that a proof may use.  `Emittery.subscribed` is the
list above.
-/

namespace JsStd

/-- The choice of the listeners that an emission calls. -/
structure Emittery (α : Type*) where
  called : List α → List α → List α
  /-- Every listener is called in its turn, and once. -/
  sublist : ∀ before now, (called before now).Sublist before
  /-- A listener is called if it was registered at `emit` and still is. -/
  mem_called : ∀ before now l, l ∈ called before now ↔ l ∈ before ∧ l ∈ now

namespace Emittery

variable {α : Type*}

/-- The emitter that calls exactly the listeners that are left. -/
def subscribed [DecidableEq α] : Emittery α where
  called before now := before.filter (· ∈ now)
  sublist _ _ := List.filter_sublist
  mem_called before now l := by
    rw [List.mem_filter, decide_eq_true_eq]

end Emittery

end JsStd
