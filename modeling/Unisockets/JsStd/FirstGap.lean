import Mathlib.Data.List.Nodup
import Mathlib.Order.Bounds.Basic
import Unisockets.JsStd.Text

/-!
# The first gap of a sorted list of numbers

A common allocation loop sorts the numbers in use and takes the first index
that differs from the number standing there, or the length when there is
none.  `firstGap` is that loop.

The result is `firstGap_isLeast`: when the numbers in use are distinct natural
numbers, in whatever order, the loop finds the least natural number that is not
in use.  Other numbers mislead it when zero is in use (`firstGap_not_mem_iff`).
-/

namespace JsStd

/-- The comparator `(a, b) => a - b` does not ask to put `b` before `a`. -/
def Number.notAfter : Number → Number → Bool
  | .int a, .int b => decide (a ≤ b)
  | _, _ => true

/-- `numbers.sort((a, b) => a - b)`.  On a list with a `NaN` the order is left
to the implementation; what is said below about such lists does not depend on it. -/
def sortNumbers (numbers : List Number) : List Number :=
  numbers.mergeSort Number.notAfter

/-- The first index whose number differs from it, or the length. -/
def firstGap (numbers : List Number) : Nat :=
  ((numbers.zipIdx.find? fun entry => !Number.strictEq entry.1 entry.2).map
    Prod.snd).getD numbers.length

theorem sortNumbers_perm (numbers : List Number) : (sortNumbers numbers).Perm numbers :=
  List.mergeSort_perm numbers _

@[simp]
theorem mem_sortNumbers {numbers : List Number} {n : Number} :
    n ∈ sortNumbers numbers ↔ n ∈ numbers :=
  (sortNumbers_perm numbers).mem_iff

/-- Whether a number is a natural number. -/
def Number.isNatural : Number → Bool
  | .int n => decide (0 ≤ n)
  | .nan => false

theorem Number.isNatural_iff {x : Number} : x.isNatural = true ↔ ∃ n : Nat, x = (n : Number) := by
  cases x with
  | nan => simp [isNatural]
  | int n =>
    rw [isNatural, decide_eq_true_eq]
    constructor
    · exact fun h => ⟨n.toNat, congrArg Number.int (Int.toNat_of_nonneg h).symm⟩
    · rintro ⟨m, hm⟩
      rw [Number.int.inj hm]
      exact Int.natCast_nonneg m

/-- Every number of the list is a natural number. -/
def Naturals (numbers : List Number) : Prop := ∀ x ∈ numbers, ∃ n : Nat, x = (n : Number)

theorem Naturals.subset {l l' : List Number} (h : Naturals l) (hsub : l' ⊆ l) : Naturals l' :=
  fun x hx => h x (hsub hx)

theorem Naturals.append {l l' : List Number} (h : Naturals l) (h' : Naturals l') :
    Naturals (l ++ l') := by
  intro x hx
  rcases List.mem_append.mp hx with hx | hx
  · exact h x hx
  · exact h' x hx

/-- `a < b` on integers; `NaN` is below nothing. -/
def Number.Below : Number → Number → Prop
  | .int a, .int b => a < b
  | _, _ => False

/-- `a ≤ b` on integers. -/
def Number.AtMost : Number → Number → Prop
  | .int a, .int b => a ≤ b
  | _, _ => False

/-- Without a `NaN` the numbers are sorted into their order. -/
theorem sortNumbers_ordered {numbers : List Number} (hnan : .nan ∉ numbers) :
    (sortNumbers numbers).Pairwise Number.AtMost := by
  -- the comparator is only transitive and total on the integers
  have hint : ∃ l : List Int, numbers = l.map Number.int := by
    refine ⟨numbers.map fun x => match x with | .int n => n | .nan => 0, ?_⟩
    rw [List.map_map]
    refine (List.map_id numbers).symm.trans (List.map_congr_left fun x hx => ?_)
    cases x with
    | nan => exact absurd hx hnan
    | int n => rfl
  obtain ⟨l, rfl⟩ := hint
  have hsort : sortNumbers (l.map Number.int)
      = (l.mergeSort fun a b => decide (a ≤ b)).map Number.int := by
    rw [sortNumbers, List.map_mergeSort]
    intro a _ b _
    rfl
  have hpair := @List.pairwise_mergeSort _ (fun a b : Int => decide (a ≤ b))
    (fun a b c hab hbc => by
      rw [decide_eq_true_eq] at hab hbc ⊢
      exact Int.le_trans hab hbc)
    (fun a b => by
      rw [Bool.or_eq_true, decide_eq_true_eq, decide_eq_true_eq]
      exact Int.le_total a b) l
  rw [hsort, List.pairwise_map]
  exact hpair.imp fun hab => of_decide_eq_true hab

theorem Naturals.nan_not_mem {l : List Number} (h : Naturals l) : .nan ∉ l := by
  intro hmem
  obtain ⟨n, hn⟩ := h .nan hmem
  cases hn

/-- Distinct natural numbers are sorted into increasing order. -/
theorem sortNumbers_increasing {numbers : List Number} (hnat : Naturals numbers)
    (hnodup : numbers.Nodup) : (sortNumbers numbers).Pairwise Number.Below := by
  have hne : (sortNumbers numbers).Nodup := (sortNumbers_perm numbers).nodup_iff.mpr hnodup
  refine ((sortNumbers_ordered hnat.nan_not_mem).and hne).imp ?_
  intro a b ⟨hle, hab⟩
  cases a with
  | nan => cases hle
  | int a =>
    cases b with
    | nan => cases hle
    | int b => exact lt_of_le_of_ne hle fun he => hab (congrArg Number.int he)

/-- The search from an offset, one number at a time. -/
private theorem find?_zipIdx_cons (x : Number) (rest : List Number) (k : Nat) :
    ((((x :: rest).zipIdx k).find? fun entry => !Number.strictEq entry.1 entry.2).map
        Prod.snd).getD (k + (x :: rest).length)
      = if x = (k : Number) then
          (((rest.zipIdx (k + 1)).find? fun entry => !Number.strictEq entry.1 entry.2).map
            Prod.snd).getD (k + 1 + rest.length)
        else k := by
  rw [List.zipIdx_cons, List.find?_cons]
  by_cases hx : x = (k : Number)
  · subst hx
    simp [Nat.add_comm, Nat.add_left_comm]
  · have hne : Number.strictEq x k = false := by
      rw [← Bool.not_eq_true]
      exact fun h => hx (Number.eq_of_strictEq h)
    simp [hx, hne]

/-- Whatever the numbers are, those below the found one are among them. -/
private theorem mem_of_lt_from (l : List Number) (k j : Nat) (hle : k ≤ j)
    (hlt : j < (((l.zipIdx k).find? fun entry => !Number.strictEq entry.1 entry.2).map
      Prod.snd).getD (k + l.length)) : (j : Number) ∈ l := by
  induction l generalizing k with
  | nil =>
    simp at hlt
    omega
  | cons x rest ih =>
    rw [find?_zipIdx_cons] at hlt
    split_ifs at hlt with hx
    · rcases Nat.eq_or_lt_of_le hle with rfl | hle
      · rw [hx]
        exact List.mem_cons_self
      · exact List.mem_cons_of_mem _ (ih (k + 1) hle hlt)
    · omega

theorem mem_of_lt_firstGap {numbers : List Number} {k : Nat} (h : k < firstGap numbers) :
    (k : Number) ∈ numbers := by
  apply mem_of_lt_from numbers 0 k (Nat.zero_le k)
  rwa [Nat.zero_add]

private theorem firstGap_from (l : List Number) (k : Nat)
    (hnat : ∀ x ∈ l, ∃ n : Nat, k ≤ n ∧ x = (n : Number))
    (hinc : l.Pairwise Number.Below) :
    let g := (((l.zipIdx k).find? fun entry => !Number.strictEq entry.1 entry.2).map
      Prod.snd).getD (k + l.length)
    k ≤ g ∧ (g : Number) ∉ l := by
  induction l generalizing k with
  | nil => exact ⟨Nat.le_refl k, by simp⟩
  | cons x rest ih =>
    rw [List.pairwise_cons] at hinc
    obtain ⟨n, hkn, hxn⟩ := hnat x (by simp)
    have hrest : ∀ y ∈ rest, ∃ m : Nat, n + 1 ≤ m ∧ y = (m : Number) := by
      intro y hy
      obtain ⟨m, -, rfl⟩ := hnat y (by simp [hy])
      have hlt : (n : Number).Below m := hxn ▸ hinc.1 _ hy
      exact ⟨m, Int.ofNat_lt.mp hlt, rfl⟩
    simp only
    rw [find?_zipIdx_cons]
    split_ifs with hx
    · have hnk : n = k := Number.natCast_inj.mp (hxn.symm.trans hx)
      subst hnk
      obtain ⟨hle, hnot⟩ := ih (n + 1) hrest hinc.2
      refine ⟨by omega, ?_⟩
      rw [List.mem_cons, not_or]
      refine ⟨?_, hnot⟩
      rw [hxn, Number.natCast_inj]
      omega
    · -- every number of the list is above the offset
      refine ⟨Nat.le_refl k, ?_⟩
      have hlt : k < n := by
        rcases Nat.eq_or_lt_of_le hkn with rfl | h
        · exact absurd hxn hx
        · exact h
      rw [List.mem_cons, not_or]
      refine ⟨fun h => hx h.symm, fun hmem => ?_⟩
      obtain ⟨m, hm, he⟩ := hrest _ hmem
      rw [Number.natCast_inj] at he
      omega

/-- The loop finds the least natural number that is not in use. -/
theorem firstGap_isLeast {numbers : List Number} (hnat : Naturals numbers)
    (hnodup : numbers.Nodup) :
    IsLeast {n : Nat | (n : Number) ∉ numbers} (firstGap (sortNumbers numbers)) := by
  have hsorted : ∀ x ∈ sortNumbers numbers, ∃ n : Nat, 0 ≤ n ∧ x = (n : Number) := by
    intro x hx
    obtain ⟨n, hn⟩ := hnat x (mem_sortNumbers.mp hx)
    exact ⟨n, Nat.zero_le n, hn⟩
  have h := firstGap_from (sortNumbers numbers) 0 hsorted
    (sortNumbers_increasing hnat hnodup)
  rw [Nat.zero_add] at h
  refine ⟨fun hmem => h.2 (mem_sortNumbers.mpr hmem), ?_⟩
  intro j hj
  by_contra hlt
  exact hj (mem_sortNumbers.mp (mem_of_lt_firstGap (Nat.lt_of_not_le hlt)))

/-- The number that the loop finds is not in use. -/
theorem firstGap_not_mem {numbers : List Number} (hnat : Naturals numbers)
    (hnodup : numbers.Nodup) :
    ((firstGap (sortNumbers numbers) : Nat) : Number) ∉ numbers :=
  (firstGap_isLeast hnat hnodup).1

/-! ## Numbers that mislead the loop -/

/-- The numbers in use are all natural, or zero is not among them. -/
def Searchable (numbers : List Number) : Prop :=
  (∀ x ∈ numbers, x.isNatural = true) ∨ .int 0 ∉ numbers

instance : DecidablePred Searchable := fun _ => inferInstanceAs (Decidable (_ ∨ _))

theorem Searchable.perm {l l' : List Number} (h : Searchable l) (hl : l.Perm l') :
    Searchable l' := by
  rcases h with h | h
  · exact .inl fun x hx => h x (hl.mem_iff.mpr hx)
  · exact .inr fun hx => h (hl.mem_iff.mpr hx)

/-- The loop stops at once unless the first number is zero. -/
theorem firstGap_eq_zero {numbers : List Number} (h : numbers.head? ≠ some (.int 0)) :
    firstGap numbers = 0 := by
  cases numbers with
  | nil => rfl
  | cons x rest =>
    have hx : Number.strictEq x (.int 0) = false := by
      rw [← Bool.not_eq_true]
      exact fun hequal => h (congrArg some (Number.eq_of_strictEq hequal))
    rw [firstGap, List.zipIdx_cons, List.find?_cons]
    simp [hx]

/-- A negative number in front of zero stops the loop at zero, which is in use. -/
theorem firstGap_of_not_searchable {numbers : List Number} (hnan : .nan ∉ numbers)
    (h : ¬Searchable numbers) : firstGap (sortNumbers numbers) = 0 ∧ .int 0 ∈ numbers := by
  obtain ⟨hnatural, hzero⟩ := not_or.mp h
  refine ⟨firstGap_eq_zero fun hhead => ?_, not_not.mp hzero⟩
  have hordered := sortNumbers_ordered hnan
  obtain ⟨rest, hsorted⟩ := List.head?_eq_some_iff.mp hhead
  rw [hsorted, List.pairwise_cons] at hordered
  apply hnatural
  intro x hx
  have hmem : x ∈ Number.int 0 :: rest := hsorted ▸ mem_sortNumbers.mpr hx
  rcases List.mem_cons.mp hmem with rfl | hmem
  · rfl
  · cases x with
    | nan => exact absurd hx hnan
    | int n => exact decide_eq_true (hordered.1 _ hmem)

/-- The loop finds a number that is not in use; a `NaN` may be listed twice. -/
theorem firstGap_not_mem_of_searchable {numbers : List Number} (h : Searchable numbers)
    (hnodup : (numbers.filter (· ≠ .nan)).Nodup) :
    .int (firstGap (sortNumbers numbers)) ∉ numbers := by
  rcases h with hnatural | hzero
  · have hnat : Naturals numbers := fun x hx => Number.isNatural_iff.mp (hnatural x hx)
    apply firstGap_not_mem hnat
    rwa [List.filter_eq_self.mpr] at hnodup
    intro x hx
    exact decide_eq_true fun hnan => hnat.nan_not_mem (hnan ▸ hx)
  · rw [firstGap_eq_zero]
    · exact hzero
    · exact fun hhead => hzero (mem_sortNumbers.mp (List.mem_of_mem_head? hhead))

/-- Without a `NaN` the loop is misled by all other numbers. -/
theorem firstGap_not_mem_iff {numbers : List Number} (hnan : .nan ∉ numbers)
    (hnodup : numbers.Nodup) :
    .int (firstGap (sortNumbers numbers)) ∉ numbers ↔ Searchable numbers := by
  constructor
  · intro hfree
    by_contra h
    obtain ⟨hgap, hzero⟩ := firstGap_of_not_searchable hnan h
    rw [hgap] at hfree
    exact hfree hzero
  · exact fun h => firstGap_not_mem_of_searchable h (hnodup.filter _)

end JsStd
