import Mathlib.Data.List.Nodup

/-!
# A model of the JavaScript `Map`

A `Map` is the list of its entries in insertion order, which is the order
`forEach`, `keys` and `values` walk.  The structure carries the fact that no
key occurs twice, so that a map with a doubled key cannot be built.

`set` replaces the value of a key that is present in place and appends a new
key, `delete` drops the entry.  The lemmas below reduce every operation to
`get`: `get_set`, `get_delete`, `get_mapValues` and `get_filter_eq_some_iff`
are what a caller rewrites with, and `mem_keys_iff` and `mem_entries_iff` move
between `get` and the lists the iterations walk.
-/

namespace JsStd

/-- A `Map` with keys in `κ` and values in `ν`. -/
structure Map (κ ν : Type) where
  entries : List (κ × ν)
  nodup : (entries.map Prod.fst).Nodup

namespace Map

variable {κ ν : Type}

theorem ext {m m' : Map κ ν} (h : m.entries = m'.entries) : m = m' := by
  cases m
  cases m'
  cases h
  rfl

/-- `new Map()`. -/
def empty : Map κ ν := ⟨[], List.nodup_nil⟩

/-- `keys()`, in insertion order. -/
def keys (m : Map κ ν) : List κ := m.entries.map Prod.fst

/-- `values()`, in insertion order. -/
def values (m : Map κ ν) : List ν := m.entries.map Prod.snd

theorem nodup_keys (m : Map κ ν) : m.keys.Nodup := m.nodup

/-- The map without the entries that fail `keep`. -/
def filter (m : Map κ ν) (keep : κ → ν → Bool) : Map κ ν where
  entries := m.entries.filter fun entry => keep entry.1 entry.2
  nodup := List.Nodup.sublist (List.Sublist.map Prod.fst List.filter_sublist) m.nodup

/-- The map with every value changed. -/
def mapValues (m : Map κ ν) (update : ν → ν) : Map κ ν where
  entries := m.entries.map fun entry => (entry.1, update entry.2)
  nodup := by
    rw [List.map_map]
    exact m.nodup

/-- With distinct keys, two entries under one key are the same entry. -/
theorem eq_of_mem_entries {m : Map κ ν} {k : κ} {v v' : ν}
    (h : (k, v) ∈ m.entries) (h' : (k, v') ∈ m.entries) : v = v' := by
  have hinj := List.inj_on_of_nodup_map m.nodup h h' rfl
  exact congrArg Prod.snd hinj

theorem mem_keys_of_mem_entries {m : Map κ ν} {k : κ} {v : ν}
    (h : (k, v) ∈ m.entries) : k ∈ m.keys :=
  List.mem_map.mpr ⟨(k, v), h, rfl⟩

variable [DecidableEq κ]

/-- `get(key)`; `none` is `undefined`. -/
def get (m : Map κ ν) (key : κ) : Option ν :=
  (m.entries.find? fun entry => decide (entry.1 = key)).map Prod.snd

/-- `has(key)`. -/
def has (m : Map κ ν) (key : κ) : Bool := (m.get key).isSome

/-- The entries after `set(key, value)`. -/
def setEntries (key : κ) (value : ν) : List (κ × ν) → List (κ × ν)
  | [] => [(key, value)]
  | entry :: rest =>
    if entry.1 = key then (key, value) :: rest
    else entry :: setEntries key value rest

theorem map_fst_setEntries (key : κ) (value : ν) (l : List (κ × ν)) :
    (setEntries key value l).map Prod.fst
      = if key ∈ l.map Prod.fst then l.map Prod.fst
        else l.map Prod.fst ++ [key] := by
  induction l with
  | nil => simp [setEntries]
  | cons entry rest ih =>
    rw [setEntries]
    split_ifs with h hmem hmem
    · simp [h]
    · exact absurd (by simp [h]) hmem
    · rw [List.map_cons, ih, if_pos]
      · rfl
      · rw [List.map_cons, List.mem_cons] at hmem
        rcases hmem with he | hr
        · exact absurd he.symm h
        · exact hr
    · rw [List.map_cons, ih, if_neg]
      · rfl
      · intro hr
        exact hmem (List.mem_cons_of_mem _ hr)

/-- `set(key, value)`. -/
def set (m : Map κ ν) (key : κ) (value : ν) : Map κ ν where
  entries := setEntries key value m.entries
  nodup := by
    rw [map_fst_setEntries]
    split_ifs with h
    · exact m.nodup
    · exact List.nodup_append.mpr ⟨m.nodup, by simp, by
        intro a ha b hb hab
        rw [List.mem_singleton.mp hb] at hab
        exact h (hab ▸ ha)⟩

/-- `delete(key)`. -/
def delete (m : Map κ ν) (key : κ) : Map κ ν :=
  m.filter fun k _ => decide (k ≠ key)

/-! ## `get` and the entries -/

/-- The entries are the graph of `get`. -/
theorem mem_entries_iff {m : Map κ ν} {k : κ} {v : ν} :
    (k, v) ∈ m.entries ↔ m.get k = some v := by
  unfold get
  constructor
  · intro h
    cases hf : m.entries.find? fun entry => decide (entry.1 = k) with
    | none =>
      rw [List.find?_eq_none] at hf
      exact absurd (by simp) (hf (k, v) h)
    | some entry =>
      have hk : entry.1 = k := by simpa using List.find?_some hf
      have hmem : (k, entry.2) ∈ m.entries := hk ▸ List.mem_of_find?_eq_some hf
      rw [Option.map_some, eq_of_mem_entries h hmem]
  · intro h
    obtain ⟨entry, hf, hv⟩ := Option.map_eq_some_iff.mp h
    have hk : entry.1 = k := by simpa using List.find?_some hf
    rw [← hk, ← hv]
    exact List.mem_of_find?_eq_some hf

theorem mem_keys_iff {m : Map κ ν} {k : κ} : k ∈ m.keys ↔ ∃ v, m.get k = some v := by
  constructor
  · intro h
    obtain ⟨⟨k', v⟩, hmem, rfl⟩ := List.mem_map.mp h
    exact ⟨v, mem_entries_iff.mp hmem⟩
  · rintro ⟨v, hv⟩
    exact mem_keys_of_mem_entries (mem_entries_iff.mpr hv)

theorem mem_values_iff {m : Map κ ν} {v : ν} : v ∈ m.values ↔ ∃ k, m.get k = some v := by
  constructor
  · intro h
    obtain ⟨⟨k, v'⟩, hmem, rfl⟩ := List.mem_map.mp h
    exact ⟨k, mem_entries_iff.mp hmem⟩
  · rintro ⟨k, hk⟩
    exact List.mem_map.mpr ⟨(k, v), mem_entries_iff.mpr hk, rfl⟩

theorem has_iff {m : Map κ ν} {k : κ} : m.has k = true ↔ ∃ v, m.get k = some v := by
  rw [has, Option.isSome_iff_exists]

theorem has_iff_mem_keys {m : Map κ ν} {k : κ} : m.has k = true ↔ k ∈ m.keys := by
  rw [has_iff, mem_keys_iff]

theorem has_eq_false_iff {m : Map κ ν} {k : κ} : m.has k = false ↔ m.get k = none := by
  rw [has, Option.isSome_eq_false_iff, Option.isNone_iff_eq_none]

theorem has_of_get {m : Map κ ν} {k : κ} {v : ν} (h : m.get k = some v) :
    m.has k = true :=
  has_iff.mpr ⟨v, h⟩

/-- With distinct keys, one entry at most stands under a key. -/
theorem filter_entries {m : Map κ ν} {k : κ} {v : ν} (h : m.get k = some v) :
    (m.entries.filter fun entry => decide (entry.1 = k)) = [(k, v)] := by
  have hmem : (k, v) ∈ m.entries.filter fun entry => decide (entry.1 = k) :=
    List.mem_filter.mpr ⟨mem_entries_iff.mpr h, decide_eq_true rfl⟩
  have hsame : ∀ entry ∈ m.entries.filter fun entry => decide (entry.1 = k),
      entry = (k, v) := by
    rintro ⟨k', v'⟩ hentry
    obtain ⟨hin, hkey⟩ := List.mem_filter.mp hentry
    obtain rfl : k' = k := of_decide_eq_true hkey
    have hv : m.get k' = some v' := mem_entries_iff.mp hin
    rw [Option.some.inj (hv.symm.trans h)]
  have hnodup : (m.entries.filter fun entry => decide (entry.1 = k)).Nodup :=
    (List.Nodup.of_map Prod.fst m.nodup).filter _
  have hrep := List.eq_replicate_of_mem hsame
  have hpos := List.length_pos_of_mem hmem
  rw [hrep] at hnodup
  have hle := List.nodup_replicate.mp hnodup
  rw [hrep, Nat.le_antisymm hle hpos]
  rfl

/-- A map without keys is empty. -/
theorem eq_empty_of_has {m : Map κ ν} (h : ∀ k, m.has k = false) : m = empty := by
  apply ext
  show m.entries = []
  rw [List.eq_nil_iff_forall_not_mem]
  intro entry hentry
  have hget : m.get entry.1 = some entry.2 := mem_entries_iff.mp hentry
  have hhas := has_of_get hget
  rw [h entry.1] at hhas
  cases hhas

/-! ## What the operations do to `get` -/

@[simp]
theorem get_empty (k : κ) : (empty : Map κ ν).get k = none := rfl

private theorem find?_setEntries (key k : κ) (value : ν) (l : List (κ × ν)) :
    ((setEntries key value l).find? fun entry => decide (entry.1 = k)).map Prod.snd
      = if k = key then some value
        else (l.find? fun entry => decide (entry.1 = k)).map Prod.snd := by
  induction l with
  | nil =>
    by_cases h : key = k
    · simp [setEntries, h]
    · simp [setEntries, h, Ne.symm h]
  | cons entry rest ih =>
    rw [setEntries]
    by_cases he : entry.1 = key
    · by_cases h : key = k
      · simp [he, h]
      · simp [he, h, Ne.symm h]
    · rw [if_neg he]
      by_cases hk : entry.1 = k
      · have hne : k ≠ key := fun h => he (hk.trans h)
        simp [hk, hne]
      · simpa [hk] using ih

theorem get_set (m : Map κ ν) (key k : κ) (value : ν) :
    (m.set key value).get k = if k = key then some value else m.get k :=
  find?_setEntries key k value m.entries

@[simp]
theorem get_set_self (m : Map κ ν) (key : κ) (value : ν) :
    (m.set key value).get key = some value := by
  rw [get_set, if_pos rfl]

theorem get_set_of_ne (m : Map κ ν) {key k : κ} (value : ν) (h : k ≠ key) :
    (m.set key value).get k = m.get k := by
  rw [get_set, if_neg h]

private theorem setEntries_setEntries (key : κ) (value value' : ν) (l : List (κ × ν)) :
    setEntries key value' (setEntries key value l) = setEntries key value' l := by
  induction l with
  | nil => simp [setEntries]
  | cons entry rest ih =>
    by_cases h : entry.1 = key
    · simp [setEntries, h]
    · simp [setEntries, h, ih]

theorem length_set (m : Map κ ν) (key : κ) (value : ν) :
    (m.set key value).entries.length ≤ m.entries.length + 1 := by
  show (setEntries key value m.entries).length ≤ _
  induction m.entries with
  | nil => exact Nat.le_refl _
  | cons entry rest ih =>
    rw [setEntries]
    split_ifs
    · exact Nat.le_succ _
    · simp only [List.length_cons]
      omega

theorem set_set (m : Map κ ν) (key : κ) (value value' : ν) :
    (m.set key value).set key value' = m.set key value' :=
  ext (setEntries_setEntries key value value' m.entries)

theorem get_filter_eq_some_iff {m : Map κ ν} {keep : κ → ν → Bool} {k : κ} {v : ν} :
    (m.filter keep).get k = some v ↔ m.get k = some v ∧ keep k v = true := by
  rw [← mem_entries_iff, ← mem_entries_iff]
  exact List.mem_filter

theorem get_mapValues (m : Map κ ν) (update : ν → ν) (k : κ) :
    (m.mapValues update).get k = (m.get k).map update := by
  simp only [get, mapValues, List.find?_map, Option.map_map]
  rfl

theorem get_delete (m : Map κ ν) (key k : κ) :
    (m.delete key).get k = if k = key then none else m.get k := by
  ext v
  rw [delete, get_filter_eq_some_iff]
  split_ifs with h
  · simp [h]
  · simp [h]

@[simp]
theorem get_delete_self (m : Map κ ν) (key : κ) : (m.delete key).get key = none := by
  rw [get_delete, if_pos rfl]

theorem get_delete_of_ne (m : Map κ ν) {key k : κ} (h : k ≠ key) :
    (m.delete key).get k = m.get k := by
  rw [get_delete, if_neg h]

private theorem setEntries_eq_self {key : κ} {value : ν} {l : List (κ × ν)}
    (h : (l.find? fun entry => decide (entry.1 = key)).map Prod.snd = some value) :
    setEntries key value l = l := by
  induction l with
  | nil => cases h
  | cons entry rest ih =>
    rw [setEntries]
    split_ifs with hk
    · have hvalue : entry.2 = value := by simpa [hk] using h
      rw [← hk, ← hvalue]
    · rw [ih (by simpa [hk] using h)]

/-- Setting what is there already changes nothing. -/
theorem set_eq_self {m : Map κ ν} {key : κ} {value : ν} (h : m.get key = some value) :
    m.set key value = m :=
  ext (setEntries_eq_self h)

/-- Deleting what is not there changes nothing. -/
theorem delete_eq_self {m : Map κ ν} {key : κ} (h : m.has key = false) : m.delete key = m := by
  refine ext (List.filter_eq_self.mpr fun entry hentry => decide_eq_true fun he => ?_)
  have hget := mem_entries_iff.mp hentry
  rw [he, has_eq_false_iff.mp h] at hget
  cases hget

theorem has_set (m : Map κ ν) (key k : κ) (value : ν) :
    (m.set key value).has k = (decide (k = key) || m.has k) := by
  rw [has, has, get_set]
  split_ifs with h <;> simp [h]

theorem has_delete (m : Map κ ν) (key k : κ) :
    (m.delete key).has k = (decide (k ≠ key) && m.has k) := by
  rw [has, has, get_delete]
  split_ifs with h <;> simp [h]

/-- Deleting keys one after the other. -/
theorem foldl_delete (keys : List κ) (m : Map κ ν) :
    keys.foldl delete m = m.filter fun k _ => decide (k ∉ keys) := by
  induction keys generalizing m with
  | nil => exact ext (List.filter_eq_self.mpr fun _ _ => rfl).symm
  | cons key keys ih =>
    rw [List.foldl_cons, ih]
    refine ext ?_
    show (m.entries.filter _).filter _ = m.entries.filter _
    rw [List.filter_filter]
    refine List.filter_congr fun entry _ => ?_
    by_cases h : entry.1 = key
    · simp [h]
    · simp [h]

/-- Setting the entries of a map in another one. -/
theorem get_foldl_set (m m' : Map κ ν) (key : κ) :
    (m'.entries.foldl (fun m entry => m.set entry.1 entry.2) m).get key =
      (m'.get key).or (m.get key) := by
  obtain ⟨entries, hnodup⟩ := m'
  induction entries generalizing m with
  | nil => simp [get]
  | cons entry entries ih =>
    obtain ⟨hentry, hrest⟩ := List.nodup_cons.mp hnodup
    rw [List.foldl_cons, ih _ hrest]
    by_cases hkey : entry.1 = key
    · subst hkey
      have hnone : get ⟨entries, hrest⟩ entry.1 = none := by
        apply has_eq_false_iff.mp
        rw [← Bool.not_eq_true, has_iff_mem_keys]
        exact hentry
      have hsome : get ⟨entry :: entries, hnodup⟩ entry.1 = some entry.2 := by simp [get]
      rw [hnone, hsome, get_set_self]
      rfl
    · have hcons : get ⟨entry :: entries, hnodup⟩ key = get ⟨entries, hrest⟩ key := by
        simp [get, hkey]
      rw [hcons, get_set_of_ne _ _ (Ne.symm hkey)]

theorem mem_values_set {m : Map κ ν} {key : κ} {value v : ν}
    (h : v ∈ (m.set key value).values) : v = value ∨ v ∈ m.values := by
  obtain ⟨k, hk⟩ := mem_values_iff.mp h
  rw [get_set] at hk
  split_ifs at hk with he
  · exact Or.inl (Option.some.inj hk).symm
  · exact Or.inr (mem_values_iff.mpr ⟨k, hk⟩)

end Map

end JsStd
