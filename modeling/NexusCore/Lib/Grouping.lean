import Mathlib.Data.Finset.Card
import Mathlib.Data.Finmap
import Mathlib.Data.List.AList
import NexusCore.Lib.Sorting

/-!
# Grouping by a key

A map that accumulates, under each key, the values that are added for it one after another. What
it holds for a key is the fold over the values of that key alone. When two values can be added in
either order, the whole map does not depend on the order of the pairs.
-/

namespace NexusCore.Lib

variable {κ ν β : Type} [DecidableEq κ] {step : β → ν → β} {empty : β} {pairs pairs' : List (κ × ν)}

/-- Adds a value to what is held for a key. -/
def addTo (step : β → ν → β) (empty : β) (m : AList fun _ : κ => β) (k : κ) (v : ν) :
    AList fun _ : κ => β :=
  m.insert k (step ((m.lookup k).getD empty) v)

/-- All pairs added in turn. -/
def grouped (step : β → ν → β) (empty : β) (pairs : List (κ × ν)) : AList fun _ : κ => β :=
  pairs.foldl (fun m p => addTo step empty m p.1 p.2) ∅

/-- The values of a key. -/
def valuesOf (k : κ) (pairs : List (κ × ν)) : List ν :=
  (pairs.filter (·.1 = k)).map (·.2)

@[simp] theorem valuesOf_nil (k : κ) : valuesOf k ([] : List (κ × ν)) = [] := rfl

@[simp] theorem valuesOf_append (k : κ) (pairs pairs' : List (κ × ν)) :
    valuesOf k (pairs ++ pairs') = valuesOf k pairs ++ valuesOf k pairs' := by
  simp [valuesOf]

theorem valuesOf_singleton (k l : κ) (v : ν) : valuesOf k [(l, v)] = if l = k then [v] else [] := by
  unfold valuesOf
  by_cases same : l = k <;> simp [same]

theorem valuesOf_flatMap {α : Type} (k : κ) (items : List α) (f : α → List (κ × ν)) :
    valuesOf k (items.flatMap f) = items.flatMap fun a => valuesOf k (f a) := by
  induction items with
  | nil => rfl
  | cons a rest ih => rw [List.flatMap_cons, valuesOf_append, ih, List.flatMap_cons]

theorem valuesOf_map_values {μ : Type} (f : ν → μ) (k : κ) :
    valuesOf k (pairs.map fun p => (p.1, f p.2)) = (valuesOf k pairs).map f := by
  unfold valuesOf
  rw [List.filter_map, List.map_map, List.map_map]
  rfl

theorem mem_valuesOf {k : κ} {v : ν} : v ∈ valuesOf k pairs ↔ (k, v) ∈ pairs := by
  unfold valuesOf
  constructor
  · intro mem
    obtain ⟨⟨l, w⟩, held, rfl⟩ := List.mem_map.1 mem
    obtain ⟨held, same⟩ := List.mem_filter.1 held
    have same : l = k := by simpa using same
    exact same ▸ held
  · intro mem
    exact List.mem_map.2 ⟨(k, v), List.mem_filter.2 ⟨mem, by simp⟩, rfl⟩

theorem valuesOf_perm (perm : pairs.Perm pairs') (k : κ) :
    (valuesOf k pairs).Perm (valuesOf k pairs') :=
  (perm.filter _).map _

theorem grouped_snoc (p : κ × ν) :
    grouped step empty (pairs ++ [p]) = addTo step empty (grouped step empty pairs) p.1 p.2 := by
  simp [grouped]

/-- The map holds something for the keys of the pairs. -/
theorem mem_grouped {k : κ} : k ∈ grouped step empty pairs ↔ k ∈ pairs.map (·.1) := by
  induction pairs using List.reverseRecOn with
  | nil => simp [grouped]
  | append_singleton rest p ih => simp [grouped_snoc, addTo, ih, or_comm]

/-- The fold over the values of a key alone. -/
theorem getD_grouped (k : κ) :
    ((grouped step empty pairs).lookup k).getD empty = (valuesOf k pairs).foldl step empty := by
  induction pairs using List.reverseRecOn with
  | nil => simp [grouped]
  | append_singleton rest p ih =>
    obtain ⟨l, v⟩ := p
    rw [grouped_snoc, valuesOf_append, valuesOf_singleton, List.foldl_append, ← ih, addTo]
    by_cases same : l = k
    · subst same
      simp
    · simp [same, AList.lookup_insert_ne (Ne.symm same)]

theorem mem_lookup_grouped {k : κ} {b : β} :
    b ∈ (grouped step empty pairs).lookup k ↔
      k ∈ pairs.map (·.1) ∧ (valuesOf k pairs).foldl step empty = b := by
  have present : k ∈ grouped step empty pairs ↔ k ∈ pairs.map (·.1) := mem_grouped
  rw [← present, ← getD_grouped, ← AList.lookup_isSome]
  cases held : (grouped step empty pairs).lookup k <;> simp [eq_comm]

/-- The entries of two maps agree up to their order when the folds do. -/
theorem entries_grouped_perm (keys : ∀ k, k ∈ pairs.map (·.1) ↔ k ∈ pairs'.map (·.1))
    (same : ∀ k, (valuesOf k pairs).foldl step empty = (valuesOf k pairs').foldl step empty) :
    (grouped step empty pairs).entries.Perm (grouped step empty pairs').entries := by
  refine List.lookup_ext (AList.nodupKeys _) (AList.nodupKeys _) fun k b => ?_
  have right : b ∈ (grouped step empty pairs').lookup k ↔
      k ∈ pairs'.map (·.1) ∧ (valuesOf k pairs').foldl step empty = b := mem_lookup_grouped
  rw [← same k, ← keys k] at right
  exact mem_lookup_grouped.trans right.symm

/-- What is accumulated in any order is the same for pairs in any order. -/
theorem entries_grouped_perm_of_comm (comm : ∀ b v w, step (step b v) w = step (step b w) v)
    (perm : pairs.Perm pairs') :
    (grouped step empty pairs).entries.Perm (grouped step empty pairs').entries := by
  refine entries_grouped_perm (fun k => (perm.map _).mem_iff) fun k => ?_
  have rightComm : RightCommutative step := ⟨comm⟩
  exact (valuesOf_perm perm k).foldl_eq empty

/-! ### The three accumulations: a set, a counter, the last value -/

theorem foldl_insert [DecidableEq ν] (values : List ν) (s : Finset ν) :
    values.foldl (fun s v => insert v s) s = s ∪ values.toFinset := by
  induction values generalizing s with
  | nil => simp
  | cons v rest ih =>
    rw [List.foldl_cons, ih, List.toFinset_cons, Finset.insert_union, Finset.union_insert]

theorem foldl_count (values : List ν) (n : Nat) :
    values.foldl (fun n _ => n + 1) n = n + values.length := by
  induction values generalizing n with
  | nil => simp
  | cons v rest ih => rw [List.foldl_cons, ih, List.length_cons]; omega

theorem foldl_last (values : List ν) (v : ν) :
    values.foldl (fun _ w => w) v = values.getLast?.getD v := by
  induction values using List.reverseRecOn with
  | nil => rfl
  | append_singleton rest w _ => simp

/-- The last element of a concatenation is the last element of one of its parts. -/
theorem getLast?_flatMap {α : Type} {items : List α} {f : α → List ν} {v : ν}
    (last : v ∈ (items.flatMap f).getLast?) : ∃ a ∈ items, v ∈ (f a).getLast? := by
  induction items using List.reverseRecOn with
  | nil => simp at last
  | append_singleton rest a ih =>
    rw [List.flatMap_append, List.flatMap_singleton, List.getLast?_append] at last
    cases own : (f a).getLast? with
    | some w =>
      rw [own] at last
      exact ⟨a, by simp, by simpa [own] using last⟩
    | none =>
      rw [own] at last
      obtain ⟨b, mem, here⟩ := ih (by simpa using last)
      exact ⟨b, by simp [mem], here⟩

/-! ### The entries in the order of the keys -/

section Sorted

variable [LinearOrder κ] {m m' : AList fun _ : κ => β}

/-- The entries of a map in the order of its keys. -/
def sortedEntries (m : AList fun _ : κ => β) : List (Sigma fun _ : κ => β) :=
  sortBy (·.1) m.entries

theorem mem_sortedEntries {e : Sigma fun _ : κ => β} :
    e ∈ sortedEntries m ↔ e.2 ∈ m.lookup e.1 := by
  rw [AList.mem_lookup_iff]
  exact (sortBy_perm _ _).mem_iff

omit [DecidableEq κ] in
theorem sortedEntries_eq_of_perm (perm : m.entries.Perm m'.entries) :
    sortedEntries m = sortedEntries m' :=
  sortBy_eq_of_perm m.nodupKeys perm

end Sorted

end NexusCore.Lib
