import Mathlib.Algebra.BigOperators.Group.List.Basic
import Mathlib.Algebra.Order.Group.Multiset
import Mathlib.Data.Finmap
import Mathlib.Data.List.AList
import Mathlib.Tactic.Abel

/-!
# Accounting over keyed maps

`total f m` adds up a weight over the values of a finite map. With weights in
`Multiset γ` it collects what the map stores, with weights in `ℕ` it counts.
Each map operation moves a known weight, so conservation arguments over several
maps are reduced to arithmetic in a commutative monoid. What a lookup finds after an
operation was put there by it or found before.
-/

namespace NexusCore.Lib

variable {κ β M : Type} [DecidableEq κ] [AddCommMonoid M]

section Lookups

variable {m : AList fun _ : κ => β} {k key : κ} {b value : β}

/-- What is found after an insertion is the new value, or was there under another key. -/
theorem of_lookup_insert (found : (m.insert k b).lookup key = some value) :
    key = k ∧ value = b ∨ key ≠ k ∧ m.lookup key = some value := by
  by_cases same : key = k
  · rw [same, AList.lookup_insert] at found
    exact .inl ⟨same, (Option.some.inj found).symm⟩
  · rw [AList.lookup_insert_ne same] at found
    exact .inr ⟨same, found⟩

/-- What is found after a removal was there under another key. -/
theorem of_lookup_erase (found : (m.erase k).lookup key = some value) :
    key ≠ k ∧ m.lookup key = some value := by
  by_cases same : key = k
  · rw [same, AList.lookup_erase] at found
    cases found
  · rw [AList.lookup_erase_ne same] at found
    exact ⟨same, found⟩

end Lookups

/-- The sum of the weights of the values stored in a map. -/
def total (f : β → M) (m : AList fun _ : κ => β) : M :=
  (m.entries.map fun e => f e.2).sum

omit [DecidableEq κ] in
@[simp] theorem total_empty (f : β → M) : total f (∅ : AList fun _ : κ => β) = 0 := rfl

/-- Summing over the entries with one key set aside. -/
private theorem sum_kerase {f : β → M} {k : κ} {b : β} {l : List (Sigma fun _ : κ => β)}
    (h : l.dlookup k = some b) :
    (l.map fun e => f e.2).sum = f b + ((l.kerase k).map fun e => f e.2).sum := by
  induction l with
  | nil => simp at h
  | cons e l ih =>
    obtain ⟨k', b'⟩ := e
    by_cases hk : k = k'
    · subst hk
      have hb : b' = b := by simpa [List.dlookup_cons_eq] using h
      simp [hb]
    · have rest : l.dlookup k = some b := by rwa [List.dlookup_cons_ne l ⟨k', b'⟩ hk] at h
      rw [List.kerase_cons_ne hk]
      simp only [List.map_cons, List.sum_cons, ih rest]
      exact add_left_comm _ _ _

/-- Removing a key removes the weight of its value. -/
theorem total_erase {f : β → M} {m : AList fun _ : κ => β} {k : κ} {b : β}
    (h : m.lookup k = some b) : total f m = f b + total f (m.erase k) :=
  sum_kerase h

theorem erase_of_lookup_eq_none {m : AList fun _ : κ => β} {k : κ}
    (h : m.lookup k = none) : m.erase k = m := by
  apply AList.ext
  exact List.kerase_of_notMem_keys fun hk => AList.lookup_eq_none.1 h hk

/-- Inserting a value adds its weight to what the other keys weigh. -/
theorem total_insert (f : β → M) (m : AList fun _ : κ => β) (k : κ) (b : β) :
    total f (m.insert k b) = f b + total f (m.erase k) := by
  simp [total, AList.entries_insert, AList.erase]

theorem total_insert_of_eq_none {f : β → M} {m : AList fun _ : κ => β} {k : κ} {b : β}
    (h : m.lookup k = none) : total f (m.insert k b) = f b + total f m := by
  rw [total_insert, erase_of_lookup_eq_none h]

/-- Replacing a value exchanges the weights of the old and the new one. -/
theorem total_insert_of_eq_some {f : β → M} {m : AList fun _ : κ => β} {k : κ} {b c : β}
    (h : m.lookup k = some b) : f b + total f (m.insert k c) = f c + total f m := by
  rw [total_insert, total_erase h]
  exact add_left_comm _ _ _

omit [DecidableEq κ] in
/-- In a list with distinct keys, an element is found under its own key. -/
theorem find?_of_nodup {α : Type} [BEq κ] [LawfulBEq κ] {key : α → κ} {items : List α} {a : α}
    (distinct : (items.map key).Nodup) (mem : a ∈ items) :
    items.find? (key · == key a) = some a := by
  induction items with
  | nil => simp at mem
  | cons b rest ih =>
    rw [List.map_cons, List.nodup_cons] at distinct
    rcases List.mem_cons.1 mem with rfl | later
    · simp
    · have other : key b ≠ key a := by
        intro same
        exact distinct.1 (same ▸ List.mem_map_of_mem later)
      rw [List.find?_cons_of_neg (by simpa using other)]
      exact ih distinct.2 later

section Rows

omit [AddCommMonoid M] in
/-- A map built from rows with distinct keys holds the value of each row, and what it held before
under the other keys. -/
theorem mem_lookup_foldl_insert {ρ : Type} (key : ρ → κ) (value : ρ → β) {rows : List ρ}
    (distinct : (rows.map key).Nodup) (m : AList fun _ : κ => β) (k : κ) (v : β) :
    v ∈ (rows.foldl (fun read row => read.insert (key row) (value row)) m).lookup k ↔
      (∃ row ∈ rows, key row = k ∧ value row = v) ∨ (k ∉ rows.map key ∧ v ∈ m.lookup k) := by
  induction rows generalizing m with
  | nil => simp
  | cons row rest ih =>
    rw [List.map_cons, List.nodup_cons] at distinct
    rw [List.foldl_cons, ih distinct.2]
    by_cases here : k = key row
    · subst here
      have absent : ¬ ∃ other ∈ rest, key other = key row ∧ value other = v := by
        intro ⟨other, mem, same, _⟩
        exact distinct.1 (same ▸ List.mem_map_of_mem mem)
      rw [AList.lookup_insert]
      simp only [absent, distinct.1, List.map_cons, List.mem_cons, not_true, false_and,
        not_false_iff, true_and, false_or, or_false, exists_eq_or_imp]
      simp
    · rw [AList.lookup_insert_ne here]
      simp only [List.map_cons, List.mem_cons, here, false_or, exists_eq_or_imp, Ne.symm here,
        false_and]

/-- Replacing the rows of a key leaves the new rows under it. -/
theorem filter_replaced {ρ : Type} (key : ρ → κ) (rows new : List ρ) (id : κ)
    (own : ∀ row ∈ new, key row = id) :
    (rows.filter (key · != id) ++ new).filter (key · == id) = new := by
  have gone : (rows.filter (key · != id)).filter (key · == id) = [] := by
    rw [List.filter_filter, List.filter_eq_nil_iff]
    intro row _
    cases same : key row == id <;> simp [bne, same]
  have kept : new.filter (key · == id) = new := by
    rw [List.filter_eq_self]
    intro row mem
    simp [own row mem]
  rw [List.filter_append, gone, kept, List.nil_append]

/-- Replacing the rows of a key leaves the rows under every other key. -/
theorem filter_replaced_other {ρ : Type} (key : ρ → κ) (rows new : List ρ)
    {id other : κ} (own : ∀ row ∈ new, key row = id) (apart : other ≠ id) :
    (rows.filter (key · != id) ++ new).filter (key · == other) = rows.filter (key · == other) := by
  have none_new : new.filter (key · == other) = [] := by
    rw [List.filter_eq_nil_iff]
    intro row mem
    simp [own row mem, apart.symm]
  rw [List.filter_append, none_new, List.append_nil, List.filter_filter]
  apply List.filter_congr
  intro row _
  by_cases same : key row = other
  · simp [same, apart]
  · simp [same]

/-- The element with a key, set apart from the others. -/
theorem perm_cons_filter {α : Type} (key : α → κ) {items : List α} {a : α}
    (distinct : (items.map key).Nodup) (mem : a ∈ items) :
    items.Perm (a :: items.filter (key · ≠ key a)) := by
  induction items with
  | nil => cases mem
  | cons b rest ih =>
    rw [List.map_cons, List.nodup_cons] at distinct
    rcases List.mem_cons.1 mem with rfl | later
    · have others : rest.filter (key · ≠ key a) = rest := by
        refine List.filter_eq_self.2 fun c there => ?_
        have apart : key c ≠ key a := fun same => distinct.1 (same ▸ List.mem_map_of_mem there)
        simpa using apart
      rw [List.filter_cons_of_neg (by simp), others]
    · have apart : key b ≠ key a := fun same => distinct.1 (same ▸ List.mem_map_of_mem later)
      rw [List.filter_cons_of_pos (by simpa using apart)]
      exact ((ih distinct.2 later).cons b).trans (.swap ..)

/-- Of a list with distinct keys, a filter takes one element away at most. -/
theorem map_le_cons_filter {α γ : Type} {key : α → κ} {items : List α} {k : κ} {f : α → γ} {c : γ}
    (distinct : (items.map key).Nodup) (fits : ∀ a ∈ items, key a = k → f a = c) :
    (↑(items.map f) : Multiset γ) ≤ c ::ₘ ↑((items.filter (key · ≠ k)).map f) := by
  by_cases there : ∃ a ∈ items, key a = k
  · obtain ⟨a, mem, rfl⟩ := there
    have apart := (perm_cons_filter key distinct mem).map f
    rw [List.map_cons, fits a mem rfl] at apart
    exact le_of_eq (Multiset.coe_eq_coe.2 apart)
  · have all : items.filter (key · ≠ k) = items := by
      refine List.filter_eq_self.2 fun a mem => ?_
      simpa using fun same => there ⟨a, mem, same⟩
    rw [all]
    exact Multiset.le_cons_self _ _

end Rows

end NexusCore.Lib
