import Mathlib.Data.List.Destutter
import Mathlib.Data.List.Sort

/-!
# Sorting by a key

What a query returns in the order of a column. Where the keys are distinct, the result depends on
the items only; and two keys give the same result exactly when they order the items alike.
-/

namespace NexusCore.Lib

variable {α β κ μ : Type} [LinearOrder κ] [LinearOrder μ] {key : α → κ} {other : α → μ}
  {items items' : List α}

/-- The items in the order of a key. -/
def sortBy (key : α → κ) (items : List α) : List α :=
  items.insertionSort fun a b => key a ≤ key b

theorem sortBy_perm (key : α → κ) (items : List α) : (sortBy key items).Perm items :=
  List.perm_insertionSort _ items

theorem pairwise_sortBy (key : α → κ) (items : List α) :
    (sortBy key items).Pairwise fun a b => key a ≤ key b := by
  have total : Std.Total fun a b : α => key a ≤ key b := ⟨fun a b => le_total (key a) (key b)⟩
  have transitive : IsTrans α fun a b => key a ≤ key b := ⟨fun _ _ _ => le_trans⟩
  exact List.pairwise_insertionSort _ items

theorem sortBy_eq_self (sorted : items.Pairwise fun a b => key a ≤ key b) :
    sortBy key items = items :=
  sorted.insertionSort_eq

/-- Of two elements of a list, one stands before the other. -/
theorem pairwise_or {R : α → α → Prop} (pairwise : items.Pairwise R) {a b : α} (left : a ∈ items)
    (right : b ∈ items) (apart : a ≠ b) : R a b ∨ R b a := by
  induction items with
  | nil => simp at left
  | cons c rest ih =>
    rw [List.pairwise_cons] at pairwise
    rcases List.mem_cons.1 left with rfl | left'
    · rcases List.mem_cons.1 right with rfl | right'
      · exact absurd rfl apart
      · exact .inl (pairwise.1 b right')
    · rcases List.mem_cons.1 right with rfl | right'
      · exact .inr (pairwise.1 a left')
      · exact ih pairwise.2 left' right'

/-- With distinct keys, items in another order are sorted alike. -/
theorem sortBy_eq_of_perm (distinct : (items.map key).Nodup) (perm : items.Perm items') :
    sortBy key items = sortBy key items' := by
  have rearranged : (sortBy key items).Perm (sortBy key items') :=
    (sortBy_perm key items).trans (perm.trans (sortBy_perm key items').symm)
  refine List.Perm.eq_of_pairwise ?_ (pairwise_sortBy key items) (pairwise_sortBy key items')
    rearranged
  intro a b left right up down
  have left' : a ∈ items := (sortBy_perm key items).subset left
  have right' : b ∈ items := perm.symm.subset ((sortBy_perm key items').subset right)
  exact List.inj_on_of_nodup_map distinct left' right' (le_antisymm up down)

/-- With distinct keys, another sort by the key has the same result. -/
theorem mergeSort_eq_sortBy (distinct : (items.map key).Nodup) :
    (items.mergeSort fun a b => decide (key a ≤ key b)) = sortBy key items := by
  have trans (a b c : α) (ab : decide (key a ≤ key b) = true) (bc : decide (key b ≤ key c) = true) :
      decide (key a ≤ key c) = true := by
    rw [decide_eq_true_eq] at ab bc ⊢
    exact le_trans ab bc
  have total (a b : α) : (decide (key a ≤ key b) || decide (key b ≤ key a)) = true := by
    simpa using le_total (key a) (key b)
  have sorted := (List.pairwise_mergeSort trans total items).imp fun up => of_decide_eq_true up
  rw [← sortBy_eq_self sorted]
  exact (sortBy_eq_of_perm distinct (List.mergeSort_perm items _).symm).symm

/-- A list in increasing order that reads the same from its end has one element at most. -/
theorem length_le_one_of_reverse (sorted : items.Pairwise fun a b => key a ≤ key b)
    (distinct : (items.map key).Nodup) (same : items.reverse = items) : items.length ≤ 1 := by
  have down : items.Pairwise fun a b => key b ≤ key a := by
    rw [← List.pairwise_reverse, same]
    exact sorted
  cases items with
  | nil => exact Nat.zero_le 1
  | cons a rest =>
    cases rest with
    | nil => exact le_rfl
    | cons b rest =>
      have up := (List.pairwise_cons.1 sorted).1 b (by simp)
      have down := (List.pairwise_cons.1 down).1 b (by simp)
      rw [List.map_cons, List.nodup_cons] at distinct
      have alike := le_antisymm up down
      exact absurd (by simp [alike]) distinct.1

/-- Two keys sort alike exactly when they order the items alike. -/
theorem sortBy_eq_iff (distinct : (items.map key).Nodup) (distinct' : (items.map other).Nodup) :
    sortBy key items = sortBy other items ↔
      ∀ a ∈ items, ∀ b ∈ items, key a ≤ key b → other a ≤ other b := by
  have sorted := pairwise_sortBy key items
  constructor
  · intro same a left b right up
    have sorted' := pairwise_sortBy other items
    rw [← same] at sorted'
    by_cases apart : a = b
    · rw [apart]
    · have left' := (sortBy_perm key items).symm.subset left
      have right' := (sortBy_perm key items).symm.subset right
      rcases pairwise_or (sorted.and sorted') left' right' apart with before | after
      · exact before.2
      · exact absurd (List.inj_on_of_nodup_map distinct left right (le_antisymm up after.1)) apart
  · intro alike
    have also : (sortBy key items).Pairwise fun a b => other a ≤ other b := by
      refine sorted.imp_of_mem ?_
      intro a b left right up
      exact alike a ((sortBy_perm key items).subset left) b
        ((sortBy_perm key items).subset right) up
    rw [sortBy_eq_of_perm distinct' (sortBy_perm key items).symm]
    exact (sortBy_eq_self also).symm

/-- Sorting goes through a map that keeps the key. -/
theorem map_sortBy (f : α → β) (key : β → κ) (items : List α) :
    (sortBy (fun a => key (f a)) items).map f = sortBy key (items.map f) :=
  List.map_insertionSort _ _ f items fun _ _ _ _ => Iff.rfl

section Distinct

/-- The elements in order, each once: of equal neighbours one is left. -/
def sortDistinct (items : List κ) : List κ := (sortBy id items).destutter (· ≠ ·)

theorem mem_destutter' {a b : κ} {items : List κ} :
    a ∈ items.destutter' (· ≠ ·) b ↔ a = b ∨ a ∈ items := by
  induction items generalizing b with
  | nil => simp
  | cons c rest ih =>
    rw [List.destutter'_cons]
    split_ifs with other
    · rw [List.mem_cons, ih, List.mem_cons]
    · have same : b = c := not_not.1 other
      rw [ih, List.mem_cons, same]
      grind

@[simp] theorem mem_sortDistinct {a : κ} {items : List κ} : a ∈ sortDistinct items ↔ a ∈ items := by
  rw [← (sortBy_perm id items).mem_iff, sortDistinct]
  cases sortBy id items with
  | nil => rfl
  | cons b rest => rw [List.destutter_cons', mem_destutter', List.mem_cons]

theorem pairwise_sortDistinct (items : List κ) : (sortDistinct items).Pairwise (· < ·) := by
  have ordered : (sortDistinct items).Pairwise (· ≤ ·) :=
    (pairwise_sortBy id items).sublist (List.destutter_sublist _ _)
  have apart : (sortDistinct items).IsChain (· ≠ ·) := List.isChain_destutter _ _
  refine List.IsChain.pairwise ?_
  generalize sortDistinct items = result at ordered apart
  induction result with
  | nil => exact .nil
  | cons a rest ih =>
    cases rest with
    | nil => exact .singleton a
    | cons b rest =>
      rw [List.isChain_cons_cons] at apart ⊢
      have up := (List.pairwise_cons.1 ordered).1 b (by simp)
      exact ⟨lt_of_le_of_ne up apart.1, ih (List.pairwise_cons.1 ordered).2 apart.2⟩

end Distinct

end NexusCore.Lib
