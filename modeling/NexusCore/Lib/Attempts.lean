import Mathlib.Algebra.Order.BigOperators.Group.Multiset
import Mathlib.Algebra.Order.BigOperators.Group.Finset
import Mathlib.Order.Interval.Finset.Nat
import Mathlib.Tactic.Ring

/-!
# Counting attempts

Things are tried with the number of an attempt. A first attempt needs a thing that comes in, and a
later attempt needs one that has failed. Then a thing is tried under every number at most as often
as it has come in.
-/

namespace NexusCore.Lib

variable {α : Type} {tried failed : Multiset (α × Nat)} {fresh : Multiset α}

/-- The attempt after one that has failed. -/
def following (attempt : α × Nat) : α × Nat := (attempt.1, attempt.2 + 1)

theorem following_injective : Function.Injective (following : α × Nat → α × Nat) := by
  intro x y same
  obtain ⟨first, second⟩ := Prod.mk.inj same
  exact Prod.ext first (Nat.succ.inj second)

/-- Every attempt is the first one of something that comes in, or follows one that has failed. -/
structure Attempted (tried failed : Multiset (α × Nat)) (fresh : Multiset α) : Prop where
  source : tried ≤ fresh.map (·, 1) + failed.map following
  failures : failed ≤ tried

namespace Attempted

/-- An attempt is the first one or follows one that has failed. -/
theorem first_or_following (attempted : Attempted tried failed fresh) {a : α} {k : Nat}
    (mem : (a, k) ∈ tried) : k = 1 ∨ ∃ j, k = j + 1 ∧ (a, j) ∈ failed := by
  rcases Multiset.mem_add.1 (Multiset.mem_of_le attempted.source mem) with first | later
  · obtain ⟨b, -, same⟩ := Multiset.mem_map.1 first
    exact .inl (Prod.mk.inj same).2.symm
  · obtain ⟨⟨b, j⟩, there, same⟩ := Multiset.mem_map.1 later
    obtain ⟨rfl, rfl⟩ := Prod.mk.inj same
    exact .inr ⟨j, rfl, there⟩

theorem positive (attempted : Attempted tried failed fresh) {a : α} {k : Nat}
    (mem : (a, k) ∈ tried) : 1 ≤ k := by
  obtain rfl | ⟨j, rfl, -⟩ := attempted.first_or_following mem
  · exact le_rfl
  · exact Nat.le_add_left 1 j

variable [DecidableEq α]

/-- Something is tried under a number at most as often as it has come in. -/
theorem count_le (attempted : Attempted tried failed fresh) (a : α) (k : Nat) :
    tried.count (a, k) ≤ fresh.count a := by
  have source := fun x => Multiset.count_le_of_le x attempted.source
  have failures := fun x => Multiset.count_le_of_le x attempted.failures
  induction k with
  | zero =>
    have none : (a, 0) ∉ tried := fun mem => absurd (attempted.positive mem) (by omega)
    rw [Multiset.count_eq_zero_of_notMem none]
    exact Nat.zero_le _
  | succ k ih =>
    have bound := source (a, k + 1)
    have follows : (failed.map following).count (a, k + 1) = failed.count (a, k) :=
      Multiset.count_map_eq_count' following failed following_injective (a, k)
    rw [Multiset.count_add, follows] at bound
    cases k with
    | zero =>
      have none : (a, 0) ∉ failed := fun mem =>
        absurd (attempted.positive (Multiset.mem_of_le attempted.failures mem)) (by omega)
      have first : (fresh.map (·, 1)).count (a, 1) = fresh.count a :=
        Multiset.count_map_eq_count' (·, 1) fresh (Prod.mk_left_injective 1) a
      rw [zero_add, Multiset.count_eq_zero_of_notMem none, first] at bound
      exact bound
    | succ k =>
      have later : (a, k + 1 + 1) ∉ fresh.map (·, 1) := by
        intro mem
        obtain ⟨b, -, same⟩ := Multiset.mem_map.1 mem
        have number := (Prod.mk.inj same).2
        omega
      rw [Multiset.count_eq_zero_of_notMem later, zero_add] at bound
      exact bound.trans ((failures _).trans ih)

/-- With numbers up to a limit, something is tried at most as often as the limit allows for each
time that it has come in. -/
theorem count_fst_le (attempted : Attempted tried failed fresh) {a : α} {limit : Nat}
    (within : ∀ k, (a, k) ∈ tried → k ≤ limit) :
    (tried.map Prod.fst).count a ≤ limit * fresh.count a := by
  have same : (tried.map Prod.fst).count a = (tried.filter (a = ·.1)).card :=
    Multiset.count_map Prod.fst tried a
  have inside : (tried.filter (a = ·.1)).toFinset ⊆ (Finset.Icc 1 limit).image (a, ·) := by
    rintro ⟨b, k⟩ mem
    rw [Multiset.mem_toFinset, Multiset.mem_filter] at mem
    obtain ⟨mem, rfl⟩ := mem
    exact Finset.mem_image_of_mem _
      (Finset.mem_Icc.2 ⟨attempted.positive mem, within k mem⟩)
  rw [same, ← Multiset.toFinset_sum_count_eq]
  calc _ ≤ ∑ x ∈ (Finset.Icc 1 limit).image (a, ·), (tried.filter (a = ·.1)).count x :=
        Finset.sum_le_sum_of_subset inside
    _ ≤ ((Finset.Icc 1 limit).image (a, ·)).card • fresh.count a := by
        refine Finset.sum_le_card_nsmul _ _ _ fun x mem => ?_
        obtain ⟨k, -, rfl⟩ := Finset.mem_image.1 mem
        exact (Multiset.count_le_of_le _ (Multiset.filter_le _ _)).trans (attempted.count_le a k)
    _ ≤ limit * fresh.count a := by
        refine Nat.mul_le_mul_right _ (Finset.card_image_le.trans ?_)
        rw [Nat.card_Icc]
        omega

end Attempted

end NexusCore.Lib
