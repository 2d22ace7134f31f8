import Mathlib.Algebra.Order.Group.Abs
import Mathlib.Data.List.Forall2
import Mathlib.Data.List.Sort
import Mathlib.Tactic.Linarith

/-!
# Comparators and pairings

A sort promises an order only for a comparator that is a total preorder on the elements; for any
other one it may give up. Of two sorted lists, the elements at the same places make a pairing that
is as close as any other one.
-/

namespace NexusCore.Lib

section Comparators

variable {α : Type}

/-- A comparator is a total preorder on some values. -/
structure LawfulOn (cmp : α → α → Ordering) (values : List α) : Prop where
  swap : ∀ a ∈ values, ∀ b ∈ values, cmp b a = (cmp a b).swap
  trans : ∀ a ∈ values, ∀ b ∈ values, ∀ c ∈ values,
    cmp a b ≠ .gt → cmp b c ≠ .gt → cmp a c ≠ .gt
  equal : ∀ a ∈ values, ∀ b ∈ values, ∀ c ∈ values,
    cmp a b = .eq → cmp b c = .eq → cmp a c = .eq

/-- What a sort promises: it rearranges, and where the comparator is lawful it ends and the result
is in order. Elsewhere it may give up. -/
structure SortsBy (sort : (α → α → Ordering) → List α → Option (List α)) : Prop where
  perm : ∀ cmp values sorted, sort cmp values = some sorted → sorted.Perm values
  ordered : ∀ cmp values, LawfulOn cmp values →
    ∃ sorted, sort cmp values = some sorted ∧ sorted.Pairwise fun a b => cmp a b ≠ .gt

variable {cmp : α → α → Ordering} {values : List α}

theorem LawfulOn.total (lawful : LawfulOn cmp values) {a b : α} (left : a ∈ values)
    (right : b ∈ values) : cmp a b ≠ .gt ∨ cmp b a ≠ .gt := by
  rw [lawful.swap a left b right]
  cases cmp a b <;> simp

theorem LawfulOn.perm (lawful : LawfulOn cmp values) {others : List α} (perm : others.Perm values) :
    LawfulOn cmp others where
  swap := fun a left b right => lawful.swap a (perm.subset left) b (perm.subset right)
  trans := fun a left b middle c right =>
    lawful.trans a (perm.subset left) b (perm.subset middle) c (perm.subset right)
  equal := fun a left b middle c right =>
    lawful.equal a (perm.subset left) b (perm.subset middle) c (perm.subset right)

theorem lawfulOn_of_eq (equal : ∀ a ∈ values, ∀ b ∈ values, cmp a b = .eq) :
    LawfulOn cmp values := by
  constructor
  · intro a left b right
    rw [equal a left b right, equal b right a left]
    rfl
  · intro a left b _ c right _ _
    rw [equal a left c right]
    decide
  · intro a left b _ c right _ _
    exact equal a left c right

/-- A merge sort orders the values on which its comparator is lawful. -/
theorem LawfulOn.pairwise_mergeSort (lawful : LawfulOn cmp values) :
    (values.mergeSort fun a b => cmp a b != .gt).Pairwise fun a b => cmp a b ≠ .gt := by
  let le := fun a b : { a // a ∈ values } => cmp a.1 b.1 != .gt
  have sorted : (values.attach.mergeSort le).Pairwise fun a b => le a b :=
    List.pairwise_mergeSort (fun a b c => by simpa [le] using lawful.trans a.1 a.2 b.1 b.2 c.1 c.2)
      (fun a b => by simpa [le] using lawful.total a.2 b.2) values.attach
  have same := List.map_mergeSort (f := Subtype.val) (l := values.attach) (r := le)
    (s := fun a b => cmp a b != .gt) fun _ _ _ _ => rfl
  rw [List.attach_map_subtype_val] at same
  rw [← same, List.pairwise_map]
  exact sorted.imp fun before => by simpa [le] using before

/-- Where equal elements are the same, a sort does not depend on the order of its input. -/
theorem SortsBy.eq_of_perm {sort : (α → α → Ordering) → List α → Option (List α)}
    (sorts : SortsBy sort) (lawful : LawfulOn cmp values)
    (same : ∀ a ∈ values, ∀ b ∈ values, cmp a b = .eq → a = b) {others : List α}
    (perm : others.Perm values) : sort cmp others = sort cmp values := by
  obtain ⟨sorted, made, ordered⟩ := sorts.ordered cmp values lawful
  obtain ⟨sorted', made', ordered'⟩ := sorts.ordered cmp others (lawful.perm perm)
  have kept := sorts.perm cmp values sorted made
  have kept' := (sorts.perm cmp others sorted' made').trans perm
  rw [made, made']
  refine congrArg some (List.Perm.eq_of_pairwise ?_ ordered' ordered (kept'.trans kept.symm))
  intro a b left right up down
  have left' := kept'.subset left
  have right' := kept.subset right
  apply same a left' b right'
  rw [lawful.swap a left' b right'] at down
  cases order : cmp a b with
  | lt => rw [order] at down; exact absurd rfl down
  | eq => rfl
  | gt => exact absurd order up

end Comparators

section Pairings

variable {α β : Type} {R : α → β → Prop}

/-- An element of a paired list can be given to another one: what it was paired with takes any
element that fits. -/
theorem forall₂_exchange [DecidableEq α] {xs : List α} {ys : List β} (paired : List.Forall₂ R xs ys)
    {x : α} (mem : x ∈ xs) : ∃ y ∈ ys, R x y ∧ ∀ z, R z y →
      ∃ zs, List.Forall₂ R zs ys ∧ (x :: zs).Perm (z :: xs) := by
  induction paired with
  | nil => cases mem
  | @cons a b xs ys fits paired ih =>
    by_cases here : x = a
    · subst here
      refine ⟨b, List.mem_cons_self, fits, ?_⟩
      intro z fits'
      exact ⟨z :: xs, .cons fits' paired, List.Perm.swap _ _ _⟩
    · obtain ⟨y, there, fits', others⟩ := ih ((List.mem_cons.1 mem).resolve_left here)
      refine ⟨y, List.mem_cons_of_mem _ there, fits', ?_⟩
      intro z fits''
      obtain ⟨zs, paired', perm⟩ := others z fits''
      refine ⟨a :: zs, .cons fits paired', ?_⟩
      calc (x :: a :: zs).Perm (a :: x :: zs) := List.Perm.swap _ _ _
        _ |>.Perm (a :: z :: xs) := perm.cons a
        _ |>.Perm (z :: a :: xs) := List.Perm.swap _ _ _

/-- If every two pairs may be put in order, the sorted lists pair up as soon as some arrangement of
the one pairs up with the other. -/
theorem forall₂_of_sorted [DecidableEq α] {before : α → α → Prop} {before' : β → β → Prop}
    (uncross : ∀ a a' b b', before a a' → before' b b' → R a b' → R a' b → R a b ∧ R a' b')
    {xs zs : List α} {ys : List β} (sorted : xs.Pairwise before) (sorted' : ys.Pairwise before')
    (perm : zs.Perm xs) (paired : List.Forall₂ R zs ys) : List.Forall₂ R xs ys := by
  induction xs generalizing zs ys with
  | nil =>
    cases perm.eq_nil
    exact paired
  | cons x xs ih =>
    cases paired with
    | nil => exact absurd perm.length_eq (by simp)
    | @cons z y zs ys fits paired =>
      rw [List.pairwise_cons] at sorted sorted'
      by_cases here : x = z
      · subst here
        exact .cons fits (ih sorted.2 sorted'.2 perm.cons_inv paired)
      · have mem : x ∈ zs :=
          (List.mem_cons.1 (perm.mem_iff.2 List.mem_cons_self)).resolve_left here
        have mem' : z ∈ xs :=
          (List.mem_cons.1 (perm.mem_iff.1 List.mem_cons_self)).resolve_left (Ne.symm here)
        obtain ⟨y', there, fits', others⟩ := forall₂_exchange paired mem
        -- the first two take each other's partner
        have straight := uncross x z y y' (sorted.1 z mem') (sorted'.1 y' there) fits' fits
        obtain ⟨zs', paired', perm'⟩ := others z straight.2
        exact .cons straight.1 (ih sorted.2 sorted'.2 (perm'.trans perm).cons_inv paired')

end Pairings

end NexusCore.Lib
