import Mathlib.Data.List.Induction
import Mathlib.Data.List.Sort
import Mathlib.Order.Basic
import Mathlib.Tactic.Common

/-!
# A window that is pruned at its front

Visits push a stamp at the back of a list, if they have one, and then drop stamps from its front
as long as they are below the cutoff of the visit. What is left is compared with all that has
been pushed: as long as the stamps come in order, the stamps from a cutoff on are all there
exactly if no visit has dropped one of them.
-/

namespace NexusCore.Lib

variable {τ : Type} [LinearOrder τ]

structure Visit (τ : Type) where
  pushed : Option τ
  cutoff : τ

def Visit.apply (entries : List τ) (v : Visit τ) : List τ :=
  (entries ++ v.pushed.toList).dropWhile (· < v.cutoff)

/-- What the visits leave of an empty window. -/
def remaining (visits : List (Visit τ)) : List τ := visits.foldl Visit.apply []

/-- All that was pushed. -/
def pushedBy (visits : List (Visit τ)) : List τ := visits.filterMap Visit.pushed

/-- A stamp from the cutoff on has been dropped by no later visit. -/
def Spared (cutoff : τ) (visits : List (Visit τ)) : Prop :=
  ∀ front v back, visits = front ++ v :: back → ∀ t ∈ v.pushed, cutoff ≤ t →
    ∀ later ∈ back, later.cutoff ≤ t

/-- In a sorted list the stamps below a cutoff are at the front. -/
theorem dropWhile_lt_eq_filter {entries : List τ} (sorted : entries.Pairwise (· ≤ ·)) (cutoff : τ) :
    entries.dropWhile (· < cutoff) = entries.filter (cutoff ≤ ·) := by
  induction entries with
  | nil => rfl
  | cons first rest ih =>
    obtain ⟨below, sorted⟩ := List.pairwise_cons.1 sorted
    by_cases old : first < cutoff
    · simp [old, not_le.2 old, ih sorted]
    · have later : rest.filter (cutoff ≤ ·) = rest := by
        rw [List.filter_eq_self]
        intro t mem
        exact decide_eq_true ((not_lt.1 old).trans (below t mem))
      simp [old, not_lt.1 old, later]

theorem remaining_snoc (visits : List (Visit τ)) (v : Visit τ) :
    remaining (visits ++ [v]) = v.apply (remaining visits) := by
  simp [remaining]

omit [LinearOrder τ] in
theorem pushedBy_snoc (visits : List (Visit τ)) (v : Visit τ) :
    pushedBy (visits ++ [v]) = pushedBy visits ++ v.pushed.toList := by
  cases h : v.pushed <;> simp [pushedBy, h]

theorem remaining_sublist (visits : List (Visit τ)) :
    (remaining visits).Sublist (pushedBy visits) := by
  induction visits using List.reverseRecOn with
  | nil => exact .slnil
  | append_singleton visits v ih =>
    rw [remaining_snoc, pushedBy_snoc]
    exact (List.dropWhile_sublist _).trans (ih.append_right _)

/-- One more visit spares what the others have spared, if it drops none of it. -/
theorem spared_snoc {cutoff : τ} {visits : List (Visit τ)} {v : Visit τ} :
    Spared cutoff (visits ++ [v]) ↔
      Spared cutoff visits ∧ ∀ t ∈ pushedBy visits, cutoff ≤ t → v.cutoff ≤ t := by
  constructor
  · intro spared
    constructor
    · intro front w back same t pushed recent later mem
      exact spared front w (back ++ [v]) (by simp [same]) t pushed recent later (by simp [mem])
    · intro t mem recent
      obtain ⟨w, listed, pushed⟩ := List.mem_filterMap.1 mem
      obtain ⟨front, back, rfl⟩ := List.append_of_mem listed
      exact spared front w (back ++ [v]) (by simp) t pushed recent v (by simp)
  · intro ⟨spared, drops⟩ front w back same t pushed recent later mem
    rcases List.eq_nil_or_concat' back with rfl | ⟨before, x, rfl⟩
    · cases mem
    · have split : visits ++ [v] = (front ++ w :: before) ++ [x] := by
        rw [same]
        simp
      obtain ⟨whole, last⟩ := List.append_inj' split rfl
      obtain rfl : v = x := by simpa using last
      have among : t ∈ pushedBy visits := List.mem_filterMap.2 ⟨w, by simp [whole], pushed⟩
      rcases List.mem_append.1 mem with earlier | here
      · exact spared front w before whole t pushed recent later earlier
      · obtain rfl := List.mem_singleton.1 here
        exact drops t among recent

/-- A filter that drops nothing of what another one leaves. -/
theorem filter_filter_eq_iff {entries : List τ} (cutoff k : τ) :
    (entries.filter (cutoff ≤ ·)).filter (k ≤ ·) = entries.filter (cutoff ≤ ·) ↔
      ∀ t ∈ entries, cutoff ≤ t → k ≤ t := by
  rw [List.filter_eq_self]
  simp

/-- The stamps from a cutoff on are all there exactly if they have been spared. -/
theorem remaining_filter_iff {cutoff : τ} {visits : List (Visit τ)}
    (sorted : (pushedBy visits).Pairwise (· ≤ ·))
    (own : ∀ v ∈ visits, ∀ t ∈ v.pushed, v.cutoff ≤ t) :
    (remaining visits).filter (cutoff ≤ ·) = (pushedBy visits).filter (cutoff ≤ ·) ↔
      Spared cutoff visits := by
  induction visits using List.reverseRecOn with
  | nil => simp [remaining, pushedBy, Spared]
  | append_singleton visits v ih =>
    rw [pushedBy_snoc] at sorted
    have sublist := remaining_sublist visits
    have apart : remaining (visits ++ [v]) =
        (remaining visits).filter (v.cutoff ≤ ·) ++ v.pushed.toList := by
      rw [remaining_snoc, Visit.apply, dropWhile_lt_eq_filter
        (sorted.sublist (sublist.append_right _)), List.filter_append]
      congr 1
      rw [List.filter_eq_self]
      intro t mem
      exact decide_eq_true (own v (by simp) t (by simpa using mem))
    rw [spared_snoc, ← ih (sorted.sublist (List.sublist_append_left _ _))
      fun w mem => own w (List.mem_append_left _ mem), pushedBy_snoc, apart]
    simp only [List.filter_append, List.append_left_inj]
    rw [List.filter_comm, ← filter_filter_eq_iff]
    have fewer : ((remaining visits).filter (cutoff ≤ ·)).Sublist
        ((pushedBy visits).filter (cutoff ≤ ·)) := sublist.filter _
    constructor
    · intro same
      have all : (remaining visits).filter (cutoff ≤ ·) = (pushedBy visits).filter (cutoff ≤ ·) := by
        refine fewer.eq_of_length_le ?_
        rw [← same]
        exact List.length_filter_le _ _
      exact ⟨all, by rwa [all] at same⟩
    · intro ⟨same, kept⟩
      rw [same, kept]

end NexusCore.Lib
