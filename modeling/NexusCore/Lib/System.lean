import Mathlib.Data.List.Induction
import Mathlib.Tactic.Common

/-!
# Labelled transition systems

A system is a labelled step relation. A `Run` records every transition it takes, so
that a property of runs can speak about each step together with the states around it.
The rules reduce properties of whole runs to one step: an invariant, and the
equivalence of two per-step properties along an invariant.
-/

namespace NexusCore.Lib

variable {σ ℓ : Type}

/-- One step of a run with the states around it. -/
structure Transition (σ ℓ : Type) where
  before : σ
  label : ℓ
  after : σ

/-- A run and the transitions it takes, in order. -/
inductive Run (step : σ → ℓ → σ → Prop) : σ → List (Transition σ ℓ) → σ → Prop where
  | done (s : σ) : Run step s [] s
  | step {s t u : σ} {l : ℓ} {rest : List (Transition σ ℓ)} :
      step s l t → Run step t rest u → Run step s (⟨s, l, t⟩ :: rest) u

namespace Run

variable {step : σ → ℓ → σ → Prop} {s t u : σ} {trace rest : List (Transition σ ℓ)}

theorem append (first : Run step s trace t) (second : Run step t rest u) :
    Run step s (trace ++ rest) u := by
  induction first with
  | done s => exact second
  | step h _ ih => exact .step h (ih second)

/-- A run goes through the state before each of its steps. -/
theorem split {front back : List (Transition σ ℓ)} {x : Transition σ ℓ}
    (run : Run step s (front ++ x :: back) t) :
    Run step s front x.before ∧ step x.before x.label x.after ∧ Run step x.after back t := by
  induction front generalizing s with
  | nil =>
    cases run with
    | step taken rest => exact ⟨.done _, taken, rest⟩
  | cons y front ih =>
    cases run with
    | step taken rest =>
      obtain ⟨first, last⟩ := ih rest
      exact ⟨.step taken first, last⟩

/-- A property kept by every step holds in the last state. -/
theorem invariant {Inv : σ → Prop} (keeps : ∀ s l t, Inv s → step s l t → Inv t)
    (start : Inv s) (run : Run step s trace t) : Inv t := by
  induction run with
  | done s => exact start
  | step h _ ih => exact ih (keeps _ _ _ start h)

/-- A property kept by every step that meets a condition holds in the last state of a run
whose steps all meet it. -/
theorem invariant_of (Inv : σ → Prop) {Cond : Transition σ ℓ → Prop}
    (keeps : ∀ s l t, Inv s → step s l t → Cond ⟨s, l, t⟩ → Inv t)
    (start : Inv s) (run : Run step s trace t) (cond : ∀ x ∈ trace, Cond x) : Inv t := by
  induction run with
  | done s => exact start
  | step h _ ih =>
    have first := cond _ List.mem_cons_self
    exact ih (keeps _ _ _ start h first) fun x mem => cond x (List.mem_cons_of_mem _ mem)

/-- A property of the steps so far and the state, kept by every step. -/
theorem invariant_trace {Inv : List (Transition σ ℓ) → σ → Prop} (start : Inv [] s)
    (keeps : ∀ trace t l u, Inv trace t → step t l u → Inv (trace ++ [⟨t, l, u⟩]) u)
    (run : Run step s trace t) : Inv trace t := by
  induction trace using List.reverseRecOn generalizing t with
  | nil =>
    cases run with
    | done _ => exact start
  | append_singleton front x ih =>
    obtain ⟨first, taken, last⟩ := run.split
    cases last with
    | done _ => exact keeps front x.before x.label x.after (ih first) taken

/-- Along an invariant kept by the steps that meet a condition, every step of a run whose steps all
meet it has what such a step guarantees. -/
theorem forall_of (Inv : σ → Prop) {Cond Good : Transition σ ℓ → Prop}
    (keeps : ∀ s l t, Inv s → step s l t → Cond ⟨s, l, t⟩ → Inv t)
    (good : ∀ s l t, Inv s → step s l t → Cond ⟨s, l, t⟩ → Good ⟨s, l, t⟩)
    (start : Inv s) (run : Run step s trace t) (cond : ∀ x ∈ trace, Cond x) :
    ∀ x ∈ trace, Good x := by
  induction run with
  | done s => simp
  | step h _ ih =>
    rw [List.forall_mem_cons] at cond ⊢
    exact ⟨good _ _ _ start h cond.1, ih (keeps _ _ _ start h cond.1) cond.2⟩

/-- Two per-step properties hold along the same runs when they agree on every step
taken in a state of the invariant, and the steps that have them keep the invariant. -/
theorem forall_iff {Inv : σ → Prop} {Good Cond : Transition σ ℓ → Prop}
    (agree : ∀ s l t, Inv s → step s l t → (Good ⟨s, l, t⟩ ↔ Cond ⟨s, l, t⟩))
    (keeps : ∀ s l t, Inv s → step s l t → Good ⟨s, l, t⟩ → Inv t)
    (start : Inv s) (run : Run step s trace t) :
    (∀ x ∈ trace, Good x) ↔ ∀ x ∈ trace, Cond x := by
  induction run with
  | done s => simp
  | step h _ ih =>
    simp only [List.forall_mem_cons]
    constructor
    · rintro ⟨good, later⟩
      exact ⟨(agree _ _ _ start h).1 good, (ih (keeps _ _ _ start h good)).1 later⟩
    · rintro ⟨cond, later⟩
      have good := (agree _ _ _ start h).2 cond
      exact ⟨good, (ih (keeps _ _ _ start h good)).2 later⟩

end Run

/-- The transitions of a system whose steps are a function of state and label. -/
def trace (f : σ → ℓ → σ) : σ → List ℓ → List (Transition σ ℓ)
  | _, [] => []
  | s, l :: ls => ⟨s, l, f s l⟩ :: trace f (f s l) ls

theorem run_trace (f : σ → ℓ → σ) (s : σ) (ls : List ℓ) :
    Run (fun s l t => t = f s l) s (trace f s ls) (ls.foldl f s) := by
  induction ls generalizing s with
  | nil => exact .done s
  | cons l ls ih => exact .step rfl (ih (f s l))

end NexusCore.Lib
