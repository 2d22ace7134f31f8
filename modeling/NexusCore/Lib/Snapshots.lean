import NexusCore.Lib.Program
import NexusCore.Lib.System

/-!
# Reading between commits

The statements of a reader are answered one after the other, each by the state that other
transactions have led to by then. The states that answered are noted, so that one can say which
of them the result shows.
-/

namespace NexusCore.Lib

variable {σ ℓ Cmd : Type} {Resp : Cmd → Type} {ε α : Type}

/-- A state that any number of steps lead to. -/
def Later (step : σ → ℓ → σ → Prop) (s t : σ) : Prop := ∃ trace, Run step s trace t

theorem Later.refl (step : σ → ℓ → σ → Prop) (s : σ) : Later step s s := ⟨[], .done s⟩

theorem Later.trans {step : σ → ℓ → σ → Prop} {s t u : σ} (first : Later step s t)
    (second : Later step t u) : Later step s u := by
  obtain ⟨trace, first⟩ := first
  obtain ⟨rest, second⟩ := second
  exact ⟨trace ++ rest, first.append second⟩

theorem Later.invariant {step : σ → ℓ → σ → Prop} {s t : σ} (later : Later step s t)
    {Inv : σ → Prop} (keeps : ∀ s l t, Inv s → step s l t → Inv t) (start : Inv s) : Inv t := by
  obtain ⟨trace, run⟩ := later
  exact run.invariant keeps start

/-- Each statement is answered by a later state, which is noted. -/
def between (step : σ → ℓ → σ → Prop) (answer : σ → (c : Cmd) → Resp c) :
    Handler (σ × List σ) Cmd Resp :=
  fun s c r u => Later step s.1 u.1 ∧ r = answer u.1 c ∧ u.2 = s.2 ++ [u.1]

variable {step : σ → ℓ → σ → Prop} {answer : σ → (c : Cmd) → Resp c} {s : σ} {seen : List σ}
  {t : σ × List σ} {o : Except ε α}

theorem exec_call_between {c : Cmd} {k : Resp c → Prog Cmd Resp ε α} :
    Exec (between step answer) (.call c k) (s, seen) o t ↔
      ∃ u, Later step s u ∧
        Exec (between step answer) (k (answer u c)) (u, seen ++ [u]) o t := by
  rw [exec_call]
  constructor
  · intro ⟨r, ⟨u, noted⟩, ⟨later, answered, same⟩, rest⟩
    obtain rfl : r = answer u c := answered
    obtain rfl : noted = seen ++ [u] := same
    exact ⟨u, later, rest⟩
  · intro ⟨u, later, rest⟩
    exact ⟨_, (u, seen ++ [u]), ⟨later, rfl, rfl⟩, rest⟩

theorem exec_call_answered {c : Cmd} {k : Resp c → Prog Cmd Resp ε α} :
    Exec (between step answer) (.call c k) (s, seen) o t ↔
      ∃ r u, Later step s u ∧ answer u c = r ∧
        Exec (between step answer) (k r) (u, seen ++ [u]) o t := by
  rw [exec_call_between]
  constructor
  · intro ⟨u, later, rest⟩
    exact ⟨_, u, later, rfl, rest⟩
  · intro ⟨_, u, later, rfl, rest⟩
    exact ⟨u, later, rest⟩

/-- A result that was computed elsewhere is handed on. -/
theorem exec_lift_bind {β : Type} {H : Handler σ Cmd Resp} {result : Except ε β}
    {f : β → Prog Cmd Resp ε α} {s t : σ} {a : α} :
    Exec H ((Prog.lift result).bind f) s (.ok a) t ↔ ∃ b, result = .ok b ∧ Exec H (f b) s (.ok a) t := by
  cases result with
  | error e => simp
  | ok b => simp

end NexusCore.Lib
