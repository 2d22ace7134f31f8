/-!
# Errors and identifiers

`AppError` is the error type of every crate, with the texts that its `Display`
implementation prints. The identifiers are the newtypes over strings of the shared crate.
-/

namespace NexusCore

/-- The application error. -/
inductive AppError where
  | badRequest (message : String)
  | database (message : String)
  | invalidConfig (message : String)
  | unauthorized
  | notFound (message : String)
  | internal
  deriving DecidableEq, Repr

abbrev AppResult (α : Type) : Type := Except AppError α

/-- The text shown for an error. -/
def AppError.display : AppError → String
  | .badRequest message => message
  | .database message => "database error: " ++ message
  | .invalidConfig message => "invalid configuration: " ++ message
  | .unauthorized => "unauthorized"
  | .notFound message => "not found: " ++ message
  | .internal => "internal error"

instance : ToString AppError := ⟨AppError.display⟩

/-- A sequence of fallible steps succeeds when each of them does. -/
theorem bind_eq_ok {ε α β : Type} {x : Except ε α} {f : α → Except ε β} {b : β} :
    x >>= f = .ok b ↔ ∃ a, x = .ok a ∧ f a = .ok b := by
  cases x with
  | error e =>
    constructor
    · intro h
      cases h
    · rintro ⟨a, h, -⟩
      cases h
  | ok a =>
    constructor
    · intro h
      exact ⟨a, rfl, h⟩
    · rintro ⟨a', h, rest⟩
      cases h
      exact rest

theorem ok_bind {ε α β : Type} (a : α) (f : α → Except ε β) : (Except.ok a >>= f) = f a := rfl

theorem error_bind {ε α β : Type} (e : ε) (f : α → Except ε β) :
    (Except.error e >>= f) = .error e := rfl

/-- A check: the error is returned unless the condition holds. -/
def ensure (condition : Bool) (e : AppError) : AppResult Unit :=
  if condition then .ok () else .error e

@[simp] theorem ensure_eq_ok {condition : Bool} {e : AppError} {u : Unit} :
    ensure condition e = .ok u ↔ condition = true := by
  cases condition <;> simp [ensure]

structure UserId where
  value : String
  deriving DecidableEq, Repr

structure SubmissionId where
  value : String
  deriving DecidableEq, Repr

structure ProblemId where
  value : String
  deriving DecidableEq, Repr

end NexusCore
