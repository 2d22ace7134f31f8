import Mathlib.Tactic.Common

/-!
# Programs over commands

A `Prog` is a shallow program whose only effects are the commands it issues. Each
command is answered by the environment, and the program continues with the answer.
The same program is read in three ways.

* `Prog.eval` runs it against a deterministic handler, so that it can be tested.
* `Exec` relates a start state, a result and a final state under a handler that may
  answer in several ways (a broker that can fail at any command).
* `Stops` collects the states in which a run can be cut short: those in which the
  next command has not been issued yet.

`Safe` is the crash-aware weakest precondition of these readings: the crash
condition holds wherever a run can be cut short, the postcondition wherever it ends.
-/

namespace NexusCore.Lib

/-- A program over commands `c : Cmd`, each answered by a value of type `Resp c`. -/
inductive Prog (Cmd : Type) (Resp : Cmd → Type) (ε α : Type) : Type where
  | ret (a : α)
  | fail (e : ε)
  | call (c : Cmd) (k : Resp c → Prog Cmd Resp ε α)

namespace Prog

variable {Cmd : Type} {Resp : Cmd → Type} {ε ε' α β γ : Type}

/-- Sequential composition. A failed program skips the continuation. -/
def bind : Prog Cmd Resp ε α → (α → Prog Cmd Resp ε β) → Prog Cmd Resp ε β
  | .ret a, f => f a
  | .fail e, _ => .fail e
  | .call c k, f => .call c fun r => (k r).bind f

instance : Monad (Prog Cmd Resp ε) where
  pure := .ret
  bind := bind

instance : MonadExceptOf ε (Prog Cmd Resp ε) where
  throw := .fail
  tryCatch p handle :=
    let rec go : Prog Cmd Resp ε _ → Prog Cmd Resp ε _
      | .ret a => .ret a
      | .fail e => handle e
      | .call c k => .call c fun r => go (k r)
    go p

/-- Issue one command and return its answer. -/
def op (c : Cmd) : Prog Cmd Resp ε (Resp c) := .call c .ret

/-- Run a program and hand its result, failure included, to the caller. -/
def attempt : Prog Cmd Resp ε α → Prog Cmd Resp ε' (Except ε α)
  | .ret a => .ret (.ok a)
  | .fail e => .ret (.error e)
  | .call c k => .call c fun r => (k r).attempt

/-- A result computed elsewhere, as a program that issues no command. -/
def lift : Except ε α → Prog Cmd Resp ε α
  | .ok a => .ret a
  | .error e => .fail e

/-- The same program over a larger set of commands. -/
def relabel {Cmd' : Type} {Resp' : Cmd' → Type} (f : Cmd → Cmd')
    (g : (c : Cmd) → Resp' (f c) → Resp c) : Prog Cmd Resp ε α → Prog Cmd' Resp' ε α
  | .ret a => .ret a
  | .fail e => .fail e
  | .call c k => .call (f c) fun r => (k (g c r)).relabel f g

@[simp] theorem ret_bind (a : α) (f : α → Prog Cmd Resp ε β) : (ret a).bind f = f a := rfl
@[simp] theorem fail_bind (e : ε) (f : α → Prog Cmd Resp ε β) : (fail e).bind f = fail e := rfl
@[simp] theorem call_bind (c : Cmd) (k : Resp c → Prog Cmd Resp ε α)
    (f : α → Prog Cmd Resp ε β) : (call c k).bind f = call c fun r => (k r).bind f := rfl
@[simp] theorem op_bind (c : Cmd) (f : Resp c → Prog Cmd Resp ε β) :
    (op c).bind f = call c f := rfl
@[simp] theorem bind_def (p : Prog Cmd Resp ε α) (f : α → Prog Cmd Resp ε β) :
    p >>= f = p.bind f := rfl
@[simp] theorem pure_def (a : α) : (pure a : Prog Cmd Resp ε α) = ret a := rfl
@[simp] theorem throw_def (e : ε) : (throw e : Prog Cmd Resp ε α) = fail e := rfl
@[simp] theorem attempt_ret (a : α) :
    ((ret a : Prog Cmd Resp ε α).attempt : Prog Cmd Resp ε' (Except ε α)) = ret (.ok a) := rfl
@[simp] theorem attempt_fail (e : ε) :
    ((fail e : Prog Cmd Resp ε α).attempt : Prog Cmd Resp ε' (Except ε α)) = ret (.error e) := rfl
@[simp] theorem attempt_call (c : Cmd) (k : Resp c → Prog Cmd Resp ε α) :
    ((call c k).attempt : Prog Cmd Resp ε' (Except ε α)) = call c fun r => (k r).attempt := rfl
@[simp] theorem lift_ok (a : α) : (lift (.ok a) : Prog Cmd Resp ε α) = ret a := rfl
@[simp] theorem lift_error (e : ε) : (lift (.error e) : Prog Cmd Resp ε α) = fail e := rfl

theorem bind_assoc (p : Prog Cmd Resp ε α) (f : α → Prog Cmd Resp ε β)
    (g : β → Prog Cmd Resp ε γ) : (p.bind f).bind g = p.bind fun a => (f a).bind g := by
  induction p with
  | ret a => rfl
  | fail e => rfl
  | call c k ih => simp only [call_bind, ih]

/-- Run against a handler that gives one answer to each command. -/
def eval {σ : Type} (h : σ → (c : Cmd) → Resp c × σ) : Prog Cmd Resp ε α → σ → Except ε α × σ
  | .ret a, s => (.ok a, s)
  | .fail e, s => (.error e, s)
  | .call c k, s => (k (h s c).1).eval h (h s c).2

/-- The state after the first `m` commands, when the run issues a further one. -/
def stopAfter {σ : Type} (h : σ → (c : Cmd) → Resp c × σ) :
    Nat → Prog Cmd Resp ε α → σ → Option σ
  | _, .ret _, _ => none
  | _, .fail _, _ => none
  | 0, .call _ _, s => some s
  | m + 1, .call c k, s => (k (h s c).1).stopAfter h m (h s c).2

/-- Run against a handler that leaves some commands without an answer. -/
def tryEval {σ : Type} (h : σ → (c : Cmd) → Option (Resp c × σ)) :
    Prog Cmd Resp ε α → σ → Option (Except ε α × σ)
  | .ret a, s => some (.ok a, s)
  | .fail e, s => some (.error e, s)
  | .call c k, s =>
    match h s c with
    | none => none
    | some (r, u) => (k r).tryEval h u

/-- The state in which a command is left without an answer. -/
def waitsAt {σ : Type} (h : σ → (c : Cmd) → Option (Resp c × σ)) :
    Prog Cmd Resp ε α → σ → Option σ
  | .ret _, _ | .fail _, _ => none
  | .call c k, s =>
    match h s c with
    | none => some s
    | some (r, u) => (k r).waitsAt h u

section Eval

variable {σ : Type} {h : σ → (c : Cmd) → Resp c × σ} {s : σ}

@[simp] theorem eval_ret (a : α) : (ret a : Prog Cmd Resp ε α).eval h s = (.ok a, s) := rfl
@[simp] theorem eval_fail (e : ε) : (fail e : Prog Cmd Resp ε α).eval h s = (.error e, s) := rfl
@[simp] theorem eval_call (c : Cmd) (k : Resp c → Prog Cmd Resp ε α) :
    (call c k).eval h s = (k (h s c).1).eval h (h s c).2 := rfl
@[simp] theorem eval_op (c : Cmd) :
    (op c : Prog Cmd Resp ε (Resp c)).eval h s = (.ok (h s c).1, (h s c).2) := rfl

/-- The continuation runs from where the first program ends, unless that failed. -/
@[simp] theorem eval_bind (p : Prog Cmd Resp ε α) (f : α → Prog Cmd Resp ε β) :
    (p.bind f).eval h s = match p.eval h s with
      | (.ok a, t) => (f a).eval h t
      | (.error e, t) => (.error e, t) := by
  induction p generalizing s with
  | ret a => rfl
  | fail e => rfl
  | call c k ih => exact ih _

@[simp] theorem eval_attempt (p : Prog Cmd Resp ε α) :
    (p.attempt : Prog Cmd Resp ε' (Except ε α)).eval h s =
      (.ok (p.eval h s).1, (p.eval h s).2) := by
  induction p generalizing s with
  | ret a => rfl
  | fail e => rfl
  | call c k ih => exact ih _

/-- A relabelled program is answered as the commands that its own stand for. -/
@[simp] theorem eval_relabel {Cmd' : Type} {Resp' : Cmd' → Type}
    {h : σ → (c : Cmd') → Resp' c × σ} (f : Cmd → Cmd') (g : (c : Cmd) → Resp' (f c) → Resp c)
    (p : Prog Cmd Resp ε α) : (p.relabel f g).eval h s =
      p.eval (fun s c => (g c (h s (f c)).1, (h s (f c)).2)) s := by
  induction p generalizing s with
  | ret a => rfl
  | fail e => rfl
  | call c k ih => exact ih _

end Eval

/-- Whatever the commands are answered, a result of the program has a property. -/
inductive Returns (P : α → Prop) : Prog Cmd Resp ε α → Prop where
  | ret {a : α} : P a → Returns P (.ret a)
  | fail {e : ε} : Returns P (.fail e)
  | call {c : Cmd} {k : Resp c → Prog Cmd Resp ε α} :
      (∀ r, Returns P (k r)) → Returns P (.call c k)

section Returns

variable {P Q : α → Prop} {R : β → Prop} {p : Prog Cmd Resp ε α}

theorem Returns.bind {f : α → Prog Cmd Resp ε β} (first : p.Returns P)
    (rest : ∀ a, P a → (f a).Returns R) : (p.bind f).Returns R := by
  induction first with
  | ret h => exact rest _ h
  | fail => exact .fail
  | call _ ih => exact .call ih

theorem returns_true (p : Prog Cmd Resp ε α) : p.Returns fun _ => True := by
  induction p with
  | ret a => exact .ret trivial
  | fail e => exact .fail
  | call c k ih => exact .call ih

theorem returns_lift {x : Except ε α} (h : ∀ a, x = .ok a → P a) :
    (lift x : Prog Cmd Resp ε α).Returns P := by
  cases x with
  | ok a => exact .ret (h a rfl)
  | error e => exact .fail

end Returns

/-- Whatever the commands are answered, every command of the program has a property. -/
inductive Issues (P : Cmd → Prop) : Prog Cmd Resp ε α → Prop where
  | ret {a : α} : Issues P (.ret a)
  | fail {e : ε} : Issues P (.fail e)
  | call {c : Cmd} {k : Resp c → Prog Cmd Resp ε α} :
      P c → (∀ r, Issues P (k r)) → Issues P (.call c k)

section Issues

variable {P R : Cmd → Prop} {p : Prog Cmd Resp ε α}

theorem Issues.bind {f : α → Prog Cmd Resp ε β} (first : p.Issues P)
    (rest : ∀ a, (f a).Issues P) : (p.bind f).Issues P := by
  induction first with
  | ret => exact rest _
  | fail => exact .fail
  | call issued _ ih => exact .call issued ih

theorem Issues.attempt (issues : p.Issues P) :
    (p.attempt : Prog Cmd Resp ε' (Except ε α)).Issues P := by
  induction issues with
  | ret => exact .ret
  | fail => exact .ret
  | call issued _ ih => exact .call issued ih

theorem Issues.mono (issues : p.Issues P) (weaker : ∀ c, P c → R c) : p.Issues R := by
  induction issues with
  | ret => exact .ret
  | fail => exact .fail
  | call issued _ ih => exact .call (weaker _ issued) ih

theorem Issues.relabel {Cmd' : Type} {Resp' : Cmd' → Type} {P : Cmd' → Prop} {f : Cmd → Cmd'}
    {g : (c : Cmd) → Resp' (f c) → Resp c} (issues : p.Issues fun c => P (f c)) :
    (p.relabel f g).Issues P := by
  induction issues with
  | ret => exact .ret
  | fail => exact .fail
  | call issued _ ih => exact .call issued fun r => ih _

end Issues

/-- The answers of a kind end the program with a failure. -/
inductive FailsAt (bad : (c : Cmd) → Resp c → Bool) : Prog Cmd Resp ε α → Prop where
  | ret {a : α} : FailsAt bad (.ret a)
  | fail {e : ε} : FailsAt bad (.fail e)
  | call {c : Cmd} {k : Resp c → Prog Cmd Resp ε α} :
      (∀ r, bad c r = true → ∃ e, k r = .fail e) → (∀ r, FailsAt bad (k r)) →
      FailsAt bad (.call c k)

section FailsAt

variable {bad : (c : Cmd) → Resp c → Bool} {p : Prog Cmd Resp ε α}

theorem FailsAt.bind {f : α → Prog Cmd Resp ε β} (first : p.FailsAt bad)
    (rest : ∀ a, (f a).FailsAt bad) : (p.bind f).FailsAt bad := by
  induction first with
  | ret => exact rest _
  | fail => exact .fail
  | call failed _ ih =>
    refine .call (fun r is_bad => ?_) ih
    obtain ⟨e, same⟩ := failed r is_bad
    exact ⟨e, by rw [same, fail_bind]⟩

end FailsAt

end Prog

/-- What the environment may answer to a command, and the state it leaves. -/
abbrev Handler (σ : Type) (Cmd : Type) (Resp : Cmd → Type) : Type :=
  σ → (c : Cmd) → Resp c → σ → Prop

section Semantics

variable {σ Cmd : Type} {Resp : Cmd → Type} {ε ε' α β : Type} {H : Handler σ Cmd Resp}

/-- A complete run from `s`, with its result and final state. -/
inductive Exec (H : Handler σ Cmd Resp) : Prog Cmd Resp ε α → σ → Except ε α → σ → Prop where
  | ret (a : α) (s : σ) : Exec H (.ret a) s (.ok a) s
  | fail (e : ε) (s : σ) : Exec H (.fail e) s (.error e) s
  | call {c : Cmd} {k : Resp c → Prog Cmd Resp ε α} {s u t : σ} {r : Resp c} {o : Except ε α} :
      H s c r u → Exec H (k r) u o t → Exec H (.call c k) s o t

/-- The states in which a run from `s` can be cut short before its next command. -/
inductive Stops (H : Handler σ Cmd Resp) : Prog Cmd Resp ε α → σ → σ → Prop where
  | here {c : Cmd} {k : Resp c → Prog Cmd Resp ε α} {s : σ} : Stops H (.call c k) s s
  | next {c : Cmd} {k : Resp c → Prog Cmd Resp ε α} {s u t : σ} {r : Resp c} :
      H s c r u → Stops H (k r) u t → Stops H (.call c k) s t

@[simp] theorem exec_ret {a : α} {s t : σ} {o : Except ε α} :
    Exec H (.ret a) s o t ↔ o = .ok a ∧ t = s := by
  constructor
  · rintro ⟨⟩
    exact ⟨rfl, rfl⟩
  · rintro ⟨rfl, rfl⟩
    exact .ret _ _

@[simp] theorem exec_fail {e : ε} {s t : σ} {o : Except ε α} :
    Exec H (.fail e) s o t ↔ o = .error e ∧ t = s := by
  constructor
  · rintro ⟨⟩
    exact ⟨rfl, rfl⟩
  · rintro ⟨rfl, rfl⟩
    exact .fail _ _

@[simp] theorem exec_call {c : Cmd} {k : Resp c → Prog Cmd Resp ε α} {s t : σ}
    {o : Except ε α} : Exec H (.call c k) s o t ↔ ∃ r u, H s c r u ∧ Exec H (k r) u o t := by
  constructor
  · rintro ⟨⟩
    exact ⟨_, _, ‹_›, ‹_›⟩
  · rintro ⟨r, u, h, hk⟩
    exact .call h hk

/-- A run of a sequence is a run of its first part that fails, or one followed by a run
of the continuation. -/
theorem exec_bind {p : Prog Cmd Resp ε α} {f : α → Prog Cmd Resp ε β} {s t : σ}
    {o : Except ε β} : Exec H (p.bind f) s o t ↔
      (∃ a u, Exec H p s (.ok a) u ∧ Exec H (f a) u o t) ∨
        ∃ e, Exec H p s (.error e) t ∧ o = .error e := by
  induction p generalizing s with
  | ret a => simp
  | fail e => simp [and_comm]
  | call c k ih =>
    simp only [Prog.call_bind, exec_call, ih]
    constructor
    · rintro ⟨r, u, h, ⟨a, v, run, rest⟩ | ⟨e, run, same⟩⟩
      · exact .inl ⟨a, v, ⟨r, u, h, run⟩, rest⟩
      · exact .inr ⟨e, ⟨r, u, h, run⟩, same⟩
    · rintro (⟨a, v, ⟨r, u, h, run⟩, rest⟩ | ⟨e, ⟨r, u, h, run⟩, same⟩)
      · exact ⟨r, u, h, .inl ⟨a, v, run, rest⟩⟩
      · exact ⟨r, u, h, .inr ⟨e, run, same⟩⟩

/-- A run of an attempt is a run that hands over its result. -/
theorem exec_attempt {p : Prog Cmd Resp ε α} {s t : σ} {o : Except ε' (Except ε α)} :
    Exec H (p.attempt) s o t ↔ ∃ result, o = .ok result ∧ Exec H p s result t := by
  induction p generalizing s with
  | ret a => simp
  | fail e => simp
  | call c k ih =>
    simp only [Prog.attempt_call, exec_call, ih]
    constructor
    · rintro ⟨r, u, step, result, same, rest⟩
      exact ⟨result, same, r, u, step, rest⟩
    · rintro ⟨result, same, r, u, step, rest⟩
      exact ⟨r, u, step, result, same, rest⟩

/-- A relabelled program runs as it does against the commands that its own stand for. -/
theorem exec_relabel {Cmd' : Type} {Resp' : Cmd' → Type} {K : Handler σ Cmd' Resp'}
    {f : Cmd → Cmd'} {g : (c : Cmd) → Resp' (f c) → Resp c} {p : Prog Cmd Resp ε α} {s t : σ}
    {o : Except ε α} : Exec K (p.relabel f g) s o t ↔
      Exec (fun s c r u => ∃ r', g c r' = r ∧ K s (f c) r' u) p s o t := by
  induction p generalizing s with
  | ret a => simp [Prog.relabel]
  | fail e => simp [Prog.relabel]
  | call c k ih =>
    simp only [Prog.relabel, exec_call, ih]
    constructor
    · intro ⟨r', u, step, rest⟩
      exact ⟨g c r', u, ⟨r', rfl, step⟩, rest⟩
    · intro ⟨r, u, ⟨r', same, step⟩, rest⟩
      exact ⟨r', u, step, same ▸ rest⟩

/-- Where every command has an answer, every program has a run. -/
theorem exists_exec (total : ∀ s c, ∃ r u, H s c r u) (p : Prog Cmd Resp ε α) (s : σ) :
    ∃ o t, Exec H p s o t := by
  induction p generalizing s with
  | ret a => exact ⟨_, _, .ret a s⟩
  | fail e => exact ⟨_, _, .fail e s⟩
  | call c k ih =>
    obtain ⟨r, u, step⟩ := total s c
    obtain ⟨o, t, rest⟩ := ih r u
    exact ⟨o, t, .call step rest⟩

theorem Exec.returns {P : α → Prop} {p : Prog Cmd Resp ε α} {s t : σ} {a : α}
    (spec : p.Returns P) (run : Exec H p s (.ok a) t) : P a := by
  induction spec generalizing s with
  | ret h =>
    obtain ⟨rfl, -⟩ : a = _ ∧ t = s := by simpa using run
    exact h
  | fail => simp at run
  | call _ ih =>
    obtain ⟨r, u, -, rest⟩ := exec_call.1 run
    exact ih r rest

/-- A deterministic run is a run of every handler that admits its answers. The
deterministic handler may keep more state than the handler it is compared with. -/
theorem Exec.of_eval {τ : Type} {h : τ → (c : Cmd) → Resp c × τ} {v : τ → σ}
    (admits : ∀ s c, H (v s) c (h s c).1 (v (h s c).2)) (p : Prog Cmd Resp ε α) (s : τ) :
    Exec H p (v s) (p.eval h s).1 (v (p.eval h s).2) := by
  induction p generalizing s with
  | ret a => exact .ret a _
  | fail e => exact .fail e _
  | call c k ih => exact .call (admits s c) (ih _ _)

theorem Exec.of_tryEval {h : σ → (c : Cmd) → Option (Resp c × σ)}
    (admits : ∀ s c r u, h s c = some (r, u) → H s c r u) {p : Prog Cmd Resp ε α} {s t : σ}
    {o : Except ε α} (run : p.tryEval h s = some (o, t)) : Exec H p s o t := by
  induction p generalizing s with
  | ret a =>
    cases run
    exact .ret a _
  | fail e =>
    cases run
    exact .fail e _
  | call c k ih =>
    rw [Prog.tryEval] at run
    split at run
    · cases run
    · next r u answered => exact .call (admits s c r u answered) (ih r run)

theorem Stops.of_stopAfter {τ : Type} {h : τ → (c : Cmd) → Resp c × τ} {v : τ → σ}
    (admits : ∀ s c, H (v s) c (h s c).1 (v (h s c).2)) {p : Prog Cmd Resp ε α} {m : Nat}
    {s t : τ} (stop : p.stopAfter h m s = some t) : Stops H p (v s) (v t) := by
  induction p generalizing m s with
  | ret a => simp [Prog.stopAfter] at stop
  | fail e => simp [Prog.stopAfter] at stop
  | call c k ih =>
    cases m with
    | zero =>
      obtain rfl : s = t := by simpa [Prog.stopAfter] using stop
      exact .here
    | succ m => exact .next (admits s c) (ih _ stop)

theorem Stops.of_waitsAt {h : σ → (c : Cmd) → Option (Resp c × σ)}
    (admits : ∀ s c r u, h s c = some (r, u) → H s c r u) {p : Prog Cmd Resp ε α} {s t : σ}
    (waits : p.waitsAt h s = some t) : Stops H p s t := by
  induction p generalizing s with
  | ret a => cases waits
  | fail e => cases waits
  | call c k ih =>
    rw [Prog.waitsAt] at waits
    split at waits
    · cases waits
      exact .here
    · next r u answered => exact .next (admits s c r u answered) (ih r waits)

/-- Crash-aware weakest precondition: `I` before every command, `Q` at the end. -/
def Safe (H : Handler σ Cmd Resp) (I : σ → Prop) (Q : Except ε α → σ → Prop) :
    Prog Cmd Resp ε α → σ → Prop
  | .ret a, s => Q (.ok a) s
  | .fail e, s => Q (.error e) s
  | .call c k, s => I s ∧ ∀ r u, H s c r u → Safe H I Q (k r) u

variable {I J : σ → Prop} {Q R : Except ε α → σ → Prop}

@[simp] theorem safe_ret {a : α} {s : σ} : Safe H I Q (.ret a) s ↔ Q (.ok a) s := Iff.rfl
@[simp] theorem safe_fail {e : ε} {s : σ} : Safe H I Q (.fail e) s ↔ Q (.error e) s := Iff.rfl
@[simp] theorem safe_call {c : Cmd} {k : Resp c → Prog Cmd Resp ε α} {s : σ} :
    Safe H I Q (.call c k) s ↔ I s ∧ ∀ r u, H s c r u → Safe H I Q (k r) u := Iff.rfl

theorem Safe.exec {p : Prog Cmd Resp ε α} {s t : σ} {o : Except ε α}
    (safe : Safe H I Q p s) (run : Exec H p s o t) : Q o t := by
  induction run with
  | ret a s => exact safe
  | fail e s => exact safe
  | call h _ ih => exact ih (safe.2 _ _ h)

theorem Safe.stops {p : Prog Cmd Resp ε α} {s t : σ}
    (safe : Safe H I Q p s) (stop : Stops H p s t) : I t := by
  induction stop with
  | here => exact safe.1
  | next h _ ih => exact ih (safe.2 _ _ h)

theorem Safe.mono {p : Prog Cmd Resp ε α} {s : σ} (safe : Safe H I Q p s)
    (crash : ∀ t, I t → J t) (post : ∀ o t, Q o t → R o t) : Safe H J R p s := by
  induction p generalizing s with
  | ret a => exact post _ _ safe
  | fail e => exact post _ _ safe
  | call c k ih => exact ⟨crash _ safe.1, fun r u h => ih r (safe.2 r u h)⟩

/-- The rule of sequential composition: the first program must leave a state in
which the continuation is safe, and its failures are the failures of the whole. -/
theorem Safe.bind {Q : Except ε β → σ → Prop} {p : Prog Cmd Resp ε α}
    {f : α → Prog Cmd Resp ε β} {s : σ}
    (safe : Safe H I (fun o t => match o with
      | .ok a => Safe H I Q (f a) t
      | .error e => Q (.error e) t) p s) : Safe H I Q (p.bind f) s := by
  induction p generalizing s with
  | ret a => exact safe
  | fail e => exact safe
  | call c k ih => exact ⟨safe.1, fun r u h => ih r (safe.2 r u h)⟩

theorem Safe.attempt {Q : Except ε' (Except ε α) → σ → Prop} {p : Prog Cmd Resp ε α} {s : σ}
    (safe : Safe H I (fun o t => Q (.ok o) t) p s) : Safe H I Q (p.attempt) s := by
  induction p generalizing s with
  | ret a => exact safe
  | fail e => exact safe
  | call c k ih => exact ⟨safe.1, fun r u h => ih r (safe.2 r u h)⟩

/-- Facts that every command preserves hold throughout and at the end of any program. -/
theorem Safe.invariant (keeps : ∀ s c r u, I s → H s c r u → I u)
    (p : Prog Cmd Resp ε α) {s : σ} (start : I s) : Safe H I (fun _ t => I t) p s := by
  induction p generalizing s with
  | ret a => exact start
  | fail e => exact start
  | call c k ih => exact ⟨start, fun r u h => ih r (keeps s c r u start h)⟩

/-- It is enough that the commands of the program preserve them. -/
theorem Safe.of_issues {P : Cmd → Prop} {p : Prog Cmd Resp ε α} {s : σ} (issues : p.Issues P)
    (keeps : ∀ s c r u, P c → I s → H s c r u → I u) (start : I s) :
    Safe H I (fun _ t => I t) p s := by
  induction issues generalizing s with
  | ret => exact start
  | fail => exact start
  | call issued _ ih => exact ⟨start, fun r u h => ih r (keeps s _ r u issued start h)⟩

/-- A program that keeps an invariant from command to command and, when it returns, has a
postcondition. Its failures keep the invariant as well. -/
def Keeps (H : Handler σ Cmd Resp) (I : σ → Prop) (Q : α → σ → Prop)
    (p : Prog Cmd Resp ε α) (s : σ) : Prop :=
  Safe H I (fun o t => I t ∧ ∀ a, o = .ok a → Q a t) p s

section Keeps

variable {Q : α → σ → Prop} {R : β → σ → Prop} {s : σ}

theorem Keeps.ret {a : α} (kept : I s) (post : Q a s) :
    Keeps H I Q (.ret a : Prog Cmd Resp ε α) s := by
  refine ⟨kept, ?_⟩
  rintro _ ⟨⟩
  exact post

theorem Keeps.fail {e : ε} (kept : I s) : Keeps H I Q (.fail e : Prog Cmd Resp ε α) s := by
  refine ⟨kept, ?_⟩
  rintro _ ⟨⟩

theorem Keeps.call {c : Cmd} {k : Resp c → Prog Cmd Resp ε α} (kept : I s)
    (next : ∀ r u, H s c r u → Keeps H I Q (k r) u) : Keeps H I Q (.call c k) s :=
  ⟨kept, next⟩

/-- The continuation takes over from the postcondition; a failure ends the whole. -/
theorem Keeps.then {p : Prog Cmd Resp ε α} {f : α → Prog Cmd Resp ε β} {R : Except ε β → σ → Prop}
    (first : Keeps H I Q p s) (next : ∀ a u, I u → Q a u → Safe H I R (f a) u)
    (failed : ∀ e u, I u → R (.error e) u) : Safe H I R (p.bind f) s := by
  apply Safe.bind
  apply Safe.mono first (fun _ kept => kept)
  rintro (e | a) u ⟨kept, post⟩
  · exact failed e u kept
  · exact next a u kept (post a rfl)

theorem Keeps.bind {p : Prog Cmd Resp ε α} {f : α → Prog Cmd Resp ε β}
    (first : Keeps H I Q p s) (next : ∀ a u, I u → Q a u → Keeps H I R (f a) u) :
    Keeps H I R (p.bind f) s :=
  first.then next fun e _ kept => @Keeps.fail _ _ _ ε β H I R _ e kept

theorem Keeps.attempt {p : Prog Cmd Resp ε α} (keeps : Keeps H I Q p s) :
    Keeps H I (fun o t => ∀ a, o = .ok a → Q a t)
      (p.attempt : Prog Cmd Resp ε' (Except ε α)) s := by
  apply Safe.attempt
  apply Safe.mono keeps (fun _ kept => kept)
  rintro o t ⟨kept, post⟩
  refine ⟨kept, ?_⟩
  rintro _ ⟨⟩
  exact post

theorem Keeps.mono {p : Prog Cmd Resp ε α} {R : α → σ → Prop} (keeps : Keeps H I Q p s)
    (post : ∀ a t, I t → Q a t → R a t) : Keeps H I R p s :=
  Safe.mono keeps (fun _ kept => kept)
    fun _ t ⟨kept, ok⟩ => ⟨kept, fun a same => post a t kept (ok a same)⟩

end Keeps

/-- A program that returns in every run, with a postcondition. -/
def Succeeds (H : Handler σ Cmd Resp) (Q : α → σ → Prop) (p : Prog Cmd Resp ε α) (s : σ) : Prop :=
  Safe H (fun _ => True) (fun o t => ∃ a, o = .ok a ∧ Q a t) p s

section Succeeds

variable {Q : α → σ → Prop} {R : β → σ → Prop} {p : Prog Cmd Resp ε α} {s t : σ}

theorem Succeeds.ret {a : α} (post : Q a s) : Succeeds H Q (.ret a : Prog Cmd Resp ε α) s :=
  ⟨a, rfl, post⟩

theorem Succeeds.call {c : Cmd} {k : Resp c → Prog Cmd Resp ε α}
    (next : ∀ r u, H s c r u → Succeeds H Q (k r) u) : Succeeds H Q (.call c k) s :=
  ⟨trivial, next⟩

theorem Succeeds.bind {f : α → Prog Cmd Resp ε β} (first : Succeeds H Q p s)
    (next : ∀ a u, Q a u → Succeeds H R (f a) u) : Succeeds H R (p.bind f) s := by
  apply Safe.bind
  apply Safe.mono first (fun _ _ => trivial)
  rintro _ u ⟨a, rfl, post⟩
  exact next a u post

theorem Succeeds.mono {Q' : α → σ → Prop} (first : Succeeds H Q p s)
    (weaker : ∀ a t, Q a t → Q' a t) : Succeeds H Q' p s := by
  apply Safe.mono first (fun _ _ => trivial)
  rintro _ u ⟨a, rfl, post⟩
  exact ⟨a, rfl, weaker a u post⟩

theorem Succeeds.and {Q' : α → σ → Prop} (succeeds : Succeeds H Q p s)
    (also : Succeeds H Q' p s) : Succeeds H (fun a t => Q a t ∧ Q' a t) p s := by
  induction p generalizing s with
  | ret a =>
    obtain ⟨_, ⟨⟩, post⟩ := succeeds
    obtain ⟨_, ⟨⟩, post'⟩ := also
    exact .ret ⟨post, post'⟩
  | fail e =>
    obtain ⟨_, ⟨⟩, _⟩ := succeeds
  | call c k ih => exact .call fun r u step => ih r (succeeds.2 r u step) (also.2 r u step)

theorem Succeeds.exec {o : Except ε α} (succeeds : Succeeds H Q p s) (run : Exec H p s o t) :
    ∃ a, o = .ok a ∧ Q a t :=
  Safe.exec succeeds run

/-- What a program keeps under a handler that allows more it keeps here. -/
theorem Succeeds.and_keeps {K : Handler σ Cmd Resp} {Q' : α → σ → Prop}
    (succeeds : Succeeds H Q p s) (fewer : ∀ s c r u, H s c r u → K s c r u)
    (keeps : Keeps K I Q' p s) : Succeeds H (fun a t => Q a t ∧ I t ∧ Q' a t) p s := by
  induction p generalizing s with
  | ret a =>
    obtain ⟨_, ⟨⟩, post⟩ := succeeds
    exact ⟨a, rfl, post, keeps.1, keeps.2 a rfl⟩
  | fail e =>
    obtain ⟨_, ⟨⟩, _⟩ := succeeds
  | call c k ih =>
    exact ⟨trivial, fun r u step => ih r (succeeds.2 r u step) (keeps.2 r u (fewer _ _ _ _ step))⟩

end Succeeds

/-- The states between the rounds of a program that is repeated forever. -/
inductive Repeats (H : Handler σ Cmd Resp) (p : Prog Cmd Resp ε α) (s : σ) : σ → Prop where
  | start : Repeats H p s s
  | round {t u : σ} {o : Except ε α} : Repeats H p s t → Exec H p t o u → Repeats H p s u

/-- The states of a program that is repeated forever, before every command of a round. -/
def Reaches (H : Handler σ Cmd Resp) (p : Prog Cmd Resp ε α) (s u : σ) : Prop :=
  ∃ t, Repeats H p s t ∧ Stops H p t u

/-- What every round preserves from command to command holds in every state reached. -/
theorem Safe.reaches {p : Prog Cmd Resp ε α} {s u : σ}
    (keeps : ∀ t, I t → Safe H I (fun _ v => I v) p t) (start : I s) (reach : Reaches H p s u) :
    I u := by
  obtain ⟨t, rounds, stop⟩ := reach
  have between : I t := by
    clear stop
    induction rounds with
    | start => exact start
    | round _ run ih => exact (keeps _ ih).exec run
  exact (keeps t between).stops stop

/-- A program whose results and whose failures have a postcondition each. -/
def Meets (H : Handler σ Cmd Resp) (Q : α → σ → Prop) (E : σ → Prop) (p : Prog Cmd Resp ε α)
    (s : σ) : Prop :=
  Safe H (fun _ => True) (fun o t => match o with
    | .ok a => Q a t
    | .error _ => E t) p s

section Meets

variable {Q : α → σ → Prop} {R : β → σ → Prop} {E F : σ → Prop} {p : Prog Cmd Resp ε α} {s t : σ}

theorem Meets.ret {a : α} (post : Q a s) : Meets H Q E (.ret a : Prog Cmd Resp ε α) s := post

theorem Meets.fail {e : ε} (post : E s) : Meets H Q E (.fail e : Prog Cmd Resp ε α) s := post

theorem Meets.call {c : Cmd} {k : Resp c → Prog Cmd Resp ε α}
    (next : ∀ r u, H s c r u → Meets H Q E (k r) u) : Meets H Q E (.call c k) s :=
  ⟨trivial, next⟩

theorem Meets.mono {Q' : α → σ → Prop} (meets : Meets H Q E p s)
    (result : ∀ a t, Q a t → Q' a t) (failure : ∀ t, E t → F t) : Meets H Q' F p s := by
  apply Safe.mono meets (fun _ _ => trivial)
  rintro (e | a) t post
  · exact failure t post
  · exact result a t post

theorem Meets.bind {f : α → Prog Cmd Resp ε β} (first : Meets H Q E p s)
    (next : ∀ a t, Q a t → Meets H R E (f a) t) : Meets H R E (p.bind f) s := by
  apply Safe.bind
  apply Safe.mono first (fun _ _ => trivial)
  rintro (e | a) t post
  · exact post
  · exact next a t post

theorem Meets.attempt (meets : Meets H Q E p s) :
    Meets H (fun o t => match o with
      | .ok a => Q a t
      | .error _ => E t) F (p.attempt : Prog Cmd Resp ε' (Except ε α)) s := by
  apply Safe.attempt
  apply Safe.mono meets (fun _ _ => trivial)
  rintro (e | a) t post
  · exact post
  · exact post

theorem Meets.exec_ok {a : α} (meets : Meets H Q E p s) (run : Exec H p s (.ok a) t) : Q a t :=
  Safe.exec meets run

theorem Meets.exec_error {e : ε} (meets : Meets H Q E p s) (run : Exec H p s (.error e) t) : E t :=
  Safe.exec meets run

end Meets

/-- The handler that also keeps a record of what has happened at the commands. -/
def Handler.watching {γ : Type} (H : Handler σ Cmd Resp)
    (next : γ → σ → (c : Cmd) → Resp c → σ → γ) : Handler (σ × γ) Cmd Resp :=
  fun s c r u => H s.1 c r u.1 ∧ u.2 = next s.2 s.1 c r u.1

section Watching

variable {γ : Type} {next : γ → σ → (c : Cmd) → Resp c → σ → γ} {p : Prog Cmd Resp ε α}
  {s u : σ} {g : γ} {o : Except ε α}

/-- Every run can be watched. -/
theorem Exec.watched (run : Exec H p s o u) (g : γ) :
    ∃ g', Exec (H.watching next) p (s, g) o (u, g') := by
  induction run generalizing g with
  | ret a s => exact ⟨g, .ret a _⟩
  | fail e s => exact ⟨g, .fail e _⟩
  | @call c k s v t r o step rest ih =>
    obtain ⟨g', watched⟩ := ih (next g s c r v)
    have first : (H.watching next) (s, g) c r (v, next g s c r v) := ⟨step, rfl⟩
    exact ⟨g', .call first watched⟩

theorem Meets.call_watching {Q : α → σ × γ → Prop} {E : σ × γ → Prop} {c : Cmd}
    {k : Resp c → Prog Cmd Resp ε α}
    (step : ∀ r u, H s c r u → Meets (H.watching next) Q E (k r) (u, next g s c r u)) :
    Meets (H.watching next) Q E (.call c k) (s, g) := by
  refine .call ?_
  rintro r ⟨u, g'⟩ ⟨answered, same⟩
  obtain rfl : g' = next g s c r u := same
  exact step r u answered

end Watching

/-- The handler that also notes whether something has happened at one of the commands. -/
def Handler.noting (H : Handler σ Cmd Resp) (note : σ → (c : Cmd) → Resp c → σ → Bool) :
    Handler (σ × Bool) Cmd Resp :=
  fun s c r u => H s.1 c r u.1 ∧ u.2 = (s.2 || note s.1 c r u.1)

/-- A run is one under every handler that allows more. -/
theorem Exec.mono {K : Handler σ Cmd Resp} {p : Prog Cmd Resp ε α} {s t : σ} {o : Except ε α}
    (run : Exec H p s o t) (more : ∀ s c r u, H s c r u → K s c r u) : Exec K p s o t := by
  induction run with
  | ret a s => exact .ret a s
  | fail e s => exact .fail e s
  | call step _ ih => exact .call (more _ _ _ _ step) ih

/-- A run with notes is a run. -/
theorem Exec.of_noting {note : σ → (c : Cmd) → Resp c → σ → Bool} {p : Prog Cmd Resp ε α}
    {s t : σ × Bool} {o : Except ε α} (run : Exec (H.noting note) p s o t) :
    Exec H p s.1 o t.1 := by
  induction run with
  | ret a s => exact .ret a _
  | fail e s => exact .fail e _
  | call step _ ih => exact .call step.1 ih

theorem exec_call_noting {note : σ → (c : Cmd) → Resp c → σ → Bool} {c : Cmd}
    {k : Resp c → Prog Cmd Resp ε α} {s : σ} {b : Bool} {t : σ × Bool} {o : Except ε α} :
    Exec (H.noting note) (.call c k) (s, b) o t ↔
      ∃ r u, H s c r u ∧ Exec (H.noting note) (k r) (u, b || note s c r u) o t := by
  rw [exec_call]
  constructor
  · rintro ⟨r, ⟨u, noted⟩, ⟨step, same⟩, rest⟩
    obtain rfl : noted = (b || note s c r u) := same
    exact ⟨r, u, step, rest⟩
  · rintro ⟨r, u, step, rest⟩
    exact ⟨r, (u, _), ⟨step, rfl⟩, rest⟩

theorem safe_call_noting {note : σ → (c : Cmd) → Resp c → σ → Bool} {I : σ × Bool → Prop}
    {Q : Except ε α → σ × Bool → Prop} {c : Cmd} {k : Resp c → Prog Cmd Resp ε α} {s : σ}
    {b : Bool} : Safe (H.noting note) I Q (.call c k) (s, b) ↔
      I (s, b) ∧ ∀ r u, H s c r u → Safe (H.noting note) I Q (k r) (u, b || note s c r u) := by
  rw [safe_call]
  constructor
  · rintro ⟨kept, next⟩
    exact ⟨kept, fun r u step => next r (u, _) ⟨step, rfl⟩⟩
  · rintro ⟨kept, next⟩
    refine ⟨kept, ?_⟩
    rintro r ⟨u, noted⟩ ⟨step, same⟩
    obtain rfl : noted = (b || note s c r u) := same
    exact next r u step

/-- The handler without the answers at which something happens. -/
def Handler.without (H : Handler σ Cmd Resp) (note : σ → (c : Cmd) → Resp c → σ → Bool) :
    Handler σ Cmd Resp :=
  fun s c r u => H s c r u ∧ note s c r u = false

section Noted

variable {note : σ → (c : Cmd) → Resp c → σ → Bool} {p : Prog Cmd Resp ε α} {s u : σ}
  {o : Except ε α}

theorem Exec.noted {s t : σ × Bool} (run : Exec (H.noting note) p s o t) (before : s.2 = true) :
    t.2 = true := by
  induction run with
  | ret a s => exact before
  | fail e s => exact before
  | call step _ ih =>
    apply ih
    rw [step.2, before, Bool.true_or]

/-- A run in which nothing is noted. -/
theorem Exec.of_unnoted {b : Bool} (run : Exec (H.noting note) p (s, b) o (u, false)) :
    Exec (H.without note) p s o u := by
  induction p generalizing s b with
  | ret a =>
    obtain ⟨rfl, same⟩ := exec_ret.1 run
    cases same
    exact .ret a u
  | fail e =>
    obtain ⟨rfl, same⟩ := exec_fail.1 run
    cases same
    exact .fail e u
  | call c k ih =>
    obtain ⟨r, v, step, rest⟩ := exec_call_noting.1 run
    have unnoted : note s c r v = false := by
      cases noted : note s c r v with
      | false => rfl
      | true =>
        have flag : (b || note s c r v) = true := by rw [noted, Bool.or_true]
        exact absurd (rest.noted flag) (by simp)
    exact .call ⟨step, unnoted⟩ (ih r rest)

/-- A program that fails at the answers of a kind has failed if one was noted. -/
theorem Prog.FailsAt.exec {bad : (c : Cmd) → Resp c → Bool} (fails : p.FailsAt bad)
    (run : Exec (H.noting fun _ c r _ => bad c r) p (s, false) o (u, true)) :
    ∃ e, o = .error e := by
  induction fails generalizing s with
  | ret =>
    obtain ⟨-, same⟩ := exec_ret.1 run
    cases same
  | fail => exact ⟨_, (exec_fail.1 run).1⟩
  | call failed _ ih =>
    obtain ⟨r, v, step, rest⟩ := exec_call_noting.1 run
    rw [Bool.false_or] at rest
    cases is_bad : bad _ r with
    | true =>
      obtain ⟨e, same⟩ := failed r is_bad
      rw [same] at rest
      exact ⟨e, (exec_fail.1 rest).1⟩
    | false =>
      rw [is_bad] at rest
      exact ih r rest

end Noted

/-- A program that keeps an invariant and fails exactly when something is noted. -/
structure FailsWhen (H : Handler σ Cmd Resp) (note : σ → (c : Cmd) → Resp c → σ → Bool)
    (I : σ → Prop) (p : Prog Cmd Resp ε α) : Prop where
  safe : ∀ s, I s → Safe (H.noting note) (fun t => I t.1)
    (fun o t => I t.1 ∧ t.2 = !o.isOk) p (s, false)

section FailsWhen

variable {note : σ → (c : Cmd) → Resp c → σ → Bool} {p : Prog Cmd Resp ε α}

theorem FailsWhen.ret (a : α) : FailsWhen H note I (.ret a : Prog Cmd Resp ε α) :=
  ⟨fun _ kept => ⟨kept, rfl⟩⟩

theorem FailsWhen.bind {f : α → Prog Cmd Resp ε β} (first : FailsWhen H note I p)
    (rest : ∀ a, FailsWhen H note I (f a)) : FailsWhen H note I (p.bind f) := by
  constructor
  intro s kept
  apply Safe.bind
  apply Safe.mono (first.safe s kept) (fun _ kept => kept)
  rintro (e | a) ⟨t, noted⟩ ⟨kept, rfl⟩
  · exact ⟨kept, rfl⟩
  · exact (rest a).safe t kept

/-- A command that keeps the invariant and is not noted. -/
theorem FailsWhen.call {c : Cmd} {k : Resp c → Prog Cmd Resp ε α}
    (keeps : ∀ s r u, I s → H s c r u → I u ∧ note s c r u = false)
    (rest : ∀ r, FailsWhen H note I (k r)) : FailsWhen H note I (.call c k) := by
  constructor
  intro s kept
  refine safe_call_noting.2 ⟨kept, fun r u step => ?_⟩
  obtain ⟨kept, unnoted⟩ := keeps s r u kept step
  rw [unnoted]
  exact (rest r).safe u kept

theorem FailsWhen.exec {s u : σ} {noted : Bool} {o : Except ε α} (fails : FailsWhen H note I p)
    (kept : I s) (run : Exec (H.noting note) p (s, false) o (u, noted)) :
    I u ∧ noted = !o.isOk :=
  (fails.safe s kept).exec run

end FailsWhen

/-- The handler that remembers every command and its answer, among the allowed ones. -/
def logging (allowed : (c : Cmd) → Resp c → Prop) : Handler (List (Sigma Resp)) Cmd Resp :=
  fun log c r log' => allowed c r ∧ log' = log ++ [⟨c, r⟩]

end Semantics

end NexusCore.Lib
