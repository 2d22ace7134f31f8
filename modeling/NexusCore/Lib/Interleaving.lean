import Mathlib.Data.List.Induction
import Mathlib.Data.Multiset.MapFold
import NexusCore.Lib.Program
import NexusCore.Lib.System

/-!
# Interleaved calls

Any number of calls run on one shared state. A step starts a call, lets one of the calls issue its
next command, or ends a call that has a result. A discipline says what a call still owes after
the answers that it has been given, so that an invariant can speak about the shared state and what
all calls together owe.
-/

namespace NexusCore.Lib

/-- A call in progress: its program, the commands it has issued, and what is left of it. -/
structure Call (Cmd : Type) (Resp : Cmd → Type) (ε α : Type) where
  program : Prog Cmd Resp ε α
  log : List (Sigma Resp)
  rest : Prog Cmd Resp ε α

/-- A shared state and the calls in progress. -/
structure Busy (σ Cmd : Type) (Resp : Cmd → Type) (ε α : Type) where
  state : σ
  calls : Multiset (Call Cmd Resp ε α)

/-- What happens in a step: a command comes with the call after its answer and with the other
calls in progress. -/
inductive Move (Cmd : Type) (Resp : Cmd → Type) (ε α : Type) where
  | start (p : Prog Cmd Resp ε α)
  | command (c : Cmd) (r : Resp c) (call : Call Cmd Resp ε α) (others : Multiset (Call Cmd Resp ε α))
  | finish (call : Call Cmd Resp ε α) (o : Except ε α)

variable {σ Cmd γ : Type} {Resp : Cmd → Type} {ε α : Type}

/-- A call that is about to start. -/
def Call.new (p : Prog Cmd Resp ε α) : Call Cmd Resp ε α := ⟨p, [], p⟩

/-- One step of the calls. -/
inductive Interleaved (H : Handler σ Cmd Resp) (may : Prog Cmd Resp ε α → Prop) :
    Busy σ Cmd Resp ε α → Move Cmd Resp ε α → Busy σ Cmd Resp ε α → Prop where
  | start {s : σ} {calls : Multiset (Call Cmd Resp ε α)} {p : Prog Cmd Resp ε α} : may p →
      Interleaved H may ⟨s, calls⟩ (.start p) ⟨s, .new p ::ₘ calls⟩
  | command {s u : σ} {others : Multiset (Call Cmd Resp ε α)} {p : Prog Cmd Resp ε α}
      {log : List (Sigma Resp)} {c : Cmd} {k : Resp c → Prog Cmd Resp ε α} {r : Resp c} :
      H s c r u → Interleaved H may ⟨s, ⟨p, log, .call c k⟩ ::ₘ others⟩
        (.command c r ⟨p, log ++ [⟨c, r⟩], k r⟩ others) ⟨u, ⟨p, log ++ [⟨c, r⟩], k r⟩ ::ₘ others⟩
  | ret {s : σ} {others : Multiset (Call Cmd Resp ε α)} {p : Prog Cmd Resp ε α}
      {log : List (Sigma Resp)} {a : α} :
      Interleaved H may ⟨s, ⟨p, log, .ret a⟩ ::ₘ others⟩ (.finish ⟨p, log, .ret a⟩ (.ok a))
        ⟨s, others⟩
  | fail {s : σ} {others : Multiset (Call Cmd Resp ε α)} {p : Prog Cmd Resp ε α}
      {log : List (Sigma Resp)} {e : ε} :
      Interleaved H may ⟨s, ⟨p, log, .fail e⟩ ::ₘ others⟩ (.finish ⟨p, log, .fail e⟩ (.error e))
        ⟨s, others⟩

/-- What a call may do with what it owes, and what it owes after an answer. -/
structure Discipline (Cmd : Type) (Resp : Cmd → Type) (γ : Type) where
  permits : γ → Cmd → Prop
  next : γ → (c : Cmd) → Resp c → γ
  clear : γ → Prop

/-- Whatever it is answered, a program does what it owes. -/
inductive Discipline.Follows (D : Discipline Cmd Resp γ) : γ → Prog Cmd Resp ε α → Prop where
  | ret {g : γ} {a : α} : D.clear g → Follows D g (.ret a)
  | fail {g : γ} {e : ε} : D.clear g → Follows D g (.fail e)
  | call {g : γ} {c : Cmd} {k : Resp c → Prog Cmd Resp ε α} : D.permits g c →
      (∀ r, Follows D (D.next g c r) (k r)) → Follows D g (.call c k)

/-- The calls owe something each, and the state has an invariant with what they owe. -/
def Disciplined (D : Discipline Cmd Resp γ) (Inv : σ → Multiset γ → Prop)
    (b : Busy σ Cmd Resp ε α) : Prop :=
  ∃ owed, Multiset.Rel (fun g call => D.Follows g call.rest) owed b.calls ∧ Inv b.state owed

section Disciplined

variable {D : Discipline Cmd Resp γ} {Inv : σ → Multiset γ → Prop} {H : Handler σ Cmd Resp}
  {may : Prog Cmd Resp ε α → Prop} {b b' : Busy σ Cmd Resp ε α} {m : Move Cmd Resp ε α}

theorem Disciplined.idle {s : σ} (start : Inv s 0) :
    Disciplined D Inv (⟨s, 0⟩ : Busy σ Cmd Resp ε α) :=
  ⟨0, .zero, start⟩

theorem Disciplined.of_idle {s : σ} (kept : Disciplined D Inv (⟨s, 0⟩ : Busy σ Cmd Resp ε α)) :
    Inv s 0 := by
  obtain ⟨owed, follow, holds⟩ := kept
  obtain rfl := Multiset.rel_zero_right.1 follow
  exact holds

/-- At a command, the call that issues it follows what it owes, and so do the others. -/
theorem Disciplined.at_command {s : σ} {others : Multiset (Call Cmd Resp ε α)}
    {p : Prog Cmd Resp ε α} {log : List (Sigma Resp)} {c : Cmd} {k : Resp c → Prog Cmd Resp ε α}
    (kept : Disciplined D Inv ⟨s, ⟨p, log, .call c k⟩ ::ₘ others⟩) :
    ∃ g owed, D.permits g c ∧ (∀ r, D.Follows (D.next g c r) (k r)) ∧
      Multiset.Rel (fun g call => D.Follows g call.rest) owed others ∧ Inv s (g ::ₘ owed) := by
  obtain ⟨all, related, holds⟩ := kept
  obtain ⟨g, owed, follows, follow, rfl⟩ := Multiset.rel_cons_right.1 related
  cases follows with
  | call permitted later => exact ⟨g, owed, permitted, later, follow, holds⟩

/-- An invariant that every permitted command keeps, with what is owed after it. -/
theorem Disciplined.step {Cond : Transition (Busy σ Cmd Resp ε α) (Move Cmd Resp ε α) → Prop}
    (opens : ∀ p, may p → ∃ g, D.Follows g p ∧ ∀ s owed, Inv s owed → Inv s (g ::ₘ owed))
    (closes : ∀ s g owed, D.clear g → Inv s (g ::ₘ owed) → Inv s owed)
    (keeps : ∀ s g owed c r u call others before, Inv s (g ::ₘ owed) → D.permits g c →
      D.Follows (D.next g c r) call.rest →
      Multiset.Rel (fun g call => D.Follows g call.rest) owed others → H s c r u →
      Cond ⟨before, .command c r call others, ⟨u, call ::ₘ others⟩⟩ →
      Inv u (D.next g c r ::ₘ owed))
    (kept : Disciplined D Inv b) (step : Interleaved H may b m b') (cond : Cond ⟨b, m, b'⟩) :
    Disciplined D Inv b' := by
  cases step with
  | start allowed =>
    obtain ⟨owed, follow, holds⟩ := kept
    obtain ⟨g, follows, opened⟩ := opens _ allowed
    exact ⟨g ::ₘ owed, follow.cons follows, opened _ _ holds⟩
  | command answered =>
    obtain ⟨g, owed, permitted, later, follow, holds⟩ := kept.at_command
    exact ⟨_, follow.cons (later _), keeps _ _ _ _ _ _ _ _ _ holds permitted (later _) follow
      answered cond⟩
  | ret =>
    obtain ⟨all, related, holds⟩ := kept
    obtain ⟨g, owed, follows, follow, rfl⟩ := Multiset.rel_cons_right.1 related
    cases follows with
    | ret clear => exact ⟨owed, follow, closes _ _ _ clear holds⟩
  | fail =>
    obtain ⟨all, related, holds⟩ := kept
    obtain ⟨g, owed, follows, follow, rfl⟩ := Multiset.rel_cons_right.1 related
    cases follows with
    | fail clear => exact ⟨owed, follow, closes _ _ _ clear holds⟩

end Disciplined

section Accounted

/-- What the environment may answer to a command, by what the call owes that issues it. -/
abbrev Assumption (Cmd : Type) (Resp : Cmd → Type) (γ : Type) : Type :=
  γ → (c : Cmd) → Resp c → Prop

/-- As long as it is answered as it assumes, a program does what it owes; `exits` says what it may
owe with a result. -/
inductive Discipline.Upholds (D : Discipline Cmd Resp γ) (assumes : Assumption Cmd Resp γ)
    (exits : γ → Except ε α → Prop) : γ → Prog Cmd Resp ε α → Prop where
  | ret {g : γ} {a : α} : exits g (.ok a) → Upholds D assumes exits g (.ret a)
  | fail {g : γ} {e : ε} : exits g (.error e) → Upholds D assumes exits g (.fail e)
  | call {g : γ} {c : Cmd} {k : Resp c → Prog Cmd Resp ε α} : D.permits g c →
      (∀ r, assumes g c r → Upholds D assumes exits (D.next g c r) (k r)) →
      Upholds D assumes exits g (.call c k)

/-- What a call owes after the answers that it has been given. -/
def Discipline.owes (D : Discipline Cmd Resp γ) (start : γ) (call : Call Cmd Resp ε α) : γ :=
  call.log.foldl (fun g entry => D.next g entry.1 entry.2) start

/-- Every call does what it owes after its answers, and the state has an invariant with what all
calls owe. -/
structure Accounted (D : Discipline Cmd Resp γ) (assumes : Assumption Cmd Resp γ) (start : γ)
    (Inv : σ → Multiset γ → Prop) (b : Busy σ Cmd Resp ε α) : Prop where
  upholds : ∀ call ∈ b.calls, D.Upholds assumes (fun g _ => D.clear g) (D.owes start call) call.rest
  holds : Inv b.state (b.calls.map (D.owes start))

variable {D : Discipline Cmd Resp γ} {assumes : Assumption Cmd Resp γ} {start : γ}
  {Inv : σ → Multiset γ → Prop} {H : Handler σ Cmd Resp} {may : Prog Cmd Resp ε α → Prop}

theorem Discipline.Upholds.bind {β : Type} {exits : γ → Except ε α → Prop}
    {exits' : γ → Except ε β → Prop} {g : γ} {p : Prog Cmd Resp ε α}
    {f : α → Prog Cmd Resp ε β} (first : D.Upholds assumes exits g p)
    (rest : ∀ g a, exits g (.ok a) → D.Upholds assumes exits' g (f a))
    (failed : ∀ g e, exits g (.error e) → exits' g (.error e)) :
    D.Upholds assumes exits' g (p.bind f) := by
  induction first with
  | ret exit => exact rest _ _ exit
  | fail exit => exact .fail (failed _ _ exit)
  | call permitted _ ih => exact .call permitted ih

theorem Discipline.Upholds.mono {exits exits' : γ → Except ε α → Prop} {g : γ}
    {p : Prog Cmd Resp ε α} (first : D.Upholds assumes exits g p)
    (weaker : ∀ g o, exits g o → exits' g o) : D.Upholds assumes exits' g p := by
  induction first with
  | ret exit => exact .ret (weaker _ _ exit)
  | fail exit => exact .fail (weaker _ _ exit)
  | call permitted _ ih => exact .call permitted ih

theorem Discipline.Upholds.attempt {ε' : Type} {exits : γ → Except ε α → Prop} {g : γ}
    {p : Prog Cmd Resp ε α} (first : D.Upholds assumes exits g p) :
    D.Upholds assumes (fun g o => ∃ result, o = .ok result ∧ exits g result) g
      (p.attempt : Prog Cmd Resp ε' (Except ε α)) := by
  induction first with
  | ret exit => exact .ret ⟨_, rfl, exit⟩
  | fail exit => exact .ret ⟨_, rfl, exit⟩
  | call permitted _ ih => exact .call permitted ih

/-- A program that does what it owes does so over a larger set of commands. -/
theorem Discipline.Upholds.relabel {Cmd' : Type} {Resp' : Cmd' → Type} {D' : Discipline Cmd' Resp' γ}
    {assumes' : Assumption Cmd' Resp' γ} {f : Cmd → Cmd'} {back : (c : Cmd) → Resp' (f c) → Resp c}
    {exits : γ → Except ε α → Prop} {g : γ} {p : Prog Cmd Resp ε α}
    (first : D.Upholds assumes exits g p) (permits : ∀ g c, D.permits g c → D'.permits g (f c))
    (next : ∀ g c r, D'.next g (f c) r = D.next g c (back c r))
    (assumed : ∀ g c r, assumes' g (f c) r → assumes g c (back c r)) :
    D'.Upholds assumes' exits g (p.relabel f back) := by
  induction first with
  | ret exit => exact .ret exit
  | fail exit => exact .fail exit
  | call permitted _ ih =>
    refine .call (permits _ _ permitted) fun r given => ?_
    rw [next]
    exact ih _ (assumed _ _ _ given)

/-- What holds of the answers of a call together with what it owes after them. -/
theorem Discipline.owes_of_log (D : Discipline Cmd Resp γ) (start : γ)
    (P : List (Sigma Resp) → γ → Prop) (none : P [] start)
    (more : ∀ log g c r, P log g → P (log ++ [⟨c, r⟩]) (D.next g c r))
    (call : Call Cmd Resp ε α) : P call.log (D.owes start call) := by
  unfold Discipline.owes
  induction call.log using List.reverseRecOn with
  | nil => exact none
  | append_singleton log entry ih =>
    rw [List.foldl_append]
    exact more log _ entry.1 entry.2 ih

/-- What a call owes after one more answer. -/
theorem Discipline.owes_snoc {p rest rest' : Prog Cmd Resp ε α} {log : List (Sigma Resp)} {c : Cmd}
    {r : Resp c} : D.owes start (⟨p, log ++ [⟨c, r⟩], rest'⟩ : Call Cmd Resp ε α) =
      D.next (D.owes start (⟨p, log, rest⟩ : Call Cmd Resp ε α)) c r := by
  simp [Discipline.owes]

/-- A call may issue its next command, and the invariant holds with what it owes. -/
theorem Accounted.at_command {s : σ} {others : Multiset (Call Cmd Resp ε α)}
    {p : Prog Cmd Resp ε α} {log : List (Sigma Resp)} {c : Cmd} {k : Resp c → Prog Cmd Resp ε α}
    (kept : Accounted D assumes start Inv ⟨s, ⟨p, log, .call c k⟩ ::ₘ others⟩) :
    D.permits (D.owes start (⟨p, log, .call c k⟩ : Call Cmd Resp ε α)) c ∧
      Inv s (D.owes start (⟨p, log, .call c k⟩ : Call Cmd Resp ε α) ::ₘ
        others.map (D.owes start)) := by
  have holds := kept.holds
  rw [Multiset.map_cons] at holds
  have current := kept.upholds _ (Multiset.mem_cons_self _ _)
  cases current with
  | call permitted later => exact ⟨permitted, holds⟩

theorem Accounted.idle {s : σ} (holds : Inv s 0) :
    Accounted D assumes start Inv (⟨s, 0⟩ : Busy σ Cmd Resp ε α) where
  upholds := fun call mem => absurd mem (Multiset.notMem_zero call)
  holds := holds

/-- A step leads from one invariant to another, under a condition on it. What the calls assume
follows from the invariant. -/
theorem Accounted.step_to {Inv' : σ → Multiset γ → Prop}
    {Cond : Transition (Busy σ Cmd Resp ε α) (Move Cmd Resp ε α) → Prop}
    (opens : ∀ p before after, may p → Cond ⟨before, .start p, after⟩ →
      D.Upholds assumes (fun g _ => D.clear g) start p)
    (opened : ∀ s owed p before after, Cond ⟨before, .start p, after⟩ → Inv s owed →
      Inv' s (start ::ₘ owed))
    (closes : ∀ s g owed call o before after, Cond ⟨before, .finish call o, after⟩ → D.clear g →
      Inv s (g ::ₘ owed) → Inv' s owed)
    (keeps : ∀ s p log c k r u others after,
      Inv s (D.owes start (⟨p, log, .call c k⟩ : Call Cmd Resp ε α) ::ₘ
        others.map (D.owes start)) →
      D.permits (D.owes start (⟨p, log, .call c k⟩ : Call Cmd Resp ε α)) c → H s c r u →
      Cond ⟨⟨s, ⟨p, log, .call c k⟩ ::ₘ others⟩,
        .command c r ⟨p, log ++ [⟨c, r⟩], k r⟩ others, after⟩ →
      assumes (D.owes start (⟨p, log, .call c k⟩ : Call Cmd Resp ε α)) c r ∧
        Inv' u (D.next (D.owes start (⟨p, log, .call c k⟩ : Call Cmd Resp ε α)) c r ::ₘ
          others.map (D.owes start)))
    {b b' : Busy σ Cmd Resp ε α} {m : Move Cmd Resp ε α}
    (kept : Accounted D assumes start Inv b) (step : Interleaved H may b m b')
    (cond : Cond ⟨b, m, b'⟩) : Accounted D assumes start Inv' b' := by
  obtain ⟨upholds, holds⟩ := kept
  cases step with
  | @start s calls p allowed =>
    constructor
    · intro call mem
      rcases Multiset.mem_cons.1 mem with rfl | old
      · exact opens p _ _ allowed cond
      · exact upholds call old
    · rw [Multiset.map_cons]
      exact opened s _ _ _ _ cond holds
  | @command s u others p log c k r answered =>
    rw [Multiset.map_cons] at holds
    have next : D.owes start (⟨p, log ++ [⟨c, r⟩], k r⟩ : Call Cmd Resp ε α) =
        D.next (D.owes start (⟨p, log, .call c k⟩ : Call Cmd Resp ε α)) c r :=
      Discipline.owes_snoc
    have current := upholds _ (Multiset.mem_cons_self _ _)
    cases current with
    | call permitted later =>
      obtain ⟨assumed, kept⟩ := keeps s p log c k r u others _ holds permitted answered cond
      constructor
      · intro call mem
        rcases Multiset.mem_cons.1 mem with rfl | old
        · rw [next]
          exact later r assumed
        · exact upholds call (Multiset.mem_cons_of_mem old)
      · rw [Multiset.map_cons, next]
        exact kept
  | @ret s others p log a =>
    rw [Multiset.map_cons] at holds
    have current := upholds _ (Multiset.mem_cons_self _ _)
    cases current with
    | ret clear =>
      refine ⟨fun call mem => upholds call (Multiset.mem_cons_of_mem mem), ?_⟩
      exact closes s _ _ _ _ _ _ cond clear holds
  | @fail s others p log e =>
    rw [Multiset.map_cons] at holds
    have current := upholds _ (Multiset.mem_cons_self _ _)
    cases current with
    | fail clear =>
      refine ⟨fun call mem => upholds call (Multiset.mem_cons_of_mem mem), ?_⟩
      exact closes s _ _ _ _ _ _ cond clear holds

/-- A step leads from one invariant to another when a permitted command does, under a condition on
it, and neither the start nor the end of a call matters. -/
theorem Accounted.step_of {Inv' : σ → Multiset γ → Prop}
    {Cond : Transition (Busy σ Cmd Resp ε α) (Move Cmd Resp ε α) → Prop}
    (opens : ∀ p before after, may p → Cond ⟨before, .start p, after⟩ →
      D.Upholds assumes (fun g _ => D.clear g) start p)
    (opened : ∀ s owed, Inv s owed → Inv' s (start ::ₘ owed))
    (closes : ∀ s g owed, D.clear g → Inv s (g ::ₘ owed) → Inv' s owed)
    (keeps : ∀ s p log c k r u others after,
      Inv s (D.owes start (⟨p, log, .call c k⟩ : Call Cmd Resp ε α) ::ₘ
        others.map (D.owes start)) →
      D.permits (D.owes start (⟨p, log, .call c k⟩ : Call Cmd Resp ε α)) c → H s c r u →
      Cond ⟨⟨s, ⟨p, log, .call c k⟩ ::ₘ others⟩,
        .command c r ⟨p, log ++ [⟨c, r⟩], k r⟩ others, after⟩ →
      assumes (D.owes start (⟨p, log, .call c k⟩ : Call Cmd Resp ε α)) c r ∧
        Inv' u (D.next (D.owes start (⟨p, log, .call c k⟩ : Call Cmd Resp ε α)) c r ::ₘ
          others.map (D.owes start)))
    {b b' : Busy σ Cmd Resp ε α} {m : Move Cmd Resp ε α}
    (kept : Accounted D assumes start Inv b) (step : Interleaved H may b m b')
    (cond : Cond ⟨b, m, b'⟩) : Accounted D assumes start Inv' b' := by
  refine kept.step_to opens ?_ ?_ keeps step cond
  · intro s owed _ _ _ _ holds
    exact opened s owed holds
  · intro s g owed _ _ _ _ _ clear holds
    exact closes s g owed clear holds

/-- An invariant that every permitted command keeps, under a condition that does not look at what the
calls owe. -/
theorem Accounted.step {Cond : Transition (Busy σ Cmd Resp ε α) (Move Cmd Resp ε α) → Prop}
    (opens : ∀ p before after, may p → Cond ⟨before, .start p, after⟩ →
      D.Upholds assumes (fun g _ => D.clear g) start p)
    (opened : ∀ s owed, Inv s owed → Inv s (start ::ₘ owed))
    (closes : ∀ s g owed, D.clear g → Inv s (g ::ₘ owed) → Inv s owed)
    (keeps : ∀ s calls g owed c r u call others after, Inv s (g ::ₘ owed) → D.permits g c →
      H s c r u → Cond ⟨⟨s, calls⟩, .command c r call others, after⟩ →
      assumes g c r ∧ Inv u (D.next g c r ::ₘ owed))
    {b b' : Busy σ Cmd Resp ε α} {m : Move Cmd Resp ε α}
    (kept : Accounted D assumes start Inv b) (step : Interleaved H may b m b')
    (cond : Cond ⟨b, m, b'⟩) : Accounted D assumes start Inv b' := by
  refine kept.step_of opens opened closes ?_ step cond
  intro s p log c k r u others after holds permitted answered cond
  exact keeps s _ _ _ c r u _ others after holds permitted answered cond

end Accounted

section Issued

variable {H : Handler σ Cmd Resp} {may : Prog Cmd Resp ε α → Prop} {s : σ}
  {t : Busy σ Cmd Resp ε α} {moves : List (Transition (Busy σ Cmd Resp ε α) (Move Cmd Resp ε α))}

/-- A call has issued what its program may issue, and will. -/
def Call.Within (P : Cmd → Prop) (call : Call Cmd Resp ε α) : Prop :=
  (∀ entry ∈ call.log, P entry.1) ∧ call.rest.Issues P

/-- A call issues what its program issues. -/
theorem issued_of_run {P : Cmd → Prop} (run : Run (Interleaved H may) ⟨s, 0⟩ moves t) :
    ∀ x ∈ moves, ∀ c r call others, x.label = .command c r call others →
      call.program.Issues P → ∀ entry ∈ call.log, P entry.1 := by
  have keeps : ∀ b m b', (∀ call ∈ b.calls, call.program.Issues P → call.Within P) →
      Interleaved H may b m b' → ∀ call ∈ b'.calls, call.program.Issues P → call.Within P := by
    intro b m b' within step
    cases step with
    | start allowed =>
      intro call mem issues
      rcases Multiset.mem_cons.1 mem with rfl | old
      · exact ⟨fun _ mem => absurd mem List.not_mem_nil, issues⟩
      · exact within call old issues
    | command answered =>
      intro call mem issues
      rcases Multiset.mem_cons.1 mem with rfl | old
      · obtain ⟨logged, rest⟩ := within _ (Multiset.mem_cons_self _ _) issues
        cases rest with
        | call issued later =>
          refine ⟨?_, later _⟩
          intro entry mem
          rcases List.mem_append.1 mem with old | new
          · exact logged entry old
          · obtain rfl := List.mem_singleton.1 new
            exact issued
      · exact within call (Multiset.mem_cons_of_mem old) issues
    | ret => exact fun call mem => within call (Multiset.mem_cons_of_mem mem)
    | fail => exact fun call mem => within call (Multiset.mem_cons_of_mem mem)
  have any : ∀ x ∈ moves, (fun _ => True) x := fun _ _ => trivial
  refine run.forall_of (fun b => ∀ call ∈ b.calls, call.program.Issues P → call.Within P)
    (fun b m b' within step _ => keeps b m b' within step) ?_
    (fun call mem => absurd mem (Multiset.notMem_zero call)) any
  intro b m b' within step _ c r call others same issues
  have after := keeps b m b' within step
  cases step with
  | command answered =>
    cases same
    exact (after _ (Multiset.mem_cons_self _ _) issues).1
  | start | ret | fail => cases same

end Issued

section Calls

variable {H : Handler σ Cmd Resp} {may : Prog Cmd Resp ε α → Prop} {s : σ}
  {t : Busy σ Cmd Resp ε α} {moves : List (Transition (Busy σ Cmd Resp ε α) (Move Cmd Resp ε α))}

/-- What holds of a call when it starts, and after each answer, holds of all calls of a run. -/
theorem calls_of_run {Q : Call Cmd Resp ε α → Prop} (opens : ∀ p, may p → Q (.new p))
    (answered : ∀ p log c k r, Q ⟨p, log, .call c k⟩ → Q ⟨p, log ++ [⟨c, r⟩], k r⟩)
    (run : Run (Interleaved H may) ⟨s, 0⟩ moves t) : ∀ x ∈ moves,
      (∀ c r call others, x.label = .command c r call others →
        ∃ p log k, call = ⟨p, log ++ [⟨c, r⟩], k r⟩ ∧ Q ⟨p, log, .call c k⟩) ∧
      ∀ call o, x.label = .finish call o → Q call ∧ call.rest = .lift o := by
  have keeps : ∀ b m b', (∀ call ∈ b.calls, Q call) → Interleaved H may b m b' →
      ∀ call ∈ b'.calls, Q call := by
    intro b m b' all step
    cases step with
    | start allowed =>
      exact Multiset.forall_mem_cons.2 ⟨opens _ allowed, all⟩
    | command given =>
      rw [Multiset.forall_mem_cons] at all ⊢
      exact ⟨answered _ _ _ _ _ all.1, all.2⟩
    | ret => exact (Multiset.forall_mem_cons.1 all).2
    | fail => exact (Multiset.forall_mem_cons.1 all).2
  have any : ∀ x ∈ moves, (fun _ => True) x := fun _ _ => trivial
  refine run.forall_of (fun b => ∀ call ∈ b.calls, Q call)
    (fun b m b' all step _ => keeps b m b' all step) ?_
    (fun call mem => absurd mem (Multiset.notMem_zero call)) any
  intro b m b' all step _
  cases step with
  | start => exact ⟨fun _ _ _ _ same => (nomatch same), fun _ _ same => nomatch same⟩
  | command given =>
    refine ⟨?_, fun _ _ same => nomatch same⟩
    intro c r call others same
    cases same
    exact ⟨_, _, _, rfl, (Multiset.forall_mem_cons.1 all).1⟩
  | ret =>
    refine ⟨fun _ _ _ _ same => (nomatch same), ?_⟩
    intro call o same
    cases same
    exact ⟨(Multiset.forall_mem_cons.1 all).1, rfl⟩
  | fail =>
    refine ⟨fun _ _ _ _ same => (nomatch same), ?_⟩
    intro call o same
    cases same
    exact ⟨(Multiset.forall_mem_cons.1 all).1, rfl⟩

end Calls

section Alone

variable {H : Handler σ Cmd Resp} {may : Prog Cmd Resp ε α → Prop} {s : σ}
  {t : Busy σ Cmd Resp ε α} {moves : List (Transition (Busy σ Cmd Resp ε α) (Move Cmd Resp ε α))}

/-- Every answer that was given to a command is allowed. -/
def AnswersAllowed (allowed : (c : Cmd) → Resp c → Prop)
    (x : Transition (Busy σ Cmd Resp ε α) (Move Cmd Resp ε α)) : Prop :=
  ∀ c r call others, x.label = .command c r call others → allowed c r

/-- Seen by itself, a call that ends is a run of its program with the answers it was given. -/
theorem exec_of_finish {allowed : (c : Cmd) → Resp c → Prop}
    (run : Run (Interleaved H may) ⟨s, 0⟩ moves t) (given : ∀ x ∈ moves, AnswersAllowed allowed x) :
    ∀ x ∈ moves, ∀ call o, x.label = .finish call o →
      may call.program ∧ Exec (logging allowed) call.program [] o call.log := by
  let Started : Busy σ Cmd Resp ε α → Prop := fun b => ∀ call ∈ b.calls, may call.program ∧
    ∀ o log, Exec (logging allowed) call.rest call.log o log →
      Exec (logging allowed) call.program [] o log
  have keeps : ∀ b m b', Started b → Interleaved H may b m b' → AnswersAllowed allowed ⟨b, m, b'⟩ →
      Started b' := by
    intro b m b' started step answers
    cases step with
    | start permitted =>
      intro call mem
      rcases Multiset.mem_cons.1 mem with rfl | old
      · exact ⟨permitted, fun _ _ run => run⟩
      · exact started call old
    | command answered =>
      intro call mem
      rcases Multiset.mem_cons.1 mem with rfl | old
      · obtain ⟨permitted, extends_⟩ := started _ (Multiset.mem_cons_self _ _)
        refine ⟨permitted, fun o log run => extends_ o log (.call ⟨?_, rfl⟩ run)⟩
        exact answers _ _ _ _ rfl
      · exact started call (Multiset.mem_cons_of_mem old)
    | ret => exact fun call mem => started call (Multiset.mem_cons_of_mem mem)
    | fail => exact fun call mem => started call (Multiset.mem_cons_of_mem mem)
  have good : ∀ b m b', Started b → Interleaved H may b m b' → ∀ call o, m = .finish call o →
      may call.program ∧ Exec (logging allowed) call.program [] o call.log := by
    intro b m b' started step call o same
    cases step with
    | start => cases same
    | command => cases same
    | ret =>
      cases same
      obtain ⟨permitted, extends_⟩ := started _ (Multiset.mem_cons_self _ _)
      exact ⟨permitted, extends_ _ _ (.ret _ _)⟩
    | fail =>
      cases same
      obtain ⟨permitted, extends_⟩ := started _ (Multiset.mem_cons_self _ _)
      exact ⟨permitted, extends_ _ _ (.fail _ _)⟩
  have start : Started ⟨s, 0⟩ := fun call mem => absurd mem (Multiset.notMem_zero call)
  exact run.forall_of Started keeps (fun b m b' started step _ => good b m b' started step) start
    given

end Alone

/-- One turn of a schedule: start a call, or let the call at a position go on. -/
inductive Turn (Cmd : Type) (Resp : Cmd → Type) (ε α : Type) where
  | start (p : Prog Cmd Resp ε α)
  | step (i : Nat)

/-- A schedule of calls that have names: a name starts its call, a number lets the call there go on. -/
def schedule {κ : Type} (prog : κ → Prog Cmd Resp ε α) (turns : List (κ ⊕ Nat)) :
    List (Turn Cmd Resp ε α) :=
  turns.map (Sum.elim (fun name => .start (prog name)) .step)

/-- Some calls go on in turn for some rounds. -/
def inTurn {κ : Type} (rounds : Nat) (calls : List Nat) : List (κ ⊕ Nat) :=
  (List.replicate rounds (calls.map Sum.inr)).flatten

theorem named_of_start {κ : Type} {prog : κ → Prog Cmd Resp ε α} {turns : List (κ ⊕ Nat)}
    {p : Prog Cmd Resp ε α} (mem : .start p ∈ schedule prog turns) : ∃ name, p = prog name := by
  obtain ⟨turn, -, same⟩ := List.mem_map.1 mem
  cases turn with
  | inl name => exact ⟨name, (Turn.start.inj same).symm⟩
  | inr i => cases same

/-- Follow a schedule against a handler that gives one answer to each command. -/
def play (h : σ → (c : Cmd) → Resp c × σ) :
    σ → List (Call Cmd Resp ε α) → List (Turn Cmd Resp ε α) → σ × List (Call Cmd Resp ε α)
  | s, calls, [] => (s, calls)
  | s, calls, .start p :: turns => play h s (calls ++ [.new p]) turns
  | s, calls, .step i :: turns =>
    match calls[i]? with
    | some ⟨p, log, .call c k⟩ =>
      play h (h s c).2 (calls.set i ⟨p, log ++ [⟨c, (h s c).1⟩], k (h s c).1⟩) turns
    | some ⟨_, _, .ret _⟩ | some ⟨_, _, .fail _⟩ => play h s (calls.eraseIdx i) turns
    | none => play h s calls turns

/-- Follow a schedule against a handler that lets a call wait by giving no answer, as long as every
command passes a test with the state before it, its answer, the call after it and the other calls in
progress: the state, the calls that are left and all answers. -/
def tryPlay (h : σ → (c : Cmd) → Option (Resp c × σ))
    (good : σ → (c : Cmd) → Resp c → Call Cmd Resp ε α → List (Call Cmd Resp ε α) → Bool) :
    σ → List (Call Cmd Resp ε α) → List (Turn Cmd Resp ε α) →
      Option ((σ × List (Call Cmd Resp ε α)) × List (Sigma Resp))
  | s, calls, [] => some ((s, calls), [])
  | s, calls, .start p :: turns => tryPlay h good s (calls ++ [.new p]) turns
  | s, calls, .step i :: turns =>
    match calls[i]? with
    | some ⟨p, log, .call c k⟩ =>
      match h s c with
      | none => tryPlay h good s calls turns
      | some (r, t) =>
        let call : Call Cmd Resp ε α := ⟨p, log ++ [⟨c, r⟩], k r⟩
        if good s c r call (calls.eraseIdx i) then
          (tryPlay h good t (calls.set i call) turns).map fun ended => (ended.1, ⟨c, r⟩ :: ended.2)
        else none
    | some ⟨_, _, .ret _⟩ | some ⟨_, _, .fail _⟩ => tryPlay h good s (calls.eraseIdx i) turns
    | none => tryPlay h good s calls turns

section Play

variable {H : Handler σ Cmd Resp} (may : Prog Cmd Resp ε α → Prop)
  {h : σ → (c : Cmd) → Resp c × σ} {s : σ} {calls : List (Call Cmd Resp ε α)}

/-- The call at a position, and the others. -/
theorem coe_of_getElem? {i : Nat} {call : Call Cmd Resp ε α} (there : calls[i]? = some call) :
    (↑calls : Multiset (Call Cmd Resp ε α)) = call ::ₘ ↑(calls.eraseIdx i) ∧
    ∀ other, (↑(calls.set i other) : Multiset (Call Cmd Resp ε α)) =
      other ::ₘ ↑(calls.eraseIdx i) := by
  induction calls generalizing i with
  | nil => simp at there
  | cons head calls ih =>
    cases i with
    | zero =>
      obtain rfl : head = call := by simpa using there
      exact ⟨rfl, fun _ => rfl⟩
    | succ i =>
      obtain ⟨whole, changed⟩ := ih (by simpa using there)
      refine ⟨?_, fun other => ?_⟩
      · rw [← Multiset.cons_coe, whole, Multiset.cons_swap]
        rfl
      · rw [List.set_cons_succ, ← Multiset.cons_coe, changed, Multiset.cons_swap]
        rfl

/-- The commands of a run pass the test of a schedule, and those of the schedule are among them. -/
structure Passes
    (good : σ → (c : Cmd) → Resp c → Call Cmd Resp ε α → List (Call Cmd Resp ε α) → Bool)
    (entries : List (Sigma Resp))
    (moves : List (Transition (Busy σ Cmd Resp ε α) (Move Cmd Resp ε α))) : Prop where
  tested : ∀ x ∈ moves, ∀ c r call others, x.label = .command c r call others →
    ∃ list : List (Call Cmd Resp ε α), others = ↑list ∧ good x.before.state c r call list = true
  covered : ∀ entry ∈ entries, ∃ x ∈ moves, ∃ call others,
    x.label = .command entry.1 entry.2 call others

theorem Passes.cons
    {good : σ → (c : Cmd) → Resp c → Call Cmd Resp ε α → List (Call Cmd Resp ε α) → Bool}
    {entries : List (Sigma Resp)}
    {moves : List (Transition (Busy σ Cmd Resp ε α) (Move Cmd Resp ε α))}
    (passes : Passes good entries moves)
    {x : Transition (Busy σ Cmd Resp ε α) (Move Cmd Resp ε α)}
    (first : ∀ c r call others, x.label = .command c r call others →
      ∃ list : List (Call Cmd Resp ε α), others = ↑list ∧ good x.before.state c r call list = true) :
    Passes good entries (x :: moves) where
  tested := List.forall_mem_cons.2 ⟨first, passes.tested⟩
  covered := by
    intro entry mem
    obtain ⟨y, there, known⟩ := passes.covered entry mem
    exact ⟨y, List.mem_cons_of_mem _ there, known⟩

/-- What a schedule leads to is reached by a run. -/
theorem run_tryPlay {h : σ → (c : Cmd) → Option (Resp c × σ)}
    {good : σ → (c : Cmd) → Resp c → Call Cmd Resp ε α → List (Call Cmd Resp ε α) → Bool}
    (admits : ∀ s c r t, h s c = some (r, t) → H s c r t) {s t : σ}
    {calls left : List (Call Cmd Resp ε α)} {turns : List (Turn Cmd Resp ε α)}
    {entries : List (Sigma Resp)} (allowed : ∀ p, .start p ∈ turns → may p)
    (played : tryPlay h good s calls turns = some ((t, left), entries)) :
    ∃ moves, Run (Interleaved H may) ⟨s, ↑calls⟩ moves ⟨t, ↑left⟩ ∧ Passes good entries moves := by
  induction turns generalizing s calls entries with
  | nil =>
    cases played
    exact ⟨[], .done _, ⟨by simp, by simp⟩⟩
  | cons turn turns ih =>
    have later := fun p mem => allowed p (List.mem_cons_of_mem _ mem)
    -- a step that gives no answer
    have silent : ∀ {b : Busy σ Cmd Resp ε α} {m : Move Cmd Resp ε α}
        {calls' : List (Call Cmd Resp ε α)}, (∀ c r call others, m ≠ .command c r call others) →
        Interleaved H may b m ⟨s, ↑calls'⟩ →
        tryPlay h good s calls' turns = some ((t, left), entries) →
        ∃ moves, Run (Interleaved H may) b moves ⟨t, ↑left⟩ ∧ Passes good entries moves := by
      intro b m calls' quiet step played
      obtain ⟨moves, run, passes⟩ := ih later played
      exact ⟨_, .step step run, passes.cons fun c r call others same =>
        absurd same (quiet c r call others)⟩
    cases turn with
    | start p =>
      refine silent (m := .start p) (by simp) ?_ played
      rw [Multiset.coe_eq_coe.2 (List.perm_append_singleton _ _)]
      exact .start (allowed p List.mem_cons_self)
    | step i =>
      cases there : calls[i]? with
      | none =>
        simp only [tryPlay, there] at played
        exact ih later played
      | some call =>
        obtain ⟨whole, changed⟩ := coe_of_getElem? there
        rw [whole]
        obtain ⟨p, log, a | e | ⟨c, k⟩⟩ := call
        · simp only [tryPlay, there] at played
          exact silent (by simp) .ret played
        · simp only [tryPlay, there] at played
          exact silent (by simp) .fail played
        · simp only [tryPlay, there] at played
          split at played
          · rw [← whole]
            exact ih later played
          · next r u answered =>
            split_ifs at played with first
            obtain ⟨⟨ended, rest⟩, went, same⟩ := Option.map_eq_some_iff.1 played
            cases same
            obtain ⟨moves, run, passes⟩ := ih later went
            rw [changed] at run
            refine ⟨_, .step (.command (admits s c r u answered)) run, ?_, ?_⟩
            · refine (passes.cons ?_).tested
              intro _ _ _ _ same
              cases same
              exact ⟨_, rfl, first⟩
            · rw [List.forall_mem_cons]
              refine ⟨⟨_, List.mem_cons_self, _, _, rfl⟩, ?_⟩
              intro entry mem
              obtain ⟨x, there, known⟩ := passes.covered entry mem
              exact ⟨x, List.mem_cons_of_mem _ there, known⟩

theorem admits_some (admits : ∀ s c, H s c (h s c).1 (h s c).2) (s : σ) (c : Cmd) (r : Resp c)
    (t : σ) (answered : some (h s c) = some (r, t)) : H s c r t := by
  have given := admits s c
  rwa [Option.some.inj answered] at given

/-- A handler that always answers plays the whole schedule. -/
theorem tryPlay_eq_play (s : σ) (calls : List (Call Cmd Resp ε α))
    (turns : List (Turn Cmd Resp ε α)) : ∃ entries,
      tryPlay (fun s c => some (h s c)) (fun _ _ _ _ _ => true) s calls turns =
        some (play h s calls turns, entries) := by
  induction turns generalizing s calls with
  | nil => exact ⟨[], rfl⟩
  | cons turn turns ih =>
    cases turn with
    | start p => exact ih s _
    | step i =>
      rcases there : calls[i]? with _ | ⟨p, log, a | e | ⟨c, k⟩⟩
      · simpa only [tryPlay, play, there] using ih s calls
      · simpa only [tryPlay, play, there] using ih s _
      · simpa only [tryPlay, play, there] using ih s _
      · obtain ⟨entries, played⟩ := ih (h s c).2
          (calls.set i ⟨p, log ++ [⟨c, (h s c).1⟩], k (h s c).1⟩)
        exact ⟨⟨c, (h s c).1⟩ :: entries, by simp [tryPlay, play, there, played]⟩

/-- What a schedule leads to is reached by a run. -/
theorem run_play (admits : ∀ s c, H s c (h s c).1 (h s c).2) (s : σ)
    (calls : List (Call Cmd Resp ε α)) (turns : List (Turn Cmd Resp ε α))
    (allowed : ∀ p, .start p ∈ turns → may p) : ∃ moves,
      Run (Interleaved H may) ⟨s, ↑calls⟩ moves ⟨(play h s calls turns).1,
        ↑(play h s calls turns).2⟩ := by
  obtain ⟨entries, played⟩ := tryPlay_eq_play (h := h) s calls turns
  obtain ⟨moves, run, -⟩ := run_tryPlay may (admits_some admits) allowed played
  exact ⟨moves, run⟩

end Play

end NexusCore.Lib
