import Mathlib.Algebra.BigOperators.Group.Multiset.Basic
import Mathlib.Algebra.Order.Group.Multiset
import Mathlib.Tactic.Abel
import NexusCore.Lib.Interleaving

/-!
# What interleaved calls hold

Each call is followed through its answers: what it has seen, what it may do with that, and the
copies of items that it has stored and not yet settled. What every call knows stays true whatever
the others do, so an item that a call stores before it settles another copy is not lost.
-/

namespace NexusCore.Lib

variable {σ Cmd γ κ τ : Type} {Resp : Cmd → Type} {ε α : Type}

/-- What a call holds after its answers, what each kind of call may do with that, what it relies on
in an answer, and what it holds with a result. -/
structure Holdings (Cmd : Type) (Resp : Cmd → Type) (ε α γ κ : Type) where
  prog : κ → Prog Cmd Resp ε α
  start : γ
  next : γ → (c : Cmd) → Resp c → γ
  permits : κ → γ → Cmd → Prop
  assumes : Assumption Cmd Resp γ
  exits : κ → γ → Except ε α → Prop

namespace Holdings

variable (B : Holdings Cmd Resp ε α γ κ)

def discipline (k : κ) : Discipline Cmd Resp γ := ⟨B.permits k, B.next, fun _ => True⟩

/-- A program deals with what it holds as a kind of call may. -/
def Minds (k : κ) (g : γ) (p : Prog Cmd Resp ε α) : Prop :=
  (B.discipline k).Upholds B.assumes (B.exits k) g p

def Calls (p : Prog Cmd Resp ε α) : Prop := ∃ k, p = B.prog k

def held (log : List (Sigma Resp)) : γ := log.foldl (fun g entry => B.next g entry.1 entry.2) B.start

@[simp] theorem held_snoc (log : List (Sigma Resp)) (c : Cmd) (r : Resp c) :
    B.held (log ++ [⟨c, r⟩]) = B.next (B.held log) c r := by
  simp [held]

/-- What is known of the state holds at the start of a call, and every command keeps it, for the
call that issues it and for the others. -/
structure Kept (H : Handler σ Cmd Resp) (Inv : σ → Prop) (Known : σ → γ → Prop) : Prop where
  minds : ∀ k, B.Minds k B.start (B.prog k)
  start : ∀ s, Inv s → Known s B.start
  step : ∀ s k g c r u, Inv s → Known s g → B.permits k g c → H s c r u →
    B.assumes g c r ∧ Inv u ∧ Known u (B.next g c r) ∧ ∀ other, Known s other → Known u other

/-- A call that goes on as it may, and what it knows. -/
structure Good (Known : σ → γ → Prop) (s : σ) (call : Call Cmd Resp ε α) : Prop where
  allowed : B.Calls call.program
  known : Known s (B.held call.log)
  minds : ∀ k, call.program = B.prog k → B.Minds k (B.held call.log) call.rest

/-- The state has its invariant and the calls are good. -/
structure Sound (Inv : σ → Prop) (Known : σ → γ → Prop) (b : Busy σ Cmd Resp ε α) : Prop where
  inv : Inv b.state
  good : ∀ call ∈ b.calls, B.Good Known b.state call

/-- What a step does: a command is permitted to a call that knows what it holds, and a call ends
with what it may hold. -/
structure Fair (H : Handler σ Cmd Resp) (Inv : σ → Prop) (Known : σ → γ → Prop)
    (x : Transition (Busy σ Cmd Resp ε α) (Move Cmd Resp ε α)) : Prop where
  command : ∀ c r call others, x.label = .command c r call others → ∃ log k,
    call.log = log ++ [⟨c, r⟩] ∧ call.program = B.prog k ∧ B.permits k (B.held log) c ∧
      Inv x.before.state ∧ Known x.before.state (B.held log) ∧ H x.before.state c r x.after.state
  permitted : ∀ c r call others log k, x.label = .command c r call others →
    call.log = log ++ [⟨c, r⟩] → call.program = B.prog k → B.permits k (B.held log) c
  finish : ∀ call o, x.label = .finish call o →
    ∀ k, call.program = B.prog k → B.exits k (B.held call.log) o

section Runs

variable {B} {H : Handler σ Cmd Resp} {Inv : σ → Prop} {Known : σ → γ → Prop} {s : σ}
  {b b' t : Busy σ Cmd Resp ε α} {m : Move Cmd Resp ε α}
  {moves : List (Transition (Busy σ Cmd Resp ε α) (Move Cmd Resp ε α))}

theorem Sound.step (kept : B.Kept H Inv Known) (sound : B.Sound Inv Known b)
    (step : Interleaved H B.Calls b m b') : B.Sound Inv Known b' ∧ B.Fair H Inv Known ⟨b, m, b'⟩ := by
  obtain ⟨inv, good⟩ := sound
  cases step with
  | start allowed =>
    refine ⟨⟨inv, ?_⟩, ⟨fun _ _ _ _ same => (nomatch same), fun _ _ _ _ _ _ same => (nomatch same),
      fun _ _ same => nomatch same⟩⟩
    rw [Multiset.forall_mem_cons]
    refine ⟨⟨allowed, kept.start _ inv, ?_⟩, good⟩
    rintro k rfl
    exact kept.minds k
  | @command s u others p log c k r answered =>
    rw [Multiset.forall_mem_cons] at good
    obtain ⟨⟨allowed, known, minds⟩, good⟩ := good
    have goes : ∀ kind, p = B.prog kind → B.permits kind (B.held log) c ∧
        ∀ r, B.assumes (B.held log) c r → B.Minds kind (B.next (B.held log) c r) (k r) := by
      intro kind same
      have minds := minds kind same
      cases minds with
      | call permitted later => exact ⟨permitted, later⟩
    obtain ⟨kind, same⟩ := allowed
    have permitted := (goes kind same).1
    obtain ⟨assumed, inv', known', others'⟩ := kept.step _ _ _ _ _ _ inv known permitted answered
    refine ⟨⟨inv', ?_⟩, ⟨?_, ?_, fun _ _ same => nomatch same⟩⟩
    · rw [Multiset.forall_mem_cons]
      refine ⟨⟨⟨kind, same⟩, ?_, ?_⟩, ?_⟩
      · rw [held_snoc]
        exact known'
      · rw [held_snoc]
        exact fun kind same => (goes kind same).2 r assumed
      · intro call mem
        exact ⟨(good call mem).allowed, others' _ (good call mem).known, (good call mem).minds⟩
    · intro _ _ _ _ label
      cases label
      exact ⟨log, kind, rfl, same, permitted, inv, known, answered⟩
    · intro _ _ _ _ front kind label split same
      cases label
      obtain rfl : log = front := List.append_inj_left' split rfl
      exact (goes kind same).1
  | ret =>
    rw [Multiset.forall_mem_cons] at good
    refine ⟨⟨inv, good.2⟩, ⟨fun _ _ _ _ same => (nomatch same),
      fun _ _ _ _ _ _ same => (nomatch same), ?_⟩⟩
    intro _ _ label kind same
    cases label
    have minds := good.1.minds kind same
    cases minds with
    | ret exit => exact exit
  | fail =>
    rw [Multiset.forall_mem_cons] at good
    refine ⟨⟨inv, good.2⟩, ⟨fun _ _ _ _ same => (nomatch same),
      fun _ _ _ _ _ _ same => (nomatch same), ?_⟩⟩
    intro _ _ label kind same
    cases label
    have minds := good.1.minds kind same
    cases minds with
    | fail exit => exact exit

theorem sound_idle (inv : Inv s) : B.Sound Inv Known (⟨s, 0⟩ : Busy σ Cmd Resp ε α) :=
  ⟨inv, fun call mem => absurd mem (Multiset.notMem_zero call)⟩

/-- The state keeps its invariant in every run. -/
theorem inv_of_run (kept : B.Kept H Inv Known) (inv : Inv s)
    (run : Run (Interleaved H B.Calls) ⟨s, 0⟩ moves t) : Inv t.state := by
  have sound : B.Sound Inv Known t :=
    run.invariant (fun _ _ _ sound step => (Sound.step kept sound step).1) (sound_idle inv)
  exact sound.inv

/-- Every step of a run is fair. -/
theorem fair_of_run (kept : B.Kept H Inv Known) (inv : Inv s)
    (run : Run (Interleaved H B.Calls) ⟨s, 0⟩ moves t) : ∀ x ∈ moves, B.Fair H Inv Known x :=
  run.forall_of (B.Sound Inv Known) (fun _ _ _ sound step _ => (sound.step kept step).1)
    (fun _ _ _ sound step _ => (sound.step kept step).2) (sound_idle inv)
    (fun _ _ => trivial : ∀ x ∈ moves, (fun _ => True) x)

end Runs

section Items

variable (spare : γ → Multiset τ) (stored : σ → Multiset τ)
  (settled : Transition (Busy σ Cmd Resp ε α) (Move Cmd Resp ε α) → Multiset τ)

/-- The items that a call leaves behind when it succeeds. -/
def accepted (x : Transition (Busy σ Cmd Resp ε α) (Move Cmd Resp ε α)) : Multiset τ :=
  match x.label with
  | .finish call (.ok _) => spare (B.held call.log)
  | _ => 0

/-- The items of which the calls have stored a copy. -/
def spares (calls : Multiset (Call Cmd Resp ε α)) : Multiset τ :=
  (calls.map fun call => spare (B.held call.log)).sum

/-- What a command adds to the holdings of its call it has stored, and what it takes out of the store
was held or is settled for good. -/
def Balanced (x : Transition (Busy σ Cmd Resp ε α) (Move Cmd Resp ε α)) : Prop :=
  ∀ c r call others log, x.label = .command c r call others → call.log = log ++ [⟨c, r⟩] →
    stored x.before.state + spare (B.next (B.held log) c r) ≤
      stored x.after.state + spare (B.held log) + settled x

/-- Along balanced steps, what the calls have left behind or hold is stored or has been settled. -/
def Covered (moves : List (Transition (Busy σ Cmd Resp ε α) (Move Cmd Resp ε α)))
    (t : Busy σ Cmd Resp ε α) : Prop :=
  (∀ x ∈ moves, B.Balanced spare stored settled x) →
    (moves.map (B.accepted spare)).sum + B.spares spare t.calls ≤
      stored t.state + (moves.map settled).sum

variable {B} {spare} {stored} {settled} {H : Handler σ Cmd Resp} {may : Prog Cmd Resp ε α → Prop}
  {s : σ} {b b' t : Busy σ Cmd Resp ε α} {m : Move Cmd Resp ε α}
  {moves : List (Transition (Busy σ Cmd Resp ε α) (Move Cmd Resp ε α))}

theorem covered_step (none : spare B.start = 0)
    (covered : B.Covered spare stored settled moves b)
    (step : Interleaved H may b m b') :
    B.Covered spare stored settled (moves ++ [⟨b, m, b'⟩]) b' := by
  intro each
  rw [List.forall_mem_append, List.forall_mem_singleton] at each
  obtain ⟨earlier, balanced⟩ := each
  have covered := covered earlier
  simp only [List.map_append, List.sum_append, List.map_cons, List.map_nil, List.sum_cons,
    List.sum_nil, add_zero]
  have wider := covered.trans (Multiset.le_add_right _ (settled ⟨b, m, b'⟩))
  rw [add_assoc] at wider
  cases step with
  | start allowed =>
    simpa [accepted, spares, Call.new, held, none] using wider
  | ret =>
    simpa [accepted, spares, add_assoc] using wider
  | fail =>
    simp only [accepted, spares, Multiset.map_cons, Multiset.sum_cons, add_zero] at wider ⊢
    exact (add_le_add_right (Multiset.le_add_left _ _) _).trans wider
  | @command s u others p log c k r answered =>
    have moved := balanced _ _ _ _ log rfl rfl
    simp only [accepted, spares, Multiset.map_cons, Multiset.sum_cons, held_snoc, add_zero]
      at covered ⊢
    refine le_of_add_le_add_right (a := stored s + spare (B.held log)) ?_
    calc _ = (moves.map (B.accepted spare)).sum + (spare (B.held log) +
            (others.map fun call => spare (B.held call.log)).sum) +
          (stored s + spare (B.next (B.held log) c r)) := by abel
      _ ≤ _ := add_le_add covered moved
      _ = _ := by abel

/-- Along a run of balanced steps, what the calls have left behind is stored or has been settled. -/
theorem covered_of_run (none : spare B.start = 0)
    (run : Run (Interleaved H may) ⟨s, 0⟩ moves t)
    (balanced : ∀ x ∈ moves, B.Balanced spare stored settled x) :
    (moves.map (B.accepted spare)).sum ≤ stored t.state + (moves.map settled).sum := by
  have start : B.Covered spare stored settled [] ⟨s, 0⟩ := fun _ => Multiset.zero_le _
  have covered : B.Covered spare stored settled moves t :=
    run.invariant_trace start fun _ _ _ _ covered step => covered_step none covered step
  exact (Multiset.le_add_right _ _).trans (covered balanced)

end Items

section Conduct

/-- Whatever it holds, a program does what is permitted as long as it is answered as it assumes. -/
abbrev Behaves (permits : Cmd → Prop) (assumes : (c : Cmd) → Resp c → Prop)
    (exits : Except ε α → Prop) (p : Prog Cmd Resp ε α) : Prop :=
  Discipline.Upholds ⟨fun _ : Unit => permits, fun _ _ _ => (), fun _ => True⟩ (fun _ => assumes)
    (fun _ => exits) () p

theorem behaves_bind {β : Type} {permits : Cmd → Prop} {assumes : (c : Cmd) → Resp c → Prop}
    {exits : Except ε α → Prop} {exits' : Except ε β → Prop} {p : Prog Cmd Resp ε α}
    {f : α → Prog Cmd Resp ε β} (first : Behaves permits assumes exits p)
    (rest : ∀ a, exits (.ok a) → Behaves permits assumes exits' (f a))
    (failed : ∀ e, exits' (.error e)) : Behaves permits assumes exits' (p.bind f) :=
  first.bind (fun _ a exit => rest a exit) fun _ e _ => failed e

/-- Two programs of which neither says anything of its result. -/
theorem behaves_seq {β : Type} {permits : Cmd → Prop} {assumes : (c : Cmd) → Resp c → Prop}
    {p : Prog Cmd Resp ε α} {f : α → Prog Cmd Resp ε β}
    (first : Behaves permits assumes (fun _ => True) p)
    (rest : ∀ a, Behaves permits assumes (fun _ => True) (f a)) :
    Behaves permits assumes (fun _ => True) (p.bind f) :=
  behaves_bind first (fun a _ => rest a) fun _ => trivial

/-- Kinds of calls of which it does not matter what they hold. -/
def conduct (prog : κ → Prog Cmd Resp ε α) (permits : κ → Cmd → Prop)
    (assumes : (c : Cmd) → Resp c → Prop) : Holdings Cmd Resp ε α Unit κ where
  prog := prog
  start := ()
  next _ _ _ := ()
  permits k _ := permits k
  assumes _ := assumes
  exits _ _ _ := True

variable {H : Handler σ Cmd Resp} {Inv : σ → Prop} {s : σ} {t : Busy σ Cmd Resp ε α}
  {prog : κ → Prog Cmd Resp ε α} {permits : κ → Cmd → Prop} {assumes : (c : Cmd) → Resp c → Prop}
  {moves : List (Transition (Busy σ Cmd Resp ε α) (Move Cmd Resp ε α))}

/-- Calls that rely on an invariant and keep it: it holds in every run, and whatever a call issues it
is permitted to. -/
theorem conduct_of_run (behaves : ∀ k, Behaves (permits k) assumes (fun _ => True) (prog k))
    (step : ∀ s k c r u, Inv s → permits k c → H s c r u → assumes c r ∧ Inv u) (inv : Inv s)
    (run : Run (Interleaved H fun p => ∃ k, p = prog k) ⟨s, 0⟩ moves t) :
    Inv t.state ∧ ∀ x ∈ moves, ∀ c r call others, x.label = .command c r call others →
      (∃ k, call.program = prog k) ∧ ∀ k, call.program = prog k → permits k c := by
  have kept : (conduct prog permits assumes).Kept H Inv fun _ _ => True :=
    { minds := behaves
      start := fun _ _ => trivial
      step := by
        intro s k g c r u inv _ permitted answered
        obtain ⟨assumed, inv⟩ := step s k c r u inv permitted answered
        exact ⟨assumed, inv, trivial, fun _ _ => trivial⟩ }
  refine ⟨inv_of_run kept inv run, ?_⟩
  intro x mem c r call others label
  have fair := fair_of_run kept inv run x mem
  obtain ⟨log, k, split, same, -⟩ := fair.command _ _ _ _ label
  exact ⟨⟨k, same⟩, fun k same => fair.permitted _ _ _ _ log k label split same⟩

end Conduct

end Holdings

end NexusCore.Lib
