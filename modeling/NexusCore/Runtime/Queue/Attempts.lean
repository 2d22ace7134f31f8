import NexusCore.Lib.Attempts
import NexusCore.Runtime.Queue.RouteList

/-!
# How often a task is handed out

Calls on the in-memory queue interleave section by section and any mutex may be found poisoned. A
trial is a task with the number of an attempt. What a reserve hands out it has leased, what is leased
was popped from a bucket, and what is popped was put in: by an enqueue or a replay as the first trial,
or by a retry as the next trial of a lease that was taken out.
-/

namespace NexusCore.Runtime

open NexusCore.Lib InMemoryRuntimeTaskQueue

/-- A task with the number of an attempt. -/
abbrev Trial : Type := RuntimeTask × Nat

def QueuedRuntimeTask.trial (queued : QueuedRuntimeTask) : Trial := (queued.task, queued.attempt)

def RuntimeTaskDelivery.trial (delivery : RuntimeTaskDelivery) : Trial :=
  (delivery.task, delivery.attempt)

namespace Trials

/-- What a call has popped and not leased yet, what it has leased, and what it has taken out of the
leases and not put back. -/
structure Chit where
  popped : Multiset Trial
  leased : Multiset Trial
  removed : Multiset Trial

/-! ## What a section does to trials -/

def pops : (critical : MemorySection) → critical.Result → Multiset Trial
  | .popReady _ _, .popped queued _ => {queued.trial}
  | _, _ => 0

def leases : MemorySection → Multiset Trial
  | .insertLease delivery => {delivery.trial}
  | _ => 0

def removes : (critical : MemorySection) → critical.Result → Multiset Trial
  | .removeLease _, some delivery => {delivery.trial}
  | _, _ => 0

/-- The trials that are put in again, by the trials that have failed. -/
def again (chit : Chit) : MemorySection → Multiset Trial
  | .pushBack _ _ => chit.removed
  | _ => 0

/-- The tasks that are put in with their first trial. -/
def fresh (chit : Chit) : MemorySection → Multiset RuntimeTask
  | .pushBack _ queued => if chit.removed = 0 then {queued.task} else 0
  | _ => 0

namespace Chit

def empty : Chit := ⟨0, 0, 0⟩

/-- What a section leaves to the call that enters it. -/
def move (chit : Chit) : (critical : MemorySection) → critical.Result → Chit
  | .popReady _ _, .popped queued _ => { chit with popped := {queued.trial} }
  | .insertLease delivery, _ => { chit with popped := 0, leased := {delivery.trial} }
  | .removeLease _, some delivery => { chit with removed := {delivery.trial} }
  | .pushBack _ _, _ => { chit with removed := 0 }
  | _, _ => chit

def next (chit : Chit) : (c : MemoryCmd) → c.Answer → Chit
  | .clock, _ => chit
  | .locked _, none => chit
  | .locked critical, some r => chit.move critical r

/-- A call leases what it has popped, and puts in the first trial of a task that comes in or the next
trial of a lease with attempts left. -/
def permits (op : MemoryOp) (chit : Chit) : MemoryCmd → Prop
  | .locked (.pushBack _ queued) =>
    (∃ trial : Trial, chit.removed = {trial} ∧ queued.trial = following trial ∧
      trial.2 < trial.1.retryPolicy.maxAttempts) ∨
    chit.removed = 0 ∧ queued.attempt = 1 ∧
      (op = .enqueue queued.task ∨ ∃ deliveryId, op = .replayDeadLetter deliveryId)
  | .locked (.insertLease delivery) => chit.popped = {delivery.trial}
  | _ => True

end Chit

/-- How an operation deals with trials. -/
def numbering (op : MemoryOp) : Discipline MemoryCmd MemoryCmd.Answer Chit :=
  ⟨Chit.permits op, Chit.next, fun _ => True⟩

section Programs

variable {op : MemoryOp} {α β : Type} {start : Chit} {exits : Chit → AppResult α → Prop}

abbrev Numbers (op : MemoryOp) (exits : Chit → AppResult α → Prop) (start : Chit)
    (p : MemoryProg α) : Prop :=
  (numbering op).Upholds (fun _ _ _ => True) exits start p

/-- A section whose mutex is poisoned ends the program. -/
theorem numbers_locked {critical : MemorySection} {k : critical.Result → MemoryProg α}
    (permitted : start.permits op (.locked critical))
    (rest : ∀ r, Numbers op exits (start.move critical r) (k r))
    (failed : exits start (.error .internal)) :
    Numbers op exits start ((locked critical).bind k) := by
  refine .call permitted fun answer _ => ?_
  cases answer with
  | none => exact .fail failed
  | some r => exact rest r

theorem enqueueInternal_numbers {queued : QueuedRuntimeTask}
    (may : start.permits op (.locked (.pushBack queued.task.route queued))) :
    Numbers op (fun _ _ => True) start (enqueueInternal queued) := by
  refine numbers_locked may (fun wasEmpty => ?_) trivial
  cases wasEmpty with
  | false => exact .ret trivial
  | true =>
    refine .call trivial fun answer _ => ?_
    cases answer with
    | none => exact .fail trivial
    | some r => exact .ret trivial

theorem storeDeadLetter_numbers {given : RuntimeTaskDelivery} {error : String} :
    Numbers op (fun _ _ => True) start (storeDeadLetter given error) := by
  refine .call trivial fun now _ => .call trivial fun answer _ => ?_
  cases answer with
  | none => exact .fail trivial
  | some stored => exact .ret trivial

/-- What a reserve hands out it has leased. -/
def HandsOut (chit : Chit) (o : AppResult (Option RuntimeTaskDelivery)) : Prop :=
  ∀ delivery, o = .ok (some delivery) → chit.leased = {delivery.trial}

theorem insertLease_numbers {delivery : RuntimeTaskDelivery}
    {k : Option Unit → MemoryProg (Option RuntimeTaskDelivery)}
    (own : start.popped = {delivery.trial}) (poisoned : k none = .ret none)
    (leased : k (some ()) = .ret (some delivery)) :
    Numbers op HandsOut start ((tryLocked (.insertLease delivery)).bind k) := by
  refine .call own fun answer _ => ?_
  change (numbering op).Upholds _ _ _ (k answer)
  cases answer with
  | none =>
    rw [poisoned]
    exact .ret fun delivery same => nomatch same
  | some stored =>
    rw [leased]
    refine .ret ?_
    rintro given ⟨⟩
    rfl

theorem reserveFrom_numbers (now : SystemTime) (routes : List Route) :
    Numbers op HandsOut start (reserveFrom now routes) := by
  have nothing : ∀ chit : Chit, HandsOut chit (.ok none) := fun chit delivery same => nomatch same
  induction routes with
  | nil => exact .ret (nothing _)
  | cons route routes ih =>
    refine .call trivial fun answer _ => ?_
    rcases answer with _ | _ | _ | ⟨queued, emptied⟩
    · exact .ret (nothing _)
    · exact .ret (nothing _)
    · exact ih
    · cases emptied with
      | true =>
        refine .call trivial fun answer _ => .call trivial fun leasedAt _ => ?_
        refine insertLease_numbers ?_ rfl rfl
        cases answer <;> rfl
      | false =>
        refine .call trivial fun answer _ => .call trivial fun leasedAt _ => ?_
        refine insertLease_numbers ?_ rfl rfl
        cases answer <;> rfl

theorem reserve_numbers (bindings : List RuntimeRouteBinding) :
    Numbers op HandsOut start (reserve bindings) := by
  refine .call trivial fun now _ => .call trivial fun answer _ => ?_
  cases answer with
  | none => exact .ret fun delivery same => nomatch same
  | some order => exact reserveFrom_numbers now _

/-- What a call answers with, it has leased. -/
def Answers (chit : Chit) (o : AppResult MemoryReply) : Prop :=
  ∀ delivery, o = .ok (.delivery (some delivery)) → chit.leased = {delivery.trial}

theorem perform_numbers (op : MemoryOp) : Numbers op Answers .empty (perform op) := by
  have silent : ∀ {α : Type} {p : MemoryProg α} {start : Chit} {reply : α → MemoryReply},
      Numbers op (fun _ _ => True) start p → (∀ a delivery, reply a ≠ .delivery delivery) →
      Numbers op Answers start (p.bind fun a => .ret (reply a)) := by
    intro α p start reply numbers other
    exact numbers.bind (fun _ a _ => .ret fun _ same => absurd (Except.ok.inj same) (other a _))
      fun _ _ _ _ same => nomatch same
  cases op with
  | enqueue task =>
    refine silent (.call trivial fun now _ => ?_) fun _ _ => nofun
    exact enqueueInternal_numbers (.inr ⟨rfl, rfl, .inl rfl⟩)
  | reserve bindings =>
    refine (reserve_numbers bindings).bind (fun chit found leased => .ret ?_)
      fun _ _ _ _ same => nomatch same
    rintro delivery ⟨⟩
    exact leased delivery rfl
  | settle given how =>
    cases how with
    | ack =>
      refine silent (numbers_locked trivial (fun _ => .ret trivial) trivial) fun _ _ => nofun
    | retry error delayMs =>
      refine silent (numbers_locked trivial (fun held => ?_) trivial) fun _ _ => nofun
      cases held with
      | none => exact .fail trivial
      | some held =>
        dsimp only
        split
        · exact storeDeadLetter_numbers.bind (fun _ _ _ => .ret trivial) fun _ _ _ => trivial
        · next left =>
          refine .call trivial fun now _ => .call trivial fun fallback _ => ?_
          refine Discipline.Upholds.bind (p := enqueueInternal _)
            (enqueueInternal_numbers (.inl ⟨held.trial, rfl, rfl, ?_⟩))
            (fun _ _ _ => .ret trivial) fun _ _ _ => trivial
          exact Nat.lt_of_not_le left
    | reject error =>
      refine silent (numbers_locked trivial (fun held => ?_) trivial) fun _ _ => nofun
      cases held with
      | none => exact .ret trivial
      | some held => exact storeDeadLetter_numbers
  | replayDeadLetter deliveryId =>
    refine silent (numbers_locked trivial (fun record => ?_) trivial) fun _ _ => nofun
    cases record with
    | none => exact .fail trivial
    | some record =>
      refine .call trivial fun now _ => ?_
      exact Discipline.Upholds.bind (p := enqueueInternal _)
        (enqueueInternal_numbers (.inr ⟨rfl, rfl, .inr ⟨deliveryId, rfl⟩⟩))
        (fun _ _ _ => .ret trivial) fun _ _ _ => trivial

end Programs

section Sections

/-- The trials in the buckets. -/
def queuedTrials (s : InMemoryRuntimeTaskQueue) : Multiset Trial :=
  s.queuedBy QueuedRuntimeTask.trial

def leasedTrials (s : InMemoryRuntimeTaskQueue) : Multiset Trial :=
  total (fun delivery => {delivery.trial}) s.leased

/-- What a section does to trials, with the call that enters it. -/
structure Moves (chit : Chit) (critical : MemorySection) (r : critical.Result)
    (s t : InMemoryRuntimeTaskQueue) : Prop where
  leased : (chit.move critical r).leased ≤ leases critical + chit.leased
  popped : leases critical + (chit.move critical r).popped ≤ pops critical r + chit.popped
  queued : pops critical r + queuedTrials t =
    (fresh chit critical).map (·, 1) + (again chit critical).map following + queuedTrials s
  removed : again chit critical + (chit.move critical r).removed ≤ removes critical r + chit.removed
  held : removes critical r + leasedTrials t ≤ leases critical + leasedTrials s

theorem moves_of_section {op : MemoryOp} {chit : Chit} {critical : MemorySection}
    (permitted : chit.permits op (.locked critical)) (s : InMemoryRuntimeTaskQueue) :
    Moves chit critical (critical.run s).1 s (critical.run s).2 := by
  cases critical with
  | pushBack route queued =>
    have pushed : queuedTrials (s.pushBack route queued).2 = queued.trial ::ₘ queuedTrials s :=
      queuedBy_pushBack QueuedRuntimeTask.trial route queued
    refine ⟨Multiset.le_add_left _ _, le_rfl, ?_, (add_comm _ _).le, le_rfl⟩
    change 0 + queuedTrials (s.pushBack route queued).2 = _
    rw [pushed, zero_add, ← Multiset.singleton_add]
    rcases permitted with ⟨trial, own, next, -⟩ | ⟨none, first, -⟩
    · simp [fresh, again, own, next]
    · simp [fresh, again, none, QueuedRuntimeTask.trial, first]
  | popReady route now =>
    have spec := popReady_by QueuedRuntimeTask.trial route now s
    change Moves chit (.popReady route now) (s.popReady route now).1 s (s.popReady route now).2
    generalize s.popReady route now = popped at spec ⊢
    obtain ⟨_ | _ | ⟨queued, emptied⟩, t⟩ := popped
    · obtain rfl : t = s := spec
      exact ⟨Multiset.le_add_left _ _, le_rfl, rfl, le_rfl, le_rfl⟩
    · obtain rfl : t = s := spec
      exact ⟨Multiset.le_add_left _ _, le_rfl, rfl, le_rfl, le_rfl⟩
    · obtain ⟨queues, held, -⟩ := spec
      refine ⟨Multiset.le_add_left _ _, ?_, ?_, le_rfl, ?_⟩
      · exact (zero_add _).le.trans (Multiset.le_add_right _ _)
      · change {queued.trial} + queuedTrials t = 0 + 0 + queuedTrials s
        rw [Multiset.singleton_add, zero_add, zero_add]
        exact queues.symm
      · unfold leasedTrials
        rw [held]
        exact le_rfl
  | insertLease delivery =>
    have own : chit.popped = {delivery.trial} := permitted
    refine ⟨Multiset.le_add_right _ _, ?_, rfl, le_rfl, ?_⟩
    · change {delivery.trial} + 0 ≤ 0 + chit.popped
      rw [own, add_comm]
    · change 0 + leasedTrials (s.insertLease delivery) ≤ {delivery.trial} + leasedTrials s
      unfold leasedTrials insertLease
      rw [zero_add, total_insert]
      refine add_le_add_right ?_ _
      cases found : s.leased.lookup delivery.deliveryId with
      | none => rw [erase_of_lookup_eq_none found]
      | some held =>
        rw [total_erase found]
        exact Multiset.le_add_left _ _
  | removeLease deliveryId =>
    change Moves chit (.removeLease deliveryId) (s.leased.lookup deliveryId) s
      (s.removeLease deliveryId).2
    cases found : s.leased.lookup deliveryId with
    | none =>
      rw [removeLease_of_lookup found]
      exact ⟨Multiset.le_add_left _ _, le_rfl, rfl, le_rfl, le_rfl⟩
    | some held =>
      refine ⟨Multiset.le_add_left _ _, le_rfl, rfl, ?_, ?_⟩
      · exact (zero_add _).le.trans (Multiset.le_add_right _ _)
      · change {held.trial} + total _ (s.leased.erase deliveryId) ≤ 0 + leasedTrials s
        rw [zero_add, leasedTrials, total_erase found]
  | rotateRoute route =>
    refine ⟨Multiset.le_add_left _ _, le_rfl, ?_, le_rfl, ?_⟩
    · change 0 + queuedTrials (s.rotateRoute route) = 0 + 0 + queuedTrials s
      simp [queuedTrials]
    · change 0 + leasedTrials (s.rotateRoute route) ≤ 0 + leasedTrials s
      simp [leasedTrials]
  | takeDeadLetter | pushDeadLetter | appendRoute | removeRoute | routes =>
    exact ⟨Multiset.le_add_left _ _, le_rfl, rfl, le_rfl, le_rfl⟩

end Sections

section Runs

abbrev TrialLog : Type := List (Sigma MemoryCmd.Answer)

def chit (log : TrialLog) : Chit := log.foldl (fun chit entry => chit.next entry.1 entry.2) .empty

theorem chit_snoc (log : TrialLog) (c : MemoryCmd) (r : c.Answer) :
    chit (log ++ [⟨c, r⟩]) = (chit log).next c r := by
  simp [chit]

/-- What the sections of a step do, by the chit of the call. -/
def inSection {α : Type}
    (f : Chit → (critical : MemorySection) → critical.Result → Multiset α) (x : MemoryTransition) :
    Multiset α :=
  match x.label with
  | .command (.locked critical) (some r) call _ => f (chit call.log.dropLast) critical r
  | _ => 0

/-- What the sections of a run do. -/
def inSections {α : Type}
    (f : Chit → (critical : MemorySection) → critical.Result → Multiset α)
    (moves : List MemoryTransition) : Multiset α :=
  (moves.map (inSection f)).sum

/-- The trial that a reserve hands out. -/
def handed (x : MemoryTransition) : Multiset Trial :=
  match x.label with
  | .finish _ (.ok (.delivery (some delivery))) => {delivery.trial}
  | _ => 0

/-- The trials that reserves have handed out. -/
def handedOut (moves : List MemoryTransition) : Multiset Trial := (moves.map handed).sum

/-- The tasks that enqueues and replays have put in. -/
def putIn (moves : List MemoryTransition) : Multiset RuntimeTask :=
  inSections (fun chit critical _ => fresh chit critical) moves

def held (f : Chit → Multiset Trial) (calls : Multiset MemoryCall) : Multiset Trial :=
  (calls.map fun call => f (chit call.log)).sum

/-- Every trial comes from the one before it. -/
structure Tallied (moves : List MemoryTransition) (s : InMemoryRuntimeTaskQueue)
    (calls : Multiset MemoryCall) : Prop where
  handing : handedOut moves + held Chit.leased calls ≤
    inSections (fun _ critical _ => leases critical) moves
  leasing : inSections (fun _ critical _ => leases critical) moves + held Chit.popped calls ≤
    inSections (fun _ critical r => pops critical r) moves
  popping : inSections (fun _ critical r => pops critical r) moves + queuedTrials s =
    (putIn moves).map (·, 1) +
      (inSections (fun chit critical _ => again chit critical) moves).map following
  repeating : inSections (fun chit critical _ => again chit critical) moves + held Chit.removed calls ≤
    inSections (fun _ critical r => removes critical r) moves
  removing : inSections (fun _ critical r => removes critical r) moves + leasedTrials s ≤
    inSections (fun _ critical _ => leases critical) moves

/-- What is passed on in a step keeps a bound. -/
theorem passed_on {a b more less before now : Multiset Trial} (bound : a + before ≤ b)
    (step : more + now ≤ less + before) : a + more + now ≤ b + less := by
  refine le_of_add_le_add_right (a := before) ?_
  calc a + more + now + before = a + before + (more + now) := by abel
    _ ≤ b + (less + before) := add_le_add bound step
    _ = b + less + before := by abel

theorem passed_on_among {a b more less before now others : Multiset Trial}
    (bound : a + (before + others) ≤ b) (step : more + now ≤ less + before) :
    a + more + (now + others) ≤ b + less := by
  rw [add_comm before, ← add_assoc] at bound
  have passed := passed_on bound step
  rwa [add_right_comm a, add_assoc (a + more), add_comm others] at passed

/-- A call enters a section as its operation may. -/
def Permitted (x : MemoryTransition) : Prop :=
  (∀ c r call others, x.label = .command c r call others →
    ∃ op, call.program = perform op ∧ (chit call.log.dropLast).permits op c) ∧
  ∀ call o, x.label = .finish call o → Answers (chit call.log) o

def Numbered (call : MemoryCall) : Prop :=
  ∃ op, call.program = perform op ∧ Numbers op Answers (chit call.log) call.rest

theorem Numbered.answered {p : MemoryProg MemoryReply} {log : TrialLog} {c : MemoryCmd}
    {k : c.Answer → MemoryProg MemoryReply} (numbered : Numbered ⟨p, log, .call c k⟩)
    (r : c.Answer) : Numbered ⟨p, log ++ [⟨c, r⟩], k r⟩ := by
  obtain ⟨op, performs, upholds⟩ := numbered
  cases upholds with
  | call permitted later =>
    refine ⟨op, performs, ?_⟩
    rw [chit_snoc]
    exact later r trivial

variable {moves : List MemoryTransition}
  {b b' : Busy InMemoryRuntimeTaskQueue MemoryCmd MemoryCmd.Answer AppError MemoryReply}
  {m : Move MemoryCmd MemoryCmd.Answer AppError MemoryReply}

theorem permitted_of_run (run : Run (Interleaved poisonableMemoryHandler Performs)
    ⟨.default, 0⟩ moves b) : ∀ x ∈ moves, Permitted x := by
  have opens : ∀ p, Performs p → Numbered (.new p) := by
    rintro p ⟨op, rfl⟩
    exact ⟨op, rfl, perform_numbers op⟩
  intro x mem
  obtain ⟨commands, ends⟩ :=
    calls_of_run (Q := Numbered) opens (fun _ _ _ _ r before => before.answered r) run x mem
  constructor
  · intro c r call others label
    obtain ⟨p, log, k, rfl, op, performs, upholds⟩ := commands c r call others label
    cases upholds with
    | call permitted later =>
      refine ⟨op, performs, ?_⟩
      rwa [List.dropLast_concat]
  · intro call o label
    obtain ⟨⟨op, -, upholds⟩, ended⟩ := ends call o label
    rw [ended] at upholds
    cases o with
    | ok reply =>
      cases upholds with
      | ret answers => exact answers
    | error e =>
      cases upholds with
      | fail answers => exact answers

theorem inSections_snoc {α : Type}
    (f : Chit → (critical : MemorySection) → critical.Result → Multiset α) (x : MemoryTransition) :
    inSections f (moves ++ [x]) = inSections f moves + inSection f x := by
  simp [inSections]

theorem handedOut_snoc (x : MemoryTransition) :
    handedOut (moves ++ [x]) = handedOut moves + handed x := by
  simp [handedOut]

theorem held_cons (f : Chit → Multiset Trial) (call : MemoryCall) (calls : Multiset MemoryCall) :
    held f (call ::ₘ calls) = f (chit call.log) + held f calls := by
  simp [held]

/-- A step without a section, after which the calls hold no more. -/
theorem Tallied.quiet {s : InMemoryRuntimeTaskQueue} {calls calls' : Multiset MemoryCall}
    {x : MemoryTransition} (tallied : Tallied moves s calls)
    (none : ∀ {α : Type} (f : Chit → (critical : MemorySection) → critical.Result → Multiset α),
      inSection f x = 0)
    (fewer : handed x + held Chit.leased calls' ≤ held Chit.leased calls)
    (popped : held Chit.popped calls' ≤ held Chit.popped calls)
    (removed : held Chit.removed calls' ≤ held Chit.removed calls) :
    Tallied (moves ++ [x]) s calls' := by
  constructor
  · rw [handedOut_snoc, inSections_snoc, none, add_zero, add_assoc]
    exact (add_le_add_right fewer _).trans tallied.handing
  · rw [inSections_snoc, inSections_snoc, none, none, add_zero, add_zero]
    exact (add_le_add_right popped _).trans tallied.leasing
  · rw [putIn, inSections_snoc, inSections_snoc, inSections_snoc, none, none, none, add_zero,
      add_zero, add_zero]
    exact tallied.popping
  · rw [inSections_snoc, inSections_snoc, none, none, add_zero, add_zero]
    exact (add_le_add_right removed _).trans tallied.repeating
  · rw [inSections_snoc, inSections_snoc, none, none, add_zero, add_zero]
    exact tallied.removing

theorem Tallied.section {s u : InMemoryRuntimeTaskQueue} {p : MemoryProg MemoryReply}
    {log : TrialLog} {critical : MemorySection} {r : critical.Result} {rest rest' : MemoryProg MemoryReply}
    {others : Multiset MemoryCall} {x : MemoryTransition}
    (tallied : Tallied moves s (⟨p, log, rest⟩ ::ₘ others))
    (same : x.label = .command (.locked critical) (some r)
      ⟨p, log ++ [⟨.locked critical, some r⟩], rest'⟩ others)
    (step : Moves (chit log) critical r s u) :
    Tallied (moves ++ [x]) u (⟨p, log ++ [⟨.locked critical, some r⟩], rest'⟩ ::ₘ others) := by
  have now : ∀ {α : Type} (f : Chit → (critical : MemorySection) → critical.Result → Multiset α),
      inSection f x = f (chit log) critical r := by
    intro α f
    simp only [inSection, same, List.dropLast_concat]
  have unhanded : handed x = 0 := by simp only [handed, same]
  obtain ⟨handing, leasing, popping, repeating, removing⟩ := tallied
  rw [held_cons] at handing leasing repeating
  constructor
  · rw [handedOut_snoc, inSections_snoc, now, unhanded, held_cons, chit_snoc]
    refine passed_on_among handing ?_
    rw [zero_add]
    exact step.leased
  · rw [inSections_snoc, inSections_snoc, now, now, held_cons, chit_snoc]
    exact passed_on_among leasing step.popped
  · rw [putIn, inSections_snoc, inSections_snoc, inSections_snoc, now, now, now, add_assoc,
      step.queued, Multiset.map_add, Multiset.map_add]
    calc _ = inSections (fun _ critical r => pops critical r) moves + queuedTrials s +
          ((fresh (chit log) critical).map (·, 1) + (again (chit log) critical).map following) := by abel
      _ = _ := by
        rw [popping, putIn]
        abel
  · rw [inSections_snoc, inSections_snoc, now, now, held_cons, chit_snoc]
    exact passed_on_among repeating step.removed
  · rw [inSections_snoc, inSections_snoc, now, now]
    exact passed_on removing step.held

/-- What a call hands out when it ends, it has leased. -/
theorem handed_le {call : MemoryCall} {o : AppResult MemoryReply} {x : MemoryTransition}
    (label : x.label = .finish call o) (answers : Answers (chit call.log) o) :
    handed x ≤ (chit call.log).leased := by
  unfold handed
  split
  · next delivery same =>
    cases label.symm.trans same
    exact (answers delivery rfl).ge
  · exact Multiset.zero_le _

theorem Tallied.step (tallied : Tallied moves b.state b.calls)
    (step : Interleaved poisonableMemoryHandler Performs b m b') (permitted : Permitted ⟨b, m, b'⟩) :
    Tallied (moves ++ [⟨b, m, b'⟩]) b'.state b'.calls := by
  cases step with
  | start allowed =>
    refine tallied.quiet (fun _ => rfl) ?_ ?_ ?_
    all_goals simp [handed, held_cons, Call.new, chit, Chit.empty]
  | ret | fail =>
    refine tallied.quiet (fun _ => rfl) ?_ ?_ ?_
    · rw [held_cons]
      exact add_le_add_left (handed_le rfl (permitted.2 _ _ rfl)) _
    · rw [held_cons]
      exact Multiset.le_add_left _ _
    · rw [held_cons]
      exact Multiset.le_add_left _ _
  | @command s u others p log c k r answered =>
    cases c with
    | clock =>
      obtain rfl : u = s := answered
      refine tallied.quiet (fun _ => rfl) ?_ ?_ ?_
      all_goals simp [handed, held_cons, chit_snoc, Chit.next]
    | locked critical =>
      rcases answered with ⟨rfl, rfl⟩ | ⟨rfl, rfl⟩
      · refine tallied.quiet (fun _ => rfl) ?_ ?_ ?_
        all_goals simp [handed, held_cons, chit_snoc, Chit.next]
      · obtain ⟨op, -, may⟩ := permitted.1 _ _ _ _ rfl
        rw [List.dropLast_concat] at may
        exact tallied.section rfl (moves_of_section may s)

theorem tallied_of_run (run : Run (Interleaved poisonableMemoryHandler Performs)
    ⟨.default, 0⟩ moves b) : Tallied moves b.state b.calls := by
  let Kept : List MemoryTransition →
      Busy InMemoryRuntimeTaskQueue MemoryCmd MemoryCmd.Answer AppError MemoryReply → Prop :=
    fun moves b => (∀ x ∈ moves, Permitted x) → Tallied moves b.state b.calls
  suffices kept : Kept moves b from kept (permitted_of_run run)
  refine run.invariant_trace ?_ ?_
  · intro _
    exact ⟨le_rfl, le_rfl, rfl, le_rfl, le_rfl⟩
  · intro moves b m b' kept step permitted
    rw [List.forall_mem_append, List.forall_mem_singleton] at permitted
    exact (kept permitted.1).step step permitted.2

theorem exists_of_mem_inSections {α : Type}
    {f : Chit → (critical : MemorySection) → critical.Result → Multiset α} {a : α}
    (mem : a ∈ inSections f moves) : ∃ x ∈ moves, a ∈ inSection f x := by
  induction moves with
  | nil => cases Multiset.notMem_zero _ mem
  | cons x moves ih =>
    rcases Multiset.mem_add.1 mem with now | later
    · exact ⟨x, List.mem_cons_self, now⟩
    · obtain ⟨y, there, known⟩ := ih later
      exact ⟨y, List.mem_cons_of_mem _ there, known⟩

theorem command_of_mem_inSection {α : Type}
    {f : Chit → (critical : MemorySection) → critical.Result → Multiset α} {a : α}
    {x : MemoryTransition} (mem : a ∈ inSection f x) : ∃ critical r call others,
      x.label = .command (.locked critical) (some r) call others ∧
        a ∈ f (chit call.log.dropLast) critical r := by
  unfold inSection at mem
  split at mem
  · next critical r call others label => exact ⟨critical, r, call, others, label, mem⟩
  · cases Multiset.notMem_zero _ mem

/-- A trial that is put in again has attempts left. -/
theorem left_of_again (run : Run (Interleaved poisonableMemoryHandler Performs)
    ⟨.default, 0⟩ moves b) :
    ∀ trial ∈ inSections (fun chit critical _ => again chit critical) moves,
      trial.2 < trial.1.retryPolicy.maxAttempts := by
  intro trial mem
  obtain ⟨x, there, mem⟩ := exists_of_mem_inSections mem
  obtain ⟨critical, r, call, others, label, mem⟩ := command_of_mem_inSection mem
  obtain ⟨op, -, may⟩ := (permitted_of_run run x there).1 _ _ _ _ label
  cases critical with
  | pushBack route queued =>
    have mem : trial ∈ (chit call.log.dropLast).removed := mem
    rcases may with ⟨failed, own, -, left⟩ | ⟨none, -⟩
    · rw [own, Multiset.mem_singleton] at mem
      subst mem
      exact left
    · rw [none] at mem
      cases Multiset.notMem_zero _ mem
  | _ => cases Multiset.notMem_zero _ mem

/-- A step in which an enqueue or a replay puts a task in. -/
def PutsIn (task : RuntimeTask) (x : MemoryTransition) : Prop :=
  ∃ c r call others, x.label = .command c r call others ∧
    (call.program = perform (.enqueue task) ∨
      ∃ deliveryId, call.program = perform (.replayDeadLetter deliveryId))

theorem putsIn_of_fresh (run : Run (Interleaved poisonableMemoryHandler Performs)
    ⟨.default, 0⟩ moves b) {task : RuntimeTask} : ∀ x ∈ moves,
      task ∈ inSection (fun chit critical _ => fresh chit critical) x → PutsIn task x := by
  intro x there mem
  obtain ⟨critical, r, call, others, label, mem⟩ := command_of_mem_inSection mem
  obtain ⟨op, performs, may⟩ := (permitted_of_run run x there).1 _ _ _ _ label
  cases critical with
  | pushBack route queued =>
    change task ∈ ite _ _ _ at mem
    split_ifs at mem with none
    · obtain rfl := Multiset.mem_singleton.1 mem
      rcases may with ⟨failed, own, -⟩ | ⟨-, -, rfl | ⟨deliveryId, rfl⟩⟩
      · rw [none] at own
        cases Multiset.singleton_ne_zero _ own.symm
      · exact ⟨_, _, _, _, label, .inl performs⟩
      · exact ⟨_, _, _, _, label, .inr ⟨deliveryId, performs⟩⟩
    · cases Multiset.notMem_zero _ mem
  | _ => cases Multiset.notMem_zero _ mem

theorem Tallied.attempted {s : InMemoryRuntimeTaskQueue} {calls : Multiset MemoryCall}
    (tallied : Tallied moves s calls) :
    Attempted (inSections (fun _ critical _ => leases critical) moves)
      (inSections (fun chit critical _ => again chit critical) moves) (putIn moves) where
  source := by
    have leased := (Multiset.le_add_right _ _).trans tallied.leasing
    exact (leased.trans (Multiset.le_add_right _ _)).trans tallied.popping.le
  failures := by
    have removed := (Multiset.le_add_right _ _).trans tallied.repeating
    exact (removed.trans (Multiset.le_add_right _ _)).trans tallied.removing

/-- In every interleaving, a task is handed out under each number at most as often as it has been put
in by an enqueue or a replay, and under no number past its attempts. -/
theorem deliveries_bounded (moves : List MemoryTransition)
    (b : Busy InMemoryRuntimeTaskQueue MemoryCmd MemoryCmd.Answer AppError MemoryReply)
    (run : Run (Interleaved poisonableMemoryHandler Performs) ⟨.default, 0⟩ moves b)
    (task : RuntimeTask) :
    (∀ attempt, (handedOut moves).count (task, attempt) ≤ (putIn moves).count task) ∧
    (∀ attempt, (task, attempt) ∈ handedOut moves →
      1 ≤ attempt ∧ attempt ≤ max 1 task.retryPolicy.maxAttempts) ∧
    ((handedOut moves).map Prod.fst).count task ≤
      max 1 task.retryPolicy.maxAttempts * (putIn moves).count task ∧
    ∀ x ∈ moves, task ∈ inSection (fun chit critical _ => fresh chit critical) x →
      PutsIn task x := by
  have tallied := tallied_of_run run
  have handed : handedOut moves ≤ inSections (fun _ critical _ => leases critical) moves :=
    (Multiset.le_add_right _ _).trans tallied.handing
  have attempted := tallied.attempted
  have within : ∀ attempt, (task, attempt) ∈ inSections (fun _ critical _ => leases critical) moves →
      attempt ≤ max 1 task.retryPolicy.maxAttempts := by
    intro attempt mem
    obtain rfl | ⟨failed, rfl, there⟩ := attempted.first_or_following mem
    · exact le_max_left _ _
    · exact (Nat.succ_le_of_lt (left_of_again run _ there)).trans (le_max_right _ _)
  refine ⟨?_, ?_, ?_, putsIn_of_fresh run⟩
  · intro attempt
    exact (Multiset.count_le_of_le _ handed).trans (attempted.count_le task attempt)
  · intro attempt mem
    have leased := Multiset.mem_of_le handed mem
    exact ⟨attempted.positive leased, within attempt leased⟩
  · exact (Multiset.count_le_of_le _ (Multiset.map_le_map handed)).trans
      (attempted.count_fst_le within)

/-- Two tasks are enqueued at the same time. One of them is reserved, retried while the other one is
reserved, and reserved again. -/
def retryTurns : List (MemoryOp ⊕ Nat) :=
  .inl (.enqueue (sampleTask "task-1" "judge-a" 3)) ::
  .inl (.enqueue (sampleTask "task-2" "judge-b" 3)) :: inTurn 5 [0, 1] ++
  .inl (.reserve [⟨"judge-a", "fast"⟩]) :: inTurn 9 [0] ++
  .inl (.settle (delivery ⟨sampleTask "task-1" "judge-a" 3, 1, 0, none⟩ 0)
    (.retry "worker crashed" 0)) :: .inl (.reserve [⟨"judge-b", "fast"⟩]) :: inTurn 9 [0, 1] ++
  .inl (.reserve []) :: inTurn 9 [0]

theorem deliveries_bounded_after_retry : ∃ moves b,
    Run (Interleaved poisonableMemoryHandler Performs) ⟨.default, 0⟩ moves b ∧
      (b.state.leased.lookup "dlv-task-1").map (·.attempt) = some 2 ∧
      ((handedOut moves).map Prod.fst).count (sampleTask "task-1" "judge-a" 3) ≤
        3 * (putIn moves).count (sampleTask "task-1" "judge-a" 3) := by
  obtain ⟨moves, run⟩ := run_play Performs memoryAnswer_poisonable .default []
    (schedule perform retryTurns) fun _ => named_of_start
  exact ⟨moves, _, run, by decide +kernel, (deliveries_bounded moves _ run _).2.2.1⟩

end Runs

end Trials

end NexusCore.Runtime
