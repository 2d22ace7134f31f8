import NexusCore.Lib.System
import NexusCore.Runtime.Queue.Memory

/-!
# Conservation of tasks in the in-memory queue

A ledger records, next to the queue, which tasks `enqueue` accepted, which ones an
acknowledgement removed and which deliveries `reserve` handed out. Every critical
section has one lemma about the place of each task; the operations follow from them.
The lease map is keyed by an id made of the task id alone, so conservation depends on
which tasks with one id are leased at the same time.
-/

namespace NexusCore.Runtime

open NexusCore.Lib

namespace InMemoryRuntimeTaskQueue

variable {s : InMemoryRuntimeTaskQueue}

def queuedTasks (s : InMemoryRuntimeTaskQueue) : Multiset RuntimeTask :=
  total (fun bucket => (↑(bucket.map (·.task)) : Multiset RuntimeTask)) s.buckets

/-- What can be read off the waiting entries, such as their tasks. -/
def queuedBy {α : Type} (f : QueuedRuntimeTask → α) (s : InMemoryRuntimeTaskQueue) : Multiset α :=
  total (fun bucket => (↑(bucket.map f) : Multiset α)) s.buckets

def leasedTasks (s : InMemoryRuntimeTaskQueue) : Multiset RuntimeTask :=
  total (fun delivery => {delivery.task}) s.leased

def deadLetteredTasks (s : InMemoryRuntimeTaskQueue) : Multiset RuntimeTask :=
  ↑(s.deadLetters.map (·.task))

section Sections

variable {α : Type} (f : QueuedRuntimeTask → α)

theorem queuedBy_pushBack (route : Route) (queued : QueuedRuntimeTask) :
    (s.pushBack route queued).2.queuedBy f = f queued ::ₘ s.queuedBy f := by
  simp only [queuedBy, pushBack, bucket]
  cases h : s.buckets.lookup route with
  | none => simp [total_insert_of_eq_none h]
  | some bucket =>
    have exchange := total_insert_of_eq_some (c := bucket ++ [queued])
      (f := fun bucket => (↑(bucket.map f) : Multiset α)) h
    simp only [List.map_append, ← Multiset.coe_add, add_assoc] at exchange
    simpa using add_left_cancel exchange

theorem queuedTasks_pushBack (route : Route) (queued : QueuedRuntimeTask) :
    (s.pushBack route queued).2.queuedTasks = queued.task ::ₘ s.queuedTasks :=
  queuedBy_pushBack (·.task) route queued

@[simp] theorem queuedBy_rotateRoute (route : Route) :
    (s.rotateRoute route).queuedBy f = s.queuedBy f := by
  unfold rotateRoute
  split <;> rfl
@[simp] theorem queuedTasks_appendRoute (route : Route) :
    (s.appendRoute route).queuedTasks = s.queuedTasks := rfl
@[simp] theorem queuedTasks_removeRoute (route : Route) :
    (s.removeRoute route).queuedTasks = s.queuedTasks := rfl
@[simp] theorem queuedTasks_rotateRoute (route : Route) :
    (s.rotateRoute route).queuedTasks = s.queuedTasks := by
  unfold rotateRoute
  split <;> rfl
@[simp] theorem leased_rotateRoute (route : Route) :
    (s.rotateRoute route).leased = s.leased := by
  unfold rotateRoute
  split <;> rfl
@[simp] theorem deadLetters_rotateRoute (route : Route) :
    (s.rotateRoute route).deadLetters = s.deadLetters := by
  unfold rotateRoute
  split <;> rfl

/-- A due front task leaves its bucket; otherwise the section changes nothing. -/
theorem popReady_by (route : Route) (now : SystemTime) (s : InMemoryRuntimeTaskQueue) :
    match s.popReady route now with
    | (.popped queued _, t) => s.queuedBy f = f queued ::ₘ t.queuedBy f ∧
        t.leased = s.leased ∧ t.deadLetters = s.deadLetters
    | (_, t) => t = s := by
  unfold popReady
  rcases h : s.buckets.lookup route with _ | _ | ⟨front, rest⟩
  · simp
  · simp
  · by_cases due : front.availableAt > now
    · simp [due]
    · cases rest with
      | nil => simp [due, queuedBy, total_erase h]
      | cons next rest =>
        simp only [due, if_false, List.isEmpty_cons, Bool.false_eq_true]
        refine ⟨?_, trivial, trivial⟩
        simp [queuedBy, total_insert, total_erase h, ← Multiset.cons_coe]

theorem popReady_spec (route : Route) (now : SystemTime) (s : InMemoryRuntimeTaskQueue) :
    match s.popReady route now with
    | (.popped queued _, t) => s.queuedTasks = queued.task ::ₘ t.queuedTasks ∧
        t.leased = s.leased ∧ t.deadLetters = s.deadLetters
    | (_, t) => t = s :=
  popReady_by (·.task) route now s

theorem leasedTasks_insertLease (delivery : RuntimeTaskDelivery) :
    (s.insertLease delivery).leasedTasks =
      delivery.task ::ₘ (s.removeLease delivery.deliveryId).2.leasedTasks := by
  simp [leasedTasks, insertLease, removeLease, total_insert]

theorem leasedTasks_of_lookup {deliveryId : String} {held : RuntimeTaskDelivery}
    (h : s.leased.lookup deliveryId = some held) :
    s.leasedTasks = held.task ::ₘ (s.removeLease deliveryId).2.leasedTasks := by
  simp [leasedTasks, removeLease, total_erase h]

@[simp] theorem queuedTasks_removeLease (deliveryId : String) :
    (s.removeLease deliveryId).2.queuedTasks = s.queuedTasks := rfl
@[simp] theorem deadLetteredTasks_removeLease (deliveryId : String) :
    (s.removeLease deliveryId).2.deadLetteredTasks = s.deadLetteredTasks := rfl

theorem removeLease_of_lookup {deliveryId : String} (h : s.leased.lookup deliveryId = none) :
    s.removeLease deliveryId = (none, s) := by
  simp [removeLease, h, erase_of_lookup_eq_none h]

theorem deadLetteredTasks_takeDeadLetter {deliveryId : String} {record : RuntimeDeadLetterRecord}
    (h : (s.takeDeadLetter deliveryId).1 = some record) :
    s.deadLetteredTasks = record.task ::ₘ (s.takeDeadLetter deliveryId).2.deadLetteredTasks := by
  simp only [takeDeadLetter, List.find?_eq_some_iff_append] at h
  obtain ⟨found, before, after, split, absent⟩ := h
  have erased : s.deadLetters.eraseP (·.deliveryId == deliveryId) = before ++ after := by
    rw [split, List.eraseP_append_right _ (by simpa using absent)]
    simp [found]
  simp only [deadLetteredTasks, takeDeadLetter, erased]
  rw [split]
  simp

@[simp] theorem queuedTasks_takeDeadLetter (deliveryId : String) :
    (s.takeDeadLetter deliveryId).2.queuedTasks = s.queuedTasks := rfl
@[simp] theorem leasedTasks_takeDeadLetter (deliveryId : String) :
    (s.takeDeadLetter deliveryId).2.leasedTasks = s.leasedTasks := rfl

theorem takeDeadLetter_of_none {deliveryId : String} (h : (s.takeDeadLetter deliveryId).1 = none) :
    s.takeDeadLetter deliveryId = (none, s) := by
  simp only [takeDeadLetter] at h ⊢
  rw [h, List.eraseP_of_forall_not (by simpa using h)]

end Sections

/-! Each operation in terms of the sections it enters. -/

section Operations

open TimedMemoryQueue

variable {w : TimedMemoryQueue}

@[simp] theorem eval_clock :
    clock.eval answer w = (.ok (w.readings 0), ⟨fun n => w.readings (n + 1), w.queue⟩) := rfl

@[simp] theorem eval_tryLocked (critical : MemorySection) :
    Prog.eval (α := no_index (Option critical.Result)) answer (tryLocked critical) w =
      (.ok (some (critical.run w.queue).1), ⟨w.readings, (critical.run w.queue).2⟩) := rfl

@[simp] theorem eval_locked (critical : MemorySection) :
    Prog.eval (α := no_index critical.Result) answer (locked critical) w =
      (.ok (critical.run w.queue).1, ⟨w.readings, (critical.run w.queue).2⟩) := by
  simp [locked]

/-- A queued task is added to the queued ones, and nothing else moves. -/
theorem eval_enqueueInternal (queued : QueuedRuntimeTask) (w : TimedMemoryQueue) :
    ∃ t : InMemoryRuntimeTaskQueue,
      (enqueueInternal queued).eval answer w = (.ok (), ⟨w.readings, t⟩) ∧
      t.queuedTasks = queued.task ::ₘ w.queue.queuedTasks ∧
      t.leasedTasks = w.queue.leasedTasks ∧
      t.deadLetteredTasks = w.queue.deadLetteredTasks := by
  have queuedTasks := queuedTasks_pushBack (s := w.queue) queued.task.route queued
  by_cases empty : (w.queue.pushBack queued.task.route queued).1
  · refine ⟨(w.queue.pushBack queued.task.route queued).2.appendRoute queued.task.route,
      ?_, queuedTasks, rfl, rfl⟩
    simp [enqueueInternal, MemorySection.run, empty]
  · refine ⟨(w.queue.pushBack queued.task.route queued).2, ?_, queuedTasks, rfl, rfl⟩
    simp [enqueueInternal, MemorySection.run, empty]

/-- The task that `reserve` takes: the front of the first route whose front is due. -/
def nextReady (now : SystemTime) (s : InMemoryRuntimeTaskQueue) :
    List Route → Option QueuedRuntimeTask
  | [] => none
  | route :: routes =>
    match (s.popReady route now).1 with
    | .noBucket => none
    | .notReady => s.nextReady now routes
    | .popped queued _ => some queued

theorem eval_reserveFrom {α : Type} (f : QueuedRuntimeTask → α) (now : SystemTime)
    (routes : List Route) (w : TimedMemoryQueue) :
    match w.queue.nextReady now routes with
    | none => (reserveFrom now routes).eval answer w = (.ok none, w)
    | some queued => ∃ (leasedAt : SystemTime) (readings : Nat → SystemTime)
        (t : InMemoryRuntimeTaskQueue),
      (reserveFrom now routes).eval answer w = (.ok (some (delivery queued leasedAt)),
        ⟨readings, t.insertLease (delivery queued leasedAt)⟩) ∧
      w.queue.queuedBy f = f queued ::ₘ t.queuedBy f ∧
      t.leased = w.queue.leased ∧ t.deadLetters = w.queue.deadLetters := by
  induction routes with
  | nil => rfl
  | cons route routes ih =>
    have spec := popReady_by f route now w.queue
    rcases pop : w.queue.popReady route now with ⟨_ | _ | ⟨queued, emptied⟩, t⟩
    · simp only [pop] at spec
      simp [nextReady, reserveFrom, MemorySection.run, pop, spec]
    · simp only [pop] at spec
      simpa [nextReady, reserveFrom, MemorySection.run, pop, spec] using ih
    · simp only [pop] at spec
      obtain ⟨waiting, leased, deadLetters⟩ := spec
      simp only [nextReady, pop]
      cases emptied with
      | true =>
        refine ⟨w.readings 0, fun n => w.readings (n + 1), t.removeRoute route, ?_,
          waiting, leased, deadLetters⟩
        simp [reserveFrom, MemorySection.run, pop]
      | false =>
        refine ⟨w.readings 0, fun n => w.readings (n + 1), t.rotateRoute route, ?_,
          by simpa using waiting, by simpa using leased, by simpa using deadLetters⟩
        simp [reserveFrom, MemorySection.run, pop]

/-- The task that `reserve` takes, given its bindings and the clock. -/
def nextReserved (bindings : List RuntimeRouteBinding) (w : TimedMemoryQueue) :
    Option QueuedRuntimeTask :=
  w.queue.nextReady (w.readings 0) (filterRoutes bindings w.queue.routeOrder)

/-- `reserve` takes one entry from the queued ones. -/
theorem eval_reserve_by {α : Type} (f : QueuedRuntimeTask → α)
    (bindings : List RuntimeRouteBinding) (w : TimedMemoryQueue) :
    match nextReserved bindings w with
    | none => ∃ readings : Nat → SystemTime,
      (reserve bindings).eval answer w = (.ok none, ⟨readings, w.queue⟩)
    | some queued => ∃ (leasedAt : SystemTime) (readings : Nat → SystemTime)
        (t : InMemoryRuntimeTaskQueue),
      (reserve bindings).eval answer w = (.ok (some (delivery queued leasedAt)),
        ⟨readings, t.insertLease (delivery queued leasedAt)⟩) ∧
      w.queue.queuedBy f = f queued ::ₘ t.queuedBy f ∧
      t.leased = w.queue.leased ∧ t.deadLetters = w.queue.deadLetters := by
  have loop := eval_reserveFrom f (w.readings 0) (filterRoutes bindings w.queue.routeOrder)
    ⟨fun n => w.readings (n + 1), w.queue⟩
  unfold nextReserved
  cases next : w.queue.nextReady (w.readings 0) (filterRoutes bindings w.queue.routeOrder) with
  | none =>
    simp only [next] at loop
    exact ⟨fun n => w.readings (n + 1), by simp [reserve, MemorySection.run, loop]⟩
  | some queued =>
    simp only [next] at loop
    obtain ⟨leasedAt, readings, t, run, moved⟩ := loop
    exact ⟨leasedAt, readings, t, by simp [reserve, MemorySection.run, run], moved⟩

/-- `reserve` moves the task it takes from the queued to the leased ones. -/
theorem eval_reserve (bindings : List RuntimeRouteBinding) (w : TimedMemoryQueue) :
    match nextReserved bindings w with
    | none => ∃ readings : Nat → SystemTime,
      (reserve bindings).eval answer w = (.ok none, ⟨readings, w.queue⟩)
    | some queued => ∃ (leasedAt : SystemTime) (readings : Nat → SystemTime)
        (t : InMemoryRuntimeTaskQueue),
      (reserve bindings).eval answer w = (.ok (some (delivery queued leasedAt)),
        ⟨readings, t.insertLease (delivery queued leasedAt)⟩) ∧
      w.queue.queuedTasks = queued.task ::ₘ t.queuedTasks ∧
      t.leased = w.queue.leased ∧ t.deadLetters = w.queue.deadLetters :=
  eval_reserve_by (·.task) bindings w

/-- A stored dead letter is added to the dead letters, and nothing else moves. -/
theorem eval_storeDeadLetter (given : RuntimeTaskDelivery) (error : String)
    (w : TimedMemoryQueue) : ∃ (readings : Nat → SystemTime) (t : InMemoryRuntimeTaskQueue),
      (storeDeadLetter given error).eval answer w = (.ok (), ⟨readings, t⟩) ∧
      t.deadLetteredTasks = given.task ::ₘ w.queue.deadLetteredTasks ∧
      t.leasedTasks = w.queue.leasedTasks ∧ t.queuedTasks = w.queue.queuedTasks := by
  refine ⟨fun n => w.readings (n + 1),
    w.queue.pushDeadLetter (given.deadLetter error (w.readings 0)), ?_, ?_, rfl, rfl⟩
  · simp [storeDeadLetter, MemorySection.run]
  · simp [deadLetteredTasks, pushDeadLetter, RuntimeTaskDelivery.deadLetter,
      ← Multiset.coe_add, add_comm]

end Operations

end InMemoryRuntimeTaskQueue

/-- How a worker settles a delivery. -/
inductive Settlement where
  | ack
  | retry (error : String) (delayMs : UInt64)
  | reject (error : String)

/-- One operation on the queue; a settling one names the delivery its caller holds. -/
inductive MemoryOp where
  | enqueue (task : RuntimeTask)
  | reserve (bindings : List RuntimeRouteBinding)
  | settle (delivery : RuntimeTaskDelivery) (how : Settlement)
  | replayDeadLetter (deliveryId : String)

/-- The queue, with the history that conservation speaks about. -/
structure Ledger where
  world : TimedMemoryQueue
  accepted : Multiset RuntimeTask
  acknowledged : Multiset RuntimeTask
  handedOut : List RuntimeTaskDelivery

namespace Ledger

open InMemoryRuntimeTaskQueue

/-- A new queue, with the readings the clock is going to show. -/
def initial (readings : Nat → SystemTime) : Ledger where
  world := ⟨readings, .default⟩
  accepted := 0
  acknowledged := 0
  handedOut := []

/-- The delivery that the lease map holds under the id of a delivery. -/
def leaseOf (s : Ledger) (delivery : RuntimeTaskDelivery) : Option RuntimeTaskDelivery :=
  s.world.queue.leased.lookup delivery.deliveryId

/-- Settle a delivery. An acknowledgement accounts for the lease it removes. -/
def settle (s : Ledger) (delivery : RuntimeTaskDelivery) : Settlement → Ledger
  | .ack =>
    { s with
      world := ((ack delivery.deliveryId).eval TimedMemoryQueue.answer s.world).2
      acknowledged := (s.leaseOf delivery).elim 0 ({·.task}) + s.acknowledged }
  | .retry error delayMs =>
    { s with
      world := ((retry delivery.deliveryId error delayMs).eval TimedMemoryQueue.answer s.world).2 }
  | .reject error =>
    { s with
      world := ((reject delivery.deliveryId error).eval TimedMemoryQueue.answer s.world).2 }

def step (s : Ledger) : MemoryOp → Ledger
  | .enqueue task =>
    match (enqueue task).eval TimedMemoryQueue.answer s.world with
    | (.ok _, world) => { s with world, accepted := task ::ₘ s.accepted }
    | (.error _, world) => { s with world }
  | .reserve bindings =>
    match (reserve bindings).eval TimedMemoryQueue.answer s.world with
    | (.ok (some delivery), world) => { s with world, handedOut := delivery :: s.handedOut }
    | (_, world) => { s with world }
  | .settle delivery how => s.settle delivery how
  | .replayDeadLetter deliveryId =>
    { s with world := ((replayDeadLetter deliveryId).eval TimedMemoryQueue.answer s.world).2 }

/-- Where a task can be. -/
inductive Place where
  | queued
  | leased
  | deadLettered
  | acknowledged
  deriving DecidableEq

def tasksAt (s : Ledger) : Place → Multiset RuntimeTask
  | .queued => s.world.queue.queuedTasks
  | .leased => s.world.queue.leasedTasks
  | .deadLettered => s.world.queue.deadLetteredTasks
  | .acknowledged => s.acknowledged

/-- Every accepted task is in exactly one place. -/
def Conserved (s : Ledger) : Prop :=
  s.accepted = s.tasksAt .queued + s.tasksAt .leased + s.tasksAt .deadLettered +
    s.tasksAt .acknowledged

/-- No task changes its place. -/
def Unmoved (s t : Ledger) : Prop := ∀ place, t.tasksAt place = s.tasksAt place

/-- One task goes from one place to another, and no other task changes its place. -/
def Moved (task : RuntimeTask) (source target : Place) (s t : Ledger) : Prop :=
  s.tasksAt source = task ::ₘ t.tasksAt source ∧ t.tasksAt target = task ::ₘ s.tasksAt target ∧
    ∀ place, place ≠ source → place ≠ target → t.tasksAt place = s.tasksAt place

/-- A settled delivery that is still leased gives up its own lease and goes to one other
place; a delivery that is not leased any more may also find nothing to move. -/
def SettlesOwn (delivery : RuntimeTaskDelivery) (s t : Ledger) : Prop :=
  (s.leaseOf delivery ≠ some delivery ∧ Unmoved s t) ∨
    ∃ target ≠ .leased, Moved delivery.task .leased target s t

/-- Settling a delivery that was handed out moves its own task, and a replay moves one
task from the dead letters to the queue. -/
def MovesRightTask (x : Transition Ledger MemoryOp) : Prop :=
  match x.label with
  | .settle delivery _ => delivery ∈ x.before.handedOut → SettlesOwn delivery x.before x.after
  | .replayDeadLetter _ =>
    Unmoved x.before x.after ∨ ∃ task, Moved task .deadLettered .queued x.before x.after
  | _ => True

/-- The task to be reserved has an id under which nothing is leased, and the lease found
under the id of a settled delivery, if there is one, is of the task of that delivery. -/
def KeyedApart (x : Transition Ledger MemoryOp) : Prop :=
  match x.label with
  | .reserve bindings => ∀ queued, nextReserved bindings x.before.world = some queued →
      x.before.world.queue.leased.lookup ("dlv-" ++ queued.task.taskId) = none
  | .settle delivery _ => delivery ∈ x.before.handedOut →
      ∀ held, x.before.leaseOf delivery = some held → held.task = delivery.task
  | _ => True

section Steps

variable {s : Ledger} {delivery held : RuntimeTaskDelivery}

theorem Moved.conserved {task : RuntimeTask} {source target : Place} {s t : Ledger}
    (apart : source ≠ target) (moved : Moved task source target s t)
    (accepted : t.accepted = s.accepted) : t.Conserved ↔ s.Conserved := by
  obtain ⟨left, entered, rest⟩ := moved
  have same : t.tasksAt .queued + t.tasksAt .leased + t.tasksAt .deadLettered +
      t.tasksAt .acknowledged = s.tasksAt .queued + s.tasksAt .leased +
      s.tasksAt .deadLettered + s.tasksAt .acknowledged := by
    -- Adding the moved task on both sides turns the two changes into equal sums.
    refine add_left_cancel (a := {task}) ?_
    cases source <;> cases target <;> first
      | exact absurd rfl apart
      | (simp only [left, entered, rest, ← Multiset.singleton_add, ne_eq, reduceCtorEq,
          not_false_eq_true]
         abel)
  unfold Conserved
  rw [same, accepted]

/-- A lease that becomes a dead letter. -/
theorem Moved.toDeadLetters {task : RuntimeTask} {w : TimedMemoryQueue}
    (left : s.world.queue.leasedTasks = task ::ₘ w.queue.leasedTasks)
    (dead : w.queue.deadLetteredTasks = task ::ₘ s.world.queue.deadLetteredTasks)
    (queued : w.queue.queuedTasks = s.world.queue.queuedTasks) :
    Moved task .leased .deadLettered s { s with world := w } := by
  refine ⟨left, dead, ?_⟩
  intro place
  cases place <;> simp [tasksAt, queued]

/-- A lease that goes back to the queue. -/
theorem Moved.toQueue {task : RuntimeTask} {w : TimedMemoryQueue}
    (left : s.world.queue.leasedTasks = task ::ₘ w.queue.leasedTasks)
    (queued : w.queue.queuedTasks = task ::ₘ s.world.queue.queuedTasks)
    (dead : w.queue.deadLetteredTasks = s.world.queue.deadLetteredTasks) :
    Moved task .leased .queued s { s with world := w } := by
  refine ⟨left, queued, ?_⟩
  intro place
  cases place <;> simp [tasksAt, dead]

theorem settle_of_unleased (how : Settlement) (h : s.leaseOf delivery = none) :
    Unmoved s (s.settle delivery how) := by
  have keep := removeLease_of_lookup (s := s.world.queue) h
  intro place
  cases how <;> cases place <;>
    simp [settle, tasksAt, h, InMemoryRuntimeTaskQueue.ack, retry, reject, MemorySection.run,
      keep]

/-- Settling moves the task of the lease found under the id of the delivery. -/
theorem settle_of_leased (how : Settlement) (h : s.leaseOf delivery = some held) :
    ∃ target ≠ .leased, Moved held.task .leased target s (s.settle delivery how) := by
  have left := leasedTasks_of_lookup (s := s.world.queue) h
  have found : (s.world.queue.removeLease delivery.deliveryId).1 = some held := h
  cases how with
  | ack =>
    refine ⟨.acknowledged, by decide, ?_, ?_, ?_⟩
    · simpa [tasksAt, settle, InMemoryRuntimeTaskQueue.ack, MemorySection.run] using left
    · simp [tasksAt, settle, h]
    · intro place
      cases place <;> simp [tasksAt, settle, InMemoryRuntimeTaskQueue.ack, MemorySection.run,
        removeLease, queuedTasks, deadLetteredTasks]
  | retry error delayMs =>
    by_cases exhausted : held.attempt ≥ held.task.retryPolicy.maxAttempts
    · obtain ⟨readings, t, run, dead, leased, queued⟩ := eval_storeDeadLetter held error
        ⟨s.world.readings, (s.world.queue.removeLease delivery.deliveryId).2⟩
      have settled : s.settle delivery (.retry error delayMs) = { s with world := ⟨readings, t⟩ } :=
        by simp [settle, retry, MemorySection.run, found, exhausted, run]
      rw [settled]
      exact ⟨.deadLettered, by decide, .toDeadLetters (by simpa [leased] using left) dead queued⟩
    · obtain ⟨t, run, queued, leased, dead⟩ := eval_enqueueInternal
        { task := held.task
          attempt := held.attempt + 1
          availableAt := (SystemTime.checkedAdd (s.world.readings 0)
            (delayMs.toNat * 1000000)).getD (s.world.readings 1)
          lastError := some error }
        ⟨fun n => s.world.readings (n + 2), (s.world.queue.removeLease delivery.deliveryId).2⟩
      have settled : s.settle delivery (.retry error delayMs) =
          { s with world := ⟨fun n => s.world.readings (n + 2), t⟩ } := by
        simp [settle, retry, MemorySection.run, found, exhausted, run]
      rw [settled]
      exact ⟨.queued, by decide, .toQueue (by simpa [leased] using left) queued dead⟩
  | reject error =>
    obtain ⟨readings, t, run, dead, leased, queued⟩ := eval_storeDeadLetter held error
      ⟨s.world.readings, (s.world.queue.removeLease delivery.deliveryId).2⟩
    have settled : s.settle delivery (.reject error) = { s with world := ⟨readings, t⟩ } := by
      simp [settle, reject, MemorySection.run, found, run]
    rw [settled]
    exact ⟨.deadLettered, by decide, .toDeadLetters (by simpa [leased] using left) dead queued⟩

theorem settle_accepted (how : Settlement) :
    (s.settle delivery how).accepted = s.accepted := by
  cases how <;> rfl

theorem Unmoved.conserved {s t : Ledger} (unmoved : Unmoved s t)
    (accepted : t.accepted = s.accepted) : t.Conserved ↔ s.Conserved := by
  unfold Conserved
  rw [accepted, unmoved, unmoved, unmoved, unmoved]

theorem step_enqueue (task : RuntimeTask) :
    (s.step (.enqueue task)).Conserved ↔ s.Conserved := by
  obtain ⟨t, run, queued, leased, dead⟩ := eval_enqueueInternal
    { task, attempt := 1, availableAt := s.world.readings 0, lastError := none }
    ⟨fun n => s.world.readings (n + 1), s.world.queue⟩
  have stepped : s.step (.enqueue task) = { s with
      world := ⟨fun n => s.world.readings (n + 1), t⟩, accepted := task ::ₘ s.accepted } := by
    simp [step, enqueue, run]
  rw [stepped]
  simp [Conserved, tasksAt, queued, leased, dead, Multiset.cons_add]

/-- Replaying moves one task from the dead letters to the queue, if it finds a record. -/
theorem step_replay (deliveryId : String) :
    Unmoved s (s.step (.replayDeadLetter deliveryId)) ∨
      ∃ task, Moved task .deadLettered .queued s (s.step (.replayDeadLetter deliveryId)) := by
  cases found : (s.world.queue.takeDeadLetter deliveryId).1 with
  | none =>
    have same := takeDeadLetter_of_none found
    have stepped : s.step (.replayDeadLetter deliveryId) = s := by
      simp [step, replayDeadLetter, MemorySection.run, same]
    exact .inl (by rw [stepped]; exact fun _ => rfl)
  | some record =>
    have left := deadLetteredTasks_takeDeadLetter found
    obtain ⟨t, run, queued, leased, dead⟩ := eval_enqueueInternal
      { task := record.task
        attempt := 1
        availableAt := s.world.readings 0
        lastError := some ("replayed from dead letter: " ++ record.error) }
      ⟨fun n => s.world.readings (n + 1), (s.world.queue.takeDeadLetter deliveryId).2⟩
    have stepped : s.step (.replayDeadLetter deliveryId) =
        { s with world := ⟨fun n => s.world.readings (n + 1), t⟩ } := by
      simp [step, replayDeadLetter, MemorySection.run, found, run]
    refine .inr ⟨record.task, ?_⟩
    rw [stepped]
    refine ⟨by simpa [tasksAt, dead] using left, by simpa [tasksAt] using queued, ?_⟩
    intro place
    cases place <;> simp [tasksAt, leased]

/-- A reserved task enters the lease map under an id made of its task id, and what was
leased under this id before is lost. -/
theorem step_reserve (bindings : List RuntimeRouteBinding) (conserved : s.Conserved) :
    (s.step (.reserve bindings)).Conserved ↔
      ∀ queued, nextReserved bindings s.world = some queued →
        s.world.queue.leased.lookup ("dlv-" ++ queued.task.taskId) = none := by
  have spec := eval_reserve bindings s.world
  cases next : nextReserved bindings s.world with
  | none =>
    simp only [next] at spec
    obtain ⟨readings, run⟩ := spec
    have stepped : s.step (.reserve bindings) =
        { s with world := ⟨readings, s.world.queue⟩ } := by simp [step, run]
    rw [stepped]
    simp only [reduceCtorEq, false_implies, implies_true, iff_true]
    exact conserved
  | some queued =>
    simp only [next] at spec
    obtain ⟨leasedAt, readings, t, run, left, leased, dead⟩ := spec
    have stepped : s.step (.reserve bindings) = { s with
        world := ⟨readings, t.insertLease (delivery queued leasedAt)⟩
        handedOut := delivery queued leasedAt :: s.handedOut } := by simp [step, run]
    have entered : (t.insertLease (delivery queued leasedAt)).leasedTasks = queued.task ::ₘ
        (s.world.queue.removeLease ("dlv-" ++ queued.task.taskId)).2.leasedTasks := by
      rw [leasedTasks_insertLease]
      simp [delivery, leasedTasks, removeLease, leased]
    have sameDead : t.deadLetteredTasks = s.world.queue.deadLetteredTasks := by
      simp [deadLetteredTasks, dead]
    have after : (s.step (.reserve bindings)).Conserved ↔ s.accepted = t.queuedTasks +
        (queued.task ::ₘ
          (s.world.queue.removeLease ("dlv-" ++ queued.task.taskId)).2.leasedTasks) +
        s.world.queue.deadLetteredTasks + s.acknowledged := by
      rw [stepped, ← entered, ← sameDead]
      rfl
    simp only [Conserved, tasksAt, left] at conserved
    simp only [after, conserved, Option.some.injEq, forall_eq']
    cases found : s.world.queue.leased.lookup ("dlv-" ++ queued.task.taskId) with
    | none => simp [removeLease_of_lookup found]
    | some held =>
      -- The overwritten task is counted before the step only.
      have lost : s.world.queue.leasedTasks ≠
          (s.world.queue.removeLease ("dlv-" ++ queued.task.taskId)).2.leasedTasks := by
        intro same
        simpa [same] using congrArg Multiset.card (leasedTasks_of_lookup found)
      simpa [Multiset.cons_add, Multiset.add_cons] using lost

/-- A settling step moves the task of its own delivery exactly when the lease found
under the id of the delivery is of that task. -/
theorem settlesOwn_iff (how : Settlement) :
    SettlesOwn delivery s (s.settle delivery how) ↔
      ∀ held, s.leaseOf delivery = some held → held.task = delivery.task := by
  cases found : s.leaseOf delivery with
  | none =>
    have unmoved := settle_of_unleased how found
    simp [SettlesOwn, found, unmoved]
  | some held =>
    obtain ⟨target, away, moved⟩ := settle_of_leased how found
    simp only [Option.some.injEq, forall_eq']
    constructor
    · rintro (⟨_, unmoved⟩ | ⟨_, _, own⟩)
      · have left := moved.1
        rw [unmoved] at left
        simpa using congrArg Multiset.card left
      · exact Multiset.cons_inj_left _ |>.1 (moved.1.symm.trans own.1)
    · intro same
      exact .inr ⟨target, away, same ▸ moved⟩

theorem settle_conserved (how : Settlement) :
    (s.settle delivery how).Conserved ↔ s.Conserved := by
  cases found : s.leaseOf delivery with
  | none => exact (settle_of_unleased how found).conserved (settle_accepted how)
  | some held =>
    obtain ⟨target, away, moved⟩ := settle_of_leased how found
    exact moved.conserved away.symm (settle_accepted how)

/-- One operation keeps every task and moves the right one exactly when the ids that it
uses as keys keep the tasks involved apart. -/
theorem step_iff (op : MemoryOp) (conserved : s.Conserved) :
    ((s.step op).Conserved ∧ MovesRightTask ⟨s, op, s.step op⟩) ↔
      KeyedApart ⟨s, op, s.step op⟩ := by
  cases op with
  | enqueue task => simp [KeyedApart, MovesRightTask, step_enqueue, conserved]
  | reserve bindings => simpa [KeyedApart, MovesRightTask] using step_reserve bindings conserved
  | settle delivery how =>
    have kept : (s.settle delivery how).Conserved := (settle_conserved how).2 conserved
    simp only [KeyedApart, MovesRightTask, step, kept, true_and, settlesOwn_iff]
  | replayDeadLetter deliveryId =>
    have replayed := step_replay (s := s) deliveryId
    have kept : (s.step (.replayDeadLetter deliveryId)).Conserved := by
      rcases replayed with unmoved | ⟨task, moved⟩
      · exact (unmoved.conserved rfl).2 conserved
      · exact (moved.conserved (by decide) rfl).2 conserved
    simp only [KeyedApart, MovesRightTask, kept, replayed, true_and]

end Steps

theorem initial_conserved (readings : Nat → SystemTime) : (initial readings).Conserved := rfl

/-- Along every run from a new queue, all tasks are conserved and every settled delivery
moves its own task exactly as long as no task is reserved whose id is leased already, and
no delivery is settled under whose id another task is leased. -/
theorem conserved_iff_keyedApart (readings : Nat → SystemTime) (ops : List MemoryOp) :
    (∀ x ∈ trace step (initial readings) ops, x.after.Conserved ∧ MovesRightTask x) ↔
      ∀ x ∈ trace step (initial readings) ops, KeyedApart x := by
  refine Run.forall_iff ?_ ?_ (initial_conserved readings) (run_trace step (initial readings) ops)
  · rintro s op t conserved rfl
    exact step_iff op conserved
  · rintro s op t - rfl good
    exact good.1

/-- Two tasks with one id on two queues, both reserved before either is settled. -/
def sharedIdRun : List MemoryOp :=
  [.enqueue (sampleTask "task-1" "judge-a" 3), .enqueue (sampleTask "task-1" "judge-b" 3),
    .reserve [], .reserve []]

/-- The second reservation overwrites the lease of the first, whose task is in no place
any more. -/
theorem sharedIdRun_loses_a_task :
    ¬ ∀ x ∈ trace step (initial fun _ => 0) sharedIdRun, x.after.Conserved ∧ MovesRightTask x := by
  intro all
  have last : (sharedIdRun.foldl step (initial fun _ => 0)).Conserved :=
    (all _ (List.getLast_mem (l := trace step (initial fun _ => 0) sharedIdRun) nofun)).1
  have sizes := congrArg Multiset.card last
  revert sizes
  decide +kernel

end Ledger

end NexusCore.Runtime
