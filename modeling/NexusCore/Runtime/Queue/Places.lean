import NexusCore.Runtime.Queue.Conservation
import NexusCore.Runtime.Service

/-!
# Places of tasks

What worker loops rely on in a queue: each of their commands moves at most one task between the
waiting tasks, the leases and the dead letters. The in-memory queue behaves so as long as no task
waits under whose id another one is leased.
-/

namespace NexusCore.Runtime

open NexusCore.Lib

structure QueuePlaces where
  waiting : Multiset RuntimeTask
  leased : Multiset RuntimeTaskDelivery
  dead : Multiset RuntimeTask

namespace QueuePlaces

def empty : QueuePlaces := ⟨0, 0, 0⟩

/-- The lease of a delivery ends, and nothing else changes. -/
structure Released (s : QueuePlaces) (delivery : RuntimeTaskDelivery) (t : QueuePlaces) : Prop where
  leased : s.leased = delivery ::ₘ t.leased
  waiting : t.waiting = s.waiting
  dead : t.dead = s.dead

/-- What a queue may answer to a command, and the places of its tasks after it. A queue that
answers to an enqueue with an error may have taken the task all the same. -/
def Serves (s : QueuePlaces) : (c : ServiceCmd) → c.Answer → QueuePlaces → Prop
  | .enqueue task, .ok _, t => t = { s with waiting := task ::ₘ s.waiting }
  | .enqueue task, .error _, t => t = s ∨ t = { s with waiting := task ::ₘ s.waiting }
  | .reserve _, none, t => t = s
  | .reserve _, some delivery, t =>
    s.waiting = delivery.task ::ₘ t.waiting ∧ t.leased = delivery ::ₘ s.leased ∧
      t.dead = s.dead ∧ ∀ held ∈ s.leased, held.deliveryId ≠ delivery.deliveryId
  | .ack deliveryId, .ok _, t =>
    (∃ delivery, delivery.deliveryId = deliveryId ∧ s.Released delivery t) ∨
      ((∀ held ∈ s.leased, held.deliveryId ≠ deliveryId) ∧ t = s)
  | .ack _, .error _, t => t = s
  | .retry deliveryId _ _, .ok .requeued, t => ∃ delivery u, delivery.deliveryId = deliveryId ∧
    s.Released delivery u ∧ t = { u with waiting := delivery.task ::ₘ u.waiting }
  | .retry deliveryId _ _, .ok .deadLettered, t => ∃ delivery u,
    delivery.deliveryId = deliveryId ∧ s.Released delivery u ∧
      t = { u with dead := delivery.task ::ₘ u.dead }
  | .retry .., .error _, t => t = s
  | _, _, t => t = s

end QueuePlaces

namespace InMemoryRuntimeTaskQueue

def deliveries (s : InMemoryRuntimeTaskQueue) : Multiset RuntimeTaskDelivery :=
  total (fun delivery => {delivery}) s.leased

def places (s : InMemoryRuntimeTaskQueue) : QueuePlaces where
  waiting := s.queuedTasks
  leased := s.deliveries
  dead := s.deadLetteredTasks

/-- Ids of deliveries tell tasks apart that have ids of their own. -/
theorem delivery_inj {id id' : String} (same : "dlv-" ++ id = "dlv-" ++ id') : id = id' := by
  have lists := congrArg String.toList same
  simp only [String.toList_append] at lists
  exact String.toList_injective (List.append_cancel_left lists)

/-- Every lease is kept under the id of its delivery, which is named after its task. -/
def Filed (s : InMemoryRuntimeTaskQueue) : Prop :=
  ∀ id delivery, s.leased.lookup id = some delivery →
    delivery.deliveryId = id ∧ delivery.deliveryId = "dlv-" ++ delivery.task.taskId

/-- No task waits under whose id a task is leased. -/
def Apart (s : InMemoryRuntimeTaskQueue) : Prop :=
  ∀ task ∈ s.queuedTasks, s.leased.lookup ("dlv-" ++ task.taskId) = none

variable {s t : InMemoryRuntimeTaskQueue}

theorem mem_deliveries {delivery : RuntimeTaskDelivery} :
    delivery ∈ s.deliveries ↔ ∃ id, s.leased.lookup id = some delivery := by
  have members : ∀ entries : List (Sigma fun _ : String => RuntimeTaskDelivery),
      delivery ∈ (entries.map fun e => ({e.2} : Multiset RuntimeTaskDelivery)).sum ↔
        ∃ e ∈ entries, e.2 = delivery := by
    intro entries
    induction entries with
    | nil => simp
    | cons e rest ih => simp [ih, eq_comm]
  unfold deliveries total
  rw [members]
  constructor
  · intro ⟨e, mem, same⟩
    exact ⟨e.1, AList.mem_lookup_iff.2 (same ▸ mem)⟩
  · intro ⟨id, found⟩
    exact ⟨⟨id, delivery⟩, AList.mem_lookup_iff.1 found, rfl⟩

theorem deliveries_of_lookup {id : String} {held : RuntimeTaskDelivery}
    (found : s.leased.lookup id = some held) :
    s.deliveries = held ::ₘ (s.removeLease id).2.deliveries := by
  unfold deliveries removeLease
  rw [total_erase found]
  rfl

theorem deliveries_insertLease {delivery : RuntimeTaskDelivery}
    (apart : s.leased.lookup delivery.deliveryId = none) :
    (s.insertLease delivery).deliveries = delivery ::ₘ s.deliveries := by
  unfold deliveries insertLease
  rw [total_insert_of_eq_none apart]
  rfl

theorem Filed.removeLease (filed : s.Filed) (id : String) : (s.removeLease id).2.Filed := by
  intro key delivery found
  change (s.leased.erase id).lookup key = some delivery at found
  exact filed key delivery (of_lookup_erase found).2

theorem Filed.insertLease (filed : s.Filed) {delivery : RuntimeTaskDelivery}
    (named : delivery.deliveryId = "dlv-" ++ delivery.task.taskId) :
    (s.insertLease delivery).Filed := by
  intro key held found
  change (s.leased.insert delivery.deliveryId delivery).lookup key = some held at found
  rcases of_lookup_insert found with ⟨rfl, rfl⟩ | ⟨-, old⟩
  · exact ⟨rfl, named⟩
  · exact filed key held old

/-- Every delivery is named after its task. -/
theorem Filed.named (filed : s.Filed) {delivery : RuntimeTaskDelivery}
    (mem : delivery ∈ s.deliveries) : delivery.deliveryId = "dlv-" ++ delivery.task.taskId := by
  obtain ⟨id, found⟩ := mem_deliveries.1 mem
  exact (filed id delivery found).2

theorem Filed.unleased (filed : s.Filed) {id : String} (none : s.leased.lookup id = none) :
    ∀ held ∈ s.deliveries, held.deliveryId ≠ id := by
  intro held mem same
  obtain ⟨key, found⟩ := mem_deliveries.1 mem
  have named := (filed key held found).1
  rw [same.symm.trans named] at none
  rw [none] at found
  cases found

/-- A task that is added to a bucket waits, and nothing else moves. -/
theorem places_enqueueInternal (queued : QueuedRuntimeTask) (w : TimedMemoryQueue) :
    ∃ t : InMemoryRuntimeTaskQueue,
      (enqueueInternal queued).eval TimedMemoryQueue.answer w = (.ok (), ⟨w.readings, t⟩) ∧
      t.leased = w.queue.leased ∧ t.deadLetters = w.queue.deadLetters ∧
      t.places = { w.queue.places with waiting := queued.task ::ₘ w.queue.places.waiting } := by
  have queuedTasks := queuedTasks_pushBack (s := w.queue) queued.task.route queued
  have same : ∀ t : InMemoryRuntimeTaskQueue, t.queuedTasks = queued.task ::ₘ w.queue.queuedTasks →
      t.leased = w.queue.leased → t.deadLetters = w.queue.deadLetters →
      t.places = { w.queue.places with waiting := queued.task ::ₘ w.queue.places.waiting } := by
    intro t waiting leased dead
    unfold places deliveries deadLetteredTasks
    rw [waiting, leased, dead]
  by_cases empty : (w.queue.pushBack queued.task.route queued).1
  · refine ⟨(w.queue.pushBack queued.task.route queued).2.appendRoute queued.task.route, ?_, rfl,
      rfl, same _ queuedTasks rfl rfl⟩
    simp [enqueueInternal, MemorySection.run, empty]
  · refine ⟨(w.queue.pushBack queued.task.route queued).2, ?_, rfl, rfl,
      same _ queuedTasks rfl rfl⟩
    simp [enqueueInternal, MemorySection.run, empty]

theorem places_storeDeadLetter (given : RuntimeTaskDelivery) (error : String)
    (w : TimedMemoryQueue) : ∃ t : TimedMemoryQueue,
      (storeDeadLetter given error).eval TimedMemoryQueue.answer w = (.ok (), t) ∧
      t.queue.leased = w.queue.leased ∧
      t.queue.places = { w.queue.places with dead := given.task ::ₘ w.queue.places.dead } := by
  refine ⟨⟨fun n => w.readings (n + 1),
    w.queue.pushDeadLetter (given.deadLetter error (w.readings 0))⟩, ?_, rfl, ?_⟩
  · simp [storeDeadLetter, MemorySection.run]
  · simp [places, deadLetteredTasks, pushDeadLetter, RuntimeTaskDelivery.deadLetter, queuedTasks,
      deliveries, ← Multiset.coe_add, add_comm]

end InMemoryRuntimeTaskQueue

namespace TimedMemoryQueue

open InMemoryRuntimeTaskQueue

/-- What the in-memory queue answers to a command, if no other operation is in progress. -/
def Answers (w : TimedMemoryQueue) : (c : ServiceCmd) → c.Answer → TimedMemoryQueue → Prop
  | .enqueue task, r, t => (enqueue task).eval answer w = (r, t)
  | .reserve bindings, r, t => (reserve bindings).eval answer w = (.ok r, t)
  | .ack deliveryId, r, t => (ack deliveryId).eval answer w = (r, t)
  | .retry deliveryId error delayMs, r, t => (retry deliveryId error delayMs).eval answer w = (r, t)
  | _, _, t => t = w

variable {w t : TimedMemoryQueue}

theorem answers_enqueue (task : RuntimeTask) (w : TimedMemoryQueue) :
    ∃ t : TimedMemoryQueue, (enqueue task).eval answer w = (.ok (), t) ∧
      t.queue.leased = w.queue.leased ∧ t.queue.deadLetters = w.queue.deadLetters ∧
      t.queue.places = { w.queue.places with waiting := task ::ₘ w.queue.places.waiting } := by
  obtain ⟨t, run, leased, dead, places⟩ := places_enqueueInternal
    { task, attempt := 1, availableAt := w.readings 0, lastError := none }
    ⟨fun n => w.readings (n + 1), w.queue⟩
  exact ⟨⟨fun n => w.readings (n + 1), t⟩, by simp [enqueue, run], leased, dead, places⟩

/-- The lease that is found under an id is released. -/
theorem released_of_lookup {id : String} {held : RuntimeTaskDelivery}
    (found : w.queue.leased.lookup id = some held) :
    w.queue.places.Released held (w.queue.removeLease id).2.places where
  leased := deliveries_of_lookup found
  waiting := rfl
  dead := rfl

theorem answers_ack (deliveryId : String) (w : TimedMemoryQueue) :
    (ack deliveryId).eval answer w =
      (.ok (), ⟨w.readings, (w.queue.removeLease deliveryId).2⟩) := by
  simp [InMemoryRuntimeTaskQueue.ack, MemorySection.run]

theorem answers_retry_none (error : String) (delayMs : UInt64) {deliveryId : String}
    (none : w.queue.leased.lookup deliveryId = none) :
    (retry deliveryId error delayMs).eval answer w = (.error .internal, w) := by
  have keep := removeLease_of_lookup (s := w.queue) none
  simp [retry, MemorySection.run, keep]

/-- A lease that is retried goes back to the queue or becomes a dead letter. -/
theorem answers_retry (error : String) (delayMs : UInt64) {deliveryId : String}
    {held : RuntimeTaskDelivery} (found : w.queue.leased.lookup deliveryId = some held) :
    ∃ (disposition : RetryDisposition) (t : TimedMemoryQueue),
      (retry deliveryId error delayMs).eval answer w = (.ok disposition, t) ∧
      t.queue.leased = (w.queue.removeLease deliveryId).2.leased ∧
      t.queue.places = match disposition with
        | .requeued => { (w.queue.removeLease deliveryId).2.places with
            waiting := held.task ::ₘ w.queue.places.waiting }
        | .deadLettered => { (w.queue.removeLease deliveryId).2.places with
            dead := held.task ::ₘ w.queue.places.dead } := by
  have taken : (w.queue.removeLease deliveryId).1 = some held := found
  by_cases exhausted : held.attempt ≥ held.task.retryPolicy.maxAttempts
  · obtain ⟨t, run, leased, places⟩ := places_storeDeadLetter held error
      ⟨w.readings, (w.queue.removeLease deliveryId).2⟩
    refine ⟨.deadLettered, t, ?_, leased, places⟩
    simp [retry, MemorySection.run, taken, exhausted, run]
  · obtain ⟨t, run, leased, dead, places⟩ := places_enqueueInternal
      { task := held.task
        attempt := held.attempt + 1
        availableAt := (SystemTime.checkedAdd (w.readings 0)
          (delayMs.toNat * 1000000)).getD (w.readings 1)
        lastError := some error }
      ⟨fun n => w.readings (n + 2), (w.queue.removeLease deliveryId).2⟩
    refine ⟨.requeued, ⟨fun n => w.readings (n + 2), t⟩, ?_, leased, places⟩
    simp [retry, MemorySection.run, taken, exhausted, run]

/-- Every command of the in-memory queue moves a task as the worker loops rely on, if no task waits
under whose id another one is leased. -/
theorem Answers.serves {c : ServiceCmd} {r : c.Answer} (filed : w.queue.Filed)
    (apart : w.queue.Apart) (answers : w.Answers c r t) :
    w.queue.places.Serves c r t.queue.places ∧ t.queue.Filed := by
  cases c with
  | enqueue task =>
    obtain ⟨u, run, leased, dead, places⟩ := answers_enqueue task w
    have same := run.symm.trans answers
    cases same
    refine ⟨places, ?_⟩
    intro id delivery found
    rw [leased] at found
    exact filed id delivery found
  | reserve bindings =>
    have spec := eval_reserve bindings w
    cases next : nextReserved bindings w with
    | none =>
      rw [next] at spec
      obtain ⟨readings, run⟩ := spec
      have same := run.symm.trans answers
      cases same
      exact ⟨rfl, filed⟩
    | some queued =>
      rw [next] at spec
      obtain ⟨leasedAt, readings, u, run, queuedTasks, leased, dead⟩ := spec
      have same := run.symm.trans answers
      cases same
      have waits : queued.task ∈ w.queue.queuedTasks := by
        rw [queuedTasks]
        exact Multiset.mem_cons_self _ _
      have free : u.leased.lookup (delivery queued leasedAt).deliveryId = none := by
        rw [leased]
        exact apart queued.task waits
      have kept : u.Filed := by
        intro id held found
        rw [leased] at found
        exact filed id held found
      have leases : u.deliveries = w.queue.deliveries := by
        unfold deliveries
        rw [leased]
      refine ⟨⟨queuedTasks, ?_, ?_, ?_⟩, kept.insertLease rfl⟩
      · change (u.insertLease (delivery queued leasedAt)).deliveries = _
        rw [deliveries_insertLease free, leases]
        rfl
      · change (u.insertLease (delivery queued leasedAt)).deadLetteredTasks = _
        unfold deadLetteredTasks insertLease
        rw [dead]
        rfl
      · exact filed.unleased (apart queued.task waits)
  | ack deliveryId =>
    have same := (answers_ack deliveryId w).symm.trans answers
    cases same
    refine ⟨?_, filed.removeLease deliveryId⟩
    cases found : w.queue.leased.lookup deliveryId with
    | none =>
      right
      refine ⟨filed.unleased found, ?_⟩
      rw [removeLease_of_lookup found]
    | some held => exact .inl ⟨held, (filed _ _ found).1, released_of_lookup found⟩
  | retry deliveryId error delayMs =>
    cases found : w.queue.leased.lookup deliveryId with
    | none =>
      have same := (answers_retry_none error delayMs found).symm.trans answers
      cases same
      exact ⟨rfl, filed⟩
    | some held =>
      obtain ⟨disposition, u, run, leased, places⟩ := answers_retry error delayMs found
      have same := run.symm.trans answers
      cases same
      have settled : t.queue.Filed := by
        intro id delivery there
        rw [leased] at there
        exact filed.removeLease deliveryId id delivery there
      refine ⟨?_, settled⟩
      cases disposition with
      | requeued => exact ⟨held, _, (filed _ _ found).1, released_of_lookup found, places⟩
      | deadLettered => exact ⟨held, _, (filed _ _ found).1, released_of_lookup found, places⟩
  | updateSnapshot _ | onEvent _ | prepare _ | execute _ | sleep _ =>
    obtain rfl : t = w := answers
    exact ⟨rfl, filed⟩

end TimedMemoryQueue

end NexusCore.Runtime
