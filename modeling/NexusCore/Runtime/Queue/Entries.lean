import NexusCore.Runtime.Queue.Places

/-!
# Entries of the in-memory queue

What each operation of the queue does to the entries that wait, if no other operation is in
progress: one entry is added or taken, with its task and its attempt.
-/

namespace NexusCore.Runtime

open NexusCore.Lib

namespace InMemoryRuntimeTaskQueue

variable {s t : InMemoryRuntimeTaskQueue} {w : TimedMemoryQueue}

/-- The entries in all buckets. -/
def waiting (s : InMemoryRuntimeTaskQueue) : Multiset QueuedRuntimeTask := s.queuedBy id

theorem mem_waiting {queued : QueuedRuntimeTask} :
    queued ∈ s.waiting ↔ ∃ route, queued ∈ s.bucket route := by
  have members : ∀ entries : List (Sigma fun _ : Route => List QueuedRuntimeTask),
      queued ∈ (entries.map fun e => (↑(e.2.map id) : Multiset QueuedRuntimeTask)).sum ↔
        ∃ e ∈ entries, queued ∈ e.2 := by
    intro entries
    induction entries with
    | nil => simp
    | cons e rest ih =>
      rw [List.map_cons, List.sum_cons, Multiset.mem_add, ih, List.exists_mem_cons_iff]
      simp
  unfold waiting queuedBy total
  rw [members]
  constructor
  · intro ⟨e, mem, there⟩
    refine ⟨e.1, ?_⟩
    have found : s.buckets.lookup e.1 = some e.2 := AList.mem_lookup_iff.2 mem
    unfold bucket
    rwa [found]
  · intro ⟨route, there⟩
    unfold bucket at there
    cases found : s.buckets.lookup route with
    | none =>
      rw [found] at there
      exact absurd there List.not_mem_nil
    | some entries =>
      rw [found] at there
      exact ⟨⟨route, entries⟩, AList.mem_lookup_iff.1 found, there⟩

/-- An entry is added to those that wait, and nothing else changes. -/
structure Adds (queued : QueuedRuntimeTask) (s t : InMemoryRuntimeTaskQueue) : Prop where
  waiting : t.waiting = queued ::ₘ s.waiting
  leased : t.leased = s.leased
  deadLetters : t.deadLetters = s.deadLetters

theorem enqueueInternal_adds (queued : QueuedRuntimeTask) (w : TimedMemoryQueue) :
    ∃ t : InMemoryRuntimeTaskQueue,
      (enqueueInternal queued).eval TimedMemoryQueue.answer w = (.ok (), ⟨w.readings, t⟩) ∧
      Adds queued w.queue t := by
  have waits := queuedBy_pushBack (s := w.queue) id queued.task.route queued
  by_cases empty : (w.queue.pushBack queued.task.route queued).1
  · refine ⟨(w.queue.pushBack queued.task.route queued).2.appendRoute queued.task.route, ?_,
      waits, rfl, rfl⟩
    simp [enqueueInternal, MemorySection.run, empty]
  · refine ⟨(w.queue.pushBack queued.task.route queued).2, ?_, waits, rfl, rfl⟩
    simp [enqueueInternal, MemorySection.run, empty]

theorem enqueue_adds (task : RuntimeTask) (w : TimedMemoryQueue) :
    ∃ (queued : QueuedRuntimeTask) (t : TimedMemoryQueue),
      (enqueue task).eval TimedMemoryQueue.answer w = (.ok (), t) ∧ queued.task = task ∧
      queued.attempt = 1 ∧ Adds queued w.queue t.queue := by
  obtain ⟨t, run, adds⟩ := enqueueInternal_adds
    { task, attempt := 1, availableAt := w.readings 0, lastError := none }
    ⟨fun n => w.readings (n + 1), w.queue⟩
  exact ⟨_, ⟨fun n => w.readings (n + 1), t⟩, by simp [enqueue, run], rfl, rfl, adds⟩

/-- A reservation hands out nothing, or takes one entry and leases its task under an id of its
own. -/
theorem reserve_takes (bindings : List RuntimeRouteBinding) (w : TimedMemoryQueue) :
    (∃ readings, (reserve bindings).eval TimedMemoryQueue.answer w =
      (.ok none, ⟨readings, w.queue⟩)) ∨
    ∃ (queued : QueuedRuntimeTask) (now : SystemTime) (readings : Nat → SystemTime)
      (u : InMemoryRuntimeTaskQueue),
      (reserve bindings).eval TimedMemoryQueue.answer w =
        (.ok (some (delivery queued now)), ⟨readings, u.insertLease (delivery queued now)⟩) ∧
      Adds queued u w.queue := by
  have spec := eval_reserve_by id bindings w
  cases next : nextReserved bindings w with
  | none =>
    rw [next] at spec
    exact .inl spec
  | some queued =>
    rw [next] at spec
    obtain ⟨now, readings, u, run, waits, leased, dead⟩ := spec
    exact .inr ⟨queued, now, readings, u, run, waits, leased.symm, dead.symm⟩

/-- A lease that is retried: the task waits for its next attempt, or it becomes a dead letter. -/
theorem retry_gives (error : String) (delayMs : UInt64) {deliveryId : String}
    {held : RuntimeTaskDelivery} (found : w.queue.leased.lookup deliveryId = some held) :
    (¬ held.attempt ≥ held.task.retryPolicy.maxAttempts ∧
      ∃ (queued : QueuedRuntimeTask) (t : TimedMemoryQueue),
        (retry deliveryId error delayMs).eval TimedMemoryQueue.answer w = (.ok .requeued, t) ∧
        queued.task = held.task ∧ queued.attempt = held.attempt + 1 ∧
        Adds queued (w.queue.removeLease deliveryId).2 t.queue) ∨
    ∃ (now : SystemTime) (t : TimedMemoryQueue),
      (retry deliveryId error delayMs).eval TimedMemoryQueue.answer w = (.ok .deadLettered, t) ∧
      t.queue = (w.queue.removeLease deliveryId).2.pushDeadLetter (held.deadLetter error now) := by
  have taken : (w.queue.removeLease deliveryId).1 = some held := found
  by_cases exhausted : held.attempt ≥ held.task.retryPolicy.maxAttempts
  · refine .inr ⟨w.readings 0, ⟨fun n => w.readings (n + 1),
      (w.queue.removeLease deliveryId).2.pushDeadLetter
        (held.deadLetter error (w.readings 0))⟩, ?_, rfl⟩
    simp [retry, storeDeadLetter, MemorySection.run, taken, exhausted]
  · obtain ⟨t, run, adds⟩ := enqueueInternal_adds
      { task := held.task
        attempt := held.attempt + 1
        availableAt := (SystemTime.checkedAdd (w.readings 0)
          (delayMs.toNat * 1000000)).getD (w.readings 1)
        lastError := some error }
      ⟨fun n => w.readings (n + 2), (w.queue.removeLease deliveryId).2⟩
    refine .inl ⟨exhausted, _, ⟨fun n => w.readings (n + 2), t⟩, ?_, rfl, rfl, adds⟩
    simp [retry, MemorySection.run, taken, exhausted, run]

/-- A replay finds no record, or puts the task of the record back into the queue. -/
theorem replay_gives (deliveryId : String) (w : TimedMemoryQueue) :
    (∃ e, (replayDeadLetter deliveryId).eval TimedMemoryQueue.answer w = (.error e, w)) ∨
    ∃ (record : RuntimeDeadLetterRecord) (queued : QueuedRuntimeTask) (t : TimedMemoryQueue),
      (w.queue.takeDeadLetter deliveryId).1 = some record ∧
      (replayDeadLetter deliveryId).eval TimedMemoryQueue.answer w =
        (.ok record.task.queuedReceipt, t) ∧
      queued.task = record.task ∧ queued.attempt = 1 ∧
      Adds queued (w.queue.takeDeadLetter deliveryId).2 t.queue := by
  cases found : (w.queue.takeDeadLetter deliveryId).1 with
  | none =>
    left
    exact ⟨_, by simp [replayDeadLetter, MemorySection.run, takeDeadLetter_of_none found]; rfl⟩
  | some record =>
    obtain ⟨t, run, adds⟩ := enqueueInternal_adds
      { task := record.task
        attempt := 1
        availableAt := w.readings 0
        lastError := some ("replayed from dead letter: " ++ record.error) }
      ⟨fun n => w.readings (n + 1), (w.queue.takeDeadLetter deliveryId).2⟩
    refine .inr ⟨record, _, ⟨fun n => w.readings (n + 1), t⟩, rfl, ?_, rfl, rfl, adds⟩
    simp [replayDeadLetter, MemorySection.run, found, run]

end InMemoryRuntimeTaskQueue

end NexusCore.Runtime
