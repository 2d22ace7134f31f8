import NexusCore.Runtime.Queue.RouteList

/-!
# One operation after the other

What the in-memory queue does when no two operations overlap. Each operation is one of a few moves,
and in every state that the moves reach the list of routes is the list of the buckets.
-/

namespace NexusCore.Runtime

open NexusCore.Lib

namespace InMemoryRuntimeTaskQueue

/-- Add a task to the bucket of its route, and the route to the list if the bucket was empty. -/
def put (queued : QueuedRuntimeTask) (s : InMemoryRuntimeTaskQueue) : InMemoryRuntimeTaskQueue :=
  if (s.bucket queued.task.route).isEmpty then
    (s.pushBack queued.task.route queued).2.appendRoute queued.task.route
  else
    (s.pushBack queued.task.route queued).2

/-- Take the first task of a route. The route goes to the end of the list, or leaves it with its
last task. -/
def take (route : Route) (s : InMemoryRuntimeTaskQueue) : InMemoryRuntimeTaskQueue :=
  match s.bucket route with
  | [] => s
  | [_] => removeRoute route { s with buckets := s.buckets.erase route }
  | _ :: rest => rotateRoute route { s with buckets := s.buckets.insert route rest }

/-- The first task of a route may be taken. -/
def due (now : SystemTime) (s : InMemoryRuntimeTaskQueue) (route : Route) : Bool :=
  (s.bucket route).head?.any (·.availableAt ≤ now)

/-- What one operation does. The first reading of the clock is the time that `reserve` goes by. -/
inductive Moves (readings : Nat → SystemTime) (s : InMemoryRuntimeTaskQueue) :
    MemoryOp → Except AppError MemoryReply → InMemoryRuntimeTaskQueue → Prop where
  | enqueued (task : RuntimeTask) : Moves readings s (.enqueue task) (.ok .done)
      (s.put { task, attempt := 1, availableAt := readings 0, lastError := none })
  | idle {bindings : List RuntimeRouteBinding}
      (late : ∀ route ∈ filterRoutes bindings s.routeOrder, s.due (readings 0) route = false) :
      Moves readings s (.reserve bindings) (.ok (.delivery none)) s
  | reserved {bindings : List RuntimeRouteBinding} {front back : List Route} {route : Route}
      {queued : QueuedRuntimeTask} {rest : List QueuedRuntimeTask} {leasedAt : SystemTime}
      (order : filterRoutes bindings s.routeOrder = front ++ route :: back)
      (passed : ∀ other ∈ front, s.due (readings 0) other = false)
      (first : s.bucket route = queued :: rest) (ready : queued.availableAt ≤ readings 0) :
      Moves readings s (.reserve bindings) (.ok (.delivery (some (delivery queued leasedAt))))
        ((s.take route).insertLease (delivery queued leasedAt))
  | acked (given : RuntimeTaskDelivery) : Moves readings s (.settle given .ack) (.ok .done)
      (s.removeLease given.deliveryId).2
  | missing {given : RuntimeTaskDelivery} {error : String} {delayMs : UInt64}
      (free : s.leased.lookup given.deliveryId = none) :
      Moves readings s (.settle given (.retry error delayMs)) (.error .internal) s
  | requeued {given held : RuntimeTaskDelivery} {error : String} {delayMs : UInt64}
      {availableAt : SystemTime} (found : s.leased.lookup given.deliveryId = some held) :
      Moves readings s (.settle given (.retry error delayMs)) (.ok (.disposition .requeued))
        ((s.removeLease given.deliveryId).2.put
          { task := held.task, attempt := held.attempt + 1, availableAt, lastError := some error })
  | exhausted {given held : RuntimeTaskDelivery} {error : String} {delayMs : UInt64}
      (found : s.leased.lookup given.deliveryId = some held) :
      Moves readings s (.settle given (.retry error delayMs)) (.ok (.disposition .deadLettered))
        ((s.removeLease given.deliveryId).2.pushDeadLetter (held.deadLetter error (readings 0)))
  | unknown {given : RuntimeTaskDelivery} {error : String}
      (free : s.leased.lookup given.deliveryId = none) :
      Moves readings s (.settle given (.reject error)) (.ok .done) s
  | rejected {given held : RuntimeTaskDelivery} {error : String}
      (found : s.leased.lookup given.deliveryId = some held) :
      Moves readings s (.settle given (.reject error)) (.ok .done)
        ((s.removeLease given.deliveryId).2.pushDeadLetter (held.deadLetter error (readings 0)))
  | lost {deliveryId : String} (absent : (s.takeDeadLetter deliveryId).1 = none) :
      Moves readings s (.replayDeadLetter deliveryId)
        (.error (.notFound ("dead letter not found: " ++ deliveryId))) s
  | replayed {deliveryId : String} {record : RuntimeDeadLetterRecord}
      (found : (s.takeDeadLetter deliveryId).1 = some record) :
      Moves readings s (.replayDeadLetter deliveryId) (.ok (.receipt record.task.queuedReceipt))
        ((s.takeDeadLetter deliveryId).2.put
          { task := record.task, attempt := 1, availableAt := readings 0,
            lastError := some ("replayed from dead letter: " ++ record.error) })

section Operations

open TimedMemoryQueue

variable {w : TimedMemoryQueue}

theorem eval_put (queued : QueuedRuntimeTask) (w : TimedMemoryQueue) :
    (enqueueInternal queued).eval answer w = (.ok (), ⟨w.readings, w.queue.put queued⟩) := by
  unfold put
  by_cases empty : (w.queue.bucket queued.task.route).isEmpty
  · simp [enqueueInternal, MemorySection.run, pushBack, empty]
  · simp [enqueueInternal, MemorySection.run, pushBack, empty]

theorem popReady_of_bucket {s : InMemoryRuntimeTaskQueue} {route : Route} (now : SystemTime)
    {queued : QueuedRuntimeTask} {rest : List QueuedRuntimeTask}
    (first : s.bucket route = queued :: rest) :
    s.popReady route now =
      if queued.availableAt > now then (.notReady, s)
      else if rest.isEmpty then
        (.popped queued true, { s with buckets := s.buckets.erase route })
      else
        (.popped queued false, { s with buckets := s.buckets.insert route rest }) := by
  unfold popReady
  cases stored : s.buckets.lookup route with
  | none => simp [bucket, stored] at first
  | some tasks =>
    obtain rfl : tasks = queued :: rest := by simpa [bucket, stored] using first
    rfl

/-- The loop of `reserve` takes the first task of the first route that has a due one. -/
theorem eval_look {routes : List Route} (filled : ∀ route ∈ routes, w.queue.bucket route ≠ [])
    {now : SystemTime} :
    ((∀ route ∈ routes, w.queue.due now route = false) ∧
      (reserveFrom now routes).eval answer w = (.ok none, w)) ∨
    ∃ front route back queued rest, routes = front ++ route :: back ∧
      (∀ other ∈ front, w.queue.due now other = false) ∧
      w.queue.bucket route = queued :: rest ∧ queued.availableAt ≤ now ∧
      (reserveFrom now routes).eval answer w =
        (.ok (some (delivery queued (w.readings 0))), ⟨fun n => w.readings (n + 1),
          (w.queue.take route).insertLease (delivery queued (w.readings 0))⟩) := by
  induction routes with
  | nil => exact .inl ⟨by simp, rfl⟩
  | cons route routes ih =>
    rw [List.forall_mem_cons] at filled
    obtain ⟨queued, rest, first⟩ := List.exists_cons_of_ne_nil filled.1
    have pop := popReady_of_bucket now first
    by_cases late : queued.availableAt > now
    · have waits : w.queue.due now route = false := by simpa [due, first] using late
      rw [if_pos late] at pop
      have passes : (reserveFrom now (route :: routes)).eval answer w =
          (reserveFrom now routes).eval answer w := by
        simp [reserveFrom, MemorySection.run, pop]
      rcases ih filled.2 with ⟨none, run⟩ | ⟨front, route', back, queued', rest', rfl, passed, found⟩
      · refine .inl ⟨?_, passes.trans run⟩
        rw [List.forall_mem_cons]
        exact ⟨waits, none⟩
      · refine .inr ⟨route :: front, route', back, queued', rest', rfl, ?_, ?_⟩
        · rw [List.forall_mem_cons]
          exact ⟨waits, passed⟩
        · rw [passes]
          exact found
    · rw [if_neg late] at pop
      refine .inr ⟨[], route, routes, queued, rest, rfl, by simp, first, not_lt.1 late, ?_⟩
      cases rest with
      | nil => simp [reserveFrom, MemorySection.run, pop, take, first]
      | cons next rest => simp [reserveFrom, MemorySection.run, pop, take, first]

/-- Every operation of one client is one of the moves, if no route without a task is listed. -/
theorem moves_of_perform (filled : ∀ route ∈ w.queue.routeOrder, w.queue.bucket route ≠ [])
    (op : MemoryOp) : Moves w.readings w.queue op ((perform op).eval answer w).1
      ((perform op).eval answer w).2.queue := by
  cases op with
  | enqueue task =>
    have run : (perform (.enqueue task)).eval answer w = (.ok .done, ⟨fun n => w.readings (n + 1),
        w.queue.put ⟨task, 1, w.readings 0, none⟩⟩) := by
      simp [perform, enqueue, eval_put]
    rw [run]
    exact .enqueued task
  | reserve bindings =>
    have filled' : ∀ route ∈ filterRoutes bindings w.queue.routeOrder,
        w.queue.bucket route ≠ [] := by
      intro route mem
      refine filled route ?_
      unfold filterRoutes at mem
      split_ifs at mem
      · exact mem
      · exact List.mem_of_mem_filter mem
    rcases @eval_look ⟨fun n => w.readings (n + 1), w.queue⟩ _ filled' (w.readings 0) with
      ⟨late, look⟩ | ⟨front, route, back, queued, rest, order, passed, first, ready, look⟩
    · have run : (perform (.reserve bindings)).eval answer w =
          (.ok (.delivery none), ⟨fun n => w.readings (n + 1), w.queue⟩) := by
        simp [perform, reserve, MemorySection.run, look]
      rw [run]
      exact .idle late
    · have run : (perform (.reserve bindings)).eval answer w =
          (.ok (.delivery (some (delivery queued (w.readings 1)))), ⟨fun n => w.readings (n + 2),
            (w.queue.take route).insertLease (delivery queued (w.readings 1))⟩) := by
        simp [perform, reserve, MemorySection.run, look]
      rw [run]
      exact .reserved order passed first ready
  | settle given how =>
    cases how with
    | ack =>
      have run : (perform (.settle given .ack)).eval answer w =
          (.ok .done, ⟨w.readings, (w.queue.removeLease given.deliveryId).2⟩) := by
        simp [perform, InMemoryRuntimeTaskQueue.ack, MemorySection.run]
      rw [run]
      exact .acked given
    | retry error delayMs =>
      cases found : w.queue.leased.lookup given.deliveryId with
      | none =>
        have keep := removeLease_of_lookup (s := w.queue) found
        have run : (perform (.settle given (.retry error delayMs))).eval answer w =
            (.error .internal, w) := by
          simp [perform, retry, MemorySection.run, keep]
        rw [run]
        exact .missing found
      | some held =>
        have taken : (w.queue.removeLease given.deliveryId).1 = some held := found
        by_cases exhausted : held.attempt ≥ held.task.retryPolicy.maxAttempts
        · have run : (perform (.settle given (.retry error delayMs))).eval answer w =
              (.ok (.disposition .deadLettered), ⟨fun n => w.readings (n + 1),
                (w.queue.removeLease given.deliveryId).2.pushDeadLetter
                  (held.deadLetter error (w.readings 0))⟩) := by
            simp [perform, retry, storeDeadLetter, MemorySection.run, taken, exhausted]
          rw [run]
          exact .exhausted found
        · have run : (perform (.settle given (.retry error delayMs))).eval answer w =
              (.ok (.disposition .requeued), ⟨fun n => w.readings (n + 2),
                (w.queue.removeLease given.deliveryId).2.put
                  ⟨held.task, held.attempt + 1, (SystemTime.checkedAdd (w.readings 0)
                    (delayMs.toNat * 1000000)).getD (w.readings 1), some error⟩⟩) := by
            simp [perform, retry, MemorySection.run, taken, exhausted, eval_put]
          rw [run]
          exact .requeued found
    | reject error =>
      cases found : w.queue.leased.lookup given.deliveryId with
      | none =>
        have keep := removeLease_of_lookup (s := w.queue) found
        have run : (perform (.settle given (.reject error))).eval answer w = (.ok .done, w) := by
          simp [perform, reject, MemorySection.run, keep]
        rw [run]
        exact .unknown found
      | some held =>
        have taken : (w.queue.removeLease given.deliveryId).1 = some held := found
        have run : (perform (.settle given (.reject error))).eval answer w =
            (.ok .done, ⟨fun n => w.readings (n + 1),
              (w.queue.removeLease given.deliveryId).2.pushDeadLetter
                (held.deadLetter error (w.readings 0))⟩) := by
          simp [perform, reject, storeDeadLetter, MemorySection.run, taken]
        rw [run]
        exact .rejected found
  | replayDeadLetter deliveryId =>
    cases found : (w.queue.takeDeadLetter deliveryId).1 with
    | none =>
      have keep := takeDeadLetter_of_none found
      have run : (perform (.replayDeadLetter deliveryId)).eval answer w =
          (.error (.notFound ("dead letter not found: " ++ deliveryId)), w) := by
        simp [perform, replayDeadLetter, MemorySection.run, keep]
      rw [run]
      exact .lost found
    | some record =>
      have run : (perform (.replayDeadLetter deliveryId)).eval answer w =
          (.ok (.receipt record.task.queuedReceipt), ⟨fun n => w.readings (n + 1),
            (w.queue.takeDeadLetter deliveryId).2.put
              ⟨record.task, 1, w.readings 0,
                some ("replayed from dead letter: " ++ record.error)⟩⟩) := by
        simp [perform, replayDeadLetter, MemorySection.run, found, eval_put]
      rw [run]
      exact .replayed found

end Operations

section Buckets

variable {s t : InMemoryRuntimeTaskQueue} {route : Route} {queued : QueuedRuntimeTask}
  {rest : List QueuedRuntimeTask}

/-- What holds of the queue whenever no operation is in progress: the list has the routes of the
buckets, once each, no bucket is empty, and every task is in the bucket of its own route. -/
structure Tidy (s : InMemoryRuntimeTaskQueue) : Prop where
  nodup : s.routeOrder.Nodup
  listed : ∀ route, route ∈ s.routeOrder ↔ s.bucket route ≠ []
  filled : ∀ route, s.buckets.lookup route ≠ some []
  routed : ∀ route, ∀ queued ∈ s.bucket route, queued.task.route = route

theorem tidy_default : default.Tidy where
  nodup := List.nodup_nil
  listed := fun route => by simp [default, bucket]
  filled := fun route => by simp [default]
  routed := fun route => by simp [default, bucket]

theorem lookup_put (queued : QueuedRuntimeTask) (s : InMemoryRuntimeTaskQueue) (other : Route) :
    (s.put queued).buckets.lookup other =
      if other = queued.task.route then some (s.bucket other ++ [queued])
      else s.buckets.lookup other := by
  have same : (s.put queued).buckets =
      s.buckets.insert queued.task.route (s.bucket queued.task.route ++ [queued]) := by
    unfold put
    split_ifs <;> rfl
  rw [same]
  split_ifs with here
  · rw [here, AList.lookup_insert]
  · rw [AList.lookup_insert_ne here]

@[simp] theorem bucket_put (queued : QueuedRuntimeTask) (s : InMemoryRuntimeTaskQueue)
    (other : Route) : (s.put queued).bucket other =
      if other = queued.task.route then s.bucket other ++ [queued] else s.bucket other := by
  rw [bucket, lookup_put]
  split_ifs <;> rfl

theorem routeOrder_put (queued : QueuedRuntimeTask) (s : InMemoryRuntimeTaskQueue) :
    (s.put queued).routeOrder =
      if s.bucket queued.task.route = [] then s.routeOrder ++ [queued.task.route]
      else s.routeOrder := by
  unfold put
  simp only [List.isEmpty_iff]
  split_ifs <;> rfl

@[simp] theorem leased_put (queued : QueuedRuntimeTask) (s : InMemoryRuntimeTaskQueue) :
    (s.put queued).leased = s.leased := by
  unfold put
  split_ifs <;> rfl

@[simp] theorem deadLetters_put (queued : QueuedRuntimeTask) (s : InMemoryRuntimeTaskQueue) :
    (s.put queued).deadLetters = s.deadLetters := by
  unfold put
  split_ifs <;> rfl

theorem lookup_take (first : s.bucket route = queued :: rest) (other : Route) :
    (s.take route).buckets.lookup other =
      if other = route then (if rest = [] then none else some rest)
      else s.buckets.lookup other := by
  unfold take
  rw [first]
  cases rest with
  | nil =>
    change (s.buckets.erase route).lookup other = _
    by_cases here : other = route
    · rw [if_pos here, here, AList.lookup_erase, if_pos rfl]
    · rw [if_neg here, AList.lookup_erase_ne here]
  | cons next rest =>
    have same : (rotateRoute route { s with buckets := s.buckets.insert route (next :: rest) }).buckets =
        s.buckets.insert route (next :: rest) := by
      unfold rotateRoute
      split_ifs <;> rfl
    simp only [same, reduceCtorEq, if_false]
    split_ifs with here
    · rw [here, AList.lookup_insert]
    · exact AList.lookup_insert_ne here

theorem bucket_take (first : s.bucket route = queued :: rest) (other : Route) :
    (s.take route).bucket other = if other = route then rest else s.bucket other := by
  rw [bucket, lookup_take first]
  split_ifs with here empty
  · rw [empty]
    rfl
  · rfl
  · rfl

theorem routeOrder_take (first : s.bucket route = queued :: rest) (mem : route ∈ s.routeOrder) :
    (s.take route).routeOrder =
      if rest = [] then s.routeOrder.erase route else s.routeOrder.erase route ++ [route] := by
  unfold take
  rw [first]
  cases rest with
  | nil => rfl
  | cons next rest =>
    simp only [reduceCtorEq, if_false]
    unfold rotateRoute
    rw [if_pos mem]

@[simp] theorem leased_take (route : Route) (s : InMemoryRuntimeTaskQueue) :
    (s.take route).leased = s.leased := by
  unfold take
  split <;> simp [removeRoute]

@[simp] theorem deadLetters_take (route : Route) (s : InMemoryRuntimeTaskQueue) :
    (s.take route).deadLetters = s.deadLetters := by
  unfold take
  split <;> simp [removeRoute]

theorem Tidy.put (tidy : s.Tidy) (queued : QueuedRuntimeTask) : (s.put queued).Tidy := by
  obtain ⟨nodup, listed, filled, routed⟩ := tidy
  constructor
  · rw [routeOrder_put]
    split_ifs with empty
    · have absent : queued.task.route ∉ s.routeOrder := fun mem => (listed _).1 mem empty
      rw [List.nodup_append]
      grind
    · exact nodup
  · intro other
    rw [routeOrder_put, bucket_put]
    by_cases here : other = queued.task.route
    · rw [here, if_pos rfl]
      split_ifs with empty
      · simp
      · simp [(listed _).2 empty]
    · rw [if_neg here, ← listed]
      split_ifs
      · simp [here]
      · rfl
  · intro other
    rw [lookup_put]
    split_ifs
    · simp
    · exact filled other
  · intro other other' mem
    rw [bucket_put] at mem
    split_ifs at mem with here
    · rcases List.mem_append.1 mem with old | new
      · exact routed other other' old
      · rw [List.mem_singleton.1 new, here]
    · exact routed other other' mem

theorem Tidy.take (tidy : s.Tidy) (first : s.bucket route = queued :: rest) : (s.take route).Tidy := by
  obtain ⟨nodup, listed, filled, routed⟩ := tidy
  have mem : route ∈ s.routeOrder := by
    rw [listed, first]
    exact List.cons_ne_nil _ _
  constructor
  · rw [routeOrder_take first mem]
    split_ifs with empty
    · exact nodup.erase route
    · rw [List.nodup_append]
      have absent : route ∉ s.routeOrder.erase route := nodup.not_mem_erase
      have kept := nodup.erase route
      grind
  · intro other
    rw [routeOrder_take first mem, bucket_take first]
    have erased : other ∈ s.routeOrder.erase route ↔ other ≠ route ∧ other ∈ s.routeOrder :=
      nodup.mem_erase_iff
    grind
  · intro other
    rw [lookup_take first]
    grind
  · intro other
    rw [bucket_take first]
    grind

/-- Two queues with the same buckets and the same list of routes. -/
def Alike (s t : InMemoryRuntimeTaskQueue) : Prop :=
  t.buckets = s.buckets ∧ t.routeOrder = s.routeOrder

theorem Alike.bucket (alike : s.Alike t) (route : Route) : t.bucket route = s.bucket route := by
  unfold InMemoryRuntimeTaskQueue.bucket
  rw [alike.1]

theorem Alike.tidy (alike : s.Alike t) (tidy : s.Tidy) : t.Tidy := by
  obtain ⟨nodup, listed, filled, routed⟩ := tidy
  refine ⟨by rwa [alike.2], fun route => ?_, fun route => ?_, fun route => ?_⟩
  · rw [alike.2, alike.bucket]
    exact listed route
  · rw [alike.1]
    exact filled route
  · rw [alike.bucket]
    exact routed route

theorem Alike.put (alike : s.Alike t) (queued : QueuedRuntimeTask) :
    (s.put queued).Alike (t.put queued) := by
  have bucket := alike.bucket queued.task.route
  unfold InMemoryRuntimeTaskQueue.put
  rw [bucket]
  split_ifs
  · simp [Alike, appendRoute, pushBack, bucket, alike.1, alike.2]
  · simp [Alike, pushBack, bucket, alike.1, alike.2]

end Buckets

section Shifts

/-- The task that an operation adds to the buckets. -/
def entering (s : InMemoryRuntimeTaskQueue) :
    MemoryOp → Except AppError MemoryReply → Option RuntimeTask
  | .enqueue task, .ok _ => some task
  | .settle given (.retry _ _), .ok (.disposition .requeued) =>
    (s.leased.lookup given.deliveryId).map (·.task)
  | .replayDeadLetter deliveryId, .ok _ => (s.takeDeadLetter deliveryId).1.map (·.task)
  | _, _ => none

/-- The delivery that an operation hands out. -/
def handing : Except AppError MemoryReply → Option RuntimeTaskDelivery
  | .ok (.delivery delivery) => delivery
  | _ => none

/-- What an operation does to the buckets and to the list of their routes. -/
inductive Shifts (now : SystemTime) (s : InMemoryRuntimeTaskQueue) (op : MemoryOp)
    (r : Except AppError MemoryReply) (t : InMemoryRuntimeTaskQueue) : Prop where
  | still (alike : s.Alike t) (enters : s.entering op r = none) (leaves : handing r = none)
  | put (queued : QueuedRuntimeTask) (alike : (s.put queued).Alike t)
      (enters : s.entering op r = some queued.task) (leaves : handing r = none)
  | take {bindings : List RuntimeRouteBinding} {front back : List Route} {route : Route}
      {queued : QueuedRuntimeTask} {rest : List QueuedRuntimeTask} {leasedAt : SystemTime}
      (reserves : op = .reserve bindings)
      (order : filterRoutes bindings s.routeOrder = front ++ route :: back)
      (passed : ∀ other ∈ front, s.due now other = false)
      (first : s.bucket route = queued :: rest) (ready : queued.availableAt ≤ now)
      (alike : (s.take route).Alike t) (enters : s.entering op r = none)
      (leaves : handing r = some (delivery queued leasedAt))

variable {readings : Nat → SystemTime} {s t : InMemoryRuntimeTaskQueue} {op : MemoryOp}
  {r : Except AppError MemoryReply}

theorem Moves.shifts (moves : Moves readings s op r t) : Shifts (readings 0) s op r t := by
  cases moves with
  | enqueued task => exact .put _ ⟨rfl, rfl⟩ rfl rfl
  | idle late => exact .still ⟨rfl, rfl⟩ rfl rfl
  | reserved order passed first ready =>
    exact .take rfl order passed first ready ⟨rfl, rfl⟩ rfl rfl
  | acked given => exact .still ⟨rfl, rfl⟩ rfl rfl
  | missing free => exact .still ⟨rfl, rfl⟩ rfl rfl
  | requeued found =>
    refine .put _ (Alike.put ?_ _) ?_ rfl
    · exact ⟨rfl, rfl⟩
    · rw [entering, found]
      rfl
  | exhausted found => exact .still ⟨rfl, rfl⟩ rfl rfl
  | unknown free => exact .still ⟨rfl, rfl⟩ rfl rfl
  | rejected found => exact .still ⟨rfl, rfl⟩ rfl rfl
  | lost absent => exact .still ⟨rfl, rfl⟩ rfl rfl
  | replayed found =>
    refine .put _ (Alike.put ?_ _) ?_ rfl
    · exact ⟨rfl, rfl⟩
    · rw [entering, found]
      rfl

theorem Shifts.tidy {now : SystemTime} (shifts : Shifts now s op r t) (tidy : s.Tidy) : t.Tidy := by
  cases shifts with
  | still alike => exact alike.tidy tidy
  | put queued alike => exact alike.tidy (tidy.put queued)
  | take reserves order passed first ready alike => exact alike.tidy (tidy.take first)

end Shifts

end InMemoryRuntimeTaskQueue

namespace TimedMemoryQueue

open InMemoryRuntimeTaskQueue

/-- What an operation hands back. -/
def reply (w : TimedMemoryQueue) (op : MemoryOp) : Except AppError MemoryReply :=
  ((perform op).eval answer w).1

/-- The queue after an operation. -/
def after (w : TimedMemoryQueue) (op : MemoryOp) : TimedMemoryQueue :=
  ((perform op).eval answer w).2

/-- One operation after the other. -/
def Alone (w : TimedMemoryQueue) (op : MemoryOp) (t : TimedMemoryQueue) : Prop := t = w.after op

theorem moves_after {w : TimedMemoryQueue} (tidy : w.queue.Tidy) (op : MemoryOp) :
    Moves w.readings w.queue op (w.reply op) (w.after op).queue :=
  moves_of_perform (fun route mem => (tidy.listed route).1 mem) op

theorem shifts_after {w : TimedMemoryQueue} (tidy : w.queue.Tidy) (op : MemoryOp) :
    Shifts (w.readings 0) w.queue op (w.reply op) (w.after op).queue :=
  (moves_after tidy op).shifts

theorem tidy_step (w : TimedMemoryQueue) (op : MemoryOp) (t : TimedMemoryQueue)
    (tidy : w.queue.Tidy) (step : w.Alone op t) : t.queue.Tidy := by
  rw [Alone] at step
  rw [step]
  exact (shifts_after tidy op).tidy tidy

theorem tidy_of_run {moves : List (Transition TimedMemoryQueue MemoryOp)}
    {w t : TimedMemoryQueue} (tidy : w.queue.Tidy) (run : Run Alone w moves t) : t.queue.Tidy :=
  @Run.invariant _ _ _ _ _ _ (fun w => w.queue.Tidy) tidy_step tidy run

/-- The queue is tidy after every run of one client. -/
theorem tidy_run {readings : Nat → SystemTime} {moves : List (Transition TimedMemoryQueue MemoryOp)}
    {w : TimedMemoryQueue} (run : Run Alone ⟨readings, .default⟩ moves w) : w.queue.Tidy :=
  tidy_of_run tidy_default run

end TimedMemoryQueue

end NexusCore.Runtime
