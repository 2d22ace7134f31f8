import NexusCore.Lib.Keyed
import NexusCore.Lib.Program
import NexusCore.Runtime.Delivery

/-!
# The in-memory task queue

The queue keeps its state behind four mutexes. Each operation is a program over the
critical sections of these mutexes and readings of the clock; a section is one atomic
step, and acquiring its lock fails when the mutex is poisoned. Operation metrics are
not modelled.
-/

namespace NexusCore.Runtime

open NexusCore.Lib

structure QueuedRuntimeTask where
  task : RuntimeTask
  attempt : Nat
  availableAt : SystemTime
  lastError : Option String
  deriving DecidableEq, Repr

/-- The four guarded fields of the queue. -/
structure InMemoryRuntimeTaskQueue where
  buckets : AList fun _ : Route => List QueuedRuntimeTask
  routeOrder : List Route
  leased : AList fun _ : String => RuntimeTaskDelivery
  deadLetters : List RuntimeDeadLetterRecord

/-- What `reserve` finds at the front of the bucket of a route. -/
inductive FrontTask where
  | noBucket
  | notReady
  | popped (queued : QueuedRuntimeTask) (emptied : Bool)

/-- The critical sections of the queue. -/
inductive MemorySection where
  | pushBack (route : Route) (queued : QueuedRuntimeTask)
  | appendRoute (route : Route)
  | removeRoute (route : Route)
  | rotateRoute (route : Route)
  | routes
  | popReady (route : Route) (now : SystemTime)
  | insertLease (delivery : RuntimeTaskDelivery)
  | removeLease (deliveryId : String)
  | pushDeadLetter (record : RuntimeDeadLetterRecord)
  | takeDeadLetter (deliveryId : String)

/-- What a critical section hands back to the operation. -/
abbrev MemorySection.Result : MemorySection → Type
  | .pushBack .. => Bool
  | .routes => List Route
  | .popReady .. => FrontTask
  | .removeLease _ => Option RuntimeTaskDelivery
  | .takeDeadLetter _ => Option RuntimeDeadLetterRecord
  | _ => Unit

inductive MemoryCmd where
  | clock
  | locked (critical : MemorySection)

/-- A section answers `none` when its mutex is poisoned. -/
abbrev MemoryCmd.Answer : MemoryCmd → Type
  | .clock => SystemTime
  | .locked critical => Option critical.Result

namespace InMemoryRuntimeTaskQueue

/-- The queue as it is created. -/
def default : InMemoryRuntimeTaskQueue := ⟨∅, [], ∅, []⟩

def bucket (s : InMemoryRuntimeTaskQueue) (route : Route) : List QueuedRuntimeTask :=
  (s.buckets.lookup route).getD []

/-- First section of `enqueue_internal`: append to the bucket, report whether it was empty. -/
def pushBack (route : Route) (queued : QueuedRuntimeTask) (s : InMemoryRuntimeTaskQueue) :
    Bool × InMemoryRuntimeTaskQueue :=
  ((s.bucket route).isEmpty,
    { s with buckets := s.buckets.insert route (s.bucket route ++ [queued]) })

def appendRoute (route : Route) (s : InMemoryRuntimeTaskQueue) : InMemoryRuntimeTaskQueue :=
  { s with routeOrder := s.routeOrder ++ [route] }

def removeRoute (route : Route) (s : InMemoryRuntimeTaskQueue) : InMemoryRuntimeTaskQueue :=
  { s with routeOrder := s.routeOrder.erase route }

def rotateRoute (route : Route) (s : InMemoryRuntimeTaskQueue) : InMemoryRuntimeTaskQueue :=
  if route ∈ s.routeOrder then
    { s with routeOrder := s.routeOrder.erase route ++ [route] }
  else
    s

/-- The section of `reserve` on the buckets: pop the front task of a route if it is due,
and drop the bucket when that empties it. -/
def popReady (route : Route) (now : SystemTime) (s : InMemoryRuntimeTaskQueue) :
    FrontTask × InMemoryRuntimeTaskQueue :=
  match s.buckets.lookup route with
  | none => (.noBucket, s)
  | some [] => (.notReady, s)
  | some (front :: rest) =>
    if front.availableAt > now then
      (.notReady, s)
    else if rest.isEmpty then
      (.popped front true, { s with buckets := s.buckets.erase route })
    else
      (.popped front false, { s with buckets := s.buckets.insert route rest })

def insertLease (delivery : RuntimeTaskDelivery) (s : InMemoryRuntimeTaskQueue) :
    InMemoryRuntimeTaskQueue :=
  { s with leased := s.leased.insert delivery.deliveryId delivery }

def removeLease (deliveryId : String) (s : InMemoryRuntimeTaskQueue) :
    Option RuntimeTaskDelivery × InMemoryRuntimeTaskQueue :=
  (s.leased.lookup deliveryId, { s with leased := s.leased.erase deliveryId })

def pushDeadLetter (record : RuntimeDeadLetterRecord) (s : InMemoryRuntimeTaskQueue) :
    InMemoryRuntimeTaskQueue :=
  { s with deadLetters := s.deadLetters ++ [record] }

/-- Remove the first record of a delivery. -/
def takeDeadLetter (deliveryId : String) (s : InMemoryRuntimeTaskQueue) :
    Option RuntimeDeadLetterRecord × InMemoryRuntimeTaskQueue :=
  (s.deadLetters.find? (·.deliveryId == deliveryId),
    { s with deadLetters := s.deadLetters.eraseP (·.deliveryId == deliveryId) })

end InMemoryRuntimeTaskQueue

/-- The effect of a critical section. -/
def MemorySection.run : (c : MemorySection) → InMemoryRuntimeTaskQueue →
    c.Result × InMemoryRuntimeTaskQueue
  | .pushBack route queued, s => s.pushBack route queued
  | .appendRoute route, s => ((), s.appendRoute route)
  | .removeRoute route, s => ((), s.removeRoute route)
  | .rotateRoute route, s => ((), s.rotateRoute route)
  | .routes, s => (s.routeOrder, s)
  | .popReady route now, s => s.popReady route now
  | .insertLease delivery, s => ((), s.insertLease delivery)
  | .removeLease deliveryId, s => s.removeLease deliveryId
  | .pushDeadLetter record, s => ((), s.pushDeadLetter record)
  | .takeDeadLetter deliveryId, s => s.takeDeadLetter deliveryId

/-- The queue together with the readings that the clock is going to show. -/
structure TimedMemoryQueue where
  readings : Nat → SystemTime
  queue : InMemoryRuntimeTaskQueue

/-- Answers while no mutex is poisoned. -/
def TimedMemoryQueue.answer (w : TimedMemoryQueue) : (c : MemoryCmd) → c.Answer × TimedMemoryQueue
  | .clock => (w.readings 0, { w with readings := fun n => w.readings (n + 1) })
  | .locked critical => (some (critical.run w.queue).1, { w with queue := (critical.run w.queue).2 })

/-- Any mutex may be found poisoned. -/
def poisonableMemoryHandler : Handler InMemoryRuntimeTaskQueue MemoryCmd MemoryCmd.Answer
  | s, .clock, _, t => t = s
  | s, .locked critical, r, t =>
    (r = none ∧ t = s) ∨ (r = some (critical.run s).1 ∧ t = (critical.run s).2)

abbrev MemoryProg (α : Type) : Type := Prog MemoryCmd MemoryCmd.Answer AppError α

namespace InMemoryRuntimeTaskQueue

def clock : MemoryProg SystemTime := .op MemoryCmd.clock

/-- Enter a critical section; `none` when the mutex is poisoned. -/
def tryLocked (critical : MemorySection) : MemoryProg (Option critical.Result) :=
  .op (MemoryCmd.locked critical)

/-- Enter a critical section; a poisoned mutex is an internal error. -/
def locked (critical : MemorySection) : MemoryProg critical.Result :=
  (tryLocked critical).bind fun
    | some r => .ret r
    | none => .fail .internal

def enqueueInternal (queued : QueuedRuntimeTask) : MemoryProg Unit := do
  let route := queued.task.route
  let wasEmpty ← locked (.pushBack route queued)
  if wasEmpty then
    locked (.appendRoute route)
  else
    return ()

def enqueue (task : RuntimeTask) : MemoryProg Unit := do
  let now ← clock
  enqueueInternal { task, attempt := 1, availableAt := now, lastError := none }

/-- The routes that some binding allows, in the order of the queue; all routes when
there is no binding. -/
def filterRoutes (bindings : List RuntimeRouteBinding) (order : List Route) : List Route :=
  if bindings.isEmpty then
    order
  else
    order.filter fun route => bindings.any fun binding => (binding.queue, binding.lane) == route

/-- The delivery made of a popped task. -/
def delivery (queued : QueuedRuntimeTask) (now : SystemTime) : RuntimeTaskDelivery where
  deliveryId := "dlv-" ++ queued.task.taskId
  attempt := queued.attempt
  leasedUntil := some (((SystemTime.checkedAdd now 30000000000).map SystemTime.unixMillis).getD 0)
  lastError := queued.lastError
  task := queued.task

/-- The loop of `reserve` over the routes of its snapshot. -/
def reserveFrom (now : SystemTime) : List Route → MemoryProg (Option RuntimeTaskDelivery)
  | [] => return none
  | route :: routes => do
    match ← tryLocked (.popReady route now) with
    | none => return none
    | some .noBucket => return none
    | some .notReady => reserveFrom now routes
    | some (.popped queued emptied) =>
      -- A poisoned route order is ignored.
      let _ ← if emptied then tryLocked (.removeRoute route) else tryLocked (.rotateRoute route)
      let leasedAt ← clock
      match ← tryLocked (.insertLease (delivery queued leasedAt)) with
      | none => return none
      | some _ => return some (delivery queued leasedAt)

def reserve (bindings : List RuntimeRouteBinding) : MemoryProg (Option RuntimeTaskDelivery) := do
  let now ← clock
  match ← tryLocked .routes with
  | none => return none
  | some order => reserveFrom now (filterRoutes bindings order)

def ack (deliveryId : String) : MemoryProg Unit := do
  let _ ← locked (.removeLease deliveryId)
  return ()

/-- Store a given-up delivery among the dead letters. -/
def storeDeadLetter (delivery : RuntimeTaskDelivery) (error : String) : MemoryProg Unit := do
  let now ← clock
  locked (.pushDeadLetter (delivery.deadLetter error now))

def retry (deliveryId error : String) (delayMs : UInt64) : MemoryProg RetryDisposition := do
  match ← locked (.removeLease deliveryId) with
  | none => throw .internal
  | some delivery =>
    if delivery.attempt ≥ delivery.task.retryPolicy.maxAttempts then
      storeDeadLetter delivery error
      return .deadLettered
    else
      let now ← clock
      let fallback ← clock
      enqueueInternal
        { task := delivery.task
          attempt := delivery.attempt + 1
          availableAt := (SystemTime.checkedAdd now (delayMs.toNat * 1000000)).getD fallback
          lastError := some error }
      return .requeued

def reject (deliveryId error : String) : MemoryProg Unit := do
  match ← locked (.removeLease deliveryId) with
  | none => return ()
  | some delivery => storeDeadLetter delivery error

def replayDeadLetter (deliveryId : String) : MemoryProg RuntimeQueueReceipt := do
  match ← locked (.takeDeadLetter deliveryId) with
  | none => throw (.notFound ("dead letter not found: " ++ deliveryId))
  | some record =>
    let now ← clock
    enqueueInternal
      { task := record.task
        attempt := 1
        availableAt := now
        lastError := some ("replayed from dead letter: " ++ record.error) }
    return record.task.queuedReceipt

end InMemoryRuntimeTaskQueue

end NexusCore.Runtime
