import Mathlib.Data.UInt
import NexusCore.Runtime.Protocol

/-!
# Deliveries and dead letters

What every task queue hands out and stores, whichever broker is behind it, and the
clock readings that go into these records.
-/

namespace NexusCore.Runtime

/-- A wall clock reading, in nanoseconds relative to the Unix epoch. -/
abbrev SystemTime : Type := Int

namespace SystemTime

/-- The first reading that the platform's clock type cannot hold. -/
def horizon : Int := 2 ^ 63 * 1000000000

/-- Addition of a duration in nanoseconds; `none` past the range of the clock type. -/
def checkedAdd (time : SystemTime) (nanos : Nat) : Option SystemTime :=
  if time + nanos < horizon then some (time + nanos) else none

/-- Milliseconds since the epoch as a 64-bit number, zero before the epoch. -/
def unixMillis (time : SystemTime) : UInt64 :=
  if 0 ≤ time then UInt64.ofNat (time / 1000000).toNat else 0

end SystemTime

inductive RuntimeTaskLifecycleStatus where
  | queued
  | retrying
  | preparing
  | prepared
  | compiling
  | running
  | completed
  | failed
  | deadLettered
  deriving DecidableEq, Repr

inductive RetryDisposition where
  | requeued
  | deadLettered
  deriving DecidableEq, Repr

structure RuntimeRouteBinding where
  queue : String
  lane : String
  deriving DecidableEq, Repr

structure RuntimeTaskDelivery where
  deliveryId : String
  attempt : Nat
  leasedUntil : Option UInt64
  lastError : Option String
  task : RuntimeTask
  deriving DecidableEq, Repr

structure RuntimeDeadLetterRecord where
  deliveryId : String
  taskId : String
  queue : String
  lane : String
  attempt : Nat
  error : String
  deadLetteredAt : UInt64
  task : RuntimeTask
  deriving DecidableEq, Repr

structure RuntimeQueueReceipt where
  taskId : String
  queue : String
  lane : String
  status : RuntimeTaskLifecycleStatus
  deriving DecidableEq, Repr

structure RuntimeQueueStats where
  queue : String
  lane : String
  queued : Nat
  leased : Nat
  deadLettered : Nat
  deriving DecidableEq, Repr

/-- The receipt of a task that has just been queued. -/
def RuntimeTask.queuedReceipt (task : RuntimeTask) : RuntimeQueueReceipt where
  taskId := task.taskId
  queue := task.queue
  lane := task.lane
  status := .queued

/-- The record kept of a delivery that is given up. -/
def RuntimeTaskDelivery.deadLetter (delivery : RuntimeTaskDelivery) (error : String)
    (now : SystemTime) : RuntimeDeadLetterRecord where
  deliveryId := delivery.deliveryId
  taskId := delivery.task.taskId
  queue := delivery.task.queue
  lane := delivery.task.lane
  attempt := delivery.attempt
  error := error
  deadLetteredAt := now.unixMillis
  task := delivery.task

end NexusCore.Runtime
