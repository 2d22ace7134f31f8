import NexusCore.Lib.Program
import NexusCore.Runtime.Outcome

/-!
# The runtime service

The loop of a worker and the scheduling of a task, as programs over the queue, the
snapshots, the observer and the worker that they share with other loops. Log output and
metrics are not modelled.
-/

namespace NexusCore.Runtime

open NexusCore.Lib

inductive ServiceCmd where
  | reserve (bindings : List RuntimeRouteBinding)
  | enqueue (task : RuntimeTask)
  | ack (deliveryId : String)
  | retry (deliveryId error : String) (delayMs : UInt64)
  | updateSnapshot (snapshot : RuntimeTaskSnapshot)
  | onEvent (event : RuntimeTaskEvent)
  | prepare (task : RuntimeTask)
  | execute (artifacts : PreparedRuntimeArtifacts)
  | sleep (millis : Nat)

abbrev ServiceCmd.Answer : ServiceCmd → Type
  | .reserve _ => Option RuntimeTaskDelivery
  | .enqueue _ => AppResult Unit
  | .ack _ => AppResult Unit
  | .retry .. => AppResult RetryDisposition
  | .updateSnapshot _ => Unit
  | .onEvent _ => AppResult Unit
  | .prepare _ => AppResult PreparedRuntimeArtifacts
  | .execute _ => AppResult RuntimeExecutionOutcome
  | .sleep _ => Unit

abbrev ServiceProg (α : Type) : Type := Prog ServiceCmd ServiceCmd.Answer AppError α

/-- A snapshot of a task. -/
def RuntimeTask.snapshot (task : RuntimeTask) (status : RuntimeTaskLifecycleStatus)
    (message : String) (artifacts : Option PreparedRuntimeArtifacts)
    (outcome : Option RuntimeExecutionOutcome) (error : Option String) : RuntimeTaskSnapshot where
  taskId := task.taskId
  sourceDomain := task.sourceDomain
  queue := task.queue
  lane := task.lane
  status := status
  message := message
  artifacts := artifacts
  outcome := outcome
  error := error

namespace RuntimeTaskService

/-- Pass an event to the observer; its error is only logged. -/
def observeEvent (event : RuntimeTaskEvent) : ServiceProg Unit := do
  let _ ← Prog.op (ServiceCmd.onEvent event)
  return ()

/-- Store a snapshot, then send the event that reports it. -/
def publish (task : RuntimeTask) (attempt : Nat) (snapshot : RuntimeTaskSnapshot) :
    ServiceProg Unit := do
  Prog.op (ServiceCmd.updateSnapshot snapshot)
  observeEvent (snapshotEvent task attempt snapshot snapshot.artifacts snapshot.outcome)

/-- The snapshot of a delivery that has failed. -/
def failureSnapshot (task : RuntimeTask) (disposition : RetryDisposition)
    (artifacts : Option PreparedRuntimeArtifacts) (errorMessage : String) : RuntimeTaskSnapshot :=
  match disposition with
  | .requeued => task.snapshot .retrying ("runtime task retry scheduled: " ++ errorMessage)
      artifacts none (some errorMessage)
  | .deadLettered => task.snapshot .deadLettered
      ("runtime task moved to dead letter: " ++ errorMessage) artifacts none (some errorMessage)

/-- What the result of a retry is taken for. -/
def dispositionOf (result : AppResult RetryDisposition) : RetryDisposition :=
  result.toOption.getD .deadLettered

def handleDeliveryFailure (delivery : RuntimeTaskDelivery)
    (artifacts : Option PreparedRuntimeArtifacts) (errorMessage : String) : ServiceProg Unit := do
  let task := delivery.task
  let result ← Prog.op (ServiceCmd.retry delivery.deliveryId errorMessage
    task.retryPolicy.retryDelayMs)
  publish task delivery.attempt
    (failureSnapshot task (dispositionOf result) artifacts errorMessage)

def preparingSnapshot (task : RuntimeTask) : RuntimeTaskSnapshot :=
  task.snapshot .preparing "runtime task is preparing execution artifacts" none none none

def preparedSnapshot (task : RuntimeTask) (artifacts : PreparedRuntimeArtifacts) :
    RuntimeTaskSnapshot :=
  task.snapshot .prepared "runtime artifacts prepared successfully" (some artifacts) none none

/-- The snapshot before the execution, which compiles first or runs at once. -/
def startedSnapshot (task : RuntimeTask) (artifacts : PreparedRuntimeArtifacts) :
    RuntimeTaskSnapshot :=
  if artifacts.compileStage.isSome then
    task.snapshot .compiling "compilation stage started" (some artifacts) none none
  else
    task.snapshot .running "interpreter task started" (some artifacts) none none

def finalSnapshot (task : RuntimeTask) (artifacts : PreparedRuntimeArtifacts)
    (outcome : RuntimeExecutionOutcome) : RuntimeTaskSnapshot :=
  let message :=
    match outcome.finalStatus with
    | .completed => "runtime execution completed successfully"
    | .failed => "runtime execution failed"
    | _ => "runtime execution finished"
  task.snapshot outcome.finalStatus message (some artifacts) (some outcome) none

/-- Execute prepared artifacts, and settle the delivery. -/
def runDelivery (delivery : RuntimeTaskDelivery) (artifacts : PreparedRuntimeArtifacts) :
    ServiceProg Unit := do
  let task := delivery.task
  publish task delivery.attempt (preparedSnapshot task artifacts)
  publish task delivery.attempt (startedSnapshot task artifacts)
  match ← Prog.op (ServiceCmd.execute artifacts) with
  | .ok outcome =>
    publish task delivery.attempt (finalSnapshot task artifacts outcome)
    let _ ← Prog.op (ServiceCmd.ack delivery.deliveryId)
    return ()
  | .error error =>
    handleDeliveryFailure delivery (some artifacts)
      ("runtime execution failed: " ++ error.display)

def processDelivery (delivery : RuntimeTaskDelivery) : ServiceProg Unit := do
  let task := delivery.task
  publish task delivery.attempt (preparingSnapshot task)
  match ← Prog.op (ServiceCmd.prepare task) with
  | .ok artifacts => runDelivery delivery artifacts
  | .error error =>
    handleDeliveryFailure delivery none
      ("runtime artifact preparation failed: " ++ error.display)

/-- One round of the loop that a worker group runs. -/
def workerRound (bindings : List RuntimeRouteBinding) : ServiceProg Unit := do
  match ← Prog.op (ServiceCmd.reserve bindings) with
  | some delivery => processDelivery delivery
  | none => Prog.op (ServiceCmd.sleep 100)

def queuedSnapshot (task : RuntimeTask) : RuntimeTaskSnapshot :=
  task.snapshot .queued "runtime task queued" none none none

/-- Schedule a task. The event of its snapshot is sent by a task of its own. -/
def schedule (task : RuntimeTask) : ServiceProg RuntimeQueueReceipt := do
  Prog.op (ServiceCmd.updateSnapshot (queuedSnapshot task))
  match ← Prog.op (ServiceCmd.enqueue task) with
  | .ok _ => return task.queuedReceipt
  | .error error => throw error

/-- The event that the task spawned by `schedule` sends. -/
def queuedEvent (task : RuntimeTask) : RuntimeTaskEvent :=
  snapshotEvent task 1 (queuedSnapshot task) none none

end RuntimeTaskService

end NexusCore.Runtime
