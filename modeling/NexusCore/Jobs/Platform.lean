import NexusCore.Jobs.Job
import NexusCore.Lib.Keyed
import NexusCore.Lib.Text
import NexusCore.Runtime.Service

/-!
# The job platform

A submitted job is validated, recorded, prepared by the handler of its type, and scheduled as a
task of the runtime; what became of it is appended to its history. The program runs over the
stores of the platform, a clock, and the commands of the runtime service. A handler is a function
of the job and its context.
-/

namespace NexusCore.Jobs

open NexusCore.Lib NexusCore.Runtime

inductive JobStatus where
  | created
  | enqueued
  | leased
  | running
  | succeeded
  | retrying
  | deadLettered
  | failed
  | cancelled
  deriving DecidableEq, Repr

def JobStatus.ofLifecycle : RuntimeTaskLifecycleStatus → JobStatus
  | .queued => .enqueued
  | .retrying => .retrying
  | .preparing | .prepared | .compiling | .running => .running
  | .completed => .succeeded
  | .failed => .failed
  | .deadLettered => .deadLettered

inductive JobEventSource where
  | jobPlatform
  | runtime
  deriving DecidableEq, Repr

structure JobEventMetadata where
  queue : Option String
  lane : Option String
  sourceDomain : Option String
  sourceEntityId : Option String
  handler : Option String
  executionContract : Option String
  deriving DecidableEq, Repr

structure JobEvent where
  jobId : String
  status : JobStatus
  source : JobEventSource
  message : String
  attempt : Option Nat
  occurredAtMs : UInt64
  error : Option String
  metadata : Option JobEventMetadata
  deriving DecidableEq, Repr

structure JobReceipt where
  jobId : String
  queue : String
  lane : String
  handler : Option String
  executionContract : Option String
  deriving DecidableEq, Repr

section Handlers

inductive JobExecutionContract where
  | runtimeTask
  deriving DecidableEq, Repr

structure JobHandlerCapabilities where
  validatesPayload : Bool
  requiresRuntimeWorker : Bool
  supportsDryRun : Bool
  emitsResultPayload : Bool
  deriving DecidableEq, Repr

structure JobHandlerDescriptor where
  jobType : JobType
  description : String
  executionContract : JobExecutionContract
  supportsReplay : Bool
  idempotentSubmission : Bool
  capabilities : JobHandlerCapabilities
  deriving DecidableEq, Repr

def handlerKey (jobNamespace name : String) (version : Nat) : String :=
  jobNamespace ++ ":" ++ name ++ ":v" ++ toString version

def JobHandlerDescriptor.key (descriptor : JobHandlerDescriptor) : String :=
  handlerKey descriptor.jobType.jobNamespace descriptor.jobType.name descriptor.jobType.version

structure JobExecutionContext where
  jobId : String
  jobNamespace : String
  route : JobRoute
  retryPolicy : JobRetryPolicy
  timeoutPolicy : JobTimeoutPolicy
  origin : JobOrigin
  labels : List (String × String)
  submittedAtMs : UInt64
  deriving DecidableEq, Repr

def JobExecutionContext.fromJob (job : JobDefinition) (submittedAtMs : UInt64) :
    JobExecutionContext where
  jobId := job.jobId
  jobNamespace := job.jobNamespace
  route := job.dispatch.route
  retryPolicy := job.dispatch.retryPolicy
  timeoutPolicy := job.dispatch.timeoutPolicy
  origin := job.origin
  labels := job.labels
  submittedAtMs := submittedAtMs

structure JobDispatchPlan where
  runtimeTask : RuntimeTask
  handlerDescriptor : JobHandlerDescriptor
  executionContract : JobExecutionContract
  deriving DecidableEq, Repr

def JobDispatchPlan.ofRuntimeTask (task : RuntimeTask) (descriptor : JobHandlerDescriptor) :
    JobDispatchPlan where
  runtimeTask := task
  handlerDescriptor := descriptor
  executionContract := descriptor.executionContract

structure JobHandlerFailure where
  code : String
  reason : String
  retryable : Bool
  deriving DecidableEq, Repr

inductive JobHandlerResult where
  | dispatch (plan : JobDispatchPlan)
  | rejected (failure : JobHandlerFailure)
  deriving DecidableEq, Repr

structure JobHandler where
  descriptor : JobHandlerDescriptor
  prepareDispatch : JobDefinition → JobExecutionContext → AppResult JobHandlerResult

/-- The handlers and the descriptors registered, by their keys. -/
structure JobHandlerRegistry where
  descriptors : AList fun _ : String => JobHandlerDescriptor
  handlers : AList fun _ : String => JobHandler

namespace JobHandlerRegistry

def empty : JobHandlerRegistry := { descriptors := ∅, handlers := ∅ }

def registerDescriptor (registry : JobHandlerRegistry) (descriptor : JobHandlerDescriptor) :
    JobHandlerRegistry :=
  { registry with descriptors := registry.descriptors.insert descriptor.key descriptor }

def registerHandler (registry : JobHandlerRegistry) (handler : JobHandler) : JobHandlerRegistry :=
  let registry := registry.registerDescriptor handler.descriptor
  { registry with handlers := registry.handlers.insert handler.descriptor.key handler }

def resolveDescriptor (registry : JobHandlerRegistry) (jobType : JobType) :
    Option JobHandlerDescriptor :=
  registry.descriptors.lookup (handlerKey jobType.jobNamespace jobType.name jobType.version)

def resolveHandler (registry : JobHandlerRegistry) (jobType : JobType) : Option JobHandler :=
  registry.handlers.lookup (handlerKey jobType.jobNamespace jobType.name jobType.version)

end JobHandlerRegistry

def ojJudgeHandlerDescriptor : JobHandlerDescriptor where
  jobType := { jobNamespace := "oj", name := "judge_submission", version := 1 }
  description := "OJ submission judge job executed by runtime task worker"
  executionContract := .runtimeTask
  supportsReplay := true
  idempotentSubmission := false
  capabilities :=
    { validatesPayload := true
      requiresRuntimeWorker := true
      supportsDryRun := false
      emitsResultPayload := false }

def ojJudgeJobHandler : JobHandler where
  descriptor := ojJudgeHandlerDescriptor
  prepareDispatch job _ :=
    match job.payload with
    | .ojJudge _ => do
      let task ← mapJobToRuntimeTask job
      return .dispatch (.ofRuntimeTask task ojJudgeHandlerDescriptor)
    | .json _ => .error (.badRequest "oj judge handler can only dispatch oj_judge payloads")

/-- The judge handler dispatches a job under its own identifier. -/
theorem ojJudgeJobHandler_taskId {job : JobDefinition} {context : JobExecutionContext}
    {plan : JobDispatchPlan}
    (prepared : ojJudgeJobHandler.prepareDispatch job context = .ok (.dispatch plan)) :
    plan.runtimeTask.taskId = job.jobId := by
  cases payload : job.payload with
  | ojJudge payload' =>
    simp only [ojJudgeJobHandler, payload] at prepared
    obtain ⟨task, mapped, same⟩ := bind_eq_ok.1 prepared
    cases same
    simp only [mapJobToRuntimeTask, payload, Except.ok.injEq] at mapped
    rw [← mapped]
    rfl
  | json schema => simp [ojJudgeJobHandler, payload] at prepared

end Handlers

section Validation

def isBlank (text : String) : Bool := (Text.trim text).isEmpty

/-- The type of a job as error texts name it. -/
def JobType.label (jobType : JobType) : String :=
  jobType.jobNamespace ++ ":" ++ jobType.name ++ ":v" ++ toString jobType.version

def validatePayload : JobPayload → AppResult Unit
  | .ojJudge payload =>
    ensure (!isBlank payload.sourceCode) (.badRequest "oj job source_code must not be empty")
  | .json schema => ensure (!isBlank schema) (.badRequest "json job schema must not be empty")

def validateJob (registry : JobHandlerRegistry) (job : JobDefinition) : AppResult Unit := do
  ensure (!isBlank job.jobId) (.badRequest "job_id must not be empty")
  ensure (!(isBlank job.jobType.jobNamespace || isBlank job.jobType.name))
    (.badRequest "job_type namespace/name must not be empty")
  ensure (!isBlank job.jobNamespace) (.badRequest "job namespace must not be empty")
  ensure (!(isBlank job.origin.sourceDomain || isBlank job.origin.sourceEntityId))
    (.badRequest "job origin must include source_domain and source_entity_id")
  ensure (!(isBlank job.dispatch.route.queue || isBlank job.dispatch.route.lane))
    (.badRequest "job route queue/lane must not be empty")
  ensure (job.dispatch.retryPolicy.maxAttempts != 0)
    (.badRequest "job retry policy max_attempts must be greater than zero")
  ensure (registry.resolveDescriptor job.jobType).isSome
    (.badRequest ("no registered job handler for " ++ job.jobType.label))
  validatePayload job.payload

end Validation

section Submission

inductive PlatformCmd where
  | saveDefinition (job : JobDefinition)
  | appendEvent (event : JobEvent)
  | now
  | runtime (command : ServiceCmd)

abbrev PlatformCmd.Answer : PlatformCmd → Type
  | .saveDefinition _ => Unit
  | .appendEvent _ => Unit
  | .now => UInt64
  | .runtime command => command.Answer

abbrev PlatformProg (α : Type) : Type := Prog PlatformCmd PlatformCmd.Answer AppError α

/-- A program of the runtime service, run by the platform. -/
def runtimeProg {α : Type} (p : ServiceProg α) : PlatformProg α :=
  p.relabel .runtime fun _ r => r

def mapHandlerFailure (handlerKey : String) (failure : JobHandlerFailure) : AppError :=
  let message := "job handler " ++ handlerKey ++ " rejected dispatch [" ++ failure.code ++ "]: " ++
    failure.reason
  if failure.retryable then .invalidConfig message else .badRequest message

def formatExecutionContract : JobExecutionContract → String
  | .runtimeTask => "runtime_task"

/-- The receipt of a job that has been scheduled. -/
def dispatchReceipt (job : JobDefinition) (descriptor : JobHandlerDescriptor) : JobReceipt where
  jobId := job.jobId
  queue := job.dispatch.route.queue
  lane := job.dispatch.route.lane
  handler := some descriptor.key
  executionContract := some (formatExecutionContract descriptor.executionContract)

/-- Hand a job to the runtime, as the handler of its type prepares it. -/
def RuntimeBackedJobSubmitter.submit (registry : JobHandlerRegistry) (job : JobDefinition) :
    PlatformProg JobReceipt :=
  match registry.resolveHandler job.jobType with
  | none => throw (.badRequest ("no executable job handler for " ++ job.jobType.label))
  | some handler => do
    let submittedAtMs ← Prog.op PlatformCmd.now
    match ← Prog.lift (handler.prepareDispatch job (.fromJob job submittedAtMs)) with
    | .rejected failure => throw (mapHandlerFailure handler.descriptor.key failure)
    | .dispatch plan =>
      let _ ← runtimeProg (RuntimeTaskService.schedule plan.runtimeTask)
      return dispatchReceipt job handler.descriptor

def buildDispatchMessage (receipt : JobReceipt) : String :=
  match receipt.handler, receipt.executionContract with
  | some handler, some contract => "job accepted by job platform and dispatched to runtime via " ++
      handler ++ " (" ++ contract ++ ")"
  | some handler, none => "job accepted by job platform and dispatched to runtime via " ++ handler
  | _, _ => "job accepted by job platform and dispatched to runtime"

/-- The event of a job that the runtime was not given. -/
def rejectedEvent (job : JobDefinition) (error : AppError) (occurredAtMs : UInt64) :
    JobEvent where
  jobId := job.jobId
  status := .failed
  source := .jobPlatform
  message := "job submission rejected before runtime dispatch"
  attempt := some 1
  occurredAtMs := occurredAtMs
  error := some error.display
  metadata := some
    { queue := some job.dispatch.route.queue
      lane := some job.dispatch.route.lane
      sourceDomain := some job.origin.sourceDomain
      sourceEntityId := some job.origin.sourceEntityId
      handler := none
      executionContract := none }

def acceptedEvent (job : JobDefinition) (receipt : JobReceipt) (occurredAtMs : UInt64) :
    JobEvent where
  jobId := receipt.jobId
  status := .enqueued
  source := .jobPlatform
  message := buildDispatchMessage receipt
  attempt := some 1
  occurredAtMs := occurredAtMs
  error := none
  metadata := some
    { queue := some receipt.queue
      lane := some receipt.lane
      sourceDomain := some job.origin.sourceDomain
      sourceEntityId := some job.origin.sourceEntityId
      handler := receipt.handler
      executionContract := receipt.executionContract }

def JobPlatformService.submit (registry : JobHandlerRegistry) (job : JobDefinition) :
    PlatformProg JobReceipt := do
  Prog.lift (validateJob registry job)
  Prog.op (PlatformCmd.saveDefinition job)
  match ← (RuntimeBackedJobSubmitter.submit registry job).attempt with
  | .ok receipt =>
    let occurredAtMs ← Prog.op PlatformCmd.now
    Prog.op (PlatformCmd.appendEvent (acceptedEvent job receipt occurredAtMs))
    return receipt
  | .error error =>
    let occurredAtMs ← Prog.op PlatformCmd.now
    Prog.op (PlatformCmd.appendEvent (rejectedEvent job error occurredAtMs))
    throw error

/-- The event of the history of a job for an event of its task. -/
def runtimeJobEvent (event : RuntimeTaskEvent) (occurredAtMs : UInt64) : JobEvent where
  jobId := event.taskId
  status := .ofLifecycle event.status
  source := .runtime
  message := event.message
  attempt := some event.attempt
  occurredAtMs := occurredAtMs
  error := none
  metadata := some
    { queue := some event.queue
      lane := some event.lane
      sourceDomain := some event.sourceDomain
      sourceEntityId := none
      handler := none
      executionContract := none }

end Submission

end NexusCore.Jobs
