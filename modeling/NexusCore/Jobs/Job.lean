import NexusCore.Runtime.Protocol

/-!
# Jobs

What a domain hands to the job platform, and the runtime task a job is mapped to.
-/

namespace NexusCore.Jobs

open NexusCore.Runtime

structure JobType where
  jobNamespace : String
  name : String
  version : Nat
  deriving DecidableEq, Repr

structure JobOrigin where
  sourceDomain : String
  sourceEntityId : String
  submittedBy : Option String
  deriving DecidableEq, Repr

structure JobRoute where
  queue : String
  lane : String
  deriving DecidableEq, Repr

structure JobRetryPolicy where
  maxAttempts : Nat
  retryDelayMs : UInt64
  deriving DecidableEq, Repr

structure JobTimeoutPolicy where
  executionTimeoutMs : Option UInt64
  leaseTimeoutMs : Option UInt64
  deriving DecidableEq, Repr

structure JobDispatch where
  route : JobRoute
  retryPolicy : JobRetryPolicy
  timeoutPolicy : JobTimeoutPolicy
  deriving DecidableEq, Repr

structure OjJudgeJobPayload where
  submissionId : SubmissionId
  problemId : ProblemId
  userId : UserId
  language : String
  judgeMode : RuntimeJudgeMode
  sandboxKind : RuntimeSandboxKind
  sourceCode : String
  limits : RuntimeLimits
  testcases : List RuntimeTestcase
  judgeConfig : Option RuntimeJudgeConfig
  deriving DecidableEq, Repr

/-- A JSON payload is known by its schema only; its value is not looked at. -/
inductive JobPayload where
  | ojJudge (payload : OjJudgeJobPayload)
  | json (schema : String)
  deriving DecidableEq, Repr

structure JobDefinition where
  jobId : String
  jobType : JobType
  jobNamespace : String
  origin : JobOrigin
  dispatch : JobDispatch
  payload : JobPayload
  labels : List (String × String)
  deriving DecidableEq, Repr

structure OjJudgeJobInput where
  jobId : String
  sourceEntityId : String
  submissionId : SubmissionId
  problemId : ProblemId
  userId : UserId
  language : String
  judgeMode : RuntimeJudgeMode
  sandboxKind : RuntimeSandboxKind
  sourceCode : String
  limits : RuntimeLimits
  testcases : List RuntimeTestcase
  judgeConfig : Option RuntimeJudgeConfig
  route : JobRoute
  retryPolicy : JobRetryPolicy

def buildOjJudgeJob (input : OjJudgeJobInput) : JobDefinition where
  jobId := input.jobId
  jobType := { jobNamespace := "oj", name := "judge_submission", version := 1 }
  jobNamespace := "oj"
  origin :=
    { sourceDomain := "oj"
      sourceEntityId := input.sourceEntityId
      submittedBy := some input.userId.value }
  dispatch :=
    { route := input.route
      retryPolicy := input.retryPolicy
      timeoutPolicy := { executionTimeoutMs := none, leaseTimeoutMs := none } }
  payload := .ojJudge
    { submissionId := input.submissionId
      problemId := input.problemId
      userId := input.userId
      language := input.language
      judgeMode := input.judgeMode
      sandboxKind := input.sandboxKind
      sourceCode := input.sourceCode
      limits := input.limits
      testcases := input.testcases
      judgeConfig := input.judgeConfig }
  labels := []

def mapJobToRuntimeTask (job : JobDefinition) : AppResult RuntimeTask :=
  match job.payload with
  | .ojJudge payload => .ok
    { taskId := job.jobId
      taskType := .ojJudge
      sourceDomain := job.origin.sourceDomain
      sourceEntityId := job.origin.sourceEntityId
      queue := job.dispatch.route.queue
      lane := job.dispatch.route.lane
      retryPolicy :=
        { maxAttempts := job.dispatch.retryPolicy.maxAttempts
          retryDelayMs := job.dispatch.retryPolicy.retryDelayMs }
      payload := .ojJudge
        { submissionId := payload.submissionId
          problemId := payload.problemId
          userId := payload.userId
          language := payload.language
          judgeMode := payload.judgeMode
          sandboxKind := payload.sandboxKind
          sourceCode := payload.sourceCode
          limits := payload.limits
          testcases := payload.testcases
          judgeConfig := payload.judgeConfig } }
  | .json schema => .error (.badRequest
      ("job payload schema " ++ schema ++ " is not yet mappable to runtime tasks"))

end NexusCore.Jobs
