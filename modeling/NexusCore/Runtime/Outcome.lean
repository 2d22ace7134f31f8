import NexusCore.Runtime.Delivery

/-!
# Outcomes, snapshots and events

What the worker reports about an execution: the outcome of each stage and case, the
snapshot kept for a task, and the events sent to the observer.
-/

namespace NexusCore.Runtime

inductive RuntimeStageStatus where
  | succeeded
  | failed
  | skipped
  deriving DecidableEq, Repr

inductive RuntimeFailureKind where
  | timeLimitExceeded
  | memoryLimitExceeded
  | outputLimitExceeded
  | securityViolation
  | runtimeError
  deriving DecidableEq, Repr

structure RuntimeStageOutcome where
  stageName : String
  status : RuntimeStageStatus
  exitCode : Option Int
  signal : Option Int
  failureKind : Option RuntimeFailureKind
  durationMs : Nat
  memoryUsedKb : UInt64
  stdoutSizeBytes : UInt64
  stderrSizeBytes : UInt64
  stdoutPath : String
  stderrPath : String
  stdoutExcerpt : String
  stderrExcerpt : String
  deriving DecidableEq, Repr

inductive RuntimeCaseFinalStatus where
  | accepted
  | wrongAnswer
  | timeLimitExceeded
  | memoryLimitExceeded
  | outputLimitExceeded
  | securityViolation
  | runtimeError
  deriving DecidableEq, Repr

structure RuntimeCaseOutcome where
  caseNo : UInt32
  score : UInt32
  status : RuntimeCaseFinalStatus
  exitCode : Option Int
  durationMs : Nat
  memoryUsedKb : UInt64
  stdoutPath : String
  stderrPath : String
  stdoutExcerpt : String
  stderrExcerpt : String
  deriving DecidableEq, Repr

structure RuntimeExecutionOutcome where
  compile : Option RuntimeStageOutcome
  judgeCompile : Option RuntimeStageOutcome
  cases : List RuntimeCaseOutcome
  finalStatus : RuntimeTaskLifecycleStatus
  deriving DecidableEq, Repr

structure RuntimePreparedStage where
  stageName : String
  score : UInt32
  command : List String
  workingDirectory : String
  stdinPath : Option String
  timeLimitMs : UInt64
  memoryLimitKb : Option UInt64
  outputLimitBytes : UInt64
  stdoutPath : String
  stderrPath : String
  readonlyMounts : List String
  deriving DecidableEq, Repr

structure PreparedRuntimeCaseDir where
  caseNo : UInt32
  score : UInt32
  directory : String
  inputPath : String
  answerPath : String
  outputPath : String
  stderrPath : String
  deriving DecidableEq, Repr

structure PreparedSpjArtifacts where
  language : String
  sourcePath : String
  readonlyMounts : List String
  compileStage : Option RuntimePreparedStage
  runCommand : List String
  deriving DecidableEq, Repr

structure PreparedRuntimeArtifacts where
  executionId : String
  taskId : String
  status : RuntimeTaskLifecycleStatus
  workDir : String
  sourcePath : String
  manifestPath : String
  judgeConfig : Option RuntimeJudgeConfig
  cases : List PreparedRuntimeCaseDir
  spjArtifacts : Option PreparedSpjArtifacts
  compileStage : Option RuntimePreparedStage
  runStages : List RuntimePreparedStage
  deriving DecidableEq, Repr

structure RuntimeTaskSnapshot where
  taskId : String
  sourceDomain : String
  queue : String
  lane : String
  status : RuntimeTaskLifecycleStatus
  message : String
  artifacts : Option PreparedRuntimeArtifacts
  outcome : Option RuntimeExecutionOutcome
  error : Option String
  deriving DecidableEq, Repr

structure RuntimeTaskEvent where
  taskId : String
  sourceDomain : String
  queue : String
  lane : String
  attempt : Nat
  submissionId : Option String
  problemId : Option String
  userId : Option String
  language : Option String
  status : RuntimeTaskLifecycleStatus
  message : String
  executionId : Option String
  outcome : Option RuntimeExecutionOutcome
  deriving DecidableEq, Repr

def RuntimeTask.judge (task : RuntimeTask) : OjJudgeTask :=
  match task.payload with
  | .ojJudge payload => payload

/-- The event that reports a snapshot. -/
def snapshotEvent (task : RuntimeTask) (attempt : Nat) (snapshot : RuntimeTaskSnapshot)
    (artifacts : Option PreparedRuntimeArtifacts) (outcome : Option RuntimeExecutionOutcome) :
    RuntimeTaskEvent where
  taskId := snapshot.taskId
  sourceDomain := snapshot.sourceDomain
  queue := snapshot.queue
  lane := snapshot.lane
  attempt := attempt
  submissionId := some task.judge.submissionId.value
  problemId := some task.judge.problemId.value
  userId := some task.judge.userId.value
  language := some task.judge.language
  status := snapshot.status
  message := snapshot.message
  executionId := artifacts.map (·.executionId)
  outcome := outcome

end NexusCore.Runtime
