import NexusCore.Shared.Error

/-!
# Runtime tasks

The wire types of the runtime: a task names the route (queue and lane) it is scheduled
on, its retry policy and the judging job it carries. The float tolerance of the
validator is kept as the 64 bits of the float, so that tasks have decidable equality.
-/

namespace NexusCore.Runtime

inductive RuntimeTaskType where
  | ojJudge
  deriving DecidableEq, Repr

inductive RuntimeJudgeMode where
  | acm
  | functional
  deriving DecidableEq, Repr

inductive RuntimeSandboxKind where
  | nsjail
  | wasm
  | nsjailWasm
  deriving DecidableEq, Repr

structure RuntimeRetryPolicy where
  maxAttempts : Nat
  retryDelayMs : UInt64
  deriving DecidableEq, Repr

structure RuntimeLimits where
  timeLimitMs : UInt64
  memoryLimitKb : UInt64
  deriving DecidableEq, Repr

structure RuntimeTestcase where
  caseNo : UInt32
  input : String
  expectedOutput : String
  score : UInt32
  deriving DecidableEq, Repr

inductive RuntimeJudgeMethod where
  | validator
  | spj
  deriving DecidableEq, Repr

structure RuntimeValidatorConfig where
  ignoreWhitespace : Bool
  ignoreCase : Bool
  isUnordered : Bool
  isTokenMode : Bool
  isFloat : Bool
  floatEpsilon : UInt64
  deriving DecidableEq, Repr

structure RuntimeSpjConfig where
  language : String
  sourceCode : String
  deriving DecidableEq, Repr

structure RuntimeFunctionParameter where
  name : String
  ty : String
  deriving DecidableEq, Repr

structure RuntimeFunctionSignature where
  functionName : String
  returnType : String
  params : List RuntimeFunctionParameter
  deriving DecidableEq, Repr

structure RuntimeJudgeConfig where
  judgeMethod : RuntimeJudgeMethod
  validator : Option RuntimeValidatorConfig
  spj : Option RuntimeSpjConfig
  functionSignature : Option RuntimeFunctionSignature
  deriving DecidableEq, Repr

structure OjJudgeTask where
  submissionId : SubmissionId
  problemId : ProblemId
  userId : UserId
  language : String
  judgeMode : RuntimeJudgeMode
  sandboxKind : RuntimeSandboxKind
  sourceCode : String
  limits : RuntimeLimits
  testcases : List RuntimeTestcase
  judgeConfig : Option RuntimeJudgeConfig
  deriving DecidableEq, Repr

inductive RuntimeTaskPayload where
  | ojJudge (task : OjJudgeTask)
  deriving DecidableEq, Repr

structure RuntimeTask where
  taskId : String
  taskType : RuntimeTaskType
  sourceDomain : String
  sourceEntityId : String
  queue : String
  lane : String
  retryPolicy : RuntimeRetryPolicy
  payload : RuntimeTaskPayload
  deriving DecidableEq, Repr

/-- A queue and a lane of it. -/
abbrev Route : Type := String × String

instance : LawfulBEq Route := inferInstance

namespace RuntimeTask

/-- The route a task is scheduled on. -/
def route (task : RuntimeTask) : Route := (task.queue, task.lane)

end RuntimeTask

/-- A small judging task for concrete runs. -/
def sampleTask (taskId queue : String) (maxAttempts : Nat) : RuntimeTask where
  taskId := taskId
  taskType := .ojJudge
  sourceDomain := "oj"
  sourceEntityId := "submission-1"
  queue := queue
  lane := "fast"
  retryPolicy := { maxAttempts := maxAttempts, retryDelayMs := 1000 }
  payload := .ojJudge
    { submissionId := ⟨"submission-1"⟩
      problemId := ⟨"problem-1"⟩
      userId := ⟨"user-1"⟩
      language := "cpp"
      judgeMode := .acm
      sandboxKind := .nsjail
      sourceCode := "int main() { return 0; }"
      limits := { timeLimitMs := 1000, memoryLimitKb := 65536 }
      testcases := [{ caseNo := 1, input := "", expectedOutput := "", score := 100 }]
      judgeConfig := none }

end NexusCore.Runtime
