import NexusCore.Runtime.Prepare

/-!
# Simulating a task

The report of a task that is validated and planned, and not run.
-/

namespace NexusCore.Runtime

open NexusCore.Lib

structure RuntimeExecutionProfile where
  language : String
  judgeMode : String
  testcaseCount : Nat
  totalScore : UInt32
  timeLimitMs : UInt64
  memoryLimitKb : UInt64
  deriving DecidableEq, Repr

inductive RuntimeExecutionStatus where
  | simulated
  deriving DecidableEq, Repr

inductive RuntimeCaseExecutionStatus where
  | queued
  deriving DecidableEq, Repr

structure RuntimeCaseSimulationResult where
  caseNo : UInt32
  status : RuntimeCaseExecutionStatus
  score : UInt32
  message : String
  deriving DecidableEq, Repr

structure RuntimeSimulationReport where
  executionId : String
  taskId : String
  status : RuntimeExecutionStatus
  profile : RuntimeExecutionProfile
  plan : RuntimeExecutionPlan
  caseResults : List RuntimeCaseSimulationResult
  message : String
  deriving DecidableEq, Repr

def RuntimeJudgeMode.name : RuntimeJudgeMode → String
  | .acm => "acm"
  | .functional => "functional"

namespace RuntimeWorker

variable (w : RuntimeWorker)

def simulatedCase (testcase : RuntimeTestcase) : RuntimeCaseSimulationResult where
  caseNo := testcase.caseNo
  status := .queued
  score := testcase.score
  message := "testcase #" ++ toString testcase.caseNo.toNat ++ " queued for simulated execution"

/-- Simulate a task; `ulid` is the fresh identifier of the execution. -/
def simulateOjTask (ulid taskId : String) (payload : OjJudgeTask) :
    AppResult RuntimeSimulationReport := do
  validateOjTask payload
  match w.host.resolve payload.language with
  | none => throw (.badRequest ("unsupported runtime language: " ++ payload.language))
  | some toolchain =>
    let plan ← buildPlan toolchain payload
    return {
      executionId := "rt-" ++ ulid
      taskId := taskId
      status := .simulated
      profile :=
        { language := payload.language
          judgeMode := payload.judgeMode.name
          testcaseCount := payload.testcases.length
          totalScore := (payload.testcases.map (·.score)).sum
          timeLimitMs := payload.limits.timeLimitMs
          memoryLimitKb := payload.limits.memoryLimitKb }
      plan := plan
      caseResults := payload.testcases.map simulatedCase
      message := "runtime simulation completed; task is ready for real execution" }

end RuntimeWorker

end NexusCore.Runtime
