import Mathlib.Data.UInt
import NexusCore.Oj.Domain
import NexusCore.Runtime.Outcome

/-!
# Projecting runtime events on submissions

How the judge reads an event of the runtime: the status, score and message it gives a
submission, and the result built from it.
-/

namespace NexusCore.Oj

open NexusCore.Runtime

/-- The fields of a submission that an event determines. -/
structure SubmissionProjection where
  status : SubmissionStatus
  score : UInt32
  maxScore : UInt32
  message : Option String
  deriving DecidableEq, Repr

def totalScore (outcome : Option RuntimeExecutionOutcome) : UInt32 :=
  (outcome.map fun item => (item.cases.map (·.score)).sum).getD 0

def acceptedScore (outcome : Option RuntimeExecutionOutcome) : UInt32 :=
  (outcome.map fun item =>
    ((item.cases.filter (·.status = .accepted)).map (·.score)).sum).getD 0

def mapCompileFailureStatus : Option RuntimeFailureKind → SubmissionStatus
  | some .timeLimitExceeded => .timeLimitExceeded
  | some .memoryLimitExceeded => .memoryLimitExceeded
  | some .outputLimitExceeded => .outputLimitExceeded
  | some .securityViolation => .securityViolation
  | _ => .compileError

def mapSubmissionCaseFailureStatus : RuntimeCaseFinalStatus → SubmissionStatus
  | .accepted => .accepted
  | .wrongAnswer => .wrongAnswer
  | .timeLimitExceeded => .timeLimitExceeded
  | .memoryLimitExceeded => .memoryLimitExceeded
  | .outputLimitExceeded => .outputLimitExceeded
  | .securityViolation => .securityViolation
  | .runtimeError => .runtimeError

/-- The first text, unless it is empty. -/
def orFallback (text fallback : String) : String :=
  if text.isEmpty then fallback else text

/-- The text, unless it is empty. -/
def nonEmpty (text : String) : Option String :=
  if text.isEmpty then none else some text

def classifyFailure (outcome : Option RuntimeExecutionOutcome) (fallbackMessage : String) :
    SubmissionStatus × String :=
  match outcome with
  | none => (.runtimeError, fallbackMessage)
  | some outcome =>
    match outcome.judgeCompile.filter (·.status = .failed) with
    | some judgeCompile =>
      (mapCompileFailureStatus judgeCompile.failureKind,
        orFallback judgeCompile.stderrExcerpt fallbackMessage)
    | none =>
      match outcome.compile.filter (·.status = .failed) with
      | some compile =>
        (mapCompileFailureStatus compile.failureKind,
          orFallback compile.stderrExcerpt fallbackMessage)
      | none =>
        if outcome.cases.any (·.status = .wrongAnswer) then
          (.wrongAnswer, "wrong answer")
        else
          match outcome.cases.find? (·.status ≠ .accepted) with
          | some failedCase =>
            (mapSubmissionCaseFailureStatus failedCase.status,
              orFallback failedCase.stderrExcerpt fallbackMessage)
          | none => (.runtimeError, fallbackMessage)

def deriveSubmissionProjection (event : RuntimeTaskEvent) : SubmissionProjection :=
  match event.status with
  | .queued | .retrying | .preparing | .prepared | .compiling =>
    { status := .queued, score := 0, maxScore := 0, message := some event.message }
  | .running =>
    { status := .running, score := 0, maxScore := 0, message := some event.message }
  | .completed =>
    { status := .accepted
      score := acceptedScore event.outcome
      maxScore := totalScore event.outcome
      message := some "accepted" }
  | .failed =>
    { status := (classifyFailure event.outcome event.message).1
      score := acceptedScore event.outcome
      maxScore := totalScore event.outcome
      message := some (classifyFailure event.outcome event.message).2 }
  | .deadLettered =>
    { status := .runtimeError
      score := acceptedScore event.outcome
      maxScore := totalScore event.outcome
      message := some event.message }

def mapCaseStatus : RuntimeCaseFinalStatus → SubmissionCaseStatus
  | .accepted => .accepted
  | .wrongAnswer => .wrongAnswer
  | .timeLimitExceeded => .timeLimitExceeded
  | .memoryLimitExceeded => .memoryLimitExceeded
  | .outputLimitExceeded => .outputLimitExceeded
  | .securityViolation => .securityViolation
  | .runtimeError => .runtimeError

def totalCaseTime (outcome : RuntimeExecutionOutcome) : UInt64 :=
  (outcome.cases.map fun item => UInt64.ofNat item.durationMs).sum

def totalCompileTime (outcome : RuntimeExecutionOutcome) : UInt64 :=
  (outcome.compile.map fun stage => UInt64.ofNat stage.durationMs).getD 0

def totalJudgeCompileTime (outcome : RuntimeExecutionOutcome) : UInt64 :=
  (outcome.judgeCompile.map fun stage => UInt64.ofNat stage.durationMs).getD 0

def totalCaseMemory (outcome : RuntimeExecutionOutcome) : UInt64 :=
  (outcome.cases.map (·.memoryUsedKb)).max?.getD 0

def caseResult (item : RuntimeCaseOutcome) : SubmissionCaseResult where
  caseNo := item.caseNo
  status := mapCaseStatus item.status
  score := item.score
  timeUsedMs := UInt64.ofNat item.durationMs
  memoryUsedKb := item.memoryUsedKb
  actualOutput := item.stdoutExcerpt
  expectedOutputSnapshot := ""
  message := nonEmpty item.stderrExcerpt

/-- The result stored with a submission whose record has been updated for an event. -/
def buildRuntimeSubmissionResult (submission : SubmissionRecord) (event : RuntimeTaskEvent) :
    SubmissionResult where
  submissionId := submission.submissionId
  overallStatus := submission.status
  compileOutput := event.outcome.bind fun outcome =>
    (outcome.judgeCompile.or outcome.compile).bind fun stage => nonEmpty stage.stderrExcerpt
  runtimeOutput := event.outcome.bind fun outcome =>
    outcome.cases.findSome? fun item =>
      (nonEmpty item.stderrExcerpt).or (nonEmpty item.stdoutExcerpt)
  compileTimeMs := (event.outcome.map totalCompileTime).getD 0
  judgeCompileTimeMs := (event.outcome.map totalJudgeCompileTime).getD 0
  runTimeMs := (event.outcome.map totalCaseTime).getD 0
  timeUsedMs := (event.outcome.map totalCaseTime).getD 0
  memoryUsedKb := (event.outcome.map totalCaseMemory).getD 0
  judgeSummary := submission.message.or (some event.message)
  caseResults := (event.outcome.map fun outcome => outcome.cases.map caseResult).getD []

end NexusCore.Oj
