import NexusCore.Lib.Program
import NexusCore.Lib.Sorting
import NexusCore.Oj.Application
import NexusCore.Oj.ProblemTables

/-!
# Reading submissions from Postgres

A submission is read with two queries: its row, which has the last event that was applied, and
the rows of its cases, which an event without an outcome leaves as they are.
-/

namespace NexusCore.Oj

open NexusCore.Lib NexusCore.Runtime

section Writing

/-- The texts of a stage. -/
def stageTexts (stage : RuntimeStageOutcome) : List String :=
  [stage.stageName, stage.stdoutPath, stage.stderrPath, stage.stdoutExcerpt, stage.stderrExcerpt]

def caseTexts (item : RuntimeCaseOutcome) : List String :=
  [item.stdoutPath, item.stderrPath, item.stdoutExcerpt, item.stderrExcerpt]

def outcomeTexts (outcome : RuntimeExecutionOutcome) : List String :=
  (outcome.compile.map stageTexts).getD [] ++ (outcome.judgeCompile.map stageTexts).getD [] ++
    outcome.cases.flatMap caseTexts

/-- The texts of an event, all of which are written with its summary. -/
def eventTexts (event : RuntimeTaskEvent) : List String :=
  [event.taskId, event.sourceDomain, event.queue, event.lane, event.message] ++
    event.submissionId.toList ++ event.problemId.toList ++ event.userId.toList ++
    event.language.toList ++ event.executionId.toList ++
    (event.outcome.map outcomeTexts).getD []

/-- The durations of an event, which are written as 64-bit numbers. -/
def eventDurations (event : RuntimeTaskEvent) : List Nat :=
  (event.outcome.map fun outcome => (outcome.compile.map (·.durationMs)).toList ++
    (outcome.judgeCompile.map (·.durationMs)).toList ++ outcome.cases.map (·.durationMs)).getD []

/-- The numbers of the cases as their column shows them. -/
def eventCaseNumbers (event : RuntimeTaskEvent) : List Int32 :=
  (event.outcome.map fun outcome => outcome.cases.map (·.caseNo.toInt32)).getD []

/-- Why the database does not take an event: a duration has no JSON number, a text has a zero
character, or two cases have one number. -/
def rejection (event : RuntimeTaskEvent) : Option String :=
  if (eventDurations event).any (2 ^ 64 ≤ ·) then
    some "number out of range"
  else if (eventTexts event).any (·.toList.contains '\x00') then
    some "invalid byte sequence for encoding \"UTF8\": 0x00"
  else if (eventCaseNumbers event).Nodup then
    none
  else
    some "duplicate key value violates unique constraint"

/-- Apply an event where nothing else fails. -/
def SubmissionTables.receive (tables : SubmissionTables) (event : RuntimeTaskEvent) :
    SubmissionTables := (tables.applyRuntimeEvent event (rejection event)).2

def createdRow (draft : SubmissionDraft) : SubmissionRow where
  problemId := draft.problemId.value
  userId := draft.userId.value
  language := draft.language
  sourceCode := draft.sourceCode
  status := "pending"
  score := 0
  maxScore := 0
  resultMessage := none
  executionSummary := none

structure EasySubmissionDraft where
  problemId : ProblemId
  userId : UserId
  answer : EasyAnswer
  deriving DecidableEq, Repr

/-- What is stored for a submission that is judged at once. -/
structure DirectSubmission where
  draft : EasySubmissionDraft
  status : SubmissionStatus
  score : UInt32
  maxScore : UInt32
  message : Option String
  storedAnswer : String

def directRow (direct : DirectSubmission) : SubmissionRow where
  problemId := direct.draft.problemId.value
  userId := direct.draft.userId.value
  language := "easy_judge"
  sourceCode := direct.storedAnswer
  status := formatSubmissionStatus direct.status
  score := direct.score.toInt32
  maxScore := direct.maxScore.toInt32
  resultMessage := direct.message
  executionSummary := none

/-- The in-memory repository stores a result at once. -/
def directDetail (direct : DirectSubmission) (submissionId : String) : SubmissionDetail where
  submission :=
    { submissionId := ⟨submissionId⟩
      problemId := direct.draft.problemId
      userId := direct.draft.userId
      language := "easy_judge"
      status := direct.status
      score := direct.score
      maxScore := direct.maxScore
      message := direct.message }
  sourceCode := direct.storedAnswer
  result := some
    { submissionId := ⟨submissionId⟩
      overallStatus := direct.status
      compileOutput := none
      runtimeOutput := direct.message
      compileTimeMs := 0
      judgeCompileTimeMs := 0
      runTimeMs := 0
      timeUsedMs := 0
      memoryUsedKb := 0
      judgeSummary := direct.message
      caseResults := [] }

end Writing

section Reading

def parseSubmissionStatus : String → AppResult SubmissionStatus
  | "pending" => .ok .pending
  | "queued" => .ok .queued
  | "running" => .ok .running
  | "accepted" => .ok .accepted
  | "wrong_answer" => .ok .wrongAnswer
  | "compile_error" => .ok .compileError
  | "time_limit_exceeded" => .ok .timeLimitExceeded
  | "memory_limit_exceeded" => .ok .memoryLimitExceeded
  | "output_limit_exceeded" => .ok .outputLimitExceeded
  | "security_violation" => .ok .securityViolation
  | "runtime_error" => .ok .runtimeError
  | value => .error (.badRequest ("unsupported submission status from storage: " ++ value))

def parseSubmissionCaseStatus : String → AppResult SubmissionCaseStatus
  | "accepted" => .ok .accepted
  | "wrong_answer" => .ok .wrongAnswer
  | "time_limit_exceeded" => .ok .timeLimitExceeded
  | "memory_limit_exceeded" => .ok .memoryLimitExceeded
  | "output_limit_exceeded" => .ok .outputLimitExceeded
  | "security_violation" => .ok .securityViolation
  | "runtime_error" => .ok .runtimeError
  | value => .error (.badRequest ("unsupported submission case status from storage: " ++ value))

@[simp] theorem parse_formatSubmissionStatus (status : SubmissionStatus) :
    parseSubmissionStatus (formatSubmissionStatus status) = .ok status := by
  cases status <;> rfl

@[simp] theorem parse_formatCaseStatus (status : RuntimeCaseFinalStatus) :
    parseSubmissionCaseStatus (formatCaseStatus status) = .ok (mapCaseStatus status) := by
  cases status <;> rfl

def mapSubmissionRecord (submissionId : String) (row : SubmissionRow) :
    AppResult SubmissionRecord := do
  let status ← parseSubmissionStatus row.status
  return {
    submissionId := ⟨submissionId⟩
    problemId := ⟨row.problemId⟩
    userId := ⟨row.userId⟩
    language := row.language
    status := status
    score := row.score.toUInt32
    maxScore := row.maxScore.toUInt32
    message := row.resultMessage }

/-- A row of the cases, with the expected output that is joined to it. -/
def mapSubmissionCaseResult (row : SubmissionCaseRow × Option String) :
    AppResult SubmissionCaseResult := do
  let status ← parseSubmissionCaseStatus row.1.status
  return {
    caseNo := row.1.caseNo.toUInt32
    status := status
    score := row.1.score.toUInt32
    timeUsedMs := row.1.durationMs.toUInt64
    memoryUsedKb := row.1.memoryUsedKb.toUInt64
    actualOutput := row.1.stdoutExcerpt
    expectedOutputSnapshot := row.2.getD ""
    message := nonEmpty row.1.stderrExcerpt }

def extractCompileOutput (summary : RuntimeTaskEvent) : Option String :=
  summary.outcome.bind fun outcome =>
    (outcome.judgeCompile.bind fun stage => nonEmpty stage.stderrExcerpt).or
      (outcome.compile.bind fun stage => nonEmpty stage.stderrExcerpt)

def extractRuntimeOutput (summary : RuntimeTaskEvent) : Option String :=
  summary.outcome.bind fun outcome =>
    outcome.cases.findSome? fun item =>
      (nonEmpty item.stderrExcerpt).or (nonEmpty item.stdoutExcerpt)

/-- The first output of the stored cases. -/
def storedOutput (caseResults : List SubmissionCaseResult) : Option String :=
  caseResults.findSome? fun item => item.message.or (nonEmpty item.actualOutput)

def buildSubmissionResult (submission : SubmissionRecord)
    (executionSummary : Option RuntimeTaskEvent) (caseResults : List SubmissionCaseResult) :
    SubmissionResult :=
  let timeUsedMs :=
    match executionSummary with
    | some event => (event.outcome.map totalCaseTime).getD 0
    | none => (caseResults.map (·.timeUsedMs)).sum
  { submissionId := submission.submissionId
    overallStatus := submission.status
    compileOutput := executionSummary.bind extractCompileOutput
    runtimeOutput := (executionSummary.bind extractRuntimeOutput).or (storedOutput caseResults)
    compileTimeMs := (executionSummary.bind fun event =>
      event.outcome.map totalCompileTime).getD 0
    judgeCompileTimeMs := (executionSummary.bind fun event =>
      event.outcome.map totalJudgeCompileTime).getD 0
    runTimeMs := timeUsedMs
    timeUsedMs := timeUsedMs
    memoryUsedKb := (caseResults.map (·.memoryUsedKb)).max?.getD 0
    judgeSummary := (executionSummary.map (·.message)).or submission.message
    caseResults := caseResults }

inductive SubmissionQuery where
  | submission (submissionId : String)
  | caseResults (submissionId : String)

abbrev SubmissionQuery.Answer : SubmissionQuery → Type
  | .submission _ => AppResult (Option SubmissionRow)
  | .caseResults _ => AppResult (List (SubmissionCaseRow × Option String))

abbrev SubmissionProg (α : Type) : Type := Prog SubmissionQuery SubmissionQuery.Answer AppError α

/-- Map the rows one after the other. -/
def mapCaseResults : List (SubmissionCaseRow × Option String) →
    AppResult (List SubmissionCaseResult)
  | [] => .ok []
  | row :: rest => do
    let result ← mapSubmissionCaseResult row
    let results ← mapCaseResults rest
    return result :: results

def findSubmission (submissionId : String) : SubmissionProg (Option SubmissionDetail) := do
  match ← Prog.lift (← Prog.op (SubmissionQuery.submission submissionId)) with
  | none => return none
  | some row =>
    let submission ← Prog.lift (mapSubmissionRecord submissionId row)
    let caseRows ← Prog.lift (← Prog.op (SubmissionQuery.caseResults submissionId))
    let caseResults ← Prog.lift (mapCaseResults caseRows)
    return some
      { submission := submission
        sourceCode := row.sourceCode
        result := some (buildSubmissionResult submission row.executionSummary caseResults) }

/-- The expected output of a case of a submission, where its problem has the case. -/
def expectedOutput (testcases : List ProblemTestcaseRow) (tables : SubmissionTables)
    (row : SubmissionCaseRow) : Option String := do
  let submission ← tables.submissions.lookup row.submissionId
  let testcase ← testcases.find? fun testcase =>
    testcase.problemId == submission.problemId && testcase.caseNo == row.caseNo
  return testcase.expectedOutput

/-- What the tables answer to a query, beside the test cases of the problems. -/
def SubmissionTables.answer (testcases : List ProblemTestcaseRow) (tables : SubmissionTables) :
    (query : SubmissionQuery) → query.Answer
  | .submission submissionId => .ok (tables.submissions.lookup submissionId)
  | .caseResults submissionId =>
    .ok ((sortBy (·.caseNo.toInt) (tables.casesOf submissionId)).map fun row =>
      (row, expectedOutput testcases tables row))

/-- The tables as the environment of a reader that runs alone. -/
def SubmissionTables.serve (testcases : List ProblemTestcaseRow) (tables : SubmissionTables)
    (query : SubmissionQuery) : query.Answer × SubmissionTables :=
  (tables.answer testcases query, tables)

end Reading

end NexusCore.Oj
