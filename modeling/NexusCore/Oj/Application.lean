import NexusCore.Jobs.Job
import NexusCore.Lib.Text
import NexusCore.Oj.Repository

/-!
# The service of the online judge

Validation of problems, creation of submissions, and the job built for a submission.
-/

namespace NexusCore.Oj

open NexusCore.Lib NexusCore.Runtime NexusCore.Jobs

section Validation

/-- Whether the bits are those of a 64-bit float below zero: the sign is set, and the rest is
neither zero nor beyond infinity. -/
def isNegativeFloat (bits : UInt64) : Bool :=
  0x8000000000000000 < bits && bits ≤ 0xFFF0000000000000

def isBlank (text : String) : Bool := (Text.trim text).isEmpty

def validateValidatorConfig (config : Option ValidatorConfig) (spj : Option SpjConfig) :
    AppResult Unit := do
  ensure spj.isNone (.badRequest "validator judge_method must not define spj config")
  match config with
  | none => return ()
  | some config =>
    ensure (!isNegativeFloat config.floatEpsilon)
      (.badRequest "validator float_epsilon cannot be negative")

def validateSpjConfig (config : Option SpjConfig) : AppResult Unit :=
  match config with
  | none => .error (.badRequest "spj judge_method requires spj config")
  | some config => do
    ensure (!isBlank config.language) (.badRequest "spj language cannot be empty")
    ensure (!isBlank config.sourceCode) (.badRequest "spj source_code cannot be empty")

def validateJudgeConfig (problem : Problem) : AppResult Unit :=
  match problem.judgeConfig with
  | none => .ok ()
  | some config =>
    match config.judgeMethod with
    | .validator => validateValidatorConfig config.validator config.spj
    | .spj => validateSpjConfig config.spj

/-- The checks that apply to the sandboxes with a wasm runtime only. -/
def validateWasmSandbox (problem : Problem) : AppResult Unit := do
  ensure (problem.judgeMode != .easyJudge)
    (.badRequest "easy_judge problems do not support wasm sandbox")
  match problem.supportedLanguages.find? fun language => language != "cpp" && language != "rust" with
  | some language =>
    .error (.badRequest ("wasm sandbox currently supports only cpp/rust, found: " ++ language))
  | none =>
    ensure (problem.judgeConfig.all (·.judgeMethod != .spj))
      (.badRequest "wasm sandbox currently supports validator-based judging only")

def validateSandbox (problem : Problem) : AppResult Unit :=
  if problem.sandboxKind = .nsjail then .ok () else validateWasmSandbox problem

def validateProblem (problem : Problem) : AppResult Unit := do
  ensure (!isBlank problem.problemId.value) (.badRequest "problem_id cannot be empty")
  ensure (!isBlank problem.title) (.badRequest "title cannot be empty")
  ensure (!isBlank problem.slug) (.badRequest "slug cannot be empty")
  ensure (problem.judgeMode == .easyJudge || !problem.supportedLanguages.isEmpty)
    (.badRequest "supported_languages cannot be empty")
  ensure (!problem.limits.keys.isEmpty || problem.judgeMode == .easyJudge)
    (.badRequest "limits cannot be empty")
  ensure (problem.judgeMode != .easyJudge || problem.easyConfig.isSome)
    (.badRequest "easy_judge problem requires easy_config")
  validateSandbox problem
  ensure (problem.judgeMode == .easyJudge || !problem.testcases.isEmpty)
    (.badRequest "non-easy problems require at least one testcase")
  validateJudgeConfig problem

end Validation

section Submission

/-- The problems of the in-memory repository. -/
abbrev InMemoryProblemRepository : Type := List Problem

def InMemoryProblemRepository.find (problems : InMemoryProblemRepository) (problemId : String) :
    Option Problem :=
  problems.find? (·.problemId.value == problemId)

/-- The problem that a new in-memory repository starts with. -/
def twoSum : Problem where
  problemId := ⟨"two-sum"⟩
  title := "两数之和"
  slug := "two-sum"
  judgeMode := .acm
  sandboxKind := .nsjail
  statementMd := "给定一个整数数组，输出两数之和。"
  supportedLanguages := ["cpp", "python", "rust"]
  limits :=
    AList.insert "cpp" { timeLimitMs := 1000, memoryLimitKb := 50 * 1024 }
      (AList.insert "python" { timeLimitMs := 2000, memoryLimitKb := 100 * 1024 }
        (AList.singleton "rust" { timeLimitMs := 1000, memoryLimitKb := 50 * 1024 }))
  testcases :=
    [{ caseNo := 1, input := "1 2\n", expectedOutput := "3\n", isSample := true, score := 100 }]
  judgeConfig := none
  easyConfig := none

def InMemoryProblemRepository.seeded : InMemoryProblemRepository := [twoSum]

def getProblemDetail (problems : InMemoryProblemRepository) (problemId : String) :
    AppResult Problem :=
  match problems.find problemId with
  | some problem => .ok problem
  | none => .error (.notFound ("problem not found: " ++ problemId))

def getSubmissionDetail (submissions : InMemorySubmissionRepository) (submissionId : String) :
    AppResult SubmissionDetail :=
  match submissions.find submissionId with
  | some detail => .ok detail
  | none => .error (.notFound ("submission not found: " ++ submissionId))

/-- The check of a draft in both submission repositories. The Postgres one then also counts the
problem, which the service has just found. -/
def validateSubmission (draft : SubmissionDraft) : AppResult Unit :=
  ensure (!isBlank draft.sourceCode) (.badRequest "submission source code cannot be empty")

/-- What a repository stores for a draft under the identifier it gives it. -/
def pendingDetail (draft : SubmissionDraft) (submissionId : String) : SubmissionDetail where
  submission :=
    { submissionId := ⟨submissionId⟩
      problemId := draft.problemId
      userId := draft.userId
      language := draft.language
      status := .pending
      score := 0
      maxScore := 0
      message := none }
  sourceCode := draft.sourceCode
  result := none

/-- The submission that is stored for a draft; `submissionId` is the identifier that the
repository generates. -/
def createSubmission (problems : InMemoryProblemRepository) (draft : SubmissionDraft)
    (submissionId : String) : AppResult SubmissionDetail := do
  let problem ← getProblemDetail problems draft.problemId.value
  validateProblem problem
  ensure (problem.judgeMode != .easyJudge) (.badRequest
    "easy_judge problems must use /api/v1/oj/easy-judge/submissions")
  ensure (problem.supportedLanguages.contains draft.language) (.badRequest
    ("language " ++ draft.language ++ " is not supported for problem " ++ problem.problemId.value))
  ensure (problem.limits.lookup draft.language).isSome (.badRequest
    ("language " ++ draft.language ++ " is not configured for problem " ++
      problem.problemId.value))
  validateSubmission draft
  return pendingDetail draft submissionId

end Submission

section Job

def mapRuntimeJudgeMode : JudgeMode → AppResult RuntimeJudgeMode
  | .acm => .ok .acm
  | .functional => .ok .functional
  | .easyJudge => .error (.badRequest "easy_judge does not map to runtime judge mode")

def mapRuntimeSandboxKind : SandboxKind → RuntimeSandboxKind
  | .nsjail => .nsjail
  | .wasm => .wasm
  | .nsjailWasm => .nsjailWasm

def mapRuntimeJudgeConfig (config : JudgeConfig) : RuntimeJudgeConfig where
  judgeMethod :=
    match config.judgeMethod with
    | .validator => .validator
    | .spj => .spj
  validator := config.validator.map fun validator =>
    { ignoreWhitespace := validator.ignoreWhitespace
      ignoreCase := validator.ignoreCase
      isUnordered := validator.isUnordered
      isTokenMode := validator.isTokenMode
      isFloat := validator.isFloat
      floatEpsilon := validator.floatEpsilon }
  spj := config.spj.map fun spj => { language := spj.language, sourceCode := spj.sourceCode }
  functionSignature := config.functionSignature.map fun signature =>
    { functionName := signature.functionName
      returnType := signature.returnType
      params := signature.params.map fun param => { name := param.name, ty := param.ty } }

def deriveRuntimeLane (problem : Problem) (language : String) : String :=
  if problem.judgeMode = .functional then
    "heavy"
  else if problem.judgeConfig.any (·.judgeMethod == .spj) then
    "special"
  else if language = "python" then
    "normal"
  else
    "fast"

def mapRuntimeTestcase (testcase : Testcase) : RuntimeTestcase where
  caseNo := testcase.caseNo
  input := testcase.input
  expectedOutput := testcase.expectedOutput
  score := testcase.score

/-- The input of the job for a submission to a problem, with the limits of its language. -/
def ojJudgeJobInput (problem : Problem) (submission : SubmissionDetail)
    (limits : ProblemLimits) (judgeMode : RuntimeJudgeMode) : OjJudgeJobInput where
  jobId := "task-" ++ submission.submission.submissionId.value
  sourceEntityId := submission.submission.submissionId.value
  submissionId := submission.submission.submissionId
  problemId := problem.problemId
  userId := submission.submission.userId
  language := submission.submission.language
  judgeMode := judgeMode
  sandboxKind := mapRuntimeSandboxKind problem.sandboxKind
  sourceCode := submission.sourceCode
  limits := { timeLimitMs := limits.timeLimitMs, memoryLimitKb := limits.memoryLimitKb }
  testcases := problem.testcases.map mapRuntimeTestcase
  judgeConfig := problem.judgeConfig.map mapRuntimeJudgeConfig
  route :=
    { queue := "oj_judge"
      lane := deriveRuntimeLane problem submission.submission.language }
  retryPolicy := { maxAttempts := 3, retryDelayMs := 1000 }

def buildJobDefinition (problems : InMemoryProblemRepository)
    (submissions : InMemorySubmissionRepository) (submissionId : String) :
    AppResult JobDefinition := do
  let submission ← getSubmissionDetail submissions submissionId
  let problem ← getProblemDetail problems submission.submission.problemId.value
  validateProblem problem
  ensure (problem.judgeMode != .easyJudge)
    (.badRequest "easy_judge submissions do not produce runtime tasks")
  match problem.limits.lookup submission.submission.language with
  | none => .error (.badRequest ("language " ++ submission.submission.language ++
      " is not configured for problem " ++ problem.problemId.value))
  | some limits =>
    let judgeMode ← mapRuntimeJudgeMode problem.judgeMode
    return buildOjJudgeJob (ojJudgeJobInput problem submission limits judgeMode)

def buildRuntimeTask (problems : InMemoryProblemRepository)
    (submissions : InMemorySubmissionRepository) (submissionId : String) :
    AppResult RuntimeTask := do
  let job ← buildJobDefinition problems submissions submissionId
  mapJobToRuntimeTask job

end Job

end NexusCore.Oj
