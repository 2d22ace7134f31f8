import Mathlib.Data.List.AList
import NexusCore.Shared.Error

/-!
# The online judge

Problems, submissions and results as the judge's own crate defines them.
-/

namespace NexusCore.Oj

inductive JudgeMode where
  | acm
  | functional
  | easyJudge
  deriving DecidableEq, Repr

inductive SandboxKind where
  | nsjail
  | wasm
  | nsjailWasm
  deriving DecidableEq, Repr

structure ProblemLimits where
  timeLimitMs : UInt64
  memoryLimitKb : UInt64
  deriving DecidableEq, Repr

structure Testcase where
  caseNo : UInt32
  input : String
  expectedOutput : String
  isSample : Bool
  score : UInt32
  deriving DecidableEq, Repr

inductive JudgeMethod where
  | validator
  | spj
  deriving DecidableEq, Repr

/-- The tolerance is kept as the bits of a 64-bit float. -/
structure ValidatorConfig where
  ignoreWhitespace : Bool
  ignoreCase : Bool
  isUnordered : Bool
  isTokenMode : Bool
  isFloat : Bool
  floatEpsilon : UInt64
  deriving DecidableEq, Repr

structure SpjConfig where
  language : String
  sourceCode : String
  deriving DecidableEq, Repr

structure FunctionParameter where
  name : String
  ty : String
  deriving DecidableEq, Repr

structure FunctionSignature where
  functionName : String
  returnType : String
  params : List FunctionParameter
  deriving DecidableEq, Repr

structure JudgeConfig where
  judgeMethod : JudgeMethod
  validator : Option ValidatorConfig
  spj : Option SpjConfig
  functionSignature : Option FunctionSignature
  deriving DecidableEq, Repr

inductive EasyQuestionType where
  | trueFalse
  | singleChoice
  | multipleChoice
  deriving DecidableEq, Repr

structure EasyOption where
  key : String
  label : String
  deriving DecidableEq, Repr

inductive EasyAnswer where
  | text (value : String)
  | options (values : List String)
  deriving DecidableEq, Repr

structure EasyProblemConfig where
  questionType : EasyQuestionType
  options : List EasyOption
  standardAnswer : EasyAnswer
  deriving DecidableEq, Repr

structure Problem where
  problemId : ProblemId
  title : String
  slug : String
  judgeMode : JudgeMode
  sandboxKind : SandboxKind
  statementMd : String
  supportedLanguages : List String
  limits : AList fun _ : String => ProblemLimits
  testcases : List Testcase
  judgeConfig : Option JudgeConfig
  easyConfig : Option EasyProblemConfig

structure SubmissionDraft where
  problemId : ProblemId
  userId : UserId
  language : String
  sourceCode : String
  deriving DecidableEq, Repr

inductive SubmissionStatus where
  | pending
  | queued
  | running
  | accepted
  | wrongAnswer
  | compileError
  | timeLimitExceeded
  | memoryLimitExceeded
  | outputLimitExceeded
  | securityViolation
  | runtimeError
  deriving DecidableEq, Repr

structure SubmissionRecord where
  submissionId : SubmissionId
  problemId : ProblemId
  userId : UserId
  language : String
  status : SubmissionStatus
  score : UInt32
  maxScore : UInt32
  message : Option String
  deriving DecidableEq, Repr

inductive SubmissionCaseStatus where
  | accepted
  | wrongAnswer
  | timeLimitExceeded
  | memoryLimitExceeded
  | outputLimitExceeded
  | securityViolation
  | runtimeError
  deriving DecidableEq, Repr

structure SubmissionCaseResult where
  caseNo : UInt32
  status : SubmissionCaseStatus
  score : UInt32
  timeUsedMs : UInt64
  memoryUsedKb : UInt64
  actualOutput : String
  expectedOutputSnapshot : String
  message : Option String
  deriving DecidableEq, Repr

structure SubmissionResult where
  submissionId : SubmissionId
  overallStatus : SubmissionStatus
  compileOutput : Option String
  runtimeOutput : Option String
  compileTimeMs : UInt64
  judgeCompileTimeMs : UInt64
  runTimeMs : UInt64
  timeUsedMs : UInt64
  memoryUsedKb : UInt64
  judgeSummary : Option String
  caseResults : List SubmissionCaseResult
  deriving DecidableEq, Repr

structure SubmissionDetail where
  submission : SubmissionRecord
  sourceCode : String
  result : Option SubmissionResult
  deriving DecidableEq, Repr

end NexusCore.Oj
