import NexusCore.Runtime.Judge
import NexusCore.Runtime.Prepare

/-!
# Executing prepared artifacts

The worker runs the compile stage, the compile stage of a special judge and one stage
for each case, and judges each case. What the processes do is given by an
`ExecutionEnv`; every stage is run at most once in an execution, and so is every file
read for judging, so answers that are functions of the stage or path are no restriction.
-/

namespace NexusCore.Runtime

open NexusCore.Lib

/-- What is known of a process that has ended, and of the files it wrote. -/
structure ProcessReport where
  exitCode : Option Int
  signal : Option Int
  durationMs : Nat
  memoryUsedKb : UInt64
  stdout : Option String
  stderr : Option String
  stdoutSizeBytes : UInt64
  stderrSizeBytes : UInt64

/-- The answers of the operating system; a failure carries the text of its error. -/
structure ExecutionEnv where
  createFile : String → Except String Unit
  openFile : String → Except String Unit
  spawn : RuntimePreparedStage → Except String Unit
  wait : RuntimePreparedStage → Except String ProcessReport
  readToString : String → Option String

/-- An execution that gives no outcome reports an error, or it panics. -/
inductive ExecutionFault where
  | error (e : AppError)
  | panicked

abbrev ExecutionResult (α : Type) : Type := Except ExecutionFault α

/-- The texts around which an excerpt is cut, in the order they are looked for. -/
def excerptMarkers : List String :=
  ["/etc/", "/proc/", "../", "include_bytes!", "read-only file system",
    "network is unreachable", "permission denied", "operation not permitted", "file too large",
    "out of memory", "cannot allocate memory"]

/-- The excerpt of a file; `none` when a slice is not on character boundaries. -/
def readExcerpt : Option String → Option String
  | none => some ""
  | some content =>
    let trimmed := Text.trim content
    if trimmed.utf8ByteSize ≤ 400 then
      some trimmed
    else
      match excerptMarkers.findSome? fun marker =>
          (Text.find marker trimmed).map fun index => (marker, index) with
      | some (marker, index) =>
        let start := index - 180
        let stop := min (index + marker.utf8ByteSize + 180) trimmed.utf8ByteSize
        (Text.slice trimmed start stop).map fun snippet =>
          if start > 0 ∨ stop < trimmed.utf8ByteSize then
            "..." ++ snippet ++ "..."
          else
            snippet
      | none => do
        let head ← Text.slice trimmed 0 200
        let tail ← Text.slice trimmed (trimmed.utf8ByteSize - 200) trimmed.utf8ByteSize
        return head ++ "\n...\n" ++ tail

/-- The kind of a failure, read off the exit status, the measurements and the output. -/
def classifyStageFailure (std : Stdlib) (stage : RuntimePreparedStage) (report : ProcessReport)
    (stdoutExcerpt stderrExcerpt : String) : RuntimeFailureKind :=
  let combined := std.toLowercase stdoutExcerpt ++ "\n" ++ std.toLowercase stderrExcerpt
  let mentions := Text.contains combined
  let suspiciousHostPathProbe := Text.contains stage.stageName "compile" &&
    (mentions "/etc/" || mentions "/proc/" || mentions "../") &&
    (mentions "no such file" || mentions "permission denied" || mentions "operation not permitted")
  if mentions "seccomp" || mentions "operation not permitted" || mentions "permission denied" ||
      mentions "network is unreachable" || mentions "read-only file system" ||
      mentions "bad system call" || report.signal == some 31 || report.exitCode == some 159 ||
      suspiciousHostPathProbe then
    .securityViolation
  else if report.signal == some 25 || report.exitCode == some 153 ||
      report.stdoutSizeBytes ≥ stage.outputLimitBytes ||
      report.stderrSizeBytes ≥ stage.outputLimitBytes || mentions "file too large" then
    .outputLimitExceeded
  else if report.durationMs ≥ stage.timeLimitMs.toNat || report.exitCode == some 124 ||
      mentions "timed out" || mentions "timeout" then
    .timeLimitExceeded
  else if stage.memoryLimitKb.any (fun limit =>
        report.memoryUsedKb.toNat ≥ min (limit.toNat * 95) (2 ^ 64 - 1) / 100) ||
      report.signal == some 11 || report.exitCode == some 139 || mentions "out of memory" ||
      mentions "cannot allocate memory" || mentions "memory allocation" ||
      mentions "memory limit" then
    .memoryLimitExceeded
  else
    .runtimeError

def mapStageFailureToCaseStatus (failureKind : Option RuntimeFailureKind) :
    RuntimeCaseFinalStatus :=
  match failureKind.getD .runtimeError with
  | .timeLimitExceeded => .timeLimitExceeded
  | .memoryLimitExceeded => .memoryLimitExceeded
  | .outputLimitExceeded => .outputLimitExceeded
  | .securityViolation => .securityViolation
  | .runtimeError => .runtimeError

/-- The outcome of a stage whose process has ended. Only an unsuccessful exit is classified. -/
def stageOutcome (std : Stdlib) (stage : RuntimePreparedStage) (report : ProcessReport)
    (stdoutExcerpt stderrExcerpt : String) : RuntimeStageOutcome :=
  let succeeded := report.exitCode == some 0
  { stageName := stage.stageName
    status := if succeeded then .succeeded else .failed
    exitCode := report.exitCode
    signal := report.signal
    failureKind :=
      if succeeded then none
      else some (classifyStageFailure std stage report stdoutExcerpt stderrExcerpt)
    durationMs := report.durationMs
    memoryUsedKb := report.memoryUsedKb
    stdoutSizeBytes := report.stdoutSizeBytes
    stderrSizeBytes := report.stderrSizeBytes
    stdoutPath := stage.stdoutPath
    stderrPath := stage.stderrPath
    stdoutExcerpt := stdoutExcerpt
    stderrExcerpt := stderrExcerpt }

/-- A failure of the operating system, as the bad request it is reported as. -/
def reportFailure {α : Type} (doing : String) : Except String α → ExecutionResult α
  | .ok a => .ok a
  | .error err => .error (.error (.badRequest (doing ++ ": " ++ err)))

def orPanic {α : Type} : Option α → ExecutionResult α
  | some a => .ok a
  | none => .error .panicked

/-- Create the output files of a stage and open its input. -/
def openStageFiles (env : ExecutionEnv) (stage : RuntimePreparedStage) : ExecutionResult Unit := do
  reportFailure ("failed to prepare stdout for stage " ++ stage.stageName)
    (env.createFile stage.stdoutPath)
  reportFailure ("failed to prepare stderr for stage " ++ stage.stageName)
    (env.createFile stage.stderrPath)
  match stage.stdinPath with
  | some stdinPath =>
    reportFailure ("failed to open stdin for stage " ++ stage.stageName) (env.openFile stdinPath)
  | none => return ()

def executeStage (std : Stdlib) (env : ExecutionEnv) (stage : RuntimePreparedStage) :
    ExecutionResult RuntimeStageOutcome :=
  if stage.command.isEmpty then
    .error (.error (.badRequest "runtime stage command is empty"))
  else do
    openStageFiles env stage
    reportFailure ("failed to execute stage " ++ stage.stageName) (env.spawn stage)
    let report ← reportFailure ("failed to wait for stage " ++ stage.stageName) (env.wait stage)
    let stdoutExcerpt ← orPanic (readExcerpt report.stdout)
    let stderrExcerpt ← orPanic (readExcerpt report.stderr)
    return stageOutcome std stage report stdoutExcerpt stderrExcerpt

namespace RuntimeWorker

variable (w : RuntimeWorker) (std : Stdlib) (env : ExecutionEnv)

/-- The stage that runs the special judge on a case. -/
def spjCaseStage (artifacts : PreparedRuntimeArtifacts) (spj : PreparedSpjArtifacts)
    (dir : PreparedRuntimeCaseDir) : RuntimePreparedStage where
  stageName := "spj_case_" ++ toString dir.caseNo.toNat
  score := 0
  command := w.wrapWithNsjail artifacts.workDir
    (spj.runCommand ++ [pathInJail artifacts.workDir dir.inputPath,
      pathInJail artifacts.workDir dir.outputPath, pathInJail artifacts.workDir dir.answerPath])
    (w.seccompPolicyString (if spj.language = "python" then "python_default" else "cpp_default")
      w.seccompMode)
    w.seccompMode 10 (256 * 1024 * 1024) 128 spj.readonlyMounts
  workingDirectory := artifacts.workDir
  stdinPath := none
  timeLimitMs := 10000
  memoryLimitKb := some (256 * 1024)
  outputLimitBytes := 32 * 1024 * 1024
  stdoutPath := Path.join dir.directory "spj.stdout"
  stderrPath := Path.join dir.directory "spj.stderr"
  readonlyMounts := spj.readonlyMounts

def executeSpjCase (artifacts : PreparedRuntimeArtifacts) (spj : PreparedSpjArtifacts)
    (dir : PreparedRuntimeCaseDir) : ExecutionResult RuntimeCaseFinalStatus := do
  let outcome ← executeStage std env (w.spjCaseStage artifacts spj dir)
  return match outcome.exitCode with
    | some 0 => .accepted
    | some 1 => .wrongAnswer
    | _ => mapStageFailureToCaseStatus outcome.failureKind

/-- Read a file for judging; an unreadable file is an internal error. -/
def readFile (path : String) : ExecutionResult String :=
  match env.readToString path with
  | some content => .ok content
  | none => .error (.error .internal)

/-- Judge the output of a successful run. -/
def judgeCase (artifacts : PreparedRuntimeArtifacts) (dir : PreparedRuntimeCaseDir) :
    ExecutionResult RuntimeCaseFinalStatus :=
  match artifacts.spjArtifacts with
  | some spj => w.executeSpjCase std env artifacts spj dir
  | none => do
    let userOutput ← readFile env dir.outputPath
    let answer ← readFile env dir.answerPath
    return match std.validateOutput userOutput answer artifacts.judgeConfig with
      | .accepted => .accepted
      | .wrongAnswer => .wrongAnswer

/-- The case number in the name of a run stage; zero when there is none. -/
def caseNoOfStage (stageName : String) : UInt32 :=
  ((Text.stripPrefix "run_case_" stageName).bind Text.parseU32).getD 0

/-- The status of a case whose stage has been run. -/
def caseStatus (artifacts : PreparedRuntimeArtifacts) (dir : PreparedRuntimeCaseDir)
    (outcome : RuntimeStageOutcome) : ExecutionResult RuntimeCaseFinalStatus :=
  if outcome.status = .succeeded then
    w.judgeCase std env artifacts dir
  else
    .ok (mapStageFailureToCaseStatus outcome.failureKind)

def caseOutcome (caseNo : UInt32) (stage : RuntimePreparedStage) (outcome : RuntimeStageOutcome)
    (status : RuntimeCaseFinalStatus) : RuntimeCaseOutcome where
  caseNo := caseNo
  score := stage.score
  status := status
  exitCode := outcome.exitCode
  durationMs := outcome.durationMs
  memoryUsedKb := outcome.memoryUsedKb
  stdoutPath := outcome.stdoutPath
  stderrPath := outcome.stderrPath
  stdoutExcerpt := outcome.stdoutExcerpt
  stderrExcerpt := outcome.stderrExcerpt

/-- The directory of the case with a number. -/
def findCase (artifacts : PreparedRuntimeArtifacts) (caseNo : UInt32) :
    ExecutionResult PreparedRuntimeCaseDir :=
  match artifacts.cases.find? (·.caseNo == caseNo) with
  | some dir => .ok dir
  | none => .error (.error .internal)

/-- Run one stage and judge the case its name refers to. -/
def runCase (artifacts : PreparedRuntimeArtifacts) (stage : RuntimePreparedStage) :
    ExecutionResult RuntimeCaseOutcome := do
  let outcome ← executeStage std env stage
  let dir ← findCase artifacts (caseNoOfStage stage.stageName)
  let status ← w.caseStatus std env artifacts dir outcome
  return caseOutcome (caseNoOfStage stage.stageName) stage outcome status

/-- Run the stages in order, up to the first case that is not accepted. -/
def runCases (artifacts : PreparedRuntimeArtifacts) (caseOutcomes : List RuntimeCaseOutcome) :
    List RuntimePreparedStage →
      ExecutionResult (List RuntimeCaseOutcome × RuntimeTaskLifecycleStatus)
  | [] => return (caseOutcomes, .completed)
  | stage :: rest => do
    let caseOutcome ← w.runCase std env artifacts stage
    if caseOutcome.status = .accepted then
      runCases artifacts (caseOutcomes ++ [caseOutcome]) rest
    else
      return (caseOutcomes ++ [caseOutcome], .failed)

/-- Run an optional compile stage. -/
def runCompile (stage : Option RuntimePreparedStage) :
    ExecutionResult (Option RuntimeStageOutcome) :=
  match stage with
  | some stage => do
    let outcome ← executeStage std env stage
    return some outcome
  | none => return none

/-- Whether a stage was run and did not succeed. -/
def stageFailed (outcome : Option RuntimeStageOutcome) : Bool :=
  outcome.any (·.status ≠ .succeeded)

def execute (artifacts : PreparedRuntimeArtifacts) : ExecutionResult RuntimeExecutionOutcome := do
  let compile ← runCompile std env artifacts.compileStage
  if stageFailed compile then
    return { compile, judgeCompile := none, cases := [], finalStatus := .failed }
  else
    let judgeCompile ← runCompile std env (artifacts.spjArtifacts.bind (·.compileStage))
    if stageFailed judgeCompile then
      return { compile, judgeCompile, cases := [], finalStatus := .failed }
    else
      let (cases, finalStatus) ← w.runCases std env artifacts [] artifacts.runStages
      return { compile, judgeCompile, cases, finalStatus }

end RuntimeWorker

/-- A process that exits by itself after some time and writes nothing. -/
def exited (code : Int) (durationMs : Nat) : ProcessReport where
  exitCode := some code
  signal := none
  durationMs := durationMs
  memoryUsedKb := 1024
  stdout := some ""
  stderr := some ""
  stdoutSizeBytes := 0
  stderrSizeBytes := 0

/-- Every process ends the same way, and every file is empty. -/
def sampleEnv (report : ProcessReport) : ExecutionEnv where
  createFile := fun _ => .ok ()
  openFile := fun _ => .ok ()
  spawn := fun _ => .ok ()
  wait := fun _ => .ok report
  readToString := fun _ => some ""

end NexusCore.Runtime
