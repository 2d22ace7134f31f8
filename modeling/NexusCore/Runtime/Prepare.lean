import NexusCore.Lib.Program
import NexusCore.Lib.Text
import NexusCore.Runtime.Outcome
import NexusCore.Runtime.Planning

/-!
# Preparing a task

Validation of a judging task, and the files and stages that the worker prepares for it.
Preparation is a program over file-system commands, each of which can fail. The names of
system calls in the sandbox policies and the layout of the manifest are parameters of
the worker.
-/

namespace NexusCore.Runtime

open NexusCore.Lib

inductive RuntimeSeccompMode where
  | log
  | kill
  deriving DecidableEq, Repr

structure RuntimeWorker where
  host : Host
  workRoot : String
  nsjailPath : String
  seccompMode : RuntimeSeccompMode
  /-- The policy text for a named policy and mode, on the system call profile of the host. -/
  seccompPolicyString : String → RuntimeSeccompMode → String
  compilerSeccompPolicyString : String
  /-- The manifest of an execution as JSON. -/
  manifest : String → String → OjJudgeTask → RuntimeExecutionPlan →
    List PreparedRuntimeCaseDir → String

inductive FsCmd where
  | createDirAll (path : String)
  | write (path content : String)

/-- A program on the file system; a command answers whether it succeeded. -/
abbrev FsProg (α : Type) : Type := Prog FsCmd (fun _ => Bool) AppError α

namespace FsProg

/-- Issue a command; its failure is an internal error. -/
def require (c : FsCmd) : FsProg Unit :=
  (Prog.op c).bind fun ok => if ok then .ret () else .fail .internal

def createDirAll (path : String) : FsProg Unit := require (.createDirAll path)

def write (path content : String) : FsProg Unit := require (.write path content)

end FsProg

/-- The validation of a task: first error in the order of the checks. -/
def validateOjTask (payload : OjJudgeTask) : AppResult Unit :=
  if (Text.trim payload.sourceCode).isEmpty then
    .error (.badRequest "runtime task source_code must not be empty")
  else if payload.limits.timeLimitMs = 0 then
    .error (.badRequest "runtime task time_limit_ms must be greater than zero")
  else if payload.limits.memoryLimitKb = 0 then
    .error (.badRequest "runtime task memory_limit_kb must be greater than zero")
  else if payload.testcases.isEmpty then
    .error (.badRequest "runtime task must contain at least one testcase")
  else
    match firstDuplicate [] payload.testcases with
    | some caseNo =>
      .error (.badRequest ("duplicate runtime testcase case_no: " ++ toString caseNo.toNat))
    | none =>
      if payload.judgeMode = .functional ∧
          (payload.judgeConfig.bind (·.functionSignature)).isNone then
        .error (.badRequest "functional runtime task requires function_signature")
      else if payload.sandboxKind ≠ .nsjail ∧
          payload.judgeConfig.any (·.judgeMethod = .spj) then
        .error (.badRequest "wasm sandbox currently supports validator-based judging only")
      else
        .ok ()
where
  /-- The first case number that has been seen before. -/
  firstDuplicate (seen : List UInt32) : List RuntimeTestcase → Option UInt32
    | [] => none
    | testcase :: rest =>
      if testcase.caseNo ∈ seen then
        some testcase.caseNo
      else
        firstDuplicate (testcase.caseNo :: seen) rest

structure SpjExecutionSpec where
  language : String
  sourceFilename : String
  compileCommand : Option (List String)
  runCommand : List String
  readonlyMounts : List String

def buildSpjExecutionSpec (host : Host) (spj : RuntimeSpjConfig) : AppResult SpjExecutionSpec :=
  if spj.language = "python" ∨ spj.language = "python3" then
    .ok
      { language := "python"
        sourceFilename := "spj.py"
        compileCommand := none
        runCommand := [host.resolvePythonRuntime, "spj.py"]
        readonlyMounts := [] }
  else if spj.language = "rust" then
    .ok
      { language := "rust"
        sourceFilename := "spj.rs"
        compileCommand := some [host.resolveRustcBinary, "-O", "-C", "linker=/usr/bin/cc", "-C",
          "link-arg=-fuse-ld=bfd", "-o", "spj.exe", "spj.rs"]
        runCommand := ["./spj.exe"]
        readonlyMounts := host.rustcMounts host.resolveRustcBinary }
  else if spj.language = "cpp" ∨ spj.language = "c++" then
    .ok
      { language := "cpp"
        sourceFilename := "spj.cpp"
        compileCommand := some [host.resolveNativeCppCompiler, "-std=c++20", "-O2", "-pipe", "-o",
          "spj.exe", "spj.cpp"]
        runCommand := ["./spj.exe"]
        readonlyMounts := [] }
  else
    .error (.badRequest ("unsupported spj language: " ++ spj.language))

/-- A path as it is seen from inside the jail. -/
def pathInJail (workDir path : String) : String :=
  if Path.isAbsolute path then
    match Path.stripPrefix workDir path with
    | some relative => "/" ++ relative
    | none => path
  else
    path

structure DirectCommandLimits where
  timeLimitSec : UInt64
  memoryLimitBytes : Option UInt64
  pidsLimit : Option Nat
  fileSizeBytes : UInt64

def wrapDirectCommand (command : List String) (limits : DirectCommandLimits) : List String :=
  ["/usr/bin/timeout", "--signal=KILL", toString limits.timeLimitSec.toNat ++ "s",
    "/usr/bin/prlimit", "--cpu=" ++ toString limits.timeLimitSec.toNat] ++
  (limits.memoryLimitBytes.map fun bytes => "--as=" ++ toString bytes.toNat).toList ++
  (limits.pidsLimit.map fun pids => "--nproc=" ++ toString pids).toList ++
  ["--fsize=" ++ toString limits.fileSizeBytes.toNat, "--"] ++ command

def wasmRuntimeHostMemoryBytes (memoryLimitKb : UInt64) : UInt64 :=
  max (memoryLimitKb * 1024 * 8) (8 * 1024 * 1024 * 1024)

/-- The wall clock limit of a run in whole seconds, one more than the task's own. -/
def runTimeLimitSec (limits : RuntimeLimits) : UInt64 :=
  max ((limits.timeLimitMs / 1000) + (if limits.timeLimitMs % 1000 = 0 then 0 else 1)) 1 + 1

namespace RuntimeWorker

variable (w : RuntimeWorker)

/-- The mount arguments for the directories that exist. -/
def mountArgs (mounts : List String) : List String :=
  (mounts.filter w.host.pathExists).flatMap fun mount => ["-R", mount]

def wrapWithNsjail (workDir : String) (command : List String) (seccompString : String)
    (seccompMode : RuntimeSeccompMode) (timeLimitSec memoryLimitBytes : UInt64) (pidsLimit : Nat)
    (extraRoMounts : List String) : List String :=
  [w.nsjailPath, "-Mo", "-Q", "--chroot", workDir, "--user", "65534", "--group", "65534", "--rw",
    "--cwd", "/"] ++
  w.mountArgs ["/lib", "/lib64", "/usr", "/bin", "/etc/alternatives"] ++
  w.mountArgs extraRoMounts ++
  ["-T", "/dev", "-T", "/tmp", "--use_cgroupv2",
    "--time_limit", toString timeLimitSec.toNat,
    "--cgroup_mem_max", toString memoryLimitBytes.toNat,
    "--rlimit_as", toString (max (memoryLimitBytes / 1024 / 1024) 1).toNat,
    "--cgroup_pids_max", toString pidsLimit,
    "--rlimit_stack", "64",
    "--rlimit_fsize", "32",
    "--seccomp_string", seccompString] ++
  (if seccompMode = .log then ["--seccomp_log"] else []) ++
  ["--", "/usr/bin/env", "-i", "PATH=/usr/bin:/bin:/usr/sbin:/sbin", "HOME=/tmp", "TMPDIR=/tmp"] ++
  command.map (pathInJail workDir)

/-- The directory and file paths of a case. -/
def caseDir (workDir : String) (testcase : RuntimeTestcase) : PreparedRuntimeCaseDir :=
  let directory := Path.join (Path.join workDir "cases")
    ("case_" ++ Text.padded 3 testcase.caseNo.toNat)
  { caseNo := testcase.caseNo
    score := testcase.score
    directory := directory
    inputPath := Path.join directory "input.txt"
    answerPath := Path.join directory "answer.txt"
    outputPath := Path.join directory "output.txt"
    stderrPath := Path.join directory "err.txt" }

def prepareTestcaseDir (workDir : String) (testcase : RuntimeTestcase) :
    FsProg PreparedRuntimeCaseDir := do
  let dir := caseDir workDir testcase
  FsProg.createDirAll dir.directory
  FsProg.write dir.inputPath testcase.input
  FsProg.write dir.answerPath testcase.expectedOutput
  FsProg.write dir.outputPath ""
  FsProg.write dir.stderrPath ""
  return dir

def prepareTestcaseDirs (workDir : String) :
    List RuntimeTestcase → FsProg (List PreparedRuntimeCaseDir)
  | [] => return []
  | testcase :: rest => do
    let dir ← prepareTestcaseDir workDir testcase
    let dirs ← prepareTestcaseDirs workDir rest
    return dir :: dirs

def buildCompileStage (workDir : String) (plan : RuntimeExecutionPlan) : RuntimePreparedStage where
  stageName := "compile"
  score := 0
  command :=
    match plan.executionBackend with
    | .nsjailNative => w.wrapWithNsjail workDir plan.compileCommand w.compilerSeccompPolicyString
        .log 30 (1024 * 1024 * 1024) 1024 plan.readonlyMounts
    | .wasmWasi => wrapDirectCommand plan.compileCommand
        { timeLimitSec := 30
          memoryLimitBytes := some (1024 * 1024 * 1024)
          pidsLimit := some 1024
          fileSizeBytes := 32 * 1024 * 1024 }
    | .nsjailWasm => w.wrapWithNsjail workDir plan.compileCommand w.compilerSeccompPolicyString
        .log 30 (2 * 1024 * 1024 * 1024) 4096 plan.readonlyMounts
  workingDirectory := workDir
  stdinPath := none
  timeLimitMs := 30000
  memoryLimitKb := some
    (match plan.executionBackend with
    | .nsjailWasm => 2 * 1024 * 1024
    | _ => 1024 * 1024)
  outputLimitBytes := 32 * 1024 * 1024
  stdoutPath := Path.join workDir "compile.stdout"
  stderrPath := Path.join workDir "compile.stderr"
  readonlyMounts := plan.readonlyMounts

def buildRunStage (workDir : String) (plan : RuntimeExecutionPlan) (dir : PreparedRuntimeCaseDir)
    (payload : OjJudgeTask) : RuntimePreparedStage where
  stageName := "run_case_" ++ toString dir.caseNo.toNat
  score := dir.score
  command :=
    match plan.executionBackend with
    | .nsjailNative => w.wrapWithNsjail workDir plan.runCommand
        (w.seccompPolicyString plan.seccompPolicy w.seccompMode) w.seccompMode
        (runTimeLimitSec payload.limits) (payload.limits.memoryLimitKb * 1024) 64 []
    | .wasmWasi => wrapDirectCommand plan.runCommand
        { timeLimitSec := runTimeLimitSec payload.limits
          memoryLimitBytes := none
          pidsLimit := none
          fileSizeBytes := 32 * 1024 * 1024 }
    | .nsjailWasm => w.wrapWithNsjail workDir plan.runCommand
        (w.seccompPolicyString plan.seccompPolicy w.seccompMode) w.seccompMode
        (runTimeLimitSec payload.limits)
        (wasmRuntimeHostMemoryBytes payload.limits.memoryLimitKb) 1024 plan.readonlyMounts
  workingDirectory := workDir
  stdinPath := some dir.inputPath
  timeLimitMs := payload.limits.timeLimitMs
  memoryLimitKb := some payload.limits.memoryLimitKb
  outputLimitBytes := 32 * 1024 * 1024
  stdoutPath := dir.outputPath
  stderrPath := dir.stderrPath
  readonlyMounts := []

def spjCompileStage (workDir : String) (spec : SpjExecutionSpec) (command : List String) :
    RuntimePreparedStage where
  stageName := "spj_compile"
  score := 0
  command := w.wrapWithNsjail workDir command w.compilerSeccompPolicyString .log 30
    (1024 * 1024 * 1024) 1024 spec.readonlyMounts
  workingDirectory := workDir
  stdinPath := none
  timeLimitMs := 30000
  memoryLimitKb := some (1024 * 1024)
  outputLimitBytes := 32 * 1024 * 1024
  stdoutPath := Path.join workDir "spj_compile.stdout"
  stderrPath := Path.join workDir "spj_compile.stderr"
  readonlyMounts := spec.readonlyMounts

def buildSpjArtifacts (workDir : String) (judgeConfig : Option RuntimeJudgeConfig) :
    FsProg (Option PreparedSpjArtifacts) :=
  match judgeConfig with
  | none => return none
  | some config =>
    match config.judgeMethod with
    | .validator => return none
    | .spj =>
      match config.spj with
      | none => throw (.badRequest "spj judge requires spj config")
      | some spj => do
        let spec ← Prog.lift (buildSpjExecutionSpec w.host spj)
        let sourcePath := Path.join workDir spec.sourceFilename
        FsProg.write sourcePath spj.sourceCode
        return some
          { language := spec.language
            sourcePath := sourcePath
            readonlyMounts := spec.readonlyMounts
            compileStage := spec.compileCommand.map (w.spjCompileStage workDir spec)
            runCommand := spec.runCommand }

/-- The artifacts of an execution, once its files are in place. -/
def artifacts (executionId taskId : String) (payload : OjJudgeTask) (plan : RuntimeExecutionPlan)
    (cases : List PreparedRuntimeCaseDir) (spj : Option PreparedSpjArtifacts) :
    PreparedRuntimeArtifacts :=
  let workDir := Path.join w.workRoot executionId
  { executionId := executionId
    taskId := taskId
    status := .prepared
    workDir := workDir
    sourcePath := Path.join workDir plan.sourceFilename
    manifestPath := Path.join workDir "manifest.json"
    judgeConfig := payload.judgeConfig
    cases := cases
    spjArtifacts := spj
    compileStage := if plan.compileRequired then some (w.buildCompileStage workDir plan) else none
    runStages := cases.map fun dir => w.buildRunStage workDir plan dir payload }

/-- Prepare a task; `ulid` is the fresh identifier of the execution. -/
def prepareOjTask (ulid taskId : String) (payload : OjJudgeTask) :
    FsProg PreparedRuntimeArtifacts := do
  Prog.lift (validateOjTask payload)
  match w.host.resolve payload.language with
  | none => throw (.badRequest ("unsupported runtime language: " ++ payload.language))
  | some toolchain =>
    let plan ← Prog.lift (buildPlan toolchain payload)
    let executionId := "rt-" ++ ulid
    let workDir := Path.join w.workRoot executionId
    FsProg.createDirAll workDir
    FsProg.write (Path.join workDir plan.sourceFilename) payload.sourceCode
    let dirs ← prepareTestcaseDirs workDir payload.testcases
    let spj ← w.buildSpjArtifacts workDir payload.judgeConfig
    FsProg.write (Path.join workDir "manifest.json") (w.manifest taskId executionId payload plan dirs)
    return w.artifacts executionId taskId payload plan dirs spj

end RuntimeWorker

/-- A machine and a worker for concrete runs. -/
def sampleHost : Host where
  resolveNativeCppCompiler := "/usr/bin/g++"
  resolveWasiCppCompiler := "clang++"
  resolvePythonRuntime := "/usr/bin/python3"
  resolveRustcBinary := "rustc"
  resolveWasiRustTarget := "wasm32-wasip1"
  resolveWasmtimeRuntime := "/usr/local/bin/wasmtime"
  home := none
  pathExists := fun path => path == "/usr"

/-- The file system that grants every request. -/
def granted (_ : Unit) (_ : FsCmd) : Bool × Unit := (true, ())

def sampleWorker : RuntimeWorker where
  host := sampleHost
  workRoot := "/var/nexus"
  nsjailPath := "nsjail"
  seccompMode := .kill
  seccompPolicyString := fun policy _ => policy
  compilerSeccompPolicyString := "compiler"
  manifest := fun taskId _ _ _ _ => taskId

end NexusCore.Runtime
