import NexusCore.Runtime.Protocol
import NexusCore.Shared.Path

/-!
# Execution plans

How a task of a language is compiled and run in each sandbox. The tools that the
resolver functions find on the machine are fields of `Host`.
-/

namespace NexusCore.Runtime

/-- The machine a worker runs on, as far as planning looks at it. -/
structure Host where
  resolveNativeCppCompiler : String
  resolveWasiCppCompiler : String
  resolvePythonRuntime : String
  resolveRustcBinary : String
  resolveWasiRustTarget : String
  resolveWasmtimeRuntime : String
  home : Option String
  pathExists : String → Bool

inductive RuntimeExecutionBackend where
  | nsjailNative
  | wasmWasi
  | nsjailWasm
  deriving DecidableEq, Repr

structure RuntimeExecutionPlan where
  language : String
  executionBackend : RuntimeExecutionBackend
  compileRequired : Bool
  sourceFilename : String
  executableFilename : Option String
  compileCommand : List String
  runCommand : List String
  sandboxProfile : String
  seccompPolicy : String
  readonlyMounts : List String
  deriving DecidableEq, Repr

structure RuntimeCommandRecipe where
  language : String
  compileRequired : Bool
  sourceFilename : String
  executableFilename : Option String
  compileCommand : List String
  runCommand : List String
  seccompPolicy : String
  readonlyMounts : List String

namespace RuntimeSandboxKind

def profileName : RuntimeSandboxKind → String
  | .nsjail => "nsjail"
  | .wasm => "wasm"
  | .nsjailWasm => "nsjail_wasm"

def executionBackend : RuntimeSandboxKind → RuntimeExecutionBackend
  | .nsjail => .nsjailNative
  | .wasm => .wasmWasi
  | .nsjailWasm => .nsjailWasm

def finalizePlan (sandbox : RuntimeSandboxKind) (recipe : RuntimeCommandRecipe) :
    RuntimeExecutionPlan where
  language := recipe.language
  executionBackend := sandbox.executionBackend
  compileRequired := recipe.compileRequired
  sourceFilename := recipe.sourceFilename
  executableFilename := recipe.executableFilename
  compileCommand := recipe.compileCommand
  runCommand := recipe.runCommand
  sandboxProfile := sandbox.profileName
  seccompPolicy := recipe.seccompPolicy
  readonlyMounts := recipe.readonlyMounts

end RuntimeSandboxKind

namespace Host

variable (host : Host)

/-- Sort the mounts and drop repeated ones. -/
def sortedMounts (mounts : List String) : List String :=
  (mounts.mergeSort fun a b => decide (a ≤ b)).destutter (· ≠ ·)

def wasiRuntimeMounts : List String :=
  if Path.isAbsolute host.resolveWasmtimeRuntime then
    (Path.parent host.resolveWasmtimeRuntime).toList
  else
    []

def rustcMounts (rustc : String) : List String :=
  if Path.isAbsolute rustc then
    let toolchainRoot := ((Path.parent rustc).bind Path.parent).toList
    let cargoBin := (host.home.map fun home => Path.join home ".cargo/bin").toList
    sortedMounts (toolchainRoot ++ cargoBin.filter host.pathExists)
  else
    []

def buildWasmtimeRunCommand (task : OjJudgeTask) : List String :=
  [host.resolveWasmtimeRuntime, "run",
    "-W", "max-memory-size=" ++ toString (task.limits.memoryLimitKb * 1024).toNat,
    "-W", "timeout=" ++ toString (max task.limits.timeLimitMs 1).toNat ++ "ms",
    "main.wasm"]

def cppRecipe (task : OjJudgeTask) : RuntimeSandboxKind → AppResult RuntimeCommandRecipe
  | .nsjail => .ok
    { language := "cpp"
      compileRequired := true
      sourceFilename := "main.cpp"
      executableFilename := some "main"
      compileCommand := [host.resolveNativeCppCompiler, "-std=c++20", "-O2", "-pipe", "-o",
        "main", "main.cpp"]
      runCommand := ["./main"]
      seccompPolicy := "cpp_native_default"
      readonlyMounts := [] }
  | .wasm | .nsjailWasm => .ok
    { language := "cpp"
      compileRequired := true
      sourceFilename := "main.cpp"
      executableFilename := some "main.wasm"
      compileCommand := [host.resolveWasiCppCompiler, "--target=wasm32-wasi", "-std=c++20",
        "-O2", "-fno-exceptions", "-D_LIBCPP_NO_EXCEPTIONS", "-o", "main.wasm", "main.cpp"]
      runCommand := host.buildWasmtimeRunCommand task
      seccompPolicy := "wasm_default"
      readonlyMounts := host.wasiRuntimeMounts }

def pythonRecipe (_task : OjJudgeTask) : RuntimeSandboxKind → AppResult RuntimeCommandRecipe
  | .nsjail => .ok
    { language := "python"
      compileRequired := false
      sourceFilename := "main.py"
      executableFilename := none
      compileCommand := []
      runCommand := [host.resolvePythonRuntime, "main.py"]
      seccompPolicy := "python_default"
      readonlyMounts := [] }
  | .wasm | .nsjailWasm => .error (.badRequest "python does not support wasm sandbox")

def rustRecipe (task : OjJudgeTask) : RuntimeSandboxKind → AppResult RuntimeCommandRecipe
  | .nsjail => .ok
    { language := "rust"
      compileRequired := true
      sourceFilename := "main.rs"
      executableFilename := some "main"
      compileCommand := [host.resolveRustcBinary, "-O", "-C", "linker=/usr/bin/cc", "-C",
        "link-arg=-fuse-ld=bfd", "-o", "main", "main.rs"]
      runCommand := ["./main"]
      seccompPolicy := "rust_native_default"
      readonlyMounts := host.rustcMounts host.resolveRustcBinary }
  | .wasm | .nsjailWasm => .ok
    { language := "rust"
      compileRequired := true
      sourceFilename := "main.rs"
      executableFilename := some "main.wasm"
      compileCommand := [host.resolveRustcBinary, "--target", host.resolveWasiRustTarget, "-O",
        "-o", "main.wasm", "main.rs"]
      runCommand := host.buildWasmtimeRunCommand task
      seccompPolicy := "wasm_default"
      readonlyMounts :=
        sortedMounts (host.rustcMounts host.resolveRustcBinary ++ host.wasiRuntimeMounts) }

/-- A language of the catalog: how it turns a task into a recipe for a sandbox. -/
abbrev LanguageToolchain : Type :=
  OjJudgeTask → RuntimeSandboxKind → AppResult RuntimeCommandRecipe

/-- The default catalog. -/
def resolve (language : String) : Option LanguageToolchain :=
  if language = "cpp" then some host.cppRecipe
  else if language = "python" then some host.pythonRecipe
  else if language = "rust" then some host.rustRecipe
  else none

end Host

def buildPlan (toolchain : Host.LanguageToolchain) (task : OjJudgeTask) :
    AppResult RuntimeExecutionPlan := do
  let recipe ← toolchain task task.sandboxKind
  return task.sandboxKind.finalizePlan recipe

end NexusCore.Runtime
