import NexusCore.Oj.Verdict
import NexusCore.Runtime.Limits
import NexusCore.Runtime.Simulation

/-!
# The arithmetic of limits and scores

The time and memory limits of a task go through unit conversions on their way into the commands of
its stages, and the scores of its cases are added up in reports and projections. All of it is
64-bit and 32-bit arithmetic, so that it is exact, and the limits are large enough, only for tasks
that leave room for the conversions of their backend.
-/

namespace NexusCore.Oj

open NexusCore.Lib NexusCore.Runtime

section Limits

/-- The limits of the jail or the direct command of a run stage. -/
structure JailLimits where
  wallSec : UInt64
  memoryBytes : Option UInt64
  addressSpaceMib : Option UInt64

/-- The limits of the wasm engine. -/
structure EngineLimits where
  memoryBytes : UInt64
  timeoutMs : UInt64

/-- The memory that the jail of a backend allows. -/
def jailMemoryBytes (limits : RuntimeLimits) : RuntimeExecutionBackend → Option UInt64
  | .nsjailNative => some (limits.memoryLimitKb * 1024)
  | .wasmWasi => none
  | .nsjailWasm => some (wasmRuntimeHostMemoryBytes limits.memoryLimitKb)

def jailLimits (limits : RuntimeLimits) (backend : RuntimeExecutionBackend) : JailLimits where
  wallSec := runTimeLimitSec limits
  memoryBytes := jailMemoryBytes limits backend
  addressSpaceMib := (jailMemoryBytes limits backend).map fun bytes => max (bytes / 1024 / 1024) 1

def engineLimits (limits : RuntimeLimits) : EngineLimits where
  memoryBytes := limits.memoryLimitKb * 1024
  timeoutMs := max limits.timeLimitMs 1

/-- The limits that stand in the arguments of a command. -/
inductive JailLimits.WrittenIn : JailLimits → List String → Prop where
  | nsjail {front back : List String} {wallSec memoryBytes addressSpaceMib : UInt64} :
      WrittenIn ⟨wallSec, some memoryBytes, some addressSpaceMib⟩
        (front ++ ["--time_limit", toString wallSec.toNat,
          "--cgroup_mem_max", toString memoryBytes.toNat,
          "--rlimit_as", toString addressSpaceMib.toNat] ++ back)
  | direct {back : List String} {wallSec : UInt64} :
      WrittenIn ⟨wallSec, none, none⟩
        (["/usr/bin/timeout", "--signal=KILL", toString wallSec.toNat ++ "s", "/usr/bin/prlimit",
          "--cpu=" ++ toString wallSec.toNat] ++ back)

inductive EngineLimits.WrittenIn : EngineLimits → List String → Prop where
  | engine {front back : List String} {memoryBytes timeoutMs : UInt64} :
      WrittenIn ⟨memoryBytes, timeoutMs⟩
        (front ++ ["-W", "max-memory-size=" ++ toString memoryBytes.toNat,
          "-W", "timeout=" ++ toString timeoutMs.toNat ++ "ms"] ++ back)

/-- The numbers that the conversions are to give. -/
structure JailLimits.Exact (jail : JailLimits) (limits : RuntimeLimits)
    (backend : RuntimeExecutionBackend) : Prop where
  wall : jail.wallSec.toNat = max ((limits.timeLimitMs.toNat + 999) / 1000) 1 + 1
  memory : jail.memoryBytes.map UInt64.toNat =
    match backend with
    | .nsjailNative => some (limits.memoryLimitKb.toNat * 1024)
    | .wasmWasi => none
    | .nsjailWasm => some (max (limits.memoryLimitKb.toNat * 1024 * 8) (8 * 1024 * 1024 * 1024))

structure EngineLimits.Exact (engine : EngineLimits) (limits : RuntimeLimits) : Prop where
  memory : engine.memoryBytes.toNat = limits.memoryLimitKb.toNat * 1024
  timeout : engine.timeoutMs.toNat = max limits.timeLimitMs.toNat 1

/-- The jail kills nothing that respects the limits of the task. -/
structure JailLimits.Covers (jail : JailLimits) (limits : RuntimeLimits) : Prop where
  wall : limits.timeLimitMs.toNat ≤ jail.wallSec.toNat * 1000
  memory : ∀ bytes ∈ jail.memoryBytes, limits.memoryLimitKb.toNat * 1024 ≤ bytes.toNat
  addressSpace : ∀ mib ∈ jail.addressSpaceMib,
    limits.memoryLimitKb.toNat * 1024 ≤ mib.toNat * 1024 * 1024

structure EngineLimits.Covers (engine : EngineLimits) (limits : RuntimeLimits) : Prop where
  memory : limits.memoryLimitKb.toNat * 1024 ≤ engine.memoryBytes.toNat
  timeout : limits.timeLimitMs.toNat ≤ engine.timeoutMs.toNat

end Limits

section Property

/-- A plan that the worker builds for a task. -/
def Planned (w : RuntimeWorker) (payload : OjJudgeTask) (plan : RuntimeExecutionPlan) : Prop :=
  ∃ toolchain, w.host.resolve payload.language = some toolchain ∧
    buildPlan toolchain payload = .ok plan

/-- Artifacts that the worker prepares for a task, on any file system. -/
def Prepares (w : RuntimeWorker) (payload : OjJudgeTask) (a : PreparedRuntimeArtifacts) : Prop :=
  ∃ ulid taskId, Exec (fun (_ : Unit) _ _ _ => True) (w.prepareOjTask ulid taskId payload) ()
    (.ok a) ()

/-- What is computed for a task is exact, and no limit is smaller than the task's own: in the
plan, in the stages, in the report of a simulation, and in the scores of an event. -/
structure LimitArithmeticSafe (w : RuntimeWorker) (payload : OjJudgeTask) : Prop where
  engine : ∀ plan, Planned w payload plan → payload.sandboxKind ≠ .nsjail →
    (engineLimits payload.limits).WrittenIn plan.runCommand ∧
      (engineLimits payload.limits).Exact payload.limits ∧
      (engineLimits payload.limits).Covers payload.limits
  jail : ∀ a, Prepares w payload a → ∀ stage ∈ a.runStages,
    (jailLimits payload.limits payload.sandboxKind.executionBackend).WrittenIn stage.command ∧
      (jailLimits payload.limits payload.sandboxKind.executionBackend).Exact payload.limits
        payload.sandboxKind.executionBackend ∧
      (jailLimits payload.limits payload.sandboxKind.executionBackend).Covers payload.limits
  simulated : ∀ ulid taskId report, w.simulateOjTask ulid taskId payload = .ok report →
    report.profile.totalScore.toNat = (payload.testcases.map (·.score.toNat)).sum
  projected : ∀ std env a outcome, Prepares w payload a → w.execute std env a = .ok outcome →
    (totalScore (some outcome)).toNat = (outcome.cases.map (·.score.toNat)).sum ∧
      (acceptedScore (some outcome)).toNat =
        ((outcome.cases.filter (·.status = .accepted)).map (·.score.toNat)).sum

/-- The memory limit leaves room for the conversion of the engine. -/
def EngineFits (payload : OjJudgeTask) : Prop :=
  payload.sandboxKind ≠ .nsjail → payload.limits.memoryLimitKb.toNat * 1024 < 2 ^ 64

/-- The memory limit leaves room for the conversions of the jail. In a native jail it is also a
whole number of mebibytes, or at most one. -/
def JailFits (payload : OjJudgeTask) : Prop :=
  match payload.sandboxKind with
  | .nsjail => payload.limits.memoryLimitKb.toNat * 1024 < 2 ^ 64 ∧
    (payload.limits.memoryLimitKb.toNat ≤ 1024 ∨ 1024 ∣ payload.limits.memoryLimitKb.toNat)
  | .wasm => True
  | .nsjailWasm => payload.limits.memoryLimitKb.toNat * 1024 * 8 < 2 ^ 64

/-- The scores of all cases fit in 32 bits. -/
def ScoresFit (payload : OjJudgeTask) : Prop :=
  (payload.testcases.map (·.score.toNat)).sum < 2 ^ 32

end Property

section Conversions

variable {limits : RuntimeLimits} {backend : RuntimeExecutionBackend}

theorem toNat_max (x y : UInt64) : (max x y).toNat = max x.toNat y.toNat := by
  have unfolded : max x y = if x ≤ y then y else x := rfl
  rw [unfolded]
  simp only [UInt64.le_iff_toNat_le]
  split_ifs <;> omega

theorem runTimeLimitSec_exact (limits : RuntimeLimits) : (runTimeLimitSec limits).toNat =
    max ((limits.timeLimitMs.toNat + 999) / 1000) 1 + 1 := by
  have bound := limits.timeLimitMs.toNat_lt
  unfold runTimeLimitSec
  split_ifs with whole <;>
    simp only [UInt64.toNat_add, toNat_max, UInt64.toNat_div, UInt64.reduceToNat,
      ← UInt64.toNat_inj, UInt64.toNat_mod] at whole ⊢ <;> omega

theorem wasmRuntimeHostMemoryBytes_exact_iff (kb : UInt64) :
    (wasmRuntimeHostMemoryBytes kb).toNat = max (kb.toNat * 1024 * 8) (8 * 1024 * 1024 * 1024) ↔
      kb.toNat * 1024 * 8 < 2 ^ 64 := by
  have bound := (wasmRuntimeHostMemoryBytes kb).toNat_lt
  constructor
  · intro exact_
    omega
  · intro fits
    simp only [wasmRuntimeHostMemoryBytes, toNat_max, UInt64.toNat_mul, UInt64.reduceToNat]
    omega

theorem engineLimits_exact_iff :
    (engineLimits limits).Exact limits ↔ limits.memoryLimitKb.toNat * 1024 < 2 ^ 64 := by
  have bound := (engineLimits limits).memoryBytes.toNat_lt
  constructor
  · intro exact_
    have memory := exact_.memory
    omega
  · intro fits
    refine ⟨?_, ?_⟩
    · simp only [engineLimits, UInt64.toNat_mul, UInt64.reduceToNat]
      omega
    · simp only [engineLimits, toNat_max, UInt64.reduceToNat]

theorem EngineLimits.Exact.covers {engine : EngineLimits} (exact_ : engine.Exact limits) :
    engine.Covers limits := by
  refine ⟨exact_.memory.ge, ?_⟩
  rw [exact_.timeout]
  omega

theorem jailLimits_wall :
    limits.timeLimitMs.toNat ≤ (jailLimits limits backend).wallSec.toNat * 1000 := by
  simp only [jailLimits, runTimeLimitSec_exact]
  omega

/-- The conversions for a native jail are exact if and only if the bytes fit in 64 bits. -/
theorem nativeJail_exact_iff : (jailLimits limits .nsjailNative).Exact limits .nsjailNative ↔
    limits.memoryLimitKb.toNat * 1024 < 2 ^ 64 := by
  have bound := (limits.memoryLimitKb * 1024).toNat_lt
  constructor
  · intro exact_
    have memory : (limits.memoryLimitKb * 1024).toNat = limits.memoryLimitKb.toNat * 1024 :=
      Option.some.inj exact_.memory
    omega
  · intro fits
    refine ⟨runTimeLimitSec_exact limits, congrArg some ?_⟩
    simp only [UInt64.toNat_mul, UInt64.reduceToNat]
    omega

/-- The address space of a native jail is rounded down to mebibytes. -/
theorem nativeJail_covers_iff (fits : limits.memoryLimitKb.toNat * 1024 < 2 ^ 64) :
    (jailLimits limits .nsjailNative).Covers limits ↔
      limits.memoryLimitKb.toNat ≤ 1024 ∨ 1024 ∣ limits.memoryLimitKb.toNat := by
  have bytes : (limits.memoryLimitKb * 1024).toNat = limits.memoryLimitKb.toNat * 1024 := by
    simp only [UInt64.toNat_mul, UInt64.reduceToNat]
    omega
  have mib : (max (limits.memoryLimitKb * 1024 / 1024 / 1024) 1).toNat =
      max (limits.memoryLimitKb.toNat / 1024) 1 := by
    simp only [toNat_max, UInt64.toNat_div, bytes, UInt64.reduceToNat]
    omega
  constructor
  · intro covers
    have space := covers.addressSpace _ rfl
    rw [mib] at space
    omega
  · intro whole
    refine ⟨jailLimits_wall, ?_, ?_⟩
    · rintro _ ⟨⟩
      exact bytes.ge
    · rintro _ ⟨⟩
      rw [mib]
      omega

theorem wasmJail_exact_iff : (jailLimits limits .nsjailWasm).Exact limits .nsjailWasm ↔
    limits.memoryLimitKb.toNat * 1024 * 8 < 2 ^ 64 := by
  rw [← wasmRuntimeHostMemoryBytes_exact_iff]
  constructor
  · intro exact_
    exact Option.some.inj exact_.memory
  · intro memory
    exact ⟨runTimeLimitSec_exact limits, congrArg some memory⟩

/-- The memory of the host is eight times that of the task and at least eight gibibytes, so that
the address space is large enough although it is rounded down. -/
theorem wasmJail_covers (fits : limits.memoryLimitKb.toNat * 1024 * 8 < 2 ^ 64) :
    (jailLimits limits .nsjailWasm).Covers limits := by
  have bytes := (wasmRuntimeHostMemoryBytes_exact_iff limits.memoryLimitKb).2 fits
  refine ⟨jailLimits_wall, ?_, ?_⟩
  · rintro _ ⟨⟩
    rw [bytes]
    omega
  · rintro _ ⟨⟩
    simp only [toNat_max, UInt64.toNat_div, bytes, UInt64.reduceToNat]
    omega

/-- Without a jail there is a time limit alone. -/
theorem directJail_exact : (jailLimits limits .wasmWasi).Exact limits .wasmWasi :=
  ⟨runTimeLimitSec_exact limits, rfl⟩

theorem directJail_covers : (jailLimits limits .wasmWasi).Covers limits := by
  refine ⟨jailLimits_wall, ?_, ?_⟩
  · rintro _ ⟨⟩
  · rintro _ ⟨⟩

/-- The jail of a task is safe if and only if the task leaves it room. -/
theorem jailFits_iff {payload : OjJudgeTask} :
    ((jailLimits payload.limits payload.sandboxKind.executionBackend).Exact payload.limits
        payload.sandboxKind.executionBackend ∧
      (jailLimits payload.limits payload.sandboxKind.executionBackend).Covers payload.limits) ↔
    JailFits payload := by
  cases kind : payload.sandboxKind with
  | nsjail =>
    simp only [JailFits, kind, RuntimeSandboxKind.executionBackend, nativeJail_exact_iff]
    exact and_congr_right nativeJail_covers_iff
  | wasm =>
    simp only [JailFits, kind, RuntimeSandboxKind.executionBackend, iff_true]
    exact ⟨directJail_exact, directJail_covers⟩
  | nsjailWasm =>
    simp only [JailFits, kind, RuntimeSandboxKind.executionBackend, wasmJail_exact_iff]
    exact and_iff_left_of_imp wasmJail_covers

end Conversions

section Commands

variable {w : RuntimeWorker} {payload : OjJudgeTask} {plan : RuntimeExecutionPlan}
  {a : PreparedRuntimeArtifacts}

theorem buildWasmtimeRunCommand_writes (host : Host) :
    (engineLimits payload.limits).WrittenIn (host.buildWasmtimeRunCommand payload) :=
  @EngineLimits.WrittenIn.engine [host.resolveWasmtimeRuntime, "run"] ["main.wasm"] _ _

/-- The plan for a wasm sandbox runs the engine. -/
theorem Planned.writes (planned : Planned w payload plan) (wasm : payload.sandboxKind ≠ .nsjail) :
    (engineLimits payload.limits).WrittenIn plan.runCommand := by
  obtain ⟨toolchain, resolved, built⟩ := planned
  have runs : ∀ recipe, toolchain payload payload.sandboxKind = .ok recipe →
      recipe.runCommand = w.host.buildWasmtimeRunCommand payload := by
    intro recipe given
    unfold Host.resolve at resolved
    split_ifs at resolved <;> cases resolved <;> cases kind : payload.sandboxKind with
    | nsjail => exact absurd kind wasm
    | wasm | nsjailWasm =>
      rw [kind] at given
      cases given
      try rfl
  unfold buildPlan at built
  obtain ⟨recipe, given, made⟩ := bind_eq_ok.1 built
  cases made
  have same : (payload.sandboxKind.finalizePlan recipe).runCommand = recipe.runCommand := rfl
  rw [same, runs recipe given]
  exact buildWasmtimeRunCommand_writes w.host

theorem wrapWithNsjail_writes (workDir : String) (command : List String) (seccomp : String)
    (mode : RuntimeSeccompMode) (wallSec memoryBytes : UInt64) (pids : Nat)
    (mounts : List String) :
    JailLimits.WrittenIn ⟨wallSec, some memoryBytes, some (max (memoryBytes / 1024 / 1024) 1)⟩
      (w.wrapWithNsjail workDir command seccomp mode wallSec memoryBytes pids mounts) := by
  have written := @JailLimits.WrittenIn.nsjail
    ([w.nsjailPath, "-Mo", "-Q", "--chroot", workDir, "--user", "65534", "--group", "65534",
      "--rw", "--cwd", "/"] ++ w.mountArgs ["/lib", "/lib64", "/usr", "/bin",
      "/etc/alternatives"] ++ w.mountArgs mounts ++ ["-T", "/dev", "-T", "/tmp",
      "--use_cgroupv2"])
    (["--cgroup_pids_max", toString pids, "--rlimit_stack", "64", "--rlimit_fsize", "32",
      "--seccomp_string", seccomp] ++ (if mode = .log then ["--seccomp_log"] else []) ++
      ["--", "/usr/bin/env", "-i", "PATH=/usr/bin:/bin:/usr/sbin:/sbin", "HOME=/tmp",
        "TMPDIR=/tmp"] ++ command.map (pathInJail workDir))
    wallSec memoryBytes (max (memoryBytes / 1024 / 1024) 1)
  simpa [RuntimeWorker.wrapWithNsjail, List.append_assoc] using written

theorem buildRunStage_writes (workDir : String) (dir : PreparedRuntimeCaseDir) :
    (jailLimits payload.limits plan.executionBackend).WrittenIn
      (w.buildRunStage workDir plan dir payload).command := by
  cases backend : plan.executionBackend with
  | nsjailNative =>
    simp only [RuntimeWorker.buildRunStage, backend]
    exact wrapWithNsjail_writes ..
  | wasmWasi =>
    simp only [RuntimeWorker.buildRunStage, backend, wrapDirectCommand]
    exact .direct
  | nsjailWasm =>
    simp only [RuntimeWorker.buildRunStage, backend]
    exact wrapWithNsjail_writes ..

theorem Prepares.prepared (prepares : Prepares w payload a) : w.Prepared payload a := by
  obtain ⟨ulid, taskId, run⟩ := prepares
  exact run.returns (RuntimeWorker.prepareOjTask_returns ulid taskId)

theorem Prepares.writes (prepares : Prepares w payload a) {stage : RuntimePreparedStage}
    (mem : stage ∈ a.runStages) :
    (jailLimits payload.limits payload.sandboxKind.executionBackend).WrittenIn stage.command := by
  obtain ⟨-, executionId, taskId, plan, spj, rfl, backend, -⟩ := prepares.prepared
  obtain ⟨dir, -, rfl⟩ := List.mem_map.1 mem
  rw [← backend]
  exact buildRunStage_writes ..

/-- Where artifacts are prepared a plan has been built. -/
theorem Prepares.planned (prepares : Prepares w payload a) : ∃ plan, Planned w payload plan := by
  obtain ⟨ulid, taskId, run⟩ := prepares
  have built : (w.prepareOjTask ulid taskId payload).Returns
      fun _ => ∃ plan, Planned w payload plan := by
    simp only [RuntimeWorker.prepareOjTask, Prog.bind_def]
    refine (Prog.returns_true _).bind fun _ _ => ?_
    cases resolved : w.host.resolve payload.language with
    | none => exact .fail
    | some toolchain =>
      refine (Prog.returns_lift fun plan h => h).bind ?_
      intro plan built
      have planned : ∃ plan, Planned w payload plan := ⟨plan, toolchain, resolved, built⟩
      iterate 5 refine (Prog.returns_true _).bind fun _ _ => ?_
      exact .ret planned
  exact Exec.returns (P := fun _ => ∃ plan, Planned w payload plan) built run

/-- A task that is accepted and planned is simulated. -/
theorem Planned.simulated (planned : Planned w payload plan)
    (accepted : validateOjTask payload = .ok ()) : ∃ report,
      w.simulateOjTask "" "" payload = .ok report ∧
      report.profile.totalScore = (payload.testcases.map (·.score)).sum := by
  obtain ⟨toolchain, resolved, built⟩ := planned
  unfold RuntimeWorker.simulateOjTask
  rw [accepted, ok_bind, resolved]
  simp only [built, ok_bind]
  exact ⟨_, rfl, rfl⟩

theorem simulateOjTask_ok {ulid taskId : String} {report : RuntimeSimulationReport}
    (simulated : w.simulateOjTask ulid taskId payload = .ok report) :
    (∃ plan, Planned w payload plan) ∧
      report.profile.totalScore = (payload.testcases.map (·.score)).sum := by
  unfold RuntimeWorker.simulateOjTask at simulated
  obtain ⟨_, -, simulated⟩ := bind_eq_ok.1 simulated
  cases resolved : w.host.resolve payload.language with
  | none =>
    rw [resolved] at simulated
    cases simulated
  | some toolchain =>
    rw [resolved] at simulated
    obtain ⟨plan, built, made⟩ := bind_eq_ok.1 simulated
    cases made
    exact ⟨⟨plan, toolchain, resolved, built⟩, rfl⟩

end Commands

section Scores

variable {w : RuntimeWorker} {payload : OjJudgeTask} {std : Stdlib} {env : ExecutionEnv}
  {a : PreparedRuntimeArtifacts} {outcome : RuntimeExecutionOutcome}

/-- A sum of scores is exact if and only if it fits in 32 bits. -/
theorem toNat_sum_iff (scores : List UInt32) :
    scores.sum.toNat = (scores.map UInt32.toNat).sum ↔
      (scores.map UInt32.toNat).sum < 2 ^ 32 := by
  have bound := scores.sum.toNat_lt
  constructor
  · intro exact_
    omega
  · exact toNat_sum

theorem sum_testcases (testcases : List RuntimeTestcase) :
    (testcases.map (·.score)).map UInt32.toNat = testcases.map (·.score.toNat) := by
  simp [Function.comp_def]

/-- An execution reports no more than the scores of the task. -/
theorem Prepares.scores_le (prepares : Prepares w payload a)
    (run : w.execute std env a = .ok outcome) :
    (outcome.cases.map (·.score.toNat)).sum ≤ (payload.testcases.map (·.score.toNat)).sum := by
  have prepared := prepares.prepared
  obtain ⟨later, whole⟩ := (RuntimeWorker.execute_ok prepared.wellFormed run).1
  obtain ⟨-, executionId, taskId, plan, spj, rfl, -⟩ := prepared
  have sums := congrArg (fun scores => (scores.map fun score => score.2.toNat).sum) whole
  simp only [RuntimeExecutionOutcome.scores, PreparedRuntimeArtifacts.scores,
    RuntimeWorker.artifacts, List.map_append, List.map_map, List.sum_append, Function.comp_def,
    RuntimeWorker.caseDir] at sums
  omega

theorem projected_exact (fits : (outcome.cases.map (·.score.toNat)).sum < 2 ^ 32) :
    (totalScore (some outcome)).toNat = (outcome.cases.map (·.score.toNat)).sum ∧
      (acceptedScore (some outcome)).toNat =
        ((outcome.cases.filter (·.status = .accepted)).map (·.score.toNat)).sum := by
  have fewer := sum_filter_le (·.status = .accepted) outcome.cases
  constructor
  · simp only [totalScore, Option.map_some, Option.getD_some]
    rw [toNat_sum, sum_scores]
    rwa [sum_scores]
  · simp only [acceptedScore, Option.map_some, Option.getD_some]
    rw [toNat_sum, sum_scores]
    rw [sum_scores]
    omega

end Scores

section Safety

variable {w : RuntimeWorker} {payload : OjJudgeTask}

/-- The arithmetic for a task that has been accepted is safe if and only if, where a plan is built,
the memory limit fits the engine and the scores add up, and where stages are built, the memory
limit fits the jail. -/
theorem limit_arithmetic_safe_iff (accepted : validateOjTask payload = .ok ()) :
    LimitArithmeticSafe w payload ↔
      ((∃ plan, Planned w payload plan) → EngineFits payload ∧ ScoresFit payload) ∧
        ((∃ a, Prepares w payload a) → JailFits payload) := by
  constructor
  · intro safe
    constructor
    · rintro ⟨plan, planned⟩
      constructor
      · intro wasm
        exact engineLimits_exact_iff.1 (safe.engine plan planned wasm).2.1
      · obtain ⟨report, simulated, total⟩ := planned.simulated accepted
        have exact_ := safe.simulated _ _ _ simulated
        rw [total, ← sum_testcases, toNat_sum_iff, sum_testcases] at exact_
        exact exact_
    · rintro ⟨a, prepares⟩
      obtain ⟨testcase, mem⟩ :=
        List.exists_mem_of_ne_nil _ (validateOjTask_eq_ok.1 accepted).testcases
      have stage : ∃ stage, stage ∈ a.runStages := by
        obtain ⟨-, executionId, taskId, plan, spj, rfl, -⟩ := prepares.prepared
        exact ⟨_, List.mem_map_of_mem (List.mem_map_of_mem mem)⟩
      obtain ⟨stage, among⟩ := stage
      exact jailFits_iff.1 (safe.jail a prepares stage among).2
  · intro ⟨planned_fits, prepared_fits⟩
    refine ⟨?_, ?_, ?_, ?_⟩
    · intro plan planned wasm
      have exact_ := engineLimits_exact_iff.2 ((planned_fits ⟨plan, planned⟩).1 wasm)
      exact ⟨planned.writes wasm, exact_, exact_.covers⟩
    · intro a prepares stage among
      exact ⟨prepares.writes among, jailFits_iff.2 (prepared_fits ⟨a, prepares⟩)⟩
    · intro ulid taskId report simulated
      obtain ⟨planned, total⟩ := simulateOjTask_ok simulated
      have fits := (planned_fits planned).2
      rw [total, ← sum_testcases, toNat_sum_iff, sum_testcases]
      exact fits
    · intro std env a outcome prepares run
      have fits := (planned_fits prepares.planned).2
      exact projected_exact ((prepares.scores_le run).trans_lt fits)

/-- The sample task with another memory limit. -/
def taskWithMemory (memoryLimitKb : UInt64) : OjJudgeTask :=
  { (sampleTask "task-1" "judge" 3).judge with
    limits := { timeLimitMs := 1000, memoryLimitKb := memoryLimitKb } }

theorem limit_arithmetic_safe_iff_of_sample :
    LimitArithmeticSafe sampleWorker (taskWithMemory 65536) ↔
      ((∃ plan, Planned sampleWorker (taskWithMemory 65536) plan) →
        EngineFits (taskWithMemory 65536) ∧ ScoresFit (taskWithMemory 65536)) ∧
      ((∃ a, Prepares sampleWorker (taskWithMemory 65536) a) → JailFits (taskWithMemory 65536)) :=
  limit_arithmetic_safe_iff rfl

/-- A memory limit of `2 ^ 54 + 1` kilobytes becomes one kilobyte. -/
theorem huge_memory_limit_wraps : ¬ LimitArithmeticSafe sampleWorker (taskWithMemory (2 ^ 54 + 1)) := by
  intro safe
  have prepares : Prepares sampleWorker (taskWithMemory (2 ^ 54 + 1)) _ :=
    ⟨"01", "task-1", Exec.of_eval (h := granted) (v := id) (fun _ _ => trivial) _ ()⟩
  have covers := (safe.jail _ prepares _ List.mem_cons_self).2.2.memory _ rfl
  exact absurd covers (by decide +kernel)

end Safety

end NexusCore.Oj
