import NexusCore.Runtime.PreparedFiles
import NexusCore.Runtime.Verdict

/-!
# Limits of a run

A run stage is watched over twice. The command that runs it imposes kill limits, which
depend on the backend; the worker measures what the process used, and looks at the
measurements when it classifies a failure. This module compares the two: which reports
the kill limits allow, and whether a case that is reported as accepted respected the
limits of its stage.
-/

namespace NexusCore.Runtime

open NexusCore.Lib

/-- What the command of a stage kills a process for. -/
structure KillLimits where
  wallSec : UInt64
  memoryBytes : Option UInt64
  fileBytes : UInt64

/-- The kill limits of a run stage. The wasm runtime has a timeout of its own, but it counts
the execution of the module only, without the start of the runtime. -/
def killLimits (limits : RuntimeLimits) (backend : RuntimeExecutionBackend) : KillLimits where
  wallSec := runTimeLimitSec limits
  memoryBytes :=
    match backend with
    | .nsjailNative => some (limits.memoryLimitKb * 1024)
    | .wasmWasi => none
    | .nsjailWasm => some (wasmRuntimeHostMemoryBytes limits.memoryLimitKb)
  fileBytes := 32 * 1024 * 1024

/-- A process that exits by itself with code zero has not been killed. -/
structure KillLimits.Allows (kill : KillLimits) (report : ProcessReport) : Prop where
  time : report.exitCode = some 0 → report.durationMs ≤ kill.wallSec.toNat * 1000
  memory : report.exitCode = some 0 →
    ∀ bytes ∈ kill.memoryBytes, report.memoryUsedKb.toNat * 1024 ≤ bytes.toNat
  stdout : report.exitCode = some 0 → report.stdoutSizeBytes ≤ kill.fileBytes
  stderr : report.exitCode = some 0 → report.stderrSizeBytes ≤ kill.fileBytes

/-- The limits that are written into the arguments of a command. -/
inductive KillLimits.ImposedBy : KillLimits → List String → Prop where
  | nsjail {front middle back : List String} {wallSec memoryBytes : UInt64} :
      ImposedBy ⟨wallSec, some memoryBytes, 32 * 1024 * 1024⟩
        (front ++ ["--time_limit", toString wallSec.toNat, "--cgroup_mem_max",
          toString memoryBytes.toNat] ++ middle ++ ["--rlimit_fsize", "32"] ++ back)
  | direct {middle back : List String} {wallSec fileBytes : UInt64} :
      ImposedBy ⟨wallSec, none, fileBytes⟩
        (["/usr/bin/timeout", "--signal=KILL", toString wallSec.toNat ++ "s"] ++ middle ++
          ["--fsize=" ++ toString fileBytes.toNat, "--"] ++ back)

/-- The measurements of a process are within the limits of its stage. -/
structure WithinLimits (stage : RuntimePreparedStage) (report : ProcessReport) : Prop where
  time : report.durationMs < stage.timeLimitMs.toNat
  memory : ∀ limit ∈ stage.memoryLimitKb, report.memoryUsedKb ≤ limit
  stdout : report.stdoutSizeBytes < stage.outputLimitBytes
  stderr : report.stderrSizeBytes < stage.outputLimitBytes

/-- A text that a run can leave as its output: it fits in a file, and its excerpt can be
cut without splitting a character. -/
def CanBeOutput (text : String) : Prop :=
  text.utf8ByteSize ≤ 32 * 1024 * 1024 ∧ (readExcerpt (some text)).isSome

namespace RuntimeWorker

variable {w : RuntimeWorker} {std : Stdlib} {payload : OjJudgeTask}
  {a : PreparedRuntimeArtifacts} {env : ExecutionEnv}

theorem wrapWithNsjail_imposes (workDir : String) (command : List String) (seccomp : String)
    (mode : RuntimeSeccompMode) (wallSec memoryBytes : UInt64) (pids : Nat)
    (mounts : List String) :
    KillLimits.ImposedBy ⟨wallSec, some memoryBytes, 32 * 1024 * 1024⟩
      (w.wrapWithNsjail workDir command seccomp mode wallSec memoryBytes pids mounts) := by
  have imposed := @KillLimits.ImposedBy.nsjail
    ([w.nsjailPath, "-Mo", "-Q", "--chroot", workDir, "--user", "65534", "--group", "65534",
      "--rw", "--cwd", "/"] ++ w.mountArgs ["/lib", "/lib64", "/usr", "/bin",
      "/etc/alternatives"] ++ w.mountArgs mounts ++ ["-T", "/dev", "-T", "/tmp",
      "--use_cgroupv2"])
    ["--rlimit_as", toString (max (memoryBytes / 1024 / 1024) 1).toNat, "--cgroup_pids_max",
      toString pids, "--rlimit_stack", "64"]
    (["--seccomp_string", seccomp] ++ (if mode = .log then ["--seccomp_log"] else []) ++
      ["--", "/usr/bin/env", "-i", "PATH=/usr/bin:/bin:/usr/sbin:/sbin", "HOME=/tmp",
        "TMPDIR=/tmp"] ++ command.map (pathInJail workDir)) wallSec memoryBytes
  simpa [wrapWithNsjail, List.append_assoc] using imposed

/-- The kill limits are those that the command of the stage asks for. -/
theorem runStage_imposes (workDir : String) (plan : RuntimeExecutionPlan)
    (dir : PreparedRuntimeCaseDir) :
    (killLimits payload.limits plan.executionBackend).ImposedBy
      (w.buildRunStage workDir plan dir payload).command := by
  cases backend : plan.executionBackend with
  | nsjailNative =>
    simp only [buildRunStage, backend, killLimits]
    exact wrapWithNsjail_imposes ..
  | wasmWasi =>
    simp only [buildRunStage, backend, killLimits, wrapDirectCommand]
    exact @KillLimits.ImposedBy.direct
      ["/usr/bin/prlimit", "--cpu=" ++ toString (runTimeLimitSec payload.limits).toNat] ..
  | nsjailWasm =>
    simp only [buildRunStage, backend, killLimits]
    exact wrapWithNsjail_imposes ..

theorem buildRunStage_stdoutPath (workDir : String) (plan : RuntimeExecutionPlan)
    (dir : PreparedRuntimeCaseDir) :
    (w.buildRunStage workDir plan dir payload).stdoutPath = dir.outputPath := rfl

theorem buildRunStage_stderrPath (workDir : String) (plan : RuntimeExecutionPlan)
    (dir : PreparedRuntimeCaseDir) :
    (w.buildRunStage workDir plan dir payload).stderrPath = dir.stderrPath := rfl

/-- What a run may find and leave behind: a run that exits by itself stayed below the kill
limits, the answer files are the ones that were prepared, and what is known of the output of
a process is what stands in its files. -/
structure Realistic (payload : OjJudgeTask) (a : PreparedRuntimeArtifacts) (env : ExecutionEnv) :
    Prop where
  allowed : ∀ stage ∈ a.runStages, ∀ report, env.wait stage = .ok report →
    (killLimits payload.limits payload.sandboxKind.executionBackend).Allows report
  answers : ∀ testcase ∈ payload.testcases,
    env.readToString (caseDir a.workDir testcase).answerPath = some testcase.expectedOutput
  stdout : ∀ stage ∈ a.runStages, ∀ report, env.wait stage = .ok report →
    report.stdout = env.readToString stage.stdoutPath ∧
      ∀ text ∈ report.stdout, report.stdoutSizeBytes.toNat = text.utf8ByteSize
  stderr : ∀ stage ∈ a.runStages, ∀ report, env.wait stage = .ok report →
    report.stderr = env.readToString stage.stderrPath ∧
      ∀ text ∈ report.stderr, report.stderrSizeBytes.toNat = text.utf8ByteSize

/-- The runs of the cases that are reported as accepted were within their limits. -/
def AcceptedWithinLimits (env : ExecutionEnv) (a : PreparedRuntimeArtifacts)
    (outcome : RuntimeExecutionOutcome) : Prop :=
  ∀ item ∈ a.cases.zip a.runStages, ∀ result ∈ outcome.cases,
    result.caseNo = item.1.caseNo → result.status = .accepted →
      ∀ report, env.wait item.2 = .ok report → WithinLimits item.2 report

/-- No output is accepted for the first test case of a task. -/
structure NeverAccepted (std : Stdlib) (payload : OjJudgeTask) : Prop where
  validated : payload.judgeConfig.any (·.judgeMethod = .spj) = false
  rejects : ∀ first ∈ payload.testcases.head?, ∀ text, CanBeOutput text →
    std.validateOutput text first.expectedOutput payload.judgeConfig = .wrongAnswer

section Overstay

/-- A process that exits with code zero just when its time limit is reached. -/
def overstay (payload : OjJudgeTask) (text : String) : ProcessReport where
  exitCode := some 0
  signal := none
  durationMs := payload.limits.timeLimitMs.toNat
  memoryUsedKb := 0
  stdout := some text
  stderr := some text
  stdoutSizeBytes := .ofNat text.utf8ByteSize
  stderrSizeBytes := .ofNat text.utf8ByteSize

/-- Every process overstays, and leaves the same text in every file that it writes. -/
def overstayEnv (workDir : String) (payload : OjJudgeTask) (text : String) : ExecutionEnv where
  createFile := fun _ => .ok ()
  openFile := fun _ => .ok ()
  spawn := fun _ => .ok ()
  wait := fun _ => .ok (overstay payload text)
  readToString := fun path =>
    match payload.testcases.find? fun testcase =>
      (caseDir workDir testcase).answerPath == path with
    | some testcase => some testcase.expectedOutput
    | none => some text

variable {workDir text : String} {stage : RuntimePreparedStage}

theorem overstay_answer (distinct : (payload.testcases.map (·.caseNo)).Nodup)
    {testcase : RuntimeTestcase} (mem : testcase ∈ payload.testcases) :
    (overstayEnv workDir payload text).readToString (caseDir workDir testcase).answerPath =
      some testcase.expectedOutput := by
  have paths : (payload.testcases.map fun x => (caseDir workDir x).answerPath).Nodup := by
    rw [List.Nodup, List.pairwise_map] at distinct ⊢
    exact distinct.imp fun other same => other (answerPath_injective same)
  simp only [overstayEnv]
  rw [find?_of_nodup paths mem]

theorem overstay_read {path : String}
    (other : ∀ testcase, path ≠ (caseDir workDir testcase).answerPath) :
    (overstayEnv workDir payload text).readToString path = some text := by
  have missing : payload.testcases.find?
      (fun testcase => (caseDir workDir testcase).answerPath == path) = none := by
    rw [List.find?_eq_none]
    intro testcase _
    simpa using (other testcase).symm
  simp only [overstayEnv]
  rw [missing]

/-- Every stage succeeds. -/
theorem overstay_stage (std : Stdlib) (payload : OjJudgeTask) (workDir : String)
    (possible : CanBeOutput text) (command : stage.command ≠ []) :
    ∃ outcome, executeStage std (overstayEnv workDir payload text) stage = .ok outcome ∧
      outcome.status = .succeeded ∧ outcome.exitCode = some 0 := by
  obtain ⟨excerpt, cut⟩ := Option.isSome_iff_exists.1 possible.2
  have nonempty : ¬ stage.command.isEmpty := by simpa using command
  have opened : openStageFiles (overstayEnv workDir payload text) stage = .ok () := by
    cases input : stage.stdinPath <;>
      simp [openStageFiles, input, overstayEnv, reportFailure, bind, Except.bind, pure, Except.pure]
  refine ⟨stageOutcome std stage (overstay payload text) excerpt excerpt, ?_, rfl, rfl⟩
  rw [executeStage, if_neg nonempty, opened]
  simp [overstayEnv, overstay, reportFailure, orPanic, cut, bind, Except.bind, pure, Except.pure]

theorem toNat_size (possible : CanBeOutput text) :
    (UInt64.ofNat text.utf8ByteSize).toNat = text.utf8ByteSize := by
  have small := possible.1
  rw [UInt64.toNat_ofNat']
  omega

/-- The wall clock limit leaves at least a second of slack. -/
theorem le_wallSec (limits : RuntimeLimits) :
    limits.timeLimitMs.toNat + 1000 ≤ (runTimeLimitSec limits).toNat * 1000 := by
  have bound := limits.timeLimitMs.toNat_lt
  unfold runTimeLimitSec
  have max_def : ∀ x y : UInt64, max x y = if x ≤ y then y else x := fun _ _ => rfl
  rw [max_def]
  split_ifs with whole small small <;>
    simp only [UInt64.le_iff_toNat_le, UInt64.toNat_add, UInt64.toNat_div, UInt64.reduceToNat,
      ← UInt64.toNat_inj, UInt64.toNat_mod] at * <;> omega

/-- Overstaying is realistic. -/
theorem overstay_realistic (prepared : w.Prepared payload a) (possible : CanBeOutput text) :
    Realistic payload a (overstayEnv a.workDir payload text) := by
  have distinct := (validateOjTask_eq_ok.1 prepared.validated).distinct
  obtain ⟨-, executionId, taskId, plan, spj, rfl, backend, -⟩ := prepared
  have size := toNat_size possible
  have fits : UInt64.ofNat text.utf8ByteSize ≤ 32 * 1024 * 1024 := by
    rw [UInt64.le_iff_toNat_le, size]
    exact possible.1
  have sized : ∀ content ∈ some text,
      (UInt64.ofNat text.utf8ByteSize).toNat = content.utf8ByteSize := by
    rintro _ ⟨⟩
    exact size
  constructor
  · rintro stage - _ ⟨⟩
    have wall := le_wallSec payload.limits
    exact ⟨fun _ => by simp only [overstay, killLimits]; omega, fun _ => by simp [overstay],
      fun _ => fits, fun _ => fits⟩
  · intro testcase mem
    exact overstay_answer distinct mem
  · intro stage mem _ waited
    cases waited
    obtain ⟨dir, dirs, rfl⟩ := List.mem_map.1 mem
    obtain ⟨testcase, -, rfl⟩ := List.mem_map.1 dirs
    rw [artifacts_workDir, buildRunStage_stdoutPath,
      overstay_read fun _ => outputPath_ne_answerPath]
    exact ⟨rfl, sized⟩
  · intro stage mem _ waited
    cases waited
    obtain ⟨dir, dirs, rfl⟩ := List.mem_map.1 mem
    obtain ⟨testcase, -, rfl⟩ := List.mem_map.1 dirs
    rw [artifacts_workDir, buildRunStage_stderrPath,
      overstay_read fun _ => stderrPath_ne_answerPath]
    exact ⟨rfl, sized⟩

end Overstay

/-- When every stage can be run, the loop keeps what it has and ends. -/
theorem runCases_total {stages : List RuntimePreparedStage}
    (total : ∀ stage ∈ stages, ∃ result, w.runCase std env a stage = .ok result)
    (earlier : List RuntimeCaseOutcome) :
    ∃ results status, w.runCases std env a earlier stages = .ok (results, status) ∧
      earlier <+: results := by
  induction stages generalizing earlier with
  | nil => exact ⟨earlier, _, rfl, List.prefix_rfl⟩
  | cons stage rest ih =>
    rw [List.forall_mem_cons] at total
    obtain ⟨⟨result, ran⟩, later⟩ := total
    simp only [runCases, ran]
    by_cases accepted : result.status = .accepted
    · obtain ⟨results, status, run, longer⟩ := ih later (earlier ++ [result])
      refine ⟨results, status, ?_, (List.prefix_append _ _).trans longer⟩
      simpa [bind, Except.bind, accepted] using run
    · refine ⟨earlier ++ [result], .failed, ?_, List.prefix_append _ _⟩
      simp [bind, Except.bind, accepted, pure, Except.pure]

/-- When a case is reported as accepted, the first case was. -/
theorem first_accepted (wf : a.WellFormed) {outcome : RuntimeExecutionOutcome}
    (run : w.execute std env a = .ok outcome) {result : RuntimeCaseOutcome}
    (mem : result ∈ outcome.cases) (accepted : result.status = .accepted) :
    ∀ item ∈ (a.cases.zip a.runStages).head?, w.CaseAccepted std env a item := by
  intro item first
  obtain ⟨-, ⟨-, all, -⟩ | ⟨-, failure, shown, failed⟩⟩ := execute_ok wf run
  · exact (List.forall₂_iff_zip.1 all.cases).2 (List.mem_of_head? first)
  · generalize reached : outcome.cases.map (·.caseNo) = numbers at failed
    cases shown with
    | compile _ _ _ none => simp [none] at mem
    | judgeCompile _ _ none => simp [none] at mem
    | @case good bad _ _ cases _ rejected =>
      generalize kind : Failure.case bad.status = failure at failed
      cases failed with
      | compile => cases kind
      | judgeCompile => cases kind
      | @case before after _ _ _ _ split earlier _ _ =>
        cases before with
        | nil =>
          -- The only case that is reported is the one that failed.
          rw [cases] at mem reached
          obtain rfl : good = [] := by
            have lengths := congrArg List.length reached
            simpa using lengths
          obtain rfl : result = bad := by simpa using mem
          exact absurd accepted rejected
        | cons head rest =>
          obtain rfl : head = item := by simpa [split] using first
          exact earlier head (by simp)

/-- The commands that are run for prepared artifacts are not empty. -/
theorem command_ne_nil (prepared : w.Prepared payload a) :
    (∀ stage ∈ a.compileStage, stage.command ≠ []) ∧
    (∀ stage ∈ a.spjArtifacts.bind (·.compileStage), stage.command ≠ []) ∧
    ∀ stage ∈ a.runStages, stage.command ≠ [] := by
  obtain ⟨-, executionId, taskId, plan, spj, rfl, -, -, judgeCompile⟩ := prepared
  refine ⟨?_, judgeCompile, ?_⟩
  · intro stage mem
    obtain ⟨-, rfl⟩ : plan.compileRequired = true ∧ w.buildCompileStage _ plan = stage := by
      simpa [artifacts] using mem
    cases backend : plan.executionBackend <;>
      simp [buildCompileStage, backend, wrapWithNsjail, wrapDirectCommand]
  · intro stage mem
    obtain ⟨dir, -, rfl⟩ := List.mem_map.1 mem
    cases backend : plan.executionBackend <;>
      simp [buildRunStage, backend, wrapWithNsjail, wrapDirectCommand]

theorem overstay_compile (std : Stdlib) (payload : OjJudgeTask) (workDir : String)
    {text : String} {stage : Option RuntimePreparedStage} (possible : CanBeOutput text)
    (command : ∀ prepared ∈ stage, prepared.command ≠ []) :
    ∃ outcome, runCompile std (overstayEnv workDir payload text) stage = .ok outcome ∧
      stageFailed outcome = false := by
  cases stage with
  | none => exact ⟨none, rfl, rfl⟩
  | some prepared =>
    obtain ⟨outcome, ran, success, -⟩ :=
      overstay_stage std payload workDir possible (command prepared rfl)
    refine ⟨some outcome, ?_, by simp [stageFailed, success]⟩
    simp only [runCompile, ran]
    rfl

/-- A special judge that overstays accepts. -/
theorem overstay_special (std : Stdlib) (payload : OjJudgeTask) {text : String}
    (possible : CanBeOutput text) (dir : PreparedRuntimeCaseDir)
    (special : a.spjArtifacts.isSome) :
    w.JudgeAccepts std (overstayEnv a.workDir payload text) a dir := by
  obtain ⟨spj, found⟩ := Option.isSome_iff_exists.1 special
  have command : (w.spjCaseStage a spj dir).command ≠ [] := by
    simp [spjCaseStage, wrapWithNsjail]
  obtain ⟨outcome, ran, -, zero⟩ := overstay_stage std payload a.workDir possible command
  simp only [JudgeAccepts, found]
  exact ⟨outcome, ran, zero⟩

/-- Every case can be judged. -/
theorem overstay_judge (std : Stdlib) (payload : OjJudgeTask) (a : PreparedRuntimeArtifacts)
    {text : String} (possible : CanBeOutput text) (dir : PreparedRuntimeCaseDir) :
    ∃ status, w.judgeCase std (overstayEnv a.workDir payload text) a dir = .ok status := by
  cases special : a.spjArtifacts with
  | some spj =>
    exact ⟨_, judgeCase_accepted.2 (overstay_special std payload possible dir (by simp [special]))⟩
  | none =>
    have read : ∀ path, ∃ content,
        (overstayEnv a.workDir payload text).readToString path = some content := by
      intro path
      simp only [overstayEnv]
      split <;> exact ⟨_, rfl⟩
    obtain ⟨output, readOutput⟩ := read dir.outputPath
    obtain ⟨answer, readAnswer⟩ := read dir.answerPath
    simp only [judgeCase, special, readFile_eq_ok.2 readOutput, readFile_eq_ok.2 readAnswer]
    exact ⟨_, rfl⟩

/-- A case that overstays is judged as if it had not. -/
theorem overstay_case (std : Stdlib) (payload : OjJudgeTask) {text : String}
    (possible : CanBeOutput text) (wf : a.WellFormed)
    {item : PreparedRuntimeCaseDir × RuntimePreparedStage} (mem : item ∈ a.cases.zip a.runStages)
    (command : item.2.command ≠ []) :
    ∃ result, w.runCase std (overstayEnv a.workDir payload text) a item.2 = .ok result ∧
      result.caseNo = item.1.caseNo ∧
      (w.JudgeAccepts std (overstayEnv a.workDir payload text) a item.1 →
        result.status = .accepted) := by
  obtain ⟨dirs, own⟩ := runsCase_of_items wf mem
  obtain ⟨outcome, ran, success, -⟩ := overstay_stage std payload a.workDir possible command
  obtain ⟨status, judged⟩ := overstay_judge (w := w) std payload a possible item.1
  refine ⟨caseOutcome item.1.caseNo item.2 outcome status, ?_, rfl, ?_⟩
  · simp only [runCase, ran, own.1, caseNoOfStage_name, findCase_own wf.distinct dirs]
    simp [bind, Except.bind, pure, Except.pure, caseStatus, success, judged]
  · intro accepts
    rw [← judgeCase_accepted, judged] at accepts
    exact Except.ok.inj accepts

/-- When the first case is accepted while it overstays, an execution reports it so. -/
theorem overstay_accepted (prepared : w.Prepared payload a) {text : String}
    (possible : CanBeOutput text) {item : PreparedRuntimeCaseDir × RuntimePreparedStage}
    (first : item ∈ (a.cases.zip a.runStages).head?)
    (accepts : w.JudgeAccepts std (overstayEnv a.workDir payload text) a item.1) :
    ∃ outcome, w.execute std (overstayEnv a.workDir payload text) a = .ok outcome ∧
      ∃ result ∈ outcome.cases, result.caseNo = item.1.caseNo ∧ result.status = .accepted := by
  have wf := prepared.wellFormed
  obtain ⟨compileCommand, judgeCommand, runCommand⟩ := command_ne_nil prepared
  obtain ⟨compile, compiled, fine⟩ :=
    overstay_compile std payload a.workDir possible compileCommand
  obtain ⟨judgeCompile, judgeCompiled, judgeFine⟩ :=
    overstay_compile std payload a.workDir possible judgeCommand
  have total : ∀ item ∈ a.cases.zip a.runStages, ∃ result,
      w.runCase std (overstayEnv a.workDir payload text) a item.2 = .ok result ∧
      result.caseNo = item.1.caseNo ∧
      (w.JudgeAccepts std (overstayEnv a.workDir payload text) a item.1 →
        result.status = .accepted) :=
    fun item mem => overstay_case std payload possible wf mem
      (runCommand _ (List.of_mem_zip mem).2)
  obtain ⟨rest, items⟩ := List.head?_eq_some_iff.1 first
  have stages : a.runStages = item.2 :: rest.map (·.2) := by
    rw [← stages_of_items wf, items]
    rfl
  obtain ⟨result, ran, number, accepted⟩ := total item (List.mem_of_head? first)
  obtain ⟨results, status, run, longer⟩ : ∃ results status,
      w.runCases std (overstayEnv a.workDir payload text) a [result] (rest.map (·.2)) =
        .ok (results, status) ∧ [result] <+: results := by
    refine runCases_total ?_ [result]
    intro stage mem
    obtain ⟨later, inRest, rfl⟩ := List.mem_map.1 mem
    obtain ⟨result, ran, -⟩ := total later (items ▸ List.mem_cons_of_mem _ inRest)
    exact ⟨result, ran⟩
  refine ⟨⟨compile, judgeCompile, results, status⟩, ?_, result, longer.subset (by simp), number,
    accepted accepts⟩
  simp [execute, compiled, fine, judgeCompiled, judgeFine, stages, runCases, ran,
    accepted accepts, run, bind, Except.bind, pure, Except.pure]

/-- The run and the judgement behind an accepted case without special judge. -/
theorem output_of_accepted {item : PreparedRuntimeCaseDir × RuntimePreparedStage}
    (realistic : Realistic payload a env) (mem : item.2 ∈ a.runStages)
    (output : item.2.stdoutPath = item.1.outputPath) (plain : a.spjArtifacts = none)
    (accepted : w.CaseAccepted std env a item) :
    ∃ text answer, CanBeOutput text ∧ env.readToString item.1.answerPath = some answer ∧
      std.validateOutput text answer a.judgeConfig = .accepted := by
  obtain ⟨⟨outcome, ran, success⟩, judged⟩ := accepted
  obtain ⟨report, stdoutExcerpt, stderrExcerpt, waited, cut, -, rfl⟩ := executeStage_ok ran
  have zero : report.exitCode = some 0 := by
    by_contra other
    simp [stageOutcome, other] at success
  simp only [JudgeAccepts, plain] at judged
  obtain ⟨text, answer, readOutput, readAnswer, verdict⟩ := judged
  obtain ⟨stdout, size⟩ := realistic.stdout item.2 mem report waited
  rw [output, readOutput] at stdout
  have fits := (realistic.allowed item.2 mem report waited).stdout zero
  rw [UInt64.le_iff_toNat_le, size text stdout] at fits
  exact ⟨text, answer, ⟨fits, by rw [← stdout, cut]; rfl⟩, readAnswer, verdict⟩

variable {ulid taskId : String} {σ : Type} {H : Handler σ FsCmd (fun _ => Bool)} {s t : σ}

/-- What a task and the artifacts prepared for it have in common. -/
theorem Prepared.first (prepared : w.Prepared payload a) : ∃ first plan,
    first ∈ payload.testcases.head? ∧ a.judgeConfig = payload.judgeConfig ∧
    (a.spjArtifacts.isSome ↔ payload.judgeConfig.any (·.judgeMethod = .spj)) ∧
    (caseDir a.workDir first, w.buildRunStage a.workDir plan (caseDir a.workDir first) payload) ∈
      (a.cases.zip a.runStages).head? := by
  have nonempty := (validateOjTask_eq_ok.1 prepared.validated).testcases
  obtain ⟨first, others, testcases⟩ := List.exists_cons_of_ne_nil nonempty
  obtain ⟨-, executionId, taskId, plan, spj, rfl, -, special, -⟩ := prepared
  exact ⟨first, plan, by simp [testcases], rfl, special, by simp [artifacts, testcases]⟩

/-- Accepted cases respect their limits, whatever the processes do that the kill limits allow,
if and only if no output at all is accepted for the first test case of the task. -/
theorem accepted_within_limits_iff
    (prepared : Exec H (w.prepareOjTask ulid taskId payload) s (.ok a) t) :
    (∀ env outcome, Realistic payload a env → w.execute std env a = .ok outcome →
        AcceptedWithinLimits env a outcome) ↔ NeverAccepted std payload := by
  have ready := prepared.returns (prepareOjTask_returns ulid taskId)
  obtain ⟨first, plan, head, config, special, item⟩ := ready.first
  constructor
  · intro respected
    -- If a judge accepted the first case while it overstays, the case would be reported so.
    have breaks : ∀ text, CanBeOutput text → ¬ w.JudgeAccepts std
        (overstayEnv a.workDir payload text) a (caseDir a.workDir first) := by
      intro text possible accepts
      obtain ⟨outcome, run, result, mem, number, accepted⟩ :=
        overstay_accepted ready possible item accepts
      have within := respected _ outcome (overstay_realistic ready possible) run _
        (List.mem_of_head? item) result mem number accepted _ rfl
      exact absurd within.time (lt_irrefl _)
    have empty : CanBeOutput "" := ⟨by decide, by decide⟩
    have plain : ¬ a.spjArtifacts.isSome :=
      fun some => breaks "" empty (overstay_special std payload empty _ some)
    refine ⟨by simpa using special.not.1 plain, ?_⟩
    rintro _ same text possible
    obtain rfl := Option.mem_unique head same
    cases verdict : std.validateOutput text first.expectedOutput payload.judgeConfig with
    | wrongAnswer => rfl
    | accepted =>
      refine absurd ?_ (breaks text possible)
      have distinct := (validateOjTask_eq_ok.1 ready.validated).distinct
      have none : a.spjArtifacts = none := by simpa using plain
      simp only [JudgeAccepts, none]
      exact ⟨text, _, overstay_read fun _ => outputPath_ne_answerPath,
        overstay_answer distinct (List.mem_of_head? head), by rw [config, verdict]⟩
  · rintro never env outcome realistic run other - result mem - accepted - -
    have firstAccepted := first_accepted ready.wellFormed run mem accepted _ item
    have plain : a.spjArtifacts = none := by
      have none := special.not.2 (by simp [never.validated])
      simpa using none
    obtain ⟨text, answer, possible, readAnswer, verdict⟩ := output_of_accepted realistic
      (List.of_mem_zip (List.mem_of_head? item)).2 (buildRunStage_stdoutPath ..) plain firstAccepted
    have intact := realistic.answers first (List.mem_of_head? head)
    rw [readAnswer] at intact
    obtain rfl := Option.some.inj intact
    have rejected := never.rejects first head text possible
    rw [config, rejected] at verdict
    cases verdict

theorem accepted_within_limits_of_sample : ∃ a,
    (sampleWorker.prepareOjTask "01" "task-1" (sampleTask "task-1" "judge" 3).judge).eval
      granted () = (.ok a, ()) ∧
    ((∀ env outcome, Realistic (sampleTask "task-1" "judge" 3).judge a env →
        sampleWorker.execute sampleStdlib env a = .ok outcome →
        AcceptedWithinLimits env a outcome) ↔
      NeverAccepted sampleStdlib (sampleTask "task-1" "judge" 3).judge) := by
  refine ⟨_, rfl, ?_⟩
  have prepared : Exec (fun _ _ _ _ => True) (sampleWorker.prepareOjTask "01" "task-1"
      (sampleTask "task-1" "judge" 3).judge) () (.ok _) () :=
    Exec.of_eval (h := granted) (v := id) (fun _ _ => trivial) _ ()
  exact accepted_within_limits_iff prepared

/-- A run of a second and a half is accepted under a time limit of one second. -/
theorem sample_overstays : ∃ a outcome,
    (sampleWorker.prepareOjTask "01" "task-1" (sampleTask "task-1" "judge" 3).judge).eval
      granted () = (.ok a, ()) ∧
    Realistic (sampleTask "task-1" "judge" 3).judge a (sampleEnv (exited 0 1500)) ∧
    sampleWorker.execute sampleStdlib (sampleEnv (exited 0 1500)) a = .ok outcome ∧
    ¬ AcceptedWithinLimits (sampleEnv (exited 0 1500)) a outcome := by
  refine ⟨_, _, rfl, ?_, rfl, ?_⟩
  · constructor
    · rintro stage - _ ⟨⟩
      refine ⟨by decide, ?_, by decide, by decide⟩
      intro exited bytes given
      cases given
      decide
    · decide
    · rintro stage - _ ⟨⟩
      exact ⟨rfl, by decide⟩
    · rintro stage - _ ⟨⟩
      exact ⟨rfl, by decide⟩
  · intro within
    have respected := within _ (List.mem_singleton.2 rfl) _ (List.mem_singleton.2 rfl)
      (by decide) (by decide +kernel) _ rfl
    exact absurd respected.time (by decide)

end RuntimeWorker

end NexusCore.Runtime
