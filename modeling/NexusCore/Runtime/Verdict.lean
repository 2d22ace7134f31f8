import Mathlib.Data.List.Forall2
import NexusCore.Lib.Keyed
import NexusCore.Runtime.Execute

/-!
# What an execution decides

1. Artifacts that `prepare_oj_task` returns have one run stage for each case, named after
   the case number, and the case numbers are distinct.
2. The name of a run stage gives its case number back, so the worker finds the directory
   that belongs to the stage.
3. The loop over the run stages stops at the first case that is not accepted.
-/

namespace NexusCore.Runtime

open NexusCore.Lib

section Prepared

/-- A run stage and the directory of the case it runs. -/
def RunsCase (dir : PreparedRuntimeCaseDir) (stage : RuntimePreparedStage) : Prop :=
  stage.stageName = "run_case_" ++ toString dir.caseNo.toNat ∧ stage.score = dir.score

/-- One run stage for each case, in order, and distinct case numbers. -/
structure PreparedRuntimeArtifacts.WellFormed (a : PreparedRuntimeArtifacts) : Prop where
  stages : List.Forall₂ RunsCase a.cases a.runStages
  distinct : (a.cases.map (·.caseNo)).Nodup

theorem firstDuplicate_eq_none {testcases : List RuntimeTestcase} {seen : List UInt32} :
    validateOjTask.firstDuplicate seen testcases = none ↔
      (testcases.map (·.caseNo)).Nodup ∧ ∀ testcase ∈ testcases, testcase.caseNo ∉ seen := by
  induction testcases generalizing seen with
  | nil => simp [validateOjTask.firstDuplicate]
  | cons testcase rest ih =>
    simp only [validateOjTask.firstDuplicate, List.map_cons, List.nodup_cons, List.forall_mem_cons]
    by_cases old : testcase.caseNo ∈ seen
    · simp [old]
    · rw [if_neg old, ih]
      constructor
      · rintro ⟨distinct, unseen⟩
        refine ⟨⟨?_, distinct⟩, old, fun other mem again => unseen other mem (by simp [again])⟩
        intro again
        obtain ⟨other, mem, same⟩ := List.mem_map.1 again
        exact unseen other mem (by simp [same])
      · rintro ⟨⟨fresh, distinct⟩, -, unseen⟩
        refine ⟨distinct, fun other mem again => ?_⟩
        rcases List.mem_cons.1 again with same | again
        · exact fresh (same ▸ List.mem_map_of_mem mem)
        · exact unseen other mem again

/-- What the validation of a task demands. -/
structure OjJudgeTask.Valid (payload : OjJudgeTask) : Prop where
  source : (Text.trim payload.sourceCode).isEmpty = false
  time : payload.limits.timeLimitMs ≠ 0
  memory : payload.limits.memoryLimitKb ≠ 0
  testcases : payload.testcases ≠ []
  distinct : (payload.testcases.map (·.caseNo)).Nodup
  signature : payload.judgeMode = .functional →
    (payload.judgeConfig.bind (·.functionSignature)).isSome
  sandbox : payload.sandboxKind ≠ .nsjail → payload.judgeConfig.any (·.judgeMethod = .spj) = false

theorem validateOjTask_eq_ok {payload : OjJudgeTask} :
    validateOjTask payload = .ok () ↔ payload.Valid := by
  constructor
  · intro valid
    unfold validateOjTask at valid
    split at valid
    · cases valid
    · rename_i source
      split at valid
      · cases valid
      · rename_i time
        split at valid
        · cases valid
        · rename_i memory
          split at valid
          · cases valid
          · rename_i testcases
            split at valid
            · cases valid
            · rename_i noDuplicate
              split_ifs at valid with signature sandbox
              refine ⟨by simpa using source, time, memory, by simpa using testcases,
                (firstDuplicate_eq_none.1 noDuplicate).1, ?_, by simpa using sandbox⟩
              intro functional
              by_contra missing
              exact signature ⟨functional, by simpa only [Option.not_isSome_iff_eq_none,
                Option.isNone_iff_eq_none] using missing⟩
  · rintro ⟨source, time, memory, testcases, distinct, signature, sandbox⟩
    have noDuplicate : validateOjTask.firstDuplicate [] payload.testcases = none :=
      firstDuplicate_eq_none.2 ⟨distinct, by simp⟩
    have hasSignature : ¬ (payload.judgeMode = .functional ∧
        (payload.judgeConfig.bind (·.functionSignature)).isNone) := by
      rintro ⟨functional, missing⟩
      rw [Option.isNone_iff_eq_none] at missing
      simpa [missing] using signature functional
    have hasSandbox : ¬ (payload.sandboxKind ≠ .nsjail ∧
        payload.judgeConfig.any (·.judgeMethod = .spj)) := by
      rintro ⟨other, special⟩
      simp [sandbox other] at special
    have nonempty : ¬ payload.testcases.isEmpty := by simpa using testcases
    rw [validateOjTask, if_neg (by simp [source]), if_neg time, if_neg memory, if_neg nonempty,
      noDuplicate]
    simp only
    rw [if_neg hasSignature, if_neg hasSandbox]

namespace RuntimeWorker

variable {w : RuntimeWorker} {payload : OjJudgeTask} {a : PreparedRuntimeArtifacts}

/-- What is known of artifacts that were prepared for a task. -/
structure Prepared (w : RuntimeWorker) (payload : OjJudgeTask) (a : PreparedRuntimeArtifacts) :
    Prop where
  validated : validateOjTask payload = .ok ()
  shape : ∃ executionId taskId plan spj, a = w.artifacts executionId taskId payload plan
    (payload.testcases.map (caseDir (Path.join w.workRoot executionId))) spj ∧
    plan.executionBackend = payload.sandboxKind.executionBackend ∧
    (spj.isSome ↔ payload.judgeConfig.any (·.judgeMethod = .spj)) ∧
    ∀ stage ∈ spj.bind (·.compileStage), stage.command ≠ []

theorem prepareTestcaseDirs_returns (workDir : String) (testcases : List RuntimeTestcase) :
    (prepareTestcaseDirs workDir testcases).Returns (· = testcases.map (caseDir workDir)) := by
  induction testcases with
  | nil => exact .ret rfl
  | cons testcase rest ih =>
    have first : (prepareTestcaseDir workDir testcase).Returns (· = caseDir workDir testcase) := by
      simp only [prepareTestcaseDir, Prog.bind_def]
      iterate 5 refine (Prog.returns_true _).bind fun _ _ => ?_
      exact .ret rfl
    simp only [prepareTestcaseDirs, Prog.bind_def]
    refine first.bind ?_
    rintro _ rfl
    refine ih.bind ?_
    rintro _ rfl
    exact .ret rfl

theorem buildPlan_backend {toolchain : Host.LanguageToolchain} {plan : RuntimeExecutionPlan}
    (h : buildPlan toolchain payload = .ok plan) :
    plan.executionBackend = payload.sandboxKind.executionBackend := by
  unfold buildPlan at h
  cases recipe : toolchain payload payload.sandboxKind with
  | error e => simp [recipe, bind, Except.bind] at h
  | ok r =>
    obtain rfl : payload.sandboxKind.finalizePlan r = plan := by
      simpa [recipe, bind, Except.bind, pure, Except.pure] using h
    rfl

theorem buildSpjArtifacts_returns (workDir : String) (config : Option RuntimeJudgeConfig) :
    (w.buildSpjArtifacts workDir config).Returns fun spj =>
      (spj.isSome ↔ config.any (·.judgeMethod = .spj)) ∧
        ∀ stage ∈ spj.bind (·.compileStage), stage.command ≠ [] := by
  rcases config with _ | ⟨_ | _, validator, _ | spj, functionSignature⟩
  · exact .ret (by simp)
  · exact .ret (by simp)
  · exact .ret (by simp)
  · exact .fail
  · simp only [buildSpjArtifacts, Prog.bind_def]
    refine (Prog.returns_true _).bind fun spec _ => ?_
    refine (Prog.returns_true _).bind fun _ _ => ?_
    refine .ret ⟨by simp, ?_⟩
    intro stage mem
    obtain ⟨command, -, rfl⟩ := Option.map_eq_some_iff.1 mem
    simp [spjCompileStage, wrapWithNsjail]

theorem prepareOjTask_returns (ulid taskId : String) :
    (w.prepareOjTask ulid taskId payload).Returns (w.Prepared payload) := by
  simp only [prepareOjTask, Prog.bind_def]
  refine (Prog.returns_lift (P := fun _ => validateOjTask payload = .ok ()) fun _ h => h).bind ?_
  intro _ validated
  cases w.host.resolve payload.language with
  | none => exact .fail
  | some toolchain =>
    refine (Prog.returns_lift fun plan h => buildPlan_backend h).bind ?_
    intro plan backend
    refine (Prog.returns_true _).bind fun _ _ => ?_
    refine (Prog.returns_true _).bind fun _ _ => ?_
    refine (prepareTestcaseDirs_returns _ _).bind ?_
    rintro _ rfl
    refine (buildSpjArtifacts_returns _ _).bind ?_
    intro spj special
    refine (Prog.returns_true _).bind fun _ _ => ?_
    exact .ret ⟨validated, _, _, plan, spj, rfl, backend, special⟩

/-- A run stage that belongs to a test case: it reads the input file of the case and writes its
output file. -/
structure RunsTestcase (workDir : String) (testcase : RuntimeTestcase)
    (stage : RuntimePreparedStage) : Prop where
  named : stage.stageName = "run_case_" ++ toString testcase.caseNo.toNat
  score : stage.score = testcase.score
  stdin : stage.stdinPath = some (caseDir workDir testcase).inputPath
  stdout : stage.stdoutPath = (caseDir workDir testcase).outputPath

/-- The stages of a task: one run stage for each test case, the compile stage if the plan of
the task's language has one, and a special judge if the task asks for it. -/
structure StagesOf (w : RuntimeWorker) (payload : OjJudgeTask) (a : PreparedRuntimeArtifacts) :
    Prop where
  runs : List.Forall₂ (RunsTestcase a.workDir) payload.testcases a.runStages
  compile : ∃ toolchain plan, w.host.resolve payload.language = some toolchain ∧
    buildPlan toolchain payload = .ok plan ∧
    a.compileStage =
      if plan.compileRequired then some (w.buildCompileStage a.workDir plan) else none
  judge : a.spjArtifacts.isSome ↔ payload.judgeConfig.any (·.judgeMethod = .spj)
  config : a.judgeConfig = payload.judgeConfig

theorem runsTestcase_buildRunStage (workDir : String) (plan : RuntimeExecutionPlan)
    (testcase : RuntimeTestcase) : RunsTestcase workDir testcase
      (w.buildRunStage workDir plan (caseDir workDir testcase) payload) := by
  constructor <;> simp only [buildRunStage, caseDir]

theorem prepareOjTask_stages (ulid taskId : String) :
    (w.prepareOjTask ulid taskId payload).Returns (w.StagesOf payload) := by
  simp only [prepareOjTask, Prog.bind_def]
  refine (Prog.returns_true _).bind fun _ _ => ?_
  cases resolved : w.host.resolve payload.language with
  | none => exact .fail
  | some toolchain =>
    refine (Prog.returns_lift fun plan built => built).bind ?_
    intro plan built
    refine (Prog.returns_true _).bind fun _ _ => ?_
    refine (Prog.returns_true _).bind fun _ _ => ?_
    refine (prepareTestcaseDirs_returns _ _).bind ?_
    rintro _ rfl
    refine (buildSpjArtifacts_returns _ _).bind ?_
    intro spj special
    refine (Prog.returns_true _).bind fun _ _ => ?_
    refine .ret ⟨?_, ⟨toolchain, plan, resolved, built, rfl⟩, special.1, rfl⟩
    simp only [artifacts, List.map_map]
    rw [List.forall₂_map_right_iff, List.forall₂_same]
    intro testcase _
    exact runsTestcase_buildRunStage _ plan testcase

theorem Prepared.wellFormed (prepared : w.Prepared payload a) : a.WellFormed := by
  obtain ⟨validated, executionId, taskId, plan, spj, rfl, -, -⟩ := prepared
  constructor
  · simp only [artifacts]
    rw [List.forall₂_map_right_iff, List.forall₂_same]
    intro dir _
    exact ⟨rfl, rfl⟩
  · simpa [artifacts, caseDir, Function.comp_def] using (validateOjTask_eq_ok.1 validated).distinct

end RuntimeWorker

end Prepared

section Execution

variable {std : Stdlib} {env : ExecutionEnv} {stage : RuntimePreparedStage}
  {outcome : RuntimeStageOutcome}

theorem reportFailure_eq_ok {α : Type} {doing : String} {x : Except String α} {b : α} :
    reportFailure doing x = .ok b ↔ x = .ok b := by
  cases x <;> simp [reportFailure]

theorem orPanic_eq_ok {α : Type} {x : Option α} {b : α} : orPanic x = .ok b ↔ x = some b := by
  cases x <;> simp [orPanic]

/-- The outcome of a stage is that of the process that ran it. -/
theorem executeStage_ok (h : executeStage std env stage = .ok outcome) :
    ∃ report stdoutExcerpt stderrExcerpt, env.wait stage = .ok report ∧
      readExcerpt report.stdout = some stdoutExcerpt ∧
      readExcerpt report.stderr = some stderrExcerpt ∧
      outcome = stageOutcome std stage report stdoutExcerpt stderrExcerpt := by
  unfold executeStage at h
  split at h
  · cases h
  · simp only [bind_eq_ok, reportFailure_eq_ok, orPanic_eq_ok] at h
    obtain ⟨_, -, _, -, report, waited, stdoutExcerpt, stdout, stderrExcerpt, stderr, result⟩ := h
    cases result
    exact ⟨report, stdoutExcerpt, stderrExcerpt, waited, stdout, stderr, rfl⟩

/-- The number and score of a case, in the artifacts and in the outcome. -/
def PreparedRuntimeArtifacts.scores (a : PreparedRuntimeArtifacts) : List (UInt32 × UInt32) :=
  a.cases.map fun dir => (dir.caseNo, dir.score)

def RuntimeExecutionOutcome.scores (outcome : RuntimeExecutionOutcome) :
    List (UInt32 × UInt32) :=
  outcome.cases.map fun result => (result.caseNo, result.score)

namespace RuntimeWorker

variable (w : RuntimeWorker) (std : Stdlib) (env : ExecutionEnv)

/-- A stage that is run and exits with code zero. -/
def StageSucceeds (stage : RuntimePreparedStage) : Prop :=
  ∃ outcome, executeStage std env stage = .ok outcome ∧ outcome.status = .succeeded

/-- The output of a case is accepted: by the special judge, if there is one, and otherwise
against the answer file of the case itself. -/
def JudgeAccepts (a : PreparedRuntimeArtifacts) (dir : PreparedRuntimeCaseDir) : Prop :=
  match a.spjArtifacts with
  | some spj => ∃ outcome,
    executeStage std env (w.spjCaseStage a spj dir) = .ok outcome ∧ outcome.exitCode = some 0
  | none => ∃ output answer, env.readToString dir.outputPath = some output ∧
    env.readToString dir.answerPath = some answer ∧
    std.validateOutput output answer a.judgeConfig = .accepted

/-- A case whose own stage succeeds and whose own output is accepted. -/
def CaseAccepted (a : PreparedRuntimeArtifacts)
    (item : PreparedRuntimeCaseDir × RuntimePreparedStage) : Prop :=
  StageSucceeds std env item.2 ∧ w.JudgeAccepts std env a item.1

/-- The status of a case, judged in its own directory. -/
def JudgedAs (a : PreparedRuntimeArtifacts) (item : PreparedRuntimeCaseDir × RuntimePreparedStage)
    (status : RuntimeCaseFinalStatus) : Prop :=
  ∃ outcome, executeStage std env item.2 = .ok outcome ∧
    w.caseStatus std env a item.1 outcome = .ok status

/-- An outcome that reports a case under its own number and score. -/
def Reports (a : PreparedRuntimeArtifacts) (item : PreparedRuntimeCaseDir × RuntimePreparedStage)
    (result : RuntimeCaseOutcome) : Prop :=
  result.caseNo = item.1.caseNo ∧ result.score = item.1.score ∧
    w.JudgedAs std env a item result.status

variable {w std env} {a : PreparedRuntimeArtifacts} {dir : PreparedRuntimeCaseDir}
  {item : PreparedRuntimeCaseDir × RuntimePreparedStage}

theorem mapStageFailureToCaseStatus_ne (kind : Option RuntimeFailureKind) :
    mapStageFailureToCaseStatus kind ≠ .accepted ∧
      mapStageFailureToCaseStatus kind ≠ .wrongAnswer := by
  rcases kind with _ | kind
  · decide
  · cases kind <;> decide

theorem readFile_eq_ok {path content : String} :
    readFile env path = .ok content ↔ env.readToString path = some content := by
  unfold readFile
  split <;> simp_all

theorem judgeCase_accepted :
    w.judgeCase std env a dir = .ok .accepted ↔ w.JudgeAccepts std env a dir := by
  unfold judgeCase JudgeAccepts
  cases a.spjArtifacts with
  | some spj =>
    simp only [executeSpjCase, bind_eq_ok]
    refine exists_congr fun outcome => and_congr_right fun _ => ?_
    have failure := (mapStageFailureToCaseStatus_ne outcome.failureKind).1
    rcases outcome.exitCode with _ | code
    · simp [pure, Except.pure, failure]
    · by_cases zero : code = 0
      · simp [zero, pure, Except.pure]
      · by_cases one : code = 1
        · simp [one, pure, Except.pure]
        · simp [zero, one, pure, Except.pure, failure]
  | none =>
    simp only [bind_eq_ok, readFile_eq_ok]
    constructor
    · rintro ⟨output, readOutput, answer, readAnswer, judged⟩
      refine ⟨output, answer, readOutput, readAnswer, ?_⟩
      cases verdict : std.validateOutput output answer a.judgeConfig with
      | accepted => rfl
      | wrongAnswer => simp [verdict, pure, Except.pure] at judged
    · rintro ⟨output, answer, readOutput, readAnswer, verdict⟩
      exact ⟨output, readOutput, answer, readAnswer, by rw [verdict]; rfl⟩

/-- Being judged accepted is to run successfully and to be accepted by the judge. -/
theorem judgedAs_accepted : w.JudgedAs std env a item .accepted ↔ w.CaseAccepted std env a item := by
  unfold JudgedAs CaseAccepted StageSucceeds caseStatus
  constructor
  · rintro ⟨outcome, run, judged⟩
    by_cases success : outcome.status = .succeeded
    · rw [if_pos success] at judged
      exact ⟨⟨outcome, run, success⟩, judgeCase_accepted.1 judged⟩
    · rw [if_neg success] at judged
      exact absurd (Except.ok.inj judged) (mapStageFailureToCaseStatus_ne _).1
  · rintro ⟨⟨outcome, run, success⟩, judged⟩
    exact ⟨outcome, run, by rw [if_pos success]; exact judgeCase_accepted.2 judged⟩

theorem judgedAs_unique {x y : RuntimeCaseFinalStatus} (hx : w.JudgedAs std env a item x)
    (hy : w.JudgedAs std env a item y) : x = y := by
  obtain ⟨outcome, run, judged⟩ := hx
  obtain ⟨outcome', run', judged'⟩ := hy
  rw [run] at run'
  obtain rfl := Except.ok.inj run'
  rw [judged] at judged'
  exact Except.ok.inj judged'

/-- The name of a run stage gives the number of its case back. -/
@[simp] theorem caseNoOfStage_name (caseNo : UInt32) :
    caseNoOfStage ("run_case_" ++ toString caseNo.toNat) = caseNo := by
  simp [caseNoOfStage]

/-- With distinct numbers, a directory is found under its own number. -/
theorem findCase_own (distinct : (a.cases.map (·.caseNo)).Nodup) (mem : dir ∈ a.cases) :
    findCase a dir.caseNo = .ok dir := by
  have found : a.cases.find? (·.caseNo == dir.caseNo) = some dir := find?_of_nodup distinct mem
  simp [findCase, found]

/-- Running a stage reports the case that the stage belongs to. -/
theorem runCase_reports {result : RuntimeCaseOutcome} (distinct : (a.cases.map (·.caseNo)).Nodup)
    (mem : item.1 ∈ a.cases) (own : RunsCase item.1 item.2)
    (run : w.runCase std env a item.2 = .ok result) : w.Reports std env a item result := by
  simp only [runCase, own.1, caseNoOfStage_name, findCase_own distinct mem, bind_eq_ok] at run
  obtain ⟨outcome, ran, _, found, status, judged, built⟩ := run
  cases found
  cases built
  exact ⟨rfl, own.2, outcome, ran, judged⟩

/-- How the loop over the run stages ends: all cases are accepted, or the last one that is
reported is the first one that is not. -/
theorem runCases_ok (distinct : (a.cases.map (·.caseNo)).Nodup)
    {items : List (PreparedRuntimeCaseDir × RuntimePreparedStage)}
    (own : ∀ item ∈ items, item.1 ∈ a.cases ∧ RunsCase item.1 item.2)
    {earlier results : List RuntimeCaseOutcome} {status : RuntimeTaskLifecycleStatus}
    (run : w.runCases std env a earlier (items.map (·.2)) = .ok (results, status)) :
    (status = .completed ∧ ∃ good, results = earlier ++ good ∧
      List.Forall₂ (fun item result => w.Reports std env a item result ∧ result.status = .accepted)
        items good) ∨
    (status = .failed ∧ ∃ before item after good bad, items = before ++ item :: after ∧
      results = earlier ++ good ++ [bad] ∧
      List.Forall₂ (fun item result => w.Reports std env a item result ∧ result.status = .accepted)
        before good ∧
      w.Reports std env a item bad ∧ bad.status ≠ .accepted) := by
  induction items generalizing earlier with
  | nil =>
    cases run
    exact .inl ⟨rfl, [], by simp, .nil⟩
  | cons item items ih =>
    rw [List.forall_mem_cons] at own
    simp only [List.map_cons, runCases, bind_eq_ok] at run
    obtain ⟨result, ran, rest⟩ := run
    have reports := runCase_reports distinct own.1.1 own.1.2 ran
    split at rest
    · rename_i accepted
      rcases ih own.2 rest with ⟨done, good, rfl, all⟩ |
        ⟨failed, before, bad, after, good, last, rfl, rfl, all, reported, rejected⟩
      · exact .inl ⟨done, result :: good, by simp, .cons ⟨reports, accepted⟩ all⟩
      · exact .inr ⟨failed, item :: before, bad, after, result :: good, last, rfl, by simp,
          .cons ⟨reports, accepted⟩ all, reported, rejected⟩
    · rename_i rejected
      cases rest
      exact .inr ⟨rfl, [], item, items, [], result, rfl, by simp, .nil, reports, rejected⟩

/-- A stage that is there succeeds. -/
def CompileSucceeds (std : Stdlib) (env : ExecutionEnv) (stage : Option RuntimePreparedStage) :
    Prop :=
  ∀ prepared, stage = some prepared → StageSucceeds std env prepared

/-- A stage that is there runs and fails, with the kind of its failure. -/
def CompileFails (std : Stdlib) (env : ExecutionEnv) (stage : Option RuntimePreparedStage)
    (kind : Option RuntimeFailureKind) : Prop :=
  ∃ prepared outcome, stage = some prepared ∧ executeStage std env prepared = .ok outcome ∧
    outcome.status ≠ .succeeded ∧ outcome.failureKind = kind

def judgeCompileStage (a : PreparedRuntimeArtifacts) : Option RuntimePreparedStage :=
  a.spjArtifacts.bind (·.compileStage)

/-- Every stage succeeds and every case is accepted. -/
structure AllAccepted (w : RuntimeWorker) (std : Stdlib) (env : ExecutionEnv)
    (a : PreparedRuntimeArtifacts) : Prop where
  compile : CompileSucceeds std env a.compileStage
  judgeCompile : CompileSucceeds std env (judgeCompileStage a)
  cases : List.Forall₂ (fun dir stage => w.CaseAccepted std env a (dir, stage)) a.cases a.runStages

/-- What goes wrong first in an execution. -/
inductive Failure where
  | compile (kind : Option RuntimeFailureKind)
  | case (status : RuntimeCaseFinalStatus)

/-- The first failure in the order of execution, and the numbers of the cases reached. -/
inductive FirstFailure (w : RuntimeWorker) (std : Stdlib) (env : ExecutionEnv)
    (a : PreparedRuntimeArtifacts) : Failure → List UInt32 → Prop where
  | compile {kind : Option RuntimeFailureKind} :
      CompileFails std env a.compileStage kind → FirstFailure w std env a (.compile kind) []
  | judgeCompile {kind : Option RuntimeFailureKind} : CompileSucceeds std env a.compileStage →
      CompileFails std env (judgeCompileStage a) kind → FirstFailure w std env a (.compile kind) []
  | case {before after : List (PreparedRuntimeCaseDir × RuntimePreparedStage)}
      {item : PreparedRuntimeCaseDir × RuntimePreparedStage}
      {status : RuntimeCaseFinalStatus} : CompileSucceeds std env a.compileStage →
      CompileSucceeds std env (judgeCompileStage a) →
      a.cases.zip a.runStages = before ++ item :: after →
      (∀ earlier ∈ before, w.CaseAccepted std env a earlier) →
      w.JudgedAs std env a item status → status ≠ .accepted →
      FirstFailure w std env a (.case status) ((before ++ [item]).map (·.1.caseNo))

theorem CompileFails.not_succeeds {stage : Option RuntimePreparedStage}
    {kind : Option RuntimeFailureKind} (fails : CompileFails std env stage kind) :
    ¬ CompileSucceeds std env stage := by
  obtain ⟨prepared, outcome, rfl, ran, failed, -⟩ := fails
  intro succeeds
  obtain ⟨outcome', ran', success⟩ := succeeds prepared rfl
  rw [ran] at ran'
  obtain rfl := Except.ok.inj ran'
  exact failed success

theorem FirstFailure.not_allAccepted {failure : Failure} {reached : List UInt32}
    (first : FirstFailure w std env a failure reached) : ¬ w.AllAccepted std env a := by
  intro all
  cases first with
  | compile fails => exact fails.not_succeeds all.compile
  | judgeCompile _ fails => exact fails.not_succeeds all.judgeCompile
  | @case before after item status _ _ split _ judged rejected =>
    have accepted : w.CaseAccepted std env a item :=
      (List.forall₂_iff_zip.1 all.cases).2 (by simp [split])
    exact rejected (judgedAs_unique judged (judgedAs_accepted.2 accepted))

/-- How an outcome shows a failure: in a compile stage, or in its last case. -/
inductive Shows (outcome : RuntimeExecutionOutcome) : Failure → Prop where
  | compile {stage : RuntimeStageOutcome} : outcome.compile = some stage →
      outcome.judgeCompile = none → stage.status = .failed → outcome.cases = [] →
      Shows outcome (.compile stage.failureKind)
  | judgeCompile {stage : RuntimeStageOutcome} : outcome.judgeCompile = some stage →
      stage.status = .failed → outcome.cases = [] → Shows outcome (.compile stage.failureKind)
  | case {good : List RuntimeCaseOutcome} {bad : RuntimeCaseOutcome} :
      (∀ stage ∈ outcome.compile, stage.status = .succeeded) →
      (∀ stage ∈ outcome.judgeCompile, stage.status = .succeeded) →
      outcome.cases = good ++ [bad] → (∀ result ∈ good, result.status = .accepted) →
      bad.status ≠ .accepted → Shows outcome (.case bad.status)

theorem status_of_executeStage (ran : executeStage std env stage = .ok outcome) :
    outcome.status = .succeeded ∨ outcome.status = .failed := by
  obtain ⟨report, stdoutExcerpt, stderrExcerpt, -, -, -, rfl⟩ := executeStage_ok ran
  by_cases zero : report.exitCode = some 0 <;> simp [stageOutcome, zero]

/-- A compile stage that is run succeeds or fails with its own outcome. -/
theorem runCompile_ok {stage : Option RuntimePreparedStage} {ran : Option RuntimeStageOutcome}
    (run : runCompile std env stage = .ok ran) :
    (stageFailed ran = false ∧ CompileSucceeds std env stage ∧
      ∀ outcome ∈ ran, outcome.status = .succeeded) ∨
    (stageFailed ran = true ∧ ∃ outcome, ran = some outcome ∧ outcome.status = .failed ∧
      CompileFails std env stage outcome.failureKind) := by
  cases stage with
  | none =>
    cases run
    exact .inl ⟨rfl, by simp [CompileSucceeds], by simp⟩
  | some prepared =>
    simp only [runCompile, bind_eq_ok] at run
    obtain ⟨outcome, executed, result⟩ := run
    cases result
    rcases status_of_executeStage executed with success | failed
    · refine .inl ⟨by simp [stageFailed, success], ?_, by simp [success]⟩
      rintro _ ⟨⟩
      exact ⟨outcome, executed, success⟩
    · refine .inr ⟨by simp [stageFailed, failed], outcome, rfl, failed, ?_⟩
      exact ⟨prepared, outcome, rfl, executed, by simp [failed], rfl⟩

theorem scores_of_reports {items : List (PreparedRuntimeCaseDir × RuntimePreparedStage)}
    {results : List RuntimeCaseOutcome}
    (reports : List.Forall₂ (fun item result => w.Reports std env a item result ∧
      result.status = .accepted) items results) :
    results.map (fun result => (result.caseNo, result.score)) =
      items.map fun item => (item.1.caseNo, item.1.score) := by
  induction reports with
  | nil => rfl
  | cons reported _ ih =>
    obtain ⟨⟨number, score, -⟩, -⟩ := reported
    simp [number, score, ih]

section Items

variable (wf : a.WellFormed)

include wf

theorem stages_of_items : (a.cases.zip a.runStages).map (·.2) = a.runStages := by
  rw [← List.unzip_snd, List.unzip_zip wf.stages.length_eq]

theorem scores_of_items :
    (a.cases.zip a.runStages).map (fun item => (item.1.caseNo, item.1.score)) = a.scores := by
  have dirs : (a.cases.zip a.runStages).map (·.1) = a.cases := by
    rw [← List.unzip_fst, List.unzip_zip wf.stages.length_eq]
  simpa [PreparedRuntimeArtifacts.scores, Function.comp_def] using
    congrArg (List.map fun dir => (dir.caseNo, dir.score)) dirs

theorem runsCase_of_items (mem : item ∈ a.cases.zip a.runStages) :
    item.1 ∈ a.cases ∧ RunsCase item.1 item.2 :=
  ⟨(List.of_mem_zip mem).1, (List.forall₂_iff_zip.1 wf.stages).2 mem⟩

end Items

theorem accepted_of_forall {items : List (PreparedRuntimeCaseDir × RuntimePreparedStage)}
    {results : List RuntimeCaseOutcome}
    (all : List.Forall₂ (fun item result => w.Reports std env a item result ∧
      result.status = .accepted) items results) :
    (∀ item ∈ items, w.CaseAccepted std env a item) ∧
      ∀ result ∈ results, result.status = .accepted := by
  induction all with
  | nil => simp
  | cons reported _ ih =>
    obtain ⟨⟨-, -, judged⟩, accepted⟩ := reported
    rw [accepted] at judged
    simp only [List.forall_mem_cons]
    exact ⟨⟨judgedAs_accepted.1 judged, ih.1⟩, accepted, ih.2⟩

/-- What the outcome of an execution says: either everything was accepted, or the outcome
shows the first failure and reports the cases up to it. -/
theorem execute_ok (wf : a.WellFormed) {outcome : RuntimeExecutionOutcome}
    (run : w.execute std env a = .ok outcome) :
    outcome.scores <+: a.scores ∧
    ((outcome.finalStatus = .completed ∧ w.AllAccepted std env a ∧
        (∀ result ∈ outcome.cases, result.status = .accepted) ∧ outcome.scores = a.scores) ∨
      (outcome.finalStatus = .failed ∧ ∃ failure, Shows outcome failure ∧
        w.FirstFailure std env a failure (outcome.cases.map (·.caseNo)))) := by
  simp only [execute, bind_eq_ok] at run
  obtain ⟨compile, compiled, run⟩ := run
  rcases runCompile_ok compiled with ⟨fine, compileSucceeds, compileFine⟩ |
    ⟨bad, failed, rfl, status, compileFails⟩
  · simp only [fine, Bool.false_eq_true, if_false, bind_eq_ok] at run
    obtain ⟨judgeCompile, judgeCompiled, run⟩ := run
    rcases runCompile_ok judgeCompiled with ⟨fine, judgeSucceeds, judgeFine⟩ |
      ⟨bad, failed, rfl, status, judgeFails⟩
    · simp only [fine, Bool.false_eq_true, if_false, bind_eq_ok] at run
      obtain ⟨⟨results, status⟩, ran, built⟩ := run
      cases built
      rw [← stages_of_items wf] at ran
      rcases runCases_ok wf.distinct (fun _ mem => runsCase_of_items wf mem) ran with
        ⟨rfl, good, same, all⟩ |
        ⟨rfl, before, item, after, good, last, split, rfl, all, reported, rejected⟩
      · obtain rfl : results = good := same
        have scores : RuntimeExecutionOutcome.scores ⟨compile, judgeCompile, results, .completed⟩ =
            a.scores := (scores_of_reports all).trans (scores_of_items wf)
        obtain ⟨accepted, passed⟩ := accepted_of_forall all
        refine ⟨scores ▸ List.prefix_rfl, .inl ⟨rfl, ?_, passed, scores⟩⟩
        exact ⟨compileSucceeds, judgeSucceeds,
          List.forall₂_iff_zip.2 ⟨wf.stages.length_eq, fun mem => accepted _ mem⟩⟩
      · obtain ⟨accepted, passed⟩ := accepted_of_forall all
        obtain ⟨number, score, judged⟩ := reported
        have goodScores := scores_of_reports all
        refine ⟨?_, .inr ⟨rfl, .case last.status, ?_, ?_⟩⟩
        · rw [← scores_of_items wf, split]
          refine ⟨after.map fun item => (item.1.caseNo, item.1.score), ?_⟩
          simp [RuntimeExecutionOutcome.scores, goodScores, number, score]
        · exact .case compileFine judgeFine rfl passed rejected
        · have numbers : good.map (·.caseNo) = before.map (·.1.caseNo) := by
            simpa [Function.comp_def] using congrArg (List.map Prod.fst) goodScores
          have reached : (good ++ [last]).map (·.caseNo) =
              (before ++ [item]).map (·.1.caseNo) := by simp [numbers, number]
          simp only [List.nil_append, reached]
          exact .case compileSucceeds judgeSucceeds split accepted judged rejected
    · rw [if_pos bad] at run
      cases run
      exact ⟨List.nil_prefix, .inr ⟨rfl, _, .judgeCompile rfl status rfl,
        .judgeCompile compileSucceeds judgeFails⟩⟩
  · rw [if_pos bad] at run
    cases run
    exact ⟨List.nil_prefix, .inr ⟨rfl, _, .compile rfl rfl status rfl, .compile compileFails⟩⟩

theorem runCases_status {stages : List RuntimePreparedStage}
    {earlier results : List RuntimeCaseOutcome} {status : RuntimeTaskLifecycleStatus}
    (run : w.runCases std env a earlier stages = .ok (results, status)) :
    status = .completed ∨ status = .failed := by
  induction stages generalizing earlier with
  | nil =>
    cases run
    exact .inl rfl
  | cons stage rest ih =>
    simp only [runCases, bind_eq_ok] at run
    obtain ⟨result, -, later⟩ := run
    split at later
    · exact ih later
    · cases later
      exact .inr rfl

/-- An execution that gives an outcome has finished, with any artifacts. -/
theorem execute_status {outcome : RuntimeExecutionOutcome}
    (run : w.execute std env a = .ok outcome) :
    outcome.finalStatus = .completed ∨ outcome.finalStatus = .failed := by
  simp only [execute, bind_eq_ok] at run
  obtain ⟨compile, -, run⟩ := run
  split at run
  · cases run
    exact .inr rfl
  · rw [bind_eq_ok] at run
    obtain ⟨judgeCompile, -, run⟩ := run
    split at run
    · cases run
      exact .inr rfl
    · rw [bind_eq_ok] at run
      obtain ⟨⟨results, status⟩, ran, built⟩ := run
      cases built
      exact runCases_status ran

end RuntimeWorker

end Execution

end NexusCore.Runtime
