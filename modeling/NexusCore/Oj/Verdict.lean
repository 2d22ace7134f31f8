import NexusCore.Oj.Repository
import NexusCore.Runtime.PreparedFiles
import NexusCore.Runtime.Verdict

/-!
# From execution to verdict

The composition of the worker's execution with the projection of its outcome on the
submission: the verdict is Accepted exactly when everything was accepted, and otherwise
it is the status of the first failure in the order of execution.
-/

namespace NexusCore.Oj

open NexusCore.Lib NexusCore.Runtime RuntimeWorker

/-- The verdict that a failure of an execution leads to. -/
def statusOfFailure : Failure → SubmissionStatus
  | .compile kind => mapCompileFailureStatus kind
  | .case status => mapSubmissionCaseFailureStatus status

variable {outcome : RuntimeExecutionOutcome} {failure : Failure} {event : RuntimeTaskEvent}

theorem mapCompileFailureStatus_ne_accepted (kind : Option RuntimeFailureKind) :
    mapCompileFailureStatus kind ≠ .accepted := by
  rcases kind with _ | kind
  · decide
  · cases kind <;> decide

theorem statusOfFailure_ne_accepted (shown : Shows outcome failure) :
    statusOfFailure failure ≠ .accepted := by
  cases shown with
  | compile => exact mapCompileFailureStatus_ne_accepted _
  | judgeCompile => exact mapCompileFailureStatus_ne_accepted _
  | @case good bad _ _ _ _ rejected =>
    unfold statusOfFailure
    revert rejected
    cases bad.status <;> decide

/-- The precedence of the classification picks the failure that the outcome shows. -/
theorem classifyFailure_of_shows (shown : Shows outcome failure) (message : String) :
    (classifyFailure (some outcome) message).1 = statusOfFailure failure := by
  cases shown with
  | compile compile judgeCompile failed cases =>
    simp [classifyFailure, Option.filter, compile, judgeCompile, failed, statusOfFailure]
  | judgeCompile judgeCompile failed cases =>
    simp [classifyFailure, Option.filter, judgeCompile, failed, statusOfFailure]
  | @case good bad compile judgeCompile cases accepted rejected =>
    have noJudgeCompile : outcome.judgeCompile.filter (·.status = .failed) = none := by
      rw [Option.filter_eq_none_iff]
      intro stage mem
      simp [judgeCompile stage mem]
    have noCompile : outcome.compile.filter (·.status = .failed) = none := by
      rw [Option.filter_eq_none_iff]
      intro stage mem
      simp [compile stage mem]
    have wrong : outcome.cases.any (·.status = .wrongAnswer) =
        decide (bad.status = .wrongAnswer) := by
      have noneBefore : good.any (·.status = .wrongAnswer) = false := by
        rw [List.any_eq_false]
        intro result mem
        simp [accepted result mem]
      rw [cases, List.any_append, noneBefore]
      simp
    have first : outcome.cases.find? (·.status ≠ .accepted) = some bad := by
      have noneBefore : good.find? (·.status ≠ .accepted) = none := by
        rw [List.find?_eq_none]
        intro result mem
        simp [accepted result mem]
      rw [cases, List.find?_append, noneBefore]
      simp [rejected]
    simp only [classifyFailure, noJudgeCompile, noCompile, wrong, first, decide_eq_true_eq]
    split
    · rename_i wrongAnswer
      simp [statusOfFailure, wrongAnswer, mapSubmissionCaseFailureStatus]
    · rfl

/-- Scores add up without overflow as long as they fit in 32 bits. -/
theorem toNat_sum {scores : List UInt32} (fits : (scores.map UInt32.toNat).sum < 2 ^ 32) :
    scores.sum.toNat = (scores.map UInt32.toNat).sum := by
  induction scores with
  | nil => rfl
  | cons score rest ih =>
    simp only [List.map_cons, List.sum_cons] at fits ⊢
    rw [UInt32.toNat_add, ih (by omega)]
    omega

theorem sum_filter_le (test : RuntimeCaseOutcome → Bool) (cases : List RuntimeCaseOutcome) :
    ((cases.filter test).map (·.score.toNat)).sum ≤ (cases.map (·.score.toNat)).sum := by
  induction cases with
  | nil => simp
  | cons result rest ih =>
    by_cases h : test result <;> simp [h] <;> omega

theorem sum_scores (cases : List RuntimeCaseOutcome) :
    (cases.map (·.score)).map UInt32.toNat = cases.map (·.score.toNat) := by
  simp [Function.comp_def]

/-- The scores of a finished event, as numbers. -/
theorem score_of_finished (finished : event.status = .completed ∨ event.status = .failed)
    (carries : event.outcome = some outcome)
    (fits : (outcome.cases.map (·.score.toNat)).sum < 2 ^ 32) :
    (deriveSubmissionProjection event).score.toNat =
        ((outcome.cases.filter (·.status = .accepted)).map (·.score.toNat)).sum ∧
      (deriveSubmissionProjection event).score ≤ (deriveSubmissionProjection event).maxScore := by
  have fewer := sum_filter_le (·.status = .accepted) outcome.cases
  have accepted : (acceptedScore (some outcome)).toNat =
      ((outcome.cases.filter (·.status = .accepted)).map (·.score.toNat)).sum := by
    simp only [acceptedScore, Option.map_some, Option.getD_some]
    rw [toNat_sum, sum_scores]
    rw [sum_scores]
    omega
  have all : (totalScore (some outcome)).toNat = (outcome.cases.map (·.score.toNat)).sum := by
    simp only [totalScore, Option.map_some, Option.getD_some]
    rw [toNat_sum, sum_scores]
    rwa [sum_scores]
  have bounded : acceptedScore (some outcome) ≤ totalScore (some outcome) := by
    rw [UInt32.le_iff_toNat_le]
    omega
  rcases finished with status | status <;>
    simpa [deriveSubmissionProjection, status, carries] using ⟨accepted, bounded⟩

/-- The program compiles, and for every test case of the task, the run stage succeeds and its
output is valid for the expected output of that test case. -/
structure AllValid (std : Stdlib) (env : ExecutionEnv) (payload : OjJudgeTask)
    (a : PreparedRuntimeArtifacts) : Prop where
  compile : CompileSucceeds std env a.compileStage
  cases : List.Forall₂ (fun testcase stage => StageSucceeds std env stage ∧
      ∃ output, env.readToString stage.stdoutPath = some output ∧
        std.validateOutput output testcase.expectedOutput payload.judgeConfig = .accepted)
    payload.testcases a.runStages

/-- Without a special judge, everything is accepted when all outputs are valid, if the answer
files are the ones that were prepared. -/
theorem allAccepted_iff_allValid {w : RuntimeWorker} {std : Stdlib} {env : ExecutionEnv}
    {payload : OjJudgeTask} {a : PreparedRuntimeArtifacts} (stages : w.StagesOf payload a)
    (cases : a.cases = payload.testcases.map (caseDir a.workDir))
    (plain : payload.judgeConfig.any (·.judgeMethod = .spj) = false)
    (answers : ∀ testcase ∈ payload.testcases,
      env.readToString (caseDir a.workDir testcase).answerPath = some testcase.expectedOutput) :
    w.AllAccepted std env a ↔ AllValid std env payload a := by
  have noJudge : a.spjArtifacts = none := by
    rw [← Option.not_isSome_iff_eq_none, stages.judge, plain]
    simp
  -- each pair of a test case and its stage, with the answer file that the case has
  have own := List.forall₂_and_left _ _ |>.2 ⟨answers, stages.runs⟩
  constructor
  · intro all
    have accepted := all.cases
    rw [cases, List.forall₂_map_left_iff] at accepted
    refine ⟨all.compile, own.mp ?_ accepted⟩
    rintro testcase stage ⟨answer, runs⟩ ⟨succeeds, judged⟩
    simp only [JudgeAccepts, noJudge] at judged
    obtain ⟨output, expected, read, readAnswer, valid⟩ := judged
    obtain rfl := Option.some.inj (readAnswer.symm.trans answer)
    exact ⟨succeeds, output, runs.stdout ▸ read, stages.config ▸ valid⟩
  · intro all
    refine ⟨all.compile, by simp [CompileSucceeds, judgeCompileStage, noJudge], ?_⟩
    rw [cases, List.forall₂_map_left_iff]
    refine own.mp ?_ all.cases
    rintro testcase stage ⟨answer, runs⟩ ⟨succeeds, output, read, valid⟩
    refine ⟨succeeds, ?_⟩
    simp only [JudgeAccepts, noJudge]
    exact ⟨output, _, runs.stdout ▸ read, answer, stages.config.symm ▸ valid⟩

/-- The verdict of an execution of prepared artifacts, which have one run stage for each test
case. It is Accepted if and only if every stage succeeded and every case was accepted against
the answer in its own directory, which is the expected output of its test case; otherwise it is
that of the first failure, and no later case is reported. The score is the sum of the scores of
the accepted cases and at most the maximal score. -/
theorem verdict_of_execution {w : RuntimeWorker} {std : Stdlib} {env : ExecutionEnv}
    {payload : OjJudgeTask} {ulid taskId : String} {a : PreparedRuntimeArtifacts}
    {σ : Type} {H : Handler σ FsCmd (fun _ => Bool)} {s t : σ}
    (prepared : Exec H (w.prepareOjTask ulid taskId payload) s (.ok a) t)
    (fits : (payload.testcases.map (·.score.toNat)).sum < 2 ^ 32)
    (run : w.execute std env a = .ok outcome)
    (status : event.status = outcome.finalStatus) (carries : event.outcome = some outcome) :
    a.cases = payload.testcases.map (caseDir a.workDir) ∧
    w.StagesOf payload a ∧
    (∀ disk, FileSystem H disk → ∀ testcase ∈ payload.testcases,
      HoldsCase disk a.workDir t testcase) ∧
    outcome.scores <+: payload.testcases.map (fun testcase => (testcase.caseNo, testcase.score)) ∧
    ((deriveSubmissionProjection event).status = .accepted ↔ w.AllAccepted std env a) ∧
    (payload.judgeConfig.any (·.judgeMethod = .spj) = false →
      (∀ testcase ∈ payload.testcases, env.readToString (caseDir a.workDir testcase).answerPath =
        some testcase.expectedOutput) →
      ((deriveSubmissionProjection event).status = .accepted ↔ AllValid std env payload a)) ∧
    (¬ w.AllAccepted std env a → ∃ failure,
      w.FirstFailure std env a failure (outcome.cases.map (·.caseNo)) ∧
        (deriveSubmissionProjection event).status = statusOfFailure failure) ∧
    (deriveSubmissionProjection event).score.toNat =
      ((outcome.cases.filter (·.status = .accepted)).map (·.score.toNat)).sum ∧
    (deriveSubmissionProjection event).score ≤ (deriveSubmissionProjection event).maxScore := by
  have ready := prepared.returns (prepareOjTask_returns ulid taskId)
  have stages := prepared.returns (prepareOjTask_stages ulid taskId)
  have cases : a.cases = payload.testcases.map (caseDir a.workDir) := by
    obtain ⟨-, executionId, taskId, plan, spj, rfl, -, -⟩ := ready
    rfl
  have distinct := (validateOjTask_eq_ok.1 ready.validated).distinct
  have scores : a.scores =
      payload.testcases.map (fun testcase => (testcase.caseNo, testcase.score)) := by
    simp [PreparedRuntimeArtifacts.scores, cases, caseDir, Function.comp_def]
  obtain ⟨reported, verdict⟩ := execute_ok ready.wellFormed run
  rw [scores] at reported
  have total : (outcome.cases.map (·.score.toNat)).sum < 2 ^ 32 := by
    obtain ⟨rest, split⟩ := reported
    have sums := congrArg (fun list => (list.map fun pair => pair.2.toNat).sum) split
    simp only [RuntimeExecutionOutcome.scores, List.map_append, List.map_map, List.sum_append,
      Function.comp_def] at sums
    omega
  have finished : event.status = .completed ∨ event.status = .failed := by
    rcases verdict with ⟨done, -⟩ | ⟨failed, -⟩
    · exact .inl (status.trans done)
    · exact .inr (status.trans failed)
  have accepted : (deriveSubmissionProjection event).status = .accepted ↔
      w.AllAccepted std env a := by
    rcases verdict with ⟨done, all, -⟩ | ⟨failed, failure, shown, first⟩
    · simp [deriveSubmissionProjection, status, done, all]
    · have classified := classifyFailure_of_shows shown event.message
      simp [deriveSubmissionProjection, status, failed, carries, classified,
        statusOfFailure_ne_accepted shown, first.not_allAccepted]
  refine ⟨cases, stages, fun disk fs => prepareOjTask_holds fs distinct prepared, reported,
    accepted, ?_, ?_, score_of_finished finished carries total⟩
  · intro plain answers
    rw [accepted]
    exact allAccepted_iff_allValid stages cases plain answers
  · intro notAll
    rcases verdict with ⟨-, all, -⟩ | ⟨failed, failure, shown, first⟩
    · exact absurd all notAll
    · refine ⟨failure, first, ?_⟩
      simp [deriveSubmissionProjection, status, failed, carries,
        classifyFailure_of_shows shown event.message]

/-- The event that reports an outcome. -/
def finishedEvent (outcome : RuntimeExecutionOutcome) : RuntimeTaskEvent :=
  { lifecycleEvent outcome.finalStatus "" with outcome := some outcome }

/-- A disk on which every request is granted. -/
def onDisk (disk : String → Option String) : FsCmd → Bool × (String → Option String)
  | .createDirAll _ => (true, disk)
  | .write path content => (true, fun file => if file = path then some content else disk file)

theorem onDisk_fileSystem :
    FileSystem (fun disk c answer disk' => (answer, disk') = onDisk disk c) id := by
  constructor
  · rintro disk path content _ ⟨⟩
    simp
  · rintro disk path content _ _ ⟨⟩ file other
    simp [other]
  · rintro disk path _ _ ⟨⟩ file
    rfl

/-- A task with two cases, for a program that prints nothing. -/
def twoCases : OjJudgeTask :=
  { (sampleTask "task-1" "judge" 3).judge with
    testcases := [{ caseNo := 2, input := "", expectedOutput := "", score := 40 },
      { caseNo := 1, input := "1", expectedOutput := "1", score := 60 }] }

/-- Every process ends well, and the files are as they are on a disk. -/
def diskEnv (disk : String → Option String) : ExecutionEnv :=
  { sampleEnv (exited 0 10) with readToString := disk }

/-- The preparation of the task on an empty disk. -/
def twoCasesPrepared : Except AppError PreparedRuntimeArtifacts × (String → Option String) :=
  (sampleWorker.prepareOjTask "01" "task-1" twoCases).eval onDisk fun _ => none

theorem verdict_of_sample_execution : ∃ a disk outcome, twoCasesPrepared = (.ok a, disk) ∧
    sampleWorker.execute sampleStdlib (diskEnv disk) a = .ok outcome ∧
    (∀ testcase ∈ twoCases.testcases, HoldsCase id a.workDir disk testcase) ∧
    ¬ AllValid sampleStdlib (diskEnv disk) twoCases a ∧
    (∃ failure, sampleWorker.FirstFailure sampleStdlib (diskEnv disk) a failure [2, 1] ∧
      statusOfFailure failure = .wrongAnswer) ∧
    (deriveSubmissionProjection (finishedEvent outcome)).score.toNat = 40 := by
  have computed : (twoCasesPrepared.1.toOption.bind fun a =>
      (sampleWorker.execute sampleStdlib (diskEnv twoCasesPrepared.2) a).toOption.map fun outcome =>
        (outcome.cases.map (·.caseNo), (deriveSubmissionProjection (finishedEvent outcome)).status,
          ((outcome.cases.filter (·.status = .accepted)).map (·.score.toNat)).sum)) =
      some ([2, 1], .wrongAnswer, 40) := by decide +kernel
  obtain ⟨a, disk, ready⟩ : ∃ a disk, twoCasesPrepared = (.ok a, disk) := ⟨_, _, rfl⟩
  have prepared : Exec (fun disk c answer disk' => (answer, disk') = onDisk disk c)
      (sampleWorker.prepareOjTask "01" "task-1" twoCases) (fun _ => none) twoCasesPrepared.1
      twoCasesPrepared.2 := Exec.of_eval (h := onDisk) (v := id) (fun _ _ => rfl) _ _
  rw [ready] at computed prepared
  obtain ⟨outcome, executed, computed⟩ := Option.map_eq_some_iff.1 computed
  simp only [Prod.mk.injEq] at computed
  obtain ⟨numbers, status, points⟩ := computed
  have run : sampleWorker.execute sampleStdlib (diskEnv disk) a = .ok outcome := by
    revert executed
    cases sampleWorker.execute sampleStdlib (diskEnv disk) a <;> simp [Except.toOption]
  obtain ⟨-, -, files, -, accepted, valid, first, score, -⟩ :=
    verdict_of_execution prepared (by decide) run (rfl : (finishedEvent outcome).status = _) rfl
  have answers := files id onDisk_fileSystem
  refine ⟨a, disk, outcome, ready, run, answers, ?_, ?_, by rw [score, points]⟩
  · rw [← valid rfl fun testcase mem => (answers testcase mem).answer, status]
    decide
  · obtain ⟨failure, found, shown⟩ := first (by rw [← accepted, status]; decide)
    exact ⟨failure, numbers ▸ found, shown ▸ status⟩

end NexusCore.Oj
