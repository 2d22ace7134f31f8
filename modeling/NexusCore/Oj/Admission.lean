import NexusCore.Oj.Application
import NexusCore.Runtime.Admission

/-!
# From an admitted submission to a prepared task

The judge validates a problem when it is saved and a submission when it is created; the
runtime validates the task of the submission once more, with rules of its own. The two
agree exactly on the submissions that meet the runtime's stricter rules.
-/

namespace NexusCore.Oj

open NexusCore.Lib NexusCore.Runtime NexusCore.Jobs

variable {problem : Problem} {problems : InMemoryProblemRepository}
  {submissions : InMemorySubmissionRepository} {draft : SubmissionDraft} {submissionId : String}
  {detail : SubmissionDetail}

/-- What the validation of a problem that is judged by the runtime guarantees. -/
structure Problem.Judged (problem : Problem) : Prop where
  testcases : problem.testcases ≠ []
  wasmLanguages : problem.sandboxKind ≠ .nsjail →
    ∀ language ∈ problem.supportedLanguages, language = "cpp" ∨ language = "rust"
  wasmMethod : problem.sandboxKind ≠ .nsjail →
    ∀ config ∈ problem.judgeConfig, config.judgeMethod ≠ .spj
  special : ∀ config ∈ problem.judgeConfig, config.judgeMethod = .spj → config.spj.isSome

theorem validateWasmSandbox_ok (valid : validateWasmSandbox problem = .ok ()) :
    (∀ language ∈ problem.supportedLanguages, language = "cpp" ∨ language = "rust") ∧
      ∀ config ∈ problem.judgeConfig, config.judgeMethod ≠ .spj := by
  simp only [validateWasmSandbox, bind_eq_ok, ensure_eq_ok] at valid
  obtain ⟨-, -, valid⟩ := valid
  split at valid
  · cases valid
  · rename_i none
    rw [List.find?_eq_none] at none
    refine ⟨?_, fun config mem => by simpa [Option.mem_def.1 mem] using valid⟩
    intro language mem
    have known := none language mem
    simp only [Bool.and_eq_true, bne_iff_ne, not_and_or, not_not] at known
    exact known

theorem validateJudgeConfig_ok (valid : validateJudgeConfig problem = .ok ()) :
    ∀ config ∈ problem.judgeConfig, config.judgeMethod = .spj → config.spj.isSome := by
  intro config mem special
  simp only [validateJudgeConfig, Option.mem_def.1 mem, special] at valid
  cases spj : config.spj with
  | none => simp [spj, validateSpjConfig] at valid
  | some _ => rfl

theorem validateProblem_ok (valid : validateProblem problem = .ok ())
    (judged : problem.judgeMode ≠ .easyJudge) : problem.Judged := by
  simp only [validateProblem, bind_eq_ok, ensure_eq_ok] at valid
  obtain ⟨_, -, _, -, _, -, _, -, _, -, _, -, _, sandbox, _, testcases, config⟩ := valid
  have wasm : problem.sandboxKind ≠ .nsjail →
      (∀ language ∈ problem.supportedLanguages, language = "cpp" ∨ language = "rust") ∧
        ∀ config ∈ problem.judgeConfig, config.judgeMethod ≠ .spj := by
    intro other
    rw [validateSandbox, if_neg other] at sandbox
    exact validateWasmSandbox_ok sandbox
  exact ⟨by simpa [judged] using testcases, fun other => (wasm other).1,
    fun other => (wasm other).2, validateJudgeConfig_ok config⟩

/-- What the creation of a submission checks. -/
structure Admitted (problem : Problem) (draft : SubmissionDraft) : Prop where
  valid : validateProblem problem = .ok ()
  judgeMode : problem.judgeMode ≠ .easyJudge
  supported : draft.language ∈ problem.supportedLanguages
  configured : (problem.limits.lookup draft.language).isSome
  source : isBlank draft.sourceCode = false

theorem createSubmission_ok (found : problems.find draft.problemId.value = some problem)
    (created : createSubmission problems draft submissionId = .ok detail) :
    Admitted problem draft ∧ detail = pendingDetail draft submissionId := by
  simp only [createSubmission, getProblemDetail, found, bind_eq_ok, ensure_eq_ok,
    validateSubmission] at created
  obtain ⟨_, ⟨⟩, _, valid, _, judgeMode, _, supported, _, configured, _, source, stored⟩ := created
  cases stored
  exact ⟨⟨valid, by simpa using judgeMode, by simpa using supported, configured,
    by simpa using source⟩, rfl⟩

/-- The task of an admitted submission. -/
def judgeTaskOf (problem : Problem) (draft : SubmissionDraft) (submissionId : String)
    (limits : ProblemLimits) (judgeMode : RuntimeJudgeMode) : OjJudgeTask where
  submissionId := ⟨submissionId⟩
  problemId := problem.problemId
  userId := draft.userId
  language := draft.language
  judgeMode := judgeMode
  sandboxKind := mapRuntimeSandboxKind problem.sandboxKind
  sourceCode := draft.sourceCode
  limits := { timeLimitMs := limits.timeLimitMs, memoryLimitKb := limits.memoryLimitKb }
  testcases := problem.testcases.map mapRuntimeTestcase
  judgeConfig := problem.judgeConfig.map mapRuntimeJudgeConfig

/-- An admitted submission gets a job, and the job carries its task. -/
theorem buildRuntimeTask_ok (found : problems.find draft.problemId.value = some problem)
    (stored : submissions.find submissionId = some (pendingDetail draft submissionId))
    (admitted : Admitted problem draft) :
    ∃ limits judgeMode task, problem.limits.lookup draft.language = some limits ∧
      mapRuntimeJudgeMode problem.judgeMode = .ok judgeMode ∧
      buildRuntimeTask problems submissions submissionId = .ok task ∧
      task.judge = judgeTaskOf problem draft submissionId limits judgeMode := by
  obtain ⟨limits, configured⟩ := Option.isSome_iff_exists.1 admitted.configured
  obtain ⟨judgeMode, mapped⟩ : ∃ mode, mapRuntimeJudgeMode problem.judgeMode = .ok mode := by
    cases mode : problem.judgeMode with
    | acm => exact ⟨_, rfl⟩
    | functional => exact ⟨_, rfl⟩
    | easyJudge => exact absurd mode admitted.judgeMode
  have other : (problem.judgeMode != .easyJudge) = true := by simpa using admitted.judgeMode
  obtain ⟨task, carried, judge⟩ : ∃ task, mapJobToRuntimeTask (buildOjJudgeJob
      (ojJudgeJobInput problem (pendingDetail draft submissionId) limits judgeMode)) = .ok task ∧
      task.judge = judgeTaskOf problem draft submissionId limits judgeMode := ⟨_, rfl, rfl⟩
  refine ⟨limits, judgeMode, task, configured, mapped, ?_, judge⟩
  have job : buildJobDefinition problems submissions submissionId = .ok (buildOjJudgeJob
      (ojJudgeJobInput problem (pendingDetail draft submissionId) limits judgeMode)) := by
    simp only [buildJobDefinition, getSubmissionDetail, getProblemDetail, stored, bind_eq_ok]
    refine ⟨_, rfl, problem, by rw [pendingDetail, found], (), admitted.valid, (),
      ensure_eq_ok.2 other, ?_⟩
    rw [pendingDetail, configured]
    simp only [mapped]
    rfl
  simp only [buildRuntimeTask, job]
  exact carried

/-- The submissions that the runtime accepts as well. -/
structure RuntimeReady (problem : Problem) (draft : SubmissionDraft) : Prop where
  limits : ∀ limits ∈ problem.limits.lookup draft.language,
    limits.timeLimitMs ≠ 0 ∧ limits.memoryLimitKb ≠ 0
  distinct : (problem.testcases.map (·.caseNo)).Nodup
  signature : problem.judgeMode = .functional →
    (problem.judgeConfig.bind (·.functionSignature)).isSome
  language : draft.language ∈ ["cpp", "python", "rust"]
  special : ∀ config ∈ problem.judgeConfig, config.judgeMethod = .spj → ∀ spj ∈ config.spj,
    spj.language ∈ ["python", "python3", "rust", "cpp", "c++"]

section Task

variable {limits : ProblemLimits} {judgeMode : RuntimeJudgeMode}

theorem numbers_judgeTaskOf :
    (judgeTaskOf problem draft submissionId limits judgeMode).testcases.map (·.caseNo) =
      problem.testcases.map (·.caseNo) := by
  simp [judgeTaskOf, mapRuntimeTestcase, Function.comp_def]

theorem signature_judgeTaskOf :
    ((judgeTaskOf problem draft submissionId limits judgeMode).judgeConfig.bind
      (·.functionSignature)).isSome = (problem.judgeConfig.bind (·.functionSignature)).isSome := by
  cases config : problem.judgeConfig with
  | none => simp [judgeTaskOf, config]
  | some config' =>
    cases signature : config'.functionSignature <;>
      simp [judgeTaskOf, config, mapRuntimeJudgeConfig, signature]

theorem mapRuntimeSandboxKind_ne (kind : SandboxKind) :
    mapRuntimeSandboxKind kind ≠ .nsjail ↔ kind ≠ .nsjail := by
  cases kind <;> simp [mapRuntimeSandboxKind]

theorem mapRuntimeJudgeMode_functional {mode : JudgeMode}
    (mapped : mapRuntimeJudgeMode mode = .ok judgeMode) :
    judgeMode = .functional ↔ mode = .functional := by
  cases mode <;> cases mapped <;> simp

theorem special_mapRuntimeJudgeConfig (config : JudgeConfig) :
    (mapRuntimeJudgeConfig config).judgeMethod = .spj ↔ config.judgeMethod = .spj := by
  cases method : config.judgeMethod <;> simp [mapRuntimeJudgeConfig, method]

/-- What the runtime's validation adds to the checks of the judge. -/
theorem valid_judgeTaskOf (admitted : Admitted problem draft)
    (mapped : mapRuntimeJudgeMode problem.judgeMode = .ok judgeMode) :
    (judgeTaskOf problem draft submissionId limits judgeMode).Valid ↔
      (limits.timeLimitMs ≠ 0 ∧ limits.memoryLimitKb ≠ 0) ∧
      (problem.testcases.map (·.caseNo)).Nodup ∧
      (problem.judgeMode = .functional →
        (problem.judgeConfig.bind (·.functionSignature)).isSome) := by
  have judged := validateProblem_ok admitted.valid admitted.judgeMode
  have functional := mapRuntimeJudgeMode_functional mapped
  constructor
  · rintro ⟨-, time, memory, -, distinct, signature, -⟩
    rw [numbers_judgeTaskOf] at distinct
    rw [signature_judgeTaskOf] at signature
    exact ⟨⟨time, memory⟩, distinct, fun mode => signature (functional.2 mode)⟩
  · rintro ⟨⟨time, memory⟩, distinct, signature⟩
    refine ⟨admitted.source, time, memory, by simpa [judgeTaskOf] using judged.testcases, ?_, ?_, ?_⟩
    · rwa [numbers_judgeTaskOf]
    · intro mode
      rw [signature_judgeTaskOf]
      exact signature (functional.1 mode)
    · intro other
      have method := judged.wasmMethod ((mapRuntimeSandboxKind_ne _).1 other)
      cases config : problem.judgeConfig with
      | none => simp [judgeTaskOf, config]
      | some config' =>
        simpa [judgeTaskOf, config, special_mapRuntimeJudgeConfig] using method config' config

/-- Every sandbox that the judge allows for a language has a plan. -/
theorem plan_judgeTaskOf {host : Host} (admitted : Admitted problem draft) :
    (∃ toolchain plan, host.resolve draft.language = some toolchain ∧
      buildPlan toolchain (judgeTaskOf problem draft submissionId limits judgeMode) = .ok plan) ↔
      draft.language ∈ ["cpp", "python", "rust"] := by
  have judged := validateProblem_ok admitted.valid admitted.judgeMode
  constructor
  · rintro ⟨toolchain, plan, known, -⟩
    exact Host.resolve_isSome.1 (by rw [known]; rfl)
  · intro known
    obtain ⟨toolchain, resolved⟩ := Option.isSome_iff_exists.1 (Host.resolve_isSome.2 known)
    have sandbox : ¬ (draft.language = "python" ∧
        mapRuntimeSandboxKind problem.sandboxKind ≠ .nsjail) := by
      rintro ⟨python, other⟩
      have languages := judged.wasmLanguages ((mapRuntimeSandboxKind_ne _).1 other)
      rcases languages _ admitted.supported with cpp | rust
      · exact absurd (python.symm.trans cpp) (by decide)
      · exact absurd (python.symm.trans rust) (by decide)
    obtain ⟨plan, built⟩ := (@buildPlan_ok host
      (judgeTaskOf problem draft submissionId limits judgeMode) toolchain resolved).2 sandbox
    exact ⟨toolchain, plan, resolved, built⟩

theorem special_judgeTaskOf {host : Host} (admitted : Admitted problem draft) :
    RuntimeWorker.SpecialJudgeKnown host
        (judgeTaskOf problem draft submissionId limits judgeMode) ↔
      ∀ config ∈ problem.judgeConfig, config.judgeMethod = .spj → ∀ spj ∈ config.spj,
        spj.language ∈ ["python", "python3", "rust", "cpp", "c++"] := by
  have judged := validateProblem_ok admitted.valid admitted.judgeMode
  constructor
  · intro known config stored special spj configured
    obtain ⟨spj', spec, same, built⟩ := known (mapRuntimeJudgeConfig config)
      (by simpa [judgeTaskOf] using ⟨config, stored, rfl⟩)
      ((special_mapRuntimeJudgeConfig config).2 special)
    have languages := buildSpjExecutionSpec_ok.1 ⟨spec, built⟩
    obtain rfl : ⟨spj.language, spj.sourceCode⟩ = spj' := by
      simpa [mapRuntimeJudgeConfig, Option.mem_def.1 configured] using same
    exact languages
  · intro known config' stored special
    obtain ⟨config, problemConfig, rfl⟩ := Option.map_eq_some_iff.1 stored
    rw [special_mapRuntimeJudgeConfig] at special
    obtain ⟨spj, configured⟩ := Option.isSome_iff_exists.1
      (judged.special config problemConfig special)
    have languages := known config problemConfig special spj configured
    obtain ⟨spec, built⟩ := (@buildSpjExecutionSpec_ok host
      ⟨spj.language, spj.sourceCode⟩).2 languages
    exact ⟨_, spec, by simp [mapRuntimeJudgeConfig, configured], built⟩

end Task

/-- A submission that the judge admits gets a task that the runtime accepts and prepares, file
system permitting, if and only if it meets the runtime's own rules. -/
theorem admission_sound_iff (w : RuntimeWorker)
    (found : problems.find draft.problemId.value = some problem)
    (created : createSubmission problems draft submissionId = .ok detail)
    (stored : submissions.find submissionId = some detail) :
    (∃ task, buildRuntimeTask problems submissions submissionId = .ok task ∧
      validateOjTask task.judge = .ok () ∧
      (w.host.resolve task.judge.language).isSome ∧
      RuntimeWorker.SpecialJudgeKnown w.host task.judge ∧
      ∀ ulid taskId, (w.prepareOjTask ulid taskId task.judge).FailsOnlyByIo) ↔
    RuntimeReady problem draft := by
  obtain ⟨admitted, rfl⟩ := createSubmission_ok found created
  obtain ⟨limits, judgeMode, task, configured, mapped, built, judge⟩ :=
    buildRuntimeTask_ok found stored admitted
  have valid := @valid_judgeTaskOf problem draft submissionId limits judgeMode admitted mapped
  have special := @special_judgeTaskOf problem draft submissionId limits judgeMode w.host admitted
  have plan := @plan_judgeTaskOf problem draft submissionId limits judgeMode w.host admitted
  constructor
  · rintro ⟨task', built', validated, known, special', -⟩
    rw [built] at built'
    obtain rfl := Except.ok.inj built'
    rw [judge] at validated known special'
    obtain ⟨bounds, distinct, signature⟩ := valid.1 (validateOjTask_eq_ok.1 validated)
    refine ⟨?_, distinct, signature, Host.resolve_isSome.1 known, special.1 special'⟩
    intro limits' configured'
    obtain rfl := Option.mem_unique configured configured'
    exact bounds
  · rintro ⟨bounds, distinct, signature, language, specials⟩
    have validated := validateOjTask_eq_ok.2 (valid.2 ⟨bounds limits configured, distinct, signature⟩)
    refine ⟨task, built, ?_⟩
    rw [judge]
    refine ⟨validated, Host.resolve_isSome.2 language, special.2 specials, ?_⟩
    intro ulid taskId
    exact (w.prepareOjTask_failsOnlyByIo ulid taskId).2
      ⟨validated, plan.2 language, special.2 specials⟩

def sampleDraft : SubmissionDraft where
  problemId := ⟨"two-sum"⟩
  userId := ⟨"user-1"⟩
  language := "cpp"
  sourceCode := "int main() { return 0; }"

theorem admission_sound_of_seeded :
    (∃ task, buildRuntimeTask .seeded [pendingDetail sampleDraft "sub-1"] "sub-1" = .ok task ∧
      validateOjTask task.judge = .ok () ∧
      (sampleWorker.host.resolve task.judge.language).isSome ∧
      RuntimeWorker.SpecialJudgeKnown sampleWorker.host task.judge ∧
      ∀ ulid taskId, (sampleWorker.prepareOjTask ulid taskId task.judge).FailsOnlyByIo) ↔
    RuntimeReady twoSum sampleDraft :=
  admission_sound_iff sampleWorker (by rfl) (by rfl) (by rfl)

/-- Two test cases under one number: the judge accepts the problem and every submission to it,
and the runtime rejects each of them. -/
def twoSumTwice : Problem := { twoSum with testcases := twoSum.testcases ++ twoSum.testcases }

theorem duplicate_case_rejected :
    createSubmission [twoSumTwice] sampleDraft "sub-1" =
      .ok (pendingDetail sampleDraft "sub-1") ∧
    ∃ task, buildRuntimeTask [twoSumTwice] [pendingDetail sampleDraft "sub-1"] "sub-1" = .ok task ∧
      validateOjTask task.judge =
        .error (.badRequest "duplicate runtime testcase case_no: 1") := by
  refine ⟨by rfl, _, by rfl, by decide +kernel⟩

end NexusCore.Oj
