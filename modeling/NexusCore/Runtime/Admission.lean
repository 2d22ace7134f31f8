import NexusCore.Runtime.Verdict

/-!
# Tasks that can be prepared

Preparation fails for three kinds of reasons: the file system, the validation of the task,
and languages that no plan or special judge exists for. This module says exactly which tasks
are prepared whenever the file system grants every request.
-/

namespace NexusCore.Runtime

open NexusCore.Lib

namespace FsProg

variable {α : Type} {p : FsProg α}

/-- Remember whether every command so far has succeeded. -/
def Track (fine : Bool) (_ : FsCmd) (answer : Bool) (after : Bool) : Prop :=
  after = (fine && answer)

/-- Every run that ends in an error has seen a failed command. -/
def FailsOnlyByIo (p : FsProg α) : Prop :=
  ∀ e fine, Exec Track p true (.error e) fine → fine = false

theorem not_fine {s t : Bool} {o : Except AppError α} (run : Exec Track p s o t)
    (broken : s = false) : t = false := by
  induction run with
  | ret => exact broken
  | fail => exact broken
  | call answered _ ih =>
    rw [Track, broken, Bool.false_and] at answered
    exact ih answered

/-- It is enough to look at the run in which every command succeeds. -/
theorem failsOnlyByIo_iff : FailsOnlyByIo p ↔ ∃ a, p.eval granted () = (.ok a, ()) := by
  induction p with
  | ret a => simp [FailsOnlyByIo]
  | fail e => simp [FailsOnlyByIo]
  | call c k ih =>
    simp only [Prog.eval_call, granted, ← ih, FailsOnlyByIo, exec_call, Track]
    constructor
    · intro blameless e fine run
      exact blameless e fine ⟨true, true, rfl, run⟩
    · rintro blameless e fine ⟨answer, after, same, run⟩
      obtain rfl : after = answer := by simpa using same
      cases after with
      | true => exact blameless e fine run
      | false => exact not_fine run rfl

@[simp] theorem eval_createDirAll (path : String) :
    (createDirAll path).eval granted () = (.ok (), ()) := rfl

@[simp] theorem eval_write (path content : String) :
    (write path content).eval granted () = (.ok (), ()) := rfl

end FsProg

/-- A language that the default catalog knows. -/
theorem Host.resolve_isSome {host : Host} {language : String} :
    (host.resolve language).isSome ↔ language ∈ ["cpp", "python", "rust"] := by
  simp only [resolve, List.mem_cons, List.not_mem_nil, or_false]
  split_ifs <;> simp_all

/-- Every language of the catalog has a plan for every sandbox, except for python in a
sandbox with a wasm runtime. -/
theorem buildPlan_ok {host : Host} {payload : OjJudgeTask} {toolchain : Host.LanguageToolchain}
    (known : host.resolve payload.language = some toolchain) :
    (∃ plan, buildPlan toolchain payload = .ok plan) ↔
      ¬ (payload.language = "python" ∧ payload.sandboxKind ≠ .nsjail) := by
  have recipe : (∃ plan, buildPlan toolchain payload = .ok plan) ↔
      ∃ recipe, toolchain payload payload.sandboxKind = .ok recipe := by
    cases built : toolchain payload payload.sandboxKind <;>
      simp [buildPlan, built, bind, Except.bind, pure, Except.pure]
  rw [recipe]
  unfold Host.resolve at known
  split_ifs at known with cpp python rust
  · obtain rfl := Option.some.inj known
    cases payload.sandboxKind <;> simp [Host.cppRecipe, cpp]
  · obtain rfl := Option.some.inj known
    cases payload.sandboxKind <;> simp [Host.pythonRecipe, python]
  · obtain rfl := Option.some.inj known
    cases payload.sandboxKind <;> simp [Host.rustRecipe, python]

theorem buildSpjExecutionSpec_ok {host : Host} {spj : RuntimeSpjConfig} :
    (∃ spec, buildSpjExecutionSpec host spj = .ok spec) ↔
      spj.language ∈ ["python", "python3", "rust", "cpp", "c++"] := by
  simp only [buildSpjExecutionSpec, List.mem_cons, List.not_mem_nil, or_false]
  split_ifs with python rust cpp
  · rcases python with python | python <;> simp [python]
  · simp [rust]
  · rcases cpp with cpp | cpp <;> simp [cpp]
  · simp only [not_or] at python cpp
    simp [python, rust, cpp]

namespace RuntimeWorker

variable {w : RuntimeWorker} {payload : OjJudgeTask}

theorem eval_prepareTestcaseDirs (workDir : String) (testcases : List RuntimeTestcase) :
    (prepareTestcaseDirs workDir testcases).eval granted () =
      (.ok (testcases.map (caseDir workDir)), ()) := by
  induction testcases with
  | nil => rfl
  | cons testcase rest ih => simp [prepareTestcaseDirs, prepareTestcaseDir, ih]

/-- The special judge of a task, if it has one, is configured in a known language. -/
def SpecialJudgeKnown (host : Host) (payload : OjJudgeTask) : Prop :=
  ∀ config ∈ payload.judgeConfig, config.judgeMethod = .spj →
    ∃ spj spec, config.spj = some spj ∧ buildSpjExecutionSpec host spj = .ok spec

theorem eval_buildSpjArtifacts (workDir : String) :
    (∃ spj, (w.buildSpjArtifacts workDir payload.judgeConfig).eval granted () = (.ok spj, ())) ↔
      SpecialJudgeKnown w.host payload := by
  unfold SpecialJudgeKnown buildSpjArtifacts
  rcases payload.judgeConfig with _ | ⟨_ | _, validator, _ | spj, signature⟩
  · simp
  · simp
  · simp
  · simp
  · cases built : buildSpjExecutionSpec w.host spj <;> simp [built]

/-- The tasks whose preparation can fail only by the file system. -/
theorem prepareOjTask_failsOnlyByIo (ulid taskId : String) :
    (w.prepareOjTask ulid taskId payload).FailsOnlyByIo ↔
      validateOjTask payload = .ok () ∧
      (∃ toolchain plan, w.host.resolve payload.language = some toolchain ∧
        buildPlan toolchain payload = .ok plan) ∧
      SpecialJudgeKnown w.host payload := by
  rw [FsProg.failsOnlyByIo_iff, ← eval_buildSpjArtifacts (Path.join w.workRoot ("rt-" ++ ulid))]
  unfold prepareOjTask
  cases valid : validateOjTask payload with
  | error e => simp
  | ok _ =>
    cases known : w.host.resolve payload.language with
    | none => simp
    | some toolchain =>
      cases built : buildPlan toolchain payload with
      | error e => simp [built]
      | ok plan =>
        cases special : (w.buildSpjArtifacts (Path.join w.workRoot ("rt-" ++ ulid))
            payload.judgeConfig).eval granted () with
        | mk result done =>
          cases done
          cases result <;> simp [built, eval_prepareTestcaseDirs, special]

end RuntimeWorker

end NexusCore.Runtime
