import NexusCore.Runtime.Excerpt
import NexusCore.Runtime.Limits
import NexusCore.Runtime.Service

/-!
# What a program prints

The files of an execution are bytes, and they are read back as text. A case whose program exits
with code zero gets a verdict exactly when the excerpts of its files can be cut and, without a
special judge, its output is UTF-8. Otherwise the worker panics, or the delivery is retried as if
the machine had failed.
-/

namespace NexusCore.Runtime

open NexusCore.Lib RuntimeTaskService

/-- The text of a file: there is none when the bytes are not UTF-8. -/
def readText (files : String → Option ByteArray) (path : String) : Option String :=
  (files path).bind String.fromUTF8?

/-- The operating system does what it is asked, and all files are read as text. -/
structure Serves (files : String → Option ByteArray) (env : ExecutionEnv) : Prop where
  create : ∀ path, env.createFile path = .ok ()
  opens : ∀ path, env.openFile path = .ok ()
  spawn : ∀ stage, env.spawn stage = .ok ()
  wait : ∀ stage, ∃ report, env.wait stage = .ok report ∧
    report.stdout = readText files stage.stdoutPath ∧
    report.stderr = readText files stage.stderrPath
  read : ∀ path, env.readToString path = readText files path

/-- The program of every case exits with code zero, and the files of the cases can be read. -/
structure Exits (files : String → Option ByteArray) (env : ExecutionEnv)
    (a : PreparedRuntimeArtifacts) : Prop where
  zero : ∀ stage ∈ a.runStages, ∀ report, env.wait stage = .ok report → report.exitCode = some 0
  answers : ∀ dir ∈ a.cases, (readText files dir.answerPath).isSome

/-- The files of a stage can be cut. -/
def StageCutsCleanly (files : String → Option ByteArray) (stage : RuntimePreparedStage) : Prop :=
  FileCutsCleanly (readText files stage.stdoutPath) ∧
    FileCutsCleanly (readText files stage.stderrPath)

section Serves

variable {files : String → Option ByteArray} {std : Stdlib} {env : ExecutionEnv}
  {stage : RuntimePreparedStage}

theorem Serves.ran (serves : Serves files env) (command : stage.command ≠ []) :
    ∃ report, Ran env stage report ∧ report.stdout = readText files stage.stdoutPath ∧
      report.stderr = readText files stage.stderrPath := by
  obtain ⟨report, waited, stdout, stderr⟩ := serves.wait stage
  refine ⟨report, ⟨command, ?_, serves.spawn stage, waited⟩, stdout, stderr⟩
  rw [openStageFiles, serves.create, serves.create]
  cases stage.stdinPath with
  | none => rfl
  | some path =>
    simp only [serves.opens]
    rfl

/-- A stage ends in an outcome exactly when its files can be cut. -/
theorem Serves.executeStage_returns (serves : Serves files env) (std : Stdlib)
    (command : stage.command ≠ []) :
    (∃ outcome, executeStage std env stage = .ok outcome) ↔ StageCutsCleanly files stage := by
  obtain ⟨report, ran, stdout, stderr⟩ := serves.ran command
  rw [ran.executeStage_eq, StageCutsCleanly, ← readExcerpt_isSome_file, ← readExcerpt_isSome_file,
    ← stdout, ← stderr]
  cases readExcerpt report.stdout with
  | none => simp [orPanic, bind, Except.bind]
  | some stdoutExcerpt =>
    cases readExcerpt report.stderr <;> simp [orPanic, bind, Except.bind, pure, Except.pure]

end Serves

namespace RuntimeWorker

variable (w : RuntimeWorker) (std : Stdlib) (env : ExecutionEnv)

/-- A case that is run: the compile stages and all cases in front of it are passed. -/
structure Reached (a : PreparedRuntimeArtifacts)
    (item : PreparedRuntimeCaseDir × RuntimePreparedStage) : Prop where
  compile : CompileSucceeds std env a.compileStage
  judgeCompile : CompileSucceeds std env (judgeCompileStage a)
  before : ∃ before after, a.cases.zip a.runStages = before ++ item :: after ∧
    ∀ earlier ∈ before, w.CaseAccepted std env a earlier

/-- The files of a case can be cut, and so can those of its special judge; the output of a case
without one is UTF-8. -/
structure Printable (files : String → Option ByteArray) (a : PreparedRuntimeArtifacts)
    (item : PreparedRuntimeCaseDir × RuntimePreparedStage) : Prop where
  cuts : StageCutsCleanly files item.2
  judge : ∀ spj, a.spjArtifacts = some spj → StageCutsCleanly files (w.spjCaseStage a spj item.1)
  decodes : a.spjArtifacts = none → ∃ bytes, files item.1.outputPath = some bytes ∧
    bytes.IsValidUTF8

/-- The answers of a worker that executes in an environment: it gives none when it panics. -/
def Executes : (c : ServiceCmd) → c.Answer → Prop
  | .execute artifacts, answer =>
    match w.execute std env artifacts with
    | .ok outcome => answer = .ok outcome
    | .error (.error error) => answer = .error error
    | .error .panicked => False
  | _, _ => True

/-- The delivery is acknowledged with its outcome: its run ends, the outcome is stored before the
acknowledgement, and nothing is retried. -/
structure Acknowledges (delivery : RuntimeTaskDelivery) (a : PreparedRuntimeArtifacts)
    (outcome : RuntimeExecutionOutcome) : Prop where
  ends : ∃ log, Exec (logging (w.Executes std env)) (runDelivery delivery a) [] (.ok ()) log
  stores : ∀ o log, Exec (logging (w.Executes std env)) (runDelivery delivery a) [] o log →
    ∃ before after answer, log = before ++ ⟨.updateSnapshot (finalSnapshot delivery.task a outcome),
      ()⟩ :: after ++ [⟨.ack delivery.deliveryId, answer⟩]
  retries : ∀ o log, Exec (logging (w.Executes std env)) (runDelivery delivery a) [] o log →
    ∀ entry ∈ log, ∀ deliveryId error delayMs, entry.1 ≠ .retry deliveryId error delayMs

/-- A case is reported with a verdict, and its delivery acknowledged. -/
def Judges (a : PreparedRuntimeArtifacts) (item : PreparedRuntimeCaseDir × RuntimePreparedStage) :
    Prop :=
  ∃ outcome, w.execute std env a = .ok outcome ∧
    (∃ result ∈ outcome.cases, w.Reports std env a item result) ∧
    ∀ delivery, w.Acknowledges std env delivery a outcome

section Printed

variable {w std env} {files : String → Option ByteArray} {a : PreparedRuntimeArtifacts}
  {item : PreparedRuntimeCaseDir × RuntimePreparedStage}

theorem readText_isSome (files : String → Option ByteArray) {path : String} : (readText files path).isSome ↔
    ∃ bytes, files path = some bytes ∧ bytes.IsValidUTF8 := by
  rw [readText]
  cases files path with
  | none => simp
  | some bytes =>
    rw [Option.bind_some, String.fromUTF8?]
    by_cases valid : bytes.IsValidUTF8 <;> simp [valid]

/-- The output of a case can be judged. -/
theorem judgeCase_returns (w : RuntimeWorker) (std : Stdlib) (a : PreparedRuntimeArtifacts)
    (serves : Serves files env) {dir : PreparedRuntimeCaseDir}
    (answer : (readText files dir.answerPath).isSome) :
    (∃ status, w.judgeCase std env a dir = .ok status) ↔
      (∀ spj, a.spjArtifacts = some spj → StageCutsCleanly files (w.spjCaseStage a spj dir)) ∧
      (a.spjArtifacts = none → ∃ bytes, files dir.outputPath = some bytes ∧ bytes.IsValidUTF8) := by
  unfold judgeCase
  cases a.spjArtifacts with
  | some spj =>
    have command : (w.spjCaseStage a spj dir).command ≠ [] := by
      simp [spjCaseStage, wrapWithNsjail]
    have returns := serves.executeStage_returns std command
    simp only [executeSpjCase]
    constructor
    · rintro ⟨status, judged⟩
      obtain ⟨outcome, executed, -⟩ := bind_eq_ok.1 judged
      refine ⟨?_, by simp⟩
      rintro _ ⟨⟩
      exact returns.1 ⟨outcome, executed⟩
    · rintro ⟨clean, -⟩
      obtain ⟨outcome, executed⟩ := returns.2 (clean spj rfl)
      rw [executed]
      exact ⟨_, rfl⟩
  | none =>
    obtain ⟨expected, read⟩ := Option.isSome_iff_exists.1 answer
    rw [← readText_isSome files]
    simp only [bind_eq_ok, readFile_eq_ok, serves.read, read]
    constructor
    · rintro ⟨status, output, there, -⟩
      exact ⟨by simp, fun _ => by rw [there]; rfl⟩
    · rintro ⟨-, decodes⟩
      obtain ⟨output, there⟩ := Option.isSome_iff_exists.1 (decodes trivial)
      exact ⟨_, output, there, expected, rfl, rfl⟩

/-- A case has a status exactly when it can be printed. -/
theorem judged_iff_printable (serves : Serves files env) (exits : Exits files env a)
    (command : item.2.command ≠ []) (mem : item ∈ a.cases.zip a.runStages) :
    (∃ status, w.JudgedAs std env a item status) ↔ w.Printable files a item := by
  obtain ⟨dir, stage⟩ := item
  obtain ⟨listed, run⟩ := List.of_mem_zip mem
  have returns := serves.executeStage_returns std command
  have judges := judgeCase_returns w std a serves (exits.answers dir listed)
  have succeeds : ∀ outcome, executeStage std env stage = .ok outcome →
      outcome.status = .succeeded := by
    intro outcome executed
    obtain ⟨report, _, _, waited, -, -, rfl⟩ := executeStage_ok executed
    simp [stageOutcome, exits.zero stage run report waited]
  constructor
  · rintro ⟨status, outcome, executed, judged⟩
    rw [caseStatus, if_pos (succeeds outcome executed)] at judged
    obtain ⟨judge, decodes⟩ := judges.1 ⟨status, judged⟩
    exact ⟨returns.1 ⟨outcome, executed⟩, judge, decodes⟩
  · intro printable
    obtain ⟨outcome, executed⟩ := returns.2 printable.cuts
    obtain ⟨status, judged⟩ := judges.2 ⟨printable.judge, printable.decodes⟩
    exact ⟨status, outcome, executed, by rw [caseStatus, if_pos (succeeds outcome executed), judged]⟩

/-- A compile stage that succeeds lets the execution go on. -/
theorem runCompile_of_succeeds {stage : Option RuntimePreparedStage}
    (succeeds : CompileSucceeds std env stage) :
    ∃ ran, runCompile std env stage = .ok ran ∧ stageFailed ran = false := by
  cases stage with
  | none => exact ⟨none, rfl, rfl⟩
  | some prepared =>
    obtain ⟨outcome, executed, succeeded⟩ := succeeds prepared rfl
    refine ⟨some outcome, ?_, by simp [stageFailed, succeeded]⟩
    rw [runCompile, executed]
    rfl

theorem runCase_of_judged (distinct : (a.cases.map (·.caseNo)).Nodup) (mem : item.1 ∈ a.cases)
    (own : RunsCase item.1 item.2) {status : RuntimeCaseFinalStatus}
    (judged : w.JudgedAs std env a item status) :
    ∃ result, w.runCase std env a item.2 = .ok result := by
  obtain ⟨outcome, executed, judged⟩ := judged
  refine ⟨caseOutcome item.1.caseNo item.2 outcome status, ?_⟩
  rw [runCase, executed, own.1, caseNoOfStage_name]
  simp only [bind, Except.bind, findCase_own distinct mem, judged]
  rfl

/-- The loop over the cases ends when every case that it reaches can be judged. -/
theorem runCases_returns (wf : a.WellFormed)
    {before items : List (PreparedRuntimeCaseDir × RuntimePreparedStage)}
    (split : a.cases.zip a.runStages = before ++ items)
    (accepted : ∀ earlier ∈ before, w.CaseAccepted std env a earlier)
    (judged : ∀ front item after, a.cases.zip a.runStages = front ++ item :: after →
      (∀ earlier ∈ front, w.CaseAccepted std env a earlier) →
      ∃ status, w.JudgedAs std env a item status)
    (results : List RuntimeCaseOutcome) :
    ∃ outcome, w.runCases std env a results (items.map (·.2)) = .ok outcome := by
  induction items generalizing before results with
  | nil => exact ⟨_, rfl⟩
  | cons item items ih =>
    have mem : item ∈ a.cases.zip a.runStages := by
      rw [split]
      simp
    obtain ⟨listed, own⟩ := runsCase_of_items wf mem
    obtain ⟨status, there⟩ := judged before item items split accepted
    obtain ⟨result, ran⟩ := runCase_of_judged wf.distinct listed own there
    obtain ⟨-, -, reported⟩ := runCase_reports wf.distinct listed own ran
    simp only [List.map_cons, runCases, ran, bind, Except.bind]
    by_cases passed : result.status = .accepted
    · rw [if_pos passed]
      rw [passed] at reported
      have longer : ∀ earlier ∈ before ++ [item], w.CaseAccepted std env a earlier := by
        intro earlier mem
        rcases List.mem_append.1 mem with old | new
        · exact accepted earlier old
        · obtain rfl := List.mem_singleton.1 new
          exact judgedAs_accepted.1 reported
      exact ih (by rw [split]; simp) longer _
    · rw [if_neg passed]
      exact ⟨_, rfl⟩

/-- Where the loop ends, every case that was reached is reported. -/
theorem reports_of_runCases (wf : a.WellFormed) {results : List RuntimeCaseOutcome}
    {status : RuntimeTaskLifecycleStatus} (reached : w.Reached std env a item)
    (run : w.runCases std env a [] a.runStages = .ok (results, status)) :
    ∃ result ∈ results, w.Reports std env a item result := by
  have reportsOf : ∀ items good, List.Forall₂ (fun item result => w.Reports std env a item result ∧
      result.status = .accepted) items good → item ∈ items →
      ∃ result ∈ good, w.Reports std env a item result := by
    intro items good all mem
    induction all with
    | nil => cases mem
    | cons reported _ ih =>
      rcases List.mem_cons.1 mem with rfl | later
      · exact ⟨_, List.mem_cons_self, reported.1⟩
      · obtain ⟨result, there, reports⟩ := ih later
        exact ⟨result, List.mem_cons_of_mem _ there, reports⟩
  obtain ⟨front, after, split, accepted⟩ := reached.before
  rw [← stages_of_items wf] at run
  rcases runCases_ok wf.distinct (fun _ mem => runsCase_of_items wf mem) run with
    ⟨-, good, same, all⟩ | ⟨-, before, bad, rest, good, last, stopped, same, all, reported, rejected⟩
  · obtain rfl : results = good := same
    exact reportsOf _ _ all (by rw [split]; simp)
  · have stuck : ¬ w.CaseAccepted std env a bad := by
      intro passed
      obtain ⟨-, -, judged⟩ := reported
      exact rejected (judgedAs_unique judged (judgedAs_accepted.2 passed))
    subst same
    rw [List.nil_append]
    -- The case that stopped the loop is not in front of one that was reached.
    rw [split] at stopped
    rcases List.append_eq_append_iff.1 stopped with ⟨between, rfl, tail⟩ | ⟨between, rfl, tail⟩
    · cases between with
      | nil =>
        obtain ⟨rfl, -⟩ := List.cons.inj tail
        exact ⟨last, by simp, reported⟩
      | cons head between =>
        obtain ⟨rfl, -⟩ := List.cons.inj tail
        obtain ⟨result, there, reports⟩ := reportsOf _ _ all (by simp)
        exact ⟨result, by simp [there], reports⟩
    · cases between with
      | nil =>
        obtain ⟨rfl, -⟩ := List.cons.inj tail
        exact ⟨last, by simp, reported⟩
      | cons head between =>
        obtain ⟨rfl, -⟩ := List.cons.inj tail
        exact absurd (accepted bad (by simp)) stuck

/-- With every compile stage passed, the cases decide whether there is an outcome. -/
theorem execute_of_reached (reached : w.Reached std env a item) : ∃ compile judgeCompile,
    w.execute std env a = (w.runCases std env a [] a.runStages).map fun (cases, finalStatus) =>
      { compile, judgeCompile, cases, finalStatus } := by
  obtain ⟨compile, compiled, fine⟩ := runCompile_of_succeeds reached.compile
  obtain ⟨judgeCompile, judgeCompiled, judgeFine⟩ := runCompile_of_succeeds reached.judgeCompile
  refine ⟨compile, judgeCompile, ?_⟩
  rw [judgeCompileStage] at judgeCompiled
  simp only [execute, compiled, judgeCompiled, bind, Except.bind, fine, judgeFine,
    Bool.false_eq_true, if_false]
  cases w.runCases std env a [] a.runStages <;> rfl

theorem item_of_reached (reached : w.Reached std env a item) :
    item ∈ a.cases.zip a.runStages := by
  obtain ⟨before, after, split, -⟩ := reached.before
  rw [split]
  simp

/-- Cases with one number are the same. -/
theorem item_of_caseNo (wf : a.WellFormed) {other : PreparedRuntimeCaseDir × RuntimePreparedStage}
    (mem : item ∈ a.cases.zip a.runStages) (mem' : other ∈ a.cases.zip a.runStages)
    (same : item.1.caseNo = other.1.caseNo) : item = other := by
  have numbers : ((a.cases.zip a.runStages).map (·.1.caseNo)).Nodup := by
    have scores := congrArg (List.map Prod.fst) (scores_of_items wf)
    simp only [PreparedRuntimeArtifacts.scores, List.map_map, Function.comp_def] at scores
    rw [scores]
    exact wf.distinct
  exact List.inj_on_of_nodup_map numbers mem mem' same

/-- The cases of an outcome are those that have been reached. -/
theorem reached_iff_reported (wf : a.WellFormed) {outcome : RuntimeExecutionOutcome}
    (run : w.execute std env a = .ok outcome) (mem : item ∈ a.cases.zip a.runStages) :
    w.Reached std env a item ↔ item.1.caseNo ∈ outcome.cases.map (·.caseNo) := by
  constructor
  · intro reached
    obtain ⟨compile, judgeCompile, executed⟩ := execute_of_reached reached
    rw [run] at executed
    cases ran : w.runCases std env a [] a.runStages with
    | error e =>
      rw [ran] at executed
      cases executed
    | ok results =>
      rw [ran] at executed
      cases executed
      obtain ⟨result, there, number, -⟩ := reports_of_runCases wf reached ran
      exact List.mem_map.2 ⟨result, there, number⟩
  · intro reported
    rcases (execute_ok wf run).2 with ⟨-, all, -⟩ | ⟨-, failure, -, first⟩
    · obtain ⟨before, after, split⟩ := List.append_of_mem mem
      refine ⟨all.compile, all.judgeCompile, before, after, split, ?_⟩
      intro earlier old
      exact (List.forall₂_iff_zip.1 all.cases).2 (by simp [split, old])
    · generalize outcome.cases.map (·.caseNo) = numbers at first reported
      cases first with
      | compile | judgeCompile => cases reported
      | @case before after bad status compile judgeCompile split accepted judged rejected =>
        obtain ⟨other, old, same⟩ := List.mem_map.1 reported
        have listed : other ∈ a.cases.zip a.runStages := by
          rw [split, List.append_cons]
          exact List.mem_append_left _ old
        obtain rfl := item_of_caseNo wf mem listed same.symm
        refine ⟨compile, judgeCompile, ?_⟩
        rcases List.mem_append.1 old with earlier | last
        · obtain ⟨front, back, rfl⟩ := List.append_of_mem earlier
          refine ⟨front, back ++ bad :: after, by simp [split], ?_⟩
          exact fun first mem => accepted first (by simp [mem])
        · obtain rfl := List.mem_singleton.1 last
          exact ⟨before, after, split, accepted⟩

/-- Publishing a snapshot stores it and sends one event. -/
theorem exec_publish {allowed : (c : ServiceCmd) → c.Answer → Prop} {task : RuntimeTask}
    {attempt : Nat} {snapshot : RuntimeTaskSnapshot} {log log' : List (Sigma ServiceCmd.Answer)}
    {o : Except AppError Unit}
    (run : Exec (logging allowed) (publish task attempt snapshot) log o log') :
    o = .ok () ∧ ∃ (event : RuntimeTaskEvent) (answer : AppResult Unit),
      log' = log ++ [⟨.updateSnapshot snapshot, ()⟩, ⟨.onEvent event, answer⟩] := by
  obtain ⟨stored, log₁, ⟨-, rfl⟩, run⟩ := exec_call.1 run
  obtain ⟨answer, log₂, ⟨-, rfl⟩, run⟩ := exec_call.1 run
  obtain ⟨rfl, rfl⟩ := exec_ret.1 run
  exact ⟨rfl, _, answer, List.append_assoc _ _ _⟩

/-- The commands of a delivery with an outcome. -/
theorem runDelivery_log {outcome : RuntimeExecutionOutcome}
    (run : w.execute std env a = .ok outcome) {delivery : RuntimeTaskDelivery}
    {o : Except AppError Unit} {log : List (Sigma ServiceCmd.Answer)}
    (ran : Exec (logging (w.Executes std env)) (runDelivery delivery a) [] o log) :
    ∃ (first second third answer : AppResult Unit) (e₁ e₂ e₃ : RuntimeTaskEvent), log =
      [⟨.updateSnapshot (preparedSnapshot delivery.task a), ()⟩, ⟨.onEvent e₁, first⟩,
        ⟨.updateSnapshot (startedSnapshot delivery.task a), ()⟩, ⟨.onEvent e₂, second⟩,
        ⟨.execute a, .ok outcome⟩,
        ⟨.updateSnapshot (finalSnapshot delivery.task a outcome), ()⟩, ⟨.onEvent e₃, third⟩,
        ⟨.ack delivery.deliveryId, answer⟩] := by
  rcases exec_bind.1 ran with ⟨_, _, published, ran⟩ | ⟨_, published, -⟩
  · obtain ⟨-, e₁, first, rfl⟩ := exec_publish published
    rcases exec_bind.1 ran with ⟨_, _, published, ran⟩ | ⟨_, published, -⟩
    · obtain ⟨-, e₂, second, rfl⟩ := exec_publish published
      obtain ⟨result, _, ⟨executed, rfl⟩, ran⟩ := exec_call.1 ran
      obtain rfl : result = .ok outcome := by
        simpa only [Executes, run] using executed
      change Exec (logging (w.Executes std env))
        ((publish _ _ (finalSnapshot delivery.task a outcome)).bind _) _ _ _ at ran
      rcases exec_bind.1 ran with ⟨_, _, published, ran⟩ | ⟨_, published, -⟩
      · obtain ⟨-, e₃, third, rfl⟩ := exec_publish published
        obtain ⟨answer, _, ⟨-, rfl⟩, ran⟩ := exec_call.1 ran
        obtain ⟨-, rfl⟩ := exec_ret.1 ran
        exact ⟨first, second, third, answer, e₁, e₂, e₃, rfl⟩
      · cases (exec_publish published).1
    · cases (exec_publish published).1
  · cases (exec_publish published).1

/-- A delivery with an outcome runs to its acknowledgement, whatever else fails. -/
theorem acknowledges_of_execute {outcome : RuntimeExecutionOutcome}
    (run : w.execute std env a = .ok outcome) (delivery : RuntimeTaskDelivery) :
    w.Acknowledges std env delivery a outcome := by
  constructor
  · have publishes : ∀ log snapshot, ∃ log', Exec (logging (w.Executes std env))
        (publish delivery.task delivery.attempt snapshot) log (.ok ()) log' := by
      intro log snapshot
      exact ⟨_, exec_call.2 ⟨(), _, ⟨trivial, rfl⟩,
        exec_call.2 ⟨.ok (), _, ⟨trivial, rfl⟩, .ret () _⟩⟩⟩
    have executed : w.Executes std env (.execute a) (.ok outcome) := by
      simp only [Executes, run]
    obtain ⟨log₁, first⟩ := publishes [] (preparedSnapshot delivery.task a)
    obtain ⟨log₂, second⟩ := publishes log₁ (startedSnapshot delivery.task a)
    obtain ⟨log₃, third⟩ := publishes (log₂ ++ [⟨.execute a, .ok outcome⟩])
      (finalSnapshot delivery.task a outcome)
    have settles : Exec (logging (w.Executes std env)) (do
        publish delivery.task delivery.attempt (finalSnapshot delivery.task a outcome)
        let _ ← Prog.op (ServiceCmd.ack delivery.deliveryId)
        return () : ServiceProg Unit) (log₂ ++ [⟨.execute a, .ok outcome⟩]) (.ok ())
        (log₃ ++ [⟨.ack delivery.deliveryId, .ok ()⟩]) :=
      exec_bind.2 (.inl ⟨(), log₃, third, exec_call.2 ⟨.ok (), _, ⟨trivial, rfl⟩, .ret () _⟩⟩)
    refine ⟨log₃ ++ [⟨.ack delivery.deliveryId, .ok ()⟩], ?_⟩
    refine exec_bind.2 (.inl ⟨(), log₁, first, exec_bind.2 (.inl ⟨(), log₂, second, ?_⟩)⟩)
    exact exec_call.2 ⟨.ok outcome, _, ⟨executed, rfl⟩, settles⟩
  · intro o log ran
    obtain ⟨first, second, third, answer, e₁, e₂, e₃, rfl⟩ := runDelivery_log run ran
    exact ⟨[_, _, _, _, _], [_], answer, rfl⟩
  · intro o log ran
    obtain ⟨first, second, third, answer, e₁, e₂, e₃, rfl⟩ := runDelivery_log run ran
    simp

variable {payload : OjJudgeTask} {ulid taskId : String} {σ : Type}
  {H : Handler σ FsCmd (fun _ => Bool)} {s t : σ}

/-- Every case that is run gets a verdict and every delivery is acknowledged with it, whatever the
programs print, if and only if what is printed can be cut and decoded. -/
theorem judges_iff_printable
    (prepared : Exec H (w.prepareOjTask ulid taskId payload) s (.ok a) t)
    (serves : Serves files env) (exits : Exits files env a) :
    (∀ item, w.Reached std env a item → w.Judges std env a item) ↔
      ∀ item, w.Reached std env a item → w.Printable files a item := by
  have ready := prepared.returns (prepareOjTask_returns ulid taskId)
  have wf := ready.wellFormed
  obtain ⟨-, -, commands⟩ := command_ne_nil ready
  have statuses : ∀ item, w.Reached std env a item →
      ((∃ status, w.JudgedAs std env a item status) ↔ w.Printable files a item) := by
    intro item reached
    have mem := item_of_reached reached
    exact judged_iff_printable serves exits (commands _ (List.of_mem_zip mem).2) mem
  constructor
  · intro judges item reached
    obtain ⟨outcome, -, ⟨result, -, -, -, judged⟩, -⟩ := judges item reached
    exact (statuses item reached).1 ⟨_, judged⟩
  · intro printable item reached
    have judged : ∀ front item after, a.cases.zip a.runStages = front ++ item :: after →
        (∀ earlier ∈ front, w.CaseAccepted std env a earlier) →
        ∃ status, w.JudgedAs std env a item status := by
      intro front other after split accepted
      have met : w.Reached std env a other :=
        ⟨reached.compile, reached.judgeCompile, front, after, split, accepted⟩
      exact (statuses other met).2 (printable other met)
    have ends := runCases_returns wf (List.nil_append _).symm (by simp) judged []
    rw [stages_of_items wf] at ends
    obtain ⟨⟨results, status⟩, ran⟩ := ends
    obtain ⟨compile, judgeCompile, executed⟩ := execute_of_reached reached
    rw [ran] at executed
    exact ⟨_, executed, reports_of_runCases wf reached ran, acknowledges_of_execute executed⟩

/-- The machine on which every process exits with code zero and the files are as given. -/
def printingEnv (files : String → Option ByteArray) : ExecutionEnv where
  createFile := fun _ => .ok ()
  openFile := fun _ => .ok ()
  spawn := fun _ => .ok ()
  wait := fun stage => .ok { exited 0 10 with
    stdout := readText files stage.stdoutPath
    stderr := readText files stage.stderrPath }
  readToString := readText files

theorem printingEnv_serves : Serves files (printingEnv files) where
  create := fun _ => rfl
  opens := fun _ => rfl
  spawn := fun _ => rfl
  wait := fun _ => ⟨_, rfl, rfl, rfl⟩
  read := fun _ => rfl

/-- A delivery whose execution fails is retried. -/
theorem runDelivery_retries {error : AppError}
    (run : w.execute std env a = .error (.error error)) {delivery : RuntimeTaskDelivery}
    {o : Except AppError Unit} {log : List (Sigma ServiceCmd.Answer)}
    (ran : Exec (logging (w.Executes std env)) (runDelivery delivery a) [] o log) :
    ∃ result delayMs, ⟨.retry delivery.deliveryId ("runtime execution failed: " ++ error.display)
      delayMs, result⟩ ∈ log := by
  rcases exec_bind.1 ran with ⟨_, _, published, ran⟩ | ⟨_, published, -⟩
  · obtain ⟨-, e₁, first, rfl⟩ := exec_publish published
    rcases exec_bind.1 ran with ⟨_, _, published, ran⟩ | ⟨_, published, -⟩
    · obtain ⟨-, e₂, second, rfl⟩ := exec_publish published
      obtain ⟨answer, _, ⟨executed, rfl⟩, ran⟩ := exec_call.1 ran
      obtain rfl : answer = .error error := by
        simpa only [Executes, run] using executed
      obtain ⟨result, _, ⟨-, rfl⟩, ran⟩ := exec_call.1 ran
      obtain ⟨-, e₃, third, rfl⟩ := exec_publish ran
      exact ⟨result, delivery.task.retryPolicy.retryDelayMs, by simp⟩
    · cases (exec_publish published).1
  · cases (exec_publish published).1

end Printed

section Samples

/-- The output of the first case is one byte, and all other files are empty. -/
def byteFiles (byte : UInt8) (path : String) : Option ByteArray :=
  if path = "/var/nexus/rt-01/cases/case_001/output.txt" then some ⟨#[byte]⟩ else some .empty

theorem judges_iff_printable_of_sample : ∃ a,
    (sampleWorker.prepareOjTask "01" "task-1" (sampleTask "task-1" "judge" 3).judge).eval
      granted () = (.ok a, ()) ∧
    ((∀ item, sampleWorker.Reached sampleStdlib (printingEnv (byteFiles 65)) a item →
        sampleWorker.Judges sampleStdlib (printingEnv (byteFiles 65)) a item) ↔
      ∀ item, sampleWorker.Reached sampleStdlib (printingEnv (byteFiles 65)) a item →
        sampleWorker.Printable (byteFiles 65) a item) := by
  refine ⟨_, rfl, ?_⟩
  have prepared : Exec (fun _ _ _ _ => True) (sampleWorker.prepareOjTask "01" "task-1"
      (sampleTask "task-1" "judge" 3).judge) () (.ok _) () :=
    Exec.of_eval (h := granted) (v := id) (fun _ _ => trivial) _ ()
  refine judges_iff_printable prepared printingEnv_serves ⟨?_, by decide +kernel⟩
  rintro stage - _ ⟨⟩
  rfl

/-- A program that prints the byte 255 is retried. -/
theorem sample_byte_retried : ∃ a item,
    (sampleWorker.prepareOjTask "01" "task-1" (sampleTask "task-1" "judge" 3).judge).eval
      granted () = (.ok a, ()) ∧
    Serves (byteFiles 255) (printingEnv (byteFiles 255)) ∧
    Exits (byteFiles 255) (printingEnv (byteFiles 255)) a ∧
    sampleWorker.Reached sampleStdlib (printingEnv (byteFiles 255)) a item ∧
    ¬ sampleWorker.Judges sampleStdlib (printingEnv (byteFiles 255)) a item ∧
    ∀ delivery o log, Exec (logging (sampleWorker.Executes sampleStdlib
        (printingEnv (byteFiles 255)))) (runDelivery delivery a) [] o log →
      ∃ result delayMs, ⟨.retry delivery.deliveryId
        ("runtime execution failed: " ++ AppError.internal.display) delayMs, result⟩ ∈ log := by
  refine ⟨_, _, rfl, printingEnv_serves, ⟨?_, by decide +kernel⟩, ⟨?_, ?_, [], [], rfl, ?_⟩, ?_, ?_⟩
  · rintro stage - _ ⟨⟩
    rfl
  · rintro _ ⟨⟩
    exact ⟨_, rfl, rfl⟩
  · rintro _ ⟨⟩
  · simp
  · rintro ⟨outcome, executed, -⟩
    cases executed.symm.trans (by rfl : _ = Except.error (ExecutionFault.error .internal))
  · intro delivery o log ran
    exact runDelivery_retries (by rfl) ran

end Samples

end RuntimeWorker

end NexusCore.Runtime
