import NexusCore.Oj.Creation
import NexusCore.Oj.Durability
import NexusCore.Oj.Verdict
import NexusCore.Runtime.Printed

/-!
# Maximal scores

The maximal score of a submission is added up from the cases that its last event reports. An
execution stops at the first failure, and a dead letter reports no case at all, so that the sum is
that of the problem exactly if every case with a positive score has been run.
-/

namespace NexusCore.Oj

open NexusCore.Lib NexusCore.Runtime NexusCore.Jobs RuntimeTaskService

section Attempts

/-- One attempt at a task: the worker and its delivery, what the preparation of the artifacts has
given, and the machine that executes them. A delivery is prepared and executed at most once. -/
structure Attempt where
  worker : RuntimeWorker
  delivery : RuntimeTaskDelivery
  prepared : AppResult PreparedRuntimeArtifacts
  env : ExecutionEnv

namespace Attempt

/-- The artifacts have been prepared for the task, on some file system. -/
def Possible (x : Attempt) : Prop :=
  ∃ (σ : Type) (H : Handler σ FsCmd fun _ => Bool) (ulid : String) (s t : σ),
    Exec H (x.worker.prepareOjTask ulid x.delivery.task.taskId x.delivery.task.judge) s x.prepared t

/-- The answers in an attempt; those of the queue and of the observer are free. -/
def Answers (std : Stdlib) (x : Attempt) : (c : ServiceCmd) → c.Answer → Prop
  | .prepare _, answer => answer = x.prepared
  | .execute artifacts, answer => x.worker.Executes std x.env (.execute artifacts) answer
  | _, _ => True

/-- An event is sent in the attempt, which may be cut short. -/
def Sends (std : Stdlib) (x : Attempt) (event : RuntimeTaskEvent) : Prop :=
  ∃ log answer, ⟨.onEvent event, answer⟩ ∈ log ∧
    ((∃ o, Exec (logging (x.Answers std)) (processDelivery x.delivery) [] o log) ∨
      Stops (logging (x.Answers std)) (processDelivery x.delivery) [] log)

/-- The case with a number is run. -/
def Runs (std : Stdlib) (x : Attempt) (caseNo : UInt32) : Prop :=
  ∃ artifacts item, x.prepared = .ok artifacts ∧ item.1.caseNo = caseNo ∧
    x.worker.Reached std x.env artifacts item

/-- How an attempt ends: with an outcome, or as a dead letter without one. -/
inductive Ends (std : Stdlib) (x : Attempt) (event : RuntimeTaskEvent) : Prop where
  | outcome {artifacts : PreparedRuntimeArtifacts} {outcome : RuntimeExecutionOutcome} :
      x.prepared = .ok artifacts → x.worker.execute std x.env artifacts = .ok outcome →
      event.status = outcome.finalStatus → event.outcome = some outcome → Ends std x event
  | deadLettered : event.status = .deadLettered → event.outcome = none → Ends std x event

end Attempt

/-- A submission to a problem that an attempt at its task has brought to an end: the event of the
attempt was applied last, and later ones were for other submissions. -/
structure Judgement (std : Stdlib) (problem : Problem) where
  detail : SubmissionDetail
  job : JobDefinition
  built : OjService.jobOf problem detail = .ok job
  attempt : Attempt
  carried : mapJobToRuntimeTask job = .ok attempt.delivery.task
  possible : attempt.Possible
  event : RuntimeTaskEvent
  sent : attempt.Sends std event
  terminal : IsTerminal event
  submissions : InMemorySubmissionRepository
  later : List RuntimeTaskEvent
  others : ∀ other ∈ later, other.submissionId ≠ some detail.submission.submissionId.value
  stored : SubmissionDetail
  found : InMemorySubmissionRepository.find
    (later.foldl InMemorySubmissionRepository.applyRuntimeEvent
      (submissions.applyRuntimeEvent event)) detail.submission.submissionId.value = some stored

def Problem.totalScore (problem : Problem) : Nat :=
  (problem.testcases.map (·.score.toNat)).sum

/-- Every case with a positive score is run, and the result is not lost in a dead letter. -/
def Judgement.RunsScored {std : Stdlib} {problem : Problem} (j : Judgement std problem) : Prop :=
  ∀ testcase ∈ problem.testcases, testcase.score ≠ 0 →
    j.event.status ≠ .deadLettered ∧ j.attempt.Runs std testcase.caseNo

end Attempts

section Events

variable {std : Stdlib} {x : Attempt} {log : List (Sigma ServiceCmd.Answer)}

/-- The events that belong to the task of a delivery. -/
def OfTask (x : Attempt) (event : RuntimeTaskEvent) : Prop :=
  event.submissionId = some x.delivery.task.judge.submissionId.value

/-- What is known of the events of an attempt. -/
def KnownEvents (std : Stdlib) (x : Attempt) (log : List (Sigma ServiceCmd.Answer)) : Prop :=
  ∀ event answer, ⟨.onEvent event, answer⟩ ∈ log →
    OfTask x event ∧ (IsTerminal event → x.Ends std event)

theorem knownEvents_other {c : ServiceCmd} {answer : c.Answer} (known : KnownEvents std x log)
    (other : ∀ event, c ≠ .onEvent event) : KnownEvents std x (log ++ [⟨c, answer⟩]) := by
  intro event answer' mem
  rcases List.mem_append.1 mem with old | new
  · exact known event answer' old
  · have same := congrArg Sigma.fst (List.mem_singleton.1 new)
    exact absurd same.symm (other event)

/-- A snapshot is published whose event is known. -/
theorem publish_known (snapshot : RuntimeTaskSnapshot) (known : KnownEvents std x log)
    (ends : IsTerminal (snapshotEvent x.delivery.task x.delivery.attempt snapshot snapshot.artifacts
        snapshot.outcome) →
      x.Ends std (snapshotEvent x.delivery.task x.delivery.attempt snapshot snapshot.artifacts
        snapshot.outcome)) :
    Safe (logging (x.Answers std)) (KnownEvents std x) (fun _ log' => KnownEvents std x log')
      (publish x.delivery.task x.delivery.attempt snapshot) log := by
  simp only [publish, observeEvent, Prog.bind_def, Prog.op_bind, Prog.pure_def, safe_call, safe_ret]
  refine ⟨known, ?_⟩
  intro answer _ given
  obtain ⟨-, rfl⟩ := given
  have stored : KnownEvents std x (log ++ [⟨.updateSnapshot snapshot, answer⟩]) :=
    knownEvents_other known (by simp)
  refine ⟨stored, ?_⟩
  intro answer _ given
  obtain ⟨-, rfl⟩ := given
  intro event answer' mem
  rcases List.mem_append.1 mem with old | new
  · exact stored event answer' old
  · cases List.mem_singleton.1 new
    exact ⟨rfl, ends⟩

theorem handleDeliveryFailure_known (artifacts : Option PreparedRuntimeArtifacts)
    (errorMessage : String) (known : KnownEvents std x log) :
    Safe (logging (x.Answers std)) (KnownEvents std x) (fun _ log' => KnownEvents std x log')
      (handleDeliveryFailure x.delivery artifacts errorMessage) log := by
  simp only [handleDeliveryFailure, Prog.bind_def, Prog.op_bind, safe_call]
  refine ⟨known, ?_⟩
  intro result _ given
  obtain ⟨-, rfl⟩ := given
  refine publish_known _ (knownEvents_other known (by simp)) ?_
  intro terminal
  cases disposition : dispositionOf result with
  | requeued =>
    rw [disposition] at terminal
    revert terminal
    simp [IsTerminal, snapshotEvent, failureSnapshot, RuntimeTask.snapshot]
  | deadLettered => exact .deadLettered rfl rfl

theorem execute_of_answer {w : RuntimeWorker} {env : ExecutionEnv}
    {artifacts : PreparedRuntimeArtifacts} {outcome : RuntimeExecutionOutcome}
    (executed : w.Executes std env (.execute artifacts) (.ok outcome)) :
    w.execute std env artifacts = .ok outcome := by
  simp only [RuntimeWorker.Executes] at executed
  cases ran : w.execute std env artifacts with
  | ok other =>
    rw [ran] at executed
    rw [Except.ok.inj executed]
  | error fault =>
    rw [ran] at executed
    cases fault <;> cases executed

theorem runDelivery_known {artifacts : PreparedRuntimeArtifacts}
    (prepared : x.prepared = .ok artifacts) (known : KnownEvents std x log) :
    Safe (logging (x.Answers std)) (KnownEvents std x) (fun _ log' => KnownEvents std x log')
      (runDelivery x.delivery artifacts) log := by
  simp only [runDelivery, Prog.bind_def]
  have waits : ∀ status message, status ≠ .completed ∧ status ≠ .failed ∧ status ≠ .deadLettered →
      ¬ IsTerminal (snapshotEvent x.delivery.task x.delivery.attempt
        (x.delivery.task.snapshot status message (some artifacts) none none) (some artifacts)
        none) := by
    intro status message other terminal
    rcases terminal with same | same | same
    · exact other.1 same
    · exact other.2.1 same
    · exact other.2.2 same
  refine .bind ((publish_known _ known fun terminal => ?_).mono (fun _ known => known) ?_)
  · exact absurd terminal (waits _ _ (by decide))
  intro published _ known
  cases published with
  | error e => exact known
  | ok =>
    refine .bind ((publish_known _ known fun terminal => ?_).mono (fun _ known => known) ?_)
    · unfold startedSnapshot at terminal
      split at terminal <;> exact absurd terminal (waits _ _ (by decide))
    intro published _ known
    cases published with
    | error e => exact known
    | ok =>
      simp only [Prog.op_bind, safe_call]
      refine ⟨known, ?_⟩
      intro answer _ given
      obtain ⟨executed, rfl⟩ := given
      have known := @knownEvents_other _ _ _ (.execute artifacts) answer known (by simp)
      cases answer with
      | error e => exact handleDeliveryFailure_known _ _ known
      | ok outcome =>
        have run := execute_of_answer executed
        refine .bind ((publish_known _ known fun _ => ?_).mono (fun _ known => known) ?_)
        · exact .outcome prepared run rfl rfl
        intro published _ known
        cases published with
        | error e => exact known
        | ok =>
          simp only [Prog.pure_def, safe_call, safe_ret]
          refine ⟨known, ?_⟩
          intro settled _ given
          obtain ⟨-, rfl⟩ := given
          exact knownEvents_other known (by simp)

theorem processDelivery_known : Safe (logging (x.Answers std)) (KnownEvents std x)
    (fun _ log' => KnownEvents std x log') (processDelivery x.delivery) [] := by
  have start : KnownEvents std x [] := by
    intro event answer mem
    cases mem
  simp only [processDelivery, Prog.bind_def]
  refine .bind ((publish_known _ start ?_).mono (fun _ known => known) ?_)
  · simp [IsTerminal, snapshotEvent, preparingSnapshot, RuntimeTask.snapshot]
  intro published _ known
  cases published with
  | error e => exact known
  | ok =>
    simp only [Prog.op_bind, safe_call]
    refine ⟨known, ?_⟩
    intro answer _ given
    obtain ⟨prepared, rfl⟩ := given
    have known := @knownEvents_other _ _ _ (.prepare x.delivery.task) answer known (by simp)
    cases answer with
    | error e => exact handleDeliveryFailure_known _ _ known
    | ok artifacts => exact runDelivery_known prepared.symm known

/-- Every event of an attempt belongs to its task, and a terminal one says how it ends. -/
theorem Attempt.Sends.known {event : RuntimeTaskEvent} (sent : x.Sends std event) :
    OfTask x event ∧ (IsTerminal event → x.Ends std event) := by
  obtain ⟨log, answer, mem, ⟨o, run⟩ | stop⟩ := sent
  · exact processDelivery_known.exec run event answer mem
  · exact processDelivery_known.stops stop event answer mem

end Events

section Scores

variable {std : Stdlib} {problem : Problem}

/-- The job of a submission carries its identifier and the test cases of the problem. -/
theorem judge_of_built {detail : SubmissionDetail} {job : JobDefinition} {task : RuntimeTask}
    (built : OjService.jobOf problem detail = .ok job) (carried : mapJobToRuntimeTask job = .ok task) :
    task.judge.submissionId = detail.submission.submissionId ∧
      task.judge.testcases = problem.testcases.map mapRuntimeTestcase := by
  simp only [OjService.jobOf, bind_eq_ok] at built
  obtain ⟨_, -, _, -, built⟩ := built
  split at built
  · cases built
  · rw [bind_eq_ok] at built
    obtain ⟨mode, -, made⟩ := built
    cases made
    cases carried
    exact ⟨rfl, rfl⟩

/-- What is stored is the projection of the last event of the submission. -/
theorem Judgement.stored_maxScore (j : Judgement std problem) :
    j.stored.submission.maxScore = (deriveSubmissionProjection j.event).maxScore := by
  have named : j.event.submissionId = some j.detail.submission.submissionId.value := by
    rw [j.sent.known.1, (judge_of_built j.built j.carried).1]
  have kept : ∀ later : List RuntimeTaskEvent,
      (∀ other ∈ later, other.submissionId ≠ some j.detail.submission.submissionId.value) →
      ∀ submissions : InMemorySubmissionRepository,
      InMemorySubmissionRepository.find
        (later.foldl InMemorySubmissionRepository.applyRuntimeEvent submissions)
        j.detail.submission.submissionId.value =
      submissions.find j.detail.submission.submissionId.value := by
    intro later
    induction later with
    | nil => exact fun _ _ => rfl
    | cons event later ih =>
      intro others submissions
      rw [List.forall_mem_cons] at others
      rw [List.foldl_cons, ih others.2]
      cases concerned : event.submissionId with
      | none => simp [InMemorySubmissionRepository.applyRuntimeEvent, concerned]
      | some submissionId =>
        apply InMemorySubmissionRepository.find_applyRuntimeEvent_other concerned
        intro same
        exact others.1 (by rw [concerned, same])
  have found := j.found
  rw [kept j.later j.others, InMemorySubmissionRepository.find_applyRuntimeEvent named] at found
  obtain ⟨before, -, same⟩ := Option.map_eq_some_iff.1 found
  rw [← same]
  rfl

/-- Numbers in front add up to the whole sum exactly if the others are zero. -/
theorem sum_front_iff (front rest : List (UInt32 × UInt32)) :
    (front.map (·.2.toNat)).sum = ((front ++ rest).map (·.2.toNat)).sum ↔
      ∀ pair ∈ rest, pair.2 = 0 := by
  have zero : (rest.map (·.2.toNat)).sum = 0 ↔ ∀ pair ∈ rest, pair.2 = 0 := by
    rw [List.sum_eq_zero_iff_forall_eq_nat, List.forall_mem_map]
    simp [← UInt32.toNat_inj]
  rw [← zero, List.map_append, List.sum_append]
  omega

theorem totalScore_toNat {outcome : RuntimeExecutionOutcome}
    (fits : (outcome.cases.map (·.score.toNat)).sum < 2 ^ 32) :
    (Oj.totalScore (some outcome)).toNat = (outcome.cases.map (·.score.toNat)).sum := by
  simp only [Oj.totalScore, Option.map_some, Option.getD_some]
  rw [toNat_sum, sum_scores]
  rwa [sum_scores]

section Outcome

variable {w : RuntimeWorker} {env : ExecutionEnv} {payload : OjJudgeTask}
  {a : PreparedRuntimeArtifacts} {outcome : RuntimeExecutionOutcome}

theorem scores_of_prepared (ready : w.Prepared payload a) :
    a.scores = payload.testcases.map fun testcase => (testcase.caseNo, testcase.score) := by
  obtain ⟨-, executionId, taskId, plan, spj, rfl, -, -⟩ := ready
  simp [PreparedRuntimeArtifacts.scores, RuntimeWorker.artifacts, RuntimeWorker.caseDir, Function.comp_def]

theorem item_of_score {pair : UInt32 × UInt32} (wf : a.WellFormed) (mem : pair ∈ a.scores) :
    ∃ item ∈ a.cases.zip a.runStages, item.1.caseNo = pair.1 := by
  rw [← RuntimeWorker.scores_of_items wf] at mem
  obtain ⟨item, listed, rfl⟩ := List.mem_map.1 mem
  exact ⟨item, listed, rfl⟩

/-- An outcome has the whole score exactly if every case with a positive score has been reached. -/
theorem whole_score_iff (ready : w.Prepared payload a) (run : w.execute std env a = .ok outcome) :
    (outcome.cases.map (·.score.toNat)).sum = (payload.testcases.map (·.score.toNat)).sum ↔
      ∀ testcase ∈ payload.testcases, testcase.score ≠ 0 →
        ∃ item, item.1.caseNo = testcase.caseNo ∧ w.Reached std env a item := by
  have wf := ready.wellFormed
  have scores := scores_of_prepared ready
  obtain ⟨rest, split⟩ := (RuntimeWorker.execute_ok wf run).1
  have sums : (outcome.cases.map (·.score.toNat)).sum = (payload.testcases.map (·.score.toNat)).sum ↔
      ∀ pair ∈ rest, pair.2 = 0 := by
    rw [← sum_front_iff outcome.scores rest, split, scores]
    simp [RuntimeExecutionOutcome.scores, Function.comp_def]
  have numbers : ∀ pair ∈ outcome.scores, pair.1 ∈ outcome.cases.map (·.caseNo) := by
    intro pair mem
    obtain ⟨result, there, rfl⟩ := List.mem_map.1 mem
    exact List.mem_map_of_mem there
  rw [sums]
  constructor
  · intro zero testcase mem positive
    have whole : (testcase.caseNo, testcase.score) ∈ a.scores := by
      rw [scores]
      exact List.mem_map_of_mem mem
    obtain ⟨item, listed, number⟩ := item_of_score wf whole
    refine ⟨item, number, (RuntimeWorker.reached_iff_reported wf run listed).2 ?_⟩
    rw [number]
    rw [← split] at whole
    rcases List.mem_append.1 whole with front | back
    · exact numbers _ front
    · exact absurd (zero _ back) positive
  · intro reached pair mem
    by_contra positive
    have whole : pair ∈ a.scores := by
      rw [← split]
      exact List.mem_append_right _ mem
    have distinct : (a.scores.map (·.1)).Nodup := by
      simpa [PreparedRuntimeArtifacts.scores, Function.comp_def] using wf.distinct
    rw [scores] at whole
    obtain ⟨testcase, given, rfl⟩ := List.mem_map.1 whole
    obtain ⟨item, number, there⟩ := reached testcase given positive
    have reported := (RuntimeWorker.reached_iff_reported wf run
      (RuntimeWorker.item_of_reached there)).1 there
    rw [number] at reported
    obtain ⟨result, front, same⟩ := List.mem_map.1 reported
    rw [← split, List.map_append, List.nodup_append] at distinct
    have early : testcase.caseNo ∈ outcome.scores.map (·.1) := by
      rw [← same]
      exact List.mem_map.2 ⟨_, List.mem_map_of_mem front, rfl⟩
    exact distinct.2.2 _ early _ (List.mem_map_of_mem mem) rfl

end Outcome

theorem totalScore_eq_zero : problem.totalScore = 0 ↔ ∀ testcase ∈ problem.testcases,
    testcase.score = 0 := by
  unfold Problem.totalScore
  rw [List.sum_eq_zero_iff_forall_eq_nat]
  simp [← UInt32.toNat_inj]

/-- The maximal score of a submission is that of the problem exactly if every case that has a score
was run. -/
theorem Judgement.maxScore_eq_iff (j : Judgement std problem) (fits : problem.totalScore < 2 ^ 32) :
    j.stored.submission.maxScore.toNat = problem.totalScore ↔ j.RunsScored := by
  have testcases := (judge_of_built j.built j.carried).2
  rw [j.stored_maxScore]
  unfold Judgement.RunsScored
  cases j.sent.known.2 j.terminal with
  | deadLettered status none =>
    have max : (deriveSubmissionProjection j.event).maxScore = 0 := by
      simp [deriveSubmissionProjection, status, none, Oj.totalScore]
    rw [max, UInt32.toNat_zero, eq_comm, totalScore_eq_zero]
    simp [status]
  | @outcome artifacts outcome prepared run status carries =>
    obtain ⟨σ, H, ulid, s, t, preparation⟩ := j.possible
    rw [prepared] at preparation
    have ready := preparation.returns (RuntimeWorker.prepareOjTask_returns _ _)
    have total : (j.attempt.delivery.task.judge.testcases.map (·.score.toNat)).sum =
        problem.totalScore := by
      rw [testcases]
      simp [Problem.totalScore, mapRuntimeTestcase, Function.comp_def]
    have fewer : (outcome.cases.map (·.score.toNat)).sum ≤ problem.totalScore := by
      obtain ⟨rest, split⟩ := (RuntimeWorker.execute_ok ready.wellFormed run).1
      rw [scores_of_prepared ready] at split
      have sums := congrArg (fun list => (list.map fun pair => pair.2.toNat).sum) split
      simp only [RuntimeExecutionOutcome.scores, List.map_append, List.map_map, List.sum_append,
        Function.comp_def] at sums
      omega
    have finished := RuntimeWorker.execute_status run
    have max : (deriveSubmissionProjection j.event).maxScore.toNat =
        (outcome.cases.map (·.score.toNat)).sum := by
      rw [← totalScore_toNat (by omega)]
      rcases finished with done | failed
      · simp [deriveSubmissionProjection, status, done, carries]
      · simp [deriveSubmissionProjection, status, failed, carries]
    have alive : j.event.status ≠ .deadLettered := by
      rcases finished with done | failed <;> simp [*]
    have runs : ∀ caseNo, j.attempt.Runs std caseNo ↔
        ∃ item, item.1.caseNo = caseNo ∧ j.attempt.worker.Reached std j.attempt.env artifacts item := by
      intro caseNo
      constructor
      · intro ran
        obtain ⟨other, item, given, number, reached⟩ := ran
        rw [prepared] at given
        cases given
        exact ⟨item, number, reached⟩
      · intro ran
        obtain ⟨item, number, reached⟩ := ran
        exact ⟨artifacts, item, prepared, number, reached⟩
    rw [max, ← total, whole_score_iff ready run, testcases]
    simp only [List.forall_mem_map, mapRuntimeTestcase, ne_eq, alive, not_false_eq_true, true_and,
      runs]

/-- Two submissions that have come to an end have the maximal score of their problem exactly if
every case that has a score was run for both. -/
theorem max_scores_iff (first second : Judgement std problem) (fits : problem.totalScore < 2 ^ 32) :
    (first.stored.submission.maxScore.toNat = problem.totalScore ∧
        second.stored.submission.maxScore.toNat = problem.totalScore) ↔
      first.RunsScored ∧ second.RunsScored :=
  and_congr (first.maxScore_eq_iff fits) (second.maxScore_eq_iff fits)

end Scores

section Samples

/-- An attempt whose execution gives an outcome sends the final event. -/
theorem sends_finalEvent {std : Stdlib} {x : Attempt} {artifacts : PreparedRuntimeArtifacts}
    {outcome : RuntimeExecutionOutcome} (prepared : x.prepared = .ok artifacts)
    (run : x.worker.execute std x.env artifacts = .ok outcome) :
    x.Sends std (finalEvent x.delivery artifacts outcome) := by
  have executed : x.Answers std (.execute artifacts) (.ok outcome) := by
    simp only [Attempt.Answers, RuntimeWorker.Executes, run]
  have prepares : x.Answers std (.prepare x.delivery.task) (.ok artifacts) := prepared.symm
  have publishes : ∀ log snapshot, ∃ log', Exec (logging (x.Answers std))
      (publish x.delivery.task x.delivery.attempt snapshot) log (.ok ()) log' ∧
      ⟨.onEvent (snapshotEvent x.delivery.task x.delivery.attempt snapshot snapshot.artifacts
        snapshot.outcome), .ok ()⟩ ∈ log' := by
    intro log snapshot
    exact ⟨_, exec_call.2 ⟨(), _, ⟨trivial, rfl⟩,
      exec_call.2 ⟨.ok (), _, ⟨trivial, rfl⟩, .ret () _⟩⟩, by simp⟩
  obtain ⟨log₁, first, -⟩ := publishes [] (preparingSnapshot x.delivery.task)
  obtain ⟨log₂, second, -⟩ := publishes (log₁ ++ [⟨.prepare x.delivery.task, .ok artifacts⟩])
    (preparedSnapshot x.delivery.task artifacts)
  obtain ⟨log₃, third, -⟩ := publishes log₂ (startedSnapshot x.delivery.task artifacts)
  obtain ⟨log₄, last, mem⟩ := publishes (log₃ ++ [⟨.execute artifacts, .ok outcome⟩])
    (finalSnapshot x.delivery.task artifacts outcome)
  have settles : Exec (logging (x.Answers std)) (do
      publish x.delivery.task x.delivery.attempt (finalSnapshot x.delivery.task artifacts outcome)
      let _ ← Prog.op (ServiceCmd.ack x.delivery.deliveryId)
      return () : ServiceProg Unit) (log₃ ++ [⟨.execute artifacts, .ok outcome⟩]) (.ok ())
      (log₄ ++ [⟨.ack x.delivery.deliveryId, .ok ()⟩]) :=
    exec_bind.2 (.inl ⟨(), log₄, last, exec_call.2 ⟨.ok (), _, ⟨trivial, rfl⟩, .ret () _⟩⟩)
  have runs : Exec (logging (x.Answers std)) (runDelivery x.delivery artifacts)
      (log₁ ++ [⟨.prepare x.delivery.task, .ok artifacts⟩]) (.ok ())
      (log₄ ++ [⟨.ack x.delivery.deliveryId, .ok ()⟩]) := by
    refine exec_bind.2 (.inl ⟨(), log₂, second, exec_bind.2 (.inl ⟨(), log₃, third, ?_⟩)⟩)
    exact exec_call.2 ⟨.ok outcome, _, ⟨executed, rfl⟩, settles⟩
  refine ⟨log₄ ++ [⟨.ack x.delivery.deliveryId, .ok ()⟩], .ok (), List.mem_append_left _ mem,
    .inl ⟨.ok (), ?_⟩⟩
  exact exec_bind.2 (.inl ⟨(), log₁, first, exec_call.2 ⟨.ok artifacts, _, ⟨prepares, rfl⟩, runs⟩⟩)

/-- The job of a submission to the problem that a new repository starts with. -/
def seededJob : JobDefinition :=
  buildOjJudgeJob (ojJudgeJobInput twoSum (pendingDetail sampleDraft "sub-1")
    { timeLimitMs := 1000, memoryLimitKb := 50 * 1024 } .acm)

def seededDelivery : RuntimeTaskDelivery where
  deliveryId := "dlv-1"
  attempt := 1
  leasedUntil := none
  lastError := none
  task := (mapJobToRuntimeTask seededJob).toOption.getD (sampleTask "task-1" "oj_judge" 3)

/-- Its judgement on a machine on which every process ends the same way. -/
theorem judgement_of_report (report : ProcessReport) (artifacts : PreparedRuntimeArtifacts)
    (outcome : RuntimeExecutionOutcome)
    (prepared : (sampleWorker.prepareOjTask "01" seededDelivery.task.taskId
      seededDelivery.task.judge).eval granted () = (.ok artifacts, ()))
    (run : sampleWorker.execute sampleStdlib (sampleEnv report) artifacts = .ok outcome)
    (terminal : IsTerminal (finalEvent seededDelivery artifacts outcome)) :
    ∃ j : Judgement sampleStdlib twoSum, j.stored.submission.maxScore =
      (deriveSubmissionProjection (finalEvent seededDelivery artifacts outcome)).maxScore := by
  let x : Attempt := ⟨sampleWorker, seededDelivery, .ok artifacts, sampleEnv report⟩
  have possible : x.Possible := by
    refine ⟨Unit, fun _ _ _ _ => True, "01", (), (), ?_⟩
    have ran : Exec (fun _ _ _ _ => True) (sampleWorker.prepareOjTask "01"
        seededDelivery.task.taskId seededDelivery.task.judge) () _ _ :=
      Exec.of_eval (h := granted) (v := id) (fun _ _ => trivial) _ ()
    rw [prepared] at ran
    exact ran
  exact ⟨{
    detail := pendingDetail sampleDraft "sub-1"
    job := seededJob
    built := by rfl
    attempt := x
    carried := by rfl
    possible := possible
    event := finalEvent seededDelivery artifacts outcome
    sent := sends_finalEvent rfl run
    terminal := terminal
    submissions := [pendingDetail sampleDraft "sub-1"]
    later := []
    others := by simp
    stored := (pendingDetail sampleDraft "sub-1").project
      (finalEvent seededDelivery artifacts outcome)
    found := by rfl }, rfl⟩

/-- Two submissions to one problem: the accepted one has the maximal score 100, the one that does
not compile has 0. -/
theorem max_scores_differ : ∃ first second : Judgement sampleStdlib twoSum,
    twoSum.totalScore < 2 ^ 32 ∧ first.stored.submission.maxScore = 100 ∧
      second.stored.submission.maxScore = 0 := by
  obtain ⟨first, whole⟩ := judgement_of_report (exited 0 10) _ _ rfl rfl (by decide +kernel)
  obtain ⟨second, none⟩ := judgement_of_report (exited 1 10) _ _ rfl rfl (by decide +kernel)
  refine ⟨first, second, by decide, ?_, ?_⟩
  · rw [whole]
    decide +kernel
  · rw [none]
    decide +kernel

/-- The case was run for the accepted submission. -/
theorem scored_case_run : ∃ j : Judgement sampleStdlib twoSum,
    j.stored.submission.maxScore = 100 ∧ j.RunsScored := by
  obtain ⟨j, whole⟩ := judgement_of_report (exited 0 10) _ _ rfl rfl (by decide +kernel)
  have max : j.stored.submission.maxScore = 100 := by
    rw [whole]
    decide +kernel
  have equal : j.stored.submission.maxScore.toNat = twoSum.totalScore := by
    rw [max]
    rfl
  exact ⟨j, max, ((max_scores_iff j j (by decide)).1 ⟨equal, equal⟩).1⟩

end Samples

end NexusCore.Oj
