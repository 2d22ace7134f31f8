import NexusCore.Oj.Repository
import NexusCore.Runtime.Service
import NexusCore.Runtime.Verdict

/-!
# Verdicts and acknowledgements

The worker loop presents the final event of a delivery to the observer before it
acknowledges the delivery, whatever the queue, the observer and the execution answer. An
error of the observer is logged and the delivery acknowledged all the same, so the verdict
is in the store at that time exactly when the observer accepted the event.
-/

namespace NexusCore.Oj

open NexusCore.Lib NexusCore.Runtime RuntimeTaskService

/-- The commands of a worker loop with their answers, in order. -/
abbrev ServiceLog : Type := List (Sigma ServiceCmd.Answer)

/-- Executions give the outcomes that the worker can give; everything else is free. -/
def PossibleAnswer : (c : ServiceCmd) → c.Answer → Prop
  | .execute artifacts, .ok outcome => ∃ (w : RuntimeWorker) (std : Stdlib) (env : ExecutionEnv),
    w.execute std env artifacts = .ok outcome
  | _, _ => True

/-- The final event of a delivery. -/
def finalEvent (delivery : RuntimeTaskDelivery) (artifacts : PreparedRuntimeArtifacts)
    (outcome : RuntimeExecutionOutcome) : RuntimeTaskEvent :=
  snapshotEvent delivery.task delivery.attempt (finalSnapshot delivery.task artifacts outcome)
    (some artifacts) (some outcome)

/-- The events that the observer accepted. -/
def appliedEvents (log : ServiceLog) : List RuntimeTaskEvent :=
  log.filterMap fun
    | ⟨.onEvent event, .ok ()⟩ => some event
    | _ => none

/-- The deliveries that were acknowledged. -/
def ackedDeliveries (log : ServiceLog) : List String :=
  log.filterMap fun
    | ⟨.ack deliveryId, .ok ()⟩ => some deliveryId
    | _ => none

/-- The submissions after the events that the observer accepted. -/
def submissionsAfter (start : InMemorySubmissionRepository) (log : ServiceLog) :
    InMemorySubmissionRepository :=
  (appliedEvents log).foldl InMemorySubmissionRepository.applyRuntimeEvent start

/-- Before every acknowledgement, something holds of the log and the delivery id. -/
def BeforeAcks (P : ServiceLog → String → Prop) (log : ServiceLog) : Prop :=
  ∀ before deliveryId answer after,
    log = before ++ ⟨.ack deliveryId, answer⟩ :: after → P before deliveryId

theorem beforeAcks_nil {P : ServiceLog → String → Prop} : BeforeAcks P [] := by
  intro before deliveryId answer after split
  simp at split

theorem beforeAcks_snoc {P : ServiceLog → String → Prop} {log : ServiceLog}
    {entry : Sigma ServiceCmd.Answer} (acks : BeforeAcks P log)
    (last : ∀ deliveryId answer, entry = ⟨.ack deliveryId, answer⟩ → P log deliveryId) :
    BeforeAcks P (log ++ [entry]) := by
  intro before deliveryId answer after split
  rcases List.eq_nil_or_concat after with rfl | ⟨earlier, final, rfl⟩
  · obtain ⟨rfl, same⟩ := List.append_inj' split rfl
    exact last deliveryId answer (List.cons.inj same).1
  · rw [List.concat_eq_append, ← List.cons_append, ← List.append_assoc] at split
    obtain ⟨rfl, -⟩ := List.append_inj' split rfl
    exact acks before deliveryId answer earlier rfl

theorem beforeAcks_other {P : ServiceLog → String → Prop} {log : ServiceLog} {c : ServiceCmd}
    {answer : c.Answer} (acks : BeforeAcks P log) (other : ∀ deliveryId, c ≠ .ack deliveryId) :
    BeforeAcks P (log ++ [⟨c, answer⟩]) := by
  apply beforeAcks_snoc acks
  intro deliveryId answer' same
  exact absurd (congrArg Sigma.fst same) (other deliveryId)

section Rounds

variable {start : InMemorySubmissionRepository} {P : ServiceLog → String → Prop}
  {log : ServiceLog} {delivery : RuntimeTaskDelivery}

/-- Publishing a snapshot ends with the event that reports it. -/
theorem publish_safe (task : RuntimeTask) (attempt : Nat) (snapshot : RuntimeTaskSnapshot)
    (acks : BeforeAcks P log) :
    Safe (logging PossibleAnswer) (BeforeAcks P) (fun _ log' => BeforeAcks P log' ∧
      ∃ answer, log' = log ++ [⟨.updateSnapshot snapshot, ()⟩] ++
        [⟨.onEvent (snapshotEvent task attempt snapshot snapshot.artifacts snapshot.outcome),
          answer⟩])
      (publish task attempt snapshot) log := by
  simp only [publish, observeEvent, Prog.bind_def, Prog.op_bind, Prog.pure_def, safe_call, safe_ret]
  refine ⟨acks, ?_⟩
  rintro ⟨⟩ _ ⟨-, rfl⟩
  have stored := @beforeAcks_other P log (.updateSnapshot snapshot) () acks (by simp)
  refine ⟨stored, ?_⟩
  rintro answer _ ⟨-, rfl⟩
  exact ⟨beforeAcks_other stored (by simp), answer, rfl⟩

theorem handleDeliveryFailure_safe (artifacts : Option PreparedRuntimeArtifacts)
    (errorMessage : String) (acks : BeforeAcks P log) :
    Safe (logging PossibleAnswer) (BeforeAcks P) (fun _ log' => BeforeAcks P log')
      (handleDeliveryFailure delivery artifacts errorMessage) log := by
  simp only [handleDeliveryFailure, Prog.bind_def, Prog.op_bind, safe_call]
  refine ⟨acks, ?_⟩
  rintro result _ ⟨-, rfl⟩
  have tried := @beforeAcks_other P log (.retry delivery.deliveryId errorMessage
    delivery.task.retryPolicy.retryDelayMs) result acks (by simp)
  exact (publish_safe _ _ _ tried).mono (fun _ acks => acks) fun _ _ published => published.1

/-- The last command before the acknowledgement of a delivery that was handed out presented its
final event to the observer. If the observer accepted it, the submission is finished. -/
def FinalEventPresented (start : InMemorySubmissionRepository) (log : ServiceLog)
    (deliveryId : String) : Prop :=
  ∃ earlier bindings delivery artifacts outcome answer,
    log = earlier ++ [⟨.onEvent (finalEvent delivery artifacts outcome), answer⟩] ∧
    ⟨.reserve bindings, some delivery⟩ ∈ earlier ∧ delivery.deliveryId = deliveryId ∧
    IsTerminal (finalEvent delivery artifacts outcome) ∧
    (answer = .ok () → ∀ detail,
      (submissionsAfter start log).find delivery.task.judge.submissionId.value = some detail →
      detail.submission.status = (deriveSubmissionProjection
        (finalEvent delivery artifacts outcome)).status ∧
      detail.submission.status ≠ .queued ∧ detail.submission.status ≠ .running)

theorem submissionsAfter_snoc (start : InMemorySubmissionRepository) (log : ServiceLog)
    (event : RuntimeTaskEvent) :
    submissionsAfter start (log ++ [⟨.onEvent event, .ok ()⟩]) =
      (submissionsAfter start log).applyRuntimeEvent event := by
  simp [submissionsAfter, appliedEvents]

/-- A final event that the observer accepts finishes the submission. -/
theorem finished_of_accepted {event : RuntimeTaskEvent} {submissionId : String}
    (own : event.submissionId = some submissionId) (terminal : IsTerminal event)
    {detail : SubmissionDetail} (found : (submissionsAfter start
      (log ++ [⟨.onEvent event, .ok ()⟩])).find submissionId = some detail) :
    detail.submission.status = (deriveSubmissionProjection event).status ∧
      detail.submission.status ≠ .queued ∧ detail.submission.status ≠ .running := by
  rw [submissionsAfter_snoc, InMemorySubmissionRepository.find_applyRuntimeEvent own] at found
  obtain ⟨stored, -, rfl⟩ := Option.map_eq_some_iff.1 found
  exact ⟨rfl, status_of_terminal terminal⟩

theorem runDelivery_safe (artifacts : PreparedRuntimeArtifacts)
    (bindings : List RuntimeRouteBinding) (acks : BeforeAcks (FinalEventPresented start) log)
    (reserved : ⟨.reserve bindings, some delivery⟩ ∈ log) :
    Safe (logging PossibleAnswer) (BeforeAcks (FinalEventPresented start))
      (fun _ log' => BeforeAcks (FinalEventPresented start) log')
      (runDelivery delivery artifacts) log := by
  simp only [runDelivery, Prog.bind_def]
  refine .bind ((publish_safe _ _ _ acks).mono (fun _ acks => acks) ?_)
  rintro (e | ⟨⟩) _ ⟨acks, _, rfl⟩
  · exact acks
  refine .bind ((publish_safe _ _ _ acks).mono (fun _ acks => acks) ?_)
  rintro (e | ⟨⟩) _ ⟨acks, _, rfl⟩
  · exact acks
  simp only [Prog.op_bind, safe_call]
  refine ⟨acks, ?_⟩
  rintro (error | outcome) _ ⟨possible, rfl⟩
  · exact handleDeliveryFailure_safe _ _ (beforeAcks_other acks (by simp))
  · obtain ⟨w, std, env, run⟩ := possible
    have terminal : IsTerminal (finalEvent delivery artifacts outcome) := by
      rcases RuntimeWorker.execute_status run with status | status
      · exact .inl status
      · exact .inr (.inl status)
    have executed := @beforeAcks_other _ _ (.execute artifacts) (.ok outcome) acks (by simp)
    refine .bind ((publish_safe _ _ _ executed).mono (fun _ acks => acks) ?_)
    rintro (e | ⟨⟩) _ ⟨acks, answer, rfl⟩
    · exact acks
    simp only [Prog.pure_def, safe_call, safe_ret]
    refine ⟨acks, ?_⟩
    rintro settled _ ⟨-, rfl⟩
    refine beforeAcks_snoc acks ?_
    rintro deliveryId _ ⟨⟩
    refine ⟨_, bindings, delivery, artifacts, outcome, answer, rfl, by simp [reserved], rfl,
      terminal, ?_⟩
    rintro rfl detail found
    exact finished_of_accepted rfl terminal found

theorem processDelivery_safe (bindings : List RuntimeRouteBinding)
    (acks : BeforeAcks (FinalEventPresented start) log)
    (reserved : ⟨.reserve bindings, some delivery⟩ ∈ log) :
    Safe (logging PossibleAnswer) (BeforeAcks (FinalEventPresented start))
      (fun _ log' => BeforeAcks (FinalEventPresented start) log')
      (processDelivery delivery) log := by
  simp only [processDelivery, Prog.bind_def]
  refine .bind ((publish_safe _ _ _ acks).mono (fun _ acks => acks) ?_)
  rintro (e | ⟨⟩) _ ⟨acks, _, rfl⟩
  · exact acks
  simp only [Prog.op_bind, safe_call]
  refine ⟨acks, ?_⟩
  rintro (error | artifacts) _ ⟨-, rfl⟩
  · exact handleDeliveryFailure_safe _ _ (beforeAcks_other acks (by simp))
  · exact runDelivery_safe _ bindings (beforeAcks_other acks (by simp)) (by simp [reserved])

theorem workerRound_safe (bindings : List RuntimeRouteBinding)
    (acks : BeforeAcks (FinalEventPresented start) log) :
    Safe (logging PossibleAnswer) (BeforeAcks (FinalEventPresented start))
      (fun _ log' => BeforeAcks (FinalEventPresented start) log') (workerRound bindings) log := by
  simp only [workerRound, Prog.bind_def, Prog.op_bind, safe_call]
  refine ⟨acks, ?_⟩
  rintro (_ | delivery) _ ⟨-, rfl⟩
  · refine ⟨beforeAcks_other acks (by simp), ?_⟩
    rintro ⟨⟩ _ ⟨-, rfl⟩
    exact beforeAcks_other (beforeAcks_other acks (by simp)) (by simp)
  · exact processDelivery_safe bindings (beforeAcks_other acks (by simp)) (by simp)

/-- In every run of a worker loop, with any queue, observer and execution, a delivery is
acknowledged only after its final event has been presented to the observer; when the observer
accepted the event, the submission was finished before the acknowledgement. -/
theorem acked_after_final_event (start : InMemorySubmissionRepository)
    (bindings : List RuntimeRouteBinding) {log : ServiceLog}
    (reach : Reaches (logging PossibleAnswer) (workerRound bindings) [] log) :
    BeforeAcks (FinalEventPresented start) log :=
  Safe.reaches (fun _ acks => workerRound_safe bindings acks) beforeAcks_nil reach

end Rounds

section DatabaseError

def sampleDelivery : RuntimeTaskDelivery where
  deliveryId := "dlv-task-1"
  attempt := 1
  leasedUntil := none
  lastError := none
  task := sampleTask "task-1" "oj_judge" 3

/-- Everything succeeds, but the database fails when the final event is applied. -/
def databaseFailsLast : (c : ServiceCmd) → c.Answer
  | .reserve _ => some sampleDelivery
  | .enqueue _ => .ok ()
  | .ack _ => .ok ()
  | .retry .. => .ok .requeued
  | .updateSnapshot _ => ()
  | .onEvent event =>
    if event.status = .completed then .error (.database "connection closed") else .ok ()
  | .prepare task =>
    ((sampleWorker.prepareOjTask "01" task.taskId task.judge).eval granted ()).1
  | .execute artifacts =>
    match sampleWorker.execute sampleStdlib (sampleEnv (exited 0 10)) artifacts with
    | .ok outcome => .ok outcome
    | .error _ => .error .internal
  | .sleep _ => ()

/-- The log of one round. -/
def databaseErrorLog : ServiceLog :=
  ((workerRound []).eval (fun log c => (databaseFailsLast c, log ++ [⟨c, databaseFailsLast c⟩]))
    []).2

theorem databaseFailsLast_possible (c : ServiceCmd) : PossibleAnswer c (databaseFailsLast c) := by
  cases c with
  | execute artifacts =>
    simp only [databaseFailsLast]
    split
    · rename_i outcome run
      exact ⟨_, _, _, run⟩
    · trivial
  | _ => trivial

theorem databaseErrorLog_reached :
    Reaches (logging PossibleAnswer) (workerRound []) [] databaseErrorLog :=
  ⟨databaseErrorLog, .round .start (Exec.of_eval (v := id)
    (fun _ c => ⟨databaseFailsLast_possible c, rfl⟩) _ _), .here⟩

theorem acked_after_final_event_of_log :
    BeforeAcks (FinalEventPresented pendingSubmission) databaseErrorLog :=
  acked_after_final_event pendingSubmission [] databaseErrorLog_reached

/-- The delivery is acknowledged although no terminal event has been applied, and its
submission stays unfinished. -/
theorem acked_after_database_error :
    Reaches (logging PossibleAnswer) (workerRound []) [] databaseErrorLog ∧
    ackedDeliveries databaseErrorLog = ["dlv-task-1"] ∧
    (∀ event ∈ appliedEvents databaseErrorLog, ¬ IsTerminal event) ∧
    ((submissionsAfter pendingSubmission databaseErrorLog).find "submission-1").map
      (·.submission.status) = some .queued := by
  refine ⟨databaseErrorLog_reached, ?_, ?_, ?_⟩
  · decide +kernel
  · decide +kernel
  · decide +kernel

end DatabaseError

end NexusCore.Oj
