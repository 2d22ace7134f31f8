import NexusCore.Jobs.Query

/-!
# Failed dispatches

Submissions, tasks scheduled at the runtime directly, and the reports of the workers change the
stores of the platform. The snapshot of a task is written before the task is offered to the queue,
and stays when the queue refuses it; a report prefers the snapshot to the history.
-/

namespace NexusCore.Jobs

open NexusCore.Lib NexusCore.Runtime

section Steps

/-- What the stores, the clock and the queue may answer. A queue that answers with an error may
have taken the task all the same. -/
def platformHandler : Handler PlatformState PlatformCmd PlatformCmd.Answer
  | s, .saveDefinition job, _, t => t = s.save job
  | s, .appendEvent event, _, t => t = s.append event
  | s, .now, _, t => t = s
  | s, .runtime (.updateSnapshot snapshot), _, t => t = s.updateSnapshot snapshot
  | s, .runtime (.enqueue task), r, t => ∃ taken, (r = .ok () → taken = true) ∧ t = s.offer task taken
  | s, .runtime (.onEvent event), _, t => ∃ at_ms, t = s.append (runtimeJobEvent event at_ms)
  | s, .runtime _, _, t => t = s

inductive PlatformLabel where
  | submit (job : JobDefinition) (result : AppResult JobReceipt)
  | schedule (task : RuntimeTask) (result : AppResult RuntimeQueueReceipt)
  | publish (task : RuntimeTask) (snapshot : RuntimeTaskSnapshot)
  | queued (task : RuntimeTask)

/-- One call of the platform or of the runtime, or one report of a worker, which has its task from
the queue. -/
inductive PlatformStep (registry : JobHandlerRegistry) :
    PlatformState → PlatformLabel → PlatformState → Prop where
  | submit {s t : PlatformState} {job : JobDefinition} {result : AppResult JobReceipt} :
      Exec platformHandler (JobPlatformService.submit registry job) s result t →
      PlatformStep registry s (.submit job result) t
  | schedule {s t : PlatformState} {task : RuntimeTask} {result : AppResult RuntimeQueueReceipt} :
      Exec platformHandler (runtimeProg (RuntimeTaskService.schedule task)) s result t →
      PlatformStep registry s (.schedule task result) t
  | publish {s t : PlatformState} {task : RuntimeTask} {attempt : Nat}
      {snapshot : RuntimeTaskSnapshot} {result : AppResult Unit} :
      (task, true) ∈ s.offers → snapshot.taskId = task.taskId →
      Exec platformHandler (runtimeProg (RuntimeTaskService.publish task attempt snapshot)) s result
        t →
      PlatformStep registry s (.publish task snapshot) t
  | queued {s t : PlatformState} {task : RuntimeTask} {result : AppResult Unit} :
      (task, true) ∈ s.offers →
      Exec platformHandler
        (runtimeProg (RuntimeTaskService.observeEvent (RuntimeTaskService.queuedEvent task))) s
        result t →
      PlatformStep registry s (.queued task) t

variable {s t : PlatformState} {registry : JobHandlerRegistry}

/-- Scheduling stores the snapshot, then offers the task, and answers as the queue does. -/
theorem exec_schedule {task : RuntimeTask} {o : AppResult RuntimeQueueReceipt}
    (run : Exec platformHandler (runtimeProg (RuntimeTaskService.schedule task)) s o t) :
    ∃ (answer : AppResult Unit) (taken : Bool), (answer = .ok () → taken = true) ∧
      t = (s.updateSnapshot (RuntimeTaskService.queuedSnapshot task)).offer task taken ∧
      o = answer.map fun _ => task.queuedReceipt := by
  obtain ⟨_, u, ⟨_, -, stored⟩, rest⟩ := exec_call.1 (exec_relabel.1 run)
  obtain rfl : u = s.updateSnapshot (RuntimeTaskService.queuedSnapshot task) := stored
  obtain ⟨answer, v, ⟨given, same, taken, accepts, offered⟩, last⟩ := exec_call.1 rest
  obtain rfl : given = answer := same
  refine ⟨given, taken, accepts, ?_⟩
  cases given with
  | ok _ =>
    obtain ⟨rfl, rfl⟩ := exec_ret.1 last
    exact ⟨offered, rfl⟩
  | error e =>
    obtain ⟨rfl, rfl⟩ := exec_fail.1 last
    exact ⟨offered, rfl⟩

/-- How the runtime is reached by a submission that is valid. -/
inductive Dispatched (registry : JobHandlerRegistry) (job : JobDefinition) (s : PlatformState) :
    AppResult JobReceipt → PlatformState → Prop where
  | notOffered (e : AppError) : Dispatched registry job s (.error e) s
  | offered (task : RuntimeTask) (taken : Bool) (o : AppResult JobReceipt) :
      ((∃ receipt, o = .ok receipt ∧ receipt.jobId = job.jobId) → taken = true) →
      (∀ receipt, o = .ok receipt → receipt.jobId = job.jobId) →
      Dispatched registry job s o
        ((s.updateSnapshot (RuntimeTaskService.queuedSnapshot task)).offer task taken)

theorem exec_submitter {job : JobDefinition} {o : AppResult JobReceipt}
    (run : Exec platformHandler (RuntimeBackedJobSubmitter.submit registry job) s o t) :
    Dispatched registry job s o t := by
  unfold RuntimeBackedJobSubmitter.submit at run
  cases resolved : registry.resolveHandler job.jobType with
  | none =>
    rw [resolved] at run
    obtain ⟨rfl, rfl⟩ := exec_fail.1 run
    exact .notOffered _
  | some handler =>
    rw [resolved] at run
    obtain ⟨submittedAtMs, u, ticked, rest⟩ := exec_call.1 run
    obtain rfl : u = s := ticked
    cases prepared : handler.prepareDispatch job (.fromJob job submittedAtMs) with
    | error e =>
      simp only [prepared, Prog.lift_error, Prog.bind_def, Prog.ret_bind, Prog.fail_bind] at rest
      obtain ⟨rfl, rfl⟩ := exec_fail.1 rest
      exact .notOffered _
    | ok result =>
      simp only [prepared, Prog.lift_ok, Prog.bind_def, Prog.ret_bind] at rest
      cases result with
      | rejected failure =>
        obtain ⟨rfl, rfl⟩ := exec_fail.1 rest
        exact .notOffered _
      | dispatch plan =>
        rcases exec_bind.1 rest with ⟨receipt, v, scheduled, last⟩ | ⟨e, scheduled, rfl⟩
        · obtain ⟨answer, taken, accepts, rfl, same⟩ := exec_schedule scheduled
          obtain ⟨rfl, rfl⟩ := exec_ret.1 last
          refine .offered _ _ _ (fun _ => accepts ?_) ?_
          · cases answer with
            | ok _ => rfl
            | error e => cases same
          · intro receipt' same'
            cases same'
            rfl
        · obtain ⟨answer, taken, accepts, rfl, same⟩ := exec_schedule scheduled
          refine .offered _ _ _ ?_ ?_
          · intro ⟨_, same', _⟩
            cases same'
          · intro receipt same'
            cases same'

/-- A submission is refused before it is stored; or it is stored, does not get a receipt, and its
job gets an event of the failure; or it gets a receipt, and an event of that. -/
theorem submit_cases {job : JobDefinition} {o : AppResult JobReceipt}
    (run : Exec platformHandler (JobPlatformService.submit registry job) s o t) :
    (∃ e, validateJob registry job = .error e ∧ o = .error e ∧ t = s) ∨
    (∃ e u at_ms, validateJob registry job = .ok () ∧ o = .error e ∧
      Dispatched registry job (s.save job) (.error e) u ∧
      t = u.append (rejectedEvent job e at_ms)) ∨
    ∃ receipt u at_ms, validateJob registry job = .ok () ∧ o = .ok receipt ∧
      Dispatched registry job (s.save job) (.ok receipt) u ∧
      t = u.append (acceptedEvent job receipt at_ms) := by
  unfold JobPlatformService.submit at run
  cases valid : validateJob registry job with
  | error e =>
    simp only [valid, Prog.lift_error, Prog.bind_def, Prog.fail_bind] at run
    obtain ⟨rfl, rfl⟩ := exec_fail.1 run
    exact .inl ⟨e, rfl, rfl, rfl⟩
  | ok _ =>
    simp only [valid, Prog.lift_ok, Prog.bind_def, Prog.ret_bind] at run
    obtain ⟨_, u, saved, rest⟩ := exec_call.1 run
    obtain rfl : u = s.save job := saved
    simp only [Prog.ret_bind] at rest
    rcases exec_bind.1 rest with ⟨result, v, attempted, last⟩ | ⟨e, attempted, -⟩
    · obtain ⟨o', same, dispatch⟩ := exec_attempt.1 attempted
      cases same
      have dispatched := exec_submitter dispatch
      cases result with
      | ok receipt =>
        obtain ⟨at_ms, w, ticked, appending⟩ := exec_call.1 last
        obtain rfl : w = v := ticked
        obtain ⟨_, x, appended, done⟩ := exec_call.1 appending
        obtain ⟨rfl, rfl⟩ := exec_ret.1 done
        exact .inr (.inr ⟨receipt, w, at_ms, rfl, rfl, dispatched, appended⟩)
      | error e =>
        obtain ⟨at_ms, w, ticked, appending⟩ := exec_call.1 last
        obtain rfl : w = v := ticked
        obtain ⟨_, x, appended, done⟩ := exec_call.1 appending
        obtain ⟨rfl, rfl⟩ := exec_fail.1 done
        exact .inr (.inl ⟨e, w, at_ms, rfl, rfl, dispatched, appended⟩)
    · obtain ⟨o', same, -⟩ := exec_attempt.1 attempted
      cases same

theorem Dispatched.receipt_jobId {job : JobDefinition} {receipt : JobReceipt}
    (dispatched : Dispatched registry job s (.ok receipt) t) : receipt.jobId = job.jobId := by
  cases dispatched with
  | offered task taken _ _ named => exact named receipt rfl

/-- What a submission does to the stores. -/
inductive Submitted (registry : JobHandlerRegistry) (job : JobDefinition) (s : PlatformState) :
    AppResult JobReceipt → PlatformState → Prop where
  | invalid (e : AppError) : Submitted registry job s (.error e) s
  | failed {u : PlatformState} (e : AppError) (event : JobEvent) :
      Dispatched registry job (s.save job) (.error e) u → event.jobId = job.jobId →
      event.status = .failed → Submitted registry job s (.error e) (u.append event)
  | accepted {u : PlatformState} (receipt : JobReceipt) (event : JobEvent) :
      Dispatched registry job (s.save job) (.ok receipt) u → event.jobId = job.jobId →
      Submitted registry job s (.ok receipt) (u.append event)

theorem exec_submit {job : JobDefinition} {o : AppResult JobReceipt}
    (run : Exec platformHandler (JobPlatformService.submit registry job) s o t) :
    Submitted registry job s o t := by
  rcases submit_cases run with ⟨e, _, rfl, rfl⟩ | ⟨e, u, at_ms, _, rfl, dispatched, rfl⟩ |
    ⟨receipt, u, at_ms, _, rfl, dispatched, rfl⟩
  · exact .invalid e
  · exact .failed e _ dispatched rfl rfl
  · exact .accepted receipt _ dispatched dispatched.receipt_jobId

end Steps

section Reports

/-- The queries do not know the job, or report it as failed. -/
def ReportsFailure (registry : JobHandlerRegistry) (s : PlatformState) (jobId : String) : Prop :=
  ((∃ message, getJob registry s jobId = .error (.notFound message)) ∨
    ∃ job, getJob registry s jobId = .ok job ∧ job.status = .failed) ∧
  ∀ filter, ∃ jobs, listJobs registry s filter = .ok jobs ∧
    ∀ job ∈ jobs, job.jobId = jobId → job.status = .failed

/-- Every definition is kept under the identifier of its job. -/
def Filed (s : PlatformState) : Prop := ∀ entry ∈ s.definitions.entries, entry.2.jobId = entry.1

variable {s t : PlatformState} {registry : JobHandlerRegistry} {jobId : String}

theorem Filed.save (filed : Filed s) (job : JobDefinition) : Filed (s.save job) := by
  intro entry mem
  unfold PlatformState.save at mem
  rw [AList.entries_insert] at mem
  rcases List.mem_cons.1 mem with rfl | rest
  · rfl
  · exact filed entry (List.kerase_sublist _ _ |>.subset rest)

theorem Filed.lookup_isSome (filed : Filed s) {entry : Sigma fun _ : String => JobDefinition}
    (mem : entry ∈ s.definitions.entries) : (s.definitions.lookup entry.2.jobId).isSome := by
  rw [filed entry mem]
  exact AList.lookup_isSome.2 (List.mem_map_of_mem mem)

/-- The queries agree with the status that is reported for a stored job. -/
theorem reportsFailure_iff (filed : Filed s) : ReportsFailure registry s jobId ↔
    s.definitions.lookup jobId = none ∨ ∀ status ∈ reportedStatus s jobId, status = .failed := by
  constructor
  · intro ⟨got, _⟩
    cases stored : s.definitions.lookup jobId with
    | none => exact .inl rfl
    | some definition =>
      right
      intro status reported
      have found := getJob_of_eq_some registry stored
      rw [Option.mem_def.1 reported] at found
      obtain ⟨job, same, rfl⟩ := found
      rcases got with ⟨message, unknown⟩ | ⟨job', same', failed⟩
      · rw [same] at unknown
        cases unknown
      · rw [same] at same'
        cases same'
        exact failed
  · intro report
    constructor
    · cases stored : s.definitions.lookup jobId with
      | none => exact .inl ⟨_, getJob_of_eq_none stored⟩
      | some definition =>
        have found := getJob_of_eq_some registry stored
        cases reported : reportedStatus s jobId with
        | none =>
          rw [reported] at found
          exact .inl ⟨_, found⟩
        | some status =>
          rw [reported] at found
          obtain ⟨job, same, rfl⟩ := found
          rcases report with unknown | failed
          · rw [stored] at unknown
            cases unknown
          · exact .inr ⟨job, same, failed _ (by rw [reported]; rfl)⟩
    · intro filter
      obtain ⟨jobs, listed, known⟩ := listJobs_eq registry s filter
      refine ⟨jobs, listed, ?_⟩
      intro job mem same
      obtain ⟨⟨entry, stored, named⟩, status⟩ := known job mem
      rcases report with unknown | failed
      · have present := filed.lookup_isSome stored
        rw [← named, same, unknown] at present
        cases present
      · exact failed _ (by rw [← same, status]; rfl)

end Reports

section Unaccepted

/-- What holds for a job as long as no task under its identifier has been taken. -/
structure Unaccepted (jobId : String) (s : PlatformState) : Prop where
  filed : Filed s
  failures : ∀ event ∈ s.history jobId, event.status = .failed
  waiting : ∀ snapshot ∈ s.snapshots.lookup jobId, snapshot.status = .queued
  offered : (s.snapshots.lookup jobId).isSome ↔ ∃ offer ∈ s.offers, offer.1.taskId = jobId

variable {s t : PlatformState} {registry : JobHandlerRegistry} {jobId : String}

theorem Unaccepted.empty (jobId : String) : Unaccepted jobId .empty where
  filed := by simp [Filed, PlatformState.empty]
  failures := by simp [PlatformState.history, PlatformState.empty]
  waiting := by simp [PlatformState.empty]
  offered := by simp [PlatformState.empty]

theorem Unaccepted.save (known : Unaccepted jobId s) (job : JobDefinition) :
    Unaccepted jobId (s.save job) :=
  { known with filed := known.filed.save job }

theorem Unaccepted.append (known : Unaccepted jobId s) {event : JobEvent}
    (failed : event.jobId = jobId → event.status = .failed) :
    Unaccepted jobId (s.append event) := by
  refine { known with failures := ?_ }
  intro e mem
  rw [PlatformState.append_history] at mem
  split_ifs at mem with same
  · rcases List.mem_append.1 mem with earlier | last
    · exact known.failures e earlier
    · obtain rfl := List.mem_singleton.1 last
      exact failed same.symm
  · exact known.failures e mem

/-- A task that is offered leaves the snapshot of a queued task, whatever the queue does. -/
theorem Unaccepted.offer (known : Unaccepted jobId s) (task : RuntimeTask) (taken : Bool) :
    Unaccepted jobId
      ((s.updateSnapshot (RuntimeTaskService.queuedSnapshot task)).offer task taken) := by
  refine { known with waiting := ?_, offered := ?_ }
  · intro snapshot stored
    rw [PlatformState.offer_snapshots, PlatformState.updateSnapshot_lookup] at stored
    split_ifs at stored with same
    · cases stored
      rfl
    · exact known.waiting snapshot stored
  · rw [PlatformState.offer_snapshots, PlatformState.updateSnapshot_lookup]
    split_ifs with same
    · simp only [Option.isSome_some, true_iff]
      exact ⟨(task, taken), List.mem_cons_self, same.symm⟩
    · rw [known.offered]
      constructor
      · intro ⟨offer, mem, named⟩
        exact ⟨offer, List.mem_cons_of_mem _ mem, named⟩
      · intro ⟨offer, mem, named⟩
        rcases List.mem_cons.1 mem with rfl | earlier
        · exact absurd named.symm same
        · exact ⟨offer, earlier, named⟩

theorem Unaccepted.updateSnapshot (known : Unaccepted jobId s) {snapshot : RuntimeTaskSnapshot}
    (apart : snapshot.taskId ≠ jobId) : Unaccepted jobId (s.updateSnapshot snapshot) := by
  have same : (s.updateSnapshot snapshot).snapshots.lookup jobId = s.snapshots.lookup jobId := by
    rw [PlatformState.updateSnapshot_lookup, if_neg apart.symm]
  refine { known with waiting := ?_, offered := ?_ }
  · rw [same]
    exact known.waiting
  · rw [same]
    exact known.offered

theorem Unaccepted.dispatched (known : Unaccepted jobId s) {job : JobDefinition}
    {o : AppResult JobReceipt} (dispatched : Dispatched registry job s o t) :
    Unaccepted jobId t := by
  cases dispatched with
  | notOffered e => exact known
  | offered task taken _ _ _ => exact known.offer task taken

/-- A submission of the job was accepted, or the queue took a task under its identifier. -/
def Accepts (jobId : String) (x : Transition PlatformState PlatformLabel) : Prop :=
  (∃ job receipt, x.label = .submit job (.ok receipt) ∧ job.jobId = jobId) ∨
    ∃ task, (task, true) ∈ x.after.offers ∧ task.taskId = jobId

/-- A worker has its task from the queue, so it reports nothing about the job. -/
theorem Unaccepted.step {label : PlatformLabel} (known : Unaccepted jobId s)
    (step : PlatformStep registry s label t) (other : ¬ Accepts jobId ⟨s, label, t⟩) :
    Unaccepted jobId t := by
  cases step with
  | @submit _ job result run =>
    cases exec_submit run with
    | invalid e => exact known
    | failed e event dispatched named failed =>
      exact ((known.save job).dispatched dispatched).append fun _ => failed
    | accepted receipt event dispatched named =>
      refine ((known.save job).dispatched dispatched).append ?_
      intro same
      exact absurd (.inl ⟨job, receipt, rfl, named ▸ same⟩) other
  | schedule run =>
    obtain ⟨answer, taken, -, rfl, -⟩ := exec_schedule run
    exact known.offer _ taken
  | @publish _ task attempt snapshot result held named run =>
    obtain ⟨_, u, ⟨_, -, stored⟩, rest⟩ := exec_call.1 (exec_relabel.1 run)
    obtain ⟨_, v, ⟨_, -, at_ms, appended⟩, last⟩ := exec_call.1 rest
    obtain ⟨-, rfl⟩ := exec_ret.1 last
    obtain rfl : u = s.updateSnapshot snapshot := stored
    subst appended
    have apart : task.taskId ≠ jobId := fun same => other (.inr ⟨task, held, same⟩)
    refine Unaccepted.append (known.updateSnapshot fun same => apart (named ▸ same)) ?_
    intro same
    exact absurd (named ▸ same) apart
  | @queued _ task result held run =>
    obtain ⟨_, u, ⟨_, -, at_ms, appended⟩, last⟩ := exec_call.1 (exec_relabel.1 run)
    obtain ⟨-, rfl⟩ := exec_ret.1 last
    subst appended
    refine known.append ?_
    intro same
    exact absurd (.inr ⟨task, held, same⟩) other

/-- The reported status is a failure unless the runtime keeps a snapshot. -/
theorem Unaccepted.reported (known : Unaccepted jobId s) :
    (∀ status ∈ reportedStatus s jobId, status = .failed) ↔
      ∀ offer ∈ s.offers, offer.1.taskId ≠ jobId := by
  have offered := known.offered
  unfold reportedStatus
  cases stored : s.snapshots.lookup jobId with
  | some snapshot =>
    have status : snapshot.status = .queued := known.waiting snapshot stored
    obtain ⟨offer, mem, named⟩ := offered.1 (by rw [stored]; rfl)
    constructor
    · intro failed
      have := failed _ rfl
      rw [status] at this
      cases this
    · intro apart
      exact absurd named (apart offer mem)
  | none =>
    rw [stored] at offered
    constructor
    · intro _ offer mem named
      cases offered.2 ⟨offer, mem, named⟩
    · intro _ status reported
      obtain ⟨event, last, rfl⟩ := Option.map_eq_some_iff.1 (Option.mem_def.1 reported)
      exact known.failures event (List.mem_of_getLast? last)

end Unaccepted

/-- Two maps hold the same snapshots. -/
def SameSnapshots (s t : PlatformState) : Prop :=
  ∀ taskId, t.snapshots.lookup taskId = s.snapshots.lookup taskId

/-- Storing a snapshot changes nothing exactly where it is already there. -/
theorem sameSnapshots_iff (s : PlatformState) (snapshot : RuntimeTaskSnapshot) (task : RuntimeTask)
    (taken : Bool) : SameSnapshots s ((s.updateSnapshot snapshot).offer task taken) ↔
      s.snapshots.lookup snapshot.taskId = some snapshot := by
  unfold SameSnapshots
  simp only [PlatformState.offer_snapshots, PlatformState.updateSnapshot_lookup]
  constructor
  · intro same
    have here := same snapshot.taskId
    rw [if_pos rfl] at here
    exact here.symm
  · intro present taskId
    split_ifs with same
    · rw [same]
      exact present.symm
    · rfl

/-- A task that the queue refuses leaves the snapshots as they were exactly where the snapshot of
the queued task was there before; and a job that was never accepted is unknown or failed exactly
as long as it was never stored or no task under its identifier was offered to the queue. -/
theorem no_phantom_iff (registry : JobHandlerRegistry) :
    (∀ (task : RuntimeTask) (s t : PlatformState) (e : AppError),
      Exec platformHandler (runtimeProg (RuntimeTaskService.schedule task)) s (.error e) t →
      (SameSnapshots s t ↔
        s.snapshots.lookup task.taskId = some (RuntimeTaskService.queuedSnapshot task))) ∧
    ∀ (trace : List (Transition PlatformState PlatformLabel)) (t : PlatformState)
      (jobId : String), Run (PlatformStep registry) .empty trace t →
      (∀ x ∈ trace, ¬ Accepts jobId x) →
      (ReportsFailure registry t jobId ↔
        t.definitions.lookup jobId = none ∨ ∀ offer ∈ t.offers, offer.1.taskId ≠ jobId) := by
  constructor
  · intro task s t e run
    obtain ⟨answer, taken, -, rfl, -⟩ := exec_schedule run
    exact sameSnapshots_iff s _ task taken
  · intro trace t jobId run other
    have known : Unaccepted jobId t := run.invariant_of (Unaccepted jobId)
      (fun _ _ _ known step apart => known.step step apart) (Unaccepted.empty jobId) other
    rw [reportsFailure_iff known.filed, known.reported]

section Refused

/-- A small judging job. -/
def sampleJob (jobId : String) : JobDefinition := buildOjJudgeJob
  { jobId := jobId
    sourceEntityId := "submission-1"
    submissionId := ⟨"submission-1"⟩
    problemId := ⟨"problem-1"⟩
    userId := ⟨"user-1"⟩
    language := "cpp"
    judgeMode := .acm
    sandboxKind := .nsjail
    sourceCode := "int main() { return 0; }"
    limits := { timeLimitMs := 1000, memoryLimitKb := 65536 }
    testcases := [{ caseNo := 1, input := "", expectedOutput := "", score := 100 }]
    judgeConfig := none
    route := { queue := "oj_judge", lane := "fast" }
    retryPolicy := { maxAttempts := 3, retryDelayMs := 1000 } }

/-- The registry of the gateway. -/
def ojRegistry : JobHandlerRegistry := JobHandlerRegistry.empty.registerHandler ojJudgeJobHandler

/-- Stores beside a queue that cannot be reached, at time zero. -/
def refusing : PlatformState → (c : PlatformCmd) → c.Answer × PlatformState
  | s, .saveDefinition job => ((), s.save job)
  | s, .appendEvent event => ((), s.append event)
  | s, .now => (0, s)
  | s, .runtime (.updateSnapshot snapshot) => ((), s.updateSnapshot snapshot)
  | s, .runtime (.enqueue task) => (.error (.invalidConfig "no broker"), s.offer task false)
  | s, .runtime (.reserve _) => (none, s)
  | s, .runtime (.ack _) => (.ok (), s)
  | s, .runtime (.retry ..) => (.ok .requeued, s)
  | s, .runtime (.onEvent event) => (.ok (), s.append (runtimeJobEvent event 0))
  | s, .runtime (.prepare _) => (.error .internal, s)
  | s, .runtime (.execute _) => (.error .internal, s)
  | s, .runtime (.sleep _) => ((), s)

theorem refusing_allowed (s : PlatformState) (c : PlatformCmd) :
    platformHandler s c (refusing s c).1 (refusing s c).2 := by
  cases c with
  | saveDefinition job => rfl
  | appendEvent event => rfl
  | now => rfl
  | runtime command =>
    cases command with
    | updateSnapshot snapshot => rfl
    | enqueue task => exact ⟨false, by simp [refusing], rfl⟩
    | onEvent event => exact ⟨0, rfl⟩
    | reserve _ => rfl
    | ack _ => rfl
    | retry _ _ _ => rfl
    | prepare _ => rfl
    | execute _ => rfl
    | sleep _ => rfl

/-- The stores after the refused submission. -/
def afterRefusal : PlatformState :=
  ((JobPlatformService.submit ojRegistry (sampleJob "job-1")).eval refusing .empty).2

/-- The refused submission as a step. -/
def refusal : Transition PlatformState PlatformLabel :=
  ⟨.empty, .submit (sampleJob "job-1") (.error (.invalidConfig "no broker")), afterRefusal⟩

theorem run_refusal : Run (PlatformStep ojRegistry) .empty [refusal] afterRefusal := by
  have result : ((JobPlatformService.submit ojRegistry (sampleJob "job-1")).eval refusing
      .empty).1 = .error (.invalidConfig "no broker") := by decide +kernel
  have run := Exec.of_eval (v := id) refusing_allowed
    (JobPlatformService.submit ojRegistry (sampleJob "job-1")) .empty
  rw [result] at run
  exact .step (.submit run) (.done _)

/-- The task that the refused submission offers. -/
def refusedTask : RuntimeTask := (mapJobToRuntimeTask (sampleJob "job-1")).toOption.getD
  (sampleTask "job-1" "oj_judge" 3)

theorem run_refusedTask : Exec platformHandler
    (runtimeProg (RuntimeTaskService.schedule refusedTask)) .empty
    (.error (.invalidConfig "no broker"))
    ((PlatformState.empty.updateSnapshot (RuntimeTaskService.queuedSnapshot refusedTask)).offer
      refusedTask false) :=
  Exec.of_eval (v := id) refusing_allowed (runtimeProg (RuntimeTaskService.schedule refusedTask))
    .empty

theorem afterRefusal_stored : (afterRefusal.definitions.lookup "job-1").isSome = true := by
  decide +kernel

theorem afterRefusal_offers : afterRefusal.offers = [(refusedTask, false)] := by
  decide +kernel

theorem refusal_not_accepts : ∀ x ∈ [refusal], ¬ Accepts "job-1" x := by
  intro x mem accepted
  obtain rfl := List.mem_singleton.1 mem
  rcases accepted with ⟨job, receipt, submitted, -⟩ | ⟨task, taken, -⟩
  · cases submitted
  · have within : (task, true) ∈ afterRefusal.offers := taken
    rw [afterRefusal_offers] at within
    cases List.mem_singleton.1 within

/-- A task without a snapshot is left with one, and a job that the queue refused is reported as
enqueued. -/
theorem refused_dispatch_leaves_phantom :
    (∃ (task : RuntimeTask) (s t : PlatformState) (e : AppError),
      Exec platformHandler (runtimeProg (RuntimeTaskService.schedule task)) s (.error e) t ∧
        ¬ SameSnapshots s t) ∧
    ∃ (trace : List (Transition PlatformState PlatformLabel)) (t : PlatformState)
      (job : JobDefinition) (e : AppError), Run (PlatformStep ojRegistry) .empty trace t ∧
        (∃ x ∈ trace, x.label = .submit job (.error e)) ∧
        (∀ x ∈ trace, ¬ Accepts job.jobId x) ∧ ¬ ReportsFailure ojRegistry t job.jobId ∧
        (getJob ojRegistry t job.jobId).toOption.map (·.status) = some .enqueued := by
  constructor
  · refine ⟨refusedTask, .empty, _, _, run_refusedTask, ?_⟩
    rw [sameSnapshots_iff]
    exact fun present => by cases present
  · refine ⟨[refusal], afterRefusal, sampleJob "job-1", .invalidConfig "no broker", run_refusal,
      ⟨refusal, List.mem_singleton_self _, rfl⟩, refusal_not_accepts, ?_, by decide +kernel⟩
    have status : (getJob ojRegistry afterRefusal "job-1").toOption.map (·.status) =
        some .enqueued := by decide +kernel
    intro ⟨got, _⟩
    change _ ∨ ∃ job, getJob ojRegistry afterRefusal "job-1" = .ok job ∧ _ at got
    rcases got with ⟨message, unknown⟩ | ⟨job, found, failed⟩
    · rw [show getJob ojRegistry afterRefusal "job-1" = _ from unknown] at status
      cases status
    · rw [found] at status
      simp [Except.toOption, failed] at status

theorem no_phantom_iff_refusal :
    (¬ SameSnapshots .empty ((PlatformState.empty.updateSnapshot
      (RuntimeTaskService.queuedSnapshot refusedTask)).offer refusedTask false)) ∧
    ¬ ReportsFailure ojRegistry afterRefusal "job-1" := by
  constructor
  · rw [(no_phantom_iff ojRegistry).1 refusedTask _ _ _ run_refusedTask]
    exact fun present => by cases present
  · rw [(no_phantom_iff ojRegistry).2 [refusal] afterRefusal "job-1" run_refusal
      refusal_not_accepts]
    intro quiet
    rcases quiet with unknown | apart
    · have stored := afterRefusal_stored
      rw [unknown] at stored
      cases stored
    · rw [afterRefusal_offers] at apart
      exact apart _ (List.mem_singleton_self _) (by decide +kernel)

end Refused

end NexusCore.Jobs
