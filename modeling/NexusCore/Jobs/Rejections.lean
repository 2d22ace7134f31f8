import NexusCore.Jobs.Management

/-!
# Counting rejected submissions

A submission is rejected by validation, which leaves no trace, or when it is dispatched, which
appends an event to the history of its job. The summary counts a job as rejected when its status is
a failure and its history has such an event; the status comes from the runtime where that has a
snapshot.
-/

namespace NexusCore.Jobs

open NexusCore.Lib NexusCore.Runtime

/-- The jobs that the summary counts as rejected. -/
def JobSnapshot.countsAsRejected (job : JobSnapshot) : Bool :=
  (job.status == .failed || job.status == .cancelled) && job.latestSubmissionFailure.isSome

section Summary

variable {registry : JobHandlerRegistry} {s : PlatformState} {filter : JobQueryFilter}

theorem add_submissionRejected (summary : JobManagementSummary) (job : JobSnapshot) :
    (summary.add job).submissionRejected =
      summary.submissionRejected + if job.countsAsRejected then 1 else 0 := by
  unfold JobManagementSummary.add JobSnapshot.countsAsRejected
  cases job.status <;> cases job.latestSubmissionFailure <;> rfl

theorem foldl_submissionRejected (jobs : List JobSnapshot) (summary : JobManagementSummary) :
    (jobs.foldl .add summary).submissionRejected =
      summary.submissionRejected + jobs.countP (·.countsAsRejected) := by
  induction jobs generalizing summary with
  | nil => rfl
  | cons job rest ih =>
    rw [List.foldl_cons, ih, add_submissionRejected, List.countP_cons]
    omega

theorem ofJobs_submissionRejected (jobs : List JobSnapshot) :
    (JobManagementSummary.ofJobs jobs).submissionRejected = jobs.countP (·.countsAsRejected) := by
  rw [JobManagementSummary.ofJobs, foldl_submissionRejected]
  exact Nat.zero_add _

/-- Whether a stored job counts as rejected, if anything is known of it. -/
def countsRejected (registry : JobHandlerRegistry) (s : PlatformState)
    (definition : JobDefinition) : Bool :=
  (knownJob registry s definition).any (·.countsAsRejected)

/-- The count of the view. -/
theorem managementView_submissionRejected (registry : JobHandlerRegistry) (s : PlatformState)
    (filter : JobQueryFilter) (definitions : List JobDefinition) :
    ∃ view, managementView registry s filter definitions = .ok view ∧
      view.summary.submissionRejected = definitions.countP fun d =>
        isMatching registry s filter d && countsRejected registry s d := by
  refine ⟨_, by rw [managementView, matchingJobs_eq_filterMap, ok_bind]; rfl, ?_⟩
  rw [ofJobs_submissionRejected, List.countP_filterMap]
  refine List.countP_congr fun d _ => ?_
  unfold isMatching countsRejected matchedJob
  cases knownJob registry s d with
  | none => simp
  | some job => cases shown : matchesJobFilter job filter <;> simp [Option.filter, shown]

end Summary

section Calls

/-- The transitions of a run of the platform. -/
abbrev PlatformTransition : Type := Transition PlatformState PlatformLabel

/-- A submission of a job. -/
def isSubmitOf (jobId : String) (x : PlatformTransition) : Bool :=
  match x.label with
  | .submit job _ => job.jobId == jobId
  | _ => false

/-- A submission that passes validation. -/
def isValid (registry : JobHandlerRegistry) (x : PlatformTransition) : Bool :=
  match x.label with
  | .submit job _ => (validateJob registry job).isOk
  | _ => false

/-- A submission that is answered with an error. -/
def isRefused (x : PlatformTransition) : Bool :=
  match x.label with
  | .submit _ (.error _) => true
  | _ => false

/-- The queue has taken a task in this step. -/
def taskTaken (x : PlatformTransition) : Bool :=
  x.before.offers.length < x.after.offers.length && x.after.offers.head?.any (·.2)

/-- The most recent submission of the job was rejected, and no task was taken for it. -/
def latestRejected (trace : List PlatformTransition) (jobId : String) : Bool :=
  (trace.filter (isSubmitOf jobId)).getLast?.any fun x => isRefused x && !taskTaken x

/-- Some submission of the job was rejected when it was dispatched. -/
def dispatchRejected (registry : JobHandlerRegistry) (trace : List PlatformTransition)
    (jobId : String) : Bool :=
  trace.any fun x => isSubmitOf jobId x && isValid registry x && isRefused x

/-- The most recent submission of the job past validation was rejected. -/
def latestDispatchRejected (registry : JobHandlerRegistry) (trace : List PlatformTransition)
    (jobId : String) : Bool :=
  (trace.filter fun x => isSubmitOf jobId x && isValid registry x).getLast?.any isRefused

end Calls

section Histories

variable {registry : JobHandlerRegistry} {s t : PlatformState} {jobId : String}
  {trace : List PlatformTransition} {x : PlatformTransition}

/-- An event of a rejected submission. -/
def isRejection (event : JobEvent) : Bool :=
  event.source == .jobPlatform && event.status == .failed && event.error.isSome

theorem latestSubmissionFailure_isSome (history : List JobEvent) :
    (latestSubmissionFailure history).isSome = history.any isRejection := by
  unfold latestSubmissionFailure
  rw [Option.isSome_map, List.isSome_find?, List.any_reverse]
  rfl

/-- The status that a submission leaves at the end of the history. -/
def statusLeft (x : PlatformTransition) : JobStatus := if isRefused x then .failed else .enqueued

theorem filter_snoc {α : Type} (p : α → Bool) (items : List α) (x : α) :
    (items ++ [x]).filter p = items.filter p ++ if p x then [x] else [] := by
  rw [List.filter_append]
  cases kept : p x <;> simp [kept]

theorem dispatchRejected_snoc : dispatchRejected registry (trace ++ [x]) jobId =
    (dispatchRejected registry trace jobId ||
      (isSubmitOf jobId x && isValid registry x && isRefused x)) := by
  simp [dispatchRejected]

/-- The submissions of a job past validation. -/
def validSubmits (registry : JobHandlerRegistry) (trace : List PlatformTransition)
    (jobId : String) : List PlatformTransition :=
  trace.filter fun x => isSubmitOf jobId x && isValid registry x

theorem validSubmits_snoc : validSubmits registry (trace ++ [x]) jobId =
    validSubmits registry trace jobId ++
      if isSubmitOf jobId x && isValid registry x then [x] else [] :=
  filter_snoc _ _ _

/-- What the stores know of a job after some steps. -/
structure Traced (registry : JobHandlerRegistry) (jobId : String)
    (trace : List PlatformTransition) (s : PlatformState) : Prop where
  filed : Filed s
  told : (s.definitions.lookup jobId).isSome → s.history jobId ≠ []
  rejection : (s.history jobId).any isRejection = dispatchRejected registry trace jobId
  /-- Without a snapshot of its task, nothing but the submissions is in the history of a job. -/
  quiet : s.snapshots.lookup jobId = none →
    (∀ offer ∈ s.offers, offer.1.taskId ≠ jobId) ∧
      (s.history jobId).getLast?.map (·.status) =
        (validSubmits registry trace jobId).getLast?.map statusLeft

theorem Traced.empty : Traced registry jobId [] .empty where
  filed := Filed.empty
  told := by simp [PlatformState.empty]
  rejection := rfl
  quiet := by simp [PlatformState.empty, PlatformState.history, validSubmits]

/-- A task that is offered has a snapshot. -/
theorem offer_changes (task : RuntimeTask) (taken : Bool)
    (unseen : ((s.updateSnapshot (RuntimeTaskService.queuedSnapshot task)).offer task
      taken).snapshots.lookup jobId = none) :
    s.snapshots.lookup jobId = none ∧
      ((∀ offer ∈ s.offers, offer.1.taskId ≠ jobId) →
        ∀ offer ∈ (task, taken) :: s.offers, offer.1.taskId ≠ jobId) := by
  rw [PlatformState.offer_snapshots, PlatformState.updateSnapshot_lookup] at unseen
  split_ifs at unseen with same
  refine ⟨unseen, fun apart offer mem => ?_⟩
  rcases List.mem_cons.1 mem with rfl | earlier
  · exact Ne.symm same
  · exact apart offer earlier

/-- The runtime is given at most one task, with its snapshot. -/
theorem Dispatched.changes {job : JobDefinition} {o : AppResult JobReceipt}
    (dispatched : Dispatched registry job s o t) (jobId : String) :
    t.definitions = s.definitions ∧ t.history = s.history ∧
      (t.snapshots.lookup jobId = none → s.snapshots.lookup jobId = none ∧
        ((∀ offer ∈ s.offers, offer.1.taskId ≠ jobId) →
          ∀ offer ∈ t.offers, offer.1.taskId ≠ jobId)) := by
  cases dispatched with
  | notOffered e => exact ⟨rfl, rfl, fun unseen => ⟨unseen, id⟩⟩
  | offered task taken _ _ _ => exact ⟨rfl, rfl, offer_changes task taken⟩

/-- A submission past validation: its job is stored, and its history ends with what became of
it. -/
theorem Traced.dispatched (known : Traced registry jobId trace s) {job : JobDefinition}
    {o : AppResult JobReceipt} {u : PlatformState} {event : JobEvent}
    (valid : validateJob registry job = .ok ())
    (dispatched : Dispatched registry job (s.save job) o u) (named : event.jobId = job.jobId)
    (status : event.status = statusLeft ⟨s, .submit job o, u.append event⟩)
    (rejects : isRejection event = isRefused ⟨s, .submit job o, u.append event⟩) :
    Traced registry jobId (trace ++ [⟨s, .submit job o, u.append event⟩]) (u.append event) := by
  obtain ⟨definitions, history, snapshots⟩ := dispatched.changes jobId
  have passes : isValid registry ⟨s, .submit job o, u.append event⟩ = true := by
    simp [isValid, valid, Except.isOk, Except.toBool]
  have own : isSubmitOf jobId ⟨s, .submit job o, u.append event⟩ = (job.jobId == jobId) := rfl
  have recorded : (u.append event).history jobId =
      s.history jobId ++ if job.jobId == jobId then [event] else [] := by
    rw [PlatformState.append_history, history, PlatformState.save_history, named]
    by_cases same : jobId = job.jobId
    · simp [same]
    · simp [same, Ne.symm same]
  constructor
  · intro entry mem
    rw [PlatformState.append_definitions, definitions] at mem
    exact known.filed.save job entry mem
  · intro stored
    rw [recorded]
    rw [PlatformState.append_definitions, definitions, PlatformState.save_lookup] at stored
    split_ifs at stored with same
    · simp [same]
    · intro nothing
      exact known.told stored (List.append_eq_nil_iff.1 nothing).1
  · rw [recorded, List.any_append, known.rejection, dispatchRejected_snoc, own, passes, ← rejects]
    cases job.jobId == jobId <;> simp
  · intro unseen
    rw [PlatformState.append_snapshots] at unseen
    obtain ⟨before, apart⟩ := snapshots unseen
    obtain ⟨quiet, last⟩ := known.quiet before
    refine ⟨apart quiet, ?_⟩
    rw [recorded, validSubmits_snoc, own, passes, Bool.and_true]
    cases job.jobId == jobId with
    | true => simp [status]
    | false => simpa using last

/-- A step that appends nothing but reports of the runtime. -/
theorem Traced.quiet_step {label : PlatformLabel} (known : Traced registry jobId trace s)
    (foreign : isSubmitOf jobId ⟨s, label, t⟩ = false ∨ isValid registry ⟨s, label, t⟩ = false)
    (definitions : t.definitions = s.definitions)
    (history : t.history jobId = s.history jobId ∨
      ∃ event, t.history jobId = s.history jobId ++ [event] ∧ event.source = .runtime)
    (snapshots : t.snapshots.lookup jobId = none → s.snapshots.lookup jobId = none ∧
      ((∀ offer ∈ s.offers, offer.1.taskId ≠ jobId) →
        (∀ offer ∈ t.offers, offer.1.taskId ≠ jobId) ∧ t.history jobId = s.history jobId)) :
    Traced registry jobId (trace ++ [⟨s, label, t⟩]) t := by
  have skipped : (isSubmitOf jobId ⟨s, label, t⟩ && isValid registry ⟨s, label, t⟩) = false := by
    rcases foreign with other | other <;> simp [other]
  constructor
  · intro entry mem
    rw [definitions] at mem
    exact known.filed entry mem
  · intro stored
    rw [definitions] at stored
    rcases history with same | ⟨event, more, _⟩
    · rw [same]
      exact known.told stored
    · rw [more]
      simp
  · rw [dispatchRejected_snoc, skipped, Bool.false_and, Bool.or_false, ← known.rejection]
    rcases history with same | ⟨event, more, runtime⟩
    · rw [same]
    · rw [more, List.any_append]
      simp [isRejection, runtime]
  · intro unseen
    obtain ⟨before, apart⟩ := snapshots unseen
    obtain ⟨quiet, last⟩ := known.quiet before
    obtain ⟨away, same⟩ := apart quiet
    refine ⟨away, ?_⟩
    rw [same, validSubmits_snoc, skipped, if_neg (by simp), List.append_nil]
    exact last

/-- A worker that reports a task has it from the queue, so the task has a snapshot. -/
theorem Traced.reported {label : PlatformLabel} (known : Traced registry jobId trace s)
    {v : PlatformState} {event : JobEvent} {task : RuntimeTask}
    (foreign : isSubmitOf jobId ⟨s, label, v.append event⟩ = false) (held : (task, true) ∈ s.offers)
    (named : event.jobId = task.taskId) (runtime : event.source = .runtime)
    (definitions : v.definitions = s.definitions) (history : v.history = s.history)
    (offers : v.offers = s.offers)
    (snapshots : v.snapshots.lookup jobId = none → s.snapshots.lookup jobId = none) :
    Traced registry jobId (trace ++ [⟨s, label, v.append event⟩]) (v.append event) := by
  refine known.quiet_step (.inl foreign) definitions ?_ fun unseen => ⟨snapshots unseen, ?_⟩
  · rw [PlatformState.append_history, history]
    split_ifs
    · exact .inr ⟨event, rfl, runtime⟩
    · exact .inl rfl
  · intro apart
    rw [PlatformState.append_offers, offers, PlatformState.append_history, history, named]
    exact ⟨apart, if_neg (Ne.symm (apart _ held))⟩

theorem Traced.step {label : PlatformLabel} (known : Traced registry jobId trace s)
    (step : PlatformStep registry s label t) :
    Traced registry jobId (trace ++ [⟨s, label, t⟩]) t := by
  cases step with
  | @submit _ job result run =>
    rcases submit_cases run with ⟨e, invalid, rfl, rfl⟩ |
      ⟨e, u, at_ms, valid, rfl, dispatched, rfl⟩ | ⟨receipt, u, at_ms, valid, rfl, dispatched, rfl⟩
    · refine known.quiet_step (.inr ?_) rfl (.inl rfl) fun unseen =>
        ⟨unseen, fun apart => ⟨apart, rfl⟩⟩
      simp [isValid, invalid, Except.isOk, Except.toBool]
    · exact known.dispatched valid dispatched rfl rfl rfl
    · exact known.dispatched valid dispatched dispatched.receipt_jobId rfl rfl
  | @schedule _ task result run =>
    obtain ⟨answer, taken, -, rfl, -⟩ := exec_schedule run
    refine known.quiet_step (.inl rfl) rfl (.inl rfl) fun unseen => ?_
    obtain ⟨before, apart⟩ := offer_changes task taken unseen
    exact ⟨before, fun quiet => ⟨apart quiet, rfl⟩⟩
  | @publish _ task attempt snapshot result held named run =>
    obtain ⟨_, u, ⟨_, -, stored⟩, rest⟩ := exec_call.1 (exec_relabel.1 run)
    obtain ⟨_, v, ⟨_, -, at_ms, appended⟩, last⟩ := exec_call.1 rest
    obtain ⟨-, rfl⟩ := exec_ret.1 last
    obtain rfl : u = s.updateSnapshot snapshot := stored
    subst appended
    refine known.reported rfl held named rfl rfl rfl rfl fun unseen => ?_
    rw [PlatformState.updateSnapshot_lookup] at unseen
    split_ifs at unseen
    exact unseen
  | @queued _ task result held run =>
    obtain ⟨_, u, ⟨_, -, at_ms, appended⟩, last⟩ := exec_call.1 (exec_relabel.1 run)
    obtain ⟨-, rfl⟩ := exec_ret.1 last
    subst appended
    exact known.reported rfl held rfl rfl rfl rfl rfl id

end Histories

section Counts

variable {registry : JobHandlerRegistry} {s t : PlatformState} {jobId : String}
  {trace : List PlatformTransition} {d : JobDefinition}

/-- The view counts the matching jobs whose most recent submission was rejected, whatever the
filter, and counts no other job as rejected, whatever became of it at run time. -/
def CountExact (registry : JobHandlerRegistry) (trace : List PlatformTransition)
    (s : PlatformState) : Prop :=
  (∀ (filter : JobQueryFilter) (definitions : List JobDefinition), definitions.Perm s.stored →
    ∃ view, managementView registry s filter definitions = .ok view ∧
      view.summary.submissionRejected = definitions.countP fun d =>
        isMatching registry s filter d && latestRejected trace d.jobId) ∧
  ∀ d ∈ s.stored, latestRejected trace d.jobId = false → countsRejected registry s d = false

/-- A job with a snapshot: where its most recent submission was rejected, some submission of it was
rejected when it was dispatched, and its task has failed; elsewhere not both. A job without one:
its most recent submission was rejected exactly when the last one past validation was. -/
def RejectionsClear (registry : JobHandlerRegistry) (trace : List PlatformTransition)
    (s : PlatformState) : Prop :=
  ∀ d ∈ s.stored,
    match s.snapshots.lookup d.jobId with
    | some snapshot =>
      if latestRejected trace d.jobId then
        dispatchRejected registry trace d.jobId = true ∧ snapshot.status = .failed
      else
        dispatchRejected registry trace d.jobId = true → snapshot.status ≠ .failed
    | none => latestRejected trace d.jobId = latestDispatchRejected registry trace d.jobId

theorem ofLifecycle_failure (status : RuntimeTaskLifecycleStatus) :
    (JobStatus.ofLifecycle status == .failed || JobStatus.ofLifecycle status == .cancelled) =
      decide (status = .failed) := by
  cases status <;> rfl

theorem Traced.countsRejected_of_snapshot (known : Traced registry d.jobId trace s)
    {snapshot : RuntimeTaskSnapshot} (seen : s.snapshots.lookup d.jobId = some snapshot) :
    countsRejected registry s d =
      (decide (snapshot.status = .failed) && dispatchRejected registry trace d.jobId) := by
  have job : knownJob registry s d =
      some (buildJobSnapshot registry d snapshot (s.history d.jobId)) := by
    rw [knownJob, seen]
  rw [countsRejected, job, Option.any_some, JobSnapshot.countsAsRejected, ← ofLifecycle_failure,
    ← known.rejection, ← latestSubmissionFailure_isSome]
  rfl

/-- Without a snapshot the last submission past validation decides. -/
theorem Traced.countsRejected_of_none (known : Traced registry d.jobId trace s)
    (unseen : s.snapshots.lookup d.jobId = none) :
    countsRejected registry s d = latestDispatchRejected registry trace d.jobId := by
  have job : knownJob registry s d =
      buildJobSnapshotWithoutRuntime registry d (s.history d.jobId) := by
    rw [knownJob, unseen]
  have last := (known.quiet unseen).2
  have decided : latestDispatchRejected registry trace d.jobId =
      (validSubmits registry trace d.jobId).getLast?.any isRefused := rfl
  rw [countsRejected, job, buildJobSnapshotWithoutRuntime, decided]
  cases submitted : (validSubmits registry trace d.jobId).getLast? with
  | none =>
    rw [submitted, Option.map_none, Option.map_eq_none_iff] at last
    rw [last]
    rfl
  | some x =>
    rw [submitted, Option.map_some] at last
    obtain ⟨event, ended, status⟩ := Option.map_eq_some_iff.1 last
    rw [ended, Option.map_some, Option.any_some, Option.any_some, JobSnapshot.countsAsRejected,
      latestSubmissionFailure_isSome, known.rejection]
    have left : event.status = statusLeft x := status
    cases refused : isRefused x with
    | false => simp [left, statusLeft, refused]
    | true =>
      obtain ⟨within, own⟩ := List.mem_filter.1 (List.mem_of_getLast? submitted)
      have rejected : dispatchRejected registry trace d.jobId = true :=
        List.any_eq_true.2 ⟨x, within, by rw [own, refused]; rfl⟩
      simp [left, statusLeft, refused, rejected]

theorem Traced.known_isSome (known : Traced registry d.jobId trace s) (stored : d ∈ s.stored) :
    (knownJob registry s d).isSome := by
  obtain ⟨entry, mem, rfl⟩ := List.mem_map.1 stored
  have told := known.told (known.filed.lookup_isSome mem)
  unfold knownJob
  cases s.snapshots.lookup entry.2.jobId with
  | some snapshot => rfl
  | none =>
    rw [buildJobSnapshotWithoutRuntime, Option.isSome_map]
    exact List.getLast?_isSome.2 told

/-- Where a condition implies another one and they hold equally often, they agree. -/
theorem countP_eq_iff {α : Type} {p q : α → Bool} {items : List α}
    (implies : ∀ a ∈ items, p a = true → q a = true) :
    items.countP p = items.countP q ↔ ∀ a ∈ items, p a = q a := by
  induction items with
  | nil => simp
  | cons a rest ih =>
    rw [List.forall_mem_cons] at implies
    have least := List.countP_mono_left implies.2
    rw [List.forall_mem_cons, ← ih implies.2, List.countP_cons, List.countP_cons]
    cases left : p a with
    | true =>
      rw [implies.1 left]
      simp
    | false =>
      cases q a with
      | true => simp; omega
      | false => simp

/-- The counts are exact when they are so for each job. -/
theorem countExact_iff (known : ∀ d : JobDefinition, Traced registry d.jobId trace s) :
    CountExact registry trace s ↔
      ∀ d ∈ s.stored, countsRejected registry s d = latestRejected trace d.jobId := by
  constructor
  · intro ⟨counts, others⟩
    obtain ⟨view, viewed, count⟩ := counts anyJob s.stored (List.Perm.refl _)
    obtain ⟨view', viewed', count'⟩ := managementView_submissionRejected registry s anyJob
      s.stored
    rw [viewed] at viewed'
    cases viewed'
    rw [count'] at count
    have each := (countP_eq_iff ?_).1 count
    · intro d stored
      have shown : isMatching registry s anyJob d = true := by
        obtain ⟨job, same⟩ := Option.isSome_iff_exists.1 ((known d).known_isSome stored)
        simp [isMatching, matchedJob, same, matchesJobFilter, anyJob, Option.filter]
      have both := each d stored
      rw [shown] at both
      simpa using both
    · intro d stored counted
      rw [Bool.and_eq_true] at counted ⊢
      refine ⟨counted.1, ?_⟩
      by_contra latest
      rw [others d stored (by simpa using latest)] at counted
      cases counted.2
  · intro each
    constructor
    · intro filter definitions perm
      obtain ⟨view, viewed, count⟩ := managementView_submissionRejected registry s filter
        definitions
      refine ⟨view, viewed, count.trans (List.countP_congr fun d mem => ?_)⟩
      rw [each d (perm.subset mem)]
    · intro d stored latest
      rw [each d stored, latest]

/-- In every run of the platform, the rejected submissions are counted exactly when the history of
every stored job is clear. -/
theorem rejections_exact_iff (registry : JobHandlerRegistry) (trace : List PlatformTransition)
    (s : PlatformState) (run : Run (PlatformStep registry) .empty trace s) :
    CountExact registry trace s ↔ RejectionsClear registry trace s := by
  have known (d : JobDefinition) : Traced registry d.jobId trace s :=
    run.invariant_trace Traced.empty fun _ _ _ _ known step => known.step step
  rw [countExact_iff known]
  refine forall₂_congr fun d stored => ?_
  cases seen : s.snapshots.lookup d.jobId with
  | none => rw [(known d).countsRejected_of_none seen, eq_comm]
  | some snapshot =>
    rw [(known d).countsRejected_of_snapshot seen]
    cases latestRejected trace d.jobId <;> cases dispatchRejected registry trace d.jobId <;> simp

end Counts

section Samples

/-- A job that its handler cannot dispatch. -/
def foreignJob : JobDefinition := { sampleJob "job-1" with payload := .json "schema" }

def afterForeign : PlatformState :=
  ((JobPlatformService.submit ojRegistry foreignJob).eval refusing .empty).2

/-- Its submission as a step. -/
def foreignSubmission : PlatformTransition :=
  ⟨.empty, .submit foreignJob
    (.error (.badRequest "oj judge handler can only dispatch oj_judge payloads")), afterForeign⟩

theorem run_foreign : Run (PlatformStep ojRegistry) .empty [foreignSubmission] afterForeign := by
  have result : ((JobPlatformService.submit ojRegistry foreignJob).eval refusing .empty).1 =
      .error (.badRequest "oj judge handler can only dispatch oj_judge payloads") := by
    decide +kernel
  have run := Exec.of_eval (v := id) refusing_allowed
    (JobPlatformService.submit ojRegistry foreignJob) .empty
  rw [result] at run
  exact .step (.submit run) (.done _)

theorem clear_foreign : RejectionsClear ojRegistry [foreignSubmission] afterForeign := by
  have stored : afterForeign.stored = [foreignJob] := by decide +kernel
  have unseen : afterForeign.snapshots.lookup foreignJob.jobId = none := by decide +kernel
  intro d mem
  rw [stored] at mem
  obtain rfl := List.mem_singleton.1 mem
  rw [unseen]
  decide +kernel

/-- A job that cannot be dispatched is counted. -/
theorem rejections_exact_of_foreign : CountExact ojRegistry [foreignSubmission] afterForeign :=
  (rejections_exact_iff ojRegistry [foreignSubmission] afterForeign run_foreign).2 clear_foreign

/-- A job that the queue refuses is rejected, and not counted: the runtime has a snapshot of it. -/
theorem refusal_not_counted :
    Run (PlatformStep ojRegistry) .empty [refusal] afterRefusal ∧
      latestRejected [refusal] "job-1" = true ∧
      (managementView ojRegistry afterRefusal anyJob afterRefusal.stored).toOption.map
        (·.summary.submissionRejected) = some 0 ∧
      ¬ CountExact ojRegistry [refusal] afterRefusal := by
  have rejected : afterRefusal.stored.countP (fun d =>
      isMatching ojRegistry afterRefusal anyJob d && latestRejected [refusal] d.jobId) = 1 := by
    decide +kernel
  have counted : (managementView ojRegistry afterRefusal anyJob afterRefusal.stored).toOption.map
      (·.summary.submissionRejected) = some 0 := by decide +kernel
  refine ⟨run_refusal, by decide +kernel, counted, fun ⟨counts, _⟩ => ?_⟩
  obtain ⟨view, viewed, count⟩ := counts anyJob afterRefusal.stored (List.Perm.refl _)
  rw [viewed] at counted
  rw [rejected] at count
  have none : view.summary.submissionRejected = 0 := Option.some.inj counted
  omega

end Samples

end NexusCore.Jobs
