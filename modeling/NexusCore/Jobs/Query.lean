import NexusCore.Jobs.Platform
import NexusCore.Lib.System

/-!
# What the job platform reports

The stores of the platform and the queries over them. The state of a job comes from the snapshot
of its task; where the runtime has none, from the last event of its history.
-/

namespace NexusCore.Jobs

open NexusCore.Lib NexusCore.Runtime

/-- The stores: the definitions and the histories of the jobs, the snapshots of the runtime, and
every task offered to the queue, with whether the queue took it. -/
structure PlatformState where
  definitions : AList fun _ : String => JobDefinition
  events : AList fun _ : String => List JobEvent
  snapshots : AList fun _ : String => RuntimeTaskSnapshot
  offers : List (RuntimeTask × Bool)

namespace PlatformState

def empty : PlatformState := { definitions := ∅, events := ∅, snapshots := ∅, offers := [] }

/-- The events of a job, the oldest first. -/
def history (s : PlatformState) (jobId : String) : List JobEvent :=
  (s.events.lookup jobId).getD []

def save (s : PlatformState) (job : JobDefinition) : PlatformState :=
  { s with definitions := s.definitions.insert job.jobId job }

def append (s : PlatformState) (event : JobEvent) : PlatformState :=
  { s with events := s.events.insert event.jobId (s.history event.jobId ++ [event]) }

def updateSnapshot (s : PlatformState) (snapshot : RuntimeTaskSnapshot) : PlatformState :=
  { s with snapshots := s.snapshots.insert snapshot.taskId snapshot }

def offer (s : PlatformState) (task : RuntimeTask) (taken : Bool) : PlatformState :=
  { s with offers := (task, taken) :: s.offers }

section Stores

variable (s : PlatformState) (job : JobDefinition) (event : JobEvent)
  (snapshot : RuntimeTaskSnapshot) (task : RuntimeTask) (taken : Bool) (jobId : String)

@[simp] theorem save_history : (s.save job).history = s.history := rfl
@[simp] theorem save_snapshots : (s.save job).snapshots = s.snapshots := rfl
@[simp] theorem save_offers : (s.save job).offers = s.offers := rfl
@[simp] theorem append_definitions : (s.append event).definitions = s.definitions := rfl
@[simp] theorem append_snapshots : (s.append event).snapshots = s.snapshots := rfl
@[simp] theorem append_offers : (s.append event).offers = s.offers := rfl
@[simp] theorem updateSnapshot_definitions :
    (s.updateSnapshot snapshot).definitions = s.definitions := rfl
@[simp] theorem updateSnapshot_history : (s.updateSnapshot snapshot).history = s.history := rfl
@[simp] theorem updateSnapshot_offers : (s.updateSnapshot snapshot).offers = s.offers := rfl
@[simp] theorem offer_definitions : (s.offer task taken).definitions = s.definitions := rfl
@[simp] theorem offer_history : (s.offer task taken).history = s.history := rfl
@[simp] theorem offer_snapshots : (s.offer task taken).snapshots = s.snapshots := rfl
@[simp] theorem offer_offers : (s.offer task taken).offers = (task, taken) :: s.offers := rfl

@[simp] theorem save_lookup : (s.save job).definitions.lookup jobId =
    if jobId = job.jobId then some job else s.definitions.lookup jobId := by
  unfold save
  split_ifs with same
  · rw [same, AList.lookup_insert]
  · rw [AList.lookup_insert_ne same]

@[simp] theorem updateSnapshot_lookup : (s.updateSnapshot snapshot).snapshots.lookup jobId =
    if jobId = snapshot.taskId then some snapshot else s.snapshots.lookup jobId := by
  unfold updateSnapshot
  split_ifs with same
  · rw [same, AList.lookup_insert]
  · rw [AList.lookup_insert_ne same]

@[simp] theorem append_history : (s.append event).history jobId =
    if jobId = event.jobId then s.history jobId ++ [event] else s.history jobId := by
  unfold append history
  split_ifs with same
  · rw [same, AList.lookup_insert]
    rfl
  · rw [AList.lookup_insert_ne same]

end Stores

end PlatformState

section Queries

structure JobQueryFilter where
  jobNamespace : Option String
  sourceDomain : Option String
  queue : Option String
  lane : Option String
  status : Option JobStatus
  limit : Option Nat
  offset : Option Nat
  deriving DecidableEq, Repr

structure JobSubmissionFailureSnapshot where
  message : String
  occurredAtMs : UInt64
  deriving DecidableEq, Repr

structure JobSnapshot where
  jobId : String
  jobType : JobType
  origin : JobOrigin
  dispatch : JobDispatch
  status : JobStatus
  message : String
  error : Option String
  handler : Option JobHandlerDescriptor
  latestSubmissionFailure : Option JobSubmissionFailureSnapshot
  history : List JobEvent
  deriving DecidableEq, Repr

def getTask (s : PlatformState) (taskId : String) : AppResult RuntimeTaskSnapshot :=
  match s.snapshots.lookup taskId with
  | some snapshot => .ok snapshot
  | none => .error (.notFound ("runtime task not found: " ++ taskId))

def latestSubmissionFailure (history : List JobEvent) : Option JobSubmissionFailureSnapshot :=
  let failure := history.reverse.find? fun event =>
    event.source == .jobPlatform && event.status == .failed && event.error.isSome
  failure.map fun event =>
    { message := event.error.getD event.message, occurredAtMs := event.occurredAtMs }

def buildJobSnapshot (registry : JobHandlerRegistry) (definition : JobDefinition)
    (runtimeSnapshot : RuntimeTaskSnapshot) (history : List JobEvent) : JobSnapshot where
  jobId := definition.jobId
  jobType := definition.jobType
  origin := definition.origin
  dispatch := definition.dispatch
  status := .ofLifecycle runtimeSnapshot.status
  message := runtimeSnapshot.message
  error := runtimeSnapshot.error
  handler := registry.resolveDescriptor definition.jobType
  latestSubmissionFailure := latestSubmissionFailure history
  history := history

def buildJobSnapshotWithoutRuntime (registry : JobHandlerRegistry) (definition : JobDefinition)
    (history : List JobEvent) : Option JobSnapshot :=
  history.getLast?.map fun latestEvent =>
    { jobId := definition.jobId
      jobType := definition.jobType
      origin := definition.origin
      dispatch := definition.dispatch
      status := latestEvent.status
      message := latestEvent.message
      error := latestEvent.error
      handler := registry.resolveDescriptor definition.jobType
      latestSubmissionFailure := latestSubmissionFailure history
      history := history }

/-- What is reported about a definition, if anything is known about the job. -/
def jobSnapshot (registry : JobHandlerRegistry) (s : PlatformState) (jobId : String)
    (definition : JobDefinition) : AppResult (Option JobSnapshot) :=
  match getTask s jobId with
  | .ok snapshot => .ok (some (buildJobSnapshot registry definition snapshot (s.history jobId)))
  | .error (.notFound _) =>
    .ok (buildJobSnapshotWithoutRuntime registry definition (s.history jobId))
  | .error error => .error error

def getJob (registry : JobHandlerRegistry) (s : PlatformState) (jobId : String) :
    AppResult JobSnapshot := do
  match s.definitions.lookup jobId with
  | none => .error (.notFound ("job not found: " ++ jobId))
  | some definition =>
    match ← jobSnapshot registry s jobId definition with
    | none => .error (.notFound ("job not found: " ++ jobId))
    | some snapshot => return snapshot

def matchesJobFilter (snapshot : JobSnapshot) (filter : JobQueryFilter) : Bool :=
  filter.jobNamespace.all (snapshot.jobType.jobNamespace == ·) &&
    filter.sourceDomain.all (snapshot.origin.sourceDomain == ·) &&
    filter.queue.all (snapshot.dispatch.route.queue == ·) &&
    filter.lane.all (snapshot.dispatch.route.lane == ·) &&
    filter.status.all (snapshot.status == ·)

/-- The matching jobs among some definitions. -/
def matchingJobs (registry : JobHandlerRegistry) (s : PlatformState) (filter : JobQueryFilter) :
    List JobDefinition → AppResult (List JobSnapshot)
  | [] => .ok []
  | definition :: rest => do
    let snapshot ← jobSnapshot registry s definition.jobId definition
    let jobs ← matchingJobs registry s filter rest
    return (snapshot.filter (matchesJobFilter · filter)).toList ++ jobs

def collectMatchingJobs (registry : JobHandlerRegistry) (s : PlatformState)
    (filter : JobQueryFilter) : AppResult (List JobSnapshot) :=
  matchingJobs registry s filter (s.definitions.entries.map (·.2))

def paginate {α : Type} (items : List α) (filter : JobQueryFilter) : List α :=
  (items.drop (filter.offset.getD 0)).take (filter.limit.getD 50)

def listJobs (registry : JobHandlerRegistry) (s : PlatformState) (filter : JobQueryFilter) :
    AppResult (List JobSnapshot) := do
  let jobs ← collectMatchingJobs registry s filter
  return paginate (jobs.mergeSort fun left right => left.jobId ≤ right.jobId) filter

variable {registry : JobHandlerRegistry} {s : PlatformState} {jobId : String}

/-- The status that is reported for a job. -/
def reportedStatus (s : PlatformState) (jobId : String) : Option JobStatus :=
  match s.snapshots.lookup jobId with
  | some snapshot => some (.ofLifecycle snapshot.status)
  | none => (s.history jobId).getLast?.map (·.status)

theorem jobSnapshot_eq (registry : JobHandlerRegistry) (s : PlatformState) (jobId : String)
    (definition : JobDefinition) : ∃ snapshot : Option JobSnapshot,
    jobSnapshot registry s jobId definition = .ok snapshot ∧
      snapshot.map (·.status) = reportedStatus s jobId ∧
      ∀ job ∈ snapshot, job.jobId = definition.jobId := by
  unfold jobSnapshot getTask reportedStatus
  cases s.snapshots.lookup jobId with
  | some snapshot => exact ⟨_, rfl, rfl, by simp [buildJobSnapshot]⟩
  | none =>
    refine ⟨_, rfl, ?_, ?_⟩
    · unfold buildJobSnapshotWithoutRuntime
      rw [Option.map_map]
      rfl
    · intro job known
      obtain ⟨event, -, rfl⟩ := Option.map_eq_some_iff.1 known
      rfl

theorem getJob_of_eq_none (unknown : s.definitions.lookup jobId = none) :
    getJob registry s jobId = .error (.notFound ("job not found: " ++ jobId)) := by
  simp [getJob, unknown]

/-- A stored job is reported with its status, or not known when it has none. -/
theorem getJob_of_eq_some (registry : JobHandlerRegistry) {definition : JobDefinition}
    (stored : s.definitions.lookup jobId = some definition) :
    match reportedStatus s jobId with
    | none => getJob registry s jobId = .error (.notFound ("job not found: " ++ jobId))
    | some status => ∃ job, getJob registry s jobId = .ok job ∧ job.status = status := by
  obtain ⟨snapshot, built, same, -⟩ := jobSnapshot_eq registry s jobId definition
  have got : getJob registry s jobId = match snapshot with
      | none => .error (.notFound ("job not found: " ++ jobId))
      | some snapshot => .ok snapshot := by
    simp only [getJob, stored, built]
    cases snapshot <;> rfl
  rw [← same, got]
  cases snapshot with
  | none => rfl
  | some job => exact ⟨job, rfl, rfl⟩

theorem matchingJobs_eq (registry : JobHandlerRegistry) (s : PlatformState)
    (filter : JobQueryFilter) (definitions : List JobDefinition) :
    ∃ jobs, matchingJobs registry s filter definitions = .ok jobs ∧ ∀ job ∈ jobs,
      (∃ definition ∈ definitions, job.jobId = definition.jobId) ∧
        reportedStatus s job.jobId = some job.status := by
  induction definitions with
  | nil => exact ⟨[], rfl, by simp⟩
  | cons definition rest ih =>
    obtain ⟨jobs, matched, known⟩ := ih
    obtain ⟨snapshot, built, same, named⟩ := jobSnapshot_eq registry s
      definition.jobId definition
    refine ⟨_, by rw [matchingJobs, built, matched]; rfl, ?_⟩
    intro job mem
    rcases List.mem_append.1 mem with first | later
    · have reported : snapshot = some job :=
        (Option.filter_eq_some_iff.1 (Option.mem_toList.1 first)).1
      have name := named job reported
      refine ⟨⟨definition, List.mem_cons_self, name⟩, ?_⟩
      rw [name, ← same, reported]
      rfl
    · obtain ⟨⟨d, within, name⟩, status⟩ := known job later
      exact ⟨⟨d, List.mem_cons_of_mem _ within, name⟩, status⟩

/-- The list of jobs reports stored jobs only, each with its status. -/
theorem listJobs_eq (registry : JobHandlerRegistry) (s : PlatformState) (filter : JobQueryFilter) :
    ∃ jobs, listJobs registry s filter = .ok jobs ∧ ∀ job ∈ jobs,
      (∃ entry ∈ s.definitions.entries, job.jobId = entry.2.jobId) ∧
        reportedStatus s job.jobId = some job.status := by
  obtain ⟨jobs, matched, known⟩ := matchingJobs_eq registry s filter
    (s.definitions.entries.map (·.2))
  refine ⟨_, by rw [listJobs, collectMatchingJobs, matched]; rfl, ?_⟩
  intro job mem
  have listed : job ∈ jobs := List.mem_mergeSort.1 (List.mem_of_mem_drop (List.mem_of_mem_take mem))
  obtain ⟨⟨d, within, name⟩, status⟩ := known job listed
  obtain ⟨entry, stored, rfl⟩ := List.mem_map.1 within
  exact ⟨⟨entry, stored, name⟩, status⟩

end Queries

end NexusCore.Jobs
