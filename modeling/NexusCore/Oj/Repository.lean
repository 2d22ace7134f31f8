import NexusCore.Oj.Projection

/-!
# Submission repositories

How the in-memory and the Postgres repository apply the runtime's events to a
submission. Both overwrite what is stored with the projection of the event that arrives
and look at nothing that orders the events of an attempt, so a terminal verdict stays
exactly when no event of the attempt arrives after it.
-/

namespace NexusCore.Oj

open NexusCore.Runtime

section InMemory

/-- Change the first element that satisfies a test. -/
def updateFirst {α : Type} (test : α → Bool) (f : α → α) : List α → List α
  | [] => []
  | a :: rest => if test a then f a :: rest else a :: updateFirst test f rest

theorem find?_updateFirst {α : Type} {test : α → Bool} {f : α → α}
    (keeps : ∀ a, test (f a) = test a) (items : List α) :
    (updateFirst test f items).find? test = (items.find? test).map f := by
  induction items with
  | nil => rfl
  | cons a rest ih =>
    by_cases h : test a
    · simp [updateFirst, h, keeps]
    · simp [updateFirst, h, ih]

/-- A search that passes over the changed element finds what it did before. -/
theorem find?_updateFirst_other {α : Type} {test other : α → Bool} {f : α → α}
    (keeps : ∀ a, other (f a) = other a) (apart : ∀ a, test a = true → other a = false)
    (items : List α) : (updateFirst test f items).find? other = items.find? other := by
  induction items with
  | nil => rfl
  | cons a rest ih =>
    by_cases h : test a
    · simp [updateFirst, h, keeps, apart a h]
    · simp [updateFirst, h, List.find?_cons, ih]

/-- The submissions of the in-memory repository. -/
abbrev InMemorySubmissionRepository : Type := List SubmissionDetail

/-- The submission with the projection and the result of an event. -/
def SubmissionDetail.project (event : RuntimeTaskEvent) (detail : SubmissionDetail) :
    SubmissionDetail :=
  let projection := deriveSubmissionProjection event
  let submission := { detail.submission with
    status := projection.status
    score := projection.score
    maxScore := projection.maxScore
    message := projection.message }
  { detail with
    submission := submission
    result := some (buildRuntimeSubmissionResult submission event) }

namespace InMemorySubmissionRepository

def find (submissions : InMemorySubmissionRepository) (submissionId : String) :
    Option SubmissionDetail :=
  submissions.find? (·.submission.submissionId.value == submissionId)

/-- The lock of the repository is not poisoned. -/
def applyRuntimeEvent (submissions : InMemorySubmissionRepository) (event : RuntimeTaskEvent) :
    InMemorySubmissionRepository :=
  match event.submissionId with
  | none => submissions
  | some submissionId =>
    updateFirst (·.submission.submissionId.value == submissionId)
      (SubmissionDetail.project event) submissions

@[simp] theorem find_applyRuntimeEvent {submissions : InMemorySubmissionRepository}
    {event : RuntimeTaskEvent} {submissionId : String} (h : event.submissionId = some submissionId) :
    find (applyRuntimeEvent submissions event) submissionId =
      (find submissions submissionId).map (SubmissionDetail.project event) := by
  simp only [find, applyRuntimeEvent, h]
  apply find?_updateFirst
  intro detail
  rfl

theorem find_applyRuntimeEvent_other {submissions : InMemorySubmissionRepository}
    {event : RuntimeTaskEvent} {submissionId other : String}
    (h : event.submissionId = some submissionId) (apart : other ≠ submissionId) :
    find (applyRuntimeEvent submissions event) other = find submissions other := by
  simp only [find, applyRuntimeEvent, h]
  apply find?_updateFirst_other
  · intro detail
    rfl
  · intro detail here
    have same : detail.submission.submissionId.value = submissionId := by simpa using here
    simp [same, apart.symm]

end InMemorySubmissionRepository

end InMemory

section Postgres

/-- The columns of a submission that events write, after those that they do not. -/
structure SubmissionRow where
  problemId : String
  userId : String
  language : String
  sourceCode : String
  status : String
  score : Int32
  maxScore : Int32
  resultMessage : Option String
  executionSummary : Option RuntimeTaskEvent
  deriving DecidableEq, Repr

structure SubmissionCaseRow where
  submissionId : String
  caseNo : Int32
  score : Int32
  status : String
  exitCode : Option Int
  durationMs : Int64
  memoryUsedKb : Int64
  stdoutPath : String
  stderrPath : String
  stdoutExcerpt : String
  stderrExcerpt : String
  deriving DecidableEq, Repr

/-- The two tables, the first one by its primary key. -/
structure SubmissionTables where
  submissions : AList fun _ : String => SubmissionRow
  caseResults : List SubmissionCaseRow

def formatSubmissionStatus : SubmissionStatus → String
  | .pending => "pending"
  | .queued => "queued"
  | .running => "running"
  | .accepted => "accepted"
  | .wrongAnswer => "wrong_answer"
  | .compileError => "compile_error"
  | .timeLimitExceeded => "time_limit_exceeded"
  | .memoryLimitExceeded => "memory_limit_exceeded"
  | .outputLimitExceeded => "output_limit_exceeded"
  | .securityViolation => "security_violation"
  | .runtimeError => "runtime_error"

def formatCaseStatus : RuntimeCaseFinalStatus → String
  | .accepted => "accepted"
  | .wrongAnswer => "wrong_answer"
  | .timeLimitExceeded => "time_limit_exceeded"
  | .memoryLimitExceeded => "memory_limit_exceeded"
  | .outputLimitExceeded => "output_limit_exceeded"
  | .securityViolation => "security_violation"
  | .runtimeError => "runtime_error"

theorem formatSubmissionStatus_injective : Function.Injective formatSubmissionStatus := by
  intro a b h
  cases a <;> cases b <;> first | rfl | simp [formatSubmissionStatus] at h

def SubmissionRow.project (event : RuntimeTaskEvent) (row : SubmissionRow) : SubmissionRow :=
  let projection := deriveSubmissionProjection event
  { row with
    status := formatSubmissionStatus projection.status
    score := projection.score.toInt32
    maxScore := projection.maxScore.toInt32
    resultMessage := projection.message
    executionSummary := some event }

def caseRow (submissionId : String) (item : RuntimeCaseOutcome) : SubmissionCaseRow where
  submissionId := submissionId
  caseNo := item.caseNo.toInt32
  score := item.score.toInt32
  status := formatCaseStatus item.status
  exitCode := item.exitCode
  durationMs := Int64.ofNat item.durationMs
  memoryUsedKb := item.memoryUsedKb.toInt64
  stdoutPath := item.stdoutPath
  stderrPath := item.stderrPath
  stdoutExcerpt := item.stdoutExcerpt
  stderrExcerpt := item.stderrExcerpt

namespace SubmissionTables

def casesOf (tables : SubmissionTables) (submissionId : String) : List SubmissionCaseRow :=
  tables.caseResults.filter (·.submissionId == submissionId)

/-- The statements of the transaction, all of which succeed. -/
def update (tables : SubmissionTables) (submissionId : String) (event : RuntimeTaskEvent) :
    SubmissionTables where
  submissions :=
    match tables.submissions.lookup submissionId with
    | some row => tables.submissions.insert submissionId (row.project event)
    | none => tables.submissions
  caseResults :=
    match event.outcome with
    | some outcome =>
      tables.caseResults.filter (·.submissionId != submissionId) ++
        outcome.cases.map (caseRow submissionId)
    | none => tables.caseResults

/-- `failure` is the text of a database error at any of the statements or the commit; the
transaction is then rolled back. -/
def applyRuntimeEvent (tables : SubmissionTables) (event : RuntimeTaskEvent)
    (failure : Option String) : AppResult Unit × SubmissionTables :=
  match event.submissionId, failure with
  | none, _ => (.ok (), tables)
  | some _, some err => (.error (.database err), tables)
  | some submissionId, none => (.ok (), tables.update submissionId event)

@[simp] theorem lookup_update (tables : SubmissionTables) (submissionId : String)
    (event : RuntimeTaskEvent) :
    (tables.update submissionId event).submissions.lookup submissionId =
      (tables.submissions.lookup submissionId).map (SubmissionRow.project event) := by
  unfold update
  cases h : tables.submissions.lookup submissionId with
  | none => exact h
  | some row => simp

theorem casesOf_update (tables : SubmissionTables) (submissionId : String)
    {event : RuntimeTaskEvent} {outcome : RuntimeExecutionOutcome}
    (h : event.outcome = some outcome) :
    (tables.update submissionId event).casesOf submissionId =
      outcome.cases.map (caseRow submissionId) := by
  have old : ∀ row : SubmissionCaseRow,
      (row.submissionId != submissionId && row.submissionId == submissionId) = false := by
    intro row
    cases e : row.submissionId == submissionId <;> simp [bne, e]
  simp [casesOf, update, h, List.filter_filter, old, caseRow, Bool.and_comm]

end SubmissionTables

end Postgres

section Order

/-- The statuses after which an attempt sends no further event. -/
def IsTerminal (event : RuntimeTaskEvent) : Prop :=
  event.status = .completed ∨ event.status = .failed ∨ event.status = .deadLettered

instance (event : RuntimeTaskEvent) : Decidable (IsTerminal event) :=
  inferInstanceAs (Decidable (_ ∨ _ ∨ _))

/-- An event that is not terminal leaves the submission waiting or running. -/
theorem status_of_not_terminal {event : RuntimeTaskEvent} (h : ¬ IsTerminal event) :
    (deriveSubmissionProjection event).status = .queued ∨
      (deriveSubmissionProjection event).status = .running := by
  unfold IsTerminal at h
  cases status : event.status <;> simp_all [deriveSubmissionProjection]

theorem mapCompileFailureStatus_finished (kind : Option RuntimeFailureKind) :
    mapCompileFailureStatus kind ≠ .queued ∧ mapCompileFailureStatus kind ≠ .running := by
  rcases kind with _ | kind
  · decide
  · cases kind <;> decide

theorem mapSubmissionCaseFailureStatus_finished (status : RuntimeCaseFinalStatus) :
    mapSubmissionCaseFailureStatus status ≠ .queued ∧
      mapSubmissionCaseFailureStatus status ≠ .running := by
  cases status <;> decide

theorem classifyFailure_finished (outcome : Option RuntimeExecutionOutcome) (message : String) :
    (classifyFailure outcome message).1 ≠ .queued ∧
      (classifyFailure outcome message).1 ≠ .running := by
  unfold classifyFailure
  split
  · simp
  · split
    · exact mapCompileFailureStatus_finished _
    · split
      · exact mapCompileFailureStatus_finished _
      · split
        · simp
        · split
          · exact mapSubmissionCaseFailureStatus_finished _
          · simp

/-- A terminal event finishes the submission. -/
theorem status_of_terminal {event : RuntimeTaskEvent} (h : IsTerminal event) :
    (deriveSubmissionProjection event).status ≠ .queued ∧
      (deriveSubmissionProjection event).status ≠ .running := by
  rcases h with status | status | status <;> simp only [deriveSubmissionProjection, status]
  · decide
  · exact classifyFailure_finished _ _
  · decide

/-- No event makes a submission pending again. -/
theorem status_ne_pending (event : RuntimeTaskEvent) :
    (deriveSubmissionProjection event).status ≠ .pending := by
  have compile : ∀ kind, mapCompileFailureStatus kind ≠ .pending := by
    intro kind
    rcases kind with _ | kind
    · decide
    · cases kind <;> decide
  have failedCase : ∀ status, mapSubmissionCaseFailureStatus status ≠ .pending := by
    intro status
    cases status <;> decide
  have classified : (classifyFailure event.outcome event.message).1 ≠ .pending := by
    unfold classifyFailure
    split
    · simp
    · split
      · exact compile _
      · split
        · exact compile _
        · split
          · simp
          · split
            · exact failedCase _
            · simp
  cases status : event.status <;> simp only [deriveSubmissionProjection, status]
  case failed => exact classified
  all_goals decide

theorem status_ne {terminal later : RuntimeTaskEvent} (finished : IsTerminal terminal)
    (unfinished : ¬ IsTerminal later) :
    (deriveSubmissionProjection later).status ≠ (deriveSubmissionProjection terminal).status := by
  obtain ⟨notQueued, notRunning⟩ := status_of_terminal finished
  rcases status_of_not_terminal unfinished with status | status <;> rw [status]
  · exact notQueued.symm
  · exact notRunning.symm

/-- Once the terminal event has been applied, the store shows it whatever arrives later.
`apply` is the repository's way of applying an event, `shows` says that the submission of
the event is stored with the status, the score and the result projected from it. -/
def Sticky {σ : Type} (apply : σ → RuntimeTaskEvent → σ) (shows : σ → RuntimeTaskEvent → Prop)
    (start : σ) (before : List RuntimeTaskEvent) (terminal : RuntimeTaskEvent)
    (after : List RuntimeTaskEvent) : Prop :=
  ∀ later, later <+: after → shows ((before ++ terminal :: later).foldl apply start) terminal

/-- A store in which every event overwrites the record it belongs to. -/
structure LastWriterWins {σ : Type} (apply : σ → RuntimeTaskEvent → σ)
    (shows : σ → RuntimeTaskEvent → Prop) (present : σ → Prop) (belongs : RuntimeTaskEvent → Prop) :
    Prop where
  keeps : ∀ s event, present s → belongs event → present (apply s event)
  writes : ∀ s event, present s → belongs event → shows (apply s event) event
  one : ∀ s a b, shows s a → shows s b →
    (deriveSubmissionProjection a).status = (deriveSubmissionProjection b).status

namespace LastWriterWins

variable {σ : Type} {apply : σ → RuntimeTaskEvent → σ} {shows : σ → RuntimeTaskEvent → Prop}
  {present : σ → Prop} {belongs : RuntimeTaskEvent → Prop} {start : σ}
  {before after : List RuntimeTaskEvent} {terminal : RuntimeTaskEvent}

theorem present_foldl (store : LastWriterWins apply shows present belongs) {s : σ}
    {events : List RuntimeTaskEvent} (stored : present s) (own : ∀ e ∈ events, belongs e) :
    present (events.foldl apply s) := by
  induction events generalizing s with
  | nil => exact stored
  | cons e events ih =>
    rw [List.forall_mem_cons] at own
    exact ih (store.keeps s e stored own.1) own.2

/-- Any later event of the attempt takes the place of the terminal one. -/
theorem sticky_iff (store : LastWriterWins apply shows present belongs) (stored : present start)
    (own : ∀ e ∈ before ++ terminal :: after, belongs e) (finished : IsTerminal terminal)
    (unfinished : ∀ e ∈ after, ¬ IsTerminal e) :
    Sticky apply shows start before terminal after ↔ after = [] := by
  simp only [List.forall_mem_append, List.forall_mem_cons] at own
  obtain ⟨ownBefore, ownTerminal, ownAfter⟩ := own
  have reached := store.present_foldl stored ownBefore
  constructor
  · intro sticky
    cases after with
    | nil => rfl
    | cons e rest =>
      have shown := sticky [e] (by simp)
      simp only [List.foldl_append, List.foldl_cons, List.foldl_nil] at shown
      have written := store.writes _ e (store.keeps _ terminal reached ownTerminal)
        (ownAfter e (by simp))
      exact absurd (store.one _ e terminal written shown)
        (status_ne finished (unfinished e (by simp)))
  · rintro rfl later prefixed
    obtain rfl := List.prefix_nil.1 prefixed
    simpa using store.writes _ terminal reached ownTerminal

end LastWriterWins

/-- The in-memory repository shows the projection of an event. -/
def InMemorySubmissionRepository.Shows (submissionId : String)
    (submissions : InMemorySubmissionRepository) (event : RuntimeTaskEvent) : Prop :=
  ∃ detail, submissions.find submissionId = some detail ∧ detail.project event = detail

/-- The tables show the projection of an event, with its case results if it has any. -/
def SubmissionTables.Shows (submissionId : String) (tables : SubmissionTables)
    (event : RuntimeTaskEvent) : Prop :=
  ∃ row, tables.submissions.lookup submissionId = some row ∧ row.project event = row ∧
    ∀ outcome, event.outcome = some outcome →
      tables.casesOf submissionId = outcome.cases.map (caseRow submissionId)

theorem InMemorySubmissionRepository.lastWriterWins (submissionId : String) :
    LastWriterWins applyRuntimeEvent (Shows submissionId)
      (fun submissions => (submissions.find submissionId).isSome)
      (·.submissionId = some submissionId) where
  keeps submissions event stored own := by simpa [own] using stored
  writes submissions event stored own := by
    obtain ⟨detail, found⟩ := Option.isSome_iff_exists.1 stored
    exact ⟨detail.project event, by simp [own, found], rfl⟩
  one := by
    rintro submissions a b ⟨detail, found, shownA⟩ ⟨detail', found', shownB⟩
    obtain rfl : detail = detail' := by simpa [found] using found'
    have statusA := congrArg (·.submission.status) shownA
    have statusB := congrArg (·.submission.status) shownB
    exact statusA.trans statusB.symm

/-- Apply an event in a transaction that commits. -/
def SubmissionTables.committed (tables : SubmissionTables) (event : RuntimeTaskEvent) :
    SubmissionTables := (tables.applyRuntimeEvent event none).2

theorem SubmissionTables.lastWriterWins (submissionId : String) :
    LastWriterWins committed (Shows submissionId)
      (fun tables => (tables.submissions.lookup submissionId).isSome)
      (·.submissionId = some submissionId) where
  keeps tables event stored own := by simpa [committed, applyRuntimeEvent, own] using stored
  writes tables event stored own := by
    obtain ⟨row, found⟩ := Option.isSome_iff_exists.1 stored
    refine ⟨row.project event, by simp [committed, applyRuntimeEvent, own, found], rfl, ?_⟩
    intro outcome hasOutcome
    simpa [committed, applyRuntimeEvent, own] using casesOf_update tables submissionId hasOutcome
  one := by
    rintro tables a b ⟨row, found, shownA, -⟩ ⟨row', found', shownB, -⟩
    obtain rfl : row = row' := by simpa [found] using found'
    have statusA := congrArg (·.status) shownA
    have statusB := congrArg (·.status) shownB
    exact formatSubmissionStatus_injective (statusA.trans statusB.symm)

/-- In both repositories a terminal verdict is kept exactly when the terminal event is the
last event of the attempt to arrive. -/
theorem terminal_sticky_iff_last {submissionId : String}
    {submissions : InMemorySubmissionRepository} {tables : SubmissionTables}
    {before after : List RuntimeTaskEvent} {terminal : RuntimeTaskEvent}
    (inMemory : (submissions.find submissionId).isSome)
    (inTables : (tables.submissions.lookup submissionId).isSome)
    (own : ∀ e ∈ before ++ terminal :: after, e.submissionId = some submissionId)
    (finished : IsTerminal terminal) (unfinished : ∀ e ∈ before ++ after, ¬ IsTerminal e) :
    (Sticky InMemorySubmissionRepository.applyRuntimeEvent
        (InMemorySubmissionRepository.Shows submissionId) submissions before terminal after ↔
      after = []) ∧
    (Sticky SubmissionTables.committed (SubmissionTables.Shows submissionId) tables before
        terminal after ↔ after = []) := by
  have later : ∀ e ∈ after, ¬ IsTerminal e := by
    intro e he
    exact unfinished e (by simp [he])
  constructor
  · exact (InMemorySubmissionRepository.lastWriterWins submissionId).sticky_iff inMemory own
      finished later
  · exact (SubmissionTables.lastWriterWins submissionId).sticky_iff inTables own finished later

/-- A submission as it is created, in both repositories. -/
def pendingSubmission : InMemorySubmissionRepository :=
  [{ submission :=
      { submissionId := ⟨"submission-1"⟩
        problemId := ⟨"problem-1"⟩
        userId := ⟨"user-1"⟩
        language := "cpp"
        status := .pending
        score := 0
        maxScore := 0
        message := none }
     sourceCode := "int main() { return 0; }"
     result := none }]

def pendingRow : SubmissionTables where
  submissions := AList.singleton "submission-1"
    { problemId := "problem-1"
      userId := "user-1"
      language := "cpp"
      sourceCode := "int main() { return 0; }"
      status := "pending"
      score := 0
      maxScore := 0
      resultMessage := none
      executionSummary := none }
  caseResults := []

def lifecycleEvent (status : RuntimeTaskLifecycleStatus) (message : String) : RuntimeTaskEvent where
  taskId := "task-1"
  sourceDomain := "oj"
  queue := "oj_judge"
  lane := "fast"
  attempt := 1
  submissionId := some "submission-1"
  problemId := some "problem-1"
  userId := some "user-1"
  language := some "cpp"
  status := status
  message := message
  executionId := none
  outcome := none

theorem terminal_sticky_when_last :
    (Sticky InMemorySubmissionRepository.applyRuntimeEvent
        (InMemorySubmissionRepository.Shows "submission-1") pendingSubmission
        [lifecycleEvent .queued "runtime task queued"]
        (lifecycleEvent .completed "runtime execution completed successfully") [] ↔
      ([] : List RuntimeTaskEvent) = []) ∧
    (Sticky SubmissionTables.committed (SubmissionTables.Shows "submission-1") pendingRow
        [lifecycleEvent .queued "runtime task queued"]
        (lifecycleEvent .completed "runtime execution completed successfully") [] ↔
      ([] : List RuntimeTaskEvent) = []) :=
  terminal_sticky_iff_last rfl rfl (by decide) (by decide) (by decide)

/-- The event that `schedule` sends reverts a finished submission to queued when it arrives
last, in both repositories. -/
theorem late_queued_event_reverts :
    ¬ Sticky InMemorySubmissionRepository.applyRuntimeEvent
        (InMemorySubmissionRepository.Shows "submission-1") pendingSubmission []
        (lifecycleEvent .completed "runtime execution completed successfully")
        [lifecycleEvent .queued "runtime task queued"] ∧
    ¬ Sticky SubmissionTables.committed (SubmissionTables.Shows "submission-1") pendingRow []
        (lifecycleEvent .completed "runtime execution completed successfully")
        [lifecycleEvent .queued "runtime task queued"] := by
  constructor
  · intro sticky
    obtain ⟨detail, found, shown⟩ := sticky _ List.prefix_rfl
    have stored := congrArg (Option.map (·.submission.status)) found
    rw [← shown] at stored
    change _ = some SubmissionStatus.accepted at stored
    revert stored
    decide
  · intro sticky
    obtain ⟨row, found, shown, -⟩ := sticky _ List.prefix_rfl
    have stored := congrArg (Option.map (·.status)) found
    rw [← shown] at stored
    change _ = some "accepted" at stored
    revert stored
    decide

end Order

end NexusCore.Oj
