import Mathlib.Data.String.Basic
import NexusCore.Jobs.Dispatch
import NexusCore.Lib.Sorting

/-!
# The management view

The jobs that match a filter, in pages, with a summary of all of them. The store lists its
definitions in an order of its own, which is an argument here; the list of jobs puts the jobs in
the order of their identifiers, and the management view leaves them as they come.
-/

namespace NexusCore.Jobs

open NexusCore.Lib NexusCore.Runtime

structure JobManagementSummary where
  totalJobs : Nat
  queued : Nat
  running : Nat
  succeeded : Nat
  retrying : Nat
  deadLettered : Nat
  failed : Nat
  submissionRejected : Nat
  deriving DecidableEq, Repr

structure JobManagementView where
  jobs : List JobSnapshot
  summary : JobManagementSummary
  deriving DecidableEq, Repr

/-- One job more in the summary. -/
def JobManagementSummary.add (summary : JobManagementSummary) (job : JobSnapshot) :
    JobManagementSummary :=
  match job.status with
  | .created | .enqueued | .leased => { summary with queued := summary.queued + 1 }
  | .running => { summary with running := summary.running + 1 }
  | .succeeded => { summary with succeeded := summary.succeeded + 1 }
  | .retrying => { summary with retrying := summary.retrying + 1 }
  | .deadLettered => { summary with deadLettered := summary.deadLettered + 1 }
  | .failed | .cancelled =>
    { summary with
      failed := summary.failed + 1
      submissionRejected :=
        if job.latestSubmissionFailure.isSome then summary.submissionRejected + 1
        else summary.submissionRejected }

def JobManagementSummary.ofJobs (jobs : List JobSnapshot) : JobManagementSummary :=
  jobs.foldl .add
    { totalJobs := jobs.length
      queued := 0
      running := 0
      succeeded := 0
      retrying := 0
      deadLettered := 0
      failed := 0
      submissionRejected := 0 }

/-- The view over the definitions in the order in which the store lists them. -/
def managementView (registry : JobHandlerRegistry) (s : PlatformState) (filter : JobQueryFilter)
    (definitions : List JobDefinition) : AppResult JobManagementView := do
  let allJobs ← matchingJobs registry s filter definitions
  return { jobs := paginate allJobs filter, summary := .ofJobs allJobs }

/-- The definitions in the store. -/
def PlatformState.stored (s : PlatformState) : List JobDefinition := s.definitions.entries.map (·.2)

section Matching

variable {registry : JobHandlerRegistry} {s : PlatformState} {filter : JobQueryFilter}
  {definition : JobDefinition} {definitions definitions' : List JobDefinition} {job : JobSnapshot}

/-- What is known of a job. -/
def knownJob (registry : JobHandlerRegistry) (s : PlatformState) (definition : JobDefinition) :
    Option JobSnapshot :=
  match s.snapshots.lookup definition.jobId with
  | some snapshot =>
    some (buildJobSnapshot registry definition snapshot (s.history definition.jobId))
  | none => buildJobSnapshotWithoutRuntime registry definition (s.history definition.jobId)

/-- What is known of a job when it matches. -/
def matchedJob (registry : JobHandlerRegistry) (s : PlatformState) (filter : JobQueryFilter)
    (definition : JobDefinition) : Option JobSnapshot :=
  (knownJob registry s definition).filter (matchesJobFilter · filter)

theorem jobSnapshot_eq_known (registry : JobHandlerRegistry) (s : PlatformState)
    (definition : JobDefinition) :
    jobSnapshot registry s definition.jobId definition = .ok (knownJob registry s definition) := by
  unfold jobSnapshot getTask knownJob
  cases s.snapshots.lookup definition.jobId <;> rfl

theorem matchingJobs_eq_filterMap (registry : JobHandlerRegistry) (s : PlatformState)
    (filter : JobQueryFilter) (definitions : List JobDefinition) :
    matchingJobs registry s filter definitions =
      .ok (definitions.filterMap (matchedJob registry s filter)) := by
  induction definitions with
  | nil => rfl
  | cons definition rest ih =>
    rw [matchingJobs, jobSnapshot_eq_known, ih, List.filterMap_cons]
    have unfolded : (knownJob registry s definition).filter (matchesJobFilter · filter) =
        matchedJob registry s filter definition := rfl
    rw [ok_bind, ok_bind, unfolded]
    cases matchedJob registry s filter definition <;> rfl

theorem jobId_of_matched (matched : job ∈ matchedJob registry s filter definition) :
    job.jobId = definition.jobId := by
  have known : knownJob registry s definition = some job :=
    (Option.filter_eq_some_iff.1 matched).1
  have built := jobSnapshot_eq_known registry s definition
  obtain ⟨snapshot, built', -, named⟩ := jobSnapshot_eq registry s definition.jobId definition
  rw [built, known] at built'
  cases built'
  exact named job rfl

end Matching

section Pages

variable {registry : JobHandlerRegistry} {s : PlatformState} {filter : JobQueryFilter} {n : Nat}

/-- The filter of the page at an offset of `k` pages. -/
def pageFilter (filter : JobQueryFilter) (n k : Nat) : JobQueryFilter :=
  { filter with limit := some n, offset := some (k * n) }

/-- The filter of the whole list. -/
def listFilter (s : PlatformState) (filter : JobQueryFilter) : JobQueryFilter :=
  { filter with limit := some s.stored.length, offset := none }

/-- Whether a stored job matches. -/
def isMatching (registry : JobHandlerRegistry) (s : PlatformState) (filter : JobQueryFilter)
    (definition : JobDefinition) : Bool :=
  (matchedJob registry s filter definition).isSome

/-- The pages, one after another until no more jobs come, give the jobs of the list. The store may
list its definitions in another order for each page. -/
def PagesThrough (registry : JobHandlerRegistry) (s : PlatformState) (filter : JobQueryFilter)
    (n : Nat) (listing : Nat → List JobDefinition) : Prop :=
  ∃ (views : Nat → JobManagementView) (jobs : List JobSnapshot) (last : Nat),
    (∀ k, managementView registry s (pageFilter filter n k) (listing k) = .ok (views k)) ∧
    listJobs registry s (listFilter s filter) = .ok jobs ∧
    ∀ m, last ≤ m → (List.range m).flatMap (fun k => (views k).jobs) = jobs

/-- The pages of a list, as far as they go. -/
theorem flatMap_pages {α : Type} (items : List α) (n m : Nat) :
    (List.range m).flatMap (fun k => (items.drop (k * n)).take n) = items.take (m * n) := by
  induction m with
  | zero => simp
  | succ m ih =>
    rw [List.range_succ, List.flatMap_append, ih, List.flatMap_singleton, Nat.succ_mul,
      List.take_add]

/-- The matching jobs in the order of their identifiers. -/
def matchedInOrder (registry : JobHandlerRegistry) (s : PlatformState) (filter : JobQueryFilter) :
    List JobSnapshot :=
  sortBy (·.jobId) (s.stored.filterMap (matchedJob registry s filter))

theorem map_jobId_matched (definitions : List JobDefinition) :
    ((definitions.filterMap (matchedJob registry s filter)).map (·.jobId)).Sublist
      (definitions.map (·.jobId)) := by
  induction definitions with
  | nil => simp
  | cons definition rest ih =>
    rw [List.filterMap_cons]
    cases matched : matchedJob registry s filter definition with
    | none => exact ih.cons _
    | some job =>
      rw [List.map_cons, List.map_cons, jobId_of_matched matched]
      exact ih.cons_cons _

theorem Filed.nodup (filed : Filed s) : (s.stored.map (·.jobId)).Nodup := by
  have keys : s.stored.map (·.jobId) = s.definitions.keys := by
    rw [PlatformState.stored, List.map_map]
    exact List.map_congr_left filed
  rw [keys]
  exact s.definitions.nodupKeys

theorem Filed.nodup_matched (filed : Filed s) (registry : JobHandlerRegistry)
    (filter : JobQueryFilter) :
    ((s.stored.filterMap (matchedJob registry s filter)).map (·.jobId)).Nodup :=
  filed.nodup.sublist (map_jobId_matched s.stored)

theorem listJobs_all (filed : Filed s) :
    listJobs registry s (listFilter s filter) = .ok (matchedInOrder registry s filter) := by
  have matched := matchingJobs_eq_filterMap registry s (listFilter s filter) s.stored
  have same : matchedJob registry s (listFilter s filter) = matchedJob registry s filter := rfl
  rw [same] at matched
  rw [listJobs, collectMatchingJobs, ← PlatformState.stored, matched, ok_bind]
  have sorted := mergeSort_eq_sortBy (filed.nodup_matched registry filter)
  have short : (matchedInOrder registry s filter).length ≤ s.stored.length := by
    rw [matchedInOrder, (sortBy_perm _ _).length_eq]
    exact List.length_filterMap_le _ _
  exact congrArg Except.ok ((congrArg (List.take _) sorted).trans (List.take_of_length_le short))

theorem managementView_page (registry : JobHandlerRegistry) (s : PlatformState)
    (filter : JobQueryFilter) (n : Nat) (definitions : List JobDefinition) (k : Nat) :
    ∃ view, managementView registry s (pageFilter filter n k) definitions = .ok view ∧
      view.jobs =
        ((definitions.filterMap (matchedJob registry s filter)).drop (k * n)).take n := by
  have matched := matchingJobs_eq_filterMap registry s (pageFilter filter n k) definitions
  refine ⟨_, by rw [managementView, matched, ok_bind]; rfl, rfl⟩

/-- The definitions in order give the matching jobs in order. -/
theorem filterMap_sortBy (filed : Filed s) :
    (sortBy JobDefinition.jobId s.stored).filterMap (matchedJob registry s filter) =
      matchedInOrder registry s filter := by
  have ordered : ((sortBy JobDefinition.jobId s.stored).filterMap
      (matchedJob registry s filter)).Pairwise fun a b => a.jobId ≤ b.jobId := by
    refine List.pairwise_filterMap.2 ((pairwise_sortBy _ _).imp ?_)
    intro a b up job matched job' matched'
    rw [jobId_of_matched matched, jobId_of_matched matched']
    exact up
  have perm := (sortBy_perm JobDefinition.jobId s.stored).filterMap (matchedJob registry s filter)
  rw [← sortBy_eq_self ordered, matchedInOrder]
  exact (sortBy_eq_of_perm (filed.nodup_matched registry filter) perm.symm).symm

/-- The pages give the list, whatever the orders, exactly when at most one job matches and the
pages are not empty, or no job matches. -/
theorem pages_exact_iff (registry : JobHandlerRegistry) (s : PlatformState)
    (filter : JobQueryFilter) (n : Nat) (filed : Filed s) :
    (∀ listing : Nat → List JobDefinition, (∀ k, (listing k).Perm s.stored) →
      PagesThrough registry s filter n listing) ↔
    s.stored.countP (isMatching registry s filter) = 0 ∨
      (0 < n ∧ s.stored.countP (isMatching registry s filter) ≤ 1) := by
  have counted : s.stored.countP (isMatching registry s filter) =
      (s.stored.filterMap (matchedJob registry s filter)).length :=
    List.length_filterMap_eq_countP.symm
  have perm : (matchedInOrder registry s filter).Perm
      (s.stored.filterMap (matchedJob registry s filter)) := sortBy_perm _ _
  rw [counted, ← perm.length_eq]
  constructor
  · intro through
    -- the store lists everything in the opposite order
    obtain ⟨views, jobs, last, viewed, listed, all⟩ :=
      through (fun _ => (sortBy JobDefinition.jobId s.stored).reverse)
        fun _ => (List.reverse_perm _).trans (sortBy_perm _ _)
    rw [listJobs_all filed] at listed
    cases listed
    have page (k : Nat) : (views k).jobs =
        ((matchedInOrder registry s filter).reverse.drop (k * n)).take n := by
      obtain ⟨view, same, jobs⟩ := managementView_page registry s filter n
        (sortBy JobDefinition.jobId s.stored).reverse k
      rw [viewed k] at same
      cases same
      rw [jobs, List.filterMap_reverse, filterMap_sortBy filed]
    have reversed := all (max last (matchedInOrder registry s filter).length) (le_max_left _ _)
    simp only [page, flatMap_pages] at reversed
    rcases Nat.eq_zero_or_pos n with rfl | positive
    · rw [Nat.mul_zero, List.take_zero] at reversed
      exact .inl (by rw [← reversed]; rfl)
    · refine .inr ⟨positive, length_le_one_of_reverse (pairwise_sortBy _ _) ?_ ?_⟩
      · exact ((perm.map _).nodup_iff).2 (filed.nodup_matched registry filter)
      · rw [List.take_of_length_le] at reversed
        · exact reversed
        · rw [List.length_reverse]
          calc _ ≤ max last (matchedInOrder registry s filter).length := le_max_right _ _
            _ ≤ _ := Nat.le_mul_of_pos_right _ positive
  · intro few listing orders
    have views (k : Nat) := managementView_page registry s filter n (listing k) k
    choose view viewed page using views
    rw [perm.length_eq] at few
    have alone : (s.stored.filterMap (matchedJob registry s filter)).length ≤ 1 := by
      rcases few with none | ⟨_, one⟩
      · omega
      · exact one
    -- a list of one element has no other order
    have single {jobs : List JobSnapshot}
        (alike : jobs.Perm (s.stored.filterMap (matchedJob registry s filter))) :
        jobs = s.stored.filterMap (matchedJob registry s filter) := by
      cases matched : s.stored.filterMap (matchedJob registry s filter) with
      | nil => exact List.perm_nil.1 (matched ▸ alike)
      | cons job rest =>
        rw [matched, List.length_cons] at alone
        obtain rfl : rest = [] := List.eq_nil_of_length_eq_zero (by omega)
        exact List.perm_singleton.1 (matched ▸ alike)
    have page' (k : Nat) := single ((orders k).filterMap (matchedJob registry s filter))
    have ordered : matchedInOrder registry s filter =
        s.stored.filterMap (matchedJob registry s filter) := single perm
    refine ⟨view, _, 1, viewed, listJobs_all filed, fun m enough => ?_⟩
    simp only [page, page', flatMap_pages, ordered]
    apply List.take_of_length_le
    rcases few with none | ⟨positive, one⟩
    · omega
    · calc _ ≤ 1 := one
        _ ≤ m * n := Nat.mul_pos enough positive

section TwoJobs

/-- Everything is shown. -/
def anyJob : JobQueryFilter :=
  { jobNamespace := none
    sourceDomain := none
    queue := none
    lane := none
    status := none
    limit := none
    offset := none }

/-- A job in the store, with the snapshot of its task. -/
def PlatformState.withJob (s : PlatformState) (jobId : String) : PlatformState :=
  (s.save (sampleJob jobId)).updateSnapshot
    (RuntimeTaskService.queuedSnapshot (sampleTask jobId "oj_judge" 3))

theorem Filed.withJob (filed : Filed s) (jobId : String) : Filed (s.withJob jobId) :=
  filed.save (sampleJob jobId)

theorem Filed.empty : Filed .empty := by simp [Filed, PlatformState.empty]

def oneJob : PlatformState := PlatformState.empty.withJob "job-1"

def twoJobs : PlatformState := oneJob.withJob "job-2"

/-- A store with one job is paged through. -/
theorem pages_exact_of_oneJob :
    Filed oneJob ∧ ∀ listing : Nat → List JobDefinition,
      (∀ k, (listing k).Perm oneJob.stored) →
      PagesThrough ojRegistry oneJob anyJob 1 listing :=
  ⟨Filed.empty.withJob "job-1",
    (pages_exact_iff ojRegistry oneJob anyJob 1 (Filed.empty.withJob "job-1")).2
      (by decide +kernel)⟩

/-- Two jobs on pages of one job, in the order of the store, which is not that of the list. -/
theorem pages_out_of_order :
    Filed twoJobs ∧ ¬ PagesThrough ojRegistry twoJobs anyJob 1 fun _ => twoJobs.stored := by
  have filed : Filed twoJobs := (Filed.empty.withJob "job-1").withJob "job-2"
  refine ⟨filed, fun ⟨views, jobs, last, viewed, listed, all⟩ => ?_⟩
  have shown : (twoJobs.stored.filterMap (matchedJob ojRegistry twoJobs anyJob)).map (·.jobId) =
      ["job-2", "job-1"] := by decide +kernel
  have sorted : (matchedInOrder ojRegistry twoJobs anyJob).map (·.jobId) = ["job-1", "job-2"] := by
    decide +kernel
  rw [listJobs_all filed] at listed
  cases listed
  have page (k : Nat) : (views k).jobs =
      ((twoJobs.stored.filterMap (matchedJob ojRegistry twoJobs anyJob)).drop (k * 1)).take 1 := by
    obtain ⟨view, same, jobs⟩ := managementView_page ojRegistry twoJobs anyJob 1 twoJobs.stored k
    rw [viewed k] at same
    cases same
    exact jobs
  have together := all (last + 2) (Nat.le_add_right _ _)
  simp only [page, flatMap_pages] at together
  have whole := congrArg (List.map JobSnapshot.jobId) together
  rw [List.map_take, shown, List.take_of_length_le (by simp), sorted] at whole
  exact absurd whole (by decide)

end TwoJobs

end Pages

end NexusCore.Jobs
