import NexusCore.Jobs.Dispatch
import NexusCore.Oj.Admission

/-!
# Creating a submission

The handler of a creation stores the submission first, then builds its job from what is stored, and
hands the job to the job platform. Whatever fails after the first of these leaves the submission
behind.
-/

namespace NexusCore.Oj

open NexusCore.Lib NexusCore.Runtime NexusCore.Jobs

section Handler

inductive OjCmd where
  | findDetail (problemId : String)
  | insertSubmission (draft : SubmissionDraft)
  | findSubmission (submissionId : String)
  | platform (command : PlatformCmd)

abbrev OjCmd.Answer : OjCmd → Type
  | .findDetail _ => AppResult (Option Problem)
  | .insertSubmission _ => AppResult SubmissionRecord
  | .findSubmission _ => AppResult (Option SubmissionDetail)
  | .platform command => command.Answer

abbrev OjProg (α : Type) : Type := Prog OjCmd OjCmd.Answer AppError α

namespace OjService

def getProblemDetail (problemId : String) : OjProg Problem := do
  match ← Prog.lift (← Prog.op (OjCmd.findDetail problemId)) with
  | some problem => return problem
  | none => throw (.notFound ("problem not found: " ++ problemId))

def getSubmissionDetail (submissionId : String) : OjProg SubmissionDetail := do
  match ← Prog.lift (← Prog.op (OjCmd.findSubmission submissionId)) with
  | some submission => return submission
  | none => throw (.notFound ("submission not found: " ++ submissionId))

/-- What is checked of a draft before the submission is stored. -/
def checkDraft (problem : Problem) (draft : SubmissionDraft) : AppResult Unit := do
  validateProblem problem
  ensure (problem.judgeMode != .easyJudge) (.badRequest
    "easy_judge problems must use /api/v1/oj/easy-judge/submissions")
  ensure (problem.supportedLanguages.contains draft.language) (.badRequest
    ("language " ++ draft.language ++ " is not supported for problem " ++ problem.problemId.value))
  ensure (problem.limits.lookup draft.language).isSome (.badRequest
    ("language " ++ draft.language ++ " is not configured for problem " ++
      problem.problemId.value))
  validateSubmission draft

def createSubmission (draft : SubmissionDraft) : OjProg SubmissionRecord := do
  let problem ← getProblemDetail draft.problemId.value
  Prog.lift (checkDraft problem draft)
  Prog.lift (← Prog.op (OjCmd.insertSubmission draft))

/-- The job of a submission to a problem. -/
def jobOf (problem : Problem) (submission : SubmissionDetail) : AppResult JobDefinition := do
  validateProblem problem
  ensure (problem.judgeMode != .easyJudge)
    (.badRequest "easy_judge submissions do not produce runtime tasks")
  match problem.limits.lookup submission.submission.language with
  | none => .error (.badRequest ("language " ++ submission.submission.language ++
      " is not configured for problem " ++ problem.problemId.value))
  | some limits =>
    let judgeMode ← mapRuntimeJudgeMode problem.judgeMode
    return buildOjJudgeJob (ojJudgeJobInput problem submission limits judgeMode)

def buildJobDefinition (submissionId : String) : OjProg JobDefinition := do
  let submission ← getSubmissionDetail submissionId
  let problem ← getProblemDetail submission.submission.problemId.value
  Prog.lift (jobOf problem submission)

end OjService

/-- The handler of the route; without a job platform it only stores the submission. -/
def createSubmissionHandler (platform : Option JobHandlerRegistry) (draft : SubmissionDraft) :
    OjProg SubmissionRecord := do
  let submission ← OjService.createSubmission draft
  match platform with
  | some registry =>
    let job ← OjService.buildJobDefinition submission.submissionId.value
    let _ ← (JobPlatformService.submit registry job).relabel .platform fun _ r => r
    return submission
  | none => return submission

end Handler

section Stores

/-- The repositories behind the handler, and the stores of the job platform. -/
structure OjStores where
  problems : InMemoryProblemRepository
  submissions : InMemorySubmissionRepository
  platform : PlatformState

/-- What a request meets: the identifier that the repository generates, the clock, and the answers
of the queue, which may take a task that it answers with an error. -/
structure OjEnv where
  newId : String
  now : UInt64
  enqueue : RuntimeTask → AppResult Unit
  takes : RuntimeTask → Bool
  taken : ∀ task, enqueue task = .ok () → takes task = true

/-- The stores of the job platform, beside the queue of a request. -/
def OjEnv.platform (env : OjEnv) (s : PlatformState) :
    (c : PlatformCmd) → c.Answer × PlatformState
  | .saveDefinition job => ((), s.save job)
  | .appendEvent event => ((), s.append event)
  | .now => (env.now, s)
  | .runtime (.updateSnapshot snapshot) => ((), s.updateSnapshot snapshot)
  | .runtime (.enqueue task) => (env.enqueue task, s.offer task (env.takes task))
  | .runtime (.reserve _) => (none, s)
  | .runtime (.ack _) => (.ok (), s)
  | .runtime (.retry ..) => (.error .internal, s)
  | .runtime (.onEvent event) => (.ok (), s.append (runtimeJobEvent event env.now))
  | .runtime (.prepare _) => (.error .internal, s)
  | .runtime (.execute _) => (.error .internal, s)
  | .runtime (.sleep _) => ((), s)

/-- The stores as the environment of one request. -/
def OjEnv.answer (env : OjEnv) (s : OjStores) : (c : OjCmd) → c.Answer × OjStores
  | .findDetail problemId => (.ok (s.problems.find problemId), s)
  | .insertSubmission draft => (.ok (pendingDetail draft env.newId).submission,
      { s with submissions := s.submissions ++ [pendingDetail draft env.newId] })
  | .findSubmission submissionId => (.ok (s.submissions.find submissionId), s)
  | .platform command => ((env.platform s.platform command).1,
      { s with platform := (env.platform s.platform command).2 })

end Stores

section Alone

variable {env : OjEnv} {s : OjStores} {draft : SubmissionDraft}

/-- The task that the platform hands the runtime for a job, if it gets so far. -/
def dispatchedTask (registry : JobHandlerRegistry) (now : UInt64) (job : JobDefinition) :
    AppResult RuntimeTask := do
  validateJob registry job
  match registry.resolveHandler job.jobType with
  | none => .error (.badRequest ("no executable job handler for " ++ job.jobType.label))
  | some handler =>
    match ← handler.prepareDispatch job (.fromJob job now) with
    | .rejected failure => .error (mapHandlerFailure handler.descriptor.key failure)
    | .dispatch plan => return plan.runtimeTask

/-- The identifier of the environment is a new one. -/
structure OjEnv.Fresh (env : OjEnv) (s : OjStores) : Prop where
  stored : s.submissions.find env.newId = none
  offered : ∀ offer ∈ s.platform.offers, offer.1.judge.submissionId.value ≠ env.newId

/-- The stores with the submission of a draft. -/
def OjEnv.store (env : OjEnv) (s : OjStores) (draft : SubmissionDraft) : OjStores :=
  { s with submissions := s.submissions ++ [pendingDetail draft env.newId] }

end Alone

section Served

variable {problems : InMemoryProblemRepository} {draft : SubmissionDraft} {problem : Problem}

/-- A submission that was stored for a draft, whatever events have been applied to it. -/
structure StoredFrom (draft : SubmissionDraft) (submissionId : String)
    (detail : SubmissionDetail) : Prop where
  named : detail.submission.submissionId.value = submissionId
  problemId : detail.submission.problemId = draft.problemId
  language : detail.submission.language = draft.language
  sourceCode : detail.sourceCode = draft.sourceCode

/-- The job of a stored submission, and at any time a task for it. -/
def JobServed (registry : JobHandlerRegistry) (problems : InMemoryProblemRepository)
    (submissionId : String) (detail : SubmissionDetail) : Prop :=
  ∃ problem job, problems.find detail.submission.problemId.value = some problem ∧
    OjService.jobOf problem detail = .ok job ∧ ∀ now, ∃ task,
      dispatchedTask registry now job = .ok task ∧ task.taskId = "task-" ++ submissionId ∧
        task.judge.submissionId.value = submissionId

/-- The draft is refused, or its submission is served whenever it is stored. -/
def Served (platform : Option JobHandlerRegistry) (problems : InMemoryProblemRepository)
    (draft : SubmissionDraft) : Prop :=
  (∀ submissionId, ∃ e, createSubmission problems draft submissionId = .error e) ∨
    ∃ registry ∈ platform, ∀ submissionId detail, Oj.isBlank submissionId = false →
      StoredFrom draft submissionId detail → JobServed registry problems submissionId detail

theorem deriveRuntimeLane_mem (problem : Problem) (language : String) :
    deriveRuntimeLane problem language ∈ ["heavy", "special", "normal", "fast"] := by
  unfold deriveRuntimeLane
  split_ifs <;> simp

end Served

end NexusCore.Oj
