import NexusCore.Lib.Interleaving
import NexusCore.Oj.Creation
import NexusCore.Runtime.Queue.Places

/-!
# Submissions and their tasks

Requests create submissions, workers judge their tasks, and events arrive late, all of them on one
repository and one queue. As long as every creation is served and no late event takes a submission
back that has been finished, a submission that is not finished has a task that waits, is leased, or
is in the hands of a call.
-/

namespace NexusCore.Oj

open NexusCore.Lib NexusCore.Runtime NexusCore.Jobs

def SubmissionStatus.Unfinished (status : SubmissionStatus) : Prop :=
  status = .pending ∨ status = .queued ∨ status = .running

/-- The submission that a task judges. -/
def submissionOf (task : RuntimeTask) : String := task.judge.submissionId.value

section World

/-- The repository and the queue of the judge. -/
structure JudgeWorld where
  submissions : InMemorySubmissionRepository
  queue : TimedMemoryQueue

def JudgeWorld.places (w : JudgeWorld) : QueuePlaces := w.queue.queue.places

/-- What the problems, the repository, the queue and the workers may answer. New identifiers are
not blank, and an execution ends with one of its two final statuses. A submission may fail to be
stored, and the queue may refuse a task. -/
def judgeHandler (problems : InMemoryProblemRepository) :
    Handler JudgeWorld OjCmd OjCmd.Answer
  | w, .findDetail problemId, r, t => r = .ok (problems.find problemId) ∧ t = w
  | w, .insertSubmission draft, r, t => (∃ newId, isBlank newId = false ∧
      w.submissions.find newId = none ∧ r = .ok (pendingDetail draft newId).submission ∧
      t = { w with submissions := w.submissions ++ [pendingDetail draft newId] }) ∨
      (∃ e, r = .error e) ∧ t = w
  | w, .findSubmission submissionId, r, t => r = .ok (w.submissions.find submissionId) ∧ t = w
  | w, .platform (.runtime (.onEvent event)), r, t => r = .ok () ∧
      t = { w with submissions := w.submissions.applyRuntimeEvent event }
  | w, .platform (.runtime (.enqueue task)), r, t => t.submissions = w.submissions ∧
      (w.queue.Answers (.enqueue task) r t.queue ∨ (∃ e, r = .error e) ∧ t.queue = w.queue)
  | w, .platform (.runtime (.execute _)), r, t => t = w ∧
      ∀ outcome, r = .ok outcome →
        outcome.finalStatus = .completed ∨ outcome.finalStatus = .failed
  | w, .platform (.runtime command), r, t => t.submissions = w.submissions ∧
      w.queue.Answers command r t.queue
  | w, .platform _, _, t => t = w

/-- A program of the runtime service among the calls of the judge. -/
def serviceCall (p : ServiceProg Unit) : OjProg Unit :=
  p.relabel (fun command => OjCmd.platform (.runtime command)) fun _ r => r

def creation (platform : Option JobHandlerRegistry) (draft : SubmissionDraft) : OjProg Unit :=
  (createSubmissionHandler platform draft).bind fun _ => .ret ()

abbrev JudgeBusy : Type := Busy JudgeWorld OjCmd OjCmd.Answer AppError Unit

abbrev JudgeMove : Type := Move OjCmd OjCmd.Answer AppError Unit

end World

section Duties

/-- What a call owes: the task of a submission that it has stored, the verdict of a delivery, the
acknowledgement after the verdict, or the event after a retry. -/
inductive JudgeDuty where
  | free
  | row (draft : SubmissionDraft) (submissionId : String)
  | held (delivery : RuntimeTaskDelivery)
  | settles (delivery : RuntimeTaskDelivery)
  | retried (task : RuntimeTask)
  | buries (task : RuntimeTask)

namespace JudgeDuty

/-- The commands that change the repository or the queue are issued by those who owe them. -/
def permits (g : JudgeDuty) : OjCmd → Prop
  | .insertSubmission _ => g = .free
  | .platform (.runtime (.reserve _)) => g = .free
  | .platform (.runtime (.enqueue task)) => ∃ draft submissionId, g = .row draft submissionId ∧
      task.taskId = "task-" ++ submissionId ∧ submissionOf task = submissionId
  | .platform (.runtime (.ack deliveryId)) => ∃ delivery, g = .settles delivery ∧
      delivery.deliveryId = deliveryId
  | .platform (.runtime (.retry deliveryId _ _)) => ∃ delivery, g = .held delivery ∧
      delivery.deliveryId = deliveryId
  | .platform (.runtime (.onEvent event)) =>
    (g = .free ∧ event.status = .queued ∧ event.submissionId.isSome) ∨
    (∃ delivery, g = .held delivery ∧ event.submissionId = some (submissionOf delivery.task)) ∨
    (∃ task, g = .retried task ∧ event.submissionId = some (submissionOf task) ∧
      event.status = .retrying) ∨
    ∃ task, g = .buries task ∧ event.submissionId = some (submissionOf task) ∧ IsTerminal event
  | _ => True

def next : JudgeDuty → (c : OjCmd) → c.Answer → JudgeDuty
  | .free, .insertSubmission draft, .ok record => .row draft record.submissionId.value
  | .row _ _, .platform (.runtime (.enqueue _)), .ok _ => .free
  | .free, .platform (.runtime (.reserve _)), some delivery => .held delivery
  | .held delivery, .platform (.runtime (.onEvent event)), _ =>
    if IsTerminal event then .settles delivery else .held delivery
  | .held delivery, .platform (.runtime (.retry ..)), .ok .requeued => .retried delivery.task
  | .held delivery, .platform (.runtime (.retry ..)), _ => .buries delivery.task
  | .settles _, .platform (.runtime (.ack _)), _ => .free
  | .retried _, .platform (.runtime (.onEvent _)), _ => .free
  | .buries _, .platform (.runtime (.onEvent _)), _ => .free
  | g, _, _ => g

/-- What the calls rely on: the problems stay, a stored submission is found as it was drafted, the
queue takes its task, and an execution ends with a final status. -/
def assumes (problems : InMemoryProblemRepository) : Assumption OjCmd OjCmd.Answer JudgeDuty
  | _, .findDetail problemId, r => r = .ok (problems.find problemId)
  | _, .insertSubmission draft, r => ∀ record, r = .ok record → ∃ newId, isBlank newId = false ∧
      record = (pendingDetail draft newId).submission
  | .row draft submissionId, .findSubmission given, r => given = submissionId →
      ∃ detail, r = .ok (some detail) ∧ StoredFrom draft submissionId detail
  | _, .platform (.runtime (.enqueue _)), r => r = .ok ()
  | _, .platform (.runtime (.execute _)), r => ∀ outcome, r = .ok outcome →
      outcome.finalStatus = .completed ∨ outcome.finalStatus = .failed
  | _, _, _ => True

end JudgeDuty

end Duties

section Calls

open JudgeDuty RuntimeTaskService

variable {problems : InMemoryProblemRepository} {draft : SubmissionDraft}
  {delivery : RuntimeTaskDelivery} {task : RuntimeTask}

end Calls

section Accounts

namespace JudgeDuty

def rowOf : JudgeDuty → Option String
  | .row _ submissionId => some submissionId
  | _ => none

def leaseOf : JudgeDuty → Option RuntimeTaskDelivery
  | .held delivery | .settles delivery => some delivery
  | _ => none

/-- The call has the submission in its hands. -/
def Keeps (submissionId : String) : JudgeDuty → Prop
  | .row _ given => given = submissionId
  | .held delivery => submissionOf delivery.task = submissionId
  | .buries task => submissionOf task = submissionId
  | _ => False

end JudgeDuty

open JudgeDuty

/-- The submissions of the tasks that wait or are leased, and of those that are owed. -/
def servedIn (places : QueuePlaces) (owed : Multiset JudgeDuty) : Multiset String :=
  places.waiting.map submissionOf + places.leased.map (fun held => submissionOf held.task) +
    owed.filterMap rowOf

/-- A task of the submission waits, or a call has it in its hands. -/
def Covered (places : QueuePlaces) (owed : Multiset JudgeDuty) (submissionId : String) : Prop :=
  (∃ task ∈ places.waiting, submissionOf task = submissionId) ∨
    ∃ g ∈ owed, g.Keeps submissionId

/-- The tasks are named after their submissions, and the leases that calls hold are there. -/
structure Leases (places : QueuePlaces) (owed : Multiset JudgeDuty) : Prop where
  waiting : ∀ task ∈ places.waiting, task.taskId = "task-" ++ submissionOf task
  leased : ∀ held ∈ places.leased, held.task.taskId = "task-" ++ submissionOf held.task
  held : owed.filterMap leaseOf ≤ places.leased

/-- No two tasks are for one submission, and every submission that is not finished is covered. -/
structure JudgeInv (w : JudgeWorld) (owed : Multiset JudgeDuty) : Prop where
  filed : w.queue.queue.Filed
  leases : Leases w.places owed
  alone : (servedIn w.places owed).Nodup
  known : ∀ submissionId ∈ servedIn w.places owed, (w.submissions.find submissionId).isSome
  rows : ∀ draft submissionId, .row draft submissionId ∈ owed →
    ∀ detail ∈ w.submissions.find submissionId, StoredFrom draft submissionId detail
  covered : ∀ submissionId, ∀ detail ∈ w.submissions.find submissionId,
    detail.submission.status.Unfinished → Covered w.places owed submissionId

variable {w : JudgeWorld} {u : TimedMemoryQueue} {owed owed' : Multiset JudgeDuty}
  {g g' : JudgeDuty} {submissionId : String} {delivery : RuntimeTaskDelivery}

theorem Covered.of_other {places : QueuePlaces} (covered : Covered places (g ::ₘ owed) submissionId)
    (other : g.Keeps submissionId → g'.Keeps submissionId) :
    Covered places (g' ::ₘ owed) submissionId := by
  rcases covered with waits | ⟨d, mem, keeps⟩
  · exact .inl waits
  · right
    rcases Multiset.mem_cons.1 mem with rfl | rest
    · exact ⟨g', Multiset.mem_cons_self _ _, other keeps⟩
    · exact ⟨d, Multiset.mem_cons_of_mem rest, keeps⟩

/-- No task waits under whose id another one is leased. -/
theorem JudgeInv.apart (inv : JudgeInv w owed) : w.queue.queue.Apart := by
  intro task waits
  cases found : w.queue.queue.leased.lookup ("dlv-" ++ task.taskId) with
  | none => rfl
  | some held =>
    have there : held ∈ w.places.leased := InMemoryRuntimeTaskQueue.mem_deliveries.2 ⟨_, found⟩
    obtain ⟨here, named⟩ := inv.filed _ _ found
    have ids : task.taskId = held.task.taskId :=
      (String.append_right_inj "dlv-").1 (here.symm.trans named)
    rw [inv.leases.waiting task waits, inv.leases.leased held there] at ids
    have same := (String.append_right_inj "task-").1 ids
    have disjoint := (Multiset.nodup_add.1 (Multiset.nodup_add.1 inv.alone).1).2.2
    have waiting := Multiset.mem_map_of_mem submissionOf waits
    have leased := Multiset.mem_map_of_mem (fun held => submissionOf held.task) there
    exact absurd (same ▸ leased) (Multiset.disjoint_left.1 disjoint waiting)

/-- A delivery that a call holds is leased under its id. -/
theorem JudgeInv.found (inv : JudgeInv w (g ::ₘ owed)) (holds : g.leaseOf = some delivery) :
    w.queue.queue.leased.lookup delivery.deliveryId = some delivery := by
  have mine : delivery ∈ w.places.leased := by
    apply Multiset.mem_of_le inv.leases.held
    rw [Multiset.filterMap_cons_some _ _ _ holds]
    exact Multiset.mem_cons_self _ _
  obtain ⟨id, found⟩ := InMemoryRuntimeTaskQueue.mem_deliveries.1 mine
  rw [(inv.filed _ _ found).1]
  exact found

/-- What changes in the queue alone. -/
theorem JudgeInv.moved (inv : JudgeInv w owed) (filed : u.queue.Filed)
    (leases : Leases u.queue.places owed')
    (fewer : servedIn u.queue.places owed' ≤ servedIn w.places owed)
    (rows : ∀ draft submissionId, .row draft submissionId ∈ owed' → .row draft submissionId ∈ owed)
    (covers : ∀ submissionId, Covered w.places owed submissionId →
      Covered u.queue.places owed' submissionId) :
    JudgeInv ⟨w.submissions, u⟩ owed' where
  filed := filed
  leases := leases
  alone := Multiset.nodup_of_le fewer inv.alone
  known := fun submissionId mem => inv.known submissionId (Multiset.mem_of_le fewer mem)
  rows := fun draft submissionId mem => inv.rows draft submissionId (rows _ _ mem)
  covered := fun submissionId detail found unfinished =>
    covers _ (inv.covered submissionId detail found unfinished)

/-- A reserved task is in the hands of the call that has reserved it. -/
theorem JudgeInv.reserved (inv : JudgeInv w (.free ::ₘ owed)) {bindings : List RuntimeRouteBinding}
    (answers : w.queue.Answers (.reserve bindings) (some delivery) u) :
    JudgeInv ⟨w.submissions, u⟩ (.held delivery ::ₘ owed) := by
  obtain ⟨⟨waiting, leased, -, -⟩, filed⟩ := answers.serves inv.filed inv.apart
  change w.places.waiting = _ at waiting
  change _ = delivery ::ₘ w.places.leased at leased
  obtain ⟨waits, leases, held⟩ := inv.leases
  rw [Multiset.filterMap_cons_none _ _ rfl] at held
  refine inv.moved filed ⟨?_, ?_, ?_⟩ ?_ ?_ ?_
  · intro task mem
    exact waits task (by rw [waiting]; exact Multiset.mem_cons_of_mem mem)
  · intro given mem
    rw [leased] at mem
    rcases Multiset.mem_cons.1 mem with rfl | old
    · exact waits given.task (by rw [waiting]; exact Multiset.mem_cons_self _ _)
    · exact leases given old
  · rw [leased, Multiset.filterMap_cons_some leaseOf (.held delivery) owed rfl]
    exact (Multiset.cons_le_cons_iff _).2 held
  · apply le_of_eq
    unfold servedIn
    rw [leased, waiting, Multiset.filterMap_cons_none _ _ rfl, Multiset.filterMap_cons_none _ _ rfl]
    simp only [Multiset.map_cons, Multiset.cons_add, Multiset.add_cons]
  · intro draft submissionId mem
    rcases Multiset.mem_cons.1 mem with same | old
    · cases same
    · exact Multiset.mem_cons_of_mem old
  · intro submissionId covered
    rcases covered with ⟨task, mem, named⟩ | ⟨g, mem, keeps⟩
    · rw [waiting] at mem
      rcases Multiset.mem_cons.1 mem with rfl | rest
      · exact .inr ⟨.held delivery, Multiset.mem_cons_self _ _, named⟩
      · exact .inl ⟨task, rest, named⟩
    · rcases Multiset.mem_cons.1 mem with rfl | rest
      · exact absurd keeps not_false
      · exact .inr ⟨g, Multiset.mem_cons_of_mem rest, keeps⟩

/-- An accepted task waits for a submission that was owed its task. -/
theorem JudgeInv.enqueued {draft : SubmissionDraft} {task : RuntimeTask}
    (inv : JudgeInv w (.row draft submissionId ::ₘ owed)) (named : task.taskId = "task-" ++ submissionId)
    (own : submissionOf task = submissionId) (answers : w.queue.Answers (.enqueue task) (.ok ()) u) :
    JudgeInv ⟨w.submissions, u⟩ (.free ::ₘ owed) := by
  obtain ⟨places, filed⟩ := answers.serves inv.filed inv.apart
  have waiting : u.queue.places.waiting = task ::ₘ w.places.waiting := by rw [places]; rfl
  have leased : u.queue.places.leased = w.places.leased := by rw [places]; rfl
  obtain ⟨waits, leases, held⟩ := inv.leases
  rw [Multiset.filterMap_cons_none _ _ rfl] at held
  refine inv.moved filed ⟨?_, ?_, ?_⟩ ?_ ?_ ?_
  · intro given mem
    rw [waiting] at mem
    rcases Multiset.mem_cons.1 mem with rfl | old
    · rw [named, own]
    · exact waits given old
  · rw [leased]
    exact leases
  · rw [leased, Multiset.filterMap_cons_none _ _ rfl]
    exact held
  · apply le_of_eq
    unfold servedIn
    rw [waiting, leased, Multiset.filterMap_cons_none _ _ rfl,
      Multiset.filterMap_cons_some rowOf (.row draft submissionId) owed rfl]
    simp only [Multiset.map_cons, Multiset.cons_add, Multiset.add_cons, own]
  · intro draft submissionId mem
    rcases Multiset.mem_cons.1 mem with same | old
    · cases same
    · exact Multiset.mem_cons_of_mem old
  · intro given covered
    rcases covered with ⟨other, mem, same⟩ | ⟨g, mem, keeps⟩
    · exact .inl ⟨other, by rw [waiting]; exact Multiset.mem_cons_of_mem mem, same⟩
    · rcases Multiset.mem_cons.1 mem with rfl | rest
      · exact .inl ⟨task, by rw [waiting]; exact Multiset.mem_cons_self _ _, own.trans keeps⟩
      · exact .inr ⟨g, Multiset.mem_cons_of_mem rest, keeps⟩

/-- A lease that a call holds ends. Its task waits again, unless the call owes no task for its
submission any more, or keeps it in its hands. -/
theorem JudgeInv.ended (inv : JudgeInv w (g ::ₘ owed)) (back : Multiset RuntimeTask)
    (filed : u.queue.Filed) (holds : g.leaseOf = some delivery) (row : g.rowOf = none)
    (lease' : g'.leaseOf = none) (row' : g'.rowOf = none)
    (leased : w.places.leased = delivery ::ₘ u.queue.places.leased)
    (waiting : u.queue.places.waiting = back + w.places.waiting)
    (own : back ≤ {delivery.task})
    (keeps : ∀ submissionId, g.Keeps submissionId →
      g'.Keeps submissionId ∨ ∃ task ∈ back, submissionOf task = submissionId) :
    JudgeInv ⟨w.submissions, u⟩ (g' ::ₘ owed) := by
  obtain ⟨waits, leases, held⟩ := inv.leases
  rw [Multiset.filterMap_cons_some leaseOf g owed holds, leased] at held
  have there : delivery ∈ w.places.leased := by
    rw [leased]
    exact Multiset.mem_cons_self _ _
  refine inv.moved filed ⟨?_, ?_, ?_⟩ ?_ ?_ ?_
  · intro task mem
    rw [waiting] at mem
    rcases Multiset.mem_add.1 mem with returned | old
    · obtain rfl := Multiset.mem_singleton.1 (Multiset.mem_of_le own returned)
      exact leases delivery there
    · exact waits task old
  · intro given mem
    exact leases given (by rw [leased]; exact Multiset.mem_cons_of_mem mem)
  · rw [Multiset.filterMap_cons_none _ _ lease']
    exact (Multiset.cons_le_cons_iff _).1 held
  · unfold servedIn
    rw [waiting, leased, Multiset.filterMap_cons_none _ _ row, Multiset.filterMap_cons_none _ _ row']
    have names := Multiset.map_le_map (f := submissionOf) own
    rw [Multiset.map_singleton] at names
    simp only [Multiset.map_cons, Multiset.map_add, Multiset.cons_add, Multiset.add_cons]
    rw [← Multiset.singleton_add, add_assoc, add_assoc, ← add_assoc (w.places.waiting.map _)]
    exact add_le_add_left names _
  · intro draft submissionId mem
    rcases Multiset.mem_cons.1 mem with same | old
    · rw [← same] at row'
      cases row'
    · exact Multiset.mem_cons_of_mem old
  · intro submissionId covered
    rcases covered with ⟨task, mem, named⟩ | ⟨d, mem, kept⟩
    · exact .inl ⟨task, by rw [waiting]; exact Multiset.mem_add.2 (.inr mem), named⟩
    · rcases Multiset.mem_cons.1 mem with rfl | rest
      · rcases keeps submissionId kept with kept' | ⟨task, returned, named⟩
        · exact .inr ⟨g', Multiset.mem_cons_self _ _, kept'⟩
        · exact .inl ⟨task, by rw [waiting]; exact Multiset.mem_add.2 (.inl returned), named⟩
      · exact .inr ⟨d, Multiset.mem_cons_of_mem rest, kept⟩

theorem JudgeInv.acked (inv : JudgeInv w (.settles delivery ::ₘ owed))
    {r : AppResult Unit} (answers : w.queue.Answers (.ack delivery.deliveryId) r u) :
    JudgeInv ⟨w.submissions, u⟩ (.free ::ₘ owed) := by
  have filed := (answers.serves inv.filed inv.apart).2
  have run := (TimedMemoryQueue.answers_ack delivery.deliveryId w.queue).symm.trans answers
  cases run
  have released := TimedMemoryQueue.released_of_lookup (inv.found rfl)
  refine inv.ended 0 filed rfl rfl rfl rfl released.leased ?_ (Multiset.zero_le _) ?_
  · rw [zero_add]
    exact released.waiting
  · intro submissionId keeps
    exact absurd keeps not_false

theorem JudgeInv.retried (inv : JudgeInv w (.held delivery ::ₘ owed)) {error : String}
    {delayMs : UInt64} {r : AppResult RetryDisposition}
    (answers : w.queue.Answers (.retry delivery.deliveryId error delayMs) r u) :
    JudgeInv ⟨w.submissions, u⟩ ((JudgeDuty.held delivery).next
      (.platform (.runtime (.retry delivery.deliveryId error delayMs))) r ::ₘ owed) := by
  have filed := (answers.serves inv.filed inv.apart).2
  have found := inv.found (g := .held delivery) rfl
  have released := TimedMemoryQueue.released_of_lookup found
  obtain ⟨disposition, t, run, -, places⟩ := TimedMemoryQueue.answers_retry error delayMs found
  cases run.symm.trans answers
  cases disposition with
  | requeued =>
    have waiting : u.queue.places.waiting = {delivery.task} + w.places.waiting := by
      rw [places]
      rfl
    refine inv.ended {delivery.task} filed rfl rfl rfl rfl ?_ waiting le_rfl ?_
    · rw [places]
      exact released.leased
    · intro submissionId keeps
      exact .inr ⟨delivery.task, Multiset.mem_singleton_self _, keeps⟩
  | deadLettered =>
    have waiting : u.queue.places.waiting = 0 + w.places.waiting := by
      rw [places, zero_add]
      exact released.waiting
    refine inv.ended 0 filed rfl rfl rfl rfl ?_ waiting (Multiset.zero_le _) ?_
    · rw [places]
      exact released.leased
    · intro submissionId keeps
      exact .inl keeps

theorem find_append_pending (submissions : InMemorySubmissionRepository) (draft : SubmissionDraft)
    (newId submissionId : String) :
    InMemorySubmissionRepository.find (submissions ++ [pendingDetail draft newId]) submissionId =
      (submissions.find submissionId).or
        (if newId = submissionId then some (pendingDetail draft newId) else none) := by
  unfold InMemorySubmissionRepository.find
  rw [List.find?_append]
  congr 1
  by_cases same : newId = submissionId <;> simp [pendingDetail, same]

/-- A stored submission is in the hands of the call that has stored it. -/
theorem JudgeInv.inserted (inv : JudgeInv w (.free ::ₘ owed)) {draft : SubmissionDraft}
    {newId : String} (fresh : w.submissions.find newId = none) :
    JudgeInv { w with submissions := w.submissions ++ [pendingDetail draft newId] }
      (.row draft newId ::ₘ owed) := by
  have served : servedIn w.places (.row draft newId ::ₘ owed) =
      newId ::ₘ servedIn w.places (.free ::ₘ owed) := by
    unfold servedIn
    rw [Multiset.filterMap_cons_none JudgeDuty.free owed rfl,
      Multiset.filterMap_cons_some rowOf (.row draft newId) owed rfl, Multiset.add_cons]
  have unserved : newId ∉ servedIn w.places (.free ::ₘ owed) := by
    intro mem
    have known := inv.known newId mem
    rw [fresh] at known
    cases known
  obtain ⟨waits, leases, held⟩ := inv.leases
  rw [Multiset.filterMap_cons_none _ _ rfl] at held
  refine ⟨inv.filed, ⟨waits, leases, ?_⟩, ?_, ?_, ?_, ?_⟩
  · rw [Multiset.filterMap_cons_none _ _ rfl]
    exact held
  · change (servedIn w.places _).Nodup
    rw [served]
    exact Multiset.nodup_cons.2 ⟨unserved, inv.alone⟩
  · intro submissionId mem
    change submissionId ∈ servedIn w.places _ at mem
    rw [served] at mem
    rw [find_append_pending]
    rcases Multiset.mem_cons.1 mem with rfl | old
    · simp [fresh]
    · simp [inv.known submissionId old]
  · intro draft' submissionId mem detail found
    rw [find_append_pending] at found
    rcases Multiset.mem_cons.1 mem with same | old
    · cases same
      rw [fresh, if_pos rfl] at found
      cases found
      exact ⟨rfl, rfl, rfl, rfl⟩
    · have stored := inv.known submissionId (Multiset.mem_add.2 (.inr ?_))
      · obtain ⟨detail', stored⟩ := Option.isSome_iff_exists.1 stored
        rw [stored] at found
        cases found
        exact inv.rows draft' submissionId (Multiset.mem_cons_of_mem old) _ stored
      · exact (Multiset.mem_filterMap _ _).2 ⟨_, Multiset.mem_cons_of_mem old, rfl⟩
  · intro submissionId detail found unfinished
    rw [find_append_pending] at found
    cases stored : w.submissions.find submissionId with
    | some detail' =>
      rw [stored] at found
      cases found
      exact (inv.covered submissionId detail stored unfinished).of_other fun keeps => absurd keeps not_false
    | none =>
      rw [stored, Option.none_or] at found
      split_ifs at found with same
      · exact .inr ⟨.row draft newId, Multiset.mem_cons_self _ _, same⟩
      · cases found

/-- An event changes its own submission only. -/
theorem JudgeInv.observed (inv : JudgeInv w (g ::ₘ owed)) {event : RuntimeTaskEvent}
    (own : event.submissionId = some submissionId) (lease : g'.leaseOf = g.leaseOf)
    (row : g.rowOf = none) (row' : g'.rowOf = none)
    (others : ∀ other, other ≠ submissionId → g.Keeps other → g'.Keeps other)
    (here : ∀ detail ∈ w.submissions.find submissionId,
      (detail.project event).submission.status.Unfinished →
        Covered w.places (g' ::ₘ owed) submissionId) :
    JudgeInv { w with submissions := w.submissions.applyRuntimeEvent event } (g' ::ₘ owed) := by
  have served : servedIn w.places (g' ::ₘ owed) = servedIn w.places (g ::ₘ owed) := by
    unfold servedIn
    rw [Multiset.filterMap_cons_none _ _ row, Multiset.filterMap_cons_none _ _ row']
  have leases : (g' ::ₘ owed).filterMap leaseOf = (g ::ₘ owed).filterMap leaseOf := by
    cases holds : g.leaseOf with
    | none =>
      rw [Multiset.filterMap_cons_none _ _ holds,
        Multiset.filterMap_cons_none _ _ (lease.trans holds)]
    | some delivery =>
      rw [Multiset.filterMap_cons_some _ _ _ holds,
        Multiset.filterMap_cons_some _ _ _ (lease.trans holds)]
  have stays : ∀ other, other ≠ submissionId →
      (w.submissions.applyRuntimeEvent event).find other = w.submissions.find other :=
    fun other apart => InMemorySubmissionRepository.find_applyRuntimeEvent_other own apart
  have changes := @InMemorySubmissionRepository.find_applyRuntimeEvent w.submissions event
    submissionId own
  refine ⟨inv.filed, ⟨inv.leases.waiting, inv.leases.leased, ?_⟩, ?_, ?_, ?_, ?_⟩
  · rw [leases]
    exact inv.leases.held
  · change (servedIn w.places _).Nodup
    rw [served]
    exact inv.alone
  · intro other mem
    change other ∈ servedIn w.places _ at mem
    rw [served] at mem
    have known := inv.known other mem
    by_cases same : other = submissionId
    · subst same
      simpa [changes] using known
    · simpa only [stays other same] using known
  · intro draft other mem detail found
    have old : JudgeDuty.row draft other ∈ g ::ₘ owed := by
      rcases Multiset.mem_cons.1 mem with same | rest
      · rw [← same] at row'
        cases row'
      · exact Multiset.mem_cons_of_mem rest
    by_cases same : other = submissionId
    · subst same
      change detail ∈ (w.submissions.applyRuntimeEvent event).find other at found
      rw [changes] at found
      obtain ⟨stored, was, rfl⟩ := Option.map_eq_some_iff.1 found
      obtain ⟨named, problemId, language, sourceCode⟩ := inv.rows draft other old stored was
      exact ⟨named, problemId, language, sourceCode⟩
    · exact inv.rows draft other old detail ((stays other same).symm.trans found)
  · intro other detail found unfinished
    by_cases same : other = submissionId
    · subst same
      change detail ∈ (w.submissions.applyRuntimeEvent event).find other at found
      rw [changes] at found
      obtain ⟨stored, was, rfl⟩ := Option.map_eq_some_iff.1 found
      exact here stored was unfinished
    · exact (inv.covered other detail ((stays other same).symm.trans found) unfinished).of_other
        (others other same)

/-- What the run of calls depends on: every creation is served, the queue takes the tasks, and an
event that puts a submission back in line comes before the submission is finished. -/
structure Timely (platform : Option JobHandlerRegistry) (problems : InMemoryProblemRepository)
    (x : Transition JudgeBusy JudgeMove) : Prop where
  served : ∀ draft, x.label = .start (creation platform draft) → Served platform problems draft
  taken : ∀ task r call others,
    x.label = .command (.platform (.runtime (.enqueue task))) r call others → r = .ok ()
  early : ∀ event r call others,
    x.label = .command (.platform (.runtime (.onEvent event))) r call others →
    event.status = .queued ∨ event.status = .retrying →
    ∀ submissionId ∈ event.submissionId, ∀ detail ∈ x.before.state.submissions.find submissionId,
      detail.submission.status.Unfinished

theorem finished_of_terminal {event : RuntimeTaskEvent} (terminal : IsTerminal event)
    (detail : SubmissionDetail) : ¬ (detail.project event).submission.status.Unfinished := by
  obtain ⟨notQueued, notRunning⟩ := status_of_terminal terminal
  intro unfinished
  rcases unfinished with pending | queued | running
  · exact status_ne_pending event pending
  · exact notQueued queued
  · exact notRunning running

/-- The account after an event. -/
theorem JudgeInv.event (inv : JudgeInv w (g ::ₘ owed)) {event : RuntimeTaskEvent}
    (permitted : g.permits (.platform (.runtime (.onEvent event))))
    (early : event.status = .queued ∨ event.status = .retrying →
      ∀ submissionId ∈ event.submissionId, ∀ detail ∈ w.submissions.find submissionId,
        detail.submission.status.Unfinished) (r : AppResult Unit) :
    JudgeInv { w with submissions := w.submissions.applyRuntimeEvent event }
      (g.next (.platform (.runtime (.onEvent event))) r ::ₘ owed) := by
  rcases permitted with ⟨rfl, queued, own⟩ | ⟨delivery, rfl, own⟩ | ⟨task, rfl, own, retrying⟩ |
    ⟨task, rfl, own, terminal⟩
  · obtain ⟨submissionId, own⟩ := Option.isSome_iff_exists.1 own
    refine inv.observed own rfl rfl rfl (fun _ _ keeps => keeps) ?_
    intro detail found _
    exact inv.covered submissionId detail found (early (.inl queued) _ own detail found)
  · change JudgeInv _ ((if IsTerminal event then .settles delivery else .held delivery) ::ₘ owed)
    split_ifs with terminal
    · refine inv.observed own rfl rfl rfl (fun _ apart keeps => absurd keeps.symm apart) ?_
      intro detail _ unfinished
      exact absurd unfinished (finished_of_terminal terminal detail)
    · refine inv.observed own rfl rfl rfl (fun _ _ keeps => keeps) ?_
      intro _ _ _
      exact .inr ⟨.held delivery, Multiset.mem_cons_self _ _, rfl⟩
  · refine inv.observed own rfl rfl rfl (fun _ _ keeps => keeps) ?_
    intro detail found _
    exact (inv.covered _ detail found (early (.inr retrying) _ own detail found)).of_other
      fun keeps => keeps
  · refine inv.observed own rfl rfl rfl (fun _ apart keeps => absurd keeps.symm apart) ?_
    intro detail _ unfinished
    exact absurd unfinished (finished_of_terminal terminal detail)

/-- Every command that a call may issue keeps the account, and is answered as the call assumes. -/
theorem JudgeInv.step {platform : Option JobHandlerRegistry} {problems : InMemoryProblemRepository}
    {c : OjCmd} {r : c.Answer} {t : JudgeWorld} {calls : Multiset (Call OjCmd OjCmd.Answer AppError Unit)}
    {call : Call OjCmd OjCmd.Answer AppError Unit}
    {others : Multiset (Call OjCmd OjCmd.Answer AppError Unit)} {after : JudgeBusy}
    (inv : JudgeInv w (g ::ₘ owed)) (permitted : g.permits c)
    (answered : judgeHandler problems w c r t)
    (timely : Timely platform problems ⟨⟨w, calls⟩, .command c r call others, after⟩) :
    assumes problems g c r ∧ JudgeInv t (g.next c r ::ₘ owed) := by
  cases c with
  | findDetail problemId =>
    obtain ⟨rfl, rfl⟩ := answered
    cases g <;> exact ⟨rfl, inv⟩
  | insertSubmission draft =>
    obtain rfl : g = .free := permitted
    rcases answered with ⟨newId, named, fresh, rfl, rfl⟩ | ⟨⟨e, rfl⟩, rfl⟩
    · refine ⟨?_, inv.inserted fresh⟩
      intro record same
      cases same
      exact ⟨newId, named, rfl⟩
    · refine ⟨?_, inv⟩
      intro record same
      cases same
  | findSubmission submissionId =>
    obtain ⟨rfl, rfl⟩ := answered
    cases g with
    | row draft given =>
      refine ⟨?_, inv⟩
      intro same
      subst same
      have known := inv.known submissionId (Multiset.mem_add.2 (.inr
        ((Multiset.mem_filterMap _ _).2 ⟨_, Multiset.mem_cons_self _ _, rfl⟩)))
      obtain ⟨detail, found⟩ := Option.isSome_iff_exists.1 known
      exact ⟨detail, by rw [found], inv.rows draft _ (Multiset.mem_cons_self _ _) detail found⟩
    | free | held _ | settles _ | retried _ | buries _ => exact ⟨trivial, inv⟩
  | platform command =>
    cases command with
    | saveDefinition _ | appendEvent _ | now =>
      obtain rfl : t = w := answered
      cases g <;> exact ⟨trivial, inv⟩
    | runtime command =>
      obtain ⟨submissions, queue⟩ := t
      cases command with
      | reserve bindings =>
        obtain rfl : g = .free := permitted
        obtain ⟨rfl, answers⟩ := answered
        refine ⟨trivial, ?_⟩
        cases r with
        | some delivery => exact inv.reserved answers
        | none =>
          obtain ⟨serves, filed⟩ := answers.serves inv.filed inv.apart
          have places : queue.queue.places = w.places := serves
          refine inv.moved filed ?_ ?_ (fun _ _ mem => mem) ?_ <;> rw [places]
          · exact inv.leases
          · exact le_rfl
          · exact fun _ covered => covered
      | enqueue task =>
        obtain ⟨draft, submissionId, rfl, named, own⟩ := permitted
        obtain rfl : r = .ok () := timely.taken task r call others rfl
        obtain ⟨rfl, answers | ⟨⟨_, refused⟩, -⟩⟩ := answered
        · exact ⟨rfl, inv.enqueued named own answers⟩
        · cases refused
      | ack deliveryId =>
        obtain ⟨delivery, rfl, rfl⟩ := permitted
        obtain ⟨rfl, answers⟩ := answered
        exact ⟨trivial, inv.acked answers⟩
      | retry deliveryId error delayMs =>
        obtain ⟨delivery, rfl, rfl⟩ := permitted
        obtain ⟨rfl, answers⟩ := answered
        exact ⟨trivial, inv.retried answers⟩
      | onEvent event =>
        obtain ⟨rfl, same⟩ := answered
        cases same
        refine ⟨?_, inv.event permitted (timely.early event _ call others rfl) _⟩
        cases g <;> trivial
      | execute artifacts =>
        obtain ⟨same, final⟩ := answered
        cases same
        cases g <;> exact ⟨final, inv⟩
      | updateSnapshot _ | prepare _ | sleep _ =>
        obtain ⟨same, rfl⟩ := answered
        cases same
        cases g <;> exact ⟨trivial, inv⟩

end Accounts

section Runs

open JudgeDuty

/-- The call has stored the submission. -/
def Creates (submissionId : String) (call : Call OjCmd OjCmd.Answer AppError Unit) : Prop :=
  ∃ draft record, ⟨.insertSubmission draft, .ok record⟩ ∈ call.log ∧
    record.submissionId.value = submissionId

/-- The call has reserved a task of the submission. -/
def Applies (submissionId : String) (call : Call OjCmd OjCmd.Answer AppError Unit) : Prop :=
  ∃ bindings delivery, ⟨.platform (.runtime (.reserve bindings)), some delivery⟩ ∈ call.log ∧
    submissionOf delivery.task = submissionId

/-- The submission has a task that waits or is leased, or that a call is applying, or the request
that creates it is still in progress. -/
def InHand (b : JudgeBusy) (submissionId : String) : Prop :=
  (∃ task ∈ b.state.places.waiting, submissionOf task = submissionId) ∨
    (∃ held ∈ b.state.places.leased, submissionOf held.task = submissionId) ∨
    (∃ call ∈ b.calls, Applies submissionId call) ∨ ∃ call ∈ b.calls, Creates submissionId call

/-- Where a duty comes from in the answers that a call was given. -/
def DutyOrigin (log : List (Sigma OjCmd.Answer)) : JudgeDuty → Prop
  | .row _ submissionId => ∃ draft record, ⟨.insertSubmission draft, .ok record⟩ ∈ log ∧
      record.submissionId.value = submissionId
  | .held delivery | .settles delivery => ∃ bindings,
      ⟨.platform (.runtime (.reserve bindings)), some delivery⟩ ∈ log
  | .buries task => ∃ bindings delivery,
      ⟨.platform (.runtime (.reserve bindings)), some delivery⟩ ∈ log ∧ delivery.task = task
  | .free | .retried _ => True

theorem DutyOrigin.more {log : List (Sigma OjCmd.Answer)} {g : JudgeDuty} (origin : DutyOrigin log g)
    (entry : Sigma OjCmd.Answer) : DutyOrigin (log ++ [entry]) g := by
  cases g with
  | row draft submissionId =>
    obtain ⟨draft', record, mem, named⟩ := origin
    exact ⟨draft', record, List.mem_append_left _ mem, named⟩
  | held delivery | settles delivery =>
    obtain ⟨bindings, mem⟩ := origin
    exact ⟨bindings, List.mem_append_left _ mem⟩
  | buries task =>
    obtain ⟨bindings, delivery, mem, same⟩ := origin
    exact ⟨bindings, delivery, List.mem_append_left _ mem, same⟩
  | free | retried _ => trivial

theorem DutyOrigin.next {log : List (Sigma OjCmd.Answer)} {g : JudgeDuty} (origin : DutyOrigin log g)
    (c : OjCmd) (r : c.Answer) : DutyOrigin (log ++ [⟨c, r⟩]) (g.next c r) := by
  unfold JudgeDuty.next
  split
  · exact ⟨_, _, List.mem_append_right _ (List.mem_singleton_self _), rfl⟩
  · trivial
  · exact ⟨_, List.mem_append_right _ (List.mem_singleton_self _)⟩
  · split_ifs
    · exact origin.more _
    · exact origin.more _
  · trivial
  · obtain ⟨bindings, mem⟩ := origin
    exact ⟨bindings, _, List.mem_append_left _ mem, rfl⟩
  · trivial
  · trivial
  · trivial
  · exact origin.more _

/-- No submission and no task, at some time. -/
def JudgeWorld.start (readings : Nat → SystemTime) : JudgeWorld where
  submissions := []
  queue := ⟨readings, .default⟩

end Runs

section Samples

/-- An operation of the queue, if no other one is in progress. -/
def JudgeWorld.perform {α : Type} (w : JudgeWorld) (p : MemoryProg α) : AppResult α × JudgeWorld :=
  ((p.eval TimedMemoryQueue.answer w.queue).1,
    { w with queue := (p.eval TimedMemoryQueue.answer w.queue).2 })

/-- A new identifier, as long as there is one. -/
def nextId (submissions : InMemorySubmissionRepository) : String :=
  if (submissions.find "submission-1").isNone then "submission-1" else "submission-2"

end Samples

end NexusCore.Oj
