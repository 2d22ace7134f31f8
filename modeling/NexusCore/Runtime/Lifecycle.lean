import NexusCore.Lib.Interleaving
import NexusCore.Runtime.Queue.Entries
import NexusCore.Runtime.TaskLife

/-!
# Workers, schedules and replays

Any number of rounds of workers, schedules and replays run on one in-memory queue and one map of
snapshots. With unique ids every task goes through its cycle, one delivery after another. As long as
no delivery is reported before the report about the last one, and no dead letter is replayed, no
report sets a task back, and between the calls what is stored of a task fits where it is.
-/

namespace NexusCore.Runtime

open NexusCore.Lib

section World

/-- The queue and the snapshots of a runtime service. -/
structure RuntimeWorld where
  queue : TimedMemoryQueue
  snapshots : AList fun _ : String => RuntimeTaskSnapshot

inductive RuntimeCmd where
  | service (command : ServiceCmd)
  | replay (deliveryId : String)

abbrev RuntimeCmd.Answer : RuntimeCmd → Type
  | .service command => command.Answer
  | .replay _ => AppResult RuntimeQueueReceipt

abbrev RuntimeProg (α : Type) : Type := Prog RuntimeCmd RuntimeCmd.Answer AppError α

namespace RuntimeWorld

def updateSnapshot (snapshot : RuntimeTaskSnapshot) (w : RuntimeWorld) : RuntimeWorld :=
  { w with snapshots := w.snapshots.insert snapshot.taskId snapshot }

def getTask (taskId : String) (w : RuntimeWorld) : AppResult RuntimeTaskSnapshot :=
  match w.snapshots.lookup taskId with
  | some snapshot => .ok snapshot
  | none => .error (.notFound ("runtime task not found: " ++ taskId))

/-- Nothing is queued and nothing is stored. -/
def start (readings : Nat → SystemTime) : RuntimeWorld := ⟨⟨readings, .default⟩, ∅⟩

end RuntimeWorld

/-- What the queue, the snapshots, the observer and the worker may answer. Each operation of the
queue is one step, and an execution ends with one of its two final statuses. -/
def runtimeHandler : Handler RuntimeWorld RuntimeCmd RuntimeCmd.Answer
  | w, .service (.updateSnapshot snapshot), _, t => t = w.updateSnapshot snapshot
  | w, .service (.execute _), r, t => t = w ∧ ∀ outcome, r = .ok outcome →
      outcome.finalStatus = .completed ∨ outcome.finalStatus = .failed
  | w, .service command, r, t => t.snapshots = w.snapshots ∧ w.queue.Answers command r t.queue
  | w, .replay deliveryId, r, t => t.snapshots = w.snapshots ∧
      (InMemoryRuntimeTaskQueue.replayDeadLetter deliveryId).eval TimedMemoryQueue.answer w.queue =
        (r, t.queue)

/-- A program of the service that reports its result to nobody. -/
def serviceRun {α : Type} (p : ServiceProg α) : RuntimeProg Unit :=
  (p.relabel RuntimeCmd.service fun _ r => r).bind fun _ => .ret ()

/-- Put a dead letter back. The history of replays is not modelled. -/
def replayRun (deliveryId : String) : RuntimeProg Unit :=
  .call (.replay deliveryId) fun _ => .ret ()

inductive RuntimeCall : RuntimeProg Unit → Prop where
  | schedule (task : RuntimeTask) : RuntimeCall (serviceRun (RuntimeTaskService.schedule task))
  | round (bindings : List RuntimeRouteBinding) :
      RuntimeCall (serviceRun (RuntimeTaskService.workerRound bindings))
  | replay (deliveryId : String) : RuntimeCall (replayRun deliveryId)

abbrev RuntimeBusy : Type := Busy RuntimeWorld RuntimeCmd RuntimeCmd.Answer AppError Unit

abbrev RuntimeMove : Type := Move RuntimeCmd RuntimeCmd.Answer AppError Unit

abbrev RuntimeLog : Type := List (Sigma RuntimeCmd.Answer)

end World

section Traces

/-- The delivery that a call has reserved. -/
def reservedIn (log : RuntimeLog) : Option RuntimeTaskDelivery :=
  log.findSome? fun
    | ⟨.service (.reserve _), delivery⟩ => delivery
    | _ => none

/-- The task that a call has given back, if that was the last it did. -/
def givenBack (log : RuntimeLog) : Option String :=
  match log.getLast? with
  | some ⟨.service (.retry ..), .ok _⟩ => (reservedIn log).map (·.task.taskId)
  | _ => none

/-- A snapshot is stored during the attempt of the delivery that the call has reserved. -/
def attemptOf (log : RuntimeLog) : Nat := ((reservedIn log).map (·.attempt)).getD 1

/-- What a move stores of a task. -/
def RuntimeMove.report (taskId : String) : RuntimeMove → Option Report
  | .command (.service (.updateSnapshot snapshot)) _ call _ =>
    if snapshot.taskId = taskId then some ⟨attemptOf call.log, snapshot.status⟩ else none
  | _ => none

/-- What happens to a task in the queue in a move. -/
def RuntimeMove.turn (taskId : String) : RuntimeMove → Option Turn
  | .command (.service (.enqueue task)) (.ok _) _ _ =>
    if task.taskId = taskId then some .queued else none
  | .command (.service (.reserve _)) (some delivery) _ _ =>
    if delivery.task.taskId = taskId then some (.handed delivery.attempt) else none
  | .command (.service (.ack _)) (.ok _) call _ => (reservedIn call.log).bind fun delivery =>
    if delivery.task.taskId = taskId then some (.acked delivery.attempt) else none
  | .command (.service (.retry ..)) (.ok disposition) call _ =>
    (reservedIn call.log).bind fun delivery =>
      if delivery.task.taskId = taskId then
        some (match disposition with
          | .requeued => .requeued delivery.attempt
          | .deadLettered => .buried delivery.attempt)
      else none
  | .command (.replay _) (.ok receipt) _ _ =>
    if receipt.taskId = taskId then some .queued else none
  | _ => none

abbrev RuntimeTrace : Type := List (Transition RuntimeBusy RuntimeMove)

def reportsOf (moves : RuntimeTrace) (taskId : String) : List Report :=
  moves.filterMap fun x => RuntimeMove.report taskId x.label

def turnsOf (moves : RuntimeTrace) (taskId : String) : List Turn :=
  moves.filterMap fun x => RuntimeMove.turn taskId x.label

/-- Ids are unique: nothing is stored yet of a task that is scheduled. -/
def ScheduledOnce (x : Transition RuntimeBusy RuntimeMove) : Prop :=
  ∀ snapshot r call others, x.label = .command (.service (.updateSnapshot snapshot)) r call others →
    reservedIn call.log = none → x.before.state.snapshots.lookup snapshot.taskId = none

/-- A report is not stored while another call has given its task back and not reported that yet. -/
def Prompt (x : Transition RuntimeBusy RuntimeMove) : Prop :=
  ∀ snapshot r call others, x.label = .command (.service (.updateSnapshot snapshot)) r call others →
    ∀ other ∈ others, givenBack other.log ≠ some snapshot.taskId

/-- No dead letter is put back. -/
def Unreplayed (x : Transition RuntimeBusy RuntimeMove) : Prop :=
  ∀ deliveryId receipt call others,
    x.label ≠ .command (.replay deliveryId) (.ok receipt) call others

end Traces

section Duties

/-- What a call owes: the queueing of the task that it schedules, or the settlement of the delivery
that it has reserved, and the report about a failure. -/
inductive TaskDuty where
  | free
  | done
  | scheduled (taskId : String)
  | reserved (delivery : RuntimeTaskDelivery)
  | held (delivery : RuntimeTaskDelivery)
  | settles (delivery : RuntimeTaskDelivery)
  | requeued (delivery : RuntimeTaskDelivery)
  | buries (delivery : RuntimeTaskDelivery)

namespace TaskDuty

/-- The delivery that a call has leased. -/
def lease? : TaskDuty → Option RuntimeTaskDelivery
  | .reserved delivery | .held delivery | .settles delivery => some delivery
  | _ => none

/-- Where the task of a call is. -/
def spot? : TaskDuty → Option (String × Spot)
  | .scheduled taskId => some (taskId, .scheduled)
  | .reserved delivery => some (delivery.task.taskId, .reserved delivery.attempt)
  | .held delivery => some (delivery.task.taskId, .held delivery.attempt)
  | .settles delivery => some (delivery.task.taskId, .settling delivery.attempt)
  | _ => none

/-- The report that a call is late with. -/
def late? : TaskDuty → Option (String × Late)
  | .requeued delivery => some (delivery.task.taskId, .requeued delivery.attempt)
  | .buries delivery => some (delivery.task.taskId, .buried delivery.attempt)
  | _ => none

/-- The snapshots that a call may store. -/
def MayStore (snapshot : RuntimeTaskSnapshot) : TaskDuty → Prop
  | .free => snapshot.status = .queued
  | .reserved delivery => snapshot.taskId = delivery.task.taskId ∧
    snapshot.status.standing = .active
  | .held delivery => snapshot.taskId = delivery.task.taskId ∧
    (snapshot.status.standing = .active ∨ snapshot.status.standing = .ended)
  | .requeued delivery => snapshot.taskId = delivery.task.taskId ∧ snapshot.status = .retrying
  | .buries delivery => snapshot.taskId = delivery.task.taskId ∧ snapshot.status = .deadLettered
  | _ => False

def permits (g : TaskDuty) : RuntimeCmd → Prop
  | .service (.updateSnapshot snapshot) => g.MayStore snapshot
  | .service (.reserve _) => g = .free
  | .service (.enqueue task) => g = .scheduled task.taskId
  | .service (.ack deliveryId) => ∃ delivery, g = .settles delivery ∧
    delivery.deliveryId = deliveryId
  | .service (.retry deliveryId _ _) => ∃ delivery, g = .held delivery ∧
    delivery.deliveryId = deliveryId
  | .service _ => g.late? = none
  | .replay _ => g = .free

def next : TaskDuty → (c : RuntimeCmd) → c.Answer → TaskDuty
  | .free, .service (.updateSnapshot snapshot), _ => .scheduled snapshot.taskId
  | .free, .service (.reserve _), some delivery => .reserved delivery
  | .scheduled _, .service (.enqueue _), _ => .done
  | .reserved delivery, .service (.updateSnapshot _), _ => .held delivery
  | .held delivery, .service (.updateSnapshot snapshot), _ =>
    if snapshot.status.standing = .ended then .settles delivery else .held delivery
  | .held delivery, .service (.retry ..), .ok .requeued => .requeued delivery
  | .held delivery, .service (.retry ..), .ok .deadLettered => .buries delivery
  | .settles _, .service (.ack _), _ => .done
  | .requeued _, _, _ => .done
  | .buries _, _, _ => .done
  | g, _, _ => g

/-- The queue takes every task and gives a disposition for every delivery that is leased, and an
execution ends with a final status. -/
def assumes : Assumption RuntimeCmd RuntimeCmd.Answer TaskDuty
  | _, .service (.enqueue _), r => r = .ok ()
  | _, .service (.retry ..), r => ∃ disposition, r = .ok disposition
  | _, .service (.execute _), r => ∀ outcome, r = .ok outcome →
      outcome.finalStatus = .completed ∨ outcome.finalStatus = .failed
  | _, _, _ => True

end TaskDuty

def taskDiscipline : Discipline RuntimeCmd RuntimeCmd.Answer TaskDuty where
  permits := TaskDuty.permits
  next := TaskDuty.next
  clear g := g = .free ∨ g = .done

end Duties

section Calls

open RuntimeTaskService

variable {delivery : RuntimeTaskDelivery}

/-- A call does what it owes. -/
abbrev Does (g : TaskDuty) (p : RuntimeProg Unit) : Prop :=
  taskDiscipline.Upholds TaskDuty.assumes (fun g _ => taskDiscipline.clear g) g p

theorem schedule_does (task : RuntimeTask) : Does .free (serviceRun (schedule task)) := by
  refine .call rfl fun _ _ => ?_
  refine .call rfl ?_
  intro answer taken
  obtain rfl : answer = .ok () := taken
  exact .ret (.inr rfl)

theorem handleDeliveryFailure_does (artifacts : Option PreparedRuntimeArtifacts)
    (errorMessage : String) :
    Does (.held delivery) (serviceRun (handleDeliveryFailure delivery artifacts errorMessage)) := by
  refine .call ⟨delivery, rfl, rfl⟩ ?_
  intro result given
  obtain ⟨disposition, rfl⟩ := given
  cases disposition with
  | requeued =>
    refine .call ⟨rfl, rfl⟩ fun _ _ => ?_
    refine .call rfl fun _ _ => ?_
    exact .ret (.inr rfl)
  | deadLettered =>
    refine .call ⟨rfl, rfl⟩ fun _ _ => ?_
    refine .call rfl fun _ _ => ?_
    exact .ret (.inr rfl)

/-- A report about a delivery that is not final leaves it in hand. -/
theorem publish_does {snapshot : RuntimeTaskSnapshot} {k : ServiceProg Unit}
    {g : TaskDuty} (inHand : g = .reserved delivery ∨ g = .held delivery)
    (own : snapshot.taskId = delivery.task.taskId) (active : snapshot.status.standing = .active)
    (rest : Does (.held delivery) (serviceRun k)) :
    Does g (serviceRun ((publish delivery.task delivery.attempt snapshot).bind fun _ => k)) := by
  rcases inHand with rfl | rfl
  · refine .call ⟨own, active⟩ fun _ _ => ?_
    exact .call rfl fun _ _ => rest
  · refine .call ⟨own, .inl active⟩ fun _ _ => ?_
    change Does (if _ then _ else _) _
    rw [if_neg (by rw [active]; decide)]
    exact .call rfl fun _ _ => rest

theorem startedSnapshot_active (task : RuntimeTask) (artifacts : PreparedRuntimeArtifacts) :
    (startedSnapshot task artifacts).status.standing = .active ∧
      (startedSnapshot task artifacts).taskId = task.taskId := by
  unfold startedSnapshot
  split_ifs
  · exact ⟨rfl, rfl⟩
  · exact ⟨rfl, rfl⟩

theorem runDelivery_does (artifacts : PreparedRuntimeArtifacts) :
    Does (.held delivery) (serviceRun (runDelivery delivery artifacts)) := by
  refine publish_does (.inr rfl) rfl rfl ?_
  obtain ⟨active, own⟩ := startedSnapshot_active delivery.task artifacts
  refine publish_does (.inr rfl) own active ?_
  refine .call rfl ?_
  intro result final
  rcases result with e | outcome
  · exact handleDeliveryFailure_does _ _
  · have ended : (finalSnapshot delivery.task artifacts outcome).status.standing = .ended := by
      change outcome.finalStatus.standing = .ended
      rcases final outcome rfl with status | status
      · rw [status]
        rfl
      · rw [status]
        rfl
    refine .call ⟨rfl, .inr ended⟩ fun _ _ => ?_
    change Does (if _ then _ else _) _
    rw [if_pos ended]
    refine .call rfl fun _ _ => ?_
    refine .call ⟨delivery, rfl, rfl⟩ fun _ _ => ?_
    exact .ret (.inr rfl)

theorem workerRound_does (bindings : List RuntimeRouteBinding) :
    Does .free (serviceRun (workerRound bindings)) := by
  refine .call rfl ?_
  intro reserved _
  cases reserved with
  | none => exact .call rfl fun _ _ => .ret (.inl rfl)
  | some delivery =>
    refine publish_does (.inl rfl) rfl rfl ?_
    refine .call rfl ?_
    intro result _
    rcases result with e | artifacts
    · exact handleDeliveryFailure_does _ _
    · exact runDelivery_does artifacts

theorem runtimeCall_does {p : RuntimeProg Unit} (call : RuntimeCall p) : Does .free p := by
  cases call with
  | schedule task => exact schedule_does task
  | round bindings => exact workerRound_does bindings
  | replay deliveryId => exact .call rfl fun _ _ => .ret (.inl rfl)

end Calls

section Logs

/-- What a log says about what its call owes. -/
def Records (log : RuntimeLog) : TaskDuty → Prop
  | .free => reservedIn log = none
  | .scheduled _ | .done => True
  | .reserved delivery | .held delivery | .settles delivery => reservedIn log = some delivery
  | .requeued delivery | .buries delivery => reservedIn log = some delivery ∧
    givenBack log = some delivery.task.taskId

theorem reservedIn_snoc (log : RuntimeLog) (entry : Sigma RuntimeCmd.Answer) :
    reservedIn (log ++ [entry]) = (reservedIn log).or (reservedIn [entry]) := by
  unfold reservedIn
  rw [List.findSome?_append]

theorem reservedIn_of_some {log : RuntimeLog} {delivery : RuntimeTaskDelivery}
    (found : reservedIn log = some delivery) (entry : Sigma RuntimeCmd.Answer) :
    reservedIn (log ++ [entry]) = some delivery := by
  rw [reservedIn_snoc, found, Option.some_or]

theorem givenBack_of_retry {log : RuntimeLog} {delivery : RuntimeTaskDelivery}
    (found : reservedIn log = some delivery) (deliveryId error : String) (delayMs : UInt64)
    (disposition : RetryDisposition) :
    givenBack (log ++ [⟨.service (.retry deliveryId error delayMs), .ok disposition⟩]) =
      some delivery.task.taskId := by
  unfold givenBack
  rw [List.getLast?_concat, reservedIn_of_some found]
  rfl

theorem Records.next {log : RuntimeLog} {g : TaskDuty} (records : Records log g) (c : RuntimeCmd)
    (r : c.Answer) : Records (log ++ [⟨c, r⟩]) (g.next c r) := by
  unfold TaskDuty.next
  split
  · trivial
  · next bindings delivery =>
    change reservedIn (log ++ _) = some delivery
    rw [reservedIn_snoc, show reservedIn log = none from records]
    rfl
  · trivial
  · exact reservedIn_of_some records _
  · split_ifs
    · exact reservedIn_of_some records _
    · exact reservedIn_of_some records _
  · exact ⟨reservedIn_of_some records _, givenBack_of_retry records ..⟩
  · exact ⟨reservedIn_of_some records _, givenBack_of_retry records ..⟩
  · trivial
  · trivial
  · trivial
  · next unrequeued unburied _ untaken _ _ _ _ _ _ =>
    cases g with
    | free =>
      change reservedIn (log ++ _) = none
      rw [reservedIn_snoc, show reservedIn log = none from records]
      cases c with
      | replay deliveryId => rfl
      | service command =>
        cases command with
        | reserve bindings =>
          cases r with
          | none => rfl
          | some delivery => exact absurd HEq.rfl (untaken bindings delivery rfl rfl)
        | _ => rfl
    | scheduled _ | done => trivial
    | reserved _ | held _ | settles _ => exact reservedIn_of_some records _
    | requeued delivery => exact absurd rfl (unrequeued delivery)
    | buries delivery => exact absurd rfl (unburied delivery)

theorem records_of_owes (call : Call RuntimeCmd RuntimeCmd.Answer AppError Unit) :
    Records call.log (taskDiscipline.owes .free call) :=
  taskDiscipline.owes_of_log .free Records rfl (fun _ _ c r records => records.next c r) call

/-- A call that is late with a report about a task has given it back. -/
theorem givenBack_of_late {call : Call RuntimeCmd RuntimeCmd.Answer AppError Unit}
    {taskId : String} {late : Late}
    (is : (taskDiscipline.owes .free call).late? = some (taskId, late)) :
    givenBack call.log = some taskId := by
  have records := records_of_owes call
  cases owes : taskDiscipline.owes .free call with
  | requeued delivery =>
    rw [owes] at is records
    cases is
    exact records.2
  | buries delivery =>
    rw [owes] at is records
    cases is
    exact records.2
  | free | done | scheduled _ | reserved _ | held _ | settles _ =>
    rw [owes] at is
    cases is

end Logs

section Affairs

namespace InMemoryRuntimeTaskQueue

variable {s t : InMemoryRuntimeTaskQueue}

/-- The tasks that wait, with their attempts, and those that are dead-lettered. -/
def spots (s : InMemoryRuntimeTaskQueue) : Multiset (String × Spot) :=
  s.waiting.map (fun queued => (queued.task.taskId, .waiting queued.attempt)) +
    ↑(s.deadLetters.map fun record => (record.task.taskId, Spot.dead))

theorem Adds.spots {queued : QueuedRuntimeTask} (adds : Adds queued s t) :
    t.spots = (queued.task.taskId, .waiting queued.attempt) ::ₘ s.spots := by
  unfold InMemoryRuntimeTaskQueue.spots
  rw [adds.waiting, adds.deadLetters, Multiset.map_cons, Multiset.cons_add]

theorem mem_spots {marked : String × Spot} : marked ∈ s.spots ↔
    (∃ queued ∈ s.waiting, (queued.task.taskId, .waiting queued.attempt) = marked) ∨
      ∃ record ∈ s.deadLetters, (record.task.taskId, Spot.dead) = marked := by
  unfold spots
  rw [Multiset.mem_add, Multiset.mem_map, Multiset.mem_coe, List.mem_map]

theorem mem_spots_dead {id : String} :
    (id, .dead) ∈ s.spots ↔ ∃ record ∈ s.deadLetters, record.task.taskId = id := by
  simp [mem_spots]

theorem mem_spots_waiting {id : String} : (∃ attempt, (id, .waiting attempt) ∈ s.spots) ↔
    ∃ route, ∃ queued ∈ s.bucket route, queued.task.taskId = id := by
  simp only [mem_spots, mem_waiting]
  constructor
  · intro ⟨attempt, there⟩
    rcases there with ⟨queued, ⟨route, mem⟩, same⟩ | ⟨record, mem, same⟩
    · exact ⟨route, queued, mem, congrArg Prod.fst same⟩
    · cases same
  · intro ⟨route, queued, mem, same⟩
    exact ⟨queued.attempt, .inl ⟨queued, ⟨route, mem⟩, by rw [same]⟩⟩

/-- What is in the queue waits or is dead-lettered. -/
theorem spot_of_mem {id : String} {spot : Spot} (mem : (id, spot) ∈ s.spots) :
    spot = .dead ∨ ∃ attempt, spot = .waiting attempt := by
  rcases mem_spots.1 mem with ⟨queued, -, same⟩ | ⟨record, -, same⟩
  · cases same
    exact .inr ⟨_, rfl⟩
  · cases same
    exact .inl rfl

theorem spots_pushDeadLetter (record : RuntimeDeadLetterRecord) :
    (s.pushDeadLetter record).spots = (record.task.taskId, .dead) ::ₘ s.spots := by
  have more : (↑((s.pushDeadLetter record).deadLetters.map fun record =>
      (record.task.taskId, Spot.dead)) : Multiset (String × Spot)) =
      (record.task.taskId, .dead) ::ₘ ↑(s.deadLetters.map fun record =>
        (record.task.taskId, Spot.dead)) := by
    simp [pushDeadLetter, ← Multiset.coe_add, add_comm]
  unfold spots
  rw [more, Multiset.add_cons]
  rfl

theorem spots_takeDeadLetter {deliveryId : String} {record : RuntimeDeadLetterRecord}
    (found : (s.takeDeadLetter deliveryId).1 = some record) :
    s.spots = (record.task.taskId, .dead) ::ₘ (s.takeDeadLetter deliveryId).2.spots := by
  obtain ⟨named, front, back, split, absent⟩ := List.find?_eq_some_iff_append.1 found
  have erased : (s.takeDeadLetter deliveryId).2.deadLetters = front ++ back := by
    unfold takeDeadLetter
    simp only [split]
    rw [List.eraseP_append_right _ (by simpa using absent)]
    simp [named]
  unfold spots
  rw [erased, split]
  change s.waiting.map _ + _ = _ ::ₘ (s.waiting.map _ + _)
  rw [← Multiset.add_cons]
  simp

end InMemoryRuntimeTaskQueue

/-- The status that is stored of a task. -/
def RuntimeWorld.statusOf (w : RuntimeWorld) (taskId : String) :
    Option RuntimeTaskLifecycleStatus :=
  (w.snapshots.lookup taskId).map (·.status)

/-- What is known of all tasks after the moves so far, by the state and what the calls owe. -/
def affairs (moves : RuntimeTrace) (w : RuntimeWorld) (owed : Multiset TaskDuty) : Affairs where
  status := w.statusOf
  spots := w.queue.queue.spots + owed.filterMap TaskDuty.spot?
  lates := owed.filterMap TaskDuty.late?
  reports := reportsOf moves
  turns := turnsOf moves

/-- One thing more, if there is one. -/
def mark {β : Type} : Option β → Multiset β → Multiset β
  | none, marked => marked
  | some b, marked => b ::ₘ marked

theorem filterMap_mark {β : Type} (f : TaskDuty → Option β) (g : TaskDuty)
    (owed : Multiset TaskDuty) : (g ::ₘ owed).filterMap f = mark (f g) (owed.filterMap f) := by
  cases gives : f g with
  | none => exact Multiset.filterMap_cons_none _ _ gives
  | some b => exact Multiset.filterMap_cons_some _ _ _ gives

/-- What is known of all tasks, apart from what one call owes. -/
def affairsBut (moves : RuntimeTrace) (w : RuntimeWorld) (g : TaskDuty)
    (owed : Multiset TaskDuty) : Affairs where
  status := w.statusOf
  spots := mark g.spot? (w.queue.queue.spots + owed.filterMap TaskDuty.spot?)
  lates := mark g.late? (owed.filterMap TaskDuty.late?)
  reports := reportsOf moves
  turns := turnsOf moves

theorem affairs_cons (moves : RuntimeTrace) (w : RuntimeWorld) (g : TaskDuty)
    (owed : Multiset TaskDuty) : affairs moves w (g ::ₘ owed) = affairsBut moves w g owed := by
  have spots : w.queue.queue.spots + (g ::ₘ owed).filterMap TaskDuty.spot? =
      mark g.spot? (w.queue.queue.spots + owed.filterMap TaskDuty.spot?) := by
    rw [filterMap_mark]
    cases g.spot? with
    | none => rfl
    | some marked => exact Multiset.add_cons _ _ _
  unfold affairs affairsBut
  rw [spots, filterMap_mark]

/-- A delivery is within the attempts of its task. -/
def WithinAttempts (x : Transition RuntimeBusy RuntimeMove) : Prop :=
  ∀ bindings delivery call others,
    x.label = .command (.service (.reserve bindings)) (some delivery) call others →
    delivery.attempt ≤ max 1 delivery.task.retryPolicy.maxAttempts

/-- The leases are those of the calls, and every task is where its turns and reports say. -/
structure TaskInv (moves : RuntimeTrace) (w : RuntimeWorld) (owed : Multiset TaskDuty) : Prop where
  filed : w.queue.queue.Filed
  leases : owed.filterMap TaskDuty.lease? = w.queue.queue.deliveries
  waits : ∀ queued ∈ w.queue.queue.waiting,
    queued.attempt ≤ max 1 queued.task.retryPolicy.maxAttempts
  within : ∀ x ∈ moves, WithinAttempts x
  sound : (affairs moves w owed).Sound (∀ x ∈ moves, Prompt x ∧ Unreplayed x)

end Affairs

section Steps

open InMemoryRuntimeTaskQueue

variable {moves : RuntimeTrace} {x : Transition RuntimeBusy RuntimeMove} {w t : RuntimeWorld}
  {g g' : TaskDuty} {owed : Multiset TaskDuty} {delivery : RuntimeTaskDelivery} {taskId : String}
  {snapshot : RuntimeTaskSnapshot} {r : Unit}
  {call : Call RuntimeCmd RuntimeCmd.Answer AppError Unit}
  {others : Multiset (Call RuntimeCmd RuntimeCmd.Answer AppError Unit)}

/-- One more entry of a task in what is collected from the moves. -/
theorem collected_snoc {β : Type} {f : String → Transition RuntimeBusy RuntimeMove → Option β}
    {b : β} (gives : ∀ id, f id x = if taskId = id then some b else none) :
    (fun id => (moves ++ [x]).filterMap (f id)) =
      Function.update (fun id => moves.filterMap (f id)) taskId (moves.filterMap (f taskId) ++ [b]) := by
  funext id
  by_cases same : id = taskId
  · subst same
    simp [gives]
  · rw [Function.update_of_ne same, List.filterMap_append]
    simp [gives, Ne.symm same]

theorem collected_none {β : Type} {f : String → Transition RuntimeBusy RuntimeMove → Option β}
    (none : ∀ id, f id x = none) :
    (fun id => (moves ++ [x]).filterMap (f id)) = fun id => moves.filterMap (f id) := by
  funext id
  simp [List.filterMap_append, none]

theorem reportsOf_snoc {report : Report}
    (gives : ∀ id, RuntimeMove.report id x.label = if taskId = id then some report else none) :
    reportsOf (moves ++ [x]) =
      Function.update (reportsOf moves) taskId (reportsOf moves taskId ++ [report]) :=
  collected_snoc gives

theorem reportsOf_quiet (none : ∀ id, RuntimeMove.report id x.label = none) :
    reportsOf (moves ++ [x]) = reportsOf moves :=
  collected_none none

theorem turnsOf_snoc {turn : Turn}
    (gives : ∀ id, RuntimeMove.turn id x.label = if taskId = id then some turn else none) :
    turnsOf (moves ++ [x]) =
      Function.update (turnsOf moves) taskId (turnsOf moves taskId ++ [turn]) :=
  collected_snoc gives

theorem turnsOf_quiet (none : ∀ id, RuntimeMove.turn id x.label = none) :
    turnsOf (moves ++ [x]) = turnsOf moves :=
  collected_none none

theorem statusOf_updateSnapshot : (w.updateSnapshot snapshot).statusOf =
    Function.update w.statusOf snapshot.taskId (some snapshot.status) := by
  funext id
  unfold RuntimeWorld.statusOf RuntimeWorld.updateSnapshot
  by_cases same : id = snapshot.taskId
  · subst same
    simp
  · simp [same]

/-- A step of one call, by what it leaves. -/
theorem TaskInv.step (inv : TaskInv moves w (g ::ₘ owed)) (filed : t.queue.queue.Filed)
    (leases : mark g'.lease? (owed.filterMap TaskDuty.lease?) = t.queue.queue.deliveries)
    (waits : ∀ queued ∈ t.queue.queue.waiting,
      queued.attempt ≤ max 1 queued.task.retryPolicy.maxAttempts)
    (within : WithinAttempts x)
    (sound : (affairsBut moves w g owed).Sound (∀ y ∈ moves ++ [x], Prompt y ∧ Unreplayed y) →
      (affairsBut (moves ++ [x]) t g' owed).Sound
        (∀ y ∈ moves ++ [x], Prompt y ∧ Unreplayed y)) :
    TaskInv (moves ++ [x]) t (g' ::ₘ owed) where
  filed := filed
  leases := (filterMap_mark _ _ _).trans leases
  waits := waits
  within y mem := by
    rcases List.mem_append.1 mem with old | new
    · exact inv.within y old
    · rwa [List.mem_singleton.1 new]
  sound := by
    have fewer : (∀ y ∈ moves ++ [x], Prompt y ∧ Unreplayed y) →
        ∀ y ∈ moves, Prompt y ∧ Unreplayed y :=
      fun all y mem => all y (List.mem_append_left [x] mem)
    have before := inv.sound.mono fewer
    rw [affairs_cons] at before ⊢
    exact sound before

theorem TaskInv.leasesBut (inv : TaskInv moves w (g ::ₘ owed)) :
    mark g.lease? (owed.filterMap TaskDuty.lease?) = w.queue.queue.deliveries :=
  (filterMap_mark _ _ _).symm.trans inv.leases

/-- A step that neither the queue nor the snapshots notice. -/
theorem TaskInv.quiet (inv : TaskInv moves w (g ::ₘ owed)) (within : WithinAttempts x)
    (reports : ∀ id, RuntimeMove.report id x.label = none)
    (turns : ∀ id, RuntimeMove.turn id x.label = none) (snapshots : t.snapshots = w.snapshots)
    (queue : t.queue.queue = w.queue.queue) : TaskInv (moves ++ [x]) t (g ::ₘ owed) := by
  refine inv.step (queue ▸ inv.filed) (queue ▸ inv.leasesBut) (queue ▸ inv.waits) within ?_
  intro sound
  unfold affairsBut RuntimeWorld.statusOf
  rw [reportsOf_quiet reports, turnsOf_quiet turns, snapshots, queue]
  exact sound

/-- The first snapshot of a task. -/
theorem TaskInv.scheduled (inv : TaskInv moves w (.free ::ₘ owed))
    (label : x.label = .command (.service (.updateSnapshot snapshot)) r call others)
    (unreserved : reservedIn call.log = none) (queued : snapshot.status = .queued)
    (unknown : w.snapshots.lookup snapshot.taskId = none) :
    TaskInv (moves ++ [x]) (w.updateSnapshot snapshot) (.scheduled snapshot.taskId ::ₘ owed) := by
  have reports : ∀ id, RuntimeMove.report id x.label =
      if snapshot.taskId = id then some ⟨1, .queued⟩ else none := by
    intro id
    rw [label, RuntimeMove.report, attemptOf, unreserved, queued]
    rfl
  have turns : ∀ id, RuntimeMove.turn id x.label = none := by
    intro id
    rw [label]
    rfl
  refine inv.step inv.filed inv.leasesBut inv.waits ?_ ?_
  · intro _ _ _ _ other
    cases label.symm.trans other
  · intro sound
    unfold affairsBut
    rw [reportsOf_snoc reports, turnsOf_quiet turns, statusOf_updateSnapshot, queued]
    exact sound.schedule (Option.map_eq_none_iff.2 unknown)

/-- A report about a delivery that a worker has. -/
theorem TaskInv.reported (inv : TaskInv moves w (g ::ₘ owed)) {spot spot' : Spot}
    (label : x.label = .command (.service (.updateSnapshot snapshot)) r call others)
    (reserved : reservedIn call.log = some delivery)
    (own : snapshot.taskId = delivery.task.taskId)
    (prompts : Prompt x → ∀ late, (snapshot.taskId, late) ∉ owed.filterMap TaskDuty.late?)
    (lease : g.lease? = g'.lease?) (late : g.late? = none) (late' : g'.late? = none)
    (at_ : g.spot? = some (delivery.task.taskId, spot))
    (at' : g'.spot? = some (delivery.task.taskId, spot'))
    (stages : ∀ status turns, Stage status (some spot) turns →
      Stage (some snapshot.status) (some spot') turns)
    (phases : ∀ status reports, Phase status (some spot) none reports →
      Phase (some snapshot.status) (some spot') none
        (reports ++ [⟨delivery.attempt, snapshot.status⟩])) :
    TaskInv (moves ++ [x]) (w.updateSnapshot snapshot) (g' ::ₘ owed) := by
  have reports : ∀ id, RuntimeMove.report id x.label =
      if snapshot.taskId = id then some ⟨delivery.attempt, snapshot.status⟩ else none := by
    intro id
    rw [label, RuntimeMove.report, attemptOf, reserved]
    rfl
  have turns : ∀ id, RuntimeMove.turn id x.label = none := by
    intro id
    rw [label]
    rfl
  refine inv.step inv.filed (lease ▸ inv.leasesBut) inv.waits ?_ ?_
  · intro _ _ _ _ other
    cases label.symm.trans other
  · intro sound
    unfold affairsBut at sound ⊢
    rw [late, at_, ← own] at sound
    rw [late', at', ← own, reportsOf_snoc reports, turnsOf_quiet turns, statusOf_updateSnapshot]
    refine sound.report ?_ stages phases
    intro all
    exact prompts (all x (List.mem_append_right _ (List.mem_singleton_self x))).1

/-- A report about a failure, after the task has moved on. -/
theorem TaskInv.reportedLate (inv : TaskInv moves w (g ::ₘ owed)) {late : Late}
    (label : x.label = .command (.service (.updateSnapshot snapshot)) r call others)
    (reserved : reservedIn call.log = some delivery)
    (own : snapshot.taskId = delivery.task.taskId) (lease : g.lease? = none)
    (waits : g.late? = some (delivery.task.taskId, late)) (at_ : g.spot? = none)
    (phases : ∀ status spot reports, Phase status spot (some late) reports →
      Phase (some snapshot.status) spot none
        (reports ++ [⟨delivery.attempt, snapshot.status⟩])) :
    TaskInv (moves ++ [x]) (w.updateSnapshot snapshot) (.done ::ₘ owed) := by
  have reports : ∀ id, RuntimeMove.report id x.label =
      if snapshot.taskId = id then some ⟨delivery.attempt, snapshot.status⟩ else none := by
    intro id
    rw [label, RuntimeMove.report, attemptOf, reserved]
    rfl
  have turns : ∀ id, RuntimeMove.turn id x.label = none := by
    intro id
    rw [label]
    rfl
  have leases := inv.leasesBut
  rw [lease] at leases
  refine inv.step inv.filed leases inv.waits ?_ ?_
  · intro _ _ _ _ other
    cases label.symm.trans other
  · intro sound
    unfold affairsBut at sound ⊢
    rw [waits, at_, ← own] at sound
    rw [reportsOf_snoc reports, turnsOf_quiet turns, statusOf_updateSnapshot]
    exact sound.reportLate phases

theorem deliveries_congr {s u : InMemoryRuntimeTaskQueue} (leased : u.leased = s.leased) :
    u.deliveries = s.deliveries := by
  unfold deliveries
  rw [leased]

theorem filed_congr {s u : InMemoryRuntimeTaskQueue} (leased : u.leased = s.leased)
    (filed : s.Filed) : u.Filed := by
  unfold Filed
  rw [leased]
  exact filed

/-- Adding an entry adds its task to the spots. -/
theorem spots_of_adds {s u : InMemoryRuntimeTaskQueue} {queued : QueuedRuntimeTask}
    (adds : Adds queued s u) (marked : Multiset (String × Spot)) :
    u.spots + marked = (queued.task.taskId, .waiting queued.attempt) ::ₘ (s.spots + marked) := by
  rw [adds.spots, Multiset.cons_add]

theorem waits_of_adds {s u : InMemoryRuntimeTaskQueue} {queued : QueuedRuntimeTask}
    (adds : Adds queued s u)
    (new : queued.attempt ≤ max 1 queued.task.retryPolicy.maxAttempts)
    (waits : ∀ queued ∈ s.waiting, queued.attempt ≤ max 1 queued.task.retryPolicy.maxAttempts) :
    ∀ queued ∈ u.waiting, queued.attempt ≤ max 1 queued.task.retryPolicy.maxAttempts := by
  rw [adds.waiting]
  exact Multiset.forall_mem_cons.2 ⟨new, waits⟩

/-- A task that is scheduled goes into its bucket. -/
theorem TaskInv.enqueued {task : RuntimeTask} {queued : QueuedRuntimeTask}
    (inv : TaskInv moves w (.scheduled task.taskId ::ₘ owed))
    (label : x.label = .command (.service (.enqueue task)) (.ok ()) call others)
    (snapshots : t.snapshots = w.snapshots) (adds : Adds queued w.queue.queue t.queue.queue)
    (same : queued.task = task) (first : queued.attempt = 1) :
    TaskInv (moves ++ [x]) t (.done ::ₘ owed) := by
  have reports : ∀ id, RuntimeMove.report id x.label = none := by
    intro id
    rw [label]
    rfl
  have turns : ∀ id, RuntimeMove.turn id x.label =
      if task.taskId = id then some .queued else none := by
    intro id
    rw [label]
    rfl
  refine inv.step (filed_congr adds.leased inv.filed)
    (inv.leasesBut.trans (deliveries_congr adds.leased).symm)
    (waits_of_adds adds (first ▸ le_max_left _ _) inv.waits) ?_ ?_
  · intro _ _ _ _ other
    cases label.symm.trans other
  · intro sound
    unfold affairsBut RuntimeWorld.statusOf
    rw [reportsOf_quiet reports, turnsOf_snoc turns, snapshots, spots_of_adds adds, same, first]
    exact sound.move (fun _ _ => .enqueue) fun _ _ _ _ => .enqueue

/-- A delivery that a call owes is leased under its own id. -/
theorem TaskInv.leased (inv : TaskInv moves w (g ::ₘ owed)) (holds : g.lease? = some delivery) :
    w.queue.queue.leased.lookup delivery.deliveryId = some delivery ∧
      owed.filterMap TaskDuty.lease? =
        (w.queue.queue.removeLease delivery.deliveryId).2.deliveries := by
  have leases := inv.leasesBut
  rw [holds] at leases
  have mem : delivery ∈ w.queue.queue.deliveries := leases ▸ Multiset.mem_cons_self _ _
  obtain ⟨key, found⟩ := mem_deliveries.1 mem
  obtain rfl := (inv.filed key delivery found).1
  refine ⟨found, ?_⟩
  have split := deliveries_of_lookup found
  exact (Multiset.cons_inj_right delivery).1 (leases.trans split)

/-- No task is leased under whose id a task waits. -/
theorem TaskInv.unleased (inv : TaskInv moves w (.free ::ₘ owed)) {queued : QueuedRuntimeTask}
    {u : InMemoryRuntimeTaskQueue} (adds : Adds queued u w.queue.queue) :
    u.leased.lookup ("dlv-" ++ queued.task.taskId) = none := by
  cases found : u.leased.lookup ("dlv-" ++ queued.task.taskId) with
  | none => rfl
  | some held =>
    rw [← adds.leased] at found
    obtain ⟨key, named⟩ := inv.filed _ held found
    have same : held.task.taskId = queued.task.taskId := delivery_inj (named.symm.trans key)
    have leases : owed.filterMap TaskDuty.lease? = w.queue.queue.deliveries := inv.leasesBut
    have mem : held ∈ owed.filterMap TaskDuty.lease? := leases ▸ mem_deliveries.2 ⟨_, found⟩
    obtain ⟨g, there, holds⟩ := (Multiset.mem_filterMap _ _).1 mem
    obtain ⟨spot, at_⟩ : ∃ spot, g.spot? = some (held.task.taskId, spot) := by
      cases g with
      | reserved _ | held _ | settles _ =>
        cases holds
        exact ⟨_, rfl⟩
      | free | done | scheduled _ | requeued _ | buries _ => cases holds
    have marked : (queued.task.taskId, spot) ∈ u.spots + owed.filterMap TaskDuty.spot? :=
      Multiset.mem_add.2 (.inr ((Multiset.mem_filterMap _ _).2 ⟨g, there, same ▸ at_⟩))
    have sound := inv.sound
    rw [affairs_cons] at sound
    unfold affairsBut at sound
    rw [spots_of_adds adds] at sound
    exact absurd marked (sound.apart spot)

/-- A task that waits is handed to a call. -/
theorem TaskInv.handedOut (inv : TaskInv moves w (.free ::ₘ owed)) {queued : QueuedRuntimeTask}
    {now : SystemTime} {bindings : List RuntimeRouteBinding} {u : InMemoryRuntimeTaskQueue}
    (label : x.label = .command (.service (.reserve bindings))
      (some (InMemoryRuntimeTaskQueue.delivery queued now)) call others)
    (snapshots : t.snapshots = w.snapshots) (adds : Adds queued u w.queue.queue)
    (leases : t.queue.queue = u.insertLease (InMemoryRuntimeTaskQueue.delivery queued now)) :
    TaskInv (moves ++ [x]) t
      (.reserved (InMemoryRuntimeTaskQueue.delivery queued now) ::ₘ owed) := by
  have free := inv.unleased adds
  have reports : ∀ id, RuntimeMove.report id x.label = none := by
    intro id
    rw [label]
    rfl
  have turns : ∀ id, RuntimeMove.turn id x.label =
      if queued.task.taskId = id then some (.handed queued.attempt) else none := by
    intro id
    rw [label]
    rfl
  have waits : queued ∈ w.queue.queue.waiting := adds.waiting ▸ Multiset.mem_cons_self _ _
  refine inv.step ?_ ?_ ?_ ?_ ?_
  · rw [leases]
    exact (filed_congr adds.leased.symm inv.filed).insertLease rfl
  · rw [leases, deliveries_insertLease free, deliveries_congr adds.leased.symm]
    exact congrArg (_ ::ₘ ·) inv.leasesBut
  · rw [leases]
    intro other mem
    apply inv.waits other
    rw [adds.waiting]
    exact Multiset.mem_cons_of_mem mem
  · intro _ _ _ _ other
    cases label.symm.trans other
    exact inv.waits queued waits
  · intro sound
    unfold affairsBut at sound
    rw [spots_of_adds adds] at sound
    unfold affairsBut RuntimeWorld.statusOf
    rw [reportsOf_quiet reports, turnsOf_snoc turns, snapshots, leases]
    exact sound.move (fun _ _ => .reserve) fun _ _ _ _ => .reserve

/-- A delivery that is acknowledged. -/
theorem TaskInv.acked (inv : TaskInv moves w (.settles delivery ::ₘ owed)) {deliveryId : String}
    (label : x.label = .command (.service (.ack deliveryId)) (.ok ()) call others)
    (reserved : reservedIn call.log = some delivery) (snapshots : t.snapshots = w.snapshots)
    (settled : t.queue.queue = (w.queue.queue.removeLease delivery.deliveryId).2) :
    TaskInv (moves ++ [x]) t (.done ::ₘ owed) := by
  obtain ⟨found, leases⟩ := inv.leased rfl
  have reports : ∀ id, RuntimeMove.report id x.label = none := by
    intro id
    rw [label]
    rfl
  have turns : ∀ id, RuntimeMove.turn id x.label =
      if delivery.task.taskId = id then some (.acked delivery.attempt) else none := by
    intro id
    rw [label, RuntimeMove.turn, reserved, Option.bind_some]
  refine inv.step (settled ▸ inv.filed.removeLease _) (settled ▸ leases) (settled ▸ inv.waits) ?_ ?_
  · intro _ _ _ _ other
    cases label.symm.trans other
  · intro sound
    unfold affairsBut RuntimeWorld.statusOf
    rw [reportsOf_quiet reports, turnsOf_snoc turns, snapshots, settled]
    exact sound.ack

/-- A delivery that has failed and waits for its next attempt. -/
theorem TaskInv.requeued (inv : TaskInv moves w (.held delivery ::ₘ owed))
    {deliveryId error : String} {delayMs : UInt64} {queued : QueuedRuntimeTask}
    (label : x.label =
      .command (.service (.retry deliveryId error delayMs)) (.ok .requeued) call others)
    (reserved : reservedIn call.log = some delivery) (snapshots : t.snapshots = w.snapshots)
    (left : ¬ delivery.attempt ≥ delivery.task.retryPolicy.maxAttempts)
    (same : queued.task = delivery.task) (again : queued.attempt = delivery.attempt + 1)
    (adds : Adds queued (w.queue.queue.removeLease delivery.deliveryId).2 t.queue.queue) :
    TaskInv (moves ++ [x]) t (.requeued delivery ::ₘ owed) := by
  obtain ⟨found, leases⟩ := inv.leased rfl
  have reports : ∀ id, RuntimeMove.report id x.label = none := by
    intro id
    rw [label]
    rfl
  have turns : ∀ id, RuntimeMove.turn id x.label =
      if delivery.task.taskId = id then some (.requeued delivery.attempt) else none := by
    intro id
    rw [label, RuntimeMove.turn, reserved, Option.bind_some]
  have bound : queued.attempt ≤ max 1 queued.task.retryPolicy.maxAttempts := by
    rw [same, again]
    omega
  refine inv.step (filed_congr adds.leased (inv.filed.removeLease _))
    (leases.trans (deliveries_congr adds.leased).symm) (waits_of_adds adds bound inv.waits) ?_ ?_
  · intro _ _ _ _ other
    cases label.symm.trans other
  · intro sound
    unfold affairsBut RuntimeWorld.statusOf
    rw [reportsOf_quiet reports, turnsOf_snoc turns, snapshots, spots_of_adds adds, same, again]
    exact sound.fail (fun _ _ => .requeue) fun _ _ _ => Phase.requeue

/-- A delivery that has failed for the last time. -/
theorem TaskInv.buried (inv : TaskInv moves w (.held delivery ::ₘ owed))
    {deliveryId error : String} {delayMs : UInt64} {now : SystemTime}
    (label : x.label =
      .command (.service (.retry deliveryId error delayMs)) (.ok .deadLettered) call others)
    (reserved : reservedIn call.log = some delivery) (snapshots : t.snapshots = w.snapshots)
    (settled : t.queue.queue = (w.queue.queue.removeLease delivery.deliveryId).2.pushDeadLetter
      (delivery.deadLetter error now)) :
    TaskInv (moves ++ [x]) t (.buries delivery ::ₘ owed) := by
  obtain ⟨found, leases⟩ := inv.leased rfl
  have reports : ∀ id, RuntimeMove.report id x.label = none := by
    intro id
    rw [label]
    rfl
  have turns : ∀ id, RuntimeMove.turn id x.label =
      if delivery.task.taskId = id then some (.buried delivery.attempt) else none := by
    intro id
    rw [label, RuntimeMove.turn, reserved, Option.bind_some]
  refine inv.step (settled ▸ inv.filed.removeLease _) (settled ▸ leases) (settled ▸ inv.waits) ?_ ?_
  · intro _ _ _ _ other
    cases label.symm.trans other
  · intro sound
    unfold affairsBut RuntimeWorld.statusOf
    rw [reportsOf_quiet reports, turnsOf_snoc turns, snapshots, settled, spots_pushDeadLetter,
      Multiset.cons_add]
    exact sound.fail (fun _ _ => .bury) fun _ _ _ => Phase.bury

/-- A dead letter that is put back. -/
theorem TaskInv.replayed (inv : TaskInv moves w (.free ::ₘ owed)) {deliveryId : String}
    {record : RuntimeDeadLetterRecord} {queued : QueuedRuntimeTask}
    (label : x.label = .command (.replay deliveryId) (.ok record.task.queuedReceipt) call others)
    (snapshots : t.snapshots = w.snapshots)
    (found : (w.queue.queue.takeDeadLetter deliveryId).1 = some record)
    (same : queued.task = record.task) (first : queued.attempt = 1)
    (adds : Adds queued (w.queue.queue.takeDeadLetter deliveryId).2 t.queue.queue) :
    TaskInv (moves ++ [x]) t (.free ::ₘ owed) := by
  have reports : ∀ id, RuntimeMove.report id x.label = none := by
    intro id
    rw [label]
    rfl
  have turns : ∀ id, RuntimeMove.turn id x.label =
      if record.task.taskId = id then some .queued else none := by
    intro id
    rw [label]
    rfl
  refine inv.step (filed_congr adds.leased inv.filed)
    (inv.leasesBut.trans (deliveries_congr adds.leased).symm)
    (waits_of_adds adds (first ▸ le_max_left _ _) inv.waits) ?_ ?_
  · intro _ _ _ _ other
    cases label.symm.trans other
  · intro sound
    unfold affairsBut at sound
    rw [spots_takeDeadLetter found, Multiset.cons_add] at sound
    unfold affairsBut RuntimeWorld.statusOf
    rw [reportsOf_quiet reports, turnsOf_snoc turns, snapshots, spots_of_adds adds, same, first]
    refine sound.move (fun _ _ => .replay) ?_
    intro all
    exact absurd label ((all x (List.mem_append_right _ (List.mem_singleton_self x))).2 _ _ _ _)

end Steps

section Runs

open InMemoryRuntimeTaskQueue

variable {moves : RuntimeTrace} {x : Transition RuntimeBusy RuntimeMove} {w t : RuntimeWorld}
  {g : TaskDuty} {log : RuntimeLog} {p rest : RuntimeProg Unit}
  {others : Multiset (Call RuntimeCmd RuntimeCmd.Answer AppError Unit)}
  {readings : Nat → SystemTime} {b : RuntimeBusy}

/-- What the other calls owe. -/
abbrev owedBy (others : Multiset (Call RuntimeCmd RuntimeCmd.Answer AppError Unit)) :
    Multiset TaskDuty :=
  others.map (taskDiscipline.owes .free)

theorem prompt_late {snapshot : RuntimeTaskSnapshot} {r : Unit}
    {call : Call RuntimeCmd RuntimeCmd.Answer AppError Unit}
    (label : x.label = .command (.service (.updateSnapshot snapshot)) r call others)
    (prompt : Prompt x) (late : Late) :
    (snapshot.taskId, late) ∉ (owedBy others).filterMap TaskDuty.late? := by
  intro mem
  obtain ⟨g, there, is⟩ := (Multiset.mem_filterMap _ _).1 mem
  obtain ⟨other, calls, rfl⟩ := Multiset.mem_map.1 there
  exact prompt snapshot r call others label other calls (givenBack_of_late is)

/-- A snapshot that a call may store. -/
theorem TaskInv.stored {snapshot : RuntimeTaskSnapshot} {r : Unit}
    (inv : TaskInv moves w (g ::ₘ owedBy others)) (records : Records log g)
    (label : x.label = .command (.service (.updateSnapshot snapshot)) r
      ⟨p, log ++ [⟨.service (.updateSnapshot snapshot), r⟩], rest⟩ others)
    (may : g.MayStore snapshot)
    (unknown : g = .free → w.snapshots.lookup snapshot.taskId = none) :
    TaskInv (moves ++ [x]) (w.updateSnapshot snapshot)
      (g.next (.service (.updateSnapshot snapshot)) r ::ₘ owedBy others) := by
  cases g with
  | free =>
    refine inv.scheduled label ?_ may (unknown rfl)
    rw [reservedIn_snoc, show reservedIn log = none from records]
    rfl
  | reserved delivery =>
    refine inv.reported label (reservedIn_of_some records _) may.1
      (prompt_late label) rfl rfl rfl rfl rfl ?_ ?_
    · exact fun _ _ stage => stage.report (.inl rfl)
    · exact fun _ _ phase => phase.report (.inl rfl) may.2
  | held delivery =>
    change TaskInv _ _ ((if _ then .settles delivery else .held delivery) ::ₘ _)
    split_ifs with ended
    · refine inv.reported label (reservedIn_of_some records _) may.1
        (prompt_late label) rfl rfl rfl rfl rfl ?_ ?_
      · exact fun _ _ => .reportEnd
      · exact fun _ _ phase => phase.reportEnd ended
    · refine inv.reported label (reservedIn_of_some records _) may.1
        (prompt_late label) rfl rfl rfl rfl rfl ?_ ?_
      · exact fun _ _ stage => stage.report (.inr rfl)
      · exact fun _ _ phase => phase.report (.inr rfl) (may.2.resolve_right ended)
  | requeued delivery =>
    obtain ⟨own, status⟩ := may
    refine inv.reportedLate label (reservedIn_of_some records.1 _) own rfl rfl rfl ?_
    intro _ _ _ phase
    rw [status]
    exact phase.reportRequeued
  | buries delivery =>
    obtain ⟨own, status⟩ := may
    refine inv.reportedLate label (reservedIn_of_some records.1 _) own rfl rfl rfl ?_
    intro _ _ _ phase
    rw [status]
    exact phase.reportBuried
  | done | scheduled _ | settles _ => exact may.elim

/-- Every permitted command is answered as the calls assume and keeps the invariant. -/
theorem TaskInv.answered {c : RuntimeCmd} {r : c.Answer}
    (inv : TaskInv moves w (g ::ₘ owedBy others)) (records : Records log g)
    (label : x.label = .command c r ⟨p, log ++ [⟨c, r⟩], rest⟩ others) (permitted : g.permits c)
    (answers : runtimeHandler w c r t) (before : x.before.state = w) (once : ScheduledOnce x) :
    g.assumes c r ∧ TaskInv (moves ++ [x]) t (g.next c r ::ₘ owedBy others) := by
  cases c with
  | replay deliveryId =>
    obtain rfl : g = .free := permitted
    refine ⟨trivial, ?_⟩
    obtain ⟨snapshots, answer⟩ := answers
    rcases replay_gives deliveryId w.queue with ⟨e, run⟩ |
      ⟨record, queued, u, found, run, same, first, adds⟩
    · obtain ⟨rfl, queue⟩ := Prod.mk.inj (run.symm.trans answer)
      refine inv.quiet ?_ ?_ ?_ snapshots (congrArg TimedMemoryQueue.queue queue).symm
      · intro _ _ _ _ other
        cases label.symm.trans other
      · intro id
        rw [label]
        rfl
      · intro id
        rw [label]
        rfl
    · obtain ⟨rfl, rfl⟩ := Prod.mk.inj (run.symm.trans answer)
      exact inv.replayed label snapshots found same first adds
  | service command =>
    cases command with
    | updateSnapshot snapshot =>
      obtain rfl : t = w.updateSnapshot snapshot := answers
      refine ⟨trivial, inv.stored records label permitted ?_⟩
      rintro rfl
      rw [← before]
      refine once snapshot r _ others label ?_
      rw [reservedIn_snoc, show reservedIn log = none from records]
      rfl
    | reserve bindings =>
      obtain rfl : g = .free := permitted
      refine ⟨trivial, ?_⟩
      obtain ⟨snapshots, answer⟩ := answers
      rcases reserve_takes bindings w.queue with ⟨later, run⟩ | ⟨queued, now, later, u, run, adds⟩
      · obtain ⟨given, queue⟩ := Prod.mk.inj (run.symm.trans answer)
        cases given
        refine inv.quiet ?_ ?_ ?_ snapshots (congrArg TimedMemoryQueue.queue queue).symm
        · intro _ _ _ _ other
          cases label.symm.trans other
        · intro id
          rw [label]
          rfl
        · intro id
          rw [label]
          rfl
      · obtain ⟨given, queue⟩ := Prod.mk.inj (run.symm.trans answer)
        cases given
        exact inv.handedOut label snapshots adds (congrArg TimedMemoryQueue.queue queue).symm
    | enqueue task =>
      obtain rfl : g = .scheduled task.taskId := permitted
      obtain ⟨snapshots, answer⟩ := answers
      obtain ⟨queued, u, run, same, first, adds⟩ := enqueue_adds task w.queue
      obtain ⟨rfl, rfl⟩ := Prod.mk.inj (run.symm.trans answer)
      exact ⟨rfl, inv.enqueued label snapshots adds same first⟩
    | ack deliveryId =>
      obtain ⟨delivery, rfl, rfl⟩ := permitted
      obtain ⟨snapshots, answer⟩ := answers
      obtain ⟨rfl, queue⟩ := Prod.mk.inj
        ((TimedMemoryQueue.answers_ack delivery.deliveryId w.queue).symm.trans answer)
      exact ⟨trivial, inv.acked label (reservedIn_of_some records _) snapshots
        (congrArg TimedMemoryQueue.queue queue).symm⟩
    | retry deliveryId error delayMs =>
      obtain ⟨delivery, rfl, rfl⟩ := permitted
      obtain ⟨snapshots, answer⟩ := answers
      have reserved : ∀ entry, reservedIn (log ++ [entry]) = some delivery :=
        reservedIn_of_some records
      rcases retry_gives error delayMs (inv.leased rfl).1 with
        ⟨left, queued, u, run, same, again, adds⟩ | ⟨now, u, run, settled⟩
      · obtain ⟨rfl, rfl⟩ := Prod.mk.inj (run.symm.trans answer)
        exact ⟨⟨_, rfl⟩, inv.requeued label (reserved _) snapshots left same again adds⟩
      · obtain ⟨rfl, rfl⟩ := Prod.mk.inj (run.symm.trans answer)
        exact ⟨⟨_, rfl⟩, inv.buried label (reserved _) snapshots settled⟩
    | execute artifacts =>
      obtain ⟨rfl, final⟩ := answers
      refine ⟨final, ?_⟩
      have quiet : TaskInv (moves ++ [x]) t (g ::ₘ owedBy others) := by
        refine inv.quiet ?_ ?_ ?_ rfl rfl
        · intro _ _ _ _ other
          cases label.symm.trans other
        · intro id
          rw [label]
          rfl
        · intro id
          rw [label]
          rfl
      cases g with
      | requeued _ | buries _ => cases permitted
      | free | done | scheduled _ | reserved _ | held _ | settles _ => exact quiet
    | onEvent _ | prepare _ | sleep _ =>
      obtain ⟨snapshots, same⟩ := answers
      have queue : t.queue.queue = w.queue.queue := congrArg TimedMemoryQueue.queue same
      refine ⟨trivial, ?_⟩
      have quiet : TaskInv (moves ++ [x]) t (g ::ₘ owedBy others) := by
        refine inv.quiet ?_ ?_ ?_ snapshots queue
        · intro _ _ _ _ other
          cases label.symm.trans other
        · intro id
          rw [label]
          rfl
        · intro id
          rw [label]
          rfl
      cases g with
      | requeued _ | buries _ => cases permitted
      | free | done | scheduled _ | reserved _ | held _ | settles _ => exact quiet

theorem taskInv_start : TaskInv [] (.start readings) 0 where
  filed id delivery found := by cases found
  leases := rfl
  waits queued mem := absurd mem (Multiset.notMem_zero queued)
  within x mem := absurd mem List.not_mem_nil
  sound id := ⟨none, rfl, .new, fun _ => ⟨none, rfl, .new⟩⟩

/-- Neither the start nor the end of a call moves a task. -/
theorem TaskInv.unmoved {owed owed' : Multiset TaskDuty} (inv : TaskInv moves w owed)
    (commands : ∀ c r call others, x.label ≠ .command c r call others)
    (leases : owed'.filterMap TaskDuty.lease? = owed.filterMap TaskDuty.lease?)
    (spots : owed'.filterMap TaskDuty.spot? = owed.filterMap TaskDuty.spot?)
    (lates : owed'.filterMap TaskDuty.late? = owed.filterMap TaskDuty.late?) :
    TaskInv (moves ++ [x]) w owed' where
  filed := inv.filed
  leases := leases.trans inv.leases
  waits := inv.waits
  within y mem := by
    rcases List.mem_append.1 mem with old | new
    · exact inv.within y old
    · rw [List.mem_singleton.1 new]
      exact fun _ _ _ _ label => absurd label (commands _ _ _ _)
  sound := by
    have none : ∀ id, RuntimeMove.report id x.label = none ∧ RuntimeMove.turn id x.label = none := by
      intro id
      cases label : x.label with
      | command c r call others => exact absurd label (commands c r call others)
      | start p => exact ⟨rfl, rfl⟩
      | finish call o => exact ⟨rfl, rfl⟩
    have fewer : (∀ y ∈ moves ++ [x], Prompt y ∧ Unreplayed y) →
        ∀ y ∈ moves, Prompt y ∧ Unreplayed y :=
      fun all y mem => all y (List.mem_append_left [x] mem)
    have before := inv.sound.mono fewer
    unfold affairs at before ⊢
    rw [reportsOf_quiet fun id => (none id).1, turnsOf_quiet fun id => (none id).2, spots, lates]
    exact before

/-- Every run in which ids are unique keeps the invariant. -/
theorem taskInv_of_run
    (run : Run (Interleaved runtimeHandler RuntimeCall) ⟨.start readings, 0⟩ moves b)
    (once : ∀ x ∈ moves, ScheduledOnce x) :
    Accounted taskDiscipline TaskDuty.assumes .free (TaskInv moves) b := by
  let Kept : RuntimeTrace → RuntimeBusy → Prop := fun moves b => (∀ x ∈ moves, ScheduledOnce x) →
    Accounted taskDiscipline TaskDuty.assumes .free (TaskInv moves) b
  suffices kept : Kept moves b from kept once
  refine run.invariant_trace ?_ ?_
  · intro _
    exact .idle taskInv_start
  · intro moves b m b' kept step once
    have earlier := kept fun x mem => once x (List.mem_append_left _ mem)
    have now := once ⟨b, m, b'⟩ (List.mem_append_right _ (List.mem_singleton_self _))
    refine earlier.step_to ?_ ?_ ?_ ?_ step
      (Eq.refl (⟨b, m, b'⟩ : Transition RuntimeBusy RuntimeMove))
    · intro p _ _ allowed _
      exact runtimeCall_does allowed
    · intro w owed p before after is inv
      cases is
      refine inv.unmoved (fun _ _ _ _ same => nomatch same) ?_ ?_ ?_ <;>
        exact Multiset.filterMap_cons_none _ _ rfl
    · intro w g owed call o before after is clear inv
      cases is
      rcases clear with rfl | rfl
      · refine inv.unmoved (fun _ _ _ _ same => nomatch same) ?_ ?_ ?_ <;>
          exact (Multiset.filterMap_cons_none _ _ rfl).symm
      · refine inv.unmoved (fun _ _ _ _ same => nomatch same) ?_ ?_ ?_ <;>
          exact (Multiset.filterMap_cons_none _ _ rfl).symm
    · intro w p log c k r t others after inv permitted answers is
      cases is
      exact inv.answered (records_of_owes ⟨p, log, .call c k⟩) rfl permitted answers rfl now

/-- Ids are unique, so every task goes through its cycle: each delivery is given back before the next
one, the deliveries are numbered from one since the task was last queued, and none is beyond the
attempts of its task. -/
theorem tasks_follow_their_cycle (readings : Nat → SystemTime) (moves : RuntimeTrace)
    (b : RuntimeBusy)
    (run : Run (Interleaved runtimeHandler RuntimeCall) ⟨.start readings, 0⟩ moves b)
    (once : ∀ x ∈ moves, ScheduledOnce x) :
    (∀ taskId, Cycle (turnsOf moves taskId)) ∧ ∀ x ∈ moves, WithinAttempts x := by
  have inv := (taskInv_of_run run once).holds
  refine ⟨?_, inv.within⟩
  intro taskId
  obtain ⟨spot, at_⟩ := inv.sound taskId
  exact at_.stage.cycle

/-- The ids of the tasks in the queue, in all their places. -/
def InMemoryRuntimeTaskQueue.ids (s : InMemoryRuntimeTaskQueue) : Multiset String :=
  s.waiting.map (·.task.taskId) + s.deliveries.map (·.task.taskId) +
    ↑(s.deadLetters.map (·.task.taskId))

theorem nodup_of_sound {prompt : Prop} {a : Affairs} (sound : a.Sound prompt) :
    (a.spots.map Prod.fst).Nodup := by
  refine Multiset.nodup_iff_count_le_one.2 ?_
  intro id
  obtain ⟨spot, at_⟩ := sound id
  have size := congrArg Multiset.card at_.placed
  rw [Multiset.count_map]
  have same : a.spots.filter (fun marked => id = marked.1) =
      a.spots.filter (fun marked => marked.1 = id) :=
    Multiset.filter_congr fun _ _ => eq_comm
  rw [same]
  unfold pick at size
  rw [Multiset.card_map] at size
  rw [size]
  cases spot with
  | none => exact Nat.zero_le 1
  | some spot => exact le_of_eq (Multiset.card_singleton spot)

/-- The tasks that calls have leased are marked. -/
theorem leases_le_spots (owed : Multiset TaskDuty) :
    (owed.filterMap TaskDuty.lease?).map (·.task.taskId) ≤
      (owed.filterMap TaskDuty.spot?).map Prod.fst := by
  induction owed using Multiset.induction with
  | empty => exact le_rfl
  | cons g owed ih =>
    rw [filterMap_mark, filterMap_mark]
    cases g with
    | free | done | requeued _ | buries _ => exact ih
    | scheduled taskId =>
      change _ ≤ Multiset.map Prod.fst (_ ::ₘ _)
      rw [Multiset.map_cons]
      exact ih.trans (Multiset.le_cons_self _ _)
    | reserved _ | held _ | settles _ =>
      change Multiset.map _ (_ ::ₘ _) ≤ Multiset.map Prod.fst (_ ::ₘ _)
      rw [Multiset.map_cons, Multiset.map_cons]
      exact Multiset.cons_le_cons _ ih

/-- In every run in which ids are unique, no task is in two places at once. -/
theorem one_place (readings : Nat → SystemTime) (moves : RuntimeTrace) (b : RuntimeBusy)
    (run : Run (Interleaved runtimeHandler RuntimeCall) ⟨.start readings, 0⟩ moves b)
    (once : ∀ x ∈ moves, ScheduledOnce x) : b.state.queue.queue.ids.Nodup := by
  have inv := (taskInv_of_run run once).holds
  have marked := nodup_of_sound inv.sound
  refine Multiset.nodup_of_le ?_ marked
  unfold ids affairs InMemoryRuntimeTaskQueue.spots
  rw [← inv.leases]
  simp only [Multiset.map_add, Multiset.map_map, Function.comp_def, Multiset.map_coe, List.map_map]
  rw [add_right_comm]
  exact add_le_add_right (leases_le_spots _) _

/-- In every run in which ids are unique and reports are prompt, without a replay, no report sets a
task back. -/
theorem reports_go_forward (readings : Nat → SystemTime) (moves : RuntimeTrace) (b : RuntimeBusy)
    (run : Run (Interleaved runtimeHandler RuntimeCall) ⟨.start readings, 0⟩ moves b)
    (once : ∀ x ∈ moves, ScheduledOnce x) (prompt : ∀ x ∈ moves, Prompt x ∧ Unreplayed x)
    (taskId : String) : Forward (reportsOf moves taskId) := by
  obtain ⟨spot, at_⟩ := (taskInv_of_run run once).holds.sound taskId
  obtain ⟨late, -, phase⟩ := at_.phase prompt
  exact phase.forward

/-- What is stored of a task fits where it is. -/
structure Agrees (w : RuntimeWorld) (taskId : String) : Prop where
  dead : (∃ snapshot, w.getTask taskId = .ok snapshot ∧ snapshot.status = .deadLettered) ↔
    ∃ record ∈ w.queue.queue.deadLetters, record.task.taskId = taskId
  waiting : (∃ snapshot, w.getTask taskId = .ok snapshot ∧
      (snapshot.status = .queued ∨ snapshot.status = .retrying)) ↔
    ∃ route, ∃ queued ∈ w.queue.queue.bucket route, queued.task.taskId = taskId

theorem getTask_status (P : RuntimeTaskLifecycleStatus → Prop) (w : RuntimeWorld)
    (taskId : String) : (∃ snapshot, w.getTask taskId = .ok snapshot ∧ P snapshot.status) ↔
      ∃ status, w.statusOf taskId = some status ∧ P status := by
  unfold RuntimeWorld.getTask RuntimeWorld.statusOf
  cases w.snapshots.lookup taskId with
  | none => simp
  | some snapshot => simp

/-- Between the calls of such a run, what is stored of each task fits where it is. -/
theorem snapshots_agree (readings : Nat → SystemTime) (moves : RuntimeTrace) (w : RuntimeWorld)
    (run : Run (Interleaved runtimeHandler RuntimeCall) ⟨.start readings, 0⟩ moves ⟨w, 0⟩)
    (once : ∀ x ∈ moves, ScheduledOnce x) (prompt : ∀ x ∈ moves, Prompt x ∧ Unreplayed x)
    (taskId : String) : Agrees w taskId := by
  obtain ⟨spot, at_⟩ := (taskInv_of_run run once).holds.sound taskId
  obtain ⟨late, none, phase⟩ := at_.phase prompt
  obtain rfl : late = .none := by
    cases late with
    | none => rfl
    | some late => exact absurd none.symm (Multiset.singleton_ne_zero late)
  have marked : ∀ other, (taskId, other) ∈ w.queue.queue.spots ↔ spot = some other := by
    intro other
    have placed : pick taskId (w.queue.queue.spots + 0) = one spot := at_.placed
    rw [← mem_pick, ← add_zero w.queue.queue.spots, placed, mem_one]
  have dead : (∃ record ∈ w.queue.queue.deadLetters, record.task.taskId = taskId) ↔
      spot = some .dead := by
    rw [← marked, mem_spots_dead]
  have waiting : (∃ route, ∃ queued ∈ w.queue.queue.bucket route, queued.task.taskId = taskId) ↔
      ∃ attempt, spot = some (.waiting attempt) := by
    rw [← mem_spots_waiting]
    exact exists_congr fun attempt => marked _
  have placed : spot = .none ∨ spot = some .dead ∨ ∃ attempt, spot = some (.waiting attempt) := by
    cases spot with
    | none => exact .inl rfl
    | some spot =>
      rcases spot_of_mem ((marked spot).2 rfl) with rfl | ⟨attempt, rfl⟩
      · exact .inr (.inl rfl)
      · exact .inr (.inr ⟨attempt, rfl⟩)
  obtain ⟨forDead, forWaiting⟩ := phase.agrees placed
  constructor
  · rw [dead, ← forDead, getTask_status (· = .deadLettered)]
    simp [affairs]
  · rw [waiting, ← forWaiting, getTask_status fun status => status = .queued ∨ status = .retrying]
    simp only [affairs, and_or_left, exists_or, exists_eq_right]

end Runs

section Samples

/-- An operation of the queue, if no other one is in progress. -/
def RuntimeWorld.perform {α : Type} (w : RuntimeWorld) (p : MemoryProg α) :
    AppResult α × RuntimeWorld :=
  ((p.eval TimedMemoryQueue.answer w.queue).1,
    { w with queue := (p.eval TimedMemoryQueue.answer w.queue).2 })

/-- A service whose worker never gets to run a task. -/
def runtimeServe (w : RuntimeWorld) : (c : RuntimeCmd) → Option (c.Answer × RuntimeWorld)
  | .service (.updateSnapshot snapshot) => some ((), w.updateSnapshot snapshot)
  | .service (.reserve bindings) =>
    match w.perform (InMemoryRuntimeTaskQueue.reserve bindings) with
    | (.ok delivery, t) => some (delivery, t)
    | (.error _, _) => none
  | .service (.enqueue task) => some (w.perform (InMemoryRuntimeTaskQueue.enqueue task))
  | .service (.ack deliveryId) => some (w.perform (InMemoryRuntimeTaskQueue.ack deliveryId))
  | .service (.retry deliveryId error delayMs) =>
    some (w.perform (InMemoryRuntimeTaskQueue.retry deliveryId error delayMs))
  | .service (.onEvent _) => some (.ok (), w)
  | .service (.prepare _) => some (.error .internal, w)
  | .service (.execute _) => some (.error .internal, w)
  | .service (.sleep _) => some ((), w)
  | .replay deliveryId => some (w.perform (InMemoryRuntimeTaskQueue.replayDeadLetter deliveryId))

theorem runtimeServe_admitted (w : RuntimeWorld) (c : RuntimeCmd) (r : c.Answer)
    (t : RuntimeWorld) (served : runtimeServe w c = some (r, t)) : runtimeHandler w c r t := by
  cases c with
  | replay deliveryId =>
    cases served
    exact ⟨rfl, rfl⟩
  | service command =>
    cases command with
    | reserve bindings =>
      dsimp only [runtimeServe] at served
      split at served
      · next delivery u ran =>
        cases served
        unfold RuntimeWorld.perform at ran
        obtain ⟨given, rfl⟩ := Prod.mk.inj ran
        exact ⟨rfl, Prod.ext given rfl⟩
      · cases served
    | updateSnapshot snapshot =>
      cases served
      rfl
    | execute artifacts =>
      cases served
      exact ⟨rfl, fun _ same => nomatch same⟩
    | enqueue _ | ack _ | retry _ _ _ | onEvent _ | prepare _ | sleep _ =>
      cases served
      exact ⟨rfl, rfl⟩

/-- What is asked of a step, as a test. -/
def undisturbed (w : RuntimeWorld) : (c : RuntimeCmd) → c.Answer →
    Call RuntimeCmd RuntimeCmd.Answer AppError Unit →
      List (Call RuntimeCmd RuntimeCmd.Answer AppError Unit) → Bool
  | .service (.updateSnapshot snapshot), _, call, others =>
    ((reservedIn call.log).isSome || (w.snapshots.lookup snapshot.taskId).isNone) &&
      others.all fun other => givenBack other.log ≠ some snapshot.taskId
  | .replay _, .ok _, _, _ => false
  | _, _, _, _ => true

theorem of_undisturbed {entries : RuntimeLog} {moves : List (Transition RuntimeBusy RuntimeMove)}
    (passes : Passes undisturbed entries moves) {x : Transition RuntimeBusy RuntimeMove}
    (mem : x ∈ moves) : ScheduledOnce x ∧ Prompt x ∧ Unreplayed x := by
  refine ⟨?_, ?_, ?_⟩
  · intro snapshot r call others label unreserved
    obtain ⟨list, -, passed⟩ := passes.tested x mem _ _ _ _ label
    obtain ⟨fresh, -⟩ := Bool.and_eq_true_iff.1 passed
    rw [unreserved] at fresh
    exact Option.isNone_iff_eq_none.1 fresh
  · intro snapshot r call others label other there
    obtain ⟨list, rfl, passed⟩ := passes.tested x mem _ _ _ _ label
    obtain ⟨-, prompt⟩ := Bool.and_eq_true_iff.1 passed
    exact of_decide_eq_true (List.all_eq_true.1 prompt other (Multiset.mem_coe.1 there))
  · intro deliveryId receipt call others label
    obtain ⟨list, -, passed⟩ := passes.tested x mem _ _ _ _ label
    cases passed

/-- A task that is scheduled, or a round of a worker. -/
def serviceCall : Option RuntimeTask → RuntimeProg Unit
  | some task => serviceRun (RuntimeTaskService.schedule task)
  | none => serviceRun (RuntimeTaskService.workerRound [])

/-- Two tasks with two attempts each are scheduled at the same time, and two workers take them at the
same time and fail, twice. -/
def failingTurns : List (Option RuntimeTask ⊕ Nat) :=
  .inl (some (sampleTask "task-1" "oj" 2)) :: .inl (some (sampleTask "task-2" "oj" 2)) ::
  inTurn 20 [0, 1] ++ .inl none :: .inl none :: inTurn 20 [0, 1] ++
  .inl none :: .inl none :: inTurn 20 [0, 1]

def failingRun : Option
    ((RuntimeWorld × List (Call RuntimeCmd RuntimeCmd.Answer AppError Unit)) × RuntimeLog) :=
  tryPlay runtimeServe undisturbed (.start fun n => n * 2000000000) []
    (schedule serviceCall failingTurns)

theorem failing_run : ∃ moves w,
    Run (Interleaved runtimeHandler RuntimeCall) ⟨.start fun n => n * 2000000000, 0⟩ moves ⟨w, 0⟩ ∧
      (∀ x ∈ moves, ScheduledOnce x ∧ Prompt x ∧ Unreplayed x) ∧
      w.queue.queue.deadLetters.map (·.task.taskId) = ["task-1", "task-2"] := by
  have ended : failingRun.any (fun ran => ran.1.2.isEmpty &&
      ran.1.1.queue.queue.deadLetters.map (·.task.taskId) = ["task-1", "task-2"]) = true := by
    decide +kernel
  obtain ⟨⟨⟨w, left⟩, log⟩, played, ended⟩ := (Option.any_eq_true _ _).1 ended
  obtain ⟨finished, dead⟩ := Bool.and_eq_true_iff.1 ended
  obtain rfl := List.isEmpty_iff.1 finished
  obtain ⟨moves, run, passes⟩ := run_tryPlay RuntimeCall runtimeServe_admitted (by
    intro p mem
    obtain ⟨_ | task, rfl⟩ := named_of_start mem
    · exact .round _
    · exact .schedule _) played
  exact ⟨moves, w, run, fun x => of_undisturbed passes, of_decide_eq_true dead⟩

theorem tasks_follow_their_cycle_in_failing_run : ∃ moves : RuntimeTrace, moves ≠ [] ∧
    (∀ taskId, Cycle (turnsOf moves taskId)) ∧ ∀ x ∈ moves, WithinAttempts x := by
  obtain ⟨moves, w, run, all, dead⟩ := failing_run
  refine ⟨moves, ?_, tasks_follow_their_cycle _ moves _ run fun x mem => (all x mem).1⟩
  rintro rfl
  cases run
  cases dead

theorem one_place_in_failing_run : ∃ w : RuntimeWorld,
    w.queue.queue.deadLetters.map (·.task.taskId) = ["task-1", "task-2"] ∧
    w.queue.queue.ids.Nodup := by
  obtain ⟨moves, w, run, all, dead⟩ := failing_run
  exact ⟨w, dead, one_place _ moves _ run fun x mem => (all x mem).1⟩

theorem reports_go_forward_in_failing_run : ∃ moves : RuntimeTrace, moves ≠ [] ∧
    Forward (reportsOf moves "task-1") := by
  obtain ⟨moves, w, run, all, dead⟩ := failing_run
  refine ⟨moves, ?_, reports_go_forward _ moves _ run (fun x mem => (all x mem).1)
    (fun x mem => (all x mem).2) "task-1"⟩
  rintro rfl
  cases run
  cases dead

theorem snapshots_agree_after_failing_run : ∃ w : RuntimeWorld,
    w.queue.queue.deadLetters.map (·.task.taskId) = ["task-1", "task-2"] ∧ Agrees w "task-1" := by
  obtain ⟨moves, w, run, all, dead⟩ := failing_run
  exact ⟨w, dead, snapshots_agree _ moves w run (fun x mem => (all x mem).1)
    (fun x mem => (all x mem).2) "task-1"⟩

end Samples

end NexusCore.Runtime
