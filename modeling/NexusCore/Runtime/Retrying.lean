import NexusCore.Runtime.Queue.Memory
import NexusCore.Runtime.Service

/-!
# Reporting a failed delivery

The failure handler takes a retry that fails for a dead letter. Whether the snapshot and the
event that it publishes agree with what the queue stores then depends on where the retry stands
and on what goes wrong in it. A queue is described by what its retries do in each case; here this
is done for the queue in memory.
-/

namespace NexusCore.Runtime

open NexusCore.Lib

/-- What a queue has of a delivery: no lease, or a lease with or without attempts left. -/
inductive Holding where
  | lost
  | exhausted
  | left
  deriving DecidableEq

def holding : Option RuntimeTaskDelivery → Holding
  | none => .lost
  | some delivery =>
    if delivery.attempt ≥ delivery.task.retryPolicy.maxAttempts then .exhausted else .left

/-- The retry call of a queue, and what one looks at to see what it has done: the leases, the
dead-letter records, the commands that fail, and the commands that store a record. -/
structure RetryQueue (σ Cmd : Type) (Resp : Cmd → Type) where
  handler : Handler σ Cmd Resp
  retry : String → String → UInt64 → Prog Cmd Resp AppError RetryDisposition
  leased : σ → String → Option RuntimeTaskDelivery
  stored : σ → String → Prop
  failure : σ → (c : Cmd) → Resp c → σ → Bool
  stores : σ → (c : Cmd) → Resp c → σ → Bool

/-- The queue, what was noted of its commands, and what the handler has published. -/
structure HandlerWorld (σ : Type) where
  queue : σ
  noted : Bool
  snapshots : List RuntimeTaskSnapshot
  events : List RuntimeTaskEvent

/-- Before anything is published. -/
def HandlerWorld.start {σ : Type} (s : σ) : HandlerWorld σ := ⟨s, false, [], []⟩

/-- The snapshot and the event that the handler has published say that the task is dead exactly
when a record is stored. -/
def Truthful {σ : Type} (task : RuntimeTask) (w : HandlerWorld σ) (stored : Prop) : Prop :=
  ((∃ s ∈ w.snapshots, s.taskId = task.taskId ∧ s.status = .deadLettered) ↔ stored) ∧
    ((∃ e ∈ w.events, e.taskId = task.taskId ∧ e.status = .deadLettered) ↔ stored)

/-- Without a lease, a record is there before. With no attempt left, it is there before or gets
stored. With attempts left, a command fails exactly when a record is there before. -/
def ReportsTruly (before : Prop) (noted : Bool) : Holding → Prop
  | .lost => before
  | .exhausted => before ∨ noted = true
  | .left => noted = true ↔ before

/-- How a retry ends. -/
structure Retried (before after : Prop) (noted : Bool) (result : AppResult RetryDisposition)
    (held : Holding) : Prop where
  lost : held = .lost → result.isOk = false ∧ (after ↔ before)
  exhausted : held = .exhausted →
    RuntimeTaskService.dispositionOf result = .deadLettered ∧ (after ↔ before ∨ noted = true)
  left : held = .left →
    (RuntimeTaskService.dispositionOf result = .deadLettered ↔ noted = true) ∧ (after ↔ before)

open RuntimeTaskService

section Results

variable {before after : Prop} {noted : Bool} {held : Holding}
  {result : AppResult RetryDisposition}

theorem Retried.of_lost (failed : result.isOk = false) (same : after ↔ before) :
    Retried before after noted result .lost where
  lost _ := ⟨failed, same⟩
  exhausted lost := nomatch lost
  left lost := nomatch lost

theorem Retried.of_exhausted (dead : ∀ d, result = .ok d → d = .deadLettered)
    (same : after ↔ before ∨ noted = true) : Retried before after noted result .exhausted where
  lost exhausted := nomatch exhausted
  exhausted _ := by
    refine ⟨?_, same⟩
    cases result with
    | error e => rfl
    | ok d => exact dead d rfl
  left exhausted := nomatch exhausted

theorem Retried.of_left (requeued : ∀ d, result = .ok d → d = .requeued)
    (fails : noted = !result.isOk) (same : after ↔ before) :
    Retried before after noted result .left where
  lost left := nomatch left
  exhausted left := nomatch left
  left _ := by
    refine ⟨?_, same⟩
    cases result with
    | error e => simp [fails, dispositionOf, Except.toOption, Except.isOk, Except.toBool]
    | ok d =>
      obtain rfl := requeued d rfl
      simp [fails, dispositionOf, Except.toOption, Except.isOk, Except.toBool]

theorem Retried.truthful_iff (retried : Retried before after noted result held) :
    (dispositionOf result = .deadLettered ↔ after) ↔ ReportsTruly before noted held := by
  cases held with
  | lost =>
    obtain ⟨failed, same⟩ := retried.lost rfl
    have dead : dispositionOf result = .deadLettered := by
      cases result with
      | error e => rfl
      | ok d => cases failed
    simp only [dead, true_iff, ReportsTruly]
    exact same
  | exhausted =>
    obtain ⟨dead, same⟩ := retried.exhausted rfl
    simp only [dead, true_iff, ReportsTruly]
    exact same
  | left =>
    obtain ⟨dead, same⟩ := retried.left rfl
    rw [ReportsTruly, dead, same]

end Results

namespace RetryQueue

variable {σ Cmd : Type} {Resp : Cmd → Type} (q : RetryQueue σ Cmd Resp)

/-- What is noted of the commands of a retry. -/
def watched : Holding → σ → (c : Cmd) → Resp c → σ → Bool
  | .lost => fun _ _ _ _ => false
  | .exhausted => q.stores
  | .left => q.failure

/-- The calls of the failure handler on a queue. The observer may fail. -/
def serving (held : Holding) : Handler (HandlerWorld σ) ServiceCmd ServiceCmd.Answer
  | w, .retry deliveryId error delayMs, result, u =>
    Exec (q.handler.noting (q.watched held)) (q.retry deliveryId error delayMs)
      (w.queue, w.noted) result (u.queue, u.noted) ∧
        u.snapshots = w.snapshots ∧ u.events = w.events
  | w, .updateSnapshot snapshot, _, u => u = { w with snapshots := w.snapshots ++ [snapshot] }
  | w, .onEvent event, _, u => u = { w with events := w.events ++ [event] }
  | w, _, _, u => u = w

/-- The id of the delivery that a retry is about: the one that is leased, if there is one. -/
def subject (s : σ) (deliveryId : String) : String :=
  ((q.leased s deliveryId).map (·.deliveryId)).getD deliveryId

/-- Every retry of a delivery ends in one of the ways that are described. -/
def RetriesAt (s : σ) (deliveryId : String) : Prop :=
  ∀ error delayMs result t noted,
    Exec (q.handler.noting (q.watched (holding (q.leased s deliveryId))))
      (q.retry deliveryId error delayMs) (s, false) result (t, noted) →
    Retried (q.stored s (q.subject s deliveryId)) (q.stored t (q.subject s deliveryId)) noted
      result (holding (q.leased s deliveryId))

/-- What the handler publishes about a failed delivery is true exactly under the condition. -/
def TruthfulAt (s : σ) (delivery : RuntimeTaskDelivery) : Prop :=
  ∀ artifacts message u,
    Exec (q.serving (holding (q.leased s delivery.deliveryId)))
      (handleDeliveryFailure delivery artifacts message) (.start s) (.ok ()) u →
    (Truthful delivery.task u (q.stored u.queue (q.subject s delivery.deliveryId)) ↔
      ReportsTruly (q.stored s (q.subject s delivery.deliveryId)) u.noted
        (holding (q.leased s delivery.deliveryId)))

/-- The handler reports what it takes the result of the retry for. -/
theorem handleDeliveryFailure_reports {held : Holding} {s : σ} {delivery : RuntimeTaskDelivery}
    {artifacts : Option PreparedRuntimeArtifacts} {message : String} {result : AppResult Unit}
    {u : HandlerWorld σ}
    (run : Exec (q.serving held) (handleDeliveryFailure delivery artifacts message) (.start s)
      result u) :
    ∃ retried, Exec (q.handler.noting (q.watched held))
        (q.retry delivery.deliveryId message delivery.task.retryPolicy.retryDelayMs) (s, false)
        retried (u.queue, u.noted) ∧
      ∀ stored, Truthful delivery.task u stored ↔
        (dispositionOf retried = .deadLettered ↔ stored) := by
  simp only [handleDeliveryFailure, publish, observeEvent, Prog.bind_def, Prog.pure_def] at run
  obtain ⟨retried, v, ⟨called, snapshots, events⟩, run⟩ := exec_call.1 run
  obtain ⟨⟨⟩, _, rfl, run⟩ := exec_call.1 run
  obtain ⟨_, _, rfl, run⟩ := exec_call.1 run
  obtain ⟨-, rfl⟩ := exec_ret.1 run
  refine ⟨retried, called, fun stored => ?_⟩
  simp only [Truthful, snapshots, events, HandlerWorld.start, List.nil_append,
    List.mem_singleton, exists_eq_left]
  cases dispositionOf retried <;>
    simp [failureSnapshot, RuntimeTask.snapshot, snapshotEvent]

/-- A retry is described by what it does without a lease, with a lease that has no attempt left,
and with one that has. -/
theorem retriesAt_of {s : σ} {deliveryId : String}
    (lost : q.leased s deliveryId = none → ∀ error delayMs result t,
      Exec q.handler (q.retry deliveryId error delayMs) s result t →
      result.isOk = false ∧ (q.stored t deliveryId ↔ q.stored s deliveryId))
    (exhausted : ∀ delivery, q.leased s deliveryId = some delivery →
      delivery.attempt ≥ delivery.task.retryPolicy.maxAttempts →
      ∀ error delayMs result t noted,
      Exec (q.handler.noting q.stores) (q.retry deliveryId error delayMs) (s, false) result
        (t, noted) →
      (∀ d, result = .ok d → d = .deadLettered) ∧
        (q.stored t delivery.deliveryId ↔ q.stored s delivery.deliveryId ∨ noted = true))
    (left : ∀ delivery, q.leased s deliveryId = some delivery →
      ¬ delivery.attempt ≥ delivery.task.retryPolicy.maxAttempts →
      ∀ error delayMs result t noted,
      Exec (q.handler.noting q.failure) (q.retry deliveryId error delayMs) (s, false) result
        (t, noted) →
      (∀ d, result = .ok d → d = .requeued) ∧ noted = !result.isOk ∧
        (q.stored t delivery.deliveryId ↔ q.stored s delivery.deliveryId)) :
    q.RetriesAt s deliveryId := by
  intro error delayMs result t noted run
  cases held : q.leased s deliveryId with
  | none =>
    obtain ⟨failed, same⟩ := lost held _ _ _ _ run.of_noting
    rw [subject, held]
    exact .of_lost failed same
  | some delivery =>
    rw [held] at run
    rw [subject, held]
    by_cases none_left : delivery.attempt ≥ delivery.task.retryPolicy.maxAttempts
    · rw [holding, if_pos none_left] at run ⊢
      obtain ⟨dead, same⟩ := exhausted delivery held none_left _ _ _ _ _ run
      exact .of_exhausted dead same
    · rw [holding, if_neg none_left] at run ⊢
      obtain ⟨requeued, fails, same⟩ := left delivery held none_left _ _ _ _ _ run
      exact .of_left requeued fails same

theorem truthfulAt_of_retriesAt {s : σ} {delivery : RuntimeTaskDelivery}
    (retries : q.RetriesAt s delivery.deliveryId) : q.TruthfulAt s delivery := by
  intro artifacts message u run
  obtain ⟨result, called, published⟩ := q.handleDeliveryFailure_reports run
  rw [published]
  exact (retries _ _ _ _ _ called).truthful_iff

end RetryQueue

/-! ## The queue in memory -/

namespace InMemoryRuntimeTaskQueue

/-- A mutex that is found poisoned. -/
def failure : InMemoryRuntimeTaskQueue → (c : MemoryCmd) → c.Answer →
    InMemoryRuntimeTaskQueue → Bool
  | _, .locked _, none, _ => true
  | _, _, _, _ => false

def storesRecord : InMemoryRuntimeTaskQueue → (c : MemoryCmd) → c.Answer →
    InMemoryRuntimeTaskQueue → Bool
  | _, .locked (.pushDeadLetter _), some _, _ => true
  | _, _, _, _ => false

def retryQueue : RetryQueue InMemoryRuntimeTaskQueue MemoryCmd MemoryCmd.Answer where
  handler := poisonableMemoryHandler
  retry := retry
  leased s deliveryId := s.leased.lookup deliveryId
  stored s deliveryId := ∃ record ∈ s.deadLetters, record.deliveryId = deliveryId
  failure := failure
  stores := storesRecord

section Retries

variable {s u : InMemoryRuntimeTaskQueue} {b : Bool} {records : List RuntimeDeadLetterRecord}

theorem locked_fails {c : MemorySection}
    (keeps : ∀ s : InMemoryRuntimeTaskQueue, (c.run s).2.deadLetters = s.deadLetters) :
    FailsWhen poisonableMemoryHandler failure (·.deadLetters = records) (locked c) := by
  constructor
  intro s same
  refine safe_call_noting.2 ⟨same, ?_⟩
  rintro reply u (⟨rfl, rfl⟩ | ⟨rfl, rfl⟩)
  · exact ⟨same, rfl⟩
  · exact ⟨(keeps s).trans same, rfl⟩

theorem clock_fails :
    FailsWhen poisonableMemoryHandler failure (·.deadLetters = records) clock :=
  .call (fun _ _ _ same step => ⟨step ▸ same, rfl⟩) fun now => .ret now

theorem enqueueInternal_fails (queued : QueuedRuntimeTask) :
    FailsWhen poisonableMemoryHandler failure (·.deadLetters = records)
      (enqueueInternal queued) := by
  refine (locked_fails fun s => rfl).bind fun wasEmpty => ?_
  cases wasEmpty with
  | true => exact locked_fails fun s => rfl
  | false => exact .ret ()

/-- A record is stored exactly when the section that appends it is entered. -/
theorem storeDeadLetter_stores {delivery : RuntimeTaskDelivery} {error : String}
    {result : AppResult Unit}
    (run : Exec (poisonableMemoryHandler.noting storesRecord) (storeDeadLetter delivery error)
      (s, false) result (u, b)) :
    retryQueue.stored u delivery.deliveryId ↔
      retryQueue.stored s delivery.deliveryId ∨ b = true := by
  obtain ⟨now, t, same, run⟩ := exec_call_noting.1 run
  obtain rfl : t = s := same
  obtain ⟨reply, v, ⟨rfl, rfl⟩ | ⟨rfl, rfl⟩, run⟩ := exec_call_noting.1 run
  · obtain ⟨-, same⟩ := exec_fail.1 run
    cases same
    simp [storesRecord]
  · obtain ⟨-, same⟩ := exec_ret.1 run
    cases same
    have stored : retryQueue.stored (t.pushDeadLetter (delivery.deadLetter error now))
        delivery.deliveryId := ⟨_, List.mem_append_right _ (List.mem_singleton_self _), rfl⟩
    exact iff_of_true stored (.inr rfl)

theorem retriesAt (s : InMemoryRuntimeTaskQueue) (deliveryId : String) :
    retryQueue.RetriesAt s deliveryId := by
  refine retryQueue.retriesAt_of ?_ ?_ ?_
  · intro missing error delayMs result t called
    obtain ⟨taken, u, ⟨rfl, rfl⟩ | ⟨rfl, rfl⟩, run⟩ := exec_call.1 called
    · obtain ⟨rfl, rfl⟩ := exec_fail.1 run
      exact ⟨rfl, Iff.rfl⟩
    · have found : ((MemorySection.removeLease deliveryId).run s).1 = none := missing
      rw [found] at run
      obtain ⟨rfl, rfl⟩ := exec_fail.1 run
      exact ⟨rfl, Iff.rfl⟩
  · intro delivery held exhausted error delayMs result t noted called
    obtain ⟨taken, u, ⟨rfl, rfl⟩ | ⟨rfl, rfl⟩, run⟩ := exec_call_noting.1 called
    · obtain ⟨rfl, same⟩ := exec_fail.1 run
      cases same
      exact ⟨nofun, by simp [retryQueue, storesRecord]⟩
    · have found : ((MemorySection.removeLease deliveryId).run s).1 = some delivery := held
      rw [found] at run
      change Exec _ (ite (delivery.attempt ≥ _) _ _) ((s.removeLease deliveryId).2, false) _ _
        at run
      rw [if_pos exhausted] at run
      have appends {o : AppResult Unit} {v : InMemoryRuntimeTaskQueue} {b : Bool}
          (stored : Exec (poisonableMemoryHandler.noting storesRecord)
            (storeDeadLetter delivery error) ((s.removeLease deliveryId).2, false) o (v, b)) :
          retryQueue.stored v delivery.deliveryId ↔
            retryQueue.stored s delivery.deliveryId ∨ b = true := by
        have appended := storeDeadLetter_stores stored
        exact appended
      rcases exec_bind.1 run with ⟨_, ⟨v, b⟩, stored, last⟩ | ⟨e, stored, rfl⟩
      · obtain ⟨rfl, same⟩ := exec_ret.1 last
        cases same
        refine ⟨?_, appends stored⟩
        rintro _ ⟨⟩
        rfl
      · exact ⟨nofun, appends stored⟩
  · intro delivery held left error delayMs result t noted called
    obtain ⟨taken, u, ⟨rfl, rfl⟩ | ⟨rfl, rfl⟩, run⟩ := exec_call_noting.1 called
    · obtain ⟨rfl, same⟩ := exec_fail.1 run
      cases same
      exact ⟨nofun, rfl, Iff.rfl⟩
    · have found : ((MemorySection.removeLease deliveryId).run s).1 = some delivery := held
      rw [found] at run
      change Exec _ (ite (delivery.attempt ≥ _) _ _) ((s.removeLease deliveryId).2, false) _ _
        at run
      rw [if_neg left] at run
      have ended : t.deadLetters = s.deadLetters ∧ noted = !result.isOk := by
        refine FailsWhen.exec (I := (·.deadLetters = s.deadLetters)) ?_ rfl run
        refine clock_fails.bind fun now => clock_fails.bind fun fallback => ?_
        exact (enqueueInternal_fails _).bind fun _ => .ret _
      have requeued : ∀ d, result = .ok d → d = .requeued := by
        rintro d rfl
        refine Exec.returns (P := (· = .requeued)) ?_ run
        refine (Prog.returns_true _).bind fun _ _ => (Prog.returns_true _).bind fun _ _ => ?_
        exact (Prog.returns_true _).bind fun _ _ => .ret rfl
      refine ⟨requeued, ended.2, ?_⟩
      simp only [retryQueue, ended.1]

end Retries

end InMemoryRuntimeTaskQueue

end NexusCore.Runtime
