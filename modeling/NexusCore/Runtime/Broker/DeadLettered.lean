import NexusCore.Runtime.Broker.RabbitMqRetries
import NexusCore.Runtime.Broker.StreamRetries

/-!
# Reporting a task as dead

A retry that fails before it has stored anything leaves the task where it is, and the failure
handler reports it as dead-lettered all the same.
-/

namespace NexusCore.Runtime

open NexusCore.Lib RuntimeTaskService

/-- On every queue, the failure handler reports a delivery as dead-lettered exactly when a record of
it is stored, under the condition on how the retry stands and on what goes wrong in it. -/
theorem dead_letter_reports_iff (delivery : RuntimeTaskDelivery) :
    (∀ s, InMemoryRuntimeTaskQueue.retryQueue.TruthfulAt s delivery) ∧
    (∀ config events h key, Run (RedisStreams.RedisStep config) .fresh events h →
      (∀ leased, h.world.adapter.leased.lookup delivery.deliveryId = some leased →
        leased.topology.deadLetterStreamKey = key) →
      (RedisStreams.retryQueue key).TruthfulAt h.world delivery) ∧
    (∀ w, RabbitMq.retryQueue.TruthfulAt w delivery) ∧
    ∀ config w, (Nats.retryQueue config).TruthfulAt w delivery := by
  refine ⟨fun s => ?_, fun config events h key run home => ?_, fun w => ?_, fun config w => ?_⟩
  · exact RetryQueue.truthfulAt_of_retriesAt _ (InMemoryRuntimeTaskQueue.retriesAt s _)
  · refine RetryQueue.truthfulAt_of_retriesAt _ (RedisStreams.retriesAt fun leased held => ?_)
    obtain ⟨-, route, built⟩ := (RedisStreams.found_of_run run).leases _ leased held
    have key_eq := home leased held
    refine ⟨key_eq, ?_⟩
    rw [← key_eq, built]
    exact (RedisStreams.streamKey_ne_deadLetterStreamKey route).symm
  · exact RetryQueue.truthfulAt_of_retriesAt _ (RabbitMq.retriesAt w _)
  · exact RetryQueue.truthfulAt_of_retriesAt _ (Nats.retriesAt config w _)

/-! ## A retry on a server that answers, and on one that is lost -/

namespace RedisStreams

/-- The retry of the delivery that was reserved, on a server that answers or on one that is
lost. -/
def sampleRetry (lost : Bool) : AppResult RetryDisposition × RedisWorld × Bool :=
  (retry sampleLease.delivery.deliveryId "worker crashed"
    sampleLease.delivery.task.retryPolicy.retryDelayMs).eval (respondNoting lost)
    (sampleReserved.world, false)

def sampleSnapshot (lost : Bool) : RuntimeTaskSnapshot :=
  failureSnapshot sampleLease.delivery.task (dispositionOf (sampleRetry lost).1) none
    "worker crashed"

/-- What the failure handler leaves. -/
def sampleHandled (lost : Bool) : HandlerWorld RedisWorld where
  queue := (sampleRetry lost).2.1
  noted := (sampleRetry lost).2.2
  snapshots := [sampleSnapshot lost]
  events := [snapshotEvent sampleLease.delivery.task sampleLease.delivery.attempt
    (sampleSnapshot lost) (sampleSnapshot lost).artifacts (sampleSnapshot lost).outcome]

abbrev sampleQueue : RetryQueue RedisWorld RedisOp RedisOp.Answer :=
  retryQueue sampleLease.topology.deadLetterStreamKey

/-- The delivery has attempts left. -/
theorem sample_left :
    holding (sampleQueue.leased sampleReserved.world sampleLease.delivery.deliveryId) = .left := by
  decide +kernel

theorem exec_sampleHandled (lost : Bool) :
    Exec (sampleQueue.serving
        (holding (sampleQueue.leased sampleReserved.world sampleLease.delivery.deliveryId)))
      (handleDeliveryFailure sampleLease.delivery none "worker crashed")
      (.start sampleReserved.world) (.ok ()) (sampleHandled lost) := by
  rw [sample_left]
  have retried : Exec (redis.noting failure) (retry sampleLease.delivery.deliveryId
      "worker crashed" sampleLease.delivery.task.retryPolicy.retryDelayMs)
      (sampleReserved.world, false) (sampleRetry lost).1 (sampleRetry lost).2 :=
    Exec.of_eval (v := id) (respondNoting_allowed lost) _ _
  have called : sampleQueue.serving .left (.start sampleReserved.world)
      (.retry sampleLease.delivery.deliveryId "worker crashed"
        sampleLease.delivery.task.retryPolicy.retryDelayMs) (sampleRetry lost).1
      ⟨(sampleRetry lost).2.1, (sampleRetry lost).2.2, [], []⟩ := ⟨retried, rfl, rfl⟩
  have updated : sampleQueue.serving .left
      ⟨(sampleRetry lost).2.1, (sampleRetry lost).2.2, [], []⟩
      (.updateSnapshot (sampleSnapshot lost)) ()
      ⟨(sampleRetry lost).2.1, (sampleRetry lost).2.2, [sampleSnapshot lost], []⟩ := rfl
  have observed : sampleQueue.serving .left
      ⟨(sampleRetry lost).2.1, (sampleRetry lost).2.2, [sampleSnapshot lost], []⟩
      (.onEvent (snapshotEvent sampleLease.delivery.task sampleLease.delivery.attempt
        (sampleSnapshot lost) (sampleSnapshot lost).artifacts (sampleSnapshot lost).outcome))
      (.ok ())
      ⟨(sampleRetry lost).2.1, (sampleRetry lost).2.2, [sampleSnapshot lost],
        [snapshotEvent sampleLease.delivery.task sampleLease.delivery.attempt
          (sampleSnapshot lost) (sampleSnapshot lost).artifacts (sampleSnapshot lost).outcome]⟩ :=
    rfl
  exact .call called (.call updated (.call observed (.ret _ _)))

theorem sample_found : sampleReserved.world.adapter.leased.lookup
    sampleLease.delivery.deliveryId = some sampleLease := by
  have same : sampleLease.delivery.deliveryId = sampleId := by decide +kernel
  rw [same]
  exact sampleReserved_lookup

/-- A retry that succeeds is reported as one. -/
theorem dead_letter_reports_iff_of_sample :
    Truthful sampleLease.delivery.task (sampleHandled false)
      (sampleQueue.stored (sampleHandled false).queue
        (sampleQueue.subject sampleReserved.world sampleLease.delivery.deliveryId)) := by
  have run : Run (RedisStep sampleConfig) .fresh _ sampleReserved :=
    .step (step_callAt _ _ _ _) (.step (step_callAt _ _ _ _) (.done _))
  refine ((dead_letter_reports_iff sampleLease.delivery).2.1 _ _ _
    sampleLease.topology.deadLetterStreamKey run ?_ none _ _ (exec_sampleHandled false)).2 ?_
  · intro leased held
    rw [sample_found] at held
    cases held
    rfl
  · have unnoted : (sampleHandled false).noted = false := by decide +kernel
    have empty : sampleReserved.world.keys.contents.entries
        sampleLease.topology.deadLetterStreamKey = [] := by decide +kernel
    rw [sample_left, ReportsTruly, unnoted]
    simp [retryQueue, Recorded, empty]

/-- The server is lost at the retry of a delivery with attempts left: the task is reported as
dead, no record of it is stored, and the server still waits for the acknowledgement of its entry. -/
theorem lost_retry_reports_dead :
    Exec (sampleQueue.serving
        (holding (sampleQueue.leased sampleReserved.world sampleLease.delivery.deliveryId)))
      (handleDeliveryFailure sampleLease.delivery none "worker crashed")
      (.start sampleReserved.world) (.ok ()) (sampleHandled true) ∧
    (∃ e ∈ (sampleHandled true).events, e.taskId = "task-1" ∧ e.status = .deadLettered) ∧
    Pending sampleLease (sampleHandled true).queue ∧
    ¬ Recorded sampleLease.topology.deadLetterStreamKey sampleLease.delivery.deliveryId
      (sampleHandled true).queue ∧
    ¬ Truthful sampleLease.delivery.task (sampleHandled true)
      (sampleQueue.stored (sampleHandled true).queue
        (sampleQueue.subject sampleReserved.world sampleLease.delivery.deliveryId)) := by
  have empty : (sampleHandled true).queue.keys.contents.entries
      sampleLease.topology.deadLetterStreamKey = [] := by decide +kernel
  have pending : sampleLease.entryId ∈ (sampleHandled true).queue.keys.pendingAt
      sampleLease.topology.streamKey sampleLease.topology.consumerGroup := by decide +kernel
  have named : sampleLease.delivery.task.taskId = "task-1" := by decide +kernel
  have dead : dispositionOf (sampleRetry true).1 = .deadLettered := by decide +kernel
  have reported : ∃ e ∈ (sampleHandled true).events, e.taskId = "task-1" ∧
      e.status = .deadLettered := by
    refine ⟨_, List.mem_singleton_self _, ?_⟩
    simp [sampleSnapshot, dead, failureSnapshot, RuntimeTask.snapshot, snapshotEvent, named]
  refine ⟨exec_sampleHandled true, reported, pending, ?_, ?_⟩
  · simp [Recorded, empty]
  · intro truthful
    have stored := truthful.2.1 (by rw [named]; exact reported)
    simp [retryQueue, Recorded, empty] at stored

end RedisStreams

end NexusCore.Runtime
