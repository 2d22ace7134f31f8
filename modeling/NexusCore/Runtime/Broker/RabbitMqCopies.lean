import NexusCore.Runtime.Broker.RabbitMqWorld

/-!
# Copies of a task in RabbitMQ

A settle operation takes the lease out of the adapter's memory before it publishes the next
copy of the task, and the acknowledgement that follows looks the lease up again: there is none,
so the original message is never acknowledged. Every `retry` and every `reject` that returns
therefore leaves one copy more in the broker than there was, and the original goes back to its
work queue when the channel closes.
-/

namespace NexusCore.Runtime

open NexusCore.Lib RabbitMqPayload

namespace RabbitMq

/-- From one world to the other the messages with a property have become `n` more, no more of
them wait for their acknowledgement, no lease has come up, and no route has gone. -/
structure Adds (holds : RabbitMqPayload → Bool) (deliveryId : String) (n : Nat)
    (w u : RabbitMqWorld) : Prop where
  copies : u.server.copies holds = w.server.copies holds + n
  unacked : u.server.unackedCopies holds ≤ w.server.unackedCopies holds
  lease : w.leased.find deliveryId = none → u.leased.find deliveryId = none
  routed : ∀ exchange routingKey, w.server.Routed exchange routingKey →
    u.server.Routed exchange routingKey

section Programs

variable {holds : RabbitMqPayload → Bool} {task : RuntimeTask} {deliveryId : String}
  {w u v : RabbitMqWorld} {m n : Nat}

theorem Adds.refl (w : RabbitMqWorld) : Adds holds deliveryId 0 w w :=
  ⟨rfl, le_rfl, fun gone => gone, fun _ _ routed => routed⟩

theorem Adds.trans (first : Adds holds deliveryId m w u) (second : Adds holds deliveryId n u v) :
    Adds holds deliveryId (m + n) w v where
  copies := by rw [second.copies, first.copies, Nat.add_assoc]
  unacked := second.unacked.trans first.unacked
  lease gone := second.lease (first.lease gone)
  routed exchange routingKey routed :=
    second.routed exchange routingKey (first.routed exchange routingKey routed)

theorem Adds.frame (adds : Adds holds deliveryId n w u) (server : v.server = u.server)
    (leased : v.leased = u.leased) : Adds holds deliveryId n w v where
  copies := server ▸ adds.copies
  unacked := server ▸ adds.unacked
  lease gone := leased ▸ adds.lease gone
  routed := server ▸ adds.routed

theorem Executed.queueBind_routed {channel : Nat} {queue exchange routingKey : String}
    {reply : Unit} (executed : Executed w (.queueBind channel queue exchange routingKey) reply u) :
    u.server.Routed exchange routingKey := by
  obtain ⟨lost, server, executed, rfl⟩ := executed
  exact Amqp.Server.queueBind_routed executed

/-- A confirmed publication of a copy of the task adds the copy. -/
theorem Executed.awaitConfirm_adds {channel : Nat} {exchange routingKey : String}
    {payload : RabbitMqPayload} {expirationMs : Option UInt64} {reply : Amqp.Confirmation}
    (executed : Executed w (.awaitConfirm channel exchange routingKey payload expirationMs) reply u)
    (routed : w.server.Routed exchange routingKey) (copy : holds payload = true) :
    Adds holds deliveryId 1 w u := by
  obtain ⟨lost, server, executed, rfl⟩ := executed
  have stored := (Amqp.Server.awaitConfirm_stores executed).1
  obtain ⟨queue, bound⟩ : (w.server.closeAll lost).Routed exchange routingKey :=
    Amqp.Server.routed_closeAll routed
  refine ⟨?_, ?_, fun gone => gone, ?_⟩
  · rw [stored, Amqp.Server.copies_store bound, copy, Amqp.Server.copies_closeAll]
    rfl
  · rw [stored, Amqp.Server.unackedCopies_store]
    exact Amqp.Server.unackedCopies_closeAll_le lost
  · intro exchange' routingKey' before
    rw [stored]
    exact Amqp.Server.routed_store (Amqp.Server.routed_closeAll before)

/-- Commands that set things up add no copy. -/
theorem adds_setup {c : Amqp.Cmd RabbitMqPayload} (setup : c.IsSetup) {reply : c.Reply}
    (executed : Executed w c reply u) : Adds holds deliveryId 0 w u := by
  obtain ⟨lost, server, executed, rfl⟩ := executed
  obtain ⟨ready, unacked, routed⟩ := Amqp.Server.execute_setup executed setup
  have copies : server.copies holds = w.server.copies holds := by
    rw [Amqp.Server.copies, ready, unacked]
    exact Amqp.Server.copies_closeAll lost
  refine ⟨copies, ?_, fun gone => gone, ?_⟩
  · rw [Amqp.Server.unackedCopies, unacked]
    exact Amqp.Server.unackedCopies_closeAll_le lost
  · intro exchange routingKey before
    exact routed exchange routingKey (Amqp.Server.routed_closeAll before)

section Steps

variable (holds deliveryId)

theorem setup_ends {c : Amqp.Cmd RabbitMqPayload} {message : String} (setup : c.IsSetup) :
    Ends (fun _ u => Adds holds deliveryId 0 w u) (withTransportResult c message) w :=
  (withTransportResult_ends (by rintro _ _ rfl; exact setup)).mono fun _ _ _ executed =>
    adds_setup setup executed

theorem queueBind_ends {channel : Nat} {queue exchange routingKey message : String} :
    Ends (fun _ u => Adds holds deliveryId 0 w u ∧ u.server.Routed exchange routingKey)
      (withTransportResult (.queueBind channel queue exchange routingKey) message) w :=
  (withTransportResult_ends (by simp)).mono fun _ _ _ executed =>
    ⟨adds_setup (by trivial) executed, executed.queueBind_routed⟩

theorem connectTransport_ends :
    Ends (fun _ u => Adds holds deliveryId 0 w u) connectTransport w := by
  simp only [connectTransport, Prog.bind_def, Prog.pure_def]
  refine (connectStep_ends (by trivial)).bind ?_
  intro _ u _ connected
  refine (connectStep_ends (by trivial)).bind ?_
  intro channel v _ created
  refine (connectStep_ends (by trivial)).bind ?_
  intro _ x _ confirmed
  have first : Adds holds deliveryId 0 w u := adds_setup (by trivial) connected
  have second : Adds holds deliveryId 0 u v := adds_setup (by trivial) created
  have third : Adds holds deliveryId 0 v x := adds_setup (by trivial) confirmed
  exact Keeps.ret trivial ((first.trans second).trans third)

theorem reconnect_ends : Ends (fun _ u => Adds holds deliveryId 0 w u) reconnect w := by
  simp only [reconnect, Prog.bind_def]
  refine (connectTransport_ends holds deliveryId).bind ?_
  intro channel u _ connected
  refine Keeps.call trivial ?_
  rintro ⟨⟩ _ ⟨rfl, -⟩
  exact Keeps.ret trivial (connected.frame rfl rfl)

theorem activeTransport_ends : Ends (fun _ u => Adds holds deliveryId 0 w u) activeTransport w := by
  simp only [activeTransport, Prog.bind_def, Prog.pure_def]
  refine Keeps.bind (Q := fun _ u => Adds holds deliveryId 0 w u) (locked_ends ?_) ?_
  · have enter : Adds holds deliveryId 0 w { w with locked := .transport :: w.locked } :=
      (Adds.refl w).frame rfl rfl
    refine Keeps.mono (Q := fun _ u => Adds holds deliveryId 0 w u) ?_
      fun _ _ _ adds => adds.frame rfl rfl
    refine Keeps.call trivial ?_
    rintro transport _ ⟨⟨-, rfl⟩, -⟩
    have again := (reconnect_ends (w := { w with locked := .transport :: w.locked })
      holds deliveryId).mono fun _ _ _ adds => enter.trans adds
    cases transport with
    | none => exact again
    | some channel =>
      refine Keeps.call trivial ?_
      rintro (_ | _) _ ⟨rfl, -⟩
      · exact again
      · exact Keeps.ret trivial enter
  · intro transport u _ adds
    cases transport.2 with
    | false => exact Keeps.ret trivial adds
    | true =>
      refine clearLeases_ends.bind ?_
      rintro ⟨⟩ _ - rfl
      refine Keeps.ret trivial ⟨adds.copies, adds.unacked, fun _ => ?_, adds.routed⟩
      exact RabbitMqLeases.find_empty deliveryId

/-- Once the topology is declared, its three exchanges lead to queues. -/
theorem ensureTopology_ends (channel : Nat) (topology : RabbitMqRouteTopology) :
    Ends (fun _ u => Adds holds deliveryId 0 w u ∧
      u.server.Routed topology.exchange topology.routingKey ∧
      u.server.Routed topology.retryExchange topology.retryRoutingKey ∧
      u.server.Routed topology.deadLetterExchange topology.deadLetterRoutingKey)
      (ensureTopology channel topology) w := by
  simp only [ensureTopology, Prog.bind_def, Prog.pure_def]
  refine (setup_ends holds deliveryId (by trivial)).bind ?_
  intro _ u1 _ step1
  refine (setup_ends holds deliveryId (by trivial)).bind ?_
  intro _ u2 _ step2
  refine (setup_ends holds deliveryId (by trivial)).bind ?_
  intro _ u3 _ step3
  refine (setup_ends holds deliveryId (by trivial)).bind ?_
  intro _ u4 _ step4
  refine (queueBind_ends holds deliveryId).bind ?_
  rintro _ u5 - ⟨step5, work⟩
  refine (setup_ends holds deliveryId (by trivial)).bind ?_
  intro _ u6 _ step6
  refine (queueBind_ends holds deliveryId).bind ?_
  rintro _ u7 - ⟨step7, retry⟩
  refine (setup_ends holds deliveryId (by trivial)).bind ?_
  intro _ u8 _ step8
  refine (queueBind_ends holds deliveryId).bind ?_
  rintro _ u9 - ⟨step9, dead⟩
  have first := ((step1.trans step2).trans (step3.trans step4)).trans step5
  have rest := (step6.trans step7).trans (step8.trans step9)
  have last := step8.trans step9
  exact Keeps.ret trivial ⟨first.trans rest, rest.routed _ _ work, last.routed _ _ retry, dead⟩

/-- A publication adds one copy of the task it carries. -/
theorem publishRawPayload_ends {topology : RabbitMqRouteTopology} {exchange routingKey : String}
    {payload : RabbitMqPayload} {expirationMs : Option UInt64}
    (target : ∀ server : Amqp.Server RabbitMqPayload,
      server.Routed topology.exchange topology.routingKey ∧
      server.Routed topology.retryExchange topology.retryRoutingKey ∧
      server.Routed topology.deadLetterExchange topology.deadLetterRoutingKey →
      server.Routed exchange routingKey) (copy : holds payload = true) :
    Ends (fun _ u => Adds holds deliveryId 1 w u)
      (publishRawPayload topology exchange routingKey payload expirationMs) w := by
  simp only [publishRawPayload, publishConfirmed, Prog.bind_def, Prog.pure_def]
  refine (activeTransport_ends holds deliveryId).bind ?_
  intro channel u1 _ active
  refine (ensureTopology_ends holds deliveryId channel topology).bind ?_
  rintro _ u2 - ⟨ensured, routed⟩
  refine (setup_ends holds deliveryId (by trivial)).bind ?_
  intro _ u3 _ sent
  refine (withTransportResult_ends (by simp)).bind ?_
  intro _ u4 _ executed
  have confirmed : Adds holds deliveryId 1 u3 u4 :=
    executed.awaitConfirm_adds (sent.routed _ _ (target u2.server routed)) copy
  exact Keeps.ret trivial (((active.trans ensured).trans sent).trans confirmed)

end Steps

/-- A lease that is not there is not acknowledged. -/
theorem ackBrokerDelivery_ends (holds : RabbitMqPayload → Bool)
    (gone : w.leased.find deliveryId = none) :
    Ends (fun _ u => Adds holds deliveryId 0 w u) (ackBrokerDelivery deliveryId) w := by
  simp only [ackBrokerDelivery, Prog.bind_def, Prog.pure_def]
  refine (activeTransport_ends holds deliveryId).bind ?_
  intro channel u _ active
  refine takeLease_ends.bind ?_
  rintro leased _ - ⟨rfl, rfl⟩
  rw [active.lease gone]
  refine Keeps.ret trivial ⟨active.copies, active.unacked, fun _ => ?_, active.routed⟩
  exact RabbitMqLeases.find_erase _ _

variable {leased : RabbitMqLeasedDelivery}

theorem deadLetter_ends {error : String} (keyed : leased.delivery.deliveryId = deliveryId)
    (copy : ∀ now, holds (.record (buildDeadLetterRecord leased.delivery error now)) = true)
    (gone : w.leased.find deliveryId = none) :
    Ends (fun _ u => Adds holds deliveryId 1 w u) (deadLetter leased error) w := by
  simp only [deadLetter, publishDeadLetterRecord, Prog.bind_def]
  refine nowMs_ends.bind ?_
  rintro now w' - rfl
  refine (publishRawPayload_ends holds deliveryId (fun _ routed => routed.2.2) (copy now)).bind ?_
  intro _ u _ published
  rw [keyed]
  refine (ackBrokerDelivery_ends holds (published.lease gone)).mono ?_
  intro _ v _ settled
  exact published.trans settled

theorem requeue_ends {error : String} (delayMs : UInt64)
    (keyed : leased.delivery.deliveryId = deliveryId)
    (copy : holds (.envelope (nextAttempt leased.delivery error)) = true)
    (gone : w.leased.find deliveryId = none) :
    Ends (fun _ u => Adds holds deliveryId 1 w u) (requeue leased error delayMs) w := by
  simp only [requeue, publishEnvelope, Prog.bind_def]
  refine (publishRawPayload_ends holds deliveryId (fun _ routed => routed.2.1) copy).bind ?_
  intro _ u _ published
  rw [keyed]
  refine (ackBrokerDelivery_ends holds (published.lease gone)).mono ?_
  intro _ v _ settled
  exact published.trans settled

theorem carries_record (delivery : RuntimeTaskDelivery) (error : String) (now : UInt64) :
    carries delivery.task (.record (buildDeadLetterRecord delivery error now)) = true := by
  simp [carries, task?, buildDeadLetterRecord]

theorem carries_envelope (delivery : RuntimeTaskDelivery) (error : String) :
    carries delivery.task (.envelope (nextAttempt delivery error)) = true := by
  simp [carries, task?, nextAttempt]

/-- What a settle operation that returns has done to the copies of a task: there is one more,
and the ones that waited for their acknowledgement still do, or are back in a queue. -/
def OneMore (task : RuntimeTask) (w u : RabbitMqWorld) : Prop :=
  u.server.copies (carries task) = w.server.copies (carries task) + 1 ∧
    u.server.unackedCopies (carries task) ≤ w.server.unackedCopies (carries task)

theorem Adds.oneMore {w' : RabbitMqWorld} (adds : Adds (carries task) deliveryId 1 u v)
    (server : u.server = w'.server) : OneMore task w' v := by
  rw [OneMore, ← server]
  exact ⟨adds.copies, adds.unacked⟩

theorem retry_ends (held : w.leased.find deliveryId = some leased) (error : String)
    (delayMs : UInt64) :
    Ends (fun _ u => OneMore leased.delivery.task w u) (retry deliveryId error delayMs) w := by
  have keyed := w.leased.keyed deliveryId leased held
  simp only [retry, Prog.bind_def, Prog.pure_def]
  refine takeLease_ends.bind ?_
  rintro _ u - ⟨rfl, rfl⟩
  have gone := RabbitMqLeases.find_erase w.leased deliveryId
  rw [held]
  dsimp only
  split_ifs
  · refine (deadLetter_ends keyed (carries_record _ error) gone).bind ?_
    intro _ v _ adds
    exact Keeps.ret trivial (adds.oneMore rfl)
  · refine (requeue_ends delayMs keyed (carries_envelope _ error) gone).bind ?_
    intro _ v _ adds
    exact Keeps.ret trivial (adds.oneMore rfl)

theorem reject_ends (held : w.leased.find deliveryId = some leased) (error : String) :
    Ends (fun _ u => OneMore leased.delivery.task w u) (reject deliveryId error) w := by
  have keyed := w.leased.keyed deliveryId leased held
  simp only [reject, Prog.bind_def, Prog.pure_def]
  refine takeLease_ends.bind ?_
  rintro _ u - ⟨rfl, rfl⟩
  have gone := RabbitMqLeases.find_erase w.leased deliveryId
  rw [held]
  refine (deadLetter_ends keyed (carries_record _ error) gone).mono ?_
  intro _ v _ adds
  exact adds.oneMore rfl

end Programs

/-- One copy of the task is left in the broker, and none that a closing channel puts back. -/
def SettledOnce (server : Amqp.Server RabbitMqPayload) (task : RuntimeTask) : Prop :=
  server.copies (carries task) = 1 ∧ ∀ channel,
    (server.close channel).readyCopies (carries task) = server.readyCopies (carries task)

theorem settledOnce_iff_of_oneMore {task : RuntimeTask} {w u : RabbitMqWorld}
    (more : OneMore task w u) :
    SettledOnce u.server task ↔ w.server.copies (carries task) = 0 := by
  have total := Amqp.Server.copies_eq w.server (carries task)
  constructor
  · intro settled
    have one := settled.1
    rw [more.1] at one
    omega
  · intro none
    have unacked := more.2
    refine ⟨by rw [more.1, none], fun channel => ?_⟩
    exact Amqp.Server.readyCopies_close_of_unacked channel (by omega)

/-- A `retry` or `reject` of a leased delivery that returns leaves exactly one copy of the task,
none of which can be put back, exactly when the broker had none to begin with. The broker is one
that stores what it confirms. -/
theorem settled_once_iff {w : RabbitMqWorld} {deliveryId : String}
    {leased : RabbitMqLeasedDelivery} (held : w.leased.find deliveryId = some leased) :
    (∀ error delayMs disposition u,
      Exec confirming (retry deliveryId error delayMs) w (.ok disposition) u →
      (SettledOnce u.server leased.delivery.task ↔
        w.server.copies (carries leased.delivery.task) = 0)) ∧
    ∀ error u, Exec confirming (reject deliveryId error) w (.ok ()) u →
      (SettledOnce u.server leased.delivery.task ↔
        w.server.copies (carries leased.delivery.task) = 0) := by
  constructor
  · intro error delayMs disposition u run
    have ended := Safe.exec (retry_ends held error delayMs) run
    exact settledOnce_iff_of_oneMore (ended.2 disposition rfl)
  · intro error u run
    have ended := Safe.exec (reject_ends held error) run
    exact settledOnce_iff_of_oneMore (ended.2 () rfl)

/-! ## A run on a broker that answers -/

def sampleConfig : RabbitMqQueueConfig := ⟨"nexus.tasks", "nexus"⟩

def sampleEnqueued : RabbitMqWorld :=
  after (enqueue sampleConfig (sampleTask "task-1" "oj" 3)) .fresh

def sampleReserved : RabbitMqWorld := after (reserve []) sampleEnqueued

def sampleRetried : RabbitMqWorld := after (retry "rmq-task-1-1" "worker crashed" 0) sampleReserved

def sampleDelivery : RuntimeTaskDelivery where
  deliveryId := "rmq-task-1-1"
  attempt := 1
  leasedUntil := none
  lastError := none
  task := sampleTask "task-1" "oj" 3

def sampleLeased : RabbitMqLeasedDelivery where
  deliveryTag := ⟨1, 1⟩
  topology := buildRouteTopology sampleConfig "oj" "fast"
  delivery := sampleDelivery

theorem sampleReserved_find :
    sampleReserved.leased.find "rmq-task-1-1" = some sampleLeased := by
  decide +kernel

theorem exec_sampleRetried : Exec confirming (retry "rmq-task-1-1" "worker crashed" 0)
    sampleReserved (.ok .requeued) sampleRetried :=
  exec_confirming_after (by decide +kernel)

theorem settled_once_iff_of_sample :
    SettledOnce sampleRetried.server (sampleTask "task-1" "oj" 3) ↔
      sampleReserved.server.copies (carries (sampleTask "task-1" "oj" 3)) = 0 :=
  (settled_once_iff sampleReserved_find).1 _ _ _ _ exec_sampleRetried

/-- A task that was enqueued, reserved and retried is in the broker twice, and closing the
channel puts the delivery that was retried back in the work queue. -/
theorem retry_leaves_two_copies :
    Exec rabbitmq (enqueue sampleConfig (sampleTask "task-1" "oj" 3)) .fresh (.ok ())
      sampleEnqueued ∧
    Exec rabbitmq (reserve []) sampleEnqueued (.ok (some sampleDelivery)) sampleReserved ∧
    Exec confirming (retry sampleDelivery.deliveryId "worker crashed" 0) sampleReserved
      (.ok .requeued) sampleRetried ∧
    sampleRetried.server.copies (carries sampleDelivery.task) = 2 ∧
    (sampleRetried.server.close 1).ready.any (fun message =>
      message.queue == "nexus.oj.fast" && carries sampleDelivery.task message.payload) = true ∧
    ¬ SettledOnce sampleRetried.server sampleDelivery.task := by
  have two : sampleRetried.server.copies (carries sampleDelivery.task) = 2 := by decide +kernel
  refine ⟨exec_after (by decide +kernel), exec_after (by decide +kernel), exec_sampleRetried, two,
    by decide +kernel, ?_⟩
  intro settled
  have one := settled.1
  omega

end RabbitMq

end NexusCore.Runtime
