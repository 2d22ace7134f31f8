import NexusCore.Runtime.Broker.RabbitMqCopies
import NexusCore.Runtime.Retrying

/-!
# Retries on RabbitMQ

What a retry does to the dead letters in the broker, wherever it fails. The lease is gone before
the next copy is published, so nothing is acknowledged.
-/

namespace NexusCore.Runtime

open NexusCore.Lib

namespace RabbitMq

def isRecordOf (deliveryId : String) : RabbitMqPayload → Bool
  | .record record => record.deliveryId == deliveryId
  | .envelope _ | .route _ => false

/-- A command that fails. -/
def failure : RabbitMqWorld → (op : RabbitMqOp) → op.Answer → RabbitMqWorld → Bool
  | _, .command _, .error _, _ => true
  | _, _, _, _ => false

/-- A record that the broker has stored, whether or not it says so. -/
def storesRecord : RabbitMqWorld → (op : RabbitMqOp) → op.Answer → RabbitMqWorld → Bool
  | w, .command (.awaitConfirm _ _ _ (.record _) _), _, u =>
    w.server.copies (fun _ => true) < u.server.copies fun _ => true
  | _, _, _, _ => false

def retryQueue : RetryQueue RabbitMqWorld RabbitMqOp RabbitMqOp.Answer where
  handler := rabbitmq
  retry := retry
  leased w deliveryId := (w.leased.find deliveryId).map (·.delivery)
  stored w deliveryId := 0 < w.server.copies (isRecordOf deliveryId)
  failure := failure
  stores := storesRecord

section Failures

variable {α β : Type} {p : RabbitMqProg α}

/-- The programs that fail exactly when a command fails. -/
abbrev FailsPlainly (p : RabbitMqProg α) : Prop := FailsWhen rabbitmq failure (fun _ => True) p

theorem quiet_fails {op : RabbitMqOp} {k : op.Answer → RabbitMqProg α}
    (quiet : ∀ w answer u, failure w op answer u = false) (rest : ∀ answer, FailsPlainly (k answer)) :
    FailsPlainly (.call op k) :=
  .call (fun w answer u _ _ => ⟨trivial, quiet w answer u⟩) rest

theorem locked_fails {mutex : RabbitMqMutex} (inner : FailsPlainly p) :
    FailsPlainly (locked mutex p) := by
  refine quiet_fails (fun _ _ _ => rfl) fun _ => ⟨fun w kept => ?_⟩
  apply Safe.bind
  apply Safe.attempt
  refine (inner.safe w kept).mono (fun _ kept => kept) ?_
  rintro result ⟨u, noted⟩ ⟨-, same⟩
  refine safe_call_noting.2 ⟨trivial, fun _ v _ => ?_⟩
  cases result with
  | error error => exact ⟨trivial, by simpa [failure] using same⟩
  | ok a => exact ⟨trivial, by simpa [failure] using same⟩

theorem connectStep_fails {c : Amqp.Cmd RabbitMqPayload} (message : String) :
    FailsPlainly (connectStep c message) := by
  refine ⟨fun w _ => safe_call_noting.2 ⟨trivial, ?_⟩⟩
  rintro (error | reply) u -
  · exact ⟨trivial, rfl⟩
  · exact ⟨trivial, rfl⟩

/-- What is noted stays noted while the channel is given up. -/
theorem withTransportResult_fails {c : Amqp.Cmd RabbitMqPayload} (message : String) :
    FailsPlainly (withTransportResult c message) := by
  refine ⟨fun w _ => safe_call_noting.2 ⟨trivial, ?_⟩⟩
  rintro (error | reply) u -
  · have noted : Safe (rabbitmq.noting failure) (fun t => t.2 = true) (fun _ t => t.2 = true)
        invalidateTransport (u, true) := by
      refine Safe.invariant ?_ _ rfl
      rintro ⟨v, b⟩ op answer ⟨x, b'⟩ before ⟨-, same⟩
      exact same.trans (by rw [show b = true from before, Bool.true_or])
    apply Safe.bind
    refine noted.mono (fun _ _ => trivial) ?_
    rintro (e | ⟨⟩) t kept
    · exact ⟨trivial, kept⟩
    · exact ⟨trivial, kept⟩
  · exact ⟨trivial, rfl⟩

theorem reconnect_fails : FailsPlainly reconnect := by
  refine FailsWhen.bind ?_ fun channel => quiet_fails (fun _ _ _ => rfl) fun _ => .ret _
  refine (connectStep_fails _).bind fun _ => (connectStep_fails _).bind fun channel => ?_
  exact (connectStep_fails _).bind fun _ => .ret _

theorem clearLeases_fails : FailsPlainly clearLeases :=
  locked_fails (quiet_fails (fun _ _ _ => rfl) fun _ => .ret _)

theorem activeTransport_fails : FailsPlainly activeTransport := by
  refine FailsWhen.bind (locked_fails (quiet_fails (fun _ _ _ => rfl) ?_)) ?_
  · rintro (_ | channel)
    · exact reconnect_fails
    · refine quiet_fails (fun _ _ _ => rfl) ?_
      rintro (_ | _)
      · exact reconnect_fails
      · exact .ret _
  · rintro ⟨channel, _ | _⟩
    · exact .ret _
    · exact clearLeases_fails.bind fun _ => .ret _

theorem ensureTopology_fails (channel : Nat) (topology : RabbitMqRouteTopology) :
    FailsPlainly (ensureTopology channel topology) := by
  refine (withTransportResult_fails _).bind fun _ => (withTransportResult_fails _).bind fun _ => ?_
  refine (withTransportResult_fails _).bind fun _ => (withTransportResult_fails _).bind fun _ => ?_
  refine (withTransportResult_fails _).bind fun _ => (withTransportResult_fails _).bind fun _ => ?_
  refine (withTransportResult_fails _).bind fun _ => (withTransportResult_fails _).bind fun _ => ?_
  exact (withTransportResult_fails _).bind fun _ => .ret _

theorem publishRawPayload_fails (topology : RabbitMqRouteTopology) (exchange routingKey : String)
    (payload : RabbitMqPayload) (expirationMs : Option UInt64) :
    FailsPlainly (publishRawPayload topology exchange routingKey payload expirationMs) := by
  refine activeTransport_fails.bind fun channel => ?_
  refine (ensureTopology_fails channel topology).bind fun _ => ?_
  refine (withTransportResult_fails _).bind fun _ => ?_
  exact (withTransportResult_fails _).bind fun _ => .ret _

theorem ackBrokerDelivery_fails (deliveryId : String) :
    FailsPlainly (ackBrokerDelivery deliveryId) := by
  refine activeTransport_fails.bind fun channel => ?_
  refine FailsWhen.bind (locked_fails (quiet_fails (fun _ _ _ => rfl) fun _ => .ret _)) ?_
  rintro (_ | leased)
  · exact .ret _
  · exact (withTransportResult_fails _).bind fun _ => .ret _

end Failures

/-- The operations that store nothing but some payloads, settle nothing and add no lease. -/
def Publishes (allowed : RabbitMqPayload → Prop) : RabbitMqOp → Prop
  | .command (.awaitConfirm _ _ _ payload _) => allowed payload
  | .command (.basicAck ..) | .command (.basicGet ..) | .insertLease _ => False
  | _ => True

section Records

variable {allowed : RabbitMqPayload → Prop} {deliveryId : String} {w u : RabbitMqWorld}

theorem harmless_publishes (op : RabbitMqOp) (harmless : Harmless op)
    (_ : ∀ deliveryId, op ≠ .removeLease deliveryId) : Publishes allowed op := by
  cases op with
  | command c => cases c <;> first | exact harmless.elim | trivial
  | insertLease leased => exact harmless.elim
  | _ => trivial

/-- Such an operation adds no lease, and it stores nothing or one payload. -/
theorem publishes_step (deliveryId : String) {op : RabbitMqOp} (publishes : Publishes allowed op) {answer : op.Answer}
    (step : rabbitmq w op answer u) :
    (w.leased.find deliveryId = none → u.leased.find deliveryId = none) ∧
      ((∀ holds, u.server.copies holds = w.server.copies holds) ∨
        ∃ channel exchange routingKey payload expirationMs,
          op = .command (.awaitConfirm channel exchange routingKey payload expirationMs) ∧
          ∀ holds, u.server.copies holds =
            w.server.copies holds + if holds payload then 1 else 0) := by
  have refused (same : Refused w u) : (w.leased.find deliveryId = none →
      u.leased.find deliveryId = none) ∧ ∀ holds, u.server.copies holds = w.server.copies holds := by
    obtain ⟨lost, rfl⟩ := same
    exact ⟨id, fun holds => Amqp.Server.copies_closeAll lost⟩
  have executed {c : Amqp.Cmd RabbitMqPayload} {reply : c.Reply}
      (publishes : Publishes allowed (.command c)) (done : Executed w c reply u) :
      (w.leased.find deliveryId = none → u.leased.find deliveryId = none) ∧
        ((∀ holds, u.server.copies holds = w.server.copies holds) ∨
          ∃ channel exchange routingKey payload expirationMs,
            (c = .awaitConfirm channel exchange routingKey payload expirationMs) ∧
            ∀ holds, u.server.copies holds =
              w.server.copies holds + if holds payload then 1 else 0) := by
    obtain ⟨lost, server, done, rfl⟩ := done
    refine ⟨id, ?_⟩
    have setup (is_setup : c.IsSetup) (holds : RabbitMqPayload → Bool) :
        server.copies holds = w.server.copies holds := by
      obtain ⟨ready, unacked, -⟩ := Amqp.Server.execute_setup done is_setup
      rw [Amqp.Server.copies, ready, unacked]
      exact Amqp.Server.copies_closeAll lost
    cases c with
    | awaitConfirm channel exchange routingKey payload expirationMs =>
      have stored := (Amqp.Server.awaitConfirm_stores done).1
      cases bound : (w.server.closeAll lost).destination exchange routingKey with
      | none =>
        refine .inl fun holds => ?_
        dsimp only
        rw [stored, Amqp.Server.store, bound]
        exact Amqp.Server.copies_closeAll lost
      | some queue =>
        refine .inr ⟨_, _, _, _, _, rfl, fun holds => ?_⟩
        dsimp only
        rw [stored, Amqp.Server.copies_store bound, Amqp.Server.copies_closeAll]
    | basicAck => exact publishes.elim
    | basicGet => exact publishes.elim
    | _ => exact .inl (setup trivial)
  cases op with
  | command c =>
    rcases attempted_of_step step with same | ⟨reply, done⟩
    · exact ⟨(refused same).1, .inl (refused same).2⟩
    · obtain ⟨gone, same | ⟨channel, exchange, routingKey, payload, expirationMs, rfl, stored⟩⟩ :=
        executed publishes done
      · exact ⟨gone, .inl same⟩
      · exact ⟨gone, .inr ⟨_, _, _, _, _, rfl, stored⟩⟩
  | insertLease leased => exact publishes.elim
  | removeLease other =>
    obtain ⟨-, rfl⟩ := step
    refine ⟨fun gone => ?_, .inl fun holds => rfl⟩
    by_cases same : deliveryId = other
    · rw [same, RabbitMqLeases.find_erase]
    · rw [RabbitMqLeases.find_erase_ne same, gone]
  | clearLeases =>
    obtain rfl : u = { w with leased := .empty } := step
    exact ⟨fun _ => RabbitMqLeases.find_empty deliveryId, .inl fun holds => rfl⟩
  | lock mutex =>
    obtain ⟨-, rfl⟩ := step
    exact ⟨id, .inl fun holds => rfl⟩
  | transport | findLease | countLeases | catalog =>
    obtain ⟨-, rfl⟩ := step
    exact ⟨id, .inl fun holds => rfl⟩
  | exhausted => exact answer.elim
  | _ =>
    obtain rfl := step
    exact ⟨id, .inl fun holds => rfl⟩

section Settling

variable {note : RabbitMqWorld → (op : RabbitMqOp) → op.Answer → RabbitMqWorld → Bool}
  {K : RabbitMqWorld × Bool → Prop} {s : RabbitMqWorld × Bool}
  (gone : ∀ t, K t → t.1.leased.find deliveryId = none)
  (keeps : ∀ s op answer u, Publishes allowed op → K s →
    (rabbitmq.noting note) s op answer u → K u)

include gone keeps

/-- Nothing is settled once the lease is gone. -/
theorem ackBrokerDelivery_keeps (kept : K s) :
    Safe (rabbitmq.noting note) K (fun _ t => K t) (ackBrokerDelivery deliveryId) s := by
  apply Safe.bind
  refine (Safe.of_issues (activeTransport_issues harmless_publishes) keeps kept).mono
    (fun _ kept => kept) ?_
  rintro (e | channel) t kept
  · exact kept
  refine ⟨kept, ?_⟩
  intro _ t1 step1
  have kept1 := keeps _ _ _ _ (by trivial) kept step1
  refine ⟨kept1, ?_⟩
  intro found t2 step2
  have kept2 := keeps _ _ _ _ (by trivial) kept1 step2
  obtain rfl : found = none := step2.1.1.trans (gone _ kept1)
  refine ⟨kept2, ?_⟩
  intro _ t3 step3
  exact keeps _ _ _ _ (by trivial) kept2 step3

theorem publish_then_ack_keeps {topology : RabbitMqRouteTopology} {exchange routingKey : String}
    {payload : RabbitMqPayload} {expirationMs : Option UInt64} (fits : allowed payload)
    (kept : K s) :
    Safe (rabbitmq.noting note) K (fun _ t => K t)
      ((publishRawPayload topology exchange routingKey payload expirationMs).bind fun _ =>
        ackBrokerDelivery deliveryId) s := by
  apply Safe.bind
  refine (Safe.of_issues (publishRawPayload_issues harmless_publishes fun _ => fits) keeps
    kept).mono (fun _ kept => kept) ?_
  rintro (e | ⟨⟩) t kept
  · exact kept
  · exact ackBrokerDelivery_keeps gone keeps kept

end Settling

/-- What a retry does once it has taken the lease. -/
def settled (leased : RabbitMqLeasedDelivery) (error : String) (delayMs : UInt64) :
    RabbitMqProg RetryDisposition :=
  if leased.delivery.attempt ≥ leased.delivery.task.retryPolicy.maxAttempts then
    (deadLetter leased error).bind fun _ => .ret .deadLettered
  else
    (requeue leased error delayMs).bind fun _ => .ret .requeued

theorem exec_retry {note : RabbitMqWorld → (op : RabbitMqOp) → op.Answer → RabbitMqWorld → Bool}
    {leased : RabbitMqLeasedDelivery} {error : String} {delayMs : UInt64}
    {result : AppResult RetryDisposition} {t : RabbitMqWorld × Bool}
    (held : w.leased.find deliveryId = some leased)
    (locks : ∀ w mutex answer u, note w (.lock mutex) answer u = false)
    (removes : ∀ w deliveryId answer u, note w (.removeLease deliveryId) answer u = false)
    (unlocks : ∀ w mutex answer u, note w (.unlock mutex) answer u = false)
    (run : Exec (rabbitmq.noting note) (retry deliveryId error delayMs) (w, false) result t) :
    Exec (rabbitmq.noting note) (settled leased error delayMs)
      ({ w with leased := w.leased.erase deliveryId }, false) result t := by
  obtain ⟨_, v, ⟨-, entered⟩, rest⟩ := exec_call_noting.1 run
  rw [locks] at rest
  obtain ⟨found, x, ⟨taken, erased⟩, rest⟩ := exec_call_noting.1 rest
  rw [removes] at rest
  obtain ⟨_, y, left, rest⟩ := exec_call_noting.1 rest
  rw [unlocks] at rest
  obtain rfl : found = some leased := by
    rw [taken, entered]
    exact held
  obtain rfl : y = { w with leased := w.leased.erase deliveryId } := by
    rw [left, erased, entered]
    simp
  exact rest

/-- Among what may be published, the records of the delivery are what gets noted. -/
theorem recorded_iff {op : RabbitMqOp}
    (publishes : Publishes (isRecordOf deliveryId · = true) op) {answer : op.Answer}
    (step : rabbitmq w op answer u) :
    0 < u.server.copies (isRecordOf deliveryId) ↔
      0 < w.server.copies (isRecordOf deliveryId) ∨ storesRecord w op answer u = true := by
  obtain ⟨-, same | ⟨channel, exchange, routingKey, payload, expirationMs, rfl, stored⟩⟩ :=
    publishes_step deliveryId publishes step
  · have unnoted : storesRecord w op answer u = false := by
      unfold storesRecord
      split <;> simp [same]
    rw [same, unnoted]
    simp
  · cases payload with
    | record record =>
      have match_ : isRecordOf deliveryId (.record record) = true := publishes
      simp [storesRecord, stored, match_]
    | envelope e => cases publishes
    | route entry => cases publishes

/-- The lease is gone, and a record is stored when there was one or it was noted. -/
def Tracks (deliveryId : String) (before : Prop) (t : RabbitMqWorld × Bool) : Prop :=
  t.1.leased.find deliveryId = none ∧
    (0 < t.1.server.copies (isRecordOf deliveryId) ↔ before ∨ t.2 = true)

/-- The lease is gone, and a record is stored when there was one. -/
def Spares (deliveryId : String) (before : Prop) (t : RabbitMqWorld × Bool) : Prop :=
  t.1.leased.find deliveryId = none ∧
    (0 < t.1.server.copies (isRecordOf deliveryId) ↔ before)

variable {leased : RabbitMqLeasedDelivery} {error : String} {before : Prop}
  {s : RabbitMqWorld × Bool}

theorem deadLetter_tracks (start : Tracks leased.delivery.deliveryId before s) :
    Safe (rabbitmq.noting storesRecord) (Tracks leased.delivery.deliveryId before)
      (fun _ t => Tracks leased.delivery.deliveryId before t) (deadLetter leased error) s := by
  have keeps : ∀ (s : RabbitMqWorld × Bool) op answer u,
      Publishes (isRecordOf leased.delivery.deliveryId · = true) op →
      Tracks leased.delivery.deliveryId before s →
      rabbitmq.noting storesRecord s op answer u → Tracks leased.delivery.deliveryId before u := by
    rintro ⟨v, b⟩ op answer ⟨x, b'⟩ publishes ⟨gone, stored⟩ ⟨step, same⟩
    obtain rfl : b' = (b || storesRecord v op answer x) := same
    refine ⟨(publishes_step _ publishes step).1 gone, ?_⟩
    rw [recorded_iff publishes step, stored, Bool.or_eq_true, or_assoc]
  refine ⟨start, fun now t step => ?_⟩
  exact publish_then_ack_keeps (fun _ kept => kept.1) keeps
    (by simp [isRecordOf, buildDeadLetterRecord]) (keeps _ _ _ _ (by trivial) start step)

theorem requeue_spares {delayMs : UInt64} (start : Spares leased.delivery.deliveryId before s) :
    Safe (rabbitmq.noting failure) (Spares leased.delivery.deliveryId before)
      (fun _ t => Spares leased.delivery.deliveryId before t) (requeue leased error delayMs) s := by
  have keeps : ∀ (s : RabbitMqWorld × Bool) op answer u,
      Publishes (isRecordOf leased.delivery.deliveryId · = false) op →
      Spares leased.delivery.deliveryId before s →
      rabbitmq.noting failure s op answer u → Spares leased.delivery.deliveryId before u := by
    rintro ⟨v, b⟩ op answer ⟨x, b'⟩ publishes ⟨gone, stored⟩ ⟨step, -⟩
    obtain ⟨stays, same | ⟨channel, exchange, routingKey, payload, expirationMs, rfl, count⟩⟩ :=
      publishes_step _ publishes step
    · exact ⟨stays gone, (same _).symm ▸ stored⟩
    · have other : isRecordOf leased.delivery.deliveryId payload = false := publishes
      refine ⟨stays gone, ?_⟩
      rw [count, other]
      exact stored
  exact publish_then_ack_keeps (fun _ kept => kept.1) keeps rfl start

theorem retriesAt (w : RabbitMqWorld) (deliveryId : String) :
    retryQueue.RetriesAt w deliveryId := by
  refine retryQueue.retriesAt_of ?_ ?_ ?_
  · intro missing error delayMs result t run
    have missing : w.leased.find deliveryId = none := Option.map_eq_none_iff.1 missing
    obtain ⟨_, v, ⟨-, entered⟩, rest⟩ := exec_call.1 run
    obtain ⟨found, x, ⟨taken, erased⟩, rest⟩ := exec_call.1 rest
    obtain ⟨_, y, left, rest⟩ := exec_call.1 rest
    obtain rfl : found = none := by
      rw [taken, entered]
      exact missing
    obtain ⟨rfl, rfl⟩ := exec_fail.1 rest
    refine ⟨rfl, ?_⟩
    rw [left, erased, entered]
    exact Iff.rfl
  · intro delivery held exhausted error delayMs result t noted run
    obtain ⟨leased, found, rfl⟩ := Option.map_eq_some_iff.1 held
    obtain rfl := w.leased.keyed deliveryId leased found
    have run := exec_retry found (fun _ _ _ _ => rfl) (fun _ _ _ _ => rfl)
      (fun _ _ _ _ => rfl) run
    rw [settled, if_pos exhausted] at run
    have start : Tracks leased.delivery.deliveryId
        (0 < w.server.copies (isRecordOf leased.delivery.deliveryId))
        ({ w with leased := w.leased.erase leased.delivery.deliveryId }, false) :=
      ⟨RabbitMqLeases.find_erase _ _, by simp⟩
    rcases exec_bind.1 run with ⟨_, v, dead, last⟩ | ⟨e, dead, rfl⟩
    · obtain ⟨rfl, rfl⟩ := exec_ret.1 last
      refine ⟨?_, ((deadLetter_tracks start).exec dead).2⟩
      rintro _ ⟨⟩
      rfl
    · exact ⟨nofun, ((deadLetter_tracks start).exec dead).2⟩
  · intro delivery held left error delayMs result t noted run
    obtain ⟨leased, found, rfl⟩ := Option.map_eq_some_iff.1 held
    obtain rfl := w.leased.keyed deliveryId leased found
    have run := exec_retry found (fun _ _ _ _ => rfl) (fun _ _ _ _ => rfl)
      (fun _ _ _ _ => rfl) run
    rw [settled, if_neg left] at run
    have start : Spares leased.delivery.deliveryId
        (0 < w.server.copies (isRecordOf leased.delivery.deliveryId))
        ({ w with leased := w.leased.erase leased.delivery.deliveryId }, false) :=
      ⟨RabbitMqLeases.find_erase _ _, Iff.rfl⟩
    have plain : FailsPlainly (requeue leased error delayMs) :=
      (publishRawPayload_fails ..).bind fun _ => ackBrokerDelivery_fails _
    rcases exec_bind.1 run with ⟨_, ⟨v, b⟩, requeued, last⟩ | ⟨e, requeued, rfl⟩
    · obtain ⟨rfl, same⟩ := exec_ret.1 last
      cases same
      refine ⟨?_, (plain.exec trivial requeued).2, ((requeue_spares start).exec requeued).2⟩
      rintro _ ⟨⟩
      rfl
    · exact ⟨nofun, (plain.exec trivial requeued).2, ((requeue_spares start).exec requeued).2⟩

end Records

end RabbitMq

end NexusCore.Runtime
