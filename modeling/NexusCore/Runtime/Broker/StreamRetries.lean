import NexusCore.Runtime.Broker.RedisRegistry
import NexusCore.Runtime.Broker.Settlement
import NexusCore.Runtime.Retrying

/-!
# Retries on Redis and NATS

What a retry does to the dead letters that the server stores, wherever it fails: a delivery with
attempts left adds none, and one without is stored when the server takes its record.
-/

namespace NexusCore.Runtime

open NexusCore.Lib

namespace RedisStreams

/-- A record that the server has stored. -/
def storesRecord : RedisWorld → (op : RedisOp) → op.Answer → RedisWorld → Bool
  | _, .command (.xadd _ (.record _)), .ok _, _ => true
  | _, _, _, _ => false

/-- The records of a delivery in a dead-letter stream. -/
def Recorded (key deliveryId : String) (w : RedisWorld) : Prop :=
  ∃ entry ∈ w.keys.contents.entries key, ∃ record, entry.2 = .record record ∧
    record.deliveryId = deliveryId

/-- The queue, with the dead-letter stream of one of its routes. -/
def retryQueue (key : String) : RetryQueue RedisWorld RedisOp RedisOp.Answer where
  handler := redis
  retry := retry
  leased w deliveryId := (w.adapter.leased.lookup deliveryId).map (·.delivery)
  stored w deliveryId := Recorded key deliveryId w
  failure := failure
  stores := storesRecord

/-- The operations that leave a stream alone. -/
def Spares (key : String) : RedisOp → Prop
  | .command (.xadd other _) | .command (.xdel other _) => other ≠ key
  | _ => True

/-- The operations that do nothing to a dead-letter stream but add records of a delivery, and
store no other records. -/
def Records (key deliveryId : String) : RedisOp → Prop
  | .command (.xadd other (.record record)) => other = key ∧ record.deliveryId = deliveryId
  | .command (.xadd other _) | .command (.xdel other _) => other ≠ key
  | _ => True

section Retries

variable {key deliveryId : String} {w u : RedisWorld}

theorem entries_of_spares {op : RedisOp} (spares : Spares key op) {answer : op.Answer}
    (answered : redis w op answer u) :
    u.keys.contents.entries key = w.keys.contents.entries key := by
  cases op with
  | command c =>
    cases answer with
    | error error =>
      obtain rfl : u = w := answered
      rfl
    | ok reply =>
      obtain ⟨moment, keys, executed, rfl⟩ := answered
      dsimp only
      cases c with
      | xgroupCreateMkstream => rw [Redis.xgroupCreateMkstream_spec executed]
      | xadd other payload =>
        rw [(Redis.xadd_spec executed).2]
        exact Function.update_of_ne (Ne.symm spares) _ _
      | xreadgroup => rw [(Redis.xreadgroup_spec executed).1]
      | xautoclaim => rw [(Redis.xautoclaim_spec executed).1]
      | xack => rw [Redis.xack_spec executed]
      | xdel other id =>
        rw [Redis.xdel_spec executed]
        exact Function.update_of_ne (Ne.symm spares) _ _
      | xrange => rw [(Redis.xrange_spec executed).1]
      | zadd => rw [Redis.zadd_spec executed, Redis.Contents.schedule]
      | zrem => rw [(Redis.zrem_spec executed).2, Redis.Contents.unschedule]
      | zrangebyscore => rw [(Redis.zrangebyscore_spec executed).1]
      | sadd => rw [Redis.sadd_spec executed, Redis.Contents.enlist]
      | smembers => rw [(Redis.smembers_spec executed).1]
  | adapter =>
    obtain ⟨-, rfl⟩ := answered
    rfl
  | setAdapter adapter =>
    obtain rfl : u = { w with adapter := adapter } := answered
    rfl
  | _ =>
    obtain rfl : u = w := answered
    rfl

/-- A record of the delivery is there afterwards when it was before or the server stored it. -/
theorem recorded_iff {op : RedisOp} (records : Records key deliveryId op) {answer : op.Answer}
    (answered : redis w op answer u) :
    Recorded key deliveryId u ↔
      Recorded key deliveryId w ∨ storesRecord w op answer u = true := by
  have spared (spares : Spares key op) (unnoted : storesRecord w op answer u = false) :
      Recorded key deliveryId u ↔
        Recorded key deliveryId w ∨ storesRecord w op answer u = true := by
    simp [Recorded, entries_of_spares spares answered, unnoted]
  cases op with
  | command c =>
    cases c with
    | xadd other payload =>
      cases payload with
      | record record =>
        obtain ⟨rfl, rfl⟩ := records
        cases answer with
        | error error =>
          obtain rfl : u = w := answered
          simp [storesRecord]
        | ok reply =>
          obtain ⟨moment, keys, executed, rfl⟩ := answered
          refine iff_of_true ⟨(reply, .record record), ?_, record, rfl, rfl⟩ (.inr rfl)
          dsimp only
          rw [(Redis.xadd_spec executed).2]
          exact mem_entries_append.2 (.inr ⟨rfl, rfl⟩)
      | envelope e => exact spared records rfl
      | delayed d => exact spared records rfl
      | route entry => exact spared records rfl
    | xdel other id => exact spared records rfl
    | _ => exact spared trivial rfl
  | _ => exact spared trivial rfl

theorem harmless_spares (op : RedisOp) (harmless : Harmless op) : Spares key op := by
  cases op with
  | command c => cases c <;> first | exact harmless.elim | trivial
  | _ => trivial

theorem harmless_records (op : RedisOp) (harmless : Harmless op) :
    Records key deliveryId op := by
  cases op with
  | command c => cases c <;> first | exact harmless.elim | trivial
  | _ => trivial

/-- What a retry does once it has taken the lease. -/
def settled (leased : RedisLeasedDelivery) (error : String) (delayMs : UInt64) :
    RedisProg RetryDisposition :=
  if leased.delivery.attempt ≥ leased.delivery.task.retryPolicy.maxAttempts then
    (deadLetter leased error).bind fun _ => .ret .deadLettered
  else
    (requeue leased error delayMs).bind fun _ => .ret .requeued

theorem exec_retry {note : RedisWorld → (op : RedisOp) → op.Answer → RedisWorld → Bool}
    {leased : RedisLeasedDelivery} {error : String} {delayMs : UInt64}
    {result : AppResult RetryDisposition} {t : RedisWorld × Bool}
    (held : w.adapter.leased.lookup deliveryId = some leased)
    (reads : ∀ w answer u, note w .adapter answer u = false)
    (writes : ∀ w adapter answer u, note w (.setAdapter adapter) answer u = false)
    (run : Exec (redis.noting note) (retry deliveryId error delayMs) (w, false) result t) :
    Exec (redis.noting note) (settled leased error delayMs)
      ({ w with adapter := { w.adapter with leased := w.adapter.leased.erase deliveryId } }, false)
      result t := by
  obtain ⟨adapter, v, ⟨rfl, rfl⟩, rest⟩ := exec_call_noting.1 run
  obtain ⟨answer, u, rfl, rest⟩ := exec_call_noting.1 rest
  have unread : note v .adapter v.adapter v = false := reads _ _ _
  rw [unread, writes, Prog.ret_bind] at rest
  dsimp only at rest
  rw [held] at rest
  exact rest

theorem retriesAt (home : ∀ leased, w.adapter.leased.lookup deliveryId = some leased →
      leased.topology.deadLetterStreamKey = key ∧ leased.topology.streamKey ≠ key) :
    (retryQueue key).RetriesAt w deliveryId := by
  refine (retryQueue key).retriesAt_of ?_ ?_ ?_
  · intro missing error delayMs result t run
    have missing : w.adapter.leased.lookup deliveryId = none := Option.map_eq_none_iff.1 missing
    obtain ⟨adapter, v, ⟨rfl, rfl⟩, rest⟩ := exec_call.1 run
    obtain ⟨answer, u, rfl, rest⟩ := exec_call.1 rest
    rw [Prog.ret_bind] at rest
    dsimp only at rest
    rw [missing] at rest
    obtain ⟨rfl, rfl⟩ := exec_fail.1 rest
    exact ⟨rfl, Iff.rfl⟩
  · intro delivery held exhausted error delayMs result t noted run
    obtain ⟨leased, found, rfl⟩ := Option.map_eq_some_iff.1 held
    obtain ⟨rfl, apart⟩ := home leased found
    have run := exec_retry found (fun _ _ _ => rfl) (fun _ _ _ _ => rfl) run
    rw [settled, if_pos exhausted] at run
    have stores : Recorded leased.topology.deadLetterStreamKey leased.delivery.deliveryId t ↔
        Recorded leased.topology.deadLetterStreamKey leased.delivery.deliveryId w ∨
          noted = true := by
      refine (Safe.of_issues (P := Records leased.topology.deadLetterStreamKey
        leased.delivery.deliveryId) (I := fun (v : RedisWorld × Bool) =>
          Recorded leased.topology.deadLetterStreamKey leased.delivery.deliveryId v.1 ↔
            Recorded leased.topology.deadLetterStreamKey leased.delivery.deliveryId w ∨
              v.2 = true) ?_ ?_ ?_).exec run
      · refine Prog.Issues.bind ?_ fun _ => .ret
        exact deadLetter_issues harmless_records (fun now => ⟨rfl, rfl⟩) apart
      · rintro ⟨v, b⟩ op answer ⟨u, b'⟩ records before ⟨step, same⟩
        obtain rfl : b' = (b || storesRecord v op answer u) := same
        rw [recorded_iff records step, before, Bool.or_eq_true, or_assoc]
      · simp [Recorded]
    refine ⟨?_, stores⟩
    rintro d rfl
    exact Exec.returns (P := (· = .deadLettered)) ((Prog.returns_true _).bind fun _ _ => .ret rfl) run
  · intro delivery held left error delayMs result t noted run
    obtain ⟨leased, found, rfl⟩ := Option.map_eq_some_iff.1 held
    obtain ⟨rfl, apart⟩ := home leased found
    obtain ⟨-, fails⟩ := (settle_noting found (.retry error delayMs)).exec run
    have run := exec_retry found (fun _ _ _ => rfl) (fun _ _ _ _ => rfl) run
    rw [settled, if_neg left] at run
    have spares : t.keys.contents.entries leased.topology.deadLetterStreamKey =
        w.keys.contents.entries leased.topology.deadLetterStreamKey := by
      refine (Safe.of_issues (P := Spares leased.topology.deadLetterStreamKey)
        (I := fun (v : RedisWorld) =>
          v.keys.contents.entries leased.topology.deadLetterStreamKey =
            w.keys.contents.entries leased.topology.deadLetterStreamKey) ?_ ?_ ?_).exec run.of_noting
      · refine Prog.Issues.bind ?_ fun _ => .ret
        exact requeue_issues harmless_spares apart (fun _ _ => trivial) apart
      · intro v op answer u spares before step
        exact (entries_of_spares spares step).trans before
      · rfl
    refine ⟨?_, fails, ?_⟩
    · rintro d rfl
      exact Exec.returns (P := (· = .requeued)) ((Prog.returns_true _).bind fun _ _ => .ret rfl) run
    · simp only [retryQueue, Recorded, spares]

end Retries

end RedisStreams

namespace Nats

def isRecordOf (deliveryId : String) : NatsPayload → Bool
  | .record record => record.deliveryId == deliveryId
  | .envelope _ => false

/-- A record that the server has stored, whether or not it says so. -/
def storesRecord : NatsWorld → (op : NatsOp) → op.Answer → NatsWorld → Bool
  | w, .command (.awaitConfirm _ (.record _)), _, u => w.server.log.length < u.server.log.length
  | _, _, _, _ => false

/-- The server keeps a record of the delivery. -/
def Recorded (deliveryId : String) (w : NatsWorld) : Prop :=
  ∃ message ∈ w.server.log, isRecordOf deliveryId message.2 = true

def retryQueue (config : NatsQueueConfig) : RetryQueue NatsWorld NatsOp NatsOp.Answer where
  handler := nats
  retry := retry config
  leased w deliveryId := (w.leased.lookup deliveryId).map (·.delivery)
  stored w deliveryId := Recorded deliveryId w
  failure := failure
  stores := storesRecord

/-- The operations that store nothing but some payloads and remove no dead letter. -/
def Logs (allowed : NatsPayload → Prop) : NatsOp → Prop
  | .command (.awaitConfirm _ payload) => allowed payload
  | .command (.deleteLogged _) => False
  | _ => True

section Records

variable {allowed : NatsPayload → Prop} {deliveryId : String} {w u : NatsWorld}

/-- Such an operation adds nothing or one payload to the stored dead letters. -/
theorem logs_step {op : NatsOp} (logs : Logs allowed op) {answer : op.Answer}
    (step : nats w op answer u) :
    u.server.log = w.server.log ∨ ∃ subject payload sequence,
      op = .command (.awaitConfirm subject payload) ∧
        u.server.log = w.server.log ++ [(sequence, payload)] := by
  have executed {c : JetStream.Cmd NatsPayload} {reply : c.Reply} (logs : Logs allowed (.command c))
      (done : Executed w c reply u) :
      u.server.log = w.server.log ∨ ∃ subject payload sequence,
        c = .awaitConfirm subject payload ∧
          u.server.log = w.server.log ++ [(sequence, payload)] := by
    obtain ⟨due, server, done, rfl⟩ := done
    cases c with
    | getOrCreateConsumer =>
      simp only [JetStream.Server.execute] at done
      split at done <;> (cases done; exact .inl rfl)
    | awaitConfirm subject payload =>
      cases done
      dsimp only [JetStream.Server.store]
      split_ifs
      · exact .inr ⟨subject, payload, _, rfl, rfl⟩
      · exact .inl rfl
    | fetch =>
      simp only [JetStream.Server.execute] at done
      split at done
      · cases done
      · split at done <;> (cases done; exact .inl rfl)
    | deleteLogged => exact logs.elim
    | consumerInfo =>
      simp only [JetStream.Server.execute] at done
      split at done
      · cases done
      · cases done
        exact .inl rfl
    | _ =>
      cases done
      exact .inl rfl
  have lifted {c : JetStream.Cmd NatsPayload} {reply : c.Reply} (logs : Logs allowed (.command c))
      (done : Executed w c reply u) :
      u.server.log = w.server.log ∨ ∃ subject payload sequence,
        NatsOp.command c = .command (.awaitConfirm subject payload) ∧
          u.server.log = w.server.log ++ [(sequence, payload)] := by
    obtain same | ⟨subject, payload, sequence, rfl, stored⟩ := executed logs done
    · exact .inl same
    · exact .inr ⟨subject, payload, sequence, rfl, stored⟩
  cases op with
  | command c =>
    cases answer with
    | ok reply =>
      rcases step with done | ⟨-, due, rfl⟩
      · exact lifted logs done
      · exact .inl rfl
    | error error =>
      rcases step with ⟨due, rfl⟩ | ⟨reply, done⟩
      · exact .inl rfl
      · exact lifted logs done
  | insertLease leased =>
    obtain rfl : u = _ := step
    exact .inl rfl
  | removeLease | leases | catalog =>
    obtain ⟨-, rfl⟩ := step
    exact .inl rfl
  | _ =>
    obtain rfl : u = w := step
    exact .inl rfl

theorem recorded_iff {op : NatsOp} (logs : Logs (isRecordOf deliveryId · = true) op)
    {answer : op.Answer} (step : nats w op answer u) :
    Recorded deliveryId u ↔ Recorded deliveryId w ∨ storesRecord w op answer u = true := by
  obtain same | ⟨subject, payload, sequence, rfl, stored⟩ := logs_step logs step
  · have unnoted : storesRecord w op answer u = false := by
      unfold storesRecord
      split <;> simp [same]
    simp [Recorded, same, unnoted]
  · have record : isRecordOf deliveryId payload = true := logs
    cases payload with
    | record r =>
      refine iff_of_true ⟨(sequence, .record r), by simp [stored], record⟩ (.inr ?_)
      simp [storesRecord, stored]
    | envelope e => cases record

theorem deadLetter_logs {config : NatsQueueConfig} (leased : NatsLeasedDelivery) (error : String)
    {message : String} : (deadLetter config leased error message).Issues
      (Logs (isRecordOf leased.delivery.deliveryId · = true)) := by
  refine Prog.Issues.bind (.call trivial fun _ => .ret) fun now => ?_
  refine Prog.Issues.bind (.call trivial fun _ => .ret) fun topology => ?_
  refine Prog.Issues.bind ?_ fun _ => ?_
  · refine Prog.Issues.bind (query_issues ?_) fun _ => Prog.Issues.bind (query_issues ?_) fun _ => ?_
    · trivial
    · simp [Logs, isRecordOf, buildDeadLetterRecord]
    · exact .ret
  · refine Prog.Issues.bind (query_issues ?_) fun _ => ?_
    · trivial
    · exact .ret

theorem retriesAt (config : NatsQueueConfig) (w : NatsWorld) (deliveryId : String) :
    (retryQueue config).RetriesAt w deliveryId := by
  refine (retryQueue config).retriesAt_of ?_ ?_ ?_
  · intro missing error delayMs result t run
    have missing : w.leased.lookup deliveryId = none := Option.map_eq_none_iff.1 missing
    obtain ⟨found, u, ⟨rfl, rfl⟩, rest⟩ := exec_call.1 run
    rw [missing] at rest
    obtain ⟨rfl, rfl⟩ := exec_fail.1 rest
    exact ⟨rfl, Iff.rfl⟩
  · intro delivery held exhausted error delayMs result t noted run
    obtain ⟨leased, found, rfl⟩ := Option.map_eq_some_iff.1 held
    obtain ⟨_, u, ⟨rfl, rfl⟩, rest⟩ := exec_call_noting.1 run
    rw [found] at rest
    change Exec (nats.noting storesRecord) (ite (leased.delivery.attempt ≥ _) _ _)
      ({ w with leased := w.leased.erase deliveryId }, false) _ _ at rest
    rw [if_pos exhausted] at rest
    have tracked : Recorded leased.delivery.deliveryId t ↔
        Recorded leased.delivery.deliveryId w ∨ noted = true := by
      refine (Safe.of_issues (P := Logs (isRecordOf leased.delivery.deliveryId · = true))
        (I := fun (v : NatsWorld × Bool) => Recorded leased.delivery.deliveryId v.1 ↔
          Recorded leased.delivery.deliveryId w ∨ v.2 = true) ?_ ?_ ?_).exec rest
      · exact (deadLetter_logs leased error).bind fun _ => .ret
      · rintro ⟨v, b⟩ op answer ⟨x, b'⟩ logs before ⟨step, same⟩
        obtain rfl : b' = (b || storesRecord v op answer x) := same
        rw [recorded_iff logs step, before, Bool.or_eq_true, or_assoc]
      · simp [Recorded]
    refine ⟨?_, tracked⟩
    rintro d rfl
    exact Exec.returns (P := (· = .deadLettered)) ((Prog.returns_true _).bind fun _ _ => .ret rfl)
      rest
  · intro delivery held left error delayMs result t noted run
    obtain ⟨leased, found, rfl⟩ := Option.map_eq_some_iff.1 held
    obtain ⟨-, fails⟩ := (settle_noting found (.retry error delayMs)).exec run
    obtain ⟨_, u, ⟨rfl, rfl⟩, rest⟩ := exec_call_noting.1 run
    rw [found] at rest
    change Exec (nats.noting failure) (ite (leased.delivery.attempt ≥ _) _ _)
      ({ w with leased := w.leased.erase deliveryId }, false) _ _ at rest
    rw [if_neg left] at rest
    have same : t.server.log = w.server.log := by
      refine (Safe.of_issues (P := Logs fun _ => False)
        (I := fun (v : NatsWorld × Bool) => v.1.server.log = w.server.log) ?_ ?_ rfl).exec rest
      · exact (query_issues (by trivial)).bind fun _ => .ret
      · rintro ⟨v, b⟩ op answer ⟨x, b'⟩ logs before ⟨step, -⟩
        obtain same | ⟨subject, payload, sequence, rfl, -⟩ := logs_step logs step
        · exact same.trans before
        · exact logs.elim
    refine ⟨?_, fails, ?_⟩
    · rintro d rfl
      exact Exec.returns (P := (· = .requeued)) ((Prog.returns_true _).bind fun _ _ => .ret rfl) rest
    · simp only [retryQueue, Recorded, same]

end Records

end Nats

end NexusCore.Runtime
