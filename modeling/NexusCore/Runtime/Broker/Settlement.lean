import NexusCore.Runtime.Broker.NatsWorld
import NexusCore.Runtime.Broker.RedisRuns

/-!
# Settling a delivery

The Redis and the NATS adapter take the lease of a delivery out of their memory before they
ask the server for anything. A settle operation that fails has therefore forgotten the lease,
and an acknowledgement that is repeated then finds nothing to acknowledge and succeeds.
-/

namespace NexusCore.Runtime

open NexusCore.Lib

/-- The operations that settle a delivery. -/
inductive Settle where
  | ack
  | retry (error : String) (delayMs : UInt64)
  | reject (error : String)

def Settle.Result : Settle → Type
  | .ack | .reject _ => Unit
  | .retry .. => RetryDisposition

/-- What a settle operation owes its caller: a failure keeps the lease, and an acknowledgement
that succeeds, now or when it is repeated after a failure, was accepted by the server. -/
structure SettlesSoundly {σ α : Type} (settle : Settle) (leased accepted : σ → Prop)
    (acksAgain : σ → σ → Prop) (result : AppResult α) (u : σ) : Prop where
  keeps : result.isOk = false → leased u
  accepts : settle = .ack → result.isOk = true → accepted u
  repeats : result.isOk = false → ∀ v, acksAgain u v → accepted v

namespace RedisStreams

def settle (deliveryId : String) : (s : Settle) → RedisProg s.Result
  | .ack => ack deliveryId
  | .retry error delayMs => retry deliveryId error delayMs
  | .reject error => reject deliveryId error

/-- An answer that means that the server was not reached or refused the command. A group that is
there already is none. -/
def failure : RedisWorld → (op : RedisOp) → op.Answer → RedisWorld → Bool
  | _, .command (.xgroupCreateMkstream ..), .error error, _ => !redisConflictError error
  | _, .command _, .error _, _ => true
  | _, .connect, .error _, _ => true
  | _, _, _, _ => false

section Failures

variable {deliveryId : String}

/-- The adapter does not remember a delivery. -/
def Forgotten (deliveryId : String) (w : RedisWorld) : Prop :=
  w.adapter.leased.lookup deliveryId = none

/-- The programs that fail exactly when a command fails, and lease nothing. -/
abbrev Plain {α : Type} (deliveryId : String) (p : RedisProg α) : Prop :=
  FailsWhen redis failure (Forgotten deliveryId) p

theorem command_adapter {w u : RedisWorld} {c : Redis.Cmd RedisPayload}
    {answer : Except RedisError c.Reply} (step : redis w (.command c) answer u) :
    u.adapter = w.adapter := by
  cases answer with
  | error error =>
    obtain rfl : u = w := step
    rfl
  | ok reply =>
    obtain ⟨moment, keys, -, rfl⟩ := step
    rfl

/-- The commands whose failure is never passed over. -/
def Strict : Redis.Cmd RedisPayload → Prop
  | .xgroupCreateMkstream .. => False
  | _ => True

theorem query_plain {c : Redis.Cmd RedisPayload} (message : String) (strict : Strict c) :
    Plain deliveryId (query c message) := by
  constructor
  intro w forgotten
  refine ⟨forgotten, ?_⟩
  rintro answer ⟨u, noted⟩ ⟨step, same⟩
  have kept : Forgotten deliveryId u := by
    rw [Forgotten, command_adapter step]
    exact forgotten
  cases answer with
  | ok reply =>
    refine ⟨kept, ?_⟩
    cases c <;> exact same
  | error error =>
    refine ⟨kept, ?_⟩
    cases c with
    | xgroupCreateMkstream => exact strict.elim
    | _ => exact same

theorem connection_plain : Plain deliveryId connection := by
  constructor
  intro w forgotten
  refine ⟨forgotten, ?_⟩
  rintro (error | reply) ⟨u, noted⟩ ⟨rfl, same⟩
  · exact ⟨forgotten, same⟩
  · exact ⟨forgotten, same⟩

theorem ensureTopology_plain (topology : RedisRouteTopology) :
    Plain deliveryId (ensureTopology topology) := by
  refine connection_plain.bind fun _ => ?_
  constructor
  intro w forgotten
  refine ⟨forgotten, ?_⟩
  rintro answer ⟨u, noted⟩ ⟨step, same⟩
  have kept : Forgotten deliveryId u := by
    rw [Forgotten, command_adapter step]
    exact forgotten
  cases answer with
  | ok reply => exact ⟨kept, same⟩
  | error error =>
    dsimp only
    split_ifs with conflict
    · exact ⟨kept, same.trans (by simp [failure, conflict, Except.isOk, Except.toBool])⟩
    · exact ⟨kept, same.trans (by simp [failure, conflict, Except.isOk, Except.toBool])⟩

theorem nowMs_plain : Plain deliveryId nowMs :=
  .call (fun _ _ _ forgotten step => ⟨step ▸ forgotten, rfl⟩) fun now => .ret now

theorem newToken_plain : Plain deliveryId newToken :=
  .call (fun _ _ _ forgotten step => ⟨step ▸ forgotten, rfl⟩) fun token => .ret token

theorem publishEnvelope_plain (topology : RedisRouteTopology) (envelope : RedisEnvelope) :
    Plain deliveryId (publishEnvelope topology envelope) := by
  refine (ensureTopology_plain topology).bind fun _ => ?_
  refine connection_plain.bind fun _ => ?_
  exact (query_plain _ (by trivial)).bind fun _ => .ret ()

theorem publishDelayedRetry_plain (topology : RedisRouteTopology) (envelope : RedisEnvelope)
    (delayMs : UInt64) : Plain deliveryId (publishDelayedRetry topology envelope delayMs) := by
  refine connection_plain.bind fun _ => ?_
  refine newToken_plain.bind fun token => ?_
  refine nowMs_plain.bind fun now => ?_
  exact (query_plain _ (by trivial)).bind fun _ => .ret ()

theorem publishDeadLetterRecord_plain (topology : RedisRouteTopology)
    (record : RuntimeDeadLetterRecord) :
    Plain deliveryId (publishDeadLetterRecord topology record) := by
  refine connection_plain.bind fun _ => ?_
  exact (query_plain _ (by trivial)).bind fun _ => .ret ()

theorem ackEntry_plain (topology : RedisRouteTopology) (entryId : Redis.EntryId) :
    Plain deliveryId (ackEntry topology entryId) := by
  refine connection_plain.bind fun _ => ?_
  refine (query_plain _ (by trivial)).bind fun _ => ?_
  exact (query_plain _ (by trivial)).bind fun _ => .ret ()

theorem deadLetter_plain (leased : RedisLeasedDelivery) (error : String) :
    Plain deliveryId (deadLetter leased error) := by
  refine nowMs_plain.bind fun now => ?_
  exact (publishDeadLetterRecord_plain ..).bind fun _ => ackEntry_plain ..

theorem requeue_plain (leased : RedisLeasedDelivery) (error : String) (delayMs : UInt64) :
    Plain deliveryId (requeue leased error delayMs) := by
  simp only [requeue, Prog.bind_def]
  split_ifs
  · exact (publishEnvelope_plain ..).bind fun _ => ackEntry_plain ..
  · exact (publishDelayedRetry_plain ..).bind fun _ => ackEntry_plain ..

/-- Taking a lease, after which the adapter does not remember the delivery. -/
theorem takeLease_noting {α : Type} {w : RedisWorld} {Q : AppResult α → RedisWorld × Bool → Prop}
    {f : Option RedisLeasedDelivery → RedisProg α}
    (rest : Safe (redis.noting failure) (fun _ => True) Q (f (w.adapter.leased.lookup deliveryId))
      ({ w with adapter := { w.adapter with leased := w.adapter.leased.erase deliveryId } }, false)) :
    Safe (redis.noting failure) (fun _ => True) Q ((takeLease deliveryId).bind f) (w, false) := by
  refine ⟨trivial, ?_⟩
  rintro adapter ⟨u, noted⟩ ⟨⟨rfl, rfl⟩, same⟩
  obtain rfl : noted = false := same
  refine ⟨trivial, ?_⟩
  rintro ⟨⟩ ⟨u, noted⟩ ⟨rfl, same⟩
  obtain rfl : noted = false := same
  exact rest

/-- A settle operation on a lease forgets the lease, and fails exactly when a command fails. -/
theorem settle_noting {w : RedisWorld} {leased : RedisLeasedDelivery}
    (held : w.adapter.leased.lookup deliveryId = some leased) (s : Settle) :
    Safe (redis.noting failure) (fun _ => True)
      (fun result t => Forgotten deliveryId t.1 ∧ t.2 = !result.isOk) (settle deliveryId s)
      (w, false) := by
  have gone : Forgotten deliveryId { w with
      adapter := { w.adapter with leased := w.adapter.leased.erase deliveryId } } :=
    AList.lookup_erase _ _
  have run : ∀ {α : Type} {p : RedisProg α}, Plain deliveryId p → ∀ t, Forgotten deliveryId t →
      Safe (redis.noting failure) (fun _ => True)
        (fun result t => Forgotten deliveryId t.1 ∧ t.2 = !result.isOk) p (t, false) :=
    fun plain t forgotten => (plain.safe t forgotten).mono (fun _ _ => trivial) fun _ _ post => post
  cases s with
  | ack =>
    refine takeLease_noting ?_
    rw [held]
    exact run (ackEntry_plain ..) _ gone
  | reject error =>
    refine takeLease_noting ?_
    rw [held]
    exact run (deadLetter_plain ..) _ gone
  | retry error delayMs =>
    refine takeLease_noting ?_
    rw [held]
    dsimp only
    split_ifs
    · exact run ((deadLetter_plain ..).bind fun _ => .ret _) _ gone
    · exact run ((requeue_plain ..).bind fun _ => .ret _) _ gone

end Failures

/-- The server waits for the acknowledgement of an entry. -/
def Pending (leased : RedisLeasedDelivery) (w : RedisWorld) : Prop :=
  leased.entryId ∈ w.keys.pendingAt leased.topology.streamKey leased.topology.consumerGroup

section Acknowledged

variable {w : RedisWorld} {deliveryId : String} {leased : RedisLeasedDelivery}

/-- A command has its effect when it succeeds. -/
theorem query_done {c : Redis.Cmd RedisPayload} {message : String} :
    Keeps redis (fun _ => True) (fun reply u => ∃ moment,
      w.keys.execute moment c = .ok (reply, u.keys)) (query c message) w := by
  refine Keeps.call trivial ?_
  rintro (error | reply) u answered
  · exact Keeps.fail trivial
  · obtain ⟨moment, keys, executed, rfl⟩ := answered
    exact Keeps.ret trivial ⟨moment, executed⟩

theorem ackEntry_done : Keeps redis (fun _ => True) (fun _ u => ¬ Pending leased u)
    (ackEntry leased.topology leased.entryId) w := by
  simp only [ackEntry, Prog.bind_def, Prog.pure_def]
  refine Keeps.bind (Q := fun _ _ => True) ?_ ?_
  · refine Keeps.call trivial ?_
    rintro (error | reply) u answered
    · exact Keeps.fail trivial
    · exact Keeps.ret trivial trivial
  · intro _ t _ _
    refine query_done.bind ?_
    rintro reply u - ⟨moment, acked⟩
    refine query_done.bind ?_
    rintro reply v - ⟨moment, deleted⟩
    refine Keeps.ret trivial ?_
    rw [Pending, Redis.xdel_pendingAt deleted]
    exact Redis.xack_pendingAt acked

theorem takeLease_done : Keeps redis (fun _ => True) (fun taken u =>
    taken = w.adapter.leased.lookup deliveryId ∧
      u = { w with adapter := { w.adapter with leased := w.adapter.leased.erase deliveryId } })
    (takeLease deliveryId) w := by
  refine Keeps.call trivial ?_
  rintro adapter _ ⟨rfl, rfl⟩
  refine Keeps.call trivial ?_
  rintro ⟨⟩ _ rfl
  exact Keeps.ret trivial ⟨rfl, rfl⟩

/-- An acknowledgement of a lease that succeeds was accepted. -/
theorem ack_done (held : w.adapter.leased.lookup deliveryId = some leased) :
    Keeps redis (fun _ => True) (fun _ u => ¬ Pending leased u) (ack deliveryId) w := by
  refine takeLease_done.bind ?_
  rintro taken u - ⟨rfl, rfl⟩
  rw [held]
  exact ackEntry_done

end Acknowledged

/-- A settle operation on a lease is sound exactly when no command in it fails. -/
theorem settlesSoundly_iff {w u : RedisWorld} {deliveryId : String}
    {leased : RedisLeasedDelivery} {failed : Bool} (s : Settle) {result : AppResult s.Result}
    (held : w.adapter.leased.lookup deliveryId = some leased)
    (run : Exec (redis.noting failure) (settle deliveryId s) (w, false) result (u, failed)) :
    SettlesSoundly s (fun w => (w.adapter.leased.lookup deliveryId).isSome) (¬ Pending leased ·)
      (fun u v => Exec redis (ack deliveryId) u (.ok ()) v) result u ↔ failed = false := by
  obtain ⟨forgotten, rfl⟩ := (settle_noting held s).exec run
  constructor
  · intro sound
    by_contra failing
    have kept := sound.keeps (by simpa using failing)
    rw [forgotten] at kept
    cases kept
  · intro succeeded
    have ok : result.isOk = true := by simpa using succeeded
    refine ⟨?_, ?_, ?_⟩
    · intro failing
      rw [ok] at failing
      cases failing
    · rintro rfl -
      cases result with
      | error error => cases ok
      | ok reply => exact ((ack_done held).exec run.of_noting).2 () rfl
    · intro failing
      rw [ok] at failing
      cases failing

end RedisStreams

namespace Nats

def settle (config : NatsQueueConfig) (deliveryId : String) : (s : Settle) → NatsProg s.Result
  | .ack => ack deliveryId
  | .retry error delayMs => retry config deliveryId error delayMs
  | .reject error => reject config deliveryId error

/-- An answer that means that the server was not reached or refused the command. -/
def failure : NatsWorld → (op : NatsOp) → op.Answer → NatsWorld → Bool
  | _, .command _, .error _, _ => true
  | _, _, _, _ => false

section Failures

variable {config : NatsQueueConfig} {deliveryId : String}

def Forgotten (deliveryId : String) (w : NatsWorld) : Prop := w.leased.lookup deliveryId = none

/-- The programs that fail exactly when a command fails, and lease nothing. -/
abbrev Plain {α : Type} (deliveryId : String) (p : NatsProg α) : Prop :=
  FailsWhen nats failure (Forgotten deliveryId) p

theorem query_plain {c : JetStream.Cmd NatsPayload} (message : String) :
    Plain deliveryId (query c message) := by
  constructor
  intro w forgotten
  refine ⟨forgotten, ?_⟩
  rintro answer ⟨u, noted⟩ ⟨step, same⟩
  have kept : Forgotten deliveryId u := by
    rw [Forgotten, (memory_of_command step).1]
    exact forgotten
  cases answer with
  | ok reply => exact ⟨kept, same⟩
  | error error => exact ⟨kept, same⟩

theorem deadLetter_plain (leased : NatsLeasedDelivery) (error message : String) :
    Plain deliveryId (deadLetter config leased error message) := by
  have clock : Plain deliveryId nowMs :=
    .call (fun _ _ _ forgotten step => ⟨step ▸ forgotten, rfl⟩) fun now => .ret now
  have known : Plain deliveryId (ensureRouteTopology config leased.delivery.task) := by
    refine .call ?_ fun topology => .ret topology
    rintro w reply _ forgotten ⟨-, rfl⟩
    exact ⟨forgotten, rfl⟩
  refine clock.bind fun now => ?_
  refine known.bind fun topology => ?_
  refine FailsWhen.bind ?_ fun _ => (query_plain _).bind fun _ => .ret ()
  refine (query_plain _).bind fun _ => ?_
  exact (query_plain _).bind fun _ => .ret ()

theorem settle_noting {w : NatsWorld} {leased : NatsLeasedDelivery}
    (held : w.leased.lookup deliveryId = some leased) (s : Settle) :
    Safe (nats.noting failure) (fun _ => True)
      (fun result t => Forgotten deliveryId t.1 ∧ t.2 = !result.isOk) (settle config deliveryId s)
      (w, false) := by
  have taken : ∀ {α : Type} {f : Option NatsLeasedDelivery → NatsProg α},
      Plain deliveryId (f (some leased)) →
      Safe (nats.noting failure) (fun _ => True)
        (fun result t => Forgotten deliveryId t.1 ∧ t.2 = !result.isOk)
        ((takeLease deliveryId).bind f) (w, false) := by
    intro α f plain
    refine ⟨trivial, ?_⟩
    rintro found ⟨u, noted⟩ ⟨⟨rfl, rfl⟩, same⟩
    obtain rfl : noted = false := same
    rw [held]
    have gone : Forgotten deliveryId { w with leased := w.leased.erase deliveryId } :=
      AList.lookup_erase _ _
    exact (plain.safe _ gone).mono (fun _ _ => trivial) fun _ _ post => post
  cases s with
  | ack => exact taken ((query_plain _).bind fun _ => .ret ())
  | reject error => exact taken (deadLetter_plain ..)
  | retry error delayMs =>
    refine taken ?_
    dsimp only
    split_ifs
    · exact (deadLetter_plain ..).bind fun _ => .ret _
    · exact (query_plain _).bind fun _ => .ret _

end Failures

/-- The server still has the message of a lease. -/
def Pending (leased : NatsLeasedDelivery) (w : NatsWorld) : Prop :=
  ∃ m ∈ w.server.work, m.sequence = leased.acker

/-- The server carries an acknowledgement out: what it has left is what the acknowledgement
leaves. -/
def carriesOut : NatsWorld × Bool → (op : NatsOp) → op.Answer → NatsWorld × Bool → Bool
  | w, .command (.ack sequence), _, u =>
    decide (u.1.server.work.map (·.sequence) =
      (w.1.server.remove sequence).work.map (·.sequence))
  | _, _, _, _ => false

section CarriedOut

variable {w u : NatsWorld} {deliveryId : String} {leased : NatsLeasedDelivery}

theorem pending_iff :
    Pending leased w ↔ leased.acker ∈ w.server.work.map (·.sequence) :=
  List.mem_map.symm

theorem sequences_elapse (server : JetStream.Server NatsPayload) (due : Nat → Bool) :
    (server.elapse due).work.map (·.sequence) = server.work.map (·.sequence) :=
  List.map_map

theorem sequences_remove (server : JetStream.Server NatsPayload) (sequence : Nat) :
    (server.remove sequence).work.map (·.sequence) =
      (server.work.map (·.sequence)).filter (· ≠ sequence) := by
  rw [List.filter_map]
  rfl

/-- An acknowledgement that was sent is carried out exactly when its message is gone. -/
theorem carriesOut_iff {b c : Bool}
    (answered : nats w (.command (.ack leased.acker)) (.ok ()) u) :
    carriesOut (w, b) (.command (.ack leased.acker)) (.ok ()) (u, c) = true ↔
      ¬ Pending leased u := by
  simp only [carriesOut, decide_eq_true_iff, pending_iff, sequences_remove]
  rcases answered with ⟨due, server, executed, rfl⟩ | ⟨-, due, rfl⟩
  · obtain ⟨⟩ := executed
    rw [sequences_remove, sequences_elapse]
    simp
  · rw [sequences_elapse, eq_comm, List.filter_eq_self]
    grind

/-- An acknowledgement of a lease that succeeds has left its message, unless it was carried out. -/
theorem ack_carriedOut {failed carried : Bool}
    (held : w.leased.lookup deliveryId = some leased)
    (run : Exec ((nats.noting failure).noting carriesOut) (ack deliveryId) ((w, false), false)
      (.ok ()) ((u, failed), carried)) : carried = true ↔ ¬ Pending leased u := by
  obtain ⟨found, ⟨t, _⟩, ⟨⟨rfl, rfl⟩, -⟩, run⟩ := exec_call_noting.1 run
  rw [held] at run
  obtain ⟨answer, ⟨v, _⟩, ⟨answered, -⟩, run⟩ := exec_call_noting.1 run
  cases answer with
  | error error =>
    obtain ⟨ended, -⟩ := exec_fail.1 run
    cases ended
  | ok reply =>
    obtain ⟨-, same⟩ := exec_ret.1 run
    cases same
    exact carriesOut_iff answered

end CarriedOut

/-- A settle operation on a lease is sound exactly when no command in it fails and, for an
acknowledgement, the server carries it out. -/
theorem settlesSoundly_iff {config : NatsQueueConfig} {w u : NatsWorld} {deliveryId : String}
    {leased : NatsLeasedDelivery} {failed carried : Bool} (s : Settle) {result : AppResult s.Result}
    (held : w.leased.lookup deliveryId = some leased)
    (run : Exec ((nats.noting failure).noting carriesOut) (settle config deliveryId s)
      ((w, false), false) result ((u, failed), carried)) :
    SettlesSoundly s (fun w => (w.leased.lookup deliveryId).isSome) (¬ Pending leased ·)
      (fun u v => Exec nats (ack deliveryId) u (.ok ()) v) result u ↔
        failed = false ∧ (s = .ack → carried = true) := by
  obtain ⟨forgotten, rfl⟩ := (settle_noting held s).exec run.of_noting
  have left : s = .ack → result.isOk = true → (carried = true ↔ ¬ Pending leased u) := by
    rintro rfl ok
    cases result with
    | error error => cases ok
    | ok reply => exact ack_carriedOut held run
  constructor
  · intro sound
    have ok : result.isOk = true := by
      by_contra failing
      have kept := sound.keeps (by simpa using failing)
      rw [forgotten] at kept
      cases kept
    exact ⟨by simpa using ok, fun same => (left same ok).2 (sound.accepts same ok)⟩
  · rintro ⟨succeeded, reached⟩
    have ok : result.isOk = true := by simpa using succeeded
    refine ⟨?_, fun same _ => (left same ok).1 (reached same), ?_⟩
    · intro failing
      rw [ok] at failing
      cases failing
    · intro failing
      rw [ok] at failing
      cases failing

end Nats

/-- On both adapters, a settle operation on a lease keeps the lease when it fails and acknowledges
only what the server has accepted, exactly when no command in it fails and the acknowledgement,
which NATS is only sent, is carried out. -/
theorem failed_settle_iff (s : Settle) (deliveryId : String) :
    (∀ (w u : RedisStreams.RedisWorld) (leased : RedisLeasedDelivery) (failed : Bool)
      (result : AppResult s.Result), w.adapter.leased.lookup deliveryId = some leased →
      Exec (RedisStreams.redis.noting RedisStreams.failure) (RedisStreams.settle deliveryId s)
        (w, false) result (u, failed) →
      (SettlesSoundly s (fun w => (w.adapter.leased.lookup deliveryId).isSome)
        (¬ RedisStreams.Pending leased ·)
        (fun u v => Exec RedisStreams.redis (RedisStreams.ack deliveryId) u (.ok ()) v) result u ↔
          failed = false)) ∧
    ∀ (config : NatsQueueConfig) (w u : Nats.NatsWorld) (leased : NatsLeasedDelivery)
      (failed carried : Bool) (result : AppResult s.Result),
      w.leased.lookup deliveryId = some leased →
      Exec ((Nats.nats.noting Nats.failure).noting Nats.carriesOut)
        (Nats.settle config deliveryId s) ((w, false), false) result ((u, failed), carried) →
      (SettlesSoundly s (fun w => (w.leased.lookup deliveryId).isSome) (¬ Nats.Pending leased ·)
        (fun u v => Exec Nats.nats (Nats.ack deliveryId) u (.ok ()) v) result u ↔
          failed = false ∧ (s = .ack → carried = true)) :=
  ⟨fun _ _ _ _ _ held run => RedisStreams.settlesSoundly_iff s held run,
    fun _ _ _ _ _ _ _ held run => Nats.settlesSoundly_iff s held run⟩

/-! ## Runs on a server that answers, and on one that is lost -/

namespace RedisStreams

/-- A server whose answers are noted; a lost one executes nothing. -/
def respondNoting (lost : Bool) (t : RedisWorld × Bool) (op : RedisOp) :
    op.Answer × RedisWorld × Bool :=
  match lost, op with
  | true, .command _ => (.error ⟨none, "connection reset"⟩, t.1, true)
  | _, op =>
    let answered := respond 1000 t.1 op
    (answered.1, answered.2, t.2 || failure t.1 op answered.1 answered.2)

theorem respondNoting_allowed (lost : Bool) (t : RedisWorld × Bool) (op : RedisOp) :
    redis.noting failure t op (respondNoting lost t op).1 (respondNoting lost t op).2 := by
  have answered : redis.noting failure t op (respondNoting false t op).1
      (respondNoting false t op).2 := ⟨respond_allowed 1000 t.1 op, rfl⟩
  cases lost with
  | false => exact answered
  | true =>
    cases op with
    | command c =>
      refine ⟨rfl, ?_⟩
      cases c <;> exact (Bool.or_true t.2).symm
    | _ => exact answered

/-- The delivery of the task that was enqueued and reserved. -/
def sampleId : String := "redis-task-1-1000-0"

def sampleLease : RedisLeasedDelivery :=
  (sampleReserved.world.adapter.leased.lookup sampleId).get (by decide +kernel)

theorem sampleReserved_lookup :
    sampleReserved.world.adapter.leased.lookup sampleId = some sampleLease :=
  (Option.some_get _).symm

/-- An acknowledgement of it, on a server that answers or on one that is lost. -/
def sampleAck (lost : Bool) : AppResult Unit × RedisWorld × Bool :=
  (ack sampleId).eval (respondNoting lost) (sampleReserved.world, false)

theorem exec_sampleAck {lost : Bool} {result : AppResult Unit}
    (returned : (sampleAck lost).1 = result) : Exec (redis.noting failure) (settle sampleId .ack)
      (sampleReserved.world, false) result (sampleAck lost).2 :=
  returned ▸ Exec.of_eval (v := id) (respondNoting_allowed lost) (ack sampleId) _

/-- The acknowledgement that is repeated after the server was lost. -/
def sampleRepeated : AppResult Unit × RedisWorld :=
  (ack sampleId).eval (respond 1000) (sampleAck true).2.1

end RedisStreams

open RedisStreams in
theorem failed_settle_iff_of_sample :
    SettlesSoundly (α := Unit) .ack (fun w => (w.adapter.leased.lookup sampleId).isSome)
      (¬ Pending sampleLease ·) (fun u v => Exec redis (ack sampleId) u (.ok ()) v) (.ok ())
      (sampleAck false).2.1 := by
  have returned : (sampleAck false).1 = .ok () := by decide +kernel
  have run := exec_sampleAck returned
  exact ((failed_settle_iff .ack sampleId).1 _ _ _ _ _ sampleReserved_lookup run).2
    (by decide +kernel)

open RedisStreams in
/-- The server is lost at the acknowledgement of a delivery: the call fails and forgets the
lease, and the acknowledgement succeeds when it is repeated, while the entry is still pending. -/
theorem second_ack_succeeds : ∃ error,
    Exec redis (ack sampleId) sampleReserved.world (.error error) (sampleAck true).2.1 ∧
    (sampleAck true).2.1.adapter.leased.lookup sampleId = none ∧
    Exec redis (ack sampleId) (sampleAck true).2.1 (.ok ()) sampleRepeated.2 ∧
    Pending sampleLease sampleRepeated.2 ∧
    ¬ SettlesSoundly (α := Unit) .ack (fun w => (w.adapter.leased.lookup sampleId).isSome)
      (¬ Pending sampleLease ·) (fun u v => Exec redis (ack sampleId) u (.ok ()) v)
      (.error error) (sampleAck true).2.1 := by
  have failing : (sampleAck true).1.isOk = false := by decide +kernel
  have forgotten : ((sampleAck true).2.1.adapter.leased.lookup sampleId).isSome = false := by
    decide +kernel
  have again : sampleRepeated.1 = .ok () := by decide +kernel
  have pending : sampleLease.entryId ∈ sampleRepeated.2.keys.pendingAt
      sampleLease.topology.streamKey sampleLease.topology.consumerGroup := by decide +kernel
  obtain ⟨error, returned⟩ : ∃ error, (sampleAck true).1 = .error error := by
    cases result : (sampleAck true).1 with
    | ok reply =>
      rw [result] at failing
      cases failing
    | error error => exact ⟨error, rfl⟩
  have repeated : Exec redis (ack sampleId) (sampleAck true).2.1 (.ok ()) sampleRepeated.2 :=
    again ▸ Exec.of_eval (v := id) (respond_allowed 1000) (ack sampleId) _
  refine ⟨error, (exec_sampleAck returned).of_noting, ?_, repeated, pending, ?_⟩
  · simpa using forgotten
  · intro sound
    exact absurd (sound.keeps rfl) (by rw [forgotten]; exact Bool.false_ne_true)

end NexusCore.Runtime
