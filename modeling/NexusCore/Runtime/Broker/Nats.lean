import NexusCore.Lib.JetStream
import NexusCore.Lib.Program
import NexusCore.Runtime.Broker.Replay

/-!
# The NATS adapter

Every call of the adapter is a program over single JetStream commands and over its own memory:
its leases and the route catalog. The number of the attempt is what the server counts; nothing
is written when a delivery is given back.

A payload is kept as the value that was serialised. Serialisation itself never fails. An
acknowledgement is sent without waiting for the server.
-/

namespace NexusCore.Runtime

open NexusCore.Lib

structure NatsEnvelope where
  task : RuntimeTask
  lastError : Option String
  deriving DecidableEq, Repr

inductive NatsPayload where
  | envelope (envelope : NatsEnvelope)
  | record (record : RuntimeDeadLetterRecord)
  deriving DecidableEq, Repr

namespace NatsPayload

/-- Unknown fields are ignored and a missing `last_error` is none, so the text of a
dead-letter record also reads as an envelope. -/
def asEnvelope : NatsPayload → Option NatsEnvelope
  | .envelope e => some e
  | .record r => some { task := r.task, lastError := none }

def asRecord : NatsPayload → Option RuntimeDeadLetterRecord
  | .record r => some r
  | .envelope _ => none

end NatsPayload

/-- The number of the message that the lease acknowledges, and its delivery. -/
structure NatsLeasedDelivery where
  acker : Nat
  delivery : RuntimeTaskDelivery
  deriving DecidableEq, Repr

abbrev NatsLeases : Type := AList fun _ : String => NatsLeasedDelivery

def natsError (message : String) : AppError := .database message

inductive NatsOp where
  | command (c : JetStream.Cmd NatsPayload)
  | nowMs
  | parse (payload : NatsPayload)
  | insertLease (leased : NatsLeasedDelivery)
  | removeLease (deliveryId : String)
  | leases
  | catalog (c : CatalogCmd NatsRouteTopology)

def NatsOp.Answer : NatsOp → Type
  | .command c => Except String c.Reply
  | .nowMs => UInt64
  | .parse _ => Bool
  | .insertLease _ => Unit
  | .removeLease _ => Option NatsLeasedDelivery
  | .leases => NatsLeases
  | .catalog c => c.Reply

abbrev NatsProg (α : Type) : Type := Prog NatsOp NatsOp.Answer AppError α

namespace Nats

def nowMs : NatsProg UInt64 := .call .nowMs .ret

/-- A command whose failure ends the call. -/
def query (c : JetStream.Cmd NatsPayload) (message : String) : NatsProg c.Reply :=
  .call (.command c) fun
    | .ok reply => .ret reply
    | .error error => .fail (natsError (message ++ ": " ++ error))

theorem query_issues {P : NatsOp → Prop} {c : JetStream.Cmd NatsPayload} {message : String}
    (issued : P (.command c)) : (query c message).Issues P := by
  refine .call issued ?_
  rintro (error | reply)
  · exact .fail
  · exact .ret

def decode {α : Type} (read : NatsPayload → Option α) (payload : NatsPayload) : NatsProg α :=
  .call (.parse payload) fun parses =>
    match parses, read payload with
    | true, some value => .ret value
    | _, _ => .fail .internal

def catalog (c : CatalogCmd NatsRouteTopology) : NatsProg c.Reply := .call (.catalog c) .ret

/-- Remove a lease from the adapter's memory. -/
def takeLease (deliveryId : String) : NatsProg (Option NatsLeasedDelivery) :=
  .call (.removeLease deliveryId) .ret

/-- The consumer of a route, created when it is not there. -/
def consumer (topology : NatsRouteTopology) : NatsProg String := do
  let _ ← query (.getOrCreateConsumer topology.consumerName topology.subject)
    ("failed to create nats consumer " ++ topology.consumerName)
  pure topology.consumerName

def ensureTopology (topology : NatsRouteTopology) : NatsProg Unit := do
  let _ ← consumer topology
  pure ()

/-- Publish a payload and wait until the server confirms it. -/
def publishConfirmed (subject : String) (payload : NatsPayload) (failure unconfirmed : String) :
    NatsProg Unit := do
  let _ ← query (.publish subject payload) failure
  let _ ← query (.awaitConfirm subject payload) unconfirmed
  pure ()

def publishEnvelope (topology : NatsRouteTopology) (envelope : NatsEnvelope) : NatsProg Unit := do
  ensureTopology topology
  publishConfirmed topology.subject (.envelope envelope) "failed to publish runtime task to nats"
    "nats did not confirm runtime task publish"

def publishDeadLetterRecord (topology : NatsRouteTopology) (record : RuntimeDeadLetterRecord) :
    NatsProg Unit :=
  publishConfirmed topology.deadLetterSubject (.record record)
    "failed to publish dead-letter record to nats" "nats did not confirm dead-letter record publish"

/-- The topology of a task's route, which the catalog learns. -/
def ensureRouteTopology (config : NatsQueueConfig) (task : RuntimeTask) :
    NatsProg NatsRouteTopology :=
  catalog (.getOrInsertWith task.route (buildNatsRouteTopology config task.queue task.lane))

/-- The records with the given numbers. A number without a message is skipped. -/
def loadRecords : List Nat → NatsProg (List (Nat × RuntimeDeadLetterRecord))
  | [] => pure []
  | sequence :: rest => do
    let payload : Option NatsPayload ← query (.getLogged sequence)
      ("failed to load nats dead-letter message " ++ toString sequence)
    match payload with
    | none => loadRecords rest
    | some payload => do
      let record ← decode NatsPayload.asRecord payload
      let records ← loadRecords rest
      pure ((sequence, record) :: records)

def loadDeadLetters : NatsProg (List (Nat × RuntimeDeadLetterRecord)) := do
  let info : JetStream.LogState ← query .logInfo "failed to inspect nats dead-letter stream"
  if info.messages = 0 then pure []
  else loadRecords (List.range' info.firstSequence (info.lastSequence + 1 - info.firstSequence))

def findDeadLetterReplay (config : NatsQueueConfig) (deliveryId : String) :
    NatsProg (Option (DeadLetterReplay NatsRouteTopology Nat)) := do
  let records ← loadDeadLetters
  match records.find? fun record => record.2.deliveryId == deliveryId with
  | none => pure none
  | some (sequence, record) => do
    let topology ← ensureRouteTopology config record.task
    pure (some ⟨topology, record, sequence⟩)

def removeReplayedDeadLetterSequence (sequence : Nat) : NatsProg Unit := do
  let _ ← query (.deleteLogged sequence)
    ("failed to delete replayed nats dead-letter message " ++ toString sequence)
  pure ()

def deadLetterStore (config : NatsQueueConfig) :
    BrokerDeadLetterStore NatsOp NatsOp.Answer NatsRouteTopology Nat where
  findDeadLetterForReplay := findDeadLetterReplay config
  removeReplayedDeadLetter replay := removeReplayedDeadLetterSequence replay.stored

/-- Hand out a message of the work queue under a lease. -/
def lease (config : NatsQueueConfig) (message : JetStream.Delivered NatsPayload) :
    NatsProg RuntimeTaskDelivery := do
  let envelope ← decode NatsPayload.asEnvelope message.payload
  let now ← nowMs
  let delivery : RuntimeTaskDelivery :=
    { deliveryId := "nats-" ++ envelope.task.taskId ++ "-" ++ toString message.streamSequence
      attempt := message.delivered
      leasedUntil := some (now + config.ackWaitMs)
      lastError := envelope.lastError
      task := envelope.task }
  .call (.insertLease { acker := message.streamSequence, delivery := delivery }) fun _ =>
    .ret delivery

/-- The first message of a route, if there is one. -/
def reserveRoute (config : NatsQueueConfig) (route : Route) (topology : NatsRouteTopology) :
    NatsProg (Option RuntimeTaskDelivery) := do
  ensureTopology topology
  let name ← consumer topology
  let fetched : Option (JetStream.Delivered NatsPayload) ← query (.fetch name)
    "failed to fetch runtime task from nats"
  match fetched with
  | none => pure none
  | some message => do
    let _ ← catalog (.rotate route)
    let delivery ← lease config message
    pure (some delivery)

/-- The routes in order, up to the first delivery. -/
def reserveRoutes (config : NatsQueueConfig) :
    List Route → NatsProg (Option RuntimeTaskDelivery)
  | [] => pure none
  | route :: rest => do
    let known : Option NatsRouteTopology ← catalog (.get route)
    match known with
    | none => reserveRoutes config rest
    | some topology => do
      let found ← reserveRoute config route topology
      match found with
      | some delivery => pure (some delivery)
      | none => reserveRoutes config rest

def reserveFromBroker (config : NatsQueueConfig) (bindings : List RuntimeRouteBinding) :
    NatsProg (Option RuntimeTaskDelivery) := do
  let routes : List Route ← catalog (.orderedRoutes bindings)
  reserveRoutes config routes

/-- Store a dead-letter record of a delivery and acknowledge its message. -/
def deadLetter (config : NatsQueueConfig) (leased : NatsLeasedDelivery) (error message : String) :
    NatsProg Unit := do
  let now ← nowMs
  let topology ← ensureRouteTopology config leased.delivery.task
  publishDeadLetterRecord topology (buildDeadLetterRecord leased.delivery error now)
  let _ ← query (.ack leased.acker) message
  pure ()

/-- The envelope that starts a dead task over. -/
def replayOf (record : RuntimeDeadLetterRecord) : NatsEnvelope where
  task := record.task
  lastError := some ("replayed from dead letter: " ++ record.error)

/-- One row of the statistics. -/
def routeStats (leases : NatsLeases) (deadLetters : List (Nat × RuntimeDeadLetterRecord))
    (topology : NatsRouteTopology) : NatsProg RuntimeQueueStats := do
  let name ← consumer topology
  let pending : Nat ← query (.consumerInfo name)
    ("failed to inspect nats consumer " ++ topology.consumerName)
  pure
    { queue := topology.queue
      lane := topology.lane
      queued := pending
      leased := leases.entries.countP fun entry =>
        entry.2.delivery.task.queue = topology.queue ∧ entry.2.delivery.task.lane = topology.lane
      deadLettered := deadLetters.countP fun item =>
        item.2.queue = topology.queue ∧ item.2.lane = topology.lane }

def statsRows (leases : NatsLeases) (deadLetters : List (Nat × RuntimeDeadLetterRecord)) :
    List NatsRouteTopology → NatsProg (List RuntimeQueueStats)
  | [] => pure []
  | topology :: rest => do
    let row ← routeStats leases deadLetters topology
    let rows ← statsRows leases deadLetters rest
    pure (row :: rows)

/-! ## The calls of the adapter -/

def enqueue (config : NatsQueueConfig) (task : RuntimeTask) : NatsProg Unit := do
  let topology ← ensureRouteTopology config task
  publishEnvelope topology { task := task, lastError := none }

def reserve (config : NatsQueueConfig) (bindings : List RuntimeRouteBinding) :
    NatsProg (Option RuntimeTaskDelivery) := do
  let result ← (reserveFromBroker config bindings).attempt
  match result with
  | .ok delivery => pure delivery
  | .error _ => pure none

def ack (deliveryId : String) : NatsProg Unit := do
  let leased ← takeLease deliveryId
  match leased with
  | none => pure ()
  | some leased => do
    let _ ← query (.ack leased.acker) ("failed to ack nats delivery " ++ deliveryId)
    pure ()

def retry (config : NatsQueueConfig) (deliveryId error : String) (delayMs : UInt64) :
    NatsProg RetryDisposition := do
  let leased ← takeLease deliveryId
  match leased with
  | none => throw .internal
  | some leased =>
    if leased.delivery.attempt ≥ leased.delivery.task.retryPolicy.maxAttempts then do
      deadLetter config leased error ("failed to ack dead-lettered nats delivery " ++ deliveryId)
      pure .deadLettered
    else do
      let _ ← query (.nak leased.acker delayMs) ("failed to retry nats delivery " ++ deliveryId)
      pure .requeued

def reject (config : NatsQueueConfig) (deliveryId error : String) : NatsProg Unit := do
  let leased ← takeLease deliveryId
  match leased with
  | none => pure ()
  | some leased =>
    deadLetter config leased error ("failed to reject nats delivery " ++ deliveryId)

/-- The leases stay locked while the server is asked. -/
def stats : NatsProg (List RuntimeQueueStats) := do
  let topologies : List NatsRouteTopology ← catalog .topologies
  let leases ← (.call .leases .ret : NatsProg NatsLeases)
  let deadLetters ← loadDeadLetters
  statsRows leases deadLetters topologies

def deadLetters : NatsProg (List RuntimeDeadLetterRecord) := do
  let records ← loadDeadLetters
  pure (records.map (·.2))

def replayDeadLetter (config : NatsQueueConfig) (deliveryId : String) :
    NatsProg RuntimeQueueReceipt :=
  replayDeadLetterWithStore (deadLetterStore config) deliveryId fun topology record =>
    publishEnvelope topology (replayOf record)

end Nats

end NexusCore.Runtime
