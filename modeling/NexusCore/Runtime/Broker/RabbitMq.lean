import NexusCore.Lib.Amqp
import NexusCore.Lib.Program
import NexusCore.Runtime.Broker.Replay

/-!
# The RabbitMQ adapter

Every call of the adapter is a program over single AMQP commands and over the sections of the
adapter's own memory: its channel and its leases, each behind a mutex that a call locks and
unlocks, and the route catalog. A command that fails invalidates the channel and forgets the
leases; the next call opens another channel.

A payload is kept as the value that was serialised. Serialisation itself never fails. A loop
that reads a queue until it is empty is given the number of rounds it may take; a run that
needs more rounds never ends.
-/

namespace NexusCore.Runtime

open NexusCore.Lib

structure RabbitMqEnvelope where
  task : RuntimeTask
  attempt : Nat
  lastError : Option String
  deriving DecidableEq, Repr

structure RabbitMqRouteRegistryEntry where
  queue : String
  lane : String
  deriving DecidableEq, Repr

inductive RabbitMqPayload where
  | envelope (envelope : RabbitMqEnvelope)
  | record (record : RuntimeDeadLetterRecord)
  | route (entry : RabbitMqRouteRegistryEntry)
  deriving DecidableEq, Repr

namespace RabbitMqPayload

/-- Unknown fields are ignored and a missing `last_error` is none, so the text of a
dead-letter record also reads as an envelope. -/
def asEnvelope : RabbitMqPayload → Option RabbitMqEnvelope
  | .envelope e => some e
  | .record r => some { task := r.task, attempt := r.attempt, lastError := none }
  | .route _ => none

def asRecord : RabbitMqPayload → Option RuntimeDeadLetterRecord
  | .record r => some r
  | .envelope _ | .route _ => none

def asRoute : RabbitMqPayload → Option RabbitMqRouteRegistryEntry
  | .route entry => some entry
  | .record r => some { queue := r.queue, lane := r.lane }
  | .envelope _ => none

/-- The task that a payload carries. -/
def task? : RabbitMqPayload → Option RuntimeTask
  | .envelope e => some e.task
  | .record r => some r.task
  | .route _ => none

/-- The payload is a copy of a task. -/
def carries (task : RuntimeTask) (payload : RabbitMqPayload) : Bool := payload.task? == some task

end RabbitMqPayload

structure RabbitMqLeasedDelivery where
  deliveryTag : Amqp.DeliveryTag
  topology : RabbitMqRouteTopology
  delivery : RuntimeTaskDelivery
  deriving DecidableEq, Repr

/-- The leases of an adapter, each under the id of its delivery. -/
structure RabbitMqLeases where
  table : AList fun _ : String => RabbitMqLeasedDelivery
  keyed : ∀ deliveryId leased, table.lookup deliveryId = some leased →
    leased.delivery.deliveryId = deliveryId

namespace RabbitMqLeases

def empty : RabbitMqLeases where
  table := ∅
  keyed deliveryId leased found := by
    rw [AList.lookup_empty] at found
    cases found

def insert (leases : RabbitMqLeases) (leased : RabbitMqLeasedDelivery) : RabbitMqLeases where
  table := leases.table.insert leased.delivery.deliveryId leased
  keyed deliveryId other found := by
    rcases of_lookup_insert found with ⟨rfl, rfl⟩ | ⟨-, old⟩
    · rfl
    · exact leases.keyed deliveryId other old

def erase (leases : RabbitMqLeases) (deliveryId : String) : RabbitMqLeases where
  table := leases.table.erase deliveryId
  keyed other leased found := leases.keyed other leased (of_lookup_erase found).2

def find (leases : RabbitMqLeases) (deliveryId : String) : Option RabbitMqLeasedDelivery :=
  leases.table.lookup deliveryId

/-- The leases of a route. -/
def count (leases : RabbitMqLeases) (queue lane : String) : Nat :=
  leases.table.entries.countP fun entry =>
    entry.2.delivery.task.queue = queue ∧ entry.2.delivery.task.lane = lane

@[simp] theorem find_empty (deliveryId : String) : empty.find deliveryId = none := rfl

@[simp] theorem find_erase (leases : RabbitMqLeases) (deliveryId : String) :
    (leases.erase deliveryId).find deliveryId = none :=
  AList.lookup_erase _ _

/-- What is found behind a new lease is that lease or an older one. -/
theorem find_insert {leases : RabbitMqLeases} {leased other : RabbitMqLeasedDelivery}
    {deliveryId : String} (found : (leases.insert leased).find deliveryId = some other) :
    other = leased ∨ leases.find deliveryId = some other := by
  rcases of_lookup_insert found with ⟨-, rfl⟩ | ⟨-, old⟩
  · exact .inl rfl
  · exact .inr old

theorem find_of_erase {leases : RabbitMqLeases} {leased : RabbitMqLeasedDelivery}
    {removed deliveryId : String} (found : (leases.erase removed).find deliveryId = some leased) :
    leases.find deliveryId = some leased :=
  (of_lookup_erase found).2

theorem find_erase_ne {leases : RabbitMqLeases} {deliveryId other : String}
    (ne : other ≠ deliveryId) : (leases.erase deliveryId).find other = leases.find other :=
  AList.lookup_erase_ne ne

end RabbitMqLeases

def rabbitmqError (message : String) : AppError := .database message

/-- The mutexes of an adapter. -/
inductive RabbitMqMutex where
  | transport
  | leased
  deriving DecidableEq, Repr

inductive RabbitMqOp where
  | command (c : Amqp.Cmd RabbitMqPayload)
  | isConnected (channel : Nat)
  | nowMs
  | parse (payload : RabbitMqPayload)
  | lock (mutex : RabbitMqMutex)
  | unlock (mutex : RabbitMqMutex)
  | transport
  | setTransport (channel : Option Nat)
  | findLease (deliveryId : String)
  | insertLease (leased : RabbitMqLeasedDelivery)
  | removeLease (deliveryId : String)
  | clearLeases
  | countLeases (queue lane : String)
  | catalog (c : CatalogCmd RabbitMqRouteTopology)
  | exhausted

def RabbitMqOp.Answer : RabbitMqOp → Type
  | .command c => Except String c.Reply
  | .isConnected _ | .parse _ => Bool
  | .nowMs => UInt64
  | .transport => Option Nat
  | .findLease _ | .removeLease _ => Option RabbitMqLeasedDelivery
  | .countLeases .. => Nat
  | .catalog c => c.Reply
  | .lock _ | .unlock _ | .setTransport _ | .insertLease _ | .clearLeases => Unit
  | .exhausted => Empty

abbrev RabbitMqProg (α : Type) : Type := Prog RabbitMqOp RabbitMqOp.Answer AppError α

namespace RabbitMq

def nowMs : RabbitMqProg UInt64 := .call .nowMs .ret

def decode {α : Type} (read : RabbitMqPayload → Option α) (payload : RabbitMqPayload) :
    RabbitMqProg α :=
  .call (.parse payload) fun parses =>
    match parses, read payload with
    | true, some value => .ret value
    | _, _ => .fail .internal

/-- A section under a mutex. The mutex is released also when the section fails. -/
def locked {α : Type} (mutex : RabbitMqMutex) (section_ : RabbitMqProg α) : RabbitMqProg α :=
  .call (.lock mutex) fun _ => section_.attempt.bind fun result =>
    .call (.unlock mutex) fun _ => .lift result

def catalog (c : CatalogCmd RabbitMqRouteTopology) : RabbitMqProg c.Reply :=
  .call (.catalog c) .ret

/-- A step of `connect_transport`. -/
def connectStep (c : Amqp.Cmd RabbitMqPayload) (message : String) : RabbitMqProg c.Reply :=
  .call (.command c) fun
    | .ok reply => .ret reply
    | .error error => .fail (rabbitmqError (message ++ ": " ++ error))

def connectTransport : RabbitMqProg Nat := do
  let _ ← connectStep .connect "failed to connect rabbitmq"
  let channel : Nat ← connectStep .createChannel "failed to create rabbitmq channel"
  let _ ← connectStep (.confirmSelect channel) "failed to enable rabbitmq publisher confirms"
  pure channel

def clearLeases : RabbitMqProg Unit := locked .leased (.call .clearLeases .ret)

/-- Open a channel and make it the one of the adapter. The flag says that it is another one. -/
def reconnect : RabbitMqProg (Nat × Bool) := do
  let channel ← connectTransport
  .call (.setTransport (some channel)) fun _ => .ret (channel, true)

/-- The channel of the adapter, under its lock: the one it has, if that is connected, or
another one. -/
def currentTransport : RabbitMqProg (Nat × Bool) :=
  .call .transport fun
    | none => reconnect
    | some channel => .call (.isConnected channel) fun
      | true => .ret (channel, false)
      | false => reconnect

/-- The leases of the last channel are forgotten after the lock has been released. -/
def activeTransport : RabbitMqProg Nat := do
  let transport ← locked .transport currentTransport
  if transport.2 then clearLeases
  pure transport.1

def invalidateTransport : RabbitMqProg Unit := do
  locked .transport (.call (.setTransport none) .ret)
  clearLeases

/-- A command whose failure invalidates the channel and ends the call. -/
def withTransportResult (c : Amqp.Cmd RabbitMqPayload) (message : String) : RabbitMqProg c.Reply :=
  .call (.command c) fun
    | .ok reply => .ret reply
    | .error error =>
      invalidateTransport.bind fun _ => .fail (rabbitmqError (message ++ ": " ++ error))

/-- Declare the exchanges and queues of a route. Retries expire into its work queue. -/
def ensureTopology (channel : Nat) (topology : RabbitMqRouteTopology) : RabbitMqProg Unit := do
  let _ ← withTransportResult (.exchangeDeclare channel topology.exchange)
    ("failed to declare rabbitmq exchange " ++ topology.exchange)
  let _ ← withTransportResult (.exchangeDeclare channel topology.retryExchange)
    ("failed to declare rabbitmq retry exchange " ++ topology.retryExchange)
  let _ ← withTransportResult (.exchangeDeclare channel topology.deadLetterExchange)
    ("failed to declare rabbitmq dead-letter exchange " ++ topology.deadLetterExchange)
  let _ ← withTransportResult (.queueDeclare channel topology.queueName none)
    ("failed to declare rabbitmq queue " ++ topology.queueName)
  let _ ← withTransportResult
    (.queueBind channel topology.queueName topology.exchange topology.routingKey)
    ("failed to bind rabbitmq queue " ++ topology.queueName)
  let _ ← withTransportResult (.queueDeclare channel topology.retryQueueName
    (some (topology.exchange, topology.routingKey)))
    ("failed to declare rabbitmq retry queue " ++ topology.retryQueueName)
  let _ ← withTransportResult
    (.queueBind channel topology.retryQueueName topology.retryExchange topology.retryRoutingKey)
    ("failed to bind rabbitmq retry queue " ++ topology.retryQueueName)
  let _ ← withTransportResult (.queueDeclare channel topology.deadLetterQueueName none)
    ("failed to declare rabbitmq dead-letter queue " ++ topology.deadLetterQueueName)
  let _ ← withTransportResult (.queueBind channel topology.deadLetterQueueName
    topology.deadLetterExchange topology.deadLetterRoutingKey)
    ("failed to bind rabbitmq dead-letter queue " ++ topology.deadLetterQueueName)
  pure ()

/-- Publish a persistent message and wait until the broker confirms it. -/
def publishConfirmed (channel : Nat) (exchange routingKey : String) (payload : RabbitMqPayload)
    (expirationMs : Option UInt64) (failure unconfirmed : String) : RabbitMqProg Unit := do
  let _ ← withTransportResult
    (.basicPublish channel exchange routingKey payload expirationMs) failure
  let _ ← withTransportResult
    (.awaitConfirm channel exchange routingKey payload expirationMs) unconfirmed
  pure ()

/-- Both `publish_envelope` and `publish_raw_payload`, which differ in the payload alone. -/
def publishRawPayload (topology : RabbitMqRouteTopology) (exchange routingKey : String)
    (payload : RabbitMqPayload) (expirationMs : Option UInt64) : RabbitMqProg Unit := do
  let channel ← activeTransport
  ensureTopology channel topology
  publishConfirmed channel exchange routingKey payload expirationMs
    "failed to publish runtime task" "rabbitmq did not confirm runtime task publish"

def publishEnvelope (topology : RabbitMqRouteTopology) (exchange routingKey : String)
    (envelope : RabbitMqEnvelope) (expirationMs : Option UInt64) : RabbitMqProg Unit :=
  publishRawPayload topology exchange routingKey (.envelope envelope) expirationMs

def publishDeadLetterRecord (topology : RabbitMqRouteTopology)
    (record : RuntimeDeadLetterRecord) : RabbitMqProg Unit :=
  publishRawPayload topology topology.deadLetterExchange topology.deadLetterRoutingKey
    (.record record) none

/-- Hand out a message of a work queue under a lease. -/
def lease (topology : RabbitMqRouteTopology) (tag : Amqp.DeliveryTag) (payload : RabbitMqPayload) :
    RabbitMqProg RuntimeTaskDelivery := do
  let envelope ← decode RabbitMqPayload.asEnvelope payload
  let delivery : RuntimeTaskDelivery :=
    { deliveryId := "rmq-" ++ envelope.task.taskId ++ "-" ++ toString tag.number
      attempt := envelope.attempt
      leasedUntil := none
      lastError := envelope.lastError
      task := envelope.task }
  locked .leased (.call
    (.insertLease { deliveryTag := tag, topology := topology, delivery := delivery }) .ret)
  pure delivery

/-- The first message of a route, if there is one. -/
def reserveRoute (channel : Nat) (route : Route) (topology : RabbitMqRouteTopology) :
    RabbitMqProg (Option RuntimeTaskDelivery) := do
  let first : Option (Amqp.DeliveryTag × RabbitMqPayload) ←
    withTransportResult (.basicGet channel topology.queueName)
      ("failed to reserve runtime task from " ++ topology.queueName)
  match first with
  | none => pure none
  | some (tag, payload) => do
    let _ ← catalog (.rotate route)
    let delivery ← lease topology tag payload
    pure (some delivery)

/-- The routes in order, up to the first delivery. -/
def reserveRoutes (channel : Nat) : List Route → RabbitMqProg (Option RuntimeTaskDelivery)
  | [] => pure none
  | route :: rest => do
    let known : Option RabbitMqRouteTopology ← catalog (.get route)
    match known with
    | none => reserveRoutes channel rest
    | some topology => do
      let found ← reserveRoute channel route topology
      match found with
      | some delivery => pure (some delivery)
      | none => reserveRoutes channel rest

def reserveFromBroker (bindings : List RuntimeRouteBinding) :
    RabbitMqProg (Option RuntimeTaskDelivery) := do
  let channel ← activeTransport
  let routes : List Route ← catalog (.orderedRoutes bindings)
  reserveRoutes channel routes

/-- Remove a lease from the adapter's memory. -/
def takeLease (deliveryId : String) : RabbitMqProg (Option RabbitMqLeasedDelivery) :=
  locked .leased (.call (.removeLease deliveryId) .ret)

/-- Acknowledge the message of a lease, if the adapter still remembers it. -/
def ackBrokerDelivery (deliveryId : String) : RabbitMqProg Unit := do
  let channel ← activeTransport
  let leased ← takeLease deliveryId
  match leased with
  | none => pure ()
  | some leased => do
    let _ ← withTransportResult (.basicAck channel leased.deliveryTag)
      ("failed to ack rabbitmq delivery " ++ toString leased.deliveryTag.number)
    pure ()

def persistRouteRegistry (config : RabbitMqQueueConfig) (topology : RabbitMqRouteTopology) :
    RabbitMqProg Unit := do
  let channel ← activeTransport
  let _ ← withTransportResult (.queueDeclare channel (rabbitmqRouteRegistryQueueName config) none)
    ("failed to declare rabbitmq route registry queue " ++ rabbitmqRouteRegistryQueueName config)
  publishConfirmed channel "" (rabbitmqRouteRegistryQueueName config)
    (.route { queue := topology.queue, lane := topology.lane }) none
    "failed to publish rabbitmq route registry entry"
    "rabbitmq did not confirm route registry publish"

/-- A message that was read from a queue to be put back. -/
structure RabbitMqDrained (α : Type) where
  deliveryTag : Amqp.DeliveryTag
  payload : RabbitMqPayload
  value : α

/-- Read a queue until it is empty. A payload that does not parse ends the call. -/
def drainQueue {α : Type} (channel : Nat) (queue failure : String)
    (read : RabbitMqPayload → Option α) : Nat → RabbitMqProg (List (RabbitMqDrained α))
  | 0 => .call .exhausted fun never => nomatch never
  | rounds + 1 => do
    let first : Option (Amqp.DeliveryTag × RabbitMqPayload) ←
      withTransportResult (.basicGet channel queue) failure
    match first with
    | none => pure []
    | some (tag, payload) => do
      let value ← decode read payload
      let rest ← drainQueue channel queue failure read rounds
      pure (⟨tag, payload, value⟩ :: rest)

/-- Register the routes of the entries, each once. -/
def registerRoutes (config : RabbitMqQueueConfig) (channel : Nat)
    (seen : List RabbitMqRouteRegistryEntry) :
    List (RabbitMqDrained RabbitMqRouteRegistryEntry) → RabbitMqProg Unit
  | [] => pure ()
  | entry :: rest =>
    if entry.value ∈ seen then registerRoutes config channel seen rest
    else do
      let topology := buildRouteTopology config entry.value.queue entry.value.lane
      ensureTopology channel topology
      let _ ← catalog (.registerRoute (entry.value.queue, entry.value.lane) topology)
      registerRoutes config channel (entry.value :: seen) rest

/-- Put the entries of the registry back and acknowledge the ones that were read. -/
def restoreRegistry (channel : Nat) (queue : String) :
    List (RabbitMqDrained RabbitMqRouteRegistryEntry) → RabbitMqProg Unit
  | [] => pure ()
  | entry :: rest => do
    publishConfirmed channel "" queue entry.payload none
      "failed to restore rabbitmq route registry entry"
      "rabbitmq did not confirm route registry restore publish"
    let _ ← withTransportResult (.basicAck channel entry.deliveryTag)
      ("failed to ack rabbitmq route registry entry " ++ toString entry.deliveryTag.number)
    restoreRegistry channel queue rest

def ensureRegisteredRoutesLoaded (config : RabbitMqQueueConfig) (rounds : Nat) :
    RabbitMqProg Unit := do
  let channel ← activeTransport
  let _ ← withTransportResult (.queueDeclare channel (rabbitmqRouteRegistryQueueName config) none)
    ("failed to declare rabbitmq route registry queue " ++ rabbitmqRouteRegistryQueueName config)
  let entries ← drainQueue channel (rabbitmqRouteRegistryQueueName config)
    ("failed to read rabbitmq route registry queue " ++ rabbitmqRouteRegistryQueueName config)
    RabbitMqPayload.asRoute rounds
  registerRoutes config channel [] entries
  restoreRegistry channel (rabbitmqRouteRegistryQueueName config) entries

/-- A dead letter that was read from its queue. -/
abbrev RabbitMqDeadLetterMessage : Type := RabbitMqDrained RuntimeDeadLetterRecord

def drainDeadLetterQueue (topology : RabbitMqRouteTopology) (rounds : Nat) :
    RabbitMqProg (List RabbitMqDeadLetterMessage) := do
  let channel ← activeTransport
  ensureTopology channel topology
  drainQueue channel topology.deadLetterQueueName
    ("failed to reserve dead-letter record from " ++ topology.deadLetterQueueName)
    RabbitMqPayload.asRecord rounds

/-- The channel is the one of the start of the restoration, whatever the publications do. -/
def restoreMessages (channel : Nat) (topology : RabbitMqRouteTopology) :
    List RabbitMqDeadLetterMessage → RabbitMqProg Unit
  | [] => pure ()
  | message :: rest => do
    publishRawPayload topology topology.deadLetterExchange topology.deadLetterRoutingKey
      message.payload none
    let _ ← withTransportResult (.basicAck channel message.deliveryTag)
      ("failed to ack rabbitmq dead-letter delivery " ++ toString message.deliveryTag.number)
    restoreMessages channel topology rest

def restoreDeadLetterQueue (topology : RabbitMqRouteTopology)
    (messages : List RabbitMqDeadLetterMessage) : RabbitMqProg Unit := do
  let channel ← activeTransport
  restoreMessages channel topology messages

/-- The records of the routes, each queue drained and restored. -/
def loadFrom (rounds : Nat) : List RabbitMqRouteTopology →
    RabbitMqProg (List RuntimeDeadLetterRecord)
  | [] => pure []
  | topology :: rest => do
    let messages ← drainDeadLetterQueue topology rounds
    restoreDeadLetterQueue topology messages
    let records ← loadFrom rounds rest
    pure (messages.map (·.value) ++ records)

def loadDeadLettersFromBroker (config : RabbitMqQueueConfig) (rounds : Nat) :
    RabbitMqProg (List RuntimeDeadLetterRecord) := do
  ensureRegisteredRoutesLoaded config rounds
  let topologies : List RabbitMqRouteTopology ← catalog .topologies
  loadFrom rounds topologies

structure RabbitMqDeadLetterReplay where
  target : RabbitMqDeadLetterMessage
  remaining : List RabbitMqDeadLetterMessage

/-- The first message with a delivery id, and the others. -/
def splitTarget (deliveryId : String) :
    List RabbitMqDeadLetterMessage → Option RabbitMqDeadLetterReplay
  | [] => none
  | message :: rest =>
    if message.value.deliveryId = deliveryId then some ⟨message, rest⟩
    else (splitTarget deliveryId rest).map fun found =>
      ⟨found.target, message :: found.remaining⟩

/-- The target of a replay and the other messages are the drained ones. -/
theorem splitTarget_spec {deliveryId : String} {drained : List RabbitMqDeadLetterMessage}
    {replay : RabbitMqDeadLetterReplay} (found : splitTarget deliveryId drained = some replay) :
    replay.target.value.deliveryId = deliveryId ∧
      ∃ front back, drained = front ++ replay.target :: back ∧
        replay.remaining = front ++ back := by
  induction drained generalizing replay with
  | nil => cases found
  | cons message rest ih =>
    rw [splitTarget] at found
    split_ifs at found with same
    · cases found
      exact ⟨same, [], rest, rfl, rfl⟩
    · obtain ⟨later, there, rfl⟩ := Option.map_eq_some_iff.1 found
      obtain ⟨named, front, back, rfl, remaining⟩ := ih there
      exact ⟨named, message :: front, back, rfl, congrArg (message :: ·) remaining⟩

/-- The drained messages of a queue without the record are put back before the next queue is
looked at; those of the queue with the record are not put back yet. -/
def findAmong (deliveryId : String) (rounds : Nat) : List RabbitMqRouteTopology →
    RabbitMqProg (Option (DeadLetterReplay RabbitMqRouteTopology RabbitMqDeadLetterReplay))
  | [] => pure none
  | topology :: rest => do
    let drained ← drainDeadLetterQueue topology rounds
    if drained.isEmpty then findAmong deliveryId rounds rest
    else match splitTarget deliveryId drained with
      | some replay => pure (some ⟨topology, replay.target.value, replay⟩)
      | none => do
        restoreDeadLetterQueue topology drained
        findAmong deliveryId rounds rest

def findDeadLetterReplay (config : RabbitMqQueueConfig) (rounds : Nat) (deliveryId : String) :
    RabbitMqProg (Option (DeadLetterReplay RabbitMqRouteTopology RabbitMqDeadLetterReplay)) := do
  ensureRegisteredRoutesLoaded config rounds
  let topologies : List RabbitMqRouteTopology ← catalog .topologies
  findAmong deliveryId rounds topologies

def finalizeReplayedDeadLetter (topology : RabbitMqRouteTopology)
    (replay : RabbitMqDeadLetterReplay) : RabbitMqProg Unit := do
  let channel ← activeTransport
  let _ ← withTransportResult (.basicAck channel replay.target.deliveryTag)
    ("failed to ack replayed rabbitmq dead-letter delivery " ++
      toString replay.target.deliveryTag.number)
  restoreDeadLetterQueue topology replay.remaining

def deadLetterStore (config : RabbitMqQueueConfig) (rounds : Nat) :
    BrokerDeadLetterStore RabbitMqOp RabbitMqOp.Answer RabbitMqRouteTopology
      RabbitMqDeadLetterReplay where
  findDeadLetterForReplay := findDeadLetterReplay config rounds
  removeReplayedDeadLetter replay := finalizeReplayedDeadLetter replay.topology replay.stored

/-- Store a dead-letter record of a delivery and settle its message. -/
def deadLetter (leased : RabbitMqLeasedDelivery) (error : String) : RabbitMqProg Unit := do
  let now ← nowMs
  publishDeadLetterRecord leased.topology (buildDeadLetterRecord leased.delivery error now)
  ackBrokerDelivery leased.delivery.deliveryId

/-- The envelope of the next attempt of a delivery. -/
def nextAttempt (delivery : RuntimeTaskDelivery) (error : String) : RabbitMqEnvelope where
  task := delivery.task
  attempt := delivery.attempt + 1
  lastError := some error

/-- Publish the next attempt of a delivery with its delay and settle its message. -/
def requeue (leased : RabbitMqLeasedDelivery) (error : String) (delayMs : UInt64) :
    RabbitMqProg Unit := do
  publishEnvelope leased.topology leased.topology.retryExchange leased.topology.retryRoutingKey
    (nextAttempt leased.delivery error) (some delayMs)
  ackBrokerDelivery leased.delivery.deliveryId

/-- The envelope that starts a dead task over. -/
def replayOf (record : RuntimeDeadLetterRecord) : RabbitMqEnvelope where
  task := record.task
  attempt := 1
  lastError := some ("replayed from dead letter: " ++ record.error)

def countLeases (queue lane : String) : RabbitMqProg Nat := .call (.countLeases queue lane) .ret

/-- One row of the statistics, under the lock of the leases. -/
def routeStats (channel : Nat) (topology : RabbitMqRouteTopology) :
    RabbitMqProg RuntimeQueueStats := do
  let queued : Nat ← withTransportResult (.queueDeclarePassive channel topology.queueName)
    ("failed to inspect rabbitmq queue " ++ topology.queueName)
  let dead : Nat ← withTransportResult (.queueDeclarePassive channel topology.deadLetterQueueName)
    ("failed to inspect rabbitmq dead-letter queue " ++ topology.deadLetterQueueName)
  let leased : Nat ← countLeases topology.queue topology.lane
  pure
    { queue := topology.queue
      lane := topology.lane
      queued := queued
      leased := leased
      deadLettered := dead }

def statsRows (channel : Nat) :
    List RabbitMqRouteTopology → RabbitMqProg (List RuntimeQueueStats)
  | [] => pure []
  | topology :: rest => do
    let row ← routeStats channel topology
    let rows ← statsRows channel rest
    pure (row :: rows)

/-! ## The calls of the adapter -/

def enqueue (config : RabbitMqQueueConfig) (task : RuntimeTask) : RabbitMqProg Unit := do
  let topology : RabbitMqRouteTopology ← catalog
    (.getOrInsertWith task.route (buildRouteTopology config task.queue task.lane))
  persistRouteRegistry config topology
  publishEnvelope topology topology.exchange topology.routingKey
    { task := task, attempt := 1, lastError := none } none

def reserve (bindings : List RuntimeRouteBinding) :
    RabbitMqProg (Option RuntimeTaskDelivery) := do
  let result ← (reserveFromBroker bindings).attempt
  match result with
  | .ok delivery => pure delivery
  | .error _ => pure none

/-- The lease is looked up first, for the metrics alone. -/
def ack (deliveryId : String) : RabbitMqProg Unit := do
  let _ ← locked .leased (.call (.findLease deliveryId) .ret)
  ackBrokerDelivery deliveryId

def retry (deliveryId error : String) (delayMs : UInt64) : RabbitMqProg RetryDisposition := do
  let leased ← takeLease deliveryId
  match leased with
  | none => throw .internal
  | some leased =>
    if leased.delivery.attempt ≥ leased.delivery.task.retryPolicy.maxAttempts then do
      deadLetter leased error
      pure .deadLettered
    else do
      requeue leased error delayMs
      pure .requeued

def reject (deliveryId error : String) : RabbitMqProg Unit := do
  let leased ← takeLease deliveryId
  match leased with
  | none => pure ()
  | some leased => deadLetter leased error

def stats (config : RabbitMqQueueConfig) (rounds : Nat) :
    RabbitMqProg (List RuntimeQueueStats) := do
  let channel ← activeTransport
  ensureRegisteredRoutesLoaded config rounds
  let topologies : List RabbitMqRouteTopology ← catalog .topologies
  locked .leased (statsRows channel topologies)

def deadLetters (config : RabbitMqQueueConfig) (rounds : Nat) :
    RabbitMqProg (List RuntimeDeadLetterRecord) :=
  loadDeadLettersFromBroker config rounds

def replayDeadLetter (config : RabbitMqQueueConfig) (rounds : Nat) (deliveryId : String) :
    RabbitMqProg RuntimeQueueReceipt :=
  replayDeadLetterWithStore (deadLetterStore config rounds) deliveryId fun topology record =>
    publishEnvelope topology topology.exchange topology.routingKey (replayOf record) none

inductive RabbitMqCall where
  | enqueue (task : RuntimeTask)
  | reserve (bindings : List RuntimeRouteBinding)
  | ack (deliveryId : String)
  | retry (deliveryId error : String) (delayMs : UInt64)
  | reject (deliveryId error : String)
  | stats
  | deadLetters
  | replayDeadLetter (deliveryId : String)

namespace RabbitMqCall

def Result : RabbitMqCall → Type
  | enqueue _ | ack _ | reject .. => Unit
  | reserve _ => Option RuntimeTaskDelivery
  | retry .. => RetryDisposition
  | stats => List RuntimeQueueStats
  | deadLetters => List RuntimeDeadLetterRecord
  | replayDeadLetter _ => RuntimeQueueReceipt

def prog (config : RabbitMqQueueConfig) (rounds : Nat) :
    (call : RabbitMqCall) → RabbitMqProg call.Result
  | enqueue task => RabbitMq.enqueue config task
  | reserve bindings => RabbitMq.reserve bindings
  | ack deliveryId => RabbitMq.ack deliveryId
  | retry deliveryId error delayMs => RabbitMq.retry deliveryId error delayMs
  | reject deliveryId error => RabbitMq.reject deliveryId error
  | stats => RabbitMq.stats config rounds
  | deadLetters => RabbitMq.deadLetters config rounds
  | replayDeadLetter deliveryId => RabbitMq.replayDeadLetter config rounds deliveryId

end RabbitMqCall

end RabbitMq

end NexusCore.Runtime
