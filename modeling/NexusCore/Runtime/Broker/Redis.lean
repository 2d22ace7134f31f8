import NexusCore.Lib.Program
import NexusCore.Lib.Redis
import NexusCore.Runtime.Broker.Routes

/-!
# The Redis Streams adapter

Every call of the adapter is a program over single Redis commands and over what else can
differ between two runs: the clock, fresh tokens, and whether a payload parses. The leases and
the route catalog are the adapter's own memory, which a stopped process loses.

A payload is kept as the value that was serialised. Serialisation itself never fails.
-/

namespace NexusCore.Runtime

open NexusCore.Lib

structure RedisEnvelope where
  task : RuntimeTask
  attempt : Nat
  lastError : Option String
  deriving DecidableEq, Repr

structure RedisDelayedEnvelope where
  token : String
  envelope : RedisEnvelope
  deriving DecidableEq, Repr

structure RedisRouteRegistryEntry where
  queue : String
  lane : String
  deriving DecidableEq, Repr

inductive RedisPayload where
  | envelope (envelope : RedisEnvelope)
  | delayed (delayed : RedisDelayedEnvelope)
  | record (record : RuntimeDeadLetterRecord)
  | route (entry : RedisRouteRegistryEntry)
  deriving DecidableEq, Repr

namespace RedisPayload

/-- Unknown fields are ignored and a missing `last_error` is none, so the text of a
dead-letter record also reads as an envelope. -/
def asEnvelope : RedisPayload → Option RedisEnvelope
  | .envelope e => some e
  | .record r => some { task := r.task, attempt := r.attempt, lastError := none }
  | .delayed _ | .route _ => none

def asDelayed : RedisPayload → Option RedisDelayedEnvelope
  | .delayed d => some d
  | .envelope _ | .record _ | .route _ => none

def asRecord : RedisPayload → Option RuntimeDeadLetterRecord
  | .record r => some r
  | .envelope _ | .delayed _ | .route _ => none

def asRoute : RedisPayload → Option RedisRouteRegistryEntry
  | .route entry => some entry
  | .record r => some { queue := r.queue, lane := r.lane }
  | .envelope _ | .delayed _ => none

/-- The task that a payload carries. -/
def task? : RedisPayload → Option RuntimeTask
  | .envelope e => some e.task
  | .delayed d => some d.envelope.task
  | .record r => some r.task
  | .route _ => none

end RedisPayload

structure RedisLeasedDelivery where
  entryId : Redis.EntryId
  topology : RedisRouteTopology
  delivery : RuntimeTaskDelivery

/-- The memory of an adapter. -/
structure RedisStreamsBrokerAdapter where
  leased : AList fun _ : String => RedisLeasedDelivery
  routes : RouteCatalog RedisRouteTopology

/-- The memory of an adapter that has just connected. -/
def RedisStreamsBrokerAdapter.new : RedisStreamsBrokerAdapter := ⟨∅, .new⟩

structure RedisError where
  code : Option String
  detail : String
  deriving DecidableEq, Repr

def redisConflictError (error : RedisError) : Bool := error.code == some "BUSYGROUP"

def redisError (message : String) : AppError := .database message

inductive RedisOp where
  | command (c : Redis.Cmd RedisPayload)
  | connect
  | nowMs
  | newToken
  | parse (payload : RedisPayload)
  | adapter
  | setAdapter (adapter : RedisStreamsBrokerAdapter)

def RedisOp.Answer : RedisOp → Type
  | .command c => Except RedisError c.Reply
  | .connect => Except RedisError Unit
  | .nowMs => UInt64
  | .newToken => String
  | .parse _ => Bool
  | .adapter => RedisStreamsBrokerAdapter
  | .setAdapter _ => Unit

abbrev RedisProg (α : Type) : Type := Prog RedisOp RedisOp.Answer AppError α

namespace RedisStreams

def nowMs : RedisProg UInt64 := .call .nowMs .ret

/-- A fresh identifier in lower case. -/
def newToken : RedisProg String := .call .newToken .ret

def currentAdapter : RedisProg RedisStreamsBrokerAdapter := .call .adapter .ret

/-- A command whose failure ends the call. -/
def query (c : Redis.Cmd RedisPayload) (message : String) : RedisProg c.Reply :=
  .call (.command c) fun
    | .ok reply => .ret reply
    | .error error => .fail (redisError (message ++ ": " ++ error.detail))

def connection : RedisProg Unit :=
  .call .connect fun
    | .ok () => .ret ()
    | .error error => .fail (redisError ("failed to connect to redis: " ++ error.detail))

def decode {α : Type} (read : RedisPayload → Option α) (payload : RedisPayload) : RedisProg α :=
  .call (.parse payload) fun parses =>
    match parses, read payload with
    | true, some value => .ret value
    | _, _ => .fail .internal

/-- Look at the adapter's memory and change it, under its locks. -/
def modifyAdapter {α : Type}
    (change : RedisStreamsBrokerAdapter → α × RedisStreamsBrokerAdapter) : RedisProg α :=
  .call .adapter fun adapter => .call (.setAdapter (change adapter).2) fun _ =>
    .ret (change adapter).1

def ensureTopology (topology : RedisRouteTopology) : RedisProg Unit := do
  connection
  .call (.command (.xgroupCreateMkstream topology.streamKey topology.consumerGroup)) fun
    | .ok () => .ret ()
    | .error error =>
      if redisConflictError error then .ret ()
      else .fail (redisError ("failed to create redis consumer group " ++
        topology.consumerGroup ++ " on " ++ topology.streamKey ++ ": " ++ error.detail))

def publishEnvelope (topology : RedisRouteTopology) (envelope : RedisEnvelope) :
    RedisProg Unit := do
  ensureTopology topology
  connection
  let _ ← query (.xadd topology.streamKey (.envelope envelope))
    ("failed to publish runtime task to redis stream " ++ topology.streamKey)
  pure ()

def persistRouteRegistry (config : RedisStreamsQueueConfig) (topology : RedisRouteTopology) :
    RedisProg Unit := do
  connection
  let _ ← query (.sadd (redisRouteRegistryKey config)
    (.route { queue := topology.queue, lane := topology.lane }))
    "failed to persist redis route registry"
  pure ()

/-- The registered routes, one after the other. -/
def loadRoutes (config : RedisStreamsQueueConfig) : List RedisPayload → RedisProg Unit
  | [] => pure ()
  | payload :: rest => do
    let entry ← decode RedisPayload.asRoute payload
    let topology := buildRedisRouteTopology config entry.queue entry.lane
    ensureTopology topology
    modifyAdapter fun adapter =>
      ((), { adapter with routes := adapter.routes.registerRoute (entry.queue, entry.lane) topology })
    loadRoutes config rest

def ensureRegisteredRoutesLoaded (config : RedisStreamsQueueConfig) : RedisProg Unit := do
  connection
  let entries ← query (.smembers (redisRouteRegistryKey config))
    "failed to load redis route registry"
  loadRoutes config entries

/-- The due retries, one after the other: each leaves the sorted set before it is parsed and
published. -/
def promote (topology : RedisRouteTopology) : List RedisPayload → RedisProg Unit
  | [] => pure ()
  | payload :: rest => do
    let removed : Nat ← query (.zrem topology.delayedKey payload)
      ("failed to remove delayed redis retry from " ++ topology.delayedKey)
    if removed = 0 then
      promote topology rest
    else do
      let delayed ← decode RedisPayload.asDelayed payload
      publishEnvelope topology delayed.envelope
      promote topology rest

/-- The 64 bits of a time, read as a signed number. -/
def asIsize (time : UInt64) : Int := time.toInt64.toInt

def promoteDueRetries (topology : RedisRouteTopology) : RedisProg Unit := do
  connection
  let now ← nowMs
  let payloads ← query (.zrangebyscore topology.delayedKey (asIsize now) 32)
    ("failed to load delayed redis retries from " ++ topology.delayedKey)
  promote topology payloads

/-- Hand out an entry of a work stream under a lease. -/
def lease (config : RedisStreamsQueueConfig) (topology : RedisRouteTopology)
    (message : Redis.EntryId × RedisPayload) : RedisProg RuntimeTaskDelivery := do
  let envelope ← decode RedisPayload.asEnvelope message.2
  let now ← nowMs
  let delivery : RuntimeTaskDelivery :=
    { deliveryId := "redis-" ++ envelope.task.taskId ++ "-" ++ message.1.render
      attempt := envelope.attempt
      leasedUntil := some (now + config.pendingReclaimIdleMs)
      lastError := envelope.lastError
      task := envelope.task }
  modifyAdapter fun adapter =>
    (delivery, { adapter with
      leased := adapter.leased.insert delivery.deliveryId
        { entryId := message.1, topology := topology, delivery := delivery } })

def reclaimStaleDelivery (config : RedisStreamsQueueConfig) (topology : RedisRouteTopology) :
    RedisProg (Option RuntimeTaskDelivery) := do
  connection
  let claimed : Option (Redis.EntryId × RedisPayload) ← query (.xautoclaim topology.streamKey topology.consumerGroup)
    ("failed to reclaim stale redis delivery from " ++ topology.streamKey)
  match claimed with
  | none => pure none
  | some message => do
    let delivery ← lease config topology message
    pure (some delivery)

def rotateRoute (route : Route) : RedisProg Unit :=
  modifyAdapter fun adapter => ((), { adapter with routes := adapter.routes.rotate route })

/-- The next new entry of a route, if there is one. -/
def reserveNew (config : RedisStreamsQueueConfig) (route : Route) (topology : RedisRouteTopology) :
    RedisProg (Option RuntimeTaskDelivery) := do
  connection
  let first : Option (Redis.EntryId × RedisPayload) ← query (.xreadgroup topology.streamKey topology.consumerGroup)
    ("failed to reserve runtime task from redis stream " ++ topology.streamKey)
  match first with
  | none => pure none
  | some message => do
    rotateRoute route
    let delivery ← lease config topology message
    pure (some delivery)

/-- What a route has to offer: a delivery that went stale, or else a new one. -/
def reserveRoute (config : RedisStreamsQueueConfig) (route : Route)
    (topology : RedisRouteTopology) : RedisProg (Option RuntimeTaskDelivery) := do
  ensureTopology topology
  promoteDueRetries topology
  let reclaimed ← reclaimStaleDelivery config topology
  match reclaimed with
  | some delivery => do
    rotateRoute route
    pure (some delivery)
  | none => reserveNew config route topology

/-- The routes in order, up to the first delivery. -/
def reserveRoutes (config : RedisStreamsQueueConfig) :
    List Route → RedisProg (Option RuntimeTaskDelivery)
  | [] => pure none
  | route :: rest => do
    let adapter ← currentAdapter
    match adapter.routes.get route with
    | none => reserveRoutes config rest
    | some topology => do
      let found ← reserveRoute config route topology
      match found with
      | some delivery => pure (some delivery)
      | none => reserveRoutes config rest

def reserveFromBroker (config : RedisStreamsQueueConfig) (bindings : List RuntimeRouteBinding) :
    RedisProg (Option RuntimeTaskDelivery) := do
  ensureRegisteredRoutesLoaded config
  let adapter ← currentAdapter
  reserveRoutes config (adapter.routes.orderedRoutes bindings)

def ackEntry (topology : RedisRouteTopology) (entryId : Redis.EntryId) : RedisProg Unit := do
  connection
  let _ ← query (.xack topology.streamKey topology.consumerGroup entryId)
    ("failed to ack redis stream entry " ++ entryId.render)
  let _ ← query (.xdel topology.streamKey entryId)
    ("failed to delete acked redis stream entry " ++ entryId.render)
  pure ()

def publishDelayedRetry (topology : RedisRouteTopology) (envelope : RedisEnvelope)
    (delayMs : UInt64) : RedisProg Unit := do
  connection
  let token ← newToken
  let now ← nowMs
  let _ ← query (.zadd topology.delayedKey (.delayed { token := token, envelope := envelope })
    (asIsize (now + delayMs)))
    ("failed to schedule delayed redis retry in " ++ topology.delayedKey)
  pure ()

def publishDeadLetterRecord (topology : RedisRouteTopology) (record : RuntimeDeadLetterRecord) :
    RedisProg Unit := do
  connection
  let _ ← query (.xadd topology.deadLetterStreamKey (.record record))
    ("failed to publish dead-letter record to redis stream " ++ topology.deadLetterStreamKey)
  pure ()

/-- Remove a lease from the adapter's memory. -/
def takeLease (deliveryId : String) : RedisProg (Option RedisLeasedDelivery) :=
  modifyAdapter fun adapter =>
    (adapter.leased.lookup deliveryId, { adapter with leased := adapter.leased.erase deliveryId })

/-- Store a dead-letter record of a delivery and settle its entry. -/
def deadLetter (leased : RedisLeasedDelivery) (error : String) : RedisProg Unit := do
  let now ← nowMs
  publishDeadLetterRecord leased.topology (buildDeadLetterRecord leased.delivery error now)
  ackEntry leased.topology leased.entryId

/-- The envelope of the next attempt of a delivery. -/
def nextAttempt (delivery : RuntimeTaskDelivery) (error : String) : RedisEnvelope where
  task := delivery.task
  attempt := delivery.attempt + 1
  lastError := some error

/-- Publish the next attempt of a delivery, now or later, and settle its entry. -/
def requeue (leased : RedisLeasedDelivery) (error : String) (delayMs : UInt64) :
    RedisProg Unit := do
  if delayMs = 0 then publishEnvelope leased.topology (nextAttempt leased.delivery error)
    else publishDelayedRetry leased.topology (nextAttempt leased.delivery error) delayMs
  ackEntry leased.topology leased.entryId

/-- The record with a delivery id among the entries of a dead-letter stream. -/
def searchRecords (deliveryId : String) : List (Redis.EntryId × RedisPayload) →
    RedisProg (Option (RuntimeDeadLetterRecord × Redis.EntryId))
  | [] => pure none
  | message :: rest => do
    let record ← decode RedisPayload.asRecord message.2
    if record.deliveryId = deliveryId then pure (some (record, message.1))
    else searchRecords deliveryId rest

def searchTopologies (deliveryId : String) : List RedisRouteTopology →
    RedisProg (Option (RedisRouteTopology × RuntimeDeadLetterRecord × Redis.EntryId))
  | [] => pure none
  | topology :: rest => do
    connection
    let entries ← query (.xrange topology.deadLetterStreamKey)
      ("failed to read redis dead-letter stream " ++ topology.deadLetterStreamKey)
    let found ← searchRecords deliveryId entries
    match found with
    | some (record, entryId) => pure (some (topology, record, entryId))
    | none => searchTopologies deliveryId rest

def findDeadLetterReplay (config : RedisStreamsQueueConfig) (deliveryId : String) :
    RedisProg (Option (RedisRouteTopology × RuntimeDeadLetterRecord × Redis.EntryId)) := do
  ensureRegisteredRoutesLoaded config
  let adapter ← currentAdapter
  searchTopologies deliveryId adapter.routes.topologies

def removeReplayedDeadLetterEntry (topology : RedisRouteTopology) (entryId : Redis.EntryId) :
    RedisProg Unit := do
  connection
  let _ ← query (.xdel topology.deadLetterStreamKey entryId)
    ("failed to delete replayed redis dead-letter entry " ++ entryId.render)
  pure ()

/-! ## The calls of the adapter -/

def enqueue (config : RedisStreamsQueueConfig) (task : RuntimeTask) : RedisProg Unit := do
  let topology ← modifyAdapter fun adapter =>
    let (topology, routes) := adapter.routes.getOrInsertWith task.route
      (buildRedisRouteTopology config task.queue task.lane)
    (topology, { adapter with routes := routes })
  persistRouteRegistry config topology
  publishEnvelope topology { task := task, attempt := 1, lastError := none }

def reserve (config : RedisStreamsQueueConfig) (bindings : List RuntimeRouteBinding) :
    RedisProg (Option RuntimeTaskDelivery) := do
  let result ← (reserveFromBroker config bindings).attempt
  match result with
  | .ok delivery => pure delivery
  | .error _ => pure none

def ack (deliveryId : String) : RedisProg Unit := do
  let leased ← takeLease deliveryId
  match leased with
  | none => pure ()
  | some leased => ackEntry leased.topology leased.entryId

def retry (deliveryId error : String) (delayMs : UInt64) : RedisProg RetryDisposition := do
  let leased ← takeLease deliveryId
  match leased with
  | none => throw .internal
  | some leased =>
    if leased.delivery.attempt ≥ leased.delivery.task.retryPolicy.maxAttempts then do
      deadLetter leased error
      pure .deadLettered
    else do
      requeue leased error delayMs
      pure .requeued

def reject (deliveryId error : String) : RedisProg Unit := do
  let leased ← takeLease deliveryId
  match leased with
  | none => pure ()
  | some leased => deadLetter leased error

/-- The envelope that starts a dead task over. -/
def replayOf (record : RuntimeDeadLetterRecord) : RedisEnvelope where
  task := record.task
  attempt := 1
  lastError := some ("replayed from dead letter: " ++ record.error)

def replayDeadLetter (config : RedisStreamsQueueConfig) (deliveryId : String) :
    RedisProg RuntimeQueueReceipt := do
  let replay ← findDeadLetterReplay config deliveryId
  match replay with
  | none => throw (deadLetterNotFound deliveryId)
  | some (topology, record, entryId) => do
    publishEnvelope topology (replayOf record)
    removeReplayedDeadLetterEntry topology entryId
    pure record.task.queuedReceipt

end RedisStreams

end NexusCore.Runtime
