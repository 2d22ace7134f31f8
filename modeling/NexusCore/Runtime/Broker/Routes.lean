import NexusCore.Lib.Keyed
import NexusCore.Lib.Text
import NexusCore.Runtime.Delivery

/-!
# Routes of the broker adapters

What the adapters share: the names they give to the queues, streams and keys of a route,
the catalog of the routes they have seen, and the dead-letter record of a delivery. The
locks of a catalog are never poisoned.
-/

namespace NexusCore.Runtime

open NexusCore.Lib

section Names

/-- Replace every character outside of a safe set. -/
def sanitize (safe : Char → Bool) (value : String) : String :=
  value.map fun ch => if safe ch then ch else '_'

def sanitizeSegment : String → String :=
  sanitize fun ch => ch.isAlphanum || ch == '_' || ch == '-' || ch == '.'

def sanitizeConsumerName : String → String :=
  sanitize fun ch => ch.isAlphanum || ch == '_' || ch == '-'

/-- The name that every broker derives for a route. -/
def routeName (queue lane : String) : String := sanitizeSegment queue ++ "." ++ sanitizeSegment lane

structure RedisStreamsQueueConfig where
  streamPrefix : String
  consumerGroupPrefix : String
  pendingReclaimIdleMs : UInt64
  deriving DecidableEq, Repr

structure RedisRouteTopology where
  queue : String
  lane : String
  streamKey : String
  consumerGroup : String
  deadLetterStreamKey : String
  delayedKey : String
  deriving DecidableEq, Repr

def buildRedisRouteTopology (config : RedisStreamsQueueConfig) (queue lane : String) :
    RedisRouteTopology where
  queue := queue
  lane := lane
  streamKey := config.streamPrefix ++ "." ++ routeName queue lane
  consumerGroup := sanitizeConsumerName config.consumerGroupPrefix ++ ":" ++
    sanitizeConsumerName (routeName queue lane)
  deadLetterStreamKey := config.streamPrefix ++ "." ++ routeName queue lane ++ ".dead"
  delayedKey := config.streamPrefix ++ "." ++ routeName queue lane ++ ".retry"

def redisRouteRegistryKey (config : RedisStreamsQueueConfig) : String :=
  config.streamPrefix ++ ".__routes"

structure RabbitMqQueueConfig where
  exchange : String
  queuePrefix : String
  deriving DecidableEq, Repr

structure RabbitMqRouteTopology where
  queue : String
  lane : String
  exchange : String
  routingKey : String
  queueName : String
  retryExchange : String
  retryQueueName : String
  retryRoutingKey : String
  deadLetterExchange : String
  deadLetterQueueName : String
  deadLetterRoutingKey : String
  deriving DecidableEq, Repr

def buildRouteTopology (config : RabbitMqQueueConfig) (queue lane : String) :
    RabbitMqRouteTopology where
  queue := queue
  lane := lane
  exchange := config.exchange
  routingKey := routeName queue lane
  queueName := config.queuePrefix ++ "." ++ routeName queue lane
  retryExchange := config.exchange ++ ".retry"
  retryQueueName := config.queuePrefix ++ "." ++ routeName queue lane ++ ".retry"
  retryRoutingKey := routeName queue lane ++ ".retry"
  deadLetterExchange := config.exchange ++ ".dead"
  deadLetterQueueName := config.queuePrefix ++ "." ++ routeName queue lane ++ ".dead"
  deadLetterRoutingKey := routeName queue lane ++ ".dead"

def rabbitmqRouteRegistryQueueName (config : RabbitMqQueueConfig) : String :=
  config.queuePrefix ++ ".__routes"

structure NatsQueueConfig where
  subjectPrefix : String
  consumerPrefix : String
  ackWaitMs : UInt64
  deriving DecidableEq, Repr

structure NatsRouteTopology where
  queue : String
  lane : String
  subject : String
  consumerName : String
  deadLetterSubject : String
  deriving DecidableEq, Repr

def buildNatsRouteTopology (config : NatsQueueConfig) (queue lane : String) :
    NatsRouteTopology where
  queue := queue
  lane := lane
  subject := config.subjectPrefix ++ "." ++ routeName queue lane
  consumerName := sanitizeConsumerName config.consumerPrefix ++ "_" ++
    sanitizeConsumerName (routeName queue lane)
  deadLetterSubject := "dlq." ++ config.subjectPrefix ++ "." ++ routeName queue lane

end Names

section Catalog

/-- The topologies of the routes that an adapter has seen, and the order it serves them in. -/
structure RouteCatalog (T : Type) where
  declaredRoutes : AList fun _ : Route => T
  routeOrder : List Route

namespace RouteCatalog

variable {T : Type}

def new : RouteCatalog T := ⟨∅, []⟩

def getOrInsertWith (catalog : RouteCatalog T) (route : Route) (build : T) :
    T × RouteCatalog T :=
  match catalog.declaredRoutes.lookup route with
  | some topology => (topology, catalog)
  | none => (build, ⟨catalog.declaredRoutes.insert route build, catalog.routeOrder ++ [route]⟩)

def get (catalog : RouteCatalog T) (route : Route) : Option T :=
  catalog.declaredRoutes.lookup route

/-- The order of the ordered map that holds the topologies. -/
def routeLe (a b : Route) : Bool := decide (a.1 < b.1) || (a.1 == b.1 && decide (a.2 ≤ b.2))

def topologies (catalog : RouteCatalog T) : List T :=
  (catalog.declaredRoutes.entries.mergeSort fun a b => routeLe a.1 b.1).map (·.2)

def orderedRoutes (catalog : RouteCatalog T) (bindings : List RuntimeRouteBinding) : List Route :=
  catalog.routeOrder.filter fun route =>
    bindings.isEmpty || bindings.any fun binding => (binding.queue, binding.lane) == route

def rotate (catalog : RouteCatalog T) (route : Route) : RouteCatalog T :=
  if route ∈ catalog.routeOrder then
    { catalog with routeOrder := catalog.routeOrder.erase route ++ [route] }
  else
    catalog

def registerRoute (catalog : RouteCatalog T) (route : Route) (topology : T) : RouteCatalog T where
  declaredRoutes :=
    match catalog.declaredRoutes.lookup route with
    | some _ => catalog.declaredRoutes
    | none => catalog.declaredRoutes.insert route topology
  routeOrder :=
    if route ∈ catalog.routeOrder then catalog.routeOrder else catalog.routeOrder ++ [route]

end RouteCatalog

/-- The bindings of a worker allow a route. -/
def Allows (bindings : List RuntimeRouteBinding) (route : Route) : Prop :=
  bindings = [] ∨ ∃ binding ∈ bindings, (binding.queue, binding.lane) = route

theorem mem_orderedRoutes {T : Type} {catalog : RouteCatalog T} {route : Route}
    {bindings : List RuntimeRouteBinding} : route ∈ catalog.orderedRoutes bindings ↔
      route ∈ catalog.routeOrder ∧ Allows bindings route := by
  simp [RouteCatalog.orderedRoutes, Allows, List.isEmpty_iff]

/-- The sections of a catalog that run under its locks. -/
inductive CatalogCmd (T : Type) where
  | getOrInsertWith (route : Route) (build : T)
  | get (route : Route)
  | topologies
  | orderedRoutes (bindings : List RuntimeRouteBinding)
  | rotate (route : Route)
  | registerRoute (route : Route) (topology : T)

namespace CatalogCmd

variable {T : Type}

def Reply : CatalogCmd T → Type
  | getOrInsertWith .. => T
  | get _ => Option T
  | topologies => List T
  | orderedRoutes _ => List Route
  | rotate _ | registerRoute .. => Unit

def execute (catalog : RouteCatalog T) : (c : CatalogCmd T) → c.Reply × RouteCatalog T
  | getOrInsertWith route build => catalog.getOrInsertWith route build
  | get route => (catalog.get route, catalog)
  | topologies => (catalog.topologies, catalog)
  | orderedRoutes bindings => (catalog.orderedRoutes bindings, catalog)
  | rotate route => ((), catalog.rotate route)
  | registerRoute route topology => ((), catalog.registerRoute route topology)

/-- A section that enters nothing into a catalog but the topologies of some routes. -/
def Enters (routes : Set Route) (build : Route → T) : CatalogCmd T → Prop
  | getOrInsertWith route topology | registerRoute route topology =>
    route ∈ routes ∧ topology = build route
  | get _ | topologies | orderedRoutes _ | rotate _ => True

/-- What a catalog with the topologies of some routes answers. -/
def Tells (routes : Set Route) (build : Route → T) : (c : CatalogCmd T) → c.Reply → Prop
  | getOrInsertWith route _, topology => topology = build route
  | get route, found => ∀ topology, found = some topology → route ∈ routes ∧ topology = build route
  | topologies, known => ∀ topology ∈ (show List T from known), ∃ route ∈ routes, topology = build route
  | orderedRoutes bindings, ordered => ∀ route ∈ (show List Route from ordered), Allows bindings route
  | rotate _, _ | registerRoute .., _ => True

end CatalogCmd

namespace RouteCatalog

variable {T : Type} {catalog : RouteCatalog T} {routes : Set Route} {build : Route → T}

/-- A catalog holds the topologies of some routes. -/
def Knows (routes : Set Route) (build : Route → T) (catalog : RouteCatalog T) : Prop :=
  ∀ route topology, catalog.get route = some topology → route ∈ routes ∧ topology = build route

theorem knows_new : Knows routes build .new := by
  intro route topology found
  rw [get, new, AList.lookup_empty] at found
  cases found

theorem Knows.insert (knows : catalog.Knows routes build) {route : Route} (used : route ∈ routes)
    (order : List Route) :
    Knows routes build ⟨catalog.declaredRoutes.insert route (build route), order⟩ := by
  intro other topology found
  rcases of_lookup_insert found with ⟨rfl, rfl⟩ | ⟨-, old⟩
  · exact ⟨used, rfl⟩
  · exact knows other topology old

theorem Knows.execute {c : CatalogCmd T} (knows : catalog.Knows routes build)
    (enters : c.Enters routes build) : (c.execute catalog).2.Knows routes build := by
  cases c with
  | get | topologies | orderedRoutes => exact knows
  | rotate route =>
    simp only [CatalogCmd.execute, rotate]
    split_ifs <;> exact knows
  | getOrInsertWith route topology =>
    obtain ⟨used, rfl⟩ := enters
    simp only [CatalogCmd.execute, getOrInsertWith]
    split
    · exact knows
    · exact knows.insert used _
  | registerRoute route topology =>
    obtain ⟨used, rfl⟩ := enters
    simp only [CatalogCmd.execute, registerRoute]
    split
    · exact knows
    · exact knows.insert used _

theorem Knows.tells {c : CatalogCmd T} (knows : catalog.Knows routes build)
    (enters : c.Enters routes build) : c.Tells routes build (c.execute catalog).1 := by
  cases c with
  | get route => exact knows route
  | rotate | registerRoute => trivial
  | orderedRoutes bindings => exact fun route mem => (mem_orderedRoutes.1 mem).2
  | topologies =>
    intro topology listed
    obtain ⟨⟨route, _⟩, sorted, rfl⟩ := List.mem_map.1 listed
    have entry := (List.mergeSort_perm _ _).mem_iff.1 sorted
    exact ⟨route, knows route _ (AList.mem_lookup_iff.2 entry)⟩
  | getOrInsertWith route topology =>
    obtain ⟨used, rfl⟩ := enters
    change (catalog.getOrInsertWith route (build route)).1 = build route
    unfold getOrInsertWith
    split
    · next known found => exact (knows route known found).2
    · rfl

end RouteCatalog

end Catalog

/-- Milliseconds of the wall clock; an adapter reads it when it builds the record. -/
def buildDeadLetterRecord (delivery : RuntimeTaskDelivery) (error : String) (now : UInt64) :
    RuntimeDeadLetterRecord where
  deliveryId := delivery.deliveryId
  taskId := delivery.task.taskId
  queue := delivery.task.queue
  lane := delivery.task.lane
  attempt := delivery.attempt
  error := error
  deadLetteredAt := now
  task := delivery.task

def deadLetterNotFound (deliveryId : String) : AppError :=
  .notFound ("dead letter not found: " ++ deliveryId)

end NexusCore.Runtime
