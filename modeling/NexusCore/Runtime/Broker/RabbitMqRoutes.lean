import NexusCore.Lib.AmqpLayout
import NexusCore.Runtime.Broker.RabbitMqNodes
import NexusCore.Runtime.Broker.RouteNames

/-!
# The routes of the RabbitMQ adapter

As long as the queues of the routes in use are different, a task stays with its route, in every
interleaving of the calls of all nodes: no queue of a route holds a task of another one, whatever
expires, and a worker leases tasks of its own routes alone.
-/

namespace NexusCore.Runtime

open NexusCore.Lib
open NexusCore.Lib.Holdings (behaves_bind behaves_seq)

namespace RabbitMq.Routes

open RabbitMq.Tasks

def topologyOf (config : RabbitMqQueueConfig) (route : Route) : RabbitMqRouteTopology :=
  buildRouteTopology config route.1 route.2

section Layout

variable {config : RabbitMqQueueConfig} {routes : Set Route} {route : Route} {queue : String}
  {payload : RabbitMqPayload}

/-- The queues that a payload may lie in: an envelope waits to be reserved or to be retried. -/
def Home (config : RabbitMqQueueConfig) (routes : Set Route) (queue : String) :
    RabbitMqPayload → Prop
  | .envelope e => e.task.route ∈ routes ∧
      ∃ store, store ≠ .deadLetter ∧ rabbitMqName config e.task.route store = some queue
  | .record r => r.task.route ∈ routes ∧ rabbitMqName config r.task.route .deadLetter = some queue
  | .route entry =>
    (entry.queue, entry.lane) ∈ routes ∧ queue = rabbitmqRouteRegistryQueueName config

/-- Every exchange leads to the queue that bears the routing key. -/
def Leads (config : RabbitMqQueueConfig) (exchange routingKey queue : String) : Prop :=
  queue = if exchange = "" then routingKey else config.queuePrefix ++ "." ++ routingKey

/-- A retry expires to the work queue of its route. -/
def Forwards (config : RabbitMqQueueConfig) (routes : Set Route) (queue : String)
    (target : String × String) : Prop :=
  ∃ route ∈ routes, rabbitMqName config route .retry = some queue ∧
    target = (config.exchange, route.name)

/-- The registry of routes is not a queue of a route. -/
theorem registry_ne (config : RabbitMqQueueConfig) (route : Route) (store : RouteStore) :
    rabbitMqName config route store ≠ some (rabbitmqRouteRegistryQueueName config) := by
  intro same
  have registry : rabbitmqRouteRegistryQueueName config = config.queuePrefix ++ "." ++ "__routes" := by
    rw [rabbitmqRouteRegistryQueueName, String.append_assoc]
    rfl
  have dotted : ∀ suffix : String, route.name ++ suffix ≠ "__routes" := by
    intro suffix same
    have lists := congrArg (fun s : String => '.' ∈ s.toList) same
    simp [Route.name, routeName] at lists
  have cancel : ∀ x y : String,
      config.queuePrefix ++ "." ++ x = config.queuePrefix ++ "." ++ y ↔ x = y :=
    fun x y => String.append_right_inj _
  rw [rabbitMqName_eq, registry] at same
  cases store with
  | work =>
    have plain := dotted ""
    rw [String.append_empty] at plain
    exact plain ((cancel _ _).1 (Option.some.inj same))
  | retry | deadLetter =>
    have same := Option.some.inj same
    rw [String.append_assoc] at same
    exact dotted _ ((cancel _ _).1 same)
  | consumer => cases same

theorem expires_home (isolated : AllIsolated (rabbitMqName config) routes)
    (named : config.exchange ≠ "") {target : String × String} {next : String}
    (forwards : Forwards config routes queue target) (leads : Leads config target.1 target.2 next)
    (home : Home config routes queue payload) : Home config routes next payload := by
  obtain ⟨route, used, retry, rfl⟩ := forwards
  obtain rfl : next = config.queuePrefix ++ "." ++ route.name := leads.trans (if_neg named)
  cases payload with
  | envelope e =>
    obtain ⟨used', store, -, name⟩ := home
    obtain ⟨same, -⟩ := isolated.eq_of_name (rabbitMqName_own config) used' used name retry
    refine ⟨used', .work, by decide, ?_⟩
    rw [same]
    rfl
  | record r =>
    cases (isolated.eq_of_name (rabbitMqName_own config) home.1 used home.2 retry).2
  | route entry => exact absurd (home.2 ▸ retry) (registry_ne config route .retry)

/-- Where the messages of some routes may lie. -/
def layout (config : RabbitMqQueueConfig) (routes : Set Route) : Amqp.Layout RabbitMqPayload where
  home := Home config routes
  leads := Leads config
  forwards := Forwards config routes

theorem layout_coherent (isolated : AllIsolated (rabbitMqName config) routes)
    (named : config.exchange ≠ "") : (layout config routes).Coherent where
  direct _ := (if_pos rfl).symm
  expires _ _ _ _ forwards leads home := expires_home isolated named forwards leads home

/-- What lies in a work queue is an envelope of its route. -/
theorem home_work (isolated : AllIsolated (rabbitMqName config) routes) (used : route ∈ routes)
    (home : Home config routes (topologyOf config route).queueName payload) {e : RabbitMqEnvelope}
    (read : payload.asEnvelope = some e) : e.task.route = route := by
  have work : rabbitMqName config route .work = some (topologyOf config route).queueName := rfl
  cases payload with
  | envelope =>
    cases read
    obtain ⟨used', store, -, name⟩ := home
    exact (isolated.eq_of_name (rabbitMqName_own config) used' used name work).1
  | record r =>
    cases (isolated.eq_of_name (rabbitMqName_own config) home.1 used home.2 work).2
  | route => cases read

/-- What lies in a dead-letter queue is a record of its route. -/
theorem home_dead (isolated : AllIsolated (rabbitMqName config) routes) (used : route ∈ routes)
    (home : Home config routes (topologyOf config route).deadLetterQueueName payload)
    {r : RuntimeDeadLetterRecord} (read : payload.asRecord = some r) : r.task.route = route := by
  cases payload with
  | record =>
    cases read
    exact (isolated.eq_of_name (rabbitMqName_own config) home.1 used home.2
      (rfl : rabbitMqName config route .deadLetter =
        some (topologyOf config route).deadLetterQueueName)).1
  | envelope | route => cases read

/-- What lies in the registry is one of the routes. -/
theorem home_registry (home : Home config routes (rabbitmqRouteRegistryQueueName config) payload)
    {entry : RabbitMqRouteRegistryEntry} (read : payload.asRoute = some entry) :
    (entry.queue, entry.lane) ∈ routes := by
  cases payload with
  | route =>
    cases read
    exact home.1
  | record r => exact absurd home.2 (registry_ne config _ _)
  | envelope => cases read

end Layout

/-- A lease of a message of its task's own route. -/
def LeaseHome (config : RabbitMqQueueConfig) (routes : Set Route) (leased : RabbitMqLeasedDelivery) :
    Prop :=
  leased.delivery.task.route ∈ routes ∧
    leased.topology = topologyOf config leased.delivery.task.route

/-- The routes of the tasks that a call may lease. -/
def MayLease : RabbitMqCall → Route → Prop
  | .reserve bindings, route => Allows bindings route
  | _, _ => False

/-- What a call may do with the tasks of some routes. -/
def permits (config : RabbitMqQueueConfig) (routes : Set Route) (made : RabbitMqCall) :
    RabbitMqOp → Prop
  | .command c => (layout config routes).Allows c
  | .insertLease leased =>
    LeaseHome config routes leased ∧ MayLease made leased.delivery.task.route
  | .catalog c => c.Enters routes (topologyOf config)
  | _ => True

/-- What a call relies on in an answer. -/
def assumes (config : RabbitMqQueueConfig) (routes : Set Route) :
    (op : RabbitMqOp) → op.Answer → Prop
  | .command (.basicGet _ queue), .ok (some found) => Home config routes queue (Prod.snd found)
  | .removeLease _, some leased => LeaseHome config routes leased
  | .catalog c, r => c.Tells routes (topologyOf config) r
  | _, _ => True

section Programs

variable {config : RabbitMqQueueConfig} {routes : Set Route} {made : RabbitMqCall} {route : Route}
  {channel : Nat} {α β : Type} {p : RabbitMqProg α} {f : α → RabbitMqProg β}
  {exits : AppResult α → Prop} {exits' : AppResult β → Prop}

abbrev Keeping (config : RabbitMqQueueConfig) (routes : Set Route) (made : RabbitMqCall)
    (exits : AppResult α → Prop) (p : RabbitMqProg α) : Prop :=
  Holdings.Behaves (permits config routes made) (assumes config routes) exits p

/-- A program that neither stores nor binds nor leases anything. -/
theorem keeping_of_quiet (issues : p.Issues Quiet) :
    Keeping config routes made (fun _ => True) p := by
  induction issues with
  | ret => exact .ret trivial
  | fail => exact .fail trivial
  | @call op k quiet _ ih =>
    refine .call ?_ fun r _ => ih r
    cases op with
    | command c =>
      cases c with
      | queueDeclare channel queue expired =>
        cases expired with
        | none => trivial
        | some => exact quiet.elim
      | awaitConfirm | basicAck | queueBind => exact quiet.elim
      | _ => trivial
    | catalog c =>
      cases c with
      | getOrInsertWith | registerRoute => exact quiet.elim
      | _ => trivial
    | insertLease => exact quiet.elim
    | _ => trivial

theorem quiet_then (issues : p.Issues Quiet) (rest : ∀ a, Keeping config routes made exits' (f a))
    (failed : ∀ e, exits' (.error e)) : Keeping config routes made exits' (p.bind f) :=
  behaves_bind (keeping_of_quiet issues) (fun a _ => rest a) failed

theorem command_keeping {c : Amqp.Cmd RabbitMqPayload} {message : String}
    (permitted : (layout config routes).Allows c) :
    Keeping config routes made
      (fun o => ∀ reply, o = .ok reply → assumes config routes (.command c) (.ok reply))
      (withTransportResult c message) := by
  refine .call permitted fun r assumed => ?_
  cases r with
  | ok reply =>
    refine .ret ?_
    rintro _ ⟨⟩
    exact assumed
  | error error =>
    exact quiet_then invalidateTransport_quiet (fun _ => .fail fun _ same => nomatch same)
      fun _ _ same => nomatch same

/-- A command of which the answer does not matter. -/
theorem command_then {c : Amqp.Cmd RabbitMqPayload} {message : String}
    {f : c.Reply → RabbitMqProg β} (permitted : (layout config routes).Allows c)
    (rest : ∀ reply, Keeping config routes made (fun _ => True) (f reply)) :
    Keeping config routes made (fun _ => True) ((withTransportResult c message).bind f) :=
  behaves_bind (command_keeping permitted) (fun reply _ => rest reply) fun _ => trivial

theorem catalog_keeping {c : CatalogCmd RabbitMqRouteTopology}
    (enters : c.Enters routes (topologyOf config)) :
    Keeping config routes made
      (fun o => ∀ reply, o = .ok reply → c.Tells routes (topologyOf config) reply) (catalog c) := by
  refine .call enters fun r told => .ret ?_
  rintro _ ⟨⟩
  exact told

theorem decode_keeping (read : RabbitMqPayload → Option α) (payload : RabbitMqPayload) :
    Keeping config routes made (fun o => ∀ a, o = .ok a → read payload = some a)
      (decode read payload) := by
  refine .call trivial fun parses _ => ?_
  split
  · next found _ =>
    refine .ret ?_
    rintro _ ⟨⟩
    exact found
  · exact .fail fun _ same => nomatch same

theorem takeLease_keeping (deliveryId : String) :
    Keeping config routes made (fun o => ∀ leased, o = .ok (some leased) →
      LeaseHome config routes leased) (takeLease deliveryId) := by
  refine .call trivial fun _ _ => .call trivial fun found assumed => .call trivial fun _ _ => ?_
  refine .ret ?_
  rintro leased ⟨⟩
  exact assumed

theorem leads_work (named : config.exchange ≠ "") (queue : String) :
    Leads config (topologyOf config route).exchange (topologyOf config route).routingKey queue ↔
      queue = (topologyOf config route).queueName := by
  rw [Leads]
  change queue = ite (config.exchange = "") _ _ ↔ _
  rw [if_neg named]
  rfl

theorem leads_suffixed (suffix key queue : String) (nonempty : suffix ≠ "") :
    Leads config (config.exchange ++ suffix) (key ++ suffix) queue ↔
      queue = config.queuePrefix ++ "." ++ key ++ suffix := by
  have named : config.exchange ++ suffix ≠ "" := by
    intro same
    have lengths := congrArg String.length same
    rw [String.length_append] at lengths
    have empty : suffix.length = 0 := by
      have none : "".length = 0 := rfl
      omega
    exact nonempty (String.length_eq_zero_iff.1 empty)
  rw [Leads, if_neg named, ← String.append_assoc]

theorem leads_retry (queue : String) : Leads config (topologyOf config route).retryExchange
    (topologyOf config route).retryRoutingKey queue ↔
      queue = (topologyOf config route).retryQueueName :=
  leads_suffixed ".retry" _ queue (by decide)

theorem leads_dead (queue : String) : Leads config (topologyOf config route).deadLetterExchange
    (topologyOf config route).deadLetterRoutingKey queue ↔
      queue = (topologyOf config route).deadLetterQueueName :=
  leads_suffixed ".dead" _ queue (by decide)

theorem ensureTopology_keeping (named : config.exchange ≠ "") (used : route ∈ routes) :
    Keeping config routes made (fun _ => True) (ensureTopology channel (topologyOf config route)) := by
  refine command_then (by trivial) fun _ => command_then (by trivial) fun _ => ?_
  refine command_then (by trivial) fun _ => command_then (by trivial) fun _ => ?_
  refine command_then ((leads_work named _).2 rfl) fun _ => ?_
  refine command_then ⟨route, used, rfl, rfl⟩ fun _ => ?_
  refine command_then ((leads_retry _).2 rfl) fun _ => command_then (by trivial) fun _ => ?_
  exact command_then ((leads_dead _).2 rfl) fun _ => .ret trivial

theorem publishConfirmed_keeping {exchange routingKey failure unconfirmed : String}
    {payload : RabbitMqPayload} {expirationMs : Option UInt64}
    (home : ∀ queue, Leads config exchange routingKey queue → Home config routes queue payload) :
    Keeping config routes made (fun _ => True)
      (publishConfirmed channel exchange routingKey payload expirationMs failure unconfirmed) :=
  command_then (by trivial) fun _ => command_then home fun _ => .ret trivial

theorem publishRawPayload_keeping (named : config.exchange ≠ "") (used : route ∈ routes)
    {exchange routingKey : String} {payload : RabbitMqPayload} {expirationMs : Option UInt64}
    (home : ∀ queue, Leads config exchange routingKey queue → Home config routes queue payload) :
    Keeping config routes made (fun _ => True)
      (publishRawPayload (topologyOf config route) exchange routingKey payload expirationMs) :=
  quiet_then activeTransport_quiet
    (fun _ => behaves_seq (ensureTopology_keeping named used) fun _ => publishConfirmed_keeping home)
    fun _ => trivial

/-! ### The registry of routes -/

theorem persistRouteRegistry_keeping (used : route ∈ routes) :
    Keeping config routes made (fun _ => True)
      (persistRouteRegistry config (topologyOf config route)) := by
  refine quiet_then activeTransport_quiet (fun channel => ?_) fun _ => trivial
  refine command_then (by trivial) fun _ => publishConfirmed_keeping ?_
  intro queue leads
  exact ⟨used, leads.trans (if_pos rfl)⟩

/-- What is drained from a queue may lie there. -/
def Drained (config : RabbitMqQueueConfig) (routes : Set Route) (queue : String)
    (read : RabbitMqPayload → Option α) (drained : List (RabbitMqDrained α)) : Prop :=
  ∀ d ∈ drained, Home config routes queue d.payload ∧ read d.payload = some d.value

theorem drainQueue_keeping {queue failure : String} {read : RabbitMqPayload → Option α}
    (rounds : Nat) : Keeping config routes made (fun o => ∀ drained, o = .ok drained →
      Drained config routes queue read drained) (drainQueue channel queue failure read rounds) := by
  induction rounds with
  | zero => exact .call trivial fun never => nomatch never
  | succ rounds ih =>
    refine behaves_bind (command_keeping (c := .basicGet channel queue) trivial) (fun first home => ?_)
      fun _ _ same => nomatch same
    rcases first with _ | ⟨tag, payload⟩
    · refine .ret ?_
      rintro _ ⟨⟩ d mem
      cases mem
    · refine behaves_bind (decode_keeping read payload) (fun value reads => ?_)
        fun _ _ same => nomatch same
      refine behaves_bind ih (fun rest later => .ret ?_) fun _ _ same => nomatch same
      rintro _ ⟨⟩
      exact List.forall_mem_cons.2 ⟨⟨home _ rfl, reads value rfl⟩, later rest rfl⟩

theorem registerRoutes_keeping (named : config.exchange ≠ "")
    {entries : List (RabbitMqDrained RabbitMqRouteRegistryEntry)}
    (seen : List RabbitMqRouteRegistryEntry) (drained : Drained config routes
      (rabbitmqRouteRegistryQueueName config) RabbitMqPayload.asRoute entries) :
    Keeping config routes made (fun _ => True) (registerRoutes config channel seen entries) := by
  induction entries generalizing seen with
  | nil => exact .ret trivial
  | cons entry rest ih =>
    obtain ⟨⟨home, read⟩, drained⟩ := List.forall_mem_cons.1 drained
    have used := home_registry home read
    unfold registerRoutes
    split_ifs
    · exact ih seen drained
    · have ensures : Keeping config routes made (fun _ => True) (ensureTopology channel
          (topologyOf config (entry.value.queue, entry.value.lane))) :=
        ensureTopology_keeping named used
      refine behaves_seq ensures fun _ => ?_
      refine behaves_bind (catalog_keeping (c := .registerRoute (entry.value.queue, entry.value.lane)
        (topologyOf config (entry.value.queue, entry.value.lane))) ⟨used, rfl⟩) (fun _ _ => ?_)
        fun _ => trivial
      exact ih _ drained

theorem restoreRegistry_keeping {entries : List (RabbitMqDrained RabbitMqRouteRegistryEntry)}
    (drained : Drained config routes (rabbitmqRouteRegistryQueueName config)
      RabbitMqPayload.asRoute entries) : Keeping config routes made (fun _ => True)
      (restoreRegistry channel (rabbitmqRouteRegistryQueueName config) entries) := by
  induction entries with
  | nil => exact .ret trivial
  | cons entry rest ih =>
    obtain ⟨⟨home, -⟩, drained⟩ := List.forall_mem_cons.1 drained
    refine behaves_seq (publishConfirmed_keeping fun queue leads => ?_) fun _ => ?_
    · obtain rfl : queue = rabbitmqRouteRegistryQueueName config := leads.trans (if_pos rfl)
      exact home
    · exact command_then (by trivial) fun _ => ih drained

theorem ensureRegisteredRoutesLoaded_keeping (named : config.exchange ≠ "") (rounds : Nat) :
    Keeping config routes made (fun _ => True) (ensureRegisteredRoutesLoaded config rounds) := by
  refine quiet_then activeTransport_quiet (fun channel => ?_) fun _ => trivial
  refine command_then (by trivial) fun _ => ?_
  refine behaves_bind (drainQueue_keeping rounds) (fun entries drained => ?_) fun _ => trivial
  exact behaves_seq (registerRoutes_keeping named [] (drained entries rfl)) fun _ =>
    restoreRegistry_keeping (drained entries rfl)

/-! ### Dead letters -/

/-- The records that are drained from the dead-letter queue of a route. -/
abbrev DrainedOf (config : RabbitMqQueueConfig) (routes : Set Route) (route : Route)
    (messages : List RabbitMqDeadLetterMessage) : Prop :=
  Drained config routes (topologyOf config route).deadLetterQueueName RabbitMqPayload.asRecord messages

theorem drainDeadLetterQueue_keeping (named : config.exchange ≠ "") (used : route ∈ routes)
    (rounds : Nat) : Keeping config routes made (fun o => ∀ messages, o = .ok messages →
      DrainedOf config routes route messages)
      (drainDeadLetterQueue (topologyOf config route) rounds) := by
  refine quiet_then activeTransport_quiet (fun channel => ?_) fun _ _ same => nomatch same
  exact behaves_bind (ensureTopology_keeping named used) (fun _ _ => drainQueue_keeping rounds)
    fun _ _ same => nomatch same

theorem restoreMessages_keeping (named : config.exchange ≠ "") (used : route ∈ routes)
    {messages : List RabbitMqDeadLetterMessage} (drained : DrainedOf config routes route messages) :
    Keeping config routes made (fun _ => True)
      (restoreMessages channel (topologyOf config route) messages) := by
  induction messages with
  | nil => exact .ret trivial
  | cons message rest ih =>
    obtain ⟨⟨home, -⟩, drained⟩ := List.forall_mem_cons.1 drained
    refine behaves_seq (publishRawPayload_keeping named used fun queue leads => ?_) fun _ => ?_
    · obtain rfl := (leads_dead queue).1 leads
      exact home
    · exact command_then (by trivial) fun _ => ih drained

theorem restoreDeadLetterQueue_keeping (named : config.exchange ≠ "") (used : route ∈ routes)
    {messages : List RabbitMqDeadLetterMessage} (drained : DrainedOf config routes route messages) :
    Keeping config routes made (fun _ => True)
      (restoreDeadLetterQueue (topologyOf config route) messages) :=
  quiet_then activeTransport_quiet (fun _ => restoreMessages_keeping named used drained)
    fun _ => trivial

/-- The topologies of some routes. -/
def AllBuilt (config : RabbitMqQueueConfig) (routes : Set Route)
    (topologies : List RabbitMqRouteTopology) : Prop :=
  ∀ topology ∈ topologies, ∃ route ∈ routes, topology = topologyOf config route

theorem loadFrom_keeping (named : config.exchange ≠ "") {rounds : Nat}
    {topologies : List RabbitMqRouteTopology} (built : AllBuilt config routes topologies) :
    Keeping config routes made (fun _ => True) (loadFrom rounds topologies) := by
  induction topologies with
  | nil => exact .ret trivial
  | cons topology rest ih =>
    obtain ⟨⟨route, used, rfl⟩, others⟩ := List.forall_mem_cons.1 built
    refine behaves_bind (drainDeadLetterQueue_keeping named used rounds) (fun messages drained => ?_)
      fun _ => trivial
    refine behaves_seq (restoreDeadLetterQueue_keeping named used (drained messages rfl)) fun _ => ?_
    exact behaves_seq (ih others) fun _ => .ret trivial

/-- A record that is to be replayed lay in the dead-letter queue of its route, with the others. -/
def Found (config : RabbitMqQueueConfig) (routes : Set Route)
    (replay : DeadLetterReplay RabbitMqRouteTopology RabbitMqDeadLetterReplay) : Prop :=
  ∃ route ∈ routes, replay.topology = topologyOf config route ∧
    replay.record = replay.stored.target.value ∧
      DrainedOf config routes route (replay.stored.target :: replay.stored.remaining)

theorem findAmong_keeping (named : config.exchange ≠ "") {deliveryId : String} {rounds : Nat}
    {topologies : List RabbitMqRouteTopology} (built : AllBuilt config routes topologies) :
    Keeping config routes made (fun o => ∀ replay, o = .ok (some replay) →
      Found config routes replay) (findAmong deliveryId rounds topologies) := by
  induction topologies with
  | nil => exact .ret fun _ same => nomatch same
  | cons topology rest ih =>
    obtain ⟨⟨route, used, rfl⟩, others⟩ := List.forall_mem_cons.1 built
    refine behaves_bind (drainDeadLetterQueue_keeping named used rounds) (fun messages drained => ?_)
      fun _ _ same => nomatch same
    have drained := drained messages rfl
    split_ifs
    · exact ih others
    · split
      · next replay found =>
        obtain ⟨-, front, back, split, remaining⟩ := splitTarget_spec found
        refine .ret ?_
        rintro _ ⟨⟩
        refine ⟨route, used, rfl, rfl, fun d mem => drained d ?_⟩
        rw [remaining, List.mem_cons, List.mem_append] at mem
        rw [split, List.mem_append, List.mem_cons]
        grind
      · exact behaves_bind (restoreDeadLetterQueue_keeping named used drained) (fun _ _ => ih others)
          fun _ _ same => nomatch same

theorem replayDeadLetter_keeping (isolated : AllIsolated (rabbitMqName config) routes)
    (named : config.exchange ≠ "") (rounds : Nat) (deliveryId : String) :
    Keeping config routes made (fun _ => True) (replayDeadLetter config rounds deliveryId) := by
  have finds : Keeping config routes made (fun o => ∀ replay, o = .ok (some replay) →
      Found config routes replay) (findDeadLetterReplay config rounds deliveryId) := by
    refine behaves_bind (ensureRegisteredRoutesLoaded_keeping named rounds) (fun _ _ => ?_)
      fun _ _ same => nomatch same
    refine behaves_bind (catalog_keeping (c := .topologies) trivial) (fun topologies built => ?_)
      fun _ _ same => nomatch same
    exact findAmong_keeping named (built topologies rfl)
  refine behaves_bind finds (fun replay known => ?_) fun _ => trivial
  cases replay with
  | none => exact .fail trivial
  | some replay =>
    obtain ⟨route, used, built, record, drained⟩ := known replay rfl
    obtain ⟨⟨home, read⟩, others⟩ := List.forall_mem_cons.1 drained
    have own : replay.record.task.route = route := by
      rw [record]
      exact home_dead isolated used home read
    have publishes : Keeping config routes made (fun _ => True)
        (publishEnvelope replay.topology replay.topology.exchange replay.topology.routingKey
          (replayOf replay.record) none) := by
      rw [built]
      refine publishRawPayload_keeping named used fun queue leads => ?_
      obtain rfl := (leads_work named queue).1 leads
      exact ⟨own ▸ used, .work, by decide, congrArg (rabbitMqName config · .work) own⟩
    have removes : Keeping config routes made (fun _ => True)
        (finalizeReplayedDeadLetter replay.topology replay.stored) := by
      rw [built]
      refine quiet_then activeTransport_quiet (fun channel => ?_) fun _ => trivial
      exact command_then (by trivial) fun _ => restoreDeadLetterQueue_keeping named used others
    exact behaves_seq publishes fun _ => behaves_seq removes fun _ => .ret trivial

/-! ### Deliveries -/

theorem lease_keeping {tag : Amqp.DeliveryTag} {payload : RabbitMqPayload}
    (isolated : AllIsolated (rabbitMqName config) routes) (used : route ∈ routes)
    (may : MayLease made route)
    (home : Home config routes (topologyOf config route).queueName payload) :
    Keeping config routes made (fun _ => True) (lease (topologyOf config route) tag payload) := by
  refine behaves_bind (decode_keeping RabbitMqPayload.asEnvelope payload) (fun e read => ?_)
    fun _ => trivial
  have own := home_work isolated used home (read e rfl)
  refine behaves_seq ?_ fun _ => .ret trivial
  refine .call trivial fun _ _ => .call ?_ fun _ _ => .call trivial fun _ _ => .ret trivial
  subst own
  exact ⟨⟨used, rfl⟩, may⟩

theorem reserveRoutes_keeping (isolated : AllIsolated (rabbitMqName config) routes)
    (order : List Route) (may : ∀ route ∈ order, MayLease made route) :
    Keeping config routes made (fun _ => True) (reserveRoutes channel order) := by
  induction order with
  | nil => exact .ret trivial
  | cons route rest ih =>
    obtain ⟨first, may⟩ := List.forall_mem_cons.1 may
    refine behaves_bind (catalog_keeping (c := .get route) trivial) (fun known told => ?_)
      fun _ => trivial
    cases known with
    | none => exact ih may
    | some topology =>
      obtain ⟨used, rfl⟩ := told (some topology) rfl topology rfl
      have reserves : Keeping config routes made (fun _ => True)
          (reserveRoute channel route (topologyOf config route)) := by
        refine behaves_bind (command_keeping
          (c := .basicGet channel (topologyOf config route).queueName) trivial)
          (fun found home => ?_) fun _ => trivial
        rcases found with _ | ⟨tag, payload⟩
        · exact .ret trivial
        · refine behaves_bind (catalog_keeping (by trivial)) (fun _ _ => ?_) fun _ => trivial
          exact behaves_seq (lease_keeping isolated used first (home _ rfl)) fun _ => .ret trivial
      refine behaves_seq reserves fun found => ?_
      cases found with
      | none => exact ih may
      | some delivery => exact .ret trivial

theorem ackBrokerDelivery_keeping (deliveryId : String) :
    Keeping config routes made (fun _ => True) (ackBrokerDelivery deliveryId) := by
  refine quiet_then activeTransport_quiet (fun channel => ?_) fun _ => trivial
  refine behaves_bind (takeLease_keeping deliveryId) (fun leased _ => ?_) fun _ => trivial
  cases leased with
  | none => exact .ret trivial
  | some leased => exact command_then (by trivial) fun _ => .ret trivial

theorem deadLetter_keeping (named : config.exchange ≠ "") {leased : RabbitMqLeasedDelivery}
    (home : LeaseHome config routes leased) (error : String) :
    Keeping config routes made (fun _ => True) (deadLetter leased error) := by
  obtain ⟨used, built⟩ := home
  refine quiet_then (p := nowMs) (.call trivial fun _ => .ret) (fun now => ?_) fun _ => trivial
  refine behaves_seq ?_ fun _ => ackBrokerDelivery_keeping _
  rw [built]
  refine publishRawPayload_keeping named used fun queue leads => ?_
  obtain rfl := (leads_dead queue).1 leads
  exact ⟨used, rfl⟩

theorem requeue_keeping (named : config.exchange ≠ "") {leased : RabbitMqLeasedDelivery}
    (home : LeaseHome config routes leased) (error : String) (delayMs : UInt64) :
    Keeping config routes made (fun _ => True) (requeue leased error delayMs) := by
  obtain ⟨used, built⟩ := home
  refine behaves_seq ?_ fun _ => ackBrokerDelivery_keeping _
  rw [built]
  refine publishRawPayload_keeping named used fun queue leads => ?_
  obtain rfl := (leads_retry queue).1 leads
  exact ⟨used, .retry, by decide, rfl⟩

theorem enqueue_keeping (named : config.exchange ≠ "") {task : RuntimeTask}
    (used : task.route ∈ routes) :
    Keeping config routes made (fun _ => True) (enqueue config task) := by
  refine behaves_bind (catalog_keeping
    (c := .getOrInsertWith task.route (topologyOf config task.route)) ⟨used, rfl⟩)
    (fun topology built => ?_) fun _ => trivial
  obtain rfl : topology = topologyOf config task.route := built topology rfl
  refine behaves_seq (persistRouteRegistry_keeping used) fun _ => ?_
  refine publishRawPayload_keeping named used fun queue leads => ?_
  obtain rfl := (leads_work named queue).1 leads
  exact ⟨used, .work, by decide, rfl⟩

/-- The routes that a call brings into use. -/
def Brings (routes : Set Route) : RabbitMqCall → Prop
  | .enqueue task => task.route ∈ routes
  | _ => True

theorem call_keeping (isolated : AllIsolated (rabbitMqName config) routes)
    (named : config.exchange ≠ "") (rounds : Nat) (brings : Brings routes made) :
    Keeping config routes made (fun _ => True) (callOf config rounds made) := by
  suffices keeps : Keeping config routes made (fun _ => True) (made.prog config rounds) from
    behaves_seq keeps fun _ => .ret trivial
  cases made with
  | enqueue task => exact enqueue_keeping named brings
  | reserve bindings =>
    have inner : Keeping config routes (.reserve bindings) (fun _ => True)
        (reserveFromBroker bindings) := by
      refine quiet_then activeTransport_quiet (fun channel => ?_) fun _ => trivial
      refine behaves_bind (catalog_keeping (c := .orderedRoutes bindings) trivial)
        (fun order told => ?_) fun _ => trivial
      exact reserveRoutes_keeping isolated order (told order rfl)
    refine inner.attempt.bind (fun _ result _ => ?_) fun _ _ _ => trivial
    cases result with
    | ok | error => exact .ret trivial
  | ack deliveryId =>
    refine quiet_then (locked_quiet (.call trivial fun _ => .ret)) (fun _ => ?_) fun _ => trivial
    exact ackBrokerDelivery_keeping deliveryId
  | retry deliveryId error delayMs =>
    refine behaves_bind (takeLease_keeping deliveryId) (fun leased taken => ?_) fun _ => trivial
    cases leased with
    | none => exact .fail trivial
    | some leased =>
      dsimp only
      split_ifs
      · exact behaves_seq (deadLetter_keeping named (taken leased rfl) error) fun _ => .ret trivial
      · exact behaves_seq (requeue_keeping named (taken leased rfl) error delayMs) fun _ =>
          .ret trivial
  | reject deliveryId error =>
    refine behaves_bind (takeLease_keeping deliveryId) (fun leased taken => ?_) fun _ => trivial
    cases leased with
    | none => exact .ret trivial
    | some leased => exact deadLetter_keeping named (taken leased rfl) error
  | stats =>
    refine quiet_then activeTransport_quiet (fun channel => ?_) fun _ => trivial
    refine behaves_seq (ensureRegisteredRoutesLoaded_keeping named rounds) fun _ => ?_
    refine behaves_bind (catalog_keeping (c := .topologies) trivial) (fun topologies _ => ?_)
      fun _ => trivial
    exact keeping_of_quiet (locked_quiet (statsRows_quiet topologies))
  | deadLetters =>
    refine behaves_seq (ensureRegisteredRoutesLoaded_keeping named rounds) fun _ => ?_
    refine behaves_bind (catalog_keeping (c := .topologies) trivial) (fun topologies built => ?_)
      fun _ => trivial
    exact loadFrom_keeping named (built topologies rfl)
  | replayDeadLetter deliveryId => exact replayDeadLetter_keeping isolated named rounds deliveryId

end Programs

section Steps

variable {config : RabbitMqQueueConfig} {routes : Set Route} {made : RabbitMqCall}
  {w v : RabbitMqWorld} {op : RabbitMqOp} {r : op.Answer}

/-- What the broker keeps and a node remembers belongs to the routes. -/
structure Sane (config : RabbitMqQueueConfig) (routes : Set Route) (w : RabbitMqWorld) : Prop where
  laid : w.server.LaidOut (layout config routes)
  knows : w.routes.Knows routes (topologyOf config)
  leases : ∀ id leased, w.leased.find id = some leased → LeaseHome config routes leased

theorem sane_restart (laid : w.server.LaidOut (layout config routes)) :
    Sane config routes w.restart where
  laid := laid
  knows := RouteCatalog.knows_new
  leases id leased found := by
    change RabbitMqLeases.empty.find id = some leased at found
    rw [RabbitMqLeases.find_empty] at found
    cases found

theorem laid_of_step (coherent : (layout config routes).Coherent) {c : Amqp.Cmd RabbitMqPayload}
    {r : Except String c.Reply} (laid : w.server.LaidOut (layout config routes))
    (permitted : (layout config routes).Allows c) (step : rabbitmq w (.command c) r v) :
    v.server.LaidOut (layout config routes) := by
  obtain ⟨lost, same | ⟨reply, executed⟩⟩ := effect_of_step step
  · rw [same]
    exact laid.closeAll lost
  · exact (laid.closeAll lost).execute coherent permitted executed

/-- What is handed out of a queue may lie there. -/
theorem assumes_of_step {c : Amqp.Cmd RabbitMqPayload} {r : Except String c.Reply}
    (laid : w.server.LaidOut (layout config routes)) (step : rabbitmq w (.command c) r v) :
    assumes config routes (.command c) r := by
  cases c with
  | basicGet channel queue =>
    rcases r with _ | _ | ⟨tag, payload⟩
    · trivial
    · trivial
    · obtain ⟨lost, server, executed, rfl⟩ := executed_of_basicGet step
      exact (laid.closeAll lost).home_of_basicGet executed
  | _ => trivial

/-- A call that does what it may is answered as it assumes, and what is kept stays with its route. -/
theorem sane_step (coherent : (layout config routes).Coherent) (sane : Sane config routes w)
    (permitted : permits config routes made op) (step : rabbitmq w op r v) :
    assumes config routes op r ∧ Sane config routes v := by
  cases op with
  | command c =>
    obtain ⟨leased, known⟩ := memory_of_command step
    refine ⟨assumes_of_step sane.laid step, laid_of_step coherent sane.laid permitted step, ?_, ?_⟩
    · rw [known]
      exact sane.knows
    · rw [leased]
      exact sane.leases
  | insertLease leased =>
    obtain rfl := step
    refine ⟨trivial, sane.laid, sane.knows, ?_⟩
    intro id held found
    rcases RabbitMqLeases.find_insert found with rfl | old
    · exact permitted.1
    · exact sane.leases id held old
  | removeLease deliveryId =>
    obtain ⟨found, rfl⟩ := step
    constructor
    · rcases r with _ | leased
      · trivial
      · exact sane.leases deliveryId leased found.symm
    · refine ⟨sane.laid, sane.knows, ?_⟩
      intro id held found
      exact sane.leases id held (RabbitMqLeases.find_of_erase found)
  | clearLeases =>
    obtain rfl := step
    refine ⟨trivial, sane.laid, sane.knows, fun id leased found => ?_⟩
    rw [RabbitMqLeases.find_empty] at found
    cases found
  | catalog c =>
    obtain ⟨rfl, rfl⟩ := step
    exact ⟨sane.knows.tells permitted, sane.laid, sane.knows.execute permitted, sane.leases⟩
  | lock | transport | findLease | countLeases =>
    obtain ⟨-, rfl⟩ := step
    exact ⟨trivial, sane.laid, sane.knows, sane.leases⟩
  | exhausted => cases r
  | unlock | setTransport | isConnected | nowMs | parse =>
    obtain rfl := step
    exact ⟨trivial, sane.laid, sane.knows, sane.leases⟩

end Steps

section Runs

variable {config : RabbitMqQueueConfig} {routes : Set Route}

/-- A call that brings tasks of some routes in, if it brings any, or what happens by itself. -/
abbrev CallOn (routes : Set Route) : Type :=
  { c : NodeCall // match c with
    | .call _ _ made => Brings routes made
    | .restart _ | .expire _ => True }

def CallsOn (config : RabbitMqQueueConfig) (routes : Set Route) (p : NodeProg) : Prop :=
  ∃ c : CallOn routes, p = c.1.prog config

def permitsOn (config : RabbitMqQueueConfig) (routes : Set Route) (c : CallOn routes) :
    NodeOp → Prop
  | .op _ op => ∃ node rounds made, c.1 = .call node rounds made ∧ permits config routes made op
  | .restart _ | .expire _ => True

def assumesOn (config : RabbitMqQueueConfig) (routes : Set Route) : (c : NodeOp) → c.Answer → Prop
  | .op _ op, r => assumes config routes op r
  | .restart _, _ | .expire _, _ => True

theorem prog_keeping (isolated : AllIsolated (rabbitMqName config) routes)
    (named : config.exchange ≠ "") (c : CallOn routes) :
    Holdings.Behaves (permitsOn config routes c) (assumesOn config routes) (fun _ => True)
      (c.1.prog config) := by
  obtain ⟨c, brings⟩ := c
  cases c with
  | call node rounds made =>
    exact (call_keeping isolated named rounds brings).relabel
      (fun _ _ permitted => ⟨node, rounds, made, rfl, permitted⟩) (fun _ _ _ => rfl)
      fun _ _ _ assumed => assumed
  | restart | expire => exact .call trivial fun _ _ => .ret trivial

/-- Every node is sane. -/
def AllSane (config : RabbitMqQueueConfig) (routes : Set Route) (w : RabbitMqNodes) : Prop :=
  ∀ node, Sane config routes (w.seenBy node)

theorem allSane_fresh : AllSane config routes .fresh :=
  fun node => sane_restart (w := RabbitMqNodes.fresh.seenBy node) Amqp.Server.laidOut_fresh

theorem AllSane.put {w : RabbitMqNodes} {v : RabbitMqWorld} (all : AllSane config routes w)
    (node : Nat) (sane : Sane config routes v) : AllSane config routes (w.put node v) := by
  intro other
  by_cases same : other = node
  · rw [same, RabbitMqNodes.seenBy_put]
    exact sane
  · rw [RabbitMqNodes.seenBy_put_ne w v same]
    exact ⟨sane.laid, (all other).knows, (all other).leases⟩

theorem allSane_step (coherent : (layout config routes).Coherent) (w : RabbitMqNodes)
    (c : CallOn routes) (op : NodeOp) (r : op.Answer) (u : RabbitMqNodes)
    (all : AllSane config routes w) (permitted : permitsOn config routes c op)
    (step : nodes w op r u) : assumesOn config routes op r ∧ AllSane config routes u := by
  cases op with
  | op node op =>
    obtain ⟨v, step, rfl⟩ := step
    obtain ⟨_, _, _, -, permitted⟩ := permitted
    obtain ⟨assumed, sane⟩ := sane_step coherent (all node) permitted step
    exact ⟨assumed, all.put node sane⟩
  | restart node =>
    obtain rfl := step
    exact ⟨trivial, all.put node (sane_restart (all node).laid)⟩
  | expire i =>
    obtain rfl := step
    refine ⟨trivial, fun node => ⟨?_, (all node).knows, (all node).leases⟩⟩
    exact (all node).laid.expired coherent (w.server.expired i)

/-- What a worker leases in a step is a task of a route that it is bound to. -/
def LeasesOwn (config : RabbitMqQueueConfig) (x : NodeTransition) : Prop :=
  ∀ owner leased r call others,
    x.label = .command (.op owner (.insertLease leased)) r call others →
      ∀ node rounds bindings,
        call.program = (NodeCall.call node rounds (.reserve bindings)).prog config →
          Allows bindings leased.delivery.task.route

/-- In every interleaving of the calls of all nodes on routes that are apart, no queue of a route
holds a task of another route, and a worker that reserves leases tasks of the routes that it is bound
to. -/
theorem rabbitMq_tasks_keep_to_routes (config : RabbitMqQueueConfig) (named : config.exchange ≠ "")
    (routes : Set Route) (isolated : AllIsolated (rabbitMqName config) routes)
    (moves : List NodeTransition) (b : NodeBusy)
    (run : Run (Interleaved nodes (CallsOn config routes)) ⟨.fresh, 0⟩ moves b) :
    (∀ item ∈ b.state.server.contents, ∀ task, item.2.task? = some task →
      ∀ route ∈ routes, ∀ store, rabbitMqName config route store = some item.1 →
        task.route = route) ∧
    ∀ x ∈ moves, LeasesOwn config x := by
  have coherent := layout_coherent isolated named
  obtain ⟨sane, permitted⟩ := Holdings.conduct_of_run (prog_keeping isolated named)
    (allSane_step coherent) allSane_fresh run
  constructor
  · rintro ⟨queue, payload⟩ mem task carries route used store name
    have home := (sane 0).laid.home _ mem
    cases payload with
    | envelope e =>
      cases carries
      obtain ⟨used', store', -, name'⟩ := home
      exact (isolated.eq_of_name (rabbitMqName_own config) used' used name' name).1
    | record r =>
      cases carries
      exact (isolated.eq_of_name (rabbitMqName_own config) home.1 used home.2 name).1
    | route => cases carries
  · intro x mem owner leased r call others label node rounds bindings same
    obtain ⟨-, all⟩ := permitted x mem _ _ _ _ label
    obtain ⟨_, _, _, made, -, may⟩ := all ⟨.call node rounds (.reserve bindings), trivial⟩ same
    cases made
    exact may

def twoRoutes : Set Route := {("oj", "fast"), ("judge", "fast")}

def sampleConfig : RabbitMqQueueConfig := ⟨"nexus.tasks", "nexus"⟩

theorem twoRoutes_isolated : AllIsolated (rabbitMqName sampleConfig) twoRoutes := by
  refine allIsolated_pair ((rabbitMq_isolated_iff sampleConfig).2 ⟨by decide +kernel, ?_⟩)
  rw [unsuffixed_iff]
  decide +kernel

def judgeWorker : List RuntimeRouteBinding := [⟨"judge", "fast"⟩]

/-- Two nodes enqueue on two routes at once, and workers of both reserve from one of them at once. A
delivery is retried with a delay while the other node starts again, and the retry expires. -/
def routeTurns : List (CallOn twoRoutes ⊕ Nat) :=
  .inl ⟨.call 0 3 (.enqueue (sampleTask "task-1" "oj" 3)), .inl rfl⟩ ::
  .inl ⟨.call 1 3 (.enqueue (sampleTask "task-2" "judge" 3)), .inr rfl⟩ :: inTurn 40 [0, 1] ++
  .inl ⟨.call 0 3 (.enqueue (sampleTask "task-3" "judge" 3)), .inr rfl⟩ :: inTurn 40 [0] ++
  .inl ⟨.call 0 3 (.reserve judgeWorker), trivial⟩ ::
  .inl ⟨.call 1 3 (.reserve judgeWorker), trivial⟩ :: inTurn 20 [0, 1] ++
  .inl ⟨.call 1 3 (.retry "rmq-task-3-1" "boom" 5000), trivial⟩ :: inTurn 20 [0] ++
  .inl ⟨.restart 0, trivial⟩ :: inTurn 2 [1] ++ inTurn 30 [0] ++
  .inl ⟨.expire 4, trivial⟩ :: inTurn 2 [0]

def routeRun : Option ((RabbitMqNodes × List (Call NodeOp NodeOp.Answer AppError Unit)) × NodeLog) :=
  tryPlay (respondNodes (sampleTask "task-9" "oj" 3)) (fun _ _ _ _ _ => true) .fresh []
    (schedule (fun c : CallOn twoRoutes => c.1.prog sampleConfig) routeTurns)

theorem expired_retry_stays_with_route : ∃ moves b,
    Run (Interleaved nodes (CallsOn sampleConfig twoRoutes)) ⟨.fresh, 0⟩ moves b ∧
    b.state.server.ready.map (fun message => (message.queue, message.payload.task?)) =
      [("nexus.__routes", none), ("nexus.__routes", none),
        ("nexus.oj.fast", some (sampleTask "task-1" "oj" 3)), ("nexus.__routes", none),
        ("nexus.judge.fast", some (sampleTask "task-3" "judge" 3))] ∧
    (∀ item ∈ b.state.server.contents, ∀ task, item.2.task? = some task →
      ∀ route ∈ twoRoutes, ∀ store, rabbitMqName sampleConfig route store = some item.1 →
        task.route = route) ∧
    ∀ x ∈ moves, LeasesOwn sampleConfig x := by
  have ended : routeRun.map (fun ran => ran.1.1.server.ready.map fun message =>
      (message.queue, message.payload.task?)) =
      some [("nexus.__routes", none), ("nexus.__routes", none),
        ("nexus.oj.fast", some (sampleTask "task-1" "oj" 3)), ("nexus.__routes", none),
        ("nexus.judge.fast", some (sampleTask "task-3" "judge" 3))] := by
    decide +kernel
  obtain ⟨⟨⟨t, left⟩, log⟩, played, ready⟩ := Option.map_eq_some_iff.1 ended
  obtain ⟨moves, run, -⟩ := run_tryPlay (CallsOn sampleConfig twoRoutes) respondNodes_allowed
    (fun p mem => named_of_start mem) played
  exact ⟨moves, _, run, ready, rabbitMq_tasks_keep_to_routes sampleConfig (by decide) twoRoutes
    twoRoutes_isolated moves _ run⟩

end Runs

end RabbitMq.Routes

end NexusCore.Runtime
