import NexusCore.Lib.JetStreamLayout
import NexusCore.Runtime.Broker.NatsNodes
import NexusCore.Runtime.Broker.RouteNames

/-!
# The routes of the NATS adapter

As long as the subjects and consumers of the routes in use are different, a task stays with its
route, in every interleaving of the calls of all nodes: what is published goes under a subject of the
task's own route, and a worker leases tasks of its own routes alone.
-/

namespace NexusCore.Runtime

open NexusCore.Lib
open NexusCore.Lib.Holdings (behaves_bind behaves_seq)

/-- The store of a route that a payload belongs to. -/
def NatsPayload.store : NatsPayload → RouteStore
  | .envelope _ => .work
  | .record _ => .deadLetter

namespace Nats.Routes

def topologyOf (config : NatsQueueConfig) (route : Route) : NatsRouteTopology :=
  buildNatsRouteTopology config route.1 route.2

/-- A payload goes under the name of its store, and a consumer reads the subject of its route. -/
def layout (config : NatsQueueConfig) (routes : Set Route) : JetStream.Layout NatsPayload where
  home subject payload := payload.task.route ∈ routes ∧
    natsName config payload.task.route payload.store = some subject
  reads name filter := ∃ route ∈ routes, natsName config route .consumer = some name ∧
    natsName config route .work = some filter

/-- The routes of the tasks that a call may lease. -/
def MayLease : NatsCall → Route → Prop
  | .reserve bindings, route => Allows bindings route
  | _, _ => False

/-- What a call may do with the tasks of some routes. -/
def permits (config : NatsQueueConfig) (routes : Set Route) (made : NatsCall) : NatsOp → Prop
  | .command c => (layout config routes).Allows c
  | .insertLease leased =>
    leased.delivery.task.route ∈ routes ∧ MayLease made leased.delivery.task.route
  | .catalog c => c.Enters routes (topologyOf config)
  | _ => True

/-- What a call relies on in an answer. -/
def assumes (config : NatsQueueConfig) (routes : Set Route) : (op : NatsOp) → op.Answer → Prop
  | .command (.fetch name), .ok (some message) => ∀ route ∈ routes,
      natsName config route .consumer = some name → message.payload.task.route = route
  | .command (.getLogged _), .ok (some payload) => (NatsPayload.task payload).route ∈ routes
  | .removeLease _, some leased => leased.delivery.task.route ∈ routes
  | .catalog c, r => c.Tells routes (topologyOf config) r
  | _, _ => True

section Programs

variable {config : NatsQueueConfig} {routes : Set Route} {made : NatsCall} {route : Route}
  {α β : Type} {p : NatsProg α} {f : α → NatsProg β} {exits : AppResult α → Prop}
  {exits' : AppResult β → Prop}

abbrev Keeping (config : NatsQueueConfig) (routes : Set Route) (made : NatsCall)
    (exits : AppResult α → Prop) (p : NatsProg α) : Prop :=
  Holdings.Behaves (permits config routes made) (assumes config routes) exits p

theorem query_keeping {c : JetStream.Cmd NatsPayload} {message : String}
    (permitted : (layout config routes).Allows c) :
    Keeping config routes made
      (fun o => ∀ reply, o = .ok reply → assumes config routes (.command c) (.ok reply))
      (query c message) := by
  refine .call permitted fun r assumed => ?_
  cases r with
  | error error => exact .fail nofun
  | ok reply =>
    refine .ret ?_
    rintro _ ⟨⟩
    exact assumed

theorem catalog_keeping {c : CatalogCmd NatsRouteTopology}
    (enters : c.Enters routes (topologyOf config)) :
    Keeping config routes made
      (fun o => ∀ reply, o = .ok reply → c.Tells routes (topologyOf config) reply) (catalog c) := by
  refine .call enters fun r told => .ret ?_
  rintro _ ⟨⟩
  exact told

theorem consumer_keeping (used : route ∈ routes) :
    Keeping config routes made
      (fun o => ∀ name, o = .ok name → natsName config route .consumer = some name)
      (consumer (topologyOf config route)) := by
  refine behaves_bind (query_keeping ⟨route, used, rfl, rfl⟩) (fun _ _ => .ret ?_) nofun
  rintro name ⟨⟩
  rfl

theorem ensureTopology_keeping (used : route ∈ routes) :
    Keeping config routes made (fun _ => True) (ensureTopology (topologyOf config route)) :=
  behaves_bind (consumer_keeping used) (fun _ _ => .ret trivial) fun _ => trivial

theorem publishConfirmed_keeping {subject failure unconfirmed : String} {payload : NatsPayload}
    (home : (layout config routes).home subject payload) :
    Keeping config routes made (fun _ => True)
      (publishConfirmed subject payload failure unconfirmed) := by
  refine behaves_bind (query_keeping home) (fun _ _ => ?_) fun _ => trivial
  exact behaves_bind (query_keeping home) (fun _ _ => .ret trivial) fun _ => trivial

theorem publishEnvelope_keeping {e : NatsEnvelope} (used : e.task.route ∈ routes) :
    Keeping config routes made (fun _ => True)
      (publishEnvelope (topologyOf config e.task.route) e) :=
  behaves_seq (ensureTopology_keeping used) fun _ => publishConfirmed_keeping ⟨used, rfl⟩

theorem ensureRouteTopology_keeping {task : RuntimeTask} (used : task.route ∈ routes) :
    Keeping config routes made (fun o => ∀ topology, o = .ok topology →
      topology = topologyOf config task.route) (ensureRouteTopology config task) :=
  catalog_keeping (c := .getOrInsertWith task.route (topologyOf config task.route)) ⟨used, rfl⟩

theorem decode_keeping (read : NatsPayload → Option α) (payload : NatsPayload) :
    Keeping config routes made (fun o => ∀ a, o = .ok a → read payload = some a)
      (decode read payload) := by
  refine .call trivial fun parses _ => ?_
  split
  · next found _ =>
    refine .ret ?_
    rintro _ ⟨⟩
    exact found
  · exact .fail nofun

theorem nowMs_keeping : Keeping config routes made (fun _ => True) nowMs :=
  .call trivial fun _ _ => .ret trivial

/-- What a node leases is of a route in use. -/
theorem takeLease_keeping (deliveryId : String) :
    Keeping config routes made (fun o => ∀ leased, o = .ok (some leased) →
      leased.delivery.task.route ∈ routes) (takeLease deliveryId) := by
  refine .call trivial fun found assumed => .ret ?_
  rintro leased ⟨⟩
  exact assumed

/-- The records of the routes are loaded. -/
theorem loadRecords_keeping (sequences : List Nat) :
    Keeping config routes made (fun o => ∀ records, o = .ok records →
      ∀ found ∈ records, found.2.task.route ∈ routes) (loadRecords sequences) := by
  induction sequences with
  | nil =>
    refine .ret ?_
    rintro _ ⟨⟩ found mem
    cases mem
  | cons sequence rest ih =>
    refine behaves_bind (query_keeping (c := .getLogged sequence) trivial) (fun payload assumed => ?_)
      nofun
    cases payload with
    | none => exact ih
    | some payload =>
      refine behaves_bind (decode_keeping _ payload) (fun record read => ?_) nofun
      refine behaves_bind ih (fun records known => .ret ?_) nofun
      rintro all ⟨⟩
      rw [List.forall_mem_cons]
      refine ⟨?_, known records rfl⟩
      have used : payload.task.route ∈ routes := assumed (some payload) rfl
      rwa [NatsPayload.task_of_asRecord (read record rfl)] at used

theorem loadDeadLetters_keeping :
    Keeping config routes made (fun o => ∀ records, o = .ok records →
      ∀ found ∈ records, found.2.task.route ∈ routes) loadDeadLetters := by
  refine behaves_bind (query_keeping (c := .logInfo) trivial) (fun info _ => ?_) nofun
  split
  · refine .ret ?_
    rintro _ ⟨⟩ found mem
    cases mem
  · exact loadRecords_keeping _

theorem deadLetter_keeping {leased : NatsLeasedDelivery} {error message : String}
    (used : leased.delivery.task.route ∈ routes) :
    Keeping config routes made (fun _ => True) (deadLetter config leased error message) := by
  refine behaves_seq nowMs_keeping fun now => ?_
  refine behaves_bind (ensureRouteTopology_keeping used) (fun topology built => ?_) fun _ => trivial
  obtain rfl := built topology rfl
  refine behaves_seq (publishConfirmed_keeping ⟨used, rfl⟩) fun _ => ?_
  exact behaves_bind (query_keeping (by trivial)) (fun _ _ => .ret trivial) fun _ => trivial

theorem lease_keeping {message : JetStream.Delivered NatsPayload}
    (used : message.payload.task.route ∈ routes) (may : MayLease made message.payload.task.route) :
    Keeping config routes made (fun _ => True) (lease config message) := by
  refine behaves_bind (decode_keeping _ message.payload) (fun envelope read => ?_) fun _ => trivial
  rw [NatsPayload.task_of_asEnvelope (read envelope rfl)] at used may
  refine behaves_seq nowMs_keeping fun now => ?_
  exact .call ⟨used, may⟩ fun _ _ => .ret trivial

/-- A route that a call may lease from hands out its own tasks. -/
theorem reserveRoute_keeping (used : route ∈ routes) (may : MayLease made route) :
    Keeping config routes made (fun _ => True)
      (reserveRoute config route (topologyOf config route)) := by
  refine behaves_seq (ensureTopology_keeping used) fun _ => ?_
  refine behaves_bind (consumer_keeping used) (fun name named => ?_) fun _ => trivial
  refine behaves_bind (query_keeping (c := .fetch name) trivial) (fun fetched assumed => ?_)
    fun _ => trivial
  cases fetched with
  | none => exact .ret trivial
  | some message =>
    have own : message.payload.task.route = route :=
      assumed (some message) rfl route used (named name rfl)
    rw [← own] at used may
    refine behaves_bind (catalog_keeping (by trivial)) (fun _ _ => ?_) fun _ => trivial
    exact behaves_seq (lease_keeping used may) fun _ => .ret trivial

theorem reserveRoutes_keeping (order : List Route) (may : ∀ route ∈ order, MayLease made route) :
    Keeping config routes made (fun _ => True) (reserveRoutes config order) := by
  induction order with
  | nil => exact .ret trivial
  | cons route rest ih =>
    rw [List.forall_mem_cons] at may
    refine behaves_bind (catalog_keeping (c := .get route) trivial) (fun known told => ?_)
      fun _ => trivial
    cases known with
    | none => exact ih may.2
    | some topology =>
      obtain ⟨used, rfl⟩ := told (some topology) rfl topology rfl
      refine behaves_seq (reserveRoute_keeping used may.1) fun found => ?_
      cases found with
      | none => exact ih may.2
      | some delivery => exact .ret trivial

theorem statsRows_keeping (leases : NatsLeases) (deadLetters : List (Nat × RuntimeDeadLetterRecord))
    (topologies : List NatsRouteTopology)
    (built : ∀ topology ∈ topologies, ∃ route ∈ routes, topology = topologyOf config route) :
    Keeping config routes made (fun _ => True) (statsRows leases deadLetters topologies) := by
  induction topologies with
  | nil => exact .ret trivial
  | cons topology rest ih =>
    rw [List.forall_mem_cons] at built
    obtain ⟨⟨route, used, rfl⟩, built⟩ := built
    have row : Keeping config routes made (fun _ => True)
        (routeStats leases deadLetters (topologyOf config route)) := by
      refine behaves_bind (consumer_keeping used) (fun name _ => ?_) fun _ => trivial
      exact behaves_bind (query_keeping (c := .consumerInfo name) trivial) (fun _ _ => .ret trivial)
        fun _ => trivial
    exact behaves_seq row fun _ => behaves_seq (ih built) fun _ => .ret trivial

theorem replayDeadLetter_keeping (deliveryId : String) :
    Keeping config routes made (fun _ => True) (replayDeadLetter config deliveryId) := by
  have found : Keeping config routes made (fun o => ∀ replay, o = .ok (some replay) →
      replay.record.task.route ∈ routes ∧
        replay.topology = topologyOf config replay.record.task.route)
      (findDeadLetterReplay config deliveryId) := by
    refine behaves_bind loadDeadLetters_keeping (fun records known => ?_)
      fun _ _ same => nomatch same
    split
    · exact .ret fun replay same => absurd same (by simp)
    · next sequence record found =>
      have used := known records rfl _ (List.mem_of_find?_eq_some found)
      refine behaves_bind (ensureRouteTopology_keeping used) (fun topology built => .ret ?_)
        fun _ _ same => nomatch same
      rintro replay ⟨⟩
      exact ⟨used, built topology rfl⟩
  refine behaves_bind found (fun replay known => ?_) fun _ => trivial
  cases replay with
  | none => exact .fail trivial
  | some replay =>
    obtain ⟨used, built⟩ := known replay rfl
    have publishes : Keeping config routes made (fun _ => True)
        (publishEnvelope replay.topology (replayOf replay.record)) := by
      rw [built]
      exact publishEnvelope_keeping (e := replayOf replay.record) used
    have removes : Keeping config routes made (fun _ => True)
        (removeReplayedDeadLetterSequence replay.stored) :=
      behaves_bind (query_keeping (by trivial)) (fun _ _ => .ret trivial) fun _ => trivial
    exact behaves_seq publishes fun _ => behaves_seq removes fun _ => .ret trivial

/-- The routes that a call brings into use. -/
def Brings (routes : Set Route) : NatsCall → Prop
  | .enqueue task => task.route ∈ routes
  | _ => True

theorem call_keeping (brings : Brings routes made) :
    Keeping config routes made (fun _ => True) (made.prog config) := by
  have alone : ∀ {γ : Type} {q : NatsProg γ}, Keeping config routes made (fun _ => True) q →
      Keeping config routes made (fun _ => True) (q.bind fun _ => .ret ()) :=
    fun keeps => behaves_seq keeps fun _ => .ret trivial
  cases made with
  | enqueue task =>
    refine behaves_bind (ensureRouteTopology_keeping brings) (fun topology built => ?_)
      fun _ => trivial
    obtain rfl := built topology rfl
    exact publishEnvelope_keeping (e := ⟨task, none⟩) brings
  | reserve bindings =>
    have inner : Keeping config routes (.reserve bindings) (fun _ => True)
        (reserveFromBroker config bindings) := by
      refine behaves_bind (catalog_keeping (c := .orderedRoutes bindings) trivial)
        (fun order told => ?_) fun _ => trivial
      exact reserveRoutes_keeping order (told order rfl)
    refine alone (inner.attempt.bind (fun _ result _ => ?_) fun _ _ _ => trivial)
    cases result with
    | ok | error => exact .ret trivial
  | ack deliveryId =>
    refine behaves_bind (takeLease_keeping deliveryId) (fun leased _ => ?_) fun _ => trivial
    cases leased with
    | none => exact .ret trivial
    | some leased =>
      exact behaves_bind (query_keeping (c := .ack leased.acker) trivial) (fun _ _ => .ret trivial)
        fun _ => trivial
  | retry deliveryId error delayMs =>
    refine alone (behaves_bind (takeLease_keeping deliveryId) (fun leased taken => ?_)
      fun _ => trivial)
    cases leased with
    | none => exact .fail trivial
    | some leased =>
      change Keeping _ _ _ _ (ite (leased.delivery.attempt ≥ _) _ _)
      split
      · exact behaves_seq (deadLetter_keeping (taken leased rfl)) fun _ => .ret trivial
      · exact behaves_bind (query_keeping (c := .nak leased.acker delayMs) trivial)
          (fun _ _ => .ret trivial) fun _ => trivial
  | reject deliveryId error =>
    refine behaves_bind (takeLease_keeping deliveryId) (fun leased taken => ?_) fun _ => trivial
    cases leased with
    | none => exact .ret trivial
    | some leased => exact deadLetter_keeping (taken leased rfl)
  | stats =>
    refine alone (behaves_bind (catalog_keeping (c := .topologies) trivial)
      (fun topologies told => ?_) fun _ => trivial)
    refine behaves_seq (.call trivial fun _ _ => .ret trivial) fun leases => ?_
    refine behaves_bind loadDeadLetters_keeping (fun deadLetters _ => ?_) fun _ => trivial
    exact statsRows_keeping leases deadLetters topologies (told topologies rfl)
  | deadLetters =>
    exact alone (behaves_bind loadDeadLetters_keeping (fun _ _ => .ret trivial) fun _ => trivial)
  | replayDeadLetter deliveryId => exact alone (replayDeadLetter_keeping deliveryId)

end Programs

section Steps

variable {config : NatsQueueConfig} {routes : Set Route} {made : NatsCall} {w v : NatsWorld}
  {op : NatsOp} {r : op.Answer}

/-- What the server keeps and a node remembers belongs to the routes. -/
structure Sane (config : NatsQueueConfig) (routes : Set Route) (w : NatsWorld) : Prop where
  laid : w.server.LaidOut (layout config routes)
  knows : w.routes.Knows routes (topologyOf config)
  leases : ∀ id leased, w.leased.lookup id = some leased → leased.delivery.task.route ∈ routes

theorem sane_restart (laid : w.server.LaidOut (layout config routes)) :
    Sane config routes w.restart where
  laid := laid
  knows := RouteCatalog.knows_new
  leases id leased found := by
    change (∅ : NatsLeases).lookup id = some leased at found
    rw [AList.lookup_empty] at found
    cases found

/-- What a consumer of a route is handed is a task of that route. -/
theorem assumes_of_executed {c : JetStream.Cmd NatsPayload} {reply : c.Reply}
    (isolated : AllIsolated (natsName config) routes) (laid : w.server.LaidOut (layout config routes))
    (executed : Executed w c reply v) : assumes config routes (.command c) (.ok reply) := by
  obtain ⟨due, server, executed, rfl⟩ := executed
  have laid := laid.elapse due
  cases c with
  | fetch name =>
    rcases reply with _ | message
    · trivial
    · intro route used named
      obtain ⟨subject, ⟨other, used', named', work⟩, home, own⟩ := laid.home_of_fetch executed
      obtain ⟨rfl, -⟩ := isolated.eq_of_name (natsName_own config) used used' named named'
      exact (isolated.eq_of_name (natsName_own config) home used own work).1
  | getLogged sequence =>
    rcases reply with _ | payload
    · trivial
    · obtain ⟨subject, home, -⟩ := laid.home_of_getLogged executed
      exact home
  | _ => trivial

theorem laid_of_step {c : JetStream.Cmd NatsPayload} {r : Except String c.Reply}
    (laid : w.server.LaidOut (layout config routes)) (permitted : (layout config routes).Allows c)
    (step : nats w (.command c) r v) : v.server.LaidOut (layout config routes) := by
  obtain ⟨due, same | ⟨reply, executed⟩⟩ := effect_of_step step
  · rw [same]
    exact laid.elapse due
  · exact (laid.elapse due).execute permitted executed

/-- A call that does what it may is answered as it assumes, and what is kept stays with its route. -/
theorem sane_step (isolated : AllIsolated (natsName config) routes) (sane : Sane config routes w)
    (permitted : permits config routes made op) (step : nats w op r v) :
    assumes config routes op r ∧ Sane config routes v := by
  cases op with
  | command c =>
    have laid := laid_of_step sane.laid permitted step
    have memory : v.leased = w.leased ∧ v.routes = w.routes := memory_of_command step
    refine ⟨?_, laid, by rw [memory.2]; exact sane.knows, by rw [memory.1]; exact sane.leases⟩
    cases r with
    | error error => cases c <;> trivial
    | ok reply =>
      rcases step with executed | ⟨unconfirmed, -⟩
      · exact assumes_of_executed isolated sane.laid executed
      · cases c with
        | ack | nak => trivial
        | _ => exact unconfirmed.elim
  | insertLease leased =>
    obtain rfl := step
    refine ⟨trivial, sane.laid, sane.knows, ?_⟩
    intro id held found
    rcases of_lookup_insert found with ⟨-, rfl⟩ | ⟨-, old⟩
    · exact permitted.1
    · exact sane.leases id held old
  | removeLease deliveryId =>
    obtain ⟨found, rfl⟩ := step
    constructor
    · rcases r with _ | leased
      · trivial
      · exact sane.leases deliveryId leased found.symm
    · refine ⟨sane.laid, sane.knows, ?_⟩
      intro id held found
      exact sane.leases id held (of_lookup_erase found).2
  | catalog c =>
    obtain ⟨rfl, rfl⟩ := step
    exact ⟨sane.knows.tells permitted, sane.laid, sane.knows.execute permitted, sane.leases⟩
  | leases =>
    obtain ⟨-, rfl⟩ := step
    exact ⟨trivial, sane⟩
  | nowMs | parse =>
    obtain rfl := step
    exact ⟨trivial, sane⟩

end Steps

section Runs

variable {config : NatsQueueConfig} {routes : Set Route} {isLogged : String → Bool}

/-- A call that brings tasks of some routes in, if it brings any. -/
abbrev CallOn (routes : Set Route) : Type :=
  { c : NodeCall // match c with
    | .call _ made => Brings routes made
    | .restart _ => True }

def CallsOn (config : NatsQueueConfig) (routes : Set Route) (p : NodeProg) : Prop :=
  ∃ c : CallOn routes, p = c.1.prog fun _ => config

def permitsOn (config : NatsQueueConfig) (routes : Set Route) (c : CallOn routes) : NodeOp → Prop
  | .op _ op => ∃ node made, c.1 = .call node made ∧ permits config routes made op
  | .restart _ => True

def assumesOn (config : NatsQueueConfig) (routes : Set Route) : (c : NodeOp) → c.Answer → Prop
  | .op _ op, r => assumes config routes op r
  | .restart _, _ => True

theorem prog_keeping (c : CallOn routes) :
    Holdings.Behaves (permitsOn config routes c) (assumesOn config routes) (fun _ => True)
      (c.1.prog fun _ => config) := by
  obtain ⟨c, brings⟩ := c
  cases c with
  | call node made =>
    exact (call_keeping brings).relabel (fun _ _ permitted => ⟨node, made, rfl, permitted⟩)
      (fun _ _ _ => rfl) fun _ _ _ assumed => assumed
  | restart node => exact .call trivial fun _ _ => .ret trivial

/-- Every node is sane. -/
def AllSane (config : NatsQueueConfig) (routes : Set Route) (w : NatsNodes) : Prop :=
  ∀ node, Sane config routes (w.seenBy node)

theorem allSane_fresh : AllSane config routes (.fresh isLogged) :=
  fun _ => ⟨JetStream.Server.laidOut_fresh isLogged, RouteCatalog.knows_new, fun _ _ found => by
    change (∅ : NatsLeases).lookup _ = _ at found
    rw [AList.lookup_empty] at found
    cases found⟩

theorem AllSane.put {w : NatsNodes} {v : NatsWorld} (all : AllSane config routes w) (node : Nat)
    (sane : Sane config routes v) : AllSane config routes (w.put node v) := by
  intro other
  by_cases same : other = node
  · subst same
    simpa [NatsNodes.seenBy, NatsNodes.put] using sane
  · have seen : (w.put node v).seenBy other = { w.seenBy other with server := v.server } := by
      simp [NatsNodes.seenBy, NatsNodes.put, same]
    rw [seen]
    exact ⟨sane.laid, (all other).knows, (all other).leases⟩

theorem allSane_step (isolated : AllIsolated (natsName config) routes) (w : NatsNodes)
    (c : CallOn routes) (op : NodeOp) (r : op.Answer) (u : NatsNodes) (all : AllSane config routes w)
    (permitted : permitsOn config routes c op) (step : nodes w op r u) :
    assumesOn config routes op r ∧ AllSane config routes u := by
  cases op with
  | op node op =>
    obtain ⟨v, step, rfl⟩ := step
    obtain ⟨_, _, -, permitted⟩ := permitted
    obtain ⟨assumed, sane⟩ := sane_step isolated (all node) permitted step
    exact ⟨assumed, all.put node sane⟩
  | restart node =>
    obtain rfl := step
    exact ⟨trivial, all.put node (sane_restart (all node).laid)⟩

/-- What is published in a step goes under a subject of the task's own route. -/
def PublishesOwn (config : NatsQueueConfig) (routes : Set Route) (x : NodeTransition) : Prop :=
  ∀ owner subject payload r call others,
    x.label = .command (.op owner (.command (.awaitConfirm subject payload))) r call others →
      ∀ route ∈ routes, ∀ store, natsName config route store = some subject →
        payload.task.route = route

/-- What a worker leases in a step is a task of a route that it is bound to. -/
def LeasesOwn (config : NatsQueueConfig) (x : NodeTransition) : Prop :=
  ∀ owner leased r call others,
    x.label = .command (.op owner (.insertLease leased)) r call others →
      ∀ node bindings, call.program = (NodeCall.call node (.reserve bindings)).prog (fun _ => config) →
        Allows bindings leased.delivery.task.route

/-- In every interleaving of the calls of all nodes on routes that are apart, no task is published or
kept under a subject of another route than its own, and a worker that reserves leases tasks of the
routes that it is bound to. -/
theorem nats_tasks_keep_to_routes (config : NatsQueueConfig) (isLogged : String → Bool)
    (routes : Set Route) (isolated : AllIsolated (natsName config) routes)
    (moves : List NodeTransition) (b : NodeBusy)
    (run : Run (Interleaved nodes (CallsOn config routes)) ⟨.fresh isLogged, 0⟩ moves b) :
    (∀ m ∈ b.state.server.work, ∀ route ∈ routes, ∀ store,
      natsName config route store = some m.subject → m.payload.task.route = route) ∧
    ∀ x ∈ moves, PublishesOwn config routes x ∧ LeasesOwn config x := by
  obtain ⟨sane, permitted⟩ := Holdings.conduct_of_run prog_keeping (allSane_step isolated)
    allSane_fresh run
  have own : ∀ {subject payload}, (layout config routes).home subject payload →
      ∀ route ∈ routes, ∀ store, natsName config route store = some subject →
        payload.task.route = route := by
    intro subject payload home route used store named
    exact (isolated.eq_of_name (natsName_own config) home.1 used home.2 named).1
  refine ⟨fun m mem => own ((sane 0).laid.work m mem), fun x mem => ⟨?_, ?_⟩⟩
  · intro owner subject payload r call others label
    obtain ⟨⟨c, same⟩, all⟩ := permitted x mem _ _ _ _ label
    obtain ⟨_, _, -, home⟩ := all c same
    exact own home
  · intro owner leased r call others label node bindings same
    obtain ⟨-, all⟩ := permitted x mem _ _ _ _ label
    obtain ⟨_, _, made, -, may⟩ := all ⟨.call node (.reserve bindings), trivial⟩ same
    cases made
    exact may

def twoRoutes : Set Route := {("judge-a", "fast"), ("judge-b", "fast")}

theorem twoRoutes_isolated : AllIsolated (natsName sampleConfig) twoRoutes :=
  allIsolated_pair ((nats_isolated_iff sampleConfig).2
    ⟨by decide +kernel, fun _ => ⟨by decide +kernel, by decide +kernel⟩⟩)

/-- Two nodes enqueue at once, each on a route of its own; then the first one enqueues on the other
route as well, and workers of both nodes reserve from that route at once. -/
def reserveTurns : List (CallOn twoRoutes ⊕ Nat) :=
  .inl ⟨.call 0 (.enqueue (sampleTask "task-1" "judge-a" 3)), .inl rfl⟩ ::
  .inl ⟨.call 1 (.enqueue (sampleTask "task-2" "judge-b" 3)), .inr rfl⟩ :: inTurn 5 [0, 1] ++
  .inl ⟨.call 0 (.enqueue (sampleTask "task-3" "judge-b" 3)), .inr rfl⟩ :: inTurn 6 [0] ++
  .inl ⟨.call 0 (.reserve [⟨"judge-b", "fast"⟩]), trivial⟩ ::
  .inl ⟨.call 1 (.reserve [⟨"judge-b", "fast"⟩]), trivial⟩ :: inTurn 10 [0, 1]

theorem judge_workers_lease_own_tasks : ∃ moves b,
    Run (Interleaved nodes (CallsOn sampleConfig twoRoutes))
      ⟨.fresh (isDeadLetterSubject sampleConfig), 0⟩ moves b ∧
    (b.state.leased 0).keys = ["nats-task-2-2"] ∧ (b.state.leased 1).keys = ["nats-task-3-3"] ∧
    (∀ m ∈ b.state.server.work, ∀ route ∈ twoRoutes, ∀ store,
      natsName sampleConfig route store = some m.subject → m.payload.task.route = route) ∧
    ∀ x ∈ moves, PublishesOwn sampleConfig twoRoutes x ∧ LeasesOwn sampleConfig x := by
  obtain ⟨moves, run⟩ := run_play (CallsOn sampleConfig twoRoutes) respondNodes_allowed
    (.fresh (isDeadLetterSubject sampleConfig)) []
    (schedule (fun c : CallOn twoRoutes => c.1.prog fun _ => sampleConfig) reserveTurns)
    fun _ => named_of_start
  exact ⟨moves, _, run, by decide +kernel, by decide +kernel,
    nats_tasks_keep_to_routes sampleConfig _ twoRoutes twoRoutes_isolated moves _ run⟩

end Runs

end Nats.Routes

end NexusCore.Runtime
