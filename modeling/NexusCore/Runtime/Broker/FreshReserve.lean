import NexusCore.Runtime.Broker.NatsWorld
import NexusCore.Runtime.Broker.RabbitMqCopies
import NexusCore.Runtime.Broker.RedisWaiting

/-!
# The first reservation of an adapter

An adapter that has just connected knows no route. On Redis it reads them from the registry
before it asks for work, and finds what is within reach of a claim; on RabbitMQ and on NATS it asks
nothing, whatever is ready.
-/

namespace NexusCore.Runtime

open NexusCore.Lib

/-- Work that is ready on a route the bindings allow is handed out. -/
def FindsWork (bindings : List RuntimeRouteBinding) (ready : Route → Prop)
    (result : AppResult (Option RuntimeTaskDelivery)) : Prop :=
  (∃ route, Allows bindings route ∧ ready route) → ∃ delivery, result = .ok (some delivery)

/-- A reservation that found nothing is right when there is nothing. -/
theorem findsWork_none {bindings : List RuntimeRouteBinding} {ready : Route → Prop} :
    FindsWork bindings ready (.ok none) ↔ ¬ ∃ route, Allows bindings route ∧ ready route := by
  constructor
  · intro finds work
    obtain ⟨delivery, same⟩ := finds work
    cases same
  · intro none work
    exact absurd work none

/-- A reservation hands over what it was given, and hides a failure. -/
theorem exec_reserve {σ Cmd : Type} {Resp : Cmd → Type} {H : Handler σ Cmd Resp}
    {p : Prog Cmd Resp AppError (Option RuntimeTaskDelivery)} {s t : σ}
    {result : AppResult (Option RuntimeTaskDelivery)}
    (run : Exec H ((p.attempt : Prog Cmd Resp AppError
      (AppResult (Option RuntimeTaskDelivery))).bind fun
        | .ok found => .ret found
        | .error _ => .ret none) s result t) :
    ∃ found, Exec H p s found t ∧ result = .ok (found.toOption.getD none) := by
  rcases exec_bind.1 run with ⟨found, u, inner, rest⟩ | ⟨e, inner, -⟩
  · obtain ⟨_, ⟨⟩, inner⟩ := exec_attempt.1 inner
    cases found with
    | error error =>
      obtain ⟨rfl, rfl⟩ := exec_ret.1 rest
      exact ⟨_, inner, rfl⟩
    | ok delivery =>
      obtain ⟨rfl, rfl⟩ := exec_ret.1 rest
      exact ⟨_, inner, rfl⟩
  · obtain ⟨_, ⟨⟩, -⟩ := exec_attempt.1 inner

namespace RedisStreams

variable {config : RedisStreamsQueueConfig}

/-- A server and the adapters of its nodes. -/
structure RedisNodes where
  keys : Redis.Keyspace RedisPayload
  adapter : Nat → RedisStreamsBrokerAdapter
  promoting : List RuntimeTask

namespace RedisNodes

def fresh : RedisNodes := ⟨fun _ => none, fun _ => .new, []⟩

/-- The world as one of the nodes sees it. -/
def world (nodes : RedisNodes) (node : Nat) : RedisWorld :=
  ⟨nodes.keys, nodes.adapter node, nodes.promoting⟩

/-- What a node leaves to the others. -/
def after (nodes : RedisNodes) (node : Nat) (w : RedisWorld) : RedisNodes :=
  ⟨w.keys, Function.update nodes.adapter node w.adapter, w.promoting⟩

/-- The world of an adapter that has just connected. -/
def connected (nodes : RedisNodes) : RedisWorld := ⟨nodes.keys, .new, nodes.promoting⟩

end RedisNodes

/-- The calls of the nodes follow each other in any order, and any of them may stop on its way
and start again. -/
inductive NodesStep (config : RedisStreamsQueueConfig) :
    RedisNodes → Nat × RedisEvent → RedisNodes → Prop where
  | returned {nodes : RedisNodes} {node : Nat} {call : RedisCall}
      {result : AppResult call.Result} {w : RedisWorld} :
      Exec redis (call.prog config) (nodes.world node) result w →
      NodesStep config nodes (node, .returned call) (nodes.after node w)
  | stopped {nodes : RedisNodes} {node : Nat} {call : RedisCall} {w : RedisWorld} :
      Stops redis (call.prog config) (nodes.world node) w →
      NodesStep config nodes (node, .stopped call) (nodes.after node { w with adapter := .new })

/-- What is stored can be found from the registry by every node, and no group is ahead of its
stream. -/
structure RedisNodes.Sound (config : RedisStreamsQueueConfig) (nodes : RedisNodes) : Prop where
  found : ∀ node, Found config ∅ (nodes.world node)
  behind : nodes.keys.Behind

section Nodes

variable {nodes : RedisNodes} {node : Nat} {w u : RedisWorld}

theorem behind_of_redis {op : RedisOp} {answer : op.Answer} (behind : w.keys.Behind)
    (answered : redis w op answer u) : u.keys.Behind := by
  cases op with
  | command c =>
    cases answer with
    | error error =>
      obtain rfl : u = w := answered
      exact behind
    | ok reply =>
      obtain ⟨moment, keys, executed, rfl⟩ := answered
      exact behind.execute executed
  | adapter =>
    obtain ⟨-, rfl⟩ := answered
    exact behind
  | setAdapter adapter =>
    obtain rfl : u = { w with adapter := adapter } := answered
    exact behind
  | _ =>
    obtain rfl : u = w := answered
    exact behind

theorem call_behind (call : RedisCall) (behind : w.keys.Behind) :
    Safe redis (·.keys.Behind) (fun _ u => u.keys.Behind) (call.prog config) w :=
  Safe.invariant (fun _ _ _ _ behind answered => behind_of_redis behind answered) _ behind

/-- A node that leaves every registered route in the registry disturbs no other node. -/
theorem RedisNodes.Sound.after (sound : nodes.Sound config)
    (found : Found config {route | Listed config nodes.keys.contents route} w)
    (behind : w.keys.Behind) : (nodes.after node w).Sound config where
  found other := by
    have adapter : (nodes.after node w).adapter other =
        if other = node then w.adapter else nodes.adapter other := by
      simp [RedisNodes.after, Function.update_apply]
    refine ⟨found.findable, ?_, ?_, fun _ mem => nomatch mem⟩
    · intro route topology get
      simp only [RedisNodes.world, adapter] at get
      split_ifs at get with same
      · exact found.catalog route topology get
      · exact (sound.found other).catalog route topology get
    · intro deliveryId leased held
      simp only [RedisNodes.world, adapter] at held
      split_ifs at held with same
      · exact found.leases deliveryId leased held
      · obtain ⟨listed, topology⟩ := (sound.found other).leases deliveryId leased held
        exact ⟨found.known _ listed, topology⟩
  behind := behind

theorem sound_of_run {events : List (Transition RedisNodes (Nat × RedisEvent))}
    (run : Run (NodesStep config) .fresh events nodes) : nodes.Sound config := by
  refine run.invariant ?_ ?_
  · intro before event after sound step
    have start : ∀ node, Found config {route | Listed config before.keys.contents route}
        (before.world node) := fun node =>
      { sound.found node with known := fun _ listed => listed }
    cases step with
    | @returned node call _ _ exec =>
      exact sound.after ((call_found call (start node)).exec exec).1
        ((call_behind call sound.behind).exec exec)
    | @stopped node call v stop =>
      have behind : v.keys.Behind :=
        (call_behind call sound.behind).stops stop
      exact sound.after ((call_found call (start node)).stops stop).restart behind
  · refine ⟨fun node => ?_, fun key group => ?_⟩
    · exact
        { findable :=
            { entries := fun _ _ mem => nomatch mem
              scheduled := fun _ _ mem => nomatch mem
              registry := fun _ _ mem => nomatch mem }
          catalog := fun _ _ get => nomatch get
          leases := fun _ _ held => nomatch held
          known := fun _ mem => nomatch mem }
    · exact le_refl (toLex (0, 0))

/-- An adapter that has just connected finds what is within reach, unless something obstructs its
reservation; then it finds nothing. -/
theorem finds_of_reach {events : List (Transition RedisNodes (Nat × RedisEvent))}
    (run : Run (NodesStep config) .fresh events nodes) {now : UInt64}
    {idle : String → Redis.EntryId → Bool} {bindings : List RuntimeRouteBinding}
    {result : AppResult (Option RuntimeTaskDelivery)} {obstructed : Bool}
    (call : Exec ((redisSince now idle).noting fun _ op answer _ => obstructs op answer)
      (reserve config bindings) (nodes.connected, false) result (u, obstructed)) :
    (obstructed = false →
      (∃ route, Allows bindings route ∧ Reach config now idle nodes.keys route) →
        ∃ delivery, result = .ok (some delivery)) ∧
      (obstructed = true → result = .ok none) := by
  obtain ⟨found, inner, rfl⟩ := exec_reserve call
  constructor
  · rintro rfl ⟨route, allowed, reach⟩
    have sound := sound_of_run run
    have start : Found config ∅ nodes.connected := (sound.found 0).restart
    obtain ⟨delivery, rfl, present⟩ :=
      (reserveFromBroker_succeeds start sound.behind allowed reach).exec inner.of_unnoted
    obtain ⟨delivery, rfl⟩ := Option.ne_none_iff_exists'.1 present
    exact ⟨delivery, rfl⟩
  · rintro rfl
    obtain ⟨error, rfl⟩ := reserveFromBroker_obstructable.exec inner
    rfl

/-- What is found at one moment was within reach. -/
theorem reach_of_finds {events : List (Transition RedisNodes (Nat × RedisEvent))}
    (run : Run (NodesStep config) .fresh events nodes) {now : UInt64}
    {idle : String → Redis.EntryId → Bool} {bindings : List RuntimeRouteBinding}
    (whole : ∀ route, Allows bindings route → nodes.keys.Whole (topologyOf config route).streamKey
      (topologyOf config route).consumerGroup)
    {delivery : RuntimeTaskDelivery}
    (call : Exec (redisAt now idle) (reserve config bindings) nodes.connected
      (.ok (some delivery)) u) :
    ∃ route, Allows bindings route ∧ Reach config now idle nodes.keys route := by
  obtain ⟨found, inner, same⟩ := exec_reserve call
  by_contra nothing
  have findable : Findable config nodes.connected.keys.contents :=
    ((sound_of_run run).found 0).findable
  have yields : Yields now idle (fun found _ => found = none) (reserveFromBroker config bindings)
      nodes.connected := reserveFromBroker_yields findable rfl
    (fun route allowed reach => nothing ⟨route, allowed, reach⟩) whole
  cases found with
  | error error => cases same
  | ok found =>
    obtain rfl : found = none := yields.exec_ok inner
    cases same

/-- An adapter that has just connected finds the work that is ready if some is within reach and
nothing obstructs its reservation. -/
theorem findsWork_iff {events : List (Transition RedisNodes (Nat × RedisEvent))}
    (run : Run (NodesStep config) .fresh events nodes) {now : UInt64}
    {idle : String → Redis.EntryId → Bool} {bindings : List RuntimeRouteBinding}
    (whole : ∀ route, Allows bindings route → nodes.keys.Whole (topologyOf config route).streamKey
      (topologyOf config route).consumerGroup)
    {result : AppResult (Option RuntimeTaskDelivery)} {obstructed : Bool}
    (call : Exec ((redisAt now idle).noting fun _ op answer _ => obstructs op answer)
      (reserve config bindings) (nodes.connected, false) result (u, obstructed)) :
    FindsWork bindings (Ready config now idle nodes.keys) result ↔
      (obstructed = false ∧
        ∃ route, Allows bindings route ∧ Reach config now idle nodes.keys route) ∨
      ¬ ∃ route, Allows bindings route ∧ Ready config now idle nodes.keys route := by
  obtain ⟨finds, obstruction⟩ := finds_of_reach run
    (call.mono fun _ _ _ _ answered => ⟨redisSince_of_redisAt answered.1, answered.2⟩)
  constructor
  · intro works
    by_contra not
    obtain ⟨unreached, work⟩ := not_or.1 not
    obtain ⟨delivery, rfl⟩ := works (not_not.1 work)
    have clear : obstructed = false := by
      cases obstructed with
      | false => rfl
      | true => cases obstruction rfl
    exact unreached ⟨clear, reach_of_finds run whole call.of_noting⟩
  · rintro (⟨clear, reach⟩ | nothing) work
    · exact finds clear reach
    · exact absurd work nothing

end Nodes

end RedisStreams

namespace RabbitMq

/-- A task of a route is ready in the broker. -/
def Ready (config : RabbitMqQueueConfig) (server : Amqp.Server RabbitMqPayload) (route : Route) :
    Prop :=
  ∃ message ∈ server.ready, message.queue = (buildRouteTopology config route.1 route.2).queueName ∧
    ∃ task, message.payload.task? = some task ∧ task.route = route

/-- No operation of `active_transport` changes the catalog. -/
theorem activeTransport_routes {w : RabbitMqWorld} (unknown : w.routes = .new) :
    Keeps rabbitmq (fun _ => True) (fun _ u => u.routes = .new) activeTransport w := by
  have safe : Safe rabbitmq (·.routes = .new) (fun _ u => u.routes = .new) activeTransport w := by
    refine Safe.of_issues (activeTransport_issues (P := Harmless) fun _ harmless _ => harmless) ?_
      unknown
    intro s op answer u harmless kept answered
    cases op with
    | command c =>
      rw [(attempted_of_step answered).memory]
      exact kept
    | insertLease | catalog => exact harmless.elim
    | lock | transport | findLease | removeLease | countLeases =>
      obtain ⟨-, rfl⟩ := answered
      exact kept
    | exhausted => exact nomatch answer
    | unlock mutex =>
      obtain rfl : u = { s with locked := s.locked.erase mutex } := answered
      exact kept
    | setTransport channel =>
      obtain rfl : u = { s with transport := channel } := answered
      exact kept
    | clearLeases =>
      obtain rfl : u = { s with leased := .empty } := answered
      exact kept
    | isConnected | nowMs | parse =>
      obtain rfl : u = s := answered
      exact kept
  exact safe.mono (fun _ _ => trivial) fun _ _ kept => ⟨trivial, fun _ _ => kept⟩

/-- An adapter that has just connected finds nothing, whatever it is answered. -/
theorem reserve_restart {w u : RabbitMqWorld} {bindings : List RuntimeRouteBinding}
    {result : AppResult (Option RuntimeTaskDelivery)}
    (run : Exec rabbitmq (reserve bindings) w.restart result u) : result = .ok none := by
  obtain ⟨found, inner, rfl⟩ := exec_reserve run
  have nothing : Keeps rabbitmq (fun _ => True) (fun found _ => found = none)
      (reserveFromBroker bindings) w.restart := by
    simp only [reserveFromBroker, Prog.bind_def]
    refine (activeTransport_routes rfl).bind ?_
    intro channel v _ unknown
    refine Keeps.call trivial ?_
    rintro routes x ⟨rfl, -⟩
    simp only [CatalogCmd.execute, unknown]
    exact Keeps.ret trivial rfl
  cases found with
  | error error => rfl
  | ok delivery => exact congrArg Except.ok ((nothing.exec inner).2 delivery rfl)

end RabbitMq

namespace Nats

/-- A task of a route is ready in the work queue. -/
def Ready (config : NatsQueueConfig) (server : JetStream.Server NatsPayload) (route : Route) :
    Prop :=
  ∃ message ∈ server.work, message.standing = .ready ∧
    message.subject = (buildNatsRouteTopology config route.1 route.2).subject ∧
    ∃ envelope, message.payload.asEnvelope = some envelope ∧ envelope.task.route = route

/-- An adapter that has just connected does not ask the server. -/
theorem reserve_restart {config : NatsQueueConfig} {w u : NatsWorld}
    {bindings : List RuntimeRouteBinding} {result : AppResult (Option RuntimeTaskDelivery)}
    (run : Exec nats (reserve config bindings) w.restart result u) : result = .ok none := by
  obtain ⟨found, inner, rfl⟩ := exec_reserve run
  obtain ⟨routes, v, ⟨same, -⟩, rest⟩ := exec_call.1 inner
  obtain rfl : routes = [] := same
  obtain ⟨rfl, -⟩ := exec_ret.1 rest
  rfl

end Nats

/-- When an adapter that has just connected finds the work that is ready: on Redis, if something
is within reach and nothing obstructs the call; on RabbitMQ and on NATS only when there is none. -/
theorem fresh_reserve_iff (bindings : List RuntimeRouteBinding) :
    (∀ config events nodes now idle result u obstructed,
      Run (RedisStreams.NodesStep config) .fresh events nodes →
      Exec ((RedisStreams.redisSince now idle).noting fun _ op answer _ =>
        RedisStreams.obstructs op answer) (RedisStreams.reserve config bindings)
        (nodes.connected, false) result (u, obstructed) →
      (obstructed = false →
        (∃ route, Allows bindings route ∧ RedisStreams.Reach config now idle nodes.keys route) →
          FindsWork bindings (RedisStreams.Ready config now idle nodes.keys) result) ∧
      (obstructed = true → (FindsWork bindings (RedisStreams.Ready config now idle nodes.keys) result ↔
        ¬ ∃ route, Allows bindings route ∧ RedisStreams.Ready config now idle nodes.keys route))) ∧
    (∀ config events nodes now idle result u obstructed,
      Run (RedisStreams.NodesStep config) .fresh events nodes →
      (∀ route, Allows bindings route →
        nodes.keys.Whole (RedisStreams.topologyOf config route).streamKey
          (RedisStreams.topologyOf config route).consumerGroup) →
      Exec ((RedisStreams.redisAt now idle).noting fun _ op answer _ =>
        RedisStreams.obstructs op answer) (RedisStreams.reserve config bindings)
        (nodes.connected, false) result (u, obstructed) →
      (FindsWork bindings (RedisStreams.Ready config now idle nodes.keys) result ↔
        (obstructed = false ∧
          ∃ route, Allows bindings route ∧ RedisStreams.Reach config now idle nodes.keys route) ∨
        ¬ ∃ route, Allows bindings route ∧
          RedisStreams.Ready config now idle nodes.keys route)) ∧
    (∀ config (w : RabbitMq.RabbitMqWorld) result u,
      Exec RabbitMq.rabbitmq (RabbitMq.reserve bindings) w.restart result u →
      (FindsWork bindings (RabbitMq.Ready config w.server) result ↔
        ¬ ∃ route, Allows bindings route ∧ RabbitMq.Ready config w.server route)) ∧
    ∀ config (w : Nats.NatsWorld) result u,
      Exec Nats.nats (Nats.reserve config bindings) w.restart result u →
      (FindsWork bindings (Nats.Ready config w.server) result ↔
        ¬ ∃ route, Allows bindings route ∧ Nats.Ready config w.server route) := by
  refine ⟨fun config events nodes now idle result u obstructed run call => ?_,
    fun config events nodes now idle result u obstructed run whole call => ?_,
    fun config w result u call => ?_, fun config w result u call => ?_⟩
  · obtain ⟨finds, obstruction⟩ := RedisStreams.finds_of_reach run call
    refine ⟨fun clear reach _ => finds clear reach, fun obstructed => ?_⟩
    rw [obstruction obstructed, findsWork_none]
  · exact RedisStreams.findsWork_iff run whole call
  · rw [RabbitMq.reserve_restart call, findsWork_none]
  · rw [Nats.reserve_restart call, findsWork_none]

/-! ## Tasks that another node has enqueued and leased -/

namespace RedisStreams

/-- A server that answers at one moment, and a note of what obstructs the calls. -/
def respondNoted (now : UInt64) (stale : Redis.EntryId → Bool) (s : RedisWorld × Bool) :
    (op : RedisOp) → op.Answer × (RedisWorld × Bool)
  | .command c =>
    match s.1.keys.execute ⟨now.toNat, stale, true⟩ c with
    | .ok (reply, keys) =>
      (.ok reply, { s.1 with keys := keys, promoting := promotingAfter c reply s.1.promoting }, s.2)
    | .error failure =>
      (.error ⟨failure.code, ""⟩, s.1, s.2 || obstructs (.command c) (.error ⟨failure.code, ""⟩))
  | op => ((respond now s.1 op).1, (respond now s.1 op).2, s.2 || obstructs op (respond now s.1 op).1)

theorem respondNoted_allowed (now : UInt64) (stale : Redis.EntryId → Bool) (s : RedisWorld × Bool)
    (op : RedisOp) : ((redisAt now fun _ => stale).noting fun _ op answer _ => obstructs op answer) s
      op (respondNoted now stale s op).1 (respondNoted now stale s op).2 := by
  have answered := respond_allowed now s.1 op
  cases op with
  | command c =>
    simp only [respondNoted]
    split
    · next reply keys executed =>
      refine ⟨⟨_, keys, ?_, executed, rfl⟩, ?_⟩
      · cases c <;> trivial
      · cases c <;> simp [obstructs]
    · exact ⟨rfl, rfl⟩
  | nowMs => exact ⟨⟨rfl, rfl⟩, rfl⟩
  | _ => exact ⟨answered, rfl⟩

/-- The nodes after a call of one of them. -/
def called (nodes : RedisNodes) (node : Nat) (call : RedisCall) : RedisNodes :=
  nodes.after node ((call.prog sampleConfig).eval (respond 1000) (nodes.world node)).2

theorem step_called (nodes : RedisNodes) (node : Nat) (call : RedisCall) :
    NodesStep sampleConfig nodes (node, .returned call) (called nodes node call) :=
  .returned (Exec.of_eval (v := id) (respond_allowed 1000) (call.prog sampleConfig) (nodes.world node))

/-- One node enqueues a number of tasks, and another one leases them. -/
def leasedNodes : Nat → RedisNodes
  | 0 => .fresh
  | count + 1 =>
    called (called (leasedNodes count) 0 (.enqueue (sampleTask ("task-" ++ toString count) "oj" 3))) 1
      (.reserve [])

theorem run_leasedNodes (count : Nat) :
    ∃ events, Run (NodesStep sampleConfig) .fresh events (leasedNodes count) := by
  induction count with
  | zero => exact ⟨[], .done _⟩
  | succ count ih =>
    obtain ⟨events, run⟩ := ih
    exact ⟨_, run.append (.step (step_called _ 0 _) (.step (step_called _ 1 _) (.done _)))⟩

/-- The first reservation of another node, when some of the leases have gone stale. -/
def firstReserve (count : Nat) (stale : Redis.EntryId → Bool) :
    AppResult (Option RuntimeTaskDelivery) × RedisWorld × Bool :=
  (reserve sampleConfig [⟨"oj", "fast"⟩]).eval (respondNoted 1000 stale) ((leasedNodes count).connected, false)

theorem exec_firstReserve (count : Nat) (stale : Redis.EntryId → Bool) :
    Exec ((redisAt 1000 fun _ => stale).noting fun _ op answer _ => obstructs op answer)
      (reserve sampleConfig [⟨"oj", "fast"⟩]) ((leasedNodes count).connected, false)
      (firstReserve count stale).1 ((firstReserve count stale).2.1, (firstReserve count stale).2.2) :=
  Exec.of_eval (v := id) (respondNoted_allowed 1000 stale) _ _

/-- The entry that was added at a place. -/
def staleAt (place : Nat) (id : Redis.EntryId) : Bool := decide (id = toLex (1000, place))

theorem leasedNodes_whole (route : Route) (allowed : Allows [⟨"oj", "fast"⟩] route) :
    (leasedNodes 11).keys.Whole (topologyOf sampleConfig route).streamKey
      (topologyOf sampleConfig route).consumerGroup := by
  obtain rfl : ("oj", "fast") = route := by simpa [Allows] using allowed
  unfold Redis.Keyspace.Whole
  decide +kernel

/-- The last two of eleven tasks stand in the stream of their route. -/
theorem leasedNodes_stored {place : Nat} (last : place = 9 ∨ place = 10) :
    ∃ entry ∈ (leasedNodes 11).keys.contents.entries (topologyOf sampleConfig ("oj", "fast")).streamKey,
      entry.1 = toLex (1000, place) ∧ IsOf ("oj", "fast") entry.2 := by
  have found : ((leasedNodes 11).keys.contents.entries
      (topologyOf sampleConfig ("oj", "fast")).streamKey).any (fun entry =>
        decide (entry.1 = toLex (1000, place) ∧
          entry.2.task? = some (sampleTask ("task-" ++ toString place) "oj" 3))) = true := by
    rcases last with rfl | rfl <;> decide +kernel
  obtain ⟨entry, stored, holds⟩ := List.any_eq_true.1 found
  obtain ⟨id, task⟩ := of_decide_eq_true holds
  exact ⟨entry, stored, id, _, task, rfl⟩

/-- The tenth of eleven leases is found once it has gone stale, and the eleventh is not. -/
theorem fresh_reserve_iff_of_sample :
    FindsWork [⟨"oj", "fast"⟩] (Ready sampleConfig 1000 (fun _ => staleAt 9) (leasedNodes 11).keys)
      (firstReserve 11 (staleAt 9)).1 ∧
    ¬ FindsWork [⟨"oj", "fast"⟩] (Ready sampleConfig 1000 (fun _ => staleAt 10) (leasedNodes 11).keys)
      (firstReserve 11 (staleAt 10)).1 := by
  obtain ⟨events, run⟩ := run_leasedNodes 11
  have allowed : Allows [⟨"oj", "fast"⟩] ("oj", "fast") := by simp [Allows]
  constructor
  · refine ((fresh_reserve_iff _).2.1 _ _ _ _ _ _ _ _ run leasedNodes_whole
      (exec_firstReserve 11 (staleAt 9))).2 (.inl ?_)
    have unobstructed : (firstReserve 11 (staleAt 9)).2.2 = false := by decide +kernel
    have listed : Listed sampleConfig (leasedNodes 11).keys.contents ("oj", "fast") := by
      unfold Listed
      decide +kernel
    obtain ⟨entry, stored, id, task⟩ := leasedNodes_stored (.inl rfl)
    have among : toLex (1000, 9) ∈ ((leasedNodes 11).keys.groupOf
        (topologyOf sampleConfig ("oj", "fast")).streamKey
        (topologyOf sampleConfig ("oj", "fast")).consumerGroup).pending.take Redis.claimScan := by
      decide +kernel
    have reached := (leasedNodes_whole _ allowed).reaches (id ▸ among)
    exact ⟨unobstructed, _, allowed, listed, .stream (.stale stored reached (decide_eq_true id))⟩
  · intro finds
    obtain ⟨entry, stored, id, task⟩ := leasedNodes_stored (.inr rfl)
    have pending : toLex (1000, 10) ∈ ((leasedNodes 11).keys.groupOf
        (topologyOf sampleConfig ("oj", "fast")).streamKey
        (topologyOf sampleConfig ("oj", "fast")).consumerGroup).pending := by decide +kernel
    obtain ⟨delivery, found⟩ := finds
      ⟨_, allowed, .stale stored (id ▸ pending) (decide_eq_true id) task⟩
    have nothing : (firstReserve 11 (staleAt 10)).1.toOption.join.isNone = true := by
      decide +kernel
    rw [found] at nothing
    cases nothing

end RedisStreams

namespace RabbitMq

/-- A task waits in its queue; the adapter that has enqueued it is given it, and one that has just
connected is told that there is nothing. -/
theorem fresh_reserve_misses :
    (∃ route, Allows [] route ∧ Ready sampleConfig sampleEnqueued.server route) ∧
    (∃ delivery, Exec rabbitmq (reserve []) sampleEnqueued (.ok (some delivery)) sampleReserved) ∧
    Exec rabbitmq (reserve []) sampleEnqueued.restart (.ok none)
      (after (reserve []) sampleEnqueued.restart) ∧
    ¬ FindsWork [] (Ready sampleConfig sampleEnqueued.server) (.ok none) := by
  have work : ∃ route, Allows [] route ∧ Ready sampleConfig sampleEnqueued.server route := by
    refine ⟨("oj", "fast"), .inl rfl, ?_⟩
    have ready : sampleEnqueued.server.ready.any (fun message =>
        decide (message.queue = (buildRouteTopology sampleConfig "oj" "fast").queueName ∧
          message.payload.task? = some (sampleTask "task-1" "oj" 3))) = true := by
      decide +kernel
    obtain ⟨message, stored, holds⟩ := List.any_eq_true.1 ready
    obtain ⟨queue, task⟩ := of_decide_eq_true holds
    exact ⟨message, stored, queue, _, task, rfl⟩
  refine ⟨work, ⟨sampleDelivery, exec_after (by decide +kernel)⟩, exec_after (by decide +kernel), ?_⟩
  intro finds
  exact findsWork_none.1 finds work

end RabbitMq

end NexusCore.Runtime
