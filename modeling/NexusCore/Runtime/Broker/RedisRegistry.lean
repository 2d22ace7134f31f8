import Mathlib.Data.Set.Insert
import NexusCore.Runtime.Broker.RedisRuns

/-!
# The route registry in Redis

An adapter that starts again finds the routes in a set on the server. Every task that is stored
in a stream or a sorted set, and every task that is leased, has its route in that set, whatever
failed before and wherever a process stopped: a route is registered before its first task is
published, and nothing removes it.
-/

namespace NexusCore.Runtime

open NexusCore.Lib

namespace RedisStreams

variable {config : RedisStreamsQueueConfig} {routes : Set Route}

/-- The operations that change neither what is stored nor the memory of the adapter. -/
def Harmless : RedisOp → Prop
  | .command (.xadd ..) | .command (.xdel ..) | .command (.zadd ..) | .command (.zrem ..)
  | .command (.sadd ..) | .setAdapter _ => False
  | _ => True

section Issues

variable {P : RedisOp → Prop} {topology : RedisRouteTopology} {entryId : Redis.EntryId}
  {leased : RedisLeasedDelivery} {error : String}

theorem query_issues {c : Redis.Cmd RedisPayload} {message : String}
    (issued : P (.command c)) : (query c message).Issues P := by
  refine .call issued ?_
  rintro (error | reply)
  · exact .fail
  · exact .ret

variable (harmless : ∀ op, Harmless op → P op)

include harmless

theorem connection_issues : connection.Issues P := by
  refine .call (harmless _ trivial) ?_
  rintro (error | reply)
  · exact .fail
  · exact .ret

theorem nowMs_issues : nowMs.Issues P := .call (harmless _ trivial) fun _ => .ret

theorem ensureTopology_issues : (ensureTopology topology).Issues P := by
  refine (connection_issues harmless).bind fun _ => .call (harmless _ trivial) ?_
  rintro (error | reply)
  · dsimp only
    split_ifs
    · exact .ret
    · exact .fail
  · exact .ret

theorem publishEnvelope_issues {envelope : RedisEnvelope}
    (adds : P (.command (.xadd topology.streamKey (.envelope envelope)))) :
    (publishEnvelope topology envelope).Issues P :=
  (ensureTopology_issues harmless).bind fun _ => (connection_issues harmless).bind fun _ =>
    (query_issues adds).bind fun _ => .ret

theorem ackEntry_issues (deletes : P (.command (.xdel topology.streamKey entryId))) :
    (ackEntry topology entryId).Issues P :=
  (connection_issues harmless).bind fun _ => (query_issues (harmless _ (by trivial))).bind fun _ =>
    (query_issues deletes).bind fun _ => .ret

theorem deadLetter_issues (adds : ∀ now, P (.command (.xadd leased.topology.deadLetterStreamKey
      (.record (buildDeadLetterRecord leased.delivery error now)))))
    (deletes : P (.command (.xdel leased.topology.streamKey leased.entryId))) :
    (deadLetter leased error).Issues P := by
  refine (nowMs_issues harmless).bind fun now => ?_
  refine Prog.Issues.bind ?_ fun _ => ackEntry_issues harmless deletes
  exact (connection_issues harmless).bind fun _ => (query_issues (adds now)).bind fun _ => .ret

theorem requeue_issues {delayMs : UInt64}
    (adds : P (.command (.xadd leased.topology.streamKey
      (.envelope (nextAttempt leased.delivery error)))))
    (schedules : ∀ token score, P (.command (.zadd leased.topology.delayedKey
      (.delayed ⟨token, nextAttempt leased.delivery error⟩) score)))
    (deletes : P (.command (.xdel leased.topology.streamKey leased.entryId))) :
    (requeue leased error delayMs).Issues P := by
  have acks := ackEntry_issues harmless deletes
  simp only [requeue, Prog.bind_def]
  split_ifs
  · exact (publishEnvelope_issues harmless adds).bind fun _ => acks
  · refine Prog.Issues.bind ?_ fun _ => acks
    refine (connection_issues harmless).bind fun _ => ?_
    refine .call (harmless _ trivial) fun token => ?_
    refine (nowMs_issues harmless).bind fun now => ?_
    exact (query_issues (schedules token _)).bind fun _ => .ret

end Issues

/-- The registry lists a route. -/
def Listed (config : RedisStreamsQueueConfig) (c : Redis.Contents RedisPayload) (route : Route) :
    Prop :=
  .route ⟨route.1, route.2⟩ ∈ c.listed (redisRouteRegistryKey config)

/-- What may stand in a stream when only tasks of some routes are stored. -/
def Streamed (known : Route → Prop) : RedisPayload → Prop
  | .envelope e => known e.task.route
  | .record r => known r.task.route
  | .delayed _ | .route _ => False

/-- What may stand in a sorted set when only tasks of some routes are stored. -/
def Scheduled (known : Route → Prop) : RedisPayload → Prop
  | .delayed d => known d.envelope.task.route
  | .envelope _ | .record _ | .route _ => False

section Payloads

variable {known known' : Route → Prop} {payload : RedisPayload}

theorem Streamed.mono (streamed : Streamed known payload)
    (more : ∀ route, known route → known' route) : Streamed known' payload := by
  cases payload with
  | envelope e => exact more _ streamed
  | record r => exact more _ streamed
  | delayed d => exact streamed
  | route entry => exact streamed

theorem Scheduled.mono (scheduled : Scheduled known payload)
    (more : ∀ route, known route → known' route) : Scheduled known' payload := by
  cases payload with
  | delayed d => exact more _ scheduled
  | envelope e => exact scheduled
  | record r => exact scheduled
  | route entry => exact scheduled

/-- What stands in a stream can be handed out. -/
theorem Streamed.asEnvelope (streamed : Streamed known payload) :
    ∃ envelope, payload.asEnvelope = some envelope ∧ known envelope.task.route := by
  cases payload with
  | envelope e => exact ⟨e, rfl, streamed⟩
  | record r => exact ⟨_, rfl, streamed⟩
  | delayed d => exact streamed.elim
  | route entry => exact streamed.elim

theorem Scheduled.asDelayed (scheduled : Scheduled known payload) :
    ∃ delayed, payload.asDelayed = some delayed ∧ known delayed.envelope.task.route := by
  cases payload with
  | delayed d => exact ⟨d, rfl, scheduled⟩
  | envelope e => exact scheduled.elim
  | record r => exact scheduled.elim
  | route entry => exact scheduled.elim

end Payloads

/-- The contents of a keyspace in which the route of every stored task is listed. -/
structure Findable (config : RedisStreamsQueueConfig) (c : Redis.Contents RedisPayload) : Prop where
  entries : ∀ key, ∀ entry ∈ c.entries key, Streamed (Listed config c) entry.2
  scheduled : ∀ key, ∀ member ∈ c.scheduled key, Scheduled (Listed config c) member
  registry : ∀ key, ∀ member ∈ c.listed key, ∃ entry, member = .route entry

section Contents

variable {c : Redis.Contents RedisPayload} {key : String} {payload : RedisPayload}
  {id : Redis.EntryId}

theorem Findable.append (findable : Findable config c)
    (listed : Streamed (Listed config c) payload) :
    Findable config (c.append key id payload) where
  entries other entry mem := by
    rcases mem_entries_append.1 mem with old | ⟨-, rfl⟩
    · exact findable.entries other entry old
    · exact listed
  scheduled := findable.scheduled
  registry := findable.registry

theorem Findable.delete (findable : Findable config c) : Findable config (c.delete key id) where
  entries other entry mem := findable.entries other entry (mem_entries_delete.1 mem).1
  scheduled := findable.scheduled
  registry := findable.registry

theorem Findable.schedule (findable : Findable config c)
    (listed : Scheduled (Listed config c) payload) : Findable config (c.schedule key payload) where
  entries := findable.entries
  scheduled other member mem := by
    rcases mem_scheduled_schedule.1 mem with old | ⟨-, rfl⟩
    · exact findable.scheduled other member old
    · exact listed
  registry := findable.registry

theorem Findable.unschedule (findable : Findable config c) :
    Findable config (c.unschedule key payload) where
  entries := findable.entries
  scheduled other member mem :=
    findable.scheduled other member (mem_scheduled_unschedule.1 mem).1
  registry := findable.registry

theorem listed_enlist {route : Route} (listed : Listed config c route) :
    Listed config (c.enlist key payload) route :=
  mem_listed_enlist.2 (.inl listed)

theorem Findable.enlist (findable : Findable config c) {entry : RedisRouteRegistryEntry} :
    Findable config (c.enlist key (.route entry)) where
  entries other stored mem :=
    (findable.entries other stored mem).mono fun _ listed => listed_enlist listed
  scheduled other member mem :=
    (findable.scheduled other member mem).mono fun _ listed => listed_enlist listed
  registry other member mem := by
    rcases mem_listed_enlist.1 mem with old | ⟨-, rfl⟩
    · exact findable.registry other member old
    · exact ⟨entry, rfl⟩

end Contents

/-- What is stored and leased can be found from the registry, which lists some routes. -/
structure Found (config : RedisStreamsQueueConfig) (routes : Set Route) (w : RedisWorld) : Prop where
  findable : Findable config w.keys.contents
  catalog : ∀ route topology, w.adapter.routes.get route = some topology →
    topology = topologyOf config route
  leases : ∀ deliveryId leased, w.adapter.leased.lookup deliveryId = some leased →
    Listed config w.keys.contents leased.delivery.task.route ∧
      ∃ route, leased.topology = topologyOf config route
  known : ∀ route ∈ routes, Listed config w.keys.contents route

/-- The commands that store only tasks of some routes. -/
def Stores (routes : Set Route) : Redis.Cmd RedisPayload → Prop
  | .xadd _ payload => Streamed (· ∈ routes) payload
  | .zadd _ member _ => Scheduled (· ∈ routes) member
  | .sadd _ member => ∃ entry, member = .route entry
  | _ => True

section Programs

variable {w : RedisWorld} {route : Route} {α : Type}

theorem Found.learn (found : Found config routes w) (listed : Listed config w.keys.contents route) :
    Found config (insert route routes) w where
  findable := found.findable
  catalog := found.catalog
  leases := found.leases
  known other mem := by
    rcases Set.mem_insert_iff.1 mem with rfl | old
    · exact listed
    · exact found.known other old

theorem Found.forget (found : Found config (insert route routes) w) : Found config routes w where
  findable := found.findable
  catalog := found.catalog
  leases := found.leases
  known other mem := found.known other (Set.mem_insert_of_mem route mem)

/-- A command changes the contents so that everything can still be found. -/
theorem Found.execute {c : Redis.Cmd RedisPayload} (found : Found config routes w)
    (stores : Stores routes c) {moment : Redis.Moment} {reply : c.Reply}
    {keys : Redis.Keyspace RedisPayload} (executed : w.keys.execute moment c = .ok (reply, keys)) :
    Found config routes
      { w with keys := keys, promoting := promotingAfter c reply w.promoting } := by
  have next : ∀ contents, keys.contents = contents → Findable config contents →
      (∀ route, Listed config w.keys.contents route → Listed config contents route) →
      Found config routes
        { w with keys := keys, promoting := promotingAfter c reply w.promoting } := by
    rintro _ rfl findable more
    refine ⟨findable, found.catalog, ?_, fun route mem => more route (found.known route mem)⟩
    intro deliveryId leased held
    obtain ⟨listed, topology⟩ := found.leases deliveryId leased held
    exact ⟨more _ listed, topology⟩
  have same : keys.contents = w.keys.contents → Found config routes
      { w with keys := keys, promoting := promotingAfter c reply w.promoting } := fun contents =>
    next _ contents found.findable fun _ listed => listed
  cases c with
  | xgroupCreateMkstream => exact same (Redis.xgroupCreateMkstream_spec executed)
  | xadd key payload =>
    have listed : Streamed (Listed config w.keys.contents) payload :=
      Streamed.mono stores fun route mem => found.known route mem
    exact next _ (Redis.xadd_spec executed).2 (found.findable.append listed) fun _ listed => listed
  | xreadgroup => exact same (Redis.xreadgroup_spec executed).1
  | xautoclaim => exact same (Redis.xautoclaim_spec executed).1
  | xack => exact same (Redis.xack_spec executed)
  | xdel =>
    exact next _ (Redis.xdel_spec executed) found.findable.delete fun _ listed => listed
  | xrange => exact same (by rw [(Redis.xrange_spec executed).1])
  | zadd key member =>
    have listed : Scheduled (Listed config w.keys.contents) member :=
      Scheduled.mono stores fun route mem => found.known route mem
    exact next _ (Redis.zadd_spec executed) (found.findable.schedule listed) fun _ listed => listed
  | zrem =>
    exact next _ (Redis.zrem_spec executed).2 found.findable.unschedule fun _ listed => listed
  | zrangebyscore => exact same (by rw [(Redis.zrangebyscore_spec executed).1])
  | sadd key member =>
    obtain ⟨entry, rfl⟩ := stores
    exact next _ (Redis.sadd_spec executed) found.findable.enlist fun _ listed =>
      listed_enlist listed
  | smembers => exact same (by rw [(Redis.smembers_spec executed).1])

/-- The operations that leave the memory of the adapter alone and store only tasks of some
routes. -/
def Tidy (routes : Set Route) : RedisOp → Prop
  | .command c => Stores routes c
  | .setAdapter _ => False
  | .connect | .nowMs | .newToken | .parse _ | .adapter => True

theorem Found.op {op : RedisOp} (tidy : Tidy routes op) (found : Found config routes w)
    {answer : op.Answer} {u : RedisWorld} (answered : redis w op answer u) :
    Found config routes u := by
  cases op with
  | command c =>
    cases answer with
    | error error =>
      obtain rfl : u = w := answered
      exact found
    | ok reply =>
      obtain ⟨moment, keys, executed, rfl⟩ := answered
      exact found.execute tidy executed
  | setAdapter adapter => exact tidy.elim
  | adapter =>
    obtain ⟨-, rfl⟩ := answered
    exact found
  | _ =>
    obtain rfl : u = w := answered
    exact found

theorem found_of_issues {p : RedisProg α} (tidy : p.Issues (Tidy routes))
    (found : Found config routes w) :
    Keeps redis (Found config routes) (fun _ _ => True) p w :=
  (Safe.of_issues tidy (fun _ _ _ _ tidy found answered => found.op tidy answered) found).mono
    (fun _ kept => kept) fun _ _ kept => ⟨kept, fun _ _ => trivial⟩

end Programs

theorem harmless_tidy (op : RedisOp) (harmless : Harmless op) : Tidy routes op := by
  cases op with
  | command c => cases c <;> first | exact harmless.elim | trivial
  | setAdapter adapter => exact harmless.elim
  | _ => trivial

section Programs

variable {w : RedisWorld} {route : Route} {topology : RedisRouteTopology}

/-- A program may store tasks of a route that turns out to be listed. -/
theorem keeps_learned {α : Type} {p : RedisProg α} {Q : α → RedisWorld → Prop}
    (keeps : Keeps redis (Found config (insert route routes)) Q p w) :
    Keeps redis (Found config routes) Q p w :=
  Safe.mono keeps (fun _ found => found.forget) fun _ _ ⟨found, post⟩ => ⟨found.forget, post⟩

theorem publishEnvelope_found {envelope : RedisEnvelope} (found : Found config routes w)
    (listed : Listed config w.keys.contents envelope.task.route) :
    Keeps redis (Found config routes) (fun _ _ => True) (publishEnvelope topology envelope) w :=
  keeps_learned (found_of_issues (publishEnvelope_issues harmless_tidy
    (by exact Set.mem_insert _ _)) (found.learn listed))

theorem deadLetter_found {leased : RedisLeasedDelivery} {error : String}
    (found : Found config routes w)
    (listed : Listed config w.keys.contents leased.delivery.task.route) :
    Keeps redis (Found config routes) (fun _ _ => True) (deadLetter leased error) w :=
  keeps_learned (found_of_issues (deadLetter_issues harmless_tidy
    (fun _ => by exact Set.mem_insert _ _) (by trivial)) (found.learn listed))

theorem requeue_found {leased : RedisLeasedDelivery} {error : String} {delayMs : UInt64}
    (found : Found config routes w)
    (listed : Listed config w.keys.contents leased.delivery.task.route) :
    Keeps redis (Found config routes) (fun _ _ => True) (requeue leased error delayMs) w :=
  keeps_learned (found_of_issues (requeue_issues harmless_tidy (by exact Set.mem_insert _ _)
    (fun _ _ => by exact Set.mem_insert _ _) (by trivial)) (found.learn listed))

theorem loadRoutes_found (payloads : List RedisPayload) {w : RedisWorld}
    (found : Found config routes w) :
    Keeps redis (Found config routes) (fun _ _ => True) (loadRoutes config payloads) w := by
  induction payloads generalizing w with
  | nil => exact Keeps.ret found trivial
  | cons payload rest ih =>
    simp only [loadRoutes, Prog.bind_def]
    refine (decode_keeps found).bind ?_
    rintro entry w - ⟨rfl, -⟩
    refine (found_of_issues (ensureTopology_issues harmless_tidy) found).bind ?_
    intro _ u found _
    refine (modifyAdapter_keeps found ?_).bind fun _ _ found _ => ih found
    refine { found with catalog := ?_ }
    intro route topology get
    rcases get_registerRoute get with known | ⟨rfl, rfl⟩
    · exact found.catalog route topology known
    · rfl

theorem ensureRegisteredRoutesLoaded_found (found : Found config routes w) :
    Keeps redis (Found config routes) (fun _ _ => True)
      (ensureRegisteredRoutesLoaded config) w := by
  simp only [ensureRegisteredRoutesLoaded, Prog.bind_def]
  refine (found_of_issues (connection_issues harmless_tidy) found).bind ?_
  intro _ u found _
  refine (found_of_issues (query_issues (by trivial)) found).bind ?_
  intro entries v found _
  exact loadRoutes_found entries found

theorem promote_found (payloads : List RedisPayload) {w : RedisWorld}
    (found : Found config routes w) :
    Keeps redis (Found config routes) (fun _ _ => True) (promote topology payloads) w := by
  induction payloads generalizing w with
  | nil => exact Keeps.ret found trivial
  | cons payload rest ih =>
    simp only [promote, Prog.bind_def]
    refine (query_keeps (c := .zrem topology.delayedKey payload) (Q := fun (removed : Nat) u =>
      removed ≠ 0 → Scheduled (Listed config u.keys.contents) payload) found ?_).bind ?_
    · intro moment removed keys executed
      obtain ⟨held, contents⟩ := Redis.zrem_spec executed
      refine ⟨found.execute (by trivial) executed, fun nonzero => ?_⟩
      rw [contents]
      exact found.findable.scheduled _ payload (held.1 nonzero)
    · intro removed u found scheduled
      split_ifs with none
      · exact ih found
      · refine (decode_keeps found).bind ?_
        rintro delayed u - ⟨rfl, readable⟩
        obtain ⟨_, reads, listed⟩ := (scheduled none).asDelayed
        obtain rfl := Option.some.inj (readable.symm.trans reads)
        exact (publishEnvelope_found found listed).bind fun _ _ found _ => ih found

theorem promoteDueRetries_found (found : Found config routes w) :
    Keeps redis (Found config routes) (fun _ _ => True) (promoteDueRetries topology) w := by
  simp only [promoteDueRetries, Prog.bind_def]
  refine (found_of_issues (connection_issues harmless_tidy) found).bind ?_
  intro _ u found _
  refine (found_of_issues (nowMs_issues harmless_tidy) found).bind ?_
  intro now u found _
  refine (found_of_issues (query_issues (by trivial)) found).bind ?_
  intro payloads u found _
  exact promote_found payloads found

/-- A lease of an entry that stands in a stream. -/
theorem lease_found {message : Redis.EntryId × RedisPayload}
    (streamed : Streamed (Listed config w.keys.contents) message.2)
    (found : Found config routes w) :
    Keeps redis (Found config routes) (fun _ _ => True)
      (lease config (topologyOf config route) message) w := by
  simp only [lease, Prog.bind_def]
  refine (decode_keeps found).bind ?_
  rintro envelope w - ⟨rfl, readable⟩
  obtain ⟨_, reads, listed⟩ := streamed.asEnvelope
  obtain rfl := Option.some.inj (readable.symm.trans reads)
  refine (nowMs_keeps found).bind ?_
  rintro now w - rfl
  refine (modifyAdapter_keeps found ?_).mono fun _ _ _ _ => trivial
  refine { found with leases := ?_ }
  intro deliveryId leased held
  rcases of_lookup_insert held with ⟨-, rfl⟩ | ⟨-, old⟩
  · exact ⟨listed, route, rfl⟩
  · exact found.leases deliveryId leased old

theorem rotateRoute_found (found : Found config routes w) :
    Keeps redis (Found config routes) (fun _ u => u.keys = w.keys) (rotateRoute route) w := by
  refine (modifyAdapter_keeps found ?_).mono ?_
  · refine { found with catalog := ?_ }
    intro other topology get
    apply found.catalog other topology
    simp only [RouteCatalog.rotate] at get
    split at get <;> exact get
  · rintro _ u - ⟨-, rfl⟩
    rfl

theorem reclaimStaleDelivery_found (found : Found config routes w) :
    Keeps redis (Found config routes) (fun _ _ => True)
      (reclaimStaleDelivery config (topologyOf config route)) w := by
  simp only [reclaimStaleDelivery, Prog.bind_def, Prog.pure_def]
  refine (found_of_issues (connection_issues harmless_tidy) found).bind ?_
  intro _ u found _
  refine (query_keeps (c := .xautoclaim (topologyOf config route).streamKey
      (topologyOf config route).consumerGroup)
    (Q := fun (claimed : Option (Redis.EntryId × RedisPayload)) u => ∀ message,
      claimed = some message → Streamed (Listed config u.keys.contents) message.2)
    found ?_).bind ?_
  · intro moment claimed keys executed
    obtain ⟨contents, held⟩ := Redis.xautoclaim_spec executed
    refine ⟨found.execute (by trivial) executed, ?_⟩
    intro message is_claimed
    rw [contents]
    exact found.findable.entries _ message (held message is_claimed)
  · rintro (_ | message) u found streamed
    · exact Keeps.ret found trivial
    · exact (lease_found (streamed message rfl) found).bind fun _ _ found _ =>
        Keeps.ret found trivial

theorem reserveNew_found {other : Route} (found : Found config routes w) :
    Keeps redis (Found config routes) (fun _ _ => True)
      (reserveNew config other (topologyOf config route)) w := by
  simp only [reserveNew, Prog.bind_def, Prog.pure_def]
  refine (found_of_issues (connection_issues harmless_tidy) found).bind ?_
  intro _ u found _
  refine (query_keeps (c := .xreadgroup (topologyOf config route).streamKey
      (topologyOf config route).consumerGroup)
    (Q := fun (first : Option (Redis.EntryId × RedisPayload)) u => ∀ message,
      first = some message → Streamed (Listed config u.keys.contents) message.2)
    found ?_).bind ?_
  · intro moment first keys executed
    obtain ⟨contents, held⟩ := Redis.xreadgroup_spec executed
    refine ⟨found.execute (by trivial) executed, ?_⟩
    intro message is_first
    rw [contents]
    exact found.findable.entries _ message (held message is_first)
  · rintro (_ | message) u found streamed
    · exact Keeps.ret found trivial
    · refine (rotateRoute_found found).bind ?_
      intro _ v found same
      have still := streamed message rfl
      rw [← same] at still
      exact (lease_found still found).bind fun _ _ found _ => Keeps.ret found trivial

theorem reserveRoute_found {other : Route} (found : Found config routes w) :
    Keeps redis (Found config routes) (fun _ _ => True)
      (reserveRoute config other (topologyOf config route)) w := by
  simp only [reserveRoute, Prog.bind_def, Prog.pure_def]
  refine (found_of_issues (ensureTopology_issues harmless_tidy) found).bind ?_
  intro _ u found _
  refine (promoteDueRetries_found found).bind ?_
  intro _ u found _
  refine (reclaimStaleDelivery_found found).bind ?_
  rintro (_ | delivery) u found -
  · exact reserveNew_found found
  · exact (rotateRoute_found found).bind fun _ _ found _ => Keeps.ret found trivial

theorem reserveRoutes_found (order : List Route) {w : RedisWorld} (found : Found config routes w) :
    Keeps redis (Found config routes) (fun _ _ => True) (reserveRoutes config order) w := by
  induction order generalizing w with
  | nil => exact Keeps.ret found trivial
  | cons route rest ih =>
    simp only [reserveRoutes, Prog.bind_def, Prog.pure_def]
    refine (currentAdapter_keeps found).bind ?_
    rintro adapter w - ⟨rfl, rfl⟩
    cases get : w.adapter.routes.get route with
    | none => exact ih found
    | some topology =>
      obtain rfl := found.catalog route topology get
      refine (reserveRoute_found found).bind ?_
      rintro (_ | delivery) u found -
      · exact ih found
      · exact Keeps.ret found trivial

theorem takeLease_found (deliveryId : String) (found : Found config routes w) :
    Keeps redis (Found config routes) (fun taken u => ∀ leased, taken = some leased →
      Listed config u.keys.contents leased.delivery.task.route) (takeLease deliveryId) w := by
  refine (modifyAdapter_keeps found ?_).mono ?_
  · refine { found with leases := ?_ }
    intro other leased held
    exact found.leases other leased (of_lookup_erase held).2
  · rintro _ _ - ⟨rfl, rfl⟩ leased held
    exact (found.leases deliveryId leased held).1

theorem enqueue_found {task : RuntimeTask} (found : Found config routes w) :
    Keeps redis (Found config routes) (fun _ _ => True) (enqueue config task) w := by
  simp only [enqueue, persistRouteRegistry, Prog.bind_def, Prog.pure_def, Prog.bind_assoc]
  refine (modifyAdapter_keeps found ?_).bind ?_
  · refine { found with catalog := ?_ }
    intro route topology get
    simp only [RouteCatalog.getOrInsertWith] at get
    split at get
    · exact found.catalog route topology get
    · rcases of_lookup_insert get with ⟨rfl, rfl⟩ | ⟨-, old⟩
      · rfl
      · exact found.catalog route topology old
  rintro topology u found' ⟨rfl, rfl⟩
  have built : (w.adapter.routes.getOrInsertWith task.route
      (buildRedisRouteTopology config task.queue task.lane)).1 = topologyOf config task.route := by
    rw [RouteCatalog.getOrInsertWith]
    split
    · next topology known => exact found.catalog task.route topology known
    · rfl
  rw [built]
  refine (found_of_issues (connection_issues harmless_tidy) found').bind ?_
  intro _ u found _
  refine (query_keeps (Q := fun _ u => Listed config u.keys.contents task.route) found ?_).bind ?_
  · intro moment reply keys executed
    have contents := Redis.sadd_spec executed
    refine ⟨found.execute (by exact ⟨_, rfl⟩) executed, ?_⟩
    rw [contents]
    exact mem_listed_enlist.2 (.inr ⟨rfl, rfl⟩)
  · intro _ u found listed
    exact publishEnvelope_found found listed

theorem reserve_found (bindings : List RuntimeRouteBinding) (found : Found config routes w) :
    Keeps redis (Found config routes) (fun _ _ => True) (reserve config bindings) w := by
  simp only [reserve, reserveFromBroker, Prog.bind_def, Prog.pure_def]
  have inner : Keeps redis (Found config routes) (fun _ _ => True)
      ((ensureRegisteredRoutesLoaded config).bind fun _ => currentAdapter.bind fun adapter =>
        reserveRoutes config (adapter.routes.orderedRoutes bindings)) w := by
    refine (ensureRegisteredRoutesLoaded_found found).bind ?_
    intro _ u found _
    refine (currentAdapter_keeps found).bind ?_
    intro adapter u found _
    exact reserveRoutes_found _ found
  refine inner.attempt.bind ?_
  rintro (error | delivery) u found -
  · exact Keeps.ret found trivial
  · exact Keeps.ret found trivial

theorem ack_found (deliveryId : String) (found : Found config routes w) :
    Keeps redis (Found config routes) (fun _ _ => True) (ack deliveryId) w := by
  refine (takeLease_found deliveryId found).bind ?_
  rintro (_ | leased) u found -
  · exact Keeps.ret found trivial
  · exact found_of_issues (ackEntry_issues harmless_tidy (by trivial)) found

theorem reject_found (deliveryId error : String) (found : Found config routes w) :
    Keeps redis (Found config routes) (fun _ _ => True) (reject deliveryId error) w := by
  refine (takeLease_found deliveryId found).bind ?_
  rintro (_ | leased) u found listed
  · exact Keeps.ret found trivial
  · exact deadLetter_found found (listed leased rfl)

theorem retry_found (deliveryId error : String) (delayMs : UInt64)
    (found : Found config routes w) :
    Keeps redis (Found config routes) (fun _ _ => True) (retry deliveryId error delayMs) w := by
  simp only [retry, Prog.bind_def, Prog.pure_def, Prog.throw_def]
  refine (takeLease_found deliveryId found).bind ?_
  rintro (_ | leased) u found listed
  · exact Keeps.fail found
  · dsimp only
    split_ifs
    · exact (deadLetter_found found (listed leased rfl)).bind fun _ _ found _ =>
        Keeps.ret found trivial
    · exact (requeue_found found (listed leased rfl)).bind fun _ _ found _ =>
        Keeps.ret found trivial

theorem replayDeadLetter_found (deliveryId : String) (found : Found config routes w) :
    Keeps redis (Found config routes) (fun _ _ => True)
      (replayDeadLetter config deliveryId) w := by
  simp only [replayDeadLetter, findDeadLetterReplay, removeReplayedDeadLetterEntry, Prog.bind_def,
    Prog.pure_def, Prog.throw_def, Prog.bind_assoc]
  refine (ensureRegisteredRoutesLoaded_found found).bind ?_
  intro _ u found _
  refine (currentAdapter_keeps found).bind ?_
  intro adapter u found _
  refine (searchTopologies_keeps deliveryId _ found).bind ?_
  rintro (_ | ⟨topology, record, id⟩) u found ⟨rfl, held⟩
  · exact Keeps.fail found
  · have stored := (held topology record id rfl).2
    have listed : Listed config u.keys.contents record.task.route :=
      found.findable.entries _ _ stored
    refine (publishEnvelope_found found (by exact listed)).bind ?_
    intro _ v found _
    refine found_of_issues ?_ found
    exact (connection_issues harmless_tidy).bind fun _ => (query_issues (by trivial)).bind
      fun _ => .ret

end Programs

theorem call_found {w : RedisWorld} (call : RedisCall) (found : Found config routes w) :
    Keeps redis (Found config routes) (fun _ _ => True) (call.prog config) w := by
  cases call with
  | enqueue task => exact enqueue_found found
  | reserve bindings => exact reserve_found bindings found
  | ack deliveryId => exact ack_found deliveryId found
  | retry deliveryId error delayMs => exact retry_found deliveryId error delayMs found
  | reject deliveryId error => exact reject_found deliveryId error found
  | replayDeadLetter deliveryId => exact replayDeadLetter_found deliveryId found

/-- A process that starts again remembers nothing. -/
theorem Found.restart {w : RedisWorld} (found : Found config routes w) :
    Found config routes { w with adapter := .new } where
  findable := found.findable
  catalog _ _ get := nomatch get
  leases _ _ held := nomatch held
  known := found.known

/-- In every run, whatever fails and wherever the process stops, the route of every stored and
every leased task is in the registry. -/
theorem found_of_run {events : List (Transition RedisHistory RedisEvent)} {h : RedisHistory}
    (run : Run (RedisStep config) .fresh events h) : Found config ∅ h.world := by
  refine @Run.invariant _ _ _ _ _ _ (fun h => Found config ∅ h.world) ?_ ?_ run
  · rintro h event h' found (⟨exec⟩ | ⟨stop⟩)
    · exact ((call_found _ found).exec exec).1
    · exact ((call_found _ found).stops stop).restart
  · exact
      { findable :=
          { entries := fun _ _ mem => nomatch mem
            scheduled := fun _ _ mem => nomatch mem
            registry := fun _ _ mem => nomatch mem }
        catalog := fun _ _ get => nomatch get
        leases := fun _ _ held => nomatch held
        known := fun _ mem => nomatch mem }

end RedisStreams

end NexusCore.Runtime
