import NexusCore.Lib.RedisGroups
import NexusCore.Runtime.Broker.RedisRegistry

/-!
# What a Redis adapter finds when it has just connected

Several nodes share a server. A route has work that is ready when its stream has an entry that
its group was not handed yet, or one that went stale, or when a retry of it is due. An adapter
that remembers nothing reads the routes from the registry and asks them one after the other; a
route that has nothing leaves what the others have. What a route has is within reach unless it is
a stale entry behind ten pending ones: a claim does not look further, and begins at the first one
every time.
-/

namespace NexusCore.Runtime

open NexusCore.Lib

namespace RedisStreams

variable {config : RedisStreamsQueueConfig}

/-- The stream of a route has something for its group: a new entry, or one that was handed out,
went stale and is claimed. -/
inductive HandsOut (idle : String → Redis.EntryId → Bool) (topology : RedisRouteTopology)
    (keys : Redis.Keyspace RedisPayload) : Prop where
  | new {entry : Redis.EntryId × RedisPayload}
      (stored : entry ∈ keys.contents.entries topology.streamKey)
      (next : (keys.groupOf topology.streamKey topology.consumerGroup).lastDelivered < entry.1)
  | stale {entry : Redis.EntryId × RedisPayload}
      (stored : entry ∈ keys.contents.entries topology.streamKey)
      (reached : keys.Reaches topology.streamKey topology.consumerGroup entry.1)
      (idled : idle topology.streamKey entry.1 = true)

/-- A retry waits for nothing but its promotion, or the stream has something. -/
inductive Waiting (now : UInt64) (idle : String → Redis.EntryId → Bool)
    (topology : RedisRouteTopology) (keys : Redis.Keyspace RedisPayload) : Prop where
  | stream (out : HandsOut idle topology keys)
  | due {member : RedisPayload} (due : member ∈ keys.dueAt topology.delayedKey (asIsize now))

/-- A route is registered, and has something that is within reach. -/
structure Reach (config : RedisStreamsQueueConfig) (now : UInt64)
    (idle : String → Redis.EntryId → Bool) (keys : Redis.Keyspace RedisPayload) (route : Route) :
    Prop where
  listed : Listed config keys.contents route
  waiting : Waiting now idle (topologyOf config route) keys

/-- A payload that holds a task of a route. -/
def IsOf (route : Route) (payload : RedisPayload) : Prop :=
  ∃ task, payload.task? = some task ∧ task.route = route

/-- A task of a route is ready at a time: it is new, it was handed out and went stale, or it waits
for its promotion. -/
inductive Ready (config : RedisStreamsQueueConfig) (now : UInt64)
    (idle : String → Redis.EntryId → Bool) (keys : Redis.Keyspace RedisPayload) (route : Route) :
    Prop where
  | new {entry : Redis.EntryId × RedisPayload}
      (stored : entry ∈ keys.contents.entries (topologyOf config route).streamKey)
      (next : (keys.groupOf (topologyOf config route).streamKey
        (topologyOf config route).consumerGroup).lastDelivered < entry.1)
      (task : IsOf route entry.2)
  | stale {entry : Redis.EntryId × RedisPayload}
      (stored : entry ∈ keys.contents.entries (topologyOf config route).streamKey)
      (pending : entry.1 ∈ (keys.groupOf (topologyOf config route).streamKey
        (topologyOf config route).consumerGroup).pending)
      (idled : idle (topologyOf config route).streamKey entry.1 = true)
      (task : IsOf route entry.2)
  | due {member : RedisPayload}
      (due : member ∈ keys.dueAt (topologyOf config route).delayedKey (asIsize now))
      (task : IsOf route member)

/-- The entries that are idle when a command asks for them. -/
def Elapsed (idle : String → Redis.EntryId → Bool) (moment : Redis.Moment) :
    Redis.Cmd RedisPayload → Prop
  | .xautoclaim key _ => ∀ id, idle key id = true → moment.idle id = true
  | _ => True

/-- The server from a moment on: the clock does not go back, and what is idle stays idle until it
is claimed. -/
def redisSince (now : UInt64) (idle : String → Redis.EntryId → Bool) :
    Handler RedisWorld RedisOp RedisOp.Answer
  | w, .command c, .ok reply, u => ∃ moment keys, Elapsed idle moment c ∧
      w.keys.execute moment c = .ok (reply, keys) ∧
      u = { w with keys := keys, promoting := promotingAfter c reply w.promoting }
  | w, .nowMs, time, u => asIsize now ≤ asIsize time ∧ u = w
  | w, op, answer, u => redis w op answer u

/-- An answer that keeps a call from going on: the server was not reached or refused a command,
or a payload did not parse. A group that is there already is none. -/
def obstructs : (op : RedisOp) → op.Answer → Bool
  | .command (.xgroupCreateMkstream ..), .error error => !redisConflictError error
  | .command _, .error _ | .connect, .error _ | .parse _, false => true
  | _, _ => false

/-- The server from a moment on, when nothing obstructs the calls. -/
abbrev answering (now : UInt64) (idle : String → Redis.EntryId → Bool) :
    Handler RedisWorld RedisOp RedisOp.Answer :=
  (redisSince now idle).without fun _ op answer _ => obstructs op answer

section Payloads

variable {now : UInt64} {idle : String → Redis.EntryId → Bool} {topology : RedisRouteTopology}
  {keys keys' : Redis.Keyspace RedisPayload} {route : Route}

/-- The route of a task that is ready is registered. -/
theorem Ready.listed (ready : Ready config now idle keys route)
    (findable : Findable config keys.contents) : Listed config keys.contents route := by
  have streamed : ∀ entry : Redis.EntryId × RedisPayload,
      entry ∈ keys.contents.entries (topologyOf config route).streamKey → IsOf route entry.2 →
      Listed config keys.contents route := by
    rintro ⟨id, payload⟩ stored ⟨task, holds, same⟩
    have known := findable.entries _ _ stored
    cases payload with
    | envelope e =>
      cases holds
      exact same ▸ known
    | record r =>
      cases holds
      exact same ▸ known
    | delayed d => exact known.elim
    | route entry => exact known.elim
  cases ready with
  | new stored _ task => exact streamed _ stored task
  | stale stored _ _ task => exact streamed _ stored task
  | @due member due task =>
    obtain ⟨task, holds, same⟩ := task
    have known := findable.scheduled _ _ (Redis.mem_scheduled_of_dueAt due)
    cases member with
    | delayed d =>
      cases holds
      exact same ▸ known
    | envelope e => exact known.elim
    | record r => exact known.elim
    | route entry => exact known.elim

/-- Two routes with one stream have everything in common but their names. -/
theorem topologyOf_congr {a b : Route}
    (same : (topologyOf config a).streamKey = (topologyOf config b).streamKey) :
    (topologyOf config a).consumerGroup = (topologyOf config b).consumerGroup ∧
      (topologyOf config a).delayedKey = (topologyOf config b).delayedKey := by
  have names : routeName a.1 a.2 = routeName b.1 b.2 := (String.append_right_inj _).1 same
  refine ⟨?_, delayedKey_inj.2 same⟩
  simp only [topologyOf, buildRedisRouteTopology, names]

theorem HandsOut.congr {a b : Route} (out : HandsOut idle (topologyOf config a) keys)
    (same : (topologyOf config a).streamKey = (topologyOf config b).streamKey) :
    HandsOut idle (topologyOf config b) keys := by
  obtain ⟨groups, -⟩ := topologyOf_congr same
  cases out with
  | new stored next => exact .new (same ▸ stored) (same ▸ groups ▸ next)
  | stale stored reached idled =>
    exact .stale (same ▸ stored) (same ▸ groups ▸ reached) (same ▸ idled)

theorem Waiting.congr {a b : Route} (waiting : Waiting now idle (topologyOf config a) keys)
    (same : (topologyOf config a).streamKey = (topologyOf config b).streamKey) :
    Waiting now idle (topologyOf config b) keys := by
  obtain ⟨-, delayed⟩ := topologyOf_congr same
  cases waiting with
  | stream out => exact .stream (out.congr same)
  | due due => exact .due (delayed ▸ due)

end Payloads

section Commands

variable {now : UInt64} {idle : String → Redis.EntryId → Bool}
  {topology : RedisRouteTopology} {keys keys' : Redis.Keyspace RedisPayload}
  {moment : Redis.Moment}

/-- The commands that neither hand out an entry nor take one away. -/
def Growing : Redis.Cmd RedisPayload → Prop
  | .xdel .. => False
  | c => c.IsQuiet

theorem entries_growing {c : Redis.Cmd RedisPayload} {reply : c.Reply} (growing : Growing c)
    (done : keys.execute moment c = .ok (reply, keys')) {key : String}
    {entry : Redis.EntryId × RedisPayload} (stored : entry ∈ keys.contents.entries key) :
    entry ∈ keys'.contents.entries key := by
  cases c with
  | xdel | xreadgroup | xautoclaim | xack => exact growing.elim
  | xgroupCreateMkstream => rwa [Redis.xgroupCreateMkstream_spec done]
  | xadd =>
    rw [(Redis.xadd_spec done).2]
    exact mem_entries_append.2 (.inl stored)
  | xrange => rwa [(Redis.xrange_spec done).1]
  | zadd => rwa [Redis.zadd_spec done]
  | zrem => rwa [(Redis.zrem_spec done).2]
  | zrangebyscore => rwa [(Redis.zrangebyscore_spec done).1]
  | sadd => rwa [Redis.sadd_spec done]
  | smembers => rwa [(Redis.smembers_spec done).1]

/-- A claim gets as far as before when nothing has gone from the stream. -/
theorem reaches_of_entries {key group : String} {id : Redis.EntryId}
    (reached : keys.Reaches key group id) (groups : keys'.groupOf key group = keys.groupOf key group)
    (entries : ∀ entry ∈ keys.contents.entries key, entry ∈ keys'.contents.entries key) :
    keys'.Reaches key group id := by
  obtain ⟨before, after, split, kept⟩ := reached
  refine ⟨before, after, groups ▸ split, fun other mem => ?_⟩
  obtain ⟨entry, stored, same⟩ := List.mem_map.1 (kept other mem)
  exact List.mem_map.2 ⟨entry, entries entry stored, same⟩

theorem HandsOut.growing {c : Redis.Cmd RedisPayload} {reply : c.Reply}
    (out : HandsOut idle topology keys) (growing : Growing c)
    (done : keys.execute moment c = .ok (reply, keys')) : HandsOut idle topology keys' := by
  have quiet : c.IsQuiet := by
    cases c <;> first | exact growing | exact growing.elim
  have groups := Redis.groupOf_quiet quiet done topology.streamKey topology.consumerGroup
  have entries : ∀ entry ∈ keys.contents.entries topology.streamKey,
      entry ∈ keys'.contents.entries topology.streamKey :=
    fun entry stored => entries_growing growing done stored
  cases out with
  | new stored next => exact .new (entries _ stored) (by rwa [groups])
  | stale stored reached idled =>
    exact .stale (entries _ stored) (reaches_of_entries reached groups entries) idled

end Commands

/-- A world in which a topology has work that is ready. -/
structure Offers (now : UInt64) (idle : String → Redis.EntryId → Bool)
    (topology : RedisRouteTopology) (w : RedisWorld) : Prop where
  behind : w.keys.Behind
  waiting : Waiting now idle topology w.keys

/-- The catalog has a topology for a route and serves it. -/
def Known (route : Route) (w : RedisWorld) : Prop :=
  route ∈ w.adapter.routes.routeOrder ∧ ∃ topology, w.adapter.routes.get route = some topology

section Operations

variable {now : UInt64} {idle : String → Redis.EntryId → Bool} {topology other : RedisRouteTopology}
  {w u : RedisWorld}

theorem redis_of_answering {op : RedisOp} {answer : op.Answer}
    (answered : answering now idle w op answer u) : redis w op answer u := by
  obtain ⟨answered, -⟩ := answered
  cases op with
  | command c =>
    cases answer with
    | error error => exact answered
    | ok reply =>
      obtain ⟨moment, keys, -, executed, same⟩ := answered
      exact ⟨moment, keys, executed, same⟩
  | nowMs => exact answered.2
  | _ => exact answered

/-- What commands that neither hand out nor take away do to the world, when nothing obstructs
them. -/
structure Grown (topology : RedisRouteTopology) (w u : RedisWorld) : Prop where
  adapter : u.adapter = w.adapter
  behind : w.keys.Behind → u.keys.Behind
  out {idle : String → Redis.EntryId → Bool} : HandsOut idle topology w.keys →
    HandsOut idle topology u.keys

theorem Grown.refl (w : RedisWorld) : Grown topology w w := ⟨rfl, id, id⟩

theorem Grown.trans {v : RedisWorld} (first : Grown topology w u) (second : Grown topology u v) :
    Grown topology w v :=
  ⟨second.adapter.trans first.adapter, fun behind => second.behind (first.behind behind),
    fun out => second.out (first.out out)⟩

theorem grown_execute {c : Redis.Cmd RedisPayload} {reply : c.Reply} {moment : Redis.Moment}
    {keys : Redis.Keyspace RedisPayload} (growing : Growing c)
    (done : w.keys.execute moment c = .ok (reply, keys)) (promoting : List RuntimeTask) :
    Grown topology w { w with keys := keys, promoting := promoting } where
  adapter := rfl
  behind behind := behind.execute done
  out out := out.growing growing done

theorem succeeds_keeping {α : Type} {p : RedisProg α} {I : RedisWorld → Prop}
    {Q Q' : α → RedisWorld → Prop} (succeeds : Succeeds (answering now idle) Q p w)
    (keeps : Keeps redis I Q' p w) :
    Succeeds (answering now idle) (fun a u => Q a u ∧ I u) p w :=
  (succeeds.and_keeps (fun _ _ _ _ => redis_of_answering) keeps).mono
    fun _ _ post => ⟨post.1, post.2.1⟩

theorem connection_succeeds :
    Succeeds (answering now idle) (fun _ u => u = w) connection w := by
  refine .call ?_
  rintro (error | ⟨⟩) u ⟨answered, clear⟩
  · cases clear
  · exact .ret answered

theorem decode_succeeds {α : Type} {read : RedisPayload → Option α} {payload : RedisPayload}
    {a : α} (reads : read payload = some a) :
    Succeeds (answering now idle) (fun b u => b = a ∧ u = w) (decode read payload) w := by
  refine .call ?_
  rintro parses u ⟨answered, clear⟩
  have parsed : parses = true := by
    cases parses with
    | false => cases clear
    | true => rfl
  split
  · next value readable =>
    obtain rfl := Option.some.inj (reads.symm.trans readable)
    exact .ret ⟨rfl, answered⟩
  · next refused => exact (refused a parsed reads).elim

theorem nowMs_succeeds :
    Succeeds (answering now idle) (fun time u => asIsize now ≤ asIsize time ∧ u = w) nowMs w :=
  .call fun _ _ answered => .ret answered.1

theorem modifyAdapter_succeeds {α : Type}
    {change : RedisStreamsBrokerAdapter → α × RedisStreamsBrokerAdapter} :
    Succeeds (answering now idle) (fun a u => a = (change w.adapter).1 ∧
      u = { w with adapter := (change w.adapter).2 }) (modifyAdapter change) w := by
  refine .call ?_
  rintro adapter u ⟨⟨rfl, rfl⟩, -⟩
  refine .call ?_
  rintro ⟨⟩ v ⟨answered, -⟩
  exact .ret ⟨rfl, answered⟩

/-- A command that is not there for a group is executed. -/
theorem query_succeeds {c : Redis.Cmd RedisPayload} {message : String}
    {Q : c.Reply → RedisWorld → Prop}
    (strict : ∀ error, obstructs (.command c) (.error error) = true)
    (done : ∀ moment reply keys, Elapsed idle moment c →
      w.keys.execute moment c = .ok (reply, keys) →
      Q reply { w with keys := keys, promoting := promotingAfter c reply w.promoting }) :
    Succeeds (answering now idle) Q (query c message) w := by
  refine .call ?_
  rintro (error | reply) u ⟨answered, clear⟩
  · cases (strict error).symm.trans clear
  · obtain ⟨moment, keys, elapsed, executed, rfl⟩ := answered
    exact .ret (done moment reply keys elapsed executed)

theorem ensureTopology_succeeds (topology : RedisRouteTopology) : Succeeds (answering now idle)
    (fun _ u => Grown topology w u ∧ ∀ key, u.keys.dueAt key = w.keys.dueAt key)
    (ensureTopology other) w := by
  refine connection_succeeds.bind ?_
  intro _ v same
  obtain rfl : v = w := same
  refine .call ?_
  rintro (error | ⟨⟩) u ⟨answered, clear⟩
  · obtain rfl : u = v := answered
    have conflict : redisConflictError error = true := by simpa [obstructs] using clear
    dsimp only
    rw [if_pos conflict]
    exact .ret ⟨.refl u, fun _ => rfl⟩
  · obtain ⟨moment, keys, -, executed, rfl⟩ := answered
    exact .ret ⟨grown_execute (by trivial) executed _,
      fun key => funext fun max => Redis.dueAt_spared (by trivial) executed max⟩

/-- What is published is there for the group. -/
theorem publishEnvelope_succeeds (topology : RedisRouteTopology) {envelope : RedisEnvelope} :
    Succeeds (answering now idle)
    (fun _ u => Grown topology w u ∧ (∀ key, u.keys.dueAt key = w.keys.dueAt key) ∧
      (other = topology → w.keys.Behind → HandsOut idle topology u.keys))
    (publishEnvelope other envelope) w := by
  refine (ensureTopology_succeeds topology).bind ?_
  rintro _ v ⟨grown, due⟩
  refine connection_succeeds.bind ?_
  intro _ v' same
  obtain rfl : v' = v := same
  refine Succeeds.bind (query_succeeds (fun _ => rfl) ?_) fun _ _ post => .ret post
  intro moment id keys _ executed
  refine ⟨grown.trans (grown_execute (by trivial) executed _), fun key => ?_, ?_⟩
  · rw [← due key]
    exact funext fun max => Redis.dueAt_spared (by trivial) executed max
  · rintro rfl behind
    obtain ⟨later, contents⟩ := Redis.xadd_spec executed
    have stored : (id, RedisPayload.envelope envelope) ∈ keys.contents.entries other.streamKey := by
      rw [contents]
      exact mem_entries_append.2 (.inr ⟨rfl, rfl⟩)
    refine .new stored ?_
    rw [Redis.groupOf_quiet (by trivial) executed]
    exact lt_of_le_of_lt (grown.behind behind _ _) later

/-- A retry that is in the sorted set when its promotion begins is in the stream afterwards. -/
theorem promote_succeeds (topology : RedisRouteTopology) (payloads : List RedisPayload) {w : RedisWorld}
    (readable : ∀ payload ∈ payloads, ∃ delayed, payload.asDelayed = some delayed)
    (behind : w.keys.Behind) : Succeeds (answering now idle)
      (fun _ u => Grown topology w u ∧
        (other.delayedKey ≠ topology.delayedKey →
          u.keys.dueAt topology.delayedKey = w.keys.dueAt topology.delayedKey) ∧
        (other = topology → ∀ payload, payloads.head? = some payload →
          payload ∈ w.keys.contents.scheduled other.delayedKey →
          HandsOut idle topology u.keys))
      (promote other payloads) w := by
  induction payloads generalizing w with
  | nil => exact .ret ⟨.refl w, fun _ => rfl, fun _ _ head => nomatch head⟩
  | cons payload rest ih =>
    simp only [promote, Prog.bind_def]
    obtain ⟨first, later⟩ := List.forall_mem_cons.1 readable
    refine Succeeds.bind (query_succeeds (c := .zrem other.delayedKey payload)
      (Q := fun (removed : Nat) u => Grown topology w u ∧
        (other.delayedKey ≠ topology.delayedKey →
          u.keys.dueAt topology.delayedKey = w.keys.dueAt topology.delayedKey) ∧
        (payload ∈ w.keys.contents.scheduled other.delayedKey → removed ≠ 0))
      (fun _ => rfl) ?_) ?_
    · intro moment removed keys _ executed
      refine ⟨grown_execute (by trivial) executed _, fun apart => ?_,
        (Redis.zrem_spec executed).1.2⟩
      exact funext fun max => Redis.dueAt_spared (by exact apart) executed max
    · rintro removed u ⟨grown, due, present⟩
      split_ifs with gone
      · refine (ih later (grown.behind behind)).mono ?_
        rintro _ v ⟨more, due', -⟩
        refine ⟨grown.trans more, fun apart => (due' apart).trans (due apart), ?_⟩
        intro _ head same there
        obtain rfl := Option.some.inj same
        exact absurd gone (present there)
      · obtain ⟨delayed, reads⟩ := first
        refine (decode_succeeds reads).bind ?_
        rintro _ u' ⟨rfl, same⟩
        obtain rfl : u' = u := same
        refine (publishEnvelope_succeeds topology).bind ?_
        rintro _ v ⟨published, due', out⟩
        refine (ih later (published.behind (grown.behind behind))).mono ?_
        rintro _ x ⟨more, due'', -⟩
        refine ⟨(grown.trans published).trans more, fun apart => ?_, ?_⟩
        · rw [due'' apart, due', due apart]
        · intro here _ _ _
          exact more.out (out here (grown.behind behind))

theorem promoteDueRetries_succeeds (topology : RedisRouteTopology)
    (findable : Findable config w.keys.contents)
    (behind : w.keys.Behind) : Succeeds (answering now idle)
      (fun _ u => Grown topology w u ∧
        (other.delayedKey ≠ topology.delayedKey →
          u.keys.dueAt topology.delayedKey = w.keys.dueAt topology.delayedKey) ∧
        (other = topology → Waiting now idle topology w.keys →
          HandsOut idle topology u.keys))
      (promoteDueRetries other) w := by
  simp only [promoteDueRetries, Prog.bind_def]
  refine connection_succeeds.bind ?_
  intro _ v same
  obtain rfl : v = w := same
  refine nowMs_succeeds.bind ?_
  rintro time u ⟨later, same⟩
  obtain rfl : u = v := same
  refine Succeeds.bind (query_succeeds (c := .zrangebyscore other.delayedKey (asIsize time) 32)
    (Q := fun (payloads : List RedisPayload) x => x.keys = u.keys ∧ x.adapter = u.adapter ∧
      (∀ payload ∈ payloads, payload ∈ u.keys.contents.scheduled other.delayedKey) ∧
      (u.keys.dueAt other.delayedKey (asIsize now) ≠ [] → payloads ≠ []))
    (fun _ => rfl) ?_) ?_
  · intro moment payloads keys _ executed
    obtain ⟨same, held⟩ := Redis.zrangebyscore_spec executed
    exact ⟨same, rfl, held, Redis.zrangebyscore_dueAt executed later (by decide)⟩
  · rintro payloads x ⟨keys, adapter, held, found⟩
    have start : Grown topology u x :=
      ⟨adapter, fun behind => keys ▸ behind, fun out => keys ▸ out⟩
    refine (promote_succeeds topology payloads ?_ (start.behind behind)).mono ?_
    · intro payload mem
      obtain ⟨delayed, reads, -⟩ := (findable.scheduled _ payload (held payload mem)).asDelayed
      exact ⟨delayed, reads⟩
    · rintro _ y ⟨grown, due, out⟩
      refine ⟨start.trans grown, fun apart => by rw [due apart, keys], ?_⟩
      rintro rfl (already | ⟨is_due⟩)
      · exact grown.out (start.out already)
      · cases payloads with
        | nil => exact absurd rfl (found (List.ne_nil_of_mem is_due))
        | cons payload rest =>
          refine out rfl payload rfl ?_
          rw [keys]
          exact held payload List.mem_cons_self

/-- What stands in a stream can be leased. -/
theorem lease_succeeds {message : Redis.EntryId × RedisPayload} {envelope : RedisEnvelope}
    (reads : message.2.asEnvelope = some envelope) :
    Succeeds (answering now idle) (fun _ _ => True) (lease config other message) w := by
  simp only [lease, Prog.bind_def]
  refine (decode_succeeds reads).bind ?_
  intro _ _ _
  refine nowMs_succeeds.bind ?_
  intro _ _ _
  exact modifyAdapter_succeeds.mono fun _ _ _ => trivial

theorem reclaimStaleDelivery_succeeds (topology : RedisRouteTopology)
    (findable : Findable config w.keys.contents) :
    Succeeds (answering now idle) (fun found u => found = none →
        u.adapter = w.adapter ∧ (w.keys.Behind → u.keys.Behind) ∧
        (other.streamKey ≠ topology.streamKey → Waiting now idle topology w.keys →
          Waiting now idle topology u.keys) ∧
        (HandsOut idle other w.keys →
          ∃ entry ∈ u.keys.contents.entries other.streamKey,
            (u.keys.groupOf other.streamKey other.consumerGroup).lastDelivered < entry.1))
      (reclaimStaleDelivery config other) w := by
  simp only [reclaimStaleDelivery, Prog.bind_def, Prog.pure_def]
  refine connection_succeeds.bind ?_
  intro _ v same
  obtain rfl : v = w := same
  refine Succeeds.bind (query_succeeds (c := .xautoclaim other.streamKey other.consumerGroup)
    (Q := fun (claimed : Option (Redis.EntryId × RedisPayload)) u =>
      (∀ message, claimed = some message → message ∈ v.keys.contents.entries other.streamKey) ∧
      (claimed = none → u.adapter = v.adapter ∧ (v.keys.Behind → u.keys.Behind) ∧
        (other.streamKey ≠ topology.streamKey → Waiting now idle topology v.keys →
          Waiting now idle topology u.keys) ∧
        (HandsOut idle other v.keys →
          ∃ entry ∈ u.keys.contents.entries other.streamKey,
            (u.keys.groupOf other.streamKey other.consumerGroup).lastDelivered < entry.1)))
    (fun _ => rfl) ?_) ?_
  · intro moment claimed keys elapsed executed
    obtain ⟨contents, held⟩ := Redis.xautoclaim_spec executed
    obtain ⟨nothing, -, groups⟩ := Redis.xautoclaim_groupOf executed
    refine ⟨held, fun none => ⟨rfl, fun behind => behind.execute executed, ?_, ?_⟩⟩
    · intro apart waiting
      obtain ⟨last, pending⟩ := groups topology.streamKey topology.consumerGroup
      have still := pending fun same => apart same.1.symm
      cases waiting with
      | stream out =>
        cases out with
        | new stored next => exact .stream (.new (by rwa [contents]) (by rwa [last]))
        | stale stored reached idled =>
          refine .stream (.stale (by rwa [contents]) ?_ idled)
          rwa [Redis.Keyspace.Reaches, still, contents]
      | due due => exact .due (by rwa [Redis.dueAt_spared (by trivial) executed])
    · intro out
      cases out with
      | @new entry stored next =>
        refine ⟨entry, by rwa [contents], ?_⟩
        rwa [(groups other.streamKey other.consumerGroup).1]
      | stale stored reached idled =>
        have busy := nothing none _ stored reached
        rw [elapsed _ idled] at busy
        cases busy
  · rintro (_ | message) u ⟨held, none⟩
    · exact .ret fun _ => none rfl
    · obtain ⟨envelope, reads, -⟩ := (findable.entries _ _ (held message rfl)).asEnvelope
      exact (lease_succeeds reads).bind fun _ _ _ => .ret fun absent => absurd absent (Option.some_ne_none _)

theorem reserveNew_succeeds {route : Route} (findable : Findable config w.keys.contents) :
    Succeeds (answering now idle) (fun found u => found = none →
        u.adapter = w.adapter ∧ u.keys = w.keys ∧
        ∀ entry ∈ w.keys.contents.entries other.streamKey,
          entry.1 ≤ (w.keys.groupOf other.streamKey other.consumerGroup).lastDelivered)
      (reserveNew config route other) w := by
  simp only [reserveNew, Prog.bind_def, Prog.pure_def]
  refine connection_succeeds.bind ?_
  intro _ v same
  obtain rfl : v = w := same
  refine Succeeds.bind (query_succeeds (c := .xreadgroup other.streamKey other.consumerGroup)
    (Q := fun (first : Option (Redis.EntryId × RedisPayload)) u =>
      (∀ message, first = some message → message ∈ v.keys.contents.entries other.streamKey) ∧
      (first = none → u.adapter = v.adapter ∧ u.keys = v.keys ∧
        ∀ entry ∈ v.keys.contents.entries other.streamKey,
          entry.1 ≤ (v.keys.groupOf other.streamKey other.consumerGroup).lastDelivered))
    (fun _ => rfl) ?_) ?_
  · intro moment first keys _ executed
    have handed := Redis.xreadgroup_groupOf executed
    refine ⟨(Redis.xreadgroup_spec executed).2, ?_⟩
    rintro rfl
    exact ⟨rfl, handed⟩
  · rintro (_ | message) u ⟨held, none⟩
    · exact .ret fun _ => none rfl
    · obtain ⟨envelope, reads, -⟩ := (findable.entries _ _ (held message rfl)).asEnvelope
      refine Succeeds.bind modifyAdapter_succeeds fun _ _ _ => ?_
      exact (lease_succeeds reads).bind fun _ _ _ => .ret fun absent => absurd absent (Option.some_ne_none _)

theorem Grown.waiting (grown : Grown topology w u)
    (due : u.keys.dueAt topology.delayedKey = w.keys.dueAt topology.delayedKey)
    (waiting : Waiting now idle topology w.keys) :
    Waiting now idle topology u.keys := by
  cases waiting with
  | stream out => exact .stream (grown.out out)
  | due is_due => exact .due (by rwa [due])

/-- A route that has nothing to offer leaves what another one has to offer. -/
theorem reserveRoute_succeeds (route : Route) {asked : Route} (found : Found config ∅ w)
    (behind : w.keys.Behind) : Succeeds (answering now idle) (fun delivery u => delivery = none →
        u.adapter = w.adapter ∧ u.keys.Behind ∧
        ((topologyOf config asked).streamKey ≠ (topologyOf config route).streamKey →
          Waiting now idle (topologyOf config route) w.keys →
          Waiting now idle (topologyOf config route) u.keys) ∧
        ¬ Waiting now idle (topologyOf config asked) w.keys)
      (reserveRoute config asked (topologyOf config asked)) w := by
  simp only [reserveRoute, Prog.bind_def, Prog.pure_def]
  refine Succeeds.bind (succeeds_keeping ((ensureTopology_succeeds (topologyOf config route)).and
    (ensureTopology_succeeds (topologyOf config asked)))
    (found_of_issues (ensureTopology_issues harmless_tidy) found)) ?_
  rintro _ u ⟨⟨⟨there, due⟩, ⟨here, -⟩⟩, found⟩
  refine Succeeds.bind (succeeds_keeping ((promoteDueRetries_succeeds (topologyOf config route)
    found.findable (here.behind behind)).and (promoteDueRetries_succeeds
      (topologyOf config asked) found.findable (here.behind behind)))
    (promoteDueRetries_found found)) ?_
  rintro _ v ⟨⟨⟨there', apart, -⟩, ⟨here', -, out⟩⟩, found⟩
  refine Succeeds.bind (succeeds_keeping (reclaimStaleDelivery_succeeds (topologyOf config route)
    found.findable) (reclaimStaleDelivery_found found)) ?_
  rintro (_ | delivery) x ⟨nothing, found⟩
  · obtain ⟨adapter, behind', elsewhere, entry⟩ := nothing rfl
    refine (reserveNew_succeeds found.findable).mono ?_
    rintro reply y empty rfl
    obtain ⟨same, keys, handed⟩ := empty rfl
    refine ⟨?_, ?_, ?_, ?_⟩
    · rw [same, adapter, there'.adapter, there.adapter]
    · rw [keys]
      exact behind' (here'.behind (here.behind behind))
    · intro ne waiting
      have delayed : (topologyOf config asked).delayedKey ≠ (topologyOf config route).delayedKey :=
        fun same => ne (delayedKey_inj.1 same)
      rw [keys]
      exact elsewhere ne (there'.waiting (apart delayed) (there.waiting (due _) waiting))
    · intro waiting
      obtain ⟨entry, stored, next⟩ := entry (out rfl (here.waiting (due _) waiting))
      exact absurd (handed entry stored) (not_le.2 next)
  · exact Succeeds.bind modifyAdapter_succeeds fun _ _ _ => .ret fun absent => absurd absent (Option.some_ne_none _)

theorem reserveRoutes_succeeds {route : Route} (order : List Route) {w : RedisWorld}
    (found : Found config ∅ w) (behind : w.keys.Behind) (asked : route ∈ order)
    (known : ∃ topology, w.adapter.routes.get route = some topology)
    (waiting : Waiting now idle (topologyOf config route) w.keys) :
    Succeeds (answering now idle) (fun delivery _ => delivery ≠ none)
      (reserveRoutes config order) w := by
  induction order generalizing w with
  | nil => cases asked
  | cons first rest ih =>
    simp only [reserveRoutes, currentAdapter, Prog.bind_def, Prog.pure_def, Prog.bind]
    refine .call ?_
    rintro adapter w ⟨⟨rfl, rfl⟩, -⟩
    cases get : w.adapter.routes.get first with
    | none =>
      have later : route ∈ rest := by
        rcases List.mem_cons.1 asked with rfl | later
        · obtain ⟨topology, get'⟩ := known
          rw [get] at get'
          cases get'
        · exact later
      exact ih found behind later known waiting
    | some topology =>
      obtain rfl := found.catalog first topology get
      refine Succeeds.bind (succeeds_keeping (reserveRoute_succeeds route found behind)
        (reserveRoute_found found)) ?_
      rintro (_ | delivery) u ⟨nothing, found⟩
      · obtain ⟨adapter, behind, elsewhere, empty⟩ := nothing rfl
        have apart : (topologyOf config first).streamKey ≠ (topologyOf config route).streamKey :=
          fun same => empty (waiting.congr same.symm)
        have later : route ∈ rest := by
          rcases List.mem_cons.1 asked with rfl | later
          · exact absurd rfl apart
          · exact later
        exact ih found behind later (adapter ▸ known) (elsewhere apart waiting)
      · exact .ret (by simp)

/-- A catalog that has registered a route serves it, and whatever it served before. -/
theorem known_registerRoute {catalog : RouteCatalog RedisRouteTopology} {route registered : Route}
    (known : route = registered ∨
      route ∈ catalog.routeOrder ∧ ∃ found, catalog.get route = some found) :
    route ∈ (catalog.registerRoute registered topology).routeOrder ∧
      ∃ found, (catalog.registerRoute registered topology).get route = some found := by
  constructor
  · simp only [RouteCatalog.registerRoute]
    split_ifs with there
    · rcases known with rfl | known
      · exact there
      · exact known.1
    · rcases known with rfl | known
      · exact List.mem_append_right _ (List.mem_singleton_self _)
      · exact List.mem_append_left _ known.1
  · simp only [RouteCatalog.registerRoute, RouteCatalog.get] at known ⊢
    split
    · next found there =>
      rcases known with rfl | known
      · exact ⟨found, there⟩
      · exact known.2
    · by_cases same : route = registered
      · rw [same, AList.lookup_insert]
        exact ⟨topology, rfl⟩
      · rw [AList.lookup_insert_ne same]
        rcases known with rfl | known
        · exact absurd rfl same
        · exact known.2

theorem loadRoutes_succeeds {route : Route} (payloads : List RedisPayload) {w : RedisWorld}
    (routes : ∀ payload ∈ payloads, ∃ entry, payload = .route entry)
    (offers : Offers now idle (topologyOf config route) w) :
    Succeeds (answering now idle) (fun _ u => Offers now idle (topologyOf config route) u ∧
      (.route ⟨route.1, route.2⟩ ∈ payloads ∨ Known route w → Known route u))
      (loadRoutes config payloads) w := by
  induction payloads generalizing w with
  | nil => exact .ret ⟨offers, fun known => known.resolve_left (by simp)⟩
  | cons payload rest ih =>
    simp only [loadRoutes, Prog.bind_def]
    obtain ⟨⟨entry, rfl⟩, later⟩ := List.forall_mem_cons.1 routes
    refine (decode_succeeds (a := entry) rfl).bind ?_
    rintro _ v ⟨rfl, rfl⟩
    refine (ensureTopology_succeeds (topologyOf config route)).bind ?_
    rintro _ u ⟨grown, due⟩
    refine Succeeds.bind modifyAdapter_succeeds ?_
    rintro _ x ⟨-, rfl⟩
    refine Succeeds.mono
      (ih later ⟨grown.behind offers.behind, grown.waiting (due _) offers.waiting⟩) ?_
    rintro _ y ⟨offers, learned⟩
    refine ⟨offers, fun known => learned ?_⟩
    simp only [Known, grown.adapter] at known ⊢
    rcases known with listed | known
    · rcases List.mem_cons.1 listed with same | listed
      · cases same
        exact .inr (known_registerRoute (.inl rfl))
      · exact .inl listed
    · exact .inr (known_registerRoute (.inr known))

/-- An adapter that has read the registry serves every route in it. -/
theorem ensureRegisteredRoutesLoaded_succeeds {route : Route} (found : Found config ∅ w)
    (listed : Listed config w.keys.contents route)
    (offers : Offers now idle (topologyOf config route) w) :
    Succeeds (answering now idle)
      (fun _ u => Offers now idle (topologyOf config route) u ∧ Known route u)
      (ensureRegisteredRoutesLoaded config) w := by
  simp only [ensureRegisteredRoutesLoaded, Prog.bind_def]
  refine connection_succeeds.bind ?_
  intro _ v same
  obtain rfl : v = w := same
  refine Succeeds.bind (query_succeeds (c := .smembers (redisRouteRegistryKey config))
    (Q := fun (entries : List RedisPayload) u => Offers now idle (topologyOf config route) u ∧
      entries = v.keys.contents.listed (redisRouteRegistryKey config)) (fun _ => rfl) ?_) ?_
  · intro moment entries keys _ executed
    obtain ⟨same, members⟩ := Redis.smembers_spec executed
    exact ⟨⟨same ▸ offers.behind, same ▸ offers.waiting⟩, members⟩
  · rintro entries u ⟨offers, rfl⟩
    refine (loadRoutes_succeeds _ (fun payload mem => ?_) offers).mono ?_
    · exact found.findable.registry _ payload mem
    · rintro _ x ⟨offers, learned⟩
      exact ⟨offers, learned (.inl listed)⟩

theorem reserveFromBroker_succeeds {route : Route} {bindings : List RuntimeRouteBinding}
    (found : Found config ∅ w) (behind : w.keys.Behind) (allowed : Allows bindings route)
    (reach : Reach config now idle w.keys route) :
    Succeeds (answering now idle) (fun delivery _ => delivery ≠ none)
      (reserveFromBroker config bindings) w := by
  simp only [reserveFromBroker, Prog.bind_def]
  refine Succeeds.bind (succeeds_keeping (ensureRegisteredRoutesLoaded_succeeds found
    reach.listed ⟨behind, reach.waiting⟩)
    (ensureRegisteredRoutesLoaded_found found)) ?_
  rintro _ u ⟨⟨offers, served, known⟩, found⟩
  refine .call ?_
  rintro adapter w ⟨⟨rfl, rfl⟩, -⟩
  exact reserveRoutes_succeeds _ found offers.behind (mem_orderedRoutes.2 ⟨served, allowed⟩) known
    offers.waiting

end Operations

section Still

/-- The moments at which just what is said has gone stale. -/
def Current (idle : String → Redis.EntryId → Bool) (moment : Redis.Moment) :
    Redis.Cmd RedisPayload → Prop
  | .xautoclaim key _ => moment.idle = idle key
  | _ => True

/-- The server at one moment: nothing goes stale during a call, and no time passes. -/
def redisAt (now : UInt64) (idle : String → Redis.EntryId → Bool) :
    Handler RedisWorld RedisOp RedisOp.Answer
  | w, .command c, .ok reply, u => ∃ moment keys, Current idle moment c ∧
      w.keys.execute moment c = .ok (reply, keys) ∧
      u = { w with keys := keys, promoting := promotingAfter c reply w.promoting }
  | w, .nowMs, time, u => time = now ∧ u = w
  | w, op, answer, u => redis w op answer u

theorem redisSince_of_redisAt {now : UInt64} {idle : String → Redis.EntryId → Bool} {w u : RedisWorld}
    {op : RedisOp} {answer : op.Answer} (answered : redisAt now idle w op answer u) :
    redisSince now idle w op answer u := by
  cases op with
  | command c =>
    cases answer with
    | error error => exact answered
    | ok reply =>
      obtain ⟨moment, keys, current, executed, same⟩ := answered
      refine ⟨moment, keys, ?_, executed, same⟩
      cases c with
      | xautoclaim key group => exact fun id idled => (congrFun current id).trans idled
      | _ => trivial
  | nowMs => exact ⟨answered.1 ▸ le_rfl, answered.2⟩
  | _ => exact answered

/-- Keyspaces in which the same waits for every group and every retry. -/
structure SameWork (keys keys' : Redis.Keyspace RedisPayload) : Prop where
  contents : keys'.contents = keys.contents
  groups : ∀ key group, keys'.groupOf key group = keys.groupOf key group
  due : ∀ key max, keys'.dueAt key max = keys.dueAt key max

/-- A call or a part of one that leaves what waits, and the catalog, as they are. -/
def Leaves (w u : RedisWorld) : Prop :=
  SameWork w.keys u.keys ∧ u.adapter.routes = w.adapter.routes

variable {now : UInt64} {idle : String → Redis.EntryId → Bool} {topology : RedisRouteTopology}
  {w u v : RedisWorld}

theorem SameWork.refl (keys : Redis.Keyspace RedisPayload) : SameWork keys keys :=
  ⟨rfl, fun _ _ => rfl, fun _ _ => rfl⟩

theorem Leaves.refl (w : RedisWorld) : Leaves w w := ⟨.refl _, rfl⟩

theorem Leaves.trans (first : Leaves w u) (second : Leaves u v) : Leaves w v where
  left :=
    { contents := second.1.contents.trans first.1.contents
      groups := fun key group => (second.1.groups key group).trans (first.1.groups key group)
      due := fun key max => (second.1.due key max).trans (first.1.due key max) }
  right := second.2.trans first.2

/-- What waits in one of two keyspaces with the same work waits in the other. -/
theorem SameWork.waiting {keys keys' : Redis.Keyspace RedisPayload} (same : SameWork keys keys')
    (waiting : Waiting now idle topology keys') : Waiting now idle topology keys := by
  cases waiting with
  | stream out =>
    cases out with
    | new stored next => exact .stream (.new (same.contents ▸ stored) (by rwa [← same.groups]))
    | stale stored reached idled =>
      refine .stream (.stale (same.contents ▸ stored) ?_ idled)
      rwa [Redis.Keyspace.Reaches, same.groups, same.contents] at reached
  | due due => exact .due (by rwa [← same.due])

theorem SameWork.whole {keys keys' : Redis.Keyspace RedisPayload} (same : SameWork keys keys')
    {key group : String} (whole : keys.Whole key group) : keys'.Whole key group := by
  rwa [Redis.Keyspace.Whole, same.groups, same.contents]

/-- A program whose results have a property, whatever is answered at one moment. -/
abbrev Yields {α : Type} (now : UInt64) (idle : String → Redis.EntryId → Bool)
    (Q : α → RedisWorld → Prop) (p : RedisProg α) (w : RedisWorld) : Prop :=
  Meets (redisAt now idle) Q (fun _ => True) p w

theorem connection_yields : Yields now idle (fun _ u => u = w) connection w := by
  refine Meets.call ?_
  rintro (error | ⟨⟩) u answered
  · exact Meets.fail trivial
  · exact Meets.ret answered

theorem nowMs_yields : Yields now idle (fun time u => time = now ∧ u = w) nowMs w :=
  Meets.call fun _ _ answered => Meets.ret answered

theorem modifyAdapter_yields {α : Type}
    {change : RedisStreamsBrokerAdapter → α × RedisStreamsBrokerAdapter} :
    Yields now idle (fun _ u => u = { w with adapter := (change w.adapter).2 })
      (modifyAdapter change) w := by
  refine Meets.call ?_
  rintro adapter u ⟨rfl, rfl⟩
  refine Meets.call ?_
  rintro ⟨⟩ v answered
  exact Meets.ret answered

theorem decode_yields {α : Type} {read : RedisPayload → Option α} {payload : RedisPayload} :
    Yields now idle (fun a u => read payload = some a ∧ u = w) (decode read payload) w := by
  refine Meets.call ?_
  rintro parses u answered
  split
  · next value readable => exact Meets.ret ⟨readable, answered⟩
  · exact Meets.fail trivial

theorem query_yields {c : Redis.Cmd RedisPayload} {message : String}
    {Q : c.Reply → RedisWorld → Prop}
    (done : ∀ moment reply keys, Current idle moment c →
      w.keys.execute moment c = .ok (reply, keys) →
      Q reply { w with keys := keys, promoting := promotingAfter c reply w.promoting }) :
    Yields now idle Q (query c message) w := by
  refine Meets.call ?_
  rintro (error | reply) u answered
  · exact Meets.fail trivial
  · obtain ⟨moment, keys, current, executed, rfl⟩ := answered
    exact Meets.ret (done moment reply keys current executed)

theorem ensureTopology_yields : Yields now idle (fun _ u => Leaves w u)
    (ensureTopology topology) w := by
  refine connection_yields.bind ?_
  rintro _ v rfl
  refine Meets.call ?_
  rintro (error | ⟨⟩) u answered
  · obtain rfl : u = v := answered
    dsimp only
    split_ifs
    · exact Meets.ret (.refl u)
    · exact Meets.fail trivial
  · obtain ⟨moment, keys, -, executed, rfl⟩ := answered
    refine Meets.ret ⟨?_, rfl⟩
    exact
      { contents := Redis.xgroupCreateMkstream_spec executed
        groups := Redis.groupOf_quiet (by trivial) executed
        due := fun key => Redis.dueAt_spared (by trivial) executed }

/-- Where nothing is due, nothing is promoted. -/
theorem promoteDueRetries_yields (nothing : w.keys.dueAt topology.delayedKey (asIsize now) = []) :
    Yields now idle (fun _ u => Leaves w u) (promoteDueRetries topology) w := by
  simp only [promoteDueRetries, Prog.bind_def]
  refine connection_yields.bind ?_
  rintro _ v rfl
  refine nowMs_yields.bind ?_
  rintro time u ⟨rfl, rfl⟩
  refine Meets.bind (query_yields (c := .zrangebyscore topology.delayedKey (asIsize time) 32)
    (Q := fun (payloads : List RedisPayload) x => payloads = [] ∧ Leaves u x) ?_) ?_
  · intro moment payloads keys _ executed
    obtain ⟨same, -⟩ := Redis.zrangebyscore_spec executed
    refine ⟨?_, ⟨same ▸ .refl _, rfl⟩⟩
    refine List.eq_nil_iff_forall_not_mem.2 fun member found => ?_
    have due := Redis.dueAt_of_zrangebyscore executed found
    rw [nothing] at due
    cases due
  · rintro payloads x ⟨rfl, leaves⟩
    exact Meets.ret leaves

/-- Where nothing is within reach, nothing is claimed, and nothing is dropped while all pending
ids have their entries. -/
theorem reclaimStaleDelivery_yields (nothing : ¬ Waiting now idle topology w.keys)
    (whole : w.keys.Whole topology.streamKey topology.consumerGroup) :
    Yields now idle (fun found u => found = none ∧ Leaves w u)
      (reclaimStaleDelivery config topology) w := by
  simp only [reclaimStaleDelivery, Prog.bind_def, Prog.pure_def]
  refine connection_yields.bind ?_
  rintro _ v rfl
  refine Meets.bind (query_yields (c := .xautoclaim topology.streamKey topology.consumerGroup)
    (Q := fun (claimed : Option (Redis.EntryId × RedisPayload)) u =>
      claimed = none ∧ Leaves v u) ?_) ?_
  · intro moment claimed keys current executed
    obtain ⟨contents, held⟩ := Redis.xautoclaim_spec executed
    have same : SameWork v.keys keys := ⟨contents, Redis.xautoclaim_whole whole executed,
      fun key => Redis.dueAt_spared (by trivial) executed⟩
    cases claimed with
    | none => exact ⟨rfl, same, rfl⟩
    | some entry =>
      obtain ⟨among, idled⟩ := (Redis.xautoclaim_groupOf executed).2.1 entry rfl
      have stale : idle topology.streamKey entry.1 = true := (congrFun current entry.1).symm.trans idled
      exact absurd (.stream (.stale (held entry rfl) (whole.reaches among) stale)) nothing
  · rintro _ u ⟨rfl, leaves⟩
    exact Meets.ret ⟨rfl, leaves⟩

theorem reserveNew_yields {route : Route} (nothing : ¬ Waiting now idle topology w.keys) :
    Yields now idle (fun found u => found = none ∧ Leaves w u)
      (reserveNew config route topology) w := by
  simp only [reserveNew, Prog.bind_def, Prog.pure_def]
  refine connection_yields.bind ?_
  rintro _ v rfl
  refine Meets.bind (query_yields (c := .xreadgroup topology.streamKey topology.consumerGroup)
    (Q := fun (first : Option (Redis.EntryId × RedisPayload)) u => first = none ∧ Leaves v u) ?_) ?_
  · intro moment first keys _ executed
    have handed := Redis.xreadgroup_groupOf executed
    cases first with
    | none => exact ⟨rfl, handed.1 ▸ .refl _, rfl⟩
    | some entry =>
      exact absurd (.stream (.new handed.1 (Redis.xreadgroup_later executed))) nothing
  · rintro _ u ⟨rfl, leaves⟩
    exact Meets.ret ⟨rfl, leaves⟩

/-- A route that has nothing within reach hands nothing out and changes nothing. -/
theorem reserveRoute_yields {route : Route} (nothing : ¬ Waiting now idle topology w.keys)
    (whole : w.keys.Whole topology.streamKey topology.consumerGroup) :
    Yields now idle (fun found u => found = none ∧ Leaves w u)
      (reserveRoute config route topology) w := by
  simp only [reserveRoute, Prog.bind_def, Prog.pure_def]
  refine ensureTopology_yields.bind ?_
  intro _ u ensured
  have undue : u.keys.dueAt topology.delayedKey (asIsize now) = [] := by
    rw [List.eq_nil_iff_forall_not_mem]
    intro member due
    exact nothing (ensured.1.waiting (.due due))
  refine (promoteDueRetries_yields undue).bind ?_
  intro _ v promoted
  have before := ensured.trans promoted
  refine Meets.bind (reclaimStaleDelivery_yields (fun waiting => nothing (before.1.waiting waiting))
    (before.1.whole whole)) ?_
  rintro _ x ⟨rfl, reclaimed⟩
  have before := before.trans reclaimed
  refine (reserveNew_yields fun waiting => nothing (before.1.waiting waiting)).mono ?_ fun _ _ => trivial
  rintro found y ⟨none, leaves⟩
  exact ⟨none, before.trans leaves⟩

theorem reserveRoutes_yields (order : List Route) {w : RedisWorld}
    (nothing : ∀ route ∈ order, ∀ topology, w.adapter.routes.get route = some topology →
      ¬ Waiting now idle topology w.keys ∧
        w.keys.Whole topology.streamKey topology.consumerGroup) :
    Yields now idle (fun found _ => found = none) (reserveRoutes config order) w := by
  induction order generalizing w with
  | nil => exact Meets.ret rfl
  | cons first rest ih =>
    simp only [reserveRoutes, currentAdapter, Prog.bind_def, Prog.pure_def, Prog.bind]
    refine Meets.call ?_
    rintro adapter w ⟨rfl, rfl⟩
    obtain ⟨here, later⟩ := List.forall_mem_cons.1 nothing
    cases get : w.adapter.routes.get first with
    | none => exact ih later
    | some topology =>
      obtain ⟨empty, whole⟩ := here topology get
      refine (reserveRoute_yields empty whole).bind ?_
      rintro _ u ⟨rfl, leaves⟩
      refine ih fun route mem topology get => ?_
      rw [leaves.2] at get
      obtain ⟨empty, whole⟩ := later route mem topology get
      exact ⟨fun waiting => empty (leaves.1.waiting waiting), leaves.1.whole whole⟩

/-- The catalog of an adapter knows registered routes only. -/
def Catalogued (config : RedisStreamsQueueConfig) (contents : Redis.Contents RedisPayload)
    (catalog : RouteCatalog RedisRouteTopology) : Prop :=
  ∀ route topology, catalog.get route = some topology →
    topology = topologyOf config route ∧ Listed config contents route

theorem Catalogued.registerRoute {contents : Redis.Contents RedisPayload}
    {catalog : RouteCatalog RedisRouteTopology} {route : Route}
    (registered : Catalogued config contents catalog) (listed : Listed config contents route) :
    Catalogued config contents (catalog.registerRoute route (topologyOf config route)) := by
  intro other topology get
  simp only [RouteCatalog.registerRoute, RouteCatalog.get] at get
  split at get
  · exact registered other topology get
  · rcases of_lookup_insert get with ⟨rfl, rfl⟩ | ⟨-, old⟩
    · exact ⟨rfl, listed⟩
    · exact registered other topology old

theorem loadRoutes_yields (payloads : List RedisPayload) {w : RedisWorld}
    (listed : ∀ payload ∈ payloads, ∃ entry : RedisRouteRegistryEntry, payload = .route entry ∧
      Listed config w.keys.contents (entry.queue, entry.lane))
    (registered : Catalogued config w.keys.contents w.adapter.routes) :
    Yields now idle (fun _ u => SameWork w.keys u.keys ∧
      Catalogued config w.keys.contents u.adapter.routes) (loadRoutes config payloads) w := by
  induction payloads generalizing w with
  | nil => exact Meets.ret ⟨.refl _, registered⟩
  | cons payload rest ih =>
    simp only [loadRoutes, Prog.bind_def]
    obtain ⟨⟨entry, rfl, known⟩, later⟩ := List.forall_mem_cons.1 listed
    refine decode_yields.bind ?_
    rintro _ v ⟨⟨⟩, rfl⟩
    refine ensureTopology_yields.bind ?_
    intro _ u ensured
    refine modifyAdapter_yields.bind ?_
    rintro _ x rfl
    have contents := ensured.1.contents
    refine (ih ?_ ?_).mono ?_ fun _ _ => trivial
    · rwa [contents]
    · dsimp only
      rw [contents, ensured.2]
      exact registered.registerRoute known
    · rintro _ y ⟨same, registered⟩
      rw [contents] at registered
      exact ⟨(Leaves.trans (u := u) (v := { u with keys := y.keys }) ensured ⟨same, rfl⟩).1, registered⟩

/-- An adapter that has just connected finds nothing when no allowed route has anything within
reach. -/
theorem reserveFromBroker_yields {bindings : List RuntimeRouteBinding}
    (findable : Findable config w.keys.contents) (fresh : w.adapter = .new)
    (nothing : ∀ route, Allows bindings route → ¬ Reach config now idle w.keys route)
    (whole : ∀ route, Allows bindings route → w.keys.Whole (topologyOf config route).streamKey
      (topologyOf config route).consumerGroup) :
    Yields now idle (fun found _ => found = none) (reserveFromBroker config bindings) w := by
  simp only [reserveFromBroker, ensureRegisteredRoutesLoaded, Prog.bind_def, Prog.bind_assoc]
  refine connection_yields.bind ?_
  rintro _ v rfl
  refine Meets.bind (query_yields (c := .smembers (redisRouteRegistryKey config))
    (Q := fun (entries : List RedisPayload) u => u.keys = v.keys ∧ u.adapter = v.adapter ∧
      entries = v.keys.contents.listed (redisRouteRegistryKey config)) ?_) ?_
  · intro moment entries keys _ executed
    obtain ⟨same, members⟩ := Redis.smembers_spec executed
    exact ⟨same, rfl, members⟩
  · rintro entries u ⟨keys, adapter, rfl⟩
    have empty : Catalogued config u.keys.contents u.adapter.routes := by
      rw [adapter, fresh]
      intro route topology get
      cases get
    have listed : ∀ payload ∈ v.keys.contents.listed (redisRouteRegistryKey config),
        ∃ entry : RedisRouteRegistryEntry, payload = .route entry ∧
          Listed config u.keys.contents (entry.queue, entry.lane) := by
      intro payload mem
      obtain ⟨entry, rfl⟩ := findable.registry _ payload mem
      exact ⟨entry, rfl, keys ▸ mem⟩
    refine (loadRoutes_yields _ listed empty).bind ?_
    rintro _ x ⟨same, registered⟩
    rw [keys] at same registered
    refine Meets.call ?_
    rintro adapter w ⟨rfl, rfl⟩
    refine reserveRoutes_yields _ ?_
    intro route mem topology get
    obtain ⟨rfl, listed⟩ := registered route topology get
    have allowed := (mem_orderedRoutes.1 mem).2
    exact ⟨fun waiting => nothing route allowed ⟨listed, same.waiting waiting⟩,
      same.whole (whole route allowed)⟩

end Still

section Obstructed

variable {topology : RedisRouteTopology}

/-- The programs that an obstruction ends. -/
abbrev Obstructable {α : Type} (p : RedisProg α) : Prop := p.FailsAt obstructs

theorem connection_obstructable : Obstructable connection := by
  refine .call ?_ ?_
  · rintro (error | ⟨⟩) bad
    · exact ⟨_, rfl⟩
    · cases bad
  · rintro (error | ⟨⟩)
    · exact .fail
    · exact .ret

theorem query_obstructable {c : Redis.Cmd RedisPayload} {message : String} :
    Obstructable (query c message) := by
  refine .call ?_ ?_
  · rintro (error | reply) bad
    · exact ⟨_, rfl⟩
    · cases c <;> cases bad
  · rintro (error | reply)
    · exact .fail
    · exact .ret

theorem decode_obstructable {α : Type} {read : RedisPayload → Option α} {payload : RedisPayload} :
    Obstructable (decode read payload) := by
  refine .call ?_ fun parses => ?_
  · rintro (_ | _) bad
    · exact ⟨.internal, rfl⟩
    · cases bad
  · split
    · exact .ret
    · exact .fail

theorem nowMs_obstructable : Obstructable nowMs := .call (fun _ bad => nomatch bad) fun _ => .ret

theorem modifyAdapter_obstructable {α : Type}
    {change : RedisStreamsBrokerAdapter → α × RedisStreamsBrokerAdapter} :
    Obstructable (modifyAdapter change) :=
  .call (fun _ bad => nomatch bad) fun _ => .call (fun _ bad => nomatch bad) fun _ => .ret

theorem ensureTopology_obstructable : Obstructable (ensureTopology topology) := by
  refine connection_obstructable.bind fun _ => .call ?_ ?_
  · rintro (error | ⟨⟩) bad
    · have other : redisConflictError error = false := by simpa [obstructs] using bad
      exact ⟨_, if_neg (by rw [other]; decide)⟩
    · cases bad
  · rintro (error | ⟨⟩)
    · dsimp only
      split_ifs
      · exact .ret
      · exact .fail
    · exact .ret

theorem publishEnvelope_obstructable {envelope : RedisEnvelope} :
    Obstructable (publishEnvelope topology envelope) :=
  ensureTopology_obstructable.bind fun _ => connection_obstructable.bind fun _ =>
    query_obstructable.bind fun _ => .ret

theorem loadRoutes_obstructable (payloads : List RedisPayload) :
    Obstructable (loadRoutes config payloads) := by
  induction payloads with
  | nil => exact .ret
  | cons payload rest ih =>
    refine decode_obstructable.bind fun entry => ?_
    exact ensureTopology_obstructable.bind fun _ => modifyAdapter_obstructable.bind fun _ => ih

theorem promote_obstructable (payloads : List RedisPayload) :
    Obstructable (promote topology payloads) := by
  induction payloads with
  | nil => exact .ret
  | cons payload rest ih =>
    refine Prog.FailsAt.bind query_obstructable fun removed => ?_
    split_ifs
    · exact ih
    · refine decode_obstructable.bind fun delayed => ?_
      exact publishEnvelope_obstructable.bind fun _ => ih

theorem lease_obstructable {message : Redis.EntryId × RedisPayload} :
    Obstructable (lease config topology message) :=
  decode_obstructable.bind fun _ => nowMs_obstructable.bind fun _ => modifyAdapter_obstructable

theorem reserveRoute_obstructable {route : Route} :
    Obstructable (reserveRoute config route topology) := by
  refine ensureTopology_obstructable.bind fun _ => Prog.FailsAt.bind ?_ fun _ => ?_
  · refine connection_obstructable.bind fun _ => nowMs_obstructable.bind fun now => ?_
    exact query_obstructable.bind fun payloads => promote_obstructable payloads
  · refine Prog.FailsAt.bind (connection_obstructable.bind fun _ =>
      query_obstructable.bind ?_) ?_
    · rintro (_ | message)
      · exact .ret
      · exact lease_obstructable.bind fun _ => .ret
    · rintro (_ | delivery)
      · refine connection_obstructable.bind fun _ => query_obstructable.bind ?_
        rintro (_ | message)
        · exact .ret
        · exact modifyAdapter_obstructable.bind fun _ => lease_obstructable.bind fun _ => .ret
      · exact modifyAdapter_obstructable.bind fun _ => .ret

theorem reserveRoutes_obstructable (order : List Route) :
    Obstructable (reserveRoutes config order) := by
  induction order with
  | nil => exact .ret
  | cons route rest ih =>
    simp only [reserveRoutes, currentAdapter, Prog.bind_def, Prog.pure_def, Prog.bind]
    refine Prog.FailsAt.call ?_ fun adapter => ?_
    · intro _ bad
      cases bad
    cases adapter.routes.get route with
    | none => exact ih
    | some topology =>
      refine reserveRoute_obstructable.bind ?_
      rintro (_ | delivery)
      · exact ih
      · exact .ret

theorem reserveFromBroker_obstructable {bindings : List RuntimeRouteBinding} :
    Obstructable (reserveFromBroker config bindings) := by
  refine Prog.FailsAt.bind ?_ fun _ => .call (fun _ bad => nomatch bad) fun adapter =>
    reserveRoutes_obstructable _
  refine connection_obstructable.bind fun _ => ?_
  exact query_obstructable.bind fun entries => loadRoutes_obstructable entries

end Obstructed

end RedisStreams

end NexusCore.Runtime
