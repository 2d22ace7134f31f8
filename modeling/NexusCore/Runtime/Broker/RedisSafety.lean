import NexusCore.Lib.System
import NexusCore.Runtime.Broker.Redis

/-!
# No task is lost in Redis

A task that was enqueued stays in the structures of its route until it is acknowledged: its
work stream, its sorted set of delayed retries, or its dead-letter stream. Every call moves a
task by writing the new copy before it deletes the old one, with one exception: the promotion
of a due retry removes the retry from the sorted set first, so that a promotion that is cut
short between the two commands leaves the task nowhere.

The promoted retries that have not been published are recorded beside the keyspace. A task is
always in its route's structures or among them.
-/

namespace NexusCore.Runtime

open NexusCore.Lib

namespace RedisStreams

variable {config : RedisStreamsQueueConfig} {routes : Set Route}

/-- The topology of a route. -/
def topologyOf (config : RedisStreamsQueueConfig) (route : Route) : RedisRouteTopology :=
  buildRedisRouteTopology config route.1 route.2

/-- No work stream of the routes bears the name of a dead-letter stream of theirs. -/
def KeysApart (config : RedisStreamsQueueConfig) (routes : Set Route) : Prop :=
  ∀ a ∈ routes, ∀ b ∈ routes,
    (topologyOf config a).streamKey ≠ (topologyOf config b).deadLetterStreamKey

section Names

variable {a b : Route}

theorem deadLetterStreamKey_eq (a : Route) :
    (topologyOf config a).deadLetterStreamKey = (topologyOf config a).streamKey ++ ".dead" := rfl

theorem delayedKey_eq (a : Route) :
    (topologyOf config a).delayedKey = (topologyOf config a).streamKey ++ ".retry" := rfl

@[simp] theorem deadLetterStreamKey_inj :
    (topologyOf config a).deadLetterStreamKey = (topologyOf config b).deadLetterStreamKey ↔
      (topologyOf config a).streamKey = (topologyOf config b).streamKey := by
  rw [deadLetterStreamKey_eq, deadLetterStreamKey_eq, String.append_left_inj]

@[simp] theorem delayedKey_inj :
    (topologyOf config a).delayedKey = (topologyOf config b).delayedKey ↔
      (topologyOf config a).streamKey = (topologyOf config b).streamKey := by
  rw [delayedKey_eq, delayedKey_eq, String.append_left_inj]

end Names

section Contents

variable {c c' : Redis.Contents RedisPayload} {key key' : String} {id id' : Redis.EntryId}
  {payload : RedisPayload} {task other : RuntimeTask}

/-- Where a payload may stand in a stream. -/
def EntryPlaced (config : RedisStreamsQueueConfig) (routes : Set Route) (key : String) :
    RedisPayload → Prop
  | .envelope e => e.task.route ∈ routes ∧ key = (topologyOf config e.task.route).streamKey
  | .record r =>
    r.task.route ∈ routes ∧ key = (topologyOf config r.task.route).deadLetterStreamKey
  | .delayed _ | .route _ => False

/-- Where a payload may stand in a sorted set. -/
def MemberPlaced (config : RedisStreamsQueueConfig) (routes : Set Route) (key : String) :
    RedisPayload → Prop
  | .delayed d =>
    d.envelope.task.route ∈ routes ∧ key = (topologyOf config d.envelope.task.route).delayedKey
  | .envelope _ | .record _ | .route _ => False

/-- A member of the route registry. -/
def Registered (routes : Set Route) : RedisPayload → Prop
  | .route entry => (entry.queue, entry.lane) ∈ routes
  | .envelope _ | .delayed _ | .record _ => False

/-- Every payload stands where the adapter put it. -/
structure Placed (config : RedisStreamsQueueConfig) (routes : Set Route)
    (c : Redis.Contents RedisPayload) : Prop where
  entries : ∀ key, ∀ entry ∈ c.entries key, EntryPlaced config routes key entry.2
  scheduled : ∀ key, ∀ member ∈ c.scheduled key, MemberPlaced config routes key member
  listed : ∀ key, ∀ member ∈ c.listed key, Registered routes member

/-- The entry with an id, if it is still there, carries a task. -/
def Carries (c : Redis.Contents RedisPayload) (key : String) (id : Redis.EntryId)
    (task : RuntimeTask) : Prop :=
  id ≤ c.lastId key ∧ ∀ payload, (id, payload) ∈ c.entries key → payload.task? = some task

/-- A copy of the task is in the work stream, the sorted set of delayed retries, or the
dead-letter stream of its route. -/
def Present (config : RedisStreamsQueueConfig) (c : Redis.Contents RedisPayload)
    (task : RuntimeTask) : Prop :=
  (∃ entry ∈ c.entries (topologyOf config task.route).streamKey, entry.2.task? = some task) ∨
  (∃ member ∈ c.scheduled (topologyOf config task.route).delayedKey,
    member.task? = some task) ∨
  ∃ entry ∈ c.entries (topologyOf config task.route).deadLetterStreamKey,
    entry.2.task? = some task

@[simp] theorem mem_entries_append {entry : Redis.EntryId × RedisPayload} :
    entry ∈ (c.append key id payload).entries key' ↔
      entry ∈ c.entries key' ∨ key' = key ∧ entry = (id, payload) := by
  by_cases same : key' = key
  · subst same
    simp [Redis.Contents.append]
  · simp [Redis.Contents.append, same]

@[simp] theorem mem_entries_delete {entry : Redis.EntryId × RedisPayload} :
    entry ∈ (c.delete key id).entries key' ↔
      entry ∈ c.entries key' ∧ (key' = key → entry.1 ≠ id) := by
  by_cases same : key' = key
  · subst same
    simp [Redis.Contents.delete]
  · simp [Redis.Contents.delete, same]

@[simp] theorem mem_scheduled_schedule {member : RedisPayload} :
    member ∈ (c.schedule key payload).scheduled key' ↔
      member ∈ c.scheduled key' ∨ key' = key ∧ member = payload := by
  by_cases same : key' = key
  · subst same
    by_cases old : payload ∈ c.scheduled key'
    · have : member = payload → member ∈ c.scheduled key' := fun same => same ▸ old
      simpa [Redis.Contents.schedule, old] using this
    · simp [Redis.Contents.schedule, old]
  · simp [Redis.Contents.schedule, same]

@[simp] theorem mem_scheduled_unschedule {member : RedisPayload} :
    member ∈ (c.unschedule key payload).scheduled key' ↔
      member ∈ c.scheduled key' ∧ (key' = key → member ≠ payload) := by
  by_cases same : key' = key
  · subst same
    simp [Redis.Contents.unschedule]
  · simp [Redis.Contents.unschedule, same]

@[simp] theorem mem_listed_enlist {member : RedisPayload} :
    member ∈ (c.enlist key payload).listed key' ↔
      member ∈ c.listed key' ∨ key' = key ∧ member = payload := by
  by_cases same : key' = key
  · subst same
    simp [Redis.Contents.enlist, or_comm]
  · simp [Redis.Contents.enlist, same]

theorem Placed.append (placed : Placed config routes c)
    (home : EntryPlaced config routes key payload) :
    Placed config routes (c.append key id payload) where
  entries key' entry mem := by
    rcases mem_entries_append.1 mem with old | ⟨rfl, rfl⟩
    · exact placed.entries key' entry old
    · exact home
  scheduled := placed.scheduled
  listed := placed.listed

theorem Placed.delete (placed : Placed config routes c) :
    Placed config routes (c.delete key id) where
  entries key' entry mem := placed.entries key' entry (mem_entries_delete.1 mem).1
  scheduled := placed.scheduled
  listed := placed.listed

theorem Placed.schedule (placed : Placed config routes c)
    (home : MemberPlaced config routes key payload) :
    Placed config routes (c.schedule key payload) where
  entries := placed.entries
  scheduled key' member mem := by
    rcases mem_scheduled_schedule.1 mem with old | ⟨rfl, rfl⟩
    · exact placed.scheduled key' member old
    · exact home
  listed := placed.listed

theorem Placed.unschedule (placed : Placed config routes c) :
    Placed config routes (c.unschedule key payload) where
  entries := placed.entries
  scheduled key' member mem := placed.scheduled key' member (mem_scheduled_unschedule.1 mem).1
  listed := placed.listed

theorem Placed.enlist (placed : Placed config routes c) (home : Registered routes payload) :
    Placed config routes (c.enlist key payload) where
  entries := placed.entries
  scheduled := placed.scheduled
  listed key' member mem := by
    rcases mem_listed_enlist.1 mem with old | ⟨rfl, rfl⟩
    · exact placed.listed key' member old
    · exact home

theorem Carries.append (carries : Carries c key id task) (fresh : c.lastId key' < id') :
    Carries (c.append key' id' payload) key id task := by
  by_cases same : key = key'
  · subst same
    have older : id < id' := carries.1.trans_lt fresh
    refine ⟨by simpa [Redis.Contents.append] using older.le, ?_⟩
    intro payload' mem
    rcases mem_entries_append.1 mem with old | ⟨-, new⟩
    · exact carries.2 payload' old
    · exact absurd (congrArg Prod.fst new) older.ne
  · refine ⟨by simpa [Redis.Contents.append, same] using carries.1, ?_⟩
    intro payload' mem
    exact carries.2 payload' ((mem_entries_append.1 mem).resolve_right fun new => same new.1)

theorem Carries.delete (carries : Carries c key id task) :
    Carries (c.delete key' id') key id task :=
  ⟨carries.1, fun payload mem => carries.2 payload (mem_entries_delete.1 mem).1⟩

/-- An entry of a stream carries its own task, since ids are unique. -/
theorem carries_of_mem {keys : Redis.Keyspace RedisPayload}
    (mem : (id, payload) ∈ keys.contents.entries key) (holds : payload.task? = some task) :
    Carries keys.contents key id task := by
  refine ⟨Redis.contents_ids_bounded keys key _ mem, ?_⟩
  intro payload' mem'
  have same := List.inj_on_of_nodup_map (Redis.contents_ids_unique keys key) mem mem' rfl
  rw [← (Prod.mk.inj same).2]
  exact holds

theorem Present.append (present : Present config c task) :
    Present config (c.append key id payload) task := by
  rcases present with ⟨entry, mem, holds⟩ | scheduled | ⟨entry, mem, holds⟩
  · exact .inl ⟨entry, mem_entries_append.2 (.inl mem), holds⟩
  · exact .inr (.inl scheduled)
  · exact .inr (.inr ⟨entry, mem_entries_append.2 (.inl mem), holds⟩)

/-- A payload that is added in its place makes its task present. -/
theorem present_append_new (home : EntryPlaced config routes key payload)
    (holds : payload.task? = some task) : Present config (c.append key id payload) task := by
  cases payload with
  | envelope e =>
    cases holds
    exact .inl ⟨(id, .envelope e), mem_entries_append.2 (.inr ⟨home.2.symm, rfl⟩), rfl⟩
  | record r =>
    cases holds
    exact .inr (.inr ⟨(id, .record r), mem_entries_append.2 (.inr ⟨home.2.symm, rfl⟩), rfl⟩)
  | delayed d => exact home.elim
  | route entry => exact home.elim

theorem Present.schedule (present : Present config c task) :
    Present config (c.schedule key payload) task := by
  rcases present with entry | ⟨member, mem, holds⟩ | entry
  · exact .inl entry
  · exact .inr (.inl ⟨member, mem_scheduled_schedule.2 (.inl mem), holds⟩)
  · exact .inr (.inr entry)

theorem present_schedule_new (home : MemberPlaced config routes key payload)
    (holds : payload.task? = some task) : Present config (c.schedule key payload) task := by
  cases payload with
  | delayed d =>
    cases holds
    exact .inr (.inl ⟨.delayed d, mem_scheduled_schedule.2 (.inr ⟨home.2.symm, rfl⟩), rfl⟩)
  | envelope e => exact home.elim
  | record r => exact home.elim
  | route entry => exact home.elim

theorem Present.unschedule (present : Present config c task) (apart : payload.task? ≠ some task) :
    Present config (c.unschedule key payload) task := by
  rcases present with entry | ⟨member, mem, holds⟩ | entry
  · exact .inl entry
  · refine .inr (.inl ⟨member, mem_scheduled_unschedule.2 ⟨mem, fun _ => ?_⟩, holds⟩)
    rintro rfl
    exact apart holds
  · exact .inr (.inr entry)

/-- Deleting the entry of one task leaves the others where they are. -/
theorem Present.delete (present : Present config c other) (carries : Carries c key id task)
    (apart : other ≠ task) : Present config (c.delete key id) other := by
  have stays : ∀ key', ∀ entry ∈ c.entries key', entry.2.task? = some other →
      entry ∈ (c.delete key id).entries key' := by
    rintro key' ⟨id', payload⟩ mem holds
    refine mem_entries_delete.2 ⟨mem, ?_⟩
    rintro rfl rfl
    exact apart (Option.some.inj (holds.symm.trans (carries.2 payload mem)))
  rcases present with ⟨entry, mem, holds⟩ | scheduled | ⟨entry, mem, holds⟩
  · exact .inl ⟨entry, stays _ entry mem holds, holds⟩
  · exact .inr (.inl scheduled)
  · exact .inr (.inr ⟨entry, stays _ entry mem holds, holds⟩)

/-- An entry that is added besides another one keeps its task present without the other. -/
theorem present_append_delete (home : EntryPlaced config routes key payload)
    (holds : payload.task? = some task) (apart : key = key' → id ≠ id') :
    Present config ((c.append key id payload).delete key' id') task := by
  have stays : (id, payload) ∈ ((c.append key id payload).delete key' id').entries key :=
    mem_entries_delete.2 ⟨mem_entries_append.2 (.inr ⟨rfl, rfl⟩), apart⟩
  cases payload with
  | envelope e =>
    cases holds
    obtain ⟨-, rfl⟩ := home
    exact .inl ⟨_, stays, rfl⟩
  | record r =>
    cases holds
    obtain ⟨-, rfl⟩ := home
    exact .inr (.inr ⟨_, stays, rfl⟩)
  | delayed d => exact home.elim
  | route entry => exact home.elim

theorem unschedule_of_notMem (missing : payload ∉ c.scheduled key) : c.unschedule key payload = c := by
  have same : (c.scheduled key).filter (· ≠ payload) = c.scheduled key :=
    List.filter_eq_self.2 fun member mem => by
      have : member ≠ payload := fun same => missing (same ▸ mem)
      simpa using this
  rw [Redis.Contents.unschedule, same, Function.update_eq_self]

end Contents

/-- A lease of an entry in a work stream of the task's own route. -/
structure LeaseSound (config : RedisStreamsQueueConfig) (routes : Set Route)
    (c : Redis.Contents RedisPayload) (leased : RedisLeasedDelivery) : Prop where
  route : leased.delivery.task.route ∈ routes
  topology : ∃ route ∈ routes, leased.topology = topologyOf config route ∧
    (topologyOf config route).streamKey =
      (topologyOf config leased.delivery.task.route).streamKey
  carries : Carries c leased.topology.streamKey leased.entryId leased.delivery.task

theorem LeaseSound.imp {c c' : Redis.Contents RedisPayload} {leased : RedisLeasedDelivery}
    (sound : LeaseSound config routes c leased)
    (carries : Carries c leased.topology.streamKey leased.entryId leased.delivery.task →
      Carries c' leased.topology.streamKey leased.entryId leased.delivery.task) :
    LeaseSound config routes c' leased :=
  ⟨sound.route, sound.topology, carries sound.carries⟩

/-- The server, the memory of the adapter, and the retries that left their sorted set and have
not been published. -/
structure RedisWorld where
  keys : Redis.Keyspace RedisPayload
  adapter : RedisStreamsBrokerAdapter
  promoting : List RuntimeTask

/-- The promoted retries after a command that succeeded. -/
def promotingAfter : (c : Redis.Cmd RedisPayload) → c.Reply → List RuntimeTask → List RuntimeTask
  | .zrem _ (.delayed d), (removed : Nat), tasks =>
    if removed = 0 then tasks else d.envelope.task :: tasks
  | .xadd _ (.envelope e), _, tasks => tasks.filter (· ≠ e.task)
  | _, _, tasks => tasks

/-- What may happen at a command. A command that fails, for whatever reason, has no effect. The
server is no part of the repository: results about the runs of this relation are about every
server whose answers are among these. -/
def redis : Handler RedisWorld RedisOp RedisOp.Answer
  | w, .command _, .error _, u => u = w
  | w, .command c, .ok reply, u => ∃ moment keys, w.keys.execute moment c = .ok (reply, keys) ∧
    u = { w with keys := keys, promoting := promotingAfter c reply w.promoting }
  | w, .adapter, adapter, u => adapter = w.adapter ∧ u = w
  | w, .setAdapter adapter, _, u => u = { w with adapter := adapter }
  | w, .connect, _, u | w, .nowMs, _, u | w, .newToken, _, u | w, .parse _, _, u => u = w

/-- The invariant: what is stored, remembered and leased is in its place, and every task that
is owed is in the structures of its route or among the promoted retries. -/
structure Sound (config : RedisStreamsQueueConfig) (routes : Set Route)
    (owed : RuntimeTask → Prop) (w : RedisWorld) : Prop where
  placed : Placed config routes w.keys.contents
  catalog : ∀ route topology, w.adapter.routes.get route = some topology →
    route ∈ routes ∧ topology = topologyOf config route
  leases : ∀ deliveryId leased, w.adapter.leased.lookup deliveryId = some leased →
    LeaseSound config routes w.keys.contents leased
  accounted : ∀ task, owed task → Present config w.keys.contents task ∨ task ∈ w.promoting

/-- Two worlds in which the same is stored and remembered. -/
structure Same (w u : RedisWorld) : Prop where
  contents : u.keys.contents = w.keys.contents
  adapter : u.adapter = w.adapter
  promoting : u.promoting = w.promoting

section Worlds

variable {owed owed' : RuntimeTask → Prop} {w u : RedisWorld}

theorem Sound.same (sound : Sound config routes owed w) (same : Same w u) :
    Sound config routes owed u where
  placed := same.contents ▸ sound.placed
  catalog := same.adapter ▸ sound.catalog
  leases := by
    rw [same.adapter, same.contents]
    exact sound.leases
  accounted := by
    rw [same.contents, same.promoting]
    exact sound.accounted

theorem Sound.mono (sound : Sound config routes owed w) (fewer : ∀ task, owed' task → owed task) :
    Sound config routes owed' w :=
  { sound with accounted := fun task is_owed => sound.accounted task (fewer task is_owed) }

/-- The world after an entry was added to a stream. -/
theorem Sound.append {key : String} {id : Redis.EntryId} {payload : RedisPayload}
    (sound : Sound config routes owed w) (home : EntryPlaced config routes key payload)
    (fresh : w.keys.contents.lastId key < id) (adapter : u.adapter = w.adapter)
    (contents : u.keys.contents = w.keys.contents.append key id payload)
    (promoting : ∀ task ∈ w.promoting, task ∈ u.promoting ∨ payload.task? = some task) :
    Sound config routes owed u where
  placed := contents ▸ sound.placed.append home
  catalog := adapter ▸ sound.catalog
  leases := by
    rw [adapter, contents]
    exact fun deliveryId leased held => (sound.leases deliveryId leased held).imp fun carries =>
      carries.append fresh
  accounted := by
    rw [contents]
    intro task is_owed
    rcases sound.accounted task is_owed with present | promoted
    · exact .inl present.append
    · rcases promoting task promoted with still | holds
      · exact .inr still
      · exact .inl (present_append_new home holds)

/-- The world after the entry of a task was deleted that is stored elsewhere or not owed. -/
theorem Sound.delete {key : String} {id : Redis.EntryId} {task : RuntimeTask}
    (sound : Sound config routes owed w) (carries : Carries w.keys.contents key id task)
    (fewer : ∀ other, owed' other → owed other)
    (elsewhere : owed' task → Present config (w.keys.contents.delete key id) task)
    (adapter : u.adapter = w.adapter) (contents : u.keys.contents = w.keys.contents.delete key id)
    (promoting : u.promoting = w.promoting) : Sound config routes owed' u where
  placed := contents ▸ sound.placed.delete
  catalog := adapter ▸ sound.catalog
  leases := by
    rw [adapter, contents]
    exact fun deliveryId leased held => (sound.leases deliveryId leased held).imp fun carries =>
      carries.delete
  accounted := by
    rw [contents, promoting]
    intro other is_owed
    by_cases same : other = task
    · subst same
      exact .inl (elsewhere is_owed)
    · rcases sound.accounted other (fewer other is_owed) with present | promoted
      · exact .inl (present.delete carries same)
      · exact .inr promoted

theorem Sound.schedule {key : String} {payload : RedisPayload}
    (sound : Sound config routes owed w) (home : MemberPlaced config routes key payload)
    (adapter : u.adapter = w.adapter)
    (contents : u.keys.contents = w.keys.contents.schedule key payload)
    (promoting : u.promoting = w.promoting) : Sound config routes owed u where
  placed := contents ▸ sound.placed.schedule home
  catalog := adapter ▸ sound.catalog
  leases := by
    rw [adapter, contents]
    exact fun deliveryId leased held => (sound.leases deliveryId leased held).imp id
  accounted := by
    rw [contents, promoting]
    intro task is_owed
    exact (sound.accounted task is_owed).imp_left Present.schedule

/-- A due retry that leaves its sorted set is among the promoted ones. -/
theorem Sound.unschedule {key : String} {d : RedisDelayedEnvelope}
    (sound : Sound config routes owed w) (adapter : u.adapter = w.adapter)
    (contents : u.keys.contents = w.keys.contents.unschedule key (.delayed d))
    (promoting : u.promoting = d.envelope.task :: w.promoting) : Sound config routes owed u where
  placed := contents ▸ sound.placed.unschedule
  catalog := adapter ▸ sound.catalog
  leases := by
    rw [adapter, contents]
    exact fun deliveryId leased held => (sound.leases deliveryId leased held).imp id
  accounted := by
    rw [contents, promoting]
    intro task is_owed
    by_cases same : d.envelope.task = task
    · exact .inr (by simp [same])
    · rcases sound.accounted task is_owed with present | promoted
      · exact .inl (present.unschedule fun holds => same (Option.some.inj holds))
      · exact .inr (List.mem_cons_of_mem _ promoted)

theorem Sound.enlist {key : String} {payload : RedisPayload} (sound : Sound config routes owed w)
    (home : Registered routes payload) (adapter : u.adapter = w.adapter)
    (contents : u.keys.contents = w.keys.contents.enlist key payload)
    (promoting : u.promoting = w.promoting) : Sound config routes owed u where
  placed := contents ▸ sound.placed.enlist home
  catalog := adapter ▸ sound.catalog
  leases := by
    rw [adapter, contents]
    exact fun deliveryId leased held => (sound.leases deliveryId leased held).imp id
  accounted := by
    rw [contents, promoting]
    exact sound.accounted

end Worlds

section Programs

variable {owed : RuntimeTask → Prop} {w : RedisWorld}

theorem Same.refl (w : RedisWorld) : Same w w := ⟨rfl, rfl, rfl⟩

/-- A command either fails and changes nothing, or has its effect. -/
theorem query_keeps {I : RedisWorld → Prop} {c : Redis.Cmd RedisPayload} {message : String}
    {Q : c.Reply → RedisWorld → Prop} (kept : I w)
    (done : ∀ moment reply keys, w.keys.execute moment c = .ok (reply, keys) →
      I { w with keys := keys, promoting := promotingAfter c reply w.promoting } ∧
      Q reply { w with keys := keys, promoting := promotingAfter c reply w.promoting }) :
    Keeps redis I Q (query c message) w := by
  refine Keeps.call kept ?_
  rintro (error | reply) u answered
  · obtain rfl : u = w := answered
    exact Keeps.fail kept
  · obtain ⟨moment, keys, executed, rfl⟩ := answered
    obtain ⟨kept, post⟩ := done moment reply keys executed
    exact Keeps.ret kept post

theorem connection_keeps {I : RedisWorld → Prop} (kept : I w) :
    Keeps redis I (fun _ u => u = w) connection w := by
  refine Keeps.call kept ?_
  rintro (error | ⟨⟩) u answered
  · obtain rfl : u = w := answered
    exact Keeps.fail kept
  · obtain rfl : u = w := answered
    exact Keeps.ret kept rfl

theorem decode_keeps {I : RedisWorld → Prop} {α : Type} {read : RedisPayload → Option α}
    {payload : RedisPayload} (kept : I w) :
    Keeps redis I (fun a u => u = w ∧ read payload = some a) (decode read payload) w := by
  refine Keeps.call kept ?_
  intro parses u answered
  obtain rfl : u = w := answered
  split
  · next value readable => exact Keeps.ret kept ⟨rfl, readable⟩
  · exact Keeps.fail kept

theorem nowMs_keeps {I : RedisWorld → Prop} (kept : I w) :
    Keeps redis I (fun _ u => u = w) nowMs w := by
  refine Keeps.call kept ?_
  intro now u answered
  obtain rfl : u = w := answered
  exact Keeps.ret kept rfl

theorem newToken_keeps {I : RedisWorld → Prop} (kept : I w) :
    Keeps redis I (fun _ u => u = w) newToken w := by
  refine Keeps.call kept ?_
  intro token u answered
  obtain rfl : u = w := answered
  exact Keeps.ret kept rfl

theorem currentAdapter_keeps {I : RedisWorld → Prop} (kept : I w) :
    Keeps redis I (fun adapter u => adapter = w.adapter ∧ u = w) currentAdapter w := by
  refine Keeps.call kept ?_
  rintro adapter u ⟨rfl, rfl⟩
  exact Keeps.ret kept ⟨rfl, rfl⟩

theorem modifyAdapter_keeps {I : RedisWorld → Prop} {α : Type}
    {change : RedisStreamsBrokerAdapter → α × RedisStreamsBrokerAdapter} (kept : I w)
    (changed : I { w with adapter := (change w.adapter).2 }) :
    Keeps redis I (fun a u => a = (change w.adapter).1 ∧
      u = { w with adapter := (change w.adapter).2 }) (modifyAdapter change) w := by
  refine Keeps.call kept ?_
  rintro adapter w ⟨rfl, rfl⟩
  refine Keeps.call kept ?_
  rintro ⟨⟩ u answered
  obtain rfl : u = { w with adapter := (change w.adapter).2 } := answered
  exact Keeps.ret changed ⟨rfl, rfl⟩

theorem ensureTopology_keeps (topology : RedisRouteTopology)
    (sound : Sound config routes owed w) :
    Keeps redis (Sound config routes owed) (fun _ u => Same w u) (ensureTopology topology) w := by
  simp only [ensureTopology, Prog.bind_def]
  refine (connection_keeps sound).bind ?_
  rintro _ w - rfl
  refine Keeps.call sound ?_
  rintro (error | reply) u answered
  · obtain rfl : u = w := answered
    dsimp only
    split_ifs
    · exact Keeps.ret sound (.refl u)
    · exact Keeps.fail sound
  · obtain ⟨moment, keys, executed, rfl⟩ := answered
    have same : Same w { w with keys := keys } :=
      ⟨Redis.xgroupCreateMkstream_spec executed, rfl, rfl⟩
    exact Keeps.ret (sound.same same) same

/-- An envelope that is published in its place is added to the work stream, and its task is no
longer a promoted one. -/
theorem publishEnvelope_keeps {topology : RedisRouteTopology} {envelope : RedisEnvelope}
    (home : EntryPlaced config routes topology.streamKey (.envelope envelope))
    (sound : Sound config routes owed w) :
    Keeps redis (Sound config routes owed) (fun _ u => ∃ id,
      w.keys.contents.lastId topology.streamKey < id ∧
      u.keys.contents = w.keys.contents.append topology.streamKey id (.envelope envelope))
      (publishEnvelope topology envelope) w := by
  simp only [publishEnvelope, Prog.bind_def, Prog.pure_def]
  refine (ensureTopology_keeps topology sound).bind ?_
  intro _ u sound same
  refine (connection_keeps sound).bind ?_
  rintro _ u - rfl
  refine (query_keeps (Q := fun _ u => ∃ id, w.keys.contents.lastId topology.streamKey < id ∧
    u.keys.contents = w.keys.contents.append topology.streamKey id (.envelope envelope)) sound
    ?_).bind fun _ _ sound published => Keeps.ret sound published
  intro moment id keys executed
  obtain ⟨fresh, contents⟩ := Redis.xadd_spec executed
  constructor
  · refine sound.append home fresh rfl contents ?_
    intro task promoted
    by_cases same : task = envelope.task
    · exact .inr (by rw [same]; rfl)
    · exact .inl (List.mem_filter.2 ⟨promoted, by simpa using same⟩)
  · rw [same.contents] at fresh contents
    exact ⟨id, fresh, contents⟩

theorem persistRouteRegistry_keeps {topology : RedisRouteTopology}
    (listed : (topology.queue, topology.lane) ∈ routes) (sound : Sound config routes owed w) :
    Keeps redis (Sound config routes owed) (fun _ u => u.adapter = w.adapter)
      (persistRouteRegistry config topology) w := by
  simp only [persistRouteRegistry, Prog.bind_def, Prog.pure_def]
  refine (connection_keeps sound).bind ?_
  rintro _ w - rfl
  refine (query_keeps (Q := fun _ u => u.adapter = w.adapter) sound ?_).bind
    fun _ _ sound same => Keeps.ret sound same
  intro moment reply keys executed
  have home : Registered routes (.route ⟨topology.queue, topology.lane⟩) := listed
  exact ⟨sound.enlist home rfl (Redis.sadd_spec executed) rfl, rfl⟩

theorem get_registerRoute {catalog : RouteCatalog RedisRouteTopology} {route other : Route}
    {topology found : RedisRouteTopology}
    (get : (catalog.registerRoute route topology).get other = some found) :
    catalog.get other = some found ∨ other = route ∧ found = topology := by
  simp only [RouteCatalog.registerRoute, RouteCatalog.get] at get ⊢
  split at get
  · exact .inl get
  · rcases of_lookup_insert get with new | ⟨-, old⟩
    · exact .inr new
    · exact .inl old

theorem loadRoutes_keeps (payloads : List RedisPayload)
    (listed : ∀ payload ∈ payloads, Registered routes payload) {w : RedisWorld}
    (sound : Sound config routes owed w) :
    Keeps redis (Sound config routes owed) (fun _ _ => True) (loadRoutes config payloads) w := by
  induction payloads generalizing w with
  | nil => exact Keeps.ret sound trivial
  | cons payload rest ih =>
    simp only [loadRoutes, Prog.bind_def]
    refine (decode_keeps sound).bind ?_
    rintro entry w - ⟨rfl, readable⟩
    have registered := listed payload List.mem_cons_self
    cases payload with
    | envelope e => exact registered.elim
    | delayed d => exact registered.elim
    | record r => exact registered.elim
    | route entry =>
      cases readable
      refine (ensureTopology_keeps _ sound).bind ?_
      intro _ u sound _
      refine (modifyAdapter_keeps sound ?_).bind ?_
      · refine { sound with catalog := ?_ }
        intro route topology get
        rcases get_registerRoute get with known | ⟨rfl, rfl⟩
        · exact sound.catalog route topology known
        · exact ⟨registered, rfl⟩
      · intro _ u sound _
        exact ih (fun payload mem => listed payload (List.mem_cons_of_mem _ mem)) sound

theorem ensureRegisteredRoutesLoaded_keeps (sound : Sound config routes owed w) :
    Keeps redis (Sound config routes owed) (fun _ _ => True)
      (ensureRegisteredRoutesLoaded config) w := by
  simp only [ensureRegisteredRoutesLoaded, Prog.bind_def]
  refine (connection_keeps sound).bind ?_
  rintro _ w - rfl
  refine (query_keeps (c := .smembers (redisRouteRegistryKey config))
    (Q := fun (entries : List RedisPayload) _ => ∀ payload ∈ entries, Registered routes payload)
    sound ?_).bind ?_
  · intro moment entries keys executed
    obtain ⟨rfl, rfl⟩ := Redis.smembers_spec executed
    exact ⟨sound, sound.placed.listed _⟩
  · intro entries u sound listed
    exact loadRoutes_keeps entries listed sound

/-- The invariant survives a promotion at every point of it, whatever fails. -/
theorem promote_keeps {route : Route} (payloads : List RedisPayload) {w : RedisWorld}
    (sound : Sound config routes owed w) :
    Keeps redis (Sound config routes owed) (fun _ _ => True)
      (promote (topologyOf config route) payloads) w := by
  induction payloads generalizing w with
  | nil => exact Keeps.ret sound trivial
  | cons payload rest ih =>
    simp only [promote, Prog.bind_def]
    refine (query_keeps (c := .zrem (topologyOf config route).delayedKey payload)
      (Q := fun (removed : Nat) _ => removed ≠ 0 →
        MemberPlaced config routes (topologyOf config route).delayedKey payload)
      sound ?_).bind ?_
    · intro moment (removed : Nat) keys executed
      obtain ⟨held, contents⟩ := Redis.zrem_spec executed
      by_cases missing : removed = 0
      · have same : Same w { w with keys := keys } := by
          refine ⟨?_, rfl, rfl⟩
          rw [contents, unschedule_of_notMem fun mem => held.2 mem missing]
        refine ⟨?_, fun present => absurd missing present⟩
        have untouched : promotingAfter (.zrem (topologyOf config route).delayedKey payload) removed
            w.promoting = w.promoting := by
          cases payload <;> simp [promotingAfter, missing]
        rw [untouched]
        exact sound.same same
      · have home := sound.placed.scheduled _ _ (held.1 missing)
        refine ⟨?_, fun _ => home⟩
        cases payload with
        | delayed d =>
          refine sound.unschedule rfl contents ?_
          simp [promotingAfter, missing]
        | envelope e => exact home.elim
        | record r => exact home.elim
        | route entry => exact home.elim
    · intro (removed : Nat) u sound home
      split_ifs with missing
      · exact ih sound
      · refine (decode_keeps sound).bind ?_
        rintro delayed w - ⟨rfl, readable⟩
        have placed := home missing
        cases payload with
        | delayed d =>
          cases readable
          have target : EntryPlaced config routes (topologyOf config route).streamKey
              (.envelope delayed.envelope) := ⟨placed.1, delayedKey_inj.1 placed.2⟩
          refine (publishEnvelope_keeps target sound).bind ?_
          intro _ u sound _
          exact ih sound
        | envelope e => exact placed.elim
        | record r => exact placed.elim
        | route entry => exact placed.elim

theorem promoteDueRetries_keeps {route : Route} (sound : Sound config routes owed w) :
    Keeps redis (Sound config routes owed) (fun _ _ => True)
      (promoteDueRetries (topologyOf config route)) w := by
  simp only [promoteDueRetries, Prog.bind_def]
  refine (connection_keeps sound).bind ?_
  rintro _ w - rfl
  refine (nowMs_keeps sound).bind ?_
  rintro now w - rfl
  refine (query_keeps (Q := fun _ _ => True) sound ?_).bind ?_
  · intro moment payloads keys executed
    obtain ⟨rfl, -⟩ := Redis.zrangebyscore_spec executed
    exact ⟨sound, trivial⟩
  · intro payloads u sound _
    exact promote_keeps payloads sound

/-- A task that stands in the work stream of a route. -/
def InStreamOf (config : RedisStreamsQueueConfig) (routes : Set Route) (route : Route)
    (delivery : RuntimeTaskDelivery) : Prop :=
  delivery.task.route ∈ routes ∧
    (topologyOf config route).streamKey = (topologyOf config delivery.task.route).streamKey

/-- What is handed out stands in the work stream of one of some routes. -/
def ComesFrom (config : RedisStreamsQueueConfig) (routes : Set Route) (order : List Route)
    (found : Option RuntimeTaskDelivery) : Prop :=
  ∀ delivery, found = some delivery →
    ∃ route ∈ order, route ∈ routes ∧ InStreamOf config routes route delivery

theorem comesFrom_none (order : List Route) : ComesFrom config routes order none := by
  intro delivery handed
  cases handed

theorem comesFrom_one {route : Route} {delivery : RuntimeTaskDelivery} (used : route ∈ routes)
    (stands : InStreamOf config routes route delivery) :
    ComesFrom config routes [route] (some delivery) := by
  rintro _ ⟨⟩
  exact ⟨route, List.mem_singleton_self _, used, stands⟩

theorem ComesFrom.mono {order order' : List Route} {found : Option RuntimeTaskDelivery}
    (stands : ComesFrom config routes order found) (fewer : order ⊆ order') :
    ComesFrom config routes order' found := by
  intro delivery handed
  obtain ⟨route, mem, rest⟩ := stands delivery handed
  exact ⟨route, fewer mem, rest⟩

/-- A lease that is taken of an entry in a work stream is sound. -/
theorem lease_keeps (apart : KeysApart config routes) {route : Route} (used : route ∈ routes)
    {message : Redis.EntryId × RedisPayload}
    (held : message ∈ w.keys.contents.entries (topologyOf config route).streamKey)
    (sound : Sound config routes owed w) :
    Keeps redis (Sound config routes owed) (fun delivery _ => InStreamOf config routes route delivery)
      (lease config (topologyOf config route) message) w := by
  simp only [lease, Prog.bind_def]
  refine (decode_keeps sound).bind ?_
  rintro envelope w - ⟨rfl, readable⟩
  have home := sound.placed.entries _ message held
  obtain ⟨id, payload⟩ := message
  cases payload with
  | envelope e =>
    cases readable
    refine (nowMs_keeps sound).bind ?_
    rintro now w - rfl
    refine (modifyAdapter_keeps sound ?_).mono fun _ _ _ handed => handed.1 ▸ home
    refine { sound with leases := ?_ }
    intro deliveryId leased found
    rcases of_lookup_insert found with ⟨-, rfl⟩ | ⟨-, old⟩
    · exact ⟨home.1, ⟨route, used, rfl, home.2⟩, carries_of_mem held rfl⟩
    · exact sound.leases deliveryId leased old
  | record r => exact absurd home.2 (apart route used r.task.route home.1)
  | delayed d => exact home.elim
  | route entry => exact home.elim

theorem rotateRoute_keeps (route : Route) (sound : Sound config routes owed w) :
    Keeps redis (Sound config routes owed) (fun _ u => u.keys = w.keys) (rotateRoute route) w := by
  refine (modifyAdapter_keeps sound ?_).mono ?_
  · refine { sound with catalog := ?_ }
    intro other topology get
    apply sound.catalog other topology
    simp only [RouteCatalog.rotate] at get
    split at get <;> exact get
  · rintro _ u - ⟨-, rfl⟩
    rfl

theorem reclaimStaleDelivery_keeps (apart : KeysApart config routes) {route : Route}
    (used : route ∈ routes) (sound : Sound config routes owed w) :
    Keeps redis (Sound config routes owed) (fun found _ => ComesFrom config routes [route] found)
      (reclaimStaleDelivery config (topologyOf config route)) w := by
  simp only [reclaimStaleDelivery, Prog.bind_def, Prog.pure_def]
  refine (connection_keeps sound).bind ?_
  rintro _ w - rfl
  refine (query_keeps (c := .xautoclaim (topologyOf config route).streamKey
      (topologyOf config route).consumerGroup)
    (Q := fun (claimed : Option (Redis.EntryId × RedisPayload)) u => ∀ message,
      claimed = some message →
        message ∈ u.keys.contents.entries (topologyOf config route).streamKey)
    sound ?_).bind ?_
  · intro moment claimed keys executed
    obtain ⟨contents, held⟩ := Redis.xautoclaim_spec executed
    refine ⟨sound.same ⟨contents, rfl, rfl⟩, ?_⟩
    intro message is_claimed
    rw [contents]
    exact held message is_claimed
  · rintro (_ | message) u sound held
    · exact Keeps.ret sound (comesFrom_none _)
    · refine (lease_keeps apart used (held message rfl) sound).bind ?_
      intro delivery u sound stands
      exact Keeps.ret sound (comesFrom_one used stands)

theorem reserveNew_keeps (apart : KeysApart config routes) {route : Route}
    (used : route ∈ routes) (sound : Sound config routes owed w) :
    Keeps redis (Sound config routes owed) (fun found _ => ComesFrom config routes [route] found)
      (reserveNew config route (topologyOf config route)) w := by
  simp only [reserveNew, Prog.bind_def, Prog.pure_def]
  refine (connection_keeps sound).bind ?_
  rintro _ w - rfl
  refine (query_keeps (c := .xreadgroup (topologyOf config route).streamKey
      (topologyOf config route).consumerGroup)
    (Q := fun (first : Option (Redis.EntryId × RedisPayload)) u => ∀ message,
      first = some message →
        message ∈ u.keys.contents.entries (topologyOf config route).streamKey)
    sound ?_).bind ?_
  · intro moment first keys executed
    obtain ⟨contents, held⟩ := Redis.xreadgroup_spec executed
    refine ⟨sound.same ⟨contents, rfl, rfl⟩, ?_⟩
    intro message is_first
    rw [contents]
    exact held message is_first
  · rintro (_ | message) u sound held
    · exact Keeps.ret sound (comesFrom_none _)
    · refine (rotateRoute_keeps route sound).bind ?_
      intro _ v sound same
      have still := held message rfl
      rw [← same] at still
      refine (lease_keeps apart used still sound).bind ?_
      intro delivery u sound stands
      exact Keeps.ret sound (comesFrom_one used stands)

theorem reserveRoute_keeps (apart : KeysApart config routes) {route : Route}
    (used : route ∈ routes) (sound : Sound config routes owed w) :
    Keeps redis (Sound config routes owed) (fun found _ => ComesFrom config routes [route] found)
      (reserveRoute config route (topologyOf config route)) w := by
  simp only [reserveRoute, Prog.bind_def, Prog.pure_def]
  refine (ensureTopology_keeps _ sound).bind ?_
  intro _ u sound _
  refine (promoteDueRetries_keeps sound).bind ?_
  intro _ u sound _
  refine (reclaimStaleDelivery_keeps apart used sound).bind ?_
  rintro (_ | delivery) u sound stands
  · exact reserveNew_keeps apart used sound
  · refine (rotateRoute_keeps route sound).bind ?_
    intro _ u sound _
    exact Keeps.ret sound stands

theorem reserveRoutes_keeps (apart : KeysApart config routes) (order : List Route) {w : RedisWorld}
    (sound : Sound config routes owed w) :
    Keeps redis (Sound config routes owed) (fun found _ => ComesFrom config routes order found)
      (reserveRoutes config order) w := by
  induction order generalizing w with
  | nil => exact Keeps.ret sound (comesFrom_none _)
  | cons route rest ih =>
    simp only [reserveRoutes, Prog.bind_def, Prog.pure_def]
    refine (currentAdapter_keeps sound).bind ?_
    rintro adapter w - ⟨rfl, rfl⟩
    cases get : w.adapter.routes.get route with
    | none => exact (ih sound).mono fun _ _ _ stands => stands.mono (List.subset_cons_self _ _)
    | some topology =>
      obtain ⟨used, rfl⟩ := sound.catalog route topology get
      refine (reserveRoute_keeps apart used sound).bind ?_
      rintro (_ | delivery) u sound stands
      · exact (ih sound).mono fun _ _ _ stands => stands.mono (List.subset_cons_self _ _)
      · exact Keeps.ret sound (stands.mono (by simp))

/-- A worker is handed tasks from the work streams of its routes. -/
theorem reserve_keeps (apart : KeysApart config routes) (bindings : List RuntimeRouteBinding)
    (sound : Sound config routes owed w) :
    Keeps redis (Sound config routes owed) (fun found _ => ∀ delivery, found = some delivery →
      ∃ route ∈ routes, Allows bindings route ∧ InStreamOf config routes route delivery)
      (reserve config bindings) w := by
  have inner : Keeps redis (Sound config routes owed) (fun found _ => ∀ delivery,
      found = some delivery → ∃ route ∈ routes, Allows bindings route ∧
        InStreamOf config routes route delivery) (reserveFromBroker config bindings) w := by
    simp only [reserveFromBroker, Prog.bind_def]
    refine (ensureRegisteredRoutesLoaded_keeps sound).bind ?_
    intro _ w sound _
    refine (currentAdapter_keeps sound).bind ?_
    rintro adapter w - ⟨rfl, rfl⟩
    refine (reserveRoutes_keeps apart _ sound).mono fun found _ _ stands => ?_
    intro delivery handed
    obtain ⟨route, ordered, used, stands⟩ := stands delivery handed
    exact ⟨route, used, (mem_orderedRoutes.1 ordered).2, stands⟩
  simp only [reserve, Prog.bind_def, Prog.pure_def]
  refine inner.attempt.bind ?_
  rintro (error | found) u sound stands
  · exact Keeps.ret sound fun delivery handed => absurd handed (by simp)
  · exact Keeps.ret sound (stands found rfl)

/-- An acknowledgement that fails leaves the task where it is. -/
def Settles (config : RedisStreamsQueueConfig) (routes : Set Route)
    (owed owed' : RuntimeTask → Prop) : Except AppError Unit → RedisWorld → Prop
  | .ok _, u => Sound config routes owed' u
  | .error _, u => Sound config routes owed u

theorem ackEntry_safe {topology : RedisRouteTopology} {entryId : Redis.EntryId}
    {task : RuntimeTask} {owed' : RuntimeTask → Prop} (sound : Sound config routes owed w)
    (carries : Carries w.keys.contents topology.streamKey entryId task)
    (fewer : ∀ other, owed' other → owed other)
    (elsewhere : owed' task →
      Present config (w.keys.contents.delete topology.streamKey entryId) task) :
    Safe redis (Sound config routes owed) (Settles config routes owed owed')
      (ackEntry topology entryId) w := by
  simp only [ackEntry, Prog.bind_def, Prog.pure_def]
  refine (connection_keeps sound).then ?_ fun _ _ kept => kept
  rintro _ w - rfl
  refine Keeps.then (query_keeps (Q := fun _ u => Same w u) sound ?_) ?_ fun _ _ kept => kept
  · intro moment reply keys executed
    have same : Same w { w with keys := keys } := ⟨Redis.xack_spec executed, rfl, rfl⟩
    exact ⟨sound.same same, same⟩
  · intro _ v sound same
    refine ⟨sound, ?_⟩
    rintro (error | reply) u answered
    · obtain rfl : u = v := answered
      exact sound
    · obtain ⟨moment, keys, executed, rfl⟩ := answered
      rw [← same.contents] at carries elsewhere
      exact sound.delete carries fewer elsewhere rfl (Redis.xdel_spec executed) rfl

theorem ackEntry_keeps {topology : RedisRouteTopology} {entryId : Redis.EntryId}
    {task : RuntimeTask} (sound : Sound config routes owed w)
    (carries : Carries w.keys.contents topology.streamKey entryId task)
    (elsewhere : Present config (w.keys.contents.delete topology.streamKey entryId) task) :
    Keeps redis (Sound config routes owed) (fun _ _ => True) (ackEntry topology entryId) w := by
  refine (ackEntry_safe sound carries (fun _ is_owed => is_owed) fun _ => elsewhere).mono
    (fun _ kept => kept) ?_
  rintro (error | reply) u settled
  · exact ⟨settled, fun _ _ => trivial⟩
  · exact ⟨settled, fun _ _ => trivial⟩

theorem takeLease_keeps (deliveryId : String) (sound : Sound config routes owed w) :
    Keeps redis (Sound config routes owed) (fun taken u => u.keys = w.keys ∧
      taken = w.adapter.leased.lookup deliveryId ∧
      ∀ leased, taken = some leased → LeaseSound config routes u.keys.contents leased)
      (takeLease deliveryId) w := by
  refine (modifyAdapter_keeps sound ?_).mono ?_
  · refine { sound with leases := ?_ }
    intro other leased found
    exact sound.leases other leased (of_lookup_erase found).2
  · rintro _ _ - ⟨rfl, rfl⟩
    exact ⟨rfl, rfl, sound.leases deliveryId⟩

/-- The work stream of a lease is that of the task. -/
theorem LeaseSound.home {c : Redis.Contents RedisPayload} {leased : RedisLeasedDelivery}
    (lease : LeaseSound config routes c leased) :
    leased.topology.streamKey = (topologyOf config leased.delivery.task.route).streamKey ∧
    leased.topology.delayedKey = (topologyOf config leased.delivery.task.route).delayedKey ∧
    leased.topology.deadLetterStreamKey =
      (topologyOf config leased.delivery.task.route).deadLetterStreamKey := by
  obtain ⟨route, -, named, same⟩ := lease.topology
  rw [named]
  exact ⟨same, delayedKey_inj.2 same, deadLetterStreamKey_inj.2 same⟩

theorem streamKey_ne_deadLetterStreamKey (a : Route) :
    (topologyOf config a).deadLetterStreamKey ≠ (topologyOf config a).streamKey := by
  rw [deadLetterStreamKey_eq]
  intro same
  have shorter := congrArg String.length same
  rw [String.length_append] at shorter
  have : ".dead".length = 5 := by decide
  omega

theorem deadLetter_keeps {leased : RedisLeasedDelivery} (error : String)
    (sound : Sound config routes owed w)
    (lease : LeaseSound config routes w.keys.contents leased) :
    Keeps redis (Sound config routes owed) (fun _ _ => True) (deadLetter leased error) w := by
  simp only [deadLetter, publishDeadLetterRecord, Prog.bind_def, Prog.pure_def, Prog.bind_assoc]
  refine (nowMs_keeps sound).bind ?_
  rintro now w - rfl
  refine (connection_keeps sound).bind ?_
  rintro _ w - rfl
  obtain ⟨stream, -, dead⟩ := lease.home
  have home : EntryPlaced config routes leased.topology.deadLetterStreamKey
      (.record (buildDeadLetterRecord leased.delivery error now)) := ⟨lease.route, dead⟩
  refine (query_keeps (Q := fun _ u => ∃ id,
    w.keys.contents.lastId leased.topology.deadLetterStreamKey < id ∧
    u.keys.contents = w.keys.contents.append leased.topology.deadLetterStreamKey id
      (.record (buildDeadLetterRecord leased.delivery error now))) sound ?_).bind ?_
  · intro moment id keys executed
    obtain ⟨fresh, contents⟩ := Redis.xadd_spec executed
    exact ⟨sound.append home fresh rfl contents fun task promoted => .inl promoted,
      id, fresh, contents⟩
  · rintro _ u sound ⟨id, fresh, contents⟩
    rw [Prog.ret_bind]
    have carries : Carries u.keys.contents leased.topology.streamKey leased.entryId
        leased.delivery.task := by
      rw [contents]
      exact lease.carries.append fresh
    refine ackEntry_keeps sound carries ?_
    rw [contents]
    refine present_append_delete home rfl fun same => ?_
    rw [stream, dead] at same
    exact absurd same (streamKey_ne_deadLetterStreamKey _)

theorem publishDelayedRetry_keeps {topology : RedisRouteTopology} {envelope : RedisEnvelope}
    (delayMs : UInt64) (home : envelope.task.route ∈ routes ∧
      topology.delayedKey = (topologyOf config envelope.task.route).delayedKey)
    (sound : Sound config routes owed w) :
    Keeps redis (Sound config routes owed) (fun _ u => ∃ token, u.keys.contents =
      w.keys.contents.schedule topology.delayedKey (.delayed ⟨token, envelope⟩))
      (publishDelayedRetry topology envelope delayMs) w := by
  simp only [publishDelayedRetry, Prog.bind_def, Prog.pure_def]
  refine (connection_keeps sound).bind ?_
  rintro _ w - rfl
  refine (newToken_keeps sound).bind ?_
  rintro token w - rfl
  refine (nowMs_keeps sound).bind ?_
  rintro now w - rfl
  refine (query_keeps (Q := fun _ u => ∃ token, u.keys.contents =
    w.keys.contents.schedule topology.delayedKey (.delayed ⟨token, envelope⟩)) sound ?_).bind
    fun _ _ sound scheduled => Keeps.ret sound scheduled
  intro moment reply keys executed
  have contents := Redis.zadd_spec executed
  have target : MemberPlaced config routes topology.delayedKey (.delayed ⟨token, envelope⟩) := home
  exact ⟨sound.schedule target rfl contents rfl, token, contents⟩

theorem requeue_keeps {leased : RedisLeasedDelivery} (error : String) (delayMs : UInt64)
    (sound : Sound config routes owed w)
    (lease : LeaseSound config routes w.keys.contents leased) :
    Keeps redis (Sound config routes owed) (fun _ _ => True) (requeue leased error delayMs) w := by
  obtain ⟨stream, delayed, -⟩ := lease.home
  simp only [requeue, Prog.bind_def]
  split_ifs
  · have home : EntryPlaced config routes leased.topology.streamKey
        (.envelope (nextAttempt leased.delivery error)) := ⟨lease.route, stream⟩
    refine (publishEnvelope_keeps home sound).bind ?_
    rintro _ u sound ⟨id, fresh, contents⟩
    have carries : Carries u.keys.contents leased.topology.streamKey leased.entryId
        leased.delivery.task := by
      rw [contents]
      exact lease.carries.append fresh
    refine ackEntry_keeps sound carries ?_
    rw [contents]
    apply present_append_delete home rfl
    intro same
    rw [← same] at fresh
    have older : leased.entryId < id := lt_of_le_of_lt lease.carries.1 fresh
    exact ne_of_gt older
  · have home : (nextAttempt leased.delivery error).task.route ∈ routes ∧
        leased.topology.delayedKey =
          (topologyOf config (nextAttempt leased.delivery error).task.route).delayedKey :=
      ⟨lease.route, delayed⟩
    refine (publishDelayedRetry_keeps delayMs home sound).bind ?_
    rintro _ u sound ⟨token, contents⟩
    have carries : Carries u.keys.contents leased.topology.streamKey leased.entryId
        leased.delivery.task := by
      rw [contents]
      exact lease.carries
    refine ackEntry_keeps sound carries ?_
    rw [contents]
    have target : MemberPlaced config routes leased.topology.delayedKey
        (.delayed ⟨token, nextAttempt leased.delivery error⟩) := home
    exact present_schedule_new (c := w.keys.contents.delete leased.topology.streamKey
      leased.entryId) target rfl

theorem enqueue_keeps {task : RuntimeTask} (used : task.route ∈ routes)
    (sound : Sound config routes owed w) :
    Keeps redis (Sound config routes owed) (fun _ u => Present config u.keys.contents task)
      (enqueue config task) w := by
  simp only [enqueue, Prog.bind_def]
  have known : w.adapter.routes.Knows routes (topologyOf config) := sound.catalog
  have enters : CatalogCmd.Enters routes (topologyOf config)
      (.getOrInsertWith task.route (topologyOf config task.route)) := ⟨used, rfl⟩
  have inserted := known.execute enters
  refine (modifyAdapter_keeps sound { sound with
    catalog := fun route topology get => inserted route topology get }).bind ?_
  rintro topology u sound' ⟨rfl, rfl⟩
  rw [show ((w.adapter.routes.getOrInsertWith task.route
    (buildRedisRouteTopology config task.queue task.lane)).1) = topologyOf config task.route from
      known.tells enters]
  refine (persistRouteRegistry_keeps used sound').bind ?_
  intro _ v sound _
  have home : EntryPlaced config routes (topologyOf config task.route).streamKey
      (.envelope { task := task, attempt := 1, lastError := none }) := ⟨used, rfl⟩
  refine (publishEnvelope_keeps home sound).mono ?_
  rintro _ u - ⟨id, -, contents⟩
  rw [contents]
  exact present_append_new home rfl

/-- The task of a lease that the adapter remembers. -/
def leasedTask (w : RedisWorld) (deliveryId : String) : Option RuntimeTask :=
  (w.adapter.leased.lookup deliveryId).map (·.delivery.task)

theorem ack_safe (deliveryId : String) (sound : Sound config routes owed w) :
    Safe redis (Sound config routes owed)
      (Settles config routes owed fun task => owed task ∧ leasedTask w deliveryId ≠ some task)
      (ack deliveryId) w := by
  simp only [ack, Prog.bind_def, Prog.pure_def]
  refine (takeLease_keeps deliveryId sound).then ?_ fun _ _ kept => kept
  rintro taken u sound ⟨-, known, lease⟩
  cases taken with
  | none => exact sound.mono fun task is_owed => is_owed.1
  | some leased =>
    refine ackEntry_safe sound (lease leased rfl).carries (fun other is_owed => is_owed.1) ?_
    intro is_owed
    refine absurd ?_ is_owed.2
    rw [leasedTask, ← known, Option.map_some]

theorem retry_keeps (deliveryId error : String) (delayMs : UInt64)
    (sound : Sound config routes owed w) :
    Keeps redis (Sound config routes owed) (fun _ _ => True)
      (retry deliveryId error delayMs) w := by
  simp only [retry, Prog.bind_def, Prog.pure_def, Prog.throw_def]
  refine (takeLease_keeps deliveryId sound).bind ?_
  rintro (_ | leased) u sound ⟨-, -, lease⟩
  · exact Keeps.fail sound
  · dsimp only
    split_ifs
    · refine (deadLetter_keeps error sound (lease leased rfl)).bind ?_
      intro _ u sound _
      exact Keeps.ret sound trivial
    · refine (requeue_keeps error delayMs sound (lease leased rfl)).bind ?_
      intro _ u sound _
      exact Keeps.ret sound trivial

theorem reject_keeps (deliveryId error : String) (sound : Sound config routes owed w) :
    Keeps redis (Sound config routes owed) (fun _ _ => True) (reject deliveryId error) w := by
  simp only [reject, Prog.bind_def, Prog.pure_def]
  refine (takeLease_keeps deliveryId sound).bind ?_
  rintro (_ | leased) u sound ⟨-, -, lease⟩
  · exact Keeps.ret sound trivial
  · exact deadLetter_keeps error sound (lease leased rfl)

/-- A search only reads, and finds one of the entries. -/
theorem searchRecords_keeps {I : RedisWorld → Prop} (deliveryId : String)
    (messages : List (Redis.EntryId × RedisPayload)) (kept : I w) :
    Keeps redis I (fun found u => u = w ∧ ∀ record id,
      found = some (record, id) → (id, .record record) ∈ messages)
      (searchRecords deliveryId messages) w := by
  induction messages with
  | nil => exact Keeps.ret kept ⟨rfl, by simp⟩
  | cons message rest ih =>
    simp only [searchRecords, Prog.bind_def, Prog.pure_def]
    refine (decode_keeps kept).bind ?_
    rintro record w' - ⟨rfl, readable⟩
    split_ifs
    · refine Keeps.ret kept ⟨rfl, ?_⟩
      rintro found id ⟨⟩
      obtain ⟨id, payload⟩ := message
      cases payload <;> cases readable
      exact List.mem_cons_self
    · refine ih.mono ?_
      rintro found u - ⟨rfl, held⟩
      exact ⟨rfl, fun record id same => List.mem_cons_of_mem _ (held record id same)⟩

theorem searchTopologies_keeps {I : RedisWorld → Prop} (deliveryId : String)
    (topologies : List RedisRouteTopology) (kept : I w) :
    Keeps redis I (fun found u => u = w ∧ ∀ topology record id,
      found = some (topology, record, id) → topology ∈ topologies ∧
        (id, .record record) ∈ w.keys.contents.entries topology.deadLetterStreamKey)
      (searchTopologies deliveryId topologies) w := by
  induction topologies with
  | nil => exact Keeps.ret kept ⟨rfl, by simp⟩
  | cons topology rest ih =>
    simp only [searchTopologies, Prog.bind_def, Prog.pure_def]
    refine (connection_keeps kept).bind ?_
    rintro _ w' - rfl
    refine (query_keeps (c := .xrange topology.deadLetterStreamKey)
      (Q := fun (entries : List (Redis.EntryId × RedisPayload)) u => u = w' ∧
        entries = w'.keys.contents.entries topology.deadLetterStreamKey) kept ?_).bind ?_
    · intro moment entries keys executed
      obtain ⟨rfl, rfl⟩ := Redis.xrange_spec executed
      exact ⟨kept, rfl, rfl⟩
    · rintro entries u - ⟨rfl, rfl⟩
      refine (searchRecords_keeps deliveryId _ kept).bind ?_
      rintro (_ | ⟨record, id⟩) v - ⟨rfl, held⟩
      · refine ih.mono ?_
        rintro found v - ⟨rfl, later⟩
        exact ⟨rfl, fun topology record id same =>
          ⟨List.mem_cons_of_mem _ (later topology record id same).1,
            (later topology record id same).2⟩⟩
      · refine Keeps.ret kept ⟨rfl, ?_⟩
        rintro _ _ _ ⟨⟩
        exact ⟨List.mem_cons_self, held record id rfl⟩

theorem replayDeadLetter_keeps (deliveryId : String) (sound : Sound config routes owed w) :
    Keeps redis (Sound config routes owed) (fun _ _ => True)
      (replayDeadLetter config deliveryId) w := by
  have found_keeps : Keeps redis (Sound config routes owed) (fun found u =>
      ∀ topology record id, found = some (topology, record, id) →
        (∃ route, topology = topologyOf config route) ∧
        (id, .record record) ∈ u.keys.contents.entries topology.deadLetterStreamKey)
      (findDeadLetterReplay config deliveryId) w := by
    simp only [findDeadLetterReplay, Prog.bind_def]
    refine (ensureRegisteredRoutesLoaded_keeps sound).bind ?_
    intro _ w sound _
    refine (currentAdapter_keeps sound).bind ?_
    rintro adapter w - ⟨rfl, rfl⟩
    refine (searchTopologies_keeps deliveryId _ sound).mono ?_
    rintro found u - ⟨rfl, held⟩ topology record id same
    obtain ⟨known, stored⟩ := held topology record id same
    have catalog : u.adapter.routes.Knows routes (topologyOf config) := sound.catalog
    obtain ⟨route, -, built⟩ := catalog.tells (c := .topologies) trivial topology known
    exact ⟨⟨route, built⟩, stored⟩
  simp only [replayDeadLetter, Prog.bind_def, Prog.pure_def, Prog.throw_def]
  refine found_keeps.bind ?_
  rintro (_ | ⟨topology, record, id⟩) u sound found
  · exact Keeps.fail sound
  · obtain ⟨⟨route, rfl⟩, stored⟩ := found topology record id rfl
    obtain ⟨used, dead⟩ := sound.placed.entries _ _ stored
    have stream := deadLetterStreamKey_inj.1 dead
    have home : EntryPlaced config routes (topologyOf config route).streamKey
        (.envelope (replayOf record)) := ⟨used, stream⟩
    have carries : Carries u.keys.contents (topologyOf config route).deadLetterStreamKey id
        record.task := carries_of_mem stored rfl
    refine (publishEnvelope_keeps home sound).bind ?_
    rintro _ v sound ⟨newId, fresh, contents⟩
    have still : Carries v.keys.contents (topologyOf config route).deadLetterStreamKey id
        record.task := by
      rw [contents]
      exact carries.append fresh
    simp only [removeReplayedDeadLetterEntry, Prog.bind_def, Prog.pure_def, Prog.bind_assoc]
    refine (connection_keeps sound).bind ?_
    rintro _ v - rfl
    refine (query_keeps (Q := fun _ _ => True) sound ?_).bind
      fun _ _ sound _ => Keeps.ret sound trivial
    intro moment reply keys executed
    refine ⟨sound.delete still (fun _ is_owed => is_owed) ?_ rfl (Redis.xdel_spec executed) rfl,
      trivial⟩
    intro _
    rw [contents]
    exact present_append_delete home rfl fun same =>
      absurd same.symm (streamKey_ne_deadLetterStreamKey route)

end Programs

end RedisStreams

end NexusCore.Runtime
