import NexusCore.Runtime.Broker.RedisSafety

/-!
# Runs of the Redis adapter

Calls follow each other in any order; any command may fail in any of them, and the process may
stop before any command and start again with an empty memory. What the caller is owed are the
tasks whose `enqueue` returned and which no `ack` has released since.
-/

namespace NexusCore.Runtime

open NexusCore.Lib

namespace RedisStreams

inductive RedisCall where
  | enqueue (task : RuntimeTask)
  | reserve (bindings : List RuntimeRouteBinding)
  | ack (deliveryId : String)
  | retry (deliveryId error : String) (delayMs : UInt64)
  | reject (deliveryId error : String)
  | replayDeadLetter (deliveryId : String)

namespace RedisCall

def Result : RedisCall → Type
  | enqueue _ | ack _ | reject .. => Unit
  | reserve _ => Option RuntimeTaskDelivery
  | retry .. => RetryDisposition
  | replayDeadLetter _ => RuntimeQueueReceipt

def prog (config : RedisStreamsQueueConfig) : (call : RedisCall) → RedisProg call.Result
  | enqueue task => RedisStreams.enqueue config task
  | reserve bindings => RedisStreams.reserve config bindings
  | ack deliveryId => RedisStreams.ack deliveryId
  | retry deliveryId error delayMs => RedisStreams.retry deliveryId error delayMs
  | reject deliveryId error => RedisStreams.reject deliveryId error
  | replayDeadLetter deliveryId => RedisStreams.replayDeadLetter config deliveryId

/-- What the caller is owed after a call that was made in a world: a task that was enqueued is
added, the task of a delivery that was acknowledged is gone. -/
def owedAfter (w : RedisWorld) (owed : List RuntimeTask) :
    (call : RedisCall) → Except AppError call.Result → List RuntimeTask
  | enqueue task, .ok _ => task :: owed
  | ack deliveryId, .ok _ => owed.filter fun task => leasedTask w deliveryId ≠ some task
  | _, _ => owed

end RedisCall

inductive RedisEvent where
  | returned (call : RedisCall)
  | stopped (call : RedisCall)

/-- The routes that an event brings into use. -/
def RedisEvent.Uses (routes : Set Route) : RedisEvent → Prop
  | .returned (.enqueue task) | .stopped (.enqueue task) => task.route ∈ routes
  | _ => True

structure RedisHistory where
  world : RedisWorld
  owed : List RuntimeTask

/-- An empty server and an adapter that has just connected. -/
def RedisHistory.fresh : RedisHistory := ⟨⟨fun _ => none, .new, []⟩, []⟩

/-- A call that returns, with a result or an error, or one that the process does not survive. -/
inductive RedisStep (config : RedisStreamsQueueConfig) :
    RedisHistory → RedisEvent → RedisHistory → Prop where
  | returned {h : RedisHistory} {call : RedisCall} {result : Except AppError call.Result}
      {w : RedisWorld} : Exec redis (call.prog config) h.world result w →
      RedisStep config h (.returned call) ⟨w, call.owedAfter h.world h.owed result⟩
  | stopped {h : RedisHistory} {call : RedisCall} {w : RedisWorld} :
      Stops redis (call.prog config) h.world w →
      RedisStep config h (.stopped call) ⟨{ w with adapter := .new }, h.owed⟩

section Steps

variable {config : RedisStreamsQueueConfig} {routes : Set Route} {h h' : RedisHistory}

/-- What is owed after a call is in its place. -/
theorem call_safe (apart : KeysApart config routes) {w : RedisWorld} {owed : List RuntimeTask}
    (call : RedisCall) (used : RedisEvent.Uses routes (.returned call))
    (sound : Sound config routes (· ∈ owed) w) :
    Safe redis (Sound config routes (· ∈ owed))
      (fun result u => Sound config routes (· ∈ call.owedAfter w owed result) u)
      (call.prog config) w := by
  cases call with
  | enqueue task =>
    refine Safe.mono (enqueue_keeps used sound) (fun _ kept => kept) ?_
    rintro (error | reply) u ⟨kept, post⟩
    · exact kept
    · refine { kept with accounted := ?_ }
      intro other is_owed
      rcases List.mem_cons.1 is_owed with rfl | before
      · exact .inl (post reply rfl)
      · exact kept.accounted other before
  | ack deliveryId =>
    refine Safe.mono (ack_safe deliveryId sound) (fun _ kept => kept) ?_
    rintro (error | reply) u settled
    · exact settled
    · refine Sound.mono settled ?_
      intro task is_owed
      simpa [RedisCall.owedAfter] using is_owed
  | reserve bindings =>
    exact Safe.mono (reserve_keeps apart bindings sound) (fun _ kept => kept) fun _ _ post => post.1
  | retry deliveryId error delayMs =>
    exact Safe.mono (retry_keeps deliveryId error delayMs sound) (fun _ kept => kept)
      fun _ _ post => post.1
  | reject deliveryId error =>
    exact Safe.mono (reject_keeps deliveryId error sound) (fun _ kept => kept)
      fun _ _ post => post.1
  | replayDeadLetter deliveryId =>
    exact Safe.mono (replayDeadLetter_keeps deliveryId sound) (fun _ kept => kept)
      fun _ _ post => post.1

/-- A process that starts again remembers nothing, which is sound. -/
theorem Sound.restart {owed : RuntimeTask → Prop} {w : RedisWorld}
    (sound : Sound config routes owed w) :
    Sound config routes owed { w with adapter := .new } where
  placed := sound.placed
  catalog route topology get := by
    rw [RouteCatalog.get, RedisStreamsBrokerAdapter.new, RouteCatalog.new, AList.lookup_empty] at get
    cases get
  leases deliveryId leased found := by
    rw [RedisStreamsBrokerAdapter.new, AList.lookup_empty] at found
    cases found
  accounted := sound.accounted

theorem step_sound (apart : KeysApart config routes) {event : RedisEvent}
    (sound : Sound config routes (· ∈ h.owed) h.world) (step : RedisStep config h event h')
    (used : event.Uses routes) : Sound config routes (· ∈ h'.owed) h'.world := by
  cases step with
  | @returned call result w exec => exact (call_safe apart call used sound).exec exec
  | @stopped call w stop =>
    have within : RedisEvent.Uses routes (.returned call) := by cases call <;> exact used
    exact ((call_safe apart call within sound).stops stop).restart

theorem fresh_sound : Sound config routes (· ∈ RedisHistory.fresh.owed) RedisHistory.fresh.world where
  placed :=
    { entries := fun _ _ mem => nomatch mem
      scheduled := fun _ _ mem => nomatch mem
      listed := fun _ _ mem => nomatch mem }
  catalog _ _ get := nomatch get
  leases _ _ found := nomatch found
  accounted _ is_owed := nomatch is_owed

end Steps

/-- In every run, whatever fails and wherever the process stops: a task that is owed is in the
structures of its route, or its retry was removed from the sorted set and not published. -/
theorem owed_present_or_promoting {config : RedisStreamsQueueConfig} {routes : Set Route}
    (apart : KeysApart config routes) {events : List (Transition RedisHistory RedisEvent)}
    {h : RedisHistory} (run : Run (RedisStep config) .fresh events h)
    (used : ∀ x ∈ events, x.label.Uses routes) :
    ∀ task ∈ h.owed, Present config h.world.keys.contents task ∨ task ∈ h.world.promoting := by
  have sound : Sound config routes (· ∈ h.owed) h.world := by
    refine run.invariant_of (fun h => Sound config routes (· ∈ h.owed) h.world) ?_ fresh_sound used
    intro _ _ _ sound step uses
    exact step_sound apart sound step uses
  exact sound.accounted

/-- No task is lost in a run that completes every promotion it begins. -/
theorem owed_present {config : RedisStreamsQueueConfig} {routes : Set Route}
    (apart : KeysApart config routes) {events : List (Transition RedisHistory RedisEvent)}
    {h : RedisHistory} (run : Run (RedisStep config) .fresh events h)
    (used : ∀ x ∈ events, x.label.Uses routes)
    (complete : ∀ x ∈ events, x.after.world.promoting = []) :
    ∀ task ∈ h.owed, Present config h.world.keys.contents task := by
  intro task is_owed
  have finished : h.world.promoting = [] := by
    refine run.invariant_of (fun h => h.world.promoting = []) ?_ rfl complete
    intro _ _ _ _ _ done
    exact done
  rcases owed_present_or_promoting apart run used task is_owed with present | promoted
  · exact present
  · rw [finished] at promoted
    cases promoted

/-! ## A run on a server that answers -/

instance {config : RedisStreamsQueueConfig} {c : Redis.Contents RedisPayload} {task : RuntimeTask} :
    Decidable (Present config c task) := inferInstanceAs (Decidable (_ ∨ _ ∨ _))

/-- A server that executes every command at a given time. -/
def respond (now : UInt64) (w : RedisWorld) : (op : RedisOp) → op.Answer × RedisWorld
  | .command c =>
    match w.keys.execute ⟨now.toNat, fun _ => false, true⟩ c with
    | .ok (reply, keys) =>
      (.ok reply, { w with keys := keys, promoting := promotingAfter c reply w.promoting })
    | .error failure => (.error ⟨failure.code, ""⟩, w)
  | .connect => (.ok (), w)
  | .nowMs => (now, w)
  | .newToken => ("token", w)
  | .parse _ => (true, w)
  | .adapter => (w.adapter, w)
  | .setAdapter adapter => ((), { w with adapter := adapter })

theorem respond_allowed (now : UInt64) (w : RedisWorld) (op : RedisOp) :
    redis w op (respond now w op).1 (respond now w op).2 := by
  cases op with
  | command c =>
    rw [respond]
    split
    · next reply keys executed => exact ⟨_, keys, executed, rfl⟩
    · exact rfl
  | adapter => exact ⟨rfl, rfl⟩
  | _ => exact rfl

def callAt (config : RedisStreamsQueueConfig) (now : UInt64) (h : RedisHistory)
    (call : RedisCall) : RedisHistory where
  world := ((call.prog config).eval (respond now) h.world).2
  owed := call.owedAfter h.world h.owed ((call.prog config).eval (respond now) h.world).1

theorem step_callAt (config : RedisStreamsQueueConfig) (now : UInt64) (h : RedisHistory)
    (call : RedisCall) : RedisStep config h (.returned call) (callAt config now h call) :=
  .returned (Exec.of_eval (v := id) (respond_allowed now) (call.prog config) h.world)

def sampleConfig : RedisStreamsQueueConfig := ⟨"nexus", "workers", 60000⟩

def sampleRoutes : Set Route := {("oj", "fast")}

def sampleEnqueued : RedisHistory :=
  callAt sampleConfig 1000 .fresh (.enqueue (sampleTask "task-1" "oj" 3))

def sampleReserved : RedisHistory := callAt sampleConfig 1000 sampleEnqueued (.reserve [])

/-- The task is to be retried half a second after it was handed out. -/
def sampleRetried : RedisHistory :=
  callAt sampleConfig 1000 sampleReserved (.retry "redis-task-1-1000-0" "worker crashed" 500)

def samplePromoted : RedisHistory := callAt sampleConfig 2000 sampleRetried (.reserve [])

theorem sampleRoutes_apart : KeysApart sampleConfig sampleRoutes := by
  rintro a rfl b rfl
  exact (streamKey_ne_deadLetterStreamKey ("oj", "fast")).symm

/-- The transitions up to the delayed retry. -/
def sampleEvents : List (Transition RedisHistory RedisEvent) :=
  [⟨.fresh, .returned (.enqueue (sampleTask "task-1" "oj" 3)), sampleEnqueued⟩,
    ⟨sampleEnqueued, .returned (.reserve []), sampleReserved⟩,
    ⟨sampleReserved, .returned (.retry "redis-task-1-1000-0" "worker crashed" 500),
      sampleRetried⟩]

theorem run_sampleEvents : Run (RedisStep sampleConfig) .fresh sampleEvents sampleRetried :=
  .step (step_callAt _ _ _ _) (.step (step_callAt _ _ _ _) (.step (step_callAt _ _ _ _) (.done _)))

theorem sampleEvents_uses : ∀ x ∈ sampleEvents, x.label.Uses sampleRoutes := by
  have used : (sampleTask "task-1" "oj" 3).route ∈ sampleRoutes := rfl
  simpa [sampleEvents, RedisEvent.Uses] using used

theorem sampleRetried_owed : sampleTask "task-1" "oj" 3 ∈ sampleRetried.owed := by
  decide +kernel

theorem owed_present_after_promotion :
    Present sampleConfig samplePromoted.world.keys.contents (sampleTask "task-1" "oj" 3) := by
  have run := run_sampleEvents.append
    (.step (step_callAt sampleConfig 2000 sampleRetried (.reserve [])) (.done _))
  refine owed_present sampleRoutes_apart run ?_ ?_ _ (by decide +kernel)
  · intro x mem
    rcases List.mem_append.1 mem with before | last
    · exact sampleEvents_uses x before
    · rw [List.mem_singleton.1 last]
      trivial
  · decide +kernel

/-- The process stops after the due retry was removed from the sorted set and before it was
published: the task is nowhere. -/
theorem lost_by_stopped_promotion : ∃ events h, Run (RedisStep sampleConfig) .fresh events h ∧
    (∀ x ∈ events, x.label.Uses sampleRoutes) ∧ sampleTask "task-1" "oj" 3 ∈ h.owed ∧
    ¬ Present sampleConfig h.world.keys.contents (sampleTask "task-1" "oj" 3) := by
  obtain ⟨w, stop, absent⟩ : ∃ w, (RedisCall.prog sampleConfig (.reserve [])).stopAfter
      (respond 2000) 15 sampleRetried.world = some w ∧
      ¬ Present sampleConfig w.keys.contents (sampleTask "task-1" "oj" 3) := by
    have lost : ((RedisCall.prog sampleConfig (.reserve [])).stopAfter (respond 2000) 15
        sampleRetried.world).any (fun w =>
          !decide (Present sampleConfig w.keys.contents (sampleTask "task-1" "oj" 3))) = true := by
      decide +kernel
    obtain ⟨w, stop, absent⟩ := (Option.any_eq_true _ _).1 lost
    exact ⟨w, stop, by simpa using absent⟩
  have stopped : RedisStep sampleConfig sampleRetried (.stopped (.reserve []))
      ⟨{ w with adapter := .new }, sampleRetried.owed⟩ :=
    .stopped (Stops.of_stopAfter (v := id) (respond_allowed 2000) stop)
  refine ⟨_, _, run_sampleEvents.append (.step stopped (.done _)), ?_, sampleRetried_owed, absent⟩
  intro x mem
  rcases List.mem_append.1 mem with before | last
  · exact sampleEvents_uses x before
  · rw [List.mem_singleton.1 last]
    trivial

end RedisStreams

end NexusCore.Runtime
