import NexusCore.Runtime.Broker.RedisRuns
import NexusCore.Runtime.Broker.RouteNames

/-!
# The routes of the Redis adapter

As long as the keys and groups of the routes in use are different, a task stays with its route: no
key of a route holds a task of another one, and a worker is handed tasks of its own routes alone.
-/

namespace NexusCore.Runtime

open NexusCore.Lib

namespace RedisStreams

section Routes

variable {config : RedisStreamsQueueConfig} {routes : Set Route}

theorem keysApart_of_isolated (isolated : AllIsolated (redisName config) routes) :
    KeysApart config routes := by
  intro a used b used' same
  have work : redisName config a .work = some (topologyOf config a).streamKey := rfl
  have dead : redisName config b .deadLetter = some (topologyOf config a).streamKey :=
    congrArg some same.symm
  cases (isolated.eq_of_name (redisName_own config) used used' work dead).2

/-- What lies under a key of a route is a task of that route. -/
theorem Placed.route_eq {c : Redis.Contents RedisPayload} (placed : Placed config routes c)
    (isolated : AllIsolated (redisName config) routes) {route : Route} (used : route ∈ routes)
    {store : RouteStore} {key : String} (named : redisName config route store = some key) :
    (∀ entry ∈ c.entries key, ∀ task, entry.2.task? = some task → task.route = route) ∧
      ∀ member ∈ c.scheduled key, ∀ task, member.task? = some task → task.route = route := by
  have eq_of_name : ∀ {other} store', other ∈ routes → redisName config other store' = some key →
      other = route :=
    fun _ used' named' => (isolated.eq_of_name (redisName_own config) used' used named' named).1
  constructor
  · rintro ⟨id, payload⟩ mem task carries
    have home := placed.entries key _ mem
    cases payload with
    | envelope e =>
      cases carries
      exact eq_of_name .work home.1 (congrArg some home.2.symm)
    | record r =>
      cases carries
      exact eq_of_name .deadLetter home.1 (congrArg some home.2.symm)
    | delayed | route => exact home.elim
  · intro member mem task carries
    have home := placed.scheduled key member mem
    cases member with
    | delayed d =>
      cases carries
      exact eq_of_name .retry home.1 (congrArg some home.2.symm)
    | envelope | record | route => exact home.elim

/-- In every run on routes that are apart, no task is stored with another route than its own, and a
worker that reserves is handed a task of a route that it is bound to. -/
theorem redis_tasks_keep_to_routes (config : RedisStreamsQueueConfig) (routes : Set Route)
    (isolated : AllIsolated (redisName config) routes)
    (events : List (Transition RedisHistory RedisEvent)) (h : RedisHistory)
    (run : Run (RedisStep config) .fresh events h) (used : ∀ x ∈ events, x.label.Uses routes) :
    (∀ route ∈ routes, ∀ store key, redisName config route store = some key →
      (∀ entry ∈ h.world.keys.contents.entries key, ∀ task,
        entry.2.task? = some task → task.route = route) ∧
      ∀ member ∈ h.world.keys.contents.scheduled key, ∀ task,
        member.task? = some task → task.route = route) ∧
    ∀ bindings delivery u, Exec redis (reserve config bindings) h.world (.ok (some delivery)) u →
      Allows bindings delivery.task.route := by
  have apart := keysApart_of_isolated isolated
  have sound : Sound config routes (· ∈ h.owed) h.world := by
    refine run.invariant_of (fun h => Sound config routes (· ∈ h.owed) h.world) ?_ fresh_sound used
    intro _ _ _ sound step uses
    exact step_sound apart sound step uses
  constructor
  · intro route among store key named
    exact sound.placed.route_eq isolated among named
  · intro bindings delivery u exec
    obtain ⟨-, ends⟩ := Safe.exec (reserve_keeps apart bindings sound) exec
    obtain ⟨route, among, allowed, used', same⟩ := ends (some delivery) rfl delivery rfl
    have work : redisName config route .work = some (topologyOf config route).streamKey := rfl
    have own : redisName config delivery.task.route .work =
        some (topologyOf config route).streamKey := congrArg some same.symm
    rwa [← (isolated.eq_of_name (redisName_own config) among used' work own).1]

end Routes

/-! ## A run on two routes -/

def twoRoutes : Set Route := {("oj", "fast"), ("judge", "fast")}

theorem twoRoutes_isolated : AllIsolated (redisName sampleConfig) twoRoutes := by
  refine allIsolated_pair ((redis_isolated_iff sampleConfig).2 ⟨by decide +kernel, ?_⟩)
  rw [unsuffixed_iff]
  decide +kernel

/-- A task of one route waits for its retry, one of the other route has just been enqueued. -/
def bothEnqueued : RedisHistory :=
  callAt sampleConfig 1000 sampleRetried (.enqueue (sampleTask "task-2" "judge" 3))

/-- A worker that is bound to one of the routes. -/
def judgeWorker : List RuntimeRouteBinding := [⟨"judge", "fast"⟩]

/-- The process stops in the middle of a promotion and starts again; a worker is handed the task of
its route, although the other one is older. -/
theorem redis_judge_worker_gets_own_task : ∃ events h delivery u,
    Run (RedisStep sampleConfig) .fresh events h ∧
    (∀ x ∈ events, x.label.Uses twoRoutes) ∧
    Exec redis (reserve sampleConfig judgeWorker) h.world (.ok (some delivery)) u ∧
    Allows judgeWorker delivery.task.route := by
  obtain ⟨w, stop, handed⟩ : ∃ w, (RedisCall.prog sampleConfig (.reserve [])).stopAfter
      (respond 2000) 15 bothEnqueued.world = some w ∧
      ((reserve sampleConfig judgeWorker).eval (respond 2000)
        { w with adapter := .new }).1.toOption.join.isSome = true := by
    have there : ((RedisCall.prog sampleConfig (.reserve [])).stopAfter (respond 2000) 15
        bothEnqueued.world).any (fun w => ((reserve sampleConfig judgeWorker).eval (respond 2000)
          { w with adapter := .new }).1.toOption.join.isSome) = true := by
      decide +kernel
    exact (Option.any_eq_true _ _).1 there
  have stopped : RedisStep sampleConfig bothEnqueued (.stopped (.reserve []))
      ⟨{ w with adapter := .new }, bothEnqueued.owed⟩ :=
    .stopped (Stops.of_stopAfter (v := id) (respond_allowed 2000) stop)
  have run := run_sampleEvents.append
    (.step (step_callAt sampleConfig 1000 sampleRetried (.enqueue (sampleTask "task-2" "judge" 3)))
      (.step stopped (.done _)))
  have exec := Exec.of_eval (v := id) (respond_allowed 2000) (reserve sampleConfig judgeWorker)
    { w with adapter := .new }
  obtain ⟨delivery, found⟩ := Option.isSome_iff_exists.1 handed
  have result : ((reserve sampleConfig judgeWorker).eval (respond 2000)
      { w with adapter := .new }).1 = .ok (some delivery) := by
    revert found
    generalize ((reserve sampleConfig judgeWorker).eval (respond 2000)
      { w with adapter := .new }).1 = o
    rcases o with _ | _ | _ <;> simp [Except.toOption]
  rw [result] at exec
  refine ⟨_, _, delivery, _, run, ?used, exec,
    (redis_tasks_keep_to_routes sampleConfig twoRoutes twoRoutes_isolated _ _ run ?used).2
      judgeWorker delivery _ exec⟩
  have first : (sampleTask "task-1" "oj" 3).route ∈ twoRoutes := .inl rfl
  have second : (sampleTask "task-2" "judge" 3).route ∈ twoRoutes := .inr rfl
  simpa [sampleEvents, RedisEvent.Uses] using ⟨first, second⟩

end RedisStreams

end NexusCore.Runtime
