import NexusCore.Lib.Interleaving
import NexusCore.Runtime.Queue.Conservation

/-!
# The route list of the in-memory queue

The buckets and the list of their routes are updated in separate critical sections. The list is
right whenever no call is in progress, as long as no call takes the last task of a route that
another reserve still has to look at, and no reserve copies the list while a route that it is
going to look at is about to be removed.
-/

namespace NexusCore.Runtime

open NexusCore.Lib InMemoryRuntimeTaskQueue

/-- What a call on the queue hands back. -/
inductive MemoryReply where
  | done
  | delivery (delivery : Option RuntimeTaskDelivery)
  | disposition (disposition : RetryDisposition)
  | receipt (receipt : RuntimeQueueReceipt)

/-- The program of a call. -/
def InMemoryRuntimeTaskQueue.perform : MemoryOp → MemoryProg MemoryReply
  | .enqueue task => do
    enqueue task
    return .done
  | .reserve bindings => do
    let delivery ← reserve bindings
    return .delivery delivery
  | .settle delivery .ack => do
    ack delivery.deliveryId
    return .done
  | .settle delivery (.retry error delayMs) => do
    let disposition ← retry delivery.deliveryId error delayMs
    return .disposition disposition
  | .settle delivery (.reject error) => do
    reject delivery.deliveryId error
    return .done
  | .replayDeadLetter deliveryId => do
    let receipt ← replayDeadLetter deliveryId
    return .receipt receipt

abbrev MemoryCall : Type := Call MemoryCmd MemoryCmd.Answer AppError MemoryReply

abbrev MemoryTransition : Type :=
  Transition (Busy InMemoryRuntimeTaskQueue MemoryCmd MemoryCmd.Answer AppError MemoryReply)
    (Move MemoryCmd MemoryCmd.Answer AppError MemoryReply)

/-- No mutex is poisoned, and the clock shows anything. -/
def memoryHandler : Handler InMemoryRuntimeTaskQueue MemoryCmd MemoryCmd.Answer
  | s, .clock, _, t => t = s
  | s, .locked critical, r, t => r = some (critical.run s).1 ∧ t = (critical.run s).2

/-- A program that performs an operation. -/
def Performs (p : MemoryProg MemoryReply) : Prop := ∃ op, p = perform op

/-- The calls of any number of clients, section by section. -/
abbrev MemoryStep := Interleaved memoryHandler Performs

/-- The list has every route with tasks once, and no other route. -/
def Listed (s : InMemoryRuntimeTaskQueue) : Prop :=
  s.routeOrder.Nodup ∧ ∀ route, route ∈ s.routeOrder ↔ s.bucket route ≠ []

/-- A reserve that still has to look at a route when the routes in front of it are not due. -/
inductive LooksAt {α : Type} (route : Route) : MemoryProg α → Prop where
  | here {now : SystemTime} {k : Option FrontTask → MemoryProg α} :
      LooksAt route (.call (.locked (.popReady route now)) k)
  | later {other : Route} {now : SystemTime} {k : Option FrontTask → MemoryProg α} :
      LooksAt route (k (some .notReady)) → LooksAt route (.call (.locked (.popReady other now)) k)

/-- A call that is about to remove a route from the list. -/
def Removes {α : Type} (route : Route) (p : MemoryProg α) : Prop :=
  ∃ k, p = .call (.locked (.removeRoute route)) k

/-- The list is copied when none of the copied routes that are going to be looked at is about to
be removed, and the last task of a route is taken when no other call has to look at it. -/
def Undisturbed : MemoryTransition → Prop
  | ⟨_, .command (.locked .routes) _ call others, _⟩ =>
    ∀ other ∈ others, ∀ route, Removes route other.rest → ¬ LooksAt route call.rest
  | ⟨_, .command (.locked (.popReady route _)) (some (.popped _ true)) _ others, _⟩ =>
    ∀ other ∈ others, ¬ LooksAt route other.rest
  | _ => True

/-- A look at the front of a route finds its bucket. -/
def FindsBucket : MemoryTransition → Prop
  | ⟨_, .command (.locked (.popReady _ _)) (some .noBucket) _ _, _⟩ => False
  | _ => True

/-- A reserve that hands out nothing has looked at all allowed routes of its copy of the list,
and none was due. -/
def LooksAtAll (x : MemoryTransition) : Prop :=
  ∀ call bindings, x.label = .finish call (.ok (.delivery none)) →
    call.program = perform (.reserve bindings) →
    ∃ order now, ⟨.locked .routes, some order⟩ ∈ call.log ∧
      ∀ route ∈ filterRoutes bindings order,
        ⟨.locked (.popReady route now), some .notReady⟩ ∈ call.log

/-- What a call owes to the list of routes. -/
inductive Duty where
  | free
  | copies (bindings : List RuntimeRouteBinding)
  | looks (routes : List Route)
  | appends (route : Route)
  | removes (route : Route)
  deriving DecidableEq

namespace Duty

def permits : Duty → MemoryCmd → Prop
  | .free, .locked .routes => False
  | .free, .locked (.popReady _ _) => False
  | .free, .locked (.appendRoute _) => False
  | .free, .locked (.removeRoute _) => False
  | .free, _ => True
  | .copies _, c => c = .clock ∨ c = .locked .routes
  | .looks [], _ => False
  | .looks (route :: _), c => ∃ now, c = .locked (.popReady route now)
  | .appends route, c => c = .locked (.appendRoute route)
  | .removes route, c => c = .locked (.removeRoute route)

def next : Duty → (c : MemoryCmd) → c.Answer → Duty
  | .copies bindings, .clock, _ => .copies bindings
  | .copies bindings, .locked .routes, some order => .looks (filterRoutes bindings order)
  | .looks (_ :: routes), .locked (.popReady _ _), some .notReady => .looks routes
  | .looks _, .locked (.popReady route _), some (.popped _ true) => .removes route
  | .free, .locked (.pushBack route _), some true => .appends route
  | _, _, _ => .free

def Clear (duty : Duty) : Prop := duty = .free ∨ duty = .looks []

end Duty

/-- Every change of the buckets is followed by the matching change of the list. -/
def routeDiscipline : Discipline MemoryCmd MemoryCmd.Answer Duty := ⟨Duty.permits, Duty.next, Duty.Clear⟩

section Programs

variable {α β : Type} {duty : Duty} {p : MemoryProg α} {f : α → MemoryProg β}

/-- A program that leaves no duty can be followed by another one. -/
theorem follows_bind (first : routeDiscipline.Follows duty p)
    (rest : ∀ a duty, duty.Clear → routeDiscipline.Follows duty (f a)) :
    routeDiscipline.Follows duty (p.bind f) := by
  induction first with
  | ret clear => exact rest _ _ clear
  | fail clear => exact .fail clear
  | call permitted _ ih => exact .call permitted ih

theorem follows_locked {critical : MemorySection} {k : critical.Result → MemoryProg β}
    (permitted : Duty.permits duty (.locked critical))
    (poisoned : (Duty.next duty (.locked critical) none).Clear)
    (rest : ∀ r, routeDiscipline.Follows (duty.next (.locked critical) (some r)) (k r)) :
    routeDiscipline.Follows duty ((locked critical).bind k) := by
  refine .call permitted ?_
  rintro (_ | r)
  · exact .fail poisoned
  · exact rest r

theorem enqueueInternal_follows (queued : QueuedRuntimeTask) :
    routeDiscipline.Follows .free (enqueueInternal queued) := by
  refine follows_locked trivial (.inl rfl) ?_
  intro wasEmpty
  cases wasEmpty with
  | false => exact .ret (.inl rfl)
  | true =>
    refine .call rfl ?_
    rintro (_ | r)
    · exact .fail (.inl rfl)
    · exact .ret (.inl rfl)

theorem reserveFrom_follows (now : SystemTime) (routes : List Route) :
    routeDiscipline.Follows (.looks routes) (reserveFrom now routes) := by
  induction routes with
  | nil => exact .ret (.inr rfl)
  | cons route routes ih =>
    refine .call ⟨now, rfl⟩ ?_
    rintro (_ | _ | _ | ⟨queued, emptied⟩)
    · exact .ret (.inl rfl)
    · exact .ret (.inl rfl)
    · exact ih
    · cases emptied with
      | true =>
        refine .call rfl fun _ => .call trivial fun leasedAt => .call trivial ?_
        rintro (_ | r)
        · exact .ret (.inl rfl)
        · exact .ret (.inl rfl)
      | false =>
        refine .call trivial fun _ => .call trivial fun leasedAt => .call trivial ?_
        rintro (_ | r)
        · exact .ret (.inl rfl)
        · exact .ret (.inl rfl)

theorem reserve_follows (bindings : List RuntimeRouteBinding) :
    routeDiscipline.Follows (.copies bindings) (reserve bindings) := by
  refine .call (.inl rfl) fun now => .call (.inr rfl) ?_
  rintro (_ | order)
  · exact .ret (.inl rfl)
  · exact reserveFrom_follows now (filterRoutes bindings order)

theorem storeDeadLetter_follows (given : RuntimeTaskDelivery) (error : String) :
    routeDiscipline.Follows .free (storeDeadLetter given error) := by
  refine .call trivial fun now => .call trivial ?_
  rintro (_ | stored)
  · exact .fail (.inl rfl)
  · exact .ret (.inl rfl)

/-- A duty that is done leaves the call free, or with no route to look at. -/
theorem Duty.Clear.ret {a : α} (clear : duty.Clear) :
    routeDiscipline.Follows duty (.ret a : MemoryProg α) :=
  .ret clear

/-- A call starts free, or as a reserve that is going to copy the list. -/
theorem perform_follows (op : MemoryOp) : ∃ duty, routeDiscipline.Follows duty (perform op) ∧
    (duty = .free ∨ ∃ bindings, duty = .copies bindings) := by
  cases op with
  | enqueue task =>
    refine ⟨.free, follows_bind (.call trivial fun now => ?_) fun _ _ clear => clear.ret, .inl rfl⟩
    exact enqueueInternal_follows _
  | reserve bindings =>
    refine ⟨.copies bindings, ?_, .inr ⟨bindings, rfl⟩⟩
    exact follows_bind (reserve_follows bindings) fun _ _ clear => clear.ret
  | settle given how =>
    refine ⟨.free, ?_, .inl rfl⟩
    cases how with
    | ack =>
      apply follows_bind _ fun _ _ clear => clear.ret
      exact follows_locked trivial (.inl rfl) fun _ => .ret (.inl rfl)
    | retry error delayMs =>
      apply follows_bind _ fun _ _ clear => clear.ret
      refine follows_locked trivial (.inl rfl) ?_
      rintro (_ | held)
      · exact .fail (.inl rfl)
      · dsimp only
        split
        · exact follows_bind (storeDeadLetter_follows held error) fun _ _ clear => clear.ret
        · refine .call trivial fun now => .call trivial fun fallback => ?_
          exact follows_bind (p := enqueueInternal _) (enqueueInternal_follows _) fun _ _ clear => clear.ret
    | reject error =>
      apply follows_bind _ fun _ _ clear => clear.ret
      refine follows_locked trivial (.inl rfl) ?_
      rintro (_ | held)
      · exact .ret (.inl rfl)
      · exact storeDeadLetter_follows held error
  | replayDeadLetter deliveryId =>
    refine ⟨.free, follows_bind (follows_locked trivial (.inl rfl) ?_) fun _ _ clear => clear.ret,
      .inl rfl⟩
    rintro (_ | record)
    · exact .fail (.inl rfl)
    · refine .call trivial fun now => ?_
      exact follows_bind (p := enqueueInternal _) (enqueueInternal_follows _) fun _ _ clear => clear.ret

/-- A call that owes a removal is about to remove the route. -/
theorem removes_of_follows {route : Route}
    (follows : routeDiscipline.Follows (.removes route) p) : Removes route p := by
  cases follows with
  | ret clear => rcases clear with same | same <;> cases same
  | fail clear => rcases clear with same | same <;> cases same
  | @call _ c k permitted _ =>
    obtain rfl : c = .locked (.removeRoute route) := permitted
    exact ⟨k, rfl⟩

/-- A call that owes a look at some routes looks at each of them. -/
theorem looksAt_of_follows {routes : List Route} {route : Route}
    (follows : routeDiscipline.Follows (.looks routes) p) (mem : route ∈ routes) :
    LooksAt route p := by
  induction routes generalizing p with
  | nil => cases mem
  | cons first routes ih =>
    cases follows with
    | ret clear => rcases clear with same | same <;> cases same
    | fail clear => rcases clear with same | same <;> cases same
    | @call _ c k permitted later =>
      obtain ⟨now, rfl⟩ := permitted
      rcases List.mem_cons.1 mem with rfl | other
      · exact .here
      · exact .later (ih (later (some .notReady)) other)

end Programs

/-- Whether a route has tasks. -/
def InMemoryRuntimeTaskQueue.occupied (s : InMemoryRuntimeTaskQueue) (route : Route) : Nat :=
  if s.bucket route = [] then 0 else 1

/-- The list differs from the routes with tasks by what the calls still owe to it. -/
structure RouteAccount (s : InMemoryRuntimeTaskQueue) (owed : Multiset Duty) : Prop where
  listed : ∀ route, s.routeOrder.count route + owed.count (.appends route) =
    s.occupied route + owed.count (.removes route)
  covered : ∀ route, owed.count (.removes route) ≤ s.routeOrder.count route
  looking : ∀ routes, .looks routes ∈ owed → ∀ route ∈ routes,
    owed.count (.removes route) = 0 ∧ s.routeOrder.count route = 1 ∧ s.bucket route ≠ []
  filled : ∀ route, s.buckets.lookup route ≠ some []

section Account

variable {s u : InMemoryRuntimeTaskQueue} {owed : Multiset Duty} {duty : Duty} {route : Route}
  {now : SystemTime}

theorem count_rotateRoute (route other : Route) (s : InMemoryRuntimeTaskQueue) :
    (s.rotateRoute route).routeOrder.count other = s.routeOrder.count other := by
  unfold rotateRoute
  split_ifs with mem
  · have moved := (List.perm_append_singleton route (s.routeOrder.erase route)).trans
      (List.perm_cons_erase mem).symm
    exact moved.count_eq other
  · rfl

theorem bucket_pushBack (route other : Route) (queued : QueuedRuntimeTask)
    (s : InMemoryRuntimeTaskQueue) : (s.pushBack route queued).2.bucket other =
      if other = route then s.bucket route ++ [queued] else s.bucket other := by
  by_cases same : other = route
  · subst same
    simp [pushBack, bucket]
  · simp [pushBack, bucket, AList.lookup_insert_ne same, same]

/-- A duty that is neither an append nor a removal. -/
def Duty.Light (duty : Duty) : Prop :=
  ∀ route, Duty.appends route ≠ duty ∧ Duty.removes route ≠ duty

theorem count_light (owed : Multiset Duty) (light : duty.Light) (route : Route) :
    (duty ::ₘ owed).count (.appends route) = owed.count (.appends route) ∧
    (duty ::ₘ owed).count (.removes route) = owed.count (.removes route) :=
  ⟨Multiset.count_cons_of_ne (light route).1 _, Multiset.count_cons_of_ne (light route).2 _⟩

/-- A section that changes neither the buckets nor what the list has. -/
theorem RouteAccount.unchanged {duty' : Duty} (account : RouteAccount s (duty ::ₘ owed))
    (light : duty.Light) (light' : duty'.Light) (buckets : u.buckets = s.buckets)
    (order : ∀ route, u.routeOrder.count route = s.routeOrder.count route)
    (looks : ∀ routes, duty' = .looks routes → ∀ route ∈ routes,
      owed.count (.removes route) = 0 ∧ s.routeOrder.count route = 1 ∧ s.bucket route ≠ []) :
    RouteAccount u (duty' ::ₘ owed) := by
  have bucket : ∀ route, u.bucket route = s.bucket route := by
    intro route
    rw [InMemoryRuntimeTaskQueue.bucket, InMemoryRuntimeTaskQueue.bucket, buckets]
  have occupied : ∀ route, u.occupied route = s.occupied route := by
    intro route
    rw [InMemoryRuntimeTaskQueue.occupied, InMemoryRuntimeTaskQueue.occupied, bucket]
  constructor
  · intro route
    have listed := account.listed route
    rw [(count_light owed light route).1, (count_light owed light route).2] at listed
    rw [(count_light owed light' route).1, (count_light owed light' route).2, order, occupied, listed]
  · intro route
    have covered := account.covered route
    rw [(count_light owed light route).2] at covered
    rw [(count_light owed light' route).2, order]
    exact covered
  · intro routes mem route among
    rw [(count_light owed light' route).2, order, bucket]
    rcases Multiset.mem_cons.1 mem with same | old
    · exact looks routes same.symm route among
    · have looking := account.looking routes (Multiset.mem_cons_of_mem old) route among
      rwa [(count_light owed light route).2] at looking
  · intro route
    rw [buckets]
    exact account.filled route

/-- The counts of an append that is owed. -/
theorem count_appends (route other : Route) (owed : Multiset Duty) :
    (.appends route ::ₘ owed).count (.appends other) =
      owed.count (.appends other) + (if other = route then 1 else 0) ∧
    (.appends route ::ₘ owed).count (.removes other) = owed.count (.removes other) := by
  simp [Multiset.count_cons]

/-- The counts of a removal that is owed. -/
theorem count_removes (route other : Route) (owed : Multiset Duty) :
    (.removes route ::ₘ owed).count (.removes other) =
      owed.count (.removes other) + (if other = route then 1 else 0) ∧
    (.removes route ::ₘ owed).count (.appends other) = owed.count (.appends other) := by
  simp [Multiset.count_cons]

theorem light_free : Duty.Light .free := fun _ => ⟨by simp, by simp⟩

theorem light_looks (routes : List Route) : Duty.Light (.looks routes) :=
  fun _ => ⟨by simp, by simp⟩

theorem light_copies (bindings : List RuntimeRouteBinding) : Duty.Light (.copies bindings) :=
  fun _ => ⟨by simp, by simp⟩

/-- The account of a call that owes nothing to the list, without it. -/
theorem RouteAccount.of_light (account : RouteAccount s (duty ::ₘ owed)) (light : duty.Light) :
    RouteAccount s owed := by
  have counts := fun route => count_light owed light route
  refine ⟨fun route => ?_, fun route => ?_, fun routes mem route among => ?_, account.filled⟩
  · have listed := account.listed route
    rwa [(counts route).1, (counts route).2] at listed
  · have covered := account.covered route
    rwa [(counts route).2] at covered
  · have looking := account.looking routes (Multiset.mem_cons_of_mem mem) route among
    rwa [(counts route).2] at looking

theorem occupied_of_bucket (task : s.bucket route ≠ []) : s.occupied route = 1 := if_neg task

/-- A task is put in a bucket, and an empty bucket makes an append due. -/
theorem RouteAccount.pushBack (account : RouteAccount s (.free ::ₘ owed))
    (queued : QueuedRuntimeTask) : RouteAccount (s.pushBack route queued).2
      (Duty.next .free (.locked (.pushBack route queued)) (some (s.pushBack route queued).1) ::ₘ
        owed) := by
  obtain ⟨listed, covered, looking, filled⟩ := account.of_light light_free
  have bucket := fun other => bucket_pushBack route other queued s
  have occupied : ∀ other, (s.pushBack route queued).2.occupied other =
      if other = route then 1 else s.occupied other := by
    intro other
    rw [InMemoryRuntimeTaskQueue.occupied, bucket]
    by_cases same : other = route <;> simp [same, InMemoryRuntimeTaskQueue.occupied]
  have nonempty : ∀ other, s.bucket other ≠ [] → (s.pushBack route queued).2.bucket other ≠ [] := by
    intro other task
    rw [bucket]
    split_ifs
    · simp
    · exact task
  have filled' : ∀ other, (s.pushBack route queued).2.buckets.lookup other ≠ some [] := by
    intro other
    by_cases same : other = route
    · subst same
      simp [InMemoryRuntimeTaskQueue.pushBack]
    · simpa [InMemoryRuntimeTaskQueue.pushBack, AList.lookup_insert_ne same] using filled other
  by_cases empty : s.bucket route = []
  · have first : (s.pushBack route queued).1 = true := by
      simp [InMemoryRuntimeTaskQueue.pushBack, empty]
    rw [first]
    change RouteAccount _ (.appends route ::ₘ owed)
    refine ⟨fun other => ?_, fun other => ?_, fun routes mem other among => ?_, filled'⟩
    · rw [(count_appends route other owed).1, (count_appends route other owed).2, occupied]
      have before := listed other
      split_ifs with same
      · have none : s.occupied other = 0 := by
          rw [same]
          exact if_pos empty
        change s.routeOrder.count other + _ = _
        omega
      · exact before
    · rw [(count_appends route other owed).2]
      exact covered other
    · rw [(count_appends route other owed).2]
      obtain ⟨none, once, task⟩ := looking routes (by simpa using mem) other among
      exact ⟨none, once, nonempty other task⟩
  · have first : (s.pushBack route queued).1 = false := by
      simp [InMemoryRuntimeTaskQueue.pushBack, empty]
    rw [first]
    change RouteAccount _ (.free ::ₘ owed)
    have counts := fun other => count_light owed light_free other
    refine ⟨fun other => ?_, fun other => ?_, fun routes mem other among => ?_, filled'⟩
    · rw [(counts other).1, (counts other).2, occupied]
      have before := listed other
      split_ifs with same
      · rw [same, occupied_of_bucket empty] at before
        rw [same]
        exact before
      · exact before
    · rw [(counts other).2]
      exact covered other
    · rw [(counts other).2]
      obtain ⟨none, once, task⟩ := looking routes (by simpa using mem) other among
      exact ⟨none, once, nonempty other task⟩

/-- An append that was due is made. -/
theorem RouteAccount.appendRoute (account : RouteAccount s (.appends route ::ₘ owed)) :
    RouteAccount (s.appendRoute route) (.free ::ₘ owed) := by
  obtain ⟨listed, covered, looking, filled⟩ := account
  have counts := fun other => count_light owed light_free other
  have order : ∀ other, (s.appendRoute route).routeOrder.count other =
      s.routeOrder.count other + if other = route then 1 else 0 := by
    intro other
    change (s.routeOrder ++ [route]).count other = _
    rw [List.count_append]
    by_cases same : other = route
    · simp [same]
    · simp [same, Ne.symm same]
  refine ⟨fun other => ?_, fun other => ?_, fun routes mem other among => ?_, filled⟩
  · have before := listed other
    rw [(count_appends route other owed).1, (count_appends route other owed).2] at before
    rw [(counts other).1, (counts other).2, order]
    change _ = s.occupied other + _
    omega
  · have before := covered other
    rw [(count_appends route other owed).2] at before
    rw [(counts other).2, order]
    omega
  · obtain ⟨none, once, task⟩ := looking routes (by simpa using mem) other among
    have before := listed other
    rw [(count_appends route other owed).1, none, once, occupied_of_bucket task] at before
    rw [(count_appends route other owed).2] at none
    rw [(counts other).2, order]
    -- A route that is looked at is in the list already, so no append of it is due.
    exact ⟨none, by omega, task⟩

/-- A removal that was due finds its route. -/
theorem RouteAccount.removeRoute (account : RouteAccount s (.removes route ::ₘ owed)) :
    RouteAccount (s.removeRoute route) (.free ::ₘ owed) := by
  obtain ⟨listed, covered, looking, filled⟩ := account
  have counts := fun other => count_light owed light_free other
  have there : 1 ≤ s.routeOrder.count route := by
    have owes := covered route
    rw [(count_removes route route owed).1, if_pos rfl] at owes
    omega
  have order : ∀ other, (s.removeRoute route).routeOrder.count other +
      (if other = route then 1 else 0) = s.routeOrder.count other := by
    intro other
    change (s.routeOrder.erase route).count other + _ = _
    split_ifs with same
    · rw [same, List.count_erase_self]
      omega
    · rw [List.count_erase_of_ne same, Nat.add_zero]
  refine ⟨fun other => ?_, fun other => ?_, fun routes mem other among => ?_, filled⟩
  · have before := listed other
    have removed := order other
    rw [(count_removes route other owed).1, (count_removes route other owed).2] at before
    rw [(counts other).1, (counts other).2]
    change _ = s.occupied other + _
    omega
  · have before := covered other
    have removed := order other
    rw [(count_removes route other owed).1] at before
    rw [(counts other).2]
    omega
  · obtain ⟨none, once, task⟩ := looking routes (by simpa using mem) other among
    have removed := order other
    rw [(count_removes route other owed).1] at none
    rw [(counts other).2]
    exact ⟨by omega, by omega, task⟩

/-- The list is copied by a reserve. -/
theorem RouteAccount.copy {bindings : List RuntimeRouteBinding}
    (account : RouteAccount s (.copies bindings ::ₘ owed))
    (settled : ∀ route ∈ filterRoutes bindings s.routeOrder, .removes route ∉ owed) :
    RouteAccount s (.looks (filterRoutes bindings s.routeOrder) ::ₘ owed) := by
  apply account.unchanged (light_copies bindings) (light_looks _) rfl fun _ => rfl
  rintro _ ⟨⟩ route among
  have none : owed.count (.removes route) = 0 := Multiset.count_eq_zero.2 (settled route among)
  have listed := (account.of_light (light_copies bindings)).listed route
  have mem : route ∈ s.routeOrder := by
    rw [filterRoutes] at among
    split_ifs at among
    · exact among
    · exact (List.mem_filter.1 among).1
  have there := List.count_pos_iff.2 mem
  rw [none, InMemoryRuntimeTaskQueue.occupied] at listed
  split_ifs at listed with empty
  · omega
  · exact ⟨none, by omega, empty⟩

/-- What a look at a route finds when the account is right. -/
theorem RouteAccount.look {routes : List Route}
    (account : RouteAccount s (.looks (route :: routes) ::ₘ owed)) (now : SystemTime) :
    (s.popReady route now = (.notReady, s)) ∨
    (∃ front, s.buckets.lookup route = some [front] ∧
      s.popReady route now = (.popped front true, { s with buckets := s.buckets.erase route })) ∨
    ∃ front next rest, s.buckets.lookup route = some (front :: next :: rest) ∧
      s.popReady route now = (.popped front false,
        { s with buckets := s.buckets.insert route (next :: rest) }) := by
  obtain ⟨-, -, task⟩ := account.looking _ (Multiset.mem_cons_self _ _) route List.mem_cons_self
  rw [bucket] at task
  unfold popReady
  rcases found : s.buckets.lookup route with _ | _ | ⟨front, rest⟩
  · simp [found] at task
  · simp [found] at task
  · by_cases due : front.availableAt > now
    · exact .inl (by simp [due])
    · cases rest with
      | nil => exact .inr (.inl ⟨front, rfl, by simp [due]⟩)
      | cons next rest => exact .inr (.inr ⟨front, next, rest, rfl, by simp [due]⟩)

/-- The last task of a route is taken, and its removal from the list becomes due. -/
theorem RouteAccount.emptied {routes : List Route}
    (account : RouteAccount s (.looks (route :: routes) ::ₘ owed))
    (unseen : ∀ others, .looks others ∈ owed → route ∉ others) :
    RouteAccount { s with buckets := s.buckets.erase route } (.removes route ::ₘ owed) := by
  obtain ⟨none, once, task⟩ :=
    account.looking _ (Multiset.mem_cons_self _ _) route List.mem_cons_self
  rw [(count_light owed (light_looks _) route).2] at none
  obtain ⟨listed, covered, looking, filled⟩ := account.of_light (light_looks _)
  have bucket : ∀ other, other ≠ route →
      ({ s with buckets := s.buckets.erase route } : InMemoryRuntimeTaskQueue).bucket other =
        s.bucket other := by
    intro other different
    simp [InMemoryRuntimeTaskQueue.bucket, AList.lookup_erase_ne different]
  have empty : ({ s with buckets := s.buckets.erase route } :
      InMemoryRuntimeTaskQueue).bucket route = [] := by
    simp [InMemoryRuntimeTaskQueue.bucket]
  refine ⟨fun other => ?_, fun other => ?_, fun others mem other among => ?_, fun other => ?_⟩
  · have before := listed other
    rw [(count_removes route other owed).1, (count_removes route other owed).2,
      InMemoryRuntimeTaskQueue.occupied]
    by_cases same : other = route
    · subst same
      rw [occupied_of_bucket task] at before
      rw [if_pos empty, if_pos rfl]
      change s.routeOrder.count other + _ = _
      omega
    · rw [bucket other same, if_neg same]
      exact before
  · have before := covered other
    rw [(count_removes route other owed).1]
    change _ ≤ s.routeOrder.count other
    split_ifs with same
    · subst same
      omega
    · exact before
  · have old : .looks others ∈ owed := by simpa using mem
    have different : other ≠ route := by
      intro same
      exact unseen others old (same ▸ among)
    rw [(count_removes route other owed).1, if_neg different, bucket other different]
    exact looking others old other among
  · by_cases same : other = route
    · subst same
      simp
    · rw [AList.lookup_erase_ne same]
      exact filled other

/-- A task is taken that is not the last one of its route. -/
theorem RouteAccount.taken {routes : List Route} {rest : List QueuedRuntimeTask}
    (account : RouteAccount s (.looks (route :: routes) ::ₘ owed)) (more : rest ≠ []) :
    RouteAccount { s with buckets := s.buckets.insert route rest } (.free ::ₘ owed) := by
  obtain ⟨-, -, task⟩ :=
    account.looking _ (Multiset.mem_cons_self _ _) route List.mem_cons_self
  obtain ⟨listed, covered, looking, filled⟩ := account.of_light (light_looks _)
  have counts := fun other => count_light owed light_free other
  have bucket : ∀ other, ({ s with buckets := s.buckets.insert route rest } :
      InMemoryRuntimeTaskQueue).bucket other = [] ↔ s.bucket other = [] := by
    intro other
    by_cases same : other = route
    · subst same
      simp [InMemoryRuntimeTaskQueue.bucket, more]
      exact task
    · simp [InMemoryRuntimeTaskQueue.bucket, AList.lookup_insert_ne same]
  refine ⟨fun other => ?_, fun other => ?_, fun others mem other among => ?_, fun other => ?_⟩
  · rw [(counts other).1, (counts other).2, InMemoryRuntimeTaskQueue.occupied, if_congr (bucket other) rfl rfl]
    exact listed other
  · rw [(counts other).2]
    exact covered other
  · rw [(counts other).2, Ne, bucket]
    exact looking others (by simpa using mem) other among
  · by_cases same : other = route
    · subst same
      simpa using more
    · rw [AList.lookup_insert_ne same]
      exact filled other

/-- A call that starts owes nothing to the list. -/
theorem RouteAccount.start (account : RouteAccount s owed) (light : duty.Light)
    (unseen : ∀ routes, duty ≠ .looks routes) : RouteAccount s (duty ::ₘ owed) := by
  obtain ⟨listed, covered, looking, filled⟩ := account
  have counts := fun other => count_light owed light other
  refine ⟨fun other => ?_, fun other => ?_, fun routes mem other among => ?_, filled⟩
  · rw [(counts other).1, (counts other).2]
    exact listed other
  · rw [(counts other).2]
    exact covered other
  · rw [(counts other).2]
    rcases Multiset.mem_cons.1 mem with same | old
    · exact absurd same.symm (unseen routes)
    · exact looking routes old other among

/-- Every section that a call may enter keeps the account, with what the call owes after it. -/
theorem RouteAccount.step {c : MemoryCmd} {r : c.Answer} {call : MemoryCall}
    {others : Multiset MemoryCall} {before : Busy InMemoryRuntimeTaskQueue MemoryCmd
      MemoryCmd.Answer AppError MemoryReply} (account : RouteAccount s (duty ::ₘ owed))
    (permitted : duty.permits c) (follows : routeDiscipline.Follows (duty.next c r) call.rest)
    (related : Multiset.Rel (fun g call => routeDiscipline.Follows g call.rest) owed others)
    (answered : memoryHandler s c r u)
    (undisturbed : Undisturbed ⟨before, .command c r call others, ⟨u, call ::ₘ others⟩⟩) :
    RouteAccount u (duty.next c r ::ₘ owed) := by
  have caller : ∀ g ∈ owed, ∃ other ∈ others, routeDiscipline.Follows g other.rest := by
    intro g mem
    exact Multiset.exists_mem_of_rel_of_mem related mem
  cases duty with
  | free =>
    have same : ∀ routes, Duty.free = .looks routes → ∀ route ∈ routes,
        owed.count (.removes route) = 0 ∧ s.routeOrder.count route = 1 ∧ s.bucket route ≠ [] := by
      intro routes none
      cases none
    cases c with
    | clock =>
      obtain rfl : u = s := answered
      exact account
    | locked critical =>
      obtain ⟨rfl, rfl⟩ := answered
      cases critical with
      | pushBack route queued => exact account.pushBack queued
      | rotateRoute route =>
        apply account.unchanged light_free light_free _ (count_rotateRoute route · s) same
        simp only [rotateRoute]
        split_ifs <;> rfl
      | insertLease delivery => exact account.unchanged light_free light_free rfl (fun _ => rfl) same
      | removeLease deliveryId => exact account.unchanged light_free light_free rfl (fun _ => rfl) same
      | pushDeadLetter record => exact account.unchanged light_free light_free rfl (fun _ => rfl) same
      | takeDeadLetter deliveryId =>
        exact account.unchanged light_free light_free rfl (fun _ => rfl) same
      | appendRoute => cases permitted
      | removeRoute => cases permitted
      | routes => cases permitted
      | popReady => cases permitted
  | copies bindings =>
    rcases permitted with rfl | rfl
    · obtain rfl : u = s := answered
      exact account
    · obtain ⟨rfl, rfl⟩ := answered
      apply account.copy
      intro route among owes
      obtain ⟨other, mem, removes⟩ := caller _ owes
      exact undisturbed other mem route (removes_of_follows removes)
        (looksAt_of_follows follows among)
  | looks routes =>
    cases routes with
    | nil => cases permitted
    | cons route routes =>
      obtain ⟨now, rfl⟩ := permitted
      obtain ⟨rfl, rfl⟩ := answered
      rcases account.look now with look | ⟨front, found, look⟩ | ⟨front, next, rest, found, look⟩
      · simp only [MemorySection.run, look]
        apply account.unchanged (light_looks _) (light_looks _) rfl fun _ => rfl
        rintro _ ⟨⟩ other among
        have looking := account.looking _ (Multiset.mem_cons_self _ _) other
          (List.mem_cons_of_mem _ among)
        rwa [(count_light owed (light_looks _) other).2] at looking
      · simp only [MemorySection.run, look] at undisturbed ⊢
        apply account.emptied
        intro seen owes among
        obtain ⟨other, mem, looks⟩ := caller _ owes
        exact undisturbed other mem (looksAt_of_follows looks among)
      · simp only [MemorySection.run, look]
        exact account.taken (by simp)
  | appends route =>
    obtain rfl := permitted
    obtain ⟨rfl, rfl⟩ := answered
    exact account.appendRoute
  | removes route =>
    obtain rfl := permitted
    obtain ⟨rfl, rfl⟩ := answered
    exact account.removeRoute

end Account

/-- No mutex is poisoned, and every look finds a bucket. -/
def Found : (c : MemoryCmd) → c.Answer → Prop
  | .locked (.popReady _ _), some .noBucket => False
  | .locked _, none => False
  | _, _ => True

/-- The loop of a reserve that hands out nothing has looked at all of its routes. -/
theorem reserveFrom_looks {now : SystemTime} {routes : List Route}
    {log log' : List (Sigma MemoryCmd.Answer)}
    (run : Exec (logging Found) (reserveFrom now routes) log (.ok none) log') :
    log <+: log' ∧ ∀ route ∈ routes, ⟨.locked (.popReady route now), some .notReady⟩ ∈ log' := by
  induction routes generalizing log with
  | nil =>
    obtain ⟨-, rfl⟩ := exec_ret.1 run
    exact ⟨List.prefix_rfl, by simp⟩
  | cons route routes ih =>
    obtain ⟨answer, _, ⟨found, rfl⟩, run⟩ := exec_call.1 run
    rcases answer with _ | _ | _ | ⟨queued, emptied⟩
    · cases found
    · cases found
    · obtain ⟨longer, looked⟩ := ih run
      have mem : ⟨.locked (.popReady route now), some .notReady⟩ ∈ log' :=
        longer.subset (by simp)
      refine ⟨(List.prefix_append _ _).trans longer, ?_⟩
      intro other among
      rcases List.mem_cons.1 among with rfl | later
      · exact mem
      · exact looked other later
    · -- A reserve that has taken a task hands it out when no mutex is poisoned.
      cases emptied
      all_goals
        obtain ⟨_, _, -, run⟩ := exec_call.1 run
        obtain ⟨leasedAt, _, -, run⟩ := exec_call.1 run
        obtain ⟨answer, _, ⟨found, -⟩, run⟩ := exec_call.1 run
        cases answer with
        | none => cases found
        | some stored =>
          obtain ⟨same, -⟩ := exec_ret.1 run
          cases same

theorem reserve_looks {bindings : List RuntimeRouteBinding} {log : List (Sigma MemoryCmd.Answer)}
    (run : Exec (logging Found) (perform (.reserve bindings)) [] (.ok (.delivery none)) log) :
    ∃ order now, ⟨.locked .routes, some order⟩ ∈ log ∧ ∀ route ∈ filterRoutes bindings order,
      ⟨.locked (.popReady route now), some .notReady⟩ ∈ log := by
  rcases exec_bind.1 run with ⟨handed, _, run, last⟩ | ⟨e, -, same⟩
  · obtain ⟨same, rfl⟩ := exec_ret.1 last
    obtain rfl : handed = none := by
      cases same
      rfl
    obtain ⟨now, _, ⟨-, rfl⟩, run⟩ := exec_call.1 run
    obtain ⟨answer, _, ⟨found, rfl⟩, run⟩ := exec_call.1 run
    cases answer with
    | none => cases found
    | some order =>
      obtain ⟨longer, looked⟩ := reserveFrom_looks run
      exact ⟨order, now, longer.subset (by simp), looked⟩
  · cases same

/-- A permitted look finds a bucket when the account is right. -/
theorem RouteAccount.found {s u : InMemoryRuntimeTaskQueue} {owed : Multiset Duty} {duty : Duty}
    {c : MemoryCmd} {r : c.Answer} (account : RouteAccount s (duty ::ₘ owed))
    (permitted : duty.permits c) (answered : memoryHandler s c r u) : Found c r := by
  cases c with
  | clock => trivial
  | locked critical =>
    obtain ⟨rfl, -⟩ := answered
    cases critical with
    | popReady route now =>
      have looks : ∃ routes, duty = .looks (route :: routes) := by
        rcases duty with _ | _ | (_ | ⟨first, routes⟩) | _ | _
        · cases permitted
        · rcases permitted with same | same <;> cases same
        · cases permitted
        · obtain ⟨then_, same⟩ := permitted
          cases same
          exact ⟨routes, rfl⟩
        · cases permitted
        · cases permitted
      obtain ⟨routes, rfl⟩ := looks
      rcases account.look now with look | ⟨front, -, look⟩ | ⟨front, next, rest, -, look⟩
      · simp only [MemorySection.run, look]
        trivial
      · simp only [MemorySection.run, look]
        trivial
      · simp only [MemorySection.run, look]
        trivial
    | _ => trivial

theorem RouteAccount.idle {s : InMemoryRuntimeTaskQueue} (account : RouteAccount s 0) : Listed s := by
  have listed : ∀ route, s.routeOrder.count route = s.occupied route := by
    intro route
    simpa using account.listed route
  constructor
  · rw [List.nodup_iff_count_le_one]
    intro route
    rw [listed, occupied]
    split_ifs <;> omega
  · intro route
    rw [← List.count_pos_iff, listed, occupied]
    split_ifs with empty
    · simp [empty]
    · simp [empty]

theorem account_default : RouteAccount .default 0 := by
  refine ⟨fun route => ?_, fun route => ?_, fun routes mem => ?_, fun route => ?_⟩
  · rfl
  · exact Nat.le_refl _
  · cases Multiset.notMem_zero _ mem
  · simp [InMemoryRuntimeTaskQueue.default]

/-- In every undisturbed interleaving the list is right whenever no call is in progress, every
look finds a bucket, and a reserve hands out nothing only after it has looked everywhere. -/
theorem listed_of_undisturbed {moves : List MemoryTransition}
    {t : Busy InMemoryRuntimeTaskQueue MemoryCmd MemoryCmd.Answer AppError MemoryReply}
    (run : Run MemoryStep ⟨.default, 0⟩ moves t) (undisturbed : ∀ x ∈ moves, Undisturbed x) :
    (t.calls = 0 → Listed t.state) ∧ (∀ x ∈ moves, FindsBucket x) ∧ ∀ x ∈ moves, LooksAtAll x := by
  let Kept : Busy InMemoryRuntimeTaskQueue MemoryCmd MemoryCmd.Answer AppError MemoryReply → Prop :=
    Disciplined routeDiscipline RouteAccount
  have keeps : ∀ b m b', Kept b → MemoryStep b m b' → Undisturbed ⟨b, m, b'⟩ → Kept b' := by
    intro b m b' kept step still
    refine Disciplined.step ?_ ?_ ?_ kept step still
    · rintro _ ⟨op, rfl⟩
      obtain ⟨duty, follows, rfl | ⟨bindings, rfl⟩⟩ := perform_follows op
      · exact ⟨_, follows, fun _ _ account => account.start light_free (by simp)⟩
      · exact ⟨_, follows, fun _ _ account => account.start (light_copies bindings) (by simp)⟩
    · rintro s duty owed (rfl | rfl) account
      · exact account.of_light light_free
      · exact account.of_light (light_looks [])
    · intro s duty owed c r u call others before account permitted follows related answered still
      exact account.step permitted follows related answered still
  have start : Kept ⟨.default, 0⟩ := Disciplined.idle account_default
  have found : ∀ x ∈ moves, AnswersAllowed Found x := by
    refine run.forall_of Kept keeps ?_ start undisturbed
    rintro b m b' kept step - c r call others rfl
    cases step with
    | command answered =>
      obtain ⟨duty, owed, permitted, -, -, account⟩ := Disciplined.at_command kept
      exact account.found permitted answered
  refine ⟨fun idle => ?_, fun x mem => ?_, fun x mem => ?_⟩
  · have last : Kept t := run.invariant_of Kept keeps start undisturbed
    obtain ⟨s, calls⟩ := t
    obtain rfl : calls = 0 := idle
    exact (Disciplined.of_idle last).idle
  · obtain ⟨b, _ | ⟨c, r, call, others⟩ | _, b'⟩ := x
    · trivial
    · have allowed := found _ mem c r call others rfl
      unfold FindsBucket
      split
      · rename_i same
        cases same
        exact allowed
      · trivial
    · trivial
  · intro call bindings finished same
    obtain ⟨-, alone⟩ := exec_of_finish run found x mem call _ finished
    rw [same] at alone
    exact reserve_looks alone

/-- The answers of a queue whose clock has stopped. -/
def memoryAnswer (s : InMemoryRuntimeTaskQueue) : (c : MemoryCmd) → c.Answer × InMemoryRuntimeTaskQueue
  | .clock => (0, s)
  | .locked critical => (some (critical.run s).1, (critical.run s).2)

theorem memoryAnswer_admitted (s : InMemoryRuntimeTaskQueue) (c : MemoryCmd) :
    memoryHandler s c (memoryAnswer s c).1 (memoryAnswer s c).2 := by
  cases c with
  | clock => rfl
  | locked critical => exact ⟨rfl, rfl⟩

theorem memoryAnswer_poisonable (s : InMemoryRuntimeTaskQueue) (c : MemoryCmd) :
    poisonableMemoryHandler s c (memoryAnswer s c).1 (memoryAnswer s c).2 := by
  cases c with
  | clock => rfl
  | locked critical => exact .inr ⟨rfl, rfl⟩

/-- The routes that a reserve still has to look at when none of them is due. -/
def stillLookedAt {α : Type} : MemoryProg α → List Route
  | .call (.locked (.popReady route _)) k => route :: stillLookedAt (k (some .notReady))
  | _ => []

theorem mem_stillLookedAt {α : Type} {route : Route} {p : MemoryProg α} (looks : LooksAt route p) :
    route ∈ stillLookedAt p := by
  induction looks with
  | here => exact List.mem_cons_self
  | later _ ih => exact List.mem_cons_of_mem _ ih

/-- Whether a call that is about to remove a route would disturb one that looks at routes. -/
def sparesRemoved {α : Type} (routes : List Route) : MemoryProg α → Bool
  | .call (.locked (.removeRoute route)) _ => route ∉ routes
  | _ => true

/-- The test of a schedule for disturbances. -/
def calm (_ : InMemoryRuntimeTaskQueue) :
    (c : MemoryCmd) → c.Answer → MemoryCall → List MemoryCall → Bool
  | .locked .routes, _, call, others =>
    others.all fun other => sparesRemoved (stillLookedAt call.rest) other.rest
  | .locked (.popReady route _), some (.popped _ true), _, others =>
    others.all fun other => route ∉ stillLookedAt other.rest
  | _, _, _, _ => true

theorem undisturbed_of_calm {x : MemoryTransition}
    (passed : ∀ c r call others, x.label = .command c r call others →
      ∃ list : List MemoryCall, others = ↑list ∧ calm x.before.state c r call list = true) :
    Undisturbed x := by
  obtain ⟨b, _ | ⟨c, r, call, others⟩ | _, b'⟩ := x
  · trivial
  · obtain ⟨list, rfl, quiet⟩ := passed c r call others rfl
    unfold Undisturbed
    split
    · rename_i same
      cases same
      rintro other mem route ⟨k, removes⟩ looks
      have spared := List.all_eq_true.1 quiet other mem
      rw [removes] at spared
      exact of_decide_eq_true spared (mem_stillLookedAt looks)
    · rename_i same
      cases same
      intro other mem looks
      exact of_decide_eq_true (List.all_eq_true.1 quiet other mem) (mem_stillLookedAt looks)
    · trivial
  · trivial

/-- While one reserve is between taking the last task of a route and removing the route, another
task of the route is put in, and another reserve serves another route. -/
def overlappingTurns : List (MemoryOp ⊕ Nat) :=
  .inl (.enqueue (sampleTask "task-1" "judge-a" 3)) :: inTurn 4 [0] ++
  .inl (.enqueue (sampleTask "task-2" "judge-b" 3)) :: inTurn 4 [0] ++
  .inl (.reserve []) :: .inl (.enqueue (sampleTask "task-3" "judge-a" 3)) ::
  .inl (.reserve [⟨"judge-b", "fast"⟩]) :: inTurn 3 [0] ++ inTurn 2 [1] ++ inTurn 3 [2] ++
  [.inr 0, .inr 1] ++ inTurn 4 [2] ++ [.inr 1] ++ inTurn 3 [0]

/-- The schedule, as long as nothing disturbs a reserve. -/
def overlappingRun :
    Option ((InMemoryRuntimeTaskQueue × List MemoryCall) × List (Sigma MemoryCmd.Answer)) :=
  tryPlay (fun q c => some (memoryAnswer q c)) calm .default [] (schedule perform overlappingTurns)

theorem listed_of_overlapping : ∃ moves q, Run MemoryStep ⟨.default, 0⟩ moves ⟨q, 0⟩ ∧
    (q.routeOrder = [("judge-a", "fast")] ∧ q.leased.keys.length = 2) ∧
    Listed q ∧ (∀ x ∈ moves, FindsBucket x) ∧ ∀ x ∈ moves, LooksAtAll x := by
  have ended : overlappingRun.map (fun ran => (ran.1.1.routeOrder, ran.1.1.leased.keys.length,
      ran.1.2.isEmpty)) = some ([("judge-a", "fast")], 2, true) := by
    decide +kernel
  obtain ⟨⟨⟨q, left⟩, entries⟩, played, same⟩ := Option.map_eq_some_iff.1 ended
  obtain ⟨order, leased, none⟩ : q.routeOrder = [("judge-a", "fast")] ∧
      q.leased.keys.length = 2 ∧ left.isEmpty = true := by simpa using same
  obtain rfl := List.isEmpty_iff.1 none
  obtain ⟨moves, run, passes⟩ := run_tryPlay Performs (admits_some memoryAnswer_admitted)
    (fun _ => named_of_start) played
  obtain ⟨listed, found, looked⟩ := listed_of_undisturbed run fun x mem =>
    undisturbed_of_calm (passes.tested x mem)
  exact ⟨moves, q, run, ⟨order, leased⟩, listed rfl, found, looked⟩

/-- A reserve that has copied the list takes a task which was put in after the route was removed,
and before it is listed again. -/
def staleRouteSchedule : List (Turn MemoryCmd MemoryCmd.Answer AppError MemoryReply) :=
  schedule perform <|
    .inl (.enqueue (sampleTask "task-1" "judge-a" 3)) :: inTurn 4 [0] ++
    .inl (.reserve []) :: inTurn 2 [0] ++ .inl (.reserve []) :: inTurn 7 [1] ++
    .inl (.enqueue (sampleTask "task-2" "judge-a" 3)) :: inTurn 2 [1] ++ inTurn 7 [0] ++
    .inl (.enqueue (sampleTask "task-3" "judge-b" 3)) :: inTurn 4 [0]

/-- The queue when all calls of the schedule have ended. -/
def staleRouteQueue : InMemoryRuntimeTaskQueue := (play memoryAnswer .default [] staleRouteSchedule).1

/-- The list has a route without tasks, and a reserve that meets it hands out nothing although
another route has a task that is due. -/
theorem stale_route_starves :
    (∃ moves, Run MemoryStep ⟨.default, 0⟩ moves ⟨staleRouteQueue, 0⟩) ∧
    ¬ Listed staleRouteQueue ∧
    (staleRouteQueue.bucket ("judge-b", "fast")).map (·.availableAt) = [0] ∧
    (match ((reserve []).eval memoryAnswer staleRouteQueue).1 with
      | .ok none => true
      | _ => false) = true := by
  refine ⟨?_, ?_, by decide +kernel, by decide +kernel⟩
  · have ended : (play memoryAnswer .default [] staleRouteSchedule).2 = [] := by
      rw [← List.isEmpty_iff]
      decide +kernel
    obtain ⟨moves, run⟩ := run_play Performs memoryAnswer_admitted .default [] staleRouteSchedule
      fun _ => named_of_start
    rw [ended] at run
    exact ⟨moves, run⟩
  · rintro ⟨-, listed⟩
    have empty : ("judge-a", "fast") ∈ staleRouteQueue.routeOrder := by decide +kernel
    have task := (listed _).1 empty
    have none : staleRouteQueue.bucket ("judge-a", "fast") = [] := by decide +kernel
    exact task none

end NexusCore.Runtime
