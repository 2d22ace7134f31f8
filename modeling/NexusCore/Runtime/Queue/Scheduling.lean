import NexusCore.Runtime.Queue.Sequential

/-!
# Which task the in-memory queue hands out

1. A reserve hands out a task if and only if some allowed route has a due task at its front. A
   task that waits for its retry hides the due ones behind it.
2. A route that hands out a task goes behind all routes that have one, so between two of its tasks
   every other route that is due has its turn.
3. The tasks of one route are handed out in the order in which they came.
-/

namespace NexusCore.Runtime

open NexusCore.Lib InMemoryRuntimeTaskQueue TimedMemoryQueue

/-- A route that the bindings allow. -/
def Allowed (bindings : List RuntimeRouteBinding) (route : Route) : Prop :=
  bindings = [] ∨ ⟨route.1, route.2⟩ ∈ bindings

theorem mem_filterRoutes {bindings : List RuntimeRouteBinding} {order : List Route} {route : Route} :
    route ∈ filterRoutes bindings order ↔ route ∈ order ∧ Allowed bindings route := by
  unfold filterRoutes Allowed
  cases bindings with
  | nil => simp
  | cons first rest =>
    have bound : (first :: rest).any (fun binding => (binding.queue, binding.lane) == route) ↔
        ⟨route.1, route.2⟩ ∈ first :: rest := by
      rw [List.any_eq_true]
      constructor
      · intro ⟨binding, mem, same⟩
        rw [← eq_of_beq same]
        exact mem
      · intro mem
        exact ⟨_, mem, beq_self_eq_true _⟩
    rw [if_neg (by simp), List.mem_filter, bound]
    simp

theorem filterRoutes_append_cons {bindings : List RuntimeRouteBinding} {route : Route}
    (allowed : Allowed bindings route) (front back : List Route) :
    filterRoutes bindings (front ++ route :: back) =
      filterRoutes bindings front ++ route :: filterRoutes bindings back := by
  have kept : route ∈ filterRoutes bindings [route] :=
    mem_filterRoutes.2 ⟨List.mem_singleton_self _, allowed⟩
  unfold filterRoutes at *
  split_ifs with all
  · rfl
  · rw [if_neg all, List.mem_filter] at kept
    rw [List.filter_append, List.filter_cons, if_pos kept.2]

section Conservation

variable {readings : Nat → SystemTime} {s : InMemoryRuntimeTaskQueue}
  {bindings : List RuntimeRouteBinding}

/-- A reserve hands out a task if and only if some allowed route has a due task in its bucket. -/
def Conserving (readings : Nat → SystemTime) (s : InMemoryRuntimeTaskQueue)
    (bindings : List RuntimeRouteBinding) : Prop :=
  (∃ delivery, TimedMemoryQueue.reply ⟨readings, s⟩ (.reserve bindings) =
      .ok (.delivery (some delivery))) ↔
    ∃ route, Allowed bindings route ∧ ∃ queued ∈ s.bucket route, queued.availableAt ≤ readings 0

theorem due_iff {now : SystemTime} {route : Route} :
    s.due now route ↔ ∃ queued rest, s.bucket route = queued :: rest ∧ queued.availableAt ≤ now := by
  unfold due
  cases s.bucket route <;> simp

/-- A reserve looks at the fronts of the allowed routes. -/
theorem reserve_returns_iff (tidy : s.Tidy) :
    (∃ delivery, TimedMemoryQueue.reply ⟨readings, s⟩ (.reserve bindings) =
      .ok (.delivery (some delivery))) ↔
    ∃ route, Allowed bindings route ∧ s.due (readings 0) route := by
  have moves := moves_after (w := ⟨readings, s⟩) tidy (.reserve bindings)
  generalize TimedMemoryQueue.reply ⟨readings, s⟩ (.reserve bindings) = r at moves
  generalize (TimedMemoryQueue.after ⟨readings, s⟩ (.reserve bindings)).queue = t at moves
  cases moves with
  | idle late =>
    apply iff_of_false
    · simp
    · intro ⟨route, allowed, due⟩
      have listed : route ∈ s.routeOrder := by
        obtain ⟨queued, rest, first, -⟩ := due_iff.1 due
        rw [tidy.listed, first]
        exact List.cons_ne_nil _ _
      have waits := late route (mem_filterRoutes.2 ⟨listed, allowed⟩)
      rw [waits] at due
      cases due
  | @reserved _ front back route queued rest leasedAt order passed first ready =>
    apply iff_of_true
    · exact ⟨_, rfl⟩
    · have mem : route ∈ filterRoutes bindings s.routeOrder := by
        rw [order]
        simp
      exact ⟨route, (mem_filterRoutes.1 mem).2, due_iff.2 ⟨queued, rest, first, ready⟩⟩

/-- In every state that one client reaches, for all bindings and at every time, a reserve conserves
work if and only if some allowed route has a due task at its front, or none has one at all. -/
theorem conserving_iff {start : Nat → SystemTime}
    {moves : List (Transition TimedMemoryQueue MemoryOp)} {w : TimedMemoryQueue}
    (run : Run Alone ⟨start, .default⟩ moves w) (readings : Nat → SystemTime)
    (bindings : List RuntimeRouteBinding) :
    Conserving readings w.queue bindings ↔
      (∃ route, Allowed bindings route ∧ w.queue.due (readings 0) route) ∨
        ∀ route, Allowed bindings route → ∀ queued ∈ w.queue.bucket route,
          readings 0 < queued.availableAt := by
  unfold Conserving
  rw [reserve_returns_iff (tidy_run run)]
  constructor
  · intro conserving
    by_cases front : ∃ route, Allowed bindings route ∧ w.queue.due (readings 0) route
    · exact .inl front
    · right
      intro route allowed queued mem
      by_contra ready
      exact front (conserving.2 ⟨route, allowed, queued, mem, not_lt.1 ready⟩)
  · intro condition
    constructor
    · intro ⟨route, allowed, due⟩
      obtain ⟨queued, rest, first, ready⟩ := due_iff.1 due
      exact ⟨route, allowed, queued, by rw [first]; exact List.mem_cons_self, ready⟩
    · intro ⟨route, allowed, queued, mem, ready⟩
      rcases condition with front | late
      · exact front
      · exact absurd ready (not_le.2 (late route allowed queued mem))

/-- The operations of a worker that retries a task later, while another one comes in on a route. -/
def delayedRetry (queue : String) : List MemoryOp :=
  let first := sampleTask "task-1" "judge-a" 3
  [.enqueue first, .reserve [],
    .settle (delivery { task := first, attempt := 1, availableAt := 0, lastError := none } 0)
      (.retry "busy" 60000),
    .enqueue (sampleTask "task-2" queue 3)]

/-- The other task is on another route and due; and the first route has nothing that is due. -/
theorem conserving_sample : ∃ moves w, Run Alone ⟨fun _ => 0, .default⟩ moves w ∧
    Conserving (fun _ => 0) w.queue [] ∧ Conserving (fun _ => 0) w.queue [⟨"judge-a", "fast"⟩] := by
  have run := run_trace TimedMemoryQueue.after ⟨fun _ => 0, .default⟩ (delayedRetry "judge-b")
  refine ⟨_, _, run, (conserving_iff run _ _).2 (.inl ?_), (conserving_iff run _ _).2 (.inr ?_)⟩
  · exact ⟨("judge-b", "fast"), .inl rfl, by decide +kernel⟩
  · intro route allowed queued mem
    obtain rfl : route = ("judge-a", "fast") := by simpa [Allowed, Prod.ext_iff] using allowed
    revert queued
    decide +kernel

/-- The second task is due, and a reserve hands out nothing. -/
theorem delayed_hides_due : ∃ moves w, Run Alone ⟨fun _ => 0, .default⟩ moves w ∧
    ¬ Conserving (fun _ => 0) w.queue [] := by
  refine ⟨_, _, run_trace TimedMemoryQueue.after ⟨fun _ => 0, .default⟩ (delayedRetry "judge-a"), ?_⟩
  intro conserving
  obtain ⟨delivery, handed⟩ := conserving.2 ⟨("judge-a", "fast"), .inl rfl,
    { task := sampleTask "task-2" "judge-a" 3, attempt := 1, availableAt := 0, lastError := none },
    by decide +kernel, le_rfl⟩
  have nothing : TimedMemoryQueue.reply ⟨fun _ => 0, ((delayedRetry "judge-a").foldl
      TimedMemoryQueue.after ⟨fun _ => 0, .default⟩).queue⟩ (.reserve []) =
        .ok (.delivery none) := by
    rfl
  rw [handed] at nothing
  cases nothing

end Conservation

section Turns

variable {a b : Route} {s t : InMemoryRuntimeTaskQueue} {now : SystemTime} {op : MemoryOp}
  {r : Except AppError MemoryReply}

/-- The listed routes in front of a route do not have another one among them. -/
def Ahead (b a : Route) (s : InMemoryRuntimeTaskQueue) : Prop :=
  ∃ front back, s.routeOrder = front ++ b :: back ∧ a ∉ front

/-- A route that has handed out a task is behind every other listed one. -/
theorem ahead_of_take (tidy : s.Tidy) {queued : QueuedRuntimeTask} {rest : List QueuedRuntimeTask}
    (first : s.bucket a = queued :: rest) (other : b ≠ a) (listed : b ∈ s.routeOrder) :
    Ahead b a (s.take a) := by
  have mem : a ∈ s.routeOrder := by
    rw [tidy.listed, first]
    exact List.cons_ne_nil _ _
  obtain ⟨front, back, split⟩ := List.append_of_mem ((List.mem_erase_of_ne other).2 listed)
  have gone : a ∉ front := by
    intro there
    refine tidy.nodup.not_mem_erase (a := a) ?_
    rw [split]
    exact List.mem_append_left _ there
  unfold Ahead
  rw [routeOrder_take first mem]
  split_ifs
  · exact ⟨front, back, split, gone⟩
  · refine ⟨front, back ++ [a], ?_, gone⟩
    rw [split]
    simp

/-- A route keeps its place until its own turn comes. -/
theorem Ahead.step (ahead : Ahead b a s) (tidy : s.Tidy) (shifts : Shifts now s op r t)
    (waits : ∀ delivery, handing r = some delivery → delivery.task.route ≠ b) : Ahead b a t := by
  obtain ⟨front, back, order, absent⟩ := ahead
  cases shifts with
  | still alike => exact ⟨front, back, alike.2.trans order, absent⟩
  | put queued alike =>
    have order' : t.routeOrder = s.routeOrder ∨
        t.routeOrder = s.routeOrder ++ [queued.task.route] := by
      rw [alike.2, routeOrder_put]
      split_ifs
      · exact .inr rfl
      · exact .inl rfl
    rcases order' with same | more
    · exact ⟨front, back, same.trans order, absent⟩
    · refine ⟨front, back ++ [queued.task.route], ?_, absent⟩
      rw [more, order]
      simp
  | @take _ _ _ route queued rest leasedAt reserves order' passed first ready alike enters leaves =>
    have route' : queued.task.route = route := by
      refine tidy.routed route queued ?_
      rw [first]
      exact List.mem_cons_self
    have other : route ≠ b := by
      rw [← route']
      exact waits _ leaves
    have mem : route ∈ s.routeOrder := by
      rw [tidy.listed, first]
      exact List.cons_ne_nil _ _
    -- the route that is taken from leaves the part in front, or the part behind
    obtain ⟨front', back', erased, absent'⟩ : ∃ front' back',
        s.routeOrder.erase route = front' ++ b :: back' ∧ a ∉ front' := by
      rw [order]
      by_cases early : route ∈ front
      · rw [List.erase_append_left _ early]
        exact ⟨front.erase route, back, rfl, fun there => absent (List.mem_of_mem_erase there)⟩
      · rw [List.erase_append_right _ early, List.erase_cons_tail (by simpa using other.symm)]
        exact ⟨front, back.erase route, rfl, absent⟩
    unfold Ahead
    rw [alike.2, routeOrder_take first mem, erased]
    split_ifs
    · exact ⟨front', back', rfl, absent'⟩
    · exact ⟨front', back' ++ [route], by simp, absent'⟩

/-- A route is passed over only when it is not due. -/
theorem Ahead.first (ahead : Ahead b a s) (tidy : s.Tidy) (shifts : Shifts now s op r t)
    {bindings : List RuntimeRouteBinding} (reserves : op = .reserve bindings)
    (allowed : Allowed bindings b) (due : s.due now b) (other : b ≠ a) :
    ∀ delivery, handing r = some delivery → delivery.task.route ≠ a := by
  intro delivery handed
  cases shifts with
  | still alike enters leaves => cases leaves.symm.trans handed
  | put queued alike enters leaves => cases leaves.symm.trans handed
  | @take bindings' front' back' route queued rest _ reserves' order passed first _ _ _ leaves =>
    cases leaves.symm.trans handed
    cases reserves.symm.trans reserves'
    have route' : queued.task.route = route := by
      refine tidy.routed route queued ?_
      rw [first]
      exact List.mem_cons_self
    obtain ⟨front, back, split, absent⟩ := ahead
    rw [split, filterRoutes_append_cons allowed] at order
    have absent' : a ∉ filterRoutes bindings front := fun there =>
      absent (mem_filterRoutes.1 there).1
    have late : b ∉ front' := by
      intro there
      rw [passed b there] at due
      cases due
    change queued.task.route ≠ a
    rw [route']
    intro same
    rw [same] at order
    rcases List.append_eq_append_iff.1 order with ⟨more, front'_eq, tail⟩ | ⟨more, front_eq, tail⟩
    · cases more with
      | nil => exact other (List.cons.inj tail).1
      | cons next more =>
        obtain rfl := (List.cons.inj tail).1
        rw [front'_eq] at late
        exact late (List.mem_append_right _ List.mem_cons_self)
    · cases more with
      | nil => exact other (List.cons.inj tail).1.symm
      | cons next more =>
        obtain rfl := (List.cons.inj tail).1
        rw [front_eq] at absent'
        exact absent' (List.mem_append_right _ List.mem_cons_self)

/-- A step that hands out a task of a route. -/
def DeliversFrom (route : Route) (x : Transition TimedMemoryQueue MemoryOp) : Prop :=
  ∃ delivery, handing (x.before.reply x.label) = some delivery ∧ delivery.task.route = route

/-- The first task of a route is due when a step begins. -/
def DueAt (route : Route) (x : Transition TimedMemoryQueue MemoryOp) : Prop :=
  x.before.queue.due (x.before.readings 0) route

/-- Only a reserve hands out a task. -/
theorem reserves_of_delivers {x : Transition TimedMemoryQueue MemoryOp} {route : Route}
    (tidy : x.before.queue.Tidy) (delivers : DeliversFrom route x) :
    ∃ bindings, x.label = .reserve bindings := by
  obtain ⟨delivery, handed, -⟩ := delivers
  cases shifts_after tidy x.label with
  | still alike enters leaves => cases leaves.symm.trans handed
  | put queued alike enters leaves => cases leaves.symm.trans handed
  | take reserves => exact ⟨_, reserves⟩

/-- Behind a step that hands out a task of a route, every other listed route is in front of it. -/
theorem ahead_of_delivers {x : Transition TimedMemoryQueue MemoryOp}
    (tidy : x.before.queue.Tidy) (step : x.before.Alone x.label x.after)
    (delivers : DeliversFrom a x) (other : b ≠ a) (listed : b ∈ x.after.queue.routeOrder) :
    Ahead b a x.after.queue := by
  obtain ⟨delivery, handed, same⟩ := delivers
  have shifts := shifts_after tidy x.label
  rw [← show x.after = x.before.after x.label from step] at shifts
  cases shifts with
  | still alike enters leaves => cases leaves.symm.trans handed
  | put queued alike enters leaves => cases leaves.symm.trans handed
  | @take _ _ _ route queued rest _ _ order passed first _ alike enters leaves =>
    cases leaves.symm.trans handed
    have route' : queued.task.route = route := by
      refine tidy.routed route queued ?_
      rw [first]
      exact List.mem_cons_self
    obtain rfl : route = a := route'.symm.trans same
    have mem : route ∈ x.before.queue.routeOrder := by
      rw [tidy.listed, first]
      exact List.cons_ne_nil _ _
    have listed' : b ∈ x.before.queue.routeOrder := by
      rw [alike.2, routeOrder_take first mem] at listed
      grind
    obtain ⟨front, back, split, absent⟩ := ahead_of_take tidy first other listed'
    exact ⟨front, back, alike.2.trans split, absent⟩

theorem exists_first {w t : TimedMemoryQueue} {y : Transition TimedMemoryQueue MemoryOp}
    {mid behind : List (Transition TimedMemoryQueue MemoryOp)}
    (run : Run Alone w (mid ++ y :: behind) t) : ∃ z ∈ mid ++ [y], z.before = w := by
  cases mid with
  | nil =>
    cases run with
    | step taken rest => exact ⟨_, List.mem_singleton_self _, rfl⟩
  | cons z mid =>
    cases run with
    | step taken rest => exact ⟨_, List.mem_cons_self, rfl⟩

/-- While another route waits, it stays in front. -/
theorem ahead_along {w t : TimedMemoryQueue} {mid : List (Transition TimedMemoryQueue MemoryOp)}
    (run : Run Alone w mid t) (tidy : w.queue.Tidy) (ahead : Ahead b a w.queue)
    (waits : ∀ z ∈ mid, ¬ DeliversFrom b z) : t.queue.Tidy ∧ Ahead b a t.queue := by
  refine run.invariant_of (fun w => w.queue.Tidy ∧ Ahead b a w.queue) ?_ ⟨tidy, ahead⟩ waits
  intro w op t ⟨tidy, ahead⟩ step waits
  refine ⟨tidy_step w op t tidy step, ?_⟩
  rw [show t = w.after op from step]
  refine ahead.step tidy (shifts_after tidy op) ?_
  intro delivery handed same
  exact waits ⟨delivery, handed, same⟩

/-- Between two tasks of one route, every other allowed route that is due all the time has its
turn. -/
theorem turns_between {start : Nat → SystemTime}
    {before mid behind : List (Transition TimedMemoryQueue MemoryOp)}
    {x y : Transition TimedMemoryQueue MemoryOp} {w : TimedMemoryQueue}
    (run : Run Alone ⟨start, .default⟩ (before ++ x :: (mid ++ y :: behind)) w)
    {bindings : List RuntimeRouteBinding} (bound : y.label = .reserve bindings)
    (first : DeliversFrom a x) (again : DeliversFrom a y) (other : b ≠ a)
    (allowed : Allowed bindings b) (due : ∀ z ∈ mid ++ [y], DueAt b z) :
    ∃ z ∈ mid, DeliversFrom b z := by
  by_contra waits
  push Not at waits
  obtain ⟨run₁, step, rest⟩ := run.split
  obtain ⟨run₂, -, -⟩ := rest.split
  have tidy : x.after.queue.Tidy := tidy_step _ _ _ (tidy_run run₁) step
  have nonempty : x.after.queue.bucket b ≠ [] := by
    obtain ⟨z, mem, same⟩ := exists_first rest
    obtain ⟨queued, tasks, front, -⟩ := due_iff.1 (due z mem)
    rw [← same, front]
    exact List.cons_ne_nil _ _
  have ahead := ahead_of_delivers (tidy_run run₁) step first other ((tidy.listed b).2 nonempty)
  obtain ⟨tidy', ahead'⟩ := ahead_along run₂ tidy ahead waits
  obtain ⟨delivery, handed, same⟩ := again
  have late : DueAt b y := due y (List.mem_append_right _ (List.mem_singleton_self _))
  exact ahead'.first tidy' (shifts_after tidy' y.label) bound allowed late other delivery handed same

end Turns

section Order

variable {route : Route} {s t : InMemoryRuntimeTaskQueue} {now : SystemTime} {op : MemoryOp}
  {r : Except AppError MemoryReply}

/-- The task that a step adds to a route, if it adds one. -/
def entersAt (route : Route) (x : Transition TimedMemoryQueue MemoryOp) : List RuntimeTask :=
  (x.before.queue.entering x.label (x.before.reply x.label)).toList.filter (·.route = route)

/-- The task of a route that a step hands out, if it hands out one. -/
def leavesAt (route : Route) (x : Transition TimedMemoryQueue MemoryOp) : List RuntimeTask :=
  ((handing (x.before.reply x.label)).map (·.task)).toList.filter (·.route = route)

/-- Tasks enter a bucket at its end and leave it at its front. -/
theorem bucket_shifts (tidy : s.Tidy) (shifts : Shifts now s op r t) (route : Route) :
    (s.bucket route).map (·.task) ++ (s.entering op r).toList.filter (·.route = route) =
      ((handing r).map (·.task)).toList.filter (·.route = route) ++
        (t.bucket route).map (·.task) := by
  cases shifts with
  | still alike enters leaves =>
    rw [enters, leaves, alike.bucket]
    simp
  | put queued alike enters leaves =>
    rw [enters, leaves, alike.bucket, bucket_put]
    by_cases here : route = queued.task.route
    · simp [here]
    · simp [here, Ne.symm here]
  | @take _ _ _ taken queued rest _ _ _ _ first _ alike enters leaves =>
    have route' : queued.task.route = taken := by
      refine tidy.routed taken queued ?_
      rw [first]
      exact List.mem_cons_self
    rw [enters, leaves, alike.bucket, bucket_take first]
    by_cases here : route = taken
    · simp [here, first, delivery, route']
    · simp [here, delivery, route', Ne.symm here]

/-- In every run, what is handed out of a route and what still waits is what came, in order. -/
theorem bucket_run {moves : List (Transition TimedMemoryQueue MemoryOp)} {v w : TimedMemoryQueue}
    (run : Run Alone v moves w) (tidy : v.queue.Tidy) (route : Route) :
    (v.queue.bucket route).map (·.task) ++ moves.flatMap (entersAt route) =
      moves.flatMap (leavesAt route) ++ (w.queue.bucket route).map (·.task) := by
  induction run with
  | done v => simp
  | @step v t w op rest taken _ ih =>
    have shifts := bucket_shifts tidy (shifts_after tidy op) route
    rw [← show t = v.after op from taken] at shifts
    calc _ = ((v.queue.bucket route).map (·.task) ++ entersAt route ⟨v, op, t⟩) ++
            rest.flatMap (entersAt route) := by simp
      _ = leavesAt route ⟨v, op, t⟩ ++ ((t.queue.bucket route).map (·.task) ++
            rest.flatMap (entersAt route)) := by
          rw [← List.append_assoc]
          exact congrArg (· ++ _) shifts
      _ = _ := by
          rw [ih (tidy_step v op t tidy taken)]
          simp

end Order

/-- Between two tasks of one route, every other allowed route that is due all the time has its
turn. -/
def TakesTurns (bindings : List RuntimeRouteBinding)
    (moves : List (Transition TimedMemoryQueue MemoryOp)) : Prop :=
  ∀ (a b : Route) (before mid behind : List (Transition TimedMemoryQueue MemoryOp))
    (x y : Transition TimedMemoryQueue MemoryOp),
    moves = before ++ x :: (mid ++ y :: behind) → DeliversFrom a x → DeliversFrom a y → b ≠ a →
    Allowed bindings b → (∀ z ∈ mid ++ [y], DueAt b z) → ∃ z ∈ mid, DeliversFrom b z

/-- The tasks of a route are handed out in the order in which they came. -/
def InOrder (moves : List (Transition TimedMemoryQueue MemoryOp)) (w : TimedMemoryQueue) : Prop :=
  ∀ route, moves.flatMap (entersAt route) =
    moves.flatMap (leavesAt route) ++ (w.queue.bucket route).map (·.task)

/-- With one list of bindings the routes take turns, and each keeps the order of its tasks. -/
theorem fair_and_ordered {start : Nat → SystemTime}
    {moves : List (Transition TimedMemoryQueue MemoryOp)} {w : TimedMemoryQueue}
    (run : Run Alone ⟨start, .default⟩ moves w) {bindings : List RuntimeRouteBinding}
    (fixed : ∀ z ∈ moves, ∀ other, z.label = .reserve other → other = bindings) :
    TakesTurns bindings moves ∧ InOrder moves w := by
  constructor
  · intro a b before mid behind x y split first again other allowed due
    subst split
    obtain ⟨run₁, step, rest⟩ := run.split
    obtain ⟨run₂, -, -⟩ := rest.split
    have entered := tidy_step _ _ _ (tidy_run run₁) step
    have tidy : y.before.queue.Tidy := tidy_of_run entered run₂
    obtain ⟨other', bound⟩ := reserves_of_delivers tidy again
    have same : other' = bindings := fixed y (by simp) other' bound
    exact turns_between run (same ▸ bound) first again other allowed due
  · intro route
    have order := bucket_run run tidy_default route
    have empty : (InMemoryRuntimeTaskQueue.default.bucket route).map (·.task) = [] := rfl
    rw [empty, List.nil_append] at order
    exact order

/-- Two tasks of one route and one of another, which comes between them. -/
def twoRoutes : List MemoryOp :=
  [.enqueue (sampleTask "task-1" "judge-a" 3), .enqueue (sampleTask "task-2" "judge-a" 3),
    .enqueue (sampleTask "task-3" "judge-b" 3), .reserve [], .reserve [], .reserve []]

theorem fair_and_ordered_sample :
    TakesTurns [] (trace TimedMemoryQueue.after ⟨fun _ => 0, .default⟩ twoRoutes) ∧
      InOrder (trace TimedMemoryQueue.after ⟨fun _ => 0, .default⟩ twoRoutes)
        (twoRoutes.foldl TimedMemoryQueue.after ⟨fun _ => 0, .default⟩) := by
  refine fair_and_ordered (run_trace TimedMemoryQueue.after _ twoRoutes) ?_
  intro z mem other reserves
  simp only [twoRoutes, trace, List.mem_cons, List.not_mem_nil, or_false] at mem
  rcases mem with rfl | rfl | rfl | rfl | rfl | rfl <;> cases reserves <;> rfl

end NexusCore.Runtime
