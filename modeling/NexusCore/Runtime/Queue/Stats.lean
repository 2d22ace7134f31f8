import Mathlib.Algebra.BigOperators.Group.Finset.Basic
import Mathlib.Data.Prod.Lex
import Mathlib.Data.String.Basic
import NexusCore.Lib.Sorting
import NexusCore.Runtime.Queue.Places
import NexusCore.Runtime.Queue.Sequential

/-!
# The statistics of the in-memory queue

The history of a queue says where each task is. The statistics count the same, route by route.
-/

namespace NexusCore.Runtime

open NexusCore.Lib InMemoryRuntimeTaskQueue TimedMemoryQueue

section Rows

/-- A row without counts. -/
def RuntimeQueueStats.zero (route : Route) : RuntimeQueueStats where
  queue := route.1
  lane := route.2
  queued := 0
  leased := 0
  deadLettered := 0

def RuntimeQueueStats.route (row : RuntimeQueueStats) : Route := (row.queue, row.lane)

abbrev StatsRows : Type := AList fun _ : Route => RuntimeQueueStats

/-- Change the row of a route, which is made if it is missing. -/
def StatsRows.update (route : Route) (change : RuntimeQueueStats → RuntimeQueueStats)
    (rows : StatsRows) : StatsRows :=
  rows.insert route (change ((rows.lookup route).getD (.zero route)))

namespace InMemoryRuntimeTaskQueue

/-- The rows of the buckets. -/
def bucketRows (s : InMemoryRuntimeTaskQueue) : StatsRows :=
  s.buckets.entries.foldr (fun entry rows =>
    rows.insert entry.1 { RuntimeQueueStats.zero entry.1 with queued := entry.2.length }) ∅

def statsRows (s : InMemoryRuntimeTaskQueue) : StatsRows :=
  let rows := s.leased.entries.foldl (fun rows entry =>
    rows.update entry.2.task.route fun row => { row with leased := row.leased + 1 }) s.bucketRows
  s.deadLetters.foldl (fun rows record =>
    rows.update (record.queue, record.lane) fun row =>
      { row with deadLettered := row.deadLettered + 1 }) rows

/-- The rows in the order of their routes. -/
def stats (s : InMemoryRuntimeTaskQueue) : List RuntimeQueueStats :=
  (sortBy (fun entry => toLex entry.1) s.statsRows.entries).map (·.2)

end InMemoryRuntimeTaskQueue

variable {s : InMemoryRuntimeTaskQueue} {route : Route}

/-- Updates one after the other change each row as often as its route occurs. -/
theorem lookup_foldl_update {α : Type} (key : α → Route)
    (change : RuntimeQueueStats → RuntimeQueueStats) (items : List α) (rows : StatsRows)
    (route : Route) :
    (items.foldl (fun rows a => rows.update (key a) change) rows).lookup route =
      if (items.map key).count route = 0 then rows.lookup route
      else some (change^[(items.map key).count route] ((rows.lookup route).getD (.zero route))) := by
  induction items generalizing rows with
  | nil => simp
  | cons a items ih =>
    rw [List.foldl_cons, ih, List.map_cons]
    by_cases here : key a = route
    · subst here
      have found : (rows.update (key a) change).lookup (key a) =
          some (change ((rows.lookup (key a)).getD (.zero (key a)))) := AList.lookup_insert _
      rw [found, List.count_cons_self, if_neg (Nat.succ_ne_zero _)]
      split_ifs with none
      · rw [none]
        rfl
      · rfl
    · have same : (rows.update (key a) change).lookup route = rows.lookup route :=
        AList.lookup_insert_ne (Ne.symm here)
      rw [same, List.count_cons_of_ne here]

theorem lookup_bucketRows (s : InMemoryRuntimeTaskQueue) (route : Route) :
    s.bucketRows.lookup route = (s.buckets.lookup route).map fun tasks =>
      { RuntimeQueueStats.zero route with queued := tasks.length } := by
  unfold bucketRows AList.lookup
  induction s.buckets.entries with
  | nil => rfl
  | cons entry entries ih =>
    obtain ⟨key, tasks⟩ := entry
    rw [List.foldr_cons]
    by_cases here : route = key
    · subst here
      rw [List.dlookup_cons_eq]
      exact AList.lookup_insert _
    · rw [List.dlookup_cons_ne _ _ here, ← ih]
      exact AList.lookup_insert_ne here

theorem iterate_leased (n : Nat) (row : RuntimeQueueStats) :
    (fun row : RuntimeQueueStats => { row with leased := row.leased + 1 })^[n] row =
      { row with leased := row.leased + n } := by
  induction n with
  | zero => rfl
  | succ n ih =>
    rw [Function.iterate_succ_apply', ih]
    rfl

theorem iterate_deadLettered (n : Nat) (row : RuntimeQueueStats) :
    (fun row : RuntimeQueueStats => { row with deadLettered := row.deadLettered + 1 })^[n] row =
      { row with deadLettered := row.deadLettered + n } := by
  induction n with
  | zero => rfl
  | succ n ih =>
    rw [Function.iterate_succ_apply', ih]
    rfl

/-- The row that the three parts of the queue make for a route. -/
def InMemoryRuntimeTaskQueue.rowOf (s : InMemoryRuntimeTaskQueue) (route : Route) :
    RuntimeQueueStats where
  queue := route.1
  lane := route.2
  queued := (s.bucket route).length
  leased := (s.leased.entries.map (·.2.task.route)).count route
  deadLettered := (s.deadLetters.map fun record => (record.queue, record.lane)).count route

/-- A row that counts something. -/
def RuntimeQueueStats.Positive (row : RuntimeQueueStats) : Prop :=
  row.queued ≠ 0 ∨ row.leased ≠ 0 ∨ row.deadLettered ≠ 0

/-- The rows are those that count something. -/
theorem lookup_statsRows (filled : s.buckets.lookup route ≠ some []) {row : RuntimeQueueStats} :
    s.statsRows.lookup route = some row ↔ row = s.rowOf route ∧ row.Positive := by
  dsimp only [statsRows]
  rw [lookup_foldl_update fun record : RuntimeDeadLetterRecord => (record.queue, record.lane),
    lookup_foldl_update fun entry : Sigma fun _ : String => RuntimeTaskDelivery =>
      entry.2.task.route, lookup_bucketRows]
  simp only [iterate_leased, iterate_deadLettered]
  cases stored : s.buckets.lookup route with
  | none =>
    have empty : s.bucket route = [] := by rw [bucket, stored]; rfl
    simp only [RuntimeQueueStats.Positive, rowOf, empty, RuntimeQueueStats.zero]
    grind
  | some tasks =>
    have same : s.bucket route = tasks := by rw [bucket, stored]; rfl
    have nonempty : tasks.length ≠ 0 := by
      intro zero
      exact filled (by rw [stored, List.length_eq_zero_iff.1 zero])
    simp only [RuntimeQueueStats.Positive, rowOf, same, RuntimeQueueStats.zero]
    grind

/-- The statistics are the rows of the routes that count something, once each. -/
theorem mem_stats (filled : ∀ route, s.buckets.lookup route ≠ some []) {row : RuntimeQueueStats} :
    row ∈ s.stats ↔ row = s.rowOf row.route ∧ row.Positive := by
  unfold stats
  rw [List.mem_map]
  constructor
  · intro ⟨⟨route, other⟩, mem, same⟩
    obtain rfl : other = row := same
    have found : s.statsRows.lookup route = some other :=
      AList.mem_lookup_iff.2 ((sortBy_perm _ _).subset mem)
    obtain ⟨rfl, positive⟩ := (lookup_statsRows (filled route)).1 found
    exact ⟨rfl, positive⟩
  · intro counts
    have found := (lookup_statsRows (filled row.route)).2 counts
    exact ⟨⟨row.route, row⟩, (sortBy_perm _ _).symm.subset (AList.mem_lookup_iff.1 found), rfl⟩

theorem nodup_stats (filled : ∀ route, s.buckets.lookup route ≠ some []) :
    (s.stats.map (·.route)).Nodup := by
  have keys : s.stats.map (·.route) =
      (sortBy (fun entry => toLex entry.1) s.statsRows.entries).map (·.1) := by
    unfold stats
    rw [List.map_map, List.map_inj_left]
    intro ⟨route, row⟩ mem
    have found : s.statsRows.lookup route = some row :=
      AList.mem_lookup_iff.2 ((sortBy_perm _ _).subset mem)
    obtain ⟨rfl, -⟩ := (lookup_statsRows (filled route)).1 found
    rfl
  rw [keys, ((sortBy_perm _ _).map Sigma.fst).nodup_iff]
  exact s.statsRows.nodupKeys

end Rows

section History

/-- A task and where the operations have put it. -/
abbrev Whereabouts : Type := List (RuntimeTask × Ledger.Place)

namespace Whereabouts

/-- Move the task of a delivery from one place to another. -/
def relocate (deliveryId : String) (source target : Ledger.Place) (tasks : Whereabouts) :
    Whereabouts :=
  tasks.map fun entry =>
    if "dlv-" ++ entry.1.taskId = deliveryId ∧ entry.2 = source then (entry.1, target) else entry

/-- Where an operation puts a task, according to its answer. -/
def track (tasks : Whereabouts) (op : MemoryOp) (r : Except AppError MemoryReply) : Whereabouts :=
  match op, r with
  | .enqueue task, .ok _ => tasks ++ [(task, .queued)]
  | .reserve _, .ok (.delivery (some delivery)) =>
    tasks.relocate delivery.deliveryId .queued .leased
  | .settle given .ack, .ok _ => tasks.relocate given.deliveryId .leased .acknowledged
  | .settle given (.retry _ _), .ok (.disposition .requeued) =>
    tasks.relocate given.deliveryId .leased .queued
  | .settle given (.retry _ _), .ok (.disposition .deadLettered) =>
    tasks.relocate given.deliveryId .leased .deadLettered
  | .settle given (.reject _), .ok _ => tasks.relocate given.deliveryId .leased .deadLettered
  | .replayDeadLetter deliveryId, .ok _ => tasks.relocate deliveryId .deadLettered .queued
  | _, _ => tasks

/-- The tasks in a place. -/
def placed (tasks : Whereabouts) (place : Ledger.Place) : Multiset RuntimeTask :=
  ↑((tasks.filter (·.2 = place)).map (·.1))

/-- The tasks of a route in a place. -/
def count (tasks : Whereabouts) (route : Route) (place : Ledger.Place) : Nat :=
  tasks.countP fun entry => entry.1.route = route ∧ entry.2 = place

variable {tasks : Whereabouts} {task : RuntimeTask} {deliveryId : String}
  {source target place : Ledger.Place}

theorem map_relocate (deliveryId : String) (source target : Ledger.Place) (tasks : Whereabouts) :
    (tasks.relocate deliveryId source target).map (·.1) = tasks.map (·.1) := by
  unfold relocate
  rw [List.map_map, List.map_inj_left]
  intro entry _
  dsimp only [Function.comp]
  split_ifs <;> rfl

theorem mem_placed : task ∈ tasks.placed place ↔ (task, place) ∈ tasks := by
  simp [placed]

theorem placed_append (front back : Whereabouts) (place : Ledger.Place) :
    placed (front ++ back) place = front.placed place + back.placed place := by
  simp [placed]

theorem relocate_other (other : ∀ entry ∈ tasks, entry.2 = source →
    "dlv-" ++ entry.1.taskId ≠ deliveryId) : tasks.relocate deliveryId source target = tasks := by
  unfold relocate
  conv_rhs => rw [← List.map_id tasks]
  rw [List.map_inj_left]
  intro entry mem
  rw [if_neg]
  · rfl
  · intro ⟨named, here⟩
    exact other entry mem here named

/-- With distinct ids, one task moves and no other one does. -/
theorem relocate_moved (distinct : (tasks.map (·.1.taskId)).Nodup) (mem : task ∈ tasks.placed source)
    (apart : source ≠ target) (named : deliveryId = "dlv-" ++ task.taskId) :
    tasks.placed source = task ::ₘ (tasks.relocate deliveryId source target).placed source ∧
    (tasks.relocate deliveryId source target).placed target = task ::ₘ tasks.placed target ∧
    ∀ place, place ≠ source → place ≠ target →
      (tasks.relocate deliveryId source target).placed place = tasks.placed place := by
  obtain ⟨front, back, rfl⟩ := List.append_of_mem (mem_placed.1 mem)
  rw [List.map_append, List.map_cons, List.nodup_append, List.nodup_cons] at distinct
  obtain ⟨-, ⟨fresh', -⟩, fresh⟩ := distinct
  have before : relocate deliveryId source target front = front := by
    refine relocate_other fun entry mem _ same => ?_
    exact fresh _ (List.mem_map_of_mem mem) _ List.mem_cons_self (delivery_inj (same.trans named))
  have behind : relocate deliveryId source target back = back := by
    refine relocate_other fun entry mem _ same => ?_
    exact fresh' (delivery_inj (same.trans named) ▸ List.mem_map_of_mem mem)
  have moved : relocate deliveryId source target (front ++ (task, source) :: back) =
      front ++ (task, target) :: back := by
    unfold relocate at *
    rw [List.map_append, List.map_cons, before, behind, if_pos ⟨named.symm, rfl⟩]
  have cons : ∀ p place, placed ((task, p) :: back) place =
      if p = place then task ::ₘ placed back place else placed back place := by
    intro p place
    unfold placed
    rw [List.filter_cons]
    split_ifs <;> simp_all
  rw [moved]
  refine ⟨?_, ?_, fun place other other' => ?_⟩
  · rw [placed_append, placed_append, cons, cons, if_pos rfl, if_neg apart.symm,
      Multiset.add_cons]
  · rw [placed_append, placed_append, cons, cons, if_pos rfl, if_neg apart, Multiset.add_cons]
  · rw [placed_append, placed_append, cons, cons, if_neg other.symm, if_neg other'.symm]

end Whereabouts

/-- The tasks that the queue has in a place. -/
def InMemoryRuntimeTaskQueue.tasksIn (s : InMemoryRuntimeTaskQueue) :
    Ledger.Place → Multiset RuntimeTask
  | .queued => s.queuedTasks
  | .leased => s.leasedTasks
  | .deadLettered => s.deadLetteredTasks
  | .acknowledged => 0

/-- Every task is where its history says, under its own id and on its own route. -/
structure Tracked (tasks : Whereabouts) (s : InMemoryRuntimeTaskQueue) : Prop where
  distinct : (tasks.map (·.1.taskId)).Nodup
  placed : ∀ place ≠ .acknowledged, tasks.placed place = s.tasksIn place
  filed : s.Filed
  recorded : ∀ record ∈ s.deadLetters, record.deliveryId = "dlv-" ++ record.task.taskId ∧
    (record.queue, record.lane) = record.task.route

variable {tasks : Whereabouts} {s t : InMemoryRuntimeTaskQueue} {readings : Nat → SystemTime}
  {op : MemoryOp} {r : Except AppError MemoryReply} {task : RuntimeTask}
  {held : RuntimeTaskDelivery} {deliveryId : String} {source target place : Ledger.Place}

theorem Tracked.unique (tracked : Tracked tasks s) {other : RuntimeTask}
    (mem : task ∈ tasks.placed place) (mem' : other ∈ tasks.placed source)
    (same : task.taskId = other.taskId) : task = other ∧ place = source := by
  have entries := List.inj_on_of_nodup_map tracked.distinct (Whereabouts.mem_placed.1 mem)
    (Whereabouts.mem_placed.1 mem') same
  exact Prod.mk.inj entries

theorem leasedTasks_eq (s : InMemoryRuntimeTaskQueue) :
    s.leasedTasks = s.deliveries.map (·.task) := by
  unfold leasedTasks deliveries total
  induction s.leased.entries with
  | nil => rfl
  | cons entry entries ih => simp [ih]

/-- The task of a lease is among the leased ones. -/
theorem Tracked.of_lease (tracked : Tracked tasks s)
    (found : s.leased.lookup deliveryId = some held) :
    held.task ∈ tasks.placed .leased ∧ deliveryId = "dlv-" ++ held.task.taskId := by
  have filed := tracked.filed deliveryId held found
  refine ⟨?_, filed.1.symm.trans filed.2⟩
  rw [tracked.placed .leased (by decide), tasksIn, leasedTasks_of_lookup found]
  exact Multiset.mem_cons_self _ _

/-- Without a lease, no leased task has the id. -/
theorem Tracked.unleased (tracked : Tracked tasks s) (free : s.leased.lookup deliveryId = none) :
    ∀ entry ∈ tasks, entry.2 = .leased → "dlv-" ++ entry.1.taskId ≠ deliveryId := by
  intro ⟨task, place⟩ mem here named
  obtain rfl : place = .leased := here
  have leased : task ∈ s.leasedTasks := by
    have placed := tracked.placed .leased (by decide)
    rw [tasksIn] at placed
    rw [← placed]
    exact Whereabouts.mem_placed.2 mem
  rw [leasedTasks_eq, Multiset.mem_map] at leased
  obtain ⟨delivery, there, rfl⟩ := leased
  obtain ⟨id, found⟩ := mem_deliveries.1 there
  obtain ⟨filed, named'⟩ := tracked.filed id delivery found
  rw [← named, ← named', filed, found] at free
  cases free

/-- A task that goes from one place to another, in the history and in the queue. -/
theorem Tracked.moved (tracked : Tracked tasks s) (mem : task ∈ tasks.placed source)
    (apart : source ≠ target) (named : deliveryId = "dlv-" ++ task.taskId)
    (left : s.tasksIn source = task ::ₘ t.tasksIn source)
    (entered : target ≠ .acknowledged → t.tasksIn target = task ::ₘ s.tasksIn target)
    (others : ∀ place, place ≠ source → place ≠ target → t.tasksIn place = s.tasksIn place)
    (source_ne : source ≠ .acknowledged) (filed : t.Filed)
    (recorded : ∀ record ∈ t.deadLetters, record.deliveryId = "dlv-" ++ record.task.taskId ∧
      (record.queue, record.lane) = record.task.route) :
    Tracked (tasks.relocate deliveryId source target) t := by
  obtain ⟨left', entered', others'⟩ := Whereabouts.relocate_moved tracked.distinct mem apart named
  refine ⟨?_, ?_, filed, recorded⟩
  · have ids := congrArg (List.map (·.taskId))
      (Whereabouts.map_relocate deliveryId source target tasks)
    rw [List.map_map, List.map_map] at ids
    exact (congrArg List.Nodup ids).mpr tracked.distinct
  · intro place kept
    by_cases here : place = source
    · rw [here]
      apply Multiset.cons_inj_right task |>.1
      rw [← left', ← left, tracked.placed source source_ne]
    · by_cases there : place = target
      · rw [there] at kept ⊢
        rw [entered', entered kept, tracked.placed target kept]
      · rw [others' place here there, others place here there, tracked.placed place kept]

theorem queuedTasks_put (queued : QueuedRuntimeTask) (s : InMemoryRuntimeTaskQueue) :
    (s.put queued).queuedTasks = queued.task ::ₘ s.queuedTasks := by
  have pushed := queuedTasks_pushBack (s := s) queued.task.route queued
  unfold put
  split_ifs
  · exact pushed
  · exact pushed

theorem queuedTasks_take {route : Route} {queued : QueuedRuntimeTask}
    {rest : List QueuedRuntimeTask} (first : s.bucket route = queued :: rest) :
    s.queuedTasks = queued.task ::ₘ (s.take route).queuedTasks := by
  have pop := popReady_of_bucket queued.availableAt first
  rw [if_neg (lt_irrefl _)] at pop
  have spec := popReady_spec route queued.availableAt s
  unfold take
  rw [first]
  cases rest with
  | nil =>
    rw [if_pos List.isEmpty_nil] at pop
    rw [pop] at spec
    exact spec.1
  | cons next rest =>
    rw [if_neg (by simp)] at pop
    rw [pop] at spec
    simpa using spec.1

theorem filed_of_leased (filed : s.Filed) (leased : t.leased = s.leased) : t.Filed := by
  intro id delivery found
  rw [leased] at found
  exact filed id delivery found

theorem leasedTasks_congr (leased : t.leased = s.leased) : t.leasedTasks = s.leasedTasks := by
  unfold leasedTasks
  rw [leased]

theorem deadLetteredTasks_congr (dead : t.deadLetters = s.deadLetters) :
    t.deadLetteredTasks = s.deadLetteredTasks := by
  unfold deadLetteredTasks
  rw [dead]

theorem Tracked.enqueued (tracked : Tracked tasks s) (queued : QueuedRuntimeTask)
    (fresh : queued.task.taskId ∉ tasks.map (·.1.taskId)) :
    Tracked (tasks ++ [(queued.task, .queued)]) (s.put queued) := by
  refine ⟨?_, ?_, filed_of_leased tracked.filed (leased_put queued s), ?_⟩
  · rw [List.map_append, List.nodup_append]
    refine ⟨tracked.distinct, List.nodup_singleton _, ?_⟩
    intro id mem id' mem' same
    rw [List.map_singleton, List.mem_singleton] at mem'
    exact fresh (mem' ▸ same ▸ mem)
  · intro place kept
    rw [Whereabouts.placed_append, tracked.placed place kept]
    cases place with
    | queued =>
      rw [tasksIn, tasksIn, queuedTasks_put, add_comm]
      rfl
    | leased =>
      rw [tasksIn, tasksIn, leasedTasks_congr (leased_put queued s)]
      exact add_zero _
    | deadLettered =>
      rw [tasksIn, tasksIn, deadLetteredTasks_congr (deadLetters_put queued s)]
      exact add_zero _
    | acknowledged => exact absurd rfl kept
  · rw [deadLetters_put]
    exact tracked.recorded

theorem Tracked.reserved (tracked : Tracked tasks s) {route : Route} {queued : QueuedRuntimeTask}
    {rest : List QueuedRuntimeTask} (first : s.bucket route = queued :: rest)
    (leasedAt : SystemTime) :
    Tracked (tasks.relocate (delivery queued leasedAt).deliveryId .queued .leased)
      ((s.take route).insertLease (delivery queued leasedAt)) := by
  have left := queuedTasks_take first
  have mem : queued.task ∈ tasks.placed .queued := by
    rw [tracked.placed .queued (by decide), tasksIn, left]
    exact Multiset.mem_cons_self _ _
  -- no lease has the id: its task would be both queued and leased
  have free : s.leased.lookup (delivery queued leasedAt).deliveryId = none := by
    rw [Option.eq_none_iff_forall_not_mem]
    intro held found
    obtain ⟨leased, named⟩ := tracked.of_lease found
    have same : held.task.taskId = queued.task.taskId :=
      (delivery_inj named).symm
    cases (tracked.unique leased mem same).2
  have filed := filed_of_leased (t := s.take route) tracked.filed (leased_take route s)
  refine tracked.moved mem (by decide) rfl left ?_ ?_ (by decide) (filed.insertLease rfl) ?_
  · intro _
    rw [tasksIn, tasksIn, leasedTasks_insertLease, removeLease_of_lookup (by rwa [leased_take]),
      leasedTasks_congr (leased_take route s)]
    rfl
  · intro place other other'
    cases place with
    | queued => exact absurd rfl other
    | leased => exact absurd rfl other'
    | deadLettered => exact deadLetteredTasks_congr (deadLetters_take route s)
    | acknowledged => rfl
  · change ∀ record ∈ (s.take route).deadLetters, _
    rw [deadLetters_take]
    exact tracked.recorded

/-- The task of a lease that ends goes where the operation puts it. -/
theorem Tracked.settled (tracked : Tracked tasks s)
    (found : s.leased.lookup deliveryId = some held) (apart : .leased ≠ target)
    (leased : t.leased = (s.removeLease deliveryId).2.leased)
    (entered : target ≠ .acknowledged → t.tasksIn target = held.task ::ₘ s.tasksIn target)
    (others : ∀ place, place ≠ .leased → place ≠ target → t.tasksIn place = s.tasksIn place)
    (recorded : ∀ record ∈ t.deadLetters, record.deliveryId = "dlv-" ++ record.task.taskId ∧
      (record.queue, record.lane) = record.task.route) :
    Tracked (tasks.relocate deliveryId .leased target) t := by
  obtain ⟨mem, named⟩ := tracked.of_lease found
  refine tracked.moved mem apart named ?_ entered others (by decide)
    (filed_of_leased (tracked.filed.removeLease deliveryId) leased) recorded
  rw [tasksIn, tasksIn, leasedTasks_congr leased]
  exact leasedTasks_of_lookup found

/-- Without a lease, nothing moves. -/
theorem Tracked.unsettled (tracked : Tracked tasks s) (free : s.leased.lookup deliveryId = none) :
    tasks.relocate deliveryId .leased target = tasks :=
  Whereabouts.relocate_other (tracked.unleased free)

theorem Tracked.buried (tracked : Tracked tasks s) (found : s.leased.lookup deliveryId = some held)
    (error : String) (now : SystemTime) :
    Tracked (tasks.relocate deliveryId .leased .deadLettered)
      ((s.removeLease deliveryId).2.pushDeadLetter (held.deadLetter error now)) := by
  refine tracked.settled found (by decide) rfl ?_ ?_ ?_
  · intro _
    simp [tasksIn, deadLetteredTasks, pushDeadLetter, removeLease, RuntimeTaskDelivery.deadLetter,
      ← Multiset.coe_add, add_comm]
  · intro place other other'
    cases place with
    | queued => rfl
    | leased => exact absurd rfl other
    | deadLettered => exact absurd rfl other'
    | acknowledged => rfl
  · intro record mem
    rcases List.mem_append.1 mem with old | new
    · exact tracked.recorded record old
    · rw [List.mem_singleton.1 new]
      exact ⟨(tracked.filed _ _ found).2, rfl⟩

theorem Tracked.requeued (tracked : Tracked tasks s) (found : s.leased.lookup deliveryId = some held)
    {queued : QueuedRuntimeTask} (same : queued.task = held.task) :
    Tracked (tasks.relocate deliveryId .leased .queued) ((s.removeLease deliveryId).2.put queued) := by
  refine tracked.settled found (by decide) (leased_put _ _) ?_ ?_ ?_
  · intro _
    rw [tasksIn, tasksIn, queuedTasks_put, same]
    rfl
  · intro place other other'
    cases place with
    | queued => exact absurd rfl other'
    | leased => exact absurd rfl other
    | deadLettered => exact deadLetteredTasks_congr (deadLetters_put _ _)
    | acknowledged => rfl
  · rw [deadLetters_put]
    exact tracked.recorded

theorem Tracked.replayed (tracked : Tracked tasks s) {record : RuntimeDeadLetterRecord}
    (found : (s.takeDeadLetter deliveryId).1 = some record) {queued : QueuedRuntimeTask}
    (same : queued.task = record.task) :
    Tracked (tasks.relocate deliveryId .deadLettered .queued)
      ((s.takeDeadLetter deliveryId).2.put queued) := by
  have left := deadLetteredTasks_takeDeadLetter found
  have mem : record.task ∈ tasks.placed .deadLettered := by
    rw [tracked.placed .deadLettered (by decide), tasksIn, left]
    exact Multiset.mem_cons_self _ _
  have there : record ∈ s.deadLetters := List.mem_of_find?_eq_some found
  have named : record.deliveryId = deliveryId := by
    have named := List.find?_some found
    exact eq_of_beq named
  refine tracked.moved mem (by decide) (named.symm.trans (tracked.recorded record there).1) ?_ ?_ ?_
    (by decide) (filed_of_leased tracked.filed (leased_put _ _)) ?_
  · rw [tasksIn, tasksIn, deadLetteredTasks_congr (deadLetters_put _ _)]
    exact left
  · intro _
    rw [tasksIn, tasksIn, queuedTasks_put, same]
    rfl
  · intro place other other'
    cases place with
    | queued => exact absurd rfl other'
    | leased => exact leasedTasks_congr (leased_put _ _)
    | deadLettered => exact absurd rfl other
    | acknowledged => rfl
  · rw [deadLetters_put]
    intro other mem
    exact tracked.recorded other (List.mem_of_mem_eraseP mem)

/-- The task that an operation takes into the queue. -/
def acceptedBy : MemoryOp → Except AppError MemoryReply → List RuntimeTask
  | .enqueue task, .ok _ => [task]
  | _, _ => []

/-- An operation moves a task in the queue as it does in the history. -/
theorem tracked_moves (tracked : Tracked tasks s)
    (fresh : ∀ task ∈ acceptedBy op r, task.taskId ∉ tasks.map (·.1.taskId))
    (moves : Moves readings s op r t) : Tracked (tasks.track op r) t := by
  cases moves with
  | enqueued task =>
    exact tracked.enqueued
      { task := task, attempt := 1, availableAt := readings 0, lastError := none }
      (fresh task (List.mem_singleton_self _))
  | idle late => exact tracked
  | reserved order passed first ready => exact tracked.reserved first _
  | acked given =>
    change Tracked (tasks.relocate given.deliveryId .leased .acknowledged) _
    cases found : s.leased.lookup given.deliveryId with
    | none =>
      rw [tracked.unsettled found, removeLease_of_lookup found]
      exact tracked
    | some held =>
      refine tracked.settled found (by decide) rfl (absurd rfl) ?_ tracked.recorded
      intro place other other'
      cases place with
      | queued => rfl
      | leased => exact absurd rfl other
      | deadLettered => rfl
      | acknowledged => rfl
  | missing free => exact tracked
  | requeued found => exact tracked.requeued found rfl
  | exhausted found => exact tracked.buried found _ _
  | @unknown given error free =>
    change Tracked (tasks.relocate given.deliveryId .leased .deadLettered) s
    rw [tracked.unsettled free]
    exact tracked
  | rejected found => exact tracked.buried found _ _
  | lost absent => exact tracked
  | replayed found => exact tracked.replayed found rfl

def acceptedAt (x : Transition TimedMemoryQueue MemoryOp) : List RuntimeTask :=
  acceptedBy x.label (x.before.reply x.label)

/-- Where the history of a queue says that its tasks are. -/
def whereabouts (moves : List (Transition TimedMemoryQueue MemoryOp)) : Whereabouts :=
  moves.foldl (fun tasks x => tasks.track x.label (x.before.reply x.label)) []

theorem map_track (tasks : Whereabouts) (op : MemoryOp) (r : Except AppError MemoryReply) :
    (tasks.track op r).map (·.1) = tasks.map (·.1) ++ acceptedBy op r := by
  unfold Whereabouts.track
  split <;> simp [acceptedBy, Whereabouts.map_relocate]

theorem tracked_run {moves : List (Transition TimedMemoryQueue MemoryOp)} {v w : TimedMemoryQueue}
    (run : Run Alone v moves w) {tasks : Whereabouts} (tracked : Tracked tasks v.queue)
    (tidy : v.queue.Tidy)
    (unique : ((tasks.map (·.1) ++ moves.flatMap acceptedAt).map (·.taskId)).Nodup) :
    Tracked (moves.foldl (fun tasks x => tasks.track x.label (x.before.reply x.label)) tasks)
      w.queue := by
  induction run generalizing tasks with
  | done v => exact tracked
  | @step v t w op rest taken _ ih =>
    have moves := moves_after tidy op
    rw [← show t = v.after op from taken] at moves
    have added := map_track tasks op (v.reply op)
    rw [List.flatMap_cons, ← List.append_assoc] at unique
    refine ih ?_ (tidy_step v op t tidy taken) ?_
    · refine tracked_moves tracked ?_ moves
      intro task accepted mem
      rw [List.map_append, List.nodup_append] at unique
      obtain ⟨unique, -, -⟩ := unique
      rw [List.map_append, List.nodup_append] at unique
      have mem' : task.taskId ∈ (tasks.map (·.1)).map (·.taskId) := by
        rw [List.map_map]
        exact mem
      exact unique.2.2 _ mem' _ (List.mem_map_of_mem accepted) rfl
    · rw [added]
      exact unique

theorem tracked_default : Tracked [] .default where
  distinct := List.nodup_nil
  placed := by
    intro place _
    cases place <;> rfl
  filed := fun id delivery found => by
    simp [InMemoryRuntimeTaskQueue.default] at found
  recorded := fun record mem => by
    simp [InMemoryRuntimeTaskQueue.default] at mem

end History

section Exact

variable {tasks : Whereabouts} {s : InMemoryRuntimeTaskQueue} {route : Route}

theorem count_eq (tasks : Whereabouts) (route : Route) (place : Ledger.Place) :
    tasks.count route place = (tasks.placed place).countP (·.route = route) := by
  unfold Whereabouts.count Whereabouts.placed
  rw [Multiset.coe_countP, List.countP_map, List.countP_filter]
  refine List.countP_congr fun entry _ => ?_
  simp

theorem mem_total {κ β γ : Type} [DecidableEq κ] {f : β → Multiset γ} {m : AList fun _ : κ => β}
    {x : γ} (mem : x ∈ total f m) : ∃ key value, m.lookup key = some value ∧ x ∈ f value := by
  have members : ∀ entries : List (Sigma fun _ : κ => β),
      x ∈ (entries.map fun e => f e.2).sum → ∃ e ∈ entries, x ∈ f e.2 := by
    intro entries
    induction entries with
    | nil => simp
    | cons e rest ih =>
      rw [List.map_cons, List.sum_cons, Multiset.mem_add]
      grind
  obtain ⟨e, there, mem'⟩ := members m.entries mem
  exact ⟨e.1, e.2, AList.mem_lookup_iff.2 there, mem'⟩

/-- The queued tasks of a route are those in its bucket. -/
theorem countP_queuedTasks (tidy : s.Tidy) (route : Route) :
    s.queuedTasks.countP (·.route = route) = (s.bucket route).length := by
  unfold queuedTasks
  have others : (total (fun bucket => (↑(bucket.map (·.task)) : Multiset RuntimeTask))
      (s.buckets.erase route)).countP (·.route = route) = 0 := by
    rw [Multiset.countP_eq_zero]
    intro task mem here
    obtain ⟨key, tasks, found, among⟩ := mem_total mem
    obtain ⟨other, found⟩ := of_lookup_erase found
    have same : s.bucket key = tasks := by rw [bucket, found]; rfl
    obtain ⟨queued, mem', rfl⟩ := List.mem_map.1 (Multiset.mem_coe.1 among)
    exact other ((tidy.routed key queued (same ▸ mem')).symm.trans here)
  cases found : s.buckets.lookup route with
  | none =>
    have same : s.bucket route = [] := by rw [bucket, found]; rfl
    rw [erase_of_lookup_eq_none found] at others
    rw [others, same]
    rfl
  | some tasks =>
    have same : s.bucket route = tasks := by rw [bucket, found]; rfl
    rw [total_erase found, Multiset.countP_add, others, Multiset.coe_countP, List.countP_map, same,
      add_zero, List.countP_eq_length]
    intro queued mem
    simpa using tidy.routed route queued (same ▸ mem)

theorem countP_leasedTasks (s : InMemoryRuntimeTaskQueue) (route : Route) :
    s.leasedTasks.countP (·.route = route) =
      (s.leased.entries.map (·.2.task.route)).count route := by
  have list : s.leasedTasks = ↑(s.leased.entries.map (·.2.task)) := by
    unfold leasedTasks total
    induction s.leased.entries with
    | nil => rfl
    | cons entry entries ih => simp [ih]
  rw [list, Multiset.coe_countP, List.countP_map, List.count, List.countP_map]
  refine List.countP_congr fun entry _ => ?_
  simp

theorem countP_deadLetteredTasks (tracked : Tracked tasks s) (route : Route) :
    s.deadLetteredTasks.countP (·.route = route) =
      (s.deadLetters.map fun record => (record.queue, record.lane)).count route := by
  unfold deadLetteredTasks
  rw [Multiset.coe_countP, List.countP_map, List.count, List.countP_map]
  refine List.countP_congr fun record mem => ?_
  simp [(tracked.recorded record mem).2]

/-- The row of a route counts its tasks by where they are. -/
theorem Tracked.rowOf (tracked : Tracked tasks s) (tidy : s.Tidy) (route : Route) :
    s.rowOf route = ⟨route.1, route.2, tasks.count route .queued, tasks.count route .leased,
      tasks.count route .deadLettered⟩ := by
  rw [count_eq, count_eq, count_eq, tracked.placed _ (by decide), tracked.placed _ (by decide),
    tracked.placed _ (by decide)]
  simp only [tasksIn, countP_queuedTasks tidy, countP_leasedTasks,
    countP_deadLetteredTasks tracked, InMemoryRuntimeTaskQueue.rowOf]

/-- Statistics that say of every route what the history says. -/
structure StatsExact (accepted : List RuntimeTask) (tasks : Whereabouts)
    (rows : List RuntimeQueueStats) : Prop where
  complete : tasks.map (·.1) = accepted
  once : (rows.map (·.route)).Nodup
  present : ∀ route, route ∈ rows.map (·.route) ↔
    ∃ entry ∈ tasks, entry.1.route = route ∧ entry.2 ≠ .acknowledged
  counts : ∀ row ∈ rows, row.queued = tasks.count row.route .queued ∧
    row.leased = tasks.count row.route .leased ∧
    row.deadLettered = tasks.count row.route .deadLettered
  total : (rows.map (·.queued)).sum + (rows.map (·.leased)).sum + (rows.map (·.deadLettered)).sum +
    tasks.countP (·.2 = .acknowledged) = accepted.length

/-- Every task is counted once, under its route, when all routes have a row. -/
theorem sum_count {place : Ledger.Place} (tasks : Whereabouts) {routes : List Route}
    (once : routes.Nodup)
    (present : ∀ entry ∈ tasks, entry.2 = place → entry.1.route ∈ routes) :
    (routes.map fun route => tasks.count route place).sum = tasks.countP (·.2 = place) := by
  let found : Multiset Route := (tasks.placed place).map (·.route)
  have counts : ∀ route, tasks.count route place = found.count route := by
    intro route
    rw [count_eq, Multiset.count_map, Multiset.countP_eq_card_filter]
    simp [eq_comm]
  have card : found.card = tasks.countP (·.2 = place) := by
    simp [found, Whereabouts.placed, List.countP_eq_length_filter]
  rw [← card, ← Multiset.sum_count_eq_card (s := routes.toFinset), List.sum_toFinset _ once]
  · simp [counts]
  · intro route mem
    obtain ⟨task, there, rfl⟩ := Multiset.mem_map.1 mem
    exact List.mem_toFinset.2 (present _ (Whereabouts.mem_placed.1 there) rfl)

theorem count_ne_zero {place : Ledger.Place} (tasks : Whereabouts) (route : Route) :
    tasks.count route place ≠ 0 ↔ ∃ entry ∈ tasks, entry.1.route = route ∧ entry.2 = place := by
  unfold Whereabouts.count
  rw [← Nat.pos_iff_ne_zero, List.countP_pos_iff]
  simp

/-- Every task is in one of the places. -/
theorem sum_places (tasks : Whereabouts) :
    tasks.countP (·.2 = .queued) + tasks.countP (·.2 = .leased) +
      tasks.countP (·.2 = .deadLettered) + tasks.countP (·.2 = .acknowledged) = tasks.length := by
  induction tasks with
  | nil => rfl
  | cons entry tasks ih =>
    obtain ⟨task, place⟩ := entry
    simp only [List.countP_cons, List.length_cons]
    cases place <;> simp <;> omega

/-- The statistics of a queue say what its history says. -/
theorem Tracked.exact (tracked : Tracked tasks s) (tidy : s.Tidy) :
    StatsExact (tasks.map (·.1)) tasks s.stats := by
  have rows : ∀ {row}, row ∈ s.stats ↔ row = ⟨row.queue, row.lane, tasks.count row.route .queued,
      tasks.count row.route .leased, tasks.count row.route .deadLettered⟩ ∧ row.Positive := by
    intro row
    rw [mem_stats tidy.filled, tracked.rowOf tidy]
    rfl
  have once := nodup_stats tidy.filled
  have counts : ∀ row ∈ s.stats, row.queued = tasks.count row.route .queued ∧
      row.leased = tasks.count row.route .leased ∧
      row.deadLettered = tasks.count row.route .deadLettered := by
    intro row mem
    have same := (rows.1 mem).1
    exact ⟨congrArg (·.queued) same, congrArg (·.leased) same, congrArg (·.deadLettered) same⟩
  have present : ∀ route, route ∈ s.stats.map (·.route) ↔
      ∃ entry ∈ tasks, entry.1.route = route ∧ entry.2 ≠ .acknowledged := by
    intro route
    constructor
    · intro mem
      obtain ⟨row, there, rfl⟩ := List.mem_map.1 mem
      obtain ⟨queued, leased, dead⟩ := counts row there
      have positive := (rows.1 there).2
      unfold RuntimeQueueStats.Positive at positive
      rw [queued, leased, dead, count_ne_zero, count_ne_zero, count_ne_zero] at positive
      rcases positive with ⟨entry, mem, here, place⟩ | ⟨entry, mem, here, place⟩ |
        ⟨entry, mem, here, place⟩ <;> exact ⟨entry, mem, here, by simp [place]⟩
    · intro ⟨⟨task, place⟩, mem, here, kept⟩
      have some : tasks.count route place ≠ 0 := (count_ne_zero tasks route).2 ⟨_, mem, here, rfl⟩
      refine List.mem_map.2 ⟨⟨route.1, route.2, tasks.count route .queued,
        tasks.count route .leased, tasks.count route .deadLettered⟩, rows.2 ⟨rfl, ?_⟩, rfl⟩
      cases place with
      | queued => exact .inl some
      | leased => exact .inr (.inl some)
      | deadLettered => exact .inr (.inr some)
      | acknowledged => exact absurd rfl kept
  refine ⟨rfl, once, present, counts, ?_⟩
  have sums : ∀ (place : Ledger.Place) (column : RuntimeQueueStats → Nat), place ≠ .acknowledged →
      (∀ row ∈ s.stats, column row = tasks.count row.route place) →
      (s.stats.map column).sum = tasks.countP (·.2 = place) := by
    intro place column kept same
    rw [← sum_count tasks once, List.map_map]
    · exact congrArg List.sum (List.map_congr_left same)
    · intro entry mem here
      exact (present _).2 ⟨entry, mem, rfl, here ▸ kept⟩
  rw [sums .queued _ (by decide) fun row mem => (counts row mem).1,
    sums .leased _ (by decide) fun row mem => (counts row mem).2.1,
    sums .deadLettered _ (by decide) fun row mem => (counts row mem).2.2, sum_places, List.length_map]

end Exact

/-- In every run of one client whose tasks have distinct ids, the statistics have one row for each
route with a task that is not acknowledged, and each row counts the tasks of its route by where
their last move has put them. -/
theorem stats_exact {start : Nat → SystemTime} {moves : List (Transition TimedMemoryQueue MemoryOp)}
    {w : TimedMemoryQueue} (run : Run Alone ⟨start, .default⟩ moves w)
    (unique : ((moves.flatMap acceptedAt).map (·.taskId)).Nodup) :
    StatsExact (moves.flatMap acceptedAt) (whereabouts moves) w.queue.stats := by
  have tracked := tracked_run run tracked_default tidy_default unique
  have accepted : ∀ (moves : List (Transition TimedMemoryQueue MemoryOp)) (tasks : Whereabouts),
      (moves.foldl (fun tasks x => tasks.track x.label (x.before.reply x.label)) tasks).map (·.1) =
        tasks.map (·.1) ++ moves.flatMap acceptedAt := by
    intro moves
    induction moves with
    | nil => simp
    | cons x rest ih =>
      intro tasks
      rw [List.foldl_cons, ih, map_track, List.flatMap_cons, List.append_assoc]
      rfl
  have exact := tracked.exact (tidy_run run)
  rw [accepted, List.map_nil, List.nil_append] at exact
  exact exact

/-- One task of each kind on two routes. -/
def eachPlace : List MemoryOp :=
  let first := sampleTask "task-1" "judge-a" 3
  [.enqueue first, .enqueue (sampleTask "task-2" "judge-b" 3), .reserve [],
    .settle (delivery { task := first, attempt := 1, availableAt := 0, lastError := none } 0)
      (.reject "broken"), .reserve [], .enqueue (sampleTask "task-3" "judge-b" 3)]

theorem stats_exact_sample : StatsExact
    ((trace TimedMemoryQueue.after ⟨fun _ => 0, .default⟩ eachPlace).flatMap acceptedAt)
    (whereabouts (trace TimedMemoryQueue.after ⟨fun _ => 0, .default⟩ eachPlace))
    (eachPlace.foldl TimedMemoryQueue.after ⟨fun _ => 0, .default⟩).queue.stats :=
  stats_exact (run_trace TimedMemoryQueue.after _ eachPlace) (by decide +kernel)

end NexusCore.Runtime
