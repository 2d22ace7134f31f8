import NexusCore.Runtime.Queue.RouteList

/-!
# Where the tasks are

Any number of calls run on the in-memory queue, section by section, and any mutex may be found
poisoned. A task that has come in is in a bucket, in the lease map, among the dead letters or in the
hands of one call. It leaves with an acknowledgement, with a call that meets a poisoned mutex, or
with a lease that another one of its id overwrites.
-/

namespace NexusCore.Runtime

open NexusCore.Lib InMemoryRuntimeTaskQueue

abbrev MemoryLog : Type := List (Sigma MemoryCmd.Answer)

abbrev MemoryBusy : Type := Busy InMemoryRuntimeTaskQueue MemoryCmd MemoryCmd.Answer AppError MemoryReply

/-- What a call has taken out of the queue and not put back, and whether it has met a poisoned
mutex. -/
structure Hand where
  tasks : Multiset RuntimeTask
  poisoned : Bool

namespace Hand

def empty : Hand := ⟨0, false⟩

/-- What a section leaves in the hands of the call that enters it. -/
def move (tasks : Multiset RuntimeTask) : (critical : MemorySection) → critical.Result →
    Multiset RuntimeTask
  | .popReady _ _, .popped queued _ => {queued.task}
  | .removeLease _, some delivery => {delivery.task}
  | .takeDeadLetter _, some record => {record.task}
  | .pushBack _ _, _ | .insertLease _, _ | .pushDeadLetter _, _ => 0
  | _, _ => tasks

def next (hand : Hand) : (c : MemoryCmd) → c.Answer → Hand
  | .clock, _ => hand
  | .locked _, none => { hand with poisoned := true }
  | .locked critical, some r => { hand with tasks := move hand.tasks critical r }

/-- A call takes a task only with empty hands and puts back what it has taken; an enqueue also puts
in its own task. -/
def permits (op : MemoryOp) (hand : Hand) : MemoryCmd → Prop
  | .locked (.popReady _ _) | .locked (.removeLease _) | .locked (.takeDeadLetter _) =>
    hand.tasks = 0
  | .locked (.pushBack _ queued) =>
    hand.tasks = {queued.task} ∨ hand.tasks = 0 ∧ op = .enqueue queued.task
  | .locked (.insertLease delivery) => hand.tasks = {delivery.task}
  | .locked (.pushDeadLetter record) => hand.tasks = {record.task}
  | _ => True

def Clear (hand : Hand) : Prop := hand.tasks = 0 ∨ hand.poisoned = true

end Hand

/-- How an operation carries tasks. -/
def carrying (op : MemoryOp) : Discipline MemoryCmd MemoryCmd.Answer Hand :=
  ⟨Hand.permits op, Hand.next, fun _ => True⟩

def hand (log : MemoryLog) : Hand := log.foldl (fun hand entry => hand.next entry.1 entry.2) .empty

section Programs

variable {op : MemoryOp} {α β : Type} {start : Hand} {p : MemoryProg α} {f : α → MemoryProg β}

/-- A program carries tasks as the operation may, and ends with empty hands or after it has met a
poisoned mutex. -/
abbrev Carries (op : MemoryOp) (start : Hand) (p : MemoryProg α) : Prop :=
  (carrying op).Upholds (fun _ _ _ => True) (fun hand _ => hand.Clear) start p

theorem carries_bind (first : Carries op start p)
    (rest : ∀ a hand, hand.Clear → Carries op hand (f a)) : Carries op start (p.bind f) :=
  first.bind (fun hand a clear => rest a hand clear) fun _ _ clear => clear

theorem carries_ret {a : α} (clear : start.Clear) : Carries op start (.ret a : MemoryProg α) :=
  .ret clear

/-- A section whose mutex is poisoned ends the program. -/
theorem carries_locked {critical : MemorySection} {k : critical.Result → MemoryProg β}
    (permitted : start.permits op (.locked critical))
    (rest : ∀ r, Carries op (start.next (.locked critical) (some r)) (k r)) :
    Carries op start ((locked critical).bind k) := by
  refine .call permitted fun answer _ => ?_
  cases answer with
  | none => exact .fail (.inr rfl)
  | some r => exact rest r

theorem enqueueInternal_carries {queued : QueuedRuntimeTask}
    (may : start.tasks = {queued.task} ∨ start.tasks = 0 ∧ op = .enqueue queued.task) :
    Carries op start (enqueueInternal queued) := by
  refine carries_locked may ?_
  intro wasEmpty
  cases wasEmpty with
  | false => exact .ret (.inl rfl)
  | true =>
    refine .call trivial fun answer _ => ?_
    cases answer with
    | none => exact .fail (.inl rfl)
    | some r => exact .ret (.inl rfl)

theorem storeDeadLetter_carries {given : RuntimeTaskDelivery} {error : String}
    (own : start.tasks = {given.task}) : Carries op start (storeDeadLetter given error) := by
  refine .call trivial fun now _ => .call own fun answer _ => ?_
  cases answer with
  | none => exact .fail (.inr rfl)
  | some stored => exact .ret (.inl rfl)

/-- A program that ends once it has tried to lease what it has taken. -/
theorem insertLease_carries {delivery : RuntimeTaskDelivery} {k : Option Unit → MemoryProg β}
    (own : start.tasks = {delivery.task}) (ends : ∀ stored, ∃ b, k stored = .ret b) :
    Carries op start ((tryLocked (.insertLease delivery)).bind k) := by
  refine .call own fun answer _ => ?_
  obtain ⟨b, ended⟩ := ends answer
  change (carrying op).Upholds _ _ _ (k answer)
  rw [ended]
  cases answer with
  | none => exact .ret (.inr rfl)
  | some stored => exact .ret (.inl rfl)

theorem reserveFrom_carries (now : SystemTime) (routes : List Route) (none : start.tasks = 0) :
    Carries op start (reserveFrom now routes) := by
  induction routes with
  | nil => exact .ret (.inl none)
  | cons route routes ih =>
    refine .call none fun answer _ => ?_
    rcases answer with _ | _ | _ | ⟨queued, emptied⟩
    · exact .ret (.inr rfl)
    · exact .ret (.inl none)
    · exact ih
    · -- A poisoned list of routes does not keep the task from its lease.
      cases emptied with
      | true =>
        refine .call trivial fun answer _ => .call trivial fun leasedAt _ => ?_
        refine insertLease_carries ?_ fun stored => ?_
        · cases answer <;> rfl
        · cases stored <;> exact ⟨_, rfl⟩
      | false =>
        refine .call trivial fun answer _ => .call trivial fun leasedAt _ => ?_
        refine insertLease_carries ?_ fun stored => ?_
        · cases answer <;> rfl
        · cases stored <;> exact ⟨_, rfl⟩

theorem reserve_carries (bindings : List RuntimeRouteBinding) :
    Carries op .empty (reserve bindings) := by
  refine .call trivial fun now _ => .call trivial fun answer _ => ?_
  cases answer with
  | none => exact .ret (.inl rfl)
  | some order => exact reserveFrom_carries now _ rfl

end Programs

section Calls

/-- A call may end with a task in its hands only when it acknowledges, or after it has met a poisoned
mutex. -/
def MayEnd (op : MemoryOp) (hand : Hand) : Prop :=
  hand.Clear ∨ ∃ delivery, op = .settle delivery .ack

theorem perform_carries (op : MemoryOp) :
    (carrying op).Upholds (fun _ _ _ => True) (fun hand _ => MayEnd op hand) .empty
      (perform op) := by
  have clear : ∀ {p : MemoryProg MemoryReply}, Carries op .empty p →
      (carrying op).Upholds (fun _ _ _ => True) (fun hand _ => MayEnd op hand) .empty p :=
    fun carries => carries.mono fun _ _ => .inl
  cases op with
  | enqueue task =>
    refine clear (carries_bind (.call trivial fun now _ => ?_) fun _ _ => carries_ret)
    exact enqueueInternal_carries (.inr ⟨rfl, rfl⟩)
  | reserve bindings =>
    exact clear (carries_bind (reserve_carries bindings) fun _ _ => carries_ret)
  | settle given how =>
    cases how with
    | ack =>
      refine .call rfl fun answer _ => ?_
      cases answer with
      | none => exact .fail (.inr ⟨given, rfl⟩)
      | some held => exact .ret (.inr ⟨given, rfl⟩)
    | retry error delayMs =>
      refine clear (carries_bind (carries_locked rfl ?_) fun _ _ => carries_ret)
      intro held
      cases held with
      | none => exact .fail (.inl rfl)
      | some held =>
        dsimp only
        split
        · exact carries_bind (storeDeadLetter_carries rfl) fun _ _ => carries_ret
        · refine .call trivial fun now _ => .call trivial fun fallback _ => ?_
          exact carries_bind (p := enqueueInternal _) (enqueueInternal_carries (.inl rfl))
            fun _ _ => carries_ret
    | reject error =>
      refine clear (carries_bind (carries_locked rfl ?_) fun _ _ => carries_ret)
      intro held
      cases held with
      | none => exact .ret (.inl rfl)
      | some held => exact storeDeadLetter_carries rfl
  | replayDeadLetter deliveryId =>
    refine clear (carries_bind (carries_locked rfl ?_) fun _ _ => carries_ret)
    intro record
    cases record with
    | none => exact .fail (.inl rfl)
    | some record =>
      refine .call trivial fun now _ => ?_
      exact carries_bind (p := enqueueInternal _) (enqueueInternal_carries (.inl rfl))
        fun _ _ => carries_ret

/-- A call of an operation that goes on as the operation may. -/
def Carried (call : MemoryCall) : Prop :=
  ∃ op, call.program = perform op ∧
    (carrying op).Upholds (fun _ _ _ => True) (fun hand _ => MayEnd op hand) (hand call.log) call.rest

theorem hand_snoc (log : MemoryLog) (c : MemoryCmd) (r : c.Answer) :
    hand (log ++ [⟨c, r⟩]) = (hand log).next c r := by
  simp [hand]

theorem carried_new {p : MemoryProg MemoryReply} (allowed : Performs p) : Carried (.new p) := by
  obtain ⟨op, rfl⟩ := allowed
  exact ⟨op, rfl, perform_carries op⟩

theorem Carried.answered {p : MemoryProg MemoryReply} {log : MemoryLog} {c : MemoryCmd}
    {k : c.Answer → MemoryProg MemoryReply} (carried : Carried ⟨p, log, .call c k⟩)
    (r : c.Answer) : Carried ⟨p, log ++ [⟨c, r⟩], k r⟩ := by
  obtain ⟨op, performs, upholds⟩ := carried
  cases upholds with
  | call permitted later =>
    refine ⟨op, performs, ?_⟩
    rw [hand_snoc]
    exact later r trivial

end Calls

section Sections

namespace InMemoryRuntimeTaskQueue

variable {s : InMemoryRuntimeTaskQueue}

/-- The tasks in all places of the queue. -/
def allTasks (s : InMemoryRuntimeTaskQueue) : Multiset RuntimeTask :=
  s.queuedTasks + s.leasedTasks + s.deadLetteredTasks

end InMemoryRuntimeTaskQueue

/-- A task comes in when a call puts it in a bucket with empty hands. -/
def enters (tasks : Multiset RuntimeTask) : MemorySection → Multiset RuntimeTask
  | .pushBack _ queued => if tasks = 0 then {queued.task} else 0
  | _ => 0

/-- The task of the lease that a section overwrites. -/
def overwrites (s : InMemoryRuntimeTaskQueue) : MemorySection → Multiset RuntimeTask
  | .insertLease delivery =>
    match s.leased.lookup delivery.deliveryId with
    | some held => {held.task}
    | none => 0
  | _ => 0

/-- A section moves tasks between the places of the queue and the hands of the call. -/
theorem allTasks_of_section {op : MemoryOp} {start : Hand} {critical : MemorySection}
    (permitted : start.permits op (.locked critical)) (s : InMemoryRuntimeTaskQueue) :
    enters start.tasks critical + (s.allTasks + start.tasks) =
      (critical.run s).2.allTasks + Hand.move start.tasks critical (critical.run s).1 +
        overwrites s critical := by
  unfold allTasks
  cases critical with
  | pushBack route queued =>
    have pushed : (s.pushBack route queued).2.allTasks = queued.task ::ₘ s.allTasks := by
      unfold allTasks
      rw [queuedTasks_pushBack, Multiset.cons_add, Multiset.cons_add]
      rfl
    change _ = (s.pushBack route queued).2.allTasks + 0 + 0
    rw [pushed, ← Multiset.singleton_add]
    rcases permitted with own | ⟨none, -⟩
    · simp [enters, own, allTasks, add_comm]
    · simp [enters, none, allTasks]
  | popReady route now =>
    have none : start.tasks = 0 := permitted
    have spec := popReady_spec route now s
    change _ = (s.popReady route now).2.allTasks + Hand.move _ (.popReady route now)
      (s.popReady route now).1 + 0
    generalize s.popReady route now = popped at spec ⊢
    obtain ⟨_ | _ | ⟨queued, emptied⟩, t⟩ := popped
    · obtain rfl : t = s := spec
      simp [enters, Hand.move, none, allTasks]
    · obtain rfl : t = s := spec
      simp [enters, Hand.move, none, allTasks]
    · obtain ⟨queues, leases, dead⟩ := spec
      simp only [enters, Hand.move, none, allTasks, leasedTasks, deadLetteredTasks, leases, dead,
        queues]
      simp only [← Multiset.singleton_add]
      abel
  | insertLease delivery =>
    have own : start.tasks = {delivery.task} := permitted
    change _ = (s.insertLease delivery).allTasks + 0 + _
    unfold allTasks
    rw [leasedTasks_insertLease]
    simp only [enters, overwrites, own]
    cases found : s.leased.lookup delivery.deliveryId with
    | none =>
      simp only [removeLease_of_lookup found, ← Multiset.singleton_add]
      change _ = s.queuedTasks + _ + s.deadLetteredTasks + 0 + 0
      abel
    | some held =>
      simp only [leasedTasks_of_lookup found, ← Multiset.singleton_add]
      change _ = s.queuedTasks + _ + s.deadLetteredTasks + 0 + _
      abel
  | removeLease deliveryId =>
    have none : start.tasks = 0 := permitted
    change _ = (s.removeLease deliveryId).2.allTasks + Hand.move _ (.removeLease deliveryId)
      (s.leased.lookup deliveryId) + 0
    unfold allTasks
    rw [queuedTasks_removeLease, deadLetteredTasks_removeLease]
    cases found : s.leased.lookup deliveryId with
    | none => simp [enters, Hand.move, none, removeLease_of_lookup found]
    | some held =>
      simp only [enters, Hand.move, none, leasedTasks_of_lookup found, ← Multiset.singleton_add]
      abel
  | takeDeadLetter deliveryId =>
    have none : start.tasks = 0 := permitted
    change _ = (s.takeDeadLetter deliveryId).2.allTasks + Hand.move _ (.takeDeadLetter deliveryId)
      (s.takeDeadLetter deliveryId).1 + 0
    unfold allTasks
    rw [queuedTasks_takeDeadLetter, leasedTasks_takeDeadLetter]
    cases found : (s.takeDeadLetter deliveryId).1 with
    | none => simp [enters, Hand.move, none, takeDeadLetter_of_none found]
    | some record =>
      simp only [enters, Hand.move, none, deadLetteredTasks_takeDeadLetter found,
        ← Multiset.singleton_add]
      abel
  | pushDeadLetter record =>
    have own : start.tasks = {record.task} := permitted
    change _ = s.queuedTasks + s.leasedTasks + (s.pushDeadLetter record).deadLetteredTasks + 0 + 0
    simp [enters, own, deadLetteredTasks, pushDeadLetter, ← Multiset.coe_add, add_assoc]
  | rotateRoute route =>
    simp [enters, overwrites, Hand.move, MemorySection.run, leasedTasks, deadLetteredTasks]
  | appendRoute route | removeRoute route | routes =>
    exact (zero_add _).trans (add_zero _).symm

end Sections

section Runs

/-- The tasks that come into the queue in a step. -/
def entering (x : MemoryTransition) : Multiset RuntimeTask :=
  match x.label with
  | .command (.locked critical) (some _) call _ => enters (hand call.log.dropLast).tasks critical
  | _ => 0

/-- The tasks in the hands of a call that ends. -/
def leaving (x : MemoryTransition) : Multiset RuntimeTask :=
  match x.label with
  | .finish call _ => (hand call.log).tasks
  | _ => 0

/-- The tasks of the leases that are overwritten in a step. -/
def overwritten (x : MemoryTransition) : Multiset RuntimeTask :=
  match x.label with
  | .command (.locked critical) (some _) _ _ => overwrites x.before.state critical
  | _ => 0

/-- The tasks in the hands of the calls. -/
def inHands (calls : Multiset MemoryCall) : Multiset RuntimeTask :=
  (calls.map fun call => (hand call.log).tasks).sum

/-- A task is in one of the places of the queue or in the hands of a call, or it has gone. -/
def Accounts (moves : List MemoryTransition) (b : MemoryBusy) : Prop :=
  (moves.map entering).sum = b.state.allTasks + inHands b.calls +
    ((moves.map leaving).sum + (moves.map overwritten).sum)

/-- A call enters a section as its operation may. -/
def Permitted (x : MemoryTransition) : Prop :=
  ∀ c r call others, x.label = .command c r call others →
    ∃ op, call.program = perform op ∧ (hand call.log.dropLast).permits op c

variable {moves : List MemoryTransition} {b b' : MemoryBusy}
  {m : Move MemoryCmd MemoryCmd.Answer AppError MemoryReply}

theorem permitted_of_run (run : Run (Interleaved poisonableMemoryHandler Performs)
    ⟨.default, 0⟩ moves b) : ∀ x ∈ moves, Permitted x := by
  intro x mem c r call others label
  obtain ⟨p, log, k, rfl, op, performs, upholds⟩ :=
    (calls_of_run (Q := Carried) (fun _ => carried_new) (fun _ _ _ _ r before => before.answered r)
      run x mem).1 c r call others label
  cases upholds with
  | call permitted later =>
    refine ⟨op, performs, ?_⟩
    rwa [List.dropLast_concat]

theorem Accounts.step (accounts : Accounts moves b)
    (step : Interleaved poisonableMemoryHandler Performs b m b') (permitted : Permitted ⟨b, m, b'⟩) :
    Accounts (moves ++ [⟨b, m, b'⟩]) b' := by
  unfold Accounts at accounts ⊢
  simp only [List.map_append, List.sum_append, accounts, List.map_cons, List.map_nil, List.sum_cons,
    List.sum_nil, add_zero]
  cases step with
  | start allowed =>
    simp [entering, leaving, overwritten, inHands, Call.new, hand, Hand.empty]
  | ret =>
    simp only [entering, leaving, overwritten, inHands, Multiset.map_cons, Multiset.sum_cons]
    abel
  | fail =>
    simp only [entering, leaving, overwritten, inHands, Multiset.map_cons, Multiset.sum_cons]
    abel
  | @command s u others p log c k r answered =>
    cases c with
    | clock =>
      obtain rfl : u = s := answered
      simp [entering, leaving, overwritten, inHands, hand_snoc, Hand.next]
    | locked critical =>
      rcases answered with ⟨rfl, rfl⟩ | ⟨rfl, rfl⟩
      · simp [entering, leaving, overwritten, inHands, hand_snoc, Hand.next]
      · obtain ⟨op, -, may⟩ := permitted _ _ _ _ rfl
        simp only [List.dropLast_concat] at may
        have kept := allTasks_of_section may s
        simp only [entering, leaving, overwritten, inHands, Multiset.map_cons, Multiset.sum_cons,
          hand_snoc, Hand.next, List.dropLast_concat]
        calc _ = enters (hand log).tasks critical + (s.allTasks + (hand log).tasks) +
              ((others.map fun call => (hand call.log).tasks).sum +
                ((moves.map leaving).sum + (moves.map overwritten).sum)) := by abel
          _ = _ := by
            rw [kept]
            abel

theorem accounts_of_run (run : Run (Interleaved poisonableMemoryHandler Performs)
    ⟨.default, 0⟩ moves b) : Accounts moves b := by
  let Kept : List MemoryTransition → MemoryBusy → Prop := fun moves b =>
    (∀ x ∈ moves, Permitted x) → Accounts moves b
  suffices kept : Kept moves b from kept (permitted_of_run run)
  refine run.invariant_trace ?_ ?_
  · intro _
    rfl
  · intro moves b m b' kept step permitted
    rw [List.forall_mem_append, List.forall_mem_singleton] at permitted
    exact (kept permitted.1).step step permitted.2

/-- A call that has met a poisoned mutex has been told so. -/
theorem told_of_poisoned (log : MemoryLog) (poisoned : (hand log).poisoned = true) :
    ∃ critical, ⟨.locked critical, none⟩ ∈ log := by
  induction log using List.reverseRecOn with
  | nil => cases poisoned
  | append_singleton log entry ih =>
    obtain ⟨c, r⟩ := entry
    rw [hand_snoc] at poisoned
    have earlier : (hand log).poisoned = true → ∃ critical, ⟨.locked critical, none⟩ ∈
        log ++ [(⟨c, r⟩ : Sigma MemoryCmd.Answer)] := by
      intro before
      obtain ⟨critical, told⟩ := ih before
      exact ⟨critical, List.mem_append_left _ told⟩
    cases c with
    | clock => exact earlier poisoned
    | locked critical =>
      cases r with
      | none => exact ⟨critical, List.mem_append_right _ (List.mem_singleton_self _)⟩
      | some r => exact earlier poisoned

/-- A step in which an enqueue puts a task in a bucket. -/
def Accepts (task : RuntimeTask) (x : MemoryTransition) : Prop :=
  ∃ c r call others, x.label = .command c r call others ∧ call.program = perform (.enqueue task)

/-- A step in which a call ends that acknowledges, or that has met a poisoned mutex. -/
def Releases (x : MemoryTransition) : Prop :=
  ∃ call o, x.label = .finish call o ∧ ((∃ delivery, call.program = perform (.settle delivery .ack)) ∨
    ∃ critical, ⟨.locked critical, none⟩ ∈ call.log)

theorem accepts_of_entering (run : Run (Interleaved poisonableMemoryHandler Performs)
    ⟨.default, 0⟩ moves b) : ∀ x ∈ moves, ∀ task ∈ entering x, Accepts task x := by
  intro x mem task enters_
  unfold entering at enters_
  split at enters_
  · next critical r call others label =>
    obtain ⟨op, performs, may⟩ := permitted_of_run run x mem _ _ _ _ label
    unfold enters at enters_
    split at enters_
    · next route queued =>
      split_ifs at enters_ with none
      · obtain rfl := Multiset.mem_singleton.1 enters_
        rcases may with own | ⟨-, rfl⟩
        · rw [none] at own
          cases Multiset.singleton_ne_zero _ own.symm
        · exact ⟨_, _, _, _, label, performs⟩
      · cases Multiset.notMem_zero _ enters_
    · cases Multiset.notMem_zero _ enters_
  · cases Multiset.notMem_zero _ enters_

theorem releases_of_leaving (run : Run (Interleaved poisonableMemoryHandler Performs)
    ⟨.default, 0⟩ moves b) : ∀ x ∈ moves, leaving x ≠ 0 → Releases x := by
  intro x mem leaves
  unfold leaving at leaves
  split at leaves
  · next call o label =>
    obtain ⟨⟨op, performs, upholds⟩, ended⟩ := (calls_of_run (Q := Carried) (fun _ => carried_new)
      (fun _ _ _ _ r before => before.answered r) run x mem).2 call o label
    have mayEnd : MayEnd op (hand call.log) := by
      rw [ended] at upholds
      cases o with
      | ok a =>
        cases upholds with
        | ret mayEnd => exact mayEnd
      | error e =>
        cases upholds with
        | fail mayEnd => exact mayEnd
    refine ⟨call, o, label, ?_⟩
    rcases mayEnd with (none | poisoned) | ⟨delivery, rfl⟩
    · exact absurd none leaves
    · exact .inr (told_of_poisoned _ poisoned)
    · exact .inl ⟨delivery, performs⟩
  · exact absurd rfl leaves

/-- In every interleaving a task that an enqueue has put in stays in one place or in the hands of one
call until it is acknowledged, its call meets a poisoned mutex, or its lease is overwritten. -/
theorem tasks_accounted_for (moves : List MemoryTransition) (b : MemoryBusy)
    (run : Run (Interleaved poisonableMemoryHandler Performs) ⟨.default, 0⟩ moves b) :
    Accounts moves b ∧ (∀ x ∈ moves, ∀ task ∈ entering x, Accepts task x) ∧
      ∀ x ∈ moves, leaving x ≠ 0 → Releases x :=
  ⟨accounts_of_run run, accepts_of_entering run, releases_of_leaving run⟩

/-- Two tasks are enqueued at the same time, and one of two reserves has taken a task and has not
leased it yet. -/
def takenTurns : List (MemoryOp ⊕ Nat) :=
  .inl (.enqueue (sampleTask "task-1" "judge-a" 3)) ::
  .inl (.enqueue (sampleTask "task-2" "judge-b" 3)) :: inTurn 5 [0, 1] ++
  .inl (.reserve []) :: .inl (.reserve [⟨"judge-b", "fast"⟩]) :: inTurn 3 [0, 1] ++ inTurn 9 [1]

theorem taken_accounted_for : ∃ moves b,
    Run (Interleaved poisonableMemoryHandler Performs) ⟨.default, 0⟩ moves b ∧
      b.state.allTasks = {sampleTask "task-2" "judge-b" 3} ∧
      inHands b.calls = {sampleTask "task-1" "judge-a" 3} ∧ Accounts moves b := by
  obtain ⟨moves, run⟩ := run_play Performs memoryAnswer_poisonable .default []
    (schedule perform takenTurns) fun _ => named_of_start
  exact ⟨moves, _, run, by decide +kernel, by decide +kernel, (tasks_accounted_for moves _ run).1⟩

end Runs

end NexusCore.Runtime
