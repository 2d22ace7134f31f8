import NexusCore.Lib.Holdings
import NexusCore.Runtime.Broker.NatsTasks

/-!
# The tasks of the NATS adapter

Any number of nodes share one server. Their calls interleave command by command, a command fails
with or without its effect, and a node may start again with an empty memory. A task whose enqueue
has succeeded is in one of the streams until an `ack` call acknowledges its message.
-/

namespace NexusCore.Runtime

open NexusCore.Lib

namespace Nats

/-- One server, and the memory of every node. -/
structure NatsNodes where
  server : JetStream.Server NatsPayload
  leased : Nat → NatsLeases
  routes : Nat → RouteCatalog NatsRouteTopology

namespace NatsNodes

def fresh (isLogged : String → Bool) : NatsNodes := ⟨.fresh isLogged, fun _ => ∅, fun _ => .new⟩

/-- The world of one node. -/
def seenBy (w : NatsNodes) (node : Nat) : NatsWorld := ⟨w.server, w.leased node, w.routes node⟩

def put (w : NatsNodes) (node : Nat) (v : NatsWorld) : NatsNodes :=
  ⟨v.server, Function.update w.leased node v.leased, Function.update w.routes node v.routes⟩

end NatsNodes

inductive NodeOp where
  | op (node : Nat) (op : NatsOp)
  | restart (node : Nat)

def NodeOp.Answer : NodeOp → Type
  | .op _ c => c.Answer
  | .restart _ => Unit

abbrev NodeProg : Type := Prog NodeOp NodeOp.Answer AppError Unit

def nodes : Handler NatsNodes NodeOp NodeOp.Answer
  | w, .op node op, r, u => ∃ v, nats (w.seenBy node) op r v ∧ u = w.put node v
  | w, .restart node, _, u => u = w.put node (w.seenBy node).restart

/-- A call on a node, or the node starts again. -/
inductive NodeCall where
  | call (node : Nat) (call : NatsCall)
  | restart (node : Nat)

namespace NodeCall

def prog (config : Nat → NatsQueueConfig) : NodeCall → NodeProg
  | .call node made => (made.prog (config node)).relabel (NodeOp.op node) fun _ r => r
  | .restart node => .call (.restart node) .ret

def brings : NodeCall → Multiset RuntimeTask
  | .call _ made => made.brings
  | .restart _ => 0

def Acknowledges : NodeCall → Prop
  | .call _ made => made.Acknowledges
  | .restart _ => False

end NodeCall

def Calls (config : Nat → NatsQueueConfig) (p : NodeProg) : Prop := ∃ c : NodeCall, p = c.prog config

section Runs

abbrev NodeBusy : Type := Busy NatsNodes NodeOp NodeOp.Answer AppError Unit

abbrev NodeTransition : Type := Transition NodeBusy (Move NodeOp NodeOp.Answer AppError Unit)

abbrev NodeLog : Type := List (Sigma NodeOp.Answer)

/-- How a call of a node deals with tasks. -/
def mindingOn (acknowledges : Prop) : Discipline NodeOp NodeOp.Answer Pocket where
  permits pocket
    | .op _ op => pocket.permits acknowledges op
    | .restart _ => True
  next pocket
    | .op _ op, r => pocket.next op r
    | .restart _, _ => pocket
  clear _ := True

def pocket (log : NodeLog) : Pocket :=
  log.foldl (fun pocket entry => (mindingOn False).next pocket entry.1 entry.2) .empty

theorem pocket_snoc (log : NodeLog) (c : NodeOp) (r : c.Answer) :
    pocket (log ++ [⟨c, r⟩]) = (mindingOn False).next (pocket log) c r := by
  simp [pocket]

/-- With an answer of its adapter, a call has brought its task in and holds no other copy. -/
def Ends (c : NodeCall) (pocket : Pocket) (o : AppResult Unit) : Prop :=
  ∀ a, o = .ok a → pocket.spare = c.brings

theorem prog_minds (config : Nat → NatsQueueConfig) (c : NodeCall) :
    (mindingOn c.Acknowledges).Upholds (fun _ _ _ => True) (Ends c) .empty (c.prog config) := by
  cases c with
  | call node made =>
    refine (call_minds (config node) made).relabel (fun _ _ permitted => permitted)
      (fun _ _ _ => rfl) fun _ _ _ _ => trivial
  | restart node => exact .call trivial fun _ _ => .ret fun _ _ => rfl

variable {config : Nat → NatsQueueConfig} {isLogged : String → Bool} {moves : List NodeTransition}
  {b b' : NodeBusy} {m : Move NodeOp NodeOp.Answer AppError Unit}

/-- What the calls of the nodes hold. -/
def holdings (config : Nat → NatsQueueConfig) :
    Holdings NodeOp NodeOp.Answer AppError Unit Pocket NodeCall where
  prog c := c.prog config
  start := .empty
  next := (mindingOn False).next
  permits c := (mindingOn c.Acknowledges).permits
  assumes _ _ _ := True
  exits := Ends

/-- The task that a call has brought in when it succeeds. -/
def accepted (x : NodeTransition) : Multiset RuntimeTask :=
  match x.label with
  | .finish call (.ok _) => (pocket call.log).spare
  | _ => 0

def settlesOn (held : Pocket) : NodeOp → Multiset RuntimeTask
  | .op _ op => settles held op
  | .restart _ => 0

/-- The task whose message is settled for good in a step. -/
def acknowledged (x : NodeTransition) : Multiset RuntimeTask :=
  match x.label with
  | .command c _ call _ => settlesOn (pocket call.log.dropLast) c
  | _ => 0

/-- Of the commands of a node, the others see what the server makes of them. -/
theorem seenBy_of_step {w u : NatsNodes} {c : NodeOp} {r : c.Answer} {acknowledges : Prop}
    {held : Pocket} (known : Known w.server held)
    (leases : ∀ node id leased, (w.leased node).lookup id = some leased → Speaks w.server leased)
    (permitted : (mindingOn acknowledges).permits held c) (step : nodes w c r u) :
    Later w.server u.server ∧ Known u.server ((mindingOn False).next held c r) ∧
      ∀ node id leased, (u.leased node).lookup id = some leased → Speaks u.server leased := by
  cases c with
  | op node op =>
    obtain ⟨v, step, rfl⟩ := step
    have later : Later w.server v.server := later_of_step (w := w.seenBy node) step
    refine ⟨later, known.next (leases node) step, ?_⟩
    intro other id leased found
    by_cases same : other = node
    · subst same
      change (Function.update w.leased other v.leased other).lookup id = some leased at found
      rw [Function.update_self] at found
      exact leases_of_step (w := w.seenBy other) known permitted (leases other) step id leased found
    · change (Function.update w.leased node v.leased other).lookup id = some leased at found
      rw [Function.update_of_ne same] at found
      exact later.holds (leases other id leased found)
  | restart node =>
    obtain rfl := step
    refine ⟨⟨id, id⟩, known, ?_⟩
    intro other id leased found
    by_cases same : other = node
    · subst same
      change (Function.update w.leased other ∅ other).lookup id = some leased at found
      rw [Function.update_self, AList.lookup_empty] at found
      cases found
    · change (Function.update w.leased node ∅ other).lookup id = some leased at found
      rw [Function.update_of_ne same] at found
      exact leases other id leased found

theorem stored_of_node {w u : NatsNodes} {c : NodeOp} {r : c.Answer} {acknowledges : Prop}
    {held : Pocket} (known : Known w.server held)
    (permitted : (mindingOn acknowledges).permits held c) (step : nodes w c r u) :
    stored w.server + ((mindingOn False).next held c r).spare ≤
      stored u.server + held.spare + settlesOn held c := by
  cases c with
  | op node op =>
    obtain ⟨v, step, rfl⟩ := step
    exact stored_of_step (w := w.seenBy node) known permitted step
  | restart node =>
    obtain rfl := step
    exact Multiset.le_add_right _ _

/-- Every node leases what it has been handed. -/
def LeasesSpeak (w : NatsNodes) : Prop :=
  ∀ node id leased, (w.leased node).lookup id = some leased → Speaks w.server leased

theorem holdings_kept (config : Nat → NatsQueueConfig) :
    (holdings config).Kept nodes LeasesSpeak fun w => Known w.server where
  minds := prog_minds config
  start _ _ := known_empty
  step w _ _ _ _ u leases known permitted step := by
    obtain ⟨later, next, leases⟩ := seenBy_of_step known leases permitted step
    exact ⟨trivial, leases, next, fun _ known => known.later later⟩

theorem leasesSpeak_fresh : LeasesSpeak (.fresh isLogged) := by
  intro node id leased found
  cases found

theorem fair_of_nodes (run : Run (Interleaved nodes (Calls config)) ⟨.fresh isLogged, 0⟩ moves b) :
    ∀ x ∈ moves, (holdings config).Fair nodes LeasesSpeak (fun w => Known w.server) x :=
  Holdings.fair_of_run (holdings_kept config) leasesSpeak_fresh run

theorem accepted_eq (x : NodeTransition) : (holdings config).accepted Pocket.spare x = accepted x := by
  obtain ⟨_, label, _⟩ := x
  rcases label with _ | _ | ⟨call, _ | _⟩ <;> rfl

/-- The tasks that have been brought in are in the streams or have been acknowledged. -/
theorem covered_of_nodes
    (run : Run (Interleaved nodes (Calls config)) ⟨.fresh isLogged, 0⟩ moves b) :
    (moves.map accepted).sum ≤ stored b.state.server + (moves.map acknowledged).sum := by
  have balanced : ∀ x ∈ moves, (holdings config).Balanced Pocket.spare (fun w => stored w.server)
      acknowledged x := by
    intro x mem c r call others log label split
    obtain ⟨front, made, split', -, permitted, -, known, answered⟩ :=
      (fair_of_nodes run x mem).command _ _ _ _ label
    obtain rfl : front = log := List.append_inj_left' (split'.symm.trans split) rfl
    unfold acknowledged
    rw [label]
    dsimp only
    rw [split, List.dropLast_concat]
    exact stored_of_node known permitted answered
  have covered := Holdings.covered_of_run rfl run balanced
  rwa [List.map_congr_left fun x _ => accepted_eq x] at covered

theorem leased_of_next {held : Pocket} {op : NatsOp} {leased : NatsLeasedDelivery} (r : op.Answer)
    (taken : (held.next op r).leased = some leased) : held.leased = some leased ∨
      ∃ deliveryId, (⟨op, r⟩ : Sigma NatsOp.Answer) = ⟨.removeLease deliveryId, some leased⟩ := by
  revert taken
  unfold Pocket.next
  split
  · exact .inl
  · exact .inl
  · exact .inl
  · exact .inl
  · exact .inl
  · next deliveryId found =>
    rintro rfl
    exact .inr ⟨deliveryId, rfl⟩
  · exact .inl

/-- A call that has taken a lease was given it by the memory of its node. -/
theorem taken_of_leased (log : NodeLog) (leased : NatsLeasedDelivery)
    (held : (pocket log).leased = some leased) :
    ∃ node deliveryId, ⟨.op node (.removeLease deliveryId), some leased⟩ ∈ log := by
  induction log using List.reverseRecOn with
  | nil => cases held
  | append_singleton log entry ih =>
    obtain ⟨c, r⟩ := entry
    rw [pocket_snoc] at held
    have earlier : (pocket log).leased = some leased → ∃ node deliveryId,
        ⟨.op node (.removeLease deliveryId), some leased⟩ ∈ log ++ [(⟨c, r⟩ : Sigma NodeOp.Answer)] := by
      intro before
      obtain ⟨node, deliveryId, taken⟩ := ih before
      exact ⟨node, deliveryId, List.mem_append_left _ taken⟩
    cases c with
    | restart node => exact earlier held
    | op node op =>
      rcases leased_of_next r held with before | ⟨deliveryId, same⟩
      · exact earlier before
      · cases same
        exact ⟨node, deliveryId, List.mem_append_right _ (List.mem_singleton_self _)⟩

/-- A step in which an `ack` call acknowledges the message of a delivery of a task. -/
def AcknowledgedIn (config : Nat → NatsQueueConfig) (x : NodeTransition) (task : RuntimeTask) :
    Prop :=
  ∃ node made leased r call others,
    x.label = .command (.op made (.command (.ack leased.acker))) r call others ∧
    leased.delivery.task = task ∧
    (∃ deliveryId, call.program = (NodeCall.call node (.ack deliveryId)).prog config) ∧
    ∃ owner deliveryId, ⟨.op owner (.removeLease deliveryId), some leased⟩ ∈ call.log

theorem acknowledgedIn_of_run
    (run : Run (Interleaved nodes (Calls config)) ⟨.fresh isLogged, 0⟩ moves b) :
    ∀ x ∈ moves, ∀ task ∈ acknowledged x, AcknowledgedIn config x task := by
  intro x mem task there
  unfold acknowledged at there
  split at there
  · next c r call others label =>
    obtain ⟨log, made, split, same, permitted, -⟩ :=
      (fair_of_nodes run x mem).command _ _ _ _ label
    rw [split, List.dropLast_concat] at there
    change (mindingOn made.Acknowledges).permits (pocket log) c at permitted
    cases c with
    | restart node => cases Multiset.notMem_zero _ there
    | op owner op =>
      change task ∈ settles _ op at there
      unfold settles at there
      split at there
      · next sequence =>
        obtain ⟨leased, held, rfl, paid⟩ := permitted
        rw [held] at there
        dsimp only at there
        split_ifs at there with none
        · obtain rfl := Multiset.mem_singleton.1 there
          have acknowledges : made.Acknowledges := by
            rcases paid with own | ⟨-, acknowledges⟩
            · rw [none] at own
              cases Multiset.singleton_ne_zero _ own.symm
            · exact acknowledges
          obtain ⟨node, deliveryId, rfl⟩ : ∃ node deliveryId, made = .call node (.ack deliveryId) := by
            rcases made with ⟨node, made⟩ | node
            · cases made with
              | ack deliveryId => exact ⟨node, deliveryId, rfl⟩
              | _ => exact acknowledges.elim
            · exact acknowledges.elim
          obtain ⟨holder, taken, mem⟩ := taken_of_leased _ _ held
          refine ⟨node, owner, leased, r, call, others, label, rfl, ⟨deliveryId, same⟩, holder, taken,
            ?_⟩
          rw [split]
          exact List.mem_append_left _ mem
        · cases Multiset.notMem_zero _ there
      · cases Multiset.notMem_zero _ there
  · cases Multiset.notMem_zero _ there

/-- In every interleaving of the calls of all nodes, the tasks of the enqueues that have succeeded
are in the streams, but for those whose message an `ack` call has acknowledged. -/
theorem no_task_lost (config : Nat → NatsQueueConfig) (isLogged : String → Bool)
    (moves : List NodeTransition) (b : NodeBusy)
    (run : Run (Interleaved nodes (Calls config)) ⟨.fresh isLogged, 0⟩ moves b) :
    (moves.map accepted).sum ≤ stored b.state.server + (moves.map acknowledged).sum ∧
      (∀ x ∈ moves, ∀ call node task, x.label = .finish call (.ok ()) →
        call.program = (NodeCall.call node (.enqueue task)).prog config → accepted x = {task}) ∧
      ∀ x ∈ moves, ∀ task ∈ acknowledged x, AcknowledgedIn config x task := by
  refine ⟨?_, ?_, acknowledgedIn_of_run run⟩
  · exact covered_of_nodes run
  · intro x mem call node task label same
    have brought := (fair_of_nodes run x mem).finish _ _ label (.call node (.enqueue task)) same
    unfold accepted
    rw [label]
    exact brought () rfl

/-- A server that executes every command, and nodes that answer. -/
def respondNodes (w : NatsNodes) : (c : NodeOp) → c.Answer × NatsNodes
  | .op node op =>
    ((respond 1000 (w.seenBy node) op).1, w.put node (respond 1000 (w.seenBy node) op).2)
  | .restart node => ((), w.put node (w.seenBy node).restart)

theorem respondNodes_allowed (w : NatsNodes) (c : NodeOp) :
    nodes w c (respondNodes w c).1 (respondNodes w c).2 := by
  cases c with
  | op node op => exact ⟨_, respond_allowed 1000 (w.seenBy node) op, rfl⟩
  | restart node => rfl

def sampleConfig : NatsQueueConfig := ⟨"nexus.tasks", "nexus", 30000⟩

/-- Two nodes enqueue at once; one reserves a task, rejects it and starts again. -/
def rejectTurns : List (NodeCall ⊕ Nat) :=
  .inl (.call 0 (.enqueue (sampleTask "task-1" "judge-a" 3))) ::
  .inl (.call 1 (.enqueue (sampleTask "task-2" "judge-a" 3))) :: inTurn 5 [0, 1] ++
  .inl (.call 0 (.reserve [])) :: inTurn 10 [0] ++
  .inl (.call 0 (.reject "nats-task-1-1" "worker crashed")) :: inTurn 7 [0] ++
  .inl (.restart 0) :: inTurn 2 [0]

theorem no_task_lost_by_reject : ∃ moves b,
    Run (Interleaved nodes (Calls fun _ => sampleConfig))
      ⟨.fresh (isDeadLetterSubject sampleConfig), 0⟩ moves b ∧
    b.state.server.work.map (·.payload.task) = [sampleTask "task-2" "judge-a" 3] ∧
    b.state.server.log.map (·.2.task) = [sampleTask "task-1" "judge-a" 3] ∧
    (moves.map accepted).sum ≤ stored b.state.server + (moves.map acknowledged).sum := by
  obtain ⟨moves, run⟩ := run_play (Calls fun _ => sampleConfig) respondNodes_allowed
    (.fresh (isDeadLetterSubject sampleConfig)) []
    (schedule (NodeCall.prog fun _ => sampleConfig) rejectTurns) fun _ => named_of_start
  exact ⟨moves, _, run, by decide +kernel, by decide +kernel, (no_task_lost _ _ moves _ run).1⟩

end Runs

end Nats

end NexusCore.Runtime
