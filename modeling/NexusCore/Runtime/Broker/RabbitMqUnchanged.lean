import NexusCore.Runtime.Broker.RabbitMqCopies
import NexusCore.Runtime.Broker.RabbitMqLooks
import NexusCore.Runtime.Broker.RouteNames

/-!
# Dead letters in RabbitMQ under inspection

A call that looks at the dead letters leaves them as they were unless it is cut off at the wrong
place, or the broker gives one of the copies up. The audit of the call tells where: at a publication
whose original is not acknowledged, at an acknowledgement without such a publication, which that of
a replayed record is, and at a payload that is no record while messages are held.
-/

namespace NexusCore.Runtime

open NexusCore.Lib

namespace RabbitMq

section Views

variable {among : String → Bool} {w u : RabbitMqWorld}

/-- The messages of the queues that the adapter would not be handed again, since it holds them. -/
def heldMessages (among : String → Bool) (w : RabbitMqWorld) : Multiset (String × RabbitMqPayload) :=
  (((w.server.unacked.filter fun d => w.transport = some d.channel).map (·.message.item) : List _) :
    Multiset (String × RabbitMqPayload)).filter (among ·.1 = true)

/-- The messages of the queues that the next look at them can see. -/
def visible (among : String → Bool) (w : RabbitMqWorld) : Multiset (String × RabbitMqPayload) :=
  ((w.server.ready.map Amqp.Message.item ++
    (w.server.unacked.filter fun d => w.transport ≠ some d.channel).map (·.message.item) : List _) :
    Multiset (String × RabbitMqPayload)).filter (among ·.1 = true)

theorem stored_eq_visible_add_held (among : String → Bool) (w : RabbitMqWorld) :
    w.server.stored among = visible among w + heldMessages among w := by
  rw [Amqp.Server.stored, visible, heldMessages, ← Multiset.filter_add, Amqp.Server.contents,
    Multiset.coe_add]
  congr 1
  rw [Multiset.coe_eq_coe, List.append_assoc]
  have split : (w.server.unacked.filter (fun d => ¬ w.transport = some d.channel) ++
      w.server.unacked.filter (fun d => w.transport = some d.channel)).Perm w.server.unacked := by
    refine List.perm_append_comm.trans ?_
    simpa using List.filter_append_perm (fun d : Amqp.Delivery RabbitMqPayload =>
      decide (w.transport = some d.channel)) w.server.unacked
  have items := split.map (·.message.item)
  rw [List.map_append] at items
  exact (items.append_left _).symm

theorem noneHeld_iff_heldMessages : NoneHeld among w ↔ heldMessages among w = 0 := by
  rw [heldMessages, Multiset.filter_eq_nil]
  constructor
  · intro free item mem
    obtain ⟨d, there, rfl⟩ := List.mem_map.1 (Multiset.mem_coe.1 mem)
    obtain ⟨there, on_channel⟩ := List.mem_filter.1 there
    have unwatched : among d.message.item.1 = false := free d there (of_decide_eq_true on_channel)
    simp [unwatched]
  · intro none d there on_channel
    have kept : d ∈ w.server.unacked.filter fun d => w.transport = some d.channel :=
      List.mem_filter.2 ⟨there, decide_eq_true on_channel⟩
    have mem := List.mem_map_of_mem (f := fun d : Amqp.Delivery RabbitMqPayload => d.message.item) kept
    exact Bool.eq_false_iff.2 (none _ (Multiset.mem_coe.2 mem))

/-- The next look sees what it would have seen, no message is held, and none is there once more or
once less. -/
structure Unchanged (among : String → Bool) (w u : RabbitMqWorld) : Prop where
  visible : visible among u = visible among w
  free : NoneHeld among u
  once : u.server.stored among = w.server.stored among

theorem Unchanged.noneHeld (unchanged : Unchanged among w u) : NoneHeld among w := by
  have before := stored_eq_visible_add_held among w
  have after := stored_eq_visible_add_held among u
  rw [noneHeld_iff_heldMessages.1 unchanged.free, unchanged.once, unchanged.visible] at after
  have cards := congrArg Multiset.card (before.symm.trans after)
  simp only [Multiset.card_add, Multiset.card_zero] at cards
  exact noneHeld_iff_heldMessages.2 (Multiset.card_eq_zero.1 (by omega))

theorem unchanged_iff_stored (before : NoneHeld among w) :
    Unchanged among w u ↔ NoneHeld among u ∧ u.server.stored among = w.server.stored among := by
  constructor
  · intro unchanged
    exact ⟨unchanged.free, unchanged.once⟩
  · rintro ⟨free, once⟩
    refine ⟨?_, free, once⟩
    have here := stored_eq_visible_add_held among u
    have there := stored_eq_visible_add_held among w
    rw [noneHeld_iff_heldMessages.1 free, Multiset.add_zero] at here
    rw [noneHeld_iff_heldMessages.1 before, Multiset.add_zero] at there
    rw [← here, ← there, once]

/-- A call that is accounted for has changed nothing exactly when its audit is clean. -/
theorem Audited.unchanged_iff {audit : Audit} (before : NoneHeld among w)
    (accounted : Audited among (w.server.stored among) (u, audit)) :
    Unchanged among w u ↔ audit.Clean := by
  rw [unchanged_iff_stored before, accounted.held, Audit.Clean]
  have balance := accounted.balance
  dsimp only at balance ⊢
  constructor
  · rintro ⟨left, same⟩
    rw [same, add_assoc] at balance
    exact ⟨add_left_cancel balance, left⟩
  · rintro ⟨same, left⟩
    rw [same, ← add_assoc] at balance
    exact ⟨left, add_right_cancel (add_right_cancel balance)⟩

end Views

/-- The states of an adapter: it starts on any broker, its calls return or are stopped, and anything
but its catalog may be changed by others. -/
inductive Reached (config : RabbitMqQueueConfig) (rounds : Nat) : RabbitMqWorld → Prop where
  | start (server : Amqp.Server RabbitMqPayload) : Reached config rounds ⟨server, none, .empty, .new, []⟩
  | returned {w u : RabbitMqWorld} (call : RabbitMqCall) {result : AppResult call.Result} :
      Reached config rounds w → Exec rabbitmq (call.prog config rounds) w result u →
      Reached config rounds u
  | stopped {w u : RabbitMqWorld} (call : RabbitMqCall) :
      Reached config rounds w → Stops rabbitmq (call.prog config rounds) w u →
      Reached config rounds u
  | other {w u : RabbitMqWorld} :
      Reached config rounds w → u.routes = w.routes → Reached config rounds u

section Looks

variable {config : RabbitMqQueueConfig} {rounds : Nat} {among : String → Bool} {w : RabbitMqWorld}

/-- The registry of the routes is no dead-letter queue. -/
theorem registry_unwatched (dead : ∀ name, among name = true →
      ∃ queue lane, name = (buildRouteTopology config queue lane).deadLetterQueueName) :
    among (rabbitmqRouteRegistryQueueName config) = false := by
  by_contra watched
  obtain ⟨queue, lane, same⟩ := dead _ (by simpa using watched)
  have registry : ".__routes" = ".__route" ++ String.singleton 's' := by decide
  have suffix : ".dead" = ".dea" ++ String.singleton 'd' := by decide
  simp only [rabbitmqRouteRegistryQueueName, buildRouteTopology] at same
  rw [registry, suffix, ← String.append_assoc, ← String.append_assoc] at same
  exact append_ne_append_of_last (by decide) same

/-- `dead_letters`, whatever it returns, and a `replay_dead_letter` that fails leave the messages of
any dead-letter queues as they were exactly when none of them was held before and the audit of the
call is clean. -/
theorem looking_changes_nothing_iff (dead : ∀ name, among name = true →
      ∃ queue lane, name = (buildRouteTopology config queue lane).deadLetterQueueName) :
    (∀ result u audit,
      Exec (audited among) (deadLetters config rounds) (w, .start) result (u, audit) →
      (Unchanged among w u ↔ NoneHeld among w ∧ audit.Clean)) ∧
    ∀ deliveryId error u audit, Exec (audited among)
        (replayDeadLetter config rounds deliveryId) (w, .start) (.error error) (u, audit) →
      (Unchanged among w u ↔ NoneHeld among w ∧ audit.Clean) := by
  have unwatched := registry_unwatched dead
  have folded : ∀ u (audit : Audit), (NoneHeld among w →
        Audited among (w.server.stored among) (u, audit)) →
      (Unchanged among w u ↔ NoneHeld among w ∧ audit.Clean) := by
    intro u audit accounted
    constructor
    · intro unchanged
      have free := unchanged.noneHeld
      exact ⟨free, ((accounted free).unchanged_iff free).1 unchanged⟩
    · rintro ⟨free, clean⟩
      exact ((accounted free).unchanged_iff free).2 clean
  constructor
  · intro result u audit run
    refine folded u audit fun free => ?_
    cases result with
    | ok records =>
      obtain ⟨settled, free'⟩ := (deadLetters_meets unwatched free (settled_start w)).exec_ok run
      exact settled.toKept.accounted free'
    | error error => exact (deadLetters_meets unwatched free (settled_start w)).exec_error run
  · intro deliveryId error u audit run
    refine folded u audit fun free => ?_
    exact (replayDeadLetter_meets unwatched free (settled_start w)).exec_error run

end Looks

/-! ## Looks on a broker that answers -/

/-- The dead letters of a route. -/
def sampleDead (name : String) : Bool := name == "nexus.oj.fast.dead"

theorem sampleDead_dead (name : String) (watched : sampleDead name = true) :
    ∃ queue lane, name = (buildRouteTopology sampleConfig queue lane).deadLetterQueueName := by
  obtain rfl : name = "nexus.oj.fast.dead" := by simpa [sampleDead] using watched
  exact ⟨"oj", "fast", by decide +kernel⟩

def sampleRejected : RabbitMqWorld := after (reject "rmq-task-1-1" "worker crashed") sampleReserved

theorem sampleEnqueued_reached : Reached sampleConfig 3 sampleEnqueued := by
  have enqueued : Exec rabbitmq (enqueue sampleConfig (sampleTask "task-1" "oj" 3)) .fresh (.ok ())
      sampleEnqueued := exec_after (by decide +kernel)
  exact .returned (.enqueue _) (.start .fresh) enqueued

theorem sampleRejected_reached : Reached sampleConfig 3 sampleRejected := by
  have reserved : Exec rabbitmq (reserve []) sampleEnqueued (.ok (some sampleDelivery))
      sampleReserved := exec_after (by decide +kernel)
  have rejected : Exec rabbitmq (reject "rmq-task-1-1" "worker crashed") sampleReserved (.ok ())
      sampleRejected := exec_after (by decide +kernel)
  exact .returned (.reject ..) (.returned (.reserve _) sampleEnqueued_reached reserved) rejected

/-- The broker that answers, under an audit. -/
def respondAudited (among : String → Bool) (t : RabbitMqWorld × Audit) (op : RabbitMqOp) :
    Option (op.Answer × (RabbitMqWorld × Audit)) :=
  (respond 1000 t.1 op).map fun reply =>
    (reply.1, reply.2, t.2.after among t.1 op reply.1 reply.2)

theorem respondAudited_allowed {among : String → Bool} {t u : RabbitMqWorld × Audit}
    {op : RabbitMqOp} {answer : op.Answer}
    (answered : respondAudited among t op = some (answer, u)) :
    audited among t op answer u := by
  obtain ⟨⟨reply, v⟩, responded, pair⟩ := Option.map_eq_some_iff.1 answered
  cases pair
  exact ⟨respond_allowed responded, rfl⟩

/-- The state after a look at the dead letters, and its audit. -/
def looked (w : RabbitMqWorld) : RabbitMqWorld × Audit :=
  (((deadLetters sampleConfig 3).tryEval (respondAudited sampleDead) (w, .start)).map (·.2)).getD
    (w, .start)

theorem exec_looked {w : RabbitMqWorld} {result : AppResult (List RuntimeDeadLetterRecord)}
    (returned : ((deadLetters sampleConfig 3).tryEval (respondAudited sampleDead)
      (w, .start)).map (·.1) = some result) :
    Exec (audited sampleDead) (deadLetters sampleConfig 3) (w, .start) result
      (looked w) := by
  obtain ⟨⟨_, u⟩, run, rfl⟩ := Option.map_eq_some_iff.1 returned
  have same : looked w = u := by
    rw [looked, run]
    rfl
  rw [same]
  exact Exec.of_tryEval (h := respondAudited sampleDead)
    (fun _ _ _ _ answered => respondAudited_allowed answered) run

/-- A dead letter is looked at and is there as before. -/
theorem looking_changes_nothing_iff_of_sample :
    sampleRejected.server.stored sampleDead ≠ 0 ∧
      Unchanged sampleDead sampleRejected (looked sampleRejected).1 := by
  have returned : ((deadLetters sampleConfig 3).tryEval (respondAudited sampleDead)
      (sampleRejected, .start)).map (·.1.isOk) = some true := by decide +kernel
  obtain ⟨⟨result, u⟩, run, -⟩ := Option.map_eq_some_iff.1 returned
  have looks := exec_looked (w := sampleRejected) (by rw [run]; rfl)
  refine ⟨by decide +kernel, ?_⟩
  refine ((looking_changes_nothing_iff sampleDead_dead).1 _ _ _ looks).2 ?_
  exact ⟨by decide +kernel, by decide +kernel, by decide +kernel⟩

/-- Behind the dead letter there is a message that is no record. -/
def sampleSpoiled : RabbitMqWorld :=
  { sampleRejected with
    server := sampleRejected.server.store "" "nexus.oj.fast.dead"
      (.envelope { task := sampleTask "task-1" "oj" 3, attempt := 1, lastError := none }) none }

/-- A look at a dead-letter queue with a payload that is no record fails and leaves its messages on
the channel: the next look sees no dead letter. -/
theorem look_hides_dead_letter :
    Reached sampleConfig 3 sampleSpoiled ∧ NoneHeld sampleDead sampleSpoiled ∧
    Exec rabbitmq (deadLetters sampleConfig 3) sampleSpoiled (.error .internal)
      (after (deadLetters sampleConfig 3) sampleSpoiled) ∧
    Exec rabbitmq (deadLetters sampleConfig 3) (after (deadLetters sampleConfig 3) sampleSpoiled)
      (.ok []) (after (deadLetters sampleConfig 3) (after (deadLetters sampleConfig 3) sampleSpoiled)) ∧
    ¬ Unchanged sampleDead sampleSpoiled (after (deadLetters sampleConfig 3) sampleSpoiled) := by
  refine ⟨.other sampleRejected_reached rfl, by decide +kernel, exec_after (by decide +kernel),
    exec_after (by decide +kernel), ?_⟩
  intro unchanged
  have held : ¬ NoneHeld sampleDead (after (deadLetters sampleConfig 3) sampleSpoiled) := by
    decide +kernel
  exact held unchanged.free

end RabbitMq

end NexusCore.Runtime
