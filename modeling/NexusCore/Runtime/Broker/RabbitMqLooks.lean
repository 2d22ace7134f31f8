import NexusCore.Runtime.Broker.RabbitMqDrains

/-!
# Looking at the dead letters of RabbitMQ

The calls that look at dead letters load the registered routes, and drain and restore the
dead-letter queue of each route. What they leave is put together here from what their parts leave.
-/

namespace NexusCore.Runtime

open NexusCore.Lib

namespace RabbitMq

section Loading

variable {among : String → Bool} {config : RabbitMqQueueConfig} {queue : String} {channel : Nat}
  {w : RabbitMqWorld} {audit : Audit} {rounds : Nat}
  {base : Multiset (String × RabbitMqPayload)}

/-- The routes of some messages enter the catalog; the messages stay as they are. -/
theorem registerRoutes_meets {seen : List RabbitMqRouteRegistryEntry}
    {entries : List (RabbitMqDrained RabbitMqRouteRegistryEntry)} {home : Nat}
    {messages : List (RabbitMqDrained RabbitMqRouteRegistryEntry)}
    (restoring : Restoring among queue home messages w) (settled : Settled among base (w, audit)) :
    Meets (audited among)
      (fun _ t => Settled among base t ∧ Restoring among queue home messages t.1)
      (Audited among base) (registerRoutes config channel seen entries) (w, audit) := by
  induction entries generalizing w seen with
  | nil => exact .ret ⟨settled, restoring⟩
  | cons entry rest ih =>
    rw [registerRoutes]
    split_ifs
    · exact ih restoring settled
    · refine Meets.bind (ensureTopology_meets channel _ settled.toKept) ?_
      rintro ⟨⟩ ⟨u, _⟩ ⟨rfl, quiets, -⟩
      refine Meets.call_watching ?_
      rintro ⟨⟩ _ ⟨-, rfl⟩
      have kept := restoring.frees quiets.toFrees
      refine ih ?_ (settled.same quiets.stored)
      exact kept

/-- The registry is read and put back. -/
theorem ensureRegisteredRoutesLoaded_meets
    (unwatched : among (rabbitmqRouteRegistryQueueName config) = false) (free : NoneHeld among w)
    (settled : Settled among base (w, audit)) : Meets (audited among)
      (fun _ t => Settled among base t ∧ NoneHeld among t.1)
      (Audited among base) (ensureRegisteredRoutesLoaded config rounds) (w, audit) := by
  refine Meets.bind (activeTransport_meets settled.toKept) ?_
  rintro channel ⟨w₁, _⟩ ⟨rfl, quiets₁, on_channel⟩
  have settled₁ := settled.same quiets₁.stored
  refine setup_then (by trivial) settled₁.toKept fun _ w₂ _ quiets₂ transport => ?_
  have frees := quiets₁.toFrees.trans quiets₂.toFrees
  refine Meets.bind (drainQueue_meets (by simp [unwatched]) rounds [] (frees.noneHeld free).drained
    (transport.trans on_channel) (settled₁.same quiets₂.stored)) ?_
  rintro entries ⟨w₃, _⟩ ⟨settled₃, on_channel₃, drained⟩
  refine Meets.bind (registerRoutes_meets (drained.restoring on_channel₃) settled₃) ?_
  rintro ⟨⟩ ⟨w₄, _⟩ ⟨settled₄, restoring⟩
  exact restoreRegistry_meets restoring settled₄

/-- The dead letters of a route are taken out. -/
theorem drainDeadLetterQueue_meets (topology : RabbitMqRouteTopology) (free : NoneHeld among w)
    (settled : Settled among base (w, audit)) : Meets (audited among)
      (fun messages t => Settled among base t ∧
        Drained among topology.deadLetterQueueName messages t.1)
      (Audited among base) (drainDeadLetterQueue topology rounds) (w, audit) := by
  refine Meets.bind (activeTransport_meets settled.toKept) ?_
  rintro channel ⟨w₁, _⟩ ⟨rfl, quiets₁, on_channel⟩
  have settled₁ := settled.same quiets₁.stored
  refine Meets.bind (ensureTopology_meets channel topology settled₁.toKept) ?_
  rintro ⟨⟩ ⟨w₂, _⟩ ⟨rfl, quiets₂, transport⟩
  have frees := quiets₁.toFrees.trans quiets₂.toFrees
  refine (drainQueue_meets (fun _ _ => rfl) rounds [] (frees.noneHeld free).drained
    (transport.trans on_channel) (settled₁.same quiets₂.stored)).mono ?_
    fun _ post => post
  rintro messages ⟨w₃, _⟩ ⟨settled₃, -, drained⟩
  exact ⟨settled₃, drained⟩

/-- The dead letters of a route are put back. -/
theorem restoreDeadLetterQueue_meets {topology : RabbitMqRouteTopology}
    {messages : List RabbitMqDeadLetterMessage}
    (drained : Drained among topology.deadLetterQueueName messages w)
    (settled : Settled among base (w, audit)) : Meets (audited among)
      (fun _ t => Settled among base t ∧ NoneHeld among t.1)
      (Audited among base) (restoreDeadLetterQueue topology messages) (w, audit) := by
  refine Meets.bind (activeTransport_meets settled.toKept) ?_
  rintro channel ⟨u, _⟩ ⟨rfl, quiets, on_channel⟩
  exact restoreMessages_meets ((drained.frees quiets.toFrees).restoring on_channel)
    (settled.same quiets.stored)

/-- The dead letters of the routes are read and put back. -/
theorem loadFrom_meets {topologies : List RabbitMqRouteTopology} (free : NoneHeld among w)
    (settled : Settled among base (w, audit)) : Meets (audited among)
      (fun _ t => Settled among base t ∧ NoneHeld among t.1)
      (Audited among base) (loadFrom rounds topologies) (w, audit) := by
  induction topologies generalizing w audit with
  | nil => exact .ret ⟨settled, free⟩
  | cons topology rest ih =>
    refine Meets.bind (drainDeadLetterQueue_meets topology free settled) ?_
    rintro messages ⟨u, _⟩ ⟨settled₁, drained⟩
    refine Meets.bind (restoreDeadLetterQueue_meets drained settled₁) ?_
    rintro ⟨⟩ ⟨v, _⟩ ⟨settled₂, free'⟩
    refine Meets.bind (ih free' settled₂) ?_
    rintro records t ended
    exact .ret ended

theorem topologies_meets {α : Type} {f : List RabbitMqRouteTopology → RabbitMqProg α}
    {Q : α → RabbitMqWorld × Audit → Prop} {E : RabbitMqWorld × Audit → Prop}
    (next : ∀ topologies, Meets (audited among) Q E (f topologies) (w, audit)) :
    Meets (audited among) Q E (Prog.bind (catalog .topologies) f) (w, audit) := by
  refine Meets.call_watching ?_
  rintro topologies _ ⟨-, rfl⟩
  exact next topologies

/-- All dead letters are read. -/
theorem deadLetters_meets
    (unwatched : among (rabbitmqRouteRegistryQueueName config) = false) (free : NoneHeld among w)
    (settled : Settled among base (w, audit)) : Meets (audited among)
      (fun _ t => Settled among base t ∧ NoneHeld among t.1)
      (Audited among base) (deadLetters config rounds) (w, audit) := by
  refine Meets.bind (ensureRegisteredRoutesLoaded_meets unwatched free settled) ?_
  rintro ⟨⟩ ⟨u, _⟩ ⟨settled₁, free'⟩
  exact topologies_meets fun topologies => loadFrom_meets free' settled₁

end Loading

section Replaying

variable {among : String → Bool} {config : RabbitMqQueueConfig} {deliveryId : String}
  {w : RabbitMqWorld} {audit : Audit} {rounds : Nat} {base : Multiset (String × RabbitMqPayload)}

/-- What a search for a record leaves: the messages of the queue with the record are taken out and
the others are back. -/
def Found (among : String → Bool) (w : RabbitMqWorld) :
    Option (DeadLetterReplay RabbitMqRouteTopology RabbitMqDeadLetterReplay) → Prop
  | none => NoneHeld among w
  | some replay => Drained among replay.topology.deadLetterQueueName
      (replay.stored.target :: replay.stored.remaining) w

theorem findAmong_meets {topologies : List RabbitMqRouteTopology} (free : NoneHeld among w)
    (settled : Settled among base (w, audit)) : Meets (audited among)
      (fun found t => Settled among base t ∧ Found among t.1 found)
      (Audited among base) (findAmong deliveryId rounds topologies) (w, audit) := by
  induction topologies generalizing w audit with
  | nil => exact .ret ⟨settled, free⟩
  | cons topology rest ih =>
    refine Meets.bind (drainDeadLetterQueue_meets topology free settled) ?_
    rintro messages ⟨u, _⟩ ⟨settled₁, drained⟩
    cases empty : messages.isEmpty with
    | true =>
      obtain rfl := List.isEmpty_iff.1 empty
      exact ih (noneHeld_of_drained drained) settled₁
    | false =>
      simp only [Bool.false_eq_true, if_false]
      cases split : splitTarget deliveryId messages with
      | some replay =>
        obtain ⟨-, front, back, rfl, remaining⟩ := splitTarget_spec split
        exact .ret ⟨settled₁, drained.perm (remaining ▸ List.perm_middle)⟩
      | none =>
        refine Meets.bind (restoreDeadLetterQueue_meets drained settled₁) ?_
        rintro ⟨⟩ ⟨v, _⟩ ⟨settled₂, free'⟩
        exact ih free' settled₂

theorem findDeadLetterReplay_meets
    (unwatched : among (rabbitmqRouteRegistryQueueName config) = false) (free : NoneHeld among w)
    (settled : Settled among base (w, audit)) : Meets (audited among)
      (fun found t => Settled among base t ∧ Found among t.1 found)
      (Audited among base) (findDeadLetterReplay config rounds deliveryId) (w, audit) := by
  refine Meets.bind (ensureRegisteredRoutesLoaded_meets unwatched free settled) ?_
  rintro ⟨⟩ ⟨u, _⟩ ⟨settled₁, free'⟩
  exact topologies_meets fun topologies => findAmong_meets free' settled₁

/-- The acknowledgement of the replayed record comes in the place of one that may be owed. -/
theorem finalizeReplayedDeadLetter_meets {topology : RabbitMqRouteTopology}
    {replay : RabbitMqDeadLetterReplay}
    (drained : Drained among topology.deadLetterQueueName (replay.target :: replay.remaining) w)
    (kept : Kept among base (w, audit)) : Meets (audited among)
      (fun _ t => Settled among base t ∧ NoneHeld among t.1)
      (Audited among base) (finalizeReplayedDeadLetter topology replay) (w, audit) := by
  refine Meets.bind (activeTransport_meets kept) ?_
  rintro channel ⟨u, _⟩ ⟨rfl, quiets, on_channel⟩
  have restoring := (drained.frees quiets.toFrees).restoring on_channel
  refine Meets.bind (ack_meets restoring (kept.same quiets.stored)) ?_
  rintro ⟨⟩ ⟨v, _⟩ ⟨settled, restoring'⟩
  exact restoreDeadLetterQueue_meets restoring'.drained settled

/-- A replay. -/
theorem replayDeadLetter_meets
    (unwatched : among (rabbitmqRouteRegistryQueueName config) = false) (free : NoneHeld among w)
    (settled : Settled among base (w, audit)) : Meets (audited among)
      (fun _ t => Settled among base t ∧ NoneHeld among t.1)
      (Audited among base) (replayDeadLetter config rounds deliveryId) (w, audit) := by
  refine Meets.bind (findDeadLetterReplay_meets unwatched free settled) ?_
  rintro (_ | replay) ⟨u, _⟩ ⟨settled₁, found⟩
  · exact .fail (settled₁.toKept.accounted found)
  · refine Meets.bind (publishRawPayload_meets settled₁) ?_
    rintro ⟨⟩ ⟨v, _⟩ ⟨kept, frees⟩
    refine Meets.bind (finalizeReplayedDeadLetter_meets (found.frees frees) kept) ?_
    rintro ⟨⟩ t ended
    exact .ret ended

end Replaying

end RabbitMq

end NexusCore.Runtime
