import NexusCore.Runtime.Broker.RabbitMq

/-!
# The mutexes of the RabbitMQ adapter

A call is read as the sequence of its lock and unlock steps, under every answer that its other
steps may get. A call never waits for a mutex that it holds itself, except in one place: `stats`
inspects the queues under the lock of the leases, and an inspection that fails invalidates the
channel, which forgets the leases under the same lock.
-/

namespace NexusCore.Runtime

open NexusCore.Lib

namespace RabbitMq

/-- What a call has done with the mutexes: the ones it holds, the pairs of a mutex that it held
and another that it asked for, whether it waits for one that it holds itself, and whether the
inspection of a queue has failed. -/
structure LockState where
  held : List RabbitMqMutex
  orders : List (RabbitMqMutex × RabbitMqMutex)
  blocked : Bool
  inspectionFailed : Bool

def LockState.start : LockState := ⟨[], [], false, false⟩

def LockState.request (s : LockState) (mutex : RabbitMqMutex) : LockState :=
  if mutex ∈ s.held then { s with blocked := true }
  else { s with
    held := mutex :: s.held
    orders := s.held.map (fun first => (first, mutex)) ++ s.orders }

/-- What a step with its answer adds. -/
def LockState.next (s : LockState) : (op : RabbitMqOp) → op.Answer → LockState
  | .lock mutex, _ => s.request mutex
  | .unlock mutex, _ => { s with held := s.held.erase mutex }
  | .command (.queueDeclarePassive ..), .error _ => { s with inspectionFailed := true }
  | _, _ => s

/-- A call that waits for itself takes no further step. Every answer to a step is possible. -/
def locking : Handler LockState RabbitMqOp RabbitMqOp.Answer :=
  fun s op answer u => s.blocked = false ∧ u = s.next op answer

/-- How far a call has come when it goes no further: it has returned or it waits for itself. -/
inductive Halts {α : Type} (p : RabbitMqProg α) (u : LockState) : Prop where
  | returned {result : AppResult α} : Exec locking p .start result u → Halts p u
  | blocked : Stops locking p .start u → u.blocked = true → Halts p u

/-- What is true between the steps of every call. -/
structure Fine (s : LockState) : Prop where
  blocked : s.blocked = true → s.inspectionFailed = true
  orders : ∀ order ∈ s.orders, order.1 = .leased

/-- Nothing has gone wrong, and some mutexes are held. -/
structure Calm (held : List RabbitMqMutex) (s : LockState) : Prop where
  held : s.held = held
  orders : ∀ order ∈ s.orders, order.1 = .leased
  blocked : s.blocked = false
  inspected : s.inspectionFailed = false

theorem Calm.fine {held : List RabbitMqMutex} {s : LockState} (calm : Calm held s) : Fine s where
  blocked waits := by
    rw [calm.blocked] at waits
    cases waits
  orders := calm.orders

/-- A program that starts with some mutexes in its hands and returns with the same ones. -/
structure Orderly {α : Type} (held : List RabbitMqMutex) (p : RabbitMqProg α) : Prop where
  safe : ∀ s, Calm held s → Safe locking Fine (fun _ t => Calm held t) p s

section Rules

variable {α β : Type} {held : List RabbitMqMutex} {p : RabbitMqProg α}

theorem orderly_ret (a : α) : Orderly held (.ret a) := ⟨fun _ calm => calm⟩

theorem orderly_fail (e : AppError) : Orderly held (.fail e : RabbitMqProg α) :=
  ⟨fun _ calm => calm⟩

theorem Orderly.bind {f : α → RabbitMqProg β} (first : Orderly held p)
    (rest : ∀ a, Orderly held (f a)) : Orderly held (p.bind f) := by
  constructor
  intro s calm
  apply Safe.bind
  apply Safe.mono (first.safe s calm) (fun _ fine => fine)
  intro result t calm
  cases result with
  | error e => exact calm
  | ok a => exact (rest a).safe t calm

theorem Orderly.attempt (orderly : Orderly held p) :
    Orderly held (p.attempt : RabbitMqProg (AppResult α)) :=
  ⟨fun s calm => Safe.attempt (orderly.safe s calm)⟩

/-- The steps that have nothing to do with the mutexes. -/
def Silent (c : RabbitMqOp) : Prop := ∀ (s : LockState) (answer : c.Answer), s.next c answer = s

theorem Orderly.call {c : RabbitMqOp} {k : c.Answer → RabbitMqProg α} (silent : Silent c)
    (rest : ∀ answer, Orderly held (k answer)) : Orderly held (.call c k) := by
  constructor
  intro s calm
  refine ⟨calm.fine, ?_⟩
  rintro answer _ ⟨-, rfl⟩
  rw [silent s answer]
  exact (rest answer).safe s calm

theorem orderly_op {c : RabbitMqOp} (silent : Silent c) :
    Orderly held (.call c .ret : RabbitMqProg c.Answer) :=
  .call silent orderly_ret

/-- Locking a mutex with empty hands. -/
theorem Calm.request {s : LockState} {mutex : RabbitMqMutex} (calm : Calm [] s) :
    Calm [mutex] (s.request mutex) := by
  have empty := calm.held
  rw [LockState.request, empty, if_neg List.not_mem_nil]
  exact ⟨rfl, calm.orders, calm.blocked, calm.inspected⟩

theorem Calm.release {s : LockState} {mutex : RabbitMqMutex} (calm : Calm [mutex] s) :
    Calm [] { s with held := s.held.erase mutex } where
  held := by
    rw [calm.held]
    exact List.erase_cons_head ..
  orders := calm.orders
  blocked := calm.blocked
  inspected := calm.inspected

theorem orderly_locked {mutex : RabbitMqMutex} (inner : Orderly [mutex] p) :
    Orderly [] (locked mutex p) := by
  constructor
  intro s calm
  refine ⟨calm.fine, ?_⟩
  rintro ⟨⟩ _ ⟨-, rfl⟩
  apply Safe.bind
  apply Safe.attempt
  apply Safe.mono (inner.safe _ calm.request) (fun _ fine => fine)
  intro result t within
  refine ⟨within.fine, ?_⟩
  rintro ⟨⟩ _ ⟨-, rfl⟩
  cases result with
  | error e => exact within.release
  | ok a => exact within.release

end Rules

section Programs

variable {α : Type} {held : List RabbitMqMutex} {config : RabbitMqQueueConfig} {rounds : Nat}

/-- The commands that are not the inspection of a queue. -/
def Plain : Amqp.Cmd RabbitMqPayload → Prop
  | .queueDeclarePassive .. => False
  | _ => True

theorem silent_command {c : Amqp.Cmd RabbitMqPayload} (plain : Plain c) : Silent (.command c) := by
  intro s answer
  cases c with
  | queueDeclarePassive channel queue => exact plain.elim
  | _ => rfl

theorem silent_parse (payload : RabbitMqPayload) : Silent (.parse payload) :=
  fun _ _ => rfl

theorem silent_catalog (c : CatalogCmd RabbitMqRouteTopology) : Silent (.catalog c) :=
  fun _ _ => rfl

theorem decode_orderly (read : RabbitMqPayload → Option α) (payload : RabbitMqPayload) :
    Orderly held (decode read payload) := by
  refine .call (silent_parse payload) ?_
  intro parses
  split
  · exact orderly_ret _
  · exact orderly_fail _

theorem catalog_orderly (c : CatalogCmd RabbitMqRouteTopology) : Orderly held (catalog c) :=
  orderly_op (silent_catalog c)

theorem nowMs_orderly : Orderly held nowMs := orderly_op fun _ _ => rfl

theorem clearLeases_orderly : Orderly [] clearLeases :=
  orderly_locked (orderly_op fun _ _ => rfl)

theorem takeLease_orderly (deliveryId : String) : Orderly [] (takeLease deliveryId) :=
  orderly_locked (orderly_op fun _ _ => rfl)

theorem connectStep_orderly {c : Amqp.Cmd RabbitMqPayload} (message : String) (plain : Plain c) :
    Orderly held (connectStep c message) := by
  refine .call (silent_command plain) ?_
  intro answer
  cases answer with
  | ok reply => exact orderly_ret reply
  | error error => exact orderly_fail _

theorem reconnect_orderly : Orderly held reconnect := by
  have connected : Orderly held connectTransport := by
    refine (connectStep_orderly _ (by trivial)).bind fun _ => ?_
    refine (connectStep_orderly _ (by trivial)).bind fun channel => ?_
    exact (connectStep_orderly _ (by trivial)).bind fun _ => orderly_ret channel
  refine connected.bind fun channel => ?_
  exact .call (fun _ _ => rfl) fun _ => orderly_ret _

theorem activeTransport_orderly : Orderly [] activeTransport := by
  have current : Orderly [.transport] currentTransport := by
    refine .call (fun _ _ => rfl) fun transport => ?_
    cases transport with
    | none => exact reconnect_orderly
    | some channel =>
      refine .call (fun _ _ => rfl) fun connected => ?_
      cases connected with
      | true => exact orderly_ret _
      | false => exact reconnect_orderly
  refine (orderly_locked current).bind fun transport => ?_
  have settled : Orderly [] (if transport.2 then clearLeases.bind fun _ => .ret transport.1
      else .ret transport.1) := by
    split_ifs
    · exact clearLeases_orderly.bind fun _ => orderly_ret _
    · exact orderly_ret _
  exact settled

theorem invalidateTransport_orderly : Orderly [] invalidateTransport := by
  have forget : Orderly [.transport] (.call (.setTransport none) .ret : RabbitMqProg Unit) :=
    orderly_op fun _ _ => rfl
  exact (orderly_locked forget).bind fun _ => clearLeases_orderly

theorem withTransportResult_orderly {c : Amqp.Cmd RabbitMqPayload} {message : String}
    (plain : Plain c) : Orderly [] (withTransportResult c message) := by
  refine .call (silent_command plain) ?_
  intro answer
  cases answer with
  | ok reply => exact orderly_ret reply
  | error error => exact invalidateTransport_orderly.bind fun _ => orderly_fail _

theorem ensureTopology_orderly (channel : Nat) (topology : RabbitMqRouteTopology) :
    Orderly [] (ensureTopology channel topology) := by
  refine (withTransportResult_orderly (by trivial)).bind fun _ => ?_
  refine (withTransportResult_orderly (by trivial)).bind fun _ => ?_
  refine (withTransportResult_orderly (by trivial)).bind fun _ => ?_
  refine (withTransportResult_orderly (by trivial)).bind fun _ => ?_
  refine (withTransportResult_orderly (by trivial)).bind fun _ => ?_
  refine (withTransportResult_orderly (by trivial)).bind fun _ => ?_
  refine (withTransportResult_orderly (by trivial)).bind fun _ => ?_
  refine (withTransportResult_orderly (by trivial)).bind fun _ => ?_
  exact (withTransportResult_orderly (by trivial)).bind fun _ => orderly_ret ()

theorem publishConfirmed_orderly (channel : Nat) (exchange routingKey : String)
    (payload : RabbitMqPayload) (expirationMs : Option UInt64) (failure unconfirmed : String) :
    Orderly [] (publishConfirmed channel exchange routingKey payload expirationMs failure
      unconfirmed) := by
  refine (withTransportResult_orderly (by trivial)).bind fun _ => ?_
  exact (withTransportResult_orderly (by trivial)).bind fun _ => orderly_ret ()

theorem publishRawPayload_orderly (topology : RabbitMqRouteTopology) (exchange routingKey : String)
    (payload : RabbitMqPayload) (expirationMs : Option UInt64) :
    Orderly [] (publishRawPayload topology exchange routingKey payload expirationMs) := by
  refine activeTransport_orderly.bind fun channel => ?_
  refine (ensureTopology_orderly channel topology).bind fun _ => ?_
  exact publishConfirmed_orderly ..

theorem ackBrokerDelivery_orderly (deliveryId : String) :
    Orderly [] (ackBrokerDelivery deliveryId) := by
  refine activeTransport_orderly.bind fun channel => ?_
  refine (takeLease_orderly deliveryId).bind fun leased => ?_
  cases leased with
  | none => exact orderly_ret ()
  | some leased => exact (withTransportResult_orderly (by trivial)).bind fun _ => orderly_ret ()

theorem deadLetter_orderly (leased : RabbitMqLeasedDelivery) (error : String) :
    Orderly [] (deadLetter leased error) := by
  refine nowMs_orderly.bind fun now => ?_
  exact (publishRawPayload_orderly ..).bind fun _ => ackBrokerDelivery_orderly _

theorem requeue_orderly (leased : RabbitMqLeasedDelivery) (error : String) (delayMs : UInt64) :
    Orderly [] (requeue leased error delayMs) :=
  (publishRawPayload_orderly ..).bind fun _ => ackBrokerDelivery_orderly _

/-! ### The loops -/

theorem reserveRoutes_orderly (channel : Nat) (routes : List Route) :
    Orderly [] (reserveRoutes channel routes) := by
  induction routes with
  | nil => exact orderly_ret none
  | cons route rest ih =>
    refine (catalog_orderly (.get route)).bind fun known => ?_
    cases known with
    | none => exact ih
    | some topology =>
      have found : Orderly [] (reserveRoute channel route topology) := by
        refine (withTransportResult_orderly (by trivial)).bind fun first => ?_
        cases first with
        | none => exact orderly_ret none
        | some message =>
          refine (catalog_orderly (.rotate route)).bind fun _ => ?_
          refine Orderly.bind ?_ fun delivery => orderly_ret (some delivery)
          refine (decode_orderly _ _).bind fun envelope => ?_
          refine Orderly.bind ?_ fun _ => orderly_ret _
          exact orderly_locked (orderly_op fun _ _ => rfl)
      refine found.bind fun delivery => ?_
      cases delivery with
      | none => exact ih
      | some delivery => exact orderly_ret (some delivery)

theorem drainQueue_orderly (channel : Nat) (queue failure : String)
    (read : RabbitMqPayload → Option α) (rounds : Nat) :
    Orderly [] (drainQueue channel queue failure read rounds) := by
  induction rounds with
  | zero => exact .call (fun _ never => never.elim) fun never => never.elim
  | succ rounds ih =>
    refine (withTransportResult_orderly (by trivial)).bind fun first => ?_
    cases first with
    | none => exact orderly_ret []
    | some message =>
      refine (decode_orderly read message.2).bind fun value => ?_
      exact ih.bind fun rest => orderly_ret _

theorem registerRoutes_orderly (channel : Nat) (seen : List RabbitMqRouteRegistryEntry)
    (entries : List (RabbitMqDrained RabbitMqRouteRegistryEntry)) :
    Orderly [] (registerRoutes config channel seen entries) := by
  induction entries generalizing seen with
  | nil => exact orderly_ret ()
  | cons entry rest ih =>
    rw [registerRoutes]
    split_ifs
    · exact ih seen
    · refine (ensureTopology_orderly _ _).bind fun _ => ?_
      exact (catalog_orderly _).bind fun _ => ih _

theorem restoreRegistry_orderly (channel : Nat) (queue : String)
    (entries : List (RabbitMqDrained RabbitMqRouteRegistryEntry)) :
    Orderly [] (restoreRegistry channel queue entries) := by
  induction entries with
  | nil => exact orderly_ret ()
  | cons entry rest ih =>
    refine (publishConfirmed_orderly ..).bind fun _ => ?_
    exact (withTransportResult_orderly (by trivial)).bind fun _ => ih

theorem ensureRegisteredRoutesLoaded_orderly :
    Orderly [] (ensureRegisteredRoutesLoaded config rounds) := by
  refine activeTransport_orderly.bind fun channel => ?_
  refine (withTransportResult_orderly (by trivial)).bind fun _ => ?_
  refine (drainQueue_orderly ..).bind fun entries => ?_
  exact (registerRoutes_orderly ..).bind fun _ => restoreRegistry_orderly ..

theorem drainDeadLetterQueue_orderly (topology : RabbitMqRouteTopology) :
    Orderly [] (drainDeadLetterQueue topology rounds) := by
  refine activeTransport_orderly.bind fun channel => ?_
  exact (ensureTopology_orderly channel topology).bind fun _ => drainQueue_orderly ..

theorem restoreDeadLetterQueue_orderly (topology : RabbitMqRouteTopology)
    (messages : List RabbitMqDeadLetterMessage) :
    Orderly [] (restoreDeadLetterQueue topology messages) := by
  refine activeTransport_orderly.bind fun channel => ?_
  induction messages with
  | nil => exact orderly_ret ()
  | cons message rest ih =>
    refine (publishRawPayload_orderly ..).bind fun _ => ?_
    exact (withTransportResult_orderly (by trivial)).bind fun _ => ih

theorem loadFrom_orderly (topologies : List RabbitMqRouteTopology) :
    Orderly [] (loadFrom rounds topologies) := by
  induction topologies with
  | nil => exact orderly_ret []
  | cons topology rest ih =>
    refine (drainDeadLetterQueue_orderly topology).bind fun messages => ?_
    refine (restoreDeadLetterQueue_orderly topology messages).bind fun _ => ?_
    exact ih.bind fun records => orderly_ret _

theorem findAmong_orderly (deliveryId : String) (topologies : List RabbitMqRouteTopology) :
    Orderly [] (findAmong deliveryId rounds topologies) := by
  induction topologies with
  | nil => exact orderly_ret none
  | cons topology rest ih =>
    refine (drainDeadLetterQueue_orderly topology).bind fun drained => ?_
    split_ifs
    · exact ih
    · split
      · exact orderly_ret _
      · exact (restoreDeadLetterQueue_orderly topology drained).bind fun _ => ih

theorem findDeadLetterReplay_orderly (deliveryId : String) :
    Orderly [] (findDeadLetterReplay config rounds deliveryId) := by
  refine ensureRegisteredRoutesLoaded_orderly.bind fun _ => ?_
  exact (catalog_orderly .topologies).bind fun topologies => findAmong_orderly deliveryId topologies

theorem finalizeReplayedDeadLetter_orderly (topology : RabbitMqRouteTopology)
    (replay : RabbitMqDeadLetterReplay) :
    Orderly [] (finalizeReplayedDeadLetter topology replay) := by
  refine activeTransport_orderly.bind fun channel => ?_
  exact (withTransportResult_orderly (by trivial)).bind fun _ => restoreDeadLetterQueue_orderly ..

/-- A call that asks for the leases under their own lock goes no further. -/
theorem clearLeases_waits {s : LockState} {f : Unit → RabbitMqProg α}
    {Q : AppResult α → LockState → Prop} (holds : .leased ∈ s.held)
    (failed : s.inspectionFailed = true) (orders : ∀ order ∈ s.orders, order.1 = .leased) :
    Safe locking Fine Q (clearLeases.bind f) s := by
  refine ⟨⟨fun _ => failed, orders⟩, ?_⟩
  rintro ⟨⟩ u ⟨-, next⟩
  obtain rfl : u = { s with blocked := true } := next.trans (if_pos holds)
  refine ⟨⟨fun _ => failed, orders⟩, ?_⟩
  intro answer u step
  cases step.1

/-- An inspection under the lock of the leases returns, or the call waits for itself. -/
theorem inspection_orderly (channel : Nat) (queue message : String) :
    Orderly [.leased] (withTransportResult (.queueDeclarePassive channel queue) message) := by
  constructor
  intro s calm
  refine ⟨calm.fine, ?_⟩
  rintro (error | count) u ⟨-, rfl⟩
  · have requested : LockState.request { s with inspectionFailed := true } .transport =
        { s with
          held := [.transport, .leased]
          orders := (.leased, .transport) :: s.orders
          inspectionFailed := true } := by
      simp [LockState.request, calm.held]
    have ordered : ∀ order ∈ (RabbitMqMutex.leased, RabbitMqMutex.transport) :: s.orders,
        order.1 = .leased := by
      intro order mem
      rcases List.mem_cons.1 mem with rfl | old
      · rfl
      · exact calm.orders order old
    -- the channel is forgotten under its own lock, and then the leases would be under theirs
    refine ⟨⟨fun _ => rfl, calm.orders⟩, ?_⟩
    rintro ⟨⟩ u ⟨-, next⟩
    obtain rfl := next.trans requested
    refine ⟨⟨fun _ => rfl, ordered⟩, ?_⟩
    rintro ⟨⟩ _ ⟨-, rfl⟩
    refine ⟨⟨fun _ => rfl, ordered⟩, ?_⟩
    rintro ⟨⟩ _ ⟨-, rfl⟩
    have kept : .leased ∈ [RabbitMqMutex.transport, .leased].erase .transport := by decide
    exact clearLeases_waits kept rfl ordered
  · exact calm

theorem statsRows_orderly (channel : Nat) (topologies : List RabbitMqRouteTopology) :
    Orderly [.leased] (statsRows channel topologies) := by
  induction topologies with
  | nil => exact orderly_ret []
  | cons topology rest ih =>
    have row : Orderly [.leased] (routeStats channel topology) := by
      refine (inspection_orderly ..).bind fun queued => ?_
      refine (inspection_orderly ..).bind fun dead => ?_
      exact Orderly.bind (orderly_op fun _ _ => rfl) fun leased => orderly_ret _
    exact row.bind fun row => ih.bind fun rows => orderly_ret (row :: rows)

theorem prog_orderly (call : RabbitMqCall) : Orderly [] (call.prog config rounds) := by
  cases call with
  | enqueue task =>
    refine (catalog_orderly _).bind fun topology => ?_
    refine Orderly.bind ?_ fun _ => publishRawPayload_orderly ..
    refine activeTransport_orderly.bind fun channel => ?_
    exact (withTransportResult_orderly (by trivial)).bind fun _ => publishConfirmed_orderly ..
  | reserve bindings =>
    have broker : Orderly [] (reserveFromBroker bindings) := by
      refine activeTransport_orderly.bind fun channel => ?_
      exact (catalog_orderly (.orderedRoutes bindings)).bind fun routes =>
        reserveRoutes_orderly channel routes
    refine broker.attempt.bind fun result => ?_
    cases result with
    | ok delivery => exact orderly_ret delivery
    | error error => exact orderly_ret none
  | ack deliveryId =>
    refine Orderly.bind ?_ fun _ => ackBrokerDelivery_orderly deliveryId
    exact orderly_locked (orderly_op fun _ _ => rfl)
  | retry deliveryId error delayMs =>
    refine (takeLease_orderly deliveryId).bind fun leased => ?_
    cases leased with
    | none => exact orderly_fail _
    | some leased =>
      dsimp only
      split_ifs
      · exact (deadLetter_orderly leased error).bind fun _ => orderly_ret _
      · exact (requeue_orderly leased error delayMs).bind fun _ => orderly_ret _
  | reject deliveryId error =>
    refine (takeLease_orderly deliveryId).bind fun leased => ?_
    cases leased with
    | none => exact orderly_ret ()
    | some leased => exact deadLetter_orderly leased error
  | stats =>
    refine activeTransport_orderly.bind fun channel => ?_
    refine ensureRegisteredRoutesLoaded_orderly.bind fun _ => ?_
    refine (catalog_orderly .topologies).bind fun topologies => ?_
    exact orderly_locked (statsRows_orderly channel topologies)
  | deadLetters =>
    refine ensureRegisteredRoutesLoaded_orderly.bind fun _ => ?_
    exact (catalog_orderly .topologies).bind fun topologies => loadFrom_orderly topologies
  | replayDeadLetter deliveryId =>
    refine (findDeadLetterReplay_orderly deliveryId).bind fun found => ?_
    cases found with
    | none => exact orderly_fail _
    | some replay =>
      refine (publishRawPayload_orderly ..).bind fun _ => ?_
      exact (finalizeReplayedDeadLetter_orderly ..).bind fun _ => orderly_ret _

theorem start_calm : Calm [] .start := ⟨rfl, nofun, rfl, rfl⟩

/-- A call that has come to its end waits for itself exactly when an inspection has failed. -/
theorem Halts.spec {call : RabbitMqCall} {u : LockState}
    (halts : Halts (call.prog config rounds) u) :
    u.blocked = u.inspectionFailed ∧ ∀ order ∈ u.orders, order.1 = .leased := by
  have orderly : Orderly [] (call.prog config rounds) := prog_orderly call
  have safe := orderly.safe _ start_calm
  cases halts with
  | returned run =>
    have calm := safe.exec run
    exact ⟨calm.blocked.trans calm.inspected.symm, calm.orders⟩
  | blocked stop waits =>
    have fine := safe.stops stop
    exact ⟨waits.trans (fine.blocked waits).symm, fine.orders⟩

end Programs

/-- A call never asks for a mutex that it holds, and no other call asks for two mutexes in the
opposite order, exactly when no inspection of a queue fails in it. -/
theorem never_waits_iff (config : RabbitMqQueueConfig) (rounds : Nat) (call : RabbitMqCall)
    (u : LockState) (halts : Halts (call.prog config rounds) u) :
    (u.blocked = false ∧ ∀ (other : RabbitMqCall) (rounds' : Nat) (v : LockState),
      Halts (other.prog config rounds') v → ∀ first second, first ≠ second →
        (first, second) ∈ u.orders → (second, first) ∉ v.orders) ↔
      u.inspectionFailed = false := by
  obtain ⟨waits, leasedFirst⟩ := halts.spec
  rw [waits]
  constructor
  · exact fun never => never.1
  · intro inspected
    refine ⟨inspected, ?_⟩
    intro other rounds' v halted first second ne inOrder opposite
    have one := leasedFirst _ inOrder
    have two := halted.spec.2 _ opposite
    exact ne (one.trans two.symm)

/-! ## Runs with one route -/

/-- A broker with channel 1 and an adapter with one route. -/
def answerTo (inspection : Except String Nat) : (op : RabbitMqOp) → Option op.Answer
  | .command (.queueDeclarePassive ..) => some inspection
  | .command .createChannel => some (.ok (1 : Nat))
  | .command (.basicGet ..) => some (.ok (none : Option (Amqp.DeliveryTag × RabbitMqPayload)))
  | .command (.awaitConfirm ..) => some (.ok Amqp.Confirmation.ack)
  | .command .connect | .command (.confirmSelect _) | .command (.exchangeDeclare ..)
  | .command (.queueDeclare ..) | .command (.queueBind ..) | .command (.basicPublish ..)
  | .command (.basicAck ..) => some (.ok ())
  | .lock _ | .unlock _ | .setTransport _ | .insertLease _ | .clearLeases => some ()
  | .transport => some (some (1 : Nat))
  | .isConnected _ | .parse _ => some true
  | .countLeases .. => some (0 : Nat)
  | .catalog .topologies => some [buildRouteTopology ⟨"nexus.tasks", "nexus"⟩ "oj" "fast"]
  | _ => none

def inspecting (inspection : Except String Nat) (s : LockState) (op : RabbitMqOp) :
    Option (op.Answer × LockState) :=
  if s.blocked then none else (answerTo inspection op).map fun answer => (answer, s.next op answer)

theorem inspecting_allowed (inspection : Except String Nat) (s : LockState) (op : RabbitMqOp)
    (answer : op.Answer) (u : LockState) (answered : inspecting inspection s op = some (answer, u)) :
    locking s op answer u := by
  rw [inspecting] at answered
  split at answered
  · cases answered
  · next runs =>
    obtain ⟨_, -, same⟩ := Option.map_eq_some_iff.1 answered
    cases same
    exact ⟨Bool.not_eq_true _ ▸ runs, rfl⟩

def sampleStats : RabbitMqProg (List RuntimeQueueStats) :=
  RabbitMqCall.prog ⟨"nexus.tasks", "nexus"⟩ 1 .stats

/-- Where the statistics of one route end. -/
def sampleEnd (inspection : Except String Nat) : LockState :=
  match sampleStats.tryEval (inspecting inspection) .start with
  | some (_, u) => u
  | none => (sampleStats.waitsAt (inspecting inspection) .start).getD .start

theorem halts_sampleEnd_of_ok : Halts sampleStats (sampleEnd (.ok 0)) := by
  have returned : (sampleStats.tryEval (inspecting (.ok 0)) .start).isSome = true := by
    decide +kernel
  obtain ⟨⟨result, u⟩, run⟩ := Option.isSome_iff_exists.1 returned
  have same : sampleEnd (.ok 0) = u := by rw [sampleEnd, run]
  rw [same]
  exact .returned (Exec.of_tryEval (h := inspecting (.ok 0)) (inspecting_allowed (.ok 0)) run)

theorem never_waits_iff_of_sample : (sampleEnd (.ok 0)).blocked = false :=
  ((never_waits_iff _ _ _ _ halts_sampleEnd_of_ok).2 (by decide +kernel)).1

/-- The connection is lost at the first inspection: `stats` holds the lock of the leases and
asks for it again. -/
theorem stats_waits_for_itself : ∃ u, Stops locking sampleStats .start u ∧
    u.held = [.leased] ∧ u.blocked = true ∧ Halts sampleStats u := by
  have waits : ∃ u, sampleStats.waitsAt (inspecting (.error "connection reset")) .start = some u ∧
      u.held = [.leased] ∧ u.blocked = true := by
    have found : (sampleStats.waitsAt (inspecting (.error "connection reset")) .start).any
        (fun u => u.held = [.leased] ∧ u.blocked = true) = true := by decide +kernel
    obtain ⟨u, here, waiting⟩ := (Option.any_eq_true _ _).1 found
    exact ⟨u, here, by simpa using waiting⟩
  obtain ⟨u, here, held, blocked⟩ := waits
  have stops : Stops locking sampleStats .start u :=
    Stops.of_waitsAt (h := inspecting (.error "connection reset")) (inspecting_allowed _) here
  exact ⟨u, stops, held, blocked, .blocked stops blocked⟩

end RabbitMq

end NexusCore.Runtime
