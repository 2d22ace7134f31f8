import NexusCore.Lib.AmqpExpiry
import NexusCore.Lib.Holdings
import NexusCore.Runtime.Broker.RabbitMqCatalog
import NexusCore.Runtime.Broker.RabbitMqTags

/-!
# What a call of the RabbitMQ adapter does to tasks

A call stores a copy of a task before it acknowledges a message, unless it is an `ack`. It publishes
only where it has bound a queue, and what expires only to the retry exchange, whose queues it has
declared with a target. What it has read or has taken from the leases says which task is behind a
tag.
-/

namespace NexusCore.Runtime

open NexusCore.Lib

namespace RabbitMqPayload

/-- The task that a payload carries, if it carries one. -/
def tasks (payload : RabbitMqPayload) : Multiset RuntimeTask :=
  match payload.task? with
  | some task => {task}
  | none => 0

theorem tasks_of_task {payload : RabbitMqPayload} {task : RuntimeTask}
    (carries : payload.task? = some task) : payload.tasks = {task} := by
  rw [tasks, carries]

theorem task_of_asEnvelope {payload : RabbitMqPayload} {e : RabbitMqEnvelope}
    (read : payload.asEnvelope = some e) : payload.task? = some e.task := by
  cases payload with
  | envelope | record =>
    cases read
    rfl
  | route => cases read

theorem task_of_asRecord {payload : RabbitMqPayload} {r : RuntimeDeadLetterRecord}
    (read : payload.asRecord = some r) : payload.task? = some r.task := by
  cases payload with
  | envelope | route => cases read
  | record =>
    cases read
    rfl

end RabbitMqPayload

namespace RabbitMq.Tasks

def retryExchange (config : RabbitMqQueueConfig) : String := config.exchange ++ ".retry"

/-- What a call has read, the leases that it has taken, what it has bound, the queues that it has
declared with a target, and the task of which it has stored a copy. -/
structure Pocket where
  read : List (Amqp.DeliveryTag × RabbitMqPayload)
  taken : List RabbitMqLeasedDelivery
  bound : List (String × String)
  forwards : List String
  spare : Multiset RuntimeTask

/-- What a call settles by a lease: an `ack` its delivery, a retry or a rejection whatever is leased
under its delivery id once a copy of the task has been stored. -/
def Settles (g : Pocket) (leased : RabbitMqLeasedDelivery) : RabbitMqCall → Prop
  | .ack deliveryId => leased.delivery.deliveryId = deliveryId
  | .retry deliveryId _ _ | .reject deliveryId _ => leased.delivery.deliveryId = deliveryId ∧
      ∃ first ∈ g.taken, first.delivery.deliveryId = deliveryId ∧ g.spare = {first.delivery.task}
  | _ => False

namespace Pocket

def empty : Pocket := ⟨[], [], [], [], 0⟩

def next (g : Pocket) : (op : RabbitMqOp) → op.Answer → Pocket
  | .command (.basicGet _ _), .ok (some found) => { g with read := found :: g.read }
  | .command (.awaitConfirm _ _ _ payload _), .ok _ => { g with spare := payload.tasks }
  | .command (.basicAck _ _), _ => { g with spare := 0 }
  | .command (.queueDeclare _ queue (some _)), .ok _ => { g with forwards := queue :: g.forwards }
  | .command (.queueBind _ _ exchange routingKey), .ok _ =>
    { g with bound := (exchange, routingKey) :: g.bound }
  | .removeLease _, some leased => { g with taken := leased :: g.taken }
  | .removeLease _, none => { g with spare := 0 }
  | _, _ => g

/-- The lease that has been taken last with a tag. -/
def takenUnder (g : Pocket) (tag : Amqp.DeliveryTag) : Option RabbitMqLeasedDelivery :=
  g.taken.find? fun leased => leased.deliveryTag = tag

theorem mem_of_takenUnder {g : Pocket} {tag : Amqp.DeliveryTag} {leased : RabbitMqLeasedDelivery}
    (found : g.takenUnder tag = some leased) : leased ∈ g.taken ∧ leased.deliveryTag = tag :=
  ⟨List.mem_of_find?_eq_some found, of_decide_eq_true (List.find?_some found :)⟩

def permitsCommand (config : RabbitMqQueueConfig) (made : RabbitMqCall) (g : Pocket) :
    Amqp.Cmd RabbitMqPayload → Prop
  | .basicAck _ tag =>
    (g.taken = [] ∧ ∃ payload, (tag, payload) ∈ g.read ∧ g.spare = payload.tasks) ∨
      ∃ leased, g.takenUnder tag = some leased ∧ Settles g leased made
  | .awaitConfirm _ exchange routingKey _ expiration =>
    (exchange = "" ∨ (exchange, routingKey) ∈ g.bound) ∧
      (expiration.isSome → exchange = retryExchange config)
  | .queueDeclare _ _ (some target) => target ∈ g.bound
  | .queueBind _ queue exchange _ => exchange = retryExchange config → queue ∈ g.forwards
  | _ => True

def permits (config : RabbitMqQueueConfig) (made : RabbitMqCall) (g : Pocket) : RabbitMqOp → Prop
  | .command c => g.permitsCommand config made c
  | .insertLease leased => Built config leased.topology ∧
      ∃ payload, (leased.deliveryTag, payload) ∈ g.read ∧
        payload.task? = some leased.delivery.task
  | .catalog c => Builds config (.catalog c)
  | _ => True

/-- Nothing has been stored or taken, and what was known is still known. -/
structure Extends (start g : Pocket) : Prop where
  read : start.read ⊆ g.read
  taken : g.taken = start.taken
  bound : start.bound ⊆ g.bound
  forwards : start.forwards ⊆ g.forwards
  spare : g.spare = start.spare

theorem Extends.refl (start : Pocket) : start.Extends start :=
  ⟨List.Subset.refl _, rfl, List.Subset.refl _, List.Subset.refl _, rfl⟩

theorem Extends.trans {start middle g : Pocket} (first : start.Extends middle)
    (second : middle.Extends g) : start.Extends g where
  read := List.Subset.trans first.read second.read
  taken := second.taken.trans first.taken
  bound := List.Subset.trans first.bound second.bound
  forwards := List.Subset.trans first.forwards second.forwards
  spare := second.spare.trans first.spare

/-- What was stored after some answers is stored after these as well. -/
theorem Extends.stored {start middle g : Pocket} {tasks : Multiset RuntimeTask}
    (first : start.Extends middle) (second : { middle with spare := tasks }.Extends g) :
    { start with spare := tasks }.Extends g where
  read := List.Subset.trans first.read second.read
  taken := second.taken.trans first.taken
  bound := List.Subset.trans first.bound second.bound
  forwards := List.Subset.trans first.forwards second.forwards
  spare := second.spare

end Pocket

/-- What the catalog and the leases of a node hold. -/
def Told (config : RabbitMqQueueConfig) : (op : RabbitMqOp) → op.Answer → Prop
  | .catalog (.getOrInsertWith _ _), topology => Built config topology
  | .catalog (.get _), found => ∀ topology, found = some topology → Built config topology
  | .catalog .topologies, topologies =>
    ∀ topology ∈ (show List RabbitMqRouteTopology from topologies), Built config topology
  | .removeLease deliveryId, found => ∀ leased, found = some leased →
      leased.delivery.deliveryId = deliveryId ∧ Built config leased.topology
  | _, _ => True

/-- How an operation of the adapter deals with tasks. -/
def minding (config : RabbitMqQueueConfig) (made : RabbitMqCall) :
    Discipline RabbitMqOp RabbitMqOp.Answer Pocket :=
  ⟨Pocket.permits config made, Pocket.next, fun _ => True⟩

section Programs

variable {config : RabbitMqQueueConfig} {made : RabbitMqCall} {α β : Type} {start : Pocket}
  {p : RabbitMqProg α} {f : α → RabbitMqProg β} {exits : Pocket → AppResult α → Prop}
  {exits' : Pocket → AppResult β → Prop} {topology : RabbitMqRouteTopology} {channel : Nat}

abbrev Minds (config : RabbitMqQueueConfig) (made : RabbitMqCall)
    (exits : Pocket → AppResult α → Prop) (start : Pocket) (p : RabbitMqProg α) : Prop :=
  (minding config made).Upholds (fun _ => Told config) exits start p

/-- The operations that at most read a message. -/
def Quiet : RabbitMqOp → Prop
  | .command (.awaitConfirm ..) | .command (.basicAck ..) | .command (.queueDeclare _ _ (some _))
  | .command (.queueBind ..) | .insertLease _ | .removeLease _ | .catalog (.getOrInsertWith ..)
  | .catalog (.registerRoute ..) => False
  | _ => True

theorem extends_of_quiet {op : RabbitMqOp} (quiet : Quiet op) (r : op.Answer) :
    start.Extends (start.next op r) := by
  unfold Pocket.next
  split
  · exact ⟨List.subset_cons_self _ _, rfl, List.Subset.refl _, List.Subset.refl _, rfl⟩
  · exact quiet.elim
  · exact quiet.elim
  · exact quiet.elim
  · exact quiet.elim
  · exact quiet.elim
  · exact quiet.elim
  · exact .refl _

theorem permits_of_quiet {op : RabbitMqOp} (quiet : Quiet op) : start.permits config made op := by
  cases op with
  | command c =>
    cases c with
    | queueDeclare channel queue expired =>
      cases expired with
      | none => trivial
      | some => exact quiet.elim
    | awaitConfirm | basicAck | queueBind => exact quiet.elim
    | _ => trivial
  | catalog c =>
    cases c with
    | getOrInsertWith | registerRoute => exact quiet.elim
    | _ => trivial
  | insertLease => exact quiet.elim
  | _ => trivial

theorem minds_of_quiet (issues : p.Issues Quiet) :
    Minds config made (fun g _ => start.Extends g) start p := by
  induction issues generalizing start with
  | ret => exact .ret (.refl _)
  | fail => exact .fail (.refl _)
  | @call op k quiet _ ih =>
    exact .call (permits_of_quiet quiet) fun r _ =>
      (ih r).mono fun g _ => (extends_of_quiet quiet r).trans

/-- A quiet program leaves what it was given to what comes after it. -/
theorem minds_after_quiet (issues : p.Issues Quiet)
    (rest : ∀ a g, start.Extends g → Minds config made exits' g (f a))
    (failed : ∀ g e, start.Extends g → exits' g (.error e)) :
    Minds config made exits' start (p.bind f) :=
  (minds_of_quiet issues).bind (fun g a => rest a g) failed

theorem locked_quiet {mutex : RabbitMqMutex} (inner : p.Issues Quiet) :
    (locked mutex p).Issues Quiet := by
  refine .call trivial fun _ => inner.attempt.bind fun result => .call trivial fun _ => ?_
  cases result with
  | error => exact .fail
  | ok => exact .ret

theorem clearLeases_quiet : clearLeases.Issues Quiet := locked_quiet (.call trivial fun _ => .ret)

theorem connectStep_quiet {c : Amqp.Cmd RabbitMqPayload} {message : String}
    (quiet : Quiet (.command c)) : (connectStep c message).Issues Quiet := by
  refine .call quiet ?_
  rintro (error | reply)
  · exact .fail
  · exact .ret

theorem reconnect_quiet : reconnect.Issues Quiet := by
  refine Prog.Issues.bind ?_ fun channel => .call (by trivial) fun _ => .ret
  refine (connectStep_quiet (by trivial)).bind fun _ => ?_
  refine (connectStep_quiet (by trivial)).bind fun channel => ?_
  exact (connectStep_quiet (by trivial)).bind fun _ => .ret

theorem activeTransport_quiet : activeTransport.Issues Quiet := by
  refine Prog.Issues.bind (locked_quiet (.call (by trivial) ?_)) ?_
  · rintro (_ | channel)
    · exact reconnect_quiet
    · refine .call (by trivial) ?_
      rintro (_ | _)
      · exact reconnect_quiet
      · exact .ret
  · rintro ⟨channel, _ | _⟩
    · exact .ret
    · exact clearLeases_quiet.bind fun _ => .ret

theorem invalidateTransport_quiet : invalidateTransport.Issues Quiet :=
  (locked_quiet (.call (by trivial) fun _ => .ret)).bind fun _ => clearLeases_quiet

theorem withTransportResult_quiet {c : Amqp.Cmd RabbitMqPayload} {message : String}
    (quiet : Quiet (.command c)) : (withTransportResult c message).Issues Quiet := by
  refine .call quiet ?_
  rintro (error | reply)
  · exact invalidateTransport_quiet.bind fun _ => .fail
  · exact .ret

theorem decode_quiet (read : RabbitMqPayload → Option α) (payload : RabbitMqPayload) :
    (decode read payload).Issues Quiet := by
  refine .call (by trivial) fun parses => ?_
  split
  · exact .ret
  · exact .fail

theorem statsRows_quiet (topologies : List RabbitMqRouteTopology) :
    (statsRows channel topologies).Issues Quiet := by
  induction topologies with
  | nil => exact .ret
  | cons topology rest ih =>
    refine Prog.Issues.bind ?_ fun row => ih.bind fun rows => .ret
    refine (withTransportResult_quiet (by trivial)).bind fun queued => ?_
    refine (withTransportResult_quiet (by trivial)).bind fun dead => ?_
    exact Prog.Issues.bind (.call (by trivial) fun _ => .ret) fun leased => .ret

/-- A command whose failure ends the call. -/
theorem minds_step {c : Amqp.Cmd RabbitMqPayload} {message : String} {f : c.Reply → RabbitMqProg β}
    (permitted : start.permits config made (.command c))
    (rest : ∀ reply, Minds config made exits' (start.next (.command c) (.ok reply)) (f reply))
    (failed : ∀ error g e, (start.next (.command c) (.error error)).Extends g → exits' g (.error e)) :
    Minds config made exits' start ((withTransportResult c message).bind f) := by
  refine .call permitted fun r _ => ?_
  cases r with
  | ok reply => exact rest reply
  | error error =>
    change Minds config made exits' _ ((invalidateTransport.bind fun _ => .fail _).bind f)
    rw [Prog.bind_assoc]
    exact minds_after_quiet invalidateTransport_quiet (fun _ g grown => .fail (failed error g _ grown))
      fun g e grown => failed error g e grown

/-- A section of one step on the memory of a node. -/
theorem lockedStep_minds {mutex : RabbitMqMutex} {c : RabbitMqOp}
    {exits : Pocket → AppResult c.Answer → Prop} (permitted : start.permits config made c)
    (ends : ∀ answer, Told config c answer → exits (start.next c answer) (.ok answer)) :
    Minds config made exits start (locked mutex (.call c .ret)) :=
  .call trivial fun _ _ => .call permitted fun answer told => .call trivial fun _ _ =>
    .ret (ends answer told)

/-- The queues of a route are bound. -/
structure Ensured (topology : RabbitMqRouteTopology) (g : Pocket) : Prop where
  work : (topology.exchange, topology.routingKey) ∈ g.bound
  retry : (topology.retryExchange, topology.retryRoutingKey) ∈ g.bound
  dead : (topology.deadLetterExchange, topology.deadLetterRoutingKey) ∈ g.bound

theorem exchange_ne (built : Built config topology) :
    topology.exchange ≠ retryExchange config ∧
      topology.deadLetterExchange ≠ retryExchange config := by
  obtain ⟨queue, lane, rfl⟩ := built
  constructor <;> intro same
  · have lengths := congrArg (List.length ∘ String.toList) same
    simp [buildRouteTopology, retryExchange] at lengths
  · have lengths := congrArg (List.length ∘ String.toList) same
    simp [buildRouteTopology, retryExchange] at lengths

/-- A command of a set-up that only adds to what is declared and bound. -/
theorem setup_minds {c : Amqp.Cmd RabbitMqPayload} {message : String} {f : c.Reply → RabbitMqProg β}
    {first : Pocket} (grown : first.Extends start)
    (permitted : start.permits config made (.command c))
    (grows : ∀ r, start.Extends (start.next (.command c) r))
    (rest : ∀ reply, first.Extends (start.next (.command c) (.ok reply)) →
      Minds config made exits' (start.next (.command c) (.ok reply)) (f reply))
    (failed : ∀ g e, first.Extends g → exits' g (.error e)) :
    Minds config made exits' start ((withTransportResult c message).bind f) :=
  minds_step permitted (fun reply => rest reply (grown.trans (grows _)))
    fun _ g e later => failed g e ((grown.trans (grows _)).trans later)

theorem ensureTopology_minds (built : Built config topology) :
    Minds config made (fun g o => start.Extends g ∧ ∀ a, o = .ok a → Ensured topology g) start
      (ensureTopology channel topology) := by
  have failed : ∀ (g : Pocket) (e : AppError), start.Extends g →
      start.Extends g ∧ ∀ a : Unit, Except.error e = Except.ok a → Ensured topology g :=
    fun g e grown => ⟨grown, fun _ same => nomatch same⟩
  have quiet : ∀ {c : Amqp.Cmd RabbitMqPayload}, Quiet (.command c) →
      ∀ (g : Pocket) r, g.Extends (g.next (.command c) r) := fun quiet g r => extends_of_quiet quiet r
  have widens : ∀ (g : Pocket) (c : Amqp.Cmd RabbitMqPayload), c.IsSetup →
      ∀ r, g.Extends (g.next (.command c) r) := by
    intro g c setup r
    by_cases still : Quiet (.command c)
    · exact quiet still g r
    · cases c with
      | queueDeclare channel queue expired =>
        cases expired with
        | none => exact absurd trivial still
        | some target =>
          cases r with
          | error => exact .refl _
          | ok => exact ⟨List.Subset.refl _, rfl, List.Subset.refl _, List.subset_cons_self _ _, rfl⟩
      | queueBind channel queue exchange routingKey =>
        cases r with
        | error => exact .refl _
        | ok => exact ⟨List.Subset.refl _, rfl, List.subset_cons_self _ _, List.Subset.refl _, rfl⟩
      | awaitConfirm | basicGet | basicAck => exact setup.elim
      | _ => exact absurd trivial still
  obtain ⟨work, dead⟩ := exchange_ne built
  refine setup_minds (.refl _) (permits_of_quiet (by trivial)) (widens _ _ (by trivial)) ?_ failed
  intro _ grown
  refine setup_minds grown (permits_of_quiet (by trivial)) (widens _ _ (by trivial)) ?_ failed
  intro _ grown
  refine setup_minds grown (permits_of_quiet (by trivial)) (widens _ _ (by trivial)) ?_ failed
  intro _ grown
  refine setup_minds grown (permits_of_quiet (by trivial)) (widens _ _ (by trivial)) ?_ failed
  intro _ grown
  refine setup_minds grown (fun same => absurd same work) (widens _ _ (by trivial)) ?_ failed
  intro _ grown
  refine setup_minds grown ?_ (widens _ _ (by trivial)) ?_ failed
  · exact List.mem_cons_self
  intro _ grown
  refine setup_minds grown ?_ (widens _ _ (by trivial)) ?_ failed
  · exact fun _ => List.mem_cons_self
  intro _ grown
  refine setup_minds grown (permits_of_quiet (by trivial)) (widens _ _ (by trivial)) ?_ failed
  intro _ grown
  refine setup_minds grown (fun same => absurd same dead) (widens _ _ (by trivial)) ?_ failed
  intro _ grown
  refine .ret ⟨grown, fun _ _ => ⟨?_, ?_, ?_⟩⟩
  · exact List.mem_cons_of_mem _ (List.mem_cons_of_mem _ List.mem_cons_self)
  · exact List.mem_cons_of_mem _ List.mem_cons_self
  · exact List.mem_cons_self

/-- A copy of some tasks has been stored, and nothing else. -/
def Stored (start : Pocket) (tasks : Multiset RuntimeTask) (g : Pocket) (o : AppResult α) : Prop :=
  ∀ a, o = .ok a → { start with spare := tasks }.Extends g

theorem publishConfirmed_minds {exchange routingKey failure unconfirmed : String}
    {payload : RabbitMqPayload} {expirationMs : Option UInt64}
    (reaches : exchange = "" ∨ (exchange, routingKey) ∈ start.bound)
    (delays : expirationMs.isSome → exchange = retryExchange config) :
    Minds config made (Stored start payload.tasks) start (publishConfirmed channel exchange
      routingKey payload expirationMs failure unconfirmed) :=
  minds_step trivial
    (fun _ => minds_step ⟨reaches, delays⟩ (fun _ => .ret fun _ _ => .refl _) fun _ _ _ _ => nofun)
    fun _ _ _ _ => nofun

theorem publishRawPayload_minds {exchange routingKey : String} {payload : RabbitMqPayload}
    {expirationMs : Option UInt64} (built : Built config topology)
    (reaches : ∀ g, Ensured topology g → (exchange, routingKey) ∈ g.bound)
    (delays : expirationMs.isSome → exchange = retryExchange config) :
    Minds config made (Stored start payload.tasks) start
      (publishRawPayload topology exchange routingKey payload expirationMs) := by
  refine minds_after_quiet activeTransport_quiet (fun channel g grown => ?_) fun _ _ _ => nofun
  refine (ensureTopology_minds built).bind (fun g' _ ensured => ?_) fun _ _ _ => nofun
  refine (publishConfirmed_minds (.inr (reaches g' (ensured.2 _ rfl))) delays).mono ?_
  intro after o stored a ended
  exact (grown.trans ensured.1).stored (stored a ended)

theorem publishDeadLetterRecord_minds (built : Built config topology)
    (record : RuntimeDeadLetterRecord) :
    Minds config made (Stored start {record.task}) start
      (publishDeadLetterRecord topology record) := by
  change Minds config made (Stored start (RabbitMqPayload.tasks (.record record))) start _
  exact publishRawPayload_minds built (fun _ ensured => ensured.dead) (by simp)

/-- A lease that is taken, or nothing is left to settle. -/
def Takes (start : Pocket) (deliveryId : String) (config : RabbitMqQueueConfig) (g : Pocket)
    (o : AppResult (Option RabbitMqLeasedDelivery)) : Prop :=
  ∃ found, o = .ok found ∧ match found with
    | none => g = { start with spare := 0 }
    | some leased => g = { start with taken := leased :: start.taken } ∧
        leased.delivery.deliveryId = deliveryId ∧ Built config leased.topology

theorem takeLease_minds (deliveryId : String) :
    Minds config made (Takes start deliveryId config) start (takeLease deliveryId) := by
  refine lockedStep_minds (c := .removeLease deliveryId) (by trivial) ?_
  rintro (_ | leased) told
  · exact ⟨none, rfl, rfl⟩
  · exact ⟨some leased, rfl, rfl, told leased rfl⟩

/-- The tasks that a call holds when it has succeeded. -/
def Ends (tasks : Multiset RuntimeTask) (g : Pocket) (o : AppResult α) : Prop :=
  ∀ a, o = .ok a → g.spare = tasks

theorem ackBrokerDelivery_minds {deliveryId : String}
    (settles : ∀ g leased, start.taken ⊆ g.taken → g.spare = start.spare →
      leased.delivery.deliveryId = deliveryId → Settles g leased made) :
    Minds config made (Ends 0) start (ackBrokerDelivery deliveryId) := by
  refine minds_after_quiet activeTransport_quiet (fun channel g grown => ?_)
    fun _ _ _ _ same => nomatch same
  refine (takeLease_minds deliveryId).bind ?_ fun _ _ _ _ same => nomatch same
  rintro _ found ⟨_, same, taken⟩
  cases same
  cases found with
  | none =>
    obtain rfl := taken
    exact .ret fun _ _ => rfl
  | some leased =>
    obtain ⟨rfl, named, -⟩ := taken
    have last : Pocket.takenUnder { g with taken := leased :: g.taken } leased.deliveryTag =
        some leased := List.find?_cons_of_pos (decide_eq_true rfl)
    refine minds_step (.inr ⟨leased, last, ?_⟩) (fun _ => .ret fun _ _ => rfl)
      fun _ _ _ _ _ same => nomatch same
    refine settles _ leased ?_ grown.spare named
    rw [← grown.taken]
    exact List.subset_cons_self _ _

/-- A copy of a task has been stored for the lease that the call has taken. -/
theorem settle_minds {deliveryId : String} {leased : RabbitMqLeasedDelivery}
    {p : RabbitMqProg Unit} (taken : leased ∈ start.taken)
    (named : leased.delivery.deliveryId = deliveryId)
    (kind : (∃ error delayMs, made = .retry deliveryId error delayMs) ∨
      ∃ error, made = .reject deliveryId error)
    (publishes : Minds config made (Stored start {leased.delivery.task}) start p) :
    Minds config made (Ends 0) start (p.bind fun _ => ackBrokerDelivery leased.delivery.deliveryId) := by
  refine publishes.bind (fun g _ stored => ?_) fun _ _ _ _ same => nomatch same
  have stored := stored _ rfl
  refine ackBrokerDelivery_minds ?_
  intro g' other grown spare same
  have settled : other.delivery.deliveryId = deliveryId ∧ ∃ first ∈ g'.taken,
      first.delivery.deliveryId = deliveryId ∧ g'.spare = {first.delivery.task} := by
    refine ⟨same.trans named, leased, grown ?_, named, spare.trans stored.spare⟩
    rw [stored.taken]
    exact taken
  rcases kind with ⟨error, delayMs, rfl⟩ | ⟨error, rfl⟩
  · exact settled
  · exact settled

theorem deadLetter_minds {deliveryId error : String} {leased : RabbitMqLeasedDelivery}
    (taken : leased ∈ start.taken) (named : leased.delivery.deliveryId = deliveryId)
    (built : Built config leased.topology)
    (kind : (∃ error delayMs, made = .retry deliveryId error delayMs) ∨
      ∃ error, made = .reject deliveryId error) :
    Minds config made (Ends 0) start (deadLetter leased error) :=
  .call trivial fun now _ => settle_minds taken named kind
    (publishDeadLetterRecord_minds built (buildDeadLetterRecord leased.delivery error now))

theorem requeue_minds {deliveryId error : String} {delayMs : UInt64}
    {leased : RabbitMqLeasedDelivery} (taken : leased ∈ start.taken)
    (named : leased.delivery.deliveryId = deliveryId) (built : Built config leased.topology)
    (kind : (∃ error delayMs, made = .retry deliveryId error delayMs) ∨
      ∃ error, made = .reject deliveryId error) :
    Minds config made (Ends 0) start (requeue leased error delayMs) := by
  refine settle_minds taken named kind ?_
  change Minds config made
    (Stored start (RabbitMqPayload.tasks (.envelope (nextAttempt leased.delivery error)))) start _
  refine publishRawPayload_minds built (fun _ ensured => ensured.retry) fun _ => ?_
  obtain ⟨queue, lane, same⟩ := built
  rw [same]
  rfl

theorem decode_minds (read : RabbitMqPayload → Option α) (payload : RabbitMqPayload) :
    Minds config made (fun g o => g = start ∧ ∀ a, o = .ok a → read payload = some a) start
      (decode read payload) := by
  refine .call trivial fun parses _ => ?_
  cases parses with
  | false => exact .fail ⟨rfl, fun _ same => nomatch same⟩
  | true =>
    cases read payload with
    | none => exact .fail ⟨rfl, fun _ same => nomatch same⟩
    | some value =>
      refine .ret ⟨rfl, ?_⟩
      rintro a ⟨⟩
      rfl

theorem insertLease_minds {leased : RabbitMqLeasedDelivery}
    (permitted : start.permits config made (.insertLease leased)) :
    Minds config made (fun g _ => g.spare = start.spare) start
      (locked .leased (.call (.insertLease leased) .ret)) :=
  lockedStep_minds (c := .insertLease leased) permitted fun _ _ => rfl

theorem lease_minds {tag : Amqp.DeliveryTag} {payload : RabbitMqPayload}
    (built : Built config topology) (handed : (tag, payload) ∈ start.read) :
    Minds config made (fun g _ => g.spare = start.spare) start (lease topology tag payload) := by
  refine (decode_minds RabbitMqPayload.asEnvelope payload).bind ?_ ?_
  · rintro _ envelope ⟨rfl, reads⟩
    have carries := RabbitMqPayload.task_of_asEnvelope (reads envelope rfl)
    exact (insertLease_minds ⟨built, payload, handed, carries⟩).bind (fun _ _ same => .ret same)
      fun _ _ same => same
  · rintro _ e ⟨rfl, -⟩
    rfl

/-- A reserve stores nothing; it leases what it has read. -/
theorem reserveRoutes_minds (routes : List Route) :
    Minds config made (fun g _ => g.spare = start.spare) start (reserveRoutes channel routes) := by
  induction routes generalizing start with
  | nil => exact .ret rfl
  | cons route rest ih =>
    refine .call trivial fun known told => ?_
    cases known with
    | none => exact ih
    | some topology =>
      have built : Built config topology := told topology rfl
      have found : Minds config made (fun g _ => g.spare = start.spare) start
          (reserveRoute channel route topology) := by
        refine minds_step trivial (fun first => ?_) fun _ g _ grown => grown.spare
        rcases first with _ | ⟨tag, payload⟩
        · exact .ret rfl
        · refine .call trivial fun _ _ => ?_
          exact (lease_minds built List.mem_cons_self).bind (fun _ _ same => .ret same)
            fun _ _ same => same
      refine found.bind (fun g delivery same => ?_) fun _ _ same => same
      cases delivery with
      | none => exact same ▸ ih
      | some delivery => exact .ret same

/-- What is drained has been read. -/
def Drained (read : RabbitMqPayload → Option α) (drained : List (RabbitMqDrained α)) (g : Pocket) :
    Prop :=
  ∀ d ∈ drained, (d.deliveryTag, d.payload) ∈ g.read ∧ read d.payload = some d.value

theorem Drained.mono {read : RabbitMqPayload → Option α} {drained : List (RabbitMqDrained α)}
    {g : Pocket} (there : Drained read drained start) (grown : start.read ⊆ g.read) :
    Drained read drained g :=
  fun d mem => ⟨grown (there d mem).1, (there d mem).2⟩

theorem drainQueue_minds {queue failure : String} {read : RabbitMqPayload → Option α} (rounds : Nat) :
    Minds config made (fun g o => start.Extends g ∧ ∀ drained, o = .ok drained →
      Drained read drained g) start (drainQueue channel queue failure read rounds) := by
  induction rounds generalizing start with
  | zero => exact .call trivial fun never => nomatch never
  | succ rounds ih =>
    have ended : ∀ (g : Pocket) (e : AppError), start.Extends g → start.Extends g ∧
        ∀ drained, Except.error e = Except.ok drained → Drained read drained g :=
      fun g e grown => ⟨grown, fun _ same => nomatch same⟩
    refine minds_step trivial (fun first => ?_) fun error g e grown => ended g e grown
    rcases first with _ | ⟨tag, payload⟩
    · refine .ret ⟨.refl _, ?_⟩
      rintro _ ⟨⟩ d mem
      cases mem
    · have quiet : Quiet (.command (.basicGet channel queue)) := trivial
      have grown : start.Extends (start.next (.command (.basicGet channel queue))
          (.ok (some (tag, payload)))) := extends_of_quiet quiet _
      refine (decode_minds read payload).bind ?_ ?_
      · rintro _ value ⟨rfl, reads⟩
        refine ih.bind (fun g rest later => .ret ⟨grown.trans later.1, ?_⟩)
          fun g e later => ended g e (grown.trans later.1)
        rintro _ ⟨⟩ d mem
        rcases List.mem_cons.1 mem with rfl | old
        · exact ⟨later.1.read List.mem_cons_self, reads value rfl⟩
        · exact later.2 rest rfl d old
      · rintro _ e ⟨rfl, -⟩
        exact ended _ e grown

/-- Nothing is taken, and nothing is left in hand. -/
def Restores (g : Pocket) (o : AppResult α) : Prop :=
  ∀ a, o = .ok a → g.taken = [] ∧ g.spare = 0

/-- A copy of a message is stored before it is acknowledged. -/
theorem acknowledge_minds {tag : Amqp.DeliveryTag} {payload : RabbitMqPayload} {message : String}
    {f : Unit → RabbitMqProg β} (untaken : start.taken = []) (read : (tag, payload) ∈ start.read)
    (stored : start.spare = payload.tasks)
    (rest : Minds config made exits' { start with spare := 0 } (f ()))
    (failed : ∀ g e, exits' g (.error e)) :
    Minds config made exits' start ((withTransportResult (.basicAck channel tag) message).bind f) :=
  minds_step (.inl ⟨untaken, payload, read, stored⟩) (fun _ => rest) fun _ g e _ => failed g e

theorem restoreRegistry_minds {queue : String}
    {entries : List (RabbitMqDrained RabbitMqRouteRegistryEntry)} (untaken : start.taken = [])
    (clean : start.spare = 0) (drained : Drained RabbitMqPayload.asRoute entries start) :
    Minds config made Restores start (restoreRegistry channel queue entries) := by
  induction entries generalizing start with
  | nil => exact .ret fun _ _ => ⟨untaken, clean⟩
  | cons entry rest ih =>
    have front : (entry.deliveryTag, entry.payload) ∈ start.read := (drained entry List.mem_cons_self).1
    have later : Drained RabbitMqPayload.asRoute rest start :=
      fun d mem => drained d (List.mem_cons_of_mem _ mem)
    refine (publishConfirmed_minds (.inl rfl) (by simp)).bind (fun g _ stored => ?_)
      fun _ _ _ _ same => nomatch same
    have stored := stored _ rfl
    refine acknowledge_minds (stored.taken.trans untaken) (stored.read front) stored.spare ?_
      fun _ _ _ same => nomatch same
    exact ih (stored.taken.trans untaken) rfl (later.mono stored.read)

theorem registerRoutes_minds {entries : List (RabbitMqDrained RabbitMqRouteRegistryEntry)}
    (seen : List RabbitMqRouteRegistryEntry) :
    Minds config made (fun g _ => start.Extends g) start
      (registerRoutes config channel seen entries) := by
  induction entries generalizing start seen with
  | nil => exact .ret (.refl _)
  | cons entry rest ih =>
    unfold registerRoutes
    split_ifs
    · exact ih seen
    · have built : Built config (buildRouteTopology config entry.value.queue entry.value.lane) :=
        ⟨_, _, rfl⟩
      refine (ensureTopology_minds built).bind (fun g _ ensured => ?_) fun _ _ ensured => ensured.1
      refine .call built fun _ _ => ?_
      have later : Minds config made (fun g' _ => g.Extends g') g
          (registerRoutes config channel (entry.value :: seen) rest) := ih _
      exact later.mono fun _ _ => ensured.1.trans

theorem ensureRegisteredRoutesLoaded_minds (rounds : Nat) (untaken : start.taken = [])
    (clean : start.spare = 0) :
    Minds config made Restores start (ensureRegisteredRoutesLoaded config rounds) := by
  refine minds_after_quiet activeTransport_quiet (fun channel g grown => ?_)
    fun _ _ _ _ same => nomatch same
  refine minds_step trivial (fun _ => ?_) fun _ _ _ _ _ same => nomatch same
  refine (drainQueue_minds rounds).bind (fun g' entries drained => ?_) fun _ _ _ _ same => nomatch same
  refine (registerRoutes_minds []).bind (fun g'' _ kept => ?_) fun _ _ _ _ same => nomatch same
  have all := (grown.trans drained.1).trans kept
  exact restoreRegistry_minds (all.taken.trans untaken) (all.spare.trans clean)
    ((drained.2 _ rfl).mono kept.read)

/-- A drain that may have found messages. -/
theorem drainDeadLetterQueue_minds (built : Built config topology) (rounds : Nat) :
    Minds config made (fun g o => start.Extends g ∧ ∀ drained, o = .ok drained →
      Drained RabbitMqPayload.asRecord drained g) start (drainDeadLetterQueue topology rounds) := by
  have failed : ∀ (g : Pocket) (e : AppError), start.Extends g → start.Extends g ∧
      ∀ drained, Except.error e = Except.ok drained → Drained RabbitMqPayload.asRecord drained g :=
    fun g e grown => ⟨grown, fun _ same => nomatch same⟩
  refine minds_after_quiet activeTransport_quiet (fun channel g grown => ?_)
    fun g e grown => failed g e grown
  refine (ensureTopology_minds built).bind (fun g' _ ensured => ?_)
    fun g' e ensured => failed g' e (grown.trans ensured.1)
  refine (drainQueue_minds rounds).mono ?_
  intro after o drained
  exact ⟨(grown.trans ensured.1).trans drained.1, drained.2⟩

theorem restoreMessages_minds (built : Built config topology)
    {messages : List RabbitMqDeadLetterMessage} (untaken : start.taken = []) (clean : start.spare = 0)
    (drained : Drained RabbitMqPayload.asRecord messages start) :
    Minds config made Restores start (restoreMessages channel topology messages) := by
  induction messages generalizing start with
  | nil => exact .ret fun _ _ => ⟨untaken, clean⟩
  | cons message rest ih =>
    have front : (message.deliveryTag, message.payload) ∈ start.read :=
      (drained message List.mem_cons_self).1
    have later : Drained RabbitMqPayload.asRecord rest start :=
      fun d mem => drained d (List.mem_cons_of_mem _ mem)
    refine (publishRawPayload_minds built (fun _ ensured => ensured.dead) (by simp)).bind
      (fun g _ stored => ?_) fun _ _ _ _ same => nomatch same
    have stored := stored _ rfl
    refine acknowledge_minds (stored.taken.trans untaken) (stored.read front) stored.spare ?_
      fun _ _ _ same => nomatch same
    exact ih (stored.taken.trans untaken) rfl (later.mono stored.read)

theorem restoreDeadLetterQueue_minds (built : Built config topology)
    {messages : List RabbitMqDeadLetterMessage} (untaken : start.taken = []) (clean : start.spare = 0)
    (drained : Drained RabbitMqPayload.asRecord messages start) :
    Minds config made Restores start (restoreDeadLetterQueue topology messages) :=
  minds_after_quiet activeTransport_quiet
    (fun _ _ grown => restoreMessages_minds built (grown.taken.trans untaken)
      (grown.spare.trans clean) (drained.mono grown.read)) fun _ _ _ _ same => nomatch same

theorem loadFrom_minds {rounds : Nat} {topologies : List RabbitMqRouteTopology}
    (built : ∀ topology ∈ topologies, Built config topology) (untaken : start.taken = [])
    (clean : start.spare = 0) : Minds config made (Ends 0) start (loadFrom rounds topologies) := by
  induction topologies generalizing start with
  | nil => exact .ret fun _ _ => clean
  | cons topology rest ih =>
    rw [List.forall_mem_cons] at built
    refine (drainDeadLetterQueue_minds built.1 rounds).bind (fun g messages drained => ?_)
      fun _ _ _ _ same => nomatch same
    refine (restoreDeadLetterQueue_minds built.1 (drained.1.taken.trans untaken)
      (drained.1.spare.trans clean) (drained.2 _ rfl)).bind (fun g' _ restored => ?_)
      fun _ _ _ _ same => nomatch same
    obtain ⟨untaken, clean⟩ := restored _ rfl
    exact (ih built.2 untaken clean).bind (fun _ _ ended => .ret fun _ _ => ended _ rfl)
      fun _ _ _ _ same => nomatch same

/-- A replay that has been found: its record is still to be acknowledged, the others to be put
back. -/
structure Found (config : RabbitMqQueueConfig) (g : Pocket)
    (replay : DeadLetterReplay RabbitMqRouteTopology RabbitMqDeadLetterReplay) : Prop where
  untaken : g.taken = []
  clean : g.spare = 0
  built : Built config replay.topology
  record : replay.record = replay.stored.target.value
  drained : Drained RabbitMqPayload.asRecord (replay.stored.target :: replay.stored.remaining) g

theorem findAmong_minds {deliveryId : String} {rounds : Nat}
    {topologies : List RabbitMqRouteTopology}
    (built : ∀ topology ∈ topologies, Built config topology) (untaken : start.taken = [])
    (clean : start.spare = 0) : Minds config made (fun g o => ∀ replay, o = .ok (some replay) →
      Found config g replay) start (findAmong deliveryId rounds topologies) := by
  induction topologies generalizing start with
  | nil => exact .ret fun _ same => nomatch same
  | cons topology rest ih =>
    rw [List.forall_mem_cons] at built
    refine (drainDeadLetterQueue_minds built.1 rounds).bind (fun g messages drained => ?_)
      fun _ _ _ _ same => nomatch same
    have untaken := drained.1.taken.trans untaken
    have clean := drained.1.spare.trans clean
    have drained := drained.2 _ rfl
    split_ifs
    · exact ih built.2 untaken clean
    · split
      · next replay found =>
        obtain ⟨-, front, back, split, remaining⟩ := splitTarget_spec found
        refine .ret ?_
        rintro _ ⟨⟩
        refine ⟨untaken, clean, built.1, rfl, ?_⟩
        intro d mem
        refine drained d ?_
        rw [remaining, List.mem_cons, List.mem_append] at mem
        rw [split, List.mem_append, List.mem_cons]
        grind
      · refine (restoreDeadLetterQueue_minds built.1 untaken clean drained).bind
          (fun g' _ restored => ?_) fun _ _ _ _ same => nomatch same
        obtain ⟨untaken, clean⟩ := restored _ rfl
        exact ih built.2 untaken clean

theorem replayDeadLetter_minds {rounds : Nat} {deliveryId : String} (untaken : start.taken = [])
    (clean : start.spare = 0) :
    Minds config made (Ends 0) start (replayDeadLetter config rounds deliveryId) := by
  have finds : Minds config made (fun g o => ∀ replay, o = .ok (some replay) →
      Found config g replay) start (findDeadLetterReplay config rounds deliveryId) := by
    refine (ensureRegisteredRoutesLoaded_minds rounds untaken clean).bind (fun g _ loaded => ?_)
      fun _ _ _ _ same => nomatch same
    obtain ⟨untaken, clean⟩ := loaded _ rfl
    exact .call trivial fun topologies told => findAmong_minds told untaken clean
  refine finds.bind (fun g found known => ?_) fun _ _ _ _ same => nomatch same
  cases found with
  | none => exact .fail fun _ same => nomatch same
  | some replay =>
    obtain ⟨untaken, clean, built, record, drained⟩ := known replay rfl
    have publishes : Minds config made (Stored g {replay.record.task}) g
        (publishEnvelope replay.topology replay.topology.exchange replay.topology.routingKey
          (replayOf replay.record) none) := by
      change Minds config made
        (Stored g (RabbitMqPayload.tasks (.envelope (replayOf replay.record)))) g _
      exact publishRawPayload_minds built (fun _ ensured => ensured.work) (by simp)
    refine publishes.bind (fun g' _ stored => ?_) fun _ _ _ _ same => nomatch same
    have stored := stored _ rfl
    obtain ⟨read, value⟩ := drained _ List.mem_cons_self
    have carries : replay.stored.target.payload.tasks = {replay.record.task} := by
      rw [record]
      exact RabbitMqPayload.tasks_of_task (RabbitMqPayload.task_of_asRecord value)
    have removes : Minds config made (Ends 0) g'
        (finalizeReplayedDeadLetter replay.topology replay.stored) := by
      refine minds_after_quiet activeTransport_quiet (fun channel g'' grown => ?_)
        fun _ _ _ _ same => nomatch same
      have later := stored.trans grown
      refine acknowledge_minds (later.taken.trans untaken) (later.read read)
        (later.spare.trans carries.symm) ?_ fun _ _ _ same => nomatch same
      refine (restoreDeadLetterQueue_minds built ?_ rfl ?_).mono
        fun _ _ restored a ended => (restored a ended).2
      · exact later.taken.trans untaken
      · exact fun d mem => drained.mono later.read d (List.mem_cons_of_mem _ mem)
    exact removes.bind (fun _ _ ended => .ret fun _ _ => ended _ rfl)
      fun _ _ _ _ same => nomatch same

/-- The task that a call brings in. -/
def brings : RabbitMqCall → Multiset RuntimeTask
  | .enqueue task => {task}
  | _ => 0

theorem persistRouteRegistry_minds :
    Minds config made (Ends 0) start (persistRouteRegistry config topology) := by
  refine minds_after_quiet activeTransport_quiet (fun channel g _ => ?_)
    fun _ _ _ _ same => nomatch same
  refine minds_step trivial (fun _ => ?_) fun _ _ _ _ _ same => nomatch same
  exact (publishConfirmed_minds (.inl rfl) (by simp)).mono
    fun _ _ stored a ended => (stored a ended).spare

theorem enqueue_minds (task : RuntimeTask) :
    Minds config made (Ends {task}) start (enqueue config task) := by
  refine .call ⟨_, _, rfl⟩ fun topology built => ?_
  refine persistRouteRegistry_minds.bind (fun g _ _ => ?_) fun _ _ _ _ same => nomatch same
  have publishes : Minds config made (Stored g {task}) g
      (publishEnvelope topology topology.exchange topology.routingKey ⟨task, 1, none⟩ none) := by
    change Minds config made (Stored g (RabbitMqPayload.tasks (.envelope ⟨task, 1, none⟩))) g _
    exact publishRawPayload_minds built (fun _ ensured => ensured.work) (by simp)
  exact publishes.mono fun _ _ stored a ended => (stored a ended).spare

theorem call_minds (rounds : Nat) (made : RabbitMqCall) :
    Minds config made (Ends (brings made)) .empty (callOf config rounds made) := by
  suffices ends : Minds config made (Ends (brings made)) .empty (made.prog config rounds) from
    ends.bind (fun _ _ ended => .ret fun _ _ => ended _ rfl) fun _ _ _ _ same => nomatch same
  cases made with
  | enqueue task => exact enqueue_minds task
  | reserve bindings =>
    have routes : Minds config (.reserve bindings) (fun g _ => g.spare = 0) .empty
        (reserveFromBroker bindings) :=
      minds_after_quiet activeTransport_quiet
        (fun channel g grown => .call trivial fun routes _ =>
          (reserveRoutes_minds routes).mono fun _ _ same => same.trans grown.spare)
        fun _ _ grown => grown.spare
    refine routes.attempt.bind (fun g result ended => ?_) fun _ _ _ _ same => nomatch same
    obtain ⟨_, same, clean⟩ := ended
    cases result with
    | ok | error => exact .ret fun _ _ => clean
  | ack deliveryId =>
    refine minds_after_quiet (locked_quiet (.call trivial fun _ => .ret)) (fun _ g grown => ?_)
      fun _ _ _ _ same => nomatch same
    exact ackBrokerDelivery_minds fun _ leased _ _ named => named
  | retry deliveryId error delayMs =>
    refine (takeLease_minds deliveryId).bind ?_ fun _ _ _ _ same => nomatch same
    rintro _ found ⟨_, same, taken⟩
    cases same
    cases found with
    | none => exact .fail fun _ same => nomatch same
    | some leased =>
      obtain ⟨rfl, named, built⟩ := taken
      have kind : (∃ error' delayMs', RabbitMqCall.retry deliveryId error delayMs =
          .retry deliveryId error' delayMs') ∨
          ∃ error', RabbitMqCall.retry deliveryId error delayMs = .reject deliveryId error' :=
        .inl ⟨_, _, rfl⟩
      dsimp only
      split_ifs
      · exact (deadLetter_minds List.mem_cons_self named built kind).bind
          (fun _ _ ended => .ret fun _ _ => ended _ rfl) fun _ _ _ _ same => nomatch same
      · exact (requeue_minds List.mem_cons_self named built kind).bind
          (fun _ _ ended => .ret fun _ _ => ended _ rfl) fun _ _ _ _ same => nomatch same
  | reject deliveryId error =>
    refine (takeLease_minds deliveryId).bind ?_ fun _ _ _ _ same => nomatch same
    rintro _ found ⟨_, same, taken⟩
    cases same
    cases found with
    | none =>
      obtain rfl := taken
      exact .ret fun _ _ => rfl
    | some leased =>
      obtain ⟨rfl, named, built⟩ := taken
      exact deadLetter_minds List.mem_cons_self named built (.inr ⟨_, rfl⟩)
  | stats =>
    refine minds_after_quiet activeTransport_quiet (fun channel g grown => ?_)
      fun _ _ _ _ same => nomatch same
    refine (ensureRegisteredRoutesLoaded_minds rounds grown.taken grown.spare).bind
      (fun g' _ loaded => ?_) fun _ _ _ _ same => nomatch same
    refine .call trivial fun topologies _ => ?_
    exact (minds_of_quiet (locked_quiet (statsRows_quiet topologies))).mono
      fun _ _ kept _ _ => kept.spare.trans (loaded _ rfl).2
  | deadLetters =>
    refine (ensureRegisteredRoutesLoaded_minds rounds rfl rfl).bind (fun g _ loaded => ?_)
      fun _ _ _ _ same => nomatch same
    obtain ⟨untaken, clean⟩ := loaded _ rfl
    exact .call trivial fun topologies built => loadFrom_minds built untaken clean
  | replayDeadLetter deliveryId => exact replayDeadLetter_minds rfl rfl

end Programs

end RabbitMq.Tasks

end NexusCore.Runtime
