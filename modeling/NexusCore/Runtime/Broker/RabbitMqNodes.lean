import NexusCore.Runtime.Broker.RabbitMqTasks

/-!
# The tasks of the RabbitMQ adapter

Any number of nodes share one broker. Their calls interleave command by command, a command fails
with or without its effect, channels close at any time, messages expire, and a node may start again
with an empty memory. A task whose enqueue has succeeded is in one of the queues until an `ack` call
acknowledges its message, or an acknowledgement is sent on another channel than that of its tag,
unless the broker has given up a publication that carries it: the adapter does not look at how a
publication was confirmed.
-/

namespace NexusCore.Runtime

open NexusCore.Lib

namespace RabbitMq.Tasks

section Steps

variable {config : RabbitMqQueueConfig} {made : RabbitMqCall} {w v : RabbitMqWorld} {op : RabbitMqOp}
  {r : op.Answer} {g : Pocket} {server t : Amqp.Server RabbitMqPayload}

/-- The message that a lease acknowledges carries the task of its delivery. -/
def Speaks (server : Amqp.Server RabbitMqPayload) (leased : RabbitMqLeasedDelivery) : Prop :=
  server.Tagged leased.deliveryTag (·.payload.task? = some leased.delivery.task)

/-- What a call has seen is so. -/
structure Known (server : Amqp.Server RabbitMqPayload) (g : Pocket) : Prop where
  read : ∀ found ∈ g.read, server.Tagged found.1 (·.payload = found.2)
  taken : ∀ leased ∈ g.taken, Speaks server leased
  bound : ∀ pair ∈ g.bound, server.Routed pair.1 pair.2
  forwards : ∀ queue ∈ g.forwards, server.Forwards queue

theorem known_empty : Known server .empty :=
  ⟨fun _ mem => (nomatch mem), fun _ mem => (nomatch mem), fun _ mem => (nomatch mem),
    fun _ mem => nomatch mem⟩

/-- What is known of a broker stays so. -/
structure Later (server t : Amqp.Server RabbitMqPayload) : Prop where
  tagged : ∀ {tag about}, server.Tagged tag about → t.Tagged tag about
  wider : server.Wider t

theorem Known.later (known : Known server g) (later : Later server t) : Known t g where
  read found mem := later.tagged (known.read found mem)
  taken leased mem := later.tagged (known.taken leased mem)
  bound pair mem := later.wider.routed _ _ (known.bound pair mem)
  forwards queue mem := later.wider.forwards _ (known.forwards queue mem)

theorem later_closeAll (lost : List Nat) : Later server (server.closeAll lost) :=
  ⟨fun tagged => tagged.closeAll lost, Amqp.Server.wider_closeAll server lost⟩

theorem later_execute {c : Amqp.Cmd RabbitMqPayload} {reply : c.Reply}
    (executed : server.execute c = some (reply, t)) : Later server t :=
  ⟨fun tagged => tagged.execute executed, Amqp.Server.wider_of_execute executed⟩

theorem Later.trans {t' : Amqp.Server RabbitMqPayload} (first : Later server t)
    (second : Later t t') : Later server t' :=
  ⟨fun tagged => second.tagged (first.tagged tagged), first.wider.trans second.wider⟩

/-- Some channels have closed, and a command has had its effect or none. -/
theorem effect_of_step {c : Amqp.Cmd RabbitMqPayload} {r : Except String c.Reply}
    (step : rabbitmq w (.command c) r v) : ∃ lost, v.server = w.server.closeAll lost ∨
      ∃ reply, (w.server.closeAll lost).execute c = some (reply, v.server) := by
  rcases attempted_of_step step with ⟨lost, rfl⟩ | ⟨reply, lost, server, executed, rfl⟩
  · exact ⟨lost, .inl rfl⟩
  · exact ⟨lost, .inr ⟨reply, executed⟩⟩

/-- The operations on the memory of a node leave the broker. -/
theorem server_of_step (memory : ∀ c, op ≠ .command c) (step : rabbitmq w op r v) :
    v.server = w.server := by
  cases op with
  | command c => exact absurd rfl (memory c)
  | lock | transport | findLease | removeLease | countLeases | catalog =>
    obtain ⟨-, rfl⟩ := step
    rfl
  | exhausted => cases r
  | _ =>
    obtain rfl := step
    rfl

theorem later_of_step (step : rabbitmq w op r v) : Later w.server v.server := by
  cases op with
  | command c =>
    obtain ⟨lost, same | ⟨reply, executed⟩⟩ := effect_of_step step
    · rw [same]
      exact later_closeAll lost
    · exact (later_closeAll lost).trans (later_execute executed)
  | _ =>
    rw [server_of_step (by simp) step]
    exact ⟨id, .refl _⟩

theorem known_next (known : Known w.server g)
    (leases : ∀ id leased, w.leased.find id = some leased → Speaks w.server leased)
    (step : rabbitmq w op r v) : Known v.server (g.next op r) := by
  have later := later_of_step step
  have same := known.later later
  unfold Pocket.next
  split
  · next found =>
    refine ⟨?_, same.taken, same.bound, same.forwards⟩
    rw [List.forall_mem_cons]
    refine ⟨?_, same.read⟩
    obtain ⟨lost, server, executed, rfl⟩ := executed_of_basicGet step
    exact (Amqp.Server.basicGet_tagged executed).2.2
  · exact ⟨same.read, same.taken, same.bound, same.forwards⟩
  · exact ⟨same.read, same.taken, same.bound, same.forwards⟩
  · next channel queue target _ =>
    refine ⟨same.read, same.taken, same.bound, ?_⟩
    rw [List.forall_mem_cons]
    refine ⟨?_, same.forwards⟩
    obtain ⟨lost, server, executed, rfl⟩ := executed_of_setup (by trivial) step
    exact Amqp.Server.queueDeclare_forwards executed
  · refine ⟨same.read, same.taken, ?_, same.forwards⟩
    rw [List.forall_mem_cons]
    refine ⟨?_, same.bound⟩
    obtain ⟨lost, server, executed, rfl⟩ := executed_of_setup (by trivial) step
    exact Amqp.Server.queueBind_routed executed
  · next deliveryId leased =>
    refine ⟨same.read, ?_, same.bound, same.forwards⟩
    rw [List.forall_mem_cons]
    refine ⟨?_, same.taken⟩
    obtain ⟨found, rfl⟩ := step
    exact leases _ leased found.symm
  · exact ⟨same.read, same.taken, same.bound, same.forwards⟩
  · exact same

/-- What the memory of a node says of the broker. -/
structure Sane (config : RabbitMqQueueConfig) (w : RabbitMqWorld) : Prop where
  speaks : ∀ id leased, w.leased.find id = some leased → Speaks w.server leased
  built : ∀ id leased, w.leased.find id = some leased → Built config leased.topology
  catalogued : Catalogued config w.routes

theorem sane_fresh : Sane config ⟨server, none, .empty, .new, []⟩ where
  speaks id leased found := by
    rw [RabbitMqLeases.find_empty] at found
    cases found
  built id leased found := by
    rw [RabbitMqLeases.find_empty] at found
    cases found
  catalogued := catalogued_new

/-- The memory of a node is as the broker comes to be. -/
theorem Sane.later {u : RabbitMqWorld} (sane : Sane config w) (later : Later w.server u.server)
    (leased : u.leased = w.leased) (routes : u.routes = w.routes) : Sane config u where
  speaks id held found := by
    rw [leased] at found
    exact later.tagged (sane.speaks id held found)
  built id held found := by
    rw [leased] at found
    exact sane.built id held found
  catalogued := by
    rw [routes]
    exact sane.catalogued

theorem Sane.insert {leased : RabbitMqLeasedDelivery} (sane : Sane config w)
    (speaks : Speaks w.server leased) (built : Built config leased.topology) :
    Sane config { w with leased := w.leased.insert leased } := by
  refine ⟨?_, ?_, sane.catalogued⟩
  · intro id held found
    rcases RabbitMqLeases.find_insert found with rfl | old
    · exact speaks
    · exact sane.speaks id held old
  · intro id held found
    rcases RabbitMqLeases.find_insert found with rfl | old
    · exact built
    · exact sane.built id held old

theorem Sane.erase (sane : Sane config w) (deliveryId : String) :
    Sane config { w with leased := w.leased.erase deliveryId } :=
  ⟨fun id held found => sane.speaks id held (RabbitMqLeases.find_of_erase found),
    fun id held found => sane.built id held (RabbitMqLeases.find_of_erase found), sane.catalogued⟩

/-- A command leaves the memory of a node as it is. -/
theorem memory_of_command {c : Amqp.Cmd RabbitMqPayload} {r : Except String c.Reply}
    (step : rabbitmq w (.command c) r v) : v.leased = w.leased ∧ v.routes = w.routes := by
  rw [(attempted_of_step step).memory]
  exact ⟨rfl, rfl⟩

theorem Sane.step (sane : Sane config w) (known : Known w.server g)
    (permitted : g.permits config made op) (step : rabbitmq w op r v) : Sane config v := by
  cases op with
  | command c =>
    obtain ⟨leased, routes⟩ := memory_of_command step
    exact sane.later (later_of_step step) leased routes
  | insertLease leased =>
    obtain rfl := step
    obtain ⟨built, payload, read, carries⟩ := permitted
    refine sane.insert ((known.read _ read).mono fun message same => ?_) built
    rw [same]
    exact carries
  | removeLease deliveryId =>
    obtain ⟨-, rfl⟩ := step
    exact sane.erase deliveryId
  | clearLeases =>
    obtain rfl := step
    have none : Sane config ⟨w.server, none, .empty, .new, []⟩ := sane_fresh
    exact ⟨none.speaks, none.built, sane.catalogued⟩
  | catalog c =>
    obtain ⟨-, rfl⟩ := step
    exact ⟨sane.speaks, sane.built, sane.catalogued.execute permitted⟩
  | lock | transport | findLease | countLeases =>
    obtain ⟨-, rfl⟩ := step
    exact ⟨sane.speaks, sane.built, sane.catalogued⟩
  | exhausted => cases r
  | unlock | setTransport | isConnected | nowMs | parse =>
    obtain rfl := step
    exact ⟨sane.speaks, sane.built, sane.catalogued⟩

theorem told_of_step (sane : Sane config w) (permitted : g.permits config made op)
    (step : rabbitmq w op r v) : Told config op r := by
  cases op with
  | removeLease deliveryId =>
    obtain ⟨found, rfl⟩ := step
    rintro leased rfl
    exact ⟨w.leased.keyed deliveryId leased found.symm, sane.built deliveryId leased found.symm⟩
  | catalog c =>
    obtain ⟨rfl, rfl⟩ := step
    cases c with
    | getOrInsertWith route topology =>
      change Built config (w.routes.getOrInsertWith route topology).1
      unfold RouteCatalog.getOrInsertWith
      split
      · next known found => exact sane.catalogued route known found
      · exact permitted
    | get route => exact fun topology found => sane.catalogued route topology found
    | topologies => exact sane.catalogued.topologies
    | _ => trivial
  | _ => trivial

theorem retryExchange_ne (config : RabbitMqQueueConfig) : retryExchange config ≠ "" := by
  intro same
  have lists := congrArg String.toList same
  simp [retryExchange] at lists

theorem delays_of_step (delays : w.server.Delays (retryExchange config))
    (known : Known w.server g) (permitted : g.permits config made op) (step : rabbitmq w op r v) :
    v.server.Delays (retryExchange config) := by
  cases op with
  | command c =>
    obtain ⟨lost, same | ⟨reply, executed⟩⟩ := effect_of_step step
    · rw [same]
      exact delays.closeAll lost
    · refine (delays.closeAll lost).execute (retryExchange_ne config) ?_ executed
      have known := known.later (later_closeAll lost)
      cases c with
      | queueDeclare channel queue expired =>
        cases expired with
        | none => trivial
        | some target => exact known.bound target permitted
      | queueBind channel queue exchange routingKey =>
        exact fun same => known.forwards queue (permitted same)
      | awaitConfirm channel exchange routingKey payload expiration => exact permitted.2
      | _ => trivial
  | _ =>
    rw [server_of_step (by simp) step]
    exact delays

/-- The tasks in the queues. -/
def stored (server : Amqp.Server RabbitMqPayload) : Multiset RuntimeTask :=
  server.payloads.bind RabbitMqPayload.tasks

/-- The task whose message a call settles for good on the channel of its tag, without another
copy. -/
def settles (g : Pocket) : RabbitMqOp → Multiset RuntimeTask
  | .command (.basicAck channel tag) =>
    if tag.issuer = channel then
      match g.takenUnder tag with
      | some leased => if g.spare = {leased.delivery.task} then 0 else {leased.delivery.task}
      | none => 0
    else
      0
  | _ => 0

/-- The tasks that an acknowledgement takes away on another channel than that of its tag. -/
def strays (op : RabbitMqOp) (server t : Amqp.Server RabbitMqPayload) : Multiset RuntimeTask :=
  match op with
  | .command (.basicAck channel tag) =>
    if tag.issuer = channel then 0 else stored server - stored t
  | _ => 0

/-- The tasks of a publication that the broker gives up, though the call goes on. -/
def nacked : (op : RabbitMqOp) → op.Answer → Multiset RuntimeTask
  | .command (.awaitConfirm _ _ _ payload _), .ok confirmation =>
    if Amqp.Confirmation.isNack confirmation then payload.tasks else 0
  | _, _ => 0

theorem stored_of_payloads (same : t.payloads = server.payloads) : stored t = stored server := by
  rw [stored, stored, same]

/-- An acknowledgement on the channel of its tag takes away the message that its call has read or
leased under the tag. -/
theorem stored_of_ack {channel : Nat} {tag : Amqp.DeliveryTag} (known : Known server g)
    (permitted : g.permitsCommand config made (.basicAck channel tag)) (own : tag.issuer = channel)
    {reply : Unit} (executed : server.execute (.basicAck channel tag) = some (reply, t)) :
    stored server ≤ stored t + g.spare + settles g (.command (.basicAck channel tag)) := by
  obtain ⟨d, mem, here, number, taken⟩ := Amqp.Server.payloads_basicAck executed
  have before : stored server = stored t + d.message.payload.tasks := by
    rw [stored, taken, Multiset.cons_bind, add_comm]
    rfl
  rw [before, add_assoc]
  refine add_le_add_right ?_ _
  rcases permitted with ⟨-, payload, read, spare⟩ | ⟨leased, found, -⟩
  · have same : d.message.payload = payload :=
      (known.read _ read).message d mem (here.trans own.symm) number
    rw [same, ← spare]
    exact Multiset.le_add_right _ _
  · obtain ⟨among, rfl⟩ := Pocket.mem_of_takenUnder found
    have carries := (known.taken leased among).message d mem (here.trans own.symm) number
    rw [RabbitMqPayload.tasks_of_task carries]
    simp only [settles, own, if_true, found]
    split_ifs with paid
    · rw [paid]
      exact Multiset.le_add_right _ _
    · exact Multiset.le_add_left _ _

theorem spare_of_spares {c : Amqp.Cmd RabbitMqPayload} (spares : c.Spares)
    (r : Except String c.Reply) : (g.next (.command c) r).spare = g.spare := by
  cases c with
  | basicGet => rcases r with error | _ | found <;> rfl
  | queueDeclare channel queue expired => cases expired <;> cases r <;> rfl
  | queueBind => cases r <;> rfl
  | awaitConfirm | basicAck => exact spares.elim
  | _ => rfl

theorem stored_closeAll (lost : List Nat) : stored (server.closeAll lost) = stored server :=
  stored_of_payloads (Amqp.Server.payloads_closeAll server lost)

/-- What is published is stored where a queue is bound. -/
theorem stored_of_publish {channel : Nat} {exchange routingKey : String} {payload : RabbitMqPayload}
    {expiration : Option UInt64} {reply : Amqp.Confirmation} (known : Known server g)
    (permitted : g.permitsCommand config made
      (.awaitConfirm channel exchange routingKey payload expiration))
    (executed : server.execute (.awaitConfirm channel exchange routingKey payload expiration) =
      some (reply, t)) : stored t = payload.tasks + stored server := by
  have routed : server.Routed exchange routingKey := by
    rcases permitted.1 with rfl | bound
    · exact ⟨routingKey, rfl⟩
    · exact known.bound _ bound
  rw [(Amqp.Server.awaitConfirm_stores executed).1, stored, Amqp.Server.payloads_store routed,
    Multiset.cons_bind]
  rfl

theorem strays_closeAll (op : RabbitMqOp) (lost : List Nat) :
    strays op (server.closeAll lost) t = strays op server t := by
  unfold strays
  rw [stored_closeAll]

/-- A command with its effect, whatever the adapter is told of it. -/
theorem stored_of_execute {c : Amqp.Cmd RabbitMqPayload} {reply : c.Reply}
    (known : Known server g) (permitted : g.permitsCommand config made c)
    (executed : server.execute c = some (reply, t)) (r : Except String c.Reply) :
    stored server + (g.next (.command c) r).spare ≤
      stored t + g.spare + (settles g (.command c) + strays (.command c) server t) := by
  have kept : c.Spares → stored server + (g.next (.command c) r).spare ≤
      stored t + g.spare + (settles g (.command c) + strays (.command c) server t) := by
    intro spares
    rw [spare_of_spares spares, stored_of_payloads (Amqp.Server.payloads_execute spares executed)]
    exact Multiset.le_add_right _ _
  cases c with
  | awaitConfirm channel exchange routingKey payload expiration =>
    rw [stored_of_publish known permitted executed]
    cases r with
    | ok =>
      change stored server + payload.tasks ≤ _
      rw [add_comm, add_assoc]
      exact Multiset.le_add_right _ _
    | error =>
      change stored server + g.spare ≤ _
      rw [add_assoc payload.tasks, add_assoc payload.tasks]
      exact (Multiset.le_add_right _ _).trans (Multiset.le_add_left _ _)
  | basicAck channel tag =>
    change stored server + 0 ≤ _
    rw [add_zero]
    by_cases own : tag.issuer = channel
    · rw [← add_assoc]
      exact (stored_of_ack known permitted own executed).trans (Multiset.le_add_right _ _)
    · have astray : strays (.command (.basicAck channel tag)) server t = stored server - stored t :=
        if_neg own
      rw [astray, add_assoc]
      calc stored server ≤ stored t + (stored server - stored t) := le_add_tsub
        _ ≤ _ := add_le_add_right ((Multiset.le_add_left _ _).trans (Multiset.le_add_left _ _)) _
  | _ => exact kept trivial

/-- A command without its effect fails, and stores nothing. -/
theorem spare_of_silence {c : Amqp.Cmd RabbitMqPayload} (e : String) :
    (g.next (.command c) (.error e)).spare ≤ g.spare := by
  cases c with
  | basicAck => exact Multiset.zero_le _
  | queueDeclare channel queue expired => cases expired <;> exact le_rfl
  | _ => exact le_rfl

/-- What a call believes to be stored although the broker has not heeded it. -/
theorem spare_of_unheeded {c : Amqp.Cmd RabbitMqPayload} {reply : c.Reply}
    (unheeded : Unheeded w c reply v) : (g.next (.command c) (.ok reply)).spare ≤
      g.spare + nacked (.command c) (.ok reply) := by
  cases c with
  | awaitConfirm channel exchange routingKey payload expiration =>
    obtain ⟨rfl, -⟩ := unheeded
    exact Multiset.le_add_left _ _
  | basicAck => exact Multiset.zero_le _
  | _ => exact unheeded.elim

/-- What a step adds to the pocket of its call it has added to the queues, unless the broker gave it
up, and what it takes out of the queues was in the pocket, is settled for good, or has gone astray. -/
theorem stored_of_step (known : Known w.server g) (permitted : g.permits config made op)
    (step : rabbitmq w op r v) : stored w.server + (g.next op r).spare ≤
      stored v.server + g.spare + (settles g op + strays op w.server v.server + nacked op r) := by
  have unchanged : (g.next op r).spare ≤ g.spare + nacked op r → stored w.server = stored v.server →
      stored w.server + (g.next op r).spare ≤ stored v.server + g.spare +
        (settles g op + strays op w.server v.server + nacked op r) := by
    intro less same
    rw [same, add_comm _ (nacked op r), ← add_assoc, add_assoc (stored v.server)]
    exact (add_le_add_right less _).trans (Multiset.le_add_right _ _)
  cases op with
  | command c =>
    have executes : ∀ lost reply, (w.server.closeAll lost).execute c = some (reply, v.server) →
        stored w.server + (g.next (.command c) r).spare ≤ stored v.server + g.spare +
          (settles g (.command c) + strays (.command c) w.server v.server +
            nacked (.command c) r) := by
      intro lost reply executed
      have balanced := stored_of_execute (known.later (later_closeAll lost)) permitted executed r
      rw [stored_closeAll, strays_closeAll] at balanced
      rw [← add_assoc]
      exact balanced.trans (Multiset.le_add_right _ _)
    have ended : (g.next (.command c) r).spare ≤ g.spare + nacked (.command c) r ∨
        ∃ lost reply, (w.server.closeAll lost).execute c = some (reply, v.server) := by
      cases r with
      | error e => exact .inl ((spare_of_silence e).trans (Multiset.le_add_right _ _))
      | ok reply =>
        rcases step with ⟨lost, server, executed, rfl⟩ | unheeded
        · exact .inr ⟨lost, reply, executed⟩
        · exact .inl (spare_of_unheeded unheeded)
    obtain ⟨lost, same | ⟨reply, executed⟩⟩ := effect_of_step step
    · rcases ended with less | ⟨lost, reply, executed⟩
      · exact unchanged less (by rw [same, stored_closeAll])
      · exact executes lost reply executed
    · exact executes lost reply executed
  | removeLease deliveryId =>
    have same := server_of_step (by simp) step
    cases r with
    | none => exact unchanged (Multiset.zero_le _) (by rw [same])
    | some leased => exact unchanged (Multiset.le_add_right _ _) (by rw [same])
  | _ => exact unchanged (Multiset.le_add_right _ _) (by rw [server_of_step (by simp) step])

end Steps

/-- One broker, and the memory of every node. -/
structure RabbitMqNodes where
  server : Amqp.Server RabbitMqPayload
  transport : Nat → Option Nat
  leased : Nat → RabbitMqLeases
  routes : Nat → RouteCatalog RabbitMqRouteTopology
  locked : Nat → List RabbitMqMutex

namespace RabbitMqNodes

def fresh : RabbitMqNodes := ⟨.fresh, fun _ => none, fun _ => .empty, fun _ => .new, fun _ => []⟩

/-- The world of one node. -/
def seenBy (w : RabbitMqNodes) (node : Nat) : RabbitMqWorld :=
  ⟨w.server, w.transport node, w.leased node, w.routes node, w.locked node⟩

def put (w : RabbitMqNodes) (node : Nat) (v : RabbitMqWorld) : RabbitMqNodes where
  server := v.server
  transport := Function.update w.transport node v.transport
  leased := Function.update w.leased node v.leased
  routes := Function.update w.routes node v.routes
  locked := Function.update w.locked node v.locked

@[simp] theorem server_put (w : RabbitMqNodes) (node : Nat) (v : RabbitMqWorld) :
    (w.put node v).server = v.server := rfl

@[simp] theorem seenBy_put (w : RabbitMqNodes) (node : Nat) (v : RabbitMqWorld) :
    (w.put node v).seenBy node = v := by
  simp [seenBy, put]

theorem seenBy_put_ne (w : RabbitMqNodes) {node other : Nat} (v : RabbitMqWorld)
    (ne : other ≠ node) :
    (w.put node v).seenBy other = { w.seenBy other with server := v.server } := by
  simp [seenBy, put, ne]

end RabbitMqNodes

/-- An operation of a node, a node starts again, or the time of a message is over. -/
inductive NodeOp where
  | op (node : Nat) (op : RabbitMqOp)
  | restart (node : Nat)
  | expire (i : Nat)

def NodeOp.Answer : NodeOp → Type
  | .op _ c => c.Answer
  | .restart _ | .expire _ => Unit

abbrev NodeProg : Type := Prog NodeOp NodeOp.Answer AppError Unit

def nodes : Handler RabbitMqNodes NodeOp NodeOp.Answer
  | w, .op node op, r, u => ∃ v, rabbitmq (w.seenBy node) op r v ∧ u = w.put node v
  | w, .restart node, _, u => u = w.put node (w.seenBy node).restart
  | w, .expire i, _, u => u = { w with server := w.server.expire i }

/-- A call on a node, or what happens by itself. -/
inductive NodeCall where
  | call (node rounds : Nat) (call : RabbitMqCall)
  | restart (node : Nat)
  | expire (i : Nat)

namespace NodeCall

def prog (config : RabbitMqQueueConfig) : NodeCall → NodeProg
  | .call node rounds made => (callOf config rounds made).relabel (NodeOp.op node) fun _ r => r
  | .restart node => .call (.restart node) .ret
  | .expire i => .call (.expire i) .ret

def brings : NodeCall → Multiset RuntimeTask
  | .call _ _ made => Tasks.brings made
  | .restart _ | .expire _ => 0

end NodeCall

def Calls (config : RabbitMqQueueConfig) (p : NodeProg) : Prop := ∃ c : NodeCall, p = c.prog config

section Runs

abbrev NodeBusy : Type := Busy RabbitMqNodes NodeOp NodeOp.Answer AppError Unit

abbrev NodeTransition : Type := Transition NodeBusy (Move NodeOp NodeOp.Answer AppError Unit)

abbrev NodeLog : Type := List (Sigma NodeOp.Answer)

def nextOn (g : Pocket) : (c : NodeOp) → c.Answer → Pocket
  | .op _ op, r => g.next op r
  | .restart _, _ | .expire _, _ => g

def permitsOn (config : RabbitMqQueueConfig) (c : NodeCall) (g : Pocket) : NodeOp → Prop
  | .op _ op => ∃ node rounds made, c = .call node rounds made ∧ g.permits config made op
  | .restart _ | .expire _ => True

def toldOn (config : RabbitMqQueueConfig) : (c : NodeOp) → c.Answer → Prop
  | .op _ op, r => Told config op r
  | .restart _, _ | .expire _, _ => True

/-- What the calls of the nodes hold. -/
def holdings (config : RabbitMqQueueConfig) :
    Holdings NodeOp NodeOp.Answer AppError Unit Pocket NodeCall where
  prog c := c.prog config
  start := .empty
  next := nextOn
  permits := permitsOn config
  assumes _ := toldOn config
  exits c := Ends c.brings

def pocket (log : NodeLog) : Pocket :=
  log.foldl (fun g entry => nextOn g entry.1 entry.2) .empty

theorem pocket_snoc (log : NodeLog) (c : NodeOp) (r : c.Answer) :
    pocket (log ++ [⟨c, r⟩]) = nextOn (pocket log) c r := by
  simp [pocket]

/-- The task that a call has brought in when it succeeds. -/
def accepted (x : NodeTransition) : Multiset RuntimeTask :=
  match x.label with
  | .finish call (.ok _) => (pocket call.log).spare
  | _ => 0

def settlesOn (g : Pocket) : NodeOp → Multiset RuntimeTask
  | .op _ op => settles g op
  | .restart _ | .expire _ => 0

def straysOn (server t : Amqp.Server RabbitMqPayload) : NodeOp → Multiset RuntimeTask
  | .op _ op => strays op server t
  | .restart _ | .expire _ => 0

def nackedOn : (c : NodeOp) → c.Answer → Multiset RuntimeTask
  | .op _ op, r => nacked op r
  | .restart _, _ | .expire _, _ => 0

/-- The task whose message is settled for good in a step. -/
def acknowledged (x : NodeTransition) : Multiset RuntimeTask :=
  match x.label with
  | .command c _ call _ => settlesOn (pocket call.log.dropLast) c
  | _ => 0

/-- The tasks that go astray in a step. -/
def strayed (x : NodeTransition) : Multiset RuntimeTask :=
  match x.label with
  | .command c _ _ _ => straysOn x.before.state.server x.after.state.server c
  | _ => 0

/-- The tasks of a publication that the broker gives up in a step. -/
def givenUp (x : NodeTransition) : Multiset RuntimeTask :=
  match x.label with
  | .command c r _ _ => nackedOn c r
  | _ => 0

/-- Whatever expires is forwarded, and what the nodes remember of the broker is so. -/
structure Orderly (config : RabbitMqQueueConfig) (w : RabbitMqNodes) : Prop where
  delays : w.server.Delays (retryExchange config)
  sane : ∀ node, Sane config (w.seenBy node)

variable {config : RabbitMqQueueConfig} {w u : RabbitMqNodes} {c : NodeOp} {r : c.Answer}
  {made : NodeCall} {g : Pocket} {moves : List NodeTransition} {b : NodeBusy}

theorem orderly_fresh : Orderly config .fresh :=
  ⟨Amqp.Server.fresh_delays, fun _ => sane_fresh⟩

/-- A node has its new memory, and the others see what the broker has become. -/
theorem Orderly.put {node : Nat} {v : RabbitMqWorld} (orderly : Orderly config w)
    (delays : v.server.Delays (retryExchange config)) (sane : Sane config v)
    (later : Later w.server v.server) : Orderly config (w.put node v) := by
  refine ⟨delays, fun other => ?_⟩
  by_cases same : other = node
  · rw [same, RabbitMqNodes.seenBy_put]
    exact sane
  · rw [RabbitMqNodes.seenBy_put_ne w v same]
    exact (orderly.sane other).later later rfl rfl

theorem prog_minds (config : RabbitMqQueueConfig) (made : NodeCall) :
    (holdings config).Minds made .empty (made.prog config) := by
  cases made with
  | call node rounds made =>
    exact (call_minds rounds made).relabel
      (fun _ _ permitted => ⟨node, rounds, made, rfl, permitted⟩) (fun _ _ _ => rfl)
      fun _ _ _ told => told
  | restart | expire => exact .call trivial fun _ _ => .ret fun _ _ => rfl

theorem holdings_kept (config : RabbitMqQueueConfig) :
    (holdings config).Kept nodes (Orderly config) fun w => Known w.server where
  minds := prog_minds config
  start _ _ := known_empty
  step w made g c r u orderly known permitted step := by
    cases c with
    | op node op =>
      obtain ⟨v, step, rfl⟩ := step
      obtain ⟨_, _, call, -, permitted⟩ := permitted
      have sane := orderly.sane node
      have later : Later w.server v.server := later_of_step (w := w.seenBy node) step
      have known' : Known (w.seenBy node).server g := known
      refine ⟨told_of_step sane permitted step, ?_, known_next known' sane.speaks step,
        fun _ known => known.later later⟩
      exact orderly.put (delays_of_step (w := w.seenBy node) orderly.delays known permitted step)
        (sane.step known permitted step) later
    | restart node =>
      obtain rfl := step
      have later : Later w.server (w.seenBy node).restart.server := ⟨id, .refl _⟩
      exact ⟨trivial, orderly.put orderly.delays sane_fresh later, known, fun _ known => known⟩
    | expire i =>
      obtain rfl := step
      have gone := w.server.expired i
      have later : Later w.server (w.server.expire i) :=
        ⟨fun tagged => tagged.expired gone, Amqp.Server.wider_of_expired gone⟩
      refine ⟨trivial, ⟨?_, ?_⟩, known.later later, fun _ known => known.later later⟩
      · exact orderly.delays.expired (retryExchange_ne config) gone
      · exact fun node => (orderly.sane node).later later rfl rfl

theorem fair_of_nodes (run : Run (Interleaved nodes (Calls config)) ⟨.fresh, 0⟩ moves b) :
    ∀ x ∈ moves, (holdings config).Fair nodes (Orderly config) (fun w => Known w.server) x :=
  Holdings.fair_of_run (holdings_kept config) orderly_fresh run

theorem stored_of_node (orderly : Orderly config w) (known : Known w.server g)
    (permitted : permitsOn config made g c) (step : nodes w c r u) :
    stored w.server + (nextOn g c r).spare ≤
      stored u.server + g.spare +
        (settlesOn g c + straysOn w.server u.server c + nackedOn c r) := by
  cases c with
  | op node op =>
    obtain ⟨v, step, rfl⟩ := step
    obtain ⟨_, _, call, -, permitted⟩ := permitted
    exact stored_of_step (w := w.seenBy node) known permitted step
  | restart node =>
    obtain rfl := step
    exact Multiset.le_add_right _ _
  | expire i =>
    obtain rfl := step
    have same : stored (w.server.expire i) = stored w.server :=
      stored_of_payloads (Amqp.Server.payloads_expired orderly.delays (w.server.expired i))
    change stored w.server + g.spare ≤ stored (w.server.expire i) + g.spare + 0
    rw [same, add_zero]

theorem accepted_eq (x : NodeTransition) : (holdings config).accepted Pocket.spare x = accepted x := by
  obtain ⟨_, label, _⟩ := x
  rcases label with _ | _ | ⟨call, _ | _⟩ <;> rfl

theorem acknowledged_of_command {x : NodeTransition} {call : Call NodeOp NodeOp.Answer AppError Unit}
    {others : Multiset (Call NodeOp NodeOp.Answer AppError Unit)} {log : NodeLog}
    (label : x.label = .command c r call others) (split : call.log = log ++ [⟨c, r⟩]) :
    acknowledged x = settlesOn (pocket log) c := by
  unfold acknowledged
  rw [label]
  dsimp only
  rw [split, List.dropLast_concat]

theorem strayed_of_command {x : NodeTransition} {call : Call NodeOp NodeOp.Answer AppError Unit}
    {others : Multiset (Call NodeOp NodeOp.Answer AppError Unit)}
    (label : x.label = .command c r call others) :
    strayed x = straysOn x.before.state.server x.after.state.server c := by
  unfold strayed
  rw [label]

theorem givenUp_of_command {x : NodeTransition} {call : Call NodeOp NodeOp.Answer AppError Unit}
    {others : Multiset (Call NodeOp NodeOp.Answer AppError Unit)}
    (label : x.label = .command c r call others) : givenUp x = nackedOn c r := by
  unfold givenUp
  rw [label]

/-- The tasks that have been brought in are in the queues, have been acknowledged, have gone astray
or were given up by the broker. -/
theorem covered_of_nodes (run : Run (Interleaved nodes (Calls config)) ⟨.fresh, 0⟩ moves b) :
    (moves.map accepted).sum ≤ stored b.state.server +
      ((moves.map acknowledged).sum + (moves.map strayed).sum + (moves.map givenUp).sum) := by
  have balanced : ∀ x ∈ moves, (holdings config).Balanced Pocket.spare (fun w => stored w.server)
      (fun x => acknowledged x + strayed x + givenUp x) x := by
    intro x mem c r call others log label split
    obtain ⟨front, made, split', -, permitted, orderly, known, answered⟩ :=
      (fair_of_nodes run x mem).command _ _ _ _ label
    obtain rfl : front = log := List.append_inj_left' (split'.symm.trans split) rfl
    dsimp only
    rw [acknowledged_of_command label split, strayed_of_command label, givenUp_of_command label]
    exact stored_of_node orderly known permitted answered
  have covered := Holdings.covered_of_run rfl run balanced
  rwa [List.map_congr_left fun x _ => accepted_eq x, List.sum_map_add, List.sum_map_add] at covered

theorem taken_of_next {op : RabbitMqOp} {leased : RabbitMqLeasedDelivery} (r : op.Answer)
    (among : leased ∈ (g.next op r).taken) : leased ∈ g.taken ∨
      ∃ deliveryId, (⟨op, r⟩ : Sigma RabbitMqOp.Answer) = ⟨.removeLease deliveryId, some leased⟩ := by
  revert among
  unfold Pocket.next
  split
  · exact .inl
  · exact .inl
  · exact .inl
  · exact .inl
  · exact .inl
  · next deliveryId found =>
    intro among
    rcases List.mem_cons.1 among with rfl | before
    · exact .inr ⟨deliveryId, rfl⟩
    · exact .inl before
  · exact .inl
  · exact .inl

/-- A call was given a lease by the memory of a node. -/
def Took (log : NodeLog) (leased : RabbitMqLeasedDelivery) : Prop :=
  ∃ node deliveryId, ⟨.op node (.removeLease deliveryId), some leased⟩ ∈ log

theorem took_of_pocket (log : NodeLog) (leased : RabbitMqLeasedDelivery)
    (among : leased ∈ (pocket log).taken) : Took log leased := by
  induction log using List.reverseRecOn with
  | nil => cases among
  | append_singleton log entry ih =>
    obtain ⟨c, r⟩ := entry
    rw [pocket_snoc] at among
    have earlier : leased ∈ (pocket log).taken → Took (log ++ [⟨c, r⟩]) leased := by
      intro before
      obtain ⟨node, deliveryId, taken⟩ := ih before
      exact ⟨node, deliveryId, List.mem_append_left _ taken⟩
    cases c with
    | restart node => exact earlier among
    | expire i => exact earlier among
    | op node op =>
      rcases taken_of_next r among with before | ⟨deliveryId, same⟩
      · exact earlier before
      · cases same
        exact ⟨node, deliveryId, List.mem_append_right _ (List.mem_singleton_self _)⟩

/-- A call acknowledges a delivery that it has taken: it is the `ack` of the delivery, or a retry or
a rejection that has first taken a delivery of another task under the same id. -/
def Acknowledges (made : RabbitMqCall) (log : NodeLog) (leased : RabbitMqLeasedDelivery) : Prop :=
  made = .ack leased.delivery.deliveryId ∨
    ((∃ error delayMs, made = .retry leased.delivery.deliveryId error delayMs) ∨
      ∃ error, made = .reject leased.delivery.deliveryId error) ∧
    ∃ first, Took log first ∧ first.delivery.deliveryId = leased.delivery.deliveryId ∧
      first.delivery.task ≠ leased.delivery.task

/-- A step in which the message of a delivery of a task is acknowledged for good. -/
def AcknowledgedIn (config : RabbitMqQueueConfig) (x : NodeTransition) (task : RuntimeTask) : Prop :=
  ∃ node rounds made owner channel leased r call others,
    x.label = .command (.op owner (.command (.basicAck channel leased.deliveryTag))) r call others ∧
    call.program = (NodeCall.call node rounds made).prog config ∧
    leased.delivery.task = task ∧ Took call.log leased ∧ Acknowledges made call.log leased

/-- A step in which an acknowledgement is sent on another channel than that of its tag. -/
def StraysIn (x : NodeTransition) : Prop :=
  ∃ owner channel tag r call others,
    x.label = .command (.op owner (.command (.basicAck channel tag))) r call others ∧
    tag.issuer ≠ channel

/-- A step in which a publication that carries a task is confirmed with a nack. -/
def GivenUpIn (x : NodeTransition) (task : RuntimeTask) : Prop :=
  ∃ owner channel exchange routingKey payload expiration call others,
    x.label = .command (.op owner (.command (.awaitConfirm channel exchange routingKey payload
      expiration))) (.ok Amqp.Confirmation.nack) call others ∧ payload.task? = some task

theorem acknowledges_of_settles {call : RabbitMqCall} {log : NodeLog}
    {leased : RabbitMqLeasedDelivery} (settles : Settles (pocket log) leased call)
    (unpaid : (pocket log).spare ≠ {leased.delivery.task}) : Acknowledges call log leased := by
  have other : (∃ first ∈ (pocket log).taken, first.delivery.deliveryId = leased.delivery.deliveryId ∧
      (pocket log).spare = {first.delivery.task}) → ∃ first, Took log first ∧
        first.delivery.deliveryId = leased.delivery.deliveryId ∧
        first.delivery.task ≠ leased.delivery.task := by
    rintro ⟨first, among, named, spare⟩
    refine ⟨first, took_of_pocket log first among, named, fun same => ?_⟩
    rw [← same] at unpaid
    exact unpaid spare
  cases call with
  | ack deliveryId =>
    obtain rfl : leased.delivery.deliveryId = deliveryId := settles
    exact .inl rfl
  | retry deliveryId error delayMs =>
    obtain ⟨rfl, paid⟩ := settles
    exact .inr ⟨.inl ⟨error, delayMs, rfl⟩, other paid⟩
  | reject deliveryId error =>
    obtain ⟨rfl, paid⟩ := settles
    exact .inr ⟨.inr ⟨error, rfl⟩, other paid⟩
  | _ => exact settles.elim

theorem acknowledges_snoc {call : RabbitMqCall} {log : NodeLog} {leased : RabbitMqLeasedDelivery}
    (acknowledges : Acknowledges call log leased) (entry : Sigma NodeOp.Answer) :
    Acknowledges call (log ++ [entry]) leased := by
  rcases acknowledges with own | ⟨kind, first, ⟨node, deliveryId, taken⟩, other⟩
  · exact .inl own
  · exact .inr ⟨kind, first, ⟨node, deliveryId, List.mem_append_left _ taken⟩, other⟩

theorem acknowledgedIn_of_run (run : Run (Interleaved nodes (Calls config)) ⟨.fresh, 0⟩ moves b) :
    ∀ x ∈ moves, ∀ task ∈ acknowledged x, AcknowledgedIn config x task := by
  intro x mem task there
  cases label : x.label with
  | start | finish =>
    rw [acknowledged, label] at there
    cases Multiset.notMem_zero _ there
  | command c r call others =>
    obtain ⟨log, made, split, same, permitted, -⟩ :=
      (fair_of_nodes run x mem).command _ _ _ _ label
    rw [acknowledged_of_command label split] at there
    cases c with
    | restart | expire => cases Multiset.notMem_zero _ there
    | op owner op =>
      obtain ⟨node, rounds, made, rfl, permitted⟩ := permitted
      change task ∈ settles (pocket log) op at there
      unfold settles at there
      split at there
      · next channel tag =>
        split_ifs at there with own
        · rcases permitted with ⟨none, -⟩ | ⟨leased, found, settles⟩
          · rw [Pocket.takenUnder, show (pocket log).taken = [] from none] at there
            cases Multiset.notMem_zero _ there
          · change (pocket log).takenUnder tag = some leased at found
            rw [found] at there
            dsimp only at there
            split_ifs at there with paid
            · cases Multiset.notMem_zero _ there
            · obtain rfl := Multiset.mem_singleton.1 there
              obtain ⟨among, rfl⟩ := Pocket.mem_of_takenUnder found
              obtain ⟨holder, deliveryId, taken⟩ := took_of_pocket log leased among
              refine ⟨node, rounds, made, owner, channel, leased, r, call, others, label, same, rfl,
                ⟨holder, deliveryId, ?_⟩, ?_⟩
              · rw [split]
                exact List.mem_append_left _ taken
              · rw [split]
                exact acknowledges_snoc (acknowledges_of_settles settles paid) _
        · cases Multiset.notMem_zero _ there
      · cases Multiset.notMem_zero _ there

theorem straysIn_of_strayed {x : NodeTransition} (some : strayed x ≠ 0) : StraysIn x := by
  cases label : x.label with
  | start | finish =>
    rw [strayed, label] at some
    exact absurd rfl some
  | command c r call others =>
    rw [strayed_of_command label] at some
    cases c with
    | restart | expire => exact absurd rfl some
    | op owner op =>
      change strays op _ _ ≠ 0 at some
      unfold strays at some
      split at some
      · next channel tag =>
        split_ifs at some with own
        · exact absurd rfl some
        · exact ⟨owner, channel, tag, r, call, others, label, own⟩
      · exact absurd rfl some

theorem nack_of_nacked {op : RabbitMqOp} {r : op.Answer} {task : RuntimeTask}
    (lost : task ∈ nacked op r) : ∃ channel exchange routingKey payload expiration,
      (⟨op, r⟩ : Sigma RabbitMqOp.Answer) = ⟨.command (.awaitConfirm channel exchange routingKey
        payload expiration), .ok Amqp.Confirmation.nack⟩ ∧ payload.task? = some task := by
  unfold nacked at lost
  split at lost
  · next channel exchange routingKey payload expiration confirmation =>
    cases confirmation with
    | ack => cases Multiset.notMem_zero _ lost
    | nack =>
      refine ⟨channel, exchange, routingKey, payload, expiration, rfl, ?_⟩
      change task ∈ payload.tasks at lost
      unfold RabbitMqPayload.tasks at lost
      split at lost
      · next carried found => rw [found, Multiset.mem_singleton.1 lost]
      · cases Multiset.notMem_zero _ lost
  · cases Multiset.notMem_zero _ lost

theorem givenUpIn_of_givenUp {x : NodeTransition} {task : RuntimeTask} (lost : task ∈ givenUp x) :
    GivenUpIn x task := by
  cases label : x.label with
  | start | finish =>
    rw [givenUp, label] at lost
    cases Multiset.notMem_zero _ lost
  | command c r call others =>
    rw [givenUp_of_command label] at lost
    cases c with
    | restart | expire => cases Multiset.notMem_zero _ lost
    | op owner op =>
      obtain ⟨channel, exchange, routingKey, payload, expiration, same, carries⟩ :=
        nack_of_nacked lost
      cases same
      exact ⟨owner, channel, exchange, routingKey, payload, expiration, call, others, label, carries⟩

/-- In every interleaving of the calls of all nodes, the tasks of the enqueues that have succeeded
are in the queues, but for those whose message has been acknowledged, those that have been taken
away by an acknowledgement on another channel than that of its tag, and those of publications that
the broker has given up. -/
theorem every_task_accounted_for (config : RabbitMqQueueConfig) (moves : List NodeTransition)
    (b : NodeBusy) (run : Run (Interleaved nodes (Calls config)) ⟨.fresh, 0⟩ moves b) :
    (moves.map accepted).sum ≤ stored b.state.server +
        ((moves.map acknowledged).sum + (moves.map strayed).sum + (moves.map givenUp).sum) ∧
      (∀ x ∈ moves, ∀ call node rounds task, x.label = .finish call (.ok ()) →
        call.program = (NodeCall.call node rounds (.enqueue task)).prog config →
          accepted x = {task}) ∧
      (∀ x ∈ moves, ∀ task ∈ acknowledged x, AcknowledgedIn config x task) ∧
      (∀ x ∈ moves, strayed x ≠ 0 → StraysIn x) ∧
      ∀ x ∈ moves, ∀ task ∈ givenUp x, GivenUpIn x task := by
  refine ⟨covered_of_nodes run, ?_, acknowledgedIn_of_run run, fun x _ => straysIn_of_strayed,
    fun x _ task => givenUpIn_of_givenUp⟩
  intro x mem call node rounds task label same
  have brought := (fair_of_nodes run x mem).finish _ _ label (.call node rounds (.enqueue task)) same
  unfold accepted
  rw [label]
  exact brought () rfl

/-- A broker that gives up what carries one task and otherwise executes every command, and nodes that
answer. -/
def respondNodes (refused : RuntimeTask) (w : RabbitMqNodes) :
    (c : NodeOp) → Option (c.Answer × RabbitMqNodes)
  | .op node (.command (.awaitConfirm channel exchange routingKey payload expiration)) =>
    if payload.task? = some refused then some (.ok Amqp.Confirmation.nack, w.put node (w.seenBy node))
    else (respond 1000 (w.seenBy node) (.command (.awaitConfirm channel exchange routingKey payload
      expiration))).map fun answered => (answered.1, w.put node answered.2)
  | .op node op =>
    (respond 1000 (w.seenBy node) op).map fun answered => (answered.1, w.put node answered.2)
  | .restart node => some ((), w.put node (w.seenBy node).restart)
  | .expire i => some ((), { w with server := w.server.expire i })

theorem respondNodes_allowed {refused : RuntimeTask} (w : RabbitMqNodes) (c : NodeOp) (r : c.Answer)
    (u : RabbitMqNodes) (answered : respondNodes refused w c = some (r, u)) : nodes w c r u := by
  have responds : ∀ {node : Nat} {op : RabbitMqOp} {r : op.Answer},
      (respond 1000 (w.seenBy node) op).map (fun answered => (answered.1, w.put node answered.2)) =
        some (r, u) → nodes w (.op node op) r u := by
    intro node op r answered
    obtain ⟨⟨r, v⟩, responded, same⟩ := Option.map_eq_some_iff.1 answered
    cases same
    exact ⟨v, respond_allowed responded, rfl⟩
  unfold respondNodes at answered
  split at answered
  · split_ifs at answered
    · cases answered
      exact ⟨_, .inr ⟨rfl, .inl ⟨[], rfl⟩⟩, rfl⟩
    · exact responds answered
  · exact responds answered
  · cases answered
    rfl
  · cases answered
    rfl

/-- Two nodes enqueue at the same time. The broker gives one of the tasks up, and the other one is
retried with a delay while the first node starts again. -/
def retryTurns : List (NodeCall ⊕ Nat) :=
  .inl (.call 0 3 (.enqueue (sampleTask "task-1" "oj" 3))) ::
  .inl (.call 1 3 (.enqueue (sampleTask "task-2" "oj" 3))) :: inTurn 40 [0, 1] ++
  .inl (.call 1 3 (.reserve [])) :: inTurn 20 [0] ++
  .inl (.call 1 3 (.retry "rmq-task-1-1" "boom" 5000)) :: .inl (.restart 0) :: inTurn 5 [0] ++
  inTurn 2 [1] ++ inTurn 40 [0] ++ .inl (.expire 2) :: inTurn 2 [0]

def retryRun : Option ((RabbitMqNodes × List (Call NodeOp NodeOp.Answer AppError Unit)) × NodeLog) :=
  tryPlay (respondNodes (sampleTask "task-2" "oj" 3)) (fun _ _ _ _ _ => true) .fresh []
    (schedule (NodeCall.prog ⟨"nexus.tasks", "nexus"⟩) retryTurns)

/-- The answer to a publication that the broker gives up. -/
def givesUp (task : RuntimeTask) : Sigma NodeOp.Answer → Bool
  | ⟨.op _ (.command (.awaitConfirm _ _ _ payload _)), .ok confirmation⟩ =>
    Amqp.Confirmation.isNack confirmation && decide (payload.task? = some task)
  | _ => false

theorem nackedOn_of_givesUp {task : RuntimeTask} {answer : Sigma NodeOp.Answer}
    (gives : givesUp task answer = true) : task ∈ nackedOn answer.1 answer.2 := by
  unfold givesUp at gives
  split at gives
  · obtain ⟨nack, carries⟩ := Bool.and_eq_true_iff.1 gives
    simp only [nackedOn, nacked, if_pos nack,
      RabbitMqPayload.tasks_of_task (of_decide_eq_true carries)]
    exact Multiset.mem_singleton_self _
  · cases gives

theorem task_accounted_for_after_retry : ∃ moves b,
    Run (Interleaved nodes (Calls ⟨"nexus.tasks", "nexus"⟩)) ⟨.fresh, 0⟩ moves b ∧
    b.state.server.ready.map (fun message => (message.queue, message.payload.task?)) =
      [("nexus.__routes", none), ("nexus.__routes", none),
        ("nexus.oj.fast", some (sampleTask "task-1" "oj" 3))] ∧
    (∃ x ∈ moves, GivenUpIn x (sampleTask "task-2" "oj" 3)) ∧
    (moves.map accepted).sum ≤ stored b.state.server +
      ((moves.map acknowledged).sum + (moves.map strayed).sum + (moves.map givenUp).sum) := by
  have ended : retryRun.map (fun ran => (ran.1.1.server.ready.map fun message =>
      (message.queue, message.payload.task?), ran.2.any (givesUp (sampleTask "task-2" "oj" 3)))) =
      some ([("nexus.__routes", none), ("nexus.__routes", none),
        ("nexus.oj.fast", some (sampleTask "task-1" "oj" 3))], true) := by
    decide +kernel
  obtain ⟨⟨⟨t, left⟩, log⟩, played, same⟩ := Option.map_eq_some_iff.1 ended
  obtain ⟨ready, found⟩ := Prod.mk.inj same
  obtain ⟨moves, run, passes⟩ := run_tryPlay (Calls ⟨"nexus.tasks", "nexus"⟩) respondNodes_allowed
    (fun p mem => named_of_start mem) played
  have accounted := every_task_accounted_for _ moves _ run
  refine ⟨moves, _, run, ready, ?_, accounted.1⟩
  obtain ⟨⟨c, r⟩, mem, gives⟩ := List.any_eq_true.1 found
  obtain ⟨x, there, call, others, label⟩ := passes.covered _ mem
  refine ⟨x, there, accounted.2.2.2.2 x there _ ?_⟩
  rw [givenUp_of_command label]
  exact nackedOn_of_givesUp gives

end Runs

end RabbitMq.Tasks

end NexusCore.Runtime
