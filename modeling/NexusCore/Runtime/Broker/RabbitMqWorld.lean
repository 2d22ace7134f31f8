import NexusCore.Runtime.Broker.RabbitMq

/-!
# What happens at the commands of the RabbitMQ adapter

The world of an adapter is the broker and the adapter's own memory. Channels may close at any
time, and a command that fails has had no effect, or its effect without the answer. A publication
may also be confirmed with a nack, and an acknowledgement is not answered at all: it may get lost
with its channel. A mutex is given to one caller at a time.

The broker is no part of the repository. What it may answer is a relation, so that results about
its runs are about every broker whose answers are among these.
-/

namespace NexusCore.Runtime

open NexusCore.Lib

namespace RabbitMq

structure RabbitMqWorld where
  server : Amqp.Server RabbitMqPayload
  transport : Option Nat
  leased : RabbitMqLeases
  routes : RouteCatalog RabbitMqRouteTopology
  locked : List RabbitMqMutex

/-- An empty broker and an adapter that has no channel yet. -/
def RabbitMqWorld.fresh : RabbitMqWorld := ⟨.fresh, none, .empty, .new, []⟩

/-- What a process that starts again finds: the broker as it is, and an empty memory. -/
def RabbitMqWorld.restart (w : RabbitMqWorld) : RabbitMqWorld :=
  ⟨w.server, none, .empty, .new, []⟩

/-- The broker after some channels may have closed and a command took effect. -/
def Executed (w : RabbitMqWorld) (c : Amqp.Cmd RabbitMqPayload) (reply : c.Reply)
    (u : RabbitMqWorld) : Prop :=
  ∃ lost server, (w.server.closeAll lost).execute c = some (reply, server) ∧
    u = { w with server := server }

/-- The broker after some channels may have closed and nothing else. -/
def Refused (w u : RabbitMqWorld) : Prop :=
  ∃ lost, u = { w with server := w.server.closeAll lost }

/-- The broker after a command whose effect is not known. -/
def Attempted (w : RabbitMqWorld) (c : Amqp.Cmd RabbitMqPayload) (u : RabbitMqWorld) : Prop :=
  Refused w u ∨ ∃ reply, Executed w c reply u

/-- The broker after a command that has returned and was not carried out: the broker has given a
message up, or an acknowledgement was lost together with its channel. -/
def Unheeded (w : RabbitMqWorld) :
    (c : Amqp.Cmd RabbitMqPayload) → c.Reply → RabbitMqWorld → Prop
  | .awaitConfirm channel exchange routingKey payload expirationMs, confirmation, u =>
    confirmation = Amqp.Confirmation.nack ∧
      Attempted w (.awaitConfirm channel exchange routingKey payload expirationMs) u
  | .basicAck channel _, _, u =>
    ∃ lost, channel ∈ lost ∧ u = { w with server := w.server.closeAll lost }
  | _, _, _ => False

def rabbitmq : Handler RabbitMqWorld RabbitMqOp RabbitMqOp.Answer
  | w, .command c, .ok reply, u => Executed w c reply u ∨ Unheeded w c reply u
  | w, .command c, .error _, u => Attempted w c u
  | w, .lock mutex, _, u => mutex ∉ w.locked ∧ u = { w with locked := mutex :: w.locked }
  | w, .unlock mutex, _, u => u = { w with locked := w.locked.erase mutex }
  | w, .transport, transport, u => transport = w.transport ∧ u = w
  | w, .setTransport channel, _, u => u = { w with transport := channel }
  | w, .findLease deliveryId, found, u => found = w.leased.find deliveryId ∧ u = w
  | w, .insertLease leased, _, u => u = { w with leased := w.leased.insert leased }
  | w, .removeLease deliveryId, found, u =>
    found = w.leased.find deliveryId ∧ u = { w with leased := w.leased.erase deliveryId }
  | w, .clearLeases, _, u => u = { w with leased := .empty }
  | w, .countLeases queue lane, count, u => count = w.leased.count queue lane ∧ u = w
  | w, .catalog c, reply, u =>
    reply = (c.execute w.routes).1 ∧ u = { w with routes := (c.execute w.routes).2 }
  | w, .isConnected _, _, u | w, .nowMs, _, u | w, .parse _, _, u => u = w

/-- The broker has given the message of a publication up, and says so. -/
def nacks : RabbitMqWorld → (op : RabbitMqOp) → op.Answer → RabbitMqWorld → Bool
  | _, .command (.awaitConfirm ..), .ok confirmation, _ => Amqp.Confirmation.isNack confirmation
  | _, _, _, _ => false

/-- A broker that stores every message it confirms. -/
abbrev confirming : Handler RabbitMqWorld RabbitMqOp RabbitMqOp.Answer := rabbitmq.without nacks

section Commands

variable {w u : RabbitMqWorld} {c : Amqp.Cmd RabbitMqPayload} {reply : c.Reply}

theorem Unheeded.attempted (unheeded : Unheeded w c reply u) : Attempted w c u := by
  cases c with
  | awaitConfirm => exact unheeded.2
  | basicAck =>
    obtain ⟨lost, -, rfl⟩ := unheeded
    exact .inl ⟨lost, rfl⟩
  | _ => exact unheeded.elim

/-- The other commands are carried out when they return. -/
theorem executed_of_setup (setup : c.IsSetup) (step : rabbitmq w (.command c) (.ok reply) u) :
    Executed w c reply u := by
  refine step.resolve_right fun unheeded => ?_
  cases c with
  | awaitConfirm | basicAck => exact setup.elim
  | _ => exact unheeded.elim

theorem executed_of_basicGet {channel : Nat} {queue : String}
    {reply : Option (Amqp.DeliveryTag × RabbitMqPayload)}
    (step : rabbitmq w (.command (.basicGet channel queue)) (.ok reply) u) :
    Executed w (.basicGet channel queue) reply u :=
  step.resolve_right fun unheeded => unheeded.elim

/-- Whatever a command returns, it has been tried. -/
theorem attempted_of_step {answer : Except String c.Reply}
    (step : rabbitmq w (.command c) answer u) : Attempted w c u := by
  cases answer with
  | error error => exact step
  | ok reply =>
    rcases step with executed | unheeded
    · exact .inr ⟨reply, executed⟩
    · exact unheeded.attempted

theorem Executed.memory (executed : Executed w c reply u) :
    u = { w with server := u.server } := by
  obtain ⟨lost, server, -, rfl⟩ := executed
  rfl

/-- A command leaves the memory of the adapter alone. -/
theorem Attempted.memory (attempted : Attempted w c u) : u = { w with server := u.server } := by
  rcases attempted with ⟨lost, rfl⟩ | ⟨reply, executed⟩
  · rfl
  · exact executed.memory

end Commands

section Programs

variable {w u : RabbitMqWorld} {α : Type}

/-- Programs that run to their end on a broker that stores what it confirms; where they fail
nothing is claimed. -/
abbrev Ends (Q : α → RabbitMqWorld → Prop) (p : RabbitMqProg α) (w : RabbitMqWorld) : Prop :=
  Keeps confirming (fun _ => True) Q p w

theorem Ends.trivial (p : RabbitMqProg α) (w : RabbitMqWorld) : Ends (fun _ _ => True) p w :=
  (Safe.invariant (I := fun _ => True) (fun _ _ _ _ _ _ => ⟨⟩) p ⟨⟩).mono (fun _ _ => ⟨⟩)
    fun _ _ _ => ⟨⟨⟩, fun _ _ => ⟨⟩⟩

/-- A section ends under its mutex and the mutex is given back. -/
theorem locked_ends {mutex : RabbitMqMutex} {p : RabbitMqProg α} {Q : α → RabbitMqWorld → Prop}
    (inner : Ends (fun a u => Q a { u with locked := u.locked.erase mutex }) p
      { w with locked := mutex :: w.locked }) : Ends Q (locked mutex p) w := by
  refine Keeps.call ⟨⟩ ?_
  rintro ⟨⟩ _ ⟨⟨-, rfl⟩, -⟩
  refine inner.attempt.bind ?_
  intro result u _ ended
  refine Keeps.call ⟨⟩ ?_
  rintro ⟨⟩ _ ⟨rfl, -⟩
  cases result with
  | error error => exact Keeps.fail ⟨⟩
  | ok a => exact Keeps.ret ⟨⟩ (ended a rfl)

/-- A section of one step on the memory. -/
theorem lockedStep_ends {mutex : RabbitMqMutex} {c : RabbitMqOp} {Q : c.Answer → RabbitMqWorld → Prop}
    (step : ∀ answer u, rabbitmq { w with locked := mutex :: w.locked } c answer u →
      Q answer { u with locked := u.locked.erase mutex }) :
    Ends Q (locked mutex (.call c .ret)) w :=
  locked_ends (Keeps.call ⟨⟩ fun answer u answered => Keeps.ret ⟨⟩ (step answer u answered.1))

theorem nowMs_ends : Ends (fun _ u => u = w) nowMs w :=
  Keeps.call ⟨⟩ fun _ _ answered => Keeps.ret ⟨⟩ answered.1

theorem takeLease_ends {deliveryId : String} :
    Ends (fun taken u => taken = w.leased.find deliveryId ∧
      u = { w with leased := w.leased.erase deliveryId }) (takeLease deliveryId) w := by
  refine lockedStep_ends ?_
  rintro taken _ ⟨rfl, rfl⟩
  simp

theorem clearLeases_ends :
    Ends (fun _ u => u = { w with leased := .empty }) clearLeases w := by
  refine lockedStep_ends ?_
  rintro ⟨⟩ _ rfl
  simp

/-- A command that returns has been carried out, unless it is an acknowledgement. -/
theorem executed_of_confirming {c : Amqp.Cmd RabbitMqPayload} {reply : c.Reply}
    (promised : ∀ channel tag, c ≠ .basicAck channel tag)
    (step : confirming w (.command c) (.ok reply) u) : Executed w c reply u := by
  refine step.1.resolve_right fun unheeded => ?_
  cases c with
  | awaitConfirm =>
    have acked := step.2
    rw [nacks, unheeded.1] at acked
    cases acked
  | basicAck channel tag => exact promised channel tag rfl
  | _ => exact unheeded.elim

theorem withTransportResult_ends {c : Amqp.Cmd RabbitMqPayload} {message : String}
    (promised : ∀ channel tag, c ≠ .basicAck channel tag) :
    Ends (fun reply u => Executed w c reply u) (withTransportResult c message) w := by
  refine Keeps.call ⟨⟩ ?_
  rintro (error | reply) u answered
  · exact (Ends.trivial invalidateTransport u).bind fun _ _ _ _ => Keeps.fail ⟨⟩
  · exact Keeps.ret ⟨⟩ (executed_of_confirming promised answered)

theorem connectStep_ends {c : Amqp.Cmd RabbitMqPayload} {message : String} (setup : c.IsSetup) :
    Ends (fun reply u => Executed w c reply u) (connectStep c message) w := by
  refine Keeps.call ⟨⟩ ?_
  rintro (error | reply) u answered
  · exact Keeps.fail ⟨⟩
  · exact Keeps.ret ⟨⟩ (executed_of_setup setup answered.1)

end Programs

/-! ## What the programs issue -/

/-- The operations that neither store a message, nor hand one out, nor settle one, nor add a
lease, nor ask the catalog. -/
def Harmless : RabbitMqOp → Prop
  | .command c => c.IsSetup
  | .insertLease _ | .catalog _ => False
  | _ => True

section Issues

variable {P : RabbitMqOp → Prop}
  (harmless : ∀ op, Harmless op → (∀ deliveryId, op ≠ .removeLease deliveryId) → P op) {α : Type}

include harmless

theorem locked_issues {mutex : RabbitMqMutex} {p : RabbitMqProg α} (inner : p.Issues P) :
    (locked mutex p).Issues P := by
  refine .call (harmless _ trivial nofun) fun _ => inner.attempt.bind fun result => ?_
  refine .call (harmless _ trivial nofun) fun _ => ?_
  cases result with
  | error error => exact .fail
  | ok a => exact .ret

theorem clearLeases_issues : clearLeases.Issues P :=
  locked_issues harmless (.call (harmless _ trivial nofun) fun _ => .ret)

theorem takeLease_issues {deliveryId : String} (takes : P (.removeLease deliveryId)) :
    (takeLease deliveryId).Issues P :=
  locked_issues harmless (.call takes fun _ => .ret)

theorem connectStep_issues {c : Amqp.Cmd RabbitMqPayload} {message : String} (setup : c.IsSetup) :
    (connectStep c message).Issues P := by
  refine .call (harmless _ setup nofun) ?_
  rintro (error | reply)
  · exact .fail
  · exact .ret

theorem reconnect_issues : reconnect.Issues P := by
  refine Prog.Issues.bind ?_ fun channel => .call (harmless _ trivial nofun) fun _ => .ret
  refine (connectStep_issues harmless (by trivial)).bind fun _ => ?_
  refine (connectStep_issues harmless (by trivial)).bind fun channel => ?_
  exact (connectStep_issues harmless (by trivial)).bind fun _ => .ret

theorem activeTransport_issues : activeTransport.Issues P := by
  refine Prog.Issues.bind (locked_issues harmless (.call (harmless _ trivial nofun) ?_)) ?_
  · rintro (_ | channel)
    · exact reconnect_issues harmless
    · refine .call (harmless _ trivial nofun) ?_
      rintro (_ | _)
      · exact reconnect_issues harmless
      · exact .ret
  · rintro ⟨channel, _ | _⟩
    · exact .ret
    · exact (clearLeases_issues harmless).bind fun _ => .ret

theorem invalidateTransport_issues : invalidateTransport.Issues P :=
  (locked_issues harmless (.call (harmless _ (by trivial) (by simp)) fun _ => .ret)).bind fun _ =>
    clearLeases_issues harmless

theorem withTransportResult_issues {c : Amqp.Cmd RabbitMqPayload} {message : String}
    (issued : P (.command c)) : (withTransportResult c message).Issues P := by
  refine .call issued ?_
  rintro (error | reply)
  · exact (invalidateTransport_issues harmless).bind fun _ => .fail
  · exact .ret

theorem ensureTopology_issues (channel : Nat) (topology : RabbitMqRouteTopology) :
    (ensureTopology channel topology).Issues P := by
  have step {c : Amqp.Cmd RabbitMqPayload} {message : String} (setup : c.IsSetup) :
      (withTransportResult c message).Issues P :=
    withTransportResult_issues harmless (harmless _ setup nofun)
  refine (step (by trivial)).bind fun _ => (step (by trivial)).bind fun _ => ?_
  refine (step (by trivial)).bind fun _ => (step (by trivial)).bind fun _ => ?_
  refine (step (by trivial)).bind fun _ => (step (by trivial)).bind fun _ => ?_
  refine (step (by trivial)).bind fun _ => (step (by trivial)).bind fun _ => ?_
  exact (step (by trivial)).bind fun _ => .ret

theorem publishConfirmed_issues {channel : Nat} {exchange routingKey failure unconfirmed : String}
    {payload : RabbitMqPayload} {expirationMs : Option UInt64}
    (stores : P (.command (.awaitConfirm channel exchange routingKey payload expirationMs))) :
    (publishConfirmed channel exchange routingKey payload expirationMs failure unconfirmed).Issues
      P :=
  (withTransportResult_issues harmless (harmless _ (by trivial) nofun)).bind fun _ =>
    (withTransportResult_issues harmless stores).bind fun _ => .ret

theorem publishRawPayload_issues {topology : RabbitMqRouteTopology} {exchange routingKey : String}
    {payload : RabbitMqPayload} {expirationMs : Option UInt64}
    (stores : ∀ channel,
      P (.command (.awaitConfirm channel exchange routingKey payload expirationMs))) :
    (publishRawPayload topology exchange routingKey payload expirationMs).Issues P :=
  (activeTransport_issues harmless).bind fun channel =>
    (ensureTopology_issues harmless channel topology).bind fun _ =>
      publishConfirmed_issues harmless (stores channel)

end Issues

/-! ## A broker that answers -/

/-- A broker that executes every command, on channels that stay open. A mutex that is taken
and a loop without rounds left are not answered. -/
def respond (now : UInt64) (w : RabbitMqWorld) :
    (op : RabbitMqOp) → Option (op.Answer × RabbitMqWorld)
  | .command c => some <|
    match w.server.execute c with
    | some (reply, server) => (.ok reply, { w with server := server })
    | none => (.error "refused", w)
  | .isConnected _ => some (true, w)
  | .nowMs => some (now, w)
  | .parse _ => some (true, w)
  | .lock mutex =>
    if mutex ∈ w.locked then none else some ((), { w with locked := mutex :: w.locked })
  | .unlock mutex => some ((), { w with locked := w.locked.erase mutex })
  | .transport => some (w.transport, w)
  | .setTransport channel => some ((), { w with transport := channel })
  | .findLease deliveryId => some (w.leased.find deliveryId, w)
  | .insertLease leased => some ((), { w with leased := w.leased.insert leased })
  | .removeLease deliveryId =>
    some (w.leased.find deliveryId, { w with leased := w.leased.erase deliveryId })
  | .clearLeases => some ((), { w with leased := .empty })
  | .countLeases queue lane => some (w.leased.count queue lane, w)
  | .catalog c => some ((c.execute w.routes).1, { w with routes := (c.execute w.routes).2 })
  | .exhausted => none

theorem respond_allowed {now : UInt64} {w u : RabbitMqWorld} {op : RabbitMqOp}
    {answer : op.Answer} (answered : respond now w op = some (answer, u)) :
    rabbitmq w op answer u := by
  cases op with
  | command c =>
    rw [respond] at answered
    split at answered
    · next reply server executed =>
      cases answered
      exact .inl ⟨[], server, executed, rfl⟩
    · cases answered
      exact .inl ⟨[], rfl⟩
  | lock mutex =>
    rw [respond] at answered
    split_ifs at answered with taken
    cases answered
    exact ⟨taken, rfl⟩
  | exhausted => cases answered
  | transport | findLease | removeLease | countLeases | catalog =>
    cases answered
    exact ⟨rfl, rfl⟩
  | _ =>
    cases answered
    exact rfl

/-- The world after a program on a broker that answers. -/
def after {α : Type} (p : RabbitMqProg α) (w : RabbitMqWorld) : RabbitMqWorld :=
  ((p.tryEval (respond 1000) w).map (·.2)).getD w

theorem respond_confirms {now : UInt64} {w u : RabbitMqWorld} {op : RabbitMqOp}
    {answer : op.Answer} (answered : respond now w op = some (answer, u)) :
    confirming w op answer u := by
  refine ⟨respond_allowed answered, ?_⟩
  cases op with
  | command c =>
    cases c with
    | awaitConfirm =>
      rw [respond] at answered
      split at answered
      · next reply server executed =>
        cases answered
        rw [nacks, (Amqp.Server.awaitConfirm_stores executed).2]
        rfl
      · cases answered
        rfl
    | _ => cases answer <;> rfl
  | _ => rfl

theorem exec_confirming_after {α : Type} {p : RabbitMqProg α} {w : RabbitMqWorld}
    {result : AppResult α}
    (returned : (p.tryEval (respond 1000) w).map (·.1) = some result) :
    Exec confirming p w result (after p w) := by
  obtain ⟨⟨_, u⟩, run, rfl⟩ := Option.map_eq_some_iff.1 returned
  have same : after p w = u := by rw [after, run]; rfl
  rw [same]
  exact Exec.of_tryEval (h := respond 1000) (fun _ _ _ _ answered => respond_confirms answered) run

theorem exec_after {α : Type} {p : RabbitMqProg α} {w : RabbitMqWorld} {result : AppResult α}
    (returned : (p.tryEval (respond 1000) w).map (·.1) = some result) :
    Exec rabbitmq p w result (after p w) :=
  (exec_confirming_after returned).mono fun _ _ _ _ step => step.1

end RabbitMq

end NexusCore.Runtime
