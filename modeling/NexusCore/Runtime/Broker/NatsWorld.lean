import NexusCore.Runtime.Broker.Nats

/-!
# What happens at the commands of the NATS adapter

The world of an adapter is the server and the adapter's own memory. Time may pass before every
command. A command that fails has had no effect, or its effect without the answer; an
acknowledgement that was sent may get lost on its way.

The server is no part of the repository. What it may answer is a relation, so that results about
its runs are about every server whose answers are among these.
-/

namespace NexusCore.Runtime

open NexusCore.Lib

namespace Nats

structure NatsWorld where
  server : JetStream.Server NatsPayload
  leased : NatsLeases
  routes : RouteCatalog NatsRouteTopology

/-- The subjects of the stream that collects the dead letters. -/
def isDeadLetterSubject (config : NatsQueueConfig) (subject : String) : Bool :=
  ("dlq." ++ config.subjectPrefix ++ ".").toList.isPrefixOf subject.toList

/-- A server with empty streams and an adapter that has just connected. -/
def NatsWorld.fresh (config : NatsQueueConfig) : NatsWorld :=
  ⟨.fresh (isDeadLetterSubject config), ∅, .new⟩

/-- What a process that starts again finds: the server as it is, and an empty memory. -/
def NatsWorld.restart (w : NatsWorld) : NatsWorld := ⟨w.server, ∅, .new⟩

/-- The commands that are sent without waiting for the server. -/
def Unconfirmed : JetStream.Cmd NatsPayload → Prop
  | .ack _ | .nak .. => True
  | _ => False

/-- The server after a command took effect. -/
def Executed (w : NatsWorld) (c : JetStream.Cmd NatsPayload) (reply : c.Reply) (u : NatsWorld) :
    Prop :=
  ∃ due server, (w.server.elapse due).execute c = some (reply, server) ∧
    u = { w with server := server }

/-- The server after a command that did not reach it. -/
def Refused (w u : NatsWorld) : Prop := ∃ due, u = { w with server := w.server.elapse due }

def nats : Handler NatsWorld NatsOp NatsOp.Answer
  | w, .command c, .ok reply, u => Executed w c reply u ∨ Unconfirmed c ∧ Refused w u
  | w, .command c, .error _, u => Refused w u ∨ ∃ reply, Executed w c reply u
  | w, .insertLease leased, _, u =>
    u = { w with leased := w.leased.insert leased.delivery.deliveryId leased }
  | w, .removeLease deliveryId, found, u =>
    found = w.leased.lookup deliveryId ∧ u = { w with leased := w.leased.erase deliveryId }
  | w, .leases, leases, u => leases = w.leased ∧ u = w
  | w, .catalog c, reply, u =>
    reply = (c.execute w.routes).1 ∧ u = { w with routes := (c.execute w.routes).2 }
  | w, .nowMs, _, u | w, .parse _, _, u => u = w

/-- A command leaves the memory of the adapter alone. -/
theorem memory_of_command {w u : NatsWorld} {c : JetStream.Cmd NatsPayload}
    {answer : Except String c.Reply} (step : nats w (.command c) answer u) :
    u.leased = w.leased ∧ u.routes = w.routes := by
  cases answer with
  | error error =>
    rcases step with ⟨due, rfl⟩ | ⟨reply, due, server, -, rfl⟩
    · exact ⟨rfl, rfl⟩
    · exact ⟨rfl, rfl⟩
  | ok reply =>
    rcases step with ⟨due, server, -, rfl⟩ | ⟨-, due, rfl⟩
    · exact ⟨rfl, rfl⟩
    · exact ⟨rfl, rfl⟩

/-! ## A server that answers -/

/-- A server that executes every command while no time passes. -/
def respond (now : UInt64) (w : NatsWorld) : (op : NatsOp) → op.Answer × NatsWorld
  | .command c =>
    match (w.server.elapse fun _ => false).execute c with
    | some (reply, server) => (.ok reply, { w with server := server })
    | none => (.error "refused", { w with server := w.server.elapse fun _ => false })
  | .nowMs => (now, w)
  | .parse _ => (true, w)
  | .insertLease leased =>
    ((), { w with leased := w.leased.insert leased.delivery.deliveryId leased })
  | .removeLease deliveryId =>
    (w.leased.lookup deliveryId, { w with leased := w.leased.erase deliveryId })
  | .leases => (w.leased, w)
  | .catalog c => ((c.execute w.routes).1, { w with routes := (c.execute w.routes).2 })

theorem respond_allowed (now : UInt64) (w : NatsWorld) (op : NatsOp) :
    nats w op (respond now w op).1 (respond now w op).2 := by
  cases op with
  | command c =>
    rw [respond]
    split
    · next reply server executed => exact .inl ⟨_, server, executed, rfl⟩
    · exact .inl ⟨_, rfl⟩
  | removeLease | leases | catalog => exact ⟨rfl, rfl⟩
  | _ => exact rfl

/-- The world after a program on a server that answers. -/
def after {α : Type} (p : NatsProg α) (w : NatsWorld) : NatsWorld :=
  (p.eval (respond 1000) w).2

theorem exec_after {α : Type} {p : NatsProg α} {w : NatsWorld} {result : AppResult α}
    (returned : (p.eval (respond 1000) w).1 = result) : Exec nats p w result (after p w) :=
  returned ▸ Exec.of_eval (v := id) (respond_allowed 1000) p w

end Nats

end NexusCore.Runtime
