import Mathlib.Data.List.AList
import Mathlib.Data.List.Count
import Mathlib.Logic.Function.Basic
import Mathlib.Tactic.Common

/-!
# An AMQP broker

Queues of messages over an arbitrary type of payloads. A message is ready in its queue, or it
was handed out on a channel under a delivery tag and is not acknowledged. Tags count up from 1
on every channel, and a channel that closes puts its unacknowledged messages back.

A published and confirmed message is stored once, in the queue that its exchange and routing
key are bound to. No command but an acknowledgement makes a stored message go away.
-/

namespace NexusCore.Lib.Amqp

variable {P : Type}

structure Message (P : Type) where
  queue : String
  payload : P
  expiration : Option UInt64

/-- The number that a client returns with an acknowledgement. Which channel has issued it is
for specifications: neither the client nor the broker looks at it. -/
structure DeliveryTag where
  number : Nat
  issuer : Nat
  deriving DecidableEq, Repr

structure Delivery (P : Type) where
  channel : Nat
  tag : Nat
  message : Message P

/-- The broker: its queues with the target of their expired messages, the queue behind every
exchange and routing key, the open channels with the last tag given on each, and the messages. -/
structure Server (P : Type) where
  queues : AList fun _ : String => Option (String × String)
  bindings : AList fun _ : String × String => String
  channels : List Nat
  lastChannel : Nat
  lastTag : Nat → Nat
  ready : List (Message P)
  unacked : List (Delivery P)
  held : ∀ d ∈ unacked, d.channel ∈ channels ∧ d.tag ≤ lastTag d.channel
  unique : (unacked.map fun d => (d.channel, d.tag)).Nodup
  opened : ∀ channel ∈ channels, channel ≤ lastChannel
  untagged : ∀ channel, lastChannel < channel → lastTag channel = 0

/-- What the broker makes of a message that was published with confirms. -/
inductive Confirmation where
  | ack
  | nack
  deriving DecidableEq, Repr

def Confirmation.isNack : Confirmation → Bool
  | .ack => false
  | .nack => true

inductive Cmd (P : Type) where
  | connect
  | createChannel
  | confirmSelect (channel : Nat)
  | exchangeDeclare (channel : Nat) (exchange : String)
  | queueDeclare (channel : Nat) (queue : String) (expired : Option (String × String))
  | queueDeclarePassive (channel : Nat) (queue : String)
  | queueBind (channel : Nat) (queue exchange routingKey : String)
  | basicPublish (channel : Nat) (exchange routingKey : String) (payload : P)
      (expiration : Option UInt64)
  | awaitConfirm (channel : Nat) (exchange routingKey : String) (payload : P)
      (expiration : Option UInt64)
  | basicGet (channel : Nat) (queue : String)
  | basicAck (channel : Nat) (tag : DeliveryTag)

def Cmd.Reply : Cmd P → Type
  | .createChannel | .queueDeclarePassive .. => Nat
  | .basicGet .. => Option (DeliveryTag × P)
  | .awaitConfirm .. => Confirmation
  | .connect | .confirmSelect _ | .exchangeDeclare .. | .queueDeclare .. | .queueBind ..
  | .basicPublish .. | .basicAck .. => Unit

/-- The commands that neither store a message, nor hand one out, nor settle one. -/
def Cmd.IsSetup : Cmd P → Prop
  | .awaitConfirm .. | .basicGet .. | .basicAck .. => False
  | _ => True

namespace Server

/-- A broker that has just been installed. -/
def fresh : Server P where
  queues := ∅
  bindings := ∅
  channels := []
  lastChannel := 0
  lastTag := fun _ => 0
  ready := []
  unacked := []
  held := by simp
  unique := by simp
  opened := by simp
  untagged := by simp

/-- The queue that a message goes to. The exchange without a name knows every queue. -/
def destination (server : Server P) (exchange routingKey : String) : Option String :=
  if exchange = "" then some routingKey else server.bindings.lookup (exchange, routingKey)

/-- Put the unacknowledged messages of a channel back in front of their queues. -/
def close (server : Server P) (channel : Nat) : Server P :=
  { server with
    channels := server.channels.filter (· ≠ channel)
    ready := ((server.unacked.filter (·.channel = channel)).map (·.message)) ++ server.ready
    unacked := server.unacked.filter (·.channel ≠ channel)
    held := by
      intro d mem
      obtain ⟨mem, other⟩ := List.mem_filter.1 mem
      obtain ⟨is_open, bound⟩ := server.held d mem
      exact ⟨List.mem_filter.2 ⟨is_open, other⟩, bound⟩
    unique := server.unique.sublist (List.filter_sublist.map _)
    opened := fun other mem => server.opened other (List.mem_of_mem_filter mem) }

def openChannel (server : Server P) : Server P :=
  { server with
    channels := (server.lastChannel + 1) :: server.channels
    lastChannel := server.lastChannel + 1
    held := fun d mem => ⟨List.mem_cons_of_mem _ (server.held d mem).1, (server.held d mem).2⟩
    opened := by
      intro channel mem
      rcases List.mem_cons.1 mem with rfl | old
      · exact le_rfl
      · exact Nat.le_succ_of_le (server.opened channel old)
    untagged := fun channel later => server.untagged channel (Nat.lt_of_succ_lt later) }

/-- Store a message in its queue; one that no queue is bound for is dropped. -/
def store (server : Server P) (exchange routingKey : String) (payload : P)
    (expiration : Option UInt64) : Server P :=
  match server.destination exchange routingKey with
  | none => server
  | some queue => { server with ready := server.ready ++ [⟨queue, payload, expiration⟩] }

/-- The first message of a queue, and the ready ones without it. -/
def takeFirst (queue : String) : List (Message P) → Option (Message P × List (Message P))
  | [] => none
  | message :: rest =>
    if message.queue = queue then some (message, rest)
    else (takeFirst queue rest).map fun found => (found.1, message :: found.2)

/-- Hand a message out under the next tag of a channel. -/
def handOut (server : Server P) (channel : Nat) (is_open : channel ∈ server.channels)
    (message : Message P) (rest : List (Message P)) : Server P :=
  { server with
    lastTag := Function.update server.lastTag channel (server.lastTag channel + 1)
    ready := rest
    unacked := server.unacked ++ [⟨channel, server.lastTag channel + 1, message⟩]
    held := by
      intro d mem
      rcases List.mem_append.1 mem with old | new
      · obtain ⟨still_open, bound⟩ := server.held d old
        refine ⟨still_open, ?_⟩
        by_cases same : d.channel = channel
        · rw [same] at bound ⊢
          rw [Function.update_self]
          omega
        · rwa [Function.update_of_ne same]
      · rw [List.mem_singleton.1 new]
        simp [is_open]
    unique := by
      rw [List.map_append, List.nodup_append]
      refine ⟨server.unique, by simp, ?_⟩
      intro key old last new same
      obtain ⟨d, mem, rfl⟩ := List.mem_map.1 old
      rw [List.map_singleton, List.mem_singleton] at new
      rw [new] at same
      obtain ⟨channels, tags⟩ := Prod.mk.inj same
      have bound := (server.held d mem).2
      rw [channels, tags] at bound
      exact absurd bound (Nat.not_succ_le_self _)
    untagged := by
      intro other later
      have bound := server.opened channel is_open
      rw [Function.update_of_ne (by omega)]
      exact server.untagged other later }

def settle (server : Server P) (channel tag : Nat) : Server P :=
  { server with
    unacked := server.unacked.filter fun d => ¬ (d.channel = channel ∧ d.tag = tag)
    held := fun d mem => server.held d (List.mem_of_mem_filter mem)
    unique := server.unique.sublist (List.filter_sublist.map _) }

/-- The effect of a command, if the broker accepts it. -/
def execute (server : Server P) : (c : Cmd P) → Option (c.Reply × Server P)
  | .connect => some ((), server)
  | .createChannel => some (server.lastChannel + 1, server.openChannel)
  | .confirmSelect channel | .exchangeDeclare channel _ =>
    if channel ∈ server.channels then some ((), server) else none
  | .basicPublish channel _ _ _ _ =>
    if channel ∈ server.channels then some ((), server) else none
  | .queueDeclare channel queue expired =>
    if channel ∈ server.channels then
      match server.queues.lookup queue with
      | none => some ((), { server with queues := server.queues.insert queue expired })
      | some declared => if declared = expired then some ((), server) else none
    else
      none
  | .queueDeclarePassive channel queue =>
    if channel ∈ server.channels ∧ queue ∈ server.queues then
      some (server.ready.countP fun message => message.queue = queue, server)
    else
      none
  | .queueBind channel queue exchange routingKey =>
    if channel ∈ server.channels ∧ queue ∈ server.queues then
      some ((), { server with bindings := server.bindings.insert (exchange, routingKey) queue })
    else
      none
  | .awaitConfirm channel exchange routingKey payload expiration =>
    if channel ∈ server.channels then
      some (.ack, server.store exchange routingKey payload expiration)
    else
      none
  | .basicGet channel queue =>
    if is_open : channel ∈ server.channels then
      if queue ∈ server.queues then
        match takeFirst queue server.ready with
        | none => some (none, server)
        | some (message, rest) =>
          some (some (⟨server.lastTag channel + 1, channel⟩, message.payload),
            server.handOut channel is_open message rest)
      else
        none
    else
      none
  | .basicAck channel tag =>
    if server.unacked.any fun d => d.channel = channel ∧ d.tag = tag.number then
      some ((), server.settle channel tag.number)
    else
      none

/-- The messages with a property, ready or not acknowledged. -/
def copies (server : Server P) (holds : P → Bool) : Nat :=
  server.ready.countP (holds ·.payload) + server.unacked.countP (holds ·.message.payload)

/-- The messages with a property that a closing channel may put back. -/
def unackedCopies (server : Server P) (holds : P → Bool) : Nat :=
  server.unacked.countP (holds ·.message.payload)

/-- The ready messages with a property. -/
def readyCopies (server : Server P) (holds : P → Bool) : Nat :=
  server.ready.countP (holds ·.payload)

/-- Some queue gets the messages of an exchange and routing key. -/
def Routed (server : Server P) (exchange routingKey : String) : Prop :=
  ∃ queue, server.destination exchange routingKey = some queue

section Copies

variable {server server' : Server P} {holds : P → Bool}

theorem copies_eq (server : Server P) (holds : P → Bool) :
    server.copies holds = server.readyCopies holds + server.unackedCopies holds := rfl

/-- What a closing channel takes from the unacknowledged messages it adds to the ready ones. -/
theorem readyCopies_close (server : Server P) (holds : P → Bool) (channel : Nat) :
    (server.close channel).readyCopies holds + (server.close channel).unackedCopies holds =
      server.readyCopies holds + server.unackedCopies holds := by
  have split := List.countP_eq_countP_filter_add server.unacked
    (fun d => holds d.message.payload) (fun d => decide (d.channel = channel))
  simp only [close, readyCopies, unackedCopies, List.countP_append, List.countP_map]
  simp only [Function.comp_def, ne_eq, decide_not] at split ⊢
  omega

theorem copies_close (channel : Nat) : (server.close channel).copies holds = server.copies holds := by
  rw [copies_eq, copies_eq, readyCopies_close]

theorem unackedCopies_close_le (server : Server P) (holds : P → Bool) (channel : Nat) :
    (server.close channel).unackedCopies holds ≤ server.unackedCopies holds :=
  List.Sublist.countP_le List.filter_sublist

/-- Nothing can be put back when nothing with the property waits for its acknowledgement. -/
theorem readyCopies_close_of_unacked (channel : Nat) (none : server.unackedCopies holds = 0) :
    (server.close channel).readyCopies holds = server.readyCopies holds := by
  have total := readyCopies_close server holds channel
  have fewer := unackedCopies_close_le server holds channel
  omega

/-- Close several channels. -/
def closeAll (server : Server P) (channels : List Nat) : Server P := channels.foldl close server

theorem copies_closeAll (channels : List Nat) :
    (server.closeAll channels).copies holds = server.copies holds := by
  induction channels generalizing server with
  | nil => rfl
  | cons channel rest ih => exact ih.trans (copies_close channel)

theorem unackedCopies_closeAll_le (channels : List Nat) :
    (server.closeAll channels).unackedCopies holds ≤ server.unackedCopies holds := by
  induction channels generalizing server with
  | nil => exact le_rfl
  | cons channel rest ih => exact le_trans ih (unackedCopies_close_le server holds channel)

theorem bindings_closeAll (server : Server P) (channels : List Nat) :
    (server.closeAll channels).bindings = server.bindings := by
  induction channels generalizing server with
  | nil => rfl
  | cons channel rest ih => exact ih _

theorem copies_store {exchange routingKey queue : String} {payload : P}
    {expiration : Option UInt64} (bound : server.destination exchange routingKey = some queue) :
    (server.store exchange routingKey payload expiration).copies holds =
      server.copies holds + if holds payload then 1 else 0 := by
  simp only [store, bound, copies, List.countP_append, List.countP_singleton]
  omega

theorem unackedCopies_store {exchange routingKey : String} {payload : P}
    {expiration : Option UInt64} :
    (server.store exchange routingKey payload expiration).unackedCopies holds =
      server.unackedCopies holds := by
  rw [store]
  split <;> rfl

end Copies

section Setup

variable {server server' : Server P}

theorem routed_closeAll {channels : List Nat} {exchange routingKey : String}
    (routed : server.Routed exchange routingKey) :
    (server.closeAll channels).Routed exchange routingKey := by
  rw [Routed, destination, bindings_closeAll]
  exact routed

/-- Another binding takes none away. -/
theorem routed_bind {exchange routingKey queue : String} {key : String × String}
    (routed : server.Routed exchange routingKey) :
    ({ server with bindings := server.bindings.insert key queue } : Server P).Routed
      exchange routingKey := by
  obtain ⟨old, bound⟩ := routed
  simp only [destination] at bound
  simp only [Routed, destination]
  split_ifs at bound ⊢ with default
  · exact ⟨_, rfl⟩
  · by_cases same : (exchange, routingKey) = key
    · exact ⟨queue, by rw [same, AList.lookup_insert]⟩
    · exact ⟨old, by rw [AList.lookup_insert_ne same, bound]⟩

theorem routed_store {exchange routingKey exchange' routingKey' : String} {payload : P}
    {expiration : Option UInt64} (routed : server.Routed exchange routingKey) :
    (server.store exchange' routingKey' payload expiration).Routed exchange routingKey := by
  rw [store]
  split <;> exact routed

/-- A command that neither stores a message, nor hands one out, nor settles one leaves the
messages and the routing as they are. -/
theorem execute_setup {c : Cmd P} {reply : c.Reply}
    (done : server.execute c = some (reply, server')) (setup : c.IsSetup) :
    server'.ready = server.ready ∧ server'.unacked = server.unacked ∧
      ∀ exchange routingKey, server.Routed exchange routingKey →
        server'.Routed exchange routingKey := by
  cases c with
  | awaitConfirm | basicGet | basicAck => exact setup.elim
  | connect =>
    cases done
    exact ⟨rfl, rfl, fun _ _ routed => routed⟩
  | createChannel =>
    cases done
    exact ⟨rfl, rfl, fun _ _ routed => routed⟩
  | confirmSelect | exchangeDeclare | basicPublish | queueDeclarePassive =>
    simp only [execute] at done
    split_ifs at done
    cases done
    exact ⟨rfl, rfl, fun _ _ routed => routed⟩
  | queueDeclare =>
    simp only [execute] at done
    split_ifs at done
    split at done
    · cases done
      exact ⟨rfl, rfl, fun _ _ routed => routed⟩
    · split_ifs at done
      cases done
      exact ⟨rfl, rfl, fun _ _ routed => routed⟩
  | queueBind =>
    simp only [execute] at done
    split_ifs at done
    cases done
    exact ⟨rfl, rfl, fun _ _ routed => routed_bind routed⟩

/-- A queue that is bound gets the messages. -/
theorem queueBind_routed {channel : Nat} {queue exchange routingKey : String} {reply : Unit}
    (done : server.execute (.queueBind channel queue exchange routingKey) =
      some (reply, server')) : server'.Routed exchange routingKey := by
  simp only [execute] at done
  split_ifs at done
  cases done
  simp only [Routed, destination]
  split_ifs
  · exact ⟨_, rfl⟩
  · exact ⟨queue, AList.lookup_insert _⟩

/-- A publication that is carried out is confirmed with an ack. -/
theorem awaitConfirm_stores {channel : Nat} {exchange routingKey : String} {payload : P}
    {expiration : Option UInt64} {reply : Confirmation}
    (done : server.execute (.awaitConfirm channel exchange routingKey payload expiration) =
      some (reply, server')) :
    server' = server.store exchange routingKey payload expiration ∧ reply = .ack := by
  simp only [execute] at done
  split_ifs at done
  cases done
  exact ⟨rfl, rfl⟩

end Setup

end Server

end NexusCore.Lib.Amqp
