import Mathlib.Data.List.AList
import Mathlib.Tactic.Common

/-!
# A JetStream server

One work-queue stream, one stream that only collects, and durable pull consumers, over an
arbitrary type of payloads. A subject belongs to the collecting stream or to the work queue.

A message of the work queue is ready, or outstanding at the consumer that it was handed to, or
waits for a delay that the consumer asked for. It stays until it is acknowledged, and the server
counts how often it was handed out. Time makes outstanding and waiting messages ready again.
-/

namespace NexusCore.Lib.JetStream

variable {P : Type}

inductive Standing where
  | ready
  | outstanding
  | waiting
  deriving DecidableEq, Repr

structure Message (P : Type) where
  sequence : Nat
  subject : String
  payload : P
  delivered : Nat
  standing : Standing

/-- What a consumer is handed. -/
structure Delivered (P : Type) where
  streamSequence : Nat
  delivered : Nat
  payload : P

structure LogState where
  messages : Nat
  firstSequence : Nat
  lastSequence : Nat

structure Server (P : Type) where
  isLogged : String → Bool
  consumers : AList fun _ : String => String
  work : List (Message P)
  lastSequence : Nat
  log : List (Nat × P)
  lastLogged : Nat
  numbered : ∀ m ∈ work, m.sequence ≤ lastSequence
  unique : (work.map (·.sequence)).Nodup
  logNumbered : ∀ m ∈ log, m.1 ≤ lastLogged
  logUnique : (log.map (·.1)).Nodup

inductive Cmd (P : Type) where
  | getOrCreateConsumer (name filter : String)
  | publish (subject : String) (payload : P)
  | awaitConfirm (subject : String) (payload : P)
  | fetch (consumer : String)
  | ack (sequence : Nat)
  | nak (sequence : Nat) (delayMs : UInt64)
  | logInfo
  | getLogged (sequence : Nat)
  | deleteLogged (sequence : Nat)
  | consumerInfo (consumer : String)

def Cmd.Reply : Cmd P → Type
  | .fetch _ => Option (Delivered P)
  | .logInfo => LogState
  | .getLogged _ => Option P
  | .consumerInfo _ => Nat
  | .getOrCreateConsumer .. | .publish .. | .awaitConfirm .. | .ack _ | .nak .. | .deleteLogged _ =>
    Unit

namespace Server

/-- A server with two empty streams. -/
def fresh (isLogged : String → Bool) : Server P where
  isLogged := isLogged
  consumers := ∅
  work := []
  lastSequence := 0
  log := []
  lastLogged := 0
  numbered := by simp
  unique := by simp
  logNumbered := by simp
  logUnique := by simp

/-- Change the standing of some messages and how often they were delivered. -/
def restand (server : Server P) (change : Message P → Nat × Standing) : Server P :=
  { server with
    work := server.work.map fun m => { m with delivered := (change m).1, standing := (change m).2 }
    numbered := by
      intro m mem
      obtain ⟨old, here, rfl⟩ := List.mem_map.1 mem
      exact server.numbered old here
    unique := by
      rw [List.map_map]
      exact server.unique }

/-- Time passes: messages for which it is time become ready. -/
def elapse (server : Server P) (due : Nat → Bool) : Server P :=
  server.restand fun m => (m.delivered, if due m.sequence then .ready else m.standing)

/-- Store a published message in the stream of its subject. -/
def store (server : Server P) (subject : String) (payload : P) : Server P :=
  if server.isLogged subject then
    { server with
      log := server.log ++ [(server.lastLogged + 1, payload)]
      lastLogged := server.lastLogged + 1
      logNumbered := by
        intro m mem
        rcases List.mem_append.1 mem with old | new
        · exact Nat.le_succ_of_le (server.logNumbered m old)
        · rw [List.mem_singleton.1 new]
      logUnique := by
        rw [List.map_append, List.nodup_append]
        refine ⟨server.logUnique, by simp, ?_⟩
        intro sequence old last new same
        obtain ⟨m, mem, rfl⟩ := List.mem_map.1 old
        have bound := server.logNumbered m mem
        rw [List.map_singleton, List.mem_singleton] at new
        omega }
  else
    { server with
      work := server.work ++ [⟨server.lastSequence + 1, subject, payload, 0, .ready⟩]
      lastSequence := server.lastSequence + 1
      numbered := by
        intro m mem
        rcases List.mem_append.1 mem with old | new
        · exact Nat.le_succ_of_le (server.numbered m old)
        · rw [List.mem_singleton.1 new]
      unique := by
        rw [List.map_append, List.nodup_append]
        refine ⟨server.unique, by simp, ?_⟩
        intro sequence old last new same
        obtain ⟨m, mem, rfl⟩ := List.mem_map.1 old
        have bound := server.numbered m mem
        rw [List.map_singleton, List.mem_singleton] at new
        dsimp only at new
        omega }

/-- The first message that a consumer with a filter may be handed. -/
def firstReady (server : Server P) (filter : String) : Option (Message P) :=
  server.work.find? fun m => m.subject = filter ∧ m.standing = .ready

def handOut (server : Server P) (sequence : Nat) : Server P :=
  server.restand fun m =>
    if m.sequence = sequence then (m.delivered + 1, .outstanding) else (m.delivered, m.standing)

/-- Settle a message for good. -/
def remove (server : Server P) (sequence : Nat) : Server P :=
  { server with
    work := server.work.filter (·.sequence ≠ sequence)
    numbered := fun m mem => server.numbered m (List.mem_of_mem_filter mem)
    unique := server.unique.sublist (List.filter_sublist.map _) }

/-- Give an outstanding message back for a later delivery. -/
def giveBack (server : Server P) (sequence : Nat) : Server P :=
  server.restand fun m =>
    (m.delivered, if m.sequence = sequence ∧ m.standing = .outstanding then .waiting
      else m.standing)

def removeLogged (server : Server P) (sequence : Nat) : Server P :=
  { server with
    log := server.log.filter (·.1 ≠ sequence)
    logNumbered := fun m mem => server.logNumbered m (List.mem_of_mem_filter mem)
    logUnique := server.logUnique.sublist (List.filter_sublist.map _) }

def logState (server : Server P) : LogState where
  messages := server.log.length
  firstSequence := (server.log.head?.map (·.1)).getD (server.lastLogged + 1)
  lastSequence := server.lastLogged

/-- The effect of a command, if the server accepts it. A consumer that exists keeps its filter. -/
def execute (server : Server P) : (c : Cmd P) → Option (c.Reply × Server P)
  | .getOrCreateConsumer name filter =>
    match server.consumers.lookup name with
    | some _ => some ((), server)
    | none => some ((), { server with consumers := server.consumers.insert name filter })
  | .publish .. => some ((), server)
  | .awaitConfirm subject payload => some ((), server.store subject payload)
  | .fetch consumer =>
    match server.consumers.lookup consumer with
    | none => none
    | some filter =>
      match server.firstReady filter with
      | none => some (none, server)
      | some m => some (some ⟨m.sequence, m.delivered + 1, m.payload⟩, server.handOut m.sequence)
  | .ack sequence => some ((), server.remove sequence)
  | .nak sequence _ => some ((), server.giveBack sequence)
  | .logInfo => some (server.logState, server)
  | .getLogged sequence => some ((server.log.find? (·.1 = sequence)).map (·.2), server)
  | .deleteLogged sequence =>
    if server.log.any (·.1 = sequence) then some ((), server.removeLogged sequence) else none
  | .consumerInfo consumer =>
    match server.consumers.lookup consumer with
    | none => none
    | some filter =>
      some (server.work.countP fun m => m.subject = filter ∧ m.delivered = 0, server)

end Server

end NexusCore.Lib.JetStream
