import NexusCore.Lib.Program
import NexusCore.Runtime.Broker.Routes

/-!
# Replaying a dead letter

Every broker replays a dead letter in the same three steps: find the record, publish its task
as a new one, and remove the record. The steps themselves are the broker's own.
-/

namespace NexusCore.Runtime

open NexusCore.Lib

structure DeadLetterReplay (Topology Stored : Type) where
  topology : Topology
  record : RuntimeDeadLetterRecord
  stored : Stored

/-- The part of a broker that keeps dead letters. -/
structure BrokerDeadLetterStore (Cmd : Type) (Resp : Cmd → Type) (Topology Stored : Type) where
  findDeadLetterForReplay :
    String → Prog Cmd Resp AppError (Option (DeadLetterReplay Topology Stored))
  removeReplayedDeadLetter : DeadLetterReplay Topology Stored → Prog Cmd Resp AppError Unit

def buildReplayReceipt (record : RuntimeDeadLetterRecord) : RuntimeQueueReceipt :=
  record.task.queuedReceipt

def replayDeadLetterWithStore {Cmd : Type} {Resp : Cmd → Type} {Topology Stored : Type}
    (store : BrokerDeadLetterStore Cmd Resp Topology Stored) (deliveryId : String)
    (publishReplay : Topology → RuntimeDeadLetterRecord → Prog Cmd Resp AppError Unit) :
    Prog Cmd Resp AppError RuntimeQueueReceipt := do
  let found ← store.findDeadLetterForReplay deliveryId
  match found with
  | none => throw (deadLetterNotFound deliveryId)
  | some replay => do
    publishReplay replay.topology replay.record
    store.removeReplayedDeadLetter replay
    pure (buildReplayReceipt replay.record)

end NexusCore.Runtime
