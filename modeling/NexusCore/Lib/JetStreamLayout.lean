import NexusCore.Lib.JetStream
import NexusCore.Lib.Keyed

/-!
# Where the messages of a JetStream server may lie

A layout says which payloads a subject may hold and which subject a consumer may read. A server that
is asked for nothing against its layout stays laid out, and a consumer is handed only what may lie
under a subject that it may read.
-/

namespace NexusCore.Lib.JetStream

structure Layout (P : Type) where
  home : String → P → Prop
  reads : String → String → Prop

namespace Layout

variable {P : Type}

/-- The commands that keep to a layout. -/
def Allows (layout : Layout P) : Cmd P → Prop
  | .getOrCreateConsumer name filter => layout.reads name filter
  | .publish subject payload | .awaitConfirm subject payload => layout.home subject payload
  | _ => True

end Layout

namespace Server

variable {P : Type} {layout : Layout P} {server t : Server P}

/-- The messages and the consumers are those of the layout. -/
structure LaidOut (layout : Layout P) (server : Server P) : Prop where
  work : ∀ m ∈ server.work, layout.home m.subject m.payload
  log : ∀ m ∈ server.log, ∃ subject, layout.home subject m.2
  consumers : ∀ name filter, server.consumers.lookup name = some filter → layout.reads name filter

theorem laidOut_fresh (isLogged : String → Bool) :
    (fresh isLogged : Server P).LaidOut layout where
  work m mem := nomatch mem
  log m mem := nomatch mem
  consumers name filter found := by
    rw [fresh, AList.lookup_empty] at found
    cases found

theorem LaidOut.restand (laid : server.LaidOut layout) (change : Message P → Nat × Standing) :
    (server.restand change).LaidOut layout where
  work m mem := by
    obtain ⟨old, here, rfl⟩ := List.mem_map.1 mem
    exact laid.work old here
  log := laid.log
  consumers := laid.consumers

theorem LaidOut.elapse (laid : server.LaidOut layout) (due : Nat → Bool) :
    (server.elapse due).LaidOut layout :=
  laid.restand _

theorem LaidOut.store {subject : String} {payload : P} (laid : server.LaidOut layout)
    (home : layout.home subject payload) : (server.store subject payload).LaidOut layout := by
  unfold Server.store
  split_ifs
  · refine ⟨laid.work, ?_, laid.consumers⟩
    rw [List.forall_mem_append, List.forall_mem_singleton]
    exact ⟨laid.log, subject, home⟩
  · refine ⟨?_, laid.log, laid.consumers⟩
    rw [List.forall_mem_append, List.forall_mem_singleton]
    exact ⟨laid.work, home⟩

theorem LaidOut.execute {c : Cmd P} {reply : c.Reply} (laid : server.LaidOut layout)
    (allowed : layout.Allows c) (executed : server.execute c = some (reply, t)) :
    t.LaidOut layout := by
  cases c with
  | getOrCreateConsumer name filter =>
    rw [Server.execute] at executed
    split at executed
    · cases executed
      exact laid
    · cases executed
      refine ⟨laid.work, laid.log, ?_⟩
      intro other subject found
      rcases of_lookup_insert found with ⟨rfl, rfl⟩ | ⟨-, old⟩
      · exact allowed
      · exact laid.consumers other subject old
  | publish | logInfo | getLogged =>
    cases executed
    exact laid
  | awaitConfirm subject payload =>
    cases executed
    exact laid.store allowed
  | fetch consumer =>
    rw [Server.execute] at executed
    split at executed
    · cases executed
    · split at executed
      · cases executed
        exact laid
      · cases executed
        exact laid.restand _
  | ack sequence =>
    cases executed
    exact ⟨fun m mem => laid.work m (List.mem_of_mem_filter mem), laid.log, laid.consumers⟩
  | nak sequence delayMs =>
    cases executed
    exact laid.restand _
  | deleteLogged sequence =>
    rw [Server.execute] at executed
    split_ifs at executed
    cases executed
    exact ⟨laid.work, fun m mem => laid.log m (List.mem_of_mem_filter mem), laid.consumers⟩
  | consumerInfo consumer =>
    rw [Server.execute] at executed
    split at executed
    · cases executed
    · cases executed
      exact laid

/-- A consumer is handed what may lie under its subject. -/
theorem LaidOut.home_of_fetch {consumer : String} {delivered : Delivered P}
    (laid : server.LaidOut layout)
    (executed : server.execute (.fetch consumer) = some (some delivered, t)) :
    ∃ subject, layout.reads consumer subject ∧ layout.home subject delivered.payload := by
  rw [Server.execute] at executed
  split at executed
  · cases executed
  · next filter known =>
    split at executed
    · cases executed
    · next m found =>
      cases executed
      have mem := List.mem_of_find?_eq_some found
      have ready := List.find?_some found
      obtain ⟨subject, -⟩ : m.subject = filter ∧ m.standing = .ready := of_decide_eq_true ready
      exact ⟨filter, laid.consumers consumer filter known, subject ▸ laid.work m mem⟩

theorem LaidOut.home_of_getLogged {sequence : Nat} {payload : P} (laid : server.LaidOut layout)
    (executed : server.execute (.getLogged sequence) = some (some payload, t)) :
    ∃ subject, layout.home subject payload := by
  obtain ⟨found, rfl⟩ := Prod.mk.inj (Option.some.inj executed)
  obtain ⟨m, looked, rfl⟩ := Option.map_eq_some_iff.1 found
  exact laid.log m (List.mem_of_find?_eq_some looked)

end Server

end NexusCore.Lib.JetStream
