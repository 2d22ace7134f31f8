import NexusCore.Lib.JetStream
import NexusCore.Lib.Keyed

/-!
# What a JetStream server keeps

The payloads of both streams, whatever their standing. Only an acknowledgement and a deletion take
one away, and only the one that has their number. A number is given to one message, so what was seen
under a number is what is there, as long as there is something.
-/

namespace NexusCore.Lib.JetStream

/-- The commands that neither store a payload nor take one away. -/
def Cmd.Spares {P : Type} : Cmd P → Prop
  | .awaitConfirm .. | .ack _ | .deleteLogged _ => False
  | _ => True

namespace Server

variable {P : Type} {server t : Server P} {n : Nat}

/-- The payloads of both streams. -/
def contents (server : Server P) : Multiset P :=
  ↑(server.work.map (·.payload)) + ↑(server.log.map (·.2))

/-- What is in the work queue under a number that has been given. -/
structure Holds (server : Server P) (n : Nat) (Q : P → Prop) : Prop where
  given : n ≤ server.lastSequence
  fits : ∀ m ∈ server.work, m.sequence = n → Q m.payload

/-- What is in the collecting stream under a number that has been given. -/
structure Logs (server : Server P) (n : Nat) (Q : P → Prop) : Prop where
  given : n ≤ server.lastLogged
  fits : ∀ m ∈ server.log, m.1 = n → Q m.2

section Contents

@[simp] theorem contents_restand (change : Message P → Nat × Standing) :
    (server.restand change).contents = server.contents := by
  simp [contents, restand, Function.comp_def]

@[simp] theorem contents_elapse (due : Nat → Bool) :
    (server.elapse due).contents = server.contents :=
  contents_restand _

theorem contents_store (subject : String) (payload : P) :
    (server.store subject payload).contents = payload ::ₘ server.contents := by
  unfold contents store
  split_ifs
  · simp only [List.map_append, List.map_singleton, ← Multiset.coe_add, Multiset.coe_singleton,
      ← Multiset.singleton_add]
    abel
  · simp only [List.map_append, List.map_singleton, ← Multiset.coe_add, Multiset.coe_singleton,
      ← Multiset.singleton_add]
    abel

theorem contents_execute {c : Cmd P} {reply : c.Reply} (spares : c.Spares)
    (executed : server.execute c = some (reply, t)) : t.contents = server.contents := by
  cases c with
  | getOrCreateConsumer name filter =>
    rw [execute] at executed
    split at executed
    all_goals
      cases executed
      rfl
  | publish | logInfo | getLogged =>
    cases executed
    rfl
  | awaitConfirm | ack | deleteLogged => exact spares.elim
  | fetch consumer =>
    rw [execute] at executed
    split at executed
    · cases executed
    · split at executed
      · cases executed
        rfl
      · cases executed
        exact contents_restand _
  | nak sequence delayMs =>
    cases executed
    exact contents_restand _
  | consumerInfo consumer =>
    rw [execute] at executed
    split at executed
    · cases executed
    · cases executed
      rfl

variable {α : Type} {f : P → α} {a : α}

/-- An acknowledgement takes away what was seen under its number. -/
theorem Holds.contents_remove (holds : server.Holds n (f · = a)) :
    server.contents.map f ≤ a ::ₘ (server.remove n).contents.map f := by
  have fewer := map_le_cons_filter server.unique (f := fun m => f m.payload) holds.fits
  simp only [contents, remove, Multiset.map_add, Multiset.map_coe, List.map_map,
    Function.comp_def] at fewer ⊢
  rw [← Multiset.cons_add]
  exact add_le_add_left fewer _

theorem Logs.contents_removeLogged (logs : server.Logs n (f · = a)) :
    server.contents.map f ≤ a ::ₘ (server.removeLogged n).contents.map f := by
  have fewer := map_le_cons_filter server.logUnique (f := fun m => f m.2) logs.fits
  simp only [contents, removeLogged, Multiset.map_add, Multiset.map_coe, List.map_map,
    Function.comp_def] at fewer ⊢
  rw [← Multiset.add_cons]
  exact add_le_add_right fewer _

end Contents

section Numbers

variable {Q : P → Prop}

theorem Holds.mono {Q' : P → Prop} (holds : server.Holds n Q) (weaker : ∀ p, Q p → Q' p) :
    server.Holds n Q' :=
  ⟨holds.given, fun m mem same => weaker _ (holds.fits m mem same)⟩

theorem Logs.mono {Q' : P → Prop} (logs : server.Logs n Q) (weaker : ∀ p, Q p → Q' p) :
    server.Logs n Q' :=
  ⟨logs.given, fun m mem same => weaker _ (logs.fits m mem same)⟩

theorem Holds.restand (holds : server.Holds n Q) (change : Message P → Nat × Standing) :
    (server.restand change).Holds n Q where
  given := holds.given
  fits m mem same := by
    obtain ⟨old, here, rfl⟩ := List.mem_map.1 mem
    exact holds.fits old here same

theorem Logs.restand (logs : server.Logs n Q) (change : Message P → Nat × Standing) :
    (server.restand change).Logs n Q :=
  ⟨logs.given, logs.fits⟩

theorem Holds.store (holds : server.Holds n Q) (subject : String) (payload : P) :
    (server.store subject payload).Holds n Q := by
  unfold Server.store
  split_ifs
  · exact ⟨holds.given, holds.fits⟩
  · refine ⟨Nat.le_succ_of_le holds.given, ?_⟩
    intro m mem same
    rcases List.mem_append.1 mem with old | new
    · exact holds.fits m old same
    · obtain rfl := List.mem_singleton.1 new
      have given := holds.given
      dsimp only at same
      omega

theorem Logs.store (logs : server.Logs n Q) (subject : String) (payload : P) :
    (server.store subject payload).Logs n Q := by
  unfold Server.store
  split_ifs
  · refine ⟨Nat.le_succ_of_le logs.given, ?_⟩
    intro m mem same
    rcases List.mem_append.1 mem with old | new
    · exact logs.fits m old same
    · obtain rfl := List.mem_singleton.1 new
      have given := logs.given
      dsimp only at same
      omega
  · exact ⟨logs.given, logs.fits⟩

/-- What was seen under a number stays true. -/
theorem Holds.execute {c : Cmd P} {reply : c.Reply} (holds : server.Holds n Q)
    (executed : server.execute c = some (reply, t)) : t.Holds n Q := by
  cases c with
  | getOrCreateConsumer name filter =>
    rw [Server.execute] at executed
    split at executed
    all_goals
      cases executed
      exact ⟨holds.given, holds.fits⟩
  | publish | logInfo | getLogged =>
    cases executed
    exact holds
  | awaitConfirm subject payload =>
    cases executed
    exact holds.store subject payload
  | fetch consumer =>
    rw [Server.execute] at executed
    split at executed
    · cases executed
    · split at executed
      · cases executed
        exact holds
      · cases executed
        exact holds.restand _
  | ack sequence =>
    cases executed
    exact ⟨holds.given, fun m mem => holds.fits m (List.mem_of_mem_filter mem)⟩
  | nak sequence delayMs =>
    cases executed
    exact holds.restand _
  | deleteLogged sequence =>
    rw [Server.execute] at executed
    split_ifs at executed
    cases executed
    exact ⟨holds.given, holds.fits⟩
  | consumerInfo consumer =>
    rw [Server.execute] at executed
    split at executed
    · cases executed
    · cases executed
      exact holds

theorem Logs.execute {c : Cmd P} {reply : c.Reply} (logs : server.Logs n Q)
    (executed : server.execute c = some (reply, t)) : t.Logs n Q := by
  cases c with
  | getOrCreateConsumer name filter =>
    rw [Server.execute] at executed
    split at executed
    all_goals
      cases executed
      exact ⟨logs.given, logs.fits⟩
  | publish | logInfo | getLogged =>
    cases executed
    exact logs
  | awaitConfirm subject payload =>
    cases executed
    exact logs.store subject payload
  | fetch consumer =>
    rw [Server.execute] at executed
    split at executed
    · cases executed
    · split at executed
      all_goals
        cases executed
        exact ⟨logs.given, logs.fits⟩
  | ack sequence | nak sequence delayMs =>
    cases executed
    exact ⟨logs.given, logs.fits⟩
  | deleteLogged sequence =>
    rw [Server.execute] at executed
    split_ifs at executed
    cases executed
    exact ⟨logs.given, fun m mem => logs.fits m (List.mem_of_mem_filter mem)⟩
  | consumerInfo consumer =>
    rw [Server.execute] at executed
    split at executed
    · cases executed
    · cases executed
      exact logs

theorem eq_of_sequence {m other : Message P} (mem : m ∈ server.work) (there : other ∈ server.work)
    (same : m.sequence = other.sequence) : m = other :=
  List.inj_on_of_nodup_map server.unique mem there same

theorem eq_of_logged {m other : Nat × P} (mem : m ∈ server.log) (there : other ∈ server.log)
    (same : m.1 = other.1) : m = other :=
  List.inj_on_of_nodup_map server.logUnique mem there same

/-- A fetch shows what is under the number of the message. -/
theorem holds_of_fetch {consumer : String} {delivered : Delivered P}
    (executed : server.execute (.fetch consumer) = some (some delivered, t)) :
    t.Holds delivered.streamSequence (· = delivered.payload) := by
  rw [Server.execute] at executed
  split at executed
  · cases executed
  · next filter known =>
    split at executed
    · cases executed
    · next m found =>
      cases executed
      have mem := List.mem_of_find?_eq_some found
      have here : server.Holds m.sequence (· = m.payload) := by
        refine ⟨server.numbered m mem, ?_⟩
        intro other there same
        rw [eq_of_sequence there mem same]
      exact here.restand _

/-- A stored message shows what is under its number. -/
theorem logs_of_getLogged {payload : P}
    (executed : server.execute (.getLogged n) = some (some payload, t)) :
    t.Logs n (· = payload) := by
  obtain ⟨found, rfl⟩ := Prod.mk.inj (Option.some.inj executed)
  obtain ⟨m, looked, rfl⟩ := Option.map_eq_some_iff.1 found
  have mem := List.mem_of_find?_eq_some looked
  have number : m.1 = n := by simpa using List.find?_some looked
  refine ⟨number ▸ server.logNumbered m mem, ?_⟩
  intro other there same
  rw [eq_of_logged there mem (same.trans number.symm)]

end Numbers

end Server

end NexusCore.Lib.JetStream
