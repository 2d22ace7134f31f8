import NexusCore.Lib.AmqpContents
import NexusCore.Lib.AmqpTags

/-!
# Expired messages

A message whose time is over leaves its queue for the target of the queue's expired messages, and
is dropped where the queue has none. Nothing is dropped as long as only one exchange takes messages
that expire, that exchange leads to queues with a target, and every target is bound.
-/

namespace NexusCore.Lib.Amqp

/-- The commands that neither store a message nor settle one. -/
def Cmd.Spares {P : Type} : Cmd P → Prop
  | .awaitConfirm .. | .basicAck .. => False
  | _ => True

namespace Server

variable {P : Type} {server server' : Server P} {exchange routingKey queue : String} {c : Cmd P}

/-- What is stored, wherever it is. -/
def payloads (server : Server P) : Multiset P := server.contents.map (·.2)

/-- A queue has a target for its expired messages. -/
def Forwards (server : Server P) (queue : String) : Prop :=
  ∃ target, server.queues.lookup queue = some (some target)

/-- The time of a ready message is over. -/
def expire (server : Server P) (i : Nat) : Server P :=
  match server.ready[i]? with
  | none => server
  | some message =>
    if message.expiration.isSome then
      match server.queues.lookup message.queue with
      | some (some (exchange, routingKey)) =>
        { server with ready := server.ready.eraseIdx i }.store exchange routingKey message.payload none
      | some none | none => { server with ready := server.ready.eraseIdx i }
    else
      server

/-- The messages that are stored. -/
def messages (server : Server P) : List (Message P) := server.ready ++ server.unacked.map (·.message)

/-- Whatever expires is forwarded to a queue. -/
structure Delays (server : Server P) (exchange : String) : Prop where
  targets : ∀ queue target, server.queues.lookup queue = some (some target) →
    server.Routed target.1 target.2
  bound : ∀ routingKey queue, server.bindings.lookup (exchange, routingKey) = some queue →
    server.Forwards queue
  waiting : ∀ message ∈ server.messages, message.expiration.isSome → server.Forwards message.queue

/-- A command that keeps it so. -/
def Minds (server : Server P) (exchange : String) : Cmd P → Prop
  | .queueDeclare _ _ (some target) => server.Routed target.1 target.2
  | .queueBind _ queue bound _ => bound = exchange → server.Forwards queue
  | .awaitConfirm _ bound _ _ expiration => expiration.isSome → bound = exchange
  | _ => True

/-- What is declared and bound stays so. -/
structure Wider (server server' : Server P) : Prop where
  routed : ∀ exchange routingKey, server.Routed exchange routingKey → server'.Routed exchange routingKey
  forwards : ∀ queue, server.Forwards queue → server'.Forwards queue

section Wider

theorem Wider.refl (server : Server P) : server.Wider server := ⟨fun _ _ => id, fun _ => id⟩

theorem Wider.trans {server'' : Server P} (first : server.Wider server')
    (second : server'.Wider server'') : server.Wider server'' where
  routed := fun _ _ routed => second.routed _ _ (first.routed _ _ routed)
  forwards := fun _ forwards => second.forwards _ (first.forwards _ forwards)

theorem wider_of_same (queues : server'.queues = server.queues)
    (bindings : server'.bindings = server.bindings) : server.Wider server' where
  routed exchange routingKey routed := by
    rwa [Routed, destination, bindings]
  forwards queue forwards := by
    rwa [Forwards, queues]

theorem queues_store (server : Server P) (exchange routingKey : String) (payload : P)
    (expiration : Option UInt64) :
    (server.store exchange routingKey payload expiration).queues = server.queues ∧
      (server.store exchange routingKey payload expiration).bindings = server.bindings := by
  rw [store]
  split <;> exact ⟨rfl, rfl⟩

theorem queues_closeAll (server : Server P) (channels : List Nat) :
    (server.closeAll channels).queues = server.queues := by
  induction channels generalizing server with
  | nil => rfl
  | cons channel rest ih => exact ih _

theorem wider_closeAll (server : Server P) (channels : List Nat) :
    server.Wider (server.closeAll channels) :=
  wider_of_same (queues_closeAll server channels) (bindings_closeAll server channels)

theorem wider_of_execute {reply : c.Reply} (done : server.execute c = some (reply, server')) :
    server.Wider server' := by
  cases c with
  | connect | createChannel =>
    cases done
    exact wider_of_same rfl rfl
  | confirmSelect | exchangeDeclare | basicPublish | queueDeclarePassive | basicAck =>
    simp only [execute] at done
    split_ifs at done
    cases done
    exact wider_of_same rfl rfl
  | queueDeclare channel queue expired =>
    simp only [execute] at done
    split_ifs at done
    split at done
    · next absent =>
      cases done
      refine ⟨fun _ _ => id, fun other forwards => ?_⟩
      obtain ⟨target, found⟩ := forwards
      have ne : other ≠ queue := by
        rintro rfl
        rw [absent] at found
        cases found
      exact ⟨target, by rw [AList.lookup_insert_ne ne, found]⟩
    · split_ifs at done
      cases done
      exact .refl _
  | queueBind channel queue exchange routingKey =>
    simp only [execute] at done
    split_ifs at done
    cases done
    exact ⟨fun _ _ routed => routed_bind routed, fun _ => id⟩
  | awaitConfirm channel exchange routingKey payload expiration =>
    obtain ⟨rfl, -⟩ := awaitConfirm_stores done
    obtain ⟨queues, bindings⟩ := queues_store server exchange routingKey payload expiration
    exact wider_of_same queues bindings
  | basicGet channel queue =>
    simp only [execute] at done
    split_ifs at done
    split at done <;> cases done
    · exact .refl _
    · exact wider_of_same rfl rfl

/-- A queue that is declared with a target has one. -/
theorem queueDeclare_forwards {channel : Nat} {target : String × String} {reply : Unit}
    (done : server.execute (.queueDeclare channel queue (some target)) = some (reply, server')) :
    server'.Forwards queue := by
  simp only [execute] at done
  split_ifs at done
  split at done
  · cases done
    exact ⟨target, AList.lookup_insert _⟩
  · next declared found =>
    split_ifs at done with same
    cases done
    exact ⟨target, found.trans (congrArg some same)⟩

end Wider

section Delays

theorem messages_close (server : Server P) (channel : Nat) :
    (server.close channel).messages ⊆ server.messages := by
  intro message mem
  simp only [messages, close, List.mem_append, List.mem_map, List.mem_filter] at mem ⊢
  grind

theorem messages_closeAll (server : Server P) (channels : List Nat) :
    (server.closeAll channels).messages ⊆ server.messages := by
  induction channels generalizing server with
  | nil => exact List.Subset.refl _
  | cons channel rest ih => exact List.Subset.trans (ih _) (messages_close server channel)

/-- With nothing else stored, declared or bound, everything is still forwarded. -/
theorem Delays.of_same (delays : server.Delays exchange) (queues : server'.queues = server.queues)
    (bindings : server'.bindings = server.bindings)
    (messages : server'.messages ⊆ server.messages) : server'.Delays exchange := by
  have wider := wider_of_same queues bindings
  refine ⟨?_, ?_, ?_⟩
  · intro queue target found
    rw [queues] at found
    exact wider.routed _ _ (delays.targets queue target found)
  · intro routingKey queue found
    rw [bindings] at found
    exact wider.forwards _ (delays.bound routingKey queue found)
  · intro message mem expires
    exact wider.forwards _ (delays.waiting message (messages mem) expires)

theorem Delays.closeAll (delays : server.Delays exchange) (channels : List Nat) :
    (server.closeAll channels).Delays exchange :=
  delays.of_same (queues_closeAll server channels) (bindings_closeAll server channels)
    (messages_closeAll server channels)

theorem mem_messages_store {payload : P} {expiration : Option UInt64} {message : Message P}
    (mem : message ∈ (server.store exchange routingKey payload expiration).messages) :
    message ∈ server.messages ∨ ∃ queue,
      server.destination exchange routingKey = some queue ∧ message = ⟨queue, payload, expiration⟩ := by
  rw [store] at mem
  split at mem
  · exact .inl mem
  · next queue found =>
    simp only [messages, List.mem_append, List.mem_singleton] at mem ⊢
    rcases mem with (old | rfl) | handed
    · exact .inl (.inl old)
    · exact .inr ⟨queue, found, rfl⟩
    · exact .inl (.inr handed)

/-- A message that expires is stored where it is forwarded. -/
theorem Delays.store {payload : P} {expiration : Option UInt64} {bound : String}
    (delays : server.Delays exchange) (named : exchange ≠ "")
    (minds : expiration.isSome → bound = exchange) :
    (server.store bound routingKey payload expiration).Delays exchange := by
  obtain ⟨queues, bindings⟩ := queues_store server bound routingKey payload expiration
  have wider := wider_of_same queues bindings
  refine ⟨?_, ?_, ?_⟩
  · intro queue target found
    rw [queues] at found
    exact wider.routed _ _ (delays.targets queue target found)
  · intro routingKey queue found
    rw [bindings] at found
    exact wider.forwards _ (delays.bound routingKey queue found)
  · intro message mem expires
    rcases mem_messages_store mem with old | ⟨queue, found, rfl⟩
    · exact wider.forwards _ (delays.waiting message old expires)
    · obtain rfl := minds expires
      rw [destination, if_neg named] at found
      exact wider.forwards _ (delays.bound routingKey queue found)

theorem Delays.execute {reply : c.Reply} (delays : server.Delays exchange) (named : exchange ≠ "")
    (minds : server.Minds exchange c) (done : server.execute c = some (reply, server')) :
    server'.Delays exchange := by
  have wider := wider_of_execute done
  cases c with
  | connect | createChannel =>
    cases done
    exact delays.of_same rfl rfl (List.Subset.refl _)
  | confirmSelect | exchangeDeclare | basicPublish | queueDeclarePassive =>
    simp only [Server.execute] at done
    split_ifs at done
    cases done
    exact delays
  | queueDeclare channel queue expired =>
    simp only [Server.execute] at done
    split_ifs at done
    split at done
    · cases done
      refine ⟨?_, fun key other found => wider.forwards _ (delays.bound key other found),
        fun message mem expires => wider.forwards _ (delays.waiting message mem expires)⟩
      intro other target found
      rcases of_lookup_insert found with ⟨rfl, target_eq⟩ | ⟨-, old⟩
      · cases target_eq
        exact wider.routed _ _ minds
      · exact wider.routed _ _ (delays.targets other target old)
    · split_ifs at done
      cases done
      exact delays
  | queueBind channel queue bound routingKey =>
    simp only [Server.execute] at done
    split_ifs at done
    cases done
    refine ⟨fun other target found => wider.routed _ _ (delays.targets other target found), ?_,
      fun message mem expires => wider.forwards _ (delays.waiting message mem expires)⟩
    intro key other found
    rcases of_lookup_insert found with ⟨same, rfl⟩ | ⟨-, old⟩
    · exact minds (Prod.mk.inj same).1.symm
    · exact delays.bound key other old
  | awaitConfirm channel bound routingKey payload expiration =>
    obtain ⟨rfl, -⟩ := awaitConfirm_stores done
    exact delays.store named minds
  | basicGet channel queue =>
    simp only [Server.execute] at done
    split_ifs at done with is_open
    split at done
    · cases done
      exact delays
    · next message rest found =>
      cases done
      refine delays.of_same rfl rfl ?_
      obtain ⟨-, perm⟩ := takeFirst_perm found
      intro other mem
      simp only [messages, handOut, List.map_append, List.mem_append, List.map_cons, List.map_nil,
        List.mem_singleton] at mem ⊢
      have whole := @List.Perm.mem_iff _ other _ _ perm
      rw [List.mem_cons] at whole
      grind
  | basicAck channel tag =>
    simp only [Server.execute] at done
    split_ifs at done
    cases done
    refine delays.of_same rfl rfl ?_
    intro other mem
    simp only [messages, settle, List.mem_append, List.mem_map, List.mem_filter] at mem ⊢
    grind

theorem fresh_delays : (fresh : Server P).Delays exchange where
  targets queue target found := by
    rw [fresh, AList.lookup_empty] at found
    cases found
  bound routingKey queue found := by
    rw [fresh, AList.lookup_empty] at found
    cases found
  waiting message mem := by
    cases mem

end Delays

section Expire

variable {about : Message P → Prop} {tag : DeliveryTag}

theorem getElem?_perm {α : Type} {xs : List α} {x : α} {i : Nat} (there : xs[i]? = some x) :
    xs.Perm (x :: xs.eraseIdx i) := by
  induction xs generalizing i with
  | nil => cases there
  | cons y rest ih =>
    cases i with
    | zero =>
      cases there
      exact .refl _
    | succ i => exact ((ih there).cons y).trans (.swap ..)

/-- What the broker has when a message expires. -/
inductive Expired (server : Server P) : Server P → Prop where
  | none : Expired server server
  | dropped {message : Message P} {ready : List (Message P)} :
      server.ready.Perm (message :: ready) → message.expiration.isSome →
      (∀ target, server.queues.lookup message.queue ≠ some (some target)) →
      Expired server { server with ready := ready }
  | forwarded {message : Message P} {ready : List (Message P)} {target : String × String} :
      server.ready.Perm (message :: ready) → message.expiration.isSome →
      server.queues.lookup message.queue = some (some target) →
      Expired server ({ server with ready := ready }.store target.1 target.2 message.payload none)

theorem expired (server : Server P) (i : Nat) : server.Expired (server.expire i) := by
  unfold expire
  split
  · exact .none
  · next message there =>
    have perm := getElem?_perm there
    split_ifs with expires
    · split
      · next found => exact .forwarded perm expires found
      · next found => exact .dropped perm expires fun target same => by cases found.symm.trans same
      · next found => exact .dropped perm expires fun target same => by cases found.symm.trans same
    · exact .none

theorem wider_of_expired (gone : server.Expired server') : server.Wider server' := by
  cases gone with
  | none => exact .refl _
  | dropped => exact wider_of_same rfl rfl
  | forwarded => exact wider_of_same (queues_store ..).1 (queues_store ..).2

theorem Tagged.expired (tagged : server.Tagged tag about) (gone : server.Expired server') :
    server'.Tagged tag about := by
  cases gone with
  | none => exact tagged
  | dropped => exact ⟨tagged.given, tagged.message⟩
  | forwarded =>
    rw [store]
    split <;> exact ⟨tagged.given, tagged.message⟩

theorem Delays.expired (delays : server.Delays exchange) (named : exchange ≠ "")
    (gone : server.Expired server') : server'.Delays exchange := by
  have fewer : ∀ {message : Message P} {ready : List (Message P)},
      server.ready.Perm (message :: ready) →
      ({ server with ready := ready } : Server P).Delays exchange := by
    intro message ready perm
    refine delays.of_same rfl rfl fun other mem => ?_
    rcases List.mem_append.1 mem with ready | handed
    · exact List.mem_append_left _ (perm.symm.subset (List.mem_cons_of_mem _ ready))
    · exact List.mem_append_right _ handed
  cases gone with
  | none => exact delays
  | dropped perm => exact fewer perm
  | forwarded perm => exact (fewer perm).store named nofun

theorem payloads_store {payload : P} {expiration : Option UInt64}
    (routed : server.Routed exchange routingKey) :
    (server.store exchange routingKey payload expiration).payloads = payload ::ₘ server.payloads := by
  obtain ⟨queue, found⟩ := routed
  rw [payloads, contents_store, found, Multiset.map_cons]
  rfl

/-- A message that expires is stored elsewhere. -/
theorem payloads_expired (delays : server.Delays exchange) (gone : server.Expired server') :
    server'.payloads = server.payloads := by
  have without : ∀ {message : Message P} {ready : List (Message P)},
      server.ready.Perm (message :: ready) →
      server.payloads = message.payload ::ₘ ({ server with ready := ready } : Server P).payloads := by
    intro message ready perm
    have items := (perm.map Message.item).append_right (server.unacked.map (·.message.item))
    simp only [payloads, contents]
    rw [Multiset.coe_eq_coe.2 items, List.map_cons, List.cons_append, ← Multiset.cons_coe,
      Multiset.map_cons]
    rfl
  cases gone with
  | none => rfl
  | @dropped message ready perm expires none =>
    have mem : message ∈ server.messages :=
      List.mem_append_left _ (perm.symm.subset List.mem_cons_self)
    obtain ⟨target, found⟩ := delays.waiting message mem expires
    exact absurd found (none target)
  | @forwarded message ready target perm expires found =>
    have routed : ({ server with ready := ready } : Server P).Routed target.1 target.2 :=
      delays.targets _ _ found
    rw [payloads_store routed, without perm]

end Expire

section Payloads

theorem payloads_of_contents (same : server'.contents = server.contents) :
    server'.payloads = server.payloads := by
  rw [payloads, payloads, same]

theorem payloads_closeAll (server : Server P) (channels : List Nat) :
    (server.closeAll channels).payloads = server.payloads :=
  payloads_of_contents (contents_closeAll _ channels)

/-- The commands that neither store a message nor settle one leave what is stored. -/
theorem payloads_execute {reply : c.Reply} (spares : c.Spares)
    (done : server.execute c = some (reply, server')) : server'.payloads = server.payloads := by
  apply payloads_of_contents
  cases c with
  | awaitConfirm | basicAck => exact spares.elim
  | basicGet => exact (basicGet_contents done).1
  | _ => exact (execute_contents (by trivial) done).1

/-- An acknowledgement takes away a message that its number names on the channel. -/
theorem payloads_basicAck {channel : Nat} {tag : DeliveryTag} {reply : Unit}
    (done : server.execute (.basicAck channel tag) = some (reply, server')) :
    ∃ d ∈ server.unacked, d.channel = channel ∧ d.tag = tag.number ∧
      server.payloads = d.message.payload ::ₘ server'.payloads := by
  obtain ⟨d, mem, here, number, taken, -⟩ := basicAck_contents done
  refine ⟨d, mem, here, number, ?_⟩
  rw [payloads, taken, Multiset.map_cons]
  rfl

end Payloads

end Server

end NexusCore.Lib.Amqp
