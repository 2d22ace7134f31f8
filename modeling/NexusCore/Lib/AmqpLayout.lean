import NexusCore.Lib.AmqpExpiry

/-!
# Where the messages of an AMQP broker may lie

A layout says which payloads a queue may hold, where a publication may lead, and where the expired
messages of a queue may go. A broker that is asked for nothing against its layout stays laid out,
and hands out of a queue only what may lie there.
-/

namespace NexusCore.Lib.Amqp

/-- What may lie in a queue, the queues that an exchange and a routing key may lead to, and the
targets of a queue. -/
structure Layout (P : Type) where
  home : String → P → Prop
  leads : String → String → String → Prop
  forwards : String → String × String → Prop

namespace Layout

variable {P : Type}

/-- The exchange without a name leads to every queue, and what expires in a queue may lie wherever it
is forwarded. -/
structure Coherent (layout : Layout P) : Prop where
  direct : ∀ queue, layout.leads "" queue queue
  expires : ∀ queue target next payload, layout.forwards queue target →
    layout.leads target.1 target.2 next → layout.home queue payload → layout.home next payload

/-- The commands that keep to a layout. -/
def Allows (layout : Layout P) : Cmd P → Prop
  | .queueDeclare _ queue (some target) => layout.forwards queue target
  | .queueBind _ queue exchange routingKey => layout.leads exchange routingKey queue
  | .awaitConfirm _ exchange routingKey payload _ =>
    ∀ queue, layout.leads exchange routingKey queue → layout.home queue payload
  | _ => True

end Layout

namespace Server

variable {P : Type} {layout : Layout P} {server server' : Server P} {exchange routingKey : String}

/-- The messages, the bindings and the targets of the queues are those of the layout. -/
structure LaidOut (layout : Layout P) (server : Server P) : Prop where
  home : ∀ item ∈ server.contents, layout.home item.1 item.2
  bound : ∀ key queue, server.bindings.lookup key = some queue → layout.leads key.1 key.2 queue
  targets : ∀ queue target, server.queues.lookup queue = some (some target) →
    layout.forwards queue target

theorem laidOut_fresh : (fresh : Server P).LaidOut layout where
  home item mem := absurd mem (Multiset.notMem_zero item)
  bound key queue found := by
    rw [fresh, AList.lookup_empty] at found
    cases found
  targets queue target found := by
    rw [fresh, AList.lookup_empty] at found
    cases found

theorem LaidOut.of_same (laid : server.LaidOut layout) (queues : server'.queues = server.queues)
    (bindings : server'.bindings = server.bindings)
    (contents : server'.contents ⊆ server.contents) : server'.LaidOut layout where
  home item mem := laid.home item (contents mem)
  bound := by
    rw [bindings]
    exact laid.bound
  targets := by
    rw [queues]
    exact laid.targets

theorem LaidOut.closeAll (laid : server.LaidOut layout) (channels : List Nat) :
    (server.closeAll channels).LaidOut layout := by
  refine laid.of_same (queues_closeAll server channels) (bindings_closeAll server channels) ?_
  rw [contents_closeAll]
  exact Multiset.Subset.refl _

/-- A message goes where the layout leads it. -/
theorem LaidOut.destination (laid : server.LaidOut layout) (coherent : layout.Coherent)
    {queue : String}
    (found : server.destination exchange routingKey = some queue) :
    layout.leads exchange routingKey queue := by
  rw [Server.destination] at found
  split_ifs at found with unnamed
  · cases found
    rw [unnamed]
    exact coherent.direct routingKey
  · exact laid.bound _ queue found

theorem LaidOut.store {payload : P} {expiration : Option UInt64} (laid : server.LaidOut layout)
    (coherent : layout.Coherent)
    (home : ∀ queue, layout.leads exchange routingKey queue → layout.home queue payload) :
    (server.store exchange routingKey payload expiration).LaidOut layout := by
  obtain ⟨queues, bindings⟩ := queues_store server exchange routingKey payload expiration
  have contents := contents_store server exchange routingKey payload expiration
  refine ⟨?_, by rw [bindings]; exact laid.bound, by rw [queues]; exact laid.targets⟩
  rw [contents]
  split
  · exact laid.home
  · next queue found =>
    rw [Multiset.forall_mem_cons]
    exact ⟨home queue (laid.destination coherent found), laid.home⟩

theorem LaidOut.execute {c : Cmd P} {reply : c.Reply} (laid : server.LaidOut layout)
    (coherent : layout.Coherent) (allowed : layout.Allows c)
    (done : server.execute c = some (reply, server')) : server'.LaidOut layout := by
  cases c with
  | connect | createChannel =>
    cases done
    exact laid.of_same rfl rfl (Multiset.Subset.refl _)
  | confirmSelect | exchangeDeclare | basicPublish | queueDeclarePassive =>
    simp only [Server.execute] at done
    split_ifs at done
    cases done
    exact laid
  | queueDeclare channel queue expired =>
    simp only [Server.execute] at done
    split_ifs at done
    split at done
    · cases done
      refine ⟨laid.home, laid.bound, ?_⟩
      intro other target found
      rcases of_lookup_insert found with ⟨rfl, target_eq⟩ | ⟨-, old⟩
      · cases target_eq
        exact allowed
      · exact laid.targets other target old
    · split_ifs at done
      cases done
      exact laid
  | queueBind channel queue exchange routingKey =>
    simp only [Server.execute] at done
    split_ifs at done
    cases done
    refine ⟨laid.home, ?_, laid.targets⟩
    intro key other found
    rcases of_lookup_insert found with ⟨rfl, rfl⟩ | ⟨-, old⟩
    · exact allowed
    · exact laid.bound key other old
  | awaitConfirm channel exchange routingKey payload expiration =>
    obtain ⟨rfl, -⟩ := awaitConfirm_stores done
    exact laid.store coherent allowed
  | basicGet channel queue =>
    have contents := (basicGet_contents done).1
    simp only [Server.execute] at done
    split_ifs at done
    split at done <;> cases done <;> exact laid.of_same rfl rfl (contents ▸ Multiset.Subset.refl _)
  | basicAck channel tag =>
    obtain ⟨d, -, -, -, contents, -⟩ := basicAck_contents done
    simp only [Server.execute] at done
    split_ifs at done
    cases done
    refine laid.of_same rfl rfl ?_
    rw [contents]
    exact Multiset.subset_cons _ _

/-- What is handed out of a queue may lie there. -/
theorem LaidOut.home_of_basicGet {channel : Nat} {queue : String} {tag : DeliveryTag} {payload : P}
    (laid : server.LaidOut layout)
    (done : server.execute (.basicGet channel queue) = some (some (tag, payload), server')) :
    layout.home queue payload := by
  obtain ⟨contents, -, -, -, message, item, unacked⟩ := basicGet_contents done
  have mem : message.item ∈ server'.contents := by
    simp only [Server.contents, unacked, List.map_append, List.map_cons, List.map_nil,
      Multiset.mem_coe, List.mem_append, List.mem_singleton]
    exact .inr (.inr trivial)
  rw [contents, item] at mem
  exact laid.home _ mem

theorem LaidOut.expired (laid : server.LaidOut layout) (coherent : layout.Coherent)
    (gone : server.Expired server') :
    server'.LaidOut layout := by
  have without : ∀ {message : Message P} {ready : List (Message P)},
      server.ready.Perm (message :: ready) → layout.home message.queue message.payload ∧
        ({ server with ready := ready } : Server P).LaidOut layout := by
    intro message ready perm
    have items := (perm.map Message.item).append_right (server.unacked.map (·.message.item))
    have contents : server.contents =
        message.item ::ₘ ({ server with ready := ready } : Server P).contents :=
      Multiset.coe_eq_coe.2 items
    constructor
    · exact laid.home message.item (contents ▸ Multiset.mem_cons_self _ _)
    · refine laid.of_same rfl rfl ?_
      rw [contents]
      exact Multiset.subset_cons _ _
  cases gone with
  | none => exact laid
  | dropped perm => exact (without perm).2
  | forwarded perm _ found =>
    obtain ⟨home, rest⟩ := without perm
    refine rest.store coherent fun next leads => ?_
    exact coherent.expires _ _ next _ (laid.targets _ _ found) leads home

end Server

end NexusCore.Lib.Amqp
