import Mathlib.Data.Multiset.Filter
import NexusCore.Lib.Amqp
import NexusCore.Lib.Keyed

/-!
# What an AMQP broker has stored

The messages of a broker as a multiset, each with its queue, whether it is ready or was handed
out. Only a confirmed publication adds a message and only an acknowledgement takes one away;
handing a message out and closing a channel leave the multiset as it is.
-/

namespace NexusCore.Lib.Amqp

variable {P : Type}

/-- A message and the queue it stands in. -/
def Message.item (message : Message P) : String × P := (message.queue, message.payload)

namespace Server

/-- What is stored, ready or handed out. -/
def contents (server : Server P) : Multiset (String × P) :=
  ((server.ready.map Message.item ++ server.unacked.map (·.message.item) : List _) :
    Multiset (String × P))

/-- What is stored in some of the queues. -/
def stored (server : Server P) (among : String → Bool) : Multiset (String × P) :=
  server.contents.filter (among ·.1 = true)

variable {server server' : Server P} {among : String → Bool} {channel : Nat}

theorem contents_of_same (ready : server'.ready = server.ready)
    (unacked : server'.unacked = server.unacked) : server'.contents = server.contents := by
  rw [contents, contents, ready, unacked]

theorem contents_close (server : Server P) (channel : Nat) :
    (server.close channel).contents = server.contents := by
  have split : (server.unacked.filter (·.channel = channel) ++
      server.unacked.filter (·.channel ≠ channel)).Perm server.unacked := by
    simpa using List.filter_append_perm (·.channel = channel) server.unacked
  have items := split.map (·.message.item)
  rw [List.map_append] at items
  simp only [contents, close, List.map_append, List.map_map, Multiset.coe_eq_coe]
  refine List.Perm.trans ?_ (items.append_left _)
  rw [← List.append_assoc]
  exact List.perm_append_comm.append_right _

theorem contents_closeAll (server : Server P) (channels : List Nat) :
    (server.closeAll channels).contents = server.contents := by
  induction channels generalizing server with
  | nil => rfl
  | cons channel rest ih => exact (ih _).trans (contents_close server channel)

theorem unacked_closeAll (server : Server P) (channels : List Nat) :
    ∀ d ∈ (server.closeAll channels).unacked, d ∈ server.unacked := by
  induction channels generalizing server with
  | nil => exact fun _ mem => mem
  | cons channel rest ih => exact fun d mem => List.mem_of_mem_filter (ih _ d mem)

/-- A channel that has closed holds no message. -/
theorem unacked_closeAll_of_mem {channels : List Nat} (mem : channel ∈ channels) :
    ∀ d ∈ (server.closeAll channels).unacked, d.channel ≠ channel := by
  induction channels generalizing server with
  | nil => cases mem
  | cons first rest ih =>
    rcases List.mem_cons.1 mem with rfl | later
    · intro d there
      have kept := unacked_closeAll (server.close channel) rest d there
      exact of_decide_eq_true (List.mem_filter.1 kept).2
    · exact ih later

/-- A message that is published where no queue is bound is dropped. -/
theorem contents_store (server : Server P) (exchange routingKey : String) (payload : P)
    (expiration : Option UInt64) :
    (server.store exchange routingKey payload expiration).contents =
      match server.destination exchange routingKey with
      | none => server.contents
      | some queue => (queue, payload) ::ₘ server.contents := by
  rw [store]
  cases server.destination exchange routingKey with
  | none => rfl
  | some queue =>
    simp only [contents, List.map_append, List.append_assoc, Multiset.cons_coe, Multiset.coe_eq_coe]
    exact List.perm_middle

theorem takeFirst_perm {queue : String} {messages rest : List (Message P)} {message : Message P}
    (found : takeFirst queue messages = some (message, rest)) :
    message.queue = queue ∧ messages.Perm (message :: rest) := by
  induction messages generalizing rest with
  | nil => cases found
  | cons first others ih =>
    rw [takeFirst] at found
    split_ifs at found with same
    · cases found
      exact ⟨same, .refl _⟩
    · obtain ⟨⟨m, left⟩, taken, pair⟩ := Option.map_eq_some_iff.1 found
      cases pair
      obtain ⟨queue, perm⟩ := ih taken
      exact ⟨queue, (perm.cons first).trans (.swap ..)⟩

/-- A message that is handed out stays stored, under a tag that its channel had not given yet. -/
theorem basicGet_contents {queue : String} {reply : Option (DeliveryTag × P)}
    (done : server.execute (.basicGet channel queue) = some (reply, server')) :
    server'.contents = server.contents ∧ match reply with
      | none => server'.unacked = server.unacked
      | some (tag, payload) => tag.issuer = channel ∧ tag.number = server.lastTag channel + 1 ∧
          server'.lastTag channel = tag.number ∧ ∃ message : Message P, message.item = (queue, payload) ∧
            server'.unacked = server.unacked ++ [⟨channel, tag.number, message⟩] := by
  simp only [execute] at done
  split_ifs at done with is_open
  split at done
  · cases done
    exact ⟨rfl, rfl⟩
  · next message rest found =>
    cases done
    obtain ⟨at_queue, perm⟩ := takeFirst_perm found
    refine ⟨?_, rfl, rfl, Function.update_self .., message, by rw [Message.item, at_queue], rfl⟩
    have items := perm.map Message.item
    simp only [contents, handOut, List.map_append, List.map_cons, List.map_nil, Multiset.coe_eq_coe]
    refine List.Perm.trans ?_ (items.symm.append_right _)
    rw [← List.append_assoc]
    exact List.perm_append_singleton _ _

/-- An acknowledgement takes away the message that its tag names. -/
theorem basicAck_contents {tag : DeliveryTag} {reply : Unit}
    (done : server.execute (.basicAck channel tag) = some (reply, server')) :
    ∃ d ∈ server.unacked, d.channel = channel ∧ d.tag = tag.number ∧
      server.contents = d.message.item ::ₘ server'.contents ∧
      server'.unacked = server.unacked.filter fun d => ¬ (d.channel = channel ∧ d.tag = tag.number) := by
  simp only [execute] at done
  split_ifs at done with held
  cases done
  obtain ⟨d, mem, named⟩ := List.any_eq_true.1 held
  obtain ⟨on_channel, tagged⟩ := of_decide_eq_true named
  refine ⟨d, mem, on_channel, tagged, ?_, rfl⟩
  have apart := perm_cons_filter (fun d : Delivery P => (d.channel, d.tag)) server.unique mem
  have others : server.unacked.filter (fun e => (e.channel, e.tag) ≠ (d.channel, d.tag)) =
      (server.settle channel tag.number).unacked := by
    simp only [settle, on_channel, tagged, ne_eq, Prod.mk.injEq]
  rw [others] at apart
  have items := apart.map (·.message.item)
  simp only [contents, Multiset.cons_coe, Multiset.coe_eq_coe]
  exact (items.append_left _).trans List.perm_middle

theorem stored_of_contents (among : String → Bool) (same : server'.contents = server.contents) :
    server'.stored among = server.stored among := by
  rw [stored, stored, same]

theorem stored_of_cons (among : String → Bool) {item : String × P}
    (more : server'.contents = item ::ₘ server.contents) :
    server'.stored among =
      if among item.1 then item ::ₘ server.stored among else server.stored among := by
  rw [stored, stored, more]
  split_ifs with watched
  · exact Multiset.filter_cons_of_pos _ watched
  · exact Multiset.filter_cons_of_neg _ watched

/-- The other commands. -/
theorem execute_contents {c : Cmd P} {reply : c.Reply} (setup : c.IsSetup)
    (done : server.execute c = some (reply, server')) :
    server'.contents = server.contents ∧ server'.unacked = server.unacked := by
  obtain ⟨ready, unacked, -⟩ := execute_setup done setup
  exact ⟨contents_of_same ready unacked, unacked⟩

end Server

end NexusCore.Lib.Amqp
