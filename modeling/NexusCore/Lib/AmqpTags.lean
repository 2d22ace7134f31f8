import NexusCore.Lib.Amqp

/-!
# Delivery tags

A channel gives every tag once. What is known of the message that was handed out under a tag stays
true, however many channels close and open afterwards.
-/

namespace NexusCore.Lib.Amqp.Server

variable {P : Type} {server server' : Server P} {tag : DeliveryTag} {about : Message P → Prop}

/-- The tag has been given on its channel, and the message is as described as long as it is not
acknowledged. -/
structure Tagged (server : Server P) (tag : DeliveryTag) (about : Message P → Prop) : Prop where
  given : tag.number ≤ server.lastTag tag.issuer
  message : ∀ d ∈ server.unacked, d.channel = tag.issuer → d.tag = tag.number → about d.message

theorem Tagged.mono {about' : Message P → Prop} (tagged : server.Tagged tag about)
    (weaker : ∀ message, about message → about' message) : server.Tagged tag about' where
  given := tagged.given
  message := fun d mem channel number => weaker _ (tagged.message d mem channel number)

theorem Tagged.close (tagged : server.Tagged tag about) (channel : Nat) :
    (server.close channel).Tagged tag about where
  given := tagged.given
  message := fun d mem => tagged.message d (List.mem_of_mem_filter mem)

theorem Tagged.closeAll (tagged : server.Tagged tag about) (channels : List Nat) :
    (server.closeAll channels).Tagged tag about := by
  induction channels generalizing server with
  | nil => exact tagged
  | cons channel rest ih => exact ih (tagged.close channel)

/-- A message that is handed out comes under a tag that no message has had. -/
theorem handOut_tagged {channel : Nat} (is_open : channel ∈ server.channels) (message : Message P)
    (rest : List (Message P)) (tagged : server.Tagged tag about) :
    (server.handOut channel is_open message rest).Tagged tag about := by
  have given := tagged.given
  constructor
  · change tag.number ≤ Function.update server.lastTag channel _ tag.issuer
    by_cases same : tag.issuer = channel
    · rw [same] at given ⊢
      rw [Function.update_self]
      omega
    · rwa [Function.update_of_ne same]
  · intro d mem here number
    rcases List.mem_append.1 mem with old | new
    · exact tagged.message d old here number
    · obtain rfl := List.mem_singleton.1 new
      change channel = tag.issuer at here
      change server.lastTag channel + 1 = tag.number at number
      rw [here] at number
      omega

/-- Whatever the broker executes, what is known of the messages under a tag stays true. -/
theorem Tagged.execute {c : Cmd P} {reply : c.Reply} (tagged : server.Tagged tag about)
    (done : server.execute c = some (reply, server')) : server'.Tagged tag about := by
  cases c with
  | connect | createChannel =>
    cases done
    exact ⟨tagged.given, tagged.message⟩
  | confirmSelect | exchangeDeclare | basicPublish | queueDeclarePassive | queueBind =>
    simp only [Server.execute] at done
    split_ifs at done
    cases done
    exact ⟨tagged.given, tagged.message⟩
  | queueDeclare =>
    simp only [Server.execute] at done
    split_ifs at done
    split at done
    · cases done
      exact ⟨tagged.given, tagged.message⟩
    · split_ifs at done
      cases done
      exact tagged
  | awaitConfirm =>
    obtain ⟨rfl, -⟩ := awaitConfirm_stores done
    rw [store]
    split
    · exact tagged
    · exact ⟨tagged.given, tagged.message⟩
  | basicGet channel queue =>
    simp only [Server.execute] at done
    split_ifs at done with is_open
    split at done
    · cases done
      exact tagged
    · cases done
      exact handOut_tagged is_open _ _ tagged
  | basicAck channel number =>
    simp only [Server.execute] at done
    split_ifs at done
    cases done
    exact ⟨tagged.given, fun d mem => tagged.message d (List.mem_of_mem_filter mem)⟩

/-- The tag of a message that is handed out is new on its channel. -/
theorem basicGet_tagged {channel : Nat} {queue : String} {payload : P}
    (done : server.execute (.basicGet channel queue) = some (some (tag, payload), server')) :
    tag.issuer = channel ∧ server.lastTag channel < tag.number ∧
      server'.Tagged tag (·.payload = payload) := by
  simp only [Server.execute] at done
  split_ifs at done with is_open
  split at done
  · cases done
  · next message rest found =>
    cases done
    refine ⟨rfl, Nat.lt_succ_self _, ?_, ?_⟩
    · change _ ≤ Function.update server.lastTag channel _ channel
      rw [Function.update_self]
    · intro d mem here number
      rcases List.mem_append.1 mem with old | new
      · have bound := (server.held d old).2
        rw [here, number] at bound
        exact absurd bound (Nat.not_succ_le_self _)
      · obtain rfl := List.mem_singleton.1 new
        rfl

/-- A tag that has been given is not given again. -/
theorem Tagged.ne_of_basicGet {channel : Nat} {queue : String} {payload : P} {new : DeliveryTag}
    (tagged : server.Tagged tag about)
    (done : server.execute (.basicGet channel queue) = some (some (new, payload), server')) :
    tag ≠ new := by
  rintro rfl
  obtain ⟨issuer, later, -⟩ := basicGet_tagged done
  have given := tagged.given
  rw [issuer] at given
  omega

end NexusCore.Lib.Amqp.Server
