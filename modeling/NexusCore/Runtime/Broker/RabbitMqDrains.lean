import NexusCore.Lib.AmqpContents
import NexusCore.Runtime.Broker.RabbitMqWorld

/-!
# Reading a queue of RabbitMQ by draining it

Dead letters are read by taking every message out of their queue, publishing each of them anew and
acknowledging the one that was taken out. While this goes on an audit is kept of what happens to
the messages of some queues: a publication that took effect is owed its acknowledgement.

Every program here says what it leaves when it returns and what it leaves when it fails: how the
audit accounts for what is stored, and which messages the channel of the adapter holds.
-/

namespace NexusCore.Runtime

open NexusCore.Lib

namespace RabbitMq

/-- What has happened to the messages of some queues during a call: the publication that is owed
its acknowledgement, the messages that were acknowledged without being owed, those of which another
copy was stored, and whether some of them were left on the channel. -/
structure Audit where
  owing : Option (String × RabbitMqPayload)
  removed : Multiset (String × RabbitMqPayload)
  doubled : Multiset (String × RabbitMqPayload)
  left : Bool
  deriving DecidableEq

namespace Audit

def start : Audit := ⟨none, 0, 0, false⟩

def leave (audit : Audit) : Audit := { audit with left := true }

def double (audit : Audit) (item : String × RabbitMqPayload) : Audit :=
  { audit with doubled := item ::ₘ audit.doubled }

/-- An acknowledgement took some messages away. -/
def acked (audit : Audit) (taken : Multiset (String × RabbitMqPayload)) : Audit :=
  match audit.owing with
  | none => { audit with removed := audit.removed + taken }
  | some item =>
    if taken = {item} then { audit with owing := none }
    else { audit with owing := none, removed := audit.removed + taken }.double item

/-- The message that an acknowledgement is owed for. -/
def owed (audit : Audit) : Multiset (String × RabbitMqPayload) :=
  match audit.owing with
  | none => 0
  | some item => {item}

/-- Nothing was left on the channel, and what was stored once more is what was taken away. A copy
whose acknowledgement is still owed is one more. -/
def Clean (audit : Audit) : Prop :=
  audit.removed = audit.doubled + audit.owed ∧ audit.left = false

end Audit

/-- No message of the queues waits for its acknowledgement on the channel of the adapter. -/
def NoneHeld (among : String → Bool) (w : RabbitMqWorld) : Prop :=
  ∀ d ∈ w.server.unacked, w.transport = some d.channel → among d.message.queue = false

instance {among : String → Bool} {w : RabbitMqWorld} : Decidable (NoneHeld among w) :=
  inferInstanceAs (Decidable (∀ d ∈ w.server.unacked, _ → _))

/-- The audit after an operation. A publication that takes effect is owed its acknowledgement,
which has to be the next one; if the call does not hear of it, or the acknowledgement does not take
the message away, the message is doubled. Nothing is owed for one that the broker has not stored,
and the acknowledgement that follows removes a message. Messages are left when a call has to end
while some of them are held: at a payload that is no record, and at a channel that cannot be
opened. -/
def Audit.after (among : String → Bool) (audit : Audit) (s : RabbitMqWorld) :
    (op : RabbitMqOp) → op.Answer → RabbitMqWorld → Audit
  | .command (.awaitConfirm _ exchange routingKey payload _), answer, u =>
    if u.server.stored among = s.server.stored among then audit
    else
      let item := ((s.server.destination exchange routingKey).getD "", payload)
      match answer with
      | .ok _ => { audit with owing := some item }
      | .error _ => audit.double item
  | .command (.basicAck ..), _, u => audit.acked (s.server.stored among - u.server.stored among)
  | .command .connect, .error _, u | .command .createChannel, .error _, u
  | .command (.confirmSelect _), .error _, u => if NoneHeld among u then audit else audit.leave
  | .parse payload, (parses : Bool), _ =>
    if (parses = true ∧ payload.asRecord.isSome) ∨ NoneHeld among s then audit else audit.leave
  | _, _, _ => audit

/-- The broker and the adapter under an audit of some queues. -/
abbrev audited (among : String → Bool) :
    Handler (RabbitMqWorld × Audit) RabbitMqOp RabbitMqOp.Answer :=
  rabbitmq.watching (Audit.after among)

/-- What a program leaves that hands no message out: some may have been put back, and the channel of
the adapter is the same, or none, or one that has not handed anything out. -/
structure Frees (w u : RabbitMqWorld) : Prop where
  unacked : ∀ d ∈ u.server.unacked, d ∈ w.server.unacked
  transport : u.transport = w.transport ∨ ∀ d ∈ u.server.unacked, u.transport ≠ some d.channel

/-- What a program leaves that neither stores a message nor takes one out. -/
structure Quiets (w u : RabbitMqWorld) : Prop extends Frees w u where
  contents : u.server.contents = w.server.contents

/-- The account of a call that goes on: the audit says how what is stored differs from what was, and
nothing was left on the channel. -/
structure Kept (among : String → Bool) (base : Multiset (String × RabbitMqPayload))
    (t : RabbitMqWorld × Audit) : Prop where
  balance : t.1.server.stored among + t.2.removed = base + t.2.doubled + t.2.owed
  clear : t.2.left = false

/-- The account of a call that owes no acknowledgement. -/
structure Settled (among : String → Bool) (base : Multiset (String × RabbitMqPayload))
    (t : RabbitMqWorld × Audit) : Prop extends Kept among base t where
  settled : t.2.owing = none

/-- The account of a call that has ended: the audit also says whether some message is held. -/
structure Audited (among : String → Bool) (base : Multiset (String × RabbitMqPayload))
    (t : RabbitMqWorld × Audit) : Prop where
  balance : t.1.server.stored among + t.2.removed = base + t.2.doubled + t.2.owed
  held : NoneHeld among t.1 ↔ t.2.left = false

section Worlds

variable {among : String → Bool} {w u v : RabbitMqWorld} {audit : Audit}
  {base : Multiset (String × RabbitMqPayload)}

theorem Frees.refl (w : RabbitMqWorld) : Frees w w := ⟨fun _ mem => mem, .inl rfl⟩

theorem Frees.trans (first : Frees w u) (second : Frees u v) : Frees w v where
  unacked d mem := first.unacked d (second.unacked d mem)
  transport := by
    rcases second.transport with same | fresh
    · rcases first.transport with same' | fresh
      · exact .inl (same.trans same')
      · refine .inr fun d mem => ?_
        rw [same]
        exact fresh d (second.unacked d mem)
    · exact .inr fresh

theorem Frees.noneHeld (frees : Frees w u) (free : NoneHeld among w) : NoneHeld among u := by
  intro d mem on_channel
  rcases frees.transport with same | fresh
  · exact free d (frees.unacked d mem) (same ▸ on_channel)
  · exact absurd on_channel (fresh d mem)

theorem Quiets.refl (w : RabbitMqWorld) : Quiets w w := ⟨.refl w, rfl⟩

theorem Quiets.trans (first : Quiets w u) (second : Quiets u v) : Quiets w v :=
  ⟨first.toFrees.trans second.toFrees, second.contents.trans first.contents⟩

theorem Quiets.stored (quiets : Quiets w u) : u.server.stored among = w.server.stored among :=
  Amqp.Server.stored_of_contents _ quiets.contents

theorem quiets_refused (refused : Refused w u) : Quiets w u := by
  obtain ⟨lost, rfl⟩ := refused
  exact ⟨⟨Amqp.Server.unacked_closeAll _ lost, .inl rfl⟩, Amqp.Server.contents_closeAll _ lost⟩

theorem quiets_setup {c : Amqp.Cmd RabbitMqPayload} (setup : c.IsSetup)
    (attempted : Attempted w c u) : Quiets w u := by
  rcases attempted with refused | ⟨reply, lost, server, done, rfl⟩
  · exact quiets_refused refused
  · obtain ⟨contents, unacked⟩ := Amqp.Server.execute_contents setup done
    refine ⟨⟨?_, .inl rfl⟩, contents.trans (Amqp.Server.contents_closeAll _ lost)⟩
    rw [unacked]
    exact Amqp.Server.unacked_closeAll _ lost

theorem Executed.transport {c : Amqp.Cmd RabbitMqPayload} {reply : c.Reply}
    (executed : Executed w c reply u) : u.transport = w.transport := by
  rw [executed.memory]

theorem noneHeld_of_none (none : u.transport = none) : NoneHeld among u := by
  intro d _ on_channel
  rw [none] at on_channel
  cases on_channel

theorem settled_start (w : RabbitMqWorld) :
    Settled among (w.server.stored among) (w, .start) :=
  ⟨⟨by simp [Audit.start, Audit.owed], rfl⟩, rfl⟩

theorem Kept.same (kept : Kept among base (w, audit))
    (stored : u.server.stored among = w.server.stored among) : Kept among base (u, audit) :=
  ⟨stored ▸ kept.balance, kept.clear⟩

theorem Settled.same (settled : Settled among base (w, audit))
    (stored : u.server.stored among = w.server.stored among) : Settled among base (u, audit) :=
  ⟨settled.toKept.same stored, settled.settled⟩

theorem Kept.accounted (kept : Kept among base (u, audit)) (free : NoneHeld among u) :
    Audited among base (u, audit) :=
  ⟨kept.balance, iff_of_true free kept.clear⟩

/-- A call that has to end notes whether it leaves messages on its channel. -/
theorem Kept.ended (kept : Kept among base (u, audit)) :
    Audited among base (u, if NoneHeld among u then audit else audit.leave) := by
  split_ifs with free
  · exact kept.accounted free
  · exact ⟨kept.balance, by simp [free, Audit.leave]⟩

/-- A call that fails once its channel was given up holds nothing. -/
theorem Kept.givenUp (kept : Kept among base (u, audit)) (server : v.server = u.server)
    (none : v.transport = none) : Audited among base (v, audit) :=
  (kept.same (by rw [server])).accounted (noneHeld_of_none none)

/-- A publication either leaves what is stored, or adds one message. -/
theorem stored_published (among : String → Bool) {channel : Nat} {exchange routingKey : String}
    {payload : RabbitMqPayload} {expirationMs : Option UInt64}
    (attempted : Attempted w (.awaitConfirm channel exchange routingKey payload expirationMs) u) :
    Frees w u ∧ (u.server.stored among = w.server.stored among ∨ u.server.stored among =
      ((w.server.destination exchange routingKey).getD "", payload) ::ₘ w.server.stored among) := by
  rcases attempted with refused | ⟨reply, lost, server, done, rfl⟩
  · exact ⟨(quiets_refused refused).toFrees, .inl (quiets_refused refused).stored⟩
  · have kept := Amqp.Server.unacked_closeAll w.server lost
    have contents := Amqp.Server.contents_closeAll w.server lost
    have target : (w.server.closeAll lost).destination exchange routingKey =
        w.server.destination exchange routingKey := by
      rw [Amqp.Server.destination, Amqp.Server.bindings_closeAll]
      rfl
    obtain ⟨rfl, -⟩ := Amqp.Server.awaitConfirm_stores done
    have more := Amqp.Server.contents_store (w.server.closeAll lost) exchange routingKey payload
      expirationMs
    have unacked : ((w.server.closeAll lost).store exchange routingKey payload
        expirationMs).unacked = (w.server.closeAll lost).unacked := by
      rw [Amqp.Server.store]
      split <;> rfl
    refine ⟨⟨fun d mem => kept d (unacked ▸ mem), .inl rfl⟩, ?_⟩
    rw [target, contents] at more
    cases home : w.server.destination exchange routingKey with
    | none =>
      rw [home] at more
      exact .inl (Amqp.Server.stored_of_contents among more)
    | some queue =>
      rw [home] at more
      have stored := Amqp.Server.stored_of_cons among more
      split_ifs at stored
      · exact .inr stored
      · exact .inl stored

/-- The audit of a publication. -/
theorem Settled.published {channel : Nat} {exchange routingKey : String}
    {payload : RabbitMqPayload} {expirationMs : Option UInt64}
    {answer : Except String Amqp.Confirmation} (settled : Settled among base (w, audit))
    (attempted : Attempted w (.awaitConfirm channel exchange routingKey payload expirationMs) u) :
    Kept among base (u, audit.after among w
      (.command (.awaitConfirm channel exchange routingKey payload expirationMs)) answer u) := by
  obtain ⟨owing, removed, doubled, left⟩ := audit
  obtain rfl : owing = none := settled.settled
  have balance := settled.balance
  simp only [Audit.owed, Multiset.add_zero] at balance
  simp only [Audit.after]
  split_ifs with same
  · exact settled.toKept.same same
  · have more := (stored_published among attempted).2.resolve_left same
    rw [← Multiset.singleton_add] at more
    cases answer with
    | ok reply =>
      refine ⟨?_, settled.clear⟩
      simp only [Audit.owed]
      rw [more, Multiset.add_assoc, balance, Multiset.add_comm]
    | error error =>
      refine ⟨?_, settled.clear⟩
      simp only [Audit.owed, Audit.double, Multiset.add_zero]
      rw [more, Multiset.add_assoc, balance, ← Multiset.singleton_add, add_left_comm]

/-- The audit of an acknowledgement. -/
theorem Kept.acked {channel : Nat} {tag : Amqp.DeliveryTag} (kept : Kept among base (w, audit))
    (attempted : Attempted w (.basicAck channel tag) u) :
    Settled among base (u, audit.acked (w.server.stored among - u.server.stored among)) := by
  have fewer : u.server.stored among ≤ w.server.stored among := by
    rcases attempted with refused | ⟨reply, lost, server, done, rfl⟩
    · exact (quiets_refused refused).stored.le
    · obtain ⟨d, -, -, -, contents, -⟩ := Amqp.Server.basicAck_contents done
      rw [Amqp.Server.contents_closeAll] at contents
      rw [Amqp.Server.stored_of_cons among contents]
      split_ifs
      · exact Multiset.le_cons_self _ _
      · exact le_rfl
  obtain ⟨taken, split⟩ := Multiset.le_iff_exists_add.1 fewer
  obtain ⟨owing, removed, doubled, left⟩ := audit
  have balance := kept.balance
  have clear : left = false := kept.clear
  rw [split, add_tsub_cancel_left]
  dsimp only at balance
  rw [split] at balance
  cases owing with
  | none =>
    refine ⟨⟨?_, clear⟩, rfl⟩
    simp only [Audit.acked, Audit.owed] at balance ⊢
    rw [← balance, Multiset.add_assoc, Multiset.add_comm removed taken]
  | some item =>
    by_cases same : taken = {item}
    · refine ⟨⟨?_, ?_⟩, ?_⟩
      · simp only [Audit.acked, Audit.owed, same, if_true] at balance ⊢
        refine add_right_cancel (b := {item}) ?_
        rw [Multiset.add_zero, ← balance, add_right_comm]
      · simpa [Audit.acked, same] using clear
      · simp [Audit.acked, same]
    · refine ⟨⟨?_, ?_⟩, ?_⟩
      · simp only [Audit.acked, Audit.owed, Audit.double, same, if_false] at balance ⊢
        rw [Multiset.add_zero, ← Multiset.singleton_add, Multiset.add_comm {item} doubled,
          ← add_assoc base, ← balance, ← add_assoc, add_right_comm]
      · simpa [Audit.acked, same, Audit.double] using clear
      · simp [Audit.acked, same, Audit.double]

end Worlds

section Transport

variable {among : String → Bool} {w : RabbitMqWorld} {audit : Audit} {α : Type}
  {base : Multiset (String × RabbitMqPayload)}

/-- A section changes nothing but the mutexes when it takes and gives back its own. -/
theorem locked_meets {mutex : RabbitMqMutex} {p : RabbitMqProg α}
    {Q : α → RabbitMqWorld × Audit → Prop} {E : RabbitMqWorld × Audit → Prop}
    (inner : Meets (audited among)
      (fun a t => Q a ({ t.1 with locked := t.1.locked.erase mutex }, t.2))
      (fun t => E ({ t.1 with locked := t.1.locked.erase mutex }, t.2)) p
      ({ w with locked := mutex :: w.locked }, audit)) :
    Meets (audited among) Q E (locked mutex p) (w, audit) := by
  refine Meets.call_watching ?_
  rintro ⟨⟩ u ⟨-, rfl⟩
  refine Meets.bind inner.attempt ?_
  rintro (error | a) ⟨v, audit'⟩ post
  · refine Meets.call_watching ?_
    rintro ⟨⟩ x answered
    obtain rfl : x = { v with locked := v.locked.erase mutex } := answered
    exact .fail post
  · refine Meets.call_watching ?_
    rintro ⟨⟩ x answered
    obtain rfl : x = { v with locked := v.locked.erase mutex } := answered
    exact .ret post

theorem clearLeases_meets {E : RabbitMqWorld × Audit → Prop} : Meets (audited among)
    (fun _ t => t.2 = audit ∧ t.1.server = w.server ∧ t.1.transport = w.transport) E clearLeases
    (w, audit) := by
  refine locked_meets (Meets.call_watching ?_)
  rintro ⟨⟩ u answered
  obtain rfl : u = _ := answered
  exact .ret ⟨rfl, rfl, rfl⟩

theorem invalidateTransport_meets {E : RabbitMqWorld × Audit → Prop} : Meets (audited among)
    (fun _ t => t.2 = audit ∧ t.1.server = w.server ∧ t.1.transport = none) E invalidateTransport
    (w, audit) := by
  have given : Meets (audited among)
      (fun _ t => t.2 = audit ∧ t.1.server = w.server ∧ t.1.transport = none) E
      (locked .transport (.call (.setTransport none) .ret)) (w, audit) := by
    refine locked_meets (Meets.call_watching ?_)
    rintro ⟨⟩ u answered
    obtain rfl : u = _ := answered
    exact .ret ⟨rfl, rfl, rfl⟩
  refine given.bind ?_
  rintro ⟨⟩ ⟨u, audit'⟩ ⟨rfl, server, none⟩
  refine clearLeases_meets.mono ?_ (fun _ post => post)
  rintro ⟨⟩ ⟨v, audit''⟩ ⟨rfl, server', none'⟩
  exact ⟨rfl, server'.trans server, none'.trans none⟩

/-- A command either returns, or ends the call after the channel was given up. -/
theorem withTransportResult_meets {c : Amqp.Cmd RabbitMqPayload} {message : String}
    {Q : c.Reply → RabbitMqWorld × Audit → Prop} {E : RabbitMqWorld × Audit → Prop}
    (done : ∀ reply u, rabbitmq w (.command c) (.ok reply) u →
      Q reply (u, audit.after among w (.command c) (.ok reply) u))
    (failed : ∀ error u v, Attempted w c u → v.server = u.server → v.transport = none →
      E (v, audit.after among w (.command c) (.error error) u)) :
    Meets (audited among) Q E (withTransportResult c message) (w, audit) := by
  refine Meets.call_watching ?_
  rintro (error | reply) u answered
  · refine Meets.bind invalidateTransport_meets ?_
    rintro ⟨⟩ ⟨v, audit'⟩ ⟨rfl, server, none⟩
    exact .fail (failed error u v answered server none)
  · exact .ret (done reply u answered)

/-- The commands that move no message and open no channel. -/
def Plainly : Amqp.Cmd RabbitMqPayload → Prop
  | .connect | .createChannel | .confirmSelect _ => False
  | c => c.IsSetup

theorem setup_meets {c : Amqp.Cmd RabbitMqPayload} {message : String} (plainly : Plainly c)
    (kept : Kept among base (w, audit)) :
    Meets (audited among)
      (fun _ t => t.2 = audit ∧ Quiets w t.1 ∧ t.1.transport = w.transport)
      (Audited among base) (withTransportResult c message) (w, audit) := by
  have setup : c.IsSetup := by
    cases c <;> first | exact plainly | exact plainly.elim
  have same : ∀ (answer : Except String c.Reply) u,
      audit.after among w (.command c) answer u = audit := by
    intro answer u
    cases c <;> first | rfl | exact plainly.elim
  refine withTransportResult_meets ?_ ?_
  · intro reply u answered
    have executed := executed_of_setup setup answered
    exact ⟨same _ u, quiets_setup setup (.inr ⟨reply, executed⟩), executed.transport⟩
  · intro error u v attempted server none
    rw [same (.error error)]
    exact (kept.same (quiets_setup setup attempted).stored).givenUp server none

/-- The steps that open a channel. -/
def Opens : Amqp.Cmd RabbitMqPayload → Prop
  | .connect | .createChannel | .confirmSelect _ => True
  | _ => False

theorem connectStep_meets {c : Amqp.Cmd RabbitMqPayload} {message : String} (opens : Opens c)
    (kept : Kept among base (w, audit)) :
    Meets (audited among)
      (fun reply t => t.2 = audit ∧ Quiets w t.1 ∧ Executed w c reply t.1)
      (Audited among base) (connectStep c message) (w, audit) := by
  have setup : c.IsSetup := by
    cases c <;> trivial
  refine Meets.call_watching ?_
  rintro (error | reply) u answered
  · have noted : audit.after among w (.command c) (.error error) u =
        if NoneHeld among u then audit else audit.leave := by
      cases c <;> first | rfl | exact opens.elim
    rw [noted]
    exact .fail (kept.same (quiets_setup setup answered).stored).ended
  · have noted : audit.after among w (.command c) (.ok reply) u = audit := by
      cases c <;> first | rfl | exact opens.elim
    rw [noted]
    have executed := executed_of_setup setup answered
    exact .ret ⟨rfl, quiets_setup setup (.inr ⟨reply, executed⟩), executed⟩

/-- A channel that was just opened has handed nothing out. -/
theorem unacked_of_created {channel : Nat} {u : RabbitMqWorld}
    (executed : Executed w .createChannel channel u) :
    ∀ d ∈ u.server.unacked, d.channel ≠ channel := by
  obtain ⟨lost, server, done, rfl⟩ := executed
  cases done
  intro d mem same
  have is_open := ((w.server.closeAll lost).held d mem).1
  have bound := (w.server.closeAll lost).opened d.channel is_open
  change d.channel = (w.server.closeAll lost).lastChannel + 1 at same
  omega

theorem connectTransport_meets (kept : Kept among base (w, audit)) : Meets (audited among)
    (fun channel t => t.2 = audit ∧ Quiets w t.1 ∧ ∀ d ∈ t.1.server.unacked, d.channel ≠ channel)
    (Audited among base) connectTransport (w, audit) := by
  refine Meets.bind (connectStep_meets (c := .connect) trivial kept) ?_
  rintro ⟨⟩ ⟨w₁, _⟩ ⟨rfl, quiets₁, -⟩
  have kept₁ := kept.same quiets₁.stored
  change Meets _ _ _ (Prog.bind (connectStep .createChannel _) _) _
  refine Meets.bind (connectStep_meets trivial kept₁) ?_
  rintro channel ⟨w₂, _⟩ ⟨rfl, quiets₂, created⟩
  have kept₂ := kept₁.same quiets₂.stored
  refine Meets.bind (connectStep_meets (c := .confirmSelect channel) trivial kept₂) ?_
  rintro ⟨⟩ ⟨w₃, _⟩ ⟨rfl, quiets₃, -⟩
  exact .ret ⟨rfl, (quiets₁.trans quiets₂).trans quiets₃,
    fun d mem => unacked_of_created created d (quiets₃.unacked d mem)⟩

theorem reconnect_meets (kept : Kept among base (w, audit)) : Meets (audited among)
    (fun (result : Nat × Bool) t => t.2 = audit ∧ Quiets w t.1 ∧ t.1.transport = some result.1)
    (Audited among base) reconnect (w, audit) := by
  refine Meets.bind (connectTransport_meets kept) ?_
  rintro channel ⟨v, _⟩ ⟨rfl, quiets, fresh⟩
  refine Meets.call_watching ?_
  rintro ⟨⟩ u answered
  obtain rfl : u = { v with transport := some channel } := answered
  refine .ret ⟨rfl, ⟨⟨quiets.unacked, .inr fun d mem on_channel => ?_⟩, quiets.contents⟩, rfl⟩
  exact fresh d mem (Option.some.inj on_channel).symm

/-- The channel of the adapter, or another one on which nothing was handed out yet. -/
theorem activeTransport_meets (kept : Kept among base (w, audit)) : Meets (audited among)
    (fun channel t => t.2 = audit ∧ Quiets w t.1 ∧ t.1.transport = some channel)
    (Audited among base) activeTransport (w, audit) := by
  have inner : ∀ v : RabbitMqWorld, Kept among base (v, audit) → Meets (audited among)
      (fun (result : Nat × Bool) t => t.2 = audit ∧ Quiets v t.1 ∧ t.1.transport = some result.1)
      (Audited among base) currentTransport (v, audit) := by
    intro v kept
    refine Meets.call_watching ?_
    rintro transport u ⟨rfl, rfl⟩
    cases sent : u.transport with
    | none => exact reconnect_meets kept
    | some channel =>
      refine Meets.call_watching ?_
      rintro (_ | _) x answered
      · obtain rfl : x = u := answered
        exact reconnect_meets kept
      · obtain rfl : x = u := answered
        exact .ret ⟨rfl, .refl x, sent⟩
  have current : Meets (audited among)
      (fun (result : Nat × Bool) t => t.2 = audit ∧ Quiets w t.1 ∧ t.1.transport = some result.1)
      (Audited among base) (locked .transport currentTransport) (w, audit) := by
    have entered := inner { w with locked := .transport :: w.locked } (kept.same rfl)
    refine locked_meets (entered.mono ?_ ?_)
    · rintro result ⟨u, _⟩ ⟨rfl, quiets, on_channel⟩
      exact ⟨rfl, ⟨⟨quiets.unacked, quiets.transport⟩, quiets.contents⟩, on_channel⟩
    · exact fun t ended => ⟨ended.balance, ended.held⟩
  refine current.bind ?_
  rintro ⟨channel, _ | _⟩ ⟨u, _⟩ ⟨rfl, quiets, on_channel⟩
  · exact .ret ⟨rfl, quiets, on_channel⟩
  · refine Meets.bind clearLeases_meets ?_
    rintro ⟨⟩ ⟨v, _⟩ ⟨rfl, server, transport⟩
    refine .ret ⟨rfl, ⟨⟨?_, ?_⟩, ?_⟩, transport.trans on_channel⟩
    · rw [server]
      exact quiets.unacked
    · rw [server, transport]
      exact quiets.transport
    · rw [server]
      exact quiets.contents

end Transport

section Publication

variable {among : String → Bool} {w u : RabbitMqWorld} {audit : Audit} {α : Type}
  {base : Multiset (String × RabbitMqPayload)}

/-- A command that moves no message, and what comes after it. -/
theorem setup_then {c : Amqp.Cmd RabbitMqPayload} {message : String} (plainly : Plainly c)
    {f : c.Reply → RabbitMqProg α} {Q : α → RabbitMqWorld × Audit → Prop}
    (kept : Kept among base (w, audit))
    (next : ∀ reply u, Kept among base (u, audit) → Quiets w u → u.transport = w.transport →
      Meets (audited among) Q (Audited among base) (f reply) (u, audit)) :
    Meets (audited among) Q (Audited among base) ((withTransportResult c message).bind f)
      (w, audit) := by
  refine Meets.bind (setup_meets plainly kept) ?_
  rintro reply ⟨u, _⟩ ⟨rfl, quiets, transport⟩
  exact next reply u (kept.same quiets.stored) quiets transport

theorem ensureTopology_meets (channel : Nat) (topology : RabbitMqRouteTopology)
    (kept : Kept among base (w, audit)) :
    Meets (audited among) (fun _ t => t.2 = audit ∧ Quiets w t.1 ∧ t.1.transport = w.transport)
      (Audited among base) (ensureTopology channel topology) (w, audit) := by
  refine setup_then (by trivial) kept fun _ w₁ k₁ q₁ t₁ => ?_
  refine setup_then (by trivial) k₁ fun _ w₂ k₂ q₂ t₂ => ?_
  refine setup_then (by trivial) k₂ fun _ w₃ k₃ q₃ t₃ => ?_
  refine setup_then (by trivial) k₃ fun _ w₄ k₄ q₄ t₄ => ?_
  refine setup_then (by trivial) k₄ fun _ w₅ k₅ q₅ t₅ => ?_
  refine setup_then (by trivial) k₅ fun _ w₆ k₆ q₆ t₆ => ?_
  refine setup_then (by trivial) k₆ fun _ w₇ k₇ q₇ t₇ => ?_
  refine setup_then (by trivial) k₇ fun _ w₈ k₈ q₈ t₈ => ?_
  refine setup_then (by trivial) k₈ fun _ w₉ k₉ q₉ t₉ => ?_
  have quiets := (((((((q₁.trans q₂).trans q₃).trans q₄).trans q₅).trans q₆).trans q₇).trans
    q₈).trans q₉
  exact .ret ⟨rfl, quiets, by rw [t₉, t₈, t₇, t₆, t₅, t₄, t₃, t₂, t₁]⟩

theorem publishConfirmed_meets {channel : Nat} {exchange routingKey failure unconfirmed : String}
    {payload : RabbitMqPayload} {expirationMs : Option UInt64}
    (settled : Settled among base (w, audit)) :
    Meets (audited among) (fun _ t => Kept among base t ∧ Frees w t.1) (Audited among base)
      (publishConfirmed channel exchange routingKey payload expirationMs failure unconfirmed)
      (w, audit) := by
  refine setup_then (by trivial) settled.toKept fun _ v kept quiets _ => ?_
  have settled' : Settled among base (v, audit) := ⟨kept, settled.settled⟩
  refine Meets.bind (withTransportResult_meets (Q := fun _ t =>
    Kept among base t ∧ Frees v t.1) ?_ ?_) ?_
  · intro reply u answered
    have attempted := attempted_of_step answered
    exact ⟨settled'.published attempted, (stored_published among attempted).1⟩
  · intro error u x attempted server none
    exact (settled'.published attempted).givenUp server none
  · rintro reply ⟨u, _⟩ ⟨kept', frees⟩
    exact .ret ⟨kept', quiets.toFrees.trans frees⟩

theorem publishRawPayload_meets {topology : RabbitMqRouteTopology} {exchange routingKey : String}
    {payload : RabbitMqPayload} {expirationMs : Option UInt64}
    (settled : Settled among base (w, audit)) :
    Meets (audited among) (fun _ t => Kept among base t ∧ Frees w t.1) (Audited among base)
      (publishRawPayload topology exchange routingKey payload expirationMs) (w, audit) := by
  refine Meets.bind (activeTransport_meets settled.toKept) ?_
  rintro channel ⟨w₁, _⟩ ⟨rfl, quiets₁, -⟩
  have settled₁ := settled.same quiets₁.stored
  refine Meets.bind (ensureTopology_meets channel topology settled₁.toKept) ?_
  rintro ⟨⟩ ⟨w₂, _⟩ ⟨rfl, quiets₂, -⟩
  have frees := (quiets₁.trans quiets₂).toFrees
  refine (publishConfirmed_meets (settled₁.same quiets₂.stored)).mono ?_ fun _ post => post
  rintro ⟨⟩ t ⟨kept, frees'⟩
  exact ⟨kept, frees.trans frees'⟩

end Publication

section Drained

variable {among : String → Bool} {β : Type} {queue : String} {channel : Nat}
  {messages rest : List (RabbitMqDrained β)} {message : RabbitMqDrained β} {w u : RabbitMqWorld}

/-- Messages that were taken out of a queue: no other message of the queues is held on the channel
of the adapter. -/
def Drained (among : String → Bool) (queue : String) (messages : List (RabbitMqDrained β))
    (w : RabbitMqWorld) : Prop :=
  ∀ d ∈ w.server.unacked, w.transport = some d.channel → among d.message.queue = true →
    among queue = true ∧ ∃ message ∈ messages, d.tag = message.deliveryTag.number

/-- The same while they are put back over one channel, though the adapter may get another one. -/
def Restoring (among : String → Bool) (queue : String) (channel : Nat)
    (messages : List (RabbitMqDrained β)) (w : RabbitMqWorld) : Prop :=
  ∀ d ∈ w.server.unacked, w.transport = some d.channel → among d.message.queue = true →
    among queue = true ∧ d.channel = channel ∧
      ∃ message ∈ messages, d.tag = message.deliveryTag.number

theorem NoneHeld.drained (free : NoneHeld among w) : Drained among queue messages w := by
  intro d mem on_channel watched
  rw [free d mem on_channel] at watched
  cases watched

theorem noneHeld_of_drained (drained : Drained among queue ([] : List (RabbitMqDrained β)) w) :
    NoneHeld among w := by
  intro d mem on_channel
  by_contra watched
  obtain ⟨-, _, none, _⟩ := drained d mem on_channel (by simpa using watched)
  cases none

/-- What is taken out of another queue is none of the messages. -/
theorem Drained.noneHeld (drained : Drained among queue messages w)
    (unwatched : among queue = false) : NoneHeld among w := by
  intro d mem on_channel
  by_contra watched
  obtain ⟨own, -⟩ := drained d mem on_channel (by simpa using watched)
  rw [unwatched] at own
  cases own

theorem Drained.frees (drained : Drained among queue messages w) (frees : Frees w u) :
    Drained among queue messages u := by
  intro d mem on_channel watched
  rcases frees.transport with kept | fresh
  · exact drained d (frees.unacked d mem) (kept ▸ on_channel) watched
  · exact absurd on_channel (fresh d mem)

theorem Drained.perm {others : List (RabbitMqDrained β)}
    (drained : Drained among queue messages w) (perm : messages.Perm others) :
    Drained among queue others w := by
  intro d mem on_channel watched
  obtain ⟨own, message, there, tagged⟩ := drained d mem on_channel watched
  exact ⟨own, message, perm.mem_iff.1 there, tagged⟩

theorem Drained.restoring (drained : Drained among queue messages w)
    (on_channel : w.transport = some channel) : Restoring among queue channel messages w := by
  intro d mem same watched
  obtain ⟨own, found⟩ := drained d mem same watched
  exact ⟨own, Option.some.inj (same.symm.trans on_channel), found⟩

theorem Restoring.drained (restoring : Restoring among queue channel messages w) :
    Drained among queue messages w := by
  intro d mem on_channel watched
  obtain ⟨own, -, found⟩ := restoring d mem on_channel watched
  exact ⟨own, found⟩

theorem Restoring.frees (restoring : Restoring among queue channel messages w)
    (frees : Frees w u) : Restoring among queue channel messages u := by
  intro d mem on_channel watched
  rcases frees.transport with kept | fresh
  · exact restoring d (frees.unacked d mem) (kept ▸ on_channel) watched
  · exact absurd on_channel (fresh d mem)

/-- The message that was put back last is acknowledged, or the channel on which it was handed out
has closed. -/
theorem Restoring.acked (restoring : Restoring among queue channel (message :: rest) w)
    {reply : Unit}
    (step : rabbitmq w (.command (.basicAck channel message.deliveryTag)) (.ok reply) u) :
    Restoring among queue channel rest u := by
  rcases step with ⟨lost, server, done, rfl⟩ | ⟨lost, closed, rfl⟩
  · obtain ⟨-, -, -, -, -, unacked⟩ := Amqp.Server.basicAck_contents done
    intro d mem on_channel watched
    rw [unacked] at mem
    obtain ⟨there, other⟩ := List.mem_filter.1 mem
    obtain ⟨own, same, m, listed, named⟩ :=
      restoring d (Amqp.Server.unacked_closeAll _ lost d there) on_channel watched
    rcases List.mem_cons.1 listed with rfl | later
    · exact absurd ⟨same, named⟩ (of_decide_eq_true other)
    · exact ⟨own, same, m, later, named⟩
  · intro d mem on_channel watched
    obtain ⟨-, same, -⟩ :=
      restoring d (Amqp.Server.unacked_closeAll _ lost d mem) on_channel watched
    exact absurd same (Amqp.Server.unacked_closeAll_of_mem closed d mem)

/-- A message of another queue is none of the messages. -/
theorem noneHeld_of_got {reply : Option (Amqp.DeliveryTag × RabbitMqPayload)}
    (free : NoneHeld among w) (unwatched : among queue = false)
    (executed : Executed w (.basicGet channel queue) reply u) : NoneHeld among u := by
  obtain ⟨lost, server, done, rfl⟩ := executed
  have changed := (Amqp.Server.basicGet_contents done).2
  have before := Amqp.Server.unacked_closeAll w.server lost
  intro d mem on_channel
  cases reply with
  | none =>
    have unacked : server.unacked = (w.server.closeAll lost).unacked := changed
    rw [unacked] at mem
    exact free d (before d mem) on_channel
  | some first =>
    obtain ⟨-, -, -, message, item, unacked⟩ := changed
    rw [unacked] at mem
    rcases List.mem_append.1 mem with old | new
    · exact free d (before d old) on_channel
    · rw [List.mem_singleton.1 new]
      have at_queue : message.queue = queue := congrArg Prod.fst item
      exact at_queue ▸ unwatched

/-- A message that is taken out joins the others. -/
theorem Drained.taken {tag : Amqp.DeliveryTag} {payload : RabbitMqPayload} (value : β)
    (drained : Drained among queue messages w)
    (executed : Executed w (.basicGet channel queue) (some (tag, payload)) u) :
    Drained among queue (messages ++ [⟨tag, payload, value⟩]) u := by
  obtain ⟨lost, server, done, rfl⟩ := executed
  obtain ⟨-, -, -, -, taken, item, unacked⟩ := Amqp.Server.basicGet_contents done
  intro d mem on_channel watched
  rw [unacked] at mem
  rcases List.mem_append.1 mem with old | new
  · obtain ⟨own, message, there, tagged⟩ :=
      drained d (Amqp.Server.unacked_closeAll _ lost d old) on_channel watched
    exact ⟨own, message, List.mem_append_left _ there, tagged⟩
  · obtain rfl := List.mem_singleton.1 new
    have at_queue : taken.queue = queue := congrArg Prod.fst item
    exact ⟨at_queue ▸ watched, _, List.mem_append_right _ (List.mem_singleton_self _), rfl⟩

end Drained

section Draining

variable {among : String → Bool} {β : Type} {queue : String} {channel : Nat} {w u : RabbitMqWorld}
  {audit : Audit} {base : Multiset (String × RabbitMqPayload)}

/-- A payload that does not parse ends the call with whatever is held by then. -/
theorem decode_meets {read : RabbitMqPayload → Option β} {payload : RabbitMqPayload}
    (reads : NoneHeld among w ∨ (read payload).isSome = payload.asRecord.isSome)
    (kept : Kept among base (w, audit)) :
    Meets (audited among) (fun _ t => t = (w, audit)) (Audited among base) (decode read payload)
      (w, audit) := by
  refine Meets.call_watching ?_
  intro parses x answered
  obtain rfl : x = w := answered
  cases parses with
  | false =>
    have noted : audit.after among x (.parse payload) false x =
        if NoneHeld among x then audit else audit.leave := by simp [Audit.after]
    rw [noted]
    exact .fail kept.ended
  | true =>
    cases value : read payload with
    | none =>
      have noted : audit.after among x (.parse payload) true x =
          if NoneHeld among x then audit else audit.leave := by
        by_cases free : NoneHeld among x
        · simp [Audit.after, free]
        · have unread := reads.resolve_left free
          rw [value] at unread
          simp [Audit.after, ← unread]
      rw [noted]
      exact .fail kept.ended
    | some value =>
      have noted : audit.after among x (.parse payload) true x = audit := by
        rcases reads with free | same
        · simp [Audit.after, free]
        · simp_all [Audit.after]
      rw [noted]
      exact .ret rfl

/-- Every message of a queue is taken out; the queues hold what they held. -/
theorem drainQueue_meets {failure : String} {read : RabbitMqPayload → Option β}
    (reads : among queue = true → ∀ payload, (read payload).isSome = payload.asRecord.isSome)
    (rounds : Nat) (messages : List (RabbitMqDrained β))
    (drained : Drained among queue messages w) (on_channel : w.transport = some channel)
    (settled : Settled among base (w, audit)) : Meets (audited among)
      (fun rest t => Settled among base t ∧ t.1.transport = some channel ∧
        Drained among queue (messages ++ rest) t.1)
      (Audited among base) (drainQueue channel queue failure read rounds) (w, audit) := by
  induction rounds generalizing w messages with
  | zero => exact Meets.call_watching fun never => (nomatch never)
  | succ rounds ih =>
    refine Meets.bind (withTransportResult_meets (Q := fun reply t => t.2 = audit ∧
      Executed w (.basicGet channel queue) reply t.1) ?_ ?_) ?_
    · intro reply u answered
      exact ⟨rfl, executed_of_basicGet answered⟩
    · intro error u v attempted server none
      refine (settled.toKept.same ?_).givenUp server none
      rcases attempted with refused | ⟨reply, lost, server, done, rfl⟩
      · exact (quiets_refused refused).stored
      · refine Amqp.Server.stored_of_contents _ ?_
        rw [(Amqp.Server.basicGet_contents done).1, Amqp.Server.contents_closeAll]
    · rintro reply ⟨u, _⟩ ⟨rfl, executed⟩
      have contents : u.server.contents = w.server.contents := by
        obtain ⟨lost, server, done, rfl⟩ := executed
        rw [(Amqp.Server.basicGet_contents done).1, Amqp.Server.contents_closeAll]
      have settled' := settled.same (u := u) (Amqp.Server.stored_of_contents _ contents)
      have on_channel' : u.transport = some channel := executed.transport.trans on_channel
      cases reply with
      | none =>
        have frees : Frees w u := by
          obtain ⟨lost, server, done, rfl⟩ := executed
          have unacked := (Amqp.Server.basicGet_contents done).2
          refine ⟨?_, .inl rfl⟩
          rw [unacked]
          exact Amqp.Server.unacked_closeAll _ lost
        refine .ret ⟨settled', on_channel', ?_⟩
        rw [List.append_nil]
        exact drained.frees frees
      | some first =>
        obtain ⟨tag, payload⟩ := first
        have joins := fun value => drained.taken value executed
        have reads' : NoneHeld among u ∨ (read payload).isSome = payload.asRecord.isSome := by
          cases watched : among queue with
          | true => exact .inr (reads watched payload)
          | false => exact .inl (noneHeld_of_got (drained.noneHeld watched) watched executed)
        refine Meets.bind (decode_meets reads' settled'.toKept) ?_
        rintro value _ rfl
        refine Meets.bind (ih _ (joins value) on_channel' settled') ?_
        rintro rest ⟨v, _⟩ ⟨settled'', on_channel'', all⟩
        refine .ret ⟨settled'', on_channel'', ?_⟩
        rwa [List.append_assoc] at all

/-- The acknowledgement of a message that was taken out. -/
theorem ack_meets {message : RabbitMqDrained β} {rest : List (RabbitMqDrained β)} {failure : String}
    (restoring : Restoring among queue channel (message :: rest) w)
    (kept : Kept among base (w, audit)) :
    Meets (audited among)
      (fun _ t => Settled among base t ∧ Restoring among queue channel rest t.1)
      (Audited among base)
      (withTransportResult (.basicAck channel message.deliveryTag) failure) (w, audit) := by
  refine withTransportResult_meets ?_ ?_
  · intro reply u answered
    exact ⟨kept.acked (attempted_of_step answered), restoring.acked answered⟩
  · intro error u v attempted server none
    exact (kept.acked attempted).toKept.givenUp server none

/-- The messages that were taken out are put back into their queue. -/
theorem restoreMessages_meets {topology : RabbitMqRouteTopology}
    {messages : List RabbitMqDeadLetterMessage}
    (restoring : Restoring among topology.deadLetterQueueName channel messages w)
    (settled : Settled among base (w, audit)) : Meets (audited among)
      (fun _ t => Settled among base t ∧ NoneHeld among t.1)
      (Audited among base) (restoreMessages channel topology messages) (w, audit) := by
  induction messages generalizing w audit with
  | nil => exact .ret ⟨settled, noneHeld_of_drained restoring.drained⟩
  | cons message rest ih =>
    refine Meets.bind (publishRawPayload_meets settled) ?_
    rintro ⟨⟩ ⟨u, _⟩ ⟨kept, frees⟩
    refine Meets.bind (ack_meets (restoring.frees frees) kept) ?_
    rintro ⟨⟩ ⟨v, _⟩ ⟨settled', restoring'⟩
    exact ih restoring' settled'

theorem restoreRegistry_meets {messages : List (RabbitMqDrained RabbitMqRouteRegistryEntry)}
    (restoring : Restoring among queue channel messages w)
    (settled : Settled among base (w, audit)) : Meets (audited among)
      (fun _ t => Settled among base t ∧ NoneHeld among t.1)
      (Audited among base) (restoreRegistry channel queue messages) (w, audit) := by
  induction messages generalizing w audit with
  | nil => exact .ret ⟨settled, noneHeld_of_drained restoring.drained⟩
  | cons message rest ih =>
    refine Meets.bind (publishConfirmed_meets settled) ?_
    rintro ⟨⟩ ⟨u, _⟩ ⟨kept, frees⟩
    refine Meets.bind (ack_meets (restoring.frees frees) kept) ?_
    rintro ⟨⟩ ⟨v, _⟩ ⟨settled', restoring'⟩
    exact ih restoring' settled'

end Draining

end RabbitMq

end NexusCore.Runtime
