import NexusCore.Lib.AmqpTags
import NexusCore.Lib.Interleaving
import NexusCore.Runtime.Broker.RabbitMqWorld

/-!
# The delivery tags of the RabbitMQ adapter

A tag counts on the channel that has issued it. The messages that a call has in its hands are
followed through its answers: as long as the adapter keeps the channel while a call has still to
record or to acknowledge a message, every acknowledgement is sent on the channel of its tag.
-/

namespace NexusCore.Runtime

open NexusCore.Lib

namespace RabbitMq

/-- A message that a call has been given: it has read it, or taken its lease. -/
inductive InHand where
  | read (tag : Amqp.DeliveryTag) (payload : RabbitMqPayload)
  | lease (deliveryId : String) (tag : Amqp.DeliveryTag)

/-- A delivery id names the task of a payload and the number of a tag. -/
def Names (deliveryId : String) (tag : Amqp.DeliveryTag) (payload : RabbitMqPayload) : Prop :=
  ∃ envelope, payload.asEnvelope = some envelope ∧
    deliveryId = "rmq-" ++ envelope.task.taskId ++ "-" ++ toString tag.number

namespace InHand

def tag : InHand → Amqp.DeliveryTag
  | .read tag _ | .lease _ tag => tag

/-- What is known of the message. -/
def About : InHand → Amqp.Message RabbitMqPayload → Prop
  | .read _ payload, message => message.payload = payload
  | .lease deliveryId tag, message => Names deliveryId tag message.payload

end InHand

/-- The channel that a call was given last, the messages in its hands, and whether it has still to
forget the leases of a channel that it has replaced. -/
structure Hands where
  channel : Option Nat
  messages : List InHand
  forgets : Bool

namespace Hands

def empty : Hands := ⟨none, [], false⟩

def drop (g : Hands) (tag : Amqp.DeliveryTag) : Hands :=
  { g with messages := g.messages.filter (·.tag ≠ tag) }

/-- What the answer to a command changes. -/
def nextCommand (g : Hands) : (c : Amqp.Cmd RabbitMqPayload) → Except String c.Reply → Hands
  | .basicGet _ _, .ok (some (tag, payload)) =>
    { g with messages := g.messages ++ [.read tag payload] }
  | .basicAck _ tag, _ => g.drop tag
  | _, _ => g

/-- A lease that is taken before there is a channel is not acknowledged. -/
def take (g : Hands) (deliveryId : String) (tag : Amqp.DeliveryTag) : Hands :=
  match g.channel with
  | none => g
  | some _ => { g with messages := g.messages ++ [.lease deliveryId tag] }

/-- What an answer changes. -/
def next (g : Hands) : (op : RabbitMqOp) → op.Answer → Hands
  | .command c, answer => g.nextCommand c answer
  | .isConnected channel, true => { g with channel := some channel }
  | .setTransport (some channel), _ => { g with channel := some channel, forgets := true }
  | .setTransport none, _ => { g with forgets := true }
  | .clearLeases, _ => { g with forgets := false }
  | .insertLease leased, _ => g.drop leased.deliveryTag
  | .removeLease deliveryId, some leased => g.take deliveryId leased.deliveryTag
  | _, _ => g

/-- A call reads on its channel, and acknowledges a message in its hands on the channel of the
tag. -/
def permitsCommand (g : Hands) : Amqp.Cmd RabbitMqPayload → Prop
  | .basicGet channel _ => g.channel = some channel
  | .basicAck channel tag => tag.issuer = channel ∧ ∃ m ∈ g.messages, m.tag = tag
  | _ => True

/-- A call leases a message in its hands to the task that the message carries. -/
def permits (g : Hands) : RabbitMqOp → Prop
  | .command c => g.permitsCommand c
  | .insertLease leased => g.channel = some leased.deliveryTag.issuer ∧
      ∃ payload, .read leased.deliveryTag payload ∈ g.messages ∧
        Names leased.delivery.deliveryId leased.deliveryTag payload
  | .removeLease _ => g.forgets = false
  | _ => True

/-- The broker gives a call a new tag. -/
def assumesCommand (g : Hands) : (c : Amqp.Cmd RabbitMqPayload) → Except String c.Reply → Prop
  | .basicGet channel _, .ok (some (tag, _)) =>
    tag.issuer = channel ∧ ∀ m ∈ g.messages, m.tag ≠ tag
  | _, _ => True

/-- A call with messages in its hands is given the channel that it has, and a lease is one of that
channel. -/
def assumes (g : Hands) : (op : RabbitMqOp) → op.Answer → Prop
  | .command c, answer => g.assumesCommand c answer
  | .isConnected channel, true => g.messages ≠ [] → g.channel = some channel
  | .setTransport (some _), _ => g.messages = []
  | .removeLease _, some leased => ∀ channel ∈ g.channel, leased.deliveryTag.issuer = channel
  | _, _ => True

/-- The messages in hand after some answers. -/
def after (log : List (Sigma RabbitMqOp.Answer)) : Hands :=
  log.foldl (fun g entry => g.next entry.1 entry.2) empty

theorem next_setup (g : Hands) {c : Amqp.Cmd RabbitMqPayload} (setup : c.IsSetup)
    (answer : Except String c.Reply) : g.next (.command c) answer = g := by
  cases c with
  | awaitConfirm | basicGet | basicAck => exact setup.elim
  | _ => rfl

theorem permits_setup (g : Hands) {c : Amqp.Cmd RabbitMqPayload} (setup : c.IsSetup) :
    g.permits (.command c) := by
  cases c with
  | awaitConfirm | basicGet | basicAck => exact setup.elim
  | _ => trivial

end Hands

def handsDiscipline : Discipline RabbitMqOp RabbitMqOp.Answer Hands where
  permits := Hands.permits
  next := Hands.next
  clear := fun g => g.forgets = false

section Rules

variable {α β : Type} {Q : α → Hands → Prop} {R : β → Hands → Prop} {g : Hands}
  {p : RabbitMqProg α}

/-- What a call has in its hands when it ends. -/
def Leaves (Q : α → Hands → Prop) (g : Hands) : AppResult α → Prop
  | .ok a => Q a g
  | .error _ => g.forgets = false

/-- A program that does with the messages in its hands what it may do. -/
abbrev Handles (Q : α → Hands → Prop) (g : Hands) (p : RabbitMqProg α) : Prop :=
  handsDiscipline.Upholds Hands.assumes (Leaves Q) g p

theorem Handles.bind {f : α → RabbitMqProg β} (first : Handles Q g p)
    (rest : ∀ a g', Q a g' → Handles R g' (f a)) : Handles R g (p.bind f) :=
  Discipline.Upholds.bind first (fun g' a => rest a g') fun _ _ failed => failed

theorem Handles.mono {Q' : α → Hands → Prop} (handles : Handles Q g p)
    (weaker : ∀ a g', Q a g' → Q' a g') : Handles Q' g p := by
  refine Discipline.Upholds.mono handles ?_
  rintro g' (e | a) left
  · exact left
  · exact weaker a g' left

theorem handles_ret {a : α} (post : Q a g) : Handles Q g (.ret a) := .ret post

theorem handles_fail {e : AppError} (remembers : g.forgets = false) :
    Handles Q g (.fail e : RabbitMqProg α) := .fail remembers

theorem handles_op (c : RabbitMqOp) {Q : c.Answer → Hands → Prop} (permitted : g.permits c)
    (post : ∀ answer, g.assumes c answer → Q answer (g.next c answer)) :
    Handles Q g (.call c .ret : RabbitMqProg c.Answer) :=
  .call permitted fun answer assumed => .ret (post answer assumed)

theorem handles_locked {mutex : RabbitMqMutex} (inner : Handles Q g p) :
    Handles Q g (locked mutex p) := by
  refine .call trivial fun _ _ => ?_
  refine Discipline.Upholds.bind (Discipline.Upholds.attempt inner) ?_ ?_
  · rintro g' result ⟨_, same, left⟩
    cases same
    refine .call trivial fun _ _ => ?_
    cases result with
    | error e => exact .fail left
    | ok a => exact .ret left
  · rintro g' e ⟨_, same, _⟩
    cases same

end Rules

/-- Some messages in hand, and no leases to forget. -/
structure Holding (messages : List InHand) (g : Hands) : Prop where
  messages : g.messages = messages
  remembers : g.forgets = false

/-- Some messages in hand and a channel. -/
structure At (channel : Nat) (messages : List InHand) (g : Hands) : Prop where
  channel : g.channel = some channel
  holding : Holding messages g

section Channels

variable {α : Type} {g : Hands} {messages : List InHand} {channel : Nat}

theorem clearLeases_handles : Handles (fun _ g' => g' = { g with forgets := false }) g clearLeases :=
  handles_locked (handles_op .clearLeases trivial fun _ _ => rfl)

theorem invalidateTransport_handles :
    Handles (fun _ g' => g'.forgets = false) g invalidateTransport := by
  have closed : Handles (fun _ _ => True) g
      (locked .transport (.call (.setTransport none) .ret : RabbitMqProg Unit)) :=
    handles_locked (handles_op (.setTransport none) trivial fun _ _ => trivial)
  refine closed.bind fun _ g' _ => clearLeases_handles.mono ?_
  rintro _ g rfl
  rfl

theorem connectStep_handles {c : Amqp.Cmd RabbitMqPayload} {message : String} (setup : c.IsSetup)
    (remembers : g.forgets = false) :
    Handles (fun _ g' => g' = g) g (connectStep c message) := by
  refine .call (g.permits_setup setup) fun answer _ => ?_
  have same : handsDiscipline.next g (.command c) answer = g := g.next_setup setup answer
  rw [same]
  cases answer with
  | ok reply => exact handles_ret rfl
  | error error => exact handles_fail remembers

theorem connectTransport_handles (remembers : g.forgets = false) :
    Handles (fun _ g' => g' = g) g connectTransport := by
  refine (connectStep_handles (by trivial) remembers).bind ?_
  rintro _ g rfl
  refine (connectStep_handles (by trivial) remembers).bind ?_
  rintro channel g rfl
  refine (connectStep_handles (by trivial) remembers).bind ?_
  rintro _ g rfl
  exact handles_ret rfl

/-- The channel of the adapter: an older one, or another one whose leases are still to be
forgotten. -/
inductive Given (messages : List InHand) (g : Hands) : Nat × Bool → Hands → Prop where
  | old {channel : Nat} {g' : Hands} : At channel messages g' →
      (messages ≠ [] → g.channel = some channel) → Given messages g (channel, false) g'
  | new {channel : Nat} : messages = [] → Given messages g (channel, true) ⟨some channel, [], true⟩

theorem reconnect_handles (holding : Holding messages g) :
    Handles (Given messages g) g reconnect := by
  refine (connectTransport_handles holding.remembers).bind ?_
  rintro channel g rfl
  refine .call trivial fun _ empty => ?_
  have empty : g.messages = [] := empty
  refine handles_ret ?_
  change Given messages g (channel, true) { g with channel := some channel, forgets := true }
  rw [empty]
  exact .new (holding.messages.symm.trans empty)

theorem currentTransport_handles (holding : Holding messages g) :
    Handles (Given messages g) g currentTransport := by
  refine .call trivial fun transport _ => ?_
  cases transport with
  | none => exact reconnect_handles holding
  | some channel =>
    refine .call trivial fun connected kept => ?_
    cases connected with
    | false => exact reconnect_handles holding
    | true =>
      refine handles_ret (.old ⟨rfl, holding.messages, holding.remembers⟩ ?_)
      intro any
      exact kept fun empty => any (holding.messages.symm.trans empty)

/-- A call is given a channel; with messages in its hands, the one that it had before. -/
theorem activeTransport_handles (holding : Holding messages g) :
    Handles (fun channel g' => At channel messages g' ∧ (messages ≠ [] → g.channel = some channel))
      g activeTransport := by
  refine (handles_locked (currentTransport_handles holding)).bind ?_
  rintro _ _ (@⟨channel, g', here, same⟩ | @⟨channel, rfl⟩)
  · exact handles_ret ⟨here, same⟩
  · refine clearLeases_handles.bind ?_
    rintro _ g rfl
    exact handles_ret ⟨⟨rfl, rfl, rfl⟩, fun any => absurd rfl any⟩

theorem withTransportResult_handles {c : Amqp.Cmd RabbitMqPayload} {message : String}
    {Q : c.Reply → Hands → Prop} (permitted : g.permits (.command c))
    (post : ∀ reply, g.assumes (.command c) (.ok reply) → Q reply (g.next (.command c) (.ok reply))) :
    Handles Q g (withTransportResult c message) := by
  refine .call permitted fun answer assumed => ?_
  cases answer with
  | ok reply => exact handles_ret (post reply assumed)
  | error error =>
    exact invalidateTransport_handles.bind fun _ _ remembers => handles_fail remembers

theorem basicGet_handles {queue message : String}
    {Q : Option (Amqp.DeliveryTag × RabbitMqPayload) → Hands → Prop} (here : g.channel = some channel)
    (empty : Q none g)
    (first : ∀ tag payload, tag.issuer = channel → (∀ m ∈ g.messages, m.tag ≠ tag) →
      Q (some (tag, payload)) { g with messages := g.messages ++ [.read tag payload] }) :
    Handles Q g (withTransportResult (.basicGet channel queue) message) := by
  refine withTransportResult_handles (c := .basicGet channel queue) here ?_
  rintro (_ | ⟨tag, payload⟩) known
  · exact empty
  · exact first tag payload known.1 known.2

theorem setup_handles {c : Amqp.Cmd RabbitMqPayload} {message : String} (setup : c.IsSetup) :
    Handles (fun _ g' => g' = g) g (withTransportResult c message) :=
  withTransportResult_handles (g.permits_setup setup) fun _ _ => g.next_setup setup _

theorem ensureTopology_handles (topology : RabbitMqRouteTopology) :
    Handles (fun _ g' => g' = g) g (ensureTopology channel topology) := by
  unfold ensureTopology
  repeat
    refine (setup_handles (by trivial)).bind ?_
    rintro _ g rfl
  exact handles_ret rfl

theorem publishConfirmed_handles {exchange routingKey failure unconfirmed : String}
    {payload : RabbitMqPayload} {expirationMs : Option UInt64} :
    Handles (fun _ g' => g' = g) g (publishConfirmed channel exchange routingKey payload
      expirationMs failure unconfirmed) := by
  refine (setup_handles (by trivial)).bind ?_
  rintro _ g rfl
  refine (withTransportResult_handles (by trivial) fun _ _ => rfl).bind ?_
  rintro _ g rfl
  exact handles_ret rfl

theorem publishRawPayload_handles {topology : RabbitMqRouteTopology} {exchange routingKey : String}
    {payload : RabbitMqPayload} {expirationMs : Option UInt64} (holding : Holding messages g) :
    Handles (fun _ g' => ∃ channel, At channel messages g' ∧
        (messages ≠ [] → g.channel = some channel)) g
      (publishRawPayload topology exchange routingKey payload expirationMs) := by
  refine (activeTransport_handles holding).bind ?_
  intro channel g' given
  refine (ensureTopology_handles topology).bind ?_
  rintro _ g rfl
  refine publishConfirmed_handles.mono ?_
  rintro _ g rfl
  exact ⟨channel, given⟩

theorem catalog_handles (c : CatalogCmd RabbitMqRouteTopology) :
    Handles (fun _ g' => g' = g) g (catalog c) :=
  handles_op (.catalog c) trivial fun _ _ => rfl

theorem decode_handles {read : RabbitMqPayload → Option α} {payload : RabbitMqPayload}
    (remembers : g.forgets = false) :
    Handles (fun value g' => read payload = some value ∧ g' = g) g (decode read payload) := by
  refine .call trivial fun parses _ => ?_
  cases parses with
  | false => exact handles_fail remembers
  | true =>
    cases read payload with
    | none => exact handles_fail remembers
    | some value => exact handles_ret ⟨rfl, rfl⟩

end Channels

section Leases

variable {g : Hands} {channel : Nat}

/-- A lease that is taken on a channel is in hand. -/
theorem takeLease_handles {deliveryId : String} (here : At channel [] g) :
    Handles (fun taken g' => At channel (taken.toList.map fun leased => .lease deliveryId leased.deliveryTag) g' ∧
      ∀ leased ∈ taken, leased.deliveryTag.issuer = channel) g (takeLease deliveryId) := by
  refine handles_locked (handles_op (.removeLease deliveryId) here.holding.remembers ?_)
  rintro (_ | leased) known
  · exact ⟨here, fun _ mem => absurd mem (Option.not_mem_none _)⟩
  · have issuer : leased.deliveryTag.issuer = channel := known channel here.channel
    refine ⟨?_, fun _ same => Option.some.inj same ▸ issuer⟩
    change At channel [.lease deliveryId leased.deliveryTag] (g.take deliveryId leased.deliveryTag)
    rw [Hands.take, here.channel]
    exact ⟨rfl, congrArg (· ++ [.lease deliveryId leased.deliveryTag]) here.holding.messages,
      here.holding.remembers⟩

/-- Without a channel nothing changes. -/
theorem takeFirstLease_handles {deliveryId : String} :
    Handles (fun _ g' => g' = .empty) .empty (takeLease deliveryId) := by
  refine handles_locked (handles_op (.removeLease deliveryId) rfl ?_)
  rintro (_ | leased) _ <;> rfl

theorem ackBrokerDelivery_handles {deliveryId : String} (holding : Holding [] g) :
    Handles (fun _ g' => Holding [] g') g (ackBrokerDelivery deliveryId) := by
  refine (activeTransport_handles holding).bind ?_
  rintro channel g' ⟨here, -⟩
  refine (takeLease_handles here).bind ?_
  rintro (_ | leased) g'' ⟨held, issuer⟩
  · exact handles_ret held.holding
  · have messages : g''.messages = [.lease deliveryId leased.deliveryTag] := held.holding.messages
    refine (withTransportResult_handles ?_ ?_).bind fun _ _ left => handles_ret left
    · refine ⟨issuer leased rfl, .lease deliveryId leased.deliveryTag, ?_, rfl⟩
      exact messages ▸ List.mem_singleton_self _
    · intro _ _
      refine ⟨?_, held.holding.remembers⟩
      change g''.messages.filter _ = []
      rw [messages]
      simp [InHand.tag]

theorem deadLetter_handles (leased : RabbitMqLeasedDelivery) (error : String)
    (holding : Holding [] g) : Handles (fun _ g' => g'.forgets = false) g (deadLetter leased error) := by
  have clock : Handles (fun _ g' => g' = g) g nowMs :=
    handles_op .nowMs trivial fun _ _ => rfl
  refine clock.bind ?_
  rintro now g rfl
  refine (publishRawPayload_handles holding).bind ?_
  rintro _ g' ⟨_, here, -⟩
  exact (ackBrokerDelivery_handles here.holding).mono fun _ _ left => left.remembers

theorem requeue_handles (leased : RabbitMqLeasedDelivery) (error : String) (delayMs : UInt64)
    (holding : Holding [] g) : Handles (fun _ g' => g'.forgets = false) g (requeue leased error delayMs) := by
  refine (publishRawPayload_handles holding).bind ?_
  rintro _ g' ⟨_, here, -⟩
  exact (ackBrokerDelivery_handles here.holding).mono fun _ _ left => left.remembers

theorem lease_handles {topology : RabbitMqRouteTopology} {tag : Amqp.DeliveryTag}
    {payload : RabbitMqPayload} (here : At channel [.read tag payload] g)
    (issuer : tag.issuer = channel) :
    Handles (fun _ g' => At channel [] g') g (lease topology tag payload) := by
  refine (decode_handles here.holding.remembers).bind ?_
  rintro envelope g ⟨reads, rfl⟩
  have messages : g.messages = [.read tag payload] := here.holding.messages
  refine Handles.bind (Q := fun _ g' => At channel [] g') (handles_locked (handles_op (.insertLease _)
    ?_ ?_)) fun _ _ left => handles_ret left
  · refine ⟨here.channel.trans (congrArg some issuer.symm), payload, ?_, envelope, reads, rfl⟩
    exact messages ▸ List.mem_singleton_self _
  · intro _ _
    refine ⟨here.channel, ?_, here.holding.remembers⟩
    change g.messages.filter _ = []
    rw [messages]
    simp [InHand.tag]

theorem reserveRoutes_handles (routes : List Route) (here : At channel [] g) :
    Handles (fun _ g' => g'.forgets = false) g (reserveRoutes channel routes) := by
  induction routes generalizing g with
  | nil => exact handles_ret here.holding.remembers
  | cons route rest ih =>
    refine (catalog_handles (.get route)).bind ?_
    rintro known g rfl
    cases known with
    | none => exact ih here
    | some topology =>
      have found : Handles (fun _ g' => At channel [] g') g (reserveRoute channel route topology) := by
        refine (basicGet_handles (Q := fun first g' =>
          At channel (first.toList.map fun m => .read m.1 m.2) g' ∧ ∀ m ∈ first, m.1.issuer = channel)
          here.channel ⟨here, fun _ mem => absurd mem (Option.not_mem_none _)⟩ ?_).bind ?_
        · intro tag payload issuer _
          refine ⟨⟨here.channel, ?_, here.holding.remembers⟩, fun _ same => ?_⟩
          · exact congrArg (· ++ [.read tag payload]) here.holding.messages
          · rwa [← Option.some.inj same]
        · rintro (_ | ⟨tag, payload⟩) g' ⟨held, issuer⟩
          · exact handles_ret held
          · refine (catalog_handles (.rotate route)).bind ?_
            rintro _ g rfl
            exact (lease_handles held (issuer _ rfl)).bind fun _ _ left => handles_ret left
      refine found.bind ?_
      rintro (_ | delivery) g' left
      · exact ih left
      · exact handles_ret left.holding.remembers

end Leases

/-- The messages of a drained queue, in hand. -/
def inHands {α : Type} (drained : List (RabbitMqDrained α)) : List InHand :=
  drained.map fun m => .read m.deliveryTag m.payload

/-- Messages that were drained on a channel, each under a tag of its own. -/
structure Drawn {α : Type} (channel : Nat) (drained : List (RabbitMqDrained α)) : Prop where
  issuer : ∀ m ∈ drained, m.deliveryTag.issuer = channel
  apart : (drained.map (·.deliveryTag)).Nodup

section Drains

variable {α : Type} {g : Hands} {channel : Nat}

theorem drawn_nil : Drawn channel ([] : List (RabbitMqDrained α)) where
  issuer := fun _ mem => absurd mem List.not_mem_nil
  apart := List.nodup_nil

/-- The acknowledged message is no longer in hand, the others are. -/
theorem filter_inHands {tag : Amqp.DeliveryTag} {rest : List (RabbitMqDrained α)}
    (other : tag ∉ rest.map (·.deliveryTag)) :
    (inHands rest).filter (·.tag ≠ tag) = inHands rest := by
  refine List.filter_eq_self.2 ?_
  intro m mem
  obtain ⟨m', there, rfl⟩ := List.mem_map.1 mem
  refine decide_eq_true ?_
  rintro rfl
  exact other (List.mem_map.2 ⟨m', there, rfl⟩)

theorem drainQueue_handles {queue failure : String} {read : RabbitMqPayload → Option α}
    (rounds : Nat) (front : List (RabbitMqDrained α)) (here : At channel (inHands front) g)
    (drained : Drawn channel front) :
    Handles (fun rest g' => At channel (inHands (front ++ rest)) g' ∧ Drawn channel (front ++ rest))
      g (drainQueue channel queue failure read rounds) := by
  induction rounds generalizing g front with
  | zero => exact .call trivial fun never _ => never.elim
  | succ rounds ih =>
    refine (basicGet_handles (Q := fun first g' =>
      At channel (inHands front ++ first.toList.map fun m => .read m.1 m.2) g' ∧
        ∀ m ∈ first, m.1.issuer = channel ∧ m.1 ∉ front.map (·.deliveryTag))
      here.channel ?_ ?_).bind ?_
    · exact ⟨by simpa using here, fun _ mem => absurd mem (Option.not_mem_none _)⟩
    · intro tag payload issuer new
      refine ⟨⟨here.channel, ?_, here.holding.remembers⟩, fun _ same => ?_⟩
      · exact congrArg (· ++ [.read tag payload]) here.holding.messages
      · obtain rfl := Option.some.inj same
        refine ⟨issuer, fun mem => ?_⟩
        obtain ⟨m, there, same⟩ := List.mem_map.1 mem
        refine new (.read m.deliveryTag m.payload) ?_ same
        exact here.holding.messages ▸ List.mem_map.2 ⟨m, there, rfl⟩
    · rintro (_ | ⟨tag, payload⟩) g' ⟨held, known⟩
      · refine handles_ret ?_
        rw [List.append_nil]
        exact ⟨by simpa using held, drained⟩
      · obtain ⟨issuer, new⟩ := known _ rfl
        refine (decode_handles held.holding.remembers).bind ?_
        rintro value _ ⟨-, rfl⟩
        have more : Drawn channel (front ++ [⟨tag, payload, value⟩]) := by
          constructor
          · intro m mem
            rcases List.mem_append.1 mem with old | last
            · exact drained.issuer m old
            · rw [List.mem_singleton.1 last]
              exact issuer
          · rw [List.map_append]
            exact List.nodup_append.2 ⟨drained.apart, List.nodup_singleton _, by
              intro a old b last
              rintro rfl
              obtain rfl : a = tag := List.mem_singleton.1 last
              exact new old⟩
        refine (ih (front ++ [⟨tag, payload, value⟩]) ?_ more).bind ?_
        · simpa [inHands] using held
        · intro rest g'' left
          refine handles_ret ?_
          simpa using left

theorem registerRoutes_handles {config : RabbitMqQueueConfig} (seen : List RabbitMqRouteRegistryEntry)
    (entries : List (RabbitMqDrained RabbitMqRouteRegistryEntry)) :
    Handles (fun _ g' => g' = g) g (registerRoutes config channel seen entries) := by
  induction entries generalizing seen with
  | nil => exact handles_ret rfl
  | cons entry rest ih =>
    rw [registerRoutes]
    split_ifs
    · exact ih seen
    · refine (ensureTopology_handles _).bind ?_
      rintro _ g rfl
      refine (catalog_handles _).bind ?_
      rintro _ g rfl
      exact ih _

/-- A message that is acknowledged on the channel that it was drained on. -/
theorem ack_handles {m : RabbitMqDrained α} (front : List (RabbitMqDrained α))
    {rest : List (RabbitMqDrained α)} {message : String} (here : At channel (inHands (front ++ m :: rest)) g)
    (drained : Drawn channel (front ++ m :: rest)) :
    Handles (fun _ g' => At channel (inHands (front ++ rest)) g' ∧ Drawn channel (front ++ rest)) g
      (withTransportResult (.basicAck channel m.deliveryTag) message) := by
  have there : m ∈ front ++ m :: rest := List.mem_append_right _ List.mem_cons_self
  have apart := drained.apart
  rw [List.map_append, List.map_cons, List.nodup_middle, ← List.map_append, List.nodup_cons] at apart
  refine withTransportResult_handles ?_ ?_
  · refine ⟨drained.issuer m there, .read m.deliveryTag m.payload, ?_, rfl⟩
    exact here.holding.messages ▸ List.mem_map.2 ⟨m, there, rfl⟩
  · intro _ _
    refine ⟨⟨here.channel, ?_, here.holding.remembers⟩, ?_, apart.2⟩
    · change g.messages.filter _ = _
      rw [here.holding.messages, ← filter_inHands apart.1]
      simp [inHands, InHand.tag]
    · intro m' mem
      apply drained.issuer m'
      rcases List.mem_append.1 mem with old | old
      · exact List.mem_append_left _ old
      · exact List.mem_append_right _ (List.mem_cons_of_mem _ old)

theorem restoreRegistry_handles {queue : String}
    (entries : List (RabbitMqDrained RabbitMqRouteRegistryEntry))
    (here : At channel (inHands entries) g) (drained : Drawn channel entries) :
    Handles (fun _ g' => At channel [] g') g (restoreRegistry channel queue entries) := by
  induction entries generalizing g with
  | nil => exact handles_ret here
  | cons entry rest ih =>
    refine publishConfirmed_handles.bind ?_
    rintro _ g rfl
    exact (ack_handles [] here drained).bind fun _ _ left => ih left.1 left.2

theorem ensureRegisteredRoutesLoaded_handles {config : RabbitMqQueueConfig} (rounds : Nat)
    (holding : Holding [] g) :
    Handles (fun _ g' => Holding [] g') g (ensureRegisteredRoutesLoaded config rounds) := by
  refine (activeTransport_handles holding).bind ?_
  rintro channel g' ⟨here, -⟩
  refine (setup_handles (by trivial)).bind ?_
  rintro _ g rfl
  refine (drainQueue_handles rounds [] here drawn_nil).bind ?_
  rintro entries g'' ⟨held, drained⟩
  refine (registerRoutes_handles _ _).bind ?_
  rintro _ g rfl
  exact (restoreRegistry_handles entries held drained).mono fun _ _ left => left.holding

theorem restoreMessages_handles {topology : RabbitMqRouteTopology}
    (messages : List RabbitMqDeadLetterMessage) (here : At channel (inHands messages) g)
    (drained : Drawn channel messages) :
    Handles (fun _ g' => Holding [] g') g (restoreMessages channel topology messages) := by
  induction messages generalizing g with
  | nil => exact handles_ret here.holding
  | cons message rest ih =>
    refine (publishRawPayload_handles here.holding).bind ?_
    rintro _ g' ⟨channel', held, same⟩
    obtain rfl : channel = channel' :=
      Option.some.inj (here.channel.symm.trans (same (List.cons_ne_nil _ _)))
    exact (ack_handles [] held drained).bind fun _ _ left => ih left.1 left.2

/-- The channel of the restoration is the one of the drain, if there is anything to restore. -/
theorem Drawn.same {channel' : Nat} {drained : List (RabbitMqDrained α)}
    (drains : Drawn channel drained)
    (same : inHands drained ≠ [] → some channel = some channel') : Drawn channel' drained where
  issuer := by
    intro m mem
    have some : inHands drained ≠ [] := List.ne_nil_of_mem (List.mem_map.2 ⟨m, mem, rfl⟩)
    exact (drains.issuer m mem).trans (Option.some.inj (same some))
  apart := drains.apart

theorem restoreDeadLetterQueue_handles {topology : RabbitMqRouteTopology}
    {messages : List RabbitMqDeadLetterMessage} (here : At channel (inHands messages) g)
    (drained : Drawn channel messages) :
    Handles (fun _ g' => Holding [] g') g (restoreDeadLetterQueue topology messages) := by
  refine (activeTransport_handles here.holding).bind ?_
  rintro channel' g' ⟨held, same⟩
  rw [here.channel] at same
  exact restoreMessages_handles messages held (drained.same same)

theorem drainDeadLetterQueue_handles {topology : RabbitMqRouteTopology} (rounds : Nat)
    (holding : Holding [] g) :
    Handles (fun messages g' => ∃ channel, At channel (inHands messages) g' ∧
      Drawn channel messages) g (drainDeadLetterQueue topology rounds) := by
  refine (activeTransport_handles holding).bind ?_
  rintro channel g' ⟨here, -⟩
  refine (ensureTopology_handles topology).bind ?_
  rintro _ g rfl
  refine (drainQueue_handles rounds [] here drawn_nil).mono ?_
  intro messages g'' left
  exact ⟨channel, left⟩

theorem loadFrom_handles {rounds : Nat} (topologies : List RabbitMqRouteTopology)
    (holding : Holding [] g) :
    Handles (fun _ g' => Holding [] g') g (loadFrom rounds topologies) := by
  induction topologies generalizing g with
  | nil => exact handles_ret holding
  | cons topology rest ih =>
    refine (drainDeadLetterQueue_handles rounds holding).bind ?_
    rintro messages g' ⟨channel, here, drained⟩
    refine (restoreDeadLetterQueue_handles here drained).bind ?_
    intro _ g'' left
    exact (ih left).bind fun _ _ left => handles_ret left

/-- What a search leaves: nothing, or the drained messages with the target among them. -/
def Searched : Option (DeadLetterReplay RabbitMqRouteTopology RabbitMqDeadLetterReplay) → Hands → Prop
  | none, g => Holding [] g
  | some replay, g => ∃ channel front back,
      At channel (inHands (front ++ replay.stored.target :: back)) g ∧
        Drawn channel (front ++ replay.stored.target :: back) ∧
        replay.stored.remaining = front ++ back

theorem findAmong_handles {deliveryId : String} {rounds : Nat}
    (topologies : List RabbitMqRouteTopology) (holding : Holding [] g) :
    Handles Searched g (findAmong deliveryId rounds topologies) := by
  induction topologies generalizing g with
  | nil => exact handles_ret holding
  | cons topology rest ih =>
    refine (drainDeadLetterQueue_handles rounds holding).bind ?_
    rintro messages g' ⟨channel, here, drained⟩
    split_ifs with none
    · obtain rfl := List.isEmpty_iff.1 none
      exact ih here.holding
    · split
      · next replay split =>
        obtain ⟨-, front, back, rfl, remaining⟩ := splitTarget_spec split
        exact handles_ret ⟨channel, front, back, here, drained, remaining⟩
      · exact (restoreDeadLetterQueue_handles here drained).bind fun _ _ left => ih left

theorem findDeadLetterReplay_handles {config : RabbitMqQueueConfig} {rounds : Nat}
    {deliveryId : String} (holding : Holding [] g) :
    Handles Searched g (findDeadLetterReplay config rounds deliveryId) := by
  refine (ensureRegisteredRoutesLoaded_handles rounds holding).bind ?_
  intro _ g' left
  refine (catalog_handles .topologies).bind ?_
  rintro topologies g rfl
  exact findAmong_handles topologies left

theorem finalizeReplayedDeadLetter_handles {topology : RabbitMqRouteTopology}
    {replay : RabbitMqDeadLetterReplay} {front back : List RabbitMqDeadLetterMessage}
    (here : At channel (inHands (front ++ replay.target :: back)) g)
    (drained : Drawn channel (front ++ replay.target :: back))
    (remaining : replay.remaining = front ++ back) :
    Handles (fun _ g' => Holding [] g') g (finalizeReplayedDeadLetter topology replay) := by
  refine (activeTransport_handles here.holding).bind ?_
  rintro channel' g' ⟨held, same⟩
  rw [here.channel] at same
  refine (ack_handles front held (drained.same same)).bind ?_
  rintro _ g'' ⟨left, drained⟩
  rw [remaining]
  exact restoreDeadLetterQueue_handles left drained

theorem replayDeadLetter_handles {config : RabbitMqQueueConfig} {rounds : Nat}
    (deliveryId : String) (holding : Holding [] g) :
    Handles (fun _ g' => g'.forgets = false) g (replayDeadLetter config rounds deliveryId) := by
  refine (findDeadLetterReplay_handles holding).bind ?_
  rintro (_ | replay) g' searched
  · exact handles_fail searched.remembers
  · obtain ⟨channel, front, back, here, drained, remaining⟩ := searched
    refine (publishRawPayload_handles here.holding).bind ?_
    rintro _ g'' ⟨channel', held, same⟩
    rw [here.channel] at same
    refine (finalizeReplayedDeadLetter_handles held (drained.same same) remaining).bind ?_
    exact fun _ _ left => handles_ret left.remembers

theorem statsRows_handles (topologies : List RabbitMqRouteTopology) :
    Handles (fun _ g' => g' = g) g (statsRows channel topologies) := by
  induction topologies with
  | nil => exact handles_ret rfl
  | cons topology rest ih =>
    refine Handles.bind (Q := fun _ g' => g' = g) ?_ ?_
    · refine (setup_handles (by trivial)).bind ?_
      rintro queued g rfl
      refine (setup_handles (by trivial)).bind ?_
      rintro dead g rfl
      refine Handles.bind (Q := fun _ g'' => g'' = _) (handles_op (.countLeases topology.queue topology.lane)
        trivial fun _ _ => rfl) ?_
      rintro leased g rfl
      exact handles_ret rfl
    · rintro row g rfl
      exact ih.bind fun rows _ same => handles_ret same

end Drains

/-- The call of an adapter, without its result. -/
def callOf (config : RabbitMqQueueConfig) (rounds : Nat) (call : RabbitMqCall) :
    RabbitMqProg Unit := (call.prog config rounds).bind fun _ => .ret ()

/-- A program that is a call of the adapter. -/
def IsCall (config : RabbitMqQueueConfig) (p : RabbitMqProg Unit) : Prop :=
  ∃ rounds call, p = callOf config rounds call

/-- Every call does with the messages in its hands what it may do. -/
theorem call_handles {config : RabbitMqQueueConfig} (rounds : Nat) (call : RabbitMqCall) :
    Handles (fun _ g => g.forgets = false) .empty (callOf config rounds call) := by
  have start : Holding [] .empty := ⟨rfl, rfl⟩
  suffices ends : Handles (fun _ g => g.forgets = false) .empty (call.prog config rounds) from
    ends.bind fun _ _ left => handles_ret left
  cases call with
  | enqueue task =>
    refine (catalog_handles _).bind ?_
    rintro topology g rfl
    refine Handles.bind (Q := fun _ g' => Holding [] g') ?_ ?_
    · refine (activeTransport_handles start).bind ?_
      rintro channel g' ⟨here, -⟩
      refine (setup_handles (by trivial)).bind ?_
      rintro _ g rfl
      refine publishConfirmed_handles.mono ?_
      rintro _ g rfl
      exact here.holding
    · intro _ g' left
      refine (publishRawPayload_handles left).mono ?_
      rintro _ g'' ⟨channel, here, -⟩
      exact here.holding.remembers
  | reserve bindings =>
    have broker : Handles (fun _ g => g.forgets = false) .empty (reserveFromBroker bindings) := by
      refine (activeTransport_handles start).bind ?_
      rintro channel g' ⟨here, -⟩
      refine (catalog_handles _).bind ?_
      rintro routes g rfl
      exact reserveRoutes_handles routes here
    refine Discipline.Upholds.bind (Discipline.Upholds.attempt broker) ?_ ?_
    · rintro g result ⟨_, same, left⟩
      cases same
      cases result with
      | error e => exact .ret left
      | ok delivery => exact .ret left
    · rintro g e ⟨_, same, _⟩
      cases same
  | ack deliveryId =>
    refine Handles.bind (Q := fun _ g' => g' = .empty) (handles_locked (handles_op
      (.findLease deliveryId) trivial fun _ _ => rfl)) ?_
    rintro _ g rfl
    exact (ackBrokerDelivery_handles start).mono fun _ _ left => left.remembers
  | retry deliveryId error delayMs =>
    refine takeFirstLease_handles.bind ?_
    rintro (_ | leased) _ rfl
    · exact handles_fail rfl
    · dsimp only
      split_ifs
      · exact (deadLetter_handles leased error start).bind fun _ _ left => handles_ret left
      · exact (requeue_handles leased error delayMs start).bind fun _ _ left => handles_ret left
  | reject deliveryId error =>
    refine takeFirstLease_handles.bind ?_
    rintro (_ | leased) _ rfl
    · exact handles_ret rfl
    · exact deadLetter_handles leased error start
  | stats =>
    refine (activeTransport_handles start).bind ?_
    rintro channel g' ⟨here, -⟩
    refine (ensureRegisteredRoutesLoaded_handles rounds here.holding).bind ?_
    intro _ g'' left
    refine (catalog_handles _).bind ?_
    rintro topologies g rfl
    refine (handles_locked (statsRows_handles topologies)).mono ?_
    rintro rows g rfl
    exact left.remembers
  | deadLetters =>
    refine (ensureRegisteredRoutesLoaded_handles rounds start).bind ?_
    intro _ g' left
    refine (catalog_handles _).bind ?_
    rintro topologies g rfl
    exact (loadFrom_handles topologies left).mono fun _ _ left => left.remembers
  | replayDeadLetter deliveryId => exact replayDeadLetter_handles deliveryId start

end RabbitMq

end NexusCore.Runtime
