import NexusCore.Runtime.Broker.RabbitMqTags

/-!
# Acknowledgements of the RabbitMQ adapter

Any number of calls of one adapter run on its memory, its channels and the broker. The adapter
forgets its leases when it replaces its channel, but not in the same step, and a call keeps the
channel that it was given.
-/

namespace NexusCore.Runtime

open NexusCore.Lib

namespace RabbitMq

abbrev RabbitMqBusy : Type := Busy RabbitMqWorld RabbitMqOp RabbitMqOp.Answer AppError Unit

abbrev RabbitMqMove : Type := Move RabbitMqOp RabbitMqOp.Answer AppError Unit

abbrev RunningCall : Type := Call RabbitMqOp RabbitMqOp.Answer AppError Unit

/-- What a call has in its hands. -/
def hands (call : RunningCall) : Hands := handsDiscipline.owes .empty call

/-- What it had before its last answer. -/
def handsBefore (call : RunningCall) : Hands := hands { call with log := call.log.dropLast }

/-- What the acknowledgements depend on: a call that records a lease, or takes one to acknowledge
it, has the channel that the adapter has, and no other call has still to forget the leases of an
older one; a call with messages in its hands is given the channel that it has. -/
structure Steady (x : Transition RabbitMqBusy RabbitMqMove) : Prop where
  records : ∀ leased r call others, x.label = .command (.insertLease leased) r call others →
    x.before.state.transport = (handsBefore call).channel
  takes : ∀ deliveryId leased call others,
    x.label = .command (.removeLease deliveryId) (some leased) call others →
    (handsBefore call).channel ≠ none →
    x.before.state.transport = (handsBefore call).channel ∧
      ∀ other ∈ others, (hands other).forgets = false
  given : ∀ channel call others, x.label = .command (.isConnected channel) true call others →
    (handsBefore call).messages ≠ [] → (handsBefore call).channel = some channel
  replaces : ∀ channel r call others,
    x.label = .command (.setTransport (some channel)) r call others →
    (handsBefore call).messages = []

/-- A call was given a message under a tag: it has read it, or it has taken the lease of a delivery
of its task. -/
def GivenAs (log : List (Sigma RabbitMqOp.Answer)) (tag : Amqp.DeliveryTag)
    (payload : RabbitMqPayload) : Prop :=
  (∃ channel queue, ⟨.command (.basicGet channel queue), .ok (some (tag, payload))⟩ ∈ log) ∨
    ∃ deliveryId leased, ⟨.removeLease deliveryId, some leased⟩ ∈ log ∧
      leased.deliveryTag = tag ∧ Names deliveryId tag payload

theorem GivenAs.mono {log : List (Sigma RabbitMqOp.Answer)} {tag : Amqp.DeliveryTag}
    {payload : RabbitMqPayload} {entry : Sigma RabbitMqOp.Answer} (given : GivenAs log tag payload) :
    GivenAs (log ++ [entry]) tag payload := by
  rcases given with ⟨channel, queue, logged⟩ | ⟨deliveryId, leased, logged, known⟩
  · exact .inl ⟨channel, queue, List.mem_append_left _ logged⟩
  · exact .inr ⟨deliveryId, leased, List.mem_append_left _ logged, known⟩

/-- The messages and the leases of an adapter with the messages in the hands of its calls. -/
structure TagInv (w : RabbitMqWorld) (owed : Multiset Hands) : Prop where
  held : ∀ g ∈ owed, ∀ m ∈ g.messages, w.server.Tagged m.tag m.About
  tagged : ∀ deliveryId leased, w.leased.find deliveryId = some leased →
    w.server.Tagged leased.deliveryTag (InHand.lease deliveryId leased.deliveryTag).About
  leases : ∀ deliveryId leased, w.leased.find deliveryId = some leased →
    w.transport = some leased.deliveryTag.issuer ∨ ∃ g ∈ owed, g.forgets = true

section Account

variable {w : RabbitMqWorld} {g g' : Hands} {owed : Multiset Hands}

theorem tagInv_empty : TagInv w (.empty ::ₘ owed) ↔ TagInv w owed := by
  constructor
  · intro inv
    refine ⟨fun g mem => inv.held g (Multiset.mem_cons_of_mem mem), inv.tagged, ?_⟩
    intro deliveryId leased found
    rcases inv.leases deliveryId leased found with same | ⟨g, mem, forgets⟩
    · exact .inl same
    · rcases Multiset.mem_cons.1 mem with rfl | old
      · cases forgets
      · exact .inr ⟨g, old, forgets⟩
  · intro inv
    refine ⟨?_, inv.tagged, ?_⟩
    · intro g mem m given
      rcases Multiset.mem_cons.1 mem with rfl | old
      · cases given
      · exact inv.held g old m given
    · intro deliveryId leased found
      rcases inv.leases deliveryId leased found with same | ⟨g, mem, forgets⟩
      · exact .inl same
      · exact .inr ⟨g, Multiset.mem_cons_of_mem mem, forgets⟩

/-- A call that ends takes what it has in its hands with it. -/
theorem TagInv.closed (inv : TagInv w (g ::ₘ owed)) (clear : g.forgets = false) : TagInv w owed := by
  refine ⟨fun g mem => inv.held g (Multiset.mem_cons_of_mem mem), inv.tagged, ?_⟩
  intro deliveryId leased found
  rcases inv.leases deliveryId leased found with same | ⟨g', mem, forgets⟩
  · exact .inl same
  · rcases Multiset.mem_cons.1 mem with rfl | old
    · rw [clear] at forgets
      cases forgets
    · exact .inr ⟨g', old, forgets⟩

/-- A step of one call on the broker, after which its hands hold no more than they should. -/
theorem TagInv.moved (inv : TagInv w (g ::ₘ owed)) {server : Amqp.Server RabbitMqPayload}
    (keeps : ∀ tag about, w.server.Tagged tag about → server.Tagged tag about)
    (had : ∀ m ∈ g'.messages, m ∈ g.messages ∨ server.Tagged m.tag m.About)
    (forgets : g.forgets = true → g'.forgets = true) :
    TagInv { w with server := server } (g' ::ₘ owed) := by
  refine ⟨?_, fun deliveryId leased found => keeps _ _ (inv.tagged deliveryId leased found), ?_⟩
  · intro other mem m given
    rcases Multiset.mem_cons.1 mem with rfl | old
    · rcases had m given with before | new
      · exact keeps _ _ (inv.held g (Multiset.mem_cons_self _ _) m before)
      · exact new
    · exact keeps _ _ (inv.held other (Multiset.mem_cons_of_mem old) m given)
  · intro deliveryId leased found
    rcases inv.leases deliveryId leased found with same | ⟨other, mem, pending⟩
    · exact .inl same
    · rcases Multiset.mem_cons.1 mem with rfl | old
      · exact .inr ⟨g', Multiset.mem_cons_self _ _, forgets pending⟩
      · exact .inr ⟨other, Multiset.mem_cons_of_mem old, pending⟩

theorem TagInv.closedAll (inv : TagInv w owed) (lost : List Nat) :
    TagInv { w with server := w.server.closeAll lost } owed where
  held := fun g mem m given => (inv.held g mem m given).closeAll lost
  tagged := fun deliveryId leased found => (inv.tagged deliveryId leased found).closeAll lost
  leases := inv.leases

theorem mem_drop {m : InHand} {tag : Amqp.DeliveryTag} (mem : m ∈ (g.drop tag).messages) :
    m ∈ g.messages := List.mem_of_mem_filter mem

/-- A command that the broker executes. -/
theorem TagInv.executed (inv : TagInv w (g ::ₘ owed)) {c : Amqp.Cmd RabbitMqPayload}
    {reply : c.Reply} {server : Amqp.Server RabbitMqPayload}
    (done : w.server.execute c = some (reply, server)) :
    g.assumesCommand c (.ok reply) ∧
      TagInv { w with server := server } (g.nextCommand c (.ok reply) ::ₘ owed) := by
  have keeps : ∀ tag about, w.server.Tagged tag about → server.Tagged tag about :=
    fun tag about tagged => tagged.execute done
  cases c with
  | basicGet channel queue =>
    obtain _ | ⟨tag, payload⟩ := reply
    · exact ⟨trivial, inv.moved keeps (fun m mem => .inl mem) fun forgets => forgets⟩
    · obtain ⟨issuer, -, tagged⟩ := Amqp.Server.basicGet_tagged done
      refine ⟨⟨issuer, ?_⟩, inv.moved keeps ?_ fun forgets => forgets⟩
      · intro m mem
        exact (inv.held g (Multiset.mem_cons_self _ _) m mem).ne_of_basicGet done
      · intro m mem
        rcases List.mem_append.1 mem with old | new
        · exact .inl old
        · obtain rfl := List.mem_singleton.1 new
          exact .inr tagged
  | basicAck channel tag =>
    exact ⟨trivial, inv.moved keeps (fun m mem => .inl (mem_drop mem)) fun forgets => forgets⟩
  | _ => exact ⟨trivial, inv.moved keeps (fun m mem => .inl mem) fun forgets => forgets⟩

/-- A command without an answer leaves no more in hand than one with an answer. -/
theorem TagInv.failed (inv : TagInv w (g ::ₘ owed)) {c : Amqp.Cmd RabbitMqPayload} {error : String}
    {server : Amqp.Server RabbitMqPayload}
    (keeps : ∀ tag about, w.server.Tagged tag about → server.Tagged tag about) :
    g.assumesCommand c (.error error) ∧
      TagInv { w with server := server } (g.nextCommand c (.error error) ::ₘ owed) := by
  cases c with
  | basicAck channel tag =>
    exact ⟨trivial, inv.moved keeps (fun m mem => .inl (mem_drop mem)) fun forgets => forgets⟩
  | _ => exact ⟨trivial, inv.moved keeps (fun m mem => .inl mem) fun forgets => forgets⟩

theorem TagInv.attempted (inv : TagInv w (g ::ₘ owed)) {c : Amqp.Cmd RabbitMqPayload}
    {u : RabbitMqWorld} (attempted : Attempted w c u) (error : String) :
    g.assumesCommand c (.error error) ∧ TagInv u (g.nextCommand c (.error error) ::ₘ owed) := by
  rcases attempted with ⟨lost, rfl⟩ | ⟨reply, lost, server, done, rfl⟩
  · exact inv.failed fun tag about tagged => tagged.closeAll lost
  · exact inv.failed fun tag about tagged => (tagged.closeAll lost).execute done

/-- What is not heeded is no message that is handed out. -/
theorem Hands.nextCommand_unheeded (g : Hands) {c : Amqp.Cmd RabbitMqPayload} {reply : c.Reply}
    {u : RabbitMqWorld} (unheeded : Unheeded w c reply u) (error : String) :
    g.assumesCommand c (.ok reply) ∧ g.nextCommand c (.ok reply) = g.nextCommand c (.error error) := by
  cases c with
  | awaitConfirm | basicAck => exact ⟨trivial, rfl⟩
  | _ => exact unheeded.elim

theorem TagInv.command (inv : TagInv w (g ::ₘ owed)) {c : Amqp.Cmd RabbitMqPayload}
    {answer : Except String c.Reply} {u : RabbitMqWorld}
    (answered : rabbitmq w (.command c) answer u) :
    g.assumesCommand c answer ∧ TagInv u (g.nextCommand c answer ::ₘ owed) := by
  cases answer with
  | ok reply =>
    rcases answered with ⟨lost, server, done, rfl⟩ | unheeded
    · exact (inv.closedAll lost).executed done
    · obtain ⟨assumed, same⟩ := g.nextCommand_unheeded unheeded ""
      rw [same]
      exact ⟨assumed, (inv.attempted unheeded.attempted "").2⟩
  | error error => exact inv.attempted answered error

/-- Another channel: its call has the leases to forget. -/
theorem TagInv.replaced (inv : TagInv w (g ::ₘ owed)) {channel : Option Nat}
    (same : g'.messages = g.messages) (forgets : g'.forgets = true) :
    TagInv { w with transport := channel } (g' ::ₘ owed) where
  held := by
    intro other mem m given
    rcases Multiset.mem_cons.1 mem with rfl | old
    · exact inv.held g (Multiset.mem_cons_self _ _) m (same ▸ given)
    · exact inv.held other (Multiset.mem_cons_of_mem old) m given
  tagged := inv.tagged
  leases := fun _ _ _ => .inr ⟨g', Multiset.mem_cons_self _ _, forgets⟩

theorem TagInv.cleared (inv : TagInv w (g ::ₘ owed)) :
    TagInv { w with leased := .empty } ({ g with forgets := false } ::ₘ owed) where
  held := by
    intro other mem m given
    rcases Multiset.mem_cons.1 mem with rfl | old
    · exact inv.held g (Multiset.mem_cons_self _ _) m given
    · exact inv.held other (Multiset.mem_cons_of_mem old) m given
  tagged := by
    intro deliveryId leased found
    rw [RabbitMqLeases.find_empty] at found
    cases found
  leases := by
    intro deliveryId leased found
    rw [RabbitMqLeases.find_empty] at found
    cases found

/-- A lease is recorded for a message in hand, on the channel that the adapter has. -/
theorem TagInv.recorded (inv : TagInv w (g ::ₘ owed)) {leased : RabbitMqLeasedDelivery}
    (permitted : g.permits (.insertLease leased)) (current : w.transport = g.channel) :
    TagInv { w with leased := w.leased.insert leased } (g.drop leased.deliveryTag ::ₘ owed) := by
  obtain ⟨issuer, payload, read, named⟩ := permitted
  have tagged : w.server.Tagged leased.deliveryTag
      (InHand.lease leased.delivery.deliveryId leased.deliveryTag).About := by
    refine (inv.held g (Multiset.mem_cons_self _ _) _ read).mono ?_
    intro message same
    have same : message.payload = payload := same
    change Names _ _ message.payload
    rwa [same]
  refine ⟨?_, ?_, ?_⟩
  · intro other mem m given
    rcases Multiset.mem_cons.1 mem with rfl | old
    · exact inv.held g (Multiset.mem_cons_self _ _) m (mem_drop given)
    · exact inv.held other (Multiset.mem_cons_of_mem old) m given
  · intro deliveryId other found
    have keyed := (w.leased.insert leased).keyed deliveryId other found
    rcases RabbitMqLeases.find_insert found with rfl | old
    · exact keyed ▸ tagged
    · exact inv.tagged deliveryId other old
  · intro deliveryId other found
    rcases RabbitMqLeases.find_insert found with rfl | old
    · exact .inl (current.trans issuer)
    · rcases inv.leases deliveryId other old with same | ⟨g', mem, forgets⟩
      · exact .inl same
      · rcases Multiset.mem_cons.1 mem with rfl | there
        · exact .inr ⟨_, Multiset.mem_cons_self _ _, forgets⟩
        · exact .inr ⟨g', Multiset.mem_cons_of_mem there, forgets⟩

theorem forgets_take (g : Hands) (deliveryId : String) (tag : Amqp.DeliveryTag) :
    (g.take deliveryId tag).forgets = g.forgets := by
  unfold Hands.take
  cases g.channel <;> rfl

theorem mem_take {m : InHand} {deliveryId : String} {tag : Amqp.DeliveryTag}
    (mem : m ∈ (g.take deliveryId tag).messages) : m ∈ g.messages ∨ m = .lease deliveryId tag := by
  unfold Hands.take at mem
  cases given : g.channel with
  | none =>
    rw [given] at mem
    exact .inl mem
  | some channel =>
    rw [given] at mem
    rcases List.mem_append.1 mem with old | new
    · exact .inl old
    · exact .inr (List.mem_singleton.1 new)

/-- A lease is taken: it is in hand, if it is to be acknowledged. -/
theorem TagInv.taken (inv : TagInv w (g ::ₘ owed)) {deliveryId : String}
    {leased : RabbitMqLeasedDelivery} (found : w.leased.find deliveryId = some leased) :
    TagInv { w with leased := w.leased.erase deliveryId }
      (g.take deliveryId leased.deliveryTag ::ₘ owed) := by
  refine ⟨?_, fun other leased' there =>
    inv.tagged other leased' (RabbitMqLeases.find_of_erase there), ?_⟩
  · intro other mem m given
    rcases Multiset.mem_cons.1 mem with rfl | old
    · rcases mem_take given with before | rfl
      · exact inv.held g (Multiset.mem_cons_self _ _) m before
      · exact inv.tagged deliveryId leased found
    · exact inv.held other (Multiset.mem_cons_of_mem old) m given
  · intro other leased' there
    have before := RabbitMqLeases.find_of_erase there
    rcases inv.leases other leased' before with same | ⟨g', mem, forgets⟩
    · exact .inl same
    · rcases Multiset.mem_cons.1 mem with rfl | old
      · exact .inr ⟨_, Multiset.mem_cons_self _ _, (forgets_take g' _ _).trans forgets⟩
      · exact .inr ⟨g', Multiset.mem_cons_of_mem old, forgets⟩

end Account

section Runs

variable {config : RabbitMqQueueConfig}

theorem handsBefore_snoc {p rest rest' : RabbitMqProg Unit} {log : List (Sigma RabbitMqOp.Answer)}
    {entry : Sigma RabbitMqOp.Answer} :
    handsBefore ⟨p, log ++ [entry], rest'⟩ = hands ⟨p, log, rest⟩ := by
  simp [handsBefore, hands, Discipline.owes]

/-- Every operation keeps the account, and is answered as its call assumes. -/
theorem TagInv.step {w u : RabbitMqWorld} {p : RabbitMqProg Unit}
    {log : List (Sigma RabbitMqOp.Answer)} {c : RabbitMqOp} {k : c.Answer → RabbitMqProg Unit}
    {r : c.Answer} {others : Multiset RunningCall} {after : RabbitMqBusy}
    (inv : TagInv w (hands ⟨p, log, .call c k⟩ ::ₘ others.map hands))
    (permitted : (hands ⟨p, log, .call c k⟩).permits c) (answered : rabbitmq w c r u)
    (steady : Steady ⟨⟨w, ⟨p, log, .call c k⟩ ::ₘ others⟩,
      .command c r ⟨p, log ++ [⟨c, r⟩], k r⟩ others, after⟩) :
    (hands ⟨p, log, .call c k⟩).assumes c r ∧
      TagInv u ((hands ⟨p, log, .call c k⟩).next c r ::ₘ others.map hands) := by
  have before : ∀ rest, handsBefore ⟨p, log ++ [⟨c, r⟩], rest⟩ = hands ⟨p, log, .call c k⟩ :=
    fun rest => handsBefore_snoc
  cases c with
  | command c => exact inv.command answered
  | isConnected channel =>
    obtain rfl : u = w := answered
    cases r with
    | false => exact ⟨trivial, inv⟩
    | true =>
      refine ⟨?_, inv.moved (fun _ _ tagged => tagged) (fun m mem => .inl mem) fun forgets => forgets⟩
      have given := steady.given channel _ _ rfl
      rw [before] at given
      exact given
  | setTransport channel =>
    obtain rfl : u = { w with transport := channel } := answered
    cases channel with
    | none => exact ⟨trivial, inv.replaced rfl rfl⟩
    | some channel =>
      refine ⟨?_, inv.replaced rfl rfl⟩
      have replaces := steady.replaces channel _ _ _ rfl
      rw [before] at replaces
      exact replaces
  | clearLeases =>
    obtain rfl : u = { w with leased := .empty } := answered
    exact ⟨trivial, inv.cleared⟩
  | insertLease leased =>
    obtain rfl : u = { w with leased := w.leased.insert leased } := answered
    have current := steady.records leased _ _ _ rfl
    rw [before] at current
    exact ⟨trivial, inv.recorded permitted current⟩
  | removeLease deliveryId =>
    obtain ⟨same, rfl⟩ := answered
    cases r with
    | none =>
      have erased : ∀ other leased, (w.leased.erase deliveryId).find other = some leased →
          w.leased.find other = some leased := fun _ _ => RabbitMqLeases.find_of_erase
      exact ⟨trivial, inv.held, fun other leased found => inv.tagged other leased (erased _ _ found),
        fun other leased found => inv.leases other leased (erased _ _ found)⟩
    | some leased =>
      refine ⟨?_, inv.taken same.symm⟩
      intro channel given
      have takes := steady.takes deliveryId leased _ _ rfl
      rw [before] at takes
      obtain ⟨current, remembered⟩ := takes fun absent => nomatch absent.symm.trans given
      have own : (hands ⟨p, log, .call (.removeLease deliveryId) k⟩).forgets = false := permitted
      rcases inv.leases deliveryId leased same.symm with issuer | ⟨g, mem, forgets⟩
      · exact Option.some.inj (issuer.symm.trans (current.trans given))
      · exfalso
        rcases Multiset.mem_cons.1 mem with rfl | other
        · exact Bool.false_ne_true (own.symm.trans forgets)
        · obtain ⟨call, there, rfl⟩ := Multiset.mem_map.1 other
          exact Bool.false_ne_true ((remembered call there).symm.trans forgets)
  | lock mutex =>
    obtain ⟨-, rfl⟩ := answered
    exact ⟨trivial, inv.held, inv.tagged, inv.leases⟩
  | transport | findLease deliveryId | countLeases queue lane | catalog c =>
    obtain ⟨-, rfl⟩ := answered
    exact ⟨trivial, inv.held, inv.tagged, inv.leases⟩
  | unlock mutex =>
    obtain rfl : u = { w with locked := w.locked.erase mutex } := answered
    exact ⟨trivial, inv.held, inv.tagged, inv.leases⟩
  | nowMs | parse payload =>
    obtain rfl : u = w := answered
    exact ⟨trivial, inv⟩
  | exhausted => exact r.elim

/-- Where a message in hand comes from. -/
def InHand.From (log : List (Sigma RabbitMqOp.Answer)) : InHand → Prop
  | .read tag payload => ∃ channel queue,
      ⟨.command (.basicGet channel queue), .ok (some (tag, payload))⟩ ∈ log
  | .lease deliveryId tag => ∃ leased, ⟨.removeLease deliveryId, some leased⟩ ∈ log ∧
      leased.deliveryTag = tag

theorem InHand.From.mono {log log' : List (Sigma RabbitMqOp.Answer)} {m : InHand}
    (given : m.From log) (more : log ⊆ log') : m.From log' := by
  cases m with
  | read tag payload =>
    obtain ⟨channel, queue, mem⟩ := given
    exact ⟨channel, queue, more mem⟩
  | lease deliveryId tag =>
    obtain ⟨leased, mem, same⟩ := given
    exact ⟨leased, more mem, same⟩

/-- A message that is in hand after an answer was there before, or the answer has brought it. -/
theorem mem_next {g : Hands} {c : RabbitMqOp} {r : c.Answer} {m : InHand}
    (mem : m ∈ (g.next c r).messages) : m ∈ g.messages ∨ m.From [⟨c, r⟩] := by
  cases c with
  | command c =>
    cases c with
    | basicGet channel queue =>
      obtain error | _ | ⟨tag, payload⟩ := r
      · exact .inl mem
      · exact .inl mem
      · rcases List.mem_append.1 mem with old | new
        · exact .inl old
        · obtain rfl := List.mem_singleton.1 new
          exact .inr ⟨channel, queue, List.mem_singleton_self _⟩
    | basicAck channel tag => exact .inl (mem_drop mem)
    | _ => exact .inl mem
  | isConnected channel =>
    cases r <;> exact .inl mem
  | setTransport channel =>
    cases channel <;> exact .inl mem
  | insertLease leased => exact .inl (mem_drop mem)
  | removeLease deliveryId =>
    cases r with
    | none => exact .inl mem
    | some leased =>
      rcases mem_take mem with old | rfl
      · exact .inl old
      · exact .inr ⟨leased, List.mem_singleton_self _, rfl⟩
  | _ => exact .inl mem

/-- What a call has in its hands comes from its answers. -/
theorem from_of_hands (call : RunningCall) : ∀ m ∈ (hands call).messages, m.From call.log := by
  refine handsDiscipline.owes_of_log .empty (fun log g => ∀ m ∈ g.messages, m.From log)
    (fun m mem => absurd mem List.not_mem_nil) ?_ call
  intro log g c r known m mem
  rcases mem_next mem with old | new
  · exact (known m old).mono (List.subset_append_left _ _)
  · exact new.mono (List.subset_append_right _ _)

/-- The account of the calls in progress. -/
abbrev TagAccount (b : RabbitMqBusy) : Prop :=
  Accounted handsDiscipline Hands.assumes .empty TagInv b

theorem tagAccount_start (w : RabbitMqWorld) : TagAccount ⟨w.restart, 0⟩ := by
  have none : ∀ deliveryId leased, w.restart.leased.find deliveryId ≠ some leased :=
    fun deliveryId leased found => nomatch (RabbitMqLeases.find_empty deliveryId).symm.trans found
  refine .idle ⟨fun g mem => absurd mem (Multiset.notMem_zero g), ?_, ?_⟩
  · exact fun deliveryId leased found => absurd found (none deliveryId leased)
  · exact fun deliveryId leased found => absurd found (none deliveryId leased)

/-- A steady step keeps the account. -/
theorem TagAccount.step {b b' : RabbitMqBusy} {m : RabbitMqMove} (account : TagAccount b)
    (step : Interleaved rabbitmq (IsCall config) b m b') (steady : Steady ⟨b, m, b'⟩) :
    TagAccount b' := by
  refine Accounted.step_of ?_ ?_ ?_ ?_ account step steady
  · rintro p before after ⟨rounds, call, rfl⟩ _
    refine Discipline.Upholds.mono (call_handles rounds call) ?_
    rintro g (e | a) left
    · exact left
    · exact left
  · exact fun w owed inv => tagInv_empty.2 inv
  · exact fun w g owed clear inv => inv.closed clear
  · intro w p log c k r u others after inv permitted answered steady
    exact inv.step permitted answered steady

/-- Every acknowledgement of a step goes to the channel of its tag and settles a message that its
call was given under that tag, one of the worker's own task; and every lease is one of the channel
that the adapter has, unless a call has still to forget it. -/
structure TagsKept (config : RabbitMqQueueConfig) (x : Transition RabbitMqBusy RabbitMqMove) :
    Prop where
  issuer : ∀ channel tag r call others,
    x.label = .command (.command (.basicAck channel tag)) r call others → tag.issuer = channel
  own : ∀ channel tag r call others,
    x.label = .command (.command (.basicAck channel tag)) r call others →
    ∀ d ∈ x.before.state.server.unacked, d.channel = channel → d.tag = tag.number →
      GivenAs call.log tag d.message.payload
  worker : ∀ channel tag r call others rounds deliveryId,
    x.label = .command (.command (.basicAck channel tag)) r call others →
    call.program = callOf config rounds (.ack deliveryId) →
    ∀ d ∈ x.before.state.server.unacked, d.channel = channel → d.tag = tag.number →
      Names deliveryId tag d.message.payload
  leases : ∀ deliveryId leased, x.after.state.leased.find deliveryId = some leased →
    x.after.state.transport = some leased.deliveryTag.issuer ∨
      ∃ call ∈ x.after.calls, (hands call).forgets = true

/-- An acknowledgement that is sent in a state with an account. -/
theorem TagAccount.acknowledged {w : RabbitMqWorld} {p : RabbitMqProg Unit}
    {log : List (Sigma RabbitMqOp.Answer)} {channel : Nat} {tag : Amqp.DeliveryTag}
    {k : RabbitMqOp.Answer (.command (.basicAck channel tag)) → RabbitMqProg Unit}
    {others : Multiset RunningCall}
    (account : TagAccount ⟨w, ⟨p, log, .call (.command (.basicAck channel tag)) k⟩ ::ₘ others⟩) :
    tag.issuer = channel ∧ ∀ d ∈ w.server.unacked, d.channel = channel → d.tag = tag.number →
      GivenAs log tag d.message.payload := by
  obtain ⟨⟨issuer, m, mem, rfl⟩, inv⟩ := account.at_command
  refine ⟨issuer, ?_⟩
  intro d there here number
  have about := (inv.held _ (Multiset.mem_cons_self _ _) m mem).message d there
    (here.trans issuer.symm) number
  have given := from_of_hands _ m mem
  cases m with
  | read tag payload =>
    obtain ⟨channel', queue, logged⟩ := given
    have same : d.message.payload = payload := about
    exact .inl ⟨channel', queue, same ▸ logged⟩
  | lease deliveryId tag =>
    obtain ⟨leased, logged, same⟩ := given
    exact .inr ⟨deliveryId, leased, logged, same, about⟩

/-- What an acknowledgement of a worker does: it takes the lease of the delivery and reads
nothing. -/
def Acks (deliveryId : String) (op : RabbitMqOp) : Prop :=
  (∀ other, op = .removeLease other → other = deliveryId) ∧
    ∀ channel queue, op ≠ .command (.basicGet channel queue)

theorem ack_acks (rounds : Nat) (deliveryId : String) :
    (callOf config rounds (.ack deliveryId)).Issues (Acks deliveryId) := by
  have harmless : ∀ op, Harmless op → (∀ other, op ≠ .removeLease other) → Acks deliveryId op := by
    intro op harmless other
    refine ⟨fun removed same => absurd same (other removed), ?_⟩
    rintro channel queue rfl
    exact harmless
  refine Prog.Issues.bind (Prog.Issues.bind ?_ fun _ => ?_) fun _ => .ret
  · exact locked_issues harmless (.call (harmless _ trivial nofun) fun _ => .ret)
  · refine Prog.Issues.bind (activeTransport_issues harmless) fun channel => ?_
    refine Prog.Issues.bind (takeLease_issues harmless ?_) fun leased => ?_
    · exact ⟨fun other same => (RabbitMqOp.removeLease.inj same).symm, nofun⟩
    · cases leased with
      | none => exact .ret
      | some leased =>
        refine Prog.Issues.bind (withTransportResult_issues harmless ?_) fun _ => .ret
        exact ⟨nofun, nofun⟩

/-- In a steady run, every acknowledgement is sent on the channel that has issued its tag. -/
theorem tags_kept_of_steady (w : RabbitMqWorld) (moves : List (Transition RabbitMqBusy RabbitMqMove))
    (b : RabbitMqBusy) (run : Run (Interleaved rabbitmq (IsCall config)) ⟨w.restart, 0⟩ moves b)
    (steady : ∀ x ∈ moves, Steady x) : ∀ x ∈ moves, TagsKept config x := by
  have accounts : ∀ x ∈ moves, TagAccount x.before ∧
      Interleaved rabbitmq (IsCall config) x.before x.label x.after ∧ TagAccount x.after :=
    run.forall_of TagAccount (fun _ _ _ account step steady => account.step step steady)
      (fun _ _ _ account step steady => ⟨account, step, account.step step steady⟩)
      (tagAccount_start w) steady
  rintro ⟨b, m, b'⟩ mem
  obtain ⟨before, step, after⟩ := accounts _ mem
  have own : ∀ channel tag r call others,
      m = .command (.command (.basicAck channel tag)) r call others → tag.issuer = channel ∧
        ∀ d ∈ b.state.server.unacked, d.channel = channel → d.tag = tag.number →
          GivenAs call.log tag d.message.payload := by
    intro channel tag r call others same
    cases step with
    | command answered =>
      cases same
      obtain ⟨issuer, given⟩ := before.acknowledged
      exact ⟨issuer, fun d there here number => (given d there here number).mono⟩
    | start | ret | fail => cases same
  refine ⟨fun channel tag r call others same => (own channel tag r call others same).1,
    fun channel tag r call others same => (own channel tag r call others same).2, ?_, ?_⟩
  · intro channel tag r call others rounds deliveryId same called d there here number
    have issued := issued_of_run run _ mem _ _ _ _ same
      (called ▸ ack_acks rounds deliveryId : call.program.Issues (Acks deliveryId))
    rcases (own channel tag r call others same).2 d there here number with
      ⟨channel', queue, logged⟩ | ⟨deliveryId', leased, logged, -, names⟩
    · exact absurd rfl ((issued _ logged).2 channel' queue)
    · exact (issued _ logged).1 deliveryId' rfl ▸ names
  · intro deliveryId leased found
    rcases after.holds.leases deliveryId leased found with same | ⟨g, mem, forgets⟩
    · exact .inl same
    · obtain ⟨call, there, rfl⟩ := Multiset.mem_map.1 mem
      exact .inr ⟨call, there, forgets⟩

end Runs

section Samples

/-- What a step depends on, as a test. -/
def steadyStep (w : RabbitMqWorld) :
    (c : RabbitMqOp) → c.Answer → RunningCall → List RunningCall → Bool
  | .insertLease _, _, call, _ => w.transport = (handsBefore call).channel
  | .removeLease _, some _, call, others => (handsBefore call).channel = none ∨
      w.transport = (handsBefore call).channel ∧ others.all fun other => !(hands other).forgets
  | .isConnected channel, true, call, _ =>
    (handsBefore call).messages.isEmpty ∨ (handsBefore call).channel = some channel
  | .setTransport (some _), _, call, _ => (handsBefore call).messages.isEmpty
  | _, _, _, _ => true

theorem steady_of_passes {entries : List (Sigma RabbitMqOp.Answer)}
    {moves : List (Transition RabbitMqBusy RabbitMqMove)} (passes : Passes steadyStep entries moves)
    {x : Transition RabbitMqBusy RabbitMqMove} (mem : x ∈ moves) : Steady x where
  records := by
    intro leased r call others same
    obtain ⟨list, -, passed⟩ := passes.tested x mem _ _ _ _ same
    exact of_decide_eq_true passed
  takes := by
    intro deliveryId leased call others same some
    obtain ⟨list, rfl, passed⟩ := passes.tested x mem _ _ _ _ same
    obtain ⟨current, remember⟩ := (of_decide_eq_true passed).resolve_left some
    refine ⟨current, fun other mem => ?_⟩
    simpa using List.all_eq_true.1 remember other (Multiset.mem_coe.1 mem)
  given := by
    intro channel call others same some
    obtain ⟨list, -, passed⟩ := passes.tested x mem _ _ _ _ same
    rcases of_decide_eq_true passed with none | current
    · exact absurd (List.isEmpty_iff.1 none) some
    · exact current
  replaces := by
    intro channel r call others same
    obtain ⟨list, -, passed⟩ := passes.tested x mem _ _ _ _ same
    exact List.isEmpty_iff.1 passed

/-- A broker whose connection is lost while some of its messages are handed out. -/
def dropping (lost : Amqp.Delivery RabbitMqPayload → Bool) (w : RabbitMqWorld) :
    (op : RabbitMqOp) → Option (op.Answer × RabbitMqWorld)
  | .isConnected channel =>
    some (!w.server.unacked.any fun d => d.channel = channel && lost d, w)
  | .command .connect => some (.ok (), { w with server := w.server.closeAll w.server.channels })
  | op => respond 1000 w op

theorem dropping_allowed {lost : Amqp.Delivery RabbitMqPayload → Bool} (w : RabbitMqWorld)
    (op : RabbitMqOp) (answer : op.Answer) (u : RabbitMqWorld)
    (answered : dropping lost w op = some (answer, u)) : rabbitmq w op answer u := by
  unfold dropping at answered
  split at answered
  · cases answered
    exact rfl
  · cases answered
    exact .inl ⟨w.server.channels, _, rfl, rfl⟩
  · exact respond_allowed answered

/-- An acknowledgement on a channel, with a tag of that channel or of another one. -/
def acknowledges (on : Nat) (issuing : Bool) : Sigma RabbitMqOp.Answer → Bool
  | ⟨.command (.basicAck channel tag), _⟩ => channel = on ∧ decide (tag.issuer = channel) = issuing
  | _ => false

theorem exists_acknowledgement {good : RabbitMqWorld → (c : RabbitMqOp) → c.Answer → RunningCall →
      List RunningCall → Bool} {on : Nat} {issuing : Bool} {log : List (Sigma RabbitMqOp.Answer)}
    {moves : List (Transition RabbitMqBusy RabbitMqMove)}
    (found : log.any (acknowledges on issuing) = true) (passes : Passes good log moves) :
    ∃ x ∈ moves, ∃ tag r call others,
      x.label = .command (.command (.basicAck on tag)) r call others ∧
        (decide (tag.issuer = on) = issuing) := by
  obtain ⟨entry, mem, passed⟩ := List.any_eq_true.1 found
  obtain ⟨x, there, call, others, same⟩ := passes.covered entry mem
  unfold acknowledges at passed
  split at passed
  · obtain ⟨rfl, issued⟩ := of_decide_eq_true passed
    exact ⟨x, there, _, _, call, others, same, issued⟩
  · cases passed

/-- Runs of calls of one adapter. -/
def playCalls (h : RabbitMqWorld → (c : RabbitMqOp) → Option (c.Answer × RabbitMqWorld))
    (good : RabbitMqWorld → (c : RabbitMqOp) → c.Answer → RunningCall → List RunningCall → Bool)
    (turns : List (RabbitMqCall ⊕ Nat)) :
    Option ((RabbitMqWorld × List RunningCall) × List (Sigma RabbitMqOp.Answer)) :=
  tryPlay h good .fresh [] (schedule (callOf ⟨"nexus.tasks", "nexus"⟩ 3) turns)

theorem run_playCalls {h : RabbitMqWorld → (c : RabbitMqOp) → Option (c.Answer × RabbitMqWorld)}
    {good : RabbitMqWorld → (c : RabbitMqOp) → c.Answer → RunningCall → List RunningCall → Bool}
    (admits : ∀ w c r u, h w c = some (r, u) → rabbitmq w c r u)
    {turns : List (RabbitMqCall ⊕ Nat)} {w : RabbitMqWorld} {left : List RunningCall}
    {log : List (Sigma RabbitMqOp.Answer)}
    (played : playCalls h good turns = some ((w, left), log)) :
    ∃ moves, Run (Interleaved rabbitmq (IsCall ⟨"nexus.tasks", "nexus"⟩)) ⟨.fresh, 0⟩ moves
      ⟨w, ↑left⟩ ∧ Passes good log moves :=
  run_tryPlay _ admits (fun p mem => by
    obtain ⟨call, rfl⟩ := named_of_start mem
    exact ⟨3, call, rfl⟩) played

/-- Two tasks are enqueued at the same time, and reserved. The first one is acknowledged while the
second one is reserved, and the second one while a further reservation is in progress and the
connection is lost: the adapter connects again, and the task is reserved and acknowledged there. -/
def reconnectingTurns : List (RabbitMqCall ⊕ Nat) :=
  .inl (.enqueue (sampleTask "task-1" "oj" 3)) :: .inl (.enqueue (sampleTask "task-2" "oj" 3)) ::
  inTurn 60 [0, 1] ++
  .inl (.reserve []) :: inTurn 60 [0] ++
  .inl (.ack "rmq-task-1-1") :: .inl (.reserve []) :: inTurn 60 [0, 1] ++
  .inl (.ack "rmq-task-2-2") :: .inl (.reserve []) :: inTurn 60 [0, 1] ++
  .inl (.ack "rmq-task-2-1") :: inTurn 60 [0]

def reconnectingRun :
    Option ((RabbitMqWorld × List RunningCall) × List (Sigma RabbitMqOp.Answer)) :=
  playCalls (dropping fun d => d.channel = 1 &&
    d.message.payload.task? = some (sampleTask "task-2" "oj" 3)) steadyStep reconnectingTurns

theorem tags_kept_in_run : ∃ moves b,
    Run (Interleaved rabbitmq (IsCall ⟨"nexus.tasks", "nexus"⟩)) ⟨.fresh, 0⟩ moves b ∧
      (∀ x ∈ moves, TagsKept ⟨"nexus.tasks", "nexus"⟩ x) ∧
      ∀ on ∈ [1, 2], ∃ x ∈ moves, ∃ tag r call others,
        x.label = .command (.command (.basicAck on tag)) r call others := by
  have found : reconnectingRun.any (fun ran => ran.2.any (acknowledges 1 true) &&
      ran.2.any (acknowledges 2 true)) = true := by
    decide +kernel
  obtain ⟨⟨⟨t, left⟩, log⟩, played, found⟩ := (Option.any_eq_true _ _).1 found
  obtain ⟨first, second⟩ := Bool.and_eq_true_iff.1 found
  obtain ⟨moves, run, passes⟩ := run_playCalls dropping_allowed played
  refine ⟨moves, _, run, tags_kept_of_steady .fresh moves _ run fun x => steady_of_passes passes, ?_⟩
  have acknowledged : ∀ on, log.any (acknowledges on true) = true → ∃ x ∈ moves,
      ∃ tag r call others, x.label = .command (.command (.basicAck on tag)) r call others := by
    intro on found
    obtain ⟨x, mem, tag, r, call, others, same, -⟩ := exists_acknowledgement found passes
    exact ⟨x, mem, tag, r, call, others, same⟩
  simpa using ⟨acknowledged 1 first, acknowledged 2 second⟩

/-- A task is rejected and its dead letter looked at, and the connection is lost meanwhile. -/
def droppedRun : Option ((RabbitMqWorld × List RunningCall) × List (Sigma RabbitMqOp.Answer)) :=
  playCalls (dropping fun d => d.message.payload.asRecord.isSome) (fun _ _ _ _ _ => true) <|
    .inl (.enqueue (sampleTask "task-1" "oj" 3)) :: inTurn 60 [0] ++
    .inl (.reserve []) :: inTurn 60 [0] ++ .inl (.reject "rmq-task-1-1" "boom") :: inTurn 60 [0] ++
    .inl .deadLetters :: inTurn 120 [0]

/-- The dead letter is read on one channel and acknowledged on the next one, where its tag is
another message's or nobody's. -/
theorem tag_crosses_channels : ∃ moves b,
    Run (Interleaved rabbitmq (IsCall ⟨"nexus.tasks", "nexus"⟩)) ⟨.fresh, 0⟩ moves b ∧
      ¬ ∀ x ∈ moves, TagsKept ⟨"nexus.tasks", "nexus"⟩ x := by
  have found : droppedRun.any (fun ran => ran.2.any (acknowledges 2 false)) = true := by
    decide +kernel
  obtain ⟨⟨⟨t, left⟩, log⟩, played, found⟩ := (Option.any_eq_true _ _).1 found
  obtain ⟨moves, run, passes⟩ := run_playCalls dropping_allowed played
  obtain ⟨x, mem, tag, r, call, others, same, other⟩ := exists_acknowledgement found passes
  refine ⟨moves, _, run, fun kept => ?_⟩
  exact of_decide_eq_false other ((kept x mem).issuer _ tag r call others same)

end Samples

end RabbitMq

end NexusCore.Runtime
