import NexusCore.Lib.Interleaving
import NexusCore.Lib.JetStreamContents
import NexusCore.Runtime.Broker.NatsWorld

/-!
# What a call of the NATS adapter does to tasks

A call stores a copy of a task before it settles a message for good, unless it is an `ack`. What it
has been handed, has loaded or has taken from a lease says which task is behind a number.
-/

namespace NexusCore.Runtime

open NexusCore.Lib

namespace NatsPayload

/-- The task that a payload carries. -/
def task : NatsPayload → RuntimeTask
  | .envelope e => e.task
  | .record r => r.task

theorem task_of_asEnvelope {payload : NatsPayload} {e : NatsEnvelope}
    (read : payload.asEnvelope = some e) : payload.task = e.task := by
  cases payload with
  | envelope | record =>
    cases read
    rfl

theorem task_of_asRecord {payload : NatsPayload} {r : RuntimeDeadLetterRecord}
    (read : payload.asRecord = some r) : payload.task = r.task := by
  cases payload with
  | envelope => cases read
  | record =>
    cases read
    rfl

end NatsPayload

namespace Nats

inductive NatsCall where
  | enqueue (task : RuntimeTask)
  | reserve (bindings : List RuntimeRouteBinding)
  | ack (deliveryId : String)
  | retry (deliveryId error : String) (delayMs : UInt64)
  | reject (deliveryId error : String)
  | stats
  | deadLetters
  | replayDeadLetter (deliveryId : String)

/-- A call without its result. -/
def NatsCall.prog (config : NatsQueueConfig) : NatsCall → NatsProg Unit
  | .enqueue task => Nats.enqueue config task
  | .reserve bindings => (Nats.reserve config bindings).bind fun _ => .ret ()
  | .ack deliveryId => Nats.ack deliveryId
  | .retry deliveryId error delayMs =>
    (Nats.retry config deliveryId error delayMs).bind fun _ => .ret ()
  | .reject deliveryId error => Nats.reject config deliveryId error
  | .stats => Nats.stats.bind fun _ => .ret ()
  | .deadLetters => Nats.deadLetters.bind fun _ => .ret ()
  | .replayDeadLetter deliveryId => (Nats.replayDeadLetter config deliveryId).bind fun _ => .ret ()

namespace NatsCall

/-- The task that a call brings in. -/
def brings : NatsCall → Multiset RuntimeTask
  | .enqueue task => {task}
  | _ => 0

def Acknowledges : NatsCall → Prop
  | .ack _ => True
  | _ => False

end NatsCall

/-- What a call has been handed and has loaded, the lease that it has taken, and the task of which it
has stored a copy. -/
structure Pocket where
  fetched : Option (Nat × RuntimeTask)
  loaded : List (Nat × RuntimeTask)
  leased : Option NatsLeasedDelivery
  spare : Multiset RuntimeTask

namespace Pocket

def empty : Pocket := ⟨none, [], none, 0⟩

def next (pocket : Pocket) : (op : NatsOp) → op.Answer → Pocket
  | .command (.fetch _), .ok (some message) =>
    { pocket with fetched := some (message.streamSequence, message.payload.task) }
  | .command (.getLogged sequence), .ok (some payload) =>
    { pocket with loaded := (sequence, NatsPayload.task payload) :: pocket.loaded }
  | .command (.awaitConfirm _ payload), .ok _ => { pocket with spare := {payload.task} }
  | .command (.ack _), _ | .command (.deleteLogged _), _ => { pocket with spare := 0 }
  | .removeLease _, found => { pocket with leased := found }
  | _, _ => pocket

/-- A message is settled for good only after a copy of its task has been stored, or by a call that
acknowledges. -/
def permits (acknowledges : Prop) (pocket : Pocket) : NatsOp → Prop
  | .command (.ack sequence) => ∃ leased, pocket.leased = some leased ∧ leased.acker = sequence ∧
      (pocket.spare = {leased.delivery.task} ∨ pocket.spare = 0 ∧ acknowledges)
  | .command (.deleteLogged sequence) =>
    ∃ task, (sequence, task) ∈ pocket.loaded ∧ pocket.spare = {task}
  | .insertLease leased => pocket.fetched = some (leased.acker, leased.delivery.task)
  | _ => True

/-- Nothing has been stored or taken, and what was loaded is still known. -/
structure Extends (start pocket : Pocket) : Prop where
  leased : pocket.leased = start.leased
  spare : pocket.spare = start.spare
  loaded : start.loaded ⊆ pocket.loaded

theorem Extends.refl (start : Pocket) : start.Extends start := ⟨rfl, rfl, List.Subset.refl _⟩

theorem Extends.trans {start middle pocket : Pocket} (first : start.Extends middle)
    (second : middle.Extends pocket) : start.Extends pocket where
  leased := second.leased.trans first.leased
  spare := second.spare.trans first.spare
  loaded := List.Subset.trans first.loaded second.loaded

end Pocket

/-- How an operation of the adapter deals with tasks. -/
def minding (acknowledges : Prop) : Discipline NatsOp NatsOp.Answer Pocket :=
  ⟨Pocket.permits acknowledges, Pocket.next, fun _ => True⟩

section Programs

variable {acknowledges : Prop} {α β : Type} {start : Pocket} {p : NatsProg α}
  {f : α → NatsProg β} {exits : Pocket → AppResult α → Prop} {exits' : Pocket → AppResult β → Prop}

abbrev Minds (acknowledges : Prop) (exits : Pocket → AppResult α → Prop) (start : Pocket)
    (p : NatsProg α) : Prop :=
  (minding acknowledges).Upholds (fun _ _ _ => True) exits start p

/-- The operations that neither store a task nor settle a message nor touch a lease. -/
def Quiet : NatsOp → Prop
  | .command (.awaitConfirm ..) | .command (.ack _) | .command (.deleteLogged _)
  | .insertLease _ | .removeLease _ => False
  | _ => True

theorem extends_of_quiet {op : NatsOp} (quiet : Quiet op) (r : op.Answer) :
    start.Extends (start.next op r) := by
  unfold Pocket.next
  split
  · exact ⟨rfl, rfl, List.Subset.refl _⟩
  · exact ⟨rfl, rfl, List.subset_cons_self _ _⟩
  · exact quiet.elim
  · exact quiet.elim
  · exact quiet.elim
  · exact quiet.elim
  · exact .refl _

theorem minds_of_quiet (issues : p.Issues Quiet) :
    Minds acknowledges (fun pocket _ => start.Extends pocket) start p := by
  induction issues generalizing start with
  | ret | fail => first | exact .ret (.refl _) | exact .fail (.refl _)
  | @call op k quiet _ ih =>
    refine .call ?_ fun r _ => (ih r).mono fun pocket _ => (extends_of_quiet quiet r).trans
    cases op with
    | command c => cases c <;> first | exact quiet.elim | trivial
    | insertLease => exact quiet.elim
    | _ => trivial

/-- A quiet program leaves what it was given to what comes after it. -/
theorem minds_after_quiet (issues : p.Issues Quiet)
    (rest : ∀ a pocket, start.Extends pocket → Minds acknowledges exits' pocket (f a))
    (failed : ∀ pocket e, start.Extends pocket → exits' pocket (.error e)) :
    Minds acknowledges exits' start (p.bind f) :=
  (minds_of_quiet issues).bind (fun pocket a => rest a pocket) failed

theorem minds_query {c : JetStream.Cmd NatsPayload} {message : String} {f : c.Reply → NatsProg β}
    (permitted : start.permits acknowledges (.command c))
    (rest : ∀ reply, Minds acknowledges exits' (start.next (.command c) (.ok reply)) (f reply))
    (failed : ∀ error e, exits' (start.next (.command c) (.error error)) (.error e)) :
    Minds acknowledges exits' start ((query c message).bind f) := by
  refine .call permitted fun r _ => ?_
  cases r with
  | error error => exact .fail (failed error _)
  | ok reply => exact rest reply

theorem consumer_quiet (topology : NatsRouteTopology) : (consumer topology).Issues Quiet :=
  (query_issues trivial).bind fun _ => .ret

theorem ensureTopology_quiet (topology : NatsRouteTopology) :
    (ensureTopology topology).Issues Quiet :=
  (consumer_quiet topology).bind fun _ => .ret

theorem catalog_quiet (c : CatalogCmd NatsRouteTopology) : (catalog c).Issues Quiet :=
  .call trivial fun _ => .ret

theorem decode_quiet (read : NatsPayload → Option α) (payload : NatsPayload) :
    (decode read payload).Issues Quiet := by
  refine .call trivial fun parses => ?_
  split
  · exact .ret
  · exact .fail

theorem loadRecords_quiet (sequences : List Nat) : (loadRecords sequences).Issues Quiet := by
  induction sequences with
  | nil => exact .ret
  | cons sequence rest ih =>
    refine (query_issues trivial).bind fun payload => ?_
    cases payload with
    | none => exact ih
    | some payload => exact (decode_quiet _ payload).bind fun record => ih.bind fun records => .ret

theorem loadDeadLetters_quiet : loadDeadLetters.Issues Quiet := by
  refine (query_issues trivial).bind fun info => ?_
  split
  · exact .ret
  · exact loadRecords_quiet _

theorem statsRows_quiet (leases : NatsLeases) (deadLetters : List (Nat × RuntimeDeadLetterRecord))
    (topologies : List NatsRouteTopology) : (statsRows leases deadLetters topologies).Issues Quiet := by
  induction topologies with
  | nil => exact .ret
  | cons topology rest ih =>
    refine Prog.Issues.bind ?_ fun row => ih.bind fun rows => .ret
    exact (consumer_quiet topology).bind fun name => (query_issues trivial).bind fun pending => .ret

theorem stats_quiet : stats.Issues Quiet :=
  (catalog_quiet _).bind fun topologies => Prog.Issues.bind (.call trivial fun _ => .ret) fun leases =>
    loadDeadLetters_quiet.bind fun deadLetters => statsRows_quiet leases deadLetters topologies

theorem decode_minds (read : NatsPayload → Option α) (payload : NatsPayload) :
    Minds acknowledges (fun pocket o => pocket = start ∧ ∀ a, o = .ok a → read payload = some a)
      start (decode read payload) := by
  refine .call trivial fun parses _ => ?_
  split
  · next value _ found =>
    refine .ret ⟨rfl, ?_⟩
    rintro a ⟨⟩
    exact found
  · exact .fail ⟨rfl, nofun⟩

/-- What is loaded is remembered under its number. -/
theorem loadRecords_minds (sequences : List Nat) : Minds acknowledges (fun pocket o =>
      start.Extends pocket ∧ ∀ records, o = .ok records →
        ∀ found ∈ records, (found.1, found.2.task) ∈ pocket.loaded) start
    (loadRecords sequences) := by
  induction sequences generalizing start with
  | nil =>
    refine .ret ⟨.refl _, ?_⟩
    rintro records ⟨⟩ found mem
    cases mem
  | cons sequence rest ih =>
    refine minds_query trivial ?_ fun error e => ⟨.refl _, nofun⟩
    intro payload
    cases payload with
    | none => exact ih
    | some payload =>
      have quiet : Quiet (.command (.getLogged sequence)) := trivial
      have grown : start.Extends
          (start.next (.command (.getLogged sequence)) (.ok (some payload))) :=
        extends_of_quiet quiet _
      refine (decode_minds _ payload).bind ?_ ?_
      · rintro _ record ⟨rfl, read⟩
        refine ih.bind (fun pocket records known => .ret ⟨grown.trans known.1, ?_⟩)
          fun pocket e known => ⟨grown.trans known.1, nofun⟩
        rintro all ⟨⟩ found mem
        rcases List.mem_cons.1 mem with rfl | later
        · rw [← NatsPayload.task_of_asRecord (read record rfl)]
          exact known.1.loaded List.mem_cons_self
        · exact known.2 records rfl found later
      · rintro _ e ⟨rfl, -⟩
        exact ⟨grown, nofun⟩

theorem loadDeadLetters_minds : Minds acknowledges (fun pocket o => start.Extends pocket ∧
      ∀ records, o = .ok records → ∀ found ∈ records, (found.1, found.2.task) ∈ pocket.loaded) start
    loadDeadLetters := by
  refine minds_query trivial ?_ fun error e => ⟨.refl _, nofun⟩
  intro info
  split
  · refine .ret ⟨.refl _, ?_⟩
    rintro records ⟨⟩ found mem
    cases mem
  · exact loadRecords_minds _

/-- After a confirmed publish there is a spare copy of the task. -/
def Stores (start : Pocket) (task : RuntimeTask) (pocket : Pocket) (o : AppResult α) : Prop :=
  ∀ a, o = .ok a → pocket.spare = {task} ∧ pocket.leased = start.leased ∧
    start.loaded ⊆ pocket.loaded

theorem publishConfirmed_minds (subject : String) (payload : NatsPayload)
    (failure unconfirmed : String) : Minds acknowledges (Stores start payload.task) start
      (publishConfirmed subject payload failure unconfirmed) := by
  refine minds_query trivial (fun _ => ?_) fun error e => nofun
  refine minds_query trivial (fun _ => .ret ?_) fun error e => nofun
  intro a _
  exact ⟨rfl, rfl, List.Subset.refl _⟩

theorem publishEnvelope_minds (topology : NatsRouteTopology) (e : NatsEnvelope) :
    Minds acknowledges (Stores start e.task) start (publishEnvelope topology e) := by
  refine minds_after_quiet (ensureTopology_quiet topology) (fun _ pocket kept => ?_)
    fun pocket error kept => nofun
  refine (publishConfirmed_minds _ (.envelope e) _ _).mono fun after o stored a ended => ?_
  obtain ⟨spare, leased, loaded⟩ := stored a ended
  exact ⟨spare, leased.trans kept.leased, List.Subset.trans kept.loaded loaded⟩

theorem deadLetter_minds {config : NatsQueueConfig} {leased : NatsLeasedDelivery}
    {error message : String} (held : start.leased = some leased) :
    Minds acknowledges (fun pocket o => ∀ a, o = .ok a → pocket.spare = 0) start
      (deadLetter config leased error message) := by
  refine .call trivial fun now _ => .call trivial fun topology _ => ?_
  refine (publishConfirmed_minds _ (.record _) _ _).bind ?_
    fun pocket e _ => nofun
  intro pocket _ stored
  obtain ⟨spare, kept, -⟩ := stored _ rfl
  refine minds_query ⟨leased, kept.trans held, rfl, .inl spare⟩ (fun _ => .ret fun a _ => rfl)
    fun error e => nofun

theorem lease_minds {config : NatsQueueConfig} {message : JetStream.Delivered NatsPayload}
    (handed : start.fetched = some (message.streamSequence, message.payload.task)) :
    Minds acknowledges (fun pocket _ => pocket.spare = start.spare) start (lease config message) := by
  refine (decode_minds NatsPayload.asEnvelope message.payload).bind ?_ ?_
  · rintro _ envelope ⟨rfl, read⟩
    rw [NatsPayload.task_of_asEnvelope (read envelope rfl)] at handed
    exact .call trivial fun now _ => .call handed fun _ _ => .ret rfl
  · rintro _ e ⟨rfl, -⟩
    rfl

/-- A reserve stores nothing; it leases what it has been handed. -/
theorem reserveRoutes_minds (config : NatsQueueConfig) (routes : List Route) :
    Minds acknowledges (fun pocket _ => pocket.spare = start.spare) start
      (reserveRoutes config routes) := by
  induction routes generalizing start with
  | nil => exact .ret rfl
  | cons route rest ih =>
    refine .call trivial fun known _ => ?_
    cases known with
    | none => exact ih
    | some topology =>
      have found : Minds acknowledges (fun pocket _ => pocket.spare = start.spare) start
          (reserveRoute config route topology) := by
        refine minds_after_quiet (ensureTopology_quiet topology) (fun _ pocket kept => ?_)
          fun pocket e kept => kept.spare
        refine minds_after_quiet (consumer_quiet topology) (fun name pocket' kept' => ?_)
          fun pocket' e kept' => kept'.spare.trans kept.spare
        have spare : pocket'.spare = start.spare := kept'.spare.trans kept.spare
        refine minds_query trivial (fun handed => ?_) fun error e => spare
        cases handed with
        | none => exact .ret spare
        | some message =>
          refine .call trivial fun _ _ => ?_
          exact (lease_minds rfl).bind (fun _ delivery same => .ret (same.trans spare))
            fun _ e same => same.trans spare
      refine found.bind (fun pocket delivery same => ?_) fun _ e same => same
      cases delivery with
      | none => exact same ▸ ih
      | some delivery => exact .ret same

theorem findDeadLetterReplay_minds (config : NatsQueueConfig) (deliveryId : String) :
    Minds acknowledges (fun pocket o => ∀ replay, o = .ok (some replay) →
      (replay.stored, replay.record.task) ∈ pocket.loaded) start
        (findDeadLetterReplay config deliveryId) := by
  refine loadDeadLetters_minds.bind ?_ ?_
  · intro pocket records known
    split
    · exact .ret fun replay same => nomatch same
    · next sequence record found =>
      refine .call trivial fun topology _ => .ret ?_
      rintro replay ⟨⟩
      exact known.2 records rfl _ (List.mem_of_find?_eq_some found)
  · intro pocket e _ replay same
    cases same

theorem replayDeadLetter_minds (config : NatsQueueConfig) (deliveryId : String) :
    Minds acknowledges (fun pocket o => ∀ a, o = .ok a → pocket.spare = 0) start
      (replayDeadLetter config deliveryId) := by
  refine (findDeadLetterReplay_minds config deliveryId).bind ?_ fun _ _ _ _ same => nomatch same
  intro pocket found known
  cases found with
  | none => exact .fail fun _ same => nomatch same
  | some replay =>
    refine (publishEnvelope_minds replay.topology (replayOf replay.record)).bind ?_
      fun _ _ _ _ same => nomatch same
    intro after _ stored
    obtain ⟨spare, -, loaded⟩ := stored _ rfl
    have removed : Minds acknowledges (fun pocket _ => pocket.spare = 0) after
        (removeReplayedDeadLetterSequence replay.stored) :=
      minds_query ⟨replay.record.task, loaded (known replay rfl), spare⟩ (fun _ => .ret rfl)
        fun error e => rfl
    exact removed.bind (fun _ _ spent => .ret fun _ _ => spent) fun _ _ _ _ same => nomatch same

theorem call_minds (config : NatsQueueConfig) (made : NatsCall) : Minds made.Acknowledges
      (fun pocket o => ∀ a, o = .ok a → pocket.spare = made.brings) .empty (made.prog config) := by
  have alone : ∀ {γ : Type} {q : NatsProg γ} {acknowledges : Prop},
      Minds acknowledges (fun pocket o => ∀ a, o = .ok a → pocket.spare = 0) .empty q →
      Minds acknowledges (fun pocket o => ∀ a, o = .ok a → pocket.spare = 0) .empty
        (q.bind fun _ => .ret ()) :=
    fun minds => minds.bind (fun _ _ spent => .ret fun _ _ => spent _ rfl)
      fun _ _ _ _ same => nomatch same
  have quiet : ∀ {γ : Type} {q : NatsProg γ} {acknowledges : Prop}, q.Issues Quiet →
      Minds acknowledges (fun pocket o => ∀ a, o = .ok a → pocket.spare = 0) .empty q :=
    fun issues => (minds_of_quiet issues).mono fun _ _ kept _ _ => kept.spare
  cases made with
  | enqueue task =>
    refine .call trivial fun topology _ => ?_
    exact (publishEnvelope_minds topology ⟨task, none⟩).mono fun _ _ stored a ended =>
      (stored a ended).1
  | reserve bindings =>
    have routes : Minds False (fun pocket _ => pocket.spare = 0) .empty
        (reserveFromBroker config bindings) :=
      .call trivial fun routes _ => (reserveRoutes_minds config routes).mono fun _ _ spent => spent
    refine alone (routes.attempt.bind (fun pocket result ended => ?_) fun _ _ _ _ same => nomatch same)
    obtain ⟨_, -, spent⟩ := ended
    cases result with
    | ok | error => exact .ret fun _ _ => spent
  | ack deliveryId =>
    refine .call trivial fun leased _ => ?_
    cases leased with
    | none => exact .ret fun _ _ => rfl
    | some leased =>
      exact minds_query ⟨leased, rfl, rfl, .inr ⟨rfl, trivial⟩⟩ (fun _ => .ret fun _ _ => rfl)
        fun _ _ _ same => nomatch same
  | retry deliveryId error delayMs =>
    refine alone (.call trivial fun leased _ => ?_)
    cases leased with
    | none => exact .fail fun _ same => nomatch same
    | some leased =>
      change Minds _ _ _ (ite (leased.delivery.attempt ≥ _) _ _)
      split
      · exact (deadLetter_minds rfl).bind (fun _ _ spent => .ret fun _ _ => spent _ rfl)
          fun _ _ _ _ same => nomatch same
      · exact minds_query trivial (fun _ => .ret fun _ _ => rfl) fun _ _ _ same => nomatch same
  | reject deliveryId error =>
    refine .call trivial fun leased _ => ?_
    cases leased with
    | none => exact .ret fun _ _ => rfl
    | some leased => exact deadLetter_minds rfl
  | stats => exact alone (quiet stats_quiet)
  | deadLetters => exact alone (quiet (loadDeadLetters_quiet.bind fun _ => .ret))
  | replayDeadLetter deliveryId => exact alone (replayDeadLetter_minds config deliveryId)

end Programs

section Steps

variable {w v : NatsWorld} {op : NatsOp} {r : op.Answer} {pocket : Pocket}
  {server t : JetStream.Server NatsPayload}

/-- The message that a lease acknowledges carries the task of its delivery. -/
def Speaks (server : JetStream.Server NatsPayload) (leased : NatsLeasedDelivery) : Prop :=
  server.Holds leased.acker (·.task = leased.delivery.task)

/-- What a call has seen is so. -/
structure Known (server : JetStream.Server NatsPayload) (pocket : Pocket) : Prop where
  fetched : ∀ found, pocket.fetched = some found → server.Holds found.1 (·.task = found.2)
  loaded : ∀ found ∈ pocket.loaded, server.Logs found.1 (·.task = found.2)
  leased : ∀ leased, pocket.leased = some leased → Speaks server leased

theorem known_empty : Known server .empty :=
  ⟨fun _ same => (nomatch same), fun _ mem => (nomatch mem), fun _ same => (nomatch same)⟩

/-- What is known of a server stays so. -/
structure Later (server t : JetStream.Server NatsPayload) : Prop where
  holds : ∀ {n Q}, server.Holds n Q → t.Holds n Q
  logs : ∀ {n Q}, server.Logs n Q → t.Logs n Q

theorem Known.later (known : Known server pocket) (later : Later server t) : Known t pocket where
  fetched found same := later.holds (known.fetched found same)
  loaded found mem := later.logs (known.loaded found mem)
  leased leased same := later.holds (known.leased leased same)

/-- A command has had no effect, or its effect some time later. -/
theorem effect_of_step {c : JetStream.Cmd NatsPayload} {r : Except String c.Reply}
    (step : nats w (.command c) r v) : ∃ due, v.server = w.server.elapse due ∨
      ∃ reply, (w.server.elapse due).execute c = some (reply, v.server) := by
  have refused : Refused w v → ∃ due, v.server = w.server.elapse due := by
    rintro ⟨due, rfl⟩
    exact ⟨due, rfl⟩
  have executed : ∀ reply, Executed w c reply v →
      ∃ due, (w.server.elapse due).execute c = some (reply, v.server) := by
    rintro reply ⟨due, server, executed, rfl⟩
    exact ⟨due, executed⟩
  cases r with
  | ok reply =>
    rcases step with done | ⟨-, lost⟩
    · obtain ⟨due, done⟩ := executed reply done
      exact ⟨due, .inr ⟨reply, done⟩⟩
    · obtain ⟨due, same⟩ := refused lost
      exact ⟨due, .inl same⟩
  | error error =>
    rcases step with lost | ⟨reply, done⟩
    · obtain ⟨due, same⟩ := refused lost
      exact ⟨due, .inl same⟩
    · obtain ⟨due, done⟩ := executed reply done
      exact ⟨due, .inr ⟨reply, done⟩⟩

theorem later_of_step (step : nats w op r v) : Later w.server v.server := by
  cases op with
  | command c =>
    obtain ⟨due, same | ⟨reply, executed⟩⟩ := effect_of_step step
    · rw [same]
      exact ⟨fun holds => holds.restand _, fun logs => logs.restand _⟩
    · exact ⟨fun holds => (holds.restand _).execute executed,
        fun logs => (logs.restand _).execute executed⟩
  | insertLease | nowMs | parse =>
    obtain rfl := step
    exact ⟨id, id⟩
  | removeLease | leases | catalog =>
    obtain ⟨-, rfl⟩ := step
    exact ⟨id, id⟩

/-- A command that has to be answered has taken effect when it is. -/
theorem executed_of_step {c : JetStream.Cmd NatsPayload} {reply : c.Reply}
    (confirmed : ¬ Unconfirmed c) (step : nats w (.command c) (.ok reply) v) : Executed w c reply v :=
  step.elim id fun refused => absurd refused.1 confirmed

theorem Known.next (known : Known w.server pocket)
    (leases : ∀ id leased, w.leased.lookup id = some leased → Speaks w.server leased)
    (step : nats w op r v) : Known v.server (pocket.next op r) := by
  have later := later_of_step step
  have same := known.later later
  unfold Pocket.next
  split
  · next message =>
    refine ⟨?_, same.loaded, same.leased⟩
    rintro found ⟨⟩
    obtain ⟨due, server, executed, rfl⟩ := executed_of_step (by nofun) step
    exact (JetStream.Server.holds_of_fetch executed).mono fun _ => congrArg NatsPayload.task
  · next payload =>
    refine ⟨same.fetched, ?_, same.leased⟩
    rw [List.forall_mem_cons]
    refine ⟨?_, same.loaded⟩
    obtain ⟨due, server, executed, rfl⟩ := executed_of_step (by nofun) step
    exact (JetStream.Server.logs_of_getLogged executed).mono fun _ => congrArg NatsPayload.task
  · exact ⟨same.fetched, same.loaded, same.leased⟩
  · exact ⟨same.fetched, same.loaded, same.leased⟩
  · exact ⟨same.fetched, same.loaded, same.leased⟩
  · next deliveryId =>
    refine ⟨same.fetched, same.loaded, ?_⟩
    rintro leased rfl
    obtain ⟨found, rfl⟩ := step
    exact leases _ leased found.symm
  · exact same

/-- A node leases what it has been handed. -/
theorem leases_of_step {acknowledges : Prop} (known : Known w.server pocket)
    (permitted : pocket.permits acknowledges op)
    (leases : ∀ id leased, w.leased.lookup id = some leased → Speaks w.server leased)
    (step : nats w op r v) :
    ∀ id leased, v.leased.lookup id = some leased → Speaks v.server leased := by
  have kept : ∀ id leased, w.leased.lookup id = some leased → Speaks v.server leased :=
    fun id leased held => (later_of_step step).holds (leases id leased held)
  cases op with
  | command c =>
    rwa [(memory_of_command step).1]
  | insertLease inserted =>
    obtain rfl := step
    intro id leased held
    rcases of_lookup_insert held with ⟨-, rfl⟩ | ⟨-, old⟩
    · exact known.fetched _ permitted
    · exact kept id leased old
  | removeLease deliveryId =>
    obtain ⟨-, rfl⟩ := step
    intro id leased held
    exact kept id leased (of_lookup_erase held).2
  | leases | catalog =>
    obtain ⟨-, rfl⟩ := step
    exact kept
  | nowMs | parse =>
    obtain rfl := step
    exact kept

/-- The tasks in the streams. -/
def stored (server : JetStream.Server NatsPayload) : Multiset RuntimeTask :=
  server.contents.map NatsPayload.task

/-- The task whose message a call settles for good without another copy. -/
def settles (pocket : Pocket) : NatsOp → Multiset RuntimeTask
  | .command (.ack _) =>
    match pocket.leased with
    | some leased => if pocket.spare = 0 then {leased.delivery.task} else 0
    | none => 0
  | _ => 0

@[simp] theorem stored_elapse (due : Nat → Bool) : stored (server.elapse due) = stored server :=
  congrArg (Multiset.map NatsPayload.task) (JetStream.Server.contents_elapse due)

theorem stored_store (subject : String) (payload : NatsPayload) :
    stored (server.store subject payload) = payload.task ::ₘ stored server := by
  rw [stored, JetStream.Server.contents_store, Multiset.map_cons]
  rfl

theorem stored_of_spares {c : JetStream.Cmd NatsPayload} {r : Except String c.Reply}
    (spares : c.Spares) (step : nats w (.command c) r v) : stored v.server = stored w.server := by
  obtain ⟨due, same | ⟨reply, executed⟩⟩ := effect_of_step step
  · rw [same, stored_elapse]
  · refine Eq.trans ?_ (stored_elapse due)
    exact congrArg (Multiset.map NatsPayload.task)
      (JetStream.Server.contents_execute spares executed)

theorem spare_of_spares {c : JetStream.Cmd NatsPayload} (spares : c.Spares)
    (r : Except String c.Reply) : (pocket.next (.command c) r).spare = pocket.spare := by
  cases c with
  | fetch consumer => rcases r with error | _ | message <;> rfl
  | getLogged sequence => rcases r with error | _ | payload <;> rfl
  | awaitConfirm | ack | deleteLogged => exact spares.elim
  | _ => rfl

/-- A message that is settled takes its task away at most. -/
theorem stored_of_ack {task : RuntimeTask} {sequence : Nat} {r : Except String Unit}
    (holds : w.server.Holds sequence (·.task = task))
    (step : nats w (.command (.ack sequence)) r v) : stored w.server ≤ task ::ₘ stored v.server := by
  obtain ⟨due, same | ⟨reply, executed⟩⟩ := effect_of_step step
  · rw [same, stored_elapse]
    exact Multiset.le_cons_self _ _
  · obtain ⟨-, same⟩ := Prod.mk.inj (Option.some.inj executed)
    rw [← stored_elapse due, ← same]
    exact (holds.restand _).contents_remove

theorem stored_of_deleteLogged {task : RuntimeTask} {sequence : Nat} {r : Except String Unit}
    (logs : w.server.Logs sequence (·.task = task))
    (step : nats w (.command (.deleteLogged sequence)) r v) :
    stored w.server ≤ task ::ₘ stored v.server := by
  obtain ⟨due, same | ⟨reply, executed⟩⟩ := effect_of_step step
  · rw [same, stored_elapse]
    exact Multiset.le_cons_self _ _
  · rw [JetStream.Server.execute] at executed
    split_ifs at executed
    obtain ⟨-, same⟩ := Prod.mk.inj (Option.some.inj executed)
    rw [← stored_elapse due, ← same]
    exact (logs.restand _).contents_removeLogged

/-- What a command adds to the pocket of its call it has added to the streams, and what it takes out
of the streams was in the pocket or is settled for good. -/
theorem stored_of_step {acknowledges : Prop} (known : Known w.server pocket)
    (permitted : pocket.permits acknowledges op) (step : nats w op r v) :
    stored w.server + (pocket.next op r).spare ≤
      stored v.server + pocket.spare + settles pocket op := by
  have unchanged : (pocket.next op r).spare = pocket.spare → stored w.server ≤ stored v.server →
      stored w.server + (pocket.next op r).spare ≤
        stored v.server + pocket.spare + settles pocket op := by
    intro same grown
    rw [same]
    exact (add_le_add_left grown _).trans (Multiset.le_add_right _ _)
  cases op with
  | command c =>
    by_cases spares : c.Spares
    · exact unchanged (spare_of_spares spares r) (stored_of_spares spares step).ge
    cases c with
    | awaitConfirm subject payload =>
      cases r with
      | ok reply =>
        obtain ⟨due, server, executed, rfl⟩ := executed_of_step (by nofun) step
        obtain ⟨-, same⟩ := Prod.mk.inj (Option.some.inj executed)
        rw [← same, stored_store, stored_elapse]
        change stored w.server + {payload.task} ≤ _
        rw [add_comm, Multiset.singleton_add, add_assoc]
        exact Multiset.le_add_right _ _
      | error error =>
        refine unchanged rfl ?_
        obtain ⟨due, same | ⟨reply, executed⟩⟩ := effect_of_step step
        · rw [same, stored_elapse]
        · obtain ⟨-, same⟩ := Prod.mk.inj (Option.some.inj executed)
          rw [← same, stored_store, stored_elapse]
          exact Multiset.le_cons_self _ _
    | ack sequence =>
      obtain ⟨leased, held, rfl, paid⟩ := permitted
      have fewer := stored_of_ack (known.leased leased held) step
      rw [← Multiset.singleton_add, add_comm] at fewer
      change stored w.server + 0 ≤ _
      rcases paid with own | ⟨none, -⟩
      · rw [own, add_zero]
        exact fewer.trans (Multiset.le_add_right _ _)
      · simpa only [settles, held, none, add_zero, if_true] using fewer
    | deleteLogged sequence =>
      obtain ⟨task, loaded, own⟩ := permitted
      have fewer := stored_of_deleteLogged (known.loaded _ loaded) step
      rw [← Multiset.singleton_add, add_comm] at fewer
      change stored w.server + 0 ≤ _
      rw [own, add_zero]
      exact fewer.trans (Multiset.le_add_right _ _)
    | _ => exact absurd trivial spares
  | insertLease | nowMs | parse =>
    obtain rfl := step
    exact Multiset.le_add_right _ _
  | removeLease | leases | catalog =>
    obtain ⟨-, rfl⟩ := step
    exact Multiset.le_add_right _ _

end Steps

end Nats

end NexusCore.Runtime
