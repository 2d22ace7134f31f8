import Mathlib.Data.List.Chain
import Mathlib.Data.Multiset.Filter
import Mathlib.Logic.Function.Basic
import NexusCore.Runtime.Delivery

/-!
# The life of a task

The phases of a task, apart from the code: the status that is stored of it, where the task is, the
report about a failed delivery that is still to be written, and the reports so far. A task is at
one spot at most. As long as the next attempt does not overtake the report about the last one, the
status fits the spot, and no report sets the task back.
-/

namespace NexusCore.Runtime

/-- What a status says about a task: it waits, a worker has it, it has ended, or it was given up. -/
inductive Standing where
  | waiting
  | active
  | ended
  | dead
  deriving DecidableEq

def RuntimeTaskLifecycleStatus.standing : RuntimeTaskLifecycleStatus → Standing
  | .queued | .retrying => .waiting
  | .preparing | .prepared | .compiling | .running => .active
  | .completed | .failed => .ended
  | .deadLettered => .dead

def RuntimeTaskLifecycleStatus.Terminal (status : RuntimeTaskLifecycleStatus) : Prop :=
  status.standing = .ended ∨ status.standing = .dead

instance (status : RuntimeTaskLifecycleStatus) : Decidable status.Terminal :=
  inferInstanceAs (Decidable (_ ∨ _))

/-- A status that is stored of a task during one of its attempts. -/
structure Report where
  attempt : Nat
  status : RuntimeTaskLifecycleStatus
  deriving DecidableEq, Repr

/-- A report that is not terminal sets the task back after one about a later attempt or a terminal
one. -/
def Report.SetsBack (earlier later : Report) : Prop :=
  ¬ later.status.Terminal ∧ (later.attempt < earlier.attempt ∨ earlier.status.Terminal)

instance (earlier later : Report) : Decidable (Report.SetsBack earlier later) :=
  inferInstanceAs (Decidable (_ ∧ _))

/-- No report sets the task back. -/
def Forward (reports : List Report) : Prop :=
  reports.Pairwise fun earlier later => ¬ Report.SetsBack earlier later

instance (reports : List Report) : Decidable (Forward reports) :=
  inferInstanceAs (Decidable (List.Pairwise _ _))

/-- The reports go forward and reach no further than an attempt. -/
structure UpTo (attempt : Nat) (reports : List Report) : Prop where
  forward : Forward reports
  within : ∀ report ∈ reports, report.attempt ≤ attempt ∧ ¬ report.status.Terminal

section Reports

variable {attempt : Nat} {reports : List Report} {status : RuntimeTaskLifecycleStatus}

theorem UpTo.mono {later : Nat} (upTo : UpTo attempt reports) (le : attempt ≤ later) :
    UpTo later reports where
  forward := upTo.forward
  within report mem := ⟨(upTo.within report mem).1.trans le, (upTo.within report mem).2⟩

/-- Any report about the attempt goes on from the reports before. -/
theorem UpTo.forward_snoc (upTo : UpTo attempt reports) (status : RuntimeTaskLifecycleStatus) :
    Forward (reports ++ [⟨attempt, status⟩]) := by
  refine List.pairwise_append.2 ⟨upTo.forward, List.pairwise_singleton _ _, ?_⟩
  intro earlier mem later last
  obtain rfl := List.mem_singleton.1 last
  obtain ⟨bound, unfinished⟩ := upTo.within earlier mem
  rintro ⟨-, before | terminal⟩
  · exact absurd before (Nat.not_lt.2 bound)
  · exact unfinished terminal

theorem UpTo.snoc (upTo : UpTo attempt reports) (unfinished : ¬ status.Terminal) :
    UpTo attempt (reports ++ [⟨attempt, status⟩]) where
  forward := upTo.forward_snoc status
  within report mem := by
    rcases List.mem_append.1 mem with old | new
    · exact upTo.within report old
    · obtain rfl := List.mem_singleton.1 new
      exact ⟨le_rfl, unfinished⟩

theorem upTo_nil : UpTo attempt [] where
  forward := .nil
  within _ mem := absurd mem List.not_mem_nil

end Reports

/-- Where a task is; a delivery is reserved before the first report about it, and held after it. -/
inductive Spot where
  | scheduled
  | waiting (attempt : Nat)
  | reserved (attempt : Nat)
  | held (attempt : Nat)
  | settling (attempt : Nat)
  | dead

/-- A report about a failed delivery that is still to be written. -/
inductive Late where
  | requeued (attempt : Nat)
  | buried (attempt : Nat)

/-- The phases: the status that is stored, the spot, the late report, and the reports so far. -/
inductive Phase : Option RuntimeTaskLifecycleStatus → Option Spot → Option Late → List Report →
    Prop where
  | new : Phase none none none []
  | scheduled {reports : List Report} : UpTo 1 reports →
      Phase (some .queued) (some .scheduled) none reports
  | waiting {status : RuntimeTaskLifecycleStatus} {attempt : Nat} {reports : List Report} :
      status.standing = .waiting → UpTo attempt reports →
      Phase (some status) (some (.waiting attempt)) none reports
  | waitingLate {status : RuntimeTaskLifecycleStatus} {attempt : Nat} {reports : List Report} :
      UpTo attempt reports →
      Phase (some status) (some (.waiting (attempt + 1))) (some (.requeued attempt)) reports
  | reserved {status : RuntimeTaskLifecycleStatus} {attempt : Nat} {reports : List Report} :
      UpTo attempt reports → Phase (some status) (some (.reserved attempt)) none reports
  | reservedLate {status : RuntimeTaskLifecycleStatus} {attempt : Nat} {reports : List Report} :
      UpTo attempt reports →
      Phase (some status) (some (.reserved (attempt + 1))) (some (.requeued attempt)) reports
  | held {status : RuntimeTaskLifecycleStatus} {attempt : Nat} {reports : List Report} :
      UpTo attempt reports → Phase (some status) (some (.held attempt)) none reports
  | settling {status : RuntimeTaskLifecycleStatus} {attempt : Nat} {reports : List Report} :
      status.standing = .ended → Forward reports →
      Phase (some status) (some (.settling attempt)) none reports
  | settled {status : RuntimeTaskLifecycleStatus} {reports : List Report} :
      status.standing = .ended → Forward reports → Phase (some status) none none reports
  | dead {reports : List Report} : Forward reports →
      Phase (some .deadLettered) (some .dead) none reports
  | deadLate {status : RuntimeTaskLifecycleStatus} {attempt : Nat} {reports : List Report} :
      UpTo attempt reports → Phase (some status) (some .dead) (some (.buried attempt)) reports

namespace Phase

variable {status : Option RuntimeTaskLifecycleStatus} {reported : RuntimeTaskLifecycleStatus}
  {spot : Option Spot} {late : Option Late} {reports : List Report} {attempt : Nat}

theorem forward (phase : Phase status spot late reports) : Forward reports := by
  cases phase with
  | new => exact .nil
  | settling _ forward | settled _ forward | dead forward => exact forward
  | scheduled upTo | waiting _ upTo | waitingLate upTo | reserved upTo | reservedLate upTo
  | held upTo | deadLate upTo => exact upTo.forward

/-- A task of which nothing is stored is scheduled. -/
theorem schedule (phase : Phase none spot late reports) :
    late = none ∧ Phase (some .queued) (some .scheduled) none (reports ++ [⟨1, .queued⟩]) := by
  cases phase with
  | new => exact ⟨rfl, .scheduled (upTo_nil.snoc (by decide))⟩

theorem enqueue (phase : Phase status (some .scheduled) late reports) :
    Phase status (some (.waiting 1)) late reports := by
  cases phase with
  | scheduled upTo => exact .waiting rfl upTo

theorem reserve (phase : Phase status (some (.waiting attempt)) late reports) :
    Phase status (some (.reserved attempt)) late reports := by
  cases phase with
  | waiting _ upTo => exact .reserved upTo
  | waitingLate upTo => exact .reservedLate upTo

/-- The attempt of a delivery that is in the hands of a worker, if no report is late. -/
theorem upTo (phase : Phase status spot none reports)
    (inHand : spot = some (.reserved attempt) ∨ spot = some (.held attempt)) :
    UpTo attempt reports := by
  rcases inHand with rfl | rfl
  · cases phase with
    | reserved upTo => exact upTo
  · cases phase with
    | held upTo => exact upTo

theorem report (phase : Phase status spot none reports)
    (inHand : spot = some (.reserved attempt) ∨ spot = some (.held attempt))
    (active : reported.standing = .active) :
    Phase (some reported) (some (.held attempt)) none (reports ++ [⟨attempt, reported⟩]) := by
  refine .held ((phase.upTo inHand).snoc ?_)
  rintro (ended | dead)
  · cases active.symm.trans ended
  · cases active.symm.trans dead

theorem reportEnd (phase : Phase status (some (.held attempt)) none reports)
    (ended : reported.standing = .ended) :
    Phase (some reported) (some (.settling attempt)) none (reports ++ [⟨attempt, reported⟩]) :=
  .settling ended ((phase.upTo (.inr rfl)).forward_snoc reported)

theorem ack (phase : Phase status (some (.settling attempt)) late reports) :
    Phase status none late reports := by
  cases phase with
  | settling ended forward => exact .settled ended forward

theorem requeue (phase : Phase status (some (.held attempt)) late reports) :
    late = none ∧ Phase status (some (.waiting (attempt + 1))) (some (.requeued attempt)) reports := by
  cases phase with
  | held upTo => exact ⟨rfl, .waitingLate upTo⟩

theorem bury (phase : Phase status (some (.held attempt)) late reports) :
    late = none ∧ Phase status (some .dead) (some (.buried attempt)) reports := by
  cases phase with
  | held upTo => exact ⟨rfl, .deadLate upTo⟩

theorem reportRequeued (phase : Phase status spot (some (.requeued attempt)) reports) :
    Phase (some .retrying) spot none (reports ++ [⟨attempt, .retrying⟩]) := by
  cases phase with
  | waitingLate upTo => exact .waiting rfl ((upTo.snoc (by decide)).mono (Nat.le_succ _))
  | reservedLate upTo => exact .reserved ((upTo.snoc (by decide)).mono (Nat.le_succ _))

theorem reportBuried (phase : Phase status spot (some (.buried attempt)) reports) :
    Phase (some .deadLettered) spot none (reports ++ [⟨attempt, .deadLettered⟩]) := by
  cases phase with
  | deadLate upTo => exact .dead (upTo.forward_snoc _)

/-- What is stored of a task fits where it is, once no call has it in hand. -/
theorem agrees (phase : Phase status spot none reports)
    (placed : spot = none ∨ spot = some .dead ∨ ∃ attempt, spot = some (.waiting attempt)) :
    (status = some .deadLettered ↔ spot = some .dead) ∧
      ((status = some .queued ∨ status = some .retrying) ↔
        ∃ attempt, spot = some (.waiting attempt)) := by
  have stands : ∀ reported : RuntimeTaskLifecycleStatus,
      (reported = .deadLettered ↔ reported.standing = .dead) ∧
      (reported = .queued ∨ reported = .retrying ↔ reported.standing = .waiting) := by
    intro reported
    cases reported <;> decide
  rcases placed with rfl | rfl | ⟨attempt, rfl⟩
  · cases phase with
    | new => simp
    | settled ended => simp [stands, ended]
  · cases phase with
    | dead => simp
  · cases phase with
    | waiting waits => simp [stands, waits]

end Phase

/-- What happens to a task in its queue: it is put there, handed to a worker, and given back. -/
inductive Turn where
  | queued
  | handed (attempt : Nat)
  | requeued (attempt : Nat)
  | buried (attempt : Nat)
  | acked (attempt : Nat)
  deriving DecidableEq, Repr

/-- One turn of a task may come next after another. -/
def Turn.Follows : Turn → Turn → Prop
  | .queued, .handed attempt => attempt = 1
  | .requeued last, .handed attempt => attempt = last + 1
  | .handed last, .requeued attempt => attempt = last
  | .handed last, .buried attempt => attempt = last
  | .handed last, .acked attempt => attempt = last
  | .buried _, .queued => True
  | _, _ => False

/-- The turns of a task follow each other, from the time that it is first queued. -/
structure Cycle (turns : List Turn) : Prop where
  first : ∀ turn ∈ turns.head?, turn = .queued
  follow : turns.IsChain Turn.Follows

section Turns

variable {turns : List Turn} {last turn : Turn}

theorem cycle_nil : Cycle [] where
  first _ mem := nomatch mem
  follow := List.isChain_nil

theorem cycle_queued : Cycle [.queued] where
  first _ mem := (Option.mem_some_iff.1 mem).symm
  follow := List.isChain_singleton _

theorem Cycle.snoc (cycle : Cycle turns) (ends : turns.getLast? = some last)
    (follows : last.Follows turn) : Cycle (turns ++ [turn]) where
  first := by
    cases turns with
    | nil => cases ends
    | cons head rest => exact cycle.first
  follow := by
    refine List.isChain_append.2 ⟨cycle.follow, List.isChain_singleton _, ?_⟩
    intro earlier atEnd later atStart
    obtain rfl := Option.some.inj (ends.symm.trans atEnd)
    obtain rfl : turn = later := by simpa using atStart
    exact follows

end Turns

/-- The stages of a task, whatever is reported of it: nothing is known of it before it is scheduled,
and its last turn says where it is. -/
inductive Stage : Option RuntimeTaskLifecycleStatus → Option Spot → List Turn → Prop where
  | new : Stage none none []
  | scheduled {status : RuntimeTaskLifecycleStatus} : Stage (some status) (some .scheduled) []
  | waiting {status : RuntimeTaskLifecycleStatus} {attempt : Nat} {turns : List Turn} {last : Turn} :
      Cycle turns → turns.getLast? = some last → last.Follows (.handed attempt) →
      Stage (some status) (some (.waiting attempt)) turns
  | reserved {status : RuntimeTaskLifecycleStatus} {attempt : Nat} {turns : List Turn} :
      Cycle turns → turns.getLast? = some (.handed attempt) →
      Stage (some status) (some (.reserved attempt)) turns
  | held {status : RuntimeTaskLifecycleStatus} {attempt : Nat} {turns : List Turn} :
      Cycle turns → turns.getLast? = some (.handed attempt) →
      Stage (some status) (some (.held attempt)) turns
  | settling {status : RuntimeTaskLifecycleStatus} {attempt : Nat} {turns : List Turn} :
      Cycle turns → turns.getLast? = some (.handed attempt) →
      Stage (some status) (some (.settling attempt)) turns
  | settled {status : RuntimeTaskLifecycleStatus} {turns : List Turn} :
      Cycle turns → Stage (some status) none turns
  | dead {status : RuntimeTaskLifecycleStatus} {attempt : Nat} {turns : List Turn} :
      Cycle turns → turns.getLast? = some (.buried attempt) →
      Stage (some status) (some .dead) turns

namespace Stage

variable {status : Option RuntimeTaskLifecycleStatus} {reported : RuntimeTaskLifecycleStatus}
  {spot : Option Spot} {turns : List Turn} {attempt : Nat}

theorem cycle (stage : Stage status spot turns) : Cycle turns := by
  cases stage with
  | new | scheduled => exact cycle_nil
  | waiting cycle | reserved cycle | held cycle | settling cycle | settled cycle | dead cycle =>
    exact cycle

theorem schedule (stage : Stage none spot turns) :
    spot = none ∧ Stage (some reported) (some .scheduled) turns := by
  cases stage with
  | new => exact ⟨rfl, .scheduled⟩

theorem enqueue (stage : Stage status (some .scheduled) turns) :
    Stage status (some (.waiting 1)) (turns ++ [.queued]) := by
  cases stage with
  | scheduled => exact .waiting cycle_queued rfl rfl

theorem reserve (stage : Stage status (some (.waiting attempt)) turns) :
    Stage status (some (.reserved attempt)) (turns ++ [.handed attempt]) := by
  cases stage with
  | waiting cycle ends follows => exact .reserved (cycle.snoc ends follows) List.getLast?_concat

/-- A report about a delivery that a worker has. -/
theorem report (stage : Stage status spot turns)
    (inHand : spot = some (.reserved attempt) ∨ spot = some (.held attempt)) :
    Stage (some reported) (some (.held attempt)) turns := by
  rcases inHand with rfl | rfl
  · cases stage with
    | reserved cycle ends => exact .held cycle ends
  · cases stage with
    | held cycle ends => exact .held cycle ends

theorem reportEnd (stage : Stage status (some (.held attempt)) turns) :
    Stage (some reported) (some (.settling attempt)) turns := by
  cases stage with
  | held cycle ends => exact .settling cycle ends

theorem ack (stage : Stage status (some (.settling attempt)) turns) :
    Stage status none (turns ++ [.acked attempt]) := by
  cases stage with
  | settling cycle ends => exact .settled (cycle.snoc ends rfl)

theorem requeue (stage : Stage status (some (.held attempt)) turns) :
    Stage status (some (.waiting (attempt + 1))) (turns ++ [.requeued attempt]) := by
  cases stage with
  | held cycle ends => exact .waiting (cycle.snoc ends rfl) List.getLast?_concat rfl

theorem bury (stage : Stage status (some (.held attempt)) turns) :
    Stage status (some .dead) (turns ++ [.buried attempt]) := by
  cases stage with
  | held cycle ends => exact .dead (cycle.snoc ends rfl) List.getLast?_concat

theorem replay (stage : Stage status (some .dead) turns) :
    Stage status (some (.waiting 1)) (turns ++ [.queued]) := by
  cases stage with
  | dead cycle ends =>
    exact .waiting (cycle.snoc ends trivial) List.getLast?_concat rfl

/-- A report does not move a task. -/
theorem written (stage : Stage status spot turns) : Stage (some reported) spot turns := by
  cases stage with
  | new => exact .settled cycle_nil
  | scheduled => exact .scheduled
  | waiting cycle ends follows => exact .waiting cycle ends follows
  | reserved cycle ends => exact .reserved cycle ends
  | held cycle ends => exact .held cycle ends
  | settling cycle ends => exact .settling cycle ends
  | settled cycle => exact .settled cycle
  | dead cycle ends => exact .dead cycle ends

end Stage

/-- What is marked with an id. -/
def pick {β : Type} (id : String) (marked : Multiset (String × β)) : Multiset β :=
  (marked.filter (·.1 = id)).map (·.2)

/-- One thing at most. -/
def one {β : Type} : Option β → Multiset β
  | none => 0
  | some b => {b}

section Pick

variable {β : Type} {id other : String} {b : β} {marked : Multiset (String × β)}

@[simp] theorem pick_zero : pick id (0 : Multiset (String × β)) = 0 := rfl

@[simp] theorem pick_cons_self : pick id ((id, b) ::ₘ marked) = b ::ₘ pick id marked := by
  simp [pick]

theorem pick_cons_other (apart : other ≠ id) :
    pick other ((id, b) ::ₘ marked) = pick other marked := by
  simp [pick, Ne.symm apart]

theorem mem_pick : b ∈ pick id marked ↔ (id, b) ∈ marked := by
  simp [pick]

theorem mem_one {o : Option β} : b ∈ one o ↔ o = some b := by
  cases o with
  | none => simp [one]
  | some c => simp [one, eq_comm]

theorem one_cons {rest : Multiset β} {o : Option β} (same : b ::ₘ rest = one o) :
    o = some b ∧ rest = 0 := by
  cases o with
  | none => exact absurd same Multiset.cons_ne_zero
  | some c =>
    obtain ⟨rfl, rfl⟩ := (Multiset.singleton_eq_cons_iff _).1 same.symm
    exact ⟨rfl, rfl⟩

end Pick

/-- What is stored and reported of all tasks, where they are, which reports are late, and when they
were queued and handed out. -/
structure Affairs where
  status : String → Option RuntimeTaskLifecycleStatus
  spots : Multiset (String × Spot)
  lates : Multiset (String × Late)
  reports : String → List Report
  turns : String → List Turn

namespace Affairs

variable {prompt : Prop} {a b : Affairs} {id : String} {spot spot' : Spot} {late : Late}
  {attempt : Nat} {status : String → Option RuntimeTaskLifecycleStatus}
  {spots : Multiset (String × Spot)} {lates : Multiset (String × Late)}
  {reports : String → List Report} {turns : String → List Turn}
  {reported : RuntimeTaskLifecycleStatus} {turn : Turn}

/-- A task is in one of its stages and, if all reports have been prompt, in one of its phases. -/
structure SoundAt (prompt : Prop) (a : Affairs) (id : String) (spot : Option Spot) : Prop where
  placed : pick id a.spots = one spot
  stage : Stage (a.status id) spot (a.turns id)
  phase : prompt → ∃ late, pick id a.lates = one late ∧ Phase (a.status id) spot late (a.reports id)

def Sound (prompt : Prop) (a : Affairs) : Prop := ∀ id, ∃ spot, SoundAt prompt a id spot

/-- A task is at one spot. -/
theorem SoundAt.alone {o : Option Spot}
    (sound : SoundAt prompt ⟨status, (id, spot) ::ₘ spots, lates, reports, turns⟩ id o) :
    o = some spot ∧ pick id spots = 0 :=
  one_cons (pick_cons_self.symm.trans sound.placed)

theorem Sound.mono {prompt' : Prop} (sound : a.Sound prompt) (stronger : prompt' → prompt) :
    a.Sound prompt' := by
  intro id
  obtain ⟨spot, here⟩ := sound id
  exact ⟨spot, here.placed, here.stage, fun all => here.phase (stronger all)⟩

/-- A change that concerns one task. -/
theorem Sound.change (sound : a.Sound prompt) (id : String)
    (others : ∀ other ≠ id, pick other b.spots = pick other a.spots ∧
      pick other b.lates = pick other a.lates ∧ b.status other = a.status other ∧
      b.reports other = a.reports other ∧ b.turns other = a.turns other)
    (own : ∀ spot, SoundAt prompt a id spot → ∃ spot', SoundAt prompt b id spot') :
    b.Sound prompt := by
  intro other
  obtain ⟨spot, here⟩ := sound other
  by_cases same : other = id
  · subst same
    exact own spot here
  · obtain ⟨spots, lates, status, reports, turns⟩ := others other same
    refine ⟨spot, ?_, ?_, ?_⟩
    · rw [spots]
      exact here.placed
    · rw [status, turns]
      exact here.stage
    · rw [lates, status, reports]
      exact here.phase

/-- A task that goes from one spot to another. -/
theorem Sound.move (sound : Sound prompt ⟨status, (id, spot) ::ₘ spots, lates, reports, turns⟩)
    (stages : ∀ status turns, Stage status (some spot) turns →
      Stage status (some spot') (turns ++ [turn]))
    (phases : prompt → ∀ status late reports, Phase status (some spot) late reports →
      Phase status (some spot') late reports) :
    Sound prompt ⟨status, (id, spot') ::ₘ spots, lates, reports,
      Function.update turns id (turns id ++ [turn])⟩ := by
  refine sound.change id ?_ ?_
  · intro other apart
    exact ⟨(pick_cons_other apart).trans (pick_cons_other apart).symm, rfl, rfl, rfl,
      Function.update_of_ne apart _ _⟩
  · intro here at_
    obtain ⟨rfl, alone⟩ := at_.alone
    refine ⟨some spot', ?_, ?_, ?_⟩
    · exact pick_cons_self.trans (by rw [alone]; rfl)
    · simpa using stages _ _ at_.stage
    · intro all
      obtain ⟨late, waits, phase⟩ := at_.phase all
      exact ⟨late, waits, phases all _ _ _ phase⟩

/-- A task that leaves its last spot. -/
theorem Sound.ack
    (sound : Sound prompt ⟨status, (id, .settling attempt) ::ₘ spots, lates, reports, turns⟩) :
    Sound prompt ⟨status, spots, lates, reports,
      Function.update turns id (turns id ++ [.acked attempt])⟩ := by
  refine sound.change id ?_ ?_
  · intro other apart
    exact ⟨(pick_cons_other apart).symm, rfl, rfl, rfl, Function.update_of_ne apart _ _⟩
  · intro here at_
    obtain ⟨rfl, alone⟩ := at_.alone
    refine ⟨none, alone, ?_, ?_⟩
    · simpa using at_.stage.ack
    · intro all
      obtain ⟨late, waits, phase⟩ := at_.phase all
      exact ⟨late, waits, phase.ack⟩

/-- A delivery that has failed leaves its report to be written. -/
theorem Sound.fail
    (sound : Sound prompt ⟨status, (id, .held attempt) ::ₘ spots, lates, reports, turns⟩)
    (stages : ∀ status turns, Stage status (some (.held attempt)) turns →
      Stage status (some spot) (turns ++ [turn]))
    (phases : ∀ status late' reports, Phase status (some (.held attempt)) late' reports →
      late' = none ∧ Phase status (some spot) (some late) reports) :
    Sound prompt ⟨status, (id, spot) ::ₘ spots, (id, late) ::ₘ lates, reports,
      Function.update turns id (turns id ++ [turn])⟩ := by
  refine sound.change id ?_ ?_
  · intro other apart
    exact ⟨(pick_cons_other apart).trans (pick_cons_other apart).symm, pick_cons_other apart, rfl,
      rfl, Function.update_of_ne apart _ _⟩
  · intro here at_
    obtain ⟨rfl, alone⟩ := at_.alone
    refine ⟨some spot, ?_, ?_, ?_⟩
    · exact pick_cons_self.trans (by rw [alone]; rfl)
    · simpa using stages _ _ at_.stage
    · intro all
      obtain ⟨late', waits, phase⟩ := at_.phase all
      obtain ⟨rfl, failed⟩ := phases _ _ _ phase
      exact ⟨some late, pick_cons_self.trans (congrArg (late ::ₘ ·) waits), failed⟩

/-- A task of which nothing is known is scheduled. -/
theorem Sound.schedule (sound : Sound prompt ⟨status, spots, lates, reports, turns⟩)
    (unknown : status id = none) :
    Sound prompt ⟨Function.update status id (some .queued), (id, .scheduled) ::ₘ spots, lates,
      Function.update reports id (reports id ++ [⟨1, .queued⟩]), turns⟩ := by
  refine sound.change id ?_ ?_
  · intro other apart
    exact ⟨pick_cons_other apart, rfl, Function.update_of_ne apart _ _,
      Function.update_of_ne apart _ _, rfl⟩
  · intro here at_
    have stage : Stage (status id) here (turns id) := at_.stage
    rw [unknown] at stage
    obtain ⟨rfl, first⟩ := stage.schedule
    refine ⟨some .scheduled, ?_, ?_, ?_⟩
    · exact pick_cons_self.trans (congrArg (Spot.scheduled ::ₘ ·) at_.placed)
    · simpa using first
    · intro all
      obtain ⟨late, waits, phase⟩ := at_.phase all
      change Phase (status id) none late (reports id) at phase
      rw [unknown] at phase
      obtain ⟨rfl, scheduled⟩ := phase.schedule
      exact ⟨none, waits, by simpa using scheduled⟩

/-- A report about a delivery that a worker has, while no other report about its task is late. -/
theorem Sound.report (sound : Sound prompt ⟨status, (id, spot) ::ₘ spots, lates, reports, turns⟩)
    (prompts : prompt → ∀ late, (id, late) ∉ lates)
    (stages : ∀ status turns, Stage status (some spot) turns →
      Stage (some reported) (some spot') turns)
    (phases : ∀ status reports, Phase status (some spot) none reports →
      Phase (some reported) (some spot') none (reports ++ [⟨attempt, reported⟩])) :
    Sound prompt ⟨Function.update status id (some reported), (id, spot') ::ₘ spots, lates,
      Function.update reports id (reports id ++ [⟨attempt, reported⟩]), turns⟩ := by
  refine sound.change id ?_ ?_
  · intro other apart
    exact ⟨(pick_cons_other apart).trans (pick_cons_other apart).symm, rfl,
      Function.update_of_ne apart _ _, Function.update_of_ne apart _ _, rfl⟩
  · intro here at_
    obtain ⟨rfl, alone⟩ := at_.alone
    refine ⟨some spot', ?_, ?_, ?_⟩
    · exact pick_cons_self.trans (by rw [alone]; rfl)
    · simpa using stages _ _ at_.stage
    · intro all
      obtain ⟨late, waits, phase⟩ := at_.phase all
      obtain rfl : late = none := by
        cases late with
        | none => rfl
        | some late =>
          have mem : late ∈ pick id lates := waits ▸ Multiset.mem_singleton_self late
          exact absurd (mem_pick.1 mem) (prompts all late)
      exact ⟨none, waits, by simpa using phases _ _ phase⟩

/-- A report that was late. -/
theorem Sound.reportLate
    (sound : Sound prompt ⟨status, spots, (id, late) ::ₘ lates, reports, turns⟩)
    (phases : ∀ status spot reports, Phase status spot (some late) reports →
      Phase (some reported) spot none (reports ++ [⟨attempt, reported⟩])) :
    Sound prompt ⟨Function.update status id (some reported), spots, lates,
      Function.update reports id (reports id ++ [⟨attempt, reported⟩]), turns⟩ := by
  refine sound.change id ?_ ?_
  · intro other apart
    exact ⟨rfl, (pick_cons_other apart).symm, Function.update_of_ne apart _ _,
      Function.update_of_ne apart _ _, rfl⟩
  · intro spot at_
    refine ⟨spot, at_.placed, ?_, ?_⟩
    · simpa using at_.stage.written
    · intro all
      obtain ⟨late', waits, phase⟩ := at_.phase all
      obtain ⟨rfl, alone⟩ := one_cons (pick_cons_self.symm.trans waits)
      exact ⟨none, alone, by simpa using phases _ _ _ phase⟩

/-- No two marks are of one task. -/
theorem Sound.apart (sound : Sound prompt ⟨status, (id, spot) ::ₘ spots, lates, reports, turns⟩)
    (other : Spot) : (id, other) ∉ spots := by
  intro mem
  obtain ⟨here, at_⟩ := sound id
  have there := mem_pick.2 mem
  rw [at_.alone.2] at there
  exact absurd there (Multiset.notMem_zero other)

end Affairs

end NexusCore.Runtime
