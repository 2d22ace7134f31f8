import Mathlib.Data.List.AList
import NexusCore.Lib.Interleaving
import NexusCore.Lib.Window

/-!
# The failure windows of the brokers

Every failed command of a broker is recorded with a reading of the clock, in a list for each
broker behind one mutex. The clock is read before the mutex is taken. Timestamps are milliseconds;
the subtraction of the source saturates, as that of natural numbers does.
-/

namespace NexusCore.Runtime

open NexusCore.Lib

def brokerFailureWindowMs : Nat := 5 * 60 * 1000

def brokerRecoveryWindowMs : Nat := 60 * 1000

structure BrokerFailureHealthSnapshot where
  lastFailureAtMs : Option Nat
  recentFailureCount : Nat
  recoveryWindowActive : Bool
  persistentFailuresDetected : Bool
  deriving DecidableEq, Repr

namespace BrokerHealth

/-- The failures of each broker. -/
abbrev FailureWindows : Type := AList fun _ : String => List Nat

/-- Older failures are outside of the window. -/
def cutoffMs (nowMs : Nat) : Nat := nowMs - brokerFailureWindowMs

def pruneFailureWindow (entries : List Nat) (cutoffMs : Nat) : List Nat :=
  entries.dropWhile (· < cutoffMs)

/-- What `record_broker_failure` does under the mutex. -/
def pushFailure (windows : FailureWindows) (broker : String) (nowMs : Nat) : FailureWindows :=
  windows.insert broker
    (pruneFailureWindow ((windows.lookup broker).getD [] ++ [nowMs]) (cutoffMs nowMs))

/-- The snapshot of a broker that has not failed. -/
def noFailure : BrokerFailureHealthSnapshot where
  lastFailureAtMs := none
  recentFailureCount := 0
  recoveryWindowActive := false
  persistentFailuresDetected := false

/-- The snapshot of a window that has been pruned. -/
def summarize (nowMs : Nat) (entries : List Nat) : BrokerFailureHealthSnapshot where
  lastFailureAtMs := entries.getLast?
  recentFailureCount := entries.length
  recoveryWindowActive := entries.getLast?.any fun ts => nowMs - ts ≤ brokerRecoveryWindowMs
  persistentFailuresDetected := 3 ≤ entries.length

/-- What `broker_failure_health_snapshot` does under the mutex. -/
def readFailures (windows : FailureWindows) (broker : String) (nowMs : Nat) :
    BrokerFailureHealthSnapshot × FailureWindows :=
  match windows.lookup broker with
  | none => (noFailure, windows)
  | some entries =>
    let kept := pruneFailureWindow entries (cutoffMs nowMs)
    (summarize nowMs kept, windows.insert broker kept)

inductive HealthOp where
  | nowMs
  | push (broker : String) (nowMs : Nat)
  | read (broker : String) (nowMs : Nat)

def HealthOp.Answer : HealthOp → Type
  | .nowMs => Nat
  | .push .. => Unit
  | .read .. => BrokerFailureHealthSnapshot

/-- The calls return a snapshot or nothing. -/
abbrev HealthProg : Type :=
  Prog HealthOp HealthOp.Answer Empty (Option BrokerFailureHealthSnapshot)

def recordBrokerFailure (broker : String) : HealthProg :=
  .call .nowMs fun nowMs => .call (.push broker nowMs) fun _ => .ret none

def brokerFailureHealthSnapshot (broker : String) : HealthProg :=
  .call .nowMs fun nowMs => .call (.read broker nowMs) fun health => .ret (some health)

inductive IsHealthCall : HealthProg → Prop where
  | record (broker : String) : IsHealthCall (recordBrokerFailure broker)
  | snapshot (broker : String) : IsHealthCall (brokerFailureHealthSnapshot broker)

/-- A section under the mutex: the broker, the reading that its call has taken before, and
whether it records a failure. -/
structure HealthSection where
  broker : String
  nowMs : Nat
  fails : Bool
  deriving DecidableEq, Repr

/-- The clock, the windows, and the sections so far in the order in which they got the mutex; the
code does not keep the last. -/
structure HealthWorld where
  clock : Nat
  windows : FailureWindows
  sections : List HealthSection

/-- No failure has been recorded yet. -/
def HealthWorld.start (clock : Nat) : HealthWorld := ⟨clock, ∅, []⟩

/-- The clock does not go back. -/
def health : Handler HealthWorld HealthOp HealthOp.Answer
  | w, .nowMs, now, u => w.clock ≤ now ∧ u = { w with clock := now }
  | w, .push broker now, _, u => u =
    { w with
      windows := pushFailure w.windows broker now
      sections := w.sections ++ [⟨broker, now, true⟩] }
  | w, .read broker now, answer, u => answer = (readFailures w.windows broker now).1 ∧ u =
    { w with
      windows := (readFailures w.windows broker now).2
      sections := w.sections ++ [⟨broker, now, false⟩] }

section Windows

variable {w u : HealthWorld} {broker : String} {now : Nat}

/-- What a section does to the window of its broker. -/
def HealthSection.visit (s : HealthSection) : Visit Nat :=
  ⟨if s.fails then some s.nowMs else none, cutoffMs s.nowMs⟩

/-- The sections of a broker. -/
def visits (broker : String) (sections : List HealthSection) : List (Visit Nat) :=
  (sections.filter (·.broker == broker)).map (·.visit)

/-- The timestamps of the recorded failures of a broker. -/
def failures (broker : String) (sections : List HealthSection) : List Nat :=
  pushedBy (visits broker sections)

/-- The recorded failures that are not older than the window before a time. -/
def recentFailures (broker : String) (now : Nat) (sections : List HealthSection) : List Nat :=
  (failures broker sections).filter (cutoffMs now ≤ ·)

/-- Every window is what the sections have left of it. -/
def Windowed (w : HealthWorld) : Prop :=
  ∀ broker, (w.windows.lookup broker).getD [] = remaining (visits broker w.sections)

theorem visits_snoc (s : HealthSection) (sections : List HealthSection) :
    visits broker (sections ++ [s]) =
      visits broker sections ++ if s.broker = broker then [s.visit] else [] := by
  unfold visits
  by_cases same : s.broker = broker <;> simp [List.filter_append, same]

/-- A section replaces the window of its broker by what it leaves of it. -/
theorem Windowed.snoc (windowed : Windowed w) {s : HealthSection} {windows : FailureWindows}
    (left : (windows.lookup s.broker).getD [] =
      s.visit.apply ((w.windows.lookup s.broker).getD []))
    (others : ∀ broker, broker ≠ s.broker → windows.lookup broker = w.windows.lookup broker) :
    Windowed { w with windows := windows, sections := w.sections ++ [s] } := by
  intro broker
  dsimp only
  rw [visits_snoc]
  by_cases same : s.broker = broker
  · subst same
    rw [if_pos rfl, remaining_snoc, left, windowed]
  · rw [if_neg same, List.append_nil, others broker (Ne.symm same), windowed]

theorem Windowed.step {op : HealthOp} {answer : op.Answer} (windowed : Windowed w)
    (step : health w op answer u) : Windowed u := by
  cases op with
  | nowMs =>
    obtain ⟨-, rfl⟩ := step
    exact windowed
  | push broker now =>
    obtain rfl := step
    refine windowed.snoc (s := ⟨broker, now, true⟩) ?_ fun other ne => ?_
    · simp [pushFailure, pruneFailureWindow, Visit.apply, HealthSection.visit]
    · exact AList.lookup_insert_ne ne
  | read broker now =>
    obtain ⟨-, rfl⟩ := step
    refine windowed.snoc (s := ⟨broker, now, false⟩) ?_ fun other ne => ?_
    · cases found : w.windows.lookup broker <;>
        simp [readFailures, found, pruneFailureWindow, Visit.apply, HealthSection.visit]
    · cases found : w.windows.lookup broker
      · simp [readFailures, found]
      · simp only [readFailures, found]
        exact AList.lookup_insert_ne ne

/-- The largest of some timestamps, if there are any. -/
def IsLatest (last : Option Nat) (stamps : List Nat) : Prop :=
  match last with
  | none => stamps = []
  | some t => t ∈ stamps ∧ ∀ other ∈ stamps, other ≤ t

instance (last : Option Nat) (stamps : List Nat) : Decidable (IsLatest last stamps) :=
  match last with
  | none => inferInstanceAs (Decidable (stamps = []))
  | some t => inferInstanceAs (Decidable (t ∈ stamps ∧ ∀ other ∈ stamps, other ≤ t))

theorem isLatest_of_getLast {stamps : List Nat} (sorted : stamps.Pairwise (· ≤ ·)) :
    IsLatest stamps.getLast? stamps := by
  rcases List.eq_nil_or_concat' stamps with rfl | ⟨front, last, rfl⟩
  · rfl
  · rw [List.getLast?_concat]
    obtain ⟨-, -, below⟩ := List.pairwise_append.1 sorted
    refine ⟨by simp, fun other mem => ?_⟩
    rcases List.mem_append.1 mem with earlier | same
    · exact below other earlier last (List.mem_singleton_self last)
    · exact (List.mem_singleton.1 same).le

/-- A snapshot counts the failures in the window and has the last of them. -/
def Counts (health : BrokerFailureHealthSnapshot) (recent : List Nat) : Prop :=
  health.recentFailureCount = recent.length ∧ IsLatest health.lastFailureAtMs recent

instance (health : BrokerFailureHealthSnapshot) (recent : List Nat) :
    Decidable (Counts health recent) :=
  inferInstanceAs (Decidable (_ ∧ _))

/-- A snapshot shows what the window has left after the pruning. -/
theorem readFailures_shows (windows : FailureWindows) (broker : String) (now : Nat) :
    (readFailures windows broker now).1.recentFailureCount =
      (pruneFailureWindow ((windows.lookup broker).getD []) (cutoffMs now)).length ∧
    (readFailures windows broker now).1.lastFailureAtMs =
      (pruneFailureWindow ((windows.lookup broker).getD []) (cutoffMs now)).getLast? := by
  cases found : windows.lookup broker with
  | none => simp [readFailures, found, noFailure, pruneFailureWindow]
  | some entries => simp [readFailures, found, summarize]

theorem pruneFailureWindow_of_sorted {entries : List Nat} (sorted : entries.Pairwise (· ≤ ·))
    (cutoff : Nat) : pruneFailureWindow entries cutoff = entries.filter (cutoff ≤ ·) :=
  dropWhile_lt_eq_filter sorted cutoff

theorem cutoffMs_le (now : Nat) : cutoffMs now ≤ now := Nat.sub_le ..

/-- When the failures of a broker were recorded in their order, a snapshot is right exactly if no
failure in its window has been dropped. -/
theorem counts_iff (windowed : Windowed w)
    (sorted : (failures broker w.sections).Pairwise (· ≤ ·)) :
    Counts (readFailures w.windows broker now).1 (recentFailures broker now w.sections) ↔
      Spared (cutoffMs now) (visits broker w.sections) := by
  obtain ⟨count, last⟩ := readFailures_shows w.windows broker now
  have sublist := remaining_sublist (visits broker w.sections)
  rw [windowed broker, pruneFailureWindow_of_sorted (sorted.sublist sublist)] at count last
  have own : ∀ v ∈ visits broker w.sections, ∀ t ∈ v.pushed, v.cutoff ≤ t := by
    intro v mem t pushed
    obtain ⟨s, -, rfl⟩ := List.mem_map.1 mem
    cases fails : s.fails <;> simp [HealthSection.visit, fails] at pushed ⊢
    exact pushed ▸ cutoffMs_le s.nowMs
  rw [← remaining_filter_iff sorted own, Counts, count, last, recentFailures, failures]
  generalize cutoffMs now = cutoff
  constructor
  · intro ⟨counted, _⟩
    exact (sublist.filter _).eq_of_length counted
  · intro same
    rw [same]
    exact ⟨rfl, isLatest_of_getLast (sorted.filter _)⟩

end Windows

section Runs

abbrev HealthBusy : Type :=
  Busy HealthWorld HealthOp HealthOp.Answer Empty (Option BrokerFailureHealthSnapshot)

abbrev HealthMove : Type :=
  Move HealthOp HealthOp.Answer Empty (Option BrokerFailureHealthSnapshot)

variable {b b' : HealthBusy} {moves : List (Transition HealthBusy HealthMove)} {m : HealthMove}

/-- A failure is recorded with a reading that is not before the failures recorded so far. -/
def InOrder (x : Transition HealthBusy HealthMove) : Prop :=
  ∀ broker now r call others, x.label = .command (.push broker now) r call others →
    ∀ t ∈ failures broker x.before.state.sections, t ≤ now

/-- A snapshot is taken when no failure in the window before its reading has been dropped, which the
sections do that come later than the failure and have another reading of the clock. -/
def Undropped (x : Transition HealthBusy HealthMove) : Prop :=
  ∀ broker now r call others, x.label = .command (.read broker now) r call others →
    Spared (cutoffMs now) (visits broker x.before.state.sections)

/-- A snapshot is right. -/
def Exact (x : Transition HealthBusy HealthMove) : Prop :=
  ∀ broker now answer call others, x.label = .command (.read broker now) answer call others →
    Counts answer (recentFailures broker now x.before.state.sections)

/-- The windows are kept, and the failures of every broker are in order. -/
structure Ordered (w : HealthWorld) : Prop where
  windowed : Windowed w
  sorted : ∀ broker, (failures broker w.sections).Pairwise (· ≤ ·)

theorem failures_snoc (broker : String) (s : HealthSection) (sections : List HealthSection) :
    failures broker (sections ++ [s]) = failures broker sections ++
      if s.broker = broker ∧ s.fails then [s.nowMs] else [] := by
  unfold failures
  rw [visits_snoc]
  by_cases same : s.broker = broker <;> cases fails : s.fails <;>
    simp [same, fails, pushedBy, HealthSection.visit]

theorem Ordered.step (ordered : Ordered b.state) (step : Interleaved health IsHealthCall b m b')
    (inOrder : InOrder ⟨b, m, b'⟩) : Ordered b'.state := by
  cases step with
  | start | ret | fail => exact ordered
  | @command w u others p log op k answer answered =>
    refine ⟨ordered.windowed.step answered, fun broker => ?_⟩
    cases op with
    | nowMs =>
      obtain ⟨-, rfl⟩ := answered
      exact ordered.sorted broker
    | push failed now =>
      obtain rfl := answered
      rw [failures_snoc]
      split_ifs with same
      · obtain ⟨rfl, -⟩ := same
        refine List.pairwise_append.2 ⟨ordered.sorted _, List.pairwise_singleton .., ?_⟩
        intro t mem last here
        rw [List.mem_singleton.1 here]
        exact inOrder _ _ _ _ _ rfl t mem
      · simpa using ordered.sorted broker
    | read looked now =>
      obtain ⟨-, rfl⟩ := answered
      rw [failures_snoc]
      simpa using ordered.sorted broker

theorem Ordered.start (clock : Nat) : Ordered (.start clock) := by
  constructor
  · intro broker
    simp [HealthWorld.start, visits, remaining]
  · intro broker
    simp [HealthWorld.start, failures, visits, pushedBy]

/-- In a run in which every broker's failures are recorded in the order of their readings, the
snapshots are right exactly if none is taken after a failure in its window has been dropped. -/
theorem snapshots_exact_iff {clock : Nat}
    (run : Run (Interleaved health IsHealthCall) ⟨.start clock, 0⟩ moves b)
    (inOrder : ∀ x ∈ moves, InOrder x) :
    (∀ x ∈ moves, Exact x) ↔ ∀ x ∈ moves, Undropped x := by
  have agree : ∀ x ∈ moves, Exact x ↔ Undropped x := by
    refine run.forall_of (fun b => Ordered b.state) ?_ ?_ (.start clock) inOrder
    · exact fun b m b' ordered step inOrder => ordered.step step inOrder
    · intro b m b' ordered step _
      cases step with
      | start | ret | fail => exact ⟨fun _ _ _ _ _ _ => nofun, fun _ _ _ _ _ _ => nofun⟩
      | @command w u others p log op k answer answered =>
        cases op with
        | nowMs | push => exact ⟨fun _ _ _ _ _ _ => nofun, fun _ _ _ _ _ _ => nofun⟩
        | read looked now =>
          obtain ⟨rfl, -⟩ := answered
          have counts : Counts (readFailures w.windows looked now).1
              (recentFailures looked now w.sections) ↔ _ :=
            counts_iff ordered.windowed (ordered.sorted looked)
          constructor
          · intro exact' _ _ _ _ _ same
            cases same
            exact counts.1 (exact' _ _ _ _ _ rfl)
          · intro undropped _ _ _ _ _ same
            cases same
            exact counts.2 (undropped _ _ _ _ _ rfl)
  exact forall₂_congr agree

end Runs

section Samples

/-- A clock that goes on by a second whenever it is read. -/
def tick (w : HealthWorld) : (op : HealthOp) → op.Answer × HealthWorld
  | .nowMs => (w.clock + 1000, { w with clock := w.clock + 1000 })
  | .push broker now =>
    ((), { w with
      windows := pushFailure w.windows broker now
      sections := w.sections ++ [⟨broker, now, true⟩] })
  | .read broker now =>
    ((readFailures w.windows broker now).1, { w with
      windows := (readFailures w.windows broker now).2
      sections := w.sections ++ [⟨broker, now, false⟩] })

theorem tick_health (w : HealthWorld) (op : HealthOp) : health w op (tick w op).1 (tick w op).2 := by
  cases op with
  | nowMs => exact ⟨Nat.le_add_right .., rfl⟩
  | push => exact rfl
  | read => exact ⟨rfl, rfl⟩

/-- A call that is about to take the mutex for a snapshot. -/
def aboutToRead (now : Nat) : Call HealthOp HealthOp.Answer Empty (Option BrokerFailureHealthSnapshot) :=
  ⟨brokerFailureHealthSnapshot "redis", [⟨.nowMs, now⟩],
    .call (.read "redis" now) fun health => .ret (some health)⟩

/-- The snapshot at the end of a run. -/
def lastRead (w : HealthWorld) (now : Nat) : Transition HealthBusy HealthMove where
  before := ⟨w, {aboutToRead now}⟩
  label := .command (.read "redis" now) (readFailures w.windows "redis" now).1
    ⟨brokerFailureHealthSnapshot "redis", [⟨.nowMs, now⟩,
      ⟨.read "redis" now, (readFailures w.windows "redis" now).1⟩],
      .ret (some (readFailures w.windows "redis" now).1)⟩ 0
  after := ⟨(tick w (.read "redis" now)).2, {⟨brokerFailureHealthSnapshot "redis", [⟨.nowMs, now⟩,
      ⟨.read "redis" now, (readFailures w.windows "redis" now).1⟩],
      .ret (some (readFailures w.windows "redis" now).1)⟩}⟩

theorem lastRead_step (w : HealthWorld) (now : Nat) : Interleaved health IsHealthCall
    (lastRead w now).before (lastRead w now).label (lastRead w now).after :=
  .command (tick_health w (.read "redis" now))

/-- The world when a failure has been recorded and a snapshot is about to be taken. -/
def sampleFailed : HealthWorld :=
  (tick (tick (tick (.start 0) .nowMs).2 (.push "redis" 1000)).2 .nowMs).2

/-- A snapshot after a failure is right. -/
theorem snapshots_exact_of_sample : Exact (lastRead sampleFailed 2000) := by
  have failed : Run (Interleaved health IsHealthCall) ⟨.start 0, 0⟩ _
      (lastRead sampleFailed 2000).before :=
    .step (.start (.record "redis")) <| .step (.command (tick_health _ .nowMs)) <|
      .step (.command (tick_health _ (.push "redis" 1000))) <| .step .ret <|
      .step (.start (.snapshot "redis")) <| .step (.command (tick_health _ .nowMs)) (.done _)
  have run := failed.append (.step (lastRead_step sampleFailed 2000) (.done _))
  refine (snapshots_exact_iff run ?_).2 ?_ _ (List.mem_append_right _ (List.mem_singleton_self _))
  · simp only [List.forall_mem_append, List.forall_mem_cons, List.not_mem_nil, false_implies,
      implies_true, and_true]
    refine ⟨⟨?_, ?_, ?_, ?_, ?_, ?_⟩, ?_⟩
    all_goals
      intro broker now r call others same
      cases same
    simp [HealthWorld.start, tick, failures, visits, pushedBy]
  · simp only [List.forall_mem_append, List.forall_mem_cons, List.not_mem_nil, false_implies,
      implies_true, and_true]
    refine ⟨⟨?_, ?_, ?_, ?_, ?_, ?_⟩, ?_⟩
    all_goals
      intro broker now r call others same
      cases same
    have spared : Spared (cutoffMs 2000) ([] ++ [⟨some 1000, cutoffMs 1000⟩]) := by
      refine spared_snoc.2 ⟨?_, by simp [pushedBy]⟩
      intro front v back same
      simp at same
    exact spared

/-- A recorded failure, or a snapshot. -/
def healthCall : Bool → HealthProg
  | true => recordBrokerFailure "redis"
  | false => brokerFailureHealthSnapshot "redis"

/-- Two failures, recorded in the other order than their readings were taken, and a snapshot. -/
def crossed : List (Bool ⊕ Nat) :=
  [.inl true, .inl true, .inr 0, .inr 1, .inr 1, .inr 0, .inr 0, .inr 0, .inl false, .inr 0]

/-- The snapshot shows the earlier failure as the last one. -/
theorem snapshot_misses_last : ∃ moves b, Run (Interleaved health IsHealthCall) ⟨.start 0, 0⟩ moves b ∧
    ¬ ∀ x ∈ moves, Exact x := by
  obtain ⟨moves, run⟩ := run_play IsHealthCall tick_health (.start 0) [] (schedule healthCall crossed)
    (by
      intro p mem
      obtain ⟨_ | _, rfl⟩ := named_of_start mem
      · exact .snapshot _
      · exact .record _)
  refine ⟨_, _, run.append (.step (lastRead_step _ 3000) (.done _)), ?_⟩
  intro exact'
  have counts := exact' _ (List.mem_append_right _ (List.mem_singleton_self _)) _ _ _ _ _ rfl
  revert counts
  decide +kernel

end Samples

end BrokerHealth

end NexusCore.Runtime
