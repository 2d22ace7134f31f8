import NexusCore.Lib.Interleaving
import NexusCore.Lib.Text
import NexusCore.Oj.SubmissionAgreement

/-!
# Submissions in memory

Any number of calls create submissions in the in-memory repository and apply events to them. A
submission is named after a reading of the clock that is taken before the lock, and a name is
looked up from the front of the list, so that the submissions stay apart exactly as long as no two
of them have the same reading.
-/

namespace NexusCore.Oj

open NexusCore.Lib NexusCore.Runtime

section Calls

/-- The commands of the repository: the clock is read outside of the lock, the two others are
sections under it. -/
inductive RepositoryOp where
  | now
  | push (detail : SubmissionDetail)
  | apply (event : RuntimeTaskEvent)

/-- The clock gives no reading before the epoch. -/
def RepositoryOp.Answer : RepositoryOp → Type
  | .now => Option Nat
  | .push _ => Unit
  | .apply _ => Unit

/-- A call that creates a submission returns its record. -/
abbrev RepositoryProg : Type :=
  Prog RepositoryOp RepositoryOp.Answer AppError (Option SubmissionRecord)

def submissionIdAt (ms : Nat) : String := "sub-" ++ toString ms

/-- What the two ways to create a submission share. -/
def create (origin : Origin) : RepositoryProg :=
  .call .now fun
    | none => .fail .internal
    | some ms => .call (.push (origin.detail (submissionIdAt ms))) fun _ =>
      .ret (some (origin.detail (submissionIdAt ms)).submission)

namespace InMemorySubmissionRepository

def createSubmission (draft : SubmissionDraft) : RepositoryProg := create (.queued draft)

def createDirectSubmission (draft : EasySubmissionDraft) (status : SubmissionStatus)
    (score maxScore : UInt32) (message : Option String) (storedAnswer : String) : RepositoryProg :=
  create (.direct ⟨draft, status, score, maxScore, message, storedAnswer⟩)

end InMemorySubmissionRepository

/-- An event without a submission does not take the lock. -/
def applyEvent (event : RuntimeTaskEvent) : RepositoryProg :=
  match event.submissionId with
  | none => .ret none
  | some _ => .call (.apply event) fun _ => .ret none

inductive IsRepositoryCall : RepositoryProg → Prop where
  | create (draft : SubmissionDraft) :
      IsRepositoryCall (InMemorySubmissionRepository.createSubmission draft)
  | createDirect (draft : EasySubmissionDraft) (status : SubmissionStatus) (score maxScore : UInt32)
      (message : Option String) (storedAnswer : String) :
      IsRepositoryCall (InMemorySubmissionRepository.createDirectSubmission draft status score
        maxScore message storedAnswer)
  | apply (event : RuntimeTaskEvent) : IsRepositoryCall (applyEvent event)

/-- The clock may show anything, also the same time twice. -/
def repository : Handler InMemorySubmissionRepository RepositoryOp RepositoryOp.Answer
  | s, .now, _, u => u = s
  | s, .push detail, _, u => u = s ++ [detail]
  | s, .apply event, _, u => u = s.applyRuntimeEvent event

abbrev RepositoryCall : Type :=
  Call RepositoryOp RepositoryOp.Answer AppError (Option SubmissionRecord)

abbrev RepositoryBusy : Type :=
  Busy InMemorySubmissionRepository RepositoryOp RepositoryOp.Answer AppError
    (Option SubmissionRecord)

abbrev RepositoryMove : Type :=
  Move RepositoryOp RepositoryOp.Answer AppError (Option SubmissionRecord)

end Calls

section Properties

def Origin.owner : Origin → UserId
  | .queued draft => draft.userId
  | .direct submission => submission.draft.userId

def Origin.sourceCode : Origin → String
  | .queued draft => draft.sourceCode
  | .direct submission => submission.storedAnswer

/-- The identifiers in the order of the list. -/
def submissionIds (s : InMemorySubmissionRepository) : List String :=
  s.map (·.submission.submissionId.value)

/-- A submission that has been created is found with the owner and the source code that its call
was given. -/
def FindsCreated (s : InMemorySubmissionRepository) (x : Transition RepositoryBusy RepositoryMove) :
    Prop :=
  ∀ call record origin, x.label = .finish call (.ok (some record)) → call.program = create origin →
    ∃ detail, s.find record.submissionId.value = some detail ∧
      detail.submission.userId = origin.owner ∧ detail.sourceCode = origin.sourceCode

/-- The event is for the submission. -/
def Concerns (event : RuntimeTaskEvent) (detail : SubmissionDetail) : Prop :=
  event.submissionId = some detail.submission.submissionId.value

/-- An event leaves every submission as it is that it is not for, and every one besides a submission
that it is for. -/
def Framed (x : Transition RepositoryBusy RepositoryMove) : Prop :=
  ∀ event r call others, x.label = .command (.apply event) r call others → ∀ i : Nat,
    (∀ detail, x.before.state[i]? = some detail → ¬ Concerns event detail) ∨
      (∃ j detail, j ≠ i ∧ x.before.state[j]? = some detail ∧ Concerns event detail) →
    x.after.state[i]? = x.before.state[i]?

/-- After a run the submissions have not interfered with each other. -/
structure Apart (moves : List (Transition RepositoryBusy RepositoryMove)) (b : RepositoryBusy) :
    Prop where
  ids : (submissionIds b.state).Nodup
  found : ∀ x ∈ moves, FindsCreated b.state x
  framed : ∀ x ∈ moves, Framed x

/-- The reading of the clock that a call has been given. -/
def readingOf (log : List (Sigma RepositoryOp.Answer)) : Option Nat :=
  log.findSome? fun
    | ⟨.now, reading⟩ => reading
    | _ => none

/-- The readings of the calls that have stored a submission, in this order. -/
def storedReadings (moves : List (Transition RepositoryBusy RepositoryMove)) : List Nat :=
  moves.filterMap fun x =>
    match x.label with
    | .command (.push _) _ call _ => readingOf call.log
    | _ => none

end Properties

section Steps

variable {s u : InMemorySubmissionRepository} {op : RepositoryOp} {answer : op.Answer}

theorem map_updateFirst {α β : Type} {test : α → Bool} {f : α → α} {g : α → β}
    (keeps : ∀ a, g (f a) = g a) (items : List α) :
    (updateFirst test f items).map g = items.map g := by
  induction items with
  | nil => rfl
  | cons a rest ih =>
    by_cases h : test a
    · simp [updateFirst, h, keeps]
    · simp [updateFirst, h, ih]

/-- An element that does not pass the test stays. -/
theorem getElem?_updateFirst {α : Type} {test : α → Bool} {f : α → α} {items : List α} {i : Nat}
    (fails : ∀ a, items[i]? = some a → test a = false) :
    (updateFirst test f items)[i]? = items[i]? := by
  induction items generalizing i with
  | nil => rfl
  | cons a rest ih =>
    cases i with
    | zero =>
      have other : test a = false := fails a rfl
      simp [updateFirst, other]
    | succ i =>
      have later := ih (i := i) (by simpa using fails)
      by_cases h : test a <;> simp [updateFirst, h, later]

/-- What a creation determines for good. -/
def authorship (detail : SubmissionDetail) : String × UserId × String :=
  (detail.submission.submissionId.value, detail.submission.userId, detail.sourceCode)

theorem submissionIds_eq (s : InMemorySubmissionRepository) :
    submissionIds s = (s.map authorship).map (·.1) := by
  simp [submissionIds, authorship]

theorem authorship_applyRuntimeEvent (s : InMemorySubmissionRepository) (event : RuntimeTaskEvent) :
    (s.applyRuntimeEvent event).map authorship = s.map authorship := by
  unfold InMemorySubmissionRepository.applyRuntimeEvent
  cases event.submissionId with
  | none => rfl
  | some submissionId =>
    apply map_updateFirst
    intro detail
    rfl

/-- The identifier, the owner and the source code of a stored submission stay. -/
theorem authorship_mono (step : repository s op answer u) {author : String × UserId × String}
    (mem : author ∈ s.map authorship) : author ∈ u.map authorship := by
  cases op with
  | now =>
    obtain rfl := step
    exact mem
  | push detail =>
    obtain rfl := step
    rw [List.map_append]
    exact List.mem_append_left _ mem
  | apply event =>
    obtain rfl := step
    rw [authorship_applyRuntimeEvent]
    exact mem

/-- A name that belongs to one submission finds it. -/
theorem find_of_author {submissionId : String} {owner : UserId} {sourceCode : String}
    (apart : (submissionIds s).Nodup)
    (mem : (submissionId, owner, sourceCode) ∈ s.map authorship) :
    ∃ detail, s.find submissionId = some detail ∧ detail.submission.userId = owner ∧
      detail.sourceCode = sourceCode := by
  obtain ⟨detail, stored, same⟩ := List.mem_map.1 mem
  cases same
  cases first : s.find detail.submission.submissionId.value with
  | none =>
    have missing := List.find?_eq_none.1 first detail stored
    simp at missing
  | some other =>
    have named : other.submission.submissionId.value = detail.submission.submissionId.value := by
      simpa using List.find?_some first
    obtain rfl := List.inj_on_of_nodup_map apart (List.mem_of_find?_eq_some first) stored named
    exact ⟨_, rfl, rfl, rfl⟩

theorem framed_of_nodup {event : RuntimeTaskEvent} (apart : (submissionIds s).Nodup) {i : Nat}
    (other : (∀ detail, s[i]? = some detail → ¬ Concerns event detail) ∨
      ∃ j detail, j ≠ i ∧ s[j]? = some detail ∧ Concerns event detail) :
    (s.applyRuntimeEvent event)[i]? = s[i]? := by
  unfold InMemorySubmissionRepository.applyRuntimeEvent
  cases concerned : event.submissionId with
  | none => rfl
  | some submissionId =>
    apply getElem?_updateFirst
    intro detail here
    rw [beq_eq_false_iff_ne]
    intro named
    have concerns : Concerns event detail := by rw [Concerns, concerned, named]
    rcases other with none | ⟨j, found, ne, there, its⟩
    · exact none detail here concerns
    · have same : found.submission.submissionId.value = detail.submission.submissionId.value :=
        Option.some.inj (its.symm.trans concerns)
      obtain ⟨inside, -⟩ := List.getElem?_eq_some_iff.1 there
      have entry : (submissionIds s)[j]? = (submissionIds s)[i]? := by
        simp [submissionIds, there, here, same]
      exact ne ((List.getElem?_inj (by simpa [submissionIds] using inside) apart).1 entry)

end Steps

section Runs

variable {s u : InMemorySubmissionRepository} {b b' : RepositoryBusy} {m : RepositoryMove}
  {moves : List (Transition RepositoryBusy RepositoryMove)} {call : RepositoryCall}

/-- How far a call can be: what it stores is determined by its reading, and is in the repository
when it returns. -/
inductive Advanced (s : InMemorySubmissionRepository) : RepositoryCall → Prop where
  | start {p : RepositoryProg} (may : IsRepositoryCall p) : Advanced s (.new p)
  | read (origin : Origin) (ms : Nat) : Advanced s ⟨create origin, [⟨.now, some ms⟩],
      .call (.push (origin.detail (submissionIdAt ms))) fun _ =>
        .ret (some (origin.detail (submissionIdAt ms)).submission)⟩
  | refused (p : RepositoryProg) (log : List (Sigma RepositoryOp.Answer)) (e : AppError) :
      Advanced s ⟨p, log, .fail e⟩
  | stored (origin : Origin) (ms : Nat) (log : List (Sigma RepositoryOp.Answer))
      (mem : authorship (origin.detail (submissionIdAt ms)) ∈ s.map authorship) :
      Advanced s ⟨create origin, log, .ret (some (origin.detail (submissionIdAt ms)).submission)⟩
  | applied (p : RepositoryProg) (log : List (Sigma RepositoryOp.Answer)) :
      Advanced s ⟨p, log, .ret none⟩

theorem Advanced.mono (advanced : Advanced s call)
    (grows : ∀ author ∈ s.map authorship, author ∈ u.map authorship) : Advanced u call := by
  cases advanced with
  | start may => exact .start may
  | read origin ms => exact .read origin ms
  | refused p log e => exact .refused p log e
  | stored origin ms log mem => exact .stored origin ms log (grows _ mem)
  | applied p log => exact .applied p log

theorem create_or_apply {p : RepositoryProg} (may : IsRepositoryCall p) :
    (∃ origin, p = create origin) ∨ ∃ event, p = applyEvent event := by
  cases may with
  | create draft => exact .inl ⟨.queued draft, rfl⟩
  | createDirect draft status score maxScore message storedAnswer =>
    exact .inl ⟨.direct ⟨draft, status, score, maxScore, message, storedAnswer⟩, rfl⟩
  | apply event => exact .inr ⟨event, rfl⟩

theorem authorship_detail (origin : Origin) (submissionId : String) :
    authorship (origin.detail submissionId) = (submissionId, origin.owner, origin.sourceCode) := by
  cases origin <;> rfl

/-- A program creates for one owner and one source code. -/
theorem create_authorship {origin origin' : Origin} (same : create origin = create origin') :
    origin.owner = origin'.owner ∧ origin.sourceCode = origin'.sourceCode := by
  have continuations := congrFun (eq_of_heq (Prog.call.inj same).2) (some 0)
  have details := RepositoryOp.push.inj (Prog.call.inj continuations).1
  have authors := congrArg authorship details
  rw [authorship_detail, authorship_detail] at authors
  exact ⟨congrArg (·.2.1) authors, congrArg (·.2.2) authors⟩

/-- A call that goes on by one command has gone on. -/
theorem Advanced.command {p : RepositoryProg} {log : List (Sigma RepositoryOp.Answer)}
    {op : RepositoryOp} {k : op.Answer → RepositoryProg} {answer : op.Answer}
    (advanced : Advanced s ⟨p, log, .call op k⟩) (step : repository s op answer u) :
    Advanced u ⟨p, log ++ [⟨op, answer⟩], k answer⟩ := by
  cases advanced with
  | start may =>
    rcases create_or_apply may with ⟨origin, same⟩ | ⟨event, same⟩
    · cases same
      cases answer with
      | none => exact .refused _ _ _
      | some ms => exact .read origin ms
    · unfold applyEvent at same
      split at same
      · cases same
      · cases same
        exact .applied _ _
  | read origin ms =>
    obtain rfl := step
    exact .stored origin ms _ (by simp)

/-- The invariant of a run: the identifiers are those of the readings, and a call that has returned
a record has stored a submission with its owner and source code. -/
structure Recorded (moves : List (Transition RepositoryBusy RepositoryMove)) (b : RepositoryBusy) :
    Prop where
  ids : submissionIds b.state = (storedReadings moves).map submissionIdAt
  calls : ∀ call ∈ b.calls, Advanced b.state call
  returned : ∀ x ∈ moves, ∀ call record origin, x.label = .finish call (.ok (some record)) →
    call.program = create origin →
    (record.submissionId.value, origin.owner, origin.sourceCode) ∈ b.state.map authorship

theorem storedReadings_append (front back : List (Transition RepositoryBusy RepositoryMove)) :
    storedReadings (front ++ back) = storedReadings front ++ storedReadings back :=
  List.filterMap_append ..

/-- A step that stores nothing keeps the identifiers and what calls have returned. -/
theorem Recorded.quiet (recorded : Recorded moves b)
    (ids : submissionIds b'.state = submissionIds b.state)
    (none : storedReadings [⟨b, m, b'⟩] = [])
    (calls : ∀ call ∈ b'.calls, Advanced b'.state call)
    (grows : ∀ author ∈ b.state.map authorship, author ∈ b'.state.map authorship)
    (last : ∀ call record origin, m = .finish call (.ok (some record)) →
      call.program = create origin →
      (record.submissionId.value, origin.owner, origin.sourceCode) ∈ b.state.map authorship) :
    Recorded (moves ++ [⟨b, m, b'⟩]) b' where
  ids := by rw [ids, recorded.ids, storedReadings_append, none, List.append_nil]
  calls := calls
  returned := by
    intro x mem call record origin finished created
    rcases List.mem_append.1 mem with old | new
    · exact grows _ (recorded.returned x old call record origin finished created)
    · obtain rfl := List.mem_singleton.1 new
      exact grows _ (last call record origin finished created)

/-- What a step stores is named after the reading of its call. -/
theorem Recorded.step (recorded : Recorded moves b)
    (step : Interleaved repository IsRepositoryCall b m b') :
    Recorded (moves ++ [⟨b, m, b'⟩]) b' := by
  cases step with
  | @start s calls p may =>
    refine recorded.quiet rfl rfl ?_ (fun _ mem => mem) (fun _ _ _ => nofun)
    intro call mem
    rcases Multiset.mem_cons.1 mem with rfl | old
    · exact .start may
    · exact recorded.calls call old
  | @fail s others p log e =>
    refine recorded.quiet rfl rfl ?_ (fun _ mem => mem) (fun _ _ _ => nofun)
    exact fun call mem => recorded.calls call (Multiset.mem_cons_of_mem mem)
  | @ret s others p log a =>
    refine recorded.quiet rfl rfl ?_ (fun _ mem => mem) ?_
    · exact fun call mem => recorded.calls call (Multiset.mem_cons_of_mem mem)
    · intro call record origin finished created
      have ended : Advanced s ⟨p, log, .ret a⟩ := recorded.calls _ (Multiset.mem_cons_self _ _)
      cases finished
      cases ended with
      | start may => cases created
      | stored origin' ms _ mem =>
        obtain ⟨owner, sourceCode⟩ := create_authorship created
        rw [authorship_detail, owner, sourceCode] at mem
        cases origin' <;> exact mem
  | @command s u others p log op k answer answered =>
    have issued : Advanced s ⟨p, log, .call op k⟩ := recorded.calls _ (Multiset.mem_cons_self _ _)
    have grows : ∀ author ∈ s.map authorship, author ∈ u.map authorship :=
      fun _ mem => authorship_mono answered mem
    have calls : ∀ call ∈ ⟨p, log ++ [⟨op, answer⟩], k answer⟩ ::ₘ others, Advanced u call := by
      intro call mem
      rcases Multiset.mem_cons.1 mem with rfl | old
      · exact issued.command answered
      · exact (recorded.calls call (Multiset.mem_cons_of_mem old)).mono grows
    cases op with
    | now =>
      obtain rfl := answered
      exact recorded.quiet rfl rfl calls grows (fun _ _ _ => nofun)
    | apply event =>
      obtain rfl := answered
      refine recorded.quiet ?_ rfl calls grows (fun _ _ _ => nofun)
      rw [submissionIds_eq, submissionIds_eq, authorship_applyRuntimeEvent]
    | push detail =>
      obtain rfl := answered
      refine ⟨?_, calls, ?_⟩
      · cases issued with
        | start may =>
          rcases create_or_apply may with ⟨origin, same⟩ | ⟨event, same⟩
          · cases same
          · unfold applyEvent at same
            split at same <;> cases same
        | read origin ms =>
          rw [storedReadings_append, List.map_append, ← recorded.ids]
          cases origin <;> simp [submissionIds, storedReadings, readingOf, Origin.detail,
            pendingDetail, directDetail]
      · intro x mem call record origin finished created
        rcases List.mem_append.1 mem with old | new
        · exact grows _ (recorded.returned x old call record origin finished created)
        · obtain rfl := List.mem_singleton.1 new
          cases finished

theorem submissionIdAt_injective : Function.Injective submissionIdAt := by
  intro ms ms' same
  have lists := congrArg String.toList same
  simp only [submissionIdAt, String.toList_append] at lists
  exact Text.toString_injective (List.append_cancel_left lists)

theorem recorded_of_run
    (run : Run (Interleaved repository IsRepositoryCall) ⟨[], 0⟩ moves b) : Recorded moves b := by
  have start : Recorded [] (⟨[], 0⟩ : RepositoryBusy) := by
    refine ⟨rfl, fun call mem => absurd mem (Multiset.notMem_zero call), ?_⟩
    intro x mem
    cases mem
  exact run.invariant_trace start fun moves b m b' recorded step => recorded.step step

/-- An earlier state has some of the identifiers. -/
theorem submissionIds_sublist
    (run : Run (Interleaved repository IsRepositoryCall) b moves b') :
    (submissionIds b.state).Sublist (submissionIds b'.state) := by
  induction run with
  | done => exact List.Sublist.refl _
  | step taken _ ih =>
    refine List.Sublist.trans ?_ ih
    cases taken with
    | start | ret | fail => exact List.Sublist.refl _
    | @command s u others p log op k answer answered =>
      cases op with
      | now =>
        obtain rfl := answered
        exact List.Sublist.refl _
      | push detail =>
        obtain rfl := answered
        simp [submissionIds]
      | apply event =>
        obtain rfl := answered
        rw [submissionIds_eq, submissionIds_eq, authorship_applyRuntimeEvent]

/-- The submissions stay apart exactly in the runs in which no two of them are stored with the same
reading of the clock. -/
theorem apart_iff (run : Run (Interleaved repository IsRepositoryCall) ⟨[], 0⟩ moves b) :
    Apart moves b ↔ (storedReadings moves).Nodup := by
  have recorded := recorded_of_run run
  have nodup : (submissionIds b.state).Nodup ↔ (storedReadings moves).Nodup := by
    rw [recorded.ids]
    exact List.nodup_map_iff submissionIdAt_injective
  constructor
  · intro apart
    exact nodup.1 apart.ids
  · intro readings
    have ids := nodup.2 readings
    refine ⟨ids, ?_, ?_⟩
    · intro x mem call record origin finished created
      exact find_of_author ids (recorded.returned x mem call record origin finished created)
    · intro x mem event answer call others applied i other
      obtain ⟨front, back, rfl⟩ := List.append_of_mem mem
      obtain ⟨-, taken, rest⟩ := run.split
      have before : (submissionIds x.before.state).Nodup := by
        have first := submissionIds_sublist (.step taken rest)
        exact first.nodup ids
      obtain ⟨before', label, after⟩ := x
      dsimp only at applied taken before other ⊢
      subst applied
      cases taken with
      | command answered =>
        obtain rfl := answered
        exact framed_of_nodup before other

end Runs

section Samples

def draftOf (userId sourceCode : String) : SubmissionDraft where
  problemId := ⟨"sum"⟩
  userId := ⟨userId⟩
  language := "cpp"
  sourceCode := sourceCode

/-- A creation that runs by itself at a reading of the clock. -/
theorem run_create (origin : Origin) (may : IsRepositoryCall (create origin))
    (s : InMemorySubmissionRepository) (ms : Nat) :
    ∃ moves, Run (Interleaved repository IsRepositoryCall) ⟨s, 0⟩ moves
        ⟨s ++ [origin.detail (submissionIdAt ms)], 0⟩ ∧ storedReadings moves = [ms] ∧
      ∃ x ∈ moves, ∃ call, call.program = create origin ∧
        x.label = .finish call (.ok (some (origin.detail (submissionIdAt ms)).submission)) := by
  have read : repository s .now (some ms) s := rfl
  have stored : repository s (.push (origin.detail (submissionIdAt ms))) ()
      (s ++ [origin.detail (submissionIdAt ms)]) := rfl
  refine ⟨_, .step (.start may) <| .step (.command read) <| .step (.command stored) <|
    .step .ret (.done _), rfl, ?_⟩
  refine ⟨_, List.mem_cons_of_mem _ <| List.mem_cons_of_mem _ <| List.mem_cons_of_mem _
    List.mem_cons_self, ⟨create origin, _, _⟩, rfl, rfl⟩

/-- Submissions that are stored at different times stay apart. -/
theorem apart_of_two_times :
    ∃ moves, Apart moves ⟨[(Origin.queued (draftOf "alice" "a")).detail "sub-5",
      (Origin.queued (draftOf "bob" "b")).detail "sub-6"], 0⟩ := by
  obtain ⟨front, first, at5, -⟩ := run_create (.queued (draftOf "alice" "a")) (.create _) [] 5
  obtain ⟨back, second, at6, -⟩ := run_create (.queued (draftOf "bob" "b")) (.create _) _ 6
  refine ⟨front ++ back, (apart_iff (first.append second)).2 ?_⟩
  rw [storedReadings_append, at5, at6]
  decide

/-- Two users submit in the same millisecond: the identifier of the second submission shows the
source code of the first. -/
theorem submissions_interfere :
    ∃ moves b, Run (Interleaved repository IsRepositoryCall) ⟨[], 0⟩ moves b ∧
      ¬ Apart moves b := by
  obtain ⟨front, first, -⟩ := run_create (.queued (draftOf "alice" "a")) (.create _) [] 5
  obtain ⟨back, second, -, x, mem, call, created, finished⟩ :=
    run_create (.queued (draftOf "bob" "b")) (.create _) _ 5
  refine ⟨_, _, first.append second, ?_⟩
  intro apart
  obtain ⟨detail, found, -, sourceCode⟩ :=
    apart.found x (List.mem_append_right _ mem) call _ _ finished created
  obtain rfl : (Origin.queued (draftOf "alice" "a")).detail "sub-5" = detail :=
    Option.some.inj found
  revert sourceCode
  decide

end Samples

end NexusCore.Oj
