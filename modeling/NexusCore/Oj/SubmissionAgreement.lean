import NexusCore.Lib.System
import NexusCore.Oj.SubmissionReads

/-!
# Agreement of the submission repositories

The in-memory repository derives the view of a submission from the last event; the Postgres
repository writes columns and case rows and rebuilds the view with fallbacks of its own. The two
agree after every event exactly when each event means the same to both.
-/

namespace NexusCore.Oj

open NexusCore.Lib NexusCore.Runtime

section Views

/-- What is compared of a submission. -/
structure SubmissionView where
  status : SubmissionStatus
  score : UInt32
  maxScore : UInt32
  compileOutput : Option String
  runtimeOutput : Option String
  timeUsedMs : UInt64
  judgeSummary : Option String
  cases : List (UInt32 × SubmissionCaseStatus × UInt32)
  deriving DecidableEq, Repr

/-- A submission without a result has no output, no time and no cases. -/
def SubmissionDetail.view (detail : SubmissionDetail) : SubmissionView where
  status := detail.submission.status
  score := detail.submission.score
  maxScore := detail.submission.maxScore
  compileOutput := detail.result.bind (·.compileOutput)
  runtimeOutput := detail.result.bind (·.runtimeOutput)
  timeUsedMs := (detail.result.map (·.timeUsedMs)).getD 0
  judgeSummary := detail.result.bind (·.judgeSummary)
  cases := (detail.result.map fun result => result.caseResults.map fun item =>
    (item.caseNo, item.status, item.score)).getD []

/-- The two repositories, and the test cases beside the tables. -/
structure SubmissionStores where
  submissions : InMemorySubmissionRepository
  tables : SubmissionTables
  testcases : List ProblemTestcaseRow

namespace SubmissionStores

/-- Both repositories receive an event. -/
def receive (s : SubmissionStores) (event : RuntimeTaskEvent) : SubmissionStores :=
  { s with
    submissions := s.submissions.applyRuntimeEvent event
    tables := s.tables.receive event }

/-- What Postgres finds when nothing else is running. -/
def found (s : SubmissionStores) (submissionId : String) : AppResult (Option SubmissionDetail) :=
  ((findSubmission submissionId).eval (SubmissionTables.serve s.testcases) s.tables).1

/-- Both repositories find the submission, and show the same of it. -/
def Agree (s : SubmissionStores) (submissionId : String) : Prop :=
  ∃ inMemory stored, s.submissions.find submissionId = some inMemory ∧
    s.found submissionId = .ok (some stored) ∧ stored.view = inMemory.view

/-- Both repositories have the submission. -/
structure Present (s : SubmissionStores) (submissionId : String) : Prop where
  inMemory : (s.submissions.find submissionId).isSome
  stored : (s.tables.submissions.lookup submissionId).isSome

end SubmissionStores

end Views

section Meaning

/-- The numbers of the cases ascend in their column. -/
def CasesAscend (outcome : RuntimeExecutionOutcome) : Prop :=
  outcome.cases.Pairwise fun a b => a.caseNo.toInt32.toInt ≤ b.caseNo.toInt32.toInt

/-- The stage that the in-memory repository looks at has an output, or no stage has one. -/
def SameCompileOutput (outcome : RuntimeExecutionOutcome) : Prop :=
  ∀ judge ∈ outcome.judgeCompile, ∀ compile ∈ outcome.compile,
    judge.stderrExcerpt.isEmpty → compile.stderrExcerpt.isEmpty

/-- An event means the same to both repositories: its message is the one that the projection gives
the submission, its stages and cases are read alike, and without an outcome there are no cases of
an earlier one. -/
structure Understood (s : SubmissionStores) (submissionId : String) (event : RuntimeTaskEvent) :
    Prop where
  message : (deriveSubmissionProjection event).message = some event.message
  compile : ∀ outcome ∈ event.outcome, SameCompileOutput outcome
  cases : ∀ outcome ∈ event.outcome, CasesAscend outcome
  noLeftovers : event.outcome = none → s.tables.casesOf submissionId = []

/-- What an event shows of its submission. -/
def eventView (event : RuntimeTaskEvent) : SubmissionView where
  status := (deriveSubmissionProjection event).status
  score := (deriveSubmissionProjection event).score
  maxScore := (deriveSubmissionProjection event).maxScore
  compileOutput := event.outcome.bind fun outcome =>
    (outcome.judgeCompile.or outcome.compile).bind fun stage => nonEmpty stage.stderrExcerpt
  runtimeOutput := extractRuntimeOutput event
  timeUsedMs := (event.outcome.map totalCaseTime).getD 0
  judgeSummary := (deriveSubmissionProjection event).message
  cases := (event.outcome.map fun outcome => outcome.cases.map fun item =>
    (item.caseNo, mapCaseStatus item.status, item.score)).getD []

/-- An event that the database does not take must show nothing new. -/
def Faithful (s : SubmissionStores) (submissionId : String) (event : RuntimeTaskEvent) : Prop :=
  match rejection event with
  | none => Understood s submissionId event
  | some _ => ∀ detail ∈ s.submissions.find submissionId, detail.view = eventView event

variable {s : SubmissionStores} {submissionId : String} {event : RuntimeTaskEvent}
  {outcome : RuntimeExecutionOutcome}

theorem nonEmpty_eq_none {text : String} : nonEmpty text = none ↔ text.isEmpty := by
  unfold nonEmpty
  split_ifs with empty
  · simp [empty]
  · simp [empty]

theorem extractCompileOutput_iff : (outcome.judgeCompile.bind fun stage =>
      nonEmpty stage.stderrExcerpt).or (outcome.compile.bind fun stage =>
        nonEmpty stage.stderrExcerpt) =
      ((outcome.judgeCompile.or outcome.compile).bind fun stage => nonEmpty stage.stderrExcerpt) ↔
    SameCompileOutput outcome := by
  unfold SameCompileOutput
  cases outcome.judgeCompile with
  | none => simp
  | some judge =>
    cases outcome.compile with
    | none => simp
    | some compile =>
      simp only [Option.bind_some, Option.some_or, Option.mem_def, Option.some.injEq, forall_eq']
      by_cases silent : judge.stderrExcerpt.isEmpty
      · rw [nonEmpty_eq_none.2 silent, Option.none_or, nonEmpty_eq_none]
        simp [silent]
      · have written : nonEmpty judge.stderrExcerpt = some judge.stderrExcerpt := by
          rw [nonEmpty, if_neg silent]
        rw [written, Option.some_or]
        simp [silent]

/-- The result of a case as it is read back. -/
def storedCaseResult (item : RuntimeCaseOutcome) (expected : Option String) :
    SubmissionCaseResult :=
  { caseResult item with
    timeUsedMs := (Int64.ofNat item.durationMs).toUInt64
    expectedOutputSnapshot := expected.getD "" }

theorem mapCaseResults_caseRow (submissionId : String) (expected : SubmissionCaseRow → Option String)
    (items : List RuntimeCaseOutcome) :
    mapCaseResults (items.map fun item =>
      (caseRow submissionId item, expected (caseRow submissionId item))) =
        .ok (items.map fun item => storedCaseResult item (expected (caseRow submissionId item))) := by
  induction items with
  | nil => rfl
  | cons item rest ih =>
    rw [List.map_cons, mapCaseResults, ih]
    unfold mapSubmissionCaseResult
    simp only [caseRow, parse_formatCaseStatus]
    rfl

end Meaning

section Found

variable {s : SubmissionStores} {submissionId : String} {event : RuntimeTaskEvent}

/-- What a row and its case results make. -/
def storedDetail (submission : SubmissionRecord) (row : SubmissionRow)
    (caseResults : List SubmissionCaseResult) : SubmissionDetail where
  submission := submission
  sourceCode := row.sourceCode
  result := some (buildSubmissionResult submission row.executionSummary caseResults)

/-- The case rows as the query returns them. -/
def SubmissionStores.caseRows (s : SubmissionStores) (submissionId : String) :
    List (SubmissionCaseRow × Option String) :=
  (sortBy (·.caseNo.toInt) (s.tables.casesOf submissionId)).map fun row =>
    (row, expectedOutput s.testcases s.tables row)

theorem found_of_row {row : SubmissionRow} {submission : SubmissionRecord}
    (stored : s.tables.submissions.lookup submissionId = some row)
    (read : mapSubmissionRecord submissionId row = .ok submission) :
    s.found submissionId = (mapCaseResults (s.caseRows submissionId)).map fun caseResults =>
      some (storedDetail submission row caseResults) := by
  have answered : SubmissionTables.serve s.testcases s.tables (.submission submissionId) =
      (.ok (some row), s.tables) := by
    rw [SubmissionTables.serve, SubmissionTables.answer, stored]
  rw [SubmissionStores.found, findSubmission, Prog.bind_def, Prog.eval_bind, Prog.eval_op, answered]
  change (((Prog.lift (mapSubmissionRecord submissionId row)).bind fun submission => _).eval
    (SubmissionTables.serve s.testcases) s.tables).1 = _
  rw [read]
  change (((Prog.lift (mapCaseResults (s.caseRows submissionId))).bind fun caseResults =>
    (Prog.ret (some (storedDetail submission row caseResults)) :
      SubmissionProg (Option SubmissionDetail))).eval
        (SubmissionTables.serve s.testcases) s.tables).1 = _
  cases mapCaseResults (s.caseRows submissionId) with
  | error e => rfl
  | ok caseResults => rfl

/-- The record that is read back after an event. -/
def projectedRecord (submissionId : String) (row : SubmissionRow) (event : RuntimeTaskEvent) :
    SubmissionRecord where
  submissionId := ⟨submissionId⟩
  problemId := ⟨row.problemId⟩
  userId := ⟨row.userId⟩
  language := row.language
  status := (deriveSubmissionProjection event).status
  score := (deriveSubmissionProjection event).score
  maxScore := (deriveSubmissionProjection event).maxScore
  message := (deriveSubmissionProjection event).message

theorem mapSubmissionRecord_project (submissionId : String) (row : SubmissionRow)
    (event : RuntimeTaskEvent) : mapSubmissionRecord submissionId (row.project event) =
      .ok (projectedRecord submissionId row event) := by
  unfold mapSubmissionRecord SubmissionRow.project
  simp only [parse_formatSubmissionStatus]
  rfl

theorem receive_of_accepted (tables : SubmissionTables) (own : event.submissionId = some submissionId)
    (accepted : rejection event = none) :
    tables.receive event = tables.update submissionId event := by
  simp [SubmissionTables.receive, SubmissionTables.applyRuntimeEvent, own, accepted]

theorem receive_of_rejected (tables : SubmissionTables) {reason : String}
    (rejected : rejection event = some reason) : tables.receive event = tables := by
  unfold SubmissionTables.receive SubmissionTables.applyRuntimeEvent
  rw [rejected]
  cases event.submissionId with
  | none => rfl
  | some submissionId => rfl

/-- The projection always has a message. -/
theorem projection_message (event : RuntimeTaskEvent) :
    ((deriveSubmissionProjection event).message.or (some event.message)) =
      (deriveSubmissionProjection event).message := by
  unfold deriveSubmissionProjection
  cases event.status <;> rfl

/-- The outputs of an outcome are found in its stored cases only if they are found in itself. -/
theorem storedOutput_eq_none {items rearranged : List RuntimeCaseOutcome}
    {expected : RuntimeCaseOutcome → Option String} (silent : (items.findSome? fun item =>
      (nonEmpty item.stderrExcerpt).or (nonEmpty item.stdoutExcerpt)) = none)
    (perm : rearranged.Perm items) :
    storedOutput (rearranged.map fun item => storedCaseResult item (expected item)) = none := by
  unfold storedOutput
  rw [List.findSome?_eq_none_iff]
  intro result mem
  obtain ⟨item, among, rfl⟩ := List.mem_map.1 mem
  exact List.findSome?_eq_none_iff.1 silent item (perm.subset among)

/-- What the tables show of a submission after an event, with the results of the case rows. -/
def storedView (event : RuntimeTaskEvent) (caseResults : List SubmissionCaseResult) :
    SubmissionView where
  status := (deriveSubmissionProjection event).status
  score := (deriveSubmissionProjection event).score
  maxScore := (deriveSubmissionProjection event).maxScore
  compileOutput := extractCompileOutput event
  runtimeOutput := (extractRuntimeOutput event).or (storedOutput caseResults)
  timeUsedMs := (event.outcome.map totalCaseTime).getD 0
  judgeSummary := some event.message
  cases := caseResults.map fun item => (item.caseNo, item.status, item.score)

theorem view_project (detail : SubmissionDetail) (event : RuntimeTaskEvent) :
    (detail.project event).view = eventView event := by
  have message := projection_message event
  unfold SubmissionDetail.view SubmissionDetail.project buildRuntimeSubmissionResult eventView
    extractRuntimeOutput
  simp only [Option.bind_some, Option.map_some, Option.getD_some, message]
  cases event.outcome with
  | none => rfl
  | some outcome => simp [caseResult, Function.comp_def]

theorem view_storedDetail (row : SubmissionRow) (event : RuntimeTaskEvent)
    (caseResults : List SubmissionCaseResult) :
    (storedDetail (projectedRecord submissionId row event) (row.project event) caseResults).view =
      storedView event caseResults := rfl

/-- The results that are read back after an event with an outcome. -/
def SubmissionStores.resultsOf (s : SubmissionStores) (submissionId : String)
    (outcome : RuntimeExecutionOutcome) : List SubmissionCaseResult :=
  (sortBy (fun item => item.caseNo.toInt32.toInt) outcome.cases).map fun item =>
    storedCaseResult item (expectedOutput s.testcases s.tables (caseRow submissionId item))

theorem mapCaseResults_update {outcome : RuntimeExecutionOutcome}
    (written : s.tables.casesOf submissionId = outcome.cases.map (caseRow submissionId)) :
    mapCaseResults (s.caseRows submissionId) = .ok (s.resultsOf submissionId outcome) := by
  have sorted := map_sortBy (caseRow submissionId) (fun row => row.caseNo.toInt) outcome.cases
  have rows : s.caseRows submissionId =
      (sortBy (fun item => item.caseNo.toInt32.toInt) outcome.cases).map fun item =>
        (caseRow submissionId item,
          expectedOutput s.testcases s.tables (caseRow submissionId item)) := by
    unfold SubmissionStores.caseRows
    rw [written, ← sorted, List.map_map]
    rfl
  rw [rows]
  exact mapCaseResults_caseRow submissionId (expectedOutput s.testcases s.tables) _

/-- With an outcome, the views are equal exactly when stages and cases are read alike. -/
theorem storedView_iff {outcome : RuntimeExecutionOutcome} (with' : event.outcome = some outcome) :
    storedView event (s.resultsOf submissionId outcome) = eventView event ↔
      (deriveSubmissionProjection event).message = some event.message ∧
        SameCompileOutput outcome ∧ CasesAscend outcome := by
  have output : (extractRuntimeOutput event).or (storedOutput (s.resultsOf submissionId outcome)) =
      extractRuntimeOutput event := by
    cases silent : extractRuntimeOutput event with
    | some text => rfl
    | none =>
      rw [extractRuntimeOutput, with'] at silent
      exact storedOutput_eq_none silent (sortBy_perm _ _)
  have listed : (s.resultsOf submissionId outcome).map (fun item =>
      (item.caseNo, item.status, item.score)) =
        (outcome.cases.map fun item => (item.caseNo, mapCaseStatus item.status, item.score)) ↔
      CasesAscend outcome := by
    unfold SubmissionStores.resultsOf
    rw [List.map_map]
    constructor
    · intro same
      have sorted := pairwise_sortBy (fun item : RuntimeCaseOutcome => item.caseNo.toInt32.toInt)
        outcome.cases
      have numbers := congrArg (List.map Prod.fst) same
      rw [List.map_map, List.map_map] at numbers
      have ascend : ∀ items : List RuntimeCaseOutcome,
          (items.map (·.caseNo)).Pairwise (fun a b => a.toInt32.toInt ≤ b.toInt32.toInt) ↔
            items.Pairwise fun a b => a.caseNo.toInt32.toInt ≤ b.caseNo.toInt32.toInt :=
        fun items => List.pairwise_map
      rw [← ascend] at sorted
      apply (ascend outcome.cases).1
      rw [show outcome.cases.map (·.caseNo) = _ from numbers.symm]
      exact sorted
    · intro ascending
      rw [sortBy_eq_self ascending]
      rfl
  rw [← extractCompileOutput_iff, ← listed]
  unfold storedView eventView extractCompileOutput
  simp only [with', Option.bind_some, Option.map_some, Option.getD_some, SubmissionView.mk.injEq,
    true_and]
  rw [output]
  constructor
  · rintro ⟨compile, -, message, cases⟩
    exact ⟨message.symm, compile, cases⟩
  · rintro ⟨message, compile, cases⟩
    exact ⟨compile, rfl, message.symm, cases⟩

end Found

section Events

variable {s : SubmissionStores} {submissionId : String} {event : RuntimeTaskEvent}

theorem SubmissionStores.Present.receive (present : s.Present submissionId)
    (own : event.submissionId = some submissionId) : (s.receive event).Present submissionId where
  inMemory := by simpa [SubmissionStores.receive, own] using present.inMemory
  stored := by
    have stored := present.stored
    cases judged : rejection event with
    | some reason =>
      change ((s.tables.receive event).submissions.lookup submissionId).isSome
      rw [receive_of_rejected s.tables judged]
      exact stored
    | none =>
      change ((s.tables.receive event).submissions.lookup submissionId).isSome
      rw [receive_of_accepted s.tables own judged, SubmissionTables.lookup_update]
      simpa using stored

theorem find_receive (own : event.submissionId = some submissionId) :
    (s.receive event).submissions.find submissionId =
      (s.submissions.find submissionId).map (SubmissionDetail.project event) :=
  InMemorySubmissionRepository.find_applyRuntimeEvent own

/-- After an event that the database takes, the stores agree exactly if its case rows are read and
show what the event shows. -/
theorem agree_receive (present : s.Present submissionId)
    (own : event.submissionId = some submissionId) (accepted : rejection event = none) :
    (s.receive event).Agree submissionId ↔
      ∃ caseResults, mapCaseResults ((s.receive event).caseRows submissionId) = .ok caseResults ∧
        storedView event caseResults = eventView event := by
  obtain ⟨detail, known⟩ := Option.isSome_iff_exists.1 present.inMemory
  obtain ⟨row, stored⟩ := Option.isSome_iff_exists.1 present.stored
  have inMemory := find_receive (s := s) own
  rw [known, Option.map_some] at inMemory
  have written : (s.receive event).tables.submissions.lookup submissionId =
      some (row.project event) := by
    change (s.tables.receive event).submissions.lookup submissionId = _
    rw [receive_of_accepted s.tables own accepted, SubmissionTables.lookup_update, stored,
      Option.map_some]
  have read := found_of_row written (mapSubmissionRecord_project submissionId row event)
  unfold SubmissionStores.Agree
  rw [inMemory, read]
  cases mapCaseResults ((s.receive event).caseRows submissionId) with
  | error e =>
    constructor
    · intro ⟨_, _, _, impossible, _⟩
      cases impossible
    · intro ⟨_, impossible, _⟩
      cases impossible
  | ok caseResults =>
    constructor
    · intro ⟨inMemory, found, sameDetail, sameFound, same⟩
      cases sameDetail
      cases sameFound
      rw [view_project, view_storedDetail] at same
      exact ⟨caseResults, rfl, same⟩
    · intro ⟨results, read, same⟩
      cases read
      refine ⟨_, _, rfl, rfl, ?_⟩
      rw [view_project, view_storedDetail]
      exact same

theorem length_mapCaseResults {rows : List (SubmissionCaseRow × Option String)}
    {caseResults : List SubmissionCaseResult} (read : mapCaseResults rows = .ok caseResults) :
    caseResults.length = rows.length := by
  induction rows generalizing caseResults with
  | nil =>
    cases read
    rfl
  | cons row rest ih =>
    unfold mapCaseResults at read
    cases first : mapSubmissionCaseResult row with
    | error e =>
      rw [first] at read
      cases read
    | ok result =>
      cases others : mapCaseResults rest with
      | error e =>
        rw [first, others] at read
        cases read
      | ok results =>
        rw [first, others] at read
        cases read
        rw [List.length_cons, List.length_cons, ih others]

/-- An event that the database takes leaves the stores in agreement exactly if it is understood. -/
theorem agree_receive_of_accepted (present : s.Present submissionId)
    (own : event.submissionId = some submissionId) (accepted : rejection event = none) :
    (s.receive event).Agree submissionId ↔ Understood s submissionId event := by
  rw [agree_receive present own accepted]
  have tables : (s.receive event).tables = s.tables.update submissionId event :=
    receive_of_accepted s.tables own accepted
  cases result : event.outcome with
  | some outcome =>
    have written : (s.receive event).tables.casesOf submissionId =
        outcome.cases.map (caseRow submissionId) := by
      rw [tables, SubmissionTables.casesOf_update _ _ result]
    rw [mapCaseResults_update written]
    have same := @storedView_iff (s.receive event) submissionId event outcome result
    constructor
    · intro shows
      obtain ⟨results, read, shown⟩ := shows
      cases read
      obtain ⟨message, compile, ascending⟩ := same.1 shown
      refine ⟨message, ?_, ?_, ?_⟩
      · simpa [result] using compile
      · simpa [result] using ascending
      · simp [result]
    · intro understood
      refine ⟨_, rfl, same.2 ⟨understood.message, ?_, ?_⟩⟩
      · exact understood.compile outcome result
      · exact understood.cases outcome result
  | none =>
    have kept : (s.receive event).tables.casesOf submissionId =
        s.tables.casesOf submissionId := by
      rw [tables]
      simp [SubmissionTables.casesOf, SubmissionTables.update, result]
    have length : ((s.receive event).caseRows submissionId).length =
        (s.tables.casesOf submissionId).length := by
      unfold SubmissionStores.caseRows
      rw [List.length_map, (sortBy_perm _ _).length_eq, kept]
    constructor
    · intro shows
      obtain ⟨results, read, shown⟩ := shows
      have message := congrArg SubmissionView.judgeSummary shown
      have cases' := congrArg SubmissionView.cases shown
      have empty : results = [] := by simpa [storedView, eventView, result] using cases'
      refine ⟨message.symm, by simp [result], by simp [result], ?_⟩
      intro _
      rw [← List.length_eq_zero_iff, ← length, ← length_mapCaseResults read, empty]
      rfl
    · intro understood
      have empty := understood.noLeftovers result
      rw [empty, List.length_nil, List.length_eq_zero_iff] at length
      refine ⟨[], by rw [length]; rfl, ?_⟩
      have message := understood.message
      unfold storedView eventView extractCompileOutput extractRuntimeOutput
      simp [result, message, storedOutput]

/-- An event that the database does not take leaves the stores in agreement exactly if it shows
nothing new. -/
theorem agree_receive_of_rejected (agree : s.Agree submissionId)
    (own : event.submissionId = some submissionId) {reason : String}
    (rejected : rejection event = some reason) :
    (s.receive event).Agree submissionId ↔
      ∀ detail ∈ s.submissions.find submissionId, detail.view = eventView event := by
  obtain ⟨detail, stored, known, found, same⟩ := agree
  have inMemory := find_receive (s := s) own
  rw [known, Option.map_some] at inMemory
  have unchanged : (s.receive event).found submissionId = .ok (some stored) := by
    unfold SubmissionStores.found SubmissionStores.receive
    rw [receive_of_rejected s.tables rejected]
    exact found
  unfold SubmissionStores.Agree
  rw [inMemory, unchanged]
  constructor
  · intro ⟨_, _, projected, read, agree⟩ other known'
    cases projected
    cases read
    obtain rfl : detail = other := by simpa [known] using known'
    rw [← same, agree, view_project]
  · intro shown
    refine ⟨_, _, rfl, rfl, ?_⟩
    rw [same, view_project]
    exact shown detail known

theorem agree_receive_iff (present : s.Present submissionId) (agree : s.Agree submissionId)
    (own : event.submissionId = some submissionId) :
    (s.receive event).Agree submissionId ↔ Faithful s submissionId event := by
  unfold Faithful
  cases judged : rejection event with
  | none => exact agree_receive_of_accepted present own judged
  | some reason => exact agree_receive_of_rejected agree own judged

end Events

section Submissions

/-- How a submission comes to be: it waits for the runtime, or is judged at once. -/
inductive Origin where
  | queued (draft : SubmissionDraft)
  | direct (submission : DirectSubmission)

namespace Origin

def detail (submissionId : String) : Origin → SubmissionDetail
  | queued draft => pendingDetail draft submissionId
  | direct submission => directDetail submission submissionId

def row : Origin → SubmissionRow
  | queued draft => createdRow draft
  | direct submission => directRow submission

/-- A message of a submission that is judged at once is an output in memory only. -/
def Silent : Origin → Prop
  | queued _ => True
  | direct submission => submission.message = none

end Origin

/-- Both repositories have the submission as it was created. -/
structure SubmissionStores.Created (s : SubmissionStores) (submissionId : String)
    (origin : Origin) : Prop where
  inMemory : s.submissions.find submissionId = some (origin.detail submissionId)
  stored : s.tables.submissions.lookup submissionId = some origin.row
  noCases : s.tables.casesOf submissionId = []

variable {s : SubmissionStores} {submissionId : String} {origin : Origin}

theorem mapSubmissionRecord_origin (submissionId : String) (origin : Origin) :
    mapSubmissionRecord submissionId origin.row = .ok (origin.detail submissionId).submission := by
  cases origin with
  | queued draft => rfl
  | direct submission =>
    unfold mapSubmissionRecord
    change (parseSubmissionStatus (formatSubmissionStatus submission.status) >>= fun _ => _) = _
    rw [parse_formatSubmissionStatus]
    rfl

theorem SubmissionStores.Created.agree_iff (created : s.Created submissionId origin) :
    s.Agree submissionId ↔ origin.Silent := by
  have read := found_of_row created.stored (mapSubmissionRecord_origin submissionId origin)
  have rows : s.caseRows submissionId = [] := by
    unfold SubmissionStores.caseRows
    rw [created.noCases]
    rfl
  rw [rows] at read
  have found : s.found submissionId =
      .ok (some (storedDetail (origin.detail submissionId).submission origin.row [])) := read
  unfold SubmissionStores.Agree
  rw [created.inMemory, found]
  cases origin with
  | queued draft =>
    constructor
    · intro _
      trivial
    · intro _
      exact ⟨_, _, rfl, rfl, rfl⟩
  | direct submission =>
    constructor
    · intro ⟨_, _, known, read, same⟩
      cases known
      cases read
      have output := congrArg SubmissionView.runtimeOutput same
      exact output.symm
    · intro silent
      refine ⟨_, _, rfl, rfl, ?_⟩
      have silent : submission.message = none := silent
      unfold SubmissionDetail.view storedDetail Origin.detail directDetail Origin.row directRow
        buildSubmissionResult
      simp [silent, storedOutput]

theorem SubmissionStores.Created.present (created : s.Created submissionId origin) :
    s.Present submissionId where
  inMemory := by simp [created.inMemory]
  stored := by simp [created.stored]

/-- The stores agree along every sequence of events exactly as long as each event is understood. -/
theorem agree_along_iff (created : s.Created submissionId origin)
    {events : List RuntimeTaskEvent} (own : ∀ event ∈ events, event.submissionId = some submissionId) :
    (s.Agree submissionId ∧
        ∀ x ∈ trace SubmissionStores.receive s events, x.after.Agree submissionId) ↔
      origin.Silent ∧
        ∀ x ∈ trace SubmissionStores.receive s events, Faithful x.before submissionId x.label := by
  rw [created.agree_iff]
  apply and_congr_right
  intro silent
  have start : s.Present submissionId ∧ s.Agree submissionId :=
    ⟨created.present, created.agree_iff.2 silent⟩
  clear created
  induction events generalizing s with
  | nil => simp [trace]
  | cons event rest ih =>
    rw [List.forall_mem_cons] at own
    simp only [trace, List.forall_mem_cons]
    have step := agree_receive_iff start.1 start.2 own.1
    rw [step]
    apply and_congr_right
    intro faithful
    exact ih own.2 ⟨start.1.receive own.1, step.2 faithful⟩

/-- A submission in both repositories, before the first event. -/
def pendingStores : SubmissionStores where
  submissions := pendingSubmission
  tables := pendingRow
  testcases := []

def pendingDraft : SubmissionDraft where
  problemId := ⟨"problem-1"⟩
  userId := ⟨"user-1"⟩
  language := "cpp"
  sourceCode := "int main() { return 0; }"

theorem pendingStores_created : pendingStores.Created "submission-1" (.queued pendingDraft) where
  inMemory := rfl
  stored := by decide
  noCases := rfl

theorem queued_event_agrees :
    (pendingStores.Agree "submission-1" ∧
      ∀ x ∈ trace SubmissionStores.receive pendingStores
          [lifecycleEvent .queued "runtime task queued"], x.after.Agree "submission-1") ↔
      (Origin.queued pendingDraft).Silent ∧
        ∀ x ∈ trace SubmissionStores.receive pendingStores
          [lifecycleEvent .queued "runtime task queued"],
          Faithful x.before "submission-1" x.label :=
  agree_along_iff pendingStores_created (by decide)

/-- The worker's event of a case that was accepted. -/
def acceptedEvent : RuntimeTaskEvent :=
  { lifecycleEvent .completed "runtime execution completed successfully" with
    outcome := some
      { compile := none
        judgeCompile := none
        cases :=
          [{ caseNo := 1, score := 100, status := .accepted, exitCode := some 0, durationMs := 12
             memoryUsedKb := 1024, stdoutPath := "1.out", stderrPath := "1.err"
             stdoutExcerpt := "3", stderrExcerpt := "" }]
        finalStatus := .completed } }

/-- After an accepted run the judge summary is another one; and an event without an outcome, here
one that queues the submission once more, leaves the cases of the run in the tables only. -/
theorem accepted_run_shown_differently :
    pendingStores.Created "submission-1" (.queued pendingDraft) ∧
      acceptedEvent.submissionId = some "submission-1" ∧
      ¬ (pendingStores.receive acceptedEvent).Agree "submission-1" ∧
      ¬ ((pendingStores.receive acceptedEvent).receive
        (lifecycleEvent .queued "runtime task queued")).Agree "submission-1" := by
  have present := pendingStores_created.present
  refine ⟨pendingStores_created, rfl, ?_, ?_⟩
  · rw [agree_receive_of_accepted present rfl (by decide +kernel)]
    intro understood
    have message := understood.message
    revert message
    decide
  · rw [agree_receive_of_accepted (present.receive rfl) rfl (by decide +kernel)]
    intro understood
    have leftovers := understood.noLeftovers rfl
    revert leftovers
    decide +kernel

end Submissions

end NexusCore.Oj
