import NexusCore.Lib.Snapshots
import NexusCore.Oj.ProblemAgreement
import NexusCore.Oj.SubmissionAgreement

/-!
# Versions seen by a reader

A problem is read with three statements and a submission with two, each outside a transaction. A
save or an event that commits between them leaves a reader with the parts of several versions.
-/

namespace NexusCore.Oj

open NexusCore.Lib NexusCore.Runtime

section Problems

/-- The tables, and the problems that have been saved in them. -/
structure ProblemHistory where
  tables : ProblemTables
  saved : List Problem

namespace ProblemHistory

/-- A save that commits. -/
def Save (s : ProblemHistory) (problem : Problem) (t : ProblemHistory) : Prop :=
  (∃ failure, s.tables.save problem failure = (.ok (), t.tables)) ∧ t.saved = s.saved ++ [problem]

def versions (s : ProblemHistory) (problemId : String) : List Problem :=
  s.saved.filter (·.problemId.value == problemId)

/-- The version that was saved last. -/
def current (s : ProblemHistory) (problemId : String) : Option Problem :=
  (s.versions problemId).getLast?

/-- The tables hold the current version of every problem. -/
structure Recorded (s : ProblemHistory) : Prop where
  held : ∀ id problem, s.current id = some problem → s.tables.Holds problem
  only : ∀ id, s.current id = none → s.tables.problems.lookup id = none

variable {s t : ProblemHistory} {problem : Problem} {problemId : String}

theorem problemId_of_current (current : s.current problemId = some problem) :
    problem.problemId.value = problemId := by
  have mem := List.mem_of_getLast? current
  simpa using (List.mem_filter.1 mem).2

theorem current_of_save (save : s.Save problem t) (id : String) :
    t.current id = if id = problem.problemId.value then some problem else s.current id := by
  unfold current versions
  rw [save.2, List.filter_append]
  split_ifs with here
  · simp [here]
  · have apart : (problem.problemId.value == id) = false := by simpa using Ne.symm here
    simp [apart]

theorem isSome_of_save (save : s.Save problem t) (id : String) (known : (s.current id).isSome) :
    (t.current id).isSome := by
  rw [current_of_save save]
  split_ifs
  · rfl
  · exact known

theorem Recorded.save (recorded : s.Recorded) (save : s.Save problem t) : t.Recorded := by
  obtain ⟨failure, accepted⟩ := save.1
  obtain ⟨-, admits, stored⟩ := ProblemTables.save_eq_ok.1 accepted
  constructor
  · intro id version current
    rw [current_of_save save] at current
    rw [stored]
    split_ifs at current with here
    · cases current
      exact admits.holds
    · have named := problemId_of_current current
      exact (recorded.held id version current).store_other (named.symm ▸ here)
  · intro id unknown
    rw [current_of_save save] at unknown
    rw [stored, ProblemTables.lookup_store]
    split_ifs at unknown with here
    rw [if_neg here]
    exact recorded.only id unknown

end ProblemHistory

/-- A version in the columns of the row of a problem. -/
structure SameRow (version problem : Problem) : Prop where
  problemId : problem.problemId = version.problemId
  title : problem.title = version.title
  slug : problem.slug = version.slug
  statementMd : problem.statementMd = version.statementMd
  judgeMode : problem.judgeMode = version.judgeMode
  sandboxKind : problem.sandboxKind = version.sandboxKind
  judgeConfig : problem.judgeConfig = version.judgeConfig
  easyConfig : problem.easyConfig = version.easyConfig

def SameLimits (version problem : Problem) : Prop :=
  ∀ language, problem.limits.lookup language = version.limits.lookup language

/-- A version in everything that is stored; test cases are not compared in order. -/
structure IsVersion (version problem : Problem) : Prop where
  row : SameRow version problem
  limits : SameLimits version problem
  testcases : problem.testcases.Perm version.testcases

/-- One version has the row that was current at the first statement, the limits that were current
at the second, and the test cases that were current at the third. -/
def OneVersion (problemId : String) : List ProblemHistory → Prop
  | [atRow, atLimits, atTestcases] => ∃ version ∈ atTestcases.versions problemId,
      (∀ problem ∈ atRow.current problemId, SameRow version problem) ∧
      (∀ problem ∈ atLimits.current problemId, SameLimits version problem) ∧
      ∀ problem ∈ atTestcases.current problemId, problem.testcases.Perm version.testcases
  | _ => False

/-- The reader of a problem, between saves. -/
def amongSaves (collate : String → String → Bool) :
    Handler (ProblemHistory × List ProblemHistory) ProblemQuery ProblemQuery.Answer :=
  between ProblemHistory.Save fun s query => s.tables.answer collate query

variable {collate : String → String → Bool} {s : ProblemHistory} {problemId : String}
  {problem : Problem} {t : ProblemHistory × List ProblemHistory}

/-- A problem that is found is made of the answers of three states. -/
theorem exec_findDetail : Exec (amongSaves collate) (findDetail problemId) (s, [])
    (.ok (some problem)) t ↔ ∃ atRow atLimits atTestcases row,
      Later ProblemHistory.Save s atRow ∧ Later ProblemHistory.Save atRow atLimits ∧
      Later ProblemHistory.Save atLimits atTestcases ∧
      t = (atTestcases, [atRow, atLimits, atTestcases]) ∧
      atRow.tables.problems.lookup problemId = some row ∧
      assembleProblem row (atLimits.tables.collated collate problemId)
        (sortBy (·.caseNo.toInt) (atTestcases.tables.testcasesOf problemId)) = .ok problem := by
  constructor
  · intro run
    obtain ⟨answer, atRow, first, answered, run⟩ := exec_call_answered.1 run
    rcases answer with e | _ | row
    · cases answered
    · obtain ⟨impossible, -⟩ := exec_ret.1 run
      cases impossible
    · have stored : atRow.tables.problems.lookup problemId = some row := Except.ok.inj answered
      obtain ⟨atLimits, second, run⟩ := exec_call_between.1 run
      obtain ⟨atTestcases, third, run⟩ := exec_call_between.1 run
      change Exec _ ((Prog.lift (assembleProblem row (atLimits.tables.collated collate problemId)
        (sortBy (·.caseNo.toInt) (atTestcases.tables.testcasesOf problemId)))).bind fun problem =>
          .ret (some problem)) _ _ _ at run
      obtain ⟨found, assembled, run⟩ := exec_lift_bind.1 run
      obtain ⟨same, last⟩ := exec_ret.1 run
      cases same
      exact ⟨atRow, atLimits, atTestcases, row, first, second, third, last, stored, assembled⟩
  · intro ⟨atRow, atLimits, atTestcases, row, first, second, third, last, stored, assembled⟩
    refine exec_call_answered.2 ⟨.ok (some row), atRow, first, congrArg Except.ok stored, ?_⟩
    refine exec_call_between.2 ⟨atLimits, second, ?_⟩
    refine exec_call_between.2 ⟨atTestcases, third, ?_⟩
    change Exec _ ((Prog.lift (assembleProblem row (atLimits.tables.collated collate problemId)
      (sortBy (·.caseNo.toInt) (atTestcases.tables.testcasesOf problemId)))).bind fun problem =>
        .ret (some problem)) _ _ _
    exact exec_lift_bind.2 ⟨problem, assembled, exec_ret.2 ⟨rfl, last⟩⟩

/-- The parts of a problem that is found, by the versions that were current. -/
structure MadeOf (row limits testcases problem : Problem) : Prop where
  row : SameRow row problem
  limits : SameLimits limits problem
  testcases : problem.testcases.Perm testcases.testcases

theorem MadeOf.isVersion_iff {row limits testcases version : Problem}
    (made : MadeOf row limits testcases problem) : IsVersion version problem ↔
      SameRow version row ∧ SameLimits version limits ∧
        testcases.testcases.Perm version.testcases := by
  obtain ⟨fields, limited, cases⟩ := made
  constructor
  · intro same
    refine ⟨?_, ?_, cases.symm.trans same.testcases⟩
    · constructor
      · rw [← fields.problemId, same.row.problemId]
      · rw [← fields.title, same.row.title]
      · rw [← fields.slug, same.row.slug]
      · rw [← fields.statementMd, same.row.statementMd]
      · rw [← fields.judgeMode, same.row.judgeMode]
      · rw [← fields.sandboxKind, same.row.sandboxKind]
      · rw [← fields.judgeConfig, same.row.judgeConfig]
      · rw [← fields.easyConfig, same.row.easyConfig]
    · intro language
      rw [← limited language, same.limits language]
  · intro ⟨sameRow, sameLimits, sameCases⟩
    refine ⟨?_, ?_, cases.trans sameCases⟩
    · constructor
      · rw [fields.problemId, sameRow.problemId]
      · rw [fields.title, sameRow.title]
      · rw [fields.slug, sameRow.slug]
      · rw [fields.statementMd, sameRow.statementMd]
      · rw [fields.judgeMode, sameRow.judgeMode]
      · rw [fields.sandboxKind, sameRow.sandboxKind]
      · rw [fields.judgeConfig, sameRow.judgeConfig]
      · rw [fields.easyConfig, sameRow.easyConfig]
    · intro language
      rw [limited language, sameLimits language]

theorem readColumn_of_read {config read : Option JudgeConfig}
    (reads : readColumn judgeConfigCodec (config.map judgeConfigCodec.encode) = .ok read) :
    read = config := by
  cases config with
  | none =>
    cases reads
    rfl
  | some config =>
    rw [Option.map_some, readColumn] at reads
    cases decoded : judgeConfigCodec.decode (judgeConfigCodec.encode config) with
    | error err => simp [decoded] at reads
    | ok back =>
      simp only [decoded, Except.ok.injEq] at reads
      rw [← reads, judgeConfig_of_read decoded]

/-- What is assembled of stored rows is made of the versions that they belong to. -/
theorem assembleProblem_made (collate : String → String → Bool)
    {limitTables testcaseTables : ProblemTables} {row limits testcases : Problem} (limited : limitTables.Holds limits)
    (tested : testcaseTables.Holds testcases)
    (assembled : assembleProblem (problemRow row)
      (limitTables.collated collate limits.problemId.value)
      (sortBy (·.caseNo.toInt) (testcaseTables.testcasesOf testcases.problemId.value)) =
        .ok problem) : MadeOf row limits testcases problem := by
  rw [assembleProblem_problemRow] at assembled
  cases column : readColumn judgeConfigCodec (row.judgeConfig.map judgeConfigCodec.encode) with
  | error e => simp [column, Except.map] at assembled
  | ok judgeConfig =>
    have config := readColumn_of_read column
    simp only [column, Except.map, Except.ok.injEq] at assembled
    subst assembled config
    refine ⟨⟨rfl, rfl, rfl, rfl, rfl, rfl, rfl, rfl⟩, limited.lookup_limits collate, ?_⟩
    have loaded := tested.loaded_testcases collate
    change (testcaseTables.loaded collate testcases).testcases.Perm _
    rw [loaded]
    exact sortBy_perm _ _

/-- A problem that is found between saves is one of the versions exactly if one version has all
that was current at the statements. -/
theorem findDetail_isVersion_iff (recorded : s.Recorded)
    (run : Exec (amongSaves collate) (findDetail problemId) (s, []) (.ok (some problem)) t) :
    (∃ version ∈ t.1.versions problemId, IsVersion version problem) ↔
      OneVersion problemId t.2 := by
  obtain ⟨atRow, atLimits, atTestcases, stored, first, second, third, rfl, found, assembled⟩ :=
    exec_findDetail.1 run
  have keeps : ∀ (u : ProblemHistory) (p : Problem) (v : ProblemHistory),
      u.Recorded → u.Save p v → v.Recorded := fun _ _ _ recorded save => recorded.save save
  have rowRecorded := first.invariant keeps recorded
  have limitsRecorded := second.invariant keeps rowRecorded
  have casesRecorded := third.invariant keeps limitsRecorded
  have known : (atRow.current problemId).isSome := by
    cases unknown : atRow.current problemId with
    | some version => rfl
    | none => simp [rowRecorded.only problemId unknown] at found
  have stays : ∀ (u : ProblemHistory) (p : Problem) (v : ProblemHistory),
      (u.current problemId).isSome → u.Save p v → (v.current problemId).isSome :=
    fun _ _ _ known save => ProblemHistory.isSome_of_save save problemId known
  obtain ⟨row, rowIs⟩ := Option.isSome_iff_exists.1 known
  obtain ⟨limits, limitsIs⟩ := Option.isSome_iff_exists.1 (second.invariant stays known)
  obtain ⟨testcases, casesAre⟩ :=
    Option.isSome_iff_exists.1 (third.invariant stays (second.invariant stays known))
  have rowHeld := (rowRecorded.held _ _ rowIs).row
  rw [ProblemHistory.problemId_of_current rowIs, found] at rowHeld
  cases rowHeld
  have made : MadeOf row limits testcases problem := by
    refine assembleProblem_made collate (limitsRecorded.held _ _ limitsIs)
      (casesRecorded.held _ _ casesAre) ?_
    rw [ProblemHistory.problemId_of_current limitsIs, ProblemHistory.problemId_of_current casesAre]
    exact assembled
  unfold OneVersion
  simp only [rowIs, limitsIs, casesAre, Option.mem_def, Option.some.injEq, forall_eq',
    made.isVersion_iff]

end Problems

section Submissions

/-- The tables, the test cases of the problems, and the events that have been applied. -/
structure SubmissionHistory where
  tables : SubmissionTables
  testcases : List ProblemTestcaseRow
  applied : List RuntimeTaskEvent

namespace SubmissionHistory

/-- An event whose transaction commits; the test cases may change at any time. -/
def Apply (s : SubmissionHistory) (event : RuntimeTaskEvent) (t : SubmissionHistory) : Prop :=
  (∃ failure, s.tables.applyRuntimeEvent event failure = (.ok (), t.tables)) ∧
    t.applied = s.applied ++ [event]

/-- The events of a submission. -/
def eventsOf (s : SubmissionHistory) (submissionId : String) : List RuntimeTaskEvent :=
  s.applied.filter (·.submissionId == some submissionId)

/-- What a submission can show: how it was created, or an event. -/
def sources (s : SubmissionHistory) (submissionId : String) : List (Option RuntimeTaskEvent) :=
  none :: (s.eventsOf submissionId).map some

end SubmissionHistory

/-- The row that an event leaves, or the one that was created. -/
def sourceRow (origin : Origin) : Option RuntimeTaskEvent → SubmissionRow
  | none => origin.row
  | some event => origin.row.project event

def sourceRecord (origin : Origin) (submissionId : String) :
    Option RuntimeTaskEvent → SubmissionRecord
  | none => (origin.detail submissionId).submission
  | some event => projectedRecord submissionId origin.row event

/-- The judge summary that is read for a source. -/
def sourceSummary (origin : Origin) (submissionId : String) (source : Option RuntimeTaskEvent) :
    Option String :=
  (source.map (·.message)).or (sourceRecord origin submissionId source).message

def outcomeCases (outcome : Option RuntimeExecutionOutcome) : List RuntimeCaseOutcome :=
  (outcome.map (·.cases)).getD []

def sourceCases (source : Option RuntimeTaskEvent) : List RuntimeCaseOutcome :=
  outcomeCases (source.bind (·.outcome))

/-- A case result as the case row has it, without the expected output that is joined to it. -/
def shownCase (item : RuntimeCaseOutcome) : SubmissionCaseResult := storedCaseResult item none

def SubmissionCaseResult.unjoined (result : SubmissionCaseResult) : SubmissionCaseResult :=
  { result with expectedOutputSnapshot := "" }

/-- Status, score, message, summary and case results of a submission are those of one source; case
results are not compared in order. -/
structure StemsFrom (origin : Origin) (submissionId : String) (source : Option RuntimeTaskEvent)
    (detail : SubmissionDetail) : Prop where
  record : detail.submission = sourceRecord origin submissionId source
  summary : detail.result.bind (·.judgeSummary) = sourceSummary origin submissionId source
  cases : ((detail.result.map fun result => result.caseResults.map (·.unjoined)).getD []).Perm
    ((sourceCases source).map shownCase)

namespace SubmissionHistory

/-- The source of the row. -/
def lastEvent (s : SubmissionHistory) (submissionId : String) : Option RuntimeTaskEvent :=
  (s.eventsOf submissionId).getLast?

/-- The source of the case rows: an event without an outcome leaves them. -/
def lastOutcome (s : SubmissionHistory) (submissionId : String) : Option RuntimeExecutionOutcome :=
  ((s.eventsOf submissionId).filterMap (·.outcome)).getLast?

/-- A submission that was created, before its first event. -/
structure Fresh (s : SubmissionHistory) (submissionId : String) (origin : Origin) : Prop where
  row : s.tables.submissions.lookup submissionId = some origin.row
  cases : s.tables.casesOf submissionId = []
  events : s.eventsOf submissionId = []

/-- The tables show the last event, and the cases of the last outcome. -/
structure Recorded (s : SubmissionHistory) (submissionId : String) (origin : Origin) : Prop where
  row : s.tables.submissions.lookup submissionId =
    some (sourceRow origin (s.lastEvent submissionId))
  cases : s.tables.casesOf submissionId =
    (outcomeCases (s.lastOutcome submissionId)).map (caseRow submissionId)

end SubmissionHistory

/-- One source has the record and the summary that were shown at the first statement, and the cases
that stood in the tables at the second. -/
def OneSource (origin : Origin) (submissionId : String) : List SubmissionHistory → Prop
  | [atRow, atCases] => ∃ source ∈ atCases.sources submissionId,
      sourceRecord origin submissionId (atRow.lastEvent submissionId) =
        sourceRecord origin submissionId source ∧
      sourceSummary origin submissionId (atRow.lastEvent submissionId) =
        sourceSummary origin submissionId source ∧
      ((outcomeCases (atCases.lastOutcome submissionId)).map shownCase).Perm
        ((sourceCases source).map shownCase)
  | _ => False

variable {s t : SubmissionHistory} {submissionId : String} {event : RuntimeTaskEvent}
  {origin : Origin}

namespace SubmissionHistory

theorem eventsOf_apply (apply : s.Apply event t) (submissionId : String) :
    t.eventsOf submissionId = s.eventsOf submissionId ++
      if event.submissionId = some submissionId then [event] else [] := by
  unfold eventsOf
  rw [apply.2, List.filter_append]
  split_ifs with own
  · simp [own]
  · simp [own]

theorem Fresh.recorded (fresh : s.Fresh submissionId origin) : s.Recorded submissionId origin where
  row := by rw [fresh.row, lastEvent, fresh.events]; rfl
  cases := by rw [fresh.cases, lastOutcome, fresh.events]; rfl

theorem lookup_update_other (tables : SubmissionTables) {id other : String} (apart : id ≠ other) :
    (tables.update other event).submissions.lookup id = tables.submissions.lookup id := by
  unfold SubmissionTables.update
  cases tables.submissions.lookup other with
  | none => rfl
  | some row => exact AList.lookup_insert_ne apart

theorem casesOf_update_other (tables : SubmissionTables) {id other : String} (apart : id ≠ other) :
    (tables.update other event).casesOf id = tables.casesOf id := by
  unfold SubmissionTables.update SubmissionTables.casesOf
  cases event.outcome with
  | none => rfl
  | some outcome =>
    have own : ∀ row ∈ outcome.cases.map (caseRow other), row.submissionId = other := by
      intro row mem
      obtain ⟨item, -, rfl⟩ := List.mem_map.1 mem
      rfl
    exact filter_replaced_other SubmissionCaseRow.submissionId tables.caseResults _ own apart

theorem tables_apply (apply : s.Apply event t) :
    t.tables = match event.submissionId with
      | none => s.tables
      | some submissionId => s.tables.update submissionId event := by
  obtain ⟨failure, applied⟩ := apply.1
  unfold SubmissionTables.applyRuntimeEvent at applied
  cases own : event.submissionId with
  | none =>
    rw [own] at applied
    exact (Prod.mk.inj applied).2.symm
  | some submissionId =>
    rw [own] at applied
    cases failure with
    | none => exact (Prod.mk.inj applied).2.symm
    | some err => cases applied

theorem project_sourceRow (origin : Origin) (source : Option RuntimeTaskEvent)
    (event : RuntimeTaskEvent) :
    (sourceRow origin source).project event = sourceRow origin (some event) := by
  cases source <;> rfl

theorem Recorded.apply (recorded : s.Recorded submissionId origin) (apply : s.Apply event t) :
    t.Recorded submissionId origin := by
  have events := eventsOf_apply apply submissionId
  have tables := tables_apply apply
  by_cases own : event.submissionId = some submissionId
  · rw [if_pos own] at events
    rw [own] at tables
    constructor
    · rw [tables, SubmissionTables.lookup_update, recorded.row, Option.map_some,
        project_sourceRow, lastEvent, events, List.getLast?_concat]
    · rw [lastOutcome, events, List.filterMap_append]
      cases result : event.outcome with
      | none =>
        have kept : (s.tables.update submissionId event).casesOf submissionId =
            s.tables.casesOf submissionId := by
          simp [SubmissionTables.casesOf, SubmissionTables.update, result]
        rw [tables, kept, recorded.cases, lastOutcome]
        simp [result]
      | some outcome =>
        rw [tables, SubmissionTables.casesOf_update _ _ result]
        simp [result, outcomeCases]
  · rw [if_neg own, List.append_nil] at events
    have kept : t.tables.submissions.lookup submissionId =
        s.tables.submissions.lookup submissionId ∧
          t.tables.casesOf submissionId = s.tables.casesOf submissionId := by
      cases other : event.submissionId with
      | none =>
        rw [other] at tables
        rw [tables]
        exact ⟨rfl, rfl⟩
      | some id =>
        rw [other] at tables own
        have apart : submissionId ≠ id := fun same => own (congrArg some same.symm)
        rw [tables]
        exact ⟨lookup_update_other s.tables apart, casesOf_update_other s.tables apart⟩
    constructor
    · rw [kept.1, recorded.row, lastEvent, lastEvent, events]
    · rw [kept.2, recorded.cases, lastOutcome, lastOutcome, events]

end SubmissionHistory

/-- The reader of a submission, between events. -/
def amongEvents : Handler (SubmissionHistory × List SubmissionHistory) SubmissionQuery
    SubmissionQuery.Answer :=
  between SubmissionHistory.Apply fun s query => s.tables.answer s.testcases query

variable {detail : SubmissionDetail} {u : SubmissionHistory × List SubmissionHistory}

/-- The rows of the cases as a state answers. -/
def SubmissionHistory.joinedCases (s : SubmissionHistory) (submissionId : String) :
    List (SubmissionCaseRow × Option String) :=
  (sortBy (·.caseNo.toInt) (s.tables.casesOf submissionId)).map fun row =>
    (row, expectedOutput s.testcases s.tables row)

/-- A submission that is found is made of the answers of two states. -/
theorem exec_findSubmission : Exec amongEvents (findSubmission submissionId) (s, [])
    (.ok (some detail)) u ↔ ∃ atRow atCases row record caseResults,
      Later SubmissionHistory.Apply s atRow ∧ Later SubmissionHistory.Apply atRow atCases ∧
      u = (atCases, [atRow, atCases]) ∧
      atRow.tables.submissions.lookup submissionId = some row ∧
      mapSubmissionRecord submissionId row = .ok record ∧
      mapCaseResults (atCases.joinedCases submissionId) = .ok caseResults ∧
      detail = storedDetail record row caseResults := by
  constructor
  · intro run
    obtain ⟨answer, atRow, first, answered, run⟩ := exec_call_answered.1 run
    rcases answer with e | _ | row
    · cases answered
    · obtain ⟨impossible, -⟩ := exec_ret.1 run
      cases impossible
    · have stored : atRow.tables.submissions.lookup submissionId = some row :=
        Except.ok.inj answered
      change Exec _ ((Prog.lift (mapSubmissionRecord submissionId row)).bind _) _ _ _ at run
      obtain ⟨record, read, run⟩ := exec_lift_bind.1 run
      obtain ⟨atCases, second, run⟩ := exec_call_between.1 run
      change Exec _ ((Prog.lift (mapCaseResults (atCases.joinedCases submissionId))).bind
        fun caseResults => .ret (some (storedDetail record row caseResults))) _ _ _ at run
      obtain ⟨caseResults, mapped, run⟩ := exec_lift_bind.1 run
      obtain ⟨same, last⟩ := exec_ret.1 run
      cases same
      exact ⟨atRow, atCases, row, record, caseResults, first, second, last, stored, read, mapped,
        rfl⟩
  · intro ⟨atRow, atCases, row, record, caseResults, first, second, last, stored, read, mapped,
      found⟩
    refine exec_call_answered.2 ⟨.ok (some row), atRow, first, congrArg Except.ok stored, ?_⟩
    change Exec _ ((Prog.lift (mapSubmissionRecord submissionId row)).bind _) _ _ _
    refine exec_lift_bind.2 ⟨record, read, ?_⟩
    refine exec_call_between.2 ⟨atCases, second, ?_⟩
    change Exec _ ((Prog.lift (mapCaseResults (atCases.joinedCases submissionId))).bind
      fun caseResults => .ret (some (storedDetail record row caseResults))) _ _ _
    exact exec_lift_bind.2 ⟨caseResults, mapped, exec_ret.2 ⟨by rw [found], last⟩⟩

theorem mapSubmissionRecord_source (origin : Origin) (submissionId : String)
    (source : Option RuntimeTaskEvent) :
    mapSubmissionRecord submissionId (sourceRow origin source) =
      .ok (sourceRecord origin submissionId source) := by
  cases source with
  | none => exact mapSubmissionRecord_origin submissionId origin
  | some event => exact mapSubmissionRecord_project submissionId origin.row event

/-- The case rows of an outcome are read as its cases, in another order. -/
theorem mapCaseResults_joined {outcome : Option RuntimeExecutionOutcome}
    {caseResults : List SubmissionCaseResult}
    (written : s.tables.casesOf submissionId = (outcomeCases outcome).map (caseRow submissionId))
    (mapped : mapCaseResults (s.joinedCases submissionId) = .ok caseResults) :
    (caseResults.map (·.unjoined)).Perm ((outcomeCases outcome).map shownCase) := by
  have sorted := map_sortBy (caseRow submissionId) (fun row => row.caseNo.toInt)
    (outcomeCases outcome)
  have rows : s.joinedCases submissionId =
      (sortBy (fun item => item.caseNo.toInt32.toInt) (outcomeCases outcome)).map fun item =>
        (caseRow submissionId item,
          expectedOutput s.testcases s.tables (caseRow submissionId item)) := by
    unfold SubmissionHistory.joinedCases
    rw [written, ← sorted, List.map_map]
    rfl
  rw [rows, mapCaseResults_caseRow] at mapped
  cases mapped
  rw [List.map_map]
  exact (sortBy_perm (fun item : RuntimeCaseOutcome => item.caseNo.toInt32.toInt) _).map shownCase

/-- A submission that is found between events stems from one source exactly if one source has all
that stood in the tables at the statements. -/
theorem findSubmission_stems_iff (recorded : s.Recorded submissionId origin)
    (run : Exec amongEvents (findSubmission submissionId) (s, []) (.ok (some detail)) u) :
    (∃ source ∈ u.1.sources submissionId, StemsFrom origin submissionId source detail) ↔
      OneSource origin submissionId u.2 := by
  obtain ⟨atRow, atCases, row, record, caseResults, first, second, rfl, stored, read, mapped,
    rfl⟩ := exec_findSubmission.1 run
  have keeps : ∀ (u : SubmissionHistory) (e : RuntimeTaskEvent) (v : SubmissionHistory),
      u.Recorded submissionId origin → u.Apply e v → v.Recorded submissionId origin :=
    fun _ _ _ recorded apply => recorded.apply apply
  have rowRecorded := first.invariant keeps recorded
  have casesRecorded := second.invariant keeps rowRecorded
  rw [rowRecorded.row] at stored
  cases stored
  rw [mapSubmissionRecord_source] at read
  cases read
  have cases := mapCaseResults_joined casesRecorded.cases mapped
  have summary : (storedDetail (sourceRecord origin submissionId (atRow.lastEvent submissionId))
      (sourceRow origin (atRow.lastEvent submissionId)) caseResults).result.bind
        (·.judgeSummary) = sourceSummary origin submissionId (atRow.lastEvent submissionId) := by
    cases atRow.lastEvent submissionId with
    | none => cases origin <;> rfl
    | some event => rfl
  constructor
  · intro ⟨source, among, stems⟩
    refine ⟨source, among, stems.record, summary.symm.trans stems.summary, ?_⟩
    exact cases.symm.trans stems.cases
  · intro ⟨source, among, sameRecord, sameSummary, sameCases⟩
    exact ⟨source, among, sameRecord, summary.trans sameSummary, cases.trans sameCases⟩

end Submissions

section Versions

theorem ProblemHistory.recorded_empty : ProblemHistory.Recorded ⟨.empty, []⟩ where
  held := by
    intro id problem current
    cases current
  only := by
    intro id _
    rfl

/-- A problem that is found is one of the versions saved, and a submission that is found stems from
one event, exactly when one version or event has all that was there at the statements. -/
theorem reads_one_version_iff (collate : String → String → Bool) :
    (∀ (trace : List (Transition ProblemHistory Problem)) (s : ProblemHistory)
        (t : ProblemHistory × List ProblemHistory) (problemId : String) (problem : Problem),
      Run ProblemHistory.Save ⟨.empty, []⟩ trace s →
      Exec (amongSaves collate) (findDetail problemId) (s, []) (.ok (some problem)) t →
      ((∃ version ∈ t.1.versions problemId, IsVersion version problem) ↔
        OneVersion problemId t.2)) ∧
    ∀ (start s : SubmissionHistory) (trace : List (Transition SubmissionHistory RuntimeTaskEvent))
        (t : SubmissionHistory × List SubmissionHistory) (submissionId : String) (origin : Origin)
        (detail : SubmissionDetail),
      start.Fresh submissionId origin → Run SubmissionHistory.Apply start trace s →
      Exec amongEvents (findSubmission submissionId) (s, []) (.ok (some detail)) t →
      ((∃ source ∈ t.1.sources submissionId, StemsFrom origin submissionId source detail) ↔
        OneSource origin submissionId t.2) := by
  constructor
  · intro trace s t problemId problem saves run
    have recorded := saves.invariant (fun _ _ _ recorded save => recorded.save save)
      ProblemHistory.recorded_empty
    exact findDetail_isVersion_iff recorded run
  · intro start s trace t submissionId origin detail fresh events run
    have keeps : ∀ (u : SubmissionHistory) (e : RuntimeTaskEvent) (v : SubmissionHistory),
        u.Recorded submissionId origin → u.Apply e v → v.Recorded submissionId origin :=
      fun _ _ _ recorded apply => recorded.apply apply
    have later : Later SubmissionHistory.Apply start s := ⟨trace, events⟩
    have recorded := later.invariant keeps fresh.recorded
    exact findSubmission_stems_iff recorded run

/-- The tables after the first problem has been saved. -/
def savedFirst (problem : Problem) : ProblemHistory := ⟨ProblemTables.empty.store problem, [problem]⟩

theorem save_first {problem : Problem} (admits : ProblemTables.empty.Admits problem) :
    ProblemHistory.Save ⟨.empty, []⟩ problem (savedFirst problem) :=
  ⟨⟨none, ProblemTables.save_eq_ok.2 ⟨rfl, admits, rfl⟩⟩, rfl⟩

def byCodePoints (a b : String) : Bool := decide (a ≤ b)

/-- The problem with another title. -/
def retitledTwoSum : Problem := { twoSum with title := "Two sum, again" }

def retitled : ProblemHistory :=
  ⟨(savedFirst twoSum).tables.store retitledTwoSum, [twoSum, retitledTwoSum]⟩

theorem save_retitled : ProblemHistory.Save (savedFirst twoSum) retitledTwoSum retitled :=
  ⟨⟨none, ProblemTables.save_eq_ok.2 ⟨rfl, by decide, rfl⟩⟩, rfl⟩

/-- What is read when the title changes after the row has been read. -/
def readTwoSum : Problem := retitled.tables.loaded byCodePoints twoSum

theorem findDetail_retitled : Exec (amongSaves byCodePoints) (findDetail "two-sum")
    (savedFirst twoSum, []) (.ok (some readTwoSum))
    (retitled, [savedFirst twoSum, retitled, retitled]) := by
  have admits : ProblemTables.empty.Admits twoSum := by decide
  have stay := Later.refl ProblemHistory.Save
  refine exec_findDetail.2 ⟨_, _, _, _, stay _, ⟨_, .step save_retitled (.done _)⟩, stay _, rfl,
    admits.holds.row, ?_⟩
  rw [assembleProblem_problemRow]
  rfl

theorem retitled_oneVersion : OneVersion "two-sum" [savedFirst twoSum, retitled, retitled] := by
  refine ⟨twoSum, List.mem_cons_self, ?_, ?_, ?_⟩
  · rintro problem ⟨⟩
    exact ⟨rfl, rfl, rfl, rfl, rfl, rfl, rfl, rfl⟩
  · rintro problem ⟨⟩
    exact fun _ => rfl
  · rintro problem ⟨⟩
    exact .refl _

/-- A submission in the tables, before the first event. -/
def pendingHistory : SubmissionHistory := ⟨pendingRow, [], []⟩

theorem pendingHistory_fresh :
    pendingHistory.Fresh "submission-1" (.queued pendingDraft) where
  row := pendingStores_created.stored
  cases := rfl
  events := rfl

/-- The submission after the event that its task is queued. -/
def queuedHistory : SubmissionHistory :=
  ⟨pendingRow.update "submission-1" (lifecycleEvent .queued "runtime task queued"), [],
    [lifecycleEvent .queued "runtime task queued"]⟩

theorem apply_queued : pendingHistory.Apply (lifecycleEvent .queued "runtime task queued")
    queuedHistory := ⟨⟨none, rfl⟩, rfl⟩

def readPending : SubmissionDetail :=
  storedDetail (pendingDetail pendingDraft "submission-1").submission (createdRow pendingDraft) []

theorem findSubmission_queued : Exec amongEvents (findSubmission "submission-1")
    (pendingHistory, []) (.ok (some readPending)) (queuedHistory, [pendingHistory, queuedHistory]) := by
  have stay := Later.refl SubmissionHistory.Apply pendingHistory
  exact exec_findSubmission.2 ⟨_, _, _, _, _, stay, ⟨_, .step apply_queued (.done _)⟩, rfl,
    pendingStores_created.stored, rfl, rfl, rfl⟩

theorem queued_oneSource :
    OneSource (.queued pendingDraft) "submission-1" [pendingHistory, queuedHistory] :=
  ⟨none, List.mem_cons_self, rfl, rfl, .refl _⟩

/-- A title is saved, and an event applied, between the statements, and what is read is the version
before. -/
theorem reads_between_one_version :
    (∃ version ∈ retitled.versions "two-sum", IsVersion version readTwoSum) ∧
    ∃ source ∈ queuedHistory.sources "submission-1",
      StemsFrom (.queued pendingDraft) "submission-1" source readPending :=
  ⟨((reads_one_version_iff byCodePoints).1 _ _ _ _ _ (.step (save_first (by decide)) (.done _))
      findDetail_retitled).2 retitled_oneVersion,
    ((reads_one_version_iff byCodePoints).2 _ _ _ _ _ _ _ pendingHistory_fresh (.done _)
      findSubmission_queued).2 queued_oneSource⟩

/-- The problem with a special judge and another test case. -/
def revisedTwoSum : Problem :=
  { twoSum with
    testcases :=
      [{ caseNo := 1, input := "2 3\n", expectedOutput := "[0, 1]\n", isSample := true, score := 100 }]
    judgeConfig := some
      { judgeMethod := .spj
        validator := none
        spj := some { language := "cpp", sourceCode := "int main() { return 0; }" }
        functionSignature := none } }

def revised : ProblemHistory :=
  ⟨(savedFirst twoSum).tables.store revisedTwoSum, [twoSum, revisedTwoSum]⟩

theorem save_revised : ProblemHistory.Save (savedFirst twoSum) revisedTwoSum revised :=
  ⟨⟨none, ProblemTables.save_eq_ok.2 ⟨rfl, by decide, rfl⟩⟩, rfl⟩

/-- What is read when the second version is saved after the row has been read. -/
def mixedTwoSum : Problem :=
  { revised.tables.loaded byCodePoints revisedTwoSum with judgeConfig := none }

/-- The second run of the submission, before its outcome. -/
def requeued : SubmissionHistory :=
  ⟨(pendingRow.update "submission-1" acceptedEvent).update "submission-1"
      (lifecycleEvent .queued "runtime task queued"), [],
    [acceptedEvent, lifecycleEvent .queued "runtime task queued"]⟩

theorem findDetail_mixed : Exec (amongSaves byCodePoints) (findDetail "two-sum")
    (savedFirst twoSum, []) (.ok (some mixedTwoSum))
    (revised, [savedFirst twoSum, revised, revised]) := by
  have admits : ProblemTables.empty.Admits twoSum := by decide
  have stay := Later.refl ProblemHistory.Save
  refine exec_findDetail.2 ⟨_, _, _, _, stay _, ⟨_, .step save_revised (.done _)⟩, stay _, rfl,
    admits.holds.row, ?_⟩
  rw [assembleProblem_problemRow]
  rfl

theorem mixed_not_oneVersion :
    ¬ OneVersion "two-sum" [savedFirst twoSum, revised, revised] := by
  intro ⟨version, mem, row, _, testcases⟩
  have versions : revised.versions "two-sum" = [twoSum, revisedTwoSum] := rfl
  rw [versions] at mem
  rcases List.mem_cons.1 mem with rfl | rest
  · have same := testcases revisedTwoSum rfl
    revert same
    decide
  · obtain rfl := List.mem_singleton.1 rest
    have same := (row twoSum rfl).judgeConfig
    revert same
    decide

/-- The cases of the accepted run under the status of the second. -/
def requeuedDetail : SubmissionDetail :=
  storedDetail
    (projectedRecord "submission-1" (createdRow pendingDraft)
      (lifecycleEvent .queued "runtime task queued"))
    ((createdRow pendingDraft).project (lifecycleEvent .queued "runtime task queued"))
    [{ shownCase
        { caseNo := 1, score := 100, status := .accepted, exitCode := some 0, durationMs := 12
          memoryUsedKb := 1024, stdoutPath := "1.out", stderrPath := "1.err"
          stdoutExcerpt := "3", stderrExcerpt := "" } with expectedOutputSnapshot := "" }]

theorem later_requeued : Later SubmissionHistory.Apply pendingHistory requeued := by
  have first : pendingHistory.Apply acceptedEvent
      ⟨pendingRow.update "submission-1" acceptedEvent, [], [acceptedEvent]⟩ :=
    ⟨⟨none, rfl⟩, rfl⟩
  have second : SubmissionHistory.Apply
      ⟨pendingRow.update "submission-1" acceptedEvent, [], [acceptedEvent]⟩
      (lifecycleEvent .queued "runtime task queued") requeued := ⟨⟨none, rfl⟩, rfl⟩
  exact ⟨_, .step first (.step second (.done _))⟩

theorem findSubmission_requeued : Exec amongEvents (findSubmission "submission-1") (requeued, [])
    (.ok (some requeuedDetail)) (requeued, [requeued, requeued]) := by
  have stay := Later.refl SubmissionHistory.Apply requeued
  refine exec_findSubmission.2 ⟨_, _, _, _, _, stay, stay, rfl, ?_, ?_, ?_, rfl⟩
  · decide +kernel
  · rfl
  · rfl

theorem requeued_not_oneSource :
    ¬ OneSource (.queued pendingDraft) "submission-1" [requeued, requeued] := by
  intro ⟨source, mem, record, _, cases⟩
  have sources : requeued.sources "submission-1" =
      [none, some acceptedEvent, some (lifecycleEvent .queued "runtime task queued")] := by
    decide +kernel
  rw [sources] at mem
  have all : ∀ source ∈ [none, some acceptedEvent,
      some (lifecycleEvent .queued "runtime task queued")],
      sourceRecord (.queued pendingDraft) "submission-1" (requeued.lastEvent "submission-1") =
        sourceRecord (.queued pendingDraft) "submission-1" source →
      ¬ ((outcomeCases (requeued.lastOutcome "submission-1")).map shownCase).Perm
        ((sourceCases source).map shownCase) := by decide +kernel
  exact all source mem record cases

/-- A save between the statements gives the new test cases without their special judge, as a valid
problem from which a job is built; and an event without an outcome leaves a queued submission with
the cases of the event before. -/
theorem parts_of_two_versions :
    (∃ trace s t, Run ProblemHistory.Save ⟨.empty, []⟩ trace s ∧
      Exec (amongSaves byCodePoints) (findDetail "two-sum") (s, []) (.ok (some mixedTwoSum)) t ∧
      validateProblem mixedTwoSum = .ok () ∧
      (buildJobDefinition [mixedTwoSum] [pendingDetail
        { problemId := ⟨"two-sum"⟩, userId := ⟨"user-1"⟩, language := "cpp"
          sourceCode := "int main() { return 0; }" } "submission-1"] "submission-1").isOk ∧
      ¬ ∃ version ∈ t.1.versions "two-sum", IsVersion version mixedTwoSum) ∧
    ∃ trace s t, Run SubmissionHistory.Apply pendingHistory trace s ∧
      Exec amongEvents (findSubmission "submission-1") (s, []) (.ok (some requeuedDetail)) t ∧
      ¬ ∃ source ∈ t.1.sources "submission-1",
        StemsFrom (.queued pendingDraft) "submission-1" source requeuedDetail := by
  constructor
  · have saves := Run.step (save_first (by decide : ProblemTables.empty.Admits twoSum))
      (Run.done (savedFirst twoSum))
    have recorded := ProblemHistory.recorded_empty.save
      (save_first (by decide : ProblemTables.empty.Admits twoSum))
    refine ⟨_, _, _, saves, findDetail_mixed, by decide +kernel, by decide +kernel, ?_⟩
    rw [findDetail_isVersion_iff recorded findDetail_mixed]
    exact mixed_not_oneVersion
  · have keeps : ∀ (u : SubmissionHistory) (e : RuntimeTaskEvent) (v : SubmissionHistory),
        u.Recorded "submission-1" (.queued pendingDraft) → u.Apply e v →
          v.Recorded "submission-1" (.queued pendingDraft) :=
      fun _ _ _ recorded apply => recorded.apply apply
    have recorded := later_requeued.invariant keeps pendingHistory_fresh.recorded
    obtain ⟨trace, events⟩ := later_requeued
    refine ⟨trace, _, _, events, findSubmission_requeued, ?_⟩
    rw [findSubmission_stems_iff recorded findSubmission_requeued]
    exact requeued_not_oneSource

end Versions

end NexusCore.Oj
