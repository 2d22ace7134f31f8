import NexusCore.Lib.Keyed
import NexusCore.Lib.Program
import NexusCore.Lib.Sorting
import NexusCore.Oj.Application
import NexusCore.Oj.ProblemConfigs

/-!
# Problem repositories

The Postgres repository keeps a problem in three tables and reads it back with three queries; the
in-memory repository keeps the problem itself. The list of supported languages has no column: it
is read from the rows of the limits.
-/

namespace NexusCore.Oj

open NexusCore.Lib

section InMemory

/-- The lock of the repository is not poisoned. -/
def InMemoryProblemRepository.save (problems : InMemoryProblemRepository) (problem : Problem) :
    InMemoryProblemRepository :=
  if problems.any (·.problemId == problem.problemId) then
    updateFirst (·.problemId == problem.problemId) (fun _ => problem) problems
  else
    problems ++ [problem]

end InMemory

section Postgres

def formatJudgeMode : JudgeMode → String
  | .acm => "acm"
  | .functional => "functional"
  | .easyJudge => "easy_judge"

def parseJudgeMode : String → AppResult JudgeMode
  | "acm" => .ok .acm
  | "functional" => .ok .functional
  | "easy_judge" => .ok .easyJudge
  | value => .error (.badRequest ("unsupported judge mode from storage: " ++ value))

def formatSandboxKind : SandboxKind → String
  | .nsjail => "nsjail"
  | .wasm => "wasm"
  | .nsjailWasm => "nsjail_wasm"

def parseSandboxKind : String → AppResult SandboxKind
  | "nsjail" => .ok .nsjail
  | "wasm" => .ok .wasm
  | "nsjail_wasm" => .ok .nsjailWasm
  | value => .error (.badRequest ("unsupported sandbox kind from storage: " ++ value))

structure ProblemRow where
  problemId : String
  title : String
  slug : String
  judgeMode : String
  sandboxKind : String
  statementMd : String
  judgeConfig : Option Json
  easyConfig : Option Json

structure ProblemLimitRow where
  problemId : String
  language : String
  timeLimitMs : Int64
  memoryLimitKb : Int64
  deriving DecidableEq, Repr

structure ProblemTestcaseRow where
  problemId : String
  caseNo : Int32
  inputData : String
  expectedOutput : String
  isSample : Bool
  score : Int32
  deriving DecidableEq, Repr

/-- The three tables, the first one by its primary key. -/
structure ProblemTables where
  problems : AList fun _ : String => ProblemRow
  limits : List ProblemLimitRow
  testcases : List ProblemTestcaseRow

def problemRow (problem : Problem) : ProblemRow where
  problemId := problem.problemId.value
  title := problem.title
  slug := problem.slug
  judgeMode := formatJudgeMode problem.judgeMode
  sandboxKind := formatSandboxKind problem.sandboxKind
  statementMd := problem.statementMd
  judgeConfig := problem.judgeConfig.map judgeConfigCodec.encode
  easyConfig := problem.easyConfig.map easyProblemConfigCodec.encode

def limitRow (problemId language : String) (limits : ProblemLimits) : ProblemLimitRow where
  problemId := problemId
  language := language
  timeLimitMs := limits.timeLimitMs.toInt64
  memoryLimitKb := limits.memoryLimitKb.toInt64

def testcaseRow (problemId : String) (testcase : Testcase) : ProblemTestcaseRow where
  problemId := problemId
  caseNo := testcase.caseNo.toInt32
  inputData := testcase.input
  expectedOutput := testcase.expectedOutput
  isSample := testcase.isSample
  score := testcase.score.toInt32

def limitRows (problem : Problem) : List ProblemLimitRow :=
  problem.limits.entries.map fun entry => limitRow problem.problemId.value entry.1 entry.2

def testcaseRows (problem : Problem) : List ProblemTestcaseRow :=
  problem.testcases.map (testcaseRow problem.problemId.value)

namespace ProblemTables

def empty : ProblemTables := { problems := ∅, limits := [], testcases := [] }

def limitsOf (tables : ProblemTables) (problemId : String) : List ProblemLimitRow :=
  tables.limits.filter (·.problemId == problemId)

def testcasesOf (tables : ProblemTables) (problemId : String) : List ProblemTestcaseRow :=
  tables.testcases.filter (·.problemId == problemId)

/-- The statements of the transaction, all of which succeed. -/
def store (tables : ProblemTables) (problem : Problem) : ProblemTables where
  problems := tables.problems.insert problem.problemId.value (problemRow problem)
  limits :=
    tables.limits.filter (·.problemId != problem.problemId.value) ++ limitRows problem
  testcases :=
    tables.testcases.filter (·.problemId != problem.problemId.value) ++ testcaseRows problem

/-- No other problem has the slug, and the primary key of the test cases is respected. -/
def Admits (tables : ProblemTables) (problem : Problem) : Prop :=
  (∀ entry ∈ tables.problems.entries,
    entry.2.slug = problem.slug → entry.1 = problem.problemId.value) ∧
  ((testcaseRows problem).map (·.caseNo)).Nodup

instance (tables : ProblemTables) (problem : Problem) : Decidable (tables.Admits problem) :=
  inferInstanceAs (Decidable (_ ∧ _))

/-- `failure` is the text of a database error at any of the statements or the commit; the
transaction is then rolled back. -/
def save (tables : ProblemTables) (problem : Problem) (failure : Option String) :
    AppResult Unit × ProblemTables :=
  match failure with
  | some err => (.error (.database err), tables)
  | none =>
    if tables.Admits problem then
      (.ok (), tables.store problem)
    else
      (.error (.database "duplicate key value violates unique constraint"), tables)

end ProblemTables

inductive ProblemQuery where
  | problem (problemId : String)
  | limits (problemId : String)
  | testcases (problemId : String)

abbrev ProblemQuery.Answer : ProblemQuery → Type
  | .problem _ => AppResult (Option ProblemRow)
  | .limits _ => AppResult (List ProblemLimitRow)
  | .testcases _ => AppResult (List ProblemTestcaseRow)

abbrev ProblemProg (α : Type) : Type := Prog ProblemQuery ProblemQuery.Answer AppError α

def mapLimits (row : ProblemLimitRow) : ProblemLimits where
  timeLimitMs := row.timeLimitMs.toUInt64
  memoryLimitKb := row.memoryLimitKb.toUInt64

def mapTestcase (row : ProblemTestcaseRow) : Testcase where
  caseNo := row.caseNo.toUInt32
  input := row.inputData
  expectedOutput := row.expectedOutput
  isSample := row.isSample
  score := row.score.toUInt32

/-- Read the value of a column that may be null. -/
def readColumn {α : Type} (codec : Codec α) : Option Json → AppResult (Option α)
  | none => .ok none
  | some value =>
    match codec.decode value with
    | .ok a => .ok (some a)
    | .error err => .error (.database err)

/-- The problem that the rows of the three queries make. -/
def assembleProblem (row : ProblemRow) (limits : List ProblemLimitRow)
    (testcases : List ProblemTestcaseRow) : AppResult Problem := do
  let judgeMode ← parseJudgeMode row.judgeMode
  let sandboxKind ← parseSandboxKind row.sandboxKind
  let judgeConfig ← readColumn judgeConfigCodec row.judgeConfig
  let easyConfig ← readColumn easyProblemConfigCodec row.easyConfig
  return {
    problemId := ⟨row.problemId⟩
    title := row.title
    slug := row.slug
    judgeMode := judgeMode
    sandboxKind := sandboxKind
    statementMd := row.statementMd
    supportedLanguages := limits.map (·.language)
    limits := limits.foldl (fun read row => read.insert row.language (mapLimits row)) ∅
    testcases := testcases.map mapTestcase
    judgeConfig := judgeConfig
    easyConfig := easyConfig }

def findDetail (problemId : String) : ProblemProg (Option Problem) := do
  match ← Prog.lift (← Prog.op (ProblemQuery.problem problemId)) with
  | none => return none
  | some row =>
    let limits ← Prog.lift (← Prog.op (ProblemQuery.limits problemId))
    let testcases ← Prog.lift (← Prog.op (ProblemQuery.testcases problemId))
    let problem ← Prog.lift (assembleProblem row limits testcases)
    return some problem

/-- What the tables answer to a query; `collate` is the order of texts in the database. -/
def ProblemTables.answer (collate : String → String → Bool) (tables : ProblemTables) :
    (query : ProblemQuery) → query.Answer
  | .problem problemId => .ok (tables.problems.lookup problemId)
  | .limits problemId => .ok ((tables.limitsOf problemId).insertionSort fun a b =>
      collate a.language b.language)
  | .testcases problemId => .ok (sortBy (·.caseNo.toInt) (tables.testcasesOf problemId))

end Postgres

section Stored

variable {tables : ProblemTables} {problem other : Problem}

/-- The rows of a problem stand in the tables. -/
structure ProblemTables.Holds (tables : ProblemTables) (problem : Problem) : Prop where
  row : tables.problems.lookup problem.problemId.value = some (problemRow problem)
  limits : tables.limitsOf problem.problemId.value = limitRows problem
  testcases : tables.testcasesOf problem.problemId.value = testcaseRows problem
  distinct : ((testcaseRows problem).map (·.caseNo)).Nodup

/-- No two problems have the same slug. -/
def ProblemTables.SlugsApart (tables : ProblemTables) : Prop :=
  ∀ a ∈ tables.problems.entries, ∀ b ∈ tables.problems.entries, a.2.slug = b.2.slug → a.1 = b.1

theorem limitRows_problemId (problem : Problem) :
    ∀ row ∈ limitRows problem, row.problemId = problem.problemId.value := by
  intro row mem
  obtain ⟨entry, -, rfl⟩ := List.mem_map.1 mem
  rfl

theorem testcaseRows_problemId (problem : Problem) :
    ∀ row ∈ testcaseRows problem, row.problemId = problem.problemId.value := by
  intro row mem
  obtain ⟨testcase, -, rfl⟩ := List.mem_map.1 mem
  rfl

theorem ProblemTables.limitsOf_store (tables : ProblemTables) (problem : Problem) :
    (tables.store problem).limitsOf problem.problemId.value = limitRows problem :=
  filter_replaced ProblemLimitRow.problemId tables.limits _ _ (limitRows_problemId problem)

theorem ProblemTables.testcasesOf_store (tables : ProblemTables) (problem : Problem) :
    (tables.store problem).testcasesOf problem.problemId.value = testcaseRows problem :=
  filter_replaced ProblemTestcaseRow.problemId tables.testcases _ _ (testcaseRows_problemId problem)

theorem ProblemTables.limitsOf_store_other (tables : ProblemTables) (problem : Problem)
    {id : String} (apart : id ≠ problem.problemId.value) :
    (tables.store problem).limitsOf id = tables.limitsOf id :=
  filter_replaced_other ProblemLimitRow.problemId tables.limits _ (limitRows_problemId problem) apart

theorem ProblemTables.testcasesOf_store_other (tables : ProblemTables) (problem : Problem)
    {id : String} (apart : id ≠ problem.problemId.value) :
    (tables.store problem).testcasesOf id = tables.testcasesOf id :=
  filter_replaced_other ProblemTestcaseRow.problemId tables.testcases _ (testcaseRows_problemId problem) apart

theorem ProblemTables.lookup_store (tables : ProblemTables) (problem : Problem) (id : String) :
    (tables.store problem).problems.lookup id =
      if id = problem.problemId.value then some (problemRow problem)
      else tables.problems.lookup id := by
  unfold store
  split_ifs with same
  · rw [same, AList.lookup_insert]
  · rw [AList.lookup_insert_ne same]

theorem ProblemTables.Admits.holds (admits : tables.Admits problem) :
    (tables.store problem).Holds problem where
  row := by rw [lookup_store, if_pos rfl]
  limits := tables.limitsOf_store problem
  testcases := tables.testcasesOf_store problem
  distinct := admits.2

theorem ProblemTables.Holds.store_other (holds : tables.Holds problem)
    (apart : problem.problemId.value ≠ other.problemId.value) :
    (tables.store other).Holds problem where
  row := by rw [lookup_store, if_neg apart, holds.row]
  limits := by rw [tables.limitsOf_store_other other apart, holds.limits]
  testcases := by rw [tables.testcasesOf_store_other other apart, holds.testcases]
  distinct := holds.distinct

theorem ProblemTables.Admits.slugsApart (admits : tables.Admits problem)
    (before : tables.SlugsApart) : (tables.store problem).SlugsApart := by
  intro a left b right same
  have split : ∀ e ∈ (tables.store problem).problems.entries,
      e = ⟨problem.problemId.value, problemRow problem⟩ ∨ e ∈ tables.problems.entries := by
    intro e mem
    unfold store at mem
    rw [AList.entries_insert] at mem
    rcases List.mem_cons.1 mem with here | rest
    · exact .inl here
    · exact .inr ((List.kerase_sublist _ _).subset rest)
  rcases split a left with rfl | old
  · rcases split b right with rfl | old'
    · rfl
    · exact (admits.1 b old' same.symm).symm
  · rcases split b right with rfl | old'
    · exact admits.1 a old same
    · exact before a old b old' same

theorem ProblemTables.save_eq_ok {failure : Option String} {next : ProblemTables} :
    tables.save problem failure = (.ok (), next) ↔
      failure = none ∧ tables.Admits problem ∧ next = tables.store problem := by
  unfold save
  cases failure with
  | some err => simp
  | none =>
    by_cases admits : tables.Admits problem
    · simp [admits, eq_comm]
    · simp [admits]

/-- Replacing the first element with a key shows the new one under that key. -/
theorem find?_replaced {α κ : Type} [DecidableEq κ] (key : α → κ) (new : α) (id : κ)
    {items : List α} (present : items.any (key · == key new)) :
    (updateFirst (key · == key new) (fun _ => new) items).find? (key · == id) =
      if id = key new then some new else items.find? (key · == id) := by
  induction items with
  | nil => simp at present
  | cons a rest ih =>
    by_cases here : key a = key new
    · by_cases same : id = key new
      · simp [updateFirst, here, same]
      · simp [updateFirst, here, same, Ne.symm same]
    · have later : rest.any (key · == key new) := by simpa [here] using present
      by_cases same : key a = id
      · have apart : id ≠ key new := same ▸ here
        simp [updateFirst, same, apart]
      · have missed : (key a == id) = false := by simpa using same
        simp only [updateFirst, beq_iff_eq, here, if_false, List.find?_cons, missed, ih later]

theorem problemId_beq (a b : ProblemId) : (a == b) = (a.value == b.value) := by
  obtain ⟨left⟩ := a
  obtain ⟨right⟩ := b
  rw [Bool.eq_iff_iff, beq_iff_eq, beq_iff_eq, ProblemId.mk.injEq]

theorem InMemoryProblemRepository.find_save (problems : InMemoryProblemRepository)
    (problem : Problem) (id : String) :
    (problems.save problem).find id =
      if id = problem.problemId.value then some problem else problems.find id := by
  unfold save find
  simp only [problemId_beq]
  split_ifs with stored here here
  · rw [find?_replaced (fun a : Problem => a.problemId.value) problem id stored, if_pos here]
  · rw [find?_replaced (fun a : Problem => a.problemId.value) problem id stored, if_neg here]
  · have absent : problems.find? (·.problemId.value == id) = none := by
      rw [List.find?_eq_none]
      intro a mem same
      exact stored (List.any_eq_true.2 ⟨a, mem, by rw [← here]; exact same⟩)
    rw [List.find?_append, absent]
    simp [here]
  · rw [List.find?_append]
    simp [Ne.symm here]

end Stored

section Loaded

variable {collate : String → String → Bool} {tables : ProblemTables} {problem : Problem}

/-- The tables as the environment of a reader that runs alone. -/
def ProblemTables.serve (collate : String → String → Bool) (tables : ProblemTables)
    (query : ProblemQuery) : query.Answer × ProblemTables :=
  (tables.answer collate query, tables)

/-- The rows of the limits in the order of the database. -/
def ProblemTables.collated (tables : ProblemTables) (collate : String → String → Bool)
    (problemId : String) : List ProblemLimitRow :=
  (tables.limitsOf problemId).insertionSort fun a b => collate a.language b.language

/-- A problem with a row is made of the rows of the three queries. -/
theorem eval_findDetail (collate : String → String → Bool) {problemId : String} {row : ProblemRow}
    (stored : tables.problems.lookup problemId = some row) :
    ((findDetail problemId).eval (ProblemTables.serve collate) tables).1 =
      (assembleProblem row (tables.collated collate problemId)
        (sortBy (·.caseNo.toInt) (tables.testcasesOf problemId))).map some := by
  change ((match tables.problems.lookup problemId with
    | none => (_ : ProblemProg (Option Problem))
    | some row => _).eval (ProblemTables.serve collate) tables).1 = _
  rw [stored]
  change (((Prog.lift (assembleProblem row (tables.collated collate problemId)
    (sortBy (·.caseNo.toInt) (tables.testcasesOf problemId)))).bind fun problem =>
      Prog.ret (some problem)).eval (ProblemTables.serve collate) tables).1 = _
  cases assembleProblem row (tables.collated collate problemId)
    (sortBy (·.caseNo.toInt) (tables.testcasesOf problemId)) with
  | error e => rfl
  | ok problem => rfl

/-- The tolerance of a judge configuration, if it has one, is a finite float. -/
def FiniteTolerance (column : Option JudgeConfig) : Prop :=
  ∀ config ∈ column, ∀ validator ∈ config.validator, isFiniteFloat validator.floatEpsilon

theorem readColumn_easyConfig (config : Option EasyProblemConfig) :
    readColumn easyProblemConfigCodec (config.map easyProblemConfigCodec.encode) =
      .ok config := by
  cases config with
  | none => rfl
  | some config =>
    have reads := easyProblemConfig_roundTrips config
    rw [Codec.RoundTrips] at reads
    rw [Option.map_some, readColumn, reads]

theorem readColumn_judgeConfig_iff (column : Option JudgeConfig) :
    readColumn judgeConfigCodec (column.map judgeConfigCodec.encode) = .ok column ↔
      FiniteTolerance column := by
  unfold FiniteTolerance
  cases column with
  | none => simp [readColumn]
  | some config =>
    have reads := judgeConfig_roundTrips_iff config
    rw [Codec.RoundTrips] at reads
    have single : (∀ c ∈ some config, ∀ validator ∈ c.validator,
        isFiniteFloat validator.floatEpsilon) ↔
          ∀ validator ∈ config.validator, isFiniteFloat validator.floatEpsilon := by
      simp only [Option.mem_def, Option.some.injEq, forall_eq']
    rw [Option.map_some, readColumn, single, ← reads]
    cases judgeConfigCodec.decode (judgeConfigCodec.encode config) with
    | error message => simp
    | ok read => simp

/-- Everything but the judge configuration is read whatever it holds. -/
theorem assembleProblem_problemRow (problem : Problem) (limits : List ProblemLimitRow)
    (testcases : List ProblemTestcaseRow) :
    assembleProblem (problemRow problem) limits testcases =
      (readColumn judgeConfigCodec (problem.judgeConfig.map judgeConfigCodec.encode)).map
        fun judgeConfig => { problem with
          supportedLanguages := limits.map (·.language)
          limits := limits.foldl (fun read row => read.insert row.language (mapLimits row)) ∅
          testcases := testcases.map mapTestcase
          judgeConfig := judgeConfig } := by
  have mode : parseJudgeMode (formatJudgeMode problem.judgeMode) = .ok problem.judgeMode := by
    cases problem.judgeMode <;> rfl
  have kind : parseSandboxKind (formatSandboxKind problem.sandboxKind) =
      .ok problem.sandboxKind := by
    cases problem.sandboxKind <;> rfl
  unfold assembleProblem
  simp only [problemRow, mode, kind, readColumn_easyConfig]
  cases readColumn judgeConfigCodec (problem.judgeConfig.map judgeConfigCodec.encode) with
  | error e => rfl
  | ok judgeConfig => rfl

/-- The problem that is read for a stored one, once its judge configuration is. -/
def ProblemTables.loaded (tables : ProblemTables) (collate : String → String → Bool)
    (problem : Problem) : Problem :=
  let limits := tables.collated collate problem.problemId.value
  let testcases := sortBy (·.caseNo.toInt) (tables.testcasesOf problem.problemId.value)
  { problem with
    supportedLanguages := limits.map (·.language)
    limits := limits.foldl (fun read row => read.insert row.language (mapLimits row)) ∅
    testcases := testcases.map mapTestcase }

/-- The stored problem is read with its judge configuration exactly when its tolerance is
finite. -/
theorem ProblemTables.Holds.found (holds : tables.Holds problem)
    (collate : String → String → Bool) {found : Problem}
    (read : ((findDetail problem.problemId.value).eval (serve collate) tables).1 =
      .ok (some found)) (same : found.judgeConfig = problem.judgeConfig) :
    found = tables.loaded collate problem ∧ FiniteTolerance problem.judgeConfig := by
  rw [eval_findDetail collate holds.row, assembleProblem_problemRow] at read
  cases column : readColumn judgeConfigCodec
    (problem.judgeConfig.map judgeConfigCodec.encode) with
  | error e => simp [column, Except.map] at read
  | ok judgeConfig =>
    simp only [column, Except.map, Except.ok.injEq, Option.some.injEq] at read
    subst read
    have config : judgeConfig = problem.judgeConfig := same
    subst config
    exact ⟨rfl, (readColumn_judgeConfig_iff _).1 column⟩

theorem ProblemTables.Holds.read (holds : tables.Holds problem)
    (collate : String → String → Bool) (finite : FiniteTolerance problem.judgeConfig) :
    ((findDetail problem.problemId.value).eval (serve collate) tables).1 =
      .ok (some (tables.loaded collate problem)) := by
  rw [eval_findDetail collate holds.row, assembleProblem_problemRow,
    (readColumn_judgeConfig_iff _).2 finite]
  rfl

theorem ProblemTables.Holds.collated_perm (holds : tables.Holds problem)
    (collate : String → String → Bool) :
    (tables.collated collate problem.problemId.value).Perm (limitRows problem) := by
  unfold collated
  rw [holds.limits]
  exact List.perm_insertionSort _ _

theorem limitRows_language (problem : Problem) :
    (limitRows problem).map (·.language) = problem.limits.keys := by
  unfold limitRows
  rw [List.map_map]
  rfl

/-- The languages that are read are those with limits. -/
theorem ProblemTables.Holds.mem_languages (holds : tables.Holds problem)
    (collate : String → String → Bool) (language : String) :
    language ∈ (tables.loaded collate problem).supportedLanguages ↔
      language ∈ problem.limits := by
  have languages := (holds.collated_perm collate).map (·.language)
  rw [limitRows_language] at languages
  exact languages.mem_iff

theorem ProblemTables.Holds.lookup_limits (holds : tables.Holds problem)
    (collate : String → String → Bool) (language : String) :
    (tables.loaded collate problem).limits.lookup language = problem.limits.lookup language := by
  have perm := holds.collated_perm collate
  have distinct : ((tables.collated collate problem.problemId.value).map (·.language)).Nodup := by
    rw [(perm.map _).nodup_iff, limitRows_language]
    exact problem.limits.nodupKeys
  apply Option.ext
  intro limits
  have read := mem_lookup_foldl_insert ProblemLimitRow.language mapLimits distinct ∅ language limits
  refine read.trans ?_
  rw [AList.lookup_empty, ← Option.mem_def, AList.mem_lookup_iff]
  constructor
  · intro found
    rcases found with ⟨row, mem, named, same⟩ | ⟨-, impossible⟩
    · obtain ⟨entry, stored, rfl⟩ := List.mem_map.1 (perm.subset mem)
      have value : mapLimits (limitRow problem.problemId.value entry.1 entry.2) = entry.2 := rfl
      rw [← named, ← same, value]
      exact stored
    · cases impossible
  · intro stored
    left
    exact ⟨limitRow problem.problemId.value language limits,
      perm.symm.subset (List.mem_map.2 ⟨⟨language, limits⟩, stored, rfl⟩), rfl, rfl⟩

end Loaded

end NexusCore.Oj
