import NexusCore.Lib.System
import NexusCore.Oj.ProblemTables

/-!
# Agreement of the problem repositories

After the same saves the two repositories return the same problem, as long as the columns keep
all of it: the languages are those with limits, the tolerance is a finite float, and the case
numbers are not split by the sign of a 32-bit integer.
-/

namespace NexusCore.Oj

open NexusCore.Lib

section Order

/-- A 32-bit number as the column of integers shows it. -/
theorem toInt_toInt32 (n : UInt32) :
    n.toInt32.toInt = if n.toNat < 2 ^ 31 then (n.toNat : Int) else n.toNat - 2 ^ 32 := by
  have bits : n.toInt32.toInt = n.toBitVec.toInt := rfl
  rw [bits, BitVec.toInt_eq_toNat_cond, UInt32.toNat_toBitVec]
  split_ifs <;> omega

/-- No case number from 2³¹ on stands beside a smaller one. -/
def OneSided (testcases : List Testcase) : Prop :=
  ∀ a ∈ testcases, ∀ b ∈ testcases, a.caseNo.toNat < 2 ^ 31 → b.caseNo.toNat < 2 ^ 31

/-- The test cases in the order of their numbers. -/
def inCaseOrder (testcases : List Testcase) : List Testcase := sortBy (·.caseNo.toNat) testcases

/-- The order of the column is that of the numbers exactly when they are on one side. -/
theorem columnOrder_iff {testcases : List Testcase}
    (distinct : (testcases.map (·.caseNo.toInt32)).Nodup) :
    sortBy (·.caseNo.toInt32.toInt) testcases = inCaseOrder testcases ↔ OneSided testcases := by
  have signed : (testcases.map (·.caseNo.toInt32.toInt)).Nodup := by
    have both := distinct.map (f := Int32.toInt) fun a b => Int32.toInt.inj
    rwa [List.map_map] at both
  have unsigned : (testcases.map (·.caseNo.toNat)).Nodup := by
    have numbers : (testcases.map (·.caseNo)).Nodup := by
      refine List.Nodup.of_map UInt32.toInt32 ?_
      rwa [List.map_map]
    have naturals := numbers.map (f := UInt32.toNat) fun a b => UInt32.toNat_inj.1
    rwa [List.map_map] at naturals
  unfold inCaseOrder
  rw [eq_comm, sortBy_eq_iff unsigned signed]
  unfold OneSided
  constructor
  · intro alike a left b right small
    by_contra large
    have above := alike a left b right (by omega)
    rw [toInt_toInt32, toInt_toInt32, if_pos small, if_neg large] at above
    have bound := b.caseNo.toNat_lt
    omega
  · intro sided a left b right up
    have one := sided a left b right
    rw [toInt_toInt32, toInt_toInt32]
    split_ifs <;> omega

end Order

section Same

/-- Two versions of a problem are the same, the languages as a set and the test cases of the second
in case order. -/
structure SameProblem (a b : Problem) : Prop where
  problemId : a.problemId = b.problemId
  title : a.title = b.title
  slug : a.slug = b.slug
  statementMd : a.statementMd = b.statementMd
  judgeMode : a.judgeMode = b.judgeMode
  sandboxKind : a.sandboxKind = b.sandboxKind
  judgeConfig : a.judgeConfig = b.judgeConfig
  easyConfig : a.easyConfig = b.easyConfig
  languages : ∀ language, language ∈ a.supportedLanguages ↔ language ∈ b.supportedLanguages
  limits : ∀ language, a.limits.lookup language = b.limits.lookup language
  testcases : a.testcases = inCaseOrder b.testcases

variable {a b : Problem}

theorem isEmpty_congr {α : Type} {left right : List α} (same : ∀ x, x ∈ left ↔ x ∈ right) :
    left.isEmpty = right.isEmpty := by
  rw [Bool.eq_iff_iff, List.isEmpty_iff, List.isEmpty_iff, List.eq_nil_iff_forall_not_mem,
    List.eq_nil_iff_forall_not_mem]
  simp only [same]

theorem SameProblem.mem_keys (same : SameProblem a b) (language : String) :
    language ∈ a.limits.keys ↔ language ∈ b.limits.keys := by
  rw [← AList.mem_keys, ← AList.mem_keys, ← AList.lookup_isSome, ← AList.lookup_isSome, same.limits]

theorem SameProblem.validateSandbox (same : SameProblem a b)
    (valid : validateSandbox b = .ok ()) : validateSandbox a = .ok () := by
  unfold Oj.validateSandbox at valid ⊢
  rw [same.sandboxKind]
  split_ifs at valid ⊢ with jailed
  · rfl
  · unfold validateWasmSandbox at valid ⊢
    rw [same.judgeMode, same.judgeConfig]
    have known : a.supportedLanguages.find? (fun language => language != "cpp" && language != "rust")
        = none ↔ b.supportedLanguages.find? (fun language => language != "cpp" &&
          language != "rust") = none := by
      simp only [List.find?_eq_none, same.languages]
    cases other : b.supportedLanguages.find? fun language =>
        language != "cpp" && language != "rust" with
    | none =>
      rw [known.2 other]
      rwa [other] at valid
    | some language =>
      simp only [other, bind_eq_ok] at valid
      obtain ⟨_, -, failed⟩ := valid
      cases failed

/-- What is the same as a valid problem is valid. -/
theorem SameProblem.valid (same : SameProblem a b) (valid : validateProblem b = .ok ()) :
    validateProblem a = .ok () := by
  have languages := isEmpty_congr same.languages
  have limits := isEmpty_congr same.mem_keys
  have testcases : a.testcases.isEmpty = b.testcases.isEmpty := by
    rw [same.testcases]
    exact isEmpty_congr fun _ => (sortBy_perm _ _).mem_iff
  have config : validateJudgeConfig a = validateJudgeConfig b := by
    rw [validateJudgeConfig, validateJudgeConfig, same.judgeConfig]
  unfold validateProblem at valid ⊢
  simp only [bind_eq_ok, ensure_eq_ok, exists_const] at valid ⊢
  rw [same.problemId, same.title, same.slug, same.judgeMode, same.easyConfig, languages, limits,
    testcases, config]
  obtain ⟨id, title, slug, spoken, limited, easy, ⟨_, sandbox, rest⟩⟩ := valid
  exact ⟨id, title, slug, spoken, limited, easy, (), same.validateSandbox sandbox, rest⟩

end Same

section Reading

variable {collate : String → String → Bool} {tables : ProblemTables} {problem : Problem}

/-- What the columns keep of a problem is all of it. -/
structure KeptWhole (problem : Problem) : Prop where
  languages : ∀ language, language ∈ problem.supportedLanguages ↔ language ∈ problem.limits
  tolerance : FiniteTolerance problem.judgeConfig
  numbers : OneSided problem.testcases

theorem ProblemTables.Holds.loaded_testcases (holds : tables.Holds problem)
    (collate : String → String → Bool) : (tables.loaded collate problem).testcases =
      sortBy (·.caseNo.toInt32.toInt) problem.testcases := by
  change (sortBy (·.caseNo.toInt) (tables.testcasesOf problem.problemId.value)).map mapTestcase = _
  rw [holds.testcases, testcaseRows, ← map_sortBy, List.map_map]
  exact List.map_id _

theorem ProblemTables.Holds.distinct_numbers (holds : tables.Holds problem) :
    (problem.testcases.map (·.caseNo.toInt32)).Nodup := by
  have distinct := holds.distinct
  rwa [testcaseRows, List.map_map] at distinct

/-- The problem that is read is the stored one exactly when the columns keep all of it. -/
theorem ProblemTables.Holds.same_iff (holds : tables.Holds problem)
    (collate : String → String → Bool) : SameProblem (tables.loaded collate problem) problem ↔
      (∀ language, language ∈ problem.supportedLanguages ↔ language ∈ problem.limits) ∧
        OneSided problem.testcases := by
  rw [← columnOrder_iff holds.distinct_numbers, ← holds.loaded_testcases collate]
  constructor
  · intro same
    refine ⟨fun language => ?_, same.testcases⟩
    rw [← same.languages, holds.mem_languages]
  · intro ⟨languages, testcases⟩
    exact
      { problemId := rfl
        title := rfl
        slug := rfl
        statementMd := rfl
        judgeMode := rfl
        sandboxKind := rfl
        judgeConfig := rfl
        easyConfig := rfl
        languages := fun language => by rw [holds.mem_languages, languages]
        limits := holds.lookup_limits collate
        testcases := testcases }

/-- The tables hold the same rows. -/
structure SameTables (t u : ProblemTables) : Prop where
  problems : ∀ id, u.problems.lookup id = t.problems.lookup id
  limits : ∀ id, (u.limitsOf id).Perm (t.limitsOf id)
  testcases : ∀ id, (u.testcasesOf id).Perm (t.testcasesOf id)

theorem ProblemTables.Holds.limitRows_perm (holds : tables.Holds problem)
    (collate : String → String → Bool) :
    (limitRows (tables.loaded collate problem)).Perm (limitRows problem) := by
  have entries : (tables.loaded collate problem).limits.entries.Perm problem.limits.entries := by
    refine List.lookup_ext (AList.nodupKeys _) (AList.nodupKeys _) ?_
    intro language limits
    have same := holds.lookup_limits collate language
    rw [AList.lookup, AList.lookup] at same
    rw [same]
  exact entries.map _

theorem ProblemTables.Holds.testcaseRows_perm (holds : tables.Holds problem)
    (collate : String → String → Bool) :
    (testcaseRows (tables.loaded collate problem)).Perm (testcaseRows problem) := by
  unfold testcaseRows
  rw [holds.loaded_testcases]
  exact (sortBy_perm _ _).map _

/-- Saving what was read is accepted, and leaves the rows as they are. -/
theorem ProblemTables.Holds.save_loaded (holds : tables.Holds problem)
    (apart : tables.SlugsApart) (collate : String → String → Bool) :
    (tables.save (tables.loaded collate problem) none).1 = .ok () ∧
      SameTables tables (tables.save (tables.loaded collate problem) none).2 := by
  have admits : tables.Admits (tables.loaded collate problem) := by
    constructor
    · intro entry mem same
      exact apart entry mem ⟨problem.problemId.value, problemRow problem⟩
        (AList.mem_lookup_iff.1 holds.row) same
    · exact (((holds.testcaseRows_perm collate).map _).nodup_iff).2 holds.distinct
  have saved := ProblemTables.save_eq_ok.2 ⟨rfl, admits, rfl⟩
  rw [saved]
  refine ⟨rfl, ?_⟩
  change SameTables tables (tables.store (tables.loaded collate problem))
  refine ⟨?_, ?_, ?_⟩
  · intro id
    rw [lookup_store]
    split_ifs with here
    · rw [here]
      exact holds.row.symm
    · rfl
  · intro id
    by_cases here : id = problem.problemId.value
    · subst here
      rw [holds.limits]
      exact (List.Perm.of_eq (tables.limitsOf_store (tables.loaded collate problem))).trans
        (holds.limitRows_perm collate)
    · exact .of_eq (tables.limitsOf_store_other (tables.loaded collate problem) here)
  · intro id
    by_cases here : id = problem.problemId.value
    · subst here
      rw [holds.testcases]
      exact (List.Perm.of_eq (tables.testcasesOf_store (tables.loaded collate problem))).trans
        (holds.testcaseRows_perm collate)
    · exact .of_eq (tables.testcasesOf_store_other (tables.loaded collate problem) here)

theorem updateFirst_same {α : Type} {test : α → Bool} {items : List α} {a : α}
    (found : items.find? test = some a) : updateFirst test (fun _ => a) items = items := by
  induction items with
  | nil => rfl
  | cons b rest ih =>
    by_cases here : test b
    · obtain rfl : b = a := by simpa [List.find?_cons, here] using found
      simp [updateFirst, here]
    · have later : rest.find? test = some a := by simpa [List.find?_cons, here] using found
      simp [updateFirst, here, ih later]

/-- Saving what is there changes nothing. -/
theorem InMemoryProblemRepository.save_found {problems : InMemoryProblemRepository}
    (found : problems.find problem.problemId.value = some problem) :
    problems.save problem = problems := by
  unfold save
  simp only [problemId_beq]
  split_ifs with stored
  · exact updateFirst_same found
  · refine absurd (List.any_eq_true.2 ⟨problem, List.mem_of_find?_eq_some found, ?_⟩) stored
    simp

end Reading

section Saves

/-- The two repositories side by side. -/
structure ProblemStores where
  tables : ProblemTables
  problems : InMemoryProblemRepository

/-- A save that succeeds in both. -/
def SaveStep (s : ProblemStores) (problem : Problem) (t : ProblemStores) : Prop :=
  ∃ failure, s.tables.save problem failure = (.ok (), t.tables) ∧
    t.problems = s.problems.save problem

/-- The tables hold what is found in memory, for every problem with a row. -/
structure ProblemStores.Mirrored (s : ProblemStores) : Prop where
  apart : s.tables.SlugsApart
  held : ∀ id, (s.tables.problems.lookup id).isSome → ∃ problem,
    problem.problemId.value = id ∧ s.problems.find id = some problem ∧ s.tables.Holds problem

theorem ProblemStores.Mirrored.step {s t : ProblemStores} {problem : Problem}
    (mirrored : s.Mirrored) (step : SaveStep s problem t) : t.Mirrored := by
  obtain ⟨tables, problems⟩ := t
  obtain ⟨failure, saved, rfl⟩ := step
  obtain ⟨-, admits, rfl⟩ := ProblemTables.save_eq_ok.1 saved
  refine ⟨admits.slugsApart mirrored.apart, ?_⟩
  intro id stored
  by_cases here : id = problem.problemId.value
  · refine ⟨problem, here.symm, ?_, admits.holds⟩
    rw [InMemoryProblemRepository.find_save, if_pos here]
  · rw [ProblemTables.lookup_store, if_neg here] at stored
    obtain ⟨held, rfl, found, holds⟩ := mirrored.held id stored
    refine ⟨held, rfl, ?_, holds.store_other here⟩
    rw [InMemoryProblemRepository.find_save, if_neg here, found]

/-- The problem read from the tables is the one in memory, it is valid, and saving what was read
changes nothing in either repository. -/
def Agree (collate : String → String → Bool) (s : ProblemStores) (problemId : String) : Prop :=
  ∃ inMemory loaded, s.problems.find problemId = some inMemory ∧
    ((findDetail problemId).eval (ProblemTables.serve collate) s.tables).1 = .ok (some loaded) ∧
    SameProblem loaded inMemory ∧ validateProblem loaded = .ok () ∧
    (s.tables.save loaded none).1 = .ok () ∧
    SameTables s.tables (s.tables.save loaded none).2 ∧ s.problems.save inMemory = s.problems

/-- The rows of a problem decide whether it is read back whole. -/
theorem agree_iff (collate : String → String → Bool) {s : ProblemStores} {problem : Problem}
    (apart : s.tables.SlugsApart) (holds : s.tables.Holds problem)
    (current : s.problems.find problem.problemId.value = some problem)
    (valid : validateProblem problem = .ok ()) :
    Agree collate s problem.problemId.value ↔ KeptWhole problem := by
  constructor
  · intro ⟨inMemory, loaded, there, read, same, _⟩
    obtain rfl : inMemory = problem := Option.some.inj (there.symm.trans current)
    obtain ⟨rfl, tolerance⟩ := holds.found collate read same.judgeConfig
    obtain ⟨languages, numbers⟩ := (holds.same_iff collate).1 same
    exact ⟨languages, tolerance, numbers⟩
  · intro whole
    have same := (holds.same_iff collate).2 ⟨whole.languages, whole.numbers⟩
    obtain ⟨accepted, unchanged⟩ := holds.save_loaded apart collate
    exact ⟨problem, _, current, holds.read collate whole.tolerance, same, same.valid valid,
      accepted, unchanged, InMemoryProblemRepository.save_found current⟩

end Saves

end NexusCore.Oj
