import NexusCore.Runtime.Prepare

/-!
# The files of a prepared task

Preparation writes the input and the expected answer of each test case to files in the
case's own directory. The files of different cases have different names, and nothing that is
written later has the name of one of them, so that when the preparation ends, each of these
files holds what its test case says.
-/

namespace NexusCore.Runtime

open NexusCore.Lib

/-- What a file system does: a granted write leaves the content in the file, and no request
changes another file. A refused write may leave anything in its own file. -/
structure FileSystem {σ : Type} (H : Handler σ FsCmd (fun _ => Bool))
    (disk : σ → String → Option String) : Prop where
  written : ∀ s path content t, H s (.write path content) true t → disk t path = some content
  other : ∀ s path content answer t, H s (.write path content) answer t →
    ∀ file, file ≠ path → disk t file = disk s file
  directory : ∀ s path answer t, H s (.createDirAll path) answer t → ∀ file, disk t file = disk s file

/-- A request that does not write to a file. -/
def FsCmd.Spares (file : String) : FsCmd → Prop
  | .createDirAll _ => True
  | .write path _ => file ≠ path

/-- What a program that writes only to other files leaves of a file. -/
theorem FileSystem.frame {σ α : Type} {H : Handler σ FsCmd (fun _ => Bool)}
    {disk : σ → String → Option String} (fs : FileSystem H disk) {file : String} {p : FsProg α}
    (spares : p.Issues (FsCmd.Spares file)) {s t : σ} {o : Except AppError α}
    (run : Exec H p s o t) : disk t file = disk s file := by
  induction run with
  | ret a s => rfl
  | fail e s => rfl
  | @call c k s u t r o step rest ih =>
    cases spares with
    | call issued later =>
      rw [ih (later r)]
      cases c with
      | createDirAll path => exact fs.directory s path r u step file
      | write path content => exact fs.other s path content r u step file issued

namespace RuntimeWorker

section CasePaths

variable {workDir : String} {x y : RuntimeTestcase}

/-- The directory of a case is named after its number and has no separator at its end. -/
theorem caseDir_directory (workDir : String) : ∃ front, ∀ testcase,
    (caseDir workDir testcase).directory = front ++ Text.padded 3 testcase.caseNo.toNat ∧
    (caseDir workDir testcase).directory.toList.getLast? ≠ some '/' := by
  obtain ⟨front, joined⟩ := Path.join_relative (Path.join workDir "cases")
  refine ⟨front ++ "case_", fun testcase => ?_⟩
  have directory : (caseDir workDir testcase).directory =
      front ++ "case_" ++ Text.padded 3 testcase.caseNo.toNat := by
    rw [String.append_assoc]
    exact joined _ (by simp [Path.isAbsolute])
  refine ⟨directory, ?_⟩
  intro slash
  rw [directory, String.toList_append, List.getLast?_append] at slash
  cases last : (Text.padded 3 testcase.caseNo.toNat).toList.getLast? with
  | none => simp [last] at slash
  | some c =>
    have digit := Text.getLast?_padded 3 _ c last
    obtain rfl : c = '/' := by simpa [last] using slash
    simp at digit

theorem caseDir_path {name : String} (relative : Path.isAbsolute name = false) :
    Path.join (caseDir workDir x).directory name =
      (caseDir workDir x).directory ++ "/" ++ name := by
  obtain ⟨front, named⟩ := caseDir_directory workDir
  exact Path.join_of_getLast? (named x).2 relative

theorem inputPath_eq : (caseDir workDir x).inputPath =
    (caseDir workDir x).directory ++ "/" ++ "input.txt" := by
  rw [← caseDir_path (by decide), caseDir]

theorem answerPath_eq : (caseDir workDir x).answerPath =
    (caseDir workDir x).directory ++ "/" ++ "answer.txt" := by
  rw [← caseDir_path (by decide), caseDir]

theorem outputPath_eq : (caseDir workDir x).outputPath =
    (caseDir workDir x).directory ++ "/" ++ "output.txt" := by
  rw [← caseDir_path (by decide), caseDir]

theorem stderrPath_eq : (caseDir workDir x).stderrPath =
    (caseDir workDir x).directory ++ "/" ++ "err.txt" := by
  rw [← caseDir_path (by decide), caseDir]

/-- Cases with different numbers have different directories. -/
theorem directory_injective
    (same : (caseDir workDir x).directory = (caseDir workDir y).directory) :
    x.caseNo = y.caseNo := by
  obtain ⟨front, named⟩ := caseDir_directory workDir
  rw [(named x).1, (named y).1, String.append_right_inj] at same
  exact UInt32.toNat.inj (Text.padded_injective 3 same)

/-- Cases with different numbers have different answer files. -/
theorem answerPath_injective
    (same : (caseDir workDir x).answerPath = (caseDir workDir y).answerPath) :
    x.caseNo = y.caseNo := by
  rw [answerPath_eq, answerPath_eq] at same
  exact directory_injective (Text.append_slash_inj (by decide) (by decide) same).1

/-- Files with different names in the directories of cases are different. -/
theorem caseFile_ne {name name' : String} (plain : '/' ∉ name.toList) (plain' : '/' ∉ name'.toList)
    (other : name ≠ name') :
    (caseDir workDir x).directory ++ "/" ++ name ≠ (caseDir workDir y).directory ++ "/" ++ name' :=
  fun same => other (Text.append_slash_inj plain plain' same).2

theorem outputPath_ne_answerPath :
    (caseDir workDir x).outputPath ≠ (caseDir workDir y).answerPath := by
  rw [outputPath_eq, answerPath_eq]
  exact caseFile_ne (by decide) (by decide) (by decide)

theorem stderrPath_ne_answerPath :
    (caseDir workDir x).stderrPath ≠ (caseDir workDir y).answerPath := by
  rw [stderrPath_eq, answerPath_eq]
  exact caseFile_ne (by decide) (by decide) (by decide)

end CasePaths

/-- The names of the files of a case that its judging reads. -/
def IsCaseFile (name : String) : Prop := name = "input.txt" ∨ name = "answer.txt"

section Writes

variable {w : RuntimeWorker} {workDir name : String} {testcase : RuntimeTestcase}

theorem IsCaseFile.plain (is_file : IsCaseFile name) : '/' ∉ name.toList := by
  rcases is_file with rfl | rfl <;> decide

theorem issues_require {P : FsCmd → Prop} {c : FsCmd} (issued : P c) :
    (FsProg.require c).Issues P := by
  refine .call issued fun r => ?_
  cases r
  · exact .fail
  · exact .ret

theorem createDirAll_spares (file path : String) :
    (FsProg.createDirAll path).Issues (FsCmd.Spares file) := by
  apply issues_require
  trivial

theorem write_spares {file path content : String} (other : file ≠ path) :
    (FsProg.write path content).Issues (FsCmd.Spares file) := by
  apply issues_require
  exact other

/-- A file that is not one of the case's own is spared by the preparation of the case. -/
theorem prepareTestcaseDir_spares {file : String}
    (input : file ≠ (caseDir workDir testcase).inputPath)
    (answer : file ≠ (caseDir workDir testcase).answerPath)
    (output : file ≠ (caseDir workDir testcase).outputPath)
    (stderr : file ≠ (caseDir workDir testcase).stderrPath) :
    (prepareTestcaseDir workDir testcase).Issues (FsCmd.Spares file) := by
  simp only [prepareTestcaseDir, Prog.bind_def]
  refine (createDirAll_spares file _).bind fun _ => ?_
  refine (write_spares input).bind fun _ => ?_
  refine (write_spares answer).bind fun _ => ?_
  refine (write_spares output).bind fun _ => ?_
  exact (write_spares stderr).bind fun _ => .ret

/-- The preparation of a case spares the files of the cases with other numbers. -/
theorem prepareTestcaseDir_spares_other {x : RuntimeTestcase} (is_file : IsCaseFile name)
    (other : x.caseNo ≠ testcase.caseNo) : (prepareTestcaseDir workDir testcase).Issues
      (FsCmd.Spares ((caseDir workDir x).directory ++ "/" ++ name)) := by
  have apart : ∀ own : String, '/' ∉ own.toList →
      (caseDir workDir x).directory ++ "/" ++ name ≠
        (caseDir workDir testcase).directory ++ "/" ++ own := by
    intro own plain same
    exact other (directory_injective (Text.append_slash_inj is_file.plain plain same).1)
  apply prepareTestcaseDir_spares
  · rw [inputPath_eq]
    exact apart _ (by decide)
  · rw [answerPath_eq]
    exact apart _ (by decide)
  · rw [outputPath_eq]
    exact apart _ (by decide)
  · rw [stderrPath_eq]
    exact apart _ (by decide)

theorem prepareTestcaseDirs_spares {x : RuntimeTestcase} (is_file : IsCaseFile name)
    {testcases : List RuntimeTestcase} (other : ∀ y ∈ testcases, x.caseNo ≠ y.caseNo) :
    (prepareTestcaseDirs workDir testcases).Issues
      (FsCmd.Spares ((caseDir workDir x).directory ++ "/" ++ name)) := by
  induction testcases with
  | nil => exact .ret
  | cons y rest ih =>
    rw [List.forall_mem_cons] at other
    simp only [prepareTestcaseDirs, Prog.bind_def]
    refine (prepareTestcaseDir_spares_other is_file other.1).bind fun _ => ?_
    exact (ih other.2).bind fun _ => .ret

/-- A file of the execution's own directory, with a name that ends in another way. -/
theorem join_ne_caseFile (is_file : IsCaseFile name) {part : String}
    (relative : Path.isAbsolute part = false) (plain : '/' ∉ part.toList) (other : name ≠ part) :
    (caseDir workDir testcase).directory ++ "/" ++ name ≠ Path.join workDir part := by
  obtain ⟨front, joined⟩ := Path.join_file workDir
  rw [joined part relative]
  intro same
  exact other (Text.append_slash_inj is_file.plain plain same).2

/-- The source of a special judge is stored under a name of its own. -/
theorem buildSpjExecutionSpec_sourceFilename {host : Host} {spj : RuntimeSpjConfig}
    {spec : SpjExecutionSpec} (built : buildSpjExecutionSpec host spj = .ok spec) :
    spec.sourceFilename = "spj.py" ∨ spec.sourceFilename = "spj.rs" ∨
      spec.sourceFilename = "spj.cpp" := by
  unfold buildSpjExecutionSpec at built
  split_ifs at built <;> cases built
  · exact .inl rfl
  · exact .inr (.inl rfl)
  · exact .inr (.inr rfl)

theorem buildSpjArtifacts_spares (is_file : IsCaseFile name) (config : Option RuntimeJudgeConfig) :
    (w.buildSpjArtifacts workDir config).Issues
      (FsCmd.Spares ((caseDir workDir testcase).directory ++ "/" ++ name)) := by
  rcases config with _ | ⟨_ | _, validator, _ | spj, functionSignature⟩
  · exact .ret
  · exact .ret
  · exact .ret
  · exact .fail
  · simp only [buildSpjArtifacts, Prog.bind_def]
    cases built : buildSpjExecutionSpec w.host spj with
    | error e => exact .fail
    | ok spec =>
      rw [Prog.lift_ok, Prog.ret_bind]
      refine (write_spares ?_).bind fun _ => .ret
      have named := buildSpjExecutionSpec_sourceFilename built
      apply join_ne_caseFile is_file
      · rcases named with same | same | same <;> rw [same] <;> decide
      · rcases named with same | same | same <;> rw [same] <;> decide
      · rcases is_file with rfl | rfl <;> rcases named with same | same | same <;> rw [same] <;> decide

end Writes

section Prepared

variable {σ : Type} {H : Handler σ FsCmd (fun _ => Bool)} {disk : σ → String → Option String}
  {w : RuntimeWorker} {workDir : String} {s t : σ}

/-- A granted request was issued and answered. -/
theorem exec_require {α : Type} {c : FsCmd} {f : Unit → FsProg α} {a : α} :
    Exec H ((FsProg.require c).bind f) s (.ok a) t ↔ ∃ u, H s c true u ∧ Exec H (f ()) u (.ok a) t := by
  unfold FsProg.require
  rw [Prog.bind_assoc, Prog.op_bind, exec_call]
  constructor
  · rintro ⟨r, u, step, rest⟩
    cases r
    · cases rest
    · exact ⟨u, step, rest⟩
  · rintro ⟨u, step, rest⟩
    exact ⟨true, u, step, rest⟩

/-- The files that the judging of a case reads hold what the test case says. -/
structure HoldsCase (disk : σ → String → Option String) (workDir : String) (s : σ)
    (testcase : RuntimeTestcase) : Prop where
  input : disk s (caseDir workDir testcase).inputPath = some testcase.input
  answer : disk s (caseDir workDir testcase).answerPath = some testcase.expectedOutput

/-- A program that writes to none of the two files keeps what they hold. -/
theorem HoldsCase.frame {α : Type} {p : FsProg α} {o : Except AppError α}
    {testcase : RuntimeTestcase} (fs : FileSystem H disk)
    (spares : ∀ name, IsCaseFile name →
      p.Issues (FsCmd.Spares ((caseDir workDir testcase).directory ++ "/" ++ name)))
    (holds : HoldsCase disk workDir s testcase) (run : Exec H p s o t) :
    HoldsCase disk workDir t testcase := by
  constructor
  · rw [inputPath_eq, fs.frame (spares _ (.inl rfl)) run, ← inputPath_eq]
    exact holds.input
  · rw [answerPath_eq, fs.frame (spares _ (.inr rfl)) run, ← answerPath_eq]
    exact holds.answer

theorem prepareTestcaseDir_holds {testcase : RuntimeTestcase} {dir : PreparedRuntimeCaseDir}
    (fs : FileSystem H disk)
    (run : Exec H (prepareTestcaseDir workDir testcase) s (.ok dir) t) :
    HoldsCase disk workDir t testcase := by
  simp only [prepareTestcaseDir, Prog.bind_def, FsProg.createDirAll, FsProg.write,
    exec_require] at run
  obtain ⟨u₁, -, u₂, input, u₃, answer, u₄, output, u₅, stderr, done⟩ := run
  obtain ⟨-, rfl⟩ := exec_ret.1 done
  have apart : ∀ own : String, '/' ∉ own.toList → "input.txt" ≠ own →
      (caseDir workDir testcase).inputPath ≠ (caseDir workDir testcase).directory ++ "/" ++ own := by
    intro own plain other
    rw [inputPath_eq]
    exact caseFile_ne (by decide) plain other
  have inputAnswer := answerPath_eq ▸ apart "answer.txt" (by decide) (by decide)
  have inputOutput := outputPath_eq ▸ apart "output.txt" (by decide) (by decide)
  have inputStderr := stderrPath_eq ▸ apart "err.txt" (by decide) (by decide)
  constructor
  · calc disk t (caseDir workDir testcase).inputPath
        = disk u₄ (caseDir workDir testcase).inputPath := fs.other _ _ _ _ _ stderr _ inputStderr
      _ = disk u₃ (caseDir workDir testcase).inputPath := fs.other _ _ _ _ _ output _ inputOutput
      _ = disk u₂ (caseDir workDir testcase).inputPath := fs.other _ _ _ _ _ answer _ inputAnswer
      _ = some testcase.input := fs.written _ _ _ _ input
  · calc disk t (caseDir workDir testcase).answerPath
        = disk u₄ (caseDir workDir testcase).answerPath :=
          fs.other _ _ _ _ _ stderr _ stderrPath_ne_answerPath.symm
      _ = disk u₃ (caseDir workDir testcase).answerPath :=
          fs.other _ _ _ _ _ output _ outputPath_ne_answerPath.symm
      _ = some testcase.expectedOutput := fs.written _ _ _ _ answer

/-- Preparing the cases in turn leaves the files of every one of them. -/
theorem prepareTestcaseDirs_holds (fs : FileSystem H disk) {testcases : List RuntimeTestcase}
    (distinct : (testcases.map (·.caseNo)).Nodup) {dirs : List PreparedRuntimeCaseDir}
    (run : Exec H (prepareTestcaseDirs workDir testcases) s (.ok dirs) t) :
    ∀ testcase ∈ testcases, HoldsCase disk workDir t testcase := by
  induction testcases generalizing s dirs with
  | nil => simp
  | cons testcase rest ih =>
    simp only [List.map_cons, List.nodup_cons] at distinct
    simp only [prepareTestcaseDirs, Prog.bind_def] at run
    rcases exec_bind.1 run with ⟨dir, u, first, later⟩ | ⟨e, -, same⟩
    · rcases exec_bind.1 later with ⟨dirs, v, others, done⟩ | ⟨e, -, same⟩
      · obtain ⟨-, rfl⟩ := exec_ret.1 done
        rw [List.forall_mem_cons]
        refine ⟨?_, ih distinct.2 others⟩
        apply (prepareTestcaseDir_holds fs first).frame fs _ others
        intro name is_file
        apply prepareTestcaseDirs_spares is_file
        intro y mem same
        exact distinct.1 (same ▸ List.mem_map_of_mem mem)
      · cases same
    · cases same

/-- What is written after the cases, the source of a special judge and the manifest, spares
the files of the cases. -/
theorem HoldsCase.finish {testcase : RuntimeTestcase} {u v : σ} {content : String}
    {config : Option RuntimeJudgeConfig} {spj : Option PreparedSpjArtifacts} (fs : FileSystem H disk)
    (holds : HoldsCase disk workDir s testcase)
    (judge : Exec H (w.buildSpjArtifacts workDir config) s (.ok spj) u)
    (manifest : H u (.write (Path.join workDir "manifest.json") content) true v) :
    HoldsCase disk workDir v testcase := by
  have judged : HoldsCase disk workDir u testcase :=
    holds.frame fs (fun name is_file => buildSpjArtifacts_spares is_file config) judge
  have spared : ∀ name, IsCaseFile name →
      (caseDir workDir testcase).directory ++ "/" ++ name ≠ Path.join workDir "manifest.json" := by
    intro name is_file
    apply join_ne_caseFile is_file (by decide) (by decide)
    rcases is_file with rfl | rfl <;> decide
  constructor
  · rw [fs.other _ _ _ _ _ manifest _ (inputPath_eq ▸ spared _ (.inl rfl))]
    exact judged.input
  · rw [fs.other _ _ _ _ _ manifest _ (answerPath_eq ▸ spared _ (.inr rfl))]
    exact judged.answer

theorem artifacts_workDir (executionId taskId : String) (payload : OjJudgeTask)
    (plan : RuntimeExecutionPlan) (cases : List PreparedRuntimeCaseDir)
    (spj : Option PreparedSpjArtifacts) :
    (w.artifacts executionId taskId payload plan cases spj).workDir =
      Path.join w.workRoot executionId := rfl

/-- When a task has been prepared, the files of its cases hold what it says. -/
theorem prepareOjTask_holds (fs : FileSystem H disk) {ulid taskId : String} {payload : OjJudgeTask}
    {a : PreparedRuntimeArtifacts} (distinct : (payload.testcases.map (·.caseNo)).Nodup)
    (run : Exec H (w.prepareOjTask ulid taskId payload) s (.ok a) t) :
    ∀ testcase ∈ payload.testcases, HoldsCase disk a.workDir t testcase := by
  simp only [prepareOjTask, Prog.bind_def] at run
  rcases exec_bind.1 run with ⟨_, u, -, run⟩ | ⟨e, -, failed⟩
  · cases resolved : w.host.resolve payload.language with
    | none => simp [resolved] at run
    | some toolchain =>
      simp only [resolved] at run
      rcases exec_bind.1 run with ⟨plan, u, -, run⟩ | ⟨e, -, failed⟩
      · simp only [FsProg.createDirAll, FsProg.write, exec_require] at run
        obtain ⟨u₁, -, u₂, -, run⟩ := run
        rcases exec_bind.1 run with ⟨dirs, u₃, cases, run⟩ | ⟨e, -, failed⟩
        · rcases exec_bind.1 run with ⟨spj, u₄, judge, run⟩ | ⟨e, -, failed⟩
          · obtain ⟨u₅, manifest, done⟩ := exec_require.1 run
            obtain ⟨same, rfl⟩ := exec_ret.1 done
            obtain rfl := Except.ok.inj same
            intro testcase mem
            rw [artifacts_workDir]
            exact (prepareTestcaseDirs_holds fs distinct cases testcase mem).finish fs judge manifest
          · cases failed
        · cases failed
      · cases failed
  · cases failed

end Prepared

end RuntimeWorker

end NexusCore.Runtime
