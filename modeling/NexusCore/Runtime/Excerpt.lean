import NexusCore.Lib.Slices
import NexusCore.Runtime.Execute

/-!
# Excerpts of what a process wrote

The excerpt of a long file is cut out at byte offsets that are a fixed distance away from a marker
or from the ends of the text. Where a character lies across one of the offsets the worker panics;
everywhere else the excerpt is short.
-/

namespace NexusCore.Runtime

open NexusCore.Lib

/-- The first marker that occurs in a text, and where it does. -/
def firstMarker (trimmed : String) : Option (String × Nat) :=
  excerptMarkers.findSome? fun marker =>
    (Text.find marker trimmed).map fun index => (marker, index)

/-- The byte offsets at which the excerpt of a text is cut. -/
def excerptCuts (trimmed : String) : List Nat :=
  if trimmed.utf8ByteSize ≤ 400 then []
  else match firstMarker trimmed with
    | some (marker, index) =>
      [index - 180, min (index + marker.utf8ByteSize + 180) trimmed.utf8ByteSize]
    | none => [200, trimmed.utf8ByteSize - 200]

/-- No character of the trimmed text lies across an offset at which its excerpt is cut. -/
def CutsCleanly (content : String) : Prop :=
  ∀ n ∈ excerptCuts (Text.trim content), ¬ Text.Straddles (Text.trim content).toList n

section Excerpt

variable {content excerpt trimmed marker : String} {index : Nat}

theorem firstMarker_spec (found : firstMarker trimmed = some (marker, index)) :
    marker.utf8ByteSize ≤ 23 ∧ index + marker.utf8ByteSize ≤ trimmed.utf8ByteSize := by
  obtain ⟨front, listed, there⟩ := List.exists_of_findSome?_eq_some found
  obtain ⟨at_, occurs, pair⟩ := Option.map_eq_some_iff.1 there
  cases pair
  refine ⟨?_, Text.find_spec occurs⟩
  have short : ∀ text ∈ excerptMarkers, text.utf8ByteSize ≤ 23 := by decide
  exact short _ listed

/-- There is no character behind the end of a text. -/
theorem not_straddles_size (text : String) : ¬ Text.Straddles text.toList text.utf8ByteSize := by
  rintro ⟨front, c, rest, same, -, after⟩
  rw [← Text.byteSize_toList, same, Text.byteSize_append, Text.byteSize_cons] at after
  omega

theorem readExcerpt_short (short : (Text.trim content).utf8ByteSize ≤ 400) :
    readExcerpt (some content) = some (Text.trim content) := by
  simp only [readExcerpt, short, if_true]

/-- Around the first marker. -/
theorem readExcerpt_marked (long : ¬ (Text.trim content).utf8ByteSize ≤ 400)
    (found : firstMarker (Text.trim content) = some (marker, index)) :
    readExcerpt (some content) = (Text.slice (Text.trim content) (index - 180)
      (min (index + marker.utf8ByteSize + 180) (Text.trim content).utf8ByteSize)).map fun snippet =>
        if index - 180 > 0 ∨ min (index + marker.utf8ByteSize + 180)
            (Text.trim content).utf8ByteSize < (Text.trim content).utf8ByteSize then
          "..." ++ snippet ++ "..."
        else snippet := by
  rw [firstMarker] at found
  simp only [readExcerpt, long, if_false, found]

/-- The beginning and the end. -/
theorem readExcerpt_plain (long : ¬ (Text.trim content).utf8ByteSize ≤ 400)
    (found : firstMarker (Text.trim content) = none) :
    readExcerpt (some content) = do
      let head ← Text.slice (Text.trim content) 0 200
      let tail ← Text.slice (Text.trim content) ((Text.trim content).utf8ByteSize - 200)
        (Text.trim content).utf8ByteSize
      return head ++ "\n...\n" ++ tail := by
  rw [firstMarker] at found
  simp only [readExcerpt, long, if_false, found]

theorem readExcerpt_isSome : (readExcerpt (some content)).isSome ↔ CutsCleanly content := by
  have ending := not_straddles_size (Text.trim content)
  rw [CutsCleanly, excerptCuts]
  by_cases short : (Text.trim content).utf8ByteSize ≤ 400
  · rw [readExcerpt_short short, if_pos short]
    simp
  · rw [if_neg short]
    cases found : firstMarker (Text.trim content) with
    | some first =>
      obtain ⟨marker, index⟩ := first
      have inside := (firstMarker_spec found).2
      rw [readExcerpt_marked short found, Option.isSome_map, Text.slice_isSome]
      simp only [List.forall_mem_cons, List.not_mem_nil, false_imp_iff, implies_true, and_true]
      constructor
      · rintro ⟨-, -, start, stop⟩
        exact ⟨start, stop⟩
      · rintro ⟨start, stop⟩
        exact ⟨by omega, by omega, start, stop⟩
    | none =>
      have both : ∀ head tail : Option String, (do
          let first ← head
          let last ← tail
          return first ++ "\n...\n" ++ last : Option String).isSome ↔ head.isSome ∧ tail.isSome := by
        intro head tail
        cases head with
        | none => simp
        | some first => cases tail <;> simp
      rw [readExcerpt_plain short found, both, Text.slice_isSome, Text.slice_isSome]
      have beginning := Text.not_straddles_zero (Text.trim content).toList
      simp only [List.forall_mem_cons, List.not_mem_nil, false_imp_iff, implies_true, and_true]
      constructor
      · rintro ⟨⟨-, -, -, first⟩, -, -, last, -⟩
        exact ⟨first, last⟩
      · rintro ⟨first, last⟩
        exact ⟨⟨by omega, by omega, beginning, first⟩, by omega, le_rfl, last, ending⟩

/-- An excerpt has at most 405 bytes. -/
theorem readExcerpt_size {file : Option String} (cut : readExcerpt file = some excerpt) :
    excerpt.utf8ByteSize ≤ 405 := by
  cases file with
  | none =>
    cases cut
    simp
  | some content =>
    by_cases short : (Text.trim content).utf8ByteSize ≤ 400
    · rw [readExcerpt_short short] at cut
      cases cut
      omega
    · cases found : firstMarker (Text.trim content) with
      | some first =>
        obtain ⟨marker, index⟩ := first
        obtain ⟨width, -⟩ := firstMarker_spec found
        rw [readExcerpt_marked short found] at cut
        obtain ⟨snippet, sliced, rfl⟩ := Option.map_eq_some_iff.1 cut
        have size := Text.slice_utf8ByteSize sliced
        have dots : "...".utf8ByteSize = 3 := by decide
        split_ifs
        · rw [String.utf8ByteSize_append, String.utf8ByteSize_append, dots]
          omega
        · omega
      | none =>
        rw [readExcerpt_plain short found] at cut
        obtain ⟨head, first, rest⟩ := Option.bind_eq_some_iff.1 cut
        obtain ⟨tail, last, same⟩ := Option.bind_eq_some_iff.1 rest
        cases same
        have size := Text.slice_utf8ByteSize first
        have size' := Text.slice_utf8ByteSize last
        have dots : "\n...\n".utf8ByteSize = 5 := by decide
        rw [String.utf8ByteSize_append, String.utf8ByteSize_append, dots]
        omega

end Excerpt

section Stages

variable {std : Stdlib} {env : ExecutionEnv} {stage : RuntimePreparedStage}

/-- No character of a file lies across a cut of its excerpt; a file that cannot be read has none. -/
def FileCutsCleanly (file : Option String) : Prop := ∀ content, file = some content → CutsCleanly content

theorem readExcerpt_isSome_file {file : Option String} :
    (readExcerpt file).isSome ↔ FileCutsCleanly file := by
  cases file with
  | none => simp [readExcerpt, FileCutsCleanly]
  | some content => simp [readExcerpt_isSome, FileCutsCleanly]

theorem reportFailure_ne_panicked {α : Type} {doing : String} {x : Except String α} :
    reportFailure doing x ≠ .error .panicked := by
  cases x <;> simp [reportFailure]

/-- A stage whose process was started and has ended. -/
structure Ran (env : ExecutionEnv) (stage : RuntimePreparedStage) (report : ProcessReport) : Prop where
  command : stage.command ≠ []
  files : openStageFiles env stage = .ok ()
  spawned : env.spawn stage = .ok ()
  waited : env.wait stage = .ok report

theorem openStageFiles_ne_panicked : openStageFiles env stage ≠ .error .panicked := by
  intro panicked
  rw [openStageFiles] at panicked
  cases stdout : env.createFile stage.stdoutPath with
  | error err => simp [stdout, reportFailure, bind, Except.bind] at panicked
  | ok =>
    cases stderr : env.createFile stage.stderrPath with
    | error err => simp [stdout, stderr, reportFailure, bind, Except.bind] at panicked
    | ok =>
      cases stdin : stage.stdinPath with
      | none => simp [stdout, stderr, stdin, reportFailure, bind, Except.bind, pure, Except.pure] at panicked
      | some path =>
        simp only [stdout, stderr, stdin, reportFailure, bind, Except.bind] at panicked
        exact reportFailure_ne_panicked panicked

/-- What a stage whose process has ended comes to. -/
theorem Ran.executeStage_eq {report : ProcessReport} (ran : Ran env stage report) :
    executeStage std env stage = do
      let stdoutExcerpt ← orPanic (readExcerpt report.stdout)
      let stderrExcerpt ← orPanic (readExcerpt report.stderr)
      return stageOutcome std stage report stdoutExcerpt stderrExcerpt := by
  have command : stage.command.isEmpty = false := by simpa using ran.command
  simp only [executeStage, command, Bool.false_eq_true, if_false, ran.files, ran.spawned, ran.waited,
    reportFailure, bind, Except.bind]

theorem reportFailure_bind_panicked {α β : Type} {doing : String} {x : Except String α}
    {f : α → ExecutionResult β} :
    (reportFailure doing x).bind f = .error .panicked ↔ ∃ a, x = .ok a ∧ f a = .error .panicked := by
  cases x <;> simp [reportFailure, Except.bind]

/-- Only a process that was started and has ended makes the worker panic. -/
theorem executeStage_panicked (panicked : executeStage std env stage = .error .panicked) :
    ∃ report, Ran env stage report := by
  rw [executeStage] at panicked
  split_ifs at panicked with empty
  · cases panicked
  · cases files : openStageFiles env stage with
    | error fault =>
      obtain rfl : fault = .panicked := by simpa [files, bind, Except.bind] using panicked
      exact absurd files openStageFiles_ne_panicked
    | ok =>
      rw [files] at panicked
      obtain ⟨started, spawned, panicked⟩ := reportFailure_bind_panicked.1 panicked
      obtain ⟨report, waited, -⟩ := reportFailure_bind_panicked.1 panicked
      exact ⟨report, by simpa using empty, files, spawned, waited⟩

theorem Ran.unique {report report' : ProcessReport} (ran : Ran env stage report)
    (ran' : Ran env stage report') : report = report' := by
  have same := ran.waited.symm.trans ran'.waited
  exact Except.ok.inj same

/-- The excerpts of both files are taken, whatever the process was. -/
theorem Ran.executeStage_ne_panicked {report : ProcessReport} (ran : Ran env stage report) :
    executeStage std env stage ≠ .error .panicked ↔
      FileCutsCleanly report.stdout ∧ FileCutsCleanly report.stderr := by
  rw [ran.executeStage_eq, ← readExcerpt_isSome_file, ← readExcerpt_isSome_file]
  cases stdout : readExcerpt report.stdout with
  | none => simp [orPanic, bind, Except.bind]
  | some stdoutExcerpt =>
    cases stderr : readExcerpt report.stderr <;>
      simp [orPanic, bind, Except.bind, pure, Except.pure]

end Stages

/-- A short excerpt is returned exactly when no character lies across a cut, and a stage survives
exactly the files whose excerpts are. -/
theorem excerpt_returns_iff (content : String) (std : Stdlib) (env : ExecutionEnv)
    (stage : RuntimePreparedStage) :
    ((∃ excerpt, readExcerpt (some content) = some excerpt ∧ excerpt.utf8ByteSize ≤ 405) ↔
      CutsCleanly content) ∧
    (executeStage std env stage ≠ .error .panicked ↔ ∀ report, Ran env stage report →
      FileCutsCleanly report.stdout ∧ FileCutsCleanly report.stderr) := by
  constructor
  · rw [← readExcerpt_isSome, Option.isSome_iff_exists]
    constructor
    · rintro ⟨excerpt, cut, -⟩
      exact ⟨excerpt, cut⟩
    · rintro ⟨excerpt, cut⟩
      exact ⟨excerpt, cut, readExcerpt_size cut⟩
  · constructor
    · intro survives report ran
      exact ran.executeStage_ne_panicked.1 survives
    · intro clean panicked
      obtain ⟨report, ran⟩ := executeStage_panicked panicked
      exact ran.executeStage_ne_panicked.2 (clean report ran) panicked

/-- A letter of two bytes lies across the two-hundredth byte. -/
def sampleText : String :=
  .ofList (List.replicate 199 'a' ++ 'é' :: List.replicate 300 'a')

theorem sampleText_toList :
    sampleText.toList = List.replicate 199 'a' ++ 'é' :: List.replicate 300 'a' :=
  String.toList_ofList

theorem sampleText_trim : Text.trim sampleText = sampleText := by
  apply Text.trim_eq_self
  · rw [sampleText_toList, List.head?_append, List.head?_replicate, if_neg (by decide),
      Option.some_or]
    simp [Text.isWhitespace]
  · rw [sampleText_toList, List.getLast?_append, List.getLast?_cons, List.getLast?_replicate,
      if_neg (by decide), Option.getD_some, Option.some_or]
    simp [Text.isWhitespace]

theorem sampleText_size : sampleText.utf8ByteSize = 501 := by
  have first : 'a'.utf8Size = 1 := by decide
  have second : 'é'.utf8Size = 2 := by decide
  rw [← Text.byteSize_toList, sampleText_toList, Text.byteSize_append, Text.byteSize_cons, second]
  simp [-List.reduceReplicate, Text.byteSize, first]

theorem sampleText_unmarked : firstMarker sampleText = none := by
  have other : (excerptMarkers.all fun marker =>
      marker.toList.any fun c => c != 'a' && c != 'é') = true := by
    decide +kernel
  rw [firstMarker, List.findSome?_eq_none_iff]
  intro marker listed
  obtain ⟨c, mem, different⟩ := List.any_eq_true.1 (List.all_eq_true.1 other marker listed)
  obtain ⟨notFirst, notSecond⟩ : c ≠ 'a' ∧ c ≠ 'é' := by simpa using different
  have lacks : c ∉ sampleText.toList := by
    rw [sampleText_toList]
    simp [-List.reduceReplicate, notFirst, notSecond]
  rw [Text.find_eq_none mem lacks, Option.map_none]

/-- A stage that runs a program. -/
def sampleStage : RuntimePreparedStage where
  stageName := "run_case_1"
  score := 100
  command := ["./main"]
  workingDirectory := "/work"
  stdinPath := none
  timeLimitMs := 1000
  memoryLimitKb := none
  outputLimitBytes := 65536
  stdoutPath := "/work/stdout.txt"
  stderrPath := "/work/stderr.txt"
  readonlyMounts := []

theorem sampleText_panics : readExcerpt (some sampleText) = none ∧
    executeStage sampleStdlib (sampleEnv { exited 0 1 with stdout := some sampleText }) sampleStage =
      .error .panicked := by
  have uncut : readExcerpt (some sampleText) = none := by
    rw [← Option.not_isSome_iff_eq_none, readExcerpt_isSome, CutsCleanly, excerptCuts,
      sampleText_trim, sampleText_size, sampleText_unmarked]
    intro clean
    apply clean 200 (by simp)
    refine ⟨List.replicate 199 'a', 'é', List.replicate 300 'a', sampleText_toList, ?_, ?_⟩
    all_goals
      have first : 'a'.utf8Size = 1 := by decide
      have second : 'é'.utf8Size = 2 := by decide
      simp [-List.reduceReplicate, Text.byteSize, first, second]
  refine ⟨uncut, ?_⟩
  have ran : Ran (sampleEnv { exited 0 1 with stdout := some sampleText }) sampleStage
      { exited 0 1 with stdout := some sampleText } := ⟨by decide, rfl, rfl, rfl⟩
  rw [ran.executeStage_eq]
  simp only [uncut]
  rfl

end NexusCore.Runtime
