import Mathlib.Data.List.AList
import Mathlib.Data.String.Basic
import NexusCore.Lib.Sorting
import NexusCore.Lib.Text
import NexusCore.Shared.FileName

/-!
# The audit log of the alert relay

Every alert is appended as a line of JSON to a base file, until this has reached a size; from then
on to a new file named after the time. Files of the second kind are pruned. The directory is a map
from file names; the operations on files succeed.
-/

namespace NexusCore.AlertRelay

open NexusCore.Lib

/-- A record: its time stamp, and the other fields. -/
structure AuditRecord where
  tsMs : Nat
  fields : String
  deriving DecidableEq, Repr

/-- The lines of a file, and the time of its last change. -/
structure AuditFile where
  records : List AuditRecord
  modifiedMs : Nat
  deriving DecidableEq, Repr

abbrev AuditDirectory : Type := AList fun _ : String => AuditFile

structure AuditLogConfig where
  /-- The name of the base file; the last component of a path is not the parent directory. -/
  base : String
  isName : base ≠ ".."
  maxBytes : Nat
  maxFiles : Nat
  retentionDays : Nat

/-- A call: its record, and what the clock shows when the call names a file, changes it, and
prunes. -/
structure AuditWrite where
  record : AuditRecord
  suffixMs : Nat
  modifiedMs : Nat
  pruneMs : Nat
  deriving DecidableEq, Repr

/-- The name of the file for a time. -/
def rotatedName (base : String) (suffixMs : Nat) : String :=
  match Path.splitFileName base with
  | (stem, some extension) => stem ++ "-" ++ toString suffixMs ++ "." ++ extension
  | (stem, none) => stem ++ "-" ++ toString suffixMs

def matchesRotatedAuditFile (base name : String) : Bool :=
  (Path.fileStem base ++ "-").toList.isPrefixOf (Path.fileStem name).toList &&
    Path.extension base == Path.extension name

section Operations

variable (serialize : AuditRecord → String) (config : AuditLogConfig)

/-- The size of some lines in bytes. -/
def totalSize (records : List AuditRecord) : Nat :=
  (records.map fun record => (serialize record ++ "\n").utf8ByteSize).sum

def rotatedAuditLogPath (dir : AuditDirectory) (suffixMs : Nat) : String :=
  match dir.lookup config.base with
  | none => config.base
  | some file =>
    if totalSize serialize file.records < config.maxBytes then
      config.base
    else
      rotatedName config.base suffixMs

def appendRecord (dir : AuditDirectory) (target : String) (record : AuditRecord)
    (modifiedMs : Nat) : AuditDirectory :=
  dir.insert target
    { records := ((dir.lookup target).map (·.records)).getD [] ++ [record], modifiedMs }

def removeFiles (dir : AuditDirectory) (names : List String) : AuditDirectory :=
  names.foldl (fun dir name => dir.erase name) dir

/-- A file that has not been changed for longer than the retention. -/
def isExpired (dir : AuditDirectory) (nowMs : Nat) (name : String) : Bool :=
  (dir.lookup name).any fun file =>
    decide (file.modifiedMs < nowMs - config.retentionDays * 24 * 60 * 60 * 1000)

/-- The names of the rotated files, as the directory lists them. -/
def rotatedFiles (dir : AuditDirectory) : List String :=
  dir.keys.filter (matchesRotatedAuditFile config.base)

def pruneRotatedAuditLogs (dir : AuditDirectory) (nowMs : Nat) : AuditDirectory :=
  if config.maxFiles = 0 ∧ config.retentionDays = 0 then
    dir
  else
    let rotated := rotatedFiles config dir
    let expired :=
      if 0 < config.retentionDays then rotated.filter (isExpired config dir nowMs) else []
    let dir := removeFiles dir expired
    let rotated := rotated.filter (· ∉ expired)
    if config.maxFiles = 0 ∨ rotated.length ≤ config.maxFiles then
      dir
    else
      removeFiles dir ((sortBy id rotated).take (rotated.length - config.maxFiles))

def writeAuditLog (dir : AuditDirectory) (write : AuditWrite) : AuditDirectory :=
  let target := rotatedAuditLogPath serialize config dir write.suffixMs
  pruneRotatedAuditLogs config (appendRecord dir target write.record write.modifiedMs) write.pruneMs

/-- The directory after some calls; there is no file before. -/
def writeAll (writes : List AuditWrite) : AuditDirectory :=
  writes.foldl (writeAuditLog serialize config) ∅

end Operations

section Names

variable {base : String} {ms ms' : Nat}

/-- The stem of a rotated file is that of the base file with the time, the extension is the
same. -/
theorem splitFileName_rotatedName (normal : base ≠ "..") (ms : Nat) :
    Path.splitFileName (rotatedName base ms) =
      (Path.fileStem base ++ "-" ++ toString ms, Path.extension base) := by
  unfold rotatedName Path.fileStem Path.extension
  cases parts : Path.splitFileName base with
  | mk stem extension =>
    cases extension with
    | some extension =>
      obtain ⟨-, nonempty, free⟩ := Path.splitFileName_of_some parts
      have dash : '-' ∈ (stem ++ "-" ++ toString ms).toList := by simp
      refine Path.splitFileName_append ?_ ?_ free
      · intro nothing
        rw [nothing] at dash
        cases dash
      · intro dots
        have within : '-' ∈ (stem ++ "-" ++ toString ms ++ "." ++ extension).toList := by simp
        rw [dots] at within
        exact absurd within (by decide)
    | none =>
      have free : '.' ∉ ("-" ++ toString ms).toList := by
        simpa using Text.not_mem_toString ms (by decide)
      obtain ⟨rfl, split⟩ := Path.splitFileName_of_none parts normal free
      rw [← String.append_assoc] at split
      exact split

theorem rotatedName_matches (normal : base ≠ "..") (ms : Nat) :
    matchesRotatedAuditFile base (rotatedName base ms) = true := by
  have split := splitFileName_rotatedName normal ms
  have stem : Path.fileStem (rotatedName base ms) = Path.fileStem base ++ "-" ++ toString ms := by
    rw [Path.fileStem, split]
  have extension : Path.extension (rotatedName base ms) = Path.extension base := by
    rw [Path.extension, split]
  rw [matchesRotatedAuditFile, stem, extension]
  simp [String.toList_append]

/-- The base file is never pruned. -/
theorem base_not_matches : matchesRotatedAuditFile base base = false := by
  have longer : ((Path.fileStem base ++ "-").toList.isPrefixOf (Path.fileStem base).toList) =
      false := by
    rw [← Bool.not_eq_true, List.isPrefixOf_iff_prefix]
    intro front
    have short := front.length_le
    simp at short
  rw [matchesRotatedAuditFile, longer, Bool.false_and]

theorem rotatedName_ne_base (normal : base ≠ "..") (ms : Nat) : rotatedName base ms ≠ base := by
  intro same
  have matched := rotatedName_matches normal ms
  rw [same, base_not_matches] at matched
  cases matched

theorem rotatedName_injective (normal : base ≠ "..")
    (same : rotatedName base ms = rotatedName base ms') : ms = ms' := by
  have split := splitFileName_rotatedName normal ms
  rw [same, splitFileName_rotatedName normal ms'] at split
  have stems := congrArg (fun parts => parts.1.toList) split
  simp only [String.toList_append] at stems
  exact (Text.toString_injective (List.append_cancel_left stems)).symm

end Names

section Retention

variable {serialize : AuditRecord → String} {config : AuditLogConfig}
  {dir : AuditDirectory} {filled spilled writes : List AuditWrite} {write : AuditWrite}
  {name : String} {file : AuditFile}

/-- A record is on disk. -/
def Kept (dir : AuditDirectory) (record : AuditRecord) : Prop :=
  ∃ name file, dir.lookup name = some file ∧ record ∈ file.records

/-- The newest records are on disk, up to a size or all of them, and none that is newer than one
on disk is missing. -/
structure KeepsNewest (serialize : AuditRecord → String) (maxBytes : Nat)
    (written : List AuditRecord) (dir : AuditDirectory) : Prop where
  suffix : ∃ k, (∀ record ∈ written.drop k, Kept dir record) ∧
    (k = 0 ∨ maxBytes ≤ totalSize serialize (written.drop k))
  closed : written.Pairwise fun older newer => Kept dir older → Kept dir newer

/-- The calls that go to the base file, and those that find it full. -/
def place (serialize : AuditRecord → String) (maxBytes : Nat)
    (placed : List AuditWrite × List AuditWrite) (write : AuditWrite) :
    List AuditWrite × List AuditWrite :=
  if totalSize serialize (placed.1.map (·.record)) < maxBytes then
    (placed.1 ++ [write], placed.2)
  else
    (placed.1, placed.2 ++ [write])

/-- The calls after the base file has reached its size. -/
def afterFull (serialize : AuditRecord → String) (maxBytes : Nat) (writes : List AuditWrite) :
    List AuditWrite :=
  (writes.foldl (place serialize maxBytes) ([], [])).2

/-- What the directory holds: the base file with the records that filled it, and one file for each
of the others that is left. -/
structure Rotation (config : AuditLogConfig) (filled spilled : List AuditWrite)
    (dir : AuditDirectory) : Prop where
  base : (dir.lookup config.base).map (·.records) =
    if filled = [] then none else some (filled.map (·.record))
  own : ∀ name file, name ≠ config.base → dir.lookup name = some file →
    ∃ w ∈ spilled, name = rotatedName config.base w.suffixMs ∧ file.records = [w.record]
  few : ∃ names : List String, names.length ≤ config.maxFiles ∧
    ∀ name ∈ dir, name ≠ config.base → name ∈ names
  all : spilled.length ≤ config.maxFiles → ∀ w ∈ spilled,
    ∃ file, dir.lookup (rotatedName config.base w.suffixMs) = some file ∧ file.records = [w.record]

theorem Rotation.empty : Rotation config [] [] ∅ where
  base := rfl
  own := by simp
  few := ⟨[], Nat.zero_le _, by simp⟩
  all := by simp

theorem lookup_removeFiles (dir : AuditDirectory) (names : List String) (name : String) :
    (removeFiles dir names).lookup name = if name ∈ names then none else dir.lookup name := by
  induction names generalizing dir with
  | nil => rfl
  | cons other rest ih =>
    have rest' := ih (dir.erase other)
    rw [removeFiles, List.foldl_cons, ← removeFiles, rest']
    by_cases same : name = other
    · subst same
      simp
    · simp [same, AList.lookup_erase_ne same]

/-- Without an age limit the first names are removed, until there are as many as there may be. -/
theorem prune_eq (noLimit : config.retentionDays = 0) (positive : 0 < config.maxFiles)
    (dir : AuditDirectory) (nowMs : Nat) :
    pruneRotatedAuditLogs config dir nowMs = removeFiles dir
      ((sortBy id (rotatedFiles config dir)).take
        ((rotatedFiles config dir).length - config.maxFiles)) := by
  have enabled : ¬ (config.maxFiles = 0 ∧ config.retentionDays = 0) := by omega
  have expired : ¬ 0 < config.retentionDays := by omega
  have limited : config.maxFiles ≠ 0 := by omega
  unfold pruneRotatedAuditLogs
  rw [if_neg enabled]
  simp only [expired, if_false, List.not_mem_nil, not_false_eq_true, decide_true, List.filter_true,
    limited, false_or]
  split_ifs with short
  · rw [Nat.sub_eq_zero_of_le short]
    rfl
  · rfl

theorem mem_rotatedFiles : name ∈ rotatedFiles config dir ↔
    name ∈ dir ∧ matchesRotatedAuditFile config.base name = true := by
  rw [rotatedFiles, List.mem_filter]
  rfl

/-- Pruning leaves what a rotation has to have. -/
theorem Rotation.pruned (noLimit : config.retentionDays = 0) (positive : 0 < config.maxFiles)
    (nowMs : Nat)
    (base : (dir.lookup config.base).map (·.records) =
      if filled = [] then none else some (filled.map (·.record)))
    (own : ∀ name file, name ≠ config.base → dir.lookup name = some file →
      ∃ w ∈ spilled, name = rotatedName config.base w.suffixMs ∧ file.records = [w.record])
    (all : spilled.length ≤ config.maxFiles → ∀ w ∈ spilled,
      ∃ file, dir.lookup (rotatedName config.base w.suffixMs) = some file ∧
        file.records = [w.record]) :
    Rotation config filled spilled (pruneRotatedAuditLogs config dir nowMs) := by
  have sorted := sortBy_perm id (rotatedFiles config dir)
  rw [prune_eq noLimit positive]
  generalize cut : (rotatedFiles config dir).length - config.maxFiles = surplus
  have removed {name : String} (mem : name ∈ (sortBy id (rotatedFiles config dir)).take surplus) :
      matchesRotatedAuditFile config.base name = true :=
    (mem_rotatedFiles.1 (sorted.subset (List.mem_of_mem_take mem))).2
  constructor
  · rw [lookup_removeFiles, if_neg]
    · exact base
    · intro mem
      have matched := removed mem
      rw [base_not_matches] at matched
      cases matched
  · intro name file apart found
    rw [lookup_removeFiles] at found
    split_ifs at found
    exact own name file apart found
  · refine ⟨(sortBy id (rotatedFiles config dir)).drop surplus, ?_, fun name mem apart => ?_⟩
    · rw [List.length_drop, sorted.length_eq]
      omega
    · rw [← AList.lookup_isSome, lookup_removeFiles] at mem
      split_ifs at mem with gone
      · cases mem
      · obtain ⟨file, found⟩ := Option.isSome_iff_exists.1 mem
        obtain ⟨w, _, rfl, _⟩ := own name file apart found
        have listed : rotatedName config.base w.suffixMs ∈ rotatedFiles config dir :=
          mem_rotatedFiles.2 ⟨AList.lookup_isSome.1 mem, rotatedName_matches config.isName _⟩
        have split := sorted.symm.subset listed
        rw [← List.take_append_drop surplus (sortBy id _), List.mem_append] at split
        exact split.resolve_left gone
  · intro short w mem
    obtain ⟨file, found, records⟩ := all short w mem
    have names : rotatedFiles config dir ⊆
        spilled.map fun w => rotatedName config.base w.suffixMs := by
      intro name listed
      obtain ⟨present, matched⟩ := mem_rotatedFiles.1 listed
      obtain ⟨file, found⟩ := Option.isSome_iff_exists.1 (AList.lookup_isSome.2 present)
      have apart : name ≠ config.base := by
        intro same
        rw [same, base_not_matches] at matched
        cases matched
      obtain ⟨w, mem, same, _⟩ := own name file apart found
      exact List.mem_map.2 ⟨w, mem, same.symm⟩
    have nodup : (rotatedFiles config dir).Nodup := dir.nodupKeys.filter _
    have count := (List.subperm_of_subset nodup names).length_le
    rw [List.length_map] at count
    have none : surplus = 0 := by omega
    rw [none]
    exact ⟨file, found, records⟩

/-- The target of a call. -/
theorem Rotation.target (rotation : Rotation config filled spilled dir)
    (bytes : 0 < config.maxBytes) (suffixMs : Nat) :
    rotatedAuditLogPath serialize config dir suffixMs =
      if totalSize serialize (filled.map (·.record)) < config.maxBytes then config.base
      else rotatedName config.base suffixMs := by
  have base := rotation.base
  unfold rotatedAuditLogPath
  cases found : dir.lookup config.base with
  | none =>
    rw [found] at base
    split_ifs at base with fresh
    · rw [fresh, if_pos]
      exact bytes
    · cases base
  | some file =>
    rw [found] at base
    split_ifs at base with fresh
    · cases base
    · rw [← Option.some.inj base]

/-- A call that finds the base file not full. -/
theorem Rotation.fill (noLimit : config.retentionDays = 0) (positive : 0 < config.maxFiles)
    (bytes : 0 < config.maxBytes) (rotation : Rotation config filled [] dir)
    (room : totalSize serialize (filled.map (·.record)) < config.maxBytes) :
    Rotation config (filled ++ [write]) [] (writeAuditLog serialize config dir write) := by
  rw [writeAuditLog, rotation.target bytes, if_pos room]
  refine Rotation.pruned noLimit positive _ ?_ ?_ (by simp)
  · rw [appendRecord, AList.lookup_insert, rotation.base]
    by_cases fresh : filled = [] <;> simp [fresh]
  · intro name file apart found
    rw [appendRecord, AList.lookup_insert_ne apart] at found
    exact rotation.own name file apart found

/-- A call that finds it full. -/
theorem Rotation.spill (noLimit : config.retentionDays = 0) (positive : 0 < config.maxFiles)
    (bytes : 0 < config.maxBytes) (rotation : Rotation config filled spilled dir)
    (full : ¬ totalSize serialize (filled.map (·.record)) < config.maxBytes)
    (fresh : ∀ w ∈ spilled, w.suffixMs ≠ write.suffixMs) :
    Rotation config filled (spilled ++ [write]) (writeAuditLog serialize config dir write) := by
  have normal := config.isName
  rw [writeAuditLog, rotation.target bytes, if_neg full]
  have apart := rotatedName_ne_base normal write.suffixMs
  have absent : dir.lookup (rotatedName config.base write.suffixMs) = none := by
    cases found : dir.lookup (rotatedName config.base write.suffixMs) with
    | none => rfl
    | some file =>
      obtain ⟨w, mem, same, _⟩ := rotation.own _ file apart found
      exact absurd (rotatedName_injective normal same).symm (fresh w mem)
  refine Rotation.pruned noLimit positive _ ?_ ?_ ?_
  · rw [appendRecord, AList.lookup_insert_ne (Ne.symm apart)]
    exact rotation.base
  · intro name file other found
    by_cases new : name = rotatedName config.base write.suffixMs
    · subst new
      rw [appendRecord, AList.lookup_insert, absent] at found
      cases found
      exact ⟨write, by simp, rfl, rfl⟩
    · rw [appendRecord, AList.lookup_insert_ne new] at found
      obtain ⟨w, mem, same⟩ := rotation.own name file other found
      exact ⟨w, List.mem_append_left _ mem, same⟩
  · intro short w mem
    rcases List.mem_append.1 mem with earlier | last
    · have other : rotatedName config.base w.suffixMs ≠ rotatedName config.base write.suffixMs :=
        fun same => fresh w earlier (rotatedName_injective normal same)
      rw [appendRecord, AList.lookup_insert_ne other]
      refine rotation.all ?_ w earlier
      rw [List.length_append] at short
      omega
    · obtain rfl := List.mem_singleton.1 last
      rw [appendRecord, AList.lookup_insert, absent]
      exact ⟨_, rfl, rfl⟩

theorem place_eq (writes : List AuditWrite) (write : AuditWrite) :
    (writes ++ [write]).foldl (place serialize config.maxBytes) ([], []) =
      place serialize config.maxBytes (writes.foldl (place serialize config.maxBytes) ([], []))
        write := by
  rw [List.foldl_append]
  rfl

/-- What the directory holds after some calls: the first ones have filled the base file. -/
theorem rotation_writeAll (serialize : AuditRecord → String) (noLimit : config.retentionDays = 0) (positive : 0 < config.maxFiles)
    (bytes : 0 < config.maxBytes)
    (suffixes : writes.Pairwise fun earlier later => earlier.suffixMs < later.suffixMs) :
    ∃ filled spilled,
      writes.foldl (place serialize config.maxBytes) ([], []) = (filled, spilled) ∧
        writes = filled ++ spilled ∧
        (spilled = [] ∨ ¬ totalSize serialize (filled.map (·.record)) < config.maxBytes) ∧
        Rotation config filled spilled (writeAll serialize config writes) := by
  induction writes using List.reverseRecOn with
  | nil => exact ⟨[], [], rfl, rfl, .inl rfl, .empty⟩
  | append_singleton writes write ih =>
    obtain ⟨before, -, later⟩ := List.pairwise_append.1 suffixes
    obtain ⟨filled, spilled, placed, split, full, rotation⟩ := ih before
    have result : writeAll serialize config (writes ++ [write]) =
        writeAuditLog serialize config (writeAll serialize config writes) write := by
      rw [writeAll, List.foldl_append]
      rfl
    rw [place_eq, placed, result, place]
    by_cases room : totalSize serialize (filled.map (·.record)) < config.maxBytes
    · obtain rfl : spilled = [] := full.resolve_right (not_not.2 room)
      rw [if_pos room]
      refine ⟨_, _, rfl, ?_, .inl rfl, rotation.fill noLimit positive bytes room⟩
      rw [split, List.append_nil, List.append_nil]
    · rw [if_neg room]
      refine ⟨_, _, rfl, ?_, .inr room, rotation.spill noLimit positive bytes room ?_⟩
      · rw [split, List.append_assoc]
      · intro w mem
        have within : w ∈ writes := split ▸ List.mem_append_right _ mem
        exact (later w within write (by simp)).ne

/-- Everything is on disk as long as there are not too many files. -/
theorem Rotation.kept_of_short (rotation : Rotation config filled spilled dir)
    (short : spilled.length ≤ config.maxFiles) {w : AuditWrite} (mem : w ∈ filled ++ spilled) :
    Kept dir w.record := by
  rcases List.mem_append.1 mem with first | later
  · have base := rotation.base
    rw [if_neg (List.ne_nil_of_mem first)] at base
    obtain ⟨file, found, records⟩ := Option.map_eq_some_iff.1 base
    exact ⟨_, file, found, records ▸ List.mem_map_of_mem first⟩
  · obtain ⟨file, found, records⟩ := rotation.all short w later
    exact ⟨_, file, found, by rw [records]; simp⟩

/-- A record that is on disk beside the base file has its own file. -/
theorem Rotation.own_file (rotation : Rotation config filled spilled dir)
    (stamps : ((filled ++ spilled).map (·.record.tsMs)).Nodup) {w : AuditWrite} (mem : w ∈ spilled)
    (kept : Kept dir w.record) : rotatedName config.base w.suffixMs ∈ dir := by
  have distinct {w w' : AuditWrite} (left : w ∈ filled ++ spilled) (right : w' ∈ filled ++ spilled)
      (same : w.record = w'.record) : w = w' :=
    List.inj_on_of_nodup_map stamps left right (congrArg AuditRecord.tsMs same)
  obtain ⟨name, file, found, held⟩ := kept
  by_cases base : name = config.base
  · subst base
    have first := rotation.base
    rw [found, Option.map_some] at first
    split_ifs at first with none
    rw [Option.some.inj first] at held
    obtain ⟨w', mem', same⟩ := List.mem_map.1 held
    have twice := distinct (List.mem_append_left _ mem') (List.mem_append_right _ mem) same
    rw [List.map_append] at stamps
    have apart := List.disjoint_of_nodup_append stamps (List.mem_map_of_mem mem')
    rw [twice] at apart
    exact absurd (List.mem_map_of_mem mem) apart
  · obtain ⟨w', mem', rfl, records⟩ := rotation.own name file base found
    rw [records, List.mem_singleton] at held
    obtain rfl := distinct (List.mem_append_right _ mem) (List.mem_append_right _ mem') held
    exact AList.lookup_isSome.1 (by rw [found]; rfl)

/-- The newest records are kept exactly as long as there are no more records after the base file
was full than there may be files. -/
theorem keeps_newest_iff (serialize : AuditRecord → String) (config : AuditLogConfig)
    (noLimit : config.retentionDays = 0) (positive : 0 < config.maxFiles)
    (bytes : 0 < config.maxBytes) (writes : List AuditWrite)
    (stamps : writes.Pairwise fun earlier later => earlier.record.tsMs < later.record.tsMs)
    (suffixes : writes.Pairwise fun earlier later => earlier.suffixMs < later.suffixMs) :
    KeepsNewest serialize config.maxBytes (writes.map (·.record))
        (writeAll serialize config writes) ↔
      (afterFull serialize config.maxBytes writes).length ≤ config.maxFiles := by
  obtain ⟨filled, spilled, placed, split, full, rotation⟩ :=
    rotation_writeAll serialize noLimit positive bytes suffixes
  rw [afterFull, placed]
  change _ ↔ spilled.length ≤ config.maxFiles
  generalize writeAll serialize config writes = dir at rotation ⊢
  constructor
  · intro keeps
    by_contra many
    -- the oldest record is in the base file, so all others would have to be on disk
    have spills : ¬ totalSize serialize (filled.map (·.record)) < config.maxBytes := by
      refine full.resolve_left ?_
      rintro rfl
      exact many (Nat.zero_le _)
    have closed := keeps.closed
    rw [split, List.map_append, List.pairwise_append] at closed
    obtain ⟨names, few, listed⟩ := rotation.few
    have nodup : ((filled ++ spilled).map (·.record.tsMs)).Nodup := by
      rw [← split]
      exact (List.pairwise_map.2 stamps).imp Nat.ne_of_lt
    cases filled with
    | nil => exact spills bytes
    | cons first rest =>
      have oldest : Kept dir first.record := by
        have base := rotation.base
        obtain ⟨file, found, records⟩ := Option.map_eq_some_iff.1 base
        exact ⟨_, file, found, by rw [records]; simp⟩
      have subset : spilled.map (fun w => rotatedName config.base w.suffixMs) ⊆ names := by
        intro name mem
        obtain ⟨w, within, rfl⟩ := List.mem_map.1 mem
        have kept := closed.2.2 first.record (by simp) w.record (List.mem_map_of_mem within) oldest
        exact listed _ (rotation.own_file nodup within kept)
          (rotatedName_ne_base config.isName _)
      have distinct : (spilled.map fun w => rotatedName config.base w.suffixMs).Nodup := by
        rw [split, List.pairwise_append] at suffixes
        refine List.pairwise_map.2 (suffixes.2.1.imp fun earlier same => ?_)
        exact earlier.ne (rotatedName_injective config.isName same)
      have count := (List.subperm_of_subset distinct subset).length_le
      rw [List.length_map] at count
      omega
  · intro short
    have kept : ∀ record ∈ writes.map (·.record), Kept dir record := by
      intro record mem
      obtain ⟨w, within, rfl⟩ := List.mem_map.1 mem
      exact rotation.kept_of_short short (split ▸ within)
    exact ⟨⟨0, kept, .inl rfl⟩, List.pairwise_of_forall_mem_list fun _ _ r mem _ => kept r mem⟩

/-- A base file that is full with one record, and one rotated file. -/
def smallConfig : AuditLogConfig :=
  { base := "audit.jsonl"
    isName := by decide
    maxBytes := 1
    maxFiles := 1
    retentionDays := 0 }

/-- The alert at a time. -/
def alertAt (ms : Nat) : AuditWrite :=
  { record := { tsMs := ms, fields := "firing" }
    suffixMs := ms
    modifiedMs := ms
    pruneMs := ms }

theorem keeps_newest_of_two :
    KeepsNewest AuditRecord.fields 1 [(alertAt 1).record, (alertAt 2).record]
      (writeAll AuditRecord.fields smallConfig [alertAt 1, alertAt 2]) :=
  (keeps_newest_iff AuditRecord.fields smallConfig rfl (by decide) (by decide)
    [alertAt 1, alertAt 2] (by simp [alertAt]) (by simp [alertAt])).2 (by decide +kernel)

/-- What is left of three alerts. -/
def afterThree : AuditDirectory :=
  writeAll AuditRecord.fields smallConfig [alertAt 1, alertAt 2, alertAt 3]

theorem afterThree_entries : (afterThree.entries.map fun e => (e.1, e.2.records.map (·.tsMs))) =
    [("audit-3.jsonl", [3]), ("audit.jsonl", [1])] := by decide +kernel

/-- Of three alerts the second one is lost, and the first one stays. -/
theorem second_alert_lost :
    (afterThree.entries.map fun e => (e.1, e.2.records.map (·.tsMs))) =
        [("audit-3.jsonl", [3]), ("audit.jsonl", [1])] ∧
      ¬ KeepsNewest AuditRecord.fields 1
        [(alertAt 1).record, (alertAt 2).record, (alertAt 3).record] afterThree := by
  refine ⟨afterThree_entries, fun keeps => ?_⟩
  have first : Kept afterThree (alertAt 1).record :=
    ⟨"audit.jsonl", ⟨[(alertAt 1).record], 1⟩, by decide +kernel, List.mem_singleton_self _⟩
  have second : Kept afterThree (alertAt 2).record :=
    (List.pairwise_cons.1 keeps.closed).1 _ (by simp) first
  obtain ⟨name, file, found, held⟩ := second
  have entry : (name, file.records.map (·.tsMs)) ∈
      afterThree.entries.map fun e => (e.1, e.2.records.map (·.tsMs)) :=
    List.mem_map.2 ⟨⟨name, file⟩, AList.mem_lookup_iff.1 found, rfl⟩
  have stamp : 2 ∈ file.records.map (·.tsMs) := List.mem_map.2 ⟨_, held, rfl⟩
  rw [afterThree_entries] at entry
  simp only [List.mem_cons, Prod.mk.injEq, List.not_mem_nil, or_false] at entry
  rcases entry with ⟨_, same⟩ | ⟨_, same⟩
  · rw [same] at stamp
    exact absurd stamp (by decide)
  · rw [same] at stamp
    exact absurd stamp (by decide)

end Retention

end NexusCore.AlertRelay
