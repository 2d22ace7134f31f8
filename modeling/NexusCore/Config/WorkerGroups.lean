import NexusCore.Gateway.Nodes
import NexusCore.Lib.Fields
import NexusCore.Oj.Creation

/-!
# The worker groups of the environment

A runtime node reads its worker groups from one variable: groups between semicolons, each with its
name before an equals sign and its bindings between commas, each binding with the queue before a
colon and the lane behind it. Nothing that is read is lost when it is written in the same form.
-/

namespace NexusCore.Config

open NexusCore.Lib NexusCore.Runtime NexusCore.Gateway NexusCore.Jobs NexusCore.Oj

structure RuntimeRouteBindingConfig where
  queue : String
  lane : String
  deriving DecidableEq, Repr

structure RuntimeWorkerGroupConfig where
  name : String
  bindings : List RuntimeRouteBindingConfig
  deriving DecidableEq, Repr

def runtimeWorkerGroupConfig (name : String) (bindings : List (String × String)) :
    RuntimeWorkerGroupConfig where
  name := name
  bindings := bindings.map fun (queue, lane) => { queue, lane }

def defaultRuntimeWorkerGroupsConfig : List RuntimeWorkerGroupConfig :=
  [runtimeWorkerGroupConfig "oj-fast" [("oj_judge", "fast")],
    runtimeWorkerGroupConfig "oj-normal" [("oj_judge", "normal")],
    runtimeWorkerGroupConfig "oj-heavy" [("oj_judge", "heavy")],
    runtimeWorkerGroupConfig "oj-special" [("oj_judge", "special")]]

def parseRuntimeRouteBinding (value : String) : AppResult RuntimeRouteBindingConfig :=
  match Text.splitOnce ':' value with
  | none => .error (.invalidConfig
      ("invalid runtime worker binding, expected queue:lane, got: " ++ value))
  | some (queue, lane) =>
    if (Text.trim queue).isEmpty || (Text.trim lane).isEmpty then
      .error (.invalidConfig
        ("invalid runtime worker binding, queue/lane cannot be empty: " ++ value))
    else
      .ok { queue := Text.trim queue, lane := Text.trim lane }

/-- One group of the variable: the body of the loop over the segments. -/
def parseRuntimeWorkerGroup (segment : String) : AppResult RuntimeWorkerGroupConfig :=
  match Text.splitOnce '=' segment with
  | none => .error (.invalidConfig
      ("invalid NEXUS_RUNTIME_WORKER_GROUPS segment: " ++ segment))
  | some (name, bindings) => do
    let bindings ← (Text.fields ',' bindings).mapM parseRuntimeRouteBinding
    if bindings.isEmpty then
      .error (.invalidConfig ("worker group " ++ name ++ " must contain at least one binding"))
    else
      .ok { name := Text.trim name, bindings }

def runtimeWorkerGroupsFromEnv (value : Option String) : AppResult (List RuntimeWorkerGroupConfig) :=
  match (value.map Text.trim).filter (!·.isEmpty) with
  | none => .ok defaultRuntimeWorkerGroupsConfig
  | some value => do
    let workerGroups ← (Text.fields ';' value).mapM parseRuntimeWorkerGroup
    if workerGroups.isEmpty then
      .error (.invalidConfig "NEXUS_RUNTIME_WORKER_GROUPS must not be empty")
    else
      .ok workerGroups

/-- The groups as the workers of the runtime take them. -/
def mapRuntimeWorkerGroups (groups : List RuntimeWorkerGroupConfig) : List RuntimeWorkerGroup :=
  groups.map fun group =>
    { name := group.name
      bindings := group.bindings.map fun binding => { queue := binding.queue, lane := binding.lane } }

/-- The groups of a runtime that is started without a configuration. -/
def defaultRuntimeWorkerGroups : List RuntimeWorkerGroup :=
  [⟨"oj-fast", [⟨"oj_judge", "fast"⟩]⟩, ⟨"oj-normal", [⟨"oj_judge", "normal"⟩]⟩,
    ⟨"oj-heavy", [⟨"oj_judge", "heavy"⟩]⟩, ⟨"oj-special", [⟨"oj_judge", "special"⟩]⟩]

/-- What a list of fallible steps returns, and what it takes for it to. -/
theorem mapM_eq_ok {α β : Type} {f : α → AppResult β} {xs : List α} {ys : List β} :
    xs.mapM f = .ok ys ↔ List.Forall₂ (fun x y => f x = .ok y) xs ys := by
  induction xs generalizing ys with
  | nil =>
    rw [List.mapM_nil, List.forall₂_nil_left_iff]
    constructor
    · intro same
      cases same
      rfl
    · rintro rfl
      rfl
  | cons x xs ih =>
    simp only [List.mapM_cons, bind_eq_ok, ih, List.forall₂_cons_left_iff]
    constructor
    · rintro ⟨y, here, ys', rest, same⟩
      cases same
      exact ⟨y, ys', here, rest, rfl⟩
    · rintro ⟨y, ys', here, rest, rfl⟩
      exact ⟨y, here, ys', rest, rfl⟩

/-- Everything that is returned comes from one of the steps. -/
theorem of_mem_mapM {α β : Type} {f : α → AppResult β} {xs : List α} {ys : List β}
    (all : xs.mapM f = .ok ys) {y : β} (mem : y ∈ ys) : ∃ x ∈ xs, f x = .ok y := by
  induction mapM_eq_ok.1 all with
  | nil => cases mem
  | cons here rest ih =>
    rcases List.mem_cons.1 mem with rfl | later
    · exact ⟨_, List.mem_cons_self, here⟩
    · obtain ⟨x, among, there⟩ := ih (mapM_eq_ok.2 rest) later
      exact ⟨x, List.mem_cons_of_mem _ among, there⟩

section Format

/-- A binding that can be read: neither part is empty. -/
structure RuntimeRouteBindingConfig.WellFormed (binding : RuntimeRouteBindingConfig) : Prop where
  queue : Text.Field ':' binding.queue
  lane : Text.Trimmed binding.lane ∧ binding.lane ≠ ""
  apart : ∀ sep ∈ [',', ';'], sep ∉ binding.queue.toList ∧ sep ∉ binding.lane.toList

/-- A group that can be read. Its name may be empty. -/
structure RuntimeWorkerGroupConfig.WellFormed (group : RuntimeWorkerGroupConfig) : Prop where
  name : Text.Trimmed group.name ∧ ∀ sep ∈ ['=', ';'], sep ∉ group.name.toList
  bindings : group.bindings ≠ [] ∧ ∀ binding ∈ group.bindings, binding.WellFormed

/-- The groups that can be read. -/
def WellFormed (groups : List RuntimeWorkerGroupConfig) : Prop :=
  groups ≠ [] ∧ ∀ group ∈ groups, group.WellFormed

def RuntimeRouteBindingConfig.format (binding : RuntimeRouteBindingConfig) : String :=
  Text.beside ':' binding.queue binding.lane

def RuntimeWorkerGroupConfig.format (group : RuntimeWorkerGroupConfig) : String :=
  Text.beside '=' group.name (Text.join ',' (group.bindings.map (·.format)))

/-- The groups written as the variable has them. -/
def format (groups : List RuntimeWorkerGroupConfig) : String :=
  Text.join ';' (groups.map (·.format))

variable {binding : RuntimeRouteBindingConfig} {group : RuntimeWorkerGroupConfig} {value : String}

theorem parseRuntimeRouteBinding_eq_ok : parseRuntimeRouteBinding value = .ok binding ↔
    ∃ queue lane, value = Text.beside ':' queue lane ∧ ':' ∉ queue.toList ∧
      Text.trim queue ≠ "" ∧ Text.trim lane ≠ "" ∧ binding = ⟨Text.trim queue, Text.trim lane⟩ := by
  unfold parseRuntimeRouteBinding
  constructor
  · intro read
    split at read
    next => cases read
    next queue lane split =>
      obtain ⟨same, free⟩ := Text.splitOnce_eq_some.1 split
      split_ifs at read with empty
      cases read
      have some : ¬ (Text.trim queue = "" ∨ Text.trim lane = "") := by
        simpa [String.isEmpty_iff] using empty
      exact ⟨queue, lane, same, free, fun none => some (.inl none), fun none => some (.inr none), rfl⟩
  · rintro ⟨queue, lane, same, free, named, laned, rfl⟩
    rw [Text.splitOnce_eq_some.2 ⟨same, free⟩]
    simp [named, laned]

theorem parseRuntimeRouteBinding_format (wf : binding.WellFormed) :
    parseRuntimeRouteBinding binding.format = .ok binding := by
  obtain ⟨queue, lane⟩ := binding
  obtain ⟨⟨tidy, named, free⟩, ⟨tidy', laned⟩, -⟩ := wf
  have queue' : Text.trim queue = queue := tidy
  have lane' : Text.trim lane = lane := tidy'
  refine parseRuntimeRouteBinding_eq_ok.2 ⟨queue, lane, rfl, free, ?_, ?_, ?_⟩
  · rwa [queue']
  · rwa [lane']
  · rw [queue', lane']

/-- A binding that is read from a field of a segment is well formed. -/
theorem wellFormed_of_binding (read : parseRuntimeRouteBinding value = .ok binding)
    (apart : ∀ sep ∈ [',', ';'], sep ∉ value.toList) : binding.WellFormed := by
  obtain ⟨queue, lane, rfl, free, named, laned, rfl⟩ := parseRuntimeRouteBinding_eq_ok.1 read
  refine ⟨⟨Text.trimmed_trim queue, named, fun mem => free (Text.mem_of_mem_trim mem)⟩,
    ⟨Text.trimmed_trim lane, laned⟩, ?_⟩
  intro sep mark
  have outside := apart sep mark
  rw [Text.mem_beside] at outside
  exact ⟨fun mem => outside (.inl (Text.mem_of_mem_trim mem)),
    fun mem => outside (.inr (.inr (Text.mem_of_mem_trim mem)))⟩

theorem RuntimeRouteBindingConfig.WellFormed.field (wf : binding.WellFormed) :
    ∀ sep ∈ [',', ';'], Text.Field sep binding.format := by
  intro sep mark
  refine ⟨Text.trimmed_beside (by decide) wf.queue.1 wf.lane.1, Text.beside_ne_empty, ?_⟩
  have other : sep ≠ ':' := by
    rintro rfl
    revert mark
    decide
  unfold RuntimeRouteBindingConfig.format
  rw [Text.mem_beside]
  rintro (before | same | after)
  · exact (wf.apart sep mark).1 before
  · exact other same
  · exact (wf.apart sep mark).2 after

theorem parseRuntimeWorkerGroup_eq_ok : parseRuntimeWorkerGroup value = .ok group ↔
    ∃ name bindings, value = Text.beside '=' name bindings ∧ '=' ∉ name.toList ∧
      group.name = Text.trim name ∧ group.bindings ≠ [] ∧
      (Text.fields ',' bindings).mapM parseRuntimeRouteBinding = .ok group.bindings := by
  unfold parseRuntimeWorkerGroup
  constructor
  · intro read
    split at read
    next => cases read
    next name bindings split =>
      obtain ⟨same, free⟩ := Text.splitOnce_eq_some.1 split
      obtain ⟨parsed, parse, checked⟩ := bind_eq_ok.1 read
      split_ifs at checked with empty
      cases checked
      exact ⟨name, bindings, same, free, rfl, by simpa using empty, parse⟩
  · rintro ⟨name, bindings, same, free, named, some, parse⟩
    rw [Text.splitOnce_eq_some.2 ⟨same, free⟩]
    simp only [parse, ok_bind, List.isEmpty_iff, some, if_false, ← named]

theorem parseRuntimeWorkerGroup_format (wf : group.WellFormed) :
    parseRuntimeWorkerGroup group.format = .ok group := by
  obtain ⟨⟨tidy, free⟩, some, each⟩ := wf
  refine parseRuntimeWorkerGroup_eq_ok.2 ⟨group.name, _, rfl, free '=' (by decide), tidy.symm, some, ?_⟩
  have fields : ∀ part ∈ group.bindings.map (·.format), Text.Field ',' part := by
    rw [List.forall_mem_map]
    intro binding mem
    exact (each binding mem).field ',' (by decide)
  rw [Text.fields_join fields, mapM_eq_ok, List.forall₂_map_left_iff, List.forall₂_same]
  intro binding mem
  exact parseRuntimeRouteBinding_format (each binding mem)

theorem wellFormed_of_group (read : parseRuntimeWorkerGroup value = .ok group)
    (apart : ';' ∉ value.toList) : group.WellFormed := by
  obtain ⟨name, bindings, rfl, free, named, some, parse⟩ := parseRuntimeWorkerGroup_eq_ok.1 read
  rw [Text.mem_beside] at apart
  refine ⟨⟨named ▸ Text.trimmed_trim name, ?_⟩, some, ?_⟩
  · intro sep mark mem
    rw [named] at mem
    have inside := Text.mem_of_mem_trim mem
    rw [List.mem_pair] at mark
    rcases mark with rfl | rfl
    · exact free inside
    · exact apart (.inl inside)
  · intro binding mem
    obtain ⟨field, listed, read⟩ := of_mem_mapM parse mem
    obtain ⟨clean, inside⟩ := Text.of_mem_fields listed
    refine wellFormed_of_binding read ?_
    intro sep mark mem
    rw [List.mem_pair] at mark
    rcases mark with rfl | rfl
    · exact clean.2.2 mem
    · exact apart (.inr (.inr (inside mem)))

theorem RuntimeWorkerGroupConfig.WellFormed.field (wf : group.WellFormed) :
    Text.Field ';' group.format := by
  obtain ⟨⟨tidy, free⟩, some, each⟩ := wf
  have fields : ∀ part ∈ group.bindings.map (·.format), Text.Field ';' part := by
    rw [List.forall_mem_map]
    intro binding mem
    exact (each binding mem).field ';' (by decide)
  have comma : Text.isWhitespace ',' = false := by decide
  have joined := Text.trimmed_join comma fun part mem => (fields part mem).1
  refine ⟨Text.trimmed_beside (by decide) tidy joined, Text.beside_ne_empty, ?_⟩
  unfold RuntimeWorkerGroupConfig.format
  rw [Text.mem_beside]
  rintro (before | same | after)
  · exact free ';' (by decide) before
  · revert same
    decide
  · obtain same | ⟨part, mem, inside⟩ := Text.mem_join after
    · revert same
      decide
    · exact (fields part mem).2.2 inside

end Format

section RoundTrip

variable {groups : List RuntimeWorkerGroupConfig} {value : Option String}

theorem wellFormed_default : WellFormed defaultRuntimeWorkerGroupsConfig := by
  refine ⟨List.cons_ne_nil _ _, ?_⟩
  have names : ∀ group ∈ defaultRuntimeWorkerGroupsConfig,
      Text.Trimmed group.name ∧ '=' ∉ group.name.toList ∧ ';' ∉ group.name.toList := by
    decide +kernel
  have bindings : ∀ group ∈ defaultRuntimeWorkerGroupsConfig, group.bindings ≠ [] ∧
      ∀ binding ∈ group.bindings,
        (Text.Trimmed binding.queue ∧ binding.queue ≠ "" ∧ ':' ∉ binding.queue.toList) ∧
        (Text.Trimmed binding.lane ∧ binding.lane ≠ "") ∧
        (',' ∉ binding.queue.toList ∧ ',' ∉ binding.lane.toList) ∧
        ';' ∉ binding.queue.toList ∧ ';' ∉ binding.lane.toList := by
    decide +kernel
  intro group mem
  obtain ⟨tidy, equals, semicolon⟩ := names group mem
  obtain ⟨some, each⟩ := bindings group mem
  refine ⟨⟨tidy, ?_⟩, some, ?_⟩
  · rw [List.forall_mem_cons, List.forall_mem_singleton]
    exact ⟨equals, semicolon⟩
  · intro binding own
    obtain ⟨queue, lane, apart⟩ := each binding own
    refine ⟨queue, lane, ?_⟩
    rw [List.forall_mem_cons, List.forall_mem_singleton]
    exact apart

theorem runtimeWorkerGroupsFromEnv_format (wf : WellFormed groups) :
    runtimeWorkerGroupsFromEnv (some (format groups)) = .ok groups := by
  obtain ⟨some, each⟩ := wf
  have fields : ∀ part ∈ groups.map (·.format), Text.Field ';' part := by
    rw [List.forall_mem_map]
    intro group mem
    exact (each group mem).field
  have tidy : Text.trim (format groups) = format groups :=
    Text.trimmed_join (by decide) fun part mem => (fields part mem).1
  have written : format groups ≠ "" :=
    Text.join_ne_empty (fun part mem => (fields part mem).2.1) (by simpa using some)
  have parse : (groups.map (·.format)).mapM parseRuntimeWorkerGroup = .ok groups := by
    rw [mapM_eq_ok, List.forall₂_map_left_iff, List.forall₂_same]
    intro group mem
    exact parseRuntimeWorkerGroup_format (each group mem)
  have present : ((Option.some (format groups)).map Text.trim).filter (!·.isEmpty) =
      Option.some (format groups) := by
    simp [tidy, written]
  have read : (Text.fields ';' (format groups)).mapM parseRuntimeWorkerGroup = .ok groups := by
    rw [format, Text.fields_join fields, parse]
  unfold runtimeWorkerGroupsFromEnv
  rw [present]
  simp only [read, ok_bind, List.isEmpty_iff, some, if_false]

theorem wellFormed_of_env (read : runtimeWorkerGroupsFromEnv value = .ok groups) :
    WellFormed groups := by
  unfold runtimeWorkerGroupsFromEnv at read
  split at read
  next =>
    cases read
    exact wellFormed_default
  next text _ =>
    obtain ⟨parsed, parse, checked⟩ := bind_eq_ok.1 read
    split_ifs at checked with empty
    cases checked
    refine ⟨by simpa using empty, ?_⟩
    intro group mem
    obtain ⟨segment, listed, read⟩ := of_mem_mapM parse mem
    exact wellFormed_of_group read (Text.of_mem_fields listed).1.2.2

/-- The worker groups that some value of the variable is read as are the well formed ones, and each
of these is read back from its own format. -/
theorem worker_groups_round_trip (groups : List RuntimeWorkerGroupConfig) :
    ((∃ value, runtimeWorkerGroupsFromEnv value = .ok groups) ↔ WellFormed groups) ∧
      (runtimeWorkerGroupsFromEnv (some (format groups)) = .ok groups ↔ WellFormed groups) := by
  refine ⟨⟨?_, ?_⟩, wellFormed_of_env, runtimeWorkerGroupsFromEnv_format⟩
  · rintro ⟨value, read⟩
    exact wellFormed_of_env read
  · intro wf
    exact ⟨_, runtimeWorkerGroupsFromEnv_format wf⟩

end RoundTrip

section Routes

variable {value : Option String}

/-- The two tables of default groups agree. -/
theorem mapRuntimeWorkerGroups_default :
    mapRuntimeWorkerGroups defaultRuntimeWorkerGroupsConfig = defaultRuntimeWorkerGroups := rfl

theorem runtimeWorkerGroupsFromEnv_blank (blank : ∀ text ∈ value, Text.trim text = "") :
    runtimeWorkerGroupsFromEnv value = .ok defaultRuntimeWorkerGroupsConfig := by
  have absent : (value.map Text.trim).filter (!·.isEmpty) = none := by
    cases value with
    | none => rfl
    | some text => simp [blank text rfl]
  unfold runtimeWorkerGroupsFromEnv
  rw [absent]

theorem lane_bound_once : ∀ lane ∈ ["heavy", "special", "normal", "fast"],
    defaultRuntimeWorkerGroups.countP (·.binds ⟨"oj_judge", lane⟩) = 1 := by
  decide +kernel

/-- Where the variable is not set or blank, exactly one worker group reserves the task of a
submission. -/
theorem task_bound_once (blank : ∀ text ∈ value, Text.trim text = "") {problem : Problem}
    {detail : SubmissionDetail} {job : JobDefinition} {task : RuntimeTask}
    (built : OjService.jobOf problem detail = .ok job) (mapped : mapJobToRuntimeTask job = .ok task) :
    ∃ groups, runtimeWorkerGroupsFromEnv value = .ok groups ∧
      (mapRuntimeWorkerGroups groups).countP (·.binds ⟨task.queue, task.lane⟩) = 1 := by
  refine ⟨_, runtimeWorkerGroupsFromEnv_blank blank, ?_⟩
  rw [mapRuntimeWorkerGroups_default]
  unfold OjService.jobOf at built
  obtain ⟨_, _, built⟩ := bind_eq_ok.1 built
  obtain ⟨_, _, built⟩ := bind_eq_ok.1 built
  split at built
  next => cases built
  next limits _ =>
    obtain ⟨mode, _, same⟩ := bind_eq_ok.1 built
    cases same
    cases mapped
    exact lane_bound_once _ (deriveRuntimeLane_mem problem _)

theorem sample_task_bound_once : ∃ job task groups,
    OjService.jobOf twoSum (pendingDetail sampleDraft "submission-1") = .ok job ∧
    mapJobToRuntimeTask job = .ok task ∧
    runtimeWorkerGroupsFromEnv (some " ") = .ok groups ∧
    (mapRuntimeWorkerGroups groups).countP (·.binds ⟨task.queue, task.lane⟩) = 1 := by
  obtain ⟨job, built⟩ : ∃ job, OjService.jobOf twoSum (pendingDetail sampleDraft "submission-1") =
      .ok job := ⟨_, rfl⟩
  obtain ⟨task, mapped⟩ : ∃ task, mapJobToRuntimeTask job = .ok task := by
    cases built
    exact ⟨_, rfl⟩
  have blank : ∀ text ∈ some " ", Text.trim text = "" := by decide +kernel
  obtain ⟨groups, read, once⟩ := task_bound_once blank built mapped
  exact ⟨job, task, groups, built, mapped, read, once⟩

end Routes

end NexusCore.Config
