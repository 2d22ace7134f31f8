import Mathlib.Data.Prod.Lex
import Mathlib.Data.String.Basic
import NexusCore.Lib.Grouping
import NexusCore.Runtime.Delivery

/-!
# The node registry summary

The gateway reads the status of every runtime node, in the order in which the registry returns the
keys, and sums them up: the routes and the worker groups that are covered, with the number of
nodes, of worker groups and of bindings behind each.
-/

namespace NexusCore.Gateway

open NexusCore.Lib NexusCore.Runtime

structure RuntimeWorkerGroup where
  name : String
  bindings : List RuntimeRouteBinding
  deriving DecidableEq, Repr

inductive RuntimeNodeHealthStatus where
  | healthy
  | stale
  deriving DecidableEq, Repr

/-- The fields of a node status that the summary reads. -/
structure RuntimeNodeStatus where
  nodeId : String
  nodeStatus : RuntimeNodeHealthStatus
  workerGroups : List RuntimeWorkerGroup
  deriving DecidableEq, Repr

structure RuntimeRouteCoverage where
  queue : String
  lane : String
  nodeCount : Nat
  workerGroupCount : Nat
  deriving DecidableEq, Repr

structure RuntimeGroupCoverage where
  name : String
  nodeCount : Nat
  bindingCount : Nat
  deriving DecidableEq, Repr

structure RuntimeNodeRegistrySummary where
  totalNodes : Nat
  totalWorkerGroups : Nat
  healthyNodes : Nat
  staleNodes : Nat
  routes : List RuntimeRouteCoverage
  groups : List RuntimeGroupCoverage
  deriving DecidableEq, Repr

/-- A queue and a lane, ordered as pairs. -/
abbrev RouteKey : Type := String ×ₗ String

def routeKey (binding : RuntimeRouteBinding) : RouteKey := toLex (binding.queue, binding.lane)

theorem routeKey_inj {a b : RuntimeRouteBinding} : routeKey a = routeKey b ↔ a = b := by
  cases a
  cases b
  simp [routeKey]

/-- The four maps of the summary. -/
structure Coverage where
  routeNodes : AList fun _ : RouteKey => Finset String
  routeGroups : AList fun _ : RouteKey => Nat
  groupNodes : AList fun _ : String => Finset String
  groupBindings : AList fun _ : String => Nat

namespace Coverage

/-- A set grows by an element. -/
def grow (ids : Finset String) (id : String) : Finset String := insert id ids

/-- A counter grows by one. -/
def count (n : Nat) (_ : Unit) : Nat := n + 1

/-- The last value replaces the others. -/
def overwrite (_ n : Nat) : Nat := n

def addBinding (nodeId : String) (coverage : Coverage) (binding : RuntimeRouteBinding) :
    Coverage :=
  { coverage with
    routeNodes := addTo grow ∅ coverage.routeNodes (routeKey binding) nodeId
    routeGroups := addTo count 0 coverage.routeGroups (routeKey binding) () }

def addGroup (nodeId : String) (coverage : Coverage) (group : RuntimeWorkerGroup) : Coverage :=
  group.bindings.foldl (addBinding nodeId)
    { coverage with
      groupNodes := addTo grow ∅ coverage.groupNodes group.name nodeId
      groupBindings := addTo overwrite 0 coverage.groupBindings group.name group.bindings.length }

def addNode (coverage : Coverage) (node : RuntimeNodeStatus) : Coverage :=
  node.workerGroups.foldl (addGroup node.nodeId) coverage

def empty : Coverage := ⟨∅, ∅, ∅, ∅⟩

/-- The loop over the nodes, their groups and the bindings of these. -/
def ofNodes (nodes : List RuntimeNodeStatus) : Coverage := nodes.foldl addNode empty

def routes (coverage : Coverage) : List RuntimeRouteCoverage :=
  (sortedEntries coverage.routeNodes).map fun e =>
    { queue := (ofLex e.1).1
      lane := (ofLex e.1).2
      nodeCount := e.2.card
      workerGroupCount := (coverage.routeGroups.lookup e.1).getD 0 }

def groups (coverage : Coverage) : List RuntimeGroupCoverage :=
  (sortedEntries coverage.groupNodes).map fun e =>
    { name := e.1
      nodeCount := e.2.card
      bindingCount := (coverage.groupBindings.lookup e.1).getD 0 }

end Coverage

def summarizeRuntimeNodes (nodes : List RuntimeNodeStatus) : RuntimeNodeRegistrySummary where
  totalNodes := nodes.length
  totalWorkerGroups := (nodes.map (·.workerGroups.length)).sum
  healthyNodes := nodes.countP (·.nodeStatus = .healthy)
  staleNodes := nodes.countP (·.nodeStatus = .stale)
  routes := (Coverage.ofNodes nodes).routes
  groups := (Coverage.ofNodes nodes).groups

/-- A group binds a route. -/
def RuntimeWorkerGroup.binds (route : RuntimeRouteBinding) (group : RuntimeWorkerGroup) : Bool :=
  route ∈ group.bindings

/-- A group of the node binds a route. -/
def RuntimeNodeStatus.offers (route : RuntimeRouteBinding) (node : RuntimeNodeStatus) : Bool :=
  node.workerGroups.any (·.binds route)

/-- The node has a group of a name. -/
def RuntimeNodeStatus.hasGroup (name : String) (node : RuntimeNodeStatus) : Bool :=
  node.workerGroups.any (·.name = name)

/-- How many bindings the last group of a name has on a node. -/
def RuntimeNodeStatus.bindingCount? (name : String) (node : RuntimeNodeStatus) : Option Nat :=
  ((node.workerGroups.filter (·.name = name)).map (·.bindings.length)).getLast?

/-- The summary counts the nodes behind each route and each group, and the groups of the nodes
that bind each route. -/
def CountsExact (nodes : List RuntimeNodeStatus) : Prop :=
  (∀ c ∈ (summarizeRuntimeNodes nodes).routes,
    c.nodeCount = nodes.countP (·.offers ⟨c.queue, c.lane⟩) ∧
    c.workerGroupCount =
      (nodes.map fun n => n.workerGroups.countP (·.binds ⟨c.queue, c.lane⟩)).sum) ∧
  ∀ c ∈ (summarizeRuntimeNodes nodes).groups, c.nodeCount = nodes.countP (·.hasGroup c.name)

/-- Nodes that have a group of the same name have it with as many bindings. -/
def BindingCountsAgree (nodes : List RuntimeNodeStatus) : Prop :=
  ∀ n ∈ nodes, ∀ n' ∈ nodes, ∀ name, ∀ k ∈ n.bindingCount? name, ∀ k' ∈ n'.bindingCount? name,
    k = k'

/-- No group binds a route twice. -/
def BindsOnce (nodes : List RuntimeNodeStatus) : Prop :=
  ∀ n ∈ nodes, ∀ g ∈ n.workerGroups, g.bindings.Nodup

section Gathered

variable {bound bound' : List (RouteKey × String)} {named named' : List (String × String × Nat)}
  {nodes nodes' : List RuntimeNodeStatus} {node : RuntimeNodeStatus} {name id : String} {k : Nat}

/-- The maps that the bindings and the groups leave, each with the node it is found on. -/
def gathered (bound : List (RouteKey × String)) (named : List (String × String × Nat)) :
    Coverage where
  routeNodes := grouped Coverage.grow ∅ bound
  routeGroups := grouped Coverage.count 0 (bound.map fun p => (p.1, ()))
  groupNodes := grouped Coverage.grow ∅ (named.map fun p => (p.1, p.2.1))
  groupBindings := grouped Coverage.overwrite 0 (named.map fun p => (p.1, p.2.2))

def boundIn (id : String) (group : RuntimeWorkerGroup) : List (RouteKey × String) :=
  group.bindings.map fun b => (routeKey b, id)

def boundBy (nodes : List RuntimeNodeStatus) : List (RouteKey × String) :=
  nodes.flatMap fun n => n.workerGroups.flatMap (boundIn n.nodeId)

def namedIn (id : String) (group : RuntimeWorkerGroup) : String × String × Nat :=
  (group.name, id, group.bindings.length)

def namedBy (nodes : List RuntimeNodeStatus) : List (String × String × Nat) :=
  nodes.flatMap fun n => n.workerGroups.map (namedIn n.nodeId)

theorem foldl_addBinding (bindings : List RuntimeRouteBinding) :
    bindings.foldl (Coverage.addBinding id) (gathered bound named) =
      gathered (bound ++ bindings.map fun b => (routeKey b, id)) named := by
  induction bindings generalizing bound with
  | nil => simp
  | cons b rest ih =>
    have one : Coverage.addBinding id (gathered bound named) b =
        gathered (bound ++ [(routeKey b, id)]) named := by
      simp [Coverage.addBinding, gathered, grouped_snoc]
    rw [List.foldl_cons, one, ih, List.map_cons, List.append_assoc, List.singleton_append]

theorem addGroup_gathered (group : RuntimeWorkerGroup) :
    Coverage.addGroup id (gathered bound named) group =
      gathered (bound ++ boundIn id group) (named ++ [namedIn id group]) := by
  have entered : gathered bound (named ++ [namedIn id group]) =
      { gathered bound named with
        groupNodes := addTo Coverage.grow ∅ (gathered bound named).groupNodes group.name id
        groupBindings := addTo Coverage.overwrite 0 (gathered bound named).groupBindings
          group.name group.bindings.length } := by
    simp [gathered, grouped_snoc, namedIn]
  rw [Coverage.addGroup, ← entered, foldl_addBinding, boundIn]

theorem addNode_gathered :
    Coverage.addNode (gathered bound named) node =
      gathered (bound ++ boundBy [node]) (named ++ namedBy [node]) := by
  simp only [Coverage.addNode, boundBy, namedBy, List.flatMap_singleton]
  induction node.workerGroups generalizing bound named with
  | nil => simp
  | cons group rest ih =>
    rw [List.foldl_cons, addGroup_gathered, ih, List.flatMap_cons, List.map_cons,
      List.append_assoc, List.append_assoc, List.singleton_append]

/-- The loops leave the maps of all bindings and all groups. -/
theorem ofNodes_eq : Coverage.ofNodes nodes = gathered (boundBy nodes) (namedBy nodes) := by
  induction nodes using List.reverseRecOn with
  | nil => rfl
  | append_singleton rest node ih =>
    rw [Coverage.ofNodes, List.foldl_append, List.foldl_cons, List.foldl_nil, ← Coverage.ofNodes,
      ih, addNode_gathered]
    simp [boundBy, namedBy]

theorem getD_routeGroups (r : RouteKey) :
    ((gathered bound named).routeGroups.lookup r).getD 0 = (valuesOf r bound).length := by
  have counted := foldl_count (valuesOf r (bound.map fun p => (p.1, ()))) 0
  rw [gathered, getD_grouped]
  refine Eq.trans counted ?_
  rw [valuesOf_map_values fun _ => (), List.length_map, Nat.zero_add]

theorem getD_groupBindings :
    ((gathered bound named).groupBindings.lookup name).getD 0 =
      ((valuesOf name named).map (·.2)).getLast?.getD 0 := by
  rw [gathered, getD_grouped, valuesOf_map_values Prod.snd]
  exact foldl_last _ 0

/-- The routes are those of the bindings, with the nodes as a set and the bindings counted. -/
theorem mem_routes {c : RuntimeRouteCoverage} :
    c ∈ (gathered bound named).routes ↔ ∃ r ∈ bound.map (·.1),
      c = ⟨(ofLex r).1, (ofLex r).2, (valuesOf r bound).toFinset.card,
        (valuesOf r bound).length⟩ := by
  have held (r : RouteKey) (s : Finset String) :
      s ∈ (gathered bound named).routeNodes.lookup r ↔
        r ∈ bound.map (·.1) ∧ (valuesOf r bound).toFinset = s := by
    have grown := foldl_insert (valuesOf r bound) ∅
    rw [Finset.empty_union] at grown
    rw [← grown]
    exact mem_lookup_grouped
  unfold Coverage.routes
  simp only [List.mem_map, mem_sortedEntries, held, getD_routeGroups]
  constructor
  · intro given
    obtain ⟨⟨r, s⟩, ⟨mem, same⟩, out⟩ := given
    exact ⟨r, mem, by rw [← out, same]⟩
  · intro given
    obtain ⟨r, mem, out⟩ := given
    exact ⟨⟨r, _⟩, ⟨mem, rfl⟩, out.symm⟩

theorem mem_groups {c : RuntimeGroupCoverage} :
    c ∈ (gathered bound named).groups ↔ ∃ name ∈ named.map (·.1),
      c = ⟨name, ((valuesOf name named).map (·.1)).toFinset.card,
        ((valuesOf name named).map (·.2)).getLast?.getD 0⟩ := by
  have held (name : String) (s : Finset String) :
      s ∈ (gathered bound named).groupNodes.lookup name ↔
        name ∈ named.map (·.1) ∧ ((valuesOf name named).map (·.1)).toFinset = s := by
    have grown := foldl_insert ((valuesOf name named).map (·.1)) ∅
    have keys : (named.map fun p => (p.1, p.2.1)).map (·.1) = named.map (·.1) := by simp
    rw [Finset.empty_union, ← valuesOf_map_values Prod.fst] at grown
    rw [← valuesOf_map_values Prod.fst, ← grown, ← keys]
    exact mem_lookup_grouped
  unfold Coverage.groups
  simp only [List.mem_map, mem_sortedEntries, held, getD_groupBindings]
  constructor
  · intro given
    obtain ⟨⟨name, s⟩, ⟨mem, same⟩, out⟩ := given
    exact ⟨name, mem, by rw [← out, same]⟩
  · intro given
    obtain ⟨name, mem, out⟩ := given
    exact ⟨⟨name, _⟩, ⟨mem, rfl⟩, out.symm⟩

theorem routes_perm (perm : bound.Perm bound') (named named' : List (String × String × Nat)) :
    (gathered bound named).routes = (gathered bound' named').routes := by
  have entries : (gathered bound named).routeNodes.entries.Perm
      (gathered bound' named').routeNodes.entries :=
    entries_grouped_perm_of_comm (fun s v w => Finset.insert_comm w v s) perm
  have counted (r : RouteKey) : (valuesOf r bound).length = (valuesOf r bound').length :=
    (valuesOf_perm perm r).length_eq
  unfold Coverage.routes
  simp only [sortedEntries_eq_of_perm entries, getD_routeGroups, counted]

theorem groups_perm (bound bound' : List (RouteKey × String)) (perm : named.Perm named')
    (last : ∀ name, ((valuesOf name named).map (·.2)).getLast?.getD 0 =
      ((valuesOf name named').map (·.2)).getLast?.getD 0) :
    (gathered bound named).groups = (gathered bound' named').groups := by
  have entries : (gathered bound named).groupNodes.entries.Perm
      (gathered bound' named').groupNodes.entries :=
    entries_grouped_perm_of_comm (fun s v w => Finset.insert_comm w v s) (perm.map _)
  unfold Coverage.groups
  simp only [sortedEntries_eq_of_perm entries, getD_groupBindings, last]

section Counts

theorem mem_boundBy {route : RuntimeRouteBinding} :
    (routeKey route, id) ∈ boundBy nodes ↔ ∃ n ∈ nodes, n.offers route ∧ n.nodeId = id := by
  simp only [boundBy, boundIn, List.mem_flatMap, List.mem_map, Prod.mk.injEq,
    RuntimeNodeStatus.offers, RuntimeWorkerGroup.binds, List.any_eq_true, decide_eq_true_eq]
  constructor
  · intro ⟨n, mem, g, own, b, bind, same, this⟩
    exact ⟨n, mem, ⟨g, own, routeKey_inj.1 same ▸ bind⟩, this⟩
  · intro ⟨n, mem, ⟨g, own, bind⟩, this⟩
    exact ⟨n, mem, g, own, route, bind, rfl, this⟩

theorem mem_namedBy : (name, id, k) ∈ namedBy nodes ↔
    ∃ n ∈ nodes, (∃ g ∈ n.workerGroups, g.name = name ∧ g.bindings.length = k) ∧ n.nodeId = id := by
  simp only [namedBy, namedIn, List.mem_flatMap, List.mem_map, Prod.mk.injEq]
  constructor
  · intro ⟨n, mem, g, own, same, this, size⟩
    exact ⟨n, mem, ⟨g, own, same, size⟩, this⟩
  · intro ⟨n, mem, ⟨g, own, same, size⟩, this⟩
    exact ⟨n, mem, g, own, same, this, size⟩

/-- With distinct ids, a set of ids has as many elements as there are nodes behind it. -/
theorem card_ids (distinct : (nodes.map (·.nodeId)).Nodup) {p : RuntimeNodeStatus → Bool}
    {ids : List String} (behind : ∀ id, id ∈ ids ↔ ∃ n ∈ nodes, p n ∧ n.nodeId = id) :
    ids.toFinset.card = nodes.countP p := by
  have same : ids.toFinset = ((nodes.filter p).map (·.nodeId)).toFinset := by
    ext id
    simp [behind, and_assoc]
  have once : ((nodes.filter p).map (·.nodeId)).Nodup :=
    distinct.sublist (List.filter_sublist.map _)
  rw [same, List.toFinset_card_of_nodup once, List.length_map, List.countP_eq_length_filter]

theorem routeNodes_card (distinct : (nodes.map (·.nodeId)).Nodup) (route : RuntimeRouteBinding) :
    (valuesOf (routeKey route) (boundBy nodes)).toFinset.card = nodes.countP (·.offers route) :=
  card_ids distinct fun _ => mem_valuesOf.trans mem_boundBy

theorem groupNodes_card (distinct : (nodes.map (·.nodeId)).Nodup) (name : String) :
    ((valuesOf name (namedBy nodes)).map (·.1)).toFinset.card = nodes.countP (·.hasGroup name) := by
  refine card_ids distinct fun id => ?_
  simp only [List.mem_map, mem_valuesOf, Prod.exists, exists_and_right, exists_eq_right,
    mem_namedBy, RuntimeNodeStatus.hasGroup, List.any_eq_true, decide_eq_true_eq]
  constructor
  · intro given
    obtain ⟨_, n, mem, ⟨g, own, same, _⟩, this⟩ := given
    exact ⟨n, mem, ⟨g, own, same⟩, this⟩
  · intro given
    obtain ⟨n, mem, ⟨g, own, same⟩, this⟩ := given
    exact ⟨_, n, mem, ⟨g, own, same, rfl⟩, this⟩

theorem length_valuesOf_boundIn (route : RuntimeRouteBinding) (group : RuntimeWorkerGroup) :
    (valuesOf (routeKey route) (boundIn id group)).length = group.bindings.count route := by
  unfold valuesOf boundIn
  rw [List.length_map, List.filter_map, List.length_map, List.count_eq_length_filter]
  congr 2
  funext b
  rw [Bool.eq_iff_iff]
  simp [routeKey_inj]

/-- All groups of the nodes. -/
def workerGroups (nodes : List RuntimeNodeStatus) : List RuntimeWorkerGroup :=
  nodes.flatMap (·.workerGroups)

theorem length_valuesOf_boundBy (route : RuntimeRouteBinding) :
    (valuesOf (routeKey route) (boundBy nodes)).length =
      ((workerGroups nodes).map (·.bindings.count route)).sum := by
  simp only [boundBy, workerGroups, valuesOf_flatMap, List.length_flatMap, length_valuesOf_boundIn,
    List.map_flatMap]
  rw [List.flatMap_def, List.sum_flatten, List.map_map]
  rfl

theorem countP_workerGroups (p : RuntimeWorkerGroup → Bool) :
    (nodes.map fun n => n.workerGroups.countP p).sum = (workerGroups nodes).countP p := by
  rw [workerGroups, List.countP_flatMap]
  rfl

theorem countP_binds_le (route : RuntimeRouteBinding) (groups : List RuntimeWorkerGroup) :
    groups.countP (·.binds route) ≤ (groups.map (·.bindings.count route)).sum := by
  induction groups with
  | nil => simp
  | cons g rest ih =>
    have own : g.binds route → 0 < g.bindings.count route := by
      intro bind
      exact List.count_pos_iff.2 (by simpa [RuntimeWorkerGroup.binds] using bind)
    simp only [List.countP_cons, List.map_cons, List.sum_cons]
    split_ifs with bind
    · have := own bind
      omega
    · omega

/-- The bindings of a route are as many as the groups that bind it exactly when none of these
binds it twice. -/
theorem sum_count_eq_iff (route : RuntimeRouteBinding) (groups : List RuntimeWorkerGroup) :
    (groups.map (·.bindings.count route)).sum = groups.countP (·.binds route) ↔
      ∀ g ∈ groups, g.bindings.count route ≤ 1 := by
  induction groups with
  | nil => simp
  | cons g rest ih =>
    have least := countP_binds_le route rest
    have own : g.binds route ↔ 0 < g.bindings.count route := by
      simp [RuntimeWorkerGroup.binds, List.count_pos_iff]
    simp only [List.countP_cons, List.map_cons, List.sum_cons, List.forall_mem_cons, ← ih]
    split_ifs with bind
    · have := own.1 bind
      omega
    · have := mt own.2 bind
      omega

end Counts

section Order

theorem bindingCount?_eq (node : RuntimeNodeStatus) (name : String) :
    node.bindingCount? name =
      ((valuesOf name (node.workerGroups.map (namedIn node.nodeId))).map (·.2)).getLast? := by
  unfold RuntimeNodeStatus.bindingCount? valuesOf
  rw [List.filter_map, List.map_map, List.map_map]
  rfl

/-- The binding count of a group is that of some node that has it. -/
theorem mem_bindingCount (last : k ∈ ((valuesOf name (namedBy nodes)).map (·.2)).getLast?) :
    ∃ n ∈ nodes, k ∈ n.bindingCount? name := by
  rw [namedBy, valuesOf_flatMap, List.map_flatMap] at last
  obtain ⟨n, mem, here⟩ := getLast?_flatMap last
  exact ⟨n, mem, (bindingCount?_eq n name).symm ▸ here⟩

theorem summarizeRuntimeNodes_perm (perm : nodes.Perm nodes') (agree : BindingCountsAgree nodes) :
    summarizeRuntimeNodes nodes = summarizeRuntimeNodes nodes' := by
  have bound : (boundBy nodes).Perm (boundBy nodes') := perm.flatMap_right _
  have named : (namedBy nodes).Perm (namedBy nodes') := perm.flatMap_right _
  have last (name : String) : ((valuesOf name (namedBy nodes)).map (·.2)).getLast?.getD 0 =
      ((valuesOf name (namedBy nodes')).map (·.2)).getLast?.getD 0 := by
    have size := ((valuesOf_perm named name).map (·.2)).length_eq
    cases left : ((valuesOf name (namedBy nodes)).map (·.2)).getLast? with
    | none =>
      rw [List.getLast?_eq_none_iff.1 left, List.length_nil] at size
      rw [List.eq_nil_of_length_eq_zero size.symm, List.getLast?_nil]
    | some k =>
      cases right : ((valuesOf name (namedBy nodes')).map (·.2)).getLast? with
      | none =>
        rw [List.getLast?_eq_none_iff.1 right, List.length_nil] at size
        rw [List.eq_nil_of_length_eq_zero size] at left
        cases left
      | some k' =>
        obtain ⟨n, mem, here⟩ := mem_bindingCount left
        obtain ⟨n', mem', there⟩ := mem_bindingCount right
        exact agree n mem n' (perm.symm.subset mem') name k here k' there
  unfold summarizeRuntimeNodes
  simp only [ofNodes_eq, perm.length_eq, (perm.map _).sum_eq, perm.countP_eq,
    routes_perm bound (namedBy nodes) (namedBy nodes'),
    groups_perm (boundBy nodes) (boundBy nodes') named last]

/-- The node that comes last decides the binding counts of its groups. -/
theorem bindingCount_of_last (here : k ∈ node.bindingCount? name) :
    ∀ c ∈ (summarizeRuntimeNodes (nodes ++ [node])).groups, c.name = name → c.bindingCount = k := by
  intro c mem this
  change c ∈ (Coverage.ofNodes (nodes ++ [node])).groups at mem
  rw [ofNodes_eq, mem_groups] at mem
  obtain ⟨own, _, rfl⟩ := mem
  have this : own = name := this
  subst this
  have split : namedBy (nodes ++ [node]) =
      namedBy nodes ++ node.workerGroups.map (namedIn node.nodeId) := by
    simp [namedBy]
  rw [bindingCount?_eq] at here
  have last : ((valuesOf own (namedBy (nodes ++ [node]))).map (·.2)).getLast? = some k := by
    rw [split, valuesOf_append, List.map_append, List.getLast?_append, Option.mem_def.1 here]
    rfl
  change (((valuesOf own (namedBy (nodes ++ [node]))).map (·.2)).getLast?).getD 0 = k
  rw [last]
  rfl

theorem listed_of_bindingCount (mem : node ∈ nodes) (here : k ∈ node.bindingCount? name) :
    ∃ c ∈ (summarizeRuntimeNodes nodes).groups, c.name = name := by
  obtain ⟨g, own, size⟩ := List.mem_map.1 (List.mem_of_getLast? here)
  obtain ⟨own, same⟩ := List.mem_filter.1 own
  have same : g.name = name := by simpa using same
  have held : (name, node.nodeId, k) ∈ namedBy nodes :=
    mem_namedBy.2 ⟨node, mem, ⟨g, own, same, size⟩, rfl⟩
  have listed : _ ∈ (gathered (boundBy nodes) (namedBy nodes)).groups :=
    mem_groups.2 ⟨name, List.mem_map_of_mem held, rfl⟩
  rw [← ofNodes_eq] at listed
  exact ⟨_, listed, rfl⟩

theorem bindingCountsAgree_of_perm
    (same : ∀ nodes', nodes.Perm nodes' →
      summarizeRuntimeNodes nodes = summarizeRuntimeNodes nodes') :
    BindingCountsAgree nodes := by
  intro n mem n' mem' name k here k' there
  obtain ⟨c, listed, this⟩ := listed_of_bindingCount mem here
  have decided {m : RuntimeNodeStatus} {l : Nat} (own : m ∈ nodes)
      (count : l ∈ m.bindingCount? name) : c.bindingCount = l := by
    have perm : nodes.Perm (nodes.erase m ++ [m]) :=
      (List.perm_cons_erase own).trans (List.perm_append_singleton m _).symm
    exact bindingCount_of_last count c (same _ perm ▸ listed) this
  exact (decided mem here).symm.trans (decided mem' there)

end Order

theorem mem_summary_routes {c : RuntimeRouteCoverage} :
    c ∈ (summarizeRuntimeNodes nodes).routes ↔
      ∃ route ∈ (workerGroups nodes).flatMap (·.bindings),
        c = ⟨route.queue, route.lane, (valuesOf (routeKey route) (boundBy nodes)).toFinset.card,
          ((workerGroups nodes).map (·.bindings.count route)).sum⟩ := by
  change c ∈ (Coverage.ofNodes nodes).routes ↔ _
  have keys : (boundBy nodes).map (·.1) =
      ((workerGroups nodes).flatMap (·.bindings)).map routeKey := by
    simp [boundBy, boundIn, workerGroups, List.map_flatMap, List.flatMap_assoc, Function.comp_def]
  rw [ofNodes_eq, mem_routes, keys]
  simp only [List.mem_map, exists_exists_and_eq_and, length_valuesOf_boundBy]
  rfl

theorem countsExact_iff (distinct : (nodes.map (·.nodeId)).Nodup) :
    CountsExact nodes ↔ BindsOnce nodes := by
  have groups : ∀ c ∈ (summarizeRuntimeNodes nodes).groups,
      c.nodeCount = nodes.countP (·.hasGroup c.name) := by
    intro c mem
    change c ∈ (Coverage.ofNodes nodes).groups at mem
    rw [ofNodes_eq, mem_groups] at mem
    obtain ⟨name, _, rfl⟩ := mem
    exact groupNodes_card distinct name
  constructor
  · intro exact n mem g own
    refine List.nodup_iff_count_le_one.2 fun route => ?_
    by_cases bind : route ∈ g.bindings
    · have among : g ∈ workerGroups nodes := List.mem_flatMap.2 ⟨n, mem, own⟩
      have counted := (exact.1 _ (mem_summary_routes.2
        ⟨route, List.mem_flatMap.2 ⟨g, among, bind⟩, rfl⟩)).2
      rw [countP_workerGroups] at counted
      exact (sum_count_eq_iff route _).1 counted g among
    · rw [List.count_eq_zero_of_not_mem bind]
      exact Nat.zero_le 1
  · intro once
    refine ⟨fun c mem => ?_, groups⟩
    obtain ⟨route, _, rfl⟩ := mem_summary_routes.1 mem
    refine ⟨routeNodes_card distinct route, ?_⟩
    rw [countP_workerGroups]
    refine (sum_count_eq_iff route _).2 fun g among => ?_
    obtain ⟨n, mem, own⟩ := List.mem_flatMap.1 among
    exact List.nodup_iff_count_le_one.1 (once n mem g own) route

end Gathered

/-- The summary does not depend on the order of the nodes and counts the nodes and the worker
groups exactly when groups of the same name agree on the number of their bindings, and no group
binds a route twice. -/
theorem summary_exact_iff (nodes : List RuntimeNodeStatus)
    (distinct : (nodes.map (·.nodeId)).Nodup) :
    ((∀ nodes', nodes.Perm nodes' → summarizeRuntimeNodes nodes = summarizeRuntimeNodes nodes') ∧
      CountsExact nodes) ↔
    BindingCountsAgree nodes ∧ BindsOnce nodes := by
  rw [countsExact_iff distinct]
  refine and_congr_left fun _ => ⟨bindingCountsAgree_of_perm, ?_⟩
  intro agree nodes' perm
  exact summarizeRuntimeNodes_perm perm agree

/-- Two nodes that cover a route with groups of their own. -/
def sampleNodes : List RuntimeNodeStatus :=
  [⟨"node-a", .healthy,
      [⟨"oj-fast", [⟨"oj_judge", "fast"⟩]⟩, ⟨"oj-special", [⟨"oj_judge", "special"⟩]⟩]⟩,
    ⟨"node-b", .healthy, [⟨"oj-fast", [⟨"oj_judge", "fast"⟩]⟩]⟩]

theorem summary_exact_of_sample :
    (sampleNodes.map (·.nodeId)).Nodup ∧
      (((∀ nodes', sampleNodes.Perm nodes' →
          summarizeRuntimeNodes sampleNodes = summarizeRuntimeNodes nodes') ∧
        CountsExact sampleNodes) ↔
      BindingCountsAgree sampleNodes ∧ BindsOnce sampleNodes) :=
  ⟨by decide +kernel, summary_exact_iff sampleNodes (by decide +kernel)⟩

def narrowNode : RuntimeNodeStatus := ⟨"node-a", .healthy, [⟨"oj", [⟨"oj_judge", "fast"⟩]⟩]⟩

def wideNode : RuntimeNodeStatus :=
  ⟨"node-b", .healthy, [⟨"oj", [⟨"oj_judge", "fast"⟩, ⟨"oj_judge", "special"⟩]⟩]⟩

/-- Where groups of one name differ in the number of bindings, the summary follows the node that
comes last. -/
theorem summary_follows_order :
    ([narrowNode, wideNode].map (·.nodeId)).Nodup ∧
      [narrowNode, wideNode].Perm [wideNode, narrowNode] ∧
      (summarizeRuntimeNodes [narrowNode, wideNode]).groups = [⟨"oj", 2, 2⟩] ∧
      (summarizeRuntimeNodes [wideNode, narrowNode]).groups = [⟨"oj", 2, 1⟩] :=
  ⟨by decide +kernel, List.Perm.swap _ _ _, by decide +kernel, by decide +kernel⟩

end NexusCore.Gateway
