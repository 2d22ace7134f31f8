import Mathlib.Data.Multiset.Count
import NexusCore.Lib.Interleaving
import NexusCore.Runtime.Broker.Routes

/-!
# The route catalog under concurrent calls

The map of the topologies and the order list are behind a mutex each, and a call that adds a
route takes one after the other. Here a section under a mutex is one step, and calls are
interleaved between their sections. Alone, a call does what the catalog of the adapters does in
one step.
-/

namespace NexusCore.Runtime

open NexusCore.Lib

/-- The sections of the calls, each under one mutex. -/
inductive CatalogSection (T : Type) where
  | getOrDeclare (route : Route) (build : T)
  | pushBack (route : Route)
  | entryOrInsert (route : Route) (topology : T)
  | pushIfAbsent (route : Route)
  | get (route : Route)
  | topologies
  | orderedRoutes (bindings : List RuntimeRouteBinding)
  | rotate (route : Route)

namespace CatalogSection

variable {T : Type}

def Reply : CatalogSection T → Type
  | getOrDeclare .. | get _ => Option T
  | topologies => List T
  | orderedRoutes _ => List Route
  | pushBack _ | entryOrInsert .. | pushIfAbsent _ | rotate _ => Unit

/-- `getOrDeclare` answers with the topology that it finds. -/
def execute (catalog : RouteCatalog T) : (c : CatalogSection T) → c.Reply × RouteCatalog T
  | getOrDeclare route build =>
    match catalog.declaredRoutes.lookup route with
    | some topology => (some topology, catalog)
    | none =>
      (none, { catalog with declaredRoutes := catalog.declaredRoutes.insert route build })
  | pushBack route => ((), { catalog with routeOrder := catalog.routeOrder ++ [route] })
  | entryOrInsert route topology =>
    match catalog.declaredRoutes.lookup route with
    | some _ => ((), catalog)
    | none =>
      ((), { catalog with declaredRoutes := catalog.declaredRoutes.insert route topology })
  | pushIfAbsent route =>
    if route ∈ catalog.routeOrder then ((), catalog)
    else ((), { catalog with routeOrder := catalog.routeOrder ++ [route] })
  | get route => (catalog.get route, catalog)
  | topologies => (catalog.topologies, catalog)
  | orderedRoutes bindings => (catalog.orderedRoutes bindings, catalog)
  | rotate route => ((), catalog.rotate route)

end CatalogSection

/-- A call and what it has returned. -/
abbrev CatalogResult (T : Type) : Type := Sigma fun c : CatalogCmd T => c.Reply

abbrev CatalogProg (T : Type) : Type :=
  Prog (CatalogSection T) CatalogSection.Reply AppError (CatalogResult T)

/-- The sections that a call goes through. -/
def CatalogCmd.prog {T : Type} : CatalogCmd T → CatalogProg T
  | getOrInsertWith route build => .call (.getOrDeclare route build) fun
    | some topology => .ret ⟨.getOrInsertWith route build, topology⟩
    | none => .call (.pushBack route) fun _ => .ret ⟨.getOrInsertWith route build, build⟩
  | get route => .call (.get route) fun found => .ret ⟨.get route, found⟩
  | topologies => .call .topologies fun all => .ret ⟨.topologies, all⟩
  | orderedRoutes bindings => .call (.orderedRoutes bindings) fun routes =>
      .ret ⟨.orderedRoutes bindings, routes⟩
  | rotate route => .call (.rotate route) fun _ => .ret ⟨.rotate route, ()⟩
  | registerRoute route topology => .call (.entryOrInsert route topology) fun _ =>
      .call (.pushIfAbsent route) fun _ => .ret ⟨.registerRoute route topology, ()⟩

namespace CatalogSections

variable {T : Type}

def handler : Handler (RouteCatalog T) (CatalogSection T) CatalogSection.Reply :=
  fun s c r u => (r, u) = c.execute s

/-- A call that is alone does in its sections what it does in one step. -/
theorem eval_prog (c : CatalogCmd T) (s : RouteCatalog T) :
    c.prog.eval (fun s c => CatalogSection.execute s c) s =
      (.ok ⟨c, (c.execute s).1⟩, (c.execute s).2) := by
  cases c with
  | getOrInsertWith route build =>
    cases found : s.declaredRoutes.lookup route with
    | some topology =>
      simp [CatalogCmd.prog, CatalogSection.execute, CatalogCmd.execute,
        RouteCatalog.getOrInsertWith, found]
    | none =>
      simp [CatalogCmd.prog, CatalogSection.execute, CatalogCmd.execute,
        RouteCatalog.getOrInsertWith, found]
  | registerRoute route topology =>
    cases found : s.declaredRoutes.lookup route with
    | some old =>
      by_cases there : route ∈ s.routeOrder <;>
        simp [CatalogCmd.prog, CatalogSection.execute, CatalogCmd.execute,
          RouteCatalog.registerRoute, found, there]
    | none =>
      by_cases there : route ∈ s.routeOrder <;>
        simp [CatalogCmd.prog, CatalogSection.execute, CatalogCmd.execute,
          RouteCatalog.registerRoute, found, there]
  | _ => rfl

abbrev CatalogBusy (T : Type) : Type :=
  Busy (RouteCatalog T) (CatalogSection T) CatalogSection.Reply AppError (CatalogResult T)

abbrev CatalogCall (T : Type) : Type :=
  Call (CatalogSection T) CatalogSection.Reply AppError (CatalogResult T)

abbrev CatalogTransition (T : Type) : Type :=
  Transition (CatalogBusy T) (Move (CatalogSection T) CatalogSection.Reply AppError (CatalogResult T))

def IsCall (p : CatalogProg T) : Prop := ∃ c : CatalogCmd T, p = c.prog

/-- What a call has still to do. -/
inductive CatalogDuty where
  | begin
  | push (route : Route)
  | look (route : Route)
  | done
  deriving DecidableEq

/-- The duties of a call by the sections that it has gone through. -/
def catalogDiscipline : Discipline (CatalogSection T) CatalogSection.Reply CatalogDuty where
  permits
    | .begin, .pushBack _ | .begin, .pushIfAbsent _ => False
    | .begin, _ => True
    | .push route, c => c = .pushBack route
    | .look route, c => c = .pushIfAbsent route
    | .done, _ => False
  next
    | .begin, .getOrDeclare route _, none => .push route
    | .begin, .entryOrInsert route _, _ => .look route
    | _, _, _ => .done
  clear duty := duty = .done

/-- What a call has still to do after its log. -/
abbrev duty (call : CatalogCall T) : CatalogDuty := catalogDiscipline.owes .begin call

theorem prog_upholds (c : CatalogCmd T) : catalogDiscipline.Upholds (fun _ _ _ => True)
    (fun g _ => g = .done) .begin c.prog := by
  cases c with
  | getOrInsertWith route build =>
    refine .call trivial ?_
    intro found _
    cases found with
    | some topology => exact .ret rfl
    | none => exact .call rfl fun _ _ => .ret rfl
  | registerRoute route topology =>
    exact .call trivial fun _ _ => .call rfl fun _ _ => .ret rfl
  | _ => exact .call trivial fun _ _ => .ret rfl

section Entries

variable {s u : RouteCatalog T} {g : CatalogDuty} {owed : Multiset CatalogDuty}
  {c : CatalogSection T} {r : c.Reply} {route : Route}

/-- How often a route stands in the order list or is about to be appended to it. -/
def entries (route : Route) (order : List Route) (owed : Multiset CatalogDuty) : Nat :=
  order.count route + owed.count (.push route)

/-- A route is declared exactly if it has an entry or a call is about to look for one. -/
def Covered (s : RouteCatalog T) (owed : Multiset CatalogDuty) : Prop :=
  ∀ route, route ∈ s.declaredRoutes ↔ 0 < entries route s.routeOrder owed ∨ .look route ∈ owed

theorem entries_cons {order : List Route} : entries route order (g ::ₘ owed) =
    entries route order owed + if g = .push route then 1 else 0 := by
  simp only [entries, Multiset.count_cons, eq_comm, Nat.add_assoc]

theorem count_rotate (s : RouteCatalog T) (moved route : Route) :
    (s.rotate moved).routeOrder.count route = s.routeOrder.count route := by
  unfold RouteCatalog.rotate
  split_ifs with there
  · exact (List.perm_append_comm.trans (List.perm_cons_erase there).symm).count_eq route
  · rfl

theorem declaredRoutes_rotate (s : RouteCatalog T) (moved : Route) :
    (s.rotate moved).declaredRoutes = s.declaredRoutes := by
  unfold RouteCatalog.rotate
  split_ifs <;> rfl

theorem mem_declaredRoutes_insert {s : RouteCatalog T} {added route : Route} {topology : T} :
    route ∈ s.declaredRoutes.insert added topology ↔ route = added ∨ route ∈ s.declaredRoutes :=
  AList.mem_insert _

/-- What a section leads to: the routes stay covered, and a route gets a second entry only when
somebody who looks for one appends it while another one is owed. -/
structure Counted (s u : RouteCatalog T) (g next : CatalogDuty) (owed : Multiset CatalogDuty)
    (c : CatalogSection T) : Prop where
  covered : Covered u (next ::ₘ owed)
  doubled : ∀ route, 2 ≤ entries route u.routeOrder (next ::ₘ owed) ↔
    2 ≤ entries route s.routeOrder (g ::ₘ owed) ∨ (c = .pushIfAbsent route ∧ .push route ∈ owed)

/-- A section that only reads, or moves a route to the back. -/
theorem Counted.of_same (same : ∀ route, u.routeOrder.count route = s.routeOrder.count route)
    (declared : u.declaredRoutes = s.declaredRoutes) (other : ∀ route, c ≠ .pushIfAbsent route)
    (covered : Covered s (.begin ::ₘ owed)) : Counted s u .begin .done owed c := by
  have entries_eq : ∀ route, entries route u.routeOrder (.done ::ₘ owed) =
      entries route s.routeOrder (.begin ::ₘ owed) := by
    intro route
    simp [entries, same]
  constructor
  · intro route
    rw [declared, covered route, entries_eq]
    simp
  · intro route
    simp [entries_eq, other]

/-- The first section of a `get_or_insert_with` that does not find its route: nobody has an entry
of it, or is about to look for one. -/
theorem Counted.of_declare {added : Route} {build : T} (found : s.declaredRoutes.lookup added = none)
    (covered : Covered s (.begin ::ₘ owed)) :
    Counted s { s with declaredRoutes := s.declaredRoutes.insert added build } .begin (.push added)
      owed (.getOrDeclare added build) := by
  have absent : added ∉ s.declaredRoutes := AList.lookup_eq_none.1 found
  have none : entries added s.routeOrder owed = 0 := by
    rw [covered added, not_or, entries_cons] at absent
    simpa using absent.1
  constructor
  · intro route
    rw [mem_declaredRoutes_insert, covered route, entries_cons, entries_cons]
    by_cases same : added = route
    · simp [same]
    · simp [same, Ne.symm same]
  · intro route
    rw [entries_cons, entries_cons]
    by_cases same : added = route
    · subst same
      simp [none]
    · simp [same]

/-- The first section of a `register_route`. -/
theorem Counted.of_entry {added : Route} {topology : T} {topologies : AList fun _ : Route => T}
    (declared : ∀ route, route ∈ topologies ↔ route = added ∨ route ∈ s.declaredRoutes)
    (covered : Covered s (.begin ::ₘ owed)) :
    Counted s ⟨topologies, s.routeOrder⟩ .begin (.look added) owed (.entryOrInsert added topology) := by
  constructor
  · intro route
    rw [declared, covered route, entries_cons, entries_cons]
    simp [or_left_comm]
  · intro route
    rw [entries_cons, entries_cons]
    simp

/-- The entry that a `get_or_insert_with` owed is in the list. -/
theorem Counted.of_push {added : Route} (covered : Covered s (.push added ::ₘ owed)) :
    Counted s { s with routeOrder := s.routeOrder ++ [added] } (.push added) .done owed
      (.pushBack added) := by
  have same : ∀ route, entries route (s.routeOrder ++ [added]) (.done ::ₘ owed) =
      entries route s.routeOrder (.push added ::ₘ owed) := by
    intro route
    simp only [entries, List.count_append, List.count_singleton, Multiset.count_cons]
    by_cases same : added = route
    · simp [same, Nat.add_assoc, Nat.add_comm]
    · simp [same, Ne.symm same]
  constructor
  · intro route
    rw [same]
    simpa using covered route
  · intro route
    rw [same]
    simp

/-- The last section of a `register_route` appends an entry where there is none in the list. -/
theorem Counted.of_look {added : Route} (covered : Covered s (.look added ::ₘ owed))
    {order : List Route}
    (appended : order = if added ∈ s.routeOrder then s.routeOrder else s.routeOrder ++ [added]) :
    Counted s { s with routeOrder := order } (.look added) .done owed (.pushIfAbsent added) := by
  have here : order.count added = s.routeOrder.count added + if added ∈ s.routeOrder then 0 else 1 := by
    rw [appended]
    split_ifs <;> simp
  have elsewhere : ∀ route, route ≠ added → order.count route = s.routeOrder.count route := by
    intro route other
    rw [appended]
    split_ifs <;> simp [other.symm]
  have listed : added ∈ s.routeOrder ↔ 0 < s.routeOrder.count added := List.count_pos_iff.symm
  constructor
  · intro route
    rw [covered route, entries_cons, entries_cons]
    by_cases same : route = added
    · subst same
      have some : 0 < entries route order owed := by
        rw [entries, here]
        split_ifs with there
        · have := listed.1 there
          omega
        · omega
      simp [some]
    · simp [entries, elsewhere route same, same]
  · intro route
    rw [entries_cons, entries_cons]
    by_cases same : route = added
    · subst same
      have owes : .push route ∈ owed ↔ 0 < owed.count (.push route) := Multiset.count_pos.symm
      simp only [entries, here, owes, reduceCtorEq, if_false, true_and]
      split_ifs with there
      · have := listed.1 there
        omega
      · have := mt listed.2 there
        omega
    · simp [entries, elsewhere route same, Ne.symm same]

/-- What every section leads to. -/
theorem counted_step (covered : Covered s (g ::ₘ owed)) (permitted : catalogDiscipline.permits g c)
    (answered : handler s c r u) : Counted s u g (catalogDiscipline.next g c r) owed c := by
  cases g with
  | begin =>
    cases c with
    | getOrDeclare added build =>
      cases found : s.declaredRoutes.lookup added with
      | some topology =>
        simp only [handler, CatalogSection.execute, found] at answered
        cases answered
        exact .of_same (fun _ => rfl) rfl (fun _ => nofun) covered
      | none =>
        simp only [handler, CatalogSection.execute, found] at answered
        cases answered
        exact .of_declare found covered
    | entryOrInsert added topology =>
      cases found : s.declaredRoutes.lookup added with
      | some old =>
        simp only [handler, CatalogSection.execute, found] at answered
        cases answered
        have there : added ∈ s.declaredRoutes := AList.lookup_isSome.1 (by rw [found]; rfl)
        refine .of_entry (fun route => ?_) covered
        constructor
        · exact .inr
        · intro either
          rcases either with rfl | declared
          · exact there
          · exact declared
      | none =>
        simp only [handler, CatalogSection.execute, found] at answered
        cases answered
        exact .of_entry (fun _ => mem_declaredRoutes_insert) covered
    | pushBack | pushIfAbsent => exact permitted.elim
    | rotate moved =>
      cases answered
      exact .of_same (count_rotate s moved) (declaredRoutes_rotate s moved) (fun _ => nofun) covered
    | get | topologies | orderedRoutes =>
      cases answered
      exact .of_same (fun _ => rfl) rfl (fun _ => nofun) covered
  | push added =>
    obtain rfl : c = .pushBack added := permitted
    cases answered
    exact .of_push covered
  | look added =>
    obtain rfl : c = .pushIfAbsent added := permitted
    have changed : u = { s with routeOrder := if added ∈ s.routeOrder then s.routeOrder
        else s.routeOrder ++ [added] } := by
      simp only [handler, CatalogSection.execute] at answered
      split_ifs at answered ⊢ with there
      · cases answered
        rfl
      · cases answered
        rfl
    subst changed
    exact .of_look covered rfl
  | done => exact permitted.elim

end Entries

section Runs

variable {b b' : CatalogBusy T} {moves : List (CatalogTransition T)} {route : Route}

/-- What all calls in progress have still to do. -/
def owed (b : CatalogBusy T) : Multiset CatalogDuty := b.calls.map duty

/-- The calls keep to their duties, and the routes are covered. -/
def Tracked (b : CatalogBusy T) : Prop :=
  Accounted catalogDiscipline (fun _ _ _ => True) .begin Covered b

/-- A `register_route` looks for an entry of the route while a `get_or_insert_with` that has declared
the route has yet to append it. -/
def Overlaps (route : Route) (x : CatalogTransition T) : Prop :=
  ∃ r call others, x.label = .command (.pushIfAbsent route) r call others ∧
    .push route ∈ others.map duty

theorem covered_more {s : RouteCatalog T} {rest : Multiset CatalogDuty} {g : CatalogDuty}
    (neutral : ∀ route, g ≠ .push route ∧ g ≠ .look route) :
    Covered s (g ::ₘ rest) ↔ Covered s rest := by
  refine forall_congr' fun route => ?_
  rw [entries_cons, if_neg (neutral route).1, Multiset.mem_cons, or_iff_right (neutral route).2.symm]
  rfl

theorem Tracked.step {m : Move (CatalogSection T) CatalogSection.Reply AppError (CatalogResult T)}
    (tracked : Tracked b) (step : Interleaved handler IsCall b m b') : Tracked b' := by
  let always : CatalogTransition T → Prop := fun _ => True
  have holds : always ⟨b, m, b'⟩ := trivial
  refine Accounted.step ?_ ?_ ?_ ?_ tracked step holds
  · intro p _ _ call _
    obtain ⟨c, rfl⟩ := call
    exact prog_upholds c
  · intro s rest covered
    exact (covered_more (g := .begin) (by simp)).2 covered
  · intro s g rest clear covered
    obtain rfl : g = .done := clear
    exact (covered_more (g := .done) (by simp)).1 covered
  · intro s _ g rest c r u _ _ _ covered permitted answered _
    exact ⟨trivial, (counted_step covered permitted answered).covered⟩

theorem Tracked.new : Tracked (⟨.new, 0⟩ : CatalogBusy T) := by
  refine .idle fun route => ?_
  simp [RouteCatalog.new, entries]

/-- A route gets a second entry in a step only by an overlap. -/
theorem doubled_step {m : Move (CatalogSection T) CatalogSection.Reply AppError (CatalogResult T)}
    (tracked : Tracked b) (step : Interleaved handler IsCall b m b') :
    2 ≤ entries route b'.state.routeOrder (owed b') ↔
      2 ≤ entries route b.state.routeOrder (owed b) ∨ Overlaps route ⟨b, m, b'⟩ := by
  cases step with
  | start call => simp [owed, entries_cons, Overlaps, duty, Discipline.owes, Call.new]
  | @command s u others p log c k r answered =>
    obtain ⟨permitted, covered⟩ := tracked.at_command
    have doubled := (counted_step covered permitted answered).doubled route
    rw [owed, owed, Multiset.map_cons, Multiset.map_cons, duty, Discipline.owes_snoc, doubled]
    refine or_congr Iff.rfl ?_
    constructor
    · intro given
      obtain ⟨same, owes⟩ := given
      subst same
      exact ⟨_, _, _, rfl, owes⟩
    · intro given
      obtain ⟨_, _, _, same, owes⟩ := given
      cases same
      exact ⟨rfl, owes⟩
  | @ret s others p log a =>
    have ended := tracked.upholds _ (Multiset.mem_cons_self _ _)
    cases ended with
    | ret clear =>
      have done : duty (⟨p, log, .ret a⟩ : CatalogCall T) = .done := clear
      simp [owed, entries_cons, Overlaps, done]
  | @fail s others p log e =>
    have ended := tracked.upholds _ (Multiset.mem_cons_self _ _)
    cases ended with
    | fail clear =>
      have done : duty (⟨p, log, .fail e⟩ : CatalogCall T) = .done := clear
      simp [owed, entries_cons, Overlaps, done]

/-- A route has a second entry after a run exactly if it had one before or somewhere in the run
there was an overlap. -/
theorem doubled_run (tracked : Tracked b) (run : Run (Interleaved handler IsCall) b moves b') :
    2 ≤ entries route b'.state.routeOrder (owed b') ↔
      2 ≤ entries route b.state.routeOrder (owed b) ∨ ∃ x ∈ moves, Overlaps route x := by
  induction run with
  | done b => simp
  | step first _ ih =>
    rw [ih (tracked.step first), doubled_step tracked first, or_assoc]
    simp

/-- The order list has no duplicates and contains exactly the routes of the map. -/
structure Consistent (s : RouteCatalog T) : Prop where
  nodup : s.routeOrder.Nodup
  listed : ∀ route, route ∈ s.routeOrder ↔ route ∈ s.declaredRoutes

/-- With no call in progress, the routes of the map are listed, and only duplicates are in the
way of consistency. -/
theorem consistent_iff {s : RouteCatalog T} (tracked : Tracked (⟨s, 0⟩ : CatalogBusy T)) :
    Consistent s ↔ ∀ route, ¬ 2 ≤ entries route s.routeOrder 0 := by
  have covered : Covered s 0 := tracked.holds
  have once : s.routeOrder.Nodup ↔ ∀ route, ¬ 2 ≤ entries route s.routeOrder 0 := by
    rw [List.nodup_iff_count_le_one]
    simp only [entries, Multiset.count_zero, Nat.add_zero]
    exact forall_congr' fun route => by omega
  rw [← once]
  constructor
  · exact Consistent.nodup
  · intro nodup
    refine ⟨nodup, fun route => ?_⟩
    rw [covered route]
    simp [entries, List.count_pos_iff]

end Runs

section Topologies

variable {s u : RouteCatalog T} {c : CatalogSection T} {r : c.Reply} {route : Route} {topology : T}
  {b b' : CatalogBusy T} {moves : List (CatalogTransition T)}

/-- The topology that a section has answered with, or has inserted, is the one in the map. -/
def Recorded (s : RouteCatalog T) : Sigma (CatalogSection.Reply (T := T)) → Prop
  | ⟨.getOrDeclare route _, some topology⟩ => s.declaredRoutes.lookup route = some topology
  | ⟨.getOrDeclare route build, none⟩ => s.declaredRoutes.lookup route = some build
  | ⟨.get route, some topology⟩ => s.declaredRoutes.lookup route = some topology
  | _ => True

theorem lookup_step (answered : handler s c r u)
    (found : s.declaredRoutes.lookup route = some topology) :
    u.declaredRoutes.lookup route = some topology := by
  have kept : ∀ added build, s.declaredRoutes.lookup added = none →
      (s.declaredRoutes.insert added build).lookup route = some topology := by
    intro added build absent
    have other : route ≠ added := by
      intro same
      rw [same, absent] at found
      cases found
    rwa [AList.lookup_insert_ne other]
  cases c with
  | getOrDeclare added build =>
    cases there : s.declaredRoutes.lookup added <;>
      simp only [handler, CatalogSection.execute, there] at answered <;> cases answered
    · exact kept added build there
    · exact found
  | entryOrInsert added build =>
    cases there : s.declaredRoutes.lookup added <;>
      simp only [handler, CatalogSection.execute, there] at answered <;> cases answered
    · exact kept added build there
    · exact found
  | pushIfAbsent added =>
    simp only [handler, CatalogSection.execute] at answered
    split_ifs at answered <;> cases answered <;> exact found
  | rotate moved =>
    cases answered
    rwa [declaredRoutes_rotate]
  | pushBack | get | topologies | orderedRoutes =>
    cases answered
    exact found

theorem recorded_step (answered : handler s c r u) : Recorded u ⟨c, r⟩ := by
  cases c with
  | getOrDeclare added build =>
    cases there : s.declaredRoutes.lookup added <;>
      simp only [handler, CatalogSection.execute, there] at answered <;> cases answered
    · exact AList.lookup_insert _
    · exact there
  | get added =>
    cases there : s.declaredRoutes.lookup added <;>
      simp only [handler, CatalogSection.execute, RouteCatalog.get, there] at answered <;>
      cases answered
    · trivial
    · exact there
  | _ => trivial

theorem Recorded.step {entry : Sigma (CatalogSection.Reply (T := T))} (answered : handler s c r u)
    (recorded : Recorded s entry) : Recorded u entry := by
  obtain ⟨c', r'⟩ := entry
  cases c' with
  | getOrDeclare added build => cases r' <;> exact lookup_step answered recorded
  | get added =>
    cases r' with
    | none => trivial
    | some topology => exact lookup_step answered recorded
  | _ => trivial

/-- What all calls in progress have been answered is in the map. -/
def LogsRecorded (b : CatalogBusy T) : Prop :=
  ∀ call ∈ b.calls, ∀ entry ∈ call.log, Recorded b.state entry

theorem LogsRecorded.step {m : Move (CatalogSection T) CatalogSection.Reply AppError (CatalogResult T)}
    (logs : LogsRecorded b) (step : Interleaved handler IsCall b m b') : LogsRecorded b' := by
  cases step with
  | start =>
    intro call mem entry logged
    rcases Multiset.mem_cons.1 mem with rfl | old
    · cases logged
    · exact logs call old entry logged
  | command answered =>
    intro call mem entry logged
    rcases Multiset.mem_cons.1 mem with rfl | old
    · rcases List.mem_append.1 logged with before | last
      · exact (logs _ (Multiset.mem_cons_self _ _) entry before).step answered
      · obtain rfl := List.mem_singleton.1 last
        exact recorded_step answered
    · exact (logs call (Multiset.mem_cons_of_mem old) entry logged).step answered
  | ret => exact fun call mem => logs call (Multiset.mem_cons_of_mem mem)
  | fail => exact fun call mem => logs call (Multiset.mem_cons_of_mem mem)

/-- The topology that a call has ended with. -/
def Reports (route : Route) (topology : T) : CatalogResult T → Prop
  | ⟨.getOrInsertWith asked _, found⟩ => asked = route ∧ found = topology
  | ⟨.get asked, found⟩ => asked = route ∧ found = some topology
  | _ => False

def EndsWith (route : Route) (topology : T) (x : CatalogTransition T) : Prop :=
  ∃ call result, x.label = .finish call (.ok result) ∧ Reports route topology result

/-- A call ends with a topology that it has been answered, or has inserted itself. -/
theorem lookup_of_reports {c : CatalogCmd T} {result : CatalogResult T}
    {log : List (Sigma (CatalogSection.Reply (T := T)))}
    (run : Exec (logging fun _ _ => True) c.prog [] (.ok result) log)
    (reports : Reports route topology result) (recorded : ∀ entry ∈ log, Recorded s entry) :
    s.declaredRoutes.lookup route = some topology := by
  cases c with
  | getOrInsertWith asked build =>
    obtain ⟨found, _, ⟨-, rfl⟩, run⟩ := exec_call.1 run
    cases found with
    | some old =>
      obtain ⟨same, rfl⟩ := exec_ret.1 run
      cases same
      obtain ⟨rfl, rfl⟩ := reports
      exact recorded ⟨.getOrDeclare asked build, some old⟩ (by simp)
    | none =>
      obtain ⟨_, _, ⟨-, rfl⟩, run⟩ := exec_call.1 run
      obtain ⟨same, rfl⟩ := exec_ret.1 run
      cases same
      obtain ⟨rfl, rfl⟩ := reports
      exact recorded ⟨.getOrDeclare asked build, none⟩ (by simp)
  | get asked =>
    obtain ⟨found, _, ⟨-, rfl⟩, run⟩ := exec_call.1 run
    obtain ⟨same, rfl⟩ := exec_ret.1 run
    cases same
    obtain ⟨rfl, rfl⟩ := reports
    exact recorded ⟨.get asked, some topology⟩ (by simp)
  | registerRoute =>
    obtain ⟨_, _, -, run⟩ := exec_call.1 run
    obtain ⟨_, _, -, run⟩ := exec_call.1 run
    obtain ⟨same, -⟩ := exec_ret.1 run
    cases same
    exact reports.elim
  | topologies | orderedRoutes | rotate =>
    obtain ⟨_, _, -, run⟩ := exec_call.1 run
    obtain ⟨same, -⟩ := exec_ret.1 run
    cases same
    exact reports.elim

/-- What a call has ended with stays in the map. -/
theorem lookup_of_endsWith (run : Run (Interleaved handler IsCall) ⟨.new, 0⟩ moves b) :
    ∀ x ∈ moves, EndsWith route topology x → b.state.declaredRoutes.lookup route = some topology := by
  intro x mem ends
  obtain ⟨call, result, ended, reports⟩ := ends
  have given : ∀ x ∈ moves, AnswersAllowed (fun _ _ => True) x := fun _ _ _ _ _ _ _ => trivial
  obtain ⟨allowed, alone⟩ := exec_of_finish run given x mem call (.ok result) ended
  obtain ⟨c, isCall⟩ := allowed
  rw [isCall] at alone
  obtain ⟨front, back, rfl⟩ := List.append_of_mem mem
  obtain ⟨before, step, after⟩ := run.split
  have logs : LogsRecorded x.before :=
    before.invariant (fun _ _ _ logs step => LogsRecorded.step logs step)
      fun call mem => absurd mem (Multiset.notMem_zero call)
  have there : x.before.state.declaredRoutes.lookup route = some topology := by
    refine lookup_of_reports alone reports (logs call ?_)
    obtain ⟨before, label, after⟩ := x
    obtain rfl : label = .finish call (.ok result) := ended
    cases step
    exact Multiset.mem_cons_self _ _
  let Stays : CatalogBusy T → Prop := fun b =>
    b.state.declaredRoutes.lookup route = some topology
  have stays : ∀ b m b', Stays b → Interleaved handler IsCall b m b' → Stays b' := by
    intro b m b' found step
    cases step with
    | command answered => exact lookup_step answered found
    | start | ret | fail => exact found
  exact @Run.invariant _ _ _ _ _ _ Stays stays (stays _ _ _ there step) after

end Topologies

/-- After a run that has left no call in progress, the order list is consistent with the map and
the calls have ended with the same topologies exactly if nowhere in the run a `register_route` has
looked for a route that a `get_or_insert_with` had declared and not appended yet. -/
theorem catalog_consistent_iff {s : RouteCatalog T} {moves : List (CatalogTransition T)}
    (run : Run (Interleaved handler IsCall) ⟨.new, 0⟩ moves ⟨s, 0⟩) :
    (Consistent s ∧ ∀ route, ∀ x ∈ moves, ∀ y ∈ moves, ∀ topology topology',
      EndsWith route topology x → EndsWith route topology' y → topology = topology') ↔
    ∀ x ∈ moves, ∀ route, ¬ Overlaps route x := by
  have tracked : Tracked (⟨s, 0⟩ : CatalogBusy T) :=
    @Run.invariant _ _ _ _ _ _ Tracked (fun _ _ _ tracked step => tracked.step step) .new run
  have doubled : ∀ route, 2 ≤ entries route s.routeOrder 0 ↔ ∃ x ∈ moves, Overlaps route x := by
    intro route
    have counted : 2 ≤ entries route s.routeOrder _ ↔ _ := doubled_run .new run
    simpa [owed, entries, RouteCatalog.new] using counted
  have agree : ∀ route, ∀ x ∈ moves, ∀ y ∈ moves, ∀ topology topology',
      EndsWith route topology x → EndsWith route topology' y → topology = topology' := by
    intro route x listed y listed' topology topology' ends ends'
    have found := lookup_of_endsWith run x listed ends
    rw [lookup_of_endsWith run y listed' ends'] at found
    exact (Option.some.inj found).symm
  rw [consistent_iff tracked, and_iff_left agree]
  simp only [doubled, not_exists, not_and]
  exact ⟨fun none x mem route => none route x mem, fun none route x mem => none x mem route⟩

section Samples

/-- That a step overlaps with nothing, as a test. -/
def apart (_ : RouteCatalog String) :
    (c : CatalogSection String) → c.Reply → CatalogCall String → List (CatalogCall String) → Bool
  | .pushIfAbsent route, _, _, others => others.all fun other => duty other ≠ .push route
  | _, _, _, _ => true

/-- Calls of one catalog, section by section. -/
def playCalls (good : RouteCatalog String → (c : CatalogSection String) → c.Reply →
      CatalogCall String → List (CatalogCall String) → Bool)
    (turns : List (CatalogCmd String ⊕ Nat)) :
    Option ((RouteCatalog String × List (CatalogCall String)) ×
      List (Sigma (CatalogSection.Reply (T := String)))) :=
  tryPlay (fun s c => some (CatalogSection.execute s c)) good .new [] (schedule CatalogCmd.prog turns)

theorem run_playCalls {good : RouteCatalog String → (c : CatalogSection String) → c.Reply →
      CatalogCall String → List (CatalogCall String) → Bool}
    {turns : List (CatalogCmd String ⊕ Nat)} {s : RouteCatalog String}
    {left : List (CatalogCall String)} {log : List (Sigma (CatalogSection.Reply (T := String)))}
    (played : playCalls good turns = some ((s, left), log)) :
    ∃ moves, Run (Interleaved handler IsCall) ⟨.new, 0⟩ moves ⟨s, ↑left⟩ ∧ Passes good log moves :=
  run_tryPlay _ (admits_some fun _ _ => rfl) (fun _ => named_of_start) played

/-- A worker registers a route from the registry. Meanwhile one call inserts another route, which it
has declared and not appended, and a third call asks for the first one. -/
def apartTurns : List (CatalogCmd String ⊕ Nat) :=
  [.inl (.getOrInsertWith ("oj", "fast") "topology"),
    .inl (.registerRoute ("judge", "fast") "registered"),
    .inl (.getOrInsertWith ("judge", "fast") "built"), .inr 0, .inr 1, .inr 2, .inr 1] ++
  inTurn 3 [2, 1, 0]

theorem catalog_consistent_of_sample : ∃ (s : RouteCatalog String)
    (moves : List (CatalogTransition String)),
    Run (Interleaved handler IsCall) ⟨.new, 0⟩ moves ⟨s, 0⟩ ∧
    s.routeOrder = [("judge", "fast"), ("oj", "fast")] ∧ Consistent s := by
  have ended : (playCalls apart apartTurns).any (fun ran => ran.1.2.isEmpty &&
      ran.1.1.routeOrder = [("judge", "fast"), ("oj", "fast")]) = true := by
    decide
  obtain ⟨⟨⟨s, left⟩, log⟩, played, ended⟩ := (Option.any_eq_true _ _).1 ended
  obtain ⟨finished, order⟩ := Bool.and_eq_true_iff.1 ended
  obtain rfl := List.isEmpty_iff.1 finished
  obtain ⟨moves, run, passes⟩ := run_playCalls played
  refine ⟨s, moves, run, of_decide_eq_true order, ((catalog_consistent_iff run).2 ?_).1⟩
  intro x mem route overlaps
  obtain ⟨r, call, others, same, owes⟩ := overlaps
  obtain ⟨list, rfl, passed⟩ := passes.tested x mem _ _ _ _ same
  obtain ⟨other, there, pushes⟩ := Multiset.mem_map.1 owes
  exact of_decide_eq_true (List.all_eq_true.1 passed other (Multiset.mem_coe.1 there)) pushes

/-- A worker registers a route from the registry while another call inserts it. -/
def overlapTurns : List (CatalogCmd String ⊕ Nat) :=
  [.inl (.getOrInsertWith ("oj", "fast") "topology"),
    .inl (.registerRoute ("oj", "fast") "topology"), .inr 0, .inr 1, .inr 1] ++ inTurn 3 [0]

/-- The route is in the order list twice. -/
theorem overlap_doubles : ∃ (s : RouteCatalog String) (moves : List (CatalogTransition String)),
    Run (Interleaved handler IsCall) ⟨.new, 0⟩ moves ⟨s, 0⟩ ∧
    s.routeOrder = [("oj", "fast"), ("oj", "fast")] ∧ ¬ Consistent s := by
  have ended : (playCalls (fun _ _ _ _ _ => true) overlapTurns).any (fun ran => ran.1.2.isEmpty &&
      ran.1.1.routeOrder = [("oj", "fast"), ("oj", "fast")]) = true := by
    decide
  obtain ⟨⟨⟨s, left⟩, log⟩, played, ended⟩ := (Option.any_eq_true _ _).1 ended
  obtain ⟨finished, order⟩ := Bool.and_eq_true_iff.1 ended
  obtain rfl := List.isEmpty_iff.1 finished
  obtain ⟨moves, run, -⟩ := run_playCalls played
  have doubled := of_decide_eq_true order
  refine ⟨s, moves, run, doubled, fun consistent => ?_⟩
  have nodup := consistent.nodup
  rw [doubled] at nodup
  revert nodup
  decide

end Samples

end CatalogSections

end NexusCore.Runtime
