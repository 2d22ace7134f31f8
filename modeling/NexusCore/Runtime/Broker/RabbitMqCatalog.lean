import NexusCore.Runtime.Broker.RabbitMq

/-!
# The topologies that the RabbitMQ adapter knows

Nothing enters the route catalog of the adapter but the topology that is built for a route, and
whatever reads the catalog works with such topologies.
-/

namespace NexusCore.Runtime

open NexusCore.Lib

namespace RabbitMq

/-- The topology of some route. -/
def Built (config : RabbitMqQueueConfig) (topology : RabbitMqRouteTopology) : Prop :=
  ∃ queue lane, topology = buildRouteTopology config queue lane

/-- The topologies in a catalog are those of routes. -/
def Catalogued (config : RabbitMqQueueConfig) (catalog : RouteCatalog RabbitMqRouteTopology) : Prop :=
  ∀ route topology, catalog.declaredRoutes.lookup route = some topology → Built config topology

/-- An operation that puts nothing else into the catalog. -/
def Builds (config : RabbitMqQueueConfig) : RabbitMqOp → Prop
  | .catalog (.getOrInsertWith _ topology) | .catalog (.registerRoute _ topology) =>
    Built config topology
  | _ => True

section Catalogued

variable {config : RabbitMqQueueConfig} {catalog : RouteCatalog RabbitMqRouteTopology}

theorem catalogued_new : Catalogued config .new := by
  intro route topology found
  rw [RouteCatalog.new, AList.lookup_empty] at found
  cases found

theorem Catalogued.insert (catalogued : Catalogued config catalog) {route : Route}
    {topology : RabbitMqRouteTopology} (built : Built config topology) (order : List Route) :
    Catalogued config ⟨catalog.declaredRoutes.insert route topology, order⟩ := by
  intro other topology' found
  rcases of_lookup_insert found with ⟨-, rfl⟩ | ⟨-, old⟩
  · exact built
  · exact catalogued other topology' old

theorem Catalogued.execute {c : CatalogCmd RabbitMqRouteTopology}
    (catalogued : Catalogued config catalog) (builds : Builds config (.catalog c)) :
    Catalogued config (c.execute catalog).2 := by
  cases c with
  | get | topologies | orderedRoutes => exact catalogued
  | rotate route =>
    simp only [CatalogCmd.execute, RouteCatalog.rotate]
    split_ifs <;> exact catalogued
  | getOrInsertWith route topology =>
    simp only [CatalogCmd.execute, RouteCatalog.getOrInsertWith]
    split
    · exact catalogued
    · exact catalogued.insert builds _
  | registerRoute route topology =>
    simp only [CatalogCmd.execute, RouteCatalog.registerRoute]
    split
    · exact catalogued
    · exact catalogued.insert builds _

theorem Catalogued.topologies (catalogued : Catalogued config catalog) :
    ∀ topology ∈ catalog.topologies, Built config topology := by
  intro topology listed
  obtain ⟨⟨route, _⟩, sorted, rfl⟩ := List.mem_map.1 listed
  have entry := (List.mergeSort_perm _ _).mem_iff.1 sorted
  exact catalogued route _ (AList.mem_lookup_iff.2 entry)

end Catalogued

end RabbitMq

end NexusCore.Runtime
