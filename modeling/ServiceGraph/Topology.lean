import ServiceGraph.DiGraph
import ServiceGraph.Graph.Snapshot

/-!
# Who depends on whom

The topology of a graph is a directed graph with a node per service, weighted by its name, and an
edge per link, from the node of its source to the node of its target, weighted by its number of
requests (parallel edges and self-links allowed); `byName` finds the node of a service (a map
that is only read and given new keys, kept as a list of pairs). A service
gets its node on first sight (`intern`): the node names first, then the source and the target of
each link in table order.

`dependencies` and `dependents` list the distinct names at the far end of a service's outgoing
and incoming edges, sorted; a name that is no service has none. The dependency cycles are the
strongly connected components with at least two services, each as its names sorted, the list
sorted: `cyclesWith scc` reads them off a search `scc` for the components, and `cycles` uses
`DiGraph.components`.
-/

namespace ServiceGraph

/-- Sorts strings by code point, which is the byte order of their UTF-8 text. -/
def sortStrings (xs : List String) : List String := xs.mergeSort fun a b => decide (a ≤ b)

/-- The services of a graph as the nodes of a directed graph, its links as the edges. -/
structure Topology where
  graph : DiGraph String Nat := {}
  byName : List (String × Nat) := []

namespace Topology

/-- The node of a service, added on first sight. -/
def intern (t : Topology) (name : String) : Topology × Nat :=
  match t.byName.lookup name with
  | some idx => (t, idx)
  | none =>
    let (graph, idx) := t.graph.addNode name
    ({ graph, byName := (name, idx) :: t.byName }, idx)

/-- Adds the edge of a link, from its source's node to its target's, weighted by its number of
requests. -/
def addLink (t : Topology) (l : Link) : Topology :=
  let (t, source) := t.intern l.source
  let (t, target) := t.intern l.target
  { t with graph := t.graph.addEdge source target l.requests.length }

/-- The topology of a graph: its node names are interned first, then its links in table order. -/
def ofGraph (g : Graph) : Topology :=
  g.links.links.foldl addLink (g.nodes.foldl (fun t n => (t.intern n.name).1) {})

/-- The number of services. -/
def serviceCount (t : Topology) : Nat := t.graph.nodeCount

/-- The distinct names at the far end of a service's edges in one direction, sorted. -/
def neighbors (t : Topology) (name : String) (d : Direction) : List String :=
  match t.byName.lookup name with
  | none => []
  | some idx =>
    (sortStrings ((t.graph.neighborsDirected idx d).filterMap t.graph.nodeWeight)).eraseReps

/-- The services a service sends requests to, sorted. -/
def dependencies (t : Topology) (name : String) : List String := t.neighbors name .outgoing

/-- The services that send requests to a service, sorted. -/
def dependents (t : Topology) (name : String) : List String := t.neighbors name .incoming

/-- The dependency cycles read off a search `scc` for strongly connected components: the parts
of two or more services, each as its names sorted, the list sorted. -/
def cyclesWith (scc : DiGraph String Nat → List (List Nat)) (t : Topology) :
    List (List String) :=
  (((scc t.graph).filter (1 < ·.length)).map fun c =>
    sortStrings (c.filterMap t.graph.nodeWeight)).mergeSort fun a b => decide (List.le a b)

/-- The dependency cycles, with the components `DiGraph.components` finds. -/
def cycles (t : Topology) : List (List String) := t.cyclesWith DiGraph.components

end Topology

end ServiceGraph
