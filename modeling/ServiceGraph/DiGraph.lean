/-!
# Directed graphs with weights

A `DiGraph` is a directed multigraph whose nodes are numbered `0, 1, …` in the order they were
added and carry a weight, and whose edges, kept in the order they were added, each go from one
node to another or to itself and carry a weight. `neighborsDirected` lists the far end of each
edge leaving (`outgoing`) or entering (`incoming`) a node, once per edge, the latest edge first.
Adding an edge does not look at its ends: the graphs built here only join nodes they have.

A strongly connected component is a set of nodes each of which reaches every other along edges.
`components` finds them: for each node, the nodes it reaches that reach it back, each part listed
once.
-/

namespace ServiceGraph

/-- Which end of its edges a node is at. -/
inductive Direction where
  | outgoing
  | incoming
  deriving DecidableEq

/-- A directed multigraph with node weights `N` and edge weights `E`; a node is its index. -/
structure DiGraph (N E : Type) where
  nodes : List N := []
  edges : List (Nat × Nat × E) := []

namespace DiGraph

variable {N E : Type}

/-- Adds a node, which gets the next index. -/
def addNode (g : DiGraph N E) (w : N) : DiGraph N E × Nat :=
  ({ g with nodes := g.nodes ++ [w] }, g.nodes.length)

/-- Adds an edge from node `a` to node `b`. -/
def addEdge (g : DiGraph N E) (a b : Nat) (w : E) : DiGraph N E :=
  { g with edges := g.edges ++ [(a, b, w)] }

/-- The number of nodes. -/
def nodeCount (g : DiGraph N E) : Nat := g.nodes.length

/-- The weight of a node. -/
def nodeWeight (g : DiGraph N E) (i : Nat) : Option N := g.nodes[i]?

/-- The far ends of the edges at node `i` in one direction, once per edge, the latest first. -/
def neighborsDirected (g : DiGraph N E) (i : Nat) : Direction → List Nat
  | .outgoing => g.edges.reverse.filterMap fun e => if e.1 = i then some e.2.1 else none
  | .incoming => g.edges.reverse.filterMap fun e => if e.2.1 = i then some e.1 else none

/-- The nodes one edge away from a frontier, without repeats. -/
def successors (g : DiGraph N E) (frontier : List Nat) : List Nat :=
  (g.edges.filterMap fun e => if frontier.contains e.1 then some e.2.1 else none).eraseDups

/-- The nodes reached from `seen` by following edges from `frontier` onwards, for at most `fuel`
rounds. -/
def spread (g : DiGraph N E) : Nat → List Nat → List Nat → List Nat
  | 0, seen, _ => seen
  | _ + 1, seen, [] => seen
  | fuel + 1, seen, frontier =>
    let fresh := (g.successors frontier).filter (!seen.contains ·)
    spread g fuel (seen ++ fresh) fresh

/-- The nodes node `i` reaches, itself included. Each round adds a node or ends, so one round
per node suffices. -/
def reach (g : DiGraph N E) (i : Nat) : List Nat := g.spread (g.nodeCount + 1) [i] [i]

/-- The strongly connected component of node `i`: the nodes it reaches that reach it back, in
order. -/
def component (g : DiGraph N E) (i : Nat) : List Nat :=
  (List.range g.nodeCount).filter fun j => (g.reach i).contains j && (g.reach j).contains i

/-- The strongly connected components, each once, in the order of their first node. -/
def components (g : DiGraph N E) : List (List Nat) :=
  ((List.range g.nodeCount).map g.component).eraseDups

end DiGraph

end ServiceGraph
