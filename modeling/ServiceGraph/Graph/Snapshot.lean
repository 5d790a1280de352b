import ServiceGraph.LinkTable

/-!
# Snapshots

A `Graph` is one snapshot: its nodes in order, its links in a `LinkTable`, and the commit it was
built from. Its size is the number of nodes, of links, and of requests over all links.
-/

namespace ServiceGraph

/-- One snapshot of the service dependency graph. -/
structure Graph where
  nodes : List Node := []
  links : LinkTable := {}
  commitId : String := ""

namespace Graph

/-- The name every graph carries. -/
def name : String := "msgraph"

/-- The number of nodes. -/
def nodeCount (g : Graph) : Nat := g.nodes.length

/-- The number of links. -/
def linkCount (g : Graph) : Nat := g.links.size

/-- The number of requests over all links. -/
def requestCount (g : Graph) : Nat := (g.links.links.map (·.requests.length)).foldr (· + ·) 0

/-- The first node with a name. -/
def findNode (g : Graph) (name : String) : Option Node := g.nodes.find? (·.name == name)

/-- The link under the key `linkKey source target`. -/
def link? (g : Graph) (source target : String) : Option Link := g.links.get? (linkKey source target)

end Graph

/-- Size figures of a graph. -/
structure GraphSize where
  nodeCount : Nat
  linkCount : Nat
  requestCount : Nat
  deriving DecidableEq

/-- The size figures of a graph. -/
def Graph.size (g : Graph) : GraphSize := ⟨g.nodeCount, g.linkCount, g.requestCount⟩

end ServiceGraph
