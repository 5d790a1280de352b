import ServiceGraph.Diff.Merge
import ServiceGraph.Graph.Wire

/-!
# Merge results as JSON

A request delta is `added`, `removed` (requests) and `unmodified` (a count); a summary is its
eight counts under `nodes_added`, `nodes_removed`, `nodes_unmodified`, `links_added`,
`links_removed`, `links_unmodified`, `requests_added`, `requests_removed`.
-/

namespace ServiceGraph

open Json

/-- A request delta as JSON. -/
def RequestDelta.toValue (d : RequestDelta) : Value :=
  .obj [("added", .arr (d.added.map Request.toValue)),
    ("removed", .arr (d.removed.map Request.toValue)), ("unmodified", Value.ofNat d.unmodified)]

/-- A summary as JSON. -/
def DiffSummary.toValue (s : DiffSummary) : Value :=
  .obj [("nodes_added", Value.ofNat s.nodesAdded), ("nodes_removed", Value.ofNat s.nodesRemoved),
    ("nodes_unmodified", Value.ofNat s.nodesUnmodified),
    ("links_added", Value.ofNat s.linksAdded), ("links_removed", Value.ofNat s.linksRemoved),
    ("links_unmodified", Value.ofNat s.linksUnmodified),
    ("requests_added", Value.ofNat s.requestsAdded),
    ("requests_removed", Value.ofNat s.requestsRemoved)]

end ServiceGraph
