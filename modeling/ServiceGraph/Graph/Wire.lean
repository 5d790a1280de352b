import ServiceGraph.Graph.Build
import ServiceGraph.Json.Writer

/-!
# Graphs as JSON

The wire format of graphs. A node is `nodeName`, `nodeType`, `nodePath`, a request is
`destinationUrl`, `sourceMethod`, `endpointFunction`, `className`, `destinationclassName`, `type`,
`argument`, `msReturn`, a link is `source`, `target`, `requests`, and a graph is `graphName`,
`nodes`, `links` (an object in table order), `gitCommitId`, all in that order. A node or link
that carries a change adds its `color`.
-/

namespace ServiceGraph

open Json

/-- The `color` field of a change, if it has one. -/
def Change.colorField (c : Change) : Fields :=
  match c.color with
  | some name => [("color", .str name)]
  | none => []

/-- A node as JSON. -/
def Node.toValue (n : Node) : Value :=
  .obj ([("nodeName", .str n.name), ("nodeType", .str n.kind), ("nodePath", .str n.path)] ++
    n.change.colorField)

/-- A request as JSON. -/
def Request.toValue (r : Request) : Value :=
  .obj [("destinationUrl", .str r.destinationUrl), ("sourceMethod", .str r.sourceMethod),
    ("endpointFunction", .str r.endpointFunction), ("className", .str r.className),
    ("destinationclassName", .str r.destinationClassName), ("type", Value.ofOption r.verb),
    ("argument", r.argument), ("msReturn", .str r.msReturn)]

/-- A link as JSON. -/
def Link.toValue (l : Link) : Value :=
  .obj ([("source", .str l.source), ("target", .str l.target),
    ("requests", .arr (l.requests.map Request.toValue))] ++ l.change.colorField)

/-- A link table as a JSON object in table order. -/
def LinkTable.toValue (t : LinkTable) : Value :=
  .obj (t.entries.map fun e => (e.1, e.2.toValue))

/-- A graph as JSON. -/
def Graph.toValue (g : Graph) : Value :=
  .obj [("graphName", .str Graph.name), ("nodes", .arr (g.nodes.map Node.toValue)),
    ("links", g.links.toValue), ("gitCommitId", .str g.commitId)]

/-- Size figures as JSON. -/
def GraphSize.toValue (s : GraphSize) : Value :=
  .obj [("node_count", Value.ofNat s.nodeCount), ("link_count", Value.ofNat s.linkCount),
    ("request_count", Value.ofNat s.requestCount)]

/-- A tally as JSON. -/
def Tally.toValue (t : Tally) : Value :=
  .obj [("call_sites", Value.ofNat t.callSites), ("calls_seen", Value.ofNat t.callsSeen),
    ("calls_without_url", Value.ofNat t.callsWithoutUrl),
    ("unresolved_calls", Value.ofNat t.unresolvedCalls), ("self_loops", Value.ofNat t.selfLoops),
    ("requests", Value.ofNat t.requests)]

/-- An endpoint as JSON. -/
def Endpoint.toValue (e : Endpoint) : Value :=
  .obj [("microservice", .str e.microservice), ("parameters", e.parameters),
    ("returnType", .str e.returnType), ("methodName", .str e.methodName),
    ("className", .str e.className), ("httpMethod", Value.ofOption e.httpMethod)]

end ServiceGraph
