import ServiceGraph.Ir.Basic

/-!
# Service graphs

A `Graph` is one snapshot of the dependencies between microservices: the microservices as `Node`s,
and a `Link` from each service to each other service it calls, carrying every `Request` that
makes it up. Nodes and links carry a `Change` mark when the graph is the merge of two snapshots.
The links live in a `LinkTable` (`ServiceGraph.LinkTable`) under their keys `source --> target`.
-/

namespace ServiceGraph

open Json

/-- How a node or link differs between two snapshots. -/
inductive Change where
  | unchanged
  | added
  | removed
  | changed
  deriving DecidableEq

/-- The word for a change. -/
def Change.name : Change → String
  | .unchanged => "unchanged"
  | .added => "added"
  | .removed => "removed"
  | .changed => "changed"

/-- The colour a change is drawn in; an unchanged item has none. -/
def Change.color : Change → Option String
  | .unchanged => none
  | .added => some "green"
  | .removed => some "red"
  | .changed => some "yellow"

/-- The node type of every microservice node. -/
def microserviceType : String := "microservice"

/-- A microservice in a graph. -/
structure Node where
  name : String
  kind : String := microserviceType
  path : String
  change : Change := .unchanged
  deriving DecidableEq

/-- One call carried by a link. -/
structure Request where
  destinationUrl : String
  /-- The method the call was made from. -/
  sourceMethod : String
  /-- The name of the function that made the call. -/
  endpointFunction : String
  className : String
  destinationClassName : String
  /-- The HTTP verb of the call. -/
  verb : Option String
  argument : Value
  /-- The declared return type of the destination method. -/
  msReturn : String

/-- All calls from one service to another. -/
structure Link where
  source : String
  target : String
  requests : List Request := []
  change : Change := .unchanged

/-- The key of the link from `source` to `target`. -/
def linkKey (source target : String) : String := source ++ " --> " ++ target

/-- The key a link's own endpoints give. -/
def Link.key (l : Link) : String := linkKey l.source l.target

/-- A node for a microservice. -/
def Node.ofMicroservice (ms : Microservice) : Node := { name := ms.name, path := ms.path }

end ServiceGraph
