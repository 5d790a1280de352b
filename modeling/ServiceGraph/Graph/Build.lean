import ServiceGraph.RouteIndex
import ServiceGraph.Graph.Snapshot

/-!
# Building the graph of a document

Each call of a document is classified (`classify`) in walk order — microservices in order, their
call sites (services, then controllers), each site's calls in order — against the route table of
all the document's microservices:

- a call without a URL stays local;
- a URL no method serves is unresolved;
- otherwise the call goes from its `microserviceName` (the enclosing microservice's name when it
  has none) to the microservice owning the route, and is a self call when the two are the same;
- every other call is a `Request` on the link from source to target.

`Graph.build` pushes the requests onto a link table in that order and counts the outcomes in a
`Tally`. A node filter decides only which microservices become nodes: routes and calls of every
microservice take part whatever the filter says.
-/

namespace ServiceGraph

/-- What became of one call. -/
inductive Outcome where
  /-- The call has no URL. -/
  | local
  /-- No method serves the URL. -/
  | unresolved
  /-- The call stays inside one microservice. -/
  | selfCall
  /-- A request from one microservice to another. -/
  | request (source target : String) (r : Request)

/-- The request a resolved call makes. -/
def Request.ofCall (call : Call) (url : String) (callerClass : String) (e : Endpoint) : Request :=
  { destinationUrl := url
    sourceMethod := call.calledFrom
    endpointFunction := call.name
    className := callerClass
    destinationClassName := e.className
    verb := call.httpMethod
    argument := call.parameterContents
    msReturn := e.returnType }

/-- The outcome of one call of a call site of a microservice. -/
def classify (index : RouteIndex) (ms : Microservice) (site : CallSite) (call : Call) : Outcome :=
  match call.url with
  | none => .local
  | some url =>
    match index.resolve url with
    | none => .unresolved
    | some e =>
      let source := call.microserviceName.getD ms.name
      if source = e.microservice then .selfCall
      else .request source e.microservice (Request.ofCall call url site.callerClass e)

/-- The outcome of every call of a document, in walk order. -/
def Document.outcomes (d : Document) : List Outcome :=
  let index := RouteIndex.ofMicroservices d.microservices
  d.microservices.flatMap fun ms =>
    ms.callSites.flatMap fun site => site.calls.map (classify index ms site)

/-- Counts of what happened to the calls of a document. -/
structure Tally where
  callSites : Nat := 0
  callsSeen : Nat := 0
  /-- Calls that never leave their service. -/
  callsWithoutUrl : Nat := 0
  /-- Calls whose URL no method serves. -/
  unresolvedCalls : Nat := 0
  selfLoops : Nat := 0
  requests : Nat := 0
  deriving DecidableEq

/-- Counts one more call. -/
def Tally.record (t : Tally) : Outcome → Tally
  | .local => { t with callsSeen := t.callsSeen + 1, callsWithoutUrl := t.callsWithoutUrl + 1 }
  | .unresolved => { t with callsSeen := t.callsSeen + 1, unresolvedCalls := t.unresolvedCalls + 1 }
  | .selfCall => { t with callsSeen := t.callsSeen + 1, selfLoops := t.selfLoops + 1 }
  | .request .. => { t with callsSeen := t.callsSeen + 1, requests := t.requests + 1 }

/-- Adds the request of an outcome, if it has one, to a link table. -/
def LinkTable.record (t : LinkTable) : Outcome → LinkTable
  | .request source target r => t.push source target r
  | _ => t

/-- Whether a node filter lets a microservice through: no filter lets every one through. -/
def passes (filter : Option (List String)) (name : String) : Bool :=
  filter.all (·.contains name)

/-- The graph of a document, with its tally. -/
def Graph.build (filter : Option (List String)) (d : Document) : Graph × Tally :=
  let outcomes := d.outcomes
  let tally := outcomes.foldl Tally.record
    { callSites := (d.microservices.map (·.callSites.length)).foldr (· + ·) 0 }
  ({ nodes := (d.microservices.filter (passes filter ·.name)).map Node.ofMicroservice
     links := outcomes.foldl LinkTable.record {}
     commitId := d.commitId }, tally)

end ServiceGraph
