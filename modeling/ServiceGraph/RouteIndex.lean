import ServiceGraph.Ir.Basic

/-!
# The route table of a snapshot

Every routed controller method of every microservice, by its route (`Method.route`), walked in
order of microservice, controller and method. A method without a route is left out, and of two
methods with one route the later one stays: `RouteIndex.ofMicroservices` is a left fold of
`insert`, and `insert` replaces the entry of a route it already holds. `resolve` looks a URL up,
`size` counts the distinct routes.
-/

namespace ServiceGraph

open Json

/-- What a caller learns about the method serving a route. -/
structure Endpoint where
  /-- The microservice that owns the route. -/
  microservice : String
  parameters : Value
  returnType : String
  methodName : String
  className : String
  httpMethod : Option String

/-- Routes and the endpoints serving them, one entry a route. -/
structure RouteIndex where
  entries : List (String × Endpoint) := []

namespace RouteIndex

/-- Registers a route: an entry for the same route is replaced where it stands, a new route goes
last. -/
def insert (index : RouteIndex) (route : String) (e : Endpoint) : RouteIndex :=
  if index.entries.any (·.1 == route) then
    ⟨index.entries.map fun entry => if entry.1 == route then (route, e) else entry⟩
  else ⟨index.entries ++ [(route, e)]⟩

/-- The endpoint serving a URL. -/
def resolve (index : RouteIndex) (url : String) : Option Endpoint :=
  (index.entries.find? (·.1 == url)).map (·.2)

/-- The number of distinct routes. -/
def size (index : RouteIndex) : Nat := index.entries.length

/-- The endpoint a method of a microservice offers. -/
def endpoint (ms : Microservice) (m : Method) : Endpoint :=
  ⟨ms.name, m.parameters, m.returnType, m.name, m.className, m.httpMethod⟩

/-- Every routed method of the microservices, with its route, in walk order. -/
def routedMethods (microservices : List Microservice) : List (String × Endpoint) :=
  microservices.flatMap fun ms => ms.controllers.flatMap fun c =>
    c.methods.filterMap fun m => m.route.map fun r => (r, endpoint ms m)

/-- The route table of a list of microservices. -/
def ofMicroservices (microservices : List Microservice) : RouteIndex :=
  (routedMethods microservices).foldl (fun index re => index.insert re.1 re.2) {}

end RouteIndex

end ServiceGraph
