import ServiceGraph.RouteIndex
import ServiceGraph.Proofs.KeySplit

/-!
# Route tables — the last method of a route serves it

A route table is read through two views: its `routes`, in order, and `resolve`.  Registering a
route (`insert`) changes what that route resolves to and nothing else (`resolve_insert`), and
adds the route last when the table lacks it (`routes_insert`).  So a table built by registering
routes in order (`insertAll`) resolves each route to the endpoint registered last for it
(`resolve_insertAll`), and holds each route once, where it first came (`routes_insertAll`).

The table of a list of microservices registers the routed methods in walk order: microservices
in order, their controllers in order, their methods in order (`ownedMethods`), leaving out the
methods without a route.

**Last write wins** (`last_method_serves_route`).  A URL resolves to the endpoint of the last
method in walk order whose route it is (its owner's name, and the method's parameters, return
type, name, class and HTTP method), to nothing when no method has that route, and the table
holds one entry for each distinct route.
-/

namespace ServiceGraph.RouteIndex

/-- Every controller method of the microservices with the microservice that owns it, in walk
order: microservice, then controller, then method. -/
def ownedMethods (microservices : List Microservice) : List (Microservice × Method) :=
  microservices.flatMap fun ms => ms.controllers.flatMap fun c => c.methods.map (ms, ·)

/-- The routes of a table, in order. -/
def routes (index : RouteIndex) : List String := index.entries.map (·.1)

section Insert

variable (index : RouteIndex) (r u : String) (e : Endpoint)

theorem any_route_iff : index.entries.any (·.1 == r) = true ↔ r ∈ index.routes := by
  simp [routes]

/-- A route the table holds is registered again in place. -/
theorem insert_of_mem (h : r ∈ index.routes) :
    index.insert r e = ⟨index.entries.map fun entry => if entry.1 == r then (r, e) else entry⟩ := by
  rw [insert, if_pos ((any_route_iff index r).2 h)]

/-- A new route is registered last. -/
theorem insert_of_not_mem (h : r ∉ index.routes) :
    index.insert r e = ⟨index.entries ++ [(r, e)]⟩ := by
  rw [insert, if_neg (mt (any_route_iff index r).1 h)]

theorem routes_insert :
    (index.insert r e).routes = if r ∈ index.routes then index.routes else index.routes ++ [r] := by
  by_cases h : r ∈ index.routes
  · rw [if_pos h, insert_of_mem index r e h]
    simp only [routes, List.map_map]
    refine List.map_congr_left fun x _ => ?_
    by_cases hx : x.1 = r <;> simp [hx]
  · rw [if_neg h, insert_of_not_mem index r e h]
    simp [routes]

theorem find?_eq_none_iff : index.entries.find? (·.1 == u) = none ↔ u ∉ index.routes := by
  simp only [List.find?_eq_none, beq_iff_eq, routes, List.mem_map]
  exact ⟨fun h ⟨x, hx, hu⟩ => h x hx hu, fun h x hx hu => h ⟨x, hx, hu⟩⟩

/-- Registering a route changes what that route resolves to, and nothing else. -/
theorem resolve_insert :
    (index.insert r e).resolve u = if u = r then some e else index.resolve u := by
  by_cases h : r ∈ index.routes
  · rw [insert_of_mem index r e h]
    simp only [resolve, List.find?_map, Option.map_map]
    -- the replacement keeps every entry's route, so the search finds the same entry
    have hp : ((fun x : String × Endpoint => x.1 == u) ∘
        fun entry => if entry.1 == r then (r, e) else entry) = fun x => x.1 == u := by
      funext x
      by_cases hx : x.1 = r <;> simp [hx]
    rw [hp]
    by_cases hu : u = r
    · subst hu
      obtain ⟨x, hx⟩ := Option.ne_none_iff_exists'.1 fun hn => (find?_eq_none_iff index u).1 hn h
      have hxu : x.1 = u := by simpa using List.find?_some hx
      simp [hx, hxu]
    · rw [if_neg hu]
      refine Option.map_congr fun x hx => ?_
      have hxu : x.1 = u := by simpa using List.find?_some hx
      simp [hxu, hu]
  · rw [insert_of_not_mem index r e h]
    by_cases hu : u = r
    · subst hu
      simp [resolve, List.find?_append, (find?_eq_none_iff index u).2 h]
    · simp [resolve, List.find?_append, Ne.symm hu, hu]

end Insert

/-! ### Registering routes in order -/

section Fold

/-- Registers routes with their endpoints, in order. -/
def insertAll (index : RouteIndex) (L : List (String × Endpoint)) : RouteIndex :=
  L.foldl (fun index re => index.insert re.1 re.2) index

theorem insertAll_concat (index : RouteIndex) (L : List (String × Endpoint))
    (x : String × Endpoint) : insertAll index (L ++ [x]) = (insertAll index L).insert x.1 x.2 :=
  List.foldl_concat _ _ _ _

/-- Of the routes registered in order, a route resolves to the endpoint registered last for it. -/
theorem resolve_insertAll (L : List (String × Endpoint)) (u : String) :
    (insertAll {} L).resolve u = ((L.filter (·.1 = u)).getLast?).map (·.2) := by
  induction L using List.reverseRecOn with
  | nil => rfl
  | append_singleton L x ih =>
    rw [insertAll_concat, resolve_insert, List.filter_append]
    by_cases hx : x.1 = u
    · simp [hx]
    · simp [hx, Ne.symm hx, ih]

/-- Registering routes in order keeps each route once, where it first came. -/
theorem routes_insertAll (L : List (String × Endpoint)) :
    (insertAll {} L).routes = (L.map (·.1)).eraseDups := by
  induction L using List.reverseRecOn with
  | nil => rfl
  | append_singleton L x ih =>
    rw [insertAll_concat, routes_insert, ih, List.map_append, List.map_singleton,
      eraseDups_concat]
    simp only [List.mem_eraseDups]

end Fold

/-! ### The route table of a list of microservices -/

theorem ofMicroservices_eq (microservices : List Microservice) :
    ofMicroservices microservices = insertAll {} (routedMethods microservices) := rfl

/-- The routed methods are the owned methods that have a route, each with its endpoint. -/
theorem routedMethods_eq (microservices : List Microservice) :
    routedMethods microservices = (ownedMethods microservices).filterMap fun p =>
      p.2.route.map fun r => (r, endpoint p.1 p.2) := by
  simp [routedMethods, ownedMethods, List.filterMap_flatMap, List.filterMap_map]

theorem filter_routedMethods (microservices : List Microservice) (u : String) :
    (routedMethods microservices).filter (·.1 = u) =
      ((ownedMethods microservices).filter (·.2.route = some u)).map fun p =>
        (u, endpoint p.1 p.2) := by
  rw [routedMethods_eq]
  induction ownedMethods microservices with
  | nil => rfl
  | cons p ps ih =>
    cases hr : p.2.route with
    | none => simp [hr, ih]
    | some r =>
      by_cases hu : r = u
      · subst hu
        simp [hr, ih]
      · simp [hr, hu, ih]

section Table

variable (microservices : List Microservice)

/-- A URL resolves to the endpoint of the last method, in walk order, whose route it is. -/
theorem resolve_ofMicroservices (u : String) :
    (ofMicroservices microservices).resolve u =
      ((ownedMethods microservices).filter (·.2.route = some u)).getLast?.map fun p =>
        endpoint p.1 p.2 := by
  rw [ofMicroservices_eq, resolve_insertAll, filter_routedMethods, List.getLast?_map,
    Option.map_map]
  rfl

theorem resolve_ofMicroservices_eq_none_iff (u : String) :
    (ofMicroservices microservices).resolve u = none ↔
      ∀ p ∈ ownedMethods microservices, p.2.route ≠ some u := by
  simp [resolve_ofMicroservices]

/-- The routes of the table's methods, in walk order, repeats included. -/
theorem map_fst_routedMethods :
    (routedMethods microservices).map (·.1) =
      (ownedMethods microservices).filterMap (·.2.route) := by
  rw [routedMethods_eq, List.map_filterMap]
  refine List.filterMap_congr fun p _ => ?_
  cases p.2.route <;> rfl

/-- The table holds as many routes as the methods have distinct routes. -/
theorem size_ofMicroservices :
    (ofMicroservices microservices).size =
      ((ownedMethods microservices).filterMap (·.2.route)).toFinset.card := by
  have hroutes : (ofMicroservices microservices).routes =
      ((ownedMethods microservices).filterMap (·.2.route)).eraseDups := by
    rw [ofMicroservices_eq, routes_insertAll, map_fst_routedMethods]
  have hset : ((ownedMethods microservices).filterMap (·.2.route)).eraseDups.toFinset =
      ((ownedMethods microservices).filterMap (·.2.route)).toFinset := by
    ext r
    simp [List.mem_eraseDups]
  calc (ofMicroservices microservices).size
      = (ofMicroservices microservices).routes.length := by simp [size, routes]
    _ = ((ownedMethods microservices).filterMap (·.2.route)).eraseDups.toFinset.card := by
        rw [hroutes, List.toFinset_card_of_nodup (nodup_eraseDups _)]
    _ = ((ownedMethods microservices).filterMap (·.2.route)).toFinset.card := by rw [hset]

/-- The route table keeps, for each route, the last method in walk order (microservice,
controller, method) with that route: a URL resolves to that method's endpoint, to nothing when
no method has it as its route, and the table holds one entry per distinct route. -/
theorem last_method_serves_route :
    (∀ u, (ofMicroservices microservices).resolve u =
      ((ownedMethods microservices).filter (·.2.route = some u)).getLast?.map fun p =>
        { microservice := p.1.name, parameters := p.2.parameters, returnType := p.2.returnType,
          methodName := p.2.name, className := p.2.className, httpMethod := p.2.httpMethod }) ∧
    (∀ u, (ofMicroservices microservices).resolve u = none ↔
      ∀ p ∈ ownedMethods microservices, p.2.route ≠ some u) ∧
    (ofMicroservices microservices).size =
      ((ownedMethods microservices).filterMap (·.2.route)).toFinset.card :=
  ⟨resolve_ofMicroservices microservices, resolve_ofMicroservices_eq_none_iff microservices,
    size_ofMicroservices microservices⟩

/-- Two microservices register `/dup`; the later one serves it. -/
example :
    ((ofMicroservices
        [{ name := "first",
           controllers := [{ methods := [{ name := "one", url := some "/dup" }] }] },
         { name := "second",
           controllers := [{ methods := [{ name := "two", url := some "/dup" }] }] }]).resolve
        "/dup").map (fun e => (e.microservice, e.methodName)) = some ("second", "two") := by
  decide

end Table

end ServiceGraph.RouteIndex
