import ServiceGraph.Graph.Build
import ServiceGraph.Proofs.LinkTable
import ServiceGraph.Proofs.KeySplit

/-!
# Graph building — the link table groups the routed calls

A *routed call* is a call that becomes a request: it has a URL, some method serves the URL, and
the caller (its `microserviceName`, else the enclosing microservice) is not the route's owner.
`Document.routedCalls` reads them off a document in walk order, without going through the
builder.  `groupLink R k` is what the calls of `R` under the key `k` make together: the endpoints
of the first of them and the requests of all of them, in order.

**Grouping** (`build_groups_routed_calls`).  The built table's keys are the distinct keys of the
routed calls in order of first occurrence, and under each key it holds `groupLink`; the nodes
are the microservices the filter lets through.

**Node filter** (`build_filter_only_limits_nodes`).  The filter decides the nodes and nothing
else: the link table, the tally and the commit are the same under every filter, and a list of
names keeps, in order, the unfiltered nodes with those names.

**Link identity** (`build_links_sound`).  No link is a self link, no two links share their
endpoints, and when distinct endpoint pairs of the document have distinct keys every request
of a link was made by a call from the link's source to its target, whose route the target owns.
The last part needs the condition: a key is a string `source --> target`, and two pairs can
spell the same one (`build_files_request_under_colliding_key`).

The proof runs the builder and the grouping side by side over the routed calls, one call at a
time: the table's `append` and the grouping take the same step (`get?_append_of_get?` against
`groupLink_concat_of_some`, and so on).
-/

namespace ServiceGraph

/-- A call that becomes a request: the services it goes between, and the request it makes. -/
structure Routed where
  source : String
  target : String
  request : Request

/-- The key of the link a routed call belongs to. -/
def Routed.key (x : Routed) : String := linkKey x.source x.target

/-- The routed call a call of a call site makes, if it makes one. -/
def routedCall? (index : RouteIndex) (ms : Microservice) (site : CallSite) (call : Call) :
    Option Routed := do
  let url ← call.url
  let e ← index.resolve url
  let source := call.microserviceName.getD ms.name
  if source = e.microservice then none
  else some ⟨source, e.microservice, Request.ofCall call url site.callerClass e⟩

/-- The routed calls of a document, in walk order. -/
def Document.routedCalls (d : Document) : List Routed :=
  let index := RouteIndex.ofMicroservices d.microservices
  d.microservices.flatMap fun ms => ms.callSites.flatMap fun site =>
    site.calls.filterMap (routedCall? index ms site)

/-- The link the routed calls under key `k` make: the endpoints of the first of them, and the
requests of all of them in order. -/
def groupLink (R : List Routed) (k : String) : Option Link :=
  (R.find? (·.key == k)).map fun x =>
    { source := x.source, target := x.target,
      requests := (R.filter (·.key == k)).map (·.request) }

/-- The routed call an outcome carries, when it is a request. -/
def Outcome.routed? : Outcome → Option Routed
  | .request source target r => some ⟨source, target, r⟩
  | _ => none

/-- Adds a routed call's request to the link of its endpoints. -/
def LinkTable.pushRouted (t : LinkTable) (x : Routed) : LinkTable :=
  t.push x.source x.target x.request

/-! ### The builder's walk is a walk over the routed calls -/

theorem classify_routed? (index : RouteIndex) (ms : Microservice) (site : CallSite)
    (call : Call) : (classify index ms site call).routed? = routedCall? index ms site call := by
  unfold classify routedCall?
  cases hu : call.url with
  | none => rfl
  | some url =>
    cases he : index.resolve url with
    | none => simp [he, Outcome.routed?]
    | some e =>
      by_cases h : call.microserviceName.getD ms.name = e.microservice <;>
        simp [he, h, Outcome.routed?]

theorem outcomes_routed (d : Document) : d.outcomes.filterMap Outcome.routed? = d.routedCalls := by
  simp [Document.outcomes, Document.routedCalls, List.filterMap_flatMap, List.filterMap_map,
    classify_routed?]

/-- Recording an outcome adds its request, if it has one. -/
theorem foldl_record (os : List Outcome) (t : LinkTable) :
    os.foldl LinkTable.record t = (os.filterMap Outcome.routed?).foldl LinkTable.pushRouted t := by
  induction os generalizing t with
  | nil => rfl
  | cons o os ih =>
    cases o with
    | request source target r => exact ih _
    | «local» | unresolved | selfCall => exact ih _

theorem build_links (filter : Option (List String)) (d : Document) :
    (Graph.build filter d).1.links = d.routedCalls.foldl LinkTable.pushRouted {} := by
  simp only [Graph.build]
  rw [foldl_record, outcomes_routed]

/-! ### The grouping, one call at a time -/

section Grouping

variable (R : List Routed) (x : Routed) (k : String)

theorem groupLink_concat_of_ne (h : x.key ≠ k) : groupLink (R ++ [x]) k = groupLink R k := by
  simp [groupLink, List.find?_append, List.filter_append, h]

theorem groupLink_concat_of_some {l : Link} (h : groupLink R x.key = some l) :
    groupLink (R ++ [x]) x.key = some { l with requests := l.requests ++ [x.request] } := by
  obtain ⟨y, hy, rfl⟩ := Option.map_eq_some_iff.1 h
  simp [groupLink, List.find?_append, List.filter_append, hy]

theorem groupLink_concat_of_none (h : groupLink R x.key = none) :
    groupLink (R ++ [x]) x.key =
      some { source := x.source, target := x.target, requests := [x.request] } := by
  have hf : R.find? (·.key == x.key) = none := by simpa [groupLink] using h
  have hnil : R.filter (·.key == x.key) = [] := by
    simpa [List.filter_eq_nil_iff] using List.find?_eq_none.1 hf
  simp [groupLink, List.find?_append, List.filter_append, hf, hnil]

/-- A group is made by a routed call of its key, whose endpoints it carries. -/
theorem groupLink_eq_some {l : Link} (h : groupLink R k = some l) :
    ∃ x ∈ R, x.key = k ∧ l.source = x.source ∧ l.target = x.target ∧
      l.requests = (R.filter (·.key == k)).map (·.request) := by
  obtain ⟨x, hx, rfl⟩ := Option.map_eq_some_iff.1 h
  exact ⟨x, List.mem_of_find?_eq_some hx, by simpa using List.find?_some hx, rfl, rfl, rfl⟩

end Grouping

theorem keys_foldl_pushRouted (R : List Routed) :
    (R.foldl LinkTable.pushRouted {}).keys = (R.map Routed.key).eraseDups := by
  induction R using List.reverseRecOn with
  | nil => rfl
  | append_singleton R x ih =>
    rw [List.foldl_concat, LinkTable.pushRouted, LinkTable.push, LinkTable.keys_append,
      List.map_append, List.map_singleton, eraseDups_concat, ih]
    simp only [List.mem_eraseDups]
    rfl

/-- The table the routed calls build holds, under each key, the group of that key. -/
theorem get?_foldl_pushRouted (R : List Routed) (k : String) :
    (R.foldl LinkTable.pushRouted {}).get? k = groupLink R k := by
  induction R using List.reverseRecOn generalizing k with
  | nil => rfl
  | append_singleton R x ih =>
    rw [List.foldl_concat, LinkTable.pushRouted, LinkTable.push]
    by_cases hk : k = x.key
    · subst hk
      cases hg : groupLink R x.key with
      | none =>
        rw [groupLink_concat_of_none R x hg]
        exact LinkTable.get?_append_of_none _ ((ih _).trans hg) _
      | some l =>
        rw [groupLink_concat_of_some R x hg]
        exact LinkTable.get?_append_of_get? _ ((ih _).trans hg) _
    · rw [LinkTable.get?_append_of_ne _ _ hk, ih, groupLink_concat_of_ne R x k (Ne.symm hk)]

/-! ### The built graph -/

/-- The built table's keys are the routed calls' keys in order of first occurrence, each with
the group of its calls; the nodes are the microservices the filter lets through, in order. -/
theorem build_groups_routed_calls (filter : Option (List String)) (d : Document) :
    (Graph.build filter d).1.links.keys = (d.routedCalls.map Routed.key).eraseDups ∧
    (∀ k, (Graph.build filter d).1.links.get? k = groupLink d.routedCalls k) ∧
    (Graph.build filter d).1.nodes =
      (d.microservices.filter (passes filter ·.name)).map Node.ofMicroservice ∧
    (Graph.build filter d).1.commitId = d.commitId := by
  rw [build_links]
  exact ⟨keys_foldl_pushRouted _, get?_foldl_pushRouted _, rfl, rfl⟩

/-- A node filter decides which microservices become nodes and nothing else: under any two
filters a document builds the same link table, tally and commit, and the nodes under a list of
names are the unfiltered nodes with those names, in order. -/
theorem build_filter_only_limits_nodes (d : Document) :
    (∀ f g : Option (List String),
      (Graph.build f d).1.links = (Graph.build g d).1.links ∧
      (Graph.build f d).2 = (Graph.build g d).2 ∧
      (Graph.build f d).1.commitId = (Graph.build g d).1.commitId) ∧
    ∀ names : List String,
      (Graph.build (some names) d).1.nodes =
        (Graph.build none d).1.nodes.filter (·.name ∈ names) := by
  -- routes and calls are walked for every microservice, so only the nodes read the filter
  refine ⟨fun f g => ⟨rfl, rfl, rfl⟩, fun names => ?_⟩
  simp only [Graph.build, passes, Option.all_none, List.filter_true, List.filter_map]
  congr 1
  apply List.filter_congr
  intro ms _
  rw [Bool.eq_iff_iff]
  simp only [Option.all_some, List.contains_iff_mem]
  exact decide_eq_true_iff.symm

/-! ### Link identity -/

/-- Distinct endpoint pairs among the routed calls spell distinct link keys. -/
def KeysSeparate (R : List Routed) : Prop :=
  ∀ x ∈ R, ∀ y ∈ R, x.key = y.key → x.source = y.source ∧ x.target = y.target

/-- A routed call leaves its service, for a route its target owns. -/
theorem routedCall?_eq_some {index : RouteIndex} {ms : Microservice} {site : CallSite}
    {call : Call} {x : Routed} (h : routedCall? index ms site call = some x) :
    x.source ≠ x.target ∧ ∃ e, index.resolve x.request.destinationUrl = some e ∧
      e.microservice = x.target ∧ e.className = x.request.destinationClassName ∧
      e.returnType = x.request.msReturn := by
  unfold routedCall? at h
  cases hu : call.url with
  | none => simp [hu] at h
  | some url =>
    cases he : index.resolve url with
    | none => simp [hu, he] at h
    | some e =>
      by_cases hs : call.microserviceName.getD ms.name = e.microservice
      · simp [hu, he, hs] at h
      · simp only [hu, he, hs, Option.bind_eq_bind, Option.bind_some, if_false,
          Option.some.injEq] at h
        subst h
        exact ⟨hs, e, he, rfl, rfl, rfl⟩

theorem mem_routedCalls {d : Document} {x : Routed} (h : x ∈ d.routedCalls) :
    x.source ≠ x.target ∧
      ∃ e, (RouteIndex.ofMicroservices d.microservices).resolve x.request.destinationUrl =
          some e ∧
        e.microservice = x.target ∧ e.className = x.request.destinationClassName ∧
        e.returnType = x.request.msReturn := by
  simp only [Document.routedCalls, List.mem_flatMap, List.mem_filterMap] at h
  obtain ⟨ms, -, site, -, call, -, hx⟩ := h
  exact routedCall?_eq_some hx

section Entries

variable {R : List Routed}

/-- Every entry the routed calls build holds the group of its key. -/
theorem groupLink_of_mem_entries {e : String × Link}
    (he : e ∈ (R.foldl LinkTable.pushRouted {}).entries) : groupLink R e.1 = some e.2 := by
  rw [← get?_foldl_pushRouted]
  refine LinkTable.get?_of_mem ?_ he
  rw [keys_foldl_pushRouted]
  exact nodup_eraseDups _

/-- Every entry the routed calls build was made by a call of its key, whose endpoints it carries,
and holds the requests of all the calls of its key. -/
theorem exists_routed_of_mem_entries {e : String × Link}
    (he : e ∈ (R.foldl LinkTable.pushRouted {}).entries) :
    ∃ x ∈ R, x.key = e.1 ∧ e.2.source = x.source ∧ e.2.target = x.target ∧
      e.2.requests = (R.filter (·.key == e.1)).map (·.request) :=
  groupLink_eq_some _ _ (groupLink_of_mem_entries he)

/-- Each built key is spelled by the endpoints of its link. -/
theorem keys_foldl_pushRouted_eq_endpoints :
    (R.foldl LinkTable.pushRouted {}).keys =
      ((R.foldl LinkTable.pushRouted {}).links.map fun l => (l.source, l.target)).map
        fun p => linkKey p.1 p.2 := by
  simp only [LinkTable.keys, LinkTable.links, List.map_map]
  refine List.map_congr_left fun e he => ?_
  obtain ⟨x, -, hxk, hs, ht, -⟩ := exists_routed_of_mem_entries he
  simp [hs, ht, ← hxk, Routed.key]

/-- When distinct endpoint pairs spell distinct keys, each request of a built link was made by a
call between the link's endpoints. -/
theorem routed_of_mem_requests (hsep : KeysSeparate R) {l : Link}
    (hl : l ∈ (R.foldl LinkTable.pushRouted {}).links) {q : Request} (hq : q ∈ l.requests) :
    ∃ y ∈ R, y.source = l.source ∧ y.target = l.target ∧ y.request = q := by
  obtain ⟨e, he, rfl⟩ := List.mem_map.1 hl
  obtain ⟨x, hx, hxk, hs, ht, hr⟩ := exists_routed_of_mem_entries he
  rw [hr] at hq
  obtain ⟨y, hy, rfl⟩ := List.mem_map.1 hq
  obtain ⟨hy, hyk⟩ := List.mem_filter.1 hy
  -- `y` is filed under `x`'s key, so separate keys give it `x`'s endpoints
  obtain ⟨hys, hyt⟩ := hsep y hy x hx (by simpa [hxk] using hyk)
  exact ⟨y, hy, by rw [hs, hys], by rw [ht, hyt], rfl⟩

end Entries

/-- No built link is a self link and no two share their endpoints; when the document's
endpoint pairs spell distinct keys, each request of a link was made by a call from the link's
source to its target, for a route the target owns. -/
theorem build_links_sound (filter : Option (List String)) (d : Document) :
    (∀ l ∈ (Graph.build filter d).1.links.links, l.source ≠ l.target) ∧
    ((Graph.build filter d).1.links.links.map fun l => (l.source, l.target)).Nodup ∧
    (KeysSeparate d.routedCalls →
      ∀ l ∈ (Graph.build filter d).1.links.links, ∀ q ∈ l.requests,
      (∃ x ∈ d.routedCalls, x.source = l.source ∧ x.target = l.target ∧ x.request = q) ∧
      ∃ e, (RouteIndex.ofMicroservices d.microservices).resolve q.destinationUrl = some e ∧
        e.microservice = l.target ∧ e.className = q.destinationClassName ∧
        e.returnType = q.msReturn) := by
  rw [build_links]
  refine ⟨?_, ?_, ?_⟩
  · intro l hl
    obtain ⟨e, he, rfl⟩ := List.mem_map.1 hl
    obtain ⟨x, hx, -, hs, ht, -⟩ := exists_routed_of_mem_entries he
    rw [hs, ht]
    exact (mem_routedCalls hx).1
  · -- the keys are distinct and each is spelled by its link's endpoints
    refine List.Nodup.of_map (fun p => linkKey p.1 p.2) ?_
    rw [← keys_foldl_pushRouted_eq_endpoints, keys_foldl_pushRouted]
    exact nodup_eraseDups _
  · intro hsep l hl q hq
    obtain ⟨y, hy, hys, hyt, rfl⟩ := routed_of_mem_requests hsep hl hq
    obtain ⟨-, e, he, hem, hec, her⟩ := mem_routedCalls hy
    exact ⟨⟨y, hy, hys, hyt, rfl⟩, e, he, by rw [hem, hyt], hec, her⟩

/-- `orders` calls `users` from a service and from a controller. -/
def ordersUsers : Document :=
  { microservices :=
      [{ name := "orders"
         controllers := [{ name := "OrderController", methodCalls := [{ url := some "/users" }] }]
         services := [{ name := "OrderServiceImpl", methodCalls := [{ url := some "/users" }] }] },
       { name := "users"
         controllers := [{ name := "UserController", methods := [{ url := some "/users" }] }] }] }

theorem build_links_sound_orders_users :
    KeysSeparate ordersUsers.routedCalls ∧
      ∀ l ∈ (Graph.build none ordersUsers).1.links.links, ∀ q ∈ l.requests,
        (∃ x ∈ ordersUsers.routedCalls,
          x.source = l.source ∧ x.target = l.target ∧ x.request = q) ∧
        ∃ e, (RouteIndex.ofMicroservices ordersUsers.microservices).resolve q.destinationUrl =
            some e ∧
          e.microservice = l.target ∧ e.className = q.destinationClassName ∧
          e.returnType = q.msReturn :=
  have hsep : KeysSeparate ordersUsers.routedCalls := by unfold KeysSeparate; decide
  ⟨hsep, (build_links_sound none ordersUsers).2.2 hsep⟩

/-- Two endpoint pairs that spell one key: `a --> b` to `c`, and `a` to `b --> c`. -/
def collidingKeys : Document :=
  let call (url : String) : Call := { name := "get", url := some url, calledFrom := "run" }
  let method (name url className returnType : String) : Method :=
    { name, url := some url, className, returnType }
  { microservices :=
      [{ name := "a --> b", path := "/ab",
         services := [{ name := "S", methodCalls := [call "/c"] }] },
       { name := "c", path := "/c",
         controllers := [{ name := "C", methods := [method "m" "/c" "C" "R"] }] },
       { name := "a", path := "/a", services := [{ name := "T", methodCalls := [call "/bc"] }] },
       { name := "b --> c", path := "/bc",
         controllers := [{ name := "D", methods := [method "n" "/bc" "D" "Q"] }] }] }

/-- Without separate keys a link can carry a request for a route its target does not own: the
call from `a` to `b --> c` is filed under the link from `a --> b` to `c`. -/
theorem build_files_request_under_colliding_key :
    ¬ ∀ l ∈ (Graph.build none collidingKeys).1.links.links, ∀ q ∈ l.requests,
      ∃ e, (RouteIndex.ofMicroservices collidingKeys.microservices).resolve q.destinationUrl =
          some e ∧
        e.microservice = l.target := by
  intro h
  have h' : ∀ l ∈ (Graph.build none collidingKeys).1.links.links, ∀ q ∈ l.requests,
      ((RouteIndex.ofMicroservices collidingKeys.microservices).resolve q.destinationUrl).map
        (·.microservice) = some l.target := by
    intro l hl q hq
    obtain ⟨e, he, hm⟩ := h l hl q hq
    simp [he, hm]
  revert h'
  decide

end ServiceGraph
