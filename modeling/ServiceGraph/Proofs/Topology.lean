import Mathlib
import ServiceGraph.Topology
import ServiceGraph.Proofs.Components
import ServiceGraph.Proofs.LinkIndex

/-!
# Topology — the interned graph and its neighbours

The topology of a graph numbers its services: a name gets a node the first time `intern` sees
it, and `byName` remembers which.  Interning keeps an invariant (`Interned`): no name has two
nodes, `byName` finds exactly the node of each name, and every edge joins two nodes.  Building
the topology of a graph keeps it at every step (`Builds`): the nodes are the names seen so far
in order of first sight, and the edges, read through the names of their ends (`namedEdge`), are
the links added so far, in table order, with their numbers of requests (`linkEdge`).

Everything else is read through the names.  An edge joins two names (`Joins`); in the topology
of a graph two names are joined exactly when a link goes from one to the other
(`joins_ofGraph`), and the neighbours of a name along a direction are the names it is joined to
that way (`Interned.mem_neighbors`).  Sorting, then dropping the repeats that sorting puts side
by side, leaves a strictly increasing list (`eraseReps_sortStrings_pairwise_lt`).

**Neighbours** (`neighbours_follow_links`).  Names and nodes are in one-to-one correspondence;
the nodes are the distinct service names and their number is the number of services; the edges
are the links; `m` is a dependency of `n` exactly when a link goes from `n` to `m`, and a
dependent exactly when a link goes from `m` to `n`; both lists are strictly increasing, so a
name shows once however many parallel links carry it; a name that is no service has neither.
-/

namespace ServiceGraph

/-! ### Sorting -/

/-- Sorting a list without repeats by a total order gives a strictly increasing list. -/
theorem pairwise_lt_mergeSort {α : Type} [LinearOrder α] {le : α → α → Bool}
    (hle : ∀ a b, le a b = true ↔ a ≤ b) {l : List α} (hl : l.Nodup) :
    (l.mergeSort le).Pairwise (· < ·) := by
  have hsorted := @List.pairwise_mergeSort _ le
    (fun a b c hab hbc => (hle a c).2 (le_trans ((hle a b).1 hab) ((hle b c).1 hbc)))
    (fun a b => by simpa [hle] using le_total a b) l
  have hnodup : (l.mergeSort le).Nodup := List.nodup_mergeSort.2 hl
  exact (hsorted.and hnodup).imp fun h => lt_of_le_of_ne ((hle _ _).1 h.1) h.2

@[simp] theorem mem_sortStrings {xs : List String} {s : String} :
    s ∈ sortStrings xs ↔ s ∈ xs :=
  List.mem_mergeSort

@[simp] theorem length_sortStrings (xs : List String) : (sortStrings xs).length = xs.length :=
  List.length_mergeSort xs

theorem sortStrings_pairwise_le (xs : List String) : (sortStrings xs).Pairwise (· ≤ ·) := by
  have hsorted := @List.pairwise_mergeSort _ (fun a b => decide (a ≤ b))
    (fun a b c hab hbc => by simpa using le_trans (of_decide_eq_true hab) (of_decide_eq_true hbc))
    (fun a b => by simpa using le_total a b) xs
  simpa [sortStrings] using hsorted

theorem sortStrings_pairwise_lt {xs : List String} (h : xs.Nodup) :
    (sortStrings xs).Pairwise (· < ·) :=
  pairwise_lt_mergeSort (fun _ _ => decide_eq_true_iff) h

/-! ### Dropping the repeats of a sorted list -/

theorem mem_destutter'_ne {α : Type} [DecidableEq α] {a x : α} {l : List α} :
    x ∈ l.destutter' (· ≠ ·) a ↔ x ∈ a :: l := by
  induction l generalizing a with
  | nil => simp
  | cons b l ih =>
    by_cases h : a = b
    · subst h
      simp [ih]
    · simp [h, ih]

/-- The loop of `eraseReps` keeps the first of each run of equal strings, as `destutter` does. -/
theorem eraseRepsBy_loop_eq {a : String} {l acc : List String} :
    List.eraseRepsBy.loop (· == ·) a l acc = acc.reverse ++ l.destutter' (· ≠ ·) a := by
  induction l generalizing a acc with
  | nil => simp [List.eraseRepsBy.loop]
  | cons b l ih =>
    by_cases h : a = b
    · subst h
      simp [List.eraseRepsBy.loop, ih]
    · have hab : (a == b) = false := beq_eq_false_iff_ne.2 h
      simp [List.eraseRepsBy.loop, h, hab, ih]

theorem eraseReps_eq_destutter (l : List String) : l.eraseReps = l.destutter (· ≠ ·) := by
  cases l with
  | nil => rfl
  | cons a l => simp [List.eraseReps, List.eraseRepsBy, eraseRepsBy_loop_eq, List.destutter_cons']

@[simp] theorem mem_eraseReps {l : List String} {x : String} : x ∈ l.eraseReps ↔ x ∈ l := by
  cases l with
  | nil => simp [List.eraseReps, List.eraseRepsBy]
  | cons a l => simp [eraseReps_eq_destutter, List.destutter_cons', mem_destutter'_ne]

/-- Neighbours that differ and are in order are strictly in order. -/
theorem isChain_lt_of_ne_of_le {l : List String} (hne : l.IsChain (· ≠ ·))
    (hle : l.IsChain (· ≤ ·)) : l.IsChain (· < ·) := by
  induction l with
  | nil => exact .nil
  | cons a l ih =>
    cases l with
    | nil => exact .singleton a
    | cons b l =>
      rw [List.isChain_cons_cons] at hne hle ⊢
      exact ⟨lt_of_le_of_ne hle.1 hne.1, ih hne.2 hle.2⟩

/-- Sorting, then dropping the repeats that sorting puts side by side, gives a strictly
increasing list. -/
theorem eraseReps_sortStrings_pairwise_lt (xs : List String) :
    (sortStrings xs).eraseReps.Pairwise (· < ·) := by
  rw [eraseReps_eq_destutter]
  have hle := ((sortStrings_pairwise_le xs).sublist (List.destutter_sublist (· ≠ ·) _)).isChain
  have hne := List.isChain_destutter (· ≠ ·) (sortStrings xs)
  exact List.isChain_iff_pairwise.1 (isChain_lt_of_ne_of_le hne hle)

/-! ### A graph's services and links, by name -/

namespace Graph

/-- The names of a graph's services, repeats included: its node names, then the source and
target of each link. -/
def serviceNames (g : Graph) : List String :=
  g.nodes.map (·.name) ++ g.links.links.flatMap fun l => [l.source, l.target]

/-- A link of the graph goes from `a` to `b`. -/
def Calls (g : Graph) (a b : String) : Prop :=
  ∃ l ∈ g.links.links, l.source = a ∧ l.target = b

variable {g : Graph}

theorem Calls.source_mem {a b : String} (h : g.Calls a b) : a ∈ g.serviceNames := by
  obtain ⟨l, hl, rfl, rfl⟩ := h
  exact List.mem_append_right _ (List.mem_flatMap.2 ⟨l, hl, by simp⟩)

end Graph

/-! ### Neighbours in a directed graph -/

/-- A relation read along a direction: as it is for `outgoing`, backwards for `incoming`. -/
def Direction.orient {α : Type} : Direction → (α → α → Prop) → α → α → Prop
  | .outgoing, r => r
  | .incoming, r => fun a b => r b a

theorem DiGraph.mem_neighborsDirected {N E : Type} (g : DiGraph N E) {i j : Nat}
    {d : Direction} : j ∈ g.neighborsDirected i d ↔ d.orient g.Edge i j := by
  cases d with
  | outgoing =>
    simp only [DiGraph.neighborsDirected, Direction.orient, DiGraph.Edge, List.mem_filterMap,
      List.mem_reverse, Option.ite_none_right_eq_some, Option.some.injEq]
    constructor
    · rintro ⟨⟨a, b, w⟩, he, rfl, rfl⟩
      exact ⟨w, he⟩
    · rintro ⟨w, he⟩
      exact ⟨(i, j, w), he, rfl, rfl⟩
  | incoming =>
    simp only [DiGraph.neighborsDirected, Direction.orient, DiGraph.Edge, List.mem_filterMap,
      List.mem_reverse, Option.ite_none_right_eq_some, Option.some.injEq]
    constructor
    · rintro ⟨⟨a, b, w⟩, he, rfl, rfl⟩
      exact ⟨w, he⟩
    · rintro ⟨w, he⟩
      exact ⟨(j, i, w), he, rfl, rfl⟩

/-- A position of a list is the same position of any list it starts. -/
theorem getElem?_of_prefix {α : Type} {xs ys : List α} {i : Nat} {a : α} (h : xs <+: ys)
    (hi : xs[i]? = some a) : ys[i]? = some a := by
  obtain ⟨zs, rfl⟩ := h
  rw [List.getElem?_append_left (List.getElem?_eq_some_iff.1 hi).1, hi]

namespace Topology

/-! ### Interning -/

/-- The interning invariant: no name has two nodes, `byName` finds exactly the node of each
name, and every edge joins two nodes. -/
structure Interned (t : Topology) : Prop where
  nodup : t.graph.nodes.Nodup
  lookup_eq_some : ∀ (name : String) (i : Nat),
    t.byName.lookup name = some i ↔ t.graph.nodes[i]? = some name
  wellFormed : t.graph.WellFormed

theorem Interned.empty : Interned {} where
  nodup := List.nodup_nil
  lookup_eq_some name i := by simp
  wellFormed _ he := absurd he List.not_mem_nil

/-- Interning leaves the edges alone. -/
@[simp] theorem intern_edges (t : Topology) (name : String) :
    (t.intern name).1.graph.edges = t.graph.edges := by
  unfold intern
  split <;> rfl

/-- Adding a link leaves the nodes and names that interning its ends leaves. -/
theorem addLink_nodes (t : Topology) (l : Link) :
    (t.addLink l).graph.nodes = ((t.intern l.source).1.intern l.target).1.graph.nodes := rfl

/-- Adding a link puts last an edge from the node of its source to the node of its target. -/
theorem addLink_edges (t : Topology) (l : Link) :
    (t.addLink l).graph.edges = t.graph.edges ++
      [((t.intern l.source).2, ((t.intern l.source).1.intern l.target).2, l.requests.length)] := by
  show ((t.intern l.source).1.intern l.target).1.graph.edges ++
    [((t.intern l.source).2, ((t.intern l.source).1.intern l.target).2, l.requests.length)] = _
  rw [intern_edges, intern_edges]

/-- Two names are joined by an edge from the node of the one to the node of the other. -/
def Joins (t : Topology) (a b : String) : Prop :=
  ∃ i j, t.graph.nodes[i]? = some a ∧ t.graph.nodes[j]? = some b ∧ t.graph.Edge i j

namespace Interned

variable {t : Topology} (ht : t.Interned) {name a b : String} {i j : Nat}
include ht

/-- A node has one name. -/
theorem eq_of_getElem? (hi : t.graph.nodes[i]? = some a) (hj : t.graph.nodes[j]? = some a) :
    i = j := by
  have hli := (ht.lookup_eq_some a i).2 hi
  rw [(ht.lookup_eq_some a j).2 hj] at hli
  exact (Option.some.inj hli).symm

theorem lookup_eq_none : t.byName.lookup name = none ↔ name ∉ t.graph.nodes := by
  rw [List.mem_iff_getElem?]
  constructor
  · rintro hn ⟨i, hi⟩
    rw [(ht.lookup_eq_some name i).2 hi] at hn
    cases hn
  · intro hn
    cases hl : t.byName.lookup name with
    | none => rfl
    | some i => exact absurd ⟨i, (ht.lookup_eq_some name i).1 hl⟩ hn

/-- Interning a name that has a node hands out that node and changes nothing. -/
theorem intern_of_mem (hn : name ∈ t.graph.nodes) :
    ∃ i, t.graph.nodes[i]? = some name ∧ t.intern name = (t, i) := by
  obtain ⟨i, hi⟩ := List.mem_iff_getElem?.1 hn
  exact ⟨i, hi, by simp [Topology.intern, (ht.lookup_eq_some name i).2 hi]⟩

/-- Interning a new name adds a last node for it and records it. -/
theorem intern_of_not_mem (hn : name ∉ t.graph.nodes) :
    t.intern name = (⟨⟨t.graph.nodes ++ [name], t.graph.edges⟩,
      (name, t.graph.nodes.length) :: t.byName⟩, t.graph.nodes.length) := by
  simp [Topology.intern, ht.lookup_eq_none.2 hn, DiGraph.addNode]

/-- Interning keeps the invariant. -/
theorem intern (name : String) : (t.intern name).1.Interned := by
  by_cases hn : name ∈ t.graph.nodes
  · obtain ⟨i, -, h⟩ := ht.intern_of_mem hn
    rw [h]
    exact ht
  · rw [ht.intern_of_not_mem hn]
    refine ⟨List.nodup_append.2 ⟨ht.nodup, List.nodup_singleton _, ?_⟩, fun k i => ?_,
      fun e he => ?_⟩
    · rintro a ha b hb rfl
      exact hn ((List.mem_singleton.1 hb) ▸ ha)
    · -- the new name is at the new last node, every other name where it was
      rw [List.lookup_cons, LinkTable.getElem?_concat_eq_some_iff]
      by_cases hk : k = name
      · subst hk
        have hnot : t.graph.nodes[i]? ≠ some k := fun h => hn (List.mem_of_getElem? h)
        simp [hnot, eq_comm]
      · have hkb : (k == name) = false := beq_eq_false_iff_ne.2 hk
        simp [hkb, ht.lookup_eq_some, Ne.symm hk]
    · have := ht.wellFormed e he
      simp only [DiGraph.nodeCount, List.length_append, List.length_singleton] at this ⊢
      omega

/-- Interning adds the name as a last node if it has none. -/
theorem intern_nodes (name : String) :
    (t.intern name).1.graph.nodes =
      if name ∈ t.graph.nodes then t.graph.nodes else t.graph.nodes ++ [name] := by
  by_cases hn : name ∈ t.graph.nodes
  · obtain ⟨i, -, h⟩ := ht.intern_of_mem hn
    simp [h, hn]
  · simp [ht.intern_of_not_mem hn, hn]

theorem isPrefix_intern (name : String) : t.graph.nodes <+: (t.intern name).1.graph.nodes := by
  rw [ht.intern_nodes]
  split
  · exact List.prefix_refl _
  · exact List.prefix_append _ _

/-- Interning hands out the node of the name. -/
theorem intern_getElem? (name : String) :
    (t.intern name).1.graph.nodes[(t.intern name).2]? = some name := by
  by_cases hn : name ∈ t.graph.nodes
  · obtain ⟨i, hi, h⟩ := ht.intern_of_mem hn
    simp [h, hi]
  · simp [ht.intern_of_not_mem hn]

/-- Interning into the nodes seen of a list of names sees one name more. -/
theorem intern_nodes_eraseDups {names : List String} (h : t.graph.nodes = names.eraseDups)
    (name : String) : (t.intern name).1.graph.nodes = (names ++ [name]).eraseDups := by
  rw [ht.intern_nodes, eraseDups_concat, h]
  simp only [List.mem_eraseDups]

/-- Adding a link only adds nodes. -/
theorem isPrefix_addLink (l : Link) : t.graph.nodes <+: (t.addLink l).graph.nodes :=
  (ht.isPrefix_intern l.source).trans ((ht.intern l.source).isPrefix_intern l.target)

/-- The new edge leaves the node of the link's source. -/
theorem addLink_getElem?_source (l : Link) :
    (t.addLink l).graph.nodes[(t.intern l.source).2]? = some l.source :=
  getElem?_of_prefix ((ht.intern l.source).isPrefix_intern l.target) (ht.intern_getElem? l.source)

/-- The new edge enters the node of the link's target. -/
theorem addLink_getElem?_target (l : Link) :
    (t.addLink l).graph.nodes[((t.intern l.source).1.intern l.target).2]? = some l.target :=
  (ht.intern l.source).intern_getElem? l.target

/-- Adding a link keeps the invariant: its edge joins the two nodes interning hands out. -/
theorem addLink (l : Link) : (t.addLink l).Interned := by
  have hd := (ht.intern l.source).intern l.target
  refine ⟨hd.nodup, hd.lookup_eq_some, fun e he => ?_⟩
  rw [addLink_edges, List.mem_append, List.mem_singleton] at he
  rcases he with he | rfl
  · -- an old edge joins old nodes, which stay
    have hlen := (ht.isPrefix_addLink l).length_le
    have hold := ht.wellFormed e he
    simp only [DiGraph.nodeCount] at hold ⊢
    omega
  · exact ⟨(List.getElem?_eq_some_iff.1 (ht.addLink_getElem?_source l)).1,
      (List.getElem?_eq_some_iff.1 (ht.addLink_getElem?_target l)).1⟩

/-! ### Neighbours -/

/-- Along a direction, a name is joined to the names of the nodes next to its node. -/
theorem orient_joins_iff (ha : t.graph.nodes[i]? = some a) {d : Direction} :
    d.orient t.Joins a b ↔ ∃ j, d.orient t.graph.Edge i j ∧ t.graph.nodes[j]? = some b := by
  cases d with
  | outgoing =>
    constructor
    · rintro ⟨i', j, hi', hj, hij⟩
      exact ⟨j, ht.eq_of_getElem? hi' ha ▸ hij, hj⟩
    · rintro ⟨j, hij, hj⟩
      exact ⟨i, j, ha, hj, hij⟩
  | incoming =>
    constructor
    · rintro ⟨j, i', hj, hi', hji⟩
      exact ⟨j, ht.eq_of_getElem? hi' ha ▸ hji, hj⟩
    · rintro ⟨j, hji, hj⟩
      exact ⟨j, i, hj, ha, hji⟩

/-- The neighbours of a name along a direction are the names its edges join it to. -/
theorem mem_neighbors {d : Direction} : b ∈ t.neighbors a d ↔ d.orient t.Joins a b := by
  unfold neighbors
  cases hl : t.byName.lookup a with
  | none =>
    -- a name with no node is joined to nothing
    have hnot := ht.lookup_eq_none.1 hl
    simp only [List.not_mem_nil, false_iff]
    cases d with
    | outgoing => exact fun ⟨_, _, hi, _⟩ => hnot (List.mem_of_getElem? hi)
    | incoming => exact fun ⟨_, _, _, hj, _⟩ => hnot (List.mem_of_getElem? hj)
  | some i =>
    rw [ht.orient_joins_iff ((ht.lookup_eq_some a i).1 hl)]
    simp [DiGraph.nodeWeight, DiGraph.mem_neighborsDirected]

end Interned

/-- Neighbour lists are strictly increasing. -/
theorem neighbors_pairwise_lt (t : Topology) (name : String) (d : Direction) :
    (t.neighbors name d).Pairwise (· < ·) := by
  unfold neighbors
  split
  · exact List.Pairwise.nil
  · exact eraseReps_sortStrings_pairwise_lt _

/-! ### Building the topology of a graph -/

/-- An edge read through the names of its ends, with its weight. -/
def namedEdge (t : Topology) (e : Nat × Nat × Nat) : Option String × Option String × Nat :=
  (t.graph.nodes[e.1]?, t.graph.nodes[e.2.1]?, e.2.2)

/-- A link as the edge it becomes, read by names: from its source to its target, weighted by its
number of requests. -/
def linkEdge (l : Link) : Option String × Option String × Nat :=
  (some l.source, some l.target, l.requests.length)

/-- Growing the nodes keeps the names of the edges' ends, which are all nodes. -/
theorem map_namedEdge_of_prefix {t t' : Topology} (ht : t.Interned)
    (hp : t.graph.nodes <+: t'.graph.nodes) :
    t.graph.edges.map t'.namedEdge = t.graph.edges.map t.namedEdge := by
  refine List.map_congr_left fun e he => ?_
  obtain ⟨h1, h2⟩ := ht.wellFormed e he
  simp only [namedEdge, getElem?_of_prefix hp (List.getElem?_eq_getElem h1),
    getElem?_of_prefix hp (List.getElem?_eq_getElem h2), List.getElem?_eq_getElem h1,
    List.getElem?_eq_getElem h2]

/-- What building a topology keeps: after the names `names` and the links `ls`, the topology is
interned, its nodes are the names and the link endpoints in order of first sight, and its edges
are the links, in order. -/
structure Builds (t : Topology) (names : List String) (ls : List Link) : Prop where
  interned : t.Interned
  nodes_eq : t.graph.nodes = (names ++ ls.flatMap fun l => [l.source, l.target]).eraseDups
  namedEdges_eq : t.graph.edges.map t.namedEdge = ls.map linkEdge

theorem Builds.empty : Builds {} [] [] :=
  ⟨.empty, by simp, by simp⟩

theorem Builds.intern {t : Topology} {names : List String} (h : Builds t names [])
    (name : String) : Builds (t.intern name).1 (names ++ [name]) [] where
  interned := h.interned.intern name
  nodes_eq := by
    have hn := h.nodes_eq
    simp only [List.flatMap_nil, List.append_nil] at hn ⊢
    exact h.interned.intern_nodes_eraseDups hn name
  namedEdges_eq := by
    have he := h.namedEdges_eq
    rw [List.map_nil, List.map_eq_nil_iff] at he
    simp [he]

/-- Adding a link interns both its ends and puts its edge last. -/
theorem Builds.addLink {t : Topology} {names : List String} {ls : List Link}
    (h : Builds t names ls) (l : Link) : Builds (t.addLink l) names (ls ++ [l]) where
  interned := h.interned.addLink l
  nodes_eq := by
    have hs := h.interned.intern l.source
    rw [addLink_nodes, hs.intern_nodes_eraseDups (h.interned.intern_nodes_eraseDups h.nodes_eq _)]
    simp [List.flatMap_append]
  namedEdges_eq := by
    -- the old edges keep their names, and the new one is named by the link's ends
    rw [addLink_edges, List.map_append, map_namedEdge_of_prefix h.interned
      (h.interned.isPrefix_addLink l), h.namedEdges_eq, List.map_append]
    simp [namedEdge, linkEdge, h.interned.addLink_getElem?_source,
      h.interned.addLink_getElem?_target]

theorem builds_foldl_intern (names : List String) :
    Builds (names.foldl (fun t n => (t.intern n).1) {}) names [] := by
  induction names using List.reverseRecOn with
  | nil => exact .empty
  | append_singleton names n ih =>
    rw [List.foldl_concat]
    exact ih.intern n

theorem Builds.foldl_addLink {t : Topology} {names : List String} (h : Builds t names [])
    (ls : List Link) : Builds (ls.foldl Topology.addLink t) names ls := by
  induction ls using List.reverseRecOn with
  | nil => exact h
  | append_singleton ls l ih =>
    rw [List.foldl_concat]
    exact ih.addLink l

/-- The topology of a graph is built from its node names, then its links. -/
theorem builds_ofGraph (g : Graph) : Builds (ofGraph g) (g.nodes.map (·.name)) g.links.links := by
  have hnames : g.nodes.foldl (fun (t : Topology) (n : Node) => (t.intern n.name).1) {} =
      (g.nodes.map (·.name)).foldl (fun (t : Topology) n => (t.intern n).1) {} := by
    rw [List.foldl_map]
  unfold ofGraph
  rw [hnames]
  exact (builds_foldl_intern _).foldl_addLink _

variable {g : Graph}

theorem interned_ofGraph (g : Graph) : (ofGraph g).Interned := (builds_ofGraph g).interned

theorem nodes_ofGraph (g : Graph) : (ofGraph g).graph.nodes = g.serviceNames.eraseDups :=
  (builds_ofGraph g).nodes_eq

theorem serviceCount_ofGraph (g : Graph) :
    (ofGraph g).serviceCount = g.serviceNames.toFinset.card := by
  -- the nodes are the service names without repeats
  have hset : g.serviceNames.eraseDups.toFinset = g.serviceNames.toFinset := by
    ext s
    simp
  rw [serviceCount, DiGraph.nodeCount, nodes_ofGraph, ← hset,
    List.toFinset_card_of_nodup (nodup_eraseDups _)]

/-- In the topology of a graph two names are joined exactly when a link goes from one to the
other. -/
theorem joins_ofGraph {a b : String} : (ofGraph g).Joins a b ↔ g.Calls a b := by
  have hedges := (builds_ofGraph g).namedEdges_eq
  constructor
  · rintro ⟨i, j, hi, hj, w, he⟩
    -- the edge, read by names, is a link
    have hmem : (some a, some b, w) ∈ g.links.links.map linkEdge := by
      rw [← hedges]
      exact List.mem_map.2 ⟨(i, j, w), he, by simp [namedEdge, hi, hj]⟩
    obtain ⟨l, hl, hle⟩ := List.mem_map.1 hmem
    simp only [linkEdge, Prod.mk.injEq, Option.some.injEq] at hle
    exact ⟨l, hl, hle.1, hle.2.1⟩
  · rintro ⟨l, hl, rfl, rfl⟩
    have hmem : linkEdge l ∈ (ofGraph g).graph.edges.map (ofGraph g).namedEdge := by
      rw [hedges]
      exact List.mem_map_of_mem hl
    obtain ⟨⟨i, j, w⟩, he, hle⟩ := List.mem_map.1 hmem
    simp only [namedEdge, linkEdge, Prod.mk.injEq] at hle
    exact ⟨i, j, hle.1, hle.2.1, w, he⟩

theorem joins_ofGraph_eq (g : Graph) : (ofGraph g).Joins = g.Calls :=
  funext₂ fun _ _ => propext joins_ofGraph

theorem mem_neighbors_ofGraph {n m : String} {d : Direction} :
    m ∈ (ofGraph g).neighbors n d ↔ d.orient g.Calls n m := by
  rw [(interned_ofGraph g).mem_neighbors, joins_ofGraph_eq]

/-- A name that is no service has no neighbours. -/
theorem neighbors_ofGraph_of_not_mem {n : String} (hn : n ∉ g.serviceNames) (d : Direction) :
    (ofGraph g).neighbors n d = [] := by
  have hl : (ofGraph g).byName.lookup n = none := by
    rw [(interned_ofGraph g).lookup_eq_none, nodes_ofGraph, List.mem_eraseDups]
    exact hn
  simp [neighbors, hl]

end Topology

/-- The topology of a graph gives each distinct name among its nodes and link endpoints one
node, found by its name; its edges are the links, each from the node of its source to the node
of its target and weighted by its number of requests; a name's dependencies are the targets of
the links from it and its dependents the sources of the links to it, each list strictly
increasing; and a name that is no service has neither. -/
theorem neighbours_follow_links (g : Graph) :
    let t := Topology.ofGraph g
    (t.graph.nodes.Nodup ∧
      ∀ (name : String) (i : Nat),
        t.byName.lookup name = some i ↔ t.graph.nodes[i]? = some name) ∧
    t.graph.nodes = g.serviceNames.eraseDups ∧
    t.graph.edges.map t.namedEdge = g.links.links.map Topology.linkEdge ∧
    t.serviceCount = g.serviceNames.toFinset.card ∧
    (∀ n m, m ∈ t.dependencies n ↔ ∃ l ∈ g.links.links, l.source = n ∧ l.target = m) ∧
    (∀ n m, m ∈ t.dependents n ↔ ∃ l ∈ g.links.links, l.source = m ∧ l.target = n) ∧
    (∀ n, (t.dependencies n).Pairwise (· < ·) ∧ (t.dependents n).Pairwise (· < ·)) ∧
    (∀ n, n ∉ g.serviceNames → t.dependencies n = [] ∧ t.dependents n = []) := by
  intro t
  have hb := Topology.builds_ofGraph g
  refine ⟨⟨hb.interned.nodup, hb.interned.lookup_eq_some⟩, hb.nodes_eq, hb.namedEdges_eq,
    Topology.serviceCount_ofGraph g, fun n m => Topology.mem_neighbors_ofGraph,
    fun n m => Topology.mem_neighbors_ofGraph, fun n => ?_, fun n hn => ?_⟩
  · exact ⟨t.neighbors_pairwise_lt n _, t.neighbors_pairwise_lt n _⟩
  · exact ⟨Topology.neighbors_ofGraph_of_not_mem hn _,
      Topology.neighbors_ofGraph_of_not_mem hn _⟩

end ServiceGraph
