import Mathlib
import ServiceGraph.Proofs.Topology

/-!
# Dependency cycles — the strongly connected components, by name

A node reaches another exactly when their names are joined by a chain (`Interned.reaches_iff`):
every edge ends at a node, which has a name, and a name has one node.  So the parts of any search
for strongly connected components (`DiGraph.IsSccPartition`) are, by name, the sets of services
that reach each other (`mem_names_part`), with one name per node.  `cyclesWith` keeps the parts
of two or more nodes, each as its names sorted, and sorts the list: distinct parts share no
name, so the list is strictly increasing (`cyclesWith_pairwise_lt`), and its members are the
cycles (`Graph.IsCycle`) whatever the search (`mem_cyclesWith_iff_isCycle`).  `cycles` uses
`DiGraph.components`, which is such a search, and so gives the same list
(`cycles_eq_cyclesWith`).

**Cycles** (`dependency_cycles_are_components`).  For any search for strongly connected
components, the dependency cycles are, in strictly increasing order, exactly the components of
two or more services, each strictly increasing.  Two cycles that share a service are the same;
two distinct services share a cycle exactly when each reaches the other; a service lies on a
cycle exactly when it and another service reach each other, so a link from a service to itself
makes no cycle; graphs whose links join the same pairs have the same cycles; and `cycles` gives
these cycles.
-/

namespace ServiceGraph

/-- A list holding two distinct elements has at least two. -/
theorem two_le_length_of_mem {α : Type} {l : List α} {a b : α} (ha : a ∈ l) (hb : b ∈ l)
    (hab : a ≠ b) : 2 ≤ l.length := by
  have hpair : [a, b].Nodup := by simp [hab]
  have hsub : [a, b] ⊆ l := by simp [ha, hb]
  exact (hpair.subperm hsub).length_le

namespace Graph

/-- `b` is reached from `a` along the graph's links, in any number of steps. -/
def Reaches (g : Graph) : String → String → Prop := Relation.ReflTransGen g.Calls

/-- A dependency cycle: a strongly connected component of two or more services, sorted. -/
def IsCycle (g : Graph) (G : List String) : Prop :=
  G.Pairwise (· < ·) ∧ 2 ≤ G.length ∧ ∃ a, ∀ b, b ∈ G ↔ g.Reaches a b ∧ g.Reaches b a

variable {g : Graph} {G H : List String}

/-- A name that reaches another name is a service. -/
theorem source_mem_of_reaches {a b : String} (h : g.Reaches a b) (hab : a ≠ b) :
    a ∈ g.serviceNames := by
  rcases Relation.ReflTransGen.cases_head h with rfl | ⟨c, hac, -⟩
  · exact absurd rfl hab
  · exact hac.source_mem

/-- Every member of a cycle has the cycle as its component. -/
theorem IsCycle.mem_iff_of_mem (hG : g.IsCycle G) {s : String} (hs : s ∈ G) (b : String) :
    b ∈ G ↔ g.Reaches s b ∧ g.Reaches b s := by
  obtain ⟨-, -, a, hmem⟩ := hG
  obtain ⟨has, hsa⟩ := (hmem s).1 hs
  rw [hmem b]
  constructor
  · rintro ⟨hab, hba⟩
    exact ⟨Relation.ReflTransGen.trans hsa hab, Relation.ReflTransGen.trans hba has⟩
  · rintro ⟨hsb, hbs⟩
    exact ⟨Relation.ReflTransGen.trans has hsb, Relation.ReflTransGen.trans hbs hsa⟩

/-- Two cycles that share a service are the same. -/
theorem IsCycle.eq_of_mem (hG : g.IsCycle G) (hH : g.IsCycle H) {s : String} (hsG : s ∈ G)
    (hsH : s ∈ H) : G = H :=
  hG.1.eq_of_mem_iff hH.1 fun b => by rw [hG.mem_iff_of_mem hsG, hH.mem_iff_of_mem hsH]

/-- A cycle has a member other than any given name. -/
theorem IsCycle.exists_ne (hG : g.IsCycle G) (a : String) : ∃ b ∈ G, b ≠ a := by
  obtain ⟨hsorted, hlen, -⟩ := hG
  match G, hsorted, hlen with
  | x :: y :: _, hsorted, _ =>
    have hxy : x < y := List.rel_of_pairwise_cons hsorted List.mem_cons_self
    by_cases hx : x = a
    · exact ⟨y, by simp, fun hy => (hy ▸ hx ▸ hxy.ne) rfl⟩
    · exact ⟨x, List.mem_cons_self, hx⟩

/-- Whether a list is a cycle depends only on the pairs the links join. -/
theorem isCycle_congr {g' : Graph} (h : ∀ a b, g'.Calls a b ↔ g.Calls a b) :
    g'.IsCycle G ↔ g.IsCycle G := by
  have hcalls : g'.Calls = g.Calls := funext₂ fun a b => propext (h a b)
  simp only [IsCycle, Reaches, hcalls]

end Graph

namespace Topology

namespace Interned

variable {t : Topology} (ht : t.Interned) {a b : String} {i j : Nat}
include ht

/-! ### Reachability by name -/

/-- What a named node reaches has a name, joined to the first by a chain. -/
theorem joins_of_reaches (ha : t.graph.nodes[i]? = some a) (h : t.graph.Reaches i j) :
    ∃ b, t.graph.nodes[j]? = some b ∧ Relation.ReflTransGen t.Joins a b := by
  induction h with
  | refl => exact ⟨a, ha, .refl⟩
  | tail _ hkj ih =>
    obtain ⟨c, hc, hac⟩ := ih
    -- the edge ends at a node, which has a name
    have hj := List.getElem?_eq_getElem (ht.wellFormed.lt_of_edge hkj)
    exact ⟨_, hj, hac.tail ⟨_, _, hc, hj, hkj⟩⟩

/-- What a name reaches by a chain is the name of a node its node reaches. -/
theorem reaches_of_joins (ha : t.graph.nodes[i]? = some a)
    (h : Relation.ReflTransGen t.Joins a b) :
    ∃ j, t.graph.nodes[j]? = some b ∧ t.graph.Reaches i j := by
  induction h with
  | refl => exact ⟨i, ha, .refl⟩
  | tail _ hcb ih =>
    obtain ⟨k, hk, hik⟩ := ih
    obtain ⟨k', j, hk', hj, hkj⟩ := hcb
    -- the edge leaves the node of the name reached so far, which is `k`
    rw [ht.eq_of_getElem? hk' hk] at hkj
    exact ⟨j, hj, hik.tail hkj⟩

/-- A node reaches another exactly when their names are joined by a chain. -/
theorem reaches_iff (ha : t.graph.nodes[i]? = some a) (hb : t.graph.nodes[j]? = some b) :
    t.graph.Reaches i j ↔ Relation.ReflTransGen t.Joins a b := by
  constructor
  · intro h
    obtain ⟨b', hb', hab'⟩ := ht.joins_of_reaches ha h
    rw [hb, Option.some.injEq] at hb'
    exact hb' ▸ hab'
  · intro h
    obtain ⟨j', hj', hij'⟩ := ht.reaches_of_joins ha h
    exact ht.eq_of_getElem? hj' hb ▸ hij'

end Interned

/-! ### The parts of a search for strongly connected components, by name -/

section Parts

variable {t : Topology} {cs : List (List Nat)} {c : List Nat}

/-- A node of a part has a name. -/
theorem exists_getElem?_of_mem_part (hcs : t.graph.IsSccPartition cs) (hc : c ∈ cs) {i : Nat}
    (hi : i ∈ c) : ∃ a, t.graph.nodes[i]? = some a :=
  ⟨_, List.getElem?_eq_getElem (hcs.lt_of_mem hc hi)⟩

/-- A part has a name for each of its nodes. -/
theorem length_names_part (hcs : t.graph.IsSccPartition cs) (hc : c ∈ cs) :
    (c.filterMap t.graph.nodeWeight).length = c.length := by
  rw [List.length_filterMap_eq_countP, List.countP_eq_length]
  intro i hi
  obtain ⟨a, ha⟩ := exists_getElem?_of_mem_part hcs hc hi
  simp [DiGraph.nodeWeight, ha]

/-- The names of a part are distinct, since its nodes are. -/
theorem nodup_names_part (ht : t.Interned) (hcs : t.graph.IsSccPartition cs) (hc : c ∈ cs) :
    (c.filterMap t.graph.nodeWeight).Nodup :=
  ((List.nodup_flatten.1 hcs.nodup).1 c hc).filterMap fun _ _ _ hi hj => ht.eq_of_getElem? hi hj

/-- The names of a part are the names that reach, and are reached by, the name of any of its
nodes. -/
theorem mem_names_part (ht : t.Interned) (hcs : t.graph.IsSccPartition cs) (hc : c ∈ cs)
    {i : Nat} (hi : i ∈ c) {a : String} (ha : t.graph.nodes[i]? = some a) (b : String) :
    b ∈ c.filterMap t.graph.nodeWeight ↔
      Relation.ReflTransGen t.Joins a b ∧ Relation.ReflTransGen t.Joins b a := by
  simp only [List.mem_filterMap, DiGraph.nodeWeight]
  constructor
  · rintro ⟨j, hj, hjb⟩
    obtain ⟨hij, hji⟩ := (hcs.mem_part c hc i hi j).1 hj
    exact ⟨(ht.reaches_iff ha hjb).1 hij, (ht.reaches_iff hjb ha).1 hji⟩
  · rintro ⟨hab, hba⟩
    -- `b` is reached, so it names a node, and that node reaches back
    obtain ⟨j, hjb, hij⟩ := ht.reaches_of_joins ha hab
    exact ⟨j, (hcs.mem_part c hc i hi j).2 ⟨hij, (ht.reaches_iff hjb ha).2 hba⟩, hjb⟩

end Parts

theorem mem_cyclesWith {t : Topology} {scc : DiGraph String Nat → List (List Nat)}
    {G : List String} :
    G ∈ t.cyclesWith scc ↔
      ∃ c ∈ scc t.graph, 1 < c.length ∧ sortStrings (c.filterMap t.graph.nodeWeight) = G := by
  simp only [cyclesWith, List.mem_mergeSort, List.mem_map, List.mem_filter, decide_eq_true_eq]
  constructor
  · rintro ⟨c, ⟨hc, hlen⟩, rfl⟩
    exact ⟨c, hc, hlen, rfl⟩
  · rintro ⟨c, hc, hlen, rfl⟩
    exact ⟨c, ⟨hc, hlen⟩, rfl⟩

/-- The cycles read off any search for strongly connected components are strictly increasing:
distinct parts share no node, and so no name. -/
theorem cyclesWith_pairwise_lt {t : Topology} (ht : t.Interned)
    {scc : DiGraph String Nat → List (List Nat)} (hscc : t.graph.IsSccPartition (scc t.graph)) :
    (t.cyclesWith scc).Pairwise (· < ·) := by
  refine pairwise_lt_mergeSort (fun _ _ => decide_eq_true_iff.trans not_lt) ?_
  rw [List.Nodup, List.pairwise_map]
  have hdisj : ((scc t.graph).filter (1 < ·.length)).Pairwise List.Disjoint :=
    (List.nodup_flatten.1 hscc.nodup).2.sublist List.filter_sublist
  refine hdisj.imp_of_mem fun {c d} hc hd hcd heq => ?_
  obtain ⟨hc, hlen⟩ := List.mem_filter.1 hc
  obtain ⟨hd, -⟩ := List.mem_filter.1 hd
  -- the first name of `c` would be a name of `d`, at the same node
  have hpos : 0 < c.length := by
    simp only [decide_eq_true_eq] at hlen
    omega
  obtain ⟨i, hi⟩ := List.exists_mem_of_length_pos hpos
  obtain ⟨a, ha⟩ := exists_getElem?_of_mem_part hscc hc hi
  have haD : a ∈ d.filterMap t.graph.nodeWeight := by
    rw [← mem_sortStrings, ← heq, mem_sortStrings]
    exact List.mem_filterMap.2 ⟨i, hi, ha⟩
  obtain ⟨j, hj, hja⟩ := List.mem_filterMap.1 haD
  exact hcd hi (ht.eq_of_getElem? ha hja ▸ hj)

/-! ### The dependency cycles of a graph -/

section Cycles

variable {g : Graph} {scc : DiGraph String Nat → List (List Nat)}
  (hscc : (ofGraph g).graph.IsSccPartition (scc (ofGraph g).graph))
include hscc

/-- A part's names, in the topology of a graph, are the services that reach each other. -/
theorem mem_names_part_ofGraph {c : List Nat} (hc : c ∈ scc (ofGraph g).graph) {i : Nat}
    (hi : i ∈ c) {a : String} (ha : (ofGraph g).graph.nodes[i]? = some a) (b : String) :
    b ∈ c.filterMap (ofGraph g).graph.nodeWeight ↔ g.Reaches a b ∧ g.Reaches b a := by
  rw [mem_names_part (interned_ofGraph g) hscc hc hi ha, joins_ofGraph_eq]
  rfl

/-- Each dependency cycle is a strongly connected component of two or more services. -/
theorem isCycle_of_mem_cyclesWith {G : List String} (hG : G ∈ (ofGraph g).cyclesWith scc) :
    g.IsCycle G := by
  obtain ⟨c, hc, hlen, rfl⟩ := mem_cyclesWith.1 hG
  obtain ⟨i, hi⟩ := List.exists_mem_of_length_pos (by omega : 0 < c.length)
  obtain ⟨a, ha⟩ := exists_getElem?_of_mem_part hscc hc hi
  refine ⟨sortStrings_pairwise_lt (nodup_names_part (interned_ofGraph g) hscc hc), ?_, a,
    fun b => ?_⟩
  · rw [length_sortStrings, length_names_part hscc hc]
    omega
  · rw [mem_sortStrings, mem_names_part_ofGraph hscc hc hi ha]

/-- Two distinct services that reach each other share a dependency cycle: the part of the node
of either. -/
theorem exists_cyclesWith_of_reaches {a b : String} (hab : a ≠ b)
    (h : g.Reaches a b ∧ g.Reaches b a) :
    ∃ G ∈ (ofGraph g).cyclesWith scc, a ∈ G ∧ b ∈ G := by
  have ha : a ∈ (ofGraph g).graph.nodes := by
    rw [nodes_ofGraph, List.mem_eraseDups]
    exact Graph.source_mem_of_reaches h.1 hab
  obtain ⟨i, hi⟩ := List.mem_iff_getElem?.1 ha
  have hflat := (hscc.mem_flatten i).2 (List.getElem?_eq_some_iff.1 hi).1
  obtain ⟨c, hc, hic⟩ := List.mem_flatten.1 hflat
  have haC := (mem_names_part_ofGraph hscc hc hic hi a).2 ⟨.refl, .refl⟩
  have hbC := (mem_names_part_ofGraph hscc hc hic hi b).2 h
  refine ⟨_, mem_cyclesWith.2 ⟨c, hc, ?_, rfl⟩, mem_sortStrings.2 haC,
    mem_sortStrings.2 hbC⟩
  -- a part with two names has two nodes
  have htwo := two_le_length_of_mem haC hbC hab
  rw [length_names_part hscc hc] at htwo
  omega

/-- The dependency cycles of a graph are exactly its strongly connected components of two or
more services, each sorted. -/
theorem mem_cyclesWith_iff_isCycle {G : List String} :
    G ∈ (ofGraph g).cyclesWith scc ↔ g.IsCycle G := by
  refine ⟨isCycle_of_mem_cyclesWith hscc, fun hG => ?_⟩
  obtain ⟨a, hmem⟩ := hG.2.2
  obtain ⟨b, hb, hba⟩ := hG.exists_ne a
  obtain ⟨H, hH, haH, -⟩ := exists_cyclesWith_of_reaches hscc (Ne.symm hba) ((hmem b).1 hb)
  -- the cycle found through `a` is `G`, which holds `a` too
  have haG : a ∈ G := (hmem a).2 ⟨.refl, .refl⟩
  rwa [hG.eq_of_mem (isCycle_of_mem_cyclesWith hscc hH) haG haH]

/-- Two distinct services share a cycle exactly when each reaches the other. -/
theorem share_cyclesWith_iff {a b : String} (hab : a ≠ b) :
    (∃ G ∈ (ofGraph g).cyclesWith scc, a ∈ G ∧ b ∈ G) ↔
      g.Reaches a b ∧ g.Reaches b a := by
  constructor
  · rintro ⟨G, hG, ha, hb⟩
    exact ((isCycle_of_mem_cyclesWith hscc hG).mem_iff_of_mem ha b).1 hb
  · exact exists_cyclesWith_of_reaches hscc hab

/-- A service lies on a cycle exactly when it and another service reach each other. -/
theorem mem_some_cyclesWith_iff {a : String} :
    (∃ G ∈ (ofGraph g).cyclesWith scc, a ∈ G) ↔
      ∃ b, b ≠ a ∧ g.Reaches a b ∧ g.Reaches b a := by
  constructor
  · rintro ⟨G, hG, ha⟩
    have hc := isCycle_of_mem_cyclesWith hscc hG
    obtain ⟨b, hb, hba⟩ := hc.exists_ne a
    exact ⟨b, hba, (hc.mem_iff_of_mem ha b).1 hb⟩
  · rintro ⟨b, hba, h⟩
    obtain ⟨G, hG, ha, -⟩ := exists_cyclesWith_of_reaches hscc (Ne.symm hba) h
    exact ⟨G, hG, ha⟩

end Cycles

/-- The cycles of a graph depend only on the pairs its links join. -/
theorem cyclesWith_congr {g g' : Graph} {scc : DiGraph String Nat → List (List Nat)}
    (hscc : (ofGraph g).graph.IsSccPartition (scc (ofGraph g).graph))
    (hscc' : (ofGraph g').graph.IsSccPartition (scc (ofGraph g').graph))
    (h : ∀ a b, g'.Calls a b ↔ g.Calls a b) :
    (ofGraph g').cyclesWith scc = (ofGraph g).cyclesWith scc := by
  -- both lists are strictly increasing, with the same members
  refine (cyclesWith_pairwise_lt (interned_ofGraph g') hscc').eq_of_mem_iff
    (cyclesWith_pairwise_lt (interned_ofGraph g) hscc) fun G => ?_
  rw [mem_cyclesWith_iff_isCycle hscc', mem_cyclesWith_iff_isCycle hscc, Graph.isCycle_congr h]

/-- `cycles` gives the cycles that any search for strongly connected components gives. -/
theorem cycles_eq_cyclesWith {g : Graph} {scc : DiGraph String Nat → List (List Nat)}
    (hscc : (ofGraph g).graph.IsSccPartition (scc (ofGraph g).graph)) :
    (ofGraph g).cycles = (ofGraph g).cyclesWith scc := by
  have hcomp := DiGraph.components_isSccPartition (interned_ofGraph g).wellFormed
  refine (cyclesWith_pairwise_lt (interned_ofGraph g) hcomp).eq_of_mem_iff
    (cyclesWith_pairwise_lt (interned_ofGraph g) hscc) fun G => ?_
  rw [mem_cyclesWith_iff_isCycle hcomp, mem_cyclesWith_iff_isCycle hscc]

end Topology

/-- Given any search for strongly connected components, the dependency cycles of a graph are, in
strictly increasing order, exactly its strongly connected components of two or more services,
each strictly increasing: two cycles that share a service are the same, two distinct services
share a cycle exactly when each reaches the other, a service lies on a cycle exactly when it and
some other service reach each other, graphs whose links join the same pairs have the same
cycles, whatever the order of their nodes and links, and `cycles` gives them. -/
theorem dependency_cycles_are_components (g : Graph)
    (scc : DiGraph String Nat → List (List Nat))
    (hscc : ∀ G : DiGraph String Nat, G.WellFormed → G.IsSccPartition (scc G)) :
    let cycles := (Topology.ofGraph g).cyclesWith scc
    cycles.Pairwise (· < ·) ∧
    (∀ G, G ∈ cycles ↔ g.IsCycle G) ∧
    (∀ G ∈ cycles, ∀ H ∈ cycles, ∀ s ∈ G, s ∈ H → G = H) ∧
    (∀ a b, a ≠ b →
      ((∃ G ∈ cycles, a ∈ G ∧ b ∈ G) ↔ g.Reaches a b ∧ g.Reaches b a)) ∧
    (∀ a, (∃ G ∈ cycles, a ∈ G) ↔ ∃ b, b ≠ a ∧ g.Reaches a b ∧ g.Reaches b a) ∧
    (∀ g' : Graph, (∀ a b, g'.Calls a b ↔ g.Calls a b) →
      (Topology.ofGraph g').cyclesWith scc = cycles) ∧
    (Topology.ofGraph g).cycles = cycles := by
  intro cycles
  have hg := hscc _ (Topology.interned_ofGraph g).wellFormed
  refine ⟨Topology.cyclesWith_pairwise_lt (Topology.interned_ofGraph g) hg,
    fun G => Topology.mem_cyclesWith_iff_isCycle hg, ?_,
    fun a b hab => Topology.share_cyclesWith_iff hg hab,
    fun a => Topology.mem_some_cyclesWith_iff hg,
    fun g' hg' => Topology.cyclesWith_congr hg (hscc _ (Topology.interned_ofGraph g').wellFormed)
      hg',
    Topology.cycles_eq_cyclesWith hg⟩
  -- two cycles through one service are both that service's component
  intro G hG H hH s hsG hsH
  exact (Topology.mem_cyclesWith_iff_isCycle hg |>.1 hG).eq_of_mem
    (Topology.mem_cyclesWith_iff_isCycle hg |>.1 hH) hsG hsH

/-- Two rings of services, one of two and one of three, with `components` as the search. -/
theorem dependency_cycles_of_two_rings :
    (∀ G : DiGraph String Nat, G.WellFormed → G.IsSccPartition G.components) ∧
    let g : Graph :=
      { nodes := ["a", "b", "c", "d", "e"].map fun n => { name := n, path := "/" ++ n }
        links := ⟨[("c --> b", { source := "c", target := "b" }),
          ("b --> c", { source := "b", target := "c" }),
          ("e --> d", { source := "e", target := "d" }),
          ("d --> a", { source := "d", target := "a" }),
          ("a --> e", { source := "a", target := "e" })]⟩ }
    let cycles := (Topology.ofGraph g).cyclesWith DiGraph.components
    cycles.Pairwise (· < ·) ∧
    (∀ G, G ∈ cycles ↔ g.IsCycle G) ∧
    (∀ G ∈ cycles, ∀ H ∈ cycles, ∀ s ∈ G, s ∈ H → G = H) ∧
    (∀ a b, a ≠ b →
      ((∃ G ∈ cycles, a ∈ G ∧ b ∈ G) ↔ g.Reaches a b ∧ g.Reaches b a)) ∧
    (∀ a, (∃ G ∈ cycles, a ∈ G) ↔ ∃ b, b ≠ a ∧ g.Reaches a b ∧ g.Reaches b a) ∧
    (∀ g' : Graph, (∀ a b, g'.Calls a b ↔ g.Calls a b) →
      (Topology.ofGraph g').cyclesWith DiGraph.components = cycles) ∧
    (Topology.ofGraph g).cycles = cycles :=
  ⟨fun _ hG => DiGraph.components_isSccPartition hG,
    dependency_cycles_are_components _ DiGraph.components
      fun _ hG => DiGraph.components_isSccPartition hG⟩

end ServiceGraph
