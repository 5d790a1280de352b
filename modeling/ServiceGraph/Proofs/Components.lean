import Mathlib
import ServiceGraph.DiGraph
import ServiceGraph.Proofs.KeySplit

/-!
# Strongly connected components of a directed graph

A node reaches another along edges (`DiGraph.Reaches`); a strongly connected component is a set
of nodes each of which reaches every other.  What a program relies on of a search for them is
`IsSccPartition`: the parts hold every node once, and two nodes share a part exactly when each
reaches the other.  In a graph whose edges join nodes it has (`WellFormed`), `components` is
such a search (`components_isSccPartition`).

Reachability is computed by `spread`, a breadth-first walk that stops when a round finds nothing
new or its rounds run out.  Everything it returns is reached along edges (`mem_spread`), and
given one round per node it stops at a set closed under edges (`spread_closed`): a round with a
non-empty frontier either adds a node or leaves an empty frontier, and a list of distinct nodes
holds no more nodes than there are.  So `reach` is exactly reachability (`mem_reach`), a node's
`component` is the set of nodes it reaches and that reach it (`mem_component`), and two nodes
that reach each other have the same component (`component_eq`).
-/

namespace ServiceGraph.DiGraph

variable {N E : Type}

/-- Every edge joins two nodes of the graph. -/
def WellFormed (g : DiGraph N E) : Prop :=
  ∀ e ∈ g.edges, e.1 < g.nodeCount ∧ e.2.1 < g.nodeCount

/-- An edge goes from `a` to `b`. -/
def Edge (g : DiGraph N E) (a b : Nat) : Prop := ∃ w, (a, b, w) ∈ g.edges

/-- `b` is reached from `a` along edges, in any number of steps. -/
def Reaches (g : DiGraph N E) : Nat → Nat → Prop := Relation.ReflTransGen g.Edge

/-- What a program relies on of a search for strongly connected components: its parts hold
every node once, and two nodes share a part exactly when each reaches the other. -/
structure IsSccPartition (g : DiGraph N E) (cs : List (List Nat)) : Prop where
  nodup : cs.flatten.Nodup
  mem_flatten : ∀ i, i ∈ cs.flatten ↔ i < g.nodeCount
  mem_part : ∀ c ∈ cs, ∀ i ∈ c, ∀ j, j ∈ c ↔ g.Reaches i j ∧ g.Reaches j i

variable (g : DiGraph N E)

/-! ### Reachability -/

/-- The nodes one round reaches from a frontier: the far ends of the frontier's edges. -/
theorem mem_successors {frontier : List Nat} {y : Nat} :
    y ∈ g.successors frontier ↔ ∃ x ∈ frontier, g.Edge x y := by
  simp only [successors, List.mem_eraseDups, List.mem_filterMap, Option.ite_none_right_eq_some,
    Option.some.injEq, List.contains_iff_mem, Edge]
  constructor
  · rintro ⟨⟨x, y', w⟩, he, hx, rfl⟩
    exact ⟨x, hx, w, he⟩
  · rintro ⟨x, hx, w, he⟩
    exact ⟨(x, y, w), he, hx, rfl⟩

theorem subset_spread (fuel : Nat) (seen frontier : List Nat) :
    seen ⊆ g.spread fuel seen frontier := by
  fun_induction g.spread fuel seen frontier with
  | case1 => exact List.Subset.refl _
  | case2 => exact List.Subset.refl _
  | case3 =>
    rename_i ih
    exact fun x hx => ih (List.mem_append_left _ hx)

/-- Whatever `spread` adds is reached along edges from the frontier it started with. -/
theorem mem_spread {fuel : Nat} {seen frontier : List Nat} {y : Nat}
    (h : y ∈ g.spread fuel seen frontier) :
    y ∈ seen ∨ ∃ x ∈ frontier, g.Reaches x y := by
  fun_induction g.spread fuel seen frontier with
  | case1 => exact .inl h
  | case2 => exact .inl h
  | case3 fuel seen frontier hne fresh ih =>
    have hfresh : ∀ z ∈ fresh, ∃ x ∈ frontier, g.Edge x z :=
      fun z hz => (g.mem_successors).1 (List.mem_filter.1 hz).1
    rcases ih h with hy | ⟨x, hx, hxy⟩
    · rcases List.mem_append.1 hy with hy | hy
      · exact .inl hy
      · obtain ⟨z, hz, hzy⟩ := hfresh y hy
        exact .inr ⟨z, hz, .single hzy⟩
    · obtain ⟨z, hz, hzx⟩ := hfresh x hx
      exact .inr ⟨z, hz, .head hzx hxy⟩

/-- With a round to spare for each node of a universe `U` that edges never leave, `spread`
stops at a set closed under edges.  It carries that `seen` is closed under edges except at the
frontier, and that each round with a frontier has either a round or a new node left. -/
theorem spread_closed (U : List Nat) (hU : ∀ a b, g.Edge a b → b ∈ U) {fuel : Nat}
    {seen frontier : List Nat} (hseen : seen ⊆ U) (hnodup : seen.Nodup)
    (hcl : ∀ x ∈ seen, x ∉ frontier → ∀ y, g.Edge x y → y ∈ seen)
    (hfuel : frontier ≠ [] → U.length < fuel + seen.length) :
    ∀ x ∈ g.spread fuel seen frontier, ∀ y, g.Edge x y → y ∈ g.spread fuel seen frontier := by
  fun_induction g.spread fuel seen frontier with
  | case1 seen frontier =>
    -- out of rounds: `seen` already holds as many distinct nodes as `U` can, so the frontier
    -- is spent
    have hlen : seen.length ≤ U.length := (hnodup.subperm hseen).length_le
    have hfr : frontier = [] := by
      by_contra hne
      have := hfuel hne
      omega
    intro x hx y hxy
    exact hcl x hx (by simp [hfr]) y hxy
  | case2 n seen =>
    intro x hx y hxy
    exact hcl x hx List.not_mem_nil y hxy
  | case3 fuel seen frontier hne fresh ih =>
    have hfresh : ∀ y, y ∈ fresh ↔ (∃ x ∈ frontier, g.Edge x y) ∧ y ∉ seen := by
      intro y
      simp only [fresh, List.mem_filter, g.mem_successors]
      simp
    apply ih
    · intro y hy
      rcases List.mem_append.1 hy with hy | hy
      · exact hseen hy
      · obtain ⟨⟨x, -, hxy⟩, -⟩ := (hfresh y).1 hy
        exact hU x y hxy
    · rw [List.nodup_append]
      exact ⟨hnodup, (nodup_eraseDups _).filter _,
        fun a ha b hb hab => ((hfresh b).1 hb).2 (hab ▸ ha)⟩
    · -- an edge out of the old frontier lands in `seen` or among the fresh nodes
      intro x hx hxf y hxy
      have hxs : x ∈ seen := (List.mem_append.1 hx).resolve_right hxf
      by_cases hxfr : x ∈ frontier
      · by_cases hys : y ∈ seen
        · exact List.mem_append_left _ hys
        · exact List.mem_append_right _ ((hfresh y).2 ⟨⟨x, hxfr, hxy⟩, hys⟩)
      · exact List.mem_append_left _ (hcl x hxs hxfr y hxy)
    · -- a round that found fresh nodes has spent one round on at least one new node
      intro hne'
      have hpos : 0 < fresh.length := List.length_pos_of_ne_nil hne'
      have := hfuel hne
      rw [List.length_append]
      omega

variable {g}

/-- In a well-formed graph an edge ends at a node. -/
theorem WellFormed.lt_of_edge (hg : g.WellFormed) {a b : Nat} (h : g.Edge a b) :
    b < g.nodeCount := by
  obtain ⟨w, hw⟩ := h
  exact (hg _ hw).2

/-- In a well-formed graph what a node reaches is a node. -/
theorem WellFormed.lt_of_reaches (hg : g.WellFormed) {i j : Nat} (hi : i < g.nodeCount)
    (h : g.Reaches i j) : j < g.nodeCount := by
  induction h with
  | refl => exact hi
  | tail _ hbc _ => exact hg.lt_of_edge hbc

theorem mem_reach (hg : g.WellFormed) {i j : Nat} : j ∈ g.reach i ↔ g.Reaches i j := by
  unfold reach
  constructor
  · intro h
    rcases g.mem_spread h with hj | ⟨x, hx, hxj⟩
    · rw [List.mem_singleton.1 hj]
      exact .refl
    · rwa [List.mem_singleton.1 hx] at hxj
  · intro h
    -- the universe is `i` and the nodes, one more than the nodes, so the rounds suffice
    have hclosed : ∀ x ∈ g.spread (g.nodeCount + 1) [i] [i], ∀ y, g.Edge x y →
        y ∈ g.spread (g.nodeCount + 1) [i] [i] :=
      g.spread_closed (i :: List.range g.nodeCount)
        (fun _ _ hxy => List.mem_cons_of_mem _ (List.mem_range.2 (hg.lt_of_edge hxy)))
        (by simp) (List.nodup_singleton i) (by simp) (by simp)
    induction h with
    | refl => exact g.subset_spread _ _ _ (List.mem_singleton_self i)
    | tail _ hbc ih => exact hclosed _ ih _ hbc

theorem mem_component (hg : g.WellFormed) {i j : Nat} :
    j ∈ g.component i ↔ j < g.nodeCount ∧ g.Reaches i j ∧ g.Reaches j i := by
  simp [component, mem_reach hg]

/-- Two nodes that reach each other have the same component. -/
theorem component_eq (hg : g.WellFormed) {i j : Nat} (h : g.Reaches i j ∧ g.Reaches j i) :
    g.component i = g.component j := by
  refine List.filter_congr fun k _ => ?_
  rw [Bool.eq_iff_iff]
  simp only [Bool.and_eq_true, List.contains_iff_mem, mem_reach hg]
  exact ⟨fun ⟨hik, hki⟩ => ⟨h.2.trans hik, hki.trans h.1⟩,
    fun ⟨hjk, hkj⟩ => ⟨h.1.trans hjk, hkj.trans h.2⟩⟩

theorem mem_components {c : List Nat} :
    c ∈ g.components ↔ ∃ i < g.nodeCount, g.component i = c := by
  simp [components]

/-- A node of a part is a node. -/
theorem IsSccPartition.lt_of_mem {cs : List (List Nat)} (hcs : g.IsSccPartition cs)
    {c : List Nat} (hc : c ∈ cs) {i : Nat} (hi : i ∈ c) : i < g.nodeCount :=
  (hcs.mem_flatten i).1 (List.mem_flatten.2 ⟨c, hc, hi⟩)

/-- `components` splits a well-formed graph into its strongly connected components. -/
theorem components_isSccPartition (hg : g.WellFormed) : g.IsSccPartition g.components where
  nodup := by
    refine List.nodup_flatten.2 ⟨fun c hc => ?_, ?_⟩
    · obtain ⟨i, -, rfl⟩ := mem_components.1 hc
      exact List.nodup_range.filter _
    · -- distinct components share no node: a shared node would make them one component
      refine (nodup_eraseDups _).imp_of_mem fun {c d} hc hd hne x hxc hxd => hne ?_
      obtain ⟨i, -, rfl⟩ := mem_components.1 hc
      obtain ⟨j, -, rfl⟩ := mem_components.1 hd
      obtain ⟨-, hix, hxi⟩ := (mem_component hg).1 hxc
      obtain ⟨-, hjx, hxj⟩ := (mem_component hg).1 hxd
      exact component_eq hg ⟨hix.trans hxj, hjx.trans hxi⟩
  mem_flatten i := by
    simp only [List.mem_flatten, mem_components]
    constructor
    · rintro ⟨c, ⟨j, -, rfl⟩, hic⟩
      exact ((mem_component hg).1 hic).1
    · intro hi
      exact ⟨g.component i, ⟨i, hi, rfl⟩, (mem_component hg).2 ⟨hi, .refl, .refl⟩⟩
  mem_part c hc i hic j := by
    obtain ⟨k, -, rfl⟩ := mem_components.1 hc
    obtain ⟨hi, hki, hik⟩ := (mem_component hg).1 hic
    rw [mem_component hg]
    constructor
    · rintro ⟨-, hkj, hjk⟩
      exact ⟨hik.trans hkj, hjk.trans hki⟩
    · rintro ⟨hij, hji⟩
      exact ⟨hg.lt_of_reaches hi hij, hki.trans hij, hji.trans hik⟩

end ServiceGraph.DiGraph
