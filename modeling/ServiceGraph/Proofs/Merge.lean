import Mathlib
import ServiceGraph.Diff.Merge
import ServiceGraph.Proofs.LinkTable
import ServiceGraph.Proofs.KeySplit
import ServiceGraph.Proofs.Pairing

/-!
# Merging — the merged graph is the specified union

`Graph.diff early later` looks every key of the key split up in the table it comes from: the
added keys in `later` (`addedLinks`), the removed keys in `early` (`removedLinks`), and the
shared keys in both (`sharedLinks`, which also pairs the two request lists).  A key of a table is
always found there, so no lookup fails and each group carries exactly the keys of its part of
the split (`map_fst_addedLinks` and its two siblings).  The three parts hold distinct keys, so
inserting the groups into the empty table puts each entry last, in order
(`diff_links_entries`).

**Specified merge** (`diff_merges_snapshots`).  For every two snapshots the merged keys are the
added, then the removed, then the shared keys of the split, as many as the keys of the union;
each key carries the link of its side with its mark; the request deltas are the pairings of the
shared keys' request lists; the nodes are the paired nodes marked by group; and each summary
count agrees with the marks of the merged graph.

**Self merge** (`diff_self_reports_no_change`).  A snapshot whose table is reachable, merged with
itself, reports no change: its keys are distinct, so the split has only shared keys, in the
table's order, and every record list pairs with itself position by position
(`pairRecords_self`).
-/

namespace ServiceGraph

/-- Entries built from a list of keys, each key found with a value, carry the same keys. -/
theorem map_fst_filterMap {β : Type} (ks : List String) (F : String → Option (String × β))
    (h : ∀ k ∈ ks, ∃ v, F k = some (k, v)) : (ks.filterMap F).map (·.1) = ks := by
  induction ks with
  | nil => rfl
  | cons k ks ih =>
    obtain ⟨v, hv⟩ := h k List.mem_cons_self
    rw [List.filterMap_cons_some hv, List.map_cons,
      ih fun k' hk' => h k' (List.mem_cons_of_mem _ hk')]

namespace Graph

section Groups

variable (early later : Graph)

/-- The links only the later snapshot has, marked added. -/
def addedLinks : List (String × Link) :=
  (keySplit early.links.keys later.links.keys).additions.filterMap fun k =>
    (later.links.get? k).map fun l => (k, { l with change := .added })

/-- The links only the earlier snapshot has, marked removed. -/
def removedLinks : List (String × Link) :=
  (keySplit early.links.keys later.links.keys).subtractions.filterMap fun k =>
    (early.links.get? k).map fun l => (k, { l with change := .removed })

/-- What a shared key brings from its earlier and later link: the request delta, and the
later link's endpoints and requests marked changed. -/
def sharedEntry (k : String) :
    Option Link → Option Link → Option (String × RequestDelta × Link)
  | some b, some a => some (k, RequestDelta.between b a,
      { source := a.source, target := a.target, requests := a.requests, change := .changed })
  | _, _ => none

/-- The links both snapshots have, each with its request delta. -/
def sharedLinks : List (String × RequestDelta × Link) :=
  (keySplit early.links.keys later.links.keys).unmodified.filterMap fun k =>
    sharedEntry k (early.links.get? k) (later.links.get? k)

theorem diff_links : (early.diff later).merged.links =
    (addedLinks early later ++ removedLinks early later ++
      (sharedLinks early later).map fun s => (s.1, s.2.2)).foldl
        (fun t e => t.insert e.1 e.2) {} := rfl

theorem diff_deltas :
    (early.diff later).deltas = (sharedLinks early later).map fun s => (s.1, s.2.1) := rfl

theorem diff_nodes : (early.diff later).merged.nodes =
    (pairRecords Node.sameAs early.nodes later.nodes).additions.map
        ({ · with change := .added }) ++
      (pairRecords Node.sameAs early.nodes later.nodes).subtractions.map
        ({ · with change := .removed }) ++
      (pairRecords Node.sameAs early.nodes later.nodes).unmodified.map
        ({ · with change := .unchanged }) := rfl

theorem diff_summary : (early.diff later).summary =
    { nodesAdded := (pairRecords Node.sameAs early.nodes later.nodes).additions.length
      nodesRemoved := (pairRecords Node.sameAs early.nodes later.nodes).subtractions.length
      nodesUnmodified := (pairRecords Node.sameAs early.nodes later.nodes).unmodified.length
      linksAdded := (keySplit early.links.keys later.links.keys).additions.length
      linksRemoved := (keySplit early.links.keys later.links.keys).subtractions.length
      linksUnmodified := (keySplit early.links.keys later.links.keys).unmodified.length
      requestsAdded := ((early.diff later).deltas.map (·.2.added.length)).sum
      requestsRemoved := ((early.diff later).deltas.map (·.2.removed.length)).sum } := rfl

/-! ### Each group carries its part of the split -/

/-- A key of a table is found there. -/
theorem exists_get?_of_mem_keys {t : LinkTable} {k : String} (hk : k ∈ t.keys) :
    ∃ l, t.get? k = some l :=
  Option.isSome_iff_exists.1 ((t.get?_isSome_iff k).2 hk)

/-- A shared key is found in both snapshots. -/
theorem exists_get?_of_mem_unmodified {k : String}
    (hk : k ∈ (keySplit early.links.keys later.links.keys).unmodified) :
    ∃ b a, early.links.get? k = some b ∧ later.links.get? k = some a := by
  obtain ⟨hke, hkl⟩ := (KeySplit.mem_unmodified _ _ k).1 hk
  obtain ⟨b, hb⟩ := exists_get?_of_mem_keys hke
  obtain ⟨a, ha⟩ := exists_get?_of_mem_keys hkl
  exact ⟨b, a, hb, ha⟩

theorem map_fst_addedLinks :
    (addedLinks early later).map (·.1) =
      (keySplit early.links.keys later.links.keys).additions := by
  refine map_fst_filterMap _ _ fun k hk => ?_
  have hk' : k ∈ later.links.keys := ((KeySplit.mem_additions _ _ k).1 hk).1
  obtain ⟨l, hl⟩ := exists_get?_of_mem_keys hk'
  exact ⟨_, by rw [hl]; rfl⟩

theorem map_fst_removedLinks :
    (removedLinks early later).map (·.1) =
      (keySplit early.links.keys later.links.keys).subtractions := by
  refine map_fst_filterMap _ _ fun k hk => ?_
  have hk' : k ∈ early.links.keys := ((KeySplit.mem_subtractions _ _ k).1 hk).1
  obtain ⟨l, hl⟩ := exists_get?_of_mem_keys hk'
  exact ⟨_, by rw [hl]; rfl⟩

theorem map_fst_sharedLinks :
    (sharedLinks early later).map (·.1) =
      (keySplit early.links.keys later.links.keys).unmodified := by
  refine map_fst_filterMap _ _ fun k hk => ?_
  obtain ⟨b, a, hb, ha⟩ := exists_get?_of_mem_unmodified early later hk
  exact ⟨_, by rw [hb, ha]; rfl⟩

theorem mem_addedLinks {k : String} {l : Link}
    (hk : k ∈ (keySplit early.links.keys later.links.keys).additions)
    (hl : later.links.get? k = some l) :
    (k, { l with change := .added }) ∈ addedLinks early later :=
  List.mem_filterMap.2 ⟨k, hk, by rw [hl]; rfl⟩

theorem mem_removedLinks {k : String} {l : Link}
    (hk : k ∈ (keySplit early.links.keys later.links.keys).subtractions)
    (hl : early.links.get? k = some l) :
    (k, { l with change := .removed }) ∈ removedLinks early later :=
  List.mem_filterMap.2 ⟨k, hk, by rw [hl]; rfl⟩

theorem mem_sharedLinks {k : String} {b a : Link}
    (hk : k ∈ (keySplit early.links.keys later.links.keys).unmodified)
    (hb : early.links.get? k = some b) (ha : later.links.get? k = some a) :
    (k, RequestDelta.between b a,
      ({ source := a.source, target := a.target, requests := a.requests, change := .changed } :
        Link)) ∈ sharedLinks early later :=
  List.mem_filterMap.2 ⟨k, hk, by rw [hb, ha]; rfl⟩

theorem change_of_mem_addedLinks {e : String × Link} (he : e ∈ addedLinks early later) :
    e.2.change = .added := by
  obtain ⟨k, -, hk⟩ := List.mem_filterMap.1 he
  obtain ⟨l, -, rfl⟩ := Option.map_eq_some_iff.1 hk
  rfl

theorem change_of_mem_removedLinks {e : String × Link} (he : e ∈ removedLinks early later) :
    e.2.change = .removed := by
  obtain ⟨k, -, hk⟩ := List.mem_filterMap.1 he
  obtain ⟨l, -, rfl⟩ := Option.map_eq_some_iff.1 hk
  rfl

theorem change_of_mem_sharedLinks {s : String × RequestDelta × Link}
    (hs : s ∈ sharedLinks early later) : s.2.2.change = .changed := by
  obtain ⟨k, -, hk⟩ := List.mem_filterMap.1 hs
  -- only a key both snapshots hold produces an entry
  unfold sharedEntry at hk
  split at hk
  · cases hk; rfl
  · cases hk

end Groups

/-! ### The merged table -/

section Merged

variable (early later : Graph)

theorem map_fst_groups :
    (addedLinks early later ++ removedLinks early later ++
        (sharedLinks early later).map fun s => (s.1, s.2.2)).map (·.1) =
      (keySplit early.links.keys later.links.keys).additions ++
        (keySplit early.links.keys later.links.keys).subtractions ++
        (keySplit early.links.keys later.links.keys).unmodified := by
  rw [List.map_append, List.map_append, List.map_map, map_fst_addedLinks, map_fst_removedLinks]
  exact congrArg _ (map_fst_sharedLinks early later)

/-- The merged table is the added, the removed and the shared links, in that order. -/
theorem diff_links_entries : (early.diff later).merged.links.entries =
    addedLinks early later ++ removedLinks early later ++
      (sharedLinks early later).map fun s => (s.1, s.2.2) := by
  rw [diff_links]
  apply LinkTable.entries_foldl_insert
  rw [map_fst_groups]
  exact KeySplit.nodup_groups _ _

theorem diff_links_keys : (early.diff later).merged.links.keys =
    (keySplit early.links.keys later.links.keys).additions ++
      (keySplit early.links.keys later.links.keys).subtractions ++
      (keySplit early.links.keys later.links.keys).unmodified := by
  rw [LinkTable.keys, diff_links_entries, map_fst_groups]

theorem nodup_diff_links_keys : (early.diff later).merged.links.keys.Nodup := by
  rw [diff_links_keys]
  exact KeySplit.nodup_groups _ _

theorem get?_diff_of_mem {k : String} {l : Link}
    (he : (k, l) ∈ (early.diff later).merged.links.entries) :
    (early.diff later).merged.links.get? k = some l :=
  LinkTable.get?_of_mem (nodup_diff_links_keys early later) he

/-- The request deltas are kept under the shared keys, in order. -/
theorem deltas_keys :
    (early.diff later).deltas.map (·.1) =
      (keySplit early.links.keys later.links.keys).unmodified := by
  rw [diff_deltas, List.map_map]
  exact map_fst_sharedLinks early later

theorem get?_diff_of_mem_additions {k : String}
    (hk : k ∈ (keySplit early.links.keys later.links.keys).additions) :
    (early.diff later).merged.links.get? k =
      (later.links.get? k).map ({ · with change := .added }) := by
  obtain ⟨l, hl⟩ := exists_get?_of_mem_keys ((KeySplit.mem_additions _ _ k).1 hk).1
  rw [hl, Option.map_some]
  refine get?_diff_of_mem early later ?_
  rw [diff_links_entries]
  exact List.mem_append_left _ (List.mem_append_left _ (mem_addedLinks early later hk hl))

theorem get?_diff_of_mem_subtractions {k : String}
    (hk : k ∈ (keySplit early.links.keys later.links.keys).subtractions) :
    (early.diff later).merged.links.get? k =
      (early.links.get? k).map ({ · with change := .removed }) := by
  obtain ⟨l, hl⟩ := exists_get?_of_mem_keys ((KeySplit.mem_subtractions _ _ k).1 hk).1
  rw [hl, Option.map_some]
  refine get?_diff_of_mem early later ?_
  rw [diff_links_entries]
  exact List.mem_append_left _ (List.mem_append_right _ (mem_removedLinks early later hk hl))

theorem get?_diff_of_mem_unmodified {k : String}
    (hk : k ∈ (keySplit early.links.keys later.links.keys).unmodified) :
    (early.diff later).merged.links.get? k = (later.links.get? k).map fun a =>
      { source := a.source, target := a.target, requests := a.requests, change := .changed } := by
  obtain ⟨b, a, hb, ha⟩ := exists_get?_of_mem_unmodified early later hk
  rw [ha, Option.map_some]
  refine get?_diff_of_mem early later ?_
  rw [diff_links_entries]
  exact List.mem_append_right _ (List.mem_map.2 ⟨_, mem_sharedLinks early later hk hb ha, rfl⟩)

/-- Each shared key's delta is the pairing of its earlier and later requests. -/
theorem delta?_diff_of_mem_unmodified {k : String}
    (hk : k ∈ (keySplit early.links.keys later.links.keys).unmodified) :
    ∃ b a, early.links.get? k = some b ∧ later.links.get? k = some a ∧
      (early.diff later).delta? k = some (RequestDelta.between b a) := by
  obtain ⟨b, a, hb, ha⟩ := exists_get?_of_mem_unmodified early later hk
  have hmem : (k, RequestDelta.between b a) ∈ (early.diff later).deltas := by
    rw [diff_deltas]
    exact List.mem_map.2 ⟨_, mem_sharedLinks early later hk hb ha, rfl⟩
  have hnodup : ((early.diff later).deltas.map (·.1)).Nodup := by
    rw [deltas_keys]
    exact (nodup_eraseDups _).filter _
  exact ⟨b, a, hb, ha, by simp [GraphDiff.delta?, LinkTable.find?_fst_of_mem hnodup hmem]⟩

/-- Records all marked `c` count once for `c` and never for another mark. -/
theorem countP_mark {α : Type} (mark : α → Change) {xs : List α} {c : Change}
    (h : ∀ x ∈ xs, mark x = c) (c' : Change) :
    xs.countP (fun x => mark x == c') = if c = c' then xs.length else 0 := by
  by_cases hc : c = c'
  · subst hc
    rw [if_pos rfl, List.countP_eq_length]
    intro x hx
    simp [h x hx]
  · rw [if_neg hc, List.countP_eq_zero]
    intro x hx
    simp [h x hx, hc]

theorem countP_change {es : List (String × Link)} {c : Change} (h : ∀ e ∈ es, e.2.change = c)
    (c' : Change) : (es.map (·.2)).countP (·.change == c') = if c = c' then es.length else 0 := by
  rw [countP_mark Link.change (List.forall_mem_map.2 h), List.length_map]

theorem countP_marked (ns : List Node) (c c' : Change) :
    (ns.map ({ · with change := c })).countP (·.change == c') =
      if c = c' then ns.length else 0 := by
  have h : ∀ n ∈ ns.map ({ · with change := c }), n.change = c := by simp
  rw [countP_mark Node.change h, List.length_map]

/-- The merged links under a mark are as many as the keys of the split's part with that mark. -/
theorem countP_diff_links (c : Change) :
    (early.diff later).merged.links.links.countP (·.change == c) =
      (if Change.added = c then (keySplit early.links.keys later.links.keys).additions.length
        else 0) +
      (if Change.removed = c then (keySplit early.links.keys later.links.keys).subtractions.length
        else 0) +
      (if Change.changed = c then (keySplit early.links.keys later.links.keys).unmodified.length
        else 0) := by
  have hs : ∀ e ∈ (sharedLinks early later).map (fun s => (s.1, s.2.2)),
      e.2.change = .changed := by
    intro e he
    obtain ⟨s, hs, rfl⟩ := List.mem_map.1 he
    exact change_of_mem_sharedLinks early later hs
  rw [LinkTable.links, diff_links_entries, List.map_append, List.map_append, List.countP_append,
    List.countP_append, countP_change (fun e he => change_of_mem_addedLinks early later he),
    countP_change (fun e he => change_of_mem_removedLinks early later he), countP_change hs]
  have ha : (addedLinks early later).length =
      (keySplit early.links.keys later.links.keys).additions.length := by
    rw [← map_fst_addedLinks, List.length_map]
  have hr : (removedLinks early later).length =
      (keySplit early.links.keys later.links.keys).subtractions.length := by
    rw [← map_fst_removedLinks, List.length_map]
  have hu : ((sharedLinks early later).map fun s => (s.1, s.2.2)).length =
      (keySplit early.links.keys later.links.keys).unmodified.length := by
    rw [List.length_map, ← map_fst_sharedLinks, List.length_map]
  rw [ha, hr, hu]

/-- The merged nodes under a mark are as many as the nodes of the pairing's part with that
mark. -/
theorem countP_diff_nodes (c : Change) :
    (early.diff later).merged.nodes.countP (·.change == c) =
      (if Change.added = c then (pairRecords Node.sameAs early.nodes later.nodes).additions.length
        else 0) +
      (if Change.removed = c then
        (pairRecords Node.sameAs early.nodes later.nodes).subtractions.length else 0) +
      (if Change.unchanged = c then
        (pairRecords Node.sameAs early.nodes later.nodes).unmodified.length else 0) := by
  rw [diff_nodes, List.countP_append, List.countP_append, countP_marked, countP_marked,
    countP_marked]

/-- The summary's link counts are the marks of the merged links. -/
theorem diff_summary_links :
    (early.diff later).summary.linksAdded =
        (early.diff later).merged.links.links.countP (·.change == .added) ∧
      (early.diff later).summary.linksRemoved =
        (early.diff later).merged.links.links.countP (·.change == .removed) ∧
      (early.diff later).summary.linksUnmodified =
        (early.diff later).merged.links.links.countP (·.change == .changed) := by
  refine ⟨?_, ?_, ?_⟩ <;> rw [countP_diff_links, diff_summary] <;> simp

/-- The summary's node counts are the marks of the merged nodes. -/
theorem diff_summary_nodes :
    (early.diff later).summary.nodesAdded =
        (early.diff later).merged.nodes.countP (·.change == .added) ∧
      (early.diff later).summary.nodesRemoved =
        (early.diff later).merged.nodes.countP (·.change == .removed) ∧
      (early.diff later).summary.nodesUnmodified =
        (early.diff later).merged.nodes.countP (·.change == .unchanged) := by
  refine ⟨?_, ?_, ?_⟩ <;> rw [countP_diff_nodes, diff_summary] <;> simp

end Merged

end Graph

/-- The merged graph of two snapshots is their specified union: the added, removed and shared
keys of the split in that order, as many as the keys of either side; each with the link of its
side and its mark; the pairings of the shared keys' requests as deltas; the paired nodes marked
by group; the later commit; and a summary whose counts are the marks of the merged graph. -/
theorem diff_merges_snapshots (early later : Graph) :
    let K := keySplit early.links.keys later.links.keys
    let P := pairRecords Node.sameAs early.nodes later.nodes
    let d := early.diff later
    d.merged.links.keys = K.additions ++ K.subtractions ++ K.unmodified ∧
    d.merged.links.keys.Nodup ∧
    d.merged.linkCount = (early.links.keys.toFinset ∪ later.links.keys.toFinset).card ∧
    (∀ k ∈ K.additions,
      d.merged.links.get? k = (later.links.get? k).map ({ · with change := .added })) ∧
    (∀ k ∈ K.subtractions,
      d.merged.links.get? k = (early.links.get? k).map ({ · with change := .removed })) ∧
    (∀ k ∈ K.unmodified, d.merged.links.get? k = (later.links.get? k).map fun a =>
      { source := a.source, target := a.target, requests := a.requests, change := .changed }) ∧
    d.deltas.map (·.1) = K.unmodified ∧
    (∀ k ∈ K.unmodified, ∃ b a,
      early.links.get? k = some b ∧ later.links.get? k = some a ∧
      d.delta? k = some ⟨(pairRecords Request.sameAs b.requests a.requests).additions,
        (pairRecords Request.sameAs b.requests a.requests).subtractions,
        (pairRecords Request.sameAs b.requests a.requests).unmodified.length⟩) ∧
    d.merged.nodes = P.additions.map ({ · with change := .added }) ++
      P.subtractions.map ({ · with change := .removed }) ++
      P.unmodified.map ({ · with change := .unchanged }) ∧
    d.merged.commitId = later.commitId ∧
    d.summary.linksAdded = d.merged.links.links.countP (·.change == .added) ∧
    d.summary.linksRemoved = d.merged.links.links.countP (·.change == .removed) ∧
    d.summary.linksUnmodified = d.merged.links.links.countP (·.change == .changed) ∧
    d.summary.nodesAdded = d.merged.nodes.countP (·.change == .added) ∧
    d.summary.nodesRemoved = d.merged.nodes.countP (·.change == .removed) ∧
    d.summary.nodesUnmodified = d.merged.nodes.countP (·.change == .unchanged) ∧
    d.summary.requestsAdded = (d.deltas.map (·.2.added.length)).sum ∧
    d.summary.requestsRemoved = (d.deltas.map (·.2.removed.length)).sum := by
  intro K P d
  have hkeys := Graph.diff_links_keys early later
  obtain ⟨hla, hlr, hlu⟩ := Graph.diff_summary_links early later
  obtain ⟨hna, hnr, hnu⟩ := Graph.diff_summary_nodes early later
  refine ⟨hkeys, hkeys ▸ KeySplit.nodup_groups _ _, ?_, fun k hk => ?_, fun k hk => ?_,
    fun k hk => ?_, ?_, fun k hk => ?_, Graph.diff_nodes early later, rfl, hla, hlr, hlu, hna, hnr,
    hnu, rfl, rfl⟩
  · -- the merged table has one entry per key of the union
    rw [Graph.linkCount, LinkTable.size, ← List.length_map (f := (·.1)), ← LinkTable.keys,
      hkeys]
    exact KeySplit.length_groups _ _
  · exact Graph.get?_diff_of_mem_additions early later hk
  · exact Graph.get?_diff_of_mem_subtractions early later hk
  · exact Graph.get?_diff_of_mem_unmodified early later hk
  · rw [Graph.diff_deltas, List.map_map]
    exact Graph.map_fst_sharedLinks early later
  · exact Graph.delta?_diff_of_mem_unmodified early later hk

/-! ### A snapshot merged with itself -/

namespace Graph

section Self

variable (g : Graph)

/-- Distinct keys split against themselves are all shared, in order. -/
theorem keySplit_keys_self (hn : g.links.keys.Nodup) :
    keySplit g.links.keys g.links.keys = ⟨[], [], g.links.keys⟩ := by
  rw [KeySplit.keySplit_self, eraseDups_eq_self hn]

theorem addedLinks_self (hn : g.links.keys.Nodup) : addedLinks g g = [] := by
  rw [addedLinks, keySplit_keys_self g hn]
  rfl

theorem removedLinks_self (hn : g.links.keys.Nodup) : removedLinks g g = [] := by
  rw [removedLinks, keySplit_keys_self g hn]
  rfl

/-- Each link of a table with distinct keys is shared with itself, with an empty delta. -/
theorem sharedLinks_self (hn : g.links.keys.Nodup) :
    sharedLinks g g = g.links.entries.map fun e => (e.1, ⟨[], [], e.2.requests.length⟩,
      { source := e.2.source, target := e.2.target, requests := e.2.requests,
        change := .changed }) := by
  rw [sharedLinks, keySplit_keys_self g hn]
  refine (LinkTable.filterMap_keys_get? hn fun k o => sharedEntry k o o).trans ?_
  simp [sharedEntry, RequestDelta.between, pairRecords_self _ Request.sameAs_self]

end Self

end Graph

/-- A snapshot with a reachable table, merged with itself, reports no change: every link is
kept in order and marked changed with an empty request delta, and every node is kept in order,
repeats included, with no mark. -/
theorem diff_self_reports_no_change (g : Graph) (h : g.links.Reachable) :
    (g.diff g).summary.isEmpty = true ∧
    (g.diff g).summary.linksUnmodified = g.linkCount ∧
    (g.diff g).summary.nodesUnmodified = g.nodeCount ∧
    (g.diff g).merged.links.entries = g.links.entries.map (fun e => (e.1,
      { source := e.2.source, target := e.2.target, requests := e.2.requests,
        change := .changed })) ∧
    (g.diff g).deltas = g.links.entries.map (fun e => (e.1, ⟨[], [], e.2.requests.length⟩)) ∧
    (g.diff g).merged.nodes = g.nodes.map ({ · with change := .unchanged }) := by
  have hn := h.keys_nodup
  have hK := Graph.keySplit_keys_self g hn
  have hP := pairRecords_self Node.sameAs Node.sameAs_self g.nodes
  have hd : (g.diff g).deltas =
      g.links.entries.map (fun e => (e.1, ⟨[], [], e.2.requests.length⟩)) := by
    rw [Graph.diff_deltas, Graph.sharedLinks_self g hn, List.map_map]
    rfl
  refine ⟨?_, ?_, ?_, ?_, hd, ?_⟩
  · -- no node, link or request is added or removed
    rw [Graph.diff_summary, hK, hP, hd]
    simp [DiffSummary.isEmpty, Function.comp_def]
  · rw [Graph.diff_summary, hK]
    simp [Graph.linkCount, LinkTable.size, LinkTable.keys]
  · rw [Graph.diff_summary, hP]
    rfl
  · rw [Graph.diff_links_entries, Graph.addedLinks_self g hn, Graph.removedLinks_self g hn,
      Graph.sharedLinks_self g hn, List.map_map]
    rfl
  · rw [Graph.diff_nodes, hP]
    simp

/-- A request from `X` to `Y`. -/
def fooRequest : Request :=
  { destinationUrl := "/foo", sourceMethod := "run", endpointFunction := "exchange",
    className := "Caller", destinationClassName := "Target", verb := some "GET",
    argument := .arr [], msReturn := "void" }

/-- A snapshot with a repeated node and a link carrying the same request twice. -/
def repeatedRecords : Graph :=
  { nodes :=
      [{ name := "X", path := "/x" }, { name := "X", path := "/x" }, { name := "Y", path := "/y" }]
    links := ({} : LinkTable).append "X" "Y" [fooRequest, fooRequest]
    commitId := "a1" }

theorem diff_self_repeated_records :
    repeatedRecords.links.Reachable ∧
    (repeatedRecords.diff repeatedRecords).summary.isEmpty = true ∧
    (repeatedRecords.diff repeatedRecords).summary.linksUnmodified = repeatedRecords.linkCount ∧
    (repeatedRecords.diff repeatedRecords).summary.nodesUnmodified = repeatedRecords.nodeCount ∧
    (repeatedRecords.diff repeatedRecords).merged.links.entries =
      repeatedRecords.links.entries.map (fun e => (e.1,
        { source := e.2.source, target := e.2.target, requests := e.2.requests,
          change := .changed })) ∧
    (repeatedRecords.diff repeatedRecords).deltas =
      repeatedRecords.links.entries.map (fun e => (e.1, ⟨[], [], e.2.requests.length⟩)) ∧
    (repeatedRecords.diff repeatedRecords).merged.nodes =
      repeatedRecords.nodes.map ({ · with change := .unchanged }) :=
  have hr : repeatedRecords.links.Reachable := by
    show (({} : LinkTable).append "X" "Y" [fooRequest, fooRequest]).Reachable
    rw [LinkTable.append_eq_update]
    exact .update _ _ _ .empty
  ⟨hr, diff_self_reports_no_change repeatedRecords hr⟩

end ServiceGraph
