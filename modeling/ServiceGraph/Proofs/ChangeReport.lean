import Mathlib
import ServiceGraph.Report
import ServiceGraph.Proofs.Merge

/-!
# The change report — its items agree with the summary it heads

The change report of a merge trusts the summary for its shortcut: when the summary counts no
change it says so and lists nothing.  Otherwise it walks the merged graph: a line for each added
or removed node, a line for each added or removed link, and for each other link the lines of the
request delta under its key, when there is one.  The two agree because the merged graph is laid
out group by group (`ServiceGraph.Proofs.Merge`):

* `filter_diff_nodes`, `filter_diff_links`: the merged nodes and links with a given mark are
  exactly one group of the merge;
* `filterMap_nodeLine_diff`: so the node lines are the added nodes' lines, then the removed
  nodes';
* `flatMap_linkLines_diff`: every shared link finds its delta (`delta?_of_mem_sharedLinks`), so
  the link lines are the added links', the removed links', then the lines of every delta in
  order;
* `length_flatMap_deltaLines`: a delta gives a counts line when it is not identical, and a line
  per added and per removed request;
* `length_filter_diff`, `requests_diff_summary`: each group is as long as the summary counts, so
  the summary is empty exactly when there is no item (`summary_isEmpty_iff_changeItems_eq_nil`);
* `exists_delta?_of_changed`: no changed link lacks its delta.

**Report against summary** (`changeReport_agrees_with_diff`).  For every two snapshots, the
report of their merge says "No structural changes" exactly when it would list no item, which is
exactly when the summary is empty.  Its items are as many added and removed node lines as the
summary counts, then in merged order a line per added and per removed link, as many as the
summary counts, then the lines of the request deltas, whose keys are the changed links' keys in
merged order; no changed link lacks a delta, and the request lines number the summary's added
and removed requests.
-/

namespace ServiceGraph

/-- A summary is empty when each of its added and removed counts is zero. -/
theorem DiffSummary.isEmpty_iff (s : DiffSummary) :
    s.isEmpty = true ↔ s.nodesAdded = 0 ∧ s.nodesRemoved = 0 ∧ s.linksAdded = 0 ∧
      s.linksRemoved = 0 ∧ s.requestsAdded = 0 ∧ s.requestsRemoved = 0 := by
  simp [DiffSummary.isEmpty, and_assoc]

/-- A list of known length is empty exactly when that length is zero. -/
theorem eq_nil_iff_of_length {α : Type} {l : List α} {n : Nat} (h : l.length = n) :
    l = [] ↔ n = 0 := by
  rw [← List.length_eq_zero_iff, h]

/-! ### The lines of request deltas -/

theorem deltaLines_eq_nil_iff {key : String} {delta : RequestDelta} :
    deltaLines key delta = [] ↔ delta.added = [] ∧ delta.removed = [] := by
  by_cases h : delta.isIdentical
  · have h' : delta.added = [] ∧ delta.removed = [] := by simpa [RequestDelta.isIdentical] using h
    simp [deltaLines, h, h']
  · have h' : ¬ (delta.added = [] ∧ delta.removed = []) := by
      simpa [RequestDelta.isIdentical] using h
    simp [deltaLines, h, h']

theorem length_deltaLines (key : String) (delta : RequestDelta) :
    (deltaLines key delta).length =
      (if delta.isIdentical then 0 else 1) + delta.added.length + delta.removed.length := by
  by_cases h : delta.isIdentical
  · -- an identical delta adds and removes nothing
    have h' : delta.added = [] ∧ delta.removed = [] := by simpa [RequestDelta.isIdentical] using h
    simp [deltaLines, h, h']
  · simp [deltaLines, h]
    omega

/-- The lines of a list of deltas: a counts line for each delta that is not identical, and a
line for each added and each removed request. -/
theorem length_flatMap_deltaLines (ds : List (String × RequestDelta)) :
    (ds.flatMap fun e => deltaLines e.1 e.2).length =
      (ds.filter fun e => !e.2.isIdentical).length + (ds.map (·.2.added.length)).sum +
        (ds.map (·.2.removed.length)).sum := by
  induction ds with
  | nil => rfl
  | cons e ds ih =>
    rw [List.flatMap_cons, List.length_append, ih, length_deltaLines, List.filter_cons]
    cases e.2.isIdentical <;> simp <;> omega

theorem flatMap_deltaLines_eq_nil_iff (ds : List (String × RequestDelta)) :
    (ds.flatMap fun e => deltaLines e.1 e.2) = [] ↔
      (ds.map (·.2.added.length)).sum = 0 ∧ (ds.map (·.2.removed.length)).sum = 0 := by
  rw [List.flatMap_eq_nil_iff, List.sum_eq_zero_iff, List.sum_eq_zero_iff]
  simp only [deltaLines_eq_nil_iff, List.mem_map, forall_exists_index, and_imp,
    forall_apply_eq_imp_iff₂, List.length_eq_zero_iff, forall_and]

/-! ### The merged graph, group by group -/

/-- Records all marked `c` are kept whole by a filter for `c` and dropped by any other. -/
theorem filter_mark {α : Type} (mark : α → Change) (c : Change) {xs : List α}
    (h : ∀ x ∈ xs, mark x = c) (c' : Change) :
    xs.filter (fun x => mark x == c') = if c = c' then xs else [] := by
  by_cases hc : c = c'
  · subst hc
    rw [if_pos rfl, List.filter_eq_self]
    intro x hx
    simp [h x hx]
  · rw [if_neg hc, List.filter_eq_nil_iff]
    intro x hx
    simp [h x hx, hc]

namespace Graph

section Report

variable (early later : Graph)

/-- The merged nodes under a mark are one group of the node pairing. -/
theorem filter_diff_nodes (c : Change) :
    (early.diff later).merged.nodes.filter (·.change == c) =
      (if Change.added = c then
        (pairRecords Node.sameAs early.nodes later.nodes).additions.map
          ({ · with change := .added }) else []) ++
      (if Change.removed = c then
        (pairRecords Node.sameAs early.nodes later.nodes).subtractions.map
          ({ · with change := .removed }) else []) ++
      (if Change.unchanged = c then
        (pairRecords Node.sameAs early.nodes later.nodes).unmodified.map
          ({ · with change := .unchanged }) else []) := by
  rw [diff_nodes, List.filter_append, List.filter_append, filter_mark Node.change .added (by simp),
    filter_mark Node.change .removed (by simp), filter_mark Node.change .unchanged (by simp)]

/-- The node lines of a merge: the added nodes' lines, then the removed nodes'. -/
theorem filterMap_nodeLine_diff :
    (early.diff later).merged.nodes.filterMap nodeLine? =
      ((early.diff later).merged.nodes.filter (·.change == .added)).map
          (fun n => "  + " ++ n.name) ++
        ((early.diff later).merged.nodes.filter (·.change == .removed)).map
          (fun n => "  - " ++ n.name) := by
  rw [filter_diff_nodes, filter_diff_nodes, diff_nodes]
  simp [List.filterMap_append, List.filterMap_map, Function.comp_def, nodeLine?]

/-- The merged links under a mark are one group of the merge. -/
theorem filter_diff_links (c : Change) :
    (early.diff later).merged.links.entries.filter (·.2.change == c) =
      (if Change.added = c then addedLinks early later else []) ++
      (if Change.removed = c then removedLinks early later else []) ++
      (if Change.changed = c then (sharedLinks early later).map fun s => (s.1, s.2.2) else []) := by
  have hs : ∀ e ∈ (sharedLinks early later).map (fun s => (s.1, s.2.2)),
      e.2.change = .changed := by
    intro e he
    obtain ⟨s, hs, rfl⟩ := List.mem_map.1 he
    exact change_of_mem_sharedLinks early later hs
  rw [diff_links_entries, List.filter_append, List.filter_append,
    filter_mark (fun e : String × Link => e.2.change) .added
      (fun e he => change_of_mem_addedLinks early later he),
    filter_mark (fun e : String × Link => e.2.change) .removed
      (fun e he => change_of_mem_removedLinks early later he),
    filter_mark (fun e : String × Link => e.2.change) .changed hs]

/-- A shared link's delta is found under its key. -/
theorem delta?_of_mem_sharedLinks {s : String × RequestDelta × Link}
    (hs : s ∈ sharedLinks early later) : (early.diff later).delta? s.1 = some s.2.1 := by
  obtain ⟨k, hk, hks⟩ := List.mem_filterMap.1 hs
  obtain ⟨b, a, hb, ha, hd⟩ := delta?_diff_of_mem_unmodified early later hk
  rw [hb, ha] at hks
  simp only [sharedEntry, Option.some.injEq] at hks
  subst hks
  exact hd

/-- The link lines of a merge: a line for each added link and for each removed link, then the
lines of each shared key's delta, in the order of the deltas. -/
theorem flatMap_linkLines_diff :
    (early.diff later).merged.links.entries.flatMap
        (fun e => linkLines (early.diff later) e.1 e.2) =
      (addedLinks early later).map (fun e => linkLine "+" e.1 e.2) ++
        (removedLinks early later).map (fun e => linkLine "-" e.1 e.2) ++
        (early.diff later).deltas.flatMap (fun e => deltaLines e.1 e.2) := by
  rw [diff_links_entries, List.flatMap_append, List.flatMap_append]
  congr 1
  · congr 1
    · rw [List.map_eq_flatMap]
      refine List.flatMap_congr fun e he => ?_
      simp [linkLines, change_of_mem_addedLinks early later he]
    · rw [List.map_eq_flatMap]
      refine List.flatMap_congr fun e he => ?_
      simp [linkLines, change_of_mem_removedLinks early later he]
  · -- a shared link is marked changed, and its delta is found under its key
    rw [diff_deltas, List.flatMap_map, List.flatMap_map]
    refine List.flatMap_congr fun s hs => ?_
    simp [linkLines, change_of_mem_sharedLinks early later hs,
      delta?_of_mem_sharedLinks early later hs]

/-- The items of a merge's report, group by group. -/
theorem changeItems_diff :
    changeItems (early.diff later) =
      ((early.diff later).merged.nodes.filter (·.change == .added)).map
          (fun n => "  + " ++ n.name) ++
        ((early.diff later).merged.nodes.filter (·.change == .removed)).map
          (fun n => "  - " ++ n.name) ++
        ((early.diff later).merged.links.entries.filter (·.2.change == .added)).map
          (fun e => linkLine "+" e.1 e.2) ++
        ((early.diff later).merged.links.entries.filter (·.2.change == .removed)).map
          (fun e => linkLine "-" e.1 e.2) ++
        (early.diff later).deltas.flatMap (fun e => deltaLines e.1 e.2) := by
  rw [changeItems, filterMap_nodeLine_diff, flatMap_linkLines_diff, filter_diff_links,
    filter_diff_links]
  simp

/-! ### The items against the summary -/

/-- The summary's node and link counts are the sizes of the marked groups the report lists. -/
theorem length_filter_diff :
    ((early.diff later).merged.nodes.filter (·.change == .added)).length =
        (early.diff later).summary.nodesAdded ∧
      ((early.diff later).merged.nodes.filter (·.change == .removed)).length =
        (early.diff later).summary.nodesRemoved ∧
      ((early.diff later).merged.links.entries.filter (·.2.change == .added)).length =
        (early.diff later).summary.linksAdded ∧
      ((early.diff later).merged.links.entries.filter (·.2.change == .removed)).length =
        (early.diff later).summary.linksRemoved := by
  obtain ⟨hna, hnr, -⟩ := diff_summary_nodes early later
  refine ⟨?_, ?_, ?_, ?_⟩
  · rw [← List.countP_eq_length_filter, hna]
  · rw [← List.countP_eq_length_filter, hnr]
  · rw [filter_diff_links]
    simp [← map_fst_addedLinks early later, diff_summary]
  · rw [filter_diff_links]
    simp [← map_fst_removedLinks early later, diff_summary]

/-- The summary's request counts are the added and removed requests of the deltas. -/
theorem requests_diff_summary :
    (early.diff later).summary.requestsAdded =
        ((early.diff later).deltas.map (·.2.added.length)).sum ∧
      (early.diff later).summary.requestsRemoved =
        ((early.diff later).deltas.map (·.2.removed.length)).sum := by
  rw [diff_summary]
  exact ⟨rfl, rfl⟩

/-- The summary of a merge is empty exactly when its report lists no item. -/
theorem summary_isEmpty_iff_changeItems_eq_nil :
    (early.diff later).summary.isEmpty = true ↔ changeItems (early.diff later) = [] := by
  obtain ⟨hna, hnr, hla, hlr⟩ := length_filter_diff early later
  obtain ⟨hra, hrr⟩ := requests_diff_summary early later
  -- the items are empty exactly when each group is, and each group counts one figure
  rw [changeItems_diff, DiffSummary.isEmpty_iff]
  simp only [List.append_eq_nil_iff, List.map_eq_nil_iff, flatMap_deltaLines_eq_nil_iff,
    eq_nil_iff_of_length hna, eq_nil_iff_of_length hnr, eq_nil_iff_of_length hla,
    eq_nil_iff_of_length hlr, hra, hrr, and_assoc]

/-- Every changed link of a merge has a request delta under its key. -/
theorem exists_delta?_of_changed {e : String × Link}
    (he : e ∈ (early.diff later).merged.links.entries) (hc : e.2.change = .changed) :
    ∃ delta, (early.diff later).delta? e.1 = some delta := by
  rw [diff_links_entries] at he
  rcases List.mem_append.1 he with he | he
  · -- an added or removed link is not changed
    rcases List.mem_append.1 he with he | he
    · simp [change_of_mem_addedLinks early later he] at hc
    · simp [change_of_mem_removedLinks early later he] at hc
  · obtain ⟨s, hs, rfl⟩ := List.mem_map.1 he
    exact ⟨_, delta?_of_mem_sharedLinks early later hs⟩

end Report

end Graph

/-- The change report of two snapshots' merge says there is no change exactly when it would list
no item, which is exactly when the summary is empty.  Its items are the added and then the
removed nodes' lines, as many as the summary counts; then a line for each added and each removed
link in merged order, as many as the summary counts; then the lines of the request deltas, kept
under the changed links' keys in merged order.  No changed link lacks its delta, and the delta
lines are a counts line per delta that is not identical and a line per added and removed
request, as the summary counts them. -/
theorem changeReport_agrees_with_diff (early later : Graph) (earlyCommit : String) :
    let d := early.diff later
    changeLines d earlyCommit = changeHead d earlyCommit ++
      (if changeItems d = [] then ["", "No structural changes"] else "" :: changeItems d) ∧
    (d.summary.isEmpty = true ↔ changeItems d = []) ∧
    changeItems d =
      (d.merged.nodes.filter (·.change == .added)).map (fun n => "  + " ++ n.name) ++
      (d.merged.nodes.filter (·.change == .removed)).map (fun n => "  - " ++ n.name) ++
      (d.merged.links.entries.filter (·.2.change == .added)).map
        (fun e => linkLine "+" e.1 e.2) ++
      (d.merged.links.entries.filter (·.2.change == .removed)).map
        (fun e => linkLine "-" e.1 e.2) ++
      d.deltas.flatMap (fun e => deltaLines e.1 e.2) ∧
    (d.merged.nodes.filter (·.change == .added)).length = d.summary.nodesAdded ∧
    (d.merged.nodes.filter (·.change == .removed)).length = d.summary.nodesRemoved ∧
    (d.merged.links.entries.filter (·.2.change == .added)).length = d.summary.linksAdded ∧
    (d.merged.links.entries.filter (·.2.change == .removed)).length = d.summary.linksRemoved ∧
    d.deltas.map (·.1) = (d.merged.links.entries.filter (·.2.change == .changed)).map (·.1) ∧
    (∀ e ∈ d.merged.links.entries, e.2.change = .changed → ∃ delta, d.delta? e.1 = some delta) ∧
    (d.deltas.flatMap fun e => deltaLines e.1 e.2).length =
      (d.deltas.filter fun e => !e.2.isIdentical).length + d.summary.requestsAdded +
        d.summary.requestsRemoved := by
  dsimp only
  obtain ⟨hna, hnr, hla, hlr⟩ := Graph.length_filter_diff early later
  obtain ⟨hra, hrr⟩ := Graph.requests_diff_summary early later
  have hempty := Graph.summary_isEmpty_iff_changeItems_eq_nil early later
  refine ⟨?_, hempty, Graph.changeItems_diff early later, hna, hnr, hla, hlr, ?_,
    fun e he hc => Graph.exists_delta?_of_changed early later he hc, ?_⟩
  · -- the shortcut is taken exactly when there are no items
    unfold changeLines
    by_cases h : changeItems (early.diff later) = []
    · simp [hempty.2 h, h]
    · simp [mt hempty.1 h, h]
  · rw [Graph.filter_diff_links, Graph.diff_deltas]
    simp
  · rw [length_flatMap_deltaLines, hra, hrr]

end ServiceGraph
