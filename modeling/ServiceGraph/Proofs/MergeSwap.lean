import ServiceGraph.Proofs.Merge
import ServiceGraph.Proofs.PairingByKey

/-!
# Merging the other way — added and removed change places

Merging `later` into `early` instead of `early` into `later` exchanges what was added and what
was removed, at every level, and keeps what is shared.

* Links: the split of the two key lists, taken the other way, swaps its added and removed keys
  and keeps the shared ones up to order (`KeySplit.perm_unmodified_swap`).  So a merged key is
  a key of either side whichever way the merge goes (`mem_diff_links_keys`), and its mark is the
  one of its membership (`map_change_get?_diff`): added when only the later side holds it,
  removed when only the earlier one does, changed when both do.
* Nodes and requests: records are paired as their match keys (`pairsByKey_byKey`), so what is
  added one way is as much as what is removed the other way: both are the same difference of
  key multisets.  Per shared link the added requests one way are as many as the removed ones the
  other way (`length_added_between_swap`), and the shared links are the same up to order, so the
  totals agree.

**Swap law** (`diff_swap_exchanges_added_and_removed`).  For every two snapshots, the summary of
the merge the other way is the summary with added and removed exchanged at every level; the
merged link keys are the same, each marked added one way exactly when it is marked removed the
other way; and the request deltas are kept under the same keys.
-/

namespace ServiceGraph

/-- The mark an item gets from the merge the other way. -/
def Change.swap : Change → Change
  | .added => .removed
  | .removed => .added
  | c => c

/-- The counts of the merge the other way: added and removed exchanged at each level. -/
def DiffSummary.swap (s : DiffSummary) : DiffSummary :=
  { s with
    nodesAdded := s.nodesRemoved, nodesRemoved := s.nodesAdded
    linksAdded := s.linksRemoved, linksRemoved := s.linksAdded
    requestsAdded := s.requestsRemoved, requestsRemoved := s.requestsAdded }

/-- The requests added to a link one way are as many as those removed the other way. -/
theorem RequestDelta.length_added_between_swap (b a : Link) :
    (RequestDelta.between b a).added.length = (RequestDelta.between a b).removed.length := by
  simp only [RequestDelta.between, Request.sameAs_eq_byKey]
  exact (pairsByKey_byKey _).length_additions_swap _ _

namespace Graph

section Swap

variable (early later : Graph)

/-! ### Links -/

theorem mem_diff_links_keys (k : String) :
    k ∈ (early.diff later).merged.links.keys ↔ k ∈ early.links.keys ∨ k ∈ later.links.keys := by
  rw [diff_links_keys]
  exact KeySplit.mem_groups _ _ k

/-- The mark of a merged key follows from which sides hold it. -/
theorem map_change_get?_diff (k : String) :
    ((early.diff later).merged.links.get? k).map (·.change) =
      if k ∈ early.links.keys then (if k ∈ later.links.keys then some .changed else some .removed)
      else if k ∈ later.links.keys then some .added else none := by
  by_cases he : k ∈ early.links.keys <;> by_cases hl : k ∈ later.links.keys
  · -- shared: the later link, marked changed
    obtain ⟨a, ha⟩ := exists_get?_of_mem_keys hl
    rw [get?_diff_of_mem_unmodified early later ((KeySplit.mem_unmodified _ _ k).2 ⟨he, hl⟩)]
    simp [he, hl, ha]
  · -- only earlier: the earlier link, marked removed
    obtain ⟨b, hb⟩ := exists_get?_of_mem_keys he
    rw [get?_diff_of_mem_subtractions early later ((KeySplit.mem_subtractions _ _ k).2 ⟨he, hl⟩)]
    simp [he, hl, hb]
  · -- only later: the later link, marked added
    obtain ⟨a, ha⟩ := exists_get?_of_mem_keys hl
    rw [get?_diff_of_mem_additions early later ((KeySplit.mem_additions _ _ k).2 ⟨hl, he⟩)]
    simp [he, hl, ha]
  · -- neither: not merged at all
    have hk : k ∉ (early.diff later).merged.links.keys := by
      rw [mem_diff_links_keys]
      tauto
    simp [he, hl, (LinkTable.get?_eq_none_iff _ k).2 hk]

theorem perm_diff_links_keys_swap :
    (later.diff early).merged.links.keys.Perm (early.diff later).merged.links.keys := by
  refine (List.perm_ext_iff_of_nodup (nodup_diff_links_keys _ _)
    (nodup_diff_links_keys _ _)).2 fun k => ?_
  rw [mem_diff_links_keys, mem_diff_links_keys, or_comm]

theorem map_change_get?_diff_swap (k : String) :
    ((later.diff early).merged.links.get? k).map (·.change) =
      ((early.diff later).merged.links.get? k).map (·.change.swap) := by
  rw [show (fun l : Link => l.change.swap) = Change.swap ∘ (·.change) from rfl,
    ← Option.map_map, map_change_get?_diff, map_change_get?_diff]
  by_cases he : k ∈ early.links.keys <;> by_cases hl : k ∈ later.links.keys <;>
    simp [he, hl, Change.swap]

/-! ### Request deltas -/

theorem perm_deltas_keys_swap :
    ((later.diff early).deltas.map (·.1)).Perm ((early.diff later).deltas.map (·.1)) := by
  rw [deltas_keys, deltas_keys]
  exact KeySplit.perm_unmodified_swap _ _

/-- What a shared key adds one way it removes the other way. -/
theorem map_sharedEntry_swap (k : String) (o o' : Option Link) :
    (sharedEntry k o o').map (·.2.1.added.length) =
      (sharedEntry k o' o).map (·.2.1.removed.length) := by
  cases o <;> cases o' <;> simp [sharedEntry, RequestDelta.length_added_between_swap]

/-- The requests added over the shared links one way are as many as those removed the other
way. -/
theorem sum_added_diff_swap :
    ((early.diff later).deltas.map (·.2.added.length)).sum =
      ((later.diff early).deltas.map (·.2.removed.length)).sum := by
  refine List.Perm.sum_eq ?_
  -- both sums run over the shared keys, in the two sides' orders
  simp only [diff_deltas, sharedLinks, List.map_filterMap, Option.map_map, Function.comp_def]
  rw [List.filterMap_congr fun k _ => map_sharedEntry_swap k _ _]
  exact ((KeySplit.perm_unmodified_swap _ _).filterMap _).symm

/-- The summary of the merge the other way exchanges added and removed at every level. -/
theorem diff_summary_swap : (later.diff early).summary = (early.diff later).summary.swap := by
  have hn := pairsByKey_byKey Node.matchKey
  rw [diff_summary later early, diff_summary early later]
  simp only [DiffSummary.swap, DiffSummary.mk.injEq, Node.sameAs_eq_byKey]
  exact ⟨hn.length_additions_swap _ _, (hn.length_additions_swap _ _).symm,
    hn.length_unmodified_swap _ _, rfl, rfl, (KeySplit.perm_unmodified_swap _ _).length_eq,
    sum_added_diff_swap later early, (sum_added_diff_swap early later).symm⟩

end Swap

end Graph

/-- Merging two snapshots the other way exchanges added and removed: the summary's added and
removed counts change places at every level and the unmodified counts stay; the merged link keys
are the same, a key marked added one way is marked removed the other way (and a changed key
stays changed); and the request deltas are kept under the same keys. -/
theorem diff_swap_exchanges_added_and_removed (early later : Graph) :
    (later.diff early).summary = (early.diff later).summary.swap ∧
    (later.diff early).merged.links.keys.Perm (early.diff later).merged.links.keys ∧
    (∀ k, ((later.diff early).merged.links.get? k).map (·.change) =
      ((early.diff later).merged.links.get? k).map (·.change.swap)) ∧
    ((later.diff early).deltas.map (·.1)).Perm ((early.diff later).deltas.map (·.1)) :=
  ⟨Graph.diff_summary_swap early later, Graph.perm_diff_links_keys_swap early later,
    Graph.map_change_get?_diff_swap early later, Graph.perm_deltas_keys_swap early later⟩

end ServiceGraph
