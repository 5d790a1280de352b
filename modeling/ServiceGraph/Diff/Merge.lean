import ServiceGraph.Diff.KeySplit
import ServiceGraph.Diff.Pairing
import ServiceGraph.Graph.Snapshot

/-!
# Merging two snapshots

`Graph.diff early later` merges two snapshots into one graph that carries both, with the later
commit. Links are compared by key (`keySplit` of the two tables' keys): a key only in the later
table brings the later link, marked added; a key only in the earlier one brings the earlier link,
marked removed; a key in both brings the later link's source, target and requests, always marked
changed, and the pairing of the two request lists is kept as that key's `RequestDelta`. The
merged table holds the added keys, then the removed, then the shared ones.

Nodes are paired by `Node.sameAs`: the merged nodes are the added (later) nodes, then the
removed (earlier) nodes, then the later partner of each kept node, with no mark.
-/

namespace ServiceGraph

/-- The request-level change of a link present in both snapshots. -/
structure RequestDelta where
  added : List Request
  removed : List Request
  unmodified : Nat

/-- Whether both snapshots carry the same requests on the link. -/
def RequestDelta.isIdentical (d : RequestDelta) : Bool := d.added.isEmpty && d.removed.isEmpty

/-- Counts of what changed, by level. -/
structure DiffSummary where
  nodesAdded : Nat := 0
  nodesRemoved : Nat := 0
  nodesUnmodified : Nat := 0
  linksAdded : Nat := 0
  linksRemoved : Nat := 0
  linksUnmodified : Nat := 0
  requestsAdded : Nat := 0
  requestsRemoved : Nat := 0
  deriving DecidableEq

/-- True when no node, link or request was added or removed. -/
def DiffSummary.isEmpty (s : DiffSummary) : Bool :=
  s.nodesAdded == 0 && s.nodesRemoved == 0 && s.linksAdded == 0 && s.linksRemoved == 0 &&
    s.requestsAdded == 0 && s.requestsRemoved == 0

/-- The merged graph and what was learnt while merging. -/
structure GraphDiff where
  merged : Graph
  /-- The request delta of each key present in both snapshots, in the order of those keys. -/
  deltas : List (String × RequestDelta)
  summary : DiffSummary

/-- The request delta of a shared key. -/
def GraphDiff.delta? (d : GraphDiff) (key : String) : Option RequestDelta :=
  (d.deltas.find? (·.1 == key)).map (·.2)

/-- The request delta between two links. -/
def RequestDelta.between (before after : Link) : RequestDelta :=
  let s := pairRecords Request.sameAs before.requests after.requests
  ⟨s.additions, s.subtractions, s.unmodified.length⟩

/-- Merges an earlier and a later snapshot. -/
def Graph.diff (early later : Graph) : GraphDiff :=
  let split := keySplit early.links.keys later.links.keys
  let added := split.additions.filterMap fun k =>
    (later.links.get? k).map fun l => (k, { l with change := .added })
  let removed := split.subtractions.filterMap fun k =>
    (early.links.get? k).map fun l => (k, { l with change := .removed })
  let shared := split.unmodified.filterMap fun k =>
    match early.links.get? k, later.links.get? k with
    | some b, some a => some (k, RequestDelta.between b a,
        ({ source := a.source, target := a.target, requests := a.requests, change := .changed } : Link))
    | _, _ => none
  let links := (added ++ removed ++ shared.map fun s => (s.1, s.2.2)).foldl
    (fun t e => t.insert e.1 e.2) ({} : LinkTable)
  let deltas := shared.map fun s => (s.1, s.2.1)
  let nodes := pairRecords Node.sameAs early.nodes later.nodes
  { merged :=
      { nodes := nodes.additions.map ({ · with change := .added }) ++
          nodes.subtractions.map ({ · with change := .removed }) ++
          nodes.unmodified.map ({ · with change := .unchanged })
        links
        commitId := later.commitId }
    deltas
    summary :=
      { nodesAdded := nodes.additions.length
        nodesRemoved := nodes.subtractions.length
        nodesUnmodified := nodes.unmodified.length
        linksAdded := split.additions.length
        linksRemoved := split.subtractions.length
        linksUnmodified := split.unmodified.length
        requestsAdded := (deltas.map (·.2.added.length)).foldr (· + ·) 0
        requestsRemoved := (deltas.map (·.2.removed.length)).foldr (· + ·) 0 } }

end ServiceGraph
