import ServiceGraph.Diff.Merge
import ServiceGraph.Graph.Build

/-!
# Readable reports

Two plain-text reports, lines joined by line feeds with none at the end. A commit without an id is
shown as `(no commit)`.

`statsReport` describes one snapshot: its commit, how many services, links and requests it has,
what became of its calls, and its dependency cycles. `changeReport` describes a merge: the two
commits, the counts of the summary and, when anything was added or removed, one line per added
or removed node, one per added or removed link with its request count, and for a shared link whose
requests changed one line with the counts followed by a line per added and per removed request.
-/

namespace ServiceGraph

/-- A commit id as shown in reports. -/
def showCommit (commit : String) : String := if commit.isEmpty then "(no commit)" else commit

/-- The statistics report of a snapshot. -/
def statsReport (g : Graph) (t : Tally) (cycles : List (List String)) : String :=
  let head := [
    "Graph " ++ showCommit g.commitId,
    "",
    "  Services: " ++ toString g.nodeCount,
    "  Links:    " ++ toString g.linkCount,
    "  Requests: " ++ toString t.requests,
    "  Calls:    " ++ toString t.callsSeen ++ " seen, " ++ toString t.callsWithoutUrl ++
      " local, " ++ toString t.unresolvedCalls ++ " unresolved, " ++ toString t.selfLoops ++
      " self calls"]
  let tail :=
    if cycles.isEmpty then ["  Cycles:   none"]
    else ("  Cycles:   " ++ toString cycles.length) ::
      cycles.map fun c => "    • " ++ " ⇄ ".intercalate c
  "\n".intercalate (head ++ tail)

/-- The line of one added or removed request. -/
def requestLine (mark : String) (r : Request) : String :=
  "      " ++ mark ++ " " ++ r.verb.getD "?" ++ " " ++ r.destinationUrl

/-- The line of an added or removed node; an unmarked node has none. -/
def nodeLine? (n : Node) : Option String :=
  match n.change with
  | .added => some ("  + " ++ n.name)
  | .removed => some ("  - " ++ n.name)
  | _ => none

/-- The line of an added or removed link, with its request count. -/
def linkLine (mark key : String) (l : Link) : String :=
  "  " ++ mark ++ " " ++ key ++ " (" ++ toString l.requests.length ++ " requests)"

/-- The lines of a shared link's request delta: none when its requests are the same, otherwise
one line with the counts followed by a line per added and per removed request. -/
def deltaLines (key : String) (delta : RequestDelta) : List String :=
  if delta.isIdentical then []
  else ("  ~ " ++ key ++ " (+" ++ toString delta.added.length ++ " -" ++
      toString delta.removed.length ++ " requests)") ::
    (delta.added.map (requestLine "+") ++ delta.removed.map (requestLine "-"))

/-- The lines of one merged link. -/
def linkLines (d : GraphDiff) (key : String) (l : Link) : List String :=
  match l.change with
  | .added => [linkLine "+" key l]
  | .removed => [linkLine "-" key l]
  | _ =>
    match d.delta? key with
    | none => []
    | some delta => deltaLines key delta

/-- The head of a change report: the two commits and the counts of the summary. -/
def changeHead (d : GraphDiff) (earlyCommit : String) : List String :=
  let s := d.summary
  [ "Changes " ++ showCommit earlyCommit ++ " → " ++ showCommit d.merged.commitId,
    "  Nodes:    +" ++ toString s.nodesAdded ++ " -" ++ toString s.nodesRemoved ++ " (" ++
      toString s.nodesUnmodified ++ " unchanged)",
    "  Links:    +" ++ toString s.linksAdded ++ " -" ++ toString s.linksRemoved ++ " (" ++
      toString s.linksUnmodified ++ " in both)",
    "  Requests: +" ++ toString s.requestsAdded ++ " -" ++ toString s.requestsRemoved]

/-- The items of a change report: the added and removed nodes, then the lines of each link, in
the merged graph's order. -/
def changeItems (d : GraphDiff) : List String :=
  d.merged.nodes.filterMap nodeLine? ++ d.merged.links.entries.flatMap fun e => linkLines d e.1 e.2

/-- The lines of the change report of a merge: the head, a blank line, and the items, or a line
saying there are none when the summary counts no change. -/
def changeLines (d : GraphDiff) (earlyCommit : String) : List String :=
  if d.summary.isEmpty then changeHead d earlyCommit ++ ["", "No structural changes"]
  else changeHead d earlyCommit ++ [""] ++ changeItems d

/-- The change report of a merge, given the earlier commit. -/
def changeReport (d : GraphDiff) (earlyCommit : String) : String :=
  "\n".intercalate (changeLines d earlyCommit)

end ServiceGraph
