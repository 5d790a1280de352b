import ServiceGraph.Binary64.Round
import ServiceGraph.Binary64.Shortest
import ServiceGraph.Json.Value
import ServiceGraph.Json.Number
import ServiceGraph.Json.Error
import ServiceGraph.Json.Reader
import ServiceGraph.Json.Writer
import ServiceGraph.Json.Decode
import ServiceGraph.Files.Error
import ServiceGraph.Ir.Basic
import ServiceGraph.Ir.Error
import ServiceGraph.Ir.Decode
import ServiceGraph.Ir.Encode
import ServiceGraph.RouteIndex
import ServiceGraph.Graph.Basic
import ServiceGraph.LinkTable
import ServiceGraph.LinkTable.Indexed
import ServiceGraph.Graph.Snapshot
import ServiceGraph.Graph.Build
import ServiceGraph.Graph.Wire
import ServiceGraph.DiGraph
import ServiceGraph.Topology
import ServiceGraph.Diff.KeySplit
import ServiceGraph.Diff.Pairing
import ServiceGraph.Diff.Merge
import ServiceGraph.Report
import ServiceGraph.Diff.Wire
import ServiceGraph.Files.Tree
import ServiceGraph.Files.System
import ServiceGraph.Ir.Load
import ServiceGraph.Cli.Spec
import ServiceGraph.Cli.Similar
import ServiceGraph.Cli.Parse
import ServiceGraph.Json.Hidden
import ServiceGraph.Json.Typed
import ServiceGraph.Cli.Config
import ServiceGraph.Cli.Run
import ServiceGraph.Main
import ServiceGraph.Proofs.LinkTable
import ServiceGraph.Proofs.KeySplit
import ServiceGraph.Proofs.Build
import ServiceGraph.Proofs.Pairing
import ServiceGraph.Proofs.Merge
import ServiceGraph.Proofs.PairingByKey
import ServiceGraph.Proofs.MergeSwap
import ServiceGraph.Proofs.DocumentRoundTrip
import ServiceGraph.Proofs.Matching
import ServiceGraph.Proofs.RouteTable
import ServiceGraph.Proofs.Tally
import ServiceGraph.Proofs.ShapeCheck
import ServiceGraph.Proofs.ChangeReport
import ServiceGraph.Proofs.LinkIndex
import ServiceGraph.Proofs.Components
import ServiceGraph.Proofs.Topology
import ServiceGraph.Proofs.Cycles
