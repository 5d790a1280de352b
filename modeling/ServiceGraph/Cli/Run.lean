import ServiceGraph.Cli.Parse
import ServiceGraph.Cli.Config
import ServiceGraph.Ir.Load
import ServiceGraph.Graph.Build
import ServiceGraph.Graph.Wire
import ServiceGraph.Diff.Merge
import ServiceGraph.Report
import ServiceGraph.Topology

/-!
# Running the program

`execute` runs the program on its words over any `FileSystem`, and gives the exit status and what
was printed (`Outcome`):

- help and the version go to standard output with status 0, a usage error to standard error with
  status 2, and a failing command prints `error: ` and its reason to standard error with status 1;
- `init` writes the default configuration under a project directory unless one is there;
- the other commands first load the configuration (`Config.load`); the command line's node filter
  and output file win over the configuration's;
- `graph` and `diff` print their graph's JSON, or write it to the output file without a final line
  break and say so on standard error; `diff --summary` prints the change report instead and writes
  the JSON only when there is an output file;
- `stats` prints the statistics report, or with `--json` an object of the counts with its keys
  sorted at every level.
-/

namespace ServiceGraph.Cli

open Json

/-- What a run of the program leaves: its exit status and what it printed. -/
structure Outcome where
  status : Nat
  stdout : String
  stderr : String

namespace Outcome

/-- Nothing printed yet. -/
def empty : Outcome := ⟨0, "", ""⟩

/-- Prints on standard output. -/
def say (o : Outcome) (text : String) : Outcome := { o with stdout := o.stdout ++ text }

/-- Prints on standard error. -/
def note (o : Outcome) (text : String) : Outcome := { o with stderr := o.stderr ++ text }

/-- Ends the run with a command failure. -/
def fail (o : Outcome) (message : String) : Outcome :=
  { o.note ("error: " ++ message ++ "\n") with status := 1 }

end Outcome

/-- JSON text in the pretty or the compact layout. -/
def jsonText (pretty : Bool) (v : Value) : String := if pretty then v.pretty else v.compact

/-- The text of the default configuration file. -/
def defaultConfigText : String := Config.default.toValue.pretty

variable {m : Type → Type} [Monad m] [FileSystem m]

/-- Writes JSON text to the output file and says so, or prints it with a line break. -/
def writeJson (o : Outcome) (text : String) : Option String → m Outcome
  | some path => do
    match ← FileSystem.writeFile path text.toUTF8 with
    | .ok () => return o.note ("✓ Wrote " ++ path ++ "\n")
    | .error e => return o.fail e.message
  | none => return o.say (text ++ "\n")

/-- Loads a document and builds its graph. -/
def snapshot (filter : Option (List String)) (path : String) : m (Except LoadError (Graph × Tally)) := do
  match ← Document.load path with
  | .ok d => return .ok (Graph.build filter d)
  | .error e => return .error e

/-- `init`: writes the default configuration under a project directory. -/
def runInit (path : String) : m Outcome := do
  let configPath := projectConfig path
  if ← FileSystem.pathExists configPath then return Outcome.empty.say "✓ Already initialized\n"
  match ← FileSystem.createDirAll (joinPath path configDir) with
  | .error e => return Outcome.empty.fail e.message
  | .ok () =>
    match ← FileSystem.writeFile configPath defaultConfigText.toUTF8 with
    | .error e => return Outcome.empty.fail e.message
    | .ok () =>
      return Outcome.empty.say ("✓ Initialized msdelta in " ++ path ++
        "\n  Run msdelta diff <early.json> <later.json> to compare two commits\n")

/-- `graph`: the graph of one document. -/
def runGraph (config : Config) (input : String) (nodes : Option (List String))
    (output : Option String) : m Outcome := do
  match ← snapshot (nodes.orElse fun _ => config.nodes) input with
  | .error e => return Outcome.empty.fail e.message
  | .ok (g, _) =>
    writeJson Outcome.empty (jsonText config.pretty g.toValue) (output.orElse fun _ => config.output)

/-- `diff`: the merged graph of two documents, or the report of their changes. -/
def runDiff (config : Config) (early later : String) (nodes : Option (List String))
    (output : Option String) (summary : Bool) : m Outcome := do
  let filter := nodes.orElse fun _ => config.nodes
  let before ← snapshot filter early
  let after ← snapshot filter later
  match before, after with
  | .error e, _ => return Outcome.empty.fail e.message
  | _, .error e => return Outcome.empty.fail e.message
  | .ok (eg, _), .ok (lg, _) =>
    let d := Graph.diff eg lg
    let output := output.orElse fun _ => config.output
    let o := if summary then Outcome.empty.say (changeReport d eg.commitId ++ "\n") else Outcome.empty
    if summary && output.isNone then return o
    writeJson o (jsonText config.pretty d.merged.toValue) output

/-- The statistics of a graph as JSON, keys sorted at every level. -/
def statsValue (g : Graph) (t : Tally) (cycles : List (List String)) : Value :=
  Value.sortKeys (.obj [("commit", .str g.commitId), ("graph", g.size.toValue), ("build", t.toValue),
    ("cycles", .arr (cycles.map Value.ofStrings))])

/-- `stats`: the statistics of one document's graph, filtered by the configuration's nodes. -/
def runStats (config : Config) (input : String) (json : Bool) : m Outcome := do
  match ← snapshot config.nodes input with
  | .error e => return Outcome.empty.fail e.message
  | .ok (g, t) =>
    let cycles := (Topology.ofGraph g).cycles
    if json then return Outcome.empty.say ((statsValue g t cycles).pretty ++ "\n")
    else return Outcome.empty.say (statsReport g t cycles ++ "\n")

/-- Runs the program on its words; `userConfig` is the user's configuration file, if the
environment names one. -/
def execute (words : List String) (userConfig : Option String) : m Outcome := do
  match parse words with
  | .stop (.help page) => return Outcome.empty.say page
  | .stop .version => return Outcome.empty.say (programName ++ " " ++ programVersion ++ "\n")
  | .stop .bare => return { Outcome.empty.note rootHelp with status := 2 }
  | .stop (.usage text) => return { Outcome.empty.note text with status := 2 }
  | .run inv =>
    match inv.action with
    | .init path => runInit path
    | action => do
      match ← Config.load inv.config userConfig with
      | .error e => return Outcome.empty.fail e.message
      | .ok config =>
        match action with
        | .init path => runInit path
        | .graph input nodes output => runGraph config input nodes output
        | .diff early later nodes output summary => runDiff config early later nodes output summary
        | .stats input json => runStats config input json

end ServiceGraph.Cli
