import ServiceGraph.Json.Typed
import ServiceGraph.Json.Writer
import ServiceGraph.Files.System

/-!
# The configuration file

A configuration sets the default node filter, output file and JSON layout of the commands. It is
a JSON object with the optional fields `version`, `nodes`, `output` and `pretty` (unknown fields
are ignored), or an array of those fields in that order, read field by field (`Config.ofText`).

The file is looked for in order (`Config.load`): the file named by `--config`, which must exist;
`./.msdelta/config.json` in the working directory, if it is a file; the user's configuration file,
if it is a file; and otherwise the defaults are used.
-/

namespace ServiceGraph.Cli

open Json

/-- The settings a configuration file gives. -/
structure Config where
  version : String
  /-- Only these microservices become nodes; none means all of them. -/
  nodes : Option (List String)
  /-- Where graph JSON is written when no output is given on the command line. -/
  output : Option String
  /-- Whether JSON is written in the pretty layout. -/
  pretty : Bool

/-- The settings used when no file gives any. -/
def Config.default : Config := ⟨"1.0", none, none, true⟩

/-- How a configuration is read from text. -/
def Config.record : TextRecord Config where
  name := "Config"
  fields := ["version", "nodes", "output", "pretty"]
  empty := Config.default
  readField
    | 0, c => do return { c with version := ← Scan.readString "a string" }
    | 1, c => do return { c with nodes := ← Scan.readOption (Scan.readList (Scan.readString "a string")) }
    | 2, c => do return { c with output := ← Scan.readOption (Scan.readString "path string") }
    | _, c => do return { c with pretty := ← Scan.readBool }

/-- Reads a configuration from the text of its file. -/
def Config.ofText (text : String) : Except Json.Error Config := Config.record.readText text

/-- A configuration as JSON, fields in their order. -/
def Config.toValue (c : Config) : Value :=
  .obj [("version", .str c.version), ("nodes", (c.nodes.map Value.ofStrings).getD .null),
    ("output", Value.ofOption c.output), ("pretty", .bool c.pretty)]

/-- Why no configuration could be had. -/
inductive ConfigError where
  | unreadable (path : String) (cause : FileError)
  | invalid (path : String) (e : Json.Error)

/-- The sentence for a configuration failure. -/
def ConfigError.message : ConfigError → String
  | .unreadable path cause => "failed to read config " ++ path ++ ": " ++ cause.message
  | .invalid path e => "invalid config " ++ path ++ ": " ++ e.message

/-- A name under a directory: `dir/name`, or `name` under the empty path. -/
def joinPath (dir name : String) : String :=
  if dir.isEmpty then name else if dir.endsWith "/" then dir ++ name else dir ++ "/" ++ name

/-- The directory of a project's configuration. -/
def configDir : String := ".msdelta"

/-- The configuration file of a project directory. -/
def projectConfig (root : String) : String := joinPath (joinPath root configDir) "config.json"

/-- The user's configuration file, from the environment: under `XDG_CONFIG_HOME` when it is an
absolute path, else under `HOME/.config` when `HOME` is set and not empty. -/
def userConfigPath (xdgConfigHome home : Option String) : Option String :=
  let base := match xdgConfigHome with
    | some dir => if dir.startsWith "/" then some dir else none
    | none => none
  let base := base.orElse fun _ =>
    home.bind fun h => if h.isEmpty then none else some (joinPath h ".config")
  base.map fun dir => joinPath (joinPath dir "msdelta") "config.json"

variable {m : Type → Type} [Monad m] [FileSystem m]

/-- Reads a configuration file. -/
def Config.fromFile (path : String) : m (Except ConfigError Config) := do
  match ← FileSystem.readText path with
  | .error e => return .error (.unreadable path e)
  | .ok text =>
    match Config.ofText text with
    | .ok c => return .ok c
    | .error e => return .error (.invalid path e)

/-- Reads the first of the files that exists as a file, or gives the defaults. -/
def Config.firstOf : List String → m (Except ConfigError Config)
  | [] => return .ok Config.default
  | path :: rest => do
    if ← FileSystem.isFile path then Config.fromFile path else Config.firstOf rest

/-- The configuration in force: the file named on the command line, else the project's file,
else the user's file `userConfig`, else the defaults. -/
def Config.load (explicit : Option String) (userConfig : Option String) :
    m (Except ConfigError Config) :=
  match explicit with
  | some path => Config.fromFile path
  | none => Config.firstOf (projectConfig "." :: userConfig.toList)

end ServiceGraph.Cli
