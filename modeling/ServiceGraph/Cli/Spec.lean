/-!
# The command line: its grammar and its help

The program `msdelta` takes global options, then one command with its own options and
positional arguments. This module describes them (`Opt`, `Positional`, `Command`, `program`)
and writes what is derived from the description alone: the help page of the program and of each
command (`helpPage`, `rootHelp`) and the usage lines.

A help page lists the options sorted by their display order and then by a key that puts each
short flag before its capital (`-v`, then `-V`) and long-only options by name; the help and
version flags come last. Each section aligns its descriptions on its own widest entry.
-/

namespace ServiceGraph.Cli

/-- An option of a command. -/
structure Opt where
  /-- The name the parsed value is kept under. -/
  id : String
  short : Option Char
  long : String
  /-- The placeholder of the value, for an option that takes one. -/
  value : Option String
  help : String
  /-- Values are split at commas, and the option may be given again to add more. -/
  list : Bool
  /-- Its value may be empty; a path may not. -/
  acceptsEmpty : Bool
  /-- Where it sits in help pages, before the key that breaks ties. -/
  order : Nat

/-- A positional argument of a command. -/
structure Positional where
  id : String
  /-- The placeholder shown for it. -/
  name : String
  help : String
  required : Bool
  /-- The value it takes when absent. -/
  default : Option String
  /-- It takes every remaining word. -/
  many : Bool

/-- A command: its name, what it does, its own options and its positional arguments. -/
structure Command where
  name : String
  about : String
  options : List Opt
  positionals : List Positional
  /-- It takes the global options and `--help`; only `help` itself does not. -/
  flags : Bool

/-- The program's name. -/
def programName : String := "msdelta"

/-- The program's version. -/
def programVersion : String := "0.3.0"

/-- What the program does. -/
def programAbout : String := "Microservice dependency graphs and their changes across commits"

/-- `-v`, `--verbose`. -/
def verboseOpt : Opt :=
  ⟨"verbose", some 'v', "verbose", none, "Enable verbose output", false, false, 0⟩

/-- `--config`. -/
def configOpt : Opt :=
  ⟨"config", none, "config", some "CONFIG", "Configuration file (defaults to .msdelta/config.json)",
    false, false, 1⟩

/-- `-h`, `--help`. -/
def helpOpt : Opt := ⟨"help", some 'h', "help", none, "Print help", false, false, 999⟩

/-- `-V`, `--version`, on the program only. -/
def versionOpt : Opt := ⟨"version", some 'V', "version", none, "Print version", false, false, 999⟩

/-- Options every command accepts. -/
def globalOpts : List Opt := [verboseOpt, configOpt]

/-- `-n`, `--nodes`. -/
def nodesOpt : Opt :=
  ⟨"nodes", some 'n', "nodes", some "NODES", "Only emit these microservices as nodes (comma separated)",
    true, true, 0⟩

/-- `init`. -/
def initCommand : Command :=
  { name := "init", about := "Write a default configuration file", options := [], flags := true
    positionals :=
      [⟨"path", "PATH", "Project directory (defaults to current directory)", false, some ".", false⟩] }

/-- `graph`. -/
def graphCommand : Command :=
  { name := "graph", about := "Build the service graph of one IR document"
    options := [nodesOpt, ⟨"output", some 'o', "output", some "OUTPUT",
      "Output file for the graph JSON (defaults to stdout)", false, false, 1⟩]
    positionals := [⟨"input", "INPUT", "IR document (JSON)", true, none, false⟩], flags := true }

/-- `diff`. -/
def diffCommand : Command :=
  { name := "diff", about := "Diff the service graphs of two IR documents"
    options := [nodesOpt, ⟨"output", some 'o', "output", some "OUTPUT",
      "Output file for the merged graph JSON (defaults to stdout)", false, false, 1⟩,
      ⟨"summary", none, "summary", none,
        "Print a readable change report instead of JSON on stdout (an output file still receives the JSON)",
        false, false, 2⟩]
    positionals := [⟨"early", "EARLY", "IR document of the earlier commit", true, none, false⟩,
      ⟨"later", "LATER", "IR document of the later commit", true, none, false⟩], flags := true }

/-- `stats`. -/
def statsCommand : Command :=
  { name := "stats", about := "Show graph statistics for one IR document"
    options := [⟨"json", none, "json", none, "Output as JSON instead of formatted text", false, false, 0⟩]
    positionals := [⟨"input", "INPUT", "IR document (JSON)", true, none, false⟩], flags := true }

/-- `help`, which prints the help of the program or of a command. -/
def helpCommand : Command :=
  { name := "help", about := "Print this message or the help of the given subcommand(s)"
    options := [], flags := false
    positionals := [⟨"subcommand", "COMMAND", "Print help for the subcommand(s)", false, none, true⟩] }

/-- The commands, in the order help lists them. -/
def commands : List Command := [initCommand, graphCommand, diffCommand, statsCommand]

/-- Every command name, `help` included. -/
def commandNames : List String := commands.map (·.name) ++ ["help"]

/-- The options a command accepts: its own, the global ones, and help. -/
def Command.allOptions (c : Command) : List Opt :=
  if c.flags then c.options ++ globalOpts ++ [helpOpt] else c.options

/-- The options of the program itself. -/
def rootOptions : List Opt := globalOpts ++ [helpOpt, versionOpt]

/-- How an option is named in messages: its long name and value placeholder. -/
def Opt.display (o : Opt) : String :=
  "--" ++ o.long ++ (o.value.map (" <" ++ · ++ ">")).getD ""

/-- How a positional argument is shown: `<NAME>` when required, `[NAME]` otherwise, and `...`
after one that takes every remaining word. -/
def Positional.display (p : Positional) (required : Bool) : String :=
  (if required then "<" ++ p.name ++ ">" else "[" ++ p.name ++ "]") ++ if p.many then "..." else ""

/-- The key that orders options within one display order. -/
def Opt.sortKey (o : Opt) : String :=
  match o.short with
  | some c => String.ofList [c.toLower, if c.isLower then '0' else '1']
  | none => o.long

/-- Options in help order. -/
def sortOptions (os : List Opt) : List Opt :=
  os.mergeSort fun a b => a.order < b.order || (a.order == b.order && decide (a.sortKey ≤ b.sortKey))

/-- The left column of an option's help line. -/
def Opt.spec (o : Opt) : String :=
  let name := match o.short with
    | some c => "-" ++ String.singleton c ++ ", --" ++ o.long
    | none => "    --" ++ o.long
  name ++ (o.value.map (" <" ++ · ++ ">")).getD ""

/-- `n` spaces. -/
def spaces (n : Nat) : String := String.ofList (List.replicate n ' ')

/-- Two-column lines, the first column padded to its widest entry. -/
def columns (rows : List (String × String)) : List String :=
  let width := (rows.map (·.1.length)).foldl max 0
  rows.map fun r => "  " ++ r.1 ++ spaces (width - r.1.length) ++ "  " ++ r.2

/-- The usage line of a command with nothing given: all its options as `[OPTIONS]`. -/
def Command.fullUsage (c : Command) : String :=
  " ".intercalate ([programName, c.name] ++ (if c.allOptions.isEmpty then [] else ["[OPTIONS]"]) ++
    c.positionals.map fun p => p.display p.required)

/-- The usage line of the program. -/
def rootUsage : String := programName ++ " [OPTIONS] <COMMAND>"

/-- The options section of a help page. -/
def optionsSection (os : List Opt) : List String :=
  "Options:" :: columns ((sortOptions os).map fun o => (o.spec, o.help))

/-- The help page of a command. -/
def helpPage (c : Command) : String :=
  let args := c.positionals.map fun p =>
    (p.display p.required, p.help ++ match p.default with
      | some d => " [default: " ++ d ++ "]"
      | none => "")
  let opts := c.allOptions
  let lines := [c.about, "", "Usage: " ++ c.fullUsage, "", "Arguments:"] ++ columns args ++
    if opts.isEmpty then [] else [""] ++ optionsSection opts
  "\n".intercalate lines ++ "\n"

/-- The help page of the program. -/
def rootHelp : String :=
  let cmds := (commands ++ [helpCommand]).map fun c => (c.name, c.about)
  let lines := [programAbout, "", "Usage: " ++ rootUsage, "", "Commands:"] ++
    columns cmds ++ [""] ++ optionsSection rootOptions
  "\n".intercalate lines ++ "\n"

end ServiceGraph.Cli
