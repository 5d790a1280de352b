import ServiceGraph.Cli.Spec
import ServiceGraph.Cli.Similar

/-!
# Reading the command line

`parse` reads the words after the program's name. Words are read one at a time, at the program's
level until a command's name is met and then at that command's level:

- `--` makes every later word positional;
- `--name` or `--name=value` is a long option, `-abc` a cluster of short ones, where an option that
  takes a value takes the rest of the cluster (after an optional `=`) or else the next word;
- a word is the value of an option that waits for one, even when it names a command; else, at the
  program's level, it names a command, and at a command's level it is the next positional argument.

An option or positional argument takes effect (`settle`) only when the next option or positional
argument is met or the words end, so a value-taking option followed by another option, or by
nothing, reports its missing value then, and an empty path (every positional argument and every
option but `--nodes` is a path) is reported then too. `--help`, `-h` and `--version` stop reading
at once, once the pending argument has taken effect.

A mistake ends reading with the text of a usage error (`errorText`), which names what went wrong,
may add tips such as a similar option's name, and shows a usage line: the full one, or one naming
the arguments given and every positional argument (`Level.usage`). The arguments of a level form a
group (a command's own arguments, or the program's global options), and some errors name the group,
which the usage line then writes as `<a|b|c>` in place of its members.
-/

namespace ServiceGraph.Cli

/-- The text of a usage error: the message, its tips, a usage line, and, when the command has a
help flag, where to find help. -/
def errorText (message : String) (tips : List String) (usage : Option String)
    (helpHint : Bool) : String :=
  "error: " ++ message ++
    (if tips.isEmpty then "" else "\n\n" ++ "\n".intercalate (tips.map ("  tip: " ++ ·))) ++
    (match usage with
      | some u => "\n\nUsage: " ++ u
      | none => "") ++
    (if helpHint then "\n\nFor more information, try '--help'." else "") ++ "\n"

/-- The text of a usage error of a level with a help flag. -/
def usageError (message : String) (tips : List String) (usage : Option String) : String :=
  errorText message tips usage true

/-- Where words are read: the program itself, or one of its commands. -/
inductive Level where
  | root
  | command (c : Command)

/-- The options accepted at a level. -/
def Level.options : Level → List Opt
  | .root => rootOptions
  | .command c => c.allOptions

/-- The positional arguments of a level. -/
def Level.positionals : Level → List Positional
  | .root => []
  | .command c => c.positionals

/-- The usage line with nothing given. -/
def Level.fullUsage : Level → String
  | .root => rootUsage
  | .command c => c.fullUsage

/-- The name a level's group goes by among argument names. -/
def groupId : String := "(group)"

/-- The members of a level's group: a command's positional arguments and own options, or the
program's global options. -/
def Level.groupMembers : Level → List String
  | .root => globalOpts.map (·.id)
  | .command c => c.positionals.map (·.id) ++ c.options.map (·.id)

/-- How a level's group is written in a usage line. -/
def Level.groupDisplay (l : Level) : String :=
  let member (id : String) : String :=
    match l.positionals.find? (·.id == id), l.options.find? (·.id == id) with
    | some p, _ => p.name
    | none, some o => o.display
    | none, none => id
  "<" ++ "|".intercalate (l.groupMembers.map member) ++ ">"

/-- The usage line naming what was given (`used`, which may name the level's group) and every
positional argument, those required or given as `<NAME>` and the others as `[NAME]`. -/
def Level.usage (l : Level) (used : List String) : String :=
  if used.isEmpty then l.fullUsage
  else
    let members := if used.contains groupId then l.groupMembers else []
    let opts := ((used.eraseDups.filter fun id => !members.contains id).filterMap fun id =>
      l.options.find? (·.id == id)).map (·.display)
    let groups := if members.isEmpty then [] else [l.groupDisplay]
    let pos := (l.positionals.filter fun p => !members.contains p.id).map fun p =>
      p.display (p.required || used.contains p.id)
    let words := opts ++ groups ++ pos
    match l with
    | .root => programName ++ String.join (words.map (" " ++ ·)) ++ " <COMMAND>"
    | .command c => programName ++ " " ++ c.name ++ String.join (words.map (" " ++ ·))

/-- An argument that has not taken effect yet. -/
inductive Pending where
  /-- An option, with its value once the next word gave it. -/
  | opt (o : Opt) (values : List String)
  /-- A positional argument with its value. -/
  | pos (p : Positional) (value : String)

/-- What the words given at one level amount to so far. -/
structure Reading where
  /-- Options that took effect, with their values, in the order they first did. -/
  given : List (Opt × List String)
  /-- The positional arguments that took effect, in order. -/
  positionals : List String
  /-- The names of the arguments in the order they first took effect. -/
  order : List String
  pending : Option Pending
  /-- `--` was given. -/
  trailing : Bool

/-- Nothing read yet. -/
def Reading.empty : Reading := ⟨[], [], [], none, false⟩

/-- The values given for an option. -/
def Reading.values? (r : Reading) (id : String) : Option (List String) :=
  (r.given.find? (·.1.id == id)).map (·.2)

/-- Whether a flag was given. -/
def Reading.has (r : Reading) (id : String) : Bool := (r.values? id).isSome

/-- Whether an option waits for its value in the next word. -/
def Reading.awaiting (r : Reading) : Bool :=
  match r.pending with
  | some (.opt o []) => o.value.isSome
  | _ => false

/-- How many positional arguments were met, the pending one included. -/
def Reading.positionalCount (r : Reading) : Nat :=
  r.positionals.length + match r.pending with
    | some (.pos _ _) => 1
    | _ => 0

/-- The names of the arguments given, with the level's group after its first member. -/
def Reading.usedWithGroup (l : Level) (r : Reading) : List String :=
  match r.order.findIdx? l.groupMembers.contains with
  | some i => r.order.take (i + 1) ++ [groupId] ++ r.order.drop (i + 1)
  | none => r.order

/-- Why reading stopped early. -/
inductive Stop where
  /-- Help was asked for: this page, on standard output. -/
  | help (page : String)
  | version
  /-- Nothing was given: the program's help page, as an error. -/
  | bare
  /-- A usage error, with its text. -/
  | usage (text : String)

/-- The help page of a level. -/
def Level.help : Level → String
  | .root => rootHelp
  | .command c => helpPage c

/-- The error for an argument given no value, or an empty one where a path is due. -/
def noValue (display : String) : Stop :=
  .usage (usageError ("a value is required for '" ++ display ++ "' but none was supplied") [] none)

/-- Records an argument's name the first time it takes effect. -/
def Reading.note (r : Reading) (id : String) : Reading :=
  if r.order.contains id then r else { r with order := r.order ++ [id] }

/-- An option takes effect with its values, the previous argument having taken effect already. -/
def effect (l : Level) (r : Reading) (o : Opt) (values : List String) : Except Stop Reading :=
  if o.id == "help" then .error (.help l.help)
  else if o.id == "version" then .error .version
  else if o.value.isSome && values.isEmpty then .error (noValue o.display)
  else
    let values := if o.list then values.flatMap (·.splitOn ",") else values
    if r.has o.id && !o.list then
      .error (.usage (usageError ("the argument '" ++ o.display ++ "' cannot be used multiple times")
        [] (some l.fullUsage)))
    else if !o.acceptsEmpty && values.contains "" then .error (noValue o.display)
    else if r.has o.id then
      .ok { r with given := r.given.map fun g => if g.1.id == o.id then (g.1, g.2 ++ values) else g }
    else .ok { (r.note o.id) with given := r.given ++ [(o, values)] }

/-- The pending argument takes effect. -/
def settle (l : Level) (r : Reading) : Except Stop Reading :=
  match r.pending with
  | none => .ok r
  | some (.opt o values) => effect l { r with pending := none } o values
  | some (.pos p value) =>
    if value.isEmpty then .error (noValue (p.display p.required))
    else .ok { (r.note p.id) with pending := none, positionals := r.positionals ++ [value] }

/-- The pending argument takes effect if it can, before an error is reported. When it cannot, an
argument with an empty path is still counted as given, and a repeated option is dropped. -/
def settleQuietly (l : Level) (r : Reading) : Reading :=
  match settle l r with
  | .ok r => r
  | .error _ =>
    let r' := { r with pending := none }
    match r.pending with
    | some (.opt o values) =>
      if o.value.isSome && values.isEmpty then r'
      else if r.has o.id then
        { r' with given := r.given.filter (·.1.id != o.id), order := r.order.filter (· != o.id) }
      else r'.note o.id
    | some (.pos p _) => r'.note p.id
    | none => r'

/-- An option is met: the pending argument takes effect, then this option. -/
def react (l : Level) (r : Reading) (o : Opt) (values : List String) : Except Stop Reading := do
  let r ← settle l r
  effect l r o values

/-- An option is met that waits for its value in the next word. -/
def await (l : Level) (r : Reading) (o : Opt) : Except Stop Reading := do
  let r ← settle l r
  pure { r with pending := some (.opt o []) }

/-- A tip that a word could be passed as a value after `--`. -/
def asValueTip (word : String) : String :=
  "to pass '" ++ word ++ "' as a value, use '-- " ++ word ++ "'"

/-- A long option that names nothing, with the words after it. -/
def unknownLong (l : Level) (r : Reading) (name : String) (rest : List String) : Stop :=
  let r := settleQuietly l r
  let word := "--" ++ name
  let message := "unexpected argument '" ++ word ++ "' found"
  match closestName name (l.options.map (·.long)) with
  | some near =>
    let r := match l.options.find? (·.long == near) with
      | some o => r.note o.id
      | none => r
    .usage (usageError message ["a similar argument exists: '--" ++ near ++ "'"]
      (some (l.usage r.order)))
  | none =>
    let elsewhere : List (Nat × String × String) := match l with
      | .root => commands.filterMap fun c =>
        match rest.idxOf? c.name, closestName name (c.allOptions.map (·.long)) with
        | some i, some near => some (i, c.name, near)
        | _, _ => none
      | .command _ => []
    let first := elsewhere.foldl (fun best x => match best with
      | some b => if x.1 < b.1 then some x else some b
      | none => some x) none
    match first with
    | some (_, cmd, near) =>
      .usage (usageError message ["'" ++ cmd ++ " --" ++ near ++ "' exists"] (some (l.usage r.order)))
    | none =>
      let tips := if l.positionals.isEmpty then [] else [asValueTip word]
      .usage (usageError message tips (some (l.usage r.order)))

/-- A short option that names nothing. -/
def unknownShort (l : Level) (c : Char) : Stop :=
  let word := "-" ++ String.singleton c
  let tips := if l.positionals.isEmpty then [] else [asValueTip word]
  .usage (usageError ("unexpected argument '" ++ word ++ "' found") tips (some l.fullUsage))

/-- A flag given with a value after `=`; the usage line names what had taken effect, with the
group, and the flag. -/
def valueForFlag (l : Level) (r : Reading) (o : Opt) (value : String) : Stop :=
  .usage (usageError ("unexpected value '" ++ value ++ "' for '" ++ o.display ++
    "' found; no more were expected") [] (some (l.usage (r.usedWithGroup l ++ [o.id]))))

/-- A word at the program's level that names no command. -/
def unknownCommand (word : String) : Stop :=
  let message := "unrecognized subcommand '" ++ word ++ "'"
  match similarNames word commandNames with
  | [] => .usage (usageError message [] (some rootUsage))
  | [near] => .usage (usageError message ["a similar subcommand exists: '" ++ near ++ "'"] (some rootUsage))
  | nears => .usage (usageError message
      ["some similar subcommands exist: " ++ ", ".intercalate (nears.map fun n => "'" ++ n ++ "'")]
      (some rootUsage))

/-- A long option, written without its dashes, with the words after it. -/
def readLong (l : Level) (r : Reading) (body : String) (rest : List String) : Except Stop Reading :=
  let (name, value) := match body.splitOn "=" with
    | n :: v :: vs => (n, some ("=".intercalate (v :: vs)))
    | _ => (body, none)
  match l.options.find? (·.long == name) with
  | none => .error (unknownLong l r name rest)
  | some o =>
    match o.value, value with
    | none, some v => .error (valueForFlag l r o v)
    | none, none => react l r o []
    | some _, some v => react l r o [v]
    | some _, none => await l r o

/-- A cluster of short options, written without its dash. -/
def readShorts (l : Level) : Reading → List Char → Except Stop Reading
  | r, [] => .ok r
  | r, c :: cs =>
    match l.options.find? (·.short == some c) with
    | none => .error (unknownShort l c)
    | some o =>
      if o.value.isNone then do
        let r ← react l r o []
        readShorts l r cs
      else if cs.isEmpty then await l r o
      else
        let attached := String.ofList cs
        react l r o [if attached.startsWith "=" then attached.drop 1 |>.toString else attached]

/-- A positional word. -/
def readPositional (l : Level) (r : Reading) (word : String) : Except Stop Reading :=
  match l with
  | .root =>
    if r.trailing && commandNames.contains word then
      .error (.usage (usageError ("unexpected argument '" ++ word ++ "' found")
        ["subcommand '" ++ word ++ "' exists; to use it, remove the '--' before it"] (some rootUsage)))
    else .error (unknownCommand word)
  | .command c =>
    match c.positionals[r.positionalCount]? with
    | some p => do
      let r ← settle l r
      pure { r with pending := some (.pos p word) }
    | none =>
      .error (.usage (usageError ("unexpected argument '" ++ word ++ "' found") [] (some c.fullUsage)))

/-- One word, with the words after it. -/
def readWord (l : Level) (r : Reading) (word : String) (rest : List String) : Except Stop Reading :=
  if r.trailing then readPositional l r word
  else if word == "--" then .ok { r with trailing := true }
  else if word.startsWith "--" then readLong l r (word.drop 2).toString rest
  else if word.startsWith "-" && word.length > 1 then readShorts l r (word.drop 1).toString.toList
  else
    match r.pending with
    | some (.opt o []) => if o.value.isSome then .ok { r with pending := some (.opt o [word]) }
      else readPositional l r word
    | _ => readPositional l r word

/-- The help page named by the words after `help`. -/
def helpFor (words : List String) : Stop :=
  let rec go : Option Command → List String → Stop
    | none, [] => .help rootHelp
    | some c, [] => .help (helpPage c)
    | none, w :: ws =>
      match (commands ++ [helpCommand]).find? (·.name == w) with
      | some c => go (some c) ws
      | none => .usage (usageError ("unrecognized subcommand '" ++ w ++ "'") [] (some rootUsage))
    | some c, w :: _ =>
      .usage (errorText ("unrecognized subcommand '" ++ w ++ "'") [] (some c.fullUsage) c.flags)
  go none words

/-- Reads the words of a command to their end. -/
def readCommand (c : Command) : Reading → List String → Except Stop Reading
  | r, [] => do
    let r ← settle (.command c) r
    let missing := c.positionals.drop r.positionals.length |>.filter (·.required)
    if missing.isEmpty then pure r
    else
      throw (.usage (usageError ("the following required arguments were not provided:" ++
        String.join (missing.map fun p => "\n  " ++ p.display true)) []
        (some ((Level.command c).usage (r.order ++ missing.map (·.id))))))
  | r, w :: ws => do
    let r ← readWord (.command c) r w ws
    readCommand c r ws

/-- Reads the program's words until a command's name, then that command's words. -/
def readRoot : Reading → List String → Except Stop (Reading × Command × Reading)
  | r, [] => do
    let r ← settle .root r
    if r.given.isEmpty then throw .bare
    else
      throw (.usage (usageError ("'" ++ programName ++
        "' requires a subcommand but one was not provided\n  [subcommands: " ++
        ", ".intercalate commandNames ++ "]") [] (some rootUsage)))
  | r, w :: ws =>
    let asCommand := !r.trailing && !r.awaiting
    if asCommand && w == "help" then throw (helpFor ws)
    else
      match (if asCommand then commands.find? (·.name == w) else none) with
      | some c => do
        let sub ← readCommand c Reading.empty ws
        let r ← settle .root r
        pure (r, c, sub)
      | none => do
        let r ← readWord .root r w ws
        readRoot r ws

/-- What a command is asked to do. -/
inductive Action where
  /-- Write a default configuration under a project directory. -/
  | init (path : String)
  /-- Build the graph of one document. -/
  | graph (input : String) (nodes : Option (List String)) (output : Option String)
  /-- Compare the graphs of two documents. -/
  | diff (early later : String) (nodes : Option (List String)) (output : Option String)
      (summary : Bool)
  /-- Count the graph of one document. -/
  | stats (input : String) (json : Bool)

/-- A command line that asks for work. -/
structure Invocation where
  verbose : Bool
  /-- A configuration file named on the command line. -/
  config : Option String
  action : Action

/-- What the command line asks for. -/
inductive Parsed where
  | run (inv : Invocation)
  | stop (s : Stop)

/-- The single value of an option. -/
def Reading.value? (r : Reading) (id : String) : Option String :=
  (r.values? id).bind (·.head?)

/-- The action of a command that was read. -/
def Command.action (c : Command) (r : Reading) : Action :=
  let pos (i : Nat) : String :=
    (r.positionals[i]?).getD ((c.positionals[i]?.bind (·.default)).getD "")
  if c.name == "init" then .init (pos 0)
  else if c.name == "diff" then
    .diff (pos 0) (pos 1) (r.values? "nodes") (r.value? "output") (r.has "summary")
  else if c.name == "stats" then .stats (pos 0) (r.has "json")
  else .graph (pos 0) (r.values? "nodes") (r.value? "output")

/-- Reads the words after the program's name. -/
def parse (words : List String) : Parsed :=
  match readRoot Reading.empty words with
  | .error s => .stop s
  | .ok (root, c, sub) =>
    .run { verbose := root.has "verbose" || sub.has "verbose"
           config := (sub.value? "config").orElse fun _ => root.value? "config"
           action := c.action sub }

end ServiceGraph.Cli
