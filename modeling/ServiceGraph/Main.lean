import ServiceGraph.Cli.Run

/-!
# The `msdelta` command

The program itself: the operating system's files answer the `FileSystem` requests, the user's
configuration file is found from the environment, and `execute` does the rest. A path's kind is
learned by opening it and reading one byte, which fails on a directory.
-/

namespace ServiceGraph.Cli

/-- An error number as the operating system gives it: some calls report it negated, as a 32-bit
pattern. -/
def errno (c : UInt32) : Nat :=
  if c.toNat ≥ Nat.pow 2 31 then Nat.pow 2 32 - c.toNat else c.toNat

/-- The operating system's error number of a failure, when it has one. -/
def osCode : IO.Error → Option Nat
  | .alreadyExists _ c _ | .otherError c _ | .resourceBusy c _ | .resourceVanished c _
  | .unsupportedOperation c _ | .hardwareFault c _ | .unsatisfiedConstraints c _
  | .illegalOperation c _ | .protocolError c _ | .timeExpired c _ | .interrupted _ c _
  | .noFileOrDirectory _ c _ | .invalidArgument _ c _ | .permissionDenied _ c _
  | .resourceExhausted _ c _ | .inappropriateType _ c _ | .noSuchThing _ c _ => some (errno c)
  | .unexpectedEof | .userError _ => none

/-- The description the operating system gives with a failure. -/
def osDetails : IO.Error → String
  | .alreadyExists _ _ d | .otherError _ d | .resourceBusy _ d | .resourceVanished _ d
  | .unsupportedOperation _ d | .hardwareFault _ d | .unsatisfiedConstraints _ d
  | .illegalOperation _ d | .protocolError _ d | .timeExpired _ d | .interrupted _ _ d
  | .noFileOrDirectory _ _ d | .invalidArgument _ _ d | .permissionDenied _ _ d
  | .resourceExhausted _ _ d | .inappropriateType _ _ d | .noSuchThing _ _ d => d
  | .unexpectedEof => "unexpected end of file"
  | .userError msg => msg

/-- A failure of the operating system as a file failure. -/
def fileErrorOf (e : IO.Error) : FileError :=
  match osCode e with
  | some 2 => .notFound
  | some 17 => .alreadyExists
  | some 20 => .notDirectory
  | some 21 => .isDirectory
  | some code => .other code (osDetails e)
  | none => .other 0 (toString e)

/-- Runs a file operation, keeping its failure. -/
def attempt {α : Type} (act : IO α) : IO (Except FileError α) := do
  try return .ok (← act) catch e => return .error (fileErrorOf e)

/-- The operating system's files. -/
instance : FileSystem IO where
  stat path := do
    match ← attempt (IO.FS.Handle.mk path .read) with
    | .error e => return .error e
    | .ok h =>
      match ← attempt (h.read 1) with
      | .ok _ => return .ok .file
      | .error .isDirectory => return .ok .dir
      | .error e => return .error e
  readFile path := attempt (IO.FS.readBinFile path)
  makeDir path := attempt (IO.FS.createDir path)
  writeFile path bytes := attempt (IO.FS.writeBinFile path bytes)

end ServiceGraph.Cli

open ServiceGraph.Cli in
/-- Runs `msdelta` on its arguments and exits with its status. -/
def main (args : List String) : IO UInt32 := do
  let user := userConfigPath (← IO.getEnv "XDG_CONFIG_HOME") (← IO.getEnv "HOME")
  let outcome ← (execute args user : IO Outcome)
  IO.print outcome.stdout
  IO.eprint outcome.stderr
  return outcome.status.toUInt32
