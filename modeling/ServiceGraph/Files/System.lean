import ServiceGraph.Files.Tree

/-!
# What the program asks of a file system

`FileSystem m` is the handful of requests the program makes, in a monad `m`: what a path leads
to, the bytes of a file, making one directory, writing a file. A `FileTree` held in a state monad
answers them (`instance : FileSystem (StateM FileTree)`), so every command runs as a pure
function of the tree it starts from.

On top of them: `readText` reads a file that must be UTF-8 text, and `createDirAll` makes a
directory and any missing parents, succeeding when the directory is already there.
-/

namespace ServiceGraph

/-- The requests the program makes of a file system. -/
class FileSystem (m : Type → Type) where
  /-- What a path leads to. -/
  stat : String → m (Except FileError EntryKind)
  /-- The bytes of a file. -/
  readFile : String → m (Except FileError ByteArray)
  /-- Makes one directory. -/
  makeDir : String → m (Except FileError Unit)
  /-- Writes a file. -/
  writeFile : String → ByteArray → m (Except FileError Unit)

/-- A tree of files in a state monad answers the requests. -/
instance : FileSystem (StateM FileTree) where
  stat path := do return (← get).stat path
  readFile path := do return (← get).read path
  makeDir path := do
    match (← get).makeDir path with
    | .ok t => set t; return .ok ()
    | .error e => return .error e
  writeFile path bytes := do
    match (← get).write path bytes with
    | .ok t => set t; return .ok ()
    | .error e => return .error e

namespace FileSystem

variable {m : Type → Type} [Monad m] [FileSystem m]

/-- Whether a path leads to a directory. -/
def isDir (path : String) : m Bool := do
  return (← stat path) matches .ok .dir

/-- Whether a path leads to a file. -/
def isFile (path : String) : m Bool := do
  return (← stat path) matches .ok .file

/-- Whether a path leads anywhere. -/
def pathExists (path : String) : m Bool := do
  return (← stat path) matches .ok _

/-- The text of a file, which must be UTF-8. -/
def readText (path : String) : m (Except FileError String) := do
  match ← readFile path with
  | .error e => return .error e
  | .ok bytes =>
    match String.fromUTF8? bytes with
    | some text => return .ok text
    | none => return .error .notUtf8

/-- The path without its last name: `a/b` for `a/b/c`, the empty path for `a`, none for the
empty path and the root. -/
def parentPath (path : String) : Option String :=
  let chars := path.toList
  let trimmed := (chars.reverse.dropWhile (· = '/')).reverse
  if chars.isEmpty || trimmed.isEmpty then none
  else
    let upTo := (trimmed.reverse.dropWhile (· ≠ '/')).reverse
    if upTo.isEmpty then some ""
    else
      let parent := (upTo.reverse.dropWhile (· = '/')).reverse
      some (if parent.isEmpty then "/" else String.ofList parent)

/-- Makes a directory and its missing parents; `fuel` bounds the depth. -/
def makeDirs : Nat → String → m (Except FileError Unit)
  | 0, _ => return .ok ()
  | fuel + 1, path => do
    if path.isEmpty then return .ok ()
    match ← makeDir path with
    | .ok () => return .ok ()
    | .error e =>
      if e != .notFound then
        if ← isDir path then return .ok () else return .error e
      else
        match parentPath path with
        | none => return .error e
        | some parent =>
          match ← makeDirs fuel parent with
          | .error e => return .error e
          | .ok () =>
            match ← makeDir path with
            | .ok () => return .ok ()
            | .error e => if ← isDir path then return .ok () else return .error e

/-- Makes a directory and any missing parents; a directory already there is success. -/
def createDirAll (path : String) : m (Except FileError Unit) :=
  makeDirs (path.length + 1) path

end FileSystem

end ServiceGraph
