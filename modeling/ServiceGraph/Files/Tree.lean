import ServiceGraph.Files.Error

/-!
# A tree of files

A `FileTree` is a directory tree held as a value: each path (a list of names under the root)
maps to a file with its bytes or to a directory, and the root is always a directory. It answers
the questions a program asks a file system with the failures a POSIX system gives.

A written path is followed name by name from the root (`FileTree.follow`), as the kernel does:
empty names (from repeated slashes) are skipped, `.` stays and `..` goes up (the root's parent is
the root), and each name on the way must be an existing directory: a missing one fails with
`notFound` and a file with `notDirectory`, even when a later `..` would step back out of it. The
last name may be missing, which writing and making a directory need. A path written with a
trailing `/` must lead to a directory. The empty path names nothing.

- reading a directory fails with `isDirectory`;
- making a directory fails when something already stands there (`alreadyExists`);
- writing a file replaces its bytes, and fails on a directory or on a path with a trailing `/`.
-/

namespace ServiceGraph

/-- What stands at a path. -/
inductive Entry where
  | file (bytes : ByteArray)
  | dir

/-- The kind of what stands at a path. -/
inductive EntryKind where
  | file
  | dir
  deriving DecidableEq

/-- A written path split into its names. -/
structure Path where
  /-- The names in order, `.` and `..` included, empty names left out. -/
  names : List String
  /-- Written with a trailing `/`. -/
  dirOnly : Bool
  /-- The empty path. -/
  empty : Bool

/-- Splits a written path. -/
def Path.parse (s : String) : Path :=
  ⟨(s.splitOn "/").filter (· ≠ ""), s.endsWith "/", s.isEmpty⟩

/-- Where a path leads when every directory on the way exists. -/
inductive Target where
  /-- An entry of this kind at these names from the root. -/
  | found (place : List String) (kind : EntryKind)
  /-- Nothing, under this name in this existing directory. -/
  | absent (dir : List String) (name : String)

/-- A directory tree with files. -/
structure FileTree where
  entries : List (List String × Entry) := []

namespace FileTree

/-- What stands at a list of names; the root is a directory. -/
def lookup (t : FileTree) (parts : List String) : Option Entry :=
  if parts.isEmpty then some .dir
  else (t.entries.find? (·.1 == parts)).map (·.2)

/-- Follows names from the directory `cur`. -/
def follow (t : FileTree) : List String → List String → Except FileError Target
  | cur, [] => .ok (.found cur .dir)
  | cur, name :: rest =>
    if name = "." then t.follow cur rest
    else if name = ".." then t.follow cur.dropLast rest
    else
      let next := cur ++ [name]
      match t.lookup next with
      | some .dir => t.follow next rest
      | some (.file _) => if rest.isEmpty then .ok (.found next .file) else .error .notDirectory
      | none => if rest.isEmpty then .ok (.absent cur name) else .error .notFound

/-- Where a written path leads. -/
def resolve (t : FileTree) (p : Path) : Except FileError Target :=
  if p.empty then .error .notFound else t.follow [] p.names

/-- The kind of what a path leads to, or why it leads nowhere. -/
def stat (t : FileTree) (path : String) : Except FileError EntryKind :=
  let p := Path.parse path
  match t.resolve p with
  | .error e => .error e
  | .ok (.absent _ _) => .error .notFound
  | .ok (.found _ .dir) => .ok .dir
  | .ok (.found _ .file) => if p.dirOnly then .error .notDirectory else .ok .file

/-- Sets the entry at a list of names, in place or last. -/
def set (t : FileTree) (parts : List String) (e : Entry) : FileTree :=
  if t.entries.any (·.1 == parts) then
    ⟨t.entries.map fun x => if x.1 == parts then (parts, e) else x⟩
  else ⟨t.entries ++ [(parts, e)]⟩

/-- The bytes of a file. -/
def read (t : FileTree) (path : String) : Except FileError ByteArray :=
  let p := Path.parse path
  match t.resolve p with
  | .error e => .error e
  | .ok (.absent _ _) => .error .notFound
  | .ok (.found _ .dir) => .error .isDirectory
  | .ok (.found place .file) =>
    if p.dirOnly then .error .notDirectory
    else
      match t.lookup place with
      | some (.file bytes) => .ok bytes
      | _ => .error .notFound

/-- Makes one directory, whose parent must exist. -/
def makeDir (t : FileTree) (path : String) : Except FileError FileTree :=
  match t.resolve (Path.parse path) with
  | .error e => .error e
  | .ok (.found _ _) => .error .alreadyExists
  | .ok (.absent dir name) => .ok (t.set (dir ++ [name]) .dir)

/-- Writes a file, whose directory must exist, replacing what it held. A path with a trailing `/`
cannot be created as a file. -/
def write (t : FileTree) (path : String) (bytes : ByteArray) : Except FileError FileTree :=
  let p := Path.parse path
  match t.resolve p with
  | .error e => .error e
  | .ok (.found _ .dir) => .error .isDirectory
  | .ok (.found place .file) =>
    if p.dirOnly then .error .isDirectory else .ok (t.set place (.file bytes))
  | .ok (.absent dir name) =>
    if p.dirOnly then .error .isDirectory else .ok (t.set (dir ++ [name]) (.file bytes))

/-- Puts an entry at a list of names, making the directories above it. -/
def place (t : FileTree) (parts : List String) (e : Entry) : FileTree :=
  let dirs := (List.range parts.length).filterMap fun i =>
    if i = 0 then none else some (parts.take i)
  let t := dirs.foldl (fun t d => if (t.lookup d).isSome then t else t.set d .dir) t
  t.set parts e

/-- The files of the tree, as `/`-joined paths with their bytes. -/
def files (t : FileTree) : List (String × ByteArray) :=
  t.entries.filterMap fun
    | (parts, .file bytes) => some ("/".intercalate parts, bytes)
    | (_, .dir) => none

/-- The files of `after` that are new or whose bytes differ from those in `before`. -/
def changedFiles (before after : FileTree) : List (String × ByteArray) :=
  (after.entries.filterMap fun
    | (parts, .file bytes) =>
      match before.lookup parts with
      | some (.file old) => if old.data == bytes.data then none else some ("/".intercalate parts, bytes)
      | _ => some ("/".intercalate parts, bytes)
    | (_, .dir) => none)

end FileTree

end ServiceGraph
