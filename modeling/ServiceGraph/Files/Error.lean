/-!
# Why a file operation failed

The failures of reading, writing and making directories that the program can meet, each with the
sentence the operating system gives for it (`FileError.message`).
-/

namespace ServiceGraph

/-- A failed file operation. -/
inductive FileError where
  /-- A path, or a directory on the way to it, does not exist. -/
  | notFound
  /-- A file was asked for and a directory found. -/
  | isDirectory
  /-- A file stands where a directory on the way was needed. -/
  | notDirectory
  /-- Something already stands where a directory was to be made. -/
  | alreadyExists
  /-- A file meant as text holds bytes that are not UTF-8. -/
  | notUtf8
  /-- Any other failure the operating system reports, by its error number and description. -/
  | other (code : Nat) (description : String)
  deriving DecidableEq

/-- The operating system's sentence for a failure. -/
def FileError.message : FileError → String
  | .notFound => "No such file or directory (os error 2)"
  | .isDirectory => "Is a directory (os error 21)"
  | .notDirectory => "Not a directory (os error 20)"
  | .alreadyExists => "File exists (os error 17)"
  | .notUtf8 => "stream did not contain valid UTF-8"
  | .other code description => description ++ " (os error " ++ toString code ++ ")"

end ServiceGraph
