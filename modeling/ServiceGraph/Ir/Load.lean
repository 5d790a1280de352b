import ServiceGraph.Ir.Decode
import ServiceGraph.Files.System

/-!
# Loading a document from a file

`Document.load path` reads the file as UTF-8 text, failing with the path and the file system's
reason, and then reads the text as a document (`Document.ofText`).
-/

namespace ServiceGraph

/-- Loads a document from a file. -/
def Document.load {m : Type → Type} [Monad m] [FileSystem m] (path : String) :
    m (Except LoadError Document) := do
  match ← FileSystem.readText path with
  | .error e => return .error (.io path e)
  | .ok text => return Document.ofText text

end ServiceGraph
