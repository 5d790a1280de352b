import ServiceGraph.Json.Error
import ServiceGraph.Files.Error

/-!
# Why a document could not be loaded

A document fails to load when its file cannot be read (`io`), when it is not JSON or a field has
the wrong type (`json`), or when it lacks the containers the graph is built from (`malformed`),
which names the place and the flaw. `LoadError.message` gives the sentence for each.
-/

namespace ServiceGraph

/-- The two containers every microservice must have. -/
inductive Part where
  | controllers
  | services
  deriving DecidableEq

/-- The field name of a container. -/
def Part.name : Part → String
  | .controllers => "controllers"
  | .services => "services"

/-- Where in a document a shape check failed. -/
inductive Place where
  /-- The whole document. -/
  | root
  /-- Its `microservices` field. -/
  | microservices
  /-- The item of `microservices` at an index. -/
  | item (index : Nat)
  /-- A container of the item at an index. -/
  | itemPart (index : Nat) (part : Part)
  deriving DecidableEq

/-- A place as a path: `$`, `microservices`, `microservices[2]`, `microservices[2].services`. -/
def Place.render : Place → String
  | .root => "$"
  | .microservices => "microservices"
  | .item i => "microservices[" ++ toString i ++ "]"
  | .itemPart i p => "microservices[" ++ toString i ++ "]." ++ p.name

/-- What is wrong at a place. -/
inductive Flaw where
  /-- The document is no object. -/
  | notObject
  /-- A container is no array. -/
  | notArray
  /-- A container is absent. -/
  | missing
  /-- A microservice is no object. -/
  | itemNotObject
  deriving DecidableEq

/-- The words for a flaw. -/
def Flaw.reason : Flaw → String
  | .notObject => "expected a JSON object"
  | .notArray => "expected an array"
  | .missing => "field is missing"
  | .itemNotObject => "expected an object"

/-- Why a document could not be loaded. -/
inductive LoadError where
  | io (path : String) (cause : FileError)
  | json (e : Json.Error)
  | malformed (place : Place) (flaw : Flaw)
  deriving DecidableEq

/-- The sentence for a load failure. -/
def LoadError.message : LoadError → String
  | .io path cause => "failed to read " ++ path ++ ": " ++ cause.message
  | .json e => "invalid IR JSON: " ++ e.message
  | .malformed place flaw => "malformed IR at `" ++ place.render ++ "`: " ++ flaw.reason

/-- True for a document that lacks the containers the graph is built from. -/
def LoadError.isMalformed : LoadError → Bool
  | .malformed _ _ => true
  | _ => false

end ServiceGraph
