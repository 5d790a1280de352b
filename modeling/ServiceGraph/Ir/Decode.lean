import ServiceGraph.Ir.Basic
import ServiceGraph.Ir.Error
import ServiceGraph.Json.Decode
import ServiceGraph.Json.Reader

/-!
# Reading a document from JSON

A JSON value becomes a `Document` in two passes. The shape check (`shapeFlaw`) looks only at the
containers the graph is built from and reports the first place that falls short, in this order:
the root must be an object; its `microservices` must be present and an array (`null` is present
and no array); then item by item, each must be an object whose `controllers` and then `services`
are present arrays. Only a value that passes is decoded field by field (`Document.record`), where
a string or list field that is `null` or absent takes its empty default, `url`, `httpMethod` and
`microserviceName` are optional, and `parameters`, `parameterContents` and annotation attributes
keep any JSON value.
-/

namespace ServiceGraph

open Json

/-- The shape flaw of one container of the item at index `i`. -/
def partFlaw (i : Nat) (fields : Fields) (p : Part) : Option (Place × Flaw) :=
  match Fields.get? fields p.name with
  | some (.arr _) => none
  | some _ => some (.itemPart i p, .notArray)
  | none => some (.itemPart i p, .missing)

/-- The first shape flaw among the microservices from index `i` on. -/
def itemsFlaw (i : Nat) : List Value → Option (Place × Flaw)
  | [] => none
  | .obj fields :: rest =>
    match partFlaw i fields .controllers with
    | some f => some f
    | none =>
      match partFlaw i fields .services with
      | some f => some f
      | none => itemsFlaw (i + 1) rest
  | _ :: _ => some (.item i, .itemNotObject)

/-- The first place where a value falls short of a document's shape, with the flaw there. -/
def shapeFlaw : Value → Option (Place × Flaw)
  | .obj root =>
    match Fields.get? root "microservices" with
    | none => some (.microservices, .missing)
    | some (.arr items) => itemsFlaw 0 items
    | some _ => some (.microservices, .notArray)
  | _ => some (.root, .notObject)

/-- A string field whose `null` means empty. -/
def textField : Decoder String := Decoder.orDefault Decoder.string ""

/-- A list field whose `null` means empty. -/
def listField {α : Type} (d : Decoder α) : Decoder (List α) := Decoder.orDefault (Decoder.list d) []

/-- How an annotation is read. -/
def Annotation.record : Record Annotation where
  name := "Annotation"
  fieldNames := ["name", "attributes"]
  empty := {}
  update a k v :=
    match k with
    | "name" => return { a with name := ← textField v }
    | "attributes" => return { a with attributes := ← Decoder.orDefault Decoder.fields [] v }
    | _ => pure a

/-- How a method is read. -/
def Method.record : Record Method where
  name := "Method"
  fieldNames := ["name", "parameters", "returnType", "url", "httpMethod", "annotations", "className"]
  empty := {}
  update m k v :=
    match k with
    | "name" => return { m with name := ← textField v }
    | "parameters" => return { m with parameters := v }
    | "returnType" => return { m with returnType := ← textField v }
    | "url" => return { m with url := ← Decoder.option Decoder.string v }
    | "httpMethod" => return { m with httpMethod := ← Decoder.option Decoder.string v }
    | "annotations" => return { m with annotations := ← listField Annotation.record.decode v }
    | "className" => return { m with className := ← textField v }
    | _ => pure m

/-- How a call is read. -/
def Call.record : Record Call where
  name := "MethodCall"
  fieldNames := ["name", "url", "httpMethod", "calledFrom", "microserviceName",
    "parameterContents"]
  empty := {}
  update c k v :=
    match k with
    | "name" => return { c with name := ← textField v }
    | "url" => return { c with url := ← Decoder.option Decoder.string v }
    | "httpMethod" => return { c with httpMethod := ← Decoder.option Decoder.string v }
    | "calledFrom" => return { c with calledFrom := ← textField v }
    | "microserviceName" => return { c with microserviceName := ← Decoder.option Decoder.string v }
    | "parameterContents" => return { c with parameterContents := v }
    | _ => pure c

/-- How a controller is read. -/
def Controller.record : Record Controller where
  name := "Controller"
  fieldNames := ["name", "implementedTypes", "methods", "methodCalls"]
  empty := {}
  update c k v :=
    match k with
    | "name" => return { c with name := ← textField v }
    | "implementedTypes" => return { c with implementedTypes := ← listField Decoder.string v }
    | "methods" => return { c with methods := ← listField Method.record.decode v }
    | "methodCalls" => return { c with methodCalls := ← listField Call.record.decode v }
    | _ => pure c

/-- How a service is read. -/
def Service.record : Record Service where
  name := "Service"
  fieldNames := ["name", "implementedTypes", "methodCalls"]
  empty := {}
  update s k v :=
    match k with
    | "name" => return { s with name := ← textField v }
    | "implementedTypes" => return { s with implementedTypes := ← listField Decoder.string v }
    | "methodCalls" => return { s with methodCalls := ← listField Call.record.decode v }
    | _ => pure s

/-- How a microservice is read; the shape check has made sure of both containers. -/
def Microservice.record : Record Microservice where
  name := "Microservice"
  fieldNames := ["name", "path", "controllers", "services"]
  empty := {}
  update ms k v :=
    match k with
    | "name" => return { ms with name := ← textField v }
    | "path" => return { ms with path := ← textField v }
    | "controllers" => return { ms with controllers := ← Decoder.list Controller.record.decode v }
    | "services" => return { ms with services := ← Decoder.list Service.record.decode v }
    | _ => pure ms

/-- How a document is read; the shape check has made sure of `microservices`. -/
def Document.record : Record Document where
  name := "IrDocument"
  fieldNames := ["microservices", "commitID"]
  empty := {}
  update d k v :=
    match k with
    | "microservices" => return { d with microservices := ← Decoder.list Microservice.record.decode v }
    | "commitID" => return { d with commitId := ← textField v }
    | _ => pure d

/-- A document from a JSON value: the shape check first, then the fields. -/
def Document.ofValue (v : Value) : Except LoadError Document :=
  match shapeFlaw v with
  | some (place, flaw) => .error (.malformed place flaw)
  | none =>
    match Document.record.decode v with
    | .ok d => .ok d
    | .error p => .error (.json { problem := p })

/-- A document from JSON text. -/
def Document.ofText (text : String) : Except LoadError Document :=
  match Value.read text with
  | .ok v => Document.ofValue v
  | .error e => .error (.json e)

end ServiceGraph
