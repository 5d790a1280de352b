import ServiceGraph.Ir.Basic

/-!
# Writing a document as JSON

Each record becomes an object with its fields sorted by name, an absent option becomes `null`,
and values kept as JSON (`parameters`, `parameterContents`, attributes) are written as they are.
Reading the result back gives the same document.
-/

namespace ServiceGraph

open Json

/-- An annotation as JSON. -/
def Annotation.toValue (a : Annotation) : Value :=
  .obj [("attributes", .obj a.attributes), ("name", .str a.name)]

/-- A method as JSON. -/
def Method.toValue (m : Method) : Value :=
  .obj [("annotations", .arr (m.annotations.map Annotation.toValue)),
    ("className", .str m.className), ("httpMethod", Value.ofOption m.httpMethod),
    ("name", .str m.name), ("parameters", m.parameters), ("returnType", .str m.returnType),
    ("url", Value.ofOption m.url)]

/-- A call as JSON. -/
def Call.toValue (c : Call) : Value :=
  .obj [("calledFrom", .str c.calledFrom), ("httpMethod", Value.ofOption c.httpMethod),
    ("microserviceName", Value.ofOption c.microserviceName), ("name", .str c.name),
    ("parameterContents", c.parameterContents), ("url", Value.ofOption c.url)]

/-- A controller as JSON. -/
def Controller.toValue (c : Controller) : Value :=
  .obj [("implementedTypes", Value.ofStrings c.implementedTypes),
    ("methodCalls", .arr (c.methodCalls.map Call.toValue)),
    ("methods", .arr (c.methods.map Method.toValue)), ("name", .str c.name)]

/-- A service as JSON. -/
def Service.toValue (s : Service) : Value :=
  .obj [("implementedTypes", Value.ofStrings s.implementedTypes),
    ("methodCalls", .arr (s.methodCalls.map Call.toValue)), ("name", .str s.name)]

/-- A microservice as JSON. -/
def Microservice.toValue (ms : Microservice) : Value :=
  .obj [("controllers", .arr (ms.controllers.map Controller.toValue)), ("name", .str ms.name),
    ("path", .str ms.path), ("services", .arr (ms.services.map Service.toValue))]

/-- A document as JSON. -/
def Document.toValue (d : Document) : Value :=
  .obj [("commitID", .str d.commitId),
    ("microservices", .arr (d.microservices.map Microservice.toValue))]

end ServiceGraph
