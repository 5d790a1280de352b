import ServiceGraph.Json.Writer

/-!
# The analysed services of one commit

A `Document` lists the microservices found in one commit of a code base. A microservice holds
controllers, which expose routed methods and may call out, and services, which only call out.
Every outbound `Call` may name a URL, and a method is reachable under its `route`: the `default`
attribute of its first annotation when there is one (a string as it is, any other value as its
compact JSON text), otherwise its `url`. Later annotations are never looked at.

A `CallSite` is the common view of controllers and services as callers. A microservice's call
sites are its services, then its controllers (`Microservice.callSites`), and a caller is known by
its one implemented interface when it has exactly one, otherwise by its own name
(`CallSite.callerClass`).
-/

namespace ServiceGraph

open Json

/-- An annotation on a method, with its attributes as a key-sorted object. -/
structure Annotation where
  name : String := ""
  attributes : Fields := []

/-- A routed controller method. -/
structure Method where
  name : String := ""
  parameters : Value := .null
  returnType : String := ""
  url : Option String := none
  httpMethod : Option String := none
  annotations : List Annotation := []
  className : String := ""

/-- An outbound call; a call without a URL stays inside its service. -/
structure Call where
  name : String := ""
  url : Option String := none
  httpMethod : Option String := none
  calledFrom : String := ""
  microserviceName : Option String := none
  parameterContents : Value := .null

/-- A class exposing routed methods. -/
structure Controller where
  name : String := ""
  implementedTypes : List String := []
  methods : List Method := []
  methodCalls : List Call := []

/-- A business-logic class; only its outbound calls matter. -/
structure Service where
  name : String := ""
  implementedTypes : List String := []
  methodCalls : List Call := []

/-- A deployable service unit. -/
structure Microservice where
  name : String := ""
  path : String := ""
  controllers : List Controller := []
  services : List Service := []

/-- The microservices of one commit. -/
structure Document where
  microservices : List Microservice := []
  commitId : String := ""

/-- The route a `default` attribute gives: a string as it is, other values as compact JSON. -/
def Annotation.defaultRoute (a : Annotation) : Option String :=
  (Fields.get? a.attributes "default").map fun
    | .str s => s
    | v => v.compact

/-- The URL a method is reachable under: the first annotation's `default` attribute, else `url`. -/
def Method.route (m : Method) : Option String :=
  match m.annotations.head?.bind Annotation.defaultRoute with
  | some r => some r
  | none => m.url

/-- Which kind of class a call site is. -/
inductive SiteKind where
  | controller
  | service
  deriving DecidableEq

/-- The name of a call-site kind. -/
def SiteKind.name : SiteKind → String
  | .controller => "controller"
  | .service => "service"

/-- A class that issues calls, seen the same way for controllers and services. -/
structure CallSite where
  kind : SiteKind
  name : String
  implementedTypes : List String
  calls : List Call

/-- A controller as a call site. -/
def Controller.toSite (c : Controller) : CallSite := ⟨.controller, c.name, c.implementedTypes, c.methodCalls⟩

/-- A service as a call site. -/
def Service.toSite (s : Service) : CallSite := ⟨.service, s.name, s.implementedTypes, s.methodCalls⟩

/-- The class name recorded on requests from this site: its one interface, or its own name. -/
def CallSite.callerClass (s : CallSite) : String :=
  match s.implementedTypes with
  | [only] => only
  | _ => s.name

/-- Call sites in walk order: services first, then controllers. -/
def Microservice.callSites (ms : Microservice) : List CallSite :=
  ms.services.map Service.toSite ++ ms.controllers.map Controller.toSite

end ServiceGraph
