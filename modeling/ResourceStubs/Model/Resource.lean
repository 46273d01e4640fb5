import ResourceStubs.Model.Document
import ResourceStubs.Text.Replace

/-! The resource document: the resource types of a service, what they hold and what can be done with
them, in terms of the operations of the service. -/

namespace ResourceStubs

open Json

/-- How one parameter of a request, or one identifier of a resource, gets its value. -/
structure Binding where
  target : String
  source : String
  name : Option String
  path : Option String
  value : Option Json
  deriving Inhabited

namespace Binding

/-- The value comes from the data of the resource. -/
def isData (binding : Binding) : Bool := binding.source == "data"

/-- The value is given by the caller. -/
def isInput (binding : Binding) : Bool := binding.source == "input"

/-- The member of the input that is bound or lies around what is bound: the target up to its first
full stop or bracket. -/
def topLevelTarget (binding : Binding) : String :=
  String.ofList (binding.target.toList.takeWhile fun c => c ≠ '.' && c ≠ '[')

/-- The binding that a JSON value stands for. -/
def ofJson? (json : Json) : Option Binding := do
  let fields ← json.fields? ["target", "source", "name", "path", "value"]
  some {
    target := ← fields.required "target" text?
    source := ← fields.required "source" text?
    name := ← fields.optional "name" text?
    path := ← fields.optional "path" text?
    value := ← fields.optional "value" free? }

end Binding

/-- A call of an operation with some parameters bound. -/
structure Request where
  operation : String
  params : List Binding
  deriving Inhabited

/-- The request that a JSON value stands for. -/
def Request.ofJson? (json : Json) : Option Request := do
  let fields ← json.fields? ["operation", "params"]
  some {
    operation := ← fields.required "operation" text?
    params := ← fields.withDefault "params" [] (list? Binding.ofJson?) }

/-- A resource type that is led to, and how its identifiers are found. -/
structure Target where
  typeName : String
  identifiers : List Binding
  path : Option String
  deriving Inhabited

namespace Target

/-- The path leads to several resources. -/
def isList (target : Target) : Bool :=
  target.path.any fun path => (Text.splitOnce? ['[', ']'] path.toList).isSome

/-- Some identifier comes from the data of the resource. -/
def requiresData (target : Target) : Bool := target.identifiers.any (·.isData)

/-- The target that a JSON value stands for. -/
def ofJson? (json : Json) : Option Target := do
  let fields ← json.fields? ["type", "identifiers", "path"]
  some {
    typeName := ← fields.required "type" text?
    identifiers := ← fields.withDefault "identifiers" [] (list? Binding.ofJson?)
    path := ← fields.optional "path" text? }

end Target

/-- An identifier of a resource, and the member of its data that holds it too. -/
structure IdentifierDefinition where
  name : String
  memberName : Option String
  deriving DecidableEq, Repr, Inhabited

/-- The identifier that a JSON value stands for. -/
def IdentifierDefinition.ofJson? (json : Json) : Option IdentifierDefinition := do
  let fields ← json.fields? ["name", "memberName"]
  some {
    name := ← fields.required "name" text?
    memberName := ← fields.optional "memberName" text? }

/-- An action, batch action or collection: the request it makes and the resources it leads to. -/
structure ActionDefinition where
  request : Option Request
  resource : Option Target
  path : Option String
  deriving Inhabited

/-- The operation that the action calls. -/
def ActionDefinition.operation? (definition : ActionDefinition) : Option String :=
  definition.request.map (·.operation)

/-- The action that a JSON value stands for. -/
def ActionDefinition.ofJson? (json : Json) : Option ActionDefinition := do
  let fields ← json.fields? ["request", "resource", "path"]
  some {
    request := ← fields.optional "request" Request.ofJson?
    resource := ← fields.optional "resource" Target.ofJson?
    path := ← fields.optional "path" text? }

/-- How the data of a resource is loaded. -/
structure LoadDefinition where
  request : Request
  path : Option String
  deriving Inhabited

/-- The load that a JSON value stands for. -/
def LoadDefinition.ofJson? (json : Json) : Option LoadDefinition := do
  let fields ← json.fields? ["request", "path"]
  some {
    request := ← fields.required "request" Request.ofJson?
    path := ← fields.optional "path" text? }

/-- A wait for a state of a resource, by a waiter of the service. -/
structure WaiterDefinition where
  waiterName : String
  params : List Binding
  path : Option String
  deriving Inhabited

/-- The wait that a JSON value stands for. -/
def WaiterDefinition.ofJson? (json : Json) : Option WaiterDefinition := do
  let fields ← json.fields? ["waiterName", "params", "path"]
  some {
    waiterName := ← fields.required "waiterName" text?
    params := ← fields.withDefault "params" [] (list? Binding.ofJson?)
    path := ← fields.optional "path" text? }

/-- A resource type. -/
structure ResourceDefinition where
  identifiers : List IdentifierDefinition
  shape : Option String
  load : Option LoadDefinition
  actions : Dict ActionDefinition
  batchActions : Dict ActionDefinition
  waiters : Dict WaiterDefinition
  has : Dict Target
  hasMany : Dict ActionDefinition
  deriving Inhabited

namespace ResourceDefinition

/-- A resource type that holds nothing. -/
def empty : ResourceDefinition where
  identifiers := []
  shape := none
  load := none
  actions := Dict.empty
  batchActions := Dict.empty
  waiters := Dict.empty
  has := Dict.empty
  hasMany := Dict.empty

/-- The target of a related resource, which a JSON value has under `resource`. -/
def related? (json : Json) : Option Target := do
  let fields ← json.fields? ["resource"]
  fields.required "resource" Target.ofJson?

/-- The resource type that a JSON value stands for. -/
def ofJson? (json : Json) : Option ResourceDefinition := do
  let fields ← json.fields?
    ["identifiers", "shape", "load", "actions", "batchActions", "waiters", "has", "hasMany"]
  some {
    identifiers := ← fields.withDefault "identifiers" [] (list? IdentifierDefinition.ofJson?)
    shape := ← fields.optional "shape" text?
    load := ← fields.optional "load" LoadDefinition.ofJson?
    actions := ← fields.withDefault "actions" Dict.empty (dict? ActionDefinition.ofJson?)
    batchActions := ← fields.withDefault "batchActions" Dict.empty (dict? ActionDefinition.ofJson?)
    waiters := ← fields.withDefault "waiters" Dict.empty (dict? WaiterDefinition.ofJson?)
    has := ← fields.withDefault "has" Dict.empty (dict? related?)
    hasMany := ← fields.withDefault "hasMany" Dict.empty (dict? ActionDefinition.ofJson?) }

end ResourceDefinition

/-- The resource types of a service: that of the service itself and the others by name. -/
structure ResourceDocument where
  service : Option ResourceDefinition
  resources : Dict ResourceDefinition
  deriving Inhabited

namespace ResourceDocument

/-- No resource types. -/
def empty : ResourceDocument := ⟨none, Dict.empty⟩

/-- The document declares no resource type. -/
def isEmpty (document : ResourceDocument) : Bool :=
  document.service.isNone && document.resources.isEmpty

/-- The resource type of the service itself, which holds nothing unless it is declared. -/
def root (document : ResourceDocument) : ResourceDefinition :=
  document.service.getD ResourceDefinition.empty

/-- The document that a JSON value stands for. -/
def ofJson? (json : Json) : Option ResourceDocument := do
  let fields ← json.fields? ["service", "resources"]
  some {
    service := ← fields.optional "service" ResourceDefinition.ofJson?
    resources := ← fields.withDefault "resources" Dict.empty (dict? ResourceDefinition.ofJson?) }

/-- The document in a text. -/
def read (text : String) : Except Error ResourceDocument :=
  readDocument "resource model JSON" ofJson? text

end ResourceDocument

end ResourceStubs
