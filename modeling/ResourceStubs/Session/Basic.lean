import ResourceStubs.Model.Service
import ResourceStubs.Model.Waiter
import ResourceStubs.Schema
import ResourceStubs.Service.Name

/-! A session gives the documents of services by name. From them come clients and resource
instances, which are looked at and never used to call a service: their identifiers are
placeholders. -/

namespace ResourceStubs

/-- Access to the documents of services. A service may be without a resource document; one without a
waiter model answers `unknownService`. -/
structure Session where
  resourceDocument : String → Except Error (Option ResourceDocument)
  serviceModel : String → Except Error ServiceModel
  waiterModel : String → Except Error WaiterModel

/-- A client of a service. -/
structure Client where
  serviceName : String
  model : ServiceModel
  deriving Inhabited

/-- The documents that the resource types of a service share. -/
structure ServiceContext where
  serviceName : String
  document : ResourceDocument
  model : ServiceModel
  waiters : Option WaiterModel
  deriving Inhabited

/-- A resource type in the context of its service. -/
structure ResourceClass where
  name : String
  schema : Schema
  context : ServiceContext
  deriving Inhabited

namespace ResourceClass

/-- The name of the type behind the name of its service. -/
def typeName (type : ResourceClass) : String := s!"{type.context.serviceName}.{type.name}"

/-- The resource type of a definition. -/
def ofDefinition (name : String) (definition : ResourceDefinition) (context : ServiceContext) :
    Except Error ResourceClass := do
  return ⟨name, ← Schema.resolve name definition context.document.resources, context⟩

end ResourceClass

/-- A resource: its type with a value for each identifier, and a client. -/
structure ResourceInstance where
  type : ResourceClass
  identifierValues : List String
  client : Client
  deriving Inhabited

namespace ResourceInstance

/-- The schema of the resource. -/
def schema (resource : ResourceInstance) : Schema := resource.type.schema

/-- The name of the service of the resource. -/
def serviceName (resource : ResourceInstance) : String := resource.type.context.serviceName

/-- The document that declares the resource. -/
def document (resource : ResourceInstance) : ResourceDocument := resource.type.context.document

/-- The resource of a type with the given identifier values, one for each identifier. -/
def ofValues (type : ResourceClass) (values : List String) (client : Client) :
    Except Error ResourceInstance :=
  if values.length = type.schema.identifiers.length then .ok ⟨type, values, client⟩
  else .error <| .introspection <| .told <|
    s!"{type.typeName} requires {type.schema.identifiers.length} identifier values, " ++
      s!"got {values.length}"

/-- What stands for the value of an identifier. -/
def placeholder : String := "foo"

/-- As many placeholders as identifiers. -/
def placeholders (count : Nat) : List String := List.replicate count placeholder

/-- The resource of a type with placeholders for its identifiers. -/
def ofPlaceholders (type : ResourceClass) (client : Client) : Except Error ResourceInstance :=
  ofValues type (placeholders type.schema.identifiers.length) client

theorem ofPlaceholders_eq_ok (type : ResourceClass) (client : Client) :
    ofPlaceholders type client =
      .ok ⟨type, placeholders type.schema.identifiers.length, client⟩ := by
  simp [ofPlaceholders, ofValues, placeholders]

end ResourceInstance

namespace Session

variable (session : Session)

/-- The waiter model of a service that has one. -/
def waiterModel? (name : String) : Except Error (Option WaiterModel) :=
  match session.waiterModel name with
  | .ok model => .ok (some model)
  | .error (.unknownService _) => .ok none
  | .error e => .error e

/-- A client of a service. -/
def client (service : ServiceName) : Except Error Client := do
  return ⟨service.name, ← session.serviceModel service.name⟩

/-- The type name of the service resource. -/
def serviceResource : String := "ServiceResource"

/-- The service resource of a service that declares resource types. -/
def resource (service : ServiceName) : Except Error (Option ResourceInstance) := do
  match ← session.resourceDocument service.name with
  | none => return none
  | some document =>
    if document.isEmpty then return none
    let client ← session.client service
    let waiters ← session.waiterModel? service.name
    let type ← ResourceClass.ofDefinition serviceResource document.root
      ⟨service.name, document, client.model, waiters⟩
    return some (← ResourceInstance.ofPlaceholders type client)

/-- The names agree. -/
def checkName (expected actual : String) : Except Error Unit :=
  if expected = actual then .ok () else .error (.modelMismatch expected actual)

theorem checkName_eq_ok_iff {expected actual : String} :
    checkName expected actual = .ok () ↔ actual = expected := by
  rw [checkName, @eq_comm _ actual]
  split <;> simp_all

theorem checkName_eq_error_iff {expected actual : String} {e : Error} :
    checkName expected actual = .error e ↔
      actual ≠ expected ∧ e = .modelMismatch expected actual := by
  rw [checkName, ne_comm]
  split <;> simp_all [eq_comm]

/-- The context of the resources below the service resource. -/
def subResourceContext (service : ServiceName) (parent : ResourceInstance) :
    Except Error ServiceContext := do
  checkName service.name parent.serviceName
  checkName service.name parent.client.model.serviceName
  return ⟨service.name, parent.document, parent.client.model, ← session.waiterModel? service.name⟩

/-- One resource below the service resource. -/
def subResource (service : ServiceName) (context : ServiceContext)
    (declared : String × ResourceDefinition) : Except Error ResourceInstance := do
  let type ← ResourceClass.ofDefinition declared.1 declared.2 context
  ResourceInstance.ofPlaceholders type (← session.client service)

/-- A resource of each type that the document of the service resource declares, in its order. -/
def subResources (service : ServiceName) (parent : ResourceInstance) :
    Except Error (List ResourceInstance) := do
  let context ← session.subResourceContext service parent
  parent.document.resources.entries.mapM (session.subResource service context)

end Session

/-- The position and resource of the first of the resources whose type has the name. -/
def findResource? (resources : List ResourceInstance) (name : String) :
    Option (Nat × ResourceInstance) :=
  (resources.zipIdx.find? (·.1.type.name == name)).map fun (resource, i) => (i, resource)

end ResourceStubs
