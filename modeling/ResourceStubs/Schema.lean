import ResourceStubs.Model.Resource
import ResourceStubs.Naming

/-! The schema of a resource type: the public names that it offers, by kind. It is all that the
stubs of the type are made from. -/

namespace ResourceStubs

/-- An identifier of a resource, under its public name. -/
structure Identifier where
  name : String
  memberName : Option String
  deriving DecidableEq, Repr, Inhabited

/-- Something that can be called on a resource. -/
inductive Callable where
  /-- An action of the resource. -/
  | action (name : String) (definition : ActionDefinition)
  /-- A wait, with the name it is declared by. -/
  | waiter (name declaredName : String) (definition : WaiterDefinition)
  /-- A way to a related resource by its identifiers. -/
  | subResource (name : String) (target : Target)
  /-- Loading the data of the resource. -/
  | load (name : String) (definition : LoadDefinition)
  /-- The list of the names of the related resources. -/
  | availableSubresources (name : String) (names : List String)
  deriving Inhabited

namespace Callable

/-- The name that is called. -/
def name : Callable → String
  | action name _ => name
  | waiter name _ _ => name
  | subResource name _ => name
  | load name _ => name
  | availableSubresources name _ => name

/-- The operation of the service that is called directly. -/
def operation? : Callable → Option String
  | action _ definition => definition.operation?
  | load _ definition => some definition.request.operation
  | _ => none

/-- The name is not for private use. -/
def isPublic (callable : Callable) : Bool := callable.name.toList.head? != some '_'

end Callable

/-- A related resource that is found through the data of the resource. -/
structure Reference where
  name : String
  target : Target
  deriving Inhabited

/-- An action on all resources of a collection at once. -/
structure BatchAction where
  name : String
  definition : ActionDefinition
  deriving Inhabited

/-- A collection of resources, with the batch actions of their type. -/
structure CollectionSchema where
  name : String
  definition : ActionDefinition
  batchActions : List BatchAction
  deriving Inhabited

/-- The type of the resources in the collection. -/
def CollectionSchema.target? (collection : CollectionSchema) : Option Target :=
  collection.definition.resource

/-- The schema of a resource type. -/
structure Schema where
  name : String
  shape : Option String
  identifiers : List Identifier
  load : Option LoadDefinition
  actions : List Callable
  waiters : List Callable
  subResources : List Callable
  references : List Reference
  collections : List CollectionSchema
  deriving Inhabited

namespace Schema

/-- The callable of a declared action. -/
def actionOf (declared : String × ActionDefinition) : Callable :=
  .action (Naming.snakeCase declared.1) declared.2

/-- The name of a wait for a declared state. -/
def waiterName (declaredName : String) : String := s!"wait_until_{Naming.snakeCase declaredName}"

/-- The callable of a declared wait. -/
def waiterOf (declared : String × WaiterDefinition) : Callable :=
  .waiter (waiterName declared.1) declared.1 declared.2

/-- The batch action of a declared one. -/
def batchActionOf (declared : String × ActionDefinition) : BatchAction :=
  ⟨Naming.snakeCase declared.1, declared.2⟩

/-- The batch actions of the resources that a declared collection leads to. -/
def batchActionsOf (resources : Dict ResourceDefinition)
    (declared : String × ActionDefinition) : Except Error (List BatchAction) :=
  match declared.2.resource with
  | none => .ok []
  | some target =>
    match resources.get? target.typeName with
    | some element => .ok (element.batchActions.entries.map batchActionOf)
    | none => .error
      (.introspection s!"Collection {declared.1} targets unknown resource {target.typeName}")

/-- The schema of a declared collection. -/
def collectionOf (resources : Dict ResourceDefinition) (declared : String × ActionDefinition) :
    Except Error CollectionSchema := do
  return ⟨Naming.snakeCase declared.1, declared.2, ← batchActionsOf resources declared⟩

/-- The schema of a resource type among the resource types of its service. A related resource that
needs data is a reference; the others can be called by their identifiers under the name they are
declared by. -/
def resolve (name : String) (definition : ResourceDefinition)
    (resources : Dict ResourceDefinition) : Except Error Schema := do
  let collections ← definition.hasMany.entries.mapM (collectionOf resources)
  let (references, subResources) := definition.has.entries.partition (·.2.requiresData)
  return {
    name
    shape := definition.shape
    identifiers := definition.identifiers.map fun i => ⟨Naming.snakeCase i.name, i.memberName⟩
    load := definition.load
    actions := definition.actions.entries.map actionOf
    waiters := definition.waiters.entries.map waiterOf
    subResources := subResources.map fun (declaredName, target) => .subResource declaredName target
    references := references.map fun (declaredName, target) =>
      ⟨Naming.snakeCase declaredName, target⟩
    collections }

/-- The names of the related resources that can be called, sorted. -/
def subResourceNames (schema : Schema) : List String :=
  (schema.subResources.map (·.name)).mergeSort

/-- The name of the callable that lists the related resources. -/
def availableSubresources : String := "get_available_subresources"

/-- The names under which the data of a resource is loaded. -/
def loadNames : List String := ["load", "reload"]

/-- The callables that load the data of the resource. -/
def loads (schema : Schema) : List Callable :=
  match schema.load with
  | some definition => loadNames.map (.load · definition)
  | none => []

/-- The callables that are declared in some way. -/
def declaredCallables (schema : Schema) : List Callable :=
  schema.actions ++ schema.waiters ++ schema.subResources ++ schema.loads

/-- All callables: those that are declared and, if there are any, the list of related resources. -/
def callables (schema : Schema) : List Callable :=
  schema.declaredCallables ++
    if schema.declaredCallables.isEmpty then []
    else [.availableSubresources availableSubresources schema.subResourceNames]

/-- The public callables by name; of several with one name the last counts. -/
def publicCallables (schema : Schema) : Dict Callable :=
  Dict.ofList ((schema.callables.filter (·.isPublic)).map fun c => (c.name, c))

/-- The public callables sorted by name. -/
def sortedCallables (schema : Schema) : List (String × Callable) :=
  schema.publicCallables.entries.mergeSort (fun a b => a.1 ≤ b.1)

end Schema

end ResourceStubs
