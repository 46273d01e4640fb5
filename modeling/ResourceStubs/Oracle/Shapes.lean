import ResourceStubs.Model.Hint
import ResourceStubs.Oracle.Basic
import ResourceStubs.Session.Basic

/-! The oracle that derives signatures from the shapes of the operations that are called. Members of
an input that the resource itself fills in are left out of a signature. -/

namespace ResourceStubs

/-- The documents of a service that signatures are derived from. -/
structure ShapeSource where
  serviceName : String
  model : ServiceModel
  document : ResourceDocument
  waiters : Option WaiterModel
  deriving Inhabited

/-- The reference to the class of a target, as a list if the target has several resources. -/
def Target.hint (target : Target) (service : String) : TypeHint :=
  TypeHint.listIf target.isList (.reference target.typeName service true)

/-- The name of the class of a collection of a parent class. -/
def collectionClassName (parentName collectionName : String) : String :=
  s!"{parentName}{Naming.classPrefix collectionName}Collection"

namespace ShapeSource

/-- The source over the documents of a service of a session. -/
def ofSession (session : Session) (service : ServiceName) : Except Error ShapeSource := do
  return {
    serviceName := service.name
    model := ← session.serviceModel service.name
    document := (← session.resourceDocument service.name).getD ResourceDocument.empty
    waiters := ← session.waiterModel? service.name }

variable (source : ShapeSource)

/-- The default of an argument that need not be given. -/
def optionalDefault : String := "..."

/-- Some binding fills in the member or a part of it. -/
def isBound (params : List Binding) (memberName : String) : Bool :=
  params.any (·.topLevelTarget == memberName)

/-- The argument for a member of an input, and whether it must be given. -/
def memberArgument (allOptional : Bool) (member : ServiceModel.Member) :
    Except Error (Bool × Argument) := do
  let argument := Argument.typed member.name (← source.model.hint member.ref.shape)
  if member.required && !allOptional then return (true, argument)
  return (false, argument.withFallback optionalDefault)

/-- Arguments given by keyword: first those that must be given, then the others. -/
def keywordArguments (arguments : List (Bool × Argument)) : List Argument :=
  if arguments.isEmpty then []
  else Argument.keywordMark :: ((arguments.filter (·.1)).map Prod.snd
    ++ (arguments.filter (!·.1)).map Prod.snd)

/-- The arguments of a method that calls an operation: the object, and then by keyword the members
of the input that are not bound. -/
def inputArguments (operationName : String) (params : List Binding) (allOptional : Bool) :
    Except Error (List Argument) := do
  match (← source.model.operation operationName).input with
  | none => return [Argument.self]
  | some input =>
    let members ← source.model.members input.shape
    let free := members.filter fun member => !isBound params member.name
    return Argument.self :: keywordArguments (← free.mapM (source.memberArgument allOptional))

/-- What an operation returns. -/
def outputHint (operationName : String) : Except Error TypeHint := do
  match (← source.model.operation operationName).output with
  | some output => source.model.hint output.shape
  | none => return .nothing

/-- The method of an action that makes a request. -/
def actionMethod (name : String) (definition : ActionDefinition) :
    Except Error (Option Method) := do
  match definition.request with
  | none => return none
  | some request =>
    let arguments ← source.inputArguments request.operation request.params false
    let returns ← match definition.resource with
      | some target => pure (target.hint source.serviceName)
      | none => source.outputHint request.operation
    return some (.ofSignature name arguments returns)

/-- The methods that load the data of a resource. -/
def loadMethods (definition : ResourceDefinition) : List Method :=
  if definition.load.isSome then
    Schema.loadNames.map fun name => .ofSignature name [Argument.self] .nothing
  else []

/-- The method of a declared action. -/
def declaredActionMethod (declared : String × ActionDefinition) : Except Error (Option Method) :=
  source.actionMethod (Naming.snakeCase declared.1) declared.2

/-- The method of a declared wait whose waiter the service has. -/
def waiterMethod (declared : String × WaiterDefinition) : Except Error (Option Method) := do
  match source.waiters.bind (·.waiters.get? declared.2.waiterName) with
  | none => return none
  | some config =>
    let arguments ← source.inputArguments config.operation declared.2.params false
    return some (.ofSignature (Schema.waiterName declared.1) arguments .nothing)

/-- Methods under their names; of several with one name the last counts. -/
def methodDict (methods : List Method) : Dict Method :=
  Dict.ofList (methods.map fun method => (method.name, method))

/-- The methods of a resource type: its loads, then its actions, then its waits. -/
def definitionMethods (definition : ResourceDefinition) : Except Error (Dict Method) := do
  let actions ← definition.actions.entries.mapM source.declaredActionMethod
  let waiters ← definition.waiters.entries.mapM source.waiterMethod
  return methodDict (loadMethods definition ++ actions.filterMap id ++ waiters.filterMap id)

/-- The filter of a collection that makes a request. -/
def filterMethod (className : String) (definition : ActionDefinition) :
    Except Error (Option Method) := do
  match definition.request with
  | none => return none
  | some request =>
    let arguments ← source.inputArguments request.operation request.params true
    return some (.ofSignature "filter" arguments (.reference className source.serviceName false))

/-- The method of a batch action that makes a request. It answers once for each call it takes. -/
def batchMethod (declared : String × ActionDefinition) : Except Error (Option Method) := do
  match declared.2.request with
  | none => return none
  | some request =>
    let arguments ← source.inputArguments request.operation request.params false
    let operation ← source.model.operation request.operation
    let returns ← match operation.output with
      | some output => TypeHint.list <$> source.model.hint output.shape
      | none => pure .nothing
    return some (.ofSignature (Naming.snakeCase declared.1) arguments returns)

/-- The methods of a collection: its filter and the batch actions of its resources. -/
def collectionMethods (className : String) (definition : ActionDefinition) :
    Except Error (Dict Method) := do
  let filter ← source.filterMethod className definition
  let element := definition.resource.bind (source.document.resources.get? ·.typeName)
  let declared := (element.map (·.batchActions.entries)).getD []
  let batch ← declared.mapM source.batchMethod
  return methodDict (filter.toList ++ batch.filterMap id)

/-- The resource types with the names that their collections are called after, the service resource
first. -/
def definitions : List (String × ResourceDefinition) :=
  (source.document.service.toList.map fun definition => (Session.serviceResource, definition))
    ++ source.document.resources.entries

/-- The collections of all resource types under their class names. -/
def collectionClasses : List (String × ActionDefinition) :=
  source.definitions.flatMap fun (parentName, definition) =>
    definition.hasMany.entries.map fun (declaredName, collection) =>
      (collectionClassName parentName (Naming.snakeCase declaredName), collection)

/-- The methods of the resource type of a name, or else of the first collection of that class
name. -/
def methodsOf (name : String) : Except Error (Dict Method) :=
  match source.document.resources.get? name with
  | some definition => source.definitionMethods definition
  | none =>
    match source.collectionClasses.find? (·.1 == name) with
    | some (className, collection) => source.collectionMethods className collection
    | none => .ok Dict.empty

/-- The methods of the service resource. -/
def rootMethods : Except Error (Dict Method) :=
  match source.document.service with
  | some definition => source.definitionMethods definition
  | none => .ok Dict.empty

/-- The oracle over the documents. -/
def oracle : Oracle := ⟨source.methodsOf, source.rootMethods⟩

end ShapeSource

end ResourceStubs
