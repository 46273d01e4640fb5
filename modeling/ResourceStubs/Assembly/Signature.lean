import ResourceStubs.Oracle.Shapes

/-! The signature of a callable: the one that an oracle knows, or else the one that the schema of
the resource gives. -/

namespace ResourceStubs

/-- A way to find signatures. -/
inductive SignatureSource where
  /-- Methods known by name. -/
  | known (methods : Dict Method)
  /-- The schema of the resource. -/
  | schema
  deriving Inhabited

namespace ResourceInstance

variable (resource : ResourceInstance)

/-- What an action without a target returns: nothing if its operation has no output. -/
def outputHint (operationName : String) : Except Error TypeHint := do
  match (← resource.client.model.operation operationName).output with
  | some _ => return .dict .str .any
  | none => return .nothing

/-- What an action returns. -/
def actionHint (definition : ActionDefinition) : Except Error TypeHint :=
  match definition.resource, definition.operation? with
  | some target, _ => .ok (target.hint resource.serviceName)
  | none, some operationName => resource.outputHint operationName
  | none, none => .ok .nothing

/-- The signature that the schema gives to a callable. -/
def schemaSignature : Callable → Except Error Method
  | .action name definition => do
    return .ofSignature name [Argument.self, Argument.keywords] (← resource.actionHint definition)
  | .waiter name _ _ => .ok (.ofSignature name [Argument.self, Argument.keywords] .nothing)
  | .subResource name target =>
    let given := target.identifiers.filter (·.isInput)
    let arguments := given.map fun i => Argument.typed (Naming.snakeCase i.target) .str
    .ok (.ofSignature name (Argument.self :: arguments)
      (.reference target.typeName resource.serviceName true))
  | .load name _ => .ok (.ofSignature name [Argument.self] .nothing)
  | .availableSubresources name _ => .ok (.ofSignature name [Argument.self] (.list .str))

/-- The signature of a callable from one source, if it has one. -/
def signatureFrom (callable : Callable) : SignatureSource → Except Error (Option Method)
  | .known methods => .ok (methods.get? callable.name)
  | .schema => (resource.schemaSignature callable).map some

/-- The signature of a callable from the first source that has one. -/
def signature (resourceName : String) (callable : Callable) :
    List SignatureSource → Except Error Method
  | [] => .error (.introspection s!"No signature found for {resourceName}.{callable.name}")
  | source :: rest => do
    match ← resource.signatureFrom callable source with
    | some method => return method
    | none => signature resourceName callable rest

end ResourceInstance

/-- Known methods first, then the schema. -/
def SignatureSource.usual (methods : Dict Method) : List SignatureSource :=
  [.known methods, .schema]

end ResourceStubs
