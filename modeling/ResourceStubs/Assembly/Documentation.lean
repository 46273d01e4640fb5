import ResourceStubs.Doc.Markup
import ResourceStubs.Doc.Summary
import ResourceStubs.Session.Basic

/-! The documentation of methods: what a callable does, in a sentence, and links to where more is
said. -/

namespace ResourceStubs

/-- Underscores are read as spaces. -/
def spaced (name : String) : String :=
  String.ofList (name.toList.map fun c => if c = '_' then ' ' else c)

namespace ResourceInstance

variable (resource : ResourceInstance)

/-- How the service is called in sentences: by its identifier, or else by its name. -/
def serviceTitle : String :=
  resource.client.model.metadata.serviceId.getD resource.serviceName

/-- The sentence about a wait. -/
def waiterSentence (resourceName declaredName waiterName : String) (config : WaiterConfig) :
    String :=
  let state := spaced (Naming.snakeCase declaredName)
  let title := resource.serviceTitle
  let waiter := Naming.snakeCase waiterName
  let operation := Naming.snakeCase config.operation
  s!"Waits until this {resourceName} is {state}. " ++
    s!"This method calls `{title}.Waiter.{waiter}.wait()` " ++
    s!"which polls `{title}.Client.{operation}()` every {config.delay} seconds " ++
    "until a successful state is reached. " ++
    s!"An error is returned after {config.maxAttempts} failed checks."

/-- The sentence about loading the data of a resource. -/
def loadSentence (resourceName operationName : String) : String :=
  let title := resource.serviceTitle
  let operation := Naming.snakeCase operationName
  s!"Calls `{title}.Client.{operation}()` to update the attributes of the {resourceName} resource."

/-- What a callable of a resource does. -/
def documentation (resourceName : String) : Callable → Except Error String
  | .action _ definition =>
    match definition.operation? with
    | none => .ok ""
    | some operationName => do
      let operation ← resource.client.model.operation operationName
      return (operation.documentation.map Doc.stripTags).getD ""
  | .waiter _ declaredName definition =>
    match resource.type.context.waiters.bind (·.waiters.get? definition.waiterName) with
    | some config =>
      .ok (resource.waiterSentence resourceName declaredName definition.waiterName config)
    | none => .ok ""
  | .subResource _ target => .ok s!"Creates a {target.typeName} resource."
  | .load _ definition => .ok (resource.loadSentence resourceName definition.request.operation)
  | .availableSubresources _ _ => .ok ""

end ResourceInstance

/-- The docstring of a method: the summary of its documentation, from at most `limit` characters,
and the links to the method. `sdkName` and `stubName` are what the two documentations call its
class. -/
def docstring (service : ServiceName) (limit : Nat) (sdkName stubName methodName text : String) :
    String :=
  let summary := Doc.summary limit text
  let sdkLink := service.sdkLinkTo [sdkName, methodName]
  let stubLink := service.stubLinkTo .serviceResource [stubName, s!"{methodName} method"]
  (if summary.isEmpty then "" else summary ++ "\n\n")
    ++ s!"[Show boto3 documentation]({sdkLink})\n[Show boto3-stubs documentation]({stubLink})"

end ResourceStubs
