import ResourceStubs.Model.Document

/-! The service model: the operations of a service and the shapes of their input and output. -/

namespace ResourceStubs

open Json

/-- A mention of a shape by its name. -/
structure ShapeRef where
  shape : String
  documentation : Option String
  deriving DecidableEq, Repr, Inhabited

/-- A shape of data. -/
inductive Shape where
  | record (members : Dict ShapeRef) (required : List String)
  | list (member : ShapeRef)
  | map (key value : ShapeRef)
  | string (values : Option (List String))
  | integer
  | long
  | boolean
  | double
  | float
  | timestamp
  | blob
  | other
  deriving Inhabited

/-- An operation of a service. -/
structure Operation where
  name : Option String
  input : Option ShapeRef
  output : Option ShapeRef
  documentation : Option String
  deriving DecidableEq, Repr, Inhabited

/-- What a service model says about the service itself. -/
structure ServiceMetadata where
  apiVersion : Option String
  endpointPrefix : Option String
  serviceId : Option String
  serviceFullName : Option String
  protocol : Option String
  deriving DecidableEq, Repr, Inhabited

/-- The model of the service that it was read for. -/
structure ServiceModel where
  serviceName : String
  metadata : ServiceMetadata
  operations : Dict Operation
  shapes : Dict Shape
  documentation : Option String
  deriving Inhabited

/-- The mention of a shape that a JSON value stands for. -/
def ShapeRef.ofJson? (json : Json) : Option ShapeRef := do
  let fields ← json.fields? ["shape", "documentation"]
  some {
    shape := ← fields.required "shape" text?
    documentation := ← fields.optional "documentation" text? }

/-- The kind of a shape and the fields of that kind, of which an object has the kind under `type`
and an array has it in front. All of a shape is kept, known or not. -/
def Shape.kind? (json : Json) : Option (String × Json) :=
  if json.usable then
    match json with
    | .object members =>
      match members.filter (·.1 == "type") with
      | [(_, .string kind)] => some (kind, .object (members.filter (·.1 != "type")))
      | _ => none
    | .array (.string kind :: items) => some (kind, .array items)
    | _ => none
  else none

/-- A kind of shape that has no fields; members that an object has are ignored. -/
def Shape.plain? (shape : Shape) (content : Json) : Option Shape :=
  (content.fields? []).map fun _ => shape

/-- The shape that a JSON value stands for. -/
def Shape.ofJson? (json : Json) : Option Shape := do
  let (kind, content) ← kind? json
  match kind with
  | "structure" => do
    let fields ← content.fields? ["members", "required"]
    some (.record (← fields.withDefault "members" Dict.empty (dict? ShapeRef.ofJson?))
      (← fields.withDefault "required" [] (list? text?)))
  | "list" => do
    let fields ← content.fields? ["member"]
    some (.list (← fields.required "member" ShapeRef.ofJson?))
  | "map" => do
    let fields ← content.fields? ["key", "value"]
    some (.map (← fields.required "key" ShapeRef.ofJson?)
      (← fields.required "value" ShapeRef.ofJson?))
  | "string" => do
    let fields ← content.fields? ["enum"]
    some (.string (← fields.optional "enum" (list? text?)))
  | "integer" => Shape.integer.plain? content
  | "long" => Shape.long.plain? content
  | "boolean" => Shape.boolean.plain? content
  | "double" => Shape.double.plain? content
  | "float" => Shape.float.plain? content
  | "timestamp" => Shape.timestamp.plain? content
  | "blob" => Shape.blob.plain? content
  | _ => Shape.other.plain? content

/-- The operation that a JSON value stands for. -/
def Operation.ofJson? (json : Json) : Option Operation := do
  let fields ← json.fields? ["name", "input", "output", "documentation"]
  some {
    name := ← fields.optional "name" text?
    input := ← fields.optional "input" ShapeRef.ofJson?
    output := ← fields.optional "output" ShapeRef.ofJson?
    documentation := ← fields.optional "documentation" text? }

/-- Nothing said about the service. -/
def ServiceMetadata.empty : ServiceMetadata := ⟨none, none, none, none, none⟩

/-- The metadata that a JSON value stands for. -/
def ServiceMetadata.ofJson? (json : Json) : Option ServiceMetadata := do
  let fields ← json.fields?
    ["apiVersion", "endpointPrefix", "serviceId", "serviceFullName", "protocol"]
  some {
    apiVersion := ← fields.optional "apiVersion" text?
    endpointPrefix := ← fields.optional "endpointPrefix" text?
    serviceId := ← fields.optional "serviceId" text?
    serviceFullName := ← fields.optional "serviceFullName" text?
    protocol := ← fields.optional "protocol" text? }

namespace ServiceModel

/-- The model of a service that a JSON value stands for. -/
def ofJson? (serviceName : String) (json : Json) : Option ServiceModel := do
  let fields ← json.fields? ["metadata", "operations", "shapes", "documentation"]
  some {
    serviceName
    metadata := ← fields.withDefault "metadata" ServiceMetadata.empty ServiceMetadata.ofJson?
    operations := ← fields.withDefault "operations" Dict.empty (dict? Operation.ofJson?)
    shapes := ← fields.withDefault "shapes" Dict.empty (dict? Shape.ofJson?)
    documentation := ← fields.optional "documentation" text? }

/-- The model of a service in the text of its document. -/
def read (serviceName text : String) : Except Error ServiceModel :=
  readDocument s!"service model JSON for {serviceName}" (ofJson? serviceName) text

variable (model : ServiceModel)

/-- The shape of a name. -/
def shape (name : String) : Except Error Shape :=
  match model.shapes.get? name with
  | some shape => .ok shape
  | none => .error
    (.introspection s!"Shape {name} is not defined in {model.serviceName} service model")

/-- The operation of a name. -/
def operation (name : String) : Except Error Operation :=
  match model.operations.get? name with
  | some operation => .ok operation
  | none => .error
    (.introspection s!"Operation {name} is not defined in {model.serviceName} service model")

/-- A member of a structure and whether it must be given. -/
structure Member where
  name : String
  ref : ShapeRef
  required : Bool
  deriving DecidableEq, Repr

/-- The members of a structure in the order of their declaration. -/
def members (name : String) : Except Error (List Member) := do
  match ← model.shape name with
  | .record members required =>
    .ok (members.entries.map fun (name, ref) => ⟨name, ref, required.contains name⟩)
  | _ => .error (.introspection s!"Shape {name} is not a structure")

end ServiceModel

end ResourceStubs
