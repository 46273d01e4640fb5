import ResourceStubs.Json.Basic
import ResourceStubs.Stub.Resource

/-! The JSON form of the stub classes. -/

namespace ResourceStubs

/-- A value tagged with its kind. -/
def Json.ofTagged (kind : String) (content : Json) : Json :=
  .object [("kind", .string kind), ("value", content)]

/-- A kind without content. -/
def Json.ofKind (kind : String) : Json := .object [("kind", .string kind)]

/-- A list of texts. -/
def Json.ofTexts (texts : List String) : Json := .array (texts.map .string)

/-- A value that may be missing. -/
def Json.ofOption {α : Type} (encode : α → Json) : Option α → Json
  | some a => encode a
  | none => .null

/-- The JSON form of a hint: its kind, and its content under `value`. -/
def TypeHint.toJson : TypeHint → Json
  | .any => .ofKind "any"
  | .nothing => .ofKind "none"
  | .str => .ofKind "str"
  | .int => .ofKind "int"
  | .float => .ofKind "float"
  | .bool => .ofKind "bool"
  | .bytes => .ofKind "bytes"
  | .dateTime => .ofKind "date_time"
  | .list item => .ofTagged "list" item.toJson
  | .dict key value => .ofTagged "dict" (.array [key.toJson, value.toJson])
  | .iterator item => .ofTagged "iterator" item.toJson
  | .literal name values =>
    .ofTagged "literal" (.object [("name", .string name), ("values", .ofTexts values)])
  | .typeDef name => .ofTagged "type_def" (.string name)
  | .reference name service quoted =>
    .ofTagged "internal"
      (.object [("name", .string name), ("service", .string service), ("stringify", .bool quoted)])

/-- The JSON form of an argument. -/
def Argument.toJson (argument : Argument) : Json :=
  .object [("name", .string argument.name),
    ("type_annotation", .ofOption TypeHint.toJson argument.hint),
    ("default", .ofOption .string argument.fallback),
    ("prefix", .string argument.marker)]

/-- The JSON form of a method. -/
def Method.toJson (method : Method) : Json :=
  .object [("name", .string method.name),
    ("arguments", .array (method.arguments.map (·.toJson))),
    ("return_type", method.returns.toJson),
    ("docstring", .string method.docstring)]

/-- The JSON form of an attribute. -/
def Attribute.toJson (member : Attribute) : Json :=
  .object [("name", .string member.name), ("type_annotation", member.hint.toJson)]

/-- The JSON form of a service name. -/
def ServiceName.toJson (service : ServiceName) : Json :=
  .object [("name", .string service.name), ("class_name", .string service.className),
    ("boto3_version", .string service.version)]

/-- The JSON form of a collection. -/
def Collection.toJson (collection : Collection) : Json :=
  .object [("name", .string collection.name),
    ("parent_name", .string collection.parentName),
    ("attribute_name", .string collection.attributeName),
    ("object_class_name", .string collection.elementName),
    ("type_annotation", collection.hint.toJson),
    ("service_name", collection.service.toJson),
    ("methods", .array (collection.methods.map (·.toJson)))]

/-- The JSON form of a resource. -/
def Resource.toJson (resource : Resource) : Json :=
  .object [("name", .string resource.name),
    ("service_name", resource.service.toJson),
    ("methods", .array (resource.methods.map (·.toJson))),
    ("attributes", .array (resource.attributes.map (·.toJson))),
    ("collections", .array (resource.collections.map (·.toJson)))]

/-- The JSON form of a service resource. -/
def ServiceResource.toJson (root : ServiceResource) : Json :=
  .object [("name", .string root.name),
    ("service_name", root.service.toJson),
    ("methods", .array (root.methods.map (·.toJson))),
    ("attributes", .array (root.attributes.map (·.toJson))),
    ("collections", .array (root.collections.map (·.toJson))),
    ("sub_resources", .array (root.subResources.map (·.toJson)))]

end ResourceStubs
