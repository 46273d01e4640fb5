import ResourceStubs.Json.Decode
import ResourceStubs.Stub.Resource

/-! Reading the stub classes back from their JSON form. -/

namespace ResourceStubs

open Json

/-- The hint of a kind that has no content. -/
def TypeHint.plain? : String → Option TypeHint
  | "any" => some .any
  | "none" => some .nothing
  | "str" => some .str
  | "int" => some .int
  | "float" => some .float
  | "bool" => some .bool
  | "bytes" => some .bytes
  | "date_time" => some .dateTime
  | _ => none

/-- What a hint of some kind has for its content. -/
inductive HintContent where
  | nothing
  | element (wrap : TypeHint → TypeHint)
  | keyAndValue
  | values
  | typeDef
  | reference

/-- What a hint of the kind has for its content. -/
def HintContent.ofKind : String → HintContent
  | "list" => .element .list
  | "iterator" => .element .iterator
  | "dict" => .keyAndValue
  | "literal" => .values
  | "type_def" => .typeDef
  | "internal" => .reference
  | _ => .nothing

/-- The hint that a JSON value stands for. A kind without content may have null for it. -/
def TypeHint.ofJson? (json : Json) : Option TypeHint :=
  match json.tagged?.attach with
  | none => none
  | some ⟨(kind, none), _⟩ => plain? kind
  | some ⟨(kind, some content), tag⟩ =>
    match HintContent.ofKind kind with
    | .element wrap => (ofJson? content).map wrap
    | .keyAndValue =>
      match content, tag with
      | .array [key, value], _tag => do some (.dict (← ofJson? key) (← ofJson? value))
      | _, _ => none
    | .values => do
      let fields ← content.objectFields? ["name", "values"]
      some (.literal (← fields.required "name" text?) (← fields.required "values" (list? text?)))
    | .typeDef => (text? content).map .typeDef
    | .reference => do
      let fields ← content.objectFields? ["name", "service", "stringify"]
      some (.reference (← fields.required "name" text?) (← fields.required "service" text?)
        (← fields.required "stringify" flag?))
    | .nothing =>
      match content with
      | .null => plain? kind
      | _ => none
termination_by sizeOf json
decreasing_by
  · exact sizeOf_lt_of_tagged tag
  all_goals
    have smaller := sizeOf_lt_of_tagged _tag
    simp only [Json.array.sizeOf_spec, List.cons.sizeOf_spec, List.nil.sizeOf_spec] at smaller
    omega

/-- The argument that a JSON value stands for. -/
def Argument.ofJson? (json : Json) : Option Argument := do
  let fields ← json.fields? ["name", "type_annotation", "default", "prefix"]
  some {
    name := ← fields.required "name" text?
    hint := ← fields.optional "type_annotation" TypeHint.ofJson?
    fallback := ← fields.optional "default" text?
    marker := ← fields.required "prefix" text? }

/-- The method that a JSON value stands for; one without a docstring has the empty one. -/
def Method.ofJson? (json : Json) : Option Method := do
  let fields ← json.fields? ["name", "arguments", "return_type", "docstring"]
  some {
    name := ← fields.required "name" text?
    arguments := ← fields.required "arguments" (list? Argument.ofJson?)
    returns := ← fields.required "return_type" TypeHint.ofJson?
    docstring := ← fields.withDefault "docstring" "" text? }

/-- The attribute that a JSON value stands for. -/
def Attribute.ofJson? (json : Json) : Option Attribute := do
  let fields ← json.fields? ["name", "type_annotation"]
  some {
    name := ← fields.required "name" text?
    hint := ← fields.required "type_annotation" TypeHint.ofJson? }

/-- The service name that a JSON value stands for. -/
def ServiceName.ofJson? (json : Json) : Option ServiceName := do
  let fields ← json.fields? ["name", "class_name", "boto3_version"]
  some {
    name := ← fields.required "name" text?
    className := ← fields.required "class_name" text?
    version := ← fields.required "boto3_version" text? }

/-- The collection that a JSON value stands for. -/
def Collection.ofJson? (json : Json) : Option Collection := do
  let fields ← json.fields? ["name", "parent_name", "attribute_name", "object_class_name",
    "type_annotation", "service_name", "methods"]
  some {
    name := ← fields.required "name" text?
    parentName := ← fields.required "parent_name" text?
    attributeName := ← fields.required "attribute_name" text?
    elementName := ← fields.required "object_class_name" text?
    hint := ← fields.required "type_annotation" TypeHint.ofJson?
    service := ← fields.required "service_name" ServiceName.ofJson?
    methods := ← fields.required "methods" (list? Method.ofJson?) }

/-- The resource that a JSON value stands for. -/
def Resource.ofJson? (json : Json) : Option Resource := do
  let fields ← json.fields? ["name", "service_name", "methods", "attributes", "collections"]
  some {
    name := ← fields.required "name" text?
    service := ← fields.required "service_name" ServiceName.ofJson?
    methods := ← fields.required "methods" (list? Method.ofJson?)
    attributes := ← fields.required "attributes" (list? Attribute.ofJson?)
    collections := ← fields.required "collections" (list? Collection.ofJson?) }

/-- The service resource that a JSON value stands for. -/
def ServiceResource.ofJson? (json : Json) : Option ServiceResource := do
  let fields ← json.fields? ["name", "service_name", "methods", "attributes", "collections",
    "sub_resources"]
  some {
    name := ← fields.required "name" text?
    service := ← fields.required "service_name" ServiceName.ofJson?
    methods := ← fields.required "methods" (list? Method.ofJson?)
    attributes := ← fields.required "attributes" (list? Attribute.ofJson?)
    collections := ← fields.required "collections" (list? Collection.ofJson?)
    subResources := ← fields.required "sub_resources" (list? Resource.ofJson?) }

end ResourceStubs
