import ResourceStubs.Model.Resource
import ResourceStubs.Model.Service
import ResourceStubs.Model.Waiter
import ResourceStubs.Proofs.Json.Alike

/-! What values are alike as documents of a service, for each kind of record in them: its known
fields, and what it is for the value of each field to be alike. In any record, at any depth, the
fields may come in another order and have unknown ones beside them, and the same is decoded. The
decoder of a record does not tell alike values apart because it reads the fields by such decoders;
only a shape takes more, since it is first told by its kind. -/

namespace ResourceStubs

open Json

/-! ### The service model -/

namespace ShapeRef

/-- The known fields, none of which has others in it. -/
def fields : List (String × Likeness) := [("shape", Eq), ("documentation", Eq)]

def Alike : Likeness := RecordAlike fields

theorem respects : Respects Alike ofJson? := .record fun here there each => by
  have shape := each.required (.equal text?) "shape" (by simp [fields])
  have documentation := each.optional (.equal text?) "documentation" (by simp [fields])
  simp only [shape, documentation]

end ShapeRef

namespace Shape

/-- The known fields of each kind of shape. -/
def fields : String → List (String × Likeness)
  | "structure" => [("members", MapAlike ShapeRef.Alike), ("required", Eq)]
  | "list" => [("member", ShapeRef.Alike)]
  | "map" => [("key", ShapeRef.Alike), ("value", ShapeRef.Alike)]
  | "string" => [("enum", Eq)]
  | _ => []

/-- Shapes that are alike have the same kind. All of a shape is kept until the kind is known, so
both have a part that cannot be kept or neither has. -/
inductive Alike : Likeness
  | same (json : Json) : Alike json json
  | object {kind : String} {members others : List (String × Json)}
      (kept : (Json.object members).usable = (Json.object others).usable)
      (type : members.lookup "type" = some (.string kind))
      (once : Once ("type" :: (fields kind).map Prod.fst) members)
      (once' : Once ("type" :: (fields kind).map Prod.fst) others)
      (each : FieldsAlike (("type", Eq) :: fields kind) members others) :
      Alike (.object members) (.object others)
  | array {kind : String} {items others : List Json}
      (kept : (Json.array (.string kind :: items)).usable =
        (Json.array (.string kind :: others)).usable)
      (content : RecordAlike (fields kind) (.array items) (.array others)) :
      Alike (.array (.string kind :: items)) (.array (.string kind :: others))

theorem refl_of_mem_fields {kind : String} :
    ∀ field ∈ ("type", Eq) :: fields kind, ∀ json, field.2 json json := by
  unfold fields
  split <;> simp [MapAlike.same, ShapeRef.Alike, RecordAlike.same]

/-- The fields of a shape may come in another order, and so may the kind among them. -/
theorem Alike.of_perm {kind : String} {members others : List (String × Json)}
    (type : members.lookup "type" = some (.string kind)) (nodup : (members.map Prod.fst).Nodup)
    (perm : members.Perm others) : Alike (.object members) (.object others) := by
  have once := once_of_nodup nodup ("type" :: (fields kind).map Prod.fst)
  refine .object ?_ type once (once.perm perm) (.of_perm refl_of_mem_fields once perm)
  rw [usable_object, usable_object, perm.all_eq]

/-- A shape may have unknown fields, if these can be kept. -/
theorem Alike.of_insert {kind : String} {before after : List (String × Json)}
    (type : (before ++ after).lookup "type" = some (.string kind))
    (nodup : ((before ++ after).map Prod.fst).Nodup) {name : String}
    (unknown : name ∉ "type" :: (fields kind).map Prod.fst) {json : Json}
    (kept : json.usable = true) :
    Alike (.object (before ++ after)) (.object (before ++ (name, json) :: after)) := by
  have once := once_of_nodup nodup ("type" :: (fields kind).map Prod.fst)
  refine .object ?_ type once (once.insert unknown json)
    (.of_insert refl_of_mem_fields unknown json)
  simp [usable_object, kept]

/-- The kind of an object is its member `type`, and its content has all others. -/
theorem kind?_object {kind : String} {members : List (String × Json)} {names : List String}
    (kept : (Json.object members).usable = true) (once : Once ("type" :: names) members)
    (type : members.lookup "type" = some (.string kind)) :
    kind? (.object members) = some (kind, .object (members.filter (·.1 != "type"))) := by
  have single := Dict.filter_key_eq_singleton (once.nodup_filter (· == "type") (by simp)) type
  rw [kind?, if_pos kept]
  simp only [single]

/-- Without its kind an object has its other fields once, and they are alike as before. -/
theorem recordAlike_filter {fields : List (String × Likeness)}
    {members others : List (String × Json)} (once : Once ("type" :: fields.map Prod.fst) members)
    (once' : Once ("type" :: fields.map Prod.fst) others)
    (each : FieldsAlike (("type", Eq) :: fields) members others) :
    RecordAlike fields (.object (members.filter (·.1 != "type")))
      (.object (others.filter (·.1 != "type"))) := by
  have left {members : List (String × Json)} (once : Once ("type" :: fields.map Prod.fst) members) :
      Once (fields.map Prod.fst) (members.filter (·.1 != "type")) := by
    rw [Once, List.filter_filter]
    refine once.nodup_filter (fun name => (fields.map Prod.fst).contains name && name != "type")
      fun name h => List.mem_cons_of_mem _ ?_
    simpa using (Bool.and_eq_true_iff.mp h).1
  refine .object (left once) (left once') fun field hf => ?_
  rw [Dict.lookup_filter_key _ (· != "type"), Dict.lookup_filter_key _ (· != "type")]
  split
  · exact each field (List.mem_cons_of_mem _ hf)
  · exact .none

theorem kind?_of_not_usable {json : Json} (h : ¬json.usable = true) : kind? json = none := by
  unfold kind?
  exact if_neg h

/-- Shapes that are alike cannot be told apart, or else have the same kind and contents that are
alike as records of this kind. -/
theorem Alike.kind? {json other : Json} (alike : Alike json other) :
    Shape.kind? json = Shape.kind? other ∨ ∃ kind content content',
      Shape.kind? json = some (kind, content) ∧ Shape.kind? other = some (kind, content') ∧
      RecordAlike (fields kind) content content' := by
  cases alike with
  | same => exact .inl rfl
  | @object kind members others kept type once once' each =>
    by_cases usable : (Json.object members).usable = true
    · have type' : others.lookup "type" = some (.string kind) := by
        have rel := each ("type", Eq) List.mem_cons_self
        rw [type] at rel
        generalize others.lookup "type" = found at rel ⊢
        cases rel with
        | some same => rw [← same]
      exact .inr ⟨kind, _, _, kind?_object usable once type,
        kind?_object (kept ▸ usable) once' type', recordAlike_filter once once' each⟩
    · rw [kind?_of_not_usable usable, kind?_of_not_usable (kept ▸ usable)]
      exact .inl rfl
  | @array kind items others kept content =>
    by_cases usable : (Json.array (.string kind :: items)).usable = true
    · refine .inr ⟨kind, .array items, .array others, ?_, ?_, content⟩
      · rw [Shape.kind?, if_pos usable]
      · rw [Shape.kind?, if_pos (kept ▸ usable)]
    · rw [kind?_of_not_usable usable, kind?_of_not_usable (kept ▸ usable)]
      exact .inl rfl

theorem plain?_eq {content content' : Json} (alike : RecordAlike [] content content')
    (shape : Shape) : shape.plain? content = shape.plain? content' := by
  rw [plain?, plain?, Option.map_eq_bind, Option.map_eq_bind]
  exact alike.bind_fields?_eq fun _ _ _ => rfl

theorem respects : Respects Alike ofJson? where
  null_iff h := by cases h <;> simp
  decode_eq {json other} alike := by
    rw [ofJson?, ofJson?]
    rcases alike.kind? with same | ⟨kind, content, content', hkind, hkind', contents⟩
    · rw [same]
    · rw [hkind, hkind']
      simp only [Option.bind_eq_bind, Option.bind_some]
      unfold fields at contents
      split at contents
      · refine contents.bind_fields?_eq fun here there each => ?_
        have members :=
          each.withDefault (Respects.dict ShapeRef.respects) "members" .empty (by simp)
        have required := each.withDefault (.equal (list? text?)) "required" [] (by simp)
        simp only [members, required]
      · refine contents.bind_fields?_eq fun here there each => ?_
        have member := each.required ShapeRef.respects "member" (by simp)
        simp only [member]
      · refine contents.bind_fields?_eq fun here there each => ?_
        have key := each.required ShapeRef.respects "key" (by simp)
        have value := each.required ShapeRef.respects "value" (by simp)
        simp only [key, value]
      · refine contents.bind_fields?_eq fun here there each => ?_
        have values := each.optional (.equal (list? text?)) "enum" (by simp)
        simp only [values]
      · -- the other kinds have no fields of their own
        have plain := plain?_eq contents
        split <;> simp_all

end Shape

namespace Operation

def fields : List (String × Likeness) :=
  [("name", Eq), ("input", ShapeRef.Alike), ("output", ShapeRef.Alike), ("documentation", Eq)]

def Alike : Likeness := RecordAlike fields

theorem respects : Respects Alike ofJson? := .record fun here there each => by
  have name := each.optional (.equal text?) "name" (by simp [fields])
  have input := each.optional ShapeRef.respects "input" (by simp [fields])
  have output := each.optional ShapeRef.respects "output" (by simp [fields])
  have documentation := each.optional (.equal text?) "documentation" (by simp [fields])
  simp only [name, input, output, documentation]

end Operation

namespace ServiceMetadata

def fields : List (String × Likeness) :=
  [("apiVersion", Eq), ("endpointPrefix", Eq), ("serviceId", Eq), ("serviceFullName", Eq),
    ("protocol", Eq)]

def Alike : Likeness := RecordAlike fields

theorem respects : Respects Alike ofJson? := .record fun here there each => by
  have apiVersion := each.optional (.equal text?) "apiVersion" (by simp [fields])
  have endpointPrefix := each.optional (.equal text?) "endpointPrefix" (by simp [fields])
  have serviceId := each.optional (.equal text?) "serviceId" (by simp [fields])
  have serviceFullName := each.optional (.equal text?) "serviceFullName" (by simp [fields])
  have protocol := each.optional (.equal text?) "protocol" (by simp [fields])
  simp only [apiVersion, endpointPrefix, serviceId, serviceFullName, protocol]

end ServiceMetadata

namespace ServiceModel

def fields : List (String × Likeness) :=
  [("metadata", ServiceMetadata.Alike), ("operations", MapAlike Operation.Alike),
    ("shapes", MapAlike Shape.Alike), ("documentation", Eq)]

/-- Service models that are alike. -/
def Alike : Likeness := RecordAlike fields

theorem respects (serviceName : String) : Respects Alike (ofJson? serviceName) :=
  .record fun here there each => by
    have metadata := each.withDefault ServiceMetadata.respects "metadata" .empty (by simp [fields])
    have operations := each.withDefault (Respects.dict Operation.respects) "operations" .empty
      (by simp [fields])
    have shapes :=
      each.withDefault (Respects.dict Shape.respects) "shapes" .empty (by simp [fields])
    have documentation := each.optional (.equal text?) "documentation" (by simp [fields])
    simp only [metadata, operations, shapes, documentation]

end ServiceModel

/-! ### The resource document -/

namespace Binding

/-- Among the known fields is a value that is kept as it is. -/
def fields : List (String × Likeness) :=
  [("target", Eq), ("source", Eq), ("name", Eq), ("path", Eq), ("value", Eq)]

def Alike : Likeness := RecordAlike fields

theorem respects : Respects Alike ofJson? := .record fun here there each => by
  have target := each.required (.equal text?) "target" (by simp [fields])
  have source := each.required (.equal text?) "source" (by simp [fields])
  have name := each.optional (.equal text?) "name" (by simp [fields])
  have path := each.optional (.equal text?) "path" (by simp [fields])
  have value := each.optional (.equal free?) "value" (by simp [fields])
  simp only [target, source, name, path, value]

end Binding

namespace Request

def fields : List (String × Likeness) := [("operation", Eq), ("params", ListAlike Binding.Alike)]

def Alike : Likeness := RecordAlike fields

theorem respects : Respects Alike ofJson? := .record fun here there each => by
  have operation := each.required (.equal text?) "operation" (by simp [fields])
  have params := each.withDefault (Respects.list Binding.respects) "params" [] (by simp [fields])
  simp only [operation, params]

end Request

namespace Target

def fields : List (String × Likeness) :=
  [("type", Eq), ("identifiers", ListAlike Binding.Alike), ("path", Eq)]

def Alike : Likeness := RecordAlike fields

theorem respects : Respects Alike ofJson? := .record fun here there each => by
  have typeName := each.required (.equal text?) "type" (by simp [fields])
  have identifiers := each.withDefault (Respects.list Binding.respects) "identifiers" []
    (by simp [fields])
  have path := each.optional (.equal text?) "path" (by simp [fields])
  simp only [typeName, identifiers, path]

end Target

namespace IdentifierDefinition

def fields : List (String × Likeness) := [("name", Eq), ("memberName", Eq)]

def Alike : Likeness := RecordAlike fields

theorem respects : Respects Alike ofJson? := .record fun here there each => by
  have name := each.required (.equal text?) "name" (by simp [fields])
  have memberName := each.optional (.equal text?) "memberName" (by simp [fields])
  simp only [name, memberName]

end IdentifierDefinition

namespace ActionDefinition

def fields : List (String × Likeness) :=
  [("request", Request.Alike), ("resource", Target.Alike), ("path", Eq)]

def Alike : Likeness := RecordAlike fields

theorem respects : Respects Alike ofJson? := .record fun here there each => by
  have request := each.optional Request.respects "request" (by simp [fields])
  have resource := each.optional Target.respects "resource" (by simp [fields])
  have path := each.optional (.equal text?) "path" (by simp [fields])
  simp only [request, resource, path]

end ActionDefinition

namespace LoadDefinition

def fields : List (String × Likeness) := [("request", Request.Alike), ("path", Eq)]

def Alike : Likeness := RecordAlike fields

theorem respects : Respects Alike ofJson? := .record fun here there each => by
  have request := each.required Request.respects "request" (by simp [fields])
  have path := each.optional (.equal text?) "path" (by simp [fields])
  simp only [request, path]

end LoadDefinition

namespace WaiterDefinition

def fields : List (String × Likeness) :=
  [("waiterName", Eq), ("params", ListAlike Binding.Alike), ("path", Eq)]

def Alike : Likeness := RecordAlike fields

theorem respects : Respects Alike ofJson? := .record fun here there each => by
  have waiterName := each.required (.equal text?) "waiterName" (by simp [fields])
  have params := each.withDefault (Respects.list Binding.respects) "params" [] (by simp [fields])
  have path := each.optional (.equal text?) "path" (by simp [fields])
  simp only [waiterName, params, path]

end WaiterDefinition

namespace ResourceDefinition

/-- Values alike as related resources, which have only their target. -/
def RelatedAlike : Likeness := RecordAlike [("resource", Target.Alike)]

theorem respects_related : Respects RelatedAlike related? := .record fun here there each =>
  each.required Target.respects "resource" (by simp)

def fields : List (String × Likeness) :=
  [("identifiers", ListAlike IdentifierDefinition.Alike), ("shape", Eq),
    ("load", LoadDefinition.Alike), ("actions", MapAlike ActionDefinition.Alike),
    ("batchActions", MapAlike ActionDefinition.Alike), ("waiters", MapAlike WaiterDefinition.Alike),
    ("has", MapAlike RelatedAlike), ("hasMany", MapAlike ActionDefinition.Alike)]

def Alike : Likeness := RecordAlike fields

theorem respects : Respects Alike ofJson? := .record fun here there each => by
  have identifiers :=
    each.withDefault (Respects.list IdentifierDefinition.respects) "identifiers" []
    (by simp [fields])
  have shape := each.optional (.equal text?) "shape" (by simp [fields])
  have load := each.optional LoadDefinition.respects "load" (by simp [fields])
  have actions := each.withDefault (Respects.dict ActionDefinition.respects) "actions" .empty
    (by simp [fields])
  have batchActions :=
    each.withDefault (Respects.dict ActionDefinition.respects) "batchActions" .empty
    (by simp [fields])
  have waiters := each.withDefault (Respects.dict WaiterDefinition.respects) "waiters" .empty
    (by simp [fields])
  have has := each.withDefault (Respects.dict respects_related) "has" .empty (by simp [fields])
  have hasMany := each.withDefault (Respects.dict ActionDefinition.respects) "hasMany" .empty
    (by simp [fields])
  simp only [identifiers, shape, load, actions, batchActions, waiters, has, hasMany]

end ResourceDefinition

namespace ResourceDocument

def fields : List (String × Likeness) :=
  [("service", ResourceDefinition.Alike), ("resources", MapAlike ResourceDefinition.Alike)]

/-- Resource documents that are alike. -/
def Alike : Likeness := RecordAlike fields

theorem respects : Respects Alike ofJson? := .record fun here there each => by
  have service := each.optional ResourceDefinition.respects "service" (by simp [fields])
  have resources := each.withDefault (Respects.dict ResourceDefinition.respects) "resources" .empty
    (by simp [fields])
  simp only [service, resources]

end ResourceDocument

/-! ### The waiter model -/

namespace WaiterConfig

/-- Among the known fields are the acceptors, which are kept as they are. -/
def fields : List (String × Likeness) :=
  [("operation", Eq), ("delay", Eq), ("maxAttempts", Eq), ("description", Eq), ("acceptors", Eq)]

def Alike : Likeness := RecordAlike fields

theorem respects : Respects Alike ofJson? := .record fun here there each => by
  have operation := each.required (.equal text?) "operation" (by simp [fields])
  have delay := each.required (.equal word32?) "delay" (by simp [fields])
  have maxAttempts := each.required (.equal word32?) "maxAttempts" (by simp [fields])
  have description := each.optional (.equal text?) "description" (by simp [fields])
  have acceptors := each.withDefault (.equal (list? free?)) "acceptors" [] (by simp [fields])
  simp only [operation, delay, maxAttempts, description, acceptors]

end WaiterConfig

namespace WaiterModel

def fields : List (String × Likeness) := [("version", Eq), ("waiters", MapAlike WaiterConfig.Alike)]

/-- Waiter models that are alike. -/
def Alike : Likeness := RecordAlike fields

theorem respects : Respects Alike ofJson? := .record fun here there each => by
  have version := each.withDefault (.equal word32?) "version" 0 (by simp [fields])
  have waiters := each.withDefault (Respects.dict WaiterConfig.respects) "waiters" .empty
    (by simp [fields])
  simp only [version, waiters]

end WaiterModel

end ResourceStubs
