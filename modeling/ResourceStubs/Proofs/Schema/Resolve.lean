import ResourceStubs.Proofs.Dict
import ResourceStubs.Proofs.Fallible
import ResourceStubs.Schema

/-! Resolving a definition. All of a schema but its collections can be read off the definition
alone: this is the outline. The collections need the other resource types of the service, and
resolving fails exactly when one of them leads to a resource type that is not there. -/

namespace ResourceStubs

open Fallible

namespace Schema

/-- The schema of a definition, without its collections. -/
def outline (name : String) (definition : ResourceDefinition) : Schema where
  name
  shape := definition.shape
  identifiers := definition.identifiers.map fun i => ⟨Naming.snakeCase i.name, i.memberName⟩
  load := definition.load
  actions := definition.actions.entries.map actionOf
  waiters := definition.waiters.entries.map waiterOf
  subResources := (definition.has.entries.filter (!·.2.requiresData)).map fun related =>
    .subResource related.1 related.2
  references := (definition.has.entries.filter (·.2.requiresData)).map fun related =>
    ⟨Naming.snakeCase related.1, related.2⟩
  collections := []

theorem resolve_eq (name : String) (definition : ResourceDefinition)
    (resources : Dict ResourceDefinition) :
    resolve name definition resources =
      (definition.hasMany.entries.mapM (collectionOf resources)).map fun collections =>
        { outline name definition with collections } := by
  simp only [resolve, List.partition_eq_filter_filter, outline]
  cases definition.hasMany.entries.mapM (collectionOf resources) <;> rfl

/-- The order of the other resource types is of no account. -/
theorem resolve_of_perm {resources resources' : Dict ResourceDefinition}
    (h : resources.entries.Perm resources'.entries) :
    (resolve · · resources) = (resolve · · resources') := by
  have hcollections : collectionOf resources = collectionOf resources' := by
    funext declared
    rw [collectionOf, collectionOf, batchActionsOf, batchActionsOf, Dict.get?_of_perm h]
  funext name definition
  rw [resolve_eq, resolve_eq, hcollections]

/-- What a schema that was resolved consists of. -/
theorem resolve_eq_ok {name : String} {definition : ResourceDefinition}
    {resources : Dict ResourceDefinition} {schema : Schema}
    (h : resolve name definition resources = .ok schema) :
    ∃ collections, definition.hasMany.entries.mapM (collectionOf resources) = .ok collections ∧
      schema = { outline name definition with collections } := by
  rw [resolve_eq, map_eq_ok] at h
  obtain ⟨collections, hc, rfl⟩ := h
  exact ⟨collections, hc, rfl⟩

theorem batchActionsOf_decides (resources : Dict ResourceDefinition)
    (declared : String × ActionDefinition) :
    Decides (batchActionsOf resources declared)
      (∀ target, declared.2.resource = some target → target.typeName ∈ resources.keys) := by
  unfold batchActionsOf
  cases ht : declared.2.resource with
  | none => exact .of_eq_ok rfl (by simp)
  | some target =>
    cases he : resources.get? target.typeName with
    | none =>
      refine .of_told (by simp [he]; rfl) fun h => ?_
      exact Dict.get?_eq_none_iff.mp he (h target rfl)
    | some element =>
      refine .of_eq_ok (by simp [he]; rfl) fun other ho => ?_
      obtain rfl := Option.some.inj ho
      exact Dict.mem_keys_iff.mpr ⟨element, he⟩

theorem collectionOf_decides (resources : Dict ResourceDefinition)
    (declared : String × ActionDefinition) :
    Decides (collectionOf resources declared)
      (∀ target, declared.2.resource = some target → target.typeName ∈ resources.keys) :=
  (batchActionsOf_decides resources declared).bind_pure _

end Schema

namespace ResourceDefinition

/-- Every collection that leads to a resource type leads to one that is there. -/
def CollectionsResolve (definition : ResourceDefinition) (resources : Dict ResourceDefinition) :
    Prop :=
  ∀ declared ∈ definition.hasMany.entries, ∀ target, declared.2.resource = some target →
    target.typeName ∈ resources.keys

theorem resolve_decides (name : String) (definition : ResourceDefinition)
    (resources : Dict ResourceDefinition) :
    Decides (Schema.resolve name definition resources)
      (definition.CollectionsResolve resources) := by
  rw [Schema.resolve_eq]
  exact (Settles.mapM fun declared _ => Schema.collectionOf_decides resources declared).map _

end ResourceDefinition

end ResourceStubs
