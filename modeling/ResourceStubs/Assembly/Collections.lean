import ResourceStubs.Oracle.Shapes
import ResourceStubs.Stub.Resource

/-! The collection classes of a resource. Each has the methods of a collection manager: everything,
a filter, the batch actions of its resources, limits, pages and iteration. -/

namespace ResourceStubs

/-- The known method of a name, or else one that takes any keywords. -/
def knownOr (known : Dict Method) (name : String) (returns : TypeHint) : Method :=
  (known.get? name).getD (.ofSignature name [Argument.self, Argument.keywords] returns)

/-- What a batch action returns unless it is known: an answer for each call it takes. -/
def batchHint : TypeHint := .list (.dict .str .any)

/-- The methods of a collection class whose elements have the type `element`. -/
def managerMethods (known : Dict Method) (collection : CollectionSchema)
    (itself element : TypeHint) : List Method :=
  let count := Argument.typed "count" .int
  [.ofSignature "all" [Argument.self] itself, knownOr known "filter" itself]
    ++ collection.batchActions.map (knownOr known ·.name batchHint)
    ++ [.ofSignature "limit" [Argument.self, count] itself,
      .ofSignature "page_size" [Argument.self, count] itself,
      .ofSignature "pages" [Argument.self] (.iterator (.list element)),
      .ofSignature "__iter__" [Argument.self] (.iterator element)]

/-- The class of a collection with a target, which the oracle is asked about by its class name. -/
def collectionClass (oracle : Oracle) (service : ServiceName) (parentName : String)
    (collection : CollectionSchema) (target : Target) : Except Error Collection := do
  let name := collectionClassName parentName collection.name
  let element := TypeHint.reference target.typeName service.name true
  let known ← oracle.methodsOf name
  return {
    name
    parentName
    attributeName := collection.name
    elementName := target.typeName
    hint := element
    service
    methods := managerMethods known collection (.reference name service.name false) element }

/-- The collections that have a target, each with it. -/
def Schema.targetedCollections (schema : Schema) : List (CollectionSchema × Target) :=
  schema.collections.filterMap fun collection => collection.target?.map (collection, ·)

/-- The collection classes of a resource, for its collections that have a target. -/
def ResourceInstance.collectionClasses (resource : ResourceInstance) (oracle : Oracle)
    (service : ServiceName) (parentName : String) : Except Error (List Collection) :=
  resource.schema.targetedCollections.mapM fun (collection, target) =>
    collectionClass oracle service parentName collection target

end ResourceStubs
