import ResourceStubs.Proofs.Assembly.CollectionNames
import ResourceStubs.Proofs.Assembly.Skeleton
import ResourceStubs.Proofs.Session.Enumeration

/-! What collections lead to. A declared collection with a target can only be resolved if the
document declares the resource type that it leads to. So each collection class of a run has the
methods of a manager of a declared type, and that type is among the resources that the run has
enumerated. -/

namespace ResourceStubs

open Fallible

/-- The names of the methods of a collection of resources of the type. -/
def ResourceDefinition.managerNames (definition : ResourceDefinition) : List String :=
  ["all", "filter"] ++ definition.batchActions.keys.map Naming.snakeCase ++
    ["limit", "page_size", "pages", "__iter__"]

/-- The collection class is that of a declared collection: it leads to a resource type that the
document declares, and has the methods of a manager of it. -/
structure Collection.Manages (document : ResourceDocument) (declared : String × ActionDefinition)
    (collection : Collection) : Prop where
  attributeName : collection.attributeName = Naming.snakeCase declared.1
  target : declared.2.resource.map (·.typeName) = some collection.elementName
  methods : ∃ definition, document.resources.get? collection.elementName = some definition ∧
    collection.methods.map (·.name) = definition.managerNames

/-- The collection classes are those of the collections with a target that the definition declares,
in their order. -/
def ResourceDefinition.ManagedBy (definition : ResourceDefinition) (document : ResourceDocument)
    (collections : List Collection) : Prop :=
  List.Forall₂ (fun declared collection => collection.Manages document declared)
    definition.targetedCollections collections

theorem ResourceDefinition.ManagedBy.elementName_mem {definition : ResourceDefinition}
    {document : ResourceDocument} {collections : List Collection}
    (h : definition.ManagedBy document collections) {collection : Collection}
    (hmem : collection ∈ collections) : collection.elementName ∈ document.resources.keys := by
  obtain ⟨declared, -, hmanages⟩ := exists_of_forall₂_of_mem h.flip hmem
  obtain ⟨element, helement, -⟩ := hmanages.methods
  exact Dict.mem_keys_iff.mpr ⟨element, helement⟩

/-! ### The methods of a manager -/

theorem names_managerMethods {known : Dict Method} (h : KeyedByName known)
    {collection : CollectionSchema} {definition : ResourceDefinition}
    (hactions : collection.batchActions = definition.batchActions.entries.map Schema.batchActionOf)
    (itself element : TypeHint) :
    (managerMethods known collection itself element).map (·.name) = definition.managerNames := by
  have hbatch : (collection.batchActions.map (knownOr known ·.name batchHint)).map (·.name) =
      definition.batchActions.keys.map Naming.snakeCase := by
    rw [hactions, Dict.keys, List.map_map, List.map_map, List.map_map]
    exact List.map_congr_left fun declared _ => name_knownOr h _ _
  simp [managerMethods, ResourceDefinition.managerNames, hbatch, name_knownOr h, Method.ofSignature]

theorem manages_of_collectionClass {oracle : Oracle} (hkeyed : oracle.KeyedByName)
    {service : ServiceName} {parentName : String} {document : ResourceDocument}
    {declared : String × ActionDefinition} {resolved : CollectionSchema × Target}
    (hresolves : Schema.Resolves document.resources declared resolved) {collection : Collection}
    (h : collectionClass oracle service parentName resolved.1 resolved.2 = .ok collection) :
    collection.Manages document declared := by
  obtain ⟨known, hknown, h⟩ := bind_eq_ok.mp h
  obtain rfl := pure_eq_ok.mp h
  obtain ⟨definition, hdefinition, hactions⟩ := hresolves.batchActions
  exact ⟨hresolves.name, by rw [hresolves.target]; rfl, definition, hdefinition,
    names_managerMethods (hkeyed (some _) known hknown) hactions _ _⟩

/-- The class of a declared resource type has a collection class for each of its collections with a
target. -/
theorem managedBy_of_body {oracle : Oracle} (hkeyed : oracle.KeyedByName) {service : ServiceName}
    {limit : Nat} {document : ResourceDocument} {declared : String × ResourceDefinition}
    {resource : ResourceInstance} (hdeclares : Session.Declares document declared resource)
    {name stubName : String} {known : Dict Method} {stub : Resource}
    (h : resource.body oracle service limit name stubName known = .ok stub) :
    declared.2.ManagedBy document stub.collections := by
  obtain ⟨-, -, hclasses⟩ := resource.parts_of_body h
  obtain ⟨collections, hcollections, hschema⟩ := Schema.resolve_eq_ok hdeclares.schema
  have hresolves : List.Forall₂ (Schema.Resolves document.resources)
      declared.2.targetedCollections resource.schema.targetedCollections := by
    rw [hschema]
    exact Schema.resolves_of_mapM hcollections
  refine forall₂_comp (fun _ _ _ hr hclass => ?_) hresolves (mapM_eq_ok.mp hclasses)
  exact manages_of_collectionClass hkeyed hr hclass

namespace Session

/-- With a table of signatures, however it is filled, every class has a collection class for each
collection with a target that its definition declares, in their order. It leads to a resource type
of the document and has the methods of a manager of it, and no collection leads anywhere but to one
of the enumerated resources. -/
theorem collections_of_stubs (session : Session) (service : ServiceName) (limit : Nat)
    {table : SignatureTable} (htable : table.Filled) {root : ServiceResource}
    (h : session.stubs table.oracle service limit = .ok (some root)) :
    ∃ parent resources, session.resource service = .ok (some parent) ∧
      session.resourceDocument service.name = .ok (some parent.document) ∧
      session.subResources service parent = .ok resources ∧
      parent.document.root.ManagedBy parent.document root.collections ∧
      List.Forall₂ (fun declared stub => declared.2.ManagedBy parent.document stub.collections)
        parent.document.resources.entries root.subResources ∧
      ∀ collection ∈ root.allCollections, ∃! i : Nat, ∃ resource, resources[i]? = some resource ∧
        resource.type.name = collection.elementName := by
  have hkeyed := SignatureTable.keyedByName_oracle htable
  obtain ⟨parent, resources, body, hparent, hresources, hbody, hclasses, hroot⟩ :=
    exists_resources_of_stubs h
  obtain ⟨hdocument, hdeclares⟩ := declares_of_resource hparent
  have henumerates := enumerates_of_subResources hresources
  obtain ⟨_, -, hbody⟩ := bind_eq_ok.mp hbody
  have hothers : List.Forall₂ (fun declared stub =>
        declared.2.ManagedBy parent.document stub.collections)
      parent.document.resources.entries root.subResources := by
    refine forall₂_comp (fun declared resource stub hd hstub => ?_) henumerates.declares
      (mapM_eq_ok.mp hclasses)
    obtain ⟨_, -, hstub⟩ := bind_eq_ok.mp hstub
    exact managedBy_of_body hkeyed hd hstub
  have hmine : parent.document.root.ManagedBy parent.document root.collections := by
    rw [hroot]
    exact managedBy_of_body hkeyed hdeclares hbody
  refine ⟨parent, resources, hparent, hdocument, hresources, hmine, hothers,
    fun collection hcollection => henumerates.existsUnique ?_⟩
  rcases List.mem_append.mp hcollection with hmem | hmem
  · exact hmine.elementName_mem hmem
  · obtain ⟨stub, hstub, hmem⟩ := List.mem_flatMap.mp hmem
    obtain ⟨declared, -, hmanaged⟩ : ∃ declared ∈ parent.document.resources.entries,
        declared.2.ManagedBy parent.document stub.collections :=
      exists_of_forall₂_of_mem hothers.flip hstub
    exact hmanaged.elementName_mem hmem

/-- The collection of a shop manages its items. -/
theorem collections_of_stubs_shop : ∃ root parent resources,
    Shop.store.session.stubs Shop.signatures.oracle Shop.service 120 = .ok (some root) ∧
      Shop.store.session.subResources Shop.service parent = .ok resources ∧
      Shop.document.root.ManagedBy Shop.document root.collections ∧
      ∀ collection ∈ root.allCollections, ∃! i : Nat, ∃ resource, resources[i]? = some resource ∧
        resource.type.name = collection.elementName := by
  have hkeyed := SignatureTable.keyedByName_oracle Shop.filled_signatures
  obtain ⟨root, h⟩ := Shop.exists_stubs hkeyed Shop.signatures.total_oracle 120
  obtain ⟨parent, resources, -, hdocument, hresources, hown, -, hleads⟩ :=
    collections_of_stubs _ _ _ Shop.filled_signatures h
  have hshop : Shop.document = parent.document := Option.some.inj (Except.ok.inj hdocument)
  exact ⟨root, parent, resources, h, hresources, hshop ▸ hown, hleads⟩

end Session

end ResourceStubs
