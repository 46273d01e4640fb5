import ResourceStubs.Oracle.Shapes
import ResourceStubs.Stub.Resource

/-! The classes that stubs refer to. A hint refers to classes at any depth, each of a service. Stub
classes belong to a service if it is the service of them all and of everything that their hints
refer to. -/

namespace ResourceStubs

namespace TypeHint

/-- The classes that a hint refers to, at any depth, each with its service. -/
def references : TypeHint → List (String × String)
  | reference name service _ => [(name, service)]
  | list item | iterator item => item.references
  | dict key value => key.references ++ value.references
  | any | nothing | str | int | float | bool | bytes | dateTime | literal _ _ | typeDef _ => []

/-- The hint refers to no class but those of the service. -/
def BelongsTo (service : String) (hint : TypeHint) : Prop :=
  ∀ reference ∈ hint.references, reference.2 = service

variable {service : String}

theorem BelongsTo.of_references_eq_nil {hint : TypeHint} (h : hint.references = []) :
    hint.BelongsTo service := by
  simp [BelongsTo, h]

theorem belongsTo_reference (name : String) (quoted : Bool) :
    (reference name service quoted).BelongsTo service := by
  simp [BelongsTo, references]

theorem BelongsTo.list {item : TypeHint} (h : item.BelongsTo service) :
    (TypeHint.list item).BelongsTo service := h

theorem BelongsTo.iterator {item : TypeHint} (h : item.BelongsTo service) :
    (TypeHint.iterator item).BelongsTo service := h

theorem belongsTo_hint (target : Target) : (target.hint service).BelongsTo service := by
  rw [Target.hint, listIf]
  split
  · exact (belongsTo_reference _ _).list
  · exact belongsTo_reference _ _

example : (dict str (list (reference "Item" "shop" true))).references = [("Item", "shop")] := rfl

end TypeHint

/-! ### Methods -/

namespace Argument

/-- The hint of the argument, if it has one, belongs to the service. -/
def BelongsTo (service : String) (argument : Argument) : Prop :=
  ∀ hint, argument.hint = some hint → hint.BelongsTo service

variable {service : String}

theorem belongsTo_self : self.BelongsTo service := nofun

theorem belongsTo_keywordMark : keywordMark.BelongsTo service := nofun

theorem belongsTo_typed {hint : TypeHint} (h : hint.BelongsTo service) (name : String) :
    (typed name hint).BelongsTo service := by
  rintro _ ⟨⟩
  exact h

theorem belongsTo_keywords : keywords.BelongsTo service := by
  rintro _ ⟨⟩
  exact .of_references_eq_nil rfl

end Argument

namespace Method

/-- The hints of the arguments and of what is returned. -/
def hints (method : Method) : List TypeHint :=
  method.arguments.filterMap (·.hint) ++ [method.returns]

/-- All hints of the method belong to the service. -/
def BelongsTo (service : String) (method : Method) : Prop :=
  ∀ hint ∈ method.hints, hint.BelongsTo service

theorem belongsTo_ofSignature {service name : String} {arguments : List Argument}
    {returns : TypeHint} (harguments : ∀ argument ∈ arguments, argument.BelongsTo service)
    (hreturns : returns.BelongsTo service) :
    (ofSignature name arguments returns).BelongsTo service := by
  intro hint hmem
  rcases List.mem_append.mp hmem with hmem | hmem
  · obtain ⟨argument, hargument, heq⟩ := List.mem_filterMap.mp hmem
    exact harguments argument hargument hint heq
  · obtain rfl := List.mem_singleton.mp hmem
    exact hreturns

/-- A method that takes any keywords belongs to the service if what it returns does. -/
theorem belongsTo_of_keywords {service name : String} {returns : TypeHint}
    (h : returns.BelongsTo service) :
    (ofSignature name [Argument.self, Argument.keywords] returns).BelongsTo service :=
  belongsTo_ofSignature (by simp [Argument.belongsTo_self, Argument.belongsTo_keywords]) h

/-- A method without arguments belongs to the service if what it returns does. -/
theorem belongsTo_of_self {service name : String} {returns : TypeHint}
    (h : returns.BelongsTo service) :
    (ofSignature name [Argument.self] returns).BelongsTo service :=
  belongsTo_ofSignature (by simp [Argument.belongsTo_self]) h

end Method

/-! ### Classes -/

/-- The hints of a collection class: its elements and its methods. -/
def Collection.hints (collection : Collection) : List TypeHint :=
  collection.hint :: collection.methods.flatMap Method.hints

/-- The hints of a resource class: its methods, its attributes and its collections. -/
def Resource.hints (resource : Resource) : List TypeHint :=
  resource.methods.flatMap Method.hints ++ resource.attributes.map (·.hint) ++
    resource.collections.flatMap Collection.hints

/-- The hints of all stub classes of a service. -/
def ServiceResource.hints (root : ServiceResource) : List TypeHint :=
  root.methods.flatMap Method.hints ++ root.attributes.map (·.hint) ++
    root.collections.flatMap Collection.hints ++ root.subResources.flatMap Resource.hints

/-- The collection class is one of the service, and so is everything that its hints refer to. -/
structure Collection.BelongsTo (service : ServiceName) (collection : Collection) : Prop where
  own : collection.service = service
  hints : ∀ hint ∈ collection.hints, hint.BelongsTo service.name

/-- The resource class and its collection classes are those of the service, and so is everything
that their hints refer to. -/
structure Resource.BelongsTo (service : ServiceName) (resource : Resource) : Prop where
  own : resource.service = service
  collections : ∀ collection ∈ resource.collections, collection.service = service
  hints : ∀ hint ∈ resource.hints, hint.BelongsTo service.name

/-- All stub classes are those of the service, and so is everything that their hints refer to. -/
structure ServiceResource.BelongsTo (service : ServiceName) (root : ServiceResource) : Prop where
  own : root.service = service
  subResources : ∀ resource ∈ root.subResources, resource.service = service
  collections : ∀ collection ∈ root.allCollections, collection.service = service
  hints : ∀ hint ∈ root.hints, hint.BelongsTo service.name

theorem Resource.belongsTo_of_parts {service : ServiceName} {resource : Resource}
    (hown : resource.service = service)
    (hmethods : ∀ method ∈ resource.methods, method.BelongsTo service.name)
    (hattributes : ∀ member ∈ resource.attributes, member.hint.BelongsTo service.name)
    (hcollections : ∀ collection ∈ resource.collections, collection.BelongsTo service) :
    resource.BelongsTo service := by
  refine ⟨hown, fun collection hmem => (hcollections collection hmem).own, ?_⟩
  simp only [hints, List.forall_mem_append, List.forall_mem_flatMap, List.forall_mem_map]
  exact ⟨⟨hmethods, hattributes⟩, fun collection hmem => (hcollections collection hmem).hints⟩

theorem ServiceResource.belongsTo_ofResource {service : ServiceName} {body : Resource}
    {subResources : List Resource} (hbody : body.BelongsTo service)
    (hothers : ∀ resource ∈ subResources, resource.BelongsTo service) :
    (ofResource body subResources).BelongsTo service where
  own := hbody.own
  subResources resource hmem := (hothers resource hmem).own
  collections := by
    simp only [allCollections, List.forall_mem_append, List.forall_mem_flatMap]
    exact ⟨hbody.collections, fun resource hmem => (hothers resource hmem).collections⟩
  hints := by
    refine List.forall_mem_append.mpr ⟨hbody.hints, ?_⟩
    exact List.forall_mem_flatMap.mpr fun resource hmem => (hothers resource hmem).hints

end ResourceStubs
