import ResourceStubs.Proofs.Assembly.Method
import ResourceStubs.Proofs.Model.Hint
import ResourceStubs.Proofs.Schema.Callables
import ResourceStubs.Proofs.Session.Instances

/-! When the stub classes of a service can be made. A definition is sound in its documents if its
collections lead to resource types that are there, its public actions call operations that are
there, and its data has a hint for each attribute. The class of a resource is made exactly if its
definition is sound, and the run succeeds exactly if all definitions are and the service model is
that of the service. -/

namespace ResourceStubs

open Fallible

/-- The operation that an action requests is there. Nothing is asked of other callables. -/
def Callable.IsServed (model : ServiceModel) : Callable → Prop
  | .action _ definition =>
    ∀ operation, definition.operation? = some operation → operation ∈ model.operations.keys
  | _ => True

namespace ResourceDefinition

/-- The public actions of the definition request operations that are there. -/
def ActionsServed (definition : ResourceDefinition) (model : ServiceModel) : Prop :=
  ∀ called callable, definition.publicCallables.get? called = some callable →
    callable.IsServed model

/-- It is enough that all actions request operations that are there. -/
theorem ActionsServed.of_forall_actions {definition : ResourceDefinition}
    {model : ServiceModel}
    (h : ∀ declared ∈ definition.actions.entries, ∀ operation,
      declared.2.operation? = some operation → operation ∈ model.operations.keys) :
    definition.ActionsServed model := by
  intro called callable hc
  rw [ResourceDefinition.publicCallables, Schema.get?_publicCallables] at hc
  have hmem := (List.mem_filter.mp (List.mem_reverse.mp (List.mem_of_find?_eq_some hc))).1
  rcases (Schema.mem_callables _).mp hmem with hd | ⟨-, rfl⟩
  · rcases (Schema.mem_declaredCallables_outline ..).mp hd with
      ⟨declared, ha, rfl⟩ | ⟨_, _, rfl⟩ | ⟨_, _, _, rfl⟩ | ⟨_, _, rfl | rfl⟩
    · exact h declared ha
    all_goals trivial
  · trivial

/-- The declared shape is a structure whose members, but for the identifiers, can be followed to
defined shapes only. -/
def DataMaps (definition : ResourceDefinition) (model : ServiceModel) : Prop :=
  ∀ shape, definition.shape = some shape →
    ∃ members required, model.shapes.get? shape = some (.record members required) ∧
      ∀ member ∈ members.entries,
        Naming.snakeCase member.1 ∉ definition.identifiers.map (Naming.snakeCase ·.name) →
        model.Maps member.2.shape

/-- The declared shape is a structure whose members, but for the identifiers, have shapes of a
kind. -/
def DataHas (definition : ResourceDefinition) (model : ServiceModel) (P : String → Prop) : Prop :=
  ∀ shape, definition.shape = some shape →
    ∃ members required, model.shapes.get? shape = some (.record members required) ∧
      ∀ member ∈ members.entries,
        Naming.snakeCase member.1 ∉ definition.identifiers.map (Naming.snakeCase ·.name) →
        P member.2.shape

/-- All that the definition needs of the other resource types and of the service is there. -/
structure IsSound (definition : ResourceDefinition) (resources : Dict ResourceDefinition)
    (model : ServiceModel) : Prop where
  collections : definition.CollectionsResolve resources
  actions : definition.ActionsServed model
  data : definition.DataMaps model

theorem isSound_iff {definition : ResourceDefinition} {resources : Dict ResourceDefinition}
    {model : ServiceModel} :
    definition.IsSound resources model ↔ definition.CollectionsResolve resources ∧
      definition.ActionsServed model ∧ definition.DataMaps model :=
  ⟨fun h => ⟨h.collections, h.actions, h.data⟩, fun ⟨hc, ha, hd⟩ => ⟨hc, ha, hd⟩⟩

end ResourceDefinition

namespace ResourceInstance

variable (resource : ResourceInstance)

theorem documentation_decides (resourceName : String) (callable : Callable) :
    Decides (resource.documentation resourceName callable)
      (callable.IsServed resource.client.model) := by
  cases callable with
  | action name definition =>
    rw [documentation, Callable.IsServed]
    cases ho : definition.operation? with
    | none => exact .of_eq_ok rfl (by simp)
    | some operation =>
      refine ((resource.client.model.operation_decides operation).bind_pure _).congr ?_
      simp
  | waiter name declaredName definition =>
    rw [documentation]
    split <;> exact .of_eq_ok rfl trivial
  | subResource | load | availableSubresources => exact .of_eq_ok rfl trivial

theorem method_decides (service : ServiceName) (limit : Nat) (name stubName : String)
    {known : Dict Method} (hknown : KeyedByName known) (callable : Callable) :
    Decides (resource.method service limit name stubName known callable)
      (callable.IsServed resource.client.model) :=
  (resource.documentation_decides name callable).of_map_eq
    (resource.method_withoutSignature service limit name stubName hknown callable)

theorem methods_decides (service : ServiceName) (limit : Nat) (name stubName : String)
    {known : Dict Method} (hknown : KeyedByName known) :
    Decides (resource.methods service limit name stubName known)
      (∀ entry ∈ resource.schema.sortedCallables, entry.2.IsServed resource.client.model) :=
  .mapM fun entry _ => resource.method_decides service limit name stubName hknown entry.2

/-- If hints settle a property of shapes, the attributes settle that the members have it. -/
theorem dataAttributes_settles {errors : Error → Prop} (htold : ∀ e, IsTold e → errors e)
    {P : String → Prop}
    (hhint : ∀ name, Settles errors (resource.client.model.hint name) (P name)) :
    Settles errors resource.dataAttributes
      (∀ shape, resource.schema.shape = some shape →
        ∃ members required,
          resource.client.model.shapes.get? shape = some (.record members required) ∧
          ∀ member ∈ members.entries,
            resource.isIdentifier (Naming.snakeCase member.1) = false → P member.2.shape) := by
  rw [dataAttributes]
  cases resource.schema.shape with
  | none => exact .of_eq_ok rfl (by simp)
  | some shape =>
    by_cases hs : ∃ members required,
        resource.client.model.shapes.get? shape = some (.record members required)
    · obtain ⟨members, required, hs⟩ := hs
      have hattribute (member : ServiceModel.Member) :
          Settles errors (resource.memberAttribute member) (P member.ref.shape) :=
        (hhint member.ref.shape).bind_pure _
      dsimp only
      rw [ServiceModel.members_eq_ok hs, ok_bind]
      refine (Settles.mapM fun member _ => hattribute member).congr ?_
      constructor
      · intro h other ho
        obtain rfl := Option.some.inj ho
        refine ⟨members, required, hs, fun member hm hid => ?_⟩
        exact h _ (List.mem_filter.mpr ⟨List.mem_map_of_mem hm, by simpa using hid⟩)
      · intro h own ho
        obtain ⟨members', required', hs', h⟩ := h shape rfl
        cases hs.symm.trans hs'
        obtain ⟨ho, hid⟩ := List.mem_filter.mp ho
        obtain ⟨member, hm, rfl⟩ := List.mem_map.mp ho
        exact h member hm (by simpa using hid)
    · obtain ⟨e, hmembers, he⟩ := (resource.client.model.members_decides shape).exists_error hs
      dsimp only
      rw [hmembers]
      refine .of_eq_error rfl (htold e he) fun h => hs ?_
      obtain ⟨members, required, hm, _⟩ := h shape rfl
      exact ⟨members, required, hm⟩

theorem collectionClasses_eq_ok {oracle : Oracle} (htotal : oracle.Total) (service : ServiceName)
    (parentName : String) :
    ∃ collections, resource.collectionClasses oracle service parentName = .ok collections := by
  have htraversed : Decides (resource.collectionClasses oracle service parentName)
      (∀ entry ∈ resource.schema.targetedCollections, True) := .mapM fun entry _ => by
    obtain ⟨known, hk⟩ := htotal (some (collectionClassName parentName entry.1.name))
    exact Settles.bind_pure (.of_eq_ok hk trivial) _
  exact htraversed.exists_ok fun _ _ => trivial

end ResourceInstance

namespace ServiceContext

section

variable {context : ServiceContext} {declared : String × ResourceDefinition}
  {resource : ResourceInstance} (h : context.instantiate declared = .ok resource)
include h

theorem model_of_instantiate : resource.client.model = context.model := by
  obtain ⟨collections, rfl⟩ := instantiate_eq_ok h
  rfl

theorem shape_of_instantiate : resource.schema.shape = declared.2.shape := by
  obtain ⟨collections, rfl⟩ := instantiate_eq_ok h
  rfl

theorem publicCallables_of_instantiate :
    resource.schema.publicCallables = declared.2.publicCallables := by
  obtain ⟨collections, rfl⟩ := instantiate_eq_ok h
  rfl

theorem sortedCallables_of_instantiate :
    resource.schema.sortedCallables = declared.2.sortedCallables := by
  obtain ⟨collections, rfl⟩ := instantiate_eq_ok h
  rfl

theorem isIdentifier_of_instantiate (called : String) :
    resource.isIdentifier called = false ↔
      called ∉ declared.2.identifiers.map (Naming.snakeCase ·.name) := by
  obtain ⟨collections, rfl⟩ := instantiate_eq_ok h
  simp [ResourceInstance.isIdentifier, ResourceInstance.schema, instanceOf, Schema.outline]

/-- The class of a resource that was instantiated is made if its actions and its data allow it. -/
theorem body_settles {oracle : Oracle} (htotal : oracle.Total) {errors : Error → Prop}
    (htold : ∀ e, IsTold e → errors e) {P : String → Prop}
    (hhint : ∀ name, Settles errors (context.model.hint name) (P name))
    (service : ServiceName) (limit : Nat) (name stubName : String) {known : Dict Method}
    (hknown : KeyedByName known) :
    Settles errors (resource.body oracle service limit name stubName known)
      (declared.2.ActionsServed context.model ∧ declared.2.DataHas context.model P) := by
  have hmethods : Settles errors (resource.methods service limit name stubName known)
      (declared.2.ActionsServed context.model) := by
    refine ((resource.methods_decides service limit name stubName hknown).mono htold).congr ?_
    simp only [Schema.mem_sortedCallables, publicCallables_of_instantiate h,
      model_of_instantiate h, Prod.forall, ← Dict.get?_eq_some_iff]
    rfl
  have hdata : Settles errors resource.dataAttributes (declared.2.DataHas context.model P) := by
    rw [← model_of_instantiate h] at hhint
    refine (resource.dataAttributes_settles htold hhint).congr ?_
    simp only [shape_of_instantiate h, model_of_instantiate h, isIdentifier_of_instantiate h]
    rfl
  obtain ⟨classes, hc⟩ := resource.collectionClasses_eq_ok htotal service name
  refine hmethods.bind fun methods _ => ?_
  rw [hc]
  exact hdata.bind_pure _

/-- So it is with the methods that an oracle knows, if it answers. -/
theorem ask_body_settles {oracle : Oracle} (hkeyed : oracle.KeyedByName) (htotal : oracle.Total)
    {errors : Error → Prop} (htold : ∀ e, IsTold e → errors e) {P : String → Prop}
    (hhint : ∀ name, Settles errors (context.model.hint name) (P name))
    (service : ServiceName) (limit : Nat) (name stubName : String) (asked : Option String) :
    Settles errors (oracle.ask asked >>= resource.body oracle service limit name stubName)
      (declared.2.ActionsServed context.model ∧ declared.2.DataHas context.model P) := by
  obtain ⟨known, hk⟩ := htotal asked
  rw [hk, ok_bind]
  exact body_settles h htotal htold hhint service limit name stubName (hkeyed asked known hk)

end

variable (context : ServiceContext) {oracle : Oracle} (hkeyed : oracle.KeyedByName)
  (htotal : oracle.Total) (hacyclic : context.model.Acyclic)
include hkeyed htotal hacyclic

/-- The class of the service resource is made exactly if its definition is sound. -/
theorem rootClass_decides (service : ServiceName) (limit : Nat) :
    Decides (context.rootClass oracle service limit)
      (context.document.root.IsSound context.document.resources context.model) := by
  rw [ResourceDefinition.isSound_iff]
  refine (context.instantiate_decides context.root).bind fun root hroot => ?_
  exact ask_body_settles hroot hkeyed htotal (fun _ he => he) (ServiceModel.hint_decides hacyclic)
    service limit _ _ none

/-- The classes of the other resources are made exactly if their definitions are sound. -/
theorem resourceClasses_decides (service : ServiceName) (limit : Nat) :
    Decides (context.resourceClasses oracle service limit)
      (∀ declared ∈ context.document.resources.entries,
        declared.2.IsSound context.document.resources context.model) := by
  simp only [ResourceDefinition.isSound_iff, imp_and, forall_and]
  have hresolve := Settles.mapM fun declared (_ : declared ∈ context.document.resources.entries) =>
    context.instantiate_decides declared
  refine hresolve.bind fun resources hresources => ?_
  have hclasses := Settles.mapM_of_forall₂ (mapM_eq_ok.mp hresources)
    fun declared resource hresource =>
      ask_body_settles hresource hkeyed htotal (fun _ he => he)
        (ServiceModel.hint_decides hacyclic) service limit
        resource.type.nameInService resource.type.nameInService (some resource.type.nameInService)
  simp only [imp_and, forall_and] at hclasses
  exact hclasses

end ServiceContext

namespace Session.Has

variable {session : Session} {context : ServiceContext} (h : session.Has context)
  {service : ServiceName} (hname : context.serviceName = service.name) {oracle : Oracle}
  (hkeyed : oracle.KeyedByName) (htotal : oracle.Total) (hacyclic : context.model.Acyclic)
  (limit : Nat)
include h hname hkeyed htotal hacyclic

theorem stubs_of_root_unsound
    (hroot : ¬context.document.root.IsSound context.document.resources context.model) :
    ∃ detail : String, session.stubs oracle service limit = .error (.introspection detail) := by
  obtain ⟨_, hbody, detail, rfl⟩ :=
    (context.rootClass_decides hkeyed htotal hacyclic service limit).exists_error hroot
  exact ⟨detail, h.stubs_of_rootClass_error hname hbody⟩

variable (hroot : context.document.root.IsSound context.document.resources context.model)
include hroot

theorem stubs_of_name_ne (hmodel : context.model.serviceName ≠ service.name) :
    session.stubs oracle service limit =
      .error (.modelMismatch service.name context.model.serviceName) := by
  obtain ⟨body, hbody⟩ :=
    (context.rootClass_decides hkeyed htotal hacyclic service limit).exists_ok hroot
  exact h.stubs_of_rootClass_ok hname hbody hmodel

variable (hmodel : context.model.serviceName = service.name)
include hmodel

theorem stubs_of_unsound (hunsound : ¬∀ declared ∈ context.document.resources.entries,
      declared.2.IsSound context.document.resources context.model) :
    ∃ detail : String, session.stubs oracle service limit = .error (.introspection detail) := by
  obtain ⟨body, hbody⟩ :=
    (context.rootClass_decides hkeyed htotal hacyclic service limit).exists_ok hroot
  obtain ⟨_, hclasses, detail, rfl⟩ :=
    (context.resourceClasses_decides hkeyed htotal hacyclic service limit).exists_error hunsound
  rw [h.stubs hname, hbody, ok_bind, checkName_eq_ok_iff.mpr hmodel, ok_bind, hclasses]
  exact ⟨detail, rfl⟩

theorem stubs_of_sound (hsound : ∀ declared ∈ context.document.resources.entries,
      declared.2.IsSound context.document.resources context.model) :
    ∃ root, session.stubs oracle service limit = .ok (some root) := by
  obtain ⟨body, hbody⟩ :=
    (context.rootClass_decides hkeyed htotal hacyclic service limit).exists_ok hroot
  obtain ⟨classes, hclasses⟩ :=
    (context.resourceClasses_decides hkeyed htotal hacyclic service limit).exists_ok hsound
  rw [h.stubs hname, hbody, ok_bind, checkName_eq_ok_iff.mpr hmodel, ok_bind, hclasses]
  exact ⟨_, rfl⟩

end Session.Has

/-! ### A shop -/

namespace Shop

/-- Items have a name and tags. -/
def model : ServiceModel where
  serviceName := "shop"
  metadata := .empty
  operations := .ofList [("SellItem", ⟨none, none, none, none⟩)]
  shapes := .ofList [
    ("Item", .record (.ofList [("Name", ⟨"Text", none⟩), ("Tags", ⟨"Tags", none⟩)]) []),
    ("Tags", .list ⟨"Text", none⟩),
    ("Text", .string none)]
  documentation := none

/-- Items can be sold. -/
def item : ResourceDefinition :=
  { ResourceDefinition.empty with
    identifiers := [⟨"item_name", some "Name"⟩]
    shape := some "Item"
    actions := .ofList [("sell_item", ⟨some ⟨"SellItem", []⟩, none, none⟩)] }

/-- All items are in a collection. -/
def document : ResourceDocument where
  service := some { ResourceDefinition.empty with
    hasMany := .ofList [("all_items", ⟨none, some ⟨"Item", [], none⟩, none⟩)] }
  resources := .ofList [("Item", item)]

def store : MemoryStore := ⟨.ofList [("shop", ⟨model, some document, none⟩)]⟩

def service : ServiceName := .ofNames "shop" "Shop"

theorem holds_iff {outer inner : String} :
    model.Holds outer inner ↔ outer = "Tags" ∧ inner = "Text" := by
  constructor
  · intro h
    cases h with
    | member h | key h | value h =>
      rw [Dict.get?_eq_some_iff] at h
      revert h
      simp [model, Dict.ofList, Dict.insert, Dict.put, Dict.empty]
      try grind
  · rintro ⟨rfl, rfl⟩
    exact @ServiceModel.Holds.member model "Tags" ⟨"Text", none⟩ rfl

theorem acyclic : model.Acyclic := by
  intro name h
  obtain ⟨inner, hi, -⟩ := Relation.TransGen.head'_iff.mp h
  obtain ⟨outer, -, ho⟩ := Relation.TransGen.tail'_iff.mp h
  have := (holds_iff.mp hi).1.symm.trans (holds_iff.mp ho).2
  exact absurd this (by decide)

theorem maps_text : model.Maps "Text" :=
  .of_forall_holds (by decide) fun inner hi => absurd (holds_iff.mp hi).1 (by decide)

theorem item_isSound : item.IsSound document.resources model where
  collections := by
    intro declared hd
    simp [item, ResourceDefinition.empty, Dict.empty] at hd
  actions := by
    refine .of_forall_actions fun declared hd operation ho => ?_
    obtain rfl := List.mem_singleton.mp hd
    obtain rfl := Option.some.inj ho
    decide
  data := by
    rintro shape ⟨⟩
    refine ⟨_, _, rfl, fun member hm _ => ?_⟩
    rcases List.mem_pair.mp hm with rfl | rfl
    · exact maps_text
    · exact (ServiceModel.maps_list_iff rfl).mpr maps_text

theorem root_isSound : document.root.IsSound document.resources model where
  collections := by
    intro declared hd target ht
    obtain rfl := List.mem_singleton.mp hd
    obtain rfl := Option.some.inj ht
    decide
  actions := .of_forall_actions fun declared hd => (List.not_mem_nil hd).elim
  data := by
    rintro shape ⟨⟩

theorem store_has : store.session.Has ⟨"shop", document, model, none⟩ :=
  @MemoryStore.has store "shop" ⟨model, some document, none⟩ document rfl rfl rfl

theorem exists_stubs {oracle : Oracle} (hkeyed : oracle.KeyedByName) (htotal : oracle.Total)
    (limit : Nat) : ∃ root, store.session.stubs oracle service limit = .ok (some root) := by
  refine store_has.stubs_of_sound rfl hkeyed htotal acyclic limit root_isSound rfl ?_
  intro declared hd
  obtain rfl := List.mem_singleton.mp hd
  exact item_isSound

/-- The oracle over the documents of the shop. -/
def source : ShapeSource := ⟨"shop", model, document, none⟩

theorem total_source : source.oracle.Total := by
  rintro (_ | className)
  · exact ⟨_, rfl⟩
  · change ∃ methods, source.methodsOf className = .ok methods
    unfold ShapeSource.methodsOf
    split
    next definition hd =>
      obtain ⟨-, rfl⟩ := Prod.mk.inj (List.mem_singleton.mp (Dict.get?_eq_some_iff.mp hd))
      exact ⟨_, rfl⟩
    next =>
      split
      next name collection hc =>
        obtain ⟨-, rfl⟩ := Prod.mk.inj (List.mem_singleton.mp (List.mem_of_find?_eq_some hc))
        exact ⟨_, rfl⟩
      next => exact ⟨_, rfl⟩

end Shop

/-! ### Runs over a store -/

namespace MemoryStore

/-- How a run without any signatures ends. The classes are made exactly if the model is that of the
service and all definitions are sound. Otherwise the first thing that is wrong decides the error, of
the service resource, the name of the model and the other resources. -/
theorem stubs_outcome (store : MemoryStore) (service : ServiceName) (limit : Nat)
    {documents : ServiceDocuments} {document : ResourceDocument}
    (hregistered : store.services.get? service.name = some documents)
    (hdocument : documents.resources = some document) (hnonempty : document.isEmpty = false)
    (hacyclic : documents.model.Acyclic) :
    let outcome := store.session.stubs SignatureTable.empty.oracle service limit
    let Sound := fun definition : ResourceDefinition =>
      definition.IsSound document.resources documents.model
    ((∃ root, outcome = .ok (some root)) ↔
      documents.model.serviceName = service.name ∧
        Sound document.root ∧ ∀ declared ∈ document.resources.entries, Sound declared.2) ∧
    (¬Sound document.root → ∃ detail : String, outcome = .error (.introspection detail)) ∧
    (Sound document.root → documents.model.serviceName ≠ service.name →
      outcome = .error (.modelMismatch service.name documents.model.serviceName)) ∧
    (Sound document.root → documents.model.serviceName = service.name →
      (∃ declared ∈ document.resources.entries, ¬Sound declared.2) →
      ∃ detail : String, outcome = .error (.introspection detail)) := by
  intro outcome Sound
  have hhas := store.has hregistered hdocument hnonempty
  have hkeyed := SignatureTable.keyedByName_oracle .empty
  have htotal := SignatureTable.empty.total_oracle
  have hunsound := hhas.stubs_of_root_unsound rfl hkeyed htotal hacyclic limit
  have hmismatch := hhas.stubs_of_name_ne rfl hkeyed htotal hacyclic limit
  have hbelow := hhas.stubs_of_unsound rfl hkeyed htotal hacyclic limit
  have hsound := hhas.stubs_of_sound rfl hkeyed htotal hacyclic limit
  have hmade : (∃ root, outcome = .ok (some root)) → documents.model.serviceName = service.name ∧
      Sound document.root ∧ ∀ declared ∈ document.resources.entries, Sound declared.2 := by
    rintro ⟨root, hok⟩
    have hroot : Sound document.root := by
      by_contra hr
      obtain ⟨detail, he⟩ := hunsound hr
      cases hok.symm.trans he
    have hmodel : documents.model.serviceName = service.name := by
      by_contra hm
      cases hok.symm.trans (hmismatch hroot hm)
    refine ⟨hmodel, hroot, ?_⟩
    by_contra hb
    obtain ⟨detail, he⟩ := hbelow hroot hmodel hb
    cases hok.symm.trans he
  refine ⟨⟨hmade, fun ⟨hmodel, hroot, hall⟩ => hsound hroot hmodel hall⟩, hunsound, hmismatch, ?_⟩
  rintro hroot hmodel ⟨declared, hd, hs⟩
  exact hbelow hroot hmodel fun hall => hs (hall declared hd)

theorem exists_stubs_shop :
    ∃ root, Shop.store.session.stubs SignatureTable.empty.oracle Shop.service 120 =
      .ok (some root) := by
  refine (stubs_outcome Shop.store Shop.service 120 rfl rfl rfl Shop.acyclic).1.mpr
    ⟨rfl, Shop.root_isSound, fun declared hd => ?_⟩
  obtain rfl := List.mem_singleton.mp hd
  exact Shop.item_isSound

end MemoryStore

end ResourceStubs
