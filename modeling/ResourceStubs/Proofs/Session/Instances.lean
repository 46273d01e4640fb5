import ResourceStubs.Assembly.Service
import ResourceStubs.Proofs.Schema.Resolve
import ResourceStubs.Session.Memory

/-! The resources of a service in terms of its documents. A session that has the documents of a
service makes each resource from its definition in their context, and the run that makes the stub
classes has three steps: the class of the service resource, the check of the name, and the classes
of the other resources. A session that gives a service resource has these documents. -/

namespace ResourceStubs

open Fallible

namespace ServiceContext

/-- The resource of a schema, with placeholders for its identifiers. -/
def instanceOf (context : ServiceContext) (name : String) (schema : Schema) : ResourceInstance where
  type := ⟨name, schema, context⟩
  identifierValues := ResourceInstance.placeholders schema.identifiers.length
  client := ⟨context.serviceName, context.model⟩

/-- The resource of a declared resource type. -/
def instantiate (context : ServiceContext) (declared : String × ResourceDefinition) :
    Except Error ResourceInstance :=
  (Schema.resolve declared.1 declared.2 context.document.resources).map
    (context.instanceOf declared.1)

/-- The resource type of the service resource. -/
def root (context : ServiceContext) : String × ResourceDefinition :=
  (Session.serviceResource, context.document.root)

/-- The class of the service resource. -/
def rootClass (context : ServiceContext) (oracle : Oracle) (service : ServiceName) (limit : Nat) :
    Except Error Resource :=
  context.instantiate context.root >>= Session.rootStub oracle service limit

/-- The classes of the other resources. -/
def resourceClasses (context : ServiceContext) (oracle : Oracle) (service : ServiceName)
    (limit : Nat) : Except Error (List Resource) := do
  let resources ← context.document.resources.entries.mapM context.instantiate
  resources.mapM fun resource => resource.toStub oracle service limit resource.type.nameInService

theorem instantiate_eq_ok {context : ServiceContext} {declared : String × ResourceDefinition}
    {resource : ResourceInstance} (h : context.instantiate declared = .ok resource) :
    ∃ collections, resource =
      context.instanceOf declared.1 { Schema.outline declared.1 declared.2 with collections } := by
  obtain ⟨schema, hs, rfl⟩ := map_eq_ok.mp h
  obtain ⟨collections, _, rfl⟩ := Schema.resolve_eq_ok hs
  exact ⟨collections, rfl⟩

/-- What holds of the class of each resource that is instantiated holds of the classes of the
declared resource types, one by one. -/
theorem forall₂_of_resourceClasses {context : ServiceContext} {oracle : Oracle}
    {service : ServiceName} {limit : Nat} {stubs : List Resource}
    {R : String × ResourceDefinition → Resource → Prop}
    (h : context.resourceClasses oracle service limit = .ok stubs)
    (hR : ∀ declared resource known stub, context.instantiate declared = .ok resource →
      oracle.ask (some resource.type.nameInService) = .ok known →
      resource.body oracle service limit resource.type.nameInService resource.type.nameInService
        known = .ok stub → R declared stub) :
    List.Forall₂ R context.document.resources.entries stubs := by
  obtain ⟨resources, hresources, h⟩ := bind_eq_ok.mp h
  refine forall₂_comp (fun declared resource stub hr hs => ?_) (mapM_eq_ok.mp hresources)
    (mapM_eq_ok.mp h)
  obtain ⟨known, hknown, hbody⟩ := bind_eq_ok.mp hs
  exact hR declared resource known stub hr hknown hbody

theorem instantiate_decides (context : ServiceContext) (declared : String × ResourceDefinition) :
    Decides (context.instantiate declared)
      (declared.2.CollectionsResolve context.document.resources) :=
  (ResourceDefinition.resolve_decides _ _ _).map _

end ServiceContext

namespace Session

/-- The session has the documents of the context, and they declare resource types. -/
structure Has (session : Session) (context : ServiceContext) : Prop where
  document : session.resourceDocument context.serviceName = .ok (some context.document)
  nonempty : context.document.isEmpty = false
  model : session.serviceModel context.serviceName = .ok context.model
  waiters : session.waiterModel? context.serviceName = .ok context.waiters

variable {session : Session} {context : ServiceContext} {service : ServiceName}

theorem Has.client (h : session.Has context) (hname : context.serviceName = service.name) :
    session.client service = .ok ⟨context.serviceName, context.model⟩ := by
  rw [Session.client, ← hname, h.model]
  rfl

theorem Has.resource (h : session.Has context) (hname : context.serviceName = service.name) :
    session.resource service = (context.instantiate context.root).map some := by
  rw [Session.resource, ← hname, h.document, ok_bind, h.client hname, h.waiters]
  simp only [h.nonempty, Bool.false_eq_true, if_false, ok_bind, ResourceClass.ofDefinition,
    ResourceInstance.ofPlaceholders_eq_ok, ServiceContext.instantiate, ServiceContext.root]
  cases Schema.resolve serviceResource context.document.root context.document.resources <;> rfl

theorem Has.subResource (h : session.Has context) (hname : context.serviceName = service.name)
    (declared : String × ResourceDefinition) :
    session.subResource service context declared = context.instantiate declared := by
  rw [Session.subResource, h.client hname]
  simp only [ok_bind, ResourceClass.ofDefinition, ResourceInstance.ofPlaceholders_eq_ok,
    ServiceContext.instantiate]
  cases Schema.resolve declared.1 declared.2 context.document.resources <;> rfl

theorem Has.subResources (h : session.Has context) (hname : context.serviceName = service.name)
    (name : String) (schema : Schema) :
    session.subResources service (context.instanceOf name schema) =
      (checkName service.name context.model.serviceName >>= fun _ =>
        context.document.resources.entries.mapM context.instantiate) := by
  have hcontext : session.subResourceContext service (context.instanceOf name schema) =
      (checkName service.name context.model.serviceName >>= fun _ => pure context) := by
    have hown : checkName service.name (context.instanceOf name schema).serviceName = .ok () :=
      checkName_eq_ok_iff.mpr hname
    rw [subResourceContext, hown, ok_bind, ← hname, h.waiters]
    rfl
  rw [Session.subResources, hcontext, bind_assoc]
  congr 1
  funext _
  rw [pure_bind]
  exact congrArg (List.mapM · _) (funext (h.subResource hname))

/-- The run over the documents of a service, step by step. -/
theorem Has.stubs (h : session.Has context) (hname : context.serviceName = service.name)
    (oracle : Oracle) (limit : Nat) :
    session.stubs oracle service limit = do
      let body ← context.rootClass oracle service limit
      checkName service.name context.model.serviceName
      let subResources ← context.resourceClasses oracle service limit
      return some (ServiceResource.ofResource body subResources) := by
  rw [Session.stubs, h.resource hname, ServiceContext.rootClass]
  cases hr : context.instantiate context.root with
  | error e => rfl
  | ok root =>
    obtain ⟨collections, rfl⟩ := ServiceContext.instantiate_eq_ok hr
    simp only [Except.map, ok_bind, ServiceContext.resourceClasses]
    rw [h.subResources hname]
    simp only [bind_assoc]

/-- The first thing that can go wrong is the class of the service resource. -/
theorem Has.stubs_of_rootClass_error (h : session.Has context)
    (hname : context.serviceName = service.name) {oracle : Oracle} {limit : Nat} {e : Error}
    (hbody : context.rootClass oracle service limit = .error e) :
    session.stubs oracle service limit = .error e := by
  rw [h.stubs hname, hbody]
  rfl

/-- The next is the name of the model. -/
theorem Has.stubs_of_rootClass_ok (h : session.Has context)
    (hname : context.serviceName = service.name) {oracle : Oracle} {limit : Nat} {body : Resource}
    (hbody : context.rootClass oracle service limit = .ok body)
    (hmodel : context.model.serviceName ≠ service.name) :
    session.stubs oracle service limit =
      .error (.modelMismatch service.name context.model.serviceName) := by
  rw [h.stubs hname, hbody, ok_bind, checkName_eq_error_iff.mpr ⟨hmodel, rfl⟩]
  rfl

/-- Where a session gives a service resource, it has the documents that the resource is made
from. -/
theorem exists_has_of_resource {root : ResourceInstance}
    (h : session.resource service = .ok (some root)) :
    ∃ context, session.Has context ∧ context.serviceName = service.name := by
  obtain ⟨document, hd, h⟩ := bind_eq_ok.mp h
  cases document with
  | none => cases h
  | some document =>
    dsimp only at h
    split at h
    next => cases h
    next hne =>
      obtain ⟨client, hc, h⟩ := bind_eq_ok.mp h
      obtain ⟨waiters, hw, h⟩ := bind_eq_ok.mp h
      obtain ⟨model, hm, _⟩ := bind_eq_ok.mp hc
      exact ⟨⟨service.name, document, model, waiters⟩, ⟨hd, by simpa using hne, hm, hw⟩, rfl⟩

/-- A run that gives stub classes has the documents of the service. -/
theorem exists_has_of_stubs {oracle : Oracle} {limit : Nat} {root : ServiceResource}
    (h : session.stubs oracle service limit = .ok (some root)) :
    ∃ context, session.Has context ∧ context.serviceName = service.name := by
  obtain ⟨resource, hr, h⟩ := bind_eq_ok.mp h
  cases resource with
  | none => cases h
  | some resource => exact exists_has_of_resource hr

/-- A run gives no stub classes exactly if there is no service resource. -/
theorem stubs_eq_none_iff {oracle : Oracle} {limit : Nat} :
    session.stubs oracle service limit = .ok none ↔ session.resource service = .ok none := by
  constructor
  · intro h
    obtain ⟨resource?, hr, h⟩ := bind_eq_ok.mp h
    cases resource? with
    | none => exact hr
    | some resource =>
      obtain ⟨body, -, h⟩ := bind_eq_ok.mp h
      obtain ⟨resources, -, h⟩ := bind_eq_ok.mp h
      obtain ⟨classes, -, h⟩ := bind_eq_ok.mp h
      cases h
  · intro h
    rw [stubs, h]
    rfl

/-- The steps of a run that gives stub classes. -/
theorem exists_steps_of_stubs {oracle : Oracle} {limit : Nat} {root : ServiceResource}
    (h : session.stubs oracle service limit = .ok (some root)) :
    ∃ context body classes, session.Has context ∧ context.serviceName = service.name ∧
      context.rootClass oracle service limit = .ok body ∧
      context.model.serviceName = service.name ∧
      context.resourceClasses oracle service limit = .ok classes ∧
      root = .ofResource body classes := by
  obtain ⟨context, hhas, hname⟩ := exists_has_of_stubs h
  rw [hhas.stubs hname] at h
  obtain ⟨body, hbody, h⟩ := bind_eq_ok.mp h
  obtain ⟨_, hcheck, h⟩ := bind_eq_ok.mp h
  obtain ⟨classes, hclasses, h⟩ := bind_eq_ok.mp h
  obtain rfl := Option.some.inj (pure_eq_ok.mp h)
  exact ⟨context, body, classes, hhas, hname, hbody, checkName_eq_ok_iff.mp hcheck, hclasses, rfl⟩

/-- The resources that a run makes classes of. -/
theorem exists_resources_of_stubs {oracle : Oracle} {limit : Nat} {root : ServiceResource}
    (h : session.stubs oracle service limit = .ok (some root)) :
    ∃ parent resources body, session.resource service = .ok (some parent) ∧
      session.subResources service parent = .ok resources ∧
      rootStub oracle service limit parent = .ok body ∧
      (resources.mapM fun resource =>
        resource.toStub oracle service limit resource.type.nameInService) = .ok root.subResources ∧
      root = .ofResource body root.subResources := by
  obtain ⟨parent?, hparent, h⟩ := bind_eq_ok.mp h
  cases parent? with
  | none => cases h
  | some parent =>
    obtain ⟨body, hbody, h⟩ := bind_eq_ok.mp h
    obtain ⟨resources, hresources, h⟩ := bind_eq_ok.mp h
    obtain ⟨classes, hclasses, h⟩ := bind_eq_ok.mp h
    obtain rfl := Option.some.inj (pure_eq_ok.mp h)
    exact ⟨parent, resources, body, hparent, hresources, hbody, hclasses, rfl⟩

end Session

/-- The documents of a service of a memory store. -/
theorem MemoryStore.has {store : MemoryStore} {name : String} {documents : ServiceDocuments}
    {document : ResourceDocument} (hs : store.services.get? name = some documents)
    (hd : documents.resources = some document) (hne : document.isEmpty = false) :
    store.session.Has ⟨name, document, documents.model, documents.waiters⟩ := by
  have hdoc : store.documents name = .ok documents := by simp [MemoryStore.documents, hs]
  refine ⟨?_, hne, ?_, ?_⟩
  · simp [session, hdoc, hd, Except.map]
  · simp [session, hdoc, Except.map]
  · simp only [Session.waiterModel?, session, hdoc, ok_bind]
    cases documents.waiters <;> rfl

end ResourceStubs
