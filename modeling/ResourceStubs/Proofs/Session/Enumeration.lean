import ResourceStubs.Proofs.Session.Instances

/-! The resources below a service resource: one for each resource type that the document declares,
at the place of its declaration, and found there by its name. Each has as many placeholders as its
type has identifiers, so that the number of values is never what is wrong: what can go wrong is to
get the documents, that they are those of another service, and a collection of a type that is not
there. -/

namespace ResourceStubs

open Fallible

/-! ### Finding a resource by its name -/

section

variable {resources : List ResourceInstance}

/-- Among types with distinct names every resource is found at its place. -/
theorem findResource?_of_getElem? (hnames : (resources.map (·.type.name)).Nodup) {i : Nat}
    {resource : ResourceInstance} (h : resources[i]? = some resource) :
    findResource? resources resource.type.name = some (i, resource) := by
  obtain ⟨hi, rfl⟩ := List.getElem?_eq_some_iff.mp h
  have hfind : resources.zipIdx.find? (·.1.type.name == resources[i].type.name) =
      some (resources[i], i) := by
    refine List.find?_eq_some_iff_getElem.mpr
      ⟨by simp, i, by simpa using hi, by simp, fun j hj => ?_⟩
    -- a resource before it has another name
    have hlength : j < (resources.map (·.type.name)).length ∧
        i < (resources.map (·.type.name)).length := by simp; omega
    have hne := List.pairwise_iff_getElem.mp hnames j i hlength.1 hlength.2 hj
    simpa using hne
  rw [findResource?, hfind]
  rfl

theorem findResource?_eq_none_iff {name : String} :
    findResource? resources name = none ↔ name ∉ resources.map (·.type.name) := by
  rw [findResource?, Option.map_eq_none_iff, List.find?_eq_none]
  constructor
  · intro h hmem
    obtain ⟨resource, hresource, rfl⟩ := List.mem_map.mp hmem
    obtain ⟨i, hi, rfl⟩ := List.getElem_of_mem hresource
    exact h (resources[i], i) (List.mem_zipIdx_iff_getElem?.mpr (List.getElem?_eq_getElem hi))
      (by simp)
  · rintro h ⟨resource, i⟩ hmem hname
    have hresource := List.mem_of_getElem? (List.mem_zipIdx_iff_getElem?.mp hmem)
    exact h (List.mem_map.mpr ⟨resource, hresource, by simpa using hname⟩)

end

namespace Session

variable {session : Session} {service : ServiceName} {parent : ResourceInstance}

/-! ### One resource for each declaration -/

/-- The resource is that of a declared resource type of the document: it has the schema of the
declaration among all others, and a placeholder for each identifier that is declared. -/
structure Declares (document : ResourceDocument) (declared : String × ResourceDefinition)
    (resource : ResourceInstance) : Prop where
  name : resource.type.name = declared.1
  schema : Schema.resolve declared.1 declared.2 document.resources = .ok resource.schema
  document : resource.document = document
  values : resource.identifierValues =
    List.replicate declared.2.identifiers.length ResourceInstance.placeholder

/-- The resources are those that the document of their parent declares, each at the place of its
declaration. A name is found there, and no other name is found. -/
structure Enumerates (parent : ResourceInstance) (resources : List ResourceInstance) : Prop where
  declares : List.Forall₂ (Declares parent.document) parent.document.resources.entries resources
  find : ∀ i name, parent.document.resources.keys[i]? = some name →
    ∃ resource, resources[i]? = some resource ∧ findResource? resources name = some (i, resource)
  find_none : ∀ name, name ∉ parent.document.resources.keys → findResource? resources name = none

/-- A type has the identifiers of its definition, also where two of them have one name. -/
theorem length_identifiers_of_resolve {name : String} {definition : ResourceDefinition}
    {resources : Dict ResourceDefinition} {schema : Schema}
    (h : Schema.resolve name definition resources = .ok schema) :
    schema.identifiers.length = definition.identifiers.length := by
  obtain ⟨collections, -, rfl⟩ := Schema.resolve_eq_ok h
  exact List.length_map _

theorem declares_of_resolve {context : ServiceContext} {name : String}
    {definition : ResourceDefinition} {schema : Schema}
    (h : Schema.resolve name definition context.document.resources = .ok schema) (client : Client) :
    Declares context.document (name, definition) ⟨⟨name, schema, context⟩,
      ResourceInstance.placeholders schema.identifiers.length, client⟩ :=
  ⟨rfl, h, rfl, congrArg ResourceInstance.placeholders (length_identifiers_of_resolve h)⟩

/-- The service resource is the one that its document declares. -/
theorem declares_of_resource (h : session.resource service = .ok (some parent)) :
    session.resourceDocument service.name = .ok (some parent.document) ∧
      Declares parent.document (serviceResource, parent.document.root) parent := by
  obtain ⟨context, hhas, hname⟩ := exists_has_of_resource h
  rw [hhas.resource hname] at h
  obtain ⟨_, hr, heq⟩ := map_eq_ok.mp h
  obtain rfl := Option.some.inj heq
  obtain ⟨schema, hschema, rfl⟩ := map_eq_ok.mp hr
  exact ⟨hname ▸ hhas.document, declares_of_resolve hschema _⟩

theorem document_of_subResourceContext {context : ServiceContext}
    (h : session.subResourceContext service parent = .ok context) :
    context.document = parent.document := by
  obtain ⟨-, -, h⟩ := bind_eq_ok.mp h
  obtain ⟨-, -, h⟩ := bind_eq_ok.mp h
  obtain ⟨waiters, -, h⟩ := bind_eq_ok.mp h
  obtain rfl := pure_eq_ok.mp h
  rfl

theorem declares_of_subResource {context : ServiceContext} {declared : String × ResourceDefinition}
    {resource : ResourceInstance}
    (h : session.subResource service context declared = .ok resource) :
    Declares context.document declared resource := by
  obtain ⟨type, htype, h⟩ := bind_eq_ok.mp h
  obtain ⟨client, -, h⟩ := bind_eq_ok.mp h
  obtain ⟨schema, hschema, htype⟩ := bind_eq_ok.mp htype
  obtain rfl := pure_eq_ok.mp htype
  rw [ResourceInstance.ofPlaceholders_eq_ok] at h
  obtain rfl := Except.ok.inj h
  exact declares_of_resolve hschema client

theorem names_of_declares {document : ResourceDocument} {resources : List ResourceInstance}
    (h : List.Forall₂ (Declares document) document.resources.entries resources) :
    resources.map (·.type.name) = document.resources.keys :=
  (map_eq_map_of_forall₂ (h.imp fun _ _ hdeclares => hdeclares.name.symm)).symm

/-- Resources that stand at the places of distinct declarations are found by their names. -/
theorem enumerates_of_forall₂ {resources : List ResourceInstance}
    (h : List.Forall₂ (Declares parent.document) parent.document.resources.entries resources) :
    Enumerates parent resources := by
  have hnames := names_of_declares h
  refine ⟨h, fun i name hname => ?_, fun name hname => ?_⟩
  · rw [← hnames, List.getElem?_map] at hname
    obtain ⟨resource, hresource, rfl⟩ := Option.map_eq_some_iff.mp hname
    have hnodup := hnames.symm ▸ parent.document.resources.nodup_keys
    exact ⟨resource, hresource, findResource?_of_getElem? hnodup hresource⟩
  · exact findResource?_eq_none_iff.mpr (hnames.symm ▸ hname)

/-- A declared name is that of exactly one of the resources. -/
theorem Enumerates.existsUnique {resources : List ResourceInstance}
    (h : Enumerates parent resources) {name : String}
    (hname : name ∈ parent.document.resources.keys) :
    ∃! i : Nat, ∃ resource, resources[i]? = some resource ∧ resource.type.name = name := by
  have hget (i : Nat) : (∃ resource, resources[i]? = some resource ∧ resource.type.name = name) ↔
      parent.document.resources.keys[i]? = some name := by
    rw [← names_of_declares h.declares, List.getElem?_map, Option.map_eq_some_iff]
  simp only [hget]
  obtain ⟨i, hi⟩ := List.getElem?_of_mem hname
  have hlength := (List.getElem?_eq_some_iff.mp hi).1
  refine ⟨i, hi, fun j hj => ?_⟩
  exact ((List.getElem?_inj hlength parent.document.resources.nodup_keys).mp
    (hi.trans hj.symm)).symm

theorem enumerates_of_subResources {resources : List ResourceInstance}
    (h : session.subResources service parent = .ok resources) : Enumerates parent resources := by
  obtain ⟨context, hcontext, h⟩ := bind_eq_ok.mp h
  refine enumerates_of_forall₂ ((mapM_eq_ok.mp h).imp fun declared resource hresource => ?_)
  exact document_of_subResourceContext hcontext ▸ declares_of_subResource hresource

/-! ### What can go wrong -/

/-- Why there is no answer to the question for the service resource. -/
inductive ResourceFault (session : Session) (service : ServiceName) : Error → Prop
  | document {e : Error} : session.resourceDocument service.name = .error e →
    ResourceFault session service e
  | model {document : ResourceDocument} {e : Error} :
    session.resourceDocument service.name = .ok (some document) → document.isEmpty = false →
    session.serviceModel service.name = .error e → ResourceFault session service e
  | waiters {document : ResourceDocument} {model : ServiceModel} {e : Error} :
    session.resourceDocument service.name = .ok (some document) → document.isEmpty = false →
    session.serviceModel service.name = .ok model →
    session.waiterModel? service.name = .error e → ResourceFault session service e
  | definition {context : ServiceContext} {e : Error} :
    session.Has context → context.serviceName = service.name →
    Schema.resolve serviceResource context.document.root context.document.resources = .error e →
    ResourceFault session service e

theorem client_eq_error_iff {e : Error} :
    session.client service = .error e ↔ session.serviceModel service.name = .error e := by
  simp [client, bind_eq_error, pure, Except.pure]

theorem resource_eq_error_iff {e : Error} :
    session.resource service = .error e ↔ ResourceFault session service e := by
  constructor
  · intro hresource
    rcases bind_eq_error.mp hresource with hdocument | ⟨document?, hdocument, h⟩
    · exact .document hdocument
    · cases document? with
      | none => cases h
      | some document =>
        dsimp only at h
        split at h
        next => cases h
        next hnonempty =>
          have hnonempty : document.isEmpty = false := by simpa using hnonempty
          rcases bind_eq_error.mp h with hclient | ⟨client, hclient, h⟩
          · exact .model hdocument hnonempty (client_eq_error_iff.mp hclient)
          · obtain ⟨model, hmodel, -⟩ := bind_eq_ok.mp hclient
            rcases bind_eq_error.mp h with hwaiters | ⟨waiters, hwaiters, -⟩
            · exact .waiters hdocument hnonempty hmodel hwaiters
            · have hhas : session.Has ⟨service.name, document, model, waiters⟩ :=
                ⟨hdocument, hnonempty, hmodel, hwaiters⟩
              rw [hhas.resource rfl, map_eq_error] at hresource
              exact .definition hhas rfl (map_eq_error.mp hresource)
  · rintro (hdocument | ⟨hdocument, hnonempty, hmodel⟩ |
      ⟨hdocument, hnonempty, hmodel, hwaiters⟩ | ⟨hhas, hname, hschema⟩)
    · rw [resource, hdocument]
      rfl
    · rw [resource, hdocument, ok_bind, client_eq_error_iff.mpr hmodel]
      simp [hnonempty, bind, Except.bind]
    · rw [resource, hdocument, ok_bind, client, hmodel, ok_bind, hwaiters]
      simp [hnonempty, bind, Except.bind, pure, Except.pure]
    · rw [hhas.resource hname, map_eq_error]
      exact map_eq_error.mpr hschema

/-- Why there is no answer to the question for the resources below a service resource. -/
inductive SubResourcesFault (session : Session) (service : ServiceName)
    (parent : ResourceInstance) : Error → Prop
  | bound : parent.serviceName ≠ service.name →
    SubResourcesFault session service parent (.modelMismatch service.name parent.serviceName)
  | model : parent.serviceName = service.name → parent.client.model.serviceName ≠ service.name →
    SubResourcesFault session service parent
      (.modelMismatch service.name parent.client.model.serviceName)
  | waiters {e : Error} : parent.serviceName = service.name →
    parent.client.model.serviceName = service.name →
    session.waiterModel? service.name = .error e → SubResourcesFault session service parent e
  | definition {context : ServiceContext} {before after : List (String × ResourceDefinition)}
    {declared : String × ResourceDefinition} {e : Error} :
    session.subResourceContext service parent = .ok context →
    parent.document.resources.entries = before ++ declared :: after →
    (∃ made, before.mapM (session.subResource service context) = .ok made) →
    Schema.resolve declared.1 declared.2 parent.document.resources = .error e →
    SubResourcesFault session service parent e
  | client {context : ServiceContext} {before after : List (String × ResourceDefinition)}
    {declared : String × ResourceDefinition} {schema : Schema} {e : Error} :
    session.subResourceContext service parent = .ok context →
    parent.document.resources.entries = before ++ declared :: after →
    (∃ made, before.mapM (session.subResource service context) = .ok made) →
    Schema.resolve declared.1 declared.2 parent.document.resources = .ok schema →
    session.serviceModel service.name = .error e → SubResourcesFault session service parent e

/-- A resource type is resolved, and a client is made. With both there is a resource. -/
theorem subResource_eq_error_iff {context : ServiceContext}
    {declared : String × ResourceDefinition} {e : Error} :
    session.subResource service context declared = .error e ↔
      Schema.resolve declared.1 declared.2 context.document.resources = .error e ∨
      ∃ schema, Schema.resolve declared.1 declared.2 context.document.resources = .ok schema ∧
        session.serviceModel service.name = .error e := by
  rw [subResource, ResourceClass.ofDefinition]
  cases Schema.resolve declared.1 declared.2 context.document.resources with
  | error e' => simp [bind, Except.bind]
  | ok schema =>
    simp only [ok_bind, pure_bind, reduceCtorEq, false_or, Except.ok.injEq, exists_eq_left',
      ← client_eq_error_iff]
    cases session.client service with
    | error e' => simp [bind, Except.bind]
    | ok client => simp [ok_bind, ResourceInstance.ofPlaceholders_eq_ok]

theorem SubResourcesFault.of_context {e : Error}
    (h : session.subResourceContext service parent = .error e) :
    SubResourcesFault session service parent e := by
  rcases bind_eq_error.mp h with hbound | ⟨_, hbound, h⟩
  · obtain ⟨hname, rfl⟩ := checkName_eq_error_iff.mp hbound
    exact .bound hname
  · have hbound := checkName_eq_ok_iff.mp hbound
    rcases bind_eq_error.mp h with hmodel | ⟨_, hmodel, h⟩
    · obtain ⟨hname, rfl⟩ := checkName_eq_error_iff.mp hmodel
      exact .model hbound hname
    · have hmodel := checkName_eq_ok_iff.mp hmodel
      rcases bind_eq_error.mp h with hwaiters | ⟨waiters, -, h⟩
      · exact .waiters hbound hmodel hwaiters
      · cases h

theorem subResources_eq_error_iff {e : Error} :
    session.subResources service parent = .error e ↔
      SubResourcesFault session service parent e := by
  constructor
  · intro h
    rcases bind_eq_error.mp h with hcontext | ⟨context, hcontext, h⟩
    · exact .of_context hcontext
    · -- the first declaration that gives no resource decides
      obtain ⟨before, declared, after, hsplit, hmade, hdeclared⟩ := mapM_eq_error.mp h
      rw [subResource_eq_error_iff, document_of_subResourceContext hcontext] at hdeclared
      rcases hdeclared with hschema | ⟨schema, hschema, hclient⟩
      · exact .definition hcontext hsplit hmade hschema
      · exact .client hcontext hsplit hmade hschema hclient
  · have hstop {context : ServiceContext} {before after : List (String × ResourceDefinition)}
        {declared : String × ResourceDefinition}
        (hcontext : session.subResourceContext service parent = .ok context)
        (hsplit : parent.document.resources.entries = before ++ declared :: after)
        (hmade : ∃ made, before.mapM (session.subResource service context) = .ok made)
        (hdeclared : session.subResource service context declared = .error e) :
        session.subResources service parent = .error e := by
      rw [subResources, hcontext]
      exact mapM_eq_error.mpr ⟨before, declared, after, hsplit, hmade, hdeclared⟩
    rintro (hbound | ⟨hbound, hmodel⟩ | ⟨hbound, hmodel, hwaiters⟩ |
      ⟨hcontext, hsplit, hmade, hschema⟩ | ⟨hcontext, hsplit, hmade, hschema, hclient⟩)
    · rw [subResources, subResourceContext, checkName_eq_error_iff.mpr ⟨hbound, rfl⟩]
      rfl
    · rw [subResources, subResourceContext, checkName_eq_ok_iff.mpr hbound, ok_bind,
        checkName_eq_error_iff.mpr ⟨hmodel, rfl⟩]
      rfl
    · rw [subResources, subResourceContext, checkName_eq_ok_iff.mpr hbound, ok_bind,
        checkName_eq_ok_iff.mpr hmodel, ok_bind, hwaiters]
      rfl
    · rw [← document_of_subResourceContext hcontext] at hschema
      exact hstop hcontext hsplit hmade (subResource_eq_error_iff.mpr (.inl hschema))
    · rw [← document_of_subResourceContext hcontext] at hschema
      exact hstop hcontext hsplit hmade (subResource_eq_error_iff.mpr (.inr ⟨_, hschema, hclient⟩))

/-- The resources below a service resource are those that its document declares. Neither they nor
the service resource are ever missed for the number of identifier values: placeholders always fit
the type that they are made for, and what is wrong is one of the faults that are listed. -/
theorem subResources_enumerates (session : Session) (service : ServiceName) :
    (∀ parent resources, session.subResources service parent = .ok resources →
      Enumerates parent resources) ∧
    (∀ type client, ∃ resource, ResourceInstance.ofPlaceholders type client = .ok resource) ∧
    (∀ e, session.resource service = .error e ↔ ResourceFault session service e) ∧
    ∀ parent e, session.subResources service parent = .error e ↔
      SubResourcesFault session service parent e :=
  ⟨fun _ _ => enumerates_of_subResources,
    fun type client => ⟨_, ResourceInstance.ofPlaceholders_eq_ok type client⟩,
    fun _ => resource_eq_error_iff, fun _ _ => subResources_eq_error_iff⟩

end Session

/-! ### A toolbox -/

namespace Toolbox

def model : ServiceModel where
  serviceName := "toolbox"
  metadata := .empty
  operations := .empty
  shapes := .empty
  documentation := none

/-- Two identifiers of a bolt have one name, and a nut has none. -/
def document : ResourceDocument where
  service := none
  resources := .ofList [
    ("Bolt", { ResourceDefinition.empty with
      identifiers := [⟨"BoltId", none⟩, ⟨"bolt_id", none⟩] }),
    ("Nut", .empty)]

def store : MemoryStore := ⟨.ofList [("toolbox", ⟨model, some document, none⟩)]⟩

def service : ServiceName := .ofNames "toolbox" "Toolbox"

/-- Another service, which has no documents. -/
def saw : ServiceName := .ofNames "saw" "Saw"

theorem exists_subResources : ∃ parent resources,
    store.session.resource service = .ok (some parent) ∧ parent.document = document ∧
      store.session.subResources service parent = .ok resources ∧
      resources.map (·.identifierValues) = [["foo", "foo"], []] ∧
      store.session.subResources saw parent = .error (.modelMismatch "saw" "toolbox") :=
  ⟨_, _, rfl, rfl, rfl, rfl, rfl⟩

end Toolbox

namespace Session

/-- A bolt has two placeholders, and a nut has none and is found behind it. -/
theorem subResources_enumerates_toolbox : ∃ parent resources,
    Enumerates parent resources ∧ resources.map (·.identifierValues) = [["foo", "foo"], []] ∧
      (∃ nut, findResource? resources "Nut" = some (1, nut)) ∧
      ResourceFault Toolbox.store.session Toolbox.saw (.serviceNotFound "saw") ∧
      SubResourcesFault Toolbox.store.session Toolbox.saw parent
        (.modelMismatch "saw" "toolbox") := by
  obtain ⟨parent, resources, -, hdocument, hresources, hvalues, hsaw⟩ :=
    Toolbox.exists_subResources
  have henumerates :=
    (subResources_enumerates Toolbox.store.session Toolbox.service).1 _ _ hresources
  obtain ⟨-, -, hresource, hsubResources⟩ :=
    subResources_enumerates Toolbox.store.session Toolbox.saw
  obtain ⟨nut, -, hnut⟩ := henumerates.find 1 "Nut" (by rw [hdocument]; rfl)
  exact ⟨parent, resources, henumerates, hvalues, ⟨nut, hnut⟩, (hresource _).mp rfl,
    (hsubResources _ _).mp hsaw⟩

end Session

end ResourceStubs
