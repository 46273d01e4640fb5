import ResourceStubs.Proofs.Assembly.NeverFatal
import ResourceStubs.Session.Directory

/-! Sessions that read documents themselves. The model of a service gets the name that it is read
for, and it is only given out under that name: a data directory reads it when it is asked for, and a
store holds it under the name that it was registered with, also when a later registration replaced
an earlier one. Such a session raises no error that stops a run over several services. -/

namespace ResourceStubs

open Fallible

/-! ### Reading -/

theorem mild_readDocument {α : Type} (subject : String) (decode : Json → Option α)
    (text : String) : Mild (readDocument subject decode text) := by
  rw [readDocument]
  cases Json.read? text with
  | none => exact .error rfl
  | some json =>
    cases hdecode : decode json with
    | none =>
      simp only [hdecode]
      exact .error rfl
    | some document =>
      simp only [hdecode]
      exact .ok document

/-- The model of a service has the name of the service that it was read for. -/
theorem ServiceModel.serviceName_of_read {name text : String} {model : ServiceModel}
    (h : ServiceModel.read name text = .ok model) : model.serviceName = name := by
  rw [read, readDocument] at h
  cases hjson : Json.read? text with
  | none =>
    rw [hjson] at h
    cases h
  | some json =>
    simp only [hjson] at h
    cases hdecode : ofJson? name json with
    | none =>
      rw [hdecode] at h
      cases h
    | some model' =>
      rw [hdecode] at h
      obtain rfl := Except.ok.inj h
      simp only [ofJson?, Option.bind_eq_bind, Option.bind_eq_some_iff] at hdecode
      obtain ⟨fields, -, metadata, -, operations, -, shapes, -, documentation, -, hmodel⟩ := hdecode
      obtain rfl := Option.some.inj hmodel
      rfl

theorem DataDirectory.mild_serviceText (data : DataDirectory) (name : String) :
    Mild (data.serviceText name) := by
  rw [serviceText]
  split
  next text _ => exact .ok text
  next => exact .error rfl

/-- A session over a directory reads the documents of a service for the service. -/
theorem DataDirectory.ownDocuments (data : DataDirectory) (name : String) :
    data.session.OwnDocuments name where
  document := by
    refine (data.mild_serviceText name).bind fun _ _ => ?_
    split
    next text _ => exact (mild_readDocument _ _ text).map some
    next => exact .ok none
  model := (data.mild_serviceText name).bind fun text _ => mild_readDocument _ _ text
  waiters := by
    refine (data.mild_serviceText name).bind fun _ _ => ?_
    split
    next text _ => exact mild_readDocument _ _ text
    next => exact .error rfl
  serviceName := fun model h => by
    obtain ⟨text, -, hread⟩ := bind_eq_ok.mp h
    exact ServiceModel.serviceName_of_read hread

/-! ### Registering -/

/-- The store holds documents that were read from texts, each time for the name that they are held
under. -/
inductive MemoryStore.Registered : MemoryStore → Prop
  | empty : Registered empty
  | withService {store store' : MemoryStore} {name service : String}
    {resources waiters : Option String} : Registered store →
    store.withService name service resources waiters = .ok store' → Registered store'

namespace MemoryStore

variable {store : MemoryStore}

/-- One registration: the model of the service has its name, and the other services are as
before. -/
theorem withService_eq_ok {store' : MemoryStore} {name service : String}
    {resources waiters : Option String}
    (h : store.withService name service resources waiters = .ok store') :
    ∃ documents : ServiceDocuments, documents.model.serviceName = name ∧
      ∀ other, store'.services.get? other =
        if other = name then some documents else store.services.get? other := by
  obtain ⟨documents, hread, h⟩ := bind_eq_ok.mp h
  obtain rfl := pure_eq_ok.mp h
  obtain ⟨model, hmodel, hread⟩ := bind_eq_ok.mp hread
  obtain ⟨resourceDocument, -, hread⟩ := bind_eq_ok.mp hread
  obtain ⟨waiterModel, -, hread⟩ := bind_eq_ok.mp hread
  obtain rfl := pure_eq_ok.mp hread
  exact ⟨_, ServiceModel.serviceName_of_read hmodel, fun other => Dict.get?_insert _ _ _ _⟩

/-- Every model is held under its own name, whatever was registered and how often. -/
theorem Registered.serviceName_eq (h : store.Registered) {name : String}
    {documents : ServiceDocuments} (hheld : store.services.get? name = some documents) :
    documents.model.serviceName = name := by
  induction h with
  | empty =>
    rw [MemoryStore.empty, Dict.get?_empty] at hheld
    cases hheld
  | withService _ hstep ih =>
    obtain ⟨registered, hname, hget⟩ := withService_eq_ok hstep
    rw [hget] at hheld
    split at hheld
    next heq =>
      obtain rfl := Option.some.inj hheld
      rw [hname, heq]
    next => exact ih hheld

theorem mild_documents (store : MemoryStore) (name : String) :
    Mild (store.documents name) := by
  rw [MemoryStore.documents]
  split
  next documents _ => exact .ok documents
  next => exact .error rfl

/-- A session over such a store has the documents of a service for the service. -/
theorem Registered.ownDocuments (h : store.Registered) (name : String) :
    store.session.OwnDocuments name where
  document := (store.mild_documents name).map _
  model := (store.mild_documents name).map _
  waiters := by
    refine (store.mild_documents name).bind fun documents _ => ?_
    split
    next model _ => exact .ok model
    next => exact .error rfl
  serviceName := fun model hmodel => by
    obtain ⟨documents, hdocuments, rfl⟩ := map_eq_ok.mp hmodel
    rw [MemoryStore.documents] at hdocuments
    split at hdocuments
    next held hheld =>
      obtain rfl := Except.ok.inj hdocuments
      exact h.serviceName_eq hheld
    next => cases hdocuments

end MemoryStore

namespace Session

/-- The session reads documents from texts: over a data directory, or over a store that services
were registered in. -/
inductive ReadsTexts : Session → Prop
  | directory (data : DataDirectory) : ReadsTexts data.session
  | store {store : MemoryStore} : store.Registered → ReadsTexts store.session

theorem ReadsTexts.ownDocuments {session : Session} (h : session.ReadsTexts) (name : String) :
    session.OwnDocuments name := by
  cases h with
  | directory data => exact data.ownDocuments name
  | store hstore => exact hstore.ownDocuments name

variable {session earlier : Session} {service : ServiceName} {parent : ResourceInstance}

/-- A service resource is bound to the service that it was asked for, and so is its model. -/
theorem OwnDocuments.names_of_resource (h : earlier.OwnDocuments service.name)
    (hparent : earlier.resource service = .ok (some parent)) :
    parent.serviceName = service.name ∧ parent.client.model.serviceName = service.name := by
  obtain ⟨context, hhas, hname⟩ := exists_has_of_resource hparent
  rw [hhas.resource hname] at hparent
  obtain ⟨root, hroot, hsome⟩ := map_eq_ok.mp hparent
  obtain rfl := Option.some.inj hsome
  obtain ⟨schema, -, rfl⟩ := map_eq_ok.mp hroot
  exact ⟨hname, h.serviceName _ (hname ▸ hhas.model)⟩

/-- The resources below a service resource do not stop a run, even where the session has been filled
anew since the service resource was asked for. -/
theorem OwnDocuments.mild_subResources (h : session.OwnDocuments service.name)
    (hearlier : earlier.OwnDocuments service.name)
    (hparent : earlier.resource service = .ok (some parent)) :
    Mild (session.subResources service parent) := by
  obtain ⟨hbound, hmodel⟩ := hearlier.names_of_resource hparent
  -- both checks of names compare a name with itself
  have hcontext : Mild (session.subResourceContext service parent) := by
    rw [subResourceContext, checkName_eq_ok_iff.mpr hbound, ok_bind, checkName_eq_ok_iff.mpr hmodel,
      ok_bind]
    exact h.mild_waiterModel?.bind_pure _
  refine hcontext.bind fun context _ => .mapM fun declared _ => ?_
  have hresolve := declared.2.resolve_decides declared.1 context.document.resources
  refine ((hresolve.raisesOnly.mono fun _ => IsTold.isMild).bind_pure _).bind fun type _ => ?_
  refine (h.model.bind_pure _).bind fun client _ => ?_
  rw [ResourceInstance.ofPlaceholders_eq_ok]
  exact .ok _

end Session

end ResourceStubs
