import ResourceStubs.Session.Basic

/-! Sessions over documents that are held in memory. -/

namespace ResourceStubs

/-- The documents of one service. -/
structure ServiceDocuments where
  model : ServiceModel
  resources : Option ResourceDocument
  waiters : Option WaiterModel
  deriving Inhabited

/-- Documents of services by name. -/
structure MemoryStore where
  services : Dict ServiceDocuments
  deriving Inhabited

/-- What may come of a text that may be missing. -/
def readOptional {α : Type} (read : String → Except Error α) :
    Option String → Except Error (Option α)
  | some text => (read text).map some
  | none => .ok none

/-- The documents in texts, read in the order service, resources, waiters. -/
def ServiceDocuments.read (name service : String) (resources waiters : Option String) :
    Except Error ServiceDocuments := do
  return {
    model := ← ServiceModel.read name service
    resources := ← readOptional ResourceDocument.read resources
    waiters := ← readOptional WaiterModel.read waiters }

namespace MemoryStore

/-- No services. -/
def empty : MemoryStore := ⟨Dict.empty⟩

/-- The store with the documents of one more service, which replace any it had. -/
def insert (store : MemoryStore) (name : String) (documents : ServiceDocuments) : MemoryStore :=
  ⟨store.services.insert name documents⟩

/-- The store with one more service, whose documents are read from texts. -/
def withService (store : MemoryStore) (name service : String)
    (resources waiters : Option String) : Except Error MemoryStore := do
  return store.insert name (← ServiceDocuments.read name service resources waiters)

/-- The documents of a service. -/
def documents (store : MemoryStore) (name : String) : Except Error ServiceDocuments :=
  match store.services.get? name with
  | some documents => .ok documents
  | none => .error (.serviceNotFound name)

/-- The session over the store. -/
def session (store : MemoryStore) : Session where
  resourceDocument name := (store.documents name).map (·.resources)
  serviceModel name := (store.documents name).map (·.model)
  waiterModel name := do
    match (← store.documents name).waiters with
    | some model => .ok model
    | none => .error (.unknownService name)

end MemoryStore

end ResourceStubs
