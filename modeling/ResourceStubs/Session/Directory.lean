import ResourceStubs.Files.Basic
import ResourceStubs.Session.Basic

/-! Sessions over a data directory. A document lies in `service/version/document`; of several
versions that have it the greatest counts, for each kind of document by itself. -/

namespace ResourceStubs

/-- A data directory of a file system. -/
structure DataDirectory where
  files : FileSystem
  root : String
  deriving Inhabited

namespace DataDirectory

/-- The file of a service model. -/
def serviceFile : String := "service-2.json"

/-- The file of a resource document. -/
def resourceFile : String := "resources-1.json"

/-- The file of a waiter model. -/
def waiterFile : String := "waiters-2.json"

/-- The versions that have a file, with its text. -/
def textsOf (file : String) (versions : List (String × FileNode)) : List (String × String) :=
  versions.filterMap fun (version, node) =>
    ((node.child? file).bind (·.text?)).map (version, ·)

/-- The later of a version and the latest before it. -/
def later (latest : Option (String × String)) (version : String × String) :
    Option (String × String) :=
  match latest with
  | none => some version
  | some before => if before.1 < version.1 then some version else some before

/-- The text of a file in the latest version that has it. -/
def latest? (file : String) (versions : List (String × FileNode)) : Option String :=
  ((textsOf file versions).foldl later none).map Prod.snd

variable (data : DataDirectory)

/-- The versions of a service. -/
def versions? (service : String) : Option (List (String × FileNode)) :=
  match data.files.nodeAt ((data.files.locate data.root).join service) with
  | .ok (.directory versions) => some versions
  | _ => none

/-- The text of a document of a service. -/
def document? (service file : String) : Option String :=
  (data.versions? service).bind (latest? file)

/-- The node is the directory of a service that has a service model. -/
def isService : FileNode → Bool
  | .directory versions => (latest? serviceFile versions).isSome
  | .file _ => false

/-- The services that have a service model, sorted. -/
def services : Except Error (List String) :=
  match data.files.list data.root with
  | .ok entries => .ok ((entries.filter (isService ·.2)).map Prod.fst).mergeSort
  | .error e => .error (.io e.text)

/-- The text of the service model of a service. -/
def serviceText (service : String) : Except Error String :=
  match data.document? service serviceFile with
  | some text => .ok text
  | none => .error (.serviceNotFound service)

/-- The session over the data directory. A directory without a service model is no service. -/
def session : Session where
  serviceModel service := do ServiceModel.read service (← data.serviceText service)
  resourceDocument service := do
    let _ ← data.serviceText service
    match data.document? service resourceFile with
    | some text => (ResourceDocument.read text).map some
    | none => .ok none
  waiterModel service := do
    let _ ← data.serviceText service
    match data.document? service waiterFile with
    | some text => WaiterModel.read text
    | none => .error (.unknownService service)

end DataDirectory

end ResourceStubs
