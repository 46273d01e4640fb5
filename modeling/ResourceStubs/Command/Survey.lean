import ResourceStubs.Command.Failure
import ResourceStubs.Files.Config
import ResourceStubs.Session.Directory

/-! What is found out about a data directory before anything is done with its services: the services
that are there, and a catalog that knows them and the configured ones. -/

namespace ResourceStubs.Command

/-- What is known before any service is handled. -/
structure Survey where
  config : Config
  session : Session
  discovered : List String
  catalog : Catalog

namespace Survey

/-- The class name for a service that nothing else names: its identifier without blanks and hyphens,
or its name in capitals if nothing is left of that. -/
def classNameOf (name : String) (model : ServiceModel) : String :=
  let identifier := (model.metadata.serviceId.getD "").toList.filter fun c => c ≠ ' ' ∧ c ≠ '-'
  if identifier.isEmpty then Naming.classPrefix (ServiceName.underscored name)
  else String.ofList identifier

/-- The catalog with one more service of the data directory, which keeps the name it has. -/
def register (session : Session) (catalog : Catalog) (name : String) : Except Failure Catalog :=
  if catalog.contains name then .ok catalog
  else
    match session.serviceModel name with
    | .ok model => .ok (catalog.add name (classNameOf name model))
    | .error e => .error (.model name e)

/-- The catalog of the known services, the configured ones, and those of the data directory. -/
def catalogOf (session : Session) (config : Config) (discovered : List String) :
    Except Failure Catalog :=
  discovered.foldlM (register session) (config.applyTo .defaults)

/-- The failure of a step, told as one of the run. -/
def orFail {α : Type} (failure : Error → Failure) : Except Error α → Except Failure α
  | .ok a => .ok a
  | .error e => .error (failure e)

/-- What is known of a data directory under the configuration in a file. -/
def take (files : FileSystem) (directory : String) (configFile : Option String) :
    Except Failure Survey := do
  let config ← orFail .config (Config.loadOrDefault files configFile)
  let data : DataDirectory := ⟨files, directory⟩
  let discovered ← orFail (.listing directory) data.services
  let catalog ← catalogOf data.session config discovered
  return ⟨config, data.session, discovered, catalog⟩

end Survey

end ResourceStubs.Command
